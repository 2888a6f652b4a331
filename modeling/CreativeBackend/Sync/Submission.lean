import CreativeBackend.Sync.Entries

/-!
# A submission on its own

What `submitBatch` does where nobody else writes: it answers from a batch that is known,
refuses, or stores the batch, enters its operations, and stores what these came to.
-/

namespace CreativeBackend

open Relational Interaction

namespace Solo

open SyncService Ownership Resubmission

variable {rt : Runtime} {order : String → Bool} {s s' : SyncStore}
  {turns : List (Turn SyncResp Exn SyncStore)} {dto : SubmitSyncBatchDto}

/-! ## The statements of a submission -/

theorem ran_operationsByIds {ids : List String} {y : Except Exn (List SyncOperation)}
    (h : Ran rt (syncCall (.operationsByIds ids)) s turns y s') :
    s' = s ∧ turns = [⟨.operationsByIds ids, y, s⟩] ∧ ∃ rows, y = .ok rows ∧
      ∀ x, x ∈ rows ↔ x ∈ s.operations.rows ∧ ids.contains x.operationId = true := by
  obtain ⟨ho, rfl⟩ := ran_call h
  obtain ⟨ch, hm⟩ := machine_of_outcome ho not_false
  cases hm
  refine ⟨rfl, rfl, _, rfl, fun x => ?_⟩
  rw [SyncStore.operationsWhere, List.mem_insertionSort, List.mem_filter]

theorem ran_operationsOfBatch {id : Id} {y : Except Exn (List SyncOperation)}
    (h : Ran rt (syncCall (.operationsOfBatch id)) s turns y s') :
    s' = s ∧ turns = [⟨.operationsOfBatch id, y, s⟩] ∧ ∃ rows, y = .ok rows ∧
      ∀ x, x ∈ rows ↔ x ∈ s.operations.rows ∧ x.syncBatchId = id := by
  obtain ⟨ho, rfl⟩ := ran_call h
  obtain ⟨ch, hm⟩ := machine_of_outcome ho not_false
  cases hm
  refine ⟨rfl, rfl, _, rfl, fun x => ?_⟩
  rw [SyncStore.operationsWhere, List.mem_insertionSort, List.mem_filter, decide_eq_true_eq]

/-- A call that is about no operation. -/
def Neutral (c : SyncCall) : Prop := ∀ operationId id, ¬ Concerns operationId id c

theorem ran_readDuplicates {ids : List String} {y : Except Exn (List SyncOperation)}
    (h : Ran rt (readDuplicates ids) s turns y s') :
    s' = s ∧ (∀ turn ∈ turns, Neutral turn.call) ∧ ∃ rows, y = .ok rows ∧
      ∀ x, x ∈ rows ↔ x ∈ s.operations.rows ∧ ids.contains x.operationId = true := by
  unfold readDuplicates at h
  split at h
  · obtain ⟨rfl, rfl, hrows⟩ := ran_operationsByIds h
    exact ⟨rfl, by simp [Neutral, Concerns], hrows⟩
  · next hlen =>
      obtain ⟨rfl, rfl, rfl⟩ := ran_ret h
      have hnil : ids = [] := List.eq_nil_of_length_eq_zero (by omega)
      exact ⟨rfl, by simp, [], rfl, fun x => by simp [hnil]⟩

/-- Which operation ids are known. -/
theorem ran_findDuplicateOperationIds {y : Except Exn (List String)}
    (h : Ran rt (findDuplicateOperationIds (dto.operations.map (·.operationId))) s turns y s') :
    s' = s ∧ (∀ turn ∈ turns, Neutral turn.call) ∧ ∃ ids, y = .ok ids ∧
      (∀ operation ∈ dto.operations, ids.contains operation.operationId =
        s.operations.rows.any fun x => x.operationId = operation.operationId) ∧
      ∀ id ∈ ids, (∃ operation ∈ dto.operations, operation.operationId = id) ∧
        ∃ x ∈ s.operations.rows, x.operationId = id := by
  rcases ran_bind h with ⟨rows, s₁, first, second, hread, hret, rfl⟩ | ⟨e, herror, -⟩
  · obtain ⟨rfl, rfl, rows', hok, hrows⟩ := ran_operationsByIds hread
    cases hok
    obtain ⟨rfl, rfl, rfl⟩ := ran_ret hret
    refine ⟨rfl, by simp [Neutral, Concerns], _, rfl, ?_, ?_⟩
    · intro operation hop
      rw [Bool.eq_iff_iff, List.contains_iff_mem, List.mem_map, List.any_eq_true]
      constructor
      · rintro ⟨x, hx, hid⟩
        exact ⟨x, ((hrows x).mp hx).1, by simpa using hid⟩
      · rintro ⟨x, hx, hid⟩
        rw [decide_eq_true_eq] at hid
        refine ⟨x, (hrows x).mpr ⟨hx, ?_⟩, hid⟩
        rw [List.contains_iff_mem, hid]
        exact List.mem_map.mpr ⟨operation, hop, rfl⟩
    · intro id hid
      obtain ⟨x, hx, rfl⟩ := List.mem_map.mp hid
      obtain ⟨hmem, hasked⟩ := (hrows x).mp hx
      rw [List.contains_iff_mem] at hasked
      exact ⟨List.mem_map.mp hasked, x, hmem, rfl⟩
  · obtain ⟨-, -, rows, hok, -⟩ := ran_operationsByIds herror
    cases hok

/-- The checks leave everything alone. -/
theorem ran_ensureSubmittable {y : Except Exn Unit}
    (h : Ran rt (onScanStore (ensureSubmittable dto)) s turns y s') :
    s' = s ∧ ∀ turn ∈ turns, Neutral turn.call := by
  have houtside : (onScanStore (ensureSubmittable dto)).All
      fun c => ∃ c', c = .base c' ∧ c'.checks = true := by
    have hchecks := ensureSubmittable_checks dto
    generalize ensureSubmittable dto = p at hchecks
    induction p with
    | ret a => trivial
    | throw e => trivial
    | ask c k ih =>
        exact ⟨⟨c, rfl, hchecks.1⟩, fun r => ih r (hchecks.2 r)⟩
  refine ⟨?_, fun turn hturn => ?_⟩
  · refine (Service.Runs.invariant (I := fun s₁ => s₁ = s) ?_ ?_ houtside h rfl).1
    · rintro s₁ _ rfl rfl
      rfl
    · rintro c s₁ r s₂ ⟨c', rfl, hc⟩ rfl ho
      obtain ⟨ch, hm⟩ := machine_of_outcome ho not_false
      have hbase : (machine rt ch c' s₁.base).2 = s₁.base :=
        machine_reads rt ch (Call.reads_of_checks hc) s₁.base
      simp only [syncMachine, onBase, hbase] at hm
      exact (Prod.ext_iff.mp hm).2.symm
  · obtain ⟨c', hc, -⟩ := Service.Runs.all houtside h turn hturn
    rw [hc]
    exact fun _ _ h => h

/-- Every operation of a nested create has its row. -/
theorem row_of_createOperations {now : Time} {syncBatchId : Id}
    {operations : List SubmitSyncOperationDto} {t t' : Table SyncOperation}
    (h : SyncStore.createOperations now syncBatchId operations t = some t')
    {operation : SubmitSyncOperationDto} (hmem : operation ∈ operations) :
    ∃ x ∈ t'.rows, x.operationId = operation.operationId ∧ x.syncBatchId = syncBatchId := by
  induction operations generalizing t with
  | nil => cases hmem
  | cons head rest ih =>
      simp only [SyncStore.createOperations] at h
      split at h
      · cases h
      · next row t₁ hcreate =>
          rcases List.mem_cons.mp hmem with rfl | hmem
          · have hrow : row ∈ t₁.rows := (Table.mem_create hcreate).mpr (.inr rfl)
            refine ⟨row, SyncStore.mem_createOperations h hrow, ?_⟩
            rw [(Table.create_eq_some hcreate).1]
            exact ⟨rfl, rfl⟩
          · exact ih h hmem

/-- A batch is stored with its operations, or the statement fails. -/
theorem ran_batchCreate {operations : List SubmitSyncOperationDto} {n : Nat}
    {y : Except Exn SyncBatchView}
    (h : Ran rt (syncCall (.batchCreate dto operations n)) s turns y s') :
    (∀ turn ∈ turns, Neutral turn.call) ∧
      ((∃ ch e, y = .error e ∧ s.createBatch ch dto operations n = (.error e, s')) ∨
        ∃ view now, y = .ok view ∧ s'.base = s.base ∧ view.batch ∈ s'.batches.rows ∧
          view.batch.totalOperations = dto.operations.length ∧
          SyncStore.createOperations now view.batch.id operations s.operations =
            some s'.operations) := by
  obtain ⟨ho, rfl⟩ := ran_call h
  obtain ⟨ch, hm⟩ := machine_of_outcome ho not_false
  refine ⟨by simp [Neutral, Concerns], ?_⟩
  rcases SyncStore.createBatch_cases hm with
    ⟨e, rfl, rfl⟩ | ⟨row, batches, t, hb, ht, rfl, hbase, hbatches, hops⟩
  · exact .inl ⟨ch, e, rfl, hm⟩
  · refine .inr ⟨_, s.base.clock, rfl, hbase, hbatches ▸ (Table.mem_create hb).mpr (.inr rfl), ?_, ?_⟩
    · change row.totalOperations = _
      rw [(Table.create_eq_some hb).1]
      rfl
    · rw [hops]
      exact ht

/-- A stored batch can be updated. -/
theorem updateBatch_of_mem {f : SyncBatch → SyncBatch} {b : SyncBatch}
    (hb : b ∈ s.batches.rows) (hf : ∀ b, (f b).batchId = b.batchId) {ch : Choice}
    {y : Except Exn SyncBatchView} (h : s.updateBatch ch b.id f = (y, s')) :
    ∃ view, y = .ok view ∧ view.batch = withKey b.id (f b) ∧ view.batch ∈ s'.batches.rows ∧
      s'.operations = s.operations := by
  obtain ⟨view, s₁, hupdate, hview, hmem, ho⟩ := exists_updateBatch ch hb hf
  cases h.symm.trans hupdate
  exact ⟨view, rfl, hview, hmem, ho⟩

/-! ## The batch -/

/-- The store and the rows that the loop starts from. -/
structure Begun (s : SyncStore) (dto : SubmitSyncBatchDto) (batchId : Id) (rows : BatchRows)
    (s₁ : SyncStore) : Prop where
  created : ∃ now, SyncStore.createOperations now batchId (newOperations s dto) s.operations =
    some s₁.operations
  known : ∀ operation ∈ dto.operations,
    rows.duplicateOperationIds.contains operation.operationId =
      s.operations.rows.any fun x => x.operationId = operation.operationId
  ids : ∀ id ∈ rows.duplicateOperationIds,
    (∃ operation ∈ dto.operations, operation.operationId = id) ∧
      ∃ x ∈ s.operations.rows, x.operationId = id
  operations : ∀ x, x ∈ rows.operations ↔ x ∈ s₁.operations.rows ∧ x.syncBatchId = batchId
  existing : ∀ x, x ∈ rows.existing ↔
    x ∈ s₁.operations.rows ∧ rows.duplicateOperationIds.contains x.operationId = true

/-- A submission that returns: the loop runs between calls that are about no operation,
and the batch is written with its results. -/
def Completed (rt : Runtime) (order : String → Bool) (dto : SubmitSyncBatchDto) (s : SyncStore)
    (turns : List (Turn SyncResp Exn SyncStore)) (view : SyncBatchView) (s' : SyncStore) : Prop :=
  ∃ (b : SyncBatch) (rows : BatchRows) (s₁ s₂ : SyncStore) (results : List OperationResult)
    (last : LocalRegistrationMap) (before loop after : List (Turn SyncResp Exn SyncStore))
    (now : Time),
    Begun s dto b.id rows s₁ ∧ b.totalOperations = dto.operations.length ∧
    Entries rt order rows dto (sortOperations dto.operations) [] s₁ loop results last s₂ ∧
    turns = before ++ loop ++ after ∧ (∀ turn ∈ before ++ after, Neutral turn.call) ∧
    view.batch = withKey b.id (SyncStore.applyBatchPatch now (batchPatch results) b) ∧
    view.batch ∈ s'.batches.rows ∧ s'.operations = s₂.operations

/-- The update before the loop. -/
theorem ran_batchProcessing {b : SyncBatch} (hb : b ∈ s.batches.rows)
    {y : Except Exn SyncBatchView}
    (h : Ran rt (syncCall (.batchProcessing b.id)) s turns y s') :
    (∃ view, y = .ok view) ∧ withKey b.id { b with status := .PROCESSING } ∈ s'.batches.rows ∧
      s'.operations = s.operations ∧ ∀ turn ∈ turns, Neutral turn.call := by
  obtain ⟨ho, rfl⟩ := ran_call h
  obtain ⟨ch, hm⟩ := machine_of_outcome ho not_false
  obtain ⟨view, hok, hview, hmem, hops⟩ :=
    updateBatch_of_mem (f := fun b => { b with status := .PROCESSING }) hb (fun _ => rfl) hm
  exact ⟨⟨view, hok⟩, hview ▸ hmem, hops, by simp [Neutral, Concerns]⟩

/-- The update after the loop. -/
theorem ran_batchFinish {b : SyncBatch} (hb : b ∈ s.batches.rows) {p : BatchPatch}
    {y : Except Exn SyncBatchView}
    (h : Ran rt (syncCall (.batchFinish b.id p)) s turns y s') :
    ∃ view, y = .ok view ∧
      view.batch = withKey b.id (SyncStore.applyBatchPatch s.base.clock p b) ∧
      view.batch ∈ s'.batches.rows ∧ s'.operations = s.operations ∧
      ∀ turn ∈ turns, Neutral turn.call := by
  obtain ⟨ho, rfl⟩ := ran_call h
  obtain ⟨ch, hm⟩ := machine_of_outcome ho not_false
  obtain ⟨view, hok, hview, hmem, hops⟩ :=
    updateBatch_of_mem (f := SyncStore.applyBatchPatch s.base.clock p) hb (fun _ => rfl) hm
  exact ⟨view, hok, hview, hmem, hops, by simp [Neutral, Concerns]⟩

theorem Begun.named {batchId : Id} {rows : BatchRows} (h : Begun s dto batchId rows s') :
    Named rows s' := by
  intro x hx
  refine mem_names.mpr ⟨x, ?_, rfl, rfl⟩
  rcases List.mem_append.mp hx with hmem | hmem
  · exact ((h.operations x).mp hmem).1
  · exact ((h.existing x).mp hmem).1

/-- A row that is executed again, and whose input `toRecord` rejects. -/
def Broken (x : SyncOperation) : Prop :=
  x.status = .FAILED ∧ canRetryFailedOfflineOperation x = true ∧ ∃ e, toRecord x.input = .error e

/-- A broken row stops a batch that names its operation. -/
def Unreadable (s : SyncStore) (dto : SubmitSyncBatchDto) : Prop :=
  ∃ x ∈ s.operations.rows, (∃ operation ∈ dto.operations, operation.operationId = x.operationId) ∧
    Broken x

theorem ran_processBatch {s₀ : SyncStore} {b : SyncBatch} (hb : b ∈ s₀.batches.rows)
    (htotal : b.totalOperations = dto.operations.length) {now : Time}
    (hcreated : SyncStore.createOperations now b.id (newOperations s dto) s.operations =
      some s₀.operations) {ids : List String}
    (hids : ∀ operation ∈ dto.operations, ids.contains operation.operationId =
      s.operations.rows.any fun x => x.operationId = operation.operationId)
    (hold : ∀ id ∈ ids, (∃ operation ∈ dto.operations, operation.operationId = id) ∧
      ∃ x ∈ s.operations.rows, x.operationId = id) {y : Except Exn SyncBatchView}
    (h : Ran rt (processBatch rt order b.id dto ids) s₀ turns y s') :
    (∃ view, y = .ok view ∧ Completed rt order dto s turns view s') ∨
      ∃ e, y = .error e ∧ ∃ x ∈ s₀.operations.rows, ids.contains x.operationId = true ∧
        Broken x := by
  rcases ran_bind h with ⟨view₁, s₁, first, rest₁, hprocessing, h₁, rfl⟩ | ⟨e, herror, -⟩
  · obtain ⟨-, hb₁, ho₁, hfirst⟩ := ran_batchProcessing hb hprocessing
    rcases ran_bind h₁ with ⟨operations, s₂, second, rest₂, hread, h₂, rfl⟩ | ⟨e, herror, -⟩
    · obtain ⟨rfl, hsecond, operations', hok, hoperations⟩ := ran_operationsOfBatch hread
      cases hok
      rcases ran_bind h₂ with ⟨existing, s₃, third, rest₃, hread', h₃, rfl⟩ | ⟨e, herror, -⟩
      · obtain ⟨rfl, hthird, existing', hok, hexisting⟩ := ran_readDuplicates hread'
        cases hok
        have hbegun : Begun s dto b.id { duplicateOperationIds := ids, operations, existing } s₃ :=
          ⟨⟨now, ho₁ ▸ hcreated⟩, hids, hold, hoperations, hexisting⟩
        rcases ran_bind h₃ with ⟨results, s₄, loop, last, hloop, h₄, rfl⟩ | ⟨e, herror, rfl⟩
        · rcases ran_processEntries hbegun.named hloop with
            ⟨results', locals, hok, hentries⟩ | ⟨x, -, -, -, e, -, hbad⟩
          · cases hok
            have hb₄ := (hentries.about hbegun.named).batches ▸ hb₁
            obtain ⟨view, rfl, hview, hmem, ho₄, hlast⟩ := ran_batchFinish hb₄ h₄
            have hneutral : ∀ turn ∈ second, Neutral turn.call := by
              rw [hsecond]
              simp [Neutral, Concerns]
            refine .inl ⟨view, rfl, _, _, s₃, s₄, results, locals, first ++ (second ++ third), loop,
              last, _, hbegun, htotal, hentries, by simp only [List.append_assoc], ?_, hview, hmem,
              ho₄⟩
            simp only [List.forall_mem_append]
            exact ⟨⟨hfirst, hneutral, hthird⟩, hlast⟩
          · cases hbad
        · rcases ran_processEntries hbegun.named herror with
            ⟨results, locals, hok, -⟩ | ⟨x, hx, hfailed, hretry, e, hinput, -⟩
          · cases hok
          · obtain ⟨hmem, hdup⟩ := (hexisting x).mp hx
            exact .inr ⟨_, rfl, x, ho₁ ▸ hmem, hdup, hfailed, hretry, e, hinput⟩
      · obtain ⟨-, -, rows, hok, -⟩ := ran_readDuplicates herror
        cases hok
    · obtain ⟨-, -, rows, hok, -⟩ := ran_operationsOfBatch herror
      cases hok
  · obtain ⟨⟨view, hok⟩, -⟩ := ran_batchProcessing hb herror
    cases hok

/-- The calls before the batch was stored. -/
theorem Completed.after {view : SyncBatchView} {earlier : List (Turn SyncResp Exn SyncStore)}
    (h : Completed rt order dto s turns view s') (hearlier : ∀ turn ∈ earlier, Neutral turn.call) :
    Completed rt order dto s (earlier ++ turns) view s' := by
  obtain ⟨b, rows, s₁, s₂, results, last, before, loop, after, now, hbegun, htotal, hentries, rfl,
    hneutral, hview⟩ := h
  refine ⟨b, rows, s₁, s₂, results, last, earlier ++ before, loop, after, now, hbegun, htotal,
    hentries, by simp only [List.append_assoc], ?_, hview⟩
  simp only [List.forall_mem_append] at hneutral ⊢
  exact ⟨⟨hearlier, hneutral.1⟩, hneutral.2⟩

theorem unreadable_of_created {now : Time} {batchId : Id} {t : Table SyncOperation}
    (hcreated : SyncStore.createOperations now batchId (newOperations s dto) s.operations = some t)
    {ids : List String}
    (hold : ∀ id ∈ ids, (∃ operation ∈ dto.operations, operation.operationId = id) ∧
      ∃ x ∈ s.operations.rows, x.operationId = id)
    {x : SyncOperation} (hx : x ∈ t.rows) (hdup : ids.contains x.operationId = true)
    (hbad : Broken x) : Unreadable s dto := by
  obtain ⟨hnamed, z, hz, hop⟩ := hold _ (List.contains_iff_mem.mp hdup)
  have hzx : z = x := by
    apply t.eq_of_clash (SyncStore.mem_createOperations hcreated hz) hx
    simp [clash, hop]
  exact ⟨x, hzx ▸ hz, hnamed, hbad⟩

/-- How a submission goes. -/
inductive Submitted (rt : Runtime) (order : String → Bool) (dto : SubmitSyncBatchDto)
    (s : SyncStore) (turns : List (Turn SyncResp Exn SyncStore)) :
    Except Exn SubmitReply → SyncStore → Prop
  | known {view} (hb : ∃ b ∈ s.batches.rows, b.batchId = dto.batchId) :
      Submitted rt order dto s turns (.ok { duplicate := true, batch := view }) s
  | refused {e checks}
      (hran : Ran rt (onScanStore (ensureSubmittable dto)) s checks (.error e) s) :
      Submitted rt order dto s turns (.error e) s
  | notCreated {e ch n s'}
      (hcreate : s.createBatch ch dto (newOperations s dto) n = (.error e, s')) :
      Submitted rt order dto s turns (.error e) s'
  | unreadable {e s'} (hbad : Unreadable s dto) : Submitted rt order dto s turns (.error e) s'
  | completed {view s'} (hcompleted : Completed rt order dto s turns view s') :
      Submitted rt order dto s turns (.ok { duplicate := false, batch := view }) s'

theorem ran_submitBatch {y : Except Exn SubmitReply}
    (h : Ran rt (submitBatch rt order dto) s turns y s') :
    Submitted rt order dto s turns y s' := by
  rcases ran_bind h with ⟨found, s₁, first, rest₁, hfind, h₁, rfl⟩ | ⟨e, herror, -⟩
  · obtain ⟨ho, hfirst⟩ := ran_call hfind
    obtain ⟨ch, hm⟩ := machine_of_outcome ho not_false
    simp only [syncMachine, syncQuery, Prod.mk.injEq, Except.ok.injEq] at hm
    obtain ⟨hfound, rfl⟩ := hm
    cases found with
    | some view =>
        obtain ⟨rfl, rfl, rfl⟩ := ran_ret h₁
        obtain ⟨b, hb, -⟩ := Option.map_eq_some_iff.mp hfound
        exact .known ⟨b, List.mem_of_find?_eq_some hb, by simpa using List.find?_some hb⟩
    | none =>
        rcases ran_bind h₁ with ⟨_, s₂, second, rest₂, hchecks, h₂, rfl⟩ | ⟨e, herror, rfl⟩
        · obtain ⟨rfl, hsecond⟩ := ran_ensureSubmittable hchecks
          rcases ran_bind h₂ with ⟨ids, s₃, third, rest₃, hids, h₃, rfl⟩ | ⟨e, herror, -⟩
          · obtain ⟨rfl, hthird, ids', hok, hknown, hold⟩ := ran_findDuplicateOperationIds hids
            cases hok
            have hnew : (dto.operations.filter fun operation => !ids.contains operation.operationId) =
                newOperations s₃ dto :=
              List.filter_congr fun operation hop => by rw [hknown operation hop]
            rcases ran_bind h₃ with ⟨view, s₄, fourth, rest₄, hcreate, h₄, rfl⟩ | ⟨e, herror, rfl⟩
            · obtain ⟨hfourth, ⟨ch', e', he, -⟩ | ⟨view', now, hok, -, hb, htotal, hcreated⟩⟩ :=
                ran_batchCreate hcreate
              · cases he
              · cases hok
                rw [hnew] at hcreated
                rcases ran_bind h₄ with
                  ⟨processed, s₅, fifth, nothing, hprocess, hret, rfl⟩ | ⟨e, herror, rfl⟩
                · obtain ⟨rfl, rfl, rfl⟩ := ran_ret hret
                  rcases ran_processBatch hb htotal hcreated hknown hold hprocess with
                    ⟨view', hok, hcompleted⟩ | ⟨e, hbad, -⟩
                  · cases hok
                    rw [List.append_nil]
                    refine .completed ?_
                    have hearlier : ∀ turn ∈ first ++ (second ++ (third ++ fourth)),
                        Neutral turn.call := by
                      simp only [List.forall_mem_append]
                      exact ⟨by simp [hfirst, Neutral, Concerns], hsecond, hthird, hfourth⟩
                    simpa only [List.append_assoc] using hcompleted.after hearlier
                  · cases hbad
                · rcases ran_processBatch hb htotal hcreated hknown hold herror with
                    ⟨view', hok, -⟩ | ⟨e, -, x, hx, hdup, hbad⟩
                  · cases hok
                  · exact .unreadable (unreadable_of_created hcreated hold hx hdup hbad)
            · obtain ⟨-, ⟨ch', e', he, hfailed⟩ | ⟨view, now, hok, -⟩⟩ := ran_batchCreate herror
              · cases he
                rw [hnew] at hfailed
                exact .notCreated hfailed
              · cases hok
          · obtain ⟨-, -, ids, hok, -⟩ := ran_findDuplicateOperationIds herror
            cases hok
        · obtain ⟨rfl, -⟩ := ran_ensureSubmittable herror
          exact .refused herror
  · obtain ⟨ho, -⟩ := ran_call herror
    obtain ⟨ch, hm⟩ := machine_of_outcome ho not_false
    cases hm

end Solo

end CreativeBackend
