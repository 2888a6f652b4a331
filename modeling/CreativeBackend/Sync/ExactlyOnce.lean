import CreativeBackend.Sync.Ownership

/-!
# Exactly-once execution

Every run executes only operations that it holds: the new operations of its batch,
which nobody else can claim before their first end is written, and the failed ones
that it claimed. Hence an operation has one execution at a time, and none after it
was processed.
-/

namespace CreativeBackend

open Relational Interaction

namespace Ownership

variable {rt : Runtime} {order : String → Bool} {w : SyncWorld} {t : Nat}

/-! ## One operation -/

theorem Drops.since {id : Id} {a b c : SyncWorld} (h : Drops t id a b)
    (hs : (discipline rt).Since t b c) : Drops t id a c :=
  fun k hne hk => (holds_since hs).mpr (h k hne hk)

theorem HoldsOn.since {a b c : SyncWorld} (h : HoldsOn t a b) (hs : (discipline rt).Since t b c) :
    HoldsOn t a c :=
  fun k hk => (holds_since hs).mpr (h k hk)

theorem returns_failOperation {x : SyncOperation} (hi : Owned w) (hheld : Holds w t x.id)
    (error : Exn) :
    (discipline rt).Returns t (fun _ w' => Drops t x.id w w')
      (SyncService.failOperation x error) w := by
  refine Discipline.returns_bind (D := discipline rt) hi
    (P := fun _ w' => Drops t x.id w w') ?_ fun _ w₁ _ _ h₁ => ?_
  · refine Logic.Holds.mono (holds_write hheld) fun r w' _ h a ha => ?_
    subst ha
    exact h
  · exact Discipline.returns_ret_since fun w₂ hs => h₁.since hs

theorem returns_finishOperation {x : SyncOperation} (hi : Owned w) (hheld : Holds w t x.id)
    (result : Except Exn SyncOutput) :
    (discipline rt).Returns t (fun _ w' => Drops t x.id w w')
      (SyncService.finishOperation x result) w := by
  cases result with
  | error error => exact returns_failOperation hi hheld error
  | ok output =>
      have hbody : (discipline rt).logic.Holds t (Released t x.id w) (do
          let _ ← syncCall (.operationFinish x.id (.processed output))
          return { operationId := x.operationId, status := .PROCESSED, output : OperationResult }) w := by
        refine Discipline.holds_bind hi (holds_write hheld) ?_ fun _ _ _ _ h => h
        intro row w₁ _ _ h₁
        exact Logic.holds_ret fun w₂ hs _ => Drops.since h₁ hs
      refine Discipline.holds_tryCatch hi hbody ?_ ?_
      · intro a w₁ _ _ h₁ b hb
        exact h₁
      · intro error w₁ hi₁ _ h₁
        exact (returns_failOperation hi₁ (h₁ x.id hheld) error).mono
          fun _ _ h₂ => h₁.drops_trans h₂

theorem returns_processOperation {x : SyncOperation} (hi : Owned w) (hk : Known w.store x)
    (hheld : Holds w t x.id) {dto : SubmitSyncOperationDto} (hdto : dto.operationId = x.operationId)
    (batch : SubmitSyncBatchDto) (locals : LocalRegistrationMap) :
    (discipline rt).Returns t (fun _ w' => Drops t x.id w w')
      (SyncService.processOperation rt order x dto batch locals) w := by
  unfold SyncService.processOperation
  rw [hdto]
  refine Discipline.holds_bind hi (holds_inOperation hk hheld _) ?_ fun _ _ _ _ _ _ h => by cases h
  intro attempt w₁ hi₁ _ h₁
  refine Discipline.returns_bind (D := discipline rt) hi₁
    (returns_finishOperation hi₁ (h₁ x.id hheld) attempt.result) fun _ w₂ _ _ h₂ => ?_
  exact Discipline.returns_ret_since fun w₃ hs => (h₁.drops_trans h₂).since hs

/-- A call that thread `t` makes without an effect on what it holds. -/
theorem returns_neutral {c : SyncCall} (hc : Free c)
    (hn : ∀ x s s', SyncEffect s c x s' → Neutral c x s) :
    (discipline rt).Returns t (fun a w' => (discipline rt).Performed t w c (.ok a) w' ∧ HoldsOn t w w')
      (syncCall c) w := by
  refine (Discipline.returns_performed (keeps_free hc)).mono fun a w' h => ⟨h, fun k hk => ?_⟩
  obtain ⟨w₀, s₀, hs, -, -, ho, h₀⟩ := h
  rw [holds_since h₀, (hn _ _ _ (syncEffect_of_outcome ho)).holds_log, holds_since hs]
  exact hk

/-- The claim of a failed operation. -/
theorem returns_claim {id : Id} :
    (discipline rt).Returns t
      (fun count w' => HoldsOn t w w' ∧ (count = 1 → Holds w' t id))
      (syncCall (.operationClaim id)) w := by
  have hfree : Free (.operationClaim id) := trivial
  refine (Discipline.returns_performed (keeps_free hfree)).mono fun count w' h => ?_
  obtain ⟨s, hown⟩ := h.own
  have hafter : ∀ k, Holds w' t k ↔ k ∈ if count = 1 then id :: held (w.own t) else held (w.own t) :=
    fun k => by rw [Holds, hown]; rfl
  constructor
  · intro k hk
    rw [hafter]
    split
    · exact List.mem_cons_of_mem _ hk
    · exact hk
  · intro hcount
    rw [hafter, if_pos hcount]
    exact List.mem_cons_self

theorem returns_retryOperation {x : SyncOperation} (hi : Owned w) (hk : Known w.store x)
    (batch : SubmitSyncBatchDto) (locals : LocalRegistrationMap) :
    (discipline rt).Returns t (fun _ w' => Drops t x.id w w')
      (SyncService.retryOperation rt order x batch locals) w := by
  refine Discipline.returns_bind (D := discipline rt) hi returns_claim fun count w₁ hi₁ hl₁ h₁ => ?_
  obtain ⟨hon, hclaimed⟩ := h₁
  have hk₁ : Known w₁.store x := hk.later hl₁.1
  split
  · next hcount =>
      cases toRecord : SyncService.toRecord x.input with
      | error e => exact Discipline.returns_throw
      | ok payload =>
          simp only [Prog.ofExcept_ok, Prog.bind_eq, Prog.bind_ret]
          refine Discipline.returns_bind (D := discipline rt) hi₁
            (returns_processOperation hi₁ hk₁ (hclaimed hcount) rfl batch locals)
            fun _ w₂ _ _ h₂ => ?_
          exact Discipline.returns_ret_since fun w₃ hs => (hon.drops_trans h₂).since hs
  · exact Discipline.returns_ret_since fun w₂ hs => (hon.since hs).drops x.id

/-! ## The rounds of a batch -/

/-- Whatever thread `t` held, except the row of an operation id, it holds later. -/
def Spares (t : Nat) (operationId : String) (w w' : SyncWorld) : Prop :=
  ∀ y, Known w.store y → y.operationId ≠ operationId → Holds w t y.id → Holds w' t y.id

theorem Drops.spares {x : SyncOperation} {w' : SyncWorld} (h : Drops t x.id w w')
    (hk : Known w.store x) : Spares t x.operationId w w' :=
  fun y hy hne hheld => h y.id (fun hid => hne (hy.eq hk hid)) hheld

theorem HoldsOn.spares {w' : SyncWorld} (h : HoldsOn t w w') (operationId : String) :
    Spares t operationId w w' :=
  fun y _ _ hheld => h y.id hheld

theorem returns_idle {α : Type} (a : α) (operationId : String) :
    (discipline rt).Returns t (fun _ w' => Spares t operationId w w') (.ret a) w :=
  Discipline.returns_ret_since fun _ hs => (HoldsOn.since (fun _ h => h) hs).spares operationId

theorem returns_replayOperation (hi : Owned w) {dto : SubmitSyncOperationDto}
    {existing : Option SyncOperation}
    (hex : ∀ x, existing = some x → Known w.store x ∧ x.operationId = dto.operationId)
    (batch : SubmitSyncBatchDto) (locals : LocalRegistrationMap) :
    (discipline rt).Returns t (fun _ w' => Spares t dto.operationId w w')
      (SyncService.replayOperation rt order dto batch locals existing) w := by
  cases existing with
  | none => exact returns_idle _ _
  | some x =>
      obtain ⟨hk, hid⟩ := hex x rfl
      simp only [SyncService.replayOperation]
      split
      · exact returns_idle _ _
      · exact returns_idle _ _
      · split
        · refine Discipline.returns_bind (D := discipline rt) hi
            (returns_retryOperation hi hk batch locals) fun result w₁ _ _ h₁ => ?_
          have hspares : ∀ w₂, (discipline rt).Since t w₁ w₂ → Spares t dto.operationId w w₂ :=
            fun w₂ hs => hid ▸ (h₁.since hs).spares hk
          cases result with
          | none => exact Discipline.returns_ret_since hspares
          | some result => exact Discipline.returns_ret_since hspares
        · exact returns_idle _ _
      · exact returns_idle _ _
      · exact returns_idle _ _

theorem rowOf_eq_some {rows : List SyncOperation} {operationId : String} {x : SyncOperation}
    (h : SyncService.rowOf rows operationId = some x) : x ∈ rows ∧ x.operationId = operationId :=
  ⟨List.mem_of_find?_eq_some h, by simpa using List.find?_some h⟩

/-- The rows that a loop of `processBatch` works from are stored. -/
structure RowsKnown (s : SyncStore) (rows : SyncService.BatchRows) : Prop where
  operations : ∀ x ∈ rows.operations, Known s x
  existing : ∀ x ∈ rows.existing, Known s x

/-- The operations of the remaining rounds that are new are held, and none is twice there. -/
structure Ready (t : Nat) (rows : SyncService.BatchRows) (rest : List SubmitSyncOperationDto)
    (w : SyncWorld) : Prop where
  held : ∀ dto ∈ rest, rows.duplicateOperationIds.contains dto.operationId = false →
    ∀ x, SyncService.rowOf rows.operations dto.operationId = some x → Holds w t x.id
  distinct : rest.Pairwise fun a b =>
    rows.duplicateOperationIds.contains a.operationId = false → a.operationId ≠ b.operationId

theorem returns_processEntry (hi : Owned w) {rows : SyncService.BatchRows}
    (hrows : RowsKnown w.store rows) {dto : SubmitSyncOperationDto}
    {rest : List SubmitSyncOperationDto} (hready : Ready t rows (dto :: rest) w)
    (batch : SubmitSyncBatchDto) (locals : LocalRegistrationMap) :
    (discipline rt).Returns t (fun _ w' => Spares t dto.operationId w w')
      (SyncService.processEntry rt order rows batch dto locals) w := by
  unfold SyncService.processEntry
  split
  · refine Discipline.returns_bind (D := discipline rt) hi
      (returns_replayOperation hi (fun x hx => ?_) batch locals) fun _ w₁ _ _ h₁ => ?_
    · obtain ⟨hmem, hid⟩ := rowOf_eq_some hx
      exact ⟨hrows.existing x hmem, hid⟩
    · exact Discipline.returns_ret_since fun w₂ hs y hy hne hheld =>
        (holds_since hs).mpr (h₁ y hy hne hheld)
  · next hdup =>
      cases hrow : SyncService.rowOf rows.operations dto.operationId with
      | none => exact returns_idle _ _
      | some x =>
          obtain ⟨hmem, hid⟩ := rowOf_eq_some hrow
          have hk : Known w.store x := hrows.operations x hmem
          have hheld : Holds w t x.id :=
            hready.held dto List.mem_cons_self (by simpa using hdup) x hrow
          refine Discipline.returns_bind (D := discipline rt) hi
            (returns_processOperation hi hk hheld hid.symm batch locals) fun _ w₁ _ _ h₁ => ?_
          exact Discipline.returns_ret_since fun w₂ hs => hid ▸ (h₁.since hs).spares hk

/-- What one round leaves ready for the next. -/
theorem Ready.tail {rows : SyncService.BatchRows} {dto : SubmitSyncOperationDto}
    {rest : List SubmitSyncOperationDto} (h : Ready t rows (dto :: rest) w) {w' : SyncWorld}
    (hrows : RowsKnown w.store rows) (hs : Spares t dto.operationId w w') :
    Ready t rows rest w' where
  held other hother hdup x hx := by
    obtain ⟨hmem, hid⟩ := rowOf_eq_some hx
    refine hs x (hrows.operations x hmem) (fun heq => ?_)
      (h.held other (List.mem_cons_of_mem _ hother) hdup x hx)
    have heq' : dto.operationId = other.operationId := heq.symm.trans hid
    exact (List.pairwise_cons.mp h.distinct).1 other hother (by rw [heq']; exact hdup) heq'
  distinct := (List.pairwise_cons.mp h.distinct).2

theorem RowsKnown.later {s s' : SyncStore} {rows : SyncService.BatchRows} (h : RowsKnown s rows)
    (hl : SyncStore.Later s s') : RowsKnown s' rows :=
  ⟨fun x hx => (h.operations x hx).later hl, fun x hx => (h.existing x hx).later hl⟩

theorem safe_processEntries {rows : SyncService.BatchRows} (batch : SubmitSyncBatchDto)
    (rest : List SubmitSyncOperationDto) (locals : LocalRegistrationMap) (hi : Owned w)
    (hrows : RowsKnown w.store rows) (hready : Ready t rows rest w) :
    (discipline rt).logic.Safe t (SyncService.processEntries rt order rows batch rest locals) w := by
  induction rest generalizing w locals with
  | nil => exact fun _ _ _ => trivial
  | cons dto rest ih =>
      refine Discipline.safe_bind_returns hi (returns_processEntry hi hrows hready batch locals)
        fun result w₁ hi₁ hl₁ h₁ => ?_
      refine Discipline.safe_bind hi₁ ?_ fun _ _ _ _ _ _ _ => trivial
      exact ih result.2 hi₁ (hrows.later hl₁.1) (hready.tail hrows h₁)

/-! ## Submissions -/

/-- Thread `t` holds every operation of a stored batch. -/
structure BatchHeld (t : Nat) (id : Id) (w : SyncWorld) : Prop where
  stored : ∃ b ∈ w.store.batches.rows, b.id = id
  held : ∀ y ∈ w.store.operations.rows, y.syncBatchId = id → Holds w t y.id

/-- A batch gets no operations after its creation. -/
theorem BatchHeld.next {id : Id} {w' : SyncWorld} (h : BatchHeld t id w)
    (hl : SyncStore.Later w.store w'.store) (hon : HoldsOn t w w') : BatchHeld t id w' := by
  obtain ⟨b, hb, hid⟩ := h.stored
  obtain ⟨b', hb', hkey⟩ := hl.batchesKept b hb
  refine ⟨⟨b', hb', hkey.trans hid⟩, fun y hy hbatch => ?_⟩
  obtain ⟨z, hz, hzid⟩ := hl.closed y hy ⟨b, hb, hid.trans hbatch.symm⟩
  have hcore : SyncStore.operationIdentity z = SyncStore.operationIdentity y :=
    hl.operations.core_eq hz hy hzid
  have hzbatch : z.syncBatchId = id := (congrArg (·.2.1) hcore).trans hbatch
  exact hon y.id (hzid ▸ h.held z hz hzbatch)

theorem BatchHeld.since {id : Id} {w' : SyncWorld} (h : BatchHeld t id w)
    (hs : (discipline rt).Since t w w') : BatchHeld t id w' :=
  h.next hs.1 fun _ hk => (holds_since hs).mpr hk

/-- The operations of a new batch are held by the run that created it. -/
theorem returns_batchCreate {dto : SubmitSyncBatchDto} {operations : List SubmitSyncOperationDto}
    {n : Nat} :
    (discipline rt).Returns t
      (fun view w' => BatchHeld t view.batch.id w' ∧ (operations.map (·.operationId)).Nodup)
      (syncCall (.batchCreate dto operations n)) w := by
  have hfree : Free (.batchCreate dto operations n) := trivial
  refine (Discipline.returns_performed (keeps_free hfree)).mono fun view w' h => ?_
  obtain ⟨w₀, s₀, -, -, -, ho, h₀⟩ := h
  have heff := syncEffect_of_outcome ho
  generalize hx : (Except.ok view : Except Exn _) = x at heff
  cases heff with
  | read hc => cases hc
  | failed => cases hx
  | @create _ _ _ ch row batches table _ hc hn _ hb hops =>
      cases hx
      refine ⟨BatchHeld.since ⟨⟨row, ?_, rfl⟩, fun y hy hbatch => ?_⟩ h₀,
        (SyncStore.distinct_of_createOperations hn).1⟩
      · exact hb ▸ (Table.mem_create hc).mpr (.inr rfl)
      · rw [holds_log, if_pos rfl]
        refine List.mem_append_left _ (List.mem_map.mpr ⟨y, ?_, rfl⟩)
        simp only [SyncStore.view, SyncStore.operationsWhere, List.mem_insertionSort,
          List.mem_filter, decide_eq_true_eq]
        exact ⟨hy, hbatch⟩

/-- The rows that a query by operation ids answers are stored. -/
theorem returns_operationsByIds {operationIds : List String} :
    (discipline rt).Returns t
      (fun rows w' => (∀ x ∈ rows, Known w'.store x) ∧ HoldsOn t w w')
      (syncCall (.operationsByIds operationIds)) w := by
  refine (returns_neutral (c := .operationsByIds operationIds) trivial fun _ _ _ _ _ _ => rfl).mono
    fun rows w' h => ⟨fun x hx => ?_, h.2⟩
  obtain ⟨w₀, s₀, -, -, -, ho, h₀⟩ := h.1
  rcases ho with ⟨ch, ho⟩ | ⟨-, -, e, he⟩
  · cases ho
    simp only [SyncStore.operationsWhere, List.mem_insertionSort, List.mem_filter] at hx
    exact Known.later ⟨x, hx.1, rfl, rfl⟩ h₀.1
  · cases he

/-- The rows that a query by batch answers are stored, and are rows of the batch. -/
theorem returns_operationsOfBatch {id : Id} (hheld : BatchHeld t id w) :
    (discipline rt).Returns t
      (fun rows w' => (∀ x ∈ rows, Known w'.store x ∧ Holds w' t x.id) ∧ HoldsOn t w w')
      (syncCall (.operationsOfBatch id)) w := by
  refine (returns_neutral (c := .operationsOfBatch id) trivial fun _ _ _ _ _ _ => rfl).mono
    fun rows w' h => ⟨fun x hx => ?_, h.2⟩
  obtain ⟨w₀, s₀, hs, -, -, ho, h₀⟩ := h.1
  rcases ho with ⟨ch, ho⟩ | ⟨-, -, e, he⟩
  · cases ho
    simp only [SyncStore.operationsWhere, List.mem_insertionSort, List.mem_filter,
      decide_eq_true_eq] at hx
    refine ⟨Known.later ⟨x, hx.1, rfl, rfl⟩ h₀.1, (holds_since h₀).mpr ?_⟩
    rw [holds_log, if_pos rfl]
    exact (hheld.since hs).held x hx.1 hx.2
  · cases he

theorem returns_readDuplicates (duplicateOperationIds : List String) :
    (discipline rt).Returns t
      (fun rows w' => (∀ x ∈ rows, Known w'.store x) ∧ HoldsOn t w w')
      (SyncService.readDuplicates duplicateOperationIds) w := by
  unfold SyncService.readDuplicates
  split
  · exact returns_operationsByIds
  · refine Discipline.returns_ret_since fun w₁ hs => ⟨?_, HoldsOn.since (fun _ h => h) hs⟩
    intro x hx
    cases hx

/-- No new operation of a batch is there twice, in any order. -/
theorem distinct_sortOperations {duplicateOperationIds : List String}
    {operations : List SubmitSyncOperationDto}
    (h : ((operations.filter fun operation =>
      !duplicateOperationIds.contains operation.operationId).map (·.operationId)).Nodup) :
    (SyncService.sortOperations operations).Pairwise fun a b =>
      duplicateOperationIds.contains a.operationId = false → a.operationId ≠ b.operationId := by
  have hsymm : ∀ a b : SubmitSyncOperationDto,
      (duplicateOperationIds.contains a.operationId = false → a.operationId ≠ b.operationId) →
      duplicateOperationIds.contains b.operationId = false → b.operationId ≠ a.operationId := by
    intro a b hab hb heq
    exact hab (heq ▸ hb) heq.symm
  refine ((SyncService.sortOperations_perm operations).pairwise_iff (hsymm _ _)).mpr ?_
  rw [List.Nodup, List.pairwise_map, List.pairwise_filter] at h
  refine h.imp fun {a b} hab ha heq => hab (by simpa using ha) ?_ heq
  simpa [← heq] using ha

theorem safe_processBatch (hi : Owned w) {id : Id} (hheld : BatchHeld t id w)
    {dto : SubmitSyncBatchDto} {duplicateOperationIds : List String}
    (hnodup : ((dto.operations.filter fun operation =>
      !duplicateOperationIds.contains operation.operationId).map (·.operationId)).Nodup) :
    (discipline rt).logic.Safe t
      (SyncService.processBatch rt order id dto duplicateOperationIds) w := by
  refine Discipline.safe_bind_returns hi
    (returns_neutral (c := .batchProcessing id) trivial fun _ _ _ _ _ _ => rfl)
    fun _ w₁ hi₁ hl₁ h₁ => ?_
  refine Discipline.safe_bind_returns hi₁ (returns_operationsOfBatch (hheld.next hl₁.1 h₁.2))
    fun operations w₂ hi₂ hl₂ h₂ => ?_
  refine Discipline.safe_bind_returns hi₂ (returns_readDuplicates duplicateOperationIds)
    fun existing w₃ hi₃ hl₃ h₃ => ?_
  have hrows : RowsKnown w₃.store { duplicateOperationIds, operations, existing } :=
    ⟨fun x hx => (h₂.1 x hx).1.later hl₃.1, h₃.1⟩
  have hready : Ready t { duplicateOperationIds, operations, existing }
      (SyncService.sortOperations dto.operations) w₃ :=
    ⟨fun _ _ _ x hx => h₃.2 x.id (h₂.1 x (rowOf_eq_some hx).1).2, distinct_sortOperations hnodup⟩
  refine Discipline.safe_bind hi₃ (safe_processEntries dto _ [] hi₃ hrows hready)
    fun results w₄ hi₄ _ => ?_
  have hfree : Free (.batchFinish id (SyncService.batchPatch results)) := trivial
  exact (Discipline.holds_call (keeps_free hfree)).safe

theorem safe_onScanStore {α : Type} (p : Svc α) :
    (discipline rt).logic.Safe t (onScanStore p) w := by
  refine Discipline.safe_of_all (P := fun c => ∃ c', c = .base c') ?_ (onScanStore_all p) w
  rintro c ⟨c', rfl⟩ u v hi - x s' ho
  exact hi.log (syncEffect_of_outcome ho) (fun _ _ h => by cases h) fun _ _ h => by cases h

theorem safe_submitBatch (hi : Owned w) (dto : SubmitSyncBatchDto) :
    (discipline rt).logic.Safe t (SyncService.submitBatch rt order dto) w := by
  have hfind : Free (.batchByBatchId dto.batchId) := trivial
  refine Discipline.safe_call_bind hi (keeps_free hfind) fun found w₁ hi₁ _ _ => ?_
  cases found with
  | some existingBatch => exact fun _ _ _ => trivial
  | none =>
      refine Discipline.safe_bind hi₁ (safe_onScanStore _) fun _ w₂ hi₂ _ => ?_
      refine Discipline.safe_bind_returns (P := fun _ _ => True) hi₂ ?_ fun ids w₃ hi₃ _ _ => ?_
      · refine Discipline.returns_bind (D := discipline rt) hi₂ returns_operationsByIds ?_
        exact fun _ _ _ _ _ => Discipline.returns_ret fun _ _ => trivial
      · refine Discipline.safe_bind_returns hi₃ returns_batchCreate fun batch w₄ hi₄ _ h₄ => ?_
        refine Discipline.safe_bind hi₄ (safe_processBatch hi₄ h₄.1 h₄.2) fun _ _ _ _ => ?_
        exact fun _ _ _ => trivial

/-! ## Recoveries -/

theorem safe_recoverOperations (rows : List (SyncOperation × SyncBatch)) (hi : Owned w)
    (hrows : ∀ x ∈ rows, Known w.store x.1) :
    (discipline rt).logic.Safe t (SyncService.recoverOperations rt order rows) w := by
  induction rows generalizing w with
  | nil => exact fun _ _ _ => trivial
  | cons row rest ih =>
      have hk : Known w.store row.1 := hrows row List.mem_cons_self
      refine Discipline.safe_bind hi ?_ fun _ w₁ hi₁ hl₁ => ?_
      · refine Discipline.safe_bind hi (returns_retryOperation hi hk _ _).safe ?_
        intro result _ _ _
        cases result <;> exact fun _ _ _ => trivial
      · refine Discipline.safe_bind hi₁ (ih hi₁ fun x hx => ?_) fun _ _ _ _ _ _ _ => trivial
        exact (hrows x (List.mem_cons_of_mem _ hx)).later hl₁.1

theorem safe_recover (hi : Owned w) (input : RecoverInput) :
    (discipline rt).logic.Safe t
      (SyncService.recoverFailedOfflineRegistrations rt order input) w := by
  have hfree : ∀ limit, Free (.failedRegistrations input limit) := fun _ => trivial
  refine Discipline.safe_call_bind hi (keeps_free (hfree _)) fun rows w₁ hi₁ _ h₁ => ?_
  have hk : ∀ x ∈ rows, Known w₁.store x.1 := by
    intro x hx
    obtain ⟨w₀, s₀, -, -, -, ho, h₀⟩ := h₁
    rcases ho with ⟨ch, ho⟩ | ⟨-, -, e, he⟩
    · cases ho
      have hmem := List.mem_of_mem_filter (List.mem_of_mem_take hx)
      obtain ⟨y, hy, hjoin⟩ := List.mem_filterMap.mp hmem
      obtain ⟨b, -, rfl⟩ := Option.map_eq_some_iff.mp hjoin
      simp only [SyncStore.operationsWhere, List.mem_insertionSort, List.mem_filter] at hy
      exact Known.later ⟨y, hy.1, rfl, rfl⟩ h₀.1
    · cases he
  dsimp only
  split
  · exact fun _ _ _ => trivial
  · refine Discipline.safe_bind hi₁ (safe_recoverOperations _ hi₁ fun x hx => ?_) ?_
    · exact hk x (List.mem_of_mem_filter hx)
    · exact fun _ _ _ _ _ _ _ => trivial

theorem safe_run {p : SyncSvc Unit} (hp : SyncRun rt p) (hi : Owned w) :
    (discipline rt).logic.Safe t p w := by
  cases hp with
  | submitBatch order dto => exact Discipline.safe_void hi (safe_submitBatch hi dto)
  | recoverFailedOfflineRegistrations order input => exact Discipline.safe_void hi (safe_recover hi input)

theorem owned_init (s : SyncStore) : Owned ⟨s, []⟩ where
  pending _ _ h := by cases h
  single _ _ _ h := by cases h
  runs _ _ _ h := by simp at h
  kept _ h := by cases h

/-- The invariant holds in every run, from any store. -/
theorem owned_of_reach {s : SyncStore} {cfg : Config SyncResp Exn SyncWorld}
    (hr : (syncService rt).system.Reach (Service.init s) cfg) : Owned cfg.world := by
  rw [← System.restrict_true (syncService rt).system] at hr
  refine Discipline.inv_of_reach (D := discipline rt) ?_ (owned_init s) hr
  rintro t w p s' - hi ⟨hp, rfl⟩
  exact safe_run hp hi

/-- The next call of thread `t` is part of an execution of an operation. -/
def Running (cfg : Config SyncResp Exn SyncWorld) (t : Nat) (operationId : String) : Prop :=
  ∃ c k, cfg.pool[t]? = some (.ask (.run operationId c) k)

/-- Whoever executes an operation holds it. -/
theorem holdsOperation_of_running {s : SyncStore} {cfg : Config SyncResp Exn SyncWorld}
    (hr : (syncService rt).system.Reach (Service.init s) cfg) {operationId : String}
    (hrun : Running cfg t operationId) : HoldsOperation cfg.world t operationId := by
  obtain ⟨c, k, hpool⟩ := hrun
  obtain ⟨w, ps⟩ := cfg
  obtain ⟨answer, hanswer⟩ : ∃ answer, syncMachine rt {} (.run operationId c) w.store = answer :=
    ⟨_, rfl⟩
  have hstep : (syncService rt).system.Step ⟨w, ps⟩
      ⟨w.log t (.run operationId c) answer.1 answer.2, ps.set t (k answer.1)⟩ :=
    .call hpool ⟨rfl, .inl ⟨{}, hanswer⟩⟩
  exact (owned_of_reach (hr.tail hstep)).runs [] _ _ rfl operationId c rfl

/-- What is processed stays processed in every later store. -/
theorem keepsProcessed_of_reach {s : SyncStore} {cfg cfg' : Config SyncResp Exn SyncWorld}
    (hr : (syncService rt).system.Reach (Service.init s) cfg)
    (hr' : (syncService rt).system.Reach cfg cfg') :
    KeepsProcessed cfg.world.store cfg'.world.store := by
  induction hr' with
  | refl => exact .of_operations rfl
  | tail hmid hs ih =>
      refine ih.trans ?_
      have hi := owned_of_reach ((hr.trans hmid).tail hs)
      cases hs with
      | env h => exact .of_operations h.2.2
      | spawn h => exact .of_operations (congrArg SyncStore.operations h.2.2)
      | @call u u' ps t c k r _ h =>
          have hlogged : ⟨t, c, r, u.store⟩ ∈ u'.trace := h.1 ▸ List.mem_cons_self
          exact hi.kept _ hlogged

/-- A processed operation is held by nobody. -/
theorem not_running_of_processed {s : SyncStore} {cfg : Config SyncResp Exn SyncWorld}
    (hr : (syncService rt).system.Reach (Service.init s) cfg) {x : SyncOperation}
    (hx : x ∈ cfg.world.store.operations.rows) (hstatus : x.status = .PROCESSED) :
    ¬ Running cfg t x.operationId := by
  intro hrun
  obtain ⟨y, hy, hop, hheld⟩ := holdsOperation_of_running hr hrun
  have hxy : y = x := cfg.world.store.operations.eq_of_clash hy hx (by simp [clash, hop])
  subst hxy
  exact (owned_of_reach hr).held.not_failed hx (by simp [hstatus]) t hheld

end Ownership

open Ownership in
/-- In every run of submissions and recoveries, an operation has at most one execution
in progress, and one that is processed is never executed again and keeps its output. -/
theorem exactly_once {rt : Runtime} {s : SyncStore} {cfg : Config SyncResp Exn SyncWorld}
    (hr : (syncService rt).system.Reach (Service.init s) cfg) :
    (∀ t u operationId, Running cfg t operationId → Running cfg u operationId → t = u) ∧
      ∀ x ∈ cfg.world.store.operations.rows, x.status = .PROCESSED →
        ∀ cfg', (syncService rt).system.Reach cfg cfg' →
          (∀ t, ¬ Running cfg' t x.operationId) ∧ ∃ y ∈ cfg'.world.store.operations.rows,
            y.id = x.id ∧ y.operationId = x.operationId ∧ y.status = .PROCESSED ∧
              y.output = x.output := by
  constructor
  · intro t u operationId ht hu
    obtain ⟨x, hx, hxop, hxt⟩ := holdsOperation_of_running hr ht
    obtain ⟨y, hy, hyop, hyu⟩ := holdsOperation_of_running hr hu
    have hxy : x = y := cfg.world.store.operations.eq_of_clash hx hy (by simp [clash, hxop, hyop])
    exact (owned_of_reach hr).single t u x.id hxt (hxy ▸ hyu)
  · intro x hx hstatus cfg' hr'
    obtain ⟨y, hy, hid, hys, hout⟩ := keepsProcessed_of_reach hr hr' x hx hstatus
    have hlater : SyncStore.Later cfg.world.store cfg'.world.store := later_of_reach hr'
    have hcore := hlater.operations.core_eq hx hy hid.symm
    have hop : y.operationId = x.operationId := (congrArg Prod.fst hcore).symm
    refine ⟨fun t => ?_, y, hy, hid, hop, hys, hout⟩
    rw [← hop]
    exact not_running_of_processed (hr.trans hr') hy hys

namespace Ownership

/-- Two batches name one operation; the second is answered while the first executes it. -/
def overlappingBatches : List (syncService sampleRuntime).Action :=
  [submission (sampleBatch "batch-1" [sampleOperation "op-1"]),
    submission (sampleBatch "batch-2" [sampleOperation "op-1"])] ++
    syncSteps 0 8 ++ syncSteps 1 9 ++ syncSteps 0 3

end Ownership

open Ownership in
theorem exactly_once_of_overlapping_batches :
    ∃ cfg : Config SyncResp Exn SyncWorld, cfg.world.store.batches.rows.length = 2 ∧
      (∃ x ∈ cfg.world.store.operations.rows, x.operationId = "op-1" ∧ x.status = .PROCESSED) ∧
      (∀ t u operationId, Running cfg t operationId → Running cfg u operationId → t = u) ∧
        ∀ x ∈ cfg.world.store.operations.rows, x.status = .PROCESSED →
          ∀ cfg', (syncService sampleRuntime).system.Reach cfg cfg' →
            (∀ t, ¬ Running cfg' t x.operationId) ∧ ∃ y ∈ cfg'.world.store.operations.rows,
              y.id = x.id ∧ y.operationId = x.operationId ∧ y.status = .PROCESSED ∧
                y.output = x.output := by
  obtain ⟨cfg, hr, hdone⟩ := Service.exists_reach_of_perform (fun _ _ _ => True)
    overlappingBatches (Service.init sampleSyncStore)
    (fun s => s.batches.rows.length = 2 ∧
      s.operations.rows.any fun x => x.operationId = "op-1" ∧ x.status = .PROCESSED)
    (by simp [overlappingBatches]) (by decide +kernel)
  rw [System.restrict_true] at hr
  simp only [decide_eq_true_eq, List.any_eq_true] at hdone
  exact ⟨cfg, hdone.1, hdone.2, exactly_once hr⟩

/-- In every run, and from every store, batches and operations stay, with the columns of what was
submitted, and no operation is added to a batch that is stored. -/
theorem sync_journal_append_only {rt : Runtime} {cfg cfg' : Config SyncResp Exn SyncWorld}
    (hr : (syncService rt).system.Reach cfg cfg') :
    (∀ x ∈ cfg.world.store.operations.rows, ∃ y ∈ cfg'.world.store.operations.rows,
      y.id = x.id ∧ SyncStore.operationIdentity y = SyncStore.operationIdentity x) ∧
      (∀ b ∈ cfg.world.store.batches.rows,
        (∃ c ∈ cfg'.world.store.batches.rows, c.id = b.id ∧
          SyncStore.batchIdentity c = SyncStore.batchIdentity b) ∧
          ∀ y ∈ cfg'.world.store.operations.rows, y.syncBatchId = b.id →
            ∃ x ∈ cfg.world.store.operations.rows, x.id = y.id) := by
  have hlater : SyncStore.Later cfg.world.store cfg'.world.store := later_of_reach hr
  refine ⟨fun x hx => ?_, fun b hb => ⟨?_, fun y hy hyb => ?_⟩⟩
  · obtain ⟨y, hy, hyx⟩ := hlater.operationsKept x hx
    exact ⟨y, hy, hyx, (hlater.operations.core_eq hx hy hyx.symm).symm⟩
  · obtain ⟨c, hc, hcb⟩ := hlater.batchesKept b hb
    exact ⟨c, hc, hcb, (hlater.batches.core_eq hb hc hcb.symm).symm⟩
  · exact hlater.closed y hy ⟨b, hb, hyb.symm⟩

theorem sync_journal_of_overlapping_batches : ∃ cfg : Config SyncResp Exn SyncWorld,
    (∃ x ∈ cfg.world.store.operations.rows, x.operationId = "op-1") ∧
      ∀ cfg', (syncService sampleRuntime).system.Reach cfg cfg' →
        ∃ y ∈ cfg'.world.store.operations.rows, y.operationId = "op-1" := by
  obtain ⟨cfg, -, hdone⟩ := Service.exists_reach_of_perform (fun _ _ _ => True)
    Ownership.overlappingBatches (Service.init sampleSyncStore)
    (fun s => s.operations.rows.any fun x => x.operationId = "op-1")
    (by simp [Ownership.overlappingBatches]) (by decide +kernel)
  obtain ⟨x, hx, hop⟩ := List.any_eq_true.mp hdone
  have hop : x.operationId = "op-1" := by simpa using hop
  refine ⟨cfg, ⟨x, hx, hop⟩, fun cfg' hr => ?_⟩
  obtain ⟨y, hy, -, hcore⟩ := (sync_journal_append_only hr).1 x hx
  exact ⟨y, hy, (congrArg Prod.fst hcore).trans hop⟩

end CreativeBackend
