import CreativeBackend.Sync.ExactlyOnce
import CreativeBackend.Sync.Executions

/-!
# Resubmitting an operation

A process may stop at any point of a run; what it wrote stays. A later submission of
an operation in a new batch, on its own, is answered from the row of the operation, or
executes the operation again, unless the row is still pending.
-/

namespace CreativeBackend

open Relational Interaction

namespace Resubmission

open SyncService Ownership

variable {rt : Runtime} {order : String → Bool} {ch : Choice} {s s' : SyncStore}

/-! ## What the rows record -/

/-- What is recorded of an operation: its input, and how its last execution ended. -/
structure Recorded (x : SyncOperation) : Prop where
  input : ∃ payload, x.input = .obj payload
  outcome : x.status = .PENDING ∨ x.status = .PROCESSED ∧ x.output.isSome ∨
    x.status = .FAILED ∧ x.errorCode.isSome ∧ x.errorMessage.isSome

/-- Every row records its operation. -/
def AllRecorded (s : SyncStore) : Prop := ∀ x ∈ s.operations.rows, Recorded x

theorem recorded_createOperations {now : Time} {syncBatchId : Id}
    {operations : List SubmitSyncOperationDto} {t t' : Table SyncOperation}
    (h : SyncStore.createOperations now syncBatchId operations t = some t')
    (ht : ∀ x ∈ t.rows, Recorded x) : ∀ x ∈ t'.rows, Recorded x := by
  induction operations generalizing t with
  | nil =>
      cases h
      exact ht
  | cons operation rest ih =>
      simp only [SyncStore.createOperations] at h
      split at h
      · cases h
      · next row t₁ hcreate =>
          refine ih h fun x hx => ?_
          rcases (Table.mem_create hcreate).mp hx with hx | rfl
          · exact ht x hx
          · rw [(Table.create_eq_some hcreate).1]
            exact ⟨⟨operation.payload, rfl⟩, .inl rfl⟩

theorem recorded_update {id : Id} {f : SyncOperation → SyncOperation}
    (hf : ∀ x, Recorded x → Recorded (f x)) {row : SyncOperation} {t : Table SyncOperation}
    (hs : AllRecorded s) (hu : s.operations.update id f = .done row t)
    (ho : s'.operations = t) : AllRecorded s' := by
  intro x hx
  rcases (Table.mem_update hu).mp (ho ▸ hx) with ⟨hx, -⟩ | rfl
  · exact hs x hx
  · obtain ⟨old, hold, -, hrow, -, -⟩ := Table.update_eq_done hu
    rw [hrow]
    obtain ⟨hinput, houtcome⟩ := hf old (hs old hold)
    exact ⟨hinput, houtcome⟩

theorem AllRecorded.effect {c : SyncCall} {x : Except Exn (SyncResp c)} (hs : AllRecorded s)
    (h : SyncEffect s c x s') : AllRecorded s' := by
  have hsame : s'.operations = s.operations → AllRecorded s' := fun ho y hy => hs y (ho ▸ hy)
  cases h with
  | base _ _ ho => exact hsame ho
  | run _ _ ho => exact hsame ho
  | read => exact hs
  | failed => exact hs
  | create _ hn _ _ ho => exact fun y hy => recorded_createOperations hn hs y (ho ▸ hy)
  | processing _ _ _ ho => exact hsame ho
  | close _ _ _ ho => exact hsame ho
  | taken => exact hs
  | claim _ _ _ hu _ _ ho => exact recorded_update (f := SyncStore.claimedRow) (fun _ h => ⟨h.input, .inl rfl⟩) hs hu ho
  | @finish _ p _ _ _ hu _ _ ho =>
      refine recorded_update (fun _ h => ⟨?_, ?_⟩) hs hu ho
      · cases p <;> exact h.input
      · cases p with
        | processed => exact .inr (.inl ⟨rfl, rfl⟩)
        | failed => exact .inr (.inr ⟨rfl, rfl, rfl⟩)

theorem allRecorded_of_reach {cfg cfg' : Config SyncResp Exn SyncWorld}
    (h : AllRecorded cfg.world.store) (hr : (syncService rt).system.Reach cfg cfg') :
    AllRecorded cfg'.world.store := by
  rw [← System.restrict_true (syncService rt).system] at hr
  refine Service.store_inv_of_reach (syncService rt) ?_ ?_ ?_ h hr
  · exact fun c s r s' hs ho => hs.effect (syncEffect_of_outcome ho)
  · exact fun s s' hs he x hx => hs x (he.2 ▸ hx)
  · exact fun s p s' hs he => he.2 ▸ hs

/-! ## One execution on its own -/

/-- An execution never throws: what it throws is part of its outcome. -/
theorem yields_attempt {α : Type} (locals : LocalRegistrationMap) (p : Svc α) (b : Store) :
    (attempt locals p).Yields (machine rt ch) b fun _ _ => True :=
  Prog.yields_tryCatch (fun _ _ _ => trivial) fun _ _ _ => Prog.yields_ret trivial

theorem yields_attemptFrom {α : Type} (locals : LocalRegistrationMap) (p : Svc (Attempt α))
    (b : Store) : (attemptFrom locals p).Yields (machine rt ch) b fun _ _ => True :=
  Prog.yields_tryCatch (fun _ _ _ => trivial) fun _ _ _ => Prog.yields_ret trivial

theorem yields_runOperation (mappingFirst : Bool) (operation : SubmitSyncOperationDto)
    (batch : SubmitSyncBatchDto) (locals : LocalRegistrationMap) (b : Store) :
    (runOperation rt mappingFirst operation batch locals).Yields (machine rt ch) b
      fun _ _ => True := by
  unfold runOperation
  split
  · exact Prog.yields_bind (yields_attemptFrom _ _ _) fun _ _ _ => Prog.yields_ret trivial
  · exact yields_attempt _ _ _
  · exact yields_attempt _ _ _
  · exact yields_attempt _ _ _

/-- An execution changes only the scan store. -/
theorem yields_inOperation (operationId : String) (mappingFirst : Bool)
    (operation : SubmitSyncOperationDto) (batch : SubmitSyncBatchDto)
    (locals : LocalRegistrationMap) :
    (inOperation operationId (runOperation rt mappingFirst operation batch locals)).Yields
      (syncMachine rt ch) s fun _ s' => s'.batches = s.batches ∧ s'.operations = s.operations := by
  have hyields : (runOperation rt mappingFirst operation batch locals).Yields (machine rt ch)
      s.base fun _ _ => True := yields_runOperation _ _ _ _ _
  obtain ⟨a, b, hrun, -⟩ := hyields
  exact ⟨a, { s with base := b }, by rw [run_inOperation, hrun]; rfl, rfl, rfl⟩

/-- The row under a key is not pending. -/
def Ended (id : Id) (s : SyncStore) : Prop :=
  ∃ z ∈ s.operations.rows, z.id = id ∧ z.status ≠ .PENDING

/-- The row under a key was written, and its last execution has ended. -/
structure Finished (id : Id) (s s' : SyncStore) : Prop where
  batches : s'.batches = s.batches
  others : ∀ z ∈ s.operations.rows, z.id ≠ id → z ∈ s'.operations.rows
  ended : Ended id s'

theorem yields_finish {x : SyncOperation} (hx : x ∈ s.operations.rows) (p : OperationPatch) :
    (syncCall (.operationFinish x.id p)).Yields (syncMachine rt ch) s
      fun _ s' => Finished x.id s s' := by
  obtain ⟨t, hu⟩ := Table.exists_update hx
    (f := fun x => SyncStore.applyOperationPatch s.base.clock x p)
    fun b _ => ⟨by cases p <;> rfl, by cases p <;> rfl⟩
  have hstatus : (SyncStore.applyOperationPatch s.base.clock x p).status ≠ .PENDING := by
    cases p <;> simp [SyncStore.applyOperationPatch]
  cases hrun : syncMachine rt ch (.operationFinish x.id p) s with
  | mk r s' =>
      rcases SyncStore.finishOperation_cases hrun with ⟨e, rfl, -⟩ | ⟨row, t', hu', rfl, -, hb, ho⟩
      · simp only [syncMachine, SyncStore.finishOperation] at hrun
        split at hrun <;> simp_all
      · refine Prog.yields_call hrun ⟨hb, fun z hz hne => ?_, row, ?_, ?_, ?_⟩
        · exact ho ▸ (Table.mem_update hu').mpr (.inl ⟨hz, hne⟩)
        · exact ho ▸ (Table.mem_update hu').mpr (.inr rfl)
        · rw [key_syncOperation, hu'] at hu
          cases hu
          rfl
        · rw [key_syncOperation, hu'] at hu
          cases hu
          exact hstatus

/-- What an execution of an operation answers. -/
def Executed (x : SyncOperation) (result : OperationResult) : Prop :=
  result.operationId = x.operationId ∧ (result.status = .PROCESSED ∨ result.status = .FAILED)

theorem yields_finishOperation {x : SyncOperation} (hk : Known s x)
    (outcome : Except Exn SyncOutput) :
    (finishOperation x outcome).Yields (syncMachine rt ch) s
      fun result s' => Executed x result ∧ result.retried = false ∧ Finished x.id s s' := by
  obtain ⟨z, hz, hid, -⟩ := hk
  rw [← hid]
  have hwrite : ∀ p, (syncCall (.operationFinish x.id p)).Yields (syncMachine rt ch) s
      fun _ s' => Finished z.id s s' := by
    intro p
    rw [← hid]
    exact yields_finish hz p
  cases outcome with
  | error error =>
      refine Prog.yields_bind (hwrite _) fun _ s₁ h₁ => Prog.yields_ret ?_
      exact ⟨⟨rfl, .inr rfl⟩, rfl, h₁⟩
  | ok output =>
      refine Prog.Yields.tryCatch (Prog.yields_bind (hwrite _) fun _ s₁ h₁ => Prog.yields_ret ?_)
      exact ⟨⟨rfl, .inl rfl⟩, rfl, h₁⟩

theorem Known.of_operations {x : SyncOperation} (hk : Known s x)
    (ho : s'.operations = s.operations) : Known s' x := by
  obtain ⟨z, hz, hid, hop⟩ := hk
  exact ⟨z, ho ▸ hz, hid, hop⟩

/-- What the scan store holds does not matter to the sync tables. -/
theorem Finished.of_tables {id : Id} {s₁ : SyncStore} (h : Finished id s₁ s')
    (hb : s₁.batches = s.batches) (ho : s₁.operations = s.operations) : Finished id s s' :=
  ⟨h.batches.trans hb, fun z hz => h.others z (ho ▸ hz), h.ended⟩

theorem yields_processOperation {x : SyncOperation} (hk : Known s x)
    (dto : SubmitSyncOperationDto) (batch : SubmitSyncBatchDto) (locals : LocalRegistrationMap) :
    (processOperation rt order x dto batch locals).Yields (syncMachine rt ch) s
      fun r s' => Executed x r.1 ∧ r.1.retried = false ∧ Finished x.id s s' := by
  refine Prog.yields_bind (yields_inOperation _ _ _ _ _) fun attempt s₁ h₁ => ?_
  refine Prog.yields_bind (yields_finishOperation (Known.of_operations hk h₁.2) _)
    fun result s₂ h₂ => Prog.yields_ret ?_
  exact ⟨h₂.1, h₂.2.1, h₂.2.2.of_tables h₁.1 h₁.2⟩

/-! ## Retries -/

/-- A failed operation can be claimed. -/
theorem yields_claim_failed {x : SyncOperation} (hx : x ∈ s.operations.rows)
    (hstatus : x.status = .FAILED) :
    (syncCall (.operationClaim x.id)).Yields (syncMachine rt ch) s fun count s' =>
      count = 1 ∧ s'.batches = s.batches ∧ ∃ row t,
        s.operations.update x.id SyncStore.claimedRow = .done row t ∧ s'.operations = t := by
  obtain ⟨t, hu⟩ := Table.exists_update hx (f := SyncStore.claimedRow) fun b _ => ⟨rfl, rfl⟩
  have hfind : s.operations.find? x.id = some x := Table.find?_eq_some_iff.mpr ⟨hx, rfl⟩
  obtain ⟨s', hclaim⟩ : ∃ s', s.claimOperation x.id = (.ok 1, s') := by
    unfold SyncStore.claimOperation
    simp only [hfind, hstatus, if_true]
    split
    · simp_all
    · simp_all
    · exact ⟨_, rfl⟩
  rcases SyncStore.claimOperation_cases hclaim with
    ⟨⟨e, he⟩ | he, -⟩ | ⟨y, row, t', -, -, -, hu', -, -, hb, ho⟩
  · cases he
  · cases he
  · exact Prog.yields_call hclaim ⟨rfl, hb, row, t', hu', ho⟩

/-- No other operation can be claimed. -/
theorem yields_claim_other {id : Id}
    (h : ∀ z ∈ s.operations.rows, z.id = id → z.status ≠ .FAILED) :
    (syncCall (.operationClaim id)).Yields (syncMachine rt ch) s fun count s' =>
      count = 0 ∧ s' = s := by
  have hclaim : s.claimOperation id = (.ok 0, s) := by
    unfold SyncStore.claimOperation
    split
    · rfl
    · next x hx =>
        obtain ⟨hmem, hid⟩ := Table.find?_eq_some_iff.mp hx
        rw [if_neg (h x hmem hid)]
  exact Prog.yields_call hclaim ⟨rfl, rfl⟩

/-- A retry on its own: it executes a failed operation, and leaves others alone. -/
theorem yields_retryOperation {x : SyncOperation} (hk : Known s x)
    (hinput : ∃ payload, x.input = .obj payload) (batch : SubmitSyncBatchDto)
    (locals : LocalRegistrationMap) :
    (retryOperation rt order x batch locals).Yields (syncMachine rt ch) s fun r s' =>
      (∃ result, r = some result ∧ Executed x result.1 ∧ Finished x.id s s') ∨
        (r = none ∧ s' = s ∧ ∀ z ∈ s.operations.rows, z.id = x.id → z.status ≠ .FAILED) := by
  obtain ⟨payload, hpayload⟩ := hinput
  obtain ⟨z, hz, hid, hop⟩ := hk
  by_cases hfailed : z.status = .FAILED
  · refine Prog.yields_bind (hid ▸ yields_claim_failed hz hfailed) fun count s₁ ⟨hcount, hb, row, t, hu, ho⟩ => ?_
    have hk₁ : Known s₁ x := by
      obtain ⟨old, hold, hkey, hrow, -, -⟩ := Table.update_eq_done hu
      obtain rfl : old = z := s.operations.eq_of_key hold hz (hkey.trans hid.symm)
      refine ⟨row, ho ▸ (Table.mem_update hu).mpr (.inr rfl), ?_, ?_⟩
      · rw [hrow]
        rfl
      · rw [hrow]
        exact hop
    simp only [hcount, if_true, hpayload, toRecord, Json.record?, Prog.ofExcept_ok, Prog.bind_eq,
      Prog.bind_ret]
    refine Prog.yields_bind (yields_processOperation hk₁ _ _ _) fun r s₂ h₂ => Prog.yields_ret ?_
    refine .inl ⟨r, rfl, h₂.1, h₂.2.2.batches.trans hb, fun y hy hne => ?_, h₂.2.2.ended⟩
    exact h₂.2.2.others y (ho ▸ (Table.mem_update hu).mpr (.inl ⟨hy, hne⟩)) hne
  · have hother : ∀ y ∈ s.operations.rows, y.id = x.id → y.status ≠ .FAILED := by
      intro y hy hyid
      rw [s.operations.eq_of_key hy hz (hyid.trans hid.symm)]
      exact hfailed
    refine Prog.yields_bind (yields_claim_other hother) fun count s₁ ⟨hcount, hs⟩ => ?_
    subst hcount hs
    exact Prog.yields_ret (.inr ⟨rfl, rfl, hother⟩)

/-! ## The rounds of a batch -/

/-- What a round for an operation id leaves alone. -/
structure Round (operationId : String) (s s' : SyncStore) : Prop where
  batches : s'.batches = s.batches
  others : ∀ z ∈ s.operations.rows, z.operationId ≠ operationId → z ∈ s'.operations.rows
  ended : ∀ id, Ended id s → Ended id s'

theorem Round.refl (operationId : String) (s : SyncStore) : Round operationId s s :=
  ⟨rfl, fun _ hz _ => hz, fun _ h => h⟩

theorem Finished.round {x : SyncOperation} (h : Finished x.id s s') (hk : Known s x) :
    Round x.operationId s s' where
  batches := h.batches
  others z hz hne := h.others z hz fun hid => hne (Known.eq ⟨z, hz, rfl, rfl⟩ hk hid)
  ended id he := by
    by_cases hid : id = x.id
    · exact hid ▸ h.ended
    · obtain ⟨z, hz, rfl, hstatus⟩ := he
      exact ⟨z, h.others z hz hid, rfl, hstatus⟩

/-- The operations of a reply are those of its round. -/
def Answers (operationId : String) (result : Option OperationResult) : Prop :=
  ∀ r, result = some r → r.operationId = operationId

/-- The rows that a loop of `processBatch` works from. -/
structure RowsRecorded (s : SyncStore) (rows : BatchRows) : Prop where
  known : RowsKnown s rows
  recorded : ∀ x ∈ rows.existing, Recorded x

theorem yields_replayOperation {existing : Option SyncOperation} {dto : SubmitSyncOperationDto}
    (hex : ∀ x, existing = some x → Known s x ∧ Recorded x ∧ x.operationId = dto.operationId)
    (batch : SubmitSyncBatchDto) (locals : LocalRegistrationMap) :
    (replayOperation rt order dto batch locals existing).Yields (syncMachine rt ch) s
      fun r s' => Answers dto.operationId (some r.1) ∧ Round dto.operationId s s' := by
  have hidle : ∀ result : OperationResult, result.operationId = dto.operationId →
      (Prog.ret (result, locals) : SyncSvc _).Yields (syncMachine rt ch) s
        fun r s' => Answers dto.operationId (some r.1) ∧ Round dto.operationId s s' := by
    intro result hop
    exact Prog.yields_ret ⟨fun r hr => by cases hr; exact hop, .refl _ _⟩
  cases existing with
  | none => exact hidle _ rfl
  | some x =>
      obtain ⟨hk, hrecorded, hop⟩ := hex x rfl
      simp only [replayOperation]
      split
      · exact hidle _ rfl
      · exact hidle _ rfl
      · split
        · refine Prog.yields_bind (yields_retryOperation hk hrecorded.input batch locals)
            fun r s₁ h => ?_
          rcases h with ⟨result, rfl, hexec, hfin⟩ | ⟨rfl, rfl, -⟩
          · refine Prog.yields_ret ⟨fun r hr => ?_, hop ▸ hfin.round hk⟩
            cases hr
            exact hexec.1.trans hop
          · exact hidle _ rfl
        · exact hidle _ rfl
      · exact hidle _ rfl
      · exact hidle _ rfl

theorem yields_processEntry {rows : BatchRows} (hrows : RowsRecorded s rows)
    (dto : SubmitSyncOperationDto) (batch : SubmitSyncBatchDto) (locals : LocalRegistrationMap) :
    (processEntry rt order rows batch dto locals).Yields (syncMachine rt ch) s
      fun r s' => Answers dto.operationId r.1 ∧ Round dto.operationId s s' := by
  unfold processEntry
  split
  · refine Prog.yields_bind (yields_replayOperation (fun x hx => ?_) batch locals)
      fun r s₁ h => Prog.yields_ret h
    obtain ⟨hmem, hop⟩ := rowOf_eq_some hx
    exact ⟨hrows.known.existing x hmem, hrows.recorded x hmem, hop⟩
  · cases hrow : rowOf rows.operations dto.operationId with
    | none =>
        refine Prog.yields_ret ⟨fun r hr => ?_, .refl _ _⟩
        cases hr
    | some x =>
        obtain ⟨hmem, hop⟩ := rowOf_eq_some hrow
        have hk := hrows.known.operations x hmem
        refine Prog.yields_bind (yields_processOperation hk dto batch locals)
          fun r s₁ h => Prog.yields_ret ⟨fun result hr => ?_, hop ▸ h.2.2.round hk⟩
        cases hr
        exact h.1.1.trans hop

/-- The store after a run is later than the store before it. -/
theorem yields_later {α : Type} {p : SyncSvc α} {Q : α → SyncStore → Prop}
    (h : p.Yields (syncMachine rt ch) s Q) :
    p.Yields (syncMachine rt ch) s fun a s' => Q a s' ∧ SyncStore.Later s s' := by
  obtain ⟨a, s', hrun, hq⟩ := h
  have hlater : SyncStore.Later s (p.run (syncMachine rt ch) s).2 :=
    Prog.run_relation (syncMachine rt ch) .refl (fun _ _ _ => .trans)
      (fun _ _ _ => (syncEffect_of_machine rfl).later) (Prog.all_true p) s
  exact ⟨a, s', hrun, hq, by simpa [hrun] using hlater⟩

theorem AllRecorded.run {α : Type} (hs : AllRecorded s) (p : SyncSvc α) :
    AllRecorded (p.run (syncMachine rt ch) s).2 :=
  Prog.run_invariant (syncMachine rt ch) (I := AllRecorded)
    (fun _ _ _ h => h.effect (syncEffect_of_machine rfl)) (Prog.all_true p) hs

theorem yields_recorded {α : Type} {p : SyncSvc α} {Q : α → SyncStore → Prop}
    (h : p.Yields (syncMachine rt ch) s Q) (hs : AllRecorded s) :
    p.Yields (syncMachine rt ch) s fun a s' => Q a s' ∧ AllRecorded s' := by
  obtain ⟨a, s', hrun, hq⟩ := h
  have hrecorded : AllRecorded (p.run (syncMachine rt ch) s).2 := hs.run p
  exact ⟨a, s', hrun, hq, by simpa [hrun] using hrecorded⟩

theorem RowsRecorded.later {rows : BatchRows} (h : RowsRecorded s rows)
    (hl : SyncStore.Later s s') : RowsRecorded s' rows :=
  ⟨h.known.later hl, h.recorded⟩

/-- The rest of a batch returns, whatever its operations do. -/
theorem yields_processEntries {rows : BatchRows} (hrows : RowsRecorded s rows)
    (batch : SubmitSyncBatchDto) (rest : List SubmitSyncOperationDto)
    (locals : LocalRegistrationMap) :
    (processEntries rt order rows batch rest locals).Yields (syncMachine rt ch) s
      fun _ s' => s'.batches = s.batches ∧ ∀ id, Ended id s → Ended id s' := by
  induction rest generalizing s locals with
  | nil => exact Prog.yields_ret ⟨rfl, fun _ h => h⟩
  | cons dto rest ih =>
      refine Prog.yields_bind (yields_later (yields_processEntry hrows dto batch locals)) ?_
      rintro r s₁ ⟨⟨-, hround⟩, hl⟩
      refine Prog.yields_bind (ih (hrows.later hl) r.2) fun results s₂ h₂ => Prog.yields_ret ?_
      exact ⟨h₂.1.trans hround.batches, fun id h => h₂.2 id (hround.ended id h)⟩

/-- A result that repeats how the last execution of an operation ended. -/
def Repeats (x : SyncOperation) (result : OperationResult) : Prop :=
  x.status = .PROCESSED ∧ result.status = .DUPLICATE ∧ result.output = x.output ∨
    x.status = .FAILED ∧ result.status = .FAILED ∧ result.errorCode = x.errorCode ∧
      result.errorMessage = x.errorMessage

/-- A result of an operation that was received before: the stored outcome of a completed
execution, or the outcome of a new one that was completed. -/
def Resolved (x : SyncOperation) (result : OperationResult) (s' : SyncStore) : Prop :=
  result.operationId = x.operationId ∧ (Repeats x result ∨
    result.retried = true ∧ (result.status = .PROCESSED ∨ result.status = .FAILED) ∧ Ended x.id s')

section Entry

variable {rows : BatchRows} {x : SyncOperation}
  (hdup : rows.duplicateOperationIds.contains x.operationId = true)
  (hrow : rowOf rows.existing x.operationId = some x)

include hdup hrow

/-- An operation whose last execution has ended is resolved. -/
theorem yields_processEntry_ended (hx : x ∈ s.operations.rows) (hrecorded : Recorded x)
    (hstatus : x.status ≠ .PENDING) {dto : SubmitSyncOperationDto}
    (hop : dto.operationId = x.operationId) (batch : SubmitSyncBatchDto)
    (locals : LocalRegistrationMap) :
    (processEntry rt order rows batch dto locals).Yields (syncMachine rt ch) s
      fun r s' => ∃ result, r.1 = some result ∧ Resolved x result s' := by
  unfold processEntry
  rw [hop, if_pos hdup, hrow]
  refine Prog.yields_bind (P := fun r s' => Resolved x r.1 s') ?_
    fun r s₁ h => Prog.yields_ret ⟨r.1, rfl, h⟩
  rcases hrecorded.outcome with hpending | ⟨hprocessed, -⟩ | ⟨hfailed, hcode, hmessage⟩
  · exact absurd hpending hstatus
  · simp only [replayOperation, hprocessed]
    exact Prog.yields_ret ⟨hop, .inl (.inl ⟨hprocessed, rfl, rfl⟩)⟩
  · obtain ⟨code, hcode⟩ := Option.isSome_iff_exists.mp hcode
    obtain ⟨message, hmessage⟩ := Option.isSome_iff_exists.mp hmessage
    simp only [replayOperation, hfailed]
    split
    · refine Prog.yields_bind (yields_retryOperation ⟨x, hx, rfl, rfl⟩ hrecorded.input batch locals)
        fun r s₁ h => ?_
      rcases h with ⟨result, rfl, hexec, hfin⟩ | ⟨-, -, hother⟩
      · exact Prog.yields_ret ⟨hexec.1, .inr ⟨rfl, hexec.2, hfin.ended⟩⟩
      · exact absurd hfailed (hother x hx rfl)
    · refine Prog.yields_ret ⟨hop, .inl (.inr ⟨hfailed, rfl, ?_, ?_⟩)⟩
      · simp [failedBefore, hcode]
      · simp [failedBefore, hmessage]

/-- A failed operation that may be retried is executed again. -/
theorem yields_processEntry_retried (hx : x ∈ s.operations.rows) (hrecorded : Recorded x)
    (hfailed : x.status = .FAILED) (hretry : canRetryFailedOfflineOperation x = true)
    {dto : SubmitSyncOperationDto} (hop : dto.operationId = x.operationId)
    (batch : SubmitSyncBatchDto) (locals : LocalRegistrationMap) :
    (processEntry rt order rows batch dto locals).Yields (syncMachine rt ch) s fun r _ =>
      ∃ result, r.1 = some result ∧ result.operationId = x.operationId ∧ result.retried = true := by
  unfold processEntry
  rw [hop, if_pos hdup, hrow]
  refine Prog.yields_bind (P := fun r _ => r.1.operationId = x.operationId ∧ r.1.retried = true) ?_
    fun r s₁ h => Prog.yields_ret ⟨r.1, rfl, h⟩
  simp only [replayOperation, hfailed, hretry, if_true]
  refine Prog.yields_bind (yields_retryOperation ⟨x, hx, rfl, rfl⟩ hrecorded.input batch locals)
    fun r s₁ h => ?_
  rcases h with ⟨result, rfl, hexec, -⟩ | ⟨-, -, hother⟩
  · exact Prog.yields_ret ⟨hexec.1, rfl⟩
  · exact absurd hfailed (hother x hx rfl)

/-- An operation that a submission only answers from its row. -/
def Idle (x : SyncOperation) : Prop :=
  x.status = .PENDING ∨ x.status = .FAILED ∧ canRetryFailedOfflineOperation x = false

/-- Such an operation is not executed. -/
theorem yields_processEntry_idle (hidle : Idle x)
    {dto : SubmitSyncOperationDto} (hop : dto.operationId = x.operationId)
    (batch : SubmitSyncBatchDto) (locals : LocalRegistrationMap) :
    (processEntry rt order rows batch dto locals).Yields (syncMachine rt ch) s
      fun r s' => s' = s ∧ ∀ result, r.1 = some result → result.retried = false := by
  have hanswer : ∀ result : OperationResult, result.retried = false →
      (Prog.ret (some result, locals) : SyncSvc _).Yields (syncMachine rt ch) s
        fun r s' => s' = s ∧ ∀ result, r.1 = some result → result.retried = false := by
    intro result hretried
    refine Prog.yields_ret ⟨rfl, fun other h => ?_⟩
    cases h
    exact hretried
  unfold processEntry
  rw [hop, if_pos hdup, hrow]
  rcases hidle with hpending | ⟨hfailed, hretry⟩
  · simp only [replayOperation, hpending]
    exact hanswer _ rfl
  · simp only [replayOperation, hfailed, hretry, Bool.false_eq_true, if_false]
    exact hanswer _ rfl

omit hdup hrow in
/-- A batch that names an operation has the result of its first round, with whatever of it
the rounds of a batch keep. -/
theorem yields_processEntries_named {K : OperationResult → SyncStore → Prop}
    (hkeep : ∀ result s s', (∀ id, Ended id s → Ended id s') → K result s → K result s')
    (batch : SubmitSyncBatchDto)
    (hfirst : ∀ s : SyncStore, x ∈ s.operations.rows → ∀ dto : SubmitSyncOperationDto,
      dto.operationId = x.operationId → ∀ locals,
        (processEntry rt order rows batch dto locals).Yields (syncMachine rt ch) s
          fun r s' => ∃ result, r.1 = some result ∧ K result s')
    (hx : x ∈ s.operations.rows) (hrows : RowsRecorded s rows)
    {rest : List SubmitSyncOperationDto} (hentry : ∃ dto ∈ rest, dto.operationId = x.operationId)
    (locals : LocalRegistrationMap) :
    (processEntries rt order rows batch rest locals).Yields (syncMachine rt ch) s
      fun results s' => s'.batches = s.batches ∧ ∃ result ∈ results, K result s' := by
  induction rest generalizing s locals with
  | nil => exact absurd hentry (by simp)
  | cons dto rest ih =>
      have hround : (processEntry rt order rows batch dto locals).Yields (syncMachine rt ch) s _ :=
        yields_later (yields_processEntry hrows dto batch locals)
      by_cases hop : dto.operationId = x.operationId
      · -- No later round makes an operation pending again.
        refine Prog.yields_bind (hround.and (hfirst s hx dto hop locals)) ?_
        rintro r s₁ ⟨⟨⟨-, hround⟩, hl⟩, result, hresult, hk⟩
        refine Prog.yields_bind (yields_processEntries (hrows.later hl) batch rest r.2)
          fun results s₂ h₂ => Prog.yields_ret ⟨h₂.1.trans hround.batches, result, ?_, ?_⟩
        · simp [hresult]
        · exact hkeep _ _ _ h₂.2 hk
      · refine Prog.yields_bind hround ?_
        rintro r s₁ ⟨⟨-, hround⟩, hl⟩
        have hrest : ∃ dto ∈ rest, dto.operationId = x.operationId := by
          obtain ⟨other, hmem, heq⟩ := hentry
          rcases List.mem_cons.mp hmem with rfl | hmem
          · exact absurd heq hop
          · exact ⟨other, hmem, heq⟩
        refine Prog.yields_bind (ih (hround.others x hx (Ne.symm hop)) (hrows.later hl) hrest r.2) ?_
        rintro results s₂ ⟨hb, result, hmem, hk⟩
        exact Prog.yields_ret ⟨hb.trans hround.batches, result, List.mem_append_right _ hmem, hk⟩

/-- A batch that names an operation whose last execution has ended resolves it. -/
theorem yields_processEntries_ended (hx : x ∈ s.operations.rows) (hrecorded : Recorded x)
    (hstatus : x.status ≠ .PENDING) (hrows : RowsRecorded s rows) (batch : SubmitSyncBatchDto)
    {rest : List SubmitSyncOperationDto} (hentry : ∃ dto ∈ rest, dto.operationId = x.operationId)
    (locals : LocalRegistrationMap) :
    (processEntries rt order rows batch rest locals).Yields (syncMachine rt ch) s
      fun results s' => s'.batches = s.batches ∧ ∃ result ∈ results, Resolved x result s' := by
  refine yields_processEntries_named ?_ batch ?_ hx hrows hentry locals
  · rintro result s s' hended ⟨hid, hres⟩
    exact ⟨hid, hres.imp_right fun h => ⟨h.1, h.2.1, hended x.id h.2.2⟩⟩
  · intro s hx dto hop locals
    exact yields_processEntry_ended hdup hrow hx hrecorded hstatus hop batch locals

/-- A batch that names a failed operation that may be retried executes it again. -/
theorem yields_processEntries_retried (hx : x ∈ s.operations.rows) (hrecorded : Recorded x)
    (hfailed : x.status = .FAILED) (hretry : canRetryFailedOfflineOperation x = true)
    (hrows : RowsRecorded s rows) (batch : SubmitSyncBatchDto)
    {rest : List SubmitSyncOperationDto} (hentry : ∃ dto ∈ rest, dto.operationId = x.operationId)
    (locals : LocalRegistrationMap) :
    (processEntries rt order rows batch rest locals).Yields (syncMachine rt ch) s
      fun results s' => s'.batches = s.batches ∧
        ∃ result ∈ results, result.operationId = x.operationId ∧ result.retried = true := by
  refine yields_processEntries_named (fun _ _ _ _ h => h) batch ?_ hx hrows hentry locals
  intro s hx dto hop locals
  exact yields_processEntry_retried hdup hrow hx hrecorded hfailed hretry hop batch locals

/-- A batch executes an operation that it answers from its row in no round. -/
theorem yields_processEntries_idle (hidle : Idle x)
    (hrows : RowsRecorded s rows) (batch : SubmitSyncBatchDto)
    (rest : List SubmitSyncOperationDto) (locals : LocalRegistrationMap) :
    (processEntries rt order rows batch rest locals).Yields (syncMachine rt ch) s
      fun results s' => s'.batches = s.batches ∧
        ∀ result ∈ results, result.operationId = x.operationId → result.retried = false := by
  induction rest generalizing s locals with
  | nil => exact Prog.yields_ret ⟨rfl, by simp⟩
  | cons dto rest ih =>
      have hround : (processEntry rt order rows batch dto locals).Yields (syncMachine rt ch) s _ :=
        yields_later (yields_processEntry hrows dto batch locals)
      have hhead : (processEntry rt order rows batch dto locals).Yields (syncMachine rt ch) s
          fun r s' => (Round dto.operationId s s' ∧ SyncStore.Later s s') ∧
            ∀ result, r.1 = some result → result.operationId = x.operationId →
              result.retried = false := by
        by_cases hop : dto.operationId = x.operationId
        · have hanswered : (processEntry rt order rows batch dto locals).Yields
              (syncMachine rt ch) s _ :=
            yields_processEntry_idle hdup hrow hidle hop batch locals
          exact (hround.and hanswered).mono fun r s₁ h =>
            ⟨⟨h.1.1.2, h.1.2⟩, fun result hr _ => h.2.2 result hr⟩
        · exact hround.mono fun r s₁ h =>
            ⟨⟨h.1.2, h.2⟩, fun result hr hid => absurd ((h.1.1 result hr).symm.trans hid) hop⟩
      refine Prog.yields_bind hhead ?_
      rintro r s₁ ⟨⟨hround, hl⟩, hfirst⟩
      refine Prog.yields_bind (ih (hrows.later hl) r.2) fun results s₂ h₂ => Prog.yields_ret ?_
      refine ⟨h₂.1.trans hround.batches, fun result hmem hid => ?_⟩
      rcases List.mem_append.mp hmem with hmem | hmem
      · exact hfirst result (Option.mem_toList.mp hmem) hid
      · exact h₂.2 result hmem hid

end Entry

/-! ## A submission on its own -/

/-- The operations of a batch that were not received before. -/
def newOperations (s : SyncStore) (dto : SubmitSyncBatchDto) : List SubmitSyncOperationDto :=
  dto.operations.filter fun operation =>
    !s.operations.rows.any fun x => x.operationId = operation.operationId

/-- A new batch that `submitBatch` accepts: its event, device and staff session pass the
checks, and no new operation is there twice. -/
structure Accepted (rt : Runtime) (ch : Choice) (s : SyncStore) (dto : SubmitSyncBatchDto) :
    Prop where
  checks : ((ensureSubmittable dto).run (machine rt ch) s.base).1 = .ok ()
  staffSession : Store.refersOpt s.base.staffSessions dto.staffSessionId = true
  newBatch : ∀ b ∈ s.batches.rows, b.batchId ≠ dto.batchId
  distinct : ((newOperations s dto).map (·.operationId)).Nodup

theorem exists_createOperations {now : Time} {syncBatchId : Id}
    {operations : List SubmitSyncOperationDto} {t : Table SyncOperation}
    (hnodup : (operations.map (·.operationId)).Nodup)
    (hnew : ∀ operation ∈ operations, ∀ x ∈ t.rows, x.operationId ≠ operation.operationId) :
    ∃ t', SyncStore.createOperations now syncBatchId operations t = some t' := by
  induction operations generalizing t with
  | nil => exact ⟨t, rfl⟩
  | cons operation rest ih =>
      obtain ⟨hhead, hrest⟩ := List.nodup_cons.mp hnodup
      have hcreate : ∃ t₁, t.create (SyncStore.operationRow now syncBatchId operation) =
          some (withKey (fresh t.serial) (SyncStore.operationRow now syncBatchId operation), t₁) := by
        refine Table.exists_create fun b hb => ?_
        have hne := hnew operation List.mem_cons_self b hb
        constructor
        · simpa [clash, SyncStore.operationRow, withKey] using Ne.symm hne
        · simpa [clash, SyncStore.operationRow, withKey] using hne
      obtain ⟨t₁, hcreate⟩ := hcreate
      have hnew₁ : ∀ other ∈ rest, ∀ x ∈ t₁.rows, x.operationId ≠ other.operationId := by
        intro other hother x hx
        rcases (Table.mem_create hcreate).mp hx with hx | rfl
        · exact hnew other (List.mem_cons_of_mem _ hother) x hx
        · exact fun heq => hhead (List.mem_map.mpr ⟨other, hother, heq.symm⟩)
      obtain ⟨t', ht'⟩ := ih hrest hnew₁
      exact ⟨t', by simp only [SyncStore.createOperations, hcreate, ht']⟩

/-- The checks of a submission find its event and its device. -/
theorem found_of_checks {dto : SubmitSyncBatchDto} {b : Store}
    (h : ((ensureSubmittable dto).run (machine rt ch) b).1 = .ok ()) :
    (b.events.find? dto.eventId).isSome = true ∧ (b.devices.find? dto.deviceId).isSome = true := by
  have hrun : (ensureSubmittable dto).run (machine rt ch) b = (.ok (), b) :=
    Prod.ext h ((ensureSubmittable_checks dto).reads.run rt ch b)
  obtain ⟨event, b₁, hevent, hrest⟩ := Prog.run_bind_eq_ok _ hrun
  obtain ⟨device, b₂, hdevice, -⟩ := Prog.run_bind_eq_ok _ hrest
  have hb₁ : b₁ = b := by
    have hreads := (ScansService.ensureEventCanBeModified_checks dto.eventId).reads.run rt ch b
    rw [hevent] at hreads
    exact hreads
  subst hb₁
  obtain ⟨found, b₃, hfound, hcheck⟩ := Prog.run_bind_eq_ok _ hevent
  obtain ⟨found', b₄, hfound', hcheck'⟩ := Prog.run_bind_eq_ok _ hdevice
  rw [call, Prog.run_call] at hfound hfound'
  cases hfound
  cases hfound'
  constructor
  · cases hfind : b₁.events.find? dto.eventId with
    | none => simp [hfind] at hcheck
    | some event => rfl
  · cases hfind : b₁.devices.find? dto.deviceId with
    | none => simp [hfind] at hcheck'
    | some device => rfl

theorem Accepted.refers {dto : SubmitSyncBatchDto} (h : Accepted rt ch s dto) :
    (Store.refers s.base.events dto.eventId && Store.refers s.base.devices dto.deviceId &&
      Store.refersOpt s.base.staffSessions dto.staffSessionId) = true := by
  obtain ⟨hevent, hdevice⟩ := found_of_checks h.checks
  simp only [Store.refers, hevent, hdevice, h.staffSession, Bool.and_self]

/-- The new batch is stored with its operations; the earlier rows stay. -/
theorem yields_batchCreate {dto : SubmitSyncBatchDto} (hacc : Accepted rt ch s dto) (n : Nat) :
    (syncCall (.batchCreate dto (newOperations s dto) n)).Yields (syncMachine rt ch) s
      fun view s' => view.batch ∈ s'.batches.rows ∧
        ∀ x ∈ s.operations.rows, x ∈ s'.operations.rows := by
  have hbatch : ∃ batches, s.batches.create (SyncStore.batchRow s.base.clock dto n) =
      some (withKey (fresh s.batches.serial) (SyncStore.batchRow s.base.clock dto n), batches) := by
    refine Table.exists_create fun b hb => ?_
    have hne := hacc.newBatch b hb
    constructor
    · simpa [clash, SyncStore.batchRow, withKey] using Ne.symm hne
    · simpa [clash, SyncStore.batchRow, withKey] using hne
  obtain ⟨batches, hb⟩ := hbatch
  have hoperations : ∃ t, SyncStore.createOperations s.base.clock
      (withKey (fresh s.batches.serial) (SyncStore.batchRow s.base.clock dto n)).id
      (newOperations s dto) s.operations = some t := by
    refine exists_createOperations hacc.distinct fun operation hop x hx => ?_
    have hnew := (List.mem_filter.mp hop).2
    simp only [Bool.not_eq_true', List.any_eq_false, decide_eq_true_eq] at hnew
    exact hnew x hx
  obtain ⟨t, ht⟩ := hoperations
  obtain ⟨view, s', hcreate⟩ : ∃ view s', s.createBatch ch dto (newOperations s dto) n = (.ok view, s') := by
    unfold SyncStore.createBatch
    rw [if_pos hacc.refers]
    split
    · simp_all
    · next row batches' hb' =>
        rw [hb] at hb'
        cases hb'
        split
        · simp_all
        · exact ⟨_, _, rfl⟩
  rcases SyncStore.createBatch_cases hcreate with
    ⟨e, he, -⟩ | ⟨row, batches', t', hb', ht', hview, -, hbatches, hops⟩
  · cases he
  · cases hview
    refine Prog.yields_call hcreate ⟨hbatches ▸ (Table.mem_create hb').mpr (.inr rfl), ?_⟩
    exact fun x hx => hops ▸ SyncStore.mem_createOperations ht' hx

/-- An update of a stored batch. -/
theorem exists_updateBatch (ch : Choice) {b : SyncBatch} (hb : b ∈ s.batches.rows)
    {f : SyncBatch → SyncBatch} (hf : ∀ b, (f b).batchId = b.batchId) :
    ∃ view s', s.updateBatch ch b.id f = (.ok view, s') ∧ view.batch = withKey b.id (f b) ∧
      view.batch ∈ s'.batches.rows ∧ s'.operations = s.operations := by
  obtain ⟨t, hu⟩ := Table.exists_update hb (f := f) fun c _ => by
    exact ⟨by simp [clash, withKey, hf], by simp [clash, withKey, hf]⟩
  obtain ⟨view, s', hupdate⟩ : ∃ view s', s.updateBatch ch b.id f = (.ok view, s') := by
    unfold SyncStore.updateBatch
    split
    · simp_all
    · simp_all
    · exact ⟨_, _, rfl⟩
  rcases SyncStore.updateBatch_cases hupdate with
    ⟨e, he, -⟩ | ⟨row, t', hu', hview, -, hbatches, hops⟩
  · cases he
  · cases hview
    refine ⟨_, s', hupdate, ?_, hbatches ▸ (Table.mem_update hu').mpr (.inr rfl), hops⟩
    rw [key_syncBatch, hu'] at hu
    cases hu
    rfl

theorem yields_batchProcessing {b : SyncBatch} (hb : b ∈ s.batches.rows) :
    (syncCall (.batchProcessing b.id)).Yields (syncMachine rt ch) s fun _ s' =>
      (∃ b' ∈ s'.batches.rows, b'.id = b.id) ∧ s'.operations = s.operations := by
  obtain ⟨view, s', hrun, hview, hmem, ho⟩ :=
    exists_updateBatch ch hb (f := fun b => { b with status := .PROCESSING }) fun _ => rfl
  refine Prog.yields_call hrun ⟨⟨view.batch, hmem, ?_⟩, ho⟩
  rw [hview]
  rfl

theorem yields_batchFinish {b : SyncBatch} (hb : b ∈ s.batches.rows) (p : BatchPatch) :
    (syncCall (.batchFinish b.id p)).Yields (syncMachine rt ch) s fun view s' =>
      view.batch.result = some p.result ∧ s'.operations = s.operations := by
  obtain ⟨view, s', hrun, hview, -, ho⟩ :=
    exists_updateBatch ch hb (f := SyncStore.applyBatchPatch s.base.clock p) fun _ => rfl
  refine Prog.yields_call hrun ⟨?_, ho⟩
  rw [hview]
  rfl

/-- A query by operation ids, by itself. -/
theorem yields_operationsByIds (ids : List String) :
    (syncCall (.operationsByIds ids)).Yields (syncMachine rt ch) s fun rows s' => s' = s ∧
      ∀ x, x ∈ rows ↔ x ∈ s.operations.rows ∧ ids.contains x.operationId = true := by
  refine Prog.yields_call rfl ⟨rfl, fun x => ?_⟩
  rw [SyncStore.operationsWhere, List.mem_insertionSort, List.mem_filter]

/-- The rows of the operations that were received before. -/
def Replays (s : SyncStore) (rows : BatchRows) : Prop :=
  ∀ x ∈ s.operations.rows, rows.duplicateOperationIds.contains x.operationId = true →
    rowOf rows.existing x.operationId = some x

theorem rowOf_of_mem {rows : List SyncOperation} (hrows : ∀ y ∈ rows, y ∈ s.operations.rows)
    {x : SyncOperation} (hx : x ∈ rows) : rowOf rows x.operationId = some x := by
  cases hfind : rowOf rows x.operationId with
  | none => exact absurd (List.find?_eq_none.mp hfind x hx) (by simp)
  | some y =>
      obtain ⟨hy, hop⟩ := rowOf_eq_some hfind
      rw [s.operations.eq_of_clash (hrows y hy) (hrows x hx) (by simp [clash, hop])]

theorem yields_readDuplicates (ids : List String) :
    (readDuplicates ids).Yields (syncMachine rt ch) s fun rows s' => s' = s ∧
      ∀ x, x ∈ rows ↔ x ∈ s.operations.rows ∧ ids.contains x.operationId = true := by
  unfold readDuplicates
  split
  · exact yields_operationsByIds ids
  · next hlen =>
      have hnil : ids = [] := List.eq_nil_of_length_eq_zero (by omega)
      exact Prog.yields_ret ⟨rfl, fun x => by simp [hnil]⟩

/-- A batch returns with the results of its rounds, and with what these leave in the
operations. -/
theorem yields_processBatch {b : SyncBatch} (hb : b ∈ s.batches.rows) (hs : AllRecorded s)
    {dto : SubmitSyncBatchDto} {ids : List String}
    {K : List OperationResult → SyncStore → Prop}
    (hK : ∀ results s₁ s₂, s₂.operations = s₁.operations → K results s₁ → K results s₂)
    (hrounds : ∀ rows s₁, s₁.operations = s.operations → rows.duplicateOperationIds = ids →
      RowsRecorded s₁ rows → Replays s₁ rows →
        (processEntries rt order rows dto (sortOperations dto.operations) []).Yields
          (syncMachine rt ch) s₁ fun results s' => s'.batches = s₁.batches ∧ K results s') :
    (processBatch rt order b.id dto ids).Yields (syncMachine rt ch) s
      fun view s' => ∃ result, view.batch.result = some result ∧ K result.operations s' := by
  refine Prog.yields_bind (yields_batchProcessing hb) ?_
  rintro - s₁ ⟨⟨b₁, hb₁, hid⟩, ho₁⟩
  have hstored : (syncCall (.operationsOfBatch b.id)).Yields (syncMachine rt ch) s₁ fun rows s' =>
      s' = s₁ ∧ ∀ x ∈ rows, x ∈ s₁.operations.rows := by
    refine Prog.yields_call rfl ⟨rfl, fun x hx => ?_⟩
    rw [SyncStore.operationsWhere, List.mem_insertionSort, List.mem_filter] at hx
    exact hx.1
  refine Prog.yields_bind hstored ?_
  rintro operations _ ⟨rfl, hoperations⟩
  refine Prog.yields_bind (yields_readDuplicates ids) ?_
  rintro existing s₂ ⟨rfl, hexisting⟩
  have hrows : RowsRecorded s₂ { duplicateOperationIds := ids, operations, existing } := by
    refine ⟨⟨fun x hx => ⟨x, hoperations x hx, rfl, rfl⟩, fun x hx => ?_⟩, fun x hx => ?_⟩
    · exact ⟨x, ((hexisting x).mp hx).1, rfl, rfl⟩
    · exact hs x (ho₁ ▸ ((hexisting x).mp hx).1)
  have hreplays : Replays s₂ { duplicateOperationIds := ids, operations, existing } :=
    fun x hx hdup => rowOf_of_mem (fun y hy => ((hexisting y).mp hy).1) ((hexisting x).mpr ⟨hx, hdup⟩)
  refine Prog.yields_bind (hrounds _ s₂ ho₁ rfl hrows hreplays) ?_
  rintro results s₃ ⟨hbatches, hk⟩
  rw [← hid]
  refine (yields_batchFinish (hbatches ▸ hb₁) _).mono fun view s₄ h => ?_
  exact ⟨_, h.1, hK _ _ _ h.2 hk⟩

/-- A new batch is executed after the earlier rows, which it leaves alone. -/
theorem yields_submitBatch {dto : SubmitSyncBatchDto} (hs : AllRecorded s)
    (hacc : Accepted rt ch s dto) {K : List OperationResult → SyncStore → Prop}
    (hK : ∀ results s₁ s₂, s₂.operations = s₁.operations → K results s₁ → K results s₂)
    (hrounds : ∀ rows s₁, (∀ x ∈ s.operations.rows, x ∈ s₁.operations.rows) →
      (∀ x ∈ s.operations.rows, (∃ d ∈ dto.operations, d.operationId = x.operationId) →
        rows.duplicateOperationIds.contains x.operationId = true) →
      RowsRecorded s₁ rows → Replays s₁ rows →
        (processEntries rt order rows dto (sortOperations dto.operations) []).Yields
          (syncMachine rt ch) s₁ fun results s' => s'.batches = s₁.batches ∧ K results s') :
    (submitBatch rt order dto).Yields (syncMachine rt ch) s fun reply s' =>
      ∃ result, reply.batch.batch.result = some result ∧ K result.operations s' := by
  have hfind : (syncCall (.batchByBatchId dto.batchId)).Yields (syncMachine rt ch) s
      fun found s' => found = none ∧ s' = s := by
    refine Prog.yields_call rfl ⟨?_, rfl⟩
    rw [Option.map_eq_none_iff, List.find?_eq_none]
    exact fun b hb => by simpa using hacc.newBatch b hb
  refine Prog.yields_bind hfind ?_
  rintro _ s₀ ⟨rfl, rfl⟩
  have hchecks : (onScanStore (ensureSubmittable dto)).Yields (syncMachine rt ch) s₀
      fun _ s' => s' = s₀ := by
    refine ⟨(), s₀, ?_, rfl⟩
    have hrun : (ensureSubmittable dto).run (machine rt ch) s₀.base = (.ok (), s₀.base) :=
      Prod.ext hacc.checks ((ensureSubmittable_checks dto).reads.run rt ch _)
    rw [run_onScanStore, hrun]
    rfl
  refine Prog.yields_bind hchecks ?_
  rintro _ s₁ rfl
  have hids : (findDuplicateOperationIds (dto.operations.map (·.operationId))).Yields
      (syncMachine rt ch) s₁ fun ids s' => s' = s₁ ∧ ∀ d ∈ dto.operations,
        ids.contains d.operationId = s₁.operations.rows.any fun x => x.operationId = d.operationId := by
    refine Prog.yields_bind (yields_operationsByIds _) ?_
    rintro rows s₂ ⟨rfl, hrows⟩
    refine Prog.yields_ret ⟨rfl, fun d hd => ?_⟩
    rw [Bool.eq_iff_iff, List.contains_iff_mem, List.mem_map, List.any_eq_true]
    constructor
    · rintro ⟨x, hx, hop⟩
      exact ⟨x, ((hrows x).mp hx).1, by simpa using hop⟩
    · rintro ⟨x, hx, hop⟩
      rw [decide_eq_true_eq] at hop
      refine ⟨x, (hrows x).mpr ⟨hx, ?_⟩, hop⟩
      rw [List.contains_iff_mem, hop]
      exact List.mem_map.mpr ⟨d, hd, rfl⟩
  refine Prog.yields_bind hids ?_
  rintro ids s₂ ⟨rfl, hids⟩
  have hnew : (dto.operations.filter fun operation => !ids.contains operation.operationId) =
      newOperations s₂ dto :=
    List.filter_congr fun d hd => by rw [hids d hd]
  have hcreate := yields_recorded (yields_batchCreate hacc ids.length) hs
  rw [← hnew] at hcreate
  refine Prog.yields_bind hcreate ?_
  rintro view s₃ ⟨⟨hview, hkept⟩, hs₃⟩
  refine Prog.yields_bind (yields_processBatch hview hs₃ hK fun rows s₄ ho hrowIds hrows hreplays => ?_)
    fun processed s₅ h => Prog.yields_ret h
  refine hrounds rows s₄ (fun x hx => ho ▸ hkept x hx) ?_ hrows hreplays
  rintro x hx ⟨d, hd, hop⟩
  rw [hrowIds, ← hop, hids d hd]
  exact List.any_eq_true.mpr ⟨x, hx, by simp [hop]⟩

/-! ## A recovery on its own -/

theorem yields_recoverOperation {x : SyncOperation} (hk : Known s x) (hrecorded : Recorded x)
    (batch : SyncBatch) :
    (recoverOperation rt order x batch).Yields (syncMachine rt ch) s
      fun result _ => result.operationId = x.operationId := by
  refine Prog.yields_bind (yields_retryOperation hk hrecorded.input _ _) fun r s₁ h => ?_
  rcases h with ⟨result, rfl, hexec, -⟩ | ⟨rfl, -, -⟩
  · exact Prog.yields_ret hexec.1
  · exact Prog.yields_ret rfl

theorem yields_recoverOperations {rows : List (SyncOperation × SyncBatch)}
    (hrows : ∀ row ∈ rows, Known s row.1 ∧ Recorded row.1) :
    (recoverOperations rt order rows).Yields (syncMachine rt ch) s
      fun results _ => ∀ result ∈ results, ∃ row ∈ rows, result.operationId = row.1.operationId := by
  induction rows generalizing s with
  | nil => exact Prog.yields_ret (by simp)
  | cons row rest ih =>
      obtain ⟨hk, hrecorded⟩ := hrows row List.mem_cons_self
      refine Prog.yields_bind (yields_later (yields_recoverOperation hk hrecorded row.2)) ?_
      rintro result s₁ ⟨hop, hl⟩
      have hrest : ∀ other ∈ rest, Known s₁ other.1 ∧ Recorded other.1 := fun other hmem =>
        (hrows other (List.mem_cons_of_mem _ hmem)).imp_left fun h => h.later hl
      refine Prog.yields_bind (ih hrest) fun results s₂ h₂ => Prog.yields_ret fun r hr => ?_
      rcases List.mem_cons.mp hr with rfl | hr
      · exact ⟨row, List.mem_cons_self, hop⟩
      · obtain ⟨other, hmem, heq⟩ := h₂ r hr
        exact ⟨other, List.mem_cons_of_mem _ hmem, heq⟩

/-- The results of the operations that a recovery attempted. -/
def attempts : RecoverReply → List OperationResult
  | .dryRun _ _ _ _ => []
  | .attempted _ _ _ _ _ results => results

/-- A recovery attempts only failed operations. -/
theorem yields_recover (hs : AllRecorded s) (input : RecoverInput) :
    (recoverFailedOfflineRegistrations rt order input).Yields (syncMachine rt ch) s
      fun reply _ => ∀ result ∈ attempts reply, ∃ x ∈ s.operations.rows, x.status = .FAILED ∧
        result.operationId = x.operationId := by
  have hread : ∀ limit, (syncCall (.failedRegistrations input limit)).Yields (syncMachine rt ch) s
      fun rows s' => s' = s ∧ ∀ row ∈ rows, row.1 ∈ s.operations.rows ∧ row.1.status = .FAILED := by
    refine fun limit => Prog.yields_call rfl ⟨rfl, fun row hrow => ?_⟩
    have hmem := List.mem_of_mem_filter (List.mem_of_mem_take hrow)
    obtain ⟨x, hx, hjoin⟩ := List.mem_filterMap.mp hmem
    obtain ⟨b, -, rfl⟩ := Option.map_eq_some_iff.mp hjoin
    simp only [SyncStore.operationsWhere, List.mem_insertionSort, List.mem_filter,
      decide_eq_true_eq] at hx
    exact ⟨hx.1, hx.2.2⟩
  refine Prog.yields_bind (hread _) ?_
  rintro rows s₁ ⟨rfl, hrows⟩
  dsimp only
  split
  · exact Prog.yields_ret (by simp [attempts])
  · have hrecoverable : ∀ row ∈ rows.filter fun x => canRetryFailedOfflineOperation x.1,
        Known s₁ row.1 ∧ Recorded row.1 := by
      intro row hrow
      have hmem := (hrows row (List.mem_of_mem_filter hrow)).1
      exact ⟨⟨row.1, hmem, rfl, rfl⟩, hs row.1 hmem⟩
    refine Prog.yields_bind (yields_recoverOperations hrecoverable) fun results s₂ h₂ =>
      Prog.yields_ret fun result hresult => ?_
    obtain ⟨row, hrow, heq⟩ := h₂ result hresult
    obtain ⟨hmem, hfailed⟩ := hrows row (List.mem_of_mem_filter hrow)
    exact ⟨row.1, hmem, hfailed, heq⟩

/-! ## Which operations a resubmission resolves -/

/-- A submission on its own returns, and resolves the operation. -/
def Resolves (rt : Runtime) (order : String → Bool) (ch : Choice) (s : SyncStore)
    (dto : SubmitSyncBatchDto) (x : SyncOperation) : Prop :=
  ∃ reply s' result, (submitBatch rt order dto).run (syncMachine rt ch) s = (.ok reply, s') ∧
    reply.batch.batch.result = some result ∧ ∃ r ∈ result.operations, Resolved x r s'

/-- The batch names the operation. -/
def Names (dto : SubmitSyncBatchDto) (x : SyncOperation) : Prop :=
  ∃ operation ∈ dto.operations, operation.operationId = x.operationId

theorem exists_sorted {dto : SubmitSyncBatchDto} {x : SyncOperation} (hnames : Names dto x) :
    ∃ d ∈ sortOperations dto.operations, d.operationId = x.operationId := by
  obtain ⟨d, hd, hop⟩ := hnames
  exact ⟨d, (sortOperations_perm _).mem_iff.mpr hd, hop⟩

/-- A submission on its own returns, and has executed the operation again. -/
def ExecutesAgain (rt : Runtime) (order : String → Bool) (ch : Choice) (s : SyncStore)
    (dto : SubmitSyncBatchDto) (x : SyncOperation) : Prop :=
  ∃ reply s' result, (submitBatch rt order dto).run (syncMachine rt ch) s = (.ok reply, s') ∧
    reply.batch.batch.result = some result ∧
    ∃ r ∈ result.operations, r.operationId = x.operationId ∧ r.retried = true

/-- No submission resolves the operation, and no recovery attempts it. -/
def Stuck (rt : Runtime) (s : SyncStore) (x : SyncOperation) : Prop :=
  (∀ order ch dto, Accepted rt ch s dto → Names dto x → ¬ Resolves rt order ch s dto x) ∧
    ∀ order ch input reply s', (recoverFailedOfflineRegistrations rt order input).run
      (syncMachine rt ch) s = (.ok reply, s') → ∀ r ∈ attempts reply, r.operationId ≠ x.operationId

section Row

variable {x : SyncOperation} (hs : AllRecorded s) (hx : x ∈ s.operations.rows)

include hs hx

theorem resolves_of_ended (hstatus : x.status ≠ .PENDING) {dto : SubmitSyncBatchDto}
    (hacc : Accepted rt ch s dto) (hnames : Names dto x) : Resolves rt order ch s dto x := by
  have hyields : (submitBatch rt order dto).Yields (syncMachine rt ch) s fun reply s' =>
      ∃ result, reply.batch.batch.result = some result ∧ ∃ r ∈ result.operations, Resolved x r s' := by
    refine yields_submitBatch (K := fun results s' => ∃ r ∈ results, Resolved x r s') hs hacc ?_ ?_
    · rintro results s₁ s₂ ho ⟨r, hr, hid, hres⟩
      refine ⟨r, hr, hid, hres.imp_right fun h => ⟨h.1, h.2.1, ?_⟩⟩
      obtain ⟨z, hz, hzid, hzs⟩ := h.2.2
      exact ⟨z, ho ▸ hz, hzid, hzs⟩
    · intro rows s₁ hkept hdup hrows hreplays
      have hcontains := hdup x hx hnames
      exact yields_processEntries_ended hcontains (hreplays x (hkept x hx) hcontains) (hkept x hx)
        (hs x hx) hstatus hrows dto (exists_sorted hnames) []
  obtain ⟨reply, s', hrun, result, hresult, hr⟩ := hyields
  exact ⟨reply, s', result, hrun, hresult, hr⟩

/-- A submission on its own executes a failed operation that may be retried. -/
theorem executes_of_retry (hfailed : x.status = .FAILED)
    (hretry : canRetryFailedOfflineOperation x = true) {dto : SubmitSyncBatchDto}
    (hacc : Accepted rt ch s dto) (hnames : Names dto x) : ExecutesAgain rt order ch s dto x := by
  have hyields : (submitBatch rt order dto).Yields (syncMachine rt ch) s fun reply _ =>
      ∃ result, reply.batch.batch.result = some result ∧ ∃ r ∈ result.operations,
        r.operationId = x.operationId ∧ r.retried = true := by
    refine yields_submitBatch (K := fun results _ => ∃ r ∈ results,
      r.operationId = x.operationId ∧ r.retried = true) hs hacc (fun _ _ _ _ h => h) ?_
    intro rows s₁ hkept hdup hrows hreplays
    have hcontains := hdup x hx hnames
    exact yields_processEntries_retried hcontains (hreplays x (hkept x hx) hcontains) (hkept x hx)
      (hs x hx) hfailed hretry hrows dto (exists_sorted hnames) []
  obtain ⟨reply, s', hrun, result, hresult, hr⟩ := hyields
  exact ⟨reply, s', result, hrun, hresult, hr⟩

/-- A submission on its own leaves an operation that it answers from its row alone. -/
theorem yields_submitBatch_idle (hidle : Idle x) {dto : SubmitSyncBatchDto}
    (hacc : Accepted rt ch s dto) (hnames : Names dto x) :
    (submitBatch rt order dto).Yields (syncMachine rt ch) s fun reply _ =>
      ∃ result, reply.batch.batch.result = some result ∧ ∀ r ∈ result.operations,
        r.operationId = x.operationId → r.retried = false := by
  refine yields_submitBatch (K := fun results _ => ∀ r ∈ results,
    r.operationId = x.operationId → r.retried = false) hs hacc (fun _ _ _ _ h => h) ?_
  intro rows s₁ hkept hdup hrows hreplays
  have hcontains := hdup x hx hnames
  exact yields_processEntries_idle hcontains (hreplays x (hkept x hx) hcontains) hidle hrows dto _ []

theorem not_executes_of_idle (hidle : Idle x) {dto : SubmitSyncBatchDto}
    (hacc : Accepted rt ch s dto) (hnames : Names dto x) : ¬ ExecutesAgain rt order ch s dto x := by
  have hyields : (submitBatch rt order dto).Yields (syncMachine rt ch) s _ :=
    yields_submitBatch_idle hs hx hidle hacc hnames
  obtain ⟨reply, s', hrun, result, hresult, hr⟩ := hyields
  rintro ⟨reply', s'', result', hrun', hresult', r, hmem, hid, hretried⟩
  obtain ⟨hreply, -⟩ := Prod.mk.inj (hrun.symm.trans hrun')
  cases hreply
  rw [hresult] at hresult'
  cases hresult'
  rw [hr r hmem hid] at hretried
  cases hretried

theorem not_resolves_of_pending (hstatus : x.status = .PENDING) {dto : SubmitSyncBatchDto}
    (hacc : Accepted rt ch s dto) (hnames : Names dto x) : ¬ Resolves rt order ch s dto x := by
  rintro ⟨reply, s', result, hrun, hresult, r, hmem, hid, hres⟩
  rcases hres with hrepeats | ⟨hretried, -⟩
  · rcases hrepeats with ⟨h, -⟩ | ⟨h, -⟩
    · rw [hstatus] at h
      cases h
    · rw [hstatus] at h
      cases h
  · exact not_executes_of_idle hs hx (.inl hstatus) hacc hnames
      ⟨reply, s', result, hrun, hresult, r, hmem, hid, hretried⟩

/-- A pending operation that nobody executes is never executed again. -/
theorem stuck_of_pending (hstatus : x.status = .PENDING) : Stuck rt s x := by
  refine ⟨fun order ch dto hacc hnames => not_resolves_of_pending hs hx hstatus hacc hnames, ?_⟩
  intro order ch input reply s' hrun r hr hop
  have hyields : (recoverFailedOfflineRegistrations rt order input).Yields (syncMachine rt ch) s _ :=
    yields_recover hs input
  obtain ⟨reply', s'', hrun', hattempts⟩ := hyields
  obtain ⟨hreply, -⟩ := Prod.mk.inj (hrun.symm.trans hrun')
  cases hreply
  obtain ⟨y, hy, hfailed, hyop⟩ := hattempts r hr
  have hyx : y = x := s.operations.eq_of_clash hy hx (by simp [clash, ← hyop, hop])
  rw [hyx, hstatus] at hfailed
  cases hfailed

end Row

end Resubmission

namespace Resubmission

/-- A batch with the sample operation; the process stops after `n` calls. -/
def stopped (n : Nat) : List (syncService sampleRuntime).Action :=
  [submission (sampleBatch "batch-1" [sampleOperation "op-1"])] ++ syncSteps 0 n

/-- The row of the sample operation has a status, and a second batch with it is accepted. -/
def resubmittable (status : SyncOperationStatus) (s : SyncStore) : Bool :=
  (s.operations.rows.any fun x => x.operationId = "op-1" ∧ x.status = status) &&
    ((SyncService.ensureSubmittable (sampleBatch "batch-2" [sampleOperation "op-1"])).run
      (machine sampleRuntime {}) s.base).1.isOk &&
    s.batches.rows.all fun b => b.batchId ≠ "batch-2"

theorem accepted_of_resubmittable {status : SyncOperationStatus} {s : SyncStore}
    (h : resubmittable status s = true) :
    (∃ x ∈ s.operations.rows, x.operationId = "op-1" ∧ x.status = status) ∧
      Resubmission.Accepted sampleRuntime {} s (sampleBatch "batch-2" [sampleOperation "op-1"]) := by
  simp only [resubmittable, Bool.and_eq_true, List.any_eq_true, List.all_eq_true,
    decide_eq_true_eq] at h
  obtain ⟨⟨hrow, hok⟩, hbatch⟩ := h
  refine ⟨hrow, ?_, rfl, hbatch, ?_⟩
  · cases hrun : ((SyncService.ensureSubmittable (sampleBatch "batch-2" [sampleOperation "op-1"])).run
        (machine sampleRuntime {}) s.base).1 with
    | ok a => rfl
    | error e =>
        rw [hrun] at hok
        cases hok
  · refine List.Nodup.map_on (fun a ha b hb _ => ?_) ((List.nodup_singleton _).filter _)
    have hmem : ∀ d ∈ newOperations s (sampleBatch "batch-2" [sampleOperation "op-1"]),
        d = sampleOperation "op-1" := fun d hd => by simpa [sampleBatch] using (List.mem_filter.mp hd).1
    rw [hmem a ha, hmem b hb]

theorem allRecorded_sample : AllRecorded sampleSyncStore := fun x hx => by cases hx

end Resubmission

end CreativeBackend
