import CreativeBackend.Sync.Resubmission
import CreativeBackend.Interaction.Interference

/-!
# The sync service on its own

The runs of a request of the sync service while nobody else writes. A call that an
execution of `runOperation` makes may fail, and an execution then fails; every other
statement is answered by the store. Each part of a request has one lemma here, which says
what it answers, which rows it changes and which calls it makes.
-/

namespace CreativeBackend

open Relational Interaction

/-- A call that an execution of an operation makes. -/
def SyncCall.inExecution : SyncCall → Prop
  | .run _ _ => True
  | _ => False

namespace Solo

open SyncService Ownership Resubmission

/-- The sync service for one request at a time. -/
def solo (rt : Runtime) : Service SyncResp Exn SyncStore where
  Choice := Choice
  machine := syncMachine rt
  faulty := SyncCall.inExecution
  env _ _ := False
  starts _ _ _ := False

/-- A run of a program, with its calls. -/
abbrev Ran {α : Type} (rt : Runtime) (p : SyncSvc α) (s : SyncStore)
    (turns : List (Turn SyncResp Exn SyncStore)) (x : Except Exn α) (s' : SyncStore) : Prop :=
  (solo rt).Runs Eq p s turns x s'

variable {rt : Runtime} {order : String → Bool} {s s' : SyncStore} {α β : Type}
  {turns : List (Turn SyncResp Exn SyncStore)}

/-! ## Inversion -/

theorem ran_bind {p : SyncSvc α} {f : α → SyncSvc β} {y : Except Exn β}
    (h : Ran rt (p.bind f) s turns y s') :
    (∃ a s₁ first second, Ran rt p s first (.ok a) s₁ ∧ Ran rt (f a) s₁ second y s' ∧
        turns = first ++ second) ∨
      ∃ e, Ran rt p s turns (.error e) s' ∧ y = .error e :=
  Service.Runs.of_bind (fun _ => rfl) h

/-- A run in which no call fails. -/
theorem ran_of_run {p : SyncSvc α} {ch : Choice} {x : Except Exn α}
    (h : (p.run (syncMachine rt ch) s).1 = x) : ∃ turns s', Ran rt p s turns x s' := by
  subst h
  exact ⟨_, _, Service.runs_of_run (solo rt) (fun _ => rfl) ch p s⟩

theorem ran_ret {a : α} {y : Except Exn α} (h : Ran rt (.ret a) s turns y s') :
    y = .ok a ∧ s' = s ∧ turns = [] := by
  cases h with
  | ret h => exact ⟨rfl, h.symm, rfl⟩

theorem ran_call {c : SyncCall} {x : Except Exn (SyncResp c)}
    (h : Ran rt (syncCall c) s turns x s') :
    (solo rt).Outcome c s x s' ∧ turns = [⟨c, x, s⟩] := by
  obtain ⟨s₁, s₂, rfl, ho, rfl, rfl⟩ := Service.Runs.of_call h
  exact ⟨ho, rfl⟩

/-- A statement outside the executions is answered by the store. -/
theorem machine_of_outcome {c : SyncCall} {x : Except Exn (SyncResp c)}
    (ho : (solo rt).Outcome c s x s') (hc : ¬ c.inExecution) : ∃ ch, syncMachine rt ch c s = (x, s') := by
  rcases ho with h | ⟨hfaulty, -⟩
  · exact h
  · exact absurd hfaulty hc

theorem syncEffect_of_solo {c : SyncCall} {x : Except Exn (SyncResp c)}
    (ho : (solo rt).Outcome c s x s') : SyncEffect s c x s' := by
  rcases ho with ⟨ch, h⟩ | ⟨hfaulty, rfl, e, rfl⟩
  · exact syncEffect_of_machine h
  · cases c with
    | run operationId c => exact .run .failed rfl rfl
    | _ => exact hfaulty.elim

/-! ## The rows -/

/-- The operation ids under their keys. -/
def names (s : SyncStore) : List (Id × String) :=
  s.operations.rows.map fun x => (x.id, x.operationId)

theorem mem_names {id : Id} {operationId : String} :
    (id, operationId) ∈ names s ↔
      ∃ x ∈ s.operations.rows, x.id = id ∧ x.operationId = operationId := by
  simp [names]

/-- Keys and operation ids determine each other. -/
theorem names_unique {i j : Id} {a b : String} (hi : (i, a) ∈ names s) (hj : (j, b) ∈ names s) :
    i = j ↔ a = b := by
  obtain ⟨x, hx, rfl, rfl⟩ := mem_names.mp hi
  obtain ⟨y, hy, rfl, rfl⟩ := mem_names.mp hj
  constructor
  · intro hid
    rw [s.operations.eq_of_key hx hy hid]
  · intro hop
    rw [s.operations.eq_of_clash hx hy (by simp [clash, hop])]

/-- Only the row under a key changes, and its names do not. -/
structure Touches (id : Id) (s s' : SyncStore) : Prop where
  batches : s'.batches = s.batches
  names : names s' = names s
  others : ∀ y : SyncOperation, y.id ≠ id → (y ∈ s'.operations.rows ↔ y ∈ s.operations.rows)

theorem Touches.of_tables {id : Id} (hb : s'.batches = s.batches)
    (ho : s'.operations = s.operations) : Touches id s s' :=
  ⟨hb, by rw [Solo.names, Solo.names, ho], fun _ _ => by rw [ho]⟩

theorem Touches.trans {id : Id} {s₁ : SyncStore} (h : Touches id s s₁) (h' : Touches id s₁ s') :
    Touches id s s' where
  batches := h'.batches.trans h.batches
  names := h'.names.trans h.names
  others y hy := (h'.others y hy).trans (h.others y hy)

theorem touches_update {id : Id} {f : SyncOperation → SyncOperation} {row : SyncOperation}
    {t : Table SyncOperation} (hu : s.operations.update id f = .done row t)
    (hf : ∀ x, (f x).operationId = x.operationId) (ho : s'.operations = t)
    (hb : s'.batches = s.batches) : Touches id s s' := by
  obtain ⟨x, hx, hid, hrow, hrows, -⟩ := Table.update_eq_done hu
  refine ⟨hb, ?_, fun y hy => ?_⟩
  · simp only [names, ho, hrows, List.map_map]
    refine List.map_congr_left fun y hy => ?_
    by_cases hkey : y.id = id
    · obtain rfl : y = x := s.operations.eq_of_key hy hx (hkey.trans hid.symm)
      have hop : row.operationId = y.operationId := by
        rw [hrow]
        exact hf y
      have hrowId : row.id = id := by
        rw [hrow]
        rfl
      simp [hkey, hop, hrowId]
    · simp [hkey]
  · rw [ho, Table.mem_update hu]
    constructor
    · rintro (⟨hmem, -⟩ | rfl)
      · exact hmem
      · rw [hrow] at hy
        exact absurd rfl hy
    · exact fun hmem => .inl ⟨hmem, hy⟩

/-! ## The statements on one row -/

variable {x : SyncOperation}

/-- The end of an execution is written to the row. -/
theorem ran_finish (hx : x ∈ s.operations.rows) {p : OperationPatch}
    {y : Except Exn SyncOperation} (h : Ran rt (syncCall (.operationFinish x.id p)) s turns y s') :
    ∃ row, y = .ok row ∧ row = SyncStore.applyOperationPatch s.base.clock x p ∧
      row ∈ s'.operations.rows ∧ Touches x.id s s' ∧ s'.base = s.base ∧
      turns = [⟨.operationFinish x.id p, .ok row, s⟩] := by
  obtain ⟨ho, rfl⟩ := ran_call h
  obtain ⟨ch, hm⟩ := machine_of_outcome ho not_false
  obtain ⟨t, hu⟩ := Table.exists_update hx
    (f := fun x => SyncStore.applyOperationPatch s.base.clock x p)
    fun b _ => ⟨by cases p <;> rfl, by cases p <;> rfl⟩
  rw [key_syncOperation] at hu
  rcases SyncStore.finishOperation_cases hm with ⟨e, rfl, -⟩ | ⟨row, t', hu', rfl, hbase, hb, hops⟩
  · simp only [syncMachine, SyncStore.finishOperation] at hm
    split at hm
    · next h => cases h.symm.trans hu
    · next h => cases h.symm.trans hu
    · cases hm
  · have hrow : row = SyncStore.applyOperationPatch s.base.clock x p := by
      rw [hu'] at hu
      cases hu
      cases p <;> rfl
    refine ⟨row, rfl, hrow, ?_, touches_update hu' (fun z => by cases p <;> rfl) hops hb, hbase, rfl⟩
    rw [hops]
    exact (Table.mem_update hu').mpr (.inr rfl)

/-- A claim of a failed row succeeds. -/
theorem claim_of_failed (hx : x ∈ s.operations.rows) (hfailed : x.status = .FAILED) {ch : Choice}
    {y : Except Exn Nat} (hm : syncMachine rt ch (.operationClaim x.id) s = (y, s')) :
    ¬ ((∃ e, y = .error e) ∨ y = .ok 0) := by
  have hfind : s.operations.find? x.id = some x := Table.find?_eq_some_iff.mpr ⟨hx, rfl⟩
  obtain ⟨t, hu⟩ := Table.exists_update hx (f := SyncStore.claimedRow) fun b _ => ⟨rfl, rfl⟩
  rw [key_syncOperation] at hu
  simp only [syncMachine, SyncStore.claimOperation, hfind, hfailed, if_true] at hm
  split at hm
  · next h => cases h.symm.trans hu
  · next h => cases h.symm.trans hu
  · cases hm
    simp

/-- A failed row is claimed, any other is left alone. -/
theorem ran_claim (hx : x ∈ s.operations.rows) {y : Except Exn Nat}
    (h : Ran rt (syncCall (.operationClaim x.id)) s turns y s') :
    turns = [⟨.operationClaim x.id, y, s⟩] ∧
      ((x.status = .FAILED ∧ y = .ok 1 ∧ SyncStore.claimedRow x ∈ s'.operations.rows ∧
          Touches x.id s s' ∧ s'.base = s.base) ∨
        (x.status ≠ .FAILED ∧ y = .ok 0 ∧ s' = s)) := by
  obtain ⟨ho, rfl⟩ := ran_call h
  obtain ⟨ch, hm⟩ := machine_of_outcome ho not_false
  refine ⟨rfl, ?_⟩
  have hfind : s.operations.find? x.id = some x := Table.find?_eq_some_iff.mpr ⟨hx, rfl⟩
  obtain ⟨t, hu⟩ := Table.exists_update hx (f := SyncStore.claimedRow) fun b _ => ⟨rfl, rfl⟩
  by_cases hfailed : x.status = .FAILED
  · left
    rcases SyncStore.claimOperation_cases hm with
      ⟨he, -⟩ | ⟨z, row, t', -, -, -, hu', rfl, hbase, hb, hops⟩
    · exact absurd he (claim_of_failed hx hfailed hm)
    · refine ⟨hfailed, rfl, ?_, touches_update hu' (fun _ => rfl) hops hb, hbase⟩
      rw [key_syncOperation, hu'] at hu
      cases hu
      rw [hops]
      exact (Table.mem_update hu').mpr (.inr rfl)
  · right
    simp only [syncMachine, SyncStore.claimOperation, hfind, hfailed, if_false] at hm
    cases hm
    exact ⟨hfailed, rfl, rfl⟩

/-! ## Executions -/

/-- The result of an execution. -/
def resultOf (operationId : String) : Except Exn SyncOutput → OperationResult
  | .ok output => { operationId, status := .PROCESSED, output }
  | .error error => {
      operationId
      status := .FAILED
      errorCode := (classifySyncOperationError error).code
      errorMessage := (classifySyncOperationError error).message
      retryable := (classifySyncOperationError error).retryable }

/-- The columns that an execution leaves on its row. -/
def patchOf : Except Exn SyncOutput → OperationPatch
  | .ok output => .processed output
  | .error error =>
      .failed (classifySyncOperationError error).code (classifySyncOperationError error).message

@[simp] theorem resultOf_operationId (operationId : String) (result : Except Exn SyncOutput) :
    (resultOf operationId result).operationId = operationId := by
  cases result <;> rfl

/-- The row of an execution has the status of its result. -/
theorem applyOperationPatch_status (now : Time) (x : SyncOperation) (operationId : String)
    (result : Except Exn SyncOutput) :
    (SyncStore.applyOperationPatch now x (patchOf result)).status =
      (resultOf operationId result).status := by
  cases result <;> rfl

@[simp] theorem applyOperationPatch_operationId (now : Time) (x : SyncOperation)
    (p : OperationPatch) :
    (SyncStore.applyOperationPatch now x p).operationId = x.operationId := by
  cases p <;> rfl

@[simp] theorem applyOperationPatch_id (now : Time) (x : SyncOperation) (p : OperationPatch) :
    (SyncStore.applyOperationPatch now x p).id = x.id := by
  cases p <;> rfl

/-- A `try` block whose handler returns does not throw. -/
theorem ran_caught {p : SyncSvc α} {f : Exn → α} {y : Except Exn α}
    (h : Ran rt (p.tryCatch fun e => .ret (f e)) s turns y s') : ∃ a, y = .ok a := by
  rcases Service.Runs.of_tryCatch (fun _ => rfl) h with
    ⟨a, rfl, -⟩ | ⟨e, s₁, first, second, -, hhandler, -⟩
  · exact ⟨a, rfl⟩
  · exact ⟨f e, (ran_ret hhandler).1⟩

theorem ran_attempt {γ : Type} {operationId : String} {locals : LocalRegistrationMap} {p : Svc γ}
    {y : Except Exn (Attempt γ)} (h : Ran rt (inOperation operationId (attempt locals p)) s turns y s') :
    ∃ attempt, y = .ok attempt := by
  have hcaught := inOperation_tryCatch operationId (do return { result := .ok (← p), locals })
    fun error => return ({ result := .error error, locals } : Attempt γ)
  exact ran_caught (hcaught ▸ h)

theorem ran_attemptFrom {γ : Type} {operationId : String} {locals : LocalRegistrationMap}
    {p : Svc (Attempt γ)} {y : Except Exn (Attempt γ)}
    (h : Ran rt (inOperation operationId (attemptFrom locals p)) s turns y s') :
    ∃ attempt, y = .ok attempt := by
  have hcaught := inOperation_tryCatch operationId p
    fun error => return { result := .error error, locals }
  exact ran_caught (hcaught ▸ h)

/-- An execution does not throw: what it throws is part of its outcome. -/
theorem ran_runOperation {operationId : String} {mappingFirst : Bool}
    {operation : SubmitSyncOperationDto} {batch : SubmitSyncBatchDto}
    {locals : LocalRegistrationMap} {y : Except Exn (Attempt SyncOutput)}
    (h : Ran rt (inOperation operationId
      (runOperation rt mappingFirst operation batch locals)) s turns y s') :
    ∃ attempt, y = .ok attempt := by
  unfold runOperation at h
  split at h
  · have hbind := inOperation_bind operationId (runOfflineRegistration rt operation.payload batch
      locals) fun attempt => (return {
        result := attempt.result.map .registration, locals := attempt.locals }
          : Svc (Attempt SyncOutput))
    rcases ran_bind (hbind ▸ h) with ⟨a, s₁, first, second, -, hret, -⟩ | ⟨e, herror, -⟩
    · exact ⟨_, (ran_ret hret).1⟩
    · obtain ⟨a, ha⟩ := ran_attemptFrom herror
      cases ha
  · exact ran_attempt h
  · exact ran_attempt h
  · exact ran_attempt h

/-- The calls of an execution. -/
theorem all_inOperation {P : Call → Prop} (operationId : String) {p : Svc α} (hp : p.All P) :
    (inOperation operationId p).All fun c => ∃ c', c = .run operationId c' ∧ P c' := by
  induction p with
  | ret a => trivial
  | throw e => trivial
  | ask c k ih => exact ⟨⟨c, rfl, hp.1⟩, fun r => ih r (hp.2 r)⟩

/-- An execution leaves the sync tables alone. -/
theorem ran_inOperation {operationId : String} {p : Svc α} {y : Except Exn α}
    (h : Ran rt (inOperation operationId p) s turns y s') :
    s'.batches = s.batches ∧ s'.operations = s.operations ∧
      ∀ turn ∈ turns, ∃ c, turn.call = .run operationId c := by
  have hall : (inOperation operationId p).All fun c => ∃ c', c = .run operationId c' := by
    refine (all_inOperation operationId (Prog.all_true p)).mono ?_
    rintro _ ⟨c', rfl, -⟩
    exact ⟨c', rfl⟩
  refine ⟨?_, ?_, Service.Runs.all hall h⟩
  · refine (Service.Runs.invariant (I := fun s₁ => s₁.batches = s.batches) ?_ ?_ hall h rfl).1
    · rintro s₁ _ h₁ rfl
      exact h₁
    · rintro c s₁ r s₂ ⟨c', rfl⟩ h₁ ho
      cases syncEffect_of_solo ho with
      | run _ hb _ => exact hb.trans h₁
      | read | failed => exact h₁
  · refine (Service.Runs.invariant (I := fun s₁ => s₁.operations = s.operations) ?_ ?_ hall h rfl).1
    · rintro s₁ _ h₁ rfl
      exact h₁
    · rintro c s₁ r s₂ ⟨c', rfl⟩ h₁ ho
      cases syncEffect_of_solo ho with
      | run _ _ ho' => exact ho'.trans h₁
      | read | failed => exact h₁

/-! ## Operations -/

variable {operation : SyncOperation} {dto : SubmitSyncOperationDto} {batch : SubmitSyncBatchDto}
  {locals : LocalRegistrationMap}

/-- An execution under a row: what it ran, and what it left. -/
structure Execution (rt : Runtime) (order : String → Bool) (id : Id)
    (dto : SubmitSyncOperationDto) (batch : SubmitSyncBatchDto) (locals : LocalRegistrationMap)
    (attempt : Attempt SyncOutput) (s : SyncStore)
    (turns : List (Turn SyncResp Exn SyncStore)) (s' : SyncStore) : Prop where
  ran : ∃ body s₁ row, Ran rt (inOperation dto.operationId
      (runOperation rt (order dto.operationId) dto batch locals)) s body (.ok attempt) s₁ ∧
    s'.base = s₁.base ∧ turns = body ++ [⟨.operationFinish id (patchOf attempt.result), .ok row, s₁⟩]
  stored : ∃ x ∈ s.operations.rows, x.id = id ∧ ∃ now,
    SyncStore.applyOperationPatch now x (patchOf attempt.result) ∈ s'.operations.rows
  touches : Touches id s s'

/-- The calls of an execution and of its end. -/
def Concerns (operationId : String) (id : Id) : SyncCall → Prop
  | .run name _ => name = operationId
  | .operationClaim id' => id' = id
  | .operationFinish id' _ => id' = id
  | _ => False

theorem Execution.concerns {attempt : Attempt SyncOutput} {id : Id}
    (h : Execution rt order id dto batch locals attempt s turns s') :
    ∀ turn ∈ turns, Concerns dto.operationId id turn.call := by
  obtain ⟨body, s₁, row, hran, -, rfl⟩ := h.ran
  intro turn hturn
  rcases List.mem_append.mp hturn with hbody | hlast
  · obtain ⟨c, hc⟩ := (ran_inOperation hran).2.2 turn hbody
    rw [hc]
    rfl
  · rw [List.mem_singleton.mp hlast]
    rfl

/-- The end of an execution: its row is written, and its result returned. -/
theorem ran_written (hx : x ∈ s.operations.rows) {id : Id} (hid : x.id = id) {p : OperationPatch}
    {a : α} {y : Except Exn α}
    (h : Ran rt ((syncCall (.operationFinish id p)).bind fun _ => .ret a) s turns y s') :
    y = .ok a ∧ SyncStore.applyOperationPatch s.base.clock x p ∈ s'.operations.rows ∧
      Touches id s s' ∧ s'.base = s.base ∧
      ∃ row, turns = [⟨.operationFinish id p, .ok row, s⟩] := by
  subst hid
  rcases ran_bind h with ⟨row, s₁, first, second, hfinish, hret, rfl⟩ | ⟨e, herror, -⟩
  · obtain ⟨row', hok, rfl, hrow, htouches, hbase, rfl⟩ := ran_finish hx hfinish
    obtain ⟨rfl, rfl, rfl⟩ := ran_ret hret
    exact ⟨rfl, hrow, htouches, hbase, _, rfl⟩
  · obtain ⟨row, hok, -⟩ := ran_finish hx herror
    cases hok

theorem ran_finishOperation (hx : x ∈ s.operations.rows) (hid : x.id = operation.id)
    {result : Except Exn SyncOutput} {y : Except Exn OperationResult}
    (h : Ran rt (finishOperation operation result) s turns y s') :
    y = .ok (resultOf operation.operationId result) ∧
      SyncStore.applyOperationPatch s.base.clock x (patchOf result) ∈ s'.operations.rows ∧
      Touches operation.id s s' ∧ s'.base = s.base ∧
      ∃ row, turns = [⟨.operationFinish operation.id (patchOf result), .ok row, s⟩] := by
  cases result with
  | error error => exact ran_written hx hid h
  | ok output =>
      rcases Service.Runs.of_tryCatch (fun _ => rfl) h with
        ⟨a, rfl, hok⟩ | ⟨e, s₁, first, second, hthrown, -, -⟩
      · exact ran_written hx hid hok
      · cases (ran_written hx hid hthrown).1

/-- `processOperation` executes once, and writes how that ended to the row. -/
theorem ran_processOperation (hx : x ∈ s.operations.rows) (hid : x.id = operation.id)
    {y : Except Exn (OperationResult × LocalRegistrationMap)}
    (h : Ran rt (processOperation rt order operation dto batch locals) s turns y s') :
    ∃ attempt, Execution rt order operation.id dto batch locals attempt s turns s' ∧
      y = .ok (resultOf operation.operationId attempt.result, attempt.locals) := by
  rcases ran_bind h with ⟨attempt, s₁, body, rest, hrun, hrest, rfl⟩ | ⟨e, herror, -⟩
  · obtain ⟨hb, ho, -⟩ := ran_inOperation hrun
    have hx₁ : x ∈ s₁.operations.rows := ho ▸ hx
    refine ⟨attempt, ?_⟩
    rcases ran_bind hrest with
      ⟨result, s₂, last, nothing, hfinish, hret, rfl⟩ | ⟨e, herror, -⟩
    · obtain ⟨hresult, hrow, htouches, hbase, row, rfl⟩ := ran_finishOperation hx₁ hid hfinish
      obtain ⟨rfl, rfl, rfl⟩ := ran_ret hret
      cases hresult
      refine ⟨⟨⟨body, s₁, row, hrun, hbase, by rw [List.append_nil]⟩, ⟨x, hx, hid, _, hrow⟩, ?_⟩, rfl⟩
      exact (Touches.of_tables hb ho).trans htouches
    · cases (ran_finishOperation hx₁ hid herror).1
  · obtain ⟨a, ha⟩ := ran_runOperation herror
    cases ha

/-- How a retry goes: the row is taken, its input cannot be read, or it is executed. -/
inductive Retried (rt : Runtime) (order : String → Bool) (operation : SyncOperation)
    (batch : SubmitSyncBatchDto) (locals : LocalRegistrationMap) (s : SyncStore)
    (turns : List (Turn SyncResp Exn SyncStore)) :
    Except Exn (Option (OperationResult × LocalRegistrationMap)) → SyncStore → Prop
  | taken (hx : ∀ x ∈ s.operations.rows, x.id = operation.id → x.status ≠ .FAILED)
      (hturns : ∀ turn ∈ turns, turn.call = .operationClaim operation.id) :
      Retried rt order operation batch locals s turns (.ok none) s
  | unreadable {e s'} (he : toRecord operation.input = .error e)
      (hx : ∃ x ∈ s.operations.rows, x.id = operation.id ∧ x.status = .FAILED ∧
        SyncStore.claimedRow x ∈ s'.operations.rows)
      (htouches : Touches operation.id s s') :
      Retried rt order operation batch locals s turns (.error e) s'
  | executed {payload attempt s₁ first second s'}
      (hinput : toRecord operation.input = .ok payload)
      (hx : ∃ x ∈ s.operations.rows, x.id = operation.id ∧ x.status = .FAILED)
      (hturns : turns = first ++ second)
      (hfirst : ∀ turn ∈ first, turn.call = .operationClaim operation.id)
      (hclaim : Touches operation.id s s₁) (hbase : s₁.base = s.base)
      (hrun : Execution rt order operation.id
        { operationId := operation.operationId, type := operation.type, payload } batch locals
        attempt s₁ second s') :
      Retried rt order operation batch locals s turns
        (.ok (some (resultOf operation.operationId attempt.result, attempt.locals))) s'

theorem ran_retryOperation (hx : x ∈ s.operations.rows) (hid : x.id = operation.id)
    {y : Except Exn (Option (OperationResult × LocalRegistrationMap))}
    (h : Ran rt (retryOperation rt order operation batch locals) s turns y s') :
    Retried rt order operation batch locals s turns y s' := by
  rcases ran_bind h with ⟨count, s₁, first, second, hclaim, hrest, rfl⟩ | ⟨e, herror, -⟩
  · rw [← hid] at hclaim
    obtain ⟨hfirst, ⟨hfailed, hcount, hrow, htouches, hbase⟩ | ⟨hfailed, hcount, rfl⟩⟩ :=
      ran_claim hx hclaim
    · cases hcount
      rw [hid] at htouches
      have hfirst' : ∀ turn ∈ first, turn.call = .operationClaim operation.id := by
        intro turn hturn
        rw [hfirst] at hturn
        rw [List.mem_singleton.mp hturn, hid]
      simp only [if_true] at hrest
      rcases ran_bind hrest with ⟨payload, s₂, nothing, last, hpayload, hlast, rfl⟩ | ⟨e, herror, rfl⟩
      · obtain ⟨hinput, rfl, rfl⟩ := Service.Runs.of_ofExcept hpayload
        rcases ran_bind hlast with ⟨result, s₃, body, nothing, hrun, hret, rfl⟩ | ⟨e, herror, -⟩
        · obtain ⟨attempt, hexecution, hresult⟩ :=
            ran_processOperation (x := SyncStore.claimedRow x) hrow hid hrun
          obtain ⟨rfl, rfl, rfl⟩ := ran_ret hret
          cases hresult
          exact .executed hinput.symm ⟨x, hx, hid, hfailed⟩ (by simp) hfirst' htouches
            hbase hexecution
        · obtain ⟨attempt, -, hok⟩ :=
            ran_processOperation (x := SyncStore.claimedRow x) hrow hid herror
          cases hok
      · obtain ⟨hinput, rfl, rfl⟩ := Service.Runs.of_ofExcept herror
        exact .unreadable hinput.symm ⟨x, hx, hid, hfailed, hrow⟩ htouches
    · cases hcount
      obtain ⟨rfl, rfl, rfl⟩ := ran_ret hrest
      refine .taken (fun z hz hzid => ?_) fun turn hturn => ?_
      · rwa [Table.eq_of_key _ hz hx (hzid.trans hid.symm)]
      · rw [hfirst, List.append_nil] at hturn
        rw [List.mem_singleton.mp hturn, hid]
  · rw [← hid] at herror
    obtain ⟨-, ⟨-, hok, -⟩ | ⟨-, hok, -⟩⟩ := ran_claim hx herror <;> cases hok

end Solo

end CreativeBackend
