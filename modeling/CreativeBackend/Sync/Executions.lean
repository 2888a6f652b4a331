import CreativeBackend.Sync.SyncEffects

/-!
# Runs and their executions

A run of the sync service reads and writes the sync tables and executes operations.
Where every call outside the executions keeps an invariant, and every execution is
safe, all submissions and recoveries are safe.
-/

namespace CreativeBackend

open Interaction Prog

/-- The calls outside the executions. -/
def SyncCall.outside : SyncCall → Bool
  | .run _ _ => false
  | .base c => c.checks
  | _ => true

/-- Programs that execute nothing. -/
abbrev Outside {α : Type} (p : SyncSvc α) : Prop := p.All (·.outside = true)

theorem onScanStore_outside {α : Type} {p : Svc α} (hp : Checks p) : Outside (onScanStore p) := by
  induction p with
  | ret a => trivial
  | throw e => trivial
  | ask c k ih => exact ⟨hp.1, fun r => ih r (hp.2 r)⟩

namespace SyncService

variable (rt : Runtime) (order : String → Bool)

theorem ensureSubmittable_checks (dto : SubmitSyncBatchDto) :
    Checks (ensureSubmittable dto) := by
  refine all_bind (ScansService.ensureEventCanBeModified_checks _) fun _ => ?_
  refine all_bind (ScansService.ensureActiveDevice_checks _ _) fun _ => ?_
  exact all_bind (ScansService.ensureActiveStaffSession_checks _ _) fun _ => trivial

theorem failOperation_outside (x : SyncOperation) (error : Exn) :
    Outside (failOperation x error) :=
  all_bind (all_call rfl) fun _ => trivial

theorem finishOperation_outside (x : SyncOperation) (result : Except Exn SyncOutput) :
    Outside (finishOperation x result) := by
  cases result with
  | error error => exact failOperation_outside x error
  | ok output =>
      exact all_tryCatch (all_bind (all_call rfl) fun _ => trivial) (failOperation_outside x)

theorem readDuplicates_outside (ids : List String) : Outside (readDuplicates ids) := by
  unfold readDuplicates
  split
  · exact all_call rfl
  · trivial

theorem findDuplicateOperationIds_outside (ids : List String) :
    Outside (findDuplicateOperationIds ids) :=
  all_bind (all_call rfl) fun _ => trivial

end SyncService

/-- Calls outside the executions keep the invariant, and every execution is safe. -/
structure Executes (rt : Runtime) {v : Service SyncResp Exn SyncStore}
    {permits : Nat → SyncCall → World SyncResp Exn SyncStore → Prop} (D : Discipline v permits) :
    Prop where
  call : ∀ c : SyncCall, c.outside = true → ∀ t w, D.inv w → permits t c w →
    ∀ x s', v.Outcome c w.store x s' → D.inv (w.log t c x s')
  run : ∀ mappingFirst operation batch locals t w, D.inv w → D.logic.Safe t
    (inOperation operation.operationId
      (SyncService.runOperation rt mappingFirst operation batch locals)) w

namespace Executes

variable {rt : Runtime} {order : String → Bool} {v : Service SyncResp Exn SyncStore}
  {permits : Nat → SyncCall → World SyncResp Exn SyncStore → Prop} {D : Discipline v permits}
  {t : Nat} {w : World SyncResp Exn SyncStore}

theorem outside (h : Executes rt D) {α : Type} {p : SyncSvc α} (hp : Outside p)
    (w : World SyncResp Exn SyncStore) : D.logic.Safe t p w :=
  Discipline.safe_of_all h.call hp w

/-- A program that executes nothing, and what follows it. -/
theorem outside_bind (h : Executes rt D) {α β : Type} {p : SyncSvc α} {f : α → SyncSvc β}
    (hi : D.inv w) (hp : Outside p) (hf : ∀ a w', D.inv w' → D.logic.Safe t (f a) w') :
    D.logic.Safe t (p.bind f) w :=
  Logic.safe_bind hi (h.outside hp w) hf

variable (h : Executes rt D)

include h

theorem processOperation (x : SyncOperation) (dto : SubmitSyncOperationDto)
    (batch : SubmitSyncBatchDto) (locals : LocalRegistrationMap) (hi : D.inv w) :
    D.logic.Safe t (SyncService.processOperation rt order x dto batch locals) w := by
  refine Logic.safe_bind hi (h.run _ _ _ _ t w hi) fun attempt w₁ hi₁ => ?_
  exact h.outside_bind hi₁ (SyncService.finishOperation_outside x _) fun _ _ _ _ _ _ => trivial

theorem retryOperation (x : SyncOperation) (batch : SubmitSyncBatchDto)
    (locals : LocalRegistrationMap) (hi : D.inv w) :
    D.logic.Safe t (SyncService.retryOperation rt order x batch locals) w := by
  refine h.outside_bind hi (all_call rfl) fun count w₁ hi₁ => ?_
  split
  · refine h.outside_bind hi₁ (all_ofExcept _) fun payload w₂ hi₂ => ?_
    exact Logic.safe_bind hi₂ (h.processOperation x _ batch locals hi₂) fun _ _ _ _ _ _ => trivial
  · exact fun _ _ _ => trivial

theorem replayOperation (dto : SubmitSyncOperationDto) (batch : SubmitSyncBatchDto)
    (locals : LocalRegistrationMap) (existing : Option SyncOperation) (hi : D.inv w) :
    D.logic.Safe t (SyncService.replayOperation rt order dto batch locals existing) w := by
  cases existing with
  | none => exact fun _ _ _ => trivial
  | some x =>
      simp only [SyncService.replayOperation]
      split
      · exact fun _ _ _ => trivial
      · exact fun _ _ _ => trivial
      · split
        · refine Logic.safe_bind hi (h.retryOperation x batch locals hi) fun result w₁ _ => ?_
          cases result <;> exact fun _ _ _ => trivial
        · exact fun _ _ _ => trivial
      · exact fun _ _ _ => trivial
      · exact fun _ _ _ => trivial

theorem processEntry (rows : SyncService.BatchRows) (batch : SubmitSyncBatchDto)
    (dto : SubmitSyncOperationDto) (locals : LocalRegistrationMap) (hi : D.inv w) :
    D.logic.Safe t (SyncService.processEntry rt order rows batch dto locals) w := by
  unfold SyncService.processEntry
  split
  · exact Logic.safe_bind hi (h.replayOperation dto batch locals _ hi)
      fun _ _ _ _ _ _ => trivial
  · split
    · exact fun _ _ _ => trivial
    · next x _ =>
        exact Logic.safe_bind hi (h.processOperation x dto batch locals hi)
          fun _ _ _ _ _ _ => trivial

theorem processEntries (rows : SyncService.BatchRows) (batch : SubmitSyncBatchDto)
    (operations : List SubmitSyncOperationDto) (locals : LocalRegistrationMap) (hi : D.inv w) :
    D.logic.Safe t (SyncService.processEntries rt order rows batch operations locals) w := by
  induction operations generalizing w locals with
  | nil => exact fun _ _ _ => trivial
  | cons dto rest ih =>
      refine Logic.safe_bind hi (h.processEntry rows batch dto locals hi) fun result w₁ hi₁ => ?_
      exact Logic.safe_bind hi₁ (ih result.2 hi₁) fun _ _ _ _ _ _ => trivial

theorem processBatch (id : Id) (dto : SubmitSyncBatchDto) (ids : List String) (hi : D.inv w) :
    D.logic.Safe t (SyncService.processBatch rt order id dto ids) w := by
  refine h.outside_bind hi (all_call rfl) fun _ w₁ hi₁ => ?_
  refine h.outside_bind hi₁ (all_call rfl) fun operations w₂ hi₂ => ?_
  refine h.outside_bind hi₂ (SyncService.readDuplicates_outside ids) fun existing w₃ hi₃ => ?_
  refine Logic.safe_bind hi₃ (h.processEntries _ dto _ [] hi₃) fun results w₄ _ => ?_
  exact h.outside (all_call rfl) w₄

theorem submitBatch (dto : SubmitSyncBatchDto) (hi : D.inv w) :
    D.logic.Safe t (SyncService.submitBatch rt order dto) w := by
  refine h.outside_bind hi (all_call rfl) fun found w₁ hi₁ => ?_
  cases found with
  | some existingBatch => exact fun _ _ _ => trivial
  | none =>
      refine h.outside_bind hi₁ (onScanStore_outside (SyncService.ensureSubmittable_checks dto))
        fun _ w₂ hi₂ => ?_
      refine h.outside_bind hi₂ (SyncService.findDuplicateOperationIds_outside _)
        fun ids w₃ hi₃ => ?_
      refine h.outside_bind hi₃ (all_call rfl) fun batch w₄ hi₄ => ?_
      exact Logic.safe_bind hi₄ (h.processBatch _ dto ids hi₄) fun _ _ _ _ _ _ => trivial

theorem recoverOperations (rows : List (SyncOperation × SyncBatch)) (hi : D.inv w) :
    D.logic.Safe t (SyncService.recoverOperations rt order rows) w := by
  induction rows generalizing w with
  | nil => exact fun _ _ _ => trivial
  | cons row rest ih =>
      refine Logic.safe_bind hi ?_ fun _ w₁ hi₁ => ?_
      · refine Logic.safe_bind hi (h.retryOperation row.1 _ [] hi) fun result w₁ _ => ?_
        cases result <;> exact fun _ _ _ => trivial
      · exact Logic.safe_bind hi₁ (ih hi₁) fun _ _ _ _ _ _ => trivial

theorem recoverFailedOfflineRegistrations (input : RecoverInput) (hi : D.inv w) :
    D.logic.Safe t (SyncService.recoverFailedOfflineRegistrations rt order input) w := by
  refine h.outside_bind hi (all_call rfl) fun failed w₁ hi₁ => ?_
  dsimp only
  split
  · exact fun _ _ _ => trivial
  · exact Logic.safe_bind hi₁ (h.recoverOperations _ hi₁) fun _ _ _ _ _ _ => trivial

/-- Every operation of the sync service is safe. -/
theorem syncRun {p : SyncSvc Unit} (hp : SyncRun rt p) (hi : D.inv w) : D.logic.Safe t p w := by
  cases hp with
  | submitBatch order dto => exact Discipline.safe_void hi (h.submitBatch dto hi)
  | recoverFailedOfflineRegistrations order input =>
      exact Discipline.safe_void hi (h.recoverFailedOfflineRegistrations input hi)

end Executes

end CreativeBackend
