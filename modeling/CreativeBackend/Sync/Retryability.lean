import CreativeBackend.Sync.Resubmission
import CreativeBackend.Runtime.Text

/-!
# Which failures are retried

`processOperation` reports with a failure whether it is retryable. A later submission of
the operation decides again, from the type and the error code of its row. The two
decisions agree on the failures that `Agree` describes.

## Implementation notes

The errors here are the values that a `throw` of any library can have: Nest's exceptions
with any response, other errors, and values that are no errors. `ofExn` embeds the
exceptions of the services, which Nest builds from a text.
-/

namespace CreativeBackend

open Relational Interaction

/-- A thrown value, with `getResponse()` and `message` where it has them. -/
inductive Thrown where
  | conflict (response : Json) (message : String)
  | badRequest (response : Json) (message : String)
  | notFound (response : Json) (message : String)
  | error (message : String)
  | other

namespace Thrown

/-- The response that Nest builds from a text. -/
def httpResponse (statusCode : Rat) (error message : String) : Json :=
  .obj [("message", .str message), ("error", .str error), ("statusCode", .num statusCode)]

def ofExn : Exn → Thrown
  | .badRequest message => .badRequest (httpResponse 400 "Bad Request" message) message
  | .notFound message => .notFound (httpResponse 404 "Not Found" message) message
  | .conflict message => .conflict (httpResponse 409 "Conflict" message) message
  | .serviceUnavailable message => .error message
  | .prisma code => .error (Exn.prisma code).message
  | .error message => .error message

end Thrown

namespace SyncService

/-- The strings of an array. -/
def stringItems (items : List Json) : List String :=
  items.filterMap fun
    | .str item => some item
    | _ => none

def getConflictErrorCode (message : String) : String :=
  if message = "OFFLINE_REGISTRATION_CONFLICT" then "OFFLINE_REGISTRATION_CONFLICT"
  else if includes message "Duplicate registration" || includes message "unique" then
    "DUPLICATE_REGISTRATION"
  else "SYNC_OPERATION_CONFLICT"

/-- The `message` of a response that is a record, or the one of the exception. -/
def recordMessage (response : Json) (message : String) : String :=
  match response.field? "message" with
  | some (.arr items) => String.intercalate ", " (stringItems items)
  | some (.str text) => text
  | _ => message

def getHttpExceptionMessage (response : Json) (message : String) : String :=
  match response with
  | .str text => text
  | .obj _ => recordMessage response message
  | _ => message

/-- The code that a conflict carries in its response. -/
def carriedCode (response : Json) : Option String :=
  response.string? "code" <|> response.string? "errorCode"

/-- `classifySyncOperationError` on any thrown value. -/
def classifyThrown : Thrown → ClassifiedError
  | .conflict (.str text) _ =>
      { code := getConflictErrorCode text, message := text, retryable := false }
  | .conflict (.obj fields) message => {
      code := (carriedCode (.obj fields)).getD "DUPLICATE_REGISTRATION"
      message := recordMessage (.obj fields) message
      retryable := false }
  | .conflict _ message => {
      code := "DUPLICATE_REGISTRATION"
      message := (truthy (some message)).getD "Duplicate registration for this event"
      retryable := false }
  | .badRequest response message => {
      code := "INVALID_OFFLINE_REGISTRATION"
      message := getHttpExceptionMessage response message
      retryable := false }
  | .notFound response message => {
      code := "OFFLINE_REGISTRATION_RESOURCE_NOT_FOUND"
      message := getHttpExceptionMessage response message
      retryable := false }
  | .error message => { code := "OPERATION_FAILED", message, retryable := true }
  | .other => { code := "OPERATION_FAILED", message := "Operation failed", retryable := true }

/-- On the exceptions of the services it is the classification of `processOperation`. -/
theorem classifyThrown_ofExn (error : Exn) :
    classifyThrown (.ofExn error) = classifySyncOperationError error := by
  cases error <;> rfl

/-- The `catch` of `processOperation`, for any thrown value. -/
def failThrown (operation : SyncOperation) (error : Thrown) : SyncSvc OperationResult := do
  let classified := classifyThrown error
  let _ ← syncCall (.operationFinish operation.id (.failed classified.code classified.message))
  return {
    operationId := operation.operationId
    status := .FAILED
    errorCode := classified.code
    errorMessage := classified.message
    retryable := classified.retryable }

theorem failThrown_ofExn (operation : SyncOperation) (error : Exn) :
    failThrown operation (.ofExn error) = failOperation operation error := by
  cases error <;> rfl

end SyncService

namespace Retryability

open SyncService Resubmission Ownership

variable {rt : Runtime} {order : String → Bool} {ch ch' : Choice} {s s₁ s₂ : SyncStore}

/-! ## The codes -/

/-- A code after which a registration is executed again. -/
def Transient (code : String) : Prop :=
  let name := toUpperCase (trim code)
  name = "" ∨ name ∈ RETRYABLE_OFFLINE_OPERATION_CODES ∨ startsWith name "HTTP_5" = true ∨
    startsWith name "NETWORK_" = true ∨ startsWith name "UNKNOWN_" = true

/-- No permanent code is transient. -/
theorem permanent_not_transient : ∀ name ∈ NON_RETRYABLE_OFFLINE_OPERATION_CODES,
    ¬ (name = "" ∨ name ∈ RETRYABLE_OFFLINE_OPERATION_CODES ∨ startsWith name "HTTP_5" = true ∨
      startsWith name "NETWORK_" = true ∨ startsWith name "UNKNOWN_" = true) := by
  decide +kernel

/-- A failed operation may be retried exactly where it is a registration whose code is
transient. -/
theorem canRetry_iff {x : SyncOperation} {code : String} (hcode : x.errorCode = some code) :
    canRetryFailedOfflineOperation x = true ↔ x.type = .OFFLINE_REGISTRATION ∧ Transient code := by
  have hpermanent := permanent_not_transient (toUpperCase (trim code))
  unfold canRetryFailedOfflineOperation
  rw [hcode]
  split
  · next htype => simp [htype]
  · next htype =>
      rw [not_not] at htype
      simp only [htype, true_and, Option.map_some, Transient]
      split
      · next hblank =>
          have hname : toUpperCase (trim code) = "" := by
            by_contra hne
            rw [truthy_eq_some_iff.mpr ⟨rfl, hne⟩] at hblank
            cases hblank
          simp [hname]
      · next name hname =>
          obtain ⟨hsome, hne⟩ := truthy_eq_some_iff.mp hname
          obtain rfl : toUpperCase (trim code) = name := Option.some.inj hsome
          split
          · next hmem => simpa using hpermanent hmem
          · simp [hne, or_assoc]

/-- The codes that the classification writes itself are permanent, but for the one of an
unexpected error. -/
theorem own_codes_permanent : ∀ code ∈ ["DUPLICATE_REGISTRATION", "INVALID_OFFLINE_REGISTRATION",
    "OFFLINE_REGISTRATION_RESOURCE_NOT_FOUND", "OFFLINE_REGISTRATION_CONFLICT",
    "SYNC_OPERATION_CONFLICT"], ¬ Transient code := by
  unfold Transient
  decide +kernel

theorem transient_failed : Transient "OPERATION_FAILED" := by
  unfold Transient
  decide +kernel

theorem conflictCode_permanent (message : String) : ¬ Transient (getConflictErrorCode message) := by
  apply own_codes_permanent
  unfold getConflictErrorCode
  split
  · simp
  · split <;> simp

/-! ## The agreement of the two decisions -/

/-- The reported retryability of an error says whether an operation of the type is retried. -/
def Agree (type : SyncOperationType) : Thrown → Prop
  | .conflict response _ => type = .OFFLINE_REGISTRATION →
      ∀ code, carriedCode response = some code → ¬ Transient code
  | .badRequest _ _ | .notFound _ _ => True
  | .error _ | .other => type = .OFFLINE_REGISTRATION

/-- A conflict is stored with a transient code exactly where it carries one. -/
theorem transient_conflict_iff (response : Json) (message : String) :
    Transient (classifyThrown (.conflict response message)).code ↔
      ∃ code, carriedCode response = some code ∧ Transient code := by
  have hduplicate : ¬ Transient "DUPLICATE_REGISTRATION" := own_codes_permanent _ (by simp)
  cases response with
  | str text =>
      have hcode : ¬ Transient (classifyThrown (.conflict (.str text) message)).code :=
        conflictCode_permanent text
      simp [hcode, carriedCode, Json.string?, Json.field?]
  | obj fields =>
      show Transient ((carriedCode (.obj fields)).getD _) ↔ _
      cases carriedCode (.obj fields) with
      | none => simpa using hduplicate
      | some code => simp
  | null => simpa [classifyThrown, carriedCode, Json.string?, Json.field?] using hduplicate
  | bool b => simpa [classifyThrown, carriedCode, Json.string?, Json.field?] using hduplicate
  | num q => simpa [classifyThrown, carriedCode, Json.string?, Json.field?] using hduplicate
  | arr items => simpa [classifyThrown, carriedCode, Json.string?, Json.field?] using hduplicate

/-- The reported retryability is the later decision exactly on the errors of `Agree`. -/
theorem agree_iff (type : SyncOperationType) (error : Thrown) :
    ((classifyThrown error).retryable = true ↔
      type = .OFFLINE_REGISTRATION ∧ Transient (classifyThrown error).code) ↔ Agree type error := by
  cases error with
  | conflict response message =>
      have hreported : (classifyThrown (.conflict response message)).retryable = false := by
        cases response <;> rfl
      rw [hreported, transient_conflict_iff]
      simp [Agree]
  | badRequest response message =>
      have hcode : ¬ Transient "INVALID_OFFLINE_REGISTRATION" := own_codes_permanent _ (by simp)
      simp [Agree, classifyThrown, hcode]
  | notFound response message =>
      have hcode : ¬ Transient "OFFLINE_REGISTRATION_RESOURCE_NOT_FOUND" :=
        own_codes_permanent _ (by simp)
      simp [Agree, classifyThrown, hcode]
  | error message => simp [Agree, classifyThrown, transient_failed]
  | other => simp [Agree, classifyThrown, transient_failed]

/-! ## The row of a reported failure -/

/-- A reported failure is stored with its code. -/
theorem stored_of_failThrown {x y : SyncOperation} {error : Thrown} {result : OperationResult}
    (hrun : (failThrown x error).run (syncMachine rt ch) s = (.ok result, s₁))
    (hy : y ∈ s₁.operations.rows) (hid : y.id = x.id) :
    y.status = .FAILED ∧ y.errorCode = some (classifyThrown error).code ∧
      result.retryable = some (classifyThrown error).retryable := by
  obtain ⟨row, s', hfinish, hret⟩ := Prog.run_bind_eq_ok _ hrun
  cases hret
  rw [syncCall, Prog.run_call] at hfinish
  rcases SyncStore.finishOperation_cases hfinish with ⟨e, he, -⟩ | ⟨row', t, hu, -, -, -, ho⟩
  · cases he
  · rcases (Table.mem_update hu).mp (ho ▸ hy) with ⟨-, hne⟩ | rfl
    · exact absurd hid hne
    · obtain ⟨old, -, -, hrow, -, -⟩ := Table.update_eq_done hu
      rw [hrow]
      exact ⟨rfl, rfl, rfl⟩

/-- What `processOperation` reports of a failure is what a later submission does. -/
def RetriedAsReported (rt : Runtime) (order : String → Bool) (ch : Choice) (s : SyncStore)
    (dto : SubmitSyncBatchDto) (y : SyncOperation) (result : OperationResult) : Prop :=
  (result.retryable = some true → ExecutesAgain rt order ch s dto y) ∧
    (result.retryable = some false → ¬ ExecutesAgain rt order ch s dto y)

theorem executes_iff {y : SyncOperation} {code : String} (hs : AllRecorded s)
    (hy : y ∈ s.operations.rows) (hfailed : y.status = .FAILED) (hcode : y.errorCode = some code)
    {dto : SubmitSyncBatchDto} (hacc : Resubmission.Accepted rt ch s dto) (hnames : Names dto y) :
    ExecutesAgain rt order ch s dto y ↔ y.type = .OFFLINE_REGISTRATION ∧ Transient code := by
  rw [← canRetry_iff hcode]
  constructor
  · intro hexec
    by_contra hretry
    rw [Bool.not_eq_true] at hretry
    exact not_executes_of_idle hs hy (.inr ⟨hfailed, hretry⟩) hacc hnames hexec
  · intro hretry
    exact executes_of_retry hs hy hfailed hretry hacc hnames

end Retryability

open SyncService Resubmission Retryability in
/-- After a reported failure, a later batch with the operation does with it what was reported
exactly on the errors of `Agree`, whatever happened to other operations in between. -/
theorem retried_as_reported_iff {rt : Runtime} {error : Thrown} {x y : SyncOperation}
    {ch ch' : Choice} {s s₁ : SyncStore} {result : OperationResult}
    (hrun : (failThrown x error).run (syncMachine rt ch) s = (.ok result, s₁))
    (hstored : y ∈ s₁.operations.rows) (hid : y.id = x.id) {s₀ : SyncStore}
    (h₀ : AllRecorded s₀) {cfg : Config SyncResp Exn SyncWorld}
    (hr : (syncService rt).system.Reach (Service.init s₀) cfg)
    (hy : y ∈ cfg.world.store.operations.rows) {order : String → Bool}
    {dto : SubmitSyncBatchDto} (hacc : Resubmission.Accepted rt ch' cfg.world.store dto)
    (hnames : Names dto y) :
    RetriedAsReported rt order ch' cfg.world.store dto y result ↔
      Retryability.Agree y.type error := by
  have hs : AllRecorded cfg.world.store := allRecorded_of_reach h₀ hr
  obtain ⟨hfailed, hcode, hreported⟩ := stored_of_failThrown hrun hstored hid
  rw [RetriedAsReported, hreported, executes_iff hs hy hfailed hcode hacc hnames, ← agree_iff]
  cases (classifyThrown error).retryable <;> simp

namespace Retryability

open SyncService Resubmission

/-- A batch with the sample operation of a type; the process stops before it ends. -/
def interrupted (type : SyncOperationType) : List (syncService sampleRuntime).Action :=
  [submission (sampleBatch "batch-1" [{ sampleOperation "op-1" with type }])] ++ syncSteps 0 5

/-- The operation of the store is of the type, and can be resubmitted once it failed. -/
def failable (type : SyncOperationType) (error : Thrown) (s : SyncStore) : Bool :=
  s.operations.rows.any fun x =>
    match (failThrown x error).run (syncMachine sampleRuntime {}) s with
    | (.ok _, s₁) => resubmittable .FAILED s₁ && s₁.operations.rows.all fun y =>
        y.id = x.id && y.type = type
    | _ => false

theorem exists_failed (type : SyncOperationType) (error : Thrown)
    (h : ((syncService sampleRuntime).perform (fun _ _ _ => True) (interrupted type)
      (Service.init sampleSyncStore)).any (fun cfg => failable type error cfg.world.store) = true) :
    ∃ x y s s₁ result,
      (failThrown x error).run (syncMachine sampleRuntime {}) s = (.ok result, s₁) ∧
      y ∈ s₁.operations.rows ∧ y.id = x.id ∧ y.type = type ∧ AllRecorded s₁ ∧
      Resubmission.Accepted sampleRuntime {} s₁ (sampleBatch "batch-2" [sampleOperation "op-1"]) ∧
      Names (sampleBatch "batch-2" [sampleOperation "op-1"]) y := by
  obtain ⟨cfg, hr, hcut⟩ := Service.exists_reach_of_perform (fun _ _ _ => True) (interrupted type)
    (Service.init sampleSyncStore) (failable type error) (by simp [interrupted]) h
  rw [System.restrict_true] at hr
  obtain ⟨x, hx, hfail⟩ := List.any_eq_true.mp hcut
  split at hfail
  · next result s₁ hrun =>
      rw [Bool.and_eq_true, List.all_eq_true] at hfail
      obtain ⟨hready, hrows⟩ := hfail
      obtain ⟨⟨y, hy, hop, -⟩, hacc⟩ := accepted_of_resubmittable hready
      have hrow := hrows y hy
      simp only [Bool.and_eq_true, decide_eq_true_eq] at hrow
      have hs : AllRecorded cfg.world.store := allRecorded_of_reach allRecorded_sample hr
      have hs₁ : AllRecorded ((failThrown x error).run (syncMachine sampleRuntime {})
          cfg.world.store).2 := hs.run _
      rw [hrun] at hs₁
      exact ⟨x, y, _, s₁, result, hrun, hy, hrow.1, hrow.2, hs₁, hacc,
        sampleOperation "op-1", List.mem_singleton.mpr rfl, hop.symm⟩
  · cases hfail

end Retryability

open SyncService Resubmission Retryability in
/-- An unexpected error in a registration: it is reported as retryable, and retried. -/
theorem failed_registration_is_retried : ∃ x y s₁ result dto,
    (∃ s, (failThrown x (.error "Connection terminated")).run (syncMachine sampleRuntime {}) s =
      (.ok result, s₁)) ∧ y.id = x.id ∧
    RetriedAsReported sampleRuntime (fun _ => true) {} s₁ dto y result := by
  obtain ⟨x, y, s, s₁, result, hrun, hy, hid, htype, hs₁, hacc, hnames⟩ :=
    exists_failed .OFFLINE_REGISTRATION (.error "Connection terminated") (by decide +kernel)
  exact ⟨x, y, s₁, result, _, ⟨s, hrun⟩, hid,
    (retried_as_reported_iff hrun hy hid hs₁ .refl hy hacc hnames).mpr htype⟩

open SyncService Resubmission Retryability in
/-- An unexpected error in the generation of a QR token is reported as retryable, and no later
batch executes the operation again. -/
theorem failed_qr_generation_is_replayed :
    ¬ ∀ (rt : Runtime) (error : Thrown) (x y : SyncOperation) (ch ch' : Choice)
      (s s₁ : SyncStore) (result : OperationResult) (s₀ : SyncStore)
      (cfg : Config SyncResp Exn SyncWorld) (order : String → Bool) (dto : SubmitSyncBatchDto),
      (failThrown x error).run (syncMachine rt ch) s = (.ok result, s₁) →
      y ∈ s₁.operations.rows → y.id = x.id → AllRecorded s₀ →
      (syncService rt).system.Reach (Service.init s₀) cfg →
      y ∈ cfg.world.store.operations.rows →
      Resubmission.Accepted rt ch' cfg.world.store dto → Names dto y →
        RetriedAsReported rt order ch' cfg.world.store dto y result := by
  intro h
  obtain ⟨x, y, s, s₁, result, hrun, hy, hid, htype, hs₁, hacc, hnames⟩ :=
    exists_failed .QR_GENERATION (.error "Connection terminated") (by decide +kernel)
  obtain ⟨hfailed, hcode, hreported⟩ := stored_of_failThrown hrun hy hid
  have hexec := (h _ _ x y {} {} s s₁ result s₁ (Service.init s₁) (fun _ => true) _ hrun hy hid hs₁
    .refl hy hacc hnames).1 hreported
  have hregistration := ((executes_iff hs₁ hy hfailed hcode hacc hnames).mp hexec).1
  rw [htype] at hregistration
  cases hregistration

end CreativeBackend
