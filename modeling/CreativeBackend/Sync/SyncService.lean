import CreativeBackend.Sync.SyncStore

/-!
# The sync service

`submitBatch` stores the new operations of a batch with the batch, and executes them
one after the other. An operation that was received before is answered from its row,
or claimed and executed again when its failure may be retried.
`recoverFailedOfflineRegistrations` claims and executes failed offline registrations.

## Implementation notes

`order` is the order in which an execution of `ingestOfflineScan` issues its two
parallel lookups. Nest's exceptions are thrown with a text here, so `getResponse()` is
an object with that message and without a code.
-/

namespace CreativeBackend

open Interaction

variable (rt : Runtime) (order : String → Bool)

/-- What `submitBatch` returns. -/
structure SubmitReply where
  duplicate : Bool
  batch : SyncBatchView

/-- What `recoverFailedOfflineRegistrations` returns. -/
inductive RecoverReply where
  | dryRun (scanned recoverable skippedPermanent : Nat) (operations : List (SyncOperation × SyncBatch))
  | attempted (scanned attempted processed failed skippedPermanent : Nat)
      (results : List OperationResult)

/-- The code, message and retryability of an error. -/
structure ClassifiedError where
  code : String
  message : String
  retryable : Bool

namespace SyncService

def NON_RETRYABLE_OFFLINE_OPERATION_CODES : List String :=
  ["DUPLICATE_REGISTRATION", "INVALID_OFFLINE_REGISTRATION",
    "OFFLINE_REGISTRATION_RESOURCE_NOT_FOUND", "OFFLINE_REGISTRATION_CONFLICT"]

def RETRYABLE_OFFLINE_OPERATION_CODES : List String :=
  ["OPERATION_FAILED", "OFFLINE_REGISTRATION_FAILED", "OFFLINE_REGISTRATION_RETRYABLE_FAILURE",
    "PREVIOUS_OPERATION_FAILED", "PREVIOUS_OPERATION_NOT_COMPLETED",
    "OFFLINE_OPERATION_RESULT_MISSING", "CANONICAL_REGISTRATION_ID_MISSING"]

def canRetryFailedOfflineOperation (operation : SyncOperation) : Bool :=
  if operation.type ≠ .OFFLINE_REGISTRATION then false
  else
    match truthy (operation.errorCode.map fun code => toUpperCase (trim code)) with
    | none => true
    | some errorCode =>
        if errorCode ∈ NON_RETRYABLE_OFFLINE_OPERATION_CODES then false
        else errorCode ∈ RETRYABLE_OFFLINE_OPERATION_CODES || startsWith errorCode "HTTP_5" ||
          startsWith errorCode "NETWORK_" || startsWith errorCode "UNKNOWN_"

def classifySyncOperationError : Exn → ClassifiedError
  | .conflict message => { code := "DUPLICATE_REGISTRATION", message, retryable := false }
  | .badRequest message => { code := "INVALID_OFFLINE_REGISTRATION", message, retryable := false }
  | .notFound message =>
      { code := "OFFLINE_REGISTRATION_RESOURCE_NOT_FOUND", message, retryable := false }
  | error => { code := "OPERATION_FAILED", message := error.message, retryable := true }

/-- `toRecord`. -/
def toRecord (value : Json) : Except Exn (List (String × Json)) :=
  match Json.record? (some value) with
  | some fields => .ok fields
  | none => .error (.badRequest "Stored sync operation input is invalid")

/-- The operations by the type that runs first, in their order. -/
def sortOperations (operations : List SubmitSyncOperationDto) : List SubmitSyncOperationDto :=
  [SyncOperationType.OFFLINE_REGISTRATION, .OFFLINE_SCAN, .QR_GENERATION, .SCAN_EVENT].flatMap
    fun type => operations.filter fun operation => operation.type = type

/-- Sorting loses and repeats no operation. -/
theorem sortOperations_perm (operations : List SubmitSyncOperationDto) :
    (sortOperations operations).Perm operations := by
  induction operations with
  | nil => exact .refl _
  | cons operation rest ih =>
      refine List.Perm.trans ?_ (ih.cons operation)
      cases htype : operation.type <;>
        simp only [sortOperations, List.flatMap_cons, List.flatMap_nil, List.filter_cons, htype,
          decide_true, decide_false, if_true, reduceCtorEq, Bool.false_eq_true, if_false,
          List.append_nil]
      · exact .refl _
      · exact List.perm_middle
      · exact (List.perm_middle.append_left _).trans List.perm_middle
      · exact ((List.perm_middle.append_left _).trans List.perm_middle |>.append_left _).trans
          List.perm_middle

def getBatchStatus (processedCount failedCount duplicateCount : Nat) : SyncBatchStatus :=
  if failedCount > 0 then
    if processedCount = 0 ∧ duplicateCount = 0 then .FAILED else .PARTIAL_FAILED
  else if processedCount = 0 ∧ duplicateCount > 0 then .DUPLICATE
  else .COMPLETED

/-! ## Executions -/

/-- The `catch` of `processOperation`. -/
def failOperation (operation : SyncOperation) (error : Exn) : SyncSvc OperationResult := do
  let classified := classifySyncOperationError error
  let _ ← syncCall (.operationFinish operation.id (.failed classified.code classified.message))
  return {
    operationId := operation.operationId
    status := .FAILED
    errorCode := classified.code
    errorMessage := classified.message
    retryable := classified.retryable }

/-- The rest of `processOperation` after an execution. -/
def finishOperation (operation : SyncOperation) : Except Exn SyncOutput → SyncSvc OperationResult
  | .error error => failOperation operation error
  | .ok output =>
      tryCatch (do
          let _ ← syncCall (.operationFinish operation.id (.processed output))
          return { operationId := operation.operationId, status := .PROCESSED, output })
        fun error => failOperation operation error

def processOperation (operation : SyncOperation) (operationDto : SubmitSyncOperationDto)
    (batch : SubmitSyncBatchDto) (locals : LocalRegistrationMap) :
    SyncSvc (OperationResult × LocalRegistrationMap) := do
  let attempt ← inOperation operationDto.operationId
    (runOperation rt (order operationDto.operationId) operationDto batch locals)
  let result ← finishOperation operation attempt.result
  return (result, attempt.locals)

/-- Claim a failed operation and execute it with its stored input; `none` where it was
claimed by another run. -/
def retryOperation (operation : SyncOperation) (batch : SubmitSyncBatchDto)
    (locals : LocalRegistrationMap) :
    SyncSvc (Option (OperationResult × LocalRegistrationMap)) := do
  let count ← syncCall (.operationClaim operation.id)
  if count = 1 then
    let payload ← Prog.ofExcept (toRecord operation.input)
    let result ← processOperation rt order operation
      { operationId := operation.operationId, type := operation.type, payload } batch locals
    return some result
  else return none

/-! ## submitBatch -/

/-- The answer for an operation that failed before. -/
def failedBefore (existing : SyncOperation) (operationId : String) : OperationResult where
  operationId
  status := .FAILED
  errorCode := existing.errorCode.getD "PREVIOUS_OPERATION_FAILED"
  errorMessage := existing.errorMessage.getD "The previous operation attempt failed"
  retryable := canRetryFailedOfflineOperation existing

/-- An operation that was received before. -/
def replayOperation (operationDto : SubmitSyncOperationDto) (batch : SubmitSyncBatchDto)
    (locals : LocalRegistrationMap) :
    Option SyncOperation → SyncSvc (OperationResult × LocalRegistrationMap)
  | none => return ({
      operationId := operationDto.operationId
      status := .FAILED
      errorCode := "DUPLICATE_OPERATION_RESULT_NOT_FOUND"
      errorMessage := "The operation was previously received but its result could not be found" },
      locals)
  | some existing =>
      match existing.status with
      | .PROCESSED | .DUPLICATE => return ({
          operationId := operationDto.operationId
          status := .DUPLICATE
          output := existing.output }, locals)
      | .FAILED =>
          if canRetryFailedOfflineOperation existing then do
            match ← retryOperation rt order existing batch locals with
            | some (result, locals) => return ({ result with retried := true }, locals)
            | none => return (failedBefore existing operationDto.operationId, locals)
          else return (failedBefore existing operationDto.operationId, locals)
      | .PENDING | .SKIPPED => return ({
          operationId := operationDto.operationId
          status := .FAILED
          errorCode := "PREVIOUS_OPERATION_NOT_COMPLETED"
          errorMessage := "The previous operation has not completed processing yet" }, locals)

/-- The rows that the loop of `processBatch` works from. -/
structure BatchRows where
  duplicateOperationIds : List String
  operations : List SyncOperation
  existing : List SyncOperation

/-- The row of an operation id. -/
def rowOf (rows : List SyncOperation) (operationId : String) : Option SyncOperation :=
  rows.find? fun x => x.operationId = operationId

/-- One round of the loop of `processBatch`. -/
def processEntry (rows : BatchRows) (batch : SubmitSyncBatchDto)
    (operationDto : SubmitSyncOperationDto) (locals : LocalRegistrationMap) :
    SyncSvc (Option OperationResult × LocalRegistrationMap) := do
  if rows.duplicateOperationIds.contains operationDto.operationId then
    let (result, locals) ← replayOperation rt order operationDto batch locals
      (rowOf rows.existing operationDto.operationId)
    return (some result, locals)
  else
    match rowOf rows.operations operationDto.operationId with
    | none => return (none, locals)
    | some operation => do
        let (result, locals) ← processOperation rt order operation operationDto batch locals
        return (some result, locals)

/-- The loop of `processBatch`. -/
def processEntries (rows : BatchRows) (batch : SubmitSyncBatchDto) :
    List SubmitSyncOperationDto → LocalRegistrationMap → SyncSvc (List OperationResult)
  | [], _ => return []
  | operationDto :: rest, locals => do
      let (result, locals) ← processEntry rt order rows batch operationDto locals
      let results ← processEntries rows batch rest locals
      return result.toList ++ results

/-- The columns of a batch whose operations have the given results. -/
def batchPatch (results : List OperationResult) : BatchPatch :=
  let countOf (status : SyncOperationStatus) : Nat :=
    (results.filter fun result => result.status = status).length
  let processedCount := countOf .PROCESSED
  let failedCount := countOf .FAILED
  let duplicateCount := countOf .DUPLICATE
  { status := getBatchStatus processedCount failedCount duplicateCount
    result := { processedCount, failedCount, duplicateCount, operations := results } }

/-- The rows of the operations that were received before. -/
def readDuplicates (duplicateOperationIds : List String) : SyncSvc (List SyncOperation) :=
  if duplicateOperationIds.length > 0 then syncCall (.operationsByIds duplicateOperationIds)
  else return []

def processBatch (batchId : Id) (dto : SubmitSyncBatchDto) (duplicateOperationIds : List String) :
    SyncSvc SyncBatchView := do
  let _ ← syncCall (.batchProcessing batchId)
  let operations ← syncCall (.operationsOfBatch batchId)
  let existing ← readDuplicates duplicateOperationIds
  let results ← processEntries rt order { duplicateOperationIds, operations, existing } dto
    (sortOperations dto.operations) []
  syncCall (.batchFinish batchId (batchPatch results))

def findDuplicateOperationIds (operationIds : List String) : SyncSvc (List String) := do
  let existingOperations ← syncCall (.operationsByIds operationIds)
  return existingOperations.map (·.operationId)

/-- The checks of `submitBatch`. -/
def ensureSubmittable (dto : SubmitSyncBatchDto) : Svc Unit := do
  let _ ← ScansService.ensureEventCanBeModified dto.eventId
  let _ ← ScansService.ensureActiveDevice dto.deviceId dto.eventId
  let _ ← ScansService.ensureActiveStaffSession dto.staffSessionId dto.eventId
  return ()

def submitBatch (dto : SubmitSyncBatchDto) : SyncSvc SubmitReply := do
  match ← syncCall (.batchByBatchId dto.batchId) with
  | some existingBatch => return { duplicate := true, batch := existingBatch }
  | none => do
      onScanStore (ensureSubmittable dto)
      let duplicateOperationIds ← findDuplicateOperationIds (dto.operations.map (·.operationId))
      let operationsToCreate := dto.operations.filter fun operation =>
        !duplicateOperationIds.contains operation.operationId
      let batch ← syncCall (.batchCreate dto operationsToCreate duplicateOperationIds.length)
      let processed ← processBatch rt order batch.batch.id dto duplicateOperationIds
      return { duplicate := false, batch := processed }

/-! ## Recovery -/

/-- The batch under which a recovered operation is executed. -/
def recoveredBatch (operation : SyncOperation) (batch : SyncBatch)
    (payload : List (String × Json)) : SubmitSyncBatchDto where
  batchId := batch.batchId
  eventId := batch.eventId
  deviceId := batch.deviceId
  staffSessionId := batch.staffSessionId
  operations := [{ operationId := operation.operationId, type := operation.type, payload }]

/-- One round of the recovery. -/
def recoverOperation (operation : SyncOperation) (batch : SyncBatch) : SyncSvc OperationResult := do
  let payload := (Json.record? (some operation.input)).getD []
  match ← retryOperation rt order operation (recoveredBatch operation batch payload) [] with
  | some (result, _) => return result
  | none => return {
      operationId := operation.operationId
      status := .SKIPPED
      reason := "OPERATION_ALREADY_CLAIMED" }

/-- The loop of the recovery. -/
def recoverOperations : List (SyncOperation × SyncBatch) → SyncSvc (List OperationResult)
  | [] => return []
  | (operation, batch) :: rest => do
      let result ← recoverOperation rt order operation batch
      let results ← recoverOperations rest
      return result :: results

def recoverFailedOfflineRegistrations (input : RecoverInput) : SyncSvc RecoverReply := do
  let limit := (min 1000 (max 1 (input.limit.getD 250))).toNat
  let failedOperations ← syncCall (.failedRegistrations input limit)
  let recoverable := failedOperations.filter fun x => canRetryFailedOfflineOperation x.1
  let scanned := failedOperations.length
  let skippedPermanent := scanned - recoverable.length
  if input.dryRun then
    return .dryRun scanned recoverable.length skippedPermanent recoverable
  else
    let results ← recoverOperations rt order recoverable
    return .attempted scanned recoverable.length
      (results.filter fun result => result.status = .PROCESSED).length
      (results.filter fun result => result.status = .FAILED).length skippedPermanent results

end SyncService

end CreativeBackend
