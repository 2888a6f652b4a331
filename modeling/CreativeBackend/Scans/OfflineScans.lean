import CreativeBackend.Scans.Ingest

/-!
# Offline scans

`ingestOfflineScan` stores a scan that a device made offline, and settles it when
its registration has arrived. `reconcileOfflineRegistration` settles the scans
that wait for a registration, one after the other.
-/

namespace CreativeBackend

open Interaction

variable (rt : Runtime)

/-- The input of `ingestOfflineScan`. -/
structure OfflineScanInput where
  operationId : String
  eventId : Id
  scannerDeviceId : Id
  staffSessionId : Option Id := none
  checkpointId : Id
  signedOfflineQr : String
  offlineQrToken : Option String := none
  offlineRegistrationOperationId : Option String := none
  movementType : MovementType
  scannedAtDevice : String
  localResult : Option String := none

inductive OfflineScanReply where
  | conflict (offlineScan : OfflineScanOperation)
  | pendingLink (retryable : Bool) (offlineScan : OfflineScanOperation)
  | duplicate (status : OfflineScanOperationStatus) (offlineScan : OfflineScanOperation)
  | settled (allowed : Bool) (reason : String) (offlineScan : OfflineScanOperation)
      (scanEvent : RawScanView) (movement : MovementLog)

namespace ScansService

/-! ## Settlement -/

/-- The DTO of an offline scan that has no raw scan. -/
def offlineScanDto (offlineScan : OfflineScanOperation) : CreateScanDto where
  operationId := offlineScan.operationId
  eventId := offlineScan.eventId
  deviceId := offlineScan.scannerDeviceId
  staffSessionId := offlineScan.staffSessionId
  checkpointId := some offlineScan.checkpointId
  qrToken := offlineScan.offlineQrToken
  type := offlineScan.movementType
  scannedAtDevice := rt.toISOString offlineScan.scannedAtDevice
  payload := some (.obj [("inputType", .str (offlineInputType offlineScan)),
    ("localResult", (offlineScan.localResult.map Json.str).getD .null)])

/-- The columns of a settled offline scan. -/
def settledPatch (scanEventRawId movementId : Id) (registrationId : Option Id) :
    OfflineScanPatch where
  status := .PROCESSED
  registrationId := some registrationId
  movementId := some movementId
  scanEventRawId := some scanEventRawId
  synced := true

/-- The transaction that settles an offline scan: the raw scan of its operation is
updated where there is one, and created otherwise. -/
def writeSettlement (offlineScan : OfflineScanOperation) (existingRawScan : Option RawScanView)
    (decision : Decision) : Svc (RawScanView × MovementLog) :=
  match existingRawScan with
  | some existing => call (.updateProcessed existing.scan decision)
  | none => call (.createProcessed (offlineScanDto rt offlineScan)
      (some offlineScan.scannedAtDevice) decision)

/-- The part of `processOfflineScanOperation` after the credential was resolved. -/
def settleOfflineScan (offlineScan : OfflineScanOperation) (existingRawScan : Option RawScanView)
    (context : ValidQrContext) : Svc OfflineScanReply := do
  let event ← ensureEventCanBeModified offlineScan.eventId
  let _ ← ensureActiveDevice offlineScan.scannerDeviceId offlineScan.eventId
  let staffSession ← ensureStaffSessionForOfflineReplay offlineScan.staffSessionId
    offlineScan.eventId offlineScan.scannerDeviceId offlineScan.checkpointId
  let checkpoint ← ensureActiveCheckpoint (some offlineScan.checkpointId) offlineScan.eventId
  let reason ← scanReason rt event checkpoint context.qr offlineScan.movementType
  let result := decisionResult reason
  let (scanEvent, movement) ← writeSettlement rt offlineScan existingRawScan
    (context.decide result reason)
  let updated ← call (.offlineScanUpdate offlineScan.id
    (settledPatch scanEvent.scan.id movement.id (some context.qr.registration.id)))
  call (.touchActivity offlineScan.scannerDeviceId (staffSession.map (·.id)))
  return .settled (result = .ALLOWED) reason updated scanEvent movement

/-- The part of `processOfflineScanOperation` for a scan without a movement. -/
def settleNew (offlineScan : OfflineScanOperation) (existingRawScan : Option RawScanView) :
    Svc OfflineScanReply := do
  match ← getCanonicalContextForOfflineScan offlineScan with
  | none => return .pendingLink false offlineScan
  | some context => settleOfflineScan rt offlineScan existingRawScan context

def processOfflineScanOperation (offlineScanOperationId : Id) : Svc OfflineScanReply := do
  match ← call (.offlineScanById offlineScanOperationId) with
  | none => throw (.notFound "Offline scan operation not found")
  | some offlineScan =>
      if offlineScan.status = .PROCESSED ∧ (truthy offlineScan.movementId).isSome = true then
        return .duplicate .PROCESSED offlineScan
      else
        let existingRawScan ← call (.rawScanByOperation offlineScan.operationId)
        match existingRawScan with
        | none => settleNew rt offlineScan none
        | some existing =>
            match existing.movementLog with
            | none => settleNew rt offlineScan (some existing)
            | some movement =>
                let updated ← call (.offlineScanUpdate offlineScan.id
                  (settledPatch existing.scan.id movement.id existing.scan.registrationId))
                return .duplicate .PROCESSED updated

/-! ## ingestOfflineScan -/

/-- The two reads that `ingestOfflineScan` issues together, in either order. -/
def readScanAndMapping (mappingFirst : Bool) (operationId offlineQrToken : String) :
    Svc (Option OfflineScanOperation × Option OfflineRegistrationMapping) := do
  if mappingFirst then
    let mapping ← call (.mappingByToken offlineQrToken)
    let existing ← call (.offlineScanByOperation operationId)
    return (existing, mapping)
  else
    let existing ← call (.offlineScanByOperation operationId)
    let mapping ← call (.mappingByToken offlineQrToken)
    return (existing, mapping)

/-- The row of a scan that a device made offline. -/
def offlineScanData (input : OfflineScanInput) (offlineQrToken : String)
    (verified : VerifiedOfflineQr) (registrationId : Option Id) : OfflineScanData where
  operationId := input.operationId
  eventId := input.eventId
  scannerDeviceId := input.scannerDeviceId
  checkpointId := input.checkpointId
  staffSessionId := input.staffSessionId
  offlineQrToken
  offlineRegistrationOperationId := some
    (input.offlineRegistrationOperationId.getD verified.payload.offlineRegistrationOperationId)
  issuerDeviceId := some verified.payload.issuerDeviceId
  issuerKeyVersion := some verified.payload.issuerKeyVersion
  scannedAtDevice := rt.parseDate input.scannedAtDevice
  movementType := input.movementType
  localResult := input.localResult
  qrPayload := verified.parsed.payload
  qrPayloadHash := some verified.parsed.payloadHash
  status := if (truthy registrationId).isSome then .LINKED else .PENDING_LINK
  registrationId

/-- The patch of a stored scan that was submitted with another payload. -/
def conflictPatch : OfflineScanPatch where
  status := .CONFLICTED
  conflictCode := some (some "OFFLINE_SCAN_CONFLICT")
  conflictMessage := some (some
    "Same offline scan operationId was submitted with a different signed QR payload")

/-- The patch that links a stored scan to its registration. -/
def relinkPatch (input : OfflineScanInput) (existing : OfflineScanOperation)
    (registrationId : Id) : OfflineScanPatch where
  status := .LINKED
  registrationId := some (some registrationId)
  conflictCode := some none
  conflictMessage := some none
  staffSessionId := some (input.staffSessionId.orElse fun _ => existing.staffSessionId)

/-- `ingestOfflineScan` when the operation is stored already. -/
def ingestOfflineExisting (input : OfflineScanInput) (verified : VerifiedOfflineQr)
    (existing : OfflineScanOperation) (registrationId : Option Id) : Svc OfflineScanReply := do
  if (truthy existing.qrPayloadHash).any (· ≠ verified.parsed.payloadHash) then
    let conflicted ← call (.offlineScanUpdate existing.id conflictPatch)
    return .conflict conflicted
  else
    match registrationId with
    | some registrationId =>
        if existing.status ≠ .PROCESSED ∧ existing.status ≠ .CONFLICTED then
          let _ ← call (.offlineScanUpdate existing.id (relinkPatch input existing registrationId))
          processOfflineScanOperation rt existing.id
        else return .duplicate existing.status existing
    | none =>
        if existing.status = .PENDING_LINK ∨ existing.status = .FAILED then
          return .pendingLink true existing
        else return .duplicate existing.status existing

def ingestOfflineScan (mappingFirst : Bool) (input : OfflineScanInput) : Svc OfflineScanReply := do
  let verified ← verifySignedOfflineQr rt input.signedOfflineQr (some input.eventId)
  let offlineQrToken := input.offlineQrToken.getD verified.payload.offlineQrToken
  if tokensEqual offlineQrToken verified.payload.offlineQrToken = false then
    throw (.badRequest "Offline scan token mismatch")
  else
    let _ ← ensureEventCanBeModified input.eventId
    let _ ← ensureActiveDevice input.scannerDeviceId input.eventId
    let _ ← ensureActiveStaffSession input.staffSessionId input.eventId
    let _ ← ensureActiveCheckpoint (some input.checkpointId) input.eventId
    let (existing, mapping) ← readScanAndMapping mappingFirst input.operationId offlineQrToken
    let registrationId := mapping.bind (·.registrationId)
    match existing with
    | some existing => ingestOfflineExisting rt input verified existing (truthy registrationId)
    | none =>
        let offlineScan ← call
          (.offlineScanCreate (offlineScanData rt input offlineQrToken verified registrationId))
        if (truthy registrationId).isNone then return .pendingLink false offlineScan
        else processOfflineScanOperation rt offlineScan.id

/-! ## reconcileOfflineRegistration -/

/-- The patch of reconciliation before it settles a scan. -/
def linkPatch (registrationId : Id) : OfflineScanPatch where
  status := .LINKED
  registrationId := some (some registrationId)

/-- The patch of a scan whose settlement threw. -/
def reconciliationFailedPatch (error : Exn) : OfflineScanPatch where
  status := .FAILED
  conflictCode := some (some "OFFLINE_RECONCILIATION_FAILED")
  conflictMessage := some (some error.message)

/-- The result of one scan in `reconcileOfflineRegistration`. -/
inductive ReconcileResult where
  | processed (reply : OfflineScanReply)
  | failed (offlineScan : OfflineScanOperation)

/-- One iteration of the loop of `reconcileOfflineRegistration`. -/
def reconcileScan (registrationId : Id) (offlineScan : OfflineScanOperation) :
    Svc ReconcileResult :=
  tryCatch
    (do
      let _ ← call (.offlineScanUpdate offlineScan.id (linkPatch registrationId))
      let reply ← processOfflineScanOperation rt offlineScan.id
      return .processed reply)
    fun error => do
      let failed ← call (.offlineScanUpdate offlineScan.id (reconciliationFailedPatch error))
      return .failed failed

/-- The loop of `reconcileOfflineRegistration`. -/
def reconcileScans (registrationId : Id) : List OfflineScanOperation → Svc (List ReconcileResult)
  | [] => return []
  | offlineScan :: rest => do
      let result ← reconcileScan rt registrationId offlineScan
      let results ← reconcileScans registrationId rest
      return result :: results

def reconcileOfflineRegistration (input : ReconcileInput) : Svc (List ReconcileResult) := do
  let pendingScans ← call (.offlineScansPending input)
  reconcileScans rt input.registrationId pendingScans

end ScansService

end CreativeBackend
