import CreativeBackend.Scans.Response
import CreativeBackend.Scans.Validation

/-!
# Online scans

`ingest` decides a scan while the device waits. `ingestFast` stores the raw scan
and queues it, and `processRawScan` decides it later. A code that was printed
offline and is not linked yet is parked as an offline scan operation.
-/

namespace CreativeBackend

open Interaction

variable (rt : Runtime)

/-- The reply of `ingest` to a parked scan. -/
structure ProvisionalReply where
  allowed : Bool
  pendingReconciliation : Bool
  retryable : Bool
  reason : String
  offlineScanOperationId : Id
  inputType : String
  offlineQrToken : String

inductive IngestReply where
  | response (response : ScanResponse)
  | duplicate (scanEvent : RawScanView)
  | provisional (reply : ProvisionalReply)

/-- The reply of `ingestFast`. -/
structure FastReply where
  duplicate : Bool := false
  queued : Bool := false
  scanEventId : Id
  status : ScanEventStatus

inductive ProcessReply where
  | skipped (status : Option ScanEventStatus) (skippedReason : String)
  | provisional (allowed pendingReconciliation : Bool) (reason : String) (scanEvent : RawScanView)
  | response (response : ScanResponse)
  | failed (scanEvent : RawScanView) (reason : Option String)

namespace ScansService

/-! ## Parked scans -/

/-- `typeof payload?.localResult === 'string'`. -/
def localResult (dto : CreateScanDto) : Option String :=
  dto.payload.bind (·.string? "localResult")

/-- Store the parked scan of an operation, unless one is stored already. -/
def createPendingScan (dto : CreateScanDto) (data : Id → OfflineScanData) :
    Svc OfflineScanOperation := do
  match truthy dto.checkpointId with
  | none => throw (.badRequest "Offline scans require a checkpoint")
  | some checkpointId =>
      match ← call (.offlineScanByOperation dto.operationId) with
      | some existing => return existing
      | none => call (.offlineScanCreate (data checkpointId))

/-- The row of an offline reference whose registration has not arrived. -/
def referenceScanData (dto : CreateScanDto) (scannedAtDevice : Option Time)
    (offlineQrToken : String) (payload : Json) (registrationId : Option Id)
    (checkpointId : Id) : OfflineScanData where
  operationId := dto.operationId
  eventId := dto.eventId
  scannerDeviceId := dto.deviceId
  staffSessionId := dto.staffSessionId
  checkpointId
  offlineQrToken
  scannedAtDevice
  movementType := dto.type
  localResult := localResult dto
  qrPayload := payload
  status := if (truthy registrationId).isSome then .LINKED else .PENDING_LINK
  registrationId

def createPendingOfflineReferenceScanFromOnlineScan (dto : CreateScanDto)
    (scannedAtDevice : Option Time) (offlineQrToken : String) (payload : Json)
    (registrationId : Option Id) : Svc OfflineScanOperation :=
  createPendingScan dto (referenceScanData dto scannedAtDevice offlineQrToken payload registrationId)

/-- The row of a signed offline code whose registration has not arrived. -/
def signedScanData (dto : CreateScanDto) (scannedAtDevice : Option Time)
    (verified : VerifiedOfflineQr) (checkpointId : Id) : OfflineScanData where
  operationId := dto.operationId
  eventId := dto.eventId
  scannerDeviceId := dto.deviceId
  staffSessionId := dto.staffSessionId
  checkpointId
  offlineQrToken := verified.payload.offlineQrToken
  offlineRegistrationOperationId := some verified.payload.offlineRegistrationOperationId
  issuerDeviceId := some verified.payload.issuerDeviceId
  issuerKeyVersion := some verified.payload.issuerKeyVersion
  scannedAtDevice
  movementType := dto.type
  localResult := localResult dto
  qrPayload := verified.parsed.payload
  qrPayloadHash := some verified.parsed.payloadHash
  status := .PENDING_LINK

def createPendingOfflineScanFromOnlineScan (dto : CreateScanDto)
    (scannedAtDevice : Option Time) (verified : VerifiedOfflineQr) : Svc OfflineScanOperation :=
  createPendingScan dto (signedScanData dto scannedAtDevice verified)

/-! ## Decisions -/

/-- The reason of a decision, as `ingest`, `processRawScan` and
`processOfflineScanOperation` compute it. -/
def scanReason (event : Event) (checkpoint : Option Checkpoint) (stored : QrTokenView)
    (type : MovementType) : Svc String := do
  let accessReason := getCheckpointAccessDenial rt checkpoint stored.attendeeType.code
  let reentryReason ← getReentryDenial event stored.registration.id type
  return decisionReason accessReason reentryReason

/-- The columns of an invalid scan. -/
def invalidVerdict (reason : String) (payload : Option Json)
    (qrTokenId registrationId : Option Id) : RawScanVerdict where
  status := .INVALID_QR
  result := some .DENIED
  reason := some reason
  registrationId
  qrTokenId
  qrPayload := some payload

def createInvalidScan (dto : CreateScanDto) (scannedAtDevice : Option Time) (reason : String)
    (payload : Option Json) (qrTokenId registrationId : Option Id) : Svc RawScanView :=
  call (.rawScanCreate dto scannedAtDevice (invalidVerdict reason payload qrTokenId registrationId))

def updateInvalidRawScan (scanEventRawId : Id) (reason : String) (payload : Option Json)
    (qrTokenId registrationId : Option Id) : Svc RawScanView :=
  call (.rawScanUpdate scanEventRawId (invalidVerdict reason payload qrTokenId registrationId))

/-! ## ingest -/

/-- A scan that an earlier release stored as invalid because its registration had
not arrived. -/
def isRetryableOfflineReference (existing : RawScanView) : Bool :=
  existing.scan.status = .INVALID_QR &&
    existing.scan.reason = some "OFFLINE_REGISTRATION_NOT_SYNCED" && existing.movementLog.isNone

/-- The decision of `ingest` on the validated code. -/
def ingestDecision (dto : CreateScanDto) (scannedAtDevice : Option Time) (event : Event)
    (device : Device) (staffSession : Option StaffSession) (checkpoint : Option Checkpoint) :
    QrContext → Svc IngestReply
  | .pendingOfflineReference offlineQrToken payload registrationId => do
      let offlineScan ← createPendingOfflineReferenceScanFromOnlineScan dto scannedAtDevice
        offlineQrToken payload registrationId
      call (.touchActivity device.id (staffSession.map (·.id)))
      return .provisional {
        allowed := false
        pendingReconciliation := true
        retryable := true
        reason := "OFFLINE_REGISTRATION_NOT_SYNCED"
        offlineScanOperationId := offlineScan.id
        inputType := "OFFLINE_REFERENCE"
        offlineQrToken }
  | .pendingOffline verified => do
      let offlineScan ← createPendingOfflineScanFromOnlineScan dto scannedAtDevice verified
      call (.touchActivity device.id (staffSession.map (·.id)))
      return .provisional {
        allowed := true
        pendingReconciliation := false
        retryable := false
        reason := "OFFLINE_QR_PENDING_SYNC"
        offlineScanOperationId := offlineScan.id
        inputType := "OFFLINE_SIGNED"
        offlineQrToken := verified.payload.offlineQrToken }
  | .invalid reason payload qrTokenId registrationId => do
      let reason := toScanDenialReason reason
      let scanEvent ← createInvalidScan dto scannedAtDevice reason payload qrTokenId registrationId
      call (.touchActivity device.id (staffSession.map (·.id)))
      return .response (← formatScanResponse rt false reason scanEvent none true)
  | .valid context => do
      let reason ← scanReason rt event checkpoint context.qr dto.type
      let result := decisionResult reason
      let (scanEvent, movement) ← call
        (.createProcessed dto scannedAtDevice (context.decide result reason))
      call (.touchActivity device.id (staffSession.map (·.id)))
      return .response (← formatScanResponse rt (result = .ALLOWED) reason scanEvent movement true)

/-- `ingest` once no stored scan answers for the operation. -/
def ingestNew (dto : CreateScanDto) : Svc IngestReply := do
  let event ← ensureEventCanBeModified dto.eventId
  let device ← ensureActiveDevice dto.deviceId dto.eventId
  let staffSession ← ensureActiveStaffSession dto.staffSessionId dto.eventId
  let checkpoint ← ensureActiveCheckpoint dto.checkpointId dto.eventId
  let scannedAtDevice := rt.parseDate dto.scannedAtDevice
  let qrContext ← validateQrForScan rt dto.qrToken dto.eventId
  ingestDecision rt dto scannedAtDevice event device staffSession checkpoint qrContext

/-- `ingest` when a stored scan answers for the operation. -/
def ingestDuplicate (existing : RawScanView) : Svc IngestReply := do
  if existing.scan.status = .PROCESSED ∨ existing.scan.status = .INVALID_QR then
    let response ← formatScanResponse rt (existing.scan.result = some .ALLOWED)
      (existing.scan.reason.getD "DUPLICATE_SCAN") existing existing.movementLog true
    return .response { response with duplicate := true }
  else return .duplicate existing

def ingest (dto : CreateScanDto) : Svc IngestReply := do
  match ← call (.rawScanByOperation dto.operationId) with
  | none => ingestNew rt dto
  | some existing =>
      if isRetryableOfflineReference existing then
        call (.rawScanDelete existing.scan.id)
        ingestNew rt dto
      else ingestDuplicate rt existing

/-! ## ingestFast and processRawScan -/

/-- The columns of a raw scan that waits for its worker. -/
def pendingVerdict : RawScanVerdict where
  status := .PENDING

def ingestFast (dto : CreateScanDto) : Svc FastReply := do
  match ← call (.rawScanByOperation dto.operationId) with
  | some existing =>
      return { duplicate := true, scanEventId := existing.scan.id, status := existing.scan.status }
  | none =>
      let created ← call
        (.rawScanCreate dto (rt.parseDate dto.scannedAtDevice) pendingVerdict)
      let scanEvent := created.scan
      if rt.scanProcessingEnabled = false then
        return { scanEventId := scanEvent.id, status := scanEvent.status }
      else
        tryCatch
          (do
            call (.enqueueScan scanEvent.id)
            return { queued := true, scanEventId := scanEvent.id, status := scanEvent.status })
          fun _ => return { scanEventId := scanEvent.id, status := scanEvent.status }

/-- The DTO that `processRawScan` rebuilds for a parked scan. -/
def storedScanDto (scanEvent : ScanEventRaw) (checkpointId : Id) : CreateScanDto where
  operationId := scanEvent.operationId
  eventId := scanEvent.eventId
  deviceId := scanEvent.deviceId
  staffSessionId := scanEvent.staffSessionId
  checkpointId := some checkpointId
  qrToken := scanEvent.qrRaw.getD ""
  type := scanEvent.type
  scannedAtDevice := rt.toISOString scanEvent.scannedAtDevice
  payload := (Json.record? scanEvent.payload).map .obj

/-- The columns of a raw scan that was not decided by its worker. -/
def failedVerdict (result : MovementResult) (reason : String) : RawScanVerdict where
  status := .FAILED
  result := some result
  reason := some reason

/-- The decision of `processRawScan` on the validated code. -/
def processDecision (scanEvent : ScanEventRaw) (event : Event) (device : Device)
    (staffSession : Option StaffSession) (checkpoint : Option Checkpoint) :
    QrContext → Svc ProcessReply
  | .pendingOfflineReference offlineQrToken payload registrationId => do
      match truthy scanEvent.checkpointId with
      | none => throw (.badRequest "Offline scans require a checkpoint")
      | some checkpointId =>
          let _ ← createPendingOfflineReferenceScanFromOnlineScan
            (storedScanDto rt scanEvent checkpointId) (some scanEvent.scannedAtDevice)
            offlineQrToken payload registrationId
          let updated ← call (.rawScanUpdate scanEvent.id
            (failedVerdict .WARNING "OFFLINE_REGISTRATION_NOT_SYNCED"))
          call (.touchActivity device.id (staffSession.map (·.id)))
          return .provisional false true "OFFLINE_REGISTRATION_NOT_SYNCED" updated
  | .pendingOffline verified => do
      match truthy scanEvent.checkpointId with
      | none => throw (.badRequest "Offline scans require a checkpoint")
      | some checkpointId =>
          let _ ← createPendingOfflineScanFromOnlineScan
            (storedScanDto rt scanEvent checkpointId) (some scanEvent.scannedAtDevice) verified
          let updated ← call (.rawScanUpdate scanEvent.id
            (failedVerdict .WARNING "OFFLINE_QR_PENDING_SYNC"))
          call (.touchActivity device.id (staffSession.map (·.id)))
          return .provisional true false "OFFLINE_QR_PENDING_SYNC" updated
  | .invalid reason payload qrTokenId registrationId => do
      let reason := toScanDenialReason reason
      let updated ← updateInvalidRawScan scanEvent.id reason payload qrTokenId registrationId
      call (.touchActivity device.id (staffSession.map (·.id)))
      return .response (← formatScanResponse rt false reason updated none false)
  | .valid context => do
      let reason ← scanReason rt event checkpoint context.qr scanEvent.type
      let result := decisionResult reason
      let (updated, movement) ← call (.updateProcessed scanEvent (context.decide result reason))
      call (.touchActivity device.id (staffSession.map (·.id)))
      return .response (← formatScanResponse rt (result = .ALLOWED) reason updated movement false)

/-- The `try` block of `processRawScan`. -/
def processPending (scanEvent : ScanEventRaw) : Svc ProcessReply := do
  let event ← ensureEventCanBeModified scanEvent.eventId
  let device ← ensureActiveDevice scanEvent.deviceId scanEvent.eventId
  let staffSession ← ensureActiveStaffSession scanEvent.staffSessionId scanEvent.eventId
  let checkpoint ← ensureActiveCheckpoint scanEvent.checkpointId scanEvent.eventId
  let qrContext ← validateQrForScan rt (scanEvent.qrRaw.getD "") scanEvent.eventId
  processDecision rt scanEvent event device staffSession checkpoint qrContext

/-- The `catch` block of `processRawScan`. It writes the raw scan whatever has
happened to it since it was read. -/
def failRawScan (scanEvent : ScanEventRaw) (error : Exn) : Svc ProcessReply := do
  let updated ← call (.rawScanUpdate scanEvent.id (failedVerdict .DENIED error.message))
  return .failed updated updated.scan.reason

def processRawScan (scanEventRawId : Id) : Svc ProcessReply := do
  match ← call (.rawScanById scanEventRawId) with
  | none => return .skipped none "SCAN_EVENT_NOT_FOUND"
  | some scanEvent =>
      if scanEvent.status ≠ .PENDING then
        return .skipped (some scanEvent.status) "SCAN_EVENT_NOT_PENDING"
      else tryCatch (processPending rt scanEvent) (failRawScan scanEvent)

end ScansService

end CreativeBackend
