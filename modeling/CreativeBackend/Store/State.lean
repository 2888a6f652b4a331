import CreativeBackend.Store.Schema

/-!
# The scan store and its statements

The store holds one table per model, the queues the services add jobs to, the
generated images, the server clock and the count of random values drawn. Every
write of the services is one statement or one transaction on it: a statement
that violates a unique index or a foreign key answers with Prisma's error and
changes nothing, and a transaction that fails rolls back.

## Implementation notes

Foreign keys are checked where a row is written. Required references restrict
deletion; a deleted raw scan is cleared from the optional column that refers to it.
-/

namespace CreativeBackend

open Relational

/-- `OfflineRegistrationReconcileJob`. -/
structure ReconcileInput where
  eventId : Id
  offlineQrToken : String
  offlineRegistrationOperationId : String
  registrationId : Id
  deriving DecidableEq, Repr

/-- The data of a `registration.created` job. -/
structure PipelineJob where
  registrationId : Id
  eventId : Id
  source : RegistrationSource
  skipDigitalTicket : Bool
  deriving DecidableEq, Repr

structure Store where
  clock : Time := 0
  draws : Nat := 0
  events : Table Event := .empty
  attendeeTypes : Table AttendeeType := .empty
  registrationFields : Table RegistrationField := .empty
  registrations : Table Registration := .empty
  qrTokens : Table QrToken := .empty
  devices : Table Device := .empty
  offlineKeys : Table DeviceOfflineKey := .empty
  staffSessions : Table StaffSession := .empty
  checkpoints : Table Checkpoint := .empty
  badgeTemplates : Table EventBadgeTemplate := .empty
  ticketTemplates : Table DigitalTicketTemplate := .empty
  mappings : Table OfflineRegistrationMapping := .empty
  rawScans : Table ScanEventRaw := .empty
  movements : Table MovementLog := .empty
  offlineScans : Table OfflineScanOperation := .empty
  scanJobs : List Id := []
  reconcileJobs : List ReconcileInput := []
  pipelineJobs : List PipelineJob := []
  images : List String := []

/-! ## Rows with their relations -/

/-- A QR token with its registration and attendee type. -/
structure QrTokenView where
  token : QrToken
  registration : Registration
  attendeeType : AttendeeType

/-- A registration with its event and attendee type. -/
structure RegistrationView where
  registration : Registration
  event : Event
  attendeeType : AttendeeType

/-- `rawScanInclude`. -/
structure RawScanView where
  scan : ScanEventRaw
  registration : Option Registration
  attendeeType : Option AttendeeType
  event : Option Event
  checkpoint : Option Checkpoint
  device : Option Device
  staffSession : Option StaffSession
  qrToken : Option QrToken
  movementLog : Option MovementLog

/-! ## Inputs of the writes -/

/-- `CreateScanDto`. -/
structure CreateScanDto where
  operationId : String
  eventId : Id
  deviceId : Id
  staffSessionId : Option Id := none
  checkpointId : Option Id := none
  qrToken : String
  type : MovementType
  scannedAtDevice : String
  payload : Option Json := none

/-- The columns a scan's verdict sets; `none` leaves a column alone. -/
structure RawScanVerdict where
  status : ScanEventStatus
  result : Option MovementResult := none
  reason : Option String := none
  registrationId : Option Id := none
  qrTokenId : Option Id := none
  qrPayload : Option (Option Json) := none

/-- The columns of a settled scan: the credential it resolved to and the decision. -/
structure Decision where
  registrationId : Id
  qrTokenId : Id
  qrPayload : Json
  result : MovementResult
  reason : String

/-- The verdict of a settled scan. -/
def Decision.verdict (d : Decision) : RawScanVerdict where
  status := .PROCESSED
  result := some d.result
  reason := some d.reason
  registrationId := some d.registrationId
  qrTokenId := some d.qrTokenId
  qrPayload := some (some d.qrPayload)

structure OfflineScanData where
  operationId : String
  eventId : Id
  scannerDeviceId : Id
  checkpointId : Id
  staffSessionId : Option Id
  offlineQrToken : String
  offlineRegistrationOperationId : Option String := none
  issuerDeviceId : Option Id := none
  issuerKeyVersion : Option Int := none
  scannedAtDevice : Option Time
  movementType : MovementType
  localResult : Option String
  qrPayload : Json
  qrPayloadHash : Option String := none
  status : OfflineScanOperationStatus
  registrationId : Option Id := none

/-- An update of an offline scan; `none` leaves a column alone. -/
structure OfflineScanPatch where
  status : OfflineScanOperationStatus
  registrationId : Option (Option Id) := none
  movementId : Option Id := none
  scanEventRawId : Option Id := none
  conflictCode : Option (Option String) := none
  conflictMessage : Option (Option String) := none
  staffSessionId : Option (Option Id) := none
  synced : Bool := false

structure QrTokenData where
  registrationId : Id
  eventId : Id
  tokenId : String
  payload : QrPayload
  signature : String
  validFrom : Time
  validUntil : Time

/-- An update of a mapping; `none` leaves a column alone. -/
structure MappingPatch where
  status : OfflineRegistrationMappingStatus
  registrationId : Option Id := none
  canonicalQrTokenId : Option Id := none
  conflictCode : Option (Option String) := none
  conflictMessage : Option (Option String) := none
  synced : Bool := false

/-! ## Statements -/

namespace Store

/-- The answer of a statement and the store after it. -/
abbrev Answer (α : Type) := Except Exn α × Store

/-- A key refers to a row. -/
def refers {ρ : Type} [Record ρ Id] (t : Table ρ) (k : Id) : Bool := (t.find? k).isSome

/-- A nullable foreign key is null or refers to a row. -/
def refersOpt {ρ : Type} [Record ρ Id] (t : Table ρ) : Option Id → Bool
  | some k => refers t k
  | none => true

variable (s : Store)

/-- The movement of a raw scan. -/
def movementOf (scanEventRawId : Id) : Option MovementLog :=
  s.movements.rows.find? fun m => m.scanEventRawId = scanEventRawId

def rawScanView (scan : ScanEventRaw) : RawScanView :=
  let registration := scan.registrationId.bind s.registrations.find?
  { scan
    registration
    attendeeType := registration.bind fun r => s.attendeeTypes.find? r.attendeeTypeId
    event := s.events.find? scan.eventId
    checkpoint := scan.checkpointId.bind s.checkpoints.find?
    device := s.devices.find? scan.deviceId
    staffSession := scan.staffSessionId.bind s.staffSessions.find?
    qrToken := scan.qrTokenId.bind s.qrTokens.find?
    movementLog := s.movementOf scan.id }

/-- A token with its required relations; the error is Prisma's for a missing one. -/
def qrTokenView (q : QrToken) : Except Exn QrTokenView :=
  match s.registrations.find? q.registrationId with
  | none => .error (.prisma .notFound)
  | some r =>
      match s.attendeeTypes.find? r.attendeeTypeId with
      | none => .error (.prisma .notFound)
      | some a => .ok ⟨q, r, a⟩

def registrationView (r : Registration) : Except Exn RegistrationView :=
  match s.events.find? r.eventId, s.attendeeTypes.find? r.attendeeTypeId with
  | some e, some a => .ok ⟨r, e, a⟩
  | _, _ => .error (.prisma .notFound)

/-- The row of a new raw scan. -/
def rawScanRow (now : Time) (dto : CreateScanDto) (scannedAt : Time) (v : RawScanVerdict) :
    ScanEventRaw where
  operationId := dto.operationId
  eventId := dto.eventId
  deviceId := dto.deviceId
  staffSessionId := dto.staffSessionId
  checkpointId := dto.checkpointId
  registrationId := v.registrationId
  qrTokenId := v.qrTokenId
  qrPayload := v.qrPayload.getD none
  qrRaw := some dto.qrToken
  type := dto.type
  status := v.status
  result := v.result
  reason := v.reason
  scannedAtDevice := scannedAt
  receivedAtServer := now
  processedAt := if v.status = .PENDING then none else some now
  payload := dto.payload

/-- `scanEventRaw.create`. -/
def createRawScan (dto : CreateScanDto) (scannedAt : Option Time) (v : RawScanVerdict) :
    Answer ScanEventRaw :=
  match scannedAt with
  | none => (.error (.prisma .validation), s)
  | some scannedAt =>
      if refers s.events dto.eventId && refers s.devices dto.deviceId &&
          refersOpt s.staffSessions dto.staffSessionId &&
          refersOpt s.checkpoints dto.checkpointId &&
          refersOpt s.registrations v.registrationId && refersOpt s.qrTokens v.qrTokenId then
        match s.rawScans.create (rawScanRow s.clock dto scannedAt v) with
        | none => (.error (.prisma .uniqueConstraint), s)
        | some (row, t) => (.ok row, { s with rawScans := t })
      else (.error (.prisma .foreignKey), s)

/-- The columns of a verdict written over a row. -/
def applyVerdict (now : Time) (v : RawScanVerdict) (a : ScanEventRaw) : ScanEventRaw :=
  { a with
    status := v.status
    result := v.result.orElse fun _ => a.result
    reason := v.reason.orElse fun _ => a.reason
    registrationId := v.registrationId.orElse fun _ => a.registrationId
    qrTokenId := v.qrTokenId.orElse fun _ => a.qrTokenId
    qrPayload := v.qrPayload.getD a.qrPayload
    processedAt := some now }

/-- `scanEventRaw.update`. -/
def updateRawScan (id : Id) (v : RawScanVerdict) : Answer ScanEventRaw :=
  if refersOpt s.registrations v.registrationId && refersOpt s.qrTokens v.qrTokenId then
    match s.rawScans.update id (applyVerdict s.clock v) with
    | .missing => (.error (.prisma .notFound), s)
    | .duplicate => (.error (.prisma .uniqueConstraint), s)
    | .done row t => (.ok row, { s with rawScans := t })
  else (.error (.prisma .foreignKey), s)

/-- Clear the reference of an offline scan to a deleted raw scan. -/
def clearRawScan (id : Id) (x : OfflineScanOperation) : OfflineScanOperation :=
  if x.scanEventRawId = some id then { x with scanEventRawId := none } else x

/-- The offline scans after the deletion of a raw scan. -/
def detachRawScan (t : Table OfflineScanOperation) (id : Id) : Table OfflineScanOperation :=
  match t.rows.find? fun x => x.scanEventRawId = some id with
  | none => t
  | some x =>
      match t.update x.id (clearRawScan id) with
      | .done _ t' => t'
      | _ => t

/-- `scanEventRaw.delete`; a movement restricts it. -/
def deleteRawScan (id : Id) : Answer Unit :=
  if (s.rawScans.find? id).isNone then (.error (.prisma .notFound), s)
  else if (s.movementOf id).isSome then (.error (.prisma .foreignKey), s)
  else (.ok (), { s with
    rawScans := s.rawScans.delete id
    offlineScans := detachRawScan s.offlineScans id })

/-- `movementLog.create`. -/
def createMovement (data : MovementLog) : Answer MovementLog :=
  if refers s.events data.eventId && refers s.registrations data.registrationId &&
      refersOpt s.qrTokens data.qrTokenId && refers s.rawScans data.scanEventRawId &&
      refers s.devices data.deviceId && refersOpt s.staffSessions data.staffSessionId &&
      refersOpt s.checkpoints data.checkpointId then
    match s.movements.create { data with createdAt := s.clock } with
    | none => (.error (.prisma .uniqueConstraint), s)
    | some (row, t) => (.ok row, { s with movements := t })
  else (.error (.prisma .foreignKey), s)

/-- The movement of a settled raw scan. -/
def movementData (scan : ScanEventRaw) (d : Decision) : MovementLog where
  eventId := scan.eventId
  registrationId := d.registrationId
  qrTokenId := some d.qrTokenId
  scanEventRawId := scan.id
  deviceId := scan.deviceId
  staffSessionId := scan.staffSessionId
  checkpointId := scan.checkpointId
  type := scan.type
  result := d.result
  reason := some d.reason
  occurredAt := scan.scannedAtDevice

/-- The transaction of `createProcessedScanAndMovement`. -/
def createProcessedScanAndMovement (dto : CreateScanDto) (scannedAt : Option Time)
    (d : Decision) : Answer (RawScanView × MovementLog) :=
  match s.createRawScan dto scannedAt d.verdict with
  | (.error e, _) => (.error e, s)
  | (.ok scan, s₁) =>
      match s₁.createMovement (movementData scan d) with
      | (.error e, _) => (.error e, s)
      | (.ok movement, s₂) => (.ok (s₁.rawScanView scan, movement), s₂)

/-- The transaction of `updateRawScanAndCreateMovement`. The movement takes the
columns of the raw scan as the caller read it. -/
def updateRawScanAndCreateMovement (scan : ScanEventRaw) (d : Decision) :
    Answer (RawScanView × MovementLog) :=
  match s.updateRawScan scan.id d.verdict with
  | (.error e, _) => (.error e, s)
  | (.ok row, s₁) =>
      match s₁.createMovement (movementData scan d) with
      | (.error e, _) => (.error e, s)
      | (.ok movement, s₂) => (.ok (s₁.rawScanView row, movement), s₂)

/-- The device with a new activity time. -/
def seenDevice (now : Time) (d : Device) : Device := { d with lastSeenAt := some now }

/-- The staff session with a new activity time. -/
def seenSession (now : Time) (x : StaffSession) : StaffSession := { x with lastSeenAt := some now }

/-- The transaction of `touchActivity`. -/
def touchActivity (deviceId : Id) (staffSessionId : Option Id) : Answer Unit :=
  match s.devices.update deviceId (seenDevice s.clock) with
  | .done _ devices =>
      match staffSessionId with
      | none => (.ok (), { s with devices })
      | some k =>
          match s.staffSessions.update k (seenSession s.clock) with
          | .done _ staffSessions => (.ok (), { s with devices, staffSessions })
          | _ => (.error (.prisma .notFound), s)
  | _ => (.error (.prisma .notFound), s)

/-- The row of a new offline scan. -/
def offlineScanRow (now : Time) (d : OfflineScanData) (scannedAt : Time) :
    OfflineScanOperation where
  operationId := d.operationId
  eventId := d.eventId
  scannerDeviceId := d.scannerDeviceId
  checkpointId := d.checkpointId
  staffSessionId := d.staffSessionId
  offlineQrToken := d.offlineQrToken
  offlineRegistrationOperationId := d.offlineRegistrationOperationId
  issuerDeviceId := d.issuerDeviceId
  issuerKeyVersion := d.issuerKeyVersion
  scannedAtDevice := scannedAt
  movementType := d.movementType
  localResult := d.localResult
  qrPayload := some d.qrPayload
  qrPayloadHash := d.qrPayloadHash
  status := d.status
  registrationId := d.registrationId
  syncedAt := some now

/-- `offlineScanOperation.create`. -/
def createOfflineScan (d : OfflineScanData) : Answer OfflineScanOperation :=
  match d.scannedAtDevice with
  | none => (.error (.prisma .validation), s)
  | some scannedAt =>
      if refers s.events d.eventId && refers s.devices d.scannerDeviceId &&
          refers s.checkpoints d.checkpointId && refersOpt s.staffSessions d.staffSessionId &&
          refersOpt s.registrations d.registrationId then
        match s.offlineScans.create (offlineScanRow s.clock d scannedAt) with
        | none => (.error (.prisma .uniqueConstraint), s)
        | some (row, t) => (.ok row, { s with offlineScans := t })
      else (.error (.prisma .foreignKey), s)

/-- The columns of a patch written over a row. -/
def applyOfflinePatch (now : Time) (p : OfflineScanPatch) (x : OfflineScanOperation) :
    OfflineScanOperation :=
  { x with
    status := p.status
    registrationId := p.registrationId.getD x.registrationId
    movementId := p.movementId.orElse fun _ => x.movementId
    scanEventRawId := p.scanEventRawId.orElse fun _ => x.scanEventRawId
    conflictCode := p.conflictCode.getD x.conflictCode
    conflictMessage := p.conflictMessage.getD x.conflictMessage
    staffSessionId := p.staffSessionId.getD x.staffSessionId
    syncedAt := if p.synced then some now else x.syncedAt }

/-- `offlineScanOperation.update`. -/
def updateOfflineScan (id : Id) (p : OfflineScanPatch) : Answer OfflineScanOperation :=
  if refersOpt s.registrations (p.registrationId.getD none) &&
      refersOpt s.movements p.movementId && refersOpt s.rawScans p.scanEventRawId &&
      refersOpt s.staffSessions (p.staffSessionId.getD none) then
    match s.offlineScans.update id (applyOfflinePatch s.clock p) with
    | .missing => (.error (.prisma .notFound), s)
    | .duplicate => (.error (.prisma .uniqueConstraint), s)
    | .done row t => (.ok row, { s with offlineScans := t })
  else (.error (.prisma .foreignKey), s)

/-- The columns a fresh QR token sets on a row. -/
def applyQrToken (now : Time) (d : QrTokenData) (q : QrToken) : QrToken :=
  { q with
    eventId := d.eventId
    tokenId := d.tokenId
    payload := d.payload
    signature := d.signature
    validFrom := d.validFrom
    validUntil := d.validUntil
    status := .ACTIVE
    revokedAt := none
    generatedAt := now }

/-- `qrToken.updateMany` with the id, token id and status last read; the answer is
the number of rows changed. -/
def refreshQrToken (old : QrToken) (d : QrTokenData) : Answer Nat :=
  match s.qrTokens.find? old.id with
  | none => (.ok 0, s)
  | some q =>
      if q.tokenId = old.tokenId ∧ q.status = old.status then
        match s.qrTokens.update old.id (applyQrToken s.clock d) with
        | .missing => (.ok 0, s)
        | .duplicate => (.error (.prisma .uniqueConstraint), s)
        | .done _ t => (.ok 1, { s with qrTokens := t })
      else (.ok 0, s)

/-- The row of a new QR token. -/
def qrTokenRow (now : Time) (d : QrTokenData) : QrToken where
  registrationId := d.registrationId
  eventId := d.eventId
  tokenId := d.tokenId
  payload := d.payload
  signature := d.signature
  validFrom := d.validFrom
  validUntil := d.validUntil
  generatedAt := now

/-- `qrToken.create`. -/
def createQrToken (d : QrTokenData) : Answer QrToken :=
  if refers s.registrations d.registrationId && refers s.events d.eventId then
    match s.qrTokens.create (qrTokenRow s.clock d) with
    | none => (.error (.prisma .uniqueConstraint), s)
    | some (row, t) => (.ok row, { s with qrTokens := t })
  else (.error (.prisma .foreignKey), s)

/-- The QR token of a registration. -/
def qrTokenOf (registrationId : Id) : Option QrToken :=
  s.qrTokens.rows.find? fun q => q.registrationId = registrationId

/-- The columns that a revocation sets. -/
def revokedRow (now : Time) (q : QrToken) : QrToken :=
  { q with status := .REVOKED, revokedAt := some now }

/-- `qrToken.update` of `QrService.revoke`. -/
def revokeQrToken (registrationId : Id) : Answer QrToken :=
  match s.qrTokenOf registrationId with
  | none => (.error (.prisma .notFound), s)
  | some q =>
      match s.qrTokens.update q.id (revokedRow s.clock) with
      | .done row t => (.ok row, { s with qrTokens := t })
      | _ => (.error (.prisma .notFound), s)

/-- The columns of a patch written over a mapping. -/
def applyMappingPatch (now : Time) (p : MappingPatch) (m : OfflineRegistrationMapping) :
    OfflineRegistrationMapping :=
  { m with
    status := p.status
    registrationId := p.registrationId.orElse fun _ => m.registrationId
    canonicalQrTokenId := p.canonicalQrTokenId.orElse fun _ => m.canonicalQrTokenId
    conflictCode := p.conflictCode.getD m.conflictCode
    conflictMessage := p.conflictMessage.getD m.conflictMessage
    syncedAt := if p.synced then some now else m.syncedAt }

/-- `offlineRegistrationMapping.update`. -/
def updateMapping (id : Id) (p : MappingPatch) : Answer OfflineRegistrationMapping :=
  if refersOpt s.registrations p.registrationId && refersOpt s.qrTokens p.canonicalQrTokenId then
    match s.mappings.update id (applyMappingPatch s.clock p) with
    | .missing => (.error (.prisma .notFound), s)
    | .duplicate => (.error (.prisma .uniqueConstraint), s)
    | .done row t => (.ok row, { s with mappings := t })
  else (.error (.prisma .foreignKey), s)

/-- The mapping of an issuer, event and operation. -/
def mappingOf (data : OfflineRegistrationMapping) : Option OfflineRegistrationMapping :=
  s.mappings.rows.find? fun m => m.issuerDeviceId = data.issuerDeviceId ∧
    m.eventId = data.eventId ∧
    m.offlineRegistrationOperationId = data.offlineRegistrationOperationId

/-- `offlineRegistrationMapping.upsert` by issuer, event and operation, with an empty update. -/
def upsertMapping (data : OfflineRegistrationMapping) : Answer OfflineRegistrationMapping :=
  match s.mappingOf data with
  | some m => (.ok m, s)
  | none =>
      if refers s.events data.eventId && refers s.devices data.issuerDeviceId then
        match s.mappings.create data with
        | none => (.error (.prisma .uniqueConstraint), s)
        | some (row, t) => (.ok row, { s with mappings := t })
      else (.error (.prisma .foreignKey), s)

/-- The row of a new registration. -/
def registrationRow (now : Time) (data : Registration) : Registration :=
  { data with registeredAt := now, createdAt := now, updatedAt := now }

/-- `registration.create`. -/
def createRegistration (data : Registration) : Answer Registration :=
  if refers s.events data.eventId && refers s.attendeeTypes data.attendeeTypeId then
    match s.registrations.create (registrationRow s.clock data) with
    | none => (.error (.prisma .uniqueConstraint), s)
    | some (row, t) => (.ok row, { s with registrations := t })
  else (.error (.prisma .foreignKey), s)

end Store

end CreativeBackend
