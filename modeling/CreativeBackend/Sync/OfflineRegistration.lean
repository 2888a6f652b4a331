import CreativeBackend.Qr.QrService
import CreativeBackend.Registrations.Create
import CreativeBackend.Scans.OfflineScans

/-!
# The operations of a sync batch

`runOperation` executes one operation of a batch: an offline registration, an offline
scan, the generation of a QR token, or an online scan that was buffered.

## Implementation notes

The registrations of a batch are remembered by their offline ids, also when the
operation fails afterwards, so an operation returns the outcome together with the
memory it leaves. A movement type that the enumeration lacks is refused by Prisma;
here the operation is refused before its first call.
-/

namespace CreativeBackend

open Interaction

inductive SyncOperationType where
  | OFFLINE_REGISTRATION | OFFLINE_SCAN | QR_GENERATION | SCAN_EVENT
  deriving DecidableEq, Repr

structure SubmitSyncOperationDto where
  operationId : String
  type : SyncOperationType
  payload : List (String × Json)

structure SubmitSyncBatchDto where
  batchId : String
  eventId : Id
  deviceId : Id
  staffSessionId : Option Id := none
  operations : List SubmitSyncOperationDto

/-- A registration of the batch. -/
structure LocalRegistration where
  id : Id
  publicId : String

/-- The registrations of the batch by offline id, the latest first. -/
abbrev LocalRegistrationMap := List (String × LocalRegistration)

inductive OfflineRegistrationStatus where
  | CREATED | RECOVERED_EXISTING | ALREADY_SYNCED
  deriving DecidableEq, Repr

/-- What `runOfflineRegistration` returns; `registration` holds the columns that the
output repeats. -/
structure OfflineRegistrationOutput where
  status : OfflineRegistrationStatus
  registrationId : Id
  publicId : String
  registration : Registration
  offlineRegistrationOperationId : String
  offlineRegistrationId : String
  offlineQrToken : String
  signedOfflineQr : Option String
  canonicalQrTokenId : Option Id
  canonicalQrToken : String
  canonicalSignedQrToken : String

/-- The output of an operation, by its type. -/
inductive SyncOutput where
  | registration (output : OfflineRegistrationOutput)
  | offlineScan (reply : OfflineScanReply)
  | qr (qr : FormattedQr)
  | scan (reply : IngestReply)

/-- The outcome of an operation and the registrations remembered after it. -/
structure Attempt (α : Type) where
  result : Except Exn α
  locals : LocalRegistrationMap

variable (rt : Runtime)

namespace SyncService

/-- `getString`. -/
def getString (payload : List (String × Json)) (key : String) : Except Exn String :=
  match payload.lookup key with
  | some (.str value) =>
      if trim value = "" then .error (.badRequest (key ++ " is required")) else .ok value
  | _ => .error (.badRequest (key ++ " is required"))

/-- `getOptionalString`. -/
def getOptionalString (payload : List (String × Json)) (key : String) : Option String :=
  match payload.lookup key with
  | some (.str value) => truthy (some (trim value))
  | _ => none

/-- `getOptionalRecord`. -/
def getOptionalRecord (payload : List (String × Json)) (key : String) :
    Option (List (String × Json)) :=
  Json.record? (payload.lookup key)

/-- The fields of an offline registration that must equal those of the printed badge. -/
def comparisons (qr : OfflineQrPayload) : List (String × Option String) := [
  ("eventId", some qr.eventId),
  ("offlineRegistrationOperationId", some qr.offlineRegistrationOperationId),
  ("offlineRegistrationId", qr.offlineRegistrationId),
  ("offlineQrToken", some qr.offlineQrToken),
  ("attendeeTypeId", some qr.attendeeTypeId)]

def assertOfflineRegistrationPayloadMatchesQr (payload : List (String × Json))
    (qr : OfflineQrPayload) : Except Exn Unit :=
  checkAll (fun (field, expected) =>
    match truthy expected with
    | none => .ok ()
    | some expected => do
        let value ← getString payload field
        if value ≠ expected then
          .error (.badRequest ("Offline registration " ++ field ++ " does not match signed QR"))
        else .ok ()) (comparisons qr)

/-- The identity of an offline registration, as its payload names it. -/
structure OfflineIdentity where
  signedOfflineQr : String
  verified : VerifiedOfflineQr
  offlineRegistrationOperationId : String
  offlineRegistrationId : String
  offlineQrToken : String

/-- The checks of `runOfflineRegistration` before its first lookup. -/
def readIdentity (payload : List (String × Json)) (batch : SubmitSyncBatchDto) :
    Svc OfflineIdentity := do
  let signedOfflineQr ← Prog.ofExcept (getString payload "signedOfflineQr")
  let verified ← verifySignedOfflineQr rt signedOfflineQr (some batch.eventId)
  if verified.payload.issuerDeviceId ≠ batch.deviceId then
    throw (.badRequest "Offline registration issuer must match authenticated device")
  else
    let offlineRegistrationOperationId ← Prog.ofExcept
      (getString payload "offlineRegistrationOperationId")
    let offlineRegistrationId ← Prog.ofExcept (getString payload "offlineRegistrationId")
    let offlineQrToken ← Prog.ofExcept (getString payload "offlineQrToken")
    Prog.ofExcept (assertOfflineRegistrationPayloadMatchesQr payload verified.payload)
    return { signedOfflineQr, verified, offlineRegistrationOperationId, offlineRegistrationId,
             offlineQrToken }

/-- Run a program that leaves the registrations of the batch as they are. -/
def attempt {α : Type} (locals : LocalRegistrationMap) (p : Svc α) : Svc (Attempt α) :=
  tryCatch (do return { result := .ok (← p), locals })
    fun error => return { result := .error error, locals }

/-- Run a program that may remember a registration, unless it throws. -/
def attemptFrom {α : Type} (locals : LocalRegistrationMap) (p : Svc (Attempt α)) :
    Svc (Attempt α) :=
  tryCatch p fun error => return { result := .error error, locals }

/-- `localRegistrations.set`. -/
def remember (locals : LocalRegistrationMap) (offlineRegistrationId : String)
    (registration : Registration) : LocalRegistrationMap :=
  (offlineRegistrationId, { id := registration.id, publicId := registration.publicId }) :: locals

/-- The output of an offline registration. -/
def offlineOutput (status : OfflineRegistrationStatus) (identity : OfflineIdentity)
    (registration : Registration) (canonicalQrTokenId : Option Id) (qr : FormattedQr) :
    OfflineRegistrationOutput where
  status
  registrationId := registration.id
  publicId := registration.publicId
  registration
  offlineRegistrationOperationId := identity.offlineRegistrationOperationId
  offlineRegistrationId := identity.offlineRegistrationId
  offlineQrToken := identity.offlineQrToken
  signedOfflineQr := if status = .ALREADY_SYNCED then none else some identity.signedOfflineQr
  canonicalQrTokenId
  canonicalQrToken := qr.compactQrToken
  canonicalSignedQrToken := qr.qrToken

/-- The job of the offline reconciliation; it runs at once where it cannot be queued. -/
def enqueueOfflineReconciliation (input : ReconcileInput) : Svc Unit :=
  tryCatch (call (.enqueueReconcile input))
    fun _ => do
      let _ ← ScansService.reconcileOfflineRegistration rt input
      return ()

/-- The columns of a mapping with another payload. -/
def conflictedPatch : MappingPatch where
  status := .CONFLICTED
  conflictCode := some (some "OFFLINE_REGISTRATION_CONFLICT")
  conflictMessage :=
    some (some "Same offline registration identity was submitted with a different payload")

/-- The columns of a mapping whose registration could not be created. -/
def failedPatch (error : Exn) : MappingPatch :=
  let permanentFailure := match error with
    | .conflict _ | .badRequest _ | .notFound _ => true
    | _ => false
  { status := if permanentFailure then .CONFLICTED else .PENDING
    conflictCode := some (some (match error with
      | .conflict _ => "DUPLICATE_REGISTRATION"
      | _ => if permanentFailure then "INVALID_OFFLINE_REGISTRATION"
          else "OFFLINE_REGISTRATION_RETRYABLE_FAILURE"))
    conflictMessage := some (some error.message) }

/-- The columns of a mapping with its registration; `clears` also clears the conflict. -/
def syncedPatch (registrationId : Id) (canonicalQrTokenId : Option Id) (clears : Bool) :
    MappingPatch where
  status := .SYNCED
  registrationId := some registrationId
  canonicalQrTokenId
  conflictCode := if clears then some none else none
  conflictMessage := if clears then some none else none
  synced := true

/-- The row of a new mapping. -/
def mappingData (batch : SubmitSyncBatchDto) (identity : OfflineIdentity) :
    OfflineRegistrationMapping where
  eventId := batch.eventId
  issuerDeviceId := batch.deviceId
  offlineRegistrationOperationId := identity.offlineRegistrationOperationId
  offlineRegistrationId := identity.offlineRegistrationId
  offlineQrToken := identity.offlineQrToken
  issuerKeyVersion := identity.verified.payload.issuerKeyVersion
  payloadHash := identity.verified.parsed.payloadHash
  status := .PENDING

/-- The registration of an earlier attempt of the operation, if there is one. -/
def findSynced (batch : SubmitSyncBatchDto) (identity : OfflineIdentity) :
    Svc (Option (OfflineRegistrationMapping × Registration)) := do
  match ← call (.mappingExisting {
      eventId := batch.eventId
      issuerDeviceId := batch.deviceId
      offlineRegistrationOperationId := identity.offlineRegistrationOperationId
      offlineRegistrationId := identity.offlineRegistrationId
      offlineQrToken := identity.offlineQrToken }) with
  | none => return none
  | some existing =>
      if existing.offlineQrToken ≠ identity.offlineQrToken ∨
          existing.payloadHash ≠ identity.verified.parsed.payloadHash then
        let _ ← call (.mappingUpdate existing.id conflictedPatch)
        throw (.conflict "OFFLINE_REGISTRATION_CONFLICT")
      else
        match truthy existing.registrationId with
        | none => return none
        | some registrationId =>
            match ← call (.registrationById registrationId) with
            | none => return none
            | some registration => return some (existing, registration)

/-- Issue the canonical QR token and link the mapping to it and to the registration. -/
def linkMapping (mapping : OfflineRegistrationMapping) (registration : Registration)
    (clears : Bool) : Svc (FormattedQr × Option Id) := do
  let qr ← QrService.generate rt registration.id
  let stored ← call (.qrTokenByTokenId qr.payload.tokenId)
  let canonicalQrTokenId := stored.map (·.token.id)
  let _ ← call (.mappingUpdate mapping.id (syncedPatch registration.id canonicalQrTokenId clears))
  return (qr, canonicalQrTokenId)

/-- Link the mapping, remember the registration, and ask for the reconciliation. -/
def linkAndReconcile (status : OfflineRegistrationStatus) (identity : OfflineIdentity)
    (batch : SubmitSyncBatchDto) (locals : LocalRegistrationMap)
    (mapping : OfflineRegistrationMapping) (registration : Registration) :
    Svc (Attempt OfflineRegistrationOutput) := do
  let (qr, canonicalQrTokenId) ← linkMapping rt mapping registration
    (status = .RECOVERED_EXISTING)
  attempt (remember locals identity.offlineRegistrationId registration) do
    enqueueOfflineReconciliation rt {
      eventId := batch.eventId
      offlineQrToken := identity.offlineQrToken
      offlineRegistrationOperationId := identity.offlineRegistrationOperationId
      registrationId := registration.id }
    return offlineOutput status identity registration canonicalQrTokenId qr

/-- The input of `registrationsService.create`. -/
def registrationDto (payload : List (String × Json)) (batch : SubmitSyncBatchDto) :
    Except Exn CreateRegistrationDto := do
  let attendeeTypeId ← getString payload "attendeeTypeId"
  let fullName ← getString payload "fullName"
  let phone ← getString payload "phone"
  return {
    eventId := batch.eventId
    attendeeTypeId
    fullName
    phone
    email := getOptionalString payload "email"
    companyName := getOptionalString payload "companyName"
    jobTitle := getOptionalString payload "jobTitle"
    externalId := getOptionalString payload "externalId"
    customFields := getOptionalRecord payload "customFields"
    notes := getOptionalString payload "notes"
    source := some .OFFLINE_DEVICE }

/-- Create the registration; the mapping keeps why it could not be created. -/
def createRegistration (payload : List (String × Json)) (batch : SubmitSyncBatchDto)
    (mapping : OfflineRegistrationMapping) : Svc Registration :=
  tryCatch (do
      let dto ← Prog.ofExcept (registrationDto payload batch)
      RegistrationsService.create rt dto)
    fun error => do
      let _ ← call (.mappingUpdate mapping.id (failedPatch error))
      throw error

/-- The external id by which a partly created registration is looked up. -/
def operationExternalId (payload : List (String × Json)) (identity : OfflineIdentity) : String :=
  (getOptionalString payload "externalId").getD identity.offlineRegistrationOperationId

/-- `runOfflineRegistration` for an operation whose registration is not linked yet. -/
def registerOffline (payload : List (String × Json)) (batch : SubmitSyncBatchDto)
    (locals : LocalRegistrationMap) (identity : OfflineIdentity) :
    Svc (Attempt OfflineRegistrationOutput) := do
  let mapping ← call (.mappingUpsert (mappingData batch identity))
  match ← call (.registrationFirst {
      eventId := batch.eventId
      externalId := some (operationExternalId payload identity) }) with
  | some partiallyCreated =>
      linkAndReconcile rt .RECOVERED_EXISTING identity batch locals mapping partiallyCreated
  | none =>
      let registration ← createRegistration rt payload batch mapping
      linkAndReconcile rt .CREATED identity batch locals mapping registration

/-- `runOfflineRegistration` for an operation whose registration is linked. -/
def answerSynced (locals : LocalRegistrationMap) (identity : OfflineIdentity)
    (mapping : OfflineRegistrationMapping) (registration : Registration) :
    Svc (Attempt OfflineRegistrationOutput) :=
  attempt (remember locals identity.offlineRegistrationId registration) do
    let qr ← QrService.generate rt registration.id
    return offlineOutput .ALREADY_SYNCED identity registration mapping.canonicalQrTokenId qr

def runOfflineRegistration (payload : List (String × Json)) (batch : SubmitSyncBatchDto)
    (locals : LocalRegistrationMap) : Svc (Attempt OfflineRegistrationOutput) :=
  attemptFrom locals do
    let identity ← readIdentity rt payload batch
    match ← findSynced batch identity with
    | some (mapping, registration) => answerSynced rt locals identity mapping registration
    | none => registerOffline rt payload batch locals identity

/-- A movement type by its name. -/
def movementTypeOf : String → Option MovementType
  | "ENTRY" => some .ENTRY
  | "EXIT" => some .EXIT
  | "CHECKPOINT" => some .CHECKPOINT
  | "BOOTH_VISIT" => some .BOOTH_VISIT
  | "SESSION_ATTENDANCE" => some .SESSION_ATTENDANCE
  | "VIP_ACCESS" => some .VIP_ACCESS
  | _ => none

/-- A movement type, where the enumeration has it. -/
def asMovementType (name : String) : Except Exn MovementType :=
  match movementTypeOf name with
  | some type => .ok type
  | none => .error (.prisma .validation)

/-- The input of `scansService.ingestOfflineScan`. -/
def offlineScanInput (operation : SubmitSyncOperationDto) (batch : SubmitSyncBatchDto) :
    Except Exn OfflineScanInput := do
  let payload := operation.payload
  let checkpointId ← getString payload "checkpointId"
  let signedOfflineQr ← getString payload "signedOfflineQr"
  let movementTypeName ← getString payload "movementType"
  let scannedAtDevice ← getString payload "scannedAtDevice"
  let movementType ← asMovementType movementTypeName
  return {
    operationId := operation.operationId
    eventId := batch.eventId
    scannerDeviceId := batch.deviceId
    staffSessionId := batch.staffSessionId
    checkpointId
    signedOfflineQr
    offlineQrToken := getOptionalString payload "offlineQrToken"
    offlineRegistrationOperationId := getOptionalString payload "offlineRegistrationOperationId"
    movementType
    scannedAtDevice
    localResult := getOptionalString payload "localResult" }

def runOfflineScan (mappingFirst : Bool) (operation : SubmitSyncOperationDto)
    (batch : SubmitSyncBatchDto) : Svc OfflineScanReply := do
  let input ← Prog.ofExcept (offlineScanInput operation batch)
  ScansService.ingestOfflineScan rt mappingFirst input

def resolveLocalRegistrationId (payload : List (String × Json)) (locals : LocalRegistrationMap) :
    Except Exn Id := do
  let localRegistrationId ← getString payload "localRegistrationId"
  match locals.lookup localRegistrationId with
  | none => .error (.badRequest "Local registration was not found in batch")
  | some registration => return registration.id

/-- The registration that a QR generation names. -/
def qrRegistrationId (payload : List (String × Json)) (locals : LocalRegistrationMap) :
    Except Exn Id :=
  match getOptionalString payload "registrationId" with
  | some registrationId => .ok registrationId
  | none => resolveLocalRegistrationId payload locals

/-- The input of `scansService.ingest`. -/
def scanDto (operation : SubmitSyncOperationDto) (batch : SubmitSyncBatchDto) :
    Except Exn CreateScanDto := do
  let payload := operation.payload
  let qrToken ← getString payload "qrToken"
  let typeName ← getString payload "type"
  let scannedAtDevice ← getString payload "scannedAtDevice"
  let type ← asMovementType typeName
  return {
    operationId := operation.operationId
    eventId := batch.eventId
    deviceId := batch.deviceId
    staffSessionId := batch.staffSessionId
    checkpointId := getOptionalString payload "checkpointId"
    qrToken
    type
    scannedAtDevice
    payload := (getOptionalRecord payload "payload").map .obj }

/-- `mappingFirst` is the order of the two lookups that `ingestOfflineScan` issues together. -/
def runOperation (mappingFirst : Bool) (operation : SubmitSyncOperationDto)
    (batch : SubmitSyncBatchDto) (locals : LocalRegistrationMap) : Svc (Attempt SyncOutput) :=
  match operation.type with
  | .OFFLINE_REGISTRATION => do
      let attempt ← runOfflineRegistration rt operation.payload batch locals
      return { result := attempt.result.map .registration, locals := attempt.locals }
  | .OFFLINE_SCAN => attempt locals do
      return .offlineScan (← runOfflineScan rt mappingFirst operation batch)
  | .QR_GENERATION => attempt locals do
      let registrationId ← Prog.ofExcept (qrRegistrationId operation.payload locals)
      return .qr (← QrService.generate rt registrationId)
  | .SCAN_EVENT => attempt locals do
      let dto ← Prog.ofExcept (scanDto operation batch)
      return .scan (← ScansService.ingest rt dto)

end SyncService

end CreativeBackend
