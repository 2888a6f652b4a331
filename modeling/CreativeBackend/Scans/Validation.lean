import CreativeBackend.Qr.OfflineQr

/-!
# Validation of a scan

The checks of `ScansService` before a scan is decided: the event, the device,
the staff session and the checkpoint, and the presented code. `validateQrForScan`
tries the offline reference, the full signed token, the compact token and the
signed offline code, in this order. `getCanonicalContextForOfflineScan` resolves
a parked offline scan.

## Implementation notes

The three validators of a presented code end with the same checks of the stored
token, which are `checkStoredQr`.
-/

namespace CreativeBackend

open Interaction

/-- A code that resolved to a stored token: the token with its registration, and
the payload kept with the scan. -/
structure ValidQrContext where
  qr : QrTokenView
  payload : Json

/-- The answers of `validateQrForScan`. -/
inductive QrContext where
  | valid (context : ValidQrContext)
  | pendingOfflineReference (offlineQrToken : String) (payload : Json) (registrationId : Option Id)
  | pendingOffline (verifiedOfflineQr : VerifiedOfflineQr)
  | invalid (reason : String) (payload : Option Json) (qrTokenId registrationId : Option Id)

/-- The settlement of a valid code. -/
def ValidQrContext.decide (context : ValidQrContext) (result : MovementResult)
    (reason : String) : Decision where
  registrationId := context.qr.registration.id
  qrTokenId := context.qr.token.id
  qrPayload := context.payload
  result
  reason

namespace ScansService

/-! ## Event, device, staff session and checkpoint -/

def ensureEventCanBeModified (eventId : Id) : Svc Event := do
  match ← call (.eventById eventId) with
  | none => throw (.notFound "Event not found")
  | some event =>
      if event.status = .ARCHIVED then throw (.badRequest "Archived events cannot be modified")
      else return event

def ensureActiveDevice (deviceId eventId : Id) : Svc Device := do
  match ← call (.deviceById deviceId) with
  | none => throw (.notFound "Device not found")
  | some device =>
      if device.eventId ≠ eventId then throw (.badRequest "Device must belong to the same event")
      else if device.status ≠ .ACTIVE then throw (.badRequest "Device must be ACTIVE")
      else return device

def ensureActiveStaffSession (staffSessionId : Option Id) (eventId : Id) :
    Svc (Option StaffSession) := do
  match truthy staffSessionId with
  | none => return none
  | some id =>
      match ← call (.staffSessionById id) with
      | none => throw (.notFound "Staff session not found")
      | some staffSession =>
          if staffSession.eventId ≠ eventId then
            throw (.badRequest "Staff session must belong to the same event")
          else if staffSession.status ≠ .ACTIVE then
            throw (.badRequest "Staff session must be ACTIVE")
          else return some staffSession

/-- The staff session of a replayed offline scan may have ended or disappeared. -/
def ensureStaffSessionForOfflineReplay (staffSessionId : Option Id)
    (eventId deviceId checkpointId : Id) : Svc (Option StaffSession) := do
  match truthy staffSessionId with
  | none => return none
  | some id =>
      match ← call (.staffSessionById id) with
      | none => return none
      | some staffSession =>
          if staffSession.eventId ≠ eventId ∨ staffSession.deviceId ≠ deviceId ∨
              staffSession.checkpointId ≠ checkpointId then
            throw (.badRequest "Offline scan session does not match event, device, or checkpoint")
          else return some staffSession

def ensureActiveCheckpoint (checkpointId : Option Id) (eventId : Id) :
    Svc (Option Checkpoint) := do
  match truthy checkpointId with
  | none => return none
  | some id =>
      match ← call (.checkpointById id) with
      | none => throw (.notFound "Checkpoint not found")
      | some checkpoint =>
          if checkpoint.eventId ≠ eventId then
            throw (.badRequest "Checkpoint must belong to the same event")
          else if checkpoint.isActive = false then
            throw (.badRequest "Checkpoint must be active")
          else return some checkpoint

/-! ## Denials -/

variable (rt : Runtime)

/-- The reason to refuse an attendee type at a checkpoint; an empty list admits all. -/
def getCheckpointAccessDenial (checkpoint : Option Checkpoint) (attendeeTypeCode : String) :
    Option String :=
  match checkpoint.bind (·.allowedAttendeeTypes) with
  | some (.arr items) =>
      let allowedTypes := items.map (jsString rt)
      if allowedTypes = [] ∨ attendeeTypeCode ∈ allowedTypes then none
      else some "ATTENDEE_TYPE_NOT_ALLOWED"
  | _ => none

/-- The reason to refuse another entry. The movement is read outside the
transaction that writes the next one. -/
def getReentryDenial (event : Event) (registrationId : Id) (type : MovementType) :
    Svc (Option String) := do
  if event.allowReEntry = true ∨ type ≠ .ENTRY then return none
  else
    match ← call (.entryMovement event.id registrationId) with
    | some _ => return some "ALREADY_ENTERED"
    | none => return none

/-- `accessReason ?? reentryReason ?? 'ALLOWED'`. -/
def decisionReason (accessReason reentryReason : Option String) : String :=
  (accessReason.orElse fun _ => reentryReason).getD "ALLOWED"

/-- The result of a decision by its reason. -/
def decisionResult (reason : String) : MovementResult :=
  if reason = "ALLOWED" then .ALLOWED else .DENIED

/-- `reasonMap` of `toScanDenialReason`. -/
def reasonMap : List (String × String) :=
  [("INVALID_SIGNATURE", "INVALID_QR"), ("TOKEN_NOT_FOUND", "INVALID_QR"),
    ("OFFLINE_QR_NOT_SYNCED", "OFFLINE_REGISTRATION_NOT_SYNCED"),
    ("OFFLINE_QR_CONFLICTED", "INVALID_QR"), ("EVENT_MISMATCH", "WRONG_EVENT"),
    ("TOKEN_REVOKED", "QR_REVOKED"), ("TOKEN_EXPIRED", "QR_EXPIRED"),
    ("REGISTRATION_INACTIVE", "REGISTRATION_INACTIVE")]

def toScanDenialReason (reason : String) : String := (reasonMap.lookup reason).getD reason

/-! ## The presented code -/

/-- The validity window of a stored token at a server time. -/
def isOutsideWindow (token : QrToken) (now : Time) : Bool :=
  token.status = .EXPIRED || now < token.validFrom || token.validUntil < now

/-- A denial that names the stored token. -/
def deniedFor (stored : QrTokenView) (payload : Json) (reason : String) : QrContext :=
  .invalid reason (some payload) (some stored.token.id) (some stored.token.registrationId)

/-- The last checks of every validator, on the stored token and its registration. -/
def checkStoredQr (stored : QrTokenView) (payload accepted : Json) : Svc QrContext := do
  if stored.token.status = .REVOKED then return deniedFor stored payload "TOKEN_REVOKED"
  else
    let now ← call .now
    if isOutsideWindow stored.token now then return deniedFor stored payload "TOKEN_EXPIRED"
    else if stored.registration.status ≠ .ACTIVE then
      return deniedFor stored payload "REGISTRATION_INACTIVE"
    else return .valid { qr := stored, payload := accepted }

/-- A code that no validator can read. -/
def unreadable (payload : Option Json) : QrContext := .invalid "INVALID_SIGNATURE" payload none none

/-- The part of `validateQrForScan` after the full signed or compact token was read. -/
def validateServerQrForScan (payload : Json) (eventId : Id) : Svc QrContext := do
  let tokenId := (payload.string? "tokenId").getD ""
  if tokenId = "" then return unreadable (some payload)
  else
    match ← call (.qrTokenByTokenId tokenId) with
    | none => return .invalid "TOKEN_NOT_FOUND" (some payload) none none
    | some stored =>
        if stored.token.eventId ≠ eventId ∨ (payload.string? "eventId").any (· ≠ eventId) ∨
            (payload.string? "registrationId").any (· ≠ stored.token.registrationId) then
          return deniedFor stored payload "EVENT_MISMATCH"
        else checkStoredQr stored payload payload

/-- The payload kept with a scan of an offline reference. -/
def referencePayload (offlineQrToken : String) : List (String × Json) :=
  [("inputType", .str "OFFLINE_REFERENCE"), ("offlineQrToken", .str offlineQrToken)]

def validateOfflineReferenceQrForScan (offlineQrToken : String) (eventId : Id) :
    Svc QrContext := do
  let normalizedToken := trim offlineQrToken
  let payload := Json.obj (referencePayload normalizedToken)
  match ← call (.mappingByToken normalizedToken) with
  | none => return .pendingOfflineReference normalizedToken payload none
  | some mapping =>
      if mapping.eventId ≠ eventId then
        return .invalid "EVENT_MISMATCH" (some payload) none mapping.registrationId
      else
        match truthy mapping.registrationId with
        | none => return .pendingOfflineReference normalizedToken payload mapping.registrationId
        | some registrationId =>
            if mapping.status = .PENDING then
              return .pendingOfflineReference normalizedToken payload (some registrationId)
            else if mapping.status = .CONFLICTED then
              return .invalid "OFFLINE_QR_CONFLICTED" (some payload) none (some registrationId)
            else if mapping.status = .REVOKED then
              return .invalid "TOKEN_REVOKED" (some payload) none (some registrationId)
            else
              match ← call (.qrTokenFirst
                { registrationId, id := truthy mapping.canonicalQrTokenId }) with
              | none => return .invalid "TOKEN_NOT_FOUND" (some payload) none (some registrationId)
              | some stored =>
                  if stored.token.eventId ≠ eventId then
                    return deniedFor stored payload "EVENT_MISMATCH"
                  else
                    checkStoredQr stored payload (Json.spread (referencePayload normalizedToken)
                      [("canonicalTokenId", .str stored.token.tokenId),
                        ("registrationId", .str stored.token.registrationId)])

/-- The fields of a payload that is known to be an object. -/
def payloadFields (payload : Json) : List (String × Json) :=
  (Json.record? (some payload)).getD []

def validateOfflineQrForScan (qrRaw : String) (eventId : Id) : Svc QrContext := do
  let verified ← verifySignedOfflineQr rt qrRaw (some eventId)
  let payload := verified.parsed.payload
  match ← call (.mappingByToken verified.payload.offlineQrToken) with
  | none => return .pendingOffline verified
  | some mapping =>
      match truthy mapping.registrationId with
      | none => return .pendingOffline verified
      | some registrationId =>
          if mapping.status = .PENDING ∨ mapping.status = .CONFLICTED ∨
              mapping.status = .REVOKED then
            return .pendingOffline verified
          else
            match ← call (.qrTokenFirst { registrationId, id := mapping.canonicalQrTokenId }) with
            | none => return .invalid "TOKEN_NOT_FOUND" (some payload) none (some registrationId)
            | some stored =>
                if stored.token.eventId ≠ eventId ∨ verified.payload.eventId ≠ eventId ∨
                    verified.payload.attendeeTypeId ≠ stored.registration.attendeeTypeId then
                  return deniedFor stored payload "EVENT_MISMATCH"
                else
                  checkStoredQr stored payload (Json.spread (payloadFields payload)
                    [("inputType", .str "OFFLINE_SIGNED"),
                      ("canonicalTokenId", .str stored.token.tokenId)])

@[irreducible] def validateQrForScan (qrRaw : String) (eventId : Id) : Svc QrContext := do
  let normalizedQr := trim qrRaw
  if normalizedQr = "" then return unreadable none
  else if startsWith normalizedQr "O2." then
    validateOfflineReferenceQrForScan normalizedQr eventId
  else
    match verifyServerQr rt normalizedQr with
    | .ok payload => validateServerQrForScan payload eventId
    | .error _ =>
        tryCatch (validateOfflineQrForScan rt normalizedQr eventId) fun _ =>
          return unreadable none

/-! ## Parked offline scans -/

/-- The stored payload of an offline scan, when it is an object. -/
def storedQrPayload (offlineScan : OfflineScanOperation) : Option (List (String × Json)) :=
  Json.record? offlineScan.qrPayload

/-- The kind of credential that an offline scan was made with. -/
def offlineInputType (offlineScan : OfflineScanOperation) : String :=
  match (storedQrPayload offlineScan).bind fun fields => (Json.obj fields).string? "inputType" with
  | some inputType => inputType
  | none => if (truthy offlineScan.qrPayloadHash).isSome then "OFFLINE_SIGNED"
      else "OFFLINE_REFERENCE"

/-- The mapping filter of a parked scan: its token or its operation id. -/
def canonicalWhere (offlineScan : OfflineScanOperation) : CanonicalWhere where
  eventId := offlineScan.eventId
  offlineQrToken := offlineScan.offlineQrToken
  offlineRegistrationOperationId := offlineScan.offlineRegistrationOperationId

def getCanonicalContextForOfflineScan (offlineScan : OfflineScanOperation) :
    Svc (Option ValidQrContext) := do
  match ← call (.mappingCanonical (canonicalWhere offlineScan)) with
  | none => return none
  | some mapping =>
      match truthy mapping.registrationId with
      | none => return none
      | some registrationId =>
          match ← call (.qrTokenFirst
            { registrationId, id := mapping.canonicalQrTokenId, status := some .ACTIVE }) with
          | none => throw (.badRequest "Canonical QR token not found")
          | some stored =>
              let payload := Json.spread ((storedQrPayload offlineScan).getD [])
                [("inputType", .str (offlineInputType offlineScan)),
                  ("canonicalTokenId", .str stored.token.tokenId)]
              return some { qr := stored, payload }

end ScansService

end CreativeBackend
