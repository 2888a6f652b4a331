import CreativeBackend.Runtime.Values

/-!
# The rows of the scan store

The enumerations and rows of `prisma/schema.prisma` that registration, QR and
scan services read or write. A nullable column is an `Option`. The unique
indexes of a model, other than its primary key, are its `clash`.

## Implementation notes

The column `QrToken.payload` is only written by `QrService.generate`, with a
payload of the type it is read at, so it is stored at that type.
-/

namespace CreativeBackend

open Relational

/-! ## Enumerations -/

inductive EventStatus where
  | DRAFT | SCHEDULED | ACTIVE | COMPLETED | CANCELLED | ARCHIVED
  deriving DecidableEq, Repr

inductive RegistrationFieldType where
  | TEXT | TEXTAREA | NUMBER | EMAIL | PHONE | DATE | BOOLEAN | SELECT | MULTI_SELECT | FILE
  deriving DecidableEq, Repr

inductive RegistrationStatus where
  | PENDING | ACTIVE | CANCELLED | BLOCKED | ARCHIVED
  deriving DecidableEq, Repr

inductive RegistrationSource where
  | ONLINE | ONSITE | EXCEL_IMPORT | OFFLINE_DEVICE | ADMIN | PUBLIC
  deriving DecidableEq, Repr

inductive QrTokenStatus where
  | ACTIVE | REVOKED | EXPIRED
  deriving DecidableEq, Repr

inductive ScanEventStatus where
  | PENDING | PROCESSED | DUPLICATE | FAILED | INVALID_QR
  deriving DecidableEq, Repr

inductive MovementType where
  | ENTRY | EXIT | CHECKPOINT | BOOTH_VISIT | SESSION_ATTENDANCE | VIP_ACCESS
  deriving DecidableEq, Repr

inductive MovementResult where
  | ALLOWED | DENIED | WARNING
  deriving DecidableEq, Repr

inductive DeviceStatus where
  | PENDING | ACTIVE | SUSPENDED | REVOKED
  deriving DecidableEq, Repr

inductive OfflineKeyStatus where
  | ACTIVE | REVOKED | ROTATED
  deriving DecidableEq, Repr

inductive OfflineRegistrationMappingStatus where
  | PENDING | SYNCED | MATCHED_EXISTING | CONFLICTED | REVOKED
  deriving DecidableEq, Repr

inductive OfflineScanOperationStatus where
  | PENDING_LINK | LINKED | PROCESSED | CONFLICTED | FAILED
  deriving DecidableEq, Repr

inductive StaffSessionStatus where
  | ACTIVE | ENDED | EXPIRED
  deriving DecidableEq, Repr

inductive CheckpointType where
  | ENTRY | EXIT | BOOTH | SESSION_ROOM | VIP_AREA | INTERNAL_POINT | WORKSHOP_AREA | OTHER
  deriving DecidableEq, Repr

/-! ## Reference rows -/

structure Event where
  id : Id := ""
  status : EventStatus := .DRAFT
  titleAr : String := ""
  titleEn : Option String := none
  startsAt : Time
  endsAt : Time
  allowReEntry : Bool := true
  duplicateStrategy : String := "PHONE"
  qrValidFrom : Option Time := none
  qrValidUntil : Option Time := none

structure AttendeeType where
  id : Id := ""
  eventId : Id
  code : String
  nameAr : String := ""
  nameEn : Option String := none
  isActive : Bool := true

structure RegistrationField where
  id : Id := ""
  eventId : Id
  attendeeTypeId : Option Id := none
  key : String
  labelAr : String := ""
  labelEn : Option String := none
  type : RegistrationFieldType
  isRequired : Bool := false
  options : Option Json := none
  sortOrder : Int := 0
  isActive : Bool := true
  createdAt : Time := 0

structure Registration where
  id : Id := ""
  publicId : String
  eventId : Id
  attendeeTypeId : Id
  status : RegistrationStatus := .ACTIVE
  source : RegistrationSource := .ADMIN
  fullName : String
  phone : Option String := none
  email : Option String := none
  companyName : Option String := none
  jobTitle : Option String := none
  externalId : Option String := none
  customFields : Option Json := none
  notes : Option String := none
  registeredAt : Time := 0
  createdAt : Time := 0
  updatedAt : Time := 0

/-- The payload of a full signed QR token. -/
structure QrPayload where
  tokenId : String
  eventId : Id
  registrationId : Id
  registrationPublicId : String
  attendeeTypeId : Id
  attendeeTypeCode : String
  issuedAt : String
  validFrom : String
  validUntil : String
  nonce : String

structure QrToken where
  id : Id := ""
  registrationId : Id
  eventId : Id
  tokenId : String
  payload : QrPayload
  signature : String
  status : QrTokenStatus := .ACTIVE
  validFrom : Time
  validUntil : Time
  generatedAt : Time := 0
  revokedAt : Option Time := none

structure Device where
  id : Id := ""
  eventId : Id
  name : String := ""
  code : String
  status : DeviceStatus := .PENDING
  lastSeenAt : Option Time := none

structure DeviceOfflineKey where
  id : Id := ""
  deviceId : Id
  version : Int
  publicKey : String
  status : OfflineKeyStatus := .ACTIVE
  validFrom : Time
  validUntil : Option Time := none
  revokedAt : Option Time := none

structure StaffSession where
  id : Id := ""
  eventId : Id
  staffUserId : Id := ""
  deviceId : Id
  checkpointId : Id
  status : StaffSessionStatus := .ACTIVE
  lastSeenAt : Option Time := none

structure Checkpoint where
  id : Id := ""
  eventId : Id
  type : CheckpointType := .ENTRY
  nameAr : String := ""
  nameEn : Option String := none
  code : String
  allowedAttendeeTypes : Option Json := none
  isActive : Bool := true

structure EventBadgeTemplate where
  id : Id := ""
  eventId : Id
  isActive : Bool := true

structure DigitalTicketTemplate where
  id : Id := ""
  eventId : Id
  attendeeTypeId : Option Id := none
  attendeeTypeScopeKey : String := "__EVENT__"
  isActive : Bool := true
  createdAt : Time := 0

structure OfflineRegistrationMapping where
  id : Id := ""
  eventId : Id
  issuerDeviceId : Id
  offlineRegistrationOperationId : String
  offlineRegistrationId : String
  offlineQrToken : String
  issuerKeyVersion : Int
  payloadHash : String
  registrationId : Option Id := none
  canonicalQrTokenId : Option Id := none
  status : OfflineRegistrationMappingStatus := .PENDING
  conflictCode : Option String := none
  conflictMessage : Option String := none
  syncedAt : Option Time := none

/-! ## Scan rows -/

structure ScanEventRaw where
  id : Id := ""
  operationId : String
  eventId : Id
  deviceId : Id
  staffSessionId : Option Id := none
  checkpointId : Option Id := none
  registrationId : Option Id := none
  qrTokenId : Option Id := none
  qrPayload : Option Json := none
  qrRaw : Option String := none
  type : MovementType
  status : ScanEventStatus := .PENDING
  result : Option MovementResult := none
  reason : Option String := none
  scannedAtDevice : Time
  receivedAtServer : Time := 0
  processedAt : Option Time := none
  payload : Option Json := none

structure MovementLog where
  id : Id := ""
  eventId : Id
  registrationId : Id
  qrTokenId : Option Id := none
  scanEventRawId : Id
  deviceId : Id
  staffSessionId : Option Id := none
  checkpointId : Option Id := none
  type : MovementType
  result : MovementResult
  reason : Option String := none
  occurredAt : Time
  createdAt : Time := 0

structure OfflineScanOperation where
  id : Id := ""
  operationId : String
  eventId : Id
  scannerDeviceId : Id
  checkpointId : Id
  staffSessionId : Option Id := none
  offlineQrToken : String
  offlineRegistrationOperationId : Option String := none
  issuerDeviceId : Option Id := none
  issuerKeyVersion : Option Int := none
  scannedAtDevice : Time
  movementType : MovementType
  localResult : Option String := none
  qrPayload : Option Json := none
  qrPayloadHash : Option String := none
  status : OfflineScanOperationStatus := .PENDING_LINK
  registrationId : Option Id := none
  movementId : Option Id := none
  scanEventRawId : Option Id := none
  conflictCode : Option String := none
  conflictMessage : Option String := none
  syncedAt : Option Time := none

/-! ## Primary keys and unique indexes -/

/-- Equal values of a nullable unique column; `NULL` never clashes. -/
def sameKey (a b : Option String) : Bool := a.isSome && a == b

instance : Record Event Id where
  key := (·.id)
  withKey k a := { a with id := k }
  key_withKey _ _ := rfl
  clash _ _ := false

instance : Record AttendeeType Id where
  key := (·.id)
  withKey k a := { a with id := k }
  key_withKey _ _ := rfl
  clash a b := a.eventId == b.eventId && a.code == b.code

instance : Record RegistrationField Id where
  key := (·.id)
  withKey k a := { a with id := k }
  key_withKey _ _ := rfl
  clash a b := a.eventId == b.eventId && a.key == b.key && sameKey a.attendeeTypeId b.attendeeTypeId

instance : Record Registration Id where
  key := (·.id)
  withKey k a := { a with id := k }
  key_withKey _ _ := rfl
  clash a b := a.publicId == b.publicId || a.eventId == b.eventId &&
    (sameKey a.phone b.phone || sameKey a.email b.email || sameKey a.externalId b.externalId)

instance : Record QrToken Id where
  key := (·.id)
  withKey k a := { a with id := k }
  key_withKey _ _ := rfl
  clash a b := a.registrationId == b.registrationId || a.tokenId == b.tokenId

instance : Record Device Id where
  key := (·.id)
  withKey k a := { a with id := k }
  key_withKey _ _ := rfl
  clash a b := a.code == b.code

instance : Record DeviceOfflineKey Id where
  key := (·.id)
  withKey k a := { a with id := k }
  key_withKey _ _ := rfl
  clash a b := a.deviceId == b.deviceId && a.version == b.version

instance : Record StaffSession Id where
  key := (·.id)
  withKey k a := { a with id := k }
  key_withKey _ _ := rfl
  clash _ _ := false

instance : Record Checkpoint Id where
  key := (·.id)
  withKey k a := { a with id := k }
  key_withKey _ _ := rfl
  clash a b := a.eventId == b.eventId && a.code == b.code

instance : Record EventBadgeTemplate Id where
  key := (·.id)
  withKey k a := { a with id := k }
  key_withKey _ _ := rfl
  clash a b := a.eventId == b.eventId

instance : Record DigitalTicketTemplate Id where
  key := (·.id)
  withKey k a := { a with id := k }
  key_withKey _ _ := rfl
  clash a b := a.eventId == b.eventId && a.attendeeTypeScopeKey == b.attendeeTypeScopeKey

instance : Record OfflineRegistrationMapping Id where
  key := (·.id)
  withKey k a := { a with id := k }
  key_withKey _ _ := rfl
  clash a b := a.offlineQrToken == b.offlineQrToken ||
    a.issuerDeviceId == b.issuerDeviceId && a.eventId == b.eventId &&
      (a.offlineRegistrationOperationId == b.offlineRegistrationOperationId ||
        a.offlineRegistrationId == b.offlineRegistrationId)

instance : Record ScanEventRaw Id where
  key := (·.id)
  withKey k a := { a with id := k }
  key_withKey _ _ := rfl
  clash a b := a.operationId == b.operationId

instance : Record MovementLog Id where
  key := (·.id)
  withKey k a := { a with id := k }
  key_withKey _ _ := rfl
  clash a b := a.scanEventRawId == b.scanEventRawId

instance : Record OfflineScanOperation Id where
  key := (·.id)
  withKey k a := { a with id := k }
  key_withKey _ _ := rfl
  clash a b := a.operationId == b.operationId || sameKey a.movementId b.movementId ||
    sameKey a.scanEventRawId b.scanEventRawId

@[simp] theorem withKey_rawScan (k : Id) (a : ScanEventRaw) :
    withKey k a = { a with id := k } := rfl

@[simp] theorem withKey_movement (k : Id) (a : MovementLog) :
    withKey k a = { a with id := k } := rfl

@[simp] theorem withKey_offlineScan (k : Id) (a : OfflineScanOperation) :
    withKey k a = { a with id := k } := rfl

@[simp] theorem withKey_qrToken (k : Id) (a : QrToken) :
    withKey k a = { a with id := k } := rfl

@[simp] theorem withKey_mapping (k : Id) (a : OfflineRegistrationMapping) :
    withKey k a = { a with id := k } := rfl

end CreativeBackend
