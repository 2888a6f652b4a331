import CreativeBackend.Store.State
import CreativeBackend.Registrations.CustomFields
import CreativeBackend.Interaction.Service
import Mathlib.Data.List.MinMax

/-!
# The calls of the services

Each call is one Prisma statement or transaction, one addition to a queue, one
access to the image directory, or one reading of the clock or of random bytes.
`machine` answers a call from the store.

## Implementation notes

A query without a total order may return its rows in any order. The choice of a
call ranks rows; `findFirst` takes the first matching row by rank, and rows that
compare equal under `orderBy` are ordered by rank. In an `OR`, Prisma drops a
filter whose value is `undefined`.
-/

namespace CreativeBackend

open Relational Interaction

/-- The `where` of a `qrToken.findFirst`. -/
structure QrTokenWhere where
  registrationId : Id
  id : Option Id := none
  status : Option QrTokenStatus := none

/-- The `where` of the canonical mapping lookup. -/
structure CanonicalWhere where
  eventId : Id
  offlineQrToken : String
  offlineRegistrationOperationId : Option String

/-- The `where` of `findExistingOfflineMapping`. -/
structure ExistingMappingWhere where
  eventId : Id
  issuerDeviceId : Id
  offlineRegistrationOperationId : String
  offlineRegistrationId : String
  offlineQrToken : String

/-- The `where` of a `registration.findFirst`: an event and alternatives. -/
structure RegistrationWhere where
  eventId : Id
  phone : Option String := none
  email : Option String := none
  externalId : Option String := none

inductive Call where
  | now
  | random
  | eventById (id : Id)
  | deviceById (id : Id)
  | deviceWithKey (id : Id) (version : Int)
  | staffSessionById (id : Id)
  | checkpointById (id : Id)
  | attendeeTypeById (id : Id)
  | registrationById (id : Id)
  | registrationWithRelations (id : Id)
  | registrationByPublicId (publicId : String)
  | registrationFirst (w : RegistrationWhere)
  | registrationFields (eventId attendeeTypeId : Id)
  | fieldsToValidate (eventId attendeeTypeId : Id)
  | badgeTemplateActive (eventId : Id)
  | qrTokenByTokenId (tokenId : String)
  | qrTokenByRegistration (registrationId : Id)
  | qrTokenFirst (w : QrTokenWhere)
  | mappingByToken (offlineQrToken : String)
  | mappingCanonical (w : CanonicalWhere)
  | mappingExisting (w : ExistingMappingWhere)
  | rawScanByOperation (operationId : String)
  | rawScanById (id : Id)
  | offlineScanByOperation (operationId : String)
  | offlineScanById (id : Id)
  | offlineScansPending (w : ReconcileInput)
  | entryMovement (eventId registrationId : Id)
  | imageExists (filename : String)
  | imageWrite (filename : String)
  | rawScanDelete (id : Id)
  | rawScanCreate (dto : CreateScanDto) (scannedAt : Option Time) (v : RawScanVerdict)
  | rawScanUpdate (id : Id) (v : RawScanVerdict)
  | createProcessed (dto : CreateScanDto) (scannedAt : Option Time) (d : Decision)
  | updateProcessed (scan : ScanEventRaw) (d : Decision)
  | touchActivity (deviceId : Id) (staffSessionId : Option Id)
  | offlineScanCreate (d : OfflineScanData)
  | offlineScanUpdate (id : Id) (p : OfflineScanPatch)
  | qrTokenRefresh (old : QrToken) (d : QrTokenData)
  | qrTokenCreate (d : QrTokenData)
  | qrTokenRevoke (registrationId : Id)
  | mappingUpdate (id : Id) (p : MappingPatch)
  | mappingUpsert (data : OfflineRegistrationMapping)
  | registrationCreate (data : Registration)
  | enqueueScan (scanEventRawId : Id)
  | enqueueReconcile (job : ReconcileInput)
  | enqueuePipeline (job : PipelineJob)

/-- The answer of each call. -/
@[reducible] def Resp : Call → Type
  | .now => Time
  | .random => String
  | .eventById _ => Option Event
  | .deviceById _ => Option Device
  | .deviceWithKey _ _ => Option (Device × Option DeviceOfflineKey)
  | .staffSessionById _ => Option StaffSession
  | .checkpointById _ => Option Checkpoint
  | .attendeeTypeById _ => Option AttendeeType
  | .registrationById _ => Option Registration
  | .registrationWithRelations _ => Option RegistrationView
  | .registrationByPublicId _ => Option Registration
  | .registrationFirst _ => Option Registration
  | .registrationFields _ _ => List RegistrationField
  | .fieldsToValidate _ _ => List RegistrationField
  | .badgeTemplateActive _ => Option EventBadgeTemplate
  | .qrTokenByTokenId _ => Option QrTokenView
  | .qrTokenByRegistration _ => Option QrToken
  | .qrTokenFirst _ => Option QrTokenView
  | .mappingByToken _ => Option OfflineRegistrationMapping
  | .mappingCanonical _ => Option OfflineRegistrationMapping
  | .mappingExisting _ => Option OfflineRegistrationMapping
  | .rawScanByOperation _ => Option RawScanView
  | .rawScanById _ => Option ScanEventRaw
  | .offlineScanByOperation _ => Option OfflineScanOperation
  | .offlineScanById _ => Option OfflineScanOperation
  | .offlineScansPending _ => List OfflineScanOperation
  | .entryMovement _ _ => Option MovementLog
  | .imageExists _ => Bool
  | .imageWrite _ => Unit
  | .rawScanDelete _ => Unit
  | .rawScanCreate _ _ _ => RawScanView
  | .rawScanUpdate _ _ => RawScanView
  | .createProcessed _ _ _ => RawScanView × MovementLog
  | .updateProcessed _ _ => RawScanView × MovementLog
  | .touchActivity _ _ => Unit
  | .offlineScanCreate _ => OfflineScanOperation
  | .offlineScanUpdate _ _ => OfflineScanOperation
  | .qrTokenRefresh _ _ => Nat
  | .qrTokenCreate _ => QrToken
  | .qrTokenRevoke _ => QrToken
  | .mappingUpdate _ _ => OfflineRegistrationMapping
  | .mappingUpsert _ => OfflineRegistrationMapping
  | .registrationCreate _ => Registration
  | .enqueueScan _ => Unit
  | .enqueueReconcile _ => Unit
  | .enqueuePipeline _ => Unit

/-- A program of the services. -/
abbrev Svc (α : Type) := Prog Resp Exn α

/-- What a call may see and the caller does not control: the order of rows that a
query leaves open, and whether the image directory can be written. -/
structure Choice where
  rank : Id → Nat := fun _ => 0
  imagesWritable : Bool := true

namespace Choice

/-- `findFirst` without a total order. -/
def first {ρ : Type} [Record ρ Id] (ch : Choice) (rows : List ρ) : Option ρ :=
  rows.argmin fun a => ch.rank (key a)

theorem first_mem {ρ : Type} [Record ρ Id] {ch : Choice} {rows : List ρ} {a : ρ}
    (h : ch.first rows = some a) : a ∈ rows :=
  List.argmin_mem h

theorem first_eq_none {ρ : Type} [Record ρ Id] {ch : Choice} {rows : List ρ} :
    ch.first rows = none ↔ rows = [] :=
  List.argmin_eq_none

/-- The order of the pending offline scans. -/
def scanOrder (ch : Choice) (a b : OfflineScanOperation) : Prop :=
  a.scannedAtDevice < b.scannedAtDevice ∨
    a.scannedAtDevice = b.scannedAtDevice ∧ ch.rank a.id ≤ ch.rank b.id

instance (ch : Choice) : DecidableRel ch.scanOrder := fun _ _ => inferInstanceAs (Decidable (_ ∨ _))

/-- The order of the registration fields. -/
def fieldOrder (ch : Choice) (a b : RegistrationField) : Prop :=
  a.sortOrder < b.sortOrder ∨ a.sortOrder = b.sortOrder ∧
    (a.createdAt < b.createdAt ∨ a.createdAt = b.createdAt ∧ ch.rank a.id ≤ ch.rank b.id)

instance (ch : Choice) : DecidableRel ch.fieldOrder :=
  fun _ _ => inferInstanceAs (Decidable (_ ∨ _))

end Choice

/-! ## The filters of the queries -/

def QrTokenWhere.holds (w : QrTokenWhere) (q : QrToken) : Bool :=
  q.registrationId == w.registrationId && w.id.all (q.id == ·) && w.status.all (q.status == ·)

def CanonicalWhere.holds (w : CanonicalWhere) (m : OfflineRegistrationMapping) : Bool :=
  m.eventId == w.eventId && m.registrationId.isSome &&
    (m.offlineQrToken == w.offlineQrToken ||
      w.offlineRegistrationOperationId.any (m.offlineRegistrationOperationId == ·))

def ExistingMappingWhere.holds (w : ExistingMappingWhere) (m : OfflineRegistrationMapping) :
    Bool :=
  m.eventId == w.eventId &&
    (m.issuerDeviceId == w.issuerDeviceId &&
        m.offlineRegistrationOperationId == w.offlineRegistrationOperationId ||
      m.issuerDeviceId == w.issuerDeviceId &&
        m.offlineRegistrationId == w.offlineRegistrationId ||
      m.offlineQrToken == w.offlineQrToken)

def RegistrationWhere.holds (w : RegistrationWhere) (r : Registration) : Bool :=
  r.eventId == w.eventId && (sameKey w.phone r.phone || sameKey w.email r.email ||
    sameKey w.externalId r.externalId)

/-- The statuses and identities that reconciliation asks for. -/
def ReconcileInput.holds (w : ReconcileInput) (x : OfflineScanOperation) : Bool :=
  x.eventId == w.eventId &&
    (x.status == .PENDING_LINK || x.status == .LINKED || x.status == .FAILED) &&
    (x.offlineQrToken == w.offlineQrToken ||
      x.offlineRegistrationOperationId == some w.offlineRegistrationOperationId)

/-- An ALLOWED ENTRY movement of a registration in an event. -/
def isEntry (eventId registrationId : Id) (m : MovementLog) : Bool :=
  m.eventId == eventId && m.registrationId == registrationId && m.type == .ENTRY &&
    m.result == .ALLOWED

/-! ## The machine -/

/-- A query answers from the store and leaves it alone. -/
def query {α : Type} (s : Store) (a : α) : Store.Answer α := (.ok a, s)

/-- The view of an optional token. -/
def tokenView (s : Store) : Option QrToken → Except Exn (Option QrTokenView)
  | none => .ok none
  | some q => (s.qrTokenView q).map some

/-- The raw scan of a statement, with its relations. -/
def viewed (a : Store.Answer ScanEventRaw) : Store.Answer RawScanView :=
  (a.1.map a.2.rawScanView, a.2)

/-- Answer a call from the store. -/
def machine (rt : Runtime) (ch : Choice) : Machine Resp Exn Store
  | .now, s => query s s.clock
  | .random, s => (.ok (rt.random s.draws), { s with draws := s.draws + 1 })
  | .eventById id, s => query s (s.events.find? id)
  | .deviceById id, s => query s (s.devices.find? id)
  | .deviceWithKey id version, s =>
      query s ((s.devices.find? id).map fun d =>
        (d, s.offlineKeys.rows.find? fun k => k.deviceId = id ∧ k.version = version))
  | .staffSessionById id, s => query s (s.staffSessions.find? id)
  | .checkpointById id, s => query s (s.checkpoints.find? id)
  | .attendeeTypeById id, s => query s (s.attendeeTypes.find? id)
  | .registrationById id, s => query s (s.registrations.find? id)
  | .registrationWithRelations id, s =>
      match s.registrations.find? id with
      | none => query s none
      | some r => ((s.registrationView r).map some, s)
  | .registrationByPublicId publicId, s =>
      query s (s.registrations.rows.find? fun r => r.publicId = publicId)
  | .registrationFirst w, s => query s (ch.first (s.registrations.rows.filter w.holds))
  | .registrationFields eventId attendeeTypeId, s =>
      query s ((s.registrationFields.rows.filter fun f => f.eventId = eventId ∧ f.isActive = true ∧
        (f.attendeeTypeId = none ∨ f.attendeeTypeId = some attendeeTypeId)).insertionSort
          ch.fieldOrder)
  | .fieldsToValidate eventId attendeeTypeId, s =>
      query s ((s.registrationFields.rows.filter (RegistrationsService.applies eventId attendeeTypeId)).insertionSort
        fun a b => ch.rank a.id ≤ ch.rank b.id)
  | .badgeTemplateActive eventId, s =>
      query s (ch.first (s.badgeTemplates.rows.filter fun b => b.eventId = eventId ∧ b.isActive = true))
  | .qrTokenByTokenId tokenId, s =>
      (tokenView s (s.qrTokens.rows.find? fun q => q.tokenId = tokenId), s)
  | .qrTokenByRegistration registrationId, s => query s (s.qrTokenOf registrationId)
  | .qrTokenFirst w, s => (tokenView s (ch.first (s.qrTokens.rows.filter w.holds)), s)
  | .mappingByToken offlineQrToken, s =>
      query s (s.mappings.rows.find? fun m => m.offlineQrToken = offlineQrToken)
  | .mappingCanonical w, s => query s (ch.first (s.mappings.rows.filter w.holds))
  | .mappingExisting w, s => query s (ch.first (s.mappings.rows.filter w.holds))
  | .rawScanByOperation operationId, s =>
      query s ((s.rawScans.rows.find? fun a => a.operationId = operationId).map s.rawScanView)
  | .rawScanById id, s => query s (s.rawScans.find? id)
  | .offlineScanByOperation operationId, s =>
      query s (s.offlineScans.rows.find? fun x => x.operationId = operationId)
  | .offlineScanById id, s => query s (s.offlineScans.find? id)
  | .offlineScansPending w, s =>
      query s ((s.offlineScans.rows.filter w.holds).insertionSort ch.scanOrder)
  | .entryMovement eventId registrationId, s =>
      query s (ch.first (s.movements.rows.filter (isEntry eventId registrationId)))
  | .imageExists filename, s => query s (s.images.contains filename)
  | .imageWrite filename, s =>
      if ch.imagesWritable then (.ok (), { s with images := filename :: s.images })
      else (.error (.error "Image could not be written"), s)
  | .rawScanDelete id, s => s.deleteRawScan id
  | .rawScanCreate dto scannedAt v, s => viewed (s.createRawScan dto scannedAt v)
  | .rawScanUpdate id v, s => viewed (s.updateRawScan id v)
  | .createProcessed dto scannedAt d, s => s.createProcessedScanAndMovement dto scannedAt d
  | .updateProcessed scan d, s => s.updateRawScanAndCreateMovement scan d
  | .touchActivity deviceId staffSessionId, s => s.touchActivity deviceId staffSessionId
  | .offlineScanCreate d, s => s.createOfflineScan d
  | .offlineScanUpdate id p, s => s.updateOfflineScan id p
  | .qrTokenRefresh old d, s => s.refreshQrToken old d
  | .qrTokenCreate d, s => s.createQrToken d
  | .qrTokenRevoke registrationId, s => s.revokeQrToken registrationId
  | .mappingUpdate id p, s => s.updateMapping id p
  | .mappingUpsert data, s => s.upsertMapping data
  | .registrationCreate data, s => s.createRegistration data
  | .enqueueScan id, s => (.ok (), { s with scanJobs := s.scanJobs ++ [id] })
  | .enqueueReconcile job, s => (.ok (), { s with reconcileJobs := s.reconcileJobs ++ [job] })
  | .enqueuePipeline job, s => (.ok (), { s with pipelineJobs := s.pipelineJobs ++ [job] })

/-- Reading the clock or random bytes cannot fail. -/
def Call.faulty : Call → Prop
  | .now => False
  | .random => False
  | _ => True

/-- A call of the services. -/
def call (c : Call) : Svc (Resp c) := Prog.call c

end CreativeBackend
