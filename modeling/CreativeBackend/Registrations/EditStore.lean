import CreativeBackend.Registrations.Creation
import CreativeBackend.Interaction.Embedding

/-!
# The calls of form and registration edits

The services that edit registration forms and registrations use the scan store, the staff
assignments and the audit log. Their statements on registration fields and registrations change
only the columns that are given.

## Implementation notes

The columns of a registration field that no service here reads (`placeholderAr`, `placeholderEn`,
`helpTextAr`, `helpTextEn`, `isUnique`, `validation`) are left out. Of the relations that an update
returns with the registration, only the attendee type is used.
-/

namespace CreativeBackend

open Relational Interaction

/-! ## Properties of request bodies -/

/-- A property of a request body that may be left out or be `null`. -/
inductive Given (α : Type) where
  | undefined
  | null
  | value (a : α)

namespace Given

variable {α : Type}

/-- The value, where there is one. -/
def value? : Given α → Option α
  | value a => some a
  | _ => none

def isUndefined : Given α → Bool
  | undefined => true
  | _ => false

def isNull : Given α → Bool
  | null => true
  | _ => false

/-- What an update writes to a nullable column. -/
def orKeep : Given α → Option α → Option α
  | undefined, old => old
  | null, _ => none
  | value a, _ => some a

end Given

/-! ## Rows and statements -/

structure StaffAssignment where
  id : Id := ""
  eventId : Id
  userId : Id
  checkpointId : Option Id := none
  deviceId : Option Id := none
  isActive : Bool := true
  updatedAt : Time := 0

/-- The index is on event and user. -/
instance : Record StaffAssignment Id where
  key := (·.id)
  withKey k a := { a with id := k }
  key_withKey _ _ := rfl
  clash a b := a.eventId == b.eventId && a.userId == b.userId

/-- An update in the audit log. -/
structure AuditLog where
  eventId : Id
  actorUserId : Id
  entityType : String
  entityId : Id
  source : String
  changedFields : List String
  createdAt : Time := 0

/-- The `where` of `ensureKeyIsUnique`. -/
structure FieldWhere where
  eventId : Id
  key : String
  attendeeTypeId : Option Id
  excludeId : Option Id := none

/-- The columns of a new registration field. -/
structure FieldData where
  eventId : Id
  attendeeTypeId : Option Id
  key : String
  labelAr : String
  labelEn : Option String
  type : RegistrationFieldType
  isRequired : Given Bool
  options : Json
  sortOrder : Given Int
  isActive : Given Bool

/-- The columns that an update of a registration field writes. -/
structure FieldPatch where
  attendeeTypeId : Option Id
  key : String
  labelAr : Given String
  labelEn : Given String
  type : Given RegistrationFieldType
  isRequired : Given Bool
  options : Json
  sortOrder : Given Int
  isActive : Given Bool

/-- The columns that an update of a registration writes. -/
structure RegistrationPatch where
  attendeeTypeId : Id
  fullName : Option String := none
  phone : Option String := none
  email : Option (Option String) := none
  companyName : Option String := none
  jobTitle : Option String := none
  externalId : Option String := none
  customFields : Option (List (String × Json)) := none
  notes : Option String := none

/-- The store of the edits. -/
structure EditStore where
  base : Store
  assignments : Table StaffAssignment := Table.empty
  audits : List AuditLog := []

def FieldWhere.holds (w : FieldWhere) (f : RegistrationField) : Bool :=
  f.eventId == w.eventId && f.key == w.key && f.attendeeTypeId == w.attendeeTypeId &&
    w.excludeId.all (f.id != ·)

namespace EditStore

/-- What a statement answers, and the store it leaves. -/
abbrev Answer (α : Type) := Except Exn α × EditStore

variable (s : EditStore)

/-- The row of a new registration field. -/
def fieldRow (now : Time) (d : FieldData) : RegistrationField where
  eventId := d.eventId
  attendeeTypeId := d.attendeeTypeId
  key := d.key
  labelAr := d.labelAr
  labelEn := d.labelEn
  type := d.type
  isRequired := d.isRequired.value?.getD false
  options := some d.options
  sortOrder := d.sortOrder.value?.getD 0
  isActive := d.isActive.value?.getD true
  createdAt := now

def withFields (t : Table RegistrationField) : EditStore :=
  { s with base := { s.base with registrationFields := t } }

def withRegistrations (t : Table Registration) : EditStore :=
  { s with base := { s.base with registrations := t } }

/-- `registrationField.create`; `null` fits no required column. -/
def createField (d : FieldData) : Answer RegistrationField :=
  if d.isRequired.isNull || d.sortOrder.isNull || d.isActive.isNull then
    (.error (.prisma .validation), s)
  else if Store.refers s.base.events d.eventId && Store.refersOpt s.base.attendeeTypes d.attendeeTypeId then
    match s.base.registrationFields.create (fieldRow s.base.clock d) with
    | none => (.error (.prisma .uniqueConstraint), s)
    | some (row, t) => (.ok row, s.withFields t)
  else (.error (.prisma .foreignKey), s)

/-- The columns of a patch written over a registration field. -/
def applyFieldPatch (p : FieldPatch) (f : RegistrationField) : RegistrationField :=
  { f with
    attendeeTypeId := p.attendeeTypeId
    key := p.key
    labelAr := p.labelAr.value?.getD f.labelAr
    labelEn := p.labelEn.orKeep f.labelEn
    type := p.type.value?.getD f.type
    isRequired := p.isRequired.value?.getD f.isRequired
    options := some p.options
    sortOrder := p.sortOrder.value?.getD f.sortOrder
    isActive := p.isActive.value?.getD f.isActive }

/-- Whether a patch writes `null` to a required column. -/
def writesNull (p : FieldPatch) : Bool :=
  p.labelAr.isNull || p.type.isNull || p.isRequired.isNull || p.sortOrder.isNull || p.isActive.isNull

/-- `registrationField.update`. -/
def updateField (id : Id) (p : FieldPatch) : Answer RegistrationField :=
  if writesNull p then (.error (.prisma .validation), s)
  else if Store.refersOpt s.base.attendeeTypes p.attendeeTypeId then
    match s.base.registrationFields.update id (applyFieldPatch p) with
    | .missing => (.error (.prisma .notFound), s)
    | .duplicate => (.error (.prisma .uniqueConstraint), s)
    | .done row t => (.ok row, s.withFields t)
  else (.error (.prisma .foreignKey), s)

/-- `registrationField.delete`. -/
def deleteField (id : Id) : Answer Unit :=
  if (s.base.registrationFields.find? id).isNone then (.error (.prisma .notFound), s)
  else (.ok (), s.withFields (s.base.registrationFields.delete id))

/-- The columns of a patch written over a registration. -/
def applyRegistrationPatch (now : Time) (p : RegistrationPatch) (r : Registration) : Registration :=
  { r with
    attendeeTypeId := p.attendeeTypeId
    fullName := p.fullName.getD r.fullName
    phone := p.phone.or r.phone
    email := p.email.getD r.email
    companyName := p.companyName.or r.companyName
    jobTitle := p.jobTitle.or r.jobTitle
    externalId := p.externalId.or r.externalId
    customFields := (p.customFields.map .obj).or r.customFields
    notes := p.notes.or r.notes
    updatedAt := now }

/-- `registration.update`. -/
def updateRegistration (id : Id) (p : RegistrationPatch) :
    Answer (Registration × Option AttendeeType) :=
  if Store.refers s.base.attendeeTypes p.attendeeTypeId then
    match s.base.registrations.update id (applyRegistrationPatch s.base.clock p) with
    | .missing => (.error (.prisma .notFound), s)
    | .duplicate => (.error (.prisma .uniqueConstraint), s)
    | .done row t => (.ok (row, s.base.attendeeTypes.find? row.attendeeTypeId), s.withRegistrations t)
  else (.error (.prisma .foreignKey), s)

end EditStore

/-- The order of `findActiveStaffAssignment`. -/
def Choice.newestAssignment (ch : Choice) (a b : StaffAssignment) : Prop :=
  b.updatedAt < a.updatedAt ∨ a.updatedAt = b.updatedAt ∧ ch.rank a.id ≤ ch.rank b.id

instance (ch : Choice) : DecidableRel ch.newestAssignment :=
  fun _ _ => inferInstanceAs (Decidable (_ ∨ _))

/-- The assignment that `findActiveStaffAssignment` finds. -/
def EditStore.activeAssignment (ch : Choice) (s : EditStore) (userId : Id) : Option StaffAssignment :=
  ((s.assignments.rows.filter fun a => a.userId = userId ∧ a.isActive = true).insertionSort
    ch.newestAssignment).head?

/-! ## Calls -/

inductive EditCall where
  | base (c : Call)
  | staffAssignmentActive (userId : Id)
  | fieldById (id : Id)
  | fieldFirst (w : FieldWhere)
  | fieldCreate (data : FieldData)
  | fieldUpdate (id : Id) (p : FieldPatch)
  | fieldDelete (id : Id)
  | registrationOther (w : RegistrationWhere) (excludeId : Id)
  | registrationUpdate (id : Id) (p : RegistrationPatch)
  | auditCreate (data : AuditLog)

/-- The answer of each call. -/
@[reducible] def EditResp : EditCall → Type
  | .base c => Resp c
  | .staffAssignmentActive _ => Option StaffAssignment
  | .fieldById _ => Option RegistrationField
  | .fieldFirst _ => Option RegistrationField
  | .fieldCreate _ => RegistrationField
  | .fieldUpdate _ _ => RegistrationField
  | .fieldDelete _ => Unit
  | .registrationOther _ _ => Option Registration
  | .registrationUpdate _ _ => Registration × Option AttendeeType
  | .auditCreate _ => Unit

/-- A program of the editing services. -/
abbrev EditSvc (α : Type) := Prog EditResp Exn α

/-- A query answers from the store and leaves it alone. -/
def editQuery {α : Type} (s : EditStore) (a : α) : EditStore.Answer α := (.ok a, s)

/-- Answer a call from the store. -/
def editMachine (rt : Runtime) (ch : Choice) : Machine EditResp Exn EditStore
  | .base c, s => ((machine rt ch c s.base).1, { s with base := (machine rt ch c s.base).2 })
  | .staffAssignmentActive userId, s => editQuery s (s.activeAssignment ch userId)
  | .fieldById id, s => editQuery s (s.base.registrationFields.find? id)
  | .fieldFirst w, s => editQuery s (ch.first (s.base.registrationFields.rows.filter w.holds))
  | .fieldCreate data, s => s.createField data
  | .fieldUpdate id p, s => s.updateField id p
  | .fieldDelete id, s => s.deleteField id
  | .registrationOther w excludeId, s =>
      editQuery s (ch.first (s.base.registrations.rows.filter fun r =>
        w.holds r && r.id != excludeId))
  | .registrationUpdate id p, s => s.updateRegistration id p
  | .auditCreate data, s =>
      (.ok (), { s with audits := s.audits ++ [{ data with createdAt := s.base.clock }] })

/-- A call of the editing services. -/
def editCall (c : EditCall) : EditSvc (EditResp c) := Prog.call c

/-- The calls of the scan store among those of the editing services. -/
def EditCall.embedding : Embedding Resp EditResp := ⟨.base, fun _ => rfl⟩

/-- A program of the scan store, in the editing services. -/
def onStore {α : Type} (p : Svc α) : EditSvc α := EditCall.embedding.embed p

/-- The scan store is a part of the store of the edits. -/
def EditStore.basePart (rt : Runtime) (ch : Choice) :
    EditCall.embedding.Part (machine rt ch) (editMachine rt ch) where
  get := (·.base)
  put a s := { s with base := a }
  get_put _ _ := rfl
  put_put _ _ _ := rfl
  put_get _ := rfl
  answers _ _ := rfl
  changes _ _ := rfl

section OnStore

variable {α β : Type}

@[simp] theorem onStore_bind (p : Svc α) (f : α → Svc β) :
    onStore (p.bind f) = (onStore p).bind fun a => onStore (f a) :=
  EditCall.embedding.embed_bind p f

@[simp] theorem onStore_call (c : Call) : onStore (call c) = editCall (.base c) :=
  congrArg (Prog.ask (EditCall.base c)) (funext fun r => EditCall.embedding.embed_ofExcept r)

end OnStore

theorem run_onStore {rt : Runtime} {ch : Choice} {α : Type} (p : Svc α) (s : EditStore) :
    (onStore p).run (editMachine rt ch) s =
      ((p.run (machine rt ch) s.base).1, { s with base := (p.run (machine rt ch) s.base).2 }) :=
  (EditStore.basePart rt ch).run_embed p s

/-! ## Reading -/

/-- The calls that change nothing. -/
def EditCall.reads : EditCall → Bool
  | .base c => c.reads
  | .staffAssignmentActive _ => true
  | .fieldById _ => true
  | .fieldFirst _ => true
  | .registrationOther _ _ => true
  | _ => false

theorem editMachine_reads (rt : Runtime) (ch : Choice) {c : EditCall} (hc : c.reads = true)
    (s : EditStore) : (editMachine rt ch c s).2 = s := by
  cases c with
  | base c =>
      have hbase := machine_reads rt ch hc s.base
      simp only [editMachine, hbase]
  | _ => first | rfl | cases hc

/-- Programs that only read. -/
abbrev EditReads {α : Type} (p : EditSvc α) : Prop := p.All (·.reads = true)

/-- On its own, a program that reads leaves the store alone. -/
theorem EditReads.run {α : Type} {p : EditSvc α} (h : EditReads p) (rt : Runtime) (ch : Choice)
    (s : EditStore) : (p.run (editMachine rt ch) s).2 = s :=
  Prog.run_invariant (editMachine rt ch) (I := (· = s))
    (fun _ hc u hu => hu ▸ editMachine_reads rt ch hc u) h rfl

theorem Reads.onStore {α : Type} {p : Svc α} (h : Reads p) : EditReads (onStore p) :=
  EditCall.embedding.all_embed (fun _ hc => hc) h

end CreativeBackend
