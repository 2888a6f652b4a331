import CreativeBackend.Registrations.EditStore
import CreativeBackend.Admin.Updates

/-!
# Editing the registration form

`RegistrationFieldsService.create`, `update` and `remove` on the rows that the validation of custom
fields reads. They check the event, the scope and the key of a field and the options of its type,
and look at no registration.
-/

namespace CreativeBackend

open Interaction

variable (p : Platform)

namespace Forms

structure CreateRegistrationFieldDto where
  eventId : Id
  attendeeTypeId : Given Id := .undefined
  key : String
  labelAr : String
  labelEn : Given String := .undefined
  type : RegistrationFieldType
  isRequired : Given Bool := .value false
  options : Given Json := .undefined
  sortOrder : Given Int := .value 0
  isActive : Given Bool := .value true

/-- A partial type that keeps the initialisers of the class. -/
structure UpdateRegistrationFieldDto where
  attendeeTypeId : Given Id := .undefined
  key : Given String := .undefined
  labelAr : Given String := .undefined
  labelEn : Given String := .undefined
  type : Given RegistrationFieldType := .undefined
  isRequired : Given Bool := .value false
  options : Given Json := .undefined
  sortOrder : Given Int := .value 0
  isActive : Given Bool := .value true

namespace RegistrationFieldsService

def ensureAttendeeTypeBelongsToEvent (attendeeTypeId : Option Id) (eventId : Id) :
    EditSvc Unit := do
  match truthy attendeeTypeId with
  | none => return ()
  | some attendeeTypeId =>
      match ← editCall (.base (.attendeeTypeById attendeeTypeId)) with
      | none => throw (.notFound "Attendee type not found")
      | some attendeeType =>
          if attendeeType.eventId ≠ eventId then
            throw (.badRequest "Attendee type must belong to the same event")
          else return ()

def ensureKeyIsUnique (w : FieldWhere) : EditSvc Unit := do
  match ← editCall (.fieldFirst w) with
  | some _ => throw (.conflict
      "Registration field key already exists for this event and attendee type scope")
  | none => return ()

def requiresOptions (type : RegistrationFieldType) : Bool := type = .SELECT || type = .MULTI_SELECT

def hasNonEmptyOptions : Option Json → Bool
  | some (.arr items) => items.length > 0
  | some (.obj fields) => fields.length > 0
  | _ => false

/-- `normalizeOptions` and `normalizeExistingOptions`; `Prisma.JsonNull` reads as `null`. -/
def normalizeOptions (type : RegistrationFieldType) (options : Option Json) : Except Exn Json :=
  if !requiresOptions type then .ok .null
  else match options, hasNonEmptyOptions options with
    | some value, true => .ok value
    | _, _ => .error (.badRequest "options must be provided for select fields")

def create (dto : CreateRegistrationFieldDto) : EditSvc RegistrationField := do
  let _ ← onStore (ScansService.ensureEventCanBeModified dto.eventId)
  ensureAttendeeTypeBelongsToEvent dto.attendeeTypeId.value? dto.eventId
  let key := CreativeBackend.RegistrationFieldsService.normalizeKey p dto.key
  ensureKeyIsUnique { eventId := dto.eventId, key, attendeeTypeId := dto.attendeeTypeId.value? }
  let options ← Prog.ofExcept (normalizeOptions dto.type dto.options.value?)
  editCall (.fieldCreate {
    eventId := dto.eventId
    attendeeTypeId := dto.attendeeTypeId.value?
    key
    labelAr := dto.labelAr
    labelEn := dto.labelEn.value?
    type := dto.type
    isRequired := dto.isRequired
    options
    sortOrder := dto.sortOrder
    isActive := dto.isActive })

def findOne (id : Id) : EditSvc RegistrationField := do
  match ← editCall (.fieldById id) with
  | none => throw (.notFound "Registration field not found")
  | some registrationField => return registrationField

def update (id : Id) (dto : UpdateRegistrationFieldDto) : EditSvc RegistrationField := do
  let registrationField ← findOne id
  let _ ← onStore (ScansService.ensureEventCanBeModified registrationField.eventId)
  let attendeeTypeId := dto.attendeeTypeId.orKeep registrationField.attendeeTypeId
  ensureAttendeeTypeBelongsToEvent attendeeTypeId registrationField.eventId
  let key := match truthy dto.key.value? with
    | some key => CreativeBackend.RegistrationFieldsService.normalizeKey p key
    | none => registrationField.key
  ensureKeyIsUnique
    { eventId := registrationField.eventId, key, attendeeTypeId, excludeId := some id }
  let type := dto.type.value?.getD registrationField.type
  let options ← Prog.ofExcept (normalizeOptions type (dto.options.orKeep registrationField.options))
  editCall (.fieldUpdate id {
    attendeeTypeId
    key
    labelAr := dto.labelAr
    labelEn := dto.labelEn
    type := dto.type
    isRequired := dto.isRequired
    options
    sortOrder := dto.sortOrder
    isActive := dto.isActive })

def remove (id : Id) : EditSvc Unit := do
  let registrationField ← findOne id
  let _ ← onStore (ScansService.ensureEventCanBeModified registrationField.eventId)
  editCall (.fieldDelete id)

end RegistrationFieldsService

end Forms

end CreativeBackend
