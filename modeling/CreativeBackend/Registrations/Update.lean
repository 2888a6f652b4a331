import CreativeBackend.Registrations.EditStore

/-!
# Updating a registration

`RegistrationsService.update`: the input is normalised, the event and a new attendee type are
checked, the event's duplicate strategy is asked about the other registrations, and the custom
fields, given or stored, are validated before the columns are written.
-/

namespace CreativeBackend

open Interaction

variable (rt : Runtime)

structure UpdateRegistrationDto where
  attendeeTypeId : Given Id := .undefined
  fullName : Given String := .undefined
  phone : Given String := .undefined
  email : Given String := .undefined
  companyName : Given String := .undefined
  jobTitle : Given String := .undefined
  externalId : Given String := .undefined
  customFields : Given (List (String × Json)) := .undefined
  notes : Given String := .undefined

/-- An update whose texts are normalised; `email` may be set to `null`. -/
structure NormalizedUpdate where
  attendeeTypeId : Given Id
  fullName : Option String
  phone : Option String
  email : Option (Option String)
  companyName : Option String
  jobTitle : Option String
  externalId : Option String
  customFields : Given (List (String × Json))
  notes : Option String

namespace RegistrationsService

/-- A required text that may be left out. -/
def normalizeGivenString (value : Given String) (field : String) : Except Exn (Option String) :=
  match value with
  | .undefined => .ok none
  | .null => .error (.badRequest (field ++ " is required"))
  | .value s => (normalizeRequiredString s field).map some

def normalizeGivenEmail (value : Given String) : Except Exn (Option (Option String)) :=
  match value with
  | .undefined => .ok none
  | .null => .ok (some none)
  | .value s => (normalizeOptionalStringToNull (some s)).map some

def normalizeUpdateDto (dto : UpdateRegistrationDto) : Except Exn NormalizedUpdate := do
  let fullName ← normalizeGivenString dto.fullName "fullName"
  let phone ← normalizeGivenString dto.phone "phone"
  let email ← normalizeGivenEmail dto.email
  return {
    attendeeTypeId := dto.attendeeTypeId
    fullName
    phone
    email
    companyName := normalizeOptionalString dto.companyName.value?
    jobTitle := normalizeOptionalString dto.jobTitle.value?
    externalId := normalizeOptionalString dto.externalId.value?
    customFields := dto.customFields
    notes := normalizeOptionalString dto.notes.value? }

/-- `findRegistrationOrThrow`, as a call. -/
def registrationOrThrow (id : Id) : EditSvc Registration := do
  match ← editCall (.base (.registrationById id)) with
  | none => throw (.notFound "Registration not found")
  | some registration => return registration

/-- The registration as the duplicate strategy sees it after the update. -/
def nextRegistration (registration : Registration) (dto : NormalizedUpdate) (attendeeTypeId : Id) :
    Registration :=
  { registration with
    attendeeTypeId
    phone := dto.phone.or registration.phone
    email := dto.email.getD registration.email
    externalId := dto.externalId.or registration.externalId }

/-- `ensureDuplicateAllowed` with an `excludeId`. -/
def ensureNoOtherDuplicate (event : Event) (registration : Registration) (excludeId : Id) :
    EditSvc Unit := do
  let checks := duplicateChecks event registration
  if checks.asks then
    match ← editCall (.registrationOther checks excludeId) with
    | some _ => throw (.conflict "Duplicate registration for this event")
    | none => return ()
  else return ()

/-- The stored custom fields. -/
def storedFields (registration : Registration) : List (String × Json) :=
  (Json.record? registration.customFields).getD []

/-- `validateCustomFields` of the fields given, or else of those stored; `Object.keys(null)`
raises a `TypeError`. -/
def validateNextFields (registration : Registration) (dto : NormalizedUpdate)
    (attendeeTypeId : Id) : EditSvc Unit := do
  let fields ← editCall (.base (.fieldsToValidate registration.eventId attendeeTypeId))
  match dto.customFields with
  | .undefined => Prog.ofExcept (validateCustomFields rt fields (storedFields registration))
  | .null => throw (.error "Cannot convert undefined or null to object")
  | .value customFields => Prog.ofExcept (validateCustomFields rt fields customFields)

/-- The columns that the update writes. -/
def updateData (dto : NormalizedUpdate) (attendeeTypeId : Id) : RegistrationPatch where
  attendeeTypeId
  fullName := dto.fullName
  phone := dto.phone
  email := dto.email
  companyName := dto.companyName
  jobTitle := dto.jobTitle
  externalId := dto.externalId
  customFields := dto.customFields.value?
  notes := dto.notes

/-- `throwConflictForUniqueConstraint`, and then the error itself. -/
def throwConflictForUniqueConstraint {α : Type} (error : Exn) : EditSvc α :=
  if error = .prisma .uniqueConstraint then
    throw (.conflict "Duplicate registration for this event")
  else throw error

/-- The end of `update`, from `ensureDuplicateAllowed` on. -/
def checkAndWrite (id : Id) (registration : Registration) (event : Event) (dto : NormalizedUpdate)
    (attendeeTypeId : Id) : EditSvc (Registration × Option AttendeeType) := do
  ensureNoOtherDuplicate event (nextRegistration registration dto attendeeTypeId) id
  validateNextFields rt registration dto attendeeTypeId
  tryCatch (editCall (.registrationUpdate id (updateData dto attendeeTypeId)))
    throwConflictForUniqueConstraint

def update (id : Id) (updateRegistrationDto : UpdateRegistrationDto) :
    EditSvc (Registration × Option AttendeeType) := do
  let dto ← Prog.ofExcept (normalizeUpdateDto updateRegistrationDto)
  let registration ← registrationOrThrow id
  let event ← onStore (ScansService.ensureEventCanBeModified registration.eventId)
  let attendeeTypeId := dto.attendeeTypeId.value?.getD registration.attendeeTypeId
  if (truthy dto.attendeeTypeId.value?).isSome then
    let _ ← onStore (ensureAttendeeTypeCanBeUsed attendeeTypeId registration.eventId)
  checkAndWrite rt id registration event dto attendeeTypeId

end RegistrationsService

end CreativeBackend
