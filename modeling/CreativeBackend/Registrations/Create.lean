import CreativeBackend.Scans.Validation

/-!
# Creating a registration

`RegistrationsService.create`: the input is normalised, the event and the attendee
type are checked, the event's duplicate strategy is asked, the custom fields are
validated, and the row is written under a fresh public id. The job of the pipeline
is not awaited, and its failure is not noticed.
-/

namespace CreativeBackend

open Interaction

variable (rt : Runtime)

structure CreateRegistrationDto where
  eventId : Id
  attendeeTypeId : Id
  fullName : String
  phone : String
  email : Option String := none
  companyName : Option String := none
  jobTitle : Option String := none
  externalId : Option String := none
  customFields : Option (List (String × Json)) := none
  notes : Option String := none
  source : Option RegistrationSource := none

/-- The upper case of a text, as far as a comparison with ASCII words can tell. -/
def toUpperCase (s : String) : String :=
  s.map fun c => if c = 'ı' then 'I' else if c = 'ſ' then 'S' else c.toUpper

/-- Whether a lookup has an alternative to ask for. -/
def RegistrationWhere.asks (w : RegistrationWhere) : Bool :=
  w.phone.isSome || w.email.isSome || w.externalId.isSome

namespace RegistrationsService

def normalizeRequiredString (value field : String) : Except Exn String :=
  if trim value = "" then .error (.badRequest (field ++ " is required")) else .ok (trim value)

/-- A trimmed text that is not empty. -/
def normalizeOptionalString (value : Option String) : Option String :=
  truthy (value.map trim)

def normalizeOptionalStringToNull (value : Option String) : Except Exn (Option String) :=
  match normalizeOptionalString value with
  | none => .ok none
  | some trimmed =>
      if isEmail trimmed then .ok (some trimmed)
      else .error (.badRequest "email must be a valid email")

/-- The normalised input, as the columns of a registration without public id. -/
def normalizeCreateDto (dto : CreateRegistrationDto) : Except Exn Registration := do
  let fullName ← normalizeRequiredString dto.fullName "fullName"
  let phone ← normalizeRequiredString dto.phone "phone"
  let email ← normalizeOptionalStringToNull dto.email
  return {
    publicId := ""
    eventId := dto.eventId
    attendeeTypeId := dto.attendeeTypeId
    source := dto.source.getD .ADMIN
    fullName
    phone := some phone
    email
    companyName := normalizeOptionalString dto.companyName
    jobTitle := normalizeOptionalString dto.jobTitle
    externalId := normalizeOptionalString dto.externalId
    customFields := dto.customFields.map .obj
    notes := normalizeOptionalString dto.notes }

def ensureAttendeeTypeCanBeUsed (attendeeTypeId eventId : Id) : Svc AttendeeType := do
  match ← call (.attendeeTypeById attendeeTypeId) with
  | none => throw (.notFound "Attendee type not found")
  | some attendeeType =>
      if attendeeType.eventId ≠ eventId then
        throw (.badRequest "Attendee type must belong to the same event")
      else if attendeeType.isActive = false then
        throw (.badRequest "Attendee type must be active")
      else return attendeeType

/-- The alternatives that the duplicate strategy of an event asks for. -/
def duplicateChecks (event : Event) (registration : Registration) : RegistrationWhere :=
  let strategy := toUpperCase event.duplicateStrategy
  { eventId := registration.eventId
    phone := if strategy = "PHONE" ∨ strategy = "PHONE_OR_EMAIL" then truthy registration.phone
      else none
    email := if strategy = "EMAIL" ∨ strategy = "PHONE_OR_EMAIL" then truthy registration.email
      else none
    externalId := if strategy = "EXTERNAL_ID" then truthy registration.externalId else none }

def ensureDuplicateAllowed (event : Event) (registration : Registration) : Svc Unit := do
  let checks := duplicateChecks event registration
  if checks.asks then
    match ← call (.registrationFirst checks) with
    | some _ => throw (.conflict "Duplicate registration for this event")
    | none => return ()
  else return ()

/-- `validateCustomFields` against the fields of the database. -/
def validateStoredFields (eventId attendeeTypeId : Id) (customFields : List (String × Json)) :
    Svc Unit := do
  let fields ← call (.fieldsToValidate eventId attendeeTypeId)
  Prog.ofExcept (validateCustomFields rt fields customFields)

/-- The attempts left of the loop of `generatePublicId`. -/
def tryPublicIds : Nat → Svc String
  | 0 => throw (.conflict "Could not generate unique registration ID")
  | attempts + 1 => do
      let hex ← call .random
      let publicId := "REG_" ++ toUpperCase hex
      match ← call (.registrationByPublicId publicId) with
      | none => return publicId
      | some _ => tryPublicIds attempts

def generatePublicId : Svc String := tryPublicIds 5

def createRegistrationOrThrowConflict (registration : Registration) : Svc Registration :=
  tryCatch (do
      let publicId ← generatePublicId
      call (.registrationCreate { registration with publicId }))
    fun error =>
      if error = .prisma .uniqueConstraint then
        throw (.conflict "Duplicate registration for this event")
      else throw error

def enqueueRegistrationPipeline (registration : Registration) : Svc Unit :=
  if rt.registrationPipelineEnabled then
    tryCatch (call (.enqueuePipeline {
        registrationId := registration.id
        eventId := registration.eventId
        source := registration.source
        skipDigitalTicket := false }))
      fun _ => return ()
  else return ()

def createNormalized (registration : Registration) : Svc Registration := do
  let event ← ScansService.ensureEventCanBeModified registration.eventId
  let _ ← ensureAttendeeTypeCanBeUsed registration.attendeeTypeId registration.eventId
  ensureDuplicateAllowed event registration
  let customFields := (Json.record? registration.customFields).getD []
  validateStoredFields rt registration.eventId registration.attendeeTypeId customFields
  let created ← createRegistrationOrThrowConflict registration
  enqueueRegistrationPipeline rt created
  return created

def create (dto : CreateRegistrationDto) : Svc Registration := do
  let registration ← Prog.ofExcept (normalizeCreateDto dto)
  createNormalized rt registration

end RegistrationsService

end CreativeBackend
