import CreativeBackend.Registrations.UpdateEffects
import CreativeBackend.Interaction.OwnLog

/-!
# Edits of a visitor by staff

`VisitorsService.updateForStaff` reads the assignment of the staff user and the registration,
compares the version that the edit was made on with the version it has read, and leaves the write to
`RegistrationsService.update`, which reads and checks again what it needs, but not the version.

## Implementation notes

A conflict of versions is the error of the result, with the body of its response; the program of a
request throws its code.
-/

namespace CreativeBackend

open Relational Interaction

structure UpdateStaffVisitorDto where
  expectedUpdatedAt : Given String := .undefined
  fullName : Given String := .undefined
  phone : Given String := .undefined
  email : Given String := .undefined
  companyName : Given String := .undefined
  jobTitle : Given String := .undefined
  customFields : Given (List (String × Json)) := .undefined
  notes : Given String := .undefined

namespace UpdateStaffVisitorDto

/-- The edit without `expectedUpdatedAt`. -/
def updatePayload (dto : UpdateStaffVisitorDto) : UpdateRegistrationDto where
  fullName := dto.fullName
  phone := dto.phone
  email := dto.email
  companyName := dto.companyName
  jobTitle := dto.jobTitle
  customFields := dto.customFields
  notes := dto.notes

/-- The properties of the payload that are not `undefined`. -/
def changedFields (dto : UpdateStaffVisitorDto) : List String :=
  [("fullName", dto.fullName.isUndefined), ("phone", dto.phone.isUndefined),
    ("email", dto.email.isUndefined), ("companyName", dto.companyName.isUndefined),
    ("jobTitle", dto.jobTitle.isUndefined), ("customFields", dto.customFields.isUndefined),
    ("notes", dto.notes.isUndefined)].filterMap
      fun property => if property.2 then none else some property.1

end UpdateStaffVisitorDto

/-- The body of the `ConflictException` of `updateForStaff`. -/
structure VisitorUpdateConflict where
  code : String
  message : String
  currentUpdatedAt : String

/-- What `updateForStaff` returns. -/
structure StaffVisitor where
  id : Id
  publicId : String
  status : RegistrationStatus
  fullName : String
  phone : Option String
  email : Option String
  companyName : Option String
  jobTitle : Option String
  customFields : Option Json
  attendeeType : Option AttendeeType
  updatedAt : Time

variable (rt : Runtime)

namespace VisitorsService

def findActiveStaffAssignment (userId : Id) : EditSvc StaffAssignment := do
  match ← editCall (.staffAssignmentActive userId) with
  | none => throw (.notFound "No active staff assignment found")
  | some assignment => return assignment

/-- The registration, where it is one of the event. -/
def findRegistrationOfEvent (registrationId eventId : Id) : EditSvc Registration := do
  match ← editCall (.base (.registrationById registrationId)) with
  | none => throw (.notFound "Registration not found")
  | some registration =>
      if registration.eventId ≠ eventId then throw (.notFound "Registration not found")
      else return registration

/-- Whether the version that was read is the one that the edit was made on. -/
def isExpected (expectedUpdatedAt : Option String) (registration : Registration) : Bool :=
  match truthy expectedUpdatedAt with
  | none => true
  | some text => rt.parseDate text = some registration.updatedAt

def visitorUpdateConflict (registration : Registration) : VisitorUpdateConflict where
  code := "VISITOR_UPDATE_CONFLICT"
  message := "Visitor data was modified after the offline copy was downloaded"
  currentUpdatedAt := rt.toISOString registration.updatedAt

def auditStaffVisitorUpdate (userId : Id) (registration : Registration)
    (dto : UpdateStaffVisitorDto) : EditSvc Unit :=
  let changedFields := dto.changedFields
  if changedFields.isEmpty then return ()
  else tryCatch (editCall (.auditCreate {
      eventId := registration.eventId
      actorUserId := userId
      entityType := "REGISTRATION"
      entityId := registration.id
      source := "STAFF_VISITOR_EDIT"
      changedFields }))
    fun _ => return ()

def staffVisitor (registration : Registration) (attendeeType : Option AttendeeType) :
    StaffVisitor where
  id := registration.id
  publicId := registration.publicId
  status := registration.status
  fullName := registration.fullName
  phone := registration.phone
  email := registration.email
  companyName := registration.companyName
  jobTitle := registration.jobTitle
  customFields := registration.customFields
  attendeeType
  updatedAt := registration.updatedAt

def updateForStaff (userId registrationId : Id) (dto : UpdateStaffVisitorDto) :
    EditSvc (Except VisitorUpdateConflict StaffVisitor) := do
  let assignment ← findActiveStaffAssignment userId
  let registration ← findRegistrationOfEvent registrationId assignment.eventId
  if isExpected rt dto.expectedUpdatedAt.value? registration then
    let (updated, attendeeType) ←
      RegistrationsService.update rt registrationId dto.updatePayload
    auditStaffVisitorUpdate userId registration dto
    return .ok (staffVisitor updated attendeeType)
  else return .error (visitorUpdateConflict rt registration)

end VisitorsService

/-- A staff user and the edit it sends. -/
structure StaffEdit where
  userId : Id
  dto : UpdateStaffVisitorDto

/-- The request of an edit. -/
def StaffEdit.request (edit : StaffEdit) (registrationId : Id) : EditSvc Unit := do
  match ← VisitorsService.updateForStaff rt edit.userId registrationId edit.dto with
  | .ok _ => return ()
  | .error conflict => throw (.conflict conflict.code)

end CreativeBackend
