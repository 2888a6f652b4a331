import CreativeBackend.Storage.StorageCleanup
import CreativeBackend.Tickets.Store

/-!
# The ticket services

`DigitalTicketsService` renders the ticket of a registration, `DigitalTicketImageService` keeps the
picture in a file under a fresh name and its row up to date, and `DigitalTicketStatusService`
tells whether there is one. The pipeline job of a registration adds the job that renders it.

## Implementation notes

The URLs of a status, the log lines and the progress of a job are left out.
-/

namespace CreativeBackend.Tickets

open Interaction Path

variable (rt : Runtime)

/-! ## Files -/

structure SafeDeleteUploadResult where
  deleted : Bool
  skipped : Bool
  reason : Option String := none

/-- The file that `safeDeleteUploadFile` removes, or the reason why it removes none. -/
def deletedPath (relativeUrl : Option String) (uploadSubdir : String) :
    Except String (List String) :=
  match truthy relativeUrl with
  | none => .error "NO_FILE"
  | some url =>
      let normalizedSubdir := withSlashes uploadSubdir
      let value := withSlashes (trim url)
      if (isAbsolute value && !startsWith value "/uploads/") ||
          StorageCleanupService.isDrivePath value || startsWith value "//" then
        .error "ABSOLUTE_PATH"
      else if !startsWith value ("/uploads/" ++ normalizedSubdir ++ "/") then
        .error "UNSUPPORTED_PATH"
      else if (splitSlashes (withoutLeadingSlashes value)).contains ".." then
        .error "UNSAFE_PATH"
      else
        let uploadRoot := resolve [] uploadSubdir
        let filePath := resolve [] (normalize (withoutStart "/uploads/" value))
        if uploadRoot.isPrefixOf filePath then .ok filePath else .error "UNSAFE_PATH"

def safeDeleteUploadFile (relativeUrl : Option String) (uploadSubdir : String) :
    TicketSvc SafeDeleteUploadResult :=
  match deletedPath relativeUrl uploadSubdir with
  | .error reason => return { deleted := false, skipped := true, reason := some reason }
  | .ok filePath =>
      tryCatch (do
          ticketCall (.unlink filePath)
          return { deleted := true, skipped := false })
        fun error => return {
          deleted := false
          skipped := true
          reason := some (if error = .error "ENOENT" then "NOT_FOUND" else "DELETE_FAILED") }

namespace DigitalTicketImageService

def GENERATED_TICKET_DIR : String := "digital-tickets/generated"

def resolveGeneratedRelativePath (relativePath : Option String) : Option (List String) :=
  match truthy relativePath with
  | none => none
  | some path =>
      let value := withSlashes (trim path)
      if !startsWith value ("/uploads/" ++ GENERATED_TICKET_DIR ++ "/") then none
      else if (splitSlashes (withoutLeadingSlashes value)).contains ".." then none
      else
        let generatedRoot := resolve [] GENERATED_TICKET_DIR
        let filePath := resolve [] (normalize (withoutStart "/uploads/" value))
        if generatedRoot.isPrefixOf filePath then some filePath else none

def isGeneratedImageUsable (relativePath : Option String) : TicketSvc Bool :=
  match resolveGeneratedRelativePath relativePath with
  | none => return false
  | some filePath =>
      tryCatch (do
          let size ← ticketCall (.stat filePath)
          return 0 < size)
        fun _ => return false

def deleteGeneratedImage (relativePath : Option String) : TicketSvc SafeDeleteUploadResult :=
  safeDeleteUploadFile relativePath GENERATED_TICKET_DIR

/-- What `writeImage` returns. -/
structure WrittenImage where
  relativePath : String
  imageUrl : String

def writeImage (subdir : String) (png : Png) : TicketSvc WrittenImage := do
  let uuid ← ticketCall .randomUUID
  let filename := uuid ++ ".png"
  let relativePath := "/uploads/" ++ subdir ++ "/" ++ filename
  ticketCall (.writeFile (splitSlashes subdir ++ [filename]) png)
  return { relativePath, imageUrl := rt.publicBaseUrl ++ relativePath }

def saveGeneratedImage (eventId registrationId templateId : Id) (templateVersion : Nat)
    (png : Png) : TicketSvc DigitalTicketImage := do
  let file ← writeImage rt GENERATED_TICKET_DIR png
  let generatedAt ← ticketCall (.base .now)
  ticketCall (.imageUpsert {
    eventId, registrationId, templateId, templateVersion
    imageUrl := file.imageUrl
    relativePath := file.relativePath
    generatedAt })

end DigitalTicketImageService

/-! ## Tickets -/

/-- The template for an attendee type, before the one for the whole event. -/
def pickTemplate (attendeeTypeId : Id) (templates : List TicketTemplate) : Option TicketTemplate :=
  (templates.find? fun t => t.row.attendeeTypeId = some attendeeTypeId).or
    (templates.find? fun t => t.row.attendeeTypeId = none)

/-- The keys of the fields that every badge can show. -/
def badgeFieldKeys : List String :=
  ["fullName", "phone", "email", "publicId", "companyName", "jobTitle", "externalId",
    "attendeeType.code", "attendeeType.nameAr", "attendeeType.nameEn", "qrCode", "qrToken"]

/-- The keys of `getAvailableFieldDefinitions`. -/
def availableBadgeKeys (eventId : Id) : TicketSvc (List String) := do
  match ← ticketCall (.base (.eventById eventId)) with
  | none => throw (.notFound "Event not found")
  | some _ =>
      let custom ← ticketCall (.activeFieldKeys eventId)
      return badgeFieldKeys ++ custom

/-- The keys of the visible fields. -/
def toFieldArray : Json → List String
  | .arr items => items.filterMap fun item =>
      match item.field? "key", item.field? "visible" with
      | some (.str _), some (.bool false) => none
      | some (.str key), _ => some key
      | _, _ => none
  | _ => []

structure GenerateDigitalTicketDto where
  forceRegenerate : Bool := false

/-- What `generateForRegistration` returns. -/
structure GeneratedTicket where
  image : DigitalTicketImage
  templateVersion : Nat
  reused : Bool := false

namespace DigitalTicketsService

open DigitalTicketImageService

/-- The keys of the fields of a ticket besides those of a badge. -/
def TICKET_SYSTEM_FIELDS : List String :=
  ["eventName", "eventDate", "eventDateRangeFormatted", "eventTimeRangeFormatted", "venueName"]

def validateSelectedFields (eventId : Id) (value : Json) : TicketSvc Unit := do
  let badgeKeys ← availableBadgeKeys eventId
  let allowedKeys := badgeKeys ++ TICKET_SYSTEM_FIELDS
  if (toFieldArray value).all allowedKeys.contains then return ()
  else throw (.badRequest "selectedFields contains unknown keys")

def findRegistration (registrationId : Id) : TicketSvc RegistrationView := do
  match ← ticketCall (.base (.registrationWithRelations registrationId)) with
  | none => throw (.notFound "Registration not found")
  | some registration => return registration

def findActiveTemplateForRegistration (registration : Registration) : TicketSvc TicketTemplate := do
  let templates ← ticketCall (.templatesFor registration.eventId registration.attendeeTypeId)
  match pickTemplate registration.attendeeTypeId templates with
  | none => throw (.notFound "Active digital ticket template not found")
  | some template => return template

def resolveActiveTemplateForRegistration (registrationId : Id) : TicketSvc TicketTemplate := do
  let view ← findRegistration registrationId
  findActiveTemplateForRegistration view.registration

def findExistingImage (registrationId : Id) (template : TicketTemplate) :
    TicketSvc (Option DigitalTicketImage) :=
  ticketCall (.imageFind registrationId template.row.id template.columns.version)

/-- The image, if there is one with a picture. -/
def usableImage (existingImage : Option DigitalTicketImage) : TicketSvc (Option DigitalTicketImage) :=
  match existingImage with
  | none => return none
  | some image => do
      if ← isGeneratedImageUsable (some image.relativePath) then return some image else return none

def buildRenderInput (registration : RegistrationView) (template : TicketTemplate) :
    TicketSvc RenderInput := do
  validateSelectedFields registration.registration.eventId template.columns.selectedFields
  let qr ← onStore (QrService.generate rt registration.registration.id)
  let qrImage ← onStore (QrImageService.generateRegistrationQrImage rt
    registration.registration.publicId qr.compactQrToken)
  return { template, registration, qrToken := qr.compactQrToken, qrImage }

/-- The part of `generateForRegistration` after the image was not reused. -/
def renderTicket (registration : RegistrationView) (template : TicketTemplate)
    (existingImage : Option DigitalTicketImage) : TicketSvc GeneratedTicket := do
  let renderInput ← buildRenderInput rt registration template
  let png ← ticketCall (.render renderInput)
  let image ← saveGeneratedImage rt registration.registration.eventId registration.registration.id
    template.row.id template.columns.version png
  match existingImage with
  | none => return { image, templateVersion := template.columns.version }
  | some old => do
      if old.relativePath ≠ "" ∧ old.relativePath ≠ image.relativePath then
        let _ ← deleteGeneratedImage (some old.relativePath)
        return { image, templateVersion := template.columns.version }
      else return { image, templateVersion := template.columns.version }

def generateForRegistration (registrationId : Id) (dto : GenerateDigitalTicketDto) :
    TicketSvc GeneratedTicket := do
  let registration ← findRegistration registrationId
  if registration.registration.status ≠ .ACTIVE then
    throw (.badRequest "Registration must be ACTIVE")
  else
    let template ← findActiveTemplateForRegistration registration.registration
    let existingImage ← findExistingImage registration.registration.id template
    let usable ← if dto.forceRegenerate then pure none else usableImage existingImage
    match usable with
    | some image => return { image, templateVersion := template.columns.version, reused := true }
    | none => renderTicket rt registration template existingImage

def resolveUsableForRegistration (registrationId : Id) : TicketSvc DigitalTicketImage := do
  let registration ← findRegistration registrationId
  let template ← findActiveTemplateForRegistration registration.registration
  let existingImage ← findExistingImage registration.registration.id template
  match ← usableImage existingImage with
  | some image => return image
  | none => do
      let generated ← generateForRegistration rt registrationId {}
      return generated.image

end DigitalTicketsService

/-! ## Templates -/

/-- What a template is updated with: `none` is a property that is left out, and the attendee type
may also be `null`. -/
structure UpsertDigitalTicketTemplateDto where
  eventId : Option String := none
  attendeeTypeId : Option (Option String) := none
  name : Option String := none
  widthPx : Option Rat := none
  heightPx : Option Rat := none
  backgroundImageUrl : Option String := none
  backgroundImagePath : Option String := none
  theme : Option Json := none
  elements : Option Json := none
  selectedFields : Option Json := none

namespace DigitalTicketTemplatesService

def EVENT_WIDE_SCOPE_KEY : String := "__EVENT__"

def TEMPLATE_UPLOAD_SUBDIR : String := "digital-tickets/templates"

/-- The keys of the fields of a ticket besides those of a badge. -/
def TICKET_SYSTEM_FIELDS : List String := ["eventName", "eventDate", "venueName"]

def ensureEventExists (eventId : Id) : TicketSvc Unit := do
  match ← ticketCall (.base (.eventById eventId)) with
  | none => throw (.notFound "Event not found")
  | some _ => return ()

def toNullableAttendeeTypeId : Option String → Option String
  | none => none
  | some attendeeTypeId =>
      if attendeeTypeId = "" ∨ attendeeTypeId = EVENT_WIDE_SCOPE_KEY ∨ attendeeTypeId = "event" then
        none
      else some attendeeTypeId

def toAttendeeTypeScopeKey (attendeeTypeId : Option String) : String :=
  (toNullableAttendeeTypeId attendeeTypeId).getD EVENT_WIDE_SCOPE_KEY

theorem toNullableAttendeeTypeId_idem (attendeeTypeId : Option String) :
    toNullableAttendeeTypeId (toNullableAttendeeTypeId attendeeTypeId)
      = toNullableAttendeeTypeId attendeeTypeId := by
  cases attendeeTypeId with
  | none => rfl
  | some t =>
      by_cases ht : t = "" ∨ t = EVENT_WIDE_SCOPE_KEY ∨ t = "event"
      · simp only [toNullableAttendeeTypeId, if_pos ht]
      · simp only [toNullableAttendeeTypeId, if_neg ht]

/-- A field that has no key among the allowed ones. -/
def unknownField (allowedKeys : List String) (field : Json) : Bool :=
  match field.field? "key" with
  | some (.str key) => !allowedKeys.contains key
  | _ => true

def ensureSelectedFieldsAreValid (eventId : Id) : Option Json → TicketSvc Unit
  | none => return ()
  | some (.arr selectedFields) => do
      let sharedFields ← availableBadgeKeys eventId
      let allowedKeys := sharedFields ++
        TICKET_SYSTEM_FIELDS.filter fun key => !sharedFields.contains key
      if selectedFields.any (unknownField allowedKeys) then
        throw (.badRequest "selectedFields contains unknown keys")
      else return ()
  | some _ => throw (.badRequest "selectedFields must be a JSON array")

def findByEventAndAttendeeType (eventId : Id) (attendeeTypeId : Option String) :
    TicketSvc TicketTemplate := do
  ensureEventExists eventId
  match ← ticketCall (.templateOfScope eventId (toAttendeeTypeScopeKey attendeeTypeId)) with
  | none => throw (.notFound "Digital ticket template not found")
  | some template => return template

def optionalPositiveInt (field : String) : Option Rat → Except Exn (Option Int)
  | none => .ok none
  | some value =>
      if value.den ≠ 1 ∨ value ≤ 0 then
        .error (.badRequest (field ++ " must be a positive integer"))
      else .ok (some value.num)

/-- `requiredJsonObject` of a property that is present. -/
def requiredJsonObject (field : String) : Option Json → Except Exn (Option Json)
  | none => .ok none
  | some (.obj fields) => .ok (some (.obj fields))
  | some _ => .error (.badRequest (field ++ " must be a JSON object"))

/-- `requiredJsonArray` of a property that is present. -/
def requiredJsonArray (field : String) : Option Json → Except Exn (Option Json)
  | none => .ok none
  | some (.arr items) => .ok (some (.arr items))
  | some _ => .error (.badRequest (field ++ " must be a JSON array"))

/-- The new columns of a template. -/
def columnsOf (dto : UpsertDigitalTicketTemplateDto) :
    Except Exn (TemplateColumns → TemplateColumns) := do
  let widthPx ← optionalPositiveInt "widthPx" dto.widthPx
  let heightPx ← optionalPositiveInt "heightPx" dto.heightPx
  let theme ← requiredJsonObject "theme" dto.theme
  let elements ← requiredJsonArray "elements" dto.elements
  return fun old => {
    name := dto.name.getD old.name
    widthPx := widthPx.getD old.widthPx
    heightPx := heightPx.getD old.heightPx
    backgroundImageUrl := dto.backgroundImageUrl.or old.backgroundImageUrl
    backgroundImagePath := dto.backgroundImagePath.or old.backgroundImagePath
    theme := theme.getD old.theme
    elements := elements.getD old.elements
    selectedFields := dto.selectedFields.getD old.selectedFields
    version := old.version + 1 }

def uniquePaths (paths : List (Option String)) : List String :=
  (paths.filterMap truthy).eraseDups

/-- The old backgrounds that an update deletes: all of them, if one is no longer used. -/
def replacedBackgrounds (existing : TicketTemplate) (dto : UpsertDigitalTicketTemplateDto) :
    List String :=
  let oldBackgroundPaths :=
    uniquePaths [existing.columns.backgroundImageUrl, existing.columns.backgroundImagePath]
  if ((truthy dto.backgroundImageUrl).isSome || (truthy dto.backgroundImagePath).isSome) &&
      oldBackgroundPaths.any fun path =>
        some path ≠ dto.backgroundImageUrl ∧ some path ≠ dto.backgroundImagePath then
    oldBackgroundPaths
  else []

def deleteBackgrounds : List String → TicketSvc Unit
  | [] => return ()
  | path :: paths => do
      let _ ← safeDeleteUploadFile (some path) TEMPLATE_UPLOAD_SUBDIR
      deleteBackgrounds paths

def update (eventId : Id) (attendeeTypeId : Option String) (dto : UpsertDigitalTicketTemplateDto) :
    TicketSvc TicketTemplate := do
  ensureEventExists eventId
  if (truthy dto.eventId).isSome ∧ dto.eventId ≠ some eventId then
    throw (.badRequest "Body eventId must match route eventId")
  else
    let routeAttendeeTypeId := toNullableAttendeeTypeId attendeeTypeId
    if dto.attendeeTypeId.isSome ∧
        toNullableAttendeeTypeId (dto.attendeeTypeId.getD none) ≠ routeAttendeeTypeId then
      throw (.badRequest "Body attendeeTypeId must match route attendeeTypeId")
    else
      ensureSelectedFieldsAreValid eventId dto.selectedFields
      let existing ← findByEventAndAttendeeType eventId routeAttendeeTypeId
      let columns ← Prog.ofExcept (columnsOf dto)
      let updated ← ticketCall (.templateUpdate eventId (toAttendeeTypeScopeKey routeAttendeeTypeId)
        columns)
      deleteBackgrounds (replacedBackgrounds existing dto)
      return updated

end DigitalTicketTemplatesService

/-! ## The status of a ticket -/

inductive DigitalTicketStatus where
  | PENDING | READY | FAILED | NOT_CONFIGURED
  deriving DecidableEq, Repr

structure DigitalTicketStatusResponse where
  status : DigitalTicketStatus
  relativePath : Option String := none
  generatedAt : Option Time := none
  templateVersion : Option Nat := none
  deriving DecidableEq

structure RegistrationLike where
  id : Id
  eventId : Id
  attendeeTypeId : Id
  source : Option RegistrationSource := none

namespace DigitalTicketStatusService

def enqueueRegeneration (registration : RegistrationLike) : TicketSvc Unit :=
  tryCatch (onStore (call (.enqueuePipeline {
      registrationId := registration.id
      eventId := registration.eventId
      source := registration.source.getD .PUBLIC
      skipDigitalTicket := false })))
    fun _ => return ()

def resolveForRegistration (registration : RegistrationLike) :
    TicketSvc DigitalTicketStatusResponse := do
  let templates ← ticketCall (.templatesFor registration.eventId registration.attendeeTypeId)
  match pickTemplate registration.attendeeTypeId templates with
  | none => return { status := .NOT_CONFIGURED }
  | some template => do
      let existingImage ← ticketCall (.imageFind registration.id template.row.id
        template.columns.version)
      match ← DigitalTicketsService.usableImage existingImage with
      | some image =>
          return {
            status := .READY
            relativePath := some image.relativePath
            generatedAt := some image.generatedAt
            templateVersion := some image.templateVersion }
      | none => do
          if existingImage.isSome then
            enqueueRegeneration registration
            return { status := .PENDING }
          else return { status := .PENDING }

end DigitalTicketStatusService

/-! ## The jobs -/

/-- What `enqueueDigitalTicketGeneration` returns. -/
structure TicketJobQueued where
  queued : Bool
  jobId : Option String := none
  skippedReason : Option String := none

/-- What the pipeline job returns. -/
structure PipelineResult where
  registrationId : Id
  qrGenerated : Bool
  ticketQueued : Bool
  ticketJobId : Option String := none
  skippedReason : Option String := none

namespace RegistrationPipelineProcessor

def ticketJobId (registrationId : Id) (version : Nat) : String :=
  "digital-ticket:" ++ registrationId ++ ":" ++ Nat.repr version

def enqueueDigitalTicketGeneration (registrationId eventId : Id) : TicketSvc TicketJobQueued :=
  tryCatch (do
      let template ← DigitalTicketsService.resolveActiveTemplateForRegistration registrationId
      let jobId := ticketJobId registrationId template.columns.version
      match ← ticketCall (.ticketJobGet jobId) with
      | some _ =>
          return { queued := true, jobId := some jobId, skippedReason := some "TICKET_JOB_EXISTS" }
      | none => do
          ticketCall (.ticketJobAdd { jobId, registrationId, eventId })
          return { queued := true, jobId := some jobId })
    fun error => return {
      queued := false
      skippedReason := some
        (if includes error.message "Active digital ticket template not found" then
          "DIGITAL_TICKET_TEMPLATE_NOT_FOUND"
        else "DIGITAL_TICKET_ENQUEUE_FAILED") }

def process (job : PipelineJob) : TicketSvc PipelineResult := do
  match ← ticketCall (.base (.registrationById job.registrationId)) with
  | none =>
      return {
        registrationId := job.registrationId
        qrGenerated := false
        ticketQueued := false
        skippedReason := some "REGISTRATION_NOT_FOUND" }
  | some registration => do
      if registration.status ≠ .ACTIVE then
        return {
          registrationId := registration.id
          qrGenerated := false
          ticketQueued := false
          skippedReason := some "REGISTRATION_INACTIVE" }
      else
        let stored ← ticketCall (.base (.qrTokenByRegistration registration.id))
        let qr ← onStore (QrService.generate rt registration.id)
        let _ ← onStore (QrImageService.generateRegistrationQrImage rt registration.publicId
          qr.qrToken)
        if job.skipDigitalTicket ∨ job.source = .EXCEL_IMPORT then
          return {
            registrationId := registration.id
            qrGenerated := stored.isNone
            ticketQueued := false
            skippedReason := some "DIGITAL_TICKET_SKIPPED_FOR_IMPORT" }
        else
          let ticketJob ← enqueueDigitalTicketGeneration registration.id registration.eventId
          return {
            registrationId := registration.id
            qrGenerated := stored.isNone
            ticketQueued := ticketJob.queued
            ticketJobId := ticketJob.jobId
            skippedReason := ticketJob.skippedReason }

end RegistrationPipelineProcessor

namespace DigitalTicketGenerationProcessor

def process (job : TicketJob) : TicketSvc GeneratedTicket :=
  DigitalTicketsService.generateForRegistration rt job.registrationId
    { forceRegenerate := job.forceRegenerate }

end DigitalTicketGenerationProcessor

end CreativeBackend.Tickets
