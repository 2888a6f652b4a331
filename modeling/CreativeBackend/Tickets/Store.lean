import CreativeBackend.Runtime.Paths
import CreativeBackend.Admin.AttendeeTypes
import CreativeBackend.Registrations.EditStore
import CreativeBackend.Scans.Response

/-!
# The store of the ticket services

The ticket services use the scan store, the columns of a ticket template that it leaves out, the
images of tickets, the files under the upload directory, and the queue of ticket generation.

## Implementation notes

Paths are those below the upload directory, which all services take to be the one in the working
directory. A picture is what it shows: the texts on it are functions of the rows and are left out.
No service here deletes a row that an image refers to, so the foreign keys of an image are not
checked. A job of the pipeline stays in the store until it has been processed.
-/

namespace CreativeBackend.Tickets

open Relational Interaction DigitalTicketsService

/-! ## Rows and files -/

/-- The columns of a ticket template besides those of the scan store. -/
structure TemplateColumns where
  name : String := ""
  widthPx : Int := 1
  heightPx : Int := 1
  backgroundImageUrl : Option String := none
  backgroundImagePath : Option String := none
  theme : Json := .obj []
  elements : Json := .arr []
  selectedFields : Json := .arr []
  version : Nat := 1

structure TicketTemplate where
  row : DigitalTicketTemplate
  columns : TemplateColumns

structure DigitalTicketImage where
  id : Id := ""
  eventId : Id
  registrationId : Id
  templateId : Id
  templateVersion : Nat
  imageUrl : String
  relativePath : String
  generatedAt : Time

/-- Two rows of one registration, template and version. -/
def DigitalTicketImage.sameTicket (a b : DigitalTicketImage) : Bool :=
  a.registrationId == b.registrationId && a.templateId == b.templateId &&
    a.templateVersion == b.templateVersion

instance : Record DigitalTicketImage Id where
  key := (·.id)
  withKey k a := { a with id := k }
  key_withKey _ _ := rfl
  clash a b := a.sameTicket b

/-- What a ticket is drawn from. -/
structure RenderInput where
  template : TicketTemplate
  registration : RegistrationView
  qrToken : String
  qrImage : QrImageService.QrImage

/-- A rendered ticket. -/
structure Png where
  shows : RenderInput
  size : Nat

structure TicketFile where
  path : List String
  png : Png

inductive JobState where
  | waiting | delayed | active | completed | failed
  deriving DecidableEq, Repr

/-- A job of the queue of ticket generation. -/
structure TicketJob where
  jobId : String
  registrationId : Id
  eventId : Id
  forceRegenerate : Bool := false
  state : JobState := .waiting
  deriving DecidableEq, Repr

/-- The job has not been settled. -/
def TicketJob.live (j : TicketJob) : Bool :=
  j.state == .waiting || j.state == .delayed || j.state == .active

structure TicketStore where
  base : Store
  eventIsActive : Id → Bool := fun _ => true
  columns : Id → TemplateColumns := fun _ => {}
  images : Table DigitalTicketImage := .empty
  files : List TicketFile := []
  uuids : Nat := 0
  ticketJobs : List TicketJob := []

/-- What `createForRegistration` of the WhatsApp ticket requests returns. -/
structure WhatsappLink where
  enabled : Bool
  url : Option String
  expiresAt : Option String

/-- What a call may see and the caller does not control. -/
structure TicketChoice extends Choice where
  /-- The size of a picture, less one: no picture is empty. -/
  pngSize : Nat := 0
  /-- What comes of a WhatsApp ticket request. It writes columns that no ticket reads. -/
  whatsappLink : Except Exn WhatsappLink := .ok ⟨true, none, none⟩

namespace TicketStore

variable (s : TicketStore)

abbrev Answer (α : Type) := Except Exn α × TicketStore

/-! ## Statements -/

def template (t : DigitalTicketTemplate) : TicketTemplate := ⟨t, s.columns t.id⟩

/-- `orderBy: { createdAt: 'desc' }`, of the active templates for an attendee type. -/
def templatesFor (ch : Choice) (eventId attendeeTypeId : Id) : List TicketTemplate :=
  ((s.base.ticketTemplates.rows.filter (candidate eventId attendeeTypeId)).insertionSort
    (newestFirst ch)).map s.template

def imageOf (registrationId templateId : Id) (templateVersion : Nat) :
    Option DigitalTicketImage :=
  s.images.rows.find? fun i => i.registrationId = registrationId ∧ i.templateId = templateId ∧
    i.templateVersion = templateVersion

/-- Create the row of a ticket, or give it the new picture. -/
def upsertImage (data : DigitalTicketImage) : Answer DigitalTicketImage :=
  match s.images.rows.find? (data.sameTicket ·) with
  | none =>
      match s.images.create data with
      | none => (.error (.prisma .uniqueConstraint), s)
      | some (row, images) => (.ok row, { s with images })
  | some old =>
      match s.images.update old.id fun i =>
          { i with imageUrl := data.imageUrl, relativePath := data.relativePath
                   generatedAt := data.generatedAt } with
      | .done row images => (.ok row, { s with images })
      | .duplicate => (.error (.prisma .uniqueConstraint), s)
      | .missing => (.error (.prisma .notFound), s)

def fileAt (path : List String) : Option TicketFile := s.files.find? fun f => f.path = path

/-- Replace the file under a path. -/
def writeFile (path : List String) (png : Png) : TicketStore :=
  { s with files := s.files.filter (fun f => f.path ≠ path) ++ [⟨path, png⟩] }

/-- Remove the file under a path, where there is one. -/
def unlink (path : List String) : Answer Unit :=
  match s.fileAt path with
  | none => (.error (.error "ENOENT"), s)
  | some _ => (.ok (), { s with files := s.files.filter fun f => f.path ≠ path })

/-- The keys of the active registration fields of an event. -/
def activeFieldKeys (eventId : Id) : List String :=
  (s.base.registrationFields.rows.filter fun f => f.eventId = eventId ∧ f.isActive = true).map
    (·.key)

/-- A job under an id that is in the queue is not added again. -/
def addTicketJob (job : TicketJob) : TicketStore :=
  if s.ticketJobs.any (fun j => j.jobId = job.jobId) then s
  else { s with ticketJobs := s.ticketJobs ++ [job] }

/-- The template of an event and a scope. -/
def templateOfScope (eventId : Id) (scopeKey : String) : Option TicketTemplate :=
  (s.base.ticketTemplates.rows.find? fun t =>
    t.eventId = eventId ∧ t.attendeeTypeScopeKey = scopeKey).map s.template

/-- Update the template of an event and a scope: it gets other columns, and becomes active. -/
def updateTemplate (eventId : Id) (scopeKey : String) (f : TemplateColumns → TemplateColumns) :
    Answer TicketTemplate :=
  match s.templateOfScope eventId scopeKey with
  | none => (.error (.prisma .notFound), s)
  | some old =>
      match s.base.ticketTemplates.update old.row.id fun t => { t with isActive := true } with
      | .done row ticketTemplates =>
          (.ok ⟨row, f old.columns⟩,
            { s with base := { s.base with ticketTemplates }
                     columns := Function.update s.columns old.row.id (f old.columns) })
      | .duplicate => (.error (.prisma .uniqueConstraint), s)
      | .missing => (.error (.prisma .notFound), s)

end TicketStore

/-! ## Calls -/

inductive TicketCall where
  | base (c : Call)
  | publicEvent (eventId : Id)
  | templatesFor (eventId attendeeTypeId : Id)
  | templateOfScope (eventId : Id) (scopeKey : String)
  | templateUpdate (eventId : Id) (scopeKey : String) (f : TemplateColumns → TemplateColumns)
  | activeFieldKeys (eventId : Id)
  | imageFind (registrationId templateId : Id) (templateVersion : Nat)
  | imageUpsert (data : DigitalTicketImage)
  | render (input : RenderInput)
  | randomUUID
  | writeFile (path : List String) (png : Png)
  | stat (path : List String)
  | unlink (path : List String)
  | ticketJobGet (jobId : String)
  | ticketJobAdd (job : TicketJob)
  | whatsappRequest (registrationId : Id)

/-- The answer of each call. -/
@[reducible] def TicketResp : TicketCall → Type
  | .base c => Resp c
  | .publicEvent _ => Option Bool
  | .templatesFor _ _ => List TicketTemplate
  | .templateOfScope _ _ => Option TicketTemplate
  | .templateUpdate _ _ _ => TicketTemplate
  | .activeFieldKeys _ => List String
  | .imageFind _ _ _ => Option DigitalTicketImage
  | .imageUpsert _ => DigitalTicketImage
  | .render _ => Png
  | .randomUUID => String
  | .writeFile _ _ => Unit
  | .stat _ => Nat
  | .unlink _ => Unit
  | .ticketJobGet _ => Option TicketJob
  | .ticketJobAdd _ => Unit
  | .whatsappRequest _ => WhatsappLink

/-- A program of the ticket services. -/
abbrev TicketSvc (α : Type) := Prog TicketResp Exn α

/-- A query answers from the store and leaves it alone. -/
def ticketQuery {α : Type} (s : TicketStore) (a : α) : TicketStore.Answer α := (.ok a, s)

/-- Answer a call from the store. -/
def ticketMachine (rt : Runtime) (ch : TicketChoice) : Machine TicketResp Exn TicketStore
  | .base c, s =>
      ((machine rt ch.toChoice c s.base).1,
        { s with base := (machine rt ch.toChoice c s.base).2 })
  | .publicEvent eventId, s =>
      ticketQuery s ((s.base.events.find? eventId).map fun _ => s.eventIsActive eventId)
  | .templatesFor eventId attendeeTypeId, s =>
      ticketQuery s (s.templatesFor ch.toChoice eventId attendeeTypeId)
  | .templateOfScope eventId scopeKey, s => ticketQuery s (s.templateOfScope eventId scopeKey)
  | .templateUpdate eventId scopeKey f, s => s.updateTemplate eventId scopeKey f
  | .activeFieldKeys eventId, s => ticketQuery s (s.activeFieldKeys eventId)
  | .imageFind registrationId templateId templateVersion, s =>
      ticketQuery s (s.imageOf registrationId templateId templateVersion)
  | .imageUpsert data, s => s.upsertImage data
  | .render input, s => ticketQuery s ⟨input, ch.pngSize + 1⟩
  | .randomUUID, s => (.ok (fresh s.uuids), { s with uuids := s.uuids + 1 })
  | .writeFile path png, s => (.ok (), s.writeFile path png)
  | .stat path, s =>
      match s.fileAt path with
      | none => (.error (.error "ENOENT"), s)
      | some f => (.ok f.png.size, s)
  | .unlink path, s => s.unlink path
  | .ticketJobGet jobId, s => ticketQuery s (s.ticketJobs.find? fun j => j.jobId = jobId)
  | .ticketJobAdd job, s => (.ok (), s.addTicketJob job)
  | .whatsappRequest _, s => (ch.whatsappLink, s)

/-- A call of the ticket services. -/
def ticketCall (c : TicketCall) : TicketSvc (TicketResp c) := Prog.call c

/-- The calls of the scan store among those of the ticket services. -/
def TicketCall.embedding : Embedding Resp TicketResp := ⟨.base, fun _ => rfl⟩

/-- A program of the scan store, in the ticket services. -/
def onStore {α : Type} (p : Svc α) : TicketSvc α := TicketCall.embedding.embed p

/-- The scan store is a part of the store of the tickets. -/
def TicketStore.basePart (rt : Runtime) (ch : TicketChoice) :
    TicketCall.embedding.Part (machine rt ch.toChoice) (ticketMachine rt ch) where
  get := (·.base)
  put a s := { s with base := a }
  get_put _ _ := rfl
  put_put _ _ _ := rfl
  put_get _ := rfl
  answers _ _ := rfl
  changes _ _ := rfl

theorem run_onStore {rt : Runtime} {ch : TicketChoice} {α : Type} (p : Svc α) (s : TicketStore) :
    (onStore p).run (ticketMachine rt ch) s =
      ((p.run (machine rt ch.toChoice) s.base).1,
        { s with base := (p.run (machine rt ch.toChoice) s.base).2 }) :=
  (TicketStore.basePart rt ch).run_embed p s

/-- One event with a template for all, and one registration. -/
def ticketStore : TicketStore where
  base := { sampleStore with ticketTemplates := .ofData [{ eventId := "c0" }] }

end CreativeBackend.Tickets
