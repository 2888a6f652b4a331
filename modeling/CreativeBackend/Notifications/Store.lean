import CreativeBackend.Runtime.Text
import CreativeBackend.Store.Schema
import CreativeBackend.Interaction.Service

/-!
# Notification logs and the WhatsApp queue

The store holds the notification logs, the jobs of the BullMQ queue `whatsapp-notifications`, and
what the notifications read of registrations and templates.

## Implementation notes

A finished job moves on as BullMQ moves it: a processor that returns completes the job, an
`UnrecoverableError` fails it, another error delays it as long as attempts are left. The QR code,
its image and the provider belong to other services and answer as the choice of the call says.
-/

namespace CreativeBackend

open Relational Interaction

inductive NotificationStatus where
  | PENDING | SENT | DELIVERED | FAILED | CANCELLED
  deriving DecidableEq, Repr

inductive Locale where
  | AR | EN
  deriving DecidableEq, Repr

inductive NotificationProvider where
  | FAKE | WASENDER
  deriving DecidableEq, Repr

structure NotificationLog where
  id : Id := ""
  eventId : Option Id
  registrationId : Option Id
  templateId : Option Id
  dedupeKey : Option String
  provider : NotificationProvider
  recipient : String
  status : NotificationStatus := .PENDING
  content : String
  providerMessageId : Option String := none
  errorCode : Option String := none
  errorMessage : Option String := none
  metadata : List (String × Json) := []
  sentAt : Option Time := none
  failedAt : Option Time := none
  createdAt : Time := 0

instance : Record NotificationLog Id where
  key l := l.id
  withKey k l := { l with id := k }
  key_withKey _ _ := rfl
  clash a b := a.dedupeKey.isSome && a.dedupeKey == b.dedupeKey

/-- The data of an update of a log; what is not given stays. -/
structure LogPatch where
  status : NotificationStatus
  failedAt : Option (Option Time) := none
  errorCode : Option (Option String) := none
  errorMessage : Option (Option String) := none
  sentAt : Option Time := none
  provider : Option NotificationProvider := none
  providerMessageId : Option String := none
  metadata : List (String × Json)

def LogPatch.apply (p : LogPatch) (l : NotificationLog) : NotificationLog :=
  { l with
    status := p.status
    failedAt := p.failedAt.getD l.failedAt
    errorCode := p.errorCode.getD l.errorCode
    errorMessage := p.errorMessage.getD l.errorMessage
    sentAt := p.sentAt <|> l.sentAt
    provider := p.provider.getD l.provider
    providerMessageId := p.providerMessageId <|> l.providerMessageId
    metadata := p.metadata }

/-- The states of a job. -/
inductive JobState where
  | waiting | delayed | active | completed | failed
  deriving DecidableEq, Repr

/-- A job of the queue with its data, its `attempts` option and the attempts made. -/
structure WhatsAppJob where
  id : String
  notificationLogId : Id
  manualRetry : Bool
  attempts : Nat
  attemptsMade : Nat := 0
  state : JobState := .waiting
  deriving DecidableEq, Repr

/-- A job that the worker will deliver or is delivering. -/
def WhatsAppJob.live (j : WhatsAppJob) : Bool :=
  j.state == .waiting || j.state == .delayed || j.state == .active

/-- How a processor ended. -/
inductive JobOutcome where
  | returned | unrecoverable | thrown
  deriving DecidableEq, Repr

/-- A finished job. -/
def WhatsAppJob.finish (outcome : JobOutcome) (j : WhatsAppJob) : WhatsAppJob :=
  { j with
    attemptsMade := j.attemptsMade + 1
    state := match outcome with
      | .returned => .completed
      | .unrecoverable => .failed
      | .thrown => if j.attemptsMade + 1 < j.attempts then .delayed else .failed }

/-- What the notifications read of a registration, its event and its QR token. -/
structure NotifiedRegistration where
  id : Id
  publicId : String
  eventId : Id
  eventTitle : String
  status : RegistrationStatus := .ACTIVE
  fullName : String
  phone : Option String := none
  deriving DecidableEq, Repr

structure NotificationTemplate where
  id : Id
  eventId : Option Id
  locale : Locale
  isActive : Bool
  content : String
  createdAt : Time
  deriving DecidableEq, Repr

structure NotificationStore where
  clock : Time := 0
  registrations : List NotifiedRegistration := []
  templates : List NotificationTemplate := []
  logs : Table NotificationLog := .empty
  jobs : List WhatsAppJob := []

/-- The error of a provider. -/
structure WhatsAppProviderError where
  message : String
  code : String := "WHATSAPP_SEND_FAILED"
  retryable : Bool := false
  permanent : Bool := false
  retryAfterMs : Option Rat := none
  statusCode : Option Rat := none
  safeDetails : Option Json := none

inductive NotifyExn where
  | badRequest (message : String)
  | notFound (message : String)
  | prisma (code : PrismaCode)
  | provider (e : WhatsAppProviderError)
  | unrecoverable (message : String)
  | error (message : String)

/-- Only a delivery throws an `UnrecoverableError`. -/
def NotifyExn.outside : NotifyExn → Bool
  | .unrecoverable _ => false
  | _ => true

/-- An error of a service that a delivery calls. -/
abbrev OutsideError := { e : NotifyExn // e.outside = true }

/-- What the provider is asked to send. -/
structure WhatsAppMessage where
  recipient : String
  message : String
  imageUrl : String
  registrationId : Id
  notificationLogId : Id
  deriving DecidableEq, Repr

structure ProviderResult where
  provider : NotificationProvider
  providerMessageId : Option String
  raw : Option Json

/-- The statements on logs, the commands of the queue, and the calls to other services. -/
inductive NotifyCall where
  | now
  | registrationById (id : Id)
  | template (eventId : Id) (locale : Locale)
  | logByDedupeKey (dedupeKey : String)
  | logById (id : Id)
  | logsFailedSince (since : Time) (limit : Nat)
  | logCreate (data : NotificationLog)
  | logUpdate (id : Id) (patch : LogPatch)
  | getJob (jobId : String)
  | getState (jobId : String)
  | jobRetry (jobId : String)
  | jobAdd (job : WhatsAppJob)
  | takeJob
  | finishJob (jobId : String) (outcome : JobOutcome)
  | qrToken (registrationId : Id)
  | qrImage (registrationId : Id)
  | sendWhatsAppMessage (message : WhatsAppMessage)

@[reducible] def NotifyResp : NotifyCall → Type
  | .now => Time
  | .registrationById _ => Option NotifiedRegistration
  | .template _ _ => Option NotificationTemplate
  | .logByDedupeKey _ => Option NotificationLog
  | .logById _ => Option NotificationLog
  | .logsFailedSince _ _ => List NotificationLog
  | .logCreate _ => NotificationLog
  | .logUpdate _ _ => NotificationLog
  | .getJob _ => Option WhatsAppJob
  | .getState _ => Option JobState
  | .jobRetry _ => Unit
  | .jobAdd _ => String
  | .takeJob => Option WhatsAppJob
  | .finishJob _ _ => Unit
  | .qrToken _ => String
  | .qrImage _ => String
  | .sendWhatsAppMessage _ => ProviderResult

/-- What a call may see and the caller does not control: the time that has passed, the job that
comes next, and what the other services answer. -/
structure NotifyChoice where
  elapsed : Nat := 0
  next : WhatsAppJob → Bool := fun _ => true
  qr : Except OutsideError String := .ok "qr"
  image : Except OutsideError String := .ok "https://tickets.example/qr.png"
  sent : Except OutsideError ProviderResult :=
    .ok { provider := .FAKE, providerMessageId := none, raw := none }

/-! ## The machine -/

namespace NotificationTemplate

/-- `orderBy: [{ eventId: 'desc' }, { createdAt: 'desc' }]`: one of the event first. -/
def before (a b : NotificationTemplate) : Bool :=
  (a.eventId.isSome && b.eventId.isNone) ||
    (a.eventId.isSome == b.eventId.isSome && decide (b.createdAt ≤ a.createdAt))

def usable (eventId : Id) (locale : Locale) (t : NotificationTemplate) : Bool :=
  t.locale == locale && t.isActive && t.eventId.all (· == eventId)

/-- `findFirst`. -/
def first (ts : List NotificationTemplate) : Option NotificationTemplate :=
  ts.foldl (fun best t => match best with
    | none => some t
    | some b => if b.before t then some b else some t) none

end NotificationTemplate

namespace NotificationStore

/-- Statements answer with a value or an error, and the next store. -/
abbrev Answer (α : Type) := Except NotifyExn α × NotificationStore

def tick (s : NotificationStore) (elapsed : Nat) : NotificationStore :=
  { s with clock := s.clock + elapsed }

/-- The FAILED logs since a time, the latest first. -/
def failedSince (s : NotificationStore) (since : Time) (limit : Nat) : List NotificationLog :=
  ((s.logs.rows.filter fun l => l.status == .FAILED && l.failedAt.any (since ≤ ·)).insertionSort
    fun a b => b.failedAt.getD 0 ≤ a.failedAt.getD 0).take limit

def createLog (s : NotificationStore) (data : NotificationLog) : Answer NotificationLog :=
  match s.logs.create { data with createdAt := s.clock } with
  | none => (.error (.prisma .uniqueConstraint), s)
  | some (row, t) => (.ok row, { s with logs := t })

def updateLog (s : NotificationStore) (id : Id) (p : LogPatch) : Answer NotificationLog :=
  match s.logs.update id p.apply with
  | .missing => (.error (.prisma .notFound), s)
  | .duplicate => (.error (.prisma .uniqueConstraint), s)
  | .done row t => (.ok row, { s with logs := t })

def findJob (s : NotificationStore) (jobId : String) : Option WhatsAppJob :=
  s.jobs.find? fun j => j.id == jobId

/-- Change the jobs under an id. -/
def updateJobs (s : NotificationStore) (jobId : String) (f : WhatsAppJob → WhatsAppJob) :
    NotificationStore :=
  { s with jobs := s.jobs.map fun j => if j.id == jobId then f j else j }

/-- `job.retry('failed')`: only a failed job goes back to the waiting ones. -/
def retryJob (s : NotificationStore) (jobId : String) : Answer Unit :=
  match s.findJob jobId with
  | some j =>
      if j.state = .failed then (.ok (), s.updateJobs jobId ({ · with state := .waiting }))
      else (.error (.error "Job is not in the failed state"), s)
  | none => (.error (.error "Missing job"), s)

/-- `queue.add`: a job with the id of another is not added. -/
def addJob (s : NotificationStore) (job : WhatsAppJob) : Answer String :=
  if (s.findJob job.id).isSome then (.ok job.id, s)
  else (.ok job.id, { s with jobs := s.jobs ++ [job] })

/-- The worker of concurrency 1 takes a waiting job when it has none. -/
def takeJob (s : NotificationStore) (next : WhatsAppJob → Bool) : Answer (Option WhatsAppJob) :=
  if s.jobs.any fun j => j.state == .active then (.ok none, s)
  else
    match s.jobs.find? fun j => j.state == .waiting && next j with
    | none => (.ok none, s)
    | some j => (.ok (some j), s.updateJobs j.id ({ · with state := .active }))

end NotificationStore

/-- Answer a call from the store. -/
def notifyMachine (ch : NotifyChoice) : Machine NotifyResp NotifyExn NotificationStore
  | .now, s => (.ok (s.tick ch.elapsed).clock, s.tick ch.elapsed)
  | .registrationById id, s => (.ok (s.registrations.find? fun r => r.id == id), s)
  | .template eventId locale, s =>
      (.ok (NotificationTemplate.first (s.templates.filter (·.usable eventId locale))), s)
  | .logByDedupeKey dedupeKey, s =>
      (.ok (s.logs.rows.find? fun l => l.dedupeKey == some dedupeKey), s)
  | .logById id, s => (.ok (s.logs.find? id), s)
  | .logsFailedSince since limit, s => (.ok (s.failedSince since limit), s)
  | .logCreate data, s => s.createLog data
  | .logUpdate id patch, s => s.updateLog id patch
  | .getJob jobId, s => (.ok (s.findJob jobId), s)
  | .getState jobId, s => (.ok ((s.findJob jobId).map (·.state)), s)
  | .jobRetry jobId, s => s.retryJob jobId
  | .jobAdd job, s => s.addJob job
  | .takeJob, s => s.takeJob ch.next
  | .finishJob jobId outcome, s => (.ok (), s.updateJobs jobId (·.finish outcome))
  | .qrToken _, s => (ch.qr.mapError (·.val), s)
  | .qrImage _, s => (ch.image.mapError (·.val), s)
  | .sendWhatsAppMessage _, s => (ch.sent.mapError (·.val), s)

/-- A program of the notifications. -/
abbrev Ntf (α : Type) := Prog NotifyResp NotifyExn α

def notifyCall (c : NotifyCall) : Ntf (NotifyResp c) := Prog.call c

end CreativeBackend
