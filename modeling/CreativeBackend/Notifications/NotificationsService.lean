import CreativeBackend.Notifications.Store

/-!
# Sending notifications over WhatsApp

A send creates one log for its dedupe key, or reads the one that is there, and adds a job for the
log. The worker takes a job, sends the message, and writes the outcome to the log. A retry puts a
FAILED log back to PENDING and its job back into the queue.

## Implementation notes

`Promise.all` of `retryFailed` runs one body for each log side by side. A body is a program of its
own here; it starts with the query and serves one of the logs that the query returned.
-/

namespace CreativeBackend

open Relational Interaction

namespace NotificationsService

/-- The configuration that the service reads, and the text and URL functions of the runtime. -/
structure Config where
  providerName : NotificationProvider := .FAKE
  publicBaseUrl : String
  maxAgeMs : Int
  maxAttempts : Nat
  /-- `value.replaceAll(pattern, replacement)`. -/
  replaceAll : String → String → String → String
  /-- The protocol and the host name of `new URL(value)`. -/
  parseUrl : String → Option (String × String)
  toISOString : Time → String
  numberText : Int → String

/-! ## Texts and keys -/

def renderTemplate (cfg : Config) (content : Option String) (fallback : String)
    (values : List (String × String)) : String :=
  values.foldl (fun rendered v => cfg.replaceAll rendered ("\x7b\x7b" ++ v.1 ++ "\x7d\x7d") v.2)
    (content.getD fallback)

/-- The fallback of `renderTemplate`. -/
def qrFallback : Locale → String
  | .EN => "Hello \x7b\x7bfullName\x7d\x7d, you are registered for \x7b\x7beventTitle\x7d\x7d. " ++
      "Your entry QR: \x7b\x7bqrLink\x7d\x7d"
  | .AR => "مرحبا \x7b\x7bfullName\x7d\x7d، تم تسجيلك في \x7b\x7beventTitle\x7d\x7d. " ++
      "رمز الدخول الخاص بك: \x7b\x7bqrLink\x7d\x7d"

/-- The fallback of `renderTicketCaption`. -/
def ticketFallback : Locale → String
  | .EN => "Hello \x7b\x7bfullName\x7d\x7d, your ticket for \x7b\x7beventTitle\x7d\x7d is attached."
  | .AR => "مرحباً \x7b\x7bfullName\x7d\x7d، تذكرتك لفعالية \x7b\x7beventTitle\x7d\x7d مرفقة."

def localeText : Locale → String
  | .AR => "AR"
  | .EN => "EN"

def statusText : NotificationStatus → String
  | .PENDING => "PENDING"
  | .SENT => "SENT"
  | .DELIVERED => "DELIVERED"
  | .FAILED => "FAILED"
  | .CANCELLED => "CANCELLED"

def buildRegistrationQrDedupeKey (cfg : Config) (eventId registrationId : Id) (forceResend : Bool) :
    Ntf String := do
  let base := "REGISTRATION_QR:" ++ eventId ++ ":" ++ registrationId
  if forceResend then
    let now ← notifyCall .now
    pure (base ++ ":resend:" ++ cfg.numberText now)
  else pure base

def getWhatsAppJobId (logId : Id) : String := "whatsapp-" ++ logId

def assertPublicImageUrlCanBeSent (cfg : Config) (imageUrl : String) : Except NotifyExn Unit :=
  if cfg.providerName = .FAKE then .ok ()
  else match cfg.parseUrl imageUrl with
    | none => .error (.error "Invalid URL")
    | some (protocol, hostname) =>
        if protocol ∉ ["http:", "https:"] ∨
            toLowerCase hostname ∈ ["localhost", "127.0.0.1", "::1", "[::1]"] then
          .error (.provider {
            message := "Public QR image URL is not accessible for WhatsApp delivery"
            code := "WHATSAPP_PUBLIC_URL_INVALID"
            permanent := true })
        else .ok ()

/-! ## Errors of a delivery -/

def NotifyExn.text : NotifyExn → String
  | .badRequest m => m
  | .notFound m => m
  | .prisma c => (Exn.prisma c).message
  | .provider e => e.message
  | .unrecoverable m => m
  | .error m => m

def safeErrorMessage (e : NotifyExn) : String :=
  let message := NotifyExn.text e
  if message.length > 1000 then String.ofList (message.toList.take 1000) ++ "..." else message

structure SendError where
  code : String
  message : String
  retryable : Bool
  permanent : Bool
  retryAfterMs : Option Rat
  statusCode : Option Rat
  safeDetails : Option Json

def normalizeSendError (error : NotifyExn) : SendError :=
  match error with
  | .provider e =>
      { code := e.code
        message := safeErrorMessage error
        retryable := e.retryable || !e.permanent
        permanent := e.permanent
        retryAfterMs := e.retryAfterMs
        statusCode := e.statusCode
        safeDetails := e.safeDetails }
  | _ =>
      { code := "WHATSAPP_SEND_FAILED"
        message := safeErrorMessage error
        retryable := true
        permanent := false
        retryAfterMs := none
        statusCode := none
        safeDetails := none }

/-! ## The queue -/

/-- `{ ...base, ...extra }`. -/
def spreadFields (base extra : List (String × Json)) : List (String × Json) :=
  base.filter (fun f => (extra.lookup f.1).isNone) ++ extra

def getCurrentMetadata (logId : Id) : Ntf (List (String × Json)) := do
  let log ← notifyCall (.logById logId)
  pure ((log.map (·.metadata)).getD [])

def markLogPendingForRetry (cfg : Config) (logId : Id) : Ntf NotificationLog := do
  let metadata ← getCurrentMetadata logId
  let now ← notifyCall .now
  notifyCall (.logUpdate logId {
    status := .PENDING
    failedAt := some none
    errorCode := some none
    errorMessage := some none
    metadata := spreadFields metadata [("retryQueuedAt", .str (cfg.toISOString now))] })

def markLogFailedAfterEnqueueError (cfg : Config) (logId : Id) (error : NotifyExn) : Ntf Unit := do
  let metadata ← getCurrentMetadata logId
  let now ← notifyCall .now
  let _ ← notifyCall (.logUpdate logId {
    status := .FAILED
    failedAt := some (some now)
    errorCode := some (some "WHATSAPP_ENQUEUE_FAILED")
    errorMessage := some (some (safeErrorMessage error))
    metadata := spreadFields metadata [("enqueueFailedAt", .str (cfg.toISOString now))] })
  pure ()

structure Enqueued where
  queued : Bool
  alreadyQueued : Bool
  jobId : String
  deriving DecidableEq, Repr

/-- Where the job of the log is in the queue already. -/
def reenqueue (cfg : Config) (logId : Id) (jobId : String) (manualRetry : Bool) : Ntf Enqueued := do
  let state ← notifyCall (.getState jobId)
  if manualRetry && state == some .failed then
    tryCatch (do
        notifyCall (.jobRetry jobId)
        pure { queued := true, alreadyQueued := false, jobId })
      fun error => do
        markLogFailedAfterEnqueueError cfg logId error
        pure { queued := false, alreadyQueued := false, jobId }
  else pure { queued := true, alreadyQueued := true, jobId }

def enqueueWhatsAppLog (cfg : Config) (logId : Id) (manualRetry : Bool) : Ntf Enqueued := do
  let jobId := getWhatsAppJobId logId
  match ← notifyCall (.getJob jobId) with
  | some _ => reenqueue cfg logId jobId manualRetry
  | none =>
      tryCatch (do
          let added ← notifyCall (.jobAdd {
            id := jobId, notificationLogId := logId, manualRetry, attempts := cfg.maxAttempts })
          pure { queued := true, alreadyQueued := false, jobId := added })
        fun error => do
          markLogFailedAfterEnqueueError cfg logId error
          pure { queued := false, alreadyQueued := false, jobId }

/-! ## Sending -/

structure SendResult where
  skipped : Bool := false
  reason : Option String := none
  queued : Option Bool := none
  jobId : Option String := none
  log : NotificationLog

/-- The answer to a log that is there already. -/
def skipExisting (log : NotificationLog) : Option SendResult :=
  match log.status with
  | .PENDING | .SENT | .DELIVERED =>
      some { skipped := true, reason := some ("NOTIFICATION_" ++ statusText log.status), log }
  | .FAILED => some { skipped := true, reason := some "NOTIFICATION_FAILED_RETRY_REQUIRED", log }
  | .CANCELLED => none

def createNotificationLogOrReadExisting (data : NotificationLog) (dedupeKey : String) :
    Ntf NotificationLog :=
  tryCatch (notifyCall (.logCreate data)) fun error => do
    match error with
    | .prisma .uniqueConstraint =>
        match ← notifyCall (.logByDedupeKey dedupeKey) with
        | some existing => pure existing
        | none => throw error
    | _ => throw error

/-- What both sends do with their log: create or read it, and enqueue it. -/
def createAndEnqueue (cfg : Config) (data : NotificationLog) (dedupeKey : String)
    (forceResend : Bool) : Ntf SendResult := do
  let log ← createNotificationLogOrReadExisting data dedupeKey
  if !forceResend && log.status != .PENDING then
    pure { skipped := true, reason := some ("NOTIFICATION_" ++ statusText log.status), log }
  else
    let enqueueResult ← enqueueWhatsAppLog cfg log.id false
    pure { queued := some enqueueResult.queued, jobId := some enqueueResult.jobId, log }

/-- The log under the key, unless the send is forced. -/
def existingLog (dedupeKey : String) (forceResend : Bool) : Ntf (Option NotificationLog) :=
  if forceResend then pure none else notifyCall (.logByDedupeKey dedupeKey)

structure SendRegistrationQrDto where
  registrationId : Id
  locale : Option Locale := some .AR
  forceResend : Option Bool := some false
  deriving DecidableEq, Repr

def sendRegistrationQr (cfg : Config) (dto : SendRegistrationQrDto) : Ntf SendResult := do
  match ← notifyCall (.registrationById dto.registrationId) with
  | none => throw (.notFound "Registration not found")
  | some registration =>
      if registration.status ≠ .ACTIVE then throw (.badRequest "Registration must be ACTIVE")
      else
        match truthy registration.phone with
        | none => throw (.badRequest "Registration phone is required")
        | some phone =>
            let forceResend := dto.forceResend == some true
            let locale := dto.locale.getD .AR
            let dedupeKey ← buildRegistrationQrDedupeKey cfg registration.eventId registration.id
              forceResend
            let existing ← existingLog dedupeKey forceResend
            match existing.bind skipExisting with
            | some skipped => pure skipped
            | none =>
                let qrToken ← notifyCall (.qrToken registration.id)
                let template ← notifyCall (.template registration.eventId locale)
                let content := renderTemplate cfg (template.map (·.content)) (qrFallback locale)
                  [("fullName", registration.fullName), ("eventTitle", registration.eventTitle),
                    ("qrLink", cfg.publicBaseUrl ++ "/qr/" ++ registration.publicId),
                    ("qrToken", qrToken), ("registrationPublicId", registration.publicId)]
                createAndEnqueue cfg
                  { eventId := some registration.eventId
                    registrationId := some registration.id
                    templateId := template.map (·.id)
                    dedupeKey := some dedupeKey
                    provider := cfg.providerName
                    recipient := phone
                    content
                    metadata := [("attempts", .num 0), ("locale", .str (localeText locale)),
                      ("forceResend", .bool forceResend)] }
                  dedupeKey forceResend

structure SendTicketImageInput where
  registrationId : Id
  imageUrl : String
  recipient : Option String := none
  dedupeKey : Option String := none
  locale : Option Locale := none
  forceResend : Option Bool := none
  deriving DecidableEq, Repr

/-- The key of a ticket image: the given one, or that of the registration's QR. -/
def ticketDedupeKey (cfg : Config) (input : SendTicketImageInput)
    (registration : NotifiedRegistration) : Ntf String :=
  match input.dedupeKey with
  | some dedupeKey => pure dedupeKey
  | none => buildRegistrationQrDedupeKey cfg registration.eventId registration.id
      (input.forceResend == some true)

def sendRegistrationTicketImage (cfg : Config) (input : SendTicketImageInput) :
    Ntf SendResult := do
  match ← notifyCall (.registrationById input.registrationId) with
  | none => throw (.notFound "Registration not found")
  | some registration =>
      if registration.status ≠ .ACTIVE then throw (.badRequest "Registration must be ACTIVE")
      else
        match truthy (input.recipient.map trim) <|> truthy (registration.phone.map trim) with
        | none => throw (.badRequest "WhatsApp recipient phone is required")
        | some recipient =>
            Prog.ofExcept (assertPublicImageUrlCanBeSent cfg input.imageUrl)
            let forceResend := input.forceResend == some true
            let locale := input.locale.getD .AR
            let dedupeKey ← ticketDedupeKey cfg input registration
            let existing ← existingLog dedupeKey forceResend
            match existing.bind skipExisting with
            | some skipped => pure skipped
            | none =>
                let template ← notifyCall (.template registration.eventId locale)
                let content := renderTemplate cfg (template.map (·.content)) (ticketFallback locale)
                  [("fullName", registration.fullName), ("eventTitle", registration.eventTitle)]
                createAndEnqueue cfg
                  { eventId := some registration.eventId
                    registrationId := some registration.id
                    templateId := template.map (·.id)
                    dedupeKey := some dedupeKey
                    provider := cfg.providerName
                    recipient
                    content
                    metadata := spreadFields
                      [("attempts", .num 0), ("locale", .str (localeText locale)),
                        ("forceResend", .bool forceResend)]
                      [("imageUrl", .str input.imageUrl), ("mediaType", .str "DIGITAL_TICKET")] }
                  dedupeKey forceResend

/-! ## Retrying -/

structure Retried where
  queued : Bool
  logId : Id
  jobId : String
  deriving DecidableEq, Repr

def retryLog (cfg : Config) (id : Id) : Ntf Retried := do
  match ← notifyCall (.logById id) with
  | none => throw (.notFound "Notification log not found")
  | some log =>
      if log.status ≠ .FAILED then
        throw (.badRequest "Only FAILED notification logs can be retried")
      else
        let _ ← markLogPendingForRetry cfg log.id
        let job ← enqueueWhatsAppLog cfg log.id true
        pure { queued := job.queued, logId := log.id, jobId := job.jobId }

structure BulkRetryFailedNotificationsDto where
  sinceMinutes : Option Int := none
  limit : Option Nat := none
  deriving DecidableEq, Repr

/-- The body of `retryFailed` for one of the logs of its query. -/
def retryFailedBody (cfg : Config) (dto : BulkRetryFailedNotificationsDto) (index : Nat) :
    Ntf Unit := do
  let now ← notifyCall .now
  let since := now - dto.sinceMinutes.getD 60 * 60000
  let logs ← notifyCall (.logsFailedSince since (dto.limit.getD 100))
  match logs[index]? with
  | none => pure ()
  | some log =>
      let _ ← markLogPendingForRetry cfg log.id
      let _ ← enqueueWhatsAppLog cfg log.id true
      pure ()

/-! ## Delivering -/

structure Delivery where
  notificationLogId : Id
  attemptNumber : Nat
  isFinalAttempt : Bool
  manualRetry : Bool
  deriving DecidableEq, Repr

/-- The image of the message: the one of the metadata, or the QR image. -/
def messageImage (metadata : List (String × Json)) (registrationId : Id) : Ntf String :=
  match metadata.lookup "imageUrl" with
  | some (.str imageUrl) =>
      if imageUrl = "" then notifyCall (.qrImage registrationId) else pure imageUrl
  | _ => notifyCall (.qrImage registrationId)

/-- Send the message of a log that is not sent yet. -/
def sendLog (cfg : Config) (input : Delivery) (log : NotificationLog) : Ntf Unit := do
  let startedAt ← notifyCall .now
  let _ ← notifyCall (.logUpdate log.id {
    status := .PENDING
    errorCode := some none
    errorMessage := some none
    failedAt := some none
    metadata := spreadFields log.metadata [("attempts", .num input.attemptNumber),
      ("lastAttemptAt", .str (cfg.toISOString startedAt))] })
  match log.registrationId with
  | none =>
      throw (.provider {
        message := "Notification log registration is required"
        code := "NOTIFICATION_REGISTRATION_REQUIRED"
        permanent := true })
  | some registrationId =>
      let imageUrl ← messageImage log.metadata registrationId
      Prog.ofExcept (assertPublicImageUrlCanBeSent cfg imageUrl)
      let result ← notifyCall (.sendWhatsAppMessage {
        recipient := log.recipient
        message := log.content
        imageUrl
        registrationId
        notificationLogId := log.id })
      let sentAt ← notifyCall .now
      let _ ← notifyCall (.logUpdate log.id {
        status := .SENT
        sentAt := some sentAt
        failedAt := some none
        provider := some result.provider
        providerMessageId := result.providerMessageId
        metadata := spreadFields log.metadata [("attempts", .num input.attemptNumber),
          ("imageUrl", .str imageUrl), ("raw", result.raw.getD .null)] })
      pure ()

/-- The body of the `try` block: skip, expire or send. -/
def deliverLog (cfg : Config) (input : Delivery) : Ntf Unit := do
  match ← notifyCall (.logById input.notificationLogId) with
  | none => pure ()
  | some log =>
      if log.status = .SENT ∨ log.status = .DELIVERED then pure ()
      else
        let now ← notifyCall .now
        let messageAgeMs := max (now - log.createdAt) 0
        if !input.manualRetry && decide (cfg.maxAgeMs < messageAgeMs) then
          let expiredAt ← notifyCall .now
          let _ ← notifyCall (.logUpdate log.id {
            status := .CANCELLED
            failedAt := some none
            errorCode := some (some "WHATSAPP_MESSAGE_EXPIRED")
            errorMessage := some (some "WhatsApp message expired before delivery")
            metadata := spreadFields log.metadata
              [("expiredAt", .str (cfg.toISOString expiredAt)), ("messageAgeMs", .num messageAgeMs),
                ("maxAgeMs", .num cfg.maxAgeMs)] })
          pure ()
        else sendLog cfg input log

def numberOrNull : Option Rat → Json
  | some q => .num q
  | none => .null

/-- The `catch` block: record the failure, and throw what the queue is to see. -/
def recordFailure (cfg : Config) (input : Delivery) (error : NotifyExn) : Ntf Unit := do
  let normalized := normalizeSendError error
  let retryable := normalized.retryable && !normalized.permanent
  let finalFailure := input.isFinalAttempt || !retryable
  let now ← notifyCall .now
  let metadata ← getCurrentMetadata input.notificationLogId
  let errorAt ← notifyCall .now
  let _ ← notifyCall (.logUpdate input.notificationLogId {
    status := if finalFailure then .FAILED else .PENDING
    failedAt := some (if finalFailure then some now else none)
    errorCode := some (some normalized.code)
    errorMessage := some (some normalized.message)
    metadata := spreadFields metadata
      [("attempts", .num input.attemptNumber), ("lastErrorAt", .str (cfg.toISOString errorAt)),
        ("retryAfterMs", numberOrNull normalized.retryAfterMs),
        ("statusCode", numberOrNull normalized.statusCode),
        ("safeDetails", normalized.safeDetails.getD .null)] })
  if normalized.permanent then throw (.unrecoverable normalized.message)
  else if !input.isFinalAttempt then throw error
  else pure ()

def deliverQueuedWhatsApp (cfg : Config) (input : Delivery) : Ntf Unit :=
  tryCatch (deliverLog cfg input) (recordFailure cfg input)

end NotificationsService

namespace WhatsAppNotificationProcessor

open NotificationsService

def process (cfg : Config) (job : WhatsAppJob) : Ntf Unit :=
  let attemptNumber := job.attemptsMade + 1
  deliverQueuedWhatsApp cfg {
    notificationLogId := job.notificationLogId
    attemptNumber
    isFinalAttempt := decide (job.attempts ≤ attemptNumber)
    manualRetry := job.manualRetry }

/-- The outcome of a processor, as the queue sees it. -/
def outcomeOf (p : Ntf Unit) : Ntf JobOutcome :=
  tryCatch (do
      p
      pure .returned)
    fun error => pure (match error with
      | .unrecoverable _ => .unrecoverable
      | _ => .thrown)

/-- One round of the worker: take a job, process it, and finish it. -/
def work (cfg : Config) : Ntf Unit := do
  match ← notifyCall .takeJob with
  | none => pure ()
  | some job =>
      let outcome ← outcomeOf (process cfg job)
      notifyCall (.finishJob job.id outcome)

end WhatsAppNotificationProcessor

end CreativeBackend
