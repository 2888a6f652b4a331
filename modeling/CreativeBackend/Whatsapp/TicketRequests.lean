import CreativeBackend.Whatsapp.Messages
import CreativeBackend.Store.Schema
import CreativeBackend.Interaction.Service

/-!
# Ticket requests over WhatsApp

A registration carries one request token at a time, and the first WhatsApp account that sends
it is bound to it. The webhook records every delivery under its id before it looks at it.

## Implementation notes

`sendRegistrationTicketImage` and `resolveUsableForRegistration` belong to other services; here
they answer as the choice of the call says. A unique conflict carries the constraint that
`extractPrismaUniqueConstraint` reads from it.
-/

namespace CreativeBackend

open Relational Interaction

/-- The columns of a registration that ticket requests read and write. -/
structure TicketRegistration where
  id : Id := ""
  publicId : String
  status : RegistrationStatus := .ACTIVE
  ticketRequestToken : Option String := none
  ticketRequestExpiresAt : Option Time := none
  ticketRequestCreatedAt : Option Time := none
  ticketRequestConsumedAt : Option Time := none
  ticketRequestPhone : Option String := none
  ticketRequestClaimedAt : Option Time := none
  deriving DecidableEq, Repr

instance : Record TicketRegistration Id where
  key r := r.id
  withKey k r := { r with id := k }
  key_withKey _ _ := rfl
  clash a b := a.publicId == b.publicId ||
    (a.ticketRequestToken.isSome && a.ticketRequestToken == b.ticketRequestToken)

structure WebhookDelivery where
  id : Id := ""
  provider : String
  deliveryId : String
  status : String
  reason : Option String := none
  payload : Json
  processedAt : Option Time := none

instance : Record WebhookDelivery Id where
  key d := d.id
  withKey k d := { d with id := k }
  key_withKey _ _ := rfl
  clash a b := a.deliveryId == b.deliveryId

structure TicketStore where
  clock : Time := 0
  draws : Nat := 0
  registrations : Table TicketRegistration := .empty
  deliveries : Table WebhookDelivery := .empty

inductive RequestExn where
  | badRequest (message : String)
  | notFound (message : String)
  | unauthorized (message : String)
  | uniqueConstraint (constraint : Option String)
  | prisma (code : PrismaCode)
  | error (message : String)
  deriving DecidableEq, Repr

/-- The image that `resolveUsableForRegistration` returns. -/
structure TicketImage where
  imageUrl : Option String
  relativePath : Option String
  deriving DecidableEq, Repr

/-- The input of `sendRegistrationTicketImage`. -/
structure SendTicketImage where
  registrationId : Id
  imageUrl : String
  recipient : String
  dedupeKey : String
  deriving DecidableEq, Repr

inductive SentNotification where
  | skipped (reason : String) (logId : Id)
  | queued (queued : Bool) (jobId : String) (logId : Id)
  deriving DecidableEq, Repr

structure ClaimTicketRequestSenderInput where
  registrationId : Id
  senderPhone : String
  ticketRequestToken : String
  deriving DecidableEq, Repr

/-- The statements on registrations and deliveries, the clock, random bytes and two services. -/
inductive TicketCall where
  | now
  | random
  | registrationById (id : Id)
  | registrationByPublicId (publicId : String)
  | registrationRenew (id : Id) (token : String) (expiresAt now : Time)
  | registrationClaim (input : ClaimTicketRequestSenderInput) (now : Time)
  | registrationConsume (id : Id) (token : String) (now : Time)
  | deliveryCreate (deliveryId : String) (payload : Json)
  | deliveryMark (id : Id) (status : String) (reason : Option String) (now : Time)
  | resolveUsableForRegistration (registrationId : Id)
  | sendRegistrationTicketImage (input : SendTicketImage)

@[reducible] def TicketResp : TicketCall → Type
  | .now => Time
  | .random => String
  | .registrationById _ => Option TicketRegistration
  | .registrationByPublicId _ => Option TicketRegistration
  | .registrationRenew _ _ _ _ => TicketRegistration
  | .registrationClaim _ _ => Nat
  | .registrationConsume _ _ _ => Nat
  | .deliveryCreate _ _ => WebhookDelivery
  | .deliveryMark _ _ _ _ => WebhookDelivery
  | .resolveUsableForRegistration _ => TicketImage
  | .sendRegistrationTicketImage _ => SentNotification

/-- What the other services answer, and the time that has passed. -/
structure TicketChoice where
  elapsed : Nat := 0
  image : Except RequestExn TicketImage := .error (.notFound "Digital ticket not found")
  notification : Except RequestExn SentNotification := .error (.error "Queue unavailable")

namespace TicketRegistration

/-- The data of `persistUniqueToken`. -/
def renew (token : String) (expiresAt now : Time) (r : TicketRegistration) : TicketRegistration :=
  { r with
    ticketRequestToken := some token
    ticketRequestExpiresAt := some expiresAt
    ticketRequestCreatedAt := some now
    ticketRequestConsumedAt := none
    ticketRequestPhone := none
    ticketRequestClaimedAt := none }

/-- The `where` of the claim. -/
def claimable (input : ClaimTicketRequestSenderInput) (now : Time) (r : TicketRegistration) : Bool :=
  r.id == input.registrationId && r.ticketRequestToken == some input.ticketRequestToken &&
    r.ticketRequestExpiresAt.any (now < ·) && r.ticketRequestPhone.isNone

def claim (input : ClaimTicketRequestSenderInput) (now : Time) (r : TicketRegistration) :
    TicketRegistration :=
  if r.claimable input now then
    { r with ticketRequestPhone := some input.senderPhone, ticketRequestClaimedAt := some now }
  else r

/-- The `where` of the consumption. -/
def consumable (id : Id) (token : String) (r : TicketRegistration) : Bool :=
  r.id == id && r.ticketRequestToken == some token && r.ticketRequestConsumedAt.isNone

def consume (id : Id) (token : String) (now : Time) (r : TicketRegistration) : TicketRegistration :=
  if r.consumable id token then { r with ticketRequestConsumedAt := some now } else r

variable (input : ClaimTicketRequestSenderInput) (i : Id) (token : String) (now : Time)

@[simp] theorem key_claim (r : TicketRegistration) : key (r.claim input now) = key r := by
  unfold claim
  split <;> rfl

@[simp] theorem key_consume (r : TicketRegistration) : key (r.consume i token now) = key r := by
  unfold consume
  split <;> rfl

@[simp] theorem token_claim (r : TicketRegistration) :
    (r.claim input now).ticketRequestToken = r.ticketRequestToken := by
  unfold claim
  split <;> rfl

@[simp] theorem token_consume (r : TicketRegistration) :
    (r.consume i token now).ticketRequestToken = r.ticketRequestToken := by
  unfold consume
  split <;> rfl

@[simp] theorem publicId_claim (r : TicketRegistration) :
    (r.claim input now).publicId = r.publicId := by
  unfold claim
  split <;> rfl

@[simp] theorem publicId_consume (r : TicketRegistration) :
    (r.consume i token now).publicId = r.publicId := by
  unfold consume
  split <;> rfl

@[simp] theorem phone_consume (r : TicketRegistration) :
    (r.consume i token now).ticketRequestPhone = r.ticketRequestPhone := by
  unfold consume
  split <;> rfl

theorem clash_claim (a b : TicketRegistration)
    (h : clash (a.claim input now) (b.claim input now) = true) : clash a b = true := by
  simpa [clash] using h

theorem clash_consume (a b : TicketRegistration)
    (h : clash (a.consume i token now) (b.consume i token now) = true) : clash a b = true := by
  simpa [clash] using h

end TicketRegistration

namespace TicketStore

/-- Statements answer with a value or Prisma's error, and the next store. -/
abbrev Answer (α : Type) := Except RequestExn α × TicketStore

def renewToken (s : TicketStore) (id : Id) (token : String) (expiresAt now : Time) :
    Answer TicketRegistration :=
  match s.registrations.update id (·.renew token expiresAt now) with
  | .missing => (.error (.prisma .notFound), s)
  | .duplicate => (.error (.uniqueConstraint (some "Registration_ticketRequestToken_key")), s)
  | .done row t => (.ok row, { s with registrations := t })

def claimSender (s : TicketStore) (input : ClaimTicketRequestSenderInput) (now : Time) : Answer Nat :=
  let claimed := s.registrations.mapRows (·.claim input now)
    (TicketRegistration.key_claim input now) (TicketRegistration.clash_claim input now)
  (.ok (s.registrations.rows.countP (·.claimable input now)), { s with registrations := claimed })

def consumeToken (s : TicketStore) (id : Id) (token : String) (now : Time) : Answer Nat :=
  let consumed := s.registrations.mapRows (·.consume id token now)
    (TicketRegistration.key_consume id token now) (TicketRegistration.clash_consume id token now)
  (.ok (s.registrations.rows.countP (·.consumable id token)),
    { s with registrations := consumed })

def createDelivery (s : TicketStore) (deliveryId : String) (payload : Json) :
    Answer WebhookDelivery :=
  match s.deliveries.create
      { provider := "WASENDER", deliveryId, status := "RECEIVED", payload } with
  | none => (.error (.uniqueConstraint (some "WebhookDelivery_deliveryId_key")), s)
  | some (row, t) => (.ok row, { s with deliveries := t })

def markDelivery (s : TicketStore) (id : Id) (status : String) (reason : Option String)
    (now : Time) : Answer WebhookDelivery :=
  match s.deliveries.update id fun d => { d with status, reason, processedAt := some now } with
  | .done row t => (.ok row, { s with deliveries := t })
  | _ => (.error (.prisma .notFound), s)

/-- The clock moves on while a call is performed. -/
def tick (s : TicketStore) (elapsed : Nat) : TicketStore := { s with clock := s.clock + elapsed }

end TicketStore

/-- Answer a call from the store. -/
def ticketMachine (rt : Runtime) (ch : TicketChoice) : Machine TicketResp RequestExn TicketStore
  | .now, s => (.ok (s.tick ch.elapsed).clock, s.tick ch.elapsed)
  | .random, s => (.ok (rt.random s.draws), { s with draws := s.draws + 1 })
  | .registrationById id, s => (.ok (s.registrations.find? id), s)
  | .registrationByPublicId publicId, s =>
      (.ok (s.registrations.rows.find? fun r => r.publicId = publicId), s)
  | .registrationRenew id token expiresAt now, s => s.renewToken id token expiresAt now
  | .registrationClaim input now, s => s.claimSender input now
  | .registrationConsume id token now, s => s.consumeToken id token now
  | .deliveryCreate deliveryId payload, s => s.createDelivery deliveryId payload
  | .deliveryMark id status reason now, s => s.markDelivery id status reason now
  | .resolveUsableForRegistration _, s => (ch.image, s)
  | .sendRegistrationTicketImage _, s => (ch.notification, s)

/-- Reading the clock or random bytes cannot fail. -/
def TicketCall.faulty : TicketCall → Prop
  | .now => False
  | .random => False
  | _ => True

/-- A program of the service. -/
abbrev Req (α : Type) := Prog TicketResp RequestExn α

def ticketCall (c : TicketCall) : Req (TicketResp c) := Prog.call c

namespace WhatsappTicketRequestsService

/-- `persistUniqueToken`, with the attempts that are left. -/
def persistUniqueToken (registrationId : Id) (expiresAt : Time) : Nat → Req String
  | 0 => throw (.badRequest "Could not generate ticket request token")
  | attempts + 1 => do
      let hex ← ticketCall .random
      let ticketRequestToken := "WTR_" ++ hex
      let now ← ticketCall .now
      tryCatch (do
          let _ ← ticketCall (.registrationRenew registrationId ticketRequestToken expiresAt now)
          pure ticketRequestToken)
        fun error =>
          match error with
          | .uniqueConstraint (some constraint) =>
              if includes (toLowerCase constraint) "ticketrequesttoken" then
                persistUniqueToken registrationId expiresAt attempts
              else throw error
          | _ => throw error

def buildWhatsAppUrl (cfg : Config) (publicId ticketRequestToken : String) :
    Except RequestExn String :=
  let requestPhone := normalizePhone cfg.requestPhone
  if requestPhone = "" then .error (.badRequest "WHATSAPP_REQUEST_PHONE is not configured")
  else
    let message := "\n".intercalate ["طلب بطاقة الدخول", "رقم التسجيل: " ++ publicId,
      "رمز الطلب: " ++ ticketRequestToken]
    .ok ("https://wa.me/" ++ requestPhone ++ "?text=" ++ cfg.encodeURIComponent message)

structure TicketRequestLink where
  enabled : Bool
  ticketRequestToken : String
  url : String
  expiresAt : String

def createForRegistration (rt : Runtime) (cfg : Config) (registrationId : Id) :
    Req TicketRequestLink := do
  match ← ticketCall (.registrationById registrationId) with
  | none => throw (.notFound "Registration not found")
  | some registration =>
      let now ← ticketCall .now
      let expiresAt := now + cfg.expiresHours * 60 * 60 * 1000
      let ticketRequestToken ← persistUniqueToken registration.id expiresAt 5
      let url ← Prog.ofExcept (buildWhatsAppUrl cfg registration.publicId ticketRequestToken)
      pure { enabled := true, ticketRequestToken, url, expiresAt := rt.toISOString expiresAt }

/-- The bound phone of a registration whose token is the one sent and has not expired. -/
def boundTo (phone : String) (senderPhone : String) : Bool := normalizePhone phone == senderPhone

/-- The token of the registration is the one sent. -/
def tokenMatches (token : String) (r : TicketRegistration) : Bool :=
  (truthy r.ticketRequestToken).any (safeSecretEquals token)

/-- The token of the registration has not expired. -/
def unexpired (now : Time) (r : TicketRegistration) : Bool := r.ticketRequestExpiresAt.any (now < ·)

def claimTicketRequestSender (input : ClaimTicketRequestSenderInput) : Req Bool := do
  let now ← ticketCall .now
  match ← ticketCall (.registrationById input.registrationId) with
  | none => pure false
  | some current =>
      if !tokenMatches input.ticketRequestToken current then pure false
      else if !unexpired now current then pure false
      else match truthy current.ticketRequestPhone with
        | some phone => pure (boundTo phone input.senderPhone)
        | none =>
            let count ← ticketCall (.registrationClaim input now)
            if count = 1 then pure true
            else
              match ← ticketCall (.registrationById input.registrationId) with
              | none => pure false
              | some latest =>
                  match truthy latest.ticketRequestPhone with
                  | none => pure false
                  | some phone =>
                      if (truthy latest.ticketRequestToken).isNone ||
                          latest.ticketRequestExpiresAt.isNone then pure false
                      else
                        let later ← ticketCall .now
                        if !unexpired later latest then pure false
                        else if !tokenMatches input.ticketRequestToken latest then pure false
                        else pure (boundTo phone input.senderPhone)

/-! ## The webhook -/

structure WasenderWebhookResult where
  ignored : Bool := false
  reason : Option String := none
  queued : Option Bool := none
  jobId : Option String := none
  notificationLogId : Option Id := none
  deriving DecidableEq, Repr

def ignoredFor (reason : String) : WasenderWebhookResult := { ignored := true, reason := some reason }

def validateWebhookSecret (cfg : Config) (headers : List (String × Header)) :
    Except RequestExn Unit :=
  match truthy cfg.webhookSecret with
  | none => .error (.unauthorized "WASENDER_WEBHOOK_SECRET is not configured")
  | some expected =>
      if (truthy (providedSecret headers)).any fun provided =>
          safeSecretEquals (trim provided) (trim expected) then .ok ()
      else .error (.unauthorized "Invalid webhook secret")

/-- The id of the delivery, or none for a duplicate. -/
def recordDelivery (deliveryId : String) (payload : Json) : Req (Option Id) :=
  tryCatch (do
      let created ← ticketCall (.deliveryCreate deliveryId payload)
      pure (some created.id))
    fun error =>
      match error with
      | .uniqueConstraint _ => pure none
      | _ => throw error

def markDelivery (id : Id) (status : String) (reason : Option String) : Req Unit :=
  if id = "" then pure ()
  else do
    let now ← ticketCall .now
    let _ ← ticketCall (.deliveryMark id status reason now)
    pure ()

/-- Mark the delivery and answer with the reason. -/
def refuse (id : Id) (status reason : String) : Req WasenderWebhookResult := do
  markDelivery id status (some reason)
  pure (ignoredFor reason)

def resolvePublicHttpsImageUrl (cfg : Config) (image : TicketImage) : Option String :=
  let candidate :=
    match truthy (some cfg.publicBaseUrl), truthy image.relativePath with
    | some base, some path =>
        some (base ++ "/" ++ String.ofList (path.toList.dropWhile (· == '/')))
    | _, _ => image.imageUrl
  (truthy candidate).bind fun value =>
    (cfg.parseUrl value).bind fun (protocol, hostname, href) =>
      if protocol ≠ "https:" ∨
          toLowerCase hostname ∈ ["localhost", "127.0.0.1", "::1", "[::1]"] then none
      else some href

/-- The answer of the webhook to a notification. -/
def answerFor : SentNotification → WasenderWebhookResult
  | .skipped reason logId =>
      { ignored := true, reason := some reason, notificationLogId := some logId }
  | .queued queued jobId logId =>
      { queued := some queued, jobId := some jobId, notificationLogId := some logId }

/-- From the claim of the sender to the end of the delivery. -/
def sendTicket (cfg : Config) (id : Id) (message : IncomingMessage) (registration : TicketRegistration)
    (ticketRequestToken senderPhone : String) : Req WasenderWebhookResult := do
  let senderClaimed ← claimTicketRequestSender
    { registrationId := registration.id, senderPhone, ticketRequestToken }
  if !senderClaimed then refuse id "REJECTED" "TICKET_REQUEST_ALREADY_BOUND"
  else
    let image ← tryCatch (do
        let image ← ticketCall (.resolveUsableForRegistration registration.id)
        pure (Except.ok image))
      fun error =>
        pure (.error (match error with
          | .notFound _ => "DIGITAL_TICKET_TEMPLATE_NOT_FOUND"
          | _ => "DIGITAL_TICKET_UNAVAILABLE"))
    match image with
    | .error reason => refuse id "REJECTED" reason
    | .ok image =>
        match resolvePublicHttpsImageUrl cfg image with
        | none => refuse id "REJECTED" "PUBLIC_IMAGE_URL_UNAVAILABLE"
        | some imageUrl =>
            let notification ← tryCatch (ticketCall (.sendRegistrationTicketImage
                { registrationId := registration.id
                  imageUrl
                  recipient := senderPhone
                  dedupeKey := "DIGITAL_TICKET_REQUEST:" ++ registration.id ++ ":" ++
                    message.deliveryId }))
              fun error => do
                markDelivery id "REJECTED" (some "NOTIFICATION_QUEUE_FAILED")
                throw error
            let now ← ticketCall .now
            let _ ← ticketCall (.registrationConsume registration.id ticketRequestToken now)
            markDelivery id "PROCESSED" none
            pure (answerFor notification)

/-- What follows the checks of the message itself. -/
def serveRequest (cfg : Config) (id : Id) (message : IncomingMessage) (publicId : String)
    (ticketRequestToken : String) : Req WasenderWebhookResult := do
  match ← ticketCall (.registrationByPublicId publicId) with
  | none => refuse id "REJECTED" "REGISTRATION_NOT_FOUND"
  | some registration =>
      if registration.status ≠ .ACTIVE then refuse id "REJECTED" "REGISTRATION_INACTIVE"
      else if !tokenMatches ticketRequestToken registration then
        refuse id "REJECTED" "INVALID_TICKET_REQUEST_TOKEN"
      else if registration.ticketRequestExpiresAt.isNone then
        refuse id "REJECTED" "TICKET_REQUEST_EXPIRED"
      else
        let now ← ticketCall .now
        if !unexpired now registration then refuse id "REJECTED" "TICKET_REQUEST_EXPIRED"
        else
          let senderPhone := normalizePhone message.senderPhone
          if senderPhone = "" then refuse id "REJECTED" "SENDER_PHONE_MISSING"
          else sendTicket cfg id message registration ticketRequestToken senderPhone

/-- What follows the recording of a delivery. -/
def serveDelivery (cfg : Config) (id : Id) (message : IncomingMessage) :
    Req WasenderWebhookResult :=
  if message.eventType ≠ "messages.received" then refuse id "IGNORED" "UNSUPPORTED_EVENT"
  else if message.outgoing then refuse id "IGNORED" "OUTGOING_MESSAGE"
  else if message.group then refuse id "IGNORED" "GROUP_MESSAGE"
  else
    match extractPublicId message.text with
    | none => refuse id "REJECTED" "PUBLIC_ID_NOT_FOUND"
    | some publicId =>
        match extractTicketRequestToken message.text with
        | none => refuse id "REJECTED" "TICKET_REQUEST_TOKEN_NOT_FOUND"
        | some ticketRequestToken => serveRequest cfg id message publicId ticketRequestToken

def handleWasenderWebhook (rt : Runtime) (cfg : Config) (headers : List (String × Header))
    (payload : Json) : Req WasenderWebhookResult := do
  Prog.ofExcept (validateWebhookSecret cfg headers)
  let message := extractIncomingMessage rt payload
  match ← recordDelivery message.deliveryId payload with
  | none => pure (ignoredFor "DUPLICATE_WEBHOOK_DELIVERY")
  | some id => serveDelivery cfg id message

end WhatsappTicketRequestsService

/-- A deployment with a request phone. -/
def sampleConfig : WhatsappTicketRequestsService.Config where
  webhookSecret := some "secret"
  requestPhone := "+100"
  expiresHours := 24
  publicBaseUrl := ""
  encodeURIComponent s := s
  parseUrl value := some ("https:", "tickets.example", value)

end CreativeBackend
