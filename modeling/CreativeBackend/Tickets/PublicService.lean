import CreativeBackend.Registrations.Create
import CreativeBackend.Tickets.Services

/-!
# The public registration

`PublicService.register` creates a registration for an open event, generates its QR code and renders
its ticket within the request, and adds a link for WhatsApp where it can. Nothing of it is in a
transaction.
-/

namespace CreativeBackend.Tickets

open Interaction

variable (rt : Runtime)

/-- A registration without its event. -/
structure PublicRegisterDto where
  attendeeTypeId : Id
  fullName : String
  phone : String
  email : Option String := none
  companyName : Option String := none
  jobTitle : Option String := none
  externalId : Option String := none
  customFields : Option (List (String × Json)) := none
  notes : Option String := none
  source : Option RegistrationSource := none

/-- `{ ...dto, eventId, source: PUBLIC }`. -/
def PublicRegisterDto.toCreate (dto : PublicRegisterDto) (eventId : Id) : CreateRegistrationDto where
  eventId
  attendeeTypeId := dto.attendeeTypeId
  fullName := dto.fullName
  phone := dto.phone
  email := dto.email
  companyName := dto.companyName
  jobTitle := dto.jobTitle
  externalId := dto.externalId
  customFields := dto.customFields
  notes := dto.notes
  source := some .PUBLIC

/-- The QR code of a new registration. -/
structure PublicQr where
  qrToken : String
  compactQrToken : String
  signedToken : String
  status : QrTokenStatus
  validFrom : Time
  validUntil : Time
  generatedAt : Time

/-- The ticket of a new registration. -/
structure PublicDigitalTicket where
  status : DigitalTicketStatus
  imageUrl : String
  relativePath : String
  generatedAt : Time
  templateVersion : Nat

/-- What `register` returns. -/
structure PublicRegistration where
  registration : Registration
  qr : PublicQr
  digitalTicket : PublicDigitalTicket
  whatsappRequest : WhatsappLink

namespace PublicService

def createWhatsappRequest (registrationId : Id) : TicketSvc WhatsappLink :=
  tryCatch (ticketCall (.whatsappRequest registrationId))
    fun _ => return { enabled := false, url := none, expiresAt := none }

/-- The ticket of a new registration, or the one exception that says that there is none. -/
def generateTicket (registrationId : Id) : TicketSvc GeneratedTicket :=
  tryCatch (DigitalTicketsService.generateForRegistration rt registrationId
      { forceRegenerate := true })
    fun _ => throw (.serviceUnavailable
      "Registration was created, but the Digital Ticket image could not be generated")

/-- The part of `register` after the registration was created. -/
def completeRegistration (registration : Registration) : TicketSvc PublicRegistration := do
  let qr ← onStore (QrService.generate rt registration.id)
  let generatedTicket ← generateTicket rt registration.id
  let whatsappRequest ← createWhatsappRequest registration.id
  return {
    registration
    qr := {
      qrToken := qr.compactQrToken
      compactQrToken := qr.compactQrToken
      signedToken := qr.signedQrToken
      status := qr.status
      validFrom := qr.validFrom
      validUntil := qr.validUntil
      generatedAt := qr.generatedAt }
    digitalTicket := {
      status := .READY
      imageUrl := generatedTicket.image.imageUrl
      relativePath := generatedTicket.image.relativePath
      generatedAt := generatedTicket.image.generatedAt
      templateVersion := generatedTicket.templateVersion }
    whatsappRequest }

def register (eventId : Id) (dto : PublicRegisterDto) : TicketSvc PublicRegistration := do
  match ← ticketCall (.publicEvent eventId) with
  | none => throw (.notFound "Event not found")
  | some false => throw (.badRequest "Event is not open for public registration")
  | some true =>
      let templates ← ticketCall (.templatesFor eventId dto.attendeeTypeId)
      if templates.isEmpty then
        throw (.badRequest "Digital ticket template is not configured for this event")
      else
        let registration ← onStore (RegistrationsService.create rt (dto.toCreate eventId))
        completeRegistration rt registration

end PublicService

end CreativeBackend.Tickets
