import CreativeBackend.Qr.QrService

/-!
# The response to a scan

`formatScanResponse` reads the QR token and its image, the active badge template
and the registration fields. Rendering a badge without a known image asks
`QrService.generate` for the token, which may write it.

## Implementation notes

A nested object of the response is the row it is taken from. The layout of a
badge and the values of its selected fields are left out: they are computed from
the template and the registration without further calls.
-/

namespace CreativeBackend

open Interaction

variable (rt : Runtime)

/-! ## QR images -/

namespace QrImageService

structure QrImage where
  relativePath : String
  publicUrl : String

/-- Every UTF-16 unit outside `[a-zA-Z0-9_-]` becomes an underscore. -/
def sanitizeFilename (value : String) : String :=
  String.ofList (value.toList.flatMap fun c =>
    if c.isAlphanum || c == '_' || c == '-' then [c]
    else if c.toNat < 65536 then ['_'] else ['_', '_'])

def buildQrFilename (registrationPublicId qrToken : String) : String :=
  let tokenFingerprint := String.ofList ((rt.sha256Hex (trim qrToken)).toList.take 16)
  sanitizeFilename registrationPublicId ++ "-" ++ tokenFingerprint ++ ".png"

def imageAt (filename : String) : QrImage where
  relativePath := "/uploads/qr/" ++ filename
  publicUrl := rt.publicBaseUrl ++ "/uploads/qr/" ++ filename

/-- The image of a token, if it exists; an error of the file system counts as none. -/
def getRegistrationQrImageMetadata (registrationPublicId qrToken : String) :
    Svc (Option QrImage) := do
  let filename := buildQrFilename rt registrationPublicId (trim qrToken)
  if ← tryCatch (call (.imageExists filename)) fun _ => return false then
    return some (imageAt rt filename)
  else return none

def generateRegistrationQrImage (registrationPublicId qrToken : String) : Svc QrImage := do
  let filename := buildQrFilename rt registrationPublicId qrToken
  call (.imageWrite filename)
  return imageAt rt filename

end QrImageService

/-! ## Badges -/

namespace BadgeTemplatesService

/-- The QR part of a badge. -/
structure BadgeQr where
  qrToken : String
  imageUrl : String
  relativePath : String

structure Badge where
  template : EventBadgeTemplate
  qr : BadgeQr

/-- The token and image of a registration, both made on demand. -/
def getQrMetadata (registrationId registrationPublicId : String) : Svc BadgeQr := do
  let qr ← QrService.generate rt registrationId
  let existing ← QrImageService.getRegistrationQrImageMetadata rt registrationPublicId qr.qrToken
  let image ← match existing with
    | some image => pure image
    | none => QrImageService.generateRegistrationQrImage rt registrationPublicId qr.qrToken
  return { qrToken := qr.qrToken, imageUrl := image.publicUrl, relativePath := image.relativePath }

def resolveActiveBadgeForRegistration (eventId : Id) (registration : Registration)
    (qr : Option BadgeQr) : Svc (Option Badge) := do
  match ← call (.badgeTemplateActive eventId) with
  | none => return none
  | some template =>
      if registration.eventId ≠ eventId then
        throw (.badRequest "Registration must belong to the same event")
      else
        let qr ← match qr with
          | some qr => pure qr
          | none => getQrMetadata rt registration.id registration.publicId
        return some { template, qr }

end BadgeTemplatesService

/-! ## The response -/

/-- What `formatQrMetadata` returns. -/
structure QrMetadata where
  qrToken : String
  imageUrl : Option String
  relativePath : Option String
  status : QrTokenStatus
  validFrom : Time
  validUntil : Time

structure ScanResponse where
  duplicate : Bool := false
  allowed : Bool
  reason : String
  scanEvent : ScanEventRaw
  movement : Option MovementLog
  registration : Option Registration
  attendeeType : Option AttendeeType
  event : Option Event
  checkpoint : Option Checkpoint
  device : Option Device
  staffSession : Option StaffSession
  qr : Option QrMetadata
  badge : Option BadgeTemplatesService.Badge
  registrationFields : List RegistrationField

namespace ScansService

/-- The registration of a scan, unless it belongs to another event. -/
def formatRegistration (view : RawScanView) : Option Registration :=
  view.registration.filter fun r => r.eventId = view.scan.eventId

def formatRegistrationFields (view : RawScanView) : Svc (List RegistrationField) := do
  match formatRegistration view with
  | none => return []
  | some registration =>
      call (.registrationFields registration.eventId registration.attendeeTypeId)

/-- The body of `formatQrMetadata`. -/
def qrMetadata (registration : Registration) (generateQrImage : Bool) : Svc QrMetadata := do
  let qr ← QrService.findByRegistration rt registration.id
  let existing ← QrImageService.getRegistrationQrImageMetadata rt registration.publicId qr.qrToken
  let image ← match existing with
    | some image => pure (some image)
    | none =>
        if generateQrImage then
          let made ← QrImageService.generateRegistrationQrImage rt registration.publicId qr.qrToken
          pure (some made)
        else pure none
  return { qrToken := qr.qrToken, imageUrl := image.map (·.publicUrl),
           relativePath := image.map (·.relativePath), status := qr.status,
           validFrom := qr.validFrom, validUntil := qr.validUntil }

/-- The QR part of a response; every error means that there is none. -/
def formatQrMetadata (view : RawScanView) (generateQrImage : Bool) : Svc (Option QrMetadata) := do
  match formatRegistration view, view.qrToken with
  | some registration, some _ =>
      tryCatch (do return some (← qrMetadata rt registration generateQrImage)) fun _ => return none
  | _, _ => return none

/-- A QR part with an image, as a badge takes it. -/
def badgeQr (qr : QrMetadata) : Option BadgeTemplatesService.BadgeQr :=
  match truthy qr.imageUrl, truthy qr.relativePath with
  | some imageUrl, some relativePath => some { qrToken := qr.qrToken, imageUrl, relativePath }
  | _, _ => none

/-- The badge of a response; every error means that there is none. -/
def formatBadgeMetadata (view : RawScanView) (qr : Option QrMetadata) :
    Svc (Option BadgeTemplatesService.Badge) := do
  match formatRegistration view with
  | none => return none
  | some registration =>
      tryCatch
        (BadgeTemplatesService.resolveActiveBadgeForRegistration rt view.scan.eventId registration
          (qr.bind badgeQr))
        fun _ => return none

def formatScanResponse (allowed : Bool) (reason : String) (scanEvent : RawScanView)
    (movement : Option MovementLog) (generateQrImage : Bool) : Svc ScanResponse := do
  let qr ← formatQrMetadata rt scanEvent generateQrImage
  let badge ← formatBadgeMetadata rt scanEvent qr
  let registrationFields ← formatRegistrationFields scanEvent
  let registration := formatRegistration scanEvent
  return { allowed, reason, scanEvent := scanEvent.scan, movement, registration,
           attendeeType := registration.bind fun _ => scanEvent.attendeeType,
           event := scanEvent.event, checkpoint := scanEvent.checkpoint,
           device := scanEvent.device, staffSession := scanEvent.staffSession, qr, badge,
           registrationFields }

end ScansService

end CreativeBackend
