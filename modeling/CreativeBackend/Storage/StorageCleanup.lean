import CreativeBackend.Runtime.Paths
import CreativeBackend.Scans.Response

/-!
# Storage cleanup

The part of `StorageCleanupService` that decides which files of the upload directory are orphans
and which belong to an event. The QR directory is the list of its regular files, `Store.images`.

## Implementation notes

The cleaner returns a size and a date with each file, which no decision reads; they are left out.
-/

namespace CreativeBackend

open Relational

/-- The uploads of `EventBranding`. -/
structure BrandingUploads where
  eventId : Id
  logoUrl : Option String := none
  backgroundImageUrl : Option String := none
  certificateImageUrl : Option String := none

/-- The upload of `EventBadgeTemplate`. -/
structure BadgeTemplateUpload where
  eventId : Id
  backgroundImageUrl : Option String := none

/-- The uploads of `DigitalTicketTemplate`. -/
structure TicketTemplateUploads where
  eventId : Id
  backgroundImageUrl : Option String := none
  backgroundImagePath : Option String := none

/-- The file of a `DigitalTicketImage`. -/
structure TicketImageFile where
  eventId : Id
  relativePath : String

/-- What the cleaner reads: the store of the scans and the other rows with an upload. -/
structure CleanupStore where
  scans : Store
  brandings : List BrandingUploads := []
  badgeTemplates : List BadgeTemplateUpload := []
  ticketTemplates : List TicketTemplateUploads := []
  ticketImages : List TicketImageFile := []

namespace StorageCleanupService

open Path

def APPROVED_UPLOAD_DIRS : List String :=
  ["qr", "event-branding", "badge-templates", "certificates", "digital-tickets"]

/-- `/^REG_[A-Za-z0-9_-]+\.png$/`. -/
def QR_FILENAME_PATTERN (name : String) : Bool :=
  startsWith name "REG_" && ".png".toList.isSuffixOf name.toList &&
    isTokenText (withoutEnd ".png" (withoutStart "REG_" name))

/-- `/^[A-Za-z]:\//.test(value)`. -/
def isDrivePath (value : String) : Bool :=
  match value.toList with
  | letter :: ':' :: '/' :: _ => letter.isAlpha
  | _ => false

def toSafeRelativePath (input : String) : Except Exn String :=
  let value := withSlashes (trim input)
  if value = "" then .error (.badRequest "Upload path is required")
  else if isAbsolute value && !startsWith value "/uploads/" && !startsWith value "uploads/" then
    .error (.badRequest "Absolute filesystem paths are not allowed")
  else if isDrivePath value || startsWith value "//" then
    .error (.badRequest "Absolute filesystem paths are not allowed")
  else
    let withoutLeadingSlash := withoutLeadingSlashes value
    if (splitSlashes withoutLeadingSlash).contains ".." then
      .error (.badRequest "Unsafe upload path")
    else
      let normalized := withSlashes (normalize withoutLeadingSlash)
      let parts := splitSlashes normalized
      if parts.length < 3 ∨ parts[0]? ≠ some "uploads" ∨ parts.contains ".." then
        .error (.badRequest "Unsafe upload path")
      else if !APPROVED_UPLOAD_DIRS.contains (parts[1]?.getD "") then
        .error (.badRequest "Upload directory is not approved")
      else .ok ("/" ++ normalized)

/-- The values of a `Set`, each of which keeps its first place. -/
def uniqueSafeRelativePaths (relativePaths : List (Option String)) : Except Exn (List String) :=
  ((relativePaths.filterMap id).mapM toSafeRelativePath).map List.eraseDups

def qrImageRelativePath (registrationPublicId : String) : String :=
  "/uploads/qr/" ++ QrImageService.sanitizeFilename registrationPublicId ++ ".png"

/-- The relative paths of the files that look like QR images. -/
def scanQrFiles (w : CleanupStore) : List String :=
  (w.scans.images.filter QR_FILENAME_PATTERN).map ("/uploads/qr/" ++ ·)

/-- The public id that the cleaner reads off a path. -/
def publicIdOfPath (relativePath : String) : String :=
  withoutEnd ".png" (withoutStart "/uploads/qr/" relativePath)

def findExistingQrFiles (w : CleanupStore) (files : List String) : List String :=
  if files.length = 0 then []
  else
    let publicIds := files.map publicIdOfPath
    let registrations := w.scans.registrations.rows.filter fun r => publicIds.contains r.publicId
    let existingPublicIds := registrations.map (·.publicId)
    files.filter fun file => existingPublicIds.contains (publicIdOfPath file)

def findOrphanQrFiles (w : CleanupStore) (files : Option (List String)) : List String :=
  let qrFiles := files.getD (scanQrFiles w)
  let existingPaths := findExistingQrFiles w qrFiles
  qrFiles.filter fun file => !existingPaths.contains file

/-- The upload columns of the rows of an event, QR images apart. -/
def storedUploads (w : CleanupStore) (eventId : Id) : List (Option String) :=
  let branding := w.brandings.find? fun b => b.eventId = eventId
  let badgeTemplate := w.badgeTemplates.find? fun b => b.eventId = eventId
  [branding.bind (·.logoUrl), branding.bind (·.backgroundImageUrl),
    branding.bind (·.certificateImageUrl), badgeTemplate.bind (·.backgroundImageUrl)] ++
  (w.ticketTemplates.filter fun t => t.eventId = eventId).flatMap (fun t =>
    [t.backgroundImageUrl, t.backgroundImagePath]) ++
  (w.ticketImages.filter fun i => i.eventId = eventId).map (some ·.relativePath)

def findEventOwnedFiles (w : CleanupStore) (eventId : Id) : Except Exn (List String) :=
  match w.scans.events.rows.find? fun e => e.id = eventId with
  | none => .error (.notFound "Event not found")
  | some _ =>
      uniqueSafeRelativePaths (storedUploads w eventId ++
        (w.scans.registrations.rows.filter fun r => r.eventId = eventId).map fun r =>
          some (qrImageRelativePath r.publicId))

end StorageCleanupService

end CreativeBackend
