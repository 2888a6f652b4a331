import CreativeBackend.Deletion.Services
import CreativeBackend.Storage.LiveImages

/-!
# Deleting an event

`EventsService.remove` lists the files of the event, deletes its rows in a fixed order and hands
the files to the cleanup. It stops before the first deletion where an upload of the event is not a
safe path, rolls back where a required reference of another event's row is to one of its rows, and
clears the optional ones.

## Implementation notes

The triggers that record a visitor's deletion in the journal are left out.
-/

namespace CreativeBackend.Deletion

open Relational Relational.Database
open StorageCleanupService (toSafeRelativePath uniqueSafeRelativePaths qrImageRelativePath)

/-! ## The files of an event -/

/-- The upload columns of a row, and the QR image that the cleaner expects for a registration. -/
def uploads : Model → Fields → List (Option String)
  | .eventBranding, r => [r.logoUrl, r.backgroundImageUrl, r.certificateImageUrl]
  | .eventBadgeTemplate, r => [r.backgroundImageUrl]
  | .digitalTicketTemplate, r => [r.backgroundImageUrl, r.backgroundImagePath]
  | .digitalTicketImage, r => [some r.relativePath]
  | .registration, r => [some (qrImageRelativePath r.publicId)]
  | _, _ => []

/-- The rows of a model with the event. -/
def ofEvent (db : Db) (k : ForeignKey) (eventId : Id) : List Row :=
  (db.rows (schema.source k)).filter fun r => r.ref k = some eventId

/-- The values that the manifest collects; branding and badge template are single rows. -/
def ownedFiles (db : Db) (eventId : Id) : List (Option String) :=
  let files (m : Model) (rows : List Row) := rows.flatMap fun r => uploads m r.data
  files .eventBranding ((ofEvent db .eventBrandingEventId eventId).take 1) ++
    files .eventBadgeTemplate ((ofEvent db .eventBadgeTemplateEventId eventId).take 1) ++
    files .digitalTicketTemplate (ofEvent db .digitalTicketTemplateEventId eventId) ++
    files .digitalTicketImage (ofEvent db .digitalTicketImageEventId eventId) ++
    files .registration (ofEvent db .registrationEventId eventId)

def findEventOwnedFiles (db : Db) (eventId : Id) : Except Exn (List String) :=
  match findUnique db .event eventId with
  | none => .error (.notFound "Event not found")
  | some _ => uniqueSafeRelativePaths (ownedFiles db eventId)

/-! ## The transaction -/

/-- `deleteMany({ where: { eventId } })`. -/
def deleteOfEvent (k : ForeignKey) (eventId : Id) : Statement :=
  .fixed (schema.source k) fun r => r.ref k = some eventId

/-- `{ registration: { eventId } }` and the like: the row that a reference names has the event. -/
def through (rows : Model → List Row) (k own : ForeignKey) (eventId : Id) (r : Row) : Bool :=
  (rows (schema.target k)).any fun t => r.ref k = some t.id && t.ref own = some eventId

/-- The deletions before the parents of the zones are cleared. -/
def deletionsBelowZones (id : Id) : List Statement := [
  deleteOfEvent .offlineScanOperationEventId id,
  deleteOfEvent .offlineRegistrationMappingEventId id,
  { model := .notificationLog
    cond := fun rows r => r.ref .notificationLogEventId = some id ||
      through rows .notificationLogRegistrationId .registrationEventId id r ||
      through rows .notificationLogTemplateId .notificationTemplateEventId id r },
  deleteOfEvent .movementLogEventId id,
  deleteOfEvent .scanEventRawEventId id,
  deleteOfEvent .qrTokenEventId id,
  { model := .syncOperation
    cond := fun rows r => through rows .syncOperationSyncBatchId .syncBatchEventId id r },
  deleteOfEvent .syncBatchEventId id,
  { model := .importRow
    cond := fun rows r => through rows .importRowImportJobId .importJobEventId id r ||
      through rows .importRowRegistrationId .registrationEventId id r },
  deleteOfEvent .importJobEventId id,
  deleteOfEvent .digitalTicketImageEventId id,
  deleteOfEvent .staffSessionEventId id,
  deleteOfEvent .staffAssignmentEventId id,
  { model := .deviceOfflineKey
    cond := fun rows r => through rows .deviceOfflineKeyDeviceId .deviceEventId id r },
  deleteOfEvent .deviceEventId id,
  deleteOfEvent .checkpointEventId id]

/-- The deletions after it. -/
def deletionsFromZones (id : Id) : List Statement := [
  deleteOfEvent .zoneEventId id,
  deleteOfEvent .venueEventId id,
  deleteOfEvent .registrationFieldEventId id,
  deleteOfEvent .registrationEventId id,
  deleteOfEvent .digitalTicketTemplateEventId id,
  deleteOfEvent .attendeeTypeEventId id,
  deleteOfEvent .eventBrandingEventId id,
  deleteOfEvent .eventBadgeTemplateEventId id,
  deleteOfEvent .notificationTemplateEventId id,
  .fixed .event fun r => r.id = id]

/-- `data: { parentId: null }` for a zone of the event. -/
def withoutParent (eventId : Id) (r : Row) : Row :=
  if r.ref .zoneEventId = some eventId then
    { r with ref := fun k => if k = .zoneParentId then none else r.ref k }
  else r

theorem withoutParent_id (eventId : Id) (r : Row) : (withoutParent eventId r).id = r.id := by
  unfold withoutParent
  split <;> rfl

theorem withoutParent_ref {eventId : Id} {r : Row} {k : ForeignKey} (hk : k ≠ .zoneParentId) :
    (withoutParent eventId r).ref k = r.ref k := by
  unfold withoutParent
  split
  · exact if_neg hk
  · rfl

theorem ref_of_withoutParent {eventId : Id} {r : Row} {k : ForeignKey} {i : Id}
    (h : (withoutParent eventId r).ref k = some i) : r.ref k = some i := by
  by_cases hk : k = .zoneParentId
  · unfold withoutParent at h
    split at h
    · simp [hk] at h
    · exact h
  · rwa [withoutParent_ref hk] at h

/-- `zone.updateMany`. -/
def updateParents (db : Db) (eventId : Id) : Db where
  rows := Function.update db.rows .zone ((db.rows .zone).map (withoutParent eventId))
  distinct m := by
    by_cases hm : m = .zone
    · subst hm
      rw [Function.update_self, List.pairwise_map]
      simp only [withoutParent_id]
      exact db.distinct .zone
    · rw [Function.update_of_ne hm]
      exact db.distinct m
  required k hk r hr := by
    by_cases hm : schema.source k = .zone
    · rw [hm, Function.update_self, List.mem_map] at hr
      obtain ⟨x, hx, rfl⟩ := hr
      rw [withoutParent_ref (by rintro rfl; cases hk)]
      exact db.required k hk x (by rw [hm]; exact hx)
    · rw [Function.update_of_ne hm] at hr
      exact db.required k hk r hr
  sound k r hr i href := by
    obtain ⟨x, hx, href'⟩ : ∃ x ∈ db.rows (schema.source k), x.ref k = some i := by
      by_cases hm : schema.source k = .zone
      · rw [hm, Function.update_self, List.mem_map] at hr
        obtain ⟨x, hx, rfl⟩ := hr
        exact ⟨x, by rw [hm]; exact hx, ref_of_withoutParent href⟩
      · rw [Function.update_of_ne hm] at hr
        exact ⟨r, hr, href⟩
    obtain ⟨t, ht, hid⟩ := db.sound k x hx i href'
    by_cases hm : schema.target k = .zone
    · rw [hm, Function.update_self]
      rw [hm] at ht
      exact ⟨withoutParent eventId t, List.mem_map_of_mem ht, by rw [withoutParent_id, hid]⟩
    · rw [Function.update_of_ne hm]
      exact ⟨t, ht, hid⟩

namespace EventsService

/-- What the deletion of an event answers; the files are those handed to the cleanup. -/
structure Removal where
  deleted : Bool := true
  eventId : Id
  summary : List (Model × Nat)
  relativePaths : List String

/-- The models that the summary counts. -/
def summaryModels : List Model := [
  .offlineScanOperation, .offlineRegistrationMapping, .deviceOfflineKey, .digitalTicketImage,
  .registration, .qrToken, .notificationLog, .scanEventRaw, .movementLog, .staffSession,
  .staffAssignment, .device, .checkpoint, .zone, .venue, .registrationField, .attendeeType,
  .eventBranding, .eventBadgeTemplate, .digitalTicketTemplate]

/-- The rows of a model that the transaction deletes, counted at its start. -/
def deletedCount (db : Db) (id : Id) (m : Model) : Nat :=
  (db.rows m).countP fun r => (deletionsBelowZones id ++ deletionsFromZones id).any fun s =>
    s.model = m && s.cond db.rows r

def deleteRows (db : Db) (id : Id) : Option Db :=
  (runAll (deletionsBelowZones id) db).bind fun db =>
    runAll (deletionsFromZones id) (updateParents db id)

def remove (db : Db) (id : Id) : Answer Removal :=
  match findUnique db .event id with
  | none => (.error (.notFound "Event not found"), db)
  | some _ =>
      match findEventOwnedFiles db id with
      | .error e => (.error e, db)
      | .ok cleanupManifest =>
          match deleteRows db id with
          | none => (.error (.prisma .foreignKey), db)
          | some db' =>
              -- `enqueueEventCleanup` checks the paths of the manifest again.
              match uniqueSafeRelativePaths (cleanupManifest.map some) with
              | .error e => (.error e, db')
              | .ok relativePaths =>
                  (.ok {
                    eventId := id
                    summary := summaryModels.map fun m => (m, deletedCount db id m)
                    relativePaths }, db')

end EventsService

end CreativeBackend.Deletion
