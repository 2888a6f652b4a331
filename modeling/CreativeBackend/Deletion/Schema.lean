import CreativeBackend.Relational.References
import CreativeBackend.Store.Schema

/-!
# The foreign keys of the database

Every model of the migrations and every foreign key between them, with its `ON DELETE` clause. A
row keeps its references and the columns that the deletions read.
-/

namespace CreativeBackend.Deletion

open Relational

inductive Model where
  | client | user | event | venue | zone | checkpoint | device | auditLog | refreshToken
  | attendeeType | registrationField | staffAssignment | staffSession | registration | qrToken
  | scanEventRaw | movementLog | syncBatch | syncOperation | importJob | importRow
  | notificationTemplate | notificationLog | eventBranding | eventBadgeTemplate | deviceOfflineKey
  | offlineRegistrationMapping | offlineScanOperation | digitalTicketTemplate | digitalTicketImage
  | webhookDelivery | visitorChange
  deriving DecidableEq, Repr

/-- A foreign key is named by its model and its column. -/
inductive ForeignKey where
  | userClientId | eventClientId | venueEventId | zoneEventId | zoneVenueId | zoneParentId
  | checkpointEventId | checkpointVenueId | checkpointZoneId | deviceEventId | auditLogActorUserId
  | refreshTokenUserId | attendeeTypeEventId | registrationFieldEventId
  | registrationFieldAttendeeTypeId | staffAssignmentEventId | staffAssignmentUserId
  | staffSessionEventId | staffSessionStaffUserId | staffSessionDeviceId
  | staffSessionCheckpointId | registrationEventId | registrationAttendeeTypeId
  | qrTokenRegistrationId | qrTokenEventId | scanEventRawEventId | scanEventRawDeviceId
  | scanEventRawStaffSessionId | scanEventRawCheckpointId | scanEventRawRegistrationId
  | scanEventRawQrTokenId | movementLogEventId | movementLogRegistrationId | movementLogQrTokenId
  | movementLogScanEventRawId | movementLogDeviceId | movementLogStaffSessionId
  | movementLogCheckpointId | syncBatchEventId | syncBatchDeviceId | syncBatchStaffSessionId
  | syncBatchCheckpointId | syncOperationSyncBatchId | importJobEventId | importJobAttendeeTypeId
  | importJobUploadedByUserId | importRowImportJobId | importRowRegistrationId
  | notificationTemplateEventId | notificationLogEventId | notificationLogRegistrationId
  | notificationLogTemplateId | staffAssignmentCheckpointId | staffAssignmentDeviceId
  | eventBrandingEventId | eventBadgeTemplateEventId | deviceOfflineKeyDeviceId
  | offlineRegistrationMappingEventId | offlineRegistrationMappingIssuerDeviceId
  | offlineRegistrationMappingRegistrationId | offlineRegistrationMappingCanonicalQrTokenId
  | offlineScanOperationEventId | offlineScanOperationScannerDeviceId
  | offlineScanOperationCheckpointId | offlineScanOperationStaffSessionId
  | offlineScanOperationRegistrationId | offlineScanOperationMovementId
  | offlineScanOperationScanEventRawId | digitalTicketTemplateEventId
  | digitalTicketTemplateAttendeeTypeId | digitalTicketImageEventId
  | digitalTicketImageRegistrationId | digitalTicketImageTemplateId | clientPrimaryUserId
  deriving DecidableEq, Repr

namespace ForeignKey

/-- The model of the column, the model it refers to and the `ON DELETE` clause. -/
def columns : ForeignKey → Model × Model × OnDelete
  | .userClientId => (.user, .client, .setNull)
  | .eventClientId => (.event, .client, .restrict)
  | .venueEventId => (.venue, .event, .restrict)
  | .zoneEventId => (.zone, .event, .restrict)
  | .zoneVenueId => (.zone, .venue, .setNull)
  | .zoneParentId => (.zone, .zone, .setNull)
  | .checkpointEventId => (.checkpoint, .event, .restrict)
  | .checkpointVenueId => (.checkpoint, .venue, .setNull)
  | .checkpointZoneId => (.checkpoint, .zone, .setNull)
  | .deviceEventId => (.device, .event, .restrict)
  | .auditLogActorUserId => (.auditLog, .user, .setNull)
  | .refreshTokenUserId => (.refreshToken, .user, .restrict)
  | .attendeeTypeEventId => (.attendeeType, .event, .restrict)
  | .registrationFieldEventId => (.registrationField, .event, .restrict)
  | .registrationFieldAttendeeTypeId => (.registrationField, .attendeeType, .setNull)
  | .staffAssignmentEventId => (.staffAssignment, .event, .restrict)
  | .staffAssignmentUserId => (.staffAssignment, .user, .restrict)
  | .staffSessionEventId => (.staffSession, .event, .restrict)
  | .staffSessionStaffUserId => (.staffSession, .user, .restrict)
  | .staffSessionDeviceId => (.staffSession, .device, .restrict)
  | .staffSessionCheckpointId => (.staffSession, .checkpoint, .restrict)
  | .registrationEventId => (.registration, .event, .restrict)
  | .registrationAttendeeTypeId => (.registration, .attendeeType, .restrict)
  | .qrTokenRegistrationId => (.qrToken, .registration, .restrict)
  | .qrTokenEventId => (.qrToken, .event, .restrict)
  | .scanEventRawEventId => (.scanEventRaw, .event, .restrict)
  | .scanEventRawDeviceId => (.scanEventRaw, .device, .restrict)
  | .scanEventRawStaffSessionId => (.scanEventRaw, .staffSession, .setNull)
  | .scanEventRawCheckpointId => (.scanEventRaw, .checkpoint, .setNull)
  | .scanEventRawRegistrationId => (.scanEventRaw, .registration, .setNull)
  | .scanEventRawQrTokenId => (.scanEventRaw, .qrToken, .setNull)
  | .movementLogEventId => (.movementLog, .event, .restrict)
  | .movementLogRegistrationId => (.movementLog, .registration, .restrict)
  | .movementLogQrTokenId => (.movementLog, .qrToken, .setNull)
  | .movementLogScanEventRawId => (.movementLog, .scanEventRaw, .restrict)
  | .movementLogDeviceId => (.movementLog, .device, .restrict)
  | .movementLogStaffSessionId => (.movementLog, .staffSession, .setNull)
  | .movementLogCheckpointId => (.movementLog, .checkpoint, .setNull)
  | .syncBatchEventId => (.syncBatch, .event, .restrict)
  | .syncBatchDeviceId => (.syncBatch, .device, .restrict)
  | .syncBatchStaffSessionId => (.syncBatch, .staffSession, .setNull)
  | .syncBatchCheckpointId => (.syncBatch, .checkpoint, .setNull)
  | .syncOperationSyncBatchId => (.syncOperation, .syncBatch, .restrict)
  | .importJobEventId => (.importJob, .event, .restrict)
  | .importJobAttendeeTypeId => (.importJob, .attendeeType, .setNull)
  | .importJobUploadedByUserId => (.importJob, .user, .setNull)
  | .importRowImportJobId => (.importRow, .importJob, .restrict)
  | .importRowRegistrationId => (.importRow, .registration, .setNull)
  | .notificationTemplateEventId => (.notificationTemplate, .event, .setNull)
  | .notificationLogEventId => (.notificationLog, .event, .setNull)
  | .notificationLogRegistrationId => (.notificationLog, .registration, .setNull)
  | .notificationLogTemplateId => (.notificationLog, .notificationTemplate, .setNull)
  | .staffAssignmentCheckpointId => (.staffAssignment, .checkpoint, .setNull)
  | .staffAssignmentDeviceId => (.staffAssignment, .device, .setNull)
  | .eventBrandingEventId => (.eventBranding, .event, .restrict)
  | .eventBadgeTemplateEventId => (.eventBadgeTemplate, .event, .restrict)
  | .deviceOfflineKeyDeviceId => (.deviceOfflineKey, .device, .restrict)
  | .offlineRegistrationMappingEventId => (.offlineRegistrationMapping, .event, .restrict)
  | .offlineRegistrationMappingIssuerDeviceId => (.offlineRegistrationMapping, .device, .restrict)
  | .offlineRegistrationMappingRegistrationId =>
      (.offlineRegistrationMapping, .registration, .setNull)
  | .offlineRegistrationMappingCanonicalQrTokenId =>
      (.offlineRegistrationMapping, .qrToken, .setNull)
  | .offlineScanOperationEventId => (.offlineScanOperation, .event, .restrict)
  | .offlineScanOperationScannerDeviceId => (.offlineScanOperation, .device, .restrict)
  | .offlineScanOperationCheckpointId => (.offlineScanOperation, .checkpoint, .restrict)
  | .offlineScanOperationStaffSessionId => (.offlineScanOperation, .staffSession, .setNull)
  | .offlineScanOperationRegistrationId => (.offlineScanOperation, .registration, .setNull)
  | .offlineScanOperationMovementId => (.offlineScanOperation, .movementLog, .setNull)
  | .offlineScanOperationScanEventRawId => (.offlineScanOperation, .scanEventRaw, .setNull)
  | .digitalTicketTemplateEventId => (.digitalTicketTemplate, .event, .restrict)
  | .digitalTicketTemplateAttendeeTypeId => (.digitalTicketTemplate, .attendeeType, .setNull)
  | .digitalTicketImageEventId => (.digitalTicketImage, .event, .restrict)
  | .digitalTicketImageRegistrationId => (.digitalTicketImage, .registration, .restrict)
  | .digitalTicketImageTemplateId => (.digitalTicketImage, .digitalTicketTemplate, .restrict)
  | .clientPrimaryUserId => (.client, .user, .setNull)

def all : List ForeignKey := [
  .userClientId, .eventClientId, .venueEventId, .zoneEventId, .zoneVenueId, .zoneParentId,
  .checkpointEventId, .checkpointVenueId, .checkpointZoneId, .deviceEventId,
  .auditLogActorUserId, .refreshTokenUserId, .attendeeTypeEventId, .registrationFieldEventId,
  .registrationFieldAttendeeTypeId, .staffAssignmentEventId, .staffAssignmentUserId,
  .staffSessionEventId, .staffSessionStaffUserId, .staffSessionDeviceId,
  .staffSessionCheckpointId, .registrationEventId, .registrationAttendeeTypeId,
  .qrTokenRegistrationId, .qrTokenEventId, .scanEventRawEventId, .scanEventRawDeviceId,
  .scanEventRawStaffSessionId, .scanEventRawCheckpointId, .scanEventRawRegistrationId,
  .scanEventRawQrTokenId, .movementLogEventId, .movementLogRegistrationId,
  .movementLogQrTokenId, .movementLogScanEventRawId, .movementLogDeviceId,
  .movementLogStaffSessionId, .movementLogCheckpointId, .syncBatchEventId, .syncBatchDeviceId,
  .syncBatchStaffSessionId, .syncBatchCheckpointId, .syncOperationSyncBatchId,
  .importJobEventId, .importJobAttendeeTypeId, .importJobUploadedByUserId,
  .importRowImportJobId, .importRowRegistrationId, .notificationTemplateEventId,
  .notificationLogEventId, .notificationLogRegistrationId, .notificationLogTemplateId,
  .staffAssignmentCheckpointId, .staffAssignmentDeviceId, .eventBrandingEventId,
  .eventBadgeTemplateEventId, .deviceOfflineKeyDeviceId, .offlineRegistrationMappingEventId,
  .offlineRegistrationMappingIssuerDeviceId, .offlineRegistrationMappingRegistrationId,
  .offlineRegistrationMappingCanonicalQrTokenId, .offlineScanOperationEventId,
  .offlineScanOperationScannerDeviceId, .offlineScanOperationCheckpointId,
  .offlineScanOperationStaffSessionId, .offlineScanOperationRegistrationId,
  .offlineScanOperationMovementId, .offlineScanOperationScanEventRawId,
  .digitalTicketTemplateEventId, .digitalTicketTemplateAttendeeTypeId,
  .digitalTicketImageEventId, .digitalTicketImageRegistrationId, .digitalTicketImageTemplateId,
  .clientPrimaryUserId]

end ForeignKey

def schema : Schema Model ForeignKey where
  source k := k.columns.1
  target k := k.columns.2.1
  onDelete k := k.columns.2.2
  keys := ForeignKey.all
  mem_keys k := by cases k <;> decide

/-- An order in which every model comes before the ones whose deletion it restricts. -/
def deletionOrder : List Model := [
  .offlineScanOperation, .offlineRegistrationMapping, .notificationLog, .movementLog,
  .scanEventRaw, .qrToken, .syncOperation, .syncBatch, .importRow, .importJob,
  .digitalTicketImage, .staffSession, .staffAssignment, .deviceOfflineKey, .device, .checkpoint,
  .zone, .venue, .registrationField, .registration, .digitalTicketTemplate, .attendeeType,
  .eventBranding, .eventBadgeTemplate, .notificationTemplate, .event, .auditLog,
  .webhookDelivery, .visitorChange, .refreshToken, .client, .user]

def deletionRank (m : Model) : Nat := deletionOrder.idxOf m

theorem deletionRank_suits (k : ForeignKey) (h : schema.onDelete k = .restrict) :
    deletionRank (schema.source k) < deletionRank (schema.target k) := by
  have hall : ∀ k ∈ ForeignKey.all, schema.onDelete k = .restrict →
      deletionRank (schema.source k) < deletionRank (schema.target k) := by decide
  exact hall k (schema.mem_keys k) h

/-- The columns that the deletions read, besides references. -/
structure Fields where
  status : Option EventStatus := none
  attendeeTypeScopeKey : String := ""
  publicId : String := ""
  logoUrl : Option String := none
  backgroundImageUrl : Option String := none
  certificateImageUrl : Option String := none
  backgroundImagePath : Option String := none
  relativePath : String := ""

abbrev Row := Tuple ForeignKey Id Fields

abbrev Db := Database schema Id Fields

/-- The statements of a transaction. -/
abbrev Statement := Database.Statement Model ForeignKey Id Fields

end CreativeBackend.Deletion
