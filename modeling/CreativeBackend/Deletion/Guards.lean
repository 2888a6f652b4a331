import CreativeBackend.Deletion.Services
import CreativeBackend.Tickets.Services

/-!
# Deletions behind a guard

A checkpoint, a ticket template and an attendee type are deleted alone, where nothing that the
service counts refers to them; a registration is deleted with every row that refers to it. The
checkpoint's guard counts no offline scans, and the template has no guard against its images.
-/

namespace CreativeBackend.Deletion

open Relational Relational.Database

/-- What a deletion answers; the counts are of the rows that go with it. -/
structure Removal where
  success : Option Bool := none
  deleted : Bool := true
  id : Option Id := none
  eventId : Option Id := none
  attendeeTypeId : Option Id := none
  publicId : Option String := none
  deletedRelations : List (Model × Nat) := []

/-- `count` of the rows that refer to a row. -/
def count (db : Db) (k : ForeignKey) (id : Id) : Nat :=
  (db.rows (schema.source k)).countP fun r => decide (r.ref k = some id)

/-- `deleteMany` of the rows that refer to a row. -/
def deleteReferring (k : ForeignKey) (id : Id) : Model × (Row → Bool) :=
  (schema.source k, fun r => decide (r.ref k = some id))

/-- `delete` by the key. -/
def deleteRow (m : Model) (id : Id) : Model × (Row → Bool) := (m, fun r => decide (r.id = id))

namespace CheckpointsService

def remove (db : Db) (id : Id) : Answer Removal :=
  match findModifiable db .checkpointEventId "Checkpoint not found" id with
  | .error e => (.error e, db)
  | .ok checkpoint =>
      let movementLogs := count db .movementLogCheckpointId id
      let scanEvents := count db .scanEventRawCheckpointId id
      let staffSessions := count db .staffSessionCheckpointId id
      let staffAssignments := count db .staffAssignmentCheckpointId id
      let syncBatches := count db .syncBatchCheckpointId id
      if movementLogs > 0 ∨ scanEvents > 0 ∨ staffSessions > 0 ∨ staffAssignments > 0 ∨
          syncBatches > 0 then
        (.error (.conflict ("Cannot delete checkpoint while scan history, sessions, " ++
          "assignments, or sync batches reference it")), db)
      else
        transaction db [deleteRow .checkpoint id] {
          success := some true
          id := some id
          eventId := checkpoint.ref .checkpointEventId }

end CheckpointsService

namespace DigitalTicketTemplatesService

open Tickets.DigitalTicketTemplatesService (toNullableAttendeeTypeId toAttendeeTypeScopeKey)

/-- `eventId_attendeeTypeScopeKey`. -/
def hasScope (eventId : Id) (attendeeTypeScopeKey : String) (r : Row) : Bool :=
  r.ref .digitalTicketTemplateEventId = some eventId &&
    r.data.attendeeTypeScopeKey = attendeeTypeScopeKey

def findByEventAndAttendeeType (db : Db) (eventId : Id) (attendeeTypeId : Option String) :
    Except Exn Row :=
  match findUnique db .event eventId with
  | none => .error (.notFound "Event not found")
  | some _ =>
      match (db.rows .digitalTicketTemplate).find?
          (hasScope eventId (toAttendeeTypeScopeKey attendeeTypeId)) with
      | none => .error (.notFound "Digital ticket template not found")
      | some template => .ok template

/-- The files of the background are deleted after the row, and fail without an exception. -/
def remove (db : Db) (eventId : Id) (attendeeTypeId : Option String) : Answer Removal :=
  match findByEventAndAttendeeType db eventId (toNullableAttendeeTypeId attendeeTypeId) with
  | .error e => (.error e, db)
  | .ok template =>
      transaction db
        [(.digitalTicketTemplate, hasScope eventId template.data.attendeeTypeScopeKey)] {
        eventId := some eventId
        attendeeTypeId := template.ref .digitalTicketTemplateAttendeeTypeId }

end DigitalTicketTemplatesService

namespace AttendeeTypesService

def remove (db : Db) (id : Id) : Answer Removal :=
  match findModifiable db .attendeeTypeEventId "Attendee type not found" id with
  | .error e => (.error e, db)
  | .ok attendeeType =>
      let registrationCount := count db .registrationAttendeeTypeId id
      if registrationCount > 0 then
        (.error (.conflict "Cannot delete attendee type with registrations"), db)
      else
        transaction db [deleteRow .attendeeType id] {
          success := some true
          id := some id
          eventId := attendeeType.ref .attendeeTypeEventId }

end AttendeeTypesService

namespace RegistrationsService

/-- The references of the tables that `remove` deletes from, in its order. -/
def relations : List ForeignKey := [
  .offlineScanOperationRegistrationId, .offlineRegistrationMappingRegistrationId,
  .digitalTicketImageRegistrationId, .notificationLogRegistrationId, .importRowRegistrationId,
  .movementLogRegistrationId, .scanEventRawRegistrationId, .qrTokenRegistrationId]

def remove (db : Db) (id : Id) : Answer Removal :=
  match findModifiable db .registrationEventId "Registration not found" id with
  | .error e => (.error e, db)
  | .ok registration =>
      let deletedRelations := relations.map fun k => (schema.source k, count db k id)
      transaction db (relations.map (deleteReferring · id) ++ [deleteRow .registration id]) {
        id := some id
        publicId := some registration.data.publicId
        deletedRelations }

end RegistrationsService

/-! ## Guarded deletions -/

/-- The rows are deleted, one of the model among them, or the request is rejected and nothing
changes. -/
def Guarded (db : Db) (m : Model) (goes : Model → Row → Prop) (answer : Answer Removal) : Prop :=
  (∃ removal, answer.1 = .ok removal) ∧ (∃ r ∈ db.rows m, goes m r) ∧
      Removes db answer.2 goes ∨
    ∃ e, answer.1 = .error e ∧ IsHttp e ∧ answer.2 = db

/-- The rows of a model with the property, and no others. -/
def Only (m : Model) (P : Row → Prop) (m' : Model) (r : Row) : Prop := m' = m ∧ P r

/-- A registration and the rows that refer to it. -/
def OfRegistration (id : Id) (m : Model) (r : Row) : Prop :=
  m = .registration ∧ r.id = id ∨
    ∃ k, schema.target k = .registration ∧ schema.source k = m ∧ r.ref k = some id

variable {db : Db} {m : Model} {id : Id} {goes : Model → Row → Prop}
  {deletions : List (Model × (Row → Bool))} {removal : Removal}

theorem guarded_error {e : Exn} (h : IsHttp e) : Guarded db m goes (.error e, db) :=
  .inr ⟨e, rfl, h, rfl⟩

/-- A transaction is no rejection: it is right exactly where nothing restricts it. -/
theorem guarded_transaction_iff {rank : Model → Nat}
    (hranked : Ranked schema rank (statements deletions))
    (hgoes : ∀ m, ∀ r ∈ db.rows m, (∃ d ∈ deletions, d.1 = m ∧ d.2 r = true) ↔ goes m r)
    (hrow : ∃ r ∈ db.rows m, goes m r) :
    Guarded db m goes (transaction db deletions removal) ↔
      ∀ k, schema.onDelete k = .restrict → ∀ r ∈ db.rows (schema.source k),
        ¬ goes (schema.source k) r → ∀ t ∈ db.rows (schema.target k),
          r.ref k = some t.id → ¬ goes (schema.target k) t := by
  obtain ⟨hremoves, hcommits⟩ := hranked.removes_iff fun m r hr =>
    exists_statements_iff.trans (hgoes m r hr)
  rw [← hcommits]
  unfold transaction
  constructor
  · rintro (⟨⟨a, ha⟩, -, -⟩ | ⟨e, he, hhttp, -⟩)
    · split at ha
      · cases ha
      · next db' hrun => exact ⟨db', hrun⟩
    · split at he
      · cases he
        exact absurd hhttp id
      · cases he
  · rintro ⟨db', hrun⟩
    rw [hrun]
    exact .inl ⟨⟨removal, rfl⟩, hrow, hremoves db' hrun⟩

/-! ## Single rows -/

theorem exists_single_iff {d : Model} {p : Row → Bool} {r : Row} :
    (∃ d' ∈ [(d, p)], d'.1 = m ∧ d'.2 r = true) ↔ Only d (p · = true) m r := by
  simp only [Only, List.mem_singleton, exists_eq_left]
  exact and_congr_left' eq_comm

theorem exists_deleteRow_iff {d : Model} {r : Row} :
    (∃ d' ∈ [deleteRow d id], d'.1 = m ∧ d'.2 r = true) ↔ Only d (·.id = id) m r := by
  rw [deleteRow, exists_single_iff]
  simp only [Only, decide_eq_true_eq]

theorem ranked_single {p : Row → Bool} (h : ReadsAbove schema deletionRank (.fixed m p)) :
    Ranked schema deletionRank (statements [(m, p)]) := by
  refine ranked_statements deletionRank_suits (List.pairwise_singleton _ _) fun d hd => ?_
  rw [List.mem_singleton.mp hd]
  exact h

theorem ranked_deleteRow : Ranked schema deletionRank (statements [deleteRow m id]) :=
  ranked_single (readsAbove_id fun i => decide (i = id))

/-- Rows of one model go where no row of another one restricts them. -/
theorem unrestricted_only {P : Row → Prop} (hself : ∀ k, schema.onDelete k = .restrict →
      schema.target k = m → schema.source k ≠ m) :
    (∀ k, schema.onDelete k = .restrict → ∀ r ∈ db.rows (schema.source k),
      ¬ Only m P (schema.source k) r → ∀ t ∈ db.rows (schema.target k),
        r.ref k = some t.id → ¬ Only m P (schema.target k) t) ↔
      ∀ k, schema.onDelete k = .restrict → schema.target k = m → ∀ r ∈ db.rows (schema.source k),
        ∀ t ∈ db.rows m, P t → r.ref k ≠ some t.id := by
  constructor
  · intro h k hk htarget r hr t ht hP href
    subst htarget
    exact h k hk r hr (fun hgo => hself k hk rfl hgo.1) t ht href ⟨rfl, hP⟩
  · rintro h k hk r hr - t ht href ⟨rfl, hP⟩
    exact h k hk rfl r hr t ht hP href

theorem self_ne (k : ForeignKey) (hk : schema.onDelete k = .restrict)
    (htarget : schema.target k = m) : schema.source k ≠ m := by
  intro hsource
  have hlt := deletionRank_suits k hk
  rw [htarget, hsource] at hlt
  exact absurd hlt (Nat.lt_irrefl _)

theorem count_pos_iff {k : ForeignKey} :
    count db k id > 0 ↔ ∃ r ∈ db.rows (schema.source k), r.ref k = some id := by
  simp [count, List.countP_pos_iff]

/-- The deletion of one row is right exactly where no required reference names it. -/
theorem guarded_deleteRow_iff {r : Row} (hr : r ∈ db.rows m) :
    Guarded db m (Only m (·.id = r.id)) (transaction db [deleteRow m r.id] removal) ↔
      ∀ k, schema.onDelete k = .restrict → schema.target k = m →
        ∀ x ∈ db.rows (schema.source k), x.ref k ≠ some r.id := by
  rw [guarded_transaction_iff ranked_deleteRow (fun _ _ _ => exists_deleteRow_iff)
    ⟨r, hr, rfl, rfl⟩, unrestricted_only self_ne]
  refine forall₃_congr fun k hk htarget => forall₂_congr fun x hx => ?_
  constructor
  · intro h
    exact h r hr rfl
  · rintro h t ht hid
    rw [hid]
    exact h

/-! ## The services -/

theorem required_checkpoint (k : ForeignKey) (hk : schema.onDelete k = .restrict)
    (htarget : schema.target k = .checkpoint) :
    k = .staffSessionCheckpointId ∨ k = .offlineScanOperationCheckpointId := by
  cases k <;> first | contradiction | simp

theorem required_digitalTicketTemplate (k : ForeignKey) (hk : schema.onDelete k = .restrict)
    (htarget : schema.target k = .digitalTicketTemplate) : k = .digitalTicketImageTemplateId := by
  cases k <;> first | contradiction | rfl

theorem required_attendeeType (k : ForeignKey) (hk : schema.onDelete k = .restrict)
    (htarget : schema.target k = .attendeeType) : k = .registrationAttendeeTypeId := by
  cases k <;> first | contradiction | rfl

namespace CheckpointsService

/-- The references that the guard counts. -/
def counted : List ForeignKey := [
  .movementLogCheckpointId, .scanEventRawCheckpointId, .staffSessionCheckpointId,
  .staffAssignmentCheckpointId, .syncBatchCheckpointId]

theorem counts_pos_iff : (count db .movementLogCheckpointId id > 0 ∨
      count db .scanEventRawCheckpointId id > 0 ∨ count db .staffSessionCheckpointId id > 0 ∨
        count db .staffAssignmentCheckpointId id > 0 ∨ count db .syncBatchCheckpointId id > 0) ↔
    ∃ k ∈ counted, ∃ r ∈ db.rows (schema.source k), r.ref k = some id := by
  simp only [count_pos_iff, counted, List.exists_mem_cons_iff, List.not_mem_nil, false_and,
    exists_false, or_false]

/-- An offline scan that refers to the checkpoint comes with a row that the guard counts. -/
def Counts (db : Db) (id : Id) : Prop :=
  ∀ checkpoint ∈ db.rows .checkpoint, checkpoint.id = id →
    NotArchived db (checkpoint.ref .checkpointEventId) →
    (∃ scan ∈ db.rows .offlineScanOperation,
      scan.ref .offlineScanOperationCheckpointId = some id) →
    ∃ k ∈ counted, ∃ r ∈ db.rows (schema.source k), r.ref k = some id

theorem guarded_iff (db : Db) (id : Id) :
    Guarded db .checkpoint (Only .checkpoint (·.id = id)) (remove db id) ↔ Counts db id := by
  rcases findModifiable_cases db (k := .checkpointEventId) "Checkpoint not found" id rfl rfl with
    ⟨checkpoint, hmem, rfl, hopen, hok⟩ | ⟨hclosed, e, he, herror⟩
  · simp only [remove, hok]
    split
    · next hcounted =>
        exact iff_of_true (guarded_error trivial) fun _ _ _ _ _ => counts_pos_iff.mp hcounted
    · next hcounted =>
        rw [counts_pos_iff] at hcounted
        replace hmem : checkpoint ∈ db.rows .checkpoint := hmem
        rw [guarded_deleteRow_iff hmem]
        constructor
        · rintro h _ _ _ _ ⟨scan, hscan, href⟩
          exact absurd href (h .offlineScanOperationCheckpointId rfl rfl scan hscan)
        · intro h k hk htarget x hx href
          rcases required_checkpoint k hk htarget with rfl | rfl
          · exact hcounted ⟨.staffSessionCheckpointId, by decide, x, hx, href⟩
          · exact hcounted (h checkpoint hmem rfl hopen ⟨x, hx, href⟩)
  · simp only [remove, herror]
    exact iff_of_true (guarded_error he) fun c hc hid hopen => absurd hopen (hclosed c hc hid)

end CheckpointsService

namespace AttendeeTypesService

/-- The guard counts the only required references. -/
theorem guarded (db : Db) (id : Id) :
    Guarded db .attendeeType (Only .attendeeType (·.id = id)) (remove db id) := by
  rcases findModifiable_cases db (k := .attendeeTypeEventId) "Attendee type not found" id rfl rfl
    with ⟨attendeeType, hmem, rfl, hopen, hok⟩ | ⟨hclosed, e, he, herror⟩
  · simp only [remove, hok]
    split
    · exact guarded_error trivial
    · next hcounted =>
        rw [count_pos_iff] at hcounted
        replace hmem : attendeeType ∈ db.rows .attendeeType := hmem
        rw [guarded_deleteRow_iff hmem]
        intro k hk htarget x hx href
        obtain rfl := required_attendeeType k hk htarget
        exact hcounted ⟨x, hx, href⟩
  · simp only [remove, herror]
    exact guarded_error he

end AttendeeTypesService

namespace DigitalTicketTemplatesService

open Tickets.DigitalTicketTemplatesService (toNullableAttendeeTypeId toAttendeeTypeScopeKey
  toNullableAttendeeTypeId_idem)

theorem readsAbove_hasScope (eventId : Id) (attendeeTypeScopeKey : String) :
    ReadsAbove schema deletionRank
      (.fixed .digitalTicketTemplate (hasScope eventId attendeeTypeScopeKey)) := by
  intro _ gone r _
  have href : (clear schema gone r).ref .digitalTicketTemplateEventId =
      r.ref .digitalTicketTemplateEventId := clear_ref_restrict rfl
  change hasScope eventId attendeeTypeScopeKey (clear schema gone r) = _
  rw [hasScope, href]
  rfl

/-- No image was made from the template. -/
def Unused (db : Db) (eventId : Id) (attendeeTypeId : Option String) : Prop :=
  ∀ template ∈ db.rows .digitalTicketTemplate,
    hasScope eventId (toAttendeeTypeScopeKey attendeeTypeId) template = true →
      ∀ image ∈ db.rows .digitalTicketImage,
        image.ref .digitalTicketImageTemplateId ≠ some template.id

theorem guarded_iff (db : Db) (eventId : Id) (attendeeTypeId : Option String) :
    Guarded db .digitalTicketTemplate (Only .digitalTicketTemplate fun r =>
        hasScope eventId (toAttendeeTypeScopeKey attendeeTypeId) r = true)
      (remove db eventId attendeeTypeId) ↔ Unused db eventId attendeeTypeId := by
  obtain ⟨scope, hscope⟩ : ∃ scope, toAttendeeTypeScopeKey attendeeTypeId = scope := ⟨_, rfl⟩
  have hnullable :
      toAttendeeTypeScopeKey (toNullableAttendeeTypeId attendeeTypeId) = scope := by
    rw [← hscope, toAttendeeTypeScopeKey, toNullableAttendeeTypeId_idem, toAttendeeTypeScopeKey]
  simp only [remove, findByEventAndAttendeeType, Unused, hnullable, hscope]
  cases hevent : findUnique db .event eventId with
  | none =>
      refine iff_of_true (guarded_error trivial) fun template hmem hhas => ?_
      obtain ⟨event, hmem', href⟩ :=
        exists_of_required (k := .digitalTicketTemplateEventId) rfl hmem
      simp only [hasScope, Bool.and_eq_true, decide_eq_true_eq] at hhas
      rw [← Option.some.inj (href.symm.trans hhas.1)] at hevent
      have hthere : findUnique db .event event.id = some event := findUnique_eq_some hmem'
      rw [hthere] at hevent
      cases hevent
  | some event =>
      cases hfound : (db.rows .digitalTicketTemplate).find? (hasScope eventId scope) with
      | none =>
          refine iff_of_true (guarded_error trivial) fun template hmem hhas => ?_
          exact absurd hhas (List.find?_eq_none.mp hfound template hmem)
      | some template =>
          have hmem := List.mem_of_find?_eq_some hfound
          have hhas := List.find?_some hfound
          have hkey : template.data.attendeeTypeScopeKey = scope := by
            simp only [hasScope, Bool.and_eq_true, decide_eq_true_eq] at hhas
            exact hhas.2
          simp only [hkey]
          rw [guarded_transaction_iff (ranked_single (readsAbove_hasScope eventId scope))
            (fun _ _ _ => exists_single_iff) ⟨template, hmem, rfl, hhas⟩,
            unrestricted_only self_ne]
          constructor
          · intro h t ht hhas' image himage
            exact h .digitalTicketImageTemplateId rfl rfl image himage t ht hhas'
          · intro h k hk htarget image himage t ht hhas'
            obtain rfl := required_digitalTicketTemplate k hk htarget
            exact h t ht hhas' image himage

end DigitalTicketTemplatesService

namespace RegistrationsService

/-- The order of the deletions suits the foreign keys. -/
def registrationRank (m : Model) : Nat := [
  Model.offlineScanOperation, .offlineRegistrationMapping, .digitalTicketImage, .notificationLog,
  .importRow, .movementLog, .scanEventRaw, .qrToken, .syncOperation, .syncBatch, .importJob,
  .staffSession, .staffAssignment, .deviceOfflineKey, .device, .checkpoint, .zone, .venue,
  .registrationField, .registration, .digitalTicketTemplate, .attendeeType, .eventBranding,
  .eventBadgeTemplate, .notificationTemplate, .event, .auditLog, .webhookDelivery,
  .visitorChange, .refreshToken, .client, .user].idxOf m

theorem registrationRank_suits (k : ForeignKey) (h : schema.onDelete k = .restrict) :
    registrationRank (schema.source k) < registrationRank (schema.target k) := by
  have hall : ∀ k ∈ ForeignKey.all, schema.onDelete k = .restrict →
      registrationRank (schema.source k) < registrationRank (schema.target k) := by decide
  exact hall k (schema.mem_keys k) h

/-- `remove` deletes from every table that refers to a registration. -/
theorem mem_relations (k : ForeignKey) : k ∈ relations ↔ schema.target k = .registration := by
  cases k <;> decide

theorem ranked_remove (id : Id) : Ranked schema registrationRank
    (statements (relations.map (deleteReferring · id) ++ [deleteRow .registration id])) := by
  refine ranked_statements registrationRank_suits ?_ fun d hd => ?_
  · have hranks : ((relations.map (deleteReferring · id) ++ [deleteRow .registration id]).map
        fun d => registrationRank d.1) = [0, 1, 2, 3, 4, 5, 6, 7, 19] := by
      simp only [relations, deleteReferring, deleteRow, List.map_cons, List.map_nil,
        List.cons_append, List.nil_append]
      decide
    have hsorted : ((relations.map (deleteReferring · id) ++ [deleteRow .registration id]).map
        fun d => registrationRank d.1).Pairwise (· ≤ ·) := by
      rw [hranks]
      decide
    exact List.pairwise_map.mp hsorted
  · rw [List.mem_append, List.mem_map, List.mem_singleton] at hd
    rcases hd with ⟨k, hk, rfl⟩ | rfl
    · have hrank : ∀ k ∈ relations,
          registrationRank (schema.source k) < registrationRank (schema.target k) := by decide
      exact readsAbove_ref (fun ref => decide (ref = some id)) (hrank k hk)
    · exact readsAbove_id fun i => decide (i = id)

theorem exists_remove_iff {r : Row} :
    (∃ d ∈ relations.map (deleteReferring · id) ++ [deleteRow .registration id],
      d.1 = m ∧ d.2 r = true) ↔ OfRegistration id m r := by
  simp only [List.mem_append, or_and_right, exists_or, exists_deleteRow_iff, List.mem_map,
    exists_exists_and_eq_and, deleteReferring, decide_eq_true_eq, mem_relations]
  exact or_comm

/-- Among the rows that refer to a registration, movements alone restrict others. -/
theorem restricting_relation {k k' : ForeignKey} (hk : schema.onDelete k = .restrict)
    (hk' : schema.target k' = .registration) (h : schema.source k' = schema.target k) :
    k = .movementLogScanEventRawId ∧ k' = .scanEventRawRegistrationId := by
  have hall : ∀ k' ∈ relations, ∀ k ∈ ForeignKey.all, schema.onDelete k = .restrict →
      schema.source k' = schema.target k →
        k = .movementLogScanEventRawId ∧ k' = .scanEventRawRegistrationId := by decide
  exact hall k' ((mem_relations k').mpr hk') k (schema.mem_keys k) hk h

/-- A registration goes with every row that restricts it; a movement goes with its raw scan. -/
theorem guarded (h : Consistent db) (id : Id) :
    Guarded db .registration (OfRegistration id) (remove db id) := by
  rcases findModifiable_cases db (k := .registrationEventId) "Registration not found" id rfl rfl
    with ⟨registration, hmem, rfl, hopen, hok⟩ | ⟨hclosed, e, he, herror⟩
  · simp only [remove, hok]
    replace hmem : registration ∈ db.rows .registration := hmem
    rw [guarded_transaction_iff (ranked_remove registration.id) (fun _ _ _ => exists_remove_iff)
      ⟨registration, hmem, .inl ⟨rfl, rfl⟩⟩]
    rintro k hk r hr hstays t ht href (⟨htarget, hid⟩ | ⟨k', hk', hsource, href'⟩)
    · exact hstays (.inr ⟨k, htarget, rfl, by rw [href, hid]⟩)
    · obtain ⟨rfl, rfl⟩ := restricting_relation hk hk' hsource
      have hcopies := h.movements r hr t ht href
      rcases hcopies.registration with hnone | hsame
      · rw [hnone] at href'
        cases href'
      · rw [hsame] at href'
        exact hstays (.inr ⟨.movementLogRegistrationId, rfl, rfl, href'⟩)
  · simp only [remove, herror]
    exact guarded_error he

end RegistrationsService

open Tickets.DigitalTicketTemplatesService (toAttendeeTypeScopeKey)

/-- Attendee types and registrations are deleted or kept, whatever refers to them. The guard of a
checkpoint is right exactly where offline scans come with a row that it counts, and the deletion
of a template exactly where no image was made from it. -/
theorem removes_guarded_iff (h : Reach db) :
    (∀ id, Guarded db .checkpoint (Only .checkpoint (·.id = id)) (CheckpointsService.remove db id) ↔
      CheckpointsService.Counts db id) ∧
    (∀ eventId attendeeTypeId, Guarded db .digitalTicketTemplate
        (Only .digitalTicketTemplate fun r => DigitalTicketTemplatesService.hasScope eventId
          (toAttendeeTypeScopeKey attendeeTypeId) r = true)
        (DigitalTicketTemplatesService.remove db eventId attendeeTypeId) ↔
      DigitalTicketTemplatesService.Unused db eventId attendeeTypeId) ∧
    (∀ id, Guarded db .attendeeType (Only .attendeeType (·.id = id))
      (AttendeeTypesService.remove db id)) ∧
    ∀ id, Guarded db .registration (OfRegistration id) (RegistrationsService.remove db id) :=
  ⟨CheckpointsService.guarded_iff db, DigitalTicketTemplatesService.guarded_iff db,
    AttendeeTypesService.guarded db, RegistrationsService.guarded h.consistent⟩

/-- A gate, and a ticket template for a visitor. -/
def desk : List (Model × Row) := [
  (.client, row "client" []),
  (.event, row "event" [(.eventClientId, "client")] { status := some .ACTIVE }),
  (.checkpoint, row "checkpoint" [(.checkpointEventId, "event")]),
  (.device, row "device" [(.deviceEventId, "event")]),
  (.attendeeType, row "visitor" [(.attendeeTypeEventId, "event")]),
  (.registration, row "registration" [(.registrationEventId, "event"),
    (.registrationAttendeeTypeId, "visitor")]),
  (.digitalTicketTemplate, row "template" [(.digitalTicketTemplateEventId, "event")]
    { attendeeTypeScopeKey := "__EVENT__" })]

/-- An offline scan at the gate, and the visitor's ticket. -/
def deskHistory : List (Model × Row) := [
  (.offlineScanOperation, row "scan" [(.offlineScanOperationEventId, "event"),
    (.offlineScanOperationScannerDeviceId, "device"),
    (.offlineScanOperationCheckpointId, "checkpoint")]),
  (.digitalTicketImage, row "image" [(.digitalTicketImageEventId, "event"),
    (.digitalTicketImageRegistrationId, "registration"),
    (.digitalTicketImageTemplateId, "template")])]

/-- Before either, all four are guarded. -/
theorem removes_guarded_desk : ∃ db : Db, Reach db ∧
    (∃ checkpoint ∈ db.rows .checkpoint, Guarded db .checkpoint
      (Only .checkpoint (·.id = checkpoint.id)) (CheckpointsService.remove db checkpoint.id)) ∧
    Guarded db .digitalTicketTemplate
      (Only .digitalTicketTemplate fun r => DigitalTicketTemplatesService.hasScope "event"
        (toAttendeeTypeScopeKey none) r = true)
      (DigitalTicketTemplatesService.remove db "event" none) ∧
    (∃ registration ∈ db.rows .registration, Guarded db .registration
      (OfRegistration registration.id) (RegistrationsService.remove db registration.id)) := by
  obtain ⟨db, hreach, hrows⟩ := exists_reach_of_rows desk (by decide) (by decide)
  have hscans : db.rows .offlineScanOperation = [] := hrows .offlineScanOperation
  have himages : db.rows .digitalTicketImage = [] := hrows .digitalTicketImage
  obtain ⟨checkpoint, hcheckpoint⟩ : ∃ c, c ∈ db.rows .checkpoint := by
    rw [hrows]
    exact ⟨_, List.mem_singleton_self _⟩
  obtain ⟨registration, hregistration⟩ : ∃ r, r ∈ db.rows .registration := by
    rw [hrows]
    exact ⟨_, List.mem_singleton_self _⟩
  obtain ⟨hcheckpoints, htemplates, -, hregistrations⟩ := removes_guarded_iff hreach
  refine ⟨db, hreach, ⟨checkpoint, hcheckpoint, (hcheckpoints _).mpr ?_⟩,
    (htemplates _ _).mpr ?_, registration, hregistration, hregistrations _⟩
  · rintro _ _ _ _ ⟨scan, hscan, -⟩
    rw [hscans] at hscan
    cases hscan
  · intro _ _ _ image himage
    rw [himages] at himage
    cases himage

/-- After them the checkpoint and the template violate a foreign key. -/
theorem not_removes_guarded : ∃ db : Db, Reach db ∧
    ¬ Guarded db .checkpoint (Only .checkpoint (·.id = "checkpoint"))
      (CheckpointsService.remove db "checkpoint") ∧
    ¬ Guarded db .digitalTicketTemplate
      (Only .digitalTicketTemplate fun r => DigitalTicketTemplatesService.hasScope "event"
        (toAttendeeTypeScopeKey none) r = true)
      (DigitalTicketTemplatesService.remove db "event" none) := by
  obtain ⟨db, hreach, hrows⟩ := exists_reach_of_rows (desk ++ deskHistory) (by decide) (by decide)
  refine ⟨db, hreach, ?_, ?_⟩
  · rw [CheckpointsService.guarded_iff]
    intro hcounts
    have hevents : ∀ event ∈ db.rows .event, event.data.status ≠ some .ARCHIVED := by
      rw [hrows]
      decide
    have hcheckpoint : ∃ c ∈ db.rows .checkpoint, c.id = "checkpoint" := by
      rw [hrows]
      decide
    have hscan : ∃ scan ∈ db.rows .offlineScanOperation,
        scan.ref .offlineScanOperationCheckpointId = some "checkpoint" := by
      rw [hrows]
      decide
    have hnone : ∀ k ∈ CheckpointsService.counted, ∀ r ∈ db.rows (schema.source k),
        r.ref k ≠ some "checkpoint" := by
      simp only [hrows]
      decide
    obtain ⟨c, hc, hid⟩ := hcheckpoint
    obtain ⟨k, hk, r, hr, href⟩ := hcounts c hc hid (fun event he _ => hevents event he) hscan
    exact hnone k hk r hr href
  · rw [DigitalTicketTemplatesService.guarded_iff]
    intro hunused
    have htemplate : ∃ t ∈ db.rows .digitalTicketTemplate, t.id = "template" ∧
        DigitalTicketTemplatesService.hasScope "event" (toAttendeeTypeScopeKey none) t = true := by
      rw [hrows]
      decide
    have himage : ∃ image ∈ db.rows .digitalTicketImage,
        image.ref .digitalTicketImageTemplateId = some "template" := by
      rw [hrows]
      decide
    obtain ⟨t, ht, hid, hhas⟩ := htemplate
    obtain ⟨image, hmem, href⟩ := himage
    apply hunused t ht hhas image hmem
    rw [hid]
    exact href

end CreativeBackend.Deletion
