import CreativeBackend.Deletion.Services
import CreativeBackend.Relational.Levels

/-!
# Deleting zones and venues

`ZonesService.remove` and `VenuesService.remove` delete a location with the zones below it, the
checkpoints there and the rows that refer to these. The cascade names every table with a required
reference to a checkpoint but one, the offline scans: the transaction commits exactly where none
of them is at one of the checkpoints.
-/

namespace CreativeBackend.Deletion

open Relational Relational.Database

/-! ## The cascade -/

/-- `childrenByParent.get(id) ?? []`. -/
def childrenByParent (zones : List Row) (id : Id) : List Id :=
  (zones.filter fun z => truthy (z.ref .zoneParentId) = some id).map (·.id)

def collectZoneSubtree (zones : List Row) (rootIds : List Id) : List (List Id) :=
  levelsFrom (childrenByParent zones) (rootIds.length + zones.length + 1) [] rootIds.eraseDups

def deleteCheckpointDependencies (db : Db) (checkpointIds : List Id) :
    List (Model × (Row → Bool)) :=
  if checkpointIds.length = 0 then []
  else
    let staffSessionIds := findIds db .staffSession fun r =>
      isIn checkpointIds (r.ref .staffSessionCheckpointId)
    let inSessions (ref : Option Id) := staffSessionIds.length ≠ 0 && isIn staffSessionIds ref
    let syncBatchIds := findIds db .syncBatch fun r =>
      isIn checkpointIds (r.ref .syncBatchCheckpointId) ||
        inSessions (r.ref .syncBatchStaffSessionId)
    [(.movementLog, fun r => isIn checkpointIds (r.ref .movementLogCheckpointId) ||
        inSessions (r.ref .movementLogStaffSessionId)),
      (.scanEventRaw, fun r => isIn checkpointIds (r.ref .scanEventRawCheckpointId) ||
        inSessions (r.ref .scanEventRawStaffSessionId))] ++
    (if syncBatchIds.length > 0 then
      [(.syncOperation, fun r => isIn syncBatchIds (r.ref .syncOperationSyncBatchId)),
        (.syncBatch, fun r => syncBatchIds.contains r.id)]
    else []) ++
    (if staffSessionIds.length > 0 then
      [(.staffSession, fun r => staffSessionIds.contains r.id)]
    else []) ++
    [(.staffAssignment, fun r => isIn checkpointIds (r.ref .staffAssignmentCheckpointId))]

/-- The checkpoints with what depends on them, and the zones from the lowest level up. -/
def deleteCheckpointsAndZones (db : Db) (checkpointIds : List Id) (zoneLevels : List (List Id)) :
    List (Model × (Row → Bool)) :=
  deleteCheckpointDependencies db checkpointIds ++
    [(.checkpoint, fun r => checkpointIds.contains r.id)] ++
    zoneLevels.reverse.map fun level => (.zone, fun r => level.contains r.id)

def deleteVenue (id : Id) : List (Model × (Row → Bool)) := [(.venue, fun r => r.id = id)]

/-- What `remove` returns, with its summary. -/
structure LocationRemoval where
  deleted : Bool := true
  id : Id
  eventId : Option Id
  checkpoints : Nat
  zones : Nat

namespace ZonesService

def remove (db : Db) (id : Id) : Answer LocationRemoval :=
  match findModifiable db .zoneEventId "Zone not found" id with
  | .error e => (.error e, db)
  | .ok zone =>
      let eventZones := (db.rows .zone).filter fun z =>
        z.ref .zoneEventId = zone.ref .zoneEventId
      let zoneLevels := collectZoneSubtree eventZones [id]
      let zoneIds := zoneLevels.flatten
      let checkpointIds := findIds db .checkpoint fun c => isIn zoneIds (c.ref .checkpointZoneId)
      transaction db (deleteCheckpointsAndZones db checkpointIds zoneLevels) {
        id
        eventId := zone.ref .zoneEventId
        checkpoints := checkpointIds.length
        zones := zoneIds.length - 1 }

end ZonesService

namespace VenuesService

def remove (db : Db) (id : Id) : Answer LocationRemoval :=
  match findModifiable db .venueEventId "Venue not found" id with
  | .error e => (.error e, db)
  | .ok venue =>
      let eventZones := (db.rows .zone).filter fun z =>
        z.ref .zoneEventId = venue.ref .venueEventId
      let rootIds := (eventZones.filter fun z => z.ref .zoneVenueId = some id).map (·.id)
      let zoneLevels := collectZoneSubtree eventZones rootIds
      let zoneIds := zoneLevels.flatten
      let checkpointIds := findIds db .checkpoint fun c =>
        c.ref .checkpointVenueId = some id ||
          zoneIds.length ≠ 0 && isIn zoneIds (c.ref .checkpointZoneId)
      transaction db (deleteCheckpointsAndZones db checkpointIds zoneLevels ++ deleteVenue id) {
        id
        eventId := venue.ref .venueEventId
        checkpoints := checkpointIds.length
        zones := zoneIds.length }

end VenuesService

/-! ## What a location takes with it -/

/-- Following the parents of a zone meets one of the roots. -/
inductive InSubtree (db : Db) (roots : Id → Prop) : Id → Prop
  | root {id : Id} (h : roots id) : InSubtree db roots id
  | child {z : Row} {p : Id} (hz : z ∈ db.rows .zone) (href : z.ref .zoneParentId = some p)
      (hp : InSubtree db roots p) : InSubtree db roots z.id

section Removed

variable (db : Db) (zones venues : Id → Prop)

/-- A checkpoint in one of the zones or venues. -/
def AtLocation (c : Row) : Prop :=
  (∃ z, c.ref .checkpointZoneId = some z ∧ zones z) ∨
    ∃ v, c.ref .checkpointVenueId = some v ∧ venues v

/-- A reference to one of the checkpoints. -/
def ToCheckpoint (ref : Option Id) : Prop :=
  RefersTo db .checkpoint (AtLocation zones venues) ref

/-- A reference to one of the checkpoints, or to a staff session at one of them. -/
def FromLocation (checkpointId staffSessionId : Option Id) : Prop :=
  ToCheckpoint db zones venues checkpointId ∨
    RefersTo db .staffSession
      (fun session => ToCheckpoint db zones venues (session.ref .staffSessionCheckpointId))
      staffSessionId

def FromBatch (batch : Row) : Prop :=
  FromLocation db zones venues (batch.ref .syncBatchCheckpointId)
    (batch.ref .syncBatchStaffSessionId)

/-- The zones and venues, their checkpoints, and the rows that refer to these, offline scans
apart. The history and the batches of a staff session go with it. -/
def Deletes : Model → Row → Prop
  | .zone, r => zones r.id
  | .venue, r => venues r.id
  | .checkpoint, r => AtLocation zones venues r
  | .staffSession, r => ToCheckpoint db zones venues (r.ref .staffSessionCheckpointId)
  | .staffAssignment, r => ToCheckpoint db zones venues (r.ref .staffAssignmentCheckpointId)
  | .movementLog, r => FromLocation db zones venues (r.ref .movementLogCheckpointId)
      (r.ref .movementLogStaffSessionId)
  | .scanEventRaw, r => FromLocation db zones venues (r.ref .scanEventRawCheckpointId)
      (r.ref .scanEventRawStaffSessionId)
  | .syncBatch, r => FromBatch db zones venues r
  | .syncOperation, r =>
      RefersTo db .syncBatch (FromBatch db zones venues) (r.ref .syncOperationSyncBatchId)
  | _, _ => False

/-- The rows that refer to a checkpoint include its offline scans. -/
def Goes : Model → Row → Prop
  | .offlineScanOperation, r =>
      ToCheckpoint db zones venues (r.ref .offlineScanOperationCheckpointId)
  | m, r => Deletes db zones venues m r

end Removed

/-! ## Subtrees -/

section Subtree

variable {db : Db} {event : Option Id} {roots : List Id} {x : Id}

theorem mem_childrenByParent {zones : List Row} {id child : Id} :
    child ∈ childrenByParent zones id ↔
      ∃ z ∈ zones, z.ref .zoneParentId = some id ∧ id ≠ "" ∧ z.id = child := by
  simp [childrenByParent, truthy_eq_some_iff, and_assoc]

/-- The zones below zones of an event are of that event. -/
theorem InSubtree.exists_zone (hc : Consistent db)
    (hroots : ∀ i ∈ roots, ∃ z ∈ db.rows .zone, z.id = i ∧ z.ref .zoneEventId = event)
    (h : InSubtree db (· ∈ roots) x) :
    ∃ z ∈ db.rows .zone, z.id = x ∧ z.ref .zoneEventId = event := by
  induction h with
  | root h => exact hroots _ h
  | @child z p hz href _ ih =>
      obtain ⟨parent, hparent, rfl, hevent⟩ := ih
      have hagrees := hc.parents z hz parent hparent href
      exact ⟨z, hz, rfl, hagrees.symm.trans hevent⟩

/-- The levels of some zones of an event are the zones below them. -/
theorem mem_collectZoneSubtree (hc : Consistent db)
    (hroots : ∀ i ∈ roots, ∃ z ∈ db.rows .zone, z.id = i ∧ z.ref .zoneEventId = event) :
    x ∈ (collectZoneSubtree ((db.rows .zone).filter fun z => z.ref .zoneEventId = event)
      roots).flatten ↔ InSubtree db (· ∈ roots) x := by
  obtain ⟨eventZones, heq⟩ : ∃ eventZones,
      ((db.rows .zone).filter fun z => z.ref .zoneEventId = event) = eventZones := ⟨_, rfl⟩
  have hmem : ∀ z, z ∈ eventZones ↔ z ∈ db.rows .zone ∧ z.ref .zoneEventId = event := by
    intro z
    rw [← heq]
    simp
  rw [heq, collectZoneSubtree]
  have hspace : ∀ a ∈ roots ++ eventZones.map (·.id), ∀ b ∈ childrenByParent eventZones a,
      b ∈ roots ++ eventZones.map (·.id) := by
    intro a _ b hb
    obtain ⟨z, hz, -, -, rfl⟩ := mem_childrenByParent.mp hb
    exact List.mem_append_right _ (List.mem_map_of_mem hz)
  have hcurrent : ∀ a ∈ roots.eraseDups, a ∈ roots ++ eventZones.map (·.id) := by
    intro a ha
    exact List.mem_append_left _ (List.mem_eraseDups.mp ha)
  rw [mem_levelsFrom_iff hspace hcurrent (by simp)]
  constructor
  · rintro ⟨y, hy, hreach⟩
    induction hreach with
    | refl => exact .root (List.mem_eraseDups.mp hy)
    | tail _ hnext ih =>
        obtain ⟨z, hz, href, -, rfl⟩ := mem_childrenByParent.mp hnext
        exact .child ((hmem z).mp hz).1 href ih
  · intro h
    induction h with
    | root h => exact ⟨_, List.mem_eraseDups.mpr h, .refl⟩
    | @child z p hz href hp ih =>
        obtain ⟨y, hy, hreach⟩ := ih
        obtain ⟨parent, hparent, rfl, -⟩ := hp.exists_zone hc hroots
        obtain ⟨z', hz', hid, hevent⟩ := (InSubtree.child hz href hp).exists_zone hc hroots
        have hsame : z' = z := eq_of_id (db.distinct .zone) hz' hz hid
        rw [hsame] at hevent
        exact ⟨y, hy, hreach.tail (mem_childrenByParent.mpr
          ⟨z, (hmem z).mpr ⟨hz, hevent⟩, href, hc.keys .zone parent hparent, rfl⟩)⟩

end Subtree

/-! ## The statements of the cascade -/

section Cascade

variable {db : Db} {zones venues : Id → Prop} {atLocation : Row → Bool} {m : Model} {r : Row}
  {ref : Option Id} {p : Row → Bool}

/-- A test for an empty list changes nothing. -/
theorem length_ne_zero_and_isIn (ids : List Id) :
    (decide (ids.length ≠ 0) && isIn ids ref) = isIn ids ref := by
  cases ids with
  | nil => cases ref <;> rfl
  | cons i rest => simp

/-- The staff sessions at the checkpoints. -/
def sessionIds (db : Db) (checkpointIds : List Id) : List Id :=
  findIds db .staffSession fun r => isIn checkpointIds (r.ref .staffSessionCheckpointId)

/-- A row with one of the checkpoints or one of the sessions. -/
def inLocation (db : Db) (checkpointIds : List Id) (checkpointId staffSessionId : Option Id) :
    Bool :=
  isIn checkpointIds checkpointId || isIn (sessionIds db checkpointIds) staffSessionId

/-- The batches of the checkpoints and the sessions. -/
def batchIds (db : Db) (checkpointIds : List Id) : List Id :=
  findIds db .syncBatch fun r =>
    inLocation db checkpointIds (r.ref .syncBatchCheckpointId) (r.ref .syncBatchStaffSessionId)

/-- The cascade without its tests for empty lists. -/
def dependencies (db : Db) (checkpointIds : List Id) : List (Model × (Row → Bool)) :=
  [(.movementLog, fun r => inLocation db checkpointIds (r.ref .movementLogCheckpointId)
      (r.ref .movementLogStaffSessionId)),
    (.scanEventRaw, fun r => inLocation db checkpointIds (r.ref .scanEventRawCheckpointId)
      (r.ref .scanEventRawStaffSessionId))] ++
  [(.syncOperation, fun r => isIn (batchIds db checkpointIds) (r.ref .syncOperationSyncBatchId)),
    (.syncBatch, fun r => (batchIds db checkpointIds).contains r.id)] ++
  [(.staffSession, fun r => (sessionIds db checkpointIds).contains r.id)] ++
  [(.staffAssignment, fun r => isIn checkpointIds (r.ref .staffAssignmentCheckpointId))]

theorem deleteCheckpointDependencies_eq (checkpointIds : List Id) :
    deleteCheckpointDependencies db checkpointIds =
      if checkpointIds.length = 0 then []
      else
        [(.movementLog, fun r => inLocation db checkpointIds (r.ref .movementLogCheckpointId)
            (r.ref .movementLogStaffSessionId)),
          (.scanEventRaw, fun r => inLocation db checkpointIds (r.ref .scanEventRawCheckpointId)
            (r.ref .scanEventRawStaffSessionId))] ++
        (if (batchIds db checkpointIds).length > 0 then
          [(.syncOperation, fun r =>
              isIn (batchIds db checkpointIds) (r.ref .syncOperationSyncBatchId)),
            (.syncBatch, fun r => (batchIds db checkpointIds).contains r.id)]
        else []) ++
        (if (sessionIds db checkpointIds).length > 0 then
          [(.staffSession, fun r => (sessionIds db checkpointIds).contains r.id)]
        else []) ++
        [(.staffAssignment, fun r => isIn checkpointIds (r.ref .staffAssignmentCheckpointId))] := by
  unfold deleteCheckpointDependencies
  simp only [length_ne_zero_and_isIn]
  rfl

theorem dependencies_sublist (checkpointIds : List Id) :
    (deleteCheckpointDependencies db checkpointIds).Sublist (dependencies db checkpointIds) := by
  rw [deleteCheckpointDependencies_eq]
  split
  · exact List.nil_sublist _
  · refine List.Sublist.append (List.Sublist.append (List.Sublist.append (.refl _) ?_) ?_) (.refl _)
    · split
      · exact .refl _
      · exact List.nil_sublist _
    · split
      · exact .refl _
      · exact List.nil_sublist _

theorem length_pos_of_isIn {ids : List Id} (h : isIn ids ref = true) : 0 < ids.length := by
  cases ids with
  | nil => cases ref <;> cases h
  | cons i rest => simp

theorem length_pos_of_sessionIds {checkpointIds : List Id}
    (h : 0 < (sessionIds db checkpointIds).length) : 0 < checkpointIds.length := by
  obtain ⟨i, hi⟩ := List.exists_mem_of_length_pos h
  obtain ⟨t, -, ht, -⟩ := mem_findIds.mp hi
  exact length_pos_of_isIn ht

theorem length_pos_of_inLocation {checkpointIds : List Id} {checkpointId staffSessionId : Option Id}
    (h : inLocation db checkpointIds checkpointId staffSessionId = true) :
    0 < checkpointIds.length := by
  rcases Bool.or_eq_true_iff.mp h with h | h
  · exact length_pos_of_isIn h
  · exact length_pos_of_sessionIds (length_pos_of_isIn h)

theorem length_pos_of_batchIds {checkpointIds : List Id}
    (h : 0 < (batchIds db checkpointIds).length) : 0 < checkpointIds.length := by
  obtain ⟨i, hi⟩ := List.exists_mem_of_length_pos h
  obtain ⟨t, -, ht, -⟩ := mem_findIds.mp hi
  exact length_pos_of_inLocation ht

/-- A statement that is left out selects nothing. -/
theorem selects_dependencies {checkpointIds : List Id} :
    (∃ d ∈ deleteCheckpointDependencies db checkpointIds, d.1 = m ∧ d.2 r = true) ↔
      ∃ d ∈ dependencies db checkpointIds, d.1 = m ∧ d.2 r = true := by
  constructor
  · rintro ⟨d, hd, h⟩
    exact ⟨d, (dependencies_sublist checkpointIds).subset hd, h⟩
  · rintro ⟨d, hd, hm, h⟩
    refine ⟨d, ?_, hm, h⟩
    rw [deleteCheckpointDependencies_eq]
    have hpos : 0 < checkpointIds.length ∧
        (0 < (batchIds db checkpointIds).length ∨ d.1 ≠ .syncOperation ∧ d.1 ≠ .syncBatch) ∧
        (0 < (sessionIds db checkpointIds).length ∨ d.1 ≠ .staffSession) := by
      simp only [dependencies, List.cons_append, List.nil_append, List.mem_cons, List.not_mem_nil,
        or_false] at hd
      rcases hd with rfl | rfl | rfl | rfl | rfl | rfl
      · exact ⟨length_pos_of_inLocation h, .inr (by simp), .inr (by simp)⟩
      · exact ⟨length_pos_of_inLocation h, .inr (by simp), .inr (by simp)⟩
      · exact ⟨length_pos_of_batchIds (length_pos_of_isIn h), .inl (length_pos_of_isIn h),
          .inr (by simp)⟩
      · have hbatch := List.length_pos_of_mem (List.contains_iff_mem.mp h)
        exact ⟨length_pos_of_batchIds hbatch, .inl hbatch, .inr (by simp)⟩
      · have hsession := List.length_pos_of_mem (List.contains_iff_mem.mp h)
        exact ⟨length_pos_of_sessionIds hsession, .inr (by simp), .inl hsession⟩
      · exact ⟨length_pos_of_isIn h, .inr (by simp), .inr (by simp)⟩
    obtain ⟨hcheckpoints, hbatches, hsessions⟩ := hpos
    rw [if_neg (Nat.ne_of_gt hcheckpoints)]
    simp only [dependencies, List.mem_append] at hd ⊢
    rcases hd with ((hd | hd) | hd) | hd
    · exact .inl (.inl (.inl hd))
    · refine .inl (.inl (.inr ?_))
      have hmodel : ¬ (d.1 ≠ .syncOperation ∧ d.1 ≠ .syncBatch) := by
        rintro ⟨hoperation, hbatch⟩
        simp only [List.mem_cons, List.not_mem_nil, or_false] at hd
        rcases hd with rfl | rfl
        · exact hoperation rfl
        · exact hbatch rfl
      rw [if_pos (hbatches.resolve_right hmodel)]
      exact hd
    · refine .inl (.inr ?_)
      have hmodel : ¬ d.1 ≠ .staffSession := by
        rw [List.mem_singleton] at hd
        rw [hd]
        simp
      rw [if_pos (hsessions.resolve_right hmodel)]
      exact hd
    · exact .inr hd

end Cascade

end CreativeBackend.Deletion
