import CreativeBackend.Deletion.Locations

/-!
# What the deletion of a location removes

The statements of `remove` select the location and the rows that refer to its checkpoints, offline
scans apart. The transaction commits exactly where there are none of these, and then the removal
is exact.
-/

namespace CreativeBackend.Deletion

open Relational Relational.Database

variable {db db' : Db} {zones venues : Id → Prop} {atLocation : Row → Bool} {m : Model} {r : Row}
  {ref : Option Id} {levels : List (List Id)} {tail : List (Model × (Row → Bool))}

/-! ## The rows that the statements select -/

section Selected

variable (hat : ∀ c ∈ db.rows .checkpoint, atLocation c = true ↔ AtLocation zones venues c)

include hat

theorem isIn_checkpointIds :
    isIn (findIds db .checkpoint atLocation) ref = true ↔ ToCheckpoint db zones venues ref := by
  rw [isIn_findIds]
  exact RefersTo.congr hat

theorem inLocation_iff {checkpointId staffSessionId : Option Id} :
    inLocation db (findIds db .checkpoint atLocation) checkpointId staffSessionId = true ↔
      FromLocation db zones venues checkpointId staffSessionId := by
  rw [inLocation, Bool.or_eq_true, isIn_checkpointIds hat, sessionIds, isIn_findIds]
  exact or_congr_right (RefersTo.congr fun _ _ => isIn_checkpointIds hat)

theorem fromBatch_iff (b : Row) :
    inLocation db (findIds db .checkpoint atLocation) (b.ref .syncBatchCheckpointId)
      (b.ref .syncBatchStaffSessionId) = true ↔ FromBatch db zones venues b :=
  inLocation_iff hat

/-- The rows of the cascade are those of its models that refer to the checkpoints. -/
theorem selects_dependencies_iff (hr : r ∈ db.rows m) :
    (∃ d ∈ dependencies db (findIds db .checkpoint atLocation), d.1 = m ∧ d.2 r = true) ↔
      m ∉ [Model.zone, .venue, .checkpoint] ∧ Deletes db zones venues m r := by
  have hbatches : isIn (batchIds db (findIds db .checkpoint atLocation))
      (r.ref .syncOperationSyncBatchId) = true ↔
        RefersTo db .syncBatch (FromBatch db zones venues) (r.ref .syncOperationSyncBatchId) := by
    rw [batchIds, isIn_findIds]
    exact RefersTo.congr fun b _ => fromBatch_iff hat b
  simp only [dependencies, List.cons_append, List.nil_append, List.exists_mem_cons_iff,
    List.not_mem_nil, false_and, exists_false, or_false, inLocation_iff hat,
    isIn_checkpointIds hat, hbatches]
  cases m <;> simp only [Deletes, reduceCtorEq, false_and, true_and, or_false, false_or,
    List.mem_cons, List.not_mem_nil, not_false_eq_true, not_true_eq_false, and_false, or_self,
    or_true]
  case staffSession =>
    rw [sessionIds, contains_findIds hr, isIn_checkpointIds hat]
  case syncBatch =>
    rw [batchIds, contains_findIds hr]
    exact fromBatch_iff hat r

theorem selects_cascade (hlevels : ∀ i, i ∈ levels.flatten ↔ zones i)
    (htail : (∃ d ∈ tail, d.1 = m ∧ d.2 r = true) ↔ m = .venue ∧ venues r.id)
    (hr : r ∈ db.rows m) :
    (∃ d ∈ deleteCheckpointsAndZones db (findIds db .checkpoint atLocation) levels ++ tail,
      d.1 = m ∧ d.2 r = true) ↔ Deletes db zones venues m r := by
  have hzones : (∃ d ∈ levels.reverse.map fun level : List Id =>
      ((.zone, fun r => level.contains r.id) : Model × (Row → Bool)), d.1 = m ∧ d.2 r = true) ↔
        m = .zone ∧ zones r.id := by
    rw [← hlevels]
    simp only [List.mem_map, List.mem_reverse, exists_exists_and_eq_and, List.contains_iff_mem,
      List.mem_flatten]
    constructor
    · rintro ⟨level, hlevel, hm, hmem⟩
      exact ⟨hm.symm, level, hlevel, hmem⟩
    · rintro ⟨hm, level, hlevel, hmem⟩
      exact ⟨level, hlevel, hm.symm, hmem⟩
  simp only [deleteCheckpointsAndZones, List.mem_append, or_and_right, exists_or,
    selects_dependencies, selects_dependencies_iff hat hr, hzones, htail, List.mem_singleton,
    exists_eq_left]
  have hcheckpoint : (.checkpoint = m ∧
      (findIds db .checkpoint atLocation).contains r.id = true) ↔
        m = .checkpoint ∧ AtLocation zones venues r := by
    constructor
    · rintro ⟨rfl, h⟩
      exact ⟨rfl, (hat r hr).mp ((contains_findIds hr).mp h)⟩
    · rintro ⟨rfl, h⟩
      exact ⟨rfl, (contains_findIds hr).mpr ((hat r hr).mpr h)⟩
  rw [hcheckpoint]
  cases m <;> simp [Deletes]

end Selected

/-! ## The transaction -/

/-- The models of the cascade are ranked below the checkpoints. -/
theorem ranks_dependencies (checkpointIds : List Id) :
    ((dependencies db checkpointIds).map fun d => deletionRank d.1) = [3, 4, 6, 7, 11, 12] := by
  simp only [dependencies, List.cons_append, List.nil_append, List.map_cons, List.map_nil]
  decide

theorem inOrder_dependencies (checkpointIds : List Id) :
    InOrder deletionRank (dependencies db checkpointIds) := by
  have hranks : ((dependencies db checkpointIds).map fun d => deletionRank d.1).Pairwise
      (· ≤ ·) := by
    rw [ranks_dependencies]
    decide
  exact List.pairwise_map.mp hranks

theorem rank_dependencies_le {checkpointIds : List Id} {d : Model × (Row → Bool)}
    (h : d ∈ dependencies db checkpointIds) : deletionRank d.1 ≤ 12 := by
  have hmem : deletionRank d.1 ∈ (dependencies db checkpointIds).map fun d => deletionRank d.1 :=
    List.mem_map_of_mem h
  rw [ranks_dependencies] at hmem
  simp only [List.mem_cons, List.not_mem_nil, or_false] at hmem
  omega

theorem readsAbove_dependencies {checkpointIds : List Id} {d : Model × (Row → Bool)}
    (h : d ∈ dependencies db checkpointIds) : ReadsAbove schema deletionRank (.fixed d.1 d.2) := by
  simp only [dependencies, List.cons_append, List.nil_append, List.mem_cons, List.not_mem_nil,
    or_false] at h
  rcases h with rfl | rfl | rfl | rfl | rfl | rfl <;> dsimp only
  · exact readsAbove_refs (inLocation db checkpointIds) (by decide) (by decide)
  · exact readsAbove_refs (inLocation db checkpointIds) (by decide) (by decide)
  · exact readsAbove_ref (isIn (batchIds db checkpointIds)) (by decide)
  · exact readsAbove_id fun i => (batchIds db checkpointIds).contains i
  · exact readsAbove_id fun i => (sessionIds db checkpointIds).contains i
  · exact readsAbove_ref (isIn checkpointIds) (by decide)

/-- The cascade comes in the order of the ranks, whatever it leaves out. -/
theorem ranked_cascade {checkpointIds : List Id}
    (htail : tail = [] ∨ ∃ id, tail = deleteVenue id) :
    Ranked schema deletionRank
      (statements (deleteCheckpointsAndZones db checkpointIds levels ++ tail)) := by
  have hsublist : (deleteCheckpointDependencies db checkpointIds).Sublist
      (dependencies db checkpointIds) := dependencies_sublist checkpointIds
  refine ranked_statements deletionRank_suits ?_ ?_
  · have hcheckpoint : deletionRank .checkpoint = 15 := by decide
    have hzone : deletionRank .zone = 16 := by decide
    have hvenue : deletionRank .venue = 17 := by decide
    have hzones : ∀ d ∈ levels.reverse.map fun level : List Id =>
        ((.zone, fun r => level.contains r.id) : Model × (Row → Bool)), d.1 = .zone := by
      intro d hd
      obtain ⟨level, -, rfl⟩ := List.mem_map.mp hd
      rfl
    have htails : ∀ d ∈ tail, d.1 = .venue := by
      rcases htail with rfl | ⟨id, rfl⟩
      · simp
      · simp [deleteVenue]
    have hcascade : InOrder deletionRank (deleteCheckpointDependencies db checkpointIds) :=
      (inOrder_dependencies checkpointIds).sublist hsublist
    refine inOrder_append 16 (inOrder_append 15 (inOrder_append 15 hcascade
      (List.pairwise_singleton _ _) ?_ ?_) (inOrder_of_model hzones) ?_ ?_)
      (inOrder_of_model htails) ?_ ?_
    · intro d hd
      have := rank_dependencies_le (hsublist.subset hd)
      omega
    · simp [hcheckpoint]
    · intro d hd
      rcases List.mem_append.mp hd with hd | hd
      · have := rank_dependencies_le (hsublist.subset hd)
        omega
      · rw [List.mem_singleton.mp hd, hcheckpoint]
    · intro d hd
      rw [hzones d hd, hzone]
      omega
    · intro d hd
      rcases List.mem_append.mp hd with hd | hd
      · rcases List.mem_append.mp hd with hd | hd
        · have := rank_dependencies_le (hsublist.subset hd)
          omega
        · rw [List.mem_singleton.mp hd, hcheckpoint]
          omega
      · rw [hzones d hd, hzone]
    · intro d hd
      rw [htails d hd, hvenue]
      omega
  · intro d hd
    simp only [deleteCheckpointsAndZones, List.mem_append, List.mem_singleton, List.mem_map] at hd
    rcases hd with ((hd | rfl) | ⟨level, -, rfl⟩) | hd
    · exact readsAbove_dependencies (hsublist.subset hd)
    · exact readsAbove_id fun i => checkpointIds.contains i
    · exact readsAbove_id fun i => level.contains i
    · rcases htail with rfl | ⟨id, rfl⟩
      · cases hd
      · rw [deleteVenue, List.mem_singleton] at hd
        rw [hd]
        exact readsAbove_id fun i => decide (i = id)

/-! ## The references that restrict the removal -/

/-- The required references to models of the cascade. -/
theorem restricting_of_deletes {k : ForeignKey} (hk : schema.onDelete k = .restrict)
    (h : Deletes db zones venues (schema.target k) r) :
    k ∈ [.staffSessionCheckpointId, .offlineScanOperationCheckpointId, .movementLogScanEventRawId,
      .syncOperationSyncBatchId] := by
  cases k <;> first | contradiction | simp

/-- The cascade covers every row that restricts it, but for the offline scans. -/
theorem unrestricted_iff (hc : Consistent db) :
    (∀ k, schema.onDelete k = .restrict → ∀ r ∈ db.rows (schema.source k),
      ¬ Deletes db zones venues (schema.source k) r → ∀ t ∈ db.rows (schema.target k),
        r.ref k = some t.id → ¬ Deletes db zones venues (schema.target k) t) ↔
      ∀ scan ∈ db.rows .offlineScanOperation,
        ¬ ToCheckpoint db zones venues (scan.ref .offlineScanOperationCheckpointId) := by
  constructor
  · rintro h scan hscan ⟨t, ht, hat, href⟩
    exact h .offlineScanOperationCheckpointId rfl scan hscan id t ht href hat
  · intro h k hk r hr hstays t ht href hgoes
    have hmem := restricting_of_deletes hk hgoes
    simp only [List.mem_cons, List.not_mem_nil, or_false] at hmem
    rcases hmem with rfl | rfl | rfl | rfl
    · exact hstays ⟨t, ht, hgoes, href⟩
    · exact h r hr ⟨t, ht, hgoes, href⟩
    · -- A movement goes with its raw scan, since it has the columns of it.
      have hcopies := hc.movements r hr t ht href
      apply hstays
      change FromLocation db zones venues _ _
      rw [hcopies.checkpoint, hcopies.staffSession]
      exact hgoes
    · exact hstays ⟨t, ht, hgoes, href⟩

/-! ## The removals -/

/-- The removal commits, and removes the zones and venues, their checkpoints and the rows that
refer to these. -/
def RemovesLocation (db : Db) (zones venues : Id → Prop) (answer : Answer LocationRemoval) : Prop :=
  (∃ summary, answer.1 = .ok summary) ∧ Removes db answer.2 (Goes db zones venues)

/-- Without offline scans at the checkpoints, what is to go is what is deleted. -/
theorem deletes_iff_goes (h : ∀ scan ∈ db.rows .offlineScanOperation,
    ¬ ToCheckpoint db zones venues (scan.ref .offlineScanOperationCheckpointId))
    (hr : r ∈ db.rows m) : Deletes db zones venues m r ↔ Goes db zones venues m r := by
  cases m with
  | offlineScanOperation => exact ⟨False.elim, h r hr⟩
  | _ => rfl

/-- The transaction of a removal is right exactly where no offline scan is at the checkpoints. -/
theorem removesLocation_transaction (hc : Consistent db) {summary : LocationRemoval}
    (hat : ∀ c ∈ db.rows .checkpoint, atLocation c = true ↔ AtLocation zones venues c)
    (hlevels : ∀ i, i ∈ levels.flatten ↔ zones i)
    (htail : tail = [] ∨ ∃ id, tail = deleteVenue id)
    (hvenues : ∀ m r, (∃ d ∈ tail, d.1 = m ∧ d.2 r = true) ↔ m = .venue ∧ venues r.id) :
    RemovesLocation db zones venues
      (transaction db
        (deleteCheckpointsAndZones db (findIds db .checkpoint atLocation) levels ++ tail) summary) ↔
      ∀ scan ∈ db.rows .offlineScanOperation,
        ¬ ToCheckpoint db zones venues (scan.ref .offlineScanOperationCheckpointId) := by
  have hranked : Ranked schema deletionRank (statements
      (deleteCheckpointsAndZones db (findIds db .checkpoint atLocation) levels ++ tail)) :=
    ranked_cascade htail
  obtain ⟨hremoves, hcommits⟩ := hranked.removes_iff fun m r hr =>
    exists_statements_iff.trans (selects_cascade hat hlevels (hvenues m r) hr)
  rw [unrestricted_iff hc] at hcommits
  rw [← hcommits]
  unfold RemovesLocation transaction
  constructor
  · rintro ⟨⟨a, ha⟩, -⟩
    split at ha
    · cases ha
    · next db' hrun => exact ⟨db', hrun⟩
  · rintro ⟨db', hrun⟩
    rw [hrun]
    refine ⟨⟨summary, rfl⟩, (hremoves db' hrun).congr fun m r hr => ?_⟩
    exact deletes_iff_goes (hcommits.mp ⟨db', hrun⟩) hr

/-- The zones of a venue. -/
def InVenue (db : Db) (venueId id : Id) : Prop :=
  ∃ z ∈ db.rows .zone, z.id = id ∧ z.ref .zoneVenueId = some venueId

theorem removes_zone_iff (hc : Consistent db) {zone : Row} (hzone : zone ∈ db.rows .zone)
    (hevent : NotArchived db (zone.ref .zoneEventId)) :
    RemovesLocation db (InSubtree db (· = zone.id)) (fun _ => False)
        (ZonesService.remove db zone.id) ↔
      ∀ scan ∈ db.rows .offlineScanOperation,
        ¬ ToCheckpoint db (InSubtree db (· = zone.id)) (fun _ => False)
          (scan.ref .offlineScanOperationCheckpointId) := by
  have hfound : findModifiable db .zoneEventId "Zone not found" zone.id = .ok zone :=
    findModifiable_of_mem rfl rfl hzone hevent
  simp only [ZonesService.remove, hfound]
  have hroots : (fun i => i = zone.id) = (· ∈ [zone.id]) := by
    funext i
    simp
  have hzones : ∀ i, i ∈ (collectZoneSubtree ((db.rows .zone).filter fun z =>
      z.ref .zoneEventId = zone.ref .zoneEventId) [zone.id]).flatten ↔
        InSubtree db (· = zone.id) i := by
    intro i
    rw [hroots]
    refine mem_collectZoneSubtree hc fun j hj => ?_
    exact ⟨zone, hzone, (List.mem_singleton.mp hj).symm, rfl⟩
  rw [← List.append_nil (deleteCheckpointsAndZones _ _ _)]
  refine removesLocation_transaction hc ?_ hzones (.inl rfl) (by simp)
  intro c _
  rw [isIn, Option.any_eq_true]
  simp only [List.contains_iff_mem, hzones, AtLocation, and_false, exists_false, or_false]

theorem removes_venue_iff (hc : Consistent db) {venue : Row} (hvenue : venue ∈ db.rows .venue)
    (hevent : NotArchived db (venue.ref .venueEventId)) :
    RemovesLocation db (InSubtree db (InVenue db venue.id)) (· = venue.id)
        (VenuesService.remove db venue.id) ↔
      ∀ scan ∈ db.rows .offlineScanOperation,
        ¬ ToCheckpoint db (InSubtree db (InVenue db venue.id)) (· = venue.id)
          (scan.ref .offlineScanOperationCheckpointId) := by
  have hfound : findModifiable db .venueEventId "Venue not found" venue.id = .ok venue :=
    findModifiable_of_mem rfl rfl hvenue hevent
  simp only [VenuesService.remove, hfound]
  obtain ⟨roots, hrootIds⟩ : ∃ roots, (((db.rows .zone).filter fun z =>
      z.ref .zoneEventId = venue.ref .venueEventId).filter fun z =>
        z.ref .zoneVenueId = some venue.id).map (·.id) = roots := ⟨_, rfl⟩
  -- A zone of the venue is a zone of its event.
  have hmem : ∀ i, i ∈ roots ↔ InVenue db venue.id i := by
    intro i
    simp only [← hrootIds, List.mem_map, List.mem_filter, decide_eq_true_eq, InVenue]
    constructor
    · rintro ⟨z, ⟨⟨hz, -⟩, href⟩, hid⟩
      exact ⟨z, hz, hid, href⟩
    · rintro ⟨z, hz, hid, href⟩
      exact ⟨z, ⟨⟨hz, (hc.venues z hz venue hvenue href).symm⟩, href⟩, hid⟩
  have hroots : InVenue db venue.id = (· ∈ roots) := by
    funext i
    exact propext (hmem i).symm
  have hzones : ∀ i, i ∈ (collectZoneSubtree ((db.rows .zone).filter fun z =>
      z.ref .zoneEventId = venue.ref .venueEventId) roots).flatten ↔
        InSubtree db (InVenue db venue.id) i := by
    intro i
    rw [hroots]
    refine mem_collectZoneSubtree hc fun j hj => ?_
    obtain ⟨z, hz, hid, href⟩ := (hmem j).mp hj
    exact ⟨z, hz, hid, (hc.venues z hz venue hvenue href).symm⟩
  rw [hrootIds]
  refine removesLocation_transaction hc ?_ hzones (.inr ⟨venue.id, rfl⟩) ?_
  · intro c _
    rw [length_ne_zero_and_isIn, Bool.or_eq_true, decide_eq_true_eq, isIn, Option.any_eq_true]
    simp only [List.contains_iff_mem, hzones, AtLocation, exists_eq_right, or_comm]
  · intro m r
    simp only [deleteVenue, List.mem_singleton, exists_eq_left, decide_eq_true_eq]
    exact and_congr_left' eq_comm

/-- `ZonesService.remove` and `VenuesService.remove` are right exactly where no offline scan is at
a checkpoint of the location. -/
theorem removes_location_iff (h : Reach db) :
    (∀ zone ∈ db.rows .zone, NotArchived db (zone.ref .zoneEventId) →
      (RemovesLocation db (InSubtree db (· = zone.id)) (fun _ => False)
          (ZonesService.remove db zone.id) ↔
        ∀ scan ∈ db.rows .offlineScanOperation,
          ¬ ToCheckpoint db (InSubtree db (· = zone.id)) (fun _ => False)
            (scan.ref .offlineScanOperationCheckpointId))) ∧
      ∀ venue ∈ db.rows .venue, NotArchived db (venue.ref .venueEventId) →
        (RemovesLocation db (InSubtree db (InVenue db venue.id)) (· = venue.id)
            (VenuesService.remove db venue.id) ↔
          ∀ scan ∈ db.rows .offlineScanOperation,
            ¬ ToCheckpoint db (InSubtree db (InVenue db venue.id)) (· = venue.id)
              (scan.ref .offlineScanOperationCheckpointId)) := by
  constructor
  · intro zone hzone hevent
    exact removes_zone_iff h.consistent hzone hevent
  · intro venue hvenue hevent
    exact removes_venue_iff h.consistent hvenue hevent

/-! ## A gate in a zone of a venue -/

/-- An event with a venue, a zone and a checkpoint there, and a device. -/
def gate : List (Model × Row) := [
  (.client, row "client" []),
  (.event, row "event" [(.eventClientId, "client")] { status := some .ACTIVE }),
  (.venue, row "venue" [(.venueEventId, "event")]),
  (.zone, row "zone" [(.zoneEventId, "event")]),
  (.checkpoint, row "checkpoint" [(.checkpointEventId, "event"), (.checkpointVenueId, "venue"),
    (.checkpointZoneId, "zone")]),
  (.device, row "device" [(.deviceEventId, "event")])]

/-- A scan that the device made offline at the checkpoint. -/
def offlineScan : Model × Row :=
  (.offlineScanOperation, row "scan" [(.offlineScanOperationEventId, "event"),
    (.offlineScanOperationScannerDeviceId, "device"),
    (.offlineScanOperationCheckpointId, "checkpoint")])

/-- Before its first offline scan the gate's zone and venue are deleted. -/
theorem removes_location_gate : ∃ db : Db, Reach db ∧
    ∃ zone ∈ db.rows .zone, ∃ venue ∈ db.rows .venue,
      RemovesLocation db (InSubtree db (· = zone.id)) (fun _ => False)
        (ZonesService.remove db zone.id) ∧
      RemovesLocation db (InSubtree db (InVenue db venue.id)) (· = venue.id)
        (VenuesService.remove db venue.id) := by
  obtain ⟨db, hreach, hrows⟩ := exists_reach_of_rows gate (by decide) (by decide)
  have hscans : db.rows .offlineScanOperation = [] := hrows .offlineScanOperation
  have hevents : ∀ event ∈ db.rows .event, event.data.status ≠ some .ARCHIVED := by
    rw [hrows]
    decide
  obtain ⟨zone, hzone⟩ : ∃ zone, zone ∈ db.rows .zone := by
    rw [hrows]
    exact ⟨_, List.mem_singleton_self _⟩
  obtain ⟨venue, hvenue⟩ : ∃ venue, venue ∈ db.rows .venue := by
    rw [hrows]
    exact ⟨_, List.mem_singleton_self _⟩
  have hiff := removes_location_iff hreach
  refine ⟨db, hreach, zone, hzone, venue, hvenue, ?_, ?_⟩
  · apply (hiff.1 zone hzone fun event he _ => hevents event he).mpr
    rw [hscans]
    simp
  · apply (hiff.2 venue hvenue fun event he _ => hevents event he).mpr
    rw [hscans]
    simp

/-- After it neither is. -/
theorem not_removes_location : ¬ ∀ db : Db, Reach db →
    (∀ zone ∈ db.rows .zone, NotArchived db (zone.ref .zoneEventId) →
      RemovesLocation db (InSubtree db (· = zone.id)) (fun _ => False)
        (ZonesService.remove db zone.id)) ∧
      ∀ venue ∈ db.rows .venue, NotArchived db (venue.ref .venueEventId) →
        RemovesLocation db (InSubtree db (InVenue db venue.id)) (· = venue.id)
          (VenuesService.remove db venue.id) := by
  intro hall
  obtain ⟨db, hreach, hrows⟩ := exists_reach_of_rows (gate ++ [offlineScan]) (by decide) (by decide)
  have hevents : ∀ event ∈ db.rows .event, event.data.status ≠ some .ARCHIVED := by
    rw [hrows]
    decide
  have hzone : ∃ zone ∈ db.rows .zone, zone.id = "zone" := by
    rw [hrows]
    decide
  have hscan : ∃ scan ∈ db.rows .offlineScanOperation,
      scan.ref .offlineScanOperationCheckpointId = some "checkpoint" := by
    rw [hrows]
    decide
  have hcheckpoint : ∃ c ∈ db.rows .checkpoint, c.id = "checkpoint" ∧
      c.ref .checkpointZoneId = some "zone" := by
    rw [hrows]
    decide
  obtain ⟨zone, hzone, hid⟩ := hzone
  obtain ⟨scan, hscan, hscanned⟩ := hscan
  obtain ⟨c, hc, hcid, hcref⟩ := hcheckpoint
  have hright := (hall db hreach).1 zone hzone fun event he _ => hevents event he
  rw [removes_zone_iff hreach.consistent hzone fun event he _ => hevents event he] at hright
  refine hright scan hscan ⟨c, hc, .inl ⟨"zone", hcref, .root hid.symm⟩, ?_⟩
  rw [hscanned, hcid]

end CreativeBackend.Deletion
