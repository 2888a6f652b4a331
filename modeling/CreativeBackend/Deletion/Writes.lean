import CreativeBackend.Deletion.Schema

/-!
# The databases that the services reach

Every service writes rows and deletes rows, within the constraints of the database. Some models
are written under a check that the deletions rely on: a zone and its parent and venue are of one
event, a movement is written once, with the checkpoint, the staff session and the registration
of its raw scan, which stay as they are, and an event has one branding and one badge template.

## Implementation notes

A key is a `cuid()`, which is not empty. An update of several rows is a sequence of writes, and a
transaction is the sequence of its statements.
-/

namespace CreativeBackend.Deletion

open Relational Relational.Database

variable {db db' : Db} {m : Model} {r x : Row}

/-- The rows with one written, over the row of the same key where there is one. -/
def put (r : Row) (rows : List Row) : List Row :=
  if rows.any fun x => x.id = r.id then rows.map fun x => if x.id = r.id then r else x
  else rows ++ [r]

theorem mem_put {rows : List Row} : x ∈ put r rows ↔ x = r ∨ x ∈ rows ∧ x.id ≠ r.id := by
  unfold put
  split
  · next hany =>
      obtain ⟨old, hold, hid⟩ : ∃ old ∈ rows, old.id = r.id := by simpa using hany
      rw [List.mem_map]
      constructor
      · rintro ⟨y, hy, rfl⟩
        by_cases hkey : y.id = r.id
        · exact .inl (if_pos hkey)
        · rw [if_neg hkey]
          exact .inr ⟨hy, hkey⟩
      · rintro (rfl | ⟨hx, hkey⟩)
        · exact ⟨old, hold, if_pos hid⟩
        · exact ⟨x, hx, if_neg hkey⟩
  · next hnone =>
      have hnew : ∀ y ∈ rows, y.id ≠ r.id := by simpa using hnone
      rw [List.mem_append, List.mem_singleton]
      constructor
      · rintro (hx | rfl)
        · exact .inr ⟨hx, hnew x hx⟩
        · exact .inl rfl
      · rintro (rfl | ⟨hx, -⟩)
        · exact .inr rfl
        · exact .inl hx

/-- The row that a reference names has the same value in `other` as the row has in `own`. -/
def Agrees (db : Db) (k own other : ForeignKey) (r : Row) : Prop :=
  ∀ t ∈ db.rows (schema.target k), r.ref k = some t.id → t.ref other = r.ref own

/-- A movement has the columns of its raw scan. -/
structure Copies (movement scan : Row) : Prop where
  checkpoint : movement.ref .movementLogCheckpointId = scan.ref .scanEventRawCheckpointId
  staffSession : movement.ref .movementLogStaffSessionId = scan.ref .scanEventRawStaffSessionId
  registration : scan.ref .scanEventRawRegistrationId = none ∨
    scan.ref .scanEventRawRegistrationId = movement.ref .movementLogRegistrationId

/-- What the services check where they write a row. -/
def Guard (db : Db) (m : Model) (r : Row) : Prop :=
  match m with
  -- `ensureParentBelongsToEvent`, `ensureVenueBelongsToEvent` and `ensureZoneCanMove`.
  | .zone => Agrees db .zoneParentId .zoneEventId .zoneEventId r ∧
      Agrees db .zoneVenueId .zoneEventId .venueEventId r ∧
      ∀ old ∈ db.rows .zone, old.id = r.id → old.ref .zoneEventId ≠ r.ref .zoneEventId →
        ∀ z ∈ db.rows .zone, z.ref .zoneParentId ≠ some r.id
  -- `ensureVenueCanMove`.
  | .venue => ∀ old ∈ db.rows .venue, old.id = r.id → old.ref .venueEventId ≠ r.ref .venueEventId →
      ∀ z ∈ db.rows .zone, z.ref .zoneVenueId ≠ some r.id
  -- An update of a raw scan sets its verdict; its registration is set before its movement.
  | .scanEventRaw => ∀ old ∈ db.rows .scanEventRaw, old.id = r.id →
      r.ref .scanEventRawCheckpointId = old.ref .scanEventRawCheckpointId ∧
      r.ref .scanEventRawStaffSessionId = old.ref .scanEventRawStaffSessionId ∧
      (r.ref .scanEventRawRegistrationId = old.ref .scanEventRawRegistrationId ∨
        ∀ movement ∈ db.rows .movementLog, movement.ref .movementLogScanEventRawId ≠ some r.id)
  -- A movement is created with the columns of its raw scan, and never updated.
  | .movementLog => (∀ old ∈ db.rows .movementLog, old.id ≠ r.id) ∧
      ∃ scan ∈ db.rows .scanEventRaw, r.ref .movementLogScanEventRawId = some scan.id ∧
        Copies r scan
  -- `EventBranding_eventId_key` and `EventBadgeTemplate_eventId_key`.
  | .eventBranding => ∀ x ∈ db.rows .eventBranding, x.id ≠ r.id →
      x.ref .eventBrandingEventId ≠ r.ref .eventBrandingEventId
  | .eventBadgeTemplate => ∀ x ∈ db.rows .eventBadgeTemplate, x.id ≠ r.id →
      x.ref .eventBadgeTemplateEventId ≠ r.ref .eventBadgeTemplateEventId
  | _ => True

/-- The databases that writes and deletions reach. -/
inductive Reach : Db → Prop
  | empty {db : Db} (h : ∀ m, db.rows m = []) : Reach db
  | write {db db' : Db} (m : Model) (r : Row) (hr : Reach db) (hid : r.id ≠ "") (hg : Guard db m r)
      (hrows : db'.rows = Function.update db.rows m (put r (db.rows m))) : Reach db'
  | delete {db db' : Db} (m : Model) (p : Row → Bool) (hr : Reach db)
      (h : db.deleteMany m p = some db') : Reach db'

/-- One row at most for each row that a required reference names. -/
def Single (db : Db) (k : ForeignKey) : Prop :=
  ∀ x ∈ db.rows (schema.source k), ∀ y ∈ db.rows (schema.source k), x.ref k = y.ref k → x.id = y.id

/-- What the checks keep. -/
structure Consistent (db : Db) : Prop where
  keys : ∀ m, ∀ x ∈ db.rows m, x.id ≠ ""
  parents : ∀ z ∈ db.rows .zone, Agrees db .zoneParentId .zoneEventId .zoneEventId z
  venues : ∀ z ∈ db.rows .zone, Agrees db .zoneVenueId .zoneEventId .venueEventId z
  movements : ∀ movement ∈ db.rows .movementLog, ∀ scan ∈ db.rows .scanEventRaw,
    movement.ref .movementLogScanEventRawId = some scan.id → Copies movement scan
  brandings : Single db .eventBrandingEventId
  badgeTemplates : Single db .eventBadgeTemplateEventId

/-! ## Deletions -/

theorem Single.erase {gone : Model → Id → Bool} {k : ForeignKey} (h : Single db k)
    (hk : schema.onDelete k = .restrict)
    (hrows : db'.rows = Relational.erase schema gone db.rows) : Single db' k := by
  intro x hx y hy hsame
  rw [hrows] at hx hy
  obtain ⟨x₀, hx₀, -, rfl⟩ := mem_erase.mp hx
  obtain ⟨y₀, hy₀, -, rfl⟩ := mem_erase.mp hy
  rw [clear_ref_restrict hk, clear_ref_restrict hk] at hsame
  exact h x₀ hx₀ y₀ hy₀ hsame

/-- A deletion clears references, and leaves the ones that agree. -/
theorem Consistent.erase {gone : Model → Id → Bool} (h : Consistent db)
    (hrows : db'.rows = Relational.erase schema gone db.rows) : Consistent db' := by
  constructor
  · intro m x hx
    rw [hrows] at hx
    obtain ⟨x₀, hx₀, -, rfl⟩ := mem_erase.mp hx
    exact h.keys m x₀ hx₀
  · intro z hz t ht href
    rw [hrows] at hz ht
    obtain ⟨z₀, hz₀, -, rfl⟩ := mem_erase.mp hz
    obtain ⟨t₀, ht₀, -, rfl⟩ := mem_erase.mp ht
    rw [clear_ref_restrict rfl, clear_ref_restrict rfl]
    exact h.parents z₀ hz₀ t₀ ht₀ (clear_ref_eq_some.mp href).1
  · intro z hz t ht href
    rw [hrows] at hz ht
    obtain ⟨z₀, hz₀, -, rfl⟩ := mem_erase.mp hz
    obtain ⟨t₀, ht₀, -, rfl⟩ := mem_erase.mp ht
    rw [clear_ref_restrict rfl, clear_ref_restrict rfl]
    exact h.venues z₀ hz₀ t₀ ht₀ (clear_ref_eq_some.mp href).1
  · intro movement hmovement scan hscan href
    rw [hrows] at hmovement hscan
    obtain ⟨movement₀, hmovement₀, -, rfl⟩ := mem_erase.mp hmovement
    obtain ⟨scan₀, hscan₀, -, rfl⟩ := mem_erase.mp hscan
    have hcopies := h.movements movement₀ hmovement₀ scan₀ hscan₀ (clear_ref_eq_some.mp href).1
    constructor
    · change Option.filter _ _ = Option.filter _ _
      rw [hcopies.checkpoint]
      rfl
    · change Option.filter _ _ = Option.filter _ _
      rw [hcopies.staffSession]
      rfl
    · change Option.filter _ _ = none ∨ Option.filter _ _ = movement₀.ref _
      rcases hcopies.registration with hnone | hsame
      · exact .inl (by rw [hnone]; rfl)
      · rw [hsame]
        cases movement₀.ref .movementLogRegistrationId with
        | none => exact .inl rfl
        | some registrationId =>
            rw [Option.filter_some]
            split
            · exact .inr rfl
            · exact .inl rfl
  · exact h.brandings.erase rfl hrows
  · exact h.badgeTemplates.erase rfl hrows

theorem Consistent.delete {p : Row → Bool} (h : Consistent db)
    (hdelete : db.deleteMany m p = some db') : Consistent db' := by
  unfold deleteMany at hdelete
  split at hdelete
  · cases hdelete
    exact h.erase rfl
  · cases hdelete

/-! ## Writes -/

/-- The rows after a write are the written one and the earlier ones. -/
theorem mem_write {m' : Model} (hrows : db'.rows = Function.update db.rows m (put r (db.rows m))) :
    x ∈ db'.rows m' ↔ m' = m ∧ x = r ∨ x ∈ db.rows m' ∧ (m' = m → x.id ≠ r.id) := by
  rw [hrows]
  by_cases hm : m' = m
  · subst hm
    rw [Function.update_self, mem_put]
    simp
  · rw [Function.update_of_ne hm]
    simp [hm]

/-- A reference that agreed agrees with a row that was written over the one it names. -/
theorem agrees_write {k own other : ForeignKey}
    (hrows : db'.rows = Function.update db.rows m (put r (db.rows m)))
    (hx : x ∈ db.rows (schema.source k)) (h : Agrees db k own other x)
    (hkept : schema.target k = m → ∀ old ∈ db.rows m, old.id = r.id → x.ref k = some r.id →
      r.ref other = old.ref other) : Agrees db' k own other x := by
  intro t ht href
  rcases (mem_write hrows).mp ht with ⟨htarget, rfl⟩ | ⟨hold, -⟩
  · obtain ⟨old, hold, hid⟩ := db.sound k x hx t.id href
    rw [hkept htarget old (htarget ▸ hold) hid href]
    exact h old hold (by rw [hid]; exact href)
  · exact h t hold href

/-- A reference of a written row, where it agreed with the rows before. -/
theorem agrees_written {k own other : ForeignKey}
    (hrows : db'.rows = Function.update db.rows m (put r (db.rows m)))
    (h : Agrees db k own other r) (hself : schema.target k = m → r.ref k = some r.id →
      r.ref other = r.ref own) : Agrees db' k own other r := by
  intro t ht href
  rcases (mem_write hrows).mp ht with ⟨htarget, rfl⟩ | ⟨hold, -⟩
  · exact hself htarget href
  · exact h t hold href

theorem Consistent.parents_write (h : Consistent db) (hg : Guard db m r)
    (hrows : db'.rows = Function.update db.rows m (put r (db.rows m))) :
    ∀ z ∈ db'.rows .zone, Agrees db' .zoneParentId .zoneEventId .zoneEventId z := by
  intro z hz
  rcases (mem_write hrows).mp hz with ⟨rfl, rfl⟩ | ⟨hold, -⟩
  · exact agrees_written hrows hg.1 fun _ _ => rfl
  · refine agrees_write hrows hold (h.parents z hold) ?_
    rintro rfl old hold' hid href
    by_contra hne
    exact hg.2.2 old hold' hid (fun heq => hne heq.symm) z hold href

theorem Consistent.venues_write (h : Consistent db) (hg : Guard db m r)
    (hrows : db'.rows = Function.update db.rows m (put r (db.rows m))) :
    ∀ z ∈ db'.rows .zone, Agrees db' .zoneVenueId .zoneEventId .venueEventId z := by
  intro z hz
  rcases (mem_write hrows).mp hz with ⟨rfl, rfl⟩ | ⟨hold, -⟩
  · exact agrees_written hrows hg.2.1 fun htarget => by cases htarget
  · refine agrees_write hrows hold (h.venues z hold) ?_
    rintro rfl old hold' hid href
    by_contra hne
    exact hg old hold' hid (fun heq => hne heq.symm) z hold href

theorem Consistent.movements_write (h : Consistent db) (hg : Guard db m r)
    (hrows : db'.rows = Function.update db.rows m (put r (db.rows m))) :
    ∀ movement ∈ db'.rows .movementLog, ∀ scan ∈ db'.rows .scanEventRaw,
      movement.ref .movementLogScanEventRawId = some scan.id → Copies movement scan := by
  intro movement hmovement scan hscan href
  rcases (mem_write hrows).mp hmovement with ⟨rfl, rfl⟩ | ⟨hmovement', -⟩
  · obtain ⟨-, scan₀, hscan₀, href₀, hcopies⟩ := hg
    rcases (mem_write hrows).mp hscan with ⟨hmodel, -⟩ | ⟨hscan', -⟩
    · cases hmodel
    · have hid : scan.id = scan₀.id := Option.some.inj (href.symm.trans href₀)
      have hsame : scan = scan₀ := eq_of_id (db.distinct .scanEventRaw) hscan' hscan₀ hid
      rw [hsame]
      exact hcopies
  · rcases (mem_write hrows).mp hscan with ⟨rfl, rfl⟩ | ⟨hscan', -⟩
    · obtain ⟨old, hold, hid⟩ :=
        db.sound .movementLogScanEventRawId movement hmovement' scan.id href
      have hcopies := h.movements movement hmovement' old hold (by rw [hid]; exact href)
      obtain ⟨hcheckpoint, hsession, hregistration⟩ := hg old hold hid
      refine ⟨hcopies.checkpoint.trans hcheckpoint.symm,
        hcopies.staffSession.trans hsession.symm, ?_⟩
      rcases hregistration with hsame | hnone
      · rw [hsame]
        exact hcopies.registration
      · exact absurd href (hnone movement hmovement')
    · exact h.movements movement hmovement' scan hscan' href

theorem Single.write {k : ForeignKey} (h : Single db k)
    (hrows : db'.rows = Function.update db.rows m (put r (db.rows m)))
    (hg : schema.source k = m → ∀ x ∈ db.rows (schema.source k), x.id ≠ r.id → x.ref k ≠ r.ref k) :
    Single db' k := by
  intro x hx y hy hsame
  rcases (mem_write hrows).mp hx with ⟨hm, rfl⟩ | ⟨hx', hxnew⟩
  · rcases (mem_write hrows).mp hy with ⟨-, rfl⟩ | ⟨hy', -⟩
    · rfl
    · by_contra hne
      exact hg hm y hy' (Ne.symm hne) hsame.symm
  · rcases (mem_write hrows).mp hy with ⟨hm, rfl⟩ | ⟨hy', -⟩
    · exact absurd hsame (hg hm x hx' (hxnew hm))
    · exact h x hx' y hy' hsame

/-- Every database that is reached is consistent. -/
theorem Reach.consistent (h : Reach db) : Consistent db := by
  induction h with
  | empty h =>
      constructor
      · intro m x hx
        rw [h] at hx
        cases hx
      · intro z hz
        rw [h] at hz
        cases hz
      · intro z hz
        rw [h] at hz
        cases hz
      · intro movement hmovement
        rw [h] at hmovement
        cases hmovement
      · intro x hx
        rw [h] at hx
        cases hx
      · intro x hx
        rw [h] at hx
        cases hx
  | write m r hr hid hg hrows ih =>
      refine ⟨fun m' x hx => ?_, ih.parents_write hg hrows, ih.venues_write hg hrows,
        ih.movements_write hg hrows, ih.brandings.write hrows ?_, ih.badgeTemplates.write hrows ?_⟩
      rotate_left
      · rintro rfl
        exact hg
      · rintro rfl
        exact hg
      rcases (mem_write hrows).mp hx with ⟨-, rfl⟩ | ⟨hold, -⟩
      · exact hid
      · exact ih.keys m' x hold
  | delete m p hr h ih => exact ih.delete h

/-! ## New rows -/

/-- A new row is within the constraints. -/
def Admits (db : Db) (m : Model) (r : Row) : Prop :=
  (∀ x ∈ db.rows m, x.id ≠ r.id) ∧ ∀ k ∈ ForeignKey.all, schema.source k = m →
    ((r.ref k).isSome = true ∨ schema.onDelete k = .setNull) ∧
      ∀ i ∈ r.ref k, ∃ t ∈ db.rows (schema.target k), t.id = i

instance (db : Db) (m : Model) (r : Row) : Decidable (Admits db m r) :=
  inferInstanceAs (Decidable (_ ∧ _))

/-- The database with a new row. -/
def append (db : Db) (m : Model) (r : Row) (h : Admits db m r) : Db where
  rows := Function.update db.rows m (db.rows m ++ [r])
  distinct m' := by
    by_cases hm : m' = m
    · subst hm
      rw [Function.update_self, List.pairwise_append]
      refine ⟨db.distinct m', List.pairwise_singleton _ _, fun x hx y hy => ?_⟩
      rw [List.mem_singleton.mp hy]
      exact h.1 x hx
    · rw [Function.update_of_ne hm]
      exact db.distinct m'
  required k hk x hx := by
    by_cases hm : schema.source k = m
    · rw [hm, Function.update_self, List.mem_append, List.mem_singleton] at hx
      rcases hx with hx | rfl
      · exact db.required k hk x (by rw [hm]; exact hx)
      · exact (h.2 k (schema.mem_keys k) hm).1.resolve_right (by simp [hk])
    · rw [Function.update_of_ne hm] at hx
      exact db.required k hk x hx
  sound k x hx i href := by
    have hkeep : ∀ t ∈ db.rows (schema.target k),
        t ∈ Function.update db.rows m (db.rows m ++ [r]) (schema.target k) := by
      intro t ht
      by_cases htarget : schema.target k = m
      · subst htarget
        rw [Function.update_self]
        exact List.mem_append_left _ ht
      · rwa [Function.update_of_ne htarget]
    obtain ⟨t, ht, hid⟩ : ∃ t ∈ db.rows (schema.target k), t.id = i := by
      by_cases hm : schema.source k = m
      · rw [hm, Function.update_self, List.mem_append, List.mem_singleton] at hx
        rcases hx with hx | rfl
        · exact db.sound k x (by rw [hm]; exact hx) i href
        · exact (h.2 k (schema.mem_keys k) hm).2 i href
      · rw [Function.update_of_ne hm] at hx
        exact db.sound k x hx i href
    exact ⟨t, hkeep t ht, hid⟩

def empty : Db where
  rows _ := []
  distinct _ := List.Pairwise.nil
  required _ _ _ h := by cases h
  sound _ _ h := by cases h

/-- New rows, one after the other. -/
def createAll : List (Model × Row) → Db → Option Db
  | [], db => some db
  | (m, r) :: rest, db => if h : Admits db m r then createAll rest (append db m r h) else none

/-- A row that the checks leave free where it is new. -/
def Free (m : Model) (r : Row) : Prop :=
  r.id ≠ "" ∧ m ∉ [Model.movementLog, .eventBranding, .eventBadgeTemplate] ∧
    (r.ref .zoneParentId = none ∧ r.ref .zoneVenueId = none)

instance (m : Model) (r : Row) : Decidable (Free m r) := inferInstanceAs (Decidable (_ ∧ _))

theorem reach_append (hr : Reach db) (hfree : Free m r) (h : Admits db m r) :
    Reach (append db m r h) := by
  obtain ⟨hid, hmodel, hparent, hvenue⟩ := hfree
  have hput : put r (db.rows m) = db.rows m ++ [r] := by
    have hnone : ((db.rows m).any fun x => x.id = r.id) = false := by simpa using h.1
    rw [put, hnone]
    rfl
  refine .write m r hr hid ?_ (by rw [hput]; rfl)
  have hnew : ∀ old ∈ db.rows m, old.id ≠ r.id := h.1
  cases m with
  | zone =>
      refine ⟨fun t _ href => ?_, fun t _ href => ?_, fun old hold hsame => ?_⟩
      · rw [hparent] at href
        cases href
      · rw [hvenue] at href
        cases href
      · exact absurd hsame (hnew old hold)
  | venue => exact fun old hold hsame => absurd hsame (hnew old hold)
  | scanEventRaw => exact fun old hold hsame => absurd hsame (hnew old hold)
  | movementLog => exact absurd (by simp) hmodel
  | eventBranding => exact absurd (by simp) hmodel
  | eventBadgeTemplate => exact absurd (by simp) hmodel
  | _ => trivial

theorem reach_createAll {writes : List (Model × Row)} (hr : Reach db)
    (hfree : ∀ w ∈ writes, Free w.1 w.2) (h : createAll writes db = some db') : Reach db' := by
  induction writes generalizing db with
  | nil =>
      cases h
      exact hr
  | cons w rest ih =>
      simp only [createAll] at h
      split at h
      · next hadmits =>
          exact ih (reach_append hr (hfree w (by simp)) hadmits)
            (fun w' hw' => hfree w' (by simp [hw'])) h
      · cases h

/-- The rows of a model, in the order of their creation. -/
theorem rows_createAll {writes : List (Model × Row)} (h : createAll writes db = some db')
    (m : Model) :
    db'.rows m = db.rows m ++ (writes.filter fun w => w.1 = m).map (·.2) := by
  induction writes generalizing db with
  | nil =>
      cases h
      simp
  | cons w rest ih =>
      simp only [createAll] at h
      split at h
      · rw [ih h]
        by_cases hm : w.1 = m
        · subst hm
          simp [append]
        · simp [append, hm, Function.update_of_ne (Ne.symm hm)]
      · cases h

theorem exists_reach_of_rows (writes : List (Model × Row)) (hfree : ∀ w ∈ writes, Free w.1 w.2)
    (h : (createAll writes empty).isSome = true) :
    ∃ db, Reach db ∧ ∀ m, db.rows m = (writes.filter fun w => w.1 = m).map (·.2) := by
  obtain ⟨db, hdb⟩ := Option.isSome_iff_exists.mp h
  refine ⟨db, reach_createAll (.empty fun _ => rfl) hfree hdb, fun m => ?_⟩
  rw [rows_createAll hdb]
  rfl

end CreativeBackend.Deletion
