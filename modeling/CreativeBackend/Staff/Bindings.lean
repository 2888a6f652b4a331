import CreativeBackend.Staff.ActiveSessions

/-!
# Sessions and their assignments

`start` checks the assignment of the user before the transaction that adds the session, and an
assignment that changes in between ends the sessions that are there, not the one that comes. As long
as the assignment is the same at the transaction, every active session has its assignment.
-/

namespace CreativeBackend.Staff

open Relational Interaction StaffStore

variable {s s' : StaffStore}

/-- The assignment binds its user to the device and the checkpoint of the event. -/
structure Binds (g : StaffAssignment) (eventId userId deviceId checkpointId : Id) : Prop where
  active : g.isActive = true
  event : g.eventId = eventId
  user : g.userId = userId
  device : g.deviceId = some deviceId
  checkpoint : g.checkpointId = some checkpointId

/-- Every active session has an active assignment with its device and checkpoint. -/
def Bound (s : StaffStore) : Prop :=
  ∀ a ∈ s.sessions.rows, a.status = .ACTIVE →
    ∃ g ∈ s.assignments.rows, Binds g a.eventId a.staffUserId a.deviceId a.checkpointId

/-- No active session is of the event and the user of the assignment. -/
def NoSession (s : StaffStore) (g : StaffAssignment) : Prop :=
  ∀ a ∈ s.sessions.rows, a.status = .ACTIVE → ¬ (a.eventId = g.eventId ∧ a.staffUserId = g.userId)

/-- A session is added while the assignment still binds its user, and an update that ends no session
writes the ids that the assignment has, or there is no session to end. -/
def bindingStands (_ : Nat) : StaffCall → World StaffResp Exn StaffStore → Prop
  | .start d _, w => ∃ g ∈ w.store.assignments.rows,
      Binds g d.eventId d.staffUserId d.deviceId d.checkpointId
  | .assignmentUpdate id p, w => ∀ g ∈ w.store.assignments.rows, g.id = id →
      p.deviceId.orKeep g.deviceId = g.deviceId ∧
        p.checkpointId.orKeep g.checkpointId = g.checkpointId ∨ NoSession w.store g
  | _, _ => True

/-- A session that continues needs the assignment that it had. -/
theorem Bound.of_continues (h : Bound s) {a b : Session} (ha : a ∈ s.sessions.rows)
    (hab : a.Continues b) (hb : b.status = .ACTIVE) :
    ∃ g ∈ s.assignments.rows, Binds g b.eventId b.staffUserId b.deviceId b.checkpointId := by
  obtain ⟨g, hg, hbinds⟩ := h a ha (hab.active hb)
  refine ⟨g, hg, ?_⟩
  rw [← hab.event, ← hab.user, ← hab.device, ← hab.checkpoint]
  exact hbinds

theorem Bound.reassigns {scope : Id → Id → Prop} (h : Bound s) (hr : s.Reassigns scope s') :
    Bound s' := by
  intro b hb hactive
  obtain ⟨a, ha, -, hab⟩ := hr.continues.rows b hb
  obtain ⟨g, hg, hbinds⟩ := h.of_continues ha hab hactive
  refine ⟨g, hr.kept g hg ?_, hbinds⟩
  rw [hbinds.event, hbinds.user]
  exact hr.ended b hb hactive

theorem Bound.starts {d : NewSession} (h : Bound s) (hs : Starts d s s')
    (hbound : ∃ g ∈ s.assignments.rows, Binds g d.eventId d.staffUserId d.deviceId d.checkpointId) :
    Bound s' := by
  obtain ⟨⟨t, data, row, hr, -, hcreate, hevent, huser, hdevice, hcheckpoint⟩, hassignments⟩ := hs
  intro b hb hactive
  rw [hassignments]
  rcases (Table.mem_create hcreate).mp hb with hold | rfl
  · obtain ⟨a, ha, -, hab⟩ := hr.rows b hold
    exact h.of_continues ha hab hactive
  · rwa [hevent, huser, hdevice, hcheckpoint]

theorem Bound.updated {id : Id} {p : AssignmentInput} {row : StaffAssignment}
    {t : Table StaffAssignment} (h : Bound s) (hp : p.isActive.value? = none)
    (hu : s.assignments.update id (applyInput s.clock p) = .done row t)
    (hsame : ∀ g ∈ s.assignments.rows, g.id = id →
      p.deviceId.orKeep g.deviceId = g.deviceId ∧
        p.checkpointId.orKeep g.checkpointId = g.checkpointId ∨ NoSession s g) :
    Bound { s with assignments := t } := by
  intro a ha hactive
  obtain ⟨g, hg, hbinds⟩ := h a ha hactive
  by_cases hid : g.id = id
  · obtain ⟨g', hg', hkey, hrow, -, -⟩ := Table.update_eq_done hu
    obtain rfl : g' = g := s.assignments.eq_of_key hg' hg (hkey.trans hid.symm)
    rcases hsame g' hg hid with ⟨hdevice, hcheckpoint⟩ | hnone
    · refine ⟨row, (Table.mem_update hu).mpr (.inr rfl), ?_⟩
      rw [hrow]
      constructor
      · change p.isActive.value?.getD g'.isActive = true
        rw [hp]
        exact hbinds.active
      · exact hbinds.event
      · exact hbinds.user
      · exact hdevice.trans hbinds.device
      · exact hcheckpoint.trans hbinds.checkpoint
    · exact absurd ⟨hbinds.event.symm, hbinds.user.symm⟩ (hnone a ha hactive)
  · exact ⟨g, (Table.mem_update hu).mpr (.inl ⟨hg, hid⟩), hbinds⟩

/-- What one call keeps. -/
theorem Bound.effect {t : Nat} {c : StaffCall} {w : World StaffResp Exn StaffStore}
    (h : Bound w.store) (hp : bindingStands t c w) (he : w.store.Effect c s') : Bound s' := by
  cases he with
  | reassigned scope he => exact h.reassigns he
  | started hs => exact h.starts hs hp
  | updated hactive hu => exact h.updated hactive hu hp

/-- In a run in which the assignment still stands whenever a session is added, every active session
has its assignment. -/
theorem bound_of_reach {s₀ : StaffStore} (h₀ : Bound s₀) {cfg : StaffConfig}
    (hr : (staffService.system.restrict bindingStands).Reach (Service.init s₀) cfg) :
    Bound cfg.world.store := by
  have hsound := store_of_sound (I := Bound) (fun _ _ _ _ hi hp he => hi.effect hp he)
    (fun s s' hs ha hi => by unfold Bound; rwa [hs, ha]) (sound_init s₀) h₀ hr
  exact hsound.2

/-! ## A start and a deactivation -/

instance (g : StaffAssignment) (eventId userId deviceId checkpointId : Id) :
    Decidable (Binds g eventId userId deviceId checkpointId) :=
  decidable_of_iff (g.isActive = true ∧ g.eventId = eventId ∧ g.userId = userId ∧
      g.deviceId = some deviceId ∧ g.checkpointId = some checkpointId)
    ⟨fun ⟨ha, he, hu, hd, hc⟩ => ⟨ha, he, hu, hd, hc⟩,
      fun h => ⟨h.active, h.event, h.user, h.device, h.checkpoint⟩⟩

instance (s : StaffStore) : Decidable (Bound s) :=
  inferInstanceAs (Decidable (∀ a ∈ s.sessions.rows, _))

instance (s : StaffStore) (g : StaffAssignment) : Decidable (NoSession s g) :=
  inferInstanceAs (Decidable (∀ a ∈ s.sessions.rows, _))

instance (t : Nat) (c : StaffCall) (w : World StaffResp Exn StaffStore) :
    Decidable (bindingStands t c w) := by
  cases c with
  | start d now => exact inferInstanceAs (Decidable (∃ g ∈ w.store.assignments.rows, _))
  | assignmentUpdate id p =>
      exact inferInstanceAs (Decidable (∀ g ∈ w.store.assignments.rows, _))
  | _ => exact inferInstanceAs (Decidable True)

theorem gateStore_bound : Bound gateStore := fun a ha => by cases ha

/-- A start that nothing disturbs leaves an active session with its assignment. -/
theorem start_bound : ∃ cfg : StaffConfig,
    (staffService.system.restrict bindingStands).Reach (Service.init gateStore) cfg ∧
      cfg.world.store.sessions.rows.any isActive = true ∧ Bound cfg.world.store := by
  obtain ⟨cfg, hr, hactive⟩ := Service.exists_reach_of_perform bindingStands
    (interleaving [startGate] [(0, 7)]) (Service.init gateStore)
    (fun s => s.sessions.rows.any isActive) (legal_interleaving _ _) (by decide +kernel)
  exact ⟨cfg, hr, hactive, bound_of_reach gateStore_bound hr⟩

/-- The assignment is deactivated between the check of a start and its transaction. The session that
is added then stays active without an assignment. -/
theorem session_outlives_assignment : Bound gateStore ∧ ∃ cfg : StaffConfig,
    staffService.system.Reach (Service.init gateStore) cfg ∧
      cfg.pool.all System.finished = true ∧ ¬ Bound cfg.world.store := by
  refine ⟨gateStore_bound, ?_⟩
  obtain ⟨cfg, hr, hdone⟩ := Service.exists_config_of_perform (fun _ _ _ => True)
    (interleaving [startGate, .deactivate "c0"] [(0, 6), (1, 4), (0, 1)]) (Service.init gateStore)
    (fun cfg => cfg.pool.all System.finished && !decide (Bound cfg.world.store))
    (legal_interleaving _ _) (by decide +kernel)
  rw [System.restrict_true] at hr
  simp only [Bool.and_eq_true, Bool.not_eq_true', decide_eq_false_iff_not] at hdone
  exact ⟨cfg, hr, hdone⟩

end CreativeBackend.Staff
