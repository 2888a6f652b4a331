import CreativeBackend.Relational.Alone
import CreativeBackend.Staff.Services

/-!
# What the calls of the staff services do

Only the transaction of `start` adds a session, and ends the others of its user and of its device
first. A transaction that reassigns a user ends the sessions of that user, and leaves the
assignments of the others alone.
-/

namespace CreativeBackend.Staff

open Relational Interaction

/-! ## Rows -/

/-- The session that it was, unless it has ended since. -/
structure Session.Continues (a b : Session) : Prop where
  event : a.eventId = b.eventId
  user : a.staffUserId = b.staffUserId
  device : a.deviceId = b.deviceId
  checkpoint : a.checkpointId = b.checkpointId
  active : b.status = .ACTIVE → a.status = .ACTIVE

theorem Session.Continues.refl (a : Session) : a.Continues a := ⟨rfl, rfl, rfl, rfl, fun h => h⟩

theorem Session.Continues.trans (a b c : Session) (h : a.Continues b) (h' : b.Continues c) :
    a.Continues c where
  event := h.event.trans h'.event
  user := h.user.trans h'.user
  device := h.device.trans h'.device
  checkpoint := h.checkpoint.trans h'.checkpoint
  active hc := h.active (h'.active hc)

/-- The event and the user that an assignment is for. -/
def assignee (a : StaffAssignment) : Id × Id := (a.eventId, a.userId)

namespace StaffStore

variable {s s' : StaffStore} {now : Time}

/-! ## Statements -/

theorem commit_cases {α : Type} {x : Except Exn (α × StaffStore)} {r : Except Exn α}
    (h : s.commit x = (r, s')) : s' = s ∨ ∃ a, x = .ok (a, s') := by
  rcases x with e | ⟨a, s₁⟩
  · cases h
    exact .inl rfl
  · cases h
    exact .inr ⟨a, rfl⟩

theorem continues_endSession (where_ : Session → Bool) (now : Time) (a : Session) :
    a.Continues (endSession where_ now a) := by
  unfold endSession
  split
  · exact ⟨rfl, rfl, rfl, rfl, fun h => by cases h⟩
  · exact .refl a

theorem endSessions_continues (where_ : Session → Bool) :
    s.sessions.Remains Session.Continues (s.endSessions where_ now).sessions :=
  .mapRows _ (endSession_id where_ now) (fun _ _ h => h) (continues_endSession where_ now)

/-- What is still active after `updateMany` did not meet its condition. -/
theorem not_of_endSessions {where_ : Session → Bool} {b : Session}
    (hb : b ∈ (s.endSessions where_ now).sessions.rows) (hactive : b.status = .ACTIVE) :
    where_ b = false := by
  obtain ⟨a, -, rfl⟩ := List.mem_map.mp hb
  unfold endSession at hactive ⊢
  split at hactive
  · cases hactive
  · next hnot =>
      rw [if_neg hnot]
      cases hw : where_ a with
      | false => rfl
      | true => exact absurd ⟨hactive, hw⟩ hnot

theorem updateSession_eq_ok {id : Id} {f : Session → Session} {v : SessionView}
    (h : s.updateSession id f = .ok (v, s')) : ∃ row t, s.sessions.update id f = .done row t ∧
      s' = { s with sessions := t } := by
  unfold updateSession at h
  split at h
  · cases h
  · cases h
  · next row t hu =>
      cases h
      exact ⟨row, t, hu, rfl⟩

theorem touchDevice_eq_ok {id : Id} (h : s.touchDevice id now = .ok s') :
    s'.sessions = s.sessions ∧ s'.assignments = s.assignments := by
  unfold touchDevice at h
  split at h
  · cases h
  · cases h
  · cases h
    exact ⟨rfl, rfl⟩

/-- A new session, as `createSession` stores it. -/
theorem createSession_eq_ok {d : NewSession} {v : SessionView}
    (h : s.createSession d now = .ok (v, s')) : ∃ data row t,
      s.sessions.create data = some (row, t) ∧ s' = { s with sessions := t } ∧
        row.eventId = d.eventId ∧ row.staffUserId = d.staffUserId ∧ row.deviceId = d.deviceId ∧
          row.checkpointId = d.checkpointId := by
  unfold createSession at h
  split at h
  · split at h
    · cases h
    · next row t hcreate =>
        cases h
        obtain ⟨hrow, -, -⟩ := Table.create_eq_some hcreate
        exact ⟨_, row, t, hcreate, rfl, by rw [hrow]; exact ⟨rfl, rfl, rfl, rfl⟩⟩
  · cases h

theorem not_of_deactivateAssignments {where_ : StaffAssignment → Bool} {b : StaffAssignment}
    (hb : b ∈ (s.deactivateAssignments where_).assignments.rows) (hactive : b.isActive = true) :
    where_ b = false := by
  obtain ⟨a, -, rfl⟩ := List.mem_map.mp hb
  unfold deactivate at hactive ⊢
  split at hactive
  · cases hactive
  · next hnot =>
      rw [if_neg hnot]
      cases hw : where_ a with
      | false => rfl
      | true => exact absurd ⟨hactive, hw⟩ hnot

theorem mem_deactivateAssignments {where_ : StaffAssignment → Bool} {g : StaffAssignment}
    (hg : g ∈ s.assignments.rows) (hw : where_ g = false) :
    g ∈ (s.deactivateAssignments where_).assignments.rows := by
  refine List.mem_map.mpr ⟨g, hg, ?_⟩
  simp [deactivate, hw]

theorem updateAssignment_eq_ok {id : Id} {p : AssignmentInput} {row : StaffAssignment}
    (h : s.updateAssignment id p = .ok (row, s')) : ∃ t,
      s.assignments.update id (applyInput s.clock p) = .done row t ∧
        s' = { s with assignments := t } := by
  unfold updateAssignment at h
  split at h
  · cases h
  · split at h
    · split at h
      · cases h
      · cases h
      · next row' t hu =>
          cases h
          exact ⟨t, hu, rfl⟩
    · cases h

theorem createAssignment_eq_ok {dto : CreateStaffAssignmentDto} {row : StaffAssignment}
    (h : s.createAssignment dto = .ok (row, s')) : ∃ data t,
      s.assignments.create data = some (row, t) ∧ s' = { s with assignments := t } ∧
        row.userId = dto.userId := by
  unfold createAssignment at h
  split at h
  · split at h
    · cases h
    · next row' t hcreate =>
        cases h
        obtain ⟨hrow, -, -⟩ := Table.create_eq_some hcreate
        exact ⟨_, t, hcreate, rfl, by rw [hrow]; rfl⟩
  · cases h

/-! ## Assignments -/

/-- An active assignment is the only one of its user. -/
abbrev OneAssignment (s : StaffStore) : Prop :=
  s.assignments.Alone (·.isActive = true) (·.userId)

/-- What a call may do to the assignments whose event and user are in the scope. -/
structure Reassigns (scope : Id → Id → Prop) (s s' : StaffStore) : Prop where
  continues : s.sessions.Remains Session.Continues s'.sessions
  ended : ∀ b ∈ s'.sessions.rows, b.status = .ACTIVE → ¬ scope b.eventId b.staffUserId
  kept : ∀ g ∈ s.assignments.rows, ¬ scope g.eventId g.userId → g ∈ s'.assignments.rows
  retains : s.assignments.Retains assignee s'.assignments
  one : s.OneAssignment → s'.OneAssignment

/-- A call that leaves the assignments alone reassigns nobody. -/
theorem Reassigns.of_sessions (h : s.sessions.Remains Session.Continues s'.sessions)
    (ha : s'.assignments = s.assignments) : s.Reassigns (fun _ _ => False) s' where
  continues := h
  ended _ _ _ h := h
  kept g hg _ := ha ▸ hg
  retains := .of_eq ha
  one h := by rwa [OneAssignment, ha]

theorem Reassigns.refl (s : StaffStore) : s.Reassigns (fun _ _ => False) s :=
  .of_sessions (.refl .refl _) rfl

theorem deactivateAssignments_retains (where_ : StaffAssignment → Bool) :
    s.assignments.Retains assignee (s.deactivateAssignments where_).assignments := by
  refine .mapRows _ (deactivate_id where_ s.clock) (clash_of_deactivate where_ s.clock) fun a => ?_
  obtain ⟨he, hu⟩ := deactivate_keys where_ s.clock a
  exact Prod.ext he hu

theorem OneAssignment.deactivateAssignments (h : s.OneAssignment) (where_ : StaffAssignment → Bool) :
    (s.deactivateAssignments where_).OneAssignment := by
  apply Table.Alone.remains h
  refine .mapRows _ (deactivate_id where_ s.clock) (clash_of_deactivate where_ s.clock) fun a hb => ?_
  refine ⟨?_, (deactivate_keys where_ s.clock a).2.symm⟩
  unfold deactivate at hb
  split at hb
  · cases hb
  · exact hb

/-- The columns of an assignment that an update writes do not include the keys. -/
theorem update_retains {id : Id} {p : AssignmentInput} {row : StaffAssignment}
    {t : Table StaffAssignment}
    (hu : s.assignments.update id (applyInput now p) = .done row t) :
    s.assignments.Retains assignee t :=
  .update hu fun _ => rfl

/-- The user of an updated assignment. -/
theorem assignee_of_update {id : Id} {p : AssignmentInput} {row : StaffAssignment}
    {t : Table StaffAssignment} {k : Id × Id}
    (hu : s.assignments.update id (applyInput now p) = .done row t)
    (hhas : s.assignments.Has assignee id k) : assignee row = k := by
  obtain ⟨a, ha, hak, hrow, -, -⟩ := Table.update_eq_done hu
  rw [hrow]
  change assignee a = k
  exact hhas.eq ha hak

/-- An update that does not activate an assignment. -/
theorem one_of_update {id : Id} {p : AssignmentInput} {row : StaffAssignment}
    {t : Table StaffAssignment} (hp : p.isActive.value? ≠ some true)
    (hu : s.assignments.update id (applyInput now p) = .done row t) (h : s.OneAssignment) :
    t.Alone (·.isActive = true) (·.userId) := by
  apply Table.Alone.remains h
  refine .update hu (fun a ha => ⟨ha, rfl⟩) fun a ha => ⟨?_, rfl⟩
  change p.isActive.value?.getD a.isActive = true at ha
  cases hv : p.isActive.value? with
  | none => rwa [hv] at ha
  | some v =>
      rw [hv] at ha hp
      exact absurd (congrArg some ha) hp

/-! ## Transactions -/

/-- The transaction of `create` reassigns the user. -/
theorem assign_reassigns {dto : CreateStaffAssignmentDto} {row : StaffAssignment}
    (h : s.assign dto now = .ok (row, s')) : s.Reassigns (fun _ user => user = dto.userId) s' := by
  set s₁ := (s.endSessions (fun a => a.staffUserId = dto.userId) now).deactivateAssignments
    (fun a => a.userId = dto.userId) with hs₁
  have hidle : ∀ a ∈ s₁.assignments.rows, a.isActive = true → a.userId ≠ dto.userId := by
    intro a ha hactive
    simpa using not_of_deactivateAssignments ha hactive
  have hkept : ∀ g ∈ s.assignments.rows, ¬ g.userId = dto.userId → g ∈ s₁.assignments.rows :=
    fun g hg hne => mem_deactivateAssignments hg (by simpa using hne)
  have hretains : s.assignments.Retains assignee s₁.assignments := deactivateAssignments_retains _
  have hone : s.OneAssignment → s₁.OneAssignment := fun h => h.deactivateAssignments _
  have hwritten : ∃ t, s' = { s₁ with assignments := t } ∧
      (∀ g ∈ s₁.assignments.rows, g.userId ≠ dto.userId → g ∈ t.rows) ∧
      s₁.assignments.Retains assignee t ∧ (s₁.OneAssignment → t.Alone (·.isActive = true) (·.userId)) := by
    simp only [assign, ← hs₁] at h
    split at h
    · next existing hfind =>
        have hmem := List.mem_of_find?_eq_some hfind
        obtain ⟨-, huser⟩ : existing.eventId = dto.eventId ∧ existing.userId = dto.userId := by
          simpa using List.find?_some hfind
        obtain ⟨t, hu, rfl⟩ := updateAssignment_eq_ok h
        refine ⟨t, rfl, ?_, update_retains hu, ?_⟩
        · intro g hg hne
          refine (Table.mem_update hu).mpr (.inl ⟨hg, fun hk => hne ?_⟩)
          rw [s₁.assignments.eq_of_key hg hmem hk, huser]
        · intro hone₁
          have hrow : row.userId = dto.userId :=
            (congrArg Prod.snd (assignee_of_update hu (.of_mem hmem))).trans huser
          apply hone₁.update hu
          intro a ha _ hactive
          rw [hrow]
          exact hidle a ha hactive
    · obtain ⟨data, t, hcreate, rfl, hrow⟩ := createAssignment_eq_ok h
      refine ⟨t, rfl, ?_, .create hcreate, ?_⟩
      · exact fun g hg _ => (Table.mem_create hcreate).mpr (.inl hg)
      · intro hone₁
        apply hone₁.create hcreate
        intro a ha hactive
        rw [hrow]
        exact hidle a ha hactive
  obtain ⟨t, rfl, hkept', hretains', hone'⟩ := hwritten
  constructor
  · exact endSessions_continues _
  · intro b hb hactive
    simpa using not_of_endSessions hb hactive
  · exact fun g hg hne => hkept' g (hkept g hg hne) hne
  · exact hretains.trans hretains'
  · exact fun h => hone' (hone h)

/-- The transaction that activates an assignment of a user reassigns the user. -/
theorem activate_reassigns {userId id : Id} {p : AssignmentInput} {row : StaffAssignment}
    {eventId : Id} (hhas : s.assignments.Has assignee id (eventId, userId))
    (h : s.activate userId id p now = .ok (row, s')) :
    s.Reassigns (fun _ user => user = userId) s' := by
  set s₁ := (s.endSessions (fun a => a.staffUserId = userId) now).deactivateAssignments
    (fun a => a.userId = userId ∧ a.id ≠ id) with hs₁
  have hretains : s.assignments.Retains assignee s₁.assignments := deactivateAssignments_retains _
  have hhas₁ : s₁.assignments.Has assignee id (eventId, userId) := hhas.retained hretains
  obtain ⟨t, hu, rfl⟩ := updateAssignment_eq_ok h
  have hrow : row.userId = userId := congrArg Prod.snd (assignee_of_update hu hhas₁)
  constructor
  · exact endSessions_continues _
  · intro b hb hactive
    simpa using not_of_endSessions hb hactive
  · intro g hg hne
    have hg₁ : g ∈ s₁.assignments.rows := by
      apply mem_deactivateAssignments hg
      simp only [decide_eq_false_iff_not]
      exact fun hboth => hne hboth.1
    refine (Table.mem_update hu).mpr (.inl ⟨hg₁, fun hk => hne ?_⟩)
    exact congrArg Prod.snd (hhas₁.eq hg₁ hk)
  · exact hretains.trans (update_retains hu)
  · intro hone
    have hone₁ : s₁.OneAssignment := hone.deactivateAssignments _
    apply hone₁.update hu
    intro a ha hk hactive
    rw [hrow]
    have hnot := not_of_deactivateAssignments ha hactive
    simp only [decide_eq_false_iff_not, not_and] at hnot
    exact fun huser => hnot huser hk

/-- The transaction that changes an assignment, or deactivates it, reassigns its user at its
event. -/
theorem change_reassigns {eventId userId id : Id} {p : AssignmentInput} {row : StaffAssignment}
    (hhas : s.assignments.Has assignee id (eventId, userId)) (hp : p.isActive.value? ≠ some true)
    (h : s.change eventId userId id p now = .ok (row, s')) :
    s.Reassigns (fun event user => event = eventId ∧ user = userId) s' := by
  obtain ⟨t, hu, rfl⟩ := updateAssignment_eq_ok h
  constructor
  · exact endSessions_continues _
  · intro b hb hactive
    have hnot := not_of_endSessions hb hactive
    simpa only [decide_eq_false_iff_not] using hnot
  · intro g hg hne
    refine (Table.mem_update hu).mpr (.inl ⟨hg, fun hk => hne ?_⟩)
    exact Prod.mk.inj (hhas.eq hg hk)
  · exact update_retains hu
  · exact one_of_update hp hu

/-- The transaction that reuses a session only ends others. -/
theorem reuse_reassigns {userId deviceId sessionId : Id} {assignment : StaffAssignment}
    {v : SessionView} (h : s.reuse userId assignment deviceId sessionId now = .ok (v, s')) :
    s.Reassigns (fun _ _ => False) s' := by
  obtain ⟨⟨v₁, s₁⟩, hsession, h⟩ := Except.exists_of_bind_eq_ok h
  obtain ⟨s₂, htouch, h⟩ := Except.exists_of_bind_eq_ok h
  cases h
  obtain ⟨row, t, hu, rfl⟩ := updateSession_eq_ok hsession
  obtain ⟨hsessions, hassignments⟩ := touchDevice_eq_ok htouch
  refine .of_sessions ?_ hassignments
  rw [hsessions]
  refine (endSessions_continues _).trans .trans (.update hu .refl ?_)
  exact fun a => ⟨rfl, rfl, rfl, rfl, fun h => h⟩

/-- What the transaction of `start` does: the active sessions of the user and of the device end, and
one is added. -/
structure Starts (d : NewSession) (s s' : StaffStore) : Prop where
  added : ∃ t data row, s.sessions.Remains Session.Continues t ∧
    (∀ a ∈ t.rows, a.status = .ACTIVE → a.staffUserId ≠ d.staffUserId ∧
      ¬ (a.eventId = d.eventId ∧ a.deviceId = d.deviceId)) ∧
    t.create data = some (row, s'.sessions) ∧ row.eventId = d.eventId ∧
      row.staffUserId = d.staffUserId ∧ row.deviceId = d.deviceId ∧
        row.checkpointId = d.checkpointId
  assignments : s'.assignments = s.assignments

theorem starts_of_start {d : NewSession} {v : SessionView} (h : s.start d now = .ok (v, s')) :
    Starts d s s' := by
  set s₁ := s.endSessions (fun a => a.staffUserId = d.staffUserId) now with hs₁
  set s₂ := s₁.endSessions (fun a => a.eventId = d.eventId ∧ a.deviceId = d.deviceId) now with hs₂
  obtain ⟨⟨v₁, s₃⟩, hsession, h⟩ := Except.exists_of_bind_eq_ok h
  obtain ⟨s₄, htouch, h⟩ := Except.exists_of_bind_eq_ok h
  cases h
  obtain ⟨data, row, t, hcreate, rfl, hrow⟩ := createSession_eq_ok hsession
  obtain ⟨hsessions, hassignments⟩ := touchDevice_eq_ok htouch
  have hlater : s₁.sessions.Remains Session.Continues s₂.sessions := endSessions_continues _
  refine ⟨⟨s₂.sessions, data, row, (endSessions_continues _).trans .trans hlater, ?_, ?_, hrow⟩,
    hassignments⟩
  · intro a ha hactive
    constructor
    · obtain ⟨b, hb, -, hab⟩ := hlater.rows a ha
      have hnot := not_of_endSessions hb (hab.active hactive)
      rw [← hab.user]
      simpa using hnot
    · have hnot := not_of_endSessions ha hactive
      simpa only [decide_eq_false_iff_not] using hnot
  · rw [hsessions]
    exact hcreate

/-! ## Calls -/

/-- What the store says about the rows that a call names. -/
def Informed (s : StaffStore) : StaffCall → Prop
  | .activate userId id _ _ => ∃ eventId, s.assignments.Has assignee id (eventId, userId)
  | .change eventId userId id p _ =>
      s.assignments.Has assignee id (eventId, userId) ∧ p.isActive.value? ≠ some true
  | .assignmentUpdate _ p => p.isActive.value? = none
  | _ => True

/-- What a call does to the sessions and the assignments. -/
inductive Effect (s : StaffStore) : StaffCall → StaffStore → Prop
  | reassigned {c s'} (scope : Id → Id → Prop) (h : s.Reassigns scope s') : Effect s c s'
  | started {d now s'} (h : Starts d s s') : Effect s (.start d now) s'
  | updated {id p row t} (hp : p.isActive.value? = none)
      (h : s.assignments.update id (applyInput s.clock p) = .done row t) :
      Effect s (.assignmentUpdate id p) { s with assignments := t }

end StaffStore

open StaffStore

variable {s s' : StaffStore}

theorem effect_of_machine {ch : Choice} {c : StaffCall} {x : Except Exn (StaffResp c)}
    (hc : s.Informed c) (h : staffMachine ch c s = (x, s')) : s.Effect c s' := by
  have hread : ∀ {a : StaffResp c}, staffQuery s a = (x, s') → s.Effect c s' := by
    intro a heq
    cases heq
    exact .reassigned _ (.refl s)
  cases c with
  | sessionsEnd ids now =>
      cases h
      exact .reassigned _ (.of_sessions (endSessions_continues _) rfl)
  | sessionEnd id now =>
      rcases commit_cases h with rfl | ⟨v, hdone⟩
      · exact .reassigned _ (.refl s')
      · obtain ⟨row, t, hu, rfl⟩ := updateSession_eq_ok hdone
        refine .reassigned _ (.of_sessions (.update hu .refl fun a => ?_) rfl)
        exact ⟨rfl, rfl, rfl, rfl, fun hended => by cases hended⟩
  | assignmentUpdate id p =>
      rcases commit_cases h with rfl | ⟨row, hdone⟩
      · exact .reassigned _ (.refl s')
      · obtain ⟨t, hu, rfl⟩ := updateAssignment_eq_ok hdone
        exact .updated hc hu
  | start d now =>
      rcases commit_cases h with rfl | ⟨v, hdone⟩
      · exact .reassigned _ (.refl s')
      · exact .started (starts_of_start hdone)
  | reuse userId assignment deviceId sessionId now =>
      rcases commit_cases h with rfl | ⟨v, hdone⟩
      · exact .reassigned _ (.refl s')
      · exact .reassigned _ (reuse_reassigns hdone)
  | assign dto now =>
      rcases commit_cases h with rfl | ⟨row, hdone⟩
      · exact .reassigned _ (.refl s')
      · exact .reassigned _ (assign_reassigns hdone)
  | activate userId id p now =>
      obtain ⟨eventId, hhas⟩ := hc
      rcases commit_cases h with rfl | ⟨row, hdone⟩
      · exact .reassigned _ (.refl s')
      · exact .reassigned _ (activate_reassigns hhas hdone)
  | change eventId userId id p now =>
      rcases commit_cases h with rfl | ⟨row, hdone⟩
      · exact .reassigned _ (.refl s')
      · exact .reassigned _ (change_reassigns hc.1 hc.2 hdone)
  | _ => exact hread h

/-- A call that fails by itself has no effect. -/
theorem effect_of_outcome {c : StaffCall} {x : Except Exn (StaffResp c)} (hc : s.Informed c)
    (h : staffService.Outcome c s x s') : s.Effect c s' := by
  rcases h with ⟨ch, h⟩ | ⟨-, rfl, -⟩
  · exact effect_of_machine hc h
  · exact .reassigned _ (.refl s')

/-- No call changes the event or the user of an assignment. -/
theorem StaffStore.Effect.retains {c : StaffCall} (h : s.Effect c s') :
    s.assignments.Retains assignee s'.assignments := by
  cases h with
  | reassigned scope h => exact h.retains
  | started h => exact .of_eq h.assignments
  | updated hp h => exact update_retains h

end CreativeBackend.Staff
