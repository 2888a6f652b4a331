import CreativeBackend.Interaction.OwnLog
import CreativeBackend.Staff.Effects

/-!
# Runs of the staff services

An operation on an assignment names the event and the user that it read with the assignment, and
both stay. So each call knows the assignment that it changes, and what one call keeps of the store,
a run keeps.
-/

namespace CreativeBackend.Staff

open Relational Interaction StaffStore

abbrev StaffEvent := Interaction.Event StaffResp Exn StaffStore

abbrev StaffConfig := Interaction.Config StaffResp Exn (World StaffResp Exn StaffStore)

/-- The assignment that a call found under an id. -/
def found? (id : Id) : StaffEvent → Option StaffAssignment
  | ⟨_, .assignmentById i, .ok (some a), _⟩ => if i = id then some a else none
  | _ => none

/-- The log has found the assignment. -/
def Found (log : List StaffEvent) (id : Id) (a : StaffAssignment) : Prop :=
  ∃ e ∈ log, found? id e = some a

theorem Found.cons {log : List StaffEvent} {id : Id} {a : StaffAssignment} (h : Found log id a)
    (e : StaffEvent) : Found (e :: log) id a := by
  obtain ⟨x, hx, hfound⟩ := h
  exact ⟨x, List.mem_cons_of_mem e hx, hfound⟩

/-- What a program has found out before a call. -/
def staffRule (log : List StaffEvent) : StaffCall → Prop
  | .activate userId id _ _ => ∃ a, Found log id a ∧ a.userId = userId
  | .change eventId userId id p _ =>
      (∃ a, Found log id a ∧ assignee a = (eventId, userId)) ∧ p.isActive.value? ≠ some true
  | .assignmentUpdate _ p => p.isActive.value? = none
  | _ => True

/-- The calls that need not have found out anything. -/
def StaffCall.free : StaffCall → Bool
  | .activate _ _ _ _ => false
  | .change _ _ _ _ _ => false
  | .assignmentUpdate _ _ => false
  | _ => true

theorem staffRule_of_free {c : StaffCall} (hc : c.free = true) (log : List StaffEvent) :
    staffRule log c := by
  cases c <;> trivial

/-- The calls that the end of an operation on an assignment makes. -/
def Concerns (id : Id) (a : StaffAssignment) : StaffCall → Prop
  | .activate userId i _ _ => i = id ∧ userId = a.userId
  | .change eventId userId i p _ =>
      i = id ∧ eventId = a.eventId ∧ userId = a.userId ∧ p.isActive.value? ≠ some true
  | .assignmentUpdate _ p => p.isActive.value? = none
  | _ => True

theorem concerns_of_free {id : Id} {a : StaffAssignment} {c : StaffCall} (hc : c.free = true) :
    Concerns id a c := by
  cases c <;> trivial

theorem staffRule_of_concerns {id : Id} {a : StaffAssignment} {c : StaffCall}
    {log : List StaffEvent} (hlog : Found log id a) (hc : Concerns id a c) : staffRule log c := by
  cases c with
  | activate userId i p now =>
      obtain ⟨rfl, rfl⟩ := hc
      exact ⟨a, hlog, rfl⟩
  | change eventId userId i p now =>
      obtain ⟨rfl, rfl, rfl, hp⟩ := hc
      exact ⟨⟨a, hlog, rfl⟩, hp⟩
  | assignmentUpdate i p => exact hc
  | _ => trivial

/-! ## The calls of the operations -/

section Calls

variable {α : Type}

/-- Every call of the program is free. -/
abbrev AllFree (p : StaffSvc α) : Prop := p.All fun c => c.free = true

theorem all_staffCall {c : StaffCall} (hc : c.free = true) : AllFree (staffCall c) :=
  Prog.all_call hc

theorem all_ensureEventCanBeModified (eventId : Id) : AllFree (ensureEventCanBeModified eventId) := by
  refine Prog.all_bind (all_staffCall rfl) fun event => ?_
  cases event with
  | none => trivial
  | some event => exact Prog.all_ite trivial trivial

theorem all_ensureStaffUser (userId : Id) : AllFree (ensureStaffUser userId) := by
  refine Prog.all_bind (all_staffCall rfl) fun user => ?_
  cases user with
  | none => trivial
  | some user => exact Prog.all_ite trivial (Prog.all_ite trivial trivial)

theorem all_ensureDeviceBelongsToEvent (deviceId eventId : Id) :
    AllFree (ensureDeviceBelongsToEvent deviceId eventId) := by
  refine Prog.all_bind (all_staffCall rfl) fun device => ?_
  cases device with
  | none => trivial
  | some device => exact Prog.all_ite trivial (Prog.all_ite trivial trivial)

theorem all_ensureCheckpointBelongsToEvent (checkpointId eventId : Id) :
    AllFree (ensureCheckpointBelongsToEvent checkpointId eventId) := by
  refine Prog.all_bind (all_staffCall rfl) fun checkpoint => ?_
  cases checkpoint with
  | none => trivial
  | some checkpoint => exact Prog.all_ite trivial (Prog.all_ite trivial trivial)

namespace StaffSessionsService

theorem all_ensureActiveAssignmentBinding (eventId staffUserId deviceId checkpointId : Id) :
    AllFree (ensureActiveAssignmentBinding eventId staffUserId deviceId checkpointId) := by
  refine Prog.all_bind (all_staffCall rfl) fun assignment => ?_
  cases assignment with
  | none => trivial
  | some assignment =>
      refine Prog.all_ite trivial ?_
      split
      · trivial
      · trivial
      · exact Prog.all_ite trivial (Prog.all_ite trivial trivial)

theorem all_resolveStaffUserId (currentUser : AuthUser) (staffUserId : Option Id) :
    AllFree (resolveStaffUserId currentUser staffUserId) := by
  unfold resolveStaffUserId
  split
  · exact Prog.all_ite trivial trivial
  · split <;> trivial
  · trivial

theorem all_start (currentUser : AuthUser) (dto : StartStaffSessionDto) :
    AllFree (start currentUser dto) := by
  refine Prog.all_bind (all_resolveStaffUserId _ _) fun staffUserId => ?_
  refine Prog.all_bind (all_ensureEventCanBeModified _) fun _ => ?_
  refine Prog.all_bind (all_ensureStaffUser _) fun _ => ?_
  refine Prog.all_bind (all_ensureDeviceBelongsToEvent _ _) fun device => ?_
  refine Prog.all_bind (all_ensureCheckpointBelongsToEvent _ _) fun checkpoint => ?_
  refine Prog.all_bind (all_ensureActiveAssignmentBinding _ _ _ _) fun _ => ?_
  refine Prog.all_ite trivial ?_
  exact Prog.all_bind (all_staffCall rfl) fun now => all_staffCall rfl

theorem all_usableAssignment (userId : Id) : AllFree (usableAssignment userId) := by
  refine Prog.all_bind (all_staffCall rfl) fun view => ?_
  cases view with
  | none => trivial
  | some view =>
      dsimp only
      split
      · split
        · exact Prog.all_ite trivial (Prog.all_ite trivial trivial)
        · trivial
      · trivial

theorem all_startMySession (currentUser : AuthUser) : AllFree (startMySession currentUser) := by
  refine Prog.all_ite trivial ?_
  refine Prog.all_bind (all_ensureStaffUser _) fun _ => ?_
  refine Prog.all_bind (all_usableAssignment _) fun usable => ?_
  refine Prog.all_bind (all_staffCall rfl) fun now => ?_
  refine Prog.all_bind (all_staffCall rfl) fun reusable => ?_
  cases reusable with
  | none => exact Prog.all_bind (all_start _ _) fun _ => trivial
  | some reusable => exact Prog.all_bind (all_staffCall rfl) fun _ => trivial

theorem all_endMySession (currentUser : AuthUser) : AllFree (endMySession currentUser) := by
  refine Prog.all_ite trivial ?_
  refine Prog.all_bind (all_staffCall rfl) fun now => ?_
  refine Prog.all_bind (all_staffCall rfl) fun activeSessions => ?_
  exact Prog.all_ite trivial (all_staffCall rfl)

theorem all_endById (id : Id) : AllFree (endById id) := by
  refine Prog.all_bind (all_staffCall rfl) fun view => ?_
  cases view with
  | none => trivial
  | some view =>
      refine Prog.all_ite trivial ?_
      exact Prog.all_bind (all_staffCall rfl) fun now => all_staffCall rfl

end StaffSessionsService

namespace StaffAssignmentsService

theorem all_create (dto : CreateStaffAssignmentDto) : AllFree (create dto) := by
  refine Prog.all_bind (all_ensureEventCanBeModified _) fun _ => ?_
  refine Prog.all_bind (all_ensureStaffUser _) fun _ => ?_
  refine Prog.all_bind (all_ensureCheckpointBelongsToEvent _ _) fun _ => ?_
  refine Prog.all_bind (all_ensureDeviceBelongsToEvent _ _) fun _ => ?_
  exact Prog.all_bind (all_staffCall rfl) fun now => all_staffCall rfl

variable {id : Id} {a : StaffAssignment}

theorem concerns_of_allFree {p : StaffSvc α} (hp : AllFree p) : p.All (Concerns id a) :=
  hp.mono fun _ hc => concerns_of_free hc

theorem all_writeUpdate (id : Id) (a : StaffAssignment) (input : AssignmentInput) :
    (writeUpdate a id input).All (Concerns id a) := by
  refine Prog.all_bind (concerns_of_allFree (all_staffCall rfl)) fun now => ?_
  split
  · exact Prog.all_call ⟨rfl, rfl⟩
  · next hnot =>
      split
      · exact Prog.all_call ⟨rfl, rfl, rfl, hnot⟩
      · next hother =>
          refine Prog.all_call ?_
          change input.isActive.value? = none
          cases hv : input.isActive.value? with
          | none => rfl
          | some v =>
              cases v with
              | true => exact absurd hv hnot
              | false => exact absurd (.inl hv) hother

/-- What `findOne` returns has been found. -/
theorem along_findOne (id : Id) (t : Nat) :
    (findOne id).Along staffRule (fun _ _ _ _ => True) t
      (fun log x => ∀ a, x = .ok a → Found log id a) [] := by
  apply Prog.along_call_bind (R := StaffResp) (c := .assignmentById id) trivial
  · intro found s _
    cases found with
    | none => exact fun a ha => by cases ha
    | some a =>
        intro b hb
        cases hb
        exact ⟨_, List.mem_cons_self, if_pos rfl⟩
  · exact fun e s _ a ha => by cases ha

/-- An operation that finds an assignment and then makes calls that concern it. -/
theorem along_findOne_bind {f : StaffAssignment → StaffSvc α} {t : Nat}
    (hf : ∀ a, (f a).All (Concerns id a)) :
    ((findOne id).bind f).Along staffRule (fun _ _ _ _ => True) t (fun _ _ => True) [] := by
  apply Prog.along_bind (along_findOne id t)
  · intro log a hfound
    refine (Prog.along_of_all (F := fun log => Found log id a) ?_ ?_ (hf a) (hfound a rfl)).mono
      fun _ _ _ => trivial
    · exact fun log c r s _ hlog _ => hlog.cons _
    · exact fun log c hc hlog => staffRule_of_concerns hlog hc
  · exact fun _ _ _ => trivial

theorem along_update (id : Id) (input : AssignmentInput) (t : Nat) :
    (update id input).Along staffRule (fun _ _ _ _ => True) t (fun _ _ => True) [] := by
  refine along_findOne_bind fun a => ?_
  refine Prog.all_bind (concerns_of_allFree (all_ensureEventCanBeModified _)) fun _ => ?_
  refine Prog.all_bind (concerns_of_allFree (all_ensureStaffUser _)) fun _ => ?_
  split
  · trivial
  · trivial
  · refine Prog.all_bind (concerns_of_allFree (all_ensureCheckpointBelongsToEvent _ _)) fun _ => ?_
    refine Prog.all_bind (concerns_of_allFree (all_ensureDeviceBelongsToEvent _ _)) fun _ => ?_
    exact all_writeUpdate id a input

theorem along_deactivate (id : Id) (t : Nat) :
    (deactivate id).Along staffRule (fun _ _ _ _ => True) t (fun _ _ => True) [] := by
  refine along_findOne_bind fun a => ?_
  refine Prog.all_bind (concerns_of_allFree (all_ensureEventCanBeModified _)) fun _ => ?_
  refine Prog.all_bind (concerns_of_allFree (all_staffCall rfl)) fun now => ?_
  exact Prog.all_call ⟨rfl, rfl, rfl, by decide⟩

theorem along_activate (id : Id) (t : Nat) :
    (activate id).Along staffRule (fun _ _ _ _ => True) t (fun _ _ => True) [] := by
  refine along_findOne_bind fun a => ?_
  refine Prog.all_bind (concerns_of_allFree (all_ensureEventCanBeModified _)) fun _ => ?_
  refine Prog.all_bind (concerns_of_allFree (all_staffCall rfl)) fun now => ?_
  refine Prog.all_bind (concerns_of_allFree (all_ensureStaffUser _)) fun _ => ?_
  split
  · trivial
  · trivial
  · refine Prog.all_bind (concerns_of_allFree (all_ensureCheckpointBelongsToEvent _ _)) fun _ => ?_
    refine Prog.all_bind (concerns_of_allFree (all_ensureDeviceBelongsToEvent _ _)) fun _ => ?_
    exact Prog.all_call ⟨rfl, rfl⟩

end StaffAssignmentsService

theorem along_of_allFree {p : StaffSvc α} (hp : AllFree p) (t : Nat) :
    p.Along staffRule (fun _ _ _ _ => True) t (fun _ _ => True) [] := by
  apply Prog.along_of_all (F := fun _ => True) ?_ ?_ hp trivial
  · exact fun _ _ _ _ _ _ _ => trivial
  · exact fun log c hc _ => staffRule_of_free hc log

/-- Every operation has found out what its calls name. -/
theorem along_program (op : StaffOp) (t : Nat) :
    op.program.Along staffRule (fun _ _ _ _ => True) t (fun _ _ => True) [] := by
  have hvoid : ∀ {α : Type} {p : StaffSvc α},
      p.Along staffRule (fun _ _ _ _ => True) t (fun _ _ => True) [] →
        p.void.Along staffRule (fun _ _ _ _ => True) t (fun _ _ => True) [] :=
    fun hp => Prog.along_bind hp (fun _ _ _ => trivial) fun _ _ _ => trivial
  cases op with
  | start currentUser dto => exact hvoid (along_of_allFree (StaffSessionsService.all_start _ _) t)
  | startMySession currentUser =>
      exact hvoid (along_of_allFree (StaffSessionsService.all_startMySession _) t)
  | endMySession currentUser =>
      exact hvoid (along_of_allFree (StaffSessionsService.all_endMySession _) t)
  | endById id => exact hvoid (along_of_allFree (StaffSessionsService.all_endById _) t)
  | create dto => exact hvoid (along_of_allFree (StaffAssignmentsService.all_create _) t)
  | update id input => exact hvoid (StaffAssignmentsService.along_update id input t)
  | activate id => exact hvoid (StaffAssignmentsService.along_activate id t)
  | deactivate id => exact hvoid (StaffAssignmentsService.along_deactivate id t)

end Calls

/-! ## Runs -/

/-- The assignments that were found still have their event and user. -/
def Remembered (w : World StaffResp Exn StaffStore) : Prop :=
  ∀ e ∈ w.trace, ∀ id a, found? id e = some a → w.store.assignments.Has assignee id (assignee a)

theorem informed_of_rule {w : World StaffResp Exn StaffStore} {t : Nat} {c : StaffCall}
    (hw : Remembered w) (hrule : staffRule (w.own t) c) : w.store.Informed c := by
  have hhas : ∀ id a, Found (w.own t) id a → w.store.assignments.Has assignee id (assignee a) := by
    rintro id a ⟨e, he, hfound⟩
    exact hw e (World.mem_own.mp he).1 id a hfound
  cases c with
  | activate userId id p now =>
      obtain ⟨a, hfound, rfl⟩ := hrule
      exact ⟨a.eventId, hhas id a hfound⟩
  | change eventId userId id p now =>
      obtain ⟨⟨a, hfound, hassignee⟩, hp⟩ := hrule
      exact ⟨hassignee ▸ hhas id a hfound, hp⟩
  | assignmentUpdate id p => exact hrule
  | _ => trivial

/-- What a call finds is in the store. -/
theorem has_of_outcome {s s' : StaffStore} {t : Nat} {c : StaffCall} {x : Except Exn (StaffResp c)}
    (ho : staffService.Outcome c s x s') {id : Id} {a : StaffAssignment}
    (hfound : found? id ⟨t, c, x, s⟩ = some a) : s.assignments.Has assignee id (assignee a) := by
  cases c with
  | assignmentById i =>
      rcases ho with ⟨ch, hstep⟩ | ⟨-, -, e, rfl⟩
      · obtain rfl : Except.ok (s.assignments.find? i) = x := congrArg Prod.fst hstep
        cases hfind : s.assignments.find? i with
        | none =>
            rw [hfind] at hfound
            cases hfound
        | some b =>
            rw [hfind] at hfound
            obtain ⟨hb, hkey⟩ := Table.find?_eq_some_iff.mp hfind
            change (if i = id then some b else none) = some a at hfound
            split at hfound
            · next hid =>
                cases hfound
                exact ⟨a, hb, hid ▸ hkey, rfl⟩
            · cases hfound
      · cases hfound
  | _ => cases hfound

theorem Remembered.log {w : World StaffResp Exn StaffStore} (hw : Remembered w) {t : Nat}
    {c : StaffCall} {x : Except Exn (StaffResp c)} {s' : StaffStore} (hc : w.store.Informed c)
    (ho : staffService.Outcome c w.store x s') : Remembered (w.log t c x s') := by
  have hretains := (effect_of_outcome hc ho).retains
  intro e he id a hfound
  rcases List.mem_cons.mp he with rfl | hold
  · exact (has_of_outcome ho hfound).retained hretains
  · exact (hw e hold id a hfound).retained hretains

section Invariant

variable (I : StaffStore → Prop) (permits : Nat → StaffCall → World StaffResp Exn StaffStore → Prop)

/-- The condition that an invariant of the store puts on the effects. -/
def KeptByEffects : Prop :=
  ∀ (t : Nat) (c : StaffCall) (w : World StaffResp Exn StaffStore) (s' : StaffStore), I w.store →
    permits t c w → w.store.Effect c s' → I s'

/-- The condition that an invariant of the store reads nothing but sessions and assignments. -/
def OfBindings : Prop :=
  ∀ s s' : StaffStore, s'.sessions = s.sessions → s'.assignments = s.assignments → I s → I s'

variable {I permits}

/-- Each call knows the assignment that it changes, and the invariant is kept. -/
def staffGuard (hkept : KeptByEffects I permits) (hown : OfBindings I) :
    Guard staffService permits where
  inv w := Remembered w ∧ I w.store
  rule := staffRule
  answers _ _ _ _ := True
  answered _ _ _ _ := trivial
  call_inv hi hp hrule ho := by
    have hc := informed_of_rule hi.1 hrule
    exact ⟨hi.1.log hc ho, hkept _ _ _ _ hi.2 hp (effect_of_outcome hc ho)⟩
  env_inv hi henv := by
    refine ⟨fun e he id a hfound => ?_, hown _ _ henv.1 henv.2 hi.2⟩
    rw [henv.2]
    exact hi.1 e he id a hfound
  start_inv hi hstart := by
    obtain ⟨rfl, -⟩ := hstart
    exact hi

/-- The assignments that were found are as they were, and every operation knows what it found. -/
structure Sound (cfg : StaffConfig) : Prop where
  remembered : Remembered cfg.world
  logged : Discipline.Logged cfg
  along : ∀ (t : Nat) (p : StaffSvc Unit), cfg.pool[t]? = some p →
    p.Along staffRule (fun _ _ _ _ => True) t (fun _ _ => True) (cfg.world.own t)

/-- What every effect keeps of the store, the rest of a run keeps. -/
theorem store_of_sound (hkept : KeptByEffects I permits) (hown : OfBindings I)
    {cfg cfg' : StaffConfig} (hsound : Sound cfg) (hi : I cfg.world.store)
    (hr : (staffService.system.restrict permits).Reach cfg cfg') :
    Sound cfg' ∧ I cfg'.world.store := by
  have hgood : (staffGuard hkept hown).Good (fun _ _ => True) cfg :=
    ⟨⟨hsound.remembered, hi⟩, hsound.logged, hsound.along⟩
  have hstart : ∀ {t s p s'}, staffService.starts s p s' →
      p.Along staffRule (fun _ _ _ _ => True) t (fun _ _ => True) [] := by
    rintro t s p s' ⟨-, op, rfl⟩
    exact along_program op t
  obtain ⟨⟨hremembered, hi'⟩, hlogged, halong⟩ := hgood.reach hstart hr
  exact ⟨⟨hremembered, hlogged, halong⟩, hi'⟩

theorem sound_init (s : StaffStore) : Sound (Service.init s) where
  remembered e he := by cases he
  logged := Discipline.Logged.init s
  along t p ht := by cases ht

end Invariant

end CreativeBackend.Staff
