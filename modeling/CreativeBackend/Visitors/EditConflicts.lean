import CreativeBackend.Visitors.StaffEdits
import Mathlib.Data.List.Pairwise

/-!
# Optimistic edits of one registration

Any number of requests edit one registration, all made on the same version. Each compares the
version when it reads the registration, and writes some calls later without looking at the version
again. Where no other request writes in between, the version that a request has read is the one it
replaces, so one request at most succeeds and the others are told of the conflict.
-/

namespace CreativeBackend

open Relational Interaction RegistrationsService VisitorsService

namespace Visitors

abbrev EditEvent := Interaction.Event EditResp Exn EditStore

abbrev EditWorld := World EditResp Exn EditStore

abbrev EditConfig := Interaction.Config EditResp Exn EditWorld

/-! ## Requests -/

section Requests

variable (rt : Runtime) (id : Id) (expected : String) (requested : StaffEdit → Prop)

/-- Requests for one registration that all expect one version. Others may change everything but
the registrations. -/
def editService : Service EditResp Exn EditStore where
  Choice := Choice
  machine := editMachine rt
  faulty c := ∃ data, c = .auditCreate data
  env s s' := s'.base.registrations = s.base.registrations
  starts s p s' := s' = s ∧ ∃ edit, requested edit ∧
    edit.dto.expectedUpdatedAt = .value expected ∧ p = edit.request rt id

/-- The row that an update of the registration wrote. -/
def wrote? : EditEvent → Option Registration
  | ⟨_, .registrationUpdate i _, .ok (row, _), _⟩ => if i = id then some row else none
  | _ => none

/-- The registration as it was read. -/
def readRow? : EditEvent → Option Registration
  | ⟨_, .base (.registrationById i), .ok found, _⟩ => if i = id then found else none
  | _ => none

/-- The version that the requests expect. -/
def Current (r : Registration) : Prop := rt.parseDate expected = some r.updatedAt

/-- Since the thread read the registration, nobody has updated it. -/
def Undisturbed (t : Nat) (trace : List EditEvent) : Prop :=
  trace.Pairwise fun later e => e.thread = t → (readRow? id e).isSome → wrote? id later = none

/-- The custom fields of the registration after an edit. -/
def editedFields (edit : StaffEdit) (r : Registration) : List (String × Json) :=
  edit.dto.customFields.value?.getD (storedFields r)

/-- The checks of a request other than that of the version pass: its user is active staff of the
event, the event is not archived, no other registration is a duplicate, the form accepts the custom
fields, and the indexes accept the write. -/
def Passes (eventId : Id) (t : Nat) : EditCall → EditWorld → Prop
  | .staffAssignmentActive userId, w =>
      (∃ a ∈ w.store.assignments.rows, a.userId = userId ∧ a.isActive = true) ∧
      ∀ a ∈ w.store.assignments.rows, a.userId = userId → a.isActive = true → a.eventId = eventId
  | .base (.eventById i), w =>
      ∃ event ∈ w.store.base.events.find? i, event.status ≠ .ARCHIVED
  | .registrationOther q _, w =>
      ∀ r ∈ w.store.base.registrations.rows, q.holds r = true → r.id = id
  | .base (.fieldsToValidate i attendeeTypeId), w =>
      ∀ edit, requested edit → ∀ e ∈ w.own t, ∀ r ∈ readRow? id e,
        Accepts rt w.store.base i attendeeTypeId (editedFields edit r)
  | .registrationUpdate i p, w => (w.store.updateRegistration i p).1.isOk = true
  | _, _ => True

/-- An update sets a larger `updatedAt`. -/
def Advances : EditCall → EditWorld → Prop
  | .registrationUpdate _ _, w =>
      ∀ r ∈ w.store.base.registrations.find? id, r.updatedAt < w.store.base.clock
  | _, _ => True

/-- A request writes where nobody has written since it read. -/
def InTime (t : Nat) : EditCall → EditWorld → Prop
  | .registrationUpdate _ _, w => Undisturbed id t w.trace
  | _, _ => True

/-- The steps of undisturbed requests that no other check refuses. -/
def Permitted (eventId : Id) (t : Nat) (c : EditCall) (w : EditWorld) : Prop :=
  Advances id c w ∧ InTime id t c w ∧ Passes rt id requested eventId t c w

end Requests

/-! ## Logs -/

section Logs

variable {rt : Runtime} {id : Id} {expected : String} {requested : StaffEdit → Prop} {eventId : Id}

def Unwritten (id : Id) (log : List EditEvent) : Prop := ∀ e ∈ log, wrote? id e = none

theorem Unwritten.nil : Unwritten id [] := by simp [Unwritten]

theorem Unwritten.cons {log : List EditEvent} (h : Unwritten id log) {e : EditEvent}
    (he : wrote? id e = none) : Unwritten id (e :: log) := by
  intro x hx
  rcases List.mem_cons.mp hx with rfl | hx
  · exact he
  · exact h x hx

theorem wrote?_of_reads {t : Nat} {c : EditCall} (hc : c.reads = true)
    (x : Except Exn (EditResp c)) (s : EditStore) : wrote? id ⟨t, c, x, s⟩ = none := by
  cases c <;> first | rfl | cases hc

/-- A request writes once, after it has read the expected version. -/
def editRule (rt : Runtime) (id : Id) (expected : String) (log : List EditEvent) :
    EditCall → Prop
  | .registrationUpdate i _ => i = id ∧ Unwritten id log ∧
      ∃ e ∈ log, ∃ r, readRow? id e = some r ∧ Current rt expected r
  | .auditCreate _ => True
  | c => c.reads = true

/-- What the checks of a request are answered. -/
def editAnswers (rt : Runtime) (id : Id) (requested : StaffEdit → Prop) (eventId : Id)
    (log : List EditEvent) : (c : EditCall) → Except Exn (EditResp c) → EditStore → Prop
  | .staffAssignmentActive _, x, _ => ∃ a, x = .ok (some a) ∧ a.eventId = eventId
  | .base (.registrationById i), x, _ => i = id → ∃ r, x = .ok (some r) ∧ r.eventId = eventId
  | .base (.eventById _), x, _ => ∃ event, x = .ok (some event) ∧ event.status ≠ .ARCHIVED
  | .registrationOther _ i, x, _ => i = id → x = .ok none
  | .base (.fieldsToValidate _ _), x, _ => ∃ fields, x = .ok fields ∧
      ∀ edit, requested edit → ∀ e ∈ log, ∀ r, readRow? id e = some r →
        validateCustomFields rt fields (editedFields edit r) = .ok ()
  | .registrationUpdate _ _, x, _ => ∃ row, x = .ok row
  | _, _, _ => True

/-- A request that returns has written, one that fails is told of the conflict and has not. -/
def editEnds (id : Id) (log : List EditEvent) : Except Exn Unit → Prop
  | .ok () => ∃ e ∈ log, (wrote? id e).isSome
  | .error e => e = .conflict "VISITOR_UPDATE_CONFLICT" ∧ Unwritten id log

section Along

variable {t : Nat}

/-- A request that has read the registration and has not written. -/
structure Ready (rt : Runtime) (id : Id) (expected : String) (r : Registration)
    (log : List EditEvent) : Prop where
  unwritten : Unwritten id log
  current : ∃ e ∈ log, ∃ r', readRow? id e = some r' ∧ Current rt expected r'
  read : ∃ e ∈ log, readRow? id e = some r

theorem Ready.cons {r : Registration} {log : List EditEvent} (h : Ready rt id expected r log)
    {c : EditCall} (hc : c.reads = true) (x : Except Exn (EditResp c)) (s : EditStore) :
    Ready rt id expected r (⟨t, c, x, s⟩ :: log) := by
  obtain ⟨e, he, hcurrent⟩ := h.current
  obtain ⟨e', he', hread⟩ := h.read
  exact ⟨h.unwritten.cons (wrote?_of_reads hc x s), ⟨e, List.mem_cons_of_mem _ he, hcurrent⟩,
    ⟨e', List.mem_cons_of_mem _ he', hread⟩⟩

/-- A request that has written. -/
def Written (id : Id) (log : List EditEvent) : Prop := ∃ e ∈ log, (wrote? id e).isSome

theorem Written.cons {log : List EditEvent} (h : Written id log) (e : EditEvent) :
    Written id (e :: log) := by
  obtain ⟨x, hx, hw⟩ := h
  exact ⟨x, List.mem_cons_of_mem _ hx, hw⟩

/-- From the duplicate check on, a request writes. -/
theorem along_checkAndWrite {edit : StaffEdit} (hreq : requested edit) {r : Registration}
    {n : NormalizedUpdate} (hgiven : n.customFields = edit.dto.customFields)
    (hnull : edit.dto.customFields.isNull = false) (event : Event) (attendeeTypeId : Id)
    {log : List EditEvent} (h : Ready rt id expected r log) :
    (checkAndWrite rt id r event n attendeeTypeId).Along (editRule rt id expected)
      (editAnswers rt id requested eventId) t (fun log x => (∃ a, x = .ok a) ∧ Written id log) log := by
  simp only [checkAndWrite, Prog.bind_eq, Prog.tryCatch_eq]
  have hduplicate : (ensureNoOtherDuplicate event (nextRegistration r n attendeeTypeId) id).Along
      (editRule rt id expected) (editAnswers rt id requested eventId) t
      (fun log x => (∃ a, x = .ok a) ∧ Ready rt id expected r log) log := by
    simp only [ensureNoOtherDuplicate, Prog.bind_eq]
    split
    · apply Prog.along_call_bind (R := EditResp) (c := .registrationOther _ id) rfl
      · intro found s ha
        have hnone : found = none := Except.ok.inj (ha rfl)
        subst hnone
        exact ⟨⟨(), rfl⟩, h.cons rfl _ s⟩
      · intro e s ha
        cases ha rfl
    · exact ⟨⟨(), rfl⟩, h⟩
  apply Prog.along_bind hduplicate
  · rintro log₁ _ ⟨_, h₁⟩
    have hvalid : (validateNextFields rt r n attendeeTypeId).Along (editRule rt id expected)
        (editAnswers rt id requested eventId) t
        (fun log x => (∃ a, x = .ok a) ∧ Ready rt id expected r log) log₁ := by
      simp only [validateNextFields, Prog.bind_eq]
      apply Prog.along_call_bind (R := EditResp) (c := .base (.fieldsToValidate _ _)) rfl
      · rintro fields s ⟨fields', hx, haccepts⟩
        obtain rfl : fields = fields' := Except.ok.inj hx
        obtain ⟨e, he, hread⟩ := h₁.read
        have hok := haccepts edit hreq e he r hread
        have h₂ := h₁.cons (t := t) (c := .base (.fieldsToValidate r.eventId attendeeTypeId)) rfl
          (.ok fields) s
        rw [hgiven]
        unfold editedFields at hok
        cases hdto : edit.dto.customFields with
        | undefined =>
            rw [hdto] at hok
            exact Prog.along_ofExcept ⟨⟨(), hok⟩, h₂⟩
        | null =>
            rw [hdto] at hnull
            cases hnull
        | value customFields =>
            rw [hdto] at hok
            exact Prog.along_ofExcept ⟨⟨(), hok⟩, h₂⟩
      · rintro e s ⟨fields', hx, -⟩
        cases hx
    apply Prog.along_bind hvalid
    · rintro log₂ _ ⟨_, h₂⟩
      -- The write is answered, so its handler is not entered.
      refine Prog.along_tryCatch (Q := fun log x => (∃ a, x = .ok a) ∧ Written id log)
        (Prog.along_call ⟨rfl, h₂.unwritten, h₂.current⟩ ?_) (fun _ _ hq => hq) ?_
      · rintro x s ⟨⟨row, type⟩, rfl⟩
        exact ⟨⟨_, rfl⟩, _, List.mem_cons_self, by simp [wrote?]⟩
      · rintro log e ⟨⟨a, ha⟩, -⟩
        cases ha
    · rintro log e ⟨⟨a, ha⟩, -⟩
      cases ha
  · rintro log e ⟨⟨a, ha⟩, -⟩
    cases ha

theorem normalize_kept {dto : UpdateRegistrationDto} {n : NormalizedUpdate}
    (hn : normalizeUpdateDto dto = .ok n) :
    n.customFields = dto.customFields ∧ n.attendeeTypeId = dto.attendeeTypeId := by
  simp only [normalizeUpdateDto, bind, Except.bind] at hn
  split at hn
  · cases hn
  · split at hn
    · cases hn
    · split at hn
      · cases hn
      · cases hn
        exact ⟨rfl, rfl⟩

/-- The update of a request that has read the expected version writes. -/
theorem along_update {edit : StaffEdit} (hreq : requested edit) {n : NormalizedUpdate}
    (hn : normalizeUpdateDto edit.dto.updatePayload = .ok n)
    (hnull : edit.dto.customFields.isNull = false) {r₀ : Registration} {log : List EditEvent}
    (h : Ready rt id expected r₀ log) :
    (update rt id edit.dto.updatePayload).Along (editRule rt id expected)
      (editAnswers rt id requested eventId) t (fun log x => (∃ a, x = .ok a) ∧ Written id log) log := by
  obtain ⟨hgiven, htype⟩ := normalize_kept hn
  simp only [update, hn, Prog.bind_eq, Prog.ofExcept_ok, Prog.bind_ret, registrationOrThrow,
    Prog.bind_assoc]
  apply Prog.along_call_bind (R := EditResp) (c := .base (.registrationById id)) rfl
  · intro found s ha
    obtain ⟨r, hx, -⟩ := ha rfl
    obtain rfl : found = some r := Except.ok.inj hx
    have h₁ : Ready rt id expected r (⟨t, .base (.registrationById id), .ok (some r), s⟩ :: log) := by
      have h' := h.cons (t := t) (c := .base (.registrationById id)) rfl (.ok (some r)) s
      exact ⟨h'.unwritten, h'.current, _, List.mem_cons_self, by simp [readRow?]⟩
    simp only [Prog.pure_eq, Prog.bind_ret, onStore_ensureEventCanBeModified, Prog.bind_assoc]
    apply Prog.along_call_bind (R := EditResp) (c := .base (.eventById _)) rfl
    · rintro event' s' ⟨event, hx', hstatus⟩
      obtain rfl : event' = some event := Except.ok.inj hx'
      have h₂ := h₁.cons (t := t) (c := .base (.eventById r.eventId)) rfl (.ok (some event)) s'
      simp only [if_neg hstatus, Prog.bind_ret]
      have hno : (truthy n.attendeeTypeId.value?).isSome = false := by
        rw [htype]
        rfl
      simp only [hno]
      exact along_checkAndWrite hreq hgiven hnull event _ h₂
    · rintro e s' ⟨event, hx', -⟩
      cases hx'
  · intro e s ha
    obtain ⟨r, hx, -⟩ := ha rfl
    cases hx

/-- The audit is written or not, and a request that has written returns. -/
theorem along_audit (userId : Id) (r : Registration) (dto : UpdateStaffVisitorDto)
    {log : List EditEvent} (h : Written id log) :
    (auditStaffVisitorUpdate userId r dto).Along (editRule rt id expected)
      (editAnswers rt id requested eventId) t (fun log x => x = .ok () ∧ Written id log) log := by
  simp only [auditStaffVisitorUpdate]
  split
  · exact ⟨rfl, h⟩
  · refine Prog.along_tryCatch (Q := fun log _ => Written id log)
      (Prog.along_call trivial fun x s _ => h.cons _) (fun _ _ hq => ⟨rfl, hq⟩) ?_
    exact fun log e hq => ⟨rfl, hq⟩

/-- The checks of an edit on its own values. -/
structure WellFormed (edit : StaffEdit) : Prop where
  texts : (normalizeUpdateDto edit.dto.updatePayload).isOk = true
  customFields : edit.dto.customFields.isNull = false

theorem along_request {edit : StaffEdit} (hreq : requested edit) (hwell : WellFormed edit)
    (hexpected : edit.dto.expectedUpdatedAt = .value expected) (htext : expected ≠ "") :
    (edit.request rt id).Along (editRule rt id expected) (editAnswers rt id requested eventId) t
      (editEnds id) [] := by
  obtain ⟨n, hn⟩ : ∃ n, normalizeUpdateDto edit.dto.updatePayload = .ok n := by
    have htexts := hwell.texts
    cases hx : normalizeUpdateDto edit.dto.updatePayload with
    | ok n => exact ⟨n, rfl⟩
    | error e =>
        rw [hx] at htexts
        cases htexts
  simp only [StaffEdit.request, updateForStaff, findActiveStaffAssignment, findRegistrationOfEvent,
    Prog.bind_eq, Prog.bind_assoc]
  apply Prog.along_call_bind (R := EditResp) (c := .staffAssignmentActive _) rfl
  · rintro found s ⟨a, hx, rfl⟩
    obtain rfl : found = some a := Except.ok.inj hx
    simp only [Prog.pure_eq, Prog.bind_ret]
    apply Prog.along_call_bind (R := EditResp) (c := .base (.registrationById id)) rfl
    · intro found' s' ha
      obtain ⟨r, hx', hevent⟩ := ha rfl
      obtain rfl : found' = some r := Except.ok.inj hx'
      have hunwritten : Unwritten id [⟨t, .base (.registrationById id), .ok (some r), s'⟩,
          ⟨t, .staffAssignmentActive edit.userId, .ok (some a), s⟩] :=
        (Unwritten.nil.cons rfl).cons rfl
      simp only [hevent, ne_eq, not_true_eq_false, if_false, Prog.bind_ret]
      split
      · next hcurrent =>
          have hready : Ready rt id expected r
              [⟨t, .base (.registrationById id), .ok (some r), s'⟩,
                ⟨t, .staffAssignmentActive edit.userId, .ok (some a), s⟩] := by
            have hread : readRow? id ⟨t, .base (.registrationById id), .ok (some r), s'⟩ = some r := by
              simp [readRow?]
            refine ⟨hunwritten, ⟨_, List.mem_cons_self, r, hread, ?_⟩, _, List.mem_cons_self, hread⟩
            change rt.parseDate expected = some r.updatedAt
            simpa [isExpected, hexpected, Given.value?, truthy, htext] using hcurrent
          rw [Prog.bind_assoc]
          apply Prog.along_bind (along_update hreq hn hwell.customFields hready)
          · rintro log ⟨row, type⟩ ⟨-, hw⟩
            simp only [Prog.bind_assoc]
            apply Prog.along_bind (along_audit edit.userId r edit.dto hw)
            · rintro log' _ ⟨-, hw'⟩
              exact hw'
            · rintro log' e ⟨he, -⟩
              cases he
          · rintro log e ⟨⟨a, ha⟩, -⟩
            cases ha
      · exact ⟨rfl, hunwritten⟩
    · intro e s' ha
      obtain ⟨r, hx', -⟩ := ha rfl
      cases hx'
  · rintro e s ⟨a, hx, -⟩
    cases hx

end Along

end Logs

/-! ## Versions -/

section Versions

variable {rt : Runtime} {id : Id} {expected : String} {requested : StaffEdit → Prop}

/-- The registration is as it was, or as the one request that wrote has left it, and then it has
another version than the requests expect. What was read with that version was read before. -/
structure Versions (rt : Runtime) (id : Id) (expected : String) (r₀ : Registration)
    (w : EditWorld) : Prop where
  row : (Unwritten id w.trace ∧ w.store.base.registrations.find? id = some r₀) ∨
    ∃ e ∈ w.trace, ∃ row, wrote? id e = some row ∧
      (∀ x ∈ w.trace, (wrote? id x).isSome → x.thread = e.thread) ∧
      w.store.base.registrations.find? id = some row ∧ row.eventId = r₀.eventId ∧
      ¬ Current rt expected row
  reads : w.trace.Pairwise fun later e =>
    ∀ r, readRow? id later = some r → Current rt expected r → wrote? id e = none
  seen : ∀ e ∈ w.trace, ∀ r, readRow? id e = some r → Current rt expected r → r = r₀

section

variable {r₀ : Registration} {w : EditWorld} {t : Nat}

/-- Neither of two events is a write while the other is `e`. -/
def Apart (id : Id) (e x y : EditEvent) : Prop :=
  (x = e → wrote? id y = none) ∧ (y = e → wrote? id x = none)

instance (id : Id) (e : EditEvent) : Std.Symm (Apart id e) := ⟨fun _ _ h => ⟨h.2, h.1⟩⟩

/-- A request that may write is the first. -/
theorem Versions.unwritten (h : Versions rt id expected r₀ w) (hu : Undisturbed id t w.trace)
    {e : EditEvent} (he : e ∈ w.own t) {r : Registration} (hread : readRow? id e = some r)
    (hcurrent : Current rt expected r) : Unwritten id w.trace := by
  obtain ⟨he, ht⟩ := World.mem_own.mp he
  have hself : ∀ x ∈ w.trace, Apart id e x x := by
    rintro x - 
    have hnone : x = e → wrote? id x = none := by
      rintro rfl
      rcases x with ⟨_, c, _, _⟩
      cases c <;> first | rfl | cases hread
    exact ⟨hnone, hnone⟩
  have hpairs : w.trace.Pairwise (Apart id e) := by
    refine (hu.and h.reads).imp ?_
    rintro x y ⟨hlater, hearlier⟩
    refine ⟨?_, ?_⟩
    · rintro rfl
      exact hearlier r hread hcurrent
    · rintro rfl
      exact hlater ht (by rw [hread]; rfl)
  intro x hx
  exact (List.Pairwise.forall_of_forall hself hpairs hx he).2 rfl

/-- The version of the registration that the requests expect is the first one. -/
theorem Versions.find_event (h : Versions rt id expected r₀ w) :
    ∃ r, w.store.base.registrations.find? id = some r ∧ r.eventId = r₀.eventId := by
  rcases h.row with ⟨_, hfind⟩ | ⟨e, _, row, _, _, hfind, hevent, _⟩
  · exact ⟨r₀, hfind, rfl⟩
  · exact ⟨row, hfind, hevent⟩

/-- A call that neither reads nor writes the registration. -/
theorem Versions.log (h : Versions rt id expected r₀ w) {c : EditCall}
    {x : Except Exn (EditResp c)} {s' : EditStore}
    (hs : s'.base.registrations = w.store.base.registrations)
    (hw : wrote? id ⟨t, c, x, w.store⟩ = none)
    (hr : ∀ r, readRow? id ⟨t, c, x, w.store⟩ = some r →
      w.store.base.registrations.find? id = some r) :
    Versions rt id expected r₀ (w.log t c x s') := by
  have hfirst : ∀ r, readRow? id ⟨t, c, x, w.store⟩ = some r → Current rt expected r →
      Unwritten id w.trace ∧ r = r₀ := by
    intro r hread hcurrent
    have hfind := hr r hread
    rcases h.row with ⟨hun, hfind₀⟩ | ⟨e, _, row, _, _, hrow, _, hno⟩
    · exact ⟨hun, Option.some.inj (hfind.symm.trans hfind₀)⟩
    · obtain rfl : r = row := Option.some.inj (hfind.symm.trans hrow)
      exact absurd hcurrent hno
  refine ⟨?_, ?_, ?_⟩
  · rcases h.row with ⟨hun, hfind⟩ | ⟨e, he, row, hwrote, honly, hfind, hrest⟩
    · exact .inl ⟨hun.cons hw, hs ▸ hfind⟩
    · refine .inr ⟨e, List.mem_cons_of_mem _ he, row, hwrote, ?_, hs ▸ hfind, hrest⟩
      intro y hy hsome
      rcases List.mem_cons.mp hy with rfl | hy
      · rw [hw] at hsome
        cases hsome
      · exact honly y hy hsome
  · refine List.pairwise_cons.mpr ⟨?_, h.reads⟩
    intro e he r hread hcurrent
    exact (hfirst r hread hcurrent).1 e he
  · intro e he r hread hcurrent
    rcases List.mem_cons.mp he with rfl | he
    · exact (hfirst r hread hcurrent).2
    · exact h.seen e he r hread hcurrent

end

/-! ## Requests that wait for nobody -/

section Guard

variable {r₀ : Registration} {t : Nat} {w : EditWorld}

/-- A request that writes leaves the version that it wrote. -/
theorem Versions.log_write (h : Versions rt id expected r₀ w) {p : RegistrationPatch}
    {x : Except Exn (Registration × Option AttendeeType)} {s' : EditStore}
    (hrule : editRule rt id expected (w.own t) (.registrationUpdate id p))
    (hadvances : Advances id (.registrationUpdate id p) w)
    (htime : InTime id t (.registrationUpdate id p) w)
    (hstep : w.store.updateRegistration id p = (x, s')) :
    Versions rt id expected r₀ (w.log t (.registrationUpdate id p) x s') := by
  obtain ⟨-, -, e, he, r, hread, hcurrent⟩ := hrule
  have hun := h.unwritten htime he hread hcurrent
  obtain rfl : r = r₀ := h.seen e (World.mem_own.mp he).1 r hread hcurrent
  have hfind : w.store.base.registrations.find? id = some r := by
    rcases h.row with ⟨_, hfind⟩ | ⟨e', he', row, hwrote, -⟩
    · exact hfind
    · rw [hun e' he'] at hwrote
      cases hwrote
  rcases EditStore.updateRegistration_cases hstep with ⟨error, rfl, rfl⟩ | ⟨row, type, hu, rfl, rfl⟩
  · refine h.log rfl rfl ?_
    intro r' hr'
    cases hr'
  · obtain ⟨hr, hid⟩ := Table.find?_eq_some_iff.mp hfind
    obtain ⟨a, ha, hkey, hrow, hrows, -⟩ := Table.update_eq_done hu
    obtain rfl : a = r := w.store.base.registrations.eq_of_key ha hr (hkey.trans hid.symm)
    have hlater : a.updatedAt < w.store.base.clock := hadvances a hfind
    refine ⟨.inr ⟨_, List.mem_cons_self, row, by simp [wrote?], ?_, ?_, ?_, ?_⟩, ?_, ?_⟩
    · intro y hy hsome
      rcases List.mem_cons.mp hy with rfl | hy
      · rfl
      · rw [hun y hy] at hsome
        cases hsome
    · refine Table.find?_eq_some_iff.mpr ⟨?_, ?_⟩
      · change row ∈ type.rows
        rw [hrows]
        exact List.mem_map.mpr ⟨a, ha, if_pos hkey⟩
      · rw [hrow, key_withKey]
    · rw [hrow]
      rfl
    · intro hnow
      have hsame : w.store.base.clock = a.updatedAt := by
        have hboth := hnow.symm.trans hcurrent
        rw [hrow] at hboth
        exact Option.some.inj hboth
      rw [hsame] at hlater
      exact lt_irrefl _ hlater
    · refine List.pairwise_cons.mpr ⟨?_, h.reads⟩
      intro y hy r' hr'
      cases hr'
    · intro y hy r' hr' hc
      rcases List.mem_cons.mp hy with rfl | hy
      · cases hr'
      · exact h.seen y hy r' hr' hc

/-- The checks of a request that passes are answered as it expects. -/
theorem answered_of_machine (h : Versions rt id expected r₀ w)
    {c : EditCall} (hp : Passes rt id requested r₀.eventId t c w) {ch : Choice}
    {x : Except Exn (EditResp c)} {s' : EditStore}
    (hstep : editMachine rt ch c w.store = (x, s')) :
    editAnswers rt id requested r₀.eventId (w.own t) c x w.store := by
  obtain rfl : (editMachine rt ch c w.store).1 = x := congrArg Prod.fst hstep
  cases c with
  | staffAssignmentActive userId =>
      obtain ⟨⟨a, ha, huser, hactive⟩, hall⟩ := hp
      have hmem : a ∈ (w.store.assignments.rows.filter fun a =>
          a.userId = userId ∧ a.isActive = true).insertionSort ch.newestAssignment := by
        rw [List.mem_insertionSort, List.mem_filter]
        exact ⟨ha, by simp [huser, hactive]⟩
      change ∃ b, Except.ok (w.store.activeAssignment ch userId) = .ok (some b) ∧ _
      cases hhead : w.store.activeAssignment ch userId with
      | none =>
          rw [EditStore.activeAssignment, List.head?_eq_none_iff] at hhead
          rw [hhead] at hmem
          cases hmem
      | some b =>
          have hb := List.mem_of_head? hhead
          rw [List.mem_insertionSort, List.mem_filter, decide_eq_true_eq] at hb
          exact ⟨b, rfl, hall b hb.1 hb.2.1 hb.2.2⟩
  | base c =>
      cases c with
      | registrationById i =>
          rintro rfl
          obtain ⟨r, hfind, hevent⟩ := h.find_event
          exact ⟨r, congrArg Except.ok hfind, hevent⟩
      | eventById i =>
          obtain ⟨event, hfind, hstatus⟩ := hp
          exact ⟨event, congrArg Except.ok hfind, hstatus⟩
      | fieldsToValidate i attendeeTypeId =>
          refine ⟨_, rfl, fun edit hreq e he r hread => ?_⟩
          exact accepts_iff_read.mp (hp edit hreq e he r hread)
      | _ => trivial
  | registrationOther q i =>
      rintro rfl
      have hnone : (w.store.base.registrations.rows.filter fun r => q.holds r && r.id != i) = [] := by
        rw [List.filter_eq_nil_iff]
        intro r hr
        by_cases hq : q.holds r = true
        · simp [hp r hr hq]
        · simp [hq]
      change Except.ok (ch.first _) = Except.ok none
      rw [hnone]
      rfl
  | registrationUpdate i p =>
      change ∃ row, (w.store.updateRegistration i p).1 = .ok row
      change (w.store.updateRegistration i p).1.isOk = true at hp
      cases hx : (w.store.updateRegistration i p).1 with
      | ok row => exact ⟨row, rfl⟩
      | error e =>
          rw [hx] at hp
          cases hp
  | _ => trivial

/-- A request writes only as the first, and the rest of its calls leave the registrations alone. -/
theorem versions_of_outcome (h : Versions rt id expected r₀ w) {c : EditCall}
    (hp : Permitted rt id requested r₀.eventId t c w)
    (hrule : editRule rt id expected (w.own t) c) {x : Except Exn (EditResp c)} {s' : EditStore}
    (ho : (editService rt id expected requested).Outcome c w.store x s') :
    Versions rt id expected r₀ (w.log t c x s') := by
  rcases ho with ⟨ch, hstep⟩ | ⟨⟨data, rfl⟩, rfl, e, rfl⟩
  · have hread : c.reads = true → Versions rt id expected r₀ (w.log t c x s') := by
      intro hc
      obtain rfl : s' = w.store := by
        have hsame := editMachine_reads rt ch hc w.store
        rwa [show editMachine rt ch c w.store = (x, s') from hstep] at hsame
      refine h.log rfl (wrote?_of_reads hc x w.store) ?_
      intro r hr
      cases c with
      | base c =>
          cases c with
          | registrationById i =>
              obtain rfl : (Except.ok (w.store.base.registrations.find? i) : Except Exn _) = x :=
                congrArg Prod.fst hstep
              simp only [readRow?] at hr
              split at hr
              · next hi => exact hi ▸ hr
              · cases hr
          | _ => cases hr
      | _ => cases hr
    cases c with
    | registrationUpdate i p =>
        obtain rfl := hrule.1
        exact h.log_write hrule hp.1 hp.2.1 hstep
    | auditCreate data =>
        cases hstep
        exact h.log rfl rfl fun r hr => by cases hr
    | _ => exact hread hrule
  · exact h.log rfl rfl fun r hr => by cases hr

/-- Each request follows the rule of its own log, and the versions are kept. -/
def editGuard (rt : Runtime) (id : Id) (expected : String) (requested : StaffEdit → Prop)
    (r₀ : Registration) :
    Guard (editService rt id expected requested) (Permitted rt id requested r₀.eventId) where
  inv := Versions rt id expected r₀
  rule := editRule rt id expected
  answers := editAnswers rt id requested r₀.eventId
  answered hi hp _ ho := by
    rcases ho with ⟨ch, hstep⟩ | ⟨⟨data, rfl⟩, -, -⟩
    · exact answered_of_machine hi hp.2.2 hstep
    · trivial
  call_inv hi hp hrule ho := versions_of_outcome hi hp hrule ho
  env_inv hi henv := ⟨by rw [henv]; exact hi.row, hi.reads, hi.seen⟩
  start_inv hi hstart := ⟨by rw [hstart.1]; exact hi.row, hi.reads, hi.seen⟩

end Guard

end Versions

/-! ## Runs -/

/-- One request at most has succeeded, every other that has ended was told of the conflict, and the
registration is as it was or as the one request left it. -/
structure EditedOnce (id : Id) (r₀ : Registration) (cfg : EditConfig) : Prop where
  once : ∀ t u : Nat, cfg.pool[t]? = some (.ret ()) → cfg.pool[u]? = some (.ret ()) → t = u
  conflict : ∀ (t : Nat) (e : Exn), cfg.pool[t]? = some (.throw e) →
    e = .conflict "VISITOR_UPDATE_CONFLICT" ∧ ∀ x ∈ cfg.world.trace, x.thread = t → wrote? id x = none
  registration : (Unwritten id cfg.world.trace ∧
      cfg.world.store.base.registrations.find? id = some r₀) ∨
    ∃ x ∈ cfg.world.trace, ∃ row, wrote? id x = some row ∧
      (∀ y ∈ cfg.world.trace, (wrote? id y).isSome → y.thread = x.thread) ∧
      cfg.world.store.base.registrations.find? id = some row

/-- As long as nobody writes between the read and the write of a request, and no other check refuses
a request, one request at most succeeds and every other is told of the conflict. -/
theorem edited_once_of_reach {rt : Runtime} {id : Id} {expected : String}
    {requested : StaffEdit → Prop} (hwell : ∀ edit, requested edit → WellFormed edit)
    (htext : expected ≠ "") {s : EditStore} {r₀ : Registration}
    (h₀ : s.base.registrations.find? id = some r₀) {cfg : EditConfig}
    (hr : ((editService rt id expected requested).system.restrict
      (Permitted rt id requested r₀.eventId)).Reach (Service.init s) cfg) :
    EditedOnce id r₀ cfg := by
  have hinit : Versions rt id expected r₀ ⟨s, []⟩ :=
    ⟨.inl ⟨Unwritten.nil, h₀⟩, .nil, fun e he => by cases he⟩
  have hend := Guard.ending_of_reach (G := editGuard rt id expected requested r₀)
    (Q := fun _ => editEnds id) ?_ hinit hr
  · have hwrote : ∀ t : Nat, cfg.pool[t]? = some (.ret ()) →
        ∃ e ∈ cfg.world.trace, e.thread = t ∧ (wrote? id e).isSome := by
      intro t ht
      obtain ⟨e, he, hsome⟩ := hend.ended (x := .ok ()) ht
      obtain ⟨hmem, hthread⟩ := World.mem_own.mp he
      exact ⟨e, hmem, hthread, hsome⟩
    refine ⟨?_, ?_, ?_⟩
    · intro t u ht hu
      obtain ⟨e, he, hte, hwe⟩ := hwrote t ht
      obtain ⟨f, hf, huf, hwf⟩ := hwrote u hu
      rcases hend.1.row with ⟨hun, -⟩ | ⟨x, -, -, -, honly, -⟩
      · rw [hun e he] at hwe
        cases hwe
      · calc t = e.thread := hte.symm
          _ = x.thread := honly e he hwe
          _ = f.thread := (honly f hf hwf).symm
          _ = u := huf
    · intro t e ht
      obtain ⟨hconflict, hun⟩ := hend.ended (x := .error e) ht
      exact ⟨hconflict, fun x hx hthread => hun x (World.mem_own.mpr ⟨hx, hthread⟩)⟩
    · rcases hend.1.row with hun | ⟨x, hx, row, hw, honly, hfind, -⟩
      · exact .inl hun
      · exact .inr ⟨x, hx, row, hw, honly, hfind⟩
  · rintro t s p s' ⟨rfl, edit, hreq, hexpected, rfl⟩
    exact along_request hreq (hwell edit hreq) hexpected htext

/-! ## Two requests -/

section Sample

variable (rt : Runtime) (id : Id) (edits : List StaffEdit)

instance (r : Registration) (expected : String) : Decidable (Current rt expected r) :=
  inferInstanceAs (Decidable (_ = _))

instance (t : Nat) (trace : List EditEvent) : Decidable (Undisturbed id t trace) :=
  inferInstanceAs (Decidable (List.Pairwise _ _))

instance (c : EditCall) (w : EditWorld) : Decidable (Advances id c w) := by
  cases c with
  | registrationUpdate i p =>
      exact inferInstanceAs (Decidable (∀ r ∈ w.store.base.registrations.find? id, _))
  | _ => exact inferInstanceAs (Decidable True)

instance (t : Nat) (c : EditCall) (w : EditWorld) : Decidable (InTime id t c w) := by
  cases c with
  | registrationUpdate i p => exact inferInstanceAs (Decidable (Undisturbed id t w.trace))
  | _ => exact inferInstanceAs (Decidable True)

/-- The test of `Passes` for a list of edits. -/
def passes? (eventId : Id) (t : Nat) (w : EditWorld) : EditCall → Bool
  | .staffAssignmentActive userId => decide ((∃ a ∈ w.store.assignments.rows, a.userId = userId ∧
      a.isActive = true) ∧ ∀ a ∈ w.store.assignments.rows, a.userId = userId →
        a.isActive = true → a.eventId = eventId)
  | .base (.eventById i) =>
      decide (∃ event ∈ w.store.base.events.find? i, event.status ≠ .ARCHIVED)
  | .registrationOther q _ =>
      decide (∀ r ∈ w.store.base.registrations.rows, q.holds r = true → r.id = id)
  | .base (.fieldsToValidate i attendeeTypeId) =>
      decide (∀ edit ∈ edits, ∀ e ∈ w.own t, ∀ r ∈ readRow? id e,
        Accepts rt w.store.base i attendeeTypeId (editedFields edit r))
  | .registrationUpdate i p => (w.store.updateRegistration i p).1.isOk
  | _ => true

theorem passes?_eq_true {eventId : Id} {t : Nat} {c : EditCall} {w : EditWorld} :
    passes? rt id edits eventId t w c = true ↔ Passes rt id (· ∈ edits) eventId t c w := by
  cases c with
  | staffAssignmentActive userId => exact decide_eq_true_iff
  | registrationOther q i => exact decide_eq_true_iff
  | registrationUpdate i p => exact Iff.rfl
  | base c =>
      cases c with
      | eventById i => exact decide_eq_true_iff
      | fieldsToValidate i attendeeTypeId => exact decide_eq_true_iff
      | _ => exact iff_of_true rfl trivial
  | _ => exact iff_of_true rfl trivial

instance (eventId : Id) (t : Nat) (c : EditCall) (w : EditWorld) :
    Decidable (Passes rt id (· ∈ edits) eventId t c w) :=
  decidable_of_iff _ (passes?_eq_true rt id edits)

instance (eventId : Id) (t : Nat) (c : EditCall) (w : EditWorld) :
    Decidable (Permitted rt id (· ∈ edits) eventId t c w) :=
  inferInstanceAs (Decidable (_ ∧ _ ∧ _))

end Sample

/-- A runtime that reads one date. -/
def dateRuntime : Runtime :=
  { sampleRuntime with
    parseDate := fun text => if text = "2026-08-01T00:00:00.000Z" then some 1785542400000 else none }

/-- A visitor of that date. -/
def lina : Registration where
  id := "c0"
  publicId := "REG-1"
  eventId := "c0"
  attendeeTypeId := "c0"
  fullName := "Lina"
  updatedAt := 1785542400000

/-- The visitor, and two staff users of its event. -/
def visitorStore : EditStore where
  base := { sampleStore with
    clock := 1785542401000
    registrations := .ofData [lina] }
  assignments := .ofData
    [{ eventId := "c0", userId := "staff-1" }, { eventId := "c0", userId := "staff-2" }]

/-- The edit of a name. -/
def rename (userId : Id) (fullName : String) : StaffEdit where
  userId
  dto := {
    expectedUpdatedAt := .value "2026-08-01T00:00:00.000Z"
    fullName := .value fullName }

def renames : List StaffEdit := [rename "staff-1" "Lina Haddad", rename "staff-2" "Lina Hadad"]

theorem renames_wellFormed (edit : StaffEdit) (h : edit ∈ renames) : WellFormed edit := by
  simp only [renames, List.mem_cons, List.not_mem_nil, or_false] at h
  rcases h with rfl | rfl
  · exact ⟨by decide +kernel, rfl⟩
  · exact ⟨by decide +kernel, rfl⟩

/-- The service in which the two requests are made. -/
abbrev renameService : Service EditResp Exn EditStore :=
  editService dateRuntime "c0" "2026-08-01T00:00:00.000Z" (· ∈ renames)

def startRename (edit : StaffEdit) : renameService.Action :=
  .start (edit.request dateRuntime "c0") (fun _ => true) fun s => s

/-- Time passes. -/
def passTime : renameService.Action :=
  .change (fun _ => true) fun s => { s with base := { s.base with clock := s.base.clock + 1000 } }

/-- The two requests, stepped in the order of the threads. -/
def renameScript (before after : List Nat) : List renameService.Action :=
  [startRename (rename "staff-1" "Lina Haddad"), startRename (rename "staff-2" "Lina Hadad")] ++
    before.map (.step · {}) ++ [passTime] ++ after.map (.step · {})

theorem legal_renameScript (before after : List Nat) :
    Service.Legal (renameScript before after) := by
  have hsteps : ∀ ts : List Nat, Service.Legal (ts.map fun t => (.step t {} : renameService.Action)) := by
    intro ts a ha
    obtain ⟨t, -, rfl⟩ := List.mem_map.mp ha
    trivial
  simp only [renameScript, Service.legal_append, Service.legal_cons, Service.legal_nil, and_true]
  refine ⟨⟨⟨⟨?_, ?_⟩, hsteps before⟩, ?_⟩, hsteps after⟩
  · exact fun s _ => ⟨rfl, rename "staff-1" "Lina Haddad", .head _, rfl, rfl⟩
  · exact fun s _ => ⟨rfl, rename "staff-2" "Lina Hadad", .tail _ (.head _), rfl, rfl⟩
  · exact fun s _ => rfl

def returned : EditSvc Unit → Bool
  | .ret _ => true
  | _ => false

theorem ret_of_returned {cfg : EditConfig} {t : Nat} (h : (cfg.pool[t]?).any returned = true) :
    cfg.pool[t]? = some (.ret ()) := by
  obtain ⟨p, hp, hret⟩ := (Option.any_eq_true _ _).mp h
  cases p with
  | ret a => exact hp
  | throw e => cases hret
  | ask c k => cases hret

end Visitors

open Visitors

/-- The second request comes after the first, and is told of the conflict. -/
theorem edited_once_of_requests_in_turn :
    ∃ cfg : EditConfig, ((cfg.pool[(0 : Nat)]?).any returned && cfg.pool.all System.finished &&
      cfg.pool.length == 2) = true ∧ EditedOnce "c0" lina cfg := by
  obtain ⟨cfg, hr, hend⟩ := Service.exists_config_of_perform
    (Permitted dateRuntime "c0" (· ∈ renames) lina.eventId) (v := renameService)
    (renameScript (List.replicate 7 0) [1, 1]) (Service.init visitorStore)
    (fun cfg => (cfg.pool[(0 : Nat)]?).any returned && cfg.pool.all System.finished &&
      cfg.pool.length == 2) (legal_renameScript _ _) (by decide +kernel)
  exact ⟨cfg, hend, edited_once_of_reach renames_wellFormed (by decide) rfl hr⟩

/-- Both requests read before either writes, both succeed, and the second name replaces the first. -/
theorem edits_overwrite_each_other :
    ¬ ∀ (rt : Runtime) (id : Id) (expected : String) (requested : StaffEdit → Prop),
      (∀ edit, requested edit → WellFormed edit) → expected ≠ "" →
      ∀ (s : EditStore) (r₀ : Registration), s.base.registrations.find? id = some r₀ →
      ∀ cfg : EditConfig, ((editService rt id expected requested).system.restrict
        fun _ c w => Advances id c w).Reach (Service.init s) cfg → EditedOnce id r₀ cfg := by
  intro hclaim
  obtain ⟨cfg, hr, hend⟩ := Service.exists_config_of_perform
    (fun _ c w => Advances "c0" c w) (v := renameService)
    (renameScript [0, 0, 1, 1, 0, 0, 0, 0, 0] [1, 1, 1, 1, 1]) (Service.init visitorStore)
    (fun cfg => (cfg.pool[(0 : Nat)]?).any returned && (cfg.pool[(1 : Nat)]?).any returned)
    (legal_renameScript _ _) (by decide +kernel)
  rw [Bool.and_eq_true] at hend
  have honce := (hclaim dateRuntime "c0" _ (· ∈ renames) renames_wellFormed (by decide) visitorStore
    lina rfl cfg hr).once 0 1 (ret_of_returned hend.1) (ret_of_returned hend.2)
  cases honce

end CreativeBackend
