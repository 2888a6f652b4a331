import CreativeBackend.Registrations.UpdateEffects
import CreativeBackend.Registrations.FieldsService
import CreativeBackend.Runtime.Text

/-!
# Form edits and stored custom fields

An update that leaves the custom fields alone validates the stored ones against the form as it is
now. Creations and updates of registrations only store what the form accepts, so an update is
refused because of custom fields only after an edit of the form that some stored values do not pass.
-/

namespace CreativeBackend

open Relational Interaction Prog RegistrationsService

variable (rt : Runtime) (p : Platform)

/-- The operations on a form and its registrations. -/
inductive FormOp where
  | createField (dto : Forms.CreateRegistrationFieldDto)
  | updateField (id : Id) (dto : Forms.UpdateRegistrationFieldDto)
  | removeField (id : Id)
  | createRegistration (dto : CreateRegistrationDto)
  | updateRegistration (id : Id) (dto : UpdateRegistrationDto)

namespace FormOp

/-- The operations of `RegistrationFieldsService`. -/
def editsForm : FormOp → Bool
  | createField _ => true
  | updateField _ _ => true
  | removeField _ => true
  | _ => false

def program : FormOp → EditSvc Unit
  | createField dto => (Forms.RegistrationFieldsService.create p dto).void
  | updateField id dto => (Forms.RegistrationFieldsService.update p id dto).void
  | removeField id => Forms.RegistrationFieldsService.remove id
  | createRegistration dto => (onStore (create rt dto)).void
  | updateRegistration id dto => (update rt id dto).void

/-- The store after an operation. -/
def perform (ch : Choice) (op : FormOp) (s : EditStore) : EditStore :=
  ((op.program rt p).run (editMachine rt ch) s).2

end FormOp

/-- The stores that a sequence of operations reaches, whose form edits are allowed. -/
inductive FormRun (allowed : EditStore → EditStore → Prop) (s₀ : EditStore) : EditStore → Prop
  | start : FormRun allowed s₀ s₀
  | perform {s : EditStore} (h : FormRun allowed s₀ s) (ch : Choice) (op : FormOp)
      (ha : op.editsForm = true → allowed s (op.perform rt p ch s)) :
      FormRun allowed s₀ (op.perform rt p ch s)
  | wait {s : EditStore} (h : FormRun allowed s₀ s) (now : Time) :
      FormRun allowed s₀ { s with base := { s.base with clock := now } }

/-- Every stored registration fits its form. -/
def AllFit (s : EditStore) : Prop := ∀ r ∈ s.base.registrations.rows, Fits rt s.base r

/-- The edit of the form that led from the one store to the other invalidates no stored value. -/
def KeepsFitting (s s' : EditStore) : Prop :=
  ∀ r ∈ s.base.registrations.rows, Fits rt s.base r → Fits rt s'.base r

/-- The update changes neither the custom fields nor the attendee type. -/
structure LeavesFields (dto : UpdateRegistrationDto) (r : Registration) : Prop where
  customFields : dto.customFields = .undefined ∨ dto.customFields = .value (storedFields r)
  attendeeType : dto.attendeeTypeId.value?.getD r.attendeeTypeId = r.attendeeTypeId

/-- The read of the fields that `validateCustomFields` makes. -/
def EditCall.validates : EditCall → Bool
  | .base (.fieldsToValidate _ _) => true
  | _ => false

/-- The update fails, and its last call is the one that validates the custom fields. -/
def RejectedForFields (ch : Choice) (s : EditStore) (id : Id) (dto : UpdateRegistrationDto) : Prop :=
  ((update rt id dto).run (editMachine rt ch) s).1.isOk = false ∧
    ((update rt id dto).calls (editMachine rt ch) s).getLast?.any (·.validates) = true

variable {rt p}

/-! ## Operations on registrations -/

theorem fits_of_sameFields {s s' : Store} {r : Registration}
    (hf : s'.registrationFields = s.registrationFields) (h : Fits rt s r) : Fits rt s' r :=
  (Accepts.congr hf).mpr h

theorem storedFields_of_patch (now : Time) (n : NormalizedUpdate) (attendeeTypeId : Id)
    (r : Registration) : storedFields (EditStore.applyRegistrationPatch now
      (updateData n attendeeTypeId) r) = nextFields r n := by
  unfold storedFields nextFields
  cases hgiven : n.customFields <;>
    simp [EditStore.applyRegistrationPatch, updateData, hgiven, Given.value?, storedFields,
      Json.record?]

/-- The custom fields of an updated registration are those that were validated. -/
theorem allFit_of_updated {s s' : EditStore} {id : Id} {dto : UpdateRegistrationDto}
    {row : Registration} (h : Updated rt s id dto row s') (hall : AllFit rt s) : AllFit rt s' := by
  obtain ⟨n, r, t, -, hfind, haccepts, hu, rfl⟩ := h
  obtain ⟨hr, hid⟩ := Table.find?_eq_some_iff.mp hfind
  obtain ⟨a, ha, hkey, hrow, hrows, _⟩ := Table.update_eq_done hu
  obtain rfl : a = r := s.base.registrations.eq_of_key ha hr (hkey.trans hid.symm)
  intro r' hr'
  have hfits : Fits rt s.base r' := by
    change r' ∈ t.rows at hr'
    rw [hrows] at hr'
    obtain ⟨b, hb, rfl⟩ := List.mem_map.mp hr'
    split
    · rw [hrow, Fits]
      change Accepts rt s.base a.eventId _ (storedFields (EditStore.applyRegistrationPatch
        s.base.clock (updateData n (n.attendeeTypeId.value?.getD a.attendeeTypeId)) a))
      rw [storedFields_of_patch]
      exact haccepts
    · exact hall b hb
  exact hfits

/-- An operation on registrations stores only what the form accepts. -/
theorem allFit_of_registration {ch : Choice} {op : FormOp} (hop : op.editsForm = false)
    {s : EditStore} (hall : AllFit rt s) : AllFit rt (op.perform rt p ch s) := by
  cases op with
  | createRegistration dto =>
      have hcreate : (create rt dto).After (machine rt ch) s.base _ := create_after dto s.base
      have hrun : (FormOp.createRegistration dto).perform rt p ch s =
          { s with base := ((create rt dto).run (machine rt ch) s.base).2 } := by
        rw [FormOp.perform, FormOp.program, run_void, run_onStore]
      rw [hrun]
      intro r hr
      apply fits_of_sameFields (run_registrationFields (create rt dto) s.base)
      rcases hcreate r hr with hold | hfits
      · exact hall r hold
      · exact hfits
  | updateRegistration id dto =>
      have hupdate : (update rt id dto).After (editMachine rt ch) s _ := update_after id dto s
      rw [FormOp.perform, FormOp.program, run_void]
      unfold After at hupdate
      rcases hrun : (update rt id dto).run (editMachine rt ch) s with ⟨x, s'⟩
      rw [hrun] at hupdate
      cases x with
      | error e => exact hupdate ▸ hall
      | ok row => exact allFit_of_updated hupdate hall
  | _ => cases hop

/-! ## Edits of the form -/

/-- The calls of the services that edit the form. -/
def EditCall.editsForm : EditCall → Bool
  | .fieldCreate _ => true
  | .fieldUpdate _ _ => true
  | .fieldDelete _ => true
  | c => c.reads

theorem editsForm_of_reads {c : EditCall} (h : c.reads = true) : c.editsForm = true := by
  cases c <;> first | rfl | exact h

theorem EditReads.editsForm {α : Type} {q : EditSvc α} (h : EditReads q) :
    q.All (·.editsForm = true) :=
  h.mono fun _ => editsForm_of_reads

theorem registrations_of_editsForm {ch : Choice} {c : EditCall} (hc : c.editsForm = true)
    (s : EditStore) : (editMachine rt ch c s).2.base.registrations = s.base.registrations := by
  cases c with
  | fieldCreate d =>
      simp only [editMachine, EditStore.createField]
      split
      · rfl
      · split
        · split <;> rfl
        · rfl
  | fieldUpdate id d =>
      simp only [editMachine, EditStore.updateField]
      split
      · rfl
      · split
        · split <;> rfl
        · rfl
  | fieldDelete id =>
      simp only [editMachine, EditStore.deleteField]
      split <;> rfl
  | registrationUpdate id d => cases hc
  | auditCreate d => cases hc
  | base c => rw [editMachine_reads rt ch (c := .base c) hc]
  | _ => rfl

namespace Forms.RegistrationFieldsService

theorem ensureAttendeeTypeBelongsToEvent_reads (attendeeTypeId : Option Id) (eventId : Id) :
    EditReads (ensureAttendeeTypeBelongsToEvent attendeeTypeId eventId) := by
  unfold ensureAttendeeTypeBelongsToEvent
  split
  · trivial
  · refine all_bind (all_call rfl) fun found => ?_
    cases found with
    | none => trivial
    | some attendeeType => exact all_ite trivial trivial

theorem ensureKeyIsUnique_reads (w : FieldWhere) : EditReads (ensureKeyIsUnique w) := by
  refine all_bind (all_call rfl) fun found => ?_
  cases found <;> trivial

theorem findOne_reads (id : Id) : EditReads (findOne id) := by
  refine all_bind (all_call rfl) fun found => ?_
  cases found <;> trivial

end Forms.RegistrationFieldsService

open Forms.RegistrationFieldsService in
theorem program_editsForm {op : FormOp} (hop : op.editsForm = true) :
    (op.program rt p).All (·.editsForm = true) := by
  have hevent : ∀ eventId, (onStore (ScansService.ensureEventCanBeModified eventId)).All
      (·.editsForm = true) := fun eventId =>
    (ScansService.ensureEventCanBeModified_checks eventId).reads.onStore.editsForm
  cases op with
  | createField dto =>
      refine all_void (all_bind (hevent _) fun _ => ?_)
      refine all_bind (ensureAttendeeTypeBelongsToEvent_reads _ _).editsForm fun _ => ?_
      refine all_bind (ensureKeyIsUnique_reads _).editsForm fun _ => ?_
      exact all_bind (all_ofExcept _) fun _ => all_call rfl
  | updateField id dto =>
      refine all_void (all_bind (findOne_reads id).editsForm fun field => ?_)
      refine all_bind (hevent _) fun _ => ?_
      refine all_bind (ensureAttendeeTypeBelongsToEvent_reads _ _).editsForm fun _ => ?_
      refine all_bind (ensureKeyIsUnique_reads _).editsForm fun _ => ?_
      exact all_bind (all_ofExcept _) fun _ => all_call rfl
  | removeField id =>
      refine all_bind (findOne_reads id).editsForm fun field => ?_
      exact all_bind (hevent _) fun _ => all_call rfl
  | _ => cases hop

/-- An edit of the form changes no registration. -/
theorem registrations_of_form {ch : Choice} {op : FormOp} (hop : op.editsForm = true)
    (s : EditStore) : (op.perform rt p ch s).base.registrations = s.base.registrations :=
  run_invariant (editMachine rt ch) (I := fun u => u.base.registrations = s.base.registrations)
    (fun _ hc u hu => (registrations_of_editsForm hc u).trans hu) (program_editsForm hop) rfl

/-- Every registration keeps fitting its form, as long as the edits of the form keep that. -/
theorem allFit_of_run {s₀ s : EditStore} (h₀ : AllFit rt s₀)
    (h : FormRun rt p (KeepsFitting rt) s₀ s) : AllFit rt s := by
  induction h with
  | start => exact h₀
  | @perform s _ ch op ha ih =>
      cases hop : op.editsForm with
      | false => exact allFit_of_registration hop ih
      | true =>
          have hsame : (op.perform rt p ch s).base.registrations = s.base.registrations :=
            registrations_of_form hop s
          intro r hr
          rw [hsame] at hr
          exact ha hop r hr (ih r hr)
  | wait _ now ih => exact fun r hr => fits_of_sameFields rfl (ih r hr)

/-! ## Where an update is refused -/

/-- Programs that validate no custom fields. -/
abbrev NoValidation {α : Type} (q : EditSvc α) : Prop := q.All (·.validates = false)

theorem ensureEventCanBeModified_noValidation (eventId : Id) :
    NoValidation (onStore (ScansService.ensureEventCanBeModified eventId)) := by
  refine EditCall.embedding.all_embed (P := fun c => c = .eventById eventId) ?_ ?_
  · rintro _ rfl
    rfl
  · refine all_bind (all_call rfl) fun event => ?_
    cases event with
    | none => trivial
    | some event => exact all_ite trivial trivial

theorem ensureAttendeeTypeCanBeUsed_noValidation (attendeeTypeId eventId : Id) :
    NoValidation (onStore (ensureAttendeeTypeCanBeUsed attendeeTypeId eventId)) := by
  refine EditCall.embedding.all_embed (P := fun c => c = .attendeeTypeById attendeeTypeId) ?_ ?_
  · rintro _ rfl
    rfl
  · refine all_bind (all_call rfl) fun attendeeType => ?_
    cases attendeeType with
    | none => trivial
    | some attendeeType => exact all_ite trivial (all_ite trivial trivial)

theorem registrationOrThrow_noValidation (id : Id) :
    NoValidation (registrationOrThrow id) := by
  refine all_bind (all_call rfl) fun found => ?_
  cases found <;> trivial

theorem ensureNoOtherDuplicate_noValidation (event : Event) (registration : Registration)
    (excludeId : Id) : NoValidation (ensureNoOtherDuplicate event registration excludeId) := by
  simp only [ensureNoOtherDuplicate]
  split
  · refine all_bind (all_call rfl) fun found => ?_
    cases found <;> trivial
  · trivial

variable {ch : Choice} {s : EditStore}

/-- The write of an update is its last call. -/
theorem calls_write (id : Id) (data : RegistrationPatch) (s : EditStore) :
    ((editCall (.registrationUpdate id data)).tryCatch throwConflictForUniqueConstraint).calls
      (editMachine rt ch) s = [.registrationUpdate id data] := by
  change .registrationUpdate id data ::
    ((ofExcept (editMachine rt ch (.registrationUpdate id data) s).1).tryCatch
      throwConflictForUniqueConstraint).calls (editMachine rt ch) _ = _
  cases (editMachine rt ch (.registrationUpdate id data) s).1 with
  | ok row => rfl
  | error e =>
      simp only [ofExcept_error, Prog.tryCatch, throwConflictForUniqueConstraint]
      split <;> rfl

/-- From the duplicate check on, accepted custom fields do not end an update. -/
theorem checkAndWrite_last {id : Id} {r : Registration} {event : Event} {n : NormalizedUpdate}
    {attendeeTypeId : Id} (hgiven : n.customFields.isNull = false)
    (haccepts : Accepts rt s.base r.eventId attendeeTypeId (nextFields r n)) {c : EditCall}
    (hlast : ((checkAndWrite rt id r event n attendeeTypeId).calls (editMachine rt ch) s).getLast? =
      some c) : c.validates = false := by
  by_contra hc
  simp only [checkAndWrite, bind_eq, tryCatch_eq] at hlast
  obtain ⟨_, s₁, hrun, hlast₁⟩ := last_of_bind (ensureNoOtherDuplicate_noValidation _ _ _) hc hlast
  obtain rfl : s₁ = s := by
    have hsame := (ensureNoOtherDuplicate_reads event (nextRegistration r n attendeeTypeId) id).run
      rt ch s
    rwa [hrun] at hsame
  have hvalid : (validateNextFields rt r n attendeeTypeId).run (editMachine rt ch) s₁ =
      (.ok (), s₁) := by
    rw [run_validateNextFields, hgiven, accepts_iff_read.mp haccepts]
    rfl
  rw [calls_bind_ok hvalid, calls_write, List.getLast?_concat] at hlast₁
  cases hlast₁
  exact hc rfl

/-- An update that leaves the custom fields alone validates those stored. -/
theorem nextFields_of_leaves {dto : UpdateRegistrationDto} {n : NormalizedUpdate}
    (hn : normalizeUpdateDto dto = .ok n) {r : Registration} (hleaves : LeavesFields dto r) :
    n.customFields.isNull = false ∧ nextFields r n = storedFields r ∧
      n.attendeeTypeId.value?.getD r.attendeeTypeId = r.attendeeTypeId := by
  have hkept : n.customFields = dto.customFields ∧ n.attendeeTypeId = dto.attendeeTypeId := by
    simp only [normalizeUpdateDto, bind, Except.bind] at hn
    split at hn
    · cases hn
    · split at hn
      · cases hn
      · split at hn
        · cases hn
        · cases hn
          exact ⟨rfl, rfl⟩
  refine ⟨?_, ?_, ?_⟩
  · rcases hleaves.customFields with h | h <;> rw [hkept.1, h] <;> rfl
  · rcases hleaves.customFields with h | h <;> rw [nextFields, hkept.1, h] <;> rfl
  · rw [hkept.2, hleaves.attendeeType]

/-- Accepted custom fields do not end an update. -/
theorem update_last {id : Id} {dto : UpdateRegistrationDto} {r : Registration}
    (hfind : s.base.registrations.find? id = some r) (hleaves : LeavesFields dto r)
    (hfits : Fits rt s.base r) {c : EditCall}
    (hlast : ((update rt id dto).calls (editMachine rt ch) s).getLast? = some c) :
    c.validates = false := by
  by_contra hc
  simp only [update, bind_eq] at hlast
  obtain ⟨n, s₁, hrun, hlast₁⟩ := last_of_bind (P := (·.validates = false)) (all_ofExcept _) hc hlast
  obtain ⟨hn, rfl⟩ := run_ofExcept_eq_ok _ hrun
  obtain ⟨r', s₂, hr, hlast₂⟩ := last_of_bind (registrationOrThrow_noValidation id) hc hlast₁
  obtain rfl : s₂ = s₁ := by
    have hsame := (registrationOrThrow_reads id).run rt ch s₁
    rwa [hr] at hsame
  obtain rfl : r' = r := by
    have hfound := run_registrationOrThrow_ok (congrArg Prod.fst hr)
    exact Option.some.inj (hfound.symm.trans hfind)
  obtain ⟨event, s₃, hevent, hlast₃⟩ :=
    last_of_bind (ensureEventCanBeModified_noValidation _) hc hlast₂
  obtain rfl : s₃ = s₂ := by
    have hsame := (ScansService.ensureEventCanBeModified_checks r'.eventId).reads.onStore.run rt ch s₂
    rwa [hevent] at hsame
  obtain ⟨hgiven, hnext, htype⟩ := nextFields_of_leaves hn hleaves
  rw [htype] at hlast₃
  have haccepts : Accepts rt s₃.base r'.eventId r'.attendeeTypeId (nextFields r' n) := by
    rw [hnext]
    exact hfits
  split at hlast₃
  · obtain ⟨_, s₄, htype, hlast₄⟩ :=
      last_of_bind (ensureAttendeeTypeCanBeUsed_noValidation _ _) hc hlast₃
    obtain rfl : s₄ = s₃ := by
      have hsame := (ensureAttendeeTypeCanBeUsed_reads r'.attendeeTypeId r'.eventId).onStore.run
        rt ch s₃
      rwa [htype] at hsame
    exact hc (checkAndWrite_last hgiven haccepts hlast₄)
  · exact hc (checkAndWrite_last hgiven haccepts hlast₃)

/-- An update that leaves the custom fields alone succeeds only where those stored are accepted. -/
theorem fits_of_update_ok {id : Id} {dto : UpdateRegistrationDto} {r : Registration}
    (hfind : s.base.registrations.find? id = some r) (hleaves : LeavesFields dto r)
    (hok : ((update rt id dto).run (editMachine rt ch) s).1.isOk = true) : Fits rt s.base r := by
  have hupdate : (update rt id dto).After (editMachine rt ch) s _ := update_after id dto s
  unfold After at hupdate
  cases hx : ((update rt id dto).run (editMachine rt ch) s).1 with
  | error e =>
      rw [hx] at hok
      cases hok
  | ok x =>
      rw [hx] at hupdate
      obtain ⟨n, r', t, hn, hfind', haccepts, -⟩ := hupdate
      obtain rfl : r' = r := Option.some.inj (hfind'.symm.trans hfind)
      obtain ⟨-, hnext, htype⟩ := nextFields_of_leaves hn hleaves
      rwa [hnext, htype] at haccepts

theorem not_fits_of_rejected {id : Id} {dto : UpdateRegistrationDto} {r : Registration}
    (hfind : s.base.registrations.find? id = some r) (hleaves : LeavesFields dto r)
    (hrejected : RejectedForFields rt ch s id dto) : ¬ Fits rt s.base r := by
  intro hfits
  obtain ⟨c, hlast, hc⟩ := (Option.any_eq_true _ _).mp hrejected.2
  exact Bool.noConfusion (hc.symm.trans (update_last hfind hleaves hfits hlast))

namespace Forms

/-- Case mapping as JavaScript does it for ASCII letters. -/
def formPlatform : Platform where
  toNumber _ := none
  isDateString _ := true
  parseDate _ := none
  toUpperCase s := s
  toLowerCase := toLowerCase

def emptyForm : EditStore := { base := AttendeeTypesService.sampleForm [] }

def visitor : CreateRegistrationDto where
  eventId := "c0"
  attendeeTypeId := "c0"
  fullName := "Lina"
  phone := "0999"

def badgeName (isRequired : Bool) : CreateRegistrationFieldDto where
  eventId := "c0"
  key := "badgeName"
  labelAr := "badge"
  type := .TEXT
  isRequired := .value isRequired

def otherPhone : UpdateRegistrationDto where
  phone := .value "0988"

/-- The visitor registers, and the field is added. -/
def withField (isRequired : Bool) : EditStore :=
  (FormOp.createField (badgeName isRequired)).perform sampleRuntime formPlatform {}
    ((FormOp.createRegistration visitor).perform sampleRuntime formPlatform {} emptyForm)

theorem withField_run {allowed : EditStore → EditStore → Prop} {isRequired : Bool}
    (h : allowed ((FormOp.createRegistration visitor).perform sampleRuntime formPlatform {} emptyForm)
      (withField isRequired)) :
    FormRun sampleRuntime formPlatform allowed emptyForm (withField isRequired) := by
  refine .perform (.perform .start {} (.createRegistration visitor) ?_) {} (.createField _) ?_
  · intro hedits
    cases hedits
  · intro _
    exact h

theorem otherPhone_leaves (r : Registration) : LeavesFields otherPhone r := ⟨.inl rfl, rfl⟩

end Forms

open Forms

end CreativeBackend
