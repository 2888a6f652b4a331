import CreativeBackend.Registrations.UpdateEffects

/-!
# Duplicate registrations

The duplicate strategy of an event names the fields in which no two of its registrations may agree.
`create` and `update` ask the database about these fields. The unique keys of the table are on all
three fields, whatever the strategy names, and their violation is reported with the same message.
-/

namespace CreativeBackend

open Relational Interaction Prog

/-! ## What a strategy names -/

/-- The fields on which registrations of an event can collide. -/
inductive DuplicateField where
  | phone
  | email
  | externalId

/-- The value of a registration in a field. -/
def DuplicateField.get : DuplicateField → Registration → Option String
  | .phone => (·.phone)
  | .email => (·.email)
  | .externalId => (·.externalId)

/-- The fields that a duplicate strategy names, in any letter case. -/
def StrategyNames (strategy : String) : DuplicateField → Prop
  | .phone => toUpperCase strategy = "PHONE" ∨ toUpperCase strategy = "PHONE_OR_EMAIL"
  | .email => toUpperCase strategy = "EMAIL" ∨ toUpperCase strategy = "PHONE_OR_EMAIL"
  | .externalId => toUpperCase strategy = "EXTERNAL_ID"

/-- Two registrations have one non-empty value in a field. -/
def Agree (field : DuplicateField) (a b : Registration) : Prop :=
  ∃ v, v ≠ "" ∧ field.get a = some v ∧ field.get b = some v

/-- One of the rows is of the event of `next` and agrees with it in one of the fields. -/
def Duplicated (fields : DuplicateField → Prop) (rows : List Registration)
    (next : Registration) : Prop :=
  ∃ r ∈ rows, r.eventId = next.eventId ∧ ∃ field, fields field ∧ Agree field r next

/-- `Duplicate registration for this event`. -/
def duplicateError : Exn := .conflict "Duplicate registration for this event"

/-- Every field. -/
def anyField (_ : DuplicateField) : Prop := True

theorem Duplicated.mono {fields fields' : DuplicateField → Prop} {rows : List Registration}
    {next : Registration} (h : Duplicated fields rows next)
    (hsub : ∀ field, fields field → fields' field) : Duplicated fields' rows next := by
  obtain ⟨r, hr, hevent, field, hf, hagree⟩ := h
  exact ⟨r, hr, hevent, field, hsub field hf, hagree⟩

theorem duplicated_congr {fields : DuplicateField → Prop} {rows : List Registration}
    {a b : Registration} (hevent : a.eventId = b.eventId)
    (hget : ∀ field : DuplicateField, field.get a = field.get b) :
    Duplicated fields rows a ↔ Duplicated fields rows b := by
  simp only [Duplicated, Agree, hevent, hget]

theorem not_duplicated_none {rows : List Registration} {next : Registration} {strategy : String}
    (h : toUpperCase strategy = "NONE") : ¬ Duplicated (StrategyNames strategy) rows next := by
  rintro ⟨r, -, -, field, hf, -⟩
  cases field <;> simp [StrategyNames, h] at hf

theorem sameKey_iff {a b : Option String} : sameKey a b = true ↔ ∃ v, a = some v ∧ b = some v := by
  cases a with
  | none => simp [sameKey]
  | some w =>
      simp only [sameKey, Option.isSome_some, Bool.true_and, beq_iff_eq, Option.some.injEq]
      constructor
      · rintro rfl
        exact ⟨w, rfl, rfl⟩
      · rintro ⟨v, rfl, rfl⟩
        rfl

theorem sameKey_ite {p : Prop} [Decidable p] {a b : Option String} :
    sameKey (if p then truthy a else none) b = true ↔
      p ∧ ∃ v, v ≠ "" ∧ b = some v ∧ a = some v := by
  rw [sameKey_iff]
  by_cases hp : p
  · simp only [hp, if_true, true_and, truthy_eq_some_iff]
    constructor
    · rintro ⟨v, ⟨ha, hv⟩, hb⟩
      exact ⟨v, hv, hb, ha⟩
    · rintro ⟨v, hv, hb, ha⟩
      exact ⟨v, ⟨ha, hv⟩, hb⟩
  · simp [hp]

namespace Store

variable {s : Store} {data : Registration}

theorem createRegistration_taken
    (hrefs : (refers s.events data.eventId && refers s.attendeeTypes data.attendeeTypeId) = true)
    (h : s.registrations.create (registrationRow s.clock data) = none) :
    s.createRegistration data = (.error (.prisma .uniqueConstraint), s) := by
  rw [createRegistration, if_pos hrefs, h]

theorem createRegistration_made {made : Registration × Table Registration}
    (hrefs : (refers s.events data.eventId && refers s.attendeeTypes data.attendeeTypeId) = true)
    (h : s.registrations.create (registrationRow s.clock data) = some made) :
    s.createRegistration data = (.ok made.1, { s with registrations := made.2 }) := by
  rw [createRegistration, if_pos hrefs, h]

end Store

namespace RegistrationsService

variable {rt : Runtime} {ch : Choice}

/-- The lookup finds the registrations of the event that agree in a field that is named. -/
theorem duplicateChecks_holds {event : Event} {next r : Registration} :
    (duplicateChecks event next).holds r = true ↔ r.eventId = next.eventId ∧
      ∃ field, StrategyNames event.duplicateStrategy field ∧ Agree field r next := by
  simp only [duplicateChecks, RegistrationWhere.holds, Bool.and_eq_true, Bool.or_eq_true,
    beq_iff_eq, sameKey_ite]
  apply and_congr_right
  intro _
  constructor
  · rintro ((⟨hs, h⟩ | ⟨hs, h⟩) | ⟨hs, h⟩)
    · exact ⟨.phone, hs, h⟩
    · exact ⟨.email, hs, h⟩
    · exact ⟨.externalId, hs, h⟩
  · rintro ⟨field, hs, h⟩
    cases field with
    | phone => exact .inl (.inl ⟨hs, h⟩)
    | email => exact .inl (.inr ⟨hs, h⟩)
    | externalId => exact .inr ⟨hs, h⟩

/-- A lookup without alternatives finds nothing. -/
theorem asks_of_holds {w : RegistrationWhere} {r : Registration} (h : w.holds r = true) :
    w.asks = true := by
  simp only [RegistrationWhere.holds, Bool.and_eq_true, Bool.or_eq_true, sameKey_iff] at h
  obtain ⟨-, (⟨v, hv, -⟩ | ⟨v, hv, -⟩) | ⟨v, hv, -⟩⟩ := h <;> simp [RegistrationWhere.asks, hv]

/-- A lookup among rows finds one if and only if they are duplicated in a field that is named. -/
theorem duplicated_iff_found {event : Event} {next : Registration} {rows : List Registration} :
    Duplicated (StrategyNames event.duplicateStrategy) rows next ↔
      rows.filter (duplicateChecks event next).holds ≠ [] := by
  rw [Ne, List.filter_eq_nil_iff]
  simp only [duplicateChecks_holds, not_forall, not_not, Duplicated, exists_prop]

/-! ## The check before the write -/

theorem run_ensureDuplicateAllowed_duplicated {event : Event} {next : Registration} {s : Store}
    (h : Duplicated (StrategyNames event.duplicateStrategy) s.registrations.rows next) :
    (ensureDuplicateAllowed event next).run (machine rt ch) s = (.error duplicateError, s) := by
  obtain ⟨r, hr, hheld⟩ := h
  have hasks := asks_of_holds (duplicateChecks_holds.mpr hheld)
  cases hfirst : ch.first (s.registrations.rows.filter (duplicateChecks event next).holds) with
  | none =>
      rw [Choice.first_eq_none] at hfirst
      exact absurd hfirst (duplicated_iff_found.mp ⟨r, hr, hheld⟩)
  | some found =>
      have hread : (call (.registrationFirst (duplicateChecks event next))).run (machine rt ch) s =
          (.ok (some found), s) := by rw [← hfirst]; rfl
      simp only [ensureDuplicateAllowed, hasks, if_true, bind_eq]
      rw [run_bind_ok _ hread]
      rfl

theorem run_ensureDuplicateAllowed_free {event : Event} {next : Registration} {s : Store}
    (h : ¬ Duplicated (StrategyNames event.duplicateStrategy) s.registrations.rows next) :
    (ensureDuplicateAllowed event next).run (machine rt ch) s = (.ok (), s) := by
  rw [duplicated_iff_found, not_not] at h
  have hread : (call (.registrationFirst (duplicateChecks event next))).run (machine rt ch) s =
      (.ok none, s) := by
    have hfirst : ch.first (s.registrations.rows.filter (duplicateChecks event next).holds) = none :=
      Choice.first_eq_none.mpr h
    rw [← hfirst]
    rfl
  simp only [ensureDuplicateAllowed]
  split
  · rw [bind_eq, run_bind_ok _ hread]
    rfl
  · rfl

/-! ## Creation -/

/-- A creation that nothing but a duplicate can be held against. -/
structure Creatable (rt : Runtime) (s : Store) (dto : CreateRegistrationDto)
    (registration : Registration) (event : Event) : Prop where
  normalized : normalizeCreateDto dto = .ok registration
  found : s.events.find? registration.eventId = some event
  modifiable : event.status ≠ .ARCHIVED
  attendeeType : ∃ t, s.attendeeTypes.find? registration.attendeeTypeId = some t ∧
    t.eventId = registration.eventId ∧ t.isActive = true
  fields : Accepts rt s registration.eventId registration.attendeeTypeId
    ((Json.record? registration.customFields).getD [])

/-- A public id is drawn that no registration has. -/
def DrawsFreeId (rt : Runtime) (ch : Choice) (s : Store) : Prop :=
  ∃ publicId, (generatePublicId.run (machine rt ch) s).1 = .ok publicId

theorem tryPublicIds_unused {attempts : Nat} {s s' : Store} {publicId : String}
    (h : (tryPublicIds attempts).run (machine rt ch) s = (.ok publicId, s')) :
    ∀ r ∈ s.registrations.rows, r.publicId ≠ publicId := by
  induction attempts generalizing s with
  | zero => cases h
  | succ n ih =>
      obtain ⟨hex, s₁, hdraw, h₁⟩ := run_bind_eq_ok _ h
      rw [call, run_call] at hdraw
      cases hdraw
      obtain ⟨found, s₂, hread, h₂⟩ := run_bind_eq_ok _ h₁
      rw [call, run_call] at hread
      cases hread
      cases hfound : s.registrations.rows.find? fun r =>
          r.publicId = "REG_" ++ toUpperCase (rt.random s.draws) with
      | none =>
          dsimp only at h₂
          rw [hfound] at h₂
          cases h₂
          simpa using List.find?_eq_none.mp hfound
      | some r =>
          dsimp only at h₂
          rw [hfound] at h₂
          exact ih (s := { s with draws := s.draws + 1 }) h₂

/-- Rows of one event with distinct public ids collide if and only if they agree in a field, where
none of their values is empty. -/
theorem clash_iff {a b : Registration} (hid : a.publicId ≠ b.publicId) :
    clash a b = true ↔ a.eventId = b.eventId ∧
      ∃ field v, DuplicateField.get field a = some v ∧ field.get b = some v := by
  have hne : (a.publicId == b.publicId) = false := by simpa using hid
  simp only [clash, hne, Bool.false_or, Bool.and_eq_true, Bool.or_eq_true, beq_iff_eq, sameKey_iff]
  apply and_congr_right
  intro _
  constructor
  · rintro ((⟨v, h⟩ | ⟨v, h⟩) | ⟨v, h⟩)
    · exact ⟨.phone, v, h⟩
    · exact ⟨.email, v, h⟩
    · exact ⟨.externalId, v, h⟩
  · rintro ⟨field, v, h⟩
    cases field with
    | phone => exact .inl (.inl ⟨v, h⟩)
    | email => exact .inl (.inr ⟨v, h⟩)
    | externalId => exact .inr ⟨v, h⟩

theorem normalizeRequiredString_ok {value field v : String}
    (h : normalizeRequiredString value field = .ok v) : v ≠ "" := by
  simp only [normalizeRequiredString] at h
  split at h
  · cases h
  · next hne =>
      cases h
      exact hne

theorem ne_empty_of_optional {value : Option String} {v : String}
    (h : normalizeOptionalString value = some v) : v ≠ "" :=
  (truthy_eq_some_iff.mp h).2

theorem normalizeOptionalStringToNull_ok {value : Option String} {o : Option String} {v : String}
    (h : normalizeOptionalStringToNull value = .ok o) (hv : o = some v) : v ≠ "" := by
  simp only [normalizeOptionalStringToNull] at h
  split at h
  · cases h
    cases hv
  · next trimmed htrimmed =>
      split at h
      · cases h
        cases hv
        exact ne_empty_of_optional htrimmed
      · cases h

/-- No value of a normalised input is empty. -/
theorem get_ne_empty {dto : CreateRegistrationDto} {registration : Registration}
    (h : normalizeCreateDto dto = .ok registration) {field : DuplicateField} {v : String}
    (hv : field.get registration = some v) : v ≠ "" := by
  obtain ⟨fullName, -, h₁⟩ := Except.exists_of_bind_eq_ok h
  obtain ⟨phone, hphone, h₂⟩ := Except.exists_of_bind_eq_ok h₁
  obtain ⟨email, hemail, h₃⟩ := Except.exists_of_bind_eq_ok h₂
  cases h₃
  cases field with
  | phone =>
      cases hv
      exact normalizeRequiredString_ok hphone
  | email => exact normalizeOptionalStringToNull_ok hemail hv
  | externalId => exact ne_empty_of_optional hv

theorem tryPublicIds_error {attempts : Nat} {s s' : Store} {e : Exn}
    (h : (tryPublicIds attempts).run (machine rt ch) s = (.error e, s')) :
    e = .conflict "Could not generate unique registration ID" := by
  induction attempts generalizing s with
  | zero =>
      cases h
      rfl
  | succ n ih =>
      have hdraw : (call .random).run (machine rt ch) s =
          (.ok (rt.random s.draws), { s with draws := s.draws + 1 }) := rfl
      simp only [tryPublicIds, bind_eq] at h
      rw [run_bind_ok _ hdraw] at h
      have hread : (call (.registrationByPublicId ("REG_" ++ toUpperCase (rt.random s.draws)))).run
          (machine rt ch) { s with draws := s.draws + 1 } =
            (.ok (s.registrations.rows.find? fun r =>
              r.publicId = "REG_" ++ toUpperCase (rt.random s.draws)),
              { s with draws := s.draws + 1 }) := rfl
      rw [run_bind_ok _ hread] at h
      split at h
      · cases h
      · exact ih h

theorem generatePublicId_sameRows {s s' : Store} {x : Except Exn String}
    (h : generatePublicId.run (machine rt ch) s = (x, s')) : SameRows s s' := by
  have hformats : Formats generatePublicId :=
    (tryPublicIds_draws 5).mono fun _ => formats_of_draws
  have hsame := hformats.sameRows rt ch s
  rwa [h] at hsame

/-- The row of a new registration under an unused public id can be inserted if and only if it
agrees with no registration of the event in any field. -/
theorem create_eq_none_iff {t : Table Registration} {registration : Registration} {now : Time}
    (hunused : ∀ r ∈ t.rows, r.publicId ≠ registration.publicId)
    (hvalues : ∀ field v, DuplicateField.get field registration = some v → v ≠ "") :
    t.create (Store.registrationRow now registration) = none ↔
      Duplicated anyField t.rows registration := by
  set row := withKey (fresh t.serial) (Store.registrationRow now registration) with hrow
  have hget : ∀ field : DuplicateField, field.get row = field.get registration := by
    intro field
    cases field <;> rfl
  constructor
  · intro hnone
    by_contra hfree
    have hno : ∀ b ∈ t.rows, clash row b = false ∧ clash b row = false := by
      intro b hb
      have hne : row.publicId ≠ b.publicId := (hunused b hb).symm
      constructor
      · apply Bool.eq_false_iff.mpr
        intro hclash
        obtain ⟨hevent, field, v, hr, hv⟩ := (clash_iff hne).mp hclash
        rw [hget] at hr
        exact hfree ⟨b, hb, hevent.symm, field, trivial, v, hvalues field v hr, hv, hr⟩
      · apply Bool.eq_false_iff.mpr
        intro hclash
        obtain ⟨hevent, field, v, hv, hr⟩ := (clash_iff hne.symm).mp hclash
        rw [hget] at hr
        exact hfree ⟨b, hb, hevent, field, trivial, v, hvalues field v hr, hv, hr⟩
    obtain ⟨t', hsome⟩ := Table.exists_create hno
    rw [hnone] at hsome
    cases hsome
  · rintro ⟨b, hb, hevent, field, -, v, -, hv, hr⟩
    cases hcreate : t.create (Store.registrationRow now registration) with
    | none => rfl
    | some made =>
        obtain ⟨made, t'⟩ := made
        have hmade : made = row := (Table.create_eq_some hcreate).1
        subst hmade
        have hne : b.publicId ≠ row.publicId := hunused b hb
        exact absurd ((clash_iff hne).mpr ⟨hevent, field, v, hv, (hget field).trans hr⟩)
          (Table.not_clash_of_create hcreate hb)

/-- What the insertion of a row under an unused public id answers. -/
theorem createRegistration_cases_of_unused {s : Store} (data : Registration)
    (hrefs : (Store.refers s.events data.eventId &&
      Store.refers s.attendeeTypes data.attendeeTypeId) = true)
    (hunused : ∀ r ∈ s.registrations.rows, r.publicId ≠ data.publicId)
    (hvalues : ∀ field v, DuplicateField.get field data = some v → v ≠ "") :
    Duplicated anyField s.registrations.rows data ∧
        s.createRegistration data = (.error (.prisma .uniqueConstraint), s) ∨
      ¬ Duplicated anyField s.registrations.rows data ∧
        ∃ row s', s.createRegistration data = (.ok row, s') := by
  have hnone : s.registrations.create (Store.registrationRow s.clock data) = none ↔
      Duplicated anyField s.registrations.rows data := create_eq_none_iff hunused hvalues
  rw [← hnone]
  cases hcreate : s.registrations.create (Store.registrationRow s.clock data) with
  | none => exact .inl ⟨rfl, Store.createRegistration_taken hrefs hcreate⟩
  | some made =>
      exact .inr ⟨Option.some_ne_none made, _, _, Store.createRegistration_made hrefs hcreate⟩

/-- The write of a registration that refers to rows is a duplicate if and only if it has a public
id and agrees with a registration of the event in some field. -/
theorem createRegistrationOrThrowConflict_duplicate {s : Store} {registration : Registration}
    (hrefs : (Store.refers s.events registration.eventId &&
      Store.refers s.attendeeTypes registration.attendeeTypeId) = true)
    (hvalues : ∀ field v, DuplicateField.get field registration = some v → v ≠ "") :
    ((createRegistrationOrThrowConflict registration).run (machine rt ch) s).1 =
        .error duplicateError ↔
      DrawsFreeId rt ch s ∧ Duplicated anyField s.registrations.rows registration := by
  simp only [createRegistrationOrThrowConflict, tryCatch_eq, bind_eq]
  rw [run_tryCatch]
  rcases hdraw : generatePublicId.run (machine rt ch) s with ⟨x, s₁⟩
  have hsame : SameRows s s₁ := generatePublicId_sameRows hdraw
  cases x with
  | error e =>
      obtain rfl : e = .conflict "Could not generate unique registration ID" :=
        tryPublicIds_error hdraw
      rw [run_bind_error _ hdraw]
      constructor
      · intro h
        simp [duplicateError] at h
      · rintro ⟨⟨publicId, h⟩, -⟩
        rw [hdraw] at h
        cases h
  | ok publicId =>
      have hunused : ∀ r ∈ s.registrations.rows, r.publicId ≠ publicId := tryPublicIds_unused hdraw
      have hdraws : DrawsFreeId rt ch s := ⟨publicId, by rw [hdraw]⟩
      have hget : ∀ field : DuplicateField,
          field.get { registration with publicId } = field.get registration := by
        intro field
        cases field <;> rfl
      have hdups : Duplicated anyField s.registrations.rows { registration with publicId } ↔
          Duplicated anyField s.registrations.rows registration := duplicated_congr rfl hget
      have hwrite := createRegistration_cases_of_unused (s := s₁) { registration with publicId }
      simp only [hsame.events, hsame.attendeeTypes, hsame.registrations, hget, hdups] at hwrite
      rw [run_bind_ok _ hdraw, call, run_call]
      rcases hwrite hrefs hunused hvalues with ⟨hdup, herror⟩ | ⟨hfree, row, s', hok⟩
      · have hrun : machine rt ch (.registrationCreate { registration with publicId }) s₁ =
            (.error (.prisma .uniqueConstraint), s₁) := herror
        rw [hrun]
        exact ⟨fun _ => ⟨hdraws, hdup⟩, fun _ => rfl⟩
      · have hrun : machine rt ch (.registrationCreate { registration with publicId }) s₁ =
            (.ok row, s') := hok
        rw [hrun]
        constructor
        · intro h
          cases h
        · rintro ⟨-, hdup⟩
          exact absurd hdup hfree

theorem run_ensureEventCanBeModified {s : Store} {event : Event} {eventId : Id}
    (hfound : s.events.find? eventId = some event) (hopen : event.status ≠ .ARCHIVED) :
    (ScansService.ensureEventCanBeModified eventId).run (machine rt ch) s = (.ok event, s) := by
  have hread : (call (.eventById eventId)).run (machine rt ch) s = (.ok (some event), s) := by
    rw [← hfound]
    rfl
  simp only [ScansService.ensureEventCanBeModified, bind_eq]
  rw [run_bind_ok _ hread]
  simp only [if_neg hopen]
  rfl

theorem run_ensureAttendeeTypeCanBeUsed {s : Store} {t : AttendeeType} {attendeeTypeId eventId : Id}
    (hfound : s.attendeeTypes.find? attendeeTypeId = some t) (hevent : t.eventId = eventId)
    (hactive : t.isActive = true) :
    (ensureAttendeeTypeCanBeUsed attendeeTypeId eventId).run (machine rt ch) s = (.ok t, s) := by
  have hread : (call (.attendeeTypeById attendeeTypeId)).run (machine rt ch) s =
      (.ok (some t), s) := by
    rw [← hfound]
    rfl
  simp only [ensureAttendeeTypeCanBeUsed, bind_eq]
  rw [run_bind_ok _ hread]
  simp [hevent, hactive]

/-- The job of the pipeline does not decide the answer. -/
theorem run_enqueueRegistrationPipeline (registration : Registration) (s : Store) :
    ((enqueueRegistrationPipeline rt registration).run (machine rt ch) s).1 = .ok () := by
  unfold enqueueRegistrationPipeline
  split <;> rfl

/-- A creation is refused as a duplicate if and only if the registration agrees with another one of
the event in a field that the strategy names, or, once it has a public id, in any field. -/
theorem create_duplicate_iff {s : Store} {dto : CreateRegistrationDto} {registration : Registration}
    {event : Event} (h : Creatable rt s dto registration event) :
    ((create rt dto).run (machine rt ch) s).1 = .error duplicateError ↔
      Duplicated (StrategyNames event.duplicateStrategy) s.registrations.rows registration ∨
        DrawsFreeId rt ch s ∧ Duplicated anyField s.registrations.rows registration := by
  obtain ⟨t, htype, htypeEvent, hactive⟩ := h.attendeeType
  have hstart : (create rt dto).run (machine rt ch) s =
      ((ensureDuplicateAllowed event registration).bind fun _ =>
        (validateStoredFields rt registration.eventId registration.attendeeTypeId
          ((Json.record? registration.customFields).getD [])).bind fun _ =>
        (createRegistrationOrThrowConflict registration).bind fun created =>
        (enqueueRegistrationPipeline rt created).bind fun _ => .ret created).run
          (machine rt ch) s := by
    simp only [create, createNormalized, bind_eq, h.normalized, ofExcept_ok]
    rw [Prog.bind_ret, run_bind_ok _ (run_ensureEventCanBeModified h.found h.modifiable),
      run_bind_ok _ (run_ensureAttendeeTypeCanBeUsed htype htypeEvent hactive)]
    rfl
  rw [hstart]
  by_cases hnamed :
      Duplicated (StrategyNames event.duplicateStrategy) s.registrations.rows registration
  · rw [run_bind_error _ (run_ensureDuplicateAllowed_duplicated hnamed)]
    exact ⟨fun _ => .inl hnamed, fun _ => rfl⟩
  · have hvalid : (validateStoredFields rt registration.eventId registration.attendeeTypeId
        ((Json.record? registration.customFields).getD [])).run (machine rt ch) s = (.ok (), s) := by
      rw [run_validateStoredFields, accepts_iff_read.mp h.fields]
    have hrefs : (Store.refers s.events registration.eventId &&
        Store.refers s.attendeeTypes registration.attendeeTypeId) = true := by
      simp [Store.refers, h.found, htype]
    rw [run_bind_ok _ (run_ensureDuplicateAllowed_free hnamed), run_bind_ok _ hvalid,
      or_iff_right hnamed,
      ← createRegistrationOrThrowConflict_duplicate hrefs fun _ _ => get_ne_empty h.normalized]
    rcases hcreate : (createRegistrationOrThrowConflict registration).run (machine rt ch) s with
      ⟨x, s'⟩
    cases x with
    | error e =>
        rw [run_bind_error _ hcreate]
    | ok created =>
        rw [run_bind_ok _ hcreate]
        rcases hpipeline : (enqueueRegistrationPipeline rt created).run (machine rt ch) s' with
          ⟨y, s''⟩
        obtain rfl : y = .ok () := by
          rw [← run_enqueueRegistrationPipeline created s', hpipeline]
        rw [run_bind_ok _ hpipeline]
        constructor <;>
        · intro hcontra
          cases hcontra

/-! ## Update -/

/-- The attendee type of a registration after an update. -/
def nextType (r : Registration) (n : NormalizedUpdate) : Id :=
  n.attendeeTypeId.value?.getD r.attendeeTypeId

/-- An update that nothing but a duplicate can be held against. -/
structure Updatable (rt : Runtime) (s : Store) (id : Id) (dto : UpdateRegistrationDto)
    (n : NormalizedUpdate) (r : Registration) (event : Event) : Prop where
  normalized : normalizeUpdateDto dto = .ok n
  stored : s.registrations.find? id = some r
  found : s.events.find? r.eventId = some event
  modifiable : event.status ≠ .ARCHIVED
  attendeeType : ∃ t, s.attendeeTypes.find? (nextType r n) = some t ∧
    ((truthy n.attendeeTypeId.value?).isSome → t.eventId = r.eventId ∧ t.isActive = true)
  given : n.customFields.isNull = false
  fields : Accepts rt s r.eventId (nextType r n) (nextFields r n)

/-- The other registrations. -/
def others (s : Store) (id : Id) : List Registration :=
  s.registrations.rows.filter fun r => r.id != id

theorem mem_others {s : Store} {id : Id} {r : Registration} :
    r ∈ others s id ↔ r ∈ s.registrations.rows ∧ r.id ≠ id := by
  simp [others]

theorem filter_others (w : RegistrationWhere) (s : Store) (id : Id) :
    (s.registrations.rows.filter fun r => w.holds r && r.id != id) =
      (others s id).filter w.holds := by
  rw [others, List.filter_filter]

theorem run_ensureNoOtherDuplicate_duplicated {event : Event} {next : Registration} {id : Id}
    {s : EditStore}
    (h : Duplicated (StrategyNames event.duplicateStrategy) (others s.base id) next) :
    (ensureNoOtherDuplicate event next id).run (editMachine rt ch) s =
      (.error duplicateError, s) := by
  obtain ⟨r, hr, hheld⟩ := h
  have hasks := asks_of_holds (duplicateChecks_holds.mpr hheld)
  cases hfirst : ch.first ((others s.base id).filter (duplicateChecks event next).holds) with
  | none =>
      rw [Choice.first_eq_none] at hfirst
      exact absurd hfirst (duplicated_iff_found.mp ⟨r, hr, hheld⟩)
  | some found =>
      have hread : (editCall (.registrationOther (duplicateChecks event next) id)).run
          (editMachine rt ch) s = (.ok (some found), s) := by
        rw [← hfirst, ← filter_others]
        rfl
      simp only [ensureNoOtherDuplicate, hasks, if_true, bind_eq]
      rw [run_bind_ok _ hread]
      rfl

theorem run_ensureNoOtherDuplicate_free {event : Event} {next : Registration} {id : Id}
    {s : EditStore}
    (h : ¬ Duplicated (StrategyNames event.duplicateStrategy) (others s.base id) next) :
    (ensureNoOtherDuplicate event next id).run (editMachine rt ch) s = (.ok (), s) := by
  rw [duplicated_iff_found, not_not] at h
  have hread : (editCall (.registrationOther (duplicateChecks event next) id)).run
      (editMachine rt ch) s = (.ok none, s) := by
    have hfirst : ch.first ((others s.base id).filter (duplicateChecks event next).holds) = none :=
      Choice.first_eq_none.mpr h
    rw [← hfirst, ← filter_others]
    rfl
  simp only [ensureNoOtherDuplicate]
  split
  · rw [bind_eq, run_bind_ok _ hread]
    rfl
  · rfl

theorem ne_empty_of_givenString {value : Given String} {field v : String}
    (h : normalizeGivenString value field = .ok (some v)) : v ≠ "" := by
  cases value with
  | undefined => cases h
  | null => cases h
  | value given =>
      simp only [normalizeGivenString] at h
      cases hnormal : normalizeRequiredString given field with
      | error e =>
          rw [hnormal] at h
          cases h
      | ok w =>
          rw [hnormal] at h
          cases h
          exact normalizeRequiredString_ok hnormal

theorem ne_empty_of_givenEmail {value : Given String} {v : String}
    (h : normalizeGivenEmail value = .ok (some (some v))) : v ≠ "" := by
  cases value with
  | undefined => cases h
  | null => cases h
  | value given =>
      simp only [normalizeGivenEmail] at h
      cases hnormal : normalizeOptionalStringToNull (some given) with
      | error e =>
          rw [hnormal] at h
          cases h
      | ok o =>
          rw [hnormal] at h
          cases h
          exact normalizeOptionalStringToNull_ok hnormal rfl

/-- A value after an update is not empty or was there before. -/
theorem get_nextRegistration {dto : UpdateRegistrationDto} {n : NormalizedUpdate}
    (h : normalizeUpdateDto dto = .ok n) {r : Registration} {attendeeTypeId : Id}
    {field : DuplicateField} {v : String}
    (hv : field.get (nextRegistration r n attendeeTypeId) = some v) :
    v ≠ "" ∨ field.get r = some v := by
  obtain ⟨fullName, -, h₁⟩ := Except.exists_of_bind_eq_ok h
  obtain ⟨phone, hphone, h₂⟩ := Except.exists_of_bind_eq_ok h₁
  obtain ⟨email, hemail, h₃⟩ := Except.exists_of_bind_eq_ok h₂
  cases h₃
  cases field with
  | phone =>
      cases phone with
      | none => exact .inr hv
      | some w =>
          cases hv
          exact .inl (ne_empty_of_givenString hphone)
  | email =>
      cases email with
      | none => exact .inr hv
      | some w =>
          cases w with
          | none => cases hv
          | some w =>
              cases hv
              exact .inl (ne_empty_of_givenEmail hemail)
  | externalId =>
      cases hgiven : normalizeOptionalString dto.externalId.value? with
      | none =>
          simp only [DuplicateField.get, nextRegistration, hgiven, Option.none_or] at hv
          exact .inr hv
      | some w =>
          simp only [DuplicateField.get, nextRegistration, hgiven, Option.some_or,
            Option.some.injEq] at hv
          exact .inl (hv ▸ ne_empty_of_optional hgiven)

/-- What the write of an update answers: the row clashes with another registration if and only if
it agrees with it in some field. -/
theorem update_registrations_cases {s : Store} {id : Id} {dto : UpdateRegistrationDto}
    {n : NormalizedUpdate} {r : Registration} (hn : normalizeUpdateDto dto = .ok n)
    (hstored : s.registrations.find? id = some r) (now : Time) (attendeeTypeId : Id) :
    Duplicated anyField (others s id) (nextRegistration r n attendeeTypeId) ∧
        s.registrations.update id
          (EditStore.applyRegistrationPatch now (updateData n attendeeTypeId)) = .duplicate ∨
      ¬ Duplicated anyField (others s id) (nextRegistration r n attendeeTypeId) ∧
        ∃ row t, s.registrations.update id
          (EditStore.applyRegistrationPatch now (updateData n attendeeTypeId)) = .done row t := by
  obtain ⟨hr, rfl⟩ := Table.find?_eq_some_iff.mp hstored
  set next := nextRegistration r n attendeeTypeId with hnext
  set row := withKey (key r)
    (EditStore.applyRegistrationPatch now (updateData n attendeeTypeId) r) with hrow
  have hget : ∀ field : DuplicateField, field.get row = field.get next := by
    intro field
    cases field <;> rfl
  have hne : ∀ b ∈ s.registrations.rows, key b ≠ key r → b.publicId ≠ row.publicId := by
    intro b hb hkey hid
    have hsame : b.publicId = r.publicId := hid
    exact hkey (s.registrations.distinct b hb r hr (by simp [clash, hsame]))
  by_cases hdup : Duplicated anyField (others s (key r)) next
  · refine .inl ⟨hdup, ?_⟩
    obtain ⟨b, hother, hevent, field, -, v, -, hv, hw⟩ := hdup
    obtain ⟨hb, hkey⟩ := mem_others.mp hother
    have hclash : clash b row = true :=
      (clash_iff (hne b hb hkey)).mpr ⟨hevent, field, v, hv, (hget field).trans hw⟩
    cases hupdate : s.registrations.update (key r)
        (EditStore.applyRegistrationPatch now (updateData n attendeeTypeId)) with
    | missing =>
        simp only [Table.update, hstored] at hupdate
        split at hupdate <;> cases hupdate
    | duplicate => rfl
    | done row' t =>
        obtain ⟨a, ha, hkeya, rfl, -, -⟩ := Table.update_eq_done hupdate
        obtain rfl : a = r := s.registrations.eq_of_key ha hr hkeya
        have hkeys : key b = key row := t.distinct b
          ((Table.mem_update hupdate).mpr (.inl ⟨hb, hkey⟩)) row
          ((Table.mem_update hupdate).mpr (.inr rfl)) hclash
        exact absurd hkeys hkey
  · refine .inr ⟨hdup, ?_⟩
    have hfree : ∀ b ∈ s.registrations.rows, key b ≠ key r → ∀ field v, b.eventId = next.eventId →
        DuplicateField.get field b = some v → field.get row ≠ some v := by
      intro b hb hkey field v hevent hv hw
      rw [hget] at hw
      rcases get_nextRegistration hn hw with hempty | hold
      · exact hdup ⟨b, mem_others.mpr ⟨hb, hkey⟩, hevent, field, trivial, v, hempty, hv, hw⟩
      · have hid : b.publicId ≠ r.publicId := hne b hb hkey
        exact hkey (s.registrations.distinct b hb r hr
          ((clash_iff hid).mpr ⟨hevent, field, v, hv, hold⟩))
    obtain ⟨t, hdone⟩ := Table.exists_update_of_free hr
      (f := EditStore.applyRegistrationPatch now (updateData n attendeeTypeId)) fun b hb hkey => by
        constructor
        · apply Bool.eq_false_iff.mpr
          intro hclash
          obtain ⟨hevent, field, v, hw, hv⟩ := (clash_iff (hne b hb hkey).symm).mp hclash
          exact hfree b hb hkey field v hevent.symm hv hw
        · apply Bool.eq_false_iff.mpr
          intro hclash
          obtain ⟨hevent, field, v, hv, hw⟩ := (clash_iff (hne b hb hkey)).mp hclash
          exact hfree b hb hkey field v hevent hv hw
    exact ⟨_, t, hdone⟩

/-- An update is refused as a duplicate if and only if the registration then agrees with another
one of the event in some field. -/
theorem update_duplicate_iff {s : EditStore} {id : Id} {dto : UpdateRegistrationDto}
    {n : NormalizedUpdate} {r : Registration} {event : Event}
    (h : Updatable rt s.base id dto n r event) :
    ((update rt id dto).run (editMachine rt ch) s).1 = .error duplicateError ↔
      Duplicated anyField (others s.base id) (nextRegistration r n (nextType r n)) := by
  obtain ⟨t, htype, hgiven⟩ := h.attendeeType
  set next := nextRegistration r n (nextType r n) with hnext
  have hstored : (registrationOrThrow id).run (editMachine rt ch) s = (.ok r, s) := by
    have hread : (editCall (.base (.registrationById id))).run (editMachine rt ch) s =
        (.ok (some r), s) := by
      rw [← h.stored]
      rfl
    simp only [registrationOrThrow, bind_eq]
    rw [run_bind_ok _ hread]
    rfl
  have hevent : (onStore (ScansService.ensureEventCanBeModified r.eventId)).run (editMachine rt ch)
      s = (.ok event, s) := by
    rw [run_onStore, run_ensureEventCanBeModified h.found h.modifiable]
  have hstart : (update rt id dto).run (editMachine rt ch) s =
      (checkAndWrite rt id r event n (nextType r n)).run (editMachine rt ch) s := by
    simp only [update, bind_eq, h.normalized, ofExcept_ok]
    rw [Prog.bind_ret, run_bind_ok _ hstored, run_bind_ok _ hevent]
    split
    · next hsome =>
        obtain ⟨htypeEvent, hactive⟩ := hgiven hsome
        have hcan : (onStore (ensureAttendeeTypeCanBeUsed (nextType r n) r.eventId)).run
            (editMachine rt ch) s = (.ok t, s) := by
          rw [run_onStore, run_ensureAttendeeTypeCanBeUsed htype htypeEvent hactive]
        rw [nextType] at hcan ⊢
        rw [run_bind_ok _ hcan]
    · rfl
  rw [hstart]
  simp only [checkAndWrite, bind_eq, tryCatch_eq]
  by_cases hnamed : Duplicated (StrategyNames event.duplicateStrategy) (others s.base id) next
  · rw [run_bind_error _ (run_ensureNoOtherDuplicate_duplicated hnamed)]
    exact ⟨fun _ => hnamed.mono fun _ _ => trivial, fun _ => rfl⟩
  · have hvalid : (validateNextFields rt r n (nextType r n)).run (editMachine rt ch) s =
        (.ok (), s) := by
      rw [run_validateNextFields, h.given, accepts_iff_read.mp h.fields]
      rfl
    rw [run_bind_ok _ (run_ensureNoOtherDuplicate_free hnamed), run_bind_ok _ hvalid,
      run_tryCatch, editCall, run_call]
    have hanswer : editMachine rt ch (.registrationUpdate id (updateData n (nextType r n))) s =
        s.updateRegistration id (updateData n (nextType r n)) := rfl
    have hrefs : Store.refers s.base.attendeeTypes (nextType r n) = true := by
      simp [Store.refers, htype]
    rw [hanswer, EditStore.updateRegistration,
      if_pos (show Store.refers _ (updateData n (nextType r n)).attendeeTypeId = true from hrefs)]
    rcases update_registrations_cases h.normalized h.stored s.base.clock (nextType r n) with
      ⟨hdup, hwrite⟩ | ⟨hfree, row, t', hwrite⟩
    · rw [hwrite]
      exact ⟨fun _ => hdup, fun _ => rfl⟩
    · rw [hwrite]
      constructor
      · intro hcontra
        cases hcontra
      · exact fun hdup => absurd hdup hfree

end RegistrationsService

/-! ## The policy of the event -/

open RegistrationsService

def openEvent : Event where
  id := "c0"
  status := .ACTIVE
  startsAt := 0
  endsAt := 10
  allowReEntry := false
  duplicateStrategy := "None"

def openType : AttendeeType where
  id := "c0"
  eventId := "c0"
  code := "VISITOR"

def firstVisitor : Registration where
  id := "c0"
  publicId := "REG_1"
  eventId := "c0"
  attendeeTypeId := "c0"
  fullName := "Visitor"
  phone := some "+962790000000"

def openStore : Store where
  clock := 5
  events := .ofData [openEvent]
  attendeeTypes := .ofData [openType]
  registrations := .ofData [firstVisitor]

def secondVisitor : CreateRegistrationDto where
  eventId := "c0"
  attendeeTypeId := "c0"
  fullName := "Another visitor"
  phone := "+962790000000"

def secondRow : Registration where
  publicId := ""
  eventId := "c0"
  attendeeTypeId := "c0"
  fullName := "Another visitor"
  phone := some "+962790000000"

theorem secondVisitor_creatable :
    Creatable sampleRuntime openStore secondVisitor secondRow openEvent where
  normalized := by
    have hname : trim "Another visitor" = "Another visitor" := by decide +kernel
    have hphone : trim "+962790000000" = "+962790000000" := by decide +kernel
    simp [normalizeCreateDto, normalizeRequiredString, normalizeOptionalStringToNull,
      normalizeOptionalString, secondVisitor, secondRow, hname, hphone]
    rfl
  found := rfl
  modifiable := by decide
  attendeeType := ⟨openType, rfl, rfl, rfl⟩
  fields := by decide +kernel

theorem openStore_draws : DrawsFreeId sampleRuntime {} openStore := ⟨"REG_0", by decide +kernel⟩

theorem secondVisitor_shares : Duplicated anyField openStore.registrations.rows secondRow :=
  ⟨firstVisitor, List.mem_singleton.mpr rfl, rfl, .phone, trivial, "+962790000000", by decide, rfl,
    rfl⟩

theorem openEvent_names_none : toUpperCase openEvent.duplicateStrategy = "NONE" := by
  decide +kernel

/-- The first visitor changes the phone. -/
def phoneChange : UpdateRegistrationDto where
  phone := .value "+962791111111"

def phoneChanged : NormalizedUpdate where
  attendeeTypeId := .undefined
  fullName := none
  phone := some "+962791111111"
  email := none
  companyName := none
  jobTitle := none
  externalId := none
  customFields := .undefined
  notes := none

theorem phoneChange_updatable :
    Updatable sampleRuntime openStore "c0" phoneChange phoneChanged firstVisitor openEvent where
  normalized := by
    have hphone : trim "+962791111111" = "+962791111111" := by decide +kernel
    simp [normalizeUpdateDto, normalizeGivenString, normalizeGivenEmail, normalizeRequiredString,
      normalizeOptionalString, phoneChange, phoneChanged, hphone, Given.value?]
    rfl
  stored := rfl
  found := rfl
  modifiable := by decide
  attendeeType := ⟨openType, rfl, fun h => by cases h⟩
  given := rfl
  fields := by decide +kernel

end CreativeBackend
