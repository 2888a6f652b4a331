import CreativeBackend.Registrations.FormEdits

/-!
# Choice fields

A field of type `SELECT` or `MULTI_SELECT` can be answered if its options contain a text or an
object with a `value`, and none that `String` fails on. `RegistrationFieldsService` accepts any
array or object that is not empty.
-/

namespace CreativeBackend

open Relational Interaction Prog RegistrationsService

variable (rt : Runtime) (p : Platform)

/-! ## Answers -/

/-- Some non-empty value of the field is accepted. -/
def Answerable (field : RegistrationField) : Prop :=
  ∃ value, isEmpty (some value) = false ∧
    validateCustomFields rt [field] [(field.key, value)] = .ok ()

/-- An option that stands for a value. -/
def IsChoice : Json → Prop
  | .str _ => True
  | .obj fields => (fields.lookup "value").isSome
  | _ => False

/-- An option whose value, if it has one, can be printed. -/
def PrintsOption : Json → Prop
  | .obj fields => (fields.lookup "value").all (!unprintable ·) = true
  | _ => True

/-- An array with an option that stands for a value, and without options that cannot be printed. -/
def Offers : Option Json → Prop
  | some (.arr options) => (∃ option ∈ options, IsChoice option) ∧
      ∀ option ∈ options, PrintsOption option
  | _ => False

instance : DecidablePred IsChoice
  | .str _ => .isTrue trivial
  | .obj fields => inferInstanceAs (Decidable ((fields.lookup "value").isSome = true))
  | .null => .isFalse id
  | .bool _ => .isFalse id
  | .num _ => .isFalse id
  | .arr _ => .isFalse id

instance : DecidablePred PrintsOption
  | .obj fields =>
      inferInstanceAs (Decidable ((fields.lookup "value").all (!unprintable ·) = true))
  | .null => .isTrue trivial
  | .bool _ => .isTrue trivial
  | .num _ => .isTrue trivial
  | .str _ => .isTrue trivial
  | .arr _ => .isTrue trivial

instance : DecidablePred Offers
  | some (.arr options) => inferInstanceAs (Decidable ((∃ option ∈ options, IsChoice option) ∧
      ∀ option ∈ options, PrintsOption option))
  | none => .isFalse id
  | some .null => .isFalse id
  | some (.bool _) => .isFalse id
  | some (.num _) => .isFalse id
  | some (.str _) => .isFalse id
  | some (.obj _) => .isFalse id

theorem validate_single_iff {field : RegistrationField} {value : Json}
    (hvalue : isEmpty (some value) = false) :
    validateCustomFields rt [field] [(field.key, value)] = .ok () ↔
      validateCustomFieldValue rt field value = .ok () := by
  rw [validateCustomFields_eq_ok_iff]
  simp [validateField, hvalue]

theorem printed_ok_iff {value : Json} {text : String} :
    printed rt value = .ok text ↔ unprintable value = false ∧ jsString rt value = text := by
  unfold printed
  split <;> simp [*]

/-- What is read of an option that can be printed. -/
theorem optionValue_of_prints {option : Json} (h : PrintsOption option) :
    ∃ value, optionValue rt option = .ok value ∧ (value.isSome ↔ IsChoice option) := by
  cases option with
  | obj fields =>
      cases hvalue : fields.lookup "value" with
      | none => exact ⟨none, by simp [optionValue, hvalue], by simp [IsChoice, hvalue]⟩
      | some value =>
          have hprints : unprintable value = false := by simpa [PrintsOption, hvalue] using h
          have hprinted := (printed_ok_iff rt).mpr ⟨hprints, rfl⟩
          exact ⟨some (jsString rt value), by simp [optionValue, hvalue, hprinted, Except.map],
            by simp [IsChoice, hvalue]⟩
  | str s => exact ⟨some s, rfl, by simp [IsChoice]⟩
  | _ => exact ⟨none, rfl, by simp [IsChoice]⟩

theorem prints_of_optionValue {option : Json} {value : Option String}
    (h : optionValue rt option = .ok value) : PrintsOption option := by
  cases option with
  | obj fields =>
      cases hvalue : fields.lookup "value" with
      | none => simp [PrintsOption, hvalue]
      | some found =>
          cases hprinted : printed rt found with
          | error e => simp [optionValue, hvalue, hprinted, Except.map] at h
          | ok text => simp [PrintsOption, hvalue, ((printed_ok_iff rt).mp hprinted).1]
  | _ => trivial

/-- The options have values if and only if they can be printed and one stands for a value. -/
theorem optionValues_cases (options : List Json) :
    (∃ option ∈ options, ¬ PrintsOption option) ∧ (∃ e, optionValues rt options = .error e) ∨
      (∀ option ∈ options, PrintsOption option) ∧
        ∃ values, optionValues rt options = .ok values ∧
          (values ≠ [] ↔ ∃ option ∈ options, IsChoice option) := by
  induction options with
  | nil => exact .inr ⟨by simp, [], rfl, by simp⟩
  | cons option options ih =>
      cases hvalue : optionValue rt option with
      | error e =>
          have hno : ¬ PrintsOption option := by
            intro hprints
            obtain ⟨value, hok, -⟩ := optionValue_of_prints rt hprints
            rw [hvalue] at hok
            cases hok
          exact .inl ⟨⟨option, List.mem_cons_self, hno⟩, e, by
            rw [optionValues, hvalue]
            rfl⟩
      | ok value =>
          have hprints := prints_of_optionValue rt hvalue
          obtain ⟨value', hok, hchoice⟩ := optionValue_of_prints rt hprints
          obtain rfl : value = value' := Except.ok.inj (hvalue.symm.trans hok)
          rcases ih with ⟨⟨bad, hbad, hno⟩, e, herror⟩ | ⟨hall, values, hvalues, hne⟩
          · exact .inl ⟨⟨bad, List.mem_cons_of_mem _ hbad, hno⟩, e, by
              rw [optionValues, hvalue, herror]
              rfl⟩
          · refine .inr ⟨List.forall_mem_cons.mpr ⟨hprints, hall⟩, value.toList ++ values, by
              rw [optionValues, hvalue, hvalues]
              rfl, ?_⟩
            rw [List.exists_mem_cons_iff, ← hchoice, ← hne]
            cases value <;> simp

/-- The options have a value if and only if they offer one. -/
theorem exists_optionValue_iff {options : Option Json} :
    (∃ values, getOptionValues rt options = .ok values ∧ values ≠ []) ↔ Offers options := by
  cases options with
  | none => simp [getOptionValues, Offers]
  | some options =>
      cases options with
      | arr options =>
          simp only [getOptionValues, Offers]
          rcases optionValues_cases rt options with
            ⟨⟨bad, hbad, hno⟩, e, herror⟩ | ⟨hall, values, hvalues, hne⟩
          · rw [herror]
            constructor
            · rintro ⟨values, hcontra, -⟩
              cases hcontra
            · exact fun h => absurd (h.2 bad hbad) hno
          · rw [hvalues, ← hne]
            constructor
            · rintro ⟨values', hsame, hvalue⟩
              obtain rfl := Except.ok.inj hsame
              exact ⟨hvalue, hall⟩
            · exact fun h => ⟨values, rfl, h.1⟩
      | _ => simp [getOptionValues, Offers]

/-- An answer that is not empty prints as any text. -/
theorem exists_answer (s : String) :
    ∃ value, isEmpty (some value) = false ∧ printed rt value = .ok s := by
  by_cases hs : s = ""
  · subst hs
    exact ⟨.arr [.null], rfl, rfl⟩
  · exact ⟨.str s, by simp [isEmpty, hs], rfl⟩

theorem validateSelectValue_iff {field : RegistrationField} {value : Json} :
    validateSelectValue rt field value = .ok () ↔
      ∃ values text, getOptionValues rt field.options = .ok values ∧
        printed rt value = .ok text ∧ text ∈ values := by
  constructor
  · intro h
    obtain ⟨values, hvalues, h₁⟩ := Except.exists_of_bind_eq_ok h
    obtain ⟨text, htext, h₂⟩ := Except.exists_of_bind_eq_ok h₁
    split at h₂
    · next hmem => exact ⟨values, text, hvalues, htext, List.contains_iff_mem.mp hmem⟩
    · cases h₂
  · rintro ⟨values, text, hvalues, htext, hmem⟩
    simp only [validateSelectValue, hvalues, htext, bind, Except.bind]
    rw [if_pos (List.contains_iff_mem.mpr hmem)]
    rfl

theorem validate_select {field : RegistrationField} (h : field.type = .SELECT) (value : Json) :
    validateCustomFieldValue rt field value = validateSelectValue rt field value := by
  unfold validateCustomFieldValue
  simp only [h]

theorem validate_multiSelect {field : RegistrationField} (h : field.type = .MULTI_SELECT)
    (value : Json) :
    validateCustomFieldValue rt field value = .ok () ↔
      ∃ items, value = .arr items ∧ ∀ item ∈ items, validateSelectValue rt field item = .ok () := by
  unfold validateCustomFieldValue
  simp only [h]
  cases value with
  | arr items => simp [checkAll_eq_ok_iff]
  | _ => simp

/-- A choice field can be answered if and only if its options have a value. -/
theorem answerable_iff {field : RegistrationField}
    (h : Forms.RegistrationFieldsService.requiresOptions field.type = true) :
    Answerable rt field ↔ Offers field.options := by
  rw [← exists_optionValue_iff rt]
  simp only [Forms.RegistrationFieldsService.requiresOptions, Bool.or_eq_true,
    decide_eq_true_eq] at h
  constructor
  · rintro ⟨value, hvalue, haccepted⟩
    rw [validate_single_iff rt hvalue] at haccepted
    have hsome : ∃ selected, validateSelectValue rt field selected = .ok () := by
      rcases h with htype | htype
      · exact ⟨value, validate_select rt htype value ▸ haccepted⟩
      · obtain ⟨items, rfl, hitems⟩ := (validate_multiSelect rt htype value).mp haccepted
        cases items with
        | nil => cases hvalue
        | cons item rest => exact ⟨item, hitems item List.mem_cons_self⟩
    obtain ⟨selected, hselected⟩ := hsome
    obtain ⟨values, text, hvalues, -, hmem⟩ := (validateSelectValue_iff rt).mp hselected
    exact ⟨values, hvalues, List.ne_nil_of_mem hmem⟩
  · rintro ⟨values, hvalues, hne⟩
    obtain ⟨s, hs⟩ := List.exists_mem_of_ne_nil _ hne
    rcases h with htype | htype
    · obtain ⟨value, hvalue, hprint⟩ := exists_answer rt s
      refine ⟨value, hvalue, ?_⟩
      rw [validate_single_iff rt hvalue, validate_select rt htype, validateSelectValue_iff]
      exact ⟨values, s, hvalues, hprint, hs⟩
    · refine ⟨.arr [.str s], rfl, ?_⟩
      rw [validate_single_iff rt rfl, validate_multiSelect rt htype]
      refine ⟨_, rfl, fun item hitem => ?_⟩
      obtain rfl := List.mem_singleton.mp hitem
      exact (validateSelectValue_iff rt).mpr ⟨values, s, hvalues, rfl, hs⟩

/-! ## What the edits of a form write -/

namespace EditStore

theorem createField_cases {s s' : EditStore} {d : FieldData} {x : Except Exn RegistrationField}
    (h : s.createField d = (x, s')) :
    (∃ e, x = .error e ∧ s' = s) ∨
      ∃ row t, s.base.registrationFields.create (fieldRow s.base.clock d) = some (row, t) ∧
        x = .ok row ∧ s' = s.withFields t := by
  simp only [createField] at h
  split at h
  · cases h
    exact .inl ⟨_, rfl, rfl⟩
  · split at h
    · split at h
      · cases h
        exact .inl ⟨_, rfl, rfl⟩
      · next row t hc =>
          cases h
          exact .inr ⟨row, t, hc, rfl, rfl⟩
    · cases h
      exact .inl ⟨_, rfl, rfl⟩

theorem updateField_cases {s s' : EditStore} {id : Id} {d : FieldPatch}
    {x : Except Exn RegistrationField} (h : s.updateField id d = (x, s')) :
    (∃ e, x = .error e ∧ s' = s) ∨
      ∃ row t, s.base.registrationFields.update id (applyFieldPatch d) = .done row t ∧
        x = .ok row ∧ s' = s.withFields t := by
  simp only [updateField] at h
  split at h
  · cases h
    exact .inl ⟨_, rfl, rfl⟩
  · split at h
    · split at h
      · cases h
        exact .inl ⟨_, rfl, rfl⟩
      · cases h
        exact .inl ⟨_, rfl, rfl⟩
      · next row t hu =>
          cases h
          exact .inr ⟨row, t, hu, rfl, rfl⟩
    · cases h
      exact .inl ⟨_, rfl, rfl⟩

end EditStore

namespace Forms.RegistrationFieldsService

/-- The options of a choice field are stored as they are. -/
theorem normalizeOptions_ok {type : RegistrationFieldType} {options : Option Json} {stored : Json}
    (htype : requiresOptions type = true) (h : normalizeOptions type options = .ok stored) :
    options = some stored := by
  simp only [normalizeOptions, htype, Bool.not_true, Bool.false_eq_true, if_false] at h
  split at h
  · cases h
    rfl
  · cases h

/-- The options that an edit of a choice field leaves. -/
def Leaves (row : RegistrationField) (type : RegistrationFieldType) (options : Option Json) :
    Prop :=
  row.type = type ∧ (requiresOptions type = true → row.options = options)

variable {rt p} {ch : Choice}

theorem create_after (dto : CreateRegistrationFieldDto) (s : EditStore) :
    (create p dto).After (editMachine rt ch) s fun x s' =>
      match x with
      | .error _ => s' = s
      | .ok row => Leaves row dto.type dto.options.value? ∧
          ∀ f, f ∈ s'.base.registrationFields.rows ↔
            f ∈ s.base.registrationFields.rows ∨ f = row := by
  simp only [create, bind_eq]
  apply after_bind_still
    ((ScansService.ensureEventCanBeModified_checks _).reads.onStore.run rt ch s) _ fun _ _ => rfl
  intro _ _
  apply after_bind_still ((ensureAttendeeTypeBelongsToEvent_reads _ _).run rt ch s) _ fun _ _ => rfl
  intro _ _
  apply after_bind_still ((ensureKeyIsUnique_reads _).run rt ch s) _ fun _ _ => rfl
  intro _ _
  apply after_bind_still (by rw [run_ofExcept]) _ fun _ _ => rfl
  intro options hoptions
  rw [run_ofExcept] at hoptions
  unfold After
  rw [editCall, run_call]
  simp only [editMachine]
  generalize hd : FieldData.mk _ _ _ _ _ _ _ _ _ _ = d
  rcases hwrite : s.createField d with ⟨x, s'⟩
  rcases EditStore.createField_cases hwrite with ⟨e, rfl, rfl⟩ | ⟨row, t, hc, rfl, rfl⟩
  · rfl
  · have hrow := (Table.create_eq_some hc).1
    subst hd
    refine ⟨⟨by rw [hrow]; rfl, fun htype => ?_⟩, fun f => Table.mem_create hc⟩
    rw [normalizeOptions_ok htype hoptions, hrow]
    rfl

theorem findOne_ok {id : Id} {s : EditStore} {f : RegistrationField}
    (h : ((findOne id).run (editMachine rt ch) s).1 = .ok f) :
    s.base.registrationFields.find? id = some f := by
  have hread : (editCall (.fieldById id)).run (editMachine rt ch) s =
      (.ok (s.base.registrationFields.find? id), s) := rfl
  simp only [findOne, bind_eq] at h
  rw [run_bind_ok _ hread] at h
  cases hrow : s.base.registrationFields.find? id with
  | none =>
      rw [hrow] at h
      cases h
  | some found =>
      rw [hrow] at h
      cases h
      rfl

theorem update_after (id : Id) (dto : UpdateRegistrationFieldDto) (s : EditStore) :
    (update p id dto).After (editMachine rt ch) s fun x s' =>
      match x with
      | .error _ => s' = s
      | .ok row => ∃ f, s.base.registrationFields.find? id = some f ∧
          Leaves row (dto.type.value?.getD f.type) (dto.options.orKeep f.options) ∧
          ∀ g, g ∈ s'.base.registrationFields.rows →
            g ∈ s.base.registrationFields.rows ∨ g = row := by
  simp only [update, bind_eq]
  apply after_bind_still ((findOne_reads id).run rt ch s) _ fun _ _ => rfl
  intro f hf
  apply after_bind_still
    ((ScansService.ensureEventCanBeModified_checks _).reads.onStore.run rt ch s) _ fun _ _ => rfl
  intro _ _
  apply after_bind_still ((ensureAttendeeTypeBelongsToEvent_reads _ _).run rt ch s) _ fun _ _ => rfl
  intro _ _
  apply after_bind_still ((ensureKeyIsUnique_reads _).run rt ch s) _ fun _ _ => rfl
  intro _ _
  apply after_bind_still (by rw [run_ofExcept]) _ fun _ _ => rfl
  intro options hoptions
  rw [run_ofExcept] at hoptions
  unfold After
  rw [editCall, run_call]
  simp only [editMachine]
  generalize hd : FieldPatch.mk _ _ _ _ _ _ _ _ _ = d
  rcases hwrite : s.updateField id d with ⟨x, s'⟩
  rcases EditStore.updateField_cases hwrite with ⟨e, rfl, rfl⟩ | ⟨row, t, hu, rfl, rfl⟩
  · rfl
  · obtain ⟨a, ha, hkey, hrow, -, -⟩ := Table.update_eq_done hu
    have hfound := findOne_ok hf
    obtain rfl : a = f := by
      obtain ⟨hmem, hid⟩ := Table.find?_eq_some_iff.mp hfound
      exact s.base.registrationFields.eq_of_key ha hmem (hkey.trans hid.symm)
    subst hd
    refine ⟨a, hfound, ⟨by rw [hrow]; rfl, fun htype => ?_⟩, fun g hg => ?_⟩
    · rw [normalizeOptions_ok htype hoptions, hrow]
      rfl
    · rcases (Table.mem_update hu).mp hg with ⟨hold, -⟩ | hnew
      · exact .inl hold
      · exact .inr hnew

end Forms.RegistrationFieldsService

/-! ## Runs -/

open Forms.RegistrationFieldsService (requiresOptions Leaves)

/-- A choice field that the operation writes gets options with a value. -/
def FormOp.Offering (s : EditStore) : FormOp → Prop
  | .createField dto => requiresOptions dto.type = true → Offers dto.options.value?
  | .updateField id dto => ∀ f, s.base.registrationFields.find? id = some f →
      requiresOptions (dto.type.value?.getD f.type) = true → Offers (dto.options.orKeep f.options)
  | _ => True

/-- The stores that a sequence of operations reaches whose choice fields get options with a
value. -/
inductive OfferingRun (s₀ : EditStore) : EditStore → Prop
  | start : OfferingRun s₀ s₀
  | perform {s : EditStore} (h : OfferingRun s₀ s) (ch : Choice) (op : FormOp)
      (ho : op.Offering s) : OfferingRun s₀ (op.perform rt p ch s)
  | wait {s : EditStore} (h : OfferingRun s₀ s) (now : Time) :
      OfferingRun s₀ { s with base := { s.base with clock := now } }

/-- Every choice field of every form can be answered. -/
def AllAnswerable (s : EditStore) : Prop :=
  ∀ f ∈ s.base.registrationFields.rows, requiresOptions f.type = true → Answerable rt f

variable {rt p}

theorem answerable_of_leaves {row : RegistrationField} {type : RegistrationFieldType}
    {options : Option Json} (h : Leaves row type options) (htype : requiresOptions row.type = true) :
    Answerable rt row ↔ Offers options := by
  obtain ⟨rfl, hoptions⟩ := h
  rw [answerable_iff rt htype, hoptions htype]

/-- Operations on registrations leave the forms alone. -/
theorem fields_of_registration {ch : Choice} {op : FormOp} (hop : op.editsForm = false)
    (s : EditStore) :
    (op.perform rt p ch s).base.registrationFields = s.base.registrationFields := by
  cases op with
  | createRegistration dto =>
      rw [FormOp.perform, FormOp.program, run_void, run_onStore]
      exact run_registrationFields (create rt dto) s.base
  | updateRegistration id dto =>
      have hupdate : (update rt id dto).After (editMachine rt ch) s _ := update_after id dto s
      rw [FormOp.perform, FormOp.program, run_void]
      unfold After at hupdate
      rcases hrun : (update rt id dto).run (editMachine rt ch) s with ⟨x, s'⟩
      rw [hrun] at hupdate
      cases x with
      | error e => exact hupdate ▸ rfl
      | ok row =>
          obtain ⟨n, r, t, -, -, -, -, rfl⟩ := hupdate
          rfl
  | _ => cases hop

/-- Removing a field adds none. -/
theorem fields_of_remove {ch : Choice} (id : Id) (s : EditStore) :
    ∀ f ∈ ((FormOp.removeField id).perform rt p ch s).base.registrationFields.rows,
      f ∈ s.base.registrationFields.rows := by
  have hcalls : (Forms.RegistrationFieldsService.remove id).All
      fun c => c.reads = true ∨ c = .fieldDelete id := by
    refine all_bind ((Forms.RegistrationFieldsService.findOne_reads id).mono fun _ => .inl)
      fun field => ?_
    refine all_bind (Prog.All.mono
      (ScansService.ensureEventCanBeModified_checks field.eventId).reads.onStore
      fun _ => .inl) fun _ => ?_
    exact all_call (.inr rfl)
  refine run_invariant (editMachine rt ch)
    (I := fun u => ∀ f ∈ u.base.registrationFields.rows, f ∈ s.base.registrationFields.rows)
    ?_ hcalls fun f hf => hf
  rintro c (hreads | rfl) u hu
  · rw [editMachine_reads rt ch hreads u]
    exact hu
  · simp only [editMachine, EditStore.deleteField]
    split
    · exact hu
    · exact fun f hf => hu f (Table.mem_delete.mp hf).1

/-- An operation whose choice fields get options with a value leaves all of them answerable. -/
theorem allAnswerable_of_offering {ch : Choice} {op : FormOp} {s : EditStore}
    (ho : op.Offering s) (h : AllAnswerable rt s) : AllAnswerable rt (op.perform rt p ch s) := by
  cases op with
  | createField dto =>
      have hcreate : (Forms.RegistrationFieldsService.create p dto).After (editMachine rt ch) s _ :=
        Forms.RegistrationFieldsService.create_after dto s
      rw [FormOp.perform, FormOp.program, run_void]
      unfold After at hcreate
      rcases hrun : (Forms.RegistrationFieldsService.create p dto).run (editMachine rt ch) s with
        ⟨x, s'⟩
      rw [hrun] at hcreate
      cases x with
      | error e => exact hcreate ▸ h
      | ok row =>
          obtain ⟨hleaves, hrows⟩ := hcreate
          intro f hf htype
          rcases (hrows f).mp hf with hold | rfl
          · exact h f hold htype
          · exact (answerable_of_leaves hleaves htype).mpr (ho (hleaves.1 ▸ htype))
  | updateField id dto =>
      have hupdate : (Forms.RegistrationFieldsService.update p id dto).After (editMachine rt ch) s
          _ := Forms.RegistrationFieldsService.update_after id dto s
      rw [FormOp.perform, FormOp.program, run_void]
      unfold After at hupdate
      rcases hrun : (Forms.RegistrationFieldsService.update p id dto).run (editMachine rt ch) s with
        ⟨x, s'⟩
      rw [hrun] at hupdate
      cases x with
      | error e => exact hupdate ▸ h
      | ok row =>
          obtain ⟨found, hfound, hleaves, hrows⟩ := hupdate
          intro f hf htype
          rcases hrows f hf with hold | rfl
          · exact h f hold htype
          · exact (answerable_of_leaves hleaves htype).mpr (ho found hfound (hleaves.1 ▸ htype))
  | removeField id => exact fun f hf => h f (fields_of_remove id s f hf)
  | createRegistration dto =>
      have hsame : ((FormOp.createRegistration dto).perform rt p ch s).base.registrationFields =
          s.base.registrationFields := fields_of_registration rfl s
      exact fun f hf => h f (hsame ▸ hf)
  | updateRegistration id dto =>
      have hsame : ((FormOp.updateRegistration id dto).perform rt p ch s).base.registrationFields =
          s.base.registrationFields := fields_of_registration rfl s
      exact fun f hf => h f (hsame ▸ hf)

theorem allAnswerable_of_run {s₀ s : EditStore} (h₀ : AllAnswerable rt s₀)
    (h : OfferingRun rt p s₀ s) : AllAnswerable rt s := by
  induction h with
  | start => exact h₀
  | perform _ ch op ho ih => exact allAnswerable_of_offering ho ih
  | wait _ now ih => exact ih

namespace Forms

def sizeField (options : List Json) : CreateRegistrationFieldDto where
  eventId := "c0"
  key := "size"
  labelAr := "size"
  type := .SELECT
  isRequired := .value true
  options := .value (.arr options)

/-- The field becomes one of several choices; its options stay. -/
def severalSizes : UpdateRegistrationFieldDto where
  type := .value .MULTI_SELECT
  isRequired := .value true

def createSize (options : List Json) : Except Exn RegistrationField × EditStore :=
  (RegistrationFieldsService.create formPlatform (sizeField options)).run
    (editMachine sampleRuntime {}) emptyForm

def changeSize (s : EditStore) : Except Exn RegistrationField × EditStore :=
  (RegistrationFieldsService.update formPlatform "c0" severalSizes).run
    (editMachine sampleRuntime {}) s

end Forms

open Forms

theorem sizes_offer : Offers (some (.arr [.str "S", .str "M"])) := by decide

end CreativeBackend
