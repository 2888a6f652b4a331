import CreativeBackend.Registrations.Update
import CreativeBackend.Admin.AttendeeTypes

/-!
# What an update checks and writes

Up to its last statement an update only reads, so one that fails leaves the store alone. One that
succeeds has validated the custom fields that the registration has from then on.
-/

namespace CreativeBackend

open Relational Interaction Prog

variable {rt : Runtime} {ch : Choice}

/-! ## Accepted custom fields -/

namespace RegistrationsService

/-- Custom fields that validation accepts for an attendee type. -/
def Accepts (rt : Runtime) (s : Store) (eventId attendeeTypeId : Id)
    (customFields : List (String × Json)) : Prop :=
  validateCustomFields rt (s.fieldsFor eventId attendeeTypeId) customFields = .ok ()

instance (rt : Runtime) (s : Store) (eventId attendeeTypeId : Id)
    (customFields : List (String × Json)) : Decidable (Accepts rt s eventId attendeeTypeId customFields) :=
  match h : validateCustomFields rt (s.fieldsFor eventId attendeeTypeId) customFields with
  | .ok () => .isTrue h
  | .error _ => .isFalse fun h' => by
      rw [Accepts, h] at h'
      cases h'

/-- The stored custom fields of a registration pass the validation of its form. -/
def Fits (rt : Runtime) (s : Store) (r : Registration) : Prop :=
  Accepts rt s r.eventId r.attendeeTypeId (storedFields r)

instance (rt : Runtime) (s : Store) (r : Registration) : Decidable (Fits rt s r) :=
  inferInstanceAs (Decidable (Accepts rt s _ _ _))

/-- The fields in the order in which the database returns them. -/
def fieldsRead (ch : Choice) (s : Store) (eventId attendeeTypeId : Id) : List RegistrationField :=
  (s.fieldsFor eventId attendeeTypeId).insertionSort fun a b => ch.rank a.id ≤ ch.rank b.id

/-- What is accepted does not depend on that order. -/
theorem accepts_iff_read {s : Store} {eventId attendeeTypeId : Id}
    {customFields : List (String × Json)} : Accepts rt s eventId attendeeTypeId customFields ↔
      validateCustomFields rt (fieldsRead ch s eventId attendeeTypeId) customFields = .ok () :=
  validateCustomFields_congr rt (fun _ => (List.mem_insertionSort _).symm) customFields

/-- Acceptance depends on the registration fields only. -/
theorem Accepts.congr {s s' : Store} {eventId attendeeTypeId : Id}
    {customFields : List (String × Json)} (hf : s'.registrationFields = s.registrationFields) :
    Accepts rt s' eventId attendeeTypeId customFields ↔
      Accepts rt s eventId attendeeTypeId customFields := by
  unfold Accepts Store.fieldsFor
  rw [hf]

theorem run_validateStoredFields (s : Store) (eventId attendeeTypeId : Id)
    (customFields : List (String × Json)) :
    (validateStoredFields rt eventId attendeeTypeId customFields).run (machine rt ch) s =
      (validateCustomFields rt (fieldsRead ch s eventId attendeeTypeId) customFields, s) := by
  have hread : (call (.fieldsToValidate eventId attendeeTypeId)).run (machine rt ch) s =
      (.ok (fieldsRead ch s eventId attendeeTypeId), s) := rfl
  simp only [validateStoredFields, bind_eq]
  rw [run_bind_ok _ hread, run_ofExcept]

/-! ## Creations -/

/-- No service of the scan store changes the form. -/
theorem machine_registrationFields (c : Call) (s : Store) :
    (machine rt ch c s).2.registrationFields = s.registrationFields := by
  rcases hm : machine rt ch c s with ⟨x, s'⟩
  have heffect : Effect s c x s' := effect_of_machine hm
  cases heffect <;> rfl

theorem run_registrationFields {α : Type} (p : Svc α) (s : Store) :
    (p.run (machine rt ch) s).2.registrationFields = s.registrationFields :=
  run_invariant (machine rt ch) (I := fun u => u.registrationFields = s.registrationFields)
    (fun c _ u hu => (machine_registrationFields c u).trans hu) (all_true p) rfl

/-- A row that was there, or the row of the input. -/
def FromInput (s : Store) (registration r : Registration) : Prop :=
  r ∈ s.registrations.rows ∨ r.eventId = registration.eventId ∧
    r.attendeeTypeId = registration.attendeeTypeId ∧ r.customFields = registration.customFields

theorem createRegistrationOrThrowConflict_after (registration : Registration) (s : Store) :
    (createRegistrationOrThrowConflict registration).After (machine rt ch) s fun _ s' =>
      ∀ r ∈ s'.registrations.rows, FromInput s registration r := by
  have hdraw : generatePublicId.After (machine rt ch) s fun _ s' =>
      s'.registrations = s.registrations := by
    have hformats : Formats generatePublicId :=
      (tryPublicIds_draws 5).mono fun _ => formats_of_draws
    exact (hformats.sameRows rt ch s).registrations
  simp only [createRegistrationOrThrowConflict, tryCatch_eq, bind_eq]
  refine after_tryCatch (Q := fun _ s' => ∀ r ∈ s'.registrations.rows, FromInput s registration r)
    (after_bind hdraw ?_ ?_) (fun _ _ h => h) ?_
  · intro publicId s₁ hsame
    rw [After, call, run_call]
    rcases hwrite : machine rt ch (.registrationCreate { registration with publicId }) s₁ with
      ⟨x, s₂⟩
    rcases Store.createRegistration_cases hwrite with ⟨e, -, rfl⟩ | ⟨row, t, hc, -, rfl⟩
    · intro r hr
      exact .inl (hsame ▸ hr)
    · intro r hr
      rcases (Table.mem_create hc).mp hr with hr | rfl
      · exact .inl (hsame ▸ hr)
      · rw [(Table.create_eq_some hc).1]
        exact .inr ⟨rfl, rfl, rfl⟩
  · intro e s₁ hsame r hr
    exact .inl (hsame ▸ hr)
  · intro e s₁ h
    split <;> exact h

/-- Every registration after a creation was there before, or fits the form. -/
theorem create_after (dto : CreateRegistrationDto) (s : Store) :
    (create rt dto).After (machine rt ch) s fun _ s' =>
      ∀ r ∈ s'.registrations.rows, r ∈ s.registrations.rows ∨ Fits rt s r := by
  have hsame : ∀ r ∈ s.registrations.rows, r ∈ s.registrations.rows ∨ Fits rt s r :=
    fun r hr => .inl hr
  simp only [create, createNormalized, bind_eq]
  apply after_bind_still (by rw [run_ofExcept]) _ fun _ _ => hsame
  intro registration _
  apply after_bind_still ((ScansService.ensureEventCanBeModified_checks _).reads.run rt ch s) _
    fun _ _ => hsame
  intro event _
  apply after_bind_still ((ensureAttendeeTypeCanBeUsed_reads _ _).run rt ch s) _ fun _ _ => hsame
  intro _ _
  apply after_bind_still ((ensureDuplicateAllowed_reads _ _).run rt ch s) _ fun _ _ => hsame
  intro _ _
  apply after_bind_still (by rw [run_validateStoredFields]) _ fun _ _ => hsame
  intro _ hvalid
  rw [run_validateStoredFields] at hvalid
  have hcreated : (createRegistrationOrThrowConflict registration).After (machine rt ch) s
      fun _ s' => ∀ r ∈ s'.registrations.rows, r ∈ s.registrations.rows ∨ Fits rt s r := by
    apply (createRegistrationOrThrowConflict_after registration s).mono
    intro _ s' h r hr
    rcases h r hr with hr | ⟨hevent, htype, hfields⟩
    · exact .inl hr
    · refine .inr ?_
      rw [Fits, hevent, htype, storedFields, hfields]
      exact accepts_iff_read.mpr hvalid
  apply after_bind hcreated _ fun _ _ h => h
  intro created s₁ h₁
  have hpipeline : (enqueueRegistrationPipeline rt created).After (machine rt ch) s₁
      fun _ s' => s'.registrations = s₁.registrations := by
    have hcalls : (enqueueRegistrationPipeline rt created).All
        fun c => ∃ job, c = .enqueuePipeline job := by
      unfold enqueueRegistrationPipeline
      split
      · exact all_tryCatch (all_call ⟨_, rfl⟩) fun _ => trivial
      · trivial
    refine run_invariant (machine rt ch) (I := fun u => u.registrations = s₁.registrations)
      ?_ hcalls rfl
    rintro c ⟨job, rfl⟩ u hu
    exact hu
  apply after_bind hpipeline
  · rintro _ s₂ hs₂
    exact fun r hr => h₁ r (hs₂ ▸ hr)
  · rintro _ s₂ hs₂
    exact fun r hr => h₁ r (hs₂ ▸ hr)

/-! ## The reads of an update -/

/-- `ensureEventCanBeModified`, in the editing services. -/
theorem onStore_ensureEventCanBeModified (eventId : Id) :
    onStore (ScansService.ensureEventCanBeModified eventId) =
      (editCall (.base (.eventById eventId))).bind fun found =>
        match found with
        | none => .throw (.notFound "Event not found")
        | some event =>
            if event.status = .ARCHIVED then
              .throw (.badRequest "Archived events cannot be modified")
            else .ret event := by
  refine (onStore_bind (call (.eventById eventId)) _).trans ?_
  rw [onStore_call]
  congr 1
  funext found
  cases found with
  | none => rfl
  | some event =>
      dsimp only
      split <;> rfl

theorem registrationOrThrow_reads (id : Id) : EditReads (registrationOrThrow id) := by
  refine all_bind (all_call rfl) fun found => ?_
  cases found <;> trivial

theorem ensureNoOtherDuplicate_reads (event : Event) (registration : Registration)
    (excludeId : Id) : EditReads (ensureNoOtherDuplicate event registration excludeId) := by
  simp only [ensureNoOtherDuplicate]
  split
  · refine all_bind (all_call rfl) fun found => ?_
    cases found <;> trivial
  · trivial

/-- The custom fields that an update validates. -/
def nextFields (registration : Registration) (dto : NormalizedUpdate) : List (String × Json) :=
  dto.customFields.value?.getD (storedFields registration)

/-- What the validation of an update answers. -/
theorem run_validateNextFields (s : EditStore) (registration : Registration)
    (dto : NormalizedUpdate) (attendeeTypeId : Id) :
    (validateNextFields rt registration dto attendeeTypeId).run (editMachine rt ch) s =
      (if dto.customFields.isNull then
          .error (.error "Cannot convert undefined or null to object")
        else validateCustomFields rt (fieldsRead ch s.base registration.eventId attendeeTypeId)
          (nextFields registration dto), s) := by
  have hread : (editCall (.base (.fieldsToValidate registration.eventId attendeeTypeId))).run
      (editMachine rt ch) s = (.ok (fieldsRead ch s.base registration.eventId attendeeTypeId), s) :=
    rfl
  simp only [validateNextFields, bind_eq]
  rw [run_bind_ok _ hread]
  cases hgiven : dto.customFields <;>
    simp [Given.isNull, nextFields, Given.value?, hgiven]

end RegistrationsService

/-! ## The write -/

namespace EditStore

theorem updateRegistration_cases {s s' : EditStore} {id : Id} {p : RegistrationPatch}
    {x : Except Exn (Registration × Option AttendeeType)}
    (h : s.updateRegistration id p = (x, s')) :
    (∃ e, x = .error e ∧ s' = s) ∨
      ∃ row t, s.base.registrations.update id (applyRegistrationPatch s.base.clock p) =
          .done row t ∧
        x = .ok (row, s.base.attendeeTypes.find? row.attendeeTypeId) ∧
        s' = s.withRegistrations t := by
  simp only [updateRegistration] at h
  split at h
  · split at h
    · cases h
      exact .inl ⟨_, rfl, rfl⟩
    · cases h
      exact .inl ⟨_, rfl, rfl⟩
    · next row t hu =>
        cases h
        exact .inr ⟨row, t, hu, rfl, rfl⟩
  · cases h
    exact .inl ⟨_, rfl, rfl⟩

end EditStore

namespace RegistrationsService

/-- What an update that succeeds has checked and written. -/
def Updated (rt : Runtime) (s : EditStore) (id : Id) (dto : UpdateRegistrationDto)
    (row : Registration) (s' : EditStore) : Prop :=
  ∃ n r t, normalizeUpdateDto dto = .ok n ∧ s.base.registrations.find? id = some r ∧
    Accepts rt s.base r.eventId (n.attendeeTypeId.value?.getD r.attendeeTypeId) (nextFields r n) ∧
    s.base.registrations.update id (EditStore.applyRegistrationPatch s.base.clock
      (updateData n (n.attendeeTypeId.value?.getD r.attendeeTypeId))) = .done row t ∧
    s' = s.withRegistrations t

theorem checkAndWrite_after (id : Id) (r : Registration) (event : Event) (n : NormalizedUpdate)
    (attendeeTypeId : Id) (s : EditStore) :
    (checkAndWrite rt id r event n attendeeTypeId).After (editMachine rt ch) s fun x s' =>
      match x with
      | .error _ => s' = s
      | .ok (row, _) => ∃ t, Accepts rt s.base r.eventId attendeeTypeId (nextFields r n) ∧
          s.base.registrations.update id (EditStore.applyRegistrationPatch s.base.clock
            (updateData n attendeeTypeId)) = .done row t ∧ s' = s.withRegistrations t := by
  simp only [checkAndWrite, bind_eq, tryCatch_eq]
  apply after_bind_still ((ensureNoOtherDuplicate_reads _ _ _).run rt ch s) _ fun _ _ => rfl
  intro _ _
  apply after_bind_still (by rw [run_validateNextFields]) _ fun _ _ => rfl
  intro _ hvalid
  have haccepts : Accepts rt s.base r.eventId attendeeTypeId (nextFields r n) := by
    rw [run_validateNextFields] at hvalid
    dsimp only at hvalid
    split at hvalid
    · cases hvalid
    · exact accepts_iff_read.mpr hvalid
  have hwrite : (editCall (.registrationUpdate id (updateData n attendeeTypeId))).After
      (editMachine rt ch) s fun x s' =>
        s.updateRegistration id (updateData n attendeeTypeId) = (x, s') := by
    rw [After, editCall, run_call]
    rfl
  apply after_tryCatch hwrite
  · rintro ⟨row, type⟩ s' hdone
    rcases EditStore.updateRegistration_cases hdone with ⟨e, he, -⟩ | ⟨row', t, hu, hx, rfl⟩
    · cases he
    · cases hx
      exact ⟨t, haccepts, hu, rfl⟩
  · intro e s' hfailed
    rcases EditStore.updateRegistration_cases hfailed with ⟨e', -, rfl⟩ | ⟨row', t, -, hx, -⟩
    · unfold throwConflictForUniqueConstraint
      split <;> rfl
    · cases hx

theorem run_registrationOrThrow_ok {id : Id} {s : EditStore} {r : Registration}
    (h : ((registrationOrThrow id).run (editMachine rt ch) s).1 = .ok r) :
    s.base.registrations.find? id = some r := by
  have hread : (editCall (.base (.registrationById id))).run (editMachine rt ch) s =
      (.ok (s.base.registrations.find? id), s) := rfl
  simp only [registrationOrThrow, bind_eq] at h
  rw [run_bind_ok _ hread] at h
  cases hrow : s.base.registrations.find? id with
  | none =>
      rw [hrow] at h
      cases h
  | some r' =>
      rw [hrow] at h
      cases h
      rfl

theorem update_after (id : Id) (dto : UpdateRegistrationDto) (s : EditStore) :
    (update rt id dto).After (editMachine rt ch) s fun x s' =>
      match x with
      | .error _ => s' = s
      | .ok (row, _) => Updated rt s id dto row s' := by
  simp only [update, bind_eq]
  apply after_bind_still (by rw [run_ofExcept]) _ fun _ _ => rfl
  intro n hn
  rw [run_ofExcept] at hn
  apply after_bind_still ((registrationOrThrow_reads id).run rt ch s) _ fun _ _ => rfl
  intro r hr
  apply after_bind_still
    ((ScansService.ensureEventCanBeModified_checks _).reads.onStore.run rt ch s) _ fun _ _ => rfl
  intro event _
  have hrest : (checkAndWrite rt id r event n
      (n.attendeeTypeId.value?.getD r.attendeeTypeId)).After (editMachine rt ch) s fun x s' =>
        match x with
        | .error _ => s' = s
        | .ok (row, _) => Updated rt s id dto row s' := by
    apply (checkAndWrite_after id r event n _ s).mono
    rintro (e | ⟨row, type⟩) s' hx
    · exact hx
    · obtain ⟨t, haccepts, hu, hs⟩ := hx
      exact ⟨n, r, t, hn, run_registrationOrThrow_ok hr, haccepts, hu, hs⟩
  split
  · apply after_bind_still ((ensureAttendeeTypeCanBeUsed_reads _ _).onStore.run rt ch s) _
      fun _ _ => rfl
    intro _ _
    exact hrest
  · exact hrest

end RegistrationsService

end CreativeBackend
