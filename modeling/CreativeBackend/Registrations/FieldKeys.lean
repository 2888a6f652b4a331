import CreativeBackend.Registrations.ChoiceFields

/-!
# Keys of registration fields

The unique index of the database does not compare fields without an attendee type; the service
compares them itself, before it writes.
-/

namespace CreativeBackend

open Relational Interaction Prog

/-- No two fields of an event and an attendee type, or of an event alone, share a key. -/
def DistinctKeys (s : EditStore) : Prop :=
  ∀ f ∈ s.base.registrationFields.rows, ∀ g ∈ s.base.registrationFields.rows,
    f.eventId = g.eventId → f.key = g.key → f.attendeeTypeId = g.attendeeTypeId → f = g

namespace FieldKeys

open Forms.RegistrationFieldsService

variable {rt : Runtime} {p : Platform} {ch : Choice} {s s' : EditStore}

/-- A row of the scope and key that were free is written, in place of the excluded one if any. -/
theorem distinctKeys_write {w : FieldWhere} (row : RegistrationField) (h : DistinctKeys s)
    (hfree : ∀ f ∈ s.base.registrationFields.rows, w.holds f = false)
    (hrow : row.eventId = w.eventId ∧ row.key = w.key ∧ row.attendeeTypeId = w.attendeeTypeId)
    (hrows : ∀ f ∈ s'.base.registrationFields.rows, f = row ∨
      f ∈ s.base.registrationFields.rows ∧ w.excludeId.all (f.id != ·) = true) :
    DistinctKeys s' := by
  obtain ⟨hre, hrk, hra⟩ := hrow
  have hne : ∀ f ∈ s.base.registrationFields.rows, w.excludeId.all (f.id != ·) = true →
      f.eventId = row.eventId → f.key = row.key → f.attendeeTypeId ≠ row.attendeeTypeId := by
    intro f hf hother he hk ha
    have hholds := hfree f hf
    simp [FieldWhere.holds, he, hk, ha, hre, hrk, hra, hother] at hholds
  intro f hf g hg he hk ha
  rcases hrows f hf with rfl | ⟨hf, hfo⟩
  · rcases hrows g hg with rfl | ⟨hg, hgo⟩
    · rfl
    · exact absurd ha.symm (hne g hg hgo he.symm hk.symm)
  · rcases hrows g hg with rfl | ⟨hg, -⟩
    · exact absurd ha (hne f hf hfo he hk)
    · exact h f hf g hg he hk ha

theorem free_of_ensureKeyIsUnique {w : FieldWhere}
    (h : ((ensureKeyIsUnique w).run (editMachine rt ch) s).1 = .ok ()) :
    ∀ f ∈ s.base.registrationFields.rows, w.holds f = false := by
  have hread : (editCall (.fieldFirst w)).run (editMachine rt ch) s =
      (.ok (ch.first (s.base.registrationFields.rows.filter w.holds)), s) := rfl
  simp only [ensureKeyIsUnique, bind_eq] at h
  rw [run_bind_ok _ hread] at h
  cases hfirst : ch.first (s.base.registrationFields.rows.filter w.holds) with
  | some f =>
      rw [hfirst] at h
      cases h
  | none =>
      rw [Choice.first_eq_none, List.filter_eq_nil_iff] at hfirst
      exact fun f hf => by simpa using hfirst f hf

/-- The checks that both edits make before they write. -/
theorem distinctKeys_checked {α : Type} {eventId : Id} {attendeeTypeId : Option Id} {w : FieldWhere}
    {options : Except Exn Json} {write : Json → EditSvc α} (h : DistinctKeys s)
    (hwrite : (∀ f ∈ s.base.registrationFields.rows, w.holds f = false) → ∀ stored,
      (write stored).After (editMachine rt ch) s fun _ s' => DistinctKeys s') :
    ((onStore (ScansService.ensureEventCanBeModified eventId)).bind fun _ =>
      (ensureAttendeeTypeBelongsToEvent attendeeTypeId eventId).bind fun _ =>
        (ensureKeyIsUnique w).bind fun _ => (Prog.ofExcept options).bind write).After
      (editMachine rt ch) s fun _ s' => DistinctKeys s' := by
  apply after_bind_still
    ((ScansService.ensureEventCanBeModified_checks _).reads.onStore.run rt ch s) _ fun _ _ => h
  intro _ _
  apply after_bind_still ((ensureAttendeeTypeBelongsToEvent_reads _ _).run rt ch s) _ fun _ _ => h
  intro _ _
  apply after_bind_still ((ensureKeyIsUnique_reads _).run rt ch s) _ fun _ _ => h
  intro _ hunique
  apply after_bind_still (by rw [run_ofExcept]) _ fun _ _ => h
  exact fun stored _ => hwrite (free_of_ensureKeyIsUnique hunique) stored

theorem distinctKeys_create (dto : Forms.CreateRegistrationFieldDto) (h : DistinctKeys s) :
    (create p dto).After (editMachine rt ch) s fun _ s' => DistinctKeys s' := by
  refine distinctKeys_checked h fun hfree options => ?_
  unfold After
  rw [editCall, run_call]
  rcases hwrite : s.createField _ with ⟨x, s'⟩
  rw [editMachine, hwrite]
  rcases EditStore.createField_cases hwrite with ⟨e, -, rfl⟩ | ⟨row, t, hc, -, rfl⟩
  · exact h
  · refine distinctKeys_write row h hfree ?_ fun f hf => ?_
    · rw [(Table.create_eq_some hc).1]
      exact ⟨rfl, rfl, rfl⟩
    · exact ((Table.mem_create hc).mp hf).symm.imp_right fun hold => ⟨hold, rfl⟩

theorem distinctKeys_update (id : Id) (dto : Forms.UpdateRegistrationFieldDto)
    (h : DistinctKeys s) :
    (update p id dto).After (editMachine rt ch) s fun _ s' => DistinctKeys s' := by
  refine after_bind_still ((findOne_reads id).run rt ch s) (fun found hfound => ?_) fun _ _ => h
  refine distinctKeys_checked h fun hfree options => ?_
  unfold After
  rw [editCall, run_call]
  rcases hwrite : s.updateField id _ with ⟨x, s'⟩
  rw [editMachine, hwrite]
  rcases EditStore.updateField_cases hwrite with ⟨e, -, rfl⟩ | ⟨row, t, hu, -, rfl⟩
  · exact h
  · refine distinctKeys_write row h hfree ?_ fun f hf => ?_
    · obtain ⟨a, ha, hkey, hrow, -, -⟩ := Table.update_eq_done hu
      obtain ⟨hmem, hid⟩ := Table.find?_eq_some_iff.mp (findOne_ok hfound)
      obtain rfl := s.base.registrationFields.eq_of_key ha hmem (hkey.trans hid.symm)
      rw [hrow]
      exact ⟨rfl, rfl, rfl⟩
    · refine ((Table.mem_update hu).mp hf).symm.imp_right fun hold => ⟨hold.1, ?_⟩
      exact bne_iff_ne.mpr hold.2

/-- The service lets no two fields of one scope have the same key, in any order of edits. -/
theorem distinctKeys_of_run {rt : Runtime} {p : Platform} {s₀ s : EditStore}
    (h₀ : DistinctKeys s₀) (h : FormRun rt p (fun _ _ => True) s₀ s) : DistinctKeys s := by
  induction h with
  | start => exact h₀
  | wait _ now ih => exact ih
  | @perform s _ ch op _ ih =>
      cases op with
      | createField dto =>
          rw [FormOp.perform, FormOp.program, run_void]
          exact distinctKeys_create dto ih
      | updateField id dto =>
          rw [FormOp.perform, FormOp.program, run_void]
          exact distinctKeys_update id dto ih
      | removeField id =>
          exact fun f hf g hg => ih f (fields_of_remove id s f hf) g (fields_of_remove id s g hg)
      | _ =>
          unfold DistinctKeys
          rw [fields_of_registration rfl s]
          exact ih

theorem distinctKeys_withField : DistinctKeys (Forms.withField true) :=
  distinctKeys_of_run (fun f hf => by cases hf) (Forms.withField_run trivial)

end FieldKeys

end CreativeBackend
