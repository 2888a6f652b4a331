import CreativeBackend.Scans.Service
import CreativeBackend.Relational.Order
import CreativeBackend.Registrations.CustomFields

/-!
# Removing an attendee type

`AttendeeTypesService.remove` deletes an attendee type without registrations. Its
registration fields and ticket templates stay, with a null attendee type, and
null means that they apply to everyone. The deletion is therefore local to the
type exactly where it has no active field and no active template that would be
preferred to those of the event.
-/

namespace CreativeBackend

open Relational

namespace Store

/-- `ON DELETE SET NULL` on a registration field. -/
def clearFieldType (id : Id) (field : RegistrationField) : RegistrationField :=
  if field.attendeeTypeId = some id then { field with attendeeTypeId := none } else field

/-- `ON DELETE SET NULL` on a ticket template. -/
def clearTemplateType (id : Id) (t : DigitalTicketTemplate) : DigitalTicketTemplate :=
  if t.attendeeTypeId = some id then { t with attendeeTypeId := none } else t

@[simp] theorem clearFieldType_id (id : Id) (field : RegistrationField) :
    (clearFieldType id field).id = field.id := by
  unfold clearFieldType
  split <;> rfl

@[simp] theorem clearTemplateType_id (id : Id) (t : DigitalTicketTemplate) :
    (clearTemplateType id t).id = t.id := by
  unfold clearTemplateType
  split <;> rfl

/-- Nulls do not clash. -/
theorem clash_clearFieldType (id : Id) (a b : RegistrationField)
    (h : clash (clearFieldType id a) (clearFieldType id b) = true) : clash a b = true := by
  simp only [clearFieldType] at h
  split at h
  · simp [clash, sameKey] at h
  · split at h
    · simp [clash, sameKey] at h
      aesop
    · exact h

theorem clash_clearTemplateType (id : Id) (a b : DigitalTicketTemplate)
    (h : clash (clearTemplateType id a) (clearTemplateType id b) = true) : clash a b = true := by
  simp only [clearTemplateType] at h
  split at h <;> split at h <;> exact h

variable (s : Store)

/-- The registration fields after the deletion of an attendee type. -/
def fieldsWithoutType (id : Id) : Table RegistrationField :=
  s.registrationFields.mapRows (clearFieldType id) (clearFieldType_id id) (clash_clearFieldType id)

/-- The ticket templates after the deletion of an attendee type. -/
def templatesWithoutType (id : Id) : Table DigitalTicketTemplate :=
  s.ticketTemplates.mapRows (clearTemplateType id) (clearTemplateType_id id)
    (clash_clearTemplateType id)

/-- `attendeeType.delete`; a registration restricts it. -/
def deleteAttendeeType (id : Id) : Answer Unit :=
  if (s.attendeeTypes.find? id).isNone then (.error (.prisma .notFound), s)
  else if s.registrations.rows.any fun r => r.attendeeTypeId = id then
    (.error (.prisma .foreignKey), s)
  else (.ok (), { s with
    attendeeTypes := s.attendeeTypes.delete id
    registrationFields := s.fieldsWithoutType id
    ticketTemplates := s.templatesWithoutType id })

end Store

namespace AttendeeTypesService

/-- What `remove` returns. -/
structure Removed where
  success : Bool
  deleted : Bool
  id : Id
  eventId : Id

def ensureEventCanBeModified (s : Store) (eventId : Id) : Except Exn Unit :=
  match s.events.find? eventId with
  | none => .error (.notFound "Event not found")
  | some event =>
      if event.status = .ARCHIVED then
        .error (.badRequest "Archived events cannot be modified")
      else .ok ()

def remove (s : Store) (id : Id) : Store.Answer Removed :=
  match s.attendeeTypes.find? id with
  | none => (.error (.notFound "Attendee type not found"), s)
  | some attendeeType =>
      match ensureEventCanBeModified s attendeeType.eventId with
      | .error e => (.error e, s)
      | .ok () =>
          if (s.registrations.rows.filter fun r => r.attendeeTypeId = id).length > 0 then
            (.error (.conflict "Cannot delete attendee type with registrations"), s)
          else
            match s.deleteAttendeeType id with
            | (.error e, s') => (.error e, s')
            | (.ok (), s') =>
                (.ok { success := true, deleted := true, id, eventId := attendeeType.eventId }, s')

end AttendeeTypesService

namespace DigitalTicketsService

/-- `orderBy: { createdAt: 'desc' }`. -/
def newestFirst (ch : Choice) (a b : DigitalTicketTemplate) : Prop :=
  b.createdAt < a.createdAt ∨ a.createdAt = b.createdAt ∧ ch.rank a.id ≤ ch.rank b.id

instance (ch : Choice) : DecidableRel (newestFirst ch) :=
  fun _ _ => inferInstanceAs (Decidable (_ ∨ _))

instance (ch : Choice) : IsTrans DigitalTicketTemplate (newestFirst ch) where
  trans a b c hab hbc := by
    rcases hab with hab | ⟨hab, hrank⟩
    · rcases hbc with hbc | ⟨hbc, -⟩
      · exact .inl (Int.lt_trans hbc hab)
      · exact .inl (hbc ▸ hab)
    · rcases hbc with hbc | ⟨hbc, hrank'⟩
      · exact .inl (hab ▸ hbc)
      · exact .inr ⟨hab.trans hbc, Nat.le_trans hrank hrank'⟩

instance (ch : Choice) : Std.Total (newestFirst ch) where
  total a b := by
    rcases Int.lt_trichotomy a.createdAt b.createdAt with h | h | h
    · exact .inr (.inl h)
    · rcases Nat.le_total (ch.rank a.id) (ch.rank b.id) with hr | hr
      · exact .inl (.inr ⟨h, hr⟩)
      · exact .inr (.inr ⟨h.symm, hr⟩)
    · exact .inl (.inl h)

/-- The `where` of the template query. -/
def candidate (eventId attendeeTypeId : Id) (t : DigitalTicketTemplate) : Bool :=
  t.eventId == eventId && t.isActive &&
    (t.attendeeTypeId == some attendeeTypeId || t.attendeeTypeId == none)

def findActiveTemplateForRegistration (ch : Choice) (s : Store) (eventId attendeeTypeId : Id) :
    Except Exn DigitalTicketTemplate :=
  let templates := (s.ticketTemplates.rows.filter (candidate eventId attendeeTypeId)).insertionSort
    (newestFirst ch)
  match (templates.find? fun item => item.attendeeTypeId = some attendeeTypeId).or
      (templates.find? fun item => item.attendeeTypeId = none) with
  | none => .error (.notFound "Active digital ticket template not found")
  | some template => .ok template

end DigitalTicketsService

open RegistrationsService DigitalTicketsService

/-- The fields that `validateCustomFields` applies to an attendee type. -/
def Store.fieldsFor (s : Store) (eventId attendeeTypeId : Id) : List RegistrationField :=
  s.registrationFields.rows.filter (applies eventId attendeeTypeId)

/-- What an attendee type sees of the fields and templates of its event is the same in
both stores. -/
structure SameForType (s s' : Store) (eventId attendeeTypeId : Id) : Prop where
  fields : ∀ field, field ∈ s.fieldsFor eventId attendeeTypeId ↔
    field ∈ s'.fieldsFor eventId attendeeTypeId
  accepted : ∀ rt customFields,
    validateCustomFields rt (s.fieldsFor eventId attendeeTypeId) customFields = .ok () ↔
      validateCustomFields rt (s'.fieldsFor eventId attendeeTypeId) customFields = .ok ()
  template : ∀ ch, findActiveTemplateForRegistration ch s eventId attendeeTypeId =
    findActiveTemplateForRegistration ch s' eventId attendeeTypeId

/-- An active template of an event with the given attendee type. -/
def IsTemplate (s : Store) (eventId : Id) (attendeeTypeId : Option Id)
    (t : DigitalTicketTemplate) : Prop :=
  t ∈ s.ticketTemplates.rows ∧ t.eventId = eventId ∧ t.isActive = true ∧
    t.attendeeTypeId = attendeeTypeId

/-- The removed type `id` leaves nothing active to the type `other`: it has no active
field, and `other` has a template of its own or the event a newer one for everyone. -/
structure LeavesNothing (s : Store) (eventId id other : Id) : Prop where
  fields : ∀ field ∈ s.registrationFields.rows, field.eventId = eventId →
    field.attendeeTypeId = some id → field.isActive = false
  templates : (∃ t, IsTemplate s eventId (some other) t) ∨
    ∀ t, IsTemplate s eventId (some id) t →
      ∃ t', IsTemplate s eventId none t' ∧ t.createdAt < t'.createdAt

namespace AttendeeTypesService

variable {s s' : Store} {id other eventId : Id}

/-- What a successful removal has done. -/
theorem remove_eq_ok {r : Removed} (h : remove s id = (.ok r, s')) :
    s'.registrationFields = s.fieldsWithoutType id ∧
      s'.ticketTemplates = s.templatesWithoutType id := by
  simp only [remove] at h
  split at h
  · cases h
  · split at h
    · cases h
    · split at h
      · cases h
      · simp only [Store.deleteAttendeeType] at h
        split at h
        · next heq =>
            cases h
        · next heq =>
            split at heq
            · cases heq
            · split at heq
              · cases heq
              · cases heq
                cases h
                exact ⟨rfl, rfl⟩

/-- The fields of another type after the removal are those before it and the active
ones of the removed type. -/
theorem mem_fieldsFor_iff (hne : other ≠ id) (hs : s'.registrationFields = s.fieldsWithoutType id)
    (field : RegistrationField) :
    field ∈ s'.fieldsFor eventId other ↔ field ∈ s.fieldsFor eventId other ∨
      ∃ f ∈ s.registrationFields.rows, f.eventId = eventId ∧ f.isActive = true ∧
        f.attendeeTypeId = some id ∧ field = { f with attendeeTypeId := none } := by
  simp only [Store.fieldsFor, hs, Store.fieldsWithoutType, Table.mapRows, List.mem_filter,
    List.mem_map, applies, Bool.and_eq_true, Bool.or_eq_true, beq_iff_eq]
  constructor
  · rintro ⟨⟨f, hf, rfl⟩, ⟨hevent, hactive⟩, htype⟩
    by_cases hscope : f.attendeeTypeId = some id
    · simp only [Store.clearFieldType, if_pos hscope] at hevent hactive ⊢
      exact .inr ⟨f, hf, hevent, hactive, hscope, rfl⟩
    · simp only [Store.clearFieldType, if_neg hscope] at hevent hactive htype ⊢
      exact .inl ⟨hf, ⟨hevent, hactive⟩, htype⟩
  · rintro (⟨hf, ⟨hevent, hactive⟩, htype⟩ | ⟨f, hf, hevent, hactive, hscope, rfl⟩)
    · have hscope : field.attendeeTypeId ≠ some id := by
        rcases htype with h | h
        · simp [h]
        · simpa [h] using hne
      exact ⟨⟨field, hf, by simp [Store.clearFieldType, hscope]⟩, ⟨hevent, hactive⟩, htype⟩
    · exact ⟨⟨f, hf, by simp [Store.clearFieldType, hscope]⟩, ⟨hevent, hactive⟩, .inl rfl⟩

/-- The fields of another type stay the same exactly where the removed type has no
active field. -/
theorem fieldsFor_congr_iff (hne : other ≠ id)
    (hs : s'.registrationFields = s.fieldsWithoutType id) :
    (∀ field, field ∈ s.fieldsFor eventId other ↔ field ∈ s'.fieldsFor eventId other) ↔
      ∀ field ∈ s.registrationFields.rows, field.eventId = eventId →
        field.attendeeTypeId = some id → field.isActive = false := by
  constructor
  · intro h f hf hevent hscope
    by_contra hactive
    have hactive : f.isActive = true := by simpa using hactive
    have hmem : { f with attendeeTypeId := none } ∈ s'.fieldsFor eventId other :=
      (mem_fieldsFor_iff hne hs _).mpr (.inr ⟨f, hf, hevent, hactive, hscope, rfl⟩)
    have hold : { f with attendeeTypeId := none } ∈ s.registrationFields.rows :=
      List.mem_of_mem_filter ((h _).mpr hmem)
    have hsame := s.registrationFields.eq_of_key hold hf rfl
    rw [← hsame] at hscope
    cases hscope
  · intro h field
    rw [mem_fieldsFor_iff hne hs]
    refine ⟨.inl, ?_⟩
    rintro (hmem | ⟨f, hf, hevent, hactive, hscope, rfl⟩)
    · exact hmem
    · rw [h f hf hevent hscope] at hactive
      cases hactive

/-- The active templates of an event with the given attendee type. -/
def templatesOf (s : Store) (eventId : Id) (attendeeTypeId : Option Id) :
    List DigitalTicketTemplate :=
  s.ticketTemplates.rows.filter fun t =>
    t.eventId == eventId && t.isActive && t.attendeeTypeId == attendeeTypeId

theorem mem_templatesOf {attendeeTypeId : Option Id} {t : DigitalTicketTemplate} :
    t ∈ templatesOf s eventId attendeeTypeId ↔ IsTemplate s eventId attendeeTypeId t := by
  simp [templatesOf, IsTemplate, and_assoc]

/-- The template that is selected, as the first of two lists. -/
theorem find_eq (ch : Choice) : findActiveTemplateForRegistration ch s eventId other =
    match ((templatesOf s eventId (some other)).insertionSort (newestFirst ch)).head?.or
        ((templatesOf s eventId none).insertionSort (newestFirst ch)).head? with
    | none => .error (.notFound "Active digital ticket template not found")
    | some template => .ok template := by
  have hown : ((s.ticketTemplates.rows.filter (candidate eventId other)).filter
      fun item => item.attendeeTypeId = some other) = templatesOf s eventId (some other) := by
    rw [List.filter_filter]
    refine List.filter_congr fun t _ => ?_
    by_cases h : t.attendeeTypeId = some other <;> simp [candidate, h]
  have hshared : ((s.ticketTemplates.rows.filter (candidate eventId other)).filter
      fun item => item.attendeeTypeId = none) = templatesOf s eventId none := by
    rw [List.filter_filter]
    refine List.filter_congr fun t _ => ?_
    cases h : t.attendeeTypeId <;> simp [candidate, h]
  simp only [findActiveTemplateForRegistration, find?_insertionSort, hown, hshared]

section Templates

variable (hne : other ≠ id) (hs : s'.ticketTemplates = s.templatesWithoutType id)

include hs

theorem mem_templatesOf_iff {attendeeTypeId : Option Id} (t : DigitalTicketTemplate) :
    IsTemplate s' eventId attendeeTypeId t ↔
      ∃ t₀ ∈ s.ticketTemplates.rows, t₀.eventId = eventId ∧ t₀.isActive = true ∧
        (Store.clearTemplateType id t₀).attendeeTypeId = attendeeTypeId ∧
          t = Store.clearTemplateType id t₀ := by
  simp only [IsTemplate, hs, Store.templatesWithoutType, Table.mapRows, List.mem_map]
  constructor
  · rintro ⟨⟨t₀, ht₀, rfl⟩, hevent, hactive, htype⟩
    refine ⟨t₀, ht₀, ?_, ?_, htype, rfl⟩
    · rw [← hevent]
      unfold Store.clearTemplateType
      split <;> rfl
    · rw [← hactive]
      unfold Store.clearTemplateType
      split <;> rfl
  · rintro ⟨t₀, ht₀, hevent, hactive, htype, rfl⟩
    refine ⟨⟨t₀, ht₀, rfl⟩, ?_, ?_, htype⟩
    · rw [← hevent]
      unfold Store.clearTemplateType
      split <;> rfl
    · rw [← hactive]
      unfold Store.clearTemplateType
      split <;> rfl

include hne

/-- The templates of another type stay as they are. -/
theorem templatesOf_other :
    templatesOf s' eventId (some other) = templatesOf s eventId (some other) := by
  simp only [templatesOf, hs, Store.templatesWithoutType, Table.mapRows, List.filter_map]
  have hid : ∀ t ∈ s.ticketTemplates.rows.filter ((fun t : DigitalTicketTemplate =>
      t.eventId == eventId && t.isActive && t.attendeeTypeId == some other) ∘
        Store.clearTemplateType id), Store.clearTemplateType id t = t := by
    intro t ht
    have hp := (List.mem_filter.mp ht).2
    unfold Store.clearTemplateType at hp ⊢
    split
    · next h => simp [h] at hp
    · rfl
  rw [List.map_congr_left hid, List.map_id']
  refine List.filter_congr fun t _ => ?_
  simp only [Function.comp, Store.clearTemplateType]
  split
  · next h => simp [h, Ne.symm hne]
  · rfl

omit hne in
/-- The templates for everyone that were for everyone before. -/
theorem templatesOf_shared :
    (templatesOf s' eventId none).filter (fun t =>
      (s.ticketTemplates.find? t.id).any fun t₀ => t₀.attendeeTypeId = none) =
        templatesOf s eventId none := by
  simp only [templatesOf, hs, Store.templatesWithoutType, Table.mapRows, List.filter_map,
    List.filter_filter]
  have hlook : ∀ t ∈ s.ticketTemplates.rows, s.ticketTemplates.find? t.id = some t :=
    fun t ht => Table.find?_eq_some_iff.mpr ⟨ht, rfl⟩
  have hfilter : ∀ t ∈ s.ticketTemplates.rows,
      (((s.ticketTemplates.find? (Store.clearTemplateType id t).id).any fun t₀ =>
          t₀.attendeeTypeId = none) &&
        ((Store.clearTemplateType id t).eventId == eventId &&
          (Store.clearTemplateType id t).isActive &&
            (Store.clearTemplateType id t).attendeeTypeId == none)) =
        (t.eventId == eventId && t.isActive && t.attendeeTypeId == none) := by
    intro t ht
    rw [Store.clearTemplateType_id, hlook t ht]
    unfold Store.clearTemplateType
    split
    · next h => simp [h]
    · cases h : t.attendeeTypeId <;> simp [h]
  refine (congrArg (List.map _) (List.filter_congr hfilter)).trans ?_
  have hid : ∀ t ∈ s.ticketTemplates.rows.filter (fun t =>
      t.eventId == eventId && t.isActive && t.attendeeTypeId == none),
        Store.clearTemplateType id t = t := by
    intro t ht
    have hp := (List.mem_filter.mp ht).2
    unfold Store.clearTemplateType
    split
    · next h => simp [h] at hp
    · rfl
  rw [List.map_congr_left hid, List.map_id']

end Templates

/-- The removed type's newest active template, when no newer one is for everyone, is
selected under the order that ranks it first. -/
theorem selected_removed (hs : s'.ticketTemplates = s.templatesWithoutType id)
    {t : DigitalTicketTemplate} (ht : IsTemplate s eventId (some id) t)
    (hnewest : ∀ t', IsTemplate s eventId (some id) t' → t'.createdAt ≤ t.createdAt)
    (hshared : ∀ t', IsTemplate s eventId none t' → t'.createdAt ≤ t.createdAt) :
    ((templatesOf s' eventId none).insertionSort
      (newestFirst { rank := fun k => if k = t.id then 0 else 1 })).head? =
        some { t with attendeeTypeId := none } := by
  have hclear : Store.clearTemplateType id t = { t with attendeeTypeId := none } := by
    simp [Store.clearTemplateType, ht.2.2.2]
  have hmem : { t with attendeeTypeId := none } ∈ templatesOf s' eventId none := by
    rw [mem_templatesOf, mem_templatesOf_iff hs]
    exact ⟨t, ht.1, ht.2.1, ht.2.2.1, by rw [hclear], hclear.symm⟩
  have holder : ∀ t' ∈ templatesOf s' eventId none, t'.createdAt ≤ t.createdAt := by
    intro t' ht'
    rw [mem_templatesOf, mem_templatesOf_iff hs] at ht'
    obtain ⟨t₀, ht₀, hevent, hactive, htype, rfl⟩ := ht'
    by_cases hscope : t₀.attendeeTypeId = some id
    · rw [show (Store.clearTemplateType id t₀).createdAt = t₀.createdAt by
        simp [Store.clearTemplateType, hscope]]
      exact hnewest t₀ ⟨ht₀, hevent, hactive, hscope⟩
    · simp only [Store.clearTemplateType, if_neg hscope] at htype ⊢
      exact hshared t₀ ⟨ht₀, hevent, hactive, htype⟩
  cases hhead : ((templatesOf s' eventId none).insertionSort
      (newestFirst { rank := fun k => if k = t.id then 0 else 1 })).head? with
  | none =>
      rw [head?_insertionSort_eq_none] at hhead
      rw [hhead] at hmem
      cases hmem
  | some a =>
      have ha := mem_of_head?_insertionSort _ hhead
      have hid : a.id = t.id := by
        rcases rel_head?_insertionSort _ hhead hmem with heq | hlt | ⟨-, hrank⟩
        · rw [← heq]
        · exact absurd (holder a ha) (Int.not_le.mpr hlt)
        · by_contra hne
          simp [hne] at hrank
      have hrow := (mem_templatesOf.mp hmem).1
      rw [s'.ticketTemplates.eq_of_key (mem_templatesOf.mp ha).1 hrow hid]

/-- The template selected for another type stays the same under every order of the
database exactly where no template of the removed type is preferred. -/
theorem template_congr_iff (hne : other ≠ id)
    (hs : s'.ticketTemplates = s.templatesWithoutType id) :
    (∀ ch, findActiveTemplateForRegistration ch s eventId other =
        findActiveTemplateForRegistration ch s' eventId other) ↔
      (∃ t, IsTemplate s eventId (some other) t) ∨
        ∀ t, IsTemplate s eventId (some id) t →
          ∃ t', IsTemplate s eventId none t' ∧ t.createdAt < t'.createdAt := by
  constructor
  · intro h
    by_contra hcond
    simp only [not_or, not_exists, not_forall, not_and, not_lt] at hcond
    obtain ⟨hown, t, ht, hshared⟩ := hcond
    obtain ⟨t₁, ht₁, hnewest⟩ : ∃ t₁, IsTemplate s eventId (some id) t₁ ∧
        ∀ t', IsTemplate s eventId (some id) t' → t'.createdAt ≤ t₁.createdAt := by
      cases hmax : (templatesOf s eventId (some id)).argmax DigitalTicketTemplate.createdAt with
      | none =>
          rw [List.argmax_eq_none] at hmax
          have hmem := mem_templatesOf.mpr ht
          rw [hmax] at hmem
          cases hmem
      | some t₁ =>
          refine ⟨t₁, mem_templatesOf.mp (List.argmax_mem hmax), fun t' ht' => ?_⟩
          exact List.le_of_mem_argmax (mem_templatesOf.mpr ht') hmax
    have hselected := selected_removed hs ht₁ hnewest
      fun t' ht' => (hshared t' ht').trans (hnewest t ht)
    have hnone : templatesOf s eventId (some other) = [] := by
      rw [List.eq_nil_iff_forall_not_mem]
      exact fun t' ht' => hown t' (mem_templatesOf.mp ht')
    have hsame := h { rank := fun k => if k = t₁.id then 0 else 1 }
    rw [find_eq, find_eq, templatesOf_other hne hs, hnone, hselected] at hsame
    cases hold : ((templatesOf s eventId none).insertionSort
        (newestFirst { rank := fun k => if k = t₁.id then 0 else 1 })).head? with
    | none =>
        rw [hold] at hsame
        cases hsame
    | some a =>
        rw [hold] at hsame
        have ha := mem_templatesOf.mp (mem_of_head?_insertionSort _ hold)
        have heq : a = { t₁ with attendeeTypeId := none } := by simpa using hsame
        have hrow : a = t₁ := s.ticketTemplates.eq_of_key ha.1 ht₁.1 (by rw [heq]; rfl)
        have htype := ht₁.2.2.2
        rw [← hrow, ha.2.2.2] at htype
        cases htype
  · rintro (⟨t, ht⟩ | hnewer) ch
    · rw [find_eq, find_eq, templatesOf_other hne hs]
      cases hhead : ((templatesOf s eventId (some other)).insertionSort (newestFirst ch)).head? with
      | none =>
          rw [head?_insertionSort_eq_none] at hhead
          have hmem := mem_templatesOf.mpr ht
          rw [hhead] at hmem
          cases hmem
      | some a => rfl
    · rw [find_eq, find_eq, templatesOf_other hne hs, ← templatesOf_shared hs,
        head?_insertionSort_filter]
      intro t ht hdropped
      rw [mem_templatesOf, mem_templatesOf_iff hs] at ht
      obtain ⟨t₀, ht₀, hevent, hactive, htype, rfl⟩ := ht
      have hlook : s.ticketTemplates.find? t₀.id = some t₀ :=
        Table.find?_eq_some_iff.mpr ⟨ht₀, rfl⟩
      simp only [Store.clearTemplateType_id, hlook, Option.any_some, decide_eq_false_iff_not]
        at hdropped
      have hscope : t₀.attendeeTypeId = some id := by
        by_contra hscope
        simp only [Store.clearTemplateType, if_neg hscope] at htype
        exact hdropped htype
      obtain ⟨t', ht', hlt⟩ := hnewer t₀ ⟨ht₀, hevent, hactive, hscope⟩
      have hshared : t' ∈ templatesOf s' eventId none := by
        have hkept := mem_templatesOf.mpr ht'
        rw [← templatesOf_shared hs] at hkept
        exact List.mem_of_mem_filter hkept
      have hlook' : s.ticketTemplates.find? t'.id = some t' :=
        Table.find?_eq_some_iff.mpr ⟨ht'.1, rfl⟩
      refine ⟨t', hshared, by simp [hlook', ht'.2.2.2], ?_⟩
      have hcreated : (Store.clearTemplateType id t₀).createdAt = t₀.createdAt := by
        simp [Store.clearTemplateType, hscope]
      rintro (hle | ⟨heq, -⟩)
      · rw [hcreated] at hle
        exact absurd hle (Int.not_lt.mpr (Int.le_of_lt hlt))
      · rw [hcreated] at heq
        rw [heq] at hlt
        exact absurd hlt (Int.lt_irrefl _)

end AttendeeTypesService

open AttendeeTypesService

/-- The removal of an attendee type is local to another type of its event exactly where
it leaves nothing active behind. -/
theorem removal_local_iff {s s' : Store} {id other : Id} {r : AttendeeTypesService.Removed}
    (h : AttendeeTypesService.remove s id = (.ok r, s')) (hne : other ≠ id) :
    SameForType s s' r.eventId other ↔ LeavesNothing s r.eventId id other := by
  obtain ⟨hfields, htemplates⟩ := remove_eq_ok h
  have hf : (∀ field, field ∈ s.fieldsFor r.eventId other ↔
      field ∈ s'.fieldsFor r.eventId other) ↔ _ :=
    fieldsFor_congr_iff hne hfields
  have ht : (∀ ch, findActiveTemplateForRegistration ch s r.eventId other =
      findActiveTemplateForRegistration ch s' r.eventId other) ↔ _ :=
    template_congr_iff hne htemplates
  constructor
  · exact fun hsame => ⟨hf.mp hsame.fields, ht.mp hsame.template⟩
  · intro hnothing
    have hsame := hf.mpr hnothing.fields
    exact ⟨hsame, fun rt => validateCustomFields_congr rt hsame, ht.mpr hnothing.templates⟩

namespace AttendeeTypesService

/-- An event with visitors and speakers, and the fields of its registration form. -/
def sampleForm (fields : List RegistrationField) : Store where
  events := .ofData [{ status := .ACTIVE, startsAt := 0, endsAt := 10 }]
  attendeeTypes := .ofData
    [{ eventId := "c0", code := "VISITOR" }, { eventId := "c0", code := "SPEAKER" }]
  registrationFields := .ofData fields

/-- A required field of the speakers. -/
def topic : RegistrationField where
  eventId := "c0"
  attendeeTypeId := some "c1"
  key := "topic"
  type := .TEXT
  isRequired := true

/-- The answer to the removal of the speakers. -/
def speakersRemoved : AttendeeTypesService.Removed :=
  { success := true, deleted := true, id := "c1", eventId := "c0" }

theorem remove_speakers_ok (fields : List RegistrationField) :
    remove (sampleForm fields) "c1" =
      (.ok speakersRemoved, (remove (sampleForm fields) "c1").2) := by
  rfl

end AttendeeTypesService

/-- Without fields of their own, the removal of the speakers is local to the visitors. -/
theorem removal_of_speakers_local :
    SameForType (sampleForm []) (AttendeeTypesService.remove (sampleForm []) "c1").2 "c0" "c0" := by
  refine (removal_local_iff (remove_speakers_ok []) (by decide)).mpr ⟨?_, .inr ?_⟩
  · intro field hfield
    cases hfield
  · intro t ht
    cases ht.1

/-- The required field of the removed speakers is required of the visitors, who cannot
be registered as before. -/
theorem removal_not_local :
    ¬ ∀ (s s' : Store) (id other : Id) (r : AttendeeTypesService.Removed) (u : AttendeeType),
      AttendeeTypesService.remove s id = (.ok r, s') → other ≠ id →
      s.attendeeTypes.find? other = some u → u.eventId = r.eventId → SameForType s s' r.eventId other := by
  intro h
  have hsame := h (sampleForm [topic]) _ "c1" "c0" speakersRemoved
    { id := "c0", eventId := "c0", code := "VISITOR" } (remove_speakers_ok [topic]) (by decide)
    rfl rfl
  have hbefore : validateCustomFields sampleRuntime ((sampleForm [topic]).fieldsFor "c0" "c0") [] =
      .ok () := by
    rfl
  have hafter := (hsame.accepted sampleRuntime []).mp hbefore
  cases hafter

end CreativeBackend
