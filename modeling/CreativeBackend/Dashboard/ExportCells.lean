import CreativeBackend.Dashboard.ExportColumns
import CreativeBackend.Dashboard.Pagination

/-!
# Cells that belong to their column

A cell of the exported sheet shows what is stored under the key of its column, where there is
something, and otherwise does not show what belongs to another field of the event.
-/

namespace CreativeBackend.RegistrationExcelExporter

section Cells

variable (toLowerCase : String → String) {ρ : Type} [Ord ρ] (c : Collation ρ) (db : DashboardDb)

/-! ## What a cell shows -/

/-- The registration has a value under the key. -/
def Stores (r : Registration) (key : String) (value : Json) : Prop :=
  (toRecord r.customFields).lookup key = some value ∧ hasJsonValue value = true

theorem hasCustomValue_iff {fields : List (String × Json)} {key other : String} {value : Json} :
    hasValue (valueAt fields key) = true ∧ valueAt fields key = .custom other value ↔
      key = other ∧ fields.lookup key = some value ∧ hasJsonValue value = true := by
  unfold valueAt
  cases hlookup : fields.lookup key with
  | none =>
      by_cases hname : key ∈ objectPrototype
      · simp [hname]
      · simp [hname]
  | some stored =>
      simp only [hasValue, DynamicValue.custom.injEq, Option.some.injEq]
      constructor
      · rintro ⟨hvalue, rfl, rfl⟩
        exact ⟨rfl, rfl, hvalue⟩
      · rintro ⟨rfl, rfl, hvalue⟩
        exact ⟨hvalue, rfl, rfl⟩

theorem columnValue_ne_custom {r : Registration} {key other : String} {value : Json} :
    columnValue toLowerCase r key ≠ .custom other value := by
  unfold columnValue
  dsimp only
  split
  · exact DynamicValue.noConfusion
  · split
    · exact DynamicValue.noConfusion
    · split <;> exact DynamicValue.noConfusion

variable {toLowerCase} {r : Registration} {key other : String} {value : Json}

/-- A cell shows what is stored under the key of its column, or under the first equivalent key where
there is nothing under its own. -/
theorem getDynamicFieldValue_eq_custom_iff :
    getDynamicFieldValue toLowerCase r key = .custom other value ↔
      (key = other ∧ Stores r key value) ∨
        (hasValue (valueAt (toRecord r.customFields) key) = false ∧
          matchingCustomKey toLowerCase (toRecord r.customFields) key = some other ∧
            Stores r other value) := by
  unfold getDynamicFieldValue Stores
  generalize toRecord r.customFields = fields
  dsimp only
  by_cases hown : hasValue (valueAt fields key) = true
  · rw [if_pos hown]
    constructor
    · intro h
      exact .inl (hasCustomValue_iff.mp ⟨hown, h⟩)
    · rintro (hstored | ⟨hnone, -⟩)
      · exact (hasCustomValue_iff.mpr hstored).2
      · rw [hown] at hnone
        cases hnone
  · have hnone : hasValue (valueAt fields key) = false := by simpa using hown
    rw [if_neg hown]
    have hnot : ¬ (key = other ∧ fields.lookup key = some value ∧ hasJsonValue value = true) :=
      fun hstored => hown (hasCustomValue_iff.mpr hstored).1
    simp only [hnot, hnone, true_and, false_or]
    cases matchingCustomKey toLowerCase fields key with
    | none => simp [columnValue_ne_custom]
    | some found =>
        by_cases hvalue : hasValue (valueAt fields found) = true
        · simp only [if_pos hvalue, Option.some.injEq]
          constructor
          · intro h
            obtain ⟨rfl, hstored⟩ := hasCustomValue_iff.mp ⟨hvalue, h⟩
            exact ⟨rfl, hstored⟩
          · rintro ⟨rfl, hstored⟩
            exact (hasCustomValue_iff.mpr ⟨rfl, hstored⟩).2
        · simp only [if_neg hvalue, columnValue_ne_custom, false_iff]
          rintro ⟨hsame, hstored⟩
          obtain rfl := Option.some.inj hsame
          exact hvalue (hasCustomValue_iff.mpr ⟨rfl, hstored⟩).1

/-! ## Cells of other fields -/

/-- An active field of an event. -/
def ActiveField (eventId : Id) (key : String) : Prop :=
  ∃ f ∈ db.registrationFields, f.eventId = eventId ∧ f.isActive = true ∧ f.key = key

variable (toLowerCase r key) in
structure CellBelongs : Prop where
  own : ∀ value, Stores r key value →
    getDynamicFieldValue toLowerCase r key = .custom key value
  others : (∀ value, ¬ Stores r key value) → ∀ other value,
    getDynamicFieldValue toLowerCase r key = .custom other value → other ≠ key →
      ¬ ActiveField db r.eventId other

variable (toLowerCase r key other) in
/-- There is nothing under the key of the column, and the first equivalent key is a field of the
event with a value. -/
structure Takes : Prop where
  empty : hasValue (valueAt (toRecord r.customFields) key) = false
  first : matchingCustomKey toLowerCase (toRecord r.customFields) key = some other
  stored : ∃ value, Stores r other value
  field : ActiveField db r.eventId other

/-- Nothing is stored where the cell has no value of its own. -/
theorem not_stores_of_empty (h : hasValue (valueAt (toRecord r.customFields) key) = false) :
    ¬ Stores r key value := by
  intro hstored
  have hvalue := (hasCustomValue_iff.mpr ⟨rfl, hstored⟩).1
  rw [h] at hvalue
  cases hvalue

theorem cellBelongs_iff :
    CellBelongs toLowerCase db r key ↔ ∀ other, ¬ Takes toLowerCase db r key other := by
  constructor
  · rintro hbelongs other ⟨hempty, hfirst, ⟨value, hstored⟩, hfield⟩
    have hne : other ≠ key := by
      rintro rfl
      exact not_stores_of_empty hempty hstored
    have hshown := getDynamicFieldValue_eq_custom_iff.mpr (.inr ⟨hempty, hfirst, hstored⟩)
    exact hbelongs.others (fun _ => not_stores_of_empty hempty) other value hshown hne hfield
  · intro htakes
    refine ⟨fun value hstored => ?_, fun hnone other value hshown hne hfield => ?_⟩
    · exact getDynamicFieldValue_eq_custom_iff.mpr (.inl ⟨rfl, hstored⟩)
    · rcases getDynamicFieldValue_eq_custom_iff.mp hshown with
        ⟨-, hstored⟩ | ⟨hempty, hfirst, hother⟩
      · exact hnone value hstored
      · exact htakes other ⟨hempty, hfirst, ⟨value, hother⟩, hfield⟩

/-! ## Fields with equivalent keys -/

/-- Custom fields with a value under one key and none under another one. -/
def filledOnly (key other : String) : List (String × Json) :=
  (other, .str "1") :: if key ∈ objectPrototype then [(key, .null)] else []

theorem takes_filledOnly {eventId : Id} (hfield : ActiveField db eventId other) (hne : other ≠ key)
    (hother : other ≠ "") (hequivalent : isEquivalent toLowerCase key other = true)
    (hr : r.eventId = eventId) (hcustom : r.customFields = some (.obj (filledOnly key other))) :
    Takes toLowerCase db r key other := by
  have hrecord : toRecord r.customFields = filledOnly key other := by
    rw [hcustom]
    rfl
  have hlookup : (filledOnly key other).lookup other = some (.str "1") := List.lookup_cons_self
  refine ⟨?_, ?_, ⟨.str "1", ?_, rfl⟩, hr ▸ hfield⟩
  · rw [hrecord]
    have hskip : (key == other) = false := beq_false_of_ne (Ne.symm hne)
    unfold valueAt filledOnly
    rw [List.lookup_cons, hskip]
    by_cases hname : key ∈ objectPrototype
    · -- An inherited name is hidden by a property without a value.
      simp only [if_pos hname, List.lookup_cons_self]
      rfl
    · simp only [if_neg hname, List.lookup_nil]
      rfl
  · rw [hrecord, matchingCustomKey, filledOnly, List.map_cons, List.find?_cons_of_pos hequivalent]
    exact truthy_eq_some_iff.mpr ⟨rfl, hother⟩
  · rw [hrecord]
    exact hlookup

/-- No registration of the event has a cell of another field exactly where no other field of the
event has an equivalent key. -/
theorem forall_cellBelongs_iff {eventId : Id} :
    (∀ r : Registration, r.eventId = eventId → CellBelongs toLowerCase db r key) ↔
      ∀ other, ActiveField db eventId other → other ≠ key → other ≠ "" →
        isEquivalent toLowerCase key other = false := by
  constructor
  · intro hall other hfield hne hother
    rw [← Bool.not_eq_true]
    intro hequivalent
    let r : Registration :=
      { publicId := "", eventId, attendeeTypeId := "", fullName := ""
        customFields := some (.obj (filledOnly key other)) }
    exact (cellBelongs_iff db).mp (hall r rfl) other
      (takes_filledOnly db hfield hne hother hequivalent rfl rfl)
  · intro hnone r hr
    rw [cellBelongs_iff]
    rintro other ⟨hempty, hfirst, ⟨value, hstored⟩, hfield⟩
    obtain ⟨hfound, hother⟩ := truthy_eq_some_iff.mp hfirst
    have hequivalent : isEquivalent toLowerCase key other = true := List.find?_some hfound
    have hne : other ≠ key := by
      rintro rfl
      exact not_stores_of_empty hempty hstored
    rw [hnone other (hr ▸ hfield) hne hother] at hequivalent
    cases hequivalent

/-! ## The columns of an export -/

theorem exists_mem_addColumn_iff {columns : List ExportDynamicColumn} {f : RegistrationField} :
    (∃ column ∈ addColumn toLowerCase columns f, column.key = key) ↔
      (∃ column ∈ columns, column.key = key) ∨
        f.key = key ∧ isBaseFieldKey toLowerCase f.key = false := by
  unfold addColumn
  by_cases hbase : isBaseFieldKey toLowerCase f.key = true
  · simp [hbase]
  · by_cases hthere : columns.any (·.key == f.key) = true
    · rw [if_pos (by simp [hthere])]
      constructor
      · exact .inl
      · rintro (hcolumn | ⟨rfl, -⟩)
        · exact hcolumn
        · simpa using hthere
    · rw [if_neg (by simp [hbase, hthere])]
      simp [hbase, or_and_right, exists_or]

theorem exists_mem_foldl_iff {fields : List RegistrationField}
    {columns : List ExportDynamicColumn} :
    (∃ column ∈ fields.foldl (addColumn toLowerCase) columns, column.key = key) ↔
      (∃ column ∈ columns, column.key = key) ∨
        ∃ f ∈ fields, f.key = key ∧ isBaseFieldKey toLowerCase f.key = false := by
  induction fields generalizing columns with
  | nil => simp
  | cons f fields ih =>
      rw [List.foldl_cons, ih, exists_mem_addColumn_iff, List.exists_mem_cons_iff, or_assoc]

theorem mem_exportedFields_iff {eventIds : List Id} {attendeeTypeId : Option Id}
    {f : RegistrationField} : f ∈ exportedFields c db eventIds attendeeTypeId ↔
      f ∈ db.registrationFields ∧ eventIds.any (c.same f.eventId) = true ∧ f.isActive = true ∧
        (truthy attendeeTypeId).all (fun typeId =>
          f.attendeeTypeId.all (c.same typeId)) = true := by
  simp [exportedFields, and_assoc]

/-- The columns are the keys of the exported fields that are no base fields. -/
theorem exists_mem_getDynamicColumns_iff {eventIds : List Id} {attendeeTypeId : Option Id} :
    (∃ column ∈ getDynamicColumns toLowerCase c db eventIds attendeeTypeId, column.key = key) ↔
      ∃ f ∈ exportedFields c db eventIds attendeeTypeId,
        f.key = key ∧ isBaseFieldKey toLowerCase f.key = false := by
  unfold getDynamicColumns
  by_cases hempty : eventIds.isEmpty = true
  · obtain rfl := List.isEmpty_iff.mp hempty
    have hnone : ∀ f, f ∉ exportedFields c db [] attendeeTypeId := by
      intro f hf
      simpa using ((mem_exportedFields_iff c db).mp hf).2.1
    simp [hnone]
  · rw [if_neg hempty, exists_mem_foldl_iff]
    simp

variable (toLowerCase) in
/-- A cell shows the value of another field exactly where it takes it, and the cells of all
registrations of the events belong to their columns exactly where no column has a key equivalent to
the one of another field. -/
theorem cells_belong_iff (eventIds : List Id) (attendeeTypeId : Option Id) :
    (∀ r key, CellBelongs toLowerCase db r key ↔ ∀ other, ¬ Takes toLowerCase db r key other) ∧
    ((∀ r : Registration, r.eventId ∈ eventIds →
      ∀ column ∈ getDynamicColumns toLowerCase c db eventIds attendeeTypeId,
        CellBelongs toLowerCase db r column.key) ↔
      ∀ f ∈ exportedFields c db eventIds attendeeTypeId,
        isBaseFieldKey toLowerCase f.key = false →
          ∀ g ∈ db.registrationFields, g.eventId ∈ eventIds → g.isActive = true →
            g.key ≠ f.key → g.key ≠ "" → isEquivalent toLowerCase f.key g.key = false) := by
  refine ⟨fun r key => cellBelongs_iff db, ?_, ?_⟩
  · intro hall f hf hbase g hg hevent hactive hne hother
    obtain ⟨column, hcolumn, hkey⟩ :=
      (exists_mem_getDynamicColumns_iff c db).mpr ⟨f, hf, rfl, hbase⟩
    have hcells : ∀ r : Registration, r.eventId = g.eventId →
        CellBelongs toLowerCase db r f.key := by
      intro r hr
      rw [← hkey]
      exact hall r (hr ▸ hevent) column hcolumn
    exact (forall_cellBelongs_iff db).mp hcells g.key ⟨g, hg, rfl, hactive, rfl⟩ hne hother
  · intro hnone r hr column hcolumn
    obtain ⟨f, hf, hkey, hbase⟩ :=
      (exists_mem_getDynamicColumns_iff c db).mp ⟨column, hcolumn, rfl⟩
    refine (forall_cellBelongs_iff db).mpr ?_ r rfl
    rintro other ⟨g, hg, hevent, hactive, rfl⟩ hne hother
    rw [← hkey] at hne ⊢
    exact hnone f hf hbase g hg (hevent ▸ hr) hactive hne hother

end Cells

/-! ## A job title and a position -/

def fairField (key labelAr : String) : RegistrationField where
  id := key
  eventId := "fair"
  key := key
  labelAr := labelAr
  type := .TEXT

def fairFields : DashboardDb where
  registrationFields := [fairField "job_title" "المسمى", fairField "position" "المنصب"]

def fairVisitor : Registration where
  id := "r1"
  publicId := "F-1"
  eventId := "fair"
  attendeeTypeId := "visitor"
  fullName := "Huda"
  customFields := some (.obj [("position", .str "CEO")])

theorem takes_fairVisitor :
    Takes toLowerCase fairFields fairVisitor "job_title" "position" := by
  refine ⟨rfl, ?_, ⟨.str "CEO", rfl, rfl⟩, fairField "position" "المنصب", ?_, rfl, rfl, rfl⟩
  · decide +kernel
  · exact List.mem_cons_of_mem _ (List.mem_singleton_self _)

/-- The column of the job title shows the position. -/
theorem not_cells_belong :
    ¬ ∀ (db : DashboardDb) (eventIds : List Id) (attendeeTypeId : Option Id) (r : Registration),
      r.eventId ∈ eventIds → ∀ column ∈ getDynamicColumns toLowerCase binary db eventIds
        attendeeTypeId, CellBelongs toLowerCase db r column.key := by
  intro hall
  have hcolumn : (⟨"job_title", "المسمى"⟩ : ExportDynamicColumn) ∈
      getDynamicColumns toLowerCase binary fairFields ["fair"] none := by
    decide +kernel
  have hbelongs := hall fairFields ["fair"] none fairVisitor (List.mem_singleton_self _) _ hcolumn
  exact (cellBelongs_iff fairFields).mp hbelongs "position" takes_fairVisitor

end CreativeBackend.RegistrationExcelExporter
