import CreativeBackend.Runtime.Values
import Mathlib.Data.List.Forall2

/-!
# JSON values

Two JSON texts stand for one value if they differ only in the order of the properties of their
objects. An object as a value is a partial function on its keys.
-/

namespace CreativeBackend

/-- A JSON value whose objects are unordered maps. -/
inductive JsonValue where
  | null
  | bool (b : Bool)
  | num (q : Rat)
  | str (s : String)
  | arr (items : List JsonValue)
  | obj (property : String → Option JsonValue)

/-- The property when it is a string. -/
def JsonValue.string? : JsonValue → String → Option String
  | obj property, k =>
      match property k with
      | some (str s) => some s
      | _ => none
  | _, _ => none

namespace Json

mutual

def value : Json → JsonValue
  | null => .null
  | bool b => .bool b
  | num q => .num q
  | str s => .str s
  | arr items => .arr (valueItems items)
  | obj fields => .obj (valueFields fields)

def valueItems : List Json → List JsonValue
  | [] => []
  | item :: items => value item :: valueItems items

def valueFields : List (String × Json) → String → Option JsonValue
  | [], _ => none
  | (k, item) :: fields, key => if key = k then some (value item) else valueFields fields key

end

mutual

/-- No object has two properties of one name. -/
def WellFormed : Json → Prop
  | arr items => WellFormedItems items
  | obj fields => (fields.map (·.1)).Nodup ∧ WellFormedFields fields
  | _ => True

def WellFormedItems : List Json → Prop
  | [] => True
  | item :: items => WellFormed item ∧ WellFormedItems items

def WellFormedFields : List (String × Json) → Prop
  | [] => True
  | (_, item) :: fields => WellFormed item ∧ WellFormedFields fields

end

/-- Neither an array nor an object. -/
def isScalar : Json → Bool
  | arr _ => false
  | obj _ => false
  | _ => true

theorem valueItems_eq (items : List Json) : valueItems items = items.map value := by
  induction items with
  | nil => rfl
  | cons item items ih => rw [valueItems, ih, List.map_cons]

theorem valueFields_eq (fields : List (String × Json)) (key : String) :
    valueFields fields key = (fields.lookup key).map value := by
  induction fields with
  | nil => rfl
  | cons field fields ih =>
      obtain ⟨k, item⟩ := field
      by_cases hk : key = k
      · subst hk
        rw [valueFields, if_pos rfl, List.lookup_cons_self, Option.map_some]
      · rw [valueFields, if_neg hk, ih, List.lookup_cons, beq_eq_false_iff_ne.mpr hk]

theorem wellFormedItems_iff {items : List Json} :
    WellFormedItems items ↔ ∀ item ∈ items, item.WellFormed := by
  induction items with
  | nil => simp [WellFormedItems]
  | cons item items ih => rw [WellFormedItems, ih, List.forall_mem_cons]

theorem wellFormedFields_iff {fields : List (String × Json)} :
    WellFormedFields fields ↔ ∀ field ∈ fields, field.2.WellFormed := by
  induction fields with
  | nil => simp [WellFormedFields]
  | cons field fields ih => rw [WellFormedFields, ih, List.forall_mem_cons]

theorem wellFormed_arr {items : List Json} :
    (arr items).WellFormed ↔ ∀ item ∈ items, item.WellFormed := by
  rw [WellFormed, wellFormedItems_iff]

theorem wellFormed_obj {fields : List (String × Json)} :
    (obj fields).WellFormed ↔
      (fields.map (·.1)).Nodup ∧ ∀ field ∈ fields, field.2.WellFormed := by
  rw [WellFormed, wellFormedFields_iff]

theorem isScalar_cases {j : Json} (h : j.isScalar = false) :
    (∃ items, j = arr items) ∨ ∃ fields, j = obj fields := by
  cases j with
  | arr items => exact .inl ⟨items, rfl⟩
  | obj fields => exact .inr ⟨fields, rfl⟩
  | _ => cases h

/-- Scalars are their own values. -/
theorem value_of_isScalar {a b : Json} (ha : a.isScalar = true) (h : a.value = b.value) : a = b := by
  cases a with
  | arr items => cases ha
  | obj fields => cases ha
  | _ =>
      cases b with
      | arr items => simp [value] at h
      | obj fields => simp [value] at h
      | _ => simp_all [value]

mutual

/-- Induction on JSON values. -/
theorem induct {P : Json → Prop} (scalar : ∀ j, j.isScalar = true → P j)
    (array : ∀ items, (∀ item ∈ items, P item) → P (arr items))
    (object : ∀ fields, (∀ field ∈ fields, P field.2) → P (obj fields)) : ∀ j, P j
  | null => scalar null rfl
  | bool b => scalar (bool b) rfl
  | num q => scalar (num q) rfl
  | str s => scalar (str s) rfl
  | arr items => array items (inductItems scalar array object items)
  | obj fields => object fields (inductFields scalar array object fields)

theorem inductItems {P : Json → Prop} (scalar : ∀ j, j.isScalar = true → P j)
    (array : ∀ items, (∀ item ∈ items, P item) → P (arr items))
    (object : ∀ fields, (∀ field ∈ fields, P field.2) → P (obj fields)) :
    ∀ items : List Json, ∀ item ∈ items, P item
  | [] => by simp
  | item :: items => List.forall_mem_cons.mpr
      ⟨induct scalar array object item, inductItems scalar array object items⟩

theorem inductFields {P : Json → Prop} (scalar : ∀ j, j.isScalar = true → P j)
    (array : ∀ items, (∀ item ∈ items, P item) → P (arr items))
    (object : ∀ fields, (∀ field ∈ fields, P field.2) → P (obj fields)) :
    ∀ fields : List (String × Json), ∀ field ∈ fields, P field.2
  | [] => by simp
  | (_, item) :: fields => List.forall_mem_cons.mpr
      ⟨induct scalar array object item, inductFields scalar array object fields⟩

end

/-! ## Properties -/

theorem string?_value (j : Json) (k : String) : j.value.string? k = j.string? k := by
  cases j with
  | obj fields =>
      rw [value]
      simp only [JsonValue.string?, Json.string?, Json.field?, valueFields_eq]
      cases hk : fields.lookup k with
      | none => rfl
      | some item => cases item <;> rfl
  | _ => rfl

/-- Where the keys are distinct, a lookup finds the pairs of the list. -/
theorem lookup_eq_some_iff_mem {α : Type} {fields : List (String × α)} {k : String} {v : α}
    (h : (fields.map (·.1)).Nodup) : fields.lookup k = some v ↔ (k, v) ∈ fields := by
  induction fields with
  | nil => simp
  | cons field fields ih =>
      obtain ⟨k', v'⟩ := field
      obtain ⟨hnotin, hnodup⟩ := List.nodup_cons.mp h
      by_cases hk : k = k'
      · subst hk
        rw [List.lookup_cons_self, List.mem_cons, Option.some.injEq]
        constructor
        · rintro rfl
          exact .inl rfl
        · rintro (heq | hmem)
          · exact (Prod.mk.inj heq).2.symm
          · exact absurd (List.mem_map_of_mem hmem) hnotin
      · rw [List.lookup_cons, beq_eq_false_iff_ne.mpr hk, ih hnodup, List.mem_cons]
        constructor
        · exact .inr
        · rintro (heq | hmem)
          · exact absurd (Prod.mk.inj heq).1 hk
          · exact hmem

/-- The order of the properties does not matter for lookups. -/
theorem lookup_perm {α : Type} {fields fields' : List (String × α)} (hperm : fields.Perm fields')
    (h : (fields.map (·.1)).Nodup) (k : String) : fields.lookup k = fields'.lookup k := by
  have h' : (fields'.map (·.1)).Nodup := (hperm.map _).nodup_iff.mp h
  apply Option.ext
  intro v
  rw [lookup_eq_some_iff_mem h, lookup_eq_some_iff_mem h', hperm.mem_iff]

end Json

end CreativeBackend
