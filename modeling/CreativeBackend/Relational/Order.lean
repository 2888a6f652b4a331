import Mathlib.Data.List.Sort

/-!
# The first row in an order

A query with `orderBy` sorts the rows that match. The first match is decided by
those matching rows alone, and rows that another one precedes can be left out.
-/

namespace CreativeBackend.Relational

variable {α : Type} (r : α → α → Prop) [DecidableRel r] [IsTrans α r]

theorem filter_orderedInsert (p : α → Bool) (a : α) {l : List α} (hl : l.Pairwise r) :
    (l.orderedInsert r a).filter p =
      if p a then (l.filter p).orderedInsert r a else l.filter p := by
  induction l with
  | nil => by_cases ha : p a = true <;> simp [ha]
  | cons b rest ih =>
      obtain ⟨hb, hrest⟩ := List.pairwise_cons.mp hl
      by_cases hab : r a b
      · rw [List.orderedInsert_cons_of_le r rest hab]
        by_cases ha : p a = true
        · rw [List.filter_cons_of_pos ha, if_pos ha]
          cases hf : (b :: rest).filter p with
          | nil => rfl
          | cons c tail =>
              have hc : c ∈ b :: rest := List.mem_of_mem_filter (hf ▸ List.mem_cons_self ..)
              have hac : r a c := by
                rcases List.mem_cons.mp hc with rfl | hc
                · exact hab
                · exact trans_of r hab (hb c hc)
              rw [List.orderedInsert_cons_of_le r tail hac]
        · simp [ha]
      · rw [List.orderedInsert_of_not_le r rest hab]
        by_cases hpb : p b = true
        · rw [List.filter_cons_of_pos hpb, List.filter_cons_of_pos hpb, ih hrest]
          by_cases ha : p a = true
          · rw [if_pos ha, if_pos ha, List.orderedInsert_of_not_le r _ hab]
          · rw [if_neg ha, if_neg ha]
        · rw [List.filter_cons_of_neg hpb, List.filter_cons_of_neg hpb, ih hrest]

variable [Std.Total r]

theorem filter_insertionSort (p : α → Bool) (l : List α) :
    (l.insertionSort r).filter p = (l.filter p).insertionSort r := by
  induction l with
  | nil => rfl
  | cons a rest ih =>
      rw [List.insertionSort_cons,
        filter_orderedInsert r p a (List.pairwise_insertionSort r rest), ih]
      by_cases ha : p a = true
      · rw [if_pos ha, List.filter_cons_of_pos ha, List.insertionSort_cons]
      · rw [if_neg ha, List.filter_cons_of_neg ha]

/-- The first match depends on the matching rows alone. -/
theorem find?_insertionSort (p : α → Bool) (l : List α) :
    (l.insertionSort r).find? p = ((l.filter p).insertionSort r).head? := by
  rw [← filter_insertionSort, List.head?_filter]

omit [DecidableRel r] [IsTrans α r] [Std.Total r] in
/-- The first row precedes every row. -/
theorem rel_of_head? {l : List α} {a b : α} (hl : l.Pairwise r) (ha : l.head? = some a)
    (hb : b ∈ l) : b = a ∨ r a b := by
  cases l with
  | nil => cases ha
  | cons c rest =>
      cases ha
      rcases List.mem_cons.mp hb with rfl | hb
      · exact .inl rfl
      · exact .inr ((List.pairwise_cons.mp hl).1 b hb)

theorem rel_head?_insertionSort {l : List α} {a b : α}
    (ha : (l.insertionSort r).head? = some a) (hb : b ∈ l) : b = a ∨ r a b :=
  rel_of_head? r (List.pairwise_insertionSort r l) ha ((List.mem_insertionSort r).mpr hb)

omit [IsTrans α r] [Std.Total r] in
theorem mem_of_head?_insertionSort {l : List α} {a : α}
    (ha : (l.insertionSort r).head? = some a) : a ∈ l :=
  (List.mem_insertionSort r).mp (List.mem_of_head? ha)

omit [IsTrans α r] [Std.Total r] in
theorem head?_insertionSort_eq_none {l : List α} :
    (l.insertionSort r).head? = none ↔ l = [] := by
  rw [List.head?_eq_none_iff, ← List.length_eq_zero_iff, List.length_insertionSort,
    List.length_eq_zero_iff]

/-- Rows that a kept row strictly precedes do not come first. -/
theorem head?_insertionSort_filter {p : α → Bool} {l : List α}
    (h : ∀ a ∈ l, p a = false → ∃ b ∈ l, p b = true ∧ ¬ r a b) :
    ((l.filter p).insertionSort r).head? = (l.insertionSort r).head? := by
  rw [← filter_insertionSort, List.head?_filter]
  cases hs : l.insertionSort r with
  | nil => rfl
  | cons a rest =>
      have hhead : (l.insertionSort r).head? = some a := by simp [hs]
      have ha : a ∈ l := mem_of_head?_insertionSort r hhead
      have hpa : p a = true := by
        by_contra hpa
        have hfalse : p a = false := by simpa using hpa
        obtain ⟨b, hb, hpb, hab⟩ := h a ha hfalse
        rcases rel_head?_insertionSort r hhead hb with rfl | hrel
        · exact hpa hpb
        · exact hab hrel
      simp [hpa]

end CreativeBackend.Relational
