import Mathlib.Data.List.Sort
import Mathlib.Data.Finset.Card
import Mathlib.Data.Finset.Filter

/-!
# Keyset pagination

A page holds the first rows after a key, in the order of the keys; one row more is read to see
whether another page follows, which starts after the last key. Each page may be read from other
rows. Rows that are there throughout are read exactly once.
-/

namespace CreativeBackend.Relational.Keyset

variable {α κ : Type} [LinearOrder κ] (key : α → κ)

/-! ## One page -/

/-- The rows after a key, in the order of their keys. -/
def rowsAfter (rows : List α) (start : Option κ) : List α :=
  (rows.filter fun a => start.all fun k => decide (k < key a)).insertionSort fun a b =>
    key a ≤ key b

def items (rows : List α) (start : Option κ) (limit : Nat) : List α :=
  (rowsAfter key rows start).take limit

def hasMore (rows : List α) (start : Option κ) (limit : Nat) : Bool :=
  decide (limit < (rowsAfter key rows start).length)

variable {key} {rows : List α} {start : Option κ} {limit : Nat} {a : α}

theorem all_lt_iff : (start.all fun k => decide (k < key a)) = true ↔ ∀ k ∈ start, k < key a := by
  cases start with
  | none => simp
  | some k => simp

theorem mem_rowsAfter : a ∈ rowsAfter key rows start ↔ a ∈ rows ∧ ∀ k ∈ start, k < key a := by
  rw [rowsAfter, List.mem_insertionSort, List.mem_filter, all_lt_iff]

theorem pairwise_rowsAfter (h : (rows.map key).Nodup) :
    (rowsAfter key rows start).Pairwise fun a b => key a < key b := by
  have hsorted : (rowsAfter key rows start).Pairwise fun a b => key a ≤ key b :=
    List.pairwise_insertionSort _ _
  have hdistinct : (rowsAfter key rows start).Pairwise fun a b => key a ≠ key b := by
    have hperm : (rowsAfter key rows start).Perm
        (rows.filter fun a => start.all fun k => decide (k < key a)) := List.perm_insertionSort _ _
    refine List.pairwise_map.mp ((hperm.map key).nodup_iff.mpr ?_)
    exact h.sublist (List.filter_sublist.map key)
  exact (hsorted.and hdistinct).imp fun h => lt_of_le_of_ne h.1 h.2

theorem pairwise_items (h : (rows.map key).Nodup) :
    (items key rows start limit).Pairwise fun a b => key a < key b :=
  (pairwise_rowsAfter h).sublist (List.take_sublist _ _)

theorem mem_of_mem_items (h : a ∈ items key rows start limit) :
    a ∈ rows ∧ ∀ k ∈ start, k < key a :=
  mem_rowsAfter.mp (List.mem_of_mem_take h)

/-- A page without a following one is complete. -/
theorem mem_items_of_last (h : hasMore key rows start limit = false) (ha : a ∈ rows)
    (hafter : ∀ k ∈ start, k < key a) : a ∈ items key rows start limit := by
  have hall : (rowsAfter key rows start).length ≤ limit := by
    rw [hasMore, decide_eq_false_iff_not] at h
    exact Nat.le_of_not_lt h
  rw [items, List.take_of_length_le hall]
  exact mem_rowsAfter.mpr ⟨ha, hafter⟩

/-- A page is complete up to its last key. -/
theorem mem_items_of_le (hkeys : (rows.map key).Nodup) {last : α}
    (hlast : (items key rows start limit).getLast? = some last) (ha : a ∈ rows)
    (hafter : ∀ k ∈ start, k < key a) (hle : key a ≤ key last) :
    a ∈ items key rows start limit := by
  have hmem := mem_rowsAfter.mpr ⟨ha, hafter⟩
  have hsorted : (rowsAfter key rows start).Pairwise fun a b => key a < key b :=
    pairwise_rowsAfter hkeys
  rw [← List.take_append_drop limit (rowsAfter key rows start)] at hmem hsorted
  rcases List.mem_append.mp hmem with htaken | hdropped
  · exact htaken
  · have hlater := (List.pairwise_append.mp hsorted).2.2 last (List.mem_of_getLast? hlast) a
      hdropped
    exact absurd hle (not_le.mpr hlater)

/-- The last row of a page has the greatest key. -/
theorem le_last (hkeys : (rows.map key).Nodup) {last : α}
    (hlast : (items key rows start limit).getLast? = some last)
    (ha : a ∈ items key rows start limit) : key a ≤ key last := by
  obtain ⟨init, hinit⟩ := List.getLast?_eq_some_iff.mp hlast
  have hsorted : (items key rows start limit).Pairwise fun a b => key a < key b :=
    pairwise_items hkeys
  rw [hinit] at ha hsorted
  rcases List.mem_append.mp ha with hbefore | hsame
  · exact ((List.pairwise_append.mp hsorted).2.2 a hbefore last (List.mem_singleton.mpr rfl)).le
  · rw [List.mem_singleton.mp hsame]

/-- A page before another one is not empty. -/
theorem exists_last_of_hasMore (hlimit : 0 < limit) (h : hasMore key rows start limit = true) :
    ∃ last, (items key rows start limit).getLast? = some last := by
  rw [hasMore, decide_eq_true_iff] at h
  have hne : items key rows start limit ≠ [] := by
    intro hnil
    have hlength := congrArg List.length hnil
    rw [items, List.length_take, List.length_nil] at hlength
    omega
  exact ⟨_, List.getLast?_eq_some_getLast hne⟩

/-! ## All pages -/

variable (key) in
/-- The pages from a request on, each read from the rows of its request with its own limit. -/
inductive Pages (rows : Nat → List α) (limit : Nat → Nat) : Nat → Option κ → List (List α) → Prop
  | last {n : Nat} {start : Option κ} (h : hasMore key (rows n) start (limit n) = false) :
      Pages rows limit n start [items key (rows n) start (limit n)]
  | more {n : Nat} {start : Option κ} {last : α} {rest : List (List α)}
      (h : hasMore key (rows n) start (limit n) = true)
      (hlast : (items key (rows n) start (limit n)).getLast? = some last)
      (hrest : Pages rows limit (n + 1) (some (key last)) rest) :
      Pages rows limit n start (items key (rows n) start (limit n) :: rest)

section Pages

variable {rows : Nat → List α} {limit : Nat → Nat} {n : Nat} {pages : List (List α)}

/-- What is read was there when its page was read. -/
theorem Pages.mem (h : Pages key rows limit n start pages) {i : Nat} {page : List α}
    (hpage : pages[i]? = some page) (ha : a ∈ page) : a ∈ rows (n + i) := by
  induction h generalizing i with
  | last hmore =>
      cases i with
      | zero =>
          obtain rfl := Option.some.inj hpage
          exact (mem_of_mem_items ha).1
      | succ i => cases hpage
  | more hmore hlast hrest ih =>
      cases i with
      | zero =>
          obtain rfl := Option.some.inj hpage
          exact (mem_of_mem_items ha).1
      | succ i =>
          have hrows := ih hpage
          rwa [Nat.add_assoc, Nat.add_comm 1 i] at hrows

theorem Pages.lt (h : Pages key rows limit n start pages) (ha : a ∈ pages.flatten) :
    ∀ k ∈ start, k < key a := by
  induction h with
  | last hmore =>
      rw [List.flatten_singleton] at ha
      exact (mem_of_mem_items ha).2
  | more hmore hlast hrest ih =>
      intro k hk
      rw [List.flatten_cons] at ha
      rcases List.mem_append.mp ha with hfirst | hlater
      · exact (mem_of_mem_items hfirst).2 k hk
      · exact ((mem_of_mem_items (List.mem_of_getLast? hlast)).2 k hk).trans (ih hlater _ rfl)

/-- The pages continue the order of the keys. -/
theorem Pages.pairwise (h : Pages key rows limit n start pages)
    (hkeys : ∀ m, ((rows m).map key).Nodup) :
    pages.flatten.Pairwise fun a b => key a < key b := by
  induction h with
  | last hmore =>
      rw [List.flatten_singleton]
      exact pairwise_items (hkeys _)
  | more hmore hlast hrest ih =>
      rw [List.flatten_cons, List.pairwise_append]
      refine ⟨pairwise_items (hkeys _), ih, fun a ha b hb => ?_⟩
      have hb' := hrest.lt hb _ rfl
      exact (le_last (hkeys _) hlast ha).trans_lt (hrest.lt hb _ rfl)

/-- A key whose row is there in every request is read. -/
theorem Pages.mem_of_present (h : Pages key rows limit n start pages)
    (hkeys : ∀ m, ((rows m).map key).Nodup) {k : κ} (hstart : ∀ j ∈ start, j < k)
    (hpresent : ∀ i < pages.length, ∃ a ∈ rows (n + i), key a = k) :
    ∃ a ∈ pages.flatten, key a = k := by
  induction h with
  | last hmore =>
      obtain ⟨a, ha, rfl⟩ := hpresent 0 (by simp)
      refine ⟨a, ?_, rfl⟩
      rw [List.flatten_singleton]
      exact mem_items_of_last hmore ha hstart
  | @more n start last rest hmore hlast hrest ih =>
      rw [List.flatten_cons]
      by_cases hle : k ≤ key last
      · obtain ⟨a, ha, rfl⟩ := hpresent 0 (by simp)
        have hread := mem_items_of_le (hkeys _) hlast ha hstart hle
        exact ⟨a, List.mem_append_left _ hread, rfl⟩
      · obtain ⟨a, ha, hk⟩ := ih (fun j hj => Option.some.inj hj ▸ not_le.mp hle) fun i hi => by
          have hrows := hpresent (i + 1) (by simpa using hi)
          rwa [Nat.add_comm i 1, ← Nat.add_assoc] at hrows
        exact ⟨a, List.mem_append_right _ ha, hk⟩

/-- With finitely many keys in all, the pages end. -/
theorem exists_pages (hlimit : ∀ m, 0 < limit m) (keys : Finset κ)
    (hkeys : ∀ m, n ≤ m → ∀ a ∈ rows m, key a ∈ keys) :
    ∃ pages, Pages key rows limit n start pages := by
  -- every page that is followed by another one leaves fewer keys behind
  induction hleft : (keys.filter fun k => ∀ j ∈ start, j < k).card using Nat.strong_induction_on
    generalizing n start with
  | _ left ih =>
      cases hmore : hasMore key (rows n) start (limit n) with
      | false => exact ⟨_, .last hmore⟩
      | true =>
          obtain ⟨last, hlast⟩ := exists_last_of_hasMore (hlimit n) hmore
          obtain ⟨hmem, hafter⟩ := mem_of_mem_items (List.mem_of_getLast? hlast)
          have hfewer : (keys.filter fun k => ∀ j ∈ some (key last), j < k).card < left := by
            rw [← hleft]
            refine Finset.card_lt_card (Finset.ssubset_iff_subset_ne.mpr ⟨?_, ?_⟩)
            · intro k hk
              rw [Finset.mem_filter] at hk ⊢
              exact ⟨hk.1, fun j hj => (hafter j hj).trans (hk.2 _ rfl)⟩
            · intro heq
              have hin : key last ∈ keys.filter fun k => ∀ j ∈ start, j < k :=
                Finset.mem_filter.mpr ⟨hkeys n (Nat.le_refl n) last hmem, hafter⟩
              rw [← heq, Finset.mem_filter] at hin
              exact lt_irrefl _ (hin.2 _ rfl)
          obtain ⟨rest, hrest⟩ := ih _ hfewer
            (fun m hm => hkeys m (Nat.le_of_succ_le hm)) rfl
          exact ⟨_, .more hmore hlast hrest⟩

end Pages

end CreativeBackend.Relational.Keyset
