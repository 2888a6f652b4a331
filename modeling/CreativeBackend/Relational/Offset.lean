import Mathlib.Data.List.Nodup
import Mathlib.Data.List.Pairwise
import Mathlib.Data.List.Sort

/-!
# Offset pagination

A page is what is left of the answer of a query after the rows of the pages before it are skipped.
Each page asks the query again. Rows that compare equal may come in another order in each answer,
so the pages hold every row once, whatever the answers, exactly where no page ends between two rows
that compare equal.
-/

namespace CreativeBackend.Relational.Offset

variable {α : Type}

/-- `skip` and `take` of an answer. -/
def window (skip take : Nat) (answer : List α) : List α := (answer.drop skip).take take

/-- The first `n` pages, each cut out of the answer to its own request. -/
def pages (limit : Nat) (answers : Nat → List α) (n : Nat) : List α :=
  (List.range n).flatMap fun k => window (k * limit) limit (answers k)

theorem pages_succ (limit : Nat) (answers : Nat → List α) (n : Nat) :
    pages limit answers (n + 1) =
      pages limit answers n ++ window (n * limit) limit (answers n) := by
  simp [pages, List.range_succ]

theorem take_append_window (skip take : Nat) (answer : List α) :
    answer.take skip ++ window skip take answer = answer.take (skip + take) := by
  rw [window, List.take_add]

/-- An answer holds the rows in an order of the comparison. -/
structure Ordered (cmp : α → α → Ordering) (rows answer : List α) : Prop where
  perm : answer.Perm rows
  sorted : answer.Pairwise fun a b => (cmp a b).isLE

variable (cmp : α → α → Ordering) (rows : List α)

/-- The rows before a row. -/
def before (a : α) : Nat := rows.countP fun x => cmp x a = .lt

/-- The rows up to those that compare equal to a row. -/
def upTo (a : α) : Nat := rows.countP fun x => (cmp x a).isLE

variable {cmp rows} {answer : List α} {i b : Nat} {a x : α}

theorem le_countP {p : α → Bool} {l : List α} {n : Nat} (hn : n ≤ l.length)
    (h : ∀ x ∈ l.take n, p x = true) : n ≤ l.countP p := by
  have hall : (l.take n).countP p = n := by
    rw [List.countP_eq_length.mpr h, List.length_take, Nat.min_eq_left hn]
  calc n = (l.take n).countP p := hall.symm
    _ ≤ l.countP p := (List.take_sublist n l).countP_le

theorem countP_le {p : α → Bool} {l : List α} {n : Nat} (h : ∀ x ∈ l.drop n, p x = false) :
    l.countP p ≤ n := by
  have hnone : (l.drop n).countP p = 0 :=
    List.countP_eq_zero.mpr fun x hx => by simp [h x hx]
  calc l.countP p = (l.take n).countP p + (l.drop n).countP p := by
        rw [← List.countP_append, List.take_append_drop]
    _ ≤ n := by
        rw [hnone]
        exact Nat.le_trans List.countP_le_length (List.length_take_le n l)

section Ordered

variable [Std.TransCmp cmp]

namespace Ordered

omit [Std.TransCmp cmp] in
theorem length_eq (h : Ordered cmp rows answer) : answer.length = rows.length := h.perm.length_eq

omit [Std.TransCmp cmp] in
theorem mem_iff (h : Ordered cmp rows answer) : a ∈ answer ↔ a ∈ rows := h.perm.mem_iff

theorem le_of_mem_take (h : Ordered cmp rows answer) (hi : i < answer.length)
    (hx : x ∈ answer.take (i + 1)) : (cmp x answer[i]).isLE := by
  obtain ⟨j, hj, rfl⟩ := List.mem_take_iff_getElem.mp hx
  rcases Nat.lt_or_eq_of_le (Nat.lt_succ_iff.mp (Nat.lt_of_lt_of_le hj (Nat.min_le_left _ _)))
    with hlt | rfl
  · exact List.pairwise_iff_getElem.mp h.sorted j i _ hi hlt
  · exact Std.ReflCmp.isLE_rfl

theorem le_of_mem_drop (h : Ordered cmp rows answer) (hi : i < answer.length)
    (hx : x ∈ answer.drop i) : (cmp answer[i] x).isLE := by
  obtain ⟨j, hj, rfl⟩ := List.mem_drop_iff_getElem.mp hx
  cases j with
  | zero => exact Std.ReflCmp.isLE_rfl
  | succ j => exact List.pairwise_iff_getElem.mp h.sorted i (i + (j + 1)) hi _ (by omega)

/-- What does not come after a row has at most the rows before this row before it. -/
theorem before_le (h : Ordered cmp rows answer) (hi : i < answer.length)
    (ha : (cmp a answer[i]).isLE) : before cmp rows a ≤ i := by
  rw [before, ← h.perm.countP_eq]
  apply countP_le
  intro x hx
  exact decide_eq_false (Std.OrientedCmp.not_lt_of_isLE
    (Std.TransCmp.isLE_trans ha (h.le_of_mem_drop hi hx)))

theorem lt_before (h : Ordered cmp rows answer) (hi : i < answer.length)
    (ha : cmp answer[i] a = .lt) : i < before cmp rows a := by
  rw [before, ← h.perm.countP_eq]
  apply le_countP hi
  intro x hx
  exact decide_eq_true (Std.TransCmp.lt_of_isLE_of_lt (h.le_of_mem_take hi hx) ha)

theorem lt_upTo (h : Ordered cmp rows answer) (hi : i < answer.length)
    (ha : (cmp answer[i] a).isLE) : i < upTo cmp rows a := by
  rw [upTo, ← h.perm.countP_eq]
  apply le_countP hi
  intro x hx
  exact Std.TransCmp.isLE_trans (h.le_of_mem_take hi hx) ha

theorem upTo_le (h : Ordered cmp rows answer) (hi : i < answer.length)
    (ha : cmp a answer[i] = .lt) : upTo cmp rows a ≤ i := by
  rw [upTo, ← h.perm.countP_eq]
  apply countP_le
  intro x hx
  rw [← Bool.not_eq_true]
  exact Std.OrientedCmp.not_isLE_of_lt
    (Std.TransCmp.lt_of_lt_of_isLE ha (h.le_of_mem_drop hi hx))

/-- Between the rows before a row and those up to it are the rows that compare equal to it. -/
theorem cmp_eq (h : Ordered cmp rows answer) (hi : i < answer.length)
    (hbefore : before cmp rows a ≤ i) (hupTo : i < upTo cmp rows a) : cmp answer[i] a = .eq := by
  cases hcmp : cmp answer[i] a with
  | lt =>
      have hlate := h.lt_before hi hcmp
      omega
  | eq => rfl
  | gt =>
      have hearly := h.upTo_le hi (Std.OrientedCmp.lt_of_gt hcmp)
      omega

end Ordered

theorem ordered_insertionSort (cmp : α → α → Ordering) [Std.TransCmp cmp] (rows : List α) :
    Ordered cmp rows (rows.insertionSort fun a b => (cmp a b).isLE) := by
  have htotal : Std.Total fun a b => (cmp a b).isLE = true := by
    constructor
    intro a b
    cases h : cmp a b with
    | gt => simp [Std.OrientedCmp.lt_of_gt h]
    | lt => simp
    | eq => simp
  have htrans : IsTrans α fun a b => (cmp a b).isLE = true :=
    ⟨fun a b c hab hbc => Std.TransCmp.isLE_trans hab hbc⟩
  exact ⟨List.perm_insertionSort _ _, List.pairwise_insertionSort _ _⟩

theorem exists_ordered (cmp : α → α → Ordering) [Std.TransCmp cmp] (rows : List α) :
    ∃ answer, Ordered cmp rows answer :=
  ⟨_, ordered_insertionSort cmp rows⟩

/-! ## Pages that end between rows that differ -/

variable (cmp rows) in
/-- No row has rows that compare equal to it on both sides of the `b`-th place. -/
def Apart (b : Nat) : Prop :=
  ∀ a ∈ rows, ¬ (before cmp rows a < b ∧ b < upTo cmp rows a)

/-- Up to a place between rows that differ, every answer has the same rows. -/
theorem Ordered.take_perm (h : Ordered cmp rows answer) (hapart : Apart cmp rows b) :
    (answer.take b).Perm (rows.filter fun x => upTo cmp rows x ≤ b) := by
  have hfront : ∀ x ∈ answer.take b, decide (upTo cmp rows x ≤ b) = true := by
    intro x hx
    obtain ⟨i, hi, rfl⟩ := List.mem_take_iff_getElem.mp hx
    have hlength : i < answer.length := Nat.lt_of_lt_of_le hi (Nat.min_le_right _ _)
    have hib : i < b := Nat.lt_of_lt_of_le hi (Nat.min_le_left _ _)
    have hbefore := h.before_le hlength Std.ReflCmp.isLE_rfl
    have hnot := hapart _ (h.mem_iff.mp (List.getElem_mem hlength))
    exact decide_eq_true (by omega)
  have hback : ∀ x ∈ answer.drop b, decide (upTo cmp rows x ≤ b) = false := by
    intro x hx
    obtain ⟨i, hi, rfl⟩ := List.mem_drop_iff_getElem.mp hx
    have hlength : b + i < answer.length := by omega
    have hupTo := h.lt_upTo hlength Std.ReflCmp.isLE_rfl
    exact decide_eq_false (by omega)
  have hsplit : answer.filter (fun x => upTo cmp rows x ≤ b) = answer.take b := by
    rw [← List.take_append_drop b answer, List.filter_append, List.filter_eq_self.mpr hfront,
      List.filter_eq_nil_iff.mpr fun x hx => by rw [hback x hx]; simp]
    simp
  rw [← hsplit]
  exact h.perm.filter _

/-- Pages that end between rows that differ hold every row once. -/
theorem pages_perm {limit n : Nat} {answers : Nat → List α}
    (h : ∀ k, Ordered cmp rows (answers k)) (hapart : ∀ k, Apart cmp rows (k * limit)) :
    (pages limit answers n).Perm (rows.filter fun x => upTo cmp rows x ≤ n * limit) := by
  induction n with
  | zero =>
      have hnone : rows.filter (fun x => upTo cmp rows x ≤ 0 * limit) = [] := by
        apply List.filter_eq_nil_iff.mpr
        intro x hx
        have hpos : 0 < upTo cmp rows x :=
          List.countP_pos_iff.mpr ⟨x, hx, Std.ReflCmp.isLE_rfl⟩
        simp only [Nat.zero_mul, decide_eq_true_eq]
        omega
      rw [hnone]
      exact .refl _
  | succ n ih =>
      rw [pages_succ]
      have hfront := (ih.trans ((h n).take_perm (hapart n)).symm).append_right
        (window (n * limit) limit (answers n))
      rw [take_append_window, ← Nat.succ_mul] at hfront
      exact hfront.trans ((h n).take_perm (hapart (n + 1)))

/-- With a place on a page for every row, nothing is left out. -/
theorem pages_perm_rows {limit n : Nat} {answers : Nat → List α}
    (h : ∀ k, Ordered cmp rows (answers k)) (hapart : ∀ k, Apart cmp rows (k * limit))
    (hn : rows.length ≤ n * limit) : (pages limit answers n).Perm rows := by
  have hall : rows.filter (fun x => upTo cmp rows x ≤ n * limit) = rows := by
    apply List.filter_eq_self.mpr
    intro x _
    exact decide_eq_true (Nat.le_trans List.countP_le_length hn)
  have hpages : (pages limit answers n).Perm (rows.filter fun x => upTo cmp rows x ≤ n * limit) :=
    pages_perm h hapart
  rwa [hall] at hpages

/-! ## Pages that end between equal rows -/

/-- Rows that compare equal may change places. -/
theorem Ordered.swap {front back : List α} {x y : α}
    (h : Ordered cmp rows (front ++ x :: y :: back))
    (heq : cmp x y = .eq) : Ordered cmp rows (front ++ y :: x :: back) := by
  refine ⟨((List.Perm.swap x y back).append_left front).trans h.perm, ?_⟩
  have hsorted := h.sorted
  simp only [List.pairwise_append, List.pairwise_cons, List.mem_cons, forall_eq_or_imp]
    at hsorted ⊢
  obtain ⟨hfront, ⟨⟨-, hx⟩, hy, hback⟩, hcross⟩ := hsorted
  have hyx : (cmp y x).isLE := by rw [Std.OrientedCmp.eq_symm heq]; rfl
  refine ⟨hfront, ⟨⟨hyx, hy⟩, hx, hback⟩, fun a ha => ?_⟩
  obtain ⟨hax, hay, hall⟩ := hcross a ha
  exact ⟨hay, hax, hall⟩

omit [Std.TransCmp cmp] in
theorem mem_window_of_split {front back : List α} {x : α} {skip take : Nat}
    (hskip : skip ≤ front.length) (htake : front.length < skip + take) :
    x ∈ window skip take (front ++ x :: back) := by
  have hlength : front.length < (front ++ x :: back).length := by simp
  rw [window, List.mem_take_iff_getElem]
  refine ⟨front.length - skip, ?_, ?_⟩
  · simp only [List.length_drop, List.length_append, List.length_cons]
    omega
  · rw [List.getElem_drop]
    simp only [Nat.add_sub_cancel' hskip]
    simp

/-- Where a page ends between equal rows, two answers can put one row on both sides of its end. -/
theorem exists_pages_not_nodup {limit n : Nat} (hn : rows.length ≤ n * limit) {j : Nat}
    (h : ¬ Apart cmp rows (j * limit)) :
    ∃ answers : Nat → List α, (∀ k, Ordered cmp rows (answers k)) ∧
      ¬ (pages limit answers n).Nodup := by
  obtain ⟨a, ha, hbefore, hupTo⟩ : ∃ a ∈ rows,
      before cmp rows a < j * limit ∧ j * limit < upTo cmp rows a := by
    simpa [Apart] using h
  have hroom : upTo cmp rows a ≤ rows.length := List.countP_le_length
  obtain ⟨i, rfl⟩ : ∃ i, j = i + 1 := by
    cases j with
    | zero => simp at hbefore
    | succ i => exact ⟨i, rfl⟩
  have hin : i + 1 < n := by
    by_contra hle
    have hmul : n * limit ≤ (i + 1) * limit := Nat.mul_le_mul_right _ (Nat.not_lt.mp hle)
    omega
  obtain ⟨answer, hanswer⟩ := exists_ordered cmp rows
  obtain ⟨b, hb⟩ : ∃ b, (i + 1) * limit = b + 1 := ⟨(i + 1) * limit - 1, by omega⟩
  rw [hb] at hbefore hupTo
  have hlength := hanswer.length_eq
  have hfirst : b < answer.length := by omega
  have hsecond : b + 1 < answer.length := by omega
  have hsplit : answer = answer.take b ++ answer[b] :: answer[b + 1] :: answer.drop (b + 2) := by
    rw [← List.drop_eq_getElem_cons hsecond, ← List.drop_eq_getElem_cons hfirst,
      List.take_append_drop]
  have hx : cmp answer[b] a = .eq := hanswer.cmp_eq hfirst (by omega) (by omega)
  have hy : cmp answer[b + 1] a = .eq := hanswer.cmp_eq hsecond (by omega) (by omega)
  have heq : cmp answer[b] answer[b + 1] = .eq :=
    Std.TransCmp.eq_trans hx (Std.OrientedCmp.eq_symm hy)
  clear hx hy
  have htaken : (answer.take b).length = b := by
    rw [List.length_take]
    omega
  rw [hsplit] at hanswer
  generalize answer.take b = front at hanswer htaken
  generalize answer[b] = x at hanswer heq
  generalize answer[b + 1] = y at hanswer heq
  generalize answer.drop (b + 2) = back at hanswer
  have hswapped := hanswer.swap heq
  refine ⟨fun k => if k = i then front ++ x :: y :: back else front ++ y :: x :: back, ?_, ?_⟩
  · intro k
    dsimp only
    split
    · exact hanswer
    · exact hswapped
  · -- The row before the end of the page comes after it in the next answer.
    intro hnodup
    have hdisjoint := (List.nodup_flatMap.mp hnodup).2
    have hpair := List.pairwise_iff_getElem.mp hdisjoint i (i + 1) (by simp; omega) (by simpa)
      (Nat.lt_succ_self i)
    simp only [List.getElem_range, Function.onFun] at hpair
    have hb' : i * limit + limit = b + 1 := by
      rw [← hb, Nat.succ_mul]
    have hlimit : 0 < limit := by
      rcases Nat.eq_zero_or_pos limit with hzero | hpos
      · simp [hzero] at hb
      · exact hpos
    refine hpair (a := x) ?_ ?_
    · rw [if_pos trivial]
      exact mem_window_of_split (by omega) (by omega)
    · rw [if_neg (Nat.succ_ne_self i)]
      have happend : front ++ y :: x :: back = (front ++ [y]) ++ x :: back := by simp
      rw [happend]
      apply mem_window_of_split
      · rw [List.length_append, List.length_singleton]
        omega
      · rw [List.length_append, List.length_singleton]
        omega

/-- The pages hold every row once, whatever the answers, exactly where every page ends between rows
that differ. -/
theorem pages_perm_iff {limit n : Nat} (hrows : rows.Nodup) (hn : rows.length ≤ n * limit) :
    (∀ answers : Nat → List α, (∀ k, Ordered cmp rows (answers k)) →
      (pages limit answers n).Perm rows) ↔ ∀ k, Apart cmp rows (k * limit) := by
  constructor
  · intro h k
    by_contra hnot
    obtain ⟨answers, hanswers, htwice⟩ := exists_pages_not_nodup hn hnot
    exact htwice ((h answers hanswers).nodup_iff.mpr hrows)
  · intro hapart answers hanswers
    exact pages_perm_rows hanswers hapart hn

/-- Rows no two of which compare equal are apart everywhere. -/
theorem apart_of_pairwise (h : rows.Pairwise fun a b => cmp a b ≠ .eq) (b : Nat) :
    Apart cmp rows b := by
  rintro a - ⟨hbefore, hupTo⟩
  obtain ⟨answer, hanswer⟩ := exists_ordered cmp rows
  have hroom : upTo cmp rows a ≤ answer.length := by
    rw [hanswer.length_eq]
    exact List.countP_le_length
  have hfirst : before cmp rows a < answer.length := by omega
  have hsecond : before cmp rows a + 1 < answer.length := by omega
  have hx : cmp answer[before cmp rows a] a = .eq :=
    hanswer.cmp_eq hfirst (Nat.le_refl _) (by omega)
  have hy : cmp answer[before cmp rows a + 1] a = .eq :=
    hanswer.cmp_eq hsecond (by omega) (by omega)
  have hdistinct : answer.Pairwise fun a b => cmp a b ≠ .eq :=
    hanswer.perm.pairwise_iff (fun hne heq => hne (Std.OrientedCmp.eq_symm heq)) |>.mpr h
  exact List.pairwise_iff_getElem.mp hdistinct _ _ hfirst hsecond (Nat.lt_succ_self _)
    (Std.TransCmp.eq_trans hx (Std.OrientedCmp.eq_symm hy))

/-! ## The first row -/

variable (cmp rows) in
/-- No row comes before this one. -/
def First (a : α) : Prop := a ∈ rows ∧ ∀ x ∈ rows, (cmp a x).isLE

theorem Ordered.first_of_head? (h : Ordered cmp rows answer) (ha : answer.head? = some a) :
    First cmp rows a := by
  obtain ⟨rest, rfl⟩ := List.head?_eq_some_iff.mp ha
  refine ⟨h.mem_iff.mp List.mem_cons_self, fun x hx => ?_⟩
  rcases List.mem_cons.mp (h.mem_iff.mpr hx) with rfl | hx
  · exact Std.ReflCmp.isLE_rfl
  · exact (List.pairwise_cons.mp h.sorted).1 x hx

/-- Any first row comes first in some answer. -/
theorem exists_ordered_of_first (h : First cmp rows a) :
    ∃ answer, Ordered cmp rows answer ∧ answer.head? = some a := by
  obtain ⟨front, back, rfl⟩ := List.append_of_mem h.1
  obtain ⟨rest, hrest⟩ := exists_ordered cmp (front ++ back)
  refine ⟨a :: rest, ⟨(hrest.perm.cons a).trans List.perm_middle.symm, ?_⟩, rfl⟩
  refine List.pairwise_cons.mpr ⟨fun x hx => ?_, hrest.sorted⟩
  apply h.2
  exact List.perm_middle.symm.subset (List.mem_cons_of_mem a (hrest.mem_iff.mp hx))

end Ordered

end CreativeBackend.Relational.Offset
