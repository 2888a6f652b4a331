import Mathlib.Algebra.BigOperators.Group.List.Basic
import Mathlib.Algebra.GroupWithZero.Nat

/-!
# Divisions of the integers

A division cuts the integers into cells, each from its first point up to the first point of the
next. The cells between two points are listed by steps from one first point to the next; every
point between falls into exactly one of them.
-/

namespace CreativeBackend

/-- A division into cells: the first point of the cell of a point, and of the cell after it. -/
structure Cells where
  start : Int → Int
  next : Int → Int
  start_le : ∀ x, start x ≤ x
  lt_next : ∀ x, x < next (start x)
  start_eq : ∀ {x y}, start x ≤ y → y < next (start x) → start y = start x
  start_next : ∀ x, start (next (start x)) = next (start x)

namespace Cells

variable {D : Cells} {first last x y : Int} {cells : List Int}

/-- The point is the first of its cell. -/
def IsStart (D : Cells) (x : Int) : Prop := D.start x = x

theorem isStart_start (D : Cells) (x : Int) : D.IsStart (D.start x) :=
  D.start_eq (Int.le_refl _) (Int.lt_of_le_of_lt (D.start_le x) (D.lt_next x))

theorem IsStart.next (h : D.IsStart x) : D.IsStart (D.next x) := by
  have hnext := D.start_next x
  rwa [h] at hnext

theorem IsStart.lt_next (h : D.IsStart x) : x < D.next x := by
  have hlt := D.lt_next x
  rwa [h] at hlt

/-- The points of a cell. -/
theorem IsStart.start_eq_iff (h : D.IsStart x) : D.start y = x ↔ x ≤ y ∧ y < D.next x := by
  constructor
  · rintro rfl
    exact ⟨D.start_le y, D.lt_next y⟩
  · rintro ⟨hle, hlt⟩
    have hy : D.start y = D.start x := D.start_eq (by rwa [h]) (by rwa [h])
    exact hy.trans h

/-- Between the first points of two cells that follow each other there is none. -/
theorem IsStart.next_le (hx : D.IsStart x) (hy : D.IsStart y) (h : x < y) : D.next x ≤ y := by
  by_contra hlt
  have heq : D.start y = x := hx.start_eq_iff.mpr ⟨Int.le_of_lt h, Int.lt_of_not_ge hlt⟩
  rw [hy] at heq
  omega

theorem start_mono (D : Cells) (h : x ≤ y) : D.start x ≤ D.start y := by
  by_contra hlt
  have hnext : D.next (D.start y) ≤ D.start x :=
    (D.isStart_start y).next_le (D.isStart_start x) (Int.lt_of_not_ge hlt)
  have hx := D.start_le x
  have hy := D.lt_next y
  omega

/-! ## The cells from one to another -/

/-- The first points of the cells from `first` to `last`. -/
inductive Between (D : Cells) (last : Int) : Int → List Int → Prop
  | last : Between D last last [last]
  | step {first rest} : first < last → Between D last (D.next first) rest →
      Between D last first (first :: rest)

theorem exists_between (hlast : D.IsStart last) {first : Int} (hfirst : D.IsStart first)
    (hle : first ≤ last) : ∃ cells, D.Between last first cells := by
  -- The steps go on, and there are no more of them than points up to the last.
  obtain ⟨n, hn⟩ : ∃ n : Nat, (last - first).toNat ≤ n := ⟨_, Nat.le_refl _⟩
  induction n generalizing first with
  | zero =>
      obtain rfl : first = last := by omega
      exact ⟨_, .last⟩
  | succ n ih =>
      rcases Int.lt_or_eq_of_le hle with hlt | rfl
      · have hstep := hfirst.lt_next
        obtain ⟨cells, hcells⟩ := ih hfirst.next (hfirst.next_le hlast hlt) (by omega)
        exact ⟨_, .step hlt hcells⟩
      · exact ⟨_, .last⟩

namespace Between

theorem head? (h : D.Between last first cells) : cells.head? = some first := by
  cases h <;> rfl

theorem getLast? (h : D.Between last first cells) : cells.getLast? = some last := by
  induction h with
  | last => rfl
  | step hlt hrest ih =>
      cases hrest with
      | last => rfl
      | step _ _ =>
          rw [List.getLast?_cons_cons]
          exact ih

/-- Each cell begins where the one before it ends. -/
theorem isChain (h : D.Between last first cells) : cells.IsChain fun a b => b = D.next a := by
  induction h with
  | last => exact .singleton _
  | step hlt hrest ih =>
      cases hrest with
      | last => exact .cons_cons rfl ih
      | step _ _ => exact .cons_cons rfl ih

/-- The cells are those whose first point lies between. -/
theorem mem_iff (h : D.Between last first cells) (hfirst : D.IsStart first) {c : Int} :
    c ∈ cells ↔ D.IsStart c ∧ first ≤ c ∧ c ≤ last := by
  induction h with
  | last =>
      rw [List.mem_singleton]
      constructor
      · rintro rfl
        exact ⟨hfirst, Int.le_refl _, Int.le_refl _⟩
      · rintro ⟨-, hle, hge⟩
        exact Int.le_antisymm hge hle
  | step hlt hrest ih =>
      have hnext := hfirst.lt_next
      rw [List.mem_cons, ih hfirst.next]
      constructor
      · rintro (rfl | ⟨hc, hle, hge⟩)
        · exact ⟨hfirst, Int.le_refl _, Int.le_of_lt hlt⟩
        · exact ⟨hc, by omega, hge⟩
      · rintro ⟨hc, hle, hge⟩
        rcases Int.lt_or_eq_of_le hle with hlt' | heq
        · exact .inr ⟨hc, hfirst.next_le hc hlt', hge⟩
        · exact .inl heq.symm

theorem pairwise (h : D.Between last first cells) (hfirst : D.IsStart first) :
    cells.Pairwise (· < ·) := by
  induction h with
  | last => exact List.pairwise_singleton _ _
  | step hlt hrest ih =>
      refine List.pairwise_cons.mpr ⟨fun c hc => ?_, ih hfirst.next⟩
      exact Int.lt_of_lt_of_le hfirst.lt_next ((hrest.mem_iff hfirst.next).mp hc).2.1

/-- The point lies in one of the cells. -/
theorem start_mem (h : D.Between last first cells) (hfirst : D.IsStart first)
    (hle : first ≤ x) (hge : D.start x ≤ last) : D.start x ∈ cells := by
  have hstart := D.start_mono hle
  rw [hfirst] at hstart
  exact (h.mem_iff hfirst).mpr ⟨D.isStart_start x, hstart, hge⟩

end Between

/-! ## Counting -/

theorem sum_indicator {cells : List Int} (h : cells.Nodup) {x : Int} (hx : x ∈ cells) :
    (cells.map fun c => if x = c then 1 else 0).sum = 1 := by
  induction cells with
  | nil => cases hx
  | cons c cells ih =>
      obtain ⟨hc, hcells⟩ := List.nodup_cons.mp h
      rw [List.map_cons, List.sum_cons]
      rcases List.mem_cons.mp hx with rfl | hmem
      · have hzero : (cells.map fun d => if x = d then 1 else 0) = cells.map fun _ => 0 := by
          refine List.map_congr_left fun d hd => if_neg ?_
          rintro rfl
          exact hc hd
        rw [if_pos rfl, hzero]
        simp
      · rw [ih hcells hmem, if_neg]
        rintro rfl
        exact hc hmem

/-- Counting by cells counts every point once, if its cell is listed once. -/
theorem sum_countP (D : Cells) {cells : List Int} (hcells : cells.Nodup) {points : List Int}
    (hpoints : ∀ x ∈ points, D.start x ∈ cells) :
    (cells.map fun c => points.countP fun x => D.start x = c).sum = points.length := by
  induction points with
  | nil => simp
  | cons x points ih =>
      have hx : D.start x ∈ cells := hpoints x List.mem_cons_self
      have hrest := ih fun y hy => hpoints y (List.mem_cons_of_mem x hy)
      simp only [List.countP_cons, decide_eq_true_eq]
      rw [List.sum_map_add, hrest, sum_indicator hcells hx, List.length_cons]

end Cells

end CreativeBackend
