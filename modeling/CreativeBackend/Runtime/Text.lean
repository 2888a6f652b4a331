import CreativeBackend.Runtime.Values
import Mathlib.Algebra.GroupWithZero.Nat
import Mathlib.Data.List.DropRight
import Mathlib.Data.List.Infix

/-!
# Trimming and splitting

What `trim`, `split('.')` and the pattern of a token text do to a text that was put together
from pieces, and back.
-/

namespace CreativeBackend

/-- `text.includes(part)`. -/
def includes (text part : String) : Bool := decide (part.toList <:+: text.toList)

/-- `value.length`, in UTF-16 units. -/
def utf16Length (s : String) : Nat :=
  (s.toList.map fun c => if 65536 ≤ c.toNat then 2 else 1).sum

/-- `value.toLowerCase()`, for ASCII letters. -/
def toLowerCase (s : String) : String := String.ofList (s.toList.map Char.toLower)

/-! ## Trimming -/

/-- What a test finds of every element of a list. -/
theorem forall_mem_of_all {α : Type} {p : α → Prop} [DecidablePred p] {l : List α}
    (h : (l.all fun a => decide (p a)) = true) : ∀ a ∈ l, p a := by
  simpa only [List.all_eq_true, decide_eq_true_iff] using h

theorem dropWhile_eq_self {p : Char → Bool} {l : List Char} (h : ∀ c ∈ l, p c = false) :
    l.dropWhile p = l := by
  cases l with
  | nil => rfl
  | cons c rest => simp [h c List.mem_cons_self]

theorem dropWhile_append_left {p : Char → Bool} {l : List Char} (h : ∀ c ∈ l, p c = true)
    (m : List Char) : (l ++ m).dropWhile p = m.dropWhile p := by
  induction l with
  | nil => rfl
  | cons c l ih =>
      have hc : p c = true := h c List.mem_cons_self
      have hrest : (l ++ m).dropWhile p = m.dropWhile p := ih fun d hd => h d (.tail c hd)
      simp [hc, hrest]

/-- What is left of a list between what is dropped on both sides. -/
theorem dropWhile_both {p : Char → Bool} {l m r : List Char} (hl : ∀ c ∈ l, p c = true)
    (hm : ∀ c ∈ m, p c = false) (hr : ∀ c ∈ r, p c = true) :
    (((l ++ m ++ r).dropWhile p).reverse.dropWhile p).reverse = m := by
  have hr' : ∀ c ∈ r.reverse, p c = true := fun c hc => hr c (List.mem_reverse.mp hc)
  have hm' : ∀ c ∈ m.reverse, p c = false := fun c hc => hm c (List.mem_reverse.mp hc)
  rw [List.append_assoc, dropWhile_append_left hl]
  cases m with
  | nil =>
      have hnone : r.dropWhile p = [] := by
        have hdrop := dropWhile_append_left hr []
        rwa [List.append_nil, List.dropWhile_nil] at hdrop
      rw [List.nil_append, hnone]
      rfl
  | cons a m =>
      have hfront : ((a :: m) ++ r).dropWhile p = (a :: m) ++ r := by
        simp [hm a List.mem_cons_self]
      rw [hfront, List.reverse_append, dropWhile_append_left hr', dropWhile_eq_self hm',
        List.reverse_reverse]

/-- Surrounding white space is removed. -/
theorem trim_surrounded {before s after : String} (hb : ∀ c ∈ before.toList, isTrimmed c = true)
    (hs : ∀ c ∈ s.toList, isTrimmed c = false) (ha : ∀ c ∈ after.toList, isTrimmed c = true) :
    trim (before ++ s ++ after) = s := by
  unfold trim
  rw [String.toList_append, String.toList_append, dropWhile_both hb hs ha, String.ofList_toList]

theorem trim_eq_self {s : String} (h : ∀ c ∈ s.toList, isTrimmed c = false) : trim s = s := by
  have hnone : ∀ c ∈ ("" : String).toList, isTrimmed c = true := by
    intro c hc
    cases hc
  have hsurrounded : trim ("" ++ s ++ "") = s := trim_surrounded hnone h hnone
  rwa [String.empty_append, String.append_empty] at hsurrounded

/-- A trimmed text has nothing to trim. -/
theorem trim_trim (s : String) : trim (trim s) = trim s := by
  unfold trim
  generalize hl : s.toList.dropWhile isTrimmed = l
  have hfront : l.dropWhile isTrimmed = l := by
    rw [← hl, List.dropWhile_idempotent]
  have hback : ((l.reverse.dropWhile isTrimmed).reverse).dropWhile isTrimmed =
      (l.reverse.dropWhile isTrimmed).reverse := by
    -- What is left after the end was dropped starts as before.
    obtain ⟨rest, hrest⟩ : (l.reverse.dropWhile isTrimmed).reverse <+: l :=
      List.rdropWhile_prefix isTrimmed l
    cases hm : (l.reverse.dropWhile isTrimmed).reverse with
    | nil => rfl
    | cons c m =>
        rw [hm] at hrest
        have hc : isTrimmed c = false := by
          have hself := List.dropWhile_eq_self_iff.mp hfront
          subst hrest
          simpa using hself
        simp [hc]
  rw [String.toList_ofList, hback, List.reverse_reverse, List.dropWhile_idempotent]

/-- A text with something to keep is not trimmed away. -/
theorem trim_ne_empty {s : String} {c : Char} (hc : c ∈ s.toList) (h : isTrimmed c = false) :
    trim s ≠ "" := by
  intro hempty
  unfold trim at hempty
  have hlist : ((s.toList.dropWhile isTrimmed).reverse.dropWhile isTrimmed).reverse = [] := by
    simpa using congrArg String.toList hempty
  have hall : ∀ d ∈ s.toList.dropWhile isTrimmed, isTrimmed d = true := by
    intro d hd
    exact List.dropWhile_eq_nil_iff.mp (List.reverse_eq_nil_iff.mp hlist) d (List.mem_reverse.mpr hd)
  have hkept : c ∈ s.toList.dropWhile isTrimmed := by
    have hsplit := List.takeWhile_append_dropWhile (p := isTrimmed) (l := s.toList)
    rw [← hsplit] at hc
    rcases List.mem_append.mp hc with htaken | hkept
    · rw [List.mem_takeWhile_imp htaken] at h
      cases h
    · exact hkept
  rw [hall c hkept] at h
  cases h

theorem isTrimmed_of_isDigit {c : Char} (h : c.isDigit = true) : isTrimmed c = false := by
  simp only [Char.isDigit, Bool.and_eq_true, decide_eq_true_eq] at h
  have hlow : 48 ≤ c.toNat := h.1
  have hhigh : c.toNat ≤ 57 := h.2
  simp only [isTrimmed, Bool.or_eq_false_iff, Bool.and_eq_false_iff, decide_eq_false_iff_not,
    beq_eq_false_iff_ne]
  omega

/-- A text whose first and last characters are kept has nothing to trim. -/
theorem trim_eq_self_of_ends {s : String} (hhead : ∀ c ∈ s.toList.head?, isTrimmed c = false)
    (hlast : ∀ c ∈ s.toList.reverse.head?, isTrimmed c = false) : trim s = s := by
  have hkeep : ∀ l : List Char, (∀ c ∈ l.head?, isTrimmed c = false) → l.dropWhile isTrimmed = l := by
    intro l h
    cases l with
    | nil => rfl
    | cons c l => exact List.dropWhile_cons_of_neg (Bool.eq_false_iff.mp (h c rfl))
  rw [trim, hkeep _ hhead, hkeep _ hlast, List.reverse_reverse, String.ofList_toList]

theorem head_of_trimmed {s : String} (h : trim s = s) : ∀ c ∈ s.toList.head?, isTrimmed c = false := by
  intro c hc
  by_contra hspace
  rw [Bool.not_eq_false] at hspace
  obtain ⟨rest, hrest⟩ := List.head?_eq_some_iff.mp hc
  have hlength := congrArg (fun t : String => t.toList.length) h
  simp only [trim, String.toList_ofList, hrest, List.dropWhile_cons_of_pos hspace,
    List.length_reverse, List.length_cons] at hlength
  have hback := (List.dropWhile_suffix (l := (rest.dropWhile isTrimmed).reverse) isTrimmed).length_le
  have hfront := (List.dropWhile_suffix (l := rest) isTrimmed).length_le
  rw [List.length_reverse] at hback
  omega

theorem last_of_trimmed {s : String} (h : trim s = s) :
    ∀ c ∈ s.toList.reverse.head?, isTrimmed c = false := by
  intro c hc
  have hback : s.toList.reverse = (s.toList.dropWhile isTrimmed).reverse.dropWhile isTrimmed := by
    have hlist := congrArg (fun t : String => t.toList.reverse) h
    simpa [trim] using hlist.symm
  have hkept := List.head?_dropWhile_not isTrimmed (s.toList.dropWhile isTrimmed).reverse
  rw [← hback, Option.mem_def.mp hc] at hkept
  exact hkept
/-! ## Splitting -/

theorem splitChars_of_not_mem {l : List Char} (h : '.' ∉ l) : splitChars l = [l] := by
  induction l with
  | nil => rfl
  | cons c l ih =>
      have hc : c ≠ '.' := fun heq => h (heq ▸ List.mem_cons_self)
      have hl : splitChars l = [l] := ih fun hmem => h (List.mem_cons_of_mem c hmem)
      simp [splitChars, hc, hl]

theorem splitChars_append {l m : List Char} (h : '.' ∉ l) :
    splitChars (l ++ '.' :: m) = l :: splitChars m := by
  induction l with
  | nil => simp [splitChars]
  | cons c l ih =>
      have hc : c ≠ '.' := fun heq => h (heq ▸ List.mem_cons_self)
      have hl : splitChars (l ++ '.' :: m) = l :: splitChars m :=
        ih fun hmem => h (List.mem_cons_of_mem c hmem)
      simp [splitChars, hc, hl]

theorem splitChars_ne_nil (l : List Char) : splitChars l ≠ [] := by
  cases l with
  | nil => simp [splitChars]
  | cons c l =>
      simp only [splitChars]
      split
      · simp
      · split <;> simp

/-- The first piece has no dot, and the other pieces are those of the rest. -/
theorem splitChars_cons_eq {l w : List Char} {ws : List (List Char)} (h : splitChars l = w :: ws) :
    '.' ∉ w ∧ (ws = [] ∧ l = w ∨ ∃ m, l = w ++ '.' :: m ∧ splitChars m = ws) := by
  induction l generalizing w with
  | nil =>
      cases h
      exact ⟨List.not_mem_nil, .inl ⟨rfl, rfl⟩⟩
  | cons c l ih =>
      simp only [splitChars] at h
      split at h
      · next hc =>
          obtain ⟨hw, hws⟩ := List.cons.inj h
          subst hc hw
          exact ⟨List.not_mem_nil, .inr ⟨l, rfl, hws⟩⟩
      · next hc =>
          split at h
          · next hnil => exact absurd hnil (splitChars_ne_nil l)
          · next v vs hsplit =>
              obtain ⟨hw, hws⟩ := List.cons.inj h
              subst hw hws
              obtain ⟨hv, hrest⟩ := ih hsplit
              constructor
              · intro hmem
                rcases List.mem_cons.mp hmem with heq | hmem
                · exact hc heq.symm
                · exact hv hmem
              · rcases hrest with ⟨hvs, hl⟩ | ⟨m, hl, hm⟩
                · exact .inl ⟨hvs, congrArg (List.cons c) hl⟩
                · exact .inr ⟨m, congrArg (List.cons c) hl, hm⟩

/-- A text without a dot is its only piece. -/
theorem splitDots_of_not_mem {s : String} (h : '.' ∉ s.toList) : splitDots s = [s] := by
  simp [splitDots, splitChars_of_not_mem h]

theorem splitDots_append {s t : String} (h : '.' ∉ s.toList) :
    splitDots (s ++ "." ++ t) = s :: splitDots t := by
  have hlist : (s ++ "." ++ t).toList = s.toList ++ '.' :: t.toList := by
    simp [String.toList_append]
  simp [splitDots, hlist, splitChars_append h]

/-- Reading the first piece back. -/
theorem splitDots_cons_eq {s w : String} {ws : List String} (h : splitDots s = w :: ws) :
    '.' ∉ w.toList ∧ (ws = [] ∧ s = w ∨ ∃ t, s = w ++ "." ++ t ∧ splitDots t = ws) := by
  obtain ⟨l, ls, hsplit, rfl, rfl⟩ := List.map_eq_cons_iff.mp h
  obtain ⟨hdot, ⟨rfl, hs⟩ | ⟨m, hs, rfl⟩⟩ := splitChars_cons_eq hsplit
  · refine ⟨by simpa using hdot, .inl ⟨rfl, ?_⟩⟩
    rw [← hs, String.ofList_toList]
  · refine ⟨by simpa using hdot, .inr ⟨String.ofList m, ?_, ?_⟩⟩
    · apply String.toList_inj.mp
      simp [hs, String.toList_append]
    · simp [splitDots]

/-! ## Token texts -/

theorem mem_of_isTokenText {s : String} (h : isTokenText s = true) {c : Char} (hc : c ∈ s.toList) :
    c.isAlphanum = true ∨ c = '_' ∨ c = '-' := by
  unfold isTokenText at h
  obtain ⟨-, hall⟩ := Bool.and_eq_true_iff.mp h
  simpa [or_assoc] using List.all_eq_true.mp hall c hc

theorem ne_empty_of_isTokenText {s : String} (h : isTokenText s = true) : s ≠ "" := by
  rintro rfl
  simp [isTokenText] at h

theorem dot_not_mem_of_isTokenText {s : String} (h : isTokenText s = true) : '.' ∉ s.toList := by
  intro hmem
  have hdot := mem_of_isTokenText h hmem
  revert hdot
  decide

theorem isTrimmed_of_isTokenText {s : String} (h : isTokenText s = true) :
    ∀ c ∈ s.toList, isTrimmed c = false := by
  intro c hc
  have hrange : 45 ≤ c.toNat ∧ c.toNat ≤ 122 := by
    rcases mem_of_isTokenText h hc with halpha | rfl | rfl
    · delta Char.isAlphanum Char.isAlpha Char.isUpper Char.isLower Char.isDigit at halpha
      simp only [Bool.or_eq_true, Bool.and_eq_true, decide_eq_true_eq] at halpha
      have hcases : (65 ≤ c.toNat ∧ c.toNat ≤ 90 ∨ 97 ≤ c.toNat ∧ c.toNat ≤ 122) ∨
          48 ≤ c.toNat ∧ c.toNat ≤ 57 := halpha
      omega
    · decide
    · decide
  simp only [isTrimmed, Bool.or_eq_false_iff, Bool.and_eq_false_iff, decide_eq_false_iff_not,
    beq_eq_false_iff_ne]
  omega

end CreativeBackend
