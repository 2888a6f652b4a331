import Mathlib.Data.List.Infix

/-!
# Filling lines

Words are put on a line as long as they fit, and the next word begins a new line. A word that fits
on no line gets one of its own. No other way to set words in lines that fit needs fewer of them.
-/

namespace CreativeBackend

variable {α : Type} (fits : List α → Bool)

/-- The lines from a line with some words on it. -/
def fillLines : List α → List α → List (List α)
  | line, [] => if line.isEmpty then [] else [line]
  | line, word :: words =>
      if fits (line ++ [word]) then fillLines (line ++ [word]) words
      else if line.isEmpty then fillLines [word] words
      else line :: fillLines [word] words

/-- The words can be set in this many lines that fit. -/
def SetIn (words : List α) (n : Nat) : Prop :=
  ∃ runs : List (List α), runs.flatten = words ∧ runs.length ≤ n ∧
    ∀ run ∈ runs, run ≠ [] ∧ fits run = true

variable {fits} {line run words before after : List α} {word : α}

theorem fillLines_nil (h : line ≠ []) : fillLines fits line [] = [line] := by
  simp [fillLines, h]

theorem fillLines_cons_of_not_fits (hline : line ≠ [])
    (h : fits (line ++ [word]) = false) :
    fillLines fits line (word :: words) = line :: fillLines fits [word] words := by
  simp [fillLines, h, hline]

/-- The first word of a line is there, whether it fits or not. -/
theorem fillLines_first :
    fillLines fits [] (word :: words) = fillLines fits [word] words := by
  simp [fillLines]

theorem flatten_fillLines : (fillLines fits line words).flatten = line ++ words := by
  induction words generalizing line with
  | nil =>
      by_cases h : line = []
      · simp [fillLines, h]
      · simp [fillLines, h]
  | cons word words ih =>
      simp only [fillLines]
      split
      · rw [ih, List.append_assoc, List.singleton_append]
      · split
        · next hempty =>
            rw [ih, List.isEmpty_iff.mp hempty, List.nil_append, List.singleton_append]
        · rw [List.flatten_cons, ih, List.singleton_append]

theorem ne_nil_of_mem_fillLines {l : List α} (h : l ∈ fillLines fits line words) : l ≠ [] := by
  induction words generalizing line with
  | nil =>
      simp only [fillLines] at h
      split at h
      · cases h
      · next hne =>
          rw [List.mem_singleton.mp h]
          exact mt List.isEmpty_iff.mpr hne
  | cons word words ih =>
      simp only [fillLines] at h
      split at h
      · exact ih h
      · split at h
        · exact ih h
        · next hne =>
            rcases List.mem_cons.mp h with rfl | h
            · exact mt List.isEmpty_iff.mpr hne
            · exact ih h

/-- A line fits or is one word that fits on no line. -/
def Filled (fits : List α → Bool) (l : List α) : Prop :=
  fits l = true ∨ ∃ word, l = [word] ∧ fits [word] = false

theorem filled_single (word : α) : Filled fits [word] := by
  cases h : fits [word] with
  | true => exact .inl h
  | false => exact .inr ⟨word, rfl, h⟩

theorem filled_of_mem_fillLines {l : List α} (hline : line ≠ [] → Filled fits line)
    (h : l ∈ fillLines fits line words) : Filled fits l := by
  induction words generalizing line with
  | nil =>
      simp only [fillLines] at h
      split at h
      · cases h
      · next hne =>
          rw [List.mem_singleton.mp h]
          exact hline (mt List.isEmpty_iff.mpr hne)
  | cons word words ih =>
      simp only [fillLines] at h
      split at h
      · next hfits => exact ih (fun _ => .inl hfits) h
      · split at h
        · exact ih (fun _ => filled_single word) h
        · next hne =>
            rcases List.mem_cons.mp h with rfl | h
            · exact hline (mt List.isEmpty_iff.mpr hne)
            · exact ih (fun _ => filled_single word) h

section Infix

variable (hwithin : ∀ {a b : List α}, b <:+: a → fits a = true → fits b = true)
include hwithin

/-- Words that fit on the line are put there. -/
theorem fillLines_of_fits (h : fits (line ++ run) = true) :
    fillLines fits line (run ++ words) = fillLines fits (line ++ run) words := by
  induction run generalizing line with
  | nil => simp
  | cons word run ih =>
      have hall : line ++ word :: run = (line ++ [word]) ++ run := by simp
      rw [hall] at h ⊢
      have hword : fits (line ++ [word]) = true :=
        hwithin (List.prefix_append _ _).isInfix h
      rw [List.cons_append, fillLines, if_pos hword]
      exact ih h

/-- A word that fits on no line has one of its own. -/
theorem fillLines_of_long (h : fits [word] = false) :
    fillLines fits line (before ++ word :: after) =
      fillLines fits line before ++ [word] :: fillLines fits [] after := by
  have hlong : ∀ l, word ∈ l → fits l = false := by
    intro l hl
    rw [← Bool.not_eq_true] at h ⊢
    obtain ⟨s, t, rfl⟩ := List.append_of_mem hl
    exact mt (hwithin ⟨s, t, by simp⟩) h
  have halone : fillLines fits [word] after = [word] :: fillLines fits [] after := by
    cases after with
    | nil => simp [fillLines]
    | cons next after =>
        rw [fillLines_cons_of_not_fits (by simp) (hlong _ (by simp)), fillLines_first]
  induction before generalizing line with
  | nil =>
      rw [List.nil_append]
      by_cases hline : line = []
      · rw [hline, fillLines_first, halone]
        simp [fillLines]
      · rw [fillLines_cons_of_not_fits hline (hlong _ (by simp)), fillLines_nil hline, halone,
          List.singleton_append]
  | cons first before ih =>
      rw [List.cons_append]
      simp only [fillLines]
      split
      · exact ih
      · split
        · exact ih
        · rw [ih, List.cons_append]

/-- Words that fit on one line end the current line at most. -/
theorem exists_fillLines_append (words : List α) (hline : line ≠ []) (h : fits run = true) :
    ∃ full last, full.length ≤ 1 ∧ last ≠ [] ∧
      fillLines fits line (run ++ words) = full ++ fillLines fits last words := by
  induction run generalizing line with
  | nil => exact ⟨[], line, Nat.zero_le 1, hline, rfl⟩
  | cons word run ih =>
      cases hword : fits (line ++ [word]) with
      | true =>
          have hrun : fits run = true := hwithin (List.suffix_cons word run).isInfix h
          rw [List.cons_append, fillLines, if_pos hword]
          exact ih (by simp) hrun
      | false =>
          refine ⟨[line], word :: run, Nat.le_refl 1, List.cons_ne_nil _ _, ?_⟩
          rw [List.cons_append, fillLines_cons_of_not_fits hline hword,
            fillLines_of_fits hwithin (by simpa using h)]
          simp

theorem length_fillLines_le {runs : List (List α)} (hline : line ≠ [])
    (h : ∀ run ∈ runs, run ≠ [] ∧ fits run = true) :
    (fillLines fits line runs.flatten).length ≤ runs.length + 1 := by
  induction runs generalizing line with
  | nil => simp [fillLines_nil hline]
  | cons run runs ih =>
      obtain ⟨hrun, hrest⟩ := List.forall_mem_cons.mp h
      obtain ⟨full, last, hfull, hlast, heq⟩ := exists_fillLines_append hwithin
        runs.flatten hline hrun.2
      have hshort := ih hlast hrest
      rw [List.flatten_cons, heq, List.length_append, List.length_cons]
      omega

/-- No setting has fewer lines. -/
theorem length_fillLines_le_of_setIn {n : Nat} (h : SetIn fits words n) :
    (fillLines fits [] words).length ≤ n := by
  obtain ⟨runs, rfl, hlength, hruns⟩ := h
  apply Nat.le_trans _ hlength
  cases runs with
  | nil => simp [fillLines]
  | cons run runs =>
      obtain ⟨⟨hne, hfits⟩, hrest⟩ := List.forall_mem_cons.mp hruns
      rw [List.flatten_cons, fillLines_of_fits hwithin (by simpa using hfits), List.nil_append]
      exact length_fillLines_le hwithin hne hrest

end Infix

end CreativeBackend
