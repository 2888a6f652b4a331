import Mathlib
import CreativeBackend.Runtime.Filling
import CreativeBackend.Runtime.Text

/-!
# Wrapping the text of a ticket

`SvgBuilderService.wrapText` puts words on a line as long as they fit in the box, and ends the last
line with an ellipsis where words are left out. A word wider than the box has a line of its own,
as wide as it is: the branch that would cut it is never taken.

The number of characters of a line is `maxChars` in exact rational arithmetic.
-/

namespace CreativeBackend

/-! ## Words -/

/-- The pieces between runs of white space. -/
def splitRuns : List Char → List (List Char)
  | [] => [[]]
  | c :: cs =>
      if isTrimmed c then
        if cs.head?.any isTrimmed then splitRuns cs else [] :: splitRuns cs
      else match splitRuns cs with
        | [] => [[c]]
        | w :: ws => (c :: w) :: ws

/-- `text.split(/\s+/)`. -/
def splitSpaces (text : String) : List String := (splitRuns text.toList).map String.ofList

/-- `words.join(' ')`. -/
def joinSpaces : List String → String
  | [] => ""
  | [word] => word
  | word :: next :: words => word ++ " " ++ joinSpaces (next :: words)

/-- `text.slice(0, end)`, of which a half of a surrogate pair is left out. -/
def sliceUnits : Nat → List Char → List Char
  | _, [] => []
  | n, c :: cs =>
      let units := if 65536 ≤ c.toNat then 2 else 1
      if units ≤ n then c :: sliceUnits (n - units) cs else []

/-- `line.replace(/\.*$/, '')`. -/
def withoutDots (line : String) : String := String.ofList (line.toList.rdropWhile (· == '.'))

/-! ## The service -/

namespace SvgBuilderService

def maxChars (width fontSize : ℚ) : Nat := (max 8 ⌊width / (fontSize * (56 / 100))⌋).toNat

/-- The loop over the words: the lines that were pushed, and the current one. -/
def wrapWords (maxChars maxLines : Nat) (lines : List String) (current : String) :
    List String → List String × String
  | [] => (lines, current)
  | word :: words =>
      let next := if current = "" then word else current ++ " " ++ word
      if utf16Length next ≤ maxChars then wrapWords maxChars maxLines lines next words
      else
        let lines := if current = "" then lines else lines ++ [current]
        if maxLines ≤ lines.length then (lines, word)
        else wrapWords maxChars maxLines lines word words

/-- The current line is pushed where there is room for it. -/
def lastPushed (maxLines : Nat) (lines : List String) (current : String) : List String :=
  if current ≠ "" ∧ lines.length < maxLines then lines ++ [current] else lines

def wrapText (value : String) (width fontSize : ℚ) (maxLines : Nat) : List String :=
  let text := trim value
  if text = "" then [""]
  else
    let maxChars := maxChars width fontSize
    let words := splitSpaces text
    let wrapped := wrapWords maxChars maxLines [] "" words
    let lines := lastPushed maxLines wrapped.1 wrapped.2
    let lines :=
      if lines.length = 0 then lines ++ [String.ofList (sliceUnits maxChars text.toList)] else lines
    if lines.length = maxLines ∧
        utf16Length (joinSpaces words) > utf16Length (joinSpaces lines) then
      lines.modify (maxLines - 1) fun line => withoutDots line ++ "…"
    else lines

end SvgBuilderService

/-! ## What a line shows -/

/-- The line is the words of a run, within the limit. -/
structure ShowsRun (maxChars : Nat) (run : List String) (line : String) : Prop where
  nonempty : run ≠ []
  text : line = joinSpaces run
  fits : utf16Length line ≤ maxChars

/-- The line is the words of a run, with an ellipsis in place of the dots at its end. -/
structure ShowsCut (maxChars : Nat) (run : List String) (line : String) : Prop where
  nonempty : run ≠ []
  text : line = withoutDots (joinSpaces run) ++ "…"
  fits : utf16Length (withoutDots (joinSpaces run)) ≤ maxChars

/-- The lines are consecutive runs of the words, all of them unless the last line is cut. -/
structure RespectsBox (words : List String) (maxChars maxLines : Nat) (lines : List String) :
    Prop where
  length_pos : 1 ≤ lines.length
  length_le : lines.length ≤ maxLines
  shows : ∃ runs last rest above line, words = runs.flatten ++ last ++ rest ∧
    lines = above ++ [line] ∧ List.Forall₂ (ShowsRun maxChars) runs above ∧
      (rest = [] ∧ ShowsRun maxChars last line ∨ ShowsCut maxChars last line)

/-! ## Words and their widths -/

theorem utf16Length_append (s t : String) :
    utf16Length (s ++ t) = utf16Length s + utf16Length t := by
  simp [utf16Length, String.toList_append]

theorem utf16Length_pos {s : String} (h : s ≠ "") : 0 < utf16Length s := by
  cases hs : s.toList with
  | nil => exact absurd (String.toList_inj.mp hs) h
  | cons c cs =>
      simp only [utf16Length, hs, List.map_cons, List.sum_cons]
      split <;> omega

theorem joinSpaces_cons (word : String) {words : List String} (h : words ≠ []) :
    joinSpaces (word :: words) = word ++ " " ++ joinSpaces words := by
  cases words with
  | nil => exact absurd rfl h
  | cons next words => rfl

theorem joinSpaces_append {as bs : List String} (ha : as ≠ []) (hb : bs ≠ []) :
    joinSpaces (as ++ bs) = joinSpaces as ++ " " ++ joinSpaces bs := by
  induction as with
  | nil => exact absurd rfl ha
  | cons a as ih =>
      cases as with
      | nil => exact joinSpaces_cons a hb
      | cons a' as =>
          rw [List.cons_append, joinSpaces_cons a (by simp), joinSpaces_cons a (by simp),
            ih (by simp)]
          simp only [String.append_assoc]

theorem joinSpaces_eq_empty {words : List String} (h : ∀ w ∈ words, w ≠ "") :
    joinSpaces words = "" ↔ words = [] := by
  cases words with
  | nil => simp [joinSpaces]
  | cons word words =>
      have hword : word ≠ "" := h word List.mem_cons_self
      cases words with
      | nil => simpa [joinSpaces] using hword
      | cons next words => simp [joinSpaces, hword]

/-- Joining the lines is joining their words. -/
theorem joinSpaces_map {runs : List (List String)} (h : ∀ run ∈ runs, run ≠ []) :
    joinSpaces (runs.map joinSpaces) = joinSpaces runs.flatten := by
  induction runs with
  | nil => rfl
  | cons run runs ih =>
      obtain ⟨hrun, hrest⟩ := List.forall_mem_cons.mp h
      rw [List.map_cons, List.flatten_cons]
      cases runs with
      | nil => simp [joinSpaces]
      | cons next runs =>
          have hnext : (next :: runs).flatten ≠ [] := by
            simp [List.forall_mem_cons.mp hrest]
          rw [joinSpaces_cons _ (by simp), ih hrest, joinSpaces_append hrun hnext]

/-- More words are wider. -/
theorem utf16Length_joinSpaces_lt {words more : List String} (h : ∀ w ∈ more, w ≠ "")
    (hne : more ≠ []) :
    utf16Length (joinSpaces words) < utf16Length (joinSpaces (words ++ more)) := by
  have hmore : 0 < utf16Length (joinSpaces more) :=
    utf16Length_pos (mt (joinSpaces_eq_empty h).mp hne)
  by_cases hwords : words = []
  · rw [hwords, List.nil_append]
    exact hmore
  · rw [joinSpaces_append hwords hne, utf16Length_append, utf16Length_append]
    omega

/-- Two beginnings of the words that are as wide as each other are the same. -/
theorem eq_of_utf16Length_eq {as bs as' bs' : List String} (h : ∀ w ∈ as ++ bs, w ≠ "")
    (happend : as ++ bs = as' ++ bs')
    (hlength : utf16Length (joinSpaces as) = utf16Length (joinSpaces as')) :
    as = as' ∧ bs = bs' := by
  have hsame : as = as' := by
    rcases List.append_eq_append_iff.mp happend with ⟨more, rfl, rfl⟩ | ⟨more, rfl, rfl⟩
    · by_cases hmore : more = []
      · simp [hmore]
      · have hlt : utf16Length (joinSpaces as) < utf16Length (joinSpaces (as ++ more)) :=
          utf16Length_joinSpaces_lt (fun w hw => h w (by simp [hw])) hmore
        omega
    · by_cases hmore : more = []
      · simp [hmore]
      · have hlt : utf16Length (joinSpaces as') < utf16Length (joinSpaces (as' ++ more)) :=
          utf16Length_joinSpaces_lt (fun w hw => h w (by simp [hw])) hmore
        omega
  subst hsame
  exact ⟨rfl, List.append_cancel_left happend⟩

/-! ## The words of a text -/

theorem splitRuns_eq {l : List Char} (hne : l ≠ [])
    (hlast : ∀ c ∈ l.reverse.head?, isTrimmed c = false) :
    ∃ w ws, splitRuns l = w :: ws ∧ (∀ v ∈ ws, v ≠ []) ∧
      ((∀ c ∈ l.head?, isTrimmed c = false) → w ≠ []) := by
  induction l with
  | nil => exact absurd rfl hne
  | cons c cs ih =>
      by_cases hcs : cs = []
      · subst hcs
        have hc : isTrimmed c = false := hlast c rfl
        exact ⟨[c], [], by simp [splitRuns, hc], by simp, by simp⟩
      · have hlast' : ∀ d ∈ cs.reverse.head?, isTrimmed d = false := by
          intro d hd
          apply hlast d
          simp only [List.reverse_cons, List.head?_append, Option.mem_def] at hd ⊢
          simp [hd]
        obtain ⟨w, ws, hsplit, hws, hw⟩ := ih hcs hlast'
        simp only [splitRuns, hsplit]
        cases hc : isTrimmed c with
        | false => exact ⟨c :: w, ws, by simp, hws, by simp⟩
        | true =>
            cases hnext : cs.head?.any isTrimmed with
            | true => exact ⟨w, ws, by simp, hws, by simp [hc]⟩
            | false =>
                have hword : w ≠ [] := hw fun d hd => by
                  simpa [Option.mem_def.mp hd] using hnext
                exact ⟨[], w :: ws, by simp, by simpa using ⟨hword, hws⟩, by simp [hc]⟩

/-- A trimmed text that is not empty has words, none of which is empty. -/
theorem splitSpaces_trim {value : String} (h : trim value ≠ "") :
    splitSpaces (trim value) ≠ [] ∧ ∀ w ∈ splitSpaces (trim value), w ≠ "" := by
  have hne : (trim value).toList ≠ [] := fun hnil => h (String.toList_inj.mp hnil)
  obtain ⟨w, ws, hsplit, hws, hw⟩ := splitRuns_eq hne (last_of_trimmed (trim_trim value))
  have hword := hw (head_of_trimmed (trim_trim value))
  constructor
  · simp [splitSpaces, hsplit]
  · intro v hv
    obtain ⟨l, hl, rfl⟩ := List.mem_map.mp hv
    rw [hsplit] at hl
    have hl' : l ≠ [] := by
      rcases List.mem_cons.mp hl with rfl | hl
      · exact hword
      · exact hws l hl
    simpa using hl'

/-! ## The lines -/

/-- The words fit on a line of this many characters. -/
def fitsIn (maxChars : Nat) (run : List String) : Bool :=
  decide (utf16Length (joinSpaces run) ≤ maxChars)

theorem utf16Length_infix {as bs : List String} (h : bs <:+: as) :
    utf16Length (joinSpaces bs) ≤ utf16Length (joinSpaces as) := by
  have happend : ∀ cs ds : List String,
      utf16Length (joinSpaces cs) ≤ utf16Length (joinSpaces (cs ++ ds)) ∧
        utf16Length (joinSpaces ds) ≤ utf16Length (joinSpaces (cs ++ ds)) := by
    intro cs ds
    by_cases hc : cs = []
    · simp [hc, joinSpaces, utf16Length]
    · by_cases hd : ds = []
      · simp [hd, joinSpaces, utf16Length]
      · rw [joinSpaces_append hc hd, utf16Length_append, utf16Length_append]
        omega
  obtain ⟨front, back, rfl⟩ := h
  exact (happend front bs).2.trans (happend (front ++ bs) back).1

theorem fitsIn_infix {maxChars : Nat} {as bs : List String} (h : bs <:+: as)
    (ha : fitsIn maxChars as = true) : fitsIn maxChars bs = true := by
  have hwidth := utf16Length_infix h
  simp only [fitsIn, decide_eq_true_eq] at ha ⊢
  omega

namespace SvgBuilderService

variable {maxChars maxLines : Nat} {lines words run : List String}

/-- What is pushed after some lines are the lines that the words fill, up to the last that there is
room for. -/
theorem lastPushed_wrapWords (hwords : ∀ w ∈ words, w ≠ "") (hrun : ∀ w ∈ run, w ≠ "")
    (hlines : lines.length < maxLines) :
    lastPushed maxLines (wrapWords maxChars maxLines lines (joinSpaces run) words).1
        (wrapWords maxChars maxLines lines (joinSpaces run) words).2 =
      (lines ++ (fillLines (fitsIn maxChars) run words).map joinSpaces).take maxLines := by
  induction words generalizing lines run with
  | nil =>
      simp only [wrapWords, lastPushed, fillLines]
      by_cases hr : run = []
      · have hpush : joinSpaces run = "" := (joinSpaces_eq_empty hrun).mpr hr
        subst hr
        simp [hpush, List.take_of_length_le hlines.le]
      · have hpush : joinSpaces run ≠ "" := mt (joinSpaces_eq_empty hrun).mp hr
        have hroom : (lines ++ [joinSpaces run]).length ≤ maxLines := by
          simpa using hlines
        simp [hr, hpush, hlines, List.take_of_length_le hroom]
  | cons word words ih =>
      obtain ⟨hword, hrest⟩ := List.forall_mem_cons.mp hwords
      have hsingle : ∀ w ∈ [word], w ≠ "" := by simpa using hword
      have hmore : ∀ w ∈ run ++ [word], w ≠ "" := by
        intro w hw
        rcases List.mem_append.mp hw with hw | hw
        · exact hrun w hw
        · exact hsingle w hw
      have hnext : (if joinSpaces run = "" then word else joinSpaces run ++ " " ++ word) =
          joinSpaces (run ++ [word]) := by
        by_cases hr : run = []
        · simp [hr, joinSpaces]
        · rw [if_neg (mt (joinSpaces_eq_empty hrun).mp hr), joinSpaces_append hr (by simp)]
          rfl
      rw [wrapWords]
      simp only [hnext]
      by_cases hfits : utf16Length (joinSpaces (run ++ [word])) ≤ maxChars
      · have hfit : fitsIn maxChars (run ++ [word]) = true := decide_eq_true hfits
        rw [fillLines, if_pos hfit, if_pos hfits]
        exact ih hrest hmore hlines
      · have hfit : fitsIn maxChars (run ++ [word]) = false := decide_eq_false hfits
        simp only [if_neg hfits]
        by_cases hr : run = []
        · have hpush : joinSpaces run = "" := (joinSpaces_eq_empty hrun).mpr hr
          subst hr
          simp only [if_pos hpush, if_neg (Nat.not_le.mpr hlines), fillLines_first]
          exact ih hrest hsingle hlines
        · have hpush : joinSpaces run ≠ "" := mt (joinSpaces_eq_empty hrun).mp hr
          have hfirst := List.append_cons lines (joinSpaces run)
            ((fillLines (fitsIn maxChars) [word] words).map joinSpaces)
          rw [fillLines_cons_of_not_fits hr hfit, List.map_cons, hfirst]
          simp only [if_neg hpush]
          by_cases hfull : maxLines ≤ (lines ++ [joinSpaces run]).length
          · have hlength : (lines ++ [joinSpaces run]).length = maxLines := by
              simp only [List.length_append, List.length_singleton] at hfull ⊢
              omega
            rw [if_pos hfull, List.take_left' hlength, lastPushed, if_neg]
            exact fun hroom => Nat.not_lt.mpr hfull hroom.2
          · rw [if_neg hfull]
            exact ih hrest hsingle (Nat.not_le.mp hfull)

variable (value : String)

theorem modify_concat {α : Type} (f : α → α) (as : List α) (a : α) :
    (as ++ [a]).modify as.length f = as ++ [f a] := by
  induction as with
  | nil => rfl
  | cons b as ih => simpa using ih

/-- The lines that the words of a text fill. -/
def filled (maxChars : Nat) : List (List String) :=
  fillLines (fitsIn maxChars) [] (splitSpaces (trim value))

theorem flatten_filled : (filled value maxChars).flatten = splitSpaces (trim value) :=
  flatten_fillLines

theorem ne_nil_of_mem_filled : ∀ run ∈ filled value maxChars, run ≠ [] :=
  fun _ hrun => ne_nil_of_mem_fillLines hrun

variable {value}

theorem filled_ne_nil (h : trim value ≠ "") : filled value maxChars ≠ [] := by
  intro hnil
  have hflatten : (filled value maxChars).flatten = splitSpaces (trim value) :=
    flatten_filled value
  rw [hnil] at hflatten
  exact (splitSpaces_trim h).1 hflatten.symm

section Wrapped

variable {width fontSize : ℚ} {runs : List (List String)} (h : trim value ≠ "") (hm : 1 ≤ maxLines)
  (hruns : filled value (SvgBuilderService.maxChars width fontSize) = runs)
include h hm hruns

/-- A line is pushed for every text that is not empty, so its beginning is never cut out. -/
theorem wrapText_eq : wrapText value width fontSize maxLines =
    if (runs.take maxLines).length = maxLines ∧
        utf16Length (joinSpaces (runs.take maxLines).flatten) <
          utf16Length (joinSpaces (splitSpaces (trim value))) then
      ((runs.take maxLines).map joinSpaces).modify (maxLines - 1)
        fun line => withoutDots line ++ "…"
    else (runs.take maxLines).map joinSpaces := by
  have hpushed : lastPushed maxLines
      (wrapWords (SvgBuilderService.maxChars width fontSize) maxLines [] ""
        (splitSpaces (trim value))).1
      (wrapWords (SvgBuilderService.maxChars width fontSize) maxLines [] ""
        (splitSpaces (trim value))).2 = (runs.take maxLines).map joinSpaces := by
    have hnone : ∀ w ∈ ([] : List String), w ≠ "" := fun w hw => absurd hw List.not_mem_nil
    have hroom : ([] : List String).length < maxLines := hm
    rw [List.map_take, ← hruns]
    exact lastPushed_wrapWords (splitSpaces_trim h).2 hnone hroom
  have hsome : (runs.take maxLines).length ≠ 0 := by
    have hne : runs ≠ [] := hruns ▸ filled_ne_nil h
    have hlength := List.length_pos_iff.mpr hne
    rw [List.length_take]
    omega
  have hnonempty : ∀ run ∈ runs.take maxLines, run ≠ [] := fun run hrun =>
    ne_nil_of_mem_filled value run (hruns ▸ List.mem_of_mem_take hrun)
  unfold wrapText
  simp only [if_neg h, hpushed, List.length_map, if_neg hsome, joinSpaces_map hnonempty, gt_iff_lt]

theorem wrapText_complete (hfew : runs.length ≤ maxLines) :
    wrapText value width fontSize maxLines = runs.map joinSpaces := by
  rw [wrapText_eq h hm hruns, List.take_of_length_le hfew, ← hruns, flatten_filled, if_neg]
  exact fun hwider => Nat.lt_irrefl _ hwider.2

theorem wrapText_cut (hmany : maxLines < runs.length) :
    ∃ above last, runs.take maxLines = above ++ [last] ∧
      wrapText value width fontSize maxLines =
        above.map joinSpaces ++ [withoutDots (joinSpaces last) ++ "…"] := by
  have hflatten : splitSpaces (trim value) =
      (runs.take maxLines).flatten ++ (runs.drop maxLines).flatten := by
    rw [← List.flatten_append, List.take_append_drop, ← hruns, flatten_filled]
  have hwords := (splitSpaces_trim h).2
  rw [hflatten] at hwords
  have hleft : (runs.drop maxLines).flatten ≠ [] := by
    obtain ⟨run, hrun⟩ := List.exists_mem_of_ne_nil (runs.drop maxLines)
      (by simpa using hmany)
    intro hnil
    apply ne_nil_of_mem_filled value run (hruns ▸ List.mem_of_mem_drop hrun)
    exact List.flatten_eq_nil_iff.mp hnil run hrun
  have hwider : utf16Length (joinSpaces (runs.take maxLines).flatten) < utf16Length
      (joinSpaces ((runs.take maxLines).flatten ++ (runs.drop maxLines).flatten)) :=
    utf16Length_joinSpaces_lt (fun w hw => hwords w (List.mem_append_right _ hw)) hleft
  have hlength : (runs.take maxLines).length = maxLines := by
    rw [List.length_take]
    omega
  have hne : runs.take maxLines ≠ [] := by
    rw [← List.length_pos_iff, hlength]
    omega
  obtain ⟨above, last, hshown⟩ := (List.eq_nil_or_concat' _).resolve_left hne
  refine ⟨above, last, hshown, ?_⟩
  rw [wrapText_eq h hm hruns, hflatten, if_pos ⟨hlength, hwider⟩]
  rw [hshown, List.length_append, List.length_singleton] at hlength
  rw [hshown, ← hlength, Nat.add_sub_cancel, List.map_append, List.map_singleton,
    ← List.length_map joinSpaces, modify_concat]

end Wrapped

end SvgBuilderService

/-! ## When the lines fit -/

theorem utf16Length_withoutDots_le (line : String) :
    utf16Length (withoutDots line) ≤ utf16Length line := by
  obtain ⟨dots, hdots⟩ : ∃ dots, withoutDots line ++ String.ofList dots = line := by
    obtain ⟨dots, hdots⟩ := List.rdropWhile_prefix (· == '.') line.toList
    refine ⟨dots, String.toList_inj.mp ?_⟩
    simpa [withoutDots, String.toList_append] using hdots
  have hsum := utf16Length_append (withoutDots line) (String.ofList dots)
  rw [hdots] at hsum
  omega

/-- What ends with an ellipsis has no dots at its end. -/
theorem ne_withoutDots_append (word : String) : word ≠ withoutDots word ++ "…" := by
  intro h
  have hlist : word.toList = word.toList.rdropWhile (· == '.') ++ ['…'] := by
    have hchars := congrArg String.toList h
    rw [String.toList_append, withoutDots, String.toList_ofList] at hchars
    exact hchars
  have hkept : word.toList.rdropWhile (· == '.') = word.toList := by
    rw [hlist, List.rdropWhile_concat_neg]
    decide
  have hlength := congrArg List.length hlist
  rw [hkept, List.length_append, List.length_singleton] at hlength
  omega

/-- A word too wide for a line is out of sight, or it ends the lines with words after it, and fits
without its dots. -/
def WordsFit (words : List String) (maxChars maxLines : Nat) : Prop :=
  ∀ before word after, words = before ++ word :: after → maxChars < utf16Length word →
    (∀ n < maxLines, ¬ SetIn (fitsIn maxChars) before n) ∨
      after ≠ [] ∧ utf16Length (withoutDots word) ≤ maxChars ∧
        ∀ n, n + 1 < maxLines → ¬ SetIn (fitsIn maxChars) before n

/-- The first element of a list that fails. -/
theorem exists_first {α : Type} {p : α → Bool} {l : List α} (h : ¬ ∀ a ∈ l, p a = true) :
    ∃ front a back, l = front ++ a :: back ∧ (∀ b ∈ front, p b = true) ∧ p a = false := by
  induction l with
  | nil => exact absurd (fun a ha => absurd ha List.not_mem_nil) h
  | cons b l ih =>
      cases hb : p b with
      | false => exact ⟨[], b, l, rfl, fun c hc => absurd hc List.not_mem_nil, hb⟩
      | true =>
          have hrest : ¬ ∀ a ∈ l, p a = true :=
            fun hall => h (List.forall_mem_cons.mpr ⟨hb, hall⟩)
          obtain ⟨front, a, back, rfl, hfront, ha⟩ := ih hrest
          exact ⟨b :: front, a, back, rfl, List.forall_mem_cons.mpr ⟨hb, hfront⟩, ha⟩

namespace SvgBuilderService

variable {value : String} {maxChars maxLines : Nat} {runs : List (List String)}

/-- The lines that are shown fit, but for the last where it is cut. -/
theorem shown_fits (hfit : WordsFit (splitSpaces (trim value)) maxChars maxLines)
    (hruns : filled value maxChars = runs) {above : List (List String)} {last : List String}
    (hshown : runs.take maxLines = above ++ [last]) :
    (∀ run ∈ above, fitsIn maxChars run = true) ∧
      (fitsIn maxChars last = true ∨ maxLines < runs.length ∧
        utf16Length (withoutDots (joinSpaces last)) ≤ maxChars) := by
  by_cases hall : ∀ run ∈ above ++ [last], fitsIn maxChars run = true
  · exact ⟨fun run hrun => hall run (List.mem_append_left _ hrun),
      .inl (hall last (List.mem_append_right _ (List.mem_singleton_self _)))⟩
  · obtain ⟨front, run, back, heq, hfront, hrun⟩ := exists_first hall
    have hmem : ∀ r ∈ front ++ run :: back, r ∈ filled value maxChars := by
      intro r hr
      rw [← heq, ← hshown, ← hruns] at hr
      exact List.mem_of_mem_take hr
    obtain ⟨word, rfl, -⟩ : ∃ word, run = [word] ∧ fitsIn maxChars [word] = false := by
      have hsome := filled_of_mem_fillLines (fun hne => absurd rfl hne) (hmem run (by simp))
      exact hsome.resolve_left (by simp [hrun])
    have hsplit : runs = front ++ [word] :: (back ++ runs.drop maxLines) := by
      rw [← List.cons_append, ← List.append_assoc, ← heq, ← hshown, List.take_append_drop]
    have hwords : splitSpaces (trim value) =
        front.flatten ++ word :: (back ++ runs.drop maxLines).flatten := by
      rw [← flatten_filled value, hruns, congrArg List.flatten hsplit]
      simp
    have hset : SetIn (fitsIn maxChars) front.flatten front.length :=
      ⟨front, rfl, Nat.le_refl _, fun r hr =>
        ⟨ne_nil_of_mem_filled value r (hmem r (List.mem_append_left _ hr)), hfront r hr⟩⟩
    have hroom : front.length + 1 + back.length ≤ maxLines := by
      have hlength := List.length_take_le maxLines runs
      rw [hshown, heq, List.length_append, List.length_cons] at hlength
      omega
    have hlong : maxChars < utf16Length word := Nat.not_le.mp (of_decide_eq_false hrun)
    rcases hfit _ _ _ hwords hlong with hout | ⟨hafter, hdots, hearly⟩
    · exact absurd hset (hout front.length (by omega))
    · have hlastLine : ¬ front.length + 1 < maxLines := fun hlt => hearly _ hlt hset
      have hback : back = [] := List.eq_nil_of_length_eq_zero (by omega)
      subst hback
      obtain ⟨rfl, hlast⟩ := List.append_inj' heq rfl
      rw [(List.cons.inj hlast).1]
      refine ⟨hfront, .inr ⟨?_, hdots⟩⟩
      by_contra hfew
      rw [List.nil_append, List.drop_of_length_le (Nat.not_lt.mp hfew)] at hafter
      exact hafter rfl

theorem forall₂_showsRun {above : List (List String)} (hne : ∀ run ∈ above, run ≠ [])
    (hfits : ∀ run ∈ above, fitsIn maxChars run = true) :
    List.Forall₂ (ShowsRun maxChars) above (above.map joinSpaces) := by
  induction above with
  | nil => exact .nil
  | cons run above ih =>
      obtain ⟨hrun, hrest⟩ := List.forall_mem_cons.mp hne
      obtain ⟨hfit, hfits⟩ := List.forall_mem_cons.mp hfits
      exact .cons ⟨hrun, rfl, of_decide_eq_true hfit⟩ (ih hrest hfits)

theorem lines_of_forall₂ {above : List String} (h : List.Forall₂ (ShowsRun maxChars) runs above) :
    (∀ line ∈ above, utf16Length line ≤ maxChars) ∧ runs.map joinSpaces = above ∧
      ∀ run ∈ runs, run ≠ [] := by
  induction h with
  | nil => simp
  | cons hline _ ih =>
      obtain ⟨hfits, htexts, hne⟩ := ih
      refine ⟨List.forall_mem_cons.mpr ⟨hline.fits, hfits⟩, ?_,
        List.forall_mem_cons.mpr ⟨hline.nonempty, hne⟩⟩
      rw [List.map_cons, htexts, ← hline.text]

/-- What has something after it is not the last. -/
theorem mem_of_append_cons_eq {α : Type} {front back above : List α} {a last : α}
    (h : front ++ a :: back = above ++ [last]) (hback : back ≠ []) : a ∈ above := by
  obtain ⟨middle, b, rfl⟩ := (List.eq_nil_or_concat' back).resolve_left hback
  rw [← List.cons_append, ← List.append_assoc] at h
  rw [← (List.append_inj' h rfl).1]
  simp

section Wrapped

variable {width fontSize : ℚ} (h : trim value ≠ "") (hm : 1 ≤ maxLines)
  (hlimit : SvgBuilderService.maxChars width fontSize = maxChars)
include h hm hlimit

theorem respectsBox_of_wordsFit
    (hfit : WordsFit (splitSpaces (trim value)) maxChars maxLines) :
    RespectsBox (splitSpaces (trim value)) maxChars maxLines
      (wrapText value width fontSize maxLines) := by
  subst hlimit
  obtain ⟨runs, hruns⟩ : ∃ runs,
      filled value (SvgBuilderService.maxChars width fontSize) = runs := ⟨_, rfl⟩
  have hne : ∀ run ∈ runs, run ≠ [] := by
    rw [← hruns]
    exact ne_nil_of_mem_filled value
  have hflatten : splitSpaces (trim value) = runs.flatten := by
    rw [← hruns, flatten_filled]
  rcases Nat.lt_or_ge maxLines runs.length with hmany | hfew
  · obtain ⟨above, last, hshown, heq⟩ := wrapText_cut h hm hruns hmany
    obtain ⟨hfits, hlast⟩ := shown_fits hfit hruns hshown
    have hmem : ∀ run ∈ above ++ [last], run ≠ [] := by
      intro run hrun
      rw [← hshown] at hrun
      exact hne run (List.mem_of_mem_take hrun)
    have hlength : above.length + 1 = maxLines := by
      have htake := congrArg List.length hshown
      rw [List.length_take, List.length_append, List.length_singleton] at htake
      omega
    have hdots : utf16Length (withoutDots (joinSpaces last)) ≤
        SvgBuilderService.maxChars width fontSize := by
      rcases hlast with hlast | ⟨-, hlast⟩
      · exact (utf16Length_withoutDots_le _).trans (of_decide_eq_true hlast)
      · exact hlast
    have hsplit : runs = (above ++ [last]) ++ runs.drop maxLines := by
      rw [← hshown, List.take_append_drop]
    rw [heq]
    refine ⟨by simp, by simp; omega, above, last, (runs.drop maxLines).flatten, _, _, ?_, rfl,
      forall₂_showsRun (fun run hrun => hmem run (List.mem_append_left _ hrun)) hfits,
      .inr ⟨hmem last (by simp), rfl, hdots⟩⟩
    rw [hflatten, congrArg List.flatten hsplit]
    simp
  · have hsome : runs ≠ [] := hruns ▸ filled_ne_nil h
    obtain ⟨above, last, hsplit⟩ := (List.eq_nil_or_concat' runs).resolve_left hsome
    have hshown : runs.take maxLines = above ++ [last] := by
      rw [List.take_of_length_le hfew, hsplit]
    obtain ⟨hfits, hlast⟩ := shown_fits hfit hruns hshown
    have hlast' : fitsIn (SvgBuilderService.maxChars width fontSize) last = true :=
      hlast.resolve_right fun hmany => Nat.not_lt.mpr hfew hmany.1
    rw [hsplit] at hne
    rw [wrapText_complete h hm hruns hfew, hsplit, List.map_append, List.map_singleton]
    have hlength := congrArg List.length hsplit
    rw [List.length_append, List.length_singleton] at hlength
    refine ⟨by simp, by simp; omega, above, last, [], _, _, ?_, rfl,
      forall₂_showsRun (fun run hrun => hne run (List.mem_append_left _ hrun)) hfits,
      .inl ⟨rfl, hne last (by simp), rfl, of_decide_eq_true hlast'⟩⟩
    rw [hflatten, hsplit]
    simp

/-- A word that is too wide and in sight is on the last line, which is cut. -/
theorem cut_of_respectsBox (hbox : RespectsBox (splitSpaces (trim value)) maxChars maxLines
      (wrapText value width fontSize maxLines))
    {front back : List (List String)} {word : String}
    (hruns : filled value maxChars = front ++ [word] :: back) (hroom : front.length < maxLines)
    (hlong : maxChars < utf16Length word) :
    front.length + 1 = maxLines ∧ back ≠ [] ∧ utf16Length (withoutDots word) ≤ maxChars := by
  subst hlimit
  obtain ⟨runs, last, rest, above, line, hall, hlines, hshows, hline⟩ := hbox.shows
  obtain ⟨hfits, htexts, hne⟩ := lines_of_forall₂ hshows
  have hnot : word ∉ above := fun hmem => Nat.not_lt.mpr (hfits word hmem) hlong
  rcases Nat.lt_or_ge maxLines (front ++ [word] :: back).length with hmany | hfew
  · obtain ⟨above', last', hshown, heq⟩ := wrapText_cut h hm hruns hmany
    rw [heq] at hlines
    obtain ⟨habove, hcut⟩ := List.append_inj' hlines rfl
    obtain ⟨k, rfl⟩ := Nat.exists_eq_add_of_lt hroom
    rw [Nat.add_assoc, List.take_length_add_append, List.take_succ_cons] at hshown
    have hback : back.take k = [] := by
      by_contra hsome
      have hmem : [word] ∈ above' := mem_of_append_cons_eq hshown hsome
      apply hnot
      rw [← habove]
      exact List.mem_map_of_mem hmem
    rw [hback] at hshown
    have hlast := (List.append_inj' hshown rfl).2
    have hk : k = 0 := by
      have hlength := congrArg List.length hback
      rw [List.length_append, List.length_cons] at hmany
      rw [List.length_take, List.length_nil] at hlength
      omega
    rw [hk] at hmany ⊢
    refine ⟨rfl, ?_, ?_⟩
    · rintro rfl
      simp at hmany
    · rw [← (List.cons.inj hlast).1, List.cons.injEq] at hcut
      have hwidth := utf16Length_append (withoutDots word) "…"
      have hsingle : utf16Length "…" = 1 := rfl
      have hellipsis : withoutDots word ++ "…" = line := hcut.1
      rcases hline with ⟨-, hline⟩ | hline
      · have hfit := hline.fits
        rw [← hellipsis] at hfit
        omega
      · have hsame := utf16Length_append (withoutDots (joinSpaces last)) "…"
        rw [← hline.text, ← hellipsis] at hsame
        have hfit := hline.fits
        omega
  · rw [wrapText_complete h hm hruns hfew, List.map_append, List.map_cons] at hlines
    have hback : back = [] := by
      by_contra hsome
      exact hnot (mem_of_append_cons_eq hlines (by simpa using hsome))
    subst hback
    obtain ⟨habove, hword⟩ := List.append_inj' hlines rfl
    have hword' : word = line := (List.cons.inj hword).1
    subst hword'
    rcases hline with ⟨-, hline⟩ | hline
    · exact absurd hline.fits (Nat.not_le.mpr hlong)
    · -- The words are as many as those of the lines, so the last line would be the word itself.
      have hfront : ∀ run ∈ front, run ≠ [] := fun run hrun =>
        ne_nil_of_mem_filled value run (hruns ▸ List.mem_append_left _ hrun)
      have hflatten : (filled value (SvgBuilderService.maxChars width fontSize)).flatten =
          splitSpaces (trim value) := flatten_filled value
      have hwidth : utf16Length (joinSpaces front.flatten) =
          utf16Length (joinSpaces runs.flatten) := by
        rw [← joinSpaces_map hfront, ← joinSpaces_map hne, htexts, habove]
      have hwords : front.flatten ++ [word] = runs.flatten ++ (last ++ rest) := by
        rw [← List.append_assoc, ← hall, ← hflatten, hruns]
        simp
      have hnonempty : ∀ w ∈ front.flatten ++ [word], w ≠ "" := by
        rw [hwords, ← List.append_assoc, ← hall]
        exact (splitSpaces_trim h).2
      have hrest := (eq_of_utf16Length_eq hnonempty hwords hwidth).2
      have hlast : last = [word] := by
        obtain ⟨first, last', rfl⟩ := List.exists_cons_of_ne_nil hline.nonempty
        obtain ⟨rfl, htail⟩ := List.cons.inj hrest
        rw [(List.append_eq_nil_iff.mp htail.symm).1]
      have htext := hline.text
      rw [hlast] at htext
      exact absurd htext (ne_withoutDots_append word)

theorem wordsFit_of_respectsBox (hbox : RespectsBox (splitSpaces (trim value)) maxChars maxLines
      (wrapText value width fontSize maxLines)) :
    WordsFit (splitSpaces (trim value)) maxChars maxLines := by
  intro before word after hwords hlong
  by_cases hset : ∃ n < maxLines, SetIn (fitsIn maxChars) before n
  · obtain ⟨n, hn, hset⟩ := hset
    have hword : fitsIn maxChars [word] = false := decide_eq_false (Nat.not_le.mpr hlong)
    have hshort : ∀ m, SetIn (fitsIn maxChars) before m →
        (fillLines (fitsIn maxChars) [] before).length ≤ m :=
      fun m hm => length_fillLines_le_of_setIn fitsIn_infix hm
    have hruns : filled value maxChars =
        fillLines (fitsIn maxChars) [] before ++
          [word] :: fillLines (fitsIn maxChars) [] after := by
      rw [filled, hwords, fillLines_of_long fitsIn_infix hword]
    obtain ⟨hlast, hback, hdots⟩ := cut_of_respectsBox h hm hlimit hbox hruns
      (Nat.lt_of_le_of_lt (hshort n hset) hn) hlong
    refine .inr ⟨?_, hdots, fun m hm hin => ?_⟩
    · rintro rfl
      exact hback rfl
    · have hle := hshort m hin
      omega
  · exact .inl fun n hn hin => hset ⟨n, hn, hin⟩

end Wrapped

theorem wordsFit_of_short {words : List String}
    (h : ∀ word ∈ words, utf16Length word ≤ maxChars) : WordsFit words maxChars maxLines := by
  rintro before word after rfl hlong
  exact absurd (h word (by simp)) (Nat.not_le.mpr hlong)

end SvgBuilderService

end CreativeBackend
