import CreativeBackend.Qr.PayloadHash

/-!
# A printer of scalars

A printer that shows null, booleans, numbers and strings as `JSON.stringify` does, except for
fractions and control characters, and that has the properties which the payload hash rests on.
-/

namespace CreativeBackend.JsonPrinter

open Delimited

/-- The decimal digits of a number. -/
def digits (n : Nat) : List Char := Nat.toDigits 10 n

def signed (z : Int) : List Char := if z < 0 then '-' :: digits z.natAbs else digits z.natAbs

/-- An integer, or a fraction as numerator and denominator. -/
def numText (q : Rat) : List Char :=
  if q.den = 1 then signed q.num else signed q.num ++ '/' :: digits q.den

/-- The characters of a string between its quotes. -/
def escaped : List Char → List Char
  | [] => ['"']
  | c :: cs => if c = '"' ∨ c = '\\' then '\\' :: c :: escaped cs else c :: escaped cs

def scalarText : Json → List Char
  | .null => ['n', 'u', 'l', 'l']
  | .bool true => ['t', 'r', 'u', 'e']
  | .bool false => ['f', 'a', 'l', 's', 'e']
  | .num q => numText q
  | .str s => '"' :: escaped s.toList
  | _ => []

def print (j : Json) : String := String.ofList (scalarText j)

theorem digits_injective {m n : Nat} (h : digits m = digits n) : m = n := by
  rw [← Nat.ofDigitChars_toDigits (b := 10) (by decide) (by decide) (n := m),
    ← Nat.ofDigitChars_toDigits (b := 10) (by decide) (by decide) (n := n)]
  exact congrArg (Nat.ofDigitChars 10 · 0) h

theorem isDigit_of_mem_digits {n : Nat} {c : Char} (h : c ∈ digits n) : c.isDigit = true :=
  Nat.isDigit_of_mem_toDigits (by decide) (by decide) h

theorem ne_of_isDigit {c d : Char} (hc : c.isDigit = true) (hd : d.isDigit = false) : c ≠ d := by
  rintro rfl
  rw [hc] at hd
  cases hd

theorem digits_head (n : Nat) : ∃ c rest, digits n = c :: rest ∧ c.isDigit = true := by
  cases hd : digits n with
  | nil => exact absurd hd Nat.toDigits_ne_nil
  | cons c rest =>
      exact ⟨c, rest, rfl, isDigit_of_mem_digits (n := n) (hd ▸ List.mem_cons_self)⟩

theorem signed_injective {y z : Int} (h : signed y = signed z) : y = z := by
  obtain ⟨c, rest, hy, hc⟩ := digits_head y.natAbs
  obtain ⟨d, rest', hz, hd⟩ := digits_head z.natAbs
  unfold signed at h
  split at h <;> split at h
  · have hnat := digits_injective (List.cons.inj h).2
    omega
  · rw [hz] at h
    exact absurd (List.cons.inj h).1.symm (ne_of_isDigit hd (by decide))
  · rw [hy] at h
    exact absurd (List.cons.inj h).1 (ne_of_isDigit hc (by decide))
  · have hnat := digits_injective h
    omega

theorem signed_mem {z : Int} {c : Char} (h : c ∈ signed z) : c = '-' ∨ c.isDigit = true := by
  unfold signed at h
  split at h
  · rcases List.mem_cons.mp h with rfl | h
    · exact .inl rfl
    · exact .inr (isDigit_of_mem_digits h)
  · exact .inr (isDigit_of_mem_digits h)


theorem numText_mem {q : Rat} {c : Char} (h : c ∈ numText q) :
    c = '-' ∨ c = '/' ∨ c.isDigit = true := by
  have hsigned : ∀ z : Int, c ∈ signed z → c = '-' ∨ c = '/' ∨ c.isDigit = true := by
    intro z hz
    rcases signed_mem hz with rfl | hc
    · exact .inl rfl
    · exact .inr (.inr hc)
  unfold numText at h
  split at h
  · exact hsigned _ h
  · rcases List.mem_append.mp h with h | h
    · exact hsigned _ h
    · rcases List.mem_cons.mp h with rfl | h
      · exact .inr (.inl rfl)
      · exact .inr (.inr (isDigit_of_mem_digits h))

/-- A numerator ends before the stroke of a fraction. -/
theorem signed_separates (z : Int) :
    Separates (· = '/') signed (fun _ => True) (· = ·) z := by
  apply separates_of_not_stop (fun _ _ _ _ h => signed_injective h) _ trivial
  intro y _ c hc hstop
  rcases signed_mem hc with rfl | hdigit
  · exact absurd hstop (by decide)
  · exact absurd hstop (ne_of_isDigit hdigit (by decide))

theorem numText_injective {p q : Rat} (h : numText p = numText q) : p = q := by
  have hcut : signed p.num ++ (if p.den = 1 then [] else '/' :: digits p.den) =
      signed q.num ++ (if q.den = 1 then [] else '/' :: digits q.den) := by
    have htext : ∀ r : Rat,
        numText r = signed r.num ++ (if r.den = 1 then [] else '/' :: digits r.den) := by
      intro r
      unfold numText
      split <;> simp
    rw [← htext, ← htext, h]
  have hstops : ∀ r : Rat,
      Stops (· = '/') (if r.den = 1 then [] else '/' :: digits r.den) := by
    intro r
    split
    · exact stops_nil
    · exact stops_cons.mpr rfl
  obtain ⟨hnum, hrest⟩ := signed_separates p.num q.num trivial _ _ (hstops p) (hstops q) hcut
  have hden : p.den = q.den := by
    split at hrest <;> split at hrest
    · next hp hq => rw [hp, hq]
    · cases hrest
    · cases hrest
    · exact digits_injective (List.cons.inj hrest).2
  exact Rat.ext hnum hden

/-- The closing quote of a string is the first one that is not escaped. -/
theorem escaped_separates (s : List Char) {t u v : List Char}
    (h : escaped s ++ u = escaped t ++ v) : s = t ∧ u = v := by
  have hlength : ∀ {c : Char} {cs rest rest' : List Char},
      c ≠ '"' → '"' :: rest ≠ (c :: cs) ++ rest' := by
    intro c cs rest rest' hc h
    exact hc (List.cons.inj h).1.symm
  have hopens : ∀ (c : Char) (cs : List Char), ∃ d ds, escaped (c :: cs) = d :: ds ∧ d ≠ '"' := by
    intro c cs
    unfold escaped
    split
    · exact ⟨_, _, rfl, by decide⟩
    · next hc => exact ⟨_, _, rfl, fun heq => hc (.inl heq)⟩
  induction s generalizing t with
  | nil =>
      cases t with
      | nil => exact ⟨rfl, by simpa [escaped] using h⟩
      | cons c cs =>
          obtain ⟨d, ds, htext, hd⟩ := hopens c cs
          rw [htext] at h
          exact absurd h (hlength hd)
  | cons c cs ih =>
      cases t with
      | nil =>
          obtain ⟨d, ds, htext, hd⟩ := hopens c cs
          rw [htext] at h
          exact absurd h.symm (hlength hd)
      | cons d ds =>
          rw [escaped, escaped] at h
          split at h <;> split at h
          · simp only [List.cons_append, List.cons.injEq, true_and] at h
            obtain ⟨rfl, hrest⟩ := h
            obtain ⟨rfl, huv⟩ := ih hrest
            exact ⟨rfl, huv⟩
          · next hd =>
              exact absurd (.inr (List.cons.inj h).1.symm) hd
          · next hc _ =>
              exact absurd (.inr (List.cons.inj h).1) hc
          · obtain ⟨rfl, hrest⟩ := List.cons.inj h
            obtain ⟨rfl, huv⟩ := ih hrest
            exact ⟨rfl, huv⟩

/-- What the text of a scalar begins with. -/
def Opening : Json → Char → Prop
  | .null, c => c = 'n'
  | .bool true, c => c = 't'
  | .bool false, c => c = 'f'
  | .num _, c => c = '-' ∨ c.isDigit = true
  | .str _, c => c = '"'
  | _, _ => False

theorem numText_head (q : Rat) : ∃ c rest, numText q = c :: rest ∧ (c = '-' ∨ c.isDigit = true) := by
  obtain ⟨c, rest, hdigits, hc⟩ := digits_head q.num.natAbs
  unfold numText signed
  split <;> split
  · exact ⟨_, _, rfl, .inl rfl⟩
  · exact ⟨c, rest, hdigits, .inr hc⟩
  · exact ⟨_, _, rfl, .inl rfl⟩
  · rw [hdigits]
    exact ⟨c, _, rfl, .inr hc⟩

theorem scalarText_head {j : Json} (h : j.isScalar = true) :
    ∃ c rest, scalarText j = c :: rest ∧ Opening j c := by
  cases j with
  | arr items => cases h
  | obj fields => cases h
  | num q => exact numText_head q
  | bool b => cases b <;> exact ⟨_, _, rfl, rfl⟩
  | _ => exact ⟨_, _, rfl, rfl⟩

/-- Scalars whose texts begin with one symbol are of one kind. -/
theorem kind_of_opening {a b : Json} {c : Char} (ha : Opening a c) (hb : Opening b c) :
    a = b ∨ (∃ p q, a = .num p ∧ b = .num q) ∨ ∃ s t, a = .str s ∧ b = .str t := by
  have hdigit : ∀ d ∈ ['n', 't', 'f', '"'], ¬ (d = '-' ∨ d.isDigit = true) := by simp
  rcases a with _ | (_ | _) | p | s | _ | _ <;> rcases b with _ | (_ | _) | q | t | _ | _ <;>
    simp only [Opening] at ha hb
  all_goals first
    | exact .inl rfl
    | exact .inr (.inl ⟨p, q, rfl, rfl⟩)
    | exact .inr (.inr ⟨s, t, rfl, rfl⟩)
    | exact absurd (ha.symm.trans hb) (by decide)
    | exact absurd (ha ▸ hb) (hdigit _ (by decide))
    | exact absurd (hb ▸ ha) (hdigit _ (by decide))

/-- Where texts of scalars continue alike, the scalars are the same. -/
theorem scalarText_separates {a b : Json} (ha : a.isScalar = true) (hb : b.isScalar = true)
    {u v : List Char} (hu : Stops EndsText u) (hv : Stops EndsText v)
    (h : scalarText a ++ u = scalarText b ++ v) : a = b := by
  obtain ⟨c, rest, hc, hopens⟩ := scalarText_head ha
  obtain ⟨d, rest', hd, hopens'⟩ := scalarText_head hb
  have hsame : c = d := by
    rw [hc, hd] at h
    exact (List.cons.inj h).1
  rw [← hsame] at hopens'
  rcases kind_of_opening hopens hopens' with rfl | ⟨p, q, rfl, rfl⟩ | ⟨s, t, rfl, rfl⟩
  · rfl
  · have hno : ∀ q : Rat, True → ∀ c ∈ numText q, ¬ EndsText c := by
      intro q _ c hc hends
      have hfalse : EndsText c → c ≠ '-' ∧ c ≠ '/' ∧ c.isDigit = false := by
        rintro (rfl | rfl | rfl | rfl) <;> decide
      obtain ⟨hminus, hstroke, hdigit⟩ := hfalse hends
      rcases numText_mem hc with h | h | h
      · exact hminus h
      · exact hstroke h
      · rw [hdigit] at h
        cases h
    have hnum := separates_of_not_stop (fun _ _ _ _ h => numText_injective h) hno
      (trivial : True) q trivial u v hu hv h
    rw [hnum.1]
  · rw [scalarText, scalarText, List.cons_append, List.cons_append, List.cons.injEq] at h
    rw [String.toList_injective (escaped_separates _ h.2).1]

theorem toList_print (j : Json) : (print j).toList = scalarText j := String.toList_ofList

theorem printsScalars : PrintsScalars print where
  injective a b ha hb h := by
    apply scalarText_separates ha hb stops_nil stops_nil
    rw [← toList_print, ← toList_print, h]
  delimited a b ha hb u v hu hv h := by
    rw [toList_print, toList_print] at h
    rw [scalarText_separates ha hb hu hv h]
  opens a ha := by
    obtain ⟨c, rest, htext, hc⟩ := scalarText_head ha
    refine ⟨c, rest, by rw [toList_print, htext], ?_⟩
    intro hmem
    have hbracket : ∀ d ∈ ['[', ']', '\x7b', '\x7d'],
        d ∉ ['n', 't', 'f', '"', '-'] ∧ d.isDigit = false := by simp
    obtain ⟨hletter, hdigit⟩ := hbracket c hmem
    rcases a with _ | (_ | _) | q | s | _ | _ <;> simp only [Opening] at hc
    · exact hletter (by simp [hc])
    · exact hletter (by simp [hc])
    · exact hletter (by simp [hc])
    · rcases hc with rfl | hc
      · exact hletter (by simp)
      · rw [hdigit] at hc
        cases hc
    · exact hletter (by simp [hc])

end CreativeBackend.JsonPrinter
