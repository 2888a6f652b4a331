import CreativeBackend.Runtime.Delimited
import CreativeBackend.Runtime.JsonValues
import CreativeBackend.Runtime.Uri
import Mathlib.Algebra.Group.Int.Defs
import Mathlib.Algebra.Group.Nat.Defs

/-!
# JSON texts

`JSON.stringify` and `JSON.parse`. An object whose properties are strings, booleans, integers and
null is read back from its text.

## Implementation notes

`nearest` is the double that is nearest to a number; an integer up to `2 ^ 53` is one itself. A
string has no lone surrogates, for which the reader puts the replacement character.
-/

namespace CreativeBackend.JsonText

open Delimited

/-- An integer up to `2 ^ 53`. -/
def isSafe (q : Rat) : Bool := q.den == 1 && q.num.natAbs ≤ 9007199254740992

/-! ## Printing -/

/-- The letters of the short escapes, with what they stand for. -/
def escapes : List (Char × Char) :=
  [('"', '"'), ('\\', '\\'), ('b', Char.ofNat 8), ('f', Char.ofNat 12), ('n', '\n'), ('r', '\r'),
    ('t', '\t')]

def hexDigits : List Char := "0123456789abcdef".toList

def hexDigit (n : Nat) : Char := hexDigits.getD n '0'

/-- The escape of a code unit. -/
def unitText (n : Nat) : List Char :=
  ['\\', 'u', hexDigit (n / 4096), hexDigit (n / 256 % 16), hexDigit (n / 16 % 16),
    hexDigit (n % 16)]

def charText (c : Char) : List Char :=
  match escapes.find? fun e => e.2 = c with
  | some e => ['\\', e.1]
  | none => if c.toNat < 32 then unitText c.toNat else [c]

def stringText (s : String) : List Char := '"' :: (s.toList.flatMap charText ++ ['"'])

/-- The digits of an integer after its sign. -/
def integerText (n : Int) : List Char :=
  if n < 0 then '-' :: Nat.toDigits 10 n.natAbs else Nat.toDigits 10 n.natAbs

def numberText (rt : Runtime) (q : Rat) : List Char :=
  if isSafe q = true then integerText q.num else (rt.numberToString q).toList

mutual

def text (rt : Runtime) : Json → List Char
  | .null => "null".toList
  | .bool b => if b then "true".toList else "false".toList
  | .num q => numberText rt q
  | .str s => stringText s
  | .arr items => '[' :: closed ',' ']' (itemTexts rt items)
  | .obj fields => '\x7b' :: closed ',' '\x7d' (fieldTexts rt fields)

def itemTexts (rt : Runtime) : List Json → List (List Char)
  | [] => []
  | item :: items => text rt item :: itemTexts rt items

def fieldTexts (rt : Runtime) : List (String × Json) → List (List Char)
  | [] => []
  | (k, item) :: fields => (stringText k ++ ':' :: text rt item) :: fieldTexts rt fields

end

/-- `JSON.stringify(value)`. -/
def stringify (rt : Runtime) (j : Json) : String := String.ofList (text rt j)

/-! ## Reading -/

def isSpace (c : Char) : Bool := c == ' ' || c == '\t' || c == '\n' || c == '\r'

def skipSpace (text : List Char) : List Char := text.dropWhile isSpace

/-- The text after a symbol, which white space may precede. -/
def symbol (c : Char) (text : List Char) : Option (List Char) :=
  match skipSpace text with
  | [] => none
  | d :: rest => if d = c then some rest else none

/-- The code unit of hexadecimal digits. -/
def unit (digits : List Char) : Option Nat :=
  (digits.mapM Uri.hexValue).map fun values => values.foldl (fun n d => 16 * n + d) 0

/-- The characters of a string up to its closing quote: their code points, and the code units of
escapes. -/
def units : List Char → Option (List Nat × List Char)
  | [] => none
  | c :: rest =>
      if c = '"' then some ([], rest)
      else if c.toNat < 32 then none
      else if c = '\\' then
        match rest with
        | [] => none
        | e :: rest =>
            match (('/', '/') :: escapes).find? fun p => p.1 = e with
            | some p => (units rest).map fun r => (p.2.toNat :: r.1, r.2)
            | none =>
                if e = 'u' then
                  match rest with
                  | high :: high' :: low :: low' :: rest =>
                      (unit [high, high', low, low']).bind fun n =>
                        (units rest).map fun r => (n :: r.1, r.2)
                  | _ => none
                else none
      else (units rest).map fun r => (c.toNat :: r.1, r.2)

def isHigh (n : Nat) : Bool := 0xD800 ≤ n && n < 0xDC00

def isLow (n : Nat) : Bool := 0xDC00 ≤ n && n < 0xE000

/-- The character of a code point; a lone surrogate is replaced. -/
def charOf (n : Nat) : Char := if isHigh n || isLow n then Char.ofNat 0xFFFD else Char.ofNat n

/-- The text of code units, of which two surrogates are one character. -/
def joinUnits : List Nat → List Char
  | [] => []
  | [n] => [charOf n]
  | n :: m :: rest =>
      if isHigh n && isLow m then
        Char.ofNat (0x10000 + (n - 0xD800) * 0x400 + (m - 0xDC00)) :: joinUnits rest
      else charOf n :: joinUnits (m :: rest)

/-- A string after its opening quote. -/
def string (text : List Char) : Option (String × List Char) :=
  (units text).map fun r => (String.ofList (joinUnits r.1), r.2)

/-- The digits that a text begins with. -/
def digits (text : List Char) : Option (List Char × List Char) :=
  if (text.takeWhile Char.isDigit).isEmpty then none
  else some (text.takeWhile Char.isDigit, text.dropWhile Char.isDigit)

/-- The digits after a point. -/
def fraction : List Char → Option (List Char × List Char)
  | [] => some ([], [])
  | c :: rest => if c = '.' then digits rest else some ([], c :: rest)

def exponent : List Char → Option (Int × List Char)
  | [] => some (0, [])
  | c :: rest =>
      if c = 'e' ∨ c = 'E' then
        match rest with
        | [] => none
        | d :: more =>
            if d = '-' then (digits more).map fun r => (-Int.ofNat (Nat.ofDigitChars 10 r.1 0), r.2)
            else (digits (if d = '+' then more else d :: more)).map fun r =>
              (Int.ofNat (Nat.ofDigitChars 10 r.1 0), r.2)
      else some (0, c :: rest)

/-- `m * 10 ^ e`. -/
def scaled (m e : Int) : Rat := mkRat (m * 10 ^ e.toNat) (10 ^ (-e).toNat)

/-- The significand and the exponent of a number without its sign. -/
def magnitude (text : List Char) : Option ((Nat × Int) × List Char) := do
  let (whole, rest) ← digits text
  if whole.length > 1 ∧ whole.head? = some '0' then none
  else do
    let (part, rest) ← fraction rest
    let (power, rest) ← exponent rest
    return ((Nat.ofDigitChars 10 (whole ++ part) 0, power - part.length), rest)

section

variable (nearest : Rat → Rat)

def toDouble (q : Rat) : Rat := if isSafe q = true then q else nearest q

def number : List Char → Option (Json × List Char)
  | [] => none
  | c :: rest =>
      if c = '-' then
        (magnitude rest).map fun r => (.num (toDouble nearest (scaled (-r.1.1) r.1.2)), r.2)
      else (magnitude (c :: rest)).map fun r => (.num (toDouble nearest (scaled r.1.1 r.1.2)), r.2)

def keyword (word : String) (j : Json) (text : List Char) : Option (Json × List Char) :=
  if word.toList.isPrefixOf text then some (j, text.drop word.length) else none

def scalar (text : List Char) : Option (Json × List Char) :=
  keyword "null" .null text <|> keyword "true" (.bool true) text <|>
    keyword "false" (.bool false) text <|> number nearest text

/-- An object with one more property read: the last of one name counts. -/
def putField (fields : List (String × Json)) (k : String) (j : Json) : List (String × Json) :=
  if fields.any fun f => f.1 = k then fields.map fun f => if f.1 = k then (k, j) else f
  else fields ++ [(k, j)]

def object (fields : List (String × Json)) : Json :=
  .obj (fields.foldl (fun read f => putField read f.1 f.2) [])

mutual

/-- The value that a text begins with. -/
def value : Nat → List Char → Option (Json × List Char)
  | 0, _ => none
  | fuel + 1, text =>
      match symbol '"' text with
      | some rest => (string rest).map fun r => (.str r.1, r.2)
      | none =>
      match symbol '[' text with
      | some rest =>
          match symbol ']' rest with
          | some rest => some (.arr [], rest)
          | none => (items fuel rest).map fun r => (.arr r.1, r.2)
      | none =>
      match symbol '\x7b' text with
      | some rest =>
          match symbol '\x7d' rest with
          | some rest => some (.obj [], rest)
          | none => (members fuel rest).map fun r => (object r.1, r.2)
      | none => scalar nearest (skipSpace text)

/-- The items of an array and its closing bracket. -/
def items : Nat → List Char → Option (List Json × List Char)
  | 0, _ => none
  | fuel + 1, text => do
      let (item, rest) ← value fuel text
      match symbol ',' rest with
      | some rest => do
          let (more, rest) ← items fuel rest
          return (item :: more, rest)
      | none => do
          let rest ← symbol ']' rest
          return ([item], rest)

/-- The properties of an object and its closing brace. -/
def members : Nat → List Char → Option (List (String × Json) × List Char)
  | 0, _ => none
  | fuel + 1, text => do
      let rest ← symbol '"' text
      let (k, rest) ← string rest
      let rest ← symbol ':' rest
      let (item, rest) ← value fuel rest
      match symbol ',' rest with
      | some rest => do
          let (more, rest) ← members fuel rest
          return ((k, item) :: more, rest)
      | none => do
          let rest ← symbol '\x7d' rest
          return ([(k, item)], rest)

end

/-- `JSON.parse(text)`; `none` is a `SyntaxError`. -/
def parse (text : String) : Option Json := do
  let (j, rest) ← value nearest (text.length + 1) text.toList
  if (skipSpace rest).isEmpty then some j else none

end

/-! ## Strings are read back -/

theorem mem_escapes {c : Char} {e : Char × Char} (h : (escapes.find? fun e => e.2 = c) = some e) :
    e ∈ escapes ∧ e.2 = c := ⟨List.mem_of_find?_eq_some h, by simpa using List.find?_some h⟩

/-- The letter of a short escape is read as what it stands for. -/
theorem find?_escape {e : Char × Char} (h : e ∈ escapes) :
    ((('/', '/') :: escapes).find? fun p => p.1 = e.1) = some e := by
  have hall : ∀ e ∈ escapes, ((('/', '/') :: escapes).find? fun p => p.1 = e.1) = some e := by
    decide
  exact hall e h

theorem unit_unitText {n : Nat} (h : n < 32) :
    unit [hexDigit (n / 4096), hexDigit (n / 256 % 16), hexDigit (n / 16 % 16),
      hexDigit (n % 16)] = some n := by
  have hall : ∀ n < 32, unit [hexDigit (n / 4096), hexDigit (n / 256 % 16),
      hexDigit (n / 16 % 16), hexDigit (n % 16)] = some n := by decide +kernel
  exact hall n h

/-- A character that has no short escape is neither the quote nor the backslash. -/
theorem ne_of_find?_escapes {c : Char} (h : (escapes.find? fun e => e.2 = c) = none) :
    c ≠ '"' ∧ c ≠ '\\' := by
  rw [List.find?_eq_none] at h
  constructor
  · rintro rfl
    exact absurd (h ('"', '"') (by decide)) (by decide)
  · rintro rfl
    exact absurd (h ('\\', '\\') (by decide)) (by decide)

theorem units_charText (c : Char) (rest : List Char) :
    units (charText c ++ rest) = (units rest).map fun r => (c.toNat :: r.1, r.2) := by
  have hquote : ('\\' : Char) ≠ '"' := by decide
  have hcode : ¬ ('\\' : Char).toNat < 32 := by decide
  unfold charText
  cases hfind : escapes.find? fun e => e.2 = c with
  | some e =>
      obtain ⟨hmem, rfl⟩ := mem_escapes hfind
      simp only [List.cons_append, List.nil_append]
      rw [units.eq_def]
      simp only [hquote, hcode, if_false, if_true, find?_escape hmem]
  | none =>
      obtain ⟨hne, hne'⟩ := ne_of_find?_escapes hfind
      by_cases hcontrol : c.toNat < 32
      · have hletter : ((('/', '/') :: escapes).find? fun p => p.1 = 'u') = none := by decide
        simp only [hcontrol, if_true, unitText, List.cons_append, List.nil_append]
        rw [units.eq_def]
        simp only [hquote, hcode, if_false, if_true, hletter, unit_unitText hcontrol,
          Option.bind_some]
      · simp only [hcontrol, if_false, List.cons_append, List.nil_append]
        rw [units.eq_def]
        simp only [hne, hcontrol, hne', if_false]

theorem units_text (cs rest : List Char) :
    units (cs.flatMap charText ++ '"' :: rest) = some (cs.map Char.toNat, rest) := by
  induction cs with
  | nil =>
      rw [List.flatMap_nil, List.nil_append, units.eq_def]
      simp
  | cons c cs ih =>
      rw [List.flatMap_cons, List.append_assoc, units_charText, ih, Option.map_some, List.map_cons]

/-- No character is a surrogate. -/
theorem not_surrogate (c : Char) : isHigh c.toNat = false ∧ isLow c.toNat = false := by
  have hvalid : c.toNat < 0xD800 ∨ 0xDFFF < c.toNat ∧ c.toNat < 0x110000 := c.valid
  simp only [isHigh, isLow, Bool.and_eq_false_iff, decide_eq_false_iff_not]
  omega

theorem joinUnits_map (cs : List Char) : joinUnits (cs.map Char.toNat) = cs := by
  have hchar : ∀ c : Char, charOf c.toNat = c := by
    intro c
    obtain ⟨hhigh, hlow⟩ := not_surrogate c
    simp [charOf, hhigh, hlow, Char.ofNat_toNat]
  induction cs with
  | nil => rfl
  | cons c cs ih =>
      cases cs with
      | nil => rw [List.map_cons, List.map_nil, joinUnits, hchar]
      | cons d cs =>
          rw [List.map_cons] at ih
          rw [List.map_cons, List.map_cons, joinUnits, (not_surrogate c).1, Bool.false_and, ih,
            hchar]
          rfl

theorem string_text (s : String) (rest : List Char) :
    string (s.toList.flatMap charText ++ '"' :: rest) = some (s, rest) := by
  rw [string, units_text, Option.map_some, joinUnits_map, String.ofList_toList]

/-! ## Numbers are read back -/

/-- What follows a value in an array or an object. -/
def Follows (c : Char) : Prop := c = ',' ∨ c = ']' ∨ c = '\x7d'

theorem Follows.plain {c : Char} (h : Follows c) :
    c.isDigit = false ∧ c ≠ '.' ∧ c ≠ 'e' ∧ c ≠ 'E' ∧ isSpace c = false := by
  rcases h with rfl | rfl | rfl <;> decide

theorem digits_append {ds rest : List Char} (hne : ds ≠ []) (hds : ∀ c ∈ ds, c.isDigit = true)
    (hrest : Stops Follows rest) : digits (ds ++ rest) = some (ds, rest) := by
  have htake : rest.takeWhile Char.isDigit = [] ∧ rest.dropWhile Char.isDigit = rest := by
    cases rest with
    | nil => simp
    | cons c rest => simp [(Follows.plain (stops_cons.mp hrest)).1]
  rw [digits, List.takeWhile_append_of_pos hds, List.dropWhile_append_of_pos hds, htake.1, htake.2,
    List.append_nil, List.isEmpty_eq_false_iff.mpr hne]
  rfl

/-- Only zero begins with a zero. -/
theorem head?_toDigits (n : Nat) (h : (Nat.toDigits 10 n).head? = some '0') : n = 0 := by
  induction n using Nat.strong_induction_on with
  | _ n ih =>
      by_cases hn : n < 10
      · have hall : ∀ n < 10, (Nat.toDigits 10 n).head? = some '0' → n = 0 := by decide
        exact hall n hn h
      · rw [Nat.toDigits_of_base_le (by decide) (by omega), List.head?_append_of_ne_nil _
          Nat.toDigits_ne_nil] at h
        have hzero := ih (n / 10) (by omega) h
        omega

theorem magnitude_text (n : Nat) {rest : List Char} (hrest : Stops Follows rest) :
    magnitude (Nat.toDigits 10 n ++ rest) = some ((n, 0), rest) := by
  have hdigits : ∀ c ∈ Nat.toDigits 10 n, c.isDigit = true := fun c hc =>
    Nat.isDigit_of_mem_toDigits (by decide) (by decide) hc
  have hlead : ¬ ((Nat.toDigits 10 n).length > 1 ∧ (Nat.toDigits 10 n).head? = some '0') := by
    rintro ⟨hlength, hhead⟩
    rw [head?_toDigits n hhead] at hlength
    exact absurd hlength (by decide)
  have hfraction : fraction rest = some ([], rest) := by
    cases rest with
    | nil => rfl
    | cons c rest => rw [fraction, if_neg (Follows.plain (stops_cons.mp hrest)).2.1]
  have hexponent : exponent rest = some (0, rest) := by
    cases rest with
    | nil => rfl
    | cons c rest =>
        obtain ⟨-, -, he, he', -⟩ := Follows.plain (stops_cons.mp hrest)
        rw [exponent.eq_def]
        simp [he, he']
  simp [magnitude, digits_append Nat.toDigits_ne_nil hdigits hrest, hlead, hfraction, hexponent,
    Nat.ofDigitChars_ten_toDigits]

/-- The text of an integer shows it. -/
theorem integerText_injective {m n : Int} (h : integerText m = integerText n) : m = n := by
  have hdigits : ∀ a b : Nat, Nat.toDigits 10 a = Nat.toDigits 10 b → a = b := by
    intro a b hab
    rw [← Nat.ofDigitChars_ten_toDigits (n := a), hab, Nat.ofDigitChars_ten_toDigits]
  have hsign : ∀ a (l : List Char), Nat.toDigits 10 a ≠ '-' :: l := by
    intro a l hal
    have hminus : '-' ∈ Nat.toDigits 10 a := by
      rw [hal]
      exact List.mem_cons_self
    exact absurd (Nat.isDigit_of_mem_toDigits (by decide) (by decide) hminus) (by decide)
  unfold integerText at h
  split at h <;> split at h
  · have habs := hdigits _ _ (List.cons.inj h).2
    omega
  · exact absurd h.symm (hsign _ _)
  · exact absurd h (hsign _ _)
  · have habs := hdigits _ _ h
    omega

/-! ## Values are read back -/

section

variable (rt : Runtime) (nearest : Rat → Rat) {c : Char} {rest : List Char}

theorem skipSpace_cons (h : isSpace c = false) : skipSpace (c :: rest) = c :: rest := by
  rw [skipSpace, List.dropWhile_cons_of_neg (by rw [h]; decide)]

theorem symbol_cons {d : Char} (h : isSpace c = false) :
    symbol d (c :: rest) = if c = d then some rest else none := by
  simp only [symbol, skipSpace_cons h]

theorem symbol_self (h : isSpace c = false) : symbol c (c :: rest) = some rest := by
  rw [symbol_cons h, if_pos rfl]

theorem number_text (n : Int) (hrest : Stops Follows rest) :
    number nearest (integerText n ++ rest) =
      some (.num (toDouble nearest (mkRat n 1)), rest) := by
  have hscaled : ∀ m : Int, scaled m 0 = mkRat m 1 := by
    intro m
    simp [scaled]
  unfold integerText
  split
  · next hneg =>
      have habs : -(n.natAbs : Int) = n := by omega
      rw [List.cons_append, number, if_pos rfl, magnitude_text _ hrest, Option.map_some, hscaled,
        habs]
  · next hpos =>
      have habs : (n.natAbs : Int) = n := by omega
      have hmagnitude := magnitude_text n.natAbs hrest
      cases hdigits : Nat.toDigits 10 n.natAbs with
      | nil => exact absurd hdigits Nat.toDigits_ne_nil
      | cons d ds =>
          have hd : d.isDigit = true := Nat.isDigit_of_mem_toDigits (b := 10) (n := n.natAbs)
            (by decide) (by decide) (by rw [hdigits]; exact List.mem_cons_self)
          have hne : d ≠ '-' := by
            rintro rfl
            exact absurd hd (by decide)
          rw [hdigits] at hmagnitude
          rw [List.cons_append] at hmagnitude ⊢
          rw [number, if_neg hne, hmagnitude, Option.map_some, hscaled, habs]

/-- The first character of a number. -/
theorem integerText_opens (n : Int) :
    ∃ d ds, integerText n = d :: ds ∧ (d = '-' ∨ d.isDigit = true) := by
  unfold integerText
  split
  · exact ⟨_, _, rfl, .inl rfl⟩
  · cases hdigits : Nat.toDigits 10 n.natAbs with
    | nil => exact absurd hdigits Nat.toDigits_ne_nil
    | cons d ds =>
        have hd : d.isDigit = true := Nat.isDigit_of_mem_toDigits (b := 10) (n := n.natAbs)
          (by decide) (by decide) (by rw [hdigits]; exact List.mem_cons_self)
        exact ⟨d, ds, rfl, .inr hd⟩

theorem keyword_self (word : String) (j : Json) :
    keyword word j (word.toList ++ rest) = some (j, rest) := by
  have hprefix : word.toList.isPrefixOf (word.toList ++ rest) = true :=
    List.isPrefixOf_iff_prefix.mpr (List.prefix_append _ _)
  rw [keyword, if_pos hprefix, ← String.length_toList, List.drop_left]

/-- A text that begins with another letter is not the keyword. -/
theorem keyword_eq_none {word : String} {j : Json} {d : Char} {ds : List Char}
    (hword : word.toList = d :: ds) (hne : d ≠ c) : keyword word j (c :: rest) = none := by
  have hprefix : word.toList.isPrefixOf (c :: rest) = false := by
    rw [hword, List.isPrefixOf_cons_cons, beq_eq_false_iff_ne.mpr hne, Bool.false_and]
  rw [keyword, hprefix]
  rfl

/-- What is neither a string, an array nor an object. -/
theorem value_scalar (fuel : Nat) (hspace : isSpace c = false) (hquote : c ≠ '"')
    (hbracket : c ≠ '[') (hbrace : c ≠ '\x7b') :
    value nearest (fuel + 1) (c :: rest) = scalar nearest (c :: rest) := by
  rw [value, symbol_cons hspace, if_neg hquote, symbol_cons hspace, if_neg hbracket,
    symbol_cons hspace, if_neg hbrace, skipSpace_cons hspace]

/-- A value that is neither an array nor an object, nor a number that is no small integer. -/
def Plain (j : Json) : Prop := j.isScalar = true ∧ ∀ q, j = .num q → isSafe q = true

theorem value_text {j : Json} (hj : Plain j) (fuel : Nat) (hrest : Stops Follows rest) :
    value nearest (fuel + 1) (text rt j ++ rest) = some (j, rest) := by
  cases j with
  | null =>
      have htext : text rt .null ++ rest = 'n' :: ("ull".toList ++ rest) := rfl
      rw [htext, value_scalar nearest fuel (by decide) (by decide) (by decide) (by decide), ← htext,
        text, scalar, keyword_self]
      rfl
  | bool b =>
      cases b with
      | true =>
          have htext : text rt (.bool true) ++ rest = 't' :: ("rue".toList ++ rest) := rfl
          rw [htext, value_scalar nearest fuel (by decide) (by decide) (by decide) (by decide),
            scalar, keyword_eq_none (d := 'n') rfl (by decide), ← htext, text, if_pos rfl,
            keyword_self]
          rfl
      | false =>
          have htext : text rt (.bool false) ++ rest = 'f' :: ("alse".toList ++ rest) := rfl
          rw [htext, value_scalar nearest fuel (by decide) (by decide) (by decide) (by decide),
            scalar, keyword_eq_none (d := 'n') rfl (by decide),
            keyword_eq_none (d := 't') rfl (by decide), ← htext, text,
            if_neg (by decide), keyword_self]
          rfl
  | num q =>
      have hsafe := hj.2 q rfl
      have hden : q.den = 1 := by
        simp only [isSafe, Bool.and_eq_true, beq_iff_eq] at hsafe
        exact hsafe.1
      have hq : mkRat q.num 1 = q := by
        rw [← hden, Rat.mkRat_self]
      have hnumber := number_text nearest q.num hrest
      obtain ⟨d, ds, htext, hd⟩ := integerText_opens q.num
      have hne : ∀ x : Char, ¬ (x = '-' ∨ x.isDigit = true) → d ≠ x := by
        rintro x hx rfl
        exact hx hd
      have hspace : isSpace d = false := by
        simp [isSpace, hne ' ' (by decide), hne '\t' (by decide), hne '\n' (by decide),
          hne '\r' (by decide)]
      rw [hq, toDouble, if_pos hsafe] at hnumber
      rw [text, numberText, if_pos hsafe]
      rw [htext, List.cons_append] at hnumber ⊢
      rw [value_scalar nearest fuel hspace (hne '"' (by decide)) (hne '[' (by decide))
        (hne '\x7b' (by decide)), scalar, keyword_eq_none rfl (hne 'n' (by decide)).symm,
        keyword_eq_none rfl (hne 't' (by decide)).symm,
        keyword_eq_none rfl (hne 'f' (by decide)).symm, hnumber]
      rfl
  | str s =>
      rw [text, stringText, List.cons_append, List.append_assoc, value, symbol_self (by decide)]
      simp only [List.cons_append, List.nil_append, string_text, Option.map_some]
  | arr items => cases hj.1
  | obj fields => cases hj.1

/-- Properties with plain values are read back. -/
theorem members_text {fields : List (String × Json)} (hne : fields ≠ [])
    (hfields : ∀ f ∈ fields, Plain f.2) {fuel : Nat} (hfuel : fields.length < fuel) :
    members nearest fuel (closed ',' '\x7d' (fieldTexts rt fields) ++ rest) =
      some (fields, rest) := by
  induction fields generalizing fuel with
  | nil => exact absurd rfl hne
  | cons field fields ih =>
      obtain ⟨k, j⟩ := field
      obtain ⟨fuel, rfl⟩ : ∃ n, fuel = n + 2 := ⟨fuel - 2, by rw [List.length_cons] at hfuel; omega⟩
      obtain ⟨hj, hmore⟩ := List.forall_mem_cons.mp hfields
      have hstops : Stops Follows (following ',' '\x7d' (fieldTexts rt fields) ++ rest) :=
        stops_following (.inl rfl) (.inr (.inr rfl)) _ _
      have hvalue := value_text rt nearest hj fuel hstops
      rw [fieldTexts, closed_cons, stringText, members]
      simp only [List.cons_append, List.append_assoc, List.nil_append,
        symbol_self (c := '"') (by decide), symbol_self (c := ':') (by decide), string_text,
        Option.bind_eq_bind, Option.bind_some, hvalue]
      cases fields with
      | nil =>
          rw [fieldTexts, following, List.cons_append, symbol_cons (by decide), if_neg (by decide),
            symbol_self (by decide)]
          rfl
      | cons next fields =>
          have hread := ih (List.cons_ne_nil _ _) hmore
            (Nat.lt_of_succ_lt_succ hfuel : _ < fuel + 1)
          obtain ⟨k', j'⟩ := next
          rw [fieldTexts] at hread ⊢
          rw [following, List.cons_append, symbol_self (by decide)]
          simp only [hread, Option.bind_some]
          rfl

theorem foldl_putField {fields read : List (String × Json)}
    (h : ((read ++ fields).map (·.1)).Nodup) :
    fields.foldl (fun read f => putField read f.1 f.2) read = read ++ fields := by
  induction fields generalizing read with
  | nil => rw [List.foldl_nil, List.append_nil]
  | cons field fields ih =>
      have hnew : (read.any fun f => f.1 = field.1) = false := by
        rw [List.any_eq_false]
        intro f hf hsame
        rw [List.map_append, List.nodup_append] at h
        exact h.2.2 f.1 (List.mem_map_of_mem hf) field.1 (List.mem_map_of_mem List.mem_cons_self)
          (by simpa using hsame)
      rw [List.foldl_cons, putField, hnew, if_neg (by decide), ih (by simpa using h)]
      simp

theorem length_following (sep close : Char) (texts : List (List Char)) :
    texts.length < (following sep close texts).length := by
  induction texts with
  | nil => simp [following]
  | cons t ts ih =>
      rw [following, closed_cons, List.length_cons, List.length_cons, List.length_append]
      omega

theorem length_closed (sep close : Char) (texts : List (List Char)) :
    texts.length ≤ (closed sep close texts).length := by
  cases texts with
  | nil => simp [closed_nil]
  | cons t ts =>
      have hlength := length_following sep close ts
      rw [closed_cons, List.length_cons, List.length_append]
      omega

theorem length_fieldTexts (fields : List (String × Json)) :
    (fieldTexts rt fields).length = fields.length := by
  induction fields with
  | nil => rfl
  | cons field fields ih => rw [fieldTexts, List.length_cons, List.length_cons, ih]

/-- An object of plain values is read back from its text. -/
theorem parse_stringify {fields : List (String × Json)}
    (hne : fields ≠ []) (hkeys : (fields.map (·.1)).Nodup) (hfields : ∀ f ∈ fields, Plain f.2) :
    parse nearest (stringify rt (.obj fields)) = some (.obj fields) := by
  have htext : (stringify rt (.obj fields)).toList =
      '\x7b' :: closed ',' '\x7d' (fieldTexts rt fields) := by
    rw [stringify, String.toList_ofList, text]
  have hfuel : fields.length < (stringify rt (.obj fields)).length := by
    have hlength := length_closed ',' '\x7d' (fieldTexts rt fields)
    rw [length_fieldTexts rt] at hlength
    rw [← String.length_toList, htext, List.length_cons]
    omega
  have hmembers : members nearest (stringify rt (.obj fields)).length
      (closed ',' '\x7d' (fieldTexts rt fields) ++ []) = some (fields, []) :=
    members_text rt nearest hne hfields hfuel
  have hobject : object fields = .obj fields := by
    rw [object, foldl_putField (by simpa using hkeys), List.nil_append]
  have hopens : ∃ more, closed ',' '\x7d' (fieldTexts rt fields) = '"' :: more := by
    cases fields with
    | nil => exact absurd rfl hne
    | cons field fields =>
        obtain ⟨k, j⟩ := field
        exact ⟨_, by rw [fieldTexts, closed_cons, stringText]; rfl⟩
  obtain ⟨more, hmore⟩ := hopens
  rw [List.append_nil] at hmembers
  have hvalue : value nearest ((stringify rt (.obj fields)).length + 1)
      ('\x7b' :: closed ',' '\x7d' (fieldTexts rt fields)) = some (.obj fields, []) := by
    rw [value, symbol_cons (by decide), if_neg (by decide), symbol_cons (by decide),
      if_neg (by decide), symbol_self (by decide)]
    rw [hmore] at hmembers ⊢
    have hclose : symbol '\x7d' ('"' :: more) = none := by
      rw [symbol_cons (by decide), if_neg (by decide)]
    simp only [hclose, hmembers, Option.map_some, hobject]
  rw [parse, htext, hvalue]
  rfl

end

end CreativeBackend.JsonText
