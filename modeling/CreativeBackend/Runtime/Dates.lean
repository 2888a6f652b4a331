import CreativeBackend.Runtime.Calendar
import CreativeBackend.Runtime.Values

/-!
# Dates

The functions of `Date` in UTC, on times in milliseconds, and the texts of dates.

## Implementation notes

`TimeClip` is left out: it refuses only times that are more than 273790 years from the epoch.
-/

namespace CreativeBackend

namespace Date

open Calendar

def msPerDay : Int := 86400000

/-- The number of the day of a time. -/
def day (t : Time) : Int := t / msPerDay

def timeWithinDay (t : Time) : Int := t % msPerDay

def getUTCFullYear (t : Time) : Int := yearOf (day t)

def getUTCMonth (t : Time) : Int := monthOf (day t)

def getUTCDate (t : Time) : Int := dateOf (day t)

/-- The day of the week, from Sunday on. -/
def getUTCDay (t : Time) : Int := (day t + 4) % 7

/-- `Date.UTC(year, month, date)`. The years from 0 to 99 are those after 1900. -/
def utc (year month date : Int) : Time :=
  dayOf (if 0 ≤ year ∧ year ≤ 99 then 1900 + year else year) month date * msPerDay

/-- `date.setUTCDate(value)`. -/
def setUTCDate (t : Time) (value : Int) : Time :=
  dayOf (getUTCFullYear t) (getUTCMonth t) value * msPerDay + timeWithinDay t

/-- `date.setUTCMonth(value)`. -/
def setUTCMonth (t : Time) (value : Int) : Time :=
  dayOf (getUTCFullYear t) value (getUTCDate t) * msPerDay + timeWithinDay t

/-! ## Texts -/

/-- The last `width` decimal digits. -/
def digits : Nat → Nat → List Char
  | 0, _ => []
  | width + 1, n => digits width (n / 10) ++ [Nat.digitChar (n % 10)]

/-- Four digits, or a sign and six. -/
def yearText (year : Int) : List Char :=
  if 0 ≤ year ∧ year ≤ 9999 then digits 4 year.toNat
  else (if year < 0 then '-' else '+') :: digits 6 year.natAbs

def dateText (d : Int) : List Char :=
  yearText (yearOf d) ++ '-' :: digits 2 (monthOf d + 1).toNat ++ '-' :: digits 2 (dateOf d).toNat

/-- `date.toISOString()`. -/
def toISOString (t : Time) : String :=
  let ms := (timeWithinDay t).toNat
  String.ofList (dateText (day t) ++ 'T' :: digits 2 (ms / 3600000) ++
    ':' :: digits 2 (ms / 60000 % 60) ++ ':' :: digits 2 (ms / 1000 % 60) ++
    '.' :: digits 3 (ms % 1000) ++ ['Z'])

/-- `value.slice(0, n)`. -/
def sliceTo (value : String) (n : Nat) : String := String.ofList (value.toList.take n)

/-! ## The order of texts -/

theorem length_digits (width n : Nat) : (digits width n).length = width := by
  induction width generalizing n with
  | zero => rfl
  | succ width ih => rw [digits, List.length_append, ih, List.length_singleton]

/-- Of two texts of one length, what follows does not change the order. -/
theorem append_lt_append {s t : List Char} (h : s < t) (hlength : s.length = t.length)
    (s' t' : List Char) : s ++ s' < t ++ t' := by
  induction s generalizing t with
  | nil =>
      cases t with
      | nil => exact absurd h (List.lt_irrefl _)
      | cons b t => cases hlength
  | cons a s ih =>
      cases t with
      | nil => cases hlength
      | cons b t =>
          rw [List.cons_append, List.cons_append, List.cons_lt_cons_iff]
          rcases List.cons_lt_cons_iff.mp h with hab | ⟨rfl, hst⟩
          · exact .inl hab
          · exact .inr ⟨rfl, ih hst (Nat.succ.inj hlength)⟩

theorem digitChar_lt {m n : Nat} (h : m < n) (hn : n < 10) :
    Nat.digitChar m < Nat.digitChar n := by
  have hall : ∀ n < 10, ∀ m < n, Nat.digitChar m < Nat.digitChar n := by decide
  exact hall n hn m h

theorem digits_lt {width m n : Nat} (h : m < n) (hn : n < 10 ^ width) :
    digits width m < digits width n := by
  induction width generalizing m n with
  | zero => omega
  | succ width ih =>
      have hn' : n / 10 < 10 ^ width := by
        rw [Nat.pow_succ] at hn
        omega
      rw [digits, digits]
      rcases Nat.lt_or_ge (m / 10) (n / 10) with hlt | hge
      · exact append_lt_append (ih hlt hn') (by rw [length_digits, length_digits]) _ _
      · have heq : m / 10 = n / 10 := by omega
        rw [heq]
        apply List.append_left_lt
        exact List.cons_lt_cons_iff.mpr (.inl (digitChar_lt (by omega) (by omega)))

/-- The texts of dates up to the year 9999 are ordered as the days are. -/
theorem dateText_lt {a b : Int} (h : a < b) (ha : 0 ≤ yearOf a) (hb : yearOf b ≤ 9999) :
    dateText a < dateText b := by
  have hmono := yearOf_mono (Int.le_of_lt h)
  have hmonth := monthOf_range b
  have hmonth' := monthOf_range a
  have hdate := dateOf_range b
  have hdate' := dateOf_range a
  unfold dateText yearText
  rw [if_pos ⟨ha, by omega⟩, if_pos ⟨by omega, hb⟩]
  simp only [List.append_assoc]
  rcases date_lt h with hyear | ⟨hyear, hmonth'' | ⟨hmonth'', hdate''⟩⟩
  · have hlt : digits 4 (yearOf a).toNat < digits 4 (yearOf b).toNat :=
      digits_lt (by omega) (by omega)
    exact append_lt_append hlt (by rw [length_digits, length_digits]) _ _
  · have hlt : digits 2 (monthOf a + 1).toNat < digits 2 (monthOf b + 1).toNat :=
      digits_lt (by omega) (by omega)
    rw [hyear]
    apply List.append_left_lt
    exact List.cons_lt_cons_iff.mpr
      (.inr ⟨rfl, append_lt_append hlt (by rw [length_digits, length_digits]) _ _⟩)
  · have hlt : digits 2 (dateOf a).toNat < digits 2 (dateOf b).toNat :=
      digits_lt (by omega) (by omega)
    rw [hyear, hmonth'']
    apply List.append_left_lt
    refine List.cons_lt_cons_iff.mpr (.inr ⟨rfl, ?_⟩)
    apply List.append_left_lt
    exact List.cons_lt_cons_iff.mpr (.inr ⟨rfl, hlt⟩)

theorem length_dateText {d : Int} (hle : 0 ≤ yearOf d) (hge : yearOf d ≤ 9999) :
    (dateText d).length = 10 := by
  unfold dateText yearText
  rw [if_pos ⟨hle, hge⟩]
  simp only [List.length_append, List.length_cons, length_digits]

/-- The first ten characters are the date. -/
theorem sliceTo_toISOString {t : Time} (hle : 0 ≤ getUTCFullYear t)
    (hge : getUTCFullYear t ≤ 9999) :
    sliceTo (toISOString t) 10 = String.ofList (dateText (day t)) := by
  unfold sliceTo toISOString
  simp only [String.toList_ofList, List.append_assoc]
  rw [List.take_append_of_le_length (length_dateText hle hge).ge,
    List.take_of_length_le (length_dateText hle hge).le]

/-! ## Midnights -/

theorem day_mul (d : Int) : day (d * msPerDay) = d := by
  unfold day msPerDay
  omega

theorem timeWithinDay_mul (d : Int) : timeWithinDay (d * msPerDay) = 0 := by
  unfold timeWithinDay msPerDay
  omega

theorem day_mono {t u : Int} (h : t ≤ u) : day t ≤ day u := by
  unfold day msPerDay
  omega

theorem utc_date {t : Time} (h : 100 ≤ getUTCFullYear t) :
    utc (getUTCFullYear t) (getUTCMonth t) (getUTCDate t) = day t * msPerDay := by
  have hyear : ¬ (0 ≤ getUTCFullYear t ∧ getUTCFullYear t ≤ 99) := by omega
  unfold utc
  rw [if_neg hyear]
  exact congrArg (· * msPerDay) (dayOf_date (day t))

/-- From a midnight, a date in the same month, or beyond it. -/
theorem setUTCDate_mul (d value : Int) :
    setUTCDate (d * msPerDay) value = (d + (value - dateOf d)) * msPerDay := by
  have hdate : dayOf (yearOf d) (monthOf d) value = d + (value - dateOf d) := by
    have hadd := dayOf_add (yearOf d) (monthOf d) (dateOf d) (value - dateOf d)
    rw [dayOf_date] at hadd
    rw [← hadd]
    congr 1
    omega
  unfold setUTCDate getUTCFullYear getUTCMonth
  rw [day_mul, timeWithinDay_mul, hdate, Int.add_zero]

theorem setUTCMonth_mul (d value : Int) :
    setUTCMonth (d * msPerDay) value = dayOf (yearOf d) value (dateOf d) * msPerDay := by
  unfold setUTCMonth getUTCFullYear getUTCDate
  rw [day_mul, timeWithinDay_mul, Int.add_zero]

end Date

end CreativeBackend
