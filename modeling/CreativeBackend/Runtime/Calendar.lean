import CreativeBackend.Runtime.Cells

/-!
# The proleptic Gregorian calendar

Days are counted from the first of January 1970. A day has a year, a month from 0 to 11 and a date
from 1 on; `dayOf` counts the days of a date, also of one that lies outside its month or its year.

## Implementation notes

The year of a day is estimated from the length of 400 years, which misses by at most one.
-/

namespace CreativeBackend.Calendar

/-! ## Years -/

/-- The days that a leap year has more. -/
def leapDays (year : Int) : Int :=
  if year % 4 = 0 ∧ (year % 100 ≠ 0 ∨ year % 400 = 0) then 1 else 0

/-- The first day of a year. -/
def yearStart (year : Int) : Int :=
  365 * (year - 1970) + (year - 1969) / 4 - (year - 1901) / 100 + (year - 1601) / 400

/-- The year of a day. -/
def yearOf (day : Int) : Int :=
  let year := 1970 + day * 400 / 146097
  if day < yearStart year then year - 1
  else if yearStart (year + 1) ≤ day then year + 1
  else year

theorem leapDays_bounds (year : Int) : 0 ≤ leapDays year ∧ leapDays year ≤ 1 := by
  unfold leapDays
  split <;> omega

theorem yearStart_succ (year : Int) :
    yearStart (year + 1) = yearStart year + 365 + leapDays year := by
  unfold yearStart leapDays
  split <;> omega

theorem yearStart_mono {a b : Int} (h : a ≤ b) : yearStart a ≤ yearStart b := by
  unfold yearStart
  omega

/-- The estimate misses by at most one. -/
theorem estimate_bounds (day : Int) :
    yearStart (1970 + day * 400 / 146097 - 1) ≤ day ∧
      day < yearStart (1970 + day * 400 / 146097 + 1 + 1) := by
  unfold yearStart
  omega

theorem yearOf_bounds (day : Int) :
    yearStart (yearOf day) ≤ day ∧ day < yearStart (yearOf day + 1) := by
  obtain ⟨hle, hlt⟩ := estimate_bounds day
  unfold yearOf
  simp only
  split
  · rw [Int.sub_add_cancel]
    omega
  split
  · omega
  · omega

theorem yearOf_eq {year day : Int} (hle : yearStart year ≤ day)
    (hlt : day < yearStart (year + 1)) : yearOf day = year := by
  obtain ⟨hle', hlt'⟩ := yearOf_bounds day
  rcases Int.lt_trichotomy (yearOf day) year with h | h | h
  · have hmono : yearStart (yearOf day + 1) ≤ yearStart year := yearStart_mono (by omega)
    omega
  · exact h
  · have hmono : yearStart (year + 1) ≤ yearStart (yearOf day) := yearStart_mono (by omega)
    omega

/-! ## Months -/

/-- The days of a year before a month. -/
def monthStart (year month : Int) : Int :=
  if month ≤ 0 then 0
  else if month = 1 then 31
  else leapDays year +
    (if month = 2 then 59
    else if month = 3 then 90
    else if month = 4 then 120
    else if month = 5 then 151
    else if month = 6 then 181
    else if month = 7 then 212
    else if month = 8 then 243
    else if month = 9 then 273
    else if month = 10 then 304
    else if month = 11 then 334
    else 365)

/-- The month of a day of a year, counted from its first. -/
def monthOfYearDay (year dayInYear : Int) : Int :=
  if dayInYear < 31 then 0
  else if dayInYear < 59 + leapDays year then 1
  else if dayInYear < 90 + leapDays year then 2
  else if dayInYear < 120 + leapDays year then 3
  else if dayInYear < 151 + leapDays year then 4
  else if dayInYear < 181 + leapDays year then 5
  else if dayInYear < 212 + leapDays year then 6
  else if dayInYear < 243 + leapDays year then 7
  else if dayInYear < 273 + leapDays year then 8
  else if dayInYear < 304 + leapDays year then 9
  else if dayInYear < 334 + leapDays year then 10
  else 11

def monthOf (day : Int) : Int := monthOfYearDay (yearOf day) (day - yearStart (yearOf day))

def dateOf (day : Int) : Int :=
  day - yearStart (yearOf day) - monthStart (yearOf day) (monthOf day) + 1

/-- The day of a date. -/
def dayOf (year month date : Int) : Int :=
  yearStart (year + month / 12) + monthStart (year + month / 12) (month % 12) + date - 1

theorem monthOfYearDay_range (year dayInYear : Int) :
    0 ≤ monthOfYearDay year dayInYear ∧ monthOfYearDay year dayInYear ≤ 11 := by
  unfold monthOfYearDay
  repeat' split
  all_goals omega

/-- A month of a year by cases. -/
theorem month_cases {month : Int} (hle : 0 ≤ month) (hlt : month ≤ 11) :
    month = 0 ∨ month = 1 ∨ month = 2 ∨ month = 3 ∨ month = 4 ∨ month = 5 ∨ month = 6 ∨
      month = 7 ∨ month = 8 ∨ month = 9 ∨ month = 10 ∨ month = 11 := by
  omega

/-- A month has at least one day and at most 31. -/
theorem monthStart_succ_bounds (year : Int) {month : Int} (hle : 0 ≤ month) (hlt : month ≤ 11) :
    monthStart year month < monthStart year (month + 1) ∧
      monthStart year (month + 1) ≤ monthStart year month + 31 := by
  have hleap := leapDays_bounds year
  rcases month_cases hle hlt with
    rfl | rfl | rfl | rfl | rfl | rfl | rfl | rfl | rfl | rfl | rfl | rfl
  all_goals
    simp [monthStart]
    try omega

theorem monthOfYearDay_bounds {year dayInYear : Int} (hle : 0 ≤ dayInYear)
    (hlt : dayInYear < 365 + leapDays year) :
    monthStart year (monthOfYearDay year dayInYear) ≤ dayInYear ∧
      dayInYear < monthStart year (monthOfYearDay year dayInYear + 1) := by
  have hleap := leapDays_bounds year
  unfold monthOfYearDay
  repeat' split
  all_goals
    simp [monthStart]
    omega

theorem monthStart_mono (year : Int) {a b : Int} (hle : 0 ≤ a) (h : a ≤ b) (hlt : b ≤ 12) :
    monthStart year a ≤ monthStart year b := by
  obtain ⟨n, rfl⟩ : ∃ n : Nat, b = a + n := ⟨(b - a).toNat, by omega⟩
  induction n with
  | zero => simp
  | succ n ih =>
      have hstep : monthStart year (a + n) < monthStart year (a + n + 1) :=
        (monthStart_succ_bounds year (by omega) (by omega)).1
      have hprev := ih (by omega) (by omega)
      have hsucc : a + ((n + 1 : Nat) : Int) = a + n + 1 := by omega
      rw [hsucc]
      omega

theorem monthStart_zero (year : Int) : monthStart year 0 = 0 := rfl

theorem monthStart_twelve (year : Int) : monthStart year 12 = 365 + leapDays year := by
  simp [monthStart]
  omega

/-! ## Days -/

theorem yearDay_bounds (day : Int) :
    0 ≤ day - yearStart (yearOf day) ∧
      day - yearStart (yearOf day) < 365 + leapDays (yearOf day) := by
  obtain ⟨hle, hlt⟩ := yearOf_bounds day
  rw [yearStart_succ] at hlt
  omega

theorem monthOf_range (day : Int) : 0 ≤ monthOf day ∧ monthOf day ≤ 11 :=
  monthOfYearDay_range _ _

theorem monthOf_bounds (day : Int) :
    yearStart (yearOf day) + monthStart (yearOf day) (monthOf day) ≤ day ∧
      day < yearStart (yearOf day) + monthStart (yearOf day) (monthOf day + 1) := by
  obtain ⟨hle, hlt⟩ := yearDay_bounds day
  have hmonth := monthOfYearDay_bounds hle hlt
  unfold monthOf
  omega

/-- A day is the day of its date. -/
theorem dayOf_date (day : Int) : dayOf (yearOf day) (monthOf day) (dateOf day) = day := by
  obtain ⟨hle, hlt⟩ := monthOf_range day
  have hdiv : monthOf day / 12 = 0 := by omega
  have hmod : monthOf day % 12 = monthOf day := by omega
  unfold dayOf dateOf
  rw [hdiv, hmod, Int.add_zero]
  omega

/-- Dates beyond the month count on. -/
theorem dayOf_add (year month date n : Int) :
    dayOf year month (date + n) = dayOf year month date + n := by
  unfold dayOf
  omega

theorem dateOf_range (day : Int) : 1 ≤ dateOf day ∧ dateOf day ≤ 31 := by
  obtain ⟨hle, hlt⟩ := monthOf_range day
  have hmonth := monthOf_bounds day
  have hlength := monthStart_succ_bounds (yearOf day) hle hlt
  unfold dateOf
  omega

theorem yearOf_mono {a b : Int} (h : a ≤ b) : yearOf a ≤ yearOf b := by
  by_contra hlt
  have hmono : yearStart (yearOf b + 1) ≤ yearStart (yearOf a) := yearStart_mono (by omega)
  have ha := yearOf_bounds a
  have hb := yearOf_bounds b
  omega

theorem monthOf_mono {a b : Int} (h : a ≤ b) (hyear : yearOf a = yearOf b) :
    monthOf a ≤ monthOf b := by
  by_contra hlt
  have hra := monthOf_range a
  have hrb := monthOf_range b
  have hmono : monthStart (yearOf b) (monthOf b + 1) ≤ monthStart (yearOf b) (monthOf a) :=
    monthStart_mono _ (by omega) (by omega) (by omega)
  have ha := monthOf_bounds a
  have hb := monthOf_bounds b
  rw [hyear] at ha
  omega

/-- A later day has a later year, or a later month, or a later date. -/
theorem date_lt {a b : Int} (h : a < b) :
    yearOf a < yearOf b ∨
      yearOf a = yearOf b ∧ (monthOf a < monthOf b ∨
        monthOf a = monthOf b ∧ dateOf a < dateOf b) := by
  rcases Int.lt_or_eq_of_le (yearOf_mono (Int.le_of_lt h)) with hyear | hyear
  · exact .inl hyear
  rcases Int.lt_or_eq_of_le (monthOf_mono (Int.le_of_lt h) hyear) with hmonth | hmonth
  · exact .inr ⟨hyear, .inl hmonth⟩
  · refine .inr ⟨hyear, .inr ⟨hmonth, ?_⟩⟩
    unfold dateOf
    rw [hyear, hmonth]
    omega

/-- Months beyond the year count on. -/
theorem dayOf_carry (year month date : Int) :
    dayOf year month date = dayOf (year + month / 12) (month % 12) date := by
  have hdiv : month % 12 / 12 = 0 := by omega
  have hmod : month % 12 % 12 = month % 12 := by omega
  unfold dayOf
  rw [hdiv, hmod, Int.add_zero]

/-! ## First days -/

/-- The first day of a month, and of the month after it. -/
theorem dayOf_first (year : Int) {month : Int} (hle : 0 ≤ month) (hlt : month ≤ 11) :
    dayOf year month 1 = yearStart year + monthStart year month ∧
      dayOf year (month + 1) 1 = yearStart year + monthStart year (month + 1) := by
  constructor
  · have hdiv : month / 12 = 0 := by omega
    have hmod : month % 12 = month := by omega
    unfold dayOf
    rw [hdiv, hmod, Int.add_zero]
    omega
  · rcases Int.lt_or_eq_of_le hlt with hlast | rfl
    · have hdiv : (month + 1) / 12 = 0 := by omega
      have hmod : (month + 1) % 12 = month + 1 := by omega
      unfold dayOf
      rw [hdiv, hmod, Int.add_zero]
      omega
    · have hdays := monthStart_twelve year
      have hyear := yearStart_succ year
      have hfirst : dayOf year (11 + 1) 1
          = yearStart (year + 1) + monthStart (year + 1) 0 + 1 - 1 := rfl
      rw [hfirst, monthStart_zero]
      have htwelve : monthStart year (11 + 1) = monthStart year 12 := rfl
      omega

/-- The month of the days from its first to its last. -/
theorem month_eq {year month day : Int} (hle : 0 ≤ month) (hlt : month ≤ 11)
    (hfirst : dayOf year month 1 ≤ day) (hlast : day < dayOf year (month + 1) 1) :
    yearOf day = year ∧ monthOf day = month := by
  obtain ⟨hstart, hend⟩ := dayOf_first year hle hlt
  rw [hstart] at hfirst
  rw [hend] at hlast
  have hbegin : 0 ≤ monthStart year month := monthStart_mono year (Int.le_refl 0) hle (by omega)
  have hyearEnd : monthStart year (month + 1) ≤ 365 + leapDays year := by
    rw [← monthStart_twelve]
    exact monthStart_mono year (by omega) (by omega) (Int.le_refl 12)
  have hyear : yearOf day = year := by
    apply yearOf_eq (by omega)
    rw [yearStart_succ]
    omega
  refine ⟨hyear, ?_⟩
  have hrange := monthOf_range day
  have hday := monthOf_bounds day
  rw [hyear] at hday
  by_contra hne
  rcases Int.lt_or_gt_of_ne hne with h | h
  · have hmono : monthStart year (monthOf day + 1) ≤ monthStart year month :=
      monthStart_mono year (by omega) (by omega) (by omega)
    omega
  · have hmono : monthStart year (month + 1) ≤ monthStart year (monthOf day) :=
      monthStart_mono year (by omega) (by omega) (by omega)
    omega

/-! ## Days, weeks and months -/

def days : Cells where
  start d := d
  next d := d + 1
  start_le d := Int.le_refl d
  lt_next d := by omega
  start_eq h h' := by omega
  start_next _ := rfl

/-- Weeks begin on Monday; the first day of the epoch is a Thursday. -/
def weeks : Cells where
  start d := d - (d + 3) % 7
  next d := d + 7
  start_le d := by omega
  lt_next d := by omega
  start_eq h h' := by omega
  start_next d := by omega

/-- The first day of the month of a day. -/
def firstOfMonth (day : Int) : Int := dayOf (yearOf day) (monthOf day) 1

/-- The first day of the month after that of a day. -/
def firstOfNextMonth (day : Int) : Int := dayOf (yearOf day) (monthOf day + 1) 1

theorem firstOfMonth_bounds (day : Int) :
    firstOfMonth day ≤ day ∧ day < firstOfNextMonth day := by
  obtain ⟨hle, hlt⟩ := monthOf_range day
  obtain ⟨hfirst, hnext⟩ := dayOf_first (yearOf day) hle hlt
  have hbounds := monthOf_bounds day
  unfold firstOfMonth firstOfNextMonth
  omega

/-- The days of a month have its year and its month. -/
theorem month_of_bounds {day d : Int} (hle : firstOfMonth day ≤ d)
    (hlt : d < firstOfNextMonth day) : yearOf d = yearOf day ∧ monthOf d = monthOf day :=
  month_eq (monthOf_range day).1 (monthOf_range day).2 hle hlt

theorem month_firstOfMonth (day : Int) :
    yearOf (firstOfMonth day) = yearOf day ∧ monthOf (firstOfMonth day) = monthOf day := by
  have hbounds := firstOfMonth_bounds day
  exact month_of_bounds (Int.le_refl _) (by omega)

theorem firstOfNextMonth_firstOfMonth (day : Int) :
    firstOfNextMonth (firstOfMonth day) = firstOfNextMonth day := by
  obtain ⟨hyear, hmonth⟩ := month_firstOfMonth day
  rw [firstOfNextMonth, hyear, hmonth]
  rfl

/-- The day after a month is the first of its own month. -/
theorem firstOfMonth_firstOfNextMonth (day : Int) :
    firstOfMonth (firstOfNextMonth day) = firstOfNextMonth day := by
  obtain ⟨year, month, hle, hlt, hnext⟩ : ∃ year month, 0 ≤ month ∧ month ≤ 11 ∧
      firstOfNextMonth day = dayOf year month 1 :=
    ⟨_, _, Int.emod_nonneg _ (by omega), by omega, dayOf_carry (yearOf day) (monthOf day + 1) 1⟩
  have hstep := monthStart_succ_bounds year hle hlt
  obtain ⟨hfirst, hsecond⟩ := dayOf_first year hle hlt
  obtain ⟨hyear, hmonth⟩ := month_eq hle hlt (Int.le_of_eq hnext.symm) (by omega)
  rw [firstOfMonth, hyear, hmonth, hnext]

def months : Cells where
  start := firstOfMonth
  next := firstOfNextMonth
  start_le d := (firstOfMonth_bounds d).1
  lt_next d := by
    rw [firstOfNextMonth_firstOfMonth]
    exact (firstOfMonth_bounds d).2
  start_eq {d e} h h' := by
    rw [firstOfNextMonth_firstOfMonth] at h'
    obtain ⟨hyear, hmonth⟩ := month_of_bounds h h'
    rw [firstOfMonth, hyear, hmonth]
    rfl
  start_next d := by
    rw [firstOfNextMonth_firstOfMonth]
    exact firstOfMonth_firstOfNextMonth d

theorem dateOf_of_isStart {d : Int} (h : months.IsStart d) : dateOf d = 1 := by
  obtain ⟨hle, hlt⟩ := monthOf_range d
  have hfirst : dayOf (yearOf d) (monthOf d) 1 = d := h
  rw [(dayOf_first (yearOf d) hle hlt).1] at hfirst
  unfold dateOf
  omega

/-- Less than a week earlier, it is at most one year less. -/
theorem yearOf_sub {d n : Int} (hle : 0 ≤ n) (hlt : n ≤ 6) : yearOf d - 1 ≤ yearOf (d - n) := by
  have hd := yearOf_bounds d
  have hstep := yearStart_succ (yearOf d - 1)
  have hleap := leapDays_bounds (yearOf d - 1)
  rw [Int.sub_add_cancel] at hstep
  have hbegin : yearOf (yearStart (yearOf d - 1)) = yearOf d - 1 := by
    apply yearOf_eq (Int.le_refl _)
    rw [Int.sub_add_cancel]
    omega
  rw [← hbegin]
  exact yearOf_mono (by omega)

end CreativeBackend.Calendar
