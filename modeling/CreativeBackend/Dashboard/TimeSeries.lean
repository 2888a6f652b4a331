import CreativeBackend.Runtime.Dates
import Mathlib.Algebra.GroupWithZero.Nat
import Mathlib.Data.List.Chain

/-!
# Time series of the client dashboard

`buildTimeSeries` of `ClientAnalyticsService`: it counts dates under the keys of their buckets, and
then goes from the bucket of the first date of the period to the bucket of the last.

## Implementation notes

The dates of a bucket are a cell of a division of the days, by days, weeks or months. On midnights
`getBucketStart` is the first day of a cell and `addBucket` that of the next, so the loop lists the
cells from one to the other (`Cells.Between`). It is given as much fuel as it needs.
-/

namespace CreativeBackend

open Calendar Date

inductive ClientAnalyticsGranularity where
  | DAY | WEEK | MONTH
  deriving DecidableEq, Repr

structure AnalyticsPeriod where
  from_ : Time
  to_ : Time

structure Bucket where
  date : String
  count : Nat
  deriving DecidableEq, Repr

namespace ClientAnalyticsService

def getBucketStart (date : Time) (granularity : ClientAnalyticsGranularity) : Time :=
  let bucket := utc (getUTCFullYear date) (getUTCMonth date) (getUTCDate date)
  match granularity with
  | .MONTH => setUTCDate bucket 1
  | .WEEK =>
      let day := getUTCDay bucket
      let distanceFromMonday := if day = 0 then 6 else day - 1
      setUTCDate bucket (getUTCDate bucket - distanceFromMonday)
  | .DAY => bucket

def getBucketKey (date : Time) (granularity : ClientAnalyticsGranularity) : String :=
  sliceTo (toISOString (getBucketStart date granularity)) 10

def addBucket (date : Time) (granularity : ClientAnalyticsGranularity) : Time :=
  match granularity with
  | .MONTH => setUTCMonth date (getUTCMonth date + 1)
  | .WEEK => setUTCDate date (getUTCDate date + 7)
  | .DAY => setUTCDate date (getUTCDate date + 1)

/-- A date counted under its key. -/
def countDate (granularity : ClientAnalyticsGranularity) (counts : String → Option Nat)
    (date : Time) : String → Option Nat :=
  let key := getBucketKey date granularity
  fun k => if k = key then some ((counts key).getD 0 + 1) else counts k

def countMap (granularity : ClientAnalyticsGranularity) (dates : List Time) :
    String → Option Nat :=
  dates.foldl (countDate granularity) fun _ => none

/-- The loop, with fuel for its rounds. -/
def fill (granularity : ClientAnalyticsGranularity) (counts : String → Option Nat)
    (finalBucket : Time) : Nat → Time → Option (List Bucket)
  | 0, _ => none
  | fuel + 1, cursor =>
      if cursor ≤ finalBucket then
        let key := getBucketKey cursor granularity
        (fill granularity counts finalBucket fuel (addBucket cursor granularity)).map fun buckets =>
          { date := key, count := (counts key).getD 0 } :: buckets
      else some []

def buildTimeSeries (fuel : Nat) (dates : List Time) (period : AnalyticsPeriod)
    (granularity : ClientAnalyticsGranularity) : Option (List Bucket) :=
  fill granularity (countMap granularity dates) (getBucketStart period.to_ granularity) fuel
    (getBucketStart period.from_ granularity)

/-! ## Buckets as cells -/

/-- The division of the days. -/
def division : ClientAnalyticsGranularity → Cells
  | .DAY => days
  | .WEEK => weeks
  | .MONTH => months

/-- The first day of the bucket of a time. -/
def bucketDay (granularity : ClientAnalyticsGranularity) (t : Time) : Int :=
  (division granularity).start (day t)

variable {granularity : ClientAnalyticsGranularity} {t u : Int}

theorem getBucketStart_eq (h : 100 ≤ getUTCFullYear t) :
    getBucketStart t granularity = bucketDay granularity t * msPerDay := by
  unfold getBucketStart
  rw [utc_date h]
  cases granularity with
  | DAY => rfl
  | WEEK =>
      simp only [setUTCDate_mul, getUTCDay, getUTCDate, day_mul, bucketDay, division, weeks]
      congr 1
      split <;> omega
  | MONTH =>
      have hfirst : dayOf (yearOf (day t)) (monthOf (day t)) 1
          = day t + (1 - dateOf (day t)) := by
        have hadd := dayOf_add (yearOf (day t)) (monthOf (day t)) (dateOf (day t))
          (1 - dateOf (day t))
        rw [dayOf_date] at hadd
        rw [← hadd]
        congr 1
        omega
      simp only [setUTCDate_mul]
      rw [← hfirst]
      rfl

theorem addBucket_eq {d : Int} (h : (division granularity).IsStart d) :
    addBucket (d * msPerDay) granularity = (division granularity).next d * msPerDay := by
  cases granularity with
  | DAY =>
      simp only [addBucket, setUTCDate_mul, getUTCDate, day_mul, division, days]
      congr 1
      omega
  | WEEK =>
      simp only [addBucket, setUTCDate_mul, getUTCDate, day_mul, division, weeks]
      congr 1
      omega
  | MONTH =>
      have hdate : dateOf d = 1 := dateOf_of_isStart h
      simp only [addBucket, setUTCMonth_mul, getUTCMonth, day_mul, hdate]
      rfl

/-- The bucket of a time begins at most one year earlier. -/
theorem yearOf_bucketDay (granularity : ClientAnalyticsGranularity) (t : Time) :
    getUTCFullYear t - 1 ≤ yearOf (bucketDay granularity t) ∧
      yearOf (bucketDay granularity t) ≤ getUTCFullYear t := by
  refine ⟨?_, yearOf_mono ((division granularity).start_le (day t))⟩
  cases granularity with
  | DAY =>
      have hyear : yearOf (bucketDay .DAY t) = getUTCFullYear t := rfl
      omega
  | WEEK =>
      have hrange : 0 ≤ (day t + 3) % 7 ∧ (day t + 3) % 7 ≤ 6 := by omega
      exact yearOf_sub hrange.1 hrange.2
  | MONTH =>
      have hyear : yearOf (bucketDay .MONTH t) = getUTCFullYear t :=
        (month_firstOfMonth (day t)).1
      omega

/-- The key of a bucket that begins on a day. -/
def keyOfDay (d : Int) : String := String.ofList (dateText d)

theorem getBucketKey_eq (h : 101 ≤ getUTCFullYear t) (h' : getUTCFullYear t ≤ 9999) :
    getBucketKey t granularity = keyOfDay (bucketDay granularity t) := by
  have hyear : getUTCFullYear (bucketDay granularity t * msPerDay)
      = yearOf (bucketDay granularity t) := by
    rw [getUTCFullYear, day_mul]
  have hbounds := yearOf_bucketDay granularity t
  rw [getBucketKey, getBucketStart_eq (by omega), sliceTo_toISOString (by omega) (by omega),
    day_mul]
  rfl

/-- The key of a midnight on which a bucket begins. -/
theorem getBucketKey_mul {d : Int} (hd : (division granularity).IsStart d) (h : 100 ≤ yearOf d)
    (h' : yearOf d ≤ 9999) :
    getBucketKey (d * msPerDay) granularity = keyOfDay d := by
  have hyear : getUTCFullYear (d * msPerDay) = yearOf d := by rw [getUTCFullYear, day_mul]
  have hstart : bucketDay granularity (d * msPerDay) = d := by
    rw [bucketDay, day_mul]
    exact hd
  rw [getBucketKey, getBucketStart_eq (by omega), hstart,
    sliceTo_toISOString (by omega) (by omega), day_mul]
  rfl

theorem keyOfDay_lt {a b : Int} (h : a < b) (ha : 0 ≤ yearOf a) (hb : yearOf b ≤ 9999) :
    keyOfDay a < keyOfDay b := by
  rw [String.lt_iff, keyOfDay, keyOfDay, String.toList_ofList, String.toList_ofList]
  exact dateText_lt h ha hb

theorem keyOfDay_inj {a b : Int} (ha : 0 ≤ yearOf a ∧ yearOf a ≤ 9999)
    (hb : 0 ≤ yearOf b ∧ yearOf b ≤ 9999) : keyOfDay a = keyOfDay b ↔ a = b := by
  constructor
  · intro heq
    rcases Int.lt_trichotomy a b with h | h | h
    · exact absurd (heq ▸ keyOfDay_lt h ha.1 hb.2) (String.lt_irrefl _)
    · exact h
    · exact absurd (heq ▸ keyOfDay_lt h hb.1 ha.2) (String.lt_irrefl _)
  · rintro rfl
    rfl

/-! ## The counts -/

theorem foldl_countDate (counts : String → Option Nat) (dates : List Time) (key : String) :
    (dates.foldl (countDate granularity) counts key).getD 0
      = (counts key).getD 0 + dates.countP fun date => getBucketKey date granularity = key := by
  induction dates generalizing counts with
  | nil => simp
  | cons date dates ih =>
      rw [List.foldl_cons, ih, List.countP_cons]
      by_cases hkey : getBucketKey date granularity = key
      · simp [countDate, hkey]
        omega
      · simp [countDate, hkey, Ne.symm hkey]

theorem countMap_getD (dates : List Time) (key : String) :
    (countMap granularity dates key).getD 0
      = dates.countP fun date => getBucketKey date granularity = key := by
  rw [countMap, foldl_countDate, Option.getD_none, Nat.zero_add]

/-! ## The loop -/

theorem fill_eq {counts : String → Option Nat} {first last : Int} {cells : List Int}
    (h : (division granularity).Between last first cells)
    (hfirst : (division granularity).IsStart first) (hlow : 100 ≤ yearOf first)
    (hhigh : yearOf last ≤ 9999) {fuel : Nat} (hfuel : cells.length < fuel) :
    fill granularity counts (last * msPerDay) fuel (first * msPerDay)
      = some (cells.map fun d => ⟨keyOfDay d, (counts (keyOfDay d)).getD 0⟩) := by
  induction h generalizing fuel with
  | last =>
      obtain ⟨fuel, rfl⟩ : ∃ n, fuel = n + 2 := ⟨fuel - 2, by simp at hfuel; omega⟩
      have hnext : ¬ (division granularity).next last * msPerDay ≤ last * msPerDay := by
        have hlt := hfirst.lt_next
        unfold msPerDay
        omega
      rw [fill, if_pos (Int.le_refl _), addBucket_eq hfirst, fill, if_neg hnext,
        getBucketKey_mul hfirst hlow hhigh]
      rfl
  | @step first rest hlt hrest ih =>
      obtain ⟨fuel, rfl⟩ : ∃ n, fuel = n + 1 := ⟨fuel - 1, by omega⟩
      have hle : first * msPerDay ≤ last * msPerDay := by
        unfold msPerDay
        omega
      have hyear : yearOf first ≤ 9999 := (yearOf_mono (Int.le_of_lt hlt)).trans hhigh
      have hnext : 100 ≤ yearOf ((division granularity).next first) :=
        hlow.trans (yearOf_mono (Int.le_of_lt hfirst.lt_next))
      rw [List.length_cons] at hfuel
      simp only [fill, if_pos hle]
      rw [addBucket_eq hfirst, ih hfirst.next hnext (by omega),
        getBucketKey_mul hfirst hlow hyear]
      rfl

/-! ## Conservation -/

/-- One day, seven days or one month after the start of a bucket. -/
def following (start : Time) : ClientAnalyticsGranularity → Time
  | .DAY => start + msPerDay
  | .WEEK => start + 7 * msPerDay
  | .MONTH => firstOfNextMonth (day start) * msPerDay

/-- The buckets of a period, which begin at `starts`, with the dates of each counted. -/
structure IsTimeSeries (dates : List Time) (period : AnalyticsPeriod)
    (granularity : ClientAnalyticsGranularity) (starts : List Time) (buckets : List Bucket) :
    Prop where
  first : starts.head? = some (getBucketStart period.from_ granularity)
  last : starts.getLast? = some (getBucketStart period.to_ granularity)
  consecutive : starts.IsChain fun a b => b = following a granularity
  buckets_eq : buckets = starts.map fun start =>
    ⟨getBucketKey start granularity,
      dates.countP fun date => start ≤ date ∧ date < following start granularity⟩
  increasing : (buckets.map (·.date)).Pairwise (· < ·)
  one_start : ∀ date ∈ dates,
    ∃! start, start ∈ starts ∧ start ≤ date ∧ date < following start granularity
  one_bucket : ∀ date ∈ dates,
    ∃! bucket, bucket ∈ buckets ∧ bucket.date = getBucketKey date granularity
  total : (buckets.map (·.count)).sum = dates.length

theorem following_mul (d : Int) :
    following (d * msPerDay) granularity = (division granularity).next d * msPerDay := by
  cases granularity with
  | DAY =>
      have hday : d * msPerDay + msPerDay = (d + 1) * msPerDay := by
        unfold msPerDay
        omega
      exact hday
  | WEEK =>
      have hweek : d * msPerDay + 7 * msPerDay = (d + 7) * msPerDay := by
        unfold msPerDay
        omega
      exact hweek
  | MONTH =>
      simp only [following, day_mul]
      rfl

/-- The times of a bucket. -/
theorem bucketDay_eq_iff {d : Int} (h : (division granularity).IsStart d) :
    bucketDay granularity t = d ↔
      d * msPerDay ≤ t ∧ t < following (d * msPerDay) granularity := by
  rw [bucketDay, h.start_eq_iff, following_mul]
  unfold day msPerDay
  omega

/-- What the theorem is about: dates of a period whose years have three or four digits. -/
structure InPeriod (dates : List Time) (period : AnalyticsPeriod) : Prop where
  low : 101 ≤ getUTCFullYear period.from_
  high : getUTCFullYear period.to_ ≤ 9999
  le : period.from_ ≤ period.to_
  dates : ∀ date ∈ dates, period.from_ ≤ date ∧ date ≤ period.to_

variable {dates : List Time} {period : AnalyticsPeriod} {cells : List Int}

namespace InPeriod

theorem year_bounds (h : InPeriod dates period) {date : Int} (hfrom : period.from_ ≤ date)
    (hto : date ≤ period.to_) : 101 ≤ getUTCFullYear date ∧ getUTCFullYear date ≤ 9999 :=
  ⟨h.low.trans (yearOf_mono (day_mono hfrom)), (yearOf_mono (day_mono hto)).trans h.high⟩

/-- The cells of a period. -/
theorem exists_cells (granularity : ClientAnalyticsGranularity) (h : InPeriod dates period) :
    ∃ cells, (division granularity).Between (bucketDay granularity period.to_)
      (bucketDay granularity period.from_) cells :=
  Cells.exists_between ((division granularity).isStart_start _)
    ((division granularity).isStart_start _)
    ((division granularity).start_mono (day_mono h.le))

theorem yearOf_mem (h : InPeriod dates period)
    (hcells : (division granularity).Between (bucketDay granularity period.to_)
      (bucketDay granularity period.from_) cells) {c : Int} (hc : c ∈ cells) :
    (division granularity).IsStart c ∧ 100 ≤ yearOf c ∧ yearOf c ≤ 9999 := by
  obtain ⟨hstart, hle, hge⟩ :=
    (hcells.mem_iff ((division granularity).isStart_start _)).mp hc
  have hfrom := (yearOf_bucketDay granularity period.from_).1
  have hto := (yearOf_bucketDay granularity period.to_).2
  have hlow := h.low
  have hhigh := h.high
  have hle' := yearOf_mono hle
  have hge' := yearOf_mono hge
  exact ⟨hstart, by omega, by omega⟩

/-- The cell of a date is listed, and its key is that of the date. -/
theorem bucketDay_mem (h : InPeriod dates period)
    (hcells : (division granularity).Between (bucketDay granularity period.to_)
      (bucketDay granularity period.from_) cells) {date : Int} (hdate : date ∈ dates) :
    bucketDay granularity date ∈ cells ∧
      getBucketKey date granularity = keyOfDay (bucketDay granularity date) := by
  obtain ⟨hfrom, hto⟩ := h.dates date hdate
  obtain ⟨hlow, hhigh⟩ := h.year_bounds hfrom hto
  refine ⟨?_, getBucketKey_eq hlow hhigh⟩
  apply hcells.start_mem ((division granularity).isStart_start _)
  · exact ((division granularity).start_le _).trans (day_mono hfrom)
  · exact (division granularity).start_mono (day_mono hto)

/-- A listed key is the key of a date if and only if its cell is that of the date. -/
theorem getBucketKey_eq_iff (h : InPeriod dates period)
    (hcells : (division granularity).Between (bucketDay granularity period.to_)
      (bucketDay granularity period.from_) cells) {date c : Int} (hdate : date ∈ dates)
    (hc : c ∈ cells) :
    getBucketKey date granularity = keyOfDay c ↔ bucketDay granularity date = c := by
  obtain ⟨hmem, hkey⟩ := h.bucketDay_mem hcells hdate
  obtain ⟨-, hlow, hhigh⟩ := h.yearOf_mem hcells hmem
  obtain ⟨-, hlow', hhigh'⟩ := h.yearOf_mem hcells hc
  rw [hkey, keyOfDay_inj ⟨by omega, hhigh⟩ ⟨by omega, hhigh'⟩]

theorem countMap_keyOfDay (h : InPeriod dates period)
    (hcells : (division granularity).Between (bucketDay granularity period.to_)
      (bucketDay granularity period.from_) cells) {c : Int} (hc : c ∈ cells) :
    (countMap granularity dates (keyOfDay c)).getD 0
      = dates.countP fun date => bucketDay granularity date = c := by
  rw [countMap_getD]
  refine List.countP_congr fun date hdate => ?_
  simp only [decide_eq_true_eq]
  exact h.getBucketKey_eq_iff hcells hdate hc

end InPeriod

/-- The bucket that the loop makes of a cell. -/
def bucketOf (granularity : ClientAnalyticsGranularity) (dates : List Time) (d : Int) : Bucket :=
  ⟨keyOfDay d, (countMap granularity dates (keyOfDay d)).getD 0⟩

theorem isTimeSeries_of_between (h : InPeriod dates period)
    (hcells : (division granularity).Between (bucketDay granularity period.to_)
      (bucketDay granularity period.from_) cells) :
    IsTimeSeries dates period granularity (cells.map (· * msPerDay))
      (cells.map (bucketOf granularity dates)) where
  first := by
    have hyear := (h.year_bounds (Int.le_refl _) h.le).1
    rw [List.head?_map, hcells.head?, getBucketStart_eq (by omega)]
    rfl
  last := by
    have hyear := (h.year_bounds h.le (Int.le_refl _)).1
    rw [List.getLast?_map, hcells.getLast?, getBucketStart_eq (by omega)]
    rfl
  consecutive := by
    rw [List.isChain_map]
    refine hcells.isChain.imp fun a b hab => ?_
    rw [hab, following_mul]
  buckets_eq := by
    rw [List.map_map]
    refine List.map_congr_left fun c hc => ?_
    obtain ⟨hstart, hlow, hhigh⟩ := h.yearOf_mem hcells hc
    have hcount : dates.countP (fun date => decide (bucketDay granularity date = c))
        = dates.countP fun date => decide (c * msPerDay ≤ date ∧
            date < following (c * msPerDay) granularity) := by
      refine List.countP_congr fun date _ => ?_
      simp only [decide_eq_true_eq]
      exact bucketDay_eq_iff hstart
    rw [bucketOf, h.countMap_keyOfDay hcells hc, hcount, Function.comp_apply,
      getBucketKey_mul hstart hlow hhigh]
  increasing := by
    rw [List.map_map, List.pairwise_map]
    refine (hcells.pairwise ((division granularity).isStart_start _)).imp_of_mem ?_
    intro a b ha hb hab
    obtain ⟨-, hlow, -⟩ := h.yearOf_mem hcells ha
    obtain ⟨-, -, hhigh⟩ := h.yearOf_mem hcells hb
    exact keyOfDay_lt hab (by omega) hhigh
  one_start := by
    intro date hdate
    obtain ⟨hmem, -⟩ := h.bucketDay_mem hcells hdate
    have hcovers := fun {c : Int} (hc : c ∈ cells) =>
      bucketDay_eq_iff (t := date) (h.yearOf_mem hcells hc).1
    refine ⟨bucketDay granularity date * msPerDay,
      ⟨List.mem_map_of_mem hmem, (hcovers hmem).mp rfl⟩, ?_⟩
    rintro start ⟨hstart, hbounds⟩
    obtain ⟨c, hc, rfl⟩ := List.mem_map.mp hstart
    rw [(hcovers hc).mpr hbounds]
  one_bucket := by
    intro date hdate
    obtain ⟨hmem, hkey⟩ := h.bucketDay_mem hcells hdate
    refine ⟨bucketOf granularity dates (bucketDay granularity date),
      ⟨List.mem_map_of_mem hmem, hkey.symm⟩, ?_⟩
    rintro bucket ⟨hbucket, heq⟩
    obtain ⟨c, hc, rfl⟩ := List.mem_map.mp hbucket
    rw [(h.getBucketKey_eq_iff hcells hdate hc).mp heq.symm]
  total := by
    have hcounts : (cells.map (bucketOf granularity dates)).map (·.count)
        = cells.map fun c =>
          (dates.map day).countP fun x => (division granularity).start x = c := by
      rw [List.map_map]
      refine List.map_congr_left fun c hc => ?_
      rw [List.countP_map]
      exact h.countMap_keyOfDay hcells hc
    have hnodup : cells.Nodup :=
      (hcells.pairwise ((division granularity).isStart_start _)).imp fun hlt => Int.ne_of_lt hlt
    rw [hcounts, (division granularity).sum_countP hnodup, List.length_map]
    intro x hx
    obtain ⟨date, hdate, rfl⟩ := List.mem_map.mp hx
    exact (h.bucketDay_mem hcells hdate).1

/-- The loop ends, and its buckets conserve the dates. -/
theorem buildTimeSeries_conserves (granularity : ClientAnalyticsGranularity)
    (h : InPeriod dates period) :
    ∃ starts buckets, IsTimeSeries dates period granularity starts buckets ∧
      ∃ n, ∀ fuel, n ≤ fuel → buildTimeSeries fuel dates period granularity = some buckets := by
  obtain ⟨cells, hcells⟩ := h.exists_cells granularity
  refine ⟨_, _, isTimeSeries_of_between h hcells, cells.length + 1, fun fuel hfuel => ?_⟩
  have hfrom := (h.year_bounds (Int.le_refl _) h.le).1
  have hto := (h.year_bounds h.le (Int.le_refl _)).1
  have hlow := (yearOf_bucketDay granularity period.from_).1
  have hhigh := (yearOf_bucketDay granularity period.to_).2
  have hmax := h.high
  rw [buildTimeSeries, getBucketStart_eq (by omega), getBucketStart_eq (by omega),
    fill_eq hcells ((division granularity).isStart_start _) (by omega) (by omega) (by omega)]
  rfl

/-- Two dates around the end of a year, in weeks: 29 December 2024 is a Sunday. -/
def yearEnd : AnalyticsPeriod where
  from_ := 1735430400000
  to_ := 1736294400000

theorem inPeriod_yearEnd : InPeriod [1735516800000, 1736208000000] yearEnd where
  low := by decide +kernel
  high := by decide +kernel
  le := by decide +kernel
  dates := by decide +kernel

theorem buildTimeSeries_yearEnd :
    ∃ starts buckets, IsTimeSeries [1735516800000, 1736208000000] yearEnd .WEEK starts buckets ∧
      ∃ n, ∀ fuel, n ≤ fuel →
        buildTimeSeries fuel [1735516800000, 1736208000000] yearEnd .WEEK = some buckets :=
  buildTimeSeries_conserves .WEEK inPeriod_yearEnd

example : buildTimeSeries 5 [1735516800000, 1736208000000] yearEnd .WEEK =
    some [⟨"2024-12-23", 0⟩, ⟨"2024-12-30", 1⟩, ⟨"2025-01-06", 1⟩] := by decide +kernel

end ClientAnalyticsService

end CreativeBackend
