import Aqts.DateScans
import Mathlib.Data.Finset.Sort

/-!
# The market calendar

Trading days, early closes and hours of the Korean and the New York exchange. Holidays of the
first are a table; those of the second are computed year by year, fixed dates with a rule that
moves them off the weekend, and dates that follow the days of the week or Easter.
-/

namespace Aqts.MarketCalendar

open CivilDates DateScans

/-- `Market`. -/
inductive Market
  /-- `KRX`. -/
  | krx
  /-- `NYSE`. -/
  | nyse
  deriving DecidableEq

/-- `KR_HOLIDAYS`. -/
def krHolidays : Finset Date :=
  [.at 2025 1 1 (by decide),.at 2025 1 28 (by decide),.at 2025 1 29 (by decide),
    .at 2025 1 30 (by decide),.at 2025 3 1 (by decide),.at 2025 5 5 (by decide),
    .at 2025 5 6 (by decide),.at 2025 6 6 (by decide),.at 2025 8 15 (by decide),
    .at 2025 10 3 (by decide),.at 2025 10 6 (by decide),.at 2025 10 7 (by decide),
    .at 2025 10 8 (by decide),.at 2025 10 9 (by decide),.at 2025 12 25 (by decide),
    .at 2026 1 1 (by decide),.at 2026 2 16 (by decide),.at 2026 2 17 (by decide),
    .at 2026 2 18 (by decide),.at 2026 3 1 (by decide),.at 2026 5 5 (by decide),
    .at 2026 5 24 (by decide),.at 2026 6 6 (by decide),.at 2026 8 15 (by decide),
    .at 2026 9 24 (by decide),.at 2026 9 25 (by decide),.at 2026 9 26 (by decide),
    .at 2026 10 3 (by decide),.at 2026 10 9 (by decide),.at 2026 12 25 (by decide)].toFinset

/-- `_nth_weekday`. -/
def nthWeekday (year month weekday n : ℕ) : Except DateError Date := do
  let first ← Date.new year month 1
  let offset := ((weekday : ℤ)-first.weekday)%7
  let firstWeekday ← first.addDays offset
  firstWeekday.addDays (7*((n : ℤ)-1))

/-- `_last_weekday`. -/
def lastWeekday (year month weekday : ℕ) : Except DateError Date := do
  let next ← if month=12 then Date.new (year+1) 1 1 else Date.new year (month+1) 1
  let lastDay ← next.addDays (-1)
  let offset := ((lastDay.weekday : ℤ)-weekday)%7
  lastDay.addDays (-offset)

/-- `_observed_holiday`. -/
def observedHoliday (d : Date) : Except DateError Date :=
  if d.weekday=5 then d.addDays (-1)
  else if d.weekday=6 then d.addDays 1
  else .ok d

/-- The number that `_calculate_easter` splits into the month and the day. -/
def easterNumber (year : ℤ) : ℤ :=
  let a := year%19
  let b := year/100
  let c := year%100
  let d := b/4
  let e := b%4
  let f := (b+8)/25
  let g := (b-f+1)/3
  let h := (19*a+b-d-g+15)%30
  let i := c/4
  let k := c%4
  let l := (32+2*e+2*i-h-k)%7
  let m := (a+11*h+22*l)/451
  h+l-7*m+114

/-- `_calculate_easter`. -/
def calculateEaster (year : ℕ) : Except DateError Date :=
  let month := easterNumber year/31
  let day := easterNumber year%31+1
  Date.new year month.toNat day.toNat

/-- `get_nyse_holidays`. -/
def getNyseHolidays (year : ℕ) : Except DateError (Finset Date) := do
  let newYear ← observedHoliday (← Date.new year 1 1)
  let independenceDay ← observedHoliday (← Date.new year 7 4)
  let christmas ← observedHoliday (← Date.new year 12 25)
  let juneteenth ← observedHoliday (← Date.new year 6 19)
  let mlkDay ← nthWeekday year 1 0 3
  let presidentsDay ← nthWeekday year 2 0 3
  let memorialDay ← lastWeekday year 5 0
  let laborDay ← nthWeekday year 9 0 1
  let thanksgiving ← nthWeekday year 11 3 4
  let easter ← calculateEaster year
  let goodFriday ← easter.addDays (-2)
  .ok {newYear,independenceDay,christmas,juneteenth,mlkDay,presidentsDay,memorialDay,laborDay,
    thanksgiving,goodFriday}

/-- A date unless it falls on the weekend. -/
def weekdayOnly (d : Date) : Finset Date := if d.weekday<5 then {d} else ∅

/-- `get_nyse_early_close_dates`. -/
def getNyseEarlyCloseDates (year : ℕ) : Except DateError (Finset Date) := do
  let jul3 ← Date.new year 7 3
  let thanksgiving ← nthWeekday year 11 3 4
  let friday ← thanksgiving.addDays 1
  let dec24 ← Date.new year 12 24
  .ok (weekdayOnly jul3 ∪ {friday} ∪ weekdayOnly dec24)

/-- `is_trading_day`. -/
def isTradingDay (d : Date) (market : Market) : Except DateError Bool :=
  if 5≤d.weekday then .ok false
  else match market with
    | .krx => .ok (decide (d∉krHolidays))
    | .nyse => (getNyseHolidays d.year).map fun holidays => decide (d∉holidays)

/-- `is_holiday`. -/
def isHoliday (d : Date) (market : Market) : Except DateError Bool :=
  if 5≤d.weekday then .ok false
  else match market with
    | .krx => .ok (decide (d∈krHolidays))
    | .nyse => (getNyseHolidays d.year).map fun holidays => decide (d∈holidays)

/-- `is_early_close`. -/
def isEarlyClose (d : Date) (market : Market) : Except DateError Bool :=
  match market with
  | .krx => .ok false
  | .nyse => (getNyseEarlyCloseDates d.year).map fun dates => decide (d∈dates)

/-- `get_holidays`. -/
def getHolidays (year : ℕ) (market : Market) : Except DateError (List Date) :=
  match market with
  | .krx => .ok (krHolidays.filter fun d => d.year=year).sort
  | .nyse => (getNyseHolidays year).map fun holidays => holidays.sort

/-- `next_trading_day`. -/
def nextTradingDay (d : Date) (market : Market) : Except DateError Date := do
  let candidate ← d.addDays 1
  search (isTradingDay · market) .forwards candidate

/-- `prev_trading_day`. -/
def prevTradingDay (d : Date) (market : Market) : Except DateError Date := do
  let candidate ← d.addDays (-1)
  search (isTradingDay · market) .backwards candidate

/-- `trading_days_between`. -/
def tradingDaysBetween (start stop : Date) (market : Market) : Except DateError (List Date) :=
  collect (isTradingDay · market) stop start []

/-- `trading_day_count`. -/
def tradingDayCount (start stop : Date) (market : Market) : Except DateError ℕ :=
  (tradingDaysBetween start stop market).map List.length

/-- A result that is kept by year: the value from the cache, or the computed one, which joins
the cache unless it is an error. -/
def cached {α : Type} (compute : ℕ→Except DateError α) (cache : ℕ→Option α) (year : ℕ) :
    Except DateError α×(ℕ→Option α) :=
  match cache year with
  | some value => (.ok value,cache)
  | none =>
    match compute year with
    | .ok value => (.ok value,Function.update cache year (some value))
    | .error e => (.error e,cache)

/-- Whatever the cache holds was computed. -/
def CacheSound {α : Type} (compute : ℕ→Except DateError α) (cache : ℕ→Option α) : Prop :=
  ∀ year value,cache year=some value→ compute year=.ok value

/-- The empty cache is sound. -/
theorem cacheSound_empty {α : Type} (compute : ℕ→Except DateError α) :
    CacheSound compute fun _ => none := by
  intro year value h
  cases h

/-- A lookup in a sound cache is the computation, and the cache stays sound. -/
theorem cached_sound {α : Type} {compute : ℕ→Except DateError α} {cache : ℕ→Option α}
    (h : CacheSound compute cache) (year : ℕ) :
    (cached compute cache year).1=compute year ∧
      CacheSound compute (cached compute cache year).2 := by
  unfold cached
  cases hcache : cache year with
  | some value => exact ⟨(h year value hcache).symm,h⟩
  | none =>
    cases hcompute : compute year with
    | error e => exact ⟨rfl,h⟩
    | ok value =>
      refine ⟨rfl,fun other kept hkept => ?_⟩
      dsimp only at hkept
      by_cases heq : other=year
      · subst heq
        rw [Function.update_self] at hkept
        cases hkept
        exact hcompute
      · rw [Function.update_of_ne heq] at hkept
        exact h other kept hkept

/-- `_get_nyse_holidays_cached`. -/
def getNyseHolidaysCached : (ℕ→Option (Finset Date))→ℕ→
    Except DateError (Finset Date)×(ℕ→Option (Finset Date)) :=
  cached getNyseHolidays

/-- `_get_nyse_early_close_cached`. -/
def getNyseEarlyCloseCached : (ℕ→Option (Finset Date))→ℕ→
    Except DateError (Finset Date)×(ℕ→Option (Finset Date)) :=
  cached getNyseEarlyCloseDates

/-- What lookups return, one after the other. -/
def lookups {α : Type} (lookup : (ℕ→Option α)→ℕ→Except DateError α×(ℕ→Option α)) :
    (ℕ→Option α)→List ℕ→List (Except DateError α)
  | _,[] => []
  | cache,year::years => (lookup cache year).1::lookups lookup (lookup cache year).2 years

/-- Lookups from a sound cache return what is computed for their years. -/
theorem lookups_cached {α : Type} {compute : ℕ→Except DateError α} {cache : ℕ→Option α}
    (h : CacheSound compute cache) (years : List ℕ) :
    lookups (cached compute) cache years=years.map compute := by
  induction years generalizing cache with
  | nil => rfl
  | cons year rest ih =>
    obtain ⟨hreturned,hsound⟩ := cached_sound h year
    rw [lookups,hreturned,ih hsound]
    rfl

/-- In every order of years, the holidays and the early closes looked up are the computed ones. -/
theorem lookups_computed (years : List ℕ) :
    lookups getNyseHolidaysCached (fun _ => none) years=years.map getNyseHolidays ∧
      lookups getNyseEarlyCloseCached (fun _ => none) years=years.map getNyseEarlyCloseDates :=
  ⟨lookups_cached (cacheSound_empty getNyseHolidays) years,
    lookups_cached (cacheSound_empty getNyseEarlyCloseDates) years⟩

end Aqts.MarketCalendar
