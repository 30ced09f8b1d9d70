import Aqts.IsoTimestamps
import Mathlib.Order.Lattice
import Mathlib.Tactic.IntervalCases

/-!
# Civil dates

Dates of the Gregorian calendar from the first day of year 1 to the last one of year 9999,
by their ordinals: the number of days up to a date, that day included. Years begin where
the years before them end, so that every ordinal has one year, and the days of the week
follow the ordinals.
-/

namespace Aqts.CivilDates

open IsoTimestamps (daysInMonth)

/-- The day that a leap year has more. -/
def leapDay (year : ℕ) : ℕ := if year%4=0 ∧ (year%100≠0 ∨ year%400=0) then 1 else 0

/-- Days before the first one of a year. -/
def daysBeforeYear (year : ℕ) : ℕ :=
  let before := year-1
  before*365+before/4-before/100+before/400

/-- Days of a common year before the first one of a month. -/
def daysBefore : ℕ→ℕ
  | 2 => 31
  | 3 => 59
  | 4 => 90
  | 5 => 120
  | 6 => 151
  | 7 => 181
  | 8 => 212
  | 9 => 243
  | 10 => 273
  | 11 => 304
  | 12 => 334
  | _ => 0

/-- Days of a year before the first one of a month. -/
def daysBeforeMonth (year month : ℕ) : ℕ :=
  daysBefore month+if 2< month then leapDay year else 0

/-- The ordinal of 9999-12-31. -/
def maxOrdinal : ℕ := 3652059

/-- A date. -/
structure Date where
  /-- `toordinal`. -/
  ordinal : ℕ
  /-- The ordinal is in its range. -/
  inRange : 1≤ordinal ∧ ordinal≤ maxOrdinal

/-- The fields of a date are in their ranges. -/
def Valid (year month day : ℕ) : Prop :=
  (1≤year ∧ year≤9999) ∧ (1≤ month ∧ month≤12) ∧ 1≤day ∧ day≤daysInMonth year month

instance (year month day : ℕ) : Decidable (Valid year month day) :=
  inferInstanceAs (Decidable (_ ∧ _))

/-- The ordinal of a date by its fields. -/
def ordinalOf (year month day : ℕ) : ℕ := daysBeforeYear year+daysBeforeMonth year month+day

/-- The year of an ordinal, by the cycles of 400, 100, 4 and 1 years. -/
def yearOf (ordinal : ℕ) : ℕ :=
  let n := ordinal-1
  let n400 := n/146097
  let n100 := n%146097/36524
  let n4 := n%146097%36524/1461
  let n1 := n%146097%36524%1461/365
  let year := n400*400+1+n100*100+n4*4+n1
  if n1=4 ∨ n100=4 then year-1 else year

/-- A leap year has a day more. -/
theorem leapDay_le (year : ℕ) : leapDay year≤1 := by
  unfold leapDay
  split <;> omega

/-- Whole cycles up to a number, and up to the next one. -/
theorem div_succ (n c : ℕ) : (n+1)/c=n/c+if (n+1)%c=0 then 1 else 0 := by
  rw [Nat.succ_div]
  simp only [Nat.dvd_iff_mod_eq_zero]

/-- A year begins where the one before it ends. -/
theorem daysBeforeYear_succ {year : ℕ} (h : 1≤year) :
    daysBeforeYear (year+1)=daysBeforeYear year+365+leapDay year := by
  obtain ⟨n,rfl⟩ := Nat.exists_eq_add_one_of_ne_zero (by omega : year≠0)
  have h100 : (n+1)%100=0→(n+1)%4=0 := by omega
  have h400 : (n+1)%400=0→(n+1)%100=0 := by omega
  have hle : n/100≤n/4 := Nat.div_le_div_left (by decide) (by decide)
  unfold daysBeforeYear leapDay
  dsimp only
  rw [Nat.add_sub_cancel,Nat.add_sub_cancel,div_succ n 4,div_succ n 100,div_succ n 400]
  by_cases hfour : (n+1)%4=0
  · rw [if_pos hfour]
    by_cases hhundred : (n+1)%100=0
    · rw [if_pos hhundred]
      by_cases hcycle : (n+1)%400=0
      · rw [if_pos hcycle,if_pos ⟨hfour,.inr hcycle⟩]
        omega
      · rw [if_neg hcycle,if_neg fun h => h.2.elim (fun hne => hne hhundred) hcycle]
        omega
    · rw [if_neg hhundred,if_neg fun h => hhundred (h400 h),if_pos ⟨hfour,.inl hhundred⟩]
      omega
  · rw [if_neg hfour,if_neg fun h => hfour (h100 h),if_neg fun h => hfour (h100 (h400 h)),
      if_neg fun h => hfour h.1]
    omega

/-- Later years begin later. -/
theorem daysBeforeYear_mono {year later : ℕ} (h : 1≤year) (hle : year≤later) :
    daysBeforeYear year≤daysBeforeYear later := by
  induction later, hle using Nat.le_induction with
  | base => exact le_rfl
  | succ later hle ih =>
    rw [daysBeforeYear_succ (h.trans hle)]
    omega

/-- The days of February. -/
theorem daysInMonth_two (year : ℕ) : daysInMonth year 2=28+leapDay year := by
  unfold daysInMonth leapDay
  rw [if_pos rfl]
  split
  · rfl
  · rfl

/-- A month ends within its year. -/
theorem daysBeforeMonth_add_le {year month day : ℕ} (hmonth : 1≤ month ∧ month≤12)
    (hday : day≤daysInMonth year month) : daysBeforeMonth year month+day≤365+leapDay year := by
  obtain ⟨hone,htwelve⟩ := hmonth
  by_cases htwo : month=2
  · subst htwo
    rw [daysInMonth_two] at hday
    have hbefore : daysBeforeMonth year 2=31 := rfl
    omega
  · unfold daysInMonth at hday
    rw [if_neg htwo] at hday
    unfold daysBeforeMonth
    interval_cases month <;> simp [daysBefore] at hday ⊢ <;> omega

/-- The ordinal of a date is within its year. -/
theorem ordinalOf_bounds {year month day : ℕ} (h : Valid year month day) :
    daysBeforeYear year<ordinalOf year month day ∧
      ordinalOf year month day≤daysBeforeYear (year+1) := by
  obtain ⟨hyear,hmonth,hday⟩ := h
  have hle := daysBeforeMonth_add_le hmonth hday.2
  rw [daysBeforeYear_succ hyear.1]
  unfold ordinalOf
  omega

/-- It is in its range. -/
theorem ordinalOf_inRange {year month day : ℕ} (h : Valid year month day) :
    1≤ordinalOf year month day ∧ ordinalOf year month day≤ maxOrdinal := by
  have hbounds := ordinalOf_bounds h
  have hlast : daysBeforeYear 10000=maxOrdinal := by decide
  have hmono := daysBeforeYear_mono (by omega : 1≤year+1) (by have := h.1.2; omega : year+1≤10000)
  omega

/-- The date with given fields. -/
def Date.at (year month day : ℕ) (h : Valid year month day) : Date :=
  ⟨ordinalOf year month day,ordinalOf_inRange h⟩

/-- What the arithmetic of dates raises. -/
inductive DateError
  /-- `ValueError` for a year out of its range. -/
  | year
  /-- For a month out of its range. -/
  | month
  /-- For a day out of its range. -/
  | day
  /-- `OverflowError`, also for a field that is no C integer. -/
  | overflow
  deriving DecidableEq

/-- The first number that is too large for a field of a date. -/
def cIntLimit : ℕ := 2^31

/-- `date(year, month, day)`. -/
def Date.new (year month day : ℕ) : Except DateError Date :=
  if h : Valid year month day then .ok (.at year month day h)
  else if cIntLimit≤year ∨ cIntLimit≤ month ∨ cIntLimit≤day then .error .overflow
  else if ¬(1≤year ∧ year≤9999) then .error .year
  else if ¬(1≤ month ∧ month≤12) then .error .month
  else .error .day

/-- The date of an ordinal. -/
def Date.fromOrdinal (n : ℤ) : Except DateError Date :=
  if h : 1≤n ∧ n≤ maxOrdinal then .ok ⟨n.toNat,by omega⟩ else .error .overflow

/-- `d + timedelta(days=n)`. -/
def Date.addDays (d : Date) (n : ℤ) : Except DateError Date :=
  Date.fromOrdinal (d.ordinal+n)

/-- `weekday()`: Monday is 0. -/
def Date.weekday (d : Date) : ℕ := (d.ordinal+6)%7

/-- `year`. -/
def Date.year (d : Date) : ℕ := yearOf d.ordinal

/-- Dates with one ordinal are the same. -/
theorem Date.ordinal_injective : Function.Injective Date.ordinal := by
  rintro ⟨n,hn⟩ ⟨m,hm⟩ h
  cases h
  rfl

instance : LinearOrder Date := LinearOrder.lift' Date.ordinal Date.ordinal_injective

/-- Dates are in the order of their ordinals. -/
theorem Date.le_def {d e : Date} : d≤e↔d.ordinal≤e.ordinal := Iff.rfl

/-- The same for the strict order. -/
theorem Date.lt_def {d e : Date} : d<e↔d.ordinal<e.ordinal := Iff.rfl

/-- A result goes into the rest of the computation. -/
theorem ok_bind {ε α β : Type} (a : α) (f : α→Except ε β) : (Except.ok a >>= f)=f a := rfl

/-- Days away from a date. -/
theorem addDays_ok {d : Date} {k : ℤ} {n : ℕ} (h : (d.ordinal : ℤ)+k=n) (hone : 1≤n)
    (hmax : n≤ maxOrdinal) : d.addDays k=.ok ⟨n,hone,hmax⟩ := by
  unfold Date.addDays Date.fromOrdinal
  rw [dif_pos (by omega)]
  refine congrArg Except.ok (Date.ordinal_injective ?_)
  dsimp only
  omega

/-- Days too far away. -/
theorem addDays_error {d : Date} {k : ℤ}
    (h : ¬(1≤(d.ordinal : ℤ)+k ∧ (d.ordinal : ℤ)+k≤ maxOrdinal)) :
    d.addDays k=.error .overflow := dif_neg h

/-- A date some days away is that many ordinals away. -/
theorem ordinal_of_addDays {d e : Date} {k : ℤ} (h : d.addDays k=.ok e) :
    (e.ordinal : ℤ)=d.ordinal+k := by
  by_cases hrange : 1≤(d.ordinal : ℤ)+k ∧ (d.ordinal : ℤ)+k≤ maxOrdinal
  · rw [addDays_ok (n := ((d.ordinal : ℤ)+k).toNat) (by omega) (by omega) (by omega)] at h
    cases h
    dsimp only
    omega
  · rw [addDays_error hrange] at h
    cases h

/-- Days before a year by its cycles of 400, 100 and 4 years. -/
theorem daysBeforeYear_cycles {a b c e : ℕ} (hb : b≤3) (hc : c≤24) (he : e≤3) :
    daysBeforeYear (400*a+100*b+4*c+e+1)=146097*a+36524*b+1461*c+365*e := by
  have h4 : (400*a+100*b+4*c+e)/4=100*a+25*b+c := by omega
  have h100 : (400*a+100*b+4*c+e)/100=4*a+b := by omega
  have h400 : (400*a+100*b+4*c+e)/400=a := by omega
  unfold daysBeforeYear
  dsimp only
  rw [Nat.add_sub_cancel,h4,h100,h400]
  omega

/-- A year that ends a cycle of four years, but not one of 100, or one of 400, is a leap year. -/
theorem leapDay_cycles {a b c : ℕ} (hc : c≤24) (h : c≤23 ∨ b=3) :
    leapDay (400*a+100*b+4*c+3+1)=1 := by
  refine if_pos ⟨by omega,?_⟩
  omega

/-- The year of an ordinal begins before it and ends at it or later. -/
theorem yearOf_spec {n : ℕ} (h : 1≤n) :
    1≤yearOf n ∧ daysBeforeYear (yearOf n)<n ∧ n≤daysBeforeYear (yearOf n+1) := by
  have hn400 := Nat.div_add_mod (n-1) 146097
  have hn100 := Nat.div_add_mod ((n-1)%146097) 36524
  have hn4 := Nat.div_add_mod ((n-1)%146097%36524) 1461
  have hn1 := Nat.div_add_mod ((n-1)%146097%36524%1461) 365
  have hlt400 : (n-1)%146097<146097 := Nat.mod_lt _ (by decide)
  have hlt100 : (n-1)%146097%36524<36524 := Nat.mod_lt _ (by decide)
  have hlt4 : (n-1)%146097%36524%1461<1461 := Nat.mod_lt _ (by decide)
  have hlt1 : (n-1)%146097%36524%1461%365<365 := Nat.mod_lt _ (by decide)
  unfold yearOf
  dsimp only
  generalize (n-1)/146097=a at *
  generalize (n-1)%146097/36524=b at *
  generalize (n-1)%146097%36524/1461=c at *
  generalize (n-1)%146097%36524%1461/365=e at *
  generalize (n-1)%146097%36524%1461%365=r₁ at *
  generalize (n-1)%146097%36524%1461=r₄ at *
  generalize (n-1)%146097%36524=r₁₀₀ at *
  generalize (n-1)%146097=r₄₀₀ at *
  by_cases hlast : e=4 ∨ b=4
  · rw [if_pos hlast]
    by_cases hb : b=4
    · have hyear : a*400+1+b*100+c*4+e-1=400*a+100*3+4*24+3+1 := by omega
      have hleap := leapDay_cycles (a := a) (b := 3) (c := 24) le_rfl (.inr rfl)
      have hbefore := daysBeforeYear_cycles (a := a) (b := 3) (c := 24) (e := 3) le_rfl le_rfl
        le_rfl
      have hnext := daysBeforeYear_succ (by omega : 1≤400*a+100*3+4*24+3+1)
      rw [hyear,hnext,hbefore]
      omega
    · have he : e=4 := by omega
      have hyear : a*400+1+b*100+c*4+e-1=400*a+100*b+4*c+3+1 := by omega
      have hleap := leapDay_cycles (a := a) (b := b) (c := c) (by omega) (by omega)
      have hbefore := daysBeforeYear_cycles (a := a) (b := b) (c := c) (e := 3) (by omega)
        (by omega) le_rfl
      have hnext := daysBeforeYear_succ (by omega : 1≤400*a+100*b+4*c+3+1)
      rw [hyear,hnext,hbefore]
      omega
  · rw [if_neg hlast]
    have hyear : a*400+1+b*100+c*4+e=400*a+100*b+4*c+e+1 := by omega
    have hbefore := daysBeforeYear_cycles (a := a) (b := b) (c := c) (e := e) (by omega) (by omega)
      (by omega)
    have hnext := daysBeforeYear_succ (by omega : 1≤400*a+100*b+4*c+e+1)
    rw [hyear,hnext,hbefore]
    omega

/-- A date is in a year exactly when its ordinal is behind the years before and not behind that
year. -/
theorem Date.year_eq_iff (d : Date) {year : ℕ} (h : 1≤year) :
    d.year=year↔daysBeforeYear year<d.ordinal ∧ d.ordinal≤daysBeforeYear (year+1) := by
  obtain ⟨hone,hbegins,hends⟩ := yearOf_spec d.inRange.1
  unfold Date.year
  constructor
  · rintro rfl
    exact ⟨hbegins,hends⟩
  · rintro ⟨hafter,hnot⟩
    obtain hlt | heq | hgt := lt_trichotomy (yearOf d.ordinal) year
    · have hmono := daysBeforeYear_mono (by omega : 1≤yearOf d.ordinal+1) hlt
      omega
    · exact heq
    · have hmono := daysBeforeYear_mono (by omega : 1≤year+1) hgt
      omega

/-- The year of a date is in its range. -/
theorem Date.year_range (d : Date) : 1≤d.year ∧ d.year≤9999 := by
  obtain ⟨hone,hbegins,-⟩ := yearOf_spec d.inRange.1
  refine ⟨hone,?_⟩
  by_contra hlt
  have hmono := daysBeforeYear_mono (by decide : 1≤10000) (not_le.mp hlt)
  have hlast : daysBeforeYear 10000=maxOrdinal := by decide
  have hmax := d.inRange.2
  unfold Date.year at hmono
  omega

end Aqts.CivilDates
