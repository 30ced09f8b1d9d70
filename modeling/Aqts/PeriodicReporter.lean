import Aqts.Drawdowns
import Aqts.HalfEvenRounding
import Aqts.TradingDays
import Aqts.WalkForwardRuns
import Mathlib.Data.List.MinMax
import Mathlib.Order.Lattice.Nat

/-!
# Periodic reports

`core.periodic_reporter`: the days on which a weekly and a monthly report are due, by the calendar
of the Korean exchange, and what a report says of the days of its period. Every month has exactly
one day for its report; a week has one if its Friday is a trading day. The reports of the months
of a year take each of its days once.
-/

namespace Aqts.PeriodicReporter

open CivilDates MarketCalendar
open IsoTimestamps (daysInMonth)
open WalkForwardRuns (roundTo)

section Months

/-- The day of the year, from one. -/
def dayOfYear (d : Date) : ℕ := d.ordinal-daysBeforeYear d.year

/-- `month`: the last one that begins before the day. -/
def month (d : Date) : ℕ := Nat.findGreatest (fun m => daysBeforeMonth d.year m<dayOfYear d) 12

/-- Months begin one after another. -/
theorem daysBeforeMonth_add {year m : ℕ} (hone : 1≤ m) (hm : m< 12) :
    daysBeforeMonth year (m+1)=daysBeforeMonth year m+daysInMonth year m := by
  have hfebruary := daysInMonth_two year
  interval_cases m
  case «2» =>
    rw [hfebruary]
    unfold daysBeforeMonth
    simp only [daysBefore]
    split_ifs <;> omega
  all_goals
    unfold daysBeforeMonth daysInMonth
    simp [daysBefore]
    try omega

/-- Later months begin later. -/
theorem daysBeforeMonth_mono {year m later : ℕ} (hone : 1≤ m) (hle : m≤later) (hlater : later≤12) :
    daysBeforeMonth year m≤daysBeforeMonth year later := by
  induction later, hle using Nat.le_induction with
  | base => exact le_refl _
  | succ n hmn ih =>
    rw [daysBeforeMonth_add (hone.trans hmn) (by omega)]
    exact (ih (by omega)).trans (Nat.le_add_right _ _)

/-- A date is in its year. -/
theorem dayOfYear_spec (d : Date) :
    d.ordinal=daysBeforeYear d.year+dayOfYear d ∧ 1≤dayOfYear d ∧
      dayOfYear d≤365+leapDay d.year := by
  have hyear := d.year_range.1
  obtain ⟨hbegins,hends⟩ := (Date.year_eq_iff d hyear).mp rfl
  rw [daysBeforeYear_succ hyear] at hends
  unfold dayOfYear
  omega

/-- A date is in a month exactly when it is not before the first day of the month or behind the
last one. -/
theorem month_eq_iff (d : Date) {m : ℕ} (hone : 1≤ m) (hm : m≤12) :
    month d=m ↔ daysBeforeMonth d.year m<dayOfYear d ∧
      dayOfYear d≤daysBeforeMonth d.year m+daysInMonth d.year m := by
  obtain ⟨-,hpos,hlast⟩ := dayOfYear_spec d
  unfold month
  rw [Nat.findGreatest_eq_iff]
  constructor
  · rintro ⟨-,hbegins,hlater⟩
    refine ⟨hbegins (by omega),?_⟩
    by_cases htwelve : m=12
    · subst htwelve
      have hend : daysBeforeMonth d.year 12+daysInMonth d.year 12=365+leapDay d.year := by
        unfold daysBeforeMonth daysInMonth
        simp [daysBefore]
        omega
      omega
    · have hnext := hlater (Nat.lt_succ_self m) (by omega)
      rw [Nat.succ_eq_add_one,daysBeforeMonth_add hone (by omega)] at hnext
      omega
  · rintro ⟨hbegins,hends⟩
    refine ⟨hm,fun _ => hbegins,?_⟩
    intro later hlt hle hbefore
    have hmono : daysBeforeMonth d.year (m+1)≤daysBeforeMonth d.year later :=
      daysBeforeMonth_mono (by omega) hlt hle
    rw [daysBeforeMonth_add hone (by omega)] at hmono
    omega

/-- The month of a date is in its range. -/
theorem month_range (d : Date) : 1≤ month d ∧ month d≤12 := by
  obtain ⟨-,hpos,-⟩ := dayOfYear_spec d
  refine ⟨Nat.le_findGreatest (by omega) ?_,Nat.findGreatest_le 12⟩
  show daysBeforeMonth d.year 1<dayOfYear d
  have hzero : daysBeforeMonth d.year 1=0 := rfl
  omega

/-- Two dates in one month. -/
def SameMonth (d e : Date) : Prop := d.year=e.year ∧ month d=month e

/-- What is between two dates of a month is in that month. -/
theorem SameMonth.between {d e x : Date} (h : SameMonth d x) (hde : d≤e) (hex : e≤x) :
    SameMonth d e := by
  obtain ⟨hyear,hmonth⟩ := h
  have hone := d.year_range.1
  have hfirst := (Date.year_eq_iff d hone).mp rfl
  have hlast := (Date.year_eq_iff x hone).mp hyear.symm
  rw [Date.le_def] at hde hex
  have hsame : e.year=d.year := (Date.year_eq_iff e hone).mpr ⟨by omega,by omega⟩
  obtain ⟨hd,-,-⟩ := dayOfYear_spec d
  obtain ⟨he,-,-⟩ := dayOfYear_spec e
  obtain ⟨hx,-,-⟩ := dayOfYear_spec x
  obtain ⟨hm,hm'⟩ := month_range d
  obtain ⟨hbegins,-⟩ := (month_eq_iff d hm hm').mp rfl
  obtain ⟨-,hends⟩ := (month_eq_iff x hm hm').mp hmonth.symm
  rw [← hyear] at hends hx
  rw [hsame] at he
  refine ⟨hsame.symm,((month_eq_iff e hm hm').mpr ?_).symm⟩
  rw [hsame]
  exact ⟨by omega,by omega⟩

/-- Two dates at most a week and a day apart with one number of the month are in one month. -/
theorem sameMonth_near {d e : Date} (hde : d≤e) (hnear : e.ordinal≤d.ordinal+8)
    (hmonth : month d=month e) : SameMonth d e := by
  refine ⟨?_,hmonth⟩
  rw [Date.le_def] at hde
  have hone := d.year_range.1
  have hone' := e.year_range.1
  have hd := (Date.year_eq_iff d hone).mp rfl
  have he := (Date.year_eq_iff e hone').mp rfl
  by_contra hne
  -- the later one would be in the next year, in January as the earlier one in December
  have hlt : d.year<e.year := by
    by_contra hge
    have hmono := daysBeforeYear_mono (by omega : 1≤e.year+1) (by omega : e.year+1≤d.year)
    omega
  have hmono := daysBeforeYear_mono (by omega : 1≤d.year+1) (by omega : d.year+1≤e.year)
  obtain ⟨hdday,-,-⟩ := dayOfYear_spec d
  obtain ⟨heday,-,-⟩ := dayOfYear_spec e
  have hsucc := daysBeforeYear_succ hone
  obtain ⟨hm,hm'⟩ := month_range d
  obtain ⟨-,hends⟩ := (month_eq_iff d hm hm').mp rfl
  obtain ⟨hbegins,-⟩ := (month_eq_iff e hm hm').mp hmonth.symm
  have hleap : daysBeforeMonth d.year (month d)≤daysBeforeMonth e.year (month d)+1 := by
    have hd := leapDay_le d.year
    unfold daysBeforeMonth
    split_ifs <;> omega
  have hlength : daysInMonth d.year (month d)≤31 := by
    unfold daysInMonth
    split_ifs <;> omega
  omega

end Months

section Due

/-- `should_generate_weekly`. -/
def shouldGenerateWeekly (d : Date) : Except DateError Bool := do
  if d.weekday=4 then
    if ← isTradingDay d .krx then
      return true
  let next ← d.addDays 1
  if next.weekday=5 then
    if ← isTradingDay d .krx then
      return true
  return false

/-- `should_generate_monthly`. -/
def shouldGenerateMonthly (d : Date) : Except DateError Bool := do
  if !(← isTradingDay d .krx) then
    return false
  let next ← nextTradingDay d .krx
  return decide (month next≠month d)

/-- `get_week_range`. -/
def getWeekRange (d : Date) : Except DateError (Date×Date) := do
  let monday ← d.addDays (-(d.weekday : ℤ))
  let friday ← monday.addDays 4
  return (monday,friday)

/-- Trading days of Korea are decided. -/
theorem krx_decided (d : Date) : isTradingDay d .krx=.ok true ∨ isTradingDay d .krx=.ok false := by
  obtain ⟨b,hb⟩ := (decides_isTradingDay .krx).exists d
  rw [hb]
  cases b with
  | true => exact .inl rfl
  | false => exact .inr rfl

/-- Before the last date a day is due for the monthly report exactly if it is the last trading day
of its month. -/
theorem monthly_iff {d : Date} (h : d<lastDate) :
    ∃ due,shouldGenerateMonthly d=.ok due ∧
      (due=true ↔ IsGreatest {e | SameMonth d e ∧ Trading .krx e} d) := by
  rcases krx_decided d with htrading | hclosed
  · obtain ⟨next,hnext,hleast⟩ := nextTradingDay_isLeast .krx h
    have hnear := nextTradingDay_within hnext
    refine ⟨decide (month next≠month d),?_,?_⟩
    · unfold shouldGenerateMonthly
      rw [htrading,ok_bind,if_neg (by simp),hnext,ok_bind]
      rfl
    rw [decide_eq_true_eq]
    constructor
    · intro hne
      refine ⟨⟨⟨rfl,rfl⟩,htrading⟩,?_⟩
      rintro e ⟨hsame,he⟩
      by_contra hlater
      have hbetween := hsame.between hleast.1.1.le (hleast.2 ⟨not_le.mp hlater,he⟩)
      exact hne hbetween.2.symm
    · rintro ⟨-,hgreatest⟩ heq
      have hsame := sameMonth_near hleast.1.1.le hnear heq.symm
      exact absurd (hgreatest ⟨hsame,hleast.1.2⟩) (not_le.mpr hleast.1.1)
  · refine ⟨false,?_,?_⟩
    · unfold shouldGenerateMonthly
      rw [hclosed,ok_bind]
      rfl
    · refine ⟨nofun,?_⟩
      rintro ⟨⟨-,htrading⟩,-⟩
      unfold Trading at htrading
      rw [hclosed] at htrading
      cases htrading

/-- On the last date the next trading day is asked for in vain. -/
theorem monthly_lastDate : shouldGenerateMonthly lastDate=.error .overflow := by
  have htrading := trading_lastDate .krx
  unfold Trading at htrading
  unfold shouldGenerateMonthly
  rw [htrading,ok_bind,if_neg (by simp),nextTradingDay_lastDate]
  rfl

/-- The month and the year of a date with given fields. -/
theorem fields_at {year m day : ℕ} (h : Valid year m day) :
    (Date.at year m day h).year=year ∧ month (Date.at year m day h)=m := by
  have hyear : (Date.at year m day h).year=year :=
    (Date.year_eq_iff _ h.1.1).mpr (ordinalOf_bounds h)
  refine ⟨hyear,(month_eq_iff _ h.2.1.1 h.2.1.2).mpr ?_⟩
  have hday : dayOfYear (Date.at year m day h)=daysBeforeMonth year m+day := by
    unfold dayOfYear
    rw [hyear]
    show daysBeforeYear year+daysBeforeMonth year m+day-daysBeforeYear year=_
    omega
  rw [hyear,hday]
  exact ⟨by have := h.2.2.1; omega,by have := h.2.2.2; omega⟩

/-- Every month has a trading day. -/
theorem exists_trading {year m : ℕ} (hyear : 1≤year ∧ year≤9999) (hm : 1≤ m ∧ m≤12) :
    ∃ d : Date,(d.year=year ∧ month d=m) ∧ Trading .krx d := by
  have hlength : 28≤daysInMonth year m := by
    unfold daysInMonth
    split_ifs <;> omega
  have hfirst : Valid year m 1 := ⟨hyear,hm,by omega,by omega⟩
  have hlast : Valid year m 28 := ⟨hyear,hm,by omega,hlength⟩
  obtain ⟨hyear₁,hmonth₁⟩ := fields_at hfirst
  obtain ⟨hyear₂,hmonth₂⟩ := fields_at hlast
  have hrange := ordinalOf_inRange hlast
  unfold ordinalOf at hrange
  obtain ⟨d,hafter,hnear,htrading⟩ := exists_trading_krx
    (n := daysBeforeYear year+daysBeforeMonth year m) (by omega)
  have hbetween : SameMonth (Date.at year m 1 hfirst) d := by
    refine SameMonth.between (x := Date.at year m 28 hlast) ?_ ?_ ?_
    · exact ⟨hyear₁.trans hyear₂.symm,hmonth₁.trans hmonth₂.symm⟩
    · show daysBeforeYear year+daysBeforeMonth year m+1≤d.ordinal
      omega
    · show d.ordinal≤daysBeforeYear year+daysBeforeMonth year m+28
      omega
  exact ⟨d,⟨hbetween.1.symm.trans hyear₁,hbetween.2.symm.trans hmonth₁⟩,htrading⟩

/-- Every month but the last one of all has exactly one day for its report, and that is its last
trading day. -/
theorem monthly_once {year m : ℕ} (hyear : 1≤year ∧ year≤9999) (hm : 1≤ m ∧ m≤12)
    (hlast : ¬(year=9999 ∧ m=12)) :
    ∃ d : Date,IsGreatest {e | (e.year=year ∧ month e=m) ∧ Trading .krx e} d ∧
      ∀ e : Date,e.year=year ∧ month e=m→(shouldGenerateMonthly e=.ok true ↔ e=d) := by
  -- the last trading day, by the ordinals
  obtain ⟨first,hfirst⟩ := exists_trading hyear hm
  have hbounded : BddAbove (Date.ordinal '' {e | (e.year=year ∧ month e=m) ∧ Trading .krx e}) := by
    refine ⟨maxOrdinal,?_⟩
    rintro _ ⟨e,_,rfl⟩
    exact e.inRange.2
  obtain ⟨d,hd,hsup⟩ := Nat.sSup_mem (Set.Nonempty.image Date.ordinal ⟨first,hfirst⟩) hbounded
  have hgreatest : IsGreatest {e | (e.year=year ∧ month e=m) ∧ Trading .krx e} d := by
    refine ⟨hd,fun e he => ?_⟩
    rw [Date.le_def,hsup]
    exact le_csSup hbounded ⟨e,he,rfl⟩
  refine ⟨d,hgreatest,?_⟩
  intro e he
  have hbefore : e<lastDate := by
    refine lt_of_le_of_ne (Date.le_def.mpr e.inRange.2) ?_
    rintro rfl
    obtain ⟨hy,hmo⟩ := fields_at (by decide : Valid 9999 12 31)
    exact hlast ⟨he.1.symm.trans hy,he.2.symm.trans hmo⟩
  have hset : {x | SameMonth e x ∧ Trading .krx x}=
      {x | (x.year=year ∧ month x=m) ∧ Trading .krx x} := by
    ext x
    unfold SameMonth
    rw [Set.mem_ofPred_eq,Set.mem_ofPred_eq,he.1,he.2]
    constructor
    · rintro ⟨⟨hy,hmo⟩,hx⟩
      exact ⟨⟨hy.symm,hmo.symm⟩,hx⟩
    · rintro ⟨⟨hy,hmo⟩,hx⟩
      exact ⟨⟨hy.symm,hmo.symm⟩,hx⟩
  obtain ⟨due,hdue,hiff⟩ := monthly_iff hbefore
  rw [hset] at hiff
  rw [hdue]
  constructor
  · intro htrue
    exact (hiff.mp (Except.ok.inj htrue)).unique hgreatest
  · rintro rfl
    rw [hiff.mpr hgreatest]

/-- In October 2025 the report is due on the last day, a Friday. -/
theorem monthly_once_october :
    ∃ d : Date,IsGreatest {e | (e.year=2025 ∧ month e=10) ∧ Trading .krx e} d ∧
      ∀ e : Date,e.year=2025 ∧ month e=10→(shouldGenerateMonthly e=.ok true ↔ e=d) :=
  monthly_once (by decide) (by decide) (by decide)

/-- A day is due for the weekly report exactly if it is a Friday with trading: a week whose Friday
is closed has no report. -/
theorem weekly_iff (d : Date) :
    ∃ due,shouldGenerateWeekly d=.ok due ∧ (due=true ↔ d.weekday=4 ∧ Trading .krx d) := by
  have hnext : ¬(d.weekday=4 ∧ Trading .krx d)→∃ next,d.addDays 1=.ok next ∧
      (next.weekday=5 ↔ d.weekday=4) := by
    intro hnot
    have hrange := d.inRange
    have hroom : d.ordinal< maxOrdinal := by
      refine lt_of_le_of_ne hrange.2 fun heq => hnot ?_
      have hd : d=lastDate := Date.ordinal_injective heq
      subst hd
      exact ⟨rfl,trading_lastDate .krx⟩
    refine ⟨_,addDays_ok (n := d.ordinal+1) rfl (by omega) (by omega),?_⟩
    unfold Date.weekday
    dsimp only
    omega
  unfold shouldGenerateWeekly
  by_cases hfriday : d.weekday=4
  · rcases krx_decided d with htrading | hclosed
    · rw [if_pos hfriday,htrading,ok_bind]
      exact ⟨true,rfl,fun _ => ⟨hfriday,htrading⟩,fun _ => rfl⟩
    · have hnot : ¬(d.weekday=4 ∧ Trading .krx d) := by
        rintro ⟨-,htrading⟩
        unfold Trading at htrading
        rw [hclosed] at htrading
        cases htrading
      obtain ⟨next,hadd,hsaturday⟩ := hnext hnot
      rw [if_pos hfriday,hclosed,ok_bind,if_neg (by simp),hadd]
      refine ⟨false,?_,nofun,fun h => absurd h hnot⟩
      rw [ok_bind,if_pos (hsaturday.mpr hfriday),ok_bind,if_neg (by simp)]
      rfl
  · have hnot : ¬(d.weekday=4 ∧ Trading .krx d) := fun h => hfriday h.1
    obtain ⟨next,hadd,hsaturday⟩ := hnext hnot
    rw [if_neg hfriday,hadd]
    refine ⟨false,?_,nofun,fun h => absurd h hnot⟩
    rw [ok_bind,if_neg fun h => hfriday (hsaturday.mp h)]
    rfl

end Due

section Reports

/-- `DailySummary`. -/
structure DailySummary where
  /-- `date`. -/
  date : Date
  /-- `portfolio_value`. -/
  portfolioValue : ℚ
  /-- `daily_pnl`. -/
  dailyPnl : ℚ
  /-- `daily_return_pct`. -/
  dailyReturnPct : ℚ
  /-- `trades_count`. -/
  tradesCount : ℕ

/-- `ReportPeriod`. -/
inductive ReportPeriod
  /-- `DAILY`. -/
  | daily
  /-- `WEEKLY`. -/
  | weekly
  /-- `MONTHLY`. -/
  | monthly
  deriving DecidableEq

/-- `PeriodicReport`, without the measures by the deviation of the returns and the time. -/
structure PeriodicReport where
  /-- `period`. -/
  period : ReportPeriod
  /-- `start_date`. -/
  startDate : Date
  /-- `end_date`. -/
  endDate : Date
  /-- `trading_mode`. -/
  tradingMode : String := "DEMO"
  /-- `portfolio_value_start`. -/
  portfolioValueStart : ℚ := 0
  /-- `portfolio_value_end`. -/
  portfolioValueEnd : ℚ := 0
  /-- `period_pnl`. -/
  periodPnl : ℚ := 0
  /-- `period_return_pct`. -/
  periodReturnPct : ℚ := 0
  /-- `cumulative_return_pct`. -/
  cumulativeReturnPct : ℚ := 0
  /-- `daily_summaries`. -/
  dailySummaries : List DailySummary := []
  /-- `best_day`. -/
  bestDay : Option DailySummary := none
  /-- `worst_day`. -/
  worstDay : Option DailySummary := none
  /-- `total_trades`. -/
  totalTrades : ℕ := 0
  /-- `max_drawdown_pct`. -/
  maxDrawdownPct : ℚ := 0
  /-- `strategy_contributions`. -/
  strategyContributions : List (String×ℚ) := []
  /-- `benchmark_return_pct`. -/
  benchmarkReturnPct : ℚ := 0
  /-- `excess_return_pct`. -/
  excessReturnPct : ℚ := 0
  /-- `trading_days`. -/
  tradingDays : ℕ := 0

/-- One day of `_calculate_mdd`: the peak and the deepest fall so far. -/
def mddStep (reached : ℚ×ℚ) (d : DailySummary) : ℚ×ℚ :=
  let peak := if d.portfolioValue>reached.1 then d.portfolioValue else reached.1
  let dd := if peak>0 then (d.portfolioValue-peak)/peak*100 else 0
  (peak,min reached.2 dd)

/-- `_calculate_mdd`. -/
def calculateMdd : List DailySummary→ℚ
  | [] => 0
  | first::later => ((first::later).foldl mddStep (first.portfolioValue,0)).2

/-- `sorted(daily_data, key=lambda d: d.date)`. -/
def byDate (dailyData : List DailySummary) : List DailySummary :=
  dailyData.insertionSort fun d e => d.date≤e.date

/-- `_build_report`. -/
def buildReport (period : ReportPeriod) (startDate endDate : Date) (dailyData : List DailySummary)
    (initialCapital : ℚ) (tradingMode : String) : PeriodicReport :=
  let report : PeriodicReport := {
    period := period
    startDate := startDate
    endDate := endDate
    tradingMode := tradingMode }
  let dailyData := byDate dailyData
  match dailyData.head?,dailyData.getLast? with
  | some first,some last =>
    let startValue := first.portfolioValue-first.dailyPnl
    let endValue := last.portfolioValue
    let periodPnl := endValue-startValue
    let periodReturn := if startValue>0 then periodPnl/startValue*100 else 0
    let cumulativeReturn :=
      if initialCapital>0 then (endValue-initialCapital)/initialCapital*100 else 0
    { report with
      portfolioValueStart := roundTo 1 startValue
      portfolioValueEnd := roundTo 1 endValue
      periodPnl := roundTo 1 periodPnl
      periodReturnPct := roundTo 100 periodReturn
      cumulativeReturnPct := roundTo 100 cumulativeReturn
      dailySummaries := dailyData
      bestDay := dailyData.argmax fun d => d.dailyReturnPct
      worstDay := dailyData.argmin fun d => d.dailyReturnPct
      totalTrades := (dailyData.map fun d => d.tradesCount).sum
      maxDrawdownPct := roundTo 100 (calculateMdd dailyData)
      tradingDays := dailyData.length }
  | _,_ => report

/-- `generate_weekly`. -/
def generateWeekly (dailyData : List DailySummary) (weekStart weekEnd : Date)
    (initialCapital : ℚ) (tradingMode : String) : PeriodicReport :=
  let weekData := dailyData.filter fun d => weekStart≤d.date ∧ d.date≤weekEnd
  buildReport .weekly weekStart weekEnd weekData initialCapital tradingMode

/-- `generate_monthly`. -/
def generateMonthly (dailyData : List DailySummary) (year month : ℕ) (initialCapital : ℚ)
    (tradingMode : String) (benchmarkReturnPct : ℚ)
    (strategyContributions : Option (List (String×ℚ))) : Except DateError PeriodicReport := do
  let monthStart ← Date.new year month 1
  let next ← (if month=12 then Date.new (year+1) 1 1 else Date.new year (month+1) 1)
  let monthEnd ← next.addDays (-1)
  let monthData := dailyData.filter fun d => monthStart≤d.date ∧ d.date≤ monthEnd
  let report := buildReport .monthly monthStart monthEnd monthData initialCapital tradingMode
  return { report with
    benchmarkReturnPct := benchmarkReturnPct
    excessReturnPct := roundTo 100 (report.periodReturnPct-benchmarkReturnPct)
    strategyContributions := strategyContributions.getD [] }

/-- What a report says of its days, whether there are any or not. -/
theorem buildReport_days (period : ReportPeriod) (startDate endDate : Date)
    (dailyData : List DailySummary) (initialCapital : ℚ) (tradingMode : String) :
    let report := buildReport period startDate endDate dailyData initialCapital tradingMode
    report.dailySummaries=byDate dailyData ∧
      report.totalTrades=(dailyData.map fun d => d.tradesCount).sum ∧
      report.tradingDays=dailyData.length ∧
      report.maxDrawdownPct=roundTo 100 (calculateMdd (byDate dailyData)) := by
  have hperm : (byDate dailyData).Perm dailyData := List.perm_insertionSort _ _
  have hsum := (hperm.map fun d => d.tradesCount).sum_eq
  have hlength := hperm.length_eq
  unfold buildReport
  cases hdays : byDate dailyData with
  | nil =>
    rw [hdays] at hsum hlength
    have hzero : roundTo 100 (calculateMdd [])=0 := by
      have hround := PandasSeries.roundHalfEven_intCast (K := ℚ) 0
      rw [Int.cast_zero] at hround
      show (PandasSeries.roundHalfEven ((0 : ℚ)*100) : ℚ)/100=0
      rw [zero_mul,hround,Int.cast_zero,zero_div]
    exact ⟨rfl,hsum,hlength,hzero.symm⟩
  | cons first later =>
    have hlast : (first::later).getLast?=some ((first::later).getLast (by simp)) :=
      List.getLast?_eq_some_getLast _
    rw [hdays] at hsum hlength
    dsimp only
    rw [List.head?_cons,hlast]
    exact ⟨rfl,hsum,hlength,rfl⟩

/-- The days of a month, by their ordinals. -/
theorem inMonth_iff {year m : ℕ} (hyear : 1≤year ∧ year≤9999) (hm : 1≤ m ∧ m≤12) (d : Date) :
    d.year=year ∧ month d=m ↔ ordinalOf year m 1≤d.ordinal ∧
      d.ordinal≤ordinalOf year m (daysInMonth year m) := by
  have hlength : 28≤daysInMonth year m := by
    unfold daysInMonth
    split_ifs <;> omega
  constructor
  · rintro ⟨rfl,rfl⟩
    obtain ⟨hday,-,-⟩ := dayOfYear_spec d
    obtain ⟨hbegins,hends⟩ := (month_eq_iff d hm.1 hm.2).mp rfl
    unfold ordinalOf
    omega
  · rintro ⟨hfirst,hlast⟩
    have hvalid : Valid year m 1 := ⟨hyear,hm,by omega,by omega⟩
    have hvalid' : Valid year m (daysInMonth year m) := ⟨hyear,hm,by omega,le_refl _⟩
    obtain ⟨hyear₁,hmonth₁⟩ := fields_at hvalid
    obtain ⟨hyear₂,hmonth₂⟩ := fields_at hvalid'
    have hbetween : SameMonth (Date.at year m 1 hvalid) d :=
      SameMonth.between (x := Date.at year m _ hvalid')
        ⟨hyear₁.trans hyear₂.symm,hmonth₁.trans hmonth₂.symm⟩ hfirst hlast
    exact ⟨hbetween.1.symm.trans hyear₁,hbetween.2.symm.trans hmonth₁⟩

/-- The first day of the month behind a month, but behind the last one of all. -/
theorem next_month {year m : ℕ} (hyear : 1≤year ∧ year≤9999) (hm : 1≤ m ∧ m≤12)
    (hlast : ¬(year=9999 ∧ m=12)) :
    ∃ next : Date,(if m=12 then Date.new (year+1) 1 1 else Date.new year (m+1) 1)=.ok next ∧
      next.ordinal=ordinalOf year m (daysInMonth year m)+1 := by
  by_cases htwelve : m=12
  · subst htwelve
    have hvalid : Valid (year+1) 1 1 := by
      refine ⟨by omega,by omega,le_refl _,?_⟩
      show 1≤31
      omega
    refine ⟨.at (year+1) 1 1 hvalid,?_,?_⟩
    · rw [if_pos rfl]
      exact dif_pos hvalid
    · have hsucc := daysBeforeYear_succ hyear.1
      have hend : daysBeforeMonth year 12+daysInMonth year 12=365+leapDay year := by
        unfold daysBeforeMonth daysInMonth
        simp [daysBefore]
        omega
      have hfirst : daysBeforeMonth (year+1) 1=0 := rfl
      show daysBeforeYear (year+1)+daysBeforeMonth (year+1) 1+1=_
      unfold ordinalOf
      omega
  · have hlength : 28≤daysInMonth year (m+1) := by
      unfold daysInMonth
      split_ifs <;> omega
    have hvalid : Valid year (m+1) 1 := ⟨hyear,by omega,le_refl _,by omega⟩
    refine ⟨.at year (m+1) 1 hvalid,?_,?_⟩
    · rw [if_neg htwelve]
      exact dif_pos hvalid
    · have hadd : daysBeforeMonth year (m+1)=daysBeforeMonth year m+daysInMonth year m :=
        daysBeforeMonth_add hm.1 (by omega)
      show daysBeforeYear year+daysBeforeMonth year (m+1)+1=_
      unfold ordinalOf
      omega

/-- A monthly report, of the days of its month. -/
theorem generateMonthly_ok (dailyData : List DailySummary) {year m : ℕ}
    (hyear : 1≤year ∧ year≤9999) (hm : 1≤ m ∧ m≤12) (hlast : ¬(year=9999 ∧ m=12))
    (initialCapital : ℚ) (tradingMode : String) (benchmark : ℚ)
    (contributions : Option (List (String×ℚ))) :
    ∃ report,generateMonthly dailyData year m initialCapital tradingMode benchmark contributions=
        .ok report ∧
      let days := dailyData.filter fun d => d.date.year=year ∧ month d.date=m
      report.dailySummaries=byDate days ∧
        report.totalTrades=(days.map fun d => d.tradesCount).sum ∧
        report.tradingDays=days.length ∧
        report.maxDrawdownPct=roundTo 100 (calculateMdd (byDate days)) := by
  have hlength : 28≤daysInMonth year m := by
    unfold daysInMonth
    split_ifs <;> omega
  have hvalid : Valid year m 1 := ⟨hyear,hm,by omega,by omega⟩
  have hstart : Date.new year m 1=.ok (.at year m 1 hvalid) := dif_pos hvalid
  obtain ⟨next,hnext,hordinal⟩ := next_month hyear hm hlast
  have hpos : 1≤ordinalOf year m (daysInMonth year m) := by
    unfold ordinalOf
    omega
  have hrange := next.inRange
  have hend : next.addDays (-1)=.ok ⟨ordinalOf year m (daysInMonth year m),hpos,by omega⟩ :=
    addDays_ok (by omega) hpos (by omega)
  have hdays : (dailyData.filter fun d => Date.at year m 1 hvalid≤d.date ∧
      d.date≤(⟨ordinalOf year m (daysInMonth year m),hpos,by omega⟩ : Date))=
      dailyData.filter fun d => d.date.year=year ∧ month d.date=m := by
    refine List.filter_congr fun d _ => decide_eq_decide.mpr ?_
    exact (inMonth_iff hyear hm d.date).symm
  let report := buildReport .monthly (.at year m 1 hvalid)
    ⟨ordinalOf year m (daysInMonth year m),hpos,by omega⟩
    (dailyData.filter fun d => d.date.year=year ∧ month d.date=m) initialCapital tradingMode
  refine ⟨{ report with
    benchmarkReturnPct := benchmark
    excessReturnPct := roundTo 100 (report.periodReturnPct-benchmark)
    strategyContributions := contributions.getD [] },?_,buildReport_days _ _ _ _ _ _⟩
  unfold generateMonthly
  rw [hstart,ok_bind,hnext,ok_bind,hend,ok_bind,hdays]
  rfl

/-- The last month of all has no report: the first day behind it is no date. -/
theorem generateMonthly_last (dailyData : List DailySummary) (initialCapital : ℚ)
    (tradingMode : String) (benchmark : ℚ) (contributions : Option (List (String×ℚ))) :
    generateMonthly dailyData 9999 12 initialCapital tradingMode benchmark contributions=
      .error .year := rfl

/-- The elements with a key of a list are those with its first key and those with a later one. -/
theorem filter_partition {α β : Type*} [DecidableEq β] (key : α→β) (l : List α) {ms : List β}
    (h : ms.Nodup) :
    (ms.flatMap fun m => l.filter fun a => key a=m).Perm (l.filter fun a => key a ∈ ms) := by
  induction ms with
  | nil =>
    rw [List.flatMap_nil,List.filter_eq_nil_iff.mpr]
    intro a _
    simp
  | cons m ms ih =>
    obtain ⟨hnot,hnodup⟩ := List.nodup_cons.mp h
    have hsplit := List.filter_append_perm (fun a => decide (key a=m))
      (l.filter fun a => key a ∈ m::ms)
    have hfirst : (l.filter fun a => key a ∈ m::ms).filter (fun a => decide (key a=m))=
        l.filter fun a => key a=m := by
      rw [List.filter_filter]
      refine List.filter_congr fun a _ => ?_
      simp only [List.mem_cons]
      grind
    have hrest : (l.filter fun a => key a ∈ m::ms).filter (fun a => !decide (key a=m))=
        l.filter fun a => key a ∈ ms := by
      rw [List.filter_filter]
      refine List.filter_congr fun a _ => ?_
      simp only [List.mem_cons]
      grind
    rw [hfirst,hrest] at hsplit
    rw [List.flatMap_cons]
    exact ((ih hnodup).append_left _).trans hsplit

/-- The days of the twelve months are those of the year. -/
theorem months_partition (dailyData : List DailySummary) (year : ℕ) :
    ((List.range' 1 12).flatMap fun m =>
      dailyData.filter fun d => d.date.year=year ∧ month d.date=m).Perm
      (dailyData.filter fun d => d.date.year=year) := by
  have hpartition := filter_partition (fun d : DailySummary => month d.date)
    (dailyData.filter fun d => d.date.year=year) (List.nodup_range' (s := 1) (n := 12))
  have hall : ((dailyData.filter fun d => d.date.year=year).filter fun d =>
      month d.date ∈ List.range' 1 12)=dailyData.filter fun d => d.date.year=year := by
    refine List.filter_eq_self.mpr fun d _ => ?_
    have := month_range d.date
    simp only [List.mem_range'_1,decide_eq_true_eq]
    omega
  rw [hall] at hpartition
  refine List.Perm.trans (List.Perm.of_eq ?_) hpartition
  refine List.flatMap_congr fun m _ => ?_
  rw [List.filter_filter]
  refine List.filter_congr fun d _ => ?_
  rw [Bool.decide_and,Bool.and_comm]

/-- The reports of the twelve months take every day of the year once, with its trades. -/
theorem monthly_partition (dailyData : List DailySummary) {year : ℕ}
    (hyear : 1≤year ∧ year<9999) (initialCapital : ℚ) (tradingMode : String)
    (benchmark : ℚ) (contributions : Option (List (String×ℚ))) :
    ∃ report : ℕ→PeriodicReport,
      (∀ m,1≤ m ∧ m≤12→
        generateMonthly dailyData year m initialCapital tradingMode benchmark contributions=
          .ok (report m)) ∧
      let months := List.range' 1 12
      let days := dailyData.filter fun d => d.date.year=year
      (months.flatMap fun m => (report m).dailySummaries).Perm days ∧
        (months.map fun m => (report m).totalTrades).sum=
          (days.map fun d => d.tradesCount).sum ∧
        (months.map fun m => (report m).tradingDays).sum=days.length := by
  have hreport : ∀ m,∃ report,1≤ m ∧ m≤12→
      generateMonthly dailyData year m initialCapital tradingMode benchmark contributions=
        .ok report ∧
      let days := dailyData.filter fun d => d.date.year=year ∧ month d.date=m
      report.dailySummaries=byDate days ∧
        report.totalTrades=(days.map fun d => d.tradesCount).sum ∧
        report.tradingDays=days.length := by
    intro m
    by_cases hm : 1≤ m ∧ m≤12
    · obtain ⟨report,hok,hdays,htrades,hlength,-⟩ := generateMonthly_ok dailyData
        (by omega : 1≤year ∧ year≤9999) hm (by omega) initialCapital tradingMode benchmark
        contributions
      exact ⟨report,fun _ => ⟨hok,hdays,htrades,hlength⟩⟩
    · exact ⟨{ period := .monthly, startDate := lastDate, endDate := lastDate },
        fun h => absurd h hm⟩
  choose report hreport using hreport
  refine ⟨report,fun m hm => (hreport m hm).1,?_⟩
  have hrange : ∀ m ∈ List.range' 1 12,1≤ m ∧ m≤12 := by
    intro m hm
    have := List.mem_range'_1.mp hm
    omega
  have hdays := months_partition dailyData year
  refine ⟨?_,?_,?_⟩
  · refine List.Perm.trans (List.Perm.flatMap_left _ fun m hm => ?_) hdays
    rw [(hreport m (hrange m hm)).2.1]
    exact List.perm_insertionSort _ _
  · rw [List.map_congr_left fun m hm => (hreport m (hrange m hm)).2.2.1,
      ← (hdays.map fun d => d.tradesCount).sum_eq,List.map_flatMap,List.flatMap_def,
      List.sum_flatten,List.map_map]
    rfl
  · rw [List.map_congr_left fun m hm => (hreport m (hrange m hm)).2.2.2,← hdays.length_eq,
      List.length_flatMap]

/-- Two days of 2025 and one of the year behind it. -/
theorem monthly_partition_2025 :
    let dailyData : List DailySummary :=
      [⟨.at 2025 3 31 (by decide),100,0,0,2⟩,⟨.at 2026 1 1 (by decide),90,-10,-10,1⟩,
        ⟨.at 2025 3 3 (by decide),110,10,10,3⟩]
    ∃ report : ℕ→PeriodicReport,
      (∀ m,1≤ m ∧ m≤12→ generateMonthly dailyData 2025 m 100 "DEMO" 0 none=.ok (report m)) ∧
      let months := List.range' 1 12
      let days := dailyData.filter fun d => d.date.year=2025
      (months.flatMap fun m => (report m).dailySummaries).Perm days ∧
        (months.map fun m => (report m).totalTrades).sum=
          (days.map fun d => d.tradesCount).sum ∧
        (months.map fun m => (report m).tradingDays).sum=days.length :=
  monthly_partition _ (by decide) _ _ _ _

/-- The number of the week of a date; the first date is a Monday. -/
def week (d : Date) : ℕ := (d.ordinal+6)/7

/-- The range of a week is from the Monday to the Friday of the week of a date. -/
theorem getWeekRange_ok (d : Date) :
    ∃ monday friday : Date,getWeekRange d=.ok (monday,friday) ∧
      monday.ordinal+d.weekday=d.ordinal ∧ friday.ordinal=monday.ordinal+4 := by
  have hd := d.inRange
  have hmax : maxOrdinal=3652059 := rfl
  obtain ⟨monday,hmonday,hfirst⟩ : ∃ monday : Date,
      d.addDays (-(d.weekday : ℤ))=.ok monday ∧ monday.ordinal+d.weekday=d.ordinal := by
    have hpos : 1≤d.ordinal-d.weekday := by
      unfold Date.weekday
      omega
    have hle : d.ordinal-d.weekday≤ maxOrdinal := by omega
    refine ⟨⟨d.ordinal-d.weekday,hpos,hle⟩,addDays_ok (by omega) hpos hle,?_⟩
    dsimp only
    omega
  obtain ⟨friday,hfriday,hlast⟩ : ∃ friday : Date,
      monday.addDays 4=.ok friday ∧ friday.ordinal=monday.ordinal+4 := by
    have hle : monday.ordinal+4≤ maxOrdinal := by
      unfold Date.weekday at hfirst
      omega
    have hpos : 1≤ monday.ordinal+4 := by omega
    exact ⟨⟨monday.ordinal+4,hpos,hle⟩,addDays_ok (by push_cast; rfl) hpos hle,rfl⟩
  refine ⟨monday,friday,?_,hfirst,hlast⟩
  unfold getWeekRange
  rw [hmonday,ok_bind,hfriday]
  rfl

/-- Every date has its week: the range is from the Monday to the Friday of it, the report takes
the days of the week but those of its weekend, and of these the Friday alone can be due. -/
theorem weekly_report (dailyData : List DailySummary) (d : Date) (initialCapital : ℚ)
    (tradingMode : String) :
    ∃ monday friday,getWeekRange d=.ok (monday,friday) ∧
      (week monday=week d ∧ monday.weekday=0) ∧ (week friday=week d ∧ friday.weekday=4) ∧
      (generateWeekly dailyData monday friday initialCapital tradingMode).dailySummaries=
        byDate (dailyData.filter fun e => week e.date=week d ∧ e.date.weekday≤4) ∧
      ∀ e,week e=week d→
        (shouldGenerateWeekly e=.ok true ↔ e=friday ∧ Trading .krx friday) := by
  have hd := d.inRange
  obtain ⟨monday,friday,hrange,hfirst,hlast⟩ := getWeekRange_ok d
  refine ⟨monday,friday,hrange,?_,?_,?_,?_⟩
  · unfold week Date.weekday at *
    omega
  · unfold week Date.weekday at *
    omega
  · have hspec := (buildReport_days .weekly monday friday
      (dailyData.filter fun e => week e.date=week d ∧ e.date.weekday≤4)
      initialCapital tradingMode).1
    have hfilter : (dailyData.filter fun e => monday≤e.date ∧ e.date≤friday)=
        dailyData.filter fun e => week e.date=week d ∧ e.date.weekday≤4 := by
      refine List.filter_congr fun e _ => decide_eq_decide.mpr ?_
      rw [Date.le_def,Date.le_def]
      unfold week Date.weekday at *
      omega
    rw [← hspec]
    unfold generateWeekly
    rw [hfilter]
  · intro e he
    obtain ⟨due,hdue,hiff⟩ := weekly_iff e
    have hsame : e.weekday=4 ↔ e=friday := by
      have heq : e=friday ↔ e.ordinal=friday.ordinal :=
        ⟨fun h => h ▸ rfl,fun h => Date.ordinal_injective h⟩
      rw [heq]
      unfold week Date.weekday at *
      omega
    rw [hsame] at hiff
    rw [hdue]
    constructor
    · intro htrue
      obtain ⟨rfl,htrading⟩ := hiff.mp (Except.ok.inj htrue)
      exact ⟨rfl,htrading⟩
    · rintro ⟨rfl,htrading⟩
      rw [hiff.mpr ⟨rfl,htrading⟩]

end Reports

end Aqts.PeriodicReporter
