import Aqts.MarketHolidays

/-!
# Trading days in order

The next and the previous trading day of a date, and the trading days of a range. The last date
is a trading day of both exchanges, so a search forwards fails only from there; a search backwards
fails at the first trading day.
-/

namespace Aqts.MarketCalendar

open CivilDates DateScans

/-- A date is a trading day. -/
def Trading (market : Market) (d : Date) : Prop := isTradingDay d market=.ok true

/-- The last date. -/
def lastDate : Date := .at 9999 12 31 (by decide)

/-- The first trading day: the first date, or the day after it where New Year is a holiday. -/
def firstTradingDay : Market→Date
  | .krx => .at 1 1 1 (by decide)
  | .nyse => .at 1 1 2 (by decide)

/-- The last date is a trading day of both exchanges. -/
theorem trading_lastDate (market : Market) : Trading market lastDate := by
  cases market with
  | krx => exact (by decide +kernel : isTradingDay lastDate .krx=.ok true)
  | nyse => exact (by decide +kernel : isTradingDay lastDate .nyse=.ok true)

/-- The first trading days are trading days, and none are before them. -/
theorem firstTradingDay_isLeast (market : Market) :
    IsLeast {d | Trading market d} (firstTradingDay market) := by
  cases market with
  | krx => exact ⟨(by decide +kernel : isTradingDay _ .krx=.ok true),fun d _ => d.inRange.1⟩
  | nyse =>
    refine ⟨(by decide +kernel : isTradingDay _ .nyse=.ok true),fun d hd => ?_⟩
    by_contra hlt
    rw [not_le,Date.lt_def] at hlt
    have hfirst : d=.at 1 1 1 (by decide) := by
      refine Date.ordinal_injective ?_
      have hone := d.inRange.1
      change d.ordinal<2 at hlt
      change d.ordinal=1
      omega
    subst hfirst
    have hclosed : isTradingDay (.at 1 1 1 (by decide)) .nyse=.ok false := by decide +kernel
    unfold Trading at hd
    rw [Set.mem_ofPred_eq,hclosed] at hd
    cases hd

/-- Trading days are decided. -/
theorem decides_isTradingDay (market : Market) : Decides (isTradingDay · market) :=
  fun d => isTradingDay_total d market

/-- Before the last date, the next trading day is the least one after the date. -/
theorem nextTradingDay_isLeast (market : Market) {d : Date} (h : d<lastDate) :
    ∃ e,nextTradingDay d market=.ok e ∧ IsLeast {x | d<x ∧ Trading market x} e := by
  have hlast : d.ordinal< maxOrdinal := h
  have hnext := addDays_ok (d := d) (k := 1) (n := d.ordinal+1) rfl (by omega) (by omega)
  have hafter : ∀ x : Date,d<x↔Direction.forwards.Ahead ⟨d.ordinal+1,by omega,by omega⟩ x :=
    fun x => Iff.rfl
  obtain ⟨e,hsearch,hahead,hholds,hfirst⟩ | ⟨-,hnone⟩ := search_spec (decides_isTradingDay market)
    .forwards ⟨d.ordinal+1,by omega,by omega⟩
  · refine ⟨e,?_,⟨(hafter e).mpr hahead,hholds⟩,fun x hx => ?_⟩
    · unfold nextTradingDay
      rw [hnext,ok_bind]
      exact hsearch
    · exact hfirst x ((hafter x).mp hx.1) hx.2
  · have hclosed := hnone lastDate ((hafter lastDate).mp h)
    rw [trading_lastDate market] at hclosed
    cases hclosed

/-- From the last date on there is none. -/
theorem nextTradingDay_lastDate (market : Market) :
    nextTradingDay lastDate market=.error .overflow := by
  unfold nextTradingDay
  rw [addDays_error (by decide)]
  rfl

/-- After the first trading day, the previous trading day is the greatest one before the date. -/
theorem prevTradingDay_isGreatest {market : Market} {d : Date} (h : firstTradingDay market<d) :
    ∃ e,prevTradingDay d market=.ok e ∧ IsGreatest {x | x<d ∧ Trading market x} e := by
  have hone := (firstTradingDay market).inRange.1
  have hrange := d.inRange
  have hlt : (firstTradingDay market).ordinal<d.ordinal := h
  have hprev := addDays_ok (d := d) (k := -1) (n := d.ordinal-1) (by omega) (by omega) (by omega)
  have hbefore : ∀ x : Date,x<d↔Direction.backwards.Ahead ⟨d.ordinal-1,by omega,by omega⟩ x := by
    intro x
    change x.ordinal<d.ordinal↔x.ordinal≤d.ordinal-1
    omega
  obtain ⟨e,hsearch,hahead,hholds,hfirst⟩ | ⟨-,hnone⟩ := search_spec (decides_isTradingDay market)
    .backwards ⟨d.ordinal-1,by omega,by omega⟩
  · refine ⟨e,?_,⟨(hbefore e).mpr hahead,hholds⟩,fun x hx => ?_⟩
    · unfold prevTradingDay
      rw [hprev,ok_bind]
      exact hsearch
    · exact hfirst x ((hbefore x).mp hx.1) hx.2
  · have hclosed := hnone _ ((hbefore _).mp h)
    rw [(firstTradingDay_isLeast market).1] at hclosed
    cases hclosed

/-- Up to the first trading day there is none. -/
theorem prevTradingDay_first {market : Market} {d : Date} (h : d≤firstTradingDay market) :
    prevTradingDay d market=.error .overflow := by
  unfold prevTradingDay
  by_cases hone : d.ordinal=1
  · rw [addDays_error (by omega)]
    rfl
  · have hrange := d.inRange
    rw [addDays_ok (n := d.ordinal-1) (by omega) (by omega) (by omega),ok_bind]
    obtain ⟨e,-,hahead,hholds,-⟩ | ⟨hsearch,-⟩ := search_spec (decides_isTradingDay market)
      .backwards ⟨d.ordinal-1,by omega,by omega⟩
    · have hleast := (firstTradingDay_isLeast market).2 hholds
      have hlow : e.ordinal≤d.ordinal-1 := hahead
      have hhigh : d.ordinal≤e.ordinal := h.trans hleast
      omega
    · exact hsearch

/-- The previous trading day of the next one is the trading day itself. -/
theorem prevTradingDay_next {market : Market} {d e : Date} (hd : Trading market d)
    (h : nextTradingDay d market=.ok e) : prevTradingDay e market=.ok d := by
  have hlast : d<lastDate := by
    by_contra hnot
    have heq : d=lastDate := le_antisymm d.inRange.2 (not_lt.mp hnot)
    rw [heq,nextTradingDay_lastDate] at h
    cases h
  obtain ⟨next,hnext,hleast⟩ := nextTradingDay_isLeast market hlast
  rw [hnext] at h
  cases h
  have hfirst : firstTradingDay market<e :=
    ((firstTradingDay_isLeast market).2 hd).trans_lt hleast.1.1
  obtain ⟨prev,hprev,hgreatest⟩ := prevTradingDay_isGreatest hfirst
  rw [hprev]
  refine congrArg Except.ok (hgreatest.unique ⟨⟨hleast.1.1,hd⟩,fun x hx => ?_⟩)
  by_contra hafter
  exact absurd hx.1 (not_lt.mpr (hleast.2 ⟨not_le.mp hafter,hx.2⟩))

/-- The next trading day of the previous one is the trading day itself. -/
theorem nextTradingDay_prev {market : Market} {d e : Date} (hd : Trading market d)
    (h : prevTradingDay d market=.ok e) : nextTradingDay e market=.ok d := by
  have hfirst : firstTradingDay market<d := by
    by_contra hnot
    rw [prevTradingDay_first (not_lt.mp hnot)] at h
    cases h
  obtain ⟨prev,hprev,hgreatest⟩ := prevTradingDay_isGreatest hfirst
  rw [hprev] at h
  cases h
  have hlast : e<lastDate := hgreatest.1.1.trans_le d.inRange.2
  obtain ⟨next,hnext,hleast⟩ := nextTradingDay_isLeast market hlast
  rw [hnext]
  refine congrArg Except.ok (hleast.unique ⟨⟨hgreatest.1.1,hd⟩,fun x hx => ?_⟩)
  by_contra hbefore
  exact absurd hx.1 (not_lt.mpr (hgreatest.2 ⟨not_le.mp hbefore,hx.2⟩))

/-- The trading days of a range that ends before the last date are listed. -/
theorem tradingDaysBetween_lists (market : Market) (start : Date) {stop : Date}
    (h : stop<lastDate) : ∃ days,tradingDaysBetween start stop market=.ok days ∧
      Lists (isTradingDay · market) start stop days :=
  collect_spec (decides_isTradingDay market) h start []

/-- The trading days of a range are those up to a day in it and those from the day after it on. -/
theorem tradingDaysBetween_append (market : Market) {start mid next stop : Date}
    (hstart : start≤ mid) (hmid : mid< stop) (hstop : stop<lastDate)
    (hnext : mid.addDays 1=.ok next) :
    ∃ days later,tradingDaysBetween start mid market=.ok days ∧
      tradingDaysBetween next stop market=.ok later ∧
      tradingDaysBetween start stop market=.ok (days++later) := by
  obtain ⟨days,hdays,hfirst⟩ := tradingDaysBetween_lists market start (hmid.trans hstop)
  obtain ⟨later,hlater,hsecond⟩ := tradingDaysBetween_lists market next hstop
  obtain ⟨whole,hwhole,hall⟩ := tradingDaysBetween_lists market start hstop
  refine ⟨days,later,hdays,hlater,?_⟩
  have hordinal := ordinal_of_addDays hnext
  rw [hwhole,hall.unique (hfirst.append hstart hmid.le (by omega) hsecond)]

/-- Their numbers add up. -/
theorem tradingDayCount_append (market : Market) {start mid next stop : Date}
    (hstart : start≤ mid) (hmid : mid< stop) (hstop : stop<lastDate)
    (hnext : mid.addDays 1=.ok next) :
    ∃ count later,tradingDayCount start mid market=.ok count ∧
      tradingDayCount next stop market=.ok later ∧
      tradingDayCount start stop market=.ok (count+later) := by
  obtain ⟨days,later,hdays,hlater,hwhole⟩ :=
    tradingDaysBetween_append market hstart hmid hstop hnext
  unfold tradingDayCount
  rw [hdays,hlater,hwhole]
  refine ⟨days.length,later.length,rfl,rfl,?_⟩
  rw [←List.length_append]
  rfl

/-- The trading days of Korea are the weekdays off the table. -/
theorem trading_krx {d : Date} (hweekday : d.weekday<5) (hday : d∉krHolidays) :
    Trading .krx d := by
  unfold Trading isTradingDay
  rw [if_neg (not_le.mpr hweekday)]
  exact congrArg Except.ok (decide_eq_true hday)

/-- Around every holiday of the table, eight days have a trading day. -/
theorem krHolidays_sparse : ∀ holiday∈krHolidays,∀ k<3,∃ i<8,
    (holiday.ordinal-k+i+6)%7<5 ∧
      ∀ other∈krHolidays,holiday.ordinal-k+i≠other.ordinal := by
  decide +kernel

/-- Of eight days in a row one is a trading day of Korea: its closures are weekends and a table. -/
theorem exists_trading_krx {n : ℕ} (h : n+8≤ maxOrdinal) :
    ∃ d : Date,n<d.ordinal ∧ d.ordinal≤n+8 ∧ Trading .krx d := by
  obtain ⟨k,hk,hweekday⟩ : ∃ k<3,(n+1+k+6)%7<5 := by
    by_cases hfirst : (n+1+6)%7<5
    · exact ⟨0,by decide,hfirst⟩
    · by_cases hsecond : (n+1+1+6)%7<5
      · exact ⟨1,by decide,hsecond⟩
      · exact ⟨2,by decide,by omega⟩
  by_cases hholiday : (⟨n+1+k,by omega,by omega⟩ : Date)∈krHolidays
  · obtain ⟨i,hi,hopen,hoff⟩ := krHolidays_sparse _ hholiday k hk
    dsimp only at hopen hoff
    rw [Nat.add_sub_cancel] at hopen hoff
    refine ⟨⟨n+1+i,by omega,by omega⟩,by dsimp only; omega,by dsimp only; omega,
      trading_krx hopen fun hmem => ?_⟩
    exact hoff _ hmem rfl
  · exact ⟨⟨n+1+k,by omega,by omega⟩,by dsimp only; omega,by dsimp only; omega,
      trading_krx hweekday hholiday⟩

/-- A Tuesday and the Wednesday after it are not both holidays of New York. -/
theorem not_both_midweek (tuesday wednesday : Date) (h : tuesday.ordinal%7=2)
    (hnext : wednesday.ordinal=tuesday.ordinal+1)
    (hfirst : YearHoliday tuesday.year tuesday.ordinal) :
    ¬YearHoliday wednesday.year wednesday.ordinal := by
  intro hsecond
  have hyear := tuesday.year_range.1
  have hin := (Date.year_eq_iff tuesday hyear).mp rfl
  have hleap := leapDay_le tuesday.year
  have hfixed := holidayOrdinal_midweek hyear hfirst (.inl h)
  have hsucc := daysBeforeYear_succ hyear
  have hsame : wednesday.year=tuesday.year := by
    refine year_of_ordinal hyear ?_
    omega
  rw [hsame] at hsecond
  have hother := holidayOrdinal_midweek hyear hsecond (.inr (by omega))
  omega

/-- Of eight days in a row one is a trading day of New York: they have a Tuesday and the Wednesday
after it. -/
theorem exists_trading_nyse {n : ℕ} (h : n+8≤ maxOrdinal) :
    ∃ d : Date,n<d.ordinal ∧ d.ordinal≤n+8 ∧ Trading .nyse d := by
  obtain ⟨i,hi,hone,htuesday⟩ : ∃ i,i<8 ∧ 1≤ i ∧ (n+i)%7=2 :=
    ⟨(8-n%7)%7+1,by omega,by omega,by omega⟩
  by_cases hfirst : YearHoliday (Date.year ⟨n+i,by omega,by omega⟩) (n+i)
  · have hsecond := not_both_midweek ⟨n+i,by omega,by omega⟩ ⟨n+i+1,by omega,by omega⟩ htuesday
      rfl hfirst
    refine ⟨⟨n+i+1,by omega,by omega⟩,by dsimp only; omega,by dsimp only; omega,
      (isTradingDay_nyse _).mpr ⟨?_,hsecond⟩⟩
    unfold Date.weekday
    dsimp only
    omega
  · refine ⟨⟨n+i,by omega,by omega⟩,by dsimp only; omega,by dsimp only; omega,
      (isTradingDay_nyse _).mpr ⟨?_,hfirst⟩⟩
    unfold Date.weekday
    dsimp only
    omega

/-- The next trading day is at most eight days away. -/
theorem nextTradingDay_within {market : Market} {d e : Date}
    (h : nextTradingDay d market=.ok e) : e.ordinal≤d.ordinal+8 := by
  by_cases hend : d.ordinal+8≤ maxOrdinal
  · have hlast : d<lastDate := by
      change d.ordinal< maxOrdinal
      omega
    obtain ⟨next,hnext,hleast⟩ := nextTradingDay_isLeast market hlast
    rw [hnext] at h
    cases h
    obtain ⟨x,hafter,hnear,htrading⟩ : ∃ x : Date,d.ordinal<x.ordinal ∧
        x.ordinal≤d.ordinal+8 ∧ Trading market x := by
      cases market with
      | krx => exact exists_trading_krx hend
      | nyse => exact exists_trading_nyse hend
    exact (Date.le_def.mp (hleast.2 ⟨hafter,htrading⟩)).trans hnear
  · have hrange := e.inRange.2
    omega

/-- Trading days in order: the next and the previous one, inverse to each other, and the trading
days of a range, whose lists join. -/
theorem tradingDays_navigate :
    (∀ market d,d<lastDate→∃ e,nextTradingDay d market=.ok e ∧
      IsLeast {x | d<x ∧ Trading market x} e) ∧
    (∀ market d,firstTradingDay market<d→∃ e,prevTradingDay d market=.ok e ∧
      IsGreatest {x | x<d ∧ Trading market x} e) ∧
    (∀ market,nextTradingDay lastDate market=.error .overflow) ∧
    (∀ market d,d≤firstTradingDay market→prevTradingDay d market=.error .overflow) ∧
    (∀ market d e,Trading market d→
      (nextTradingDay d market=.ok e→prevTradingDay e market=.ok d) ∧
      (prevTradingDay d market=.ok e→nextTradingDay e market=.ok d)) ∧
    (∀ market start stop,stop<lastDate→∃ days,tradingDaysBetween start stop market=.ok days ∧
      days.SortedLT ∧ ∀ x,x∈days↔start≤x ∧ x≤ stop ∧ Trading market x) ∧
    ∀ market start mid next stop,start≤ mid→mid< stop→stop<lastDate→mid.addDays 1=.ok next→
      ∃ days later,tradingDaysBetween start mid market=.ok days ∧
        tradingDaysBetween next stop market=.ok later ∧
        tradingDaysBetween start stop market=.ok (days++later) := by
  refine ⟨fun market d h => nextTradingDay_isLeast market h,
    fun market d h => prevTradingDay_isGreatest h,nextTradingDay_lastDate,
    fun market d h => prevTradingDay_first h,?_,
    fun market start stop h => tradingDaysBetween_lists market start h,?_⟩
  · intro market d e hd
    exact ⟨prevTradingDay_next hd,nextTradingDay_prev hd⟩
  · intro market start mid next stop hstart hmid hstop hnext
    exact tradingDaysBetween_append market hstart hmid hstop hnext

/-- At the ends of the range of dates nothing is returned: there is no next or previous date, and
a range that ends with the last date is followed past it. -/
theorem tradingDays_navigate_not :
    (¬∃ e,nextTradingDay lastDate .nyse=.ok e) ∧
    (¬∃ e,prevTradingDay (.at 1 1 1 (by decide)) .krx=.ok e) ∧
    ¬∃ days,tradingDaysBetween lastDate lastDate .nyse=.ok days := by
  refine ⟨?_,?_,?_⟩
  · rintro ⟨e,h⟩
    rw [nextTradingDay_lastDate] at h
    cases h
  · rintro ⟨e,h⟩
    have hfirst : Date.at 1 1 1 (by decide)≤firstTradingDay .krx := le_refl 1
    have hnone := prevTradingDay_first hfirst
    rw [hnone] at h
    cases h
  · rintro ⟨days,h⟩
    unfold tradingDaysBetween at h
    rw [collect_last (decides_isTradingDay .nyse) rfl] at h
    cases h

end Aqts.MarketCalendar
