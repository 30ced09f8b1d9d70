import Aqts.MarketCalendar

/-!
# Holidays of the New York exchange

The computed dates by their ordinals, counted from the days before their year: fixed dates with
the weekend rule, the nth and the last of a day of the week, and Good Friday. From the ordinals
follows where two dates can meet, and which of them leave the year they are computed for.
-/

namespace Aqts.MarketCalendar

open CivilDates

/-- A computation returns the one date whose ordinal has a property. -/
def Finds (x : Except DateError Date) (p : ℕ→Prop) : Prop :=
  ∃ d,x=.ok d ∧ ∀ e : Date,e=d↔p e.ordinal

/-- An ordinal is that of the `n`th given day of the week from a first day on. -/
def NthOrdinal (first weekday n o : ℕ) : Prop :=
  first+7*n≤o+7 ∧ o<first+7*n ∧ (o+6)%7=weekday

/-- An ordinal is that of the last given day of the week before a day. -/
def LastOrdinal (next weekday o : ℕ) : Prop :=
  next≤o+7 ∧ o<next ∧ (o+6)%7=weekday

/-- The ordinal of a holiday on a fixed date: a day earlier on Saturdays, a day later on
Sundays. -/
def ObservedOrdinal (fixed o : ℕ) : Prop :=
  (fixed%7=6 ∧ o+1=fixed) ∨ (fixed%7=0 ∧ o=fixed+1) ∨ (fixed%7≠6 ∧ fixed%7≠0 ∧ o=fixed)

/-- A date is found by its ordinal. -/
theorem Finds.of_ordinal {x : Except DateError Date} {p : ℕ→Prop} {d : Date} (h : x=.ok d)
    (hp : ∀ o,o=d.ordinal↔p o) : Finds x p := by
  refine ⟨d,h,fun e => ?_⟩
  rw [←hp e.ordinal]
  exact ⟨fun heq => heq ▸ rfl,fun heq => Date.ordinal_injective heq⟩

/-- Fields in their ranges give a date. -/
theorem new_ok {year month day : ℕ} (h : Valid year month day) :
    Date.new year month day=.ok (.at year month day h) := dif_pos h

/-- And only these do. -/
theorem valid_of_new {year month day : ℕ} {d : Date} (h : Date.new year month day=.ok d) :
    Valid year month day := by
  by_contra hnot
  unfold Date.new at h
  rw [dif_neg hnot] at h
  split_ifs at h

/-- The `n`th given day of the week in a month. -/
theorem nthWeekday_finds {year month weekday n : ℕ} (h : Valid year month 1) (hweekday : weekday<7)
    (hn : 1≤n) (hmax : ordinalOf year month 1+7*n≤ maxOrdinal+1) :
    Finds (nthWeekday year month weekday n) (NthOrdinal (ordinalOf year month 1) weekday n) := by
  have hfirst : (Date.at year month 1 h).ordinal=ordinalOf year month 1 := rfl
  have hone := (ordinalOf_inRange h).1
  have hoffset := addDays_ok (d := .at year month 1 h)
    (k := ((weekday : ℤ)-(Date.at year month 1 h).weekday)%7)
    (n := ordinalOf year month 1+(weekday+7-(ordinalOf year month 1+6)%7)%7)
    (by unfold Date.weekday; rw [hfirst]; omega) (by omega) (by omega)
  have hweeks := addDays_ok
    (d := ⟨ordinalOf year month 1+(weekday+7-(ordinalOf year month 1+6)%7)%7,by omega⟩)
    (k := 7*((n : ℤ)-1))
    (n := ordinalOf year month 1+(weekday+7-(ordinalOf year month 1+6)%7)%7+7*(n-1))
    (by dsimp only; omega) (by omega) (by omega)
  refine .of_ordinal (by simp only [nthWeekday,new_ok h,hoffset,hweeks,ok_bind]; rfl) fun o => ?_
  unfold NthOrdinal
  dsimp only
  omega

/-- The last given day of the week in a month before December. -/
theorem lastWeekday_finds {year month weekday : ℕ} (h : Valid year (month+1) 1) (hmonth : 1≤ month)
    (hweekday : weekday<7) :
    Finds (lastWeekday year month weekday) (LastOrdinal (ordinalOf year (month+1) 1) weekday) := by
  have hfirst : (Date.at year (month+1) 1 h).ordinal=ordinalOf year (month+1) 1 := rfl
  have hrange := ordinalOf_inRange h
  have hlate : 31<ordinalOf year (month+1) 1 := by
    have htable : ∀ later,later<12→0<later→31≤daysBefore (later+1) := by decide
    have hbefore := htable month (by have := h.2.1.2; omega) hmonth
    unfold ordinalOf daysBeforeMonth
    omega
  have hlast := addDays_ok (d := .at year (month+1) 1 h) (k := -1)
    (n := ordinalOf year (month+1) 1-1) (by rw [hfirst]; omega) (by omega) (by omega)
  have hoffset := addDays_ok (d := ⟨ordinalOf year (month+1) 1-1,by omega⟩)
    (k := -(((((ordinalOf year (month+1) 1-1+6)%7 : ℕ) : ℤ)-weekday)%7))
    (n := ordinalOf year (month+1) 1-1-((ordinalOf year (month+1) 1-1+6)%7+7-weekday)%7)
    (by dsimp only; omega) (by omega) (by omega)
  have hmonths : month≠12 := by
    have htwelve := h.2.1.2
    omega
  refine .of_ordinal
    (by simp only [lastWeekday,if_neg hmonths,new_ok h,hlast,ok_bind]; exact hoffset) fun o => ?_
  unfold LastOrdinal
  dsimp only
  omega

/-- A fixed date under the rule of the weekend. -/
theorem observedHoliday_finds {d : Date} (hmax : d.ordinal< maxOrdinal) :
    Finds (observedHoliday d) (ObservedOrdinal d.ordinal) := by
  have hrange := d.inRange
  unfold observedHoliday ObservedOrdinal Date.weekday
  by_cases hsaturday : (d.ordinal+6)%7=5
  · rw [if_pos hsaturday]
    refine .of_ordinal (addDays_ok (n := d.ordinal-1) (by omega) (by omega) (by omega)) fun o => ?_
    dsimp only
    omega
  · rw [if_neg hsaturday]
    by_cases hsunday : (d.ordinal+6)%7=6
    · rw [if_pos hsunday]
      refine .of_ordinal (addDays_ok (n := d.ordinal+1) (by omega) (by omega) (by omega))
        fun o => ?_
      dsimp only
      omega
    · rw [if_neg hsunday]
      refine .of_ordinal rfl fun o => ?_
      omega

/-- The ordinal of Easter: the number of its computation counts from a day in March. -/
def easterOrdinal (year : ℕ) : ℤ :=
  daysBeforeYear year+leapDay year+easterNumber year-33

/-- The number of Easter gives a day from March 22 to April 26. -/
theorem easterNumber_bounds (year : ℕ) : 114≤easterNumber year ∧ easterNumber year≤149 := by
  unfold easterNumber
  dsimp only
  omega

/-- Easter is a Sunday. -/
theorem easterOrdinal_sunday {year : ℕ} (h : 1≤year) : easterOrdinal year%7=0 := by
  have hnext := daysBeforeYear_succ h
  have hclosed : daysBeforeYear (year+1)=year*365+year/4-year/100+year/400 := rfl
  have hfour : year/4=25*(year/100)+year%100/4 := by omega
  have hhundred : year/400=year/100/4 := by omega
  have htotal : (daysBeforeYear year : ℤ)+leapDay year=
      365*year-365+(25*((year : ℤ)/100)+year%100/4)-year/100+(year : ℤ)/100/4 := by omega
  unfold easterOrdinal
  rw [htotal]
  unfold easterNumber
  dsimp only
  generalize (19*((year : ℤ)%19)+(year : ℤ)/100-(year : ℤ)/100/4-
    ((year : ℤ)/100-((year : ℤ)/100+8)/25+1)/3+15)%30=h
  generalize hl : (32+2*((year : ℤ)/100%4)+2*((year : ℤ)%100/4)-h-(year : ℤ)%100%4)%7=l
  generalize ((year : ℤ)%19+11*h+22*l)/451=m
  omega

/-- Easter is computed in every year. -/
theorem calculateEaster_ok {year : ℕ} (h : 1≤year ∧ year≤9999) :
    ∃ d,calculateEaster year=.ok d ∧ (d.ordinal : ℤ)=easterOrdinal year := by
  have hbounds := easterNumber_bounds year
  unfold calculateEaster easterOrdinal
  dsimp only
  by_cases hmarch : easterNumber year/31=3
  · have hvalid : Valid year 3 (easterNumber year%31+1).toNat :=
      ⟨h,by decide,by omega,(by omega : _≤31)⟩
    refine ⟨_,by rw [hmarch]; exact new_ok hvalid,?_⟩
    have hbefore : daysBeforeMonth year 3=59+leapDay year := rfl
    unfold Date.at ordinalOf
    dsimp only
    omega
  · have hapril : easterNumber year/31=4 := by omega
    have hvalid : Valid year 4 (easterNumber year%31+1).toNat :=
      ⟨h,by decide,by omega,(by omega : _≤30)⟩
    refine ⟨_,by rw [hapril]; exact new_ok hvalid,?_⟩
    have hbefore : daysBeforeMonth year 4=90+leapDay year := rfl
    unfold Date.at ordinalOf
    dsimp only
    omega

/-- Good Friday is found two days before. -/
theorem goodFriday_finds {d : Date} {year : ℕ} (h : (d.ordinal : ℤ)=easterOrdinal year) :
    Finds (d.addDays (-2))
      fun o => (o : ℤ)+35=daysBeforeYear year+leapDay year+easterNumber year := by
  have hbounds := easterNumber_bounds year
  have hrange := d.inRange
  unfold easterOrdinal at h
  refine .of_ordinal (addDays_ok (n := d.ordinal-2) (by omega) (by omega) (by omega)) fun o => ?_
  dsimp only
  omega

/-- The ordinals of the holidays of a year, by the days before the year, its leap day and the
number of Easter. -/
def HolidayOrdinal (base leap : ℕ) (easter : ℤ) (o : ℕ) : Prop :=
  ObservedOrdinal (base+1) o ∨ ObservedOrdinal (base+leap+185) o ∨
    ObservedOrdinal (base+leap+359) o ∨ ObservedOrdinal (base+leap+170) o ∨
    NthOrdinal (base+1) 0 3 o ∨ NthOrdinal (base+32) 0 3 o ∨ LastOrdinal (base+leap+152) 0 o ∨
    NthOrdinal (base+leap+244) 0 1 o ∨ NthOrdinal (base+leap+305) 3 4 o ∨
    (o : ℤ)+35=base+leap+easter

/-- The same for the numbers of a year. -/
def YearHoliday (year o : ℕ) : Prop :=
  HolidayOrdinal (daysBeforeYear year) (leapDay year) (easterNumber year) o

/-- The first 28 days are in every month. -/
theorem valid_of_le {year : ℕ} (h : 1≤year ∧ year≤9999) (month day : ℕ)
    (hmonth : 1≤ month ∧ month≤12) (hday : 1≤day ∧ day≤28) : Valid year month day := by
  refine ⟨h,hmonth,hday.1,hday.2.trans ?_⟩
  unfold IsoTimestamps.daysInMonth
  split
  · split <;> decide
  · split <;> decide

/-- A fixed date is no Saturday, by its ordinal. -/
theorem noSaturday_iff (year month day : ℕ) (hmonth : 1≤ month ∧ month≤12)
    (hday : 1≤day ∧ day≤28) : (∀ d,Date.new year month day=.ok d→d.weekday≠5)↔
      (1≤year ∧ year≤9999→ ordinalOf year month day%7≠6) := by
  constructor
  · intro h hyear hsaturday
    refine h _ (new_ok (valid_of_le hyear month day hmonth hday)) ?_
    change (ordinalOf year month day+6)%7=5
    omega
  · intro h d hd hsaturday
    have hvalid := valid_of_new hd
    rw [new_ok hvalid] at hd
    cases hd
    have hweekday : (ordinalOf year month day+6)%7=5 := hsaturday
    exact h hvalid.1 (by omega)

/-- A year ends within the range of dates. -/
theorem yearEnd_le {year : ℕ} (h : 1≤year ∧ year≤9999) :
    daysBeforeYear year+365+leapDay year≤ maxOrdinal := by
  have hlast : daysBeforeYear 10000=maxOrdinal := by decide
  have hmono := daysBeforeYear_mono (by omega : 1≤year+1) (by omega : year+1≤10000)
  rw [daysBeforeYear_succ h.1] at hmono
  omega

/-- A fixed date of a year, and its holiday. -/
theorem fixedHoliday_finds {year : ℕ} (h : 1≤year ∧ year≤9999) (month day : ℕ)
    (hmonth : 1≤ month ∧ month≤12) (hday : 1≤day ∧ day≤28)
    (hlast : daysBeforeMonth year month+day<365) :
    ∃ fixed d,Date.new year month day=.ok fixed ∧ observedHoliday fixed=.ok d ∧
      ∀ e : Date,e=d↔ObservedOrdinal (ordinalOf year month day) e.ordinal := by
  have hvalid := valid_of_le h month day hmonth hday
  have hend := yearEnd_le h
  obtain ⟨d,hd,hfound⟩ := observedHoliday_finds (d := .at year month day hvalid)
    (by change daysBeforeYear year+daysBeforeMonth year month+day< maxOrdinal; omega)
  exact ⟨_,d,new_ok hvalid,hd,hfound⟩

/-- A day of the week in a month of a year. -/
theorem monthWeekday_finds {year : ℕ} (h : 1≤year ∧ year≤9999) (month weekday n : ℕ)
    (hmonth : 1≤ month ∧ month≤12) (hweekday : weekday<7) (hn : 1≤n)
    (hlast : daysBeforeMonth year month+7*n≤365) :
    Finds (nthWeekday year month weekday n) (NthOrdinal (ordinalOf year month 1) weekday n) := by
  have hend := yearEnd_le h
  refine nthWeekday_finds (valid_of_le h month 1 hmonth (by decide)) hweekday hn ?_
  unfold ordinalOf
  omega

/-- The fixed days of the holidays by the days before their year. -/
theorem ordinalOf_table (year : ℕ) :
    ordinalOf year 1 1=daysBeforeYear year+1 ∧ ordinalOf year 2 1=daysBeforeYear year+32 ∧
      ordinalOf year 6 1=daysBeforeYear year+leapDay year+152 ∧
      ordinalOf year 6 19=daysBeforeYear year+leapDay year+170 ∧
      ordinalOf year 7 3=daysBeforeYear year+leapDay year+184 ∧
      ordinalOf year 7 4=daysBeforeYear year+leapDay year+185 ∧
      ordinalOf year 9 1=daysBeforeYear year+leapDay year+244 ∧
      ordinalOf year 11 1=daysBeforeYear year+leapDay year+305 ∧
      ordinalOf year 12 24=daysBeforeYear year+leapDay year+358 ∧
      ordinalOf year 12 25=daysBeforeYear year+leapDay year+359 := by
  have hjun : daysBeforeMonth year 6=151+leapDay year := rfl
  have hjul : daysBeforeMonth year 7=181+leapDay year := rfl
  have hsep : daysBeforeMonth year 9=243+leapDay year := rfl
  have hnov : daysBeforeMonth year 11=304+leapDay year := rfl
  have hdec : daysBeforeMonth year 12=334+leapDay year := rfl
  unfold ordinalOf
  rw [hjun,hjul,hsep,hnov,hdec]
  refine ⟨rfl,rfl,?_⟩
  omega

/-- The holidays of a year are computed, and their ordinals are known. -/
theorem getNyseHolidays_spec {year : ℕ} (h : 1≤year ∧ year≤9999) :
    ∃ holidays,getNyseHolidays year=.ok holidays ∧
      ∀ d : Date,d∈holidays↔YearHoliday year d.ordinal := by
  obtain ⟨jan,feb,june,jun19,-,jul,sep,nov,-,dec⟩ := ordinalOf_table year
  have hleap := leapDay_le year
  have hjan : daysBeforeMonth year 1=0 := rfl
  have hfeb : daysBeforeMonth year 2=31 := rfl
  have hjun : daysBeforeMonth year 6=151+leapDay year := rfl
  have hjul : daysBeforeMonth year 7=181+leapDay year := rfl
  have hsep : daysBeforeMonth year 9=243+leapDay year := rfl
  have hnov : daysBeforeMonth year 11=304+leapDay year := rfl
  have hdec : daysBeforeMonth year 12=334+leapDay year := rfl
  obtain ⟨jan1,newYear,hjan1,hnewYear,isNewYear⟩ :=
    fixedHoliday_finds h 1 1 (by decide) (by decide) (by omega)
  obtain ⟨jul4,independenceDay,hjul4,hindependenceDay,isIndependenceDay⟩ :=
    fixedHoliday_finds h 7 4 (by decide) (by decide) (by omega)
  obtain ⟨dec25,christmas,hdec25,hchristmas,isChristmas⟩ :=
    fixedHoliday_finds h 12 25 (by decide) (by decide) (by omega)
  obtain ⟨juneDate,juneteenth,hjuneDate,hjuneteenth,isJuneteenth⟩ :=
    fixedHoliday_finds h 6 19 (by decide) (by decide) (by omega)
  obtain ⟨mlkDay,hmlkDay,isMlkDay⟩ :=
    monthWeekday_finds h 1 0 3 (by decide) (by decide) (by decide) (by omega)
  obtain ⟨presidentsDay,hpresidentsDay,isPresidentsDay⟩ :=
    monthWeekday_finds h 2 0 3 (by decide) (by decide) (by decide) (by omega)
  obtain ⟨memorialDay,hmemorialDay,isMemorialDay⟩ :=
    lastWeekday_finds (valid_of_le h 6 1 (by decide) (by decide)) (by decide : 1≤5)
      (by decide : 0<7)
  obtain ⟨laborDay,hlaborDay,isLaborDay⟩ :=
    monthWeekday_finds h 9 0 1 (by decide) (by decide) (by decide) (by omega)
  obtain ⟨thanksgiving,hthanksgiving,isThanksgiving⟩ :=
    monthWeekday_finds h 11 3 4 (by decide) (by decide) (by decide) (by omega)
  obtain ⟨easter,heaster,heasterOrdinal⟩ := calculateEaster_ok h
  obtain ⟨goodFriday,hgoodFriday,isGoodFriday⟩ := goodFriday_finds heasterOrdinal
  refine ⟨_,by
    simp only [getNyseHolidays,hjan1,hnewYear,hjul4,hindependenceDay,hdec25,hchristmas,hjuneDate,
      hjuneteenth,hmlkDay,hpresidentsDay,hmemorialDay,hlaborDay,hthanksgiving,heaster,
      hgoodFriday,ok_bind]
    rfl,fun d => ?_⟩
  simp only [Finset.mem_insert,Finset.mem_singleton,isNewYear,isIndependenceDay,isChristmas,
    isJuneteenth,isMlkDay,isPresidentsDay,isMemorialDay,isLaborDay,isThanksgiving,isGoodFriday,
    jan,feb,june,jun19,jul,sep,nov,dec]
  rfl

/-- Holidays of years outside the range of dates are not computed. -/
theorem getNyseHolidays_year {year : ℕ} {holidays : Finset Date}
    (h : getNyseHolidays year=.ok holidays) : 1≤year ∧ year≤9999 := by
  by_contra hrange
  unfold getNyseHolidays at h
  cases hnew : Date.new year 1 1 with
  | ok d => exact hrange (valid_of_new hnew).1
  | error error =>
    rw [hnew] at h
    cases h

/-- The computed holidays are returned in order. -/
theorem getHolidays_sort {year : ℕ} {holidays : Finset Date}
    (h : getNyseHolidays year=.ok holidays) : getHolidays year .nyse=.ok holidays.sort := by
  unfold getHolidays
  dsimp only
  rw [h]
  rfl

/-- The dates that a year returns are those of its ordinals. -/
theorem getHolidays_nyse {year : ℕ} {holidays : List Date}
    (h : getHolidays year .nyse=.ok holidays) :
    (1≤year ∧ year≤9999) ∧ ∀ d : Date,d∈holidays↔YearHoliday year d.ordinal := by
  have hyear : 1≤year ∧ year≤9999 := by
    unfold getHolidays at h
    dsimp only at h
    cases hcomputed : getNyseHolidays year with
    | error e =>
      rw [hcomputed] at h
      cases h
    | ok dates => exact getNyseHolidays_year hcomputed
  obtain ⟨dates,hcomputed,hiff⟩ := getNyseHolidays_spec hyear
  rw [getHolidays_sort hcomputed] at h
  cases h
  refine ⟨hyear,fun d => ?_⟩
  rw [Finset.mem_sort]
  exact hiff d

/-- Every day is a trading day or not: no lookup of a date's own year fails. -/
theorem isTradingDay_total (d : Date) (market : Market) :
    isTradingDay d market=.ok true ∨ isTradingDay d market=.ok false := by
  unfold isTradingDay
  by_cases hweekend : 5≤d.weekday
  · rw [if_pos hweekend]
    exact .inr rfl
  · rw [if_neg hweekend]
    cases market with
    | krx =>
      dsimp only
      cases decide (d∉krHolidays)
      · exact .inr rfl
      · exact .inl rfl
    | nyse =>
      obtain ⟨holidays,hcomputed,-⟩ := getNyseHolidays_spec d.year_range
      dsimp only
      rw [hcomputed]
      change Except.ok (decide (d∉holidays))=_ ∨ Except.ok (decide (d∉holidays))=_
      cases decide (d∉holidays)
      · exact .inr rfl
      · exact .inl rfl

/-- The trading days of New York are the weekdays off the holidays of their year. -/
theorem isTradingDay_nyse (d : Date) :
    isTradingDay d .nyse=.ok true↔d.weekday<5 ∧ ¬YearHoliday d.year d.ordinal := by
  obtain ⟨holidays,hcomputed,hiff⟩ := getNyseHolidays_spec d.year_range
  rw [←hiff d]
  unfold isTradingDay
  by_cases hweekend : 5≤d.weekday
  · rw [if_pos hweekend]
    constructor
    · intro h
      cases h
    · rintro ⟨hweekday,-⟩
      omega
  · rw [if_neg hweekend]
    dsimp only
    rw [hcomputed]
    change Except.ok (decide (d∉holidays))=_↔_
    rw [Except.ok.injEq,decide_eq_true_iff]
    exact ⟨fun h => ⟨not_le.mp hweekend,h⟩,fun h => h.2⟩

/-- The days that are none. -/
theorem isTradingDay_nyse_false (d : Date) :
    isTradingDay d .nyse=.ok false↔5≤d.weekday ∨ YearHoliday d.year d.ordinal := by
  have htrading := isTradingDay_nyse d
  obtain hopen | hclosed := isTradingDay_total d .nyse
  · have hday := htrading.mp hopen
    rw [hopen]
    constructor
    · intro h
      cases h
    · rintro (h | h)
      · exact absurd hday.1 (not_lt.mpr h)
      · exact absurd h hday.2
  · rw [hclosed]
    refine ⟨fun _ => ?_,fun _ => rfl⟩
    by_contra hnone
    rw [not_or] at hnone
    rw [htrading.mpr ⟨not_le.mp hnone.1,hnone.2⟩] at hclosed
    cases hclosed

/-- A holiday is in the year it is computed for, before its last days, unless New Year's Day falls
on a Saturday and moves to the last day of the year before. -/
theorem holidayOrdinal_bounds {base leap o : ℕ} {easter : ℤ} (heaster : 114≤easter ∧ easter≤149)
    (h : HolidayOrdinal base leap easter o) :
    (o=base ∧ o%7=5) ∨ (base<o ∧ o≤base+leap+360) := by
  unfold HolidayOrdinal ObservedOrdinal NthOrdinal LastOrdinal at h
  omega

/-- In the middle of the week only fixed dates are holidays. -/
theorem holidayOrdinal_midweek {year o : ℕ} (hyear : 1≤year) (h : YearHoliday year o)
    (hday : o%7=2 ∨ o%7=3) :
    o=daysBeforeYear year+1 ∨ o=daysBeforeYear year+leapDay year+170 ∨
      o=daysBeforeYear year+leapDay year+185 ∨ o=daysBeforeYear year+leapDay year+359 := by
  have hsunday := easterOrdinal_sunday hyear
  unfold easterOrdinal at hsunday
  unfold YearHoliday at h
  generalize daysBeforeYear year=base at *
  generalize leapDay year=leap at *
  generalize easterNumber year=easter at *
  unfold HolidayOrdinal ObservedOrdinal NthOrdinal LastOrdinal at h
  omega

/-- The year of a date by its ordinal. -/
theorem year_of_ordinal {d : Date} {year : ℕ} (h : 1≤year)
    (hd : daysBeforeYear year<d.ordinal ∧ d.ordinal≤daysBeforeYear year+leapDay year+365) :
    d.year=year := by
  rw [Date.year_eq_iff d h,daysBeforeYear_succ h]
  omega

/-- Every date that a year returns is closed. -/
def ReturnsClosed (year : ℕ) : Prop :=
  ∀ holidays,getHolidays year .nyse=.ok holidays→∀ d∈holidays,isTradingDay d .nyse=.ok false

/-- Every closed weekday is returned by some year. -/
def ClosuresReturned : Prop :=
  ∀ d : Date,d.weekday<5→isTradingDay d .nyse=.ok false→
    ∃ year holidays,getHolidays year .nyse=.ok holidays ∧ d∈holidays

/-- A closed weekday is returned by its own year. -/
theorem closuresReturned : ClosuresReturned := by
  intro d hweekday hclosed
  obtain ⟨holidays,hcomputed,hiff⟩ := getNyseHolidays_spec d.year_range
  have hholiday := ((isTradingDay_nyse_false d).mp hclosed).resolve_left (not_le.mpr hweekday)
  refine ⟨d.year,holidays.sort,getHolidays_sort hcomputed,?_⟩
  rw [Finset.mem_sort]
  exact (hiff d).mpr hholiday

/-- A year that begins on a Saturday returns the last day of the year before, which trades. -/
theorem not_returnsClosed {year : ℕ} (h : 1≤year ∧ year≤9999)
    (hsaturday : ordinalOf year 1 1%7=6) : ¬ReturnsClosed year := by
  intro hclosed
  have hend := yearEnd_le h
  have hfirst : ordinalOf year 1 1=daysBeforeYear year+1 := (ordinalOf_table year).1
  obtain ⟨holidays,hcomputed,hiff⟩ := getNyseHolidays_spec h
  have hlast : 1≤daysBeforeYear year ∧ daysBeforeYear year≤ maxOrdinal := by omega
  have hholiday : YearHoliday year (daysBeforeYear year) := .inl (.inl ⟨by omega,rfl⟩)
  have hday := hclosed _ (getHolidays_sort hcomputed) ⟨daysBeforeYear year,hlast⟩
    ((Finset.mem_sort _).mpr ((hiff ⟨_,hlast⟩).mpr hholiday))
  have hone : 1≤year-1 := by
    by_contra hzero
    have hyear : year=1 := by omega
    subst hyear
    cases hsaturday
  have hsucc := daysBeforeYear_succ hone
  rw [Nat.sub_add_cancel h.1] at hsucc
  have hyear : Date.year ⟨daysBeforeYear year,hlast⟩=year-1 := by
    refine year_of_ordinal hone ?_
    dsimp only
    omega
  obtain hweekend | hother := (isTradingDay_nyse_false _).mp hday
  · unfold Date.weekday at hweekend
    dsimp only at hweekend
    omega
  · rw [hyear] at hother
    have hbounds := holidayOrdinal_bounds (easterNumber_bounds (year-1)) hother
    dsimp only at hbounds
    omega

/-- The dates that a year returns are closed, and the closed weekdays are returned, exactly when
the year does not begin on a Saturday. -/
theorem getHolidays_closed (year : ℕ) :
    (ReturnsClosed year ∧ ClosuresReturned)↔∀ d,Date.new year 1 1=.ok d→d.weekday≠5 := by
  have hordinal : ordinalOf year 1 1=daysBeforeYear year+1 := (ordinalOf_table year).1
  rw [noSaturday_iff year 1 1 (by decide) (by decide)]
  constructor
  · rintro ⟨hclosed,-⟩ hyear hsaturday
    exact not_returnsClosed hyear hsaturday hclosed
  · intro h
    refine ⟨fun holidays hreturned d hd => ?_,closuresReturned⟩
    obtain ⟨hyear,hiff⟩ := getHolidays_nyse hreturned
    have hholiday := (hiff d).mp hd
    have hfirst := h hyear
    obtain hlast | hin := holidayOrdinal_bounds (easterNumber_bounds year) hholiday
    · omega
    · refine (isTradingDay_nyse_false d).mpr (.inr ?_)
      rwa [year_of_ordinal hyear.1 ⟨hin.1,by omega⟩]

/-- 2022 returns the last day of 2021, a Friday that trades. -/
theorem getHolidays_closed_not : ¬(ReturnsClosed 2022 ∧ ClosuresReturned) := by
  intro h
  exact not_returnsClosed (by decide) (by decide) h.1

/-- The ordinals of the early closes of a year, by the days before it and its leap day. -/
def EarlyOrdinal (base leap o : ℕ) : Prop :=
  (o=base+leap+184 ∧ (o+6)%7<5) ∨ NthOrdinal (base+leap+305) 3 4 (o-1) ∨
    (o=base+leap+358 ∧ (o+6)%7<5)

/-- Early closes are holidays where the holiday after them moves onto them. -/
theorem earlyOrdinal_holiday {base leap o : ℕ} {easter : ℤ} (heaster : 114≤easter ∧ easter≤149)
    (h : EarlyOrdinal base leap o) :
    HolidayOrdinal base leap easter o↔
      (o=base+leap+184 ∧ o%7=5) ∨ (o=base+leap+358 ∧ o%7=5) := by
  constructor
  · intro hholiday
    unfold HolidayOrdinal ObservedOrdinal NthOrdinal LastOrdinal at hholiday
    unfold EarlyOrdinal NthOrdinal at h
    obtain h | h | h := h
    all_goals omega
  · rintro (⟨ho,hfriday⟩ | ⟨ho,hfriday⟩)
    · exact .inr (.inl (.inl ⟨by omega,by omega⟩))
    · exact .inr (.inr (.inl (.inl ⟨by omega,by omega⟩)))

/-- Dates of the weekdays among given ones. -/
theorem mem_weekdayOnly (d e : Date) : e∈weekdayOnly d↔e=d ∧ (e.ordinal+6)%7<5 := by
  unfold weekdayOnly Date.weekday
  by_cases hweekday : (d.ordinal+6)%7<5
  · rw [if_pos hweekday,Finset.mem_singleton]
    exact ⟨fun heq => ⟨heq,heq ▸ hweekday⟩,fun h => h.1⟩
  · rw [if_neg hweekday]
    constructor
    · intro h
      cases h
    · rintro ⟨rfl,h⟩
      exact absurd h hweekday

/-- A date by its fields is the one with their ordinal. -/
theorem eq_at_iff {year month day : ℕ} (h : Valid year month day) (e : Date) :
    e=.at year month day h↔e.ordinal=ordinalOf year month day :=
  ⟨fun heq => heq ▸ rfl,fun heq => Date.ordinal_injective heq⟩

/-- The Friday after Thanksgiving. -/
theorem friday_finds {thanksgiving : Date} {first : ℕ}
    (h : ∀ e : Date,e=thanksgiving↔NthOrdinal first 3 4 e.ordinal) (hlast : first+28≤ maxOrdinal) :
    Finds (thanksgiving.addDays 1) fun o => NthOrdinal first 3 4 (o-1) := by
  have hone := thanksgiving.inRange.1
  have hnth := (h thanksgiving).mp rfl
  unfold NthOrdinal at hnth
  have hfriday := addDays_ok (d := thanksgiving) (k := 1) (n := thanksgiving.ordinal+1) rfl
    (by omega) (by omega)
  refine .of_ordinal hfriday fun o => ?_
  unfold NthOrdinal
  dsimp only
  omega

/-- The early closes of a year are computed, and their ordinals are known. -/
theorem getNyseEarlyCloseDates_spec {year : ℕ} (h : 1≤year ∧ year≤9999) :
    ∃ dates,getNyseEarlyCloseDates year=.ok dates ∧
      ∀ d : Date,d∈dates↔EarlyOrdinal (daysBeforeYear year) (leapDay year) d.ordinal := by
  obtain ⟨-,-,-,-,jul3,-,-,nov,dec24,-⟩ := ordinalOf_table year
  have hleap := leapDay_le year
  have hend := yearEnd_le h
  have hnov : daysBeforeMonth year 11=304+leapDay year := rfl
  obtain ⟨thanksgiving,hthanksgiving,isThanksgiving⟩ :=
    monthWeekday_finds h 11 3 4 (by decide) (by decide) (by decide) (by omega)
  obtain ⟨friday,hfriday,isFriday⟩ := friday_finds isThanksgiving (by omega)
  have hjul3 := valid_of_le h 7 3 (by decide) (by decide)
  have hdec24 := valid_of_le h 12 24 (by decide) (by decide)
  refine ⟨_,by
    simp only [getNyseEarlyCloseDates,new_ok hjul3,new_ok hdec24,hthanksgiving,hfriday,ok_bind]
    rfl,fun d => ?_⟩
  rw [Finset.mem_union,Finset.mem_union,Finset.mem_singleton,mem_weekdayOnly,mem_weekdayOnly,
    eq_at_iff,eq_at_iff,isFriday,jul3,nov,dec24]
  unfold EarlyOrdinal
  rw [or_assoc]

/-- Early closes of years outside the range of dates are not computed. -/
theorem getNyseEarlyCloseDates_year {year : ℕ} {dates : Finset Date}
    (h : getNyseEarlyCloseDates year=.ok dates) : 1≤year ∧ year≤9999 := by
  unfold getNyseEarlyCloseDates at h
  cases hnew : Date.new year 7 3 with
  | error e =>
    rw [hnew] at h
    cases h
  | ok d => exact (valid_of_new hnew).1

/-- A holiday of New York is a weekday of its year's table. -/
theorem isHoliday_nyse {d : Date} (h : isHoliday d .nyse=.ok true) :
    isTradingDay d .nyse=.ok false := by
  obtain ⟨holidays,hcomputed,hiff⟩ := getNyseHolidays_spec d.year_range
  unfold isHoliday at h
  by_cases hweekend : 5≤d.weekday
  · exact (isTradingDay_nyse_false d).mpr (.inl hweekend)
  · rw [if_neg hweekend] at h
    dsimp only at h
    rw [hcomputed] at h
    change Except.ok (decide (d∈holidays))=_ at h
    rw [Except.ok.injEq,decide_eq_true_iff,hiff] at h
    exact (isTradingDay_nyse_false d).mpr (.inr h)

/-- An early close of New York is in its year's table. -/
theorem isEarlyClose_nyse (d : Date) : ∃ dates,getNyseEarlyCloseDates d.year=.ok dates ∧
    isEarlyClose d .nyse=.ok (decide (d∈dates)) := by
  obtain ⟨dates,hcomputed,-⟩ := getNyseEarlyCloseDates_spec d.year_range
  refine ⟨dates,hcomputed,?_⟩
  unfold isEarlyClose
  dsimp only
  rw [hcomputed]
  rfl

/-- Every early close of a year is a trading day. -/
def EarlyClosesTrade (year : ℕ) : Prop :=
  ∀ dates,getNyseEarlyCloseDates year=.ok dates→∀ d∈dates,isTradingDay d .nyse=.ok true

/-- No date of a year is a full holiday and an early close. -/
def NeverBoth (year : ℕ) : Prop :=
  ∀ d : Date,d.year=year→¬(isHoliday d .nyse=.ok true ∧ isEarlyClose d .nyse=.ok true)

/-- The weekday before a holiday that moves off a Saturday is an early close that is closed. -/
theorem not_earlyClosesTrade {year o : ℕ} (h : 1≤year ∧ year≤9999)
    (ho : (o=daysBeforeYear year+leapDay year+184 ∨ o=daysBeforeYear year+leapDay year+358) ∧
      o%7=5) : ¬EarlyClosesTrade year := by
  intro htrade
  have hend := yearEnd_le h
  obtain ⟨dates,hcomputed,hiff⟩ := getNyseEarlyCloseDates_spec h
  have hearly : EarlyOrdinal (daysBeforeYear year) (leapDay year) o := by
    unfold EarlyOrdinal
    omega
  have hday := htrade dates hcomputed ⟨o,by omega,by omega⟩ ((hiff _).mpr hearly)
  refine ((isTradingDay_nyse _).mp hday).2 ?_
  rw [year_of_ordinal h.1 ⟨by dsimp only; omega,by dsimp only; omega⟩]
  refine (earlyOrdinal_holiday (easterNumber_bounds year) hearly).mpr ?_
  omega

/-- Where neither holiday moves off a Saturday, the early closes are trading days. -/
theorem earlyClosesTrade {year : ℕ} (hjul : 1≤year ∧ year≤9999→ ordinalOf year 7 4%7≠6)
    (hdec : 1≤year ∧ year≤9999→ ordinalOf year 12 25%7≠6) : EarlyClosesTrade year := by
  obtain ⟨-,-,-,-,-,jul4,-,-,-,dec25⟩ := ordinalOf_table year
  intro dates hcomputed d hd
  have hyear := getNyseEarlyCloseDates_year hcomputed
  have hnotJul := hjul hyear
  have hnotDec := hdec hyear
  obtain ⟨known,hknown,hiff⟩ := getNyseEarlyCloseDates_spec hyear
  rw [hcomputed] at hknown
  cases hknown
  have hearly := (hiff d).mp hd
  have hwindow := hearly
  unfold EarlyOrdinal NthOrdinal at hwindow
  have hin : d.year=year := by
    refine year_of_ordinal hyear.1 ?_
    omega
  rw [isTradingDay_nyse,hin]
  constructor
  · unfold Date.weekday
    omega
  · intro hholiday
    have hclash := (earlyOrdinal_holiday (easterNumber_bounds year) hearly).mp hholiday
    omega

/-- Then none of them is a full holiday. -/
theorem EarlyClosesTrade.neverBoth {year : ℕ} (h : EarlyClosesTrade year) : NeverBoth year := by
  rintro d rfl ⟨hholiday,hearly⟩
  obtain ⟨dates,hcomputed,hclose⟩ := isEarlyClose_nyse d
  rw [hclose,Except.ok.injEq,decide_eq_true_iff] at hearly
  have hopen := h dates hcomputed d hearly
  rw [isHoliday_nyse hholiday] at hopen
  cases hopen

/-- The early closes of a year are trading days, and none of them a full holiday, exactly when
neither Independence Day nor Christmas falls on a Saturday. -/
theorem earlyCloses_trade (year : ℕ) : (EarlyClosesTrade year ∧ NeverBoth year)↔
    (∀ d,Date.new year 7 4=.ok d→d.weekday≠5) ∧ ∀ d,Date.new year 12 25=.ok d→d.weekday≠5 := by
  obtain ⟨-,-,-,-,-,jul4,-,-,-,dec25⟩ := ordinalOf_table year
  rw [noSaturday_iff year 7 4 (by decide) (by decide),
    noSaturday_iff year 12 25 (by decide) (by decide)]
  constructor
  · rintro ⟨htrade,-⟩
    constructor
    · intro hyear hsaturday
      exact not_earlyClosesTrade hyear ⟨.inl rfl,by omega⟩ htrade
    · intro hyear hsaturday
      exact not_earlyClosesTrade hyear ⟨.inr rfl,by omega⟩ htrade
  · rintro ⟨hjul,hdec⟩
    have htrade := earlyClosesTrade hjul hdec
    exact ⟨htrade,htrade.neverBoth⟩

/-- In 2020 the third of July closes early and is closed. -/
theorem earlyCloses_trade_not : ¬(EarlyClosesTrade 2020 ∧ NeverBoth 2020) := by
  intro h
  exact not_earlyClosesTrade (by decide) (o := ordinalOf 2020 7 3) (by decide) h.1

end Aqts.MarketCalendar
