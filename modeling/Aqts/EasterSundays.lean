import Aqts.MarketHolidays

/-!
# Easter

What `_calculate_easter` returns in every year: a Sunday between March 22 and April 25, two
days after a Friday. Dates end with the year 9999, and the construction of a later one raises.
-/

namespace Aqts.MarketCalendar

open CivilDates

/-- March 22 to April 25. -/
def EasterDay (month day : ℕ) : Prop :=
  (month=3 ∧ 22≤day ∧ day≤31) ∨ (month=4 ∧ 1≤day ∧ day≤25)

/-- The last number of Easter does not occur. -/
theorem easterNumber_le (year : ℕ) : easterNumber year≤148 := by
  unfold easterNumber
  dsimp only
  generalize (19*((year : ℤ)%19)+(year : ℤ)/100-(year : ℤ)/100/4-
    ((year : ℤ)/100-((year : ℤ)/100+8)/25+1)/3+15)=x
  generalize (32+2*((year : ℤ)/100%4)+2*((year : ℤ)%100/4)-x%30-(year : ℤ)%100%4)=y
  have ha : 0≤(year : ℤ)%19 := by omega
  generalize (year : ℤ)%19=a at ha
  -- the sum is largest for 29 and 6, and then the quotient is not zero
  have hx : 0≤x%30 ∧ x%30≤29 := by omega
  have hy : 0≤y%7 ∧ y%7≤6 := by omega
  omega

/-- The month and the day of Easter. -/
theorem easterDay (year : ℕ) :
    EasterDay (easterNumber year/31).toNat (easterNumber year%31+1).toNat := by
  have hlow := (easterNumber_bounds year).1
  have hhigh := easterNumber_le year
  unfold EasterDay
  omega

/-- The days of Easter are in their months. -/
theorem EasterDay.valid {year month day : ℕ} (h : EasterDay month day) (hone : 1≤year)
    (hlast : year≤9999) : Valid year month day := by
  rcases h with ⟨rfl,hfirst,hend⟩ | ⟨rfl,hfirst,hend⟩
  · exact ⟨⟨hone,hlast⟩,by decide,by omega,hend⟩
  · exact ⟨⟨hone,hlast⟩,by decide,hfirst,(by omega : day≤30)⟩

/-- From 1583 to 9999 Easter is a Sunday between March 22 and April 25 of its year, and Good
Friday is a Friday; later years have no dates, which `date` reports in one way or another. -/
theorem calculateEaster_sunday {year : ℕ} (h : 1583≤year) :
    (year≤9999→∃ month day,∃ hvalid : Valid year month day,EasterDay month day ∧
      calculateEaster year=.ok (.at year month day hvalid) ∧
      (Date.at year month day hvalid).weekday=6 ∧
      ∃ goodFriday,(Date.at year month day hvalid).addDays (-2)=.ok goodFriday ∧
        goodFriday.weekday=4) ∧
    (9999<year→calculateEaster year=.error (if year<2^31 then .year else .overflow)) := by
  have hday := easterDay year
  constructor
  · intro hlast
    have hvalid := hday.valid (by omega) hlast
    have hnew : calculateEaster year=.ok (.at year _ _ hvalid) := new_ok hvalid
    obtain ⟨d,hd,hordinal⟩ := calculateEaster_ok ⟨by omega,hlast⟩
    have hsame := Except.ok.inj (hnew.symm.trans hd)
    have hsunday := easterOrdinal_sunday (by omega : 1≤year)
    refine ⟨_,_,hvalid,hday,hnew,?_⟩
    rw [hsame]
    have hbefore := (easterNumber_bounds year).1
    have hseven : d.ordinal%7=0 := by omega
    have hlong : 3≤d.ordinal := by
      unfold easterOrdinal at hordinal
      omega
    have hrange := d.inRange
    have hfriday : (d.ordinal : ℤ)+(-2)=((d.ordinal-2 : ℕ) : ℤ) := by omega
    refine ⟨?_,_,addDays_ok hfriday (by omega) (by omega),?_⟩
    · unfold Date.weekday
      omega
    · unfold Date.weekday
      dsimp only
      omega
  · intro hlate
    have hnot : ¬(1≤year ∧ year≤9999) := by omega
    have hlimit : cIntLimit=2^31 := rfl
    have hbounds := easterNumber_bounds year
    unfold calculateEaster Date.new
    dsimp only
    rw [dif_neg fun hvalid => hnot hvalid.1]
    by_cases hsmall : year<2^31
    · rw [if_neg (by omega),if_pos hnot,if_pos hsmall]
    · rw [if_pos (.inl (by omega)),if_neg hsmall]

/-- In the year 10000 there is no date of Easter. -/
theorem calculateEaster_last : ¬∃ d,calculateEaster 10000=.ok d := by
  rintro ⟨d,hd⟩
  have herror : calculateEaster 10000=.error .year := by rfl
  rw [herror] at hd
  cases hd

/-- Easter of the year 2024. -/
theorem calculateEaster_sunday_2024 :
    (2024≤9999→∃ month day,∃ hvalid : Valid 2024 month day,EasterDay month day ∧
      calculateEaster 2024=.ok (.at 2024 month day hvalid) ∧
      (Date.at 2024 month day hvalid).weekday=6 ∧
      ∃ goodFriday,(Date.at 2024 month day hvalid).addDays (-2)=.ok goodFriday ∧
        goodFriday.weekday=4) ∧
    (9999<2024→calculateEaster 2024=.error (if 2024<2^31 then .year else .overflow)) :=
  calculateEaster_sunday (by decide)

end Aqts.MarketCalendar
