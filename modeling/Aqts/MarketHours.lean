import Aqts.MarketHolidays

/-!
# Market hours

Whether an exchange is open at a point of time that a caller gives in a zone of its own. The
exchange's wall clock follows daylight saving time in New York; the answer takes the day from the
caller's clock and the time from the exchange's standard time, so both can be off.
-/

namespace Aqts.MarketCalendar

open CivilDates

/-- Microseconds of an hour. -/
def hour : ℕ := 3600000000

/-- Microseconds of a day. -/
def dayMicros : ℕ := 86400000000

/-- `tzinfo`: the zones of the module, and a zone of the caller by its offset from UTC. -/
inductive Zone
  /-- `KST`. -/
  | kst
  /-- `EST`. -/
  | est
  /-- `EDT`. -/
  | edt
  /-- Any other one. -/
  | other (offset : ℤ) (within : -(dayMicros : ℤ)<offset ∧ offset<dayMicros)
  deriving DecidableEq

/-- `utcoffset()`. -/
def Zone.utcoffset : Zone→ℤ
  | .kst => 9*hour
  | .est => -5*hour
  | .edt => -4*hour
  | .other offset _ => offset

/-- `datetime` with a zone. -/
structure AwareDatetime where
  /-- `date()`. -/
  date : Date
  /-- `time()`: microseconds since midnight. -/
  time : ℕ
  /-- The time is within the day. -/
  timed : time<dayMicros
  /-- `tzinfo`. -/
  zone : Zone

/-- The point of time, in microseconds of UTC. -/
def AwareDatetime.instant (dt : AwareDatetime) : ℤ :=
  dt.date.ordinal*dayMicros+dt.time-dt.zone.utcoffset

/-- What a clock with an offset shows at a point of time: the date and the time of day. -/
def reading (instant offset : ℤ) : Except DateError (Date×ℕ) :=
  (Date.fromOrdinal ((instant+offset)/dayMicros)).map
    fun d => (d,((instant+offset)%dayMicros).toNat)

/-- `astimezone`: nothing to do in the same zone, else by way of UTC. -/
def AwareDatetime.astimezone (dt : AwareDatetime) (zone : Zone) : Except DateError (Date×ℕ) :=
  if dt.zone=zone then .ok (dt.date,dt.time)
  else do
    let _ ← reading dt.instant 0
    reading dt.instant zone.utcoffset

/-- `MARKET_HOURS[market]["open"]`. -/
def openTime : Market→ℕ
  | .krx => 9*hour
  | .nyse => 9*hour+hour/2

/-- `MARKET_HOURS[market]["tz"]`. -/
def hoursTz : Market→Zone
  | .krx => .kst
  | .nyse => .est

/-- `get_close_time`. -/
def getCloseTime (d : Date) (market : Market) : Except DateError ℕ :=
  match market with
  | .krx => .ok (15*hour+hour/2)
  | .nyse => (isEarlyClose d .nyse).map fun early => if early then 13*hour else 16*hour

/-- `is_market_open`. -/
def isMarketOpen (dt : AwareDatetime) (market : Market) : Except DateError Bool := do
  let trading ← isTradingDay dt.date market
  if trading then
    let localDt ← dt.astimezone (hoursTz market)
    let closeTime ← getCloseTime dt.date market
    .ok (decide (openTime market≤localDt.2 ∧ localDt.2≤ closeTime))
  else .ok false

/-- `is_dst`. -/
def isDst (d : Date) : Except DateError Bool := do
  let dstStart ← nthWeekday d.year 3 6 2
  let dstEnd ← nthWeekday d.year 11 6 1
  .ok (decide (dstStart≤d ∧ d<dstEnd))

/-- `get_market_tz`. -/
def getMarketTz (d : Date) (market : Market) : Except DateError Zone :=
  match market with
  | .krx => .ok .kst
  | .nyse => (isDst d).map fun dst => if dst then .edt else .est

/-- The exchange's wall clock: it shows a date and a time in the zone of that date. -/
def LocalReading (market : Market) (instant : ℤ) (d : Date) (time : ℕ) : Prop :=
  ∃ zone,getMarketTz d market=.ok zone ∧ reading instant zone.utcoffset=.ok (d,time)

/-- The exchange is open at a point of time: its wall clock shows a trading day, and a time from
the opening to the close of that day. -/
def OpenAt (market : Market) (instant : ℤ) : Prop :=
  ∃ d time closeTime,LocalReading market instant d time ∧ isTradingDay d market=.ok true ∧
    getCloseTime d market=.ok closeTime ∧ openTime market≤time ∧ time≤ closeTime

/-- The answer for a caller's point of time is given, and is right. -/
def AnswersRight (market : Market) (dt : AwareDatetime) : Prop :=
  ∃ answer,isMarketOpen dt market=.ok answer ∧ (answer=true↔OpenAt market dt.instant)

/-- What the exchange's wall clock is ahead of its standard time on a date. -/
def shift (market : Market) (d : Date) : ℕ :=
  if getMarketTz d market=.ok .edt then hour else 0

/-- The day of the caller's clock and the standard time of the exchange do for its wall clock: the
caller's day, where it is a trading day, converts to standard time; and the standard time is not in
a part of the day in which the two make a difference. -/
structure ClocksAgree (market : Market) (dt : AwareDatetime) : Prop where
  /-- No conversion of a trading day leaves the range of dates. -/
  converts : isTradingDay dt.date market=.ok true→
    ∃ there,dt.astimezone (hoursTz market)=.ok there
  /-- Both days are trading days: not between the two openings, nor between the two closes. -/
  bothTrade : ∀ d t callerClose closeTime,
    reading dt.instant (hoursTz market).utcoffset=.ok (d,t)→
    isTradingDay dt.date market=.ok true→isTradingDay d market=.ok true→
    getCloseTime dt.date market=.ok callerClose→ getCloseTime d market=.ok closeTime→
    ¬(openTime market≤t+shift market d ∧ t<openTime market) ∧
      ¬(closeTime<t+shift market d ∧ t≤ callerClose) ∧
      ¬(callerClose<t ∧ t+shift market d≤ closeTime)
  /-- Only the caller's day is: not in its hours. -/
  callerTrades : ∀ d t callerClose,
    reading dt.instant (hoursTz market).utcoffset=.ok (d,t)→
    isTradingDay dt.date market=.ok true→isTradingDay d market=.ok false→
    getCloseTime dt.date market=.ok callerClose→¬(openTime market≤t ∧ t≤ callerClose)
  /-- Only the exchange's day is: not in its hours. -/
  exchangeTrades : ∀ d t closeTime,
    reading dt.instant (hoursTz market).utcoffset=.ok (d,t)→
    isTradingDay dt.date market=.ok false→isTradingDay d market=.ok true→
    getCloseTime d market=.ok closeTime→
    ¬(openTime market≤t+shift market d ∧ t+shift market d≤ closeTime)

/-- What a clock shows determines the point of time. -/
theorem reading_iff {instant offset : ℤ} {d : Date} {t : ℕ} :
    reading instant offset=.ok (d,t)↔
      t<dayMicros ∧ instant+offset=(d.ordinal : ℤ)*dayMicros+t := by
  have hday : (dayMicros : ℤ)=86400000000 := rfl
  have hdayNat : dayMicros=86400000000 := rfl
  have hrange := d.inRange
  unfold reading Date.fromOrdinal
  rw [hday,hdayNat]
  by_cases hin : 1≤(instant+offset)/86400000000 ∧ (instant+offset)/86400000000≤ maxOrdinal
  · rw [dif_pos hin]
    change Except.ok _=_↔_
    rw [Except.ok.injEq,Prod.mk.injEq]
    constructor
    · rintro ⟨hd,ht⟩
      have hordinal := congrArg Date.ordinal hd
      dsimp only at hordinal
      omega
    · rintro ⟨ht,hinstant⟩
      refine ⟨Date.ordinal_injective ?_,?_⟩
      · dsimp only
        omega
      · omega
  · rw [dif_neg hin]
    constructor
    · intro h
      cases h
    · rintro ⟨ht,hinstant⟩
      omega

/-- One clock shows one date and time. -/
theorem reading_unique {instant offset : ℤ} {a b : Date×ℕ} (ha : reading instant offset=.ok a)
    (hb : reading instant offset=.ok b) : a=b := by
  rw [ha] at hb
  exact Except.ok.inj hb

/-- The caller's conversion shows what the clock of the other zone shows. -/
theorem reading_of_astimezone {dt : AwareDatetime} {zone : Zone} {there : Date×ℕ}
    (h : dt.astimezone zone=.ok there) : reading dt.instant zone.utcoffset=.ok there := by
  unfold AwareDatetime.astimezone at h
  by_cases hsame : dt.zone=zone
  · rw [if_pos hsame] at h
    cases h
    subst hsame
    refine reading_iff.mpr ⟨dt.timed,?_⟩
    unfold AwareDatetime.instant
    omega
  · rw [if_neg hsame] at h
    cases hutc : reading dt.instant 0 with
    | error e =>
      rw [hutc] at h
      cases h
    | ok utc =>
      rw [hutc,ok_bind] at h
      exact h

/-- Early closes are decided for every date. -/
theorem getCloseTime_spec (d : Date) (market : Market) :
    ∃ closeTime,getCloseTime d market=.ok closeTime ∧ openTime market+hour≤ closeTime ∧
      closeTime+hour<dayMicros := by
  cases market with
  | krx => exact ⟨_,rfl,by decide,by decide⟩
  | nyse =>
    obtain ⟨dates,-,hclose⟩ := isEarlyClose_nyse d
    unfold getCloseTime
    dsimp only
    rw [hclose]
    cases decide (d∈dates) with
    | false => exact ⟨16*hour,rfl,by decide,by decide⟩
    | true => exact ⟨13*hour,rfl,by decide,by decide⟩

/-- Daylight saving time is decided for every date. -/
theorem isDst_decides (d : Date) : ∃ dst,isDst d=.ok dst := by
  have hyear := d.year_range
  have hmar : daysBeforeMonth d.year 3=59+leapDay d.year := rfl
  have hnov : daysBeforeMonth d.year 11=304+leapDay d.year := rfl
  have hleap := leapDay_le d.year
  obtain ⟨dstStart,hstart,-⟩ :=
    monthWeekday_finds hyear 3 6 2 (by decide) (by decide) (by decide) (by omega)
  obtain ⟨dstEnd,hend,-⟩ :=
    monthWeekday_finds hyear 11 6 1 (by decide) (by decide) (by decide) (by omega)
  exact ⟨decide (dstStart≤d ∧ d<dstEnd),by simp only [isDst,hstart,hend,ok_bind]⟩

/-- The zone of an exchange is its standard zone, moved by the shift of the date. -/
theorem getMarketTz_spec (d : Date) (market : Market) :
    ∃ zone,getMarketTz d market=.ok zone ∧
      zone.utcoffset=(hoursTz market).utcoffset+shift market d := by
  cases market with
  | krx =>
    have hshift : shift .krx d=0 := if_neg fun h => by cases h
    refine ⟨.kst,rfl,?_⟩
    rw [hshift,Nat.cast_zero,add_zero]
    rfl
  | nyse =>
    obtain ⟨dst,hdst⟩ := isDst_decides d
    have hzone : getMarketTz d .nyse=.ok (if dst then .edt else .est) := by
      unfold getMarketTz
      dsimp only
      rw [hdst]
      rfl
    refine ⟨_,hzone,?_⟩
    unfold shift
    rw [hzone]
    cases dst with
    | false =>
      rw [if_neg (by decide),if_neg (by decide),Nat.cast_zero,add_zero]
      rfl
    | true =>
      rw [if_pos rfl,if_pos rfl]
      decide

/-- The shift is none or an hour. -/
theorem shift_le (market : Market) (d : Date) : shift market d≤hour := by
  unfold shift
  split <;> decide

/-- The exchange is open exactly when its standard clock shows a trading day, and a time that is
in the hours of that day when it is moved by the shift: within the hours the two clocks show the
same date. -/
theorem openAt_iff (market : Market) (instant : ℤ) : OpenAt market instant↔
    ∃ d t closeTime,reading instant (hoursTz market).utcoffset=.ok (d,t) ∧
      isTradingDay d market=.ok true ∧ getCloseTime d market=.ok closeTime ∧
      openTime market≤t+shift market d ∧ t+shift market d≤ closeTime := by
  have hopening : hour≤openTime market := by cases market <;> decide
  constructor
  · rintro ⟨d,time,closeTime,⟨zone,hzone,hreading⟩,htrading,hclose,hopen,hclosed⟩
    have hshift := shift_le market d
    obtain ⟨known,hknown,hoffset⟩ := getMarketTz_spec d market
    rw [hzone] at hknown
    cases hknown
    obtain ⟨htime,hinstant⟩ := reading_iff.mp hreading
    have hmoved : time-shift market d+shift market d=time := by omega
    refine ⟨d,time-shift market d,closeTime,reading_iff.mpr ⟨by omega,?_⟩,htrading,hclose,
      by omega,by omega⟩
    rw [hoffset] at hinstant
    push_cast [Nat.cast_sub (by omega : shift market d≤time)]
    omega
  · rintro ⟨d,t,closeTime,hreading,htrading,hclose,hopen,hclosed⟩
    obtain ⟨zone,hzone,hoffset⟩ := getMarketTz_spec d market
    obtain ⟨known,hknown,-,hend⟩ := getCloseTime_spec d market
    rw [hclose] at hknown
    cases hknown
    obtain ⟨htime,hinstant⟩ := reading_iff.mp hreading
    refine ⟨d,t+shift market d,closeTime,⟨zone,hzone,reading_iff.mpr ⟨by omega,?_⟩⟩,htrading,
      hclose,hopen,hclosed⟩
    rw [hoffset]
    push_cast
    omega

/-- The same where the standard clock is known. -/
theorem openAt_of_reading {market : Market} {instant : ℤ} {d : Date} {t closeTime : ℕ}
    (hreading : reading instant (hoursTz market).utcoffset=.ok (d,t))
    (hclose : getCloseTime d market=.ok closeTime) : OpenAt market instant↔
      isTradingDay d market=.ok true ∧ openTime market≤t+shift market d ∧
        t+shift market d≤ closeTime := by
  rw [openAt_iff]
  constructor
  · rintro ⟨other,time,close,hother,htrading,hotherClose,hhours⟩
    cases reading_unique hreading hother
    rw [hclose] at hotherClose
    cases hotherClose
    exact ⟨htrading,hhours⟩
  · rintro ⟨htrading,hhours⟩
    exact ⟨d,t,closeTime,hreading,htrading,hclose,hhours⟩

/-- On a day that is none of trading the caller is told that the exchange is closed. -/
theorem isMarketOpen_closed {market : Market} {dt : AwareDatetime}
    (h : isTradingDay dt.date market=.ok false) : isMarketOpen dt market=.ok false := by
  unfold isMarketOpen
  rw [h]
  rfl

/-- On a trading day the conversion can fail. -/
theorem isMarketOpen_error {market : Market} {dt : AwareDatetime} {e : DateError}
    (h : isTradingDay dt.date market=.ok true) (hzone : dt.astimezone (hoursTz market)=.error e) :
    isMarketOpen dt market=.error e := by
  unfold isMarketOpen
  rw [h,ok_bind,if_pos rfl,hzone]
  rfl

/-- Else the standard time is compared with the hours of the caller's day. -/
theorem isMarketOpen_trading {market : Market} {dt : AwareDatetime} {d : Date} {t closeTime : ℕ}
    (h : isTradingDay dt.date market=.ok true) (hzone : dt.astimezone (hoursTz market)=.ok (d,t))
    (hclose : getCloseTime dt.date market=.ok closeTime) :
    isMarketOpen dt market=.ok (decide (openTime market≤t ∧ t≤ closeTime)) := by
  unfold isMarketOpen
  rw [h,ok_bind,if_pos rfl,hzone,ok_bind,hclose,ok_bind]

/-- Where the caller's day is no trading day, the answer is right unless the exchange is open. -/
theorem answersRight_closed {market : Market} {dt : AwareDatetime}
    (h : isTradingDay dt.date market=.ok false) :
    AnswersRight market dt↔ClocksAgree market dt := by
  have hanswer := isMarketOpen_closed h
  have hnot : ∀ {p : Prop},isTradingDay dt.date market=.ok true→p := by
    intro p htrue
    rw [h] at htrue
    cases htrue
  constructor
  · rintro ⟨answer,hgiven,hright⟩
    rw [hanswer] at hgiven
    cases hgiven
    refine ⟨fun hday => hnot hday,fun _ _ _ _ _ hday _ _ _ => hnot hday,
      fun _ _ _ _ hday _ _ => hnot hday,?_⟩
    intro d t closeTime hreading _ htrading hclose hhours
    cases hright.mpr ((openAt_of_reading hreading hclose).mpr ⟨htrading,hhours⟩)
  · intro hagree
    refine ⟨false,hanswer,⟨fun hfalse => (by cases hfalse),fun hopen => ?_⟩⟩
    obtain ⟨d,t,closeTime,hreading,htrading,hclose,hhours⟩ := (openAt_iff market _).mp hopen
    exact absurd hhours (hagree.exchangeTrades d t closeTime hreading h htrading hclose)

/-- The hours of the caller's day and those of the exchange's, by the standard time: where they
differ is between two openings and between two closes. -/
theorem sameHours_iff {opening callerClose closeTime t moved : ℕ} (hmoved : moved≤hour)
    (hcaller : opening+hour≤ callerClose) (hlate : opening+hour≤ closeTime) :
    ((opening≤t ∧ t≤ callerClose)↔opening≤t+moved ∧ t+moved≤ closeTime)↔
      ¬(opening≤t+moved ∧ t<opening) ∧ ¬(closeTime<t+moved ∧ t≤ callerClose) ∧
        ¬(callerClose<t ∧ t+moved≤ closeTime) := by
  constructor
  · intro h
    omega
  · rintro ⟨hopenings,hcloses,hothers⟩
    constructor
    · rintro ⟨hopen,hclosed⟩
      omega
    · rintro ⟨hopen,hclosed⟩
      omega

/-- What the condition asks on a caller's trading day whose standard time is known. -/
theorem clocksAgree_of_reading {market : Market} {dt : AwareDatetime} {d : Date}
    {t callerClose closeTime : ℕ} (h : isTradingDay dt.date market=.ok true)
    (hzone : dt.astimezone (hoursTz market)=.ok (d,t))
    (hcallerClose : getCloseTime dt.date market=.ok callerClose)
    (hclose : getCloseTime d market=.ok closeTime) : ClocksAgree market dt↔
      (isTradingDay d market=.ok true→
        ¬(openTime market≤t+shift market d ∧ t<openTime market) ∧
          ¬(closeTime<t+shift market d ∧ t≤ callerClose) ∧
          ¬(callerClose<t ∧ t+shift market d≤ closeTime)) ∧
      (isTradingDay d market=.ok false→¬(openTime market≤t ∧ t≤ callerClose)) := by
  have hreading := reading_of_astimezone hzone
  constructor
  · intro hagree
    constructor
    · intro htrading
      exact hagree.bothTrade d t callerClose closeTime hreading h htrading hcallerClose hclose
    · intro hclosed
      exact hagree.callerTrades d t callerClose hreading h hclosed hcallerClose
  · rintro ⟨hboth,hcaller⟩
    refine ⟨fun _ => ⟨_,hzone⟩,?_,?_,?_⟩
    · intro other time callerEnd ends hother _ htrading hcallerEnd hends
      cases reading_unique hreading hother
      rw [hcallerClose] at hcallerEnd
      cases hcallerEnd
      rw [hclose] at hends
      cases hends
      exact hboth htrading
    · intro other time callerEnd hother _ hclosed hcallerEnd
      cases reading_unique hreading hother
      rw [hcallerClose] at hcallerEnd
      cases hcallerEnd
      exact hcaller hclosed
    · intro other time ends _ hday
      rw [h] at hday
      cases hday

/-- Where it is one and converts, the answer is right unless only one of the two clocks is in its
hours. -/
theorem answersRight_trading {market : Market} {dt : AwareDatetime} {d : Date} {t : ℕ}
    (h : isTradingDay dt.date market=.ok true)
    (hzone : dt.astimezone (hoursTz market)=.ok (d,t)) :
    AnswersRight market dt↔ClocksAgree market dt := by
  obtain ⟨callerClose,hcallerClose,hcallerLate,-⟩ := getCloseTime_spec dt.date market
  obtain ⟨closeTime,hclose,hlate,-⟩ := getCloseTime_spec d market
  have hanswer := isMarketOpen_trading h hzone hcallerClose
  have hopen := openAt_of_reading (reading_of_astimezone hzone) hclose
  have hright : AnswersRight market dt↔
      ((openTime market≤t ∧ t≤ callerClose)↔OpenAt market dt.instant) := by
    unfold AnswersRight
    rw [hanswer]
    constructor
    · rintro ⟨answer,hgiven,hiff⟩
      cases hgiven
      rwa [decide_eq_true_iff] at hiff
    · intro hiff
      exact ⟨_,rfl,by rwa [decide_eq_true_iff]⟩
  rw [hright,hopen,clocksAgree_of_reading h hzone hcallerClose hclose,
    ←sameHours_iff (shift_le market d) hcallerLate hlate]
  obtain htrading | hclosed := isTradingDay_total d market
  · have hnot : ¬isTradingDay d market=.ok false := by
      rw [htrading]
      intro hfalse
      cases hfalse
    constructor
    · intro hiff
      exact ⟨fun _ => hiff.trans (and_iff_right htrading),fun hfalse => absurd hfalse hnot⟩
    · intro hagree
      exact (hagree.1 htrading).trans (and_iff_right htrading).symm
  · have hnot : ¬isTradingDay d market=.ok true := by
      rw [hclosed]
      intro htrue
      cases htrue
    constructor
    · intro hiff
      exact ⟨fun htrue => absurd htrue hnot,fun _ hin => hnot (hiff.mp hin).1⟩
    · intro hagree
      exact ⟨fun hin => absurd hin (hagree.2 hclosed),fun hin => absurd hin.1 hnot⟩

/-- A caller whose clock shows the exchange's date, out of daylight saving time, gets the right
answer. -/
theorem clocksAgree_of_standard {market : Market} {dt : AwareDatetime} {t : ℕ}
    (h : dt.astimezone (hoursTz market)=.ok (dt.date,t)) (hshift : shift market dt.date=0) :
    ClocksAgree market dt := by
  have hreading := reading_of_astimezone h
  refine ⟨fun _ => ⟨_,h⟩,?_,?_,?_⟩
  · intro d time callerClose closeTime hother _ _ hcaller hclose
    cases reading_unique hreading hother
    rw [hcaller] at hclose
    cases hclose
    omega
  · intro d time callerClose hother htrading hclosed
    cases reading_unique hreading hother
    rw [htrading] at hclosed
    cases hclosed
  · intro d time closeTime hother hclosed htrading
    cases reading_unique hreading hother
    rw [htrading] at hclosed
    cases hclosed

/-- The answer is right, for the point of time and not for the caller's clock, exactly when the
caller's day and the standard time do for the exchange's wall clock. -/
theorem isMarketOpen_right (market : Market) :
    (∀ dt,AnswersRight market dt↔ClocksAgree market dt) ∧
    ∀ dt other : AwareDatetime,dt.instant=other.instant→ ClocksAgree market dt→
      ClocksAgree market other→isMarketOpen dt market=isMarketOpen other market := by
  have hright : ∀ dt,AnswersRight market dt↔ClocksAgree market dt := by
    intro dt
    obtain htrading | hclosed := isTradingDay_total dt.date market
    · cases hzone : dt.astimezone (hoursTz market) with
      | error e =>
        constructor
        · rintro ⟨answer,hgiven,-⟩
          rw [isMarketOpen_error htrading hzone] at hgiven
          cases hgiven
        · intro hagree
          obtain ⟨there,hthere⟩ := hagree.converts htrading
          rw [hzone] at hthere
          cases hthere
      | ok there => exact answersRight_trading htrading hzone
    · exact answersRight_closed hclosed
  refine ⟨hright,?_⟩
  intro dt other hinstant hagree hotherAgree
  obtain ⟨answer,hanswer,hiff⟩ := (hright dt).mpr hagree
  obtain ⟨otherAnswer,hotherAnswer,hotherIff⟩ := (hright other).mpr hotherAgree
  rw [hanswer,hotherAnswer]
  rw [hinstant,←hotherIff] at hiff
  exact congrArg Except.ok (Bool.eq_iff_iff.mpr hiff)

/-- A quarter of an hour after the opening of a day in July. -/
def julyMorning : AwareDatetime :=
  ⟨.at 2024 7 1 (by decide),9*hour+3*(hour/4),by decide,.edt⟩

/-- In July the exchange opens by its wall clock, and the answer is that it is closed; and a Friday
noon in New York is a Saturday in Korea, where it is always closed. -/
theorem isMarketOpen_right_not : (OpenAt .nyse julyMorning.instant ∧
    isMarketOpen julyMorning .nyse=.ok false) ∧
    ∃ dt other : AwareDatetime,dt.instant=other.instant ∧ isMarketOpen dt .nyse=.ok true ∧
      isMarketOpen other .nyse=.ok false := by
  refine ⟨⟨?_,by decide +kernel⟩,⟨.at 2024 7 12 (by decide),12*hour,by decide,.edt⟩,
    ⟨.at 2024 7 13 (by decide),1*hour,by decide,.kst⟩,by decide,by decide +kernel,
    by decide +kernel⟩
  exact ⟨.at 2024 7 1 (by decide),9*hour+3*(hour/4),16*hour,⟨.edt,by decide +kernel,
    reading_iff.mpr (by decide)⟩,by decide +kernel,by decide +kernel,by decide,by decide⟩

end Aqts.MarketCalendar
