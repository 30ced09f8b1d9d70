import Mathlib.Algebra.Order.Field.Basic
import Mathlib.Algebra.Order.Ring.Rat
import Mathlib.Tactic.Linarith
import Mathlib.Tactic.LinearCombination
import Mathlib.Tactic.NormNum
import Mathlib.Tactic.Ring
import Aqts.ExpiringSlot
import Aqts.MarketHours

/-!
# Exchange rates

`ExchangeRateManager`: the rate from the cache, from KIS or from FRED, and the value of a
portfolio in KRW. The key of the cache is an `ExpiringSlot`; a `Moment` is what one lookup
meets, with what other clients did to the key before it. Instants are microseconds as in
`MarketHours`, amounts and rates are exact.

The two amounts in USD are converted by separate lookups, each only if it is positive.
-/

namespace Aqts.ExchangeRates

open ExpiringSlot
open MarketCalendar (hour dayMicros)

/-- The exceptions of the lookups. -/
inductive RateError (K : Type*)
  /-- A request failed, with the text of its exception. -/
  | request (text : String)
  /-- `float` of something that is no number. -/
  | notANumber
  /-- A reply without the value: `KeyError`. -/
  | noValue
  /-- `ValueError` for a rate that is not positive. -/
  | invalidRate (rate : K)
  /-- `ValueError` for a missing FRED key. -/
  | noFredKey
  /-- `ValueError` for a FRED reply without data. -/
  | noFredData
deriving DecidableEq

/-- A value in a reply. -/
inductive Cell (K : Type*)
  /-- The field is not there. -/
  | missing
  /-- Something that `float` raises on. -/
  | text
  /-- A number. -/
  | number (x : K)

/-- The reply of KIS, of what is read. -/
structure KisReply (K : Type*) where
  /-- `frst_bltn_exrt` of the entries of `output2`. -/
  output2 : List (Cell K)
  /-- `exrt` of `output1`, if there is an `output1`. -/
  output1 : Option (Cell K)
  /-- `exrt` of the reply itself. -/
  exrt : Cell K
  /-- `exchange_rate`. -/
  exchangeRate : Cell K

/-- `ExchangeRate`; only positive rates are made. -/
structure ExchangeRate (K : Type*) [Zero K] [LT K] where
  /-- `pair`. -/
  pair : String
  /-- `rate`. -/
  rate : K
  /-- The rate is positive. -/
  rate_pos : 0< rate
  /-- `source`. -/
  source : String
  /-- `fetched_at`. -/
  fetchedAt : ℤ

/-- What one lookup meets. -/
structure Moment (K : Type*) [Zero K] [LT K] where
  /-- What other clients did to the key since the last lookup. -/
  others : Slot (ExchangeRate K) ℤ→ Slot (ExchangeRate K) ℤ
  /-- The cache is read at this instant. -/
  readAt : ℤ
  /-- Whether the read succeeds. -/
  readable : Bool
  /-- What the KIS client returns or raises. -/
  kis : Except String (KisReply K)
  /-- `fred_api_key`. -/
  fredKey : String
  /-- The values of the observations that FRED returns, or what the request raises. -/
  fred : Except String (List (Cell K))
  /-- A new rate is fetched and written at this instant. -/
  fetchedAt : ℤ
  /-- Whether the write succeeds. -/
  writable : Bool

/-- A portfolio; fields and values of holdings may be missing. -/
structure Portfolio (K : Type*) where
  /-- `krw_holdings`, by their values. -/
  krwHoldings : Option (List (Option K))
  /-- `usd_holdings`, by their values. -/
  usdHoldings : Option (List (Option K))
  /-- `cash_krw`. -/
  cashKrw : Option K
  /-- `cash_usd`. -/
  cashUsd : Option K

section Functions

universe u

variable {K : Type u} [Field K] [LinearOrder K]

/-- `float(reply.get(name, 0))`. -/
def Cell.get : Cell K→ Except (RateError K) K
  | .missing => .ok 0
  | .text => .error .notANumber
  | .number x => .ok x

/-- `float(reply[name])`. -/
def Cell.item : Cell K→ Except (RateError K) K
  | .missing => .error .noValue
  | .text => .error .notANumber
  | .number x => .ok x

/-- The check of a fetched rate. -/
def checkedRate (rate : K) : Except (RateError K) {x : K // 0< x} :=
  if h : rate≤0 then .error (.invalidRate rate) else .ok ⟨rate,not_le.mp h⟩

/-- `fetch_from_kis`. -/
def fetchFromKis (reply : Except String (KisReply K)) : Except (RateError K) {x : K // 0< x} :=
  match reply with
  | .error text => .error (.request text)
  | .ok result => do
    let rate ← match result.output2 with
      | [] => .ok 0
      | first::_ => first.get
    let rate ← if rate≤0 then (result.output1.getD result.exrt).get else .ok rate
    let rate ← if rate≤0 then result.exchangeRate.get else .ok rate
    checkedRate rate

/-- `fetch_from_fred`. -/
def fetchFromFred (fredKey : String) (reply : Except String (List (Cell K))) :
    Except (RateError K) {x : K // 0< x} :=
  if fredKey="" then .error .noFredKey
  else
    match reply with
    | .error text => .error (.request text)
    | .ok [] => .error .noFredData
    | .ok (first::_) => do
      let krwPerUsd ← first.item
      checkedRate krwPerUsd

/-- `_is_market_hours`. -/
def isMarketHours (now : ℤ) : Bool :=
  let kstTime := now+9*hour
  let isWeekday := decide ((kstTime/dayMicros+6)%7<5)
  let currentTime := kstTime%dayMicros
  isWeekday && decide (9*(hour : ℤ)≤ currentTime) &&
    decide (currentTime≤15*(hour : ℤ)+30*60000000)

/-- The lifetime of a cached rate: `MARKET_HOURS_TTL` or `OFF_HOURS_TTL`. -/
def cacheTtl (now : ℤ) : ℤ := if isMarketHours now=true then 300*1000000 else 86400*1000000

/-- `_get_cached_rate`. -/
def getCachedRate (m : Moment K) (slot : Slot (ExchangeRate K) ℤ) : Option (ExchangeRate K) :=
  if m.readable=true then (read m.readAt slot).map fun r => {r with source := "CACHE"} else none

/-- `_cache_rate`. -/
def cacheRate (m : Moment K) (rate : ExchangeRate K) (slot : Slot (ExchangeRate K) ℤ) :
    Slot (ExchangeRate K) ℤ :=
  if m.writable=true then setEx m.fetchedAt (cacheTtl m.fetchedAt) rate else slot

/-- `get_current_rate`, without storing to the database, and the key after it. -/
def getCurrentRate (pair : String) (m : Moment K) (before : Slot (ExchangeRate K) ℤ) :
    Except (RateError K) (ExchangeRate K)×Slot (ExchangeRate K) ℤ :=
  let slot := m.others before
  match getCachedRate m slot with
  | some rateData => (.ok rateData,slot)
  | none =>
    match fetchFromKis m.kis with
    | .ok rate =>
      let rateData : ExchangeRate K := ⟨pair,rate,rate.property,"KIS",m.fetchedAt⟩
      (.ok rateData,cacheRate m rateData slot)
    | .error _ =>
      match fetchFromFred m.fredKey m.fred with
      | .ok rate =>
        let rateData : ExchangeRate K := ⟨pair,rate,rate.property,"FRED",m.fetchedAt⟩
        (.ok rateData,cacheRate m rateData slot)
      | .error e => (.error e,slot)

/-- `convert_to_krw`. -/
def convertToKrw (m : Moment K) (usdAmount : K) (slot : Slot (ExchangeRate K) ℤ) :
    Except (RateError K) K×Slot (ExchangeRate K) ℤ :=
  match getCurrentRate "USD/KRW" m slot with
  | (.ok rateData,slot) => (.ok (usdAmount*rateData.rate),slot)
  | (.error e,slot) => (.error e,slot)

/-- `sum(h.get("value", 0) for h in holdings)`. -/
def holdingsValue (holdings : Option (List (Option K))) : K :=
  ((holdings.getD []).map fun value => value.getD 0).sum

/-- An amount in USD is added to a total, if it is positive. -/
def addUsd (m : Moment K) (usdAmount totalKrw : K) (slot : Slot (ExchangeRate K) ℤ) :
    Except (RateError K) K×Slot (ExchangeRate K) ℤ :=
  if 0< usdAmount then
    match convertToKrw m usdAmount slot with
    | (.ok krwAmount,slot) => (.ok (totalKrw+krwAmount),slot)
    | (.error e,slot) => (.error e,slot)
  else (.ok totalKrw,slot)

/-- The holdings and the cash in KRW. -/
def Portfolio.krw (p : Portfolio K) : K := holdingsValue p.krwHoldings+p.cashKrw.getD 0

/-- `usd_value`. -/
def Portfolio.usdValue (p : Portfolio K) : K := holdingsValue p.usdHoldings

/-- `cash_usd`. -/
def Portfolio.usdCash (p : Portfolio K) : K := p.cashUsd.getD 0

/-- `get_portfolio_krw_value`; the holdings are converted first and the cash second. -/
def getPortfolioKrwValue (first second : Moment K) (p : Portfolio K)
    (slot : Slot (ExchangeRate K) ℤ) : Except (RateError K) K×Slot (ExchangeRate K) ℤ :=
  match addUsd first p.usdValue p.krw slot with
  | (.error e,slot) => (.error e,slot)
  | (.ok totalKrw,slot) => addUsd second p.usdCash totalKrw slot

end Functions

section Lookups

universe u

variable {K : Type u} [Field K] [LinearOrder K]

/-- The rate that a lookup finds: in the cache, else at KIS, else at FRED. -/
def rateFound (m : Moment K) (slot : Slot (ExchangeRate K) ℤ) : Option K :=
  match getCachedRate m (m.others slot),fetchFromKis m.kis,fetchFromFred m.fredKey m.fred with
  | some rateData,_,_ => some rateData.rate
  | none,.ok rate,_ => some rate
  | none,.error _,.ok rate => some rate
  | none,.error _,.error _ => none

/-- The key after a lookup. -/
def slotAfter (m : Moment K) (slot : Slot (ExchangeRate K) ℤ) : Slot (ExchangeRate K) ℤ :=
  (getCurrentRate "USD/KRW" m slot).2

/-- What a lookup does: it returns a rate, from the cache or fetched and cached, or it raises. -/
theorem getCurrentRate_cases (pair : String) (m : Moment K) (slot : Slot (ExchangeRate K) ℤ) :
    (∃ rateData,(getCurrentRate pair m slot).1=.ok rateData ∧
      rateFound m slot=some rateData.rate ∧
      ((getCachedRate m (m.others slot)=some rateData ∧
          (getCurrentRate pair m slot).2=m.others slot) ∨
        (getCurrentRate pair m slot).2=cacheRate m rateData (m.others slot))) ∨
    ∃ e,(getCurrentRate pair m slot).1=.error e ∧ rateFound m slot=none := by
  unfold getCurrentRate rateFound
  dsimp only
  cases getCachedRate m (m.others slot) with
  | some rateData => exact Or.inl ⟨rateData,rfl,rfl,Or.inl ⟨rfl,rfl⟩⟩
  | none =>
    cases fetchFromKis m.kis with
    | ok rate => exact Or.inl ⟨_,rfl,rfl,Or.inr rfl⟩
    | error e =>
      cases fetchFromFred m.fredKey m.fred with
      | ok rate => exact Or.inl ⟨_,rfl,rfl,Or.inr rfl⟩
      | error e' => exact Or.inr ⟨e',rfl,rfl⟩

/-- Only positive rates are found. -/
theorem rateFound_pos {m : Moment K} {slot : Slot (ExchangeRate K) ℤ} {r : K}
    (h : rateFound m slot=some r) : 0< r := by
  rcases getCurrentRate_cases "USD/KRW" m slot with ⟨rateData,_,hfound,_⟩ | ⟨_,_,hnone⟩
  · rw [hfound] at h
    cases h
    exact rateData.rate_pos
  · rw [hnone] at h
    cases h

/-- An amount is converted at the rate that is found. -/
theorem convertToKrw_ok {m : Moment K} {slot : Slot (ExchangeRate K) ℤ} {r : K}
    (h : rateFound m slot=some r) (usdAmount : K) :
    convertToKrw m usdAmount slot=(.ok (usdAmount*r),slotAfter m slot) := by
  unfold convertToKrw slotAfter
  have hcases := getCurrentRate_cases "USD/KRW" m slot
  revert hcases
  cases getCurrentRate "USD/KRW" m slot with
  | mk result after =>
    rintro (⟨rateData,rfl,hfound,_⟩ | ⟨_,_,hnone⟩)
    · rw [hfound] at h
      cases h
      rfl
    · rw [hnone] at h
      cases h

/-- Nothing is converted if no rate is found. -/
theorem convertToKrw_error {m : Moment K} {slot : Slot (ExchangeRate K) ℤ}
    (h : rateFound m slot=none) (usdAmount : K) :
    ∃ e after,convertToKrw m usdAmount slot=(.error e,after) := by
  unfold convertToKrw
  have hcases := getCurrentRate_cases "USD/KRW" m slot
  revert hcases
  cases getCurrentRate "USD/KRW" m slot with
  | mk result after =>
    rintro (⟨rateData,_,hfound,_⟩ | ⟨e,rfl,_⟩)
    · rw [hfound] at h
      cases h
    · exact ⟨e,after,rfl⟩

/-- A second lookup finds the rate of the first one, if that one could be cached, nobody else
used the key and its entry is still live. -/
theorem rateFound_again {first second : Moment K} {slot : Slot (ExchangeRate K) ℤ}
    (hfound : rateFound first slot≠none) (hwritable : first.writable=true)
    (hreadable : second.readable=true) (hothers : ∀ slot,second.others slot=slot)
    (hlive : ∀ entry,slotAfter first slot=some entry→second.readAt≤entry.expiresAt) :
    rateFound second (slotAfter first slot)=rateFound first slot := by
  have hcached : ∀ entry : Entry (ExchangeRate K) ℤ,slotAfter first slot=some entry→
      rateFound second (slotAfter first slot)=some entry.value.rate := by
    intro entry hentry
    unfold rateFound getCachedRate
    rw [hothers,if_pos hreadable,hentry,read_live (hlive entry hentry)]
    rfl
  rcases getCurrentRate_cases "USD/KRW" first slot with
    ⟨rateData,_,hrate,⟨hread,hafter⟩ | hafter⟩ | ⟨_,_,hnone⟩
  · unfold getCachedRate at hread
    split at hread
    · obtain ⟨value,hvalue,rfl⟩ := Option.map_eq_some_iff.mp hread
      obtain ⟨entry,hentry,_,rfl⟩ := read_eq_some hvalue
      rw [hcached entry (hafter.trans hentry),hrate]
    · cases hread
  · unfold cacheRate at hafter
    rw [if_pos hwritable] at hafter
    rw [hcached _ hafter,hrate]
  · exact absurd hnone hfound

end Lookups

section Values

universe u

variable {K : Type u} [Field K] [LinearOrder K]

/-- An amount is added at the rate that is found. -/
theorem addUsd_ok {m : Moment K} {usdAmount r : K} {slot : Slot (ExchangeRate K) ℤ}
    (h : 0< usdAmount→ rateFound m slot=some r) (totalKrw : K) :
    addUsd m usdAmount totalKrw slot=
      (.ok (totalKrw+if 0< usdAmount then usdAmount*r else 0),
        if 0< usdAmount then slotAfter m slot else slot) := by
  unfold addUsd
  by_cases hpos : 0< usdAmount
  · rw [if_pos hpos,if_pos hpos,if_pos hpos,convertToKrw_ok (h hpos)]
  · rw [if_neg hpos,if_neg hpos,if_neg hpos,add_zero]

/-- The amount cannot be added without a rate. -/
theorem addUsd_error {m : Moment K} {usdAmount : K} {slot : Slot (ExchangeRate K) ℤ}
    (hpos : 0< usdAmount) (h : rateFound m slot=none) (totalKrw : K) :
    ∃ e after,addUsd m usdAmount totalKrw slot=(.error e,after) := by
  obtain ⟨e,after,hconvert⟩ := convertToKrw_error h usdAmount
  unfold addUsd
  rw [if_pos hpos,hconvert]
  exact ⟨e,after,rfl⟩

/-- The key before the second lookup, without what others do to it. -/
def Portfolio.slotBetween (first : Moment K) (p : Portfolio K) (slot : Slot (ExchangeRate K) ℤ) :
    Slot (ExchangeRate K) ℤ :=
  if 0< p.usdValue then slotAfter first slot else slot

/-- A lookup that the value needs finds no rate. -/
def LookupFails (first second : Moment K) (p : Portfolio K) (slot : Slot (ExchangeRate K) ℤ) :
    Prop :=
  (0< p.usdValue ∧ rateFound first slot=none) ∨
    (0< p.usdCash ∧ rateFound second (p.slotBetween first slot)=none)

/-- The value is given by one positive rate, which all lookups that were made have found; or a
lookup failed and the call raises. -/
def ValuedAtOneRate (first second : Moment K) (p : Portfolio K)
    (slot : Slot (ExchangeRate K) ℤ) : Prop :=
  (∃ r,0< r ∧ (0< p.usdValue→ rateFound first slot=some r) ∧
      (0< p.usdCash→ rateFound second (p.slotBetween first slot)=some r) ∧
      (getPortfolioKrwValue first second p slot).1=.ok (p.krw+r*(p.usdValue+p.usdCash))) ∨
    (LookupFails first second p slot ∧ ∃ e,(getPortfolioKrwValue first second p slot).1=.error e)

/-- The value with the rates that are found. -/
theorem getPortfolioKrwValue_ok {first second : Moment K} {p : Portfolio K}
    {slot : Slot (ExchangeRate K) ℤ} {r r' : K} (h : 0< p.usdValue→ rateFound first slot=some r)
    (h' : 0< p.usdCash→ rateFound second (p.slotBetween first slot)=some r') :
    (getPortfolioKrwValue first second p slot).1=
      .ok (p.krw+(if 0< p.usdValue then p.usdValue*r else 0)+
        if 0< p.usdCash then p.usdCash*r' else 0) := by
  unfold getPortfolioKrwValue
  unfold Portfolio.slotBetween at h'
  rw [addUsd_ok h]
  dsimp only
  rw [addUsd_ok h']

/-- The call raises if a lookup fails. -/
theorem getPortfolioKrwValue_error {first second : Moment K} {p : Portfolio K}
    {slot : Slot (ExchangeRate K) ℤ} (h : LookupFails first second p slot) :
    ∃ e,(getPortfolioKrwValue first second p slot).1=.error e := by
  unfold getPortfolioKrwValue
  unfold LookupFails Portfolio.slotBetween at h
  by_cases hfirst : 0< p.usdValue ∧ rateFound first slot=none
  · obtain ⟨e,after,hadd⟩ := addUsd_error hfirst.1 hfirst.2 p.krw
    rw [hadd]
    exact ⟨e,rfl⟩
  · obtain ⟨hpos,hnone⟩ := h.resolve_left hfirst
    cases hfound : rateFound first slot with
    | none =>
      have hzero : ¬0< p.usdValue := fun hpos' => hfirst ⟨hpos',hfound⟩
      rw [addUsd_ok (r:=0) fun hpos' => absurd hpos' hzero]
      dsimp only
      obtain ⟨e,after,hadd⟩ := addUsd_error hpos hnone (p.krw+if 0< p.usdValue then _ else 0)
      rw [hadd]
      exact ⟨e,rfl⟩
    | some r =>
      rw [addUsd_ok fun _ => hfound]
      dsimp only
      obtain ⟨e,after,hadd⟩ := addUsd_error hpos hnone (p.krw+if 0< p.usdValue then _ else 0)
      rw [hadd]
      exact ⟨e,rfl⟩

variable [IsStrictOrderedRing K]

/-- Without a failed lookup there is a rate for each amount that needs one. -/
theorem exists_rate {m : Moment K} {slot : Slot (ExchangeRate K) ℤ} {usdAmount : K}
    (h : ¬(0< usdAmount ∧ rateFound m slot=none)) :
    ∃ r,0< r ∧ (0< usdAmount→ rateFound m slot=some r) := by
  cases hfound : rateFound m slot with
  | some r => exact ⟨r,rateFound_pos hfound,fun _ => rfl⟩
  | none => exact ⟨1,zero_lt_one,fun hpos => absurd ⟨hpos,hfound⟩ h⟩

omit [IsStrictOrderedRing K] in
/-- What is added for an amount at a rate: nothing for an amount that is negative. -/
theorem added_eq {usdAmount r s : K} (h : 0< usdAmount→ r=s) :
    (if 0< usdAmount then usdAmount*r else 0)=max usdAmount 0*s := by
  by_cases hpos : 0< usdAmount
  · rw [if_pos hpos,h hpos,max_eq_left hpos.le]
  · rw [if_neg hpos,max_eq_right (not_lt.mp hpos),zero_mul]

/-- Nothing is left out of two amounts exactly if neither is negative. -/
theorem max_add_max_eq_iff {x y : K} : max x 0+max y 0=x+y ↔ 0≤x ∧ 0≤y := by
  constructor
  · intro h
    have hx := le_max_left x 0
    have hy := le_max_left y 0
    have hx0 := le_max_right x 0
    have hy0 := le_max_right y 0
    exact ⟨by linarith,by linarith⟩
  · rintro ⟨hx,hy⟩
    rw [max_eq_left hx,max_eq_left hy]

/-- The value is the one at a rate that both lookups have found exactly if neither amount is
negative. -/
theorem value_at_iff {krw usdValue usdCash r r' s : K} (hs : 0< s) (hr : 0< usdValue→ r=s)
    (hr' : 0< usdCash→ r'=s) :
    krw+(if 0< usdValue then usdValue*r else 0)+(if 0< usdCash then usdCash*r' else 0)=
        krw+s*(usdValue+usdCash) ↔
      0≤usdValue ∧ 0≤usdCash := by
  rw [added_eq hr,added_eq hr',←max_add_max_eq_iff]
  constructor
  · intro h
    have hproduct : s*(max usdValue 0+max usdCash 0)=s*(usdValue+usdCash) := by
      linear_combination h
    exact mul_left_cancel₀ hs.ne' hproduct
  · intro h
    rw [←h]
    ring

/-- A call values the portfolio at one rate, or raises because a lookup failed, exactly if a
lookup fails, or neither amount in USD is negative and, where both are converted, the second
lookup finds the rate of the first one. -/
theorem valuedAtOneRate_iff (first second : Moment K) (p : Portfolio K)
    (slot : Slot (ExchangeRate K) ℤ) :
    ValuedAtOneRate first second p slot ↔
      LookupFails first second p slot ∨
        (0≤p.usdValue ∧ 0≤p.usdCash ∧ (0< p.usdValue→0< p.usdCash→
          rateFound second (p.slotBetween first slot)=rateFound first slot)) := by
  by_cases hfails : LookupFails first second p slot
  · exact ⟨fun _ => Or.inl hfails,fun _ => Or.inr ⟨hfails,getPortfolioKrwValue_error hfails⟩⟩
  obtain ⟨r,hr,hfound⟩ := exists_rate fun h => hfails (Or.inl h)
  obtain ⟨r',hr',hfound'⟩ := exists_rate fun h => hfails (Or.inr h)
  have hvalue := getPortfolioKrwValue_ok hfound hfound'
  unfold ValuedAtOneRate
  rw [hvalue,or_iff_left fun h => hfails h.1,or_iff_right hfails]
  constructor
  · rintro ⟨s,hs,hsame,hsame',hsum⟩
    have hrs : 0< p.usdValue→ r=s :=
      fun h => Option.some.inj ((hfound h).symm.trans (hsame h))
    have hrs' : 0< p.usdCash→ r'=s :=
      fun h => Option.some.inj ((hfound' h).symm.trans (hsame' h))
    obtain ⟨husd,hcash⟩ := (value_at_iff hs hrs hrs').mp (Except.ok.inj hsum)
    exact ⟨husd,hcash,fun h h' => (hsame' h').trans (hsame h).symm⟩
  · rintro ⟨husd,hcash,hsame⟩
    by_cases hpos : 0< p.usdValue
    · -- the first lookup gives the rate
      have hsecond : 0< p.usdCash→ rateFound second (p.slotBetween first slot)=some r :=
        fun h => (hsame hpos h).trans (hfound hpos)
      have hrr : 0< p.usdCash→ r'=r :=
        fun h => Option.some.inj ((hfound' h).symm.trans (hsecond h))
      exact ⟨r,hr,hfound,hsecond,
        congrArg Except.ok ((value_at_iff hr (fun _ => rfl) hrr).mpr ⟨husd,hcash⟩)⟩
    · have hfirst : 0< p.usdValue→ r=r' := fun h => absurd h hpos
      exact ⟨r',hr',fun h => absurd h hpos,hfound',
        congrArg Except.ok ((value_at_iff hr' hfirst fun _ => rfl).mpr ⟨husd,hcash⟩)⟩

end Values

section Examples

/-- A lookup that finds a rate at KIS only, without other clients. -/
def atKis (rate : ℚ) : Moment ℚ :=
  ⟨id,0,true,.ok ⟨[.number rate],none,.missing,.missing⟩,"",.ok [],0,true⟩

/-- A portfolio with holdings in USD and a debt in USD. -/
def withDebt : Portfolio ℚ := ⟨some [some 500000],some [some 5000],some 0,some (-1000)⟩

/-- The debt is left out of the value. -/
theorem getPortfolioKrwValue_debt :
    (getPortfolioKrwValue (atKis 1300) (atKis 1300) withDebt none).1=.ok 7000000 ∧
      ¬ValuedAtOneRate (atKis 1300) (atKis 1300) withDebt none := by
  have hvalue : (getPortfolioKrwValue (atKis 1300) (atKis 1300) withDebt none).1=.ok 7000000 := by
    decide +kernel
  have hrate : rateFound (atKis 1300) none=some 1300 := by decide +kernel
  have hamounts : withDebt.krw=500000 ∧ withDebt.usdValue=5000 ∧ withDebt.usdCash=-1000 := by
    decide +kernel
  refine ⟨hvalue,?_⟩
  rintro (⟨r,_,hfound,_,hsum⟩ | ⟨_,e,herror⟩)
  · rw [hamounts.2.1] at hfound
    have hr : (1300 : ℚ)=r := Option.some.inj (hrate.symm.trans (hfound (by norm_num)))
    rw [hvalue,hamounts.1,hamounts.2.1,hamounts.2.2,←hr] at hsum
    exact absurd (Except.ok.inj hsum) (by norm_num)
  · rw [hvalue] at herror
    cases herror

/-- The condition for that portfolio. -/
theorem valuedAtOneRate_iff_debt :
    ValuedAtOneRate (atKis 1300) (atKis 1300) withDebt none ↔
      LookupFails (atKis 1300) (atKis 1300) withDebt none ∨
        (0≤withDebt.usdValue ∧ 0≤withDebt.usdCash ∧
          (0< withDebt.usdValue→0< withDebt.usdCash→
            rateFound (atKis 1300) (withDebt.slotBetween (atKis 1300) none)=
              rateFound (atKis 1300) none)) :=
  valuedAtOneRate_iff _ _ _ _

end Examples

end Aqts.ExchangeRates
