import Aqts.SettlementReports

/-!
# Which record settles which order

`_match_ccld_record` scans the broker's records once and takes the first that
has the number of the order or its ticker. Whether every order is settled
from its own record therefore depends on the order of the records and on the
orders that share a ticker. The module says exactly when it is.
-/

namespace Aqts.SettlementWriters

open OrderTypes OrdersTable SettlementPoller

/-- The record a settlement of the order is made from, in a reconciliation or
in a poll. -/
def decidingRecord (records : MarketRecords) (order : OrderRow) : Option CcldRecord :=
  matchCcldRecord (records.of order.market) order.orderId order.ticker

/-- A record with a fill, read for a market. -/
def recordFill (r : CcldRecord) (market : String) : Option Fill :=
  (parseCcldStatus r market).filter fun fill => fill.status≠.submitted

/-- What the records say about an order is what its deciding record says. -/
theorem recordsFill_deciding (records : MarketRecords) (order : OrderRow) :
    recordsFill (records.of order.market) order=
      (decidingRecord records order).bind fun r => recordFill r order.market := by
  unfold recordsFill decidingRecord recordFill
  cases matchCcldRecord (records.of order.market) order.orderId order.ticker with
  | none => rfl
  | some r =>
    cases hp : parseCcldStatus r order.market with
    | none => simp [hp]
    | some fill =>
      by_cases hs : fill.status=.submitted
      · simp [hp,hs,Option.filter]
      · simp [hp,hs,Option.filter]

/-- A reconciliation settles an order from its deciding record. -/
theorem reconcile_from_deciding {t : Table} {row : OrderRow} {now : ℚ} {records : MarketRecords}
    (h : t.find row.orderId=some row) (hsub : row.status="SUBMITTED")
    (hday : dateOf row.createdAt=dateOf now) :
    (reconcileAllSubmitted now records t).1.find row.orderId=
      some (settleOption now
        ((decidingRecord records row).bind fun r => recordFill r row.market) row) := by
  rw [reconcile_find now records h,if_pos ⟨hsub,hday⟩,recordsFill_deciding]

/-- Domestic orders and foreign orders are matched against separate answers. -/
def SameAnswer (a b : OrderRow) : Prop := a.market="KRX" ↔ b.market="KRX"

/-- Every order whose number is in the records is settled from the record with
that number, and no record settles two orders. -/
def ExactMatching (records : MarketRecords) (orders : List OrderRow) : Prop :=
  (∀ o∈orders,∀ r∈records.of o.market,r.odno=o.orderId→decidingRecord records o=some r) ∧
    ∀ o∈orders,∀ o'∈orders,SameAnswer o o'→
      ∀ r,decidingRecord records o=some r→decidingRecord records o'=some r→ o=o'

/-- No record before the order's own one has its ticker; an order with an
empty number is recognised by the ticker of its own record. -/
def OwnRecordFirst (records : List CcldRecord) (o : OrderRow) : Prop :=
  ∀ before r after,records=before++r::after→ r.odno=o.orderId→
    (∀ x∈before,x.pdno≠o.ticker) ∧ (o.orderId=""→ r.pdno=o.ticker)

/-- The record that an order without an own one falls back to, the first of
its ticker, is nobody's own record, and no other order without an own record
has the same ticker. -/
def FallbackUnshared (records : MarketRecords) (orders : List OrderRow) (o : OrderRow) : Prop :=
  ∀ before r after,records.of o.market=before++r::after→
    (∀ x∈records.of o.market,x.odno≠o.orderId)→ r.pdno=o.ticker→
    (∀ x∈before,x.pdno≠o.ticker)→∀ o'∈orders,o'≠o→SameAnswer o' o→
      r.odno≠o'.orderId ∧
        (o'.ticker=o.ticker→∃ x∈records.of o.market,x.odno=o'.orderId)

/-- Orders of one answer use the same records. -/
theorem records_of_same (records : MarketRecords) {o o' : OrderRow}
    (h : SameAnswer o o') : records.of o.market=records.of o'.market := by
  unfold MarketRecords.of
  by_cases ho : o.market="KRX"
  · rw [if_pos ho,if_pos (h.mp ho)]
  · rw [if_neg ho,if_neg (fun hc => ho (h.mpr hc))]

/-- A record passes one of the two tests. -/
theorem matchesOrder_iff {orderId ticker : String} {r : CcldRecord} :
    matchesOrder orderId ticker r=true ↔
      (orderId≠"" ∧ r.odno=orderId) ∨ r.pdno=ticker := by
  unfold matchesOrder
  simp only [ne_eq,decide_not,Bool.or_eq_true,Bool.and_eq_true,Bool.not_eq_eq_eq_not,Bool.not_true,
    decide_eq_false_iff_not,decide_eq_true_eq]
  constructor
  · rintro (⟨⟨ho,_⟩,he⟩ | hp)
    · exact .inl ⟨ho,he.symm⟩
    · exact .inr hp
  · rintro (⟨ho,he⟩ | hp)
    · exact .inl ⟨⟨ho,he ▸ ho⟩,he.symm⟩
    · exact .inr hp

/-- The matched record is the first that passes a test. -/
theorem matchCcldRecord_eq_some {records : List CcldRecord} {orderId ticker : String}
    {r : CcldRecord} :
    matchCcldRecord records orderId ticker=some r ↔
      matchesOrder orderId ticker r=true ∧ ∃ before after,records=before++r::after ∧
        ∀ x∈before,¬matchesOrder orderId ticker x=true := by
  unfold matchCcldRecord
  rw [List.find?_eq_some_iff_append]
  simp

/-- The own record of an order is matched when it comes first. -/
theorem matchCcldRecord_own {records : List CcldRecord} {o : OrderRow} {r : CcldRecord}
    (hodno : (records.map CcldRecord.odno).Nodup) (hfirst : OwnRecordFirst records o)
    (hr : r∈records) (hown : r.odno=o.orderId) :
    matchCcldRecord records o.orderId o.ticker=some r := by
  obtain ⟨before,after,hsplit⟩ := List.append_of_mem hr
  obtain ⟨hbefore,hempty⟩ := hfirst before r after hsplit hown
  refine matchCcldRecord_eq_some.mpr ⟨?_,before,after,hsplit,?_⟩
  · rw [matchesOrder_iff]
    by_cases he : o.orderId=""
    · exact .inr (hempty he)
    · exact .inl ⟨he,hown⟩
  · intro x hx hmatch
    obtain ⟨_,hnum⟩ | htick := matchesOrder_iff.mp hmatch
    · rw [hsplit,List.map_append,List.map_cons,List.nodup_append] at hodno
      exact hodno.2.2 _ (List.mem_map_of_mem hx) _ List.mem_cons_self (hnum.trans hown.symm)
    · exact hbefore x hx htick

/-- When the own record is matched, it comes first. -/
theorem ownRecordFirst_of_match {records : List CcldRecord} {o : OrderRow}
    (hodno : (records.map CcldRecord.odno).Nodup)
    (h : ∀ r∈records,r.odno=o.orderId→matchCcldRecord records o.orderId o.ticker=some r) :
    OwnRecordFirst records o := by
  intro before r after hsplit hown
  have hr : r∈records := by
    rw [hsplit]
    exact List.mem_append_right _ List.mem_cons_self
  have hmatch := h r hr hown
  constructor
  · intro x hx htick
    have hx' : matchesOrder o.orderId o.ticker x=true := matchesOrder_iff.mpr (.inr htick)
    have hsome : (before.find? (matchesOrder o.orderId o.ticker)).isSome=true :=
      List.find?_isSome.mpr ⟨x,hx,hx'⟩
    obtain ⟨y,hy⟩ := Option.isSome_iff_exists.mp hsome
    unfold matchCcldRecord at hmatch
    rw [hsplit,List.find?_append,hy,Option.some_or] at hmatch
    cases hmatch
    rw [hsplit,List.map_append,List.map_cons,List.nodup_append] at hodno
    exact hodno.2.2 _ (List.mem_map_of_mem (List.mem_of_find?_eq_some hy)) _ List.mem_cons_self rfl
  · intro hempty
    obtain ⟨hne,_⟩ | htick := matchesOrder_iff.mp (matchCcldRecord_eq_some.mp hmatch).1
    · exact absurd hempty hne
    · exact htick

/-- An order without an own record is matched with the first record of its
ticker. -/
theorem matchCcldRecord_fallback {records : List CcldRecord} {o : OrderRow} {r : CcldRecord}
    (hnone : ∀ x∈records,x.odno≠o.orderId) :
    matchCcldRecord records o.orderId o.ticker=some r ↔
      ∃ before after,records=before++r::after ∧ r.pdno=o.ticker ∧
        ∀ x∈before,x.pdno≠o.ticker := by
  have htest : ∀ x∈records,matchesOrder o.orderId o.ticker x=true ↔ x.pdno=o.ticker := by
    intro x hx
    rw [matchesOrder_iff]
    simp [hnone x hx]
  rw [matchCcldRecord_eq_some]
  constructor
  · rintro ⟨hm,before,after,hsplit,hbefore⟩
    have hr : r∈records := by
      rw [hsplit]
      exact List.mem_append_right _ List.mem_cons_self
    refine ⟨before,after,hsplit,(htest r hr).mp hm,?_⟩
    intro x hx htick
    refine hbefore x hx ((htest x ?_).mpr htick)
    rw [hsplit]
    exact List.mem_append_left _ hx
  · rintro ⟨before,after,hsplit,htick,hbefore⟩
    have hr : r∈records := by
      rw [hsplit]
      exact List.mem_append_right _ List.mem_cons_self
    refine ⟨(htest r hr).mpr htick,before,after,hsplit,?_⟩
    intro x hx hm
    refine hbefore x hx ((htest x ?_).mp hm)
    rw [hsplit]
    exact List.mem_append_left _ hx

/-- The numbers of the records for any market are distinct. -/
theorem records_of_nodup {records : MarketRecords}
    (hkrx : (records.krx.map CcldRecord.odno).Nodup)
    (hus : (records.us.map CcldRecord.odno).Nodup) (market : String) :
    ((records.of market).map CcldRecord.odno).Nodup := by
  unfold MarketRecords.of
  split
  · exact hkrx
  · exact hus

/-- Under the input condition, two orders settled from one record are the same. -/
theorem decidingRecord_unique {records : MarketRecords} {orders : List OrderRow}
    (hids : (orders.map OrderRow.orderId).Nodup)
    (hown : ∀ o∈orders,∀ r∈records.of o.market,r.odno=o.orderId→
      decidingRecord records o=some r)
    (hfall : ∀ o∈orders,FallbackUnshared records orders o) {o o' : OrderRow} (ho : o∈orders)
    (ho' : o'∈orders) (hsame : SameAnswer o o') {r : CcldRecord}
    (hr : decidingRecord records o=some r) (hr' : decidingRecord records o'=some r) : o=o' := by
  by_contra hne
  have hfallback : ∀ {a b : OrderRow},a∈orders→b∈orders→a≠b→SameAnswer a b→
      decidingRecord records a=some r→decidingRecord records b=some r→
      ¬∀ x∈records.of b.market,x.odno≠b.orderId := by
    intro a b ha hb hab hs hra hrb hnone
    obtain ⟨before,after,hsplit,htick,hbefore⟩ := (matchCcldRecord_fallback hnone).mp hrb
    obtain ⟨hnum,hshare⟩ := hfall b hb before r after hsplit hnone htick hbefore a ha hab hs
    by_cases hex : ∃ x∈records.of b.market,x.odno=a.orderId
    · obtain ⟨x,hx,hxa⟩ := hex
      have hxr := hown a ha x (by rwa [records_of_same records hs]) hxa
      rw [hra] at hxr
      cases hxr
      exact hnum hxa
    · have hnonea : ∀ x∈records.of a.market,x.odno≠a.orderId := by
        intro x hx hxa
        exact hex ⟨x,by rwa [← records_of_same records hs],hxa⟩
      obtain ⟨_,_,_,hticka,_⟩ := (matchCcldRecord_fallback hnonea).mp hra
      exact hex (hshare (hticka.symm.trans htick))
  have hsame' : SameAnswer o' o := hsame.symm
  by_cases hex : ∀ x∈records.of o.market,x.odno≠o.orderId
  · exact hfallback ho' ho (Ne.symm hne) hsame' hr' hr hex
  · by_cases hex' : ∀ x∈records.of o'.market,x.odno≠o'.orderId
    · exact hfallback ho ho' hne hsame hr hr' hex'
    · simp only [not_forall,not_not] at hex hex'
      obtain ⟨x,hx,hxo⟩ := hex
      obtain ⟨y,hy,hyo⟩ := hex'
      have hxr := hown o ho x hx hxo
      have hyr := hown o' ho' y hy hyo
      rw [hr] at hxr
      rw [hr'] at hyr
      cases hxr
      cases hyr
      exact hne (List.inj_on_of_nodup_map hids ho ho' (hxo.symm.trans hyo))

/-- For all records with distinct numbers and all orders with distinct
numbers: every order is settled from its own record and no record settles two
orders exactly when own records come before others of their ticker and no
fallback is shared. -/
theorem exactMatching_iff (records : MarketRecords) (orders : List OrderRow)
    (hkrx : (records.krx.map CcldRecord.odno).Nodup)
    (hus : (records.us.map CcldRecord.odno).Nodup)
    (hids : (orders.map OrderRow.orderId).Nodup) :
    ExactMatching records orders ↔
      ∀ o∈orders,OwnRecordFirst (records.of o.market) o ∧ FallbackUnshared records orders o := by
  constructor
  · rintro ⟨hown,hunique⟩ o ho
    refine ⟨ownRecordFirst_of_match (records_of_nodup hkrx hus _) (hown o ho),?_⟩
    intro before r after hsplit hnone htick hbefore o' ho' hne hsame
    have hr : decidingRecord records o=some r :=
      (matchCcldRecord_fallback hnone).mpr ⟨before,after,hsplit,htick,hbefore⟩
    have hof := records_of_same records hsame
    constructor
    · intro hnum
      have hmem : r∈records.of o'.market := by
        rw [hof,hsplit]
        exact List.mem_append_right _ List.mem_cons_self
      exact hne (hunique o' ho' o ho hsame r (hown o' ho' r hmem hnum) hr)
    · intro hticker
      by_contra hex
      have hnone' : ∀ x∈records.of o'.market,x.odno≠o'.orderId := by
        intro x hx hnum
        exact hex ⟨x,by rwa [← hof],hnum⟩
      have hr' : decidingRecord records o'=some r := by
        refine (matchCcldRecord_fallback hnone').mpr ⟨before,after,?_,?_,?_⟩
        · rw [hof]
          exact hsplit
        · rw [hticker]
          exact htick
        · rw [hticker]
          exact hbefore
      exact hne (hunique o' ho' o ho hsame r hr' hr)
  · intro hcond
    have hown : ∀ o∈orders,∀ r∈records.of o.market,r.odno=o.orderId→
        decidingRecord records o=some r := fun o ho r hr hnum =>
      matchCcldRecord_own (records_of_nodup hkrx hus _) (hcond o ho).1 hr hnum
    refine ⟨hown,?_⟩
    intro o ho o' ho' hsame r hr hr'
    exact decidingRecord_unique hids hown (fun o ho => (hcond o ho).2) ho ho' hsame hr hr'

/-- A domestic record of a complete fill. -/
def sampleRecord (odno pdno : String) : CcldRecord :=
  ⟨odno,pdno,.number 10,.number 10,.number 71000,.blank,.blank,.blank⟩

/-- Orders of two tickers, listed against the order of their records. -/
def twoTickers : List OrderRow :=
  [{sampleRow with orderId := "A"},{sampleRow with orderId := "B",ticker := "000660"}]

/-- The records of the two orders. -/
def twoTickerRecords : MarketRecords :=
  ⟨[sampleRecord "B" "000660",sampleRecord "A" "005930"],[]⟩

/-- Orders of two tickers are settled from their own records, so the input
condition holds for them. -/
theorem exactMatching_two_tickers :
    ExactMatching twoTickerRecords twoTickers ∧
      ∀ o∈twoTickers,OwnRecordFirst (twoTickerRecords.of o.market) o ∧
        FallbackUnshared twoTickerRecords twoTickers o := by
  have hexact : ExactMatching twoTickerRecords twoTickers := by
    have hinj : ∀ o∈twoTickers,∀ o'∈twoTickers,
        decidingRecord twoTickerRecords o=decidingRecord twoTickerRecords o'→ o=o' := by decide
    constructor
    · decide
    · intro o ho o' ho' _ r hr hr'
      exact hinj o ho o' ho' (hr.trans hr'.symm)
  exact ⟨hexact,(exactMatching_iff _ _ (by decide) (by decide) (by decide)).mp hexact⟩

/-- Two orders of one ticker: the second is settled from the record of the
first. -/
theorem shared_ticker_mismatch :
    ¬∀ (records : MarketRecords) (orders : List OrderRow),
      (records.krx.map CcldRecord.odno).Nodup→(records.us.map CcldRecord.odno).Nodup→
      (orders.map OrderRow.orderId).Nodup→ExactMatching records orders := by
  intro hall
  have h := (hall ⟨[sampleRecord "A" "005930",sampleRecord "B" "005930"],[]⟩
    [{sampleRow with orderId := "A"},{sampleRow with orderId := "B"}] (by decide) (by decide)
    (by decide)).1 {sampleRow with orderId := "B"} (by decide) (sampleRecord "B" "005930")
    (by decide) rfl
  revert h
  decide

end Aqts.SettlementWriters
