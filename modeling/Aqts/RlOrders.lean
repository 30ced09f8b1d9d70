import Aqts.Binary64
import Aqts.Dictionary
import Aqts.PortfolioLedger
import Mathlib.Algebra.Order.Floor.Ring
import Mathlib.Algebra.Order.Field.Basic
import Mathlib.Data.Rat.Floor

/-!
# Orders out of signals

`RLInferenceService.signals_to_orders`: each ticker is sized from the whole
portfolio value, the quantity is truncated towards zero and small changes are
left out, all in floats. The orders keep holdings non-negative and the held
targets within the portfolio value exactly if no short target passes the filter
and the parts of the held tickers have a sum of at most the portfolio value.
-/

namespace Aqts.RlOrders

open Dictionary OrderTypes PortfolioLedger Binary64

/-- `RLSignal`, without the summary of the observation. -/
structure RLSignal where
  /-- `position`, from -1 to 1. -/
  position : ℚ
  deriving DecidableEq

/-- `OrderIntent`. -/
structure OrderIntent where
  /-- `ticker`. -/
  ticker : String
  /-- `side`. -/
  side : OrderSide
  /-- `quantity`. -/
  quantity : ℤ
  /-- `reason`. -/
  reason : String
  /-- `rl_position`. -/
  rlPosition : ℚ
  /-- `current_position_qty`. -/
  currentPositionQty : ℤ
  /-- `target_position_qty`. -/
  targetPositionQty : ℤ
  deriving DecidableEq

/-- `RLInferenceService`, with what the conversion reads. -/
structure RLInferenceService where
  /-- `min_position_change`. -/
  minPositionChange : ℚ
  /-- The text of a number with three decimals. -/
  fixed3 : ℚ→String

/-- What the conversion is called with. -/
structure Batch where
  /-- `signals`. -/
  signals : Dict String (RLSignal)
  /-- `current_positions`. -/
  currentPositions : Dict String ℤ
  /-- `portfolio_value`. -/
  portfolioValue : ℚ
  /-- The portfolio is worth something: the change ratios divide by its value. -/
  positive : 0<portfolioValue
  /-- `ohlcv_dict`, the `close` column of each ticker. -/
  ohlcvDict : Option (Dict String (List ℚ))

/-- `int`: truncation towards zero. -/
def truncate (x : ℚ) : ℤ := if 0≤x then ⌊x⌋ else ⌈x⌉

/-- `current_positions.get(ticker, 0)`. -/
def Batch.currentQty (b : Batch) (ticker : String) : ℤ :=
  (b.currentPositions.get? ticker).getD 0

/-- `current_price`: the last close, zero without a column; `none` is the exception of
a column without rows. -/
def Batch.currentPrice (b : Batch) (ticker : String) : Option ℚ :=
  match b.ohlcvDict with
  | none => some 0
  | some columns =>
    match columns.get? ticker with
    | none => some 0
    | some close => close.getLast?

/-- `target_value`, in floats. -/
def targetValue (portfolioValue : ℚ) (signal : RLSignal) : ℚ := fl (signal.position*portfolioValue)

/-- `target_qty`. -/
def targetQty (portfolioValue price : ℚ) (signal : RLSignal) : ℤ :=
  truncate (fl (targetValue portfolioValue signal/price))

/-- `value_change`, in floats. -/
def valueChange (price : ℚ) (qtyDiff : ℤ) : ℚ := |fl (fl qtyDiff*price)|

/-- `change_ratio`. -/
def changeRatio (portfolioValue price : ℚ) (qtyDiff : ℤ) : ℚ :=
  fl (valueChange price qtyDiff/portfolioValue)

/-- The order of a ticker, if there is one. -/
def RLInferenceService.order (service : RLInferenceService) (portfolioValue : ℚ)
    (ticker : String) (signal : RLSignal) (currentQty : ℤ) (price : ℚ) :
    Option OrderIntent :=
  if price≤0 then none
  else
    let target := targetQty portfolioValue price signal
    let qtyDiff := target-currentQty
    if changeRatio portfolioValue price qtyDiff< service.minPositionChange then none
    else if 0<qtyDiff then
      some ⟨ticker,.buy,qtyDiff,"rl_position="++service.fixed3 signal.position,signal.position,
        currentQty,target⟩
    else if qtyDiff<0 then
      some ⟨ticker,.sell,|qtyDiff|,"rl_position="++service.fixed3 signal.position,signal.position,
        currentQty,target⟩
    else none

/-- The loop of `signals_to_orders` over the signals that are left. -/
def RLInferenceService.ordersOf (service : RLInferenceService) (b : Batch) :
    List (String×RLSignal)→Option (List OrderIntent)
  | [] => some []
  | (ticker,signal)::rest =>
    match b.currentPrice ticker with
    | none => none
    | some price =>
      (service.ordersOf b rest).map fun orders =>
        (service.order b.portfolioValue ticker signal (b.currentQty ticker) price).toList++orders

/-- `signals_to_orders`; `none` is the exception of a column without rows. -/
def RLInferenceService.signalsToOrders (service : RLInferenceService) (b : Batch) :
    Option (List OrderIntent) :=
  service.ordersOf b b.signals.items

/-- Quantity of an order with the sign of its side. -/
def OrderIntent.delta (o : OrderIntent) : ℤ :=
  match o.side with
  | .buy => o.quantity
  | .sell => -o.quantity

/-- Holdings after an order was executed in full. -/
def OrderIntent.execute (holdings : String→ℤ) (o : OrderIntent) : String→ℤ :=
  Function.update holdings o.ticker (holdings o.ticker+o.delta)

/-- Holdings after orders were executed in full, one after the other. -/
def executeAll (holdings : String→ℤ) (orders : List OrderIntent) : String→ℤ :=
  orders.foldl OrderIntent.execute holdings

/-- Orders of other tickers leave a holding as it is. -/
theorem executeAll_other (holdings : String→ℤ) {orders : List OrderIntent} {ticker : String}
    (h : ticker∉orders.map OrderIntent.ticker) :
    executeAll holdings orders ticker=holdings ticker := by
  unfold executeAll
  induction orders generalizing holdings with
  | nil => rfl
  | cons o rest ih =>
    rw [List.map_cons,List.mem_cons,not_or] at h
    rw [List.foldl_cons,ih _ h.2]
    exact Function.update_of_ne h.1 _ _

/-- Of orders for different tickers each one moves its own holding. -/
theorem executeAll_of_mem (holdings : String→ℤ) {orders : List OrderIntent}
    (hnodup : (orders.map OrderIntent.ticker).Nodup) {o : OrderIntent} (ho : o∈orders) :
    executeAll holdings orders o.ticker=holdings o.ticker+o.delta := by
  induction orders generalizing holdings with
  | nil => cases ho
  | cons first rest ih =>
    rw [List.map_cons,List.nodup_cons] at hnodup
    have hstep : executeAll holdings (first::rest)=executeAll (first.execute holdings) rest := rfl
    rw [hstep]
    rcases List.mem_cons.mp ho with rfl | hrest
    · rw [executeAll_other _ hnodup.1]
      exact Function.update_self _ _ _
    · rw [ih _ hnodup.2 hrest]
      have hne : o.ticker≠first.ticker := by
        intro heq
        apply hnodup.1
        rw [← heq]
        exact List.mem_map_of_mem hrest
      unfold OrderIntent.execute
      rw [Function.update_of_ne hne]

/-- A ledger records a fill of an order that leaves its ticker non-negative, and no other. -/
theorem recordFill_order (ledger : Ledger) {holdings : String→ℤ}
    (hledger : ∀ ticker,ledger.position ticker=holdings ticker) {o : OrderIntent}
    (hblank : isBlank o.ticker=false) (hquantity : 0<o.quantity) :
    (0 ≤ holdings o.ticker+o.delta → ∃ ledger',
        ledger.recordFill none o.ticker o.side o.quantity=.ok ledger' ∧
          ∀ ticker,ledger'.position ticker=o.execute holdings ticker) ∧
      (holdings o.ticker+o.delta<0 → ∀ ledger',
        ledger.recordFill none o.ticker o.side o.quantity≠.ok ledger') := by
  have hsigned : signed o.side (o.quantity : ℚ)=(o.delta : ℚ) := by
    unfold OrderIntent.delta
    cases o.side with
    | buy => rfl
    | sell => exact (Int.cast_neg _).symm
  have hcast : ledger.position o.ticker+signed o.side (o.quantity : ℚ)=
      ((holdings o.ticker+o.delta : ℤ) : ℚ) := by
    rw [hledger,hsigned,Int.cast_add]
  have hrecorded := ledger.recordFill_ok_iff none o.ticker o.side (o.quantity : ℚ)
  rw [hcast] at hrecorded
  constructor
  · intro h
    obtain ⟨ledger',hok⟩ := hrecorded.mpr
      ⟨hblank,Int.cast_pos.mpr hquantity,rfl,Int.cast_nonneg_iff.mpr h⟩
    refine ⟨ledger',hok,fun ticker => ?_⟩
    rw [Ledger.recordFill_position hok,hledger,hsigned]
    unfold OrderIntent.execute
    by_cases heq : o.ticker=ticker
    · rw [if_pos heq,← heq,Function.update_self,Int.cast_add]
    · rw [if_neg heq,Function.update_of_ne (Ne.symm heq),add_zero]
  · intro h ledger' hok
    have hnonneg := (hrecorded.mp ⟨ledger',hok⟩).2.2.2
    exact absurd (Int.cast_nonneg_iff.mp hnonneg) (not_le.mpr h)

/-- `record_fill` of every order. -/
def recordAll (ledger : Ledger) (orders : List OrderIntent) : Except LedgerError Ledger :=
  orders.foldlM (fun ledger o => ledger.recordFill none o.ticker o.side o.quantity) ledger

/-- A ledger with these holdings records orders for different tickers exactly if their
execution leaves no holding negative. -/
theorem recordAll_iff (ledger : Ledger) {holdings : String→ℤ}
    (hledger : ∀ ticker,ledger.position ticker=holdings ticker)
    (hholdings : ∀ ticker,0≤holdings ticker) {orders : List OrderIntent}
    (hnodup : (orders.map OrderIntent.ticker).Nodup)
    (hblank : ∀ o∈orders,isBlank o.ticker=false) (hquantity : ∀ o∈orders,0<o.quantity) :
    (∃ ledger',recordAll ledger orders=.ok ledger') ↔
      ∀ ticker,0≤executeAll holdings orders ticker := by
  unfold recordAll
  induction orders generalizing ledger holdings with
  | nil => exact iff_of_true ⟨ledger,rfl⟩ hholdings
  | cons o rest ih =>
    rw [List.map_cons,List.nodup_cons] at hnodup
    obtain ⟨hrecords,hrefuses⟩ := recordFill_order ledger hledger
      (hblank o List.mem_cons_self) (hquantity o List.mem_cons_self)
    have hafter : executeAll holdings (o::rest) o.ticker=holdings o.ticker+o.delta := by
      have hstep : executeAll holdings (o::rest)=executeAll (o.execute holdings) rest := rfl
      rw [hstep,executeAll_other _ hnodup.1]
      exact Function.update_self _ _ _
    rw [List.foldlM_cons]
    rcases lt_or_ge (holdings o.ticker+o.delta) 0 with hneg | hnonneg
    · refine iff_of_false ?_ fun h => ?_
      · rintro ⟨ledger',hall⟩
        cases hfill : ledger.recordFill none o.ticker o.side o.quantity with
        | error e =>
          rw [hfill] at hall
          cases hall
        | ok next => exact hrefuses hneg next hfill
      · exact absurd (h o.ticker) (not_le.mpr (hafter ▸ hneg))
    · obtain ⟨next,hfill,hnext⟩ := hrecords hnonneg
      rw [hfill]
      refine ih next hnext (fun ticker => ?_) hnodup.2
        (fun o' ho' => hblank o' (List.mem_cons_of_mem _ ho'))
        (fun o' ho' => hquantity o' (List.mem_cons_of_mem _ ho'))
      unfold OrderIntent.execute
      by_cases heq : ticker=o.ticker
      · rw [heq,Function.update_self]
        exact hnonneg
      · rw [Function.update_of_ne heq]
        exact hholdings ticker

/-- Last close of a ticker, zero without one. -/
def Batch.price (b : Batch) (ticker : String) : ℚ := (b.currentPrice ticker).getD 0

/-- Shares that a part of a value buys at a price, in floats. -/
def shares (position portfolioValue price : ℚ) : ℚ := fl (fl (position*portfolioValue)/price)

/-- The change of a ticker passes the filter: whole shares from the holding on, as a part of the
portfolio value. -/
def RLInferenceService.Passes (service : RLInferenceService) (b : Batch)
    (item : String×RLSignal) : Prop :=
  let qtyDiff : ℤ := truncate (shares item.2.position b.portfolioValue (b.price item.1))-
    b.currentQty item.1
  service.minPositionChange≤fl (|fl (fl qtyDiff*b.price item.1)|/b.portfolioValue)

instance (service : RLInferenceService) (b : Batch) (item : String×RLSignal) :
    Decidable (service.Passes b item) := inferInstanceAs (Decidable (_≤_))

/-- A ticker with a price is held afterwards: its target is a share or more, or its change does
not pass the filter and it is held already. -/
def RLInferenceService.Holds (service : RLInferenceService) (b : Batch)
    (item : String×RLSignal) : Prop :=
  0<b.price item.1 ∧
    if service.Passes b item then 1≤ shares item.2.position b.portfolioValue (b.price item.1)
    else 0<b.currentQty item.1

instance (service : RLInferenceService) (b : Batch) (item : String×RLSignal) :
    Decidable (service.Holds b item) :=
  inferInstanceAs (Decidable (0<b.price item.1 ∧
    if service.Passes b item then 1≤ shares item.2.position b.portfolioValue (b.price item.1)
    else 0<b.currentQty item.1))

/-- Total target value of the tickers with a price that are held. -/
def Batch.heldTarget (b : Batch) (holdings : String→ℤ) : ℚ :=
  ((b.signals.items.filter fun item => 0<b.price item.1 ∧ 0<holdings item.1).map fun item =>
    targetValue b.portfolioValue item.2).sum

/-- Holdings are non-negative and the held targets are within the portfolio value. -/
structure Bounded (b : Batch) (holdings : String→ℤ) : Prop where
  /-- No holding is negative. -/
  nonneg : ∀ ticker,0≤holdings ticker
  /-- The held targets are within the portfolio value. -/
  within : b.heldTarget holdings≤b.portfolioValue

/-- No short target of a share or more passes the filter, and the parts of the tickers that
will be held, rounded to floats, have a sum of at most the portfolio value. -/
structure Sized (service : RLInferenceService) (b : Batch) : Prop where
  /-- Targets that pass the filter are not short by a share. -/
  long : ∀ item∈b.signals.items,0<b.price item.1→service.Passes b item→
    -1< shares item.2.position b.portfolioValue (b.price item.1)
  /-- The sum of the parts. -/
  total : ((b.signals.items.filter fun item => service.Holds b item).map fun item =>
    fl (item.2.position*b.portfolioValue)).sum≤b.portfolioValue

/-- Without an exception the orders are those of the tickers one by one. -/
theorem ordersOf_eq (service : RLInferenceService) (b : Batch)
    (hrows : ∀ ticker,b.currentPrice ticker≠none) (items : List (String×RLSignal)) :
    service.ordersOf b items=some (items.filterMap fun item =>
      service.order b.portfolioValue item.1 item.2 (b.currentQty item.1) (b.price item.1)) := by
  induction items with
  | nil => rfl
  | cons item rest ih =>
    obtain ⟨ticker,signal⟩ := item
    obtain ⟨price,hprice⟩ := Option.ne_none_iff_exists'.mp (hrows ticker)
    have hsame : b.price ticker=price := by
      unfold Batch.price
      rw [hprice]
      rfl
    rw [List.filterMap_cons]
    unfold RLInferenceService.ordersOf
    rw [hprice,ih]
    dsimp only
    rw [hsame]
    cases service.order b.portfolioValue ticker signal (b.currentQty ticker) price <;> rfl

/-- An order is for its ticker, about a positive quantity, and moves its holding to the
target. -/
theorem order_some {service : RLInferenceService} {portfolioValue price : ℚ} {ticker : String}
    {signal : RLSignal} {currentQty : ℤ} {o : OrderIntent}
    (h : service.order portfolioValue ticker signal currentQty price=some o) :
    o.ticker=ticker ∧ 0<o.quantity ∧
      currentQty+o.delta=targetQty portfolioValue price signal ∧ 0<price ∧
      service.minPositionChange≤
        changeRatio portfolioValue price (targetQty portfolioValue price signal-currentQty) := by
  unfold RLInferenceService.order at h
  by_cases hprice : price≤0
  · rw [if_pos hprice] at h
    cases h
  · rw [if_neg hprice] at h
    dsimp only at h
    split at h
    · cases h
    · rename_i hpass
      split at h
      · rename_i hbuy
        cases h
        exact ⟨rfl,hbuy,add_sub_cancel _ _,not_le.mp hprice,not_lt.mp hpass⟩
      · split at h
        · rename_i hsell
          cases h
          refine ⟨rfl,abs_pos.mpr hsell.ne,?_,not_le.mp hprice,not_lt.mp hpass⟩
          unfold OrderIntent.delta
          dsimp only
          rw [abs_of_neg hsell]
          omega
        · cases h

/-- Without an order the ticker has no price, does not pass the filter or is at its target. -/
theorem order_none {service : RLInferenceService} {portfolioValue price : ℚ} {ticker : String}
    {signal : RLSignal} {currentQty : ℤ}
    (h : service.order portfolioValue ticker signal currentQty price=none) (hprice : 0<price)
    (hpass : service.minPositionChange≤
      changeRatio portfolioValue price (targetQty portfolioValue price signal-currentQty)) :
    currentQty=targetQty portfolioValue price signal := by
  unfold RLInferenceService.order at h
  rw [if_neg (not_le.mpr hprice)] at h
  dsimp only at h
  rw [if_neg (not_lt.mpr hpass)] at h
  split at h
  · cases h
  · split at h
    · cases h
    · omega

/-- The tickers of the orders are different. -/
theorem orders_nodup (service : RLInferenceService) (b : Batch) :
    ((b.signals.items.filterMap fun item => service.order b.portfolioValue item.1 item.2
      (b.currentQty item.1) (b.price item.1)).map OrderIntent.ticker).Nodup := by
  have hsub : ∀ items : List (String×RLSignal),
      ((items.filterMap fun item => service.order b.portfolioValue item.1 item.2
        (b.currentQty item.1) (b.price item.1)).map OrderIntent.ticker).Sublist
          (items.map Prod.fst) := by
    intro items
    induction items with
    | nil => exact .slnil
    | cons item rest ih =>
      rw [List.filterMap_cons,List.map_cons]
      cases horder : service.order b.portfolioValue item.1 item.2 (b.currentQty item.1)
          (b.price item.1) with
      | none => exact ih.cons _
      | some o =>
        dsimp only
        rw [List.map_cons,(order_some horder).1]
        exact ih.cons_cons _
  exact (hsub _).nodup b.signals.nodup

/-- After the execution a ticker of a signal is at its target if it has a price and its change
passes the filter, and else where it was. -/
theorem executeAll_signal (service : RLInferenceService) (b : Batch)
    {item : String×RLSignal} (hitem : item∈b.signals.items) :
    executeAll b.currentQty (b.signals.items.filterMap fun item =>
        service.order b.portfolioValue item.1 item.2 (b.currentQty item.1) (b.price item.1))
        item.1=
      if 0<b.price item.1 ∧ service.Passes b item then
        targetQty b.portfolioValue (b.price item.1) item.2
      else b.currentQty item.1 := by
  cases horder : service.order b.portfolioValue item.1 item.2 (b.currentQty item.1)
      (b.price item.1) with
  | some o =>
    obtain ⟨hticker,_,htarget,hprice,hpass⟩ := order_some horder
    rw [if_pos ⟨hprice,hpass⟩,← htarget,← hticker]
    exact executeAll_of_mem _ (orders_nodup service b) (List.mem_filterMap.mpr ⟨item,hitem,horder⟩)
  | none =>
    rw [executeAll_other]
    · by_cases h : 0<b.price item.1 ∧ service.Passes b item
      · rw [if_pos h]
        exact order_none horder h.1 h.2
      · rw [if_neg h]
    · intro hmem
      obtain ⟨o,ho,hticker⟩ := List.mem_map.mp hmem
      obtain ⟨other,hother,horder'⟩ := List.mem_filterMap.mp ho
      have hkey : other.1=item.1 := (order_some horder').1.symm.trans hticker
      have hsame : other=item := List.inj_on_of_nodup_map b.signals.nodup hother hitem hkey
      rw [hsame,horder] at horder'
      cases horder'

/-- A ticker without a signal stays where it was. -/
theorem executeAll_unsignalled (service : RLInferenceService) (b : Batch) {ticker : String}
    (h : ∀ item∈b.signals.items,item.1≠ticker) :
    executeAll b.currentQty (b.signals.items.filterMap fun item =>
        service.order b.portfolioValue item.1 item.2 (b.currentQty item.1) (b.price item.1))
        ticker=b.currentQty ticker := by
  apply executeAll_other
  intro hmem
  obtain ⟨o,ho,hticker⟩ := List.mem_map.mp hmem
  obtain ⟨other,hother,horder⟩ := List.mem_filterMap.mp ho
  exact h other hother ((order_some horder).1.symm.trans hticker)

/-- A truncated number is positive exactly from one on. -/
theorem truncate_pos {x : ℚ} : 0<truncate x ↔ 1≤x := by
  unfold truncate
  by_cases h : 0≤x
  · rw [if_pos h]
    exact Int.floor_pos
  · rw [if_neg h,Int.ceil_pos]
    exact iff_of_false (fun hx => h hx.le) (fun hx => h (zero_le_one.trans hx))

/-- A truncated number is non-negative exactly above -1. -/
theorem truncate_nonneg {x : ℚ} : 0≤truncate x ↔ -1<x := by
  unfold truncate
  by_cases h : 0≤x
  · rw [if_pos h]
    exact iff_of_true (Int.floor_nonneg.mpr h) (neg_one_lt_zero.trans_le h)
  · rw [if_neg h,← Int.sub_one_lt_iff,zero_sub,Int.lt_ceil,Int.cast_neg,Int.cast_one]

/-- A target is short by a share or more, or non-negative. -/
theorem targetQty_nonneg (portfolioValue price : ℚ) (signal : RLSignal) :
    0≤targetQty portfolioValue price signal ↔ -1< shares signal.position portfolioValue price :=
  truncate_nonneg

/-- A target is held exactly if it is a share or more. -/
theorem targetQty_pos (portfolioValue price : ℚ) (signal : RLSignal) :
    0<targetQty portfolioValue price signal ↔ 1≤ shares signal.position portfolioValue price :=
  truncate_pos

/-- No holding is negative after the execution exactly if no short target of a share or more
passes the filter. -/
theorem executeAll_nonneg (service : RLInferenceService) (b : Batch)
    (hheld : ∀ ticker,0≤b.currentQty ticker) :
    (∀ ticker,0≤executeAll b.currentQty (b.signals.items.filterMap fun item =>
        service.order b.portfolioValue item.1 item.2 (b.currentQty item.1) (b.price item.1))
          ticker) ↔
      ∀ item∈b.signals.items,0<b.price item.1→service.Passes b item→
        -1< shares item.2.position b.portfolioValue (b.price item.1) := by
  constructor
  · intro h item hitem hprice hpass
    have hafter := h item.1
    rw [executeAll_signal service b hitem,if_pos ⟨hprice,hpass⟩] at hafter
    exact (targetQty_nonneg _ _ item.2).mp hafter
  · intro h ticker
    by_cases hsignal : ∃ item∈b.signals.items,item.1=ticker
    · obtain ⟨item,hitem,rfl⟩ := hsignal
      rw [executeAll_signal service b hitem]
      split
      · rename_i hmoves
        exact (targetQty_nonneg _ _ item.2).mpr (h item hitem hmoves.1 hmoves.2)
      · exact hheld item.1
    · rw [executeAll_unsignalled service b fun item hitem heq => hsignal ⟨item,hitem,heq⟩]
      exact hheld ticker

/-- The tickers with a price that are held afterwards. -/
theorem executeAll_holds (service : RLInferenceService) (b : Batch)
    {item : String×RLSignal} (hitem : item∈b.signals.items) :
    (0<b.price item.1 ∧ 0<executeAll b.currentQty (b.signals.items.filterMap fun item =>
        service.order b.portfolioValue item.1 item.2 (b.currentQty item.1) (b.price item.1))
          item.1) ↔ service.Holds b item := by
  unfold RLInferenceService.Holds
  refine and_congr_right fun hprice => ?_
  rw [executeAll_signal service b hitem]
  by_cases hpass : service.Passes b item
  · rw [if_pos ⟨hprice,hpass⟩,if_pos hpass]
    exact targetQty_pos _ _ item.2
  · rw [if_neg fun h => hpass h.2,if_neg hpass]

/-- The held targets are the parts of the tickers that will be held. -/
theorem heldTarget_eq (service : RLInferenceService) (b : Batch) :
    b.heldTarget (executeAll b.currentQty (b.signals.items.filterMap fun item =>
        service.order b.portfolioValue item.1 item.2 (b.currentQty item.1) (b.price item.1)))=
      ((b.signals.items.filter fun item => service.Holds b item).map fun item =>
        fl (item.2.position*b.portfolioValue)).sum := by
  unfold Batch.heldTarget
  rw [List.filter_congr fun item hitem => decide_eq_decide.mpr (executeAll_holds service b hitem)]
  rfl

/-- For all signals, holdings that are not negative, portfolio values and prices: the orders
are returned, and their execution leaves no holding negative and the held targets within the
portfolio value exactly if no short target of a share or more passes the filter and the parts of
the tickers that will be held have a sum of at most the portfolio value. -/
theorem orders_bounded_iff (service : RLInferenceService) (b : Batch)
    (hheld : ∀ ticker,0≤b.currentQty ticker) (hrows : ∀ ticker,b.currentPrice ticker≠none) :
    ∃ orders,service.signalsToOrders b=some orders ∧
      (Bounded b (executeAll b.currentQty orders) ↔ Sized service b) := by
  refine ⟨_,ordersOf_eq service b hrows b.signals.items,?_⟩
  have htotal := heldTarget_eq service b
  constructor
  · intro h
    exact ⟨(executeAll_nonneg service b hheld).mp h.nonneg,htotal ▸ h.within⟩
  · intro h
    exact ⟨(executeAll_nonneg service b hheld).mpr h.long,htotal ▸ h.total⟩

/-- A ledger with the current holdings records every fill of the orders exactly if their
execution leaves no holding negative, blank tickers apart. -/
theorem ledger_records_iff (service : RLInferenceService) (b : Batch) (ledger : Ledger)
    (hledger : ∀ ticker,ledger.position ticker=b.currentQty ticker)
    (hheld : ∀ ticker,0≤b.currentQty ticker) {orders : List OrderIntent}
    (horders : service.signalsToOrders b=some orders)
    (hrows : ∀ ticker,b.currentPrice ticker≠none)
    (hblank : ∀ item∈b.signals.items,isBlank item.1=false) :
    (∃ ledger',recordAll ledger orders=.ok ledger') ↔
      ∀ ticker,0≤executeAll b.currentQty orders ticker := by
  have hsame := Option.some.inj ((ordersOf_eq service b hrows b.signals.items).symm.trans horders)
  rw [← hsame]
  refine recordAll_iff ledger hledger hheld (orders_nodup service b) ?_ ?_
  · intro o ho
    obtain ⟨item,hitem,horder⟩ := List.mem_filterMap.mp ho
    rw [(order_some horder).1]
    exact hblank item hitem
  · intro o ho
    obtain ⟨item,_,horder⟩ := List.mem_filterMap.mp ho
    exact (order_some horder).2.1

/-- The service with its defaults. -/
def defaultService : RLInferenceService := ⟨0.05,fun _ => ""⟩

/-- Two tickers at 100 of which ten shares of the second are held, with some positions. -/
def twoSignals (first second : ℚ) : Batch where
  signals := ⟨[("005930",⟨first⟩),("000660",⟨second⟩)],
    (by decide : ["005930","000660"].Nodup)⟩
  currentPositions := ⟨[("000660",10)],by decide⟩
  portfolioValue := 10000
  positive := by decide +kernel
  ohlcvDict := some ⟨[("005930",[90,100]),("000660",[100])],by decide⟩

/-- Columns of two tickers have rows. -/
theorem twoSignals_rows (first second : ℚ) (ticker : String) :
    (twoSignals first second).currentPrice ticker≠none := by
  unfold Batch.currentPrice twoSignals Dict.get?
  dsimp only
  rw [List.find?_cons,List.find?_cons,List.find?_nil]
  split
  · simp
  · rename_i close hclose
    split at hclose
    · cases hclose
      simp
    · split at hclose
      · cases hclose
        simp
      · cases hclose

/-- Holdings of two tickers are not negative. -/
theorem twoSignals_held (first second : ℚ) (ticker : String) :
    0 ≤ (twoSignals first second).currentQty ticker := by
  unfold Batch.currentQty twoSignals Dict.get?
  dsimp only
  rw [List.find?_cons,List.find?_nil]
  split <;> simp

/-- Half of the value for the first ticker and nothing for the second stays within the
bounds. -/
theorem orders_bounded_half : ∃ orders,
    defaultService.signalsToOrders (twoSignals 0.5 0)=some orders ∧
      (Bounded (twoSignals 0.5 0) (executeAll (twoSignals 0.5 0).currentQty orders) ↔
        Sized defaultService (twoSignals 0.5 0)) :=
  orders_bounded_iff defaultService (twoSignals 0.5 0) (twoSignals_held _ _)
    (twoSignals_rows _ _)

/-- A short target sells more than is held, and two long ones are worth more than the
portfolio. -/
theorem orders_out_of_bounds :
    (∃ orders,defaultService.signalsToOrders (twoSignals 0.5 (-0.3))=some orders ∧
      ¬∀ ticker,0 ≤ executeAll (twoSignals 0.5 (-0.3)).currentQty orders ticker) ∧
    ∃ orders,defaultService.signalsToOrders (twoSignals 0.8 0.9)=some orders ∧
      ¬(twoSignals 0.8 0.9).heldTarget
          (executeAll (twoSignals 0.8 0.9).currentQty orders)≤(twoSignals 0.8 0.9).portfolioValue := by
  constructor
  · refine ⟨_,ordersOf_eq _ _ (twoSignals_rows _ _) _,fun h => ?_⟩
    exact absurd (h "000660") (by decide +kernel)
  · exact ⟨_,ordersOf_eq _ _ (twoSignals_rows _ _) _,by decide +kernel⟩

end Aqts.RlOrders
