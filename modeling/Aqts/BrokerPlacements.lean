import Aqts.OrderExecutor

/-!
# The broker calls of an order

The orders that `execute_order` sends to the broker, with their quantity and
what became of them. The log runs beside the loops of the sliced orders and
does not change them. An answer whose numbers cannot be read raises at the
client, but the broker has accepted the order.
-/

namespace Aqts.OrderExecutor

open OrderTypes OrdersTable PortfolioLedger Binary64
open PandasSeries (roundHalfEven)

/-- An order sent to the broker. -/
structure Placement where
  /-- Quantity asked for. -/
  quantity : ℤ
  /-- What became of it. -/
  outcome : BrokerOutcome
  deriving DecidableEq

/-- The broker has accepted the order. -/
def BrokerOutcome.isAccepted : BrokerOutcome→Bool
  | .accepted _ _ _ => true
  | .unreadable _ => true
  | .raises _ => false

/-- Quantity of the accepted orders of a log. -/
def acceptedQuantity (log : List Placement) : ℤ :=
  (log.map fun p => if p.outcome.isAccepted=true then p.quantity else 0).sum

/-- Quantity that an outcome reports as filled. -/
def outcomeFilled : BrokerOutcome→ℤ
  | .accepted _ filledQty _ => filledQty
  | _ => 0

/-- Amount that an outcome reports as filled. -/
def outcomeCost : BrokerOutcome→ℚ
  | .accepted _ filledQty avgPrice => filledQty*avgPrice
  | _ => 0

/-- The order that an attempt sends, if the slice is not filled yet. -/
def attemptPlacements (sliceQty : ℤ) (p : SliceProgress) : List Placement :=
  if sliceQty-p.filledInSlice≤0 then []
  else [⟨sliceQty-p.filledInSlice,(nextAnswer p.broker).1.outcome⟩]

/-- `sliceAttempt` with its log. -/
def loggedAttempt (request : OrderRequest) (reason : ℕ→String) (sliceQty : ℤ)
    (s : SliceProgress×List Placement) (attempt : ℕ) : SliceProgress×List Placement :=
  (sliceAttempt request reason sliceQty s.1 attempt,s.2++attemptPlacements sliceQty s.1)

/-- `executeSlice` with its log. -/
def loggedSlice (request : OrderRequest) (attempts : ℕ) (reason : ℕ→ℕ→String)
    (s : SliceState×List Placement) (slice : ℤ×ℕ) : SliceState×List Placement :=
  (executeSlice request attempts reason s.1 slice,
    if slice.1+s.1.carryover≤0 then s.2
    else ((List.range attempts).foldl
      (loggedAttempt request (reason slice.2) (slice.1+s.1.carryover))
      (⟨s.1.broker,0,s.1.totalCost,s.1.subResults⟩,s.2)).2)

/-- `executeSlices` with its log. -/
def loggedSlices (request : OrderRequest) (attempts : ℕ) (reason : ℕ→ℕ→String)
    (slices : List ℤ) (broker : List BrokerCall) : SliceState×List Placement :=
  slices.zipIdx.foldl (loggedSlice request attempts reason) (⟨broker,0,0,[],0⟩,[])

/-- An attempt on a slice that is not filled adds what the next answer reports. -/
theorem sliceAttempt_answer (request : OrderRequest) (reason : ℕ→String) {sliceQty : ℤ}
    {p : SliceProgress} (attempt : ℕ) (h : 0< sliceQty-p.filledInSlice) :
    (sliceAttempt request reason sliceQty p attempt).broker=(nextAnswer p.broker).2 ∧
      (sliceAttempt request reason sliceQty p attempt).filledInSlice=
        p.filledInSlice+outcomeFilled (nextAnswer p.broker).1.outcome ∧
      (sliceAttempt request reason sliceQty p attempt).totalCost=
        p.totalCost+outcomeCost (nextAnswer p.broker).1.outcome := by
  unfold sliceAttempt
  rw [if_neg (by omega)]
  unfold executeMarketOrder
  dsimp only
  cases (nextAnswer p.broker).1.outcome with
  | accepted orderId filledQty avgPrice => exact ⟨rfl,rfl,rfl⟩
  | unreadable text => exact ⟨rfl,(add_zero _).symm,(add_zero _).symm⟩
  | raises text => exact ⟨rfl,(add_zero _).symm,(add_zero _).symm⟩

/-- The log does not change the attempts. -/
theorem loggedAttempt_state (request : OrderRequest) (reason : ℕ→String) (sliceQty : ℤ)
    (attempts : List ℕ) (s : SliceProgress×List Placement) :
    (attempts.foldl (loggedAttempt request reason sliceQty) s).1=
      attempts.foldl (sliceAttempt request reason sliceQty) s.1 :=
  (List.foldl_hom Prod.fst fun _ _ => rfl).symm

/-- The log does not change the loop. -/
theorem loggedSlices_state (request : OrderRequest) (attempts : ℕ) (reason : ℕ→ℕ→String)
    (slices : List ℤ) (broker : List BrokerCall) :
    (loggedSlices request attempts reason slices broker).1=
      executeSlices request attempts reason slices broker := by
  unfold loggedSlices executeSlices
  exact (List.foldl_hom Prod.fst fun _ _ => rfl).symm

/-- Reason text of a TWAP sub-order. -/
def twapReason (numIntervals i attempt : ℕ) : String :=
  "TWAP "++toString (i+1)++"/"++toString numIntervals++
    (if 0<attempt then " retry-"++toString attempt else "")

/-- Reason text of a VWAP sub-order. -/
def vwapReason (numIntervals : ℕ) (profile : List ℚ) (i _attempt : ℕ) : String :=
  "VWAP "++toString (i+1)++"/"++toString numIntervals++
    " ("++toString (roundHalfEven (fl (100*profile.getD i 0)))++"%)"

/-- Broker calls of `_execute_twap_order`. -/
def twapPlacements (request : OrderRequest) (numIntervals maxRetryPerSlice : ℕ)
    (broker : List BrokerCall) : List Placement :=
  (loggedSlices request (maxRetryPerSlice+1) (twapReason numIntervals)
    (twapSlices request.quantity numIntervals) broker).2

/-- Broker calls of `_execute_vwap_order`. -/
def vwapPlacements (request : OrderRequest) (numIntervals : ℕ) (volumeProfile : List ℚ)
    (broker : List BrokerCall) : List Placement :=
  (loggedSlices request 1 (vwapReason numIntervals (vwapProfile numIntervals volumeProfile))
    (vwapSlices request.quantity (vwapProfile numIntervals volumeProfile)) broker).2

/-- The result of a TWAP order is that of the loop whose calls are logged. -/
theorem executeTwapOrder_logged (request : OrderRequest) (numIntervals maxRetryPerSlice : ℕ)
    (broker : List BrokerCall) (stamp : String) (now : ℚ) :
    executeTwapOrder request numIntervals maxRetryPerSlice broker stamp now=
      slicedResult "TWAP" request stamp now (loggedSlices request (maxRetryPerSlice+1)
        (twapReason numIntervals) (twapSlices request.quantity numIntervals) broker).1 := by
  rw [loggedSlices_state]
  rfl

/-- The result of a VWAP order is that of the loop whose calls are logged. -/
theorem executeVwapOrder_logged (request : OrderRequest) (numIntervals : ℕ)
    (volumeProfile : List ℚ) (broker : List BrokerCall) (stamp : String) (now : ℚ) :
    executeVwapOrder request numIntervals volumeProfile broker stamp now=
      slicedResult "VWAP" request stamp now (loggedSlices request 1
        (vwapReason numIntervals (vwapProfile numIntervals volumeProfile))
        (vwapSlices request.quantity (vwapProfile numIntervals volumeProfile)) broker).1 := by
  rw [loggedSlices_state]
  rfl

end Aqts.OrderExecutor
