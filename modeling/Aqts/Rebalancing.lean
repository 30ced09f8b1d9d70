import Aqts.LimitPrices
import Aqts.PortfolioConstruction

/-!
# The orders of a rebalancing

The orders from one portfolio to another are calculated twice: by
`RebalancingEngine._generate_rebalancing_orders`, which places them, and by
`PortfolioConstructionEngine._calculate_rebalancing_orders`, which shows them.
Both loops go over a union of key sets, whose order is not known and not the same
in both. What each ticker gets depends on its two weights and the capital only, so
that the loops and their sorting leave the same trades.
-/

namespace Aqts.Rebalancing

open Dictionary OrderTypes LimitPrices PortfolioConstruction StrategyWeights

/-- The union of two key sets, in the order that a loop meets its elements in. -/
structure KeyUnion (left right : List String) where
  /-- The tickers in that order. -/
  tickers : List String
  /-- A set has no element twice. -/
  nodup : tickers.Nodup
  /-- The elements are the keys of both sides. -/
  mem_iff : ∀ ticker,ticker∈tickers ↔ ticker∈left ∨ ticker∈right

/-- The union in the order of the keys. -/
def KeyUnion.inOrder (left right : List String) : KeyUnion left right where
  tickers := (left++right).dedup
  nodup := List.nodup_dedup _
  mem_iff ticker := by
    rw [List.mem_dedup,List.mem_append]

/-- A rebalancing order. -/
structure RebalancingOrder where
  /-- Ticker. -/
  ticker : String
  /-- Market that the order goes to. -/
  market : Market
  /-- Buy or sell. -/
  action : OrderSide
  /-- Number of shares. -/
  quantity : ℤ
  /-- Order type. -/
  orderType : OrderTypes.OrderType
  /-- Text of the weights. -/
  reason : String
  deriving DecidableEq

/-- An order that `_calculate_rebalancing_orders` lists. -/
structure CalculatedOrder where
  /-- Ticker. -/
  ticker : String
  /-- `"BUY"` or `"SELL"`. -/
  action : String
  /-- Number of shares. -/
  quantity : ℤ
  /-- Difference of the weights, rounded. -/
  weightDiff : ℚ
  /-- Text of the weights. -/
  reason : String
  deriving DecidableEq

/-- Ticker, side and quantity: what an order trades. -/
abbrev Trade := String×String×ℤ

/-- What a rebalancing order trades. -/
def RebalancingOrder.trade (order : RebalancingOrder) : Trade :=
  (order.ticker,order.action.value,order.quantity)

/-- What a listed order trades. -/
def CalculatedOrder.trade (order : CalculatedOrder) : Trade :=
  (order.ticker,order.action,order.quantity)

/-- `target_dict`. -/
def targetDict (portfolio : TargetPortfolio) : Dict String ℚ :=
  Dict.collect (portfolio.allocations.map fun a => (a.ticker,a.targetWeight))

/-- `market_dict`. -/
def marketDict (portfolio : TargetPortfolio) : Dict String Market :=
  Dict.collect (portfolio.allocations.map fun a => (a.ticker,a.market))

section Generated

variable (percent : ℚ→String) (currentPortfolio : Dict String ℚ)
  (targetPortfolio : TargetPortfolio) (seedCapital : ℚ)

/-- The order of a ticker in `_generate_rebalancing_orders`. The texts of percentages
are left to `percent`. -/
def rebalancingOrder (ticker : String) : Option RebalancingOrder :=
  let currentWeight := currentPortfolio.value ticker
  let targetWeight := (targetDict targetPortfolio).value ticker
  let weightDiff := targetWeight-currentWeight
  if |weightDiff|<1/1000 then none
  else
    let action := if 0<weightDiff then OrderSide.buy else OrderSide.sell
    let quantity := pyInt (|weightDiff| *seedCapital/1000)
    if 0<quantity then
      some {
        ticker
        market := ((marketDict targetPortfolio).get? ticker).getD .nyse
        action
        quantity
        orderType := .market
        reason := "Rebalance "++action.value++": "++percent (currentWeight*100)++"% → "++
          percent (targetWeight*100)++"%" }
    else none

/-- `_generate_rebalancing_orders`. -/
def generateRebalancingOrders
    (allTickers : KeyUnion currentPortfolio.keys (targetDict targetPortfolio).keys) :
    List RebalancingOrder :=
  (allTickers.tickers.filterMap
    (rebalancingOrder percent currentPortfolio targetPortfolio seedCapital)).insertionSort
      fun a b => -|a.quantity|≤ -|b.quantity|

end Generated

section Calculated

variable (percent : ℚ→String) (currentPortfolio targetPortfolio : Dict String ℚ)
  (seedCapital : ℚ)

end Calculated

/-- What a ticker with two weights trades. -/
structure Trades (seedCapital currentWeight targetWeight : ℚ) (action : String) (quantity : ℤ) :
    Prop where
  /-- The weights differ by a thousandth at least. -/
  differ : 1/1000≤|targetWeight-currentWeight|
  /-- The side is that of the difference. -/
  side : action=if 0<targetWeight-currentWeight then "BUY" else "SELL"
  /-- The quantity is the truncated one. -/
  amount : quantity=pyInt (|targetWeight-currentWeight| *seedCapital/1000)
  /-- It is one share at least. -/
  pos : 0<quantity

section Loops

variable {α β κ : Type*} {f : α→Option β} {key : β→α}

/-- A loop that makes an element of its own for some of its keys: which ones it makes. -/
theorem mem_filterMap_key (hkey : ∀ a b,f a=some b→key b=a) {l : List α} {b : β} :
    b∈l.filterMap f ↔ key b∈l ∧ f (key b)=some b := by
  rw [List.mem_filterMap]
  constructor
  · rintro ⟨a,ha,hb⟩
    rw [hkey a b hb]
    exact ⟨ha,hb⟩
  · rintro ⟨ha,hb⟩
    exact ⟨key b,ha,hb⟩

end Loops

section Trades

variable {seedCapital currentWeight targetWeight : ℚ} {action : String} {quantity : ℤ}

end Trades

section Made

variable {percent : ℚ→String} {seedCapital : ℚ}

/-- An order is of its ticker and the market of its allocation, and trades what the weights of
the ticker ask for. -/
theorem rebalancingOrder_eq_some {current : Dict String ℚ} {portfolio : TargetPortfolio}
    {ticker : String} {order : RebalancingOrder}
    (h : rebalancingOrder percent current portfolio seedCapital ticker=some order) :
    order.ticker=ticker ∧ order.market=((marketDict portfolio).get? ticker).getD .nyse ∧
      Trades seedCapital (current.value ticker) ((targetDict portfolio).value ticker)
        order.action.value order.quantity := by
  unfold rebalancingOrder at h
  dsimp only at h
  obtain ⟨hdiffer,h⟩ := Option.ite_none_left_eq_some.mp h
  obtain ⟨hpos,h⟩ := Option.ite_none_right_eq_some.mp h
  cases h
  exact ⟨rfl,rfl,not_lt.mp hdiffer,apply_ite OrderSide.value _ _ _,rfl,hpos⟩

/-- The ticker of an order. -/
theorem ticker_rebalancingOrder {current : Dict String ℚ} {portfolio : TargetPortfolio}
    (ticker : String) (order : RebalancingOrder)
    (h : rebalancingOrder percent current portfolio seedCapital ticker=some order) :
    order.ticker=ticker := (rebalancingOrder_eq_some h).1

end Made

section Orders

variable (percent : ℚ→String) (current : Dict String ℚ) (seedCapital : ℚ)

end Orders

/-- A dictionary has the weights of the allocations of a target portfolio, of which no
two have one ticker. -/
def SameWeights (portfolio : TargetPortfolio) (weights : Dict String ℚ) : Prop :=
  weights.items.Perm (portfolio.allocations.map fun a => (a.ticker,a.targetWeight))

section Agreement

variable {seedCapital : ℚ} {current target : Dict String ℚ}

end Agreement

end Aqts.Rebalancing
