import Mathlib.Data.Rat.Defs

/-!
# Order requests, results and responses

The enumerations of `config.constants` that the order path uses, with the
texts that go to the database and to the client, and the records passed
between the route, the executor and the stores. Prices and instants are
exact rationals; an instant counts seconds since the epoch.
-/

namespace Aqts.OrderTypes

/-- Markets an order can be placed on. -/
inductive Market
  | krx | nyse | nasdaq | amex
  deriving DecidableEq, Repr

/-- Text of a market, as stored and as sent. -/
def Market.value : Market→String
  | .krx => "KRX"
  | .nyse => "NYSE"
  | .nasdaq => "NASDAQ"
  | .amex => "AMEX"

/-- Direction of an order. -/
inductive OrderSide
  | buy | sell
  deriving DecidableEq, Repr

/-- Text of a side, as stored and as sent. -/
def OrderSide.value : OrderSide→String
  | .buy => "BUY"
  | .sell => "SELL"

/-- Execution style of an order. -/
inductive OrderType
  | market | limit | twap | vwap
  deriving DecidableEq, Repr

/-- Text of an order type, as stored and as sent. -/
def OrderType.value : OrderType→String
  | .market => "MARKET"
  | .limit => "LIMIT"
  | .twap => "TWAP"
  | .vwap => "VWAP"

/-- Life-cycle status of an order. -/
inductive OrderStatus
  | pending | submitted | partialFill | filled | cancelled | failed
  deriving DecidableEq, Repr

/-- Text of a status, as stored in the `orders` table. -/
def OrderStatus.value : OrderStatus→String
  | .pending => "PENDING"
  | .submitted => "SUBMITTED"
  | .partialFill => "PARTIAL"
  | .filled => "FILLED"
  | .cancelled => "CANCELLED"
  | .failed => "FAILED"

/-- Distinct statuses have distinct texts, so a stored text names one status. -/
theorem OrderStatus.value_injective : Function.Injective OrderStatus.value := by
  intro a b h
  cases a <;> cases b <;> first | rfl | exact absurd h (by decide)

/-- Order submitted to the executor (`OrderRequest`). -/
structure OrderRequest where
  /-- Ticker symbol. -/
  ticker : String
  /-- Market of the ticker. -/
  market : Market
  /-- Direction. -/
  side : OrderSide
  /-- Requested quantity. -/
  quantity : ℤ
  /-- Execution style, a market order by default. -/
  orderType : OrderType := .market
  /-- Limit price, required by limit orders only. -/
  limitPrice : Option ℚ := none
  /-- Free text recorded with the order. -/
  reason : String := ""
  deriving DecidableEq

/-- Outcome of an executed order (`OrderResult`). -/
structure OrderResult where
  /-- Broker order number or a locally made identifier. -/
  orderId : String
  /-- Ticker symbol. -/
  ticker : String
  /-- Market of the ticker. -/
  market : Market
  /-- Direction. -/
  side : OrderSide
  /-- Requested quantity. -/
  quantity : ℤ
  /-- Quantity filled so far. -/
  filledQuantity : ℤ
  /-- Average fill price, zero when nothing is filled. -/
  avgPrice : ℚ
  /-- Status at the time of the result. -/
  status : OrderStatus
  /-- Instant of execution. -/
  executedAt : ℚ
  /-- Execution style, a market order by default. -/
  orderType : OrderType := .market
  /-- Error text, set on failures only. -/
  errorMessage : String := ""
  deriving DecidableEq

/-- Order data returned to the client (`OrderResponse`). -/
structure OrderResponse where
  /-- Identifier of the order. -/
  orderId : String
  /-- Ticker symbol. -/
  ticker : String
  /-- Market text. -/
  market : String
  /-- Side text. -/
  side : String
  /-- Requested quantity. -/
  quantity : ℤ
  /-- Order type text. -/
  orderType : String
  /-- Status text. -/
  status : String
  /-- Fill price, absent when not positive. -/
  filledPrice : Option ℚ
  /-- Fill instant, present for filled orders only. -/
  filledAt : Option ℚ
  /-- Recorded reason. -/
  reason : String
  deriving DecidableEq

/-- Response envelope of every route (`APIResponse`). -/
structure ApiResponse (α : Type) where
  /-- Whether the request succeeded. -/
  success : Bool
  /-- Payload. -/
  data : Option α
  /-- Text for the client. -/
  message : String
  /-- Instant at which the response object was built. -/
  timestamp : ℚ
  deriving DecidableEq

/-- Conversion of a result into the response the client sees
(`_order_result_to_response`). -/
def orderResultToResponse (result : OrderResult) (orderType : String) (reason : String) :
    OrderResponse where
  orderId := result.orderId
  ticker := result.ticker
  market := result.market.value
  side := result.side.value
  quantity := result.quantity
  orderType := orderType
  status := result.status.value
  filledPrice := if 0 < result.avgPrice then some result.avgPrice else none
  filledAt := if result.status=.filled then some result.executedAt else none
  reason := reason

end Aqts.OrderTypes
