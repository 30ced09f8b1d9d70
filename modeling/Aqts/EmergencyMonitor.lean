import Aqts.GuardedRuns
import Aqts.OrderTypes
import Aqts.SpacedTimes
import Mathlib.Data.Fintype.Basic
import Mathlib.Data.List.Sort
import Mathlib.Data.Rat.Floor
import Mathlib.Logic.Function.Basic

/-!
# The emergency monitor

`EmergencyRebalancingMonitor` in the discretionary style. A check reads the
Korean and then the American balance, or the table of holdings when a request
fails, and sends a defensive batch when the loss reaches a threshold. The loop
looks at the cooldown before its check, a manual check does not, and the
cooldown begins only after the orders, the alert and the record of a batch.

Balances and rows are inputs. The shares that are held change by any trade.
-/

namespace Aqts.EmergencyMonitor

open GuardedRuns OrderTypes SpacedTimes

/-- `PositionSnapshot`, without the sector. -/
structure Position where
  /-- `ticker`. -/
  ticker : String
  /-- `market`. -/
  market : Market
  /-- `quantity`. -/
  quantity : ℕ
  /-- `avg_purchase_price`. -/
  avgPurchasePrice : ℚ
  /-- `current_price`. -/
  currentPrice : ℚ
deriving DecidableEq

/-- `purchase_value`. -/
def Position.purchaseValue (p : Position) : ℚ := p.quantity*p.avgPurchasePrice

/-- `current_value`. -/
def Position.currentValue (p : Position) : ℚ := p.quantity*p.currentPrice

/-- Settings of the monitor. -/
structure Settings where
  /-- `_kis_client` is there. -/
  kisClient : Bool
  /-- `_order_executor` is there. -/
  orderExecutor : Bool
  /-- `stop_loss_percent`. -/
  stopLossPercent : ℚ
  /-- `_calculate_algo_threshold`, from the volatility of the positions. -/
  algoThreshold : List Position→ℚ

/-- The loss of `_calculate_loss`, negative for a loss. -/
def lossPercent (positions : List Position) : ℚ :=
  let totalPurchase := (positions.map Position.purchaseValue).sum
  let totalCurrent := (positions.map Position.currentValue).sum
  if 0<totalPurchase then (totalCurrent-totalPurchase)/totalPurchase else 0

/-- A loss reaches a threshold, which is negative. -/
def reaches (loss threshold : ℚ) : Bool := decide (threshold<0 ∧ loss≤threshold)

/-- `is_triggered` of the report of `_calculate_loss`. -/
def Settings.isTriggered (settings : Settings) (positions : List Position) : Bool :=
  reaches (lossPercent positions) settings.stopLossPercent ||
    reaches (lossPercent positions) (settings.algoThreshold positions)

/-- `DEFENSIVE_STOCK_RATIO`. -/
def defensiveStockRatio : ℚ := 0.3

/-- A sell order of a batch. -/
structure SellOrder where
  /-- `ticker`. -/
  ticker : String
  /-- `market`. -/
  market : Market
  /-- `quantity`. -/
  quantity : ℕ
  /-- `estimated_amount`. -/
  estimatedAmount : ℚ
deriving DecidableEq

/-- The quantity that is sold of a position. -/
def sellQuantity (quantity : ℕ) : ℕ := ⌊(quantity : ℚ)*(1-defensiveStockRatio)⌋.toNat

/-- The order for a position, if there is one. -/
def sellOrder (p : Position) : Option SellOrder :=
  if sellQuantity p.quantity=0 then none
  else some ⟨p.ticker,p.market,sellQuantity p.quantity,sellQuantity p.quantity*p.currentPrice⟩

/-- `_generate_defensive_orders`, the largest amounts first. -/
def generateDefensiveOrders (positions : List Position) : List SellOrder :=
  (positions.filterMap sellOrder).insertionSort fun a b => b.estimatedAmount≤a.estimatedAmount

/-- The orders that `_execute_defensive_orders` sends, none without an executor. -/
def Settings.ordersToSend (settings : Settings) (positions : List Position) : List SellOrder :=
  if settings.orderExecutor=true then generateDefensiveOrders positions else []

/-- `TRIGGER_COOLDOWN_MINUTES`, in seconds. -/
def cooldown : ℚ := 30*60

/-- Who checks. -/
inductive Caller (I : Type*)
  /-- `_monitor_loop`. -/
  | loop
  /-- A call of `run_check`. -/
  | manual (i : I)
deriving DecidableEq

/-- Where a check is. -/
inductive Place
  /-- No check. -/
  | idle
  /-- In `get_kr_balance`. -/
  | readingKr
  /-- In `get_us_balance`, with the Korean positions. -/
  | readingUs (kr : List Position)
  /-- In `_load_positions_from_db`. -/
  | readingDb
  /-- In `_execute_defensive_orders`, with the orders that are left. -/
  | ordering (left : List SellOrder)
  /-- In `_send_emergency_alert`. -/
  | alerting
  /-- In `_record_emergency_event`. -/
  | recording
deriving DecidableEq

/-- The orders that are left of a trigger being handled. -/
def Place.pending : Place→Option (List SellOrder)
  | .ordering left => some left
  | .alerting => some []
  | .recording => some []
  | _ => none

/-- The positions of a check when its last answer comes. -/
def Place.positions (answer : List Position) : Place→Option (List Position)
  | .readingUs kr => some (kr++answer)
  | .readingDb => some answer
  | _ => none

/-- A batch when its trigger was found. -/
structure Batch where
  /-- The time. -/
  start : ℚ
  /-- The shares held of every ticker. -/
  held : String→ℕ

/-- An order that was sent to the executor. -/
structure Sent where
  /-- The time. -/
  time : ℚ
  /-- The ticker. -/
  ticker : String
  /-- The quantity. -/
  quantity : ℕ

/-- The monitor with its checks. -/
structure Monitor (I : Type*) where
  /-- The clock, in seconds. -/
  clock : ℚ
  /-- `cooldown_until`. -/
  cooldownUntil : Option ℚ
  /-- The shares held of every ticker. -/
  held : String→ℕ
  /-- The checks. -/
  place : Caller I→Place
  /-- The batches, newest first. -/
  batches : List Batch
  /-- The orders that were sent, newest first. -/
  sent : List Sent

/-- A new monitor. -/
def Monitor.init (I : Type*) (clock : ℚ) (held : String→ℕ) : Monitor I :=
  ⟨clock,none,held,fun _ => .idle,[],[]⟩

/-- `_is_in_cooldown`. -/
def Monitor.isInCooldown {I : Type*} (s : Monitor I) (now : ℚ) : Bool :=
  match s.cooldownUntil with
  | none => false
  | some time => decide (now<time)

/-- What happens between two awaits. -/
inductive Event (I : Type*)
  /-- Shares are bought or sold. -/
  | trade (held : String→ℕ)
  /-- A check begins; the other conditions of the loop only skip one. -/
  | start (c : Caller I) (now : ℚ)
  /-- The Korean balance comes. -/
  | readKr (c : Caller I) (answer : List Position)
  /-- A balance cannot be read. -/
  | fail (c : Caller I)
  /-- The American balance or the table of holdings comes, empty where the table
  cannot be read, and the loss is calculated. -/
  | readLast (c : Caller I) (answer : List Position) (now : ℚ)
  /-- The next order of a batch is sent. -/
  | order (c : Caller I) (now : ℚ)
  /-- All orders have been sent. -/
  | ordered (c : Caller I)
  /-- The alert has been sent or has failed. -/
  | alerted (c : Caller I)
  /-- The event has been recorded or not, and the cooldown is set. -/
  | recorded (c : Caller I) (now : ℚ)

variable {I : Type*} [DecidableEq I]

/-- A check moves to a place. -/
def Monitor.move (s : Monitor I) (c : Caller I) (place : Place) : Monitor I :=
  {s with place := Function.update s.place c place}

/-- A trigger is found and its batch made. -/
def Monitor.trigger (settings : Settings) (s : Monitor I) (c : Caller I)
    (positions : List Position) (now : ℚ) : Monitor I :=
  {s.move c (.ordering (settings.ordersToSend positions)) with
    clock := now
    batches := ⟨now,s.held⟩::s.batches}

/-- An order of a batch is sent. -/
def Monitor.send (s : Monitor I) (c : Caller I) (o : SellOrder) (left : List SellOrder) (now : ℚ) :
    Monitor I :=
  {s.move c (.ordering left) with
    clock := now
    sent := ⟨now,o.ticker,o.quantity⟩::s.sent}

/-- The end of `_handle_trigger`. -/
def Monitor.beginCooldown (s : Monitor I) (c : Caller I) (now : ℚ) : Monitor I :=
  {s.move c .idle with
    clock := now
    cooldownUntil := some (now+cooldown)}

/-- The end of `run_check` when its positions are known: without positions, or
without a trigger, nothing happens. -/
def Monitor.evaluate (settings : Settings) (s : Monitor I) (c : Caller I)
    (positions : List Position) (now : ℚ) : Monitor I :=
  if positions≠[] ∧ settings.isTriggered positions=true then s.trigger settings c positions now
  else {s.move c .idle with clock := now}

/-- One step of the checks. -/
def step (settings : Settings) (s : Monitor I) : Event I→Option (Monitor I)
  | .trade held => some {s with held := held}
  | .start c now =>
    if s.place c=.idle ∧ s.clock≤now ∧ (c=.loop→s.isInCooldown now=false) then
      some {s.move c (if settings.kisClient then .readingKr else .readingDb) with clock := now}
    else none
  | .readKr c answer => if s.place c=.readingKr then some (s.move c (.readingUs answer)) else none
  | .fail c =>
    match s.place c with
    | .readingKr => some (s.move c .readingDb)
    | .readingUs _ => some (s.move c .readingDb)
    | _ => none
  | .readLast c answer now =>
    match (s.place c).positions answer with
    | none => none
    | some positions => if s.clock≤now then some (s.evaluate settings c positions now) else none
  | .order c now =>
    match s.place c with
    | .ordering (o::left) => if s.clock≤now then some (s.send c o left now) else none
    | _ => none
  | .ordered c => if s.place c=.ordering [] then some (s.move c .alerting) else none
  | .alerted c => if s.place c=.alerting then some (s.move c .recording) else none
  | .recorded c now =>
    if s.place c=.recording ∧ s.clock≤now then some (s.beginCooldown c now) else none

/-- The quantity of a ticker among some positions. -/
def quantityOf (positions : List Position) (ticker : String) : ℕ :=
  (positions.map fun p => if p.ticker=ticker then p.quantity else 0).sum

/-- A trigger finds no other one being handled and no cooldown, and has read no more
shares than are held. -/
structure TriggerAlone (s : Monitor I) (positions : List Position) (now : ℚ) : Prop where
  /-- No trigger is being handled. -/
  alone : ∀ c,(s.place c).pending=none
  /-- The cooldown has passed. -/
  passed : s.isInCooldown now=false
  /-- The positions are held. -/
  held : ∀ p∈positions,quantityOf positions p.ticker≤ s.held p.ticker

/-- Every check that finds a trigger finds it alone. -/
def TriggersAlone (settings : Settings) (s : Monitor I) : Event I→Prop
  | .readLast c answer now =>
    ∀ positions∈(s.place c).positions answer,positions≠[]→settings.isTriggered positions=true→
      TriggerAlone s positions now
  | _ => True

/-- The quantity of a ticker that was sent within a cooldown from a time on. -/
def sentWithin (sent : List Sent) (start : ℚ) (ticker : String) : ℕ :=
  (sent.map fun o => if start≤o.time ∧ o.time< start+cooldown ∧ o.ticker=ticker then o.quantity
    else 0).sum

/-- What the defensive ratio leaves to sell of a quantity. -/
def sellable (quantity : ℕ) : ℚ := quantity-defensiveStockRatio*quantity

/-- What the monitor promises: batches are a cooldown apart, and the orders within a
cooldown from a batch on sell no more of a ticker than the defensive ratio leaves
of the shares held at its start. -/
structure Defended (s : Monitor I) : Prop where
  /-- The batches are apart. -/
  spaced : Spaced cooldown (s.batches.map Batch.start)
  /-- The orders are covered. -/
  covered : ∀ b∈s.batches,∀ ticker,
    (sentWithin s.sent b.start ticker : ℚ)≤ sellable (b.held ticker)

end Aqts.EmergencyMonitor
