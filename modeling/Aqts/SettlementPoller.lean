import Aqts.OrderStateMachine
import Aqts.OrdersTable
import Mathlib.Data.List.Sort
import Mathlib.Data.Rat.Floor

/-!
# Settlement of submitted orders

`core.order_executor.settlement_poller` and `ws_execution_handler`: fill
reports reach the `orders` table from execution records of the broker, read
by a poll or by the end-of-day reconciliation, and from websocket notices.
All of them go through `_update_order_status`, a compare-and-set on the
status text. An exception leaves the table unchanged.
-/

namespace Aqts.SettlementPoller

open OrderTypes OrderStateMachine OrdersTable

/-- A numeric field of a broker record, as Python's `int` or `float` reads it. -/
inductive NumText (α : Type)
  /-- Missing or empty, read as zero. -/
  | blank
  /-- The text of a number. -/
  | number (value : α)
  /-- A text that raises `ValueError`. -/
  | malformed
  deriving DecidableEq

/-- Value of a numeric field. -/
def NumText.read {α : Type} [Zero α] : NumText α→Option α
  | .blank => some 0
  | .number value => some value
  | .malformed => none

/-- An execution record of the broker; a missing text field is empty. -/
structure CcldRecord where
  /-- `ODNO`, order number. -/
  odno : String
  /-- `PDNO`, ticker. -/
  pdno : String
  /-- `ORD_QTY`, ordered quantity of a domestic order. -/
  ordQty : NumText ℤ
  /-- `TOT_CCLD_QTY`, filled quantity of a domestic order. -/
  totCcldQty : NumText ℤ
  /-- `AVG_PRVS`, average price of a domestic order. -/
  avgPrvs : NumText ℚ
  /-- `FT_ORD_QTY`, ordered quantity of a foreign order. -/
  ftOrdQty : NumText ℤ
  /-- `FT_CCLD_QTY`, filled quantity of a foreign order. -/
  ftCcldQty : NumText ℤ
  /-- `FT_CCLD_UNPR3`, price of a foreign order. -/
  ftCcldUnpr3 : NumText ℚ
  deriving DecidableEq

/-- The two tests of `_match_ccld_record` on one record: the order number, and
the ticker. -/
def matchesOrder (orderId ticker : String) (record : CcldRecord) : Bool :=
  (orderId≠"" && record.odno≠"" && orderId=record.odno) || record.pdno=ticker

/-- `_match_ccld_record`: the first record that passes either test. -/
def matchCcldRecord (records : List CcldRecord) (orderId ticker : String) : Option CcldRecord :=
  records.find? (matchesOrder orderId ticker)

/-- What a fill report says about an order. -/
structure Fill where
  /-- Status the order should get. -/
  status : OrderStatus
  /-- Cumulative filled quantity. -/
  quantity : ℤ
  /-- Average price. -/
  price : ℚ
  deriving DecidableEq

/-- Status of an order from its filled and ordered quantities. -/
def ccldFill (ordQty ccldQty : ℤ) (price : ℚ) : Fill :=
  if ccldQty≤0 then ⟨.submitted,0,0⟩
  else if ordQty ≤ ccldQty then ⟨.filled,ccldQty,price⟩
  else ⟨.partialFill,ccldQty,price⟩

/-- `_parse_ccld_status`; none when a number cannot be read. -/
def parseCcldStatus (record : CcldRecord) (market : String) : Option Fill :=
  if market="KRX" then do
    return ccldFill (← record.ordQty.read) (← record.totCcldQty.read) (← record.avgPrvs.read)
  else do
    return ccldFill (← record.ftOrdQty.read) (← record.ftCcldQty.read) (← record.ftCcldUnpr3.read)

/-- Exceptions of `_update_order_status`. -/
inductive UpdateError
  /-- `ValueError` of `parse_order_status`. -/
  | unknownStatus (raw : String)
  /-- `InvalidOrderTransition`. -/
  | invalidTransition (error : InvalidOrderTransition)
  deriving DecidableEq

/-- The checks of `_update_order_status` on the status read before: whether
the UPDATE is sent. -/
def updateAllowed (orderId current : String) (newStatus : OrderStatus) : Except UpdateError Bool :=
  match parseOrderStatus current with
  | none => .error (.unknownStatus current)
  | some currentStatus =>
    if isTerminalOrderState currentStatus=true then .ok false
    else if currentStatus=newStatus ∧ newStatus=.submitted then .ok false
    else
      match assertOrderTransition currentStatus newStatus (some orderId) with
      | .error error => .error (.invalidTransition error)
      | .ok () => .ok true

/-- The SET clause of the UPDATE; `filled_at` is kept unless the order fills. -/
def settledRow (now : ℚ) (fill : Fill) (row : OrderRow) : OrderRow :=
  {row with
    status := fill.status.value
    filledQuantity := fill.quantity
    filledPrice := fill.price
    filledAt := if fill.status=.filled then some now else row.filledAt}

/-- The UPDATE of `_update_order_status`, guarded by the status read before. -/
def compareAndSet (now : ℚ) (current : String) (fill : Fill) : RowChange where
  apply := fun row => if row.status=current then settledRow now fill row else row
  keeps := by
    intro row
    split <;> rfl

/-- The guarded UPDATE on a row that still has the status read before. -/
theorem compareAndSet_hit (now : ℚ) {current : String} (fill : Fill) {row : OrderRow}
    (h : row.status=current) :
    (compareAndSet now current fill).apply row=settledRow now fill row := if_pos h

/-- The guarded UPDATE on a row whose status has changed since. -/
theorem compareAndSet_miss (now : ℚ) {current : String} (fill : Fill) {row : OrderRow}
    (h : row.status≠current) : (compareAndSet now current fill).apply row=row := if_neg h

/-- `_update_order_status`: whether a row was updated, and the table. -/
def updateOrderStatus (now : ℚ) (orderId current : String) (fill : Fill) (t : Table) :
    Except UpdateError (Bool×Table) :=
  match updateAllowed orderId current fill.status with
  | .error error => .error error
  | .ok false => .ok (false,t)
  | .ok true => .ok (t.rows.any (fun row => row.orderId=orderId && row.status=current),
      t.update orderId (compareAndSet now current fill))

/-- Whether a poll goes on. -/
inductive PollVerdict
  | stop | retry
  deriving DecidableEq

/-- One attempt of `poll_after_execution`, with the records the broker
returned. A failed fetch returns none of them. -/
def pollAttempt (now : ℚ) (records : List CcldRecord) (orderId ticker market : String)
    (t : Table) : PollVerdict×Table :=
  match t.find orderId with
  | none => (.stop,t)
  | some row =>
    match parseOrderStatus row.status with
    | none => (.retry,t)
    | some current =>
      if isTerminalOrderState current=true then (.stop,t)
      else
        match matchCcldRecord records orderId ticker with
        | none => (.retry,t)
        | some record =>
          match parseCcldStatus record market with
          | none => (.retry,t)
          | some fill =>
            if fill.status=.submitted then (.retry,t)
            else
              match updateOrderStatus now orderId row.status fill t with
              | .error _ => (.retry,t)
              | .ok updated => (.stop,updated.2)

/-- `poll_after_execution` over the answers of its attempts. -/
def pollAfterExecution (orderId ticker market : String) :
    List (ℚ×List CcldRecord)→Table→Table
  | [],t => t
  | (now,records)::answers,t =>
    match pollAttempt now records orderId ticker market t with
    | (.stop,t') => t'
    | (.retry,t') => pollAfterExecution orderId ticker market answers t'

/-- Calendar day of an instant. -/
def dateOf (instant : ℚ) : ℤ := ⌊instant/86400⌋

/-- The SELECT of `reconcile_all_submitted`. -/
def submittedToday (now : ℚ) (t : Table) : List OrderRow :=
  (t.rows.filter fun row => row.status="SUBMITTED" && dateOf row.createdAt=dateOf now).insertionSort
    (fun a b => a.createdAt≤b.createdAt)

/-- The broker's answers of one reconciliation, one for each market key. -/
structure MarketRecords where
  /-- Domestic records. -/
  krx : List CcldRecord
  /-- Foreign records. -/
  us : List CcldRecord

/-- Records used for an order of a market. -/
def MarketRecords.of (records : MarketRecords) (market : String) : List CcldRecord :=
  if market="KRX" then records.krx else records.us

/-- Counters returned by `reconcile_all_submitted`. -/
structure Stats where
  /-- Orders looked at. -/
  checked : ℕ
  /-- Rows updated. -/
  updated : ℕ
  /-- Orders that raised. -/
  errors : ℕ
  deriving DecidableEq

/-- One order of the reconciliation. -/
def reconcileOne (now : ℚ) (records : MarketRecords) (acc : Table×Stats) (order : OrderRow) :
    Table×Stats :=
  let stats := {acc.2 with checked := acc.2.checked+1}
  match matchCcldRecord (records.of order.market) order.orderId order.ticker with
  | none => (acc.1,stats)
  | some record =>
    match parseCcldStatus record order.market with
    | none => (acc.1,{stats with errors := stats.errors+1})
    | some fill =>
      if fill.status=.submitted then (acc.1,stats)
      else
        match updateOrderStatus now order.orderId order.status fill acc.1 with
        | .error _ => (acc.1,{stats with errors := stats.errors+1})
        | .ok (updated,t) => (t,if updated=true then {stats with updated := stats.updated+1} else stats)

/-- `reconcile_all_submitted`. -/
def reconcileAllSubmitted (now : ℚ) (records : MarketRecords) (t : Table) : Table×Stats :=
  (submittedToday now t).foldl (reconcileOne now records) (t,⟨0,0,0⟩)

/-- A websocket execution notice (`RealtimeExecutionNotice`). -/
structure Notice where
  /-- Broker order number. -/
  orderNo : String
  /-- Ticker symbol. -/
  ticker : String
  /-- Filled quantity. -/
  filledQty : ℤ
  /-- Fill price. -/
  filledPrice : ℚ
  /-- Ordered quantity. -/
  orderQty : ℤ
  /-- A fill, and not a receipt, correction, cancellation or rejection. -/
  isFilled : Bool
  /-- A rejection. -/
  isRejected : Bool
  deriving DecidableEq

/-- `_find_order_by_kis_order_no`: by number, else the newest submitted order of
the ticker. -/
def findOrderByKisOrderNo (kisOrderNo ticker : String) (t : Table) : Option OrderRow :=
  match t.find kisOrderNo with
  | some row => some row
  | none =>
    ((t.rows.filter fun row => row.ticker=ticker && row.status="SUBMITTED").insertionSort
      (fun a b => b.createdAt≤a.createdAt)).head?

/-- What a notice says about its order; none when nothing is filled. -/
def noticeFill (notice : Notice) : Option Fill :=
  if 0<notice.orderQty ∧ notice.orderQty≤notice.filledQty then
    some ⟨.filled,notice.filledQty,notice.filledPrice⟩
  else if 0<notice.filledQty then some ⟨.partialFill,notice.filledQty,notice.filledPrice⟩
  else none

/-- `handle_execution_notice`. -/
def handleExecutionNotice (now : ℚ) (notice : Notice) (t : Table) : Except UpdateError Table :=
  if notice.isFilled=false then .ok t
  else if notice.isRejected=true then .ok t
  else
    match findOrderByKisOrderNo notice.orderNo notice.ticker t with
    | none => .ok t
    | some row =>
      match noticeFill notice with
      | none => .ok t
      | some fill => (updateOrderStatus now row.orderId row.status fill t).map Prod.snd

/-- A report with a fill is a complete or a partial one. -/
theorem ccldFill_status {ordQty ccldQty : ℤ} {price : ℚ}
    (h : (ccldFill ordQty ccldQty price).status≠.submitted) :
    (ccldFill ordQty ccldQty price).status=.filled ∨
      (ccldFill ordQty ccldQty price).status=.partialFill := by
  unfold ccldFill at h ⊢
  split
  · rename_i hle
    rw [if_pos hle] at h
    exact absurd rfl h
  · split
    · exact .inl rfl
    · exact .inr rfl

/-- A parsed record is the fill of some quantities. -/
theorem parseCcldStatus_eq_some {record : CcldRecord} {market : String} {fill : Fill}
    (h : parseCcldStatus record market=some fill) :
    ∃ ordQty ccldQty price,fill=ccldFill ordQty ccldQty price := by
  unfold parseCcldStatus at h
  split at h
  · simp only [Option.pure_def,Option.bind_eq_bind,Option.bind_eq_some_iff,Option.some.injEq] at h
    obtain ⟨ordQty,_,ccldQty,_,price,_,rfl⟩ := h
    exact ⟨ordQty,ccldQty,price,rfl⟩
  · simp only [Option.pure_def,Option.bind_eq_bind,Option.bind_eq_some_iff,Option.some.injEq] at h
    obtain ⟨ordQty,_,ccldQty,_,price,_,rfl⟩ := h
    exact ⟨ordQty,ccldQty,price,rfl⟩

/-- A notice with a fill is a complete or a partial one. -/
theorem noticeFill_status {notice : Notice} {fill : Fill} (h : noticeFill notice=some fill) :
    fill.status=.filled ∨ fill.status=.partialFill := by
  unfold noticeFill at h
  split at h
  · cases h
    exact .inl rfl
  · split at h
    · cases h
      exact .inr rfl
    · cases h

/-- `_update_order_status` sends its UPDATE only along the transition table. -/
theorem updateAllowed_eq_true {orderId current : String} {newStatus : OrderStatus}
    (h : updateAllowed orderId current newStatus=.ok true) :
    ∃ currentStatus,parseOrderStatus current=some currentStatus ∧
      canTransitionOrder currentStatus newStatus=true := by
  unfold updateAllowed at h
  split at h
  · cases h
  · rename_i currentStatus hp
    refine ⟨currentStatus,hp,?_⟩
    split at h
    · cases h
    · split at h
      · cases h
      · by_contra hc
        rw [assertOrderTransition,if_neg hc] at h
        cases h

/-- A status that is terminal or cannot be read is never updated. -/
theorem updateAllowed_stuck {orderId current : String} {newStatus : OrderStatus}
    (h : ∀ status,parseOrderStatus current=some status→isTerminalOrderState status=true) :
    updateAllowed orderId current newStatus≠.ok true := by
  intro hu
  obtain ⟨status,hp,hc⟩ := updateAllowed_eq_true hu
  have hnone := (isTerminalOrderState_iff status).mp (h status hp)
  rw [canTransitionOrder,hnone] at hc
  cases hc

end Aqts.SettlementPoller
