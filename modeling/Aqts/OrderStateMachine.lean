import Aqts.OrderTypes
import Mathlib.Data.List.Basic

/-!
# Order status transitions

`core.order_executor.order_state_machine`: the transition table, the terminal
and the cancellable states, the two assertions and the parser of a stored
status text.
-/

namespace Aqts.OrderStateMachine

open OrderTypes

/-- `VALID_ORDER_TRANSITIONS`. -/
def validOrderTransitions : OrderStatus→List OrderStatus
  | .pending => [.submitted,.cancelled,.failed]
  | .submitted => [.partialFill,.filled,.cancelled,.failed]
  | .partialFill => [.filled,.cancelled,.failed]
  | .filled => []
  | .cancelled => []
  | .failed => []

/-- `TERMINAL_ORDER_STATES`. -/
def terminalOrderStates : List OrderStatus := [.filled,.cancelled,.failed]

/-- `CANCELLABLE_ORDER_STATES`. -/
def cancellableOrderStates : List OrderStatus := [.pending,.submitted,.partialFill]

/-- `is_terminal_order_state`. -/
def isTerminalOrderState (status : OrderStatus) : Bool := terminalOrderStates.contains status

/-- `can_transition_order`. -/
def canTransitionOrder (fromState toState : OrderStatus) : Bool :=
  (validOrderTransitions fromState).contains toState

/-- `InvalidOrderTransition`. -/
structure InvalidOrderTransition where
  /-- Status before the refused transition. -/
  fromState : OrderStatus
  /-- Status asked for. -/
  toState : OrderStatus
  /-- Order concerned, if known. -/
  orderId : Option String
  deriving DecidableEq

/-- Text of the exception. -/
def InvalidOrderTransition.message (e : InvalidOrderTransition) : String :=
  "허용되지 않은 주문 상태 전이: "++e.fromState.value++" → "++e.toState.value++
    match e.orderId with
    | none => ""
    | some orderId => if orderId="" then "" else " (order_id="++orderId++")"

/-- `assert_order_transition`. -/
def assertOrderTransition (fromState toState : OrderStatus) (orderId : Option String) :
    Except InvalidOrderTransition Unit :=
  if canTransitionOrder fromState toState=true then .ok ()
  else .error ⟨fromState,toState,orderId⟩

/-- `assert_can_cancel`. -/
def assertCanCancel (currentStatus : OrderStatus) (orderId : Option String) :
    Except InvalidOrderTransition Unit :=
  if cancellableOrderStates.contains currentStatus=true then .ok ()
  else .error ⟨currentStatus,.cancelled,orderId⟩

/-- `parse_order_status`; an unknown text raises `ValueError`. -/
def parseOrderStatus (raw : String) : Option OrderStatus :=
  [OrderStatus.pending,.submitted,.partialFill,.filled,.cancelled,.failed].find?
    (fun status => status.value=raw)

/-- A status is the parse of its own text only. -/
theorem parseOrderStatus_eq_some {raw : String} {status : OrderStatus} :
    parseOrderStatus raw=some status ↔ raw=status.value := by
  constructor
  · intro h
    have hv := List.find?_some h
    simpa using (of_decide_eq_true hv).symm
  · rintro rfl
    cases status <;> rfl

/-- The terminal states are those without a successor. -/
theorem isTerminalOrderState_iff (status : OrderStatus) :
    isTerminalOrderState status=true ↔ validOrderTransitions status=[] := by
  cases status <;> decide

/-- The cancellable states are those from which the table leads to
`CANCELLED`, so `assert_can_cancel` agrees with the transition table. -/
theorem assertCanCancel_eq (status : OrderStatus) (orderId : Option String) :
    assertCanCancel status orderId=assertOrderTransition status .cancelled orderId := by
  cases status <;> rfl

/-- No status is its own successor. -/
theorem canTransitionOrder_irrefl (status : OrderStatus) :
    canTransitionOrder status status=false := by
  cases status <;> rfl

end Aqts.OrderStateMachine
