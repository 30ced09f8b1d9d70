import Mathlib.Algebra.Order.Ring.Rat
import Aqts.Dictionary
import Aqts.PandasSeries

/-!
# Graceful shutdown

`GracefulShutdownManager` on one event loop. A call of `shutdown` gives the loop back at
each `await`: while it sleeps between two polls of the pending orders, while it waits for
a cancelled task, and while a service stops or a callback cleans up. Between two of these
points it runs alone; at them orders complete, tasks end, and further calls come in any
order. Log lines, the two times in the result and the start times of the orders are left
out.
-/

namespace Aqts.GracefulShutdown

open Dictionary PandasSeries

/-- `ShutdownPhase`. -/
inductive ShutdownPhase
  | running | draining | stoppingServices | cleanup | completed
  deriving DecidableEq

/-- How what is awaited ends. -/
inductive Ending
  /-- It returns. -/
  | returned
  /-- `asyncio.TimeoutError`, which a wait raises after its time. -/
  | timedOut
  /-- `asyncio.CancelledError`, which is no `Exception`. -/
  | cancelled
  /-- Any other exception. -/
  | failed
  deriving DecidableEq

/-- `PendingOrder`. -/
structure PendingOrder (T : Type*) where
  /-- `order_id`. -/
  orderId : String
  /-- `ticker`. -/
  ticker : String
  /-- `task`. -/
  task : Option T

/-- `GracefulShutdownManager`. -/
structure GracefulShutdownManager (T C : Type*) where
  /-- `_phase`. -/
  phase : ShutdownPhase
  /-- `_services`. -/
  services : List (String×C)
  /-- `_pending_orders`. -/
  pendingOrders : Dict String (PendingOrder T)
  /-- `_accepting_orders`. -/
  acceptingOrders : Bool
  /-- `_shutdown_event` is set. -/
  shutdownEvent : Bool
  /-- `_cleanup_callbacks`. -/
  cleanupCallbacks : List C

variable {T C : Type*}

/-- `__init__`. -/
def GracefulShutdownManager.init : GracefulShutdownManager T C where
  phase := .running
  services := []
  pendingOrders := .empty
  acceptingOrders := true
  shutdownEvent := false
  cleanupCallbacks := []

/-- `register_service`. -/
def GracefulShutdownManager.registerService (m : GracefulShutdownManager T C) (name : String)
    (stopCoro : C) : GracefulShutdownManager T C :=
  { m with services := m.services++[(name,stopCoro)] }

/-- `register_cleanup`. -/
def GracefulShutdownManager.registerCleanup (m : GracefulShutdownManager T C) (cleanupCoro : C) :
    GracefulShutdownManager T C :=
  { m with cleanupCallbacks := m.cleanupCallbacks++[cleanupCoro] }

/-- `register_pending_order`: the answer and the manager after it. -/
def GracefulShutdownManager.registerPendingOrder (m : GracefulShutdownManager T C)
    (orderId ticker : String) (task : Option T) : Bool×GracefulShutdownManager T C :=
  if m.acceptingOrders=false then (false,m)
  else (true,{ m with pendingOrders := m.pendingOrders.set orderId ⟨orderId,ticker,task⟩ })

/-- `complete_pending_order`. -/
def GracefulShutdownManager.completePendingOrder (m : GracefulShutdownManager T C)
    (orderId : String) : GracefulShutdownManager T C :=
  { m with pendingOrders := m.pendingOrders.filter fun key _ => decide (key≠orderId) }

/-- A coroutine that `shutdown` has called. -/
inductive Call (C : Type*)
  /-- The stop of a service. -/
  | stop (name : String) (stopCoro : C)
  /-- A cleanup callback. -/
  | cleanup (cleanupCoro : C)

/-- The result of `shutdown`. -/
structure Results where
  /-- `services_stopped`. -/
  servicesStopped : List String
  /-- `orders_drained`. -/
  ordersDrained : ℤ
  /-- `orders_cancelled`. -/
  ordersCancelled : ℤ

/-- Where the call of `shutdown` stands, with the local variables of that place. -/
inductive Point (T C : Type*)
  /-- There is no call yet. -/
  | idle
  /-- It sleeps in the loop of `_drain_pending_orders`. -/
  | draining (timeout : Value ℚ) (initialCount elapsed : ℕ)
  /-- It waits for a task in the loop of `_cancel_remaining_orders`. -/
  | cancelling (task : T) (rest : List (PendingOrder T)) (cancelled : ℕ)
  /-- It waits for the stop of a service. -/
  | stopping (name : String) (rest : List (String×C))
  /-- It waits for a cleanup callback. -/
  | cleaning (rest : List C)
  /-- It has returned. -/
  | returned
  /-- It has raised. -/
  | raised

/-- The manager, the tasks, and the call of `shutdown`. -/
structure World (T C : Type*) where
  /-- The manager. -/
  manager : GracefulShutdownManager T C
  /-- How each task has ended, or that it has not. -/
  tasks : T→Option Ending
  /-- Tasks on which `cancel` was called. -/
  cancels : List T
  /-- Coroutines that were called. -/
  calls : List (Call C)
  /-- The result so far. -/
  results : Results
  /-- Where the call stands. -/
  point : Point T C

/-- The world before any call of `shutdown`. -/
def World.start (m : GracefulShutdownManager T C) (tasks : T→Option Ending) : World T C where
  manager := m
  tasks := tasks
  cancels := []
  calls := []
  results := ⟨[],0,0⟩
  point := .idle

/-- The loop over the cleanup callbacks that are left, and the end of `shutdown`. -/
def runCleanup (w : World T C) : List C→World T C
  | cb::rest => { w with calls := w.calls++[.cleanup cb], point := .cleaning rest }
  | [] =>
    { w with
      manager := { w.manager with phase := .completed, shutdownEvent := true }
      point := .returned }

/-- The loop over the services that are left, and what follows it. -/
def stopServices (w : World T C) : List (String×C)→World T C
  | (name,stopCoro)::rest =>
    { w with calls := w.calls++[.stop name stopCoro], point := .stopping name rest }
  | [] =>
    runCleanup { w with manager := { w.manager with phase := .cleanup } } w.manager.cleanupCallbacks

/-- The second phase of `shutdown` and what follows it. -/
def enterStopping (w : World T C) : World T C :=
  stopServices { w with manager := { w.manager with phase := .stoppingServices } }
    w.manager.services.reverse

/-- The loop of `_cancel_remaining_orders` over the orders that are left, and what
follows it. A task that is done is not awaited. -/
def cancelRemainingOrders (w : World T C) (cancelled : ℕ) : List (PendingOrder T)→World T C
  | [] =>
    enterStopping { w with
      manager := { w.manager with pendingOrders := .empty }
      results := { w.results with ordersCancelled := cancelled } }
  | pending::rest =>
    match pending.task with
    | none => cancelRemainingOrders w (cancelled+1) rest
    | some task =>
      match w.tasks task with
      | some _ => cancelRemainingOrders w (cancelled+1) rest
      | none =>
        { w with cancels := w.cancels++[task], point := .cancelling task rest cancelled }

/-- `results["orders_drained"]=drained`. -/
def World.withDrained (w : World T C) (drained : ℤ) : World T C :=
  { w with results := { w.results with ordersDrained := drained } }

/-- Only the result changes. -/
@[simp] theorem World.withDrained_manager (w : World T C) (drained : ℤ) :
    (w.withDrained drained).manager=w.manager := rfl

/-- `shutdown` after `_drain_pending_orders` has returned. -/
def afterDrain (w : World T C) (drained : ℤ) : World T C :=
  if w.manager.pendingOrders.items.isEmpty=true then enterStopping (w.withDrained drained)
  else cancelRemainingOrders (w.withDrained drained) 0 w.manager.pendingOrders.values

/-- `elapsed+=1.0` on a double that is a whole number: from `2^53` on the sum rounds back. -/
def addPollInterval (elapsed : ℕ) : ℕ := if elapsed < 2^53 then elapsed+1 else elapsed

/-- `elapsed<timeout`. -/
def isBefore (elapsed : ℕ) (timeout : Value ℚ) : Bool := (Value.number (elapsed : ℚ)).below timeout

/-- The loop of `_drain_pending_orders`, and what follows it. -/
def drainLoop (w : World T C) (timeout : Value ℚ) (initialCount elapsed : ℕ) : World T C :=
  if w.manager.pendingOrders.items.isEmpty=false ∧ isBefore elapsed timeout=true then
    { w with point := .draining timeout initialCount elapsed }
  else afterDrain w ((initialCount : ℤ)-w.manager.pendingOrders.items.length)

/-- `_drain_pending_orders`, and what follows it. -/
def drainPendingOrders (w : World T C) (timeout : Value ℚ) : World T C :=
  if w.manager.pendingOrders.items.isEmpty=true then afterDrain w 0
  else drainLoop w timeout w.manager.pendingOrders.items.length 0

/-- `shutdown` up to its first `await` that gives the loop back. A duplicate call answers
`already_in_progress` and changes nothing. -/
def shutdown (w : World T C) (timeout : Value ℚ) : World T C :=
  if w.manager.phase≠.running then w
  else
    drainPendingOrders
      { w with manager := { w.manager with phase := .draining, acceptingOrders := false } } timeout

/-- The loop comes back to the call. A wait for a task ends as the task has, or in its
timeout while the task goes on; how any other wait ends is given. -/
def resume (w : World T C) (ending : Ending) : World T C :=
  match w.point with
  | .draining timeout initialCount elapsed =>
    drainLoop w timeout initialCount (addPollInterval elapsed)
  | .cancelling task rest cancelled =>
    match w.tasks task with
    | some .failed => { w with point := .raised }
    | _ => cancelRemainingOrders w (cancelled+1) rest
  | .stopping name rest =>
    match ending with
    | .returned =>
      stopServices
        { w with results :=
            { w.results with servicesStopped := w.results.servicesStopped++[name] } } rest
    | .timedOut | .failed => stopServices w rest
    | .cancelled => { w with point := .raised }
  | .cleaning rest =>
    match ending with
    | .cancelled => { w with point := .raised }
    | _ => runCleanup w rest
  | .idle | .returned | .raised => w

/-- What happens on the loop. -/
inductive Event (T : Type*)
  /-- A call of `complete_pending_order`. -/
  | completePendingOrder (orderId : String)
  /-- A call of `register_pending_order`. -/
  | registerPendingOrder (orderId ticker : String) (task : Option T)
  /-- A call of `shutdown`. -/
  | shutdown (timeout : Value ℚ)
  /-- A task ends. -/
  | taskEnds (task : T) (ending : Ending)
  /-- The loop comes back to the call of `shutdown`. -/
  | resume (ending : Ending)

/-- One event. A task ends once. -/
def step [DecidableEq T] (w : World T C) : Event T→World T C
  | .completePendingOrder orderId =>
    { w with manager := w.manager.completePendingOrder orderId }
  | .registerPendingOrder orderId ticker task =>
    { w with manager := (w.manager.registerPendingOrder orderId ticker task).2 }
  | .shutdown timeout => GracefulShutdown.shutdown w timeout
  | .taskEnds task ending =>
    if w.tasks task=none then
      { w with tasks := Function.update w.tasks task (some ending) }
    else w
  | .resume ending => GracefulShutdown.resume w ending

end Aqts.GracefulShutdown
