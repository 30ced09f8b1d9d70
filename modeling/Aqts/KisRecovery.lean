import Aqts.GuardedRuns
import Aqts.SpacedTimes
import Mathlib.Algebra.Order.Ring.Rat
import Mathlib.Data.List.Infix
import Mathlib.Logic.Function.Basic
import Mathlib.Tactic.Linarith

/-!
# Recovery of a degraded KIS client

`KISRecoveryState` and `try_recover_kis`. Calls check the cooldown, wait for
the lock, check again and make a client while they hold the lock, so that the
check that admits an attempt is never separated from its start. A failed
attempt sends an alert once in an incident, also under the lock.

The client factory and the alert callback return or raise an exception at any
later moment; the callback leaves the state alone.
-/

namespace Aqts.KisRecovery

open GuardedRuns SpacedTimes

/-- Settings of the state, which nothing changes. -/
structure Settings where
  /-- `cooldown_seconds`. -/
  cooldownSeconds : ℤ
  /-- `alert_threshold`. -/
  alertThreshold : ℤ

/-- `KISRecoveryState` without its settings and its lock. -/
structure RecoveryState where
  /-- `degraded`. -/
  degraded : Bool
  /-- `next_attempt_at`, in seconds. -/
  nextAttemptAt : Option ℚ
  /-- `last_error`. -/
  lastError : Option String
  /-- `attempt_count`. -/
  attemptCount : ℕ
  /-- `recovery_count`. -/
  recoveryCount : ℕ
  /-- `consecutive_failures`. -/
  consecutiveFailures : ℕ
  /-- `alert_dispatched`. -/
  alertDispatched : Bool

/-- The defaults of the fields. -/
def RecoveryState.fresh : RecoveryState := ⟨false,none,none,0,0,0,false⟩

/-- What a client factory raises. -/
inductive FactoryError
  /-- `KISAPIError`. -/
  | api (code message : String)
  /-- Any other exception, with the name of its type. -/
  | other (typeName message : String)

/-- The text kept as `last_error`. -/
def FactoryError.text : FactoryError→String
  | .api code message => code++": "++message
  | .other typeName message => typeName++": "++message

/-- `now+timedelta(seconds=cooldown_seconds)`. -/
def Settings.after (settings : Settings) (now : ℚ) : ℚ := now+settings.cooldownSeconds

/-- `mark_degraded`. -/
def RecoveryState.markDegraded (settings : Settings) (error : String) (now : ℚ)
    (state : RecoveryState) : RecoveryState :=
  {state with
    degraded := true
    lastError := some error
    nextAttemptAt := some (settings.after now)}

/-- `mark_recovered`. -/
def RecoveryState.markRecovered (state : RecoveryState) : RecoveryState :=
  {state with
    degraded := false
    lastError := none
    nextAttemptAt := none
    recoveryCount := state.recoveryCount+1
    consecutiveFailures := 0
    alertDispatched := false}

/-- The branches of `try_recover_kis` for a factory that raised, where `current`
is the time at which the attempt was admitted. -/
def RecoveryState.markFailed (settings : Settings) (current : ℚ) (error : FactoryError)
    (state : RecoveryState) : RecoveryState :=
  {state with
    lastError := some error.text
    nextAttemptAt := some (settings.after current)
    consecutiveFailures := state.consecutiveFailures+1}

/-- The check of `try_recover_kis`, before the lock and again under it. -/
def RecoveryState.attemptDue (state : RecoveryState) (now : ℚ) : Bool :=
  state.degraded && match state.nextAttemptAt with
    | none => true
    | some time => decide (time≤now)

/-- The checks of `_maybe_dispatch_alert`. -/
def RecoveryState.alertDue (settings : Settings) (hasCallback : Bool) (state : RecoveryState) :
    Bool :=
  hasCallback && !state.alertDispatched &&
    decide (settings.alertThreshold≤ state.consecutiveFailures)

/-- Where a call of `try_recover_kis` is. -/
inductive Place (C : Type*)
  /-- The call has not begun. -/
  | idle
  /-- Past the first check, before the lock. -/
  | waiting (hasCallback : Bool)
  /-- In `client_factory`, holding the lock, admitted at a time. -/
  | making (current : ℚ) (hasCallback : Bool)
  /-- In `alert_callback`, holding the lock. -/
  | alerting
  /-- The call has returned. -/
  | returned (client : Option C)

/-- The call holds the lock. -/
def Place.holdsLock {C : Type*} : Place C→Bool
  | .making _ _ => true
  | .alerting => true
  | _ => false

/-- What has happened so far. -/
inductive Entry (I C : Type*)
  /-- `client_factory` was called, at a time. -/
  | started (call : I) (time : ℚ)
  /-- `client_factory` returned or raised. -/
  | ended (call : I) (outcome : Except FactoryError C)
  /-- `alert_callback` returned normally. -/
  | alerted (call : I)

/-- The entry is a success of the factory. -/
def Entry.isRecovery {I C : Type*} : Entry I C→Bool
  | .ended _ (.ok _) => true
  | _ => false

/-- The entry is a failure of the factory. -/
def Entry.isFailure {I C : Type*} : Entry I C→Bool
  | .ended _ (.error _) => true
  | _ => false

/-- The entry is an alert. -/
def Entry.isAlert {I C : Type*} : Entry I C→Bool
  | .alerted _ => true
  | _ => false

/-- The time at which the entry calls the factory. -/
def Entry.startTime? {I C : Type*} : Entry I C→Option ℚ
  | .started _ time => some time
  | _ => none

/-- The entries since the last success, newest first. -/
def incident {I C : Type*} (history : List (Entry I C)) : List (Entry I C) :=
  history.takeWhile fun e => !e.isRecovery

/-- The failures since the last success. -/
def failures {I C : Type*} (history : List (Entry I C)) : ℕ :=
  (incident history).countP Entry.isFailure

/-- The alerts since the last success. -/
def alerts {I C : Type*} (history : List (Entry I C)) : ℕ :=
  (incident history).countP Entry.isAlert

/-- The times at which the factory was called, newest first. -/
def starts {I C : Type*} (history : List (Entry I C)) : List ℚ :=
  history.filterMap Entry.startTime?

/-- The state with its lock, the calls, the clock and what has happened. -/
structure System (I C : Type*) where
  /-- `datetime.now()`, in seconds. -/
  clock : ℚ
  /-- The recovery state. -/
  state : RecoveryState
  /-- The lock is taken. -/
  locked : Bool
  /-- The calls. -/
  place : I→Place C
  /-- What has happened, newest first. -/
  history : List (Entry I C)

/-- A fresh state before any call. -/
def System.init (I C : Type*) (clock : ℚ) : System I C :=
  ⟨clock,.fresh,false,fun _ => .idle,[]⟩

/-- What happens between two awaits. -/
inductive Event (I C : Type*)
  /-- `mark_degraded` without a given time. -/
  | markDegraded (error : String) (now : ℚ)
  /-- A call begins and makes its first check. -/
  | call (i : I) (hasCallback : Bool) (now : ℚ)
  /-- A waiting call gets the lock and makes its second check. -/
  | acquire (i : I) (now : ℚ)
  /-- The factory of a call returns or raises. -/
  | made (i : I) (outcome : Except FactoryError C)
  /-- The callback of a call returns or raises. -/
  | notified (i : I) (ok : Bool)

variable {I C : Type*} [DecidableEq I]

/-- A call moves to a place. -/
def System.move (s : System I C) (i : I) (p : Place C) : System I C :=
  {s with place := Function.update s.place i p}

/-- A call returns from inside the lock. -/
def System.release (s : System I C) (i : I) (client : Option C) : System I C :=
  {s.move i (.returned client) with locked := false}

/-- A call starts the factory under the lock. -/
def System.begin (s : System I C) (i : I) (hasCallback : Bool) (now : ℚ) : System I C :=
  {s.move i (.making now hasCallback) with
    clock := now
    state := {s.state with attemptCount := s.state.attemptCount+1}
    locked := true
    history := .started i now::s.history}

/-- A call sees the end of its factory. -/
def System.record (s : System I C) (i : I) (outcome : Except FactoryError C)
    (state : RecoveryState) : System I C :=
  {s with
    state := state
    history := .ended i outcome::s.history}

/-- `_maybe_dispatch_alert` after a failed attempt of a call, which returns at
once when no alert is due. -/
def System.maybeDispatchAlert (settings : Settings) (s : System I C) (i : I)
    (hasCallback : Bool) : System I C :=
  if s.state.alertDue settings hasCallback then s.move i .alerting else s.release i none

/-- A call sees the normal end of its callback. -/
def System.dispatched (s : System I C) (i : I) : System I C :=
  {s with
    state := {s.state with alertDispatched := true}
    history := .alerted i::s.history}

/-- One step of the calls of `try_recover_kis` and `mark_degraded`. -/
def step (settings : Settings) (s : System I C) : Event I C→Option (System I C)
  | .markDegraded error now =>
    if s.clock≤now then
      some {s with clock := now,state := s.state.markDegraded settings error now}
    else none
  | .call i hasCallback now =>
    match s.place i with
    | .idle =>
      if s.clock≤now then
        if s.state.attemptDue now then some {s.move i (.waiting hasCallback) with clock := now}
        else some {s.move i (.returned none) with clock := now}
      else none
    | _ => none
  | .acquire i now =>
    match s.place i with
    | .waiting hasCallback =>
      if s.locked=false ∧ s.clock≤now then
        if s.state.attemptDue now then some (s.begin i hasCallback now)
        else some {s.move i (.returned none) with clock := now}
      else none
    | _ => none
  | .made i outcome =>
    match s.place i with
    | .making current hasCallback =>
      match outcome with
      | .ok client =>
        some ((s.record i (.ok client) s.state.markRecovered).release i (some client))
      | .error error =>
        some ((s.record i (.error error)
          (s.state.markFailed settings current error)).maybeDispatchAlert settings i hasCallback)
    | _ => none
  | .notified i ok =>
    match s.place i with
    | .alerting =>
      if ok then some ((s.dispatched i).release i none) else some (s.release i none)
    | _ => none

/-- What a step can do. -/
inductive Move (settings : Settings) (s : System I C) : System I C→Prop
  /-- The client is marked as degraded. -/
  | degraded (error : String) (now : ℚ) (hclock : s.clock≤now) :
      Move settings s {s with clock := now,state := s.state.markDegraded settings error now}
  /-- A call waits for the lock. -/
  | queued (i : I) (hasCallback : Bool) (now : ℚ) (hplace : s.place i=.idle)
      (hclock : s.clock≤now) : Move settings s {s.move i (.waiting hasCallback) with clock := now}
  /-- A call that holds no lock returns without an attempt. -/
  | refused (i : I) (now : ℚ) (hplace : ∀ client,s.place i≠.returned client)
      (hlock : (s.place i).holdsLock=false) (hclock : s.clock≤now) :
      Move settings s {s.move i (.returned none) with clock := now}
  /-- An attempt starts. -/
  | begun (i : I) (hasCallback : Bool) (now : ℚ) (hplace : s.place i=.waiting hasCallback)
      (hlock : s.locked=false) (hclock : s.clock≤now) (hdue : s.state.attemptDue now=true) :
      Move settings s (s.begin i hasCallback now)
  /-- An attempt succeeds. -/
  | succeeded (i : I) (current : ℚ) (hasCallback : Bool) (client : C)
      (hplace : s.place i=.making current hasCallback) :
      Move settings s ((s.record i (.ok client) s.state.markRecovered).release i (some client))
  /-- An attempt fails. -/
  | failed (i : I) (current : ℚ) (hasCallback : Bool) (error : FactoryError)
      (hplace : s.place i=.making current hasCallback) :
      Move settings s ((s.record i (.error error)
        (s.state.markFailed settings current error)).maybeDispatchAlert settings i hasCallback)
  /-- An alert has been sent. -/
  | alerted (i : I) (hplace : s.place i=.alerting) :
      Move settings s ((s.dispatched i).release i none)
  /-- An alert could not be sent. -/
  | unalerted (i : I) (hplace : s.place i=.alerting) : Move settings s (s.release i none)

variable {settings : Settings} {s s' : System I C} {e : Event I C}

/-- Every step is one of the moves. -/
theorem move_of_step (hs : step settings s e=some s') : Move settings s s' := by
  cases e with
  | markDegraded error now =>
    unfold step at hs
    dsimp only at hs
    obtain ⟨hclock,hsome⟩ := Option.ite_none_right_eq_some.mp hs
    obtain rfl := Option.some.inj hsome
    exact .degraded error now hclock
  | call i hasCallback now =>
    unfold step at hs
    dsimp only at hs
    split at hs
    · rename_i hplace
      by_cases hclock : s.clock≤now
      · rw [if_pos hclock] at hs
        by_cases hdue : s.state.attemptDue now=true
        · rw [if_pos hdue] at hs
          obtain rfl := Option.some.inj hs
          exact .queued i hasCallback now hplace hclock
        · rw [if_neg hdue] at hs
          obtain rfl := Option.some.inj hs
          refine .refused i now ?_ ?_ hclock
          · intro client
            rw [hplace]
            exact nofun
          · rw [hplace]
            rfl
      · rw [if_neg hclock] at hs
        cases hs
    · cases hs
  | acquire i now =>
    unfold step at hs
    dsimp only at hs
    split at hs
    · rename_i hasCallback hplace
      by_cases hfree : s.locked=false ∧ s.clock≤now
      · rw [if_pos hfree] at hs
        by_cases hdue : s.state.attemptDue now=true
        · rw [if_pos hdue] at hs
          obtain rfl := Option.some.inj hs
          exact .begun i hasCallback now hplace hfree.1 hfree.2 hdue
        · rw [if_neg hdue] at hs
          obtain rfl := Option.some.inj hs
          refine .refused i now ?_ ?_ hfree.2
          · intro client
            rw [hplace]
            exact nofun
          · rw [hplace]
            rfl
      · rw [if_neg hfree] at hs
        cases hs
    · cases hs
  | made i outcome =>
    unfold step at hs
    dsimp only at hs
    split at hs
    · rename_i current hasCallback hplace
      cases outcome with
      | ok client =>
        obtain rfl := Option.some.inj hs
        exact .succeeded i current hasCallback client hplace
      | error error =>
        obtain rfl := Option.some.inj hs
        exact .failed i current hasCallback error hplace
    · cases hs
  | notified i ok =>
    unfold step at hs
    dsimp only at hs
    split at hs
    · rename_i hplace
      cases ok with
      | true =>
        obtain rfl := Option.some.inj hs
        exact .alerted i hplace
      | false =>
        obtain rfl := Option.some.inj hs
        exact .unalerted i hplace
    · cases hs

end Aqts.KisRecovery
