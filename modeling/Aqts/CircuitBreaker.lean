import Aqts.GuardedRuns
import Mathlib.Algebra.Order.Field.Rat
import Mathlib.Data.List.TakeWhile
import Mathlib.Logic.Relation

/-!
# The circuit breaker

`core.circuit_breaker`: the three states of a breaker, the records that a call
makes when it is checked and when it completes, and the transition that a read
of the state triggers after the recovery time. A breaker is then run under any
number of calls at once: a check, a completion and a read of the state are each
one step, since the lock of the breaker is held for the whole of it, and a call
that was admitted may complete in any later state. The run keeps the history
that the properties speak about; no operation reads it.
-/

namespace Aqts.CircuitBreaker

/-- `CircuitState`. -/
inductive CircuitState
  /-- `CLOSED`. -/
  | closed
  /-- `OPEN`. -/
  | opened
  /-- `HALF_OPEN`. -/
  | halfOpen
  deriving DecidableEq

/-- `CircuitStats`. -/
structure CircuitStats where
  /-- `total_calls`. -/
  totalCalls : ℕ := 0
  /-- `total_failures`. -/
  totalFailures : ℕ := 0
  /-- `consecutive_failures`. -/
  consecutiveFailures : ℕ := 0
  /-- `last_failure_time`. -/
  lastFailureTime : ℚ := 0
  /-- `last_success_time`. -/
  lastSuccessTime : ℚ := 0
  /-- `state_changed_at`. -/
  stateChangedAt : ℚ
  /-- `half_open_calls`. -/
  halfOpenCalls : ℕ := 0
  deriving DecidableEq

/-- Arguments of the constructor. Whether an exception is excluded is part of
the outcome of a call. -/
structure Settings where
  /-- `name`. -/
  name : String
  /-- `failure_threshold`. -/
  failureThreshold : ℤ := 5
  /-- `recovery_timeout`. -/
  recoveryTimeout : ℚ := 60
  /-- `half_open_max_calls`. -/
  halfOpenMaxCalls : ℤ := 3
  deriving DecidableEq

/-- `fred_breaker`. -/
def fredBreaker : Settings where
  name := "fred_api"
  failureThreshold := 3
  recoveryTimeout := 120
  halfOpenMaxCalls := 1

/-- `CircuitBreaker`. -/
structure Breaker where
  /-- `_state`. -/
  state : CircuitState
  /-- `_stats`. -/
  stats : CircuitStats
  deriving DecidableEq

/-- `CircuitBreaker(...)`. -/
def Breaker.new (now : ℚ) : Breaker := ⟨.closed,{stateChangedAt := now}⟩

/-- The readings of the monotonic clock within one operation. -/
structure Readings where
  /-- The first reading. -/
  first : ℚ
  /-- The next one. -/
  second : ℚ
  /-- The clock is monotonic. -/
  ordered : first≤ second
  deriving DecidableEq

/-- Two equal readings. -/
def Readings.at (now : ℚ) : Readings := ⟨now,now,le_refl now⟩

/-- `_transition_to`. -/
def Breaker.transitionTo (b : Breaker) (newState : CircuitState) (now : ℚ) : Breaker where
  state := newState
  stats := {b.stats with
    stateChangedAt := now
    halfOpenCalls := if newState=.halfOpen then 0 else b.stats.halfOpenCalls}

/-- `CircuitBreakerError`. -/
structure CircuitBreakerError where
  /-- `breaker_name`. -/
  breakerName : String
  /-- `remaining_seconds`. -/
  remainingSeconds : ℚ
  deriving DecidableEq

section Operations

variable (settings : Settings) (r : Readings) (b : Breaker)

/-- The property `state`, which opens the breaker half after the recovery time. -/
def readState : Breaker :=
  if b.state=.opened ∧ settings.recoveryTimeout≤ r.first-b.stats.stateChangedAt then
    b.transitionTo .halfOpen r.second
  else b

/-- `_record_success`. -/
def recordSuccess : Breaker :=
  let stats : CircuitStats := {b.stats with
    totalCalls := b.stats.totalCalls+1
    consecutiveFailures := 0
    lastSuccessTime := r.first}
  if b.state=.halfOpen then
    let counted : Breaker := ⟨b.state,{stats with halfOpenCalls := stats.halfOpenCalls+1}⟩
    if settings.halfOpenMaxCalls≤ counted.stats.halfOpenCalls then
      counted.transitionTo .closed r.second
    else counted
  else ⟨b.state,stats⟩

/-- `_record_failure`, for an exception that is excluded or not. -/
def recordFailure (excluded : Bool) : Breaker :=
  if excluded=true then
    ⟨b.state,{b.stats with totalCalls := b.stats.totalCalls+1}⟩
  else
    let failed : Breaker := ⟨b.state,{b.stats with
      totalCalls := b.stats.totalCalls+1
      totalFailures := b.stats.totalFailures+1
      consecutiveFailures := b.stats.consecutiveFailures+1
      lastFailureTime := r.first}⟩
    if b.state=.halfOpen then failed.transitionTo .opened r.second
    else if b.state=.closed ∧ settings.failureThreshold≤ failed.stats.consecutiveFailures then
      failed.transitionTo .opened r.second
    else failed

/-- `_check_state`: the error that refuses the call, if there is one, and the
breaker. -/
def checkState : Option CircuitBreakerError×Breaker :=
  let current := readState settings r b
  match current.state with
  | .opened =>
    let elapsed := r.second-current.stats.stateChangedAt
    (some ⟨settings.name,max 0 (settings.recoveryTimeout-elapsed)⟩,current)
  | .halfOpen =>
    if settings.halfOpenMaxCalls≤ current.stats.halfOpenCalls then (some ⟨settings.name,0⟩,current)
    else (none,current)
  | .closed => (none,current)

end Operations

/-- How a call ends. -/
inductive Outcome
  /-- It returns. -/
  | returned
  /-- It raises an exception that is excluded or not. -/
  | raised (excluded : Bool)
  /-- It is cancelled and records nothing. -/
  | cancelled
  deriving DecidableEq

/-- What has happened, with the number of the period in which a call was
admitted. -/
inductive Entry
  /-- A transition. -/
  | transition (source target : CircuitState) (time : ℚ)
  /-- A call was admitted. -/
  | admitted (time : ℚ)
  /-- A success was recorded. -/
  | succeeded (admittedIn : ℕ)
  /-- A failure was recorded. -/
  | failed (admittedIn : ℕ)
  /-- A call ended with an excluded exception, or without a record. -/
  | uncounted (admittedIn : ℕ)
  deriving DecidableEq

/-- The entry is a transition. -/
def Entry.isTransition : Entry→Bool
  | .transition _ _ _ => true
  | _ => false

/-- The entry is an admission. -/
def Entry.isAdmitted : Entry→Bool
  | .admitted _ => true
  | _ => false

/-- The entry is a success. -/
def Entry.isSucceeded : Entry→Bool
  | .succeeded _ => true
  | _ => false

/-- The entry is a failure. -/
def Entry.isFailed : Entry→Bool
  | .failed _ => true
  | _ => false

/-- A breaker with its calls and its history. -/
structure Run where
  /-- The breaker. -/
  breaker : Breaker
  /-- The last reading of the clock. -/
  clock : ℚ
  /-- The calls in flight, each by the period in which it was admitted. -/
  inFlight : List ℕ
  /-- What has happened, the last entry first. -/
  history : List Entry

/-- A new breaker. -/
def Run.start (now : ℚ) : Run := ⟨.new now,now,[],[]⟩

/-- Number of the present period: the transitions so far. -/
def period (history : List Entry) : ℕ := history.countP Entry.isTransition

/-- The entries of the present period. -/
def present (history : List Entry) : List Entry := history.takeWhile fun e => !e.isTransition

/-- The history with the transition between two breakers, if there is one. -/
def noted (b b' : Breaker) (history : List Entry) : List Entry :=
  if b'.state=b.state then history
  else .transition b.state b'.state b'.stats.stateChangedAt::history

/-- A read of the state. -/
def Run.read (settings : Settings) (r : Readings) (s : Run) : Run :=
  {s with
    breaker := readState settings r s.breaker
    clock := r.second
    history := noted s.breaker (readState settings r s.breaker) s.history}

/-- A call is checked. -/
def Run.check (settings : Settings) (r : Readings) (s : Run) : Run :=
  let checked := checkState settings r s.breaker
  let history := noted s.breaker checked.2 s.history
  match checked.1 with
  | some _ => {s with breaker := checked.2,clock := r.second,history := history}
  | none =>
    { breaker := checked.2
      clock := r.second
      inFlight := period history::s.inFlight
      history := .admitted r.first::history }

/-- A call completes. -/
def Run.finish (settings : Settings) (admittedIn : ℕ) (outcome : Outcome) (r : Readings) (s : Run) :
    Run :=
  let ended : Breaker×Entry :=
    match outcome with
    | .returned => (recordSuccess settings r s.breaker,.succeeded admittedIn)
    | .raised true => (recordFailure settings r s.breaker true,.uncounted admittedIn)
    | .raised false => (recordFailure settings r s.breaker false,.failed admittedIn)
    | .cancelled => (s.breaker,.uncounted admittedIn)
  { breaker := ended.1
    clock := r.second
    inFlight := s.inFlight.erase admittedIn
    history := noted s.breaker ended.1 (ended.2::s.history) }

/-- Steps of a run. -/
inductive Event
  /-- A read of the state. -/
  | read (r : Readings)
  /-- A call is checked. -/
  | check (r : Readings)
  /-- A call that was admitted in a period completes. -/
  | finish (admittedIn : ℕ) (outcome : Outcome) (r : Readings)
  deriving DecidableEq

/-- One step, if it is enabled: the clock does not go back, and only a call in
flight completes. -/
def step (settings : Settings) (s : Run) : Event→Option Run
  | .read r => if s.clock≤ r.first then some (s.read settings r) else none
  | .check r => if s.clock≤ r.first then some (s.check settings r) else none
  | .finish admittedIn outcome r =>
    if s.clock≤ r.first ∧ admittedIn∈s.inFlight then some (s.finish settings admittedIn outcome r)
    else none

/-- What the operations do to a run, one change at a time. -/
inductive Move (settings : Settings) (s : Run) : Run→Prop
  /-- Time passes. -/
  | waited (now : ℚ) (hclock : s.clock≤now) : Move settings s {s with clock := now}
  /-- The recovery time is over. -/
  | probes (now : ℚ) (hstate : s.breaker.state=.opened)
      (htime : settings.recoveryTimeout≤ s.clock-s.breaker.stats.stateChangedAt) :
      Move settings s {s with
        breaker := s.breaker.transitionTo .halfOpen now
        history := .transition .opened .halfOpen now::s.history}
  /-- A call is admitted. -/
  | admits (hstate : s.breaker.state=.closed ∨ s.breaker.state=.halfOpen ∧
        (s.breaker.stats.halfOpenCalls : ℤ)< settings.halfOpenMaxCalls) :
      Move settings s {s with
        inFlight := period s.history::s.inFlight
        history := .admitted s.clock::s.history}
  /-- A success leaves the state. -/
  | succeeds (admittedIn : ℕ) (b : Breaker) (hcall : admittedIn∈s.inFlight)
      (hstate : b.state=s.breaker.state)
      (hchanged : b.stats.stateChangedAt=s.breaker.stats.stateChangedAt)
      (hfailures : b.stats.consecutiveFailures=0)
      (hcounted : s.breaker.state=.halfOpen→
        b.stats.halfOpenCalls=s.breaker.stats.halfOpenCalls+1 ∧
        (b.stats.halfOpenCalls : ℤ)< settings.halfOpenMaxCalls) :
      Move settings s {s with
        breaker := b
        inFlight := s.inFlight.erase admittedIn
        history := .succeeded admittedIn::s.history}
  /-- The last success of a half-open breaker closes it. -/
  | closes (admittedIn : ℕ) (b : Breaker) (hcall : admittedIn∈s.inFlight)
      (hstate : s.breaker.state=.halfOpen) (hclosed : b.state=.closed)
      (hfailures : b.stats.consecutiveFailures=0)
      (hlast : settings.halfOpenMaxCalls≤ s.breaker.stats.halfOpenCalls+1) :
      Move settings s {s with
        breaker := b
        inFlight := s.inFlight.erase admittedIn
        history := .transition .halfOpen .closed b.stats.stateChangedAt::
          .succeeded admittedIn::s.history}
  /-- A failure leaves the state. -/
  | fails (admittedIn : ℕ) (b : Breaker) (hcall : admittedIn∈s.inFlight)
      (hstate : b.state=s.breaker.state) (hhalf : s.breaker.state≠.halfOpen)
      (hchanged : b.stats.stateChangedAt=s.breaker.stats.stateChangedAt)
      (hfailures : b.stats.consecutiveFailures=s.breaker.stats.consecutiveFailures+1)
      (hbelow : s.breaker.state=.closed→
        (b.stats.consecutiveFailures : ℤ)< settings.failureThreshold) :
      Move settings s {s with
        breaker := b
        inFlight := s.inFlight.erase admittedIn
        history := .failed admittedIn::s.history}
  /-- A failure opens the breaker. -/
  | opens (admittedIn : ℕ) (b : Breaker) (hcall : admittedIn∈s.inFlight)
      (hreached : s.breaker.state=.halfOpen ∨ s.breaker.state=.closed ∧
        settings.failureThreshold≤ b.stats.consecutiveFailures)
      (hopened : b.state=.opened)
      (hfailures : b.stats.consecutiveFailures=s.breaker.stats.consecutiveFailures+1) :
      Move settings s {s with
        breaker := b
        inFlight := s.inFlight.erase admittedIn
        history := .transition s.breaker.state .opened b.stats.stateChangedAt::
          .failed admittedIn::s.history}
  /-- A call ends with an excluded exception or without a record. -/
  | drops (admittedIn : ℕ) (b : Breaker) (hcall : admittedIn∈s.inFlight)
      (hstate : b.state=s.breaker.state)
      (hchanged : b.stats.stateChangedAt=s.breaker.stats.stateChangedAt)
      (hfailures : b.stats.consecutiveFailures=s.breaker.stats.consecutiveFailures)
      (hcounted : b.stats.halfOpenCalls=s.breaker.stats.halfOpenCalls) :
      Move settings s {s with
        breaker := b
        inFlight := s.inFlight.erase admittedIn
        history := .uncounted admittedIn::s.history}

/-- Any number of changes. -/
abbrev Moves (settings : Settings) := Relation.ReflTransGen (Move settings)

variable {settings : Settings} {s s' : Run}

/-- A read of the state waits, and then may open the breaker half. -/
theorem read_moves (r : Readings) :
    Moves settings {s with clock := r.first}
      {s with
        breaker := readState settings r s.breaker
        clock := r.first
        history := noted s.breaker (readState settings r s.breaker) s.history} := by
  unfold readState
  by_cases hover : s.breaker.state=.opened ∧
      settings.recoveryTimeout≤ r.first-s.breaker.stats.stateChangedAt
  · rw [if_pos hover]
    have hnoted : noted s.breaker (s.breaker.transitionTo .halfOpen r.second) s.history=
        .transition .opened .halfOpen r.second::s.history := by
      unfold noted Breaker.transitionTo
      rw [hover.1]
      rfl
    rw [hnoted]
    exact .single (.probes (s := {s with clock := r.first}) r.second hover.1 hover.2)
  · rw [if_neg hover]
    have hnoted : noted s.breaker s.breaker s.history=s.history := by
      unfold noted
      rw [if_pos rfl]
    rw [hnoted]

/-- A transition that does not happen leaves the history. -/
theorem noted_same {b b' : Breaker} {history : List Entry} (h : b'.state=b.state) :
    noted b b' history=history := by
  unfold noted
  rw [if_pos h]

/-- A transition that happens is noted. -/
theorem noted_changed {b b' : Breaker} {history : List Entry} (h : b'.state≠b.state) :
    noted b b' history=.transition b.state b'.state b'.stats.stateChangedAt::history := by
  unfold noted
  rw [if_neg h]

/-- A success, as one change. -/
theorem success_move {admittedIn : ℕ} (hcall : admittedIn∈s.inFlight) (r : Readings) :
    Move settings s {s with
      breaker := recordSuccess settings r s.breaker
      inFlight := s.inFlight.erase admittedIn
      history := noted s.breaker (recordSuccess settings r s.breaker)
        (.succeeded admittedIn::s.history)} := by
  unfold recordSuccess
  dsimp only
  by_cases hhalf : s.breaker.state=.halfOpen
  · rw [if_pos hhalf]
    by_cases hlast : settings.halfOpenMaxCalls≤ ((s.breaker.stats.halfOpenCalls+1 : ℕ) : ℤ)
    · rw [if_pos hlast,noted_changed (by rw [hhalf]; exact nofun),hhalf]
      exact .closes admittedIn _ hcall hhalf rfl rfl (by exact_mod_cast hlast)
    · rw [if_neg hlast,noted_same (by rfl)]
      exact .succeeds admittedIn _ hcall rfl rfl rfl fun _ => ⟨rfl,not_le.mp hlast⟩
  · rw [if_neg hhalf,noted_same (by rfl)]
    exact .succeeds admittedIn _ hcall rfl rfl rfl fun h => (hhalf h).elim

/-- A failure, as one change. -/
theorem failure_move {admittedIn : ℕ} (hcall : admittedIn∈s.inFlight) (r : Readings) :
    Move settings s {s with
      breaker := recordFailure settings r s.breaker false
      inFlight := s.inFlight.erase admittedIn
      history := noted s.breaker (recordFailure settings r s.breaker false)
        (.failed admittedIn::s.history)} := by
  unfold recordFailure
  rw [if_neg Bool.false_ne_true]
  dsimp only
  by_cases hhalf : s.breaker.state=.halfOpen
  · rw [if_pos hhalf,noted_changed (by rw [hhalf]; exact nofun)]
    exact .opens admittedIn _ hcall (.inl hhalf) rfl rfl
  · rw [if_neg hhalf]
    by_cases hreached : s.breaker.state=.closed ∧
        settings.failureThreshold≤ ((s.breaker.stats.consecutiveFailures+1 : ℕ) : ℤ)
    · rw [if_pos hreached,noted_changed (by rw [hreached.1]; exact nofun)]
      exact .opens admittedIn _ hcall (.inr hreached) rfl rfl
    · rw [if_neg hreached,noted_same (by rfl)]
      refine .fails admittedIn _ hcall rfl hhalf rfl rfl ?_
      intro hclosed
      by_contra hnot
      exact hreached ⟨hclosed,not_lt.mp hnot⟩

/-- A completion, as one change. -/
theorem finish_move {admittedIn : ℕ} (hcall : admittedIn∈s.inFlight) (outcome : Outcome)
    (r : Readings) :
    Move settings s {s.finish settings admittedIn outcome r with clock := s.clock} := by
  cases outcome with
  | returned => exact success_move hcall r
  | raised excluded =>
    cases excluded with
    | false => exact failure_move hcall r
    | true =>
      unfold Run.finish
      dsimp only
      rw [noted_same (by rfl)]
      exact .drops admittedIn _ hcall rfl rfl rfl rfl
  | cancelled =>
    unfold Run.finish
    dsimp only
    rw [noted_same (by rfl)]
    exact .drops admittedIn _ hcall rfl rfl rfl rfl

/-- The breaker after a check is that of a read of the state, and the call is
admitted unless the breaker is open or half open with its calls counted. -/
theorem checkState_cases (settings : Settings) (r : Readings) (b : Breaker) :
    (checkState settings r b).2=readState settings r b ∧
      ((checkState settings r b).1=none→(readState settings r b).state=.closed ∨
        (readState settings r b).state=.halfOpen ∧
          ((readState settings r b).stats.halfOpenCalls : ℤ)< settings.halfOpenMaxCalls) := by
  unfold checkState
  dsimp only
  cases hstate : (readState settings r b).state with
  | closed => exact ⟨rfl,fun _ => .inl rfl⟩
  | opened => exact ⟨rfl,nofun⟩
  | halfOpen =>
    dsimp only
    by_cases hfull : settings.halfOpenMaxCalls≤ ((readState settings r b).stats.halfOpenCalls : ℤ)
    · rw [if_pos hfull]
      exact ⟨rfl,nofun⟩
    · rw [if_neg hfull]
      exact ⟨rfl,fun _ => .inr ⟨rfl,not_le.mp hfull⟩⟩

/-- A step is made of such changes. -/
theorem step_moves {e : Event} (h : step settings s e=some s') : Moves settings s s' := by
  cases e with
  | read r =>
    dsimp only [step] at h
    split at h
    · rename_i hclock
      cases h
      exact (Relation.ReflTransGen.single (.waited r.first hclock)).trans
        ((read_moves r).tail (.waited r.second r.ordered))
    · cases h
  | check r =>
    dsimp only [step] at h
    split at h
    · rename_i hclock
      cases h
      have hread : Moves settings s _ :=
        (Relation.ReflTransGen.single (.waited r.first hclock)).trans (read_moves r)
      obtain ⟨hbreaker,hadmits⟩ := checkState_cases settings r s.breaker
      unfold Run.check
      dsimp only
      rw [hbreaker]
      cases hchecked : (checkState settings r s.breaker).1 with
      | some error => exact hread.tail (.waited r.second r.ordered)
      | none => exact (hread.tail (.admits (hadmits hchecked))).tail (.waited r.second r.ordered)
    · cases h
  | finish admittedIn outcome r =>
    dsimp only [step] at h
    split at h
    · rename_i henabled
      cases h
      have hclock : s.clock≤ r.second := henabled.1.trans r.ordered
      exact (Relation.ReflTransGen.single (finish_move henabled.2 outcome r)).tail
        (.waited r.second hclock)
    · cases h

/-- A property of a new breaker that every change preserves holds in every
reached state. -/
theorem reaches_invariant {P : Run→Prop} {allowed : Run→Event→Prop} {start : ℚ}
    (hstart : P (.start start)) (hmove : ∀ s s',P s→Move settings s s'→P s')
    (h : GuardedRuns.Reaches (step settings) allowed (.start start) s) : P s := by
  refine h.invariant hstart ?_
  intro s e s' _ hs _ hstep
  have hmoves := step_moves hstep
  clear hstep
  induction hmoves with
  | refl => exact hs
  | tail _ hlast ih => exact hmove _ _ ih hlast

end Aqts.CircuitBreaker
