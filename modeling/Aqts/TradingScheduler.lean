import Aqts.ExpiringSlot
import Aqts.GuardedRuns
import Mathlib.Algebra.Order.Floor.Ring
import Mathlib.Algebra.Order.Archimedean.Basic
import Mathlib.Data.Rat.Floor
import Mathlib.Logic.Function.Basic
import Mathlib.Tactic.Linarith

/-!
# The trading scheduler

`core.trading_scheduler` and `core.scheduler_idempotency`: the loop that picks
the events of a day, the execution of an event with its check and its record in
Redis, manual executions beside the loop, and restarts. An execution is cut at
its awaits; the commands of Redis take effect between them. Times are the
seconds of a clock in Korean time, in any ordered field with a floor, and dates
are whole numbers of days. The calendar of trading days is a parameter. The last
fields of the system record its history and no operation reads them.
-/

namespace Aqts.TradingScheduler

open ExpiringSlot

/-- `ScheduleEventType`. -/
inductive ScheduleEventType
  /-- `PRE_MARKET`. -/
  | preMarket
  /-- `MARKET_OPEN`. -/
  | marketOpen
  /-- `MIDDAY_CHECK`. -/
  | middayCheck
  /-- `MARKET_CLOSE`. -/
  | marketClose
  /-- `POST_MARKET`. -/
  | postMarket
  deriving DecidableEq

section Dates

variable {K : Type*} [Field K] [LinearOrder K] [FloorRing K]

/-- The date of a time. -/
def dateOf (t : K) : ℤ := ⌊t/86400⌋

/-- The time at which a date begins. -/
def midnight (K : Type*) [Field K] (date : ℤ) : K := (date : K)*86400

/-- `_ttl_until_next_midnight_kst`: the difference is positive, so `int` rounds it
down. -/
def ttlUntilNextMidnight (now : K) : ℤ := max ⌊midnight K (dateOf now+1)-now⌋ 60

variable [IsStrictOrderedRing K]

/-- A time lies between the midnights of its date. -/
theorem dateOf_eq_iff {t : K} {date : ℤ} :
    dateOf t=date ↔ midnight K date≤t ∧ t< midnight K (date+1) := by
  unfold dateOf midnight
  have hday : (0 : K)<86400 := by norm_num
  rw [Int.floor_eq_iff,le_div_iff₀ hday,div_lt_iff₀ hday]
  push_cast
  rfl

/-- Later times have later dates. -/
theorem dateOf_mono {t u : K} (h : t≤u) : dateOf t≤dateOf u := by
  apply Int.floor_mono
  exact div_le_div_of_nonneg_right h (by norm_num)

/-- After the next midnight the date has changed. -/
theorem dateOf_ne_of_le {t : K} {date : ℤ} (h : midnight K (date+1)≤t) : dateOf t≠date := by
  intro heq
  exact absurd (dateOf_eq_iff.mp heq).2 (not_lt.mpr h)

end Dates

/-- `ScheduleEvent`. -/
structure ScheduleEvent (K : Type*) where
  /-- `event_type`. -/
  eventType : ScheduleEventType
  /-- `scheduled_time`, from midnight. -/
  scheduledTime : K
  deriving DecidableEq

/-- `DEFAULT_SCHEDULE`. -/
def defaultSchedule (K : Type*) [Field K] : List (ScheduleEvent K) :=
  [⟨.preMarket,30600⟩,⟨.marketOpen,32400⟩,⟨.middayCheck,41400⟩,⟨.marketClose,55800⟩,
    ⟨.postMarket,57600⟩]

/-- `SchedulerState`. -/
structure SchedulerState where
  /-- `current_date`. -/
  currentDate : Option ℤ := none
  /-- `events_executed_today`, by their types. -/
  eventsExecutedToday : List ScheduleEventType := []
  /-- `errors_today`, by their types. -/
  errorsToday : List ScheduleEventType := []
  /-- The status is `PAUSED`. -/
  paused : Bool := false
  deriving DecidableEq

/-- `_find_next_event`. -/
def findNextEvent {K : Type*} [LinearOrder K] (executedTypes : List ScheduleEventType)
    (currentTime : K) : List (ScheduleEvent K)→Option (ScheduleEvent K)
  | [] => none
  | event::schedule =>
    if event.eventType∈executedTypes then findNextEvent executedTypes currentTime schedule
    else if currentTime≤event.scheduledTime then some event
    else if event.eventType∉executedTypes then some event
    else findNextEvent executedTypes currentTime schedule

/-- Where `_execute_event` waits. -/
inductive Execution (K : Type*)
  /-- Not called. -/
  | idle
  /-- For the answer of `is_executed`. -/
  | checking (eventType : ScheduleEventType) (start : K)
  /-- With the answer. -/
  | checked (eventType : ScheduleEventType) (start : K) (found : Bool)
  /-- For its handler. -/
  | running (eventType : ScheduleEventType) (start : K)
  /-- For the command of `mark_executed`, whose lifetime is counted from `counted`. -/
  | marking (eventType : ScheduleEventType) (start counted : K)
  deriving DecidableEq

/-- Where the loop is, outside an execution. -/
inductive LoopPhase (K : Type*)
  /-- `start` loads what was executed today. -/
  | loading (startedAt : K)
  /-- At the top, also while it sleeps there. -/
  | top
  /-- Asleep before an event. -/
  | waiting (event : ScheduleEvent K) (eventTime : K)
  deriving DecidableEq

/-- A handler has started. -/
structure Start (K : Type*) where
  /-- Its event. -/
  eventType : ScheduleEventType
  /-- When. -/
  time : K
  /-- It had been recorded on this date before the last restart. -/
  again : Bool
  deriving DecidableEq

/-- `mark_executed` has written its key. -/
structure Record (K : Type*) where
  /-- The event. -/
  eventType : ScheduleEventType
  /-- The date in the key. -/
  date : ℤ
  /-- When. -/
  time : K
  deriving DecidableEq

/-- The loop has called `_execute_event`. -/
structure Attempt where
  /-- The event. -/
  eventType : ScheduleEventType
  /-- It was completed already. -/
  completed : Bool
  /-- What the loop had attempted on this date. -/
  before : List ScheduleEventType
  /-- The other events of the schedule that were due and not completed. -/
  others : List ScheduleEventType
  deriving DecidableEq

/-- Redis, the process with its loop and the manual executions, and the
history. -/
structure System (W K : Type*) where
  /-- The last reading of the clock. -/
  clock : K
  /-- The keys, by event and date. -/
  keys : ScheduleEventType→ℤ→Slot K K
  /-- `_state`. -/
  state : SchedulerState
  /-- `_scheduler_loop`. -/
  loop : LoopPhase K
  /-- Executions: that of the loop, and those of `run_event_now`. -/
  execution : Option W→Execution K
  /-- Handlers that have started. -/
  starts : List (Start K)
  /-- Keys that were written. -/
  records : List (Record K)
  /-- Those from before the last restart. -/
  recordsBefore : List (Record K)
  /-- What the loop has attempted since the date changed. -/
  attempted : List ScheduleEventType
  /-- The attempts of the loop. -/
  attempts : List Attempt

section Steps

variable {W K : Type*} [DecidableEq W] [Field K] [LinearOrder K] [FloorRing K]

/-- A process before its first iteration, with an empty Redis. -/
def System.start (W : Type*) {K : Type*} (now : K) : System W K :=
  ⟨now,fun _ _ => none,{},.top,fun _ => .idle,[],[],[],[],[]⟩

/-- The answer of `is_executed` at a time. -/
def isExecuted (keys : ScheduleEventType→ℤ→Slot K K) (eventType : ScheduleEventType) (date : ℤ)
    (now : K) : Bool := (ExpiringSlot.read now (keys eventType date)).isSome

/-- An execution moves on. -/
def System.move (s : System W K) (task : Option W) (now : K) (x : Execution K) : System W K :=
  {s with clock := now,execution := Function.update s.execution task x}

/-- The other events that are due and not completed. -/
def System.waitingOthers (s : System W K) (schedule : List (ScheduleEvent K))
    (eventType : ScheduleEventType) (now : K) : List ScheduleEventType :=
  (schedule.filter fun other => other.eventType≠eventType ∧
    other.eventType∉s.state.eventsExecutedToday ∧
    midnight K (s.state.currentDate.getD (dateOf now))+other.scheduledTime≤now).map
      ScheduleEvent.eventType

/-- The loop calls `_execute_event`. -/
def System.attempt (s : System W K) (schedule : List (ScheduleEvent K))
    (eventType : ScheduleEventType) (start : K) : System W K :=
  {s.move none start (.checking eventType start) with
    loop := .top
    attempted := eventType::s.attempted
    attempts := ⟨eventType,eventType∈s.state.eventsExecutedToday,s.attempted,
      s.waitingOthers schedule eventType start⟩::s.attempts}

/-- A new trading day begins. -/
def System.newDay (s : System W K) (today : ℤ) : System W K :=
  if s.state.currentDate=some today then s
  else {s with
    state := {s.state with
      currentDate := some today
      eventsExecutedToday := []
      errorsToday := []}
    attempted := []}

/-- One iteration of `_scheduler_loop` up to its next await. -/
def System.iterate (isTradingDay : ℤ→Bool) (schedule : List (ScheduleEvent K)) (now start : K)
    (s : System W K) : System W K :=
  let today := dateOf now
  if isTradingDay today=true then
    let s := s.newDay today
    if s.state.paused=true then {s with clock := now}
    else
      match findNextEvent s.state.eventsExecutedToday (now-midnight K today) schedule with
      | none => {s with clock := now}
      | some event =>
        let eventTime := midnight K today+event.scheduledTime
        if now<eventTime then {s with clock := now,loop := .waiting event eventTime}
        else s.attempt schedule event.eventType start
  else {s with clock := now}

/-- The end of `is_executed`: the event is skipped, or its handler starts. -/
def System.resume (s : System W K) (task : Option W) (now : K) (eventType : ScheduleEventType)
    (start : K) (found : Bool) : System W K :=
  if found=true then
    {s.move task now .idle with
      state :=
        if eventType∈s.state.eventsExecutedToday then s.state
        else {s.state with
          eventsExecutedToday := s.state.eventsExecutedToday++[eventType]}}
  else
    {s.move task now (.running eventType start) with
      starts := ⟨eventType,now,∃ r∈s.recordsBefore,r.eventType=eventType ∧ r.date=dateOf now ∧
        dateOf r.time=dateOf now⟩::s.starts}

/-- The end of a handler, which raises or returns. -/
def System.finish (s : System W K) (task : Option W) (raised : Bool) (now : K)
    (eventType : ScheduleEventType) (start : K) : System W K :=
  if raised=true then
    {s.move task now .idle with
      state := {s.state with errorsToday := s.state.errorsToday++[eventType]}}
  else
    {s.move task now (.marking eventType start now) with
      state := {s.state with
        eventsExecutedToday := s.state.eventsExecutedToday++[eventType]}}

/-- The command of `mark_executed`. -/
def System.mark (s : System W K) (task : Option W) (now : K) (eventType : ScheduleEventType)
    (start counted : K) : System W K :=
  {s.move task now .idle with
    keys := Function.update s.keys eventType (Function.update (s.keys eventType) (dateOf start)
      (setEx now (ttlUntilNextMidnight counted : K) counted))
    records := ⟨eventType,dateOf start,now⟩::s.records}

/-- The process ends and another one starts. -/
def System.restart (s : System W K) (now : K) : System W K :=
  {s with
    clock := now
    state := {}
    loop := .loading now
    execution := fun _ => .idle
    recordsBefore := s.records
    attempted := []}

/-- The events with a key for a date. -/
def loadExecutedForDate (keys : ScheduleEventType→ℤ→Slot K K) (date : ℤ) (now : K) :
    List ScheduleEventType :=
  [.preMarket,.marketOpen,.middayCheck,.marketClose,.postMarket].filter
    fun eventType => isExecuted keys eventType date now

/-- `start` restores what was executed today. -/
def System.load (s : System W K) (startedAt now : K) : System W K :=
  let executedTypes := loadExecutedForDate s.keys (dateOf startedAt) now
  {s with
    clock := now
    loop := .top
    state :=
      if executedTypes=[] then s.state
      else {s.state with
        currentDate := some (dateOf startedAt)
        eventsExecutedToday := executedTypes}}

/-- Steps of the system. -/
inductive Event (W K : Type*)
  /-- The loop iterates; the second reading is that of `_execute_event`. -/
  | iterate (now start : K)
  /-- The loop wakes before an event. -/
  | wake (now start : K)
  /-- `run_event_now`. -/
  | call (w : W) (eventType : ScheduleEventType) (start : K)
  /-- Redis answers `is_executed`. -/
  | check (task : Option W) (now : K)
  /-- The execution goes on with the answer. -/
  | resume (task : Option W) (now : K)
  /-- A handler ends. -/
  | finish (task : Option W) (raised : Bool) (now : K)
  /-- Redis executes the command of `mark_executed`. -/
  | mark (task : Option W) (now : K)
  /-- `pause` or `resume`. -/
  | pause (paused : Bool)
  /-- The process restarts. -/
  | restart (now : K)
  /-- `start` has loaded the keys. -/
  | load (now : K)
  deriving DecidableEq

/-- One step, if it is enabled: the clock does not go back. -/
def step (isTradingDay : ℤ→Bool) (schedule : List (ScheduleEvent K)) (s : System W K) :
    Event W K→Option (System W K)
  | .iterate now start =>
    if s.clock≤now ∧ now≤ start ∧ s.loop=.top ∧ s.execution none=.idle then
      some (s.iterate isTradingDay schedule now start)
    else none
  | .wake now start =>
    match s.loop with
    | .waiting event eventTime =>
      if s.clock≤now ∧ now≤ start ∧ s.execution none=.idle then
        if now<eventTime then some {s with clock := now,loop := .top}
        else some (s.attempt schedule event.eventType start)
      else none
    | _ => none
  | .call w eventType start =>
    if s.clock≤ start ∧ s.execution (some w)=.idle ∧
        ∃ event∈schedule,event.eventType=eventType then
      some (s.move (some w) start (.checking eventType start))
    else none
  | .check task now =>
    match s.execution task with
    | .checking eventType start =>
      if s.clock≤now then
        some (s.move task now
          (.checked eventType start (isExecuted s.keys eventType (dateOf start) now)))
      else none
    | _ => none
  | .resume task now =>
    match s.execution task with
    | .checked eventType start found =>
      if s.clock≤now then some (s.resume task now eventType start found) else none
    | _ => none
  | .finish task raised now =>
    match s.execution task with
    | .running eventType start =>
      if s.clock≤now then some (s.finish task raised now eventType start) else none
    | _ => none
  | .mark task now =>
    match s.execution task with
    | .marking eventType start counted =>
      if s.clock≤now then some (s.mark task now eventType start counted) else none
    | _ => none
  | .pause paused => some {s with state := {s.state with paused := paused}}
  | .restart now => if s.clock≤now then some (s.restart now) else none
  | .load now =>
    match s.loop with
    | .loading startedAt => if s.clock≤now then some (s.load startedAt now) else none
    | _ => none

/-! ### What a step does -/

variable {isTradingDay : ℤ→Bool} {schedule : List (ScheduleEvent K)} {s s' : System W K}

omit [DecidableEq W] in
omit [Field K] [LinearOrder K] [FloorRing K] in
/-- A new day changes the state of the scheduler and what was attempted. -/
theorem System.newDay_same (s : System W K) (today : ℤ) : (s.newDay today).clock=s.clock ∧
    (s.newDay today).execution=s.execution ∧ (s.newDay today).loop=s.loop ∧
    (s.newDay today).state.paused=s.state.paused ∧ (s.newDay today).attempts=s.attempts ∧
    (s.newDay today).state.currentDate=some today := by
  unfold System.newDay
  by_cases htoday : s.state.currentDate=some today
  · rw [if_pos htoday]
    exact ⟨rfl,rfl,rfl,rfl,rfl,htoday⟩
  · rw [if_neg htoday]
    exact ⟨rfl,rfl,rfl,rfl,rfl,rfl⟩

/-- An iteration sleeps, or calls the next event once its time has come. -/
theorem System.iterate_cases (isTradingDay : ℤ→Bool) (schedule : List (ScheduleEvent K))
    (now start : K) (s : System W K) :
    s.iterate isTradingDay schedule now start={s with clock := now} ∨
    (isTradingDay (dateOf now)=true ∧
      (s.iterate isTradingDay schedule now start={s.newDay (dateOf now) with clock := now} ∨
      ∃ event,s.state.paused=false ∧
        findNextEvent (s.newDay (dateOf now)).state.eventsExecutedToday
          (now-midnight K (dateOf now)) schedule=some event ∧
        ((now< midnight K (dateOf now)+event.scheduledTime ∧
          s.iterate isTradingDay schedule now start={s.newDay (dateOf now) with
            clock := now
            loop := .waiting event (midnight K (dateOf now)+event.scheduledTime)}) ∨
        (midnight K (dateOf now)+event.scheduledTime≤now ∧
          s.iterate isTradingDay schedule now start=
            (s.newDay (dateOf now)).attempt schedule event.eventType start)))) := by
  unfold System.iterate
  by_cases hday : isTradingDay (dateOf now)=true
  · rw [if_pos hday]
    refine .inr ⟨hday,?_⟩
    by_cases hpaused : (s.newDay (dateOf now)).state.paused=true
    · exact .inl (if_pos hpaused)
    · dsimp only
      rw [if_neg hpaused]
      cases hnext : findNextEvent (s.newDay (dateOf now)).state.eventsExecutedToday
        (now-midnight K (dateOf now)) schedule with
      | none => exact .inl rfl
      | some event =>
        refine .inr ⟨event,?_,rfl,?_⟩
        · rw [(s.newDay_same (dateOf now)).2.2.2.1] at hpaused
          exact Bool.eq_false_iff.mpr hpaused
        by_cases hearly : now< midnight K (dateOf now)+event.scheduledTime
        · exact .inl ⟨hearly,if_pos hearly⟩
        · exact .inr ⟨not_lt.mp hearly,if_neg hearly⟩
  · exact .inl (if_neg hday)

/-- The next event is called when its time has come. -/
theorem System.iterate_due {now start : K} {event : ScheduleEvent K}
    (hday : isTradingDay (dateOf now)=true) (hpaused : s.state.paused=false)
    (hnext : findNextEvent (s.newDay (dateOf now)).state.eventsExecutedToday
      (now-midnight K (dateOf now)) schedule=some event)
    (hdue : midnight K (dateOf now)+event.scheduledTime≤now) :
    s.iterate isTradingDay schedule now start=
      (s.newDay (dateOf now)).attempt schedule event.eventType start := by
  have hrunning : ¬(s.newDay (dateOf now)).state.paused=true := by
    rw [(s.newDay_same (dateOf now)).2.2.2.1,hpaused]
    exact Bool.false_ne_true
  unfold System.iterate
  rw [if_pos hday]
  dsimp only
  rw [if_neg hrunning,hnext]
  exact if_neg (not_lt.mpr hdue)

/-- The loop sleeps again, or calls the event it waited for. -/
theorem step_wake {now start : K} (hs : step isTradingDay schedule s (.wake now start)=some s') :
    ∃ event eventTime,s.loop=.waiting event eventTime ∧ s.clock≤now ∧ now≤ start ∧
      s.execution none=.idle ∧ ((now<eventTime ∧ s'={s with clock := now,loop := .top}) ∨
        (eventTime≤now ∧ s'=s.attempt schedule event.eventType start)) := by
  dsimp only [step] at hs
  cases hloop : s.loop with
  | waiting event eventTime =>
    rw [hloop] at hs
    obtain ⟨⟨hnow,hstart,hidle⟩,hs⟩ := Option.ite_none_right_eq_some.mp hs
    refine ⟨event,eventTime,rfl,hnow,hstart,hidle,?_⟩
    by_cases hearly : now<eventTime
    · rw [if_pos hearly] at hs
      exact .inl ⟨hearly,(Option.some.inj hs).symm⟩
    · rw [if_neg hearly] at hs
      exact .inr ⟨not_lt.mp hearly,(Option.some.inj hs).symm⟩
  | _ =>
    rw [hloop] at hs
    cases hs

/-- Redis answers an execution that asks. -/
theorem step_check {task : Option W} {now : K}
    (hs : step isTradingDay schedule s (.check task now)=some s') :
    ∃ eventType start,s.execution task=.checking eventType start ∧ s.clock≤now ∧
      s'=s.move task now
        (.checked eventType start (isExecuted s.keys eventType (dateOf start) now)) := by
  dsimp only [step] at hs
  cases hat : s.execution task with
  | checking eventType start =>
    rw [hat] at hs
    obtain ⟨hnow,hs⟩ := Option.ite_none_right_eq_some.mp hs
    exact ⟨eventType,start,rfl,hnow,(Option.some.inj hs).symm⟩
  | _ =>
    rw [hat] at hs
    cases hs

/-- An execution with its answer goes on. -/
theorem step_resume {task : Option W} {now : K}
    (hs : step isTradingDay schedule s (.resume task now)=some s') :
    ∃ eventType start found,s.execution task=.checked eventType start found ∧ s.clock≤now ∧
      s'=s.resume task now eventType start found := by
  dsimp only [step] at hs
  cases hat : s.execution task with
  | checked eventType start found =>
    rw [hat] at hs
    obtain ⟨hnow,hs⟩ := Option.ite_none_right_eq_some.mp hs
    exact ⟨eventType,start,found,rfl,hnow,(Option.some.inj hs).symm⟩
  | _ =>
    rw [hat] at hs
    cases hs

/-- A running handler ends. -/
theorem step_finish {task : Option W} {raised : Bool} {now : K}
    (hs : step isTradingDay schedule s (.finish task raised now)=some s') :
    ∃ eventType start,s.execution task=.running eventType start ∧ s.clock≤now ∧
      s'=s.finish task raised now eventType start := by
  dsimp only [step] at hs
  cases hat : s.execution task with
  | running eventType start =>
    rw [hat] at hs
    obtain ⟨hnow,hs⟩ := Option.ite_none_right_eq_some.mp hs
    exact ⟨eventType,start,rfl,hnow,(Option.some.inj hs).symm⟩
  | _ =>
    rw [hat] at hs
    cases hs

/-- A completed event is recorded. -/
theorem step_mark {task : Option W} {now : K}
    (hs : step isTradingDay schedule s (.mark task now)=some s') :
    ∃ eventType start counted,s.execution task=.marking eventType start counted ∧ s.clock≤now ∧
      s'=s.mark task now eventType start counted := by
  dsimp only [step] at hs
  cases hat : s.execution task with
  | marking eventType start counted =>
    rw [hat] at hs
    obtain ⟨hnow,hs⟩ := Option.ite_none_right_eq_some.mp hs
    exact ⟨eventType,start,counted,rfl,hnow,(Option.some.inj hs).symm⟩
  | _ =>
    rw [hat] at hs
    cases hs

/-- A starting process has loaded its keys. -/
theorem step_load {now : K} (hs : step isTradingDay schedule s (.load now)=some s') :
    ∃ startedAt,s.loop=.loading startedAt ∧ s.clock≤now ∧ s'=s.load startedAt now := by
  dsimp only [step] at hs
  cases hloop : s.loop with
  | loading startedAt =>
    rw [hloop] at hs
    obtain ⟨hnow,hs⟩ := Option.ite_none_right_eq_some.mp hs
    exact ⟨startedAt,rfl,hnow,(Option.some.inj hs).symm⟩
  | _ =>
    rw [hloop] at hs
    cases hs

end Steps

end Aqts.TradingScheduler
