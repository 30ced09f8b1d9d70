import Aqts.SchedulerRestarts
import Mathlib.Data.Fintype.Option

/-!
# At most one start on a date

With manual executions beside the loop, and handlers that return normally, the
handler of an event is to start at most once on a date, and the list of executed
events is to hold only events that started on its date. Both hold as long as the
executions of one event and date follow each other, no date changes inside an
execution, and keys last until midnight: the check, the handler and the record
are not one step.
-/

namespace Aqts.TradingScheduler

open GuardedRuns ExpiringSlot

variable {W K : Type*} [Field K] [LinearOrder K] [FloorRing K]

/-- One process, whose handlers return normally. -/
def Returns : Event W K→Prop
  | .finish _ raised _ => raised=false
  | .restart _ => False
  | _ => True

instance : (e : Event W K)→Decidable (Returns e)
  | .finish _ raised _ => inferInstanceAs (Decidable (raised=false))
  | .restart _ => .isFalse id
  | .iterate _ _ => .isTrue trivial
  | .wake _ _ => .isTrue trivial
  | .call _ _ _ => .isTrue trivial
  | .check _ _ => .isTrue trivial
  | .resume _ _ => .isTrue trivial
  | .mark _ _ => .isTrue trivial
  | .pause _ => .isTrue trivial
  | .load _ => .isTrue trivial

/-- The event and the date of an execution that has found no key and not yet written
it. -/
def Execution.pendingFor : Execution K→Option (ScheduleEventType×ℤ)
  | .checked eventType start false => some (eventType,dateOf start)
  | .running eventType start => some (eventType,dateOf start)
  | .marking eventType start _ => some (eventType,dateOf start)
  | _ => none

/-- The list has the event, or is of the date of the execution. -/
def ListIsOf (s : System W K) (eventType : ScheduleEventType) (start : K) : Prop :=
  eventType∈s.state.eventsExecutedToday ∨ s.state.currentDate=some (dateOf start)

instance (s : System W K) (eventType : ScheduleEventType) (start : K) :
    Decidable (ListIsOf s eventType start) := inferInstanceAs (Decidable (_ ∨ _))

/-- Redis answers when no other execution is pending for the event and the date. -/
def ChecksAlone (s : System W K) : Execution K→Prop
  | .checking eventType start =>
    ∀ other,(s.execution other).pendingFor≠some (eventType,dateOf start)
  | _ => True

instance [Fintype W] (s : System W K) : (x : Execution K)→Decidable (ChecksAlone s x)
  | .checking _ _ => Fintype.decidableForallFintype
  | .idle => .isTrue trivial
  | .checked _ _ _ => .isTrue trivial
  | .running _ _ => .isTrue trivial
  | .marking _ _ _ => .isTrue trivial

/-- A handler starts on the date that was checked, and an event that was found is
listed on the date of its execution. -/
def ResumesOnDate (s : System W K) (now : K) : Execution K→Prop
  | .checked _ start false => dateOf now=dateOf start
  | .checked eventType start true => ListIsOf s eventType start
  | _ => True

instance (s : System W K) (now : K) : (x : Execution K)→Decidable (ResumesOnDate s now x)
  | .checked _ start false => inferInstanceAs (Decidable (dateOf now=dateOf start))
  | .checked eventType start true => inferInstanceAs (Decidable (ListIsOf s eventType start))
  | .idle => .isTrue trivial
  | .checking _ _ => .isTrue trivial
  | .running _ _ => .isTrue trivial
  | .marking _ _ _ => .isTrue trivial

/-- An event is listed on the date of its execution. -/
def ListsOnDate (s : System W K) : Execution K→Prop
  | .running eventType start => ListIsOf s eventType start
  | _ => True

instance (s : System W K) : (x : Execution K)→Decidable (ListsOnDate s x)
  | .running eventType start => inferInstanceAs (Decidable (ListIsOf s eventType start))
  | .idle => .isTrue trivial
  | .checking _ _ => .isTrue trivial
  | .checked _ _ _ => .isTrue trivial
  | .marking _ _ _ => .isTrue trivial

/-- Executions of one event and date do not meet, and stay on their date. -/
def Separate (s : System W K) : Event W K→Prop
  | .check task _ => ChecksAlone s (s.execution task)
  | .resume task now => ResumesOnDate s now (s.execution task)
  | .finish task _ _ => ListsOnDate s (s.execution task)
  | _ => True

instance [Fintype W] (s : System W K) : (e : Event W K)→Decidable (Separate s e)
  | .check task _ => inferInstanceAs (Decidable (ChecksAlone s (s.execution task)))
  | .resume task now => inferInstanceAs (Decidable (ResumesOnDate s now (s.execution task)))
  | .finish task _ _ => inferInstanceAs (Decidable (ListsOnDate s (s.execution task)))
  | .iterate _ _ => .isTrue trivial
  | .wake _ _ => .isTrue trivial
  | .call _ _ _ => .isTrue trivial
  | .mark _ _ => .isTrue trivial
  | .pause _ => .isTrue trivial
  | .restart _ => .isTrue trivial
  | .load _ => .isTrue trivial

/-- A run of one process whose executions do not meet. -/
def RunsSeparately (s : System W K) (e : Event W K) : Prop :=
  Returns e ∧ Separate s e ∧ KeyLasts s e

instance [Fintype W] (s : System W K) (e : Event W K) : Decidable (RunsSeparately s e) :=
  inferInstanceAs (Decidable (_ ∧ _ ∧ _))

/-- How often the handler of an event has started on a date. -/
def startsOn (starts : List (Start K)) (eventType : ScheduleEventType) (date : ℤ) : ℕ :=
  starts.countP fun start => start.eventType=eventType ∧ dateOf start.time=date

/-- No handler starts twice on a date, and listed events have started on the date of
the list. -/
def RunsOnce (s : System W K) : Prop :=
  (∀ eventType date,startsOn s.starts eventType date≤1) ∧
  ∀ eventType∈s.state.eventsExecutedToday,
    ∃ date,s.state.currentDate=some date ∧ 0< startsOn s.starts eventType date

/-- What is known of an execution. -/
def Knows (s : System W K) : Execution K→Prop
  | .idle => True
  | .checking _ start => start≤ s.clock
  | .checked eventType start found => start≤ s.clock ∧
    (found=true→0< startsOn s.starts eventType (dateOf start)) ∧
    (found=false→startsOn s.starts eventType (dateOf start)=0 ∨
      midnight K (dateOf start+1)≤ s.clock)
  | .running eventType start => start≤ s.clock ∧ 0< startsOn s.starts eventType (dateOf start)
  | .marking eventType start counted =>
    start≤ counted ∧ 0< startsOn s.starts eventType (dateOf start)

/-- Executions that run separately: every start is pending or has its key. -/
structure Apart (s : System W K) : Prop where
  /-- One execution is pending for an event and a date. -/
  alone : ∀ task other eventType date,(s.execution task).pendingFor=some (eventType,date)→
    (s.execution other).pendingFor=some (eventType,date)→task=other
  /-- Executions. -/
  knows : ∀ task,Knows s (s.execution task)
  /-- Keys have a start. -/
  keyed : ∀ eventType date,s.keys eventType date≠none→0< startsOn s.starts eventType date
  /-- Starts have a key. -/
  kept : ∀ eventType date,0< startsOn s.starts eventType date→
    (∃ task,(s.execution task).pendingFor=some (eventType,date)) ∨ LastsUntil s.keys eventType date
  /-- Starts. -/
  once : RunsOnce s
  /-- No process has restarted. -/
  begun : ∀ startedAt,s.loop≠.loading startedAt

variable {s s' : System W K}

/-- One more start of an event on a date. -/
theorem startsOn_cons_self (starts : List (Start K)) (start : Start K) :
    startsOn (start::starts) start.eventType (dateOf start.time)=
      startsOn starts start.eventType (dateOf start.time)+1 :=
  List.countP_cons_of_pos (decide_eq_true ⟨rfl,rfl⟩)

/-- The first start of an event on a date. -/
theorem startsOn_first {starts : List (Start K)} {start : Start K} {eventType : ScheduleEventType}
    {date : ℤ} (htype : start.eventType=eventType) (hdate : dateOf start.time=date)
    (hzero : startsOn starts eventType date=0) : startsOn (start::starts) eventType date=1 := by
  subst htype hdate
  rw [startsOn_cons_self,hzero]

/-- A start counts for its own event and date only. -/
theorem startsOn_cons_other {starts : List (Start K)} {start : Start K}
    {eventType : ScheduleEventType} {date : ℤ}
    (h : ¬(start.eventType=eventType ∧ dateOf start.time=date)) :
    startsOn (start::starts) eventType date=startsOn starts eventType date :=
  List.countP_cons_of_neg fun htrue => h (of_decide_eq_true htrue)

/-- Starts are never forgotten. -/
theorem startsOn_le_cons (starts : List (Start K)) (start : Start K)
    (eventType : ScheduleEventType) (date : ℤ) :
    startsOn starts eventType date≤ startsOn (start::starts) eventType date :=
  (List.sublist_cons_self start starts).countP_le

/-- Time does not change what is known of an execution. -/
theorem Knows.mono {x : Execution K} (h : Knows s x) (hclock : s.clock≤ s'.clock)
    (hstarts : s'.starts=s.starts) : Knows s' x := by
  unfold Knows at h ⊢
  rw [hstarts]
  cases x with
  | idle => trivial
  | checking eventType start => exact h.trans hclock
  | checked eventType start found =>
    refine ⟨h.1.trans hclock,h.2.1,fun hfound => ?_⟩
    cases h.2.2 hfound with
    | inl hzero => exact .inl hzero
    | inr hpassed => exact .inr (hpassed.trans hclock)
  | running eventType start => exact ⟨h.1.trans hclock,h.2⟩
  | marking eventType start counted => exact h

variable [DecidableEq W]

/-- One execution moves and no handler starts; if it becomes pending, no other is. -/
theorem Apart.moved (h : Apart s) (task : Option W) (x : Execution K) (hclock : s.clock≤ s'.clock)
    (hkeys : s'.keys=s.keys) (hstarts : s'.starts=s.starts)
    (hexecution : s'.execution=Function.update s.execution task x)
    (honce : RunsOnce s') (hbegun : ∀ startedAt,s'.loop≠.loading startedAt) (hknows : Knows s' x)
    (hkept : ∀ eventType date,(s.execution task).pendingFor=some (eventType,date)→
      x.pendingFor=some (eventType,date))
    (halone : ∀ other eventType date,other≠task→x.pendingFor=some (eventType,date)→
      (s.execution other).pendingFor≠some (eventType,date)) : Apart s' := by
  have hself : s'.execution task=x := by rw [hexecution,Function.update_self]
  have hother : ∀ other,other≠task→s'.execution other=s.execution other := by
    intro other hne
    rw [hexecution,Function.update_of_ne hne]
  refine ⟨?_,?_,?_,?_,honce,hbegun⟩
  · intro first second eventType date hfirst hsecond
    by_cases hf : first=task
    · by_cases hs : second=task
      · rw [hf,hs]
      · rw [hf,hself] at hfirst
        rw [hother second hs] at hsecond
        exact absurd hsecond (halone second eventType date hs hfirst)
    · rw [hother first hf] at hfirst
      by_cases hs : second=task
      · rw [hs,hself] at hsecond
        exact absurd hfirst (halone first eventType date hf hsecond)
      · rw [hother second hs] at hsecond
        exact h.alone first second eventType date hfirst hsecond
  · intro other
    by_cases hne : other=task
    · rw [hne,hself]
      exact hknows
    · rw [hother other hne]
      exact (h.knows other).mono hclock hstarts
  · rw [hkeys,hstarts]
    exact h.keyed
  · rw [hkeys,hstarts]
    intro eventType date hpos
    cases h.kept eventType date hpos with
    | inr hlasts => exact .inr hlasts
    | inl hpending =>
      obtain ⟨holder,hholder⟩ := hpending
      by_cases hne : holder=task
      · rw [hne] at hholder
        exact .inl ⟨task,by rw [hself]; exact hkept eventType date hholder⟩
      · exact .inl ⟨holder,by rw [hother holder hne]; exact hholder⟩

/-- An execution that is not pending is called, skips or keeps asking. -/
theorem Apart.idle (h : Apart s) (task : Option W) (x : Execution K) (hclock : s.clock≤ s'.clock)
    (hkeys : s'.keys=s.keys) (hstarts : s'.starts=s.starts)
    (hexecution : s'.execution=Function.update s.execution task x)
    (honce : RunsOnce s') (hbegun : ∀ startedAt,s'.loop≠.loading startedAt) (hknows : Knows s' x)
    (hbefore : (s.execution task).pendingFor=none) (hafter : x.pendingFor=none) : Apart s' := by
  refine h.moved task x hclock hkeys hstarts hexecution honce hbegun hknows ?_ ?_
  · intro eventType date hpending
    rw [hbefore] at hpending
    cases hpending
  · intro other eventType date _ hpending
    rw [hafter] at hpending
    cases hpending

/-- The loop calls `_execute_event`. -/
theorem Apart.attempt (h : Apart s) (schedule : List (ScheduleEvent K))
    (eventType : ScheduleEventType) {start : K} (hstart : s.clock≤ start)
    (hidle : s.execution none=.idle) : Apart (s.attempt schedule eventType start) := by
  refine h.idle none _ hstart rfl rfl rfl h.once (fun _ => nofun) le_rfl ?_ rfl
  rw [hidle]
  rfl

omit [DecidableEq W] in
/-- A new trading day begins with no executed events. -/
theorem Apart.newDay (h : Apart s) (today : ℤ) : Apart (s.newDay today) := by
  unfold System.newDay
  split
  · exact h
  · exact ⟨h.alone,h.knows,h.keyed,h.kept,⟨h.once.1,fun _ hl => (List.not_mem_nil hl).elim⟩,h.begun⟩

omit [DecidableEq W] in
/-- The loop sleeps. -/
theorem Apart.sleep (h : Apart s) {now : K} (hnow : s.clock≤now) (loop : LoopPhase K)
    (hbegun : ∀ startedAt,loop≠.loading startedAt) :
    Apart {s with clock := now,loop := loop} :=
  ⟨h.alone,fun task => (h.knows task).mono hnow rfl,h.keyed,h.kept,h.once,hbegun⟩

/-- The loop iterates. -/
theorem Apart.iterate (h : Apart s) (isTradingDay : ℤ→Bool) (schedule : List (ScheduleEvent K))
    {now start : K} (hnow : s.clock≤now) (hstart : now≤ start) (hidle : s.execution none=.idle) :
    Apart (s.iterate isTradingDay schedule now start) := by
  have hday := h.newDay (dateOf now)
  obtain ⟨hclock,hexecution,_⟩ := s.newDay_same (dateOf now)
  have hdayNow : (s.newDay (dateOf now)).clock≤now := hclock.le.trans hnow
  obtain heq | ⟨_,heq | ⟨event,_,_,⟨_,heq⟩ | ⟨_,heq⟩⟩⟩ :=
    s.iterate_cases isTradingDay schedule now start
  · rw [heq]
    exact h.sleep hnow _ h.begun
  · rw [heq]
    exact hday.sleep hdayNow _ hday.begun
  · rw [heq]
    exact hday.sleep hdayNow _ fun _ => nofun
  · rw [heq]
    exact hday.attempt schedule _ (hdayNow.trans hstart) ((congrFun hexecution none).trans hidle)

/-- `run_event_now`. -/
theorem Apart.call (h : Apart s) (task : Option W) (eventType : ScheduleEventType) {start : K}
    (hstart : s.clock≤ start) (hidle : s.execution task=.idle) :
    Apart (s.move task start (.checking eventType start)) := by
  refine h.idle task _ hstart rfl rfl rfl h.once h.begun le_rfl ?_ rfl
  rw [hidle]
  rfl

/-- An event that was found has started on the date, and is listed. -/
theorem Apart.skip (h : Apart s) (task : Option W) {now start : K} {eventType : ScheduleEventType}
    (hat : s.execution task=.checked eventType start true) (hnow : s.clock≤now)
    (hlist : ListIsOf s eventType start) : Apart (s.resume task now eventType start true) := by
  have hknows := h.knows task
  rw [hat] at hknows
  have hpos := hknows.2.1 rfl
  refine h.idle task .idle hnow rfl rfl rfl ⟨h.once.1,?_⟩ h.begun trivial (by rw [hat]; rfl) rfl
  intro listed hlisted
  unfold System.resume at hlisted ⊢
  rw [if_pos rfl] at hlisted ⊢
  dsimp only at hlisted ⊢
  by_cases hmem : eventType∈s.state.eventsExecutedToday
  · rw [if_pos hmem] at hlisted ⊢
    exact h.once.2 listed hlisted
  · rw [if_neg hmem] at hlisted ⊢
    cases List.mem_append.mp hlisted with
    | inl hold => exact h.once.2 listed hold
    | inr hnew =>
      rw [List.mem_singleton.mp hnew]
      exact ⟨dateOf start,hlist.resolve_left hmem,hpos⟩

/-- A handler returns, and its event is listed. -/
theorem Apart.finish (h : Apart s) (task : Option W) {now start : K}
    {eventType : ScheduleEventType} (hat : s.execution task=.running eventType start)
    (hnow : s.clock≤now) (hlist : ListIsOf s eventType start) :
    Apart (s.finish task false now eventType start) := by
  have hknows := h.knows task
  rw [hat] at hknows
  refine h.moved task (.marking eventType start now) hnow rfl rfl rfl ⟨h.once.1,?_⟩ h.begun
    ⟨hknows.1.trans hnow,hknows.2⟩ ?_ ?_
  · intro listed hlisted
    cases List.mem_append.mp hlisted with
    | inl hold => exact h.once.2 listed hold
    | inr hnew =>
      rw [List.mem_singleton.mp hnew]
      cases hlist with
      | inl hmem => exact h.once.2 eventType hmem
      | inr hdate => exact ⟨dateOf start,hdate,hknows.2⟩
  · intro pendingType date hpending
    rw [hat] at hpending
    exact hpending
  · intro other pendingType date hne hpending hboth
    apply hne
    refine h.alone other task pendingType date hboth ?_
    rw [hat]
    exact hpending

variable [IsStrictOrderedRing K]

omit [IsStrictOrderedRing K] in
/-- Redis answers: when no key is found, either none has started or the date is over. -/
theorem Apart.check (h : Apart s) (task : Option W) {now start : K} {eventType : ScheduleEventType}
    (hat : s.execution task=.checking eventType start) (hnow : s.clock≤now)
    (hseparate : ∀ other,(s.execution other).pendingFor≠some (eventType,dateOf start)) :
    Apart (s.move task now
      (.checked eventType start (isExecuted s.keys eventType (dateOf start) now))) := by
  have hknows := h.knows task
  rw [hat] at hknows
  refine h.moved task _ hnow rfl rfl rfl h.once h.begun ⟨hknows.trans hnow,?_,?_⟩ ?_ ?_
  · intro hfound
    apply h.keyed
    intro hnone
    unfold isExecuted at hfound
    rw [hnone] at hfound
    cases hfound
  · intro hmissing
    by_cases hpos : 0< startsOn s.starts eventType (dateOf start)
    · cases h.kept eventType (dateOf start) hpos with
      | inl hpending =>
        obtain ⟨holder,hholder⟩ := hpending
        exact absurd hholder (hseparate holder)
      | inr hlasts => exact .inr (hlasts.passed hmissing)
    · exact .inl (Nat.eq_zero_of_not_pos hpos)
  · intro pendingType date hpending
    rw [hat] at hpending
    cases hpending
  · intro other pendingType date _ hpending
    cases hfound : isExecuted s.keys eventType (dateOf start) now with
    | true =>
      rw [hfound] at hpending
      cases hpending
    | false =>
      rw [hfound] at hpending
      cases hpending
      exact hseparate other

omit [DecidableEq W] [IsStrictOrderedRing K] in
/-- A start of another event or date does not change what is known of an execution. -/
theorem Knows.start {x : Execution K} (h : Knows s x) {st : Start K}
    (hclock : s.clock≤ s'.clock) (hstarts : s'.starts=st::s.starts)
    (hother : x.pendingFor≠some (st.eventType,dateOf st.time)) : Knows s' x := by
  have hpos : ∀ eventType date,0< startsOn s.starts eventType date→
      0< startsOn s'.starts eventType date := by
    intro eventType date hold
    rw [hstarts]
    exact hold.trans_le (startsOn_le_cons s.starts st eventType date)
  cases x with
  | idle => trivial
  | checking eventType start => exact h.trans hclock
  | checked eventType start found =>
    refine ⟨h.1.trans hclock,fun hfound => hpos _ _ (h.2.1 hfound),fun hfound => ?_⟩
    cases h.2.2 hfound with
    | inr hpassed => exact .inr (hpassed.trans hclock)
    | inl hzero =>
      left
      rw [hstarts,startsOn_cons_other,hzero]
      rintro ⟨htype,hdate⟩
      apply hother
      rw [htype,hdate,hfound]
      rfl
  | running eventType start => exact ⟨h.1.trans hclock,hpos _ _ h.2⟩
  | marking eventType start counted => exact ⟨h.1,hpos _ _ h.2⟩

omit [IsStrictOrderedRing K] in
/-- The start of a handler leaves what is pending. -/
theorem resume_pendingFor {task : Option W} {start : K} {eventType : ScheduleEventType}
    (hat : s.execution task=.checked eventType start false) (now : K) (other : Option W) :
    ((s.resume task now eventType start false).execution other).pendingFor=
      (s.execution other).pendingFor := by
  have hexecution : (s.resume task now eventType start false).execution=
      Function.update s.execution task (.running eventType start) := rfl
  rw [hexecution]
  by_cases hne : other=task
  · rw [hne,Function.update_self,hat]
    rfl
  · rw [Function.update_of_ne hne]

/-- The handler of an event starts for the first time on its date. -/
theorem Apart.run (h : Apart s) (task : Option W) {now start : K} {eventType : ScheduleEventType}
    (hat : s.execution task=.checked eventType start false) (hnow : s.clock≤now)
    (hdate : dateOf now=dateOf start) : Apart (s.resume task now eventType start false) := by
  have hknows := h.knows task
  rw [hat] at hknows
  have hzero : startsOn s.starts eventType (dateOf start)=0 := by
    cases hknows.2.2 rfl with
    | inl hzero => exact hzero
    | inr hpassed => exact absurd hdate (dateOf_ne_of_le (hpassed.trans hnow))
  have hpending := resume_pendingFor hat now
  obtain ⟨s',hs'⟩ : ∃ s',s.resume task now eventType start false=s' := ⟨_,rfl⟩
  have hself : s'.execution task=.running eventType start := by
    rw [←hs']
    exact Function.update_self _ _ _
  have hother : ∀ other,other≠task→s'.execution other=s.execution other := by
    intro other hne
    rw [←hs']
    exact Function.update_of_ne hne _ _
  obtain ⟨st,hst,htype,htime⟩ : ∃ st : Start K,s'.starts=st::s.starts ∧ st.eventType=eventType ∧
      dateOf st.time=dateOf start := by
    rw [←hs']
    exact ⟨_,rfl,rfl,hdate⟩
  have hone : startsOn s'.starts eventType (dateOf start)=1 := by
    rw [hst]
    exact startsOn_first htype htime hzero
  have hothers : ∀ otherType date,¬(otherType=eventType ∧ date=dateOf start)→
      startsOn s'.starts otherType date=startsOn s.starts otherType date := by
    intro otherType date hne
    rw [hst]
    exact startsOn_cons_other fun hboth =>
      hne ⟨hboth.1.symm.trans htype,hboth.2.symm.trans htime⟩
  have hpos : ∀ otherType date,0< startsOn s.starts otherType date→
      0< startsOn s'.starts otherType date := by
    intro otherType date hold
    rw [hst]
    exact hold.trans_le (startsOn_le_cons s.starts st otherType date)
  have hkeys : s'.keys=s.keys := hs' ▸ rfl
  have hstate : s'.state=s.state := hs' ▸ rfl
  have hclock : s.clock≤ s'.clock := hs' ▸ hnow
  have hloop : s'.loop=s.loop := hs' ▸ rfl
  rw [hs'] at hpending ⊢
  refine ⟨?_,?_,?_,?_,⟨?_,?_⟩,hloop ▸ h.begun⟩
  · intro first second otherType date hfirst hsecond
    rw [hpending] at hfirst hsecond
    exact h.alone first second otherType date hfirst hsecond
  · intro other
    by_cases hne : other=task
    · rw [hne,hself]
      exact ⟨hknows.1.trans hclock,hone ▸ Nat.one_pos⟩
    · rw [hother other hne]
      refine (h.knows other).start hclock hst fun hboth => hne (h.alone other task _ _ hboth ?_)
      rw [hat,htype,htime]
      rfl
  · intro otherType date hkey
    rw [hkeys] at hkey
    exact hpos otherType date (h.keyed otherType date hkey)
  · intro otherType date hstarted
    rw [hkeys]
    by_cases hsame : otherType=eventType ∧ date=dateOf start
    · refine .inl ⟨task,?_⟩
      rw [hself,hsame.1,hsame.2]
      rfl
    · rw [hothers otherType date hsame] at hstarted
      cases h.kept otherType date hstarted with
      | inl hholder =>
        obtain ⟨holder,hholder⟩ := hholder
        exact .inl ⟨holder,(hpending holder).trans hholder⟩
      | inr hlasts => exact .inr hlasts
  · intro otherType date
    by_cases hsame : otherType=eventType ∧ date=dateOf start
    · rw [hsame.1,hsame.2,hone]
    · rw [hothers otherType date hsame]
      exact h.once.1 otherType date
  · intro listed hlisted
    rw [hstate] at hlisted ⊢
    obtain ⟨date,hcurrent,hstarted⟩ := h.once.2 listed hlisted
    exact ⟨date,hcurrent,hpos listed date hstarted⟩

/-- The key of a started event is written and lasts. -/
theorem Apart.mark (h : Apart s) (task : Option W) {now start counted : K}
    {eventType : ScheduleEventType} (hat : s.execution task=.marking eventType start counted)
    (hnow : s.clock≤now) (hlasts : KeyLasts s (.mark task now)) :
    Apart (s.mark task now eventType start counted) := by
  have hknows := h.knows task
  rw [hat] at hknows
  dsimp only [KeyLasts] at hlasts
  rw [hat] at hlasts
  have hexpiry := midnight_le_expiry hlasts (dateOf_mono hknows.1)
  obtain ⟨s',hs'⟩ : ∃ s',s.mark task now eventType start counted=s' := ⟨_,rfl⟩
  have hself : s'.execution task=.idle := by
    rw [←hs']
    exact Function.update_self _ _ _
  have hother : ∀ other,other≠task→s'.execution other=s.execution other := by
    intro other hne
    rw [←hs']
    exact Function.update_of_ne hne _ _
  have hkeep : ∀ other otherType date,(s'.execution other).pendingFor=some (otherType,date)→
      (s.execution other).pendingFor=some (otherType,date) := by
    intro other otherType date hpending
    by_cases hne : other=task
    · rw [hne,hself] at hpending
      cases hpending
    · rw [hother other hne] at hpending
      exact hpending
  have hclock : s.clock≤ s'.clock := hs' ▸ hnow
  have hstarts : s'.starts=s.starts := hs' ▸ rfl
  have hkeys : s'.keys=Function.update s.keys eventType (Function.update (s.keys eventType)
      (dateOf start) (setEx now (ttlUntilNextMidnight counted : K) counted)) := hs' ▸ rfl
  rw [hs']
  refine ⟨?_,?_,?_,?_,hs' ▸ h.once,hs' ▸ h.begun⟩
  · intro first second otherType date hfirst hsecond
    exact h.alone first second otherType date (hkeep _ _ _ hfirst) (hkeep _ _ _ hsecond)
  · intro other
    by_cases hne : other=task
    · rw [hne,hself]
      trivial
    · rw [hother other hne]
      exact (h.knows other).mono hclock hstarts
  · intro otherType date hkey
    rw [hstarts]
    by_cases htype : otherType=eventType
    · subst htype
      by_cases hdate : date=dateOf start
      · rw [hdate]
        exact hknows.2
      · rw [hkeys,Function.update_self,Function.update_of_ne hdate] at hkey
        exact h.keyed _ _ hkey
    · rw [hkeys,Function.update_of_ne htype] at hkey
      exact h.keyed _ _ hkey
  · intro otherType date hstarted
    rw [hstarts] at hstarted
    rw [hkeys]
    by_cases hsame : otherType=eventType ∧ date=dateOf start
    · right
      rw [hsame.1,hsame.2]
      refine ⟨⟨counted,now+(ttlUntilNextMidnight counted : K)⟩,?_,hexpiry⟩
      rw [Function.update_self,Function.update_self]
      rfl
    · cases h.kept otherType date hstarted with
      | inr hold => exact .inr (hold.write ⟨_,rfl,hexpiry⟩)
      | inl hpending =>
        obtain ⟨holder,hholder⟩ := hpending
        refine .inl ⟨holder,?_⟩
        by_cases hne : holder=task
        · rw [hne,hat] at hholder
          cases hholder
          exact absurd ⟨rfl,rfl⟩ hsame
        · rw [hother holder hne]
          exact hholder

/-- Steps of a run whose executions do not meet keep them apart. -/
theorem Apart.step (h : Apart s) (isTradingDay : ℤ→Bool) (schedule : List (ScheduleEvent K))
    {e : Event W K} (hallowed : RunsSeparately s e)
    (hs : TradingScheduler.step isTradingDay schedule s e=some s') : Apart s' := by
  obtain ⟨hreturns,hseparate,hlasts⟩ := hallowed
  cases e with
  | iterate now start =>
    obtain ⟨⟨hnow,hstart,_,hidle⟩,heq⟩ := Option.ite_none_right_eq_some.mp hs
    cases heq
    exact h.iterate isTradingDay schedule hnow hstart hidle
  | wake now start =>
    obtain ⟨event,eventTime,_,hnow,hstart,hidle,hearly | hdue⟩ := step_wake hs
    · obtain ⟨_,rfl⟩ := hearly
      exact h.sleep hnow _ fun _ => nofun
    · obtain ⟨_,rfl⟩ := hdue
      exact h.attempt schedule _ (hnow.trans hstart) hidle
  | call w eventType start =>
    obtain ⟨⟨hstart,hidle,_⟩,heq⟩ := Option.ite_none_right_eq_some.mp hs
    cases heq
    exact h.call (some w) eventType hstart hidle
  | check task now =>
    obtain ⟨eventType,start,hat,hnow,rfl⟩ := step_check hs
    dsimp only [Separate] at hseparate
    rw [hat] at hseparate
    exact h.check task hat hnow hseparate
  | resume task now =>
    obtain ⟨eventType,start,found,hat,hnow,rfl⟩ := step_resume hs
    dsimp only [Separate] at hseparate
    rw [hat] at hseparate
    cases found with
    | true => exact h.skip task hat hnow hseparate
    | false => exact h.run task hat hnow hseparate
  | finish task raised now =>
    obtain ⟨eventType,start,hat,hnow,rfl⟩ := step_finish hs
    dsimp only [Separate] at hseparate
    rw [hat] at hseparate
    cases hreturns
    exact h.finish task hat hnow hseparate
  | mark task now =>
    obtain ⟨eventType,start,counted,hat,hnow,rfl⟩ := step_mark hs
    exact h.mark task hat hnow hlasts
  | pause paused =>
    cases hs
    exact ⟨h.alone,h.knows,h.keyed,h.kept,h.once,h.begun⟩
  | restart now => exact hreturns.elim
  | load now =>
    obtain ⟨startedAt,hloop,_⟩ := step_load hs
    exact absurd hloop (h.begun startedAt)

/-- In every run of one process, with manual executions beside the loop and handlers
that return, in which no two executions of an event and date overlap between the
check and the record, no date changes between a check and its handler's start or
before the event is listed, and keys last until midnight, no handler starts twice on
a date, and the listed events have started on the date of the list. -/
theorem runs_once {isTradingDay : ℤ→Bool} {schedule : List (ScheduleEvent K)} {now : K}
    (hrun : Reaches (step isTradingDay schedule) RunsSeparately (System.start W now) s) :
    RunsOnce s := by
  have hapart : Apart s := by
    refine hrun.invariant (P := Apart) ?_ ?_
    · refine ⟨fun _ _ _ _ => nofun,fun _ => trivial,fun _ _ hkey => absurd rfl hkey,
        fun _ _ hpos => absurd hpos (lt_irrefl 0),⟨fun _ _ => Nat.zero_le 1,?_⟩,fun _ => nofun⟩
      exact fun _ hlisted => (List.not_mem_nil hlisted).elim
    · intro s e s' _ hs hallowed hstep
      exact hs.step isTradingDay schedule hallowed hstep
  exact hapart.once

/-- The loop skips what a manual execution has completed, and runs the next event
beside another one. -/
theorem runs_once_manual :
    ∃ s : System Unit ℚ,s.starts.length=3 ∧
      s.state.eventsExecutedToday=[.preMarket,.marketClose,.marketOpen] ∧ RunsOnce s := by
  obtain ⟨s,_,hq,hrun⟩ := play_ends (step (fun _ => true) (defaultSchedule ℚ)) RunsSeparately
    (System.start Unit 0)
    (fun s => s.starts.length=3 ∧
      s.state.eventsExecutedToday=[.preMarket,.marketClose,.marketOpen])
    [.iterate 30000 30000,.call () .preMarket 30010,.check (some ()) 30010,
      .resume (some ()) 30010,.finish (some ()) false 30020,.mark (some ()) 30021,
      .wake 30600 30600,.check none 30601,.resume none 30601,.call () .marketClose 32000,
      .check (some ()) 32000,.iterate 32400 32400,.check none 32400,.resume (some ()) 32401,
      .resume none 32401,.finish (some ()) false 32402,.finish none false 32403,.mark none 32404,
      .mark (some ()) 32405] (by decide +kernel)
  exact ⟨s,hq.1,hq.2,runs_once hrun⟩

/-- Two calls of `run_event_now` are both checked before either is recorded. -/
theorem manual_runs_overlap :
    ¬∀ s : System Bool ℚ,Reaches (step (fun _ => true) (defaultSchedule ℚ)) (fun _ => Returns)
      (System.start Bool 0) s→RunsOnce s := by
  intro hall
  obtain ⟨s,_,htwice,hrun⟩ :=
    play_ends (step (fun _ => true) (defaultSchedule ℚ)) (fun _ => Returns) (System.start Bool 0)
      (fun s => startsOn s.starts .marketOpen 0=2)
      [.call true .marketOpen 32400,.check (some true) 32400,.call false .marketOpen 32400,
        .check (some false) 32400,.resume (some true) 32400,.resume (some false) 32400]
      (by decide +kernel)
  have honce := (hall s hrun).1 .marketOpen 0
  omega

end Aqts.TradingScheduler
