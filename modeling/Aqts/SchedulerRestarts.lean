import Aqts.TradingScheduler

/-!
# Events recorded in Redis

A key of `mark_executed` is to answer for the rest of its date, and a restarted
process is not to run its handler again on that date. Both hold in any run, with
manual executions, failing handlers and restarts, as long as every key is
written to last until the next midnight: its lifetime is a whole number of
seconds, rounded down from the time at which it is counted, so the key may end
before.
-/

namespace Aqts.TradingScheduler

open GuardedRuns ExpiringSlot

variable {W K : Type*} [DecidableEq W] [Field K] [LinearOrder K] [FloorRing K]

/-- The command of a key takes effect within the last minute of its date, or not
before the next whole second after its lifetime was counted. -/
def Execution.KeyLasts (now : K) : Execution K→Prop
  | .marking _ start counted => midnight K (dateOf start+1)≤now+60 ∨ (⌈counted⌉ : K)≤now
  | _ => True

instance (now : K) : (x : Execution K)→Decidable (x.KeyLasts now)
  | .marking _ start counted =>
    inferInstanceAs (Decidable (midnight K (dateOf start+1)≤now+60 ∨ (⌈counted⌉ : K)≤now))
  | .idle => .isTrue trivial
  | .checking _ _ => .isTrue trivial
  | .checked _ _ _ => .isTrue trivial
  | .running _ _ => .isTrue trivial

/-- Every key is written to last until midnight. -/
def KeyLasts (s : System W K) : Event W K→Prop
  | .mark task now => (s.execution task).KeyLasts now
  | _ => True

instance (s : System W K) : (e : Event W K)→Decidable (KeyLasts s e)
  | .mark task now => inferInstanceAs (Decidable ((s.execution task).KeyLasts now))
  | .iterate _ _ => .isTrue trivial
  | .wake _ _ => .isTrue trivial
  | .call _ _ _ => .isTrue trivial
  | .check _ _ => .isTrue trivial
  | .resume _ _ => .isTrue trivial
  | .finish _ _ _ => .isTrue trivial
  | .pause _ => .isTrue trivial
  | .restart _ => .isTrue trivial
  | .load _ => .isTrue trivial

/-- What was recorded on its date is reported as executed for the rest of the date,
and after a restart its handler does not start on that date again. -/
def RecordsHold (s : System W K) : Prop :=
  (∀ r∈s.records,dateOf r.time=r.date→
    ∀ now,s.clock≤now→dateOf now=r.date→isExecuted s.keys r.eventType r.date now=true) ∧
  ∀ start∈s.starts,start.again=false

/-- A key that lasts until the end of its date. -/
def LastsUntil (keys : ScheduleEventType→ℤ→Slot K K) (eventType : ScheduleEventType) (date : ℤ) :
    Prop :=
  ∃ entry,keys eventType date=some entry ∧ midnight K (date+1)≤entry.expiresAt

/-- An execution was called in the present process. -/
def Called (s : System W K) (start : K) : Prop :=
  start≤ s.clock ∧ ∀ r∈s.recordsBefore,r.time≤ start

/-- What is known of an execution: an execution that found no key has none of the
records from before the restart. -/
def Fits (s : System W K) : Execution K→Prop
  | .idle => True
  | .checking _ start => Called s start
  | .checked eventType start found => Called s start ∧ (found=false→
      ∀ r∈s.recordsBefore,r.eventType=eventType→ r.date=dateOf start→midnight K (r.date+1)≤ s.clock)
  | .running _ start => Called s start
  | .marking _ start counted => Called s start ∧ start≤ counted ∧ counted≤ s.clock

variable [IsStrictOrderedRing K] {s s' : System W K}

omit [FloorRing K] [IsStrictOrderedRing K] in
/-- A key that lasts until the end of a date answers on that date. -/
theorem LastsUntil.isExecuted {keys : ScheduleEventType→ℤ→Slot K K} {eventType : ScheduleEventType}
    {date : ℤ} (h : LastsUntil keys eventType date) {now : K} (hnow : now< midnight K (date+1)) :
    TradingScheduler.isExecuted keys eventType date now=true := by
  obtain ⟨entry,hkey,hlasts⟩ := h
  unfold TradingScheduler.isExecuted
  rw [hkey,read_live (hnow.le.trans hlasts)]
  rfl

omit [FloorRing K] [IsStrictOrderedRing K] in
/-- A missing answer for a key that was to last comes after the end of its date. -/
theorem LastsUntil.passed {keys : ScheduleEventType→ℤ→Slot K K} {eventType : ScheduleEventType}
    {date : ℤ} (h : LastsUntil keys eventType date) {now : K}
    (hmissing : TradingScheduler.isExecuted keys eventType date now=false) :
    midnight K (date+1)≤now := by
  by_contra hbefore
  rw [h.isExecuted (not_le.mp hbefore)] at hmissing
  cases hmissing

/-- The counted lifetime, rounded down, reaches the next midnight when the command
takes effect late enough. -/
theorem midnight_le_expiry {date : ℤ} {counted now : K}
    (h : midnight K (date+1)≤now+60 ∨ (⌈counted⌉ : K)≤now) (hdate : date≤dateOf counted) :
    midnight K (date+1)≤now+(ttlUntilNextMidnight counted : K) := by
  have hclamp : (60 : K)≤(ttlUntilNextMidnight counted : K) := by
    have hmax : (60 : ℤ)≤ttlUntilNextMidnight counted := le_max_right _ _
    exact_mod_cast hmax
  cases h with
  | inl hminute => linarith
  | inr hceil =>
    -- the next midnight is a whole second, so only the fraction of `counted` is lost
    have hfloor : (dateOf counted+1)*86400-⌈counted⌉≤ttlUntilNextMidnight counted := by
      refine le_trans (Int.le_floor.mpr ?_) (le_max_left _ _)
      unfold midnight
      have := Int.le_ceil counted
      push_cast
      linarith
    have hcast : ((dateOf counted : K)+1)*86400-(⌈counted⌉ : K)≤(ttlUntilNextMidnight counted : K) := by
      exact_mod_cast hfloor
    have hdates : (date : K)≤(dateOf counted : K) := by exact_mod_cast hdate
    unfold midnight
    push_cast
    linarith

omit [FloorRing K] [IsStrictOrderedRing K] in
/-- Writing a key that lasts keeps every key that lasts. -/
theorem LastsUntil.write {keys : ScheduleEventType→ℤ→Slot K K} {eventType written : ScheduleEventType}
    {date on : ℤ} {slot : Slot K K} (h : LastsUntil keys eventType date)
    (hslot : ∃ entry,slot=some entry ∧ midnight K (on+1)≤entry.expiresAt) :
    LastsUntil (Function.update keys written (Function.update (keys written) on slot))
      eventType date := by
  by_cases htype : eventType=written
  · subst htype
    unfold LastsUntil
    rw [Function.update_self]
    by_cases hdate : date=on
    · subst hdate
      rw [Function.update_self]
      exact hslot
    · rw [Function.update_of_ne hdate]
      exact h
  · unfold LastsUntil
    rw [Function.update_of_ne htype]
    exact h

/-- The keys of the records last, and no handler starts again. -/
structure Recorded (s : System W K) : Prop where
  /-- Keys that were written. -/
  lasting : ∀ r∈s.records,LastsUntil s.keys r.eventType r.date
  /-- The clock is later than the records. -/
  recorded : ∀ r∈s.records,r.time≤ s.clock
  /-- Records from before the restart. -/
  before : ∀ r∈s.recordsBefore,r∈s.records
  /-- Executions. -/
  fits : ∀ task,Fits s (s.execution task)
  /-- Handlers. -/
  started : ∀ start∈s.starts,start.again=false

omit [DecidableEq W] [IsStrictOrderedRing K] in
omit [Field K] [FloorRing K] in
/-- A call stays one of the present process. -/
theorem Called.mono {start : K} (h : Called s start) (hclock : s.clock≤ s'.clock)
    (hbefore : s'.recordsBefore=s.recordsBefore) : Called s' start := by
  unfold Called
  rw [hbefore]
  exact ⟨h.1.trans hclock,h.2⟩

omit [DecidableEq W] [IsStrictOrderedRing K] in
/-- Time does not change what is known of an execution. -/
theorem Fits.mono {x : Execution K} (h : Fits s x) (hclock : s.clock≤ s'.clock)
    (hbefore : s'.recordsBefore=s.recordsBefore) : Fits s' x := by
  cases x with
  | idle => trivial
  | checking eventType start => exact Called.mono h hclock hbefore
  | checked eventType start found =>
    refine ⟨h.1.mono hclock hbefore,fun hfound r hr htype hdate => ?_⟩
    rw [hbefore] at hr
    exact (h.2 hfound r hr htype hdate).trans hclock
  | running eventType start => exact Called.mono h hclock hbefore
  | marking eventType start counted =>
    exact ⟨h.1.mono hclock hbefore,h.2.1,h.2.2.trans hclock⟩

omit [DecidableEq W] [IsStrictOrderedRing K] in
/-- A call after now is one of the present process. -/
theorem Recorded.called (h : Recorded s) {start : K} (hnow : s.clock≤ start)
    (hclock : start≤ s'.clock) (hbefore : s'.recordsBefore=s.recordsBefore) : Called s' start := by
  refine ⟨hclock,fun r hr => ?_⟩
  rw [hbefore] at hr
  exact (h.recorded r (h.before r hr)).trans hnow

omit [IsStrictOrderedRing K] in
/-- One execution moves and nothing is written. -/
theorem Recorded.moved (h : Recorded s) (task : Option W) (hclock : s.clock≤ s'.clock)
    (hkeys : s'.keys=s.keys) (hrecords : s'.records=s.records)
    (hbefore : s'.recordsBefore=s.recordsBefore) (hstarts : ∀ start∈s'.starts,start.again=false)
    (hothers : ∀ other,other≠task→s'.execution other=s.execution other)
    (hfits : Fits s' (s'.execution task)) : Recorded s' := by
  refine ⟨?_,?_,?_,?_,hstarts⟩
  · rw [hrecords,hkeys]
    exact h.lasting
  · rw [hrecords]
    exact fun r hr => (h.recorded r hr).trans hclock
  · rw [hrecords,hbefore]
    exact h.before
  · intro other
    by_cases heq : other=task
    · rw [heq]
      exact hfits
    · rw [hothers other heq]
      exact (h.fits other).mono hclock hbefore

omit [IsStrictOrderedRing K] in
/-- The loop calls `_execute_event`. -/
theorem Recorded.attempt (h : Recorded s) (schedule : List (ScheduleEvent K))
    (eventType : ScheduleEventType) {start : K} (hstart : s.clock≤ start) :
    Recorded (s.attempt schedule eventType start) := by
  refine h.moved none hstart rfl rfl rfl h.started
    (fun other hother => Function.update_of_ne hother _ _) ?_
  unfold System.attempt System.move
  dsimp only
  rw [Function.update_self]
  exact h.called hstart le_rfl rfl

omit [DecidableEq W] [IsStrictOrderedRing K] in
/-- The loop sleeps. -/
theorem Recorded.sleep (h : Recorded s) {now : K} (hnow : s.clock≤now) (loop : LoopPhase K) :
    Recorded {s with clock := now,loop := loop} :=
  ⟨h.lasting,fun r hr => (h.recorded r hr).trans hnow,h.before,
    fun task => (h.fits task).mono hnow rfl,h.started⟩

omit [DecidableEq W] [IsStrictOrderedRing K] in
/-- A new trading day leaves the records. -/
theorem Recorded.newDay (h : Recorded s) (today : ℤ) : Recorded (s.newDay today) := by
  unfold System.newDay
  split
  · exact h
  · exact ⟨h.lasting,h.recorded,h.before,h.fits,h.started⟩

omit [IsStrictOrderedRing K] in
/-- The loop iterates. -/
theorem Recorded.iterate (h : Recorded s) (isTradingDay : ℤ→Bool)
    (schedule : List (ScheduleEvent K)) {now start : K} (hnow : s.clock≤now) (hstart : now≤ start) :
    Recorded (s.iterate isTradingDay schedule now start) := by
  have hday := h.newDay (dateOf now)
  have hdayNow : (s.newDay (dateOf now)).clock≤now := (s.newDay_same (dateOf now)).1.le.trans hnow
  obtain heq | ⟨_,heq | ⟨event,_,_,⟨_,heq⟩ | ⟨_,heq⟩⟩⟩ :=
    s.iterate_cases isTradingDay schedule now start
  · rw [heq]
    exact h.sleep hnow _
  · rw [heq]
    exact hday.sleep hdayNow _
  · rw [heq]
    exact hday.sleep hdayNow _
  · rw [heq]
    exact hday.attempt schedule _ (hdayNow.trans hstart)

omit [IsStrictOrderedRing K] in
/-- An execution that is called, asks for its key or ends. -/
theorem Recorded.move (h : Recorded s) (task : Option W) {now : K} {x : Execution K}
    (hnow : s.clock≤now) (hfits : Fits (s.move task now x) x) : Recorded (s.move task now x) := by
  refine h.moved task hnow rfl rfl rfl h.started
    (fun other hother => Function.update_of_ne hother _ _) ?_
  have hself : (s.move task now x).execution task=x := Function.update_self _ _ _
  rw [hself]
  exact hfits

omit [IsStrictOrderedRing K] in
/-- Redis answers. -/
theorem Recorded.check (h : Recorded s) (task : Option W) {now start : K}
    {eventType : ScheduleEventType} (hat : s.execution task=.checking eventType start)
    (hnow : s.clock≤now) :
    Recorded (s.move task now
      (.checked eventType start (isExecuted s.keys eventType (dateOf start) now))) := by
  have hcalled : Called s start := by
    have hfits := h.fits task
    rw [hat] at hfits
    exact hfits
  refine h.move task hnow ⟨hcalled.mono hnow rfl,fun hfound r hr htype hdate => ?_⟩
  rw [←htype,←hdate] at hfound
  exact (h.lasting r (h.before r hr)).passed hfound

/-- An execution goes on: the handler of an event that was recorded before the restart
does not start. -/
theorem Recorded.resume (h : Recorded s) (task : Option W) {now start : K}
    {eventType : ScheduleEventType} {found : Bool}
    (hat : s.execution task=.checked eventType start found) (hnow : s.clock≤now) :
    Recorded (s.resume task now eventType start found) := by
  have hfits := h.fits task
  rw [hat] at hfits
  obtain ⟨hcalled,hmissed⟩ := hfits
  cases found with
  | true =>
    have hmove := h.move task hnow (x := .idle) trivial
    exact ⟨hmove.lasting,hmove.recorded,hmove.before,hmove.fits,hmove.started⟩
  | false =>
    have hmove := h.move task hnow (x := .running eventType start) (hcalled.mono hnow rfl)
    refine ⟨hmove.lasting,hmove.recorded,hmove.before,hmove.fits,?_⟩
    intro st hst
    cases List.mem_cons.mp hst with
    | inr hold => exact h.started st hold
    | inl heq =>
      rw [heq]
      apply decide_eq_false
      rintro ⟨r,hr,htype,hdate,htime⟩
      have hlow : dateOf now≤dateOf start := htime ▸ dateOf_mono (hcalled.2 r hr)
      have hhigh : dateOf start≤dateOf now := dateOf_mono (hcalled.1.trans hnow)
      have hpassed := hmissed rfl r hr htype (hdate.trans (le_antisymm hlow hhigh))
      exact dateOf_ne_of_le (hpassed.trans hnow) hdate.symm

omit [IsStrictOrderedRing K] in
/-- A handler ends. -/
theorem Recorded.finish (h : Recorded s) (task : Option W) (raised : Bool) {now start : K}
    {eventType : ScheduleEventType} (hat : s.execution task=.running eventType start)
    (hnow : s.clock≤now) : Recorded (s.finish task raised now eventType start) := by
  have hcalled : Called s start := by
    have hfits := h.fits task
    rw [hat] at hfits
    exact hfits
  cases raised with
  | true =>
    have hmove := h.move task hnow (x := .idle) trivial
    exact ⟨hmove.lasting,hmove.recorded,hmove.before,hmove.fits,hmove.started⟩
  | false =>
    have hmove := h.move task hnow (x := .marking eventType start now)
      ⟨hcalled.mono hnow rfl,hcalled.1.trans hnow,le_rfl⟩
    exact ⟨hmove.lasting,hmove.recorded,hmove.before,hmove.fits,hmove.started⟩

/-- A key is written that lasts until the end of its date. -/
theorem Recorded.mark (h : Recorded s) (task : Option W) {now start counted : K}
    {eventType : ScheduleEventType} (hat : s.execution task=.marking eventType start counted)
    (hnow : s.clock≤now) (hlasts : KeyLasts s (.mark task now)) :
    Recorded (s.mark task now eventType start counted) := by
  have hfits := h.fits task
  rw [hat] at hfits
  obtain ⟨hcalled,hcounted,hclock⟩ := hfits
  dsimp only [KeyLasts] at hlasts
  rw [hat] at hlasts
  have hexpiry := midnight_le_expiry hlasts (dateOf_mono hcounted)
  have hmove := h.move task hnow (x := .idle) trivial
  refine ⟨?_,?_,fun r hr => List.mem_cons_of_mem _ (h.before r hr),hmove.fits,h.started⟩
  · intro r hr
    cases List.mem_cons.mp hr with
    | inl heq =>
      rw [heq]
      refine ⟨⟨counted,now+(ttlUntilNextMidnight counted : K)⟩,?_,hexpiry⟩
      unfold System.mark
      dsimp only
      rw [Function.update_self,Function.update_self]
      rfl
    | inr hold => exact (h.lasting r hold).write ⟨_,rfl,hexpiry⟩
  · intro r hr
    cases List.mem_cons.mp hr with
    | inl heq =>
      rw [heq]
      exact le_rfl
    | inr hold => exact hmove.recorded r hold

omit [DecidableEq W] [IsStrictOrderedRing K] in
/-- The process restarts. -/
theorem Recorded.restart (h : Recorded s) {now : K} (hnow : s.clock≤now) :
    Recorded (s.restart now) :=
  ⟨h.lasting,fun r hr => (h.recorded r hr).trans hnow,fun _ hr => hr,fun _ => trivial,h.started⟩

/-- Steps that meet the condition keep the records. -/
theorem Recorded.step (h : Recorded s) (isTradingDay : ℤ→Bool) (schedule : List (ScheduleEvent K))
    {e : Event W K} (hlasts : KeyLasts s e)
    (hs : TradingScheduler.step isTradingDay schedule s e=some s') : Recorded s' := by
  cases e with
  | iterate now start =>
    obtain ⟨⟨hnow,hstart,_⟩,heq⟩ := Option.ite_none_right_eq_some.mp hs
    cases heq
    exact h.iterate isTradingDay schedule hnow hstart
  | wake now start =>
    obtain ⟨event,eventTime,_,hnow,hstart,_,hearly | hdue⟩ := step_wake hs
    · obtain ⟨_,rfl⟩ := hearly
      exact h.sleep hnow _
    · obtain ⟨_,rfl⟩ := hdue
      exact h.attempt schedule _ (hnow.trans hstart)
  | call w eventType start =>
    obtain ⟨⟨hstart,_⟩,heq⟩ := Option.ite_none_right_eq_some.mp hs
    cases heq
    exact h.move (some w) hstart (h.called hstart le_rfl rfl)
  | check task now =>
    obtain ⟨eventType,start,hat,hnow,rfl⟩ := step_check hs
    exact h.check task hat hnow
  | resume task now =>
    obtain ⟨eventType,start,found,hat,hnow,rfl⟩ := step_resume hs
    exact h.resume task hat hnow
  | finish task raised now =>
    obtain ⟨eventType,start,hat,hnow,rfl⟩ := step_finish hs
    exact h.finish task raised hat hnow
  | mark task now =>
    obtain ⟨eventType,start,counted,hat,hnow,rfl⟩ := step_mark hs
    exact h.mark task hat hnow hlasts
  | pause paused =>
    cases hs
    exact ⟨h.lasting,h.recorded,h.before,h.fits,h.started⟩
  | restart now =>
    obtain ⟨hnow,heq⟩ := Option.ite_none_right_eq_some.mp hs
    cases heq
    exact h.restart hnow
  | load now =>
    obtain ⟨startedAt,_,hnow,rfl⟩ := step_load hs
    exact h.moved none hnow rfl rfl rfl h.started (fun _ _ => rfl) ((h.fits none).mono hnow rfl)

omit [DecidableEq W] in
/-- Records that last hold. -/
theorem Recorded.hold (h : Recorded s) : RecordsHold s := by
  refine ⟨fun r hr _ now _ hdate => ?_,h.started⟩
  exact (h.lasting r hr).isExecuted (dateOf_eq_iff.mp hdate).2

/-- In every run in which each command of a key takes effect within the last minute
of its date, or not before the next whole second after its lifetime was counted,
what was recorded stays recorded for its date, also across restarts. -/
theorem records_hold {isTradingDay : ℤ→Bool} {schedule : List (ScheduleEvent K)} {now : K}
    (hrun : Reaches (step isTradingDay schedule) KeyLasts (System.start W now) s) :
    RecordsHold s := by
  have hrecorded : Recorded s := by
    refine hrun.invariant (P := Recorded) ?_ ?_
    · refine ⟨?_,?_,?_,fun _ => trivial,?_⟩
      all_goals exact fun _ h => (List.not_mem_nil h).elim
    · intro s e s' _ hs hlasts hstep
      exact hs.step isTradingDay schedule hlasts hstep
  exact hrecorded.hold

/-- `PRE_MARKET` is recorded and skipped after a restart, half a second before
midnight. -/
theorem records_hold_restart :
    ∃ s : System Unit ℚ,s.starts.length=1 ∧ s.recordsBefore.length=1 ∧ s.clock=86399+1/2 ∧
      s.state.eventsExecutedToday=[.preMarket] ∧ RecordsHold s := by
  obtain ⟨s,_,hq,hrun⟩ := play_ends (step (fun _ => true) (defaultSchedule ℚ)) KeyLasts
    (System.start Unit 0)
    (fun s => s.starts.length=1 ∧ s.recordsBefore.length=1 ∧ s.clock=86399+1/2 ∧
      s.state.eventsExecutedToday=[.preMarket])
    [.iterate 30600 30600,.check none 30600,.resume none 30600,.finish none false (30610+1/4),
      .mark none 30611,.restart 86399,.load 86399,.call () .preMarket (86399+1/4),
      .check (some ()) (86399+1/2),.resume (some ()) (86399+1/2)] (by decide +kernel)
  exact ⟨s,hq.1,hq.2.1,hq.2.2.1,hq.2.2.2,records_hold hrun⟩

/-- `PRE_MARKET` ends half a second past a whole second; its key ends as much before
midnight, and a process that starts then runs it again. -/
theorem record_expires_early :
    ¬∀ s : System Unit ℚ,Reaches (step (fun _ => true) (defaultSchedule ℚ)) (fun _ _ => True)
      (System.start Unit 0) s→RecordsHold s := by
  intro hall
  obtain ⟨s,_,⟨start,hstart,hagain⟩,hrun⟩ :=
    play_ends (step (fun _ => true) (defaultSchedule ℚ)) (fun _ _ => True) (System.start Unit 0)
      (fun s => ∃ start∈s.starts,start.again=true)
      [.iterate 30600 30600,.check none 30600,.resume none 30600,.finish none false (30610+1/2),
        .mark none (30610+1/2),.restart (86399+3/4),.load (86399+3/4),
        .iterate (86399+3/4) (86399+3/4),.check none (86399+3/4),.resume none (86399+3/4)]
      (by decide +kernel)
  rw [(hall s hrun).2 start hstart] at hagain
  cases hagain

end Aqts.TradingScheduler
