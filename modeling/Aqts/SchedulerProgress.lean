import Aqts.TradingScheduler

/-!
# Retries of the scheduler loop

Among the events that are due and not completed, the loop is to attempt none
twice before each of the others has been attempted. It searches from the head of
the schedule, so an event whose handler has raised is attempted again before any
later event. A run is fair exactly when, at each search of the loop, no event
that has failed is left while another event is due.
-/

namespace Aqts.TradingScheduler

open GuardedRuns

variable {W K : Type*} [Field K] [LinearOrder K]

/-- An event is attempted again after each of the others. -/
def Attempt.IsFair (a : Attempt) : Prop :=
  a.completed=false→a.eventType∈a.before→∀ other∈a.others,other∈a.before

instance (a : Attempt) : Decidable a.IsFair := inferInstanceAs (Decidable (_→_→_))

/-- Every attempt of the loop was fair. -/
def AttemptsFair (s : System W K) : Prop := ∀ a∈s.attempts,a.IsFair

instance (s : System W K) : Decidable (AttemptsFair s) := inferInstanceAs (Decidable (∀ a∈_,_))

/-- The first event of a schedule that is not completed. -/
def firstOpen (executedTypes : List ScheduleEventType) (schedule : List (ScheduleEvent K)) :
    Option (ScheduleEvent K) :=
  schedule.find? fun event => event.eventType∉executedTypes

omit [Field K] in
/-- The search does not depend on the time. -/
theorem findNextEvent_eq_firstOpen (executedTypes : List ScheduleEventType) (currentTime : K)
    (schedule : List (ScheduleEvent K)) :
    findNextEvent executedTypes currentTime schedule=firstOpen executedTypes schedule := by
  induction schedule with
  | nil => rfl
  | cons event schedule ih =>
    unfold findNextEvent firstOpen
    by_cases hmem : event.eventType∈executedTypes
    · rw [if_pos hmem,List.find?_cons_of_neg (by simpa using hmem)]
      exact ih
    · rw [if_neg hmem,if_pos hmem,ite_self,List.find?_cons_of_pos (by simpa using hmem)]

omit [Field K] [LinearOrder K] in
/-- The first open event is not completed. -/
theorem firstOpen_not_mem {executedTypes : List ScheduleEventType}
    {schedule : List (ScheduleEvent K)} {event : ScheduleEvent K}
    (h : firstOpen executedTypes schedule=some event) : event.eventType∉executedTypes := by
  have hopen := List.find?_some h
  exact of_decide_eq_true hopen

omit [Field K] [LinearOrder K] in
/-- The first open event stays the first while it is open. -/
theorem firstOpen_of_subset {executedTypes later : List ScheduleEventType}
    {schedule : List (ScheduleEvent K)} {event : ScheduleEvent K}
    (h : firstOpen executedTypes schedule=some event) (hsubset : executedTypes⊆later)
    (hopen : event.eventType∉later) : firstOpen later schedule=some event := by
  induction schedule with
  | nil => cases h
  | cons first schedule ih =>
    unfold firstOpen at h ih ⊢
    by_cases hmem : first.eventType∈executedTypes
    · rw [List.find?_cons_of_neg (by simpa using hmem)] at h
      rw [List.find?_cons_of_neg (by simpa using hsubset hmem)]
      exact ih h
    · rw [List.find?_cons_of_pos (by simpa using hmem)] at h
      cases h
      exact List.find?_cons_of_pos (by simpa using hopen)

variable [DecidableEq W] [FloorRing K]

/-- When the loop looks for its next event on the present date, no event that it has
attempted is open while another event is due. -/
def RetriesAlone (isTradingDay : ℤ→Bool) (schedule : List (ScheduleEvent K)) (s : System W K) :
    Event W K→Prop
  | .iterate now start =>
    isTradingDay (dateOf now)=true→s.state.currentDate=some (dateOf now)→s.state.paused=false→
      ∀ eventType∈s.attempted,eventType∉s.state.eventsExecutedToday→
        s.waitingOthers schedule eventType start=[]
  | _ => True

instance (isTradingDay : ℤ→Bool) (schedule : List (ScheduleEvent K)) (s : System W K)
    (e : Event W K) : Decidable (RetriesAlone isTradingDay schedule s e) := by
  cases e <;> unfold RetriesAlone <;> infer_instance

/-- What the loop has attempted and not completed is the first open event, and was
due; the event it waits for was not attempted. -/
structure FirstRetried (schedule : List (ScheduleEvent K)) (s : System W K) : Prop where
  /-- Attempted events. -/
  first : ∀ eventType∈s.attempted,eventType∉s.state.eventsExecutedToday→
    ∃ event date,firstOpen s.state.eventsExecutedToday schedule=some event ∧
      event.eventType=eventType ∧ s.state.currentDate=some date ∧
      midnight K date+event.scheduledTime≤ s.clock
  /-- The event before which the loop sleeps. -/
  waiting : ∀ event eventTime,s.loop=.waiting event eventTime→event.eventType∉s.attempted ∧
    (event.eventType∈s.state.eventsExecutedToday ∨
      firstOpen s.state.eventsExecutedToday schedule=some event) ∧
    ∃ date,s.state.currentDate=some date ∧ eventTime=midnight K date+event.scheduledTime
  /-- A new process. -/
  loading : ∀ startedAt,s.loop=.loading startedAt→s.attempted=[]

variable {isTradingDay : ℤ→Bool} {schedule : List (ScheduleEvent K)} {s s' : System W K}

omit [DecidableEq W] in
omit [FloorRing K] in
/-- Events are completed or executions move, and the loop attempts nothing. -/
theorem FirstRetried.grow (h : FirstRetried schedule s) (hclock : s.clock≤ s'.clock)
    (hattempted : s'.attempted=s.attempted) (hdate : s'.state.currentDate=s.state.currentDate)
    (hlist : s.state.eventsExecutedToday⊆s'.state.eventsExecutedToday)
    (hloop : s'.loop=s.loop ∨ s'.loop=.top) : FirstRetried schedule s' := by
  refine ⟨?_,?_,?_⟩
  · intro eventType hmem hopen
    rw [hattempted] at hmem
    obtain ⟨event,date,hfirst,htype,hcurrent,hdue⟩ :=
      h.first eventType hmem fun hold => hopen (hlist hold)
    exact ⟨event,date,firstOpen_of_subset hfirst hlist (htype ▸ hopen),htype,
      hdate.trans hcurrent,hdue.trans hclock⟩
  · intro event eventTime hwaiting
    have hbefore : s.loop=.waiting event eventTime := by
      cases hloop with
      | inl hsame => exact hsame ▸ hwaiting
      | inr htop =>
        rw [htop] at hwaiting
        cases hwaiting
    obtain ⟨hnot,hfirst,htime⟩ := h.waiting event eventTime hbefore
    rw [hattempted,hdate]
    refine ⟨hnot,?_,htime⟩
    by_cases hmem : event.eventType∈s'.state.eventsExecutedToday
    · exact .inl hmem
    · exact .inr (firstOpen_of_subset (hfirst.resolve_left fun hold => hmem (hlist hold)) hlist hmem)
  · intro startedAt hloading
    rw [hattempted]
    cases hloop with
    | inl hsame => exact h.loading startedAt (hsame ▸ hloading)
    | inr htop =>
      rw [htop] at hloading
      cases hloading

/-- The loop attempts the first open event, or one that was completed meanwhile. -/
theorem FirstRetried.attempt (h : FirstRetried schedule s) {event : ScheduleEvent K} {start : K}
    {date : ℤ} (hstart : s.clock≤ start)
    (hfirst : event.eventType∈s.state.eventsExecutedToday ∨
      firstOpen s.state.eventsExecutedToday schedule=some event)
    (hdate : s.state.currentDate=some date)
    (hdue : midnight K date+event.scheduledTime≤ start) :
    FirstRetried schedule (s.attempt schedule event.eventType start) := by
  refine ⟨?_,fun _ _ => nofun,fun _ => nofun⟩
  intro eventType hmem hopen
  cases List.mem_cons.mp hmem with
  | inl heq =>
    rw [heq] at hopen
    exact ⟨event,date,hfirst.resolve_left hopen,heq.symm,hdate,hdue⟩
  | inr hold =>
    obtain ⟨earlier,on,hearlier,htype,hcurrent,hpast⟩ := h.first eventType hold hopen
    exact ⟨earlier,on,hearlier,htype,hcurrent,hpast.trans hstart⟩

omit [DecidableEq W] in
omit [FloorRing K] in
/-- A new day begins with no attempts. -/
theorem FirstRetried.newDay (h : FirstRetried schedule s) (htop : s.loop=.top) (today : ℤ) :
    FirstRetried schedule (s.newDay today) := by
  unfold System.newDay
  split
  · exact h
  · refine ⟨fun _ hmem => (List.not_mem_nil hmem).elim,fun event eventTime hwaiting => ?_,
      fun _ _ => rfl⟩
    dsimp only at hwaiting
    rw [htop] at hwaiting
    cases hwaiting

/-- The loop iterates. -/
theorem FirstRetried.iterate (h : FirstRetried schedule s) (htop : s.loop=.top) {now start : K}
    (hnow : s.clock≤now) (hstart : now≤ start) :
    FirstRetried schedule (s.iterate isTradingDay schedule now start) := by
  have hday := h.newDay htop (dateOf now)
  obtain ⟨hclock,_,_,_,_,hcurrent⟩ := s.newDay_same (dateOf now)
  have hdayNow : (s.newDay (dateOf now)).clock≤now := hclock.le.trans hnow
  obtain heq | ⟨_,heq | ⟨event,_,hnext,⟨hearly,heq⟩ | ⟨hdue,heq⟩⟩⟩ :=
    s.iterate_cases isTradingDay schedule now start
  · rw [heq]
    exact h.grow hnow rfl rfl (List.Subset.refl _) (.inl rfl)
  · rw [heq]
    exact hday.grow hdayNow rfl rfl (List.Subset.refl _) (.inl rfl)
  · rw [heq]
    rw [findNextEvent_eq_firstOpen] at hnext
    refine ⟨fun eventType hmem hopen => ?_,fun waited eventTime hwaiting => ?_,fun _ => nofun⟩
    · obtain ⟨first,date,hfirst,htype,hdate,hpast⟩ := hday.first eventType hmem hopen
      exact ⟨first,date,hfirst,htype,hdate,hpast.trans hdayNow⟩
    · cases hwaiting
      refine ⟨fun hmem => ?_,.inr hnext,dateOf now,hcurrent,rfl⟩
      -- an attempted open event is the first one, and its time had come
      obtain ⟨first,date,hfirst,_,hdate,hpast⟩ := hday.first _ hmem (firstOpen_not_mem hnext)
      rw [hnext] at hfirst
      rw [hcurrent] at hdate
      cases hfirst
      cases hdate
      exact absurd (hpast.trans hdayNow) (not_le.mpr hearly)
  · rw [heq]
    rw [findNextEvent_eq_firstOpen] at hnext
    exact hday.attempt (hdayNow.trans hstart) (.inr hnext) hcurrent (hdue.trans hstart)

/-- Every step keeps the order of the attempts. -/
theorem FirstRetried.step (h : FirstRetried schedule s) {e : Event W K}
    (hs : TradingScheduler.step isTradingDay schedule s e=some s') : FirstRetried schedule s' := by
  cases e with
  | iterate now start =>
    obtain ⟨⟨hnow,hstart,htop,_⟩,heq⟩ := Option.ite_none_right_eq_some.mp hs
    cases heq
    exact h.iterate htop hnow hstart
  | wake now start =>
    obtain ⟨event,eventTime,hwaiting,hnow,hstart,_,⟨_,rfl⟩ | ⟨hdue,rfl⟩⟩ := step_wake hs
    · exact h.grow hnow rfl rfl (List.Subset.refl _) (.inr rfl)
    · obtain ⟨_,hfirst,date,hdate,htime⟩ := h.waiting event eventTime hwaiting
      exact h.attempt (hnow.trans hstart) hfirst hdate (htime ▸ hdue.trans hstart)
  | call w eventType start =>
    obtain ⟨⟨hstart,_⟩,heq⟩ := Option.ite_none_right_eq_some.mp hs
    cases heq
    exact h.grow hstart rfl rfl (List.Subset.refl _) (.inl rfl)
  | check task now =>
    obtain ⟨_,_,_,hnow,rfl⟩ := step_check hs
    exact h.grow hnow rfl rfl (List.Subset.refl _) (.inl rfl)
  | resume task now =>
    obtain ⟨eventType,start,found,_,hnow,rfl⟩ := step_resume hs
    cases found with
    | false => exact h.grow hnow rfl rfl (List.Subset.refl _) (.inl rfl)
    | true =>
      unfold System.resume
      rw [if_pos rfl]
      by_cases hmem : eventType∈s.state.eventsExecutedToday
      · rw [if_pos hmem]
        exact h.grow hnow rfl rfl (List.Subset.refl _) (.inl rfl)
      · rw [if_neg hmem]
        exact h.grow hnow rfl rfl (List.subset_append_left _ _) (.inl rfl)
  | finish task raised now =>
    obtain ⟨_,_,_,hnow,rfl⟩ := step_finish hs
    cases raised with
    | false => exact h.grow hnow rfl rfl (List.subset_append_left _ _) (.inl rfl)
    | true => exact h.grow hnow rfl rfl (List.Subset.refl _) (.inl rfl)
  | mark task now =>
    obtain ⟨_,_,_,_,hnow,rfl⟩ := step_mark hs
    exact h.grow hnow rfl rfl (List.Subset.refl _) (.inl rfl)
  | pause paused =>
    cases hs
    exact h.grow le_rfl rfl rfl (List.Subset.refl _) (.inl rfl)
  | restart now =>
    obtain ⟨_,heq⟩ := Option.ite_none_right_eq_some.mp hs
    cases heq
    exact ⟨fun _ hmem => (List.not_mem_nil hmem).elim,fun _ _ => nofun,fun _ _ => rfl⟩
  | load now =>
    obtain ⟨startedAt,hloading,_,rfl⟩ := step_load hs
    refine ⟨fun eventType hmem => ?_,fun _ _ => nofun,fun _ => nofun⟩
    have hnone : eventType∈s.attempted := hmem
    rw [h.loading startedAt hloading] at hnone
    exact (List.not_mem_nil hnone).elim

/-- An attempt of the loop, by a search or after its sleep. -/
inductive AttemptedBy (isTradingDay : ℤ→Bool) (schedule : List (ScheduleEvent K)) (s : System W K) :
    Event W K→System W K→Prop
  /-- By a search. -/
  | search {now start : K} {event : ScheduleEvent K} (day : isTradingDay (dateOf now)=true)
    (running : s.state.paused=false)
    (next : firstOpen (s.newDay (dateOf now)).state.eventsExecutedToday schedule=some event) :
    AttemptedBy isTradingDay schedule s (.iterate now start)
      ((s.newDay (dateOf now)).attempt schedule event.eventType start)
  /-- After the sleep before an event. -/
  | sleep {now start eventTime : K} {event : ScheduleEvent K}
    (waiting : s.loop=.waiting event eventTime) :
    AttemptedBy isTradingDay schedule s (.wake now start) (s.attempt schedule event.eventType start)

/-- A step attempts nothing, or one event. -/
theorem step_attempts {e : Event W K}
    (hs : TradingScheduler.step isTradingDay schedule s e=some s') :
    s'.attempts=s.attempts ∨ AttemptedBy isTradingDay schedule s e s' := by
  cases e with
  | iterate now start =>
    obtain ⟨_,heq⟩ := Option.ite_none_right_eq_some.mp hs
    have hattempts := (s.newDay_same (dateOf now)).2.2.2.2.1
    obtain hsleep | ⟨hday,hsleep | ⟨event,hrunning,hnext,⟨_,hsleep⟩ | ⟨_,hcall⟩⟩⟩ :=
      s.iterate_cases isTradingDay schedule now start
    · exact .inl (by rw [←Option.some.inj heq,hsleep])
    · exact .inl (by rw [←Option.some.inj heq,hsleep]; exact hattempts)
    · exact .inl (by rw [←Option.some.inj heq,hsleep]; exact hattempts)
    · rw [findNextEvent_eq_firstOpen] at hnext
      rw [←Option.some.inj heq,hcall]
      exact .inr (.search hday hrunning hnext)
  | wake now start =>
    obtain ⟨event,eventTime,hwaiting,_,_,_,⟨_,rfl⟩ | ⟨_,rfl⟩⟩ := step_wake hs
    · exact .inl rfl
    · exact .inr (.sleep hwaiting)
  | call w eventType start =>
    obtain ⟨_,heq⟩ := Option.ite_none_right_eq_some.mp hs
    cases heq
    exact .inl rfl
  | check task now =>
    obtain ⟨_,_,_,_,rfl⟩ := step_check hs
    exact .inl rfl
  | resume task now =>
    obtain ⟨_,_,found,_,_,rfl⟩ := step_resume hs
    cases found <;> exact .inl rfl
  | finish task raised now =>
    obtain ⟨_,_,_,_,rfl⟩ := step_finish hs
    cases raised <;> exact .inl rfl
  | mark task now =>
    obtain ⟨_,_,_,_,_,rfl⟩ := step_mark hs
    exact .inl rfl
  | pause paused =>
    cases hs
    exact .inl rfl
  | restart now =>
    obtain ⟨_,heq⟩ := Option.ite_none_right_eq_some.mp hs
    cases heq
    exact .inl rfl
  | load now =>
    obtain ⟨_,_,_,rfl⟩ := step_load hs
    exact .inl rfl

omit [DecidableEq W] in
omit [Field K] [LinearOrder K] [FloorRing K] in
/-- On the present date a new day changes nothing. -/
theorem newDay_of_current {today : ℤ} (h : s.state.currentDate=some today) : s.newDay today=s :=
  if_pos h

omit [DecidableEq W] in
/-- The other events that are due are of other types, and not completed. -/
theorem mem_waitingOthers {eventType other : ScheduleEventType} {now : K}
    (h : other∈s.waitingOthers schedule eventType now) :
    other≠eventType ∧ other∉s.state.eventsExecutedToday := by
  obtain ⟨event,hmem,rfl⟩ := List.mem_map.mp h
  have hfilter := of_decide_eq_true (List.mem_filter.mp hmem).2
  exact ⟨hfilter.1,hfilter.2.1⟩

/-- A search that leaves no failed event beside another one attempts fairly. -/
theorem FirstRetried.fair (h : FirstRetried schedule s) (hfair : AttemptsFair s) {e : Event W K}
    (halone : RetriesAlone isTradingDay schedule s e)
    (hs : TradingScheduler.step isTradingDay schedule s e=some s') : AttemptsFair s' := by
  cases step_attempts hs with
  | inl hsame =>
    unfold AttemptsFair
    rw [hsame]
    exact hfair
  | inr hattempted =>
    cases hattempted with
    | @search now start event day running next =>
      intro a ha
      cases List.mem_cons.mp ha with
      | inr hold =>
        rw [(s.newDay_same (dateOf now)).2.2.2.2.1] at hold
        exact hfair a hold
      | inl heq =>
        rw [heq]
        intro _ hbefore other hother
        dsimp only at hbefore hother
        by_cases hcurrent : s.state.currentDate=some (dateOf now)
        · rw [newDay_of_current hcurrent] at hbefore hother next
          rw [halone day hcurrent running event.eventType hbefore (firstOpen_not_mem next)] at hother
          exact (List.not_mem_nil hother).elim
        · unfold System.newDay at hbefore
          rw [if_neg hcurrent] at hbefore
          exact (List.not_mem_nil hbefore).elim
    | @sleep now start eventTime event waiting =>
      intro a ha
      cases List.mem_cons.mp ha with
      | inr hold => exact hfair a hold
      | inl heq =>
        rw [heq]
        intro _ hbefore
        exact absurd hbefore (h.waiting event eventTime waiting).1

/-- A search that leaves a failed event beside another one attempts it again before
that one. -/
theorem FirstRetried.unfair (h : FirstRetried schedule s) {e : Event W K}
    (hnot : ¬RetriesAlone isTradingDay schedule s e)
    (hs : TradingScheduler.step isTradingDay schedule s e=some s') : ¬AttemptsFair s' := by
  cases e with
  | iterate now start =>
    unfold RetriesAlone at hnot
    push Not at hnot
    obtain ⟨hday,hcurrent,hrunning,eventType,hmem,hopen,hothers⟩ := hnot
    obtain ⟨⟨hnow,_⟩,heq⟩ := Option.ite_none_right_eq_some.mp hs
    obtain ⟨event,date,hfirst,htype,hdate,hdue⟩ := h.first eventType hmem hopen
    cases hcurrent.symm.trans hdate
    have hattempt : s.iterate isTradingDay schedule now start=
        (s.newDay (dateOf now)).attempt schedule event.eventType start := by
      refine System.iterate_due hday hrunning ?_ (hdue.trans hnow)
      rw [newDay_of_current hcurrent,findNextEvent_eq_firstOpen]
      exact hfirst
    rw [newDay_of_current hcurrent] at hattempt
    rw [←Option.some.inj heq,hattempt,htype]
    intro hfair
    obtain ⟨other,hother⟩ := List.exists_mem_of_ne_nil _ hothers
    have hagain := hfair _ List.mem_cons_self (decide_eq_false hopen) hmem other hother
    obtain ⟨hne,hotherOpen⟩ := mem_waitingOthers hother
    obtain ⟨earlier,_,hearlier,hearlierType,_⟩ := h.first other hagain hotherOpen
    rw [hfirst] at hearlier
    cases hearlier
    exact hne (hearlierType.symm.trans htype)
  | _ => exact absurd trivial hnot

/-- Attempts are never forgotten. -/
theorem attempts_subset {e : Event W K}
    (hs : TradingScheduler.step isTradingDay schedule s e=some s') : s.attempts⊆s'.attempts := by
  cases step_attempts hs with
  | inl hsame =>
    rw [hsame]
    exact List.Subset.refl _
  | inr hattempted =>
    cases hattempted with
    | @search now start event day running next =>
      rw [←(s.newDay_same (dateOf now)).2.2.2.2.1]
      exact List.subset_cons_self _ _
    | sleep waiting => exact List.subset_cons_self _ _

omit [DecidableEq W] [FloorRing K] in
/-- The order of the attempts, from the start. -/
theorem firstRetried_start (schedule : List (ScheduleEvent K)) (now : K) :
    FirstRetried schedule (System.start W now) :=
  ⟨fun _ hmem => (List.not_mem_nil hmem).elim,fun _ _ => nofun,fun _ => nofun⟩

/-- The attempts of a run, whatever its handlers do, are fair exactly when no search of
the loop leaves an event that it has attempted and that is not completed beside
another event that is due. -/
theorem attempts_fair_iff {now : K}
    (hrun : Reaches (step isTradingDay schedule) (fun _ _ => True) (System.start W now) s) :
    AttemptsFair s ↔ Reaches (step isTradingDay schedule) (RetriesAlone isTradingDay schedule)
      (System.start W now) s := by
  constructor
  · intro hfair
    have hordered : FirstRetried schedule s ∧ (AttemptsFair s→
        Reaches (step isTradingDay schedule) (RetriesAlone isTradingDay schedule)
          (System.start W now) s) := by
      refine hrun.invariant (P := fun s => FirstRetried schedule s ∧ (AttemptsFair s→
        Reaches (step isTradingDay schedule) (RetriesAlone isTradingDay schedule)
          (System.start W now) s)) ⟨firstRetried_start schedule now,fun _ => .start⟩ ?_
      intro s e s' _ hs _ hstep
      refine ⟨hs.1.step hstep,fun hfair' => ?_⟩
      have hreached := hs.2 fun a ha => hfair' a (attempts_subset hstep ha)
      by_cases halone : RetriesAlone isTradingDay schedule s e
      · exact hreached.next halone hstep
      · exact absurd hfair' (hs.1.unfair halone hstep)
    exact hordered.2 hfair
  · intro halone
    have hfair : FirstRetried schedule s ∧ AttemptsFair s := by
      refine halone.invariant (P := fun s => FirstRetried schedule s ∧ AttemptsFair s)
        ⟨firstRetried_start schedule now,fun _ ha => (List.not_mem_nil ha).elim⟩ ?_
      intro s e s' _ hs hallowed hstep
      exact ⟨hs.1.step hstep,hs.1.fair hs.2 hallowed hstep⟩
    exact hfair.2

/-- `PRE_MARKET` raises and is attempted again before another event is due. -/
theorem attempts_fair_iff_retry :
    ∃ s : System Unit ℚ,s.attempts.length=3 ∧
      s.state.eventsExecutedToday=[.preMarket,.marketOpen] ∧
      Reaches (step (fun _ => true) (defaultSchedule ℚ))
        (RetriesAlone (fun _ => true) (defaultSchedule ℚ)) (System.start Unit 0) s := by
  obtain ⟨s,_,hq,hrun⟩ := play_ends (step (fun _ => true) (defaultSchedule ℚ)) (fun _ _ => True)
    (System.start Unit 0)
    (fun s => s.attempts.length=3 ∧ s.state.eventsExecutedToday=[.preMarket,.marketOpen] ∧
      AttemptsFair s)
    [.iterate 30600 30600,.check none 30600,.resume none 30600,.finish none true 30601,
      .iterate 30601 30601,.check none 30601,.resume none 30601,.finish none false 30602,
      .mark none 30602,.iterate 30602 30602,.wake 30662 30662,.iterate 32400 32400,
      .check none 32400,.resume none 32400,.finish none false 32401] (by decide +kernel)
  exact ⟨s,hq.1,hq.2.1,(attempts_fair_iff hrun).mp hq.2.2⟩

/-- `PRE_MARKET` raises until `MARKET_OPEN` is due, and is attempted again. -/
theorem failed_event_blocks :
    ¬∀ s : System Unit ℚ,Reaches (step (fun _ => true) (defaultSchedule ℚ)) (fun _ _ => True)
      (System.start Unit 0) s→AttemptsFair s :=
  not_forall_reaches
    [.iterate 30600 30600,.check none 30600,.resume none 30600,.finish none true 32400,
      .iterate 32400 32400] (by decide +kernel)

end Aqts.TradingScheduler
