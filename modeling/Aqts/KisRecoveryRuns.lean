import Aqts.KisRecovery

/-!
# What the recovery of the KIS client keeps

Calls of `try_recover_kis` and marks of degradation in any interleaving. The
lock has at most one holder, so nothing moves the state between the start of an
attempt and its end but a mark of degradation, which only delays the next
attempt. From this follow the distance of the attempts, the results of the
calls, the counter of failures and the single alert of an incident.
-/

namespace Aqts.KisRecovery

open GuardedRuns SpacedTimes

variable {I C : Type*}

/-- The lock is taken exactly when some call holds it, and only one does. -/
def LockHeld (s : System I C) : Prop :=
  ∃ holder : Option I,s.locked=holder.isSome ∧
    ∀ i,(s.place i).holdsLock=true↔holder=some i

/-- The distance of the attempts, which is not negative. -/
def Settings.distance (settings : Settings) : ℚ := max settings.cooldownSeconds 0

/-- The attempts are the cooldown apart, and so is the next one that the state
allows. -/
structure Timed (settings : Settings) (s : System I C) : Prop where
  /-- No attempt started after the present. -/
  past : ∀ last∈(starts s.history).head?,last≤ s.clock
  /-- The attempts are apart. -/
  spaced : Spaced settings.distance (starts s.history)
  /-- Outside an attempt a degraded state waits for the cooldown of the last. -/
  waits : s.state.degraded=true→(∀ i current hasCallback,s.place i≠.making current hasCallback)→
    ∀ last∈(starts s.history).head?,∃ time∈s.state.nextAttemptAt,settings.after last≤time
  /-- The attempt under way is the last one, and the state is degraded. -/
  current : ∀ i current hasCallback,s.place i=.making current hasCallback→
    (starts s.history).head?=some current ∧ s.state.degraded=true

/-- A call has returned a client exactly when its factory did. -/
def Answered (s : System I C) : Prop :=
  ∀ i client,s.place i=.returned (some client)↔.ended i (.ok client)∈s.history

/-- The counter and the latch of the incident. -/
structure Counted (settings : Settings) (s : System I C) : Prop where
  /-- The counter is the number of failures since the last success. -/
  counter : s.state.consecutiveFailures=failures s.history
  /-- Without the latch no alert has been sent in the incident. -/
  latch : s.state.alertDispatched=false→alerts s.history=0
  /-- An alert under way is the first, after enough failures. -/
  alerting : ∀ i,s.place i=.alerting→
    s.state.alertDispatched=false ∧ settings.alertThreshold≤ s.state.consecutiveFailures
  /-- Every alert was the first of its incident, after enough failures. -/
  alerted : ∀ i earlier,(.alerted i::earlier)<:+s.history→
    settings.alertThreshold≤failures earlier ∧ alerts earlier=0

variable {settings : Settings} {s s' : System I C}

/-- Two calls that hold the lock are one. -/
theorem LockHeld.alone (h : LockHeld s) {i j : I} (hi : (s.place i).holdsLock=true)
    (hj : (s.place j).holdsLock=true) : i=j := by
  obtain ⟨holder,_,hplaces⟩ := h
  exact Option.some.inj (((hplaces i).mp hi).symm.trans ((hplaces j).mp hj))

/-- While the lock is free no call holds it. -/
theorem LockHeld.free (h : LockHeld s) (hfree : s.locked=false) (i : I) :
    (s.place i).holdsLock=false := by
  obtain ⟨holder,hholder,hplaces⟩ := h
  by_contra hheld
  have hsome : holder=some i := (hplaces i).mp (Bool.not_eq_false _ ▸ hheld)
  rw [hsome,hfree] at hholder
  exact Bool.false_ne_true hholder

/-- While a call holds the lock no other call is in its callback. -/
theorem LockHeld.not_alerting (hlock : LockHeld s) {i j : I}
    (hin : (s.place i).holdsLock=true) (hji : j≠i) : s.place j≠.alerting := by
  intro hj
  refine hji (hlock.alone ?_ hin)
  rw [hj]
  rfl

/-- An entry that is no alert leaves the law of the alerts before it. -/
theorem alerted_cons {history : List (Entry I C)} {entry : Entry I C}
    (hentry : entry.isAlert=false)
    (h : ∀ i earlier,(.alerted i::earlier)<:+history→
      settings.alertThreshold≤failures earlier ∧ alerts earlier=0)
    (i : I) (earlier : List (Entry I C)) (hsuffix : (.alerted i::earlier)<:+entry::history) :
    settings.alertThreshold≤failures earlier ∧ alerts earlier=0 := by
  obtain heq | hold := List.suffix_cons_iff.mp hsuffix
  · cases heq
    cases hentry
  · exact h i earlier hold

variable [DecidableEq I]

/-- A call that neither held the lock nor gets it leaves its holder alone. -/
theorem LockHeld.outside (h : LockHeld s) {i : I} (hout : (s.place i).holdsLock=false)
    {t : System I C} {p : Place C} (hp : p.holdsLock=false)
    (hplace : t.place=Function.update s.place i p) (hlocked : t.locked=s.locked) : LockHeld t := by
  obtain ⟨holder,hholder,hplaces⟩ := h
  refine ⟨holder,hlocked.trans hholder,?_⟩
  intro j
  rw [hplace]
  by_cases hj : j=i
  · subst hj
    rw [Function.update_self,hp,← hplaces j,hout]
  · rw [Function.update_of_ne hj]
    exact hplaces j

/-- A call takes the free lock. -/
theorem LockHeld.taken (h : LockHeld s) {i : I} (hfree : s.locked=false)
    {t : System I C} {p : Place C} (hp : p.holdsLock=true)
    (hplace : t.place=Function.update s.place i p) (hlocked : t.locked=true) : LockHeld t := by
  obtain ⟨holder,hholder,hplaces⟩ := h
  have hnone : holder=none := Option.isNone_iff_eq_none.mp (by
    rw [← Option.not_isSome,← hholder,hfree]
    rfl)
  refine ⟨some i,hlocked,?_⟩
  intro j
  rw [hplace]
  by_cases hj : j=i
  · subst hj
    rw [Function.update_self,hp]
    exact iff_of_true rfl rfl
  · rw [Function.update_of_ne hj,hplaces j,hnone]
    exact iff_of_false nofun fun heq => hj (Option.some.inj heq).symm

/-- The holder of the lock moves on and keeps it. -/
theorem LockHeld.kept (h : LockHeld s) {i : I} (hin : (s.place i).holdsLock=true)
    {t : System I C} {p : Place C} (hp : p.holdsLock=true)
    (hplace : t.place=Function.update s.place i p) (hlocked : t.locked=s.locked) : LockHeld t := by
  obtain ⟨holder,hholder,hplaces⟩ := h
  refine ⟨holder,hlocked.trans hholder,?_⟩
  intro j
  rw [hplace]
  by_cases hj : j=i
  · subst hj
    rw [Function.update_self,hp,← hplaces j,hin]
  · rw [Function.update_of_ne hj]
    exact hplaces j

/-- The holder of the lock releases it. -/
theorem LockHeld.released (h : LockHeld s) {i : I} (hin : (s.place i).holdsLock=true)
    {t : System I C} {p : Place C} (hp : p.holdsLock=false)
    (hplace : t.place=Function.update s.place i p) (hlocked : t.locked=false) : LockHeld t := by
  obtain ⟨holder,_,hplaces⟩ := h
  have hholder : holder=some i := (hplaces i).mp hin
  refine ⟨none,hlocked,?_⟩
  intro j
  rw [hplace]
  by_cases hj : j=i
  · subst hj
    rw [Function.update_self,hp]
    exact iff_of_false Bool.false_ne_true nofun
  · rw [Function.update_of_ne hj,hplaces j,hholder]
    exact iff_of_false (fun heq => hj (Option.some.inj heq).symm) nofun

/-- Every move keeps the account of the lock. -/
theorem LockHeld.move (h : LockHeld s) (hmove : Move settings s s') : LockHeld s' := by
  cases hmove with
  | degraded error now hclock => exact h
  | queued i hasCallback now hplace hclock =>
    refine h.outside (i := i) ?_ rfl rfl rfl
    rw [hplace]
    rfl
  | refused i now hplace hlock hclock => exact h.outside hlock rfl rfl rfl
  | begun i hasCallback now hplace hlock hclock hdue => exact h.taken hlock rfl rfl rfl
  | succeeded i current hasCallback client hplace =>
    refine h.released (i := i) ?_ rfl rfl rfl
    rw [hplace]
    rfl
  | failed i current hasCallback error hplace =>
    have hin : (s.place i).holdsLock=true := by
      rw [hplace]
      rfl
    unfold System.maybeDispatchAlert
    split
    · exact h.kept hin rfl rfl rfl
    · exact h.released hin rfl rfl rfl
  | alerted i hplace =>
    refine h.released (i := i) ?_ rfl rfl rfl
    rw [hplace]
    rfl
  | unalerted i hplace =>
    refine h.released (i := i) ?_ rfl rfl rfl
    rw [hplace]
    rfl

/-- A call that is not in its factory moves on without entering it. -/
theorem Timed.moved (h : Timed settings s) {t : System I C} {i : I} {p : Place C}
    (hout : ∀ current hasCallback,s.place i≠.making current hasCallback)
    (hp : ∀ current hasCallback,p≠.making current hasCallback)
    (hplace : t.place=Function.update s.place i p) (hclock : s.clock≤t.clock)
    (hdegraded : t.state.degraded=s.state.degraded)
    (hnext : t.state.nextAttemptAt=s.state.nextAttemptAt)
    (hstarts : starts t.history=starts s.history) : Timed settings t := by
  refine ⟨?_,?_,?_,?_⟩
  · intro last hlast
    rw [hstarts] at hlast
    exact (h.past last hlast).trans hclock
  · rw [hstarts]
    exact h.spaced
  · intro hdeg hmaking
    rw [hstarts,hnext]
    apply h.waits (hdegraded ▸ hdeg)
    intro j current hasCallback hj
    by_cases hji : j=i
    · exact hout current hasCallback (hji ▸ hj)
    · apply hmaking j current hasCallback
      rw [hplace,Function.update_of_ne hji]
      exact hj
  · intro j current hasCallback hj
    rw [hplace] at hj
    by_cases hji : j=i
    · subst hji
      rw [Function.update_self] at hj
      exact absurd hj (hp current hasCallback)
    · rw [Function.update_of_ne hji] at hj
      rw [hstarts,hdegraded]
      exact h.current j current hasCallback hj

/-- The attempt under way ends; the state is not degraded any more or waits
for the cooldown of the attempt. -/
theorem Timed.ended (h : Timed settings s) (hlock : LockHeld s) {t : System I C} {i : I}
    {p : Place C} {current : ℚ} {hasCallback : Bool}
    (hin : s.place i=.making current hasCallback)
    (hp : ∀ current hasCallback,p≠.making current hasCallback)
    (hplace : t.place=Function.update s.place i p) (hclock : s.clock≤t.clock)
    (hnext : t.state.degraded=true→t.state.nextAttemptAt=some (settings.after current))
    (hstarts : starts t.history=starts s.history) : Timed settings t := by
  refine ⟨?_,?_,?_,?_⟩
  · intro last hlast
    rw [hstarts] at hlast
    exact (h.past last hlast).trans hclock
  · rw [hstarts]
    exact h.spaced
  · intro hdeg _ last hlast
    rw [hstarts,(h.current i current hasCallback hin).1] at hlast
    obtain rfl := Option.some.inj hlast
    exact ⟨settings.after current,hnext hdeg,le_rfl⟩
  · intro j other hasOther hj
    rw [hplace] at hj
    by_cases hji : j=i
    · subst hji
      rw [Function.update_self] at hj
      exact absurd hj (hp other hasOther)
    · rw [Function.update_of_ne hji] at hj
      refine absurd (hlock.alone (i := j) (j := i) ?_ ?_) hji
      · rw [hj]
        rfl
      · rw [hin]
        rfl

/-- An attempt that is due starts after the cooldown of the last one. -/
theorem Timed.begun (h : Timed settings s) (hlock : LockHeld s) {i : I} {hasCallback : Bool}
    {now : ℚ} (hfree : s.locked=false) (hclock : s.clock≤now)
    (hdue : s.state.attemptDue now=true) : Timed settings (s.begin i hasCallback now) := by
  have hnobody : ∀ j current hasCallback,s.place j≠.making current hasCallback := by
    intro j current hasCallback hj
    have hheld := hlock.free hfree j
    rw [hj] at hheld
    cases hheld
  have hdegraded : s.state.degraded=true := (Bool.and_eq_true_iff.mp hdue).1
  have hdistance : ∀ last∈(starts s.history).head?,last+settings.distance≤now := by
    intro last hlast
    obtain ⟨time,htime,hlate⟩ := h.waits hdegraded hnobody last hlast
    have hpassed : time≤now := by
      have hcheck := (Bool.and_eq_true_iff.mp hdue).2
      rw [Option.mem_def.mp htime] at hcheck
      exact of_decide_eq_true hcheck
    have hpast : last≤now := (h.past last hlast).trans hclock
    unfold Settings.after at hlate
    unfold Settings.distance
    obtain hmax | hmax := max_choice (settings.cooldownSeconds : ℚ) 0
    · rw [hmax]
      exact hlate.trans hpassed
    · rw [hmax,add_zero]
      exact hpast
  refine ⟨?_,?_,?_,?_⟩
  · intro last hlast
    obtain rfl := Option.some.inj hlast
    exact le_rfl
  · exact h.spaced.cons (le_max_right _ _) hdistance
  · intro _ hmaking
    exact absurd (Function.update_self i _ s.place) (hmaking i now hasCallback)
  · intro j current hasOther hj
    by_cases hji : j=i
    · subst hji
      have hsame : Place.making now hasCallback=Place.making current hasOther :=
        (Function.update_self j _ s.place).symm.trans hj
      cases hsame
      exact ⟨rfl,hdegraded⟩
    · exact absurd ((Function.update_of_ne hji _ s.place).symm.trans hj)
        (hnobody j current hasOther)

/-- Every move keeps the attempts apart. -/
theorem Timed.move (h : Timed settings s) (hlock : LockHeld s) (hmove : Move settings s s') :
    Timed settings s' := by
  cases hmove with
  | degraded error now hclock =>
    refine ⟨?_,h.spaced,?_,?_⟩
    · intro last hlast
      exact (h.past last hlast).trans hclock
    · intro _ _ last hlast
      refine ⟨settings.after now,rfl,?_⟩
      have hpast : last≤now := (h.past last hlast).trans hclock
      unfold Settings.after
      linarith
    · intro j current hasCallback hj
      exact ⟨(h.current j current hasCallback hj).1,rfl⟩
  | queued i hasCallback now hplace hclock =>
    refine h.moved (i := i) (p := .waiting hasCallback) ?_ (fun _ _ => nofun) rfl hclock rfl rfl rfl
    intro current hasOther
    rw [hplace]
    exact nofun
  | refused i now hplace hout hclock =>
    refine h.moved (i := i) (p := .returned none) ?_ (fun _ _ => nofun) rfl hclock rfl rfl rfl
    intro current hasOther hin
    rw [hin] at hout
    cases hout
  | begun i hasCallback now hplace hfree hclock hdue => exact h.begun hlock hfree hclock hdue
  | succeeded i current hasCallback client hplace =>
    exact h.ended (p := .returned (some client)) hlock hplace (fun _ _ => nofun) rfl le_rfl
      (fun hdeg => nomatch hdeg) rfl
  | failed i current hasCallback error hplace =>
    unfold System.maybeDispatchAlert
    split
    · exact h.ended (p := .alerting) hlock hplace (fun _ _ => nofun) rfl le_rfl (fun _ => rfl) rfl
    · exact h.ended (p := .returned none) hlock hplace (fun _ _ => nofun) rfl le_rfl
        (fun _ => rfl) rfl
  | alerted i hplace =>
    refine h.moved (i := i) (p := .returned none) ?_ (fun _ _ => nofun) rfl le_rfl rfl rfl rfl
    intro current hasOther
    rw [hplace]
    exact nofun
  | unalerted i hplace =>
    refine h.moved (i := i) (p := .returned none) ?_ (fun _ _ => nofun) rfl le_rfl rfl rfl rfl
    intro current hasOther
    rw [hplace]
    exact nofun

/-- A call that has returned no client moves on without returning one. -/
theorem Answered.moved (h : Answered s) {t : System I C} {i : I} {p : Place C}
    (hout : ∀ client,s.place i≠.returned (some client))
    (hp : ∀ client,p≠.returned (some client))
    (hplace : t.place=Function.update s.place i p)
    (hsuccess : ∀ j client,.ended j (.ok client)∈t.history↔.ended j (.ok client)∈s.history) :
    Answered t := by
  intro j client
  rw [hsuccess,← h j client,hplace]
  by_cases hji : j=i
  · subst hji
    rw [Function.update_self]
    exact iff_of_false (hp client) (hout client)
  · rw [Function.update_of_ne hji]

/-- Every move keeps the results of the calls. -/
theorem Answered.move (h : Answered s) (hmove : Move settings s s') : Answered s' := by
  cases hmove with
  | degraded error now hclock => exact h
  | queued i hasCallback now hplace hclock =>
    refine h.moved (i := i) (p := .waiting hasCallback) ?_ (fun _ => nofun) rfl fun _ _ => Iff.rfl
    intro client
    rw [hplace]
    exact nofun
  | refused i now hplace hlock hclock =>
    exact h.moved (i := i) (p := .returned none) (fun client => hplace (some client))
      (fun _ => nofun) rfl fun _ _ => Iff.rfl
  | begun i hasCallback now hplace hlock hclock hdue =>
    refine h.moved (i := i) (p := .making now hasCallback) ?_ (fun _ => nofun) rfl ?_
    · intro client
      rw [hplace]
      exact nofun
    · intro j client
      exact List.mem_cons.trans (or_iff_right nofun)
  | succeeded i current hasCallback client hplace =>
    intro j other
    by_cases hji : j=i
    · subst hji
      have hnot : .ended j (.ok other)∉s.history := by
        rw [← h j other,hplace]
        exact nofun
      have hreturned : ((s.record j (.ok client) s.state.markRecovered).release j
          (some client)).place j=.returned (some client) := Function.update_self _ _ _
      rw [hreturned]
      constructor
      · intro heq
        cases heq
        exact List.mem_cons_self
      · intro hmem
        obtain heq | hold := List.mem_cons.mp hmem
        · cases heq
          rfl
        · exact absurd hold hnot
    · have hsame : ((s.record i (.ok client) s.state.markRecovered).release i
          (some client)).place j=s.place j := Function.update_of_ne hji _ _
      rw [hsame,h j other]
      constructor
      · exact List.mem_cons_of_mem _
      · intro hmem
        obtain heq | hold := List.mem_cons.mp hmem
        · cases heq
          exact absurd rfl hji
        · exact hold
  | failed i current hasCallback error hplace =>
    have hsuccess : ∀ j (client : C),
        Entry.ended j (.ok client)∈Entry.ended i (.error error)::s.history↔
          Entry.ended j (.ok client)∈s.history := by
      intro j client
      exact List.mem_cons.trans (or_iff_right nofun)
    have hout : ∀ client,s.place i≠.returned (some client) := by
      intro client
      rw [hplace]
      exact nofun
    unfold System.maybeDispatchAlert
    split
    · exact h.moved (p := .alerting) hout (fun _ => nofun) rfl hsuccess
    · exact h.moved (p := .returned none) hout (fun _ => nofun) rfl hsuccess
  | alerted i hplace =>
    refine h.moved (i := i) (p := .returned none) ?_ (fun _ => nofun) rfl ?_
    · intro client
      rw [hplace]
      exact nofun
    · intro j client
      exact List.mem_cons.trans (or_iff_right nofun)
  | unalerted i hplace =>
    refine h.moved (i := i) (p := .returned none) ?_ (fun _ => nofun) rfl fun _ _ => Iff.rfl
    intro client
    rw [hplace]
    exact nofun

/-- A call moves on without reaching its callback. -/
theorem Counted.moved (h : Counted settings s) {t : System I C} {i : I} {p : Place C}
    (hp : p≠.alerting) (hplace : t.place=Function.update s.place i p)
    (hfailures : t.state.consecutiveFailures=s.state.consecutiveFailures)
    (hlatch : t.state.alertDispatched=s.state.alertDispatched)
    (hhistory : t.history=s.history) : Counted settings t := by
  refine ⟨?_,?_,?_,?_⟩
  · rw [hfailures,hhistory]
    exact h.counter
  · rw [hlatch,hhistory]
    exact h.latch
  · intro j hj
    rw [hlatch,hfailures]
    rw [hplace] at hj
    by_cases hji : j=i
    · subst hji
      rw [Function.update_self] at hj
      exact absurd hj hp
    · rw [Function.update_of_ne hji] at hj
      exact h.alerting j hj
  · rw [hhistory]
    exact h.alerted

/-- Every move keeps the account of failures and alerts. -/
theorem Counted.move (h : Counted settings s) (hlock : LockHeld s) (hmove : Move settings s s') :
    Counted settings s' := by
  cases hmove with
  | degraded error now hclock => exact ⟨h.counter,h.latch,h.alerting,h.alerted⟩
  | queued i hasCallback now hplace hclock =>
    exact h.moved (i := i) (p := .waiting hasCallback) nofun rfl rfl rfl rfl
  | refused i now hplace hout hclock =>
    exact h.moved (i := i) (p := .returned none) nofun rfl rfl rfl rfl
  | begun i hasCallback now hplace hfree hclock hdue =>
    refine ⟨h.counter,h.latch,?_,alerted_cons rfl h.alerted⟩
    intro j hj
    by_cases hji : j=i
    · subst hji
      exact absurd ((Function.update_self j _ s.place).symm.trans hj) nofun
    · exact h.alerting j ((Function.update_of_ne hji _ s.place).symm.trans hj)
  | succeeded i current hasCallback client hplace =>
    have hin : (s.place i).holdsLock=true := by
      rw [hplace]
      rfl
    refine ⟨rfl,fun _ => rfl,?_,alerted_cons rfl h.alerted⟩
    intro j hj
    by_cases hji : j=i
    · subst hji
      exact absurd ((Function.update_self j _ s.place).symm.trans hj) nofun
    · exact absurd ((Function.update_of_ne hji _ s.place).symm.trans hj)
        (hlock.not_alerting hin hji)
  | failed i current hasCallback error hplace =>
    have hin : (s.place i).holdsLock=true := by
      rw [hplace]
      rfl
    have hfailures : s.state.consecutiveFailures+1=
        failures (Entry.ended i (.error error)::s.history) :=
      (congrArg (·+1) h.counter).trans (List.countP_cons_of_pos rfl).symm
    have hlatch : s.state.alertDispatched=false→
        alerts (Entry.ended i (.error error)::s.history)=0 := h.latch
    unfold System.maybeDispatchAlert
    split
    · rename_i hdue
      refine ⟨hfailures,hlatch,?_,alerted_cons rfl h.alerted⟩
      intro j hj
      by_cases hji : j=i
      · have hchecks := Bool.and_eq_true_iff.mp hdue
        have hquiet := (Bool.and_eq_true_iff.mp hchecks.1).2
        exact ⟨Bool.not_eq_true' _ ▸ hquiet,of_decide_eq_true hchecks.2⟩
      · exact absurd ((Function.update_of_ne hji _ s.place).symm.trans hj)
          (hlock.not_alerting hin hji)
    · refine ⟨hfailures,hlatch,?_,alerted_cons rfl h.alerted⟩
      intro j hj
      by_cases hji : j=i
      · subst hji
        exact absurd ((Function.update_self j _ s.place).symm.trans hj) nofun
      · exact absurd ((Function.update_of_ne hji _ s.place).symm.trans hj)
          (hlock.not_alerting hin hji)
  | alerted i hplace =>
    have hin : (s.place i).holdsLock=true := by
      rw [hplace]
      rfl
    refine ⟨h.counter,(fun hquiet => nomatch hquiet),?_,?_⟩
    · intro j hj
      by_cases hji : j=i
      · subst hji
        exact absurd ((Function.update_self j _ s.place).symm.trans hj) nofun
      · exact absurd ((Function.update_of_ne hji _ s.place).symm.trans hj)
          (hlock.not_alerting hin hji)
    · intro j earlier hsuffix
      obtain heq | hold := List.suffix_cons_iff.mp hsuffix
      · cases heq
        have hfirst := h.alerting i hplace
        exact ⟨h.counter ▸ hfirst.2,h.latch hfirst.1⟩
      · exact h.alerted j earlier hold
  | unalerted i hplace =>
    exact h.moved (i := i) (p := .returned none) nofun rfl rfl rfl rfl

/-- What every reached state keeps. -/
structure Kept (settings : Settings) (s : System I C) : Prop where
  /-- The lock. -/
  lock : LockHeld s
  /-- The distance of the attempts. -/
  timed : Timed settings s
  /-- The results. -/
  answered : Answered s
  /-- The failures and the alerts. -/
  counted : Counted settings s

/-- Every run keeps the accounts. -/
theorem kept_of_reaches {clock : ℚ}
    (h : Reaches (step settings) (fun _ _ => True) (.init I C clock) s) : Kept settings s := by
  apply h.invariant (P := Kept settings)
  · refine ⟨⟨none,rfl,fun _ => iff_of_false Bool.false_ne_true nofun⟩,⟨nofun,spaced_nil,nofun,nofun⟩,
      ?_,⟨rfl,fun _ => rfl,nofun,?_⟩⟩
    · intro i client
      exact iff_of_false nofun List.not_mem_nil
    · intro i earlier hsuffix
      cases List.suffix_nil.mp hsuffix
  · intro s e s' _ hkept _ hs
    have hmove : Move settings s s' := move_of_step hs
    exact ⟨hkept.lock.move hmove,hkept.timed.move hkept.lock hmove,hkept.answered.move hmove,
      hkept.counted.move hkept.lock hmove⟩

/-- What the recovery promises: attempts are the cooldown apart, only one is under
way, a call returns a client exactly when its own factory made it, the counter
counts the failures since the last success, and an alert is the first of its
incident and comes after enough failures. -/
structure Promise (settings : Settings) (s : System I C) : Prop where
  /-- The starts of the factory are the cooldown apart. -/
  spaced : Spaced (settings.cooldownSeconds : ℚ) (starts s.history)
  /-- No two calls of the factory overlap. -/
  alone : ∀ i j current other hasCallback hasOther,s.place i=.making current hasCallback→
    s.place j=.making other hasOther→i=j
  /-- The results of the calls. -/
  returns : ∀ i client,s.place i=.returned (some client)↔.ended i (.ok client)∈s.history
  /-- The counter of failures. -/
  counts : s.state.consecutiveFailures=failures s.history
  /-- The alerts. -/
  alerts : ∀ i earlier,(.alerted i::earlier)<:+s.history→
    settings.alertThreshold≤failures earlier ∧ KisRecovery.alerts earlier=0

/-- Calls of `try_recover_kis` and `mark_degraded` keep the promise in every
interleaving. -/
theorem recovery_keeps_promise {clock : ℚ}
    (h : Reaches (step settings) (fun _ _ => True) (.init I C clock) s) : Promise settings s := by
  have hkept : Kept settings s := kept_of_reaches h
  refine ⟨?_,?_,hkept.answered,hkept.counted.counter,hkept.counted.alerted⟩
  · refine hkept.timed.spaced.imp ?_
    intro later earlier hapart
    have hcooldown : (settings.cooldownSeconds : ℚ)≤ settings.distance := le_max_left _ _
    linarith
  · intro i j current other hasCallback hasOther hi hj
    refine hkept.lock.alone ?_ ?_
    · rw [hi]
      rfl
    · rw [hj]
      rfl

/-- An incident of two failures, an alert after the second, and a success while
another call waits for the lock. -/
def incidentRun : List (Event ℕ ℕ) :=
  [.markDegraded "EGW00133" 0,.call 1 true 75,.acquire 1 75,.made 1 (.error (.api "E" "m")),
    .call 2 true 150,.call 3 true 151,.acquire 2 152,.made 2 (.error (.other "E" "m")),
    .notified 2 true,.acquire 3 153,.call 4 true 230,.call 5 true 231,.acquire 4 232,
    .made 4 (.ok 7),.acquire 5 233]

/-- The promise holds after an incident with an alert and a recovery. -/
theorem recovery_keeps_promise_incident :
    ∃ s,play (step ⟨75,2⟩) (fun _ _ => True) (.init ℕ ℕ 0) incidentRun=some s ∧
      (starts s.history=[232,152,75] ∧ s.history.countP Entry.isAlert=1) ∧
      Promise ⟨75,2⟩ s := by
  obtain ⟨s,hplay,hend,hreach⟩ := play_ends (step ⟨75,2⟩) (fun _ _ => True) (.init ℕ ℕ 0)
    (fun s => starts s.history=[232,152,75] ∧ s.history.countP Entry.isAlert=1) incidentRun
    (by decide +kernel)
  exact ⟨s,hplay,hend,recovery_keeps_promise hreach⟩

end Aqts.KisRecovery
