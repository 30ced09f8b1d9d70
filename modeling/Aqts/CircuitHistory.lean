import Aqts.CircuitBreaker
import Mathlib.Data.List.Infix
import Mathlib.Tactic.Linarith

/-!
# What a circuit breaker remembers

The counters of a breaker against its history, in any run. The failures in a
row are those recorded since the last success, whatever state they were
recorded in; a half-open breaker has counted the successes of its period; and a
breaker that opened stays open for the recovery time. Every admission and every
transition of the history is then one that the documentation allows.
-/

namespace Aqts.CircuitBreaker

open GuardedRuns

/-- Failures recorded since the last success. -/
def failuresInRow : List Entry→ℕ
  | [] => 0
  | .failed _::history => failuresInRow history+1
  | .succeeded _::_ => 0
  | _::history => failuresInRow history

/-- A property of every entry and of the entries before it. -/
def Throughout (Q : Entry→List Entry→Prop) (history : List Entry) : Prop :=
  ∀ e older,(e::older) <:+ history→Q e older

/-- A property of every entry is one of the last entry and of all before. -/
theorem throughout_cons {Q : Entry→List Entry→Prop} {e : Entry} {history : List Entry} :
    Throughout Q (e::history) ↔ Q e history ∧ Throughout Q history := by
  constructor
  · intro h
    exact ⟨h e history List.suffix_rfl,fun e' older hs => h e' older (hs.trans (List.suffix_cons e history))⟩
  · intro h e' older hs
    obtain heq | hrest := List.suffix_cons_iff.mp hs
    · cases heq
      exact h.1
    · exact h.2 e' older hrest

section Laws

variable (settings : Settings)

/-- A call is admitted when the recovery time since each opening is over. -/
def AdmittedInTime : Entry→List Entry→Prop
  | .admitted now,older => ∀ source time,.transition source .opened time∈older→
      time+settings.recoveryTimeout≤now
  | _,_ => True

/-- A closed breaker changes to open, when the failures in a row have reached the
threshold. -/
def LeavesAtThreshold : Entry→List Entry→Prop
  | .transition .closed target _,older =>
    target=.opened ∧ (failuresInRow older : ℤ)=settings.failureThreshold
  | _,_ => True

/-- A breaker closes from half open, when as many successes as it needs were
recorded in its period, and no failure. -/
def ClosesAfterProbes : Entry→List Entry→Prop
  | .transition source .closed _,older =>
    source=.halfOpen ∧
      (∃ time,older.find? Entry.isTransition=some (.transition .opened .halfOpen time)) ∧
      ((present older).countP Entry.isSucceeded : ℤ)=max 1 settings.halfOpenMaxCalls ∧
      (present older).countP Entry.isFailed=0
  | _,_ => True

/-- The counters are those of the history. -/
structure Counted (s : Run) : Prop where
  /-- Failures in a row. -/
  failures : s.breaker.stats.consecutiveFailures=failuresInRow s.history
  /-- A half-open breaker was open. -/
  probing : s.breaker.state=.halfOpen→
    ∃ time,s.history.find? Entry.isTransition=some (.transition .opened .halfOpen time)
  /-- It has counted the successes of its period. -/
  successes : s.breaker.state=.halfOpen→
    s.breaker.stats.halfOpenCalls=(present s.history).countP Entry.isSucceeded
  /-- No failure was recorded in its period. -/
  clean : s.breaker.state=.halfOpen→(present s.history).countP Entry.isFailed=0
  /-- It needs another success. -/
  more : s.breaker.state=.halfOpen→
    (s.breaker.stats.halfOpenCalls : ℤ)< max 1 settings.halfOpenMaxCalls

/-- The failures in a row of a closed breaker are below the threshold. -/
def BelowThreshold (s : Run) : Prop :=
  s.breaker.state=.closed→(s.breaker.stats.consecutiveFailures : ℤ)< settings.failureThreshold

/-- The recovery time since every opening is over, unless the breaker is open
since then. -/
def Recovered (s : Run) : Prop :=
  ∀ source time,.transition source .opened time∈s.history→
    s.breaker.state=.opened ∧ s.breaker.stats.stateChangedAt=time ∨
      time+settings.recoveryTimeout≤ s.clock

/-- Every entry of the history obeys the laws. -/
structure Lawful (s : Run) : Prop where
  /-- Admissions. -/
  admissions : Throughout (AdmittedInTime settings) s.history
  /-- Transitions from closed. -/
  leavings : Throughout (LeavesAtThreshold settings) s.history
  /-- Transitions to closed. -/
  closings : Throughout (ClosesAfterProbes settings) s.history

end Laws

variable {settings : Settings} {s s' : Run}

/-- A new breaker has counted nothing. -/
theorem counted_start (now : ℚ) : Counted settings (.start now) :=
  ⟨rfl,nofun,nofun,nofun,nofun⟩

/-- Every change keeps the counters those of the history. -/
theorem Counted.move (h : Counted settings s) (hmove : Move settings s s') :
    Counted settings s' := by
  cases hmove with
  | waited now hclock => exact ⟨h.failures,h.probing,h.successes,h.clean,h.more⟩
  | probes now hstate htime =>
    refine ⟨h.failures,fun _ => ⟨now,rfl⟩,fun _ => rfl,fun _ => rfl,?_⟩
    intro _
    exact lt_of_lt_of_le zero_lt_one (le_max_left 1 settings.halfOpenMaxCalls)
  | admits hstate => exact ⟨h.failures,h.probing,h.successes,h.clean,h.more⟩
  | drops admittedIn b hcall hstate hchanged hfailures hcounted =>
    refine ⟨hfailures.trans h.failures,?_,?_,?_,?_⟩
    · intro hhalf
      exact h.probing (hstate.symm.trans hhalf)
    · intro hhalf
      exact hcounted.trans (h.successes (hstate.symm.trans hhalf))
    · intro hhalf
      exact h.clean (hstate.symm.trans hhalf)
    · intro hhalf
      exact_mod_cast hcounted ▸ h.more (hstate.symm.trans hhalf)
  | succeeds admittedIn b hcall hstate hchanged hfailures hcounted =>
    refine ⟨hfailures,?_,?_,?_,?_⟩
    · intro hhalf
      exact h.probing (hstate.symm.trans hhalf)
    · intro hhalf
      have hbefore := hstate.symm.trans hhalf
      have hmore : (present (.succeeded admittedIn::s.history)).countP Entry.isSucceeded=
          (present s.history).countP Entry.isSucceeded+1 := List.countP_cons_of_pos rfl
      exact ((hcounted hbefore).1.trans (congrArg (·+1) (h.successes hbefore))).trans hmore.symm
    · intro hhalf
      exact h.clean (hstate.symm.trans hhalf)
    · intro hhalf
      exact lt_of_lt_of_le (hcounted (hstate.symm.trans hhalf)).2 (le_max_right 1 _)
  | closes admittedIn b hcall hstate hclosed hfailures hlast =>
    refine ⟨hfailures,?_,?_,?_,?_⟩
    all_goals
      intro hhalf
      rw [hclosed] at hhalf
      cases hhalf
  | fails admittedIn b hcall hstate hhalf hchanged hfailures hbelow =>
    have hnot : b.state≠.halfOpen := by rwa [hstate]
    refine ⟨hfailures.trans (congrArg (·+1) h.failures),?_,?_,?_,?_⟩
    all_goals
      intro hprobing
      exact (hnot hprobing).elim
  | opens admittedIn b hcall hreached hopened hfailures =>
    refine ⟨hfailures.trans (congrArg (·+1) h.failures),?_,?_,?_,?_⟩
    all_goals
      intro hother
      rw [hopened] at hother
      cases hother

/-- A breaker whose failures in a row are none is below the threshold. -/
theorem BelowThreshold.of_none (hthreshold : 1≤ settings.failureThreshold)
    (hnone : s.breaker.stats.consecutiveFailures=0) : BelowThreshold settings s := by
  intro _
  rw [hnone]
  exact lt_of_lt_of_le zero_lt_one hthreshold

/-- Every change keeps a closed breaker below the threshold. -/
theorem BelowThreshold.move (hthreshold : 1≤ settings.failureThreshold)
    (h : BelowThreshold settings s) (hmove : Move settings s s') : BelowThreshold settings s' := by
  cases hmove with
  | waited now hclock => exact h
  | probes now hstate htime => exact nofun
  | admits hstate => exact h
  | succeeds admittedIn b hcall hstate hchanged hfailures hcounted =>
    exact .of_none hthreshold hfailures
  | closes admittedIn b hcall hstate hclosed hfailures hlast => exact .of_none hthreshold hfailures
  | fails admittedIn b hcall hstate hhalf hchanged hfailures hbelow =>
    intro hclosed
    exact hbelow (hstate.symm.trans hclosed)
  | opens admittedIn b hcall hreached hopened hfailures =>
    intro hclosed
    rw [hopened] at hclosed
    cases hclosed
  | drops admittedIn b hcall hstate hchanged hfailures hcounted =>
    intro hclosed
    exact_mod_cast hfailures ▸ h (hstate.symm.trans hclosed)

/-- A breaker that opened was not open, so the recovery time since every earlier
opening is over. -/
theorem Recovered.over (h : Recovered settings s) (hstate : s.breaker.state≠.opened)
    {source : CircuitState} {time : ℚ} (hopened : .transition source .opened time∈s.history) :
    time+settings.recoveryTimeout≤ s.clock := by
  obtain ⟨hopen,_⟩ | hover := h source time hopened
  · exact (hstate hopen).elim
  · exact hover

/-- Every change keeps the recovery time of a breaker. -/
theorem Recovered.move (h : Recovered settings s) (hmove : Move settings s s') :
    Recovered settings s' := by
  have hkept : ∀ {b : Breaker},b.state=s.breaker.state→
      b.stats.stateChangedAt=s.breaker.stats.stateChangedAt→
      ∀ source time,.transition source .opened time∈s.history→
        b.state=.opened ∧ b.stats.stateChangedAt=time ∨
          time+settings.recoveryTimeout≤ s.clock := by
    intro b hstate hchanged source time hopened
    rw [hstate,hchanged]
    exact h source time hopened
  cases hmove with
  | waited now hclock =>
    intro source time hopened
    obtain hopen | hover := h source time hopened
    · exact .inl hopen
    · exact .inr (hover.trans hclock)
  | probes now hstate htime =>
    intro source time hopened
    have hbefore : .transition source .opened time∈s.history := by simpa using hopened
    obtain ⟨_,hchanged⟩ | hover := h source time hbefore
    · rw [hchanged] at htime
      right
      dsimp only
      linarith
    · exact .inr hover
  | admits hstate =>
    intro source time hopened
    exact h source time (by simpa using hopened)
  | succeeds admittedIn b hcall hstate hchanged hfailures hcounted =>
    intro source time hopened
    exact hkept hstate hchanged source time (by simpa using hopened)
  | fails admittedIn b hcall hstate hhalf hchanged hfailures hbelow =>
    intro source time hopened
    exact hkept hstate hchanged source time (by simpa using hopened)
  | drops admittedIn b hcall hstate hchanged hfailures hcounted =>
    intro source time hopened
    exact hkept hstate hchanged source time (by simpa using hopened)
  | closes admittedIn b hcall hstate hclosed hfailures hlast =>
    intro source time hopened
    exact .inr (h.over (by rw [hstate]; exact nofun) (by simpa using hopened))
  | opens admittedIn b hcall hreached hopened hfailures =>
    intro source time hnew
    have hnotOpen : s.breaker.state≠.opened := by
      obtain hhalf | hclosed := hreached
      · rw [hhalf]
        exact nofun
      · rw [hclosed.1]
        exact nofun
    simp only [List.mem_cons,reduceCtorEq,false_or,Entry.transition.injEq] at hnew
    obtain ⟨_,_,rfl⟩ | hbefore := hnew
    · exact .inl ⟨hopened,rfl⟩
    · exact .inr (h.over hnotOpen hbefore)

/-- Every change obeys the laws. -/
theorem Lawful.move (h : Lawful settings s) (hcounted : Counted settings s)
    (hthreshold : BelowThreshold settings s) (hrecovered : Recovered settings s) (hmove : Move settings s s') : Lawful settings s' := by
  have hentry : ∀ e,AdmittedInTime settings e s.history→
      LeavesAtThreshold settings e s.history→ ClosesAfterProbes settings e s.history→
      ∀ run : Run,run.history=e::s.history→Lawful settings run := by
    intro e hadmitted hleaves hcloses run hrun
    refine ⟨?_,?_,?_⟩
    · rw [hrun]
      exact throughout_cons.mpr ⟨hadmitted,h.admissions⟩
    · rw [hrun]
      exact throughout_cons.mpr ⟨hleaves,h.leavings⟩
    · rw [hrun]
      exact throughout_cons.mpr ⟨hcloses,h.closings⟩
  cases hmove with
  | waited now hclock => exact ⟨h.admissions,h.leavings,h.closings⟩
  | probes now hstate htime =>
    exact hentry (.transition .opened .halfOpen now) trivial trivial trivial _ rfl
  | admits hstate =>
    refine hentry (.admitted s.clock) ?_ trivial trivial _ rfl
    intro source time hopened
    refine hrecovered.over ?_ hopened
    obtain hclosed | hhalf := hstate
    · rw [hclosed]
      exact nofun
    · rw [hhalf.1]
      exact nofun
  | succeeds admittedIn b hcall hstate hchanged hfailures hprobed =>
    exact hentry (.succeeded admittedIn) trivial trivial trivial _ rfl
  | fails admittedIn b hcall hstate hhalf hchanged hfailures hbelow =>
    exact hentry (.failed admittedIn) trivial trivial trivial _ rfl
  | drops admittedIn b hcall hstate hchanged hfailures hprobed =>
    exact hentry (.uncounted admittedIn) trivial trivial trivial _ rfl
  | closes admittedIn b hcall hstate hclosed hfailures hlast =>
    have hfirst := hentry (.succeeded admittedIn) trivial trivial trivial
      {s with history := .succeeded admittedIn::s.history} rfl
    refine ⟨throughout_cons.mpr ⟨trivial,hfirst.admissions⟩,
      throughout_cons.mpr ⟨trivial,hfirst.leavings⟩,
      throughout_cons.mpr ⟨⟨rfl,hcounted.probing hstate,?_,hcounted.clean hstate⟩,hfirst.closings⟩⟩
    have hnow : (present (.succeeded admittedIn::s.history)).countP Entry.isSucceeded=
        (present s.history).countP Entry.isSucceeded+1 := List.countP_cons_of_pos rfl
    have hbefore := hcounted.more hstate
    rw [hnow,← hcounted.successes hstate]
    push_cast
    omega
  | opens admittedIn b hcall hreached hopened hfailures =>
    have hfirst := hentry (.failed admittedIn) trivial trivial trivial
      {s with history := .failed admittedIn::s.history} rfl
    refine ⟨throughout_cons.mpr ⟨trivial,hfirst.admissions⟩,
      throughout_cons.mpr ⟨?_,hfirst.leavings⟩,throughout_cons.mpr ⟨?_,hfirst.closings⟩⟩
    · obtain hhalf | ⟨hclosed,hreached⟩ := hreached
      · rw [hhalf]
        trivial
      · have hbelow := hthreshold hclosed
        have hrow : failuresInRow (.failed admittedIn::s.history)=
            s.breaker.stats.consecutiveFailures+1 := congrArg (·+1) hcounted.failures.symm
        rw [hclosed]
        refine ⟨rfl,?_⟩
        rw [hrow]
        rw [hfailures] at hreached
        push_cast at hreached ⊢
        omega
    · cases s.breaker.state with
      | _ => trivial

/-- In every run, over any number of calls in flight: no call is admitted while
the recovery time since an opening lasts; the failures in a row are those
recorded since the last success and stay below the threshold while the breaker
is closed, and it leaves that state when they reach it; and it closes again only
from half open, after the successes of a period without a failure. -/
theorem breaker_follows_history (hthreshold : 1≤ settings.failureThreshold) {now : ℚ}
    (hrun : Reaches (step settings) (fun _ _ => True) (.start now) s) :
    Throughout (AdmittedInTime settings) s.history ∧
      (s.breaker.state=.closed→
        s.breaker.stats.consecutiveFailures=failuresInRow s.history ∧
        (s.breaker.stats.consecutiveFailures : ℤ)< settings.failureThreshold) ∧
      Throughout (LeavesAtThreshold settings) s.history ∧
      Throughout (ClosesAfterProbes settings) s.history := by
  have hall : Counted settings s ∧ BelowThreshold settings s ∧ Recovered settings s ∧
      Lawful settings s := by
    refine reaches_invariant (P := fun s => Counted settings s ∧ BelowThreshold settings s ∧
      Recovered settings s ∧ Lawful settings s) ?_ ?_ hrun
    · refine ⟨counted_start now,.of_none hthreshold rfl,nofun,?_,?_,?_⟩
      all_goals
        intro e older hs
        cases List.suffix_nil.mp hs
    · intro s s' hs hmove
      exact ⟨hs.1.move hmove,hs.2.1.move hthreshold hmove,hs.2.2.1.move hmove,
        hs.2.2.2.move hs.1 hs.2.1 hs.2.2.1 hmove⟩
  obtain ⟨hcounted,hbelow,_,hlawful⟩ := hall
  exact ⟨hlawful.admissions,fun hclosed => ⟨hcounted.failures,hbelow hclosed⟩,hlawful.leavings,
    hlawful.closings⟩

/-- Three failures open a breaker, a call is refused, and the probe after the
recovery time closes it. -/
theorem breaker_follows_history_recovery :
    ∃ s : Run,s.breaker.state=.closed ∧ s.history.length=11 ∧
      Throughout (AdmittedInTime fredBreaker) s.history ∧
      (s.breaker.state=.closed→
        s.breaker.stats.consecutiveFailures=failuresInRow s.history ∧
        (s.breaker.stats.consecutiveFailures : ℤ)<fredBreaker.failureThreshold) ∧
      Throughout (LeavesAtThreshold fredBreaker) s.history ∧
      Throughout (ClosesAfterProbes fredBreaker) s.history := by
  obtain ⟨s,_,hq,hrun⟩ := play_ends (step fredBreaker) (fun _ _ => True) (.start 0)
    (fun s => s.breaker.state=.closed ∧ s.history.length=11)
    [.check (.at 1),.finish 0 (.raised false) (.at 2),.check (.at 3),.check (.at 4),
      .finish 0 (.raised false) (.at 5),.finish 0 (.raised false) (.at 6),.check (.at 7),
      .check (.at 126),.finish 2 .returned (.at 127)] (by decide +kernel)
  exact ⟨s,hq.1,hq.2,breaker_follows_history (by decide) hrun⟩

end Aqts.CircuitBreaker
