import Aqts.CircuitHistory

/-!
# The calls of a half-open period

A check of a half-open breaker compares `half_open_calls` with its bound. That
counter is the number of successes recorded in the period, so it misses the
calls in flight and those that end without a record, and it contains the
successes of calls that an earlier period admitted. The number of admitted
calls is computed from these parts; it stays within the bound when every check
finds room for one more.
-/

namespace Aqts.CircuitBreaker

open GuardedRuns

/-- The entry ends a call that was admitted in a period. -/
def Entry.ends (admittedIn : ℕ) : Entry→Bool
  | .succeeded other => other==admittedIn
  | .failed other => other==admittedIn
  | .uncounted other => other==admittedIn
  | _ => false

/-- The entry is the success of a call that another period admitted. -/
def Entry.isLate (admittedIn : ℕ) : Entry→Bool
  | .succeeded other => other != admittedIn
  | _ => false

/-- The entry ends a call of the period without a success or a failure. -/
def Entry.isUncounted (admittedIn : ℕ) : Entry→Bool
  | .uncounted other => other==admittedIn
  | _ => false

/-- A half-open breaker has admitted at most `half_open_max_calls` calls in its
period. -/
def ProbesBounded (settings : Settings) (s : Run) : Prop :=
  s.breaker.state=.halfOpen→
    ((present s.history).countP Entry.isAdmitted : ℤ)≤ settings.halfOpenMaxCalls

instance (settings : Settings) (s : Run) : Decidable (ProbesBounded settings s) :=
  inferInstanceAs (Decidable (_→_))

/-- The calls of the period in flight, its calls that ended uncounted and the
counter are below the bound, where the counter is not to contain late
successes. -/
def RoomLeft (settings : Settings) (s : Run) : Prop :=
  s.breaker.state=.halfOpen→
    ((s.breaker.stats.halfOpenCalls+s.inFlight.count (period s.history)+
        (present s.history).countP (Entry.isUncounted (period s.history)) : ℕ) : ℤ)<
      settings.halfOpenMaxCalls+(present s.history).countP (Entry.isLate (period s.history))

instance (settings : Settings) (s : Run) : Decidable (RoomLeft settings s) :=
  inferInstanceAs (Decidable (_→_))

/-- Every check that finds the breaker half open finds room. -/
def ChecksWithRoom (settings : Settings) (s : Run) : Event→Prop
  | .check r => RoomLeft settings (s.read settings r)
  | _ => True

instance (settings : Settings) (s : Run) (e : Event) : Decidable (ChecksWithRoom settings s e) :=
  match e with
  | .check r => inferInstanceAs (Decidable (RoomLeft settings (s.read settings r)))
  | .read _ => .isTrue trivial
  | .finish _ _ _ => .isTrue trivial

/-- A half-open breaker has no call of its period in flight, and none of them ended uncounted. -/
def Alone (s : Run) : Prop :=
  s.breaker.state=.halfOpen→period s.history∉s.inFlight ∧
    (present s.history).countP (Entry.isUncounted (period s.history))=0

/-- Every check that finds the breaker half open is alone. -/
def ChecksAlone (settings : Settings) (s : Run) : Event→Prop
  | .check r => Alone (s.read settings r)
  | _ => True

/-- The calls admitted in the present period are in flight or have ended. -/
structure Accounted (s : Run) : Prop where
  /-- No call was admitted in a period to come. -/
  tags : ∀ admittedIn∈s.inFlight,admittedIn≤ period s.history
  /-- The calls of the present period. -/
  admissions : (present s.history).countP Entry.isAdmitted=
    s.inFlight.count (period s.history)+
      (present s.history).countP (Entry.ends (period s.history))

variable {settings : Settings} {s s' : Run}

/-- A transition starts a period without calls. -/
theorem Accounted.transition {source target : CircuitState} {time : ℚ} {b : Breaker}
    {history : List Entry} {inFlight : List ℕ} {now : ℚ}
    (htags : ∀ admittedIn∈inFlight,admittedIn≤ period history) :
    Accounted ⟨b,now,inFlight,.transition source target time::history⟩ := by
  have hperiod : period (.transition source target time::history)=period history+1 :=
    List.countP_cons_of_pos rfl
  refine ⟨?_,?_⟩
  · intro admittedIn hcall
    rw [hperiod]
    exact (htags admittedIn hcall).trans (Nat.le_succ _)
  · dsimp only
    rw [hperiod]
    have hnone : inFlight.count (period history+1)=0 := by
      apply List.count_eq_zero_of_not_mem
      intro hcall
      exact absurd (htags _ hcall) (Nat.not_succ_le_self _)
    rw [hnone]
    rfl

/-- A call that ends leaves the calls in flight, and its entry accounts for it. -/
theorem Accounted.ended (h : Accounted s) {admittedIn : ℕ} (hcall : admittedIn∈s.inFlight)
    {e : Entry} {b : Breaker} (hadmitted : e.isAdmitted=false) (htransition : e.isTransition=false)
    (hends : ∀ p,e.ends p=(admittedIn==p)) :
    Accounted {s with
      breaker := b
      inFlight := s.inFlight.erase admittedIn
      history := e::s.history} := by
  have hperiod : period (e::s.history)=period s.history :=
    List.countP_cons_of_neg (by rw [htransition]; exact Bool.false_ne_true)
  have hpresent : present (e::s.history)=e::present s.history :=
    List.takeWhile_cons_of_pos (by rw [htransition]; rfl)
  refine ⟨?_,?_⟩
  · intro other hother
    rw [hperiod]
    exact h.tags other (List.mem_of_mem_erase hother)
  · dsimp only
    have hbefore := h.admissions
    rw [hperiod,hpresent,List.countP_cons_of_neg (by rw [hadmitted]; exact Bool.false_ne_true),
      hbefore]
    by_cases hnow : admittedIn=period s.history
    · have hpos : 0< s.inFlight.count (period s.history) := List.count_pos_iff.mpr (hnow ▸ hcall)
      rw [← hnow,List.count_erase_self,List.countP_cons_of_pos (by rw [hends]; exact beq_self_eq_true _)]
      rw [← hnow] at hpos
      omega
    · have hother : ¬e.ends (period s.history)=true := by
        rw [hends]
        exact fun heq => hnow (eq_of_beq heq)
      rw [List.count_erase_of_ne (Ne.symm hnow),List.countP_cons_of_neg hother]

/-- Every change keeps the account of the calls. -/
theorem Accounted.move (h : Accounted s) (hmove : Move settings s s') : Accounted s' := by
  cases hmove with
  | waited now hclock => exact ⟨h.tags,h.admissions⟩
  | probes now hstate htime => exact .transition h.tags
  | admits hstate =>
    refine ⟨?_,?_⟩
    · intro admittedIn hcall
      obtain rfl | hbefore := List.mem_cons.mp hcall
      · exact le_rfl
      · exact h.tags admittedIn hbefore
    · have hsum := h.admissions
      have hperiod : period (.admitted s.clock::s.history)=period s.history :=
        List.countP_cons_of_neg Bool.false_ne_true
      have hpresent : present (.admitted s.clock::s.history)=.admitted s.clock::present s.history :=
        List.takeWhile_cons_of_pos rfl
      dsimp only
      rw [hperiod,hpresent,List.countP_cons_of_pos rfl,List.count_cons_self,
        List.countP_cons_of_neg Bool.false_ne_true,hsum]
      omega
  | succeeds admittedIn b hcall hstate hchanged hfailures hcounted =>
    exact h.ended hcall rfl rfl fun _ => rfl
  | fails admittedIn b hcall hstate hhalf hchanged hfailures hbelow =>
    exact h.ended hcall rfl rfl fun _ => rfl
  | drops admittedIn b hcall hstate hchanged hfailures hcounted =>
    exact h.ended hcall rfl rfl fun _ => rfl
  | closes admittedIn b hcall hstate hclosed hfailures hlast =>
    exact .transition (h.ended (b := b) (e := .succeeded admittedIn) hcall rfl rfl fun _ => rfl).tags
  | opens admittedIn b hcall hreached hopened hfailures =>
    exact .transition (h.ended (b := b) (e := .failed admittedIn) hcall rfl rfl fun _ => rfl).tags

/-- Where no failure was recorded, the calls of the period that have ended and
the late successes are the successes and the calls that ended uncounted. -/
theorem ends_add_late (p : ℕ) {history : List Entry} (hclean : history.countP Entry.isFailed=0) :
    history.countP (Entry.ends p)+history.countP (Entry.isLate p)=
      history.countP Entry.isSucceeded+history.countP (Entry.isUncounted p) := by
  induction history with
  | nil => rfl
  | cons e history ih =>
    have hbefore : history.countP Entry.isFailed=0 := by
      rw [List.countP_cons] at hclean
      omega
    have hrest := ih hbefore
    simp only [List.countP_cons] at hclean ⊢
    cases e with
    | transition source target time => simpa [Entry.ends,Entry.isLate,Entry.isSucceeded,Entry.isUncounted] using hrest
    | admitted time => simpa [Entry.ends,Entry.isLate,Entry.isSucceeded,Entry.isUncounted] using hrest
    | failed q => simp [Entry.isFailed] at hclean
    | succeeded q =>
      by_cases hq : q=p
      · simp [Entry.ends,Entry.isLate,Entry.isSucceeded,Entry.isUncounted,hq]
        omega
      · simp [Entry.ends,Entry.isLate,Entry.isSucceeded,Entry.isUncounted,hq]
        omega
    | uncounted q =>
      by_cases hq : q=p
      · simp [Entry.ends,Entry.isLate,Entry.isSucceeded,Entry.isUncounted,hq]
        omega
      · simp [Entry.ends,Entry.isLate,Entry.isSucceeded,Entry.isUncounted,hq]
        omega

/-- There is room exactly when fewer calls were admitted than the bound. -/
theorem roomLeft_iff (hcounted : Counted settings s) (haccounted : Accounted s)
    (hhalf : s.breaker.state=.halfOpen) :
    RoomLeft settings s ↔
      ((present s.history).countP Entry.isAdmitted : ℤ)< settings.halfOpenMaxCalls := by
  have hparts := ends_add_late (period s.history) (hcounted.clean hhalf)
  have hsum := haccounted.admissions
  have hcounter := hcounted.successes hhalf
  unfold RoomLeft
  constructor
  · intro hroom
    have hleft := hroom hhalf
    push_cast at hleft
    omega
  · intro hbelow _
    push_cast
    omega

/-- A transition starts a period without admissions, and without one they are
those of the history. -/
theorem noted_admissions (hmax : 1≤ settings.halfOpenMaxCalls) {b b' : Breaker}
    {l : List Entry}
    (h : b.state=.halfOpen→
      ((present l).countP Entry.isAdmitted : ℤ)≤ settings.halfOpenMaxCalls) :
    b'.state=.halfOpen→
      ((present (noted b b' l)).countP Entry.isAdmitted : ℤ)≤ settings.halfOpenMaxCalls := by
  intro hhalf
  by_cases hsame : b'.state=b.state
  · rw [noted_same hsame]
    exact h (hsame ▸ hhalf)
  · rw [noted_changed hsame]
    exact zero_le_one.trans hmax

/-- A read of the state keeps the bound. -/
theorem ProbesBounded.read (hmax : 1≤ settings.halfOpenMaxCalls) (h : ProbesBounded settings s)
    (r : Readings) : ProbesBounded settings (s.read settings r) :=
  noted_admissions hmax h

/-- A completion keeps the bound. -/
theorem ProbesBounded.finish (hmax : 1≤ settings.halfOpenMaxCalls) (h : ProbesBounded settings s)
    (admittedIn : ℕ) (outcome : Outcome) (r : Readings) :
    ProbesBounded settings (s.finish settings admittedIn outcome r) := by
  cases outcome with
  | returned => exact noted_admissions hmax (l := .succeeded admittedIn::s.history) h
  | raised excluded =>
    cases excluded with
    | false => exact noted_admissions hmax (l := .failed admittedIn::s.history) h
    | true => exact noted_admissions hmax (l := .uncounted admittedIn::s.history) h
  | cancelled => exact noted_admissions hmax (l := .uncounted admittedIn::s.history) h

/-- A check reads the state, and then it may admit the call. -/
theorem check_cases (settings : Settings) (r : Readings) (s : Run) :
    s.check settings r=s.read settings r ∨
      s.check settings r={s.read settings r with
        inFlight := period (s.read settings r).history::s.inFlight
        history := .admitted r.first::(s.read settings r).history} := by
  obtain ⟨hbreaker,_⟩ := checkState_cases settings r s.breaker
  unfold Run.check Run.read
  dsimp only
  rw [hbreaker]
  cases (checkState settings r s.breaker).1 with
  | some error => exact .inl rfl
  | none => exact .inr rfl

/-- A guard under which every check finds room keeps a half-open breaker within
`half_open_max_calls`. -/
theorem bounded_of_room (hmax : 1≤ settings.halfOpenMaxCalls) {allowed : Run→Event→Prop}
    (hreads : ∀ t r,allowed t (.read r))
    (hrooms : ∀ t r,Counted settings (t.read settings r)→allowed t (.check r)→
      RoomLeft settings (t.read settings r)) {now : ℚ}
    (hrun : Reaches (step settings) allowed (.start now) s) : ProbesBounded settings s := by
  have hinvariants : ∀ t,Reaches (step settings) allowed (.start now) t→
      Counted settings t ∧ Accounted t := by
    intro t ht
    refine reaches_invariant (P := fun s => Counted settings s ∧ Accounted s) ?_ ?_ ht
    · exact ⟨counted_start now,fun _ hcall => (List.not_mem_nil hcall).elim,rfl⟩
    · intro s s' hs hmove
      exact ⟨hs.1.move hmove,hs.2.move hmove⟩
  have hstart : ProbesBounded settings (.start now) := by
    intro hhalf
    cases hhalf
  refine hrun.invariant hstart ?_
  intro s e s' hreached hbounded hallowed hstep
  cases e with
  | read r =>
    dsimp only [step] at hstep
    split at hstep
    · cases hstep
      exact hbounded.read hmax r
    · cases hstep
  | finish admittedIn outcome r =>
    dsimp only [step] at hstep
    split at hstep
    · cases hstep
      exact hbounded.finish hmax admittedIn outcome r
    · cases hstep
  | check r =>
    dsimp only [step] at hstep
    split at hstep
    · rename_i hclock
      have hread : step settings s (.read r)=some (s.read settings r) := if_pos hclock
      obtain ⟨hcounted,haccounted⟩ := hinvariants _ (hreached.next (hreads s r) hread)
      cases hstep
      obtain hrefused | hadmitted := check_cases settings r s
      · rw [hrefused]
        exact hbounded.read hmax r
      · rw [hadmitted]
        intro hhalf
        have hroom := hrooms s r hcounted hallowed
        have hbelow := (roomLeft_iff hcounted haccounted hhalf).mp hroom
        have hone : (present (.admitted r.first::(s.read settings r).history)).countP
            Entry.isAdmitted=(present (s.read settings r).history).countP Entry.isAdmitted+1 :=
          List.countP_cons_of_pos rfl
        dsimp only
        rw [hone]
        exact_mod_cast hbelow
    · cases hstep

/-- Without a call of the period in flight or ended uncounted there is room. -/
theorem Alone.roomLeft (hmax : 1≤ settings.halfOpenMaxCalls) (hcounted : Counted settings s)
    (h : Alone s) : RoomLeft settings s := by
  intro hhalf
  obtain ⟨hflight,huncounted⟩ := h hhalf
  have hmore := hcounted.more hhalf
  rw [max_eq_right hmax] at hmore
  rw [List.count_eq_zero_of_not_mem hflight,huncounted]
  push_cast
  omega

/-- If no half-open breaker is asked while a call of its period is in flight or after one of them
has ended uncounted, it admits at most `half_open_max_calls` calls in a period. -/
theorem alone_bounded (hmax : 1≤ settings.halfOpenMaxCalls) {now : ℚ}
    (hrun : Reaches (step settings) (ChecksAlone settings) (.start now) s) :
    ProbesBounded settings s :=
  bounded_of_room hmax (fun _ _ => trivial) (fun _ _ hcounted halone =>
    Alone.roomLeft hmax hcounted halone) hrun

/-- In every run whose checks find room, a half-open breaker admits at most
`half_open_max_calls` calls in one period. -/
theorem probes_bounded (hmax : 1≤ settings.halfOpenMaxCalls) {now : ℚ}
    (hrun : Reaches (step settings) (ChecksWithRoom settings) (.start now) s) :
    ProbesBounded settings s :=
  bounded_of_room hmax (fun _ _ => trivial) (fun _ _ _ hroom => hroom) hrun

/-- The probe of a half-open breaker closes it and the next call passes. -/
theorem probes_bounded_recovery :
    ∃ s : Run,s.breaker.state=.closed ∧ s.inFlight=[3] ∧ ProbesBounded fredBreaker s := by
  obtain ⟨s,_,hq,hrun⟩ := play_ends (step fredBreaker) (ChecksWithRoom fredBreaker) (.start 0)
    (fun s => s.breaker.state=.closed ∧ s.inFlight=[3])
    [.check (.at 1),.finish 0 (.raised false) (.at 2),.check (.at 3),
      .finish 0 (.raised false) (.at 4),.check (.at 5),.finish 0 (.raised false) (.at 6),
      .check (.at 126),.finish 2 .returned (.at 127),.check (.at 128)] (by decide +kernel)
  exact ⟨s,hq.1,hq.2,probes_bounded (by decide) hrun⟩

/-- Two calls are checked after the recovery time before either completes. -/
theorem probes_overlap :
    ¬∀ s : Run,Reaches (step fredBreaker) (fun _ _ => True) (.start 0) s→
      ProbesBounded fredBreaker s :=
  not_forall_reaches
    [.check (.at 1),.finish 0 (.raised false) (.at 2),.check (.at 3),
      .finish 0 (.raised false) (.at 4),.check (.at 5),.finish 0 (.raised false) (.at 6),
      .check (.at 126),.check (.at 127)] (by decide +kernel)

end Aqts.CircuitBreaker
