import Aqts.EndlessRuns
import Aqts.ShutdownSteps

/-!
# Runs of a graceful shutdown

From the first call of `shutdown` on, with any interleaving of completions, registrations,
further calls and ends of tasks: the call returns after each stop and each cleanup
callback was called once, in order, with every order drained or cancelled. The one
exception is a cancelled task that ends with another exception than the two that are
caught, which skips every stop and cleanup. With a timeout that the elapsed time never
reaches, the orders have to complete.
-/

namespace Aqts.ShutdownRuns

open Dictionary PandasSeries EndlessRuns GracefulShutdown ShutdownSteps

variable {T C : Type*}

/-- A call of `shutdown` completes in the run that follows it. -/
structure Completes (m : GracefulShutdownManager T C) (ws : ℕ→World T C) : Prop where
  /-- At some time it has returned with its work done, and this stays so. -/
  completed : ∃ n,∀ k,n≤k→ Completed m (ws k)
  /-- No registration of an order is accepted. -/
  refuses : ∀ n orderId ticker task,(ws n).manager.registerPendingOrder orderId ticker task=
    (false,(ws n).manager)
  /-- No order becomes pending. -/
  shrinks : ∀ n,(ws (n+1)).manager.pendingOrders.items.Sublist (ws n).manager.pendingOrders.items

section Runs

variable [DecidableEq T]

/-- The worlds from the first point of the call on. -/
abbrev worlds (m : GracefulShutdownManager T C) (tasks : T→Option Ending) (timeout : Value ℚ)
    (events : ℕ→Event T) : ℕ→World T C :=
  states step (shutdown (World.start m tasks) timeout) events

variable {m : GracefulShutdownManager T C} {tasks : T→Option Ending} {timeout : Value ℚ}
  {events : ℕ→Event T}

/-- A run whose steps do not abort the call keeps it going. -/
theorem run_underway (hm : m.phase=.running) (hkept : ∀ n,events n≠.resume .cancelled)
    (hgoes : ∀ n,¬Aborts (worlds m tasks timeout events n) (events n)) (n : ℕ) :
    Underway m timeout (worlds m tasks timeout events n) := by
  induction n with
  | zero => exact shutdown_underway hm tasks
  | succ n ih => exact step_underway ih (hgoes n) (hkept n)

/-- Orders that are pending later are pending before. -/
theorem run_sublist (h : ∀ n,Underway m timeout (worlds m tasks timeout events n)) {n k : ℕ}
    (hnk : n≤k) :
    (worlds m tasks timeout events k).manager.pendingOrders.items.Sublist
      (worlds m tasks timeout events n).manager.pendingOrders.items := by
  induction k,hnk using Nat.le_induction with
  | base => exact List.Sublist.refl _
  | succ k _ ih => exact (step_sublist (h k).phase (h k).accepting (events k)).trans ih

/-- An order that has completed is not pending later. -/
theorem completed_not_pending (h : ∀ n,Underway m timeout (worlds m tasks timeout events n))
    {n k : ℕ} {orderId : String} (he : events n=.completePendingOrder orderId) (hnk : n < k) :
    orderId∉(worlds m tasks timeout events k).manager.pendingOrders.keys := by
  intro hkey
  have hafter : orderId∈(worlds m tasks timeout events (n+1)).manager.pendingOrders.keys :=
    ((run_sublist h hnk).map Prod.fst).subset hkey
  have hworld : worlds m tasks timeout events (n+1)=
      step (worlds m tasks timeout events n) (.completePendingOrder orderId) := by
    rw [← he]
    rfl
  rw [hworld] at hafter
  obtain ⟨item,hitem,hsame⟩ := List.mem_map.mp hafter
  exact of_decide_eq_true (List.mem_filter.mp hitem).2 hsame

/-- If every order completes, none is pending at some time. -/
theorem run_drained (hm : m.phase=.running)
    (h : ∀ n,Underway m timeout (worlds m tasks timeout events n))
    (hall : ∀ orderId∈m.pendingOrders.keys,∃ n,events n=.completePendingOrder orderId) :
    ∃ time,(worlds m tasks timeout events time).manager.pendingOrders.items=[] := by
  obtain ⟨time,htime⟩ := all_happened m.pendingOrders.keys hall
  have hstart : (worlds m tasks timeout events 0).manager.pendingOrders.items.Sublist
      m.pendingOrders.items := by
    have hcall : worlds m tasks timeout events 0=drainPendingOrders
        { World.start m tasks with
          manager := { m with phase := .draining, acceptingOrders := false } } timeout :=
      if_neg (not_not.mpr hm)
    rw [hcall]
    exact (drainPendingOrders_frame _ timeout).pending
  refine ⟨time,List.eq_nil_iff_forall_not_mem.mpr fun item hitem => ?_⟩
  have hkey : item.1∈(worlds m tasks timeout events time).manager.pendingOrders.keys :=
    List.mem_map_of_mem hitem
  have hbefore : item.1∈m.pendingOrders.keys :=
    (((run_sublist h (Nat.zero_le time)).trans hstart).map Prod.fst).subset hkey
  obtain ⟨n,hn,hcomplete⟩ := htime item.1 hbefore
  exact completed_not_pending h hcomplete hn hkey

/-- A call that is not aborted returns, if its drain does not wait without a limit. -/
theorem run_returns (h : ∀ n,Underway m timeout (worlds m tasks timeout events n))
    (hfair : Recurs IsResume events) {start : ℕ}
    (hdrains : Expires timeout ∨
      (worlds m tasks timeout events start).manager.pendingOrders.items=[]) :
    ∃ n,(worlds m tasks timeout events n).point=.returned := by
  have hlimit : ∀ k,start≤k→Expires timeout ∨
      (worlds m tasks timeout events k).manager.pendingOrders.items=[] := by
    intro k hk
    refine hdrains.imp id fun hnil => ?_
    have hsub := run_sublist h hk
    rw [hnil] at hsub
    exact List.sublist_nil.mp hsub
  have hend : ∃ n,start≤n ∧ rank (worlds m tasks timeout events n)=0 :=
    eventually_of_rank hfair (fun _ => True) (fun w => rank w=0) rank trivial
      (fun k hk _ => ⟨trivial,(rank_step (h k) (hlimit k hk) (events k)).1⟩)
      (fun k hk _ hready => (rank_step (h k) (hlimit k hk) (events k)).2 hready)
  obtain ⟨n,_,hn⟩ := hend
  exact ⟨n,(h n).returned hn⟩

/-- The phase of a run never becomes `RUNNING` again. -/
theorem run_phase (hm : m.phase=.running) (n : ℕ) :
    (worlds m tasks timeout events n).manager.phase≠.running :=
  states_invariant (P := fun w : World T C => w.manager.phase≠.running)
    (shutdown_underway hm tasks).phase (fun _ e hw => step_phase hw e) n

/-- A call that has returned or raised stays so. -/
theorem run_stays (hm : m.phase=.running) {n k : ℕ} {point : Point T C}
    (hpoint : (worlds m tasks timeout events n).point=point)
    (hover : point=.returned ∨ point=.raised) (hnk : n≤k) :
    (worlds m tasks timeout events k).point=point := by
  refine invariant_from (P := fun k => (worlds m tasks timeout events k).point=point) hpoint
    (fun k _ hk => ?_) hnk
  refine (step_point (run_phase hm k) (fun ending => ?_) (events k)).trans hk
  unfold resume
  rcases hover with rfl | rfl <;> rw [hk] <;> exact hk

/-- Where the loop comes back to a call that aborts, the call raises. -/
theorem step_aborts {w : World T C} {e : Event T} (h : Aborts w e) : (step w e).point=.raised := by
  obtain ⟨task,rest,cancelled,ending,hpoint,rfl,htask⟩ := h
  unfold step resume
  dsimp only
  rw [hpoint]
  dsimp only
  rw [htask]

/-- A call that completes was not aborted. -/
theorem not_aborts_of_completes (hm : m.phase=.running)
    (h : Completes m (worlds m tasks timeout events)) (n : ℕ) :
    ¬Aborts (worlds m tasks timeout events n) (events n) := by
  intro haborts
  obtain ⟨k,hk⟩ := h.completed
  have hraised : (worlds m tasks timeout events (n+1)).point=.raised := step_aborts haborts
  have hlater := run_stays hm hraised (.inr rfl) (le_max_left (n+1) k)
  have hreturned := (hk (max (n+1) k) (le_max_right (n+1) k)).returned
  exact nomatch hlater.symm.trans hreturned

/-- The call is in the loop of the drain, and an order is pending. -/
structure Waits (timeout : Value ℚ) (orderId : String) (w : World T C) : Prop where
  /-- The phase is not `RUNNING`. -/
  phase : w.manager.phase≠.running
  /-- Orders are refused. -/
  accepting : w.manager.acceptingOrders=false
  /-- The order is pending. -/
  pending : orderId∈w.manager.pendingOrders.keys
  /-- The call sleeps between two polls. -/
  point : ∃ initialCount elapsed,elapsed≤2^53 ∧ w.point=.draining timeout initialCount elapsed

/-- With a timeout that is not reached, only the completion of the order ends the wait. -/
theorem step_waits {w : World T C} (h : ¬Expires timeout) {orderId : String}
    (hw : Waits timeout orderId w) {e : Event T} (he : e≠.completePendingOrder orderId) :
    Waits timeout orderId (step w e) := by
  cases e with
  | completePendingOrder other =>
    refine ⟨hw.phase,hw.accepting,?_,hw.point⟩
    obtain ⟨item,hitem,hsame⟩ := List.mem_map.mp hw.pending
    have hother : item.1≠other := by
      rintro rfl
      exact he (congrArg Event.completePendingOrder hsame)
    exact List.mem_map.mpr ⟨item,List.mem_filter.mpr ⟨hitem,decide_eq_true hother⟩,hsame⟩
  | registerPendingOrder other ticker task =>
    unfold step
    dsimp only
    rw [registerPendingOrder_refused hw.accepting]
    exact hw
  | shutdown timeout' =>
    unfold step
    dsimp only
    rw [shutdown_duplicate hw.phase]
    exact hw
  | taskEnds task ending =>
    unfold step
    dsimp only
    split
    · exact ⟨hw.phase,hw.accepting,hw.pending,hw.point⟩
    · exact hw
  | resume ending =>
    obtain ⟨initialCount,elapsed,helapsed,hpoint⟩ := hw.point
    have hle := addPollInterval_le helapsed
    unfold step resume
    dsimp only
    rw [hpoint]
    dsimp only
    rw [drainLoop_waits h hle hw.pending]
    exact ⟨hw.phase,hw.accepting,hw.pending,initialCount,_,hle,rfl⟩

/-- An order that never completes keeps a call whose timeout is not reached in the drain. -/
theorem run_waits (hm : m.phase=.running) (tasks : T→Option Ending) (h : ¬Expires timeout)
    {orderId : String} (hkey : orderId∈m.pendingOrders.keys)
    (hnever : ∀ n,events n≠.completePendingOrder orderId) (n : ℕ) :
    Waits timeout orderId (worlds m tasks timeout events n) := by
  induction n with
  | zero =>
    have hsome : ¬m.pendingOrders.items.isEmpty=true := by
      obtain ⟨item,hitem,_⟩ := List.mem_map.mp hkey
      rw [Bool.not_eq_true]
      exact List.isEmpty_eq_false_iff_exists_mem.mpr ⟨item,hitem⟩
    have hcall : worlds m tasks timeout events 0=drainLoop
        { World.start m tasks with
          manager := { m with phase := .draining, acceptingOrders := false } } timeout
        (pendingCount m) 0 := (if_neg (not_not.mpr hm)).trans (if_neg hsome)
    rw [hcall,drainLoop_waits h (Nat.zero_le _) hkey]
    exact ⟨nofun,rfl,hkey,_,_,Nat.zero_le _,rfl⟩
  | succ n ih => exact step_waits h ih (hnever n)

/-- The call of `shutdown` completes, in every run whose events come in any order, exactly
if no step brings it back from the wait for a task that has ended with another exception
than `CancelledError` and `TimeoutError`, and its timeout is reached or all orders
complete. -/
theorem shutdown_completes (hm : m.phase=.running) (tasks : T→Option Ending)
    (timeout : Value ℚ) (hfair : Recurs IsResume events)
    (hkept : ∀ n,events n≠.resume .cancelled) :
    Completes m (worlds m tasks timeout events) ↔
      (∀ n,¬Aborts (worlds m tasks timeout events n) (events n)) ∧
        (Expires timeout ∨
          ∀ orderId∈m.pendingOrders.keys,∃ n,events n=.completePendingOrder orderId) := by
  constructor
  · intro h
    refine ⟨not_aborts_of_completes hm h,?_⟩
    by_contra hwaits
    obtain ⟨hexpires,horders⟩ := not_or.mp hwaits
    push Not at horders
    obtain ⟨orderId,hkey,hnever⟩ := horders
    obtain ⟨n,hn⟩ := h.completed
    obtain ⟨initialCount,elapsed,_,hpoint⟩ := (run_waits hm tasks hexpires hkey hnever n).point
    exact nomatch hpoint.symm.trans (hn n le_rfl).returned
  · rintro ⟨hgoes,hdrains⟩
    have hunder := run_underway hm hkept hgoes
    have hstart : ∃ start,Expires timeout ∨
        (worlds m tasks timeout events start).manager.pendingOrders.items=[] := by
      rcases hdrains with hexpires | hall
      · exact ⟨0,.inl hexpires⟩
      · obtain ⟨time,htime⟩ := run_drained hm hunder hall
        exact ⟨time,.inr htime⟩
    obtain ⟨start,hstart⟩ := hstart
    obtain ⟨n,hn⟩ := run_returns hunder hfair hstart
    exact
      { completed := ⟨n,fun k hk => (hunder k).completed (run_stays hm hn (.inl rfl) hk)⟩
        refuses := fun k => registerPendingOrder_refused (hunder k).accepting
        shrinks := fun k => step_sublist (hunder k).phase (hunder k).accepting (events k) }

end Runs

section Examples

/-- A manager with a service, a cleanup callback, and an order with a task. -/
def oneOrder : GracefulShutdownManager ℕ String :=
  (((GracefulShutdownManager.init.registerService "scheduler" "stop").registerCleanup
    "disconnect").registerPendingOrder "ORD_001" "005930" (some 0)).2

/-- The loop always comes back to the call at once. -/
def onlyResumes : ℕ→Event ℕ := fun _ => .resume .returned

/-- The task of the order ends with an exception once it is cancelled. -/
def failingTask : ℕ→Event ℕ
  | 0 => .taskEnds 0 .failed
  | _ => .resume .returned

/-- The order is cancelled at once, and its task ignores that. -/
theorem shutdown_completes_oneOrder :
    Completes oneOrder (worlds oneOrder (fun _ => none) (.number 0) onlyResumes) ↔
      (∀ n,¬Aborts (worlds oneOrder (fun _ => none) (.number 0) onlyResumes n) (onlyResumes n)) ∧
        (Expires (.number 0) ∨
          ∀ orderId∈oneOrder.pendingOrders.keys,
            ∃ n,onlyResumes n=.completePendingOrder orderId) :=
  shutdown_completes rfl (fun _ => none) (.number 0) (fun n => ⟨n,le_rfl,.returned,rfl⟩)
    (fun _ => nofun)

/-- A cancelled task that ends with another exception aborts the call. -/
theorem failing_task_aborts :
    ¬∀ (m : GracefulShutdownManager ℕ String) (tasks : ℕ→Option Ending) (timeout : Value ℚ)
      (events : ℕ→Event ℕ),m.phase=.running→Recurs IsResume events→
        (∀ n,events n≠.resume .cancelled)→ Completes m (worlds m tasks timeout events) := by
  intro h
  have hfair : Recurs IsResume failingTask := fun n => ⟨n+1,Nat.le_succ n,.returned,rfl⟩
  have hkept : ∀ n,failingTask n≠.resume .cancelled := by
    intro n
    cases n <;> nofun
  have hcompletes := h oneOrder (fun _ => none) (.number 0) failingTask rfl hfair hkept
  -- at the second event the call waits for the task, which has failed
  have haborts : Aborts (worlds oneOrder (fun _ => none) (.number 0) failingTask 1)
      (failingTask 1) := ⟨0,[],0,.returned,by rfl,rfl,by rfl⟩
  exact not_aborts_of_completes rfl hcompletes 1 haborts

end Examples

end Aqts.ShutdownRuns
