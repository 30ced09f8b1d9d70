import Mathlib.Algebra.Order.Floor.Semiring
import Mathlib.Data.Rat.Floor
import Aqts.GracefulShutdown

/-!
# Steps of a graceful shutdown

What a call of `shutdown` has done at each of the points where it gives the loop back, as
an invariant of all events, and a rank that falls whenever the loop comes back to the
call. A cancelled task that ends with another exception than the two that are caught
aborts it; and with a timeout that the elapsed time never reaches, the rank falls only
once no order is pending.
-/

namespace Aqts.ShutdownSteps

open Dictionary PandasSeries GracefulShutdown

variable {T C : Type*}

/-- The stops of services. -/
def stops (services : List (String×C)) : List (Call C) := services.map fun s => .stop s.1 s.2

/-- The calls of cleanup callbacks. -/
def cleanups (callbacks : List C) : List (Call C) := callbacks.map .cleanup

/-- What `shutdown` is to call: each stop in the reverse order of the registrations, and
each cleanup callback after them. -/
def planned (m : GracefulShutdownManager T C) : List (Call C) :=
  stops m.services.reverse++cleanups m.cleanupCallbacks

/-- The orders that are pending at the start. -/
def pendingCount (m : GracefulShutdownManager T C) : ℕ := m.pendingOrders.items.length

/-- No order is pending any more, and each was drained or cancelled. -/
structure Settled (m : GracefulShutdownManager T C) (w : World T C) : Prop where
  /-- Nothing is pending. -/
  pending : w.manager.pendingOrders=.empty
  /-- Each order was counted once. -/
  counted : w.results.ordersDrained+w.results.ordersCancelled=pendingCount m

/-- The call has returned with its work done. -/
structure Completed (m : GracefulShutdownManager T C) (w : World T C) : Prop where
  /-- It has returned. -/
  returned : w.point=.returned
  /-- The phase is `COMPLETED`. -/
  phase : w.manager.phase=.completed
  /-- The calls were those that it is to make. -/
  calls : w.calls=planned m
  /-- Every order is accounted for. -/
  settled : Settled m w

/-- The elapsed time reaches the timeout: it is no number, or at most `2^53` seconds. -/
def Expires (timeout : Value ℚ) : Prop := isBefore (2^53) timeout=false

/-- The loop comes back to the call where it waits for a task that has ended with another
exception than the two that are caught. -/
def Aborts (w : World T C) (e : Event T) : Prop :=
  ∃ task rest cancelled ending,w.point=.cancelling task rest cancelled ∧ e=.resume ending ∧
    w.tasks task=some .failed

/-- The loop comes back to the call. -/
def IsResume (e : Event T) : Prop := ∃ ending,e=.resume ending

section Frame

/-- What the call leaves alone between two of its points. -/
structure Frame (w w' : World T C) : Prop where
  /-- The services. -/
  services : w'.manager.services=w.manager.services
  /-- The callbacks. -/
  callbacks : w'.manager.cleanupCallbacks=w.manager.cleanupCallbacks
  /-- Whether orders are accepted. -/
  accepting : w'.manager.acceptingOrders=w.manager.acceptingOrders
  /-- It does not run normally again. -/
  phase : w.manager.phase≠.running→w'.manager.phase≠.running
  /-- No order becomes pending. -/
  pending : w'.manager.pendingOrders.items.Sublist w.manager.pendingOrders.items

/-- Two parts one after the other. -/
theorem Frame.trans {w w' w'' : World T C} (h : Frame w w') (h' : Frame w' w'') : Frame w w'' where
  services := h'.services.trans h.services
  callbacks := h'.callbacks.trans h.callbacks
  accepting := h'.accepting.trans h.accepting
  phase := fun hphase => h'.phase (h.phase hphase)
  pending := h'.pending.trans h.pending

/-- Another phase than `RUNNING`. -/
theorem frame_phase (w : World T C) (phase : ShutdownPhase) (h : phase≠.running) :
    Frame w { w with manager := { w.manager with phase := phase } } :=
  ⟨rfl,rfl,rfl,fun _ => h,List.Sublist.refl _⟩

/-- The cleanup callbacks. -/
theorem runCleanup_frame (w : World T C) (rest : List C) : Frame w (runCleanup w rest) := by
  cases rest with
  | nil => exact ⟨rfl,rfl,rfl,fun _ => nofun,List.Sublist.refl _⟩
  | cons cb rest => exact ⟨rfl,rfl,rfl,id,List.Sublist.refl _⟩

/-- The services. -/
theorem stopServices_frame (w : World T C) (rest : List (String×C)) :
    Frame w (stopServices w rest) := by
  cases rest with
  | nil => exact (frame_phase w .cleanup nofun).trans (runCleanup_frame _ _)
  | cons service rest => exact ⟨rfl,rfl,rfl,id,List.Sublist.refl _⟩

/-- The second phase. -/
theorem enterStopping_frame (w : World T C) : Frame w (enterStopping w) :=
  (frame_phase w .stoppingServices nofun).trans (stopServices_frame _ _)

/-- The orders that are cancelled. -/
theorem cancelRemainingOrders_frame (w : World T C) (cancelled : ℕ)
    (rest : List (PendingOrder T)) : Frame w (cancelRemainingOrders w cancelled rest) := by
  induction rest generalizing cancelled with
  | nil =>
    have hclear : Frame w { w with
        manager := { w.manager with pendingOrders := .empty }
        results := { w.results with ordersCancelled := cancelled } } :=
      ⟨rfl,rfl,rfl,id,List.nil_sublist _⟩
    exact hclear.trans (enterStopping_frame _)
  | cons pending rest ih =>
    unfold cancelRemainingOrders
    cases pending.task with
    | none => exact ih _
    | some task =>
      dsimp only
      cases w.tasks task with
      | some ending => exact ih _
      | none => exact ⟨rfl,rfl,rfl,id,List.Sublist.refl _⟩

/-- What follows the drain. -/
theorem afterDrain_frame (w : World T C) (drained : ℤ) : Frame w (afterDrain w drained) := by
  have hresults : Frame w (w.withDrained drained) := ⟨rfl,rfl,rfl,id,List.Sublist.refl _⟩
  unfold afterDrain
  split
  · exact hresults.trans (enterStopping_frame _)
  · exact hresults.trans (cancelRemainingOrders_frame _ _ _)

/-- The loop of the drain. -/
theorem drainLoop_frame (w : World T C) (timeout : Value ℚ) (initialCount elapsed : ℕ) :
    Frame w (drainLoop w timeout initialCount elapsed) := by
  unfold drainLoop
  split
  · exact ⟨rfl,rfl,rfl,id,List.Sublist.refl _⟩
  · exact afterDrain_frame w _

/-- The drain. -/
theorem drainPendingOrders_frame (w : World T C) (timeout : Value ℚ) :
    Frame w (drainPendingOrders w timeout) := by
  unfold drainPendingOrders
  split
  · exact afterDrain_frame w _
  · exact drainLoop_frame w timeout _ _

/-- The part of the call from one point to the next. -/
theorem resume_frame (w : World T C) (ending : Ending) : Frame w (resume w ending) := by
  have hraised : Frame w { w with point := .raised } := ⟨rfl,rfl,rfl,id,List.Sublist.refl _⟩
  have hsame : Frame w w := ⟨rfl,rfl,rfl,id,List.Sublist.refl _⟩
  unfold resume
  cases w.point with
  | idle => exact hsame
  | returned => exact hsame
  | raised => exact hsame
  | draining timeout initialCount elapsed => exact drainLoop_frame w _ _ _
  | cancelling task rest cancelled =>
    dsimp only
    split
    · exact hraised
    · exact cancelRemainingOrders_frame w _ _
  | stopping name rest =>
    cases ending with
    | returned =>
      have hresults : Frame w { w with results :=
          { w.results with servicesStopped := w.results.servicesStopped++[name] } } :=
        ⟨rfl,rfl,rfl,id,List.Sublist.refl _⟩
      exact hresults.trans (stopServices_frame _ _)
    | timedOut => exact stopServices_frame w _
    | failed => exact stopServices_frame w _
    | cancelled => exact hraised
  | cleaning rest =>
    cases ending with
    | cancelled => exact hraised
    | returned => exact runCleanup_frame w _
    | timedOut => exact runCleanup_frame w _
    | failed => exact runCleanup_frame w _

end Frame

section Points

variable {m : GracefulShutdownManager T C} {timeout : Value ℚ} {w : World T C}

/-- What the call has done where it stands, in a run that does not abort. -/
def AtPoint (m : GracefulShutdownManager T C) (timeout : Value ℚ) (w : World T C) : Prop :=
  match w.point with
  | .idle | .raised => False
  | .draining timeout' initialCount elapsed =>
    timeout'=timeout ∧ initialCount=pendingCount m ∧ elapsed≤2^53 ∧ w.calls=[] ∧
      w.results.ordersCancelled=0
  | .cancelling _ rest cancelled =>
    w.calls=[] ∧ w.results.ordersDrained+(cancelled+1+rest.length : ℕ)=pendingCount m
  | .stopping _ rest =>
    w.calls++(stops rest++cleanups m.cleanupCallbacks)=planned m ∧ Settled m w
  | .cleaning rest => w.calls++cleanups rest=planned m ∧ Settled m w
  | .returned => w.calls=planned m ∧ Settled m w ∧ w.manager.phase=.completed

/-- A dictionary without items is the empty one. -/
theorem eq_empty_of_items {κ α : Type*} {d : Dict κ α} (h : d.items=[]) : d=.empty := by
  cases d
  cases h
  rfl

/-- The cleanup callbacks. -/
theorem runCleanup_atPoint {rest : List C} (hcalls : w.calls++cleanups rest=planned m)
    (hs : Settled m w) : AtPoint m timeout (runCleanup w rest) := by
  cases rest with
  | nil =>
    refine ⟨?_,⟨hs.pending,hs.counted⟩,rfl⟩
    rw [← hcalls]
    exact (List.append_nil _).symm
  | cons cb rest =>
    refine ⟨?_,⟨hs.pending,hs.counted⟩⟩
    rw [← hcalls]
    exact List.append_assoc _ _ _

/-- The services. -/
theorem stopServices_atPoint {rest : List (String×C)}
    (hcallbacks : w.manager.cleanupCallbacks=m.cleanupCallbacks)
    (hcalls : w.calls++(stops rest++cleanups m.cleanupCallbacks)=planned m)
    (hs : Settled m w) : AtPoint m timeout (stopServices w rest) := by
  cases rest with
  | nil =>
    refine runCleanup_atPoint ?_ ⟨hs.pending,hs.counted⟩
    dsimp only
    rw [hcallbacks]
    exact hcalls
  | cons service rest =>
    refine ⟨?_,⟨hs.pending,hs.counted⟩⟩
    rw [← hcalls]
    exact List.append_assoc _ _ _

/-- The second phase. -/
theorem enterStopping_atPoint (hservices : w.manager.services=m.services)
    (hcallbacks : w.manager.cleanupCallbacks=m.cleanupCallbacks) (hcalls : w.calls=[])
    (hs : Settled m w) : AtPoint m timeout (enterStopping w) := by
  refine stopServices_atPoint hcallbacks ?_ ⟨hs.pending,hs.counted⟩
  dsimp only
  rw [hcalls,hservices]
  rfl

/-- The orders that are cancelled. The induction carries the count. -/
theorem cancelRemainingOrders_atPoint (hservices : w.manager.services=m.services)
    (hcallbacks : w.manager.cleanupCallbacks=m.cleanupCallbacks) (hcalls : w.calls=[])
    {cancelled : ℕ} {rest : List (PendingOrder T)}
    (hcount : w.results.ordersDrained+(cancelled+rest.length : ℕ)=pendingCount m) :
    AtPoint m timeout (cancelRemainingOrders w cancelled rest) := by
  induction rest generalizing cancelled with
  | nil => exact enterStopping_atPoint hservices hcallbacks hcalls ⟨rfl,hcount⟩
  | cons pending rest ih =>
    have hnext : w.results.ordersDrained+(cancelled+1+rest.length : ℕ)=pendingCount m := by
      rw [← hcount,List.length_cons]
      push_cast
      ring
    unfold cancelRemainingOrders
    cases pending.task with
    | none => exact ih hnext
    | some task =>
      dsimp only
      cases w.tasks task with
      | some ending => exact ih hnext
      | none => exact ⟨hcalls,hnext⟩

/-- What follows the drain. -/
theorem afterDrain_atPoint (hservices : w.manager.services=m.services)
    (hcallbacks : w.manager.cleanupCallbacks=m.cleanupCallbacks) (hcalls : w.calls=[])
    (hcancelled : w.results.ordersCancelled=0) {drained : ℤ}
    (hcount : drained+w.manager.pendingOrders.items.length=pendingCount m) :
    AtPoint m timeout (afterDrain w drained) := by
  unfold afterDrain
  by_cases hempty : w.manager.pendingOrders.items.isEmpty=true
  · rw [if_pos hempty]
    have hnil := List.isEmpty_iff.mp hempty
    refine enterStopping_atPoint hservices hcallbacks hcalls ⟨eq_empty_of_items hnil,?_⟩
    rw [← hcount,hnil]
    exact congrArg (drained+·) hcancelled
  · rw [if_neg hempty]
    refine cancelRemainingOrders_atPoint (w := w.withDrained drained) hservices hcallbacks hcalls ?_
    rw [← hcount,Nat.zero_add]
    unfold Dict.values
    rw [List.length_map]
    rfl

/-- The loop of the drain. -/
theorem drainLoop_atPoint (hservices : w.manager.services=m.services)
    (hcallbacks : w.manager.cleanupCallbacks=m.cleanupCallbacks) (hcalls : w.calls=[])
    (hcancelled : w.results.ordersCancelled=0) {elapsed : ℕ} (helapsed : elapsed≤2^53) :
    AtPoint m timeout (drainLoop w timeout (pendingCount m) elapsed) := by
  unfold drainLoop
  split
  · exact ⟨rfl,rfl,helapsed,hcalls,hcancelled⟩
  · exact afterDrain_atPoint hservices hcallbacks hcalls hcancelled (sub_add_cancel _ _)

/-- The drain. -/
theorem drainPendingOrders_atPoint (hservices : w.manager.services=m.services)
    (hcallbacks : w.manager.cleanupCallbacks=m.cleanupCallbacks)
    (hpending : w.manager.pendingOrders=m.pendingOrders) (hcalls : w.calls=[])
    (hcancelled : w.results.ordersCancelled=0) :
    AtPoint m timeout (drainPendingOrders w timeout) := by
  have hcount : w.manager.pendingOrders.items.length=pendingCount m := by
    rw [hpending]
    rfl
  unfold drainPendingOrders
  by_cases hempty : w.manager.pendingOrders.items.isEmpty=true
  · rw [if_pos hempty]
    refine afterDrain_atPoint hservices hcallbacks hcalls hcancelled ?_
    rw [hcount,zero_add]
  · rw [if_neg hempty,hcount]
    exact drainLoop_atPoint hservices hcallbacks hcalls hcancelled (Nat.zero_le _)

/-- One more poll stays below the largest elapsed time. -/
theorem addPollInterval_le {elapsed : ℕ} (h : elapsed≤2^53) : addPollInterval elapsed≤2^53 := by
  unfold addPollInterval
  split <;> omega

/-- The part of the call from one point to the next. -/
theorem resume_atPoint (hservices : w.manager.services=m.services)
    (hcallbacks : w.manager.cleanupCallbacks=m.cleanupCallbacks) (h : AtPoint m timeout w)
    {ending : Ending} (hkept : ending≠.cancelled)
    (hgoes : ¬Aborts w (Event.resume ending)) : AtPoint m timeout (resume w ending) := by
  unfold resume
  cases hpoint : w.point with
  | idle =>
    unfold AtPoint at h
    rw [hpoint] at h
    exact h.elim
  | raised =>
    unfold AtPoint at h
    rw [hpoint] at h
    exact h.elim
  | returned => exact h
  | draining timeout' initialCount elapsed =>
    unfold AtPoint at h
    rw [hpoint] at h
    obtain ⟨rfl,rfl,helapsed,hcalls,hcancelled⟩ := h
    exact drainLoop_atPoint hservices hcallbacks hcalls hcancelled (addPollInterval_le helapsed)
  | cancelling task rest cancelled =>
    unfold AtPoint at h
    rw [hpoint] at h
    dsimp only
    split
    · rename_i hfailed
      exact absurd ⟨task,rest,cancelled,ending,hpoint,rfl,hfailed⟩ hgoes
    · exact cancelRemainingOrders_atPoint hservices hcallbacks h.1 h.2
  | stopping name rest =>
    unfold AtPoint at h
    rw [hpoint] at h
    cases ending with
    | returned => exact stopServices_atPoint hcallbacks h.1 ⟨h.2.pending,h.2.counted⟩
    | timedOut => exact stopServices_atPoint hcallbacks h.1 h.2
    | failed => exact stopServices_atPoint hcallbacks h.1 h.2
    | cancelled => exact absurd rfl hkept
  | cleaning rest =>
    unfold AtPoint at h
    rw [hpoint] at h
    cases ending with
    | cancelled => exact absurd rfl hkept
    | returned => exact runCleanup_atPoint h.1 h.2
    | timedOut => exact runCleanup_atPoint h.1 h.2
    | failed => exact runCleanup_atPoint h.1 h.2

end Points

section Progress

/-- Polls that are left before the timeout. -/
def pollsLeft (timeout : Value ℚ) (elapsed : ℕ) : ℕ :=
  match timeout with
  | .number x => ⌈x⌉₊-elapsed
  | _ => 0

/-- Points that the call can still come to. -/
def rank (w : World T C) : ℕ :=
  match w.point with
  | .idle | .returned | .raised => 0
  | .cleaning rest => rest.length+1
  | .stopping _ rest => rest.length+1+w.manager.cleanupCallbacks.length
  | .cancelling _ rest _ =>
    rest.length+1+w.manager.services.length+w.manager.cleanupCallbacks.length
  | .draining timeout _ elapsed =>
    pollsLeft timeout elapsed+1+w.manager.pendingOrders.items.length+w.manager.services.length+
      w.manager.cleanupCallbacks.length

/-- The cleanup callbacks. -/
theorem rank_runCleanup (w : World T C) (rest : List C) : rank (runCleanup w rest)=rest.length := by
  cases rest <;> rfl

/-- The services. -/
theorem rank_stopServices (w : World T C) (rest : List (String×C)) :
    rank (stopServices w rest)=rest.length+w.manager.cleanupCallbacks.length := by
  cases rest with
  | nil =>
    unfold stopServices
    rw [rank_runCleanup,List.length_nil,Nat.zero_add]
  | cons service rest => rfl

/-- The second phase. -/
theorem rank_enterStopping (w : World T C) :
    rank (enterStopping w)=w.manager.services.length+w.manager.cleanupCallbacks.length := by
  unfold enterStopping
  rw [rank_stopServices,List.length_reverse]

/-- The orders that are cancelled. -/
theorem rank_cancelRemainingOrders (w : World T C) (cancelled : ℕ)
    (rest : List (PendingOrder T)) :
    rank (cancelRemainingOrders w cancelled rest)≤
      rest.length+w.manager.services.length+w.manager.cleanupCallbacks.length := by
  induction rest generalizing cancelled with
  | nil =>
    unfold cancelRemainingOrders
    rw [rank_enterStopping]
    exact Nat.add_le_add_right (Nat.le_add_left _ _) _
  | cons pending rest ih =>
    rw [List.length_cons]
    unfold cancelRemainingOrders
    cases pending.task with
    | none =>
      have hrest := ih (cancelled+1)
      dsimp only
      omega
    | some task =>
      dsimp only
      cases w.tasks task with
      | some ending =>
        have hrest := ih (cancelled+1)
        dsimp only
        omega
      | none => exact le_rfl

/-- What follows the drain. -/
theorem rank_afterDrain (w : World T C) (drained : ℤ) :
    rank (afterDrain w drained)≤w.manager.pendingOrders.items.length+w.manager.services.length+
      w.manager.cleanupCallbacks.length := by
  unfold afterDrain
  split
  · rw [rank_enterStopping,World.withDrained_manager]
    omega
  · refine (rank_cancelRemainingOrders _ _ _).trans ?_
    unfold Dict.values
    rw [List.length_map,World.withDrained_manager]

/-- A poll after which the timeout has not passed leaves fewer polls. -/
theorem pollsLeft_addPollInterval {timeout : Value ℚ} {elapsed : ℕ} (h : Expires timeout)
    (hbefore : isBefore (addPollInterval elapsed) timeout=true) :
    pollsLeft timeout (addPollInterval elapsed) < pollsLeft timeout elapsed := by
  cases timeout with
  | missing => cases hbefore
  | infinite negative => exact absurd (hbefore.symm.trans h) nofun
  | number x =>
    have hless : ((addPollInterval elapsed : ℕ) : ℚ) < x := of_decide_eq_true hbefore
    have hmost : ¬((2^53 : ℕ) : ℚ) < x := of_decide_eq_false h
    have hceil : addPollInterval elapsed < ⌈x⌉₊ := Nat.lt_ceil.mpr hless
    have hsmall : addPollInterval elapsed < 2^53 := by
      by_contra hlarge
      exact hmost (lt_of_le_of_lt (by exact_mod_cast Nat.le_of_not_lt hlarge) hless)
    have hnext : addPollInterval elapsed=elapsed+1 := by
      unfold addPollInterval at hsmall ⊢
      split at hsmall
      · rw [if_pos ‹_›]
      · exact absurd hsmall ‹_›
    unfold pollsLeft
    dsimp only
    omega

/-- A poll comes closer to the end, if the drain does not wait for orders without a limit. -/
theorem rank_poll {w : World T C} {timeout : Value ℚ} {initialCount elapsed : ℕ}
    (hpoint : w.point=.draining timeout initialCount elapsed) (ending : Ending)
    (hdrains : Expires timeout ∨ w.manager.pendingOrders.items=[]) :
    rank (resume w ending) < rank w := by
  have hrank : rank w=pollsLeft timeout elapsed+1+w.manager.pendingOrders.items.length+
      w.manager.services.length+w.manager.cleanupCallbacks.length := by
    unfold rank
    rw [hpoint]
  unfold resume
  rw [hpoint]
  dsimp only
  unfold drainLoop
  split
  · rename_i hgoes
    have hexpires : Expires timeout := by
      rcases hdrains with hexpires | hnil
      · exact hexpires
      · rw [hnil] at hgoes
        exact nomatch hgoes.1
    have hpolls := pollsLeft_addPollInterval hexpires hgoes.2
    rw [hrank]
    unfold rank
    dsimp only
    omega
  · have hafter := rank_afterDrain w ((initialCount : ℤ)-w.manager.pendingOrders.items.length)
    omega

/-- The end of the wait for a task comes closer to the end. -/
theorem rank_cancelled {w : World T C} {task : T} {rest : List (PendingOrder T)} {cancelled : ℕ}
    (hpoint : w.point=.cancelling task rest cancelled) (ending : Ending) :
    rank (resume w ending) < rank w := by
  have hraised : rank { w with point := .raised }=0 := rfl
  have hrank : rank w=rest.length+1+w.manager.services.length+
      w.manager.cleanupCallbacks.length := by
    unfold rank
    rw [hpoint]
  have hrest := rank_cancelRemainingOrders w (cancelled+1) rest
  unfold resume
  rw [hpoint]
  dsimp only
  split <;> omega

/-- The end of a stop comes closer to the end. -/
theorem rank_stopped {w : World T C} {name : String} {rest : List (String×C)}
    (hpoint : w.point=.stopping name rest) (ending : Ending) :
    rank (resume w ending) < rank w := by
  have hraised : rank { w with point := .raised }=0 := rfl
  have hrank : rank w=rest.length+1+w.manager.cleanupCallbacks.length := by
    unfold rank
    rw [hpoint]
  have hrest : ∀ results,rank (stopServices { w with results := results } rest) < rank w := by
    intro results
    rw [rank_stopServices,hrank]
    dsimp only
    omega
  unfold resume
  rw [hpoint]
  cases ending with
  | cancelled =>
    dsimp only
    omega
  | returned => exact hrest _
  | timedOut => exact hrest w.results
  | failed => exact hrest w.results

/-- The end of a cleanup callback comes closer to the end. -/
theorem rank_cleaned {w : World T C} {rest : List C} (hpoint : w.point=.cleaning rest)
    (ending : Ending) : rank (resume w ending) < rank w := by
  have hraised : rank { w with point := .raised }=0 := rfl
  have hrank : rank w=rest.length+1 := by
    unfold rank
    rw [hpoint]
  have hrest := rank_runCleanup w rest
  unfold resume
  rw [hpoint]
  cases ending <;> dsimp only <;> omega

/-- Each part of the call comes closer to the end, if the drain does not wait for orders
without a limit. -/
theorem rank_resume {w : World T C} (ending : Ending)
    (hdrains : ∀ timeout initialCount elapsed,w.point=.draining timeout initialCount elapsed→
      Expires timeout ∨ w.manager.pendingOrders.items=[]) :
    (rank w=0 ∧ resume w ending=w) ∨ rank (resume w ending) < rank w := by
  cases hpoint : w.point with
  | draining timeout initialCount elapsed =>
    exact .inr (rank_poll hpoint ending (hdrains timeout initialCount elapsed hpoint))
  | cancelling task rest cancelled => exact .inr (rank_cancelled hpoint ending)
  | stopping name rest => exact .inr (rank_stopped hpoint ending)
  | cleaning rest => exact .inr (rank_cleaned hpoint ending)
  | _ =>
    left
    unfold rank resume
    rw [hpoint]
    exact ⟨rfl,rfl⟩

/-- A timeout that is not reached is later than every elapsed time. -/
theorem isBefore_of_not_expires {timeout : Value ℚ} (h : ¬Expires timeout) {elapsed : ℕ}
    (he : elapsed≤2^53) : isBefore elapsed timeout=true := by
  have hlimit : isBefore (2^53) timeout=true := by
    unfold Expires at h
    simpa using h
  cases timeout with
  | missing => cases hlimit
  | infinite negative => exact hlimit
  | number x =>
    have hless : ((2^53 : ℕ) : ℚ) < x := of_decide_eq_true hlimit
    exact decide_eq_true (lt_of_le_of_lt (by exact_mod_cast he) hless)

/-- While an order is pending and the timeout is not reached, the call stays in the loop
of the drain. -/
theorem drainLoop_waits {w : World T C} {timeout : Value ℚ} (h : ¬Expires timeout) {elapsed : ℕ}
    (he : elapsed≤2^53) {orderId : String} (hkey : orderId∈w.manager.pendingOrders.keys)
    (initialCount : ℕ) :
    drainLoop w timeout initialCount elapsed=
      { w with point := .draining timeout initialCount elapsed } := by
  obtain ⟨item,hitem,_⟩ := List.mem_map.mp hkey
  have hsome := List.isEmpty_eq_false_iff_exists_mem.mpr ⟨item,hitem⟩
  exact if_pos ⟨hsome,isBefore_of_not_expires h he⟩

end Progress

section Steps

variable {m : GracefulShutdownManager T C} {timeout : Value ℚ} {w : World T C}

/-- The call goes on or has returned, and nothing is registered. -/
structure Underway (m : GracefulShutdownManager T C) (timeout : Value ℚ) (w : World T C) : Prop
    where
  /-- The phase is not `RUNNING`. -/
  phase : w.manager.phase≠.running
  /-- Orders are refused. -/
  accepting : w.manager.acceptingOrders=false
  /-- The services of the start. -/
  services : w.manager.services=m.services
  /-- The callbacks of the start. -/
  callbacks : w.manager.cleanupCallbacks=m.cleanupCallbacks
  /-- What was done so far. -/
  atPoint : AtPoint m timeout w

/-- An order that is not accepted changes nothing. -/
theorem registerPendingOrder_refused {m' : GracefulShutdownManager T C}
    (h : m'.acceptingOrders=false) (orderId ticker : String) (task : Option T) :
    m'.registerPendingOrder orderId ticker task=(false,m') := if_pos h

/-- A call beside the first one changes nothing. -/
theorem shutdown_duplicate (h : w.manager.phase≠.running) (timeout' : Value ℚ) :
    shutdown w timeout'=w := if_pos h

/-- The orders that are left after a completion are among those before. -/
theorem completePendingOrder_sublist (m' : GracefulShutdownManager T C) (orderId : String) :
    (m'.completePendingOrder orderId).pendingOrders.items.Sublist m'.pendingOrders.items :=
  List.filter_sublist

/-- The first part of the call. -/
theorem shutdown_underway (hm : m.phase=.running) (tasks : T→Option Ending) :
    Underway m timeout (shutdown (World.start m tasks) timeout) := by
  have hcall : shutdown (World.start m tasks) timeout=drainPendingOrders
      { World.start m tasks with
        manager := { m with phase := .draining, acceptingOrders := false } } timeout :=
    if_neg (not_not.mpr hm)
  rw [hcall]
  have hframe := drainPendingOrders_frame
    { World.start m tasks with
      manager := { m with phase := .draining, acceptingOrders := false } } timeout
  exact ⟨hframe.phase nofun,hframe.accepting,hframe.services,hframe.callbacks,
    drainPendingOrders_atPoint rfl rfl rfl rfl rfl⟩

/-- What was done so far does not depend on the orders, once they are settled, nor on the
tasks. -/
theorem AtPoint.of_events (h : AtPoint m timeout w) {w' : World T C} (hpoint : w'.point=w.point)
    (hcalls : w'.calls=w.calls) (hresults : w'.results=w.results)
    (hphase : w'.manager.phase=w.manager.phase)
    (hpending : w'.manager.pendingOrders.items.Sublist w.manager.pendingOrders.items) :
    AtPoint m timeout w' := by
  have hsettled : Settled m w→Settled m w' := by
    intro hs
    refine ⟨?_,hresults▸hs.counted⟩
    rw [hs.pending] at hpending
    exact eq_empty_of_items (List.sublist_nil.mp hpending)
  unfold AtPoint at h ⊢
  rw [hpoint,hcalls,hresults,hphase]
  cases hat : w.point with
  | idle => rw [hat] at h; exact h
  | raised => rw [hat] at h; exact h
  | draining timeout' initialCount elapsed => rw [hat] at h; exact h
  | cancelling task rest cancelled => rw [hat] at h; exact h
  | stopping name rest => rw [hat] at h; exact ⟨h.1,hsettled h.2⟩
  | cleaning rest => rw [hat] at h; exact ⟨h.1,hsettled h.2⟩
  | returned => rw [hat] at h; exact ⟨h.1,hsettled h.2.1,h.2.2⟩

/-- The call has returned exactly if it can come to no more points. -/
theorem Underway.returned (h : Underway m timeout w) (hrank : rank w=0) : w.point=.returned := by
  have hat := h.atPoint
  unfold AtPoint at hat
  unfold rank at hrank
  cases hpoint : w.point with
  | idle => rw [hpoint] at hat; exact hat.elim
  | raised => rw [hpoint] at hat; exact hat.elim
  | returned => rfl
  | draining timeout' initialCount elapsed =>
    rw [hpoint] at hrank
    dsimp only at hrank
    omega
  | cancelling task rest cancelled =>
    rw [hpoint] at hrank
    dsimp only at hrank
    omega
  | stopping name rest =>
    rw [hpoint] at hrank
    dsimp only at hrank
    omega
  | cleaning rest =>
    rw [hpoint] at hrank
    dsimp only at hrank
    omega

/-- What was done when the call has returned. -/
theorem Underway.completed (h : Underway m timeout w) (hpoint : w.point=.returned) :
    Completed m w := by
  have hat := h.atPoint
  unfold AtPoint at hat
  rw [hpoint] at hat
  exact ⟨hpoint,hat.2.2,hat.1,hat.2.1⟩

variable [DecidableEq T]

/-- No event makes an order pending. -/
theorem step_sublist (hphase : w.manager.phase≠.running)
    (haccepting : w.manager.acceptingOrders=false) (e : Event T) :
    (step w e).manager.pendingOrders.items.Sublist w.manager.pendingOrders.items := by
  cases e with
  | completePendingOrder orderId => exact completePendingOrder_sublist w.manager orderId
  | registerPendingOrder orderId ticker task =>
    unfold step
    dsimp only
    rw [registerPendingOrder_refused haccepting]
  | shutdown timeout' =>
    unfold step
    dsimp only
    rw [shutdown_duplicate hphase]
  | taskEnds task ending =>
    unfold step
    dsimp only
    split <;> exact List.Sublist.refl _
  | resume ending => exact (resume_frame w ending).pending

/-- The phase never becomes `RUNNING` again. -/
theorem step_phase (hphase : w.manager.phase≠.running) (e : Event T) :
    (step w e).manager.phase≠.running := by
  cases e with
  | completePendingOrder orderId => exact hphase
  | registerPendingOrder orderId ticker task =>
    unfold step GracefulShutdownManager.registerPendingOrder
    dsimp only
    split <;> exact hphase
  | shutdown timeout' =>
    unfold step
    dsimp only
    rw [shutdown_duplicate hphase]
    exact hphase
  | taskEnds task ending =>
    unfold step
    dsimp only
    split <;> exact hphase
  | resume ending => exact (resume_frame w ending).phase hphase

/-- Only the loop moves the call on. -/
theorem step_point (hphase : w.manager.phase≠.running)
    (hends : ∀ ending,(resume w ending).point=w.point) (e : Event T) :
    (step w e).point=w.point := by
  cases e with
  | completePendingOrder orderId => rfl
  | registerPendingOrder orderId ticker task => rfl
  | shutdown timeout' =>
    unfold step
    dsimp only
    rw [shutdown_duplicate hphase]
  | taskEnds task ending =>
    unfold step
    dsimp only
    split <;> rfl
  | resume ending => exact hends ending

/-- The call goes on with every event that does not abort it. -/
theorem step_underway (h : Underway m timeout w) {e : Event T} (hgoes : ¬Aborts w e)
    (hkept : e≠.resume .cancelled) : Underway m timeout (step w e) := by
  have hpending := step_sublist h.phase h.accepting e
  cases e with
  | completePendingOrder orderId =>
    exact ⟨h.phase,h.accepting,h.services,h.callbacks,h.atPoint.of_events rfl rfl rfl rfl hpending⟩
  | registerPendingOrder orderId ticker task =>
    have hsame : step w (.registerPendingOrder orderId ticker task)=w := by
      unfold step
      dsimp only
      rw [registerPendingOrder_refused h.accepting]
    rw [hsame]
    exact h
  | shutdown timeout' =>
    have hsame : step w (.shutdown timeout')=w := shutdown_duplicate h.phase timeout'
    rw [hsame]
    exact h
  | taskEnds task ending =>
    unfold step
    dsimp only
    split
    · exact ⟨h.phase,h.accepting,h.services,h.callbacks,
        h.atPoint.of_events rfl rfl rfl rfl (List.Sublist.refl _)⟩
    · exact h
  | resume ending =>
    have hframe := resume_frame w ending
    exact ⟨hframe.phase h.phase,hframe.accepting.trans h.accepting,hframe.services.trans h.services,
      hframe.callbacks.trans h.callbacks,
      resume_atPoint h.services h.callbacks h.atPoint (fun heq => hkept (heq▸rfl)) hgoes⟩

/-- No event takes the call further from its end, and one at which the loop comes back to
it takes it closer. -/
theorem rank_step (h : Underway m timeout w)
    (hdrains : Expires timeout ∨ w.manager.pendingOrders.items=[]) (e : Event T) :
    rank (step w e)≤ rank w ∧ (IsResume e→ rank w=0 ∨ rank (step w e) < rank w) := by
  cases e with
  | completePendingOrder orderId =>
    have hlength := (completePendingOrder_sublist w.manager orderId).length_le
    refine ⟨?_,fun ⟨_,hresume⟩ => nomatch hresume⟩
    unfold step rank
    dsimp only
    cases w.point with
    | draining timeout' initialCount elapsed =>
      exact Nat.add_le_add_right (Nat.add_le_add_right (Nat.add_le_add_left hlength _) _) _
    | _ => exact le_rfl
  | registerPendingOrder orderId ticker task =>
    refine ⟨?_,fun ⟨_,hresume⟩ => nomatch hresume⟩
    unfold step
    dsimp only
    rw [registerPendingOrder_refused h.accepting]
  | shutdown timeout' =>
    refine ⟨?_,fun ⟨_,hresume⟩ => nomatch hresume⟩
    unfold step
    dsimp only
    rw [shutdown_duplicate h.phase]
  | taskEnds task ending =>
    refine ⟨?_,fun ⟨_,hresume⟩ => nomatch hresume⟩
    unfold step
    dsimp only
    split <;> exact le_rfl
  | resume ending =>
    have hlimit : ∀ timeout' initialCount elapsed,
        w.point=.draining timeout' initialCount elapsed→
          Expires timeout' ∨ w.manager.pendingOrders.items=[] := by
      intro timeout' initialCount elapsed hpoint
      have hat := h.atPoint
      unfold AtPoint at hat
      rw [hpoint] at hat
      rw [hat.1]
      exact hdrains
    have hstep : step w (.resume ending)=resume w ending := rfl
    rw [hstep]
    rcases rank_resume ending hlimit with ⟨hzero,hsame⟩ | hless
    · exact ⟨by rw [hsame],fun _ => .inl hzero⟩
    · exact ⟨hless.le,fun _ => .inr hless⟩

end Steps

end Aqts.ShutdownSteps
