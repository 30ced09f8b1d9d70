import Aqts.GuardHistory
import Aqts.GuardedRuns
import Aqts.OrderTasks
import Mathlib.Data.Fintype.Basic

/-!
# Broker calls and the kill switch

A process with its guard and any number of order tasks, whose steps interleave
with each other and with the calls on the guard. `execute_order` asks the guard
once, before its first await, and `_handle_unfilled` does not ask it at all. The
module records the state of the kill switch at the start of every broker call
and says when no call starts while it is on.
-/

namespace Aqts.KillSwitchRuns

open GuardedRuns OrderTypes OrderExecutor TradingGuard GuardHistory OrderTasks

/-- The start of a broker call. -/
structure PlaceStart where
  /-- Quantity of the call. -/
  quantity : ℤ
  /-- The kill switch at this moment. -/
  killSwitchOn : Bool
  deriving DecidableEq

/-- A process: its guard, its tasks and the broker calls that were started. -/
structure World (T : Type) where
  /-- The guard of `get_trading_guard`. -/
  guard : TradingGuardState
  /-- The tasks. -/
  task : T→Stage
  /-- The broker calls, in order. -/
  placed : List PlaceStart

/-- A process without tasks. -/
def World.start (T : Type) (settings : Settings) : World T := ⟨initial settings,fun _ => .idle,[]⟩

/-- A task may begin. -/
def isFree : Stage→Bool
  | .idle => true
  | .finished _ _ => true
  | _ => false

/-- Steps of a process. -/
inductive Event (T : Type)
  /-- A call on the guard from elsewhere, such as the kill switch. -/
  | guardCall (call : GuardCall)
  /-- A task begins `execute_order`, with the exception of the contract check. -/
  | submit (t : T) (request : OrderRequest) (contract : Option String)
  /-- A task begins `_handle_unfilled`. -/
  | unfilled (t : T) (orderId : String) (remaining : ℤ)
  /-- The await of a task ends. -/
  | signal (t : T) (signal : Signal)

/-- The arguments of `check_pre_order`. -/
def preOrder (request : OrderRequest) : PreOrder :=
  ⟨request.ticker,request.side,request.quantity,request.limitPrice⟩

variable {T : Type} [DecidableEq T] (texts : NumberTexts) (settings : Settings)

/-- `execute_order` up to its first await. -/
def submitTask (w : World T) (t : T) (request : OrderRequest) : Option String→World T
  | some _ => {w with task := Function.update w.task t (.finished 0 0)}
  | none =>
    let checked := checkPreOrder texts settings (preOrder request) w.guard
    { w with
      guard := checked.2
      task := Function.update w.task t
        (if checked.1.allowed=true ∧ validateOrder request=.ok () then .quoting request
          else .finished 0 0) }

/-- One step, if it is enabled. -/
def step (w : World T) : Event T→Option (World T)
  | .guardCall call => some {w with guard := perform texts settings w.guard call}
  | .submit t request contract =>
    if isFree (w.task t)=true then some (submitTask texts settings w t request contract) else none
  | .unfilled t orderId remaining =>
    if isFree (w.task t)=true then
      some {w with task := Function.update w.task t (.asking orderId remaining)}
    else none
  | .signal t signal =>
    (advance (w.task t) signal).map fun next =>
      { w with
        task := Function.update w.task t next.1
        placed := w.placed++next.2.toList.map fun quantity => ⟨quantity,w.guard.killSwitchOn⟩ }

/-- A broker call may follow. -/
def mayPlace : Stage→Bool
  | .idle => false
  | .finished _ _ => false
  | .placing (.sliced _ loop) => 0<loop.attemptsLeft || loop.rest≠[]
  | .placing _ => false
  | _ => true

/-- A task that starts a broker call, or may still do so, was one that may. -/
theorem advance_mayPlace {stage next : Stage} {signal : Signal} {placed : Option ℤ}
    (h : advance stage signal=some (next,placed))
    (hplace : placed.isSome=true ∨ mayPlace next=true) :
    mayPlace stage=true := by
  cases stage with
  | idle => cases h
  | finished filled cost => cases h
  | quoting request => rfl
  | fetchingToken job => rfl
  | sleeping request interval => rfl
  | asking orderId remaining => rfl
  | cancelling job => rfl
  | placing job =>
    cases signal with
    | answer outcome tokenValid =>
      cases job with
      | single request =>
        cases h
        simp [mayPlace] at hplace
      | replacing orderId ticker side market remaining =>
        cases h
        simp [mayPlace] at hplace
      | sliced request loop =>
        by_cases hmore : 0<loop.attemptsLeft ∨ loop.rest≠[]
        · simpa [mayPlace] using hmore
        · have hlast : loop.attemptsLeft=0 ∧ loop.rest=[] := by
            simpa using hmore
          dsimp only [advance,Job.ended,Slicing.afterAttempt] at h
          rw [hlast.1,hlast.2,if_neg (by omega),if_pos rfl] at h
          cases h
          simp [mayPlace] at hplace
    | _ => cases h

/-- The guard after a step. -/
def guardAfter (w : World T) : Event T→TradingGuardState
  | .guardCall call => perform texts settings w.guard call
  | .submit _ request none => (checkPreOrder texts settings (preOrder request) w.guard).2
  | _ => w.guard

/-- The kill switch is turned on only while no task has a broker call ahead, and
`_handle_unfilled` is called only while it is off. -/
def SwitchAtRest (w : World T) (e : Event T) : Prop :=
  (w.guard.killSwitchOn=false→(guardAfter texts settings w e).killSwitchOn=true→
    ∀ t,mayPlace (w.task t)=false) ∧
  match e with
  | .unfilled _ _ _ => w.guard.killSwitchOn=false
  | _ => True

instance [Fintype T] (w : World T) (e : Event T) : Decidable (SwitchAtRest texts settings w e) :=
  match e with
  | .unfilled _ _ _ => inferInstanceAs (Decidable (_ ∧ _=_))
  | .guardCall _ => inferInstanceAs (Decidable (_ ∧ True))
  | .submit _ _ _ => inferInstanceAs (Decidable (_ ∧ True))
  | .signal _ _ => inferInstanceAs (Decidable (_ ∧ True))

/-- While the kill switch is on no task has a broker call ahead. -/
def Resting (w : World T) : Prop := w.guard.killSwitchOn=true→∀ t,mayPlace (w.task t)=false

variable {texts settings} {w w' : World T} {e : Event T}

/-- What a step can do, with the event that does it. -/
inductive StepCase (texts : NumberTexts) (settings : Settings) (w : World T) :
    Event T→World T→Prop
  /-- A call on the guard. -/
  | called (call : GuardCall) :
      StepCase texts settings w (.guardCall call)
        {w with guard := perform texts settings w.guard call}
  /-- An order that the contract check refuses. -/
  | breached (t : T) (request : OrderRequest) (error : String) :
      StepCase texts settings w (.submit t request (some error))
        {w with task := Function.update w.task t (.finished 0 0)}
  /-- An order that the guard and the validation let through. -/
  | passed (t : T) (request : OrderRequest)
      (hallowed : (checkPreOrder texts settings (preOrder request) w.guard).1.allowed=true) :
      StepCase texts settings w (.submit t request none)
        {w with
          guard := (checkPreOrder texts settings (preOrder request) w.guard).2
          task := Function.update w.task t (.quoting request)}
  /-- An order that the guard or the validation refuses. -/
  | refused (t : T) (request : OrderRequest) :
      StepCase texts settings w (.submit t request none)
        {w with
          guard := (checkPreOrder texts settings (preOrder request) w.guard).2
          task := Function.update w.task t (.finished 0 0)}
  /-- An unfilled order is taken up. -/
  | tookUp (t : T) (orderId : String) (remaining : ℤ) :
      StepCase texts settings w (.unfilled t orderId remaining)
        {w with task := Function.update w.task t (.asking orderId remaining)}
  /-- A task goes on. -/
  | advanced (t : T) (signal : Signal) (next : Stage×Option ℤ)
      (hnext : advance (w.task t) signal=some next) :
      StepCase texts settings w (.signal t signal)
        {w with
          task := Function.update w.task t next.1
          placed := w.placed++next.2.toList.map fun quantity => ⟨quantity,w.guard.killSwitchOn⟩}

/-- The cases of a step. -/
theorem step_cases (h : step texts settings w e=some w') : StepCase texts settings w e w' := by
  cases e with
  | guardCall call =>
    cases h
    exact .called call
  | submit t request contract =>
    dsimp only [step] at h
    split at h
    · cases h
      cases contract with
      | some error => exact .breached t request error
      | none =>
        unfold submitTask
        dsimp only
        split
        · rename_i hgo
          exact .passed t request hgo.1
        · exact .refused t request
    · cases h
  | unfilled t orderId remaining =>
    dsimp only [step] at h
    split at h
    · cases h
      exact .tookUp t orderId remaining
    · cases h
  | signal t signal =>
    obtain ⟨next,hadvance,hnext⟩ := Option.map_eq_some_iff.mp h
    rw [← hnext]
    exact .advanced t signal next hadvance

/-- A step leaves the guard as the calls on it do. -/
theorem step_guard (h : step texts settings w e=some w') :
    w'.guard=guardAfter texts settings w e := by
  cases step_cases h with
  | _ => rfl

/-- A task with a broker call ahead is the one that was moved there, or had one
before. -/
theorem mayPlace_update {task : T→Stage} {t t' : T} {stage : Stage}
    (h : mayPlace (Function.update task t stage t')=true) :
    t'=t ∧ mayPlace stage=true ∨ mayPlace (task t')=true := by
  by_cases heq : t'=t
  · rw [heq,Function.update_self] at h
    exact .inl ⟨heq,h⟩
  · rw [Function.update_of_ne heq] at h
    exact .inr h

/-- A task with a broker call ahead had one before, or was let through while the
kill switch is off, or is a new `_handle_unfilled`. -/
theorem step_mayPlace (h : step texts settings w e=some w') {t : T}
    (hmay : mayPlace (w'.task t)=true) :
    mayPlace (w.task t)=true ∨ w'.guard.killSwitchOn=false ∨
      ∃ orderId remaining,e=.unfilled t orderId remaining := by
  cases step_cases h with
  | called call => exact .inl hmay
  | breached t' request error =>
    obtain ⟨_,hstage⟩ | hbefore := mayPlace_update hmay
    · cases hstage
    · exact .inl hbefore
  | passed t' request hallowed => exact .inr (.inl (checkPreOrder_allowed_switch hallowed))
  | refused t' request =>
    obtain ⟨_,hstage⟩ | hbefore := mayPlace_update hmay
    · cases hstage
    · exact .inl hbefore
  | tookUp t' orderId remaining =>
    obtain ⟨rfl,_⟩ | hbefore := mayPlace_update hmay
    · exact .inr (.inr ⟨orderId,remaining,rfl⟩)
    · exact .inl hbefore
  | advanced t' signal next hnext =>
    obtain ⟨rfl,hstage⟩ | hbefore := mayPlace_update hmay
    · exact .inl (advance_mayPlace hnext (.inr hstage))
    · exact .inl hbefore

/-- A broker call that starts in a step is one that a task had ahead. -/
theorem step_placed (h : step texts settings w e=some w') {p : PlaceStart} (hp : p∈w'.placed) :
    p∈w.placed ∨
      p.killSwitchOn=w.guard.killSwitchOn ∧ ∃ t,mayPlace (w.task t)=true := by
  cases step_cases h with
  | advanced t signal next hnext =>
    obtain hbefore | hnew := List.mem_append.mp hp
    · exact .inl hbefore
    · obtain ⟨quantity,hquantity,rfl⟩ := List.mem_map.mp hnew
      have hstarts : next.2.isSome=true := by
        rw [Option.mem_toList.mp hquantity]
        rfl
      exact .inr ⟨rfl,t,advance_mayPlace hnext (.inl hstarts)⟩
  | _ => exact .inl hp

/-- A step under the condition keeps the tasks at rest while the switch is on. -/
theorem step_resting (hrest : Resting w) (hok : SwitchAtRest texts settings w e)
    (h : step texts settings w e=some w') : Resting w' := by
  intro hon t
  by_contra hnot
  have hmay : mayPlace (w'.task t)=true := by simpa using hnot
  have hguard := step_guard h
  obtain hbefore | hoff | ⟨orderId,remaining,rfl⟩ := step_mayPlace h hmay
  · cases hswitch : w.guard.killSwitchOn with
    | true =>
      have hstill := hrest hswitch t
      simp [hbefore] at hstill
    | false =>
      have hstill := hok.1 hswitch (by rw [← hguard,hon]) t
      simp [hbefore] at hstill
  · simp [hon] at hoff
  · have hoff : w.guard.killSwitchOn=false := hok.2
    have hsame : w'.guard=w.guard := hguard
    simp [hsame,hoff] at hon

/-- A broker call that starts while tasks are at rest starts with the switch
off. -/
theorem step_placed_off (hrest : Resting w) (hbefore : ∀ p∈w.placed,p.killSwitchOn=false)
    (h : step texts settings w e=some w') : ∀ p∈w'.placed,p.killSwitchOn=false := by
  intro p hp
  obtain hold | ⟨hswitch,t,hmay⟩ := step_placed h hp
  · exact hbefore p hold
  · rw [hswitch]
    by_contra hnot
    have hstill := hrest (by simpa using hnot) t
    simp [hmay] at hstill

/-- When the kill switch is turned on only while no task has a broker call ahead
and `_handle_unfilled` is called only while it is off, no broker call starts
while it is on, over any number of tasks and any interleaving. -/
theorem no_place_while_on
    (hrun : Reaches (step texts settings) (SwitchAtRest texts settings) (World.start T settings) w) :
    ∀ p∈w.placed,p.killSwitchOn=false := by
  have hboth : Resting w ∧ ∀ p∈w.placed,p.killSwitchOn=false := by
    refine Reaches.invariant (P := fun w => Resting w ∧ ∀ p∈w.placed,p.killSwitchOn=false)
      ⟨fun _ _ => rfl,fun _ hp => by cases hp⟩ ?_ hrun
    intro s e s' _ hs hok hstep
    exact ⟨step_resting hs.1 hok hstep,step_placed_off hs.1 hs.2 hstep⟩
  exact hboth.2

/-- A market order that was answered before the switch was turned on, and one
that the switch refuses. -/
theorem refused_after_switch :
    ∃ w : World Bool,
      Reaches (step lossTexts demoSettings) (SwitchAtRest lossTexts demoSettings)
        (World.start Bool demoSettings) w ∧
      w.guard.killSwitchOn=true ∧ w.task true=.finished 0 0 ∧
      w.placed.map PlaceStart.quantity=[10] ∧ ∀ p∈w.placed,p.killSwitchOn=false := by
  obtain ⟨w,_,hw,hrun⟩ := play_ends (step lossTexts demoSettings)
    (SwitchAtRest lossTexts demoSettings) (World.start Bool demoSettings)
    (fun w => w.guard.killSwitchOn=true ∧ w.task true=.finished 0 0 ∧
      w.placed.map PlaceStart.quantity=[10])
    [.submit false {ticker := "005930",market := .krx,side := .buy,quantity := 10} none,
      .signal false (.quote none true),
      .signal false (.answer (.accepted "0001" 10 70000) true),
      .guardCall (.activateKillSwitch "수동"),
      .submit true {ticker := "005930",market := .krx,side := .sell,quantity := 5} none]
    (by decide +kernel)
  exact ⟨w,hrun,hw.1,hw.2.1,hw.2.2,no_place_while_on hrun⟩

/-- The switch is turned on between the first two intervals of a TWAP order, and
the second sub-order goes to the broker. -/
theorem slice_placed_while_on :
    ¬∀ w : World Bool,
      Reaches (step lossTexts demoSettings) (fun _ _ => True) (World.start Bool demoSettings) w→
        ∀ p∈w.placed,p.killSwitchOn=false :=
  not_forall_reaches
    [.submit false
        {ticker := "005930",market := .krx,side := .buy,quantity := 60,orderType := .twap} none,
      .signal false (.quote none true),
      .signal false (.answer (.accepted "0001" 10 70000) true),
      .guardCall (.activateKillSwitch "수동"),
      .signal false (.timer true)]
    (by decide +kernel)

end Aqts.KillSwitchRuns
