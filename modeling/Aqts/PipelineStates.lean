import Mathlib.Data.List.Chain

/-!
# States of the pipeline

`core.state_machine` and `core.fallback_handler`: the machine with its history, which the
machine carries as connected by its transitions and by the forced entries of `halt` and
`reset`, and what a blocking gate does to it. The callback of the handler is left out.
-/

namespace Aqts.PipelineStates

/-- `PipelineState`. -/
inductive PipelineState
  | idle | collecting | analyzing | constructing | validating | trading | reconciling | completed
  | halted | error
  deriving DecidableEq

/-- Text of a state. -/
def PipelineState.value : PipelineState→String
  | .idle => "IDLE"
  | .collecting => "COLLECTING"
  | .analyzing => "ANALYZING"
  | .constructing => "CONSTRUCTING"
  | .validating => "VALIDATING"
  | .trading => "TRADING"
  | .reconciling => "RECONCILING"
  | .completed => "COMPLETED"
  | .halted => "HALTED"
  | .error => "ERROR"

/-- `VALID_TRANSITIONS`. -/
def validTransitions : PipelineState→List PipelineState
  | .idle => [.collecting]
  | .collecting => [.analyzing,.error,.halted]
  | .analyzing => [.constructing,.completed,.idle,.error,.halted]
  | .constructing => [.validating,.error,.halted]
  | .validating => [.trading,.idle,.error,.halted]
  | .trading => [.reconciling,.halted,.error]
  | .reconciling => [.completed,.halted,.error]
  | .completed => [.idle]
  | .halted => [.idle]
  | .error => [.idle,.halted]

/-- What can come after a state in a history: a valid transition, or a forced stop or reset. -/
def Follows (state target : PipelineState) : Prop :=
  target∈validTransitions state ∨ target=.halted ∨ target=.idle

/-- An entry of the history. -/
structure Entry where
  /-- The state. -/
  state : PipelineState
  /-- Why it was entered; the first entry has no reason. -/
  reason : Option String
deriving DecidableEq

/-- `PipelineStateMachine`. -/
structure PipelineStateMachine where
  /-- `initial_state`. -/
  initial : PipelineState
  /-- `_state`. -/
  state : PipelineState
  /-- `_history`, the last entry first. -/
  history : List Entry
  /-- The last entry is of the state. -/
  current : history.head?.map Entry.state=some state
  /-- The first entry is of the initial state. -/
  first : history.getLast?=some ⟨initial,none⟩
  /-- Each entry can come after the one before it. -/
  connected : history.IsChain fun later earlier => Follows earlier.state later.state

/-- `InvalidTransitionError`. -/
structure InvalidTransitionError where
  /-- Its text. -/
  text : String
deriving DecidableEq

namespace PipelineStateMachine

/-- `PipelineStateMachine(initial_state)`. -/
def new (initial : PipelineState) : PipelineStateMachine where
  initial := initial
  state := initial
  history := [⟨initial,none⟩]
  current := rfl
  first := rfl
  connected := List.IsChain.singleton _

/-- One more entry. -/
def enter (sm : PipelineStateMachine) (target : PipelineState) (reason : String)
    (h : Follows sm.state target) : PipelineStateMachine where
  initial := sm.initial
  state := target
  history := ⟨target,some reason⟩::sm.history
  current := rfl
  first := by
    have hfirst := sm.first
    cases hhistory : sm.history with
    | nil =>
      rw [hhistory] at hfirst
      cases hfirst
    | cons last rest =>
      rw [hhistory] at hfirst
      rw [List.getLast?_cons_cons,hfirst]
  connected := by
    have hcurrent := sm.current
    have hconnected := sm.connected
    cases hhistory : sm.history with
    | nil => exact List.IsChain.singleton _
    | cons last rest =>
      rw [hhistory] at hcurrent hconnected
      refine List.isChain_cons_cons.mpr ⟨?_,hconnected⟩
      rw [Option.some.inj hcurrent]
      exact h

/-- `can_transition`. -/
def canTransition (sm : PipelineStateMachine) (target : PipelineState) : Bool :=
  decide (target∈validTransitions sm.state)

/-- `transition`. -/
def transition (sm : PipelineStateMachine) (target : PipelineState) (reason : String) :
    Except InvalidTransitionError PipelineStateMachine :=
  if h : target∈validTransitions sm.state then .ok (sm.enter target reason (.inl h))
  else .error ⟨sm.state.value++" → "++target.value++" 전이는 허용되지 않습니다"⟩

/-- `halt`. -/
def halt (sm : PipelineStateMachine) (reason : String) : PipelineStateMachine :=
  if h : .halted∈validTransitions sm.state then sm.enter .halted reason (.inl h)
  else sm.enter .halted ("FORCED: "++reason) (.inr (.inl rfl))

/-- `reset`. -/
def reset (sm : PipelineStateMachine) (reason : String) : PipelineStateMachine :=
  if h : .idle∈validTransitions sm.state then sm.enter .idle reason (.inl h)
  else sm.enter .idle ("FORCED RESET: "++reason) (.inr (.inr rfl))

/-- A stop ends in `HALTED`. -/
@[simp] theorem state_halt (sm : PipelineStateMachine) (reason : String) :
    (sm.halt reason).state=.halted := by
  unfold halt
  split <;> rfl

/-- A reset ends in `IDLE`. -/
@[simp] theorem state_reset (sm : PipelineStateMachine) (reason : String) :
    (sm.reset reason).state=.idle := by
  unfold reset
  split <;> rfl

/-- A valid transition. -/
theorem transition_ok {sm : PipelineStateMachine} {target : PipelineState}
    (h : target∈validTransitions sm.state) (reason : String) :
    ∃ sm',sm.transition target reason=.ok sm' ∧ sm'.state=target := by
  unfold transition
  rw [dif_pos h]
  exact ⟨_,rfl,rfl⟩

/-- Another transition. -/
theorem transition_error {sm : PipelineStateMachine} {target : PipelineState}
    (h : target∉validTransitions sm.state) (reason : String) :
    sm.transition target reason=
      .error ⟨sm.state.value++" → "++target.value++" 전이는 허용되지 않습니다"⟩ := by
  unfold transition
  rw [dif_neg h]

/-- `can_transition` tells which transitions do not raise. -/
theorem canTransition_iff (sm : PipelineStateMachine) (target : PipelineState) (reason : String) :
    sm.canTransition target=true ↔ ∃ sm',sm.transition target reason=.ok sm' := by
  unfold canTransition
  rw [decide_eq_true_eq]
  constructor
  · intro hvalid
    obtain ⟨sm',hok,-⟩ := transition_ok hvalid reason
    exact ⟨sm',hok⟩
  · rintro ⟨sm',hok⟩
    by_contra hinvalid
    rw [transition_error hinvalid] at hok
    cases hok

end PipelineStateMachine

section Histories

/-- A way on which every state but the last one can be entered from the next one only. -/
def Forced (path : List PipelineState) : Prop :=
  path.IsChain fun later earlier => later≠.idle ∧ ∀ state,Follows state later→state=earlier

/-- A connected history from `IDLE` goes along a forced way. -/
theorem Forced.leads {state : PipelineState} {path : List PipelineState}
    (hforced : Forced (state::path)) {entry : Entry} {older : List Entry}
    (hentry : entry.state=state)
    (hconnected : (entry::older).IsChain fun later earlier => Follows earlier.state later.state)
    (hlast : (entry::older).getLast?=some ⟨.idle,none⟩) : path.IsPrefix (older.map Entry.state) := by
  induction path generalizing state entry older with
  | nil => exact List.nil_prefix
  | cons earlier rest ih =>
    obtain ⟨⟨hstate,hpath⟩,hrest⟩ := List.isChain_cons_cons.mp hforced
    cases older with
    | nil =>
      rw [List.getLast?_singleton,Option.some.injEq] at hlast
      rw [hlast] at hentry
      exact absurd hentry.symm hstate
    | cons before older =>
      obtain ⟨hfollows,hconnected⟩ := List.isChain_cons_cons.mp hconnected
      rw [List.getLast?_cons_cons] at hlast
      have hbefore : before.state=earlier := hpath before.state (hentry ▸ hfollows)
      rw [List.map_cons,hbefore]
      exact List.cons_prefix_cons.mpr ⟨rfl,ih hrest hbefore hconnected hlast⟩

/-- The way to an order is forced. -/
theorem forced_trading :
    Forced [.trading,.validating,.constructing,.analyzing,.collecting,.idle] := by
  have hforced : ∀ later earlier,later≠.idle→(∀ state,Follows state later→state=earlier)→
      later≠.idle ∧ ∀ state,Follows state later→state=earlier := fun _ _ h h' => ⟨h,h'⟩
  refine .cons_cons (hforced _ _ nofun ?_) <| .cons_cons (hforced _ _ nofun ?_) <|
    .cons_cons (hforced _ _ nofun ?_) <| .cons_cons (hforced _ _ nofun ?_) <|
    .cons_cons (hforced _ _ nofun ?_) <| .singleton _
  all_goals
    intro state
    unfold Follows
    cases state <;> decide

/-- Orders are executed only after a whole cycle: in the history of every machine that began in
`IDLE`, whatever transitions, stops and resets it went through, the five entries before one of
`TRADING` are of `VALIDATING`, `CONSTRUCTING`, `ANALYZING`, `COLLECTING` and `IDLE`. -/
theorem trading_ends_a_cycle (sm : PipelineStateMachine) (hinitial : sm.initial=.idle)
    (newer older : List Entry) (entry : Entry) (hsplit : sm.history=newer++entry::older)
    (htrading : entry.state=.trading) :
    [PipelineState.validating,.constructing,.analyzing,.collecting,.idle].IsPrefix
      (older.map Entry.state) := by
  have hconnected := sm.connected
  have hfirst := sm.first
  rw [hsplit,hinitial] at hfirst
  rw [hsplit] at hconnected
  rw [List.getLast?_append_of_ne_nil _ (List.cons_ne_nil _ _)] at hfirst
  exact forced_trading.leads htrading hconnected.right_of_append hfirst

/-- A whole cycle up to an order. -/
def orderCycle : PipelineStateMachine :=
  (((((PipelineStateMachine.new .idle).enter .collecting "" (.inl (by decide))).enter .analyzing ""
    (.inl (by decide))).enter .constructing "" (.inl (by decide))).enter .validating ""
    (.inl (by decide))).enter .trading "" (.inl (by decide))

/-- The entries before the order of a cycle. -/
theorem trading_ends_a_cycle_once :
    [PipelineState.validating,.constructing,.analyzing,.collecting,.idle].IsPrefix
      (orderCycle.history.tail.map Entry.state) :=
  trading_ends_a_cycle orderCycle rfl [] orderCycle.history.tail ⟨.trading,some ""⟩ rfl rfl

end Histories

section Fallback

/-- `DEFAULT_FALLBACKS`. -/
def defaultFallbacks : List (String×PipelineState) :=
  [("DataGate",.idle),("FactorGate",.idle),("SignalGate",.idle),("EnsembleGate",.idle),
    ("PortfolioGate",.idle),("TradingGuardGate",.idle),("ReconGate",.halted),
    ("ExecutionGate",.halted),("FillGate",.halted)]

/-- The state that a gate falls back to: that of `custom_fallbacks`, that of the defaults, or
`IDLE`. -/
def fallbackState (custom : List (String×PipelineState)) (gateId : String) : PipelineState :=
  ((custom.lookup gateId).or (defaultFallbacks.lookup gateId)).getD .idle

/-- `handle`, for a gate that blocks. -/
def handleBlock (custom : List (String×PipelineState)) (gateId reason : String)
    (sm : PipelineStateMachine) : PipelineStateMachine :=
  if fallbackState custom gateId=.halted then sm.halt (gateId++": "++reason)
  else sm.reset (gateId++": "++reason)

/-- The state after a block: `HALTED` if the gate falls back to it, and `IDLE` for every other
fallback. -/
def blockedState (custom : List (String×PipelineState)) (gateId : String) : PipelineState :=
  if fallbackState custom gateId=.halted then .halted else .idle

/-- The state after a block depends on the gate only. -/
@[simp] theorem state_handleBlock (custom : List (String×PipelineState)) (gateId reason : String)
    (sm : PipelineStateMachine) :
    (handleBlock custom gateId reason sm).state=blockedState custom gateId := by
  unfold handleBlock blockedState
  split
  · exact PipelineStateMachine.state_halt _ _
  · exact PipelineStateMachine.state_reset _ _

end Fallback

end Aqts.PipelineStates
