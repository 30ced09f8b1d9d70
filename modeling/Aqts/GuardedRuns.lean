import Mathlib.Logic.Basic

/-!
# Runs of a guarded step system

A step system is a partial function from a state and an event to the next
state. A guard restricts which events a run may take in which state. The
module gives the reached states, the invariant rule over whole runs and an
executable player for concrete event lists. Nothing here depends on what
the states or the events are.
-/

namespace Aqts.GuardedRuns

variable {S E : Type*}

/-- States reached from an initial state by steps that all meet the guard. -/
inductive Reaches (step : S→E→Option S) (allowed : S→E→Prop) (init : S) : S→Prop
  /-- The initial state is reached by the empty run. -/
  | start : Reaches step allowed init init
  /-- One more step that meets the guard and is enabled. -/
  | next {s s' : S} {e : E} : Reaches step allowed init s→allowed s e→step s e=some s'→
      Reaches step allowed init s'

variable {step : S→E→Option S} {allowed : S→E→Prop} {init : S}

/-- A property of the initial state that every guarded step preserves holds
in every reached state. The step may use that its source state is reached,
so that one invariant can be built on another. -/
theorem Reaches.invariant {P : S→Prop} (h0 : P init)
    (hstep : ∀ s e s',Reaches step allowed init s→P s→allowed s e→step s e=some s'→P s')
    {s : S} (h : Reaches step allowed init s) : P s := by
  induction h with
  | start => exact h0
  | next hr ha hs ih => exact hstep _ _ _ hr ih ha hs

/-- A run goes on from the state that another run ends in. -/
theorem Reaches.trans {s s' : S} (h : Reaches step allowed init s)
    (h' : Reaches step allowed s s') : Reaches step allowed init s' :=
  h'.invariant h fun _ _ _ _ hr ha hs => hr.next ha hs

/-- Play a concrete event list, stopping with no state at the first event
that is disabled or outside the guard. -/
def play (step : S→E→Option S) (allowed : S→E→Prop) [∀ s e,Decidable (allowed s e)] :
    S→List E→Option S
  | s,[] => some s
  | s,e::events =>
    if allowed s e then
      match step s e with
      | none => none
      | some s' => play step allowed s' events
    else none

/-- Every state the player returns is reached by a guarded run. -/
theorem play_reaches [∀ s e,Decidable (allowed s e)] {s s' : S} (events : List E)
    (hs : Reaches step allowed init s) (hp : play step allowed s events=some s') :
    Reaches step allowed init s' := by
  induction events generalizing s with
  | nil =>
    cases hp
    exact hs
  | cons e events ih =>
    unfold play at hp
    split at hp
    · rename_i ha
      split at hp
      · cases hp
      · rename_i next hn
        exact ih (.next hs ha hn) hp
    · cases hp

/-- A closed run that ends in a state with a decidable property. -/
theorem play_ends (step : S→E→Option S) (allowed : S→E→Prop) [∀ s e,Decidable (allowed s e)]
    (init : S) (Q : S→Prop) [DecidablePred Q] (events : List E)
    (h : (play step allowed init events).any (fun s => decide (Q s))=true) :
    ∃ s,play step allowed init events=some s ∧ Q s ∧ Reaches step allowed init s := by
  obtain ⟨s,hp,hq⟩ := (Option.any_eq_true _ _).mp h
  exact ⟨s,hp,of_decide_eq_true hq,play_reaches events .start hp⟩

/-- A closed run that ends in a state where the property fails refutes the
property over all guarded runs. -/
theorem not_forall_reaches [∀ s e,Decidable (allowed s e)] {P : S→Prop} [DecidablePred P]
    (events : List E) (h : (play step allowed init events).any (fun s => decide (¬P s))=true) :
    ¬∀ s,Reaches step allowed init s→P s := by
  intro hall
  obtain ⟨s,_,hn,hr⟩ := play_ends step allowed init (fun s => ¬P s) events h
  exact hn (hall s hr)

end Aqts.GuardedRuns
