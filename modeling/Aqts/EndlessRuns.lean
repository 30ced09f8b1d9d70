import Mathlib.Order.Lattice.Nat

/-!
# Endless runs

A system that takes one step for each event of an endless stream. The rules are those
for an invariant of the steps from some time on, and for a state that is reached because
a rank falls at every event of a kind that keeps coming. Nothing here depends on what
the states or the events are.
-/

namespace Aqts.EndlessRuns

variable {S E : Type*}

/-- The states of a run: the one after each number of events. -/
def states (step : S→E→S) (init : S) (events : ℕ→E) : ℕ→S
  | 0 => init
  | n+1 => step (states step init events n) (events n)

/-- Events of a kind keep coming. -/
def Recurs (kind : E→Prop) (events : ℕ→E) : Prop := ∀ n,∃ k,n≤k ∧ kind (events k)

variable {step : S→E→S} {init : S} {events : ℕ→E}

/-- What holds at a time and is preserved by every later step holds at every later time. -/
theorem invariant_from {P : ℕ→Prop} {start : ℕ} (hstart : P start)
    (hstep : ∀ k,start≤k→P k→P (k+1)) {n : ℕ} (hn : start≤n) : P n := by
  induction n,hn using Nat.le_induction with
  | base => exact hstart
  | succ k hk ih => exact hstep k hk ih

/-- What holds of the initial state and is preserved by every step holds of every state. -/
theorem states_invariant {P : S→Prop} (hinit : P init) (hstep : ∀ s e,P s→P (step s e)) (n : ℕ) :
    P (states step init events n) := by
  induction n with
  | zero => exact hinit
  | succ n ih => exact hstep _ (events n) ih

/-- A rank that no step raises, and that every event of a recurring kind lowers until the
goal holds, leads to the goal. -/
theorem eventually_of_rank {kind : E→Prop} (hkind : Recurs kind events) (P goal : S→Prop)
    (rank : S→ℕ) {start : ℕ} (hstart : P (states step init events start))
    (hkeep : ∀ k,start≤k→P (states step init events k)→P (states step init events (k+1)) ∧
      rank (states step init events (k+1))≤ rank (states step init events k))
    (hfall : ∀ k,start≤k→P (states step init events k)→kind (events k)→
      goal (states step init events k) ∨
        rank (states step init events (k+1)) < rank (states step init events k)) :
    ∃ n,start≤n ∧ goal (states step init events n) := by
  -- the induction is on the rank at the start, which may be any later time
  have hrank : ∀ r start' : ℕ,start≤ start'→P (states step init events start')→
      rank (states step init events start')=r→∃ n,start≤n ∧ goal (states step init events n) := by
    intro r
    induction r using Nat.strong_induction_on with
    | h r ih =>
      intro start' hlater hP hr
      obtain ⟨k,hk,hready⟩ := hkind start'
      have hthen : P (states step init events k) ∧ rank (states step init events k)≤ r :=
        invariant_from
          (P := fun n => P (states step init events n) ∧ rank (states step init events n)≤ r)
          ⟨hP,hr.le⟩ (fun n hn h => by
            have hnext := hkeep n (hlater.trans hn) h.1
            exact ⟨hnext.1,hnext.2.trans h.2⟩) hk
      rcases hfall k (hlater.trans hk) hthen.1 hready with hgoal | hless
      · exact ⟨k,hlater.trans hk,hgoal⟩
      · have hnext := (hkeep k (hlater.trans hk) hthen.1).1
        exact ih _ (hless.trans_le hthen.2) (k+1) (hlater.trans (hk.trans (Nat.le_succ k))) hnext rfl
  exact hrank _ start le_rfl hstart rfl

/-- Finitely many things that each happen have all happened at some time. -/
theorem all_happened {α : Type*} {happens : α→ℕ→Prop} (l : List α)
    (h : ∀ a∈l,∃ n,happens a n) : ∃ time,∀ a∈l,∃ n,n < time ∧ happens a n := by
  induction l with
  | nil => exact ⟨0,fun a ha => absurd ha List.not_mem_nil⟩
  | cons a l ih =>
    obtain ⟨n,hn⟩ := h a List.mem_cons_self
    obtain ⟨time,htime⟩ := ih fun b hb => h b (List.mem_cons_of_mem a hb)
    refine ⟨max (n+1) time,fun b hb => ?_⟩
    cases List.mem_cons.mp hb with
    | inl heq =>
      rw [heq]
      exact ⟨n,lt_max_of_lt_left (Nat.lt_succ_self n),hn⟩
    | inr hmem =>
      obtain ⟨k,hk,hhappens⟩ := htime b hmem
      exact ⟨k,lt_max_of_lt_right hk,hhappens⟩

end Aqts.EndlessRuns
