import Aqts.SlicedExposure
import Mathlib.Algebra.Order.BigOperators.Group.List

/-!
# What a sliced order fills

The books of a sliced order against the log of its sub-orders. As long as every
sub-order fills between nothing and what it asks for, the filled quantity and
the carryover add up to the slices planned so far, and the cost is that of the
fills. A slice that is skipped with a carryover of nothing is an empty one as
long as no slice is negative.
-/

namespace Aqts.SlicedFills

open OrderTypes OrderExecutor

/-- Quantity that the sub-orders of a log filled. -/
def filledQuantity (log : List Placement) : ℤ := (log.map fun p => outcomeFilled p.outcome).sum

/-- Filled quantity times price over the sub-orders of a log. -/
def filledCost (log : List Placement) : ℚ := (log.map fun p => outcomeCost p.outcome).sum

/-- Every sub-order fills between nothing and what it asks for; one that raises
fills nothing. -/
def FilledAtMostAsked (log : List Placement) : Prop :=
  ∀ p∈log,0≤outcomeFilled p.outcome ∧ outcomeFilled p.outcome≤p.quantity

instance : DecidablePred FilledAtMostAsked := fun log =>
  inferInstanceAs (Decidable (∀ p∈log,0≤outcomeFilled p.outcome ∧ outcomeFilled p.outcome≤p.quantity))

/-- Fills of two logs add up. -/
theorem filledQuantity_append (log more : List Placement) :
    filledQuantity (log++more)=filledQuantity log+filledQuantity more := by
  unfold filledQuantity
  rw [List.map_append,List.sum_append]

/-- Costs of two logs add up. -/
theorem filledCost_append (log more : List Placement) :
    filledCost (log++more)=filledCost log+filledCost more := by
  unfold filledCost
  rw [List.map_append,List.sum_append]

/-- The fill of one sub-order. -/
theorem filledQuantity_singleton (p : Placement) : filledQuantity [p]=outcomeFilled p.outcome :=
  List.sum_singleton

/-- The cost of one sub-order. -/
theorem filledCost_singleton (p : Placement) : filledCost [p]=outcomeCost p.outcome :=
  List.sum_singleton

/-- Both parts of a log fill at most what they ask for. -/
theorem FilledAtMostAsked.split {log more : List Placement} (h : FilledAtMostAsked (log++more)) :
    FilledAtMostAsked log ∧ FilledAtMostAsked more :=
  List.forall_mem_append.mp h

/-- An outcome without a fill has no cost. -/
theorem outcomeCost_of_filled_zero {outcome : BrokerOutcome} (h : outcomeFilled outcome=0) :
    outcomeCost outcome=0 := by
  cases outcome with
  | accepted orderId filledQty avgPrice =>
    have hzero : filledQty=0 := h
    rw [hzero]
    exact (congrArg (·*avgPrice) Int.cast_zero).trans (zero_mul avgPrice)
  | unreadable text => rfl
  | raises text => rfl

/-- A log of sub-orders that fill nothing together has no cost. -/
theorem filledCost_of_filled_zero {log : List Placement} (h : FilledAtMostAsked log)
    (hzero : filledQuantity log=0) : filledCost log=0 := by
  unfold filledQuantity at hzero
  unfold filledCost
  refine List.sum_eq_zero fun cost hcost => ?_
  obtain ⟨p,hp,rfl⟩ := List.mem_map.mp hcost
  have hnonneg : ∀ filled∈log.map (fun p => outcomeFilled p.outcome),0≤filled := by
    intro filled hfilled
    obtain ⟨other,hother,rfl⟩ := List.mem_map.mp hfilled
    exact (h other hother).1
  have hle : outcomeFilled p.outcome≤0 :=
    hzero ▸ List.single_le_sum hnonneg _ (List.mem_map.mpr ⟨p,hp,rfl⟩)
  exact outcomeCost_of_filled_zero (le_antisymm hle (h p hp).1)

/-- The filled quantity and the carryover are what was planned. -/
structure Balanced (planned : ℤ) (st : SliceState) : Prop where
  /-- Filled and carried. -/
  total : st.totalFilled+st.carryover=planned
  /-- Nothing is filled in excess. -/
  carried : 0≤ st.carryover
  /-- Nothing is taken back. -/
  filled : 0≤ st.totalFilled

/-- At most what was planned is filled. -/
theorem Balanced.most {planned : ℤ} {st : SliceState} (h : Balanced planned st) :
    st.totalFilled≤planned := by
  have htotal := h.total
  have hcarried := h.carried
  omega

/-- The attempts on a slice, begun in a state of the loop. -/
structure FillsSlice (planned sliceQty : ℤ) (st : SliceState) (s : SliceProgress×List Placement) :
    Prop where
  /-- The state before the slice. -/
  before : Balanced planned st
  /-- Nothing is taken back. -/
  nonneg : 0≤ s.1.filledInSlice
  /-- Nothing is filled in excess. -/
  most : s.1.filledInSlice≤ sliceQty
  /-- The fills of the log. -/
  quantity : st.totalFilled+s.1.filledInSlice=filledQuantity s.2
  /-- The cost of the log. -/
  cost : s.1.totalCost=filledCost s.2

/-- An attempt keeps the books of its slice, as long as no sub-order fills more
than it asks for. -/
theorem FillsSlice.attempt {planned sliceQty : ℤ} {st : SliceState}
    {s : SliceProgress×List Placement}
    (h : FilledAtMostAsked s.2→FillsSlice planned sliceQty st s) (request : OrderRequest)
    (reason : ℕ→String) (attempt : ℕ)
    (hlog : FilledAtMostAsked (loggedAttempt request reason sliceQty s attempt).2) :
    FillsSlice planned sliceQty st (loggedAttempt request reason sliceQty s attempt) := by
  unfold loggedAttempt attemptPlacements at hlog ⊢
  obtain ⟨hbefore,hnew⟩ := hlog.split
  obtain ⟨hbalanced,hnonneg,hmost,hquantity,hcost⟩ := h hbefore
  by_cases hdone : sliceQty-s.1.filledInSlice≤0
  · unfold sliceAttempt
    rw [if_pos hdone,if_pos hdone,List.append_nil]
    exact ⟨hbalanced,hnonneg,hmost,hquantity,hcost⟩
  · obtain ⟨_,hfilled,hspent⟩ := sliceAttempt_answer request reason attempt (not_le.mp hdone)
    rw [if_neg hdone] at hnew ⊢
    have hasked : 0≤outcomeFilled (nextAnswer s.1.broker).1.outcome ∧
        outcomeFilled (nextAnswer s.1.broker).1.outcome≤ sliceQty-s.1.filledInSlice :=
      hnew _ (List.mem_singleton.mpr rfl)
    refine ⟨hbalanced,?_,?_,?_,?_⟩
    · dsimp only
      omega
    · dsimp only
      omega
    · dsimp only
      rw [filledQuantity_append,filledQuantity_singleton,hfilled,← hquantity,add_assoc]
    · dsimp only
      rw [filledCost_append,filledCost_singleton,hspent,hcost]

/-- All attempts keep the books of their slice. -/
theorem FillsSlice.attempts {planned sliceQty : ℤ} {st : SliceState} (request : OrderRequest)
    (reason : ℕ→String) (attempts : List ℕ) {s : SliceProgress×List Placement}
    (h : FilledAtMostAsked s.2→FillsSlice planned sliceQty st s)
    (hlog : FilledAtMostAsked (attempts.foldl (loggedAttempt request reason sliceQty) s).2) :
    FillsSlice planned sliceQty st (attempts.foldl (loggedAttempt request reason sliceQty) s) := by
  induction attempts generalizing s with
  | nil => exact h hlog
  | cons attempt attempts ih =>
    exact ih (fun hlog => FillsSlice.attempt h request reason attempt hlog) hlog

/-- The loop over the intervals. -/
structure Fills (planned : ℤ) (s : SliceState×List Placement) : Prop where
  /-- Filled and carried. -/
  balanced : Balanced planned s.1
  /-- The fills of the log. -/
  quantity : s.1.totalFilled=filledQuantity s.2
  /-- The cost of the log. -/
  cost : s.1.totalCost=filledCost s.2

/-- An interval with a slice that is not negative keeps the books. -/
theorem Fills.slice {planned : ℤ} {s : SliceState×List Placement}
    (h : FilledAtMostAsked s.2→Fills planned s) (request : OrderRequest) (attempts : ℕ)
    (reason : ℕ→ℕ→String) {slice : ℤ×ℕ} (hslice : 0≤ slice.1)
    (hlog : FilledAtMostAsked (loggedSlice request attempts reason s slice).2) :
    Fills (planned+slice.1) (loggedSlice request attempts reason s slice) := by
  unfold loggedSlice executeSlice at hlog ⊢
  dsimp only at hlog ⊢
  by_cases hskip : slice.1+s.1.carryover≤0
  · rw [if_pos hskip] at hlog
    rw [if_pos hskip,if_pos hskip]
    obtain ⟨⟨htotal,hcarried,hfilled⟩,hquantity,hcost⟩ := h hlog
    refine ⟨⟨?_,hcarried,hfilled⟩,hquantity,hcost⟩
    dsimp only
    omega
  · rw [if_neg hskip] at hlog
    rw [if_neg hskip,if_neg hskip]
    have hstart : FilledAtMostAsked s.2→FillsSlice planned (slice.1+s.1.carryover) s.1
        (⟨s.1.broker,0,s.1.totalCost,s.1.subResults⟩,s.2) := by
      intro hbefore
      obtain ⟨hbalanced,hquantity,hcost⟩ := h hbefore
      exact ⟨hbalanced,le_refl 0,(not_le.mp hskip).le,(add_zero _).trans hquantity,hcost⟩
    have hend := FillsSlice.attempts request (reason slice.2) (List.range attempts) hstart hlog
    have hstate := loggedAttempt_state request (reason slice.2) (slice.1+s.1.carryover)
      (List.range attempts) (⟨s.1.broker,0,s.1.totalCost,s.1.subResults⟩,s.2)
    rw [← hstate]
    obtain ⟨⟨htotal,hcarried,hfilled⟩,hnonneg,hmost,hquantity,hcost⟩ := hend
    refine ⟨⟨?_,?_,?_⟩,hquantity,hcost⟩
    · dsimp only
      omega
    · dsimp only
      omega
    · dsimp only
      omega

/-- The books after all intervals, if no slice is negative. -/
theorem loggedSlices_fills (request : OrderRequest) (attempts : ℕ) (reason : ℕ→ℕ→String)
    {slices : List ℤ} (hslices : ∀ slice∈slices,0≤ slice) (broker : List BrokerCall)
    (hlog : FilledAtMostAsked (loggedSlices request attempts reason slices broker).2) :
    Fills slices.sum (loggedSlices request attempts reason slices broker) := by
  have hloop : ∀ (rest : List ℤ) (i : ℕ) (planned : ℤ) (s : SliceState×List Placement),
      (∀ slice∈rest,0≤ slice)→(FilledAtMostAsked s.2→Fills planned s)→
      FilledAtMostAsked ((rest.zipIdx i).foldl (loggedSlice request attempts reason) s).2→
      Fills (planned+rest.sum)
        ((rest.zipIdx i).foldl (loggedSlice request attempts reason) s) := by
    intro rest
    induction rest with
    | nil =>
      intro i planned s _ h hlog
      rw [List.sum_nil,add_zero]
      exact h hlog
    | cons slice rest ih =>
      intro i planned s hnonneg h hlog
      rw [List.sum_cons,← add_assoc,List.zipIdx_cons,List.foldl_cons]
      rw [List.zipIdx_cons,List.foldl_cons] at hlog
      refine ih (i+1) _ _ (fun other ho => hnonneg other (List.mem_cons_of_mem _ ho)) ?_ hlog
      intro hnext
      exact Fills.slice h request attempts reason (hnonneg slice List.mem_cons_self) hnext
  have hend := hloop slices 0 0 (⟨broker,0,0,[],0⟩,[]) hslices
    (fun _ => ⟨⟨rfl,le_refl 0,le_refl 0⟩,rfl,rfl⟩) hlog
  rw [zero_add] at hend
  exact hend

end Aqts.SlicedFills
