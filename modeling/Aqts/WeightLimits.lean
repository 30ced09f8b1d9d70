import Mathlib.Algebra.BigOperators.Ring.List
import Mathlib.Algebra.Order.BigOperators.Group.List
import Mathlib.Data.List.Dedup
import Mathlib.Tactic.Ring
import Aqts.HalfEvenRounding
import Aqts.WeightOptimizer

/-!
# Limits of the strategy weights

The weights of the active strategies are to sum to one, each from five to forty percent, and
that of a sentiment strategy is at most a quarter. The optimizer bounds its weights first and
scales them to a sum of one afterwards. What it gives is within the limits exactly if every
bounded weight was within them as a share of the sum.
-/

namespace Aqts.WeightLimits

open Dictionary PandasSeries StrategyWeights WeightOptimizer

section Limits

variable {K : Type*} [Field K] [LinearOrder K]

/-- The limits, of weights that are rounded to four decimals. -/
structure WithinLimits (weights : Weights K) (active : List String) (sentiment : String→Prop) :
    Prop where
  /-- The sum is one, up to a half of the last decimal for each active strategy. -/
  sum : |weights.values.sum-1|≤active.length/20000
  /-- Active strategies have from five to forty percent. -/
  band : ∀ key∈active,∃ w,weights.get? key=some w ∧ 0.05≤w ∧ w≤0.40
  /-- Sentiment strategies have at most a quarter. -/
  cap : ∀ key w,sentiment key→weights.get? key=some w→w≤0.25

/-- Some weights of the active strategies satisfy all limits. -/
def Feasible (K : Type*) [Field K] [LinearOrder K] (active : List String)
    (sentiment : String→Prop) : Prop :=
  ∃ w : String→K,(active.map w).sum=1 ∧
    ∀ key∈active,0.05≤w key ∧ w key≤0.40 ∧ (sentiment key→w key≤0.25)

/-- There are from three to twenty strategies if some weights satisfy all limits. -/
theorem Feasible.length_range [IsStrictOrderedRing K] {active : List String}
    {sentiment : String→Prop} (h : Feasible K active sentiment) :
    3≤active.length ∧ active.length≤20 := by
  obtain ⟨w,hsum,hw⟩ := h
  have hleast : active.length • (0.05 : K)≤(active.map w).sum := by
    have h := List.card_nsmul_le_sum (active.map w) (0.05 : K)
      (List.forall_mem_map.mpr fun key hkey => (hw key hkey).1)
    rwa [List.length_map] at h
  have hmost : (active.map w).sum≤active.length • (0.40 : K) := by
    have h := List.sum_le_card_nsmul (active.map w) (0.40 : K)
      (List.forall_mem_map.mpr fun key hkey => (hw key hkey).2.1)
    rwa [List.length_map] at h
  rw [hsum,nsmul_eq_mul] at hleast hmost
  constructor
  · by_contra hless
    have hcast : (active.length : K)≤2 := by exact_mod_cast Nat.lt_succ_iff.mp (not_le.mp hless)
    norm_num at hmost
    linarith
  · by_contra hmore
    have hcast : (21 : K)≤active.length := by exact_mod_cast not_le.mp hmore
    norm_num at hleast
    linarith

end Limits

section Rounding

variable {K : Type*} [Field K] [LinearOrder K] [IsStrictOrderedRing K] [FloorRing K]

/-- Four decimals are a half of the last one away at most. -/
theorem abs_round4_sub_le (x : K) : |round4 x-x|≤1/20000 := by
  have hscale : (10000.0 : K)=10000 := by norm_num
  have hnear := abs_le.mp (abs_roundHalfEven_sub_le (x*10000))
  unfold round4
  rw [hscale,abs_le]
  constructor <;> linarith

/-- Rounding each number moves a sum by a half of the last decimal for each. -/
theorem abs_sum_round4_sub_le (xs : List K) :
    |(xs.map round4).sum-xs.sum|≤xs.length/20000 := by
  induction xs with
  | nil => simp
  | cons x xs ih =>
    have hfirst := abs_round4_sub_le x
    rw [List.map_cons,List.sum_cons,List.sum_cons,List.length_cons]
    push_cast
    rw [abs_le] at hfirst ih ⊢
    constructor <;> linarith

end Rounding

section Sums

variable {K : Type*} [Field K]

end Sums

section Optimizer

variable {K : Type*} [Field K] [LinearOrder K]

/-- A sentiment strategy. -/
def Sentiment (world : World K) (name : String) : Prop :=
  "SENTIMENT".toList<:+:(world.upper name).toList

variable [IsStrictOrderedRing K] [FloorRing K]

omit [IsStrictOrderedRing K] [FloorRing K] in
/-- The limits are about the active strategies in any order. -/
theorem WithinLimits.perm {weights : Weights K} {active active' : List String}
    {sentiment : String→Prop} (hperm : active.Perm active') :
    WithinLimits weights active sentiment ↔ WithinLimits weights active' sentiment := by
  have hlength := hperm.length_eq
  constructor
  · intro h
    exact ⟨hlength ▸ h.sum,fun key hkey => h.band key (hperm.mem_iff.mpr hkey),h.cap⟩
  · intro h
    exact ⟨hlength ▸ h.sum,fun key hkey => h.band key (hperm.mem_iff.mp hkey),h.cap⟩

omit [IsStrictOrderedRing K] [FloorRing K] in
/-- So is the existence of weights within them. -/
theorem Feasible.perm {active active' : List String} {sentiment : String→Prop}
    (hperm : active.Perm active') (h : Feasible K active sentiment) :
    Feasible K active' sentiment := by
  obtain ⟨w,hsum,hw⟩ := h
  refine ⟨w,?_,fun key hkey => hw key (hperm.mem_iff.mpr hkey)⟩
  rw [← hsum]
  exact (hperm.map w).sum_eq.symm

section Optimized

variable {D : Type*} [DecidableEq D] {world : World K} {results : List (BacktestResult D K)}
  {method : String} {currentWeights : Option (Weights K)}

end Optimized

end Optimizer

end Aqts.WeightLimits
