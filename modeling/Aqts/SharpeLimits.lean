import Mathlib.Algebra.BigOperators.Ring.List
import Mathlib.Tactic.Ring
import Aqts.WeightLimits

/-!
# Limits of recalibrated weights

Recalibrated weights are shares of positive Sharpe ratios, raised to five and cut to forty
percent and then scaled to a sum of one. The scaling moves them out of the limits unless what
was added to small shares and what was taken from large ones cancel.
-/

namespace Aqts.SharpeLimits

open Dictionary PandasSeries StrategyWeights WeightOptimizer WeightLimits

section Totals

variable {K : Type*} [Field K]

end Totals

section Ratios

variable {K : Type*} [Field K] [LinearOrder K]

/-- `positive_sharpes`, of the strategies with a weight. -/
def positiveSharpes (oldWeights : Weights K) (strategyPerformances : Dict String (Value K)) :
    Dict String (Value K) :=
  (oldWeights.filter fun _ v => decide (0<v)).mapItems fun key _ =>
    ((strategyPerformances.get? key).getD (.number 0)).pyMax (.number 0)

/-- What is added to the shares under five percent. -/
def lifts (xs : List K) (total : K) : K := (xs.map fun x => max (0.05-x/total) 0).sum

/-- What is taken from the shares over forty percent. -/
def cuts (xs : List K) (total : K) : K := (xs.map fun x => max (x/total-0.40) 0).sum

/-- What the limits ask of the positive Sharpe ratios. -/
inductive Balanced (ps : List (Value K)) : Prop
  /-- Some ratio is missing, and all parts are equal. -/
  | missing (h : .missing∈ps)
  /-- There are no positive ratios, and all parts are equal. -/
  | noTotal (h : (total ps).below (.number 1e-10)=true)
  /-- The lifts and the cuts cancel, up to the rounding. -/
  | cancel (xs : List K) (numbers : ps=xs.map .number)
      (lift : lifts xs xs.sum-cuts xs xs.sum≤1/999)
      (cut : cuts xs xs.sum-lifts xs xs.sum≤1/8001)
  /-- All ratios are infinite, and all parts are equal. -/
  | allInfinite (h : ∀ p∈ps,p=.infinite false)
  /-- Infinite ratios have forty percent and the others five, and their sum is one. -/
  | someInfinite (h : .infinite false∈ps) (count : ps.length+7*ps.count (.infinite false)=20)

end Ratios

section Bands

variable {K : Type*} [Field K] [LinearOrder K]

/-- Every number is within the band as a share of the sum, up to the rounding. -/
def Kept (cs : List K) : Prop := ∀ c∈cs,0.04995*cs.sum≤ c ∧ c≤0.40005*cs.sum

variable [IsStrictOrderedRing K]

end Bands

section Recalibration

variable {K : Type*} [Field K] [LinearOrder K] [IsStrictOrderedRing K] [FloorRing K]

end Recalibration

section Weights

/-- Upper case of the letters, and no matrix that can be inverted. -/
def plainWorld : World ℚ := ⟨fun name => String.ofList (name.toList.map Char.toUpper),fun _ => none⟩

end Weights

end Aqts.SharpeLimits
