import Mathlib.Data.List.Infix
import Mathlib.Data.String.Basic
import Aqts.StrategyWeights

/-!
# The weight optimizer

`WeightOptimizer.optimize` and `optimize_and_apply`: raw weights by Sharpe ratios, by risk
or by the least variance, then bounds, smoothing and a scaling to a sum of one. What is
applied is written by two routines: `recalibrate_weights` computes its own weights and
stores them, and the optimized ones replace those in the engine alone.
-/

namespace Aqts.WeightOptimizer

open Dictionary PandasSeries StrategyWeights

/-- The figures of a backtest that are extracted. -/
structure Metrics (K : Type*) where
  /-- `sharpe_ratio`. -/
  sharpe : Value K
  /-- `sortino_ratio`. -/
  sortino : Value K
  /-- `calmar_ratio`. -/
  calmar : Value K
  /-- `mdd`. -/
  mdd : Value K
  /-- `cagr`. -/
  cagr : Value K
  /-- `total_return`. -/
  totalReturn : Value K
  /-- `win_rate`. -/
  winRate : Value K
  /-- `profit_factor`. -/
  profitFactor : Value K
  /-- `alpha`. -/
  alpha : Value K
  /-- `beta`. -/
  beta : Value K
  deriving DecidableEq

/-- `BacktestResult`, with what the optimizer reads. -/
structure BacktestResult (D K : Type*) where
  /-- `strategy_name`. -/
  strategyName : String
  /-- The figures. -/
  metrics : Metrics K
  /-- `start_date`. -/
  startDate : String
  /-- `end_date`. -/
  endDate : String
  /-- `equity_curve`, by its dates. -/
  equityCurve : List (D×Value K)

/-- `OptimizationResult`, without its time. -/
structure OptimizationResult (K : Type*) where
  /-- `method`. -/
  method : String
  /-- `risk_profile`. -/
  riskProfile : String
  /-- `old_weights`. -/
  oldWeights : Weights K
  /-- `new_weights`. -/
  newWeights : Weights K
  /-- `strategy_metrics`. -/
  strategyMetrics : Dict String (Metrics K)
  /-- `optimization_score`. -/
  optimizationScore : Value K
  /-- `backtest_period`. -/
  backtestPeriod : String

/-- What the optimizer takes from the language and from `numpy`. -/
structure World (K : Type*) where
  /-- `str.upper`. -/
  upper : String→String
  /-- `np.linalg.inv`; `none` is `LinAlgError`. -/
  inv : List (List (Value K))→Option (List (List (Value K)))

section Raw

variable {D K : Type*} [Field K]

/-- `_extract_metrics`. -/
def extractMetrics (results : List (BacktestResult D K)) : Dict String (Metrics K) :=
  results.foldl (fun metrics r => metrics.set r.strategyName r.metrics) .empty

/-- The sum of some floats. -/
def total [LinearOrder K] (values : List (Value K)) : Value K := values.foldl (· + ·) (.number 0)

/-- One part of `n`, of one at least. -/
def part (n : ℕ) : Value K := .number (1/((max n 1 : ℕ) : K))

variable [LinearOrder K]

/-- Scores as shares of their sum, or equal parts if there is none. -/
def sharesOf (scores : Dict String (Value K)) : Dict String (Value K) :=
  if (total scores.values).below (.number 1e-10)=true then
    scores.mapItems fun _ _ => part scores.items.length
  else scores.mapItems fun _ v => v/total scores.values

/-- `_sharpe_weights`. -/
def sharpeWeights (metrics : Dict String (Metrics K)) : Dict String (Value K) :=
  sharesOf (metrics.mapItems fun _ m => m.sharpe.pyMax (.number 0))

/-- `_risk_adjusted_weights`. -/
def riskAdjustedWeights (metrics : Dict String (Metrics K)) : Dict String (Value K) :=
  sharesOf (metrics.mapItems fun _ m =>
    m.sharpe.pyMax (.number 0)*(.number 1+m.calmar.pyMax (.number 0))*
      (.number 1-m.mdd.abs.pyMin (.number 0.99)))

/-- `daily_ret` of an equity curve. -/
def dailyReturns (curve : List (D×Value K)) : List (D×Value K) :=
  (List.zip (curve.map Prod.fst) (pctChange 1 (curve.map Prod.snd))).filter fun row => 
    row.2≠.missing

/-- Equal parts for all strategies. -/
def equalParts (results : List (BacktestResult D K)) : Dict String (Value K) :=
  results.foldl (fun weights r => weights.set r.strategyName (part results.length)) .empty

/-- The covariance of two columns. -/
def covariance (xs ys : List (Value K)) : Value K :=
  let n : Value K := .number (xs.length : K)
  let meanX := total xs/n
  let meanY := total ys/n
  total (List.zipWith (fun x y => (x-meanX)*(y-meanY)) xs ys)/(n-.number 1)

/-- The weights of a covariance matrix with the least variance; those below zero are left
out. -/
def leastVariance (world : World K) (names : List String) (cov : List (List (Value K))) :
    List (String×Value K) :=
  let n := names.length
  let shifted := cov.mapIdx fun i row => row.mapIdx fun j c =>
    if i=j then c+.number 1e-8 else c+.number 0
  match world.inv shifted with
  | none => names.map fun name => (name,part n)
  | some inverse =>
    let sums := inverse.map total
    let scaled := sums.map fun w => w/total sums
    let kept := scaled.map fun w => w.npMaximum (.number 0)
    if (total kept).below (.number 1e-10)=true then names.map fun name => (name,part n)
    else List.zip names (kept.map fun w => w/total kept)

variable [DecidableEq D]

/-- `_min_variance_weights`. -/
def minVarianceWeights (world : World K) (results : List (BacktestResult D K)) :
    Dict String (Value K) :=
  let returnsDict : Dict String (List (D×Value K)) := results.foldl (fun d r =>
    if 1< r.equityCurve.length then d.set r.strategyName (dailyReturns r.equityCurve) else d) .empty
  if returnsDict.items.length<2 then equalParts results
  else
    let dates := ((returnsDict.values.head?.getD []).map Prod.fst).filter fun date =>
      returnsDict.values.all fun column => decide (date∈column.map Prod.fst)
    if dates.length<10 then equalParts results
    else
      let columns := returnsDict.values.map fun column => dates.map fun date =>
        ((column.find? fun row => row.1=date).map Prod.snd).getD .missing
      let cov := columns.map fun xs => columns.map fun ys => covariance xs ys
      (leastVariance world returnsDict.keys cov).foldl (fun d item => d.set item.1 item.2) .empty

end Raw

section Bounds

variable {K : Type*} [Field K] [LinearOrder K]

/-- `_apply_constraints`. -/
def applyConstraints (world : World K) (weights : Dict String (Value K)) : Weights K :=
  weights.mapItems fun name w =>
    if w.below (.number 1e-6)=true then 0
    else
      let capped := w.fillnaClip 0.40 0.05 0.40
      if "SENTIMENT".toList<:+:(world.upper name).toList then min capped 0.25 else capped

/-- `_smooth_weights`; the order of the set of strategies is that of the old weights first. -/
def smoothWeights (oldWeights newWeights : Weights K) : Weights K :=
  let union := oldWeights.update newWeights
  union.mapItems fun k _ => 
    0.3*(newWeights.get? k).getD 0+(1-0.3)*(oldWeights.get? k).getD 0

variable [FloorRing K]

/-- `_normalize`. -/
def normalize (weights : Weights K) : Weights K :=
  let active := weights.filter fun _ v => decide (1e-6<v)
  let total := active.values.sum
  if total<1e-10 then
    if active.items.isEmpty=true then weights
    else active.mapItems fun _ _ => round4 (1/(active.items.length : K))
  else weights.mapItems fun _ v => if 1e-6<v then round4 (v/total) else 0

/-- `period`: from the first start to the last end. -/
def backtestPeriod {D : Type*} (results : List (BacktestResult D K)) : String :=
  let dates := (results.map BacktestResult.startDate).filter fun d => d≠""
  let endDates := (results.map BacktestResult.endDate).filter fun d => d≠""
  match dates.min?,endDates.max? with
  | some first,some last => first++" ~ "++last
  | _,_ => ""

variable {D : Type*} [DecidableEq D]

/-- `final_weights` of `optimize`. -/
def optimized (world : World K) (results : List (BacktestResult D K)) (method : String)
    (currentWeights : Option (Weights K)) : Weights K :=
  let metrics := extractMetrics results
  let rawWeights :=
    if method="risk_adjusted" then riskAdjustedWeights metrics
    else if method="min_variance" then minVarianceWeights world results
    else sharpeWeights metrics
  let constrained := applyConstraints world rawWeights
  normalize (match truthy currentWeights with
    | some current => smoothWeights current constrained
    | none => constrained)

/-- `opt_score`. -/
def optScore (finalWeights : Weights K) (metrics : Dict String (Metrics K)) : Value K :=
  total (finalWeights.items.map fun item =>
    .number item.2*((metrics.get? item.1).map Metrics.sharpe).getD (.number 0))

/-- `optimize`. -/
def optimize (world : World K) (riskProfile : RiskProfile) (results : List (BacktestResult D K))
    (method : String) (currentWeights : Option (Weights K)) : OptimizationResult K :=
  let oldWeights := currentWeights.getD .empty
  if results.isEmpty=true then
    ⟨method,riskProfile.value,oldWeights,oldWeights,.empty,.number 0,""⟩
  else
    let metrics := extractMetrics results
    let finalWeights := optimized world results method currentWeights
    ⟨method,riskProfile.value,oldWeights,finalWeights,metrics,(optScore finalWeights metrics).round4,
      backtestPeriod results⟩

/-- `optimize_and_apply` of an optimizer with a profile of its own. -/
def optimizeAndApply (world : World K) (riskProfile : RiskProfile) (s : System K) (h : Health)
    (now : ℚ) (results : List (BacktestResult D K)) (method : String) :
    OptimizationResult K×System K :=
  let loaded := s.getWeights h now
  let result := optimize world riskProfile results method (some loaded.1)
  if result.newWeights.items.isEmpty=false ∧ result.strategyMetrics.items.isEmpty=false then
    let performances := result.strategyMetrics.mapItems fun _ m => m.sharpe
    let s' := (loaded.2.recalibrateWeights h now performances "sharpe").2
    (result,{ s' with weights := some result.newWeights })
  else (result,loaded.2)

end Bounds

end Aqts.WeightOptimizer
