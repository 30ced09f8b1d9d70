import Mathlib.Data.List.ReduceOption
import Mathlib.Data.Rat.Floor
import Mathlib.Order.WithBot
import Aqts.HalfEvenRounding
import Aqts.PandasSeries
import Aqts.OosGates
import Aqts.OosJobs
import Aqts.WalkForwardWindows

/-!
# Walk-forward runs

`WalkForwardEngine.run` and the gate status of its runs. Each window of the split is tested
with `BacktestEngine`; a test that raises, or finds no data, leaves the zeros of a new
`OOSWindowResult`. The results are aggregated and go through the gates.

Slices of the frames, the backtest of a slice and the metrics of its regimes are the
`Backend`. Numbers are exact.
-/

namespace Aqts.WalkForwardRuns

open Dictionary OosGates OosJobs PandasSeries WalkForwardWindows

/-- `BacktestResult`, of what a window result takes. -/
structure BacktestResult (K : Type*) where
  /-- `cagr`. -/
  cagr : K
  /-- `mdd`. -/
  mdd : K
  /-- `sharpe_ratio`. -/
  sharpeRatio : K
  /-- `sortino_ratio`. -/
  sortinoRatio : K
  /-- `calmar_ratio`. -/
  calmarRatio : K
  /-- `total_return`. -/
  totalReturn : K
  /-- `total_trades`. -/
  totalTrades : ℤ
  /-- `win_rate`. -/
  winRate : K
  /-- `profit_factor`. -/
  profitFactor : K
  /-- `equity_curve`. -/
  equityCurve : List K
deriving DecidableEq

/-- What a run uses of pandas, of `BacktestEngine` and of `RegimeAnalyzer`; an exception is
its text. -/
structure Backend (D S P M K : Type*) where
  /-- `signals.index`. -/
  index : S→List D
  /-- `str(date.date())`. -/
  dateText : D→String
  /-- `signals.loc[start:end]`. -/
  locSignals : S→D→D→Except String S
  /-- `prices.loc[start:end]`. -/
  locPrices : P→D→D→Except String P
  /-- `len(test_signals)`. -/
  signalsLength : S→ℕ
  /-- `len(test_prices)`. -/
  pricesLength : P→ℕ
  /-- `BacktestEngine(BacktestConfig()).run`, by the name of the strategy. -/
  backtest : String→S→P→Except String (BacktestResult K)
  /-- The body of `_compute_regime_metrics`. -/
  regimeMetrics : BacktestResult K→M→Except String (Dict String (Dict String K))
  /-- `str` of an `IndexError`. -/
  indexText : IndexError→String

/-- `OOSRunType`. -/
inductive OosRunType
  /-- `OOS`. -/
  | oos
  /-- `SHADOW`. -/
  | shadow
deriving DecidableEq

/-- The arguments of `run`, with the id, the hash of the data and the readings of the clock
that it takes. -/
structure Request (S P M T : Type*) where
  /-- `run_id`. -/
  runId : String
  /-- `strategy_name`. -/
  strategyName : String
  /-- `signals`. -/
  signals : S
  /-- `prices`. -/
  prices : P
  /-- `train_months`. -/
  trainMonths : ℤ
  /-- `test_months`. -/
  testMonths : ℤ
  /-- `run_type`. -/
  runType : OosRunType
  /-- `strategy_version`. -/
  strategyVersion : String
  /-- `market_data`. -/
  marketData : Option M
  /-- `data_hash`. -/
  dataHash : String
  /-- The clock at the start. -/
  startedAt : T
  /-- The clock at the end. -/
  endedAt : T

/-- The numbers over all windows. -/
structure Aggregate (K : Type*) where
  /-- `avg_sharpe`. -/
  avgSharpe : K
  /-- `avg_mdd`. -/
  avgMdd : K
  /-- `avg_cagr`. -/
  avgCagr : K
  /-- `avg_calmar`. -/
  avgCalmar : K
  /-- `worst_mdd`. -/
  worstMdd : K
  /-- `sharpe_variance`. -/
  sharpeVariance : K
  /-- `passed_windows`. -/
  passedWindows : ℕ

/-- `OOSRun`. -/
structure OosRun (T K : Type*) where
  /-- `run_id`. -/
  runId : String
  /-- `run_type`. -/
  runType : OosRunType
  /-- `status`. -/
  status : OosStatus
  /-- `strategy_version`. -/
  strategyVersion : String
  /-- `data_version`. -/
  dataVersion : String
  /-- `train_months`. -/
  trainMonths : ℤ
  /-- `test_months`. -/
  testMonths : ℤ
  /-- `overall_start`. -/
  overallStart : String
  /-- `overall_end`. -/
  overallEnd : String
  /-- `started_at`. -/
  startedAt : Option T
  /-- `ended_at`. -/
  endedAt : Option T
  /-- `total_windows`. -/
  totalWindows : ℕ
  /-- The numbers over all windows. -/
  aggregate : Aggregate K
  /-- `gate_a_result`. -/
  gateAResult : String
  /-- `gate_b_result`. -/
  gateBResult : String
  /-- `gate_c_result`. -/
  gateCResult : String
  /-- `overall_gate`. -/
  overallGate : String
  /-- `gate_reasons`. -/
  gateReasons : List String
  /-- `windows`. -/
  windows : List (OosWindowResult K)
  /-- `error_message`. -/
  errorMessage : String
  /-- `error_code`. -/
  errorCode : String

/-- An entry of `gate_history`. -/
structure GateEntry (T : Type*) where
  /-- `run_id`. -/
  runId : String
  /-- `status`. -/
  status : OosStatus
  /-- `overall_gate`. -/
  overallGate : String
  /-- `started_at`. -/
  startedAt : Option T

/-- What `get_gate_status` returns; without runs there is no latest one. -/
structure GateStatus (T : Type*) where
  /-- `total_runs`. -/
  totalRuns : ℕ
  /-- `latest_gate`. -/
  latestGate : String
  /-- `latest_run_id`. -/
  latestRunId : Option String
  /-- `latest_status`. -/
  latestStatus : Option OosStatus
  /-- `deploy_allowed`. -/
  deployAllowed : Bool
  /-- `gate_history`. -/
  gateHistory : List (GateEntry T)

section Functions

universe u

variable {D M T : Type*} {S P K : Type u} [Field K] [LinearOrder K]

/-- The test of a window: `none` if there is no data to test on. -/
def testResult (b : Backend D S P M K) (request : Request S P M T) (windowIndex : ℕ)
    (window : Window D) : Except String (Option (BacktestResult K)) := do
  let testSignals ← b.locSignals request.signals window.testStart window.testEnd
  let testPrices ← b.locPrices request.prices window.testStart window.testEnd
  if b.signalsLength testSignals=0 ∨ b.pricesLength testPrices=0 then
    pure none
  else do
    let result ← b.backtest (request.strategyName++"_oos_w"++toString windowIndex) testSignals
      testPrices
    pure (some result)

/-- `regime_metrics` of a result: `_compute_regime_metrics`, if it is called. -/
def regimeMetricsOf (b : Backend D S P M K) (request : Request S P M T)
    (result : BacktestResult K) : Dict String (Dict String K) :=
  match request.marketData with
  | none => .empty
  | some marketData =>
    if 10< result.equityCurve.length then
      match b.regimeMetrics result marketData with
      | .ok metrics => metrics
      | .error _ => .empty
    else .empty

/-- `_run_single_window`. -/
def runSingleWindow (b : Backend D S P M K) (request : Request S P M T) (windowIndex : ℕ)
    (window : Window D) : OosWindowResult K :=
  let windowResult : OosWindowResult K :=
    ⟨windowIndex,b.dateText window.trainStart,b.dateText window.trainEnd,
      b.dateText window.testStart,b.dateText window.testEnd,0,0,0,0,0,0,0,0,0,.empty⟩
  match testResult b request windowIndex window with
  | .ok (some result) =>
    {windowResult with
      cagr := result.cagr, mdd := result.mdd, sharpeRatio := result.sharpeRatio,
      sortinoRatio := result.sortinoRatio, calmarRatio := result.calmarRatio,
      totalReturn := result.totalReturn, totalTrades := result.totalTrades,
      winRate := result.winRate, profitFactor := result.profitFactor,
      regimeMetrics := regimeMetricsOf b request result}
  | .ok none => windowResult
  | .error _ => windowResult

/-- `np.var`. -/
def variance (xs : List K) : K := mean (xs.map fun x => (x-mean xs)*(x-mean xs))

/-- `round(x, digits)`, by the power of ten. -/
def roundTo [FloorRing K] (power x : K) : K := (roundHalfEven (x*power) : K)/power

/-- `round(x, 4)`. -/
def round4 [FloorRing K] (x : K) : K := roundTo 10000.0 x

/-- `round(x, 6)`. -/
def round6 [FloorRing K] (x : K) : K := roundTo 1000000.0 x

/-- A run without results: the defaults of `OOSRun`. -/
def Aggregate.zero : Aggregate K := ⟨0,0,0,0,0,0,0⟩

/-- `min` of some numbers; there is one. -/
def least (xs : List K) : K := xs.min?.getD 0

/-- `_aggregate_results`. -/
def aggregateResults [FloorRing K] (windows : List (OosWindowResult K)) : Aggregate K :=
  if windows=[] then .zero
  else
    let sharpes := windows.map fun w => w.sharpeRatio
    let mdds := windows.map fun w => w.mdd
    let cagrs := windows.map fun w => w.cagr
    let calmars := windows.map fun w => w.calmarRatio
    ⟨round4 (mean sharpes),round4 (mean mdds),round4 (mean cagrs),
      round4 (mean calmars),round4 (least mdds),round6 (variance sharpes),
      windows.countP fun w => 0< w.totalReturn⟩

/-- The run before its first step. -/
def Request.newRun (request : Request S P M T) : OosRun T K where
  runId := request.runId
  runType := request.runType
  status := .running
  strategyVersion := request.strategyVersion
  dataVersion := request.dataHash
  trainMonths := request.trainMonths
  testMonths := request.testMonths
  overallStart := ""
  overallEnd := ""
  startedAt := some request.startedAt
  endedAt := none
  totalWindows := 0
  aggregate := .zero
  gateAResult := ""
  gateBResult := ""
  gateCResult := ""
  overallGate := ""
  gateReasons := []
  windows := []
  errorMessage := ""
  errorCode := ""

/-- The status for a verdict. -/
def statusOf (overall : GateResult) : OosStatus :=
  match overall with
  | .pass => .pass
  | .review => .review
  | .fail => .fail

/-- What the gates are given. -/
def evaluationOf [FloorRing K] (windows : List (OosWindowResult K)) : Evaluation K :=
  let aggregate := aggregateResults windows
  ⟨windows,aggregate.avgSharpe,aggregate.avgCalmar,aggregate.worstMdd,aggregate.sharpeVariance⟩

/-- `run` from the windows of the split on. -/
def runWindows [FloorRing K] (b : Backend D S P M K) (fmt : String→K→String)
    (thresholds : Dict String K) (request : Request S P M T) (windows : List (Window D)) :
    OosRun T K :=
  let windowResults := windows.mapIdx (runSingleWindow b request)
  let gateResult := evaluateAll fmt thresholds (evaluationOf windowResults)
  {(request.newRun : OosRun T K) with
    status := statusOf gateResult.overall,
    overallStart := ((b.index request.signals).head?.map b.dateText).getD "",
    overallEnd := ((b.index request.signals).getLast?.map b.dateText).getD "",
    endedAt := some request.endedAt,
    totalWindows := windows.length,
    aggregate := aggregateResults windowResults,
    gateAResult := gateResult.gateA.result.value,
    gateBResult := gateResult.gateB.result.value,
    gateCResult := gateResult.gateC.result.value,
    overallGate := gateResult.overall.value,
    gateReasons := gateResult.allReasons,
    windows := windowResults}

/-- `run`, if the split ends with this fuel. -/
def run [FloorRing K] (b : Backend D S P M K) (fmt : String→K→String)
    (thresholds : Dict String K) (fuel : ℕ) (request : Request S P M T) : Option (OosRun T K) :=
  match splitWindows fuel (b.index request.signals) request.trainMonths request.testMonths with
  | none => none
  | some (.error e) =>
    some {(request.newRun : OosRun T K) with
      status := .error, errorMessage := b.indexText e, errorCode := "EXECUTION_ERROR",
      endedAt := some request.endedAt}
  | some (.ok windows) =>
    if windows.length=0 then
      some {(request.newRun : OosRun T K) with
        status := .error, errorMessage := "Insufficient data for walk-forward split",
        errorCode := "INSUFFICIENT_DATA", endedAt := some request.endedAt}
    else some (runWindows b fmt thresholds request windows)

/-- The key that runs are sorted by; a run that has not started is before all others. -/
def OosRun.startKey (r : OosRun T K) : WithBot T := r.startedAt

/-- The runs, the latest start first. -/
def sortedRuns [LinearOrder T] (runs : Dict String (OosRun T K)) : List (OosRun T K) :=
  runs.values.insertionSort fun r r' => r'.startKey≤ r.startKey

/-- `get_latest`. -/
def getLatest [LinearOrder T] (runs : Dict String (OosRun T K)) : Option (OosRun T K) :=
  (sortedRuns runs).head?

/-- `get_gate_status`. -/
def getGateStatus [LinearOrder T] (runs : Dict String (OosRun T K)) : GateStatus T :=
  match getLatest runs with
  | none => ⟨0,"NO_DATA",none,none,false,[]⟩
  | some latest =>
    ⟨runs.values.length,if latest.overallGate="" then "PENDING" else latest.overallGate,
      some latest.runId,some latest.status,decide (latest.overallGate="PASS"),
      ((sortedRuns runs).take 5).map fun r => ⟨r.runId,r.status,r.overallGate,r.startedAt⟩⟩

end Functions

section Outcomes

universe u

variable {D M T : Type*} {S P K : Type u} [Field K] [LinearOrder K]

/-- What the test of a window gives, if it was evaluated. -/
def windowOutcome (b : Backend D S P M K) (request : Request S P M T) (windowIndex : ℕ)
    (window : Window D) : Option (BacktestResult K) :=
  match testResult b request windowIndex window with
  | .ok outcome => outcome
  | .error _ => none

/-- What the tests of all windows give: `none` for a window that was not evaluated. -/
def outcomes (b : Backend D S P M K) (fuel : ℕ) (request : Request S P M T) :
    List (Option (BacktestResult K)) :=
  match splitWindows fuel (b.index request.signals) request.trainMonths request.testMonths with
  | some (.ok windows) => windows.mapIdx (windowOutcome b request)
  | some (.error _) => []
  | none => []

/-- A number of each window, which is zero for a window that was not evaluated. -/
def scores (f : BacktestResult K→K) (results : List (Option (BacktestResult K))) : List K :=
  results.map fun outcome => (outcome.map f).getD 0

/-- A criterion of the gates that the outcomes miss, with zeros for what was not evaluated. -/
inductive CountsAgainst [FloorRing K] (thresholds : Dict String K)
    (regimes : BacktestResult K→Dict String (Dict String K))
    (results : List (Option (BacktestResult K))) : Prop
  /-- The worst drawdown is over its limit. -/
  | mdd (h : threshold thresholds "mdd_hard_limit" 0.25<
      |round4 (least (scores (fun r => r.mdd) results))|)
  /-- The average Sharpe ratio is too low. -/
  | sharpe (h : round4 (mean (scores (fun r => r.sharpeRatio) results))<
      threshold thresholds "min_sharpe_ratio" 0.3)
  /-- The average Calmar ratio is too low. -/
  | calmar (h : round4 (mean (scores (fun r => r.calmarRatio) results))<
      threshold thresholds "min_calmar_ratio" 0.2)
  /-- A regime of an evaluated window has a drawdown over its limit. -/
  | regime (result : BacktestResult K) (hresult : some result∈results)
      (item : String×Dict String K) (hitem : item∈(regimes result).items)
      (h : threshold thresholds "regime_worst_mdd" 0.30< regimeMdd item.2)
  /-- The Sharpe ratios vary too much. -/
  | variance (h : threshold thresholds "max_window_variance" 0.5<
      round6 (variance (scores (fun r => r.sharpeRatio) results)))
  /-- Too few windows have a positive return. -/
  | positive (h : ((scores (fun r => r.totalReturn) results).countP (fun x => 0< x) : K)/
      (results.length : K)< threshold thresholds "min_positive_windows_ratio" 0.5)

/-- What the results of the evaluated windows miss when all `n` windows are counted: sums over
the evaluated ones, divided by `n`. -/
inductive MissedByEvaluated [FloorRing K] (thresholds : Dict String K)
    (regimes : BacktestResult K→Dict String (Dict String K)) (evaluated : List (BacktestResult K))
    (n : ℕ) : Prop
  /-- An evaluated window fell further than the limit, or the limit is negative. -/
  | mdd (limit : K) (hlimit : limit=(thresholds.get? "mdd_hard_limit").getD 0.25)
      (h : limit<0 ∨ ∃ r∈evaluated,limit< -round4 r.mdd)
  /-- The Sharpe ratios of the evaluated windows are too low for all windows. -/
  | sharpe (h : round4 ((evaluated.map fun r => r.sharpeRatio).sum/n)<
      (thresholds.get? "min_sharpe_ratio").getD 0.3)
  /-- The Calmar ratios of the evaluated windows are too low for all windows. -/
  | calmar (h : round4 ((evaluated.map fun r => r.calmarRatio).sum/n)<
      (thresholds.get? "min_calmar_ratio").getD 0.2)
  /-- A regime of an evaluated window fell further than its limit. -/
  | regime (r : BacktestResult K) (hr : r∈evaluated) (item : String×Dict String K)
      (hitem : item∈(regimes r).items)
      (h : (thresholds.get? "regime_worst_mdd").getD 0.30< |item.2.value "max_drawdown"|)
  /-- The Sharpe ratios of the evaluated windows vary too much around their share of the mean. -/
  | variance (h : (thresholds.get? "max_window_variance").getD 0.5<
      round6 ((evaluated.map fun r => r.sharpeRatio*r.sharpeRatio).sum/n-
        (evaluated.map fun r => r.sharpeRatio).sum/n*
          ((evaluated.map fun r => r.sharpeRatio).sum/n)))
  /-- Too few windows were evaluated with a positive return. -/
  | positive (h : (evaluated.countP (fun r => 0< r.totalReturn) : K)/(n : K)<
      (thresholds.get? "min_positive_windows_ratio").getD 0.5)

end Outcomes

section Evaluated

universe u

variable {K : Type u} [Field K] [LinearOrder K]

omit [LinearOrder K] in
/-- A window that was not evaluated adds nothing to a sum of products of its numbers. -/
theorem sum_scores (f : BacktestResult K→K) (g : K→K) (hg : g 0=0)
    (results : List (Option (BacktestResult K))) :
    ((scores f results).map g).sum=((results.reduceOption).map fun r => g (f r)).sum := by
  unfold scores
  induction results with
  | nil => rfl
  | cons outcome rest ih =>
    cases outcome with
    | none =>
      rw [List.reduceOption_cons_of_none,List.map_cons,List.map_cons,List.sum_cons,ih]
      exact (congrArg (·+_) hg).trans (zero_add _)
    | some r =>
      rw [List.reduceOption_cons_of_some,List.map_cons,List.map_cons,List.sum_cons,ih,
        List.map_cons,List.sum_cons]
      rfl

/-- Nor does it count as a positive number. -/
theorem countP_scores (f : BacktestResult K→K) (results : List (Option (BacktestResult K))) :
    (scores f results).countP (fun x => 0<x)=(results.reduceOption).countP (fun r => 0<f r) := by
  unfold scores
  induction results with
  | nil => rfl
  | cons outcome rest ih =>
    cases outcome with
    | none =>
      rw [List.reduceOption_cons_of_none,List.map_cons,List.countP_cons_of_neg (by simp),ih]
    | some r =>
      rw [List.reduceOption_cons_of_some,List.map_cons,List.countP_cons,List.countP_cons,ih]
      rfl

omit [LinearOrder K] in
/-- The mean of the numbers of all windows. -/
theorem mean_scores (f : BacktestResult K→K) (results : List (Option (BacktestResult K))) :
    mean (scores f results)=((results.reduceOption).map f).sum/results.length := by
  have hsum := sum_scores f id rfl results
  rw [List.map_id] at hsum
  have hlength : (scores f results).length=results.length := List.length_map _
  unfold mean
  rw [← List.sum_eq_foldl,hsum,hlength]
  rfl

omit [LinearOrder K] in
/-- The variance is the mean of the squares without the square of the mean. -/
theorem variance_eq [CharZero K] {xs : List K} (hsome : xs≠[]) :
    variance xs=(xs.map fun x => x*x).sum/xs.length-xs.sum/xs.length*(xs.sum/xs.length) := by
  have hlength : (xs.length : K)≠0 := by
    exact_mod_cast fun h => hsome (List.length_eq_zero_iff.mp h)
  have hmean : mean xs=xs.sum/xs.length := by
    unfold mean
    rw [← List.sum_eq_foldl]
  have hsquares : ∀ (c : K) (ys : List K),(ys.map fun x => (x-c)*(x-c)).sum=
      (ys.map fun x => x*x).sum-2*c*ys.sum+ys.length*(c*c) := by
    intro c ys
    induction ys with
    | nil => simp
    | cons y ys ih =>
      rw [List.map_cons,List.map_cons,List.sum_cons,List.sum_cons,List.sum_cons,ih,
        List.length_cons]
      push_cast
      ring
  unfold variance
  rw [hmean]
  generalize hc : xs.sum/(xs.length : K)=c
  have htotal : xs.sum=c*xs.length := by rw [← hc,div_mul_cancel₀ _ hlength]
  unfold mean
  rw [← List.sum_eq_foldl,hsquares,List.length_map,htotal]
  field_simp
  ring

variable [IsStrictOrderedRing K] [FloorRing K]

/-- Decimals keep the order. -/
theorem round4_mono {x y : K} (h : x≤y) : round4 x≤ round4 y := by
  unfold round4 roundTo
  refine div_le_div_of_nonneg_right ?_ (by norm_num)
  exact_mod_cast roundHalfEven_mono (mul_le_mul_of_nonneg_right h (by norm_num))

/-- Zero has no decimals. -/
theorem round4_zero : round4 (0 : K)=0 := by
  have hzero := roundHalfEven_intCast (K := K) 0
  rw [Int.cast_zero] at hzero
  unfold round4 roundTo
  rw [zero_mul,hzero,Int.cast_zero,zero_div]

/-- With a window that was not evaluated the worst number is the least of those of the others, or
zero. -/
theorem lt_abs_least_iff (f : BacktestResult K→K) {results : List (Option (BacktestResult K))}
    (hnone : none∈results) (limit : K) : limit< |round4 (least (scores f results))| ↔
      limit<0 ∨ ∃ r∈results.reduceOption,limit< -round4 (f r) := by
  have hzero : (0 : K)∈scores f results := List.mem_map.mpr ⟨none,hnone,rfl⟩
  obtain ⟨worst,hworst⟩ := Option.isSome_iff_exists.mp
    (List.isSome_min?_of_ne_nil (List.ne_nil_of_mem hzero))
  obtain ⟨hmem,hleast⟩ := List.min?_eq_some_iff.mp hworst
  have hnonpos : round4 worst≤0 := (round4_mono (hleast 0 hzero)).trans_eq round4_zero
  unfold least
  rw [hworst,Option.getD_some,abs_of_nonpos hnonpos]
  constructor
  · intro h
    obtain ⟨outcome,houtcome,rfl⟩ := List.mem_map.mp hmem
    cases outcome with
    | none =>
      have hworst : round4 (0 : K)=0 := round4_zero
      left
      rwa [Option.map_none,Option.getD_none,hworst,neg_zero] at h
    | some r => exact Or.inr ⟨r,List.reduceOption_mem_iff.mpr houtcome,h⟩
  · rintro (h | ⟨r,hr,h⟩)
    · exact h.trans_le (neg_nonneg.mpr hnonpos)
    · have hbelow := hleast (f r) (List.mem_map.mpr ⟨some r,List.reduceOption_mem_iff.mp hr,rfl⟩)
      exact h.trans_le (neg_le_neg (round4_mono hbelow))

/-- With a window that was not evaluated the criteria that the outcomes miss are those that the
evaluated windows miss. -/
theorem countsAgainst_iff (thresholds : Dict String K)
    (regimes : BacktestResult K→Dict String (Dict String K))
    {results : List (Option (BacktestResult K))} (hnone : none∈results) :
    CountsAgainst thresholds regimes results ↔
      MissedByEvaluated thresholds regimes results.reduceOption results.length := by
  have hscores : scores (fun r => r.sharpeRatio) results≠[] :=
    fun h => absurd (List.map_eq_nil_iff.mp h) (List.ne_nil_of_mem hnone)
  have hlength : (scores (fun r => r.sharpeRatio) results).length=results.length :=
    List.length_map _
  have hsum := sum_scores (fun r => r.sharpeRatio) id rfl results
  have hsquares := sum_scores (fun r => r.sharpeRatio) (fun x => x*x) (zero_mul 0) results
  have hvariance := variance_eq hscores
  rw [List.map_id] at hsum
  rw [hsquares,hsum,hlength] at hvariance
  constructor
  · rintro (h | h | h | ⟨r,hr,item,hitem,h⟩ | h | h)
    · exact .mdd _ rfl ((lt_abs_least_iff _ hnone _).mp h)
    · exact .sharpe (mean_scores (fun r => r.sharpeRatio) results ▸ h)
    · exact .calmar (mean_scores (fun r => r.calmarRatio) results ▸ h)
    · exact .regime r (List.reduceOption_mem_iff.mpr hr) item hitem h
    · exact .variance (hvariance ▸ h)
    · exact .positive (countP_scores (fun r => r.totalReturn) results ▸ h)
  · rintro (⟨limit,rfl,h⟩ | h | h | ⟨r,hr,item,hitem,h⟩ | h | h)
    · exact .mdd ((lt_abs_least_iff _ hnone _).mpr h)
    · exact .sharpe ((mean_scores (fun r => r.sharpeRatio) results).symm ▸ h)
    · exact .calmar ((mean_scores (fun r => r.calmarRatio) results).symm ▸ h)
    · exact .regime r (List.reduceOption_mem_iff.mp hr) item hitem h
    · exact .variance (hvariance.symm ▸ h)
    · exact .positive ((countP_scores (fun r => r.totalReturn) results).symm ▸ h)

end Evaluated

section Windows

universe u

variable {D M T : Type*} {S P K : Type u} [Field K] [LinearOrder K]

omit [LinearOrder K] in
/-- A window result has the numbers of the outcome, or zeros. -/
theorem runSingleWindow_scores (b : Backend D S P M K) (request : Request S P M T) (i : ℕ)
    (w : Window D) :
    (runSingleWindow b request i w).mdd=
        ((windowOutcome b request i w).map fun r => r.mdd).getD 0 ∧
      (runSingleWindow b request i w).sharpeRatio=
        ((windowOutcome b request i w).map fun r => r.sharpeRatio).getD 0 ∧
      (runSingleWindow b request i w).calmarRatio=
        ((windowOutcome b request i w).map fun r => r.calmarRatio).getD 0 ∧
      (runSingleWindow b request i w).totalReturn=
        ((windowOutcome b request i w).map fun r => r.totalReturn).getD 0 := by
  unfold runSingleWindow windowOutcome
  cases testResult b request i w with
  | error text => exact ⟨rfl,rfl,rfl,rfl⟩
  | ok outcome =>
    cases outcome with
    | none => exact ⟨rfl,rfl,rfl,rfl⟩
    | some result => exact ⟨rfl,rfl,rfl,rfl⟩

omit [LinearOrder K] in
/-- A window result has the regimes of the outcome, or none. -/
theorem runSingleWindow_regimes (b : Backend D S P M K) (request : Request S P M T) (i : ℕ)
    (w : Window D) :
    (runSingleWindow b request i w).regimeMetrics=
      ((windowOutcome b request i w).map (regimeMetricsOf b request)).getD .empty := by
  unfold runSingleWindow windowOutcome
  cases testResult b request i w with
  | error text => rfl
  | ok outcome =>
    cases outcome with
    | none => rfl
    | some result => rfl

omit [LinearOrder K] in
/-- A number of the window results is one of the outcomes, if it is for each window. -/
theorem map_runSingleWindow (b : Backend D S P M K) (request : Request S P M T)
    {g : OosWindowResult K→K} {f : BacktestResult K→K}
    (h : ∀ i w,g (runSingleWindow b request i w)=((windowOutcome b request i w).map f).getD 0)
    (windows : List (Window D)) :
    (windows.mapIdx (runSingleWindow b request)).map g=
      scores f (windows.mapIdx (windowOutcome b request)) := by
  unfold scores
  refine List.ext_getElem ?_ fun i hi hi' => ?_
  · rw [List.length_map,List.length_mapIdx,List.length_map,List.length_mapIdx]
  · rw [List.getElem_map,List.getElem_mapIdx,List.getElem_map,List.getElem_mapIdx]
    exact h i _

/-- The regimes over a limit are those of the evaluated windows. -/
theorem regimesOver_runSingleWindow (b : Backend D S P M K) (request : Request S P M T)
    (limit : K) (windows : List (Window D)) :
    regimesOver limit (windows.mapIdx (runSingleWindow b request))≠[] ↔
      ∃ result,some result∈windows.mapIdx (windowOutcome b request) ∧
        ∃ item∈(regimeMetricsOf b request result).items,limit< regimeMdd item.2 := by
  rw [ne_eq,regimesOver_eq_nil]
  push Not
  constructor
  · rintro ⟨w,hw,item,hitem,hover⟩
    obtain ⟨i,hi,rfl⟩ := List.mem_mapIdx.mp hw
    rw [runSingleWindow_regimes] at hitem
    cases houtcome : windowOutcome b request i windows[i] with
    | none =>
      rw [houtcome] at hitem
      exact absurd hitem List.not_mem_nil
    | some result =>
      rw [houtcome] at hitem
      exact ⟨result,List.mem_mapIdx.mpr ⟨i,hi,houtcome⟩,item,hitem,hover⟩
  · rintro ⟨result,hresult,item,hitem,hover⟩
    obtain ⟨i,hi,houtcome⟩ := List.mem_mapIdx.mp hresult
    refine ⟨_,List.mem_mapIdx.mpr ⟨i,hi,rfl⟩,item,?_,hover⟩
    rw [runSingleWindow_regimes,houtcome]
    exact hitem

/-- The ratio of windows with a positive return is the one of the outcomes. -/
theorem positiveRatio_runSingleWindow (b : Backend D S P M K) (request : Request S P M T)
    (windows : List (Window D)) :
    positiveRatio (windows.mapIdx (runSingleWindow b request))=
      ((scores (fun r => r.totalReturn) (windows.mapIdx (windowOutcome b request))).countP
        (fun x => 0< x) : K)/((windows.mapIdx (windowOutcome b request)).length : K) := by
  have hreturn := map_runSingleWindow b request
    (fun i w => (runSingleWindow_scores b request i w).2.2.2) windows
  unfold positiveRatio
  rw [←hreturn,List.countP_map,List.length_mapIdx,List.length_mapIdx]
  rfl

/-- The gates are given the numbers of the outcomes. -/
theorem evaluationOf_runSingleWindow [FloorRing K] (b : Backend D S P M K)
    (request : Request S P M T) {windows : List (Window D)} (hsome : windows≠[]) :
    evaluationOf (windows.mapIdx (runSingleWindow b request))=
      ⟨windows.mapIdx (runSingleWindow b request),
        round4 (mean (scores (fun r => r.sharpeRatio)
          (windows.mapIdx (windowOutcome b request)))),
        round4 (mean (scores (fun r => r.calmarRatio)
          (windows.mapIdx (windowOutcome b request)))),
        round4 (least (scores (fun r => r.mdd) (windows.mapIdx (windowOutcome b request)))),
        round6 (variance (scores (fun r => r.sharpeRatio)
          (windows.mapIdx (windowOutcome b request))))⟩ := by
  have hmdd := map_runSingleWindow b request
    (fun i w => (runSingleWindow_scores b request i w).1) windows
  have hsharpe := map_runSingleWindow b request
    (fun i w => (runSingleWindow_scores b request i w).2.1) windows
  have hcalmar := map_runSingleWindow b request
    (fun i w => (runSingleWindow_scores b request i w).2.2.1) windows
  have hresults : windows.mapIdx (runSingleWindow b request)≠[] := by
    rw [ne_eq,List.mapIdx_eq_nil_iff]
    exact hsome
  unfold evaluationOf aggregateResults
  rw [if_neg hresults]
  dsimp only
  rw [hmdd,hsharpe,hcalmar]

/-- The overall verdict of the windows is `PASS` exactly if no criterion counts against their
outcomes. -/
theorem overall_pass_iff [FloorRing K] (b : Backend D S P M K) (fmt : String→K→String)
    (thresholds : Dict String K) (request : Request S P M T) {windows : List (Window D)}
    (hsome : windows≠[]) :
    (evaluateAll fmt thresholds
        (evaluationOf (windows.mapIdx (runSingleWindow b request)))).overall=.pass ↔
      ¬CountsAgainst thresholds (regimeMetricsOf b request)
        (windows.mapIdx (windowOutcome b request)) := by
  have hregimes := regimesOver_runSingleWindow b request
    (threshold thresholds "regime_worst_mdd" 0.30) windows
  have hresults : windows.mapIdx (runSingleWindow b request)≠[] := by
    rw [ne_eq,List.mapIdx_eq_nil_iff]
    exact hsome
  unfold evaluateAll
  dsimp only
  rw [overallOf_pass_iff,evaluateGateA_pass_iff,evaluateGateB_pass_iff,evaluateGateC_pass_iff,
    evaluationOf_runSingleWindow b request hsome]
  unfold SharpeMissed CalmarMissed overLimit
  dsimp only
  rw [positiveRatio_runSingleWindow]
  constructor
  · rintro ⟨hworst,⟨hhigh,hhigh',hnone⟩,hstable⟩ against
    cases against with
    | mdd h => exact hworst h
    | sharpe h => exact hhigh h
    | calmar h => exact hhigh' h
    | regime result hresult item hitem h =>
      exact hregimes.mpr ⟨result,hresult,item,hitem,h⟩ hnone
    | variance h => exact hstable (Or.inl h)
    | positive h => exact hstable (Or.inr ⟨hresults,h⟩)
  · intro hnone
    refine ⟨fun h => hnone (.mdd h),
      ⟨fun h => hnone (.sharpe h),fun h => hnone (.calmar h),?_⟩,?_⟩
    · by_contra hover
      obtain ⟨result,hresult,item,hitem,h⟩ := hregimes.mp hover
      exact hnone (.regime result hresult item hitem h)
    · rintro (h | ⟨_,h⟩)
      · exact hnone (.variance h)
      · exact hnone (.positive h)

end Windows

section Runs

universe u

variable {D M T : Type*} {S P K : Type u} [Field K] [LinearOrder K] [FloorRing K]

/-- How a run ends: with an error and without a verdict, or with the verdict of the gates on
its windows. -/
theorem run_cases {b : Backend D S P M K} {fmt : String→K→String} {thresholds : Dict String K}
    {fuel : ℕ} {request : Request S P M T} {r : OosRun T K}
    (hrun : run b fmt thresholds fuel request=some r) :
    (outcomes b fuel request=[] ∧ r.status=.error ∧ r.overallGate="") ∨
      ∃ windows : List (Window D),windows≠[] ∧
        outcomes b fuel request=windows.mapIdx (windowOutcome b request) ∧
        r=runWindows b fmt thresholds request windows := by
  unfold run at hrun
  unfold outcomes
  cases hsplit : splitWindows fuel (b.index request.signals) request.trainMonths
      request.testMonths with
  | none =>
    rw [hsplit] at hrun
    exact absurd hrun (by simp)
  | some result =>
    rw [hsplit] at hrun
    cases result with
    | error e =>
      dsimp only at hrun ⊢
      rw [←Option.some.inj hrun]
      exact Or.inl ⟨rfl,rfl,rfl⟩
    | ok windows =>
      dsimp only at hrun ⊢
      by_cases hnone : windows.length=0
      · rw [if_pos hnone] at hrun
        rw [←Option.some.inj hrun,List.length_eq_zero_iff.mp hnone]
        exact Or.inl ⟨rfl,rfl,rfl⟩
      · rw [if_neg hnone] at hrun
        refine Or.inr ⟨windows,?_,rfl,(Option.some.inj hrun).symm⟩
        intro hempty
        exact hnone (List.length_eq_zero_iff.mpr hempty)

/-- A run that returns has one of the statuses of a job that ended. -/
theorem run_status {b : Backend D S P M K} {fmt : String→K→String} {thresholds : Dict String K}
    {fuel : ℕ} {request : Request S P M T} {r : OosRun T K}
    (hrun : run b fmt thresholds fuel request=some r) : ∃ e : EngineResult,r.status=e.status := by
  rcases run_cases hrun with ⟨_,hstatus,_⟩ | ⟨windows,_,_,rfl⟩
  · exact ⟨.error,hstatus⟩
  · unfold runWindows
    dsimp only
    generalize (evaluateAll fmt thresholds
      (evaluationOf (windows.mapIdx (runSingleWindow b request)))).overall=overall
    cases overall with
    | pass => exact ⟨.pass,rfl⟩
    | review => exact ⟨.review,rfl⟩
    | fail => exact ⟨.fail,rfl⟩

/-- A run over positive months returns. -/
theorem run_returns (b : Backend D S P M K) (fmt : String→K→String) (thresholds : Dict String K)
    {fuel : ℕ} {request : Request S P M T} (htrain : 1≤ request.trainMonths)
    (htest : 1≤ request.testMonths) (hfuel : (b.index request.signals).length< fuel) :
    ∃ r,run b fmt thresholds fuel request=some r := by
  obtain ⟨train,htrain'⟩ : ∃ m : ℕ,request.trainMonths=m := ⟨request.trainMonths.toNat,by omega⟩
  obtain ⟨test,htest'⟩ : ∃ m : ℕ,request.testMonths=m := ⟨request.testMonths.toNat,by omega⟩
  have htrain1 : 1≤train := by omega
  have htest1 : 1≤test := by omega
  obtain ⟨windows,hwindows,_⟩ := splitWindows_ok htrain1 htest1 hfuel
  unfold run
  rw [htrain',htest',hwindows]
  dsimp only
  split
  · exact ⟨_,rfl⟩
  · exact ⟨_,rfl⟩

/-- A run passes exactly if there are windows and no criterion counts against them, and then
its gate says so. -/
theorem run_pass_iff {b : Backend D S P M K} {fmt : String→K→String}
    {thresholds : Dict String K} {fuel : ℕ} {request : Request S P M T} {r : OosRun T K}
    (hrun : run b fmt thresholds fuel request=some r) :
    (r.status=.pass ↔ outcomes b fuel request≠[] ∧
      ¬CountsAgainst thresholds (regimeMetricsOf b request) (outcomes b fuel request)) ∧
    (r.overallGate="PASS" ↔ r.status=.pass) := by
  rcases run_cases hrun with ⟨hnone,hstatus,hgate⟩ | ⟨windows,hsome,houtcomes,rfl⟩
  · rw [hnone,hstatus,hgate]
    constructor
    · exact ⟨fun h => OosStatus.noConfusion h,fun h => absurd rfl h.1⟩
    · exact ⟨fun h => absurd h (by decide),fun h => OosStatus.noConfusion h⟩
  · have hne : windows.mapIdx (windowOutcome b request)≠[] := by
      rw [ne_eq,List.mapIdx_eq_nil_iff]
      exact hsome
    rw [houtcomes,and_iff_right hne,←overall_pass_iff b fmt thresholds request hsome]
    unfold runWindows
    dsimp only
    generalize (evaluateAll fmt thresholds
      (evaluationOf (windows.mapIdx (runSingleWindow b request)))).overall=overall
    cases overall <;> decide

variable [LinearOrder T]

omit [Field K] [LinearOrder K] [FloorRing K] in
/-- Deploying is allowed exactly if the gate of the latest run says `PASS`. -/
theorem deployAllowed_iff {runs : Dict String (OosRun T K)} {r : OosRun T K}
    (hlatest : getLatest runs=some r) :
    (getGateStatus runs).deployAllowed=true ↔ r.overallGate="PASS" := by
  unfold getGateStatus
  rw [hlatest]
  dsimp only
  rw [decide_eq_true_eq]

variable [IsStrictOrderedRing K]

/-- A window that was not evaluated keeps a run from passing, and the gate status from
allowing to deploy on it, exactly if there is no such window or the results of the evaluated
windows miss a criterion when all windows are counted. -/
theorem run_unevaluated_iff {b : Backend D S P M K} {fmt : String→K→String}
    {thresholds : Dict String K} {fuel : ℕ} {request : Request S P M T} {r : OosRun T K}
    (hrun : run b fmt thresholds fuel request=some r) :
    ((none∈outcomes b fuel request→ r.status≠.pass) ∧
      ∀ runs,getLatest runs=some r→none∈outcomes b fuel request→
        (getGateStatus runs).deployAllowed=false) ↔
      none∉outcomes b fuel request ∨
        MissedByEvaluated thresholds (regimeMetricsOf b request)
          (outcomes b fuel request).reduceOption (outcomes b fuel request).length := by
  obtain ⟨hpass,hgate⟩ := run_pass_iff hrun
  have hsome : none∈outcomes b fuel request→ outcomes b fuel request≠[] :=
    fun h => List.ne_nil_of_mem h
  constructor
  · rintro ⟨hstatus,_⟩
    by_cases hnone : none∈outcomes b fuel request
    · right
      rw [← countsAgainst_iff thresholds _ hnone]
      by_contra hgood
      exact hstatus hnone (hpass.mpr ⟨hsome hnone,hgood⟩)
    · exact Or.inl hnone
  · intro hcondition
    have hstatus : none∈outcomes b fuel request→ r.status≠.pass := by
      intro hnone hr
      have hmissed := hcondition.resolve_left fun h => h hnone
      exact (hpass.mp hr).2 ((countsAgainst_iff thresholds _ hnone).mpr hmissed)
    refine ⟨hstatus,fun runs hlatest hnone => ?_⟩
    rw [←Bool.not_eq_true,deployAllowed_iff hlatest,hgate]
    exact hstatus hnone

end Runs

section Examples

/-- Frames of dates only, with a good backtest unless the slice has day 42, on which the
backtest raises. -/
def oneDayRaises : Backend ℕ (List ℕ) (List ℕ) Unit ℚ where
  index signals := signals
  dateText _ := ""
  locSignals signals first last := .ok (signals.filter fun d => first≤d ∧ d≤ last)
  locPrices prices first last := .ok (prices.filter fun d => first≤d ∧ d≤ last)
  signalsLength := List.length
  pricesLength := List.length
  backtest _ signals _ :=
    if 42∈signals then .error "no price" else .ok ⟨1/5,-(1/10),1,1,1,1/10,5,1/2,2,[]⟩
  regimeMetrics _ _ := .ok .empty
  indexText _ := ""

/-- Sixty-three days: two windows with a month to train on and a month to test on. -/
def twoWindows : Request (List ℕ) (List ℕ) Unit ℕ :=
  ⟨"run","s",List.range 63,List.range 63,1,1,.oos,"current",none,"",0,1⟩

/-- The test of the second window raises, and the run passes and allows to deploy. -/
theorem run_failed_window_passes :
    none∈outcomes oneDayRaises 64 twoWindows ∧
      (run oneDayRaises (fun _ _ => "") defaultThresholds 64 twoWindows).map (fun r =>
        (r.status,(getGateStatus (Dict.collect [(r.runId,r)])).deployAllowed))=
          some (.pass,true) := by
  decide +kernel

/-- The condition for those two windows. -/
theorem run_unevaluated_iff_two_windows :
    ∃ r : OosRun ℕ ℚ,
      run oneDayRaises (fun _ _ => "") defaultThresholds 64 twoWindows=some r ∧
        (((none∈outcomes oneDayRaises 64 twoWindows→ r.status≠.pass) ∧
          ∀ runs,getLatest runs=some r→none∈outcomes oneDayRaises 64 twoWindows→
            (getGateStatus runs).deployAllowed=false) ↔
          none∉outcomes oneDayRaises 64 twoWindows ∨
            MissedByEvaluated defaultThresholds (regimeMetricsOf oneDayRaises twoWindows)
              (outcomes oneDayRaises 64 twoWindows).reduceOption
              (outcomes oneDayRaises 64 twoWindows).length) := by
  have hsome : (run oneDayRaises (fun _ _ => "") defaultThresholds 64 twoWindows).isSome=true := by
    decide +kernel
  obtain ⟨r,hrun⟩ := Option.isSome_iff_exists.mp hsome
  exact ⟨r,hrun,run_unevaluated_iff hrun⟩

end Examples

end Aqts.WalkForwardRuns
