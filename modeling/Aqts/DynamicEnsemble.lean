import Aqts.TechnicalIndicators

/-!
# The dynamic ensemble

`DynamicEnsembleService`: the weights of three strategies follow the regime of a row
and the performance of the strategies before it, and the weighted signal is scaled
down to the volatility that is aimed at. `sqrt` and `exp` are parameters.
-/

namespace Aqts.DynamicEnsemble

open CausalSeries PandasSeries TechnicalIndicators

/-- Regimes of a row. -/
inductive DynamicRegime
  | trendingUp | trendingDown | highVolatility | sideways
  deriving DecidableEq

/-- Weights of the three strategies in a regime. -/
structure RegimeWeights (K : Type*) where
  /-- `TF`. -/
  tf : K
  /-- `MR`. -/
  mr : K
  /-- `RP`. -/
  rp : K

/-- Parameters. -/
structure Params (K : Type*) where
  /-- `adx_threshold`. -/
  adxThreshold : K
  /-- `vol_pct_threshold`. -/
  volPctThreshold : K
  /-- `perf_window`. -/
  perfWindow : ℕ
  /-- `softmax_temperature`. -/
  softmaxTemperature : K
  /-- `perf_blend`. -/
  perfBlend : K
  /-- `target_vol`. -/
  targetVol : K
  /-- `min_window`. -/
  minWindow : ℕ

/-- A service. -/
structure DynamicEnsembleService (K : Type*) where
  /-- `_params`. -/
  params : Params K
  /-- `_regime_weights`. -/
  regimeWeights : DynamicRegime→RegimeWeights K

variable {K : Type*}

section Defaults

variable [Field K]

/-- `REGIME_WEIGHTS`. -/
def defaultRegimeWeights : DynamicRegime→RegimeWeights K
  | .trendingUp => ⟨0.55,0.15,0.30⟩
  | .trendingDown => ⟨0.40,0.15,0.45⟩
  | .highVolatility => ⟨0.20,0.20,0.60⟩
  | .sideways => ⟨0.25,0.45,0.30⟩

/-- `DEFAULT_PARAMS`. -/
def defaultParams : Params K where
  adxThreshold := 25.0
  volPctThreshold := 0.75
  perfWindow := 60
  softmaxTemperature := 5.0
  perfBlend := 0.3
  targetVol := 0.25
  minWindow := 60

end Defaults

/-- A value for every row, of all rows up to it. -/
def expanding (g : Series K→Value K) (s : Series K) : Series K :=
  (List.range s.length).map fun i => g (s.take (i+1))

/-- `np.exp`. -/
def expValue [Zero K] (exp : K→K) : Value K→Value K
  | .missing => .missing
  | .infinite true => .number 0
  | .infinite false => .infinite false
  | .number x => .number (exp x)

section Rows

variable [Field K] [LinearOrder K]

/-- `<=`, which holds of no missing value. -/
def atMost (v w : Value K) : Bool :=
  decide (v≠.missing) && decide (w≠.missing) && !w.below v

/-- `replace(0, ...)`. -/
def replaceZero (fill : K) : Value K→Value K
  | .number x => .number (if x=0 then fill else x)
  | v => v

/-- `clip(upper=...)`. -/
def clipAbove (upper : K) : Value K→Value K
  | .missing => .missing
  | .infinite a => if a=true then .infinite true else .number upper
  | .number x => .number (min x upper)

/-- The share of a rank: of equal values the middle one. -/
def rankPct (minPeriods : ℕ) (window : Series K) : Value K :=
  let xs := window.filterMap Value.finite
  match window.getLast?.bind Value.finite with
  | none => .missing
  | some x =>
    if xs.length< minPeriods then .missing
    else
      let less := (xs.filter fun y => y<x).length
      let same := (xs.filter fun y => y=x).length
      .number (((less : K)+((same : K)+1)/2.0)/xs.length)

/-- `plus_dm` and `minus_dm`, of which the larger one is kept if it is positive. -/
def directionalMoves (range before : Value K×Value K) : Value K×Value K :=
  let plusDm := range.1-before.1
  let minusDm := before.2-range.2
  let plusKept :=
    if (minusDm.below plusDm && Value.below (.number 0) plusDm)=true then plusDm else .number 0
  let minusKept :=
    if (plusKept.below minusDm && Value.below (.number 0) minusDm)=true then minusDm else .number 0
  (plusKept,minusKept)

/-- `dx` of the smoothed movements and the smoothed range. -/
def dxRow (moves : Value K×Value K) (atr : Value K) : Value K :=
  let safeAtr := atr.nonzero
  let plusDi := .number 100.0*moves.1/safeAtr
  let minusDi := .number 100.0*moves.2/safeAtr
  .number 100.0*(plusDi-minusDi).abs/(plusDi+minusDi).nonzero

/-- `_compute_adx`. -/
def computeAdx (high low close : Series K) (period : ℕ) : Series K :=
  let moves := List.zipWith directionalMoves (List.zip high low)
    (List.zip (shifted 1 high) (shifted 1 low))
  let atr := wilder period (trueRange high low close)
  let plusSmooth := wilder period (moves.map Prod.fst)
  let minusSmooth := wilder period (moves.map Prod.snd)
  let dx := List.zipWith dxRow (List.zip plusSmooth minusSmooth) atr
  (wilder period dx).map fun v => v.fillna (.number 0)

/-- The regime of a row: of three masks, which exclude each other. -/
def regimeOf (adxThreshold volPctThreshold : K) (adx momentum volPercentile : Value K) :
    DynamicRegime :=
  let trendUp := Value.below (.number adxThreshold) adx && Value.below (.number 0) momentum
  let trendDown := Value.below (.number adxThreshold) adx && momentum.below (.number 0) && !trendUp
  let highVol := Value.below (.number volPctThreshold) volPercentile &&
    atMost adx (.number adxThreshold) && !trendUp && !trendDown
  if highVol=true then .highVolatility
  else if trendDown=true then .trendingDown
  else if trendUp=true then .trendingUp
  else .sideways

/-- `_assign_regime_weights`: the regime of every row, whose weights are taken. -/
def assignRegimes (adx momentum volPercentile : Series K) (adxThreshold volPctThreshold : K) :
    List DynamicRegime :=
  List.zipWith (fun am v => regimeOf adxThreshold volPctThreshold am.1 am.2 v)
    (List.zip adx momentum) volPercentile

/-- Three values of a row, in the order of the strategies. -/
structure Three (α : Type*) where
  /-- `TF`. -/
  tf : α
  /-- `MR`. -/
  mr : α
  /-- `RP`. -/
  rp : α

/-- The performance of a strategy. -/
def performance (perfWindow : ℕ) (signal returns : Series K) : Series K :=
  (rolling perfWindow perfWindow (fun xs => .number (xs.foldl (· + ·) 0))
    (List.zipWith (· * ·) signal returns)).map fun v => v.fillna (.number 0)

/-- The weights of a row, adjusted by the performances of the strategies. -/
def adjusted (exp : K→K) (temperature blend : K) (weights : RegimeWeights K)
    (perf : Three (Value K)) : Three (Value K) :=
  let expTf := expValue exp (perf.tf/.number temperature)
  let expMr := expValue exp (perf.mr/.number temperature)
  let expRp := expValue exp (perf.rp/.number temperature)
  let expSum := expMr+expTf+expRp
  { tf := .number (weights.tf*(1-blend))+expTf/expSum*.number blend
    mr := .number (weights.mr*(1-blend))+expMr/expSum*.number blend
    rp := .number (weights.rp*(1-blend))+expRp/expSum*.number blend }

/-- The weights of a row, normalised again. -/
def renormalised (w : Three (Value K)) : Three (Value K) :=
  let total := w.mr+w.tf+w.rp
  ⟨w.tf/total,w.mr/total,w.rp/total⟩

/-- The scalar of a row. -/
def volScalarOf (targetVol : K) (vol : Value K) : Value K :=
  clipAbove 1 (.number targetVol/replaceZero targetVol (vol.fillna (.number targetVol)))

/-- The ensemble of a row. -/
def ensembleOf (weights signals : Three (Value K)) (scalar : Value K) : Value K :=
  (weights.tf*signals.tf+weights.mr*signals.mr+weights.rp*signals.rp)*scalar

end Rows

/-- What is calculated for every row. -/
structure EnsembleSeries (K : Type*) where
  /-- `adx`. -/
  adx : Series K
  /-- `vol_percentile`. -/
  volPercentile : Series K
  /-- The regimes. -/
  regimes : List DynamicRegime
  /-- The weights. -/
  weights : List (Three (Value K))
  /-- `vol_scalar`. -/
  volScalar : Series K
  /-- `ensemble`. -/
  ensemble : Series K

/-- Result of the last row. -/
structure DynamicEnsembleResult (K : Type*) where
  /-- `ensemble_signal`. -/
  ensembleSignal : Value K
  /-- `regime`. -/
  regime : DynamicRegime
  /-- `weights`. -/
  weights : Three (Value K)
  /-- `adx`. -/
  adx : Value K
  /-- `vol_percentile`. -/
  volPercentile : Value K
  /-- `vol_scalar`. -/
  volScalar : Value K
  /-- `ensemble_series`. -/
  ensembleSeries : Series K

section Compute

variable [Field K] [LinearOrder K] (sqrt exp : K→K) (service : DynamicEnsembleService K)
  (high low close : Series K) (signals : Three (Series K))

/-- The annual volatility. -/
def annualVol : Series K :=
  (rollingStd sqrt 20 (pctChange 1 close)).map fun v => v*.number (sqrt 252)

/-- `vol_percentile`. -/
def volPercentile : Series K :=
  (expanding (rankPct service.params.minWindow) (annualVol sqrt close)).map
    fun v => v.fillna (.number 0.5)

/-- `momentum`. -/
def momentum : Series K := (pctChange 20 close).map fun v => v.fillna (.number 0)

/-- The regimes of the rows. -/
def regimes : List DynamicRegime :=
  assignRegimes (computeAdx high low close 14) (momentum close) (volPercentile sqrt service close)
    service.params.adxThreshold service.params.volPctThreshold

/-- The performances of the rows. -/
def performances : List (Three (Value K)) :=
  let returns := pctChange 1 close
  List.zipWith (fun tm rp => ⟨tm.1,tm.2,rp⟩)
    (List.zip (performance service.params.perfWindow signals.tf returns)
      (performance service.params.perfWindow signals.mr returns))
    (performance service.params.perfWindow signals.rp returns)

/-- The weights of the rows. -/
def weights : List (Three (Value K)) :=
  List.zipWith (fun regime perf => renormalised (adjusted exp service.params.softmaxTemperature
      service.params.perfBlend (service.regimeWeights regime) perf))
    (regimes sqrt service high low close) (performances service close signals)

/-- `vol_scalar`. -/
def volScalar : Series K := (annualVol sqrt close).map (volScalarOf service.params.targetVol)

/-- The signals of the rows. -/
def signalRows : List (Three (Value K)) :=
  List.zipWith (fun tm rp => ⟨tm.1,tm.2,rp⟩) (List.zip signals.tf signals.mr) signals.rp

/-- `ensemble`. -/
def ensemble : Series K :=
  List.zipWith (fun ws scalar => ensembleOf ws.1 ws.2 scalar)
    (List.zip (weights sqrt exp service high low close signals) (signalRows signals))
    (volScalar sqrt service close)

/-- What `compute` calculates for the rows. -/
def computeSeries : EnsembleSeries K where
  adx := computeAdx high low close 14
  volPercentile := volPercentile sqrt service close
  regimes := regimes sqrt service high low close
  weights := weights sqrt exp service high low close signals
  volScalar := volScalar sqrt service close
  ensemble := ensemble sqrt exp service high low close signals

/-- `compute`: the results of the last row, or an error without rows. -/
def compute : Option (DynamicEnsembleResult K) :=
  let series := computeSeries sqrt exp service high low close signals
  match series.ensemble.getLast?,series.regimes.getLast?,series.weights.getLast?,
    series.adx.getLast?,series.volPercentile.getLast?,series.volScalar.getLast? with
  | some ensembleSignal,some regime,some weights,some adx,some volPercentile,some volScalar =>
    some ⟨ensembleSignal,regime,weights,adx,volPercentile,volScalar,series.ensemble⟩
  | _,_,_,_,_,_ => none

end Compute

section Causality

variable {α : Type*} {f : List α→Series K}

/-- Values of all rows up to one are as many. -/
@[simp] theorem expanding_length (g : Series K→Value K) (s : Series K) :
    (expanding g s).length=s.length := by
  unfold expanding
  rw [List.length_map,List.length_range]

/-- Values of all rows up to one are causal. -/
theorem causal_expanding (hf : Causal f) (g : Series K→Value K) :
    Causal fun xs => expanding g (f xs) := by
  refine Causal.comp (causal_of_rows (expanding_length g) fun n xs i hi hin => ?_) hf
  have hlength : i<(xs.take n).length := by
    rw [List.length_take]
    omega
  have hfirst : min (i+1) n=i+1 := by omega
  unfold expanding
  rw [List.getElem?_map,List.getElem?_map,List.getElem?_range hlength,List.getElem?_range hin,
    Option.map_some,Option.map_some,List.take_take,hfirst]

variable [Field K] [LinearOrder K] {high low close tf mr rp : List α→Series K}
  (sqrt exp : K→K) (service : DynamicEnsembleService K)

/-- The directional index is causal. -/
theorem causal_computeAdx (hhigh : Causal high) (hlow : Causal low) (hclose : Causal close)
    (period : ℕ) : Causal fun xs => computeAdx (high xs) (low xs) (close xs) period := by
  have hbefore := (causal_shifted hhigh 1).zipWith (causal_shifted hlow 1) Prod.mk
  have hmoves := (hhigh.zipWith hlow Prod.mk).zipWith hbefore directionalMoves
  have hrange := causal_wilder (causal_trueRange hhigh hlow hclose) period
  have hplus := causal_wilder (hmoves.map Prod.fst) period
  have hminus := causal_wilder (hmoves.map Prod.snd) period
  exact (causal_wilder ((hplus.zipWith hminus Prod.mk).zipWith hrange dxRow) period).map _

/-- The annual volatility is causal. -/
theorem causal_annualVol (hclose : Causal close) : Causal fun xs => annualVol sqrt (close xs) :=
  (causal_rollingStd (causal_pctChange hclose 1) sqrt 20).map _

/-- The regimes are causal. -/
theorem causal_regimes (hhigh : Causal high) (hlow : Causal low) (hclose : Causal close) :
    Causal fun xs => regimes sqrt service (high xs) (low xs) (close xs) := by
  have hmomentum : Causal fun xs => momentum (close xs) := (causal_pctChange hclose 20).map _
  have hpercentile : Causal fun xs => volPercentile sqrt service (close xs) :=
    (causal_expanding (causal_annualVol sqrt hclose) _).map _
  have hadx := causal_computeAdx hhigh hlow hclose 14
  exact (hadx.zipWith hmomentum Prod.mk).zipWith hpercentile fun am v =>
    regimeOf service.params.adxThreshold service.params.volPctThreshold am.1 am.2 v

/-- The performance of a strategy is causal. -/
theorem causal_performance (hclose : Causal close) {signal : List α→Series K}
    (hsignal : Causal signal) (window : ℕ) :
    Causal fun xs => performance window (signal xs) (pctChange 1 (close xs)) :=
  (causal_rolling (hsignal.zipWith (causal_pctChange hclose 1) (· * ·)) window window _).map _

/-- The weights are causal. -/
theorem causal_weights (hhigh : Causal high) (hlow : Causal low) (hclose : Causal close)
    (htf : Causal tf) (hmr : Causal mr) (hrp : Causal rp) :
    Causal fun xs =>
      weights sqrt exp service (high xs) (low xs) (close xs) ⟨tf xs,mr xs,rp xs⟩ := by
  have hperformances := ((causal_performance hclose htf service.params.perfWindow).zipWith
    (causal_performance hclose hmr service.params.perfWindow) Prod.mk).zipWith
      (causal_performance hclose hrp service.params.perfWindow)
        fun tm rp => (⟨tm.1,tm.2,rp⟩ : Three (Value K))
  exact (causal_regimes sqrt service hhigh hlow hclose).zipWith hperformances fun regime perf =>
    renormalised (adjusted exp service.params.softmaxTemperature service.params.perfBlend
      (service.regimeWeights regime) perf)

/-- The ensemble is causal. -/
theorem causal_ensemble (hhigh : Causal high) (hlow : Causal low) (hclose : Causal close)
    (htf : Causal tf) (hmr : Causal mr) (hrp : Causal rp) :
    Causal fun xs =>
      ensemble sqrt exp service (high xs) (low xs) (close xs) ⟨tf xs,mr xs,rp xs⟩ := by
  have hsignals := (htf.zipWith hmr Prod.mk).zipWith hrp
    fun tm rp => (⟨tm.1,tm.2,rp⟩ : Three (Value K))
  have hscalar : Causal fun xs => volScalar sqrt service (close xs) :=
    (causal_annualVol sqrt hclose).map _
  exact ((causal_weights sqrt exp service hhigh hlow hclose htf hmr hrp).zipWith hsignals
    Prod.mk).zipWith hscalar fun ws scalar => ensembleOf ws.1 ws.2 scalar

end Causality

end Aqts.DynamicEnsemble
