import Mathlib.Analysis.SpecialFunctions.Log.Basic
import Mathlib.Tactic.FieldSimp
import Mathlib.Tactic.Positivity
import Aqts.RegimeRouting
import Aqts.WeightLimits

/-!
# The ensemble signal

`StrategyEnsembleEngine.generate_ensemble_signal` with `DynamicThreshold` and
`ConfidenceCalibrator`: a weighted mean of the signals of the strategies, each
damped by its confidence, a confidence of the whole, and thresholds by the
regime. The logarithm of `numpy` is a parameter. Storing the signal is left out.
-/

namespace Aqts.EnsembleSignals

open Dictionary PandasSeries RegimeRouting StrategyWeights WeightLimits

/-- `StrategySignalInput`. -/
structure StrategySignalInput (K : Type*) where
  /-- `strategy`. -/
  strategy : String
  /-- `value`. -/
  value : K
  /-- `confidence`. -/
  confidence : K
  /-- `reason`. -/
  reason : String
deriving DecidableEq

/-- `RegimeInfo`, with what the thresholds and the calibration read too. -/
structure Regime (K : Type*) extends RegimeInfo K where
  /-- `volatility_percentile`. -/
  volatilityPercentile : K

/-- What a signal asks for. -/
inductive Action
  | buy | sell | hold
  deriving DecidableEq

/-- The other direction. -/
def Action.opposite : Action→Action
  | .buy => .sell
  | .sell => .buy
  | .hold => .hold

/-- `EnsembleSignal`. -/
structure EnsembleSignal (K : Type*) where
  /-- `ticker`. -/
  ticker : String
  /-- `final_signal`. -/
  finalSignal : K
  /-- `final_confidence`. -/
  finalConfidence : K
  /-- `component_signals`. -/
  componentSignals : Dict String K
  /-- `weights_used`. -/
  weightsUsed : Weights K
  /-- `risk_profile`. -/
  riskProfile : RiskProfile
  /-- `regime`. -/
  regime : MarketRegime
  /-- `buy_threshold`. -/
  buyThreshold : K
  /-- `sell_threshold`. -/
  sellThreshold : K
  /-- `raw_confidence`. -/
  rawConfidence : K

section Engine

variable {K : Type*} [Field K] [LinearOrder K]

/-- A signal by two thresholds. -/
def actionOf (signal buyThreshold sellThreshold : K) : Action :=
  if buyThreshold< signal then .buy
  else if signal< -sellThreshold then .sell
  else .hold

/-- `EnsembleSignal.action`. -/
def EnsembleSignal.action (s : EnsembleSignal K) : Action :=
  actionOf s.finalSignal s.buyThreshold s.sellThreshold

/-- `REGIME_THRESHOLDS`. -/
def regimeThresholds : MarketRegime→K
  | .trendingUp => 0.20
  | .trendingDown => 0.20
  | .sideways => 0.30
  | .highVolatility => 0.40
  | .crisis => 0.50

/-- `blended`, the threshold before it is limited. -/
def blendedThreshold (regime : Regime K) : K :=
  (regimeThresholds regime.regime+(regime.volatilityPercentile-0.5)*0.15)*regime.confidence+
    0.30*(1.0-regime.confidence)

/-- `DynamicThreshold.compute`. -/
def computeThresholds [FloorRing K] (regime : Regime K) : K×K :=
  let final := max 0.10 (min 0.50 (blendedThreshold regime))
  (round4 final,round4 final)

/-- `DynamicThreshold.classify_action`. -/
def classifyAction [FloorRing K] (signal : K) (regime : Regime K) : Action :=
  actionOf signal (computeThresholds regime).1 (computeThresholds regime).2

/-- `_compute_disagreement`. -/
def computeDisagreement (signals : List K) : K :=
  if signals.length≤1 then 0
  else
    let positive := signals.countP fun s => 0.05< s
    let negative := signals.countP fun s => s< -0.05
    (min positive negative : ℕ)/(signals.length : K)*2.0

/-- The penalty for strategies that disagree. -/
def disagreementStep (rawConfidence : K) (signals : List K) : K :=
  rawConfidence*(1.0-computeDisagreement signals*0.3)

/-- The penalty for a volatile market. -/
def volatilityStep (calibrated : K) : Option (Regime K)→K
  | none => calibrated
  | some regime =>
    let lowered := calibrated*(1.0-max 0 (regime.volatilityPercentile-0.5)*0.2)
    if regime.regime=.highVolatility then lowered*0.85 else lowered

/-- High confidences are pressed together. -/
def extremeStep (log1p : K→K) (calibrated : K) : K :=
  if 0.85< calibrated then
    min (0.85+(calibrated-0.85)*log1p (calibrated-0.85)/log1p (1.0-0.85)) 0.95
  else calibrated

/-- `MIN_STRATEGIES`. -/
def minStrategies : ℕ := 3

/-- Less than three strategies have less confidence. -/
def countStep (calibrated : K) (n : ℕ) : K :=
  if n< minStrategies then calibrated*(n/minStrategies) else calibrated

/-- `ConfidenceCalibrator.calibrate`. -/
def calibrate [FloorRing K] (log1p : K→K) (rawConfidence : K) (componentSignals : Dict String K)
    (regime : Option (Regime K)) : K :=
  if componentSignals.items.isEmpty=true then max 0 (min (rawConfidence*0.5) 1)
  else
    let values := componentSignals.values
    round4 (max 0 (min 1 (countStep (extremeStep log1p (volatilityStep
      (disagreementStep rawConfidence values) regime)) values.length)))

/-- `signal_map`: the last signal of each strategy. -/
def signalMap (signals : List (StrategySignalInput K)) : Dict String (StrategySignalInput K) :=
  Dict.collect (signals.map fun s => (s.strategy,s))

/-- The strategies with a weight and a signal, in the order of the weights. -/
def matched (routed : Weights K) (signals : Dict String (StrategySignalInput K)) :
    Dict String (K×StrategySignalInput K) :=
  routed.filterMap fun key weight =>
    if weight≤0 then none else (signals.get? key).map fun s => (weight,s)

/-- A sum over the strategies with a weight and a signal. -/
def sumOver (routed : Weights K) (signals : Dict String (StrategySignalInput K))
    (f : StrategySignalInput K→K) : K :=
  ((matched routed signals).values.map fun m => f m.2*m.1).sum

/-- A sum as a share of the total weight. -/
def meanOver (routed : Weights K) (signals : Dict String (StrategySignalInput K))
    (f : StrategySignalInput K→K) : K :=
  if 0< sumOver routed signals (fun _ => 1) then
    sumOver routed signals f/sumOver routed signals (fun _ => 1)
  else 0

/-- The regime without prices. -/
def noPrices : Regime K := ⟨⟨.sideways,0.3⟩,0.5⟩

/-- `generate_ensemble_signal`, with the weights of `get_weights` and the regime that was
found in the prices, if there were enough of them. -/
def generateEnsembleSignal [FloorRing K] (log1p : K→K) (riskProfile : RiskProfile)
    (weights : Weights K) (ticker : String) (signals : List (StrategySignalInput K))
    (detected : Option (Regime K)) : EnsembleSignal K :=
  if signals.isEmpty=true then
    ⟨ticker,0,0,Dict.empty,Dict.empty,riskProfile,.sideways,0.3,0.3,0⟩
  else
    let regime := detected.getD noPrices
    let routed := adjustWeights weights regime.toRegimeInfo
    let signals := signalMap signals
    let componentSignals := (matched routed signals).mapItems fun _ m => round4 m.2.value
    let finalSignal := max (-1.0) (min 1.0 (meanOver routed signals fun s => s.value*s.confidence))
    let rawConfidence := max 0 (min 1.0 (meanOver routed signals fun s => s.confidence))
    let calibrated := calibrate log1p rawConfidence componentSignals (some regime)
    let thresholds := computeThresholds regime
    ⟨ticker,round4 finalSignal,round4 calibrated,componentSignals,
      (routed.filter fun _ v => 0< v).mapItems fun _ v => round4 v,riskProfile,regime.regime,
      thresholds.1,thresholds.2,round4 rawConfidence⟩

end Engine

section Rounding

variable {K : Type*} [Field K] [LinearOrder K] [IsStrictOrderedRing K] [FloorRing K]

/-- Four decimals keep the order. -/
theorem round4_mono {x y : K} (h : x≤y) : round4 x≤ round4 y := by
  have hscale : (10000.0 : K)=10000 := by norm_num
  unfold round4
  rw [hscale]
  refine div_le_div_of_nonneg_right ?_ (by norm_num)
  exact_mod_cast roundHalfEven_mono (by linarith)

/-- Four decimals change the sign with the number. -/
theorem round4_neg (x : K) : round4 (-x)= -round4 x := by
  unfold round4
  rw [neg_mul,roundHalfEven_neg,Int.cast_neg,neg_div]

/-- Numbers with four decimals stay. -/
theorem round4_decimals (n : ℤ) : round4 ((n : K)/10000)=n/10000 := by
  have hscale : (10000.0 : K)=10000 := by norm_num
  unfold round4
  rw [hscale,div_mul_cancel₀ _ (by norm_num),roundHalfEven_intCast]

/-- Rounding again changes nothing. -/
theorem round4_round4 (x : K) : round4 (round4 x)=round4 x := by
  have hscale : (10000.0 : K)=10000 := by norm_num
  have hdecimals : round4 x=(roundHalfEven (x*10000) : K)/10000 := by
    unfold round4
    rw [hscale]
  rw [hdecimals,round4_decimals]

/-- Four decimals of a number between two with four decimals. -/
theorem round4_between {x : K} {m n : ℤ} (h : (m : K)/10000≤x) (h' : x≤(n : K)/10000) :
    (m : K)/10000≤ round4 x ∧ round4 x≤(n : K)/10000 :=
  ⟨(round4_decimals m).symm.trans_le (round4_mono h),(round4_mono h').trans_eq (round4_decimals n)⟩

end Rounding

section Calibration

variable {K : Type*} [Field K] [LinearOrder K] [IsStrictOrderedRing K]

/-- No number is counted both as up and as down. -/
theorem countP_both_le (signals : List K) :
    (signals.countP fun s => 0.05< s)+(signals.countP fun s => s< -0.05)≤ signals.length := by
  induction signals with
  | nil => exact Nat.le_refl 0
  | cons s rest ih =>
    rw [List.countP_cons,List.countP_cons,List.length_cons]
    by_cases hup : 0.05< s
    · have hdown : ¬s< -0.05 := by
        have hsmall : (-0.05 : K)<0.05 := by norm_num
        exact not_lt.mpr (hsmall.le.trans hup.le)
      simp only [hup,hdown,decide_true,decide_false,if_true,Bool.false_eq_true,if_false]
      omega
    · by_cases hdown : s< -0.05 <;>
      · simp only [hup,hdown,decide_true,decide_false,if_true,Bool.false_eq_true,if_false]
        omega

/-- The disagreement is a share. -/
theorem computeDisagreement_range (signals : List K) :
    0≤ computeDisagreement signals ∧ computeDisagreement signals≤1 := by
  unfold computeDisagreement
  split
  · exact ⟨le_rfl,zero_le_one⟩
  · rename_i hmany
    have hpos : (0 : K)< signals.length := by
      exact_mod_cast Nat.lt_trans Nat.zero_lt_one (not_le.mp hmany)
    have htwo : (2.0 : K)=2 := by norm_num
    have hhalf : 2*min (signals.countP fun s => 0.05< s) (signals.countP fun s => s< -0.05)≤
        signals.length := by
      have hboth := countP_both_le signals
      omega
    dsimp only
    rw [htwo]
    refine ⟨by positivity,?_⟩
    rw [div_mul_eq_mul_div,div_le_one hpos,mul_comm]
    exact_mod_cast hhalf

variable {raw c : K}

/-- Disagreement never raises the confidence. -/
theorem disagreementStep_le (h0 : 0≤ raw) (signals : List K) :
    disagreementStep raw signals≤ raw := by
  have hshare := (computeDisagreement_range signals).1
  unfold disagreementStep
  refine mul_le_of_le_one_right h0 ?_
  norm_num
  exact hshare

/-- Volatility never raises the confidence. -/
theorem volatilityStep_le (h0 : 0≤ raw) (h : c≤ raw) (regime : Option (Regime K)) (hc : 0≤ c) :
    volatilityStep c regime≤ raw := by
  unfold volatilityStep
  split
  · exact h
  · rename_i regime
    have hlowered : c*(1.0-max 0 (regime.volatilityPercentile-0.5)*0.2)≤ c := by
      refine mul_le_of_le_one_right hc ?_
      norm_num
    dsimp only
    split
    · rcases le_or_gt 0 (c*(1.0-max 0 (regime.volatilityPercentile-0.5)*0.2)) with hpos | hneg
      · refine (mul_le_of_le_one_right hpos ?_).trans (hlowered.trans h)
        norm_num
      · refine (mul_nonpos_of_nonpos_of_nonneg hneg.le ?_).trans h0
        norm_num
    · exact hlowered.trans h

/-- Pressing high confidences together lowers them. -/
theorem extremeStep_le {log1p : K→K} (hmono : ∀ x y,0≤x→x≤y→log1p x≤ log1p y)
    (hpos : 0< log1p (1.0-0.85)) (h : c≤1) : extremeStep log1p c≤ c ∧ extremeStep log1p c≤0.95 := by
  unfold extremeStep
  split
  · rename_i hhigh
    have hexcess : 0≤ c-0.85 := sub_nonneg.mpr hhigh.le
    have hone : (1.0 : K)=1 := by norm_num
    have hlog : log1p (c-0.85)≤ log1p (1.0-0.85) := by
      refine hmono _ _ hexcess ?_
      rw [hone]
      linarith
    have hpressed : (c-0.85)*log1p (c-0.85)/log1p (1.0-0.85)≤ c-0.85 := by
      rw [div_le_iff₀ hpos]
      exact mul_le_mul_of_nonneg_left hlog hexcess
    exact ⟨(min_le_left _ _).trans (by linarith),min_le_right _ _⟩
  · rename_i hlow
    refine ⟨le_rfl,(not_lt.mp hlow).trans ?_⟩
    norm_num

/-- Few strategies never raise the confidence. -/
theorem countStep_le {bound : K} (h0 : 0≤ bound) (h : c≤ bound) (n : ℕ) : countStep c n≤ bound := by
  unfold countStep
  split
  · rename_i hfew
    have hcast : (n : K)≤ minStrategies := by exact_mod_cast hfew.le
    have hshare : (n : K)/minStrategies≤1 := by
      rw [div_le_one (Nat.cast_pos.mpr (by decide))]
      exact hcast
    rcases le_or_gt 0 c with hpos | hneg
    · exact (mul_le_of_le_one_right hpos hshare).trans h
    · exact (mul_nonpos_of_nonpos_of_nonneg hneg.le (by positivity)).trans h0
  · exact h

end Calibration

section Bounds

variable {K : Type*} [Field K] [LinearOrder K] [IsStrictOrderedRing K] [FloorRing K]

omit [FloorRing K] in
/-- The first three steps of the calibration never raise a confidence, nor leave more than
ninety-five percent. -/
theorem firstSteps_le {log1p : K→K} (hmono : ∀ x y,0≤x→x≤y→log1p x≤ log1p y)
    (hpos : 0< log1p (1.0-0.85)) {raw : K} (h0 : 0≤ raw) (h1 : raw≤1) (values : List K)
    (regime : Option (Regime K)) :
    extremeStep log1p (volatilityStep (disagreementStep raw values) regime)≤ raw ∧
      extremeStep log1p (volatilityStep (disagreementStep raw values) regime)≤0.95 := by
  have hfactor : 0≤ disagreementStep raw values := by
    have hshare := (computeDisagreement_range values).2
    refine mul_nonneg h0 ?_
    norm_num
    linarith
  have hsecond := volatilityStep_le h0 (disagreementStep_le h0 values) regime hfactor
  obtain ⟨hthird,hcap⟩ := extremeStep_le hmono hpos (hsecond.trans h1)
  exact ⟨hthird.trans hsecond,hcap⟩

/-- The calibration never raises a confidence, up to its rounding, and never gives more than
ninety-five percent. -/
theorem calibrate_le {log1p : K→K} (hmono : ∀ x y,0≤x→x≤y→log1p x≤ log1p y)
    (hpos : 0< log1p (1.0-0.85)) {raw : K} (h0 : 0≤ raw) (h1 : raw≤1) (components : Dict String K)
    (regime : Option (Regime K)) :
    0≤ round4 (calibrate log1p raw components regime) ∧
      round4 (calibrate log1p raw components regime)≤ round4 raw ∧
      round4 (calibrate log1p raw components regime)≤0.95 := by
  have hzero : round4 (0 : K)=0 := by simpa using round4_decimals (K := K) 0
  have hmost : round4 (0.95 : K)=0.95 := by
    have h := round4_decimals (K := K) 9500
    norm_num at h ⊢
    exact h
  unfold calibrate
  split
  · have hhalf : max 0 (min (raw*0.5) 1)=raw*0.5 := by
      have hnonneg : 0≤ raw*0.5 := by positivity
      rw [min_eq_left (by linarith),max_eq_right hnonneg]
    rw [hhalf]
    refine ⟨hzero.symm.trans_le (round4_mono (by positivity)),round4_mono (by linarith),
      (round4_mono (by linarith)).trans_eq hmost⟩
  · dsimp only
    generalize components.values=values
    obtain ⟨hlower,hcap⟩ := firstSteps_le hmono hpos h0 h1 values regime
    have hcount := countStep_le h0 hlower values.length
    have hcount' := countStep_le (by norm_num : (0 : K)≤0.95) hcap values.length
    rw [round4_round4]
    refine ⟨hzero.symm.trans_le (round4_mono (le_max_left _ _)),
      round4_mono (max_le h0 ((min_le_right _ _).trans hcount)),
      (round4_mono (max_le (by norm_num) ((min_le_right _ _).trans hcount'))).trans_eq hmost⟩

/-- The thresholds are from ten to fifty percent. -/
theorem computeThresholds_range (regime : Regime K) :
    0.10≤(computeThresholds regime).1 ∧ (computeThresholds regime).1≤0.50 ∧
      (computeThresholds regime).2=(computeThresholds regime).1 := by
  have hleast : ((1000 : ℤ) : K)/10000≤ max 0.10 (min 0.50 (blendedThreshold regime)) := by
    refine le_trans ?_ (le_max_left _ _)
    norm_num
  have hmost : max 0.10 (min 0.50 (blendedThreshold regime))≤((5000 : ℤ) : K)/10000 := by
    refine max_le ?_ ((min_le_left _ _).trans ?_) <;> norm_num
  obtain ⟨h,h'⟩ := round4_between hleast hmost
  unfold computeThresholds
  norm_num at h h' ⊢
  exact ⟨h,h'⟩

/-- Both thresholds of a signal are the same, from ten to fifty percent. -/
theorem ensemble_thresholds (log1p : K→K) (riskProfile : RiskProfile) (weights : Weights K)
    (ticker : String) (signals : List (StrategySignalInput K)) (detected : Option (Regime K)) :
    0.10≤(generateEnsembleSignal log1p riskProfile weights ticker signals detected).buyThreshold ∧
      (generateEnsembleSignal log1p riskProfile weights ticker signals detected).buyThreshold≤0.50 ∧
      (generateEnsembleSignal log1p riskProfile weights ticker signals detected).sellThreshold=
        (generateEnsembleSignal log1p riskProfile weights ticker signals detected).buyThreshold := by
  unfold generateEnsembleSignal
  split
  · norm_num
  · exact computeThresholds_range (detected.getD noPrices)

/-- Whatever the weights, the signals and the regime are: the signal is from minus one to one, the
thresholds are from ten to fifty percent, and the confidence is at most the one before the
calibration and at most ninety-five percent. -/
theorem ensemble_bounds {log1p : K→K} (hmono : ∀ x y,0≤x→x≤y→log1p x≤ log1p y)
    (hpos : 0< log1p (1.0-0.85)) (riskProfile : RiskProfile) (weights : Weights K) (ticker : String)
    (signals : List (StrategySignalInput K)) (detected : Option (Regime K)) (s : EnsembleSignal K)
    (hs : s=generateEnsembleSignal log1p riskProfile weights ticker signals detected) :
    (-1≤ s.finalSignal ∧ s.finalSignal≤1) ∧ (0.10≤ s.buyThreshold ∧ s.buyThreshold≤0.50) ∧
      s.sellThreshold=s.buyThreshold ∧ 0≤ s.finalConfidence ∧
      s.finalConfidence≤ s.rawConfidence ∧ s.finalConfidence≤0.95 ∧ s.rawConfidence≤1 := by
  obtain ⟨hthreshold,hthreshold',hsame⟩ :=
    ensemble_thresholds log1p riskProfile weights ticker signals detected
  rw [← hs] at hthreshold hthreshold' hsame
  have hranges : (-1≤ s.finalSignal ∧ s.finalSignal≤1) ∧ 0≤ s.finalConfidence ∧
      s.finalConfidence≤ s.rawConfidence ∧ s.finalConfidence≤0.95 ∧ s.rawConfidence≤1 := by
    rw [hs]
    unfold generateEnsembleSignal
    split
    · norm_num
    · dsimp only
      generalize detected.getD noPrices=regime
      generalize adjustWeights weights regime.toRegimeInfo=routed
      generalize meanOver routed (signalMap signals) (fun s => s.value*s.confidence)=mean
      generalize meanOver routed (signalMap signals) (fun s => s.confidence)=confidence
      have hone : (1.0 : K)=1 := by norm_num
      rw [hone]
      obtain ⟨hleast,hmost⟩ := round4_between (x := max (-1) (min 1 mean)) (m := -10000)
        (n := 10000) (le_trans (by norm_num) (le_max_left _ _))
        (max_le (by norm_num) ((min_le_left _ _).trans (by norm_num)))
      have hraw0 : 0≤ max 0 (min 1 confidence) := le_max_left _ _
      have hraw1 : max 0 (min 1 confidence)≤1 := max_le zero_le_one (min_le_left _ _)
      obtain ⟨_,hraw⟩ := round4_between (x := max 0 (min 1 confidence)) (m := 0) (n := 10000)
        (hraw0.trans' (by norm_num)) (hraw1.trans (by norm_num))
      obtain ⟨hnonneg,hlower,hcap⟩ := calibrate_le hmono hpos hraw0 hraw1
        ((matched routed (signalMap signals)).mapItems fun _ m => round4 m.2.value) (some regime)
      norm_num at hleast hmost hraw
      exact ⟨⟨hleast,hmost⟩,hnonneg,hlower,hcap,hraw⟩
  exact ⟨hranges.1,⟨hthreshold,hthreshold'⟩,hsame,hranges.2⟩

/-- The bounds with the logarithm itself. -/
theorem ensemble_bounds_log : (generateEnsembleSignal (fun x : ℝ => Real.log (1+x)) .balanced
    (ensembleDefaultWeights .balanced) "005930" [⟨"SENTIMENT",1,1,""⟩] none).finalConfidence≤
      0.95 := by
  have hmono : ∀ x y : ℝ,0≤x→x≤y→Real.log (1+x)≤ Real.log (1+y) := by
    intro x y hx hxy
    exact Real.log_le_log (by linarith) (by linarith)
  have hpos : 0< Real.log (1+(1.0-0.85)) := Real.log_pos (by norm_num)
  exact (ensemble_bounds hmono hpos .balanced (ensembleDefaultWeights .balanced) "005930"
    [⟨"SENTIMENT",1,1,""⟩] none _ rfl).2.2.2.2.2.1

end Bounds

section Alone

variable {K : Type*} [Field K] [LinearOrder K]

/-- One signal belongs to one weight at most. -/
theorem length_matched_singleton (routed : Weights K) (s : StrategySignalInput K) :
    (matched routed (signalMap [s])).values.length≤1 := by
  have hkeys : ∀ key∈(matched routed (signalMap [s])).keys,key=s.strategy := by
    intro key hkey
    obtain ⟨item,hitem,rfl⟩ := List.mem_map.mp hkey
    obtain ⟨source,_,hsome⟩ := List.mem_filterMap.mp hitem
    obtain ⟨found,hfound,rfl⟩ := Option.map_eq_some_iff.mp hsome
    dsimp only at hfound ⊢
    split at hfound
    · cases hfound
    · obtain ⟨t,ht,_⟩ := Option.map_eq_some_iff.mp hfound
      change ((Dict.empty : Dict String (StrategySignalInput K)).set s.strategy s).get? source.1=
        some t at ht
      rw [Dict.get?_set] at ht
      split at ht
      · assumption
      · cases ht
  have hnodup := (matched routed (signalMap [s])).nodup
  rw [← Dict.keys_length]
  change (matched routed (signalMap [s])).keys.Nodup at hnodup
  cases hlist : (matched routed (signalMap [s])).keys with
  | nil => exact Nat.zero_le _
  | cons first rest =>
    cases rest with
    | nil => exact Nat.le_refl _
    | cons second rest =>
      rw [hlist] at hkeys hnodup
      have hfirst := hkeys first List.mem_cons_self
      have hsecond := hkeys second (List.mem_cons_of_mem _ List.mem_cons_self)
      rw [hfirst,hsecond] at hnodup
      exact absurd List.mem_cons_self (List.nodup_cons.mp hnodup).1

variable [IsStrictOrderedRing K] [FloorRing K]

/-- The confidence of an ensemble of one strategy is below a third. -/
theorem single_confidence {log1p : K→K} (hmono : ∀ x y,0≤x→x≤y→log1p x≤ log1p y)
    (hpos : 0< log1p (1.0-0.85)) (riskProfile : RiskProfile) (weights : Weights K) (ticker : String)
    (s : StrategySignalInput K) (detected : Option (Regime K)) :
    (generateEnsembleSignal log1p riskProfile weights ticker [s] detected).finalConfidence≤
      0.3167 := by
  have hdecimals : ((3167 : ℤ) : K)/10000=0.3167 := by norm_num
  have hzero : round4 (0 : K)=0 := by simpa using round4_decimals (K := K) 0
  change round4 (calibrate log1p (max 0 (min 1.0 (meanOver _ (signalMap [s]) _))) ((matched _
    (signalMap [s])).mapItems _) (some (detected.getD noPrices)))≤0.3167
  generalize adjustWeights weights (detected.getD noPrices).toRegimeInfo=routed
  have hvalues := length_matched_singleton routed s
  unfold calibrate
  split
  · rename_i hempty
    have hnone : (matched routed (signalMap [s])).values=[] := by
      have hitems := List.isEmpty_iff.mp hempty
      exact List.map_eq_nil_iff.mpr (List.map_eq_nil_iff.mp hitems)
    have hmean : meanOver routed (signalMap [s]) (fun s => s.confidence)=0 := by
      unfold meanOver sumOver
      rw [hnone]
      exact if_neg (lt_irrefl _)
    rw [hmean]
    norm_num
    rw [hzero]
    norm_num
  · rename_i hsome
    have hlength : ((matched routed (signalMap [s])).mapItems fun _ m =>
        round4 m.2.value).values.length=1 := by
      rw [← Dict.keys_length,Dict.keys_mapItems,Dict.keys_length]
      refine le_antisymm hvalues (Nat.one_le_iff_ne_zero.mpr fun hnone => hsome ?_)
      rw [List.isEmpty_iff]
      exact List.map_eq_nil_iff.mpr
        (List.map_eq_nil_iff.mp (List.length_eq_zero_iff.mp hnone))
    have hraw1 : max 0 (min 1.0 (meanOver routed (signalMap [s]) fun s => s.confidence))≤1 :=
      max_le zero_le_one ((min_le_left _ _).trans (by norm_num))
    have hcap := (firstSteps_le hmono hpos (le_max_left _ _) hraw1
      ((matched routed (signalMap [s])).mapItems fun _ m => round4 m.2.value).values
      (some (detected.getD noPrices))).2
    have hthird : ∀ c : K,c≤0.95→ countStep c 1≤0.3167 := by
      intro c hc
      unfold countStep
      rw [if_pos (by decide)]
      norm_num [minStrategies] at hc ⊢
      linarith
    dsimp only
    rw [round4_round4,hlength,← hdecimals]
    refine (round4_mono (max_le (by norm_num) ((min_le_right _ _).trans ?_))).trans_eq
      (round4_decimals 3167)
    rw [hdecimals]
    exact hthird _ hcap

end Alone

end Aqts.EnsembleSignals
