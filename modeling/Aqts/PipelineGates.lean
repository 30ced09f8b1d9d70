import Aqts.EnsembleSignals

/-!
# Gates of the analysis pipeline

`core.gates`: the data, signal and ensemble gates with their thresholds and texts. A result
has at most five hundred characters of a reason, since its model refuses more. The time and
the id of the decision of a result are left out.
-/

namespace Aqts.PipelineGates

open Dictionary EnsembleSignals PandasSeries RegimeRouting StrategyWeights WeightLimits

/-- `GateDecision`. -/
inductive GateDecision
  | pass | block
  deriving DecidableEq

/-- `GateSeverity`. -/
inductive GateSeverity
  | info | warning | error | critical
  deriving DecidableEq

/-- A value in the context of a result. -/
inductive ContextValue (K : Type*)
  /-- A count. -/
  | count (n : ℤ)
  /-- A number. -/
  | number (x : K)
  /-- A text. -/
  | text (text : String)
deriving DecidableEq

/-- `GateResult`. -/
structure GateResult (K : Type*) where
  /-- `gate_id`. -/
  gateId : String
  /-- `decision`. -/
  decision : GateDecision
  /-- `reason`. -/
  reason : String
  /-- `severity`. -/
  severity : GateSeverity
  /-- `context`. -/
  context : List (String×ContextValue K)
  /-- `max_length=500`. -/
  short : reason.length≤500
deriving DecidableEq

/-- What a gate gives, or the text of an exception. -/
abbrev Judgement (K : Type*) := Except String (GateResult K)

/-- Texts of numbers in the reasons. -/
structure GateTexts (K : Type*) where
  /-- `{:.2%}`. -/
  percent2 : K→String
  /-- `{:.4f}`. -/
  fixed4 : K→String

section Gates

variable {K : Type*}

/-- A result, if its reason is short enough. -/
def judge (gateId : String) (decision : GateDecision) (reason : String) (severity : GateSeverity)
    (context : List (String×ContextValue K)) : Judgement K :=
  if h : reason.length≤500 then .ok ⟨gateId,decision,reason,severity,context,h⟩
  else .error "String should have at most 500 characters"

/-- `_pass`. -/
def passed (gateId reason : String) (context : List (String×ContextValue K)) : Judgement K :=
  judge gateId .pass reason .info context

/-- `_block`. -/
def blocked (gateId reason : String) (severity : GateSeverity)
    (context : List (String×ContextValue K)) : Judgement K :=
  judge gateId .block reason severity context

/-- A judgement has the decision that it was made with. -/
theorem judge_ok {gateId reason : String} {decision : GateDecision} {severity : GateSeverity}
    {context : List (String×ContextValue K)} {result : GateResult K}
    (h : judge gateId decision reason severity context=.ok result) :
    result.gateId=gateId ∧ result.decision=decision := by
  unfold judge at h
  split at h
  · cases h
    exact ⟨rfl,rfl⟩
  · cases h

variable [Field K] [LinearOrder K]

/-- `DataGate.evaluate`, for records with the number of days that are missing, if they have one. -/
def dataGate (texts : GateTexts K) (records : Option (List (Option ℤ)))
    (maxMissing : ℤ) (outlierRatio outlierThreshold : K) : Judgement K :=
  match records with
  | none | some [] => blocked "DataGate" "데이터가 비어 있습니다" .critical []
  | some records =>
    match records.filterMap id |>.find? fun missing => maxMissing< missing with
    | some missing =>
      blocked "DataGate"
        ("연속 결측 "++toString missing++"일 > 한도 "++toString maxMissing++"일") .error
        [("consecutive_missing",.count missing)]
    | none =>
      if outlierThreshold< outlierRatio then
        blocked "DataGate" ("이상치 비율 "++texts.percent2 outlierRatio++" > 임계값 "++
          texts.percent2 outlierThreshold) .warning [("outlier_ratio",.number outlierRatio)]
      else
        passed "DataGate" ("데이터 품질 검증 통과 ("++toString records.length++"건)")
          [("record_count",.count records.length)]

omit [Field K] in
/-- The data gate passes exactly if there are records, none of them with a longer gap than is
allowed, and no more outliers than that. -/
theorem dataGate_iff (texts : GateTexts K) (records : Option (List (Option ℤ))) (maxMissing : ℤ)
    (outlierRatio outlierThreshold : K) (result : GateResult K)
    (h : dataGate texts records maxMissing outlierRatio outlierThreshold=.ok result) :
    result.decision=.pass ↔ records.getD []≠[] ∧
      (∀ missing,some missing∈records.getD []→ missing≤ maxMissing) ∧
      outlierRatio≤outlierThreshold := by
  match records with
  | none =>
    unfold dataGate at h
    dsimp only at h
    rw [(judge_ok h).2]
    exact ⟨nofun,fun hpass => absurd rfl hpass.1⟩
  | some [] =>
    unfold dataGate at h
    dsimp only at h
    rw [(judge_ok h).2]
    exact ⟨nofun,fun hpass => absurd rfl hpass.1⟩
  | some (first::later) =>
    unfold dataGate at h
    dsimp only at h
    cases hfind : ((first::later).filterMap id).find? fun missing => maxMissing< missing with
    | some missing =>
      rw [hfind] at h
      obtain ⟨hlong,-⟩ := List.find?_eq_some_iff_append.mp hfind
      have hmem := List.mem_of_find?_eq_some hfind
      rw [List.mem_filterMap] at hmem
      obtain ⟨record,hrecord,rfl⟩ := hmem
      rw [(judge_ok h).2]
      refine ⟨nofun,fun hpass => ?_⟩
      have hshort := hpass.2.1 missing hrecord
      rw [decide_eq_true_eq] at hlong
      omega
    | none =>
      rw [hfind] at h
      dsimp only at h
      have hshort : ∀ missing,some missing∈first::later→ missing≤ maxMissing := by
        intro missing hrecord
        have hnot := List.find?_eq_none.mp hfind missing
          (List.mem_filterMap.mpr ⟨some missing,hrecord,rfl⟩)
        rw [decide_eq_true_eq] at hnot
        exact not_lt.mp hnot
      split at h
      · rename_i hratio
        rw [(judge_ok h).2]
        exact ⟨nofun,fun hpass => absurd hpass.2.2 (not_le.mpr hratio)⟩
      · rename_i hratio
        rw [(judge_ok h).2]
        exact ⟨fun _ => ⟨nofun,hshort,not_lt.mp hratio⟩,fun _ => rfl⟩

/-- `SignalGate.evaluate`, for signals with a value. -/
def signalGate (holdThreshold : K) (signals : Option (List (StrategySignalInput K))) :
    Judgement K :=
  match signals with
  | none | some [] => blocked "SignalGate" "시그널이 없습니다" .critical []
  | some signals =>
    let active := signals.countP fun s => holdThreshold< |s.value|
    if active=0 then
      blocked "SignalGate" ("모든 시그널이 HOLD ("++toString signals.length++"건)") .warning
        [("total_signals",.count signals.length)]
    else
      passed "SignalGate"
        ("시그널 검증 통과 (활성 "++toString active++"/"++toString signals.length++"건)")
        [("active_signals",.count active),("total_signals",.count signals.length)]

/-- The signal gate passes exactly if some signal is stronger than a HOLD. -/
theorem signalGate_iff (holdThreshold : K) (signals : Option (List (StrategySignalInput K)))
    (result : GateResult K) (h : signalGate holdThreshold signals=.ok result) :
    result.decision=.pass ↔ ∃ s∈signals.getD [],holdThreshold< |s.value| := by
  match signals with
  | none =>
    unfold signalGate at h
    dsimp only at h
    rw [(judge_ok h).2]
    exact ⟨nofun,nofun⟩
  | some [] =>
    unfold signalGate at h
    dsimp only at h
    rw [(judge_ok h).2]
    exact ⟨nofun,nofun⟩
  | some (first::later) =>
    unfold signalGate at h
    dsimp only at h
    have hactive : 0<(first::later).countP (fun s => decide (holdThreshold< |s.value|)) ↔
        ∃ s∈first::later,holdThreshold< |s.value| := by
      rw [List.countP_pos_iff]
      simp only [decide_eq_true_eq]
    split at h
    · rename_i hnone
      rw [(judge_ok h).2,Option.getD_some,← hactive,hnone]
      exact ⟨nofun,nofun⟩
    · rename_i hsome
      rw [(judge_ok h).2,Option.getD_some,← hactive]
      exact ⟨fun _ => Nat.pos_of_ne_zero hsome,fun _ => rfl⟩

/-- The largest of some numbers: Python's `max`, the first one of the largest. -/
def heaviest (weights : Weights K) : Option (String×K) := weights.items.argmax Prod.snd

/-- `EnsembleGate.evaluate`, for the weights of strategies. -/
def ensembleGate (texts : GateTexts K) (maxSingleStrategyWeight : K)
    (weights : Option (Weights K)) : Judgement K :=
  match weights with
  | none => blocked "EnsembleGate" "앙상블 결과가 없습니다" .critical []
  | some weights =>
    match heaviest weights with
    | none => blocked "EnsembleGate" "앙상블 가중치가 비어 있습니다" .critical []
    | some (maxStrategy,maxWeight) =>
      let weightSum := weights.values.sum
      if 0.01< |weightSum-1.0| then
        blocked "EnsembleGate" ("가중치 합 "++texts.fixed4 weightSum++" ≠ 1.0") .error
          [("weight_sum",.number weightSum)]
      else if maxSingleStrategyWeight< maxWeight then
        blocked "EnsembleGate" ("전략 '"++maxStrategy++"' 가중치 "++texts.percent2 maxWeight++
          " > 한도 "++texts.percent2 maxSingleStrategyWeight) .warning
          [("max_strategy",.text maxStrategy),("max_weight",.number maxWeight)]
      else
        passed "EnsembleGate" ("앙상블 검증 통과 ("++toString weights.items.length++"개 전략)")
          [("strategy_count",.count weights.items.length),("weight_sum",.number weightSum)]

/-- The ensemble gate passes exactly if there are weights that sum to one up to a hundredth, none
of them more than the largest one that is allowed. -/
theorem ensembleGate_pass_iff (texts : GateTexts K) (maxWeight : K) (weights : Option (Weights K))
    (result : GateResult K) (h : ensembleGate texts maxWeight weights=.ok result) :
    result.decision=.pass ↔ ∃ used,weights=some used ∧ used.items≠[] ∧
      |used.values.sum-1.0|≤0.01 ∧ ∀ v∈used.values,v≤ maxWeight := by
  unfold ensembleGate heaviest at h
  rcases weights with _ | used
  · rw [(judge_ok h).2]
    exact ⟨nofun,nofun⟩
  have hused : (∃ given,some used=some given ∧ given.items≠[] ∧ |given.values.sum-1.0|≤0.01 ∧
      ∀ v∈given.values,v≤ maxWeight) ↔ used.items≠[] ∧ |used.values.sum-1.0|≤0.01 ∧
        ∀ v∈used.values,v≤ maxWeight := by
    constructor
    · rintro ⟨_,⟨⟩,hpass⟩
      exact hpass
    · exact fun hpass => ⟨used,rfl,hpass⟩
  rw [hused]
  dsimp only at h
  cases hmax : used.items.argmax Prod.snd with
  | none =>
    have hnil := List.argmax_eq_none.mp hmax
    rw [hmax] at h
    rw [(judge_ok h).2]
    exact ⟨nofun,fun hpass => absurd hnil hpass.1⟩
  | some item =>
    have hitems : used.items≠[] := List.ne_nil_of_mem (List.argmax_mem hmax)
    have hall : (∀ v∈used.values,v≤ maxWeight) ↔ item.2≤ maxWeight := by
      constructor
      · exact fun hle => hle _ (List.mem_map_of_mem (List.argmax_mem hmax))
      · intro hle v hv
        obtain ⟨other,hother,rfl⟩ := List.mem_map.mp hv
        exact (List.le_of_mem_argmax hother hmax).trans hle
    rw [hmax] at h
    dsimp only at h
    rw [hall]
    split at h
    · rename_i hsum
      rw [(judge_ok h).2]
      exact ⟨nofun,fun hpass => absurd hpass.2.1 (not_le.mpr hsum)⟩
    rename_i hsum
    split at h
    · rename_i hheavy
      rw [(judge_ok h).2]
      exact ⟨nofun,fun hpass => absurd hpass.2.2 (not_le.mpr hheavy)⟩
    · rename_i hlight
      rw [(judge_ok h).2]
      exact ⟨fun _ => ⟨hitems,not_lt.mp hsum,not_lt.mp hlight⟩,fun _ => rfl⟩

end Gates

section UsedWeights

variable {K : Type*} [Field K] [LinearOrder K] [IsStrictOrderedRing K]

/-- A raised share is not negative. -/
theorem raisedShare_nonneg {regimeInfo : RegimeInfo K} (h0 : 0≤ regimeInfo.confidence)
    (h1 : regimeInfo.confidence≤1) {total : K} (htotal : 0< total) (key : String) (weight : K) :
    0≤ raisedShare regimeInfo total key weight := by
  have hweighted : 0≤ weighted regimeInfo key weight := by
    unfold weighted
    split
    · exact le_rfl
    · rename_i hpos
      exact mul_nonneg (not_le.mp hpos).le (blendedMult_pos h0 h1 key).le
  exact (div_nonneg hweighted htotal.le).trans (le_raisedShare _ _ _ _)

variable {baseWeights : Weights K} {regimeInfo : RegimeInfo K}

/-- Weights before the rounding are not negative and sum to one. -/
theorem unrounded_shares (h0 : 0≤ regimeInfo.confidence) (h1 : regimeInfo.confidence≤1)
    (htotal : 0<(multiplied baseWeights regimeInfo).values.sum) :
    (∀ v∈(unrounded baseWeights regimeInfo).values,0≤v) ∧
      (unrounded baseWeights regimeInfo).values.sum=1 := by
  have hraised := zero_lt_one.trans_le (one_le_raised htotal)
  rw [unrounded_eq htotal]
  constructor
  · intro v hv
    obtain ⟨item,hitem,rfl⟩ := List.mem_map.mp hv
    obtain ⟨source,_,rfl⟩ := List.mem_map.mp hitem
    exact div_nonneg (raisedShare_nonneg h0 h1 htotal _ _) hraised.le
  · rw [sum_values_div]
    exact div_self hraised.ne'

variable [FloorRing K]

/-- Positive numbers with four decimals, rounded again, have the sum of all of them. -/
theorem sum_positive_round4 {xs : List K} (h : ∀ x∈xs,0≤x) :
    (((xs.map round4).filter fun x => 0<x).map round4).sum=(xs.map round4).sum := by
  induction xs with
  | nil => rfl
  | cons x rest ih =>
    have hrest := ih fun y hy => h y (List.mem_cons_of_mem _ hy)
    rw [List.map_cons,List.sum_cons,← hrest]
    by_cases hpos : 0< round4 x
    · rw [List.filter_cons_of_pos (by simpa using hpos),List.map_cons,List.sum_cons,round4_round4]
    · have hzero : round4 x=0 := by
        refine le_antisymm (not_lt.mp hpos) ?_
        have hround := round4_mono (h x List.mem_cons_self)
        simpa using (round4_decimals (K := K) 0).symm.trans_le (by simpa using hround)
      rw [List.filter_cons_of_neg (by simpa using hpos),hzero,zero_add]

/-- `weights_used`, from the routed weights. -/
def usedWeights (routed : Weights K) : Weights K :=
  (routed.filter fun _ v => 0<v).mapItems fun _ v => round4 v

/-- The weights of a signal sum to one, up to a half of the last decimal for each strategy. -/
theorem abs_usedWeights_sub_le (h0 : 0≤ regimeInfo.confidence) (h1 : regimeInfo.confidence≤1)
    (htotal : 0<(multiplied baseWeights regimeInfo).values.sum) :
    |(usedWeights (adjustWeights baseWeights regimeInfo)).values.sum-1|≤
      baseWeights.items.length/20000 := by
  obtain ⟨hnonneg,hsum⟩ := unrounded_shares h0 h1 htotal
  have hvalues : (usedWeights (adjustWeights baseWeights regimeInfo)).values=
      (((unrounded baseWeights regimeInfo).values.map round4).filter fun x => 0<x).map round4 := by
    rw [adjustWeights_eq htotal]
    unfold usedWeights Dict.mapItems Dict.filter Dict.values
    dsimp only
    rw [List.map_map,List.map_map,List.filter_map,List.filter_map,List.map_map,List.map_map]
    rfl
  have hlength : (unrounded baseWeights regimeInfo).values.length=baseWeights.items.length := by
    rw [unrounded_eq htotal]
    unfold Dict.mapItems Dict.values
    rw [List.length_map,List.length_map]
  have hnear := abs_sum_round4_sub_le (unrounded baseWeights regimeInfo).values
  rw [hvalues,sum_positive_round4 hnonneg]
  rwa [hsum,hlength] at hnear

omit [IsStrictOrderedRing K] in
/-- Without an active strategy no weight is used. -/
theorem usedWeights_inactive (h : ∀ key w,baseWeights.get? key=some w→w≤0) :
    (usedWeights (adjustWeights baseWeights regimeInfo)).items=[] := by
  have hsum : (baseWeights.mapItems fun _ _ => (0 : K)).values.sum=0 := by
    unfold Dict.values Dict.mapItems
    dsimp only
    rw [List.map_map]
    exact List.sum_eq_zero fun x hx => by
      obtain ⟨_,_,rfl⟩ := List.mem_map.mp hx
      rfl
  have hmultiplied : multiplied baseWeights regimeInfo=baseWeights.mapItems fun _ _ => 0 :=
    Dict.mapItems_congr fun key w hw => if_pos (h key w hw)
  have hraised : raised baseWeights (rescaled (multiplied baseWeights regimeInfo))=
      baseWeights.mapItems fun _ _ => 0 := by
    unfold rescaled raised
    dsimp only
    rw [hmultiplied,hsum,if_neg (lt_irrefl _),Dict.mapItems_mapItems]
    refine Dict.mapItems_congr fun key w hw => if_neg ?_
    rw [hw,Option.getD_some,not_and]
    exact fun hpos => absurd hpos (not_lt.mpr (h key w hw))
  unfold adjustWeights
  dsimp only
  rw [hraised,hsum,if_neg (lt_irrefl _)]
  unfold usedWeights Dict.filter Dict.mapItems
  dsimp only
  rw [List.map_eq_nil_iff,List.filter_eq_nil_iff]
  intro item hitem
  obtain ⟨_,_,rfl⟩ := List.mem_map.mp hitem
  simp

omit [IsStrictOrderedRing K] in
/-- The weights of a signal are those of its routed strategies. -/
theorem generateEnsembleSignal_weightsUsed (log1p : K→K) (riskProfile : RiskProfile)
    (ticker : String) {signals : List (StrategySignalInput K)} (hsome : signals≠[])
    (detected : Option (Regime K)) :
    (generateEnsembleSignal log1p riskProfile baseWeights ticker signals detected).weightsUsed=
      usedWeights (adjustWeights baseWeights (detected.getD noPrices).toRegimeInfo) := by
  have hfull : ¬signals.isEmpty=true := fun h => hsome (List.isEmpty_iff.mp h)
  unfold generateEnsembleSignal
  rw [if_neg hfull]
  rfl

/-- The ensemble gate on the weights of a signal that is made of some strategy's, whatever weights
are stored: their sum never blocks, so it passes exactly if some strategy is active and none has
more than the largest weight. Rounding could add up to a hundredth from two hundred strategies on
only. -/
theorem ensembleGate_iff (texts : GateTexts K) (maxWeight : K) (log1p : K→K)
    (riskProfile : RiskProfile) (ticker : String) {signals : List (StrategySignalInput K)}
    (hsome : signals≠[]) {detected : Option (Regime K)}
    (h0 : 0≤(detected.getD noPrices).toRegimeInfo.confidence)
    (h1 : (detected.getD noPrices).toRegimeInfo.confidence≤1)
    (hmany : baseWeights.items.length<200) (result : GateResult K)
    (h : ensembleGate texts maxWeight (some (generateEnsembleSignal log1p riskProfile baseWeights
      ticker signals detected).weightsUsed)=.ok result) :
    result.decision=.pass ↔ (∃ key w,baseWeights.get? key=some w ∧ 0<w) ∧
      ∀ v∈(generateEnsembleSignal log1p riskProfile baseWeights ticker signals
        detected).weightsUsed.values,v≤ maxWeight := by
  have hone : (1.0 : K)=1 := by norm_num
  rw [ensembleGate_pass_iff texts maxWeight _ result h,hone]
  rw [generateEnsembleSignal_weightsUsed log1p riskProfile ticker hsome]
  generalize (detected.getD noPrices).toRegimeInfo=regimeInfo at h0 h1 ⊢
  constructor
  · rintro ⟨_,⟨⟩,hitems,-,hlight⟩
    refine ⟨?_,hlight⟩
    by_contra hinactive
    refine hitems (usedWeights_inactive fun key w hw => ?_)
    by_contra hpos
    exact hinactive ⟨key,w,hw,not_le.mp hpos⟩
  · rintro ⟨⟨key,w,hw,hpos⟩,hlight⟩
    have hnear := abs_usedWeights_sub_le h0 h1 (multiplied_sum_pos h0 h1 hw hpos)
    have hcount : (baseWeights.items.length : K)/20000≤0.01 := by
      rw [div_le_iff₀ (by norm_num)]
      norm_num
      exact hmany.le
    refine ⟨_,rfl,fun hnil => ?_,hnear.trans hcount,hlight⟩
    have hfar := hnear.trans hcount
    unfold Dict.values at hfar
    rw [hnil] at hfar
    norm_num at hfar

/-- Texts of a small run. -/
def smallTexts : GateTexts ℚ := ⟨fun _ => "",fun _ => ""⟩

/-- The result for the weights of a balanced profile. -/
def balancedResult : GateResult ℚ where
  gateId := "EnsembleGate"
  decision := .pass
  reason := "앙상블 검증 통과 (5개 전략)"
  severity := .info
  context := [("strategy_count",.count 5),("weight_sum",.number 1)]
  short := by decide

/-- The signal of one strategy that buys, under a balanced profile. -/
def buySignal : EnsembleSignal ℚ :=
  generateEnsembleSignal (fun x => x) .balanced (ensembleDefaultWeights .balanced) "005930"
    [⟨"FACTOR",1,1,""⟩] none

/-- The weights of a balanced profile pass. -/
theorem ensembleGate_iff_balanced :
    (∃ key w,(ensembleDefaultWeights .balanced : Weights ℚ).get? key=some w ∧ 0<w) ∧
      ∀ v∈buySignal.weightsUsed.values,v≤0.6 :=
  (ensembleGate_iff smallTexts 0.6 (fun x => x) .balanced "005930" (List.cons_ne_nil _ _)
    (by decide +kernel) (by decide +kernel) (by decide +kernel) balancedResult
    (by decide +kernel)).mp rfl

end UsedWeights

end Aqts.PipelineGates
