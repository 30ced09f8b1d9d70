import Aqts.EnsembleSignals

/-!
# Directions of the ensemble signal

How the ensemble signal follows its strategies: it rises with their values, it is
reflected when all of them are, and it asks for nothing that no strategy asks for.
-/

namespace Aqts.EnsembleSignals

open Dictionary RegimeRouting StrategyWeights

section Sums

variable {K : Type*} [Field K] [LinearOrder K]

/-- What a strategy adds to a sum. -/
def contribution (signals : Dict String (StrategySignalInput K)) (f : StrategySignalInput K→K)
    (item : String×K) : K :=
  if item.2≤0 then 0 else ((signals.get? item.1).map fun s => f s*item.2).getD 0

/-- A sum over all weights, of which those that are skipped add nothing. -/
theorem sumOver_eq (routed : Weights K) (signals : Dict String (StrategySignalInput K))
    (f : StrategySignalInput K→K) :
    sumOver routed signals f=(routed.items.map (contribution signals f)).sum := by
  unfold sumOver matched Dict.filterMap Dict.values
  dsimp only
  induction routed.items with
  | nil => rfl
  | cons item rest ih =>
    rw [List.filterMap_cons,List.map_cons,List.sum_cons,← ih]
    unfold contribution
    by_cases hweight : item.2≤0
    · rw [if_pos hweight,if_pos hweight,Option.map_none,zero_add]
    · rw [if_neg hweight,if_neg hweight]
      cases signals.get? item.1 with
      | none => exact (zero_add _).symm
      | some s => rfl

/-- Signals of the same strategies in the same order, the second one of each related to the first
one. -/
def Paired (r : StrategySignalInput K→StrategySignalInput K→Prop)
    (signals signals' : List (StrategySignalInput K)) : Prop :=
  List.Forall₂ (fun s s' => s.strategy=s'.strategy ∧ r s s') signals signals'

variable {r : StrategySignalInput K→StrategySignalInput K→Prop}
  {signals signals' : List (StrategySignalInput K)}

omit [Field K] [LinearOrder K] in
/-- Related signals stay related when they are assigned to dictionaries. -/
theorem Paired.get?_foldl (h : Paired r signals signals') (key : String)
    {d d' : Dict String (StrategySignalInput K)} (hd : Option.Rel r (d.get? key) (d'.get? key)) :
    Option.Rel r
      (((signals.map fun s => (s.strategy,s)).foldl (fun d item => d.set item.1 item.2) d).get? key)
      (((signals'.map fun s => (s.strategy,s)).foldl (fun d item => d.set item.1 item.2)
        d').get? key) := by
  induction h generalizing d d' with
  | nil => exact hd
  | cons hfirst _ ih =>
    rw [List.map_cons,List.map_cons,List.foldl_cons,List.foldl_cons]
    refine ih ?_
    dsimp only
    rw [Dict.get?_set,Dict.get?_set,← hfirst.1]
    split
    · exact .some hfirst.2
    · exact hd

omit [Field K] [LinearOrder K] in
/-- The signals of one strategy are related. -/
theorem Paired.get? (h : Paired r signals signals') (key : String) :
    Option.Rel r ((signalMap signals).get? key) ((signalMap signals').get? key) :=
  h.get?_foldl key .none

/-- Sums over related signals are related by what holds of every strategy with a weight. -/
theorem Paired.contribution_congr (h : Paired r signals signals') {f f' : StrategySignalInput K→K}
    (hf : ∀ s s',r s s'→f s=f' s') (item : String×K) :
    contribution (signalMap signals) f item=contribution (signalMap signals') f' item := by
  unfold contribution
  split
  · rfl
  · have hrel := h.get? item.1
    generalize (signalMap signals).get? item.1=found at hrel ⊢
    generalize (signalMap signals').get? item.1=found' at hrel ⊢
    cases hrel with
    | none => rfl
    | some hr => rw [Option.map_some,Option.map_some,hf _ _ hr]

/-- Sums of values that are the same for related signals. -/
theorem Paired.sumOver_congr (h : Paired r signals signals') {f f' : StrategySignalInput K→K}
    (hf : ∀ s s',r s s'→f s=f' s') (routed : Weights K) :
    sumOver routed (signalMap signals) f=sumOver routed (signalMap signals') f' := by
  rw [sumOver_eq,sumOver_eq]
  exact congrArg List.sum (List.map_congr_left fun item _ => h.contribution_congr hf item)

/-- The total weight of the strategies with a signal. -/
theorem Paired.total_congr (h : Paired r signals signals') (routed : Weights K) :
    sumOver routed (signalMap signals) (fun _ => 1)=
      sumOver routed (signalMap signals') fun _ => 1 :=
  h.sumOver_congr (fun _ _ _ => rfl) routed

variable [IsStrictOrderedRing K]

/-- Sums of values that are not lower for the second signals. -/
theorem Paired.sumOver_le (h : Paired r signals signals') {f : StrategySignalInput K→K}
    (hf : ∀ s s',r s s'→f s≤f s') (routed : Weights K) :
    sumOver routed (signalMap signals) f≤ sumOver routed (signalMap signals') f := by
  rw [sumOver_eq,sumOver_eq]
  refine List.sum_le_sum fun item _ => ?_
  unfold contribution
  split
  · exact le_rfl
  · rename_i hweight
    have hrel := h.get? item.1
    generalize (signalMap signals).get? item.1=found at hrel ⊢
    generalize (signalMap signals').get? item.1=found' at hrel ⊢
    cases hrel with
    | none => exact le_rfl
    | some hr => exact mul_le_mul_of_nonneg_right (hf _ _ hr) (not_le.mp hweight).le

/-- Means of values that are not lower for the second signals. -/
theorem Paired.meanOver_le (h : Paired r signals signals') {f : StrategySignalInput K→K}
    (hf : ∀ s s',r s s'→f s≤f s') (routed : Weights K) :
    meanOver routed (signalMap signals) f≤ meanOver routed (signalMap signals') f := by
  unfold meanOver
  rw [← h.total_congr]
  split
  · rename_i htotal
    exact div_le_div_of_nonneg_right (h.sumOver_le hf routed) htotal.le
  · exact le_rfl

end Sums

section Orders

variable {K : Type*} [Field K] [LinearOrder K] [IsStrictOrderedRing K]

/-- A higher signal does not ask for less. -/
theorem actionOf_mono {signal signal' buyThreshold sellThreshold : K} (h : signal≤ signal')
    (hbuy : 0≤ buyThreshold) (hsell : 0≤ sellThreshold) :
    (actionOf signal buyThreshold sellThreshold=.buy→
      actionOf signal' buyThreshold sellThreshold=.buy) ∧
    (actionOf signal' buyThreshold sellThreshold=.sell→
      actionOf signal buyThreshold sellThreshold=.sell) := by
  unfold actionOf
  constructor
  · intro hasks
    split at hasks
    · rename_i hup
      rw [if_pos (hup.trans_le h)]
    · split at hasks <;> cases hasks
  · intro hasks
    split at hasks
    · cases hasks
    · split at hasks
      · rename_i hdown
        have hlow : signal< -sellThreshold := h.trans_lt hdown
        have hnot : ¬buyThreshold< signal := by linarith
        rw [if_neg hnot,if_pos hlow]
      · cases hasks

/-- The other direction of a signal. -/
theorem actionOf_neg {signal threshold : K} (h : 0≤ threshold) :
    actionOf (-signal) threshold threshold=(actionOf signal threshold threshold).opposite := by
  unfold actionOf
  by_cases hup : threshold< signal
  · have hnot : ¬threshold< -signal := by linarith
    rw [if_pos hup,if_neg hnot,if_pos (neg_lt_neg hup)]
    rfl
  · by_cases hdown : signal< -threshold
    · rw [if_neg hup,if_pos hdown,if_pos (lt_neg.mpr hdown)]
      rfl
    · have hnot : ¬threshold< -signal := fun hless => hdown (lt_neg.mp hless)
      have hnot' : ¬ -signal< -threshold := fun hless => hup (neg_lt_neg_iff.mp hless)
      rw [if_neg hup,if_neg hdown,if_neg hnot,if_neg hnot']
      rfl

variable [FloorRing K] (log1p : K→K) (riskProfile : RiskProfile) (weights : Weights K)
  (ticker : String) (detected : Option (Regime K))

omit [IsStrictOrderedRing K] in
/-- The action of an ensemble signal is the one that `classify_action` gives its value in the
regime of the prices, or in the regime without prices. -/
theorem classifyAction_ensemble {signals : List (StrategySignalInput K)} (hsome : signals≠[]) :
    (generateEnsembleSignal log1p riskProfile weights ticker signals detected).action=
      classifyAction (generateEnsembleSignal log1p riskProfile weights ticker signals
        detected).finalSignal (detected.getD noPrices) := by
  have hnonempty : ¬signals.isEmpty=true := fun h => hsome (List.isEmpty_iff.mp h)
  unfold generateEnsembleSignal
  rw [if_neg hnonempty]
  rfl

/-- The other direction is classified as the opposite. -/
theorem classifyAction_neg (signal : K) (regime : Regime K) :
    classifyAction (-signal) regime=(classifyAction signal regime).opposite := by
  obtain ⟨hleast,-,hsame⟩ := computeThresholds_range regime
  have hnonneg : 0≤(computeThresholds regime).1 := by
    refine le_trans ?_ hleast
    norm_num
  unfold classifyAction
  rw [hsame,actionOf_neg hnonneg]

/-- Raising the values of some strategies, with the same confidences, never lowers the ensemble
signal: what was a BUY stays one, and a SELL was one before. -/
theorem ensemble_mono (signals signals' : List (StrategySignalInput K))
    (h : Paired (fun s s' => s.confidence=s'.confidence ∧ 0≤ s.confidence ∧ s.value≤ s'.value)
      signals signals') (s s' : EnsembleSignal K)
    (hs : s=generateEnsembleSignal log1p riskProfile weights ticker signals detected)
    (hs' : s'=generateEnsembleSignal log1p riskProfile weights ticker signals' detected) :
    s.finalSignal≤ s'.finalSignal ∧ (s.action=.buy→s'.action=.buy) ∧
      (s'.action=.sell→s.action=.sell) := by
  have hsame : signals'.isEmpty=signals.isEmpty := by
    cases h <;> rfl
  unfold generateEnsembleSignal at hs hs'
  rw [hsame] at hs'
  by_cases hempty : signals.isEmpty=true
  · rw [if_pos hempty] at hs hs'
    rw [hs,hs']
    exact ⟨le_rfl,id,id⟩
  · rw [if_neg hempty] at hs hs'
    dsimp only at hs hs'
    generalize detected.getD noPrices=regime at hs hs'
    have hsignal : s.finalSignal≤ s'.finalSignal := by
      rw [hs,hs']
      refine round4_mono (max_le_max le_rfl (min_le_min le_rfl (h.meanOver_le ?_ _)))
      intro first second hr
      rw [hr.1]
      exact mul_le_mul_of_nonneg_right hr.2.2 (hr.1 ▸ hr.2.1)
    have hnonneg : 0≤(computeThresholds regime).1 :=
      le_trans (by norm_num) (computeThresholds_range regime).1
    refine ⟨hsignal,?_⟩
    unfold EnsembleSignal.action
    rw [hs,hs'] at hsignal ⊢
    exact actionOf_mono hsignal hnonneg hnonneg

/-- Signals of a balanced engine without stored weights and prices. Their confidences are too low
for the logarithm. -/
def smallSignal (signals : List (StrategySignalInput ℚ)) : EnsembleSignal ℚ :=
  generateEnsembleSignal id .balanced (ensembleDefaultWeights .balanced) "005930" signals none

/-- A sentiment that is half sure. -/
def halfSentiment : StrategySignalInput ℚ := ⟨"SENTIMENT",4/5,1/2,""⟩

/-- What is a BUY stays one with a higher value. -/
theorem ensemble_mono_sentiment : (smallSignal [⟨"SENTIMENT",1,1/2,""⟩]).action=.buy := by
  have hbuy : (smallSignal [halfSentiment]).action=.buy := by decide +kernel
  have hpaired : Paired (fun s s' => s.confidence=s'.confidence ∧ 0≤ s.confidence ∧
      s.value≤ s'.value) [halfSentiment] [⟨"SENTIMENT",1,1/2,""⟩] :=
    .cons ⟨rfl,rfl,by decide +kernel,by decide +kernel⟩ .nil
  exact (ensemble_mono id .balanced (ensembleDefaultWeights .balanced) "005930" none _ _ hpaired _ _
    rfl rfl).2.1 hbuy

end Orders

section Reflection

variable {K : Type*}

/-- The signal in the other direction. -/
def negated [Field K] (s : StrategySignalInput K) : StrategySignalInput K :=
  {s with value := -s.value}

/-- The signals of the strategies, each changed, from the changed list. -/
theorem signalMap_map (f : StrategySignalInput K→StrategySignalInput K)
    (hf : ∀ s,(f s).strategy=s.strategy) (signals : List (StrategySignalInput K)) :
    signalMap (signals.map f)=(signalMap signals).mapItems fun _ s => f s := by
  have hfold : ∀ d : Dict String (StrategySignalInput K),
      ((signals.map f).map fun s => (s.strategy,s)).foldl (fun d item => d.set item.1 item.2)
        (d.mapItems fun _ s => f s)=
      ((signals.map fun s => (s.strategy,s)).foldl (fun d item => d.set item.1 item.2)
        d).mapItems fun _ s => f s := by
    induction signals with
    | nil => exact fun _ => rfl
    | cons s rest ih =>
      intro d
      rw [List.map_cons,List.map_cons,List.map_cons,List.foldl_cons,List.foldl_cons,hf,← ih]
      dsimp only
      rw [Dict.mapItems_set]
  exact hfold Dict.empty

variable [Field K] [LinearOrder K]

/-- Strategies with a weight and a changed signal. -/
theorem matched_mapItems (routed : Weights K) (signals : Dict String (StrategySignalInput K))
    (f : StrategySignalInput K→StrategySignalInput K) :
    matched routed (signals.mapItems fun _ s => f s)=
      (matched routed signals).mapItems fun _ m => (m.1,f m.2) := by
  unfold matched Dict.filterMap Dict.mapItems
  congr 1
  dsimp only
  rw [List.map_filterMap]
  refine List.filterMap_congr fun item _ => ?_
  split
  · rfl
  · have hget := Dict.get?_mapItems signals (fun _ s => f s) item.1
    unfold Dict.mapItems at hget
    rw [hget]
    cases signals.get? item.1 with
    | none => rfl
    | some s => rfl

/-- A sum of numbers with the other sign. -/
theorem sumOver_neg (routed : Weights K) (signals : Dict String (StrategySignalInput K))
    (f : StrategySignalInput K→K) :
    sumOver routed signals (fun s => -f s)= -sumOver routed signals f := by
  unfold sumOver
  induction (matched routed signals).values with
  | nil => simp
  | cons m rest ih =>
    rw [List.map_cons,List.map_cons,List.sum_cons,List.sum_cons,ih,neg_add,neg_mul]

/-- A mean of numbers with the other sign. -/
theorem meanOver_neg (routed : Weights K) (signals : Dict String (StrategySignalInput K))
    (f : StrategySignalInput K→K) :
    meanOver routed signals (fun s => -f s)= -meanOver routed signals f := by
  unfold meanOver
  split
  · rw [sumOver_neg,neg_div]
  · exact neg_zero.symm

/-- Means over related signals. -/
theorem Paired.meanOver_congr {r : StrategySignalInput K→StrategySignalInput K→Prop}
    {signals signals' : List (StrategySignalInput K)} (h : Paired r signals signals')
    {f f' : StrategySignalInput K→K} (hf : ∀ s s',r s s'→f s=f' s') (routed : Weights K) :
    meanOver routed (signalMap signals) f=meanOver routed (signalMap signals') f' := by
  unfold meanOver
  rw [h.sumOver_congr hf,h.total_congr]

variable [IsStrictOrderedRing K]

/-- Strategies disagree as much in the other direction. -/
theorem computeDisagreement_neg (signals : List K) :
    computeDisagreement (signals.map fun s => -s)=computeDisagreement signals := by
  have hup : (signals.map fun s => -s).countP (fun s => 0.05< s)=
      signals.countP fun s => s< -0.05 := by
    rw [List.countP_map]
    exact List.countP_congr fun s _ => by simp only [Function.comp_apply,decide_eq_true_eq,lt_neg]
  have hdown : (signals.map fun s => -s).countP (fun s => s< -0.05)=
      signals.countP fun s => 0.05< s := by
    rw [List.countP_map]
    exact List.countP_congr fun s _ => by
      simp only [Function.comp_apply,decide_eq_true_eq,neg_lt_neg_iff]
  unfold computeDisagreement
  dsimp only
  rw [hup,hdown,List.length_map,min_comm]

variable [FloorRing K]

/-- Confidences are the same in the other direction. -/
theorem calibrate_neg (log1p : K→K) (raw : K) (components : Dict String K)
    (regime : Option (Regime K)) :
    calibrate log1p raw (components.mapItems fun _ v => -v) regime=
      calibrate log1p raw components regime := by
  have hempty : (components.mapItems fun _ v => -v).items.isEmpty=components.items.isEmpty :=
    List.isEmpty_map
  have hvalues : (components.mapItems fun _ v => -v).values=components.values.map fun v => -v :=
    Dict.values_mapItems components fun v => -v
  unfold calibrate disagreementStep
  dsimp only
  rw [hempty,hvalues,computeDisagreement_neg,List.length_map]

omit [FloorRing K] in
/-- Limits on both sides in the other direction. -/
theorem clip_neg (x : K) : max (-1.0) (min 1.0 (-x))= -max (-1.0) (min 1.0 x) := by
  have hone : (1.0 : K)=1 := by norm_num
  rw [hone]
  rcases le_total x 1 with h | h
  · rw [min_eq_right h]
    rcases le_total (-x) 1 with h' | h'
    · rw [min_eq_right h',max_eq_right (by linarith),max_eq_right (by linarith)]
    · rw [min_eq_left h',max_eq_right (by linarith),max_eq_left (by linarith),neg_neg]
  · rw [min_eq_left h,min_eq_right (by linarith),max_eq_left (by linarith),
      max_eq_right (by linarith)]

/-- The components in the other direction. -/
theorem components_neg (routed : Weights K) (signals : List (StrategySignalInput K)) :
    ((matched routed (signalMap (signals.map negated))).mapItems fun _ m => round4 m.2.value)=
      ((matched routed (signalMap signals)).mapItems fun _ m => round4 m.2.value).mapItems
        fun _ v => -v := by
  rw [signalMap_map negated (fun _ => rfl),matched_mapItems,Dict.mapItems_mapItems,
    Dict.mapItems_mapItems]
  exact Dict.mapItems_congr fun _ m _ => round4_neg m.2.value

/-- Signals in the other direction give the ensemble signal in the other direction, with the same
confidence, weights and thresholds: BUY and SELL change places. -/
theorem ensemble_neg (log1p : K→K) (riskProfile : RiskProfile) (weights : Weights K)
    (ticker : String) (detected : Option (Regime K)) (signals : List (StrategySignalInput K))
    (s s' : EnsembleSignal K)
    (hs : s=generateEnsembleSignal log1p riskProfile weights ticker signals detected)
    (hs' : s'=generateEnsembleSignal log1p riskProfile weights ticker (signals.map negated)
      detected) :
    s'={s with
      finalSignal := -s.finalSignal
      componentSignals := s.componentSignals.mapItems fun _ v => -v} ∧
      s'.action=s.action.opposite := by
  have hpaired : Paired (fun s s' => s'=negated s) signals (signals.map negated) :=
    List.forall₂_map_right_iff.mpr (List.forall₂_same.mpr fun s _ => ⟨rfl,rfl⟩)
  have hempty : (signals.map negated).isEmpty=signals.isEmpty := List.isEmpty_map
  have horigin := hs
  have hrecord : s'={s with
      finalSignal := -s.finalSignal
      componentSignals := s.componentSignals.mapItems fun _ v => -v} := by
    unfold generateEnsembleSignal at hs hs'
    rw [hempty] at hs'
    by_cases hnone : signals.isEmpty=true
    · rw [if_pos hnone] at hs hs'
      rw [hs,hs']
      rw [neg_zero]
      rfl
    · rw [if_neg hnone] at hs hs'
      dsimp only at hs hs'
      generalize detected.getD noPrices=regime at hs hs'
      have hmean : ∀ routed : Weights K,
          meanOver routed (signalMap (signals.map negated)) (fun s => s.value*s.confidence)=
            -meanOver routed (signalMap signals) fun s => s.value*s.confidence := by
        intro routed
        rw [← meanOver_neg]
        refine (hpaired.meanOver_congr ?_ routed).symm
        rintro s _ rfl
        exact (neg_mul _ _).symm
      have hconfidence : ∀ routed : Weights K,
          meanOver routed (signalMap (signals.map negated)) (fun s => s.confidence)=
            meanOver routed (signalMap signals) fun s => s.confidence := by
        intro routed
        refine (hpaired.meanOver_congr ?_ routed).symm
        rintro s _ rfl
        rfl
      rw [components_neg,hmean,hconfidence,calibrate_neg,clip_neg,round4_neg] at hs'
      rw [hs,hs']
  obtain ⟨hthreshold,_,hsell⟩ :=
    ensemble_thresholds log1p riskProfile weights ticker signals detected
  rw [← horigin] at hthreshold hsell
  refine ⟨hrecord,?_⟩
  rw [hrecord]
  unfold EnsembleSignal.action
  dsimp only
  rw [hsell]
  exact actionOf_neg (le_trans (by norm_num) hthreshold)

/-- The other direction of a BUY. -/
theorem ensemble_neg_buy : (smallSignal [negated halfSentiment]).action=.sell := by
  have hbuy : (smallSignal [halfSentiment]).action=.buy := by decide +kernel
  have hneg : (smallSignal ([halfSentiment].map negated)).action=
      (smallSignal [halfSentiment]).action.opposite :=
    (ensemble_neg id .balanced (ensembleDefaultWeights .balanced) "005930" none [halfSentiment] _ _
      rfl rfl).2
  rwa [hbuy] at hneg

end Reflection

section Causes

variable {K : Type*} [Field K] [LinearOrder K] {signals : List (StrategySignalInput K)}

omit [Field K] [LinearOrder K] in
/-- What was assigned to a dictionary is one of the list, if it was not there before. -/
theorem mem_of_get?_foldl {key : String} {s : StrategySignalInput K}
    {d : Dict String (StrategySignalInput K)}
    (h : ((signals.map fun s => (s.strategy,s)).foldl (fun d item => d.set item.1 item.2)
      d).get? key=some s) : s∈signals ∨ d.get? key=some s := by
  induction signals generalizing d with
  | nil => exact .inr h
  | cons first rest ih =>
    rcases ih h with hmem | hold
    · exact .inl (List.mem_cons_of_mem _ hmem)
    · rw [Dict.get?_set] at hold
      split at hold
      · cases hold
        exact .inl List.mem_cons_self
      · exact .inr hold

omit [Field K] [LinearOrder K] in
/-- The signal of a strategy is one of the list. -/
theorem mem_of_signalMap {key : String} {s : StrategySignalInput K}
    (h : (signalMap signals).get? key=some s) : s∈signals := by
  rcases mem_of_get?_foldl h with hmem | hnone
  · exact hmem
  · cases hnone

/-- A strategy with a weight and a signal. -/
theorem mem_matched {routed : Weights K} {d : Dict String (StrategySignalInput K)}
    {m : K×StrategySignalInput K} (h : m∈(matched routed d).values) :
    0< m.1 ∧ ∃ key,d.get? key=some m.2 := by
  obtain ⟨item,hitem,rfl⟩ := List.mem_map.mp h
  obtain ⟨source,_,hsome⟩ := List.mem_filterMap.mp hitem
  obtain ⟨found,hfound,rfl⟩ := Option.map_eq_some_iff.mp hsome
  dsimp only at hfound
  split at hfound
  · cases hfound
  · rename_i hweight
    obtain ⟨s,hs,rfl⟩ := Option.map_eq_some_iff.mp hfound
    exact ⟨not_le.mp hweight,source.1,hs⟩

variable [IsStrictOrderedRing K]

/-- Some strategy is not below a positive mean. -/
theorem exists_meanOver_le {routed : Weights K} {f : StrategySignalInput K→K}
    (hmean : 0< meanOver routed (signalMap signals) f) :
    ∃ s∈signals,meanOver routed (signalMap signals) f≤f s := by
  have htotal : 0< sumOver routed (signalMap signals) fun _ => 1 := by
    by_contra hnot
    unfold meanOver at hmean
    rw [if_neg hnot] at hmean
    exact lt_irrefl _ hmean
  have hsum : ((matched routed (signalMap signals)).values.map fun m =>
      meanOver routed (signalMap signals) f*m.1).sum=sumOver routed (signalMap signals) f := by
    have hscaled : meanOver routed (signalMap signals) f*
        sumOver routed (signalMap signals) (fun _ => 1)=sumOver routed (signalMap signals) f := by
      unfold meanOver
      rw [if_pos htotal,div_mul_cancel₀ _ htotal.ne']
    rw [List.sum_map_mul_left,← hscaled]
    unfold sumOver
    simp only [one_mul]
  have hsome : (matched routed (signalMap signals)).values≠[] := by
    intro hnil
    unfold sumOver at htotal
    rw [hnil] at htotal
    exact lt_irrefl _ htotal
  obtain ⟨m,hm,hle⟩ := List.exists_le_of_sum_le hsome _ _ hsum.le
  obtain ⟨hweight,key,hkey⟩ := mem_matched hm
  exact ⟨m.2,mem_of_signalMap hkey,le_of_mul_le_mul_right hle hweight⟩

variable [FloorRing K]

/-- A BUY needs a strategy whose own damped signal is above the threshold. -/
theorem exists_of_buy (log1p : K→K) (riskProfile : RiskProfile) (weights : Weights K)
    (ticker : String) (detected : Option (Regime K)) (s : EnsembleSignal K)
    (hs : s=generateEnsembleSignal log1p riskProfile weights ticker signals detected)
    (hbuy : s.action=.buy) : ∃ t∈signals,s.buyThreshold< round4 (t.value*t.confidence) := by
  have hup : s.buyThreshold< s.finalSignal := by
    unfold EnsembleSignal.action actionOf at hbuy
    by_contra hnot
    rw [if_neg hnot] at hbuy
    split at hbuy <;> cases hbuy
  have hthreshold : 0.10≤ s.buyThreshold := by
    rw [hs]
    exact (ensemble_thresholds log1p riskProfile weights ticker signals detected).1
  unfold generateEnsembleSignal at hs
  split at hs
  · rw [hs] at hup
    norm_num at hup
  · dsimp only at hs
    generalize detected.getD noPrices=regime at hs
    generalize adjustWeights weights regime.toRegimeInfo=routed at hs
    have hsignal : s.finalSignal=round4 (max (-1.0) (min 1.0
        (meanOver routed (signalMap signals) fun s => s.value*s.confidence))) := by rw [hs]
    rw [hsignal] at hup
    generalize hmean : meanOver routed (signalMap signals) (fun s => s.value*s.confidence)=mean
      at hup
    have hpos : 0< mean := by
      by_contra hnot
      have hzero : round4 (0 : K)=0 := by simpa using round4_decimals (K := K) 0
      have hlow : max (-1.0) (min 1.0 mean)≤0 :=
        max_le (by norm_num) ((min_le_right _ _).trans (not_lt.mp hnot))
      have hle := (round4_mono hlow).trans_eq hzero
      norm_num at hthreshold
      linarith
    have hclip : max (-1.0) (min 1.0 mean)≤ mean :=
      max_le (le_trans (by norm_num) hpos.le) (min_le_right _ _)
    rw [← hmean] at hpos
    obtain ⟨t,ht,hle⟩ := exists_meanOver_le hpos
    rw [hmean] at hle
    exact ⟨t,ht,hup.trans_le (round4_mono (hclip.trans hle))⟩

/-- No mix of weights makes an order that no strategy asks for: a BUY needs a strategy whose own
damped signal is above the threshold, and a SELL one whose damped signal is below it. -/
theorem action_has_a_cause (log1p : K→K) (riskProfile : RiskProfile) (weights : Weights K)
    (ticker : String) (signals : List (StrategySignalInput K)) (detected : Option (Regime K))
    (s : EnsembleSignal K)
    (hs : s=generateEnsembleSignal log1p riskProfile weights ticker signals detected) :
    (s.action=.buy→∃ t∈signals,s.buyThreshold< round4 (t.value*t.confidence)) ∧
      (s.action=.sell→∃ t∈signals,round4 (t.value*t.confidence)< -s.sellThreshold) := by
  refine ⟨exists_of_buy log1p riskProfile weights ticker detected s hs,?_⟩
  intro hsell
  obtain ⟨hrecord,haction⟩ := ensemble_neg log1p riskProfile weights ticker detected signals s _ hs
    rfl
  rw [hsell] at haction
  obtain ⟨t,ht,hbelow⟩ := exists_of_buy log1p riskProfile weights ticker detected _ rfl haction
  obtain ⟨source,hsource,rfl⟩ := List.mem_map.mp ht
  refine ⟨source,hsource,?_⟩
  have hsame : s.sellThreshold=s.buyThreshold := by
    rw [hs]
    exact (ensemble_thresholds log1p riskProfile weights ticker signals detected).2.2
  rw [hrecord] at hbelow
  change s.buyThreshold< round4 (-source.value*source.confidence) at hbelow
  rw [neg_mul,round4_neg,lt_neg] at hbelow
  rwa [hsame]

/-- A BUY with the strategy that it needs. -/
theorem action_has_a_cause_buy :
    ∃ t∈[halfSentiment],(smallSignal [halfSentiment]).buyThreshold< round4 (t.value*t.confidence) :=
  (action_has_a_cause id .balanced (ensembleDefaultWeights .balanced) "005930" [halfSentiment] none
    (smallSignal [halfSentiment]) rfl).1 (by decide +kernel)

end Causes

end Aqts.EnsembleSignals
