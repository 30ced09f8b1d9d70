import Mathlib.Algebra.Order.BigOperators.Group.List
import Mathlib.Tactic.Ring
import Aqts.StrategyWeights

/-!
# Routing of weights by the market regime

`RegimeWeightRouter.adjust_weights`: every active weight is multiplied by what the regime gives
its strategy, blended with one by the confidence, and scaled to a sum of one. Shares under three
percent are raised to three percent, and a second scaling follows, which takes something from
every share if any was raised. So the least share is kept exactly if nothing is raised.
-/

namespace Aqts.RegimeRouting

open Dictionary StrategyWeights

/-- `MarketRegime`. -/
inductive MarketRegime
  | trendingUp | trendingDown | sideways | highVolatility | crisis
  deriving DecidableEq

/-- `RegimeInfo`, with what the router reads. -/
structure RegimeInfo (K : Type*) where
  /-- `regime`. -/
  regime : MarketRegime
  /-- `confidence`. -/
  confidence : K

section Router

variable {K : Type*} [Field K]

/-- `REGIME_MULTIPLIERS`. -/
def regimeMultipliers : MarketRegime→Weights K
  | .trendingUp => sixStrategies 0.8 0.5 1.5 0.9 1.0 1.2
  | .trendingDown => sixStrategies 0.7 0.6 1.4 1.3 1.0 1.1
  | .sideways => sixStrategies 1.2 1.5 0.6 1.0 1.0 1.0
  | .highVolatility => sixStrategies 0.7 0.8 0.7 1.8 1.0 0.6
  | .crisis => sixStrategies 0.3 0.2 1.5 2.0 0.5 0.3

/-- `mult`. -/
def multiplier (regime : MarketRegime) (strategy : String) : K :=
  ((regimeMultipliers regime).get? strategy).getD 1.0

/-- `blended_mult`. -/
def blendedMult (regimeInfo : RegimeInfo K) (strategy : String) : K :=
  multiplier regimeInfo.regime strategy*regimeInfo.confidence+1.0*(1.0-regimeInfo.confidence)

variable [LinearOrder K]

/-- The weights with their multipliers. -/
def multiplied (baseWeights : Weights K) (regimeInfo : RegimeInfo K) : Weights K :=
  baseWeights.mapItems fun strategy weight =>
    if weight≤0 then 0 else weight*blendedMult regimeInfo strategy

/-- Weights scaled to a sum of one, if their sum is positive. -/
def rescaled (weights : Weights K) : Weights K :=
  let total := weights.values.sum
  if 0< total then weights.mapItems fun _ v => v/total else weights

/-- Active strategies with three percent at least. -/
def raised (baseWeights adjusted : Weights K) : Weights K :=
  adjusted.mapItems fun k v => if 0<(baseWeights.get? k).getD 0 ∧ v<0.03 then 0.03 else v

/-- What `adjust_weights` gives before the values are rounded. -/
def unrounded (baseWeights : Weights K) (regimeInfo : RegimeInfo K) : Weights K :=
  rescaled (raised baseWeights (rescaled (multiplied baseWeights regimeInfo)))

/-- `adjust_weights`. -/
def adjustWeights [FloorRing K] (baseWeights : Weights K) (regimeInfo : RegimeInfo K) : Weights K :=
  let adjusted := raised baseWeights (rescaled (multiplied baseWeights regimeInfo))
  let total := adjusted.values.sum
  if 0< total then adjusted.mapItems fun _ v => round4 (v/total) else adjusted

/-- What the router promises of its weights. -/
structure Promised (baseWeights : Weights K) (regimeInfo : RegimeInfo K) (weights : Weights K) :
    Prop where
  /-- They sum to one. -/
  sum : weights.values.sum=1
  /-- Active strategies have three percent at least. -/
  least : ∀ key w,baseWeights.get? key=some w→0<w→∃ v,weights.get? key=some v ∧ 0.03≤v
  /-- Inactive strategies have nothing. -/
  inactive : ∀ key w,baseWeights.get? key=some w→w≤0→weights.get? key=some 0
  /-- The order of active strategies with the same multiplier is kept. -/
  order : ∀ key key' w w' v v',baseWeights.get? key=some w→0<w→baseWeights.get? key'=some w'→0<w'→
    multiplier regimeInfo.regime key=(multiplier regimeInfo.regime key' : K)→
    weights.get? key=some v→weights.get? key'=some v'→(w≤w' ↔ v≤v')

end Router

section Multipliers

variable {K : Type*} [Field K] [LinearOrder K]

/-- Six positive weights are positive. -/
theorem sixStrategies_pos {a b c d e f : K} (ha : 0<a) (hb : 0<b) (hc : 0< c) (hd : 0<d) (he : 0<e)
    (hf : 0<f) {key : String} {v : K} (h : (sixStrategies a b c d e f).get? key=some v) : 0<v := by
  have hmem := (Dict.get?_eq_some _).mp h
  unfold sixStrategies at hmem
  simp only [List.mem_cons,Prod.mk.injEq,List.not_mem_nil,or_false] at hmem
  rcases hmem with ⟨_,rfl⟩ | ⟨_,rfl⟩ | ⟨_,rfl⟩ | ⟨_,rfl⟩ | ⟨_,rfl⟩ | ⟨_,rfl⟩ <;> assumption

variable [IsStrictOrderedRing K]

/-- Multipliers are positive. -/
theorem multiplier_pos (regime : MarketRegime) (strategy : String) :
    0<(multiplier regime strategy : K) := by
  unfold multiplier
  cases h : (regimeMultipliers regime : Weights K).get? strategy with
  | none =>
    rw [Option.getD_none]
    norm_num
  | some m =>
    rw [Option.getD_some]
    cases regime <;>
      exact sixStrategies_pos (by norm_num) (by norm_num) (by norm_num) (by norm_num) (by norm_num)
        (by norm_num) h

/-- Blended multipliers are positive. -/
theorem blendedMult_pos {regimeInfo : RegimeInfo K} (h0 : 0≤ regimeInfo.confidence)
    (h1 : regimeInfo.confidence≤1) (strategy : String) : 0< blendedMult regimeInfo strategy := by
  have hmult : 0<(multiplier regimeInfo.regime strategy : K) := multiplier_pos _ _
  have hone : (1.0 : K)=1 := by norm_num
  unfold blendedMult
  rw [hone]
  rcases h1.lt_or_eq with hless | hsame
  · have hrest : 0<1*(1-regimeInfo.confidence) := by linarith
    have hblend := mul_nonneg hmult.le h0
    linarith
  · rw [hsame]
    linarith

end Multipliers

section Sums

variable {K : Type*} [Field K]

/-- Dividing by the sum of a dictionary divides its sum. -/
theorem sum_values_div (d : Weights K) (f : String→K→K) (total : K) :
    (d.mapItems fun k w => f k w/total).values.sum=(d.mapItems f).values.sum/total := by
  unfold Dict.values Dict.mapItems
  dsimp only
  induction d.items with
  | nil => simp
  | cons item rest ih =>
    simp only [List.map_cons,List.sum_cons]
    rw [ih,add_div]

end Sums

section Shares

variable {K : Type*} [Field K] [LinearOrder K]

/-- The weight of a strategy with its multiplier. -/
def weighted (regimeInfo : RegimeInfo K) (strategy : String) (weight : K) : K :=
  if weight≤0 then 0 else weight*blendedMult regimeInfo strategy

/-- The share of a strategy, raised to three percent if the strategy is active. -/
def raisedShare (regimeInfo : RegimeInfo K) (total : K) (strategy : String) (weight : K) : K :=
  if 0< weight ∧ weighted regimeInfo strategy weight/total<0.03 then 0.03
  else weighted regimeInfo strategy weight/total

/-- The weight of an active strategy with its multiplier. -/
theorem weighted_active {regimeInfo : RegimeInfo K} {w : K} (hactive : 0<w) (key : String) :
    weighted regimeInfo key w=w*blendedMult regimeInfo key := if_neg (not_le.mpr hactive)

/-- Raised shares are those of the router. -/
theorem raised_eq {baseWeights : Weights K} {regimeInfo : RegimeInfo K}
    (htotal : 0<(multiplied baseWeights regimeInfo).values.sum) :
    raised baseWeights (rescaled (multiplied baseWeights regimeInfo))=baseWeights.mapItems
      (raisedShare regimeInfo (multiplied baseWeights regimeInfo).values.sum) := by
  have hshares : rescaled (multiplied baseWeights regimeInfo)=baseWeights.mapItems fun k w =>
      weighted regimeInfo k w/(multiplied baseWeights regimeInfo).values.sum := by
    unfold rescaled
    dsimp only
    rw [if_pos htotal]
    exact baseWeights.mapItems_mapItems _ _
  rw [hshares]
  unfold raised
  rw [Dict.mapItems_mapItems]
  refine Dict.mapItems_congr fun key w hw => ?_
  rw [hw,Option.getD_some]
  rfl

/-- Raising is not lowering. -/
theorem le_raisedShare (regimeInfo : RegimeInfo K) (total : K) (strategy : String)
    (weight : K) :
    weighted regimeInfo strategy weight/total≤ raisedShare regimeInfo total strategy weight := by
  unfold raisedShare
  split
  · rename_i hless
    exact hless.2.le
  · exact le_rfl

/-- The shares sum to one. -/
theorem shares_sum {baseWeights : Weights K} {regimeInfo : RegimeInfo K}
    (htotal : 0<(multiplied baseWeights regimeInfo).values.sum) :
    (baseWeights.mapItems fun k w =>
      weighted regimeInfo k w/(multiplied baseWeights regimeInfo).values.sum).values.sum=1 := by
  rw [sum_values_div baseWeights (weighted regimeInfo)]
  exact div_self htotal.ne'

variable [IsStrictOrderedRing K] {baseWeights : Weights K} {regimeInfo : RegimeInfo K}

/-- The weighted sum is positive if some strategy is active. -/
theorem multiplied_sum_pos (h0 : 0≤ regimeInfo.confidence) (h1 : regimeInfo.confidence≤1)
    {key : String} {w : K} (hw : baseWeights.get? key=some w) (hactive : 0<w) :
    0<(multiplied baseWeights regimeInfo).values.sum := by
  have hmem : weighted regimeInfo key w∈(multiplied baseWeights regimeInfo).values :=
    List.mem_map_of_mem (List.mem_map_of_mem (baseWeights.get?_eq_some.mp hw))
  have hnonneg : ∀ x∈(multiplied baseWeights regimeInfo).values,0≤x := by
    intro x hx
    obtain ⟨_,hitem,rfl⟩ := List.mem_map.mp hx
    obtain ⟨item,_,rfl⟩ := List.mem_map.mp hitem
    dsimp only
    split
    · exact le_rfl
    · rename_i hpositive
      exact mul_nonneg (not_le.mp hpositive).le (blendedMult_pos h0 h1 _).le
  have hpositive : 0< weighted regimeInfo key w := by
    rw [weighted_active hactive]
    exact mul_pos hactive (blendedMult_pos h0 h1 _)
  exact hpositive.trans_le (List.single_le_sum hnonneg _ hmem)

/-- Raised shares sum to one at least. -/
theorem one_le_raised (htotal : 0<(multiplied baseWeights regimeInfo).values.sum) :
    1≤(baseWeights.mapItems
      (raisedShare regimeInfo (multiplied baseWeights regimeInfo).values.sum)).values.sum := by
  rw [← shares_sum htotal]
  unfold Dict.values Dict.mapItems
  dsimp only
  rw [List.map_map,List.map_map]
  exact List.sum_le_sum fun item _ => le_raisedShare _ _ item.1 item.2

/-- Raised shares sum to more than one if some share was raised. -/
theorem one_lt_raised (htotal : 0<(multiplied baseWeights regimeInfo).values.sum) {key : String}
    {w : K} (hw : baseWeights.get? key=some w) (hactive : 0<w)
    (hless : weighted regimeInfo key w/(multiplied baseWeights regimeInfo).values.sum<0.03) :
    1<(baseWeights.mapItems
      (raisedShare regimeInfo (multiplied baseWeights regimeInfo).values.sum)).values.sum := by
  rw [← shares_sum htotal]
  unfold Dict.values Dict.mapItems
  dsimp only
  rw [List.map_map,List.map_map]
  refine List.sum_lt_sum _ _ (fun item _ => le_raisedShare _ _ item.1 item.2)
    ⟨(key,w),baseWeights.get?_eq_some.mp hw,?_⟩
  dsimp only [Function.comp_apply]
  unfold raisedShare
  rw [if_pos ⟨hactive,hless⟩]
  exact hless

/-- What the router gives before the rounding: raised shares as shares of their sum. -/
theorem unrounded_eq (htotal : 0<(multiplied baseWeights regimeInfo).values.sum) :
    unrounded baseWeights regimeInfo=baseWeights.mapItems fun k w =>
      raisedShare regimeInfo (multiplied baseWeights regimeInfo).values.sum k w/
        (baseWeights.mapItems
          (raisedShare regimeInfo (multiplied baseWeights regimeInfo).values.sum)).values.sum := by
  unfold unrounded
  rw [raised_eq htotal]
  unfold rescaled
  dsimp only
  rw [if_pos (zero_lt_one.trans_le (one_le_raised htotal))]
  exact baseWeights.mapItems_mapItems _ _

/-- The router rounds these weights. -/
theorem adjustWeights_eq [FloorRing K]
    (htotal : 0<(multiplied baseWeights regimeInfo).values.sum) :
    adjustWeights baseWeights regimeInfo=
      (unrounded baseWeights regimeInfo).mapItems fun _ v => round4 v := by
  have hpositive :
      0<(raised baseWeights (rescaled (multiplied baseWeights regimeInfo))).values.sum :=
    raised_eq htotal ▸ zero_lt_one.trans_le (one_le_raised htotal)
  have hscaled : unrounded baseWeights regimeInfo=
      (raised baseWeights (rescaled (multiplied baseWeights regimeInfo))).mapItems fun _ v =>
        v/(raised baseWeights (rescaled (multiplied baseWeights regimeInfo))).values.sum :=
    if_pos hpositive
  unfold adjustWeights
  dsimp only
  rw [if_pos hpositive,hscaled,Dict.mapItems_mapItems]

/-- A share that was raised is below three percent after the second scaling. -/
theorem unrounded_raised (htotal : 0<(multiplied baseWeights regimeInfo).values.sum) {key : String}
    {w : K} (hw : baseWeights.get? key=some w) (hactive : 0<w)
    (hless : w*blendedMult regimeInfo key<0.03*(multiplied baseWeights regimeInfo).values.sum) :
    ∃ v,(unrounded baseWeights regimeInfo).get? key=some v ∧ v<0.03 := by
  have hshare : weighted regimeInfo key w/(multiplied baseWeights regimeInfo).values.sum<0.03 := by
    rw [div_lt_iff₀ htotal,weighted_active hactive]
    exact hless
  have hraised :
      raisedShare regimeInfo (multiplied baseWeights regimeInfo).values.sum key w=0.03 :=
    if_pos ⟨hactive,hshare⟩
  rw [unrounded_eq htotal,Dict.get?_mapItems,hw,Option.map_some,hraised]
  exact ⟨_,rfl,div_lt_self (by norm_num) (one_lt_raised htotal hw hactive hshare)⟩

/-- If no share has to be raised, the router gives the shares. -/
theorem unrounded_kept (htotal : 0<(multiplied baseWeights regimeInfo).values.sum)
    (hshares : ∀ key w,baseWeights.get? key=some w→0<w→
      0.03*(multiplied baseWeights regimeInfo).values.sum≤w*blendedMult regimeInfo key) :
    unrounded baseWeights regimeInfo=baseWeights.mapItems fun k w =>
      weighted regimeInfo k w/(multiplied baseWeights regimeInfo).values.sum := by
  have hkept : baseWeights.mapItems
      (raisedShare regimeInfo (multiplied baseWeights regimeInfo).values.sum)=
        baseWeights.mapItems fun k w =>
          weighted regimeInfo k w/(multiplied baseWeights regimeInfo).values.sum := by
    refine Dict.mapItems_congr fun key w hw => if_neg fun hraise => ?_
    have hshare := hshares key w hw hraise.1
    rw [div_lt_iff₀ htotal,weighted_active hraise.1] at hraise
    exact absurd hraise.2 (not_lt.mpr hshare)
  unfold unrounded
  rw [raised_eq htotal,hkept]
  unfold rescaled
  dsimp only
  rw [shares_sum htotal,if_pos zero_lt_one,Dict.mapItems_mapItems]
  exact Dict.mapItems_congr fun _ _ _ => div_one _

/-- The shares keep the promises if no active one is below three percent. -/
theorem shares_promised (h0 : 0≤ regimeInfo.confidence) (h1 : regimeInfo.confidence≤1)
    (htotal : 0<(multiplied baseWeights regimeInfo).values.sum)
    (hshares : ∀ key w,baseWeights.get? key=some w→0<w→
      0.03*(multiplied baseWeights regimeInfo).values.sum≤w*blendedMult regimeInfo key) :
    Promised baseWeights regimeInfo (baseWeights.mapItems fun k w =>
      weighted regimeInfo k w/(multiplied baseWeights regimeInfo).values.sum) := by
  have hvalue : ∀ {key w},baseWeights.get? key=some w→(baseWeights.mapItems fun k w =>
      weighted regimeInfo k w/(multiplied baseWeights regimeInfo).values.sum).get? key=
        some (weighted regimeInfo key w/(multiplied baseWeights regimeInfo).values.sum) := by
    intro key w hw
    rw [Dict.get?_mapItems,hw,Option.map_some]
  refine ⟨shares_sum htotal,fun key w hw hactive => ?_,fun key w hw hinactive => ?_,?_⟩
  · refine ⟨_,hvalue hw,?_⟩
    rw [weighted_active hactive,le_div_iff₀ htotal]
    exact hshares key w hw hactive
  · have hzero : weighted regimeInfo key w=0 := if_pos hinactive
    rw [hvalue hw,hzero,zero_div]
  · intro key key' w w' v v' hw hactive hw' hactive' hsame hv hv'
    have hblended : blendedMult regimeInfo key=blendedMult regimeInfo key' := by
      unfold blendedMult
      rw [hsame]
    rw [hvalue hw] at hv
    rw [hvalue hw'] at hv'
    rw [← Option.some.inj hv,← Option.some.inj hv',weighted_active hactive,
      weighted_active hactive',div_le_div_iff_of_pos_right htotal,hblended,
      mul_le_mul_iff_left₀ (blendedMult_pos h0 h1 key')]

/-- What the router gives keeps its promises exactly if no share has to be raised. -/
theorem promised_iff [FloorRing K] (h0 : 0≤ regimeInfo.confidence) (h1 : regimeInfo.confidence≤1)
    (hactive : ∃ key w,baseWeights.get? key=some w ∧ 0<w) :
    adjustWeights baseWeights regimeInfo=
        (unrounded baseWeights regimeInfo).mapItems (fun _ v => round4 v) ∧
      (Promised baseWeights regimeInfo (unrounded baseWeights regimeInfo) ↔
        ∀ key w,baseWeights.get? key=some w→0<w→
          0.03*(multiplied baseWeights regimeInfo).values.sum≤w*blendedMult regimeInfo key) := by
  obtain ⟨someKey,someWeight,hsome,hpositive⟩ := hactive
  have htotal := multiplied_sum_pos h0 h1 hsome hpositive
  refine ⟨adjustWeights_eq htotal,fun hpromised key w hw hactive => ?_,fun hshares => ?_⟩
  · by_contra hless
    obtain ⟨v,hv,hbelow⟩ := unrounded_raised htotal hw hactive (not_le.mp hless)
    obtain ⟨v',hv',hleast⟩ := hpromised.least key w hw hactive
    rw [hv] at hv'
    exact absurd hbelow (not_lt.mpr (Option.some.inj hv' ▸ hleast))
  · rw [unrounded_kept htotal hshares]
    exact shares_promised h0 h1 htotal hshares

/-- In a market without a direction the router keeps its promises for the default weights. -/
theorem promised_sideways :
    Promised (ensembleDefaultWeights .balanced : Weights ℚ) ⟨.sideways,1/2⟩
      (unrounded (ensembleDefaultWeights .balanced) ⟨.sideways,1/2⟩) := by
  refine (promised_iff (by decide +kernel) (by decide +kernel)
    ⟨"FACTOR",0.25,by decide +kernel,by decide +kernel⟩).2.mpr fun key w hw => ?_
  have hitems : ∀ item∈(ensembleDefaultWeights .balanced : Weights ℚ).items,0< item.2→
      0.03*(multiplied (ensembleDefaultWeights .balanced : Weights ℚ) ⟨.sideways,1/2⟩).values.sum≤
        item.2*blendedMult ⟨.sideways,1/2⟩ item.1 := by decide +kernel
  exact hitems _ ((Dict.get?_eq_some _).mp hw)

/-- In a crisis the mean reversion of the default weights has less than three percent. -/
theorem promised_crisis :
    (∀ w∈(ensembleDefaultWeights .balanced : Weights ℚ).values,0≤w) ∧
      ((ensembleDefaultWeights .balanced : Weights ℚ).values.filter
        fun w => decide (0<w)).length=5 ∧
      ¬Promised (ensembleDefaultWeights .balanced : Weights ℚ) ⟨.crisis,1⟩
        (unrounded (ensembleDefaultWeights .balanced) ⟨.crisis,1⟩) := by
  refine ⟨by decide +kernel,by decide +kernel,fun hpromised => ?_⟩
  obtain ⟨v,hv,hleast⟩ := hpromised.least "MEAN_REVERSION" 0.10 (by decide +kernel)
    (by decide +kernel)
  have hnew : (unrounded (ensembleDefaultWeights .balanced : Weights ℚ) ⟨.crisis,1⟩).get?
      "MEAN_REVERSION"=some (261/8761) := by decide +kernel
  rw [hnew] at hv
  rw [← Option.some.inj hv] at hleast
  norm_num at hleast

end Shares

end Aqts.RegimeRouting
