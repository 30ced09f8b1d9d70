import Mathlib.Algebra.Order.Ring.Abs
import Mathlib.Algebra.Order.Ring.Rat
import Mathlib.Tactic.FieldSimp
import Mathlib.Tactic.Ring
import Aqts.RlEnvironments

/-!
# Portfolio values of the two environments

Without costs and in exact numbers, `MultiAssetTradingEnv` with one asset multiplies its
portfolio value by one plus the action times the daily return. `TradingEnv` takes the value
of its stock from the difference between portfolio value and cash, which nothing ever makes
different: its portfolio value stays the initial capital, so the two agree exactly where no
action meets a change of the price.
-/

namespace Aqts.RlReturns

open RlEnvironments

section Paths

variable {K : Type*} [Field K]

/-- A config without costs. -/
structure CostFree (cfg : RLConfig K) : Prop where
  /-- `commission_rate`. -/
  commission : cfg.commissionRate=0
  /-- `tax_rate`. -/
  tax : cfg.taxRate=0
  /-- `slippage_rate`. -/
  slippage : cfg.slippageRate=0

/-- Portfolio values of an episode, from the initial capital on. -/
def portfolioValues {S : Type*} (cfg : RLConfig K) (outs : List (S×Outcome K)) : List K :=
  cfg.initialCapital::outs.map fun out => out.2.portfolioValue

/-- At every step the value changes by the factor one plus the action times the daily
return. -/
def Compounds (prices : List K) (start : ℕ) (actions values : List K) : Prop :=
  ∀ k v v' a p p',values[k]?=some v→values[k+1]?=some v'→actions[k]?=some a→
    prices[start+k]?=some p→prices[start+k+1]?=some p'→v'=v*(1+a*((p'-p)/p))

/-- No action meets a change of the price. -/
def Untouched (prices : List K) (start : ℕ) (actions : List K) : Prop :=
  ∀ k a p p',actions[k]?=some a→prices[start+k]?=some p→prices[start+k+1]?=some p'→a=0 ∨ p'=p

/-- The values from a day on, by the factors of the actions. -/
def growth (prices : List K) : ℕ→K→List K→List K
  | _,_,[] => []
  | day,v,a::rest =>
    match prices[day]?,prices[day+1]? with
    | some p,some p' => v*(1+a*((p'-p)/p))::growth prices (day+1) (v*(1+a*((p'-p)/p))) rest
    | _,_ => []

/-- The values change by the factors exactly if they are those. -/
theorem compounds_iff {prices : List K} {start : ℕ} {v : K} {actions rest : List K}
    (hlength : rest.length=actions.length) (hdays : start+actions.length<prices.length) :
    Compounds prices start actions (v::rest) ↔ rest=growth prices start v actions := by
  induction actions generalizing start v rest with
  | nil =>
    rw [List.eq_nil_of_length_eq_zero hlength]
    refine iff_of_true ?_ rfl
    intro k v v' a p p' _ _ ha
    cases ha
  | cons a actions ih =>
    obtain ⟨v',rest,rfl⟩ := List.exists_cons_of_length_eq_add_one hlength
    rw [List.length_cons] at hdays
    obtain ⟨p,hp⟩ : ∃ p,prices[start]?=some p := ⟨_,List.getElem?_eq_getElem (by omega)⟩
    obtain ⟨p',hp'⟩ : ∃ p',prices[start+1]?=some p' := ⟨_,List.getElem?_eq_getElem (by omega)⟩
    have htail : Compounds prices (start+1) actions (v'::rest) ↔
        rest=growth prices (start+1) v' actions := ih (by simpa using hlength) (by omega)
    unfold growth
    rw [hp,hp']
    dsimp only
    rw [List.cons.injEq]
    constructor
    · intro h
      have hfirst := h 0 v v' a p p' rfl rfl rfl hp hp'
      rw [← hfirst]
      refine ⟨rfl,htail.mp ?_⟩
      intro k w w' b q q' hw hw' hb hq hq'
      have hday : start+(k+1)=start+1+k := by omega
      exact h (k+1) w w' b q q' hw hw' hb (hday ▸ hq) (hday ▸ hq')
    · rintro ⟨hfirst,hrest⟩
      rw [← hfirst] at hrest
      intro k w w' b q q' hw hw' hb hq hq'
      cases k with
      | zero =>
        cases hw
        cases hw'
        cases hb
        rw [Nat.add_zero,hp] at hq
        rw [Nat.add_zero,hp'] at hq'
        cases hq
        cases hq'
        exact hfirst
      | succ k =>
        have hday : start+(k+1)=start+1+k := by omega
        rw [hday] at hq hq'
        exact htail.mpr hrest k w w' b q q' hw hw' hb hq hq'

/-- An action after another one meets the later prices. -/
theorem untouched_cons {prices : List K} {start : ℕ} {p p' a : K} {actions : List K}
    (hp : prices[start]?=some p) (hp' : prices[start+1]?=some p') :
    Untouched prices start (a::actions) ↔ (a=0 ∨ p'=p) ∧ Untouched prices (start+1) actions := by
  constructor
  · intro h
    refine ⟨h 0 a p p' rfl hp hp',fun k b q q' hb hq hq' => ?_⟩
    have hday : start+(k+1)=start+1+k := by omega
    exact h (k+1) b q q' hb (hday ▸ hq) (hday ▸ hq')
  · rintro ⟨hnow,hlater⟩ k b q q' hb hq hq'
    cases k with
    | zero =>
      cases hb
      rw [Nat.add_zero,hp] at hq
      rw [Nat.add_zero,hp'] at hq'
      cases hq
      cases hq'
      exact hnow
    | succ k =>
      have hday : start+(k+1)=start+1+k := by omega
      rw [hday] at hq hq'
      exact hlater k b q q' hb hq hq'

/-- A factor leaves a value exactly if it is zero or the action meets no change. -/
theorem eq_mul_factor_iff {v a p p' : K} (hne : p≠0) :
    v=v*(1+a*((p'-p)/p)) ↔ v=0 ∨ a=0 ∨ p'=p := by
  rw [mul_add,mul_one,left_eq_add,mul_eq_zero,mul_eq_zero,div_eq_zero_iff,sub_eq_zero]
  simp only [hne,or_false]

/-- A constant value follows the factors exactly if it is zero or no action meets a change. -/
theorem replicate_eq_growth {prices : List K} {start : ℕ} {v : K} {actions : List K}
    (hprices : ∀ p∈prices,p≠0) (hdays : start+actions.length<prices.length) :
    List.replicate actions.length v=growth prices start v actions ↔
      v=0 ∨ Untouched prices start actions := by
  induction actions generalizing start with
  | nil =>
    refine iff_of_true rfl (.inr ?_)
    intro k a p p' ha
    cases ha
  | cons a actions ih =>
    rw [List.length_cons] at hdays
    obtain ⟨p,hp⟩ : ∃ p,prices[start]?=some p := ⟨_,List.getElem?_eq_getElem (by omega)⟩
    obtain ⟨p',hp'⟩ : ∃ p',prices[start+1]?=some p' := ⟨_,List.getElem?_eq_getElem (by omega)⟩
    have hfactor : v=v*(1+a*((p'-p)/p)) ↔ v=0 ∨ a=0 ∨ p'=p :=
      eq_mul_factor_iff (hprices p (List.mem_of_getElem? hp))
    have htail : List.replicate actions.length v=growth prices (start+1) v actions ↔
        v=0 ∨ Untouched prices (start+1) actions := ih (by omega)
    rw [List.length_cons,List.replicate_succ,untouched_cons hp hp']
    unfold growth
    rw [hp,hp']
    dsimp only
    rw [List.cons.injEq,or_and_left,← hfactor,← htail]
    -- the rest of the values is the one from the same value on
    refine and_congr_right fun hfirst => ?_
    rw [← hfirst]

end Paths

section Episodes

variable {K : Type*} [Field K] [LinearOrder K]

/-- Exact numbers, without the guard. -/
def exact : Arithmetic K where
  ofRat q := (q : K)
  abs x := |x|
  below x y := decide (x<y)
  same x y := decide (x=y)
  guard := 0

/-- Zero. -/
@[simp] theorem exact_zero : (exact : Arithmetic K).ofRat 0=0 := Rat.cast_zero

/-- One. -/
@[simp] theorem exact_one : (exact : Arithmetic K).ofRat 1=1 := Rat.cast_one

/-- The sum of one number. -/
@[simp] theorem exact_sum_single (x : K) : exact.sum [x]=x := by
  unfold Arithmetic.sum
  rw [List.foldl_cons,List.foldl_nil,exact_zero,zero_add]

/-- A path of prices. -/
structure PricePath (K : Type*) [Zero K] [LT K] where
  /-- The prices. -/
  prices : List K
  /-- They are positive. -/
  positive : ∀ p∈prices,0<p

/-- Without costs a change of position costs nothing. -/
theorem TradingEnv.transactionCost_free {cfg : RLConfig K} (hfree : CostFree cfg) (s : Account K)
    (target : K) : TradingEnv.transactionCost exact cfg s target=0 := by
  unfold TradingEnv.transactionCost RLConfig.costRate
  rw [hfree.commission,hfree.tax,hfree.slippage,add_zero,add_zero,mul_zero]

/-- Without costs an account that is all cash stays all cash, of the same value. -/
theorem TradingEnv.trade_cash {cfg : RLConfig K} (hfree : CostFree cfg) {s : Account K}
    (hcash : s.cash=s.portfolioValue) (target dailyReturn : K) :
    (TradingEnv.trade exact cfg s target dailyReturn).portfolioValue=s.portfolioValue ∧
      (TradingEnv.trade exact cfg s target dailyReturn).cash=s.portfolioValue := by
  unfold TradingEnv.trade
  dsimp only
  rw [TradingEnv.transactionCost_free hfree,hcash,sub_zero,sub_self,mul_zero,sub_zero,ite_self,
    sub_self,zero_mul,add_zero]
  exact ⟨rfl,rfl⟩

/-- Without costs the values of an episode are those of its account, which is all cash. -/
theorem TradingEnv.outcomes_cash (env : TradingEnv K) (single : K→K)
    (hfree : CostFree env.config) {s : Account K} (hcash : s.cash=s.portfolioValue)
    (actions : List K) (hdays : s.currentStep+actions.length<env.asset.close.length) :
    ∃ outs,outcomes (env.step exact single) s (actions.map fun a => [a])=some outs ∧
      outs.map (fun out => out.2.portfolioValue)=
        List.replicate actions.length s.portfolioValue := by
  induction actions generalizing s with
  | nil => exact ⟨[],rfl,rfl⟩
  | cons a actions ih =>
    rw [List.length_cons] at hdays
    obtain ⟨p,hp⟩ : ∃ p,env.asset.close[s.currentStep]?=some p :=
      ⟨_,List.getElem?_eq_getElem (by omega)⟩
    obtain ⟨p',hp'⟩ : ∃ p',env.asset.close[s.currentStep+1]?=some p' :=
      ⟨_,List.getElem?_eq_getElem (by omega)⟩
    obtain ⟨hvalue,hafter⟩ := TradingEnv.trade_cash hfree hcash a ((p'-p)/p)
    obtain ⟨outcome,hstep,hreported⟩ :=
      env.step_some exact single (List.getElem?_cons_zero (l := [])) hp hp'
    obtain ⟨outs,houts,hvalues⟩ := ih (hafter.trans hvalue.symm)
      (show s.currentStep+1+actions.length<_ by omega)
    rw [List.map_cons,outcomes_cons hstep,houts]
    refine ⟨_,rfl,?_⟩
    rw [List.map_cons,hvalues,hreported,hvalue,List.length_cons,List.replicate_succ]

/-- An action from -1 to 1 is the weight of a single asset. -/
theorem targetWeights_single {a : K} (h : |a|≤1) : targetWeights exact [a]=[a] := by
  have habs : [a].map (exact : Arithmetic K).abs=[|a|] := rfl
  unfold targetWeights
  rw [habs,exact_sum_single,exact_one]
  refine if_neg ?_
  have hbelow : exact.below 1 |a|=decide (1 < |a|) := rfl
  rw [hbelow,decide_eq_true_eq,not_lt]
  exact h

/-- Without costs a single asset changes the value by the factor one plus the weight times the
daily return. -/
theorem MultiAssetTradingEnv.trade_single {cfg : RLConfig K} (hfree : CostFree cfg)
    (s : Portfolio K) (a p p' : K) :
    (MultiAssetTradingEnv.trade exact cfg s [a] (dailyReturns exact [p] [p'])).portfolioValue=
      s.portfolioValue*(1+a*((p'-p)/p)) := by
  unfold MultiAssetTradingEnv.trade MultiAssetTradingEnv.transactionCost RLConfig.costRate
  dsimp only
  rw [hfree.commission,hfree.tax,hfree.slippage,add_zero,add_zero,mul_zero,sub_zero]
  have hreturn : List.zipWith (fun w r => w*r) [a] (dailyReturns exact [p] [p'])=
      [a*((p'-p)/(p+0))] := rfl
  unfold portfolioReturn
  rw [hreturn,exact_sum_single,exact_one,add_zero]

/-- Without costs the values of an episode with one asset follow the factors. -/
theorem MultiAssetTradingEnv.outcomes_single (env : MultiAssetTradingEnv K) (single : K→K)
    (hfree : CostFree env.config) {asset : Asset K} (hasset : env.assets=[asset])
    {s : Portfolio K} (padding : List K) {actions : List K} (hactions : ∀ a∈actions,|a|≤1)
    (hdays : s.currentStep+actions.length<asset.close.length) :
    ∃ outs,outcomes (env.step exact single) s (actions.map fun a => a::padding)=some outs ∧
      outs.map (fun out => out.2.portfolioValue)=
        growth asset.close s.currentStep s.portfolioValue actions := by
  induction actions generalizing s with
  | nil => exact ⟨[],rfl,rfl⟩
  | cons a actions ih =>
    rw [List.length_cons] at hdays
    obtain ⟨p,hp⟩ : ∃ p,asset.close[s.currentStep]?=some p :=
      ⟨_,List.getElem?_eq_getElem (by omega)⟩
    obtain ⟨p',hp'⟩ : ∃ p',asset.close[s.currentStep+1]?=some p' :=
      ⟨_,List.getElem?_eq_getElem (by omega)⟩
    have hnDays : asset.close.length=env.nDays := env.days asset (by rw [hasset]; simp)
    have hprices : env.assets.mapM (fun asset : Asset K => asset.close[s.currentStep]?)=
        some [p] := by
      rw [hasset,List.mapM_cons,hp]
      rfl
    have hprices' : env.assets.mapM (fun asset : Asset K => asset.close[s.currentStep+1]?)=
        some [p'] := by
      rw [hasset,List.mapM_cons,hp']
      rfl
    have hlength : env.assets.length=1 := by rw [hasset]; rfl
    have haction : env.assets.length≤(a::padding).length := by
      rw [hlength,List.length_cons]
      omega
    obtain ⟨outcome,hstep,_,hreported⟩ :=
      env.step_some exact single haction hprices hprices' (by omega)
    rw [hlength,List.take_succ_cons,List.take_zero,
      targetWeights_single (hactions a List.mem_cons_self)] at hstep hreported
    rw [MultiAssetTradingEnv.trade_single hfree] at hreported
    obtain ⟨outs,houts,hvalues⟩ := ih
      (s := MultiAssetTradingEnv.trade exact env.config s [a] (dailyReturns exact [p] [p']))
      (fun b hb => hactions b (List.mem_cons_of_mem _ hb))
      (show s.currentStep+1+actions.length<_ by omega)
    rw [List.map_cons,outcomes_cons hstep,houts]
    refine ⟨_,rfl,?_⟩
    rw [MultiAssetTradingEnv.trade_single hfree] at hvalues
    rw [List.map_cons,hvalues,hreported]
    conv_rhs => rw [growth,hp,hp']
    rfl

/-- The values change by the factors, and are those of the environment of several assets. -/
structure FollowsMarket (prices : List K) (start : ℕ) (actions values multiValues : List K) :
    Prop where
  /-- The factors. -/
  compounds : Compounds prices start actions values
  /-- The other environment. -/
  agrees : values=multiValues

/-- Without costs and in exact numbers, for every path of prices, every start, every config and
all actions from -1 to 1 as long as there are prices: both environments take these actions,
and `TradingEnv` changes its portfolio value by the factors and agrees with
`MultiAssetTradingEnv` exactly if there is no capital or no action meets a change of the
price. -/
theorem follows_market_iff (path : PricePath K) (env : TradingEnv K)
    (multi : MultiAssetTradingEnv K) (single : K→K) {asset : Asset K}
    (hclose : env.asset.close=path.prices) (hasset : multi.assets=[asset])
    (hmulti : asset.close=path.prices) (hconfig : multi.config=env.config)
    (hfree : CostFree env.config) (start : ℕ) (padding : List K) {actions : List K}
    (hactions : ∀ a∈actions,|a|≤1) (hdays : start+actions.length<path.prices.length) :
    ∃ outs multiOuts,
      outcomes (env.step exact single) (env.reset exact start) (actions.map fun a => [a])=
        some outs ∧
      outcomes (multi.step exact single) (multi.reset exact start)
        (actions.map fun a => a::padding)=some multiOuts ∧
      (FollowsMarket path.prices start actions (portfolioValues env.config outs)
          (portfolioValues env.config multiOuts) ↔
        env.config.initialCapital=0 ∨ Untouched path.prices start actions) := by
  obtain ⟨outs,houts,hvalues⟩ := TradingEnv.outcomes_cash env single hfree
    (s := env.reset exact start) rfl actions (hclose ▸ hdays)
  obtain ⟨multiOuts,hmultiOuts,hmultiValues⟩ := MultiAssetTradingEnv.outcomes_single multi single
    (hconfig.symm ▸ hfree) hasset (s := multi.reset exact start) padding hactions (hmulti ▸ hdays)
  have hcapital : (multi.reset exact start).portfolioValue=env.config.initialCapital := by
    rw [← hconfig]
    rfl
  have hstart : (multi.reset exact start).currentStep=start := rfl
  rw [hmulti,hstart,hcapital] at hmultiValues
  have hcash : (env.reset exact start).portfolioValue=env.config.initialCapital := rfl
  rw [hcash] at hvalues
  have hconstant := replicate_eq_growth (v := env.config.initialCapital)
    (fun p hp => (path.positive p hp).ne') hdays
  have hgrows : Compounds path.prices start actions (portfolioValues env.config outs) ↔
      List.replicate actions.length env.config.initialCapital=
        growth path.prices start env.config.initialCapital actions := by
    unfold portfolioValues
    rw [hvalues]
    exact compounds_iff List.length_replicate hdays
  refine ⟨outs,multiOuts,houts,hmultiOuts,?_⟩
  constructor
  · intro h
    exact hconstant.mp (hgrows.mp h.compounds)
  · intro h
    refine ⟨hgrows.mpr (hconstant.mpr h),?_⟩
    unfold portfolioValues
    rw [hvalues,hmultiValues,hconstant.mpr h]

end Episodes

/-- A config without costs. -/
def freeConfig : RLConfig ℚ := ⟨50000000,0,0,0,0.2,0,2.0,1⟩

/-- An asset with some prices and no market features to speak of. -/
def plainAsset (prices : List ℚ) : Asset ℚ where
  close := prices
  features := List.replicate 8 (List.replicate prices.length 0)
  eight := List.length_replicate
  aligned column hcolumn := by rw [List.eq_of_mem_replicate hcolumn,List.length_replicate]

/-- The environment of one asset. -/
def plainEnv (prices : List ℚ) : TradingEnv ℚ := ⟨freeConfig,plainAsset prices⟩

/-- The environment of several assets, with one. -/
def plainMulti (prices : List ℚ) : MultiAssetTradingEnv ℚ where
  config := freeConfig
  maxAssets := 10
  assets := [plainAsset prices]
  nDays := prices.length
  days asset hasset := by rw [List.mem_singleton.mp hasset]; rfl

/-- Two days, of which the second one is at a higher price. -/
def rising : PricePath ℚ := ⟨[100,110],by decide +kernel⟩

/-- Half of the capital on a day of a higher price. -/
theorem follows_market_rising : ∃ outs multiOuts,
    outcomes ((plainEnv [100,110]).step exact id) ((plainEnv [100,110]).reset exact 0)
      (([0.5] : List ℚ).map fun a => [a])=some outs ∧
    outcomes ((plainMulti [100,110]).step exact id) ((plainMulti [100,110]).reset exact 0)
      (([0.5] : List ℚ).map fun a => [a])=some multiOuts ∧
    (FollowsMarket rising.prices 0 [0.5] (portfolioValues freeConfig outs)
        (portfolioValues freeConfig multiOuts) ↔
      freeConfig.initialCapital=0 ∨ Untouched rising.prices 0 [0.5]) :=
  follows_market_iff rising (plainEnv [100,110]) (plainMulti [100,110]) id rfl rfl rfl rfl
    ⟨rfl,rfl,rfl⟩ 0 [] (show ∀ a∈([0.5] : List ℚ),|a|≤1 by decide +kernel) (by decide)

/-- The whole capital invested for a day of ten percent earns nothing. -/
theorem nothing_earned : ¬∃ outs multiOuts,
    outcomes ((plainEnv [100,110]).step exact id) ((plainEnv [100,110]).reset exact 0) [[1]]=
      some outs ∧
    outcomes ((plainMulti [100,110]).step exact id) ((plainMulti [100,110]).reset exact 0)
      [[1]]=some multiOuts ∧
    FollowsMarket [100,110] 0 [1] (portfolioValues freeConfig outs)
      (portfolioValues freeConfig multiOuts) := by
  rintro ⟨outs,multiOuts,houts,hmultiOuts,h⟩
  have hvalues : (outcomes ((plainEnv [100,110]).step exact id)
      ((plainEnv [100,110]).reset exact 0) [[1]]).map (portfolioValues freeConfig)=
        some [50000000,50000000] := by decide +kernel
  have hmulti : (outcomes ((plainMulti [100,110]).step exact id)
      ((plainMulti [100,110]).reset exact 0) [[1]]).map (portfolioValues freeConfig)=
        some [50000000,55000000] := by decide +kernel
  rw [houts] at hvalues
  rw [hmultiOuts] at hmulti
  have hagree := h.agrees
  rw [Option.some.inj hvalues,Option.some.inj hmulti] at hagree
  exact absurd hagree (by decide +kernel)

end Aqts.RlReturns
