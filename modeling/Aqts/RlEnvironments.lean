import Mathlib.Algebra.Order.Field.Basic
import Mathlib.Data.Rat.Cast.Defs

/-!
# Trading environments

`TradingEnv` of one asset and `MultiAssetTradingEnv` of several, from their prepared
arrays on: the account that a step moves, the reward, the end of an episode and the
observation. Both are written over any floats, so that the account can be followed in
exact numbers and the observation in floats that may be missing or infinite.
-/

namespace Aqts.RlEnvironments

/-- What the environments ask of their floats. -/
structure Arithmetic (F : Type*) where
  /-- A literal. -/
  ofRat : ℚ→F
  /-- `abs`. -/
  abs : F→F
  /-- `<`. -/
  below : F→F→Bool
  /-- `==`. -/
  same : F→F→Bool
  /-- `1e-8` of the denominators. -/
  guard : F

/-- `max` of two values. -/
def Arithmetic.max {F : Type*} (ar : Arithmetic F) (x y : F) : F := if ar.below x y=true then y else x

/-- `RLConfig`, with what a step reads. -/
structure RLConfig (F : Type*) where
  /-- `initial_capital`. -/
  initialCapital : F
  /-- `commission_rate`. -/
  commissionRate : F
  /-- `tax_rate`. -/
  taxRate : F
  /-- `slippage_rate`. -/
  slippageRate : F
  /-- `max_drawdown_limit`. -/
  maxDrawdownLimit : F
  /-- `lookback_window`. -/
  lookbackWindow : ℕ
  /-- `risk_penalty`. -/
  riskPenalty : F
  /-- `cost_penalty`. -/
  costPenalty : F

/-- The arrays of an asset, which are as long as its prices. -/
structure Asset (F : Type*) where
  /-- `close`. -/
  close : List F
  /-- The eight market features, column by column. -/
  features : List (List F)
  /-- There are eight. -/
  eight : features.length=8
  /-- The columns are as long. -/
  aligned : ∀ column∈features,column.length=close.length

/-- `TradingEnv`. -/
structure TradingEnv (F : Type*) where
  /-- `config`. -/
  config : RLConfig F
  /-- The arrays. -/
  asset : Asset F

/-- `MultiAssetTradingEnv`. -/
structure MultiAssetTradingEnv (F : Type*) where
  /-- `config`. -/
  config : RLConfig F
  /-- `max_assets`. -/
  maxAssets : ℕ
  /-- The columns of `close_matrix` and `features_matrix`. -/
  assets : List (Asset F)
  /-- `n_days`. -/
  nDays : ℕ
  /-- There are that many rows. -/
  days : ∀ asset∈assets,asset.close.length=nDays

/-- The portfolio of an episode of `TradingEnv`. -/
structure Account (F : Type*) where
  /-- `current_step`. -/
  currentStep : ℕ
  /-- `portfolio_value`. -/
  portfolioValue : F
  /-- `peak_value`. -/
  peakValue : F
  /-- `position`. -/
  position : F
  /-- `cash`. -/
  cash : F
  /-- `trade_count`. -/
  tradeCount : ℕ

/-- The portfolio of an episode of `MultiAssetTradingEnv`. -/
structure Portfolio (F : Type*) where
  /-- `current_step`. -/
  currentStep : ℕ
  /-- `portfolio_value`. -/
  portfolioValue : F
  /-- `peak_value`. -/
  peakValue : F
  /-- `positions`. -/
  positions : List F
  /-- `cash`. -/
  cash : F
  /-- `trade_count`. -/
  tradeCount : ℕ

/-- What `step` returns; weights and their concentration only for several assets. -/
structure Outcome (F : Type*) where
  /-- The observation. -/
  observation : List F
  /-- The reward. -/
  reward : F
  /-- `terminated`. -/
  terminated : Bool
  /-- `truncated`. -/
  truncated : Bool
  /-- `portfolio_value` of the `info`. -/
  portfolioValue : F
  /-- `drawdown` of the `info`. -/
  drawdown : F
  /-- `trade_count` of the `info`. -/
  tradeCount : ℕ
  /-- `weights` of the `info`. -/
  weights : List F
  /-- `hhi` of the `info`. -/
  hhi : Option F

section Source

variable {F : Type*} [Add F] [Sub F] [Mul F] [Div F]

/-- `sum`. -/
def Arithmetic.sum (ar : Arithmetic F) (xs : List F) : F := xs.foldl (· + ·) (ar.ofRat 0)

/-- Cost rates together. -/
def RLConfig.costRate (cfg : RLConfig F) : F := cfg.commissionRate+cfg.taxRate+cfg.slippageRate

/-- `portfolio_return`, `current_drawdown` and `cash_ratio`. -/
def portfolioFeatures (ar : Arithmetic F) (cfg : RLConfig F) (portfolioValue peakValue cash : F) :
    List F :=
  [(portfolioValue-cfg.initialCapital)/(cfg.initialCapital+ar.guard),
    (peakValue-portfolioValue)/(peakValue+ar.guard),
    cash/(portfolioValue+ar.guard)]

/-- `drawdown` of a step. -/
def drawdownOf (ar : Arithmetic F) (portfolioValue peakValue : F) : F :=
  ar.max (ar.ofRat 0) (peakValue-portfolioValue)/(peakValue+ar.guard)

/-- The reward without the bonus, for the return that it is paid for. -/
def rewardOf (ar : Arithmetic F) (cfg : RLConfig F) (portfolioValue dailyReturn drawdown cost : F) :
    F :=
  let rewardScale := cfg.initialCapital/ar.ofRat 1000000
  let scale := rewardScale*ar.ofRat 1000000+ar.guard
  let ddPenalty := cfg.riskPenalty*ar.max (ar.ofRat 0) (drawdown-cfg.maxDrawdownLimit)
  let costPenalty := cfg.costPenalty*(cost/scale)
  portfolioValue*dailyReturn/scale-ddPenalty-costPenalty

/-- Market features of a day. -/
def Asset.row (asset : Asset F) (day : ℕ) : Option (List F) := asset.features.mapM fun column => column[day]?

/-- `TradingEnv._get_observation`; `single` is the conversion to single precision, which the
columns of features already have. -/
def TradingEnv.getObservation (ar : Arithmetic F) (single : F→F) (env : TradingEnv F)
    (s : Account F) : Option (List F) :=
  (env.asset.row s.currentStep).map fun market => 
    market++(portfolioFeatures ar env.config s.portfolioValue s.peakValue s.cash).map single

/-- Costs of a change of position. -/
def TradingEnv.transactionCost (ar : Arithmetic F) (cfg : RLConfig F) (s : Account F)
    (targetPosition : F) : F :=
  ar.abs (targetPosition-s.position)*cfg.initialCapital*cfg.costRate

/-- The account after a day. -/
def TradingEnv.trade (ar : Arithmetic F) (cfg : RLConfig F) (s : Account F)
    (targetPosition dailyReturn : F) : Account F :=
  let cash := s.cash-transactionCost ar cfg s targetPosition
  let moves := !ar.same s.position targetPosition
  let moved := if moves=true then cash-(targetPosition-s.position)*(s.portfolioValue-cash) else cash
  let stockValue := (s.portfolioValue-moved)*(ar.ofRat 1+dailyReturn)
  let portfolioValue := moved+stockValue
  { currentStep := s.currentStep+1
    portfolioValue := portfolioValue
    peakValue := if ar.below s.peakValue portfolioValue=true then portfolioValue else s.peakValue
    position := if moves=true then targetPosition else s.position
    cash := moved
    tradeCount := if moves=true then s.tradeCount+1 else s.tradeCount }

/-- `TradingEnv.step`; `none` is an index beyond an array. -/
def TradingEnv.step (ar : Arithmetic F) (single : F→F) (env : TradingEnv F) (s : Account F)
    (action : List F) : Option (Account F×Outcome F) :=
  match action[0]?,env.asset.close[s.currentStep]?,env.asset.close[s.currentStep+1]? with
  | some targetPosition,some currentPrice,some nextPrice =>
    let dailyReturn := (nextPrice-currentPrice)/currentPrice
    let s' := trade ar env.config s targetPosition dailyReturn
    let drawdown := drawdownOf ar s'.portfolioValue s'.peakValue
    (env.getObservation ar single s').map fun observation =>
      (s',{
        observation := observation
        reward := rewardOf ar env.config s'.portfolioValue dailyReturn drawdown
          (transactionCost ar env.config s targetPosition)
        terminated := decide (env.asset.close.length≤ s.currentStep+2)
        truncated := ar.below (env.config.maxDrawdownLimit*ar.ofRat 2) drawdown
        portfolioValue := s'.portfolioValue
        drawdown := drawdown
        tradeCount := s'.tradeCount
        weights := []
        hhi := none })
  | _,_,_ => none

/-- `TradingEnv.reset` at a start: the account. -/
def TradingEnv.reset (ar : Arithmetic F) (env : TradingEnv F) (start : ℕ) : Account F where
  currentStep := start
  portfolioValue := env.config.initialCapital
  peakValue := env.config.initialCapital
  position := ar.ofRat 0
  cash := env.config.initialCapital
  tradeCount := 0

/-- `MultiAssetTradingEnv._get_observation`, with the conversion `single`. -/
def MultiAssetTradingEnv.getObservation (ar : Arithmetic F) (single : F→F)
    (env : MultiAssetTradingEnv F) (s : Portfolio F) : Option (List F) :=
  (env.assets.mapM fun asset : Asset F => asset.row s.currentStep).map fun rows =>
    rows.flatten++List.replicate (8*(env.maxAssets-env.assets.length)) (ar.ofRat 0)++
      (portfolioFeatures ar env.config s.portfolioValue s.peakValue s.cash).map single

/-- `target_weights`: an action, scaled down to a sum of one. -/
def targetWeights (ar : Arithmetic F) (rawWeights : List F) : List F :=
  let absSum := ar.sum (rawWeights.map ar.abs)
  if ar.below (ar.ofRat 1) absSum=true then rawWeights.map fun w => w/absSum else rawWeights

/-- `daily_returns`. -/
def dailyReturns (ar : Arithmetic F) (currentPrices nextPrices : List F) : List F :=
  List.zipWith (fun next current => (next-current)/(current+ar.guard)) nextPrices currentPrices

/-- `weight_changes`. -/
def weightChanges (ar : Arithmetic F) (s : Portfolio F) (weights : List F) : List F :=
  List.zipWith (fun w before => ar.abs (w-before)) weights s.positions

/-- Costs of a change of weights. -/
def MultiAssetTradingEnv.transactionCost (ar : Arithmetic F) (cfg : RLConfig F) (s : Portfolio F)
    (weights : List F) : F :=
  ar.sum (weightChanges ar s weights)*s.portfolioValue*cfg.costRate

/-- `portfolio_return` of a day. -/
def portfolioReturn (ar : Arithmetic F) (weights returns : List F) : F :=
  ar.sum (List.zipWith (fun w r => w*r) weights returns)

/-- The portfolio after a day. -/
def MultiAssetTradingEnv.trade (ar : Arithmetic F) (cfg : RLConfig F) (s : Portfolio F)
    (weights returns : List F) : Portfolio F :=
  let changes := weightChanges ar s weights
  let portfolioValue := s.portfolioValue*(ar.ofRat 1+portfolioReturn ar weights returns)-
    transactionCost ar cfg s weights
  { currentStep := s.currentStep+1
    portfolioValue := portfolioValue
    peakValue := if ar.below s.peakValue portfolioValue=true then portfolioValue else s.peakValue
    positions := weights
    cash := portfolioValue*(ar.ofRat 1-ar.sum (weights.map ar.abs))
    tradeCount := if ar.below (ar.ofRat 0.01) (ar.sum changes)=true then
        s.tradeCount+changes.countP fun change => ar.below (ar.ofRat 0.005) change
      else s.tradeCount }

/-- `MultiAssetTradingEnv.step`; `none` is an index beyond an array or an action that is too
short. -/
def MultiAssetTradingEnv.step (ar : Arithmetic F) (single : F→F) (env : MultiAssetTradingEnv F)
    (s : Portfolio F) (action : List F) : Option (Portfolio F×Outcome F) :=
  match env.assets.mapM (fun asset : Asset F => asset.close[s.currentStep]?),
      env.assets.mapM (fun asset : Asset F => asset.close[s.currentStep+1]?) with
  | some currentPrices,some nextPrices =>
    if action.length<env.assets.length then none
    else
      let weights := targetWeights ar (action.take env.assets.length)
      let returns := dailyReturns ar currentPrices nextPrices
      let s' := trade ar env.config s weights returns
      let drawdown := drawdownOf ar s'.portfolioValue s'.peakValue
      let hhi := ar.sum (weights.map fun w => w*w)
      (env.getObservation ar single s').map fun observation =>
        (s',{
          observation := observation
          reward := rewardOf ar env.config s'.portfolioValue (portfolioReturn ar weights returns)
              drawdown (transactionCost ar env.config s weights)+
            ar.ofRat 0.01*ar.max (ar.ofRat 0) (ar.ofRat 1/ar.ofRat env.assets.length-hhi)
          terminated := decide (env.nDays≤ s.currentStep+2)
          truncated := ar.below (env.config.maxDrawdownLimit*ar.ofRat 2) drawdown
          portfolioValue := s'.portfolioValue
          drawdown := drawdown
          tradeCount := s'.tradeCount
          weights := weights
          hhi := some hhi })
  | _,_ => none

/-- `MultiAssetTradingEnv.reset` at a start: the portfolio. -/
def MultiAssetTradingEnv.reset (ar : Arithmetic F) (env : MultiAssetTradingEnv F) (start : ℕ) :
    Portfolio F where
  currentStep := start
  portfolioValue := env.config.initialCapital
  peakValue := env.config.initialCapital
  positions := List.replicate env.assets.length (ar.ofRat 0)
  cash := env.config.initialCapital
  tradeCount := 0

end Source

/-- States and outcomes of one action after the other. -/
def outcomes {S A O : Type*} (step : S→A→Option (S×O)) : S→List A→Option (List (S×O))
  | _,[] => some []
  | s,action::rest =>
    match step s action with
    | none => none
    | some (s',outcome) => (outcomes step s' rest).map fun more => (s',outcome)::more

/-- What exists for every entry exists for the list. -/
theorem mapM_total {α β : Type*} {f : α→Option β} {xs : List α} (h : ∀ x∈xs,∃ y,f x=some y) :
    ∃ ys,xs.mapM f=some ys := by
  induction xs with
  | nil => exact ⟨[],rfl⟩
  | cons x xs ih =>
    obtain ⟨y,hy⟩ := h x List.mem_cons_self
    obtain ⟨ys,hys⟩ := ih fun x' hx' => h x' (List.mem_cons_of_mem _ hx')
    refine ⟨y::ys,?_⟩
    rw [List.mapM_cons,hy,hys]
    rfl

/-- Lists whose entries give the same give the same. -/
theorem mapM_same {α β γ : Type*} {f : α→Option β} {g : γ→Option β} {xs : List α} {ys : List γ}
    (h : List.Forall₂ (fun x y => f x=g y) xs ys) : xs.mapM f=ys.mapM g := by
  induction h with
  | nil => rfl
  | cons hxy _ ih => rw [List.mapM_cons,List.mapM_cons,hxy,ih]

/-- An asset has its features for every day with a price. -/
theorem Asset.row_total {F : Type*} (asset : Asset F) {day : ℕ} (h : day<asset.close.length) :
    ∃ row,asset.row day=some row := by
  refine mapM_total fun column hcolumn => ?_
  rw [← asset.aligned column hcolumn] at h
  exact ⟨_,List.getElem?_eq_getElem h⟩

/-- A first action, and the others from where it leads. -/
theorem outcomes_cons {S A O : Type*} {step : S→A→Option (S×O)} {s s' : S} {action : A}
    {outcome : O} (h : step s action=some (s',outcome)) (rest : List A) :
    outcomes step s (action::rest)=
      (outcomes step s' rest).map fun more => (s',outcome)::more := by
  rw [outcomes,h]

/-- Every asset has a price on a day of the data. -/
theorem MultiAssetTradingEnv.prices_total {F : Type*} (env : MultiAssetTradingEnv F) {day : ℕ}
    (h : day<env.nDays) :
    ∃ prices,env.assets.mapM (fun asset : Asset F => asset.close[day]?)=some prices := by
  refine mapM_total fun asset hasset => ?_
  rw [← env.days asset hasset] at h
  exact ⟨_,List.getElem?_eq_getElem h⟩

section Steps

variable {F : Type*} [Add F] [Sub F] [Div F]

/-- The observation exists on every day of the data. -/
theorem MultiAssetTradingEnv.getObservation_total (ar : Arithmetic F) (single : F→F)
    (env : MultiAssetTradingEnv F) {s : Portfolio F} (hday : s.currentStep<env.nDays) :
    ∃ observation,env.getObservation ar single s=some observation := by
  have hrow : ∀ asset∈env.assets,∃ row,asset.row s.currentStep=some row := fun asset hasset =>
    asset.row_total ((env.days asset hasset).symm ▸ hday)
  obtain ⟨rows,hrows⟩ := mapM_total hrow
  unfold MultiAssetTradingEnv.getObservation
  rw [hrows]
  exact ⟨_,rfl⟩

variable [Mul F]

/-- Between two days with prices a step trades, and reports the value of the account. -/
theorem TradingEnv.step_some (ar : Arithmetic F) (single : F→F) (env : TradingEnv F)
    {s : Account F} {action : List F} {target p p' : F} (haction : action[0]?=some target)
    (hp : env.asset.close[s.currentStep]?=some p)
    (hp' : env.asset.close[s.currentStep+1]?=some p') :
    ∃ outcome,env.step ar single s action=
        some (trade ar env.config s target ((p'-p)/p),outcome) ∧
      outcome.portfolioValue=(trade ar env.config s target ((p'-p)/p)).portfolioValue := by
  obtain ⟨row,hrow⟩ := env.asset.row_total (List.getElem?_eq_some_iff.mp hp').1
  have hobservation : ∃ observation,env.getObservation ar single
      (trade ar env.config s target ((p'-p)/p))=some observation := by
    unfold TradingEnv.getObservation
    have hday : (trade ar env.config s target ((p'-p)/p)).currentStep=s.currentStep+1 := rfl
    rw [hday,hrow]
    exact ⟨_,rfl⟩
  obtain ⟨observation,hobs⟩ := hobservation
  unfold TradingEnv.step
  rw [haction,hp,hp']
  dsimp only
  rw [hobs]
  exact ⟨_,rfl,rfl⟩

/-- Between two days of the data a step trades, and reports the value of the portfolio. -/
theorem MultiAssetTradingEnv.step_some (ar : Arithmetic F) (single : F→F)
    (env : MultiAssetTradingEnv F) {s : Portfolio F} {action prices prices' : List F}
    (haction : env.assets.length≤action.length)
    (hprices : env.assets.mapM (fun asset : Asset F => asset.close[s.currentStep]?)=some prices)
    (hprices' : env.assets.mapM (fun asset : Asset F => asset.close[s.currentStep+1]?)=
      some prices') (hday : s.currentStep+1<env.nDays) :
    ∃ outcome,env.step ar single s action=
        some (trade ar env.config s (targetWeights ar (action.take env.assets.length))
          (dailyReturns ar prices prices'),outcome) ∧
      env.getObservation ar single (trade ar env.config s
        (targetWeights ar (action.take env.assets.length)) (dailyReturns ar prices prices'))=
          some outcome.observation ∧
      outcome.portfolioValue=(trade ar env.config s
        (targetWeights ar (action.take env.assets.length))
          (dailyReturns ar prices prices')).portfolioValue := by
  obtain ⟨observation,hobs⟩ := env.getObservation_total ar single
    (s := trade ar env.config s (targetWeights ar (action.take env.assets.length))
      (dailyReturns ar prices prices')) hday
  unfold MultiAssetTradingEnv.step
  rw [hprices,hprices']
  dsimp only
  rw [if_neg (not_lt.mpr haction),hobs]
  exact ⟨_,rfl,rfl,rfl⟩

/-- An action that is too short is an exception. -/
theorem MultiAssetTradingEnv.step_short (ar : Arithmetic F) (single : F→F)
    (env : MultiAssetTradingEnv F) (s : Portfolio F) {action : List F}
    (haction : action.length<env.assets.length) : env.step ar single s action=none := by
  unfold MultiAssetTradingEnv.step
  split
  · exact if_pos haction
  · rfl

/-- A step returns the observation of the portfolio it leads to. -/
theorem MultiAssetTradingEnv.step_observation {ar : Arithmetic F} {single : F→F}
    {env : MultiAssetTradingEnv F} {s s' : Portfolio F} {action : List F} {outcome : Outcome F}
    (h : env.step ar single s action=some (s',outcome)) :
    env.getObservation ar single s'=some outcome.observation := by
  unfold MultiAssetTradingEnv.step at h
  split at h
  · split at h
    · cases h
    · obtain ⟨observation,hobs,hsame⟩ := Option.map_eq_some_iff.mp h
      cases hsame
      exact hobs
  · cases h

end Steps

end Aqts.RlEnvironments
