import Mathlib.Algebra.BigOperators.Group.List.Basic
import Mathlib.Algebra.Order.BigOperators.Group.List
import Mathlib.Algebra.Order.Ring.Rat
import Mathlib.Data.Rat.Floor
import Mathlib.Tactic.NormNum
import Mathlib.Tactic.Linarith
import Aqts.Dictionary
import Aqts.ExpiringSlot
import Aqts.PandasSeries

/-!
# Strategy weights of the ensemble

`StrategyEnsembleEngine.get_weights` and `recalibrate_weights`: the weights live in the
engine, under a key of Redis that expires, and in the table `strategy_weights`, and are
read in this order. Recalibrated weights have the strategies of the weights before, and
values that the column of the table keeps as they are.
-/

namespace Aqts.StrategyWeights

open Dictionary ExpiringSlot PandasSeries

/-- `RiskProfile`. -/
inductive RiskProfile
  | conservative | balanced | aggressive | dividend
  deriving DecidableEq

/-- Text of a profile. -/
def RiskProfile.value : RiskProfile→String
  | .conservative => "CONSERVATIVE"
  | .balanced => "BALANCED"
  | .aggressive => "AGGRESSIVE"
  | .dividend => "DIVIDEND"

/-- Weights of strategies. -/
abbrev Weights (K : Type*) := Dict String K

/-- Which backends answer during a call. -/
structure Health where
  /-- Redis answers. -/
  redis : Bool
  /-- The database answers. -/
  database : Bool
  deriving DecidableEq

/-- The contents of both backends. -/
structure Stores (K : Type*) where
  /-- The Redis keys. -/
  keys : String→Slot (Weights K) ℚ
  /-- The rows of `strategy_weights` of each profile. -/
  rows : RiskProfile→Weights K

/-- An engine and the backends. -/
structure System (K : Type*) where
  /-- `_risk_profile`. -/
  riskProfile : RiskProfile
  /-- `_weights`. -/
  weights : Option (Weights K)
  /-- The backends. -/
  stores : Stores K

/-- The weights, if there are any: what an `if` takes for true. -/
def truthy {K : Type*} (weights : Option (Weights K)) : Option (Weights K) :=
  weights.filter fun w => !w.items.isEmpty

/-- `WEIGHT_CACHE_PREFIX` and the profile. -/
def cacheKey (riskProfile : RiskProfile) : String := "aqts:ensemble_weights:"++riskProfile.value

section Loading

variable {K : Type*} [Field K]

/-- Six strategies with some weights. -/
def sixStrategies (factor meanReversion trendFollowing riskParity mlSignal sentiment : K) :
    Weights K :=
  ⟨[("FACTOR",factor),("MEAN_REVERSION",meanReversion),("TREND_FOLLOWING",trendFollowing),
    ("RISK_PARITY",riskParity),("ML_SIGNAL",mlSignal),("SENTIMENT",sentiment)],
    (by decide : ["FACTOR","MEAN_REVERSION","TREND_FOLLOWING","RISK_PARITY","ML_SIGNAL",
      "SENTIMENT"].Nodup)⟩

/-- `ENSEMBLE_DEFAULT_WEIGHTS`. -/
def ensembleDefaultWeights : RiskProfile→Weights K
  | .conservative => sixStrategies 0.25 0.10 0.15 0.30 0.00 0.20
  | .balanced => sixStrategies 0.25 0.10 0.20 0.20 0.00 0.25
  | .aggressive => sixStrategies 0.15 0.15 0.30 0.10 0.00 0.30
  | .dividend => sixStrategies 0.35 0.05 0.10 0.25 0.00 0.25

/-- `_get_cached_weights`. -/
def Stores.getCachedWeights (s : Stores K) (h : Health) (now : ℚ) (p : RiskProfile) :
    Option (Weights K) :=
  if h.redis=true then read now (s.keys (cacheKey p)) else none

/-- `_cache_weights`, for a day. -/
def Stores.cacheWeights (s : Stores K) (h : Health) (now : ℚ) (p : RiskProfile)
    (weights : Weights K) : Stores K :=
  if h.redis=true then
    { s with keys := Function.update s.keys (cacheKey p) (setEx now 86400 weights) }
  else s

/-- `_load_weights_from_db`. -/
def Stores.loadWeightsFromDb (s : Stores K) (h : Health) (p : RiskProfile) : Option (Weights K) :=
  if h.database=true then truthy (some (s.rows p)) else none

/-- `get_weights`. -/
def System.getWeights (s : System K) (h : Health) (now : ℚ) : Weights K×System K :=
  match truthy s.weights with
  | some weights => (weights,s)
  | none =>
    match truthy (s.stores.getCachedWeights h now s.riskProfile) with
    | some cached => (cached,{ s with weights := some cached })
    | none =>
      match truthy (s.stores.loadWeightsFromDb h s.riskProfile) with
      | some dbWeights => (dbWeights,{ s with 
          weights := some dbWeights
          stores := s.stores.cacheWeights h now s.riskProfile dbWeights })
      | none =>
        let defaults := ensembleDefaultWeights s.riskProfile
        (defaults,{ s with weights := some defaults })

end Loading

section Rounding

variable {K : Type*} [Field K] [LinearOrder K] [FloorRing K]

/-- `round(x, 4)`. -/
def round4 (x : K) : K := (roundHalfEven (x*10000.0) : K)/10000.0

/-- The nearest integer, of two the one away from zero. -/
def roundHalfAway (x : K) : ℤ := if 0≤x then ⌊x+0.5⌋ else -⌊-x+0.5⌋

/-- A number in a column `NUMERIC(5, 4)`; `none` is the error of one that is too large. -/
def numeric54 (x : K) : Option K :=
  let stored := (roundHalfAway (x*10000.0) : K)/10000.0
  if |stored|<10.0 then some stored else none

/-- `_save_weights_to_db`: the rows of the profile with all these weights, or nothing. -/
def Stores.saveWeightsToDb (s : Stores K) (h : Health) (p : RiskProfile) (weights : Weights K) :
    Stores K :=
  if h.database=true ∧ weights.values.all (fun w => (numeric54 w).isSome)=true then
    let stored := (s.rows p).update (weights.mapItems fun _ w => (numeric54 w).getD 0)
    { s with rows := Function.update s.rows p stored }
  else s

end Rounding

section Recalibration

variable {K : Type*} [Field K] [LinearOrder K]

/-- `new_weights` of the method "equal". -/
def equalWeights (oldWeights : Weights K) : Weights K :=
  let active := oldWeights.filter fun _ v => decide (0<v)
  let n := max active.items.length 1
  oldWeights.mapItems fun _ v => if 0<v then 1/(n : K) else 0

/-- The shares of positive Sharpe ratios, from five to forty percent before they are scaled to a
sum of one. -/
def cappedShares (positiveSharpes : Dict String (Value K)) : Weights K :=
  let total := positiveSharpes.values.foldl (· + ·) (.number 0)
  if total.below (.number 1e-10)=true then
    positiveSharpes.mapItems fun _ _ => 1/((max positiveSharpes.items.length 1 : ℕ) : K)
  else
    let capped := positiveSharpes.mapItems fun _ s => (s/total).fillnaClip 0.40 0.05 0.40
    capped.mapItems fun _ v => v/capped.values.sum

/-- `new_weights` of the method "sharpe". -/
def sharpeWeights (oldWeights : Weights K) (strategyPerformances : Dict String (Value K)) :
    Weights K :=
  let positiveSharpes := (oldWeights.filter fun _ v => decide (0<v)).mapItems fun key _ =>
    ((strategyPerformances.get? key).getD (.number 0)).pyMax (.number 0)
  (cappedShares positiveSharpes).fill oldWeights.keys 0

variable [FloorRing K]

/-- `new_weights` of `recalibrate_weights`. -/
def recalibrated (oldWeights : Weights K) (strategyPerformances : Dict String (Value K))
    (method : String) : Weights K :=
  (if method="equal" then equalWeights oldWeights
    else sharpeWeights oldWeights strategyPerformances).mapItems fun _ v => round4 v

/-- `recalibrate_weights`. -/
def System.recalibrateWeights (s : System K) (h : Health) (now : ℚ)
    (strategyPerformances : Dict String (Value K)) (method : String) : Weights K×System K :=
  let loaded := s.getWeights h now
  let newWeights := recalibrated loaded.1 strategyPerformances method
  let saved := loaded.2.stores.saveWeightsToDb h s.riskProfile newWeights
  (newWeights,{ loaded.2 with
    weights := some newWeights
    stores := saved.cacheWeights h now s.riskProfile newWeights })

end Recalibration

/-- A clipped value is between its bounds. -/
theorem fillnaClip_range {K : Type*} [LinearOrder K] {fill lower upper : K} (h : lower≤upper) (v : Value K) :
    lower≤v.fillnaClip fill lower upper ∧ v.fillnaClip fill lower upper≤upper := by
  have hclip : ∀ x : K,lower≤ min (max x lower) upper ∧ min (max x lower) upper≤upper := fun x =>
    ⟨le_min (le_max_right x lower) h,min_le_right _ _⟩
  unfold Value.fillnaClip
  cases v with
  | missing => exact hclip fill
  | infinite a =>
    dsimp only
    split
    · exact ⟨le_rfl,h⟩
    · exact ⟨h,le_rfl⟩
  | number x => exact hclip x

section Values

variable {K : Type*} [Field K] [LinearOrder K] [IsStrictOrderedRing K]

/-- One part of at least one. -/
theorem part_range (n : ℕ) : 0≤1/((max n 1 : ℕ) : K) ∧ 1/((max n 1 : ℕ) : K)≤1 := by
  have hn : (1 : K)≤((max n 1 : ℕ) : K) := by exact_mod_cast le_max_right n 1
  have hpos : (0 : K)<((max n 1 : ℕ) : K) := zero_lt_one.trans_le hn
  exact ⟨(div_pos zero_lt_one hpos).le,(div_le_one hpos).mpr hn⟩

/-- Equal weights are from zero to one. -/
theorem equalWeights_range {oldWeights : Weights K} {key : String} {v : K}
    (hv : (equalWeights oldWeights).get? key=some v) : 0≤v ∧ v≤1 := by
  unfold equalWeights at hv
  dsimp only at hv
  rw [Dict.get?_mapItems,Option.map_eq_some_iff] at hv
  obtain ⟨before,_,rfl⟩ := hv
  split
  · exact part_range _
  · exact ⟨le_rfl,zero_le_one⟩

/-- Capped shares are from zero to one. -/
theorem cappedShares_range {positiveSharpes : Dict String (Value K)} {key : String} {v : K}
    (hv : (cappedShares positiveSharpes).get? key=some v) : 0≤v ∧ v≤1 := by
  unfold cappedShares at hv
  dsimp only at hv
  split at hv
  · rw [Dict.get?_mapItems,Option.map_eq_some_iff] at hv
    obtain ⟨before,_,rfl⟩ := hv
    exact part_range _
  · rw [Dict.get?_mapItems,Option.map_eq_some_iff] at hv
    obtain ⟨capped,hcapped,rfl⟩ := hv
    set d := positiveSharpes.mapItems fun _ s =>
      (s/positiveSharpes.values.foldl (· + ·) (.number 0)).fillnaClip 0.40 0.05 0.40 with hd
    have hmem : capped∈d.values := List.mem_map_of_mem (d.get?_eq_some.mp hcapped)
    have hpositive : ∀ x∈d.values,0<x := by
      intro x hx
      obtain ⟨item,hitem,rfl⟩ := List.mem_map.mp hx
      obtain ⟨before,_,rfl⟩ := List.mem_map.mp hitem
      exact (show (0 : K)<0.05 by norm_num).trans_le (fillnaClip_range (by norm_num) _).1
    have hle : capped≤d.values.sum :=
      List.single_le_sum (fun x hx => (hpositive x hx).le) capped hmem
    have hsum : 0<d.values.sum := (hpositive capped hmem).trans_le hle
    exact ⟨(div_pos (hpositive capped hmem) hsum).le,(div_le_one hsum).mpr hle⟩

/-- Weights by Sharpe ratios are from zero to one. -/
theorem sharpeWeights_range {oldWeights : Weights K} {performances : Dict String (Value K)}
    {key : String} {v : K} (hv : (sharpeWeights oldWeights performances).get? key=some v) :
    0≤v ∧ v≤1 := by
  unfold sharpeWeights at hv
  dsimp only at hv
  rw [Dict.get?_fill,Option.or_eq_some_iff] at hv
  rcases hv with hshare | ⟨_,hzero⟩
  · exact cappedShares_range hshare
  · split at hzero
    · rw [← Option.some.inj hzero]
      exact ⟨le_rfl,zero_le_one⟩
    · cases hzero

variable [FloorRing K]

/-- A rounded number is in the same range of integers. -/
theorem roundHalfEven_range {x : K} {n : ℤ} (h0 : 0≤x) (h1 : x≤n) :
    0≤ roundHalfEven x ∧ roundHalfEven x≤n := by
  have hfloor : 0≤⌊x⌋ := Int.floor_nonneg.mpr h0
  have hle : ⌊x⌋≤n := Int.floor_le_iff.mpr (by linarith)
  have hup : 0< x-⌊x⌋→⌊x⌋+1≤n := by
    intro hrest
    have hlt : (⌊x⌋ : K)<n := by linarith
    exact Int.add_one_le_iff.mpr (by exact_mod_cast hlt)
  unfold roundHalfEven
  dsimp only
  split
  · exact ⟨hfloor,hle⟩
  · rename_i hhalf
    have hrest : 0< x-⌊x⌋ := (show (0 : K)<0.5 by norm_num).trans_le (not_lt.mp hhalf)
    split
    · exact ⟨by omega,hup hrest⟩
    · split
      · exact ⟨hfloor,hle⟩
      · exact ⟨by omega,hup hrest⟩

/-- An integer is rounded to itself. -/
theorem roundHalfAway_intCast {n : ℤ} (h : 0≤n) : roundHalfAway (n : K)=n := by
  unfold roundHalfAway
  rw [if_pos (Int.cast_nonneg_iff.mpr h),Int.floor_eq_iff]
  constructor
  · linarith [show (0 : K)<0.5 by norm_num]
  · linarith [show (0.5 : K)<1 by norm_num]

/-- A number with four decimals from zero to one is stored as it is. -/
theorem numeric54_round4 {x : K} (h0 : 0≤x) (h1 : x≤1) : numeric54 (round4 x)=some (round4 x) := by
  have hscale : (10000.0 : K)=10000 := by norm_num
  have hscaled : x*10000.0≤((10000 : ℤ) : K) := by
    rw [hscale]
    push_cast
    linarith
  obtain ⟨hk0,hk1⟩ := roundHalfEven_range (mul_nonneg h0 (by norm_num)) hscaled
  have hback : round4 x*10000.0=(roundHalfEven (x*10000.0) : K) := by
    unfold round4
    exact div_mul_cancel₀ _ (by norm_num)
  have hsmall : |round4 x|<10.0 := by
    have hnonneg : 0≤ round4 x :=
      div_nonneg (Int.cast_nonneg_iff.mpr hk0) (show (0 : K)≤10000.0 by norm_num)
    rw [abs_of_nonneg hnonneg]
    have hone : round4 x*10000.0≤((10000 : ℤ) : K) := by
      rw [hback]
      exact Int.cast_le.mpr hk1
    rw [hscale] at hone
    push_cast at hone
    linarith [show (10.0 : K)=10 by norm_num]
  unfold numeric54
  dsimp only
  rw [hback,roundHalfAway_intCast hk0]
  exact if_pos hsmall

/-- Recalibrated weights are stored as they are. -/
theorem numeric54_recalibrated {oldWeights : Weights K} {performances : Dict String (Value K)}
    {method key : String} {v : K}
    (hv : (recalibrated oldWeights performances method).get? key=some v) :
    numeric54 v=some v := by
  unfold recalibrated at hv
  rw [Dict.get?_mapItems,Option.map_eq_some_iff] at hv
  obtain ⟨before,hbefore,rfl⟩ := hv
  have hrange : 0≤before ∧ before≤1 := by
    split at hbefore
    · exact equalWeights_range hbefore
    · exact sharpeWeights_range hbefore
  exact numeric54_round4 hrange.1 hrange.2

end Values

section Keys

variable {K : Type*} [Field K] [LinearOrder K]

/-- Shares are for the same strategies. -/
theorem keys_cappedShares (positiveSharpes : Dict String (Value K)) :
    (cappedShares positiveSharpes).keys=positiveSharpes.keys := by
  unfold cappedShares
  dsimp only
  split
  · exact Dict.keys_mapItems _ _
  · rw [Dict.keys_mapItems,Dict.keys_mapItems]

/-- Recalibrated weights have the strategies of the weights before. -/
theorem keys_recalibrated [FloorRing K] (oldWeights : Weights K)
    (performances : Dict String (Value K)) (method key : String) :
    key∈(recalibrated oldWeights performances method).keys ↔ key∈oldWeights.keys := by
  unfold recalibrated
  rw [Dict.keys_mapItems]
  split
  · unfold equalWeights
    rw [Dict.keys_mapItems]
  · unfold sharpeWeights
    dsimp only
    rw [Dict.mem_keys_fill,keys_cappedShares,Dict.keys_mapItems]
    exact or_iff_right_of_imp Dict.mem_keys_filter

end Keys

end Aqts.StrategyWeights
