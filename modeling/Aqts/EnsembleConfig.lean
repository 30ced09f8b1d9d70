import Aqts.EnsembleSignals

/-!
# Configuration of the dynamic ensemble

`config.ensemble_config_loader`, `core.hyperopt.search_space` and what
`DynamicEnsembleService` reads: the defaults of the code, the file, the check of a
configuration and the way of sampled parameters into the file. Numbers are exact. The
dictionaries of the defaults are shared by all that is loaded, so that a load changes them.
-/

namespace Aqts.EnsembleConfig

open Dictionary StrategyWeights

/-- A value of a file. -/
inductive Value
  /-- An integer. -/
  | int (n : ℤ)
  /-- Another number. -/
  | float (x : ℚ)
  /-- Anything else, with its text. -/
  | other (text : String)
deriving DecidableEq

/-- The number in a comparison or a sum; other values raise there. -/
def Value.number : Value→Option ℚ
  | .int n => some n
  | .float x => some x
  | .other _ => none

/-- What a file has for a regime. -/
inductive Weights
  /-- A dictionary. -/
  | table (weights : Dict String Value)
  /-- Anything else, with the name of its type. -/
  | other (typeName : String)

/-- A configuration. -/
structure Config where
  /-- `ensemble`. -/
  ensemble : Dict String Value
  /-- `regime_weights`. -/
  regimeWeights : Dict String Weights
  /-- `risk`. -/
  risk : Dict String Value

/-- A dictionary of some items, of which a later one stays. -/
abbrev dict {A : Type} (items : List (String×A)) : Dict String A := Dict.collect items

/-- Weights of a regime. -/
def weightsOf (tf mr rp : ℚ) : Weights :=
  .table (dict [("TF",.float tf),("MR",.float mr),("RP",.float rp)])

/-- `_CODE_DEFAULTS`. -/
def codeDefaults : Config where
  ensemble := dict [("adx_threshold",.int 25),("vol_pct_threshold",.float 0.75),
    ("perf_window",.int 60),("softmax_temperature",.float 5.0),("perf_blend",.float 0.3),
    ("target_vol",.float 0.25)]
  regimeWeights := dict [("TRENDING_UP",weightsOf 0.55 0.15 0.30),
    ("TRENDING_DOWN",weightsOf 0.40 0.15 0.45),("HIGH_VOLATILITY",weightsOf 0.20 0.20 0.60),
    ("SIDEWAYS",weightsOf 0.25 0.45 0.30)]
  risk := dict [("stop_loss_atr_multiplier",.float 2.0),("trailing_stop_atr_multiplier",.float 3.0),
    ("max_drawdown_limit",.float 0.20),("drawdown_cooldown_days",.int 20),
    ("dd_cushion_start",.float 0.08),("dd_cushion_floor",.float 0.25)]

section Loading

/-- A section of a document. -/
inductive Part (A : Type)
  /-- Missing, or counting as false. -/
  | absent
  /-- A dictionary. -/
  | entries (d : Dict String A)
  /-- A value with which `update` raises. -/
  | malformed

/-- A document. -/
structure Document where
  /-- `ensemble`. -/
  ensemble : Part Value
  /-- `regime_weights`. -/
  regimeWeights : Part Weights
  /-- `risk`. -/
  risk : Part Value

/-- `ensemble_config.yaml`. -/
inductive File
  /-- It does not exist. -/
  | missing
  /-- It cannot be read as a mapping, so that an exception is raised before any update. -/
  | broken
  /-- A document. -/
  | document (d : Document)

/-- `update` with a section, if it does not raise. -/
def Part.update {A : Type} (part : Part A) (d : Dict String A) : Option (Dict String A) :=
  match part with
  | .absent => some d
  | .entries new => some (d.update new)
  | .malformed => none

/-- `load_ensemble_config`, from the dictionaries of the defaults: it returns them as they are
then, also after an exception. -/
def loadEnsembleConfig (defaults : Config) (file : File) : Config :=
  match file with
  | .missing => defaults
  | .broken => defaults
  | .document d =>
    match d.ensemble.update defaults.ensemble with
    | none => defaults
    | some ensemble =>
      match d.regimeWeights.update defaults.regimeWeights with
      | none => {defaults with ensemble := ensemble}
      | some regimeWeights =>
        match d.risk.update defaults.risk with
        | none => {defaults with ensemble := ensemble,regimeWeights := regimeWeights}
        | some risk => ⟨ensemble,regimeWeights,risk⟩

end Loading

section Validation

/-- Texts of values in the errors. -/
structure Texts where
  /-- `{val}`. -/
  value : Value→String
  /-- `{total:.4f}`. -/
  fixed4 : ℚ→String
  /-- The text of a set of strings. -/
  set : List String→String

variable (texts : Texts)

/-- An exception of a comparison, or errors. -/
abbrev Errors := Option (List String)

/-- What a value must be. -/
inductive Demand
  /-- `low <= val <= high`. -/
  | range (low high : ℚ)
  /-- `isinstance(val, int) and val >= least`. -/
  | atLeast (least : ℤ)
deriving DecidableEq

/-- The check of one value, if it is there. -/
structure Check where
  /-- The section. -/
  part : String
  /-- The key. -/
  key : String
  /-- What is allowed. -/
  demand : Demand
  /-- The text of what is allowed. -/
  must : String
deriving DecidableEq

/-- Whether a value is allowed; nothing for an exception. -/
def Demand.allows : Demand→Value→Option Bool
  | .range low high,v => v.number.map fun x => decide (low≤x ∧ x≤high)
  | .atLeast least,.int n => some (decide (least≤n))
  | .atLeast _,_ => some false

/-- Checks of the parameters of the ensemble. -/
def ensembleChecks : List Check :=
  [⟨"ensemble","adx_threshold",.range 10 50,"in [10, 50]"⟩,
    ⟨"ensemble","vol_pct_threshold",.range 0 1,"in [0.0, 1.0]"⟩,
    ⟨"ensemble","perf_window",.atLeast 5,"int >= 5"⟩,
    ⟨"ensemble","softmax_temperature",.range 0.1 50,"in [0.1, 50.0]"⟩,
    ⟨"ensemble","perf_blend",.range 0 1,"in [0.0, 1.0]"⟩,
    ⟨"ensemble","target_vol",.range 0.01 1,"in [0.01, 1.0]"⟩]

/-- Checks of the parameters of the risk. -/
def riskChecks : List Check :=
  [⟨"risk","stop_loss_atr_multiplier",.range 0.5 10,"in [0.5, 10.0]"⟩,
    ⟨"risk","trailing_stop_atr_multiplier",.range 0.5 10,"in [0.5, 10.0]"⟩,
    ⟨"risk","max_drawdown_limit",.range 0.05 0.5,"in [0.05, 0.5]"⟩,
    ⟨"risk","drawdown_cooldown_days",.atLeast 1,"int >= 1"⟩,
    ⟨"risk","dd_cushion_start",.range 0.01 0.3,"in [0.01, 0.3]"⟩,
    ⟨"risk","dd_cushion_floor",.range 0.1 0.9,"in [0.1, 0.9]"⟩]

/-- One check of a section. -/
def Check.errors (c : Check) (d : Dict String Value) : Errors :=
  match d.get? c.key with
  | none => some []
  | some v => (c.demand.allows v).map fun ok =>
      if ok then [] else [c.part++"."++c.key++" must be "++c.must++", got "++texts.value v]

/-- Errors of some checks one after another. -/
def errorsOf {A : Type} (f : A→Errors) : List A→Errors
  | [] => some []
  | a::rest => (f a).bind fun errors => (errorsOf f rest).map (errors++·)

/-- The regimes that have weights. -/
def validRegimes : List String := ["TRENDING_UP","TRENDING_DOWN","HIGH_VOLATILITY","SIDEWAYS"]

/-- The check of one weight. -/
def weightErrors (regime : String) (item : String×Value) : Errors :=
  item.2.number.map fun x => if 0≤x ∧ x≤1 then [] else
    ["regime_weights."++regime++"."++item.1++" must be in [0.0, 1.0], got "++texts.value item.2]

/-- The sum of some values. -/
def total (values : List Value) : Option ℚ :=
  values.foldr (fun v sum => v.number.bind fun x => sum.map (x+·)) (some 0)

/-- The check of one regime. -/
def regimeErrors (item : String×Weights) : Errors :=
  if item.1∉validRegimes then
    some ["Invalid regime: "++item.1++". Must be one of "++texts.set validRegimes]
  else match item.2 with
    | .other typeName =>
      some ["regime_weights."++item.1++" must be dict, got < class '"++typeName++"'>"]
    | .table weights =>
      if ¬(weights.keys.toFinset=["TF","MR","RP"].toFinset) then
        some ["regime_weights."++item.1++" must have keys "++texts.set ["TF","MR","RP"]++
          ", got "++texts.set weights.keys]
      else (total weights.values).bind fun sum =>
        (errorsOf (weightErrors texts item.1) weights.items).map fun errors =>
          (if 0.000001< |sum-1| then
            ["regime_weights."++item.1++" sum must be 1.0, got "++texts.fixed4 sum] else [])++errors

/-- `validate_ensemble_config`. -/
def validateEnsembleConfig (config : Config) : Errors :=
  (errorsOf (Check.errors texts · config.ensemble) ensembleChecks).bind fun first =>
    (errorsOf (regimeErrors texts) config.regimeWeights.items).bind fun second =>
      (errorsOf (Check.errors texts · config.risk) riskChecks).map fun third => first++second++third

end Validation

section Sampling

/-- `ParamSpec`, of a float unless its type is `INT`. -/
structure ParamSpec where
  /-- `name`. -/
  name : String
  /-- `param_type=ParamType.INT`. -/
  isInt : Bool
  /-- `low`. -/
  low : ℚ
  /-- `high`. -/
  high : ℚ
  /-- `step`. -/
  step : ℚ
  /-- `default`. -/
  default : ℚ
  /-- `group`. -/
  group : String
deriving DecidableEq

/-- `ENSEMBLE_PARAMS`. -/
def ensembleParams : List ParamSpec :=
  [⟨"adx_threshold",false,15,40,1,25,"ensemble"⟩,
    ⟨"vol_pct_threshold",false,0.5,0.95,0.05,0.75,"ensemble"⟩,
    ⟨"perf_window",true,20,120,10,60,"ensemble"⟩,
    ⟨"softmax_temperature",false,1,20,0.5,5,"ensemble"⟩,
    ⟨"perf_blend",false,0,0.7,0.05,0.3,"ensemble"⟩,
    ⟨"target_vol",false,0.10,0.50,0.025,0.25,"ensemble"⟩]

/-- `REGIME_WEIGHT_PARAMS`. -/
def regimeWeightParams : List ParamSpec :=
  [⟨"w_trending_up_tf",false,0.30,0.80,0.05,0.55,"regime_weights"⟩,
    ⟨"w_trending_up_mr",false,0.05,0.35,0.05,0.15,"regime_weights"⟩,
    ⟨"w_trending_down_tf",false,0.20,0.60,0.05,0.40,"regime_weights"⟩,
    ⟨"w_trending_down_mr",false,0.05,0.35,0.05,0.15,"regime_weights"⟩,
    ⟨"w_high_vol_tf",false,0.05,0.40,0.05,0.20,"regime_weights"⟩,
    ⟨"w_high_vol_mr",false,0.05,0.40,0.05,0.20,"regime_weights"⟩,
    ⟨"w_sideways_tf",false,0.10,0.45,0.05,0.25,"regime_weights"⟩,
    ⟨"w_sideways_mr",false,0.20,0.65,0.05,0.45,"regime_weights"⟩]

/-- `RISK_PARAMS`. -/
def riskParams : List ParamSpec :=
  [⟨"stop_loss_atr_multiplier",false,1,4,0.25,2,"risk"⟩,
    ⟨"trailing_stop_atr_multiplier",false,1.5,5,0.25,3,"risk"⟩,
    ⟨"max_drawdown_limit",false,0.10,0.35,0.025,0.20,"risk"⟩,
    ⟨"drawdown_cooldown_days",true,5,40,5,20,"risk"⟩,
    ⟨"dd_cushion_start",false,0.04,0.18,0.02,0.08,"risk"⟩,
    ⟨"dd_cushion_floor",false,0.10,0.50,0.05,0.25,"risk"⟩]

/-- `get_all_params`. -/
def getAllParams : List ParamSpec := ensembleParams++regimeWeightParams++riskParams

/-- `get_params_by_groups`, or all of them without groups. -/
def paramsOf (groups : List String) : List ParamSpec :=
  if groups=[] then getAllParams else getAllParams.filter fun p => decide (p.group∈groups)

/-- Names of the regimes in the names of the parameters. -/
def regimeMap : List (String×String) :=
  [("w_trending_up","TRENDING_UP"),("w_trending_down","TRENDING_DOWN"),
    ("w_high_vol","HIGH_VOLATILITY"),("w_sideways","SIDEWAYS")]

/-- Both weights of a regime, if both are there. -/
def bothWeights (params : Dict String Value) (regimePrefix : String) : Option (Value×Value) :=
  (params.get? (regimePrefix++"_tf")).bind fun tf =>
    (params.get? (regimePrefix++"_mr")).map fun mr => (tf,mr)

/-- `_validate_regime_weights`: some regime has too much of both. -/
def pruned (params : Dict String Value) : Bool :=
  regimeMap.any fun regime =>
    match bothWeights params regime.1 with
    | none => false
    | some (tf,mr) => match tf.number,mr.number with
      | some x,some y => decide (0.90<x+y)
      | _,_ => false

/-- `suggest_params`, with what the trial suggests for each parameter; nothing if it is
pruned. -/
def suggestParams (trial : ParamSpec→Value) (groups : List String) : Option (Dict String Value) :=
  let sampled := dict ((paramsOf groups).map fun p => (p.name,trial p))
  if pruned sampled then none else some sampled

/-- `round(float(v), 4)`. -/
def roundedFloat (v : Value) : Option Value := v.number.map fun x => .float (round4 x)

/-- `round(v, 4)`, which leaves an integer. -/
def roundedNumber : Value→Option Value
  | .int n => some (.int n)
  | .float x => some (.float (round4 x))
  | .other _ => none

/-- Weights of a regime from two sampled ones. -/
def regimeOf (rounded : Value→Option Value) (tf mr : Value) : Option Weights :=
  tf.number.bind fun x => mr.number.bind fun y =>
    (rounded tf).bind fun first => (rounded mr).map fun second =>
      .table (dict [("TF",first),("MR",second),("RP",.float (round4 (max (1-x-y) 0)))])

/-- The regimes of `regime_map` with both weights; a weight that is no number raises. -/
def convertedRegimes (rounded : Value→Option Value) (params : Dict String Value) :
    List (String×String)→Dict String Weights→Option (Dict String Weights)
  | [],d => some d
  | regime::rest,d =>
    match bothWeights params regime.1 with
    | none => convertedRegimes rounded params rest d
    | some (tf,mr) => (regimeOf rounded tf mr).bind fun weights =>
        convertedRegimes rounded params rest (d.set regime.2 weights)

/-- The entries of some keys, in the order of the keys. -/
def picked (params : Dict String Value) (keys : List String) : Dict String Value :=
  dict (keys.filterMap fun key => (params.get? key).map (Prod.mk key))

/-- `ensemble_keys`. -/
def ensembleKeys : List String :=
  ["adx_threshold","vol_pct_threshold","perf_window","softmax_temperature","perf_blend",
    "target_vol"]

/-- `risk_keys`. -/
def riskKeys : List String :=
  ["stop_loss_atr_multiplier","trailing_stop_atr_multiplier","max_drawdown_limit",
    "drawdown_cooldown_days","dd_cushion_start","dd_cushion_floor"]

/-- `_convert_hyperopt_params_to_config`. -/
def convertHyperoptParams (params : Dict String Value) : Option Config :=
  (convertedRegimes roundedFloat params regimeMap .empty).map fun regimeWeights =>
    ⟨picked params ensembleKeys,regimeWeights,picked params riskKeys⟩

/-- `params_to_ensemble_config`, which goes through the parameters instead of the keys. -/
def paramsToEnsembleConfig (params : Dict String Value) : Option Config :=
  (convertedRegimes roundedNumber params regimeMap .empty).map fun regimeWeights =>
    ⟨params.filter fun key _ => decide (key∈ensembleParams.map ParamSpec.name),regimeWeights,
      params.filter fun key _ => decide (key∈ riskParams.map ParamSpec.name)⟩

end Sampling

section Saving

/-- What keeps a configuration from being saved. -/
inductive SaveError
  /-- `ValueError`, with its text. -/
  | invalid (text : String)
  /-- No parameters in the result. -/
  | noParams
  /-- Another exception. -/
  | raised
deriving DecidableEq

/-- A section as it is read back: an empty one counts as false. -/
def partOf {A : Type} (d : Dict String A) : Part A := if d.items=[] then .absent else .entries d

/-- The document of a configuration. -/
def documentOf (config : Config) : Document :=
  ⟨partOf config.ensemble,partOf config.regimeWeights,partOf config.risk⟩

/-- `save_ensemble_config`: the file that it leaves. -/
def saveEnsembleConfig (texts : Texts) (config : Config) : Except SaveError File :=
  match validateEnsembleConfig texts config with
  | none => .error .raised
  | some [] => .ok (.document (documentOf config))
  | some errors => .error (.invalid ("Invalid ensemble config:\n"++"\n".intercalate errors))

/-- `apply_hyperopt_results`, for the `best_params` of a result. -/
def applyHyperoptResults (texts : Texts) (bestParams : Dict String Value) :
    Except SaveError (Config×File) :=
  if bestParams.items=[] then .error .noParams
  else match convertHyperoptParams bestParams with
    | none => .error .raised
    | some config => (saveEnsembleConfig texts config).map fun file => (config,file)

end Saving

section Service

/-- `DEFAULT_PARAMS` of the service. -/
def serviceDefaults : Dict String Value :=
  dict [("adx_threshold",.int 25),("vol_pct_threshold",.float 0.75),("perf_window",.int 60),
    ("softmax_temperature",.float 5.0),("perf_blend",.float 0.3),("target_vol",.float 0.25),
    ("min_window",.int 60)]

/-- `_params` of a service, with the configuration that it loads. -/
def serviceParams (config : Config) (params : Dict String Value) : Dict String Value :=
  (serviceDefaults.update config.ensemble).update params

/-- `_regime_weights` of a service: unknown regimes are ignored. -/
def serviceWeights (config : Config) (default : String→Weights) (regime : String) : Weights :=
  if regime∈validRegimes then (config.regimeWeights.get? regime).getD (default regime)
  else default regime

end Service

end Aqts.EnsembleConfig
