import Mathlib.Logic.Function.Basic
import Aqts.PandasSeries

/-!
# The model registry

`ModelRegistry`: the manifest in memory, the metadata of the versions, and the three
operations that change them. Which directory a version name means, and which directories
are removed with one, is given: only the names that the registry makes itself are known to
have directories of their own. Files do not fail.
-/

namespace Aqts.ModelRegistry

open PandasSeries

/-- `f"v{num:03d}"`. -/
def versionName (num : ℕ) : String :=
  String.ofList ('v'::List.leftpad 3 '0' (Nat.toDigits 10 num))

/-- `int(version[1:])`. -/
def versionNumber (version : String) : ℕ := Nat.ofDigitChars 10 (version.toList.drop 1) 0

/-- Directories of version names. -/
structure Directories (D : Type*) where
  /-- `registry_dir/version`. -/
  dir : String→D
  /-- `rmtree` of the second removes the first. -/
  inside : D→D→Bool
  /-- `rmtree` removes the directory itself. -/
  self : ∀ d,inside d d=true
  /-- The names that the registry makes have directories outside of each other. -/
  apart : ∀ m n,inside (dir (versionName m)) (dir (versionName n))=true→m=n

/-- `ModelMetadata`. -/
structure ModelMetadata (K C : Type*) where
  /-- `version`. -/
  version : String
  /-- `algorithm`. -/
  algorithm : String
  /-- `created_at`. -/
  createdAt : String
  /-- `total_timesteps`. -/
  totalTimesteps : ℤ
  /-- `training_time_seconds`. -/
  trainingTimeSeconds : Value K
  /-- `episode_count`. -/
  episodeCount : ℕ
  /-- `oos_sharpe`. -/
  oosSharpe : Value K
  /-- `oos_return`. -/
  oosReturn : Value K
  /-- `oos_max_drawdown`. -/
  oosMaxDrawdown : Value K
  /-- `oos_total_trades`. -/
  oosTotalTrades : ℤ
  /-- `improvement_vs_baseline`. -/
  improvementVsBaseline : Value K
  /-- `data_source`. -/
  dataSource : String
  /-- `tickers`. -/
  tickers : Option (List String)
  /-- `train_start`. -/
  trainStart : String
  /-- `train_end`. -/
  trainEnd : String
  /-- `train_samples`. -/
  trainSamples : ℤ
  /-- `config_snapshot`. -/
  configSnapshot : Option C
  /-- `is_champion`. -/
  isChampion : Bool
  /-- `champion_reason`. -/
  championReason : String

/-- `EvalResult`, as far as `register` reads it. -/
structure EvalResult (K : Type*) where
  /-- `sharpe_ratio`. -/
  sharpeRatio : Value K
  /-- `total_return`. -/
  totalReturn : Value K
  /-- `max_drawdown`. -/
  maxDrawdown : Value K
  /-- `total_trades`. -/
  totalTrades : ℤ
  /-- `improvement_pct`. -/
  improvementPct : Value K

/-- `TrainResult`, as far as `register` reads it. -/
structure TrainResult (K : Type*) where
  /-- `total_timesteps`. -/
  totalTimesteps : ℤ
  /-- `training_time_seconds`. -/
  trainingTimeSeconds : Value K
  /-- `episode_rewards`. -/
  episodeRewards : List (Value K)

/-- `data_info` that is not empty; a key may be absent. -/
structure DataInfo where
  /-- `source`. -/
  source : Option String
  /-- `tickers`. -/
  tickers : Option (List String)
  /-- `start`. -/
  start : Option String
  /-- `end`. -/
  stop : Option String
  /-- `samples`. -/
  samples : Option ℤ

/-- Arguments of `register` besides the model, whose file nothing here reads. -/
structure Registration (K C : Type*) where
  /-- `algorithm`. -/
  algorithm : String
  /-- `eval_result`. -/
  evalResult : Option (EvalResult K)
  /-- `config`. -/
  config : Option C
  /-- `data_info`. -/
  dataInfo : Option DataInfo
  /-- `train_result`. -/
  trainResult : Option (TrainResult K)

/-- `_manifest`. -/
structure Manifest (K : Type*) where
  /-- `versions`. -/
  versions : List String
  /-- `champion_version`. -/
  championVersion : Option String
  /-- `champion_sharpe`. -/
  championSharpe : Option (Value K)
  /-- `latest_version`. -/
  latestVersion : Option String
  /-- `created_at`. -/
  createdAt : String
  /-- `updated_at`. -/
  updatedAt : String

/-- `ModelRegistry` and its metadata files. -/
structure Registry (D K C : Type*) where
  /-- `_manifest`. -/
  manifest : Manifest K
  /-- The metadata file of a directory. -/
  metadata : D→Option (ModelMetadata K C)

variable {D K C : Type*}

/-- A registry in an empty directory. -/
def Registry.start (now : String) : Registry D K C :=
  ⟨⟨[],none,none,none,now,now⟩,fun _ => none⟩

/-- `_next_version`. -/
def nextVersion (versions : List String) : String :=
  match versions.getLast? with
  | none => "v001"
  | some last => versionName (versionNumber last+1)

/-- `_load_metadata`. -/
def Registry.loadMetadata (dirs : Directories D) (r : Registry D K C) (version : String) :
    Option (ModelMetadata K C) :=
  r.metadata (dirs.dir version)

/-- `shutil.rmtree` of the directory of a version. -/
def Registry.rmtree (dirs : Directories D) (r : Registry D K C) (version : String) :
    Registry D K C :=
  {r with metadata := fun d =>
    if dirs.inside d (dirs.dir version)=true then none else r.metadata d}

section Saving

variable [DecidableEq D]

/-- `_save_metadata`. -/
def Registry.saveMetadata (dirs : Directories D) (r : Registry D K C) (version : String)
    (metadata : ModelMetadata K C) : Registry D K C :=
  {r with metadata := Function.update r.metadata (dirs.dir version) (some metadata)}

/-- `promote_to_champion`. -/
def Registry.promoteToChampion (dirs : Directories D) (r : Registry D K C) (version now : String) :
    Registry D K C×Bool :=
  match r.loadMetadata dirs version with
  | none => (r,false)
  | some loaded =>
    let released :=
      match r.manifest.championVersion with
      | none => r
      | some old =>
        if old="" ∨ old=version then r
        else
          match r.loadMetadata dirs old with
          | none => r
          | some oldMeta => r.saveMetadata dirs old {oldMeta with isChampion := false}
    let promoted : ModelMetadata K C :=
      {loaded with isChampion := true, championReason := "manual_promotion"}
    let saved := released.saveMetadata dirs version promoted
    ({saved with manifest := {saved.manifest with
        championVersion := some version, championSharpe := some promoted.oosSharpe,
        updatedAt := now}},true)

/-- `delete_version`. -/
def Registry.deleteVersion (dirs : Directories D) (r : Registry D K C) (version : String) :
    Registry D K C×Bool :=
  if r.manifest.championVersion=some version then (r,false)
  else
    let removed := r.rmtree dirs version
    ({removed with manifest := {removed.manifest with
      versions := removed.manifest.versions.erase version}},true)

variable [Field K]

/-- The metadata of a registration before the champion is known. -/
def Registration.metadata (a : Registration K C) (version now : String) : ModelMetadata K C where
  version := version
  algorithm := a.algorithm
  createdAt := now
  totalTimesteps := (a.trainResult.map TrainResult.totalTimesteps).getD 0
  trainingTimeSeconds := (a.trainResult.map TrainResult.trainingTimeSeconds).getD (.number 0)
  episodeCount := (a.trainResult.map fun t => t.episodeRewards.length).getD 0
  oosSharpe := (a.evalResult.map EvalResult.sharpeRatio).getD (.number 0)
  oosReturn := (a.evalResult.map EvalResult.totalReturn).getD (.number 0)
  oosMaxDrawdown := (a.evalResult.map EvalResult.maxDrawdown).getD (.number 0)
  oosTotalTrades := (a.evalResult.map EvalResult.totalTrades).getD 0
  improvementVsBaseline := (a.evalResult.map EvalResult.improvementPct).getD (.number 0)
  dataSource := (a.dataInfo.bind DataInfo.source).getD ""
  tickers := a.dataInfo.map fun info => info.tickers.getD []
  trainStart := (a.dataInfo.bind DataInfo.start).getD ""
  trainEnd := (a.dataInfo.bind DataInfo.stop).getD ""
  trainSamples := (a.dataInfo.bind DataInfo.samples).getD 0
  configSnapshot := a.config
  isChampion := false
  championReason := ""

variable [LinearOrder K]

/-- Whether a registration becomes the champion: nothing, or the reason. -/
def Registry.challenge (dirs : Directories D) (fixed4 : Value K→String) (r : Registry D K C)
    (oosSharpe : Value K) : Option String :=
  match r.manifest.championVersion with
  | none => some "first_model"
  | some current =>
    match r.loadMetadata dirs current with
    | none => none
    | some championMeta =>
      if championMeta.oosSharpe.below oosSharpe=true then
        some ("sharpe_improvement: "++fixed4 championMeta.oosSharpe++" → "++fixed4 oosSharpe)
      else none

/-- The champion before is none any more. -/
def Registry.releaseChampion (dirs : Directories D) (r : Registry D K C) : Registry D K C :=
  match r.manifest.championVersion with
  | none => r
  | some current =>
    match r.loadMetadata dirs current with
    | none => r
    | some championMeta => r.saveMetadata dirs current {championMeta with isChampion := false}

/-- `register`; `fixed4` is the text of a float with four decimals. -/
def Registry.register (dirs : Directories D) (fixed4 : Value K→String) (r : Registry D K C)
    (a : Registration K C) (now : String) : Registry D K C×String :=
  let version := nextVersion r.manifest.versions
  let metadata := a.metadata version now
  match r.challenge dirs fixed4 metadata.oosSharpe with
  | some reason =>
    let saved := (r.releaseChampion dirs).saveMetadata dirs version
      {metadata with isChampion := true, championReason := reason}
    ({saved with manifest := {saved.manifest with
        versions := saved.manifest.versions++[version], latestVersion := some version,
        championVersion := some version, championSharpe := some metadata.oosSharpe,
        updatedAt := now}},version)
  | none =>
    let saved := r.saveMetadata dirs version metadata
    ({saved with manifest := {saved.manifest with
        versions := saved.manifest.versions++[version], latestVersion := some version,
        updatedAt := now}},version)

end Saving

end Aqts.ModelRegistry
