import Aqts.GuardedRuns
import Aqts.WeightOptimizer

/-!
# Weights of the engine and of its stores

Whether the engine, Redis and the table hold the same weights after every call that
writes them. Recalibration writes all three, so they do as long as the table has no
strategy that the weights in effect lack. An optimization that has backtests replaces the
weights of the engine alone.
-/

namespace Aqts.WeightStores

open Dictionary ExpiringSlot GuardedRuns PandasSeries StrategyWeights WeightOptimizer

/-- What is called. -/
inductive Call (D K : Type*)
  /-- `get_weights`. -/
  | getWeights
  /-- `recalibrate_weights`. -/
  | recalibrateWeights (performances : Dict String (Value K)) (method : String)
  /-- `optimize_and_apply` of an optimizer with a profile. -/
  | optimizeAndApply (riskProfile : RiskProfile) (results : List (BacktestResult D K))
    (method : String)

/-- A call, its time and the backends that answer it. -/
structure Event (D K : Type*) where
  /-- The call. -/
  call : Call D K
  /-- The time. -/
  now : ℚ
  /-- The backends. -/
  health : Health

/-- Both backends answer. -/
def Event.Working {D K : Type*} (e : Event D K) : Prop := e.health=⟨true,true⟩

/-- The call writes weights. -/
def Event.Writes {D K : Type*} (e : Event D K) : Prop :=
  match e.call with
  | .getWeights => False
  | .recalibrateWeights _ _ => True
  | .optimizeAndApply _ results _ => results≠[]

/-- The call is no optimization with backtests. -/
def Event.Recalibrates {D K : Type*} (e : Event D K) : Prop :=
  match e.call with
  | .optimizeAndApply _ results _ => results=[]
  | _ => True

section Runs

variable {D K : Type*} [DecidableEq D] [Field K] [LinearOrder K] [FloorRing K]

/-- The engine and its stores after a call. -/
def advance (world : World K) (s : System K) (e : Event D K) : System K :=
  match e.call with
  | .getWeights => (s.getWeights e.health e.now).2
  | .recalibrateWeights performances method =>
    (s.recalibrateWeights e.health e.now performances method).2
  | .optimizeAndApply riskProfile results method =>
    (optimizeAndApply world riskProfile s e.health e.now results method).2

/-- Every call returns. -/
def step (world : World K) (s : System K) (e : Event D K) : Option (System K) :=
  some (advance world s e)

end Runs

section Stored

variable {K : Type*}

/-- The slot of an engine in Redis. -/
def slotOf (s : System K) : Slot (Weights K) ℚ := s.stores.keys (cacheKey s.riskProfile)

/-- The rows of an engine. -/
def rowsOf (s : System K) : Weights K := s.stores.rows s.riskProfile

/-- Engine, Redis and table hold the same weights at a time. -/
def Synced (s : System K) (now : ℚ) : Prop :=
  ∃ weights cached,s.weights=some weights ∧ read now (slotOf s)=some cached ∧
    weights.Same cached ∧ weights.Same (rowsOf s)

/-- Strategies with a row are strategies of some weights. -/
def Covers (rows weights : Weights K) : Prop := ∀ key∈rows.keys,key∈weights.keys

/-- The table has no strategy that the weights in effect lack. -/
structure Covered (s : System K) : Prop where
  /-- Those of the engine. -/
  engine : ∀ weights,truthy s.weights=some weights→ Covers (rowsOf s) weights
  /-- Those in Redis. -/
  cache : ∀ entry,slotOf s=some entry→entry.value.items.isEmpty=false→ Covers (rowsOf s) entry.value

/-- What is taken for true has items. -/
theorem truthy_eq_some {weights : Option (Weights K)} {w : Weights K} :
    truthy weights=some w ↔ weights=some w ∧ w.items.isEmpty=false := by
  unfold truthy
  rw [Option.filter_eq_some_iff,Bool.not_eq_true']

/-- A dictionary with a key has items. -/
theorem isEmpty_of_key {α : Type*} {w : Dict String α} {key : String} (h : key∈w.keys) :
    w.items.isEmpty=false := by
  unfold Dict.keys at h
  cases hitems : w.items with
  | nil =>
    rw [hitems] at h
    cases h
  | cons item rest => rfl

/-- A dictionary with items has a key. -/
theorem exists_key {w : Weights K} (h : w.items.isEmpty=false) : ∃ key,key∈w.keys := by
  unfold Dict.keys
  cases hitems : w.items with
  | nil =>
    rw [hitems] at h
    cases h
  | cons item rest => exact ⟨item.1,List.mem_cons_self⟩

/-- What `get_weights` leaves behind. -/
structure Loaded (s : System K) (loaded : Weights K×System K) : Prop where
  /-- The weights have items. -/
  nonempty : loaded.1.items.isEmpty=false
  /-- The engine has them. -/
  engine : loaded.2.weights=some loaded.1
  /-- The profile stays. -/
  riskProfile : loaded.2.riskProfile=s.riskProfile
  /-- The rows stay. -/
  rows : rowsOf loaded.2=rowsOf s
  /-- The rows are covered. -/
  covered : Covered loaded.2

/-- The weights of an engine that has just loaded them cover the rows. -/
theorem Loaded.covers {s : System K} {loaded : Weights K×System K} (h : Loaded s loaded) :
    Covers (rowsOf s) loaded.1 := by
  rw [← h.rows]
  exact h.covered.engine loaded.1 (truthy_eq_some.mpr ⟨h.engine,h.nonempty⟩)

/-- A slot that was just written. -/
theorem slot_cacheWeights (s : Stores K) (database : Bool) (now : ℚ) (p : RiskProfile)
    (weights : Weights K) :
    (s.cacheWeights ⟨true,database⟩ now p weights).keys (cacheKey p)=setEx now 86400 weights :=
  Function.update_self _ _ _

/-- What `recalibrate_weights` leaves behind: the weights are in the engine, in Redis and in the
table. -/
structure Recalibrated (s : System K) (now : ℚ) (newWeights : Weights K) (s' : System K) : Prop
    where
  /-- The engine has them. -/
  engine : s'.weights=some newWeights
  /-- The profile stays. -/
  riskProfile : s'.riskProfile=s.riskProfile
  /-- Redis has them. -/
  cache : slotOf s'=setEx now 86400 newWeights
  /-- The table has them, and nothing else. -/
  rows : newWeights.Same (rowsOf s')

/-- What was just recalibrated is the same everywhere. -/
theorem Recalibrated.synced {s s' : System K} {now : ℚ} {newWeights : Weights K}
    (h : Recalibrated s now newWeights s') : Synced s' now := by
  refine ⟨newWeights,newWeights,h.engine,?_,fun _ => rfl,h.rows⟩
  rw [h.cache]
  exact read_live (show now≤now+86400 by linarith)

/-- What was just recalibrated covers the rows. -/
theorem Recalibrated.covered {s s' : System K} {now : ℚ} {newWeights : Weights K}
    (h : Recalibrated s now newWeights s') : Covered s' := by
  have hcovers : Covers (rowsOf s') newWeights := by
    intro key hkey
    rw [Dict.mem_keys] at hkey ⊢
    rw [h.rows key]
    exact hkey
  constructor
  · intro weights hweights
    rw [h.engine] at hweights
    rw [← Option.some.inj (truthy_eq_some.mp hweights).1]
    exact hcovers
  · intro entry hslot _
    rw [h.cache] at hslot
    rw [← Option.some.inj hslot]
    exact hcovers

/-- The weights that a working database has are the rows. -/
theorem rowsOf_of_loadWeights {s : System K} {weights : Weights K}
    (h : truthy (s.stores.loadWeightsFromDb ⟨true,true⟩ s.riskProfile)=some weights) :
    rowsOf s=weights ∧ weights.items.isEmpty=false := by
  obtain ⟨hload,hne⟩ := truthy_eq_some.mp h
  have hrow : truthy (some (rowsOf s))=some weights := hload
  exact ⟨Option.some.inj (truthy_eq_some.mp hrow).1,hne⟩

/-- Without weights in a working database there are no rows to cover. -/
theorem covers_of_no_rows {s : System K}
    (h : truthy (s.stores.loadWeightsFromDb ⟨true,true⟩ s.riskProfile)=none) (weights : Weights K) :
    Covers (rowsOf s) weights := by
  intro key hkey
  have hload : s.stores.loadWeightsFromDb ⟨true,true⟩ s.riskProfile=some (rowsOf s) :=
    truthy_eq_some.mpr ⟨rfl,isEmpty_of_key hkey⟩
  rw [hload,truthy_eq_some.mpr ⟨rfl,isEmpty_of_key hkey⟩] at h
  cases h

variable [Field K]

/-- With working backends `get_weights` loads weights that cover the rows. -/
theorem getWeights_loaded {s : System K} (hs : Covered s) (now : ℚ) :
    Loaded s (s.getWeights ⟨true,true⟩ now) := by
  have hdefaults : (ensembleDefaultWeights s.riskProfile : Weights K).items.isEmpty=false := by
    cases s.riskProfile <;> rfl
  unfold System.getWeights
  cases hengine : truthy s.weights with
  | some weights =>
    obtain ⟨hweights,hne⟩ := truthy_eq_some.mp hengine
    exact ⟨hne,hweights,rfl,rfl,hs⟩
  | none =>
    dsimp only
    cases hcached : truthy (s.stores.getCachedWeights ⟨true,true⟩ now s.riskProfile) with
    | some cached =>
      obtain ⟨hread,hne⟩ := truthy_eq_some.mp hcached
      obtain ⟨entry,hslot,_,hvalue⟩ := read_eq_some hread
      have hcovers : Covers (rowsOf s) cached := by
        rw [← hvalue] at hne ⊢
        exact hs.cache entry hslot hne
      refine ⟨hne,rfl,rfl,rfl,?_,hs.cache⟩
      intro weights hweights
      rw [← Option.some.inj (truthy_eq_some.mp hweights).1]
      exact hcovers
    | none =>
      dsimp only
      cases hdb : truthy (s.stores.loadWeightsFromDb ⟨true,true⟩ s.riskProfile) with
      | some dbWeights =>
        obtain ⟨hrows,hne⟩ := rowsOf_of_loadWeights hdb
        refine ⟨hne,rfl,rfl,rfl,?_,?_⟩
        · intro weights hweights key hkey
          rw [← Option.some.inj (truthy_eq_some.mp hweights).1,← hrows]
          exact hkey
        · intro entry hslot _ key hkey
          have hset := (slot_cacheWeights s.stores true now s.riskProfile dbWeights).symm.trans hslot
          rw [← Option.some.inj hset,← hrows]
          exact hkey
      | none =>
        have hnone := covers_of_no_rows hdb
        exact ⟨hdefaults,rfl,rfl,rfl,fun weights _ => hnone weights,fun entry _ _ => hnone entry.value⟩

/-- An engine with weights loads nothing. -/
theorem getWeights_again {s : System K} {weights : Weights K} (hweights : s.weights=some weights)
    (hne : weights.items.isEmpty=false) (h : Health) (now : ℚ) :
    s.getWeights h now=(weights,s) := by
  unfold System.getWeights
  rw [truthy_eq_some.mpr ⟨hweights,hne⟩]

/-- A new engine loads the weights of this one, whenever it starts. -/
def RestartsSame (s : System K) : Prop :=
  ∀ weights later,s.weights=some weights→
    (({ s with weights := none } : System K).getWeights ⟨true,true⟩ later).1.Same weights

/-- A new engine loads the weights that engine, Redis and table share, whenever it starts. -/
theorem restart_same {s : System K} {now : ℚ} {weights : Weights K} (hs : Synced s now)
    (hweights : s.weights=some weights) (hne : weights.items.isEmpty=false) (later : ℚ) :
    (({ s with weights := none } : System K).getWeights ⟨true,true⟩ later).1.Same weights := by
  obtain ⟨w,cached,hw,hread,hcached,hrows⟩ := hs
  rw [hweights] at hw
  rw [← Option.some.inj hw] at hcached hrows
  obtain ⟨key,hkey⟩ := exists_key hne
  obtain ⟨value,hvalue⟩ := weights.mem_keys.mp hkey
  obtain ⟨entry,hslot,_,rfl⟩ := read_eq_some hread
  unfold slotOf at hslot
  unfold System.getWeights Stores.getCachedWeights
  dsimp only [truthy,Option.filter_none]
  rw [if_pos rfl,hslot]
  rcases le_or_gt later entry.expiresAt with hlive | hexpired
  · have hcachedNe : entry.value.items.isEmpty=false :=
      isEmpty_of_key (entry.value.mem_keys.mpr ⟨value,(hcached key).symm.trans hvalue⟩)
    have hfound : Option.filter (fun w : Weights K => !w.items.isEmpty) (some entry.value)=
        some entry.value := truthy_eq_some.mpr ⟨rfl,hcachedNe⟩
    rw [read_live hlive,hfound]
    exact fun other => (hcached other).symm
  · have hrowsNe : (rowsOf s).items.isEmpty=false :=
      isEmpty_of_key ((rowsOf s).mem_keys.mpr ⟨value,(hrows key).symm.trans hvalue⟩)
    have hload : Option.filter (fun w : Weights K => !w.items.isEmpty)
        (s.stores.loadWeightsFromDb ⟨true,true⟩ s.riskProfile)=some (rowsOf s) := by
      have hrow : s.stores.loadWeightsFromDb ⟨true,true⟩ s.riskProfile=some (rowsOf s) :=
        truthy_eq_some.mpr ⟨rfl,hrowsNe⟩
      rw [hrow]
      exact truthy_eq_some.mpr ⟨rfl,hrowsNe⟩
    have hgone : read later (some entry)=none := by
      unfold ExpiringSlot.read
      rw [sweep_expired hexpired]
      rfl
    rw [hgone,Option.filter_none]
    dsimp only
    rw [hload]
    exact fun other => (hrows other).symm

variable [LinearOrder K] [FloorRing K] [IsStrictOrderedRing K]

/-- Rows that are covered are the recalibrated weights after these were saved. -/
theorem rows_saved (s : Stores K) (redis : Bool) (p : RiskProfile) {oldWeights : Weights K}
    (performances : Dict String (Value K)) (method : String) (hcovers : Covers (s.rows p) oldWeights) :
    (recalibrated oldWeights performances method).Same
      ((s.saveWeightsToDb ⟨redis,true⟩ p (recalibrated oldWeights performances method)).rows p) := by
  have hnumeric : ∀ w∈(recalibrated oldWeights performances method).values,numeric54 w=some w := by
    intro w hw
    obtain ⟨item,hitem,rfl⟩ := List.mem_map.mp hw
    exact numeric54_recalibrated ((Dict.get?_eq_some _).mpr hitem)
  have hall : (recalibrated oldWeights performances method).values.all
      (fun w => (numeric54 w).isSome)=true := by
    refine List.all_eq_true.mpr fun w hw => ?_
    rw [hnumeric w hw]
    rfl
  intro key
  unfold Stores.saveWeightsToDb
  rw [if_pos ⟨rfl,hall⟩]
  dsimp only
  rw [Function.update_self,Dict.get?_update,Dict.get?_mapItems]
  cases hkey : (recalibrated oldWeights performances method).get? key with
  | some w =>
    rw [Option.map_some,numeric54_recalibrated hkey]
    rfl
  | none =>
    have hrow : key∉(s.rows p).keys := fun hmem => Dict.get?_eq_none _ |>.mp hkey
      ((keys_recalibrated oldWeights performances method key).mpr (hcovers key hmem))
    rw [Option.map_none,Option.none_or,(Dict.get?_eq_none _).mpr hrow]

/-- With working backends `recalibrate_weights` writes all three. -/
theorem recalibrateWeights_spec {s : System K} (hs : Covered s) (now : ℚ)
    (performances : Dict String (Value K)) (method : String) :
    Recalibrated s now
      (recalibrated (s.getWeights ⟨true,true⟩ now).1 performances method)
      (s.recalibrateWeights ⟨true,true⟩ now performances method).2 := by
  have hloaded := getWeights_loaded hs now
  have hcovers : Covers ((s.getWeights ⟨true,true⟩ now).2.stores.rows s.riskProfile)
      (s.getWeights ⟨true,true⟩ now).1 := by
    have hrows := hloaded.covers
    rw [← hloaded.rows] at hrows
    unfold rowsOf at hrows
    rw [hloaded.riskProfile] at hrows
    exact hrows
  refine ⟨rfl,hloaded.riskProfile,?_,?_⟩
  · unfold slotOf System.recalibrateWeights
    dsimp only
    rw [hloaded.riskProfile]
    exact slot_cacheWeights _ true now _ _
  · have hsaved := rows_saved (s.getWeights ⟨true,true⟩ now).2.stores true s.riskProfile
      performances method hcovers
    unfold rowsOf System.recalibrateWeights
    dsimp only
    rw [hloaded.riskProfile]
    exact hsaved

end Stored

section Optimizations

variable {D K : Type*}

/-- Backtests have figures. -/
theorem extractMetrics_nonempty {results : List (BacktestResult D K)} (h : results≠[]) :
    (extractMetrics results).items.isEmpty=false := by
  obtain ⟨first,last,rfl⟩ : ∃ first last,results=first++[last] :=
    ⟨results.dropLast,results.getLast h,(List.dropLast_append_getLast h).symm⟩
  unfold extractMetrics
  rw [List.foldl_append,List.foldl_cons,List.foldl_nil]
  have hkey : ∀ d : Dict String (Metrics K),
      last.strategyName∈(d.set last.strategyName last.metrics).keys := fun d =>
    (Dict.mem_keys _).mpr ⟨last.metrics,by rw [Dict.get?_set,if_pos rfl]⟩
  exact isEmpty_of_key (hkey _)

variable [Field K]

/-- Smoothed weights have the strategies of the weights before. -/
theorem smoothWeights_nonempty {oldWeights : Weights K} (newWeights : Weights K)
    (h : oldWeights.items.isEmpty=false) :
    (smoothWeights oldWeights newWeights).items.isEmpty=false := by
  obtain ⟨key,hkey⟩ := exists_key h
  obtain ⟨value,hvalue⟩ := oldWeights.mem_keys.mp hkey
  have hsmoothed : key∈(smoothWeights oldWeights newWeights).keys := by
    unfold smoothWeights
    dsimp only
    rw [Dict.keys_mapItems,Dict.mem_keys,Dict.get?_update]
    cases newWeights.get? key with
    | none => exact ⟨value,by rw [hvalue,Option.none_or]⟩
    | some found => exact ⟨found,rfl⟩
  exact isEmpty_of_key hsmoothed

variable [LinearOrder K] [FloorRing K]

/-- Weights remain weights when they are scaled. -/
theorem normalize_nonempty {weights : Weights K} (h : weights.items.isEmpty=false) :
    (WeightOptimizer.normalize weights).items.isEmpty=false := by
  have hsame : ∀ (w : Weights K) (f : String→K→K),w.items.isEmpty=false→
      (w.mapItems f).items.isEmpty=false := by
    intro w f hw
    obtain ⟨key,hkey⟩ := exists_key hw
    rw [← Dict.keys_mapItems w f] at hkey
    exact isEmpty_of_key hkey
  unfold WeightOptimizer.normalize
  dsimp only
  split
  · split
    · exact h
    · rename_i hactive
      exact hsame _ _ (Bool.eq_false_iff.mpr hactive)
  · exact hsame _ _ h

variable [DecidableEq D]

/-- Optimized weights have items if the weights before do. -/
theorem optimized_nonempty (world : World K) (results : List (BacktestResult D K))
    (method : String) {current : Weights K} (h : current.items.isEmpty=false) :
    (optimized world results method (some current)).items.isEmpty=false := by
  have hcurrent : truthy (some current)=some current := truthy_eq_some.mpr ⟨rfl,h⟩
  unfold optimized
  dsimp only
  rw [hcurrent]
  exact normalize_nonempty (smoothWeights_nonempty _ h)

/-- An optimization with backtests recalibrates and then replaces the weights of the engine. -/
theorem optimizeAndApply_results (world : World K) (riskProfile : RiskProfile) (s : System K)
    (h : Health) (now : ℚ) {results : List (BacktestResult D K)} (method : String)
    (hresults : results≠[]) (hloaded : (s.getWeights h now).1.items.isEmpty=false) :
    (optimizeAndApply world riskProfile s h now results method).2=
      { ((s.getWeights h now).2.recalibrateWeights h now
          ((extractMetrics results).mapItems fun _ m => m.sharpe) "sharpe").2 with
        weights := some (optimized world results method (some (s.getWeights h now).1)) } := by
  have hne : results.isEmpty=false := List.isEmpty_eq_false_iff.mpr hresults
  unfold optimizeAndApply optimize
  dsimp only
  rw [if_neg (Bool.eq_false_iff.mp hne)]
  exact congrArg Prod.snd
    (if_pos ⟨optimized_nonempty world results method hloaded,extractMetrics_nonempty hresults⟩)

/-- Without backtests only the loading is left. -/
theorem optimizeAndApply_nil (world : World K) (riskProfile : RiskProfile) (s : System K)
    (h : Health) (now : ℚ) (method : String) :
    (optimizeAndApply (D := D) world riskProfile s h now [] method).2=(s.getWeights h now).2 := by
  unfold optimizeAndApply optimize
  exact congrArg Prod.snd (if_neg fun happly => Bool.noConfusion happly.2)

end Optimizations

section Claims

variable {D K : Type*} [DecidableEq D] [Field K] [LinearOrder K] [FloorRing K]

/-- The Sharpe ratios that an optimization passes on. -/
def sharpesOf (results : List (BacktestResult D K)) : Dict String (Value K) :=
  (extractMetrics results).mapItems fun _ m => m.sharpe

variable [IsStrictOrderedRing K]

/-- A call without an optimization keeps the rows covered. -/
theorem covered_advance (world : World K) {s : System K} (hs : Covered s) {e : Event D K}
    (hworking : e.Working) (hcall : e.Recalibrates) : Covered (advance world s e) := by
  obtain ⟨call,now,health⟩ := e
  have hhealth : health=⟨true,true⟩ := hworking
  rw [hhealth]
  cases call with
  | getWeights => exact (getWeights_loaded hs now).covered
  | recalibrateWeights performances method =>
    exact (recalibrateWeights_spec hs now performances method).covered
  | optimizeAndApply riskProfile results method =>
    have hresults : results=[] := hcall
    unfold advance
    dsimp only
    rw [hresults,optimizeAndApply_nil]
    exact (getWeights_loaded hs now).covered

/-- After a recalibration all three hold the same weights, and so does a new engine. -/
theorem synced_advance (world : World K) {s : System K} (hs : Covered s) {e : Event D K}
    (hworking : e.Working) (hcall : e.Recalibrates) (hwrites : e.Writes) :
    Synced (advance world s e) e.now ∧ RestartsSame (advance world s e) := by
  obtain ⟨call,now,health⟩ := e
  have hhealth : health=⟨true,true⟩ := hworking
  rw [hhealth]
  cases call with
  | getWeights => cases hwrites
  | recalibrateWeights performances method =>
    have hspec := recalibrateWeights_spec hs now performances method
    refine ⟨hspec.synced,fun weights later hweights => ?_⟩
    obtain ⟨key,hkey⟩ := exists_key (getWeights_loaded hs now).nonempty
    have hsame := Option.some.inj (hspec.engine.symm.trans hweights)
    refine restart_same hspec.synced hweights ?_ later
    rw [← hsame]
    exact isEmpty_of_key ((keys_recalibrated _ performances method key).mpr hkey)
  | optimizeAndApply riskProfile results method => exact absurd hcall hwrites

/-- After an optimization with backtests they do exactly if the optimized weights are those that
the recalibration computes. -/
theorem synced_optimizeAndApply (world : World K) {s : System K} (hs : Covered s)
    (riskProfile : RiskProfile) {results : List (BacktestResult D K)} (hresults : results≠[])
    (method : String) (now : ℚ) :
    Synced (optimizeAndApply world riskProfile s ⟨true,true⟩ now results method).2 now ↔
      (optimized world results method (some (s.getWeights ⟨true,true⟩ now).1)).Same
        (recalibrated (s.getWeights ⟨true,true⟩ now).1 (sharpesOf results) "sharpe") := by
  have hloaded := getWeights_loaded hs now
  have hagain := getWeights_again hloaded.engine hloaded.nonempty ⟨true,true⟩ now
  have hspec := recalibrateWeights_spec hloaded.covered now (sharpesOf results) "sharpe"
  rw [hagain] at hspec
  have hsynced := hspec.synced
  obtain ⟨weights,cached,hweights,hread,hcached,hrows⟩ := hsynced
  rw [hspec.engine] at hweights
  rw [← Option.some.inj hweights] at hcached hrows
  rw [optimizeAndApply_results world riskProfile s ⟨true,true⟩ now method hresults hloaded.nonempty]
  constructor
  · rintro ⟨w,c,hw,_,_,hwrows⟩
    rw [Option.some.inj hw]
    exact fun key => (hwrows key).trans (hrows key).symm
  · intro h
    exact ⟨_,cached,rfl,hread,fun key => (h key).trans (hcached key),
      fun key => (h key).trans (hrows key)⟩

/-- With working backends, from any engine whose weights cover the rows and in every run without
an optimization that has backtests: after each call that writes weights the engine, Redis and
the table hold the same, and a new engine loads the same. After such a run an optimization with backtests leaves them so
exactly if it yields the weights that the recalibration stores. -/
theorem weights_synced (world : World K) {init s : System K} (hinit : Covered init)
    (hrun : Reaches (step (D := D) world) (fun _ e => e.Working ∧ e.Recalibrates) init s) :
    (∀ e : Event D K,e.Working→e.Recalibrates→e.Writes→
        Synced (advance world s e) e.now ∧ RestartsSame (advance world s e)) ∧
      ∀ (riskProfile : RiskProfile) (results : List (BacktestResult D K)) (method : String) (now : ℚ),
        results≠[]→
        (Synced (advance world s ⟨.optimizeAndApply riskProfile results method,now,⟨true,true⟩⟩) now ↔
          (optimized world results method (some (s.getWeights ⟨true,true⟩ now).1)).Same
            (recalibrated (s.getWeights ⟨true,true⟩ now).1 (sharpesOf results) "sharpe")) := by
  have hcovered : Covered s := by
    refine hrun.invariant hinit ?_
    intro s e s' _ hs hallowed hstep
    rw [← Option.some.inj hstep]
    exact covered_advance world hs hallowed.1 hallowed.2
  refine ⟨fun e hworking hcall hwrites => synced_advance world hcovered hworking hcall hwrites,?_⟩
  intro riskProfile results method now hresults
  exact synced_optimizeAndApply world hcovered riskProfile hresults method now

end Claims

/-- Upper case, of texts that are in upper case, and no inverse matrices. -/
def plainWorld : World ℚ := ⟨id,fun _ => none⟩

/-- A new engine, empty Redis, and the rows that the schema inserts. -/
def newEngine : System ℚ where
  riskProfile := .balanced
  weights := none
  stores := ⟨fun _ => none,fun _ => sixStrategies 0.25 0.10 0.20 0.20 0.15 0.10⟩

/-- A backtest of one strategy with some Sharpe ratio. -/
def oneBacktest (sharpe : ℚ) : BacktestResult ℕ ℚ :=
  ⟨"FACTOR",⟨.number sharpe,.number 0,.number 0,.number 0,.number 0,.number 0,.number 0,.number 0,
    .number 0,.number 0⟩,"2026-01-01","2026-03-31",[]⟩

/-- Equal weights, on the first of April. -/
def equalOnFirst : Event ℕ ℚ := ⟨.recalibrateWeights .empty "equal",0,⟨true,true⟩⟩

/-- After a recalibration all three hold the same weights, and do so again after the next. -/
theorem weights_synced_equal :
    (∀ e : Event ℕ ℚ,e.Working→e.Recalibrates→e.Writes→
      Synced (advance plainWorld (advance plainWorld newEngine equalOnFirst) e) e.now ∧
        RestartsSame (advance plainWorld (advance plainWorld newEngine equalOnFirst) e)) ∧
      ∀ (riskProfile : RiskProfile) (results : List (BacktestResult ℕ ℚ)) (method : String)
        (now : ℚ),results≠[]→
        (Synced (advance plainWorld (advance plainWorld newEngine equalOnFirst)
            ⟨.optimizeAndApply riskProfile results method,now,⟨true,true⟩⟩) now ↔
          (optimized plainWorld results method
              (some ((advance plainWorld newEngine equalOnFirst).getWeights ⟨true,true⟩ now).1)).Same
            (recalibrated
              ((advance plainWorld newEngine equalOnFirst).getWeights ⟨true,true⟩ now).1
              (sharpesOf results) "sharpe")) := by
  have hnew : Covered newEngine := ⟨fun _ hweights => (nomatch hweights),fun _ hslot => nomatch hslot⟩
  exact weights_synced plainWorld hnew (.next .start (e := equalOnFirst) ⟨rfl,trivial⟩ rfl)

/-- An optimization with one backtest leaves the engine with other weights than the table. -/
theorem optimization_diverges : ¬∀ s : System ℚ,
    Reaches (step (D := ℕ) plainWorld) (fun _ e => e.Working) newEngine s→
      ∀ e : Event ℕ ℚ,e.Working→e.Writes→Synced (advance plainWorld s e) e.now := by
  intro hall
  obtain ⟨weights,_,hweights,_,_,hrows⟩ := hall newEngine .start
    ⟨.optimizeAndApply .balanced [oneBacktest 1] "risk_adjusted",0,⟨true,true⟩⟩ rfl
    (List.cons_ne_nil _ _)
  have hother : ((advance plainWorld newEngine ⟨.optimizeAndApply .balanced [oneBacktest 1]
      "risk_adjusted",0,⟨true,true⟩⟩).weights.bind fun w => w.get? "FACTOR")≠
        (rowsOf (advance plainWorld newEngine ⟨.optimizeAndApply .balanced [oneBacktest 1]
          "risk_adjusted",0,⟨true,true⟩⟩)).get? "FACTOR" := by decide +kernel
  rw [hweights] at hother
  exact hother (hrows "FACTOR")

end Aqts.WeightStores
