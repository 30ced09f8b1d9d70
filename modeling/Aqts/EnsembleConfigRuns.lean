import Aqts.EnsembleConfig

/-!
# Loads and results of the ensemble configuration

Every load stays in the dictionaries of the defaults, so that a later one gives for each key
what the last file said that had it. Sampled parameters pass the check, and a new process reads
them back over the defaults of the code.
-/

namespace Aqts.EnsembleConfig

open Dictionary PandasSeries StrategyWeights

section Loads

variable {A : Type}

/-- What a section says about a key. -/
def Part.entry (part : Part A) (key : String) : Option A :=
  match part with
  | .entries d => d.get? key
  | _ => none

/-- A section that does not raise says what its keys get. -/
theorem Part.get?_update {part : Part A} {d new : Dict String A} (h : part.update d=some new)
    (key : String) : new.get? key=(part.entry key).or (d.get? key) := by
  cases part with
  | absent =>
    cases h
    rfl
  | entries other =>
    cases h
    exact d.get?_update other key
  | malformed => cases h

/-- A section that raises. -/
theorem Part.update_eq_none {part : Part A} {d : Dict String A} :
    part.update d=none ↔ part=.malformed := by
  cases part with
  | absent => exact ⟨nofun,nofun⟩
  | entries other => exact ⟨nofun,nofun⟩
  | malformed => exact ⟨fun _ => rfl,fun _ => rfl⟩

/-- A file that says something about the ensemble. -/
def File.ensembleEntry (file : File) (key : String) : Option Value :=
  match file with
  | .document d => d.ensemble.entry key
  | _ => none

/-- About the weights of a regime: nothing if an earlier section raises. -/
def File.regimeEntry (file : File) (key : String) : Option Weights :=
  match file with
  | .document ⟨.malformed,_,_⟩ => none
  | .document d => d.regimeWeights.entry key
  | _ => none

/-- About the risk: nothing if an earlier section raises. -/
def File.riskEntry (file : File) (key : String) : Option Value :=
  match file with
  | .document ⟨.malformed,_,_⟩ => none
  | .document ⟨_,.malformed,_⟩ => none
  | .document d => d.risk.entry key
  | _ => none

/-- Weights after a first section that does not raise. -/
theorem regimeEntry_document {d : Document} (h : d.ensemble≠.malformed) (key : String) :
    File.regimeEntry (.document d) key=d.regimeWeights.entry key := by
  obtain ⟨ensemble,regimeWeights,risk⟩ := d
  cases ensemble with
  | malformed => exact absurd rfl h
  | absent => rfl
  | entries _ => rfl

/-- The risk after two sections that do not raise. -/
theorem riskEntry_document {d : Document} (h : d.ensemble≠.malformed)
    (h' : d.regimeWeights≠.malformed) (key : String) :
    File.riskEntry (.document d) key=d.risk.entry key := by
  obtain ⟨ensemble,regimeWeights,risk⟩ := d
  cases ensemble with
  | malformed => exact absurd rfl h
  | absent =>
    cases regimeWeights with
    | malformed => exact absurd rfl h'
    | absent => rfl
    | entries _ => rfl
  | entries _ =>
    cases regimeWeights with
    | malformed => exact absurd rfl h'
    | absent => rfl
    | entries _ => rfl

/-- The values of a configuration are those of the file, or else what was there before. -/
theorem loadEnsembleConfig_get? (defaults : Config) (file : File) (key : String) :
    (loadEnsembleConfig defaults file).ensemble.get? key=
        (file.ensembleEntry key).or (defaults.ensemble.get? key) ∧
      (loadEnsembleConfig defaults file).regimeWeights.get? key=
        (file.regimeEntry key).or (defaults.regimeWeights.get? key) ∧
      (loadEnsembleConfig defaults file).risk.get? key=
        (file.riskEntry key).or (defaults.risk.get? key) := by
  cases file with
  | missing => exact ⟨rfl,rfl,rfl⟩
  | broken => exact ⟨rfl,rfl,rfl⟩
  | document d =>
    obtain ⟨ensemble,regimeWeights,risk⟩ := d
    unfold loadEnsembleConfig
    dsimp only
    cases hensemble : ensemble.update defaults.ensemble with
    | none =>
      obtain rfl := Part.update_eq_none.mp hensemble
      exact ⟨rfl,rfl,rfl⟩
    | some newEnsemble =>
      have hfirst : ensemble≠.malformed := by
        rintro rfl
        cases hensemble
      dsimp only
      cases hregimes : regimeWeights.update defaults.regimeWeights with
      | none =>
        obtain rfl := Part.update_eq_none.mp hregimes
        refine ⟨Part.get?_update hensemble key,?_,?_⟩
        · cases ensemble <;> rfl
        · cases ensemble <;> rfl
      | some newRegimes =>
        have hsecond : regimeWeights≠.malformed := by
          rintro rfl
          cases hregimes
        dsimp only
        cases hrisk : risk.update defaults.risk with
        | none =>
          obtain rfl := Part.update_eq_none.mp hrisk
          refine ⟨Part.get?_update hensemble key,?_,?_⟩
          · rw [regimeEntry_document hfirst]
            exact Part.get?_update hregimes key
          · cases ensemble <;> cases regimeWeights <;> rfl
        | some newRisk =>
          refine ⟨Part.get?_update hensemble key,?_,?_⟩
          · rw [regimeEntry_document hfirst]
            exact Part.get?_update hregimes key
          · rw [riskEntry_document hfirst hsecond]
            exact Part.get?_update hrisk key

/-- Some loads, one after another. -/
def loads (defaults : Config) (files : List File) : Config := files.foldl loadEnsembleConfig defaults

/-- A load gives for every key what the last of all files loaded so far said that had it, and the
default of the code only if none had it: also when the present file is missing, broken or
without the key. -/
theorem loads_get? (defaults : Config) (files : List File) (key : String) :
    (loads defaults files).ensemble.get? key=
        (files.reverse.findSome? (File.ensembleEntry · key)).or (defaults.ensemble.get? key) ∧
      (loads defaults files).regimeWeights.get? key=
        (files.reverse.findSome? (File.regimeEntry · key)).or (defaults.regimeWeights.get? key) ∧
      (loads defaults files).risk.get? key=
        (files.reverse.findSome? (File.riskEntry · key)).or (defaults.risk.get? key) := by
  unfold loads
  induction files generalizing defaults with
  | nil => exact ⟨rfl,rfl,rfl⟩
  | cons file files ih =>
    obtain ⟨hensemble,hregimes,hrisk⟩ := ih (loadEnsembleConfig defaults file)
    obtain ⟨hensemble',hregimes',hrisk'⟩ := loadEnsembleConfig_get? defaults file key
    have hlast : ∀ {B : Type} (entry : File→Option B) (before : Option B),
        (files.reverse.findSome? entry).or ((entry file).or before)=
          ((file::files).reverse.findSome? entry).or before := by
      intro B entry before
      rw [List.reverse_cons,List.findSome?_append,List.findSome?_singleton,Option.or_assoc]
    rw [List.foldl_cons,hensemble,hregimes,hrisk,hensemble',hregimes',hrisk',hlast,hlast,hlast]
    exact ⟨rfl,rfl,rfl⟩

end Loads

/-- Parts without errors have none together. -/
theorem errorsOf_eq_nil {A : Type} {f : A→Errors} {l : List A} (h : ∀ a∈l,f a=some []) :
    errorsOf f l=some [] := by
  induction l with
  | nil => rfl
  | cons a l ih =>
    unfold errorsOf
    rw [h a List.mem_cons_self,ih fun a ha => h a (List.mem_cons_of_mem _ ha)]
    rfl

section Sampled

variable {trial : ParamSpec→Value} {groups : List String} {params : Dict String Value}

/-- A value on the grid of a parameter. -/
def OnGrid (p : ParamSpec) (v : Value) : Prop :=
  ∃ k : ℕ,p.low+k*p.step≤p.high ∧
    ((p.isInt=false ∧ v=.float (p.low+k*p.step)) ∨
      p.isInt=true ∧ ∃ n : ℤ,(n : ℚ)=p.low+k*p.step ∧ v=.int n)

/-- A check that the grid of a parameter stays in. -/
def Covers (c : Check) (p : ParamSpec) : Prop :=
  match c.demand with
  | .range low high => low≤p.low ∧ p.high≤high
  | .atLeast least => p.isInt=true ∧ (least : ℚ)≤p.low

instance (c : Check) (p : ParamSpec) : Decidable (Covers c p) := by
  unfold Covers
  cases c.demand with
  | range low high => exact instDecidableAnd
  | atLeast least => exact instDecidableAnd

/-- What the tables say, in one computation: their steps and bounds, the checks that cover them,
their names and those of the weights, and what the code has by default. -/
theorem tables :
    (∀ p∈getAllParams,0< p.step ∧ p.low≤p.high ∧ (p.isInt=true→((⌊p.low⌋ : ℤ) : ℚ)=p.low)) ∧
    (∀ c∈ensembleChecks++riskChecks,∀ p∈getAllParams,p.name=c.key→ Covers c p) ∧
    (getAllParams.map ParamSpec.name).Nodup ∧
    (∀ p∈ regimeWeightParams,p.isInt=false ∧ 0≤p.low ∧ p.high≤1 ∧
      (p.low*10000).den=1 ∧ (p.step*10000).den=1) ∧
    (∀ regime∈ regimeMap,∀ p∈getAllParams,
      (p.name=regime.1++"_tf" ∨ p.name=regime.1++"_mr")→p∈ regimeWeightParams) ∧
    ((∀ regime∈ regimeMap,regime.2∈validRegimes) ∧ (regimeMap.map Prod.snd).Nodup) ∧
    (∀ key∈ensembleKeys,(codeDefaults.ensemble.get? key).isSome=true) ∧
    ∀ regime∈ regimeMap,(codeDefaults.regimeWeights.get? regime.2).isSome=true := by
  decide +kernel

/-- Steps are positive. -/
theorem step_pos (p : ParamSpec) (hp : p∈getAllParams) : 0< p.step := (tables.1 p hp).1

/-- Every check covers the parameter that it is about. -/
theorem checks_cover : ∀ c∈ensembleChecks++riskChecks,∀ p∈getAllParams,p.name=c.key→ Covers c p :=
  tables.2.1

/-- Names differ. -/
theorem names_nodup : (getAllParams.map ParamSpec.name).Nodup := tables.2.2.1

/-- A covered value is allowed. -/
theorem allows_onGrid {c : Check} {p : ParamSpec} {v : Value} (hstep : 0< p.step)
    (hcovers : Covers c p) (hv : OnGrid p v) : c.demand.allows v=some true := by
  obtain ⟨k,hhigh,hvalue⟩ := hv
  have hlow : p.low≤p.low+k*p.step := le_add_of_nonneg_right (by positivity)
  unfold Covers at hcovers
  cases hdemand : c.demand with
  | range low high =>
    rw [hdemand] at hcovers
    have hnumber : v.number=some (p.low+k*p.step) := by
      rcases hvalue with ⟨_,rfl⟩ | ⟨_,n,hn,rfl⟩
      · rfl
      · exact congrArg some hn
    show (v.number.map fun x => decide (low≤x ∧ x≤high))=some true
    rw [hnumber,Option.map_some,decide_eq_true]
    exact ⟨hcovers.1.trans hlow,hhigh.trans hcovers.2⟩
  | atLeast least =>
    rw [hdemand] at hcovers
    obtain ⟨hint,hleast⟩ := hcovers
    rcases hvalue with ⟨hfloat,_⟩ | ⟨_,n,hn,rfl⟩
    · rw [hfloat] at hint
      cases hint
    · have hle : (least : ℚ)≤n := hleast.trans (hlow.trans hn.symm.le)
      exact congrArg some (decide_eq_true (by exact_mod_cast hle))

/-- Parameters that are sampled are those of the groups. -/
theorem paramsOf_sublist (groups : List String) : (paramsOf groups).Sublist getAllParams := by
  unfold paramsOf
  split
  · exact List.Sublist.refl _
  · exact List.filter_sublist

/-- A sampled value is what the trial suggests for the parameter of its name. -/
theorem sampled_get? (h : suggestParams trial groups=some params) {key : String} {v : Value} :
    params.get? key=some v ↔ ∃ p∈paramsOf groups,p.name=key ∧ trial p=v := by
  have hnodup : (((paramsOf groups).map fun p => (p.name,trial p)).map Prod.fst).Nodup := by
    rw [List.map_map]
    exact ((paramsOf_sublist groups).map _).nodup names_nodup
  unfold suggestParams at h
  dsimp only at h
  split at h
  · cases h
  · cases h
    rw [Dict.get?_collect hnodup,List.mem_map]
    constructor
    · rintro ⟨p,hp,heq⟩
      exact ⟨p,hp,congrArg Prod.fst heq,congrArg Prod.snd heq⟩
    · rintro ⟨p,hp,rfl,rfl⟩
      exact ⟨p,hp,rfl⟩

/-- What `picked` finds. -/
theorem picked_get? (params : Dict String Value) {keys : List String} (hnodup : keys.Nodup)
    (key : String) : (picked params keys).get? key=if key∈keys then params.get? key else none := by
  have hkeys : ((keys.filterMap fun key => (params.get? key).map (Prod.mk key)).map
      Prod.fst).Sublist keys := by
    induction keys with
    | nil => exact List.Sublist.refl _
    | cons first rest ih =>
      rw [List.filterMap_cons]
      cases params.get? first with
      | none => exact (ih (List.nodup_cons.mp hnodup).2).cons _
      | some v => exact (ih (List.nodup_cons.mp hnodup).2).cons_cons _
  refine Option.ext fun v => ?_
  unfold picked
  rw [Dict.get?_collect (hkeys.nodup hnodup),List.mem_filterMap]
  constructor
  · rintro ⟨other,hother,heq⟩
    obtain ⟨w,hw,hpair⟩ := Option.map_eq_some_iff.mp heq
    cases hpair
    rw [if_pos hother]
    exact hw
  · intro h
    split at h
    · rename_i hkey
      exact ⟨key,hkey,by rw [h]; rfl⟩
    · cases h

/-- Picked values on their grids pass the checks of their keys. -/
theorem errorsOf_picked (texts : Texts) {checks : List Check} {keys : List String}
    (hnodup : keys.Nodup) (hchecks : ∀ c∈checks,c∈ensembleChecks++riskChecks)
    (htrial : ∀ p∈paramsOf groups,OnGrid p (trial p))
    (h : suggestParams trial groups=some params) :
    errorsOf (Check.errors texts · (picked params keys)) checks=some [] := by
  have hone : ∀ c∈checks,Check.errors texts c (picked params keys)=some [] := by
    intro c hc
    unfold Check.errors
    rw [picked_get? params hnodup]
    by_cases hkey : c.key∈keys
    · rw [if_pos hkey]
      cases hget : params.get? c.key with
      | none => rfl
      | some v =>
        obtain ⟨p,hp,hname,rfl⟩ := (sampled_get? h).mp hget
        have hall := (paramsOf_sublist groups).subset hp
        have hallows := allows_onGrid (step_pos p hall) (checks_cover c (hchecks c hc) p hall hname)
          (htrial p hp)
        dsimp only
        rw [hallows]
        rfl
    · rw [if_neg hkey]
  exact errorsOf_eq_nil hone

/-- Weights on their grids have four decimals and lie between zero and one. -/
theorem weight_onGrid : ∀ p∈ regimeWeightParams,p.isInt=false ∧ 0≤p.low ∧ p.high≤1 ∧
    (p.low*10000).den=1 ∧ (p.step*10000).den=1 := tables.2.2.2.1

/-- Names of the weights. -/
theorem weight_names : ∀ regime∈ regimeMap,∀ p∈getAllParams,
    (p.name=regime.1++"_tf" ∨ p.name=regime.1++"_mr")→p∈ regimeWeightParams := tables.2.2.2.2.1

/-- Regimes are valid, and differ. -/
theorem regimes_valid : (∀ regime∈ regimeMap,regime.2∈validRegimes) ∧
    (regimeMap.map Prod.snd).Nodup := tables.2.2.2.2.2.1

/-- A sampled weight. -/
theorem sampled_weight (htrial : ∀ p∈paramsOf groups,OnGrid p (trial p))
    (h : suggestParams trial groups=some params) {regime : String×String} (hregime : regime∈ regimeMap)
    {key : String} (hkey : key=regime.1++"_tf" ∨ key=regime.1++"_mr") {v : Value}
    (hget : params.get? key=some v) :
    ∃ n : ℤ,v=.float ((n : ℚ)/10000) ∧ (0 : ℚ)≤n/10000 ∧ (n : ℚ)/10000≤1 := by
  obtain ⟨p,hp,hname,rfl⟩ := (sampled_get? h).mp hget
  have hall := (paramsOf_sublist groups).subset hp
  obtain ⟨hfloat,hlow,hhigh,hlowden,hstepden⟩ :=
    weight_onGrid p (weight_names regime hregime p hall (by rwa [hname]))
  obtain ⟨k,hk,hvalue⟩ := htrial p hp
  have hstep := step_pos p hall
  have hnonneg : (0 : ℚ)≤p.low+k*p.step := by positivity
  rcases hvalue with ⟨_,hvalue⟩ | ⟨hint,_⟩
  · refine ⟨(p.low*10000).num+k*(p.step*10000).num,?_,?_⟩
    · rw [hvalue]
      congr 1
      push_cast
      rw [Rat.coe_int_num_of_den_eq_one hlowden,Rat.coe_int_num_of_den_eq_one hstepden]
      ring
    · push_cast
      rw [Rat.coe_int_num_of_den_eq_one hlowden,Rat.coe_int_num_of_den_eq_one hstepden]
      constructor
      · linarith
      · linarith
  · rw [hfloat] at hint
    cases hint

/-- Three weights that sum to one pass the check. -/
theorem regimeErrors_weights (texts : Texts) {regime : String} (hregime : regime∈validRegimes)
    {x y z : ℚ} (hx : 0≤x ∧ x≤1) (hy : 0≤y ∧ y≤1) (hz : 0≤z ∧ z≤1) (hsum : x+y+z=1) :
    regimeErrors texts (regime,weightsOf x y z)=some [] := by
  have htotal : total [Value.float x,.float y,.float z]=some 1 := by
    show some (x+(y+(z+0)))=some 1
    rw [← hsum,add_zero,add_assoc]
  have hvalues : errorsOf (weightErrors texts regime)
      [("TF",Value.float x),("MR",.float y),("RP",.float z)]=some [] := by
    apply errorsOf_eq_nil
    intro item hitem
    rcases List.mem_cons.mp hitem with rfl | hitem
    · exact congrArg some (if_pos hx)
    · rcases List.mem_cons.mp hitem with rfl | hitem
      · exact congrArg some (if_pos hy)
      · rw [List.mem_singleton.mp hitem]
        exact congrArg some (if_pos hz)
  have hkeys : ["TF","MR","RP"].toFinset=["TF","MR","RP"].toFinset := rfl
  unfold regimeErrors
  rw [if_neg (not_not.mpr hregime)]
  show (if ¬["TF","MR","RP"].toFinset=["TF","MR","RP"].toFinset then _ else
    (total [Value.float x,.float y,.float z]).bind _)=_
  rw [if_neg (not_not.mpr hkeys),htotal,Option.bind_some]
  show (errorsOf (weightErrors texts regime) [("TF",Value.float x),("MR",.float y),
    ("RP",.float z)]).map _=_
  rw [hvalues,Option.map_some,sub_self,abs_zero,if_neg (by norm_num)]
  rfl

end Sampled

section Converted

variable {rounded : Value→Option Value} {params : Dict String Value}

/-- The regimes that are converted, and the others as they were. -/
theorem convertedRegimes_get? {l : List (String×String)} (hnodup : (l.map Prod.snd).Nodup)
    {d out : Dict String Weights} (h : convertedRegimes rounded params l d=some out) :
    (∀ regime∈l,out.get? regime.2=match bothWeights params regime.1 with
      | none => d.get? regime.2
      | some (tf,mr) => regimeOf rounded tf mr) ∧
    ∀ key,key∉l.map Prod.snd→ out.get? key=d.get? key := by
  induction l generalizing d with
  | nil =>
    cases h
    exact ⟨nofun,fun _ _ => rfl⟩
  | cons first rest ih =>
    obtain ⟨hnotin,hrest⟩ := List.nodup_cons.mp hnodup
    unfold convertedRegimes at h
    cases hboth : bothWeights params first.1 with
    | none =>
      rw [hboth] at h
      obtain ⟨hthose,hothers⟩ := ih hrest h
      refine ⟨?_,fun key hkey => hothers key fun hk => hkey (List.mem_cons_of_mem _ hk)⟩
      intro regime hregime
      rcases List.mem_cons.mp hregime with rfl | hregime
      · rw [hboth]
        exact hothers _ hnotin
      · exact hthose regime hregime
    | some both =>
      obtain ⟨tf,mr⟩ := both
      rw [hboth] at h
      obtain ⟨weights,hweights,h⟩ := Option.bind_eq_some_iff.mp h
      obtain ⟨hthose,hothers⟩ := ih hrest h
      have hset : ∀ key,key≠first.2→(d.set first.2 weights).get? key=d.get? key := by
        intro key hne
        rw [Dict.get?_set,if_neg hne]
      constructor
      · intro regime hregime
        rcases List.mem_cons.mp hregime with rfl | hregime
        · have hlast := hothers _ hnotin
          rw [Dict.get?_set,if_pos rfl] at hlast
          rw [hboth]
          exact hlast.trans hweights.symm
        · rw [hthose regime hregime,hset regime.2]
          intro heq
          exact hnotin (heq ▸ List.mem_map_of_mem hregime)
      · intro key hkey
        rw [List.map_cons,List.mem_cons,not_or] at hkey
        rw [hothers key hkey.2,hset key hkey.1]

/-- The conversion returns if every regime is converted. -/
theorem convertedRegimes_isSome {l : List (String×String)} {d : Dict String Weights}
    (h : ∀ regime∈l,∀ tf mr,bothWeights params regime.1=some (tf,mr)→
      (regimeOf rounded tf mr).isSome=true) :
    (convertedRegimes rounded params l d).isSome=true := by
  induction l generalizing d with
  | nil => rfl
  | cons first rest ih =>
    unfold convertedRegimes
    have hrest := fun regime hregime => h regime (List.mem_cons_of_mem _ hregime)
    cases hboth : bothWeights params first.1 with
    | none => exact ih hrest
    | some both =>
      obtain ⟨tf,mr⟩ := both
      obtain ⟨weights,hweights⟩ :=
        Option.isSome_iff_exists.mp (h first List.mem_cons_self tf mr hboth)
      dsimp only
      rw [hweights]
      exact ih hrest

end Converted

section Results

variable {trial : ParamSpec→Value} {groups : List String} {params : Dict String Value}

/-- The two sampled weights of a regime leave a tenth for the third one. -/
theorem sampled_both (htrial : ∀ p∈paramsOf groups,OnGrid p (trial p))
    (h : suggestParams trial groups=some params) {regime : String×String} (hregime : regime∈ regimeMap)
    {tf mr : Value} (hboth : bothWeights params regime.1=some (tf,mr)) :
    ∃ x y : ℚ,tf=.float x ∧ mr=.float y ∧ (0≤x ∧ x≤1) ∧ (0≤y ∧ y≤1) ∧ x+y≤0.90 ∧
      regimeOf roundedFloat tf mr=some (weightsOf x y (1-x-y)) := by
  obtain ⟨first,hfirst,hrest⟩ := Option.bind_eq_some_iff.mp hboth
  obtain ⟨second,hsecond,hpair⟩ := Option.map_eq_some_iff.mp hrest
  cases hpair
  clear hrest
  obtain ⟨m,rfl,hm⟩ := sampled_weight htrial h hregime (.inl rfl) hfirst
  obtain ⟨n,rfl,hn⟩ := sampled_weight htrial h hregime (.inr rfl) hsecond
  have hsum : (m : ℚ)/10000+n/10000≤0.90 := by
    have hkept : pruned params=false := by
      unfold suggestParams at h
      dsimp only at h
      split at h
      · cases h
      · rename_i hkept
        cases h
        exact Bool.eq_false_iff.mpr hkept
    unfold pruned at hkept
    rw [List.any_eq_false] at hkept
    have hregimeKept := hkept regime hregime
    rw [hboth] at hregimeKept
    have hless : ¬decide ((0.90 : ℚ)< m/10000+n/10000)=true := hregimeKept
    rw [decide_eq_true_eq] at hless
    exact not_lt.mp hless
  refine ⟨_,_,rfl,rfl,hm,hn,hsum,?_⟩
  have hthird : max (1-(m : ℚ)/10000-n/10000) 0=((10000-m-n : ℤ) : ℚ)/10000 := by
    rw [max_eq_left (by linarith)]
    push_cast
    ring
  unfold regimeOf roundedFloat
  show some (Weights.table (dict [("TF",.float (round4 ((m : ℚ)/10000))),
    ("MR",.float (round4 ((n : ℚ)/10000))),("RP",.float (round4 (max (1-(m : ℚ)/10000-n/10000) 0)))]))=_
  rw [hthird,EnsembleSignals.round4_decimals,EnsembleSignals.round4_decimals,
    EnsembleSignals.round4_decimals,← hthird,max_eq_left (by linarith)]
  rfl

/-- Every sampled configuration is converted and passes the check. -/
theorem sampled_valid (texts : Texts) (htrial : ∀ p∈paramsOf groups,OnGrid p (trial p))
    (h : suggestParams trial groups=some params) :
    ∃ config,convertHyperoptParams params=some config ∧
      validateEnsembleConfig texts config=some [] := by
  have hsome : (convertedRegimes roundedFloat params regimeMap .empty).isSome=true := by
    apply convertedRegimes_isSome
    intro regime hregime tf mr hboth
    obtain ⟨x,y,_,_,_,_,_,hweights⟩ := sampled_both htrial h hregime hboth
    rw [hweights]
    rfl
  obtain ⟨out,hout⟩ := Option.isSome_iff_exists.mp hsome
  refine ⟨_,congrArg (Option.map _) hout,?_⟩
  obtain ⟨hthose,hothers⟩ := convertedRegimes_get? regimes_valid.2 hout
  have hregimes : errorsOf (regimeErrors texts) out.items=some [] := by
    apply errorsOf_eq_nil
    rintro ⟨key,weights⟩ hitem
    have hget := out.get?_eq_some.mpr hitem
    by_cases hkey : key∈ regimeMap.map Prod.snd
    · obtain ⟨regime,hregime,rfl⟩ := List.mem_map.mp hkey
      rw [hthose regime hregime] at hget
      cases hboth : bothWeights params regime.1 with
      | none =>
        rw [hboth] at hget
        cases hget
      | some both =>
        obtain ⟨tf,mr⟩ := both
        obtain ⟨x,y,_,_,hx,hy,hsum,hweights⟩ := sampled_both htrial h hregime hboth
        rw [hboth] at hget
        have hsame := Option.some.inj (hweights.symm.trans hget)
        rw [← hsame]
        exact regimeErrors_weights texts (regimes_valid.1 regime hregime) hx hy
          ⟨by linarith,by linarith [hx.1,hy.1]⟩ (by ring)
    · rw [hothers key hkey] at hget
      cases hget
  have hfirst : errorsOf (Check.errors texts · (picked params ensembleKeys)) ensembleChecks=
      some [] := errorsOf_picked texts (by decide)
    (fun c hc => List.mem_append_left riskChecks hc) htrial h
  have hlast : errorsOf (Check.errors texts · (picked params riskKeys)) riskChecks=
      some [] := errorsOf_picked texts (by decide)
    (fun c hc => List.mem_append_right ensembleChecks hc) htrial h
  unfold validateEnsembleConfig
  dsimp only
  rw [hfirst,hregimes,hlast]
  rfl

/-- A section that is read back says what the configuration has. -/
theorem partOf_entry {A : Type} (d : Dict String A) (key : String) :
    (partOf d).entry key=d.get? key := by
  unfold partOf
  split
  · rename_i hempty
    unfold Dict.get?
    rw [hempty]
    rfl
  · rfl

/-- A configuration that is read back stands over the dictionaries of the defaults. -/
theorem load_documentOf (defaults config : Config) (key : String) :
    (loadEnsembleConfig defaults (.document (documentOf config))).ensemble.get? key=
        (config.ensemble.get? key).or (defaults.ensemble.get? key) ∧
      (loadEnsembleConfig defaults (.document (documentOf config))).regimeWeights.get? key=
        (config.regimeWeights.get? key).or (defaults.regimeWeights.get? key) ∧
      (loadEnsembleConfig defaults (.document (documentOf config))).risk.get? key=
        (config.risk.get? key).or (defaults.risk.get? key) := by
  have hpart : ∀ {A : Type} (d : Dict String A),partOf d≠.malformed := by
    intro A d
    unfold partOf
    split
    · exact nofun
    · exact nofun
  obtain ⟨hensemble,hregimes,hrisk⟩ :=
    loadEnsembleConfig_get? defaults (.document (documentOf config)) key
  rw [hensemble,hregimes,hrisk,regimeEntry_document (hpart _),riskEntry_document (hpart _) (hpart _)]
  unfold File.ensembleEntry documentOf
  dsimp only
  rw [partOf_entry,partOf_entry,partOf_entry]
  exact ⟨rfl,rfl,rfl⟩

/-- Keys of the ensemble have a default in the code, which the service has as well. -/
theorem serviceDefaults_covered : ∀ key∈ensembleKeys,
    (codeDefaults.ensemble.get? key).isSome=true := tables.2.2.2.2.2.2.1

/-- Regimes have weights in the code. -/
theorem default_weights : ∀ regime∈ regimeMap,
    (codeDefaults.regimeWeights.get? regime.2).isSome=true := tables.2.2.2.2.2.2.2

/-- Sampled parameters that are not pruned are saved, and a new process reads them back over the
defaults of the code: the service gets the sampled values of the ensemble and the two sampled
weights of a regime with what they leave to one, exactly. -/
theorem sampled_results_are_read_back (texts : Texts) (default : String→Weights)
    (hgroups : paramsOf groups≠[]) (htrial : ∀ p∈paramsOf groups,OnGrid p (trial p))
    (h : suggestParams trial groups=some params) :
    ∃ config file,applyHyperoptResults texts params=.ok (config,file) ∧
      (∀ key∈ensembleKeys,
        (serviceParams (loadEnsembleConfig codeDefaults file) .empty).get? key=
          (params.get? key).or (codeDefaults.ensemble.get? key)) ∧
      (∀ key∈ riskKeys,(loadEnsembleConfig codeDefaults file).risk.get? key=
        (params.get? key).or (codeDefaults.risk.get? key)) ∧
      ∀ regime∈ regimeMap,
        some (serviceWeights (loadEnsembleConfig codeDefaults file) default regime.2)=
          match bothWeights params regime.1 with
          | some (.float x,.float y) => some (weightsOf x y (1-x-y))
          | _ => codeDefaults.regimeWeights.get? regime.2 := by
  obtain ⟨config,hconfig,hvalid⟩ := sampled_valid texts htrial h
  have hitems : params.items≠[] := by
    obtain ⟨p,hp⟩ := List.exists_mem_of_ne_nil _ hgroups
    have hget := (sampled_get? h).mpr ⟨p,hp,rfl,rfl⟩
    exact List.ne_nil_of_mem (params.get?_eq_some.mp hget)
  refine ⟨config,.document (documentOf config),?_,?_,?_,?_⟩
  · unfold applyHyperoptResults saveEnsembleConfig
    rw [if_neg hitems,hconfig]
    dsimp only
    rw [hvalid]
    rfl
  all_goals
    unfold convertHyperoptParams at hconfig
    obtain ⟨out,hout,rfl⟩ := Option.map_eq_some_iff.mp hconfig
  · intro key hkey
    have hload := (load_documentOf codeDefaults
      ⟨picked params ensembleKeys,out,picked params riskKeys⟩ key).1
    unfold serviceParams
    rw [Dict.get?_update,Dict.get?_update,hload,picked_get? _ (by decide),if_pos hkey]
    obtain ⟨v,hv⟩ := Option.isSome_iff_exists.mp (serviceDefaults_covered key hkey)
    rw [hv]
    cases params.get? key with
    | none => rfl
    | some w => rfl
  · intro key hkey
    have hload := (load_documentOf codeDefaults
      ⟨picked params ensembleKeys,out,picked params riskKeys⟩ key).2.2
    rw [hload,picked_get? _ (by decide),if_pos hkey]
  · intro regime hregime
    have hload := (load_documentOf codeDefaults
      ⟨picked params ensembleKeys,out,picked params riskKeys⟩ regime.2).2.1
    have hconverted := (convertedRegimes_get? regimes_valid.2 hout).1 regime hregime
    obtain ⟨before,hbefore⟩ := Option.isSome_iff_exists.mp (default_weights regime hregime)
    unfold serviceWeights
    rw [if_pos (regimes_valid.1 regime hregime),hload]
    dsimp only
    rw [hconverted,hbefore]
    cases hboth : bothWeights params regime.1 with
    | none => rfl
    | some both =>
      obtain ⟨tf,mr⟩ := both
      obtain ⟨x,y,rfl,rfl,_,_,_,hweights⟩ := sampled_both htrial h hregime hboth
      dsimp only
      rw [hweights]
      rfl

/-- The least value of a parameter. -/
def leastValue (p : ParamSpec) : Value := if p.isInt then .int ⌊p.low⌋ else .float p.low

/-- The least values are on the grid. -/
theorem leastValue_onGrid : ∀ p∈getAllParams,OnGrid p (leastValue p) := by
  intro p hp
  obtain ⟨-,hle,hint⟩ := tables.1 p hp
  have hzero : p.low+((0 : ℕ) : ℚ)*p.step=p.low := by
    push_cast
    ring
  refine ⟨0,by rwa [hzero],?_⟩
  rw [hzero]
  unfold leastValue
  cases hkind : p.isInt with
  | false => exact .inl ⟨rfl,rfl⟩
  | true => exact .inr ⟨rfl,⌊p.low⌋,hint hkind,rfl⟩

/-- With the least values of all parameters the window is read back, and the weights of a
sideways market with the seven tenths that they leave. -/
theorem least_results_are_read_back :
    ∃ params config file,suggestParams leastValue []=some params ∧
      applyHyperoptResults ⟨fun _ => "",fun _ => "",fun _ => ""⟩ params=.ok (config,file) ∧
      (serviceParams (loadEnsembleConfig codeDefaults file) .empty).get? "perf_window"=
        (params.get? "perf_window").or (codeDefaults.ensemble.get? "perf_window") ∧
      serviceWeights (loadEnsembleConfig codeDefaults file) (fun _ => .other "") "SIDEWAYS"=
        weightsOf (1/10) (1/5) (1-1/10-1/5) := by
  have hboth : (suggestParams leastValue []).bind (fun params => bothWeights params "w_sideways")=
      some (.float (1/10),.float (1/5)) := by decide +kernel
  obtain ⟨params,hparams,hweights⟩ := Option.bind_eq_some_iff.mp hboth
  obtain ⟨config,file,happly,hensemble,_,hregimes⟩ := sampled_results_are_read_back
    ⟨fun _ => "",fun _ => "",fun _ => ""⟩ (fun _ => .other "") (by decide : paramsOf []≠[])
    (fun p hp => leastValue_onGrid p ((paramsOf_sublist []).subset hp)) hparams
  have hsideways := hregimes ("w_sideways","SIDEWAYS") (by decide)
  dsimp only at hsideways
  rw [hweights] at hsideways
  exact ⟨params,config,file,hparams,happly,hensemble "perf_window" (by decide),
    Option.some.inj hsideways⟩

/-- Weights with equal numbers under the same names. -/
def SameWeights : Option Weights→Option Weights→Prop
  | some (.table d),some (.table e) => ∀ key,(d.get? key).map Value.number=(e.get? key).map Value.number
  | none,none => True
  | _,_ => False

/-- Both ways of rounding a sampled weight give the same number, or both raise. -/
theorem rounded_same (v : Value) :
    (roundedFloat v).map Value.number=(roundedNumber v).map Value.number := by
  cases v with
  | int n =>
    have hdecimals : round4 (n : ℚ)=n := by
      have h := EnsembleSignals.round4_decimals (K := ℚ) (n*10000)
      rwa [show (((n*10000 : ℤ) : ℚ))/10000=n by push_cast; ring] at h
    exact congrArg (fun x => some (some x)) hdecimals
  | float x => rfl
  | other text => rfl

/-- Lookups of three weights. -/
theorem weights_get? (x y z : Value) (key : String) :
    (dict [("TF",x),("MR",y),("RP",z)]).get? key=
      if "TF"=key then some x else if "MR"=key then some y else if "RP"=key then some z else none := by
  have hitems : (dict [("TF",x),("MR",y),("RP",z)]).items=[("TF",x),("MR",y),("RP",z)] := rfl
  unfold Dict.get?
  rw [hitems]
  simp only [List.find?_cons,List.find?_nil]
  split_ifs with htf hmr hrp
  · rw [decide_eq_true htf]
    rfl
  · rw [decide_eq_false htf,decide_eq_true hmr]
    rfl
  · rw [decide_eq_false htf,decide_eq_false hmr,decide_eq_true hrp]
    rfl
  · rw [decide_eq_false htf,decide_eq_false hmr,decide_eq_false hrp]
    rfl

/-- Both ways of converting a regime raise together, or give equal weights. -/
theorem regimeOf_same (tf mr : Value) :
    SameWeights (regimeOf roundedFloat tf mr) (regimeOf roundedNumber tf mr) := by
  unfold regimeOf
  cases hx : tf.number with
  | none => exact True.intro
  | some x =>
    cases hy : mr.number with
    | none => exact True.intro
    | some y =>
      have htf := rounded_same tf
      have hmr := rounded_same mr
      rw [Option.bind_some,Option.bind_some,Option.bind_some,Option.bind_some]
      cases htf' : roundedFloat tf with
      | none =>
        rw [htf',Option.map_none] at htf
        rw [Option.map_eq_none_iff.mp htf.symm]
        exact True.intro
      | some first =>
        rw [htf'] at htf
        obtain ⟨first',hfirst',hfirst⟩ := Option.map_eq_some_iff.mp htf.symm
        rw [hfirst',Option.bind_some,Option.bind_some]
        cases hmr' : roundedFloat mr with
        | none =>
          rw [hmr',Option.map_none] at hmr
          rw [Option.map_eq_none_iff.mp hmr.symm]
          exact True.intro
        | some second =>
          rw [hmr'] at hmr
          obtain ⟨second',hsecond',hsecond⟩ := Option.map_eq_some_iff.mp hmr.symm
          rw [hsecond',Option.map_some,Option.map_some]
          intro key
          rw [weights_get?,weights_get?]
          split
          · exact congrArg some hfirst.symm
          · split
            · exact congrArg some hsecond.symm
            · rfl

/-- Configurations of the two conversions: equal values, and weights with equal numbers. -/
def SameConfig : Option Config→Option Config→Prop
  | some a,some b => (∀ key,a.ensemble.get? key=b.ensemble.get? key) ∧
      (∀ key,a.risk.get? key=b.risk.get? key) ∧
      ∀ key,SameWeights (a.regimeWeights.get? key) (b.regimeWeights.get? key)
  | none,none => True
  | _,_ => False

/-- The conversions of some regimes raise together, or give equal weights. -/
theorem convertedRegimes_same (params : Dict String Value) (l : List (String×String)) :
    ∀ d e : Dict String Weights,(∀ key,SameWeights (d.get? key) (e.get? key))→
      match convertedRegimes roundedFloat params l d,convertedRegimes roundedNumber params l e with
      | some a,some b => ∀ key,SameWeights (a.get? key) (b.get? key)
      | none,none => True
      | _,_ => False := by
  induction l with
  | nil => exact fun d e h => h
  | cons first rest ih =>
    intro d e h
    unfold convertedRegimes
    cases hboth : bothWeights params first.1 with
    | none => exact ih d e h
    | some both =>
      obtain ⟨tf,mr⟩ := both
      have hsame := regimeOf_same tf mr
      dsimp only
      cases hfloat : regimeOf roundedFloat tf mr with
      | none =>
        rw [hfloat] at hsame
        cases hnumber : regimeOf roundedNumber tf mr with
        | none => exact True.intro
        | some w =>
          rw [hnumber] at hsame
          exact hsame.elim
      | some v =>
        rw [hfloat] at hsame
        cases hnumber : regimeOf roundedNumber tf mr with
        | none =>
          rw [hnumber] at hsame
          cases v <;> exact hsame.elim
        | some w =>
          rw [hnumber] at hsame
          apply ih
          intro key
          rw [Dict.get?_set,Dict.get?_set]
          by_cases hkey : key=first.2
          · rw [if_pos hkey,if_pos hkey]
            exact hsame
          · rw [if_neg hkey,if_neg hkey]
            exact h key

/-- What the loader makes of sampled parameters is what the optimizer made of them: both raise, or
they have the same values for the ensemble and the risk, and weights with the same numbers. -/
theorem conversions_agree (params : Dict String Value) :
    SameConfig (convertHyperoptParams params) (paramsToEnsembleConfig params) := by
  have hregimes := convertedRegimes_same params regimeMap .empty .empty fun _ => True.intro
  unfold convertHyperoptParams paramsToEnsembleConfig
  cases hfloat : convertedRegimes roundedFloat params regimeMap .empty with
  | none =>
    rw [hfloat] at hregimes
    cases hnumber : convertedRegimes roundedNumber params regimeMap .empty with
    | none => exact True.intro
    | some b =>
      rw [hnumber] at hregimes
      exact hregimes.elim
  | some a =>
    rw [hfloat] at hregimes
    cases hnumber : convertedRegimes roundedNumber params regimeMap .empty with
    | none =>
      rw [hnumber] at hregimes
      exact hregimes.elim
    | some b =>
      rw [hnumber] at hregimes
      have hpicked : ∀ {keys names : List String},keys.Nodup→keys=names→∀ key,
          (picked params keys).get? key=
            (params.filter fun key _ => decide (key∈names)).get? key := by
        rintro keys _ hnodup rfl key
        rw [picked_get? params hnodup,Dict.get?_filter]
        by_cases hkey : key∈keys
        · rw [if_pos hkey]
          cases params.get? key with
          | none => rfl
          | some v =>
            symm
            apply Option.filter_some_pos
            exact decide_eq_true hkey
        · rw [if_neg hkey]
          cases params.get? key with
          | none => rfl
          | some v =>
            symm
            apply Option.filter_some_neg
            simpa using hkey
      exact ⟨hpicked (by decide) rfl,hpicked (by decide) rfl,hregimes⟩

end Results

end Aqts.EnsembleConfig
