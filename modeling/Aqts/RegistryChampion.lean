import Aqts.RegistryNumbers

/-!
# The champion of the registry

The champion is recorded in the manifest and in the metadata of the versions. In every run
whose promotions and deletions name registered versions the records agree: one registered
version is marked, it is the manifest's, and the manifest has its Sharpe ratio. While
nobody promotes, no registered version has a higher one.
-/

namespace Aqts.RegistryChampion

open GuardedRuns PandasSeries ModelRegistry RegistryNumbers

variable {D K C : Type*}

/-- A promotion or a deletion names a registered version. -/
def OnRegistered (s : System D K C) : Call K C→Prop
  | .register _ _ => True
  | .promote version _ => version∈s.registry.manifest.versions
  | .delete version => version∈s.registry.manifest.versions

/-- A version with its metadata is the champion: in the manifest and as the only registered
version that is marked. -/
structure Champion (dirs : Directories D) (r : Registry D K C) (champion : String)
    (m : ModelMetadata K C) : Prop where
  /-- `champion_version`. -/
  named : r.manifest.championVersion=some champion
  /-- It is one of `versions`. -/
  registered : champion∈r.manifest.versions
  /-- Its metadata. -/
  loaded : r.loadMetadata dirs champion=some m
  /-- `is_champion`. -/
  marked : m.isChampion=true
  /-- `champion_sharpe`. -/
  sharpe : r.manifest.championSharpe=some m.oosSharpe
  /-- No other version is marked. -/
  alone : ∀ v∈r.manifest.versions,v≠champion→∀ m',r.loadMetadata dirs v=some m'→m'.isChampion=false

/-- The names of the list are names of the registry, with increasing numbers and metadata. -/
structure Filed (dirs : Directories D) (r : Registry D K C) : Prop where
  /-- Names of the registry. -/
  named : ∀ v∈r.manifest.versions,∃ n,v=versionName n
  /-- Their numbers increase. -/
  increasing : Increasing r.manifest.versions
  /-- Every version has metadata. -/
  filed : ∀ v∈r.manifest.versions,∃ m,r.loadMetadata dirs v=some m

/-- Different names of the registry have directories outside of each other. -/
theorem outside (dirs : Directories D) {v w : String} (hv : ∃ n,v=versionName n)
    (hw : ∃ n,w=versionName n) (hne : v≠w) : dirs.inside (dirs.dir v) (dirs.dir w)=false := by
  obtain ⟨m,rfl⟩ := hv
  obtain ⟨n,rfl⟩ := hw
  refine Bool.eq_false_iff.mpr fun hinside => hne ?_
  rw [dirs.apart m n hinside]

/-- Different names of the registry have different directories. -/
theorem dir_ne (dirs : Directories D) {v w : String} (hv : ∃ n,v=versionName n)
    (hw : ∃ n,w=versionName n) (hne : v≠w) : dirs.dir v≠dirs.dir w := by
  intro heq
  have hinside := outside dirs hv hw hne
  rw [heq,dirs.self] at hinside
  cases hinside

/-- A removed directory leaves the metadata outside of it. -/
theorem loadMetadata_rmtree {dirs : Directories D} (r : Registry D K C) {v w : String}
    (h : dirs.inside (dirs.dir v) (dirs.dir w)=false) :
    (r.rmtree dirs w).loadMetadata dirs v=r.loadMetadata dirs v := by
  unfold Registry.rmtree Registry.loadMetadata
  dsimp only
  rw [if_neg (by rw [h]; decide)]

variable [DecidableEq D]

/-- Saved metadata is loaded. -/
theorem loadMetadata_save (dirs : Directories D) (r : Registry D K C) (v : String)
    (m : ModelMetadata K C) : (r.saveMetadata dirs v m).loadMetadata dirs v=some m := by
  unfold Registry.saveMetadata Registry.loadMetadata
  dsimp only
  rw [Function.update_self]

/-- Saved metadata leaves that of other directories. -/
theorem loadMetadata_save_other {dirs : Directories D} (r : Registry D K C) {v w : String}
    (m : ModelMetadata K C) (h : dirs.dir v≠dirs.dir w) :
    (r.saveMetadata dirs w m).loadMetadata dirs v=r.loadMetadata dirs v := by
  unfold Registry.saveMetadata Registry.loadMetadata
  dsimp only
  rw [Function.update_of_ne h]

/-- Metadata that replaces what a registered version had, or that of a new one. -/
theorem loadMetadata_save_cases {dirs : Directories D} (r : Registry D K C) {v w : String}
    (hv : ∃ n,v=versionName n) (hw : ∃ n,w=versionName n) (m : ModelMetadata K C) :
    (r.saveMetadata dirs w m).loadMetadata dirs v=
      if v=w then some m else r.loadMetadata dirs v := by
  by_cases hsame : v=w
  · rw [if_pos hsame,hsame,loadMetadata_save]
  · rw [if_neg hsame,loadMetadata_save_other r m (dir_ne dirs hv hw hsame)]

/-- Saved metadata leaves every version with some. -/
theorem Filed.save {dirs : Directories D} {r : Registry D K C} (h : Filed dirs r) (v : String)
    (m : ModelMetadata K C) : Filed dirs (r.saveMetadata dirs v m) := by
  refine ⟨h.named,h.increasing,fun w hw => ?_⟩
  by_cases hsame : dirs.dir w=dirs.dir v
  · refine ⟨m,?_⟩
    unfold Registry.loadMetadata
    rw [hsame]
    exact loadMetadata_save dirs r v m
  · rw [loadMetadata_save_other r m hsame]
    exact h.filed w hw

/-- A version of the list keeps its metadata when the list is extended. -/
theorem Filed.extended_load {dirs : Directories D} {r r' : Registry D K C} (h : Filed dirs r)
    {m : ModelMetadata K C} (hmetadata : r'.metadata=
      (r.saveMetadata dirs (nextVersion r.manifest.versions) m).metadata) {v : String}
    (hv : v∈r.manifest.versions) : r'.loadMetadata dirs v=r.loadMetadata dirs v := by
  have hload : r'.loadMetadata dirs v=
      (r.saveMetadata dirs (nextVersion r.manifest.versions) m).loadMetadata dirs v := by
    unfold Registry.loadMetadata
    rw [hmetadata]
  have hne : v≠nextVersion r.manifest.versions := fun heq => h.increasing.next_new (heq ▸ hv)
  rw [hload,loadMetadata_save_cases r (h.named v hv) (nextVersion_named _),if_neg hne]

/-- The new version of an extended list has the new metadata. -/
theorem extended_new {dirs : Directories D} {r r' : Registry D K C} {m : ModelMetadata K C}
    (hmetadata : r'.metadata=
      (r.saveMetadata dirs (nextVersion r.manifest.versions) m).metadata) :
    r'.loadMetadata dirs (nextVersion r.manifest.versions)=some m := by
  have hload := loadMetadata_save dirs r (nextVersion r.manifest.versions) m
  unfold Registry.loadMetadata at hload ⊢
  rw [hmetadata,hload]

/-- After the champion is released no registered version is marked. -/
theorem Champion.released {dirs : Directories D} {r : Registry D K C} {champion : String}
    {m : ModelMetadata K C} (h : Champion dirs r champion m) (hf : Filed dirs r) :
    ∀ w∈r.manifest.versions,∀ m',
      (r.saveMetadata dirs champion {m with isChampion := false}).loadMetadata dirs w=some m'→
        m'.isChampion=false := by
  intro w hw m' hm'
  rw [loadMetadata_save_cases r (hf.named w hw) (hf.named champion h.registered)] at hm'
  by_cases hsame : w=champion
  · rw [if_pos hsame] at hm'
    rw [← Option.some.inj hm']
  · rw [if_neg hsame] at hm'
    exact h.alone w hw hsame m' hm'

/-- A new version with metadata extends the list. -/
theorem Filed.extend {dirs : Directories D} {r r' : Registry D K C} (h : Filed dirs r)
    {m : ModelMetadata K C}
    (hversions : r'.manifest.versions=r.manifest.versions++[nextVersion r.manifest.versions])
    (hmetadata : r'.metadata=
      (r.saveMetadata dirs (nextVersion r.manifest.versions) m).metadata) : Filed dirs r' := by
  refine ⟨fun v hv => ?_,?_,fun v hv => ?_⟩
  · rw [hversions] at hv
    rcases List.mem_append.mp hv with hv | hv
    · exact h.named v hv
    · rw [List.mem_singleton.mp hv]
      exact nextVersion_named _
  · rw [hversions]
    exact h.increasing.next
  · rw [hversions] at hv
    rcases List.mem_append.mp hv with hv | hv
    · rw [h.extended_load hmetadata hv]
      exact h.filed v hv
    · rw [List.mem_singleton.mp hv,extended_new hmetadata]
      exact ⟨m,rfl⟩

/-- The metadata that a version of an extended list has: that of the new one or that before. -/
theorem Filed.extended_cases {dirs : Directories D} {r r' : Registry D K C} (h : Filed dirs r)
    {m : ModelMetadata K C}
    (hversions : r'.manifest.versions=r.manifest.versions++[nextVersion r.manifest.versions])
    (hmetadata : r'.metadata=
      (r.saveMetadata dirs (nextVersion r.manifest.versions) m).metadata) {v : String}
    (hv : v∈r'.manifest.versions) {m' : ModelMetadata K C} (hm' : r'.loadMetadata dirs v=some m') :
    (v=nextVersion r.manifest.versions ∧ m'=m) ∨
      (v∈r.manifest.versions ∧ r.loadMetadata dirs v=some m') := by
  rw [hversions] at hv
  rcases List.mem_append.mp hv with hv | hv
  · rw [h.extended_load hmetadata hv] at hm'
    exact .inr ⟨hv,hm'⟩
  · rw [List.mem_singleton.mp hv,extended_new hmetadata] at hm'
    exact .inl ⟨List.mem_singleton.mp hv,(Option.some.inj hm').symm⟩

/-- The champion that a registration releases. -/
theorem Champion.releaseChampion {dirs : Directories D} {r : Registry D K C} {champion : String}
    {m : ModelMetadata K C} (h : Champion dirs r champion m) :
    r.releaseChampion dirs=r.saveMetadata dirs champion {m with isChampion := false} := by
  unfold Registry.releaseChampion
  rw [h.named]
  dsimp only
  rw [h.loaded]

variable [LinearOrder K]

/-- No registered version has a higher Sharpe ratio than a given metadata. -/
def Best (dirs : Directories D) (r : Registry D K C) (oosSharpe : Value K) : Prop :=
  ∀ v∈r.manifest.versions,∀ m,r.loadMetadata dirs v=some m→ oosSharpe.below m.oosSharpe=false

/-- Nothing is below itself. -/
theorem below_irrefl (v : Value K) : v.below v=false := by
  cases v with
  | missing => rfl
  | infinite a => cases a <;> rfl
  | number x => exact decide_eq_false (lt_irrefl x)

/-- What is below a value that is below another one is below that one. -/
theorem below_trans {u v w : Value K} (huv : u.below v=true) (hvw : v.below w=true) :
    u.below w=true := by
  cases u with
  | missing => cases huv
  | infinite a =>
    cases v with
    | missing => cases huv
    | infinite b => cases w <;> cases a <;> cases b <;> simp_all [Value.below]
    | number y => cases w <;> cases a <;> simp_all [Value.below]
  | number x =>
    cases v with
    | missing => cases huv
    | infinite b => cases w <;> cases b <;> simp_all [Value.below]
    | number y =>
      cases w with
      | missing => cases hvw
      | infinite c => exact hvw
      | number z =>
        exact decide_eq_true ((of_decide_eq_true huv).trans (of_decide_eq_true hvw))

/-- What every call keeps: files for all versions and, from the first one on, a champion, which
is the best while nobody promotes. -/
structure Kept (dirs : Directories D) (s : System D K C) : Prop where
  /-- Files of the versions. -/
  filed : Filed dirs s.registry
  /-- The champion. -/
  champion : (s.registry.manifest.versions=[] ∧ s.registry.manifest.championVersion=none) ∨
    ∃ champion m,Champion dirs s.registry champion m ∧
      (s.promoted=false→Best dirs s.registry m.oosSharpe)
  /-- A name that was returned leaves a version. -/
  nonempty : s.returned≠[]→s.registry.manifest.versions≠[]

omit [DecidableEq D] in
/-- A registered champion is there whenever a version is. -/
theorem Kept.crowned {dirs : Directories D} {s : System D K C} (h : Kept dirs s) {v : String}
    (hv : v∈s.registry.manifest.versions) :
    ∃ champion m,Champion dirs s.registry champion m ∧
      (s.promoted=false→Best dirs s.registry m.oosSharpe) := by
  rcases h.champion with ⟨hempty,_⟩ | hchampion
  · rw [hempty] at hv
    cases hv
  · exact hchampion

/-- The best Sharpe ratio stays the best when the champion is released. -/
theorem Champion.released_best {dirs : Directories D} {r : Registry D K C} {champion : String}
    {m : ModelMetadata K C} (h : Champion dirs r champion m) (hf : Filed dirs r)
    (hbest : Best dirs r m.oosSharpe) :
    Best dirs (r.saveMetadata dirs champion {m with isChampion := false}) m.oosSharpe := by
  intro w hw m' hm'
  rw [loadMetadata_save_cases r (hf.named w hw) (hf.named champion h.registered)] at hm'
  by_cases hsame : w=champion
  · rw [if_pos hsame] at hm'
    rw [← Option.some.inj hm']
    exact below_irrefl _
  · rw [if_neg hsame] at hm'
    exact hbest w hw m' hm'

omit [DecidableEq D] in
/-- A champion is challenged by a higher Sharpe ratio only. -/
theorem Champion.challenge {dirs : Directories D} {r : Registry D K C} {champion : String}
    {m : ModelMetadata K C} (h : Champion dirs r champion m) (fixed4 : Value K→String)
    (oosSharpe : Value K) : (r.challenge dirs fixed4 oosSharpe).isSome=
      m.oosSharpe.below oosSharpe := by
  unfold Registry.challenge
  rw [h.named]
  dsimp only
  rw [h.loaded]
  dsimp only
  cases m.oosSharpe.below oosSharpe <;> rfl

variable [Field K]

/-- A challenger takes the place of the champion. -/
theorem register_challenged {dirs : Directories D} {fixed4 : Value K→String} {r : Registry D K C}
    {a : Registration K C} {now reason : String}
    (h : r.challenge dirs fixed4
      (a.metadata (nextVersion r.manifest.versions) now).oosSharpe=some reason) :
    (r.register dirs fixed4 a now).1.metadata=
        ((r.releaseChampion dirs).saveMetadata dirs (nextVersion r.manifest.versions)
          {a.metadata (nextVersion r.manifest.versions) now with
            isChampion := true, championReason := reason}).metadata ∧
      (r.register dirs fixed4 a now).1.manifest.championVersion=
        some (nextVersion r.manifest.versions) ∧
      (r.register dirs fixed4 a now).1.manifest.championSharpe=
        some (a.metadata (nextVersion r.manifest.versions) now).oosSharpe := by
  unfold Registry.register
  dsimp only
  rw [h]
  exact ⟨rfl,rfl,rfl⟩

/-- Others are registered beside the champion. -/
theorem register_unchallenged {dirs : Directories D} {fixed4 : Value K→String}
    {r : Registry D K C} {a : Registration K C} {now : String}
    (h : r.challenge dirs fixed4
      (a.metadata (nextVersion r.manifest.versions) now).oosSharpe=none) :
    (r.register dirs fixed4 a now).1.metadata=
        (r.saveMetadata dirs (nextVersion r.manifest.versions)
          (a.metadata (nextVersion r.manifest.versions) now)).metadata ∧
      (r.register dirs fixed4 a now).1.manifest.championVersion=r.manifest.championVersion ∧
      (r.register dirs fixed4 a now).1.manifest.championSharpe=r.manifest.championSharpe := by
  unfold Registry.register
  dsimp only
  rw [h]
  exact ⟨rfl,rfl,rfl⟩

/-- The new version of a challenged registration is the champion, if no version is marked any
more when the champion before is released. -/
theorem champion_of_challenged {dirs : Directories D} {fixed4 : Value K→String}
    {r : Registry D K C} {a : Registration K C} {now reason : String}
    (h : r.challenge dirs fixed4
      (a.metadata (nextVersion r.manifest.versions) now).oosSharpe=some reason)
    (hf : Filed dirs (r.releaseChampion dirs))
    (hunmarked : ∀ w∈r.manifest.versions,∀ m',(r.releaseChampion dirs).loadMetadata dirs w=some m'→
      m'.isChampion=false) :
    Filed dirs (r.register dirs fixed4 a now).1 ∧
      Champion dirs (r.register dirs fixed4 a now).1 (nextVersion r.manifest.versions)
        {a.metadata (nextVersion r.manifest.versions) now with
          isChampion := true, championReason := reason} := by
  obtain ⟨hmetadata,hchampion,hsharpe⟩ := register_challenged h
  obtain ⟨_,hversions,_⟩ := register_manifest dirs fixed4 r a now
  have hreleased := releaseChampion_manifest dirs r
  rw [← hreleased] at hversions hmetadata
  refine ⟨hf.extend hversions hmetadata,⟨hchampion,?_,?_,rfl,hsharpe,fun v hv hne m' hm' => ?_⟩⟩
  · rw [hversions,hreleased]
    exact List.mem_append_right _ List.mem_cons_self
  · have hload := extended_new hmetadata
    rwa [hreleased] at hload
  · rcases hf.extended_cases hversions hmetadata hv hm' with ⟨hnew,_⟩ | ⟨hold,hload⟩
    · rw [hreleased] at hnew
      exact absurd hnew hne
    · rw [hreleased] at hold
      exact hunmarked v hold m' hload

/-- The first registration. -/
theorem Kept.register_first {dirs : Directories D} {s : System D K C} (h : Kept dirs s)
    (hempty : s.registry.manifest.versions=[])
    (hnone : s.registry.manifest.championVersion=none) (fixed4 : Value K→String)
    (a : Registration K C) (now : String) : Kept dirs (advance dirs fixed4 s (.register a now)) := by
  obtain ⟨_,hversions,_⟩ := register_manifest dirs fixed4 s.registry a now
  have hreleased : s.registry.releaseChampion dirs=s.registry := by
    unfold Registry.releaseChampion
    rw [hnone]
  have hfirst : s.registry.challenge dirs fixed4
      (a.metadata (nextVersion s.registry.manifest.versions) now).oosSharpe=
        some "first_model" := by
    unfold Registry.challenge
    rw [hnone]
  have hmetadata := (register_challenged hfirst).1
  rw [hreleased] at hmetadata
  obtain ⟨hfiled,hcrowned⟩ := champion_of_challenged hfirst (hreleased.symm ▸ h.filed)
    fun w hw => by
      rw [hempty] at hw
      cases hw
  refine ⟨hfiled,.inr ⟨_,_,hcrowned,fun _ v hv m' hm' => ?_⟩,fun _ => ?_⟩
  · rcases h.filed.extended_cases hversions hmetadata hv hm' with ⟨_,rfl⟩ | ⟨hold,_⟩
    · exact below_irrefl _
    · rw [hempty] at hold
      cases hold
  · exact List.ne_nil_of_mem hcrowned.registered

/-- A registration beside the champion. -/
theorem Kept.register_beside {dirs : Directories D} {s : System D K C} (h : Kept dirs s)
    {champion : String} {m : ModelMetadata K C} (hchampion : Champion dirs s.registry champion m)
    (hbest : s.promoted=false→Best dirs s.registry m.oosSharpe) {fixed4 : Value K→String}
    {a : Registration K C} {now : String} (hreason : s.registry.challenge dirs fixed4
      (a.metadata (nextVersion s.registry.manifest.versions) now).oosSharpe=none) :
    Kept dirs (advance dirs fixed4 s (.register a now)) := by
  obtain ⟨_,hversions,_⟩ := register_manifest dirs fixed4 s.registry a now
  obtain ⟨hmetadata,hname,hsharpe⟩ := register_unchallenged hreason
  have hbelow := hchampion.challenge fixed4
    (a.metadata (nextVersion s.registry.manifest.versions) now).oosSharpe
  rw [hreason] at hbelow
  have hregistered : champion∈(s.registry.register dirs fixed4 a now).1.manifest.versions := by
    rw [hversions]
    exact List.mem_append_left _ hchampion.registered
  refine ⟨h.filed.extend hversions hmetadata,.inr ⟨champion,m,⟨hname.trans hchampion.named,
    hregistered,?_,hchampion.marked,hsharpe.trans hchampion.sharpe,fun v hv hne m' hm' => ?_⟩,
    fun hp v hv m' hm' => ?_⟩,fun _ => List.ne_nil_of_mem hregistered⟩
  · exact (h.filed.extended_load hmetadata hchampion.registered).trans hchampion.loaded
  · rcases h.filed.extended_cases hversions hmetadata hv hm' with ⟨_,rfl⟩ | ⟨hold,hload⟩
    · rfl
    · exact hchampion.alone v hold hne m' hload
  · rcases h.filed.extended_cases hversions hmetadata hv hm' with ⟨_,rfl⟩ | ⟨hold,hload⟩
    · exact hbelow.symm
    · exact hbest hp v hold m' hload

/-- A registration over the champion. -/
theorem Kept.register_over {dirs : Directories D} {s : System D K C} (h : Kept dirs s)
    {champion : String} {m : ModelMetadata K C} (hchampion : Champion dirs s.registry champion m)
    (hbest : s.promoted=false→Best dirs s.registry m.oosSharpe) {fixed4 : Value K→String}
    {a : Registration K C} {now reason : String} (hreason : s.registry.challenge dirs fixed4
      (a.metadata (nextVersion s.registry.manifest.versions) now).oosSharpe=some reason) :
    Kept dirs (advance dirs fixed4 s (.register a now)) := by
  obtain ⟨_,hversions,_⟩ := register_manifest dirs fixed4 s.registry a now
  have hmetadata := (register_challenged hreason).1
  have hbelow := hchampion.challenge fixed4
    (a.metadata (nextVersion s.registry.manifest.versions) now).oosSharpe
  rw [hreason] at hbelow
  have hreleased := hchampion.releaseChampion
  have hfiled := h.filed.save champion {m with isChampion := false}
  obtain ⟨hfiled',hcrowned⟩ := champion_of_challenged hreason (hreleased.symm ▸ hfiled)
    (hreleased.symm ▸ hchampion.released h.filed)
  refine ⟨hfiled',.inr ⟨_,_,hcrowned,fun hp v hv m' hm' => ?_⟩,
    fun _ => List.ne_nil_of_mem hcrowned.registered⟩
  rw [hreleased] at hmetadata
  rcases hfiled.extended_cases hversions hmetadata hv hm' with ⟨_,rfl⟩ | ⟨hold,hload⟩
  · exact below_irrefl _
  · have hnot := hchampion.released_best h.filed (hbest hp) v hold m' hload
    refine Bool.eq_false_iff.mpr fun hhigher => ?_
    rw [below_trans hbelow.symm hhigher] at hnot
    cases hnot

/-- A registration keeps the champion or makes its version the champion. -/
theorem Kept.register {dirs : Directories D} {s : System D K C} (h : Kept dirs s)
    (fixed4 : Value K→String) (a : Registration K C) (now : String) :
    Kept dirs (advance dirs fixed4 s (.register a now)) := by
  rcases h.champion with ⟨hempty,hnone⟩ | ⟨champion,m,hchampion,hbest⟩
  · exact h.register_first hempty hnone fixed4 a now
  · cases hreason : s.registry.challenge dirs fixed4
        (a.metadata (nextVersion s.registry.manifest.versions) now).oosSharpe with
    | none => exact h.register_beside hchampion hbest hreason
    | some reason => exact h.register_over hchampion hbest hreason

omit [LinearOrder K] [Field K] in
/-- A promotion saves the promoted version after the champion before was released. -/
theorem Champion.promote {dirs : Directories D} {r : Registry D K C} {champion version : String}
    {m loaded : ModelMetadata K C} (h : Champion dirs r champion m) (hne : champion≠"")
    (hload : r.loadMetadata dirs version=some loaded) (now : String) :
    (r.promoteToChampion dirs version now).1.metadata=
        ((if champion=version then r
          else r.saveMetadata dirs champion {m with isChampion := false}).saveMetadata dirs version
            {loaded with isChampion := true, championReason := "manual_promotion"}).metadata ∧
      (r.promoteToChampion dirs version now).1.manifest.championVersion=some version ∧
      (r.promoteToChampion dirs version now).1.manifest.championSharpe=some loaded.oosSharpe := by
  unfold Registry.promoteToChampion
  rw [hload]
  dsimp only
  rw [h.named]
  dsimp only
  by_cases hsame : champion=version
  · rw [if_pos (.inr hsame),if_pos hsame]
    exact ⟨rfl,rfl,rfl⟩
  · rw [if_neg (not_or.mpr ⟨hne,hsame⟩),if_neg hsame,h.loaded]
    exact ⟨rfl,rfl,rfl⟩

/-- A name of the registry is not empty. -/
theorem versionName_ne (n : ℕ) : versionName n≠"" := by
  intro h
  have hlist := congrArg String.toList h
  unfold versionName at hlist
  rw [String.toList_ofList] at hlist
  cases hlist

/-- A promotion makes a registered version the champion. -/
theorem Kept.promote {dirs : Directories D} {s : System D K C} (h : Kept dirs s)
    (fixed4 : Value K→String) {version : String}
    (hv : version∈s.registry.manifest.versions) (now : String) :
    Kept dirs (advance dirs fixed4 s (.promote version now)) := by
  obtain ⟨champion,m,hchampion,_⟩ := h.crowned hv
  obtain ⟨loaded,hload⟩ := h.filed.filed version hv
  obtain ⟨n,hn⟩ := h.filed.named champion hchampion.registered
  obtain ⟨hmetadata,hname,hsharpe⟩ := hchampion.promote (hn ▸ versionName_ne n) hload now
  obtain ⟨hversions,_⟩ := promoteToChampion_manifest dirs s.registry version now
  generalize hreleased : (if champion=version then s.registry
    else s.registry.saveMetadata dirs champion {m with isChampion := false})=released
    at hmetadata
  have hfiled : Filed dirs released ∧ released.manifest.versions=s.registry.manifest.versions ∧
      ∀ w∈s.registry.manifest.versions,w≠version→∀ m',released.loadMetadata dirs w=some m'→
        m'.isChampion=false := by
    by_cases hsame : champion=version
    · rw [if_pos hsame] at hreleased
      rw [← hreleased,← hsame]
      exact ⟨h.filed,rfl,hchampion.alone⟩
    · rw [if_neg hsame] at hreleased
      rw [← hreleased]
      exact ⟨h.filed.save champion _,rfl,fun w hw _ => hchampion.released h.filed w hw⟩
  obtain ⟨hfiled,hsame,hunmarked⟩ := hfiled
  have hloaded : ∀ w∈s.registry.manifest.versions,
      (s.registry.promoteToChampion dirs version now).1.loadMetadata dirs w=
        if w=version then some {loaded with isChampion := true, championReason := "manual_promotion"}
        else released.loadMetadata dirs w := by
    intro w hw
    rw [← loadMetadata_save_cases released (h.filed.named w hw) (h.filed.named version hv)]
    unfold Registry.loadMetadata
    rw [hmetadata]
  unfold advance
  refine ⟨⟨?_,?_,fun w hw => ?_⟩,.inr ⟨version,
    {loaded with isChampion := true, championReason := "manual_promotion"},
    ⟨hname,?_,?_,rfl,hsharpe,fun w hw hne m' hm' => ?_⟩,fun hp => nomatch hp⟩,fun _ => ?_⟩
  · rw [hversions]
    exact h.filed.named
  · rw [hversions]
    exact h.filed.increasing
  · rw [hversions] at hw
    rw [hloaded w hw]
    split
    · exact ⟨_,rfl⟩
    · exact hfiled.filed w (hsame.symm ▸ hw)
  · rw [hversions]
    exact hv
  · rw [hloaded version hv,if_pos rfl]
  · rw [hversions] at hw
    rw [hloaded w hw,if_neg hne] at hm'
    exact hunmarked w hw hne m' hm'
  · rw [hversions]
    exact List.ne_nil_of_mem hv

/-- A deletion of a registered version leaves the champion. -/
theorem Kept.delete {dirs : Directories D} {s : System D K C} (h : Kept dirs s)
    (fixed4 : Value K→String) {version : String}
    (hv : version∈s.registry.manifest.versions) :
    Kept dirs (advance dirs fixed4 s (.delete version)) := by
  obtain ⟨champion,m,hchampion,hbest⟩ := h.crowned hv
  unfold advance
  dsimp only
  unfold Registry.deleteVersion
  by_cases hsame : s.registry.manifest.championVersion=some version
  · rw [if_pos hsame]
    exact h
  · rw [if_neg hsame]
    have hnodup : s.registry.manifest.versions.Nodup :=
      h.filed.increasing.imp fun hlt heq => hlt.ne (congrArg versionNumber heq)
    have hne : champion≠version := fun heq => hsame (heq ▸ hchampion.named)
    have hleft : ∀ w∈s.registry.manifest.versions.erase version,
        w∈s.registry.manifest.versions ∧
          (s.registry.rmtree dirs version).loadMetadata dirs w=s.registry.loadMetadata dirs w := by
      intro w hw
      have hw' := (hnodup.mem_erase_iff).mp hw
      exact ⟨hw'.2,loadMetadata_rmtree s.registry
        (outside dirs (h.filed.named w hw'.2) (h.filed.named version hv) hw'.1)⟩
    have hchampion' : champion∈s.registry.manifest.versions.erase version :=
      (hnodup.mem_erase_iff).mpr ⟨hne,hchampion.registered⟩
    refine ⟨⟨fun w hw => h.filed.named w (hleft w hw).1,h.filed.increasing.erase version,
      fun w hw => ?_⟩,.inr ⟨champion,m,⟨hchampion.named,hchampion',?_,hchampion.marked,
        hchampion.sharpe,fun w hw hother m' hm' => ?_⟩,fun hp w hw m' hm' => ?_⟩,
      fun _ => List.ne_nil_of_mem hchampion'⟩
    · obtain ⟨hold,hload⟩ := hleft w hw
      obtain ⟨m',hm'⟩ := h.filed.filed w hold
      exact ⟨m',hload.trans hm'⟩
    · exact (hleft champion hchampion').2.trans hchampion.loaded
    · obtain ⟨hold,hload⟩ := hleft w hw
      exact hchampion.alone w hold hother m' (hload.symm.trans hm')
    · obtain ⟨hold,hload⟩ := hleft w hw
      exact hbest hp w hold m' (hload.symm.trans hm')

/-- In every run whose promotions and deletions name registered versions, once a model was
registered: there is a champion, in the manifest with its Sharpe ratio and as the only
registered version that is marked; and if nobody promoted, no registered version has a
higher Sharpe ratio. -/
theorem champion_kept (dirs : Directories D) (fixed4 : Value K→String) (now : String)
    {s : System D K C} (hrun : Reaches (step dirs fixed4) OnRegistered (.start now) s)
    (hregistered : s.returned≠[]) :
    ∃ champion m,Champion dirs s.registry champion m ∧
      (s.promoted=false→Best dirs s.registry m.oosSharpe) := by
  have hkept : Kept dirs s := by
    refine hrun.invariant ?_ ?_
    · exact ⟨⟨fun _ hv => (nomatch hv),List.Pairwise.nil,fun _ hv => nomatch hv⟩,.inl ⟨rfl,rfl⟩,
        fun hne => absurd rfl hne⟩
    · intro s c s' _ hs hc hstep
      rw [← Option.some.inj hstep]
      cases c with
      | register a now => exact hs.register fixed4 a now
      | promote version now => exact hs.promote fixed4 hc now
      | delete version => exact hs.delete fixed4 hc
  obtain ⟨v,rest,hversions⟩ := List.exists_cons_of_ne_nil (hkept.nonempty hregistered)
  exact hkept.crowned (by rw [hversions]; exact List.mem_cons_self)

/-- Two registrations, of which the second one is better. -/
theorem champion_kept_two : ∃ champion m,Champion flat twoScored.registry champion m ∧
    (twoScored.promoted=false→Best flat twoScored.registry m.oosSharpe) := by
  have hfirst : Reaches (step flat fun _ => "") OnRegistered (.start "t0")
      (advance flat (fun _ => "") (.start "t0") (.register (scored 1) "t1")) :=
    .next .start (e := .register (scored 1) "t1") trivial rfl
  have hrun : Reaches (step flat fun _ => "") OnRegistered (.start "t0") twoScored :=
    .next hfirst (e := .register (scored 2.0) "t2") trivial rfl
  exact champion_kept flat (fun _ => "") "t0" hrun (by decide +kernel)

end Aqts.RegistryChampion
