import Aqts.GuardedRuns
import Aqts.ModelRegistry

/-!
# Version numbers

Runs of the three operations of the registry, with the names that `register` returned so
far. The next number follows the last one of the list, so names are new and the list
increases as long as nobody deletes the last version; its deletion leaves the pointer to
the latest version behind and lets the name return.
-/

namespace Aqts.RegistryNumbers

open GuardedRuns PandasSeries ModelRegistry

/-- A call of the registry. -/
inductive Call (K C : Type*)
  /-- `register`. -/
  | register (a : Registration K C) (now : String)
  /-- `promote_to_champion`. -/
  | promote (version now : String)
  /-- `delete_version`. -/
  | delete (version : String)

/-- A registry and what was done with it. -/
structure System (D K C : Type*) where
  /-- The registry. -/
  registry : Registry D K C
  /-- Names that `register` returned, the last one first. -/
  returned : List String
  /-- `promote_to_champion` was called. -/
  promoted : Bool

/-- The number of a name. -/
@[simp] theorem versionNumber_name (n : ℕ) : versionNumber (versionName n)=n := by
  unfold versionNumber versionName
  rw [String.toList_ofList,List.drop_one,List.tail_cons,List.leftpad,Nat.ofDigitChars_append,
    Nat.ofDigitChars_replicate_zero,Nat.mul_zero,Nat.ofDigitChars_ten_toDigits]

/-- Names are different for different numbers. -/
theorem versionName_injective {m n : ℕ} (h : versionName m=versionName n) : m=n := by
  have hnumber := congrArg versionNumber h
  rwa [versionNumber_name,versionNumber_name] at hnumber

/-- The first name. -/
theorem nextVersion_nil : nextVersion []=versionName 1 := by decide

/-- The next name follows the last one. -/
theorem nextVersion_last {versions : List String} {last : String}
    (h : versions.getLast?=some last) :
    nextVersion versions=versionName (versionNumber last+1) := by
  unfold nextVersion
  rw [h]

/-- The next name is one of the registry. -/
theorem nextVersion_named (versions : List String) : ∃ n,nextVersion versions=versionName n := by
  cases h : versions.getLast? with
  | none =>
    rw [List.getLast?_eq_none_iff] at h
    exact ⟨1,by rw [h,nextVersion_nil]⟩
  | some last => exact ⟨_,nextVersion_last h⟩

/-- Names with larger numbers later. -/
def Increasing (versions : List String) : Prop :=
  versions.Pairwise fun v v' => versionNumber v< versionNumber v'

/-- No number of an increasing list is above that of its last name. -/
theorem Increasing.le_last {versions : List String} (h : Increasing versions) {v last : String}
    (hlast : versions.getLast?=some last) (hv : v∈versions) : versionNumber v≤ versionNumber last := by
  obtain ⟨before,rfl⟩ := List.getLast?_eq_some_iff.mp hlast
  rcases List.mem_append.mp hv with hbefore | hsame
  · exact ((List.pairwise_append.mp h).2.2 v hbefore last (by simp)).le
  · rw [List.mem_singleton.mp hsame]

/-- The next number is above all numbers of an increasing list. -/
theorem Increasing.lt_next {versions : List String} (h : Increasing versions) {v : String}
    (hv : v∈versions) : versionNumber v< versionNumber (nextVersion versions) := by
  cases hlast : versions.getLast? with
  | none =>
    rw [List.getLast?_eq_none_iff] at hlast
    rw [hlast] at hv
    cases hv
  | some last =>
    have hle := h.le_last hlast hv
    rw [nextVersion_last hlast,versionNumber_name]
    omega

/-- The next name keeps the list increasing. -/
theorem Increasing.next {versions : List String} (h : Increasing versions) :
    Increasing (versions++[nextVersion versions]) := by
  refine List.pairwise_append.mpr ⟨h,List.pairwise_singleton _ _,fun v hv w hw => ?_⟩
  rw [List.mem_singleton.mp hw]
  exact h.lt_next hv

/-- Without one of its names the list increases. -/
theorem Increasing.erase {versions : List String} (h : Increasing versions) (v : String) :
    Increasing (versions.erase v) := List.Pairwise.sublist List.erase_sublist h

/-- The next name is no name of an increasing list. -/
theorem Increasing.next_new {versions : List String} (h : Increasing versions) :
    nextVersion versions∉versions := fun hmem => (h.lt_next hmem).false

variable {D K C : Type*}

/-- A deletion removes the name, unless it is the champion's. -/
theorem deleteVersion_manifest (dirs : Directories D) (r : Registry D K C) (version : String) :
    (r.deleteVersion dirs version).1.manifest=
      if r.manifest.championVersion=some version then r.manifest
      else {r.manifest with versions := r.manifest.versions.erase version} := by
  unfold Registry.deleteVersion
  split <;> rfl

variable [DecidableEq D]

/-- Saving metadata leaves the manifest. -/
@[simp] theorem saveMetadata_manifest (dirs : Directories D) (r : Registry D K C) (version : String)
    (m : ModelMetadata K C) : (r.saveMetadata dirs version m).manifest=r.manifest := rfl

/-- A promotion leaves the versions and the latest of them. -/
theorem promoteToChampion_manifest (dirs : Directories D) (r : Registry D K C)
    (version now : String) :
    (r.promoteToChampion dirs version now).1.manifest.versions=r.manifest.versions ∧
      (r.promoteToChampion dirs version now).1.manifest.latestVersion=r.manifest.latestVersion := by
  unfold Registry.promoteToChampion
  cases r.loadMetadata dirs version with
  | none => exact ⟨rfl,rfl⟩
  | some loaded =>
    dsimp only
    cases r.manifest.championVersion with
    | none => exact ⟨rfl,rfl⟩
    | some old =>
      dsimp only
      split
      · exact ⟨rfl,rfl⟩
      · cases r.loadMetadata dirs old <;> exact ⟨rfl,rfl⟩

/-- A registry after the champion was released has the same manifest. -/
@[simp] theorem releaseChampion_manifest (dirs : Directories D) (r : Registry D K C) :
    (r.releaseChampion dirs).manifest=r.manifest := by
  unfold Registry.releaseChampion
  cases r.manifest.championVersion with
  | none => rfl
  | some current =>
    dsimp only
    cases r.loadMetadata dirs current <;> rfl

variable [Field K] [LinearOrder K]

/-- A registration returns the next name, which is the last and the latest one. -/
theorem register_manifest (dirs : Directories D) (fixed4 : Value K→String) (r : Registry D K C)
    (a : Registration K C) (now : String) :
    (r.register dirs fixed4 a now).2=nextVersion r.manifest.versions ∧
      (r.register dirs fixed4 a now).1.manifest.versions=
        r.manifest.versions++[nextVersion r.manifest.versions] ∧
      (r.register dirs fixed4 a now).1.manifest.latestVersion=
        some (nextVersion r.manifest.versions) := by
  unfold Registry.register
  dsimp only
  cases r.challenge dirs fixed4 _ with
  | none => exact ⟨rfl,rfl,rfl⟩
  | some reason => exact ⟨rfl,by simp,rfl⟩

/-- One call. -/
def advance (dirs : Directories D) (fixed4 : Value K→String) (s : System D K C) :
    Call K C→System D K C
  | .register a now =>
    let result := s.registry.register dirs fixed4 a now
    ⟨result.1,result.2::s.returned,s.promoted⟩
  | .promote version now =>
    {s with registry := (s.registry.promoteToChampion dirs version now).1, promoted := true}
  | .delete version => {s with registry := (s.registry.deleteVersion dirs version).1}

/-- One call, which is always possible. -/
def step (dirs : Directories D) (fixed4 : Value K→String) (s : System D K C) (c : Call K C) :
    Option (System D K C) := some (advance dirs fixed4 s c)

/-- A new registry. -/
def System.start (now : String) : System D K C := ⟨.start now,[],false⟩

/-- The call does not delete the last version, unless the deletion is refused. -/
def KeepsLast (s : System D K C) : Call K C→Prop
  | .delete version => s.registry.manifest.versions.getLast?=some version→
    s.registry.manifest.championVersion=some version
  | _ => True

/-- Names returned are different, the versions have increasing numbers, and the latest version
is one of them or there is none. -/
structure Numbered (s : System D K C) : Prop where
  /-- No name was returned twice. -/
  fresh : s.returned.Nodup
  /-- `versions`. -/
  increasing : Increasing s.registry.manifest.versions
  /-- `latest_version`. -/
  latest : (∃ v∈s.registry.manifest.versions,s.registry.manifest.latestVersion=some v) ∨
    s.registry.manifest.versions=[] ∧ s.registry.manifest.latestVersion=none

/-- The latest version is the last one, and no number returned is above it. -/
structure Counted (s : System D K C) : Prop where
  /-- No name was returned twice. -/
  fresh : s.returned.Nodup
  /-- `versions`. -/
  increasing : Increasing s.registry.manifest.versions
  /-- `latest_version`. -/
  last : s.registry.manifest.versions.getLast?=s.registry.manifest.latestVersion
  /-- Returned numbers. -/
  bounded : ∀ v∈s.returned,∃ last,s.registry.manifest.versions.getLast?=some last ∧
    versionNumber v≤ versionNumber last

omit [DecidableEq D] [Field K] [LinearOrder K] in
/-- With the last version as the latest one, the latest is one of the versions. -/
theorem Counted.numbered {s : System D K C} (h : Counted s) : Numbered s := by
  refine ⟨h.fresh,h.increasing,?_⟩
  rw [← h.last]
  cases hlast : s.registry.manifest.versions.getLast? with
  | none => exact .inr ⟨List.getLast?_eq_none_iff.mp hlast,rfl⟩
  | some last => exact .inl ⟨last,List.mem_of_getLast? hlast,rfl⟩

omit [DecidableEq D] [Field K] [LinearOrder K] in
/-- Names and versions decide. -/
theorem Counted.congr {s s' : System D K C} (h : Counted s) (hreturned : s'.returned=s.returned)
    (hversions : s'.registry.manifest.versions=s.registry.manifest.versions)
    (hlatest : s'.registry.manifest.latestVersion=s.registry.manifest.latestVersion) :
    Counted s' := by
  refine ⟨?_,?_,?_,?_⟩
  · rw [hreturned]
    exact h.fresh
  · rw [hversions]
    exact h.increasing
  · rw [hversions,hlatest]
    exact h.last
  · rw [hreturned,hversions]
    exact h.bounded

omit [DecidableEq D] [Field K] [LinearOrder K] in
/-- Nothing is registered in a new registry. -/
theorem counted_start (now : String) : Counted (System.start now : System D K C) :=
  ⟨List.nodup_nil,List.Pairwise.nil,rfl,fun _ h => nomatch h⟩

/-- A registration returns a number above all before. -/
theorem Counted.register {s : System D K C} (h : Counted s) (dirs : Directories D)
    (fixed4 : Value K→String) (a : Registration K C) (now : String) :
    Counted (advance dirs fixed4 s (.register a now)) := by
  obtain ⟨hname,hversions,hlatest⟩ := register_manifest dirs fixed4 s.registry a now
  have hbelow : ∀ v∈s.returned,
      versionNumber v< versionNumber (nextVersion s.registry.manifest.versions) := by
    intro v hv
    obtain ⟨last,hlast,hle⟩ := h.bounded v hv
    exact hle.trans_lt (h.increasing.lt_next (List.mem_of_getLast? hlast))
  have hend : (s.registry.manifest.versions++
      [nextVersion s.registry.manifest.versions]).getLast?=
        some (nextVersion s.registry.manifest.versions) := List.getLast?_concat
  unfold advance
  dsimp only
  refine ⟨?_,?_,?_,fun v hv => ?_⟩
  · rw [hname]
    exact List.nodup_cons.mpr ⟨fun hmem => (hbelow _ hmem).false,h.fresh⟩
  · rw [hversions]
    exact h.increasing.next
  · rw [hversions,hlatest,hend]
  · rw [hversions]
    refine ⟨_,hend,?_⟩
    rw [hname] at hv
    rcases List.mem_cons.mp hv with rfl | hv
    · exact le_rfl
    · exact (hbelow v hv).le

/-- A list keeps its last name if another one is removed. -/
theorem getLast?_erase {versions : List String} {v : String} (h : versions.getLast?≠some v) :
    (versions.erase v).getLast?=versions.getLast? := by
  cases hlast : versions.getLast? with
  | none =>
    rw [List.getLast?_eq_none_iff] at hlast
    rw [hlast]
    rfl
  | some last =>
    obtain ⟨before,rfl⟩ := List.getLast?_eq_some_iff.mp hlast
    have hne : last≠v := fun heq => h (heq ▸ hlast)
    rw [List.erase_append]
    split
    · exact List.getLast?_concat
    · rw [List.erase_of_not_mem fun hmem => hne (List.mem_singleton.mp hmem).symm]
      exact List.getLast?_concat

/-- What a call that keeps the last version preserves. -/
theorem Counted.advance {s : System D K C} (h : Counted s) (dirs : Directories D)
    (fixed4 : Value K→String) {c : Call K C} (hc : KeepsLast s c) :
    Counted (advance dirs fixed4 s c) := by
  cases c with
  | register a now => exact h.register dirs fixed4 a now
  | promote version now =>
    obtain ⟨hversions,hlatest⟩ := promoteToChampion_manifest dirs s.registry version now
    exact h.congr rfl hversions hlatest
  | delete version =>
    have hmanifest := deleteVersion_manifest dirs s.registry version
    by_cases hchampion : s.registry.manifest.championVersion=some version
    · rw [if_pos hchampion] at hmanifest
      exact h.congr rfl (congrArg Manifest.versions hmanifest)
        (congrArg Manifest.latestVersion hmanifest)
    · rw [if_neg hchampion] at hmanifest
      have hlast := getLast?_erase fun heq => hchampion (hc heq)
      unfold RegistryNumbers.advance
      dsimp only
      refine ⟨h.fresh,?_,?_,fun v hv => ?_⟩
      · rw [hmanifest]
        exact h.increasing.erase version
      · rw [hmanifest]
        exact hlast.trans h.last
      · rw [hmanifest]
        dsimp only
        rw [hlast]
        exact h.bounded v hv

/-- The deletion of the last version leaves the latest one behind. -/
theorem Counted.lastDeleted {s : System D K C} (h : Counted s) (dirs : Directories D)
    (fixed4 : Value K→String) {c : Call K C} (hc : ¬KeepsLast s c) :
    ¬Numbered (RegistryNumbers.advance dirs fixed4 s c) := by
  cases c with
  | register a now => exact absurd trivial hc
  | promote version now => exact absurd trivial hc
  | delete version =>
    obtain ⟨hlast,hchampion⟩ := Classical.not_imp.mp hc
    have hmanifest := deleteVersion_manifest dirs s.registry version
    rw [if_neg hchampion] at hmanifest
    intro hnumbered
    have hlatest := hnumbered.latest
    unfold RegistryNumbers.advance at hlatest
    dsimp only at hlatest
    rw [hmanifest] at hlatest
    dsimp only at hlatest
    rw [← h.last,hlast] at hlatest
    have hnodup : s.registry.manifest.versions.Nodup :=
      h.increasing.imp fun hlt heq => hlt.ne (congrArg versionNumber heq)
    rcases hlatest with ⟨v,hv,hsame⟩ | ⟨_,hnone⟩
    · rw [← Option.some.inj hsame] at hv
      exact hnodup.not_mem_erase hv
    · cases hnone

/-- In every run whose calls keep the last version: names are new, numbers increase and the
latest version is one of the versions. A call after such a run keeps it so exactly if it
keeps the last version too. -/
theorem numbers_hold (dirs : Directories D) (fixed4 : Value K→String) (now : String)
    {s : System D K C} (hrun : Reaches (step dirs fixed4) KeepsLast (.start now) s) :
    Numbered s ∧ ∀ c,Numbered (advance dirs fixed4 s c) ↔ KeepsLast s c := by
  have hcounted : Counted s := by
    refine hrun.invariant (counted_start now) ?_
    intro s c s' _ hs hc hstep
    rw [← Option.some.inj hstep]
    exact hs.advance dirs fixed4 hc
  refine ⟨hcounted.numbered,fun c => ⟨fun h => ?_,fun hc => ?_⟩⟩
  · by_contra hc
    exact hcounted.lastDeleted dirs fixed4 hc h
  · exact (hcounted.advance dirs fixed4 hc).numbered

/-- Directories that are named like their versions. -/
def flat : Directories String where
  dir := id
  inside := fun d d' => decide (d=d')
  self := fun _ => decide_eq_true rfl
  apart := fun _ _ h => versionName_injective (of_decide_eq_true h)

/-- A registration with a Sharpe ratio. -/
def scored (sharpe : ℚ) : Registration ℚ Unit :=
  ⟨"PPO",some ⟨.number sharpe,.number 0,.number 0,0,.number 0⟩,none,none,none⟩

/-- Two registrations. -/
def twoScored : System String ℚ Unit :=
  advance flat (fun _ => "") (advance flat (fun _ => "") (.start "t0") (.register (scored 1) "t1"))
    (.register (scored 2.0) "t2")

/-- The deletion of the first of two versions leaves the names in order. -/
theorem numbers_hold_deleted : Numbered (advance flat (fun _ => "") twoScored (.delete "v001")) := by
  have hfirst : Reaches (step flat fun _ => "") KeepsLast (.start "t0")
      (advance flat (fun _ => "") (.start "t0") (.register (scored 1) "t1")) :=
    .next .start (e := .register (scored 1) "t1") trivial rfl
  have hrun : Reaches (step flat fun _ => "") KeepsLast (.start "t0") twoScored :=
    .next hfirst (e := .register (scored 2.0) "t2") trivial rfl
  have hlast : twoScored.registry.manifest.versions.getLast?≠some "v001" := by decide +kernel
  exact ((numbers_hold flat (fun _ => "") "t0" hrun).2 (.delete "v001")).mpr fun h => absurd h hlast

/-- The name of a deleted last version is returned again. -/
theorem deleted_name_returns :
    ¬∀ s : System String ℚ Unit,
      Reaches (step flat fun _ => "") (fun _ _ => True) (.start "t0") s→Numbered s := by
  intro hall
  obtain ⟨s,_,hreturned,hrun⟩ := play_ends (step flat fun _ => "") (fun _ _ => True)
    (.start "t0") (fun s : System String ℚ Unit => ¬s.returned.Nodup)
    [.register (scored 2.0) "t1",.register (scored 1) "t2",.delete "v002",
      .register (scored 1) "t3"] (by decide +kernel)
  exact hreturned (hall s hrun).fresh

end Aqts.RegistryNumbers
