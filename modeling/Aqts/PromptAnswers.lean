import Aqts.PromptHistory

/-!
# The prompt manager while every command answers

Without failures an entry of the cache never differs from the version in force, and the
registration of the defaults adds a version to just those types that a reader finds
nothing for.
-/

namespace Aqts.PromptVersions

open DocumentStore ExpiringSlot GuardedRuns RelatedJobs VersionJournal

variable {M : Type} {hash : String→String} {noMetrics : M} {D D' : List (PromptVersion M)}
  {K : String→Slot (PromptVersion M) ℕ} {T : ℕ} {t : String}

/-- Entries of the cache, expired or not, are of the versions in force. -/
def Fresh (D : List (PromptVersion M)) (K : String→Slot (PromptVersion M) ℕ) : Prop :=
  ∀ t e,K (cacheKey t)=some e→InForce t D e.value

/-- A world with such entries in which every command answers. -/
def Calm (T : ℕ) (s : World M) : Prop := ∃ D K,s=answering D K T ∧ Fresh D K

/-- A job keeps such worlds if it gives one for each collection and cache. -/
theorem calm_of {A : Type} {j : Method M A}
    (h : ∀ D K,Fresh D K→∃ r D' K',j (answering D K T)=(r,answering D' K' T) ∧ Fresh D' K') :
    Ensures (Calm T) j (fun _ => Calm T) fun _ => Calm T := by
  rintro _ ⟨D,K,rfl,hfresh⟩
  obtain ⟨r,D',K',hj,hfresh'⟩ := h D K hfresh
  rw [hj]
  cases r with
  | error e => exact ⟨D',K',rfl,hfresh'⟩
  | ok a => exact ⟨D',K',rfl,hfresh'⟩

/-- The version in force of one type is cached, and those of the others stay. -/
theorem Fresh.cacheWith {v : PromptVersion M} (h : Fresh D K)
    (hother : ∀ u,u≠t→D'.find? (activeOf u)=D.find? (activeOf u)) (hforce : InForce t D' v) :
    Fresh D' (cacheWith K T t v) := by
  intro u e he
  unfold PromptVersions.cacheWith at he
  by_cases hu : u=t
  · subst hu
    rw [Function.update_self] at he
    cases he
    exact hforce
  · rw [Function.update_of_ne fun hk => hu (cacheKey_inj hk)] at he
    obtain ⟨d,hd⟩ := h u e he
    rw [← hother u hu] at hd
    exact ⟨d,hd⟩

/-- `get_active_prompt` keeps the entries. -/
theorem getActivePrompt_calm (t : String) :
    Ensures (Calm T) (getActivePrompt (M := M) hash t) (fun _ => Calm T) fun _ => Calm T := by
  refine calm_of fun D K hfresh => ?_
  cases hread : read T (K (cacheKey t)) with
  | some v => exact ⟨_,D,K,getActivePrompt_hit hread,hfresh⟩
  | none =>
    cases hfind : D.find? (activeOf t) with
    | none => exact ⟨_,D,K,getActivePrompt_none hread hfind,hfresh⟩
    | some d =>
      obtain ⟨hversion,hcontent⟩ := docToVersion_fields hash d
      exact ⟨_,D,_,getActivePrompt_miss hread hfind,
        hfresh.cacheWith (fun _ _ => rfl) ⟨d,hfind,hversion.symm,hcontent.symm⟩⟩

/-- `create_version` keeps them. -/
theorem createVersion_calm (t content author note : String) :
    Ensures (Calm T) (createVersion hash noMetrics t content author note) (fun _ => Calm T)
      fun _ => Calm T := by
  refine calm_of fun D K hfresh => ?_
  by_cases htype : t∈promptTypes
  · cases hfind : D.find? (sameContent hash t content) with
    | some d => exact ⟨_,D,K,createVersion_same htype hfind,hfresh⟩
    | none =>
      have hactive : activeOf t (created hash noMetrics t content author note D)=true :=
        created_active t content author note D
      refine ⟨_,_,_,createVersion_new htype hfind,hfresh.cacheWith ?_ ?_⟩
      · intro u hu
        rw [append_other hu hactive,deactivation_other hu]
      · exact ⟨_,append_self deactivation_self hactive,rfl,rfl⟩
  · exact ⟨_,D,K,createVersion_invalid htype,hfresh⟩

/-- `rollback` keeps them. -/
theorem rollback_calm (t : String) (target : ℤ) :
    Ensures (Calm T) (rollback (M := M) hash t target) (fun _ => Calm T) fun _ => Calm T := by
  refine calm_of fun D K hfresh => ?_
  cases hfind : D.find? (versionOf t target) with
  | none => exact ⟨_,D,K,rollback_unknown hfind,hfresh⟩
  | some d =>
    have hforce := activation_self deactivation_self (deactivation_find (t := t) hfind)
    obtain ⟨hversion,hcontent⟩ := docToVersion_fields hash {d with isActive := true}
    refine ⟨_,_,_,rollback_known hfind,hfresh.cacheWith ?_ ?_⟩
    · intro u hu
      rw [activation_other hu,deactivation_other hu]
    · exact ⟨_,hforce,hversion.symm,hcontent.symm⟩

variable {m : Setting M} {init s : World M}

/-- Time passes, or a method is called and its commands answer. -/
def Event.Answers : Event M→Prop
  | .pass _ => True
  | .call _ mongo redis => mongo=[] ∧ redis=[]

/-- Every method keeps the entries. -/
theorem call_calm (method : Call M) (hfresh : Fresh D K) :
    Calm T (method.leaves m (answering D K T)) := by
  have hstart : Calm T (answering D K T) := ⟨D,K,rfl,hfresh⟩
  cases method with
  | getActive t =>
    exact (getActivePrompt_calm t).leaves hstart (fun _ _ h => h) fun _ _ h => h
  | create t content author note =>
    exact (createVersion_calm t content author note).leaves hstart (fun _ _ h => h) fun _ _ h => h
  | rollback t target =>
    exact (rollback_calm t target).leaves hstart (fun _ _ h => h) fun _ _ h => h
  | history t limit => exact ⟨D,K,rfl,hfresh⟩
  | metrics t n values =>
    have hkept := updateMetrics_effect m.merge t n values (answering D K T)
    exact ⟨_,K,rfl,fun u e he => hkept.kept u not_false e.value (hfresh u e he)⟩
  | defaults =>
    have hone : ∀ created,∀ d∈m.defaults,
        Ensures (Calm T) (initializeDefault m.hash m.noMetrics created d) (fun _ => Calm T)
          fun _ => Calm T := by
      intro created d _
      refine (getActivePrompt_calm d.1).andThen fun found => ?_
      cases found with
      | some v => exact Ensures.value fun _ hs => hs
      | none =>
        exact (createVersion_calm d.1 d.2 _ _).andThen fun _ => Ensures.value fun _ hs => hs
    exact (Ensures.each (I := fun _ => Calm T) m.defaults 0 hone).leaves hstart (fun _ _ h => h)
      fun _ _ h => h

/-- As long as every command answers, `get_active_prompt` returns the number and the content of
the version that is active in the collection, and nothing if none is, however the calls
follow each other and whatever has expired. -/
theorem answers_are_current (hcache : ∀ t,init.cache (cacheKey t)=none)
    (h : Reaches (step m) (fun _ event => event.Answers) init s) (t : String) :
    (getActivePrompt m.hash t (answering s.docs s.cache s.now)).1.map
        (Option.map fun v => (v.version,v.content))=
      .ok ((s.docs.find? (activeOf t)).map fun d => (d.version,d.content)) := by
  have hfresh : Fresh s.docs s.cache := by
    refine h.invariant (P := fun s => Fresh s.docs s.cache) ?_ ?_
    · intro u e he
      rw [hcache u] at he
      cases he
    · intro s event s' _ ih hanswers hstep
      cases event with
      | pass seconds =>
        cases hstep
        exact ih
      | call method mongo redis =>
        obtain ⟨rfl,rfl⟩ := hanswers
        cases hstep
        obtain ⟨D,K,hs,hfresh⟩ := call_calm (m := m) (T := s.now) method ih
        have hleaves : method.leaves m {s with mongo := [],redis := []}=answering D K s.now := hs
        rw [hleaves]
        exact hfresh
  cases hread : read s.now (s.cache (cacheKey t)) with
  | some v =>
    obtain ⟨e,he,_,rfl⟩ := read_eq_some hread
    obtain ⟨d,hd,hversion,hcontent⟩ := hfresh t e he
    obtain ⟨hsame,hsame'⟩ := docToVersion_fields m.hash e.value
    rw [getActivePrompt_hit hread,hd]
    show Except.ok (some (_,_))=Except.ok (some (_,_))
    rw [hsame,hsame',hversion,hcontent]
  | none =>
    cases hfind : s.docs.find? (activeOf t) with
    | none =>
      rw [getActivePrompt_none hread hfind]
      rfl
    | some d =>
      obtain ⟨hsame,hsame'⟩ := docToVersion_fields m.hash d
      rw [getActivePrompt_miss hread hfind]
      show Except.ok (some (_,_))=Except.ok (some (_,_))
      rw [hsame,hsame']

/-- Two hours after a registration of the defaults, when the cache has expired. -/
theorem default_is_current :
    ∃ s,Reaches (step plainSetting) (fun _ event => event.Answers) noPrompts s ∧ s.now=7200 ∧
      (getActivePrompt plainSetting.hash "opinion_macro" (answering s.docs s.cache s.now)).1.map
          (Option.map fun v => (v.version,v.content))=
        .ok ((s.docs.find? (activeOf "opinion_macro")).map fun d => (d.version,d.content)) := by
  have hrun : ∃ s,Reaches (step plainSetting) (fun _ event => event.Answers) noPrompts s ∧
      s.now=7200 := by
    have hfirst : Reaches (step plainSetting) (fun _ event => event.Answers) noPrompts
        ((Call.defaults).leaves plainSetting noPrompts) :=
      Reaches.next (e := .call .defaults [] []) .start ⟨rfl,rfl⟩ rfl
    have hnow := (call_effect plainSetting .defaults noPrompts).now
    exact ⟨_,Reaches.next (e := .pass 7200) hfirst True.intro rfl,congrArg (·+7200) hnow⟩
  obtain ⟨s,hreach,hnow⟩ := hrun
  have hread := answers_are_current (m := plainSetting) (fun _ => rfl) hreach "opinion_macro"
  exact ⟨s,hreach,hnow,hread⟩

/-- A reader finds nothing for a type. -/
def Missing (K : String→Slot (PromptVersion M) ℕ) (T : ℕ) (Js : String→Journal hash) (t : String) :
    Prop := read T (K (cacheKey t))=none ∧ (Js t).active=none

instance (K : String→Slot (PromptVersion M) ℕ) (T : ℕ) (Js : String→Journal hash) :
    DecidablePred (Missing K T Js) := by
  intro t
  unfold Missing
  exact instDecidableAnd

/-- One default: a missing type gets it, in the way of its journal. -/
theorem initializeDefault_registers {Js : String→Journal hash} (h : Represents D Js) (created : ℕ)
    {d : String×String} (htype : d.1∈promptTypes) :
    ∃ D' K',initializeDefault hash noMetrics created d (answering D K T)=
        (.ok (if Missing K T Js d.1 then created+1 else created),answering D' K' T) ∧
      Represents D' (Function.update Js d.1
        (if Missing K T Js d.1 then (Js d.1).create d.2 else Js d.1)) ∧
      ∀ u,u≠d.1→K' (cacheKey u)=K (cacheKey u) := by
  have hsame : Function.update Js d.1 (Js d.1)=Js := Function.update_eq_self _ _
  unfold initializeDefault
  cases hread : read T (K (cacheKey d.1)) with
  | some v =>
    have hfound : ¬Missing K T Js d.1 := fun hm => by
      rw [Missing,hread] at hm
      exact nomatch hm.1
    rw [if_neg hfound,if_neg hfound,hsame]
    exact ⟨D,K,Job.andThen_ok (getActivePrompt_hit hread),h,fun _ _ => rfl⟩
  | none =>
    cases hfind : D.find? (activeOf d.1) with
    | some e =>
      have hfound : ¬Missing K T Js d.1 := fun hm => by
        rw [h.find_active.mpr hm.2] at hfind
        cases hfind
      rw [if_neg hfound,if_neg hfound,hsame]
      refine ⟨D,_,Job.andThen_ok (getActivePrompt_miss hread hfind),h,fun u hu => ?_⟩
      exact Function.update_of_ne (fun hk => hu (cacheKey_inj hk)) ..
    | none =>
      have hmissing : Missing K T Js d.1 := ⟨hread,h.find_active.mp hfind⟩
      rw [if_pos hmissing,if_pos hmissing]
      unfold Journal.create
      cases hstored : D.find? (sameContent hash d.1 d.2) with
      | some e =>
        have hmem : hash d.2∈(Js d.1).contents.map hash := by
          by_contra hn
          rw [h.find_sameContent.mpr hn] at hstored
          cases hstored
        rw [dif_pos hmem,hsame]
        refine ⟨D,K,?_,h,fun _ _ => rfl⟩
        refine (Job.andThen_ok (getActivePrompt_none hread hfind)).trans ?_
        exact Job.andThen_ok (createVersion_same htype hstored)
      | none =>
        have hnew := h.find_sameContent.mp hstored
        rw [dif_neg hnew]
        have hcreate : createVersion hash noMetrics d.1 d.2 "system"
            "Initial default prompt registration" (answering D K T)=_ :=
          createVersion_new htype hstored
        refine ⟨_,_,(Job.andThen_ok (getActivePrompt_none hread hfind)).trans
          (Job.andThen_ok hcreate),h.added hnew,fun u hu => ?_⟩
        exact Function.update_of_ne (fun hk => hu (cacheKey_inj hk)) ..

/-- The loop over the defaults, from any number registered before. -/
theorem initializeEach_registers {defaults : List (String×String)} (created : ℕ)
    {D : List (PromptVersion M)} {K : String→Slot (PromptVersion M) ℕ} {Js : String→Journal hash}
    (h : Represents D Js) (htypes : ∀ d∈defaults,d.1∈promptTypes)
    (hnodup : (defaults.map Prod.fst).Nodup) :
    ∃ D' K' Js',Job.each (initializeDefault hash noMetrics) defaults created (answering D K T)=
        (.ok (created+defaults.countP fun d => decide (Missing K T Js d.1)),answering D' K' T) ∧
      Represents D' Js' ∧
      (∀ d∈defaults,Js' d.1=if Missing K T Js d.1 then (Js d.1).create d.2 else Js d.1) ∧
      ∀ t,t∉defaults.map Prod.fst→Js' t=Js t := by
  induction defaults generalizing created D K Js with
  | nil => exact ⟨D,K,Js,rfl,h,nofun,fun _ _ => rfl⟩
  | cons d defaults ih =>
    obtain ⟨htype,htypes⟩ := List.forall_mem_cons.mp htypes
    obtain ⟨hnotin,hnodup⟩ := List.nodup_cons.mp hnodup
    obtain ⟨D₁,K₁,hfirst,hrep,hK⟩ : ∃ D' K',
        initializeDefault hash noMetrics created d (answering D K T)=_ ∧ _ :=
      initializeDefault_registers h created htype
    obtain ⟨D',K',Js',hrest,hrep',hthose,hothers⟩ :=
      ih (if Missing K T Js d.1 then created+1 else created) hrep htypes hnodup
    -- the first default changes nothing that the later ones see
    have hlater : ∀ e∈defaults,
        (Missing K₁ T (Function.update Js d.1
          (if Missing K T Js d.1 then (Js d.1).create d.2 else Js d.1)) e.1 ↔ Missing K T Js e.1) ∧
        Function.update Js d.1
          (if Missing K T Js d.1 then (Js d.1).create d.2 else Js d.1) e.1=Js e.1 := by
      intro e he
      have hne : e.1≠d.1 := by
        intro heq
        exact hnotin (heq ▸ List.mem_map_of_mem he)
      unfold Missing
      rw [Function.update_of_ne hne,hK e.1 hne]
      exact ⟨Iff.rfl,rfl⟩
    refine ⟨D',K',Js',?_,hrep',?_,?_⟩
    · refine (Job.andThen_ok hfirst).trans (hrest.trans ?_)
      have hcount : (defaults.countP fun e => decide (Missing K₁ T (Function.update Js d.1
          (if Missing K T Js d.1 then (Js d.1).create d.2 else Js d.1)) e.1))=
          defaults.countP fun e => decide (Missing K T Js e.1) := by
        apply List.countP_congr
        intro e he
        rw [decide_eq_true_eq,decide_eq_true_eq]
        exact (hlater e he).1
      rw [hcount,List.countP_cons]
      congr 2
      by_cases hmissing : Missing K T Js d.1
      · rw [if_pos hmissing,if_pos (decide_eq_true hmissing)]
        omega
      · rw [if_neg hmissing,if_neg (by rwa [decide_eq_true_eq])]
        rfl
    · intro e he
      rcases List.mem_cons.mp he with rfl | he
      · rw [hothers e.1 hnotin,Function.update_self]
      · rw [hthose e he,(hlater e he).2]
        exact if_congr (hlater e he).1 rfl rfl
    · intro t ht
      rw [List.map_cons,List.mem_cons,not_or] at ht
      rw [hothers t ht.2,Function.update_of_ne ht.1]

/-- While every command answers, `initialize_defaults` returns the number of default types for
which a reader finds nothing. Those get their default as a new version in force, unless they
have a version with its hash: then nothing changes, and they are counted all the same. -/
theorem initializeDefaults_registers {Js : String→Journal m.hash} (h : Represents D Js)
    (htypes : ∀ d∈m.defaults,d.1∈promptTypes) :
    ∃ D' K' Js',initializeDefaults m.hash m.noMetrics m.defaults (answering D K T)=
        (.ok (m.defaults.countP fun d => decide (Missing K T Js d.1)),answering D' K' T) ∧
      Represents D' Js' ∧
      (∀ d∈m.defaults,
        Js' d.1=if Missing K T Js d.1 then (Js d.1).create d.2 else Js d.1) ∧
      ∀ t,t∉m.defaults.map Prod.fst→Js' t=Js t := by
  obtain ⟨D',K',Js',hrun,hrest⟩ : ∃ D' K' Js',
      initializeDefaults m.hash m.noMetrics m.defaults (answering D K T)=_ ∧ _ :=
    initializeEach_registers 0 h htypes m.nodup
  rw [Nat.zero_add] at hrun
  exact ⟨D',K',Js',hrun,hrest⟩

/-- In an empty collection the one default is registered. -/
theorem one_default_is_registered :
    ∃ D' K',∃ Js : String→Journal plainSetting.hash,
      initializeDefaults plainSetting.hash plainSetting.noMetrics plainSetting.defaults
        (answering [] (fun _ => none) 0)=(.ok 1,answering D' K' 0) ∧
      Represents D' Js ∧ (Js "opinion_macro").current=some "macro" := by
  obtain ⟨D',K',Js',hrun,hrep,hthose,_⟩ := initializeDefaults_registers (m := plainSetting)
    (K := fun _ => none) (T := 0) Represents.empty (by decide)
  have hjournal := hthose ("opinion_macro","macro") (List.mem_singleton.mpr rfl)
  have hmissing : Missing (M := Unit) (fun _ => none) 0
      (fun _ => (Journal.empty : Journal plainSetting.hash)) "opinion_macro" := ⟨rfl,rfl⟩
  rw [if_pos hmissing] at hjournal
  have hnew : plainSetting.hash "macro"∉
      (Journal.empty : Journal plainSetting.hash).contents.map plainSetting.hash := List.not_mem_nil
  refine ⟨D',K',Js',hrun,hrep,?_⟩
  rw [hjournal]
  exact (congrArg Journal.current (dif_neg hnew)).trans (Journal.current_append hnew)

end Aqts.PromptVersions
