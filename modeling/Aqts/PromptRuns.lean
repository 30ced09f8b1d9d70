import Aqts.GuardedRuns
import Aqts.PromptEffects

/-!
# Runs of the prompt manager

Methods are called one after another while time passes, and any command of the database
or of the cache may fail. What a reader is given was the active version within the last
hour, and it is the active version as long as every command answers.
-/

namespace Aqts.PromptVersions

open DocumentStore ExpiringSlot GuardedRuns RelatedJobs

variable {M : Type}

/-- The content of a version is that of the active version of a type. -/
def InForce (t : String) (docs : List (PromptVersion M)) (v : PromptVersion M) : Prop :=
  ∃ d,docs.find? (activeOf t)=some d ∧ d.version=v.version ∧ d.content=v.content

/-- What a method does to the versions in force, for the types that it is about. -/
structure Effect (T : String→Prop) (s s' : World M) : Prop where
  /-- No time passes. -/
  now : s'.now=s.now
  /-- Other types keep their version in force. -/
  kept : ∀ t,¬T t→∀ v,InForce t s.docs v→InForce t s'.docs v
  /-- And their entry in the cache. -/
  entry : ∀ t,¬T t→s'.cache (cacheKey t)=s.cache (cacheKey t)
  /-- An entry is new only with the version in force. -/
  cached : ∀ t,s'.cache (cacheKey t)=s.cache (cacheKey t) ∨
    ∃ v,s'.cache (cacheKey t)=setEx s.now cacheTtl v ∧ InForce t s'.docs v

/-- Different types have different keys. -/
theorem cacheKey_inj {t u : String} (h : cacheKey t=cacheKey u) : t=u := by
  unfold cacheKey at h
  rw [← String.toList_inj,String.toList_append,String.toList_append,String.toList_append,
    String.toList_append] at h
  exact String.toList_inj.mp (List.append_cancel_left (List.append_cancel_right h))

/-- The content and the number of a document are read back. -/
theorem docToVersion_fields (hash : String→String) (d : PromptVersion M) :
    (docToVersion hash d).version=d.version ∧ (docToVersion hash d).content=d.content := by
  unfold docToVersion
  split
  · exact ⟨rfl,rfl⟩
  · exact ⟨rfl,rfl⟩

/-- A type selects another document for another type. -/
theorem activeOf_other {t u : String} {d : PromptVersion M} (hne : u≠t)
    (h : activeOf t d=true) : ¬activeOf u d=true := by
  unfold activeOf ofType at *
  rw [Bool.and_eq_true,decide_eq_true_eq] at *
  rintro ⟨rfl,-⟩
  exact hne h.1

variable {D : List (PromptVersion M)} {K : String→Slot (PromptVersion M) ℕ} {t : String}
  {s s' : World M}

/-- Taking back the active versions of a type leaves the other types. -/
theorem deactivation_other {u : String} (hne : u≠t) :
    ((deactivation t).many D).find? (activeOf u)=D.find? (activeOf u) := by
  refine (find?_unselected (fun d hd => ⟨activeOf_other hne hd,?_⟩) D).1
  show ¬(ofType u d && false)=true
  rw [Bool.and_false]
  exact Bool.false_ne_true

/-- No version of the type stays active. -/
theorem deactivation_self : ∀ d∈(deactivation t).many D,¬activeOf t d=true := by
  intro d hd
  unfold Update.many at hd
  obtain ⟨e,_,rfl⟩ := List.mem_map.mp hd
  by_cases hselected : activeOf t e=true
  · rw [Update.onDoc_pos hselected]
    show ¬(ofType t e && false)=true
    rw [Bool.and_false]
    exact Bool.false_ne_true
  · rwa [Update.onDoc_neg hselected]

/-- Making a version active leaves the other types. -/
theorem activation_other {u : String} {n : ℤ} (hne : u≠t) :
    ((activation t n).one D).find? (activeOf u)=D.find? (activeOf u) := by
  refine (find?_unselected (fun d hd => ?_) D).2
  have htype : d.promptType=t := by
    have hboth : (ofType t d && decide (d.version=n))=true := hd
    unfold ofType at hboth
    rw [Bool.and_eq_true,decide_eq_true_eq] at hboth
    exact hboth.1
  have hother : ofType u d=false := decide_eq_false fun h => hne (h.symm.trans htype)
  constructor
  · show ¬(ofType u d && d.isActive)=true
    rw [hother]
    exact Bool.false_ne_true
  · show ¬(ofType u d && true)=true
    rw [hother]
    exact Bool.false_ne_true

/-- Taking back the active versions leaves what else selects a document. -/
theorem deactivation_find {n : ℤ} {d : PromptVersion M} (h : D.find? (versionOf t n)=some d) :
    ((deactivation t).many D).find? (versionOf t n)=some {d with isActive := false} := by
  have hfound := find?_many (c := deactivation t) (fun _ _ => rfl) h
  rw [hfound]
  congr 1
  by_cases hselected : activeOf t d=true
  · exact Update.onDoc_pos hselected
  · have htype := List.find?_some h
    unfold versionOf at htype
    rw [Bool.and_eq_true] at htype
    have hinactive : d.isActive=false := by
      unfold activeOf at hselected
      rw [htype.1,Bool.true_and] at hselected
      exact Bool.eq_false_iff.mpr hselected
    rw [← hinactive]
    exact Update.onDoc_neg hselected

/-- The version that is made active where none is. -/
theorem activation_self {n : ℤ} {d : PromptVersion M} (hnone : ∀ d∈D,¬activeOf t d=true)
    (h : D.find? (versionOf t n)=some d) :
    ((activation t n).one D).find? (activeOf t)=some {d with isActive := true} := by
  have htype := List.find?_some h
  unfold versionOf at htype
  rw [Bool.and_eq_true] at htype
  apply find?_one (c := activation t n) hnone h
  show (ofType t d && true)=true
  rw [Bool.and_true]
  exact htype.1

/-- A new version where none is active. -/
theorem append_self {v : PromptVersion M} (hnone : ∀ d∈D,¬activeOf t d=true)
    (hv : activeOf t v=true) : (D++[v]).find? (activeOf t)=some v := by
  rw [List.find?_append,List.find?_eq_none.mpr hnone,List.find?_cons_of_pos hv]
  rfl

/-- It leaves the other types. -/
theorem append_other {u : String} {v : PromptVersion M} (hne : u≠t) (hv : activeOf t v=true) :
    (D++[v]).find? (activeOf u)=D.find? (activeOf u) := by
  rw [List.find?_append,List.find?_cons_of_neg (activeOf_other hne hv)]
  exact Option.or_none

namespace Effect

variable {T T' : String→Prop}

/-- Nothing that is read has changed. -/
theorem nothing (h : At s.docs s.cache s.now s') : Effect T s s' := by
  refine ⟨h.now,fun u _ v hv => ?_,fun u _ => ?_,fun u => .inl ?_⟩
  · rwa [h.docs]
  · rw [h.cache]
  · rw [h.cache]

/-- The collection changes for one type, and its entry may change to what is in force. -/
theorem one {K' : String→Slot (PromptVersion M) ℕ} {v : PromptVersion M}
    (h : At D K' s.now s') (hother : ∀ u,u≠t→D.find? (activeOf u)=s.docs.find? (activeOf u))
    (hcached : Cached s.cache K' s.now t v) (hforce : InForce t D v) : Effect (· = t) s s' := by
  obtain ⟨rfl,rfl,hnow⟩ := h
  refine ⟨hnow,?_,?_,?_⟩
  · rintro u hu w ⟨d,hd⟩
    rw [← hother u hu] at hd
    exact ⟨d,hd⟩
  · intro u hu
    rcases hcached with hK | hK
    · rw [hK]
    · rw [hK,Function.update_of_ne fun h => hu (cacheKey_inj h)]
  · intro u
    rcases hcached with hK | hK
    · exact .inl (by rw [hK])
    · by_cases hu : u=t
      · subst hu
        exact .inr ⟨v,by rw [hK,Function.update_self],hforce⟩
      · exact .inl (by rw [hK,Function.update_of_ne fun h => hu (cacheKey_inj h)])

/-- The collection changes for one type, and no entry. -/
theorem one_uncached (h : At D s.cache s.now s')
    (hother : ∀ u,u≠t→D.find? (activeOf u)=s.docs.find? (activeOf u)) : Effect (· = t) s s' := by
  obtain ⟨rfl,hcache,hnow⟩ := h
  refine ⟨hnow,?_,fun u _ => ?_,fun u => .inl ?_⟩
  · rintro u hu w ⟨d,hd⟩
    rw [← hother u hu] at hd
    exact ⟨d,hd⟩
  · rw [hcache]
  · rw [hcache]

/-- Methods about different types, one after another. -/
theorem trans {s'' : World M} (h : Effect T s s') (h' : Effect T' s' s'')
    (hdisjoint : ∀ t,T t→¬T' t) : Effect (fun t => T t ∨ T' t) s s'' := by
  refine ⟨h'.now.trans h.now,?_,?_,?_⟩
  · intro t ht
    rw [not_or] at ht
    exact fun v hv => h'.kept t ht.2 v (h.kept t ht.1 v hv)
  · intro t ht
    rw [not_or] at ht
    exact (h'.entry t ht.2).trans (h.entry t ht.1)
  · intro t
    by_cases ht : T t
    · have hentry := h'.entry t (hdisjoint t ht)
      rcases h.cached t with hc | ⟨v,hv,hforce⟩
      · exact .inl (hentry.trans hc)
      · exact .inr ⟨v,hentry.trans hv,h'.kept t (hdisjoint t ht) v hforce⟩
    · rw [← h.entry t ht,← h.now]
      exact h'.cached t

/-- About more types. -/
theorem mono (h : Effect T s s') (hT : ∀ t,T t→T' t) : Effect T' s s' :=
  ⟨h.now,fun t ht => h.kept t fun hn => ht (hT t hn),
    fun t ht => h.entry t fun hn => ht (hT t hn),h.cached⟩

end Effect

variable {hash : String→String} {noMetrics : M}

/-- `get_active_prompt` is about its type. -/
theorem getActivePrompt_effect (t : String) (s : World M) :
    Effect (· = t) s (getActivePrompt hash t s).2 := by
  refine (getActivePrompt_ensures t).leaves ⟨rfl,rfl,rfl⟩ ?_ fun _ _ => Effect.nothing
  rintro a s' (⟨_,_,_,h⟩ | ⟨_,_,h⟩ | ⟨d,K',hfind,_,hcached,h⟩)
  · exact Effect.nothing h
  · exact Effect.nothing h
  · obtain ⟨hversion,hcontent⟩ := docToVersion_fields hash d
    exact Effect.one h (fun _ _ => rfl) hcached ⟨d,hfind,hversion.symm,hcontent.symm⟩

/-- The version that `create_version` stores is active. -/
theorem created_active (t content author note : String) (D : List (PromptVersion M)) :
    activeOf t (created hash noMetrics t content author note D)=true := by
  show (decide (t=t) && true)=true
  rw [decide_eq_true rfl]
  rfl

/-- `create_version` is about its type. -/
theorem createVersion_effect (t content author note : String) (s : World M) :
    Effect (· = t) s (createVersion hash noMetrics t content author note s).2 := by
  have hactive : activeOf t (created hash noMetrics t content author note s.docs)=true :=
    created_active t content author note s.docs
  have hnew : ∀ K' (s' : World M),
      Cached s.cache K' s.now t (created hash noMetrics t content author note s.docs)→
      At ((deactivation t).many s.docs++[created hash noMetrics t content author note s.docs])
        K' s.now s'→Effect (· = t) s s' := by
    intro K' s' hcached h
    refine Effect.one h ?_ hcached ⟨_,append_self deactivation_self hactive,rfl,rfl⟩
    intro u hu
    rw [append_other hu hactive,deactivation_other hu]
  refine (createVersion_ensures t content author note).leaves ⟨rfl,rfl,rfl⟩ ?_ ?_
  · rintro v s' ⟨_,⟨_,_,_,h⟩ | ⟨_,rfl,K',hcached,h⟩⟩
    · exact Effect.nothing h
    · exact hnew K' s' hcached h
  · rintro _ s' (h | ⟨_,_,h | ⟨K',hcached,h⟩⟩)
    · exact Effect.nothing h
    · exact Effect.one_uncached h fun u hu => deactivation_other hu
    · exact hnew K' s' hcached h

/-- `rollback` is about its type. -/
theorem rollback_effect (t : String) (target : ℤ) (s : World M) :
    Effect (· = t) s (rollback hash t target s).2 := by
  have hother : ∀ u,u≠t→
      ((activation t target).one ((deactivation t).many s.docs)).find? (activeOf u)=
        s.docs.find? (activeOf u) := by
    intro u hu
    rw [activation_other hu,deactivation_other hu]
  refine (rollback_ensures t target).leaves ⟨rfl,rfl,rfl⟩ ?_ ?_
  · rintro v s' ⟨d,K',hfind,rfl,hcached,h⟩
    have hforce := activation_self deactivation_self (deactivation_find (t := t) hfind)
    obtain ⟨hversion,hcontent⟩ := docToVersion_fields hash {d with isActive := true}
    exact Effect.one h hother hcached ⟨_,hforce,hversion.symm,hcontent.symm⟩
  · rintro _ s' (h | ⟨d,_,h | h⟩)
    · exact Effect.nothing h
    · exact Effect.one_uncached h fun u hu => deactivation_other hu
    · exact Effect.one_uncached h hother

/-- What follows on a method that changes nothing that is read. -/
theorem Effect.after {T : String→Prop} {s'' : World M} (h : At s.docs s.cache s.now s')
    (h' : Effect T s' s'') : Effect T s s'' := by
  obtain ⟨hnow,hkept,hentry,hcached⟩ := h'
  rw [h.docs] at hkept
  rw [h.cache] at hentry
  rw [h.cache,h.now] at hcached
  exact ⟨hnow.trans h.now,hkept,hentry,hcached⟩

/-- One default is about its type. -/
theorem initializeDefault_effect (created : ℕ) (d : String×String) (s : World M) :
    Ensures (· = s) (initializeDefault hash noMetrics created d)
      (fun _ s' => Effect (· = d.1) s s') fun _ s' => Effect (· = d.1) s s' := by
  have hfirst : Ensures (· = s) (getActivePrompt hash d.1)
      (fun a s' => (a≠none ∧ Effect (· = d.1) s s') ∨ (a=none ∧ At s.docs s.cache s.now s'))
      fun _ s' => Effect (· = d.1) s s' := by
    intro s₀ hs₀
    rw [hs₀]
    have heffect : Effect (· = d.1) s (getActivePrompt hash d.1 s).2 :=
      getActivePrompt_effect d.1 s
    have hspec := @getActivePrompt_ensures _ _ _ _ hash d.1 s ⟨rfl,rfl,rfl⟩
    rcases hj : getActivePrompt hash d.1 s with ⟨_ | a,s'⟩
    · rw [hj] at heffect
      exact heffect
    · rw [hj] at heffect hspec
      rcases hspec with ⟨v,rfl,_,_⟩ | ⟨_,rfl,h⟩ | ⟨_,_,_,rfl,_,_⟩
      · exact .inl ⟨nofun,heffect⟩
      · exact .inr ⟨rfl,h⟩
      · exact .inl ⟨nofun,heffect⟩
  refine hfirst.andThen fun a => ?_
  cases a with
  | some v =>
    apply Ensures.value
    rintro s' (⟨_,h⟩ | ⟨hnone,_⟩)
    · exact h
    · cases hnone
  | none =>
    have hcreate : Ensures (At s.docs s.cache s.now)
        (createVersion hash noMetrics d.1 d.2 "system" "Initial default prompt registration")
        (fun _ s' => Effect (· = d.1) s s') fun _ s' => Effect (· = d.1) s s' := by
      intro s' hs'
      have hcreated : Effect (· = d.1) s' (createVersion hash noMetrics d.1 d.2 "system"
          "Initial default prompt registration" s').2 :=
        createVersion_effect d.1 d.2 "system" "Initial default prompt registration" s'
      have heffect := Effect.after hs' hcreated
      rcases hj : createVersion hash noMetrics d.1 d.2 "system"
        "Initial default prompt registration" s' with ⟨_ | a,s''⟩
      · rw [hj] at heffect
        exact heffect
      · rw [hj] at heffect
        exact heffect
    refine Ensures.andThen (hcreate.mono ?_ (fun _ _ h => h) fun _ _ h => h) fun _ =>
      Ensures.value fun _ h => h
    rintro s' (⟨hne,_⟩ | ⟨_,h⟩)
    · exact absurd rfl hne
    · exact h

/-- `initialize_defaults` is about the types of the defaults, each of which it visits once. -/
theorem initializeDefaults_effect (defaults : List (String×String))
    (hnodup : (defaults.map Prod.fst).Nodup) (s : World M) :
    Effect (·∈defaults.map Prod.fst) s (initializeDefaults hash noMetrics defaults s).2 := by
  have hall : ∀ created s,Ensures (· = s)
      (Job.each (initializeDefault hash noMetrics) defaults created)
      (fun _ s' => Effect (·∈defaults.map Prod.fst) s s')
      fun _ s' => Effect (·∈defaults.map Prod.fst) s s' := by
    induction defaults with
    | nil =>
      intro created s
      apply Ensures.value
      rintro _ rfl
      exact Effect.nothing ⟨rfl,rfl,rfl⟩
    | cons d defaults ih =>
      intro created s
      obtain ⟨hnotin,hrest⟩ := List.nodup_cons.mp hnodup
      refine ((initializeDefault_effect created d s).mono (fun _ h => h) (fun _ _ h => h)
        fun _ _ h => h.mono ?_).andThen fun created' => ?_
      · rintro t rfl
        exact List.mem_cons_self
      intro s' hs'
      have hlater : ∀ s'',Effect (·∈defaults.map Prod.fst) s' s''→
          Effect (·∈(d::defaults).map Prod.fst) s s'' := by
        intro s'' h
        refine (hs'.trans h ?_).mono ?_
        · rintro t rfl
          exact hnotin
        · rintro t (rfl | ht)
          · exact List.mem_cons_self
          · exact List.mem_cons_of_mem _ ht
      exact (ih hrest created' s').mono (fun _ h => h) (fun _ => hlater) (fun _ => hlater) s' rfl
  exact (hall 0 s).leaves rfl (fun _ _ h => h) fun _ _ h => h

/-- The metrics of a version are about no type. -/
theorem updateMetrics_effect (merge : M→M→M) (t : String) (n : ℤ) (metrics : M) (s : World M) :
    Effect (fun _ => False) s (updateMetrics merge t n metrics s).2 := by
  have hset : ∀ s' : World M,
      At (Update.one ⟨versionOf t n,fun d => {d with metrics := merge d.metrics metrics}⟩ s.docs)
        s.cache s.now s'→Effect (fun _ => False) s s' := by
    rintro s' ⟨hdocs,hcache,hnow⟩
    refine ⟨hnow,?_,fun u _ => ?_,fun u => .inl ?_⟩
    · rintro u _ v ⟨d,hd,hversion,hcontent⟩
      rw [hdocs]
      obtain ⟨e,he,rfl | rfl⟩ := find?_one_kept
        (c := ⟨versionOf t n,fun d => {d with metrics := merge d.metrics metrics}⟩)
        (q := activeOf u) (fun _ _ => rfl) hd
      · exact ⟨e,he,hversion,hcontent⟩
      · exact ⟨_,he,hversion,hcontent⟩
    · rw [hcache]
    · rw [hcache]
  refine (mongo_ensures _).leaves ⟨rfl,rfl,rfl⟩ (fun _ s' h => hset s' h.2) ?_
  rintro _ s' (h | h)
  · exact Effect.nothing h
  · exact hset s' h

/-- A method that is called. -/
inductive Call (M : Type)
  /-- `get_active_prompt`. -/
  | getActive (t : String)
  /-- `create_version`. -/
  | create (t content author note : String)
  /-- `rollback`. -/
  | rollback (t : String) (target : ℤ)
  /-- `get_version_history`. -/
  | history (t : String) (limit : ℕ)
  /-- `update_metrics`. -/
  | metrics (t : String) (n : ℤ) (metrics : M)
  /-- `initialize_defaults`. -/
  | defaults

/-- Time passes, or a method is called and its commands fare like this. -/
inductive Event (M : Type)
  /-- Seconds pass. -/
  | pass (seconds : ℕ)
  /-- A method is called. -/
  | call (method : Call M) (mongo redis : List Outcome)

/-- What the manager is given. -/
structure Setting (M : Type) where
  /-- `sha256(...).hexdigest()[:16]`. -/
  hash : String→String
  /-- Metrics of a new version. -/
  noMetrics : M
  /-- `$set` of metrics. -/
  merge : M→M→M
  /-- Default contents by type. -/
  defaults : List (String×String)
  /-- Keys of a dictionary. -/
  nodup : (defaults.map Prod.fst).Nodup

variable (m : Setting M)

/-- What a method leaves. -/
def Call.leaves : Call M→World M→World M
  | .getActive t,s => (getActivePrompt m.hash t s).2
  | .create t content author note,s => (createVersion m.hash m.noMetrics t content author note s).2
  | .rollback t target,s => (PromptVersions.rollback m.hash t target s).2
  | .history t limit,s => (getVersionHistory m.hash t limit s).2
  | .metrics t n values,s => (updateMetrics m.merge t n values s).2
  | .defaults,s => (initializeDefaults m.hash m.noMetrics m.defaults s).2

/-- The types that a method is about. -/
def Call.about : Call M→String→Prop
  | .getActive t,u => u=t
  | .create t _ _ _,u => u=t
  | .rollback t _,u => u=t
  | .history _ _,_ => False
  | .metrics _ _ _,_ => False
  | .defaults,u => u∈m.defaults.map Prod.fst

/-- One event. -/
def step (s : World M) : Event M→Option (World M)
  | .pass seconds => some {s with now := s.now+seconds}
  | .call method mongo redis => some (method.leaves m {s with mongo := mongo,redis := redis})

/-- What a method does. -/
theorem call_effect (method : Call M) (s : World M) :
    Effect (method.about m) s (method.leaves m s) := by
  cases method with
  | getActive t => exact getActivePrompt_effect t s
  | create t content author note => exact createVersion_effect t content author note s
  | rollback t target => exact rollback_effect t target s
  | history t limit =>
    exact (getVersionHistory_ensures t limit).leaves ⟨rfl,rfl,rfl⟩
      (fun _ _ h => Effect.nothing h.2) fun _ _ h => Effect.nothing h
  | metrics t n values => exact updateMetrics_effect m.merge t n values s
  | defaults => exact initializeDefaults_effect m.defaults m.nodup s

variable {m} {init : World M}

/-- Every entry of the cache was the version in force when it was stored. -/
theorem entries_were_in_force {allowed : World M→Event M→Prop}
    (hcache : ∀ t,init.cache (cacheKey t)=none) (h : Reaches (step m) allowed init s) :
    ∀ t e,s.cache (cacheKey t)=some e→∃ mid,Reaches (step m) allowed init mid ∧
      Reaches (step m) allowed mid s ∧ e.expiresAt=mid.now+cacheTtl ∧
      InForce t mid.docs e.value := by
  refine h.invariant (P := fun s => ∀ t e,s.cache (cacheKey t)=some e→∃ mid,
    Reaches (step m) allowed init mid ∧ Reaches (step m) allowed mid s ∧
      e.expiresAt=mid.now+cacheTtl ∧ InForce t mid.docs e.value) ?_ ?_
  · intro t e he
    rw [hcache t] at he
    cases he
  intro s event s' hs ih hallowed hstep t e he
  have hgo : Reaches (step m) allowed init s' := hs.next hallowed hstep
  have hlast : Reaches (step m) allowed s s' := Reaches.start.next hallowed hstep
  cases event with
  | pass seconds =>
    cases hstep
    obtain ⟨mid,hinit,hmid,hexpires,hforce⟩ := ih t e he
    exact ⟨mid,hinit,hmid.trans hlast,hexpires,hforce⟩
  | call method mongo redis =>
    have heffect := call_effect m method {s with mongo := mongo,redis := redis}
    cases hstep
    rcases heffect.cached t with hsame | ⟨v,hv,hforce⟩
    · rw [hsame] at he
      obtain ⟨mid,hinit,hmid,hexpires,hforce⟩ := ih t e he
      exact ⟨mid,hinit,hmid.trans hlast,hexpires,hforce⟩
    · rw [hv] at he
      cases he
      exact ⟨_,hgo,.start,congrArg (·+cacheTtl) heffect.now.symm,hforce⟩

/-- Whatever fails and however the calls follow each other, what `get_active_prompt` returns
was the active version of its type at most an hour ago. -/
theorem answers_are_recent (hcache : ∀ t,init.cache (cacheKey t)=none)
    (h : Reaches (step m) (fun _ _ => True) init s) (mongo redis : List Outcome) (t : String)
    (v : PromptVersion M)
    (hanswer : (getActivePrompt m.hash t {s with mongo := mongo,redis := redis}).1=.ok (some v)) :
    ∃ mid,Reaches (step m) (fun _ _ => True) init mid ∧
      Reaches (step m) (fun _ _ => True) mid s ∧ s.now≤ mid.now+cacheTtl ∧
      InForce t mid.docs v := by
  rcases (getActivePrompt_ensures t).returns ⟨rfl,rfl,rfl⟩ hanswer with
    ⟨w,hw,hread,_⟩ | ⟨_,hnone,_⟩ | ⟨d,_,hfind,hd,_⟩
  · cases hw
    obtain ⟨stored,hstored,rfl⟩ := Option.map_eq_some_iff.mp hread
    obtain ⟨e,he,hlive,rfl⟩ := read_eq_some hstored
    obtain ⟨mid,hinit,hmid,hexpires,d,hd,hversion,hcontent⟩ := entries_were_in_force hcache h t e he
    obtain ⟨hsame,hread⟩ := docToVersion_fields m.hash e.value
    rw [hexpires] at hlive
    exact ⟨mid,hinit,hmid,hlive,d,hd,hversion.trans hsame.symm,hcontent.trans hread.symm⟩
  · cases hnone
  · cases hd
    obtain ⟨hversion,hcontent⟩ := docToVersion_fields m.hash d
    exact ⟨s,h,.start,Nat.le_add_right _ _,d,hfind,hversion.symm,hcontent.symm⟩

/-- A setting with one default and contents that are their own hashes. -/
def plainSetting : Setting Unit := ⟨id,(),fun _ _ => (),[("opinion_macro","macro")],by decide⟩

/-- No version is stored. -/
def noPrompts : World Unit := answering [] (fun _ => none) 0

/-- The second version could not be cached, so half an hour later a reader still gets the first
one. -/
theorem refused_entry_is_recent :
    ∃ mid,Reaches (step plainSetting) (fun _ _ => True) noPrompts mid ∧ 1800≤ mid.now+cacheTtl ∧
      InForce "opinion_macro" mid.docs
        ⟨"opinion_macro",1,"a","a",true,"system","",()⟩ := by
  have hfirst : Reaches (step plainSetting) (fun _ _ => True) noPrompts
      ((Call.create "opinion_macro" "a" "system" "").leaves plainSetting noPrompts) :=
    Reaches.next (e := .call (.create "opinion_macro" "a" "system" "") [] []) .start True.intro rfl
  have hsecond := Reaches.next (e := .call (.create "opinion_macro" "b" "system" "") [] [.refused])
    hfirst True.intro rfl
  have hlater := Reaches.next (e := .pass 1800) hsecond True.intro rfl
  obtain ⟨mid,hinit,_,hnow,hforce⟩ := answers_are_recent (m := plainSetting) (fun _ => rfl) hlater
    [] [] "opinion_macro" ⟨"opinion_macro",1,"a","a",true,"system","",()⟩ rfl
  exact ⟨mid,hinit,hnow,hforce⟩

end Aqts.PromptVersions
