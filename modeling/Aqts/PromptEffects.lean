import Aqts.PromptVersions

/-!
# What the methods of the prompt manager can leave

Commands can be refused and answers can be lost between any two of them. A method leaves
one of a few collections, and it writes the cache only with the version that is active
then.
-/

namespace Aqts.PromptVersions

open DocumentStore ExpiringSlot RelatedJobs

variable {M : Type}

/-- A world with this collection, cache and time. -/
structure At (D : List (PromptVersion M)) (K : String→Slot (PromptVersion M) ℕ) (T : ℕ)
    (s : World M) : Prop where
  /-- The collection. -/
  docs : s.docs=D
  /-- The cache. -/
  cache : s.cache=K
  /-- The time. -/
  now : s.now=T

/-- The cache before and after `_set_cached`. -/
def Cached (K K' : String→Slot (PromptVersion M) ℕ) (T : ℕ) (t : String) (v : PromptVersion M) :
    Prop := K'=K ∨ K'=Function.update K (cacheKey t) (setEx T cacheTtl v)

variable {D : List (PromptVersion M)} {K : String→Slot (PromptVersion M) ℕ} {T : ℕ}

/-- A command of the database. If it raises, it may have taken effect. -/
theorem mongo_ensures {A : Type} (f : List (PromptVersion M)→A×List (PromptVersion M)) :
    Ensures (At D K T) (mongo f) (fun a s => a=(f D).1 ∧ At (f D).2 K T s)
      fun _ s => At D K T s ∨ At (f D).2 K T s := by
  rintro s ⟨rfl,rfl,rfl⟩
  unfold mongo
  cases s.mongo.headD .answered with
  | answered => exact ⟨rfl,rfl,rfl,rfl⟩
  | refused => exact .inl ⟨rfl,rfl,rfl⟩
  | lost => exact .inr ⟨rfl,rfl,rfl⟩

/-- A command that only reads. -/
theorem mongo_reads {A : Type} (f : List (PromptVersion M)→A) :
    Ensures (At D K T) (mongo fun docs => (f docs,docs)) (fun a s => a=f D ∧ At D K T s)
      fun _ s => At D K T s :=
  (mongo_ensures _).mono (fun _ h => h) (fun _ _ h => h) fun _ _ h => h.elim id id

/-- `_set_cached` raises nothing. -/
theorem setCached_ensures (t : String) (v : PromptVersion M) :
    Ensures (At D K T) (setCached t v) (fun _ s => ∃ K',Cached K K' T t v ∧ At D K' T s)
      fun _ _ => False := by
  rintro s ⟨rfl,rfl,rfl⟩
  unfold setCached
  cases s.redis.headD .answered with
  | answered => exact ⟨_,.inr rfl,rfl,rfl,rfl⟩
  | refused => exact ⟨_,.inl rfl,rfl,rfl,rfl⟩
  | lost => exact ⟨_,.inr rfl,rfl,rfl,rfl⟩

variable {hash : String→String}

/-- `_get_cached` gives a live entry or nothing. -/
theorem getCached_ensures (t : String) :
    Ensures (At D K T) (getCached hash t)
      (fun a s => (a=none ∨ a=(read T (K (cacheKey t))).map (docToVersion hash)) ∧ At D K T s)
      fun _ _ => False := by
  rintro s ⟨rfl,rfl,rfl⟩
  unfold getCached
  cases s.redis.headD .answered with
  | answered => exact ⟨.inr rfl,rfl,rfl,rfl⟩
  | refused => exact ⟨.inl rfl,rfl,rfl,rfl⟩
  | lost => exact ⟨.inl rfl,rfl,rfl,rfl⟩

/-- `get_active_prompt` leaves the collection. What it gives is a live entry of the cache,
or else the active version, which it caches. -/
theorem getActivePrompt_ensures (t : String) :
    Ensures (At D K T) (getActivePrompt hash t)
      (fun a s =>
        (∃ v,a=some v ∧ (read T (K (cacheKey t))).map (docToVersion hash)=some v ∧ At D K T s) ∨
        (D.find? (activeOf t)=none ∧ a=none ∧ At D K T s) ∨
        ∃ d K',D.find? (activeOf t)=some d ∧ a=some (docToVersion hash d) ∧
          Cached K K' T t (docToVersion hash d) ∧ At D K' T s)
      fun _ s => At D K T s := by
  refine ((getCached_ensures t).mono (fun _ h => h) (fun _ _ h => h) fun _ _ => False.elim).andThen
    fun cached => ?_
  cases cached with
  | some v =>
    apply Ensures.value
    rintro s ⟨hread,hs⟩
    exact .inl ⟨v,rfl,(hread.resolve_left nofun).symm,hs⟩
  | none =>
    refine Ensures.andThen ((mongo_reads _).mono (fun _ h => h.2) (fun _ _ h => h) fun _ _ h => h)
      fun found => ?_
    cases found with
    | none =>
      apply Ensures.value
      rintro s ⟨hfind,hs⟩
      exact .inr (.inl ⟨hfind.symm,rfl,hs⟩)
    | some d =>
      apply Ensures.assume
      intro hfind
      refine Ensures.andThen ((setCached_ensures t _).mono (fun _ h => h) (fun _ _ h => h)
        fun _ _ => False.elim) fun _ => ?_
      apply Ensures.value
      rintro s ⟨K',hK',hs⟩
      exact .inr (.inr ⟨d,K',hfind.symm,rfl,hK',hs⟩)

/-- The selection of `create_version` for a content that is stored already. -/
def sameContent (hash : String→String) (t content : String) (d : PromptVersion M) : Bool :=
  ofType t d && decide (d.contentHash=hash content)

variable {noMetrics : M}

/-- The version that `create_version` stores in a collection. -/
def created (hash : String→String) (noMetrics : M) (t content author note : String)
    (D : List (PromptVersion M)) : PromptVersion M :=
  newVersion hash noMetrics t content author note (latest (D.filter (ofType t)))

/-- What `create_version` gives and leaves. -/
theorem createVersion_ensures (t content author note : String) :
    Ensures (At D K T) (createVersion hash noMetrics t content author note)
      (fun v s => t∈promptTypes ∧
        ((∃ d,D.find? (sameContent hash t content)=some d ∧ v=docToVersion hash d ∧ At D K T s) ∨
        (D.find? (sameContent hash t content)=none ∧
          v=created hash noMetrics t content author note D ∧
          ∃ K',Cached K K' T t v ∧ At ((deactivation t).many D++[v]) K' T s)))
      (fun _ s => At D K T s ∨ (t∈promptTypes ∧ D.find? (sameContent hash t content)=none ∧
        (At ((deactivation t).many D) K T s ∨
        ∃ K',Cached K K' T t (created hash noMetrics t content author note D) ∧
          At ((deactivation t).many D++[created hash noMetrics t content author note D]) K' T s))) := by
  unfold createVersion
  split
  · exact Ensures.raise fun _ hs => .inl hs
  rename_i htype
  rw [not_not] at htype
  refine Ensures.andThen ((mongo_reads _).mono (fun _ h => h) (fun _ _ h => h) fun _ _ => .inl)
    fun found => ?_
  apply Ensures.assume
  rintro hfind
  cases found with
  | some d =>
    apply Ensures.value
    exact fun s hs => ⟨htype,.inl ⟨d,hfind.symm,rfl,hs⟩⟩
  | none =>
    refine Ensures.andThen ((mongo_reads _).mono (fun _ h => h) (fun _ _ h => h) fun _ _ => .inl)
      fun latest => ?_
    apply Ensures.assume
    rintro rfl
    -- from here on an exception leaves a later collection
    refine Ensures.andThen ((mongo_ensures _).mono (fun _ h => h) (fun _ _ h => h.2) ?_) fun _ => ?_
    · rintro _ s (hs | hs)
      · exact .inl hs
      · exact .inr ⟨htype,hfind.symm,.inl hs⟩
    refine Ensures.andThen ((mongo_ensures _).mono (fun _ h => h) (fun _ _ h => h.2) ?_) fun _ => ?_
    · rintro _ s (hs | hs)
      · exact .inr ⟨htype,hfind.symm,.inl hs⟩
      · exact .inr ⟨htype,hfind.symm,.inr ⟨K,.inl rfl,hs⟩⟩
    refine Ensures.andThen ((setCached_ensures t _).mono (fun _ h => h) (fun _ _ h => h)
      fun _ _ => False.elim) fun _ => ?_
    rintro s ⟨K',hK',hs⟩
    revert s
    refine Ensures.andThen ((mongo_reads _).mono (fun _ h => h) (fun _ _ h => h.2)
      fun _ _ hs => .inr ⟨htype,hfind.symm,.inr ⟨K',hK',hs⟩⟩) fun _ => ?_
    refine Ensures.andThen ((mongo_reads _).mono (fun _ h => h) (fun _ _ h => h.2)
      fun _ _ hs => .inr ⟨htype,hfind.symm,.inr ⟨K',hK',hs⟩⟩) fun _ => ?_
    exact Ensures.value fun s hs => ⟨htype,.inr ⟨hfind.symm,rfl,K',hK',hs⟩⟩

/-- What `rollback` gives and leaves. -/
theorem rollback_ensures (t : String) (target : ℤ) :
    Ensures (At D K T) (rollback hash t target)
      (fun v s => ∃ d K',D.find? (versionOf t target)=some d ∧
        v=docToVersion hash {d with isActive := true} ∧ Cached K K' T t v ∧
        At ((activation t target).one ((deactivation t).many D)) K' T s)
      (fun _ s => At D K T s ∨ ∃ d,D.find? (versionOf t target)=some d ∧
        (At ((deactivation t).many D) K T s ∨
        At ((activation t target).one ((deactivation t).many D)) K T s)) := by
  refine Ensures.andThen ((mongo_reads _).mono (fun _ h => h) (fun _ _ h => h) fun _ _ => .inl)
    fun found => ?_
  apply Ensures.assume
  rintro hfind
  cases found with
  | none => exact Ensures.raise fun _ hs => .inl hs
  | some d =>
    refine Ensures.andThen ((mongo_ensures _).mono (fun _ h => h) (fun _ _ h => h.2) ?_) fun _ => ?_
    · rintro _ s (hs | hs)
      · exact .inl hs
      · exact .inr ⟨d,hfind.symm,.inl hs⟩
    refine Ensures.andThen ((mongo_ensures _).mono (fun _ h => h) (fun _ _ h => h.2) ?_) fun _ => ?_
    · rintro _ s (hs | hs)
      · exact .inr ⟨d,hfind.symm,.inl hs⟩
      · exact .inr ⟨d,hfind.symm,.inr hs⟩
    refine Ensures.andThen ((setCached_ensures t _).mono (fun _ h => h) (fun _ _ h => h)
      fun _ _ => False.elim) fun _ => ?_
    apply Ensures.value
    rintro s ⟨K',hK',hs⟩
    exact ⟨d,K',hfind.symm,rfl,hK',hs⟩

/-- What `get_version_history` gives. -/
theorem getVersionHistory_ensures (t : String) (limit : ℕ) :
    Ensures (At D K T) (getVersionHistory hash t limit)
      (fun versions s => versions=(((D.filter (ofType t)).mergeSort
        fun d e => decide (e.version≤d.version)).take limit).map (docToVersion hash) ∧ At D K T s)
      fun _ s => At D K T s := by
  refine Ensures.andThen (mongo_reads _) fun docs => Ensures.value ?_
  rintro s ⟨rfl,hs⟩
  exact ⟨rfl,hs⟩

section Answering

variable {t : String}

/-- A world in which every command answers. -/
def answering (D : List (PromptVersion M)) (K : String→Slot (PromptVersion M) ℕ) (T : ℕ) : World M :=
  ⟨D,K,T,[],[]⟩

/-- The cache with a version. -/
def cacheWith (K : String→Slot (PromptVersion M) ℕ) (T : ℕ) (t : String) (v : PromptVersion M) :
    String→Slot (PromptVersion M) ℕ :=
  Function.update K (cacheKey t) (setEx T cacheTtl v)

/-- A command of the database that answers. -/
theorem mongo_answering {A : Type} (f : List (PromptVersion M)→A×List (PromptVersion M)) :
    mongo f (answering D K T)=(.ok (f D).1,answering (f D).2 K T) := rfl

/-- `_set_cached` with an answer. -/
theorem setCached_answering (v : PromptVersion M) :
    setCached t v (answering D K T)=(.ok (),answering D (cacheWith K T t v) T) := rfl

/-- `_get_cached` with an answer. -/
theorem getCached_answering {found : Option (PromptVersion M)} (h : read T (K (cacheKey t))=found) :
    getCached hash t (answering D K T)=(.ok (found.map (docToVersion hash)),answering D K T) := by
  rw [← h]
  rfl

/-- `find_one` with an answer. -/
theorem findOne_answering {q : PromptVersion M→Bool} {found : Option (PromptVersion M)}
    (h : D.find? q=found) : findOne q (answering D K T)=(.ok found,answering D K T) := by
  rw [← h]
  rfl

/-- `get_active_prompt` with a live entry. -/
theorem getActivePrompt_hit {v : PromptVersion M} (hread : read T (K (cacheKey t))=some v) :
    getActivePrompt hash t (answering D K T)=
      (.ok (some (docToVersion hash v)),answering D K T) := by
  unfold getActivePrompt
  exact Job.andThen_ok (getCached_answering hread)

/-- `get_active_prompt` without one and without an active version. -/
theorem getActivePrompt_none (hread : read T (K (cacheKey t))=none)
    (hfind : D.find? (activeOf t)=none) :
    getActivePrompt hash t (answering D K T)=(.ok none,answering D K T) := by
  unfold getActivePrompt
  refine (Job.andThen_ok (getCached_answering hread)).trans ?_
  exact Job.andThen_ok (findOne_answering hfind)

/-- `get_active_prompt` without one and with an active version, which it caches. -/
theorem getActivePrompt_miss {d : PromptVersion M} (hread : read T (K (cacheKey t))=none)
    (hfind : D.find? (activeOf t)=some d) :
    getActivePrompt hash t (answering D K T)=
      (.ok (some (docToVersion hash d)),answering D (cacheWith K T t (docToVersion hash d)) T) := by
  unfold getActivePrompt
  refine (Job.andThen_ok (getCached_answering hread)).trans ?_
  refine (Job.andThen_ok (findOne_answering hfind)).trans ?_
  exact Job.andThen_ok (setCached_answering _)

variable {content author note : String}

/-- `create_version` for an unknown type. -/
theorem createVersion_invalid (htype : t∉promptTypes) :
    createVersion hash noMetrics t content author note (answering D K T)=
      (.error (.invalidType t),answering D K T) := by
  unfold createVersion
  rw [if_pos htype]
  rfl

/-- `create_version` of a content that is stored already. -/
theorem createVersion_same {d : PromptVersion M} (htype : t∈promptTypes)
    (hfind : D.find? (sameContent hash t content)=some d) :
    createVersion hash noMetrics t content author note (answering D K T)=
      (.ok (docToVersion hash d),answering D K T) := by
  unfold createVersion
  rw [if_neg (not_not.mpr htype)]
  exact Job.andThen_ok (findOne_answering hfind)

/-- `create_version` of a new content. -/
theorem createVersion_new (htype : t∈promptTypes)
    (hfind : D.find? (sameContent hash t content)=none) :
    createVersion hash noMetrics t content author note (answering D K T)=
      (.ok (created hash noMetrics t content author note D),
        answering ((deactivation t).many D++[created hash noMetrics t content author note D])
          (cacheWith K T t (created hash noMetrics t content author note D)) T) := by
  unfold createVersion
  rw [if_neg (not_not.mpr htype)]
  refine (Job.andThen_ok (findOne_answering hfind)).trans ?_
  refine (Job.andThen_ok (mongo_answering _)).trans ?_
  refine (Job.andThen_ok (mongo_answering _)).trans ?_
  refine (Job.andThen_ok (mongo_answering _)).trans ?_
  refine (Job.andThen_ok (setCached_answering _)).trans ?_
  refine (Job.andThen_ok (mongo_answering _)).trans ?_
  exact Job.andThen_ok (mongo_answering _)

/-- `rollback` to an unknown version. -/
theorem rollback_unknown {target : ℤ} (hfind : D.find? (versionOf t target)=none) :
    rollback hash t target (answering D K T)=(.error (.notFound target t),answering D K T) := by
  unfold rollback
  exact Job.andThen_ok (findOne_answering hfind)

/-- `rollback` to a stored version. -/
theorem rollback_known {target : ℤ} {d : PromptVersion M}
    (hfind : D.find? (versionOf t target)=some d) :
    rollback hash t target (answering D K T)=(.ok (docToVersion hash {d with isActive := true}),
      answering ((activation t target).one ((deactivation t).many D))
        (cacheWith K T t (docToVersion hash {d with isActive := true})) T) := by
  unfold rollback
  refine (Job.andThen_ok (findOne_answering hfind)).trans ?_
  refine (Job.andThen_ok (mongo_answering _)).trans ?_
  refine (Job.andThen_ok (mongo_answering _)).trans ?_
  exact Job.andThen_ok (setCached_answering _)

end Answering

end Aqts.PromptVersions
