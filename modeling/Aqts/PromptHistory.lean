import Aqts.PromptRuns
import Aqts.VersionJournal

/-!
# The collection of prompt versions is a journal for each type

The documents of one type, in the order in which they were stored, are numbered from one,
their hashes differ, and at most one of them is active: they are the rows of a journal.
Every method, whatever fails in it, moves the journals by their own steps.
-/

namespace Aqts.PromptVersions

open DocumentStore ExpiringSlot GuardedRuns RelatedJobs VersionJournal

variable {M : Type} {hash : String→String} {noMetrics : M}

/-- Documents are the rows of a journal. -/
structure Agrees (rows : List (PromptVersion M)) (J : Journal hash) : Prop where
  /-- One row for each content. -/
  length : rows.length=J.contents.length
  /-- Rows have their number, content and hash, and the one in force is active. -/
  row : ∀ (i : ℕ) (d : PromptVersion M),rows[i]?=some d→d.version=(i : ℤ)+1 ∧
    d.contentHash=hash d.content ∧ J.contents[i]?=some d.content ∧
    (d.isActive=true ↔ J.active=some i)

/-- The documents of every type are the rows of its journal. -/
def Represents (D : List (PromptVersion M)) (Js : String→Journal hash) : Prop :=
  ∀ t,Agrees (D.filter (ofType t)) (Js t)

variable {rows D : List (PromptVersion M)} {J : Journal hash} {Js : String→Journal hash}
  {t : String}

namespace Agrees

/-- A content has a row. -/
theorem exists_row (h : Agrees rows J) {i : ℕ} (hi : i< J.contents.length) :
    ∃ d,rows[i]?=some d := by
  rw [← h.length] at hi
  exact ⟨_,List.getElem?_eq_getElem hi⟩

/-- The next number. -/
theorem next_version (h : Agrees rows J) :
    (match latest rows with
      | some d => d.version+1
      | none => 1)=(J.contents.length : ℤ)+1 := by
  cases hmax : latest rows with
  | none =>
    have hnil : rows=[] := List.argmax_eq_none.mp hmax
    rw [← h.length,hnil]
    rfl
  | some d =>
    have hmem : d∈rows := List.argmax_mem hmax
    obtain ⟨i,hi⟩ := List.mem_iff_getElem?.mp hmem
    have hlt : i< rows.length := (List.getElem?_eq_some_iff.mp hi).1
    obtain ⟨hversion,-⟩ := h.row i d hi
    -- the last row has the greatest number
    have hlast := List.getElem?_eq_getElem (Nat.sub_one_lt_of_lt hlt)
    obtain ⟨hgreatest,-⟩ := h.row _ _ hlast
    have hle := List.le_of_mem_argmax (List.mem_of_getElem? hlast) hmax
    rw [hgreatest] at hle
    show d.version+1=_
    rw [← h.length]
    omega

/-- A stored hash. -/
theorem mem_hashes (h : Agrees rows J) {x : String} :
    x∈J.contents.map hash ↔ ∃ d∈rows,d.contentHash=x := by
  constructor
  · intro hx
    obtain ⟨c,hc,rfl⟩ := List.mem_map.mp hx
    obtain ⟨i,hi⟩ := List.mem_iff_getElem?.mp hc
    obtain ⟨d,hd⟩ := h.exists_row (List.getElem?_eq_some_iff.mp hi).1
    obtain ⟨-,hhash,hcontent,-⟩ := h.row i d hd
    rw [hi] at hcontent
    cases hcontent
    exact ⟨d,List.mem_of_getElem? hd,hhash⟩
  · rintro ⟨d,hd,rfl⟩
    obtain ⟨i,hi⟩ := List.mem_iff_getElem?.mp hd
    obtain ⟨-,hhash,hcontent,-⟩ := h.row i d hi
    rw [hhash]
    exact List.mem_map_of_mem (List.mem_of_getElem? hcontent)

/-- The journal is without a version in force if no row is active. -/
theorem active_none (h : Agrees rows J) : J.active=none ↔ ∀ d∈rows,d.isActive=false := by
  constructor
  · intro hnone d hd
    obtain ⟨i,hi⟩ := List.mem_iff_getElem?.mp hd
    obtain ⟨-,-,-,hactive⟩ := h.row i d hi
    rw [hnone] at hactive
    exact Bool.eq_false_iff.mpr fun ha => nomatch hactive.mp ha
  · intro hall
    cases hactive : J.active with
    | none => rfl
    | some i =>
      obtain ⟨d,hd⟩ := h.exists_row (J.active_lt i hactive)
      have hrow := (h.row i d hd).2.2.2.mpr hactive
      rw [hall d (List.mem_of_getElem? hd)] at hrow
      cases hrow

/-- Active versions are taken back. -/
theorem deactivate (h : Agrees rows J) (htype : ∀ d∈rows,ofType t d=true) :
    Agrees ((deactivation t).many rows) J.deactivate := by
  refine ⟨(List.length_map _).trans h.length,?_⟩
  intro i d hd
  unfold Update.many at hd
  rw [List.getElem?_map] at hd
  obtain ⟨e,he,rfl⟩ := Option.map_eq_some_iff.mp hd
  obtain ⟨hversion,hhash,hcontent,-⟩ := h.row i e he
  have htype := htype e (List.mem_of_getElem? he)
  by_cases hselected : activeOf t e=true
  · rw [Update.onDoc_pos hselected]
    exact ⟨hversion,hhash,hcontent,⟨nofun,nofun⟩⟩
  · rw [Update.onDoc_neg hselected]
    refine ⟨hversion,hhash,hcontent,⟨?_,nofun⟩⟩
    intro hactive
    unfold activeOf at hselected
    rw [htype,hactive] at hselected
    exact absurd rfl hselected

/-- A new row, where none is active. -/
theorem append (h : Agrees rows J) (hnone : J.active=none) {v : PromptVersion M}
    (hversion : v.version=(J.contents.length : ℤ)+1) (hhash : v.contentHash=hash v.content)
    (hactive : v.isActive=true) (hnew : hash v.content∉J.contents.map hash) :
    Agrees (rows++[v]) (J.append v.content hnew) := by
  refine ⟨?_,?_⟩
  · show (rows++[v]).length=(J.contents++[v.content]).length
    rw [List.length_append,List.length_append,h.length]
    rfl
  intro i d hd
  by_cases hi : i< rows.length
  · rw [List.getElem?_append_left hi] at hd
    obtain ⟨hv,hh,hcontent,ha⟩ := h.row i d hd
    refine ⟨hv,hh,?_,?_⟩
    · show (J.contents++[v.content])[i]?=some d.content
      rw [List.getElem?_append_left (h.length ▸ hi)]
      exact hcontent
    · rw [hnone] at ha
      show d.isActive=true ↔ some J.contents.length=some i
      refine ⟨fun hd => (nomatch ha.mp hd),fun hlast => ?_⟩
      cases hlast
      exact absurd hi (h.length ▸ Nat.lt_irrefl _)
  · have hlt := (List.getElem?_eq_some_iff.mp hd).1
    rw [List.length_append,List.length_singleton] at hlt
    have hlast : i=J.contents.length := by
      rw [← h.length]
      omega
    subst hlast
    rw [← h.length,List.getElem?_concat_length] at hd
    cases hd
    refine ⟨hversion,hhash,List.getElem?_concat_length,?_⟩
    exact ⟨fun _ => rfl,fun _ => hactive⟩

/-- A row becomes active, where none is. -/
theorem activate (h : Agrees rows J) (hnone : J.active=none) (htype : ∀ d∈rows,ofType t d=true)
    {i : ℕ} (hi : i< J.contents.length) :
    Agrees ((activation t ((i : ℤ)+1)).one rows) (J.activate i hi) := by
  obtain ⟨d,hd⟩ := h.exists_row hi
  have hselects : ∀ j e,rows[j]?=some e→(activation t ((i : ℤ)+1)).filter e=true→j=i := by
    intro j e he hselected
    have hboth : (ofType t e && decide (e.version=(i : ℤ)+1))=true := hselected
    rw [Bool.and_eq_true,decide_eq_true_eq,(h.row j e he).1] at hboth
    omega
  have hselected : (activation t ((i : ℤ)+1)).filter d=true := by
    show (ofType t d && decide (d.version=(i : ℤ)+1))=true
    rw [htype d (List.mem_of_getElem? hd),(h.row i d hd).1,decide_eq_true rfl]
    rfl
  rw [Update.one_eq_set hd hselects,Update.onDoc_pos hselected]
  refine ⟨(List.length_set ..).trans h.length,?_⟩
  intro j e he
  by_cases hji : j=i
  · subst hji
    rw [List.getElem?_set_self (List.getElem?_eq_some_iff.mp hd).1] at he
    cases he
    obtain ⟨hversion,hhash,hcontent,-⟩ := h.row j d hd
    exact ⟨hversion,hhash,hcontent,fun _ => rfl,fun _ => rfl⟩
  · rw [List.getElem?_set_ne fun hn => hji hn.symm] at he
    obtain ⟨hversion,hhash,hcontent,hactive⟩ := h.row j e he
    refine ⟨hversion,hhash,hcontent,?_⟩
    rw [hnone] at hactive
    show e.isActive=true ↔ some i=some j
    exact ⟨fun ha => (nomatch hactive.mp ha),fun hij => absurd (Option.some.inj hij).symm hji⟩

end Agrees

namespace Represents

/-- Rows of a type. -/
theorem ofType_rows : ∀ d∈D.filter (ofType t),ofType t d=true :=
  fun _ hd => (List.mem_filter.mp hd).2

/-- No documents. -/
theorem empty : Represents ([] : List (PromptVersion M)) fun _ => (Journal.empty : Journal hash) :=
  fun _ => ⟨rfl,nofun⟩

/-- Documents with the rows of a type replaced. -/
theorem update {D' : List (PromptVersion M)} {J' : Journal hash} (h : Represents D Js)
    (hself : Agrees (D'.filter (ofType t)) J')
    (hother : ∀ u,u≠t→D'.filter (ofType u)=D.filter (ofType u)) :
    Represents D' (Function.update Js t J') := by
  intro u
  by_cases hu : u=t
  · subst hu
    rw [Function.update_self]
    exact hself
  · rw [Function.update_of_ne hu,hother u hu]
    exact h u

/-- Documents of other types are not selected. -/
theorem other_type {u : String} (hne : u≠t) {d : PromptVersion M} (h : ofType t d=true) :
    ofType u d=false := by
  unfold ofType at *
  rw [decide_eq_true_eq] at h
  exact decide_eq_false fun hu => hne (hu.symm.trans h)

/-- The active versions of a type are taken back. -/
theorem deactivate (h : Represents D Js) (t : String) :
    Represents ((deactivation t).many D) (Function.update Js t (Js t).deactivate) := by
  apply h.update
  · rw [Update.many_part fun _ _ => rfl]
    exact (h t).deactivate ofType_rows
  · intro u hu
    refine Update.many_other (fun _ _ => rfl) (fun d hd => other_type hu ?_) D
    have hboth : (ofType t d && d.isActive)=true := hd
    rw [Bool.and_eq_true] at hboth
    exact hboth.1

/-- A new version. -/
theorem append (h : Represents D Js) (hnone : (Js t).active=none) {v : PromptVersion M}
    (htype : v.promptType=t) (hversion : v.version=((Js t).contents.length : ℤ)+1)
    (hhash : v.contentHash=hash v.content) (hactive : v.isActive=true)
    (hnew : hash v.content∉(Js t).contents.map hash) :
    Represents (D++[v]) (Function.update Js t ((Js t).append v.content hnew)) := by
  have hv : ofType t v=true := decide_eq_true htype
  apply h.update
  · rw [List.filter_append,List.filter_singleton,hv]
    exact (h t).append hnone hversion hhash hactive hnew
  · intro u hu
    rw [List.filter_append,List.filter_singleton,other_type hu hv]
    exact List.append_nil _

/-- A stored version becomes active. -/
theorem activate (h : Represents D Js) (hnone : (Js t).active=none) {i : ℕ}
    (hi : i< (Js t).contents.length) :
    Represents ((activation t ((i : ℤ)+1)).one D)
      (Function.update Js t ((Js t).activate i hi)) := by
  have hselects : ∀ d : PromptVersion M,(activation t ((i : ℤ)+1)).filter d=true→ ofType t d=true := by
    intro d hd
    have hboth : (ofType t d && decide (d.version=(i : ℤ)+1))=true := hd
    rw [Bool.and_eq_true] at hboth
    exact hboth.1
  apply h.update
  · rw [Update.one_part hselects hselects]
    exact (h t).activate hnone ofType_rows hi
  · intro u hu
    exact Update.one_other (fun d hd => other_type hu (hselects d hd))
      (fun d hd => other_type hu (hselects d hd)) D

/-- `create_version` finds the content if its hash is stored. -/
theorem find_sameContent (h : Represents D Js) {content : String} :
    D.find? (sameContent hash t content)=none ↔ hash content∉(Js t).contents.map hash := by
  have hpart : ∀ d : PromptVersion M,sameContent hash t content d=true→ ofType t d=true := by
    intro d hd
    unfold sameContent at hd
    rw [Bool.and_eq_true] at hd
    exact hd.1
  rw [← find?_part hpart,List.find?_eq_none,(h t).mem_hashes,not_exists]
  apply forall_congr'
  intro d
  rw [not_and]
  apply imp_congr_right
  intro hd
  unfold sameContent
  rw [ofType_rows d hd,Bool.true_and,decide_eq_true_eq]

/-- No version is active. -/
theorem find_active (h : Represents D Js) :
    D.find? (activeOf t)=none ↔ (Js t).active=none := by
  have hpart : ∀ d : PromptVersion M,activeOf t d=true→ ofType t d=true := by
    intro d hd
    unfold activeOf at hd
    rw [Bool.and_eq_true] at hd
    exact hd.1
  rw [← find?_part hpart,List.find?_eq_none,(h t).active_none]
  apply forall_congr'
  intro d
  apply imp_congr_right
  intro hd
  unfold activeOf
  rw [ofType_rows d hd,Bool.true_and]
  exact Bool.not_eq_true _ ▸ Iff.rfl

/-- A version that `rollback` finds. -/
theorem find_version (h : Represents D Js) {target : ℤ} {d : PromptVersion M}
    (hfind : D.find? (versionOf t target)=some d) :
    ∃ i,i< (Js t).contents.length ∧ target=(i : ℤ)+1 := by
  have hselected := List.find?_some hfind
  unfold versionOf at hselected
  rw [Bool.and_eq_true,decide_eq_true_eq] at hselected
  obtain ⟨htype,rfl⟩ := hselected
  obtain ⟨i,hi⟩ := List.mem_iff_getElem?.mp
    (List.mem_filter.mpr ⟨List.mem_of_find?_eq_some hfind,htype⟩)
  have hlt := (List.getElem?_eq_some_iff.mp hi).1
  rw [(h t).length] at hlt
  exact ⟨i,hlt,((h t).row i d hi).1⟩

end Represents

variable {content author note : String}

/-- What `create_version` stores after a version in force is taken back. -/
theorem Represents.added (h : Represents D Js)
    (hnew : hash content∉(Js t).contents.map hash) :
    Represents ((deactivation t).many D++[created hash noMetrics t content author note D])
      (Function.update Js t ((Js t).append content hnew)) := by
  have hdown := h.deactivate t
  have hself : Function.update Js t (Js t).deactivate t=(Js t).deactivate := Function.update_self ..
  have hup := hdown.append (t := t) (v := created hash noMetrics t content author note D)
    (by rw [hself]; rfl) rfl (by rw [hself]; exact (h t).next_version) rfl rfl
    (by rw [hself]; exact hnew)
  rw [Function.update_idem] at hup
  simp only [hself] at hup
  exact hup

/-- What `rollback` makes active after a version in force is taken back. -/
theorem Represents.rolledBack (h : Represents D Js) {i : ℕ} (hi : i< (Js t).contents.length) :
    Represents ((activation t ((i : ℤ)+1)).one ((deactivation t).many D))
      (Function.update Js t ((Js t).activate i hi)) := by
  have hdown := h.deactivate t
  have hself : Function.update Js t (Js t).deactivate t=(Js t).deactivate := Function.update_self ..
  have hup := hdown.activate (t := t) (by rw [hself]; rfl) (i := i) (by rw [hself]; exact hi)
  rw [Function.update_idem] at hup
  simp only [hself] at hup
  exact hup

/-- Every journal has moved by its own steps. -/
def Moved (Js Js' : String→Journal hash) : Prop := ∀ t,Journal.Steps (Js t) (Js' t)

/-- The journal of one type has moved. -/
theorem Moved.one {J' : Journal hash} (h : Journal.Steps (Js t) J') :
    Moved Js (Function.update Js t J') := by
  intro u
  by_cases hu : u=t
  · subst hu
    rw [Function.update_self]
    exact h
  · rw [Function.update_of_ne hu]
    exact Relation.ReflTransGen.refl

/-- The documents are those of journals that have moved. -/
def Moving (Js : String→Journal hash) (s : World M) : Prop :=
  ∃ Js',Represents s.docs Js' ∧ Moved Js Js'

/-- A job moves journals if it does so from the journals themselves. -/
theorem moving_of {A : Type} {j : Method M A}
    (h : ∀ s (Js : String→Journal hash),Represents s.docs Js→Moving Js (j s).2)
    (Js : String→Journal hash) :
    Ensures (Moving Js) j (fun _ => Moving Js) fun _ => Moving Js := by
  rintro s ⟨Js',hrep,hmoved⟩
  obtain ⟨Js'',hrep',hmoved'⟩ := h s Js' hrep
  have hdone : Moving Js (j s).2 := ⟨Js'',hrep',fun t => (hmoved t).trans (hmoved' t)⟩
  rcases hj : j s with ⟨_ | a,s'⟩
  · rw [hj] at hdone
    exact hdone
  · rw [hj] at hdone
    exact hdone

variable {s s' : World M}

/-- The collection is left. -/
theorem Moving.same (h : Represents s.docs Js) (hs : s'.docs=s.docs) : Moving Js s' := by
  rw [← hs] at h
  exact ⟨Js,h,fun _ => Relation.ReflTransGen.refl⟩

/-- The active versions of a type have been taken back. -/
theorem Moving.down (h : Represents s.docs Js) (hs : s'.docs=(deactivation t).many s.docs) :
    Moving Js s' := by
  have hdown := h.deactivate t
  rw [← hs] at hdown
  exact ⟨_,hdown,Moved.one (Relation.ReflTransGen.single (.deactivate _))⟩

/-- `get_active_prompt` leaves the collection. -/
theorem getActivePrompt_moves (t : String) (s : World M) (Js : String→Journal hash)
    (h : Represents s.docs Js) : Moving Js (getActivePrompt hash t s).2 := by
  refine (getActivePrompt_ensures t).leaves ⟨rfl,rfl,rfl⟩ ?_ fun _ s' hs => Moving.same h hs.docs
  rintro _ s' (⟨_,_,_,hs⟩ | ⟨_,_,hs⟩ | ⟨_,_,_,_,_,hs⟩)
  · exact Moving.same h hs.docs
  · exact Moving.same h hs.docs
  · exact Moving.same h hs.docs

/-- `create_version` may add a version. -/
theorem createVersion_moves (t content author note : String) (s : World M)
    (Js : String→Journal hash) (h : Represents s.docs Js) :
    Moving Js (createVersion hash noMetrics t content author note s).2 := by
  have hadded : s.docs.find? (sameContent hash t content)=none→∀ s' : World M,
      s'.docs=(deactivation t).many s.docs++[created hash noMetrics t content author note s.docs]→
      Moving Js s' := by
    intro hfind s' hs
    have hnew := h.find_sameContent.mp hfind
    have hcreated : Represents ((deactivation t).many s.docs++
        [created hash noMetrics t content author note s.docs]) _ := h.added hnew
    rw [← hs] at hcreated
    exact ⟨_,hcreated,Moved.one (.append hnew)⟩
  refine (createVersion_ensures t content author note).leaves ⟨rfl,rfl,rfl⟩ ?_ ?_
  · rintro _ s' ⟨_,⟨_,_,_,hs⟩ | ⟨hfind,rfl,_,_,hs⟩⟩
    · exact Moving.same h hs.docs
    · exact hadded hfind s' hs.docs
  · rintro _ s' (hs | ⟨_,hfind,hs | ⟨_,_,hs⟩⟩)
    · exact Moving.same h hs.docs
    · exact Moving.down h hs.docs
    · exact hadded hfind s' hs.docs

/-- `rollback` may bring an old version into force. -/
theorem rollback_moves (t : String) (target : ℤ) (s : World M) (Js : String→Journal hash)
    (h : Represents s.docs Js) : Moving Js (rollback hash t target s).2 := by
  have hback : ∀ d,s.docs.find? (versionOf t target)=some d→∀ s' : World M,
      s'.docs=(activation t target).one ((deactivation t).many s.docs)→Moving Js s' := by
    intro d hfind s' hs
    obtain ⟨i,hi,rfl⟩ := h.find_version hfind
    have hrolled := h.rolledBack hi
    rw [← hs] at hrolled
    exact ⟨_,hrolled,Moved.one (.activate hi)⟩
  refine (rollback_ensures t target).leaves ⟨rfl,rfl,rfl⟩ ?_ ?_
  · rintro _ s' ⟨d,_,hfind,_,_,hs⟩
    exact hback d hfind s' hs.docs
  · rintro _ s' (hs | ⟨d,hfind,hs | hs⟩)
    · exact Moving.same h hs.docs
    · exact Moving.down h hs.docs
    · exact hback d hfind s' hs.docs

/-- `update_metrics` changes no row. -/
theorem updateMetrics_moves (merge : M→M→M) (t : String) (n : ℤ) (metrics : M) (s : World M)
    (Js : String→Journal hash) (h : Represents s.docs Js) :
    Moving Js (updateMetrics merge t n metrics s).2 := by
  have hrows : ∀ {rows : List (PromptVersion M)} {J : Journal hash},Agrees rows J→
      Agrees (Update.one ⟨versionOf t n,fun d => {d with metrics := merge d.metrics metrics}⟩ rows)
        J := by
    intro rows J hrows
    refine ⟨Update.length_one.trans hrows.length,?_⟩
    intro i e he
    obtain ⟨d,hd,rfl | rfl⟩ := Update.one_row he
    · exact hrows.row i e hd
    · exact hrows.row i d hd
  have hset : ∀ s' : World M,s'.docs=Update.one
      ⟨versionOf t n,fun d => {d with metrics := merge d.metrics metrics}⟩ s.docs→Moving Js s' := by
    intro s' hs
    refine ⟨Js,?_,fun _ => Relation.ReflTransGen.refl⟩
    have htype : ∀ d : PromptVersion M,versionOf t n d=true→ ofType t d=true := by
      intro d hd
      unfold versionOf at hd
      rw [Bool.and_eq_true] at hd
      exact hd.1
    intro u
    rw [hs]
    by_cases hu : u=t
    · subst hu
      rw [Update.one_part htype htype]
      exact hrows (h u)
    · rw [Update.one_other (fun d hd => Represents.other_type hu (htype d hd))
        (fun d hd => Represents.other_type hu (htype d hd))]
      exact h u
  refine (mongo_ensures _).leaves ⟨rfl,rfl,rfl⟩ (fun _ s' hs => hset s' hs.2.docs) ?_
  rintro _ s' (hs | hs)
  · exact Moving.same h hs.docs
  · exact hset s' hs.docs

variable {m : Setting M}

/-- Every method moves the journals. -/
theorem call_moves (method : Call M) (s : World M) (Js : String→Journal m.hash)
    (h : Represents s.docs Js) : Moving Js (method.leaves m s) := by
  cases method with
  | getActive t => exact getActivePrompt_moves t s Js h
  | create t content author note => exact createVersion_moves t content author note s Js h
  | rollback t target => exact rollback_moves t target s Js h
  | history t limit =>
    exact (getVersionHistory_ensures t limit).leaves ⟨rfl,rfl,rfl⟩
      (fun _ _ hs => Moving.same h hs.2.docs) fun _ _ hs => Moving.same h hs.docs
  | metrics t n values => exact updateMetrics_moves m.merge t n values s Js h
  | defaults =>
    have hone : ∀ created,∀ d∈m.defaults,
        Ensures (Moving Js) (initializeDefault m.hash m.noMetrics created d) (fun _ => Moving Js)
          fun _ => Moving Js := by
      intro created d _
      refine (moving_of (getActivePrompt_moves d.1) Js).andThen fun found => ?_
      cases found with
      | some v => exact Ensures.value fun _ hs => hs
      | none =>
        exact (moving_of (createVersion_moves d.1 d.2 _ _) Js).andThen fun _ =>
          Ensures.value fun _ hs => hs
    exact (Ensures.each (I := fun _ => Moving Js) m.defaults 0 hone).leaves
      ⟨Js,h,fun _ => Relation.ReflTransGen.refl⟩ (fun _ _ hs => hs) fun _ _ hs => hs

/-- Whatever fails and however the calls follow each other, the documents of every type stay
the rows of a journal, which moves by its own steps: the versions are numbered without a gap,
no two of them have the same hash, no content changes or disappears, and no two versions are
active. -/
theorem histories_are_journals {init : World M} (hempty : init.docs=[])
    (h : Reaches (step m) (fun _ _ => True) init s)
    (h' : Reaches (step m) (fun _ _ => True) s s') :
    ∃ Js Js' : String→Journal m.hash,Represents s.docs Js ∧ Represents s'.docs Js' ∧
      Moved (fun _ => Journal.empty) Js ∧ Moved Js Js' ∧
      ∀ t,(Js t).contents <+: (Js' t).contents := by
  have hrun : ∀ {s s' : World M} (Js : String→Journal m.hash),Represents s.docs Js→
      Reaches (step m) (fun _ _ => True) s s'→Moving Js s' := by
    intro s s' Js hrep h
    refine h.invariant (P := Moving Js) ⟨Js,hrep,fun _ => Relation.ReflTransGen.refl⟩ ?_
    rintro s event s' _ ⟨Js',hrep',hmoved⟩ _ hstep
    cases event with
    | pass seconds =>
      cases hstep
      exact ⟨Js',hrep',hmoved⟩
    | call method mongo redis =>
      cases hstep
      obtain ⟨Js'',hrep'',hmoved'⟩ := call_moves method {s with mongo := mongo,redis := redis} Js' hrep'
      exact ⟨Js'',hrep'',fun t => (hmoved t).trans (hmoved' t)⟩
  have hstart : Represents init.docs fun _ => (Journal.empty : Journal m.hash) := by
    rw [hempty]
    exact Represents.empty
  obtain ⟨Js,hrep,hmoved⟩ := hrun _ hstart h
  obtain ⟨Js',hrep',hmoved'⟩ := hrun Js hrep h'
  exact ⟨Js,Js',hrep,hrep',hmoved,hmoved',fun t => (hmoved' t).contents_grow⟩

/-- A version whose insertion was answered by nobody is in the journal. -/
theorem lost_insertion_is_a_row :
    ∃ Js Js' : String→Journal plainSetting.hash,Represents noPrompts.docs Js ∧
      Represents ((Call.create "opinion_macro" "a" "system" "").leaves plainSetting
        {noPrompts with mongo := [.answered,.answered,.answered,.lost]}).docs Js' ∧
      Moved (fun _ => Journal.empty) Js ∧ Moved Js Js' ∧
      ∀ t,(Js t).contents <+: (Js' t).contents :=
  histories_are_journals (m := plainSetting) (rfl : noPrompts.docs=[]) .start
    (.next (e := .call (.create "opinion_macro" "a" "system" "")
      [.answered,.answered,.answered,.lost] []) .start True.intro rfl)

end Aqts.PromptVersions
