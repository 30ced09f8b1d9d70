import Mathlib.Data.List.Basic

/-!
# Documents changed by filtered updates

A collection is a list of documents, and a command changes the documents that
its filter selects: the first one, or all. A command that can select at most one
document acts on each document alone, and commands over two representations of
the same documents agree when their filters and changes do. Nothing here
depends on what the documents are.
-/

namespace Aqts.DocumentStore

variable {D A : Type*}

/-- A filter and the change of a document that it selects. -/
structure Update (D : Type*) where
  /-- Documents to change. -/
  filter : D→Bool
  /-- The change. -/
  set : D→D

/-- The command on one document. -/
def Update.onDoc (c : Update D) (d : D) : D := if c.filter d=true then c.set d else d

/-- The first selected document is changed. -/
def Update.one (c : Update D) : List D→List D
  | [] => []
  | d::docs => if c.filter d=true then c.set d::docs else d::c.one docs

/-- Some document is selected. -/
def Update.matched (c : Update D) (docs : List D) : Bool := docs.any c.filter

/-- Number of documents that a change of the first selected one really changes. -/
def Update.modifiedOne [DecidableEq D] (c : Update D) (docs : List D) : ℕ :=
  match docs.find? c.filter with
  | none => 0
  | some d => if c.set d=d then 0 else 1

/-- All selected documents are changed. -/
def Update.many (c : Update D) (docs : List D) : List D := docs.map c.onDoc

/-- Number of documents that a change of all selected ones really changes. -/
def Update.modifiedMany [DecidableEq D] (c : Update D) (docs : List D) : ℕ :=
  docs.countP fun d => c.filter d && decide (c.set d≠d)

/-- A selected document is changed, or else the new one is added. -/
def Update.upsert (c : Update D) (inserted : D) (docs : List D) : List D :=
  if c.matched docs=true then c.one docs else docs++[inserted]

variable {c : Update D} {docs : List D}

/-- A selected document is changed. -/
theorem Update.onDoc_pos {d : D} (h : c.filter d=true) : c.onDoc d=c.set d := if_pos h

/-- Another one is left. -/
theorem Update.onDoc_neg {d : D} (h : ¬c.filter d=true) : c.onDoc d=d := if_neg h

/-- A command that selects no document changes none. -/
theorem Update.one_eq_self (h : ∀ d∈docs,¬c.filter d=true) : c.one docs=docs := by
  induction docs with
  | nil => rfl
  | cons d docs ih =>
    obtain ⟨hd,hrest⟩ := List.forall_mem_cons.mp h
    unfold one
    rw [if_neg hd,ih hrest]

/-- A change that is visible on every selected document reports whether one was
selected. -/
theorem Update.modifiedOne_eq_one [DecidableEq D]
    (h : ∀ d∈docs,c.filter d=true→c.set d≠d) : c.modifiedOne docs=1 ↔ c.matched docs=true := by
  unfold modifiedOne matched
  cases hfind : docs.find? c.filter with
  | none =>
    have hnone : docs.any c.filter=false := by
      rw [List.any_eq_false]
      exact List.find?_eq_none.mp hfind
    rw [hnone]
    exact ⟨nofun,nofun⟩
  | some d =>
    have hmem := List.mem_of_find?_eq_some hfind
    have hfilter : c.filter d=true := List.find?_some hfind
    have hany : docs.any c.filter=true := List.any_eq_true.mpr ⟨d,hmem,hfilter⟩
    rw [hany]
    exact ⟨fun _ => rfl,fun _ => if_neg (h d hmem hfilter)⟩

/-- A command that can select only the document at one position changes at most
that one. -/
theorem Update.one_eq_set {i : ℕ} {d : D} (hi : docs[i]?=some d)
    (hothers : ∀ j e,docs[j]?=some e→c.filter e=true→j=i) : c.one docs=docs.set i (c.onDoc d) := by
  induction docs generalizing i with
  | nil => cases hi
  | cons a docs ih =>
    unfold one
    cases i with
    | zero =>
      cases hi
      by_cases hfilter : c.filter d=true
      · rw [if_pos hfilter,List.set_cons_zero,onDoc_pos hfilter]
      · have hrest : c.one docs=docs := by
          apply one_eq_self
          intro e he hselected
          obtain ⟨j,hj⟩ := List.mem_iff_getElem?.mp he
          exact absurd (hothers (j+1) e hj hselected) (Nat.succ_ne_zero j)
        rw [if_neg hfilter,hrest,List.set_cons_zero,onDoc_neg hfilter]
    | succ i =>
      have hfilter : ¬c.filter a=true := fun h => absurd (hothers 0 a rfl h) (Nat.succ_ne_zero i).symm
      rw [if_neg hfilter,List.set_cons_succ]
      congr 1
      apply ih hi
      intro j e hj hselected
      exact Nat.succ.inj (hothers (j+1) e hj hselected)

/-- It reports whether it selects that one, when the change is visible. -/
theorem Update.modifiedOne_at [DecidableEq D] {i : ℕ} {d : D} (hi : docs[i]?=some d)
    (hothers : ∀ j e,docs[j]?=some e→c.filter e=true→j=i)
    (hvisible : c.filter d=true→c.set d≠d) : c.modifiedOne docs=1 ↔ c.filter d=true := by
  have honly : ∀ e∈docs,c.filter e=true→e=d := by
    intro e he hselected
    obtain ⟨j,hj⟩ := List.mem_iff_getElem?.mp he
    have hij := hothers j e hj hselected
    rw [hij,hi] at hj
    exact (Option.some.inj hj).symm
  rw [modifiedOne_eq_one]
  · unfold matched
    rw [List.any_eq_true]
    constructor
    · rintro ⟨e,he,hselected⟩
      exact honly e he hselected ▸ hselected
    · exact fun hselected => ⟨d,List.mem_of_getElem? hi,hselected⟩
  · intro e he hselected
    obtain rfl := honly e he hselected
    exact hvisible hselected

/-- A change of the first selected document changes at most one. -/
theorem Update.modifiedOne_pos [DecidableEq D] : 0< c.modifiedOne docs ↔ c.modifiedOne docs=1 := by
  have hle : c.modifiedOne docs≤1 := by
    unfold modifiedOne
    cases docs.find? c.filter with
    | none => exact Nat.zero_le 1
    | some d =>
      dsimp only
      split
      · exact Nat.zero_le 1
      · exact Nat.le_refl 1
  omega

/-- Such a change of all selected documents reports their number. -/
theorem Update.modifiedMany_eq_countP [DecidableEq D]
    (h : ∀ d∈docs,c.filter d=true→c.set d≠d) : c.modifiedMany docs=docs.countP c.filter := by
  apply List.countP_congr
  intro d hd
  rw [Bool.and_eq_true,decide_eq_true_iff]
  exact ⟨fun h => h.1,fun hfilter => ⟨hfilter,h d hd hfilter⟩⟩

section Representation

variable {f : A→D} {c' : Update A}

/-- Commands that agree on every represented document agree on the first one that
they select. -/
theorem Update.one_map (hfilter : ∀ a,c.filter (f a)=c'.filter a)
    (hset : ∀ a,c'.filter a=true→c.set (f a)=f (c'.set a)) (l : List A) :
    c.one (l.map f)=(c'.one l).map f := by
  induction l with
  | nil => rfl
  | cons a l ih =>
    rw [List.map_cons]
    unfold one
    rw [hfilter]
    by_cases hselected : c'.filter a=true
    · rw [if_pos hselected,if_pos hselected,hset a hselected,List.map_cons]
    · rw [if_neg hselected,if_neg hselected,ih,List.map_cons]

/-- They select a document in the same collections. -/
theorem Update.matched_map (hfilter : ∀ a,c.filter (f a)=c'.filter a) (l : List A) :
    c.matched (l.map f)=c'.matched l := by
  unfold matched
  rw [List.any_map]
  exact congrArg (l.any ·) (funext hfilter)

/-- And they agree on all that they select. -/
theorem Update.many_map (hfilter : ∀ a,c.filter (f a)=c'.filter a)
    (hset : ∀ a,c'.filter a=true→c.set (f a)=f (c'.set a)) (l : List A) :
    c.many (l.map f)=(c'.many l).map f := by
  unfold many
  rw [List.map_map,List.map_map]
  apply List.map_congr_left
  intro a _
  show c.onDoc (f a)=f (c'.onDoc a)
  by_cases hselected : c'.filter a=true
  · rw [c'.onDoc_pos hselected,c.onDoc_pos ((hfilter a).trans hselected),hset a hselected]
  · rw [c'.onDoc_neg hselected,c.onDoc_neg (by rwa [hfilter])]

end Representation

section Parts

variable {p : D→Bool}

/-- The first selected document of a part of the collection that holds every selected
one. -/
theorem find?_part {q : D→Bool} (h : ∀ d,q d=true→p d=true) (docs : List D) :
    (docs.filter p).find? q=docs.find? q := by
  rw [List.find?_filter]
  congr 1
  funext d
  cases hq : q d with
  | false => simp
  | true => simp [h d hq]

/-- A command that selects and gives documents of one part acts inside of it. -/
theorem Update.one_part (hfilter : ∀ d,c.filter d=true→p d=true)
    (hset : ∀ d,c.filter d=true→p (c.set d)=true) (docs : List D) :
    (c.one docs).filter p=c.one (docs.filter p) := by
  induction docs with
  | nil => rfl
  | cons d docs ih =>
    by_cases hselected : c.filter d=true
    · have hd := hfilter d hselected
      rw [List.filter_cons_of_pos hd]
      unfold one
      rw [if_pos hselected,if_pos hselected,List.filter_cons_of_pos (hset d hselected)]
    · have hrest : c.one (d::docs)=d::c.one docs := if_neg hselected
      rw [hrest]
      by_cases hd : p d=true
      · rw [List.filter_cons_of_pos hd,List.filter_cons_of_pos hd,ih]
        exact (if_neg hselected).symm
      · rw [List.filter_cons_of_neg hd,List.filter_cons_of_neg hd,ih]

/-- A command that selects and gives documents outside of a part leaves the part. -/
theorem Update.one_other (hfilter : ∀ d,c.filter d=true→p d=false)
    (hset : ∀ d,c.filter d=true→p (c.set d)=false) (docs : List D) :
    (c.one docs).filter p=docs.filter p := by
  induction docs with
  | nil => rfl
  | cons d docs ih =>
    unfold one
    by_cases hselected : c.filter d=true
    · rw [if_pos hselected,List.filter_cons_of_neg (by simp [hset d hselected]),
        List.filter_cons_of_neg (by simp [hfilter d hselected])]
    · rw [if_neg hselected,List.filter_cons,List.filter_cons,ih]

/-- A change of all selected documents that keeps every document in its part. -/
theorem Update.many_part (hset : ∀ d,c.filter d=true→p (c.set d)=p d) (docs : List D) :
    (c.many docs).filter p=c.many (docs.filter p) := by
  unfold many
  rw [List.filter_map]
  congr 1
  apply List.filter_congr
  intro d _
  show p (c.onDoc d)=p d
  by_cases hselected : c.filter d=true
  · rw [onDoc_pos hselected,hset d hselected]
  · rw [onDoc_neg hselected]

/-- A change that selects nothing in a part leaves the part. -/
theorem Update.many_other (hset : ∀ d,c.filter d=true→p (c.set d)=p d)
    (hfilter : ∀ d,c.filter d=true→p d=false) (docs : List D) :
    (c.many docs).filter p=docs.filter p := by
  rw [many_part hset]
  unfold many
  conv_rhs => rw [← List.map_id (docs.filter p)]
  apply List.map_congr_left
  intro d hd
  apply onDoc_neg
  intro hselected
  have hpart := (List.mem_filter.mp hd).2
  rw [hfilter d hselected] at hpart
  cases hpart

end Parts

/-- The first document, if it is selected, is changed. -/
theorem Update.one_cons_pos {d : D} (h : c.filter d=true) : c.one (d::docs)=c.set d::docs := if_pos h

/-- Otherwise a later one may be. -/
theorem Update.one_cons_neg {d : D} (h : ¬c.filter d=true) : c.one (d::docs)=d::c.one docs :=
  if_neg h

/-- A document after a change of the first selected one is the one before, changed or not. -/
theorem Update.one_row {i : ℕ} {e : D} (h : (c.one docs)[i]?=some e) :
    ∃ d,docs[i]?=some d ∧ (e=d ∨ e=c.set d) := by
  induction docs generalizing i with
  | nil => cases h
  | cons d docs ih =>
    by_cases hselected : c.filter d=true
    · rw [one_cons_pos hselected] at h
      cases i with
      | zero => exact ⟨d,rfl,.inr (Option.some.inj h).symm⟩
      | succ i => exact ⟨e,h,.inl rfl⟩
    · rw [one_cons_neg hselected] at h
      cases i with
      | zero => exact ⟨d,rfl,.inl (Option.some.inj h).symm⟩
      | succ i => exact ih h

/-- As many documents. -/
theorem Update.length_one : (c.one docs).length=docs.length := by
  induction docs with
  | nil => rfl
  | cons d docs ih =>
    by_cases hselected : c.filter d=true
    · rw [one_cons_pos hselected]
      rfl
    · rw [one_cons_neg hselected,List.length_cons,List.length_cons,ih]

section Selections

variable {q : D→Bool}

/-- Commands between documents that are not selected leave a selection. -/
theorem find?_unselected (h : ∀ d,c.filter d=true→¬q d=true ∧ ¬q (c.set d)=true) (docs : List D) :
    (c.many docs).find? q=docs.find? q ∧ (c.one docs).find? q=docs.find? q := by
  induction docs with
  | nil => exact ⟨rfl,rfl⟩
  | cons d docs ih =>
    obtain ⟨hmany,hone⟩ := ih
    unfold Update.many at hmany ⊢
    rw [List.map_cons]
    by_cases hselected : c.filter d=true
    · obtain ⟨hold,hnew⟩ := h d hselected
      rw [Update.onDoc_pos hselected,Update.one_cons_pos hselected,List.find?_cons_of_neg hnew,
        List.find?_cons_of_neg hnew,List.find?_cons_of_neg hold]
      exact ⟨hmany,rfl⟩
    · rw [Update.onDoc_neg hselected,Update.one_cons_neg hselected,List.find?_cons,List.find?_cons,
        List.find?_cons,hmany,hone]
      exact ⟨rfl,rfl⟩

/-- A selection that a change does not see selects the same document, changed or not. -/
theorem find?_many (hq : ∀ d,c.filter d=true→q (c.set d)=q d) {d : D}
    (h : docs.find? q=some d) : (c.many docs).find? q=some (c.onDoc d) := by
  have hkeep : q∘c.onDoc=q := by
    funext e
    show q (c.onDoc e)=q e
    by_cases hselected : c.filter e=true
    · rw [Update.onDoc_pos hselected,hq e hselected]
    · rw [Update.onDoc_neg hselected]
  unfold Update.many
  rw [List.find?_map,hkeep,h]
  rfl

/-- So does a change of the first selected document. -/
theorem find?_one_kept (hq : ∀ d,c.filter d=true→q (c.set d)=q d) {d : D}
    (h : docs.find? q=some d) : ∃ e,(c.one docs).find? q=some e ∧ (e=d ∨ e=c.set d) := by
  induction docs with
  | nil => cases h
  | cons e docs ih =>
    by_cases hselected : c.filter e=true
    · rw [Update.one_cons_pos hselected,List.find?_cons,hq e hselected]
      rw [List.find?_cons] at h
      cases hqe : q e with
      | false =>
        rw [hqe] at h
        exact ⟨d,h,.inl rfl⟩
      | true =>
        rw [hqe] at h
        cases h
        exact ⟨_,rfl,.inr rfl⟩
    · rw [Update.one_cons_neg hselected,List.find?_cons]
      rw [List.find?_cons] at h
      cases hqe : q e with
      | false =>
        rw [hqe] at h
        exact ih h
      | true =>
        rw [hqe] at h
        cases h
        exact ⟨_,rfl,.inl rfl⟩

/-- The one document that a change brings into a selection. -/
theorem find?_one (hnone : ∀ d∈docs,¬q d=true) {d : D} (h : docs.find? c.filter=some d)
    (hd : q (c.set d)=true) : (c.one docs).find? q=some (c.set d) := by
  induction docs with
  | nil => cases h
  | cons e docs ih =>
    obtain ⟨he,hrest⟩ := List.forall_mem_cons.mp hnone
    by_cases hselected : c.filter e=true
    · rw [List.find?_cons_of_pos hselected] at h
      cases h
      rw [Update.one_cons_pos hselected]
      exact List.find?_cons_of_pos hd
    · rw [List.find?_cons_of_neg hselected] at h
      rw [Update.one_cons_neg hselected,List.find?_cons_of_neg he]
      exact ih hrest h

end Selections

end Aqts.DocumentStore
