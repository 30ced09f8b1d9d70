import Mathlib.Data.List.Infix
import Mathlib.Data.List.Nodup
import Mathlib.Logic.Relation

/-!
# A journal of versions with one of them in force

Contents are added at the end and never change, no two of them have the same key, and at
most one is in force. The journal moves by three steps, and one that is stopped between
two of them has lost the version in force but no content. Nothing here depends on what the
contents are.
-/

namespace Aqts.VersionJournal

variable {C K : Type*} {key : C→K}

/-- A journal. -/
structure Journal (key : C→K) where
  /-- Contents in the order of their versions. -/
  contents : List C
  /-- Position of the one in force. -/
  active : Option ℕ
  /-- Keys differ. -/
  nodup : (contents.map key).Nodup
  /-- The position exists. -/
  active_lt : ∀ i,active=some i→i< contents.length

namespace Journal

/-- No version. -/
def empty : Journal key := ⟨[],none,List.nodup_nil,nofun⟩

/-- No version stays in force. -/
def deactivate (J : Journal key) : Journal key := ⟨J.contents,none,J.nodup,nofun⟩

/-- A new version comes into force. -/
def append (J : Journal key) (c : C) (h : key c∉J.contents.map key) : Journal key where
  contents := J.contents++[c]
  active := some J.contents.length
  nodup := by
    rw [List.map_append,List.nodup_append]
    refine ⟨J.nodup,List.nodup_singleton _,?_⟩
    rintro a ha b hb rfl
    rw [List.map_singleton,List.mem_singleton] at hb
    exact h (hb ▸ ha)
  active_lt := by
    rintro i ⟨⟩
    rw [List.length_append]
    exact Nat.lt_succ_self _

/-- An old version comes into force. -/
def activate (J : Journal key) (i : ℕ) (h : i< J.contents.length) : Journal key where
  contents := J.contents
  active := some i
  nodup := J.nodup
  active_lt := by
    rintro j ⟨⟩
    exact h

/-- The content in force. -/
def current (J : Journal key) : Option C := J.active.bind fun i => J.contents[i]?

/-- A content with a new key comes into force as a new version. -/
def create [DecidableEq K] (J : Journal key) (c : C) : Journal key :=
  if h : key c∈J.contents.map key then J else J.append c h

/-- One step of a journal. A version comes into force when none is. -/
inductive Step : Journal key→Journal key→Prop
  /-- The version in force is taken back. -/
  | deactivate (J : Journal key) : Step J J.deactivate
  /-- A new version. -/
  | append (J : Journal key) (c : C) (h : key c∉J.contents.map key) (hnone : J.active=none) :
      Step J (J.append c h)
  /-- An old version. -/
  | activate (J : Journal key) (i : ℕ) (h : i< J.contents.length) (hnone : J.active=none) :
      Step J (J.activate i h)

/-- Steps of a journal. -/
def Steps : Journal key→Journal key→Prop := Relation.ReflTransGen Step

variable {J J' : Journal key}

/-- A new version, from the journal itself. -/
theorem Steps.append {c : C} (h : key c∉J.contents.map key) : Steps J (J.append c h) :=
  (Relation.ReflTransGen.single (.deactivate J)).tail (.append J.deactivate c h rfl)

/-- An old version, from the journal itself. -/
theorem Steps.activate {i : ℕ} (h : i< J.contents.length) : Steps J (J.activate i h) :=
  (Relation.ReflTransGen.single (.deactivate J)).tail (.activate J.deactivate i h rfl)

/-- A step adds to the contents. -/
theorem Step.contents_grow (h : Step J J') : J.contents <+: J'.contents := by
  cases h with
  | deactivate => exact List.prefix_refl _
  | append c h hnone => exact List.prefix_append _ _
  | activate i h hnone => exact List.prefix_refl _

/-- Steps add to the contents. -/
theorem Steps.contents_grow (h : Steps J J') : J.contents <+: J'.contents := by
  induction h with
  | refl => exact List.prefix_refl _
  | tail _ hstep ih => exact ih.trans hstep.contents_grow

/-- A new content is in force. -/
theorem current_append {c : C} (h : key c∉J.contents.map key) : (J.append c h).current=some c := by
  show (J.contents++[c])[J.contents.length]?=some c
  exact List.getElem?_concat_length

end Journal

end Aqts.VersionJournal
