import Mathlib.Algebra.Order.Field.Basic
import Mathlib.Data.List.Basic

/-!
# Drawdowns

The deepest fall of a series from a value to a later one, as a share of the earlier value. One
pass finds it: the greatest value so far is kept, and the fall from it is compared with the deepest
one before. This is enough as long as no value is negative.
-/

namespace Aqts.Drawdowns

/-- Two of the values with one more behind them. -/
theorem pair_sublist_append {α : Type*} {x y value : α} {values : List α} :
    [x,y].Sublist (values++[value]) ↔ [x,y].Sublist values ∨ x ∈ values ∧ y=value := by
  rw [List.sublist_append_iff]
  constructor
  · rintro ⟨l,r,hsplit,hl,hr⟩
    rcases List.sublist_singleton.mp hr with rfl | rfl
    · rw [List.append_nil] at hsplit
      exact .inl (hsplit ▸ hl)
    · obtain ⟨rfl,rfl⟩ : l=[x] ∧ y=value := by
        have hinit : [x]++[y]=l++[value] := hsplit
        obtain ⟨hx,hy⟩ := List.append_inj' hinit rfl
        exact ⟨hx.symm,(List.cons.inj hy).1⟩
      exact .inr ⟨List.singleton_sublist.mp hl,rfl⟩
  · rintro (h | ⟨hx,rfl⟩)
    · exact ⟨[x,y],[],rfl,h,List.nil_sublist _⟩
    · exact ⟨[x],[y],rfl,List.singleton_sublist.mpr hx,List.Sublist.refl _⟩

variable {K : Type*} [Field K] [LinearOrder K]

/-- One value of the pass: the greatest value and the deepest fall up to it. -/
def step (reached : K×K) (value : K) : K×K :=
  let peak := if reached.1<value then value else reached.1
  let fall := if 0<peak then (value-peak)/peak else 0
  (peak,min reached.2 fall)

/-- The deepest fall of a series that begins with a value. -/
def deepest : List K→K
  | [] => 0
  | value::values => ((value::values).foldl step (value,0)).2

/-- The deepest fall from a value to a later one, zero if none falls. -/
structure IsDeepest (values : List K) (depth : K) : Prop where
  /-- It is no rise. -/
  nonpos : depth≤0
  /-- No fall is deeper. -/
  below : ∀ x y,[x,y].Sublist values→0<x→depth≤(y-x)/x
  /-- It is a fall of the series. -/
  reached : depth=0 ∨ ∃ x y,[x,y].Sublist values ∧ 0<x ∧ depth=(y-x)/x

/-- The first value of the pass changes nothing: it is its own peak. -/
theorem step_self (value : K) : step (value,0) value=(value,0) := by
  unfold step
  simp

/-- There is one deepest fall. -/
theorem IsDeepest.unique {values : List K} {a b : K} (ha : IsDeepest values a)
    (hb : IsDeepest values b) : a=b := by
  have hle : ∀ {a b : K},IsDeepest values a→IsDeepest values b→a≤b := by
    intro a b ha hb
    rcases hb.reached with rfl | ⟨x,y,hxy,hx,rfl⟩
    · exact ha.nonpos
    · exact ha.below x y hxy hx
  exact le_antisymm (hle ha hb) (hle hb ha)

/-- The first value of a series may fall deeper than any later one. -/
theorem isDeepest_cons_iff {first : K} {later : List K} {depth : K} (hfirst : 0<first)
    (h : IsDeepest later depth) :
    IsDeepest (first::later) depth ↔ ∀ y ∈ later,depth≤(y-first)/first := by
  constructor
  · intro hcons y hy
    exact hcons.below first y ((List.singleton_sublist.mpr hy).cons_cons first) hfirst
  · intro hall
    refine ⟨h.nonpos,?_,?_⟩
    · intro x y hxy hx
      cases hxy with
      | cons _ hxy => exact h.below x y hxy hx
      | cons_cons _ hy => exact hall y (List.singleton_sublist.mp hy)
    · rcases h.reached with hzero | ⟨x,y,hxy,hx,hdepth⟩
      · exact .inl hzero
      · exact .inr ⟨x,y,hxy.cons first,hx,hdepth⟩

variable [IsStrictOrderedRing K]

/-- A fall is the same share in another unit. -/
theorem isDeepest_scale {unit : K} (hunit : 0<unit) {values : List K} {depth : K} :
    IsDeepest (values.map fun x => x/unit) depth ↔ IsDeepest values depth := by
  have hshare : ∀ x y : K,(y/unit-x/unit)/(x/unit)=(y-x)/x := by
    intro x y
    rw [← sub_div,div_div_div_cancel_right₀ hunit.ne']
  have hpair : ∀ x y : K,[x,y].Sublist values→
      [x/unit,y/unit].Sublist (values.map fun x => x/unit) := fun x y h =>
    h.map fun x => x/unit
  have hback : ∀ u v : K,[u,v].Sublist (values.map fun x => x/unit)→
      ∃ x y,[x,y].Sublist values ∧ u=x/unit ∧ v=y/unit := by
    intro u v h
    obtain ⟨l,hl,heq⟩ := List.sublist_map_iff.mp h
    match l,heq with
    | [x,y],heq =>
      obtain ⟨rfl,hrest⟩ := List.cons.inj heq
      exact ⟨x,y,hl,rfl,(List.cons.inj hrest).1⟩
  constructor
  · rintro ⟨hnonpos,hbelow,hreached⟩
    refine ⟨hnonpos,?_,?_⟩
    · intro x y hxy hx
      rw [← hshare]
      exact hbelow _ _ (hpair x y hxy) (div_pos hx hunit)
    · rcases hreached with hzero | ⟨u,v,huv,hu,hdepth⟩
      · exact .inl hzero
      · obtain ⟨x,y,hxy,rfl,rfl⟩ := hback u v huv
        rw [hshare] at hdepth
        exact .inr ⟨x,y,hxy,(div_pos_iff_of_pos_right hunit).mp hu,hdepth⟩
  · rintro ⟨hnonpos,hbelow,hreached⟩
    refine ⟨hnonpos,?_,?_⟩
    · intro u v huv hu
      obtain ⟨x,y,hxy,rfl,rfl⟩ := hback u v huv
      rw [hshare]
      exact hbelow x y hxy ((div_pos_iff_of_pos_right hunit).mp hu)
    · rcases hreached with hzero | ⟨x,y,hxy,hx,hdepth⟩
      · exact .inl hzero
      · exact .inr ⟨_,_,hpair x y hxy,div_pos hx hunit,hdepth.trans (hshare x y).symm⟩

/-- What the pass has reached behind a series: its greatest value and its deepest fall. -/
structure Reached (values : List K) (reached : K×K) : Prop where
  /-- The peak is a value of the series. -/
  mem : reached.1 ∈ values
  /-- None is greater. -/
  greatest : ∀ x ∈ values,x≤ reached.1
  /-- The fall is the deepest one. -/
  deepest : IsDeepest values reached.2

/-- The fall from the peak is the deepest one to a value. -/
theorem fall_le {x peak value : K} (hx : 0<x) (hle : x≤peak) (hvalue : 0≤value) :
    (value-peak)/peak≤(value-x)/x := by
  have hpeak : 0<peak := hx.trans_le hle
  rw [sub_div,sub_div,div_self hx.ne',div_self hpeak.ne']
  exact sub_le_sub_right (div_le_div_of_nonneg_left hvalue hx hle) 1

/-- One value keeps it. -/
theorem Reached.step {values : List K} {reached : K×K} (h : Reached values reached) {value : K}
    (hvalue : 0≤value) : Reached (values++[value]) (step reached value) := by
  obtain ⟨peak,depth⟩ := reached
  obtain ⟨hmem,hgreatest,hdeepest⟩ := h
  dsimp only at hmem hgreatest hdeepest
  by_cases hrise : peak<value
  · -- a new peak: no value before it is greater, so nothing falls to it
    have hfall : (if 0<value then (value-value)/value else 0)=(0 : K) := by
      rw [sub_self,zero_div,ite_self]
    have hstep : Drawdowns.step (peak,depth) value=(value,depth) := by
      unfold Drawdowns.step
      simp only [if_pos hrise]
      rw [hfall,min_eq_left hdeepest.nonpos]
    rw [hstep]
    refine ⟨by simp,?_,hdeepest.nonpos,?_,?_⟩
    · intro x hx
      rcases List.mem_append.mp hx with hx | hx
      · exact (hgreatest x hx).trans hrise.le
      · exact (List.mem_singleton.mp hx).le
    · intro x y hxy hx
      rcases pair_sublist_append.mp hxy with hxy | ⟨hmem,rfl⟩
      · exact hdeepest.below x y hxy hx
      · have hle := (hgreatest x hmem).trans hrise.le
        exact hdeepest.nonpos.trans (div_nonneg (sub_nonneg.mpr hle) hx.le)
    · rcases hdeepest.reached with hzero | ⟨x,y,hxy,hx,hdepth⟩
      · exact .inl hzero
      · exact .inr ⟨x,y,pair_sublist_append.mpr (.inl hxy),hx,hdepth⟩
  · have hle : value≤peak := not_lt.mp hrise
    refine ⟨?_,?_,?_⟩
    · show (if peak<value then value else peak) ∈ values++[value]
      rw [if_neg hrise]
      exact List.mem_append_left _ hmem
    · show ∀ x ∈ values++[value],x≤ if peak<value then value else peak
      rw [if_neg hrise]
      intro x hx
      rcases List.mem_append.mp hx with hx | hx
      · exact hgreatest x hx
      · exact (List.mem_singleton.mp hx).trans_le hle
    · have hstep : (Drawdowns.step (peak,depth) value).2=
          min depth (if 0<peak then (value-peak)/peak else 0) := by
        unfold Drawdowns.step
        simp only [if_neg hrise]
      rw [hstep]
      refine ⟨(min_le_left _ _).trans hdeepest.nonpos,?_,?_⟩
      · intro x y hxy hx
        rcases pair_sublist_append.mp hxy with hxy | ⟨hmem',rfl⟩
        · exact (min_le_left _ _).trans (hdeepest.below x y hxy hx)
        · have hx' := hgreatest x hmem'
          rw [if_pos (hx.trans_le hx')]
          exact (min_le_right _ _).trans (fall_le hx hx' hvalue)
      · rcases le_total depth (if 0<peak then (value-peak)/peak else 0) with hmin | hmin
        · rw [min_eq_left hmin]
          rcases hdeepest.reached with hzero | ⟨x,y,hxy,hx,hdepth⟩
          · exact .inl hzero
          · exact .inr ⟨x,y,pair_sublist_append.mpr (.inl hxy),hx,hdepth⟩
        · rw [min_eq_right hmin]
          by_cases hpeak : 0<peak
          · rw [if_pos hpeak]
            exact .inr ⟨peak,value,pair_sublist_append.mpr (.inr ⟨hmem,rfl⟩),hpeak,rfl⟩
          · rw [if_neg hpeak]
            exact .inl rfl

/-- Many values keep it. -/
theorem Reached.foldl {values : List K} {reached : K×K} (h : Reached values reached)
    (later : List K) (hlater : ∀ v ∈ later,0≤v) :
    Reached (values++later) (later.foldl Drawdowns.step reached) := by
  induction later generalizing values reached with
  | nil =>
    rw [List.append_nil]
    exact h
  | cons value later ih =>
    rw [List.foldl_cons]
    have hnext := ih (h.step (hlater value List.mem_cons_self))
      fun v hv => hlater v (List.mem_cons_of_mem _ hv)
    rwa [List.append_assoc,List.singleton_append] at hnext

/-- The pass finds the deepest fall of a series without negative values. -/
theorem deepest_isDeepest (values : List K) (h : ∀ v ∈ values,0≤v) :
    IsDeepest values (deepest values) := by
  cases values with
  | nil =>
    refine ⟨le_refl _,?_,.inl rfl⟩
    intro x y hxy
    simp at hxy
  | cons value values =>
    have hfirst : Reached [value] (value,(0 : K)) := by
      refine ⟨List.mem_singleton_self _,?_,le_refl _,?_,.inl rfl⟩
      · intro x hx
        exact (List.mem_singleton.mp hx).le
      · intro x y hxy
        have := hxy.length_le
        simp at this
    have hpass := (hfirst.foldl values fun v hv => h v (List.mem_cons_of_mem _ hv)).deepest
    show IsDeepest (value::values) ((value::values).foldl step (value,0)).2
    rw [List.foldl_cons,step_self]
    exact hpass

end Aqts.Drawdowns
