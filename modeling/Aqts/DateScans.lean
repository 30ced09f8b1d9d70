import Aqts.CivilDates
import Mathlib.Data.List.Sort

/-!
# Scans over dates

Searches for the next date with a property, forwards or backwards day by day, and the list of
the dates with it in a range. A search ends at the first date with the property or at the end
of the range of dates; a list of a range also looks at the day after the range.
-/

namespace Aqts.DateScans

open CivilDates

/-- The way a search goes. -/
inductive Direction
  /-- To later dates. -/
  | forwards
  /-- To earlier dates. -/
  | backwards
  deriving DecidableEq

/-- Days of one step. -/
def Direction.step : Direction→ℤ
  | .forwards => 1
  | .backwards => -1

/-- Steps that are left before the end of the range. -/
def Direction.room (direction : Direction) (d : Date) : ℕ :=
  match direction with
  | .forwards => maxOrdinal-d.ordinal
  | .backwards => d.ordinal-1

/-- A date is not behind another one. -/
def Direction.Ahead (direction : Direction) (d x : Date) : Prop :=
  match direction with
  | .forwards => d≤x
  | .backwards => x≤d

/-- A step takes room, and passes one date. -/
theorem Direction.step_ok {direction : Direction} {d next : Date}
    (h : d.addDays direction.step=.ok next) :
    direction.room next<direction.room d ∧
      ∀ x,direction.Ahead d x↔x=d ∨ direction.Ahead next x := by
  have hnext := ordinal_of_addDays h
  have hrange := d.inRange
  have hnextRange := next.inRange
  have heq : ∀ x : Date,x=d↔x.ordinal=d.ordinal := fun x =>
    ⟨fun heq => heq ▸ rfl,fun heq => Date.ordinal_injective heq⟩
  cases direction with
  | forwards =>
    unfold step at hnext
    dsimp only at hnext
    unfold room Ahead
    dsimp only
    refine ⟨by omega,fun x => ?_⟩
    rw [heq,Date.le_def,Date.le_def]
    omega
  | backwards =>
    unfold step at hnext
    dsimp only at hnext
    unfold room Ahead
    dsimp only
    refine ⟨by omega,fun x => ?_⟩
    rw [heq,Date.le_def,Date.le_def]
    omega

/-- A step that fails was to leave the range of dates. -/
theorem Direction.step_error {direction : Direction} {d : Date} {e : DateError}
    (h : d.addDays direction.step=.error e) :
    e=.overflow ∧ ∀ x,direction.Ahead d x→x=d := by
  have hrange :
      ¬(1≤(d.ordinal : ℤ)+direction.step ∧ (d.ordinal : ℤ)+direction.step≤ maxOrdinal) := by
    intro hrange
    rw [addDays_ok (n := ((d.ordinal : ℤ)+direction.step).toNat) (by omega) (by omega)
      (by omega)] at h
    cases h
  rw [addDays_error hrange] at h
  cases h
  refine ⟨rfl,fun x hx => Date.ordinal_injective ?_⟩
  have hx' := x.inRange
  have hd := d.inRange
  cases direction with
  | forwards =>
    have hle : d.ordinal≤x.ordinal := hx
    unfold step at hrange
    dsimp only at hrange
    omega
  | backwards =>
    have hle : x.ordinal≤d.ordinal := hx
    unfold step at hrange
    dsimp only at hrange
    omega

/-- `while not holds(candidate): candidate += step`. -/
def search (holds : Date→Except DateError Bool) (direction : Direction) (candidate : Date) :
    Except DateError Date :=
  match holds candidate with
  | .error e => .error e
  | .ok true => .ok candidate
  | .ok false =>
    match _hnext : candidate.addDays direction.step with
    | .error e => .error e
    | .ok next => search holds direction next
termination_by direction.room candidate
decreasing_by exact (Direction.step_ok _hnext).1

/-- The dates with a property, that day included, until the end of a range: `while current <= stop`
with `current += 1 day`, and the dates found so far. -/
def collect (holds : Date→Except DateError Bool) (stop current : Date) (days : List Date) :
    Except DateError (List Date) :=
  if current≤ stop then
    match holds current with
    | .error e => .error e
    | .ok found =>
      match _hnext : current.addDays Direction.forwards.step with
      | .error e => .error e
      | .ok next => collect holds stop next (if found then days++[current] else days)
  else .ok days
termination_by Direction.forwards.room current
decreasing_by exact (Direction.step_ok _hnext).1

/-- A property is decided for every date. -/
def Decides (holds : Date→Except DateError Bool) : Prop :=
  ∀ d,holds d=.ok true ∨ holds d=.ok false

/-- One of the two answers is given. -/
theorem Decides.exists {holds : Date→Except DateError Bool} (h : Decides holds) (d : Date) :
    ∃ found,holds d=.ok found := by
  obtain htrue | hfalse := h d
  · exact ⟨true,htrue⟩
  · exact ⟨false,hfalse⟩

section Scans

variable {holds : Date→Except DateError Bool}

/-- A search returns the first date with the property, or leaves the range of dates where there is
none. -/
theorem search_spec (hdecides : Decides holds) (direction : Direction) (d : Date) :
    (∃ e,search holds direction d=.ok e ∧ direction.Ahead d e ∧ holds e=.ok true ∧
      ∀ x,direction.Ahead d x→holds x=.ok true→direction.Ahead e x) ∨
    (search holds direction d=.error .overflow ∧ ∀ x,direction.Ahead d x→holds x=.ok false) := by
  induction hroom : direction.room d using Nat.strong_induction_on generalizing d with
  | h room ih =>
    have hself : direction.Ahead d d := by cases direction <;> exact le_refl d.ordinal
    rw [search]
    obtain hfound | hnot := hdecides d
    · rw [hfound]
      exact .inl ⟨d,rfl,hself,hfound,fun x hx _ => hx⟩
    · rw [hnot]
      dsimp only
      split
      · rename_i e hstep
        obtain ⟨rfl,honly⟩ := Direction.step_error hstep
        refine .inr ⟨rfl,fun x hx => ?_⟩
        rw [honly x hx]
        exact hnot
      · rename_i next hstep
        obtain ⟨hless,hiff⟩ := Direction.step_ok hstep
        obtain ⟨e,hsearch,hahead,hholds,hfirst⟩ | ⟨hsearch,hnone⟩ := ih _ (hroom ▸ hless) next rfl
        · refine .inl ⟨e,hsearch,(hiff e).mpr (.inr hahead),hholds,fun x hx hxholds => ?_⟩
          obtain rfl | hbehind := (hiff x).mp hx
          · rw [hnot] at hxholds
            cases hxholds
          · exact hfirst x hbehind hxholds
        · refine .inr ⟨hsearch,fun x hx => ?_⟩
          obtain rfl | hbehind := (hiff x).mp hx
          · exact hnot
          · exact hnone x hbehind

/-- A list has the dates of a range with the property, in order. -/
def Lists (holds : Date→Except DateError Bool) (start stop : Date) (found : List Date) : Prop :=
  found.SortedLT ∧ ∀ x,x∈found↔start≤x ∧ x≤ stop ∧ holds x=.ok true

/-- There is one such list. -/
theorem Lists.unique {start stop : Date} {a b : List Date} (ha : Lists holds start stop a)
    (hb : Lists holds start stop b) : a=b := by
  refine ha.1.eq_of_mem_iff hb.1 fun x => ?_
  rw [ha.2 x,hb.2 x]

/-- The list of an empty range. -/
theorem Lists.nil {start stop : Date} (h : stop< start) : Lists holds start stop [] := by
  refine ⟨List.Pairwise.nil.sortedLT,fun x => ?_⟩
  constructor
  · intro hx
    cases hx
  · rintro ⟨hx,hxstop,-⟩
    exact absurd (hx.trans hxstop) (not_le.mpr h)

/-- A range that ends and one that begins on the next day. -/
theorem Lists.append {start mid next stop : Date} {a b : List Date}
    (hstart : start≤ mid) (hstop : mid≤ stop) (hnext : next.ordinal=mid.ordinal+1)
    (ha : Lists holds start mid a) (hb : Lists holds next stop b) :
    Lists holds start stop (a++b) := by
  have hsplit : ∀ x : Date,mid<x↔next≤x := by
    intro x
    rw [Date.lt_def,Date.le_def]
    omega
  constructor
  · refine (List.pairwise_append.mpr ⟨ha.1.pairwise,hb.1.pairwise,fun x hx y hy => ?_⟩).sortedLT
    have hxmid := ((ha.2 x).mp hx).2.1
    have hymid := (hsplit y).mpr ((hb.2 y).mp hy).1
    exact hxmid.trans_lt hymid
  · intro x
    rw [List.mem_append,ha.2 x,hb.2 x,←hsplit x]
    constructor
    · rintro (⟨hx,hxmid,hxholds⟩ | ⟨hx,hxstop,hxholds⟩)
      · exact ⟨hx,hxmid.trans hstop,hxholds⟩
      · exact ⟨hstart.trans hx.le,hxstop,hxholds⟩
    · rintro ⟨hx,hxstop,hxholds⟩
      obtain hxmid | hxmid := le_or_gt x mid
      · exact .inl ⟨hx,hxmid,hxholds⟩
      · exact .inr ⟨hxmid,hxstop,hxholds⟩

/-- The list of one day. -/
theorem Lists.singleton {d : Date} {found : Bool} (h : holds d=.ok found) :
    Lists holds d d (if found then [d] else []) := by
  cases found with
  | false =>
    refine ⟨List.Pairwise.nil.sortedLT,fun x => ?_⟩
    constructor
    · intro hx
      cases hx
    · rintro ⟨hx,hxd,hxholds⟩
      rw [le_antisymm hxd hx,h] at hxholds
      cases hxholds
  | true =>
    refine ⟨(List.pairwise_singleton _ _).sortedLT,fun x => ?_⟩
    rw [if_pos rfl,List.mem_singleton]
    constructor
    · rintro rfl
      exact ⟨le_rfl,le_rfl,h⟩
    · rintro ⟨hx,hxd,-⟩
      exact le_antisymm hxd hx

/-- The dates of a range that ends before the last date are listed. -/
theorem collect_spec (hdecides : Decides holds) {stop : Date} (hstop : stop.ordinal< maxOrdinal)
    (current : Date) (days : List Date) :
    ∃ found,collect holds stop current days=.ok (days++found) ∧ Lists holds current stop found := by
  induction hroom : Direction.forwards.room current using Nat.strong_induction_on
    generalizing current days with
  | h room ih =>
    rw [collect]
    by_cases hle : current≤ stop
    · rw [if_pos hle]
      obtain ⟨found,hfound⟩ := hdecides.exists current
      rw [hfound]
      dsimp only
      split
      · rename_i e hstep
        obtain ⟨-,honly⟩ := Direction.step_error hstep
        have hlast := honly ⟨maxOrdinal,by decide⟩ current.inRange.2
        rw [Date.le_def,←hlast] at hle
        exact absurd hle (not_le.mpr hstop)
      · rename_i next hstep
        have hless := (Direction.step_ok hstep).1
        have hstepped : (next.ordinal : ℤ)=current.ordinal+1 := ordinal_of_addDays hstep
        have hnext : next.ordinal=current.ordinal+1 := by omega
        obtain ⟨later,hcollect,hlists⟩ := ih _ (hroom ▸ hless) next
          (if found then days++[current] else days) rfl
        refine ⟨(if found then [current] else [])++later,?_,
          (Lists.singleton hfound).append le_rfl hle hnext hlists⟩
        rw [hcollect]
        cases found with
        | false => rfl
        | true => rw [if_pos rfl,if_pos rfl,List.append_assoc]
    · rw [if_neg hle]
      exact ⟨[],by rw [List.append_nil],.nil (not_le.mp hle)⟩

/-- A range that ends with the last date is left for a day that does not exist. -/
theorem collect_last (hdecides : Decides holds) {stop : Date} (hstop : stop.ordinal=maxOrdinal)
    (current : Date) (days : List Date) : collect holds stop current days=.error .overflow := by
  induction hroom : Direction.forwards.room current using Nat.strong_induction_on
    generalizing current days with
  | h room ih =>
    rw [collect]
    have hle : current≤ stop := by
      rw [Date.le_def,hstop]
      exact current.inRange.2
    obtain ⟨found,hfound⟩ := hdecides.exists current
    rw [if_pos hle,hfound]
    dsimp only
    split
    · rename_i e hstep
      rw [(Direction.step_error hstep).1]
    · rename_i next hstep
      exact ih _ (hroom ▸ (Direction.step_ok hstep).1) next _ rfl

end Scans

end Aqts.DateScans
