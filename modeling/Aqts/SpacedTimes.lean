import Mathlib.Algebra.Order.Monoid.Unbundled.Pow
import Mathlib.Algebra.Order.Group.Defs

/-!
# Times a fixed distance apart

A list of times, the newest first, in which any two entries are at least a
given distance apart. A new time keeps the law when it is far enough from the
newest one only, and a window of `n` distances holds at most `n` of the times.
-/

namespace Aqts.SpacedTimes

section Definition

variable {K : Type*} [AddCommGroup K] [LinearOrder K]

/-- Any two entries of the list, which has the newest first, are at least `d`
apart. -/
def Spaced (d : K) (times : List K) : Prop :=
  times.Pairwise fun later earlier => earlier+d≤later

instance (d : K) (times : List K) : Decidable (Spaced d times) :=
  inferInstanceAs (Decidable (times.Pairwise _))

variable {d : K} {times : List K}

/-- No two entries are too close in the empty list. -/
theorem spaced_nil : Spaced d ([] : List K) := List.Pairwise.nil

/-- The entries that a filter keeps are as far apart. -/
theorem Spaced.filter (h : Spaced d times) (p : K→Bool) : Spaced d (times.filter p) :=
  List.Pairwise.filter p h

end Definition

section Windows

variable {K : Type*} [AddCommGroup K] [LinearOrder K] [IsOrderedAddMonoid K]
variable {d t : K} {times : List K}

/-- A new time is far enough from all when it is from the newest. -/
theorem Spaced.cons (h : Spaced d times) (hd : 0≤ d)
    (hlast : ∀ last∈times.head?,last+d≤t) : Spaced d (t::times) := by
  refine List.Pairwise.cons ?_ h
  intro earlier hmem
  cases times with
  | nil => cases hmem
  | cons last rest =>
    have hnew : last+d≤t := hlast last rfl
    obtain rfl | hrest := List.mem_cons.mp hmem
    · exact hnew
    · have hstep : earlier+d≤last := List.rel_of_pairwise_cons h hrest
      calc
        earlier+d≤last := hstep
        _≤last+d := le_add_of_nonneg_right hd
        _≤t := hnew

/-- The newest of `n+1` times from `t` on is `n` distances after `t`. -/
theorem Spaced.span {later : K} (h : Spaced d (later::times))
    (hfrom : ∀ x∈later::times,t≤x) : t+times.length•d≤later := by
  induction times generalizing later with
  | nil =>
    rw [List.length_nil,zero_nsmul,add_zero]
    exact hfrom later List.mem_cons_self
  | cons last rest ih =>
    have hbefore : t+rest.length•d≤last :=
      ih (List.Pairwise.of_cons h) fun x hx => hfrom x (List.mem_cons_of_mem _ hx)
    have hstep : last+d≤later := List.rel_of_pairwise_cons h List.mem_cons_self
    calc
      t+(last::rest).length•d=t+rest.length•d+d := by
        rw [List.length_cons,succ_nsmul,add_assoc]
      _≤last+d := add_le_add_left hbefore d
      _≤later := hstep

/-- A window of `n` distances holds at most `n` of the times. -/
theorem Spaced.window (h : Spaced d times) (hd : 0≤ d) (n : ℕ) (t : K) :
    (times.filter fun x => t≤x ∧ x< t+n•d).length≤n := by
  have hkept := h.filter fun x => t≤x ∧ x< t+n•d
  have hinside : ∀ x∈times.filter fun x => t≤x ∧ x< t+n•d,t≤x ∧ x< t+n•d := by
    intro x hx
    exact of_decide_eq_true (List.mem_filter.mp hx).2
  generalize times.filter (fun x => t≤x ∧ x< t+n•d)=kept at hkept hinside
  cases kept with
  | nil => exact Nat.zero_le n
  | cons later rest =>
    have hspan : t+rest.length•d≤later := hkept.span fun x hx => (hinside x hx).1
    have hbefore : later< t+n•d := (hinside later List.mem_cons_self).2
    have hless : rest.length•d< n•d := lt_of_add_lt_add_left (hspan.trans_lt hbefore)
    have hshort : rest.length< n := by
      by_contra hnot
      exact absurd hless (not_lt_of_ge (nsmul_le_nsmul_left hd (not_lt.mp hnot)))
    exact hshort

end Windows

end Aqts.SpacedTimes
