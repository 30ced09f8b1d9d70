import Mathlib.Algebra.Order.BigOperators.Group.List
import Mathlib.Data.Real.Basic
import Mathlib.Tactic.Linarith
import Mathlib.Tactic.Ring
import Aqts.PandasSeries

/-!
# Deviations of samples

The squares of the distances of some numbers to their mean. They are zero exactly if
all numbers are the same, and bounded by the distance of the mean to the largest
number.
-/

namespace Aqts.SampleDeviations

open PandasSeries

/-- Sums by a loop. -/
theorem foldl_add_eq (xs : List ℝ) (a : ℝ) : xs.foldl (· + ·) a=a+xs.sum := by
  induction xs generalizing a with
  | nil => exact (add_zero a).symm
  | cons x xs ih => rw [List.foldl_cons,ih,List.sum_cons,add_assoc]

/-- The mean by a sum. -/
theorem mean_eq (xs : List ℝ) : mean xs=xs.sum/xs.length := by
  unfold mean
  rw [foldl_add_eq,zero_add]

/-- The squares of the distances to the mean. -/
noncomputable def squares (xs : List ℝ) : ℝ :=
  (xs.map fun x => (x-mean xs)*(x-mean xs)).sum

/-- The square of a sum is at least the sum of the squares. -/
theorem sum_squares_le {ds : List ℝ} (h : ∀ d∈ds,0≤d) :
    (ds.map fun d => d*d).sum≤ ds.sum*ds.sum := by
  induction ds with
  | nil => exact (mul_zero (0 : ℝ)).ge
  | cons d ds ih =>
    obtain ⟨hd,hds⟩ := List.forall_mem_cons.mp h
    have hrest := ih hds
    have hcross := mul_nonneg hd (List.sum_nonneg hds)
    rw [List.map_cons,List.sum_cons,List.sum_cons]
    linarith [show (d+ds.sum)*(d+ds.sum)=d*d+2*(d*ds.sum)+ds.sum*ds.sum by ring]

/-- Distances to a number below. -/
theorem sum_distances (xs : List ℝ) (c : ℝ) :
    (xs.map fun x => c-x).sum=xs.length*c-xs.sum := by
  induction xs with
  | nil => simp
  | cons x xs ih =>
    rw [List.map_cons,List.sum_cons,ih,List.sum_cons,List.length_cons,Nat.cast_succ]
    ring

/-- Squares of distances to one number by those to another one. -/
theorem sum_squares_shift (xs : List ℝ) (m c : ℝ) :
    (xs.map fun x => (x-m)*(x-m)).sum=((xs.map fun x => c-x).map fun d => d*d).sum-
      2*(c-m)*(xs.map fun x => c-x).sum+xs.length*((c-m)*(c-m)) := by
  induction xs with
  | nil => simp
  | cons x xs ih =>
    simp only [List.map_cons,List.sum_cons,List.length_cons,Nat.cast_succ]
    rw [ih]
    ring

/-- The squares against the distance of the largest number. -/
theorem squares_le {xs : List ℝ} (hsome : xs≠[]) {top : ℝ} (htop : ∀ x∈xs,x≤top) :
    squares xs≤(xs.length*xs.length-xs.length)*((top-mean xs)*(top-mean xs)) := by
  have hpos : (0 : ℝ)<xs.length := Nat.cast_pos.mpr (List.length_pos_of_ne_nil hsome)
  have hnonneg : ∀ d∈xs.map fun x => top-x,0≤d := by
    intro d hd
    obtain ⟨x,hx,rfl⟩ := List.mem_map.mp hd
    exact sub_nonneg.mpr (htop x hx)
  have hsum : (xs.map fun x => top-x).sum=xs.length*(top-mean xs) := by
    rw [sum_distances,mean_eq,mul_sub,mul_div_cancel₀ _ hpos.ne']
  have hle := sum_squares_le hnonneg
  unfold squares
  rw [sum_squares_shift xs _ top]
  rw [hsum] at hle ⊢
  linarith [show (xs.length*xs.length-xs.length)*((top-mean xs)*(top-mean xs))=
    xs.length*(top-mean xs)*(xs.length*(top-mean xs))-
      2*(top-mean xs)*(xs.length*(top-mean xs))+xs.length*((top-mean xs)*(top-mean xs)) by ring]

/-- The squares are not negative. -/
theorem squares_nonneg (xs : List ℝ) : 0≤ squares xs := by
  refine List.sum_nonneg fun d hd => ?_
  obtain ⟨x,_,rfl⟩ := List.mem_map.mp hd
  exact mul_self_nonneg _

/-- Without squares all numbers are the same. -/
theorem same_of_squares {xs : List ℝ} (h : squares xs=0) : ∀ x∈xs,x=mean xs := by
  intro x hx
  have hnonneg : ∀ d∈xs.map fun x => (x-mean xs)*(x-mean xs),0≤d := by
    intro d hd
    obtain ⟨y,_,rfl⟩ := List.mem_map.mp hd
    exact mul_self_nonneg _
  have hle := List.single_le_sum hnonneg _ (List.mem_map_of_mem hx)
  have hzero : (x-mean xs)*(x-mean xs)=0 := le_antisymm (hle.trans_eq h) (mul_self_nonneg _)
  exact sub_eq_zero.mp (mul_self_eq_zero.mp hzero)

/-- Equal numbers have no squares. -/
theorem squares_of_same {xs : List ℝ} {c : ℝ} (hsome : xs≠[]) (h : ∀ x∈xs,x=c) :
    squares xs=0 := by
  have hle := squares_le hsome fun x hx => (h x hx).le
  have hpos : (0 : ℝ)<xs.length := Nat.cast_pos.mpr (List.length_pos_of_ne_nil hsome)
  have hmean : mean xs=c := by
    have hsum := List.sum_eq_card_nsmul xs c h
    rw [mean_eq,hsum,nsmul_eq_mul]
    exact mul_div_cancel_left₀ c hpos.ne'
  rw [hmean,sub_self,mul_zero,mul_zero] at hle
  exact le_antisymm hle (squares_nonneg xs)

end Aqts.SampleDeviations
