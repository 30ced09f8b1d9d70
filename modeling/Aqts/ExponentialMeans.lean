import Mathlib.Tactic.Linarith
import Mathlib.Tactic.Ring
import Aqts.PandasSeries

/-!
# Exponential means of numbers

An exponential mean of numbers without gaps: the mean of a row is the first number,
moved towards each later one by the same share. It is linear, not negative for numbers
that are not, and then zero only if all of them are. The rows of the mean of a series
of numbers are these means of the first rows.
-/

namespace Aqts.ExponentialMeans

open CausalSeries PandasSeries

variable {K : Type*}

section Ring

variable [CommRing K] {ι : Type*} (alpha : K)

/-- The mean moves towards a number. -/
def toward (mean x : K) : K := (1-alpha)*mean+alpha*x

/-- The exponential mean of some numbers. -/
def smooth : List K→K
  | [] => 0
  | x::xs => xs.foldl (toward alpha) x

/-- The mean after one more number. -/
theorem smooth_concat (first : K) (rest : List K) (x : K) :
    smooth alpha (first::rest++[x])=toward alpha (smooth alpha (first::rest)) x :=
  List.foldl_append

/-- The mean of some numbers that are sums. -/
theorem foldl_toward_add (rows : List ι) (f g : ι→K) (x y : K) :
    (rows.map fun r => f r+g r).foldl (toward alpha) (x+y)=
      (rows.map f).foldl (toward alpha) x+(rows.map g).foldl (toward alpha) y := by
  induction rows generalizing x y with
  | nil => rfl
  | cons r rows ih =>
    have hstep : toward alpha (x+y) (f r+g r)=toward alpha x (f r)+toward alpha y (g r) := by
      unfold toward
      ring
    simp only [List.map_cons,List.foldl_cons]
    rw [hstep,ih]

/-- The mean of sums is the sum of the means. -/
theorem smooth_add (rows : List ι) (f g : ι→K) :
    smooth alpha (rows.map fun r => f r+g r)=
      smooth alpha (rows.map f)+smooth alpha (rows.map g) := by
  cases rows with
  | nil => exact (add_zero 0).symm
  | cons r rows => exact foldl_toward_add alpha rows f g (f r) (g r)

end Ring

section Ordered

variable [CommRing K] [LinearOrder K] [IsStrictOrderedRing K] {alpha : K}

/-- A mean does not become negative. -/
theorem toward_nonneg (hzero : 0≤alpha) (hone : alpha≤1) {mean x : K} (hmean : 0≤ mean)
    (hx : 0≤x) : 0≤ toward alpha mean x :=
  add_nonneg (mul_nonneg (sub_nonneg.mpr hone) hmean) (mul_nonneg hzero hx)

/-- The mean of numbers that are not negative is not negative. -/
theorem foldl_toward_nonneg (hzero : 0≤alpha) (hone : alpha≤1) {xs : List K}
    (hxs : ∀ x∈xs,0≤x) {mean : K} (hmean : 0≤ mean) : 0≤ xs.foldl (toward alpha) mean := by
  induction xs generalizing mean with
  | nil => exact hmean
  | cons x xs ih =>
    exact ih (fun y hy => hxs y (List.mem_cons_of_mem _ hy))
      (toward_nonneg hzero hone hmean (hxs x List.mem_cons_self))

/-- The mean of numbers that are not negative is not negative. -/
theorem smooth_nonneg (hzero : 0≤alpha) (hone : alpha≤1) {xs : List K} (hxs : ∀ x∈xs,0≤x) :
    0≤ smooth alpha xs := by
  cases xs with
  | nil => exact le_rfl
  | cons x xs =>
    exact foldl_toward_nonneg hzero hone (fun y hy => hxs y (List.mem_cons_of_mem _ hy))
      (hxs x List.mem_cons_self)

/-- A mean is zero after a number exactly if it was before, and the number is. -/
theorem toward_eq_zero_iff (hzero : 0<alpha) (hone : alpha<1) {mean x : K} (hmean : 0≤ mean)
    (hx : 0≤x) : toward alpha mean x=0 ↔ mean=0 ∧ x=0 := by
  unfold toward
  rw [add_eq_zero_iff_of_nonneg (mul_nonneg (sub_nonneg.mpr hone.le) hmean)
    (mul_nonneg hzero.le hx),mul_eq_zero,mul_eq_zero,or_iff_right (sub_pos.mpr hone).ne',
    or_iff_right hzero.ne']

/-- The mean of numbers that are not negative is zero only if all of them are. -/
theorem foldl_toward_eq_zero_iff (hzero : 0<alpha) (hone : alpha<1) {xs : List K}
    (hxs : ∀ x∈xs,0≤x) {mean : K} (hmean : 0≤ mean) :
    xs.foldl (toward alpha) mean=0 ↔ mean=0 ∧ ∀ x∈xs,x=0 := by
  induction xs generalizing mean with
  | nil =>
    refine ⟨fun h => ⟨h,fun x hx => ?_⟩,fun h => h.1⟩
    exact absurd hx List.not_mem_nil
  | cons x xs ih =>
    have hx := hxs x List.mem_cons_self
    rw [List.foldl_cons,ih (fun y hy => hxs y (List.mem_cons_of_mem _ hy))
      (toward_nonneg hzero.le hone.le hmean hx),toward_eq_zero_iff hzero hone hmean hx,
      List.forall_mem_cons,and_assoc]

/-- The mean of numbers that are not negative is zero only if all of them are. -/
theorem smooth_eq_zero_iff (hzero : 0<alpha) (hone : alpha<1) {xs : List K}
    (hxs : ∀ x∈xs,0≤x) : smooth alpha xs=0 ↔ ∀ x∈xs,x=0 := by
  cases xs with
  | nil => exact iff_of_true rfl fun x hx => absurd hx List.not_mem_nil
  | cons x xs =>
    rw [List.forall_mem_cons]
    exact foldl_toward_eq_zero_iff hzero hone (fun y hy => hxs y (List.mem_cons_of_mem _ hy))
      (hxs x List.mem_cons_self)

end Ordered

section Rows

variable [Field K] (alpha : K) (minPeriods : ℕ)

/-- A mean of some rows, if there are enough. -/
def meanOfRows (xs : List K) : Value K :=
  if xs.length< minPeriods then .missing else .number (smooth alpha xs)

/-- A number after the first one. -/
theorem step_number (w x : K) (count : ℕ) :
    Smoothing.step alpha minPeriods ⟨some w,1,count⟩ (.number x)=
      (⟨some (toward alpha w x),1,count+1⟩,
        if count+1< minPeriods then .missing else .number (toward alpha w x)) := by
  have hmean : (1*(1-alpha)*w+alpha*x)/(1*(1-alpha)+alpha)=toward alpha w x := by
    have hone : 1*(1-alpha)+alpha=1 := by ring
    rw [hone,div_one,one_mul]
    rfl
  unfold Smoothing.step Value.finite
  dsimp only
  rw [hmean]

/-- The rows after the first one. -/
theorem scan_numbers {xs : List K} {t : ℕ} (ht : t< xs.length) (w : K) (count : ℕ) :
    (scan (Smoothing.step alpha minPeriods) ⟨some w,1,count⟩ (xs.map Value.number))[t]?=
      some (if count+(t+1)< minPeriods then .missing
        else .number ((xs.take (t+1)).foldl (toward alpha) w)) := by
  induction xs generalizing w count t with
  | nil => exact absurd ht (Nat.not_lt_zero t)
  | cons x xs ih =>
    rw [List.map_cons]
    unfold scan
    rw [step_number]
    cases t with
    | zero => rfl
    | succ t =>
      rw [List.getElem?_cons_succ,ih (Nat.lt_of_succ_lt_succ ht)]
      have hcount : count+1+(t+1)=count+(t+1+1) := by omega
      rw [hcount]
      rfl

/-- The rows of an exponential mean of numbers. -/
theorem ewmMean_numbers {xs : List K} {t : ℕ} (ht : t< xs.length) :
    (ewmMean alpha minPeriods (xs.map Value.number))[t]?=
      some (meanOfRows alpha minPeriods (xs.take (t+1))) := by
  have hlength : (xs.take (t+1)).length=t+1 := by
    rw [List.length_take]
    omega
  unfold meanOfRows
  rw [hlength]
  cases xs with
  | nil => exact absurd ht (Nat.not_lt_zero t)
  | cons x xs =>
    unfold ewmMean
    rw [List.map_cons]
    unfold scan
    cases t with
    | zero => rfl
    | succ t =>
      rw [List.getElem?_cons_succ]
      refine (scan_numbers alpha minPeriods (Nat.lt_of_succ_lt_succ ht) x 1).trans ?_
      have hcount : 1+(t+1)=t+1+1 := by omega
      rw [hcount]
      rfl

/-- Equal means move towards equal numbers only. -/
theorem eq_of_smooth_concat {alpha : K} (halpha : alpha≠0) {xs : List K} {x y : K}
    (h : smooth alpha (xs++[x])=smooth alpha (xs++[y])) : x=y := by
  cases xs with
  | nil => exact h
  | cons first rest =>
    rw [smooth_concat,smooth_concat] at h
    exact mul_left_cancel₀ halpha (add_left_cancel h)

/-- Series of numbers have the same exponential mean only if they are the same, apart from
rows before there are enough. -/
theorem eq_of_ewmMean {alpha : K} (halpha : alpha≠0) {minPeriods : ℕ} {xs ys : List K}
    (hlength : xs.length=ys.length) (hfirst : ∀ t,t+1< minPeriods→xs[t]?=ys[t]?)
    (h : ewmMean alpha minPeriods (xs.map Value.number)=
      ewmMean alpha minPeriods (ys.map Value.number)) : xs=ys := by
  have htake : ∀ t,xs.take t=ys.take t := by
    intro t
    induction t with
    | zero => rfl
    | succ t ih =>
      by_cases ht : t< xs.length
      · have ht' : t< ys.length := hlength ▸ ht
        have hsame : xs[t]=ys[t] := by
          by_cases hfew : t+1< minPeriods
          · have hrow := hfirst t hfew
            rw [List.getElem?_eq_getElem ht,List.getElem?_eq_getElem ht'] at hrow
            exact Option.some.inj hrow
          · have hx := ewmMean_numbers alpha minPeriods ht
            have hy := ewmMean_numbers alpha minPeriods ht'
            rw [h,hy] at hx
            have hmean := Option.some.inj hx
            unfold meanOfRows at hmean
            rw [List.length_take,List.length_take,if_neg (by omega),if_neg (by omega)] at hmean
            have hsmooth := Value.number.inj hmean
            rw [List.take_succ_eq_append_getElem ht,List.take_succ_eq_append_getElem ht',ih]
              at hsmooth
            exact (eq_of_smooth_concat halpha hsmooth).symm
        rw [List.take_succ_eq_append_getElem ht,List.take_succ_eq_append_getElem ht',ih,hsame]
      · rw [List.take_of_length_le (by omega),List.take_of_length_le (by omega)] at ih ⊢
        exact ih
  have hall := htake xs.length
  rw [List.take_length,hlength,List.take_length] at hall
  exact hall

end Rows

end Aqts.ExponentialMeans
