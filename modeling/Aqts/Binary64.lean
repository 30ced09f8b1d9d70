import Aqts.HalfEvenRounding
import Mathlib.Algebra.Order.Field.Power
import Mathlib.Data.Int.Log
import Mathlib.Data.Rat.Floor
import Mathlib.Tactic.Positivity

/-!
# Binary floats of double precision

The value of a float operation is its exact result, rounded to 53 binary digits
and to the even one of two. Small results keep fewer digits, and a result from
`2^1024` on is infinite. Rounding keeps the order and leaves floats; a sum that
is a half of the last place above a float, or less, is mostly rounded to it.
-/

namespace Aqts.Binary64

open PandasSeries

/-- Exponent of the last binary digit that a float near this number keeps. -/
def lastPlace (x : ℚ) : ℤ := max (Int.log 2 |x|-52) (-1074)

/-- The digits of the float next to a number, as an integer. -/
def significand (x : ℚ) : ℤ := roundHalfEven (x/2^lastPlace x)

/-- The float next to a number, in an unbounded range. -/
def fl (x : ℚ) : ℚ := significand x*2^lastPlace x

/-- A rounded result within the range, or else the sign of the infinity: whether it is
positive. -/
def inRange (x : ℚ) : Except Bool ℚ := if |x|<2^1024 then .ok x else .error (decide (0<x))

/-- Python's `sum` of floats, one after the other; an infinity stays what it is. -/
def floatSum (values : List ℚ) : Except Bool ℚ :=
  values.foldlM (fun total x => inRange (fl (total+x))) 0

/-- The exact sum, rounded after every summand. -/
def runningSum (rounded : ℚ→ℚ) (values : List ℚ) : ℚ :=
  values.foldl (fun total x => rounded (total+x)) 0

/-- Without rounding the running sum is the sum. -/
theorem runningSum_id (values : List ℚ) : runningSum id values=values.sum :=
  List.sum_eq_foldl.symm

section Places

variable {x y : ℚ} {e : ℤ}

/-- A place has a positive value. -/
theorem place_pos (e : ℤ) : 0<(2 : ℚ)^e := zpow_pos two_pos e

/-- The value of some digits before a place. -/
theorem places_eq (digits : ℕ) (e : ℤ) : (2 : ℚ)^digits*2^e=2^(digits+e) := by
  rw [zpow_add₀ two_ne_zero,zpow_natCast]

/-- A number that ends at a place ends at every smaller one. -/
theorem exists_mul_place {e e' : ℤ} (h : e'≤e) (m : ℤ) : ∃ k : ℤ,(m : ℚ)*2^e=k*2^e' := by
  obtain ⟨n,hn⟩ := Int.eq_ofNat_of_zero_le (sub_nonneg.mpr h)
  refine ⟨m*2^n,?_⟩
  have hsplit : (2 : ℚ)^e=2^n*2^e' := by
    rw [← zpow_natCast,← zpow_add₀ two_ne_zero,← hn,sub_add_cancel]
  rw [hsplit]
  push_cast
  ring

/-- The smallest place is the last one at least. -/
theorem least_place (x : ℚ) : -1074≤ lastPlace x := le_max_right _ _

/-- A number has 53 digits before its last place at most. -/
theorem abs_lt_places (x : ℚ) : |x|<2^53*2^lastPlace x := by
  have hlog : |x|<(2 : ℚ)^(Int.log 2 |x|+1) := Int.lt_zpow_succ_log_self Nat.one_lt_two |x|
  have hplace : Int.log 2 |x|-52≤ lastPlace x := le_max_left _ _
  rw [places_eq]
  refine hlog.trans_le (zpow_le_zpow_right₀ one_le_two ?_)
  push_cast
  omega

/-- A number with 53 digits before a place has no later last place. -/
theorem lastPlace_le (hx : x≠0) (he : -1074≤e) (h : |x|<2^53*2^e) : lastPlace x≤e := by
  rw [places_eq] at h
  have hlog := (Int.lt_zpow_iff_log_lt Nat.one_lt_two (abs_pos.mpr hx)).mp h
  push_cast at hlog
  exact max_le (by omega) he

/-- A number with 53 digits at least before a place has no earlier last place. -/
theorem le_lastPlace (hx : x≠0) (h : 2^52*2^e≤|x|) : e≤ lastPlace x := by
  rw [places_eq] at h
  have hlog := (Int.zpow_le_iff_le_log Nat.one_lt_two (abs_pos.mpr hx)).mp h
  push_cast at hlog
  exact le_max_of_le_left (by omega)

/-- A larger number has no earlier last place. -/
theorem lastPlace_mono (hx : 0<x) (h : x≤y) : lastPlace x≤ lastPlace y := by
  have hlog := Int.log_mono_right (b := 2) hx h
  unfold lastPlace
  rw [abs_of_pos hx,abs_of_pos (hx.trans_le h)]
  exact max_le_max_right _ (by omega)

end Places

section Rounding

variable {x y : ℚ}

/-- A number is rounded by a half of its last place at most. -/
theorem abs_fl_sub_le (x : ℚ) : |fl x-x|≤2^lastPlace x/2 := by
  have hplace := place_pos (lastPlace x)
  have hnear := abs_roundHalfEven_sub_le (x/2^lastPlace x)
  have hscaled : fl x-x=(significand x-x/2^lastPlace x)*2^lastPlace x := by
    unfold fl
    field_simp
  rw [hscaled,abs_mul,abs_of_pos hplace]
  exact (mul_le_mul_of_nonneg_right hnear hplace.le).trans_eq (one_div_mul_eq_div _ _)

/-- A number that ends at its last place is a float. -/
theorem fl_of_place {m : ℤ} (h : x=m*2^lastPlace x) : fl x=x := by
  have hdigits : x/2^lastPlace x=m := by
    rw [div_eq_iff (place_pos _).ne']
    exact h
  unfold fl significand
  rw [hdigits,roundHalfEven_intCast]
  exact h.symm

/-- Zero is a float. -/
theorem fl_zero : fl 0=0 := fl_of_place (m := 0) (by rw [Int.cast_zero,zero_mul])

/-- A number with at most 53 digits is a float. -/
theorem fl_of_digits {m e : ℤ} (hm : |m|<2^53) (he : -1074≤e) : fl (m*2^e)=m*2^e := by
  by_cases hzero : (m : ℚ)*2^e=0
  · rw [hzero,fl_zero]
  · have habs : |(m : ℚ)*2^e|<2^53*2^e := by
      rw [abs_mul,abs_of_pos (place_pos e)]
      refine mul_lt_mul_of_pos_right ?_ (place_pos e)
      exact_mod_cast hm
    obtain ⟨k,hk⟩ := exists_mul_place (lastPlace_le hzero he habs) m
    exact fl_of_place hk

/-- A number below some places is rounded to at most these. -/
theorem fl_le_of_le {k : ℤ} (h : x≤k*2^lastPlace x) : fl x≤k*2^lastPlace x := by
  have hdigits : x/2^lastPlace x≤k := (div_le_iff₀ (place_pos _)).mpr h
  have hround : significand x≤k := (roundHalfEven_mono hdigits).trans_eq (roundHalfEven_intCast k)
  exact mul_le_mul_of_nonneg_right (Int.cast_le.mpr hround) (place_pos _).le

/-- A number above some places is rounded to at least these. -/
theorem le_fl_of_le {k : ℤ} (h : k*2^lastPlace x≤x) : k*2^lastPlace x≤ fl x := by
  have hdigits : (k : ℚ)≤x/2^lastPlace x := (le_div_iff₀ (place_pos _)).mpr h
  have hround : k≤ significand x :=
    (roundHalfEven_intCast (K := ℚ) k).symm.trans_le (roundHalfEven_mono hdigits)
  exact mul_le_mul_of_nonneg_right (Int.cast_le.mpr hround) (place_pos _).le

/-- A number that is not negative is not rounded below zero. -/
theorem fl_nonneg (h : 0≤x) : 0≤ fl x := by
  have hround := le_fl_of_le (x := x) (k := 0) (by rw [Int.cast_zero,zero_mul]; exact h)
  rw [Int.cast_zero,zero_mul] at hround
  exact hround

/-- The digits of a float. -/
theorem abs_significand_le (x : ℚ) : |significand x|≤2^53 := by
  have hbelow : |x/2^lastPlace x|≤2^53 := by
    rw [abs_div,abs_of_pos (place_pos _)]
    exact (div_le_iff₀ (place_pos _)).mpr (abs_lt_places x).le
  have hcast : (2 : ℚ)^53=((2^53 : ℤ) : ℚ) := by norm_num
  rw [hcast,abs_le] at hbelow
  refine abs_le.mpr ⟨?_,?_⟩
  · have hleast := roundHalfEven_mono hbelow.1
    rw [← Int.cast_neg,roundHalfEven_intCast] at hleast
    exact hleast
  · exact (roundHalfEven_mono hbelow.2).trans_eq (roundHalfEven_intCast _)

/-- What is rounded is a float. -/
theorem fl_fl (x : ℚ) : fl (fl x)=fl x := by
  rcases (abs_significand_le x).lt_or_eq with hless | hfull
  · exact fl_of_digits hless (least_place x)
  · -- 53 digits that are carried to the next power of two
    have hcarried : ∃ m : ℤ,|m|<2^53 ∧ fl x=m*2^(lastPlace x+1) := by
      have hnext : (2 : ℚ)^(lastPlace x+1)=2^lastPlace x*2 := zpow_add_one₀ two_ne_zero _
      unfold fl
      rw [hnext]
      rcases eq_or_eq_neg_of_abs_eq hfull with h | h
      · refine ⟨2^52,by norm_num,?_⟩
        rw [h]
        push_cast
        ring
      · refine ⟨-2^52,by norm_num,?_⟩
        rw [h]
        push_cast
        ring
    obtain ⟨m,hm,heq⟩ := hcarried
    rw [heq]
    exact fl_of_digits hm ((least_place x).trans (Int.le_add_one le_rfl))

/-- Rounding keeps the order. -/
theorem fl_mono (hx : 0≤x) (h : x≤y) : fl x≤ fl y := by
  rcases hx.eq_or_lt with rfl | hpos
  · rw [fl_zero]
    exact fl_nonneg h
  · rcases (lastPlace_mono hpos h).eq_or_lt with hsame | hless
    · have hdigits : x/2^lastPlace x≤y/2^lastPlace y := by
        rw [hsame]
        exact div_le_div_of_nonneg_right h (place_pos _).le
      have hround : significand x≤ significand y := roundHalfEven_mono hdigits
      unfold fl
      rw [hsame]
      exact mul_le_mul_of_nonneg_right (Int.cast_le.mpr hround) (place_pos _).le
    · -- a power of two is between numbers of different last places
      have hypos : 0<y := hpos.trans_le h
      have hlarge : (2 : ℚ)^52*2^lastPlace y≤y := by
        by_contra hnot
        have hsmall : |y|<2^53*2^(lastPlace y-1) := by
          rw [abs_of_pos hypos,zpow_sub_one₀ two_ne_zero]
          refine (not_le.mp hnot).trans_eq ?_
          ring
        have hleast := least_place x
        have hearlier := lastPlace_le hypos.ne' (by omega) hsmall
        omega
      have hsmall : x<2^52*2^lastPlace y := by
        refine (le_abs_self x).trans_lt ((abs_lt_places x).trans_le ?_)
        have hplaces : (2 : ℚ)^(lastPlace x+1)≤2^lastPlace y :=
          zpow_le_zpow_right₀ one_le_two hless
        rw [zpow_add_one₀ two_ne_zero] at hplaces
        calc (2 : ℚ)^53*2^lastPlace x=2^52*(2^lastPlace x*2) := by ring
          _≤2^52*2^lastPlace y := mul_le_mul_of_nonneg_left hplaces (by norm_num)
      have hcast : (2 : ℚ)^52=((2^52 : ℤ) : ℚ) := by norm_num
      rw [hcast] at hlarge hsmall
      obtain ⟨k,hk⟩ := exists_mul_place hless.le (2^52)
      refine le_trans ?_ (le_fl_of_le hlarge)
      rw [hk] at hsmall ⊢
      exact fl_le_of_le hsmall.le

/-- Up to a half above an even multiple of its last place a number is rounded to it or below. -/
theorem fl_le_of_half {n e : ℤ} (heven : n%2=0) (hplace : lastPlace x=e)
    (h : x≤((n : ℚ)+1/2)*2^e) : fl x≤n*2^e := by
  have hunit := place_pos e
  have hround : significand x≤n := by
    refine (roundHalfEven_le_iff heven _).mpr ?_
    rw [hplace,div_le_iff₀ hunit]
    exact h
  unfold fl
  rw [hplace]
  exact mul_le_mul_of_nonneg_right (Int.cast_le.mpr hround) hunit.le

/-- From a half below an even multiple of its last place a number is rounded to it or above. -/
theorem le_fl_of_half {n e : ℤ} (heven : n%2=0) (hplace : lastPlace x=e)
    (h : ((n : ℚ)-1/2)*2^e≤x) : n*2^e≤ fl x := by
  have hunit := place_pos e
  have hround : n≤ significand x := by
    refine (le_roundHalfEven_iff heven _).mpr ?_
    rw [hplace,le_div_iff₀ hunit]
    exact h
  unfold fl
  rw [hplace]
  exact mul_le_mul_of_nonneg_right (Int.cast_le.mpr hround) hunit.le

end Rounding

section Room

variable {b u a s : ℚ}

/-- A float that sums of amounts that fit cannot grow past: its digits are even, or are so
few that nothing is rounded across it, or it ends at the smallest place. -/
def Steady (b : ℚ) : Prop :=
  lastPlace b= -1074 ∨ significand b%2=0 ∨ significand b≤2^52+1

instance (b : ℚ) : Decidable (Steady b) := inferInstanceAs (Decidable (_∨_))

/-- A float has its digits before its last place. -/
theorem eq_of_float (hb : fl b=b) : b=significand b*2^lastPlace b := hb.symm

/-- A positive float has less than 53 digits and one. -/
theorem significand_lt (hb : fl b=b) (hpos : 0<b) : significand b<2^53 := by
  have hplaces := abs_lt_places b
  rw [abs_of_pos hpos] at hplaces
  nth_rewrite 1 [eq_of_float hb] at hplaces
  have hdigits := lt_of_mul_lt_mul_right hplaces (place_pos _).le
  exact_mod_cast hdigits

/-- Numbers above a float are rounded to it up to a half of its last place, which its digits
decide. -/
theorem fl_le_of_near (hb : fl b=b) (hpos : 0<b) (hs : 0≤ s)
    (h : s<b+2^lastPlace b/2 ∨ significand b%2=0 ∧ s≤b+2^lastPlace b/2) : fl s≤b := by
  by_cases hle : s≤b
  · exact (fl_mono hs hle).trans_eq hb
  · have habove := not_le.mp hle
    have hplace := place_pos (lastPlace b)
    have hmost : s≤b+2^lastPlace b/2 := h.elim le_of_lt And.right
    have hdigits : (significand b : ℚ)+1≤2^53 := by
      exact_mod_cast Int.add_one_le_iff.mpr (significand_lt hb hpos)
    have hfloat := eq_of_float hb
    have hfull : |s|<2^53*2^lastPlace b := by
      have hscaled := mul_le_mul_of_nonneg_right hdigits hplace.le
      rw [abs_of_pos (hpos.trans habove)]
      linarith
    have hsame : lastPlace s=lastPlace b :=
      le_antisymm (lastPlace_le (hpos.trans habove).ne' (least_place b) hfull)
        (lastPlace_mono hpos habove.le)
    rw [hfloat]
    rcases h with hless | ⟨heven,_⟩
    · have hnear : |(significand s : ℚ)-s/2^lastPlace s|≤1/2 := abs_roundHalfEven_sub_le _
      have hdivided : s/2^lastPlace s< significand b+1/2 := by
        rw [hsame,div_lt_iff₀ hplace]
        linarith
      have hcast : (significand s : ℚ)< significand b+1 := by
        linarith [(abs_le.mp hnear).2]
      have hround : significand s≤ significand b := Int.lt_add_one_iff.mp (by exact_mod_cast hcast)
      unfold fl
      rw [hsame]
      exact mul_le_mul_of_nonneg_right (Int.cast_le.mpr hround) hplace.le
    · exact fl_le_of_half heven hsame (by linarith)

/-- What is left of a float that ends at the smallest place is a float. -/
theorem fl_sub_of_smallest (hb : fl b=b) (hu : fl u=u) (hsmallest : lastPlace b= -1074)
    (hless : 0<b-u) (hle : b-u≤b) : fl (b-u)=b-u := by
  have hsame : lastPlace (b-u)=lastPlace b :=
    le_antisymm (lastPlace_mono hless hle) (hsmallest.trans_le (least_place _))
  obtain ⟨k,hk⟩ := exists_mul_place (hsmallest.trans_le (least_place u)) (significand u)
  have hends : b-u=((significand b-k : ℤ) : ℚ)*2^lastPlace (b-u) := by
    have hfloat := eq_of_float hb
    rw [← eq_of_float hu] at hk
    rw [hsame]
    push_cast
    linarith
  exact fl_of_place hends

/-- What is left of a float with few digits is rounded up by less than a half of its last
place. -/
theorem fl_sub_lt_of_few (hb : fl b=b) (hfew : significand b≤2^52+1)
    (hlarge : lastPlace b≠ -1074) (hless : 0<b-u) (hle : b-u≤b) :
    fl (b-u)<b-u+2^lastPlace b/2 := by
  have hplace := place_pos (lastPlace b)
  have hfloat := eq_of_float hb
  have hnear := (abs_le.mp (abs_fl_sub_le (b-u))).2
  rcases (lastPlace_mono hless hle).eq_or_lt with hsame | hearlier
  · have hcast : (significand b : ℚ)≤2^52+1 := by exact_mod_cast hfew
    have hscaled := mul_le_mul_of_nonneg_right hcast hplace.le
    by_cases hhalf : b-u≤(2^52+1/2)*2^lastPlace b
    · -- rounded down, to a power of two
      have hleast : (2 : ℚ)^52*2^lastPlace b≤b-u := by
        by_contra hnot
        have hsmall : |b-u|<2^53*2^(lastPlace b-1) := by
          rw [abs_of_pos hless,zpow_sub_one₀ two_ne_zero]
          refine (not_le.mp hnot).trans_eq ?_
          ring
        have hbound := least_place b
        have hmore := lastPlace_le hless.ne' (by omega) hsmall
        omega
      have hdown : fl (b-u)≤((2^52 : ℤ) : ℚ)*2^lastPlace b := by
        refine fl_le_of_half (by norm_num) hsame ?_
        push_cast
        exact hhalf
      push_cast at hdown
      linarith
    · have hup : fl (b-u)≤((2^52+1 : ℤ) : ℚ)*2^lastPlace (b-u) := by
        refine fl_le_of_le ?_
        rw [hsame]
        push_cast
        linarith
      rw [hsame] at hup
      push_cast at hup
      linarith
  · have hhalf : (2 : ℚ)^(lastPlace (b-u)+1)≤2^lastPlace b :=
      zpow_le_zpow_right₀ one_le_two hearlier
    rw [zpow_add_one₀ two_ne_zero] at hhalf
    linarith

/-- A sum of a float and an amount that fits does not grow past a steady float. -/
theorem fl_add_le (hb : fl b=b) (hsteady : Steady b) (hu : fl u=u) (hnonneg : 0≤u) (hle : u≤b)
    (ha : 0≤a) (hfits : a≤ fl (b-u)) : fl (u+a)≤b := by
  have hsum : 0≤u+a := add_nonneg hnonneg ha
  rcases hle.eq_or_lt with rfl | hless
  · rw [sub_self,fl_zero] at hfits
    rw [le_antisymm hfits ha,add_zero,hu]
  · have hpos : 0<b := hnonneg.trans_lt hless
    have hleft : 0<b-u := sub_pos.mpr hless
    have hpart : b-u≤b := sub_le_self b hnonneg
    by_cases hsmallest : lastPlace b= -1074
    · have hexact := fl_sub_of_smallest hb hu hsmallest hleft hpart
      exact (fl_mono hsum (by linarith)).trans_eq hb
    · refine fl_le_of_near hb hpos hsum ?_
      rcases hsteady.resolve_left hsmallest with heven | hfew
      · have hnear := (abs_le.mp (abs_fl_sub_le (b-u))).2
        have hplaces : (2 : ℚ)^lastPlace (b-u)≤2^lastPlace b :=
          zpow_le_zpow_right₀ one_le_two (lastPlace_mono hleft hpart)
        exact .inr ⟨heven,by linarith⟩
      · have hnear := fl_sub_lt_of_few hb hfew hsmallest hleft hpart
        exact .inl (by linarith)

/-- A number with its digits before a place ends there. -/
theorem lastPlace_eq {e : ℤ} (he : -1074≤e) (hleast : 2^52*2^e≤a) (hmost : a<2^53*2^e) :
    lastPlace a=e := by
  have hpos : 0<a := lt_of_lt_of_le (mul_pos (by norm_num) (place_pos e)) hleast
  have habs := abs_of_pos hpos
  exact le_antisymm (lastPlace_le hpos.ne' he (habs.trans_lt hmost))
    (le_lastPlace hpos.ne' (hleast.trans_eq habs.symm))

/-- Every other float is passed by a sum of an amount that fits: three halves of its last
place leave a half, which is rounded up twice. -/
theorem exists_fl_add_gt (hb : fl b=b) (hpos : 0≤b) (h : ¬Steady b) :
    ∃ u a,fl u=u ∧ fl a=a ∧ 0≤u ∧ u≤b ∧ 0≤a ∧ a≤ fl (b-u) ∧ b< fl (u+a) := by
  unfold Steady at h
  push Not at h
  obtain ⟨hplace,hodd,hmany⟩ := h
  have hb0 : 0<b := by
    rcases hpos.eq_or_lt with rfl | hlt
    · exact absurd (by decide +kernel) hodd
    · exact hlt
  have hsmallest : -1074<lastPlace b := (least_place b).lt_of_ne hplace.symm
  have hdigits := significand_lt hb hb0
  have hfloat := eq_of_float hb
  generalize significand b=n at hodd hmany hdigits hfloat
  generalize lastPlace b=e at hsmallest hfloat
  have hunit := place_pos e
  have hhalf : (2 : ℚ)^(e-1)=2^e/2 := zpow_sub_one₀ two_ne_zero e
  have hmany' : (2 : ℚ)^52+3≤n := by
    have hnext : 2^52+3≤n := by omega
    exact_mod_cast hnext
  have hdigits' : (n : ℚ)+1≤2^53 := by exact_mod_cast Int.add_one_le_iff.mpr hdigits
  have hleast := mul_le_mul_of_nonneg_right hmany' hunit.le
  have hmost := mul_le_mul_of_nonneg_right hdigits' hunit.le
  have hleft : lastPlace (b-3*2^(e-1))=e := by
    refine lastPlace_eq hsmallest.le ?_ ?_
    · rw [hhalf,hfloat]
      linarith
    · rw [hhalf,hfloat]
      linarith
  have hsum : lastPlace (3*2^(e-1)+(n-1)*2^e)=e := by
    refine lastPlace_eq hsmallest.le ?_ ?_
    · rw [hhalf]
      linarith
    · rw [hhalf]
      linarith
  refine ⟨3*2^(e-1),(n-1)*2^e,?_,?_,by positivity,?_,?_,?_,?_⟩
  · exact_mod_cast fl_of_digits (m := 3) (by norm_num) (Int.le_sub_one_of_lt hsmallest)
  · have hfew : |n-1|<2^53 := by
      rw [abs_of_nonneg (by omega)]
      omega
    exact_mod_cast fl_of_digits hfew hsmallest.le
  · rw [hhalf,hfloat]
    linarith
  · exact mul_nonneg (by linarith) hunit.le
  · have hround := le_fl_of_half (n := n-1) (by omega) hleft (by
      rw [hhalf,hfloat]
      push_cast
      linarith)
    exact_mod_cast hround
  · have hround := le_fl_of_half (n := n+1) (by omega) hsum (by
      rw [hhalf]
      push_cast
      linarith)
    push_cast at hround
    linarith

end Room

end Aqts.Binary64
