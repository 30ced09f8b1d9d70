import Mathlib.Tactic.Linarith
import Mathlib.Tactic.NormNum
import Mathlib.Tactic.Ring
import Aqts.PandasSeries

/-!
# Rounding to the even one of two

`roundHalfEven` moves a number by a half at most, and an even integer bounds the result
exactly if it bounds the number up to a half.
-/

namespace Aqts.PandasSeries

variable {K : Type*} [Field K] [LinearOrder K] [IsStrictOrderedRing K] [FloorRing K]

/-- The nearest integer: below, above, and of two the even one. -/
inductive NearestEven (x : K) (n : ℤ) : Prop
  /-- The integer is below. -/
  | below (least : (n : K)≤x) (near : x<n+1/2)
  /-- The integer is above. -/
  | above (near : (n : K)-1/2<x) (largest : x<n)
  /-- The number is a half above an even integer. -/
  | halfAbove (half : x=n+1/2) (even : n%2=0)
  /-- The number is a half below an even integer. -/
  | halfBelow (half : x=n-1/2) (even : n%2=0)

/-- What `roundHalfEven` gives is the nearest integer. -/
theorem nearestEven (x : K) : NearestEven x (roundHalfEven x) := by
  have hhalf : (0.5 : K)=1/2 := by norm_num
  have hfloor := Int.floor_le x
  have hnext := Int.lt_floor_add_one x
  unfold roundHalfEven
  dsimp only
  rw [hhalf]
  split
  · rename_i hless
    exact .below hfloor (by linarith)
  · rename_i hnot
    split
    · rename_i hmore
      refine .above ?_ ?_
      · push_cast
        linarith
      · push_cast
        exact hnext
    · rename_i hnot'
      have hmiddle : x=⌊x⌋+1/2 := by linarith [not_lt.mp hnot,not_lt.mp hnot']
      split
      · rename_i heven
        exact .halfAbove hmiddle heven
      · rename_i hodd
        refine .halfBelow ?_ (by omega)
        push_cast
        linarith

/-- The nearest integer is a half away at most. -/
theorem abs_roundHalfEven_sub_le (x : K) : |(roundHalfEven x : K)-x|≤1/2 := by
  rw [abs_le]
  rcases nearestEven x with ⟨h,h'⟩ | ⟨h,h'⟩ | ⟨h,_⟩ | ⟨h,_⟩
  · constructor <;> linarith
  · constructor <;> linarith
  · constructor <;> linarith
  · constructor <;> linarith

/-- An even integer is below the nearest one exactly if it is below the number, up to a
half. -/
theorem le_roundHalfEven_iff {n : ℤ} (heven : n%2=0) (x : K) :
    n≤ roundHalfEven x ↔ (n : K)-1/2≤x := by
  constructor
  · intro h
    have hcast : (n : K)≤(roundHalfEven x : K) := Int.cast_le.mpr h
    have hnear := (abs_le.mp (abs_roundHalfEven_sub_le x)).2
    linarith
  · intro h
    by_contra hless
    have hcast : (roundHalfEven x : K)+1≤n := by
      exact_mod_cast Int.add_one_le_iff.mpr (not_le.mp hless)
    rcases nearestEven x with ⟨_,h'⟩ | ⟨_,h'⟩ | ⟨h',hround⟩ | ⟨h',_⟩
    · linarith
    · linarith
    · have hsame : (n : K)=((roundHalfEven x+1 : ℤ) : K) := by
        push_cast
        linarith
      have hnext := Int.cast_injective hsame
      omega
    · linarith

/-- An even integer is above the nearest one exactly if it is above the number, up to a
half. -/
theorem roundHalfEven_le_iff {n : ℤ} (heven : n%2=0) (x : K) :
    roundHalfEven x≤n ↔ x≤(n : K)+1/2 := by
  constructor
  · intro h
    have hcast : (roundHalfEven x : K)≤n := Int.cast_le.mpr h
    have hnear := (abs_le.mp (abs_roundHalfEven_sub_le x)).1
    linarith
  · intro h
    by_contra hless
    have hcast : (n : K)+1≤(roundHalfEven x : K) := by
      exact_mod_cast Int.add_one_le_iff.mpr (not_le.mp hless)
    rcases nearestEven x with ⟨h',_⟩ | ⟨h',_⟩ | ⟨h',_⟩ | ⟨h',hround⟩
    · linarith
    · linarith
    · linarith
    · have hsame : (n : K)=((roundHalfEven x-1 : ℤ) : K) := by
        push_cast
        linarith
      have hnext := Int.cast_injective hsame
      omega

/-- An integer that is a half away at most, and even if it is just a half away, is the
nearest one. -/
theorem roundHalfEven_eq {x : K} {m : ℤ} (hnear : |(m : K)-x|≤1/2)
    (heven : |(m : K)-x|=1/2→m%2=0) : roundHalfEven x=m := by
  obtain ⟨hbelow,habove⟩ := abs_le.mp hnear
  have hle : ∀ {n n' : ℤ},(n : K)<n'+1→n≤n' := by
    intro n n' h
    exact Int.lt_add_one_iff.mp (by exact_mod_cast h)
  rcases nearestEven x with ⟨h,h'⟩ | ⟨h,h'⟩ | ⟨h,hround⟩ | ⟨h,hround⟩
  · exact le_antisymm (hle (by linarith)) (hle (by linarith))
  · exact le_antisymm (hle (by linarith)) (hle (by linarith))
  · have hleast : roundHalfEven x≤ m := hle (by linarith)
    have hmost : m≤ roundHalfEven x+1 := hle (by
      push_cast
      linarith)
    rcases hleast.eq_or_lt with heq | hlt
    · exact heq
    · have hm : m= roundHalfEven x+1 := le_antisymm hmost hlt
      have hhalf : (m : K)-x=1/2 := by
        rw [hm,h]
        push_cast
        rw [← h]
        linarith
      have hsecond := heven (by rw [hhalf]; exact abs_of_pos (by norm_num))
      omega
  · have hmost : m≤ roundHalfEven x := hle (by linarith)
    have hleast : roundHalfEven x-1≤ m := hle (by
      push_cast
      linarith)
    rcases hmost.eq_or_lt with heq | hlt
    · exact heq.symm
    · have hm : m= roundHalfEven x-1 := le_antisymm (Int.le_sub_one_of_lt hlt) hleast
      have hhalf : (m : K)-x= -(1/2) := by
        rw [hm]
        push_cast
        linarith
      have hsecond := heven (by
        rw [hhalf,abs_neg]
        exact abs_of_pos (by norm_num))
      omega

/-- Rounding changes the sign with the number. -/
theorem roundHalfEven_neg (x : K) : roundHalfEven (-x)= -roundHalfEven x := by
  have hdistance : |((-roundHalfEven x : ℤ) : K)- -x|=|(roundHalfEven x : K)-x| := by
    rw [Int.cast_neg,← abs_neg]
    congr 1
    ring
  refine roundHalfEven_eq (hdistance ▸ abs_roundHalfEven_sub_le x) ?_
  rw [hdistance]
  intro hhalf
  rcases nearestEven x with ⟨h,h'⟩ | ⟨h,h'⟩ | ⟨_,hround⟩ | ⟨_,hround⟩
  · rw [abs_of_nonpos (by linarith)] at hhalf
    linarith
  · rw [abs_of_nonneg (by linarith)] at hhalf
    linarith
  · omega
  · omega

/-- Rounding keeps the order. -/
theorem roundHalfEven_mono {x y : K} (h : x≤y) : roundHalfEven x≤ roundHalfEven y := by
  by_contra hless
  have hcast : (roundHalfEven y : K)+1≤ roundHalfEven x := by
    exact_mod_cast Int.add_one_le_iff.mpr (not_le.mp hless)
  have hx := (abs_le.mp (abs_roundHalfEven_sub_le x)).2
  have hy := (abs_le.mp (abs_roundHalfEven_sub_le y)).1
  have hsame : x=y := le_antisymm h (by linarith)
  rw [hsame] at hless
  exact hless le_rfl

/-- An integer is its own rounding. -/
theorem roundHalfEven_intCast (n : ℤ) : roundHalfEven (n : K)=n := by
  refine roundHalfEven_eq ?_ ?_
  · rw [sub_self,abs_zero]
    norm_num
  · intro h
    rw [sub_self,abs_zero] at h
    norm_num at h

end Aqts.PandasSeries
