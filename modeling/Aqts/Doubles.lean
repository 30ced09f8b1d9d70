import Aqts.Binary64

/-!
# Floats with infinities and not-a-number

Python's floats: finite ones of double precision, the two infinities and `nan`.
Operations round, a result out of range is infinite, and what has no value is `nan`,
which no comparison is true of. The zero has no sign. Sums of floats that are not
negative are no smaller for larger summands.
-/

namespace Aqts.Doubles

open Binary64

/-- A finite float. -/
structure Finite where
  /-- Its value. -/
  value : ℚ
  /-- It is not rounded again. -/
  float : fl value=value
  /-- It is in the range. -/
  small : |value|<2^1024
  deriving DecidableEq

/-- A float. -/
inductive Double
  /-- Finite. -/
  | number (x : Finite)
  /-- An infinity, with its sign. -/
  | infinite (positive : Bool)
  /-- Not a number. -/
  | nan
  deriving DecidableEq

namespace Double

/-- The float next to a number, as a literal or a result. -/
def round (x : ℚ) : Double :=
  if h : |fl x|<2^1024 then .number ⟨fl x,fl_fl x,h⟩ else .infinite (decide (0<x))

instance : Zero Double := ⟨.round 0⟩

/-- The sum of two floats. -/
def add : Double→Double→Double
  | .number x,.number y => .round (x.value+y.value)
  | .infinite positive,.infinite positive' =>
    if positive=positive' then .infinite positive else .nan
  | .infinite positive,.number _ => .infinite positive
  | .number _,.infinite positive => .infinite positive
  | .nan,_ => .nan
  | _,.nan => .nan

/-- The difference of two floats. -/
def sub : Double→Double→Double
  | .number x,.number y => .round (x.value-y.value)
  | .infinite positive,.infinite positive' =>
    if positive=positive' then .nan else .infinite positive
  | .infinite positive,.number _ => .infinite positive
  | .number _,.infinite positive => .infinite !positive
  | .nan,_ => .nan
  | _,.nan => .nan

/-- An infinity times a number. -/
def scale (positive : Bool) (x : ℚ) : Double :=
  if x=0 then .nan else .infinite (positive==decide (0<x))

/-- The product of two floats. -/
def mul : Double→Double→Double
  | .number x,.number y => .round (x.value*y.value)
  | .infinite positive,.infinite positive' => .infinite (positive==positive')
  | .infinite positive,.number x => scale positive x.value
  | .number x,.infinite positive => scale positive x.value
  | .nan,_ => .nan
  | _,.nan => .nan

/-- The absolute value. -/
def abs : Double→Double
  | .number x => .round |x.value|
  | .infinite _ => .infinite true
  | .nan => .nan

instance : Add Double := ⟨add⟩

instance : Sub Double := ⟨sub⟩

instance : Mul Double := ⟨mul⟩

/-- Python's `x <= y`. -/
def Le : Double→Double→Prop
  | .number x,.number y => x.value≤y.value
  | .infinite positive,.infinite positive' => positive=true→positive'=true
  | .infinite positive,.number _ => positive=false
  | .number _,.infinite positive => positive=true
  | .nan,_ => False
  | _,.nan => False

/-- Python's `x < y`. -/
def Lt : Double→Double→Prop
  | .number x,.number y => x.value<y.value
  | .infinite positive,.infinite positive' => positive=false ∧ positive'=true
  | .infinite positive,.number _ => positive=false
  | .number _,.infinite positive => positive=true
  | .nan,_ => False
  | _,.nan => False

instance : LE Double := ⟨Le⟩

instance : LT Double := ⟨Lt⟩

instance : (x y : Double)→Decidable (x≤y)
  | .number x,.number y => inferInstanceAs (Decidable (x.value≤y.value))
  | .infinite positive,.infinite positive' =>
    inferInstanceAs (Decidable (positive=true→positive'=true))
  | .infinite positive,.number _ => inferInstanceAs (Decidable (positive=false))
  | .number _,.infinite positive => inferInstanceAs (Decidable (positive=true))
  | .nan,_ => .isFalse id
  | .number _,.nan => .isFalse id
  | .infinite _,.nan => .isFalse id

instance : (x y : Double)→Decidable (x<y)
  | .number x,.number y => inferInstanceAs (Decidable (x.value<y.value))
  | .infinite positive,.infinite positive' =>
    inferInstanceAs (Decidable (positive=false ∧ positive'=true))
  | .infinite positive,.number _ => inferInstanceAs (Decidable (positive=false))
  | .number _,.infinite positive => inferInstanceAs (Decidable (positive=true))
  | .nan,_ => .isFalse id
  | .number _,.nan => .isFalse id
  | .infinite _,.nan => .isFalse id

/-- Python's `sum` of floats, one after the other. -/
def sum (values : List Double) : Double := values.foldl (·+·) 0

/-- A float that sums of amounts that fit cannot grow past; only a finite one can be. -/
def Steady : Double→Prop
  | .number x => Binary64.Steady x.value
  | .infinite _ => True
  | .nan => True

instance : (x : Double)→Decidable x.Steady
  | .number x => inferInstanceAs (Decidable (Binary64.Steady x.value))
  | .infinite _ => .isTrue trivial
  | .nan => .isTrue trivial

end Double

section Order

variable {x y z : Double}

/-- A finite float is next to itself. -/
theorem round_value (x : Finite) : Double.round x.value=.number x := by
  have hsmall : |fl x.value|<2^1024 := by
    rw [x.float]
    exact x.small
  unfold Double.round
  rw [dif_pos hsmall]
  refine congrArg Double.number ?_
  cases x with
  | mk value float small => exact Finite.mk.injEq .. ▸ float

/-- Zero is in the range. -/
theorem zero_small : |(0 : ℚ)|<2^1024 := by
  rw [abs_zero]
  positivity

/-- The zero is a number. -/
theorem zero_eq : (0 : Double)=.number ⟨0,fl_zero,zero_small⟩ :=
  round_value ⟨0,fl_zero,zero_small⟩

/-- Floats that are not below zero are numbers that are not, or the positive infinity. -/
theorem nonneg_cases (h : 0≤x) :
    (∃ n : Finite,0≤n.value ∧ x=.number n) ∨ x=.infinite true := by
  rw [zero_eq] at h
  cases x with
  | number n => exact .inl ⟨n,h,rfl⟩
  | infinite positive => exact .inr (congrArg _ h)
  | nan => exact absurd h id

/-- A number is not below zero if its value is not. -/
theorem number_nonneg {n : Finite} (h : 0≤n.value) : 0≤Double.number n := by
  rw [zero_eq]
  exact h

/-- The positive infinity is not below zero. -/
theorem infinite_nonneg : 0≤Double.infinite true := by
  rw [zero_eq]
  exact rfl

/-- Zero is not below zero. -/
theorem zero_nonneg : (0 : Double)≤0 := by
  rw [zero_eq]
  exact le_refl (0 : ℚ)

/-- What is not below zero, and is a number, is not negative. -/
theorem nonneg_of_not_lt (h : ¬x<0) (hle : x≤y) : 0≤x := by
  rw [zero_eq] at h ⊢
  cases x with
  | number n => exact not_lt (α := ℚ).mp h
  | infinite positive => exact Bool.eq_true_of_not_eq_false h
  | nan => exact absurd hle (by cases y <;> exact id)

/-- Nothing that is a number is above the positive infinity. -/
theorem le_infinite (h : 0≤x) : x≤.infinite true := by
  rcases nonneg_cases h with ⟨n,_,rfl⟩ | rfl
  · exact rfl
  · exact fun _ => rfl

/-- A float that is not below zero is at most itself. -/
theorem le_refl_of_nonneg (h : 0≤x) : x≤x := by
  rcases nonneg_cases h with ⟨n,_,rfl⟩ | rfl
  · exact le_refl n.value
  · exact id

/-- The order of floats that are not below zero. -/
theorem le_trans_of_nonneg (hx : 0≤x) (hxy : x≤y) (hyz : y≤z) : x≤z := by
  rcases nonneg_cases hx with ⟨n,_,rfl⟩ | rfl
  · cases y with
    | number m =>
      cases z with
      | number k => exact le_trans (α := ℚ) hxy hyz
      | infinite positive => exact hyz
      | nan => exact absurd hyz id
    | infinite positive =>
      cases z with
      | number k => exact absurd (hxy.symm.trans hyz) (by decide)
      | infinite positive' => exact hyz hxy
      | nan => exact absurd hyz id
    | nan => exact absurd hxy id
  · cases y with
    | number m => exact Bool.noConfusion hxy
    | infinite positive =>
      cases z with
      | number k => exact absurd ((hxy rfl).symm.trans hyz) (by decide)
      | infinite positive' => exact fun _ => hyz (hxy rfl)
      | nan => exact absurd hyz id
    | nan => exact absurd hxy id

/-- Rounding numbers that are not negative keeps their order, in the range and out of it. -/
theorem round_mono {a b : ℚ} (ha : 0≤a) (hab : a≤b) :
    0≤Double.round a ∧ Double.round a≤Double.round b := by
  have hnonneg := fl_nonneg ha
  have hmono := fl_mono ha hab
  have hsign : ∀ c : ℚ,0≤ c→¬|fl c|<2^1024→Double.round c=.infinite true := by
    intro c hc hlarge
    unfold Double.round
    rw [dif_neg hlarge]
    refine congrArg Double.infinite (decide_eq_true (hc.lt_of_ne ?_))
    rintro rfl
    rw [fl_zero] at hlarge
    norm_num at hlarge
  by_cases hb : |fl b|<2^1024
  · have hsmall : |fl a|<2^1024 := by
      rw [abs_of_nonneg hnonneg]
      rw [abs_of_nonneg (hnonneg.trans hmono)] at hb
      exact hmono.trans_lt hb
    unfold Double.round
    rw [dif_pos hb,dif_pos hsmall]
    exact ⟨number_nonneg hnonneg,hmono⟩
  · rw [hsign b (ha.trans hab) hb]
    have hround : 0≤Double.round a := by
      by_cases hsmall : |fl a|<2^1024
      · unfold Double.round
        rw [dif_pos hsmall]
        exact number_nonneg hnonneg
      · rw [hsign a ha hsmall]
        exact infinite_nonneg
    exact ⟨hround,le_infinite hround⟩

end Order

section Sums

variable {x x' y y' : Double}

/-- A float that is not negative plus zero. -/
theorem zero_add_of_nonneg (h : 0≤x) : 0+x=x := by
  rw [zero_eq]
  rcases nonneg_cases h with ⟨n,_,rfl⟩ | rfl
  · refine (congrArg Double.round ?_).trans (round_value n)
    exact zero_add n.value
  · rfl

/-- A float that is not negative less zero. -/
theorem sub_zero_of_nonneg (h : 0≤x) : x-0=x := by
  rw [zero_eq]
  rcases nonneg_cases h with ⟨n,_,rfl⟩ | rfl
  · refine (congrArg Double.round ?_).trans (round_value n)
    exact sub_zero n.value
  · rfl

/-- The sum of floats that are not negative is not. -/
theorem add_nonneg (hx : 0≤x) (hy : 0≤y) : 0≤x+y := by
  rcases nonneg_cases hx with ⟨n,hn,rfl⟩ | rfl
  · rcases nonneg_cases hy with ⟨m,hm,rfl⟩ | rfl
    · exact (round_mono (Left.add_nonneg hn hm) le_rfl).1
    · exact infinite_nonneg
  · rcases nonneg_cases hy with ⟨m,hm,rfl⟩ | rfl
    · exact infinite_nonneg
    · exact infinite_nonneg

/-- Sums of floats that are not negative grow with their summands. -/
theorem add_mono (hx : 0≤x) (hx' : x≤x') (hy : 0≤y) (hy' : y≤y') : x+y≤x'+y' := by
  have hsum := add_nonneg hx hy
  rcases nonneg_cases (le_trans_of_nonneg zero_nonneg hx hx') with ⟨n',hn',rfl⟩ | rfl
  · rcases nonneg_cases (le_trans_of_nonneg zero_nonneg hy hy') with ⟨m',hm',rfl⟩ | rfl
    · rcases nonneg_cases hx with ⟨n,hn,rfl⟩ | rfl
      · rcases nonneg_cases hy with ⟨m,hm,rfl⟩ | rfl
        · have hle : n.value+m.value≤n'.value+m'.value := add_le_add hx' hy'
          exact (round_mono (Left.add_nonneg hn hm) hle).2
        · exact Bool.noConfusion hy'
      · exact Bool.noConfusion hx'
    · exact le_infinite hsum
  · rcases nonneg_cases (le_trans_of_nonneg zero_nonneg hy hy') with ⟨m',hm',rfl⟩ | rfl
    · exact le_infinite hsum
    · exact le_infinite hsum

/-- Running sums of floats that are not negative grow with their summands. -/
theorem sum_mono {α : Type*} {keys : List α} {f g : α→Double}
    (h : ∀ key∈keys,0≤f key ∧ f key≤g key) :
    0≤Double.sum (keys.map f) ∧ Double.sum (keys.map f)≤Double.sum (keys.map g) := by
  have hrun : ∀ total total' : Double,0≤total→total≤total'→
      0≤(keys.map f).foldl (·+·) total ∧
        (keys.map f).foldl (·+·) total≤(keys.map g).foldl (·+·) total' := by
    induction keys with
    | nil => exact fun _ _ htotal hle => ⟨htotal,hle⟩
    | cons key keys ih =>
      intro total total' htotal hle
      obtain ⟨hnonneg,hmore⟩ := h key List.mem_cons_self
      exact ih (fun other hother => h other (List.mem_cons_of_mem _ hother)) _ _
        (add_nonneg htotal hnonneg) (add_mono htotal hle hnonneg hmore)
  exact hrun 0 0 zero_nonneg zero_nonneg

end Sums

section Room

variable {b u a : Double}

/-- A number below one in the range is in the range. -/
theorem round_of_le {x : ℚ} {n : Finite} (hx : 0≤x) (hle : fl x≤n.value) :
    ∃ m : Finite,Double.round x=.number m ∧ m.value=fl x := by
  have hsmall : |fl x|<2^1024 := by
    rw [abs_of_nonneg (fl_nonneg hx)]
    exact hle.trans_lt ((le_abs_self _).trans_lt n.small)
  refine ⟨⟨fl x,fl_fl x,hsmall⟩,?_,rfl⟩
  unfold Double.round
  exact dif_pos hsmall

/-- An amount that fits into what is left of a steady float does not grow past it. -/
theorem add_le_of_fits (hb : 0≤b) (hsteady : b.Steady) (hu : 0≤u) (hle : u≤b) (ha : ¬a<0)
    (hfits : a≤b-u) : 0≤u+a ∧ u+a≤b := by
  have hamount := nonneg_of_not_lt ha hfits
  refine ⟨add_nonneg hu hamount,?_⟩
  rcases nonneg_cases hb with ⟨n,hn,rfl⟩ | rfl
  · rcases nonneg_cases hu with ⟨m,hm,rfl⟩ | rfl
    · have hleft : 0≤n.value-m.value := sub_nonneg.mpr hle
      have hmost : fl (n.value-m.value)≤n.value :=
        (fl_mono hleft (sub_le_self _ hm)).trans_eq n.float
      obtain ⟨left,hround,hvalue⟩ := round_of_le hleft hmost
      have hsame : Double.number n-Double.number m=.number left := hround
      rw [hsame] at hfits
      rcases nonneg_cases hamount with ⟨k,hk,rfl⟩ | rfl
      · have hroom : k.value≤ fl (n.value-m.value) := hvalue ▸ hfits
        have hsum := fl_add_le n.float hsteady m.float hm hle hk hroom
        obtain ⟨total,htotal,hvalue'⟩ := round_of_le (Left.add_nonneg hm hk) hsum
        have hresult : Double.number m+Double.number k=.number total := htotal
        rw [hresult]
        exact hvalue'.trans_le hsum
      · exact Bool.noConfusion hfits
    · exact Bool.noConfusion hle
  · exact le_infinite (add_nonneg hu hamount)

/-- All of a float fits into it. -/
theorem fits_full (hb : 0≤b) : ¬b<0 ∧ b≤b-0 ∧ 0+b=b := by
  refine ⟨?_,?_,zero_add_of_nonneg hb⟩
  · rw [zero_eq] at hb ⊢
    rcases nonneg_cases (zero_eq ▸ hb) with ⟨n,hn,rfl⟩ | rfl
    · exact not_lt.mpr hn
    · exact Bool.noConfusion
  · rw [sub_zero_of_nonneg hb]
    exact le_refl_of_nonneg hb

/-- A float that is not steady is passed by an amount that fits into what is left. -/
theorem exists_exceeding (hb : 0≤b) (h : ¬b.Steady) :
    ∃ u a,0≤u ∧ u≤b ∧ 0≤a ∧ a≤b-u ∧ ¬u+a≤b := by
  rcases nonneg_cases hb with ⟨n,hn,rfl⟩ | rfl
  · obtain ⟨u,a,hu,ha,hunonneg,hle,hanonneg,hfits,hpast⟩ := exists_fl_add_gt n.float hn h
    have hleft : 0≤n.value-u := sub_nonneg.mpr hle
    have hmost : fl (n.value-u)≤n.value :=
      (fl_mono hleft (sub_le_self _ hunonneg)).trans_eq n.float
    obtain ⟨left,hround,hvalue⟩ := round_of_le hleft hmost
    have hsmall : ∀ x,0≤x→x≤n.value→|x|<2^1024 := by
      intro x hx hxn
      rw [abs_of_nonneg hx]
      exact hxn.trans_lt ((le_abs_self _).trans_lt n.small)
    refine ⟨.number ⟨u,hu,hsmall u hunonneg hle⟩,
      .number ⟨a,ha,hsmall a hanonneg (hfits.trans hmost)⟩,number_nonneg hunonneg,hle,
      number_nonneg hanonneg,?_,?_⟩
    · have hsame : Double.number n-Double.number ⟨u,hu,hsmall u hunonneg hle⟩=
          .number left := hround
      rw [hsame]
      exact hfits.trans_eq hvalue.symm
    · intro hsum
      have hrounded : Double.round (u+a)≤.number n := hsum
      unfold Double.round at hrounded
      split at hrounded
      · exact absurd hrounded (not_le.mpr hpast)
      · have hpos : 0<u+a := by
          by_contra hnot
          have hzero : u+a=0 := le_antisymm (not_lt.mp hnot) (Left.add_nonneg hunonneg hanonneg)
          rw [hzero,fl_zero] at hpast
          exact absurd hn (not_le.mpr hpast)
        rw [decide_eq_true hpos] at hrounded
        exact Bool.noConfusion hrounded
  · exact absurd trivial h

end Room

end Aqts.Doubles
