import Mathlib.Algebra.Order.Field.Basic
import Mathlib.Algebra.Order.Floor.Ring
import Mathlib.Data.List.Sort
import Aqts.CausalSeries

/-!
# Series of floats

Floats with exact numbers: what is no number and the two infinities behave as they do
in a series, and numbers are not rounded by the arithmetic. Rolling and exponential
means take infinities for missing. Every operation on series here is causal; the
median of a whole series is not one of them.
-/

namespace Aqts.PandasSeries

open CausalSeries

/-- A float. -/
inductive Value (K : Type*)
  /-- `nan`. -/
  | missing
  /-- An infinity. -/
  | infinite (negative : Bool)
  /-- A number. -/
  | number (x : K)
  deriving DecidableEq

/-- A column. -/
abbrev Series (K : Type*) := List (Value K)

variable {K : Type*}

/-- A number, if the value is one. -/
def Value.finite : Value K→Option K
  | .number x => some x
  | _ => none

/-- `fillna`. -/
def Value.fillna (v fill : Value K) : Value K :=
  match v with
  | .missing => fill
  | _ => v

section Rows

variable {α : Type*} {f : List α→Series K}

/-- `rolling(window, min_periods)`, of the numbers in the window. -/
def rolling (window minPeriods : ℕ) (g : List K→Value K) (s : Series K) : Series K :=
  trailing window (fun last =>
    let xs := last.filterMap Value.finite
    if xs.length< minPeriods then .missing else g xs) s

/-- `shift`. -/
def shifted (k : ℕ) (s : Series K) : Series K := shift .missing k s

/-- `ffill`. -/
def ffill (s : Series K) : Series K :=
  scan (fun last v =>
    let filled := v.fillna last
    (filled,filled)) .missing s

/-- Rolling values are as many. -/
@[simp] theorem rolling_length (window minPeriods : ℕ) (g : List K→Value K) (s : Series K) :
    (rolling window minPeriods g s).length=s.length := trailing_length _ _ _

/-- A rolling value is that of the last rows. -/
theorem rolling_row_same {window minPeriods : ℕ} {g : List K→Value K} {s s' : Series K} {t : ℕ}
    (ht : t< s.length) (ht' : t< s'.length)
    (h : (s.take (t+1)).drop (t+1-window)=(s'.take (t+1)).drop (t+1-window)) :
    (rolling window minPeriods g s)[t]?=(rolling window minPeriods g s')[t]? := by
  unfold rolling
  rw [trailing_row window _ ht,trailing_row window _ ht',h]

/-- Rows that are too few have no rolling value. -/
theorem rolling_row_missing {window minPeriods : ℕ} {g : List K→Value K} {s : Series K} {t : ℕ}
    (ht : t< s.length) (h : t+1< minPeriods) :
    (rolling window minPeriods g s)[t]?=some .missing := by
  unfold rolling
  rw [trailing_row window _ ht]
  have hle := List.length_filterMap_le Value.finite ((s.take (t+1)).drop (t+1-window))
  rw [List.length_drop,List.length_take] at hle
  exact congrArg some (if_pos (by omega))

/-- Shifted values are as many. -/
@[simp] theorem shifted_length (k : ℕ) (s : Series K) : (shifted k s).length=s.length :=
  shift_length _ _ _

/-- Filled values are as many. -/
@[simp] theorem ffill_length (s : Series K) : (ffill s).length=s.length := scan_length _ _ _

/-- Rolling values are causal. -/
theorem causal_rolling (hf : Causal f) (window minPeriods : ℕ) (g : List K→Value K) :
    Causal fun xs => rolling window minPeriods g (f xs) :=
  (causal_trailing window _).comp hf

/-- Shifts are causal. -/
theorem causal_shifted (hf : Causal f) (k : ℕ) : Causal fun xs => shifted k (f xs) :=
  (causal_shift _ _).comp hf

/-- Filled values are causal. -/
theorem causal_ffill (hf : Causal f) : Causal fun xs => ffill (f xs) :=
  (causal_scan _ _).comp hf

end Rows

section Smoothing

variable [Field K] {α : Type*} {f : List α→Series K}

/-- What an exponential mean carries along. -/
structure Smoothing (K : Type*) where
  /-- `weighted`. -/
  weighted : Option K
  /-- `old_wt`. -/
  oldWeight : K
  /-- `nobs`. -/
  count : ℕ

/-- One row of an exponential mean. -/
def Smoothing.step (alpha : K) (minPeriods : ℕ) (s : Smoothing K) (v : Value K) :
    Smoothing K×Value K :=
  let next : Smoothing K := match s.weighted,v.finite with
    | none,none => s
    | none,some x => ⟨some x,s.oldWeight,s.count+1⟩
    | some w,none => ⟨some w,s.oldWeight*(1-alpha),s.count⟩
    | some w,some x =>
      let old := s.oldWeight*(1-alpha)
      ⟨some ((old*w+alpha*x)/(old+alpha)),1,s.count+1⟩
  let out := match next.weighted with
    | none => .missing
    | some w => if next.count< minPeriods then .missing else .number w
  (next,out)

/-- `ewm(alpha, min_periods, adjust=False).mean()`. -/
def ewmMean (alpha : K) (minPeriods : ℕ) (s : Series K) : Series K :=
  scan (Smoothing.step alpha minPeriods) ⟨none,1,0⟩ s

/-- Exponential means are as many. -/
@[simp] theorem ewmMean_length (alpha : K) (minPeriods : ℕ) (s : Series K) :
    (ewmMean alpha minPeriods s).length=s.length := scan_length _ _ _

/-- Exponential means are causal. -/
theorem causal_ewmMean (hf : Causal f) (alpha : K) (minPeriods : ℕ) :
    Causal fun xs => ewmMean alpha minPeriods (f xs) :=
  (causal_scan _ _).comp hf

end Smoothing

section Arithmetic

variable [Field K] [LinearOrder K]

/-- Whether a number is below zero. -/
def negative (x : K) : Bool := decide (x<0)

instance : Neg (Value K) where
  neg
    | .missing => .missing
    | .infinite a => .infinite (!a)
    | .number x => .number (-x)

instance : Add (Value K) where
  add
    | .missing,_ => .missing
    | _,.missing => .missing
    | .infinite a,.infinite b => if a=b then .infinite a else .missing
    | .infinite a,.number _ => .infinite a
    | .number _,.infinite b => .infinite b
    | .number x,.number y => .number (x+y)

instance : Sub (Value K) where
  sub v w := v+(-w)

instance : Mul (Value K) where
  mul
    | .missing,_ => .missing
    | _,.missing => .missing
    | .infinite a,.infinite b => .infinite (a^^b)
    | .infinite a,.number y => if y=0 then .missing else .infinite (a^^negative y)
    | .number x,.infinite b => if x=0 then .missing else .infinite (negative x^^b)
    | .number x,.number y => .number (x*y)

instance : Div (Value K) where
  div
    | .missing,_ => .missing
    | _,.missing => .missing
    | .infinite _,.infinite _ => .missing
    | .infinite a,.number y => .infinite (a^^negative y)
    | .number _,.infinite _ => .number 0
    | .number x,.number y =>
      if y=0 then (if x=0 then .missing else .infinite (negative x)) else .number (x/y)

/-- `<`, which holds of no missing value. -/
def Value.below : Value K→Value K→Bool
  | .missing,_ => false
  | _,.missing => false
  | .infinite a,.infinite b => a && !b
  | .infinite a,.number _ => a
  | .number _,.infinite b => !b
  | .number x,.number y => decide (x<y)

/-- `abs`. -/
def Value.abs : Value K→Value K
  | .missing => .missing
  | .infinite _ => .infinite false
  | .number x => .number |x|

/-- `clip`. -/
def Value.clip (lower upper : K) : Value K→Value K
  | .missing => .missing
  | .infinite a => .number (if a=true then lower else upper)
  | .number x => .number (min (max x lower) upper)

/-- `clip(lower=...)`. -/
def Value.clipBelow (lower : K) : Value K→Value K
  | .missing => .missing
  | .infinite a => if a=true then .number lower else .infinite false
  | .number x => .number (max x lower)

/-- `replace(0, np.nan)`. -/
def Value.nonzero : Value K→Value K
  | .number x => if x=0 then .missing else .number x
  | v => v

/-- `fillna` and `clip`, which leave a number. -/
def Value.fillnaClip (fill lower upper : K) : Value K→K
  | .missing => min (max fill lower) upper
  | .infinite a => if a=true then lower else upper
  | .number x => min (max x lower) upper

/-- The larger one of two values, of those that are not missing. -/
def Value.larger : Value K→Value K→Value K
  | .missing,w => w
  | v,.missing => v
  | v,w => if v.below w=true then w else v

/-- `np.maximum`, which keeps what is missing. -/
def Value.npMaximum (v w : Value K) : Value K :=
  if v=.missing ∨ w=.missing then .missing else v.larger w

/-- `max` of two floats: the first one unless the second one is larger. -/
def Value.pyMax (v w : Value K) : Value K := if v.below w=true then w else v

/-- `min` of two floats: the first one unless the second one is smaller. -/
def Value.pyMin (v w : Value K) : Value K := if w.below v=true then w else v

/-- The nearest integer, the even one of two. -/
def roundHalfEven [FloorRing K] (x : K) : ℤ :=
  let rest := x-⌊x⌋
  if rest<0.5 then ⌊x⌋
  else if 0.5< rest then ⌊x⌋+1
  else if ⌊x⌋%2=0 then ⌊x⌋ else ⌊x⌋+1

/-- `round(4)`. -/
def Value.round4 [FloorRing K] : Value K→Value K
  | .number x => .number ((roundHalfEven (x*10000.0) : K)/10000.0)
  | v => v

end Arithmetic

section Operations

variable [Field K] {α : Type*} {f : List α→Series K}

/-- `diff`. -/
def diff (s : Series K) : Series K := List.zipWith (fun v before => v-before) s (shifted 1 s)

/-- The mean of some numbers. -/
def mean (xs : List K) : K := xs.foldl (· + ·) 0/xs.length

/-- The deviation of a sample, of two numbers at least. -/
def std (sqrt : K→K) (xs : List K) : Value K :=
  if xs.length≤1 then .missing
  else .number (sqrt ((xs.map fun x => (x-mean xs)*(x-mean xs)).foldl (· + ·) 0/(xs.length-1)))

/-- `rolling(...).mean()`. -/
def rollingMean (window minPeriods : ℕ) (s : Series K) : Series K :=
  rolling window minPeriods (fun xs => .number (mean xs)) s

/-- `rolling(...).std()`. -/
def rollingStd (sqrt : K→K) (window : ℕ) (s : Series K) : Series K :=
  rolling window window (std sqrt) s

/-- Rolling means are as many. -/
@[simp] theorem rollingMean_length (window minPeriods : ℕ) (s : Series K) :
    (rollingMean window minPeriods s).length=s.length := rolling_length _ _ _ _

/-- Differences are causal. -/
theorem causal_diff (hf : Causal f) : Causal fun xs => diff (f xs) :=
  hf.zipWith (causal_shifted hf 1) _

/-- Rolling means are causal. -/
theorem causal_rollingMean (hf : Causal f) (window minPeriods : ℕ) :
    Causal fun xs => rollingMean window minPeriods (f xs) :=
  causal_rolling hf window minPeriods fun xs => .number (mean xs)

/-- Rolling deviations are causal. -/
theorem causal_rollingStd (hf : Causal f) (sqrt : K→K) (window : ℕ) :
    Causal fun xs => rollingStd sqrt window (f xs) :=
  causal_rolling hf window window (std sqrt)

variable [LinearOrder K]

/-- The middle of some values. -/
def median (vs : Series K) : Value K :=
  let sorted := vs.insertionSort fun v w => w.below v=false
  let n := sorted.length
  if n%2=1 then sorted.getD (n/2) .missing
  else (sorted.getD (n/2-1) .missing+sorted.getD (n/2) .missing)/.number 2.0

/-- `Series.median`: the middle of all values that are not missing. -/
def seriesMedian (s : Series K) : Value K := median (s.filter fun v => v≠.missing)

/-- `rolling(...).median()`. -/
def rollingMedian (window minPeriods : ℕ) (s : Series K) : Series K :=
  rolling window minPeriods (fun xs => median (xs.map Value.number)) s

/-- `pct_change`, after a forward fill. -/
def pctChange (k : ℕ) (s : Series K) : Series K :=
  List.zipWith (fun v before => v/before-.number 1) (ffill s) (shifted k (ffill s))

/-- Rolling medians are as many. -/
@[simp] theorem rollingMedian_length (window minPeriods : ℕ) (s : Series K) :
    (rollingMedian window minPeriods s).length=s.length := rolling_length _ _ _ _

/-- Relative changes are as many. -/
@[simp] theorem pctChange_length (k : ℕ) (s : Series K) : (pctChange k s).length=s.length := by
  simp [pctChange]

/-- Relative changes are causal. -/
theorem causal_pctChange (hf : Causal f) (k : ℕ) : Causal fun xs => pctChange k (f xs) :=
  (causal_ffill hf).zipWith (causal_shifted (causal_ffill hf) k) _

end Operations

end Aqts.PandasSeries
