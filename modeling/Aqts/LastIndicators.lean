import Aqts.ExponentialMeans
import Aqts.SignalGenerator

/-!
# Indicators of the last row

The relative strength and the bands of the last row of a history of numbers. The
relative strength divides by the mean of the falls, so it is missing exactly if no
close is below the one before it. The bands are the mean of the last closes and
their deviation.
-/

namespace Aqts.LastIndicators

open CausalSeries PandasSeries ExponentialMeans TechnicalIndicators SignalGenerator

variable {K : Type*}

/-- Some close is below the one before it. -/
def HasDownMove [LT K] (closes : List K) : Prop :=
  ∃ t before after,closes[t]?=some before ∧ closes[t+1]?=some after ∧ after<before

/-- The last value of a series. -/
theorem lastOf_eq (s : Series K) : lastOf s=(s[s.length-1]?).getD .missing := by
  unfold lastOf
  rw [List.getLastD_eq_getLast?,List.getLast?_eq_getElem?]

section Differences

variable [Field K]

/-- What a function of the difference to the number before is for every row. -/
def movesOf (f : K→K) (xs : List K) : List K :=
  withBefore (fun _ => 0) (fun before x => f (x-before)) xs

/-- There is one for every row. -/
@[simp] theorem movesOf_length (f : K→K) (xs : List K) : (movesOf f xs).length=xs.length :=
  withBefore_length _ _ _

/-- A function of the differences of numbers. -/
theorem map_diff_numbers {g : Value K→Value K} {f : K→K} (hmissing : g .missing=.number 0)
    (hnumber : ∀ d,g (.number d)=.number (f d)) (xs : List K) :
    (diff (xs.map Value.number)).map g=(movesOf f xs).map Value.number := by
  have hdiff : diff (xs.map Value.number)=
      withBefore (fun x => Value.number x-.missing)
        (fun before x => Value.number x-.number before) xs := zipWith_shift (· - ·) _ _ _ xs
  unfold movesOf
  rw [hdiff,map_withBefore,map_withBefore]
  refine congrArg₂ (withBefore · · xs) ?_ ?_
  · funext x
    exact hmissing
  · funext before x
    rw [sub_eq_add_neg x before]
    exact hnumber (x+-before)

/-- The last value of an exponential mean of enough numbers. -/
theorem wilder_last (period : ℕ) {xs : List K} (hsome : xs≠[]) (henough : period≤ xs.length) :
    (wilder period (xs.map Value.number))[xs.length-1]?=
      some (.number (smooth (1/(period : K)) xs)) := by
  have hpos := List.length_pos_of_ne_nil hsome
  have hlast : xs.length-1+1=xs.length := by omega
  unfold wilder
  rw [ewmMean_numbers _ _ (by omega : xs.length-1< xs.length),hlast,List.take_length]
  exact congrArg some (if_neg (not_lt.mpr henough))

end Differences

section Moves

variable [Field K] [LinearOrder K]

/-- The rises of a history. -/
def rises (closes : List K) : List K := movesOf (fun d => max d 0) closes

/-- The falls of a history. -/
def falls (closes : List K) : List K := movesOf (fun d => max (-d) 0) closes

/-- The gains of numbers. -/
theorem gain_numbers (closes : List K) :
    (diff (closes.map Value.number)).map gain=(rises closes).map Value.number := by
  refine map_diff_numbers rfl (fun d => ?_) closes
  unfold gain
  by_cases hd : 0<d
  · have hbelow : Value.below (.number 0) (.number d)=true := decide_eq_true hd
    rw [hbelow,if_pos rfl,max_eq_left hd.le]
  · have hbelow : Value.below (.number 0) (.number d)=false := decide_eq_false hd
    rw [hbelow,if_neg Bool.false_ne_true,max_eq_right (not_lt.mp hd)]

/-- Moves that are cut off at zero are not negative. -/
theorem movesOf_nonneg {f : K→K} (hf : ∀ d,0≤f d) {xs : List K} : ∀ x∈movesOf f xs,0≤x := by
  intro x hx
  cases xs with
  | nil => exact absurd hx List.not_mem_nil
  | cons first rest =>
    unfold movesOf withBefore at hx
    rcases List.mem_cons.mp hx with rfl | hx
    · exact le_rfl
    · obtain ⟨i,hi,rfl⟩ := List.mem_iff_getElem.mp hx
      rw [List.getElem_zipWith]
      exact hf _

end Moves

section Strength

variable [Field K] [LinearOrder K] [IsStrictOrderedRing K]

/-- The losses of numbers. -/
theorem loss_numbers (closes : List K) :
    (diff (closes.map Value.number)).map loss=(falls closes).map Value.number := by
  refine map_diff_numbers rfl (fun d => ?_) closes
  unfold loss
  by_cases hd : d<0
  · have hbelow : Value.below (.number d) (.number 0)=true := decide_eq_true hd
    rw [hbelow,if_pos rfl,max_eq_left (neg_nonneg.mpr hd.le)]
    rfl
  · have hbelow : Value.below (.number d) (.number 0)=false := decide_eq_false hd
    rw [hbelow,if_neg Bool.false_ne_true,max_eq_right (neg_nonpos.mpr (not_lt.mp hd))]

/-- No fall is positive exactly if there is no down-move. -/
theorem falls_eq_zero_iff (closes : List K) :
    (∀ x∈falls closes,x=0) ↔ ¬HasDownMove closes := by
  cases closes with
  | nil =>
    refine iff_of_true (fun x hx => absurd hx List.not_mem_nil) ?_
    rintro ⟨t,before,after,hbefore,_⟩
    rw [List.getElem?_nil] at hbefore
    exact nomatch hbefore
  | cons first rest =>
    unfold falls movesOf withBefore
    rw [List.forall_mem_cons,and_iff_right rfl]
    constructor
    · rintro h ⟨t,before,after,hbefore,hafter,hless⟩
      rw [List.getElem?_cons_succ] at hafter
      have hmem : max (-(after-before)) 0∈
          List.zipWith (fun before x => max (-(x-before)) 0) (first::rest) rest :=
        List.mem_of_getElem? (List.getElem?_zipWith_eq_some.mpr ⟨_,_,hbefore,hafter,rfl⟩)
      have hzero := h _ hmem
      have hle := le_max_left (-(after-before)) 0
      rw [hzero] at hle
      linarith
    · intro h x hx
      obtain ⟨t,ht⟩ := List.mem_iff_getElem?.mp hx
      obtain ⟨before,after,hbefore,hafter,rfl⟩ := List.getElem?_zipWith_eq_some.mp ht
      refine max_eq_right ?_
      by_contra hfall
      exact h ⟨t,before,after,hbefore,hafter,by linarith⟩

/-- The mean of the rises. -/
def avgGain (period : ℕ) (closes : List K) : K := smooth (1/(period : K)) (rises closes)

/-- The mean of the falls. -/
def avgLoss (period : ℕ) (closes : List K) : K := smooth (1/(period : K)) (falls closes)

/-- The last relative strength of enough numbers. -/
theorem rsi_last {period : ℕ} {closes : List K} (hsome : closes≠[])
    (henough : period≤ closes.length) :
    lastOf (rsi (closes.map Value.number) period)=
      rsiOf (.number (avgGain period closes)) (.number (avgLoss period closes)) := by
  have hmoves : ∀ f : K→K,movesOf f closes≠[] := by
    intro f hnil
    have hlength := movesOf_length f closes
    rw [hnil] at hlength
    exact hsome (List.length_eq_zero_iff.mp hlength.symm)
  have hgain := wilder_last period (hmoves fun d => max d 0)
    (by rw [movesOf_length]; exact henough)
  have hloss := wilder_last period (hmoves fun d => max (-d) 0)
    (by rw [movesOf_length]; exact henough)
  rw [movesOf_length] at hgain hloss
  have hrow : (rsi (closes.map Value.number) period)[closes.length-1]?=
      some (rsiOf (.number (avgGain period closes)) (.number (avgLoss period closes))) := by
    unfold rsi
    dsimp only
    rw [gain_numbers,loss_numbers]
    exact List.getElem?_zipWith_eq_some.mpr ⟨_,_,hgain,hloss,rfl⟩
  have hlength : (rsi (closes.map Value.number) period).length=closes.length := by
    unfold rsi wilder diff
    simp
  rw [lastOf_eq,hlength,hrow]
  rfl

/-- The relative strength of a positive mean of falls is a number. -/
theorem rsiOf_of_pos {gains losses : K} (hgains : 0≤gains) (hlosses : 0< losses) :
    rsiOf (.number gains) (.number losses)=.number (100.0+-(100.0/(1+gains/losses))) := by
  have hnonzero : (Value.number losses).nonzero=.number losses := if_neg hlosses.ne'
  have hratio : Value.number gains/.number losses=.number (gains/losses) := if_neg hlosses.ne'
  have hsum : 1+gains/losses≠0 :=
    (add_pos_of_pos_of_nonneg one_pos (div_nonneg hgains hlosses.le)).ne'
  have hstrength : Value.number 100.0/(.number 1+.number (gains/losses))=
      .number (100.0/(1+gains/losses)) := if_neg hsum
  unfold rsiOf
  dsimp only
  rw [hnonzero,hratio,hstrength]
  rfl

/-- The means of a history, of which that of the falls is zero without a down-move. -/
theorem averages {period : ℕ} (hperiod : 1<period) (closes : List K) :
    0≤ avgGain period closes ∧ 0≤ avgLoss period closes ∧
      (avgLoss period closes=0 ↔ ¬HasDownMove closes) := by
  have hcast : (1 : K)<(period : K) := Nat.one_lt_cast.mpr hperiod
  have hpos : (0 : K)<1/(period : K) := div_pos one_pos (one_pos.trans hcast)
  have hless : 1/(period : K)<1 := (div_lt_one (one_pos.trans hcast)).mpr hcast
  have hrises : ∀ x∈rises closes,0≤x := movesOf_nonneg fun d => le_max_right d 0
  have hfalls : ∀ x∈falls closes,0≤x := movesOf_nonneg fun d => le_max_right (-d) 0
  exact ⟨smooth_nonneg hpos.le hless.le hrises,smooth_nonneg hpos.le hless.le hfalls,
    (smooth_eq_zero_iff hpos hless hfalls).trans (falls_eq_zero_iff closes)⟩

/-- The last relative strength is missing without a down-move. -/
theorem rsi_last_missing {period : ℕ} {closes : List K} (hperiod : 1<period)
    (hsome : closes≠[]) (henough : period≤ closes.length) (h : ¬HasDownMove closes) :
    lastOf (rsi (closes.map Value.number) period)=.missing := by
  have hnonzero : (Value.number (0 : K)).nonzero=.missing := if_pos rfl
  rw [rsi_last hsome henough,(averages hperiod closes).2.2.mpr h]
  unfold rsiOf
  dsimp only
  rw [hnonzero]
  rfl

/-- The last relative strength is a number after a down-move. -/
theorem rsi_last_number {period : ℕ} {closes : List K} (hperiod : 1<period)
    (hsome : closes≠[]) (henough : period≤ closes.length) (h : HasDownMove closes) :
    ∃ x,lastOf (rsi (closes.map Value.number) period)=.number x := by
  obtain ⟨hgain,hloss,hzero⟩ := averages hperiod closes
  have hne : avgLoss period closes≠0 := fun heq => hzero.mp heq h
  rw [rsi_last hsome henough,rsiOf_of_pos hgain (lt_of_le_of_ne hloss hne.symm)]
  exact ⟨_,rfl⟩

end Strength

section Bands

/-- The last closes of a window. -/
def lastWindow (window : ℕ) (closes : List K) : List K := closes.drop (closes.length-window)

/-- There are as many as the window has. -/
theorem lastWindow_length {window : ℕ} {closes : List K} (henough : window≤ closes.length) :
    (lastWindow window closes).length=window := by
  unfold lastWindow
  rw [List.length_drop]
  omega

/-- The last rolling value of enough numbers. -/
theorem rolling_last {window : ℕ} (hpos : 0< window) {closes : List K}
    (henough : window≤ closes.length) (g : List K→Value K) :
    (rolling window window g (closes.map Value.number))[closes.length-1]?=
      some (g (lastWindow window closes)) := by
  have hlast : closes.length-1+1=closes.length := by omega
  have hnumbers : ∀ xs : List K,(xs.map Value.number).filterMap Value.finite=xs := by
    intro xs
    rw [List.filterMap_map]
    exact List.filterMap_some
  unfold rolling
  rw [trailing_row window _ (by rw [List.length_map]; omega),hlast,
    ← List.length_map (f := Value.number),List.take_length,List.length_map,← List.map_drop]
  dsimp only
  rw [hnumbers]
  have hlength := lastWindow_length henough
  unfold lastWindow at hlength ⊢
  rw [hlength,if_neg (lt_irrefl window)]

end Bands

end Aqts.LastIndicators
