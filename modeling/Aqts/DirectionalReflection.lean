import Aqts.DynamicEnsemble
import Aqts.ExponentialMeans

/-!
# The directional index of a reflected history

A reflected history rises where the history falls. The filter of the downward movements
compares them with upward ones that are filtered already, so a bar whose movements
tie counts as a downward one on both sides. Both directional indices are the same
on the reflected history exactly if the smoothed ties make no difference.
-/

namespace Aqts.DirectionalReflection

open CausalSeries PandasSeries ExponentialMeans TechnicalIndicators DynamicEnsemble

variable {K : Type*}

/-- A bar of numbers. -/
structure Candle (K : Type*) where
  /-- `high`. -/
  high : K
  /-- `low`. -/
  low : K
  /-- `close`. -/
  close : K

/-- Numbers by a condition. -/
theorem number_ite {p : Prop} [Decidable p] (x y : K) :
    (if p then Value.number x else .number y)=.number (if p then x else y) :=
  (apply_ite Value.number p x y).symm

/-- The larger one of two numbers. -/
theorem larger_numbers [LinearOrder K] (x y : K) :
    (Value.number x).larger (.number y)=.number (max x y) := by
  have hlarger : (Value.number x).larger (.number y)=
      if Value.below (.number x) (.number y)=true then .number y else .number x := rfl
  rw [hlarger,number_ite]
  by_cases h : x<y
  · have hbelow : Value.below (.number x) (.number y)=true := decide_eq_true h
    rw [if_pos hbelow,max_eq_right h.le]
  · have hbelow : Value.below (.number x) (.number y)=false := decide_eq_false h
    rw [hbelow,if_neg Bool.false_ne_true,max_eq_left (not_lt.mp h)]

/-- A value that may be missing. -/
def optionValue : Option K→Value K
  | none => .missing
  | some x => .number x

/-- A missing value that is filled. -/
theorem fillna_optionValue [Zero K] (o : Option K) :
    (optionValue o).fillna (.number 0)=.number (o.getD 0) := by
  cases o with
  | none => rfl
  | some x => rfl

section Histories

variable [Field K]

/-- A bar on the other side of a level. -/
def Candle.reflect (level : K) (b : Candle K) : Candle K :=
  ⟨level-b.low,level-b.high,level-b.close⟩

/-- A column of a history. -/
def column (f : Candle K→K) (candles : List (Candle K)) : Series K :=
  candles.map fun b => .number (f b)

/-- The movements up and down of every bar. -/
def steps (candles : List (Candle K)) : List (K×K) :=
  withBefore (fun _ => (0,0)) (fun before b => (b.high-before.high,before.low-b.low)) candles

/-- The movements of the reflected history are swapped. -/
theorem steps_reflect (level : K) (candles : List (Candle K)) :
    steps (candles.map (Candle.reflect level))=(steps candles).map Prod.swap := by
  unfold steps
  rw [withBefore_map,map_withBefore]
  refine congrArg (withBefore _ · candles) ?_
  funext before b
  exact Prod.ext (sub_sub_sub_cancel_left _ _ _) (sub_sub_sub_cancel_left _ _ _)

variable [LinearOrder K]

/-- A movement up that is larger than the one down. -/
def exclusive (step : K×K) : K := if 0< step.1 ∧ step.2< step.1 then step.1 else 0

/-- A movement up that ties with the one down. -/
def tie (step : K×K) : K := if 0< step.1 ∧ step.1=step.2 then step.1 else 0

/-- What the filters keep of the movement down. -/
def keptDown (step : K×K) : K := exclusive step.swap+tie step

/-- The true ranges of a history. -/
def ranges (candles : List (Candle K)) : List K :=
  withBefore (fun b => b.high-b.low) (fun before b =>
    max (max (b.high-b.low) |b.high-before.close|) |b.low-before.close|) candles

/-- `adx` of a history. -/
def adxOf (candles : List (Candle K)) (period : ℕ) : Series K :=
  adx (column Candle.high candles) (column Candle.low candles) (column Candle.close candles) period

/-- `_compute_adx` of a history. -/
def computeAdxOf (candles : List (Candle K)) (period : ℕ) : Series K :=
  computeAdx (column Candle.high candles) (column Candle.low candles)
    (column Candle.close candles) period

/-- The reflected true ranges are the same. -/
theorem ranges_reflect (level : K) (candles : List (Candle K)) :
    ranges (candles.map (Candle.reflect level))=ranges candles := by
  unfold ranges
  rw [withBefore_map]
  refine congrArg₂ (withBefore · · candles) ?_ ?_
  · funext b
    exact sub_sub_sub_cancel_left _ _ _
  · funext before b
    unfold Candle.reflect
    dsimp only
    rw [sub_sub_sub_cancel_left,sub_sub_sub_cancel_left,sub_sub_sub_cancel_left,
      abs_sub_comm before.close,abs_sub_comm before.close,max_right_comm]

/-- A tie is one on both sides. -/
theorem tie_swap (step : K×K) : tie step.swap=tie step := by
  unfold tie
  by_cases heq : step.1=step.2
  · rw [Prod.fst_swap,Prod.snd_swap,heq]
  · rw [if_neg fun h => heq h.2.symm,if_neg fun h => heq h.2]

/-- Movements that are kept are not negative. -/
theorem exclusive_nonneg (step : K×K) : 0≤ exclusive step := by
  unfold exclusive
  split
  · rename_i h
    exact h.1.le
  · exact le_rfl

/-- Ties are not negative. -/
theorem tie_nonneg (step : K×K) : 0≤ tie step := by
  unfold tie
  split
  · rename_i h
    exact h.1.le
  · exact le_rfl

end Histories

section Kept

variable [Field K] [LinearOrder K]

/-- What `adx` keeps of two movements. -/
theorem clipped_kept (up down : K) :
    (if max down 0< max up 0 then max up 0 else 0)=exclusive (up,down) ∧
      (if exclusive (up,down)< max down 0 then max down 0 else 0)=keptDown (up,down) := by
  unfold keptDown exclusive tie
  dsimp only [Prod.fst_swap,Prod.snd_swap]
  rcases lt_or_ge 0 up with hup | hup
  · rw [max_eq_left hup.le]
    rcases lt_trichotomy up down with hless | hsame | hmore
    · have hdown := hup.trans hless
      rw [max_eq_left hdown.le,if_neg (not_lt.mpr hless.le),if_neg fun h => lt_asymm h.2 hless,
        if_pos hdown,if_pos ⟨hdown,hless⟩,if_neg fun h => hless.ne h.2,add_zero]
      exact ⟨rfl,rfl⟩
    · rw [← hsame,max_eq_left hup.le,if_neg (lt_irrefl up),if_neg fun h => lt_irrefl up h.2,
        if_pos hup,if_pos ⟨hup,rfl⟩,zero_add]
      exact ⟨rfl,rfl⟩
    · have hclipped : max down 0<up := max_lt hmore hup
      rw [if_pos hclipped,if_pos ⟨hup,hmore⟩,if_neg (not_lt.mpr hclipped.le),
        if_neg fun h => lt_asymm h.2 hmore,if_neg fun h => hmore.ne' h.2,add_zero]
      exact ⟨rfl,rfl⟩
  · have hrise : ¬0<up := not_lt.mpr hup
    have hclipped : ¬max down 0<0 := not_lt.mpr (le_max_right down 0)
    have hkept : ¬(0<up ∧ down<up) := fun h => hrise h.1
    have htie : ¬(0<up ∧ up=down) := fun h => hrise h.1
    rw [max_eq_right hup,if_neg hclipped,if_neg hkept,if_neg htie,add_zero]
    refine ⟨rfl,?_⟩
    rcases lt_or_ge 0 down with hdown | hdown
    · rw [max_eq_left hdown.le,if_pos hdown,if_pos ⟨hdown,hup.trans_lt hdown⟩]
    · rw [max_eq_right hdown,if_neg (lt_irrefl 0),if_neg fun h => not_lt.mpr hdown h.1]

/-- What `_compute_adx` keeps of two movements. -/
theorem raw_kept (up down : K) :
    (if down<up ∧ 0<up then up else 0)=exclusive (up,down) ∧
      (if exclusive (up,down)<down ∧ 0<down then down else 0)=keptDown (up,down) := by
  have hplus : (if down<up ∧ 0<up then up else 0)=exclusive (up,down) :=
    if_congr and_comm rfl rfl
  refine ⟨hplus,?_⟩
  rw [← (clipped_kept up down).2]
  rcases lt_or_ge 0 down with hdown | hdown
  · rw [max_eq_left hdown.le]
    exact if_congr (and_iff_left hdown) rfl rfl
  · rw [max_eq_right hdown,if_neg fun h => not_lt.mpr hdown h.2]
    exact (if_neg (not_lt.mpr (exclusive_nonneg _))).symm

/-- The movements that `adx` keeps of two bars. -/
theorem directional_numbers (high low highBefore lowBefore : K) :
    directional (.number high,.number low) (.number highBefore,.number lowBefore)=
      (.number (exclusive (high-highBefore,lowBefore-low)),
        .number (keptDown (high-highBefore,lowBefore-low))) := by
  obtain ⟨hplus,hminus⟩ := clipped_kept (high+-highBefore) (lowBefore+-low)
  have hkept : (if Value.below (.number (max (lowBefore+-low) 0))
      (.number (max (high+-highBefore) 0))=true then
        Value.number (max (high+-highBefore) 0) else .number 0)=
          .number (exclusive (high+-highBefore,lowBefore+-low)) := by
    rw [number_ite,← hplus]
    exact congrArg Value.number (if_congr decide_eq_true_iff rfl rfl)
  have hkept' : (if Value.below (.number (exclusive (high+-highBefore,lowBefore+-low)))
      (.number (max (lowBefore+-low) 0))=true then
        Value.number (max (lowBefore+-low) 0) else .number 0)=
          .number (keptDown (high+-highBefore,lowBefore+-low)) := by
    rw [number_ite,← hminus]
    exact congrArg Value.number (if_congr decide_eq_true_iff rfl rfl)
  rw [sub_eq_add_neg high,sub_eq_add_neg lowBefore,← hkept',← hkept]
  rfl

/-- The movements that `_compute_adx` keeps of two bars. -/
theorem directionalMoves_numbers (high low highBefore lowBefore : K) :
    directionalMoves (.number high,.number low) (.number highBefore,.number lowBefore)=
      (.number (exclusive (high-highBefore,lowBefore-low)),
        .number (keptDown (high-highBefore,lowBefore-low))) := by
  obtain ⟨hplus,hminus⟩ := raw_kept (high+-highBefore) (lowBefore+-low)
  have hboth : ∀ x y z : K,(Value.below (.number x) (.number y) &&
      Value.below (.number 0) (.number z))=true ↔ x<y ∧ 0<z := by
    intro x y z
    rw [Bool.and_eq_true]
    exact and_congr decide_eq_true_iff decide_eq_true_iff
  have hkept : (if (Value.below (.number (lowBefore+-low)) (.number (high+-highBefore)) &&
      Value.below (.number 0) (.number (high+-highBefore)))=true then
        Value.number (high+-highBefore) else .number 0)=
          .number (exclusive (high+-highBefore,lowBefore+-low)) := by
    rw [number_ite,← hplus]
    exact congrArg Value.number (if_congr (hboth _ _ _) rfl rfl)
  have hkept' : (if (Value.below (.number (exclusive (high+-highBefore,lowBefore+-low)))
      (.number (lowBefore+-low)) && Value.below (.number 0) (.number (lowBefore+-low)))=true then
        Value.number (lowBefore+-low) else .number 0)=
          .number (keptDown (high+-highBefore,lowBefore+-low)) := by
    rw [number_ite,← hminus]
    exact congrArg Value.number (if_congr (hboth _ _ _) rfl rfl)
  rw [sub_eq_add_neg high,sub_eq_add_neg lowBefore,← hkept',← hkept]
  rfl

/-- The movements of a first bar. -/
theorem directional_first (high low : K) :
    directional (.number high,.number low) (.missing,.missing)=(.number 0,.number 0) := rfl

/-- The movements of a first bar. -/
theorem directionalMoves_first (high low : K) :
    directionalMoves (.number high,.number low) (.missing,.missing)=(.number 0,.number 0) := rfl

/-- The movements that are kept of a history. -/
theorem moves_series {g : Value K×Value K→Value K×Value K→Value K×Value K}
    (hfirst : ∀ high low,g (.number high,.number low) (.missing,.missing)=(.number 0,.number 0))
    (hnext : ∀ high low highBefore lowBefore,
      g (.number high,.number low) (.number highBefore,.number lowBefore)=
        (.number (exclusive (high-highBefore,lowBefore-low)),
          .number (keptDown (high-highBefore,lowBefore-low)))) (candles : List (Candle K)) :
    List.zipWith g (List.zip (column Candle.high candles) (column Candle.low candles))
        (List.zip (shifted 1 (column Candle.high candles)) (shifted 1 (column Candle.low candles)))=
      (steps candles).map fun step => (.number (exclusive step),.number (keptDown step)) := by
  have hlength : (column Candle.high candles).length=(column Candle.low candles).length := by
    unfold column
    rw [List.length_map,List.length_map]
  have hzip : List.zip (column Candle.high candles) (column Candle.low candles)=
      candles.map fun b => (.number b.high,.number b.low) := List.zip_map'
  have hzero : exclusive ((0 : K),(0 : K))=0 := if_neg fun h => lt_irrefl _ h.1
  have htie : tie ((0 : K),(0 : K))=0 := if_neg fun h => lt_irrefl _ h.1
  have hdown : keptDown ((0 : K),(0 : K))=0 := by
    unfold keptDown
    rw [Prod.swap_prod_mk,hzero,htie,add_zero]
  unfold shifted steps
  rw [zip_shift _ _ _ hlength,hzip,zipWith_shift,map_withBefore]
  refine congrArg₂ (withBefore · · candles) ?_ ?_
  · funext b
    rw [hzero,hdown]
    exact hfirst b.high b.low
  · funext before b
    exact hnext b.high b.low before.high before.low

/-- The true ranges of a history of numbers. -/
theorem trueRange_series (candles : List (Candle K)) :
    trueRange (column Candle.high candles) (column Candle.low candles)
        (column Candle.close candles)=(ranges candles).map Value.number := by
  have hzip : List.zip (column Candle.high candles) (column Candle.low candles)=
      candles.map fun b => (.number b.high,.number b.low) := List.zip_map'
  unfold trueRange shifted ranges
  rw [hzip]
  unfold column
  rw [zipWith_shift,map_withBefore]
  refine congrArg₂ (withBefore · · candles) ?_ ?_
  · funext b
    exact congrArg Value.number (sub_eq_add_neg b.high b.low).symm
  · funext before b
    rw [← larger_numbers,← larger_numbers,sub_eq_add_neg b.high b.low,
      sub_eq_add_neg b.high before.close,sub_eq_add_neg b.low before.close]
    rfl

end Kept

section Smoothed

variable [Field K] (period : ℕ)

/-- The smoothed value of some numbers in a row. -/
def smoothAt (xs : List K) (t : ℕ) : K := smooth (1/(period : K)) (xs.take (t+1))

/-- Rows of a smoothed series of numbers. -/
theorem wilder_row (xs : List K) {t : ℕ} (ht : t< xs.length) :
    (wilder period (xs.map Value.number))[t]?=
      some (if t+1<period then .missing else .number (smoothAt period xs t)) := by
  have hlength : (xs.take (t+1)).length=t+1 := by
    rw [List.length_take]
    omega
  refine (ewmMean_numbers _ _ ht).trans ?_
  unfold meanOfRows
  rw [hlength]
  rfl

end Smoothed

section Index

variable [Field K] [LinearOrder K] (period : ℕ)

/-- `dx` of smoothed movements and a smoothed range, if there is one. -/
def dxOption (plus minus range : K) : Option K :=
  if range=0 ∨ plus+minus=0 then none
  else some (100.0* |100.0*plus/range-100.0*minus/range|/(100.0*plus/range+100.0*minus/range))

/-- `dx` of the rows of a history. -/
def dxRows (candles : List (Candle K)) : List (Option K) :=
  (List.range candles.length).map fun t =>
    if t+1<period then none
    else dxOption (smoothAt period ((steps candles).map exclusive) t)
      (smoothAt period ((steps candles).map keptDown) t) (smoothAt period (ranges candles) t)

/-- A row of `dx`. -/
theorem dxRows_row {candles : List (Candle K)} {t : ℕ} (ht : t< candles.length) :
    (dxRows period candles)[t]?=
      some (if t+1<period then none
        else dxOption (smoothAt period ((steps candles).map exclusive) t)
          (smoothAt period ((steps candles).map keptDown) t)
          (smoothAt period (ranges candles) t)) := by
  unfold dxRows
  rw [List.getElem?_map,List.getElem?_range ht]
  rfl

end Index

section Series

variable [Field K] [LinearOrder K] [IsStrictOrderedRing K]

/-- `dx` of numbers. -/
theorem dxRow_numbers (plus minus range : K) :
    dxRow (.number plus,.number minus) (.number range)=
      optionValue (dxOption plus minus range) := by
  have hhundred : (100.0 : K)=100 := by norm_num
  unfold dxRow dxOption
  dsimp only
  rw [hhundred]
  by_cases hrange : range=0
  · have hnonzero : (Value.number range).nonzero=.missing := if_pos hrange
    rw [hnonzero,if_pos (.inl hrange)]
    rfl
  · have hnonzero : (Value.number range).nonzero=.number range := if_neg hrange
    have hindex : ∀ x : K,Value.number 100*.number x/.number range=.number (100*x/range) :=
      fun x => if_neg hrange
    have hsum : 100*plus/range+100*minus/range=100/range*(plus+minus) := by ring
    rw [hnonzero,hindex,hindex]
    by_cases hnone : plus+minus=0
    · have hzero : (Value.number (100*plus/range)+.number (100*minus/range)).nonzero=.missing := by
        refine if_pos ?_
        rw [hsum,hnone,mul_zero]
      rw [hzero,if_pos (.inr hnone)]
      rfl
    · have hpos : 100*plus/range+100*minus/range≠0 := by
        rw [hsum]
        exact mul_ne_zero (div_ne_zero (by norm_num) hrange) hnone
      have hsome : (Value.number (100*plus/range)+.number (100*minus/range)).nonzero=
          .number (100*plus/range+100*minus/range) := if_neg hpos
      rw [hsome,if_neg (not_or.mpr ⟨hrange,hnone⟩),sub_eq_add_neg (100*plus/range)]
      exact if_neg hpos

/-- The rows of `dx`. -/
theorem dx_series (period : ℕ) (candles : List (Candle K)) :
    List.zipWith dxRow
        (List.zip (wilder period (((steps candles).map exclusive).map Value.number))
          (wilder period (((steps candles).map keptDown).map Value.number)))
        (wilder period ((ranges candles).map Value.number))=
      (dxRows period candles).map optionValue := by
  have hsteps : (steps candles).length=candles.length := withBefore_length _ _ _
  have hranges : (ranges candles).length=candles.length := withBefore_length _ _ _
  refine List.ext_getElem? fun t => ?_
  by_cases ht : t< candles.length
  · have hplus := wilder_row period ((steps candles).map exclusive)
      (by rw [List.length_map]; omega : t<_)
    have hminus := wilder_row period ((steps candles).map keptDown)
      (by rw [List.length_map]; omega : t<_)
    have hrange := wilder_row period (ranges candles) (by omega : t<_)
    rw [List.getElem?_map,dxRows_row period ht,Option.map_some]
    by_cases hfew : t+1<period
    · rw [if_pos hfew] at hplus hminus hrange ⊢
      exact List.getElem?_zipWith_eq_some.mpr ⟨(.missing,.missing),.missing,
        List.getElem?_zip_eq_some.mpr ⟨hplus,hminus⟩,hrange,rfl⟩
    · rw [if_neg hfew] at hplus hminus hrange ⊢
      exact List.getElem?_zipWith_eq_some.mpr ⟨(.number _,.number _),.number _,
        List.getElem?_zip_eq_some.mpr ⟨hplus,hminus⟩,hrange,dxRow_numbers _ _ _⟩
  · rw [List.getElem?_eq_none (by simp [wilder]; omega),
      List.getElem?_eq_none (by simp [dxRows]; omega)]

/-- `adx` of a history, from `dx` with zeros for what is missing. -/
theorem adxOf_eq (candles : List (Candle K)) (period : ℕ) :
    adxOf candles period=
      wilder period (((dxRows period candles).map fun o => o.getD 0).map Value.number) := by
  have hmoves := moves_series directional_first directional_numbers candles
  have hfilled : ∀ (moves : List (Value K×Value K)) (atr : Series K),
      List.zipWith dxOf moves atr=
        (List.zipWith dxRow moves atr).map fun v => v.fillna (.number 0) := by
    intro moves atr
    rw [List.map_zipWith]
    rfl
  unfold adxOf adx
  dsimp only
  rw [hmoves,List.map_map,List.map_map,trueRange_series,hfilled]
  have hdx := dx_series period candles
  rw [List.map_map,List.map_map] at hdx
  refine congrArg (wilder period) ((congrArg _ hdx).trans ?_)
  rw [List.map_map,List.map_map]
  exact List.map_congr_left fun o _ => fillna_optionValue o

/-- `_compute_adx` of a history. -/
theorem computeAdxOf_eq (candles : List (Candle K)) (period : ℕ) :
    computeAdxOf candles period=
      (wilder period ((dxRows period candles).map optionValue)).map
        fun v => v.fillna (.number 0) := by
  have hmoves := moves_series directionalMoves_first directionalMoves_numbers candles
  unfold computeAdxOf computeAdx
  dsimp only
  rw [hmoves,List.map_map,List.map_map,trueRange_series]
  have hdx := dx_series period candles
  rw [List.map_map,List.map_map] at hdx
  exact congrArg _ (congrArg (wilder period) hdx)

end Series

section Reflected

variable [Field K] [LinearOrder K]

/-- Ties make no difference when there is no range, no tie, or as much up as down. -/
theorem dxOption_swap {up down ties range : K} (h : range=0 ∨ ties=0 ∨ up=down) :
    dxOption down (up+ties) range=dxOption up (down+ties) range := by
  rcases h with hrange | hnone | hsame
  · unfold dxOption
    rw [if_pos (.inl hrange),if_pos (.inl hrange)]
  · unfold dxOption
    rw [hnone,add_zero,add_zero,add_comm down up,add_comm (100.0*down/range),
      abs_sub_comm (100.0*down/range)]
  · rw [hsame]

variable (period : ℕ) (candles : List (Candle K))

/-- The ties up to a row make no difference: there is no smoothed range, no smoothed
tie, or as much exclusive movement up as down. -/
def TiesHarmlessAt (t : ℕ) : Prop :=
  smoothAt period (ranges candles) t=0 ∨ smoothAt period ((steps candles).map tie) t=0 ∨
    smoothAt period ((steps candles).map exclusive) t=
      smoothAt period ((steps candles).map fun step => exclusive step.swap) t

/-- The ties make no difference in any row that has an index. -/
def TiesHarmless : Prop := ∀ t< candles.length,period≤t+1→TiesHarmlessAt period candles t

/-- Both directional indices are the same on every reflected history. -/
def SameReflected : Prop :=
  ∀ level,adxOf (candles.map (Candle.reflect level)) period=adxOf candles period ∧
    computeAdxOf (candles.map (Candle.reflect level)) period=computeAdxOf candles period

variable {candles}

/-- The smoothed downward movements that are kept. -/
theorem smoothAt_keptDown (moves : List (K×K)) (t : ℕ) :
    smoothAt period (moves.map keptDown) t=
      smoothAt period (moves.map fun step => exclusive step.swap) t+
        smoothAt period (moves.map tie) t := by
  unfold smoothAt
  rw [← List.map_take,← List.map_take,← List.map_take]
  exact smooth_add _ _ _ _

/-- A row of `dx`, by the exclusive movements and the ties. -/
theorem dxRows_some {t : ℕ} (ht : t< candles.length) (henough : period≤t+1) :
    (dxRows period candles)[t]?=
      some (dxOption (smoothAt period ((steps candles).map exclusive) t)
        (smoothAt period ((steps candles).map fun step => exclusive step.swap) t+
          smoothAt period ((steps candles).map tie) t) (smoothAt period (ranges candles) t)) := by
  rw [dxRows_row period ht,if_neg (not_lt.mpr henough),smoothAt_keptDown]

/-- A row of the reflected `dx`. -/
theorem dxRows_reflect (level : K) {t : ℕ} (ht : t< candles.length) (henough : period≤t+1) :
    (dxRows period (candles.map (Candle.reflect level)))[t]?=
      some (dxOption (smoothAt period ((steps candles).map fun step => exclusive step.swap) t)
        (smoothAt period ((steps candles).map exclusive) t+
          smoothAt period ((steps candles).map tie) t) (smoothAt period (ranges candles) t)) := by
  have hties : (steps candles).map (tie∘Prod.swap)=(steps candles).map tie :=
    List.map_congr_left fun step _ => tie_swap step
  have hlength : t<(candles.map (Candle.reflect level)).length := by
    rw [List.length_map]
    exact ht
  rw [dxRows_some period hlength henough,steps_reflect,ranges_reflect,List.map_map,List.map_map,
    List.map_map,hties]
  rfl

/-- Rows before there are enough have no `dx`. -/
theorem dxRows_few (level : K) {t : ℕ} (hfew : t+1<period) :
    (dxRows period (candles.map (Candle.reflect level)))[t]?=(dxRows period candles)[t]? := by
  by_cases ht : t< candles.length
  · rw [dxRows_row period ht,dxRows_row period (by rw [List.length_map]; exact ht),if_pos hfew,
      if_pos hfew]
  · rw [List.getElem?_eq_none (by simp [dxRows]; omega),
      List.getElem?_eq_none (by simp [dxRows]; omega)]

end Reflected

section Same

variable [Field K] [LinearOrder K] [IsStrictOrderedRing K]

/-- Ties that make no difference are harmless: there is no range, no tie, or as much up as
down. -/
theorem harmless_of_dxOption {up down ties range : K} (hup : 0≤up) (hdown : 0≤down)
    (hties : 0≤ties)
    (h : (dxOption down (up+ties) range).getD 0=(dxOption up (down+ties) range).getD 0) :
    range=0 ∨ ties=0 ∨ up=down := by
  by_contra hnot
  obtain ⟨hrange,hties',hdiffer⟩ := not_or.mp hnot |>.imp_right not_or.mp
  have hpos : 0<ties := lt_of_le_of_ne hties (Ne.symm hties')
  have hsum : up+(down+ties)≠0 := by linarith [hup,hdown]
  have hsum' : down+(up+ties)≠0 := by linarith [hup,hdown]
  have hden : 100*down/range+100*(up+ties)/range=100*up/range+100*(down+ties)/range := by ring
  have hden' : 100*up/range+100*(down+ties)/range≠0 := by
    have hscaled : 100*up/range+100*(down+ties)/range=100/range*(up+(down+ties)) := by ring
    rw [hscaled]
    exact mul_ne_zero (div_ne_zero (by norm_num) hrange) hsum
  have hhundred : (100.0 : K)=100 := by norm_num
  unfold dxOption at h
  rw [hhundred,if_neg (not_or.mpr ⟨hrange,hsum'⟩),if_neg (not_or.mpr ⟨hrange,hsum⟩),hden] at h
  have habs := mul_left_cancel₀ (by norm_num) ((div_left_inj' hden').mp h)
  have hscale : (100/range : K)≠0 := div_ne_zero (by norm_num) hrange
  rcases abs_eq_abs.mp habs with hsame | hopposite
  · have hscaled : 100/range*(down-up)=0 := by linarith [
      show 100/range*(down-up)*2=(100*down/range-100*(up+ties)/range)-
        (100*up/range-100*(down+ties)/range) by ring]
    exact hdiffer (sub_eq_zero.mp ((mul_eq_zero.mp hscaled).resolve_left hscale)).symm
  · have hscaled : 100/range*ties=0 := by linarith [
      show 100/range*ties*2= -((100*down/range-100*(up+ties)/range)+
        (100*up/range-100*(down+ties)/range)) by ring]
    exact hties' ((mul_eq_zero.mp hscaled).resolve_left hscale)

/-- Both directional indices are the same on every reflected history exactly if the ties
make no difference. -/
theorem sameReflected_iff {period : ℕ} (hperiod : 0<period) (candles : List (Candle K)) :
    SameReflected period candles ↔ TiesHarmless period candles := by
  have hcast : (0 : K)<(period : K) := Nat.cast_pos.mpr hperiod
  have hpos : (0 : K)<1/(period : K) := div_pos one_pos hcast
  have hone : 1/(period : K)≤1 := by
    rw [div_le_one hcast]
    exact_mod_cast hperiod
  have hsmooth : ∀ (f : K×K→K) (t : ℕ),(∀ step,0≤f step)→
      0≤ smoothAt period ((steps candles).map f) t := by
    intro f t hf
    refine smooth_nonneg hpos.le hone fun x hx => ?_
    obtain ⟨step,_,rfl⟩ := List.mem_map.mp (List.mem_of_mem_take hx)
    exact hf step
  constructor
  · intro h t ht henough
    have hadx := (h 0).1
    rw [adxOf_eq,adxOf_eq] at hadx
    have hrows := eq_of_ewmMean hpos.ne' (by simp [dxRows]) (fun t hfew => by
      rw [List.getElem?_map,List.getElem?_map,dxRows_few period 0 hfew]) hadx
    have hrow := congrArg (·[t]?) hrows
    rw [List.getElem?_map,List.getElem?_map,dxRows_reflect period 0 ht henough,
      dxRows_some period ht henough] at hrow
    exact harmless_of_dxOption (hsmooth _ t exclusive_nonneg)
      (hsmooth _ t fun step => exclusive_nonneg step.swap) (hsmooth _ t tie_nonneg)
      (Option.some.inj hrow)
  · intro h level
    have hrows : dxRows period (candles.map (Candle.reflect level))=dxRows period candles := by
      refine List.ext_getElem? fun t => ?_
      by_cases hfew : t+1<period
      · exact dxRows_few period level hfew
      · by_cases ht : t< candles.length
        · rw [dxRows_reflect period level ht (not_lt.mp hfew),
            dxRows_some period ht (not_lt.mp hfew),
            dxOption_swap (h t ht (not_lt.mp hfew))]
        · rw [List.getElem?_eq_none (by simp [dxRows]; omega),
            List.getElem?_eq_none (by simp [dxRows]; omega)]
    rw [adxOf_eq,adxOf_eq,computeAdxOf_eq,computeAdxOf_eq,hrows]
    exact ⟨rfl,rfl⟩

end Same

/-- Two weeks of rest, a bar that ties, and a rise. -/
def tieHistory : List (Candle ℚ) :=
  List.replicate 13 ⟨10,8,9⟩++[⟨11,7,9⟩,⟨13,9,12⟩]

/-- The reflected history of that falls, and has other directional indices. -/
theorem tieHistory_not_same : ¬SameReflected 14 tieHistory := by
  intro h
  exact absurd (h 0).1 (by decide +kernel)

/-- The condition on that history. -/
theorem sameReflected_iff_tieHistory :
    SameReflected 14 tieHistory ↔ TiesHarmless 14 tieHistory :=
  sameReflected_iff (by decide) tieHistory

end Aqts.DirectionalReflection
