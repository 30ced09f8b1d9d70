import Mathlib.Data.Rat.Floor
import Aqts.VectorizedSignals

/-!
# Look-ahead of vectorized signals

Which signals of a row are those on the history up to that row. Everything but the
choice of the windows is causal, so mean reversion and risk parity never look ahead,
and trend following does not where later rows leave the chosen windows alone. A single
wide range after a row is enough to choose other windows for it.
-/

namespace Aqts.SignalCausality

open CausalSeries PandasSeries TechnicalIndicators VectorizedSignals

variable {K β : Type*}

/-- A function of histories is causal in the rows, whatever the columns are. -/
def CausalOf (f : Ohlcv K→List β) : Prop := ∀ columns,Causal fun rows => f ⟨columns,rows⟩

/-- A row of a causal function is that of the history up to any later row. -/
theorem CausalOf.row {f : Ohlcv K→List β} (hf : CausalOf f) (o : Ohlcv K) {r t : ℕ} (h : r≤t) :
    (f o)[r]?=(f (o.upTo t))[r]? :=
  (hf o.columns).row_of_le o.rows h

/-- `close` is causal. -/
theorem close_causal : CausalOf (Ohlcv.close (K := K)) := fun _ => causal_id.map Bar.close

/-- `volume` is causal. -/
theorem volume_causal : CausalOf (Ohlcv.volume (K := K)) := fun _ => causal_id.map Bar.volume

/-- `high` is causal. -/
theorem high_causal : CausalOf (Ohlcv.high (K := K)) := by
  intro columns
  unfold Ohlcv.high
  by_cases hcolumn : columns.high=true
  · simp only [hcolumn,if_true]
    exact causal_id.map Bar.high
  · simp only [hcolumn]
    exact close_causal columns

/-- `low` is causal. -/
theorem low_causal : CausalOf (Ohlcv.low (K := K)) := by
  intro columns
  unfold Ohlcv.low
  by_cases hcolumn : columns.low=true
  · simp only [hcolumn,if_true]
    exact causal_id.map Bar.low
  · simp only [hcolumn]
    exact close_causal columns

/-- Every column has a value for each row. -/
theorem columns_length (o : Ohlcv K) : o.close.length=o.rows.length ∧
    o.high.length=o.rows.length ∧ o.low.length=o.rows.length ∧ o.volume.length=o.rows.length := by
  have hclose : o.close.length=o.rows.length := by simp [Ohlcv.close]
  refine ⟨hclose,?_,?_,by simp [Ohlcv.volume]⟩
  · unfold Ohlcv.high
    split
    · simp
    · exact hclose
  · unfold Ohlcv.low
    split
    · simp
    · exact hclose

/-- Up to the last row the history is all of it. -/
theorem upTo_of_length_le {o : Ohlcv K} {t : ℕ} (h : o.rows.length≤t) : o.upTo t=o := by
  unfold Ohlcv.upTo
  rw [List.take_of_length_le (by omega)]

section Averages

variable [Field K]

/-- The window that is chosen of some distinct periods for one of them. -/
def chosen (distinct : List ℤ) (period : ℤ) : ℤ :=
  match distinct with
  | [] => 20
  | [p] => p
  | _ =>
    if percentile 75 distinct≤period then percentile 75 distinct
    else if period≤percentile 25 distinct then percentile 25 distinct
    else percentile 50 distinct

/-- The window that is chosen for a row. -/
def windowAt (periods : List ℤ) (r : ℕ) : Option ℤ := (periods[r]?).map (chosen periods.dedup)

/-- Adaptive averages are as many. -/
theorem adaptiveSma_length {series : Series K} {periods : List ℤ}
    (hlength : periods.length=series.length) :
    (adaptiveSma series periods).length=series.length := by
  unfold adaptiveSma
  split
  · exact sma_length _ _
  · exact sma_length _ _
  · simp [hlength]

/-- A row of an adaptive average is that of the moving average of the chosen window. -/
theorem adaptiveSma_row {series : Series K} {periods : List ℤ}
    (hlength : periods.length=series.length) (r : ℕ) :
    (adaptiveSma series periods)[r]?=
      (windowAt periods r).bind fun w => (sma series (window w))[r]? := by
  unfold windowAt
  cases hrow : periods[r]? with
  | none =>
    have hr := List.getElem?_eq_none_iff.mp hrow
    rw [List.getElem?_eq_none (by rw [adaptiveSma_length hlength]; omega)]
    rfl
  | some period =>
    have hr : r< series.length := hlength ▸ (List.getElem?_eq_some_iff.mp hrow).1
    have hsma : ∀ w,∃ v,(sma series w)[r]?=some v := fun w =>
      ⟨_,List.getElem?_eq_getElem (by rw [sma_length]; exact hr)⟩
    rw [Option.map_some,Option.bind_some]
    unfold adaptiveSma chosen
    generalize periods.dedup=distinct
    rcases distinct with _ | ⟨p,_ | ⟨q,rest⟩⟩
    · rfl
    · rfl
    · dsimp only
      obtain ⟨low,hlow⟩ := hsma (window (percentile 25 (p::q::rest)))
      obtain ⟨mid,hmid⟩ := hsma (window (percentile 50 (p::q::rest)))
      obtain ⟨high,hhigh⟩ := hsma (window (percentile 75 (p::q::rest)))
      simp only [List.zip,List.getElem?_zipWith,hrow,hlow,hmid,hhigh]
      by_cases hup : percentile 75 (p::q::rest)≤period
      · rw [if_pos hup,if_pos hup,hhigh]
      · rw [if_neg hup,if_neg hup]
        by_cases hdown : period≤percentile 25 (p::q::rest)
        · rw [if_pos hdown,if_pos hdown,hlow]
        · rw [if_neg hdown,if_neg hdown,hmid]

end Averages

section Signals

variable [Field K] [LinearOrder K]

/-- Mean reversion is causal. -/
theorem meanReversion_causal (sqrt : K→K) : CausalOf (generateMeanReversion sqrt) := by
  intro columns
  have hclose := close_causal (K := K) columns
  exact ((causal_rsi hclose 14).zipWith hclose Prod.mk).zipWith
    (causal_bollingerBands hclose sqrt 20 2.0) fun rc bands => meanReversionOf rc.1 rc.2 bands

/-- Risk parity is causal. -/
theorem riskParity_causal (sqrt : K→K) : CausalOf (generateRiskParity sqrt) := by
  intro columns
  have hreturns := causal_pctChange (close_causal (K := K) columns) 1
  exact (causal_rollingStd hreturns sqrt 20).zipWith (causal_rollingStd hreturns sqrt 60)
    (riskParityOf sqrt)

/-- `atr_pct` is causal. -/
theorem atrPct_causal : CausalOf (Ohlcv.atrPct (K := K)) := by
  intro columns
  have hclose := close_causal (K := K) columns
  exact (causal_atr (high_causal columns) (low_causal columns) hclose 14).zipWith hclose _

/-- `adx` is causal. -/
theorem adx_causal : CausalOf fun o : Ohlcv K => adx o.high o.low o.close 14 := fun columns =>
  causal_adx (high_causal columns) (low_causal columns) (close_causal columns) 14

/-- `roc_20` is causal. -/
theorem roc_causal : CausalOf fun o : Ohlcv K => 
    (pctChange 20 o.close).map fun change => change.fillna (.number 0) := fun columns =>
  (causal_pctChange (close_causal columns) 20).map _

/-- `vol_multiplier` is causal. -/
theorem volMultiplier_causal : CausalOf fun o : Ohlcv K =>
    List.zipWith volMultiplierOf o.volume (rollingMean 20 10 o.volume) := fun columns =>
  (volume_causal columns).zipWith (causal_rollingMean (volume_causal columns) 20 10) _

/-- A row of trend following is one of the three averages and of the rows up to it. -/
theorem trendFollowingOf_row (o : Ohlcv K) {t : ℕ} {fast mid slow fast' mid' slow' : Series K}
    (hfast : fast[t]?=fast'[t]?) (hmid : mid[t]?=mid'[t]?) (hslow : slow[t]?=slow'[t]?)
    (hbefore : (shifted 5 mid)[t]?=(shifted 5 mid')[t]?) :
    (trendFollowingOf o fast mid slow)[t]?=(trendFollowingOf (o.upTo t) fast' mid' slow')[t]? := by
  have houter := zipWith_row Prod.mk hfast hslow
  have hinner := zipWith_row Prod.mk hmid hbefore
  have hma := zipWith_row (fun (outer inner : Value K×Value K) =>
    maSignalOf outer.1 inner.1 outer.2 inner.2) houter hinner
  have hindex := zipWith_row Prod.mk (adx_causal.row o (le_refl t)) (roc_causal.row o (le_refl t))
  have hmomentum := zipWith_row (fun (ar : Value K×Value K) pct => momentumSignalOf ar.1 ar.2 pct)
    hindex (atrPct_causal.row o (le_refl t))
  have hcombined := zipWith_row (fun ma momentum : Value K =>
    (ma*.number 0.6+momentum*.number 0.4).clip (-1) 1) hma hmomentum
  unfold trendFollowingOf
  dsimp only
  have hcolumns : (o.upTo t).columns=o.columns := rfl
  rw [hcolumns]
  by_cases hvolume : o.columns.volume=true
  · rw [if_pos hvolume,if_pos hvolume]
    exact zipWith_row _ hcombined (volMultiplier_causal.row o (le_refl t))
  · rw [if_neg hvolume,if_neg hvolume]
    exact hcombined

/-- There is a range for each row. -/
theorem atrPct_length (o : Ohlcv K) : o.atrPct.length=o.rows.length := by
  obtain ⟨hclose,hhigh,hlow,_⟩ := columns_length o
  simp [Ohlcv.atrPct,atr,trueRange,hclose,hhigh,hlow]

/-- There is a ratio for each row. -/
theorem volRatio_length (o : Ohlcv K) : o.volRatio.length=o.rows.length := by
  simp [Ohlcv.volRatio,Ohlcv.atrMedian,atrPct_length]

/-- There is a trend for each row with averages. -/
theorem trendFollowingOf_length {o : Ohlcv K} {fast mid slow : Series K}
    (hfast : fast.length=o.rows.length) (hmid : mid.length=o.rows.length)
    (hslow : slow.length=o.rows.length) :
    (trendFollowingOf o fast mid slow).length=o.rows.length := by
  obtain ⟨hclose,hhigh,hlow,hvolume⟩ := columns_length o
  unfold trendFollowingOf
  dsimp only
  split
  · simp [hfast,hmid,hslow,adx,wilder,trueRange,hclose,hhigh,hlow,hvolume,atrPct_length]
  · simp [hfast,hmid,hslow,adx,wilder,trueRange,hclose,hhigh,hlow,atrPct_length]

variable [FloorRing K]

/-- The windows that are chosen for a row do not depend on later rows: those of the three
averages of the row, and that of the middle one five rows before. -/
structure Steady (o : Ohlcv K) (t : ℕ) : Prop where
  /-- `ma_fast`. -/
  fast : windowAt o.fastPeriod t=windowAt (o.upTo t).fastPeriod t
  /-- `ma_mid`. -/
  mid : windowAt o.midPeriod t=windowAt (o.upTo t).midPeriod t
  /-- `ma_slow`. -/
  slow : windowAt o.slowPeriod t=windowAt (o.upTo t).slowPeriod t
  /-- `ma_mid.shift(5)`. -/
  before : ∀ r,r+5=t→windowAt o.midPeriod r=windowAt (o.upTo t).midPeriod r

/-- There is a period for each row. -/
theorem periods_length (o : Ohlcv K) (base lower upper : K) :
    (o.volRatio.map (periodOf base lower upper)).length=o.close.length := by
  rw [List.length_map,volRatio_length,(columns_length o).1]

/-- There is an average for each row. -/
theorem average_length (o : Ohlcv K) (base lower upper : K) :
    (adaptiveSma o.close (o.volRatio.map (periodOf base lower upper))).length=o.rows.length := by
  rw [adaptiveSma_length (periods_length o base lower upper),(columns_length o).1]

/-- Averages of the same windows are the same. -/
theorem adaptiveSma_same (o : Ohlcv K) {r t : ℕ} (hr : r≤t) {base lower upper : K}
    (h : windowAt (o.volRatio.map (periodOf base lower upper)) r=
      windowAt ((o.upTo t).volRatio.map (periodOf base lower upper)) r) :
    (adaptiveSma o.close (o.volRatio.map (periodOf base lower upper)))[r]?=
      (adaptiveSma (o.upTo t).close ((o.upTo t).volRatio.map (periodOf base lower upper)))[r]? := by
  rw [adaptiveSma_row (periods_length o base lower upper),
    adaptiveSma_row (periods_length (o.upTo t) base lower upper),h]
  congr 1
  funext w
  have hsma : CausalOf fun o : Ohlcv K => sma o.close (window w) := fun columns =>
    causal_sma (close_causal columns) (window w)
  exact hsma.row o hr

/-- There is a trend for each row. -/
theorem trendFollowing_length (o : Ohlcv K) : (generateTrendFollowing o).length=o.rows.length :=
  trendFollowingOf_length (average_length o 5.0 3.0 10.0) (average_length o 20.0 10.0 40.0)
    (average_length o 60.0 30.0 120.0)

/-- Trend following of a row whose windows do not depend on later rows. -/
theorem trendFollowing_row (o : Ohlcv K) {t : ℕ} (ht : t<o.rows.length) (h : Steady o t) :
    (generateTrendFollowing o)[t]?=(generateTrendFollowing (o.upTo t))[t]? := by
  have hlength : t<(o.upTo t).rows.length := by
    unfold Ohlcv.upTo
    rw [List.length_take]
    omega
  have hmid : t<(adaptiveSma o.close o.midPeriod).length := by
    rw [Ohlcv.midPeriod,average_length]
    exact ht
  have hmid' : t<(adaptiveSma (o.upTo t).close (o.upTo t).midPeriod).length := by
    rw [Ohlcv.midPeriod,average_length]
    exact hlength
  refine trendFollowingOf_row o (adaptiveSma_same o le_rfl h.fast) (adaptiveSma_same o le_rfl h.mid)
    (adaptiveSma_same o le_rfl h.slow) ?_
  unfold shifted
  rw [shift_row .missing 5 hmid,shift_row .missing 5 hmid']
  by_cases hfirst : t<5
  · rw [if_pos hfirst,if_pos hfirst]
  · rw [if_neg hfirst,if_neg hfirst]
    exact adaptiveSma_same o (by omega) (h.before (t-5) (by omega))

/-- A row of a finished signal. -/
theorem finished_row (minWindow : ℕ) (signal : Series K) (t : ℕ) :
    (finished minWindow signal)[t]?=signal[t]?.map fun v =>
      ((if t< minWindow then .number 0 else v).fillna (.number 0)).round4 := by
  unfold finished
  exact List.getElem?_mapIdx

/-- Equal rows are finished equally. -/
theorem finished_same (minWindow : ℕ) {signal signal' : Series K} {t : ℕ}
    (h : signal[t]?=signal'[t]?) :
    (finished minWindow signal)[t]?=(finished minWindow signal')[t]? := by
  rw [finished_row,finished_row,h]

/-- Rows of the first window are zeros. -/
theorem finished_first {minWindow t : ℕ} {signal : Series K} (hfirst : t< minWindow)
    (ht : t< signal.length) :
    (finished minWindow signal)[t]?=some (Value.round4 (.number 0)) := by
  rw [finished_row,List.getElem?_eq_getElem ht,Option.map_some,if_pos hfirst]
  rfl

/-- Finished trend following of a row of the first window, or of a row whose windows do not
depend on later rows. -/
theorem finished_trend_row (minWindow : ℕ) (o : Ohlcv K) {t : ℕ} (ht : t<o.rows.length)
    (h : t< minWindow ∨ Steady o t) :
    (finished minWindow (generateTrendFollowing o))[t]?=
      (finished minWindow (generateTrendFollowing (o.upTo t)))[t]? := by
  rcases h with hfirst | hsteady
  · have hlength : t<(o.upTo t).rows.length := by
      unfold Ohlcv.upTo
      rw [List.length_take]
      omega
    rw [finished_first hfirst (by rw [trendFollowing_length]; exact ht),
      finished_first hfirst (by rw [trendFollowing_length]; exact hlength)]
  · exact finished_same minWindow (trendFollowing_row o ht hsteady)

/-- For every history, every row of it and every first window: the three signals of the
row are those on the history up to it if the row is one of the first window or if the
windows that are chosen for it do not depend on later rows. -/
theorem signals_row (sqrt : K→K) (minWindow : ℕ) (o : Ohlcv K) (t : ℕ)
    (h : t< minWindow ∨ Steady o t) :
    (generate sqrt minWindow o).row t=(generate sqrt minWindow (o.upTo t)).row t := by
  by_cases ht : o.rows.length≤t
  · rw [upTo_of_length_le ht]
  have hmean := (meanReversion_causal sqrt).row o (le_refl t)
  have hrisk := (riskParity_causal sqrt).row o (le_refl t)
  have htrend := finished_trend_row minWindow o (by omega) h
  unfold Signals.row generate
  dsimp only
  rw [finished_same minWindow hmean,htrend,finished_same minWindow hrisk]

end Signals

/-- Rows of one price and one range, but for the price of the sixtieth row and the range of
the last one. -/
def shocked (price : ℚ) : Ohlcv ℚ where
  columns := ⟨true,true,false⟩
  rows := (List.range 62).map fun i =>
    if i=59 then ⟨.number 101,.number 99,.number price,.missing⟩
    else if i=61 then ⟨.number 120,.number 99,.number 100,.missing⟩
    else ⟨.number 101,.number 99,.number 100,.missing⟩

/-- A square root to fifteen decimals. -/
def decimalRoot (x : ℚ) : ℚ := (Nat.sqrt ⌊x*10^30⌋.toNat : ℚ)/10^15

/-- Before the wide range the windows of a row do not depend on the next one. -/
theorem signals_row_before :
    (generate decimalRoot 50 ((shocked 100).upTo 60)).row 59=
      (generate decimalRoot 50 (((shocked 100).upTo 60).upTo 59)).row 59 := by
  have hwindows : ∀ row∈[(Ohlcv.fastPeriod,59),(Ohlcv.midPeriod,59),(Ohlcv.slowPeriod,59),
      (Ohlcv.midPeriod,54)],windowAt (row.1 ((shocked 100).upTo 60)) row.2=
        windowAt (row.1 (((shocked 100).upTo 60).upTo 59)) row.2 := by decide +kernel
  have hsteady : Steady ((shocked 100).upTo 60) 59 := by
    refine ⟨hwindows (Ohlcv.fastPeriod,59) (by simp),hwindows (Ohlcv.midPeriod,59) (by simp),
      hwindows (Ohlcv.slowPeriod,59) (by simp),fun r hr => ?_⟩
    have hrow : r=54 := by omega
    rw [hrow]
    exact hwindows (Ohlcv.midPeriod,54) (by simp)
  exact signals_row decimalRoot 50 _ 59 (.inr hsteady)

/-- The wide range of the last row changes the trend of the row before it, whatever the
square root is. -/
theorem signals_look_ahead : ¬∃ sqrt : ℚ→ℚ,∀ (o : Ohlcv ℚ) (t : ℕ),
    (generate sqrt 60 o).row t=(generate sqrt 60 (o.upTo t)).row t := by
  rintro ⟨sqrt,hall⟩
  have htrend : (finished 60 (generateTrendFollowing (shocked 101)))[60]?=
      (finished 60 (generateTrendFollowing ((shocked 101).upTo 60)))[60]? :=
    congrArg (fun row => row.2.1) (hall (shocked 101) 60)
  have hother : (finished 60 (generateTrendFollowing (shocked 101)))[60]?≠
      (finished 60 (generateTrendFollowing ((shocked 101).upTo 60)))[60]? := by decide +kernel
  exact hother htrend

/-- At one price the averages of other windows are the same. -/
example : windowAt (shocked 100).fastPeriod 60≠windowAt ((shocked 100).upTo 60).fastPeriod 60 ∧
    (finished 60 (generateTrendFollowing (shocked 100)))[60]?=
      (finished 60 (generateTrendFollowing ((shocked 100).upTo 60)))[60]? := by decide +kernel

end Aqts.SignalCausality
