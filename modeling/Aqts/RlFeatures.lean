import Aqts.Dictionary
import Aqts.RlEnvironments
import Aqts.SignalCausality

/-!
# Market features of several assets

`MultiAssetTradingEnv._prepare_multi_asset_data`: the longest histories are chosen, cut
down to their common dates, and turned into eight columns each before the first step.
Two of the columns read the whole history at once: the rank of the volatility, and the
true range, whose first row takes the last close for the one before it.
-/

namespace Aqts.RlFeatures

open CausalSeries Dictionary PandasSeries RlEnvironments SignalCausality TechnicalIndicators
open VectorizedSignals

/-- A data frame: its columns, and a row for each of its dates. -/
structure History (D K : Type*) where
  /-- The columns. -/
  columns : Columns
  /-- The rows. -/
  rows : Dict D (Bar K)

section Columns

variable {K : Type*} [Field K]

/-- `returns`: zero on the first day. -/
def returns (close : Series K) [LinearOrder K] : Series K :=
  scan (fun (before : Option (Value K)) c => (some c,match before with
    | none => .number 0
    | some b => (c-b)/b)) none close

variable [LinearOrder K]

/-- `returns_5d`. -/
def returns5d (o : Ohlcv K) : Series K :=
  (rollingMean 5 5 (returns o.close)).map fun v => v.fillna (.number 0)

/-- `vol_20d`. -/
def vol20d (sqrt : K→K) (o : Ohlcv K) : Series K :=
  (rollingStd sqrt 20 (returns o.close)).map fun v => v.fillna (.number 0)

/-- `momentum` of the two averages of a day. -/
def momentumOf (sma5 sma20 : Value K) : Value K :=
  (((if sma20=.number 0 then .number 1 else sma5/sma20)-.number 1)*.number 10.0).clip (-1) 1

/-- `momentum`. -/
def momentum (o : Ohlcv K) : Series K := List.zipWith momentumOf (sma o.close 5) (sma o.close 20)

/-- `tr` of a day and the close that is taken for the one before it. -/
def trOf (range : Value K×Value K) (before : Value K) : Value K :=
  (range.1-range.2).npMaximum ((range.1-before).abs.npMaximum (range.2-before).abs)

/-- `tr`, with a close before the first day. -/
def tr (before : Value K) (o : Ohlcv K) : Series K :=
  List.zipWith trOf (List.zip o.high o.low) (shift before 1 o.close)

/-- `adx_proxy` of a day. -/
def adxProxyOf (atr close : Value K) : Value K := (atr.fillna (.number 0)/(close+.number 1e-8)).clip 0 1

/-- `adx_proxy`, with a close before the first day. -/
def adxProxyFrom (before : Value K) (o : Ohlcv K) : Series K :=
  List.zipWith adxProxyOf (rollingMean 14 14 (tr before o)) o.close

/-- The close that `np.roll` puts before the first day: the last one. -/
def lastClose (o : Ohlcv K) : Value K := o.close.getLast?.getD .missing

/-- `adx_proxy`. -/
def adxProxy (o : Ohlcv K) : Series K := adxProxyFrom (lastClose o) o

/-- How many values are below one. -/
def lowerCount (s : Series K) (v : Value K) : ℕ := s.countP fun w => w.below v

/-- How many values are equal to one. -/
def equalCount (s : Series K) (v : Value K) : ℕ := s.countP fun w => decide (w=v)

/-- `rank(pct=True)` of a value: the average of its places, as a share of all places. -/
def rankOf (s : Series K) (v : Value K) : Value K :=
  match v with
  | .missing => .missing
  | v =>
    let present := s.filter fun w => w≠.missing
    .number (((lowerCount present v : K)+((equalCount present v : K)+1)/2.0)/(present.length : K))

/-- `vol_pct`. -/
def volPct (sqrt : K→K) (o : Ohlcv K) : Series K :=
  (vol20d sqrt o).map fun v => (rankOf (vol20d sqrt o) v).fillna (.number 0.5)

variable [FloorRing K]

/-- The eight columns of an asset, in single precision. -/
def featureColumns (sqrt : K→K) (single : Value K→Value K) (lookbackWindow : ℕ) (o : Ohlcv K) :
    List (Series K) :=
  let signals := generate sqrt lookbackWindow o
  [returns5d o,vol20d sqrt o,adxProxy o,volPct sqrt o,momentum o,signals.meanReversion,
    signals.trendFollowing,signals.riskParity].map fun column => column.map single

/-- Every column has a value for each day. -/
theorem featureColumns_aligned (sqrt : K→K) (single : Value K→Value K) (lookbackWindow : ℕ)
    (o : Ohlcv K) : ∀ column∈featureColumns sqrt single lookbackWindow o,
      column.length=o.close.length := by
  obtain ⟨hclose,hhigh,hlow,_⟩ := columns_length o
  have hvol : (vol20d sqrt o).length=o.rows.length := by
    simp [vol20d,rollingStd,returns,hclose]
  have htrend := trendFollowing_length o
  intro column hcolumn
  unfold featureColumns at hcolumn
  dsimp only at hcolumn
  obtain ⟨plain,hplain,rfl⟩ := List.mem_map.mp hcolumn
  rw [List.length_map,hclose]
  simp only [List.mem_cons,List.not_mem_nil,or_false] at hplain
  rcases hplain with rfl | rfl | rfl | rfl | rfl | rfl | rfl | rfl
  · simp [returns5d,returns,hclose]
  · exact hvol
  · simp [adxProxy,adxProxyFrom,tr,hclose,hhigh,hlow]
  · simp [volPct,hvol]
  · simp [momentum,hclose]
  · simp [generate,finished,generateMeanReversion,bollingerBands,rsi,wilder,diff,rollingStd,hclose]
  · simp [generate,finished,htrend]
  · simp [generate,finished,generateRiskParity,rollingStd,hclose]

/-- The arrays of an asset. -/
def assetOf (sqrt : K→K) (single : Value K→Value K) (lookbackWindow : ℕ) (o : Ohlcv K) :
    Asset (Value K) where
  close := o.close
  features := featureColumns sqrt single lookbackWindow o
  eight := rfl
  aligned := featureColumns_aligned sqrt single lookbackWindow o

end Columns

section Dates

variable {D K : Type*} [LinearOrder D]

/-- `index`. -/
def History.dates (h : History D K) : List D := h.rows.items.map Prod.fst

/-- `sorted_tickers[: max_assets]` with their histories: the longest first, and of equally long
ones the first. -/
def chosen (maxAssets : ℕ) (histories : Dict String (History D K)) : List (String×History D K) :=
  (histories.items.insertionSort fun e e' => 
    e'.2.rows.items.length≤e.2.rows.items.length).take maxAssets

/-- `common_dates` of the first history and the others. -/
def commonDates (first : History D K) (rest : List (History D K)) : List D :=
  (first.dates.filter fun date => rest.all fun h => decide (date∈h.dates)).insertionSort (· ≤ ·)

/-- `dates`: the common dates of the chosen histories. -/
def tradingDays (maxAssets : ℕ) (histories : Dict String (History D K)) : List D :=
  match chosen maxAssets histories with
  | [] => []
  | first::rest => commonDates first.2 (rest.map Prod.snd)

/-- `loc` of some dates. -/
def History.loc (h : History D K) (dates : List D) : Ohlcv K := ⟨h.columns,dates.filterMap h.rows.get?⟩

/-- A date of the history has a row. -/
theorem History.get?_total (h : History D K) {date : D} (hdate : date∈h.dates) :
    ∃ bar,h.rows.get? date=some bar := by
  obtain ⟨item,hitem,rfl⟩ := List.mem_map.mp hdate
  exact ⟨item.2,h.rows.get?_eq_some.mpr hitem⟩

/-- Common dates are dates of every history. -/
theorem mem_commonDates {first : History D K} {rest : List (History D K)} {date : D} :
    date∈commonDates first rest ↔ date∈first.dates ∧ ∀ h∈rest,date∈h.dates := by
  unfold commonDates
  rw [List.mem_insertionSort,List.mem_filter,List.all_eq_true]
  simp only [decide_eq_true_eq]

/-- The days are dates of every chosen history. -/
theorem tradingDays_dates {maxAssets : ℕ} {histories : Dict String (History D K)}
    {e : String×History D K} (he : e∈chosen maxAssets histories) {date : D}
    (hdate : date∈tradingDays maxAssets histories) : date∈e.2.dates := by
  unfold tradingDays at hdate
  split at hdate
  · cases hdate
  · rename_i first rest hchosen
    rw [hchosen] at he
    have hcommon := mem_commonDates.mp hdate
    rcases List.mem_cons.mp he with rfl | hrest
    · exact hcommon.1
    · exact hcommon.2 e.2 (List.mem_map_of_mem hrest)

/-- `loc` has a row for each of the dates. -/
theorem loc_length {h : History D K} {dates : List D} (hdates : ∀ date∈dates,date∈h.dates) :
    (h.loc dates).rows.length=dates.length := by
  unfold History.loc
  dsimp only
  induction dates with
  | nil => rfl
  | cons date dates ih =>
    obtain ⟨bar,hbar⟩ := h.get?_total (hdates date List.mem_cons_self)
    rw [List.filterMap_cons_some hbar,List.length_cons,List.length_cons,
      ih fun other hother => hdates other (List.mem_cons_of_mem _ hother)]

variable [Field K] [LinearOrder K] [FloorRing K]

/-- The environment with the arrays of the chosen histories. -/
def prepared (sqrt : K→K) (single : Value K→Value K) (config : RLConfig (Value K)) (maxAssets : ℕ)
    (histories : Dict String (History D K)) : MultiAssetTradingEnv (Value K) where
  config := config
  maxAssets := maxAssets
  assets := (chosen maxAssets histories).map fun e => 
    assetOf sqrt single config.lookbackWindow (e.2.loc (tradingDays maxAssets histories))
  nDays := (tradingDays maxAssets histories).length
  days := by
    intro asset hasset
    obtain ⟨e,he,rfl⟩ := List.mem_map.mp hasset
    exact (columns_length _).1.trans (loc_length fun date hdate => tradingDays_dates he hdate)

/-- `_prepare_multi_asset_data`; `none` is the exception of no ticker at all. -/
def prepare (sqrt : K→K) (single : Value K→Value K) (config : RLConfig (Value K)) (maxAssets : ℕ)
    (histories : Dict String (History D K)) : Option (MultiAssetTradingEnv (Value K)) :=
  if chosen maxAssets histories=[] then none
  else some (prepared sqrt single config maxAssets histories)

end Dates

/-- Floats with exact numbers, and the guard of the source. -/
def floats {K : Type*} [Field K] [LinearOrder K] : Arithmetic (Value K) where
  ofRat q := .number (q : K)
  abs := Value.abs
  below := Value.below
  same v w := decide (v=w ∧ v≠.missing)
  guard := .number 1e-8

end Aqts.RlFeatures
