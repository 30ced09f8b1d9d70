import Aqts.TechnicalIndicators

/-!
# Vectorized signals

The three signals that `VectorizedSignalGenerator.generate` gives for a whole history,
and what a row of them sees of later rows. Mean reversion and risk parity see nothing.
Trend following chooses its moving averages by percentiles of all periods there are,
and fills the first medians with that of the whole history, so later rows can change
the windows of an earlier one; for equal windows it sees nothing else.
-/

namespace Aqts.VectorizedSignals

open CausalSeries PandasSeries TechnicalIndicators

/-- A row of a history. -/
structure Bar (K : Type*) where
  /-- `high`. -/
  high : Value K
  /-- `low`. -/
  low : Value K
  /-- `close`. -/
  close : Value K
  /-- `volume`. -/
  volume : Value K

/-- Columns that a history may have besides `close`. -/
structure Columns where
  /-- `high`. -/
  high : Bool
  /-- `low`. -/
  low : Bool
  /-- `volume`. -/
  volume : Bool

/-- A history. -/
structure Ohlcv (K : Type*) where
  /-- The columns. -/
  columns : Columns
  /-- The rows, by their dates. -/
  rows : List (Bar K)

/-- The three signals. -/
structure Signals (K : Type*) where
  /-- `MEAN_REVERSION`. -/
  meanReversion : Series K
  /-- `TREND_FOLLOWING`. -/
  trendFollowing : Series K
  /-- `RISK_PARITY`. -/
  riskParity : Series K

variable {K : Type*}

/-- The history up to a row. -/
def Ohlcv.upTo (o : Ohlcv K) (t : ℕ) : Ohlcv K := ⟨o.columns,o.rows.take (t+1)⟩

/-- The signals of a row. -/
def Signals.row (s : Signals K) (t : ℕ) : Option (Value K)×Option (Value K)×Option (Value K) :=
  (s.meanReversion[t]?,s.trendFollowing[t]?,s.riskParity[t]?)

/-- `close`. -/
def Ohlcv.close (o : Ohlcv K) : Series K := o.rows.map Bar.close

/-- `high`, or `close`. -/
def Ohlcv.high (o : Ohlcv K) : Series K :=
  if o.columns.high=true then o.rows.map Bar.high else o.close

/-- `low`, or `close`. -/
def Ohlcv.low (o : Ohlcv K) : Series K :=
  if o.columns.low=true then o.rows.map Bar.low else o.close

/-- `volume`. -/
def Ohlcv.volume (o : Ohlcv K) : Series K := o.rows.map Bar.volume

/-- `unique`, `np.percentile` and `int`, of periods above zero. -/
def percentile (q : ℕ) (distinct : List ℤ) : ℤ :=
  let sorted := distinct.insertionSort fun p p' => p≤p'
  let place := q*(sorted.length-1)
  let below := sorted.getD (place/100) 0
  let above := sorted.getD (place/100+1) 0
  below+(above-below)*(place%100 : ℕ)/100

/-- The window of a period. -/
def window (period : ℤ) : ℕ := (max period 2).toNat

section Signals

variable [Field K] [LinearOrder K]

/-- The mean reversion of a row. -/
def meanReversionOf (rsi close : Value K) (bands : Value K×Value K×Value K) : Value K :=
  let rsiSignal :=
    if Value.below (.number 70.0) rsi=true then -(rsi-.number 70.0)/.number 30.0
    else if rsi.below (.number 30.0)=true then (.number 30.0-rsi)/.number 30.0
    else .number 0
  let bbRange := bands.1-bands.2.2
  let bbPosition := (close-bands.2.1)/(bbRange/.number 2.0)
  let bbSignal := if Value.below (.number 0) bbRange=true then -bbPosition.clip (-1) 1 else .number 0
  ((rsiSignal+bbSignal)/.number 2.0).clip (-1) 1

/-- `_generate_mean_reversion`. -/
def generateMeanReversion (sqrt : K→K) (o : Ohlcv K) : Series K :=
  List.zipWith (fun rc bands => meanReversionOf rc.1 rc.2 bands)
    (List.zip (rsi o.close 14) o.close) (bollingerBands sqrt o.close 20 2.0)

/-- The risk parity of a row. -/
def riskParityOf (sqrt : K→K) (std20 std60 : Value K) : Value K :=
  let vol20 := std20*.number (sqrt 252.0)
  let vol60 := std60*.number (sqrt 252.0)
  let volTrend := ((vol60-vol20)/vol60).fillna (.number 0)
  let volLevel := ((.number 0.30-vol60)/.number 0.30).fillna (.number 0)
  (volTrend*.number 0.6+volLevel*.number 0.4).clip (-1) 1

/-- `_generate_risk_parity`. -/
def generateRiskParity (sqrt : K→K) (o : Ohlcv K) : Series K :=
  let returns := pctChange 1 o.close
  List.zipWith (riskParityOf sqrt) (rollingStd sqrt 20 returns) (rollingStd sqrt 60 returns)

/-- `atr_pct`. -/
def Ohlcv.atrPct (o : Ohlcv K) : Series K :=
  List.zipWith (fun a c => (a/c).fillna (.number 0)) (atr o.high o.low o.close 14) o.close

/-- `atr_median`: the first rows have the median of the whole history. -/
def Ohlcv.atrMedian (o : Ohlcv K) : Series K :=
  (rollingMedian 60 20 o.atrPct).map fun median => median.fillna (seriesMedian o.atrPct)

/-- `vol_ratio`. -/
def Ohlcv.volRatio (o : Ohlcv K) : List K :=
  List.zipWith (fun pct median => (pct/median.nonzero).fillnaClip 1 0.5 2.0) o.atrPct o.atrMedian

section Periods

variable [FloorRing K]

/-- A period of a ratio. -/
def periodOf (base lower upper ratio : K) : ℤ := roundHalfEven (min (max (base*ratio) lower) upper)

/-- `fast_period`. -/
def Ohlcv.fastPeriod (o : Ohlcv K) : List ℤ := o.volRatio.map (periodOf 5.0 3.0 10.0)

/-- `mid_period`. -/
def Ohlcv.midPeriod (o : Ohlcv K) : List ℤ := o.volRatio.map (periodOf 20.0 10.0 40.0)

/-- `slow_period`. -/
def Ohlcv.slowPeriod (o : Ohlcv K) : List ℤ := o.volRatio.map (periodOf 60.0 30.0 120.0)

end Periods

/-- `_adaptive_sma`. -/
def adaptiveSma (series : Series K) (periods : List ℤ) : Series K :=
  match periods.dedup with
  | [] => sma series (window 20)
  | [p] => sma series (window p)
  | distinct =>
    let low := percentile 25 distinct
    let mid := percentile 50 distinct
    let high := percentile 75 distinct
    let maLow := sma series (window low)
    let maMid := sma series (window mid)
    let maHigh := sma series (window high)
    List.zipWith (fun period averages =>
      if high≤period then averages.2.2 else if period≤low then averages.1 else averages.2.1)
      periods (List.zip maLow (List.zip maMid maHigh))

/-- `ma_signal` of a row; the last `where` that holds decides. -/
def maSignalOf (fast mid slow midBefore : Value K) : Value K :=
  let bullAligned := mid.below fast && slow.below mid
  let spreadBull := ((fast-slow)/slow.nonzero*.number 10.0).clip 0 1
  let bearAligned := fast.below mid && mid.below slow
  let spreadBear := -((slow-fast)/slow.nonzero*.number 10.0).clip (-1) 0
  let midRising := midBefore.below mid
  let midFalling := mid.below midBefore
  let mixed := !bullAligned && !bearAligned
  let earlyBull := mixed && mid.below fast && midRising
  let earlyBear := mixed && fast.below mid && midFalling
  let weakBull := mixed && !earlyBull && !earlyBear && mid.below fast
  let weakBear := mixed && !earlyBull && !earlyBear && fast.below mid
  if weakBear=true then .number (-0.15)
  else if weakBull=true then .number 0.15
  else if earlyBear=true then .number (-0.5)
  else if earlyBull=true then .number 0.5
  else if bearAligned=true then spreadBear
  else if bullAligned=true then spreadBull
  else .number 0

/-- `momentum_signal` of a row; the last `where` that holds decides. -/
def momentumSignalOf (adx roc atrPct : Value K) : Value K :=
  let rising := Value.below (.number 0) roc
  let falling := roc.below (.number 0)
  let trending := Value.below (.number 20.0) adx
  let strongTrend := Value.below (.number 30.0) adx
  let rocNormalized := ((roc/atrPct.nonzero).fillna (.number 0)).clip (-3.0) 3.0/.number 3.0
  if (falling && strongTrend)=true then rocNormalized.clip (-1) 0*.number 0.5
  else if (rising && strongTrend)=true then rocNormalized.clip 0 1*.number 0.5
  else if (falling && trending)=true then rocNormalized.clip (-1) 0*.number 0.4
  else if (rising && trending)=true then rocNormalized.clip 0 1*.number 0.4
  else .number 0

/-- `vol_multiplier` of a row. -/
def volMultiplierOf (volume average : Value K) : Value K :=
  let multiplier := (volume/average.nonzero).fillnaClip 1 0.5 1.5
  .number (if 1≤ multiplier then multiplier else 0.5+multiplier)

/-- `_generate_trend_following` with three averages. -/
def trendFollowingOf (o : Ohlcv K) (fast mid slow : Series K) : Series K :=
  let maSignal := List.zipWith (fun outer inner => maSignalOf outer.1 inner.1 outer.2 inner.2)
    (List.zip fast slow) (List.zip mid (shifted 5 mid))
  let roc := (pctChange 20 o.close).map fun change => change.fillna (.number 0)
  let momentumSignal := List.zipWith (fun ar pct => momentumSignalOf ar.1 ar.2 pct)
    (List.zip (adx o.high o.low o.close 14) roc) o.atrPct
  let combined := List.zipWith (fun ma momentum =>
    (ma*.number 0.6+momentum*.number 0.4).clip (-1) 1) maSignal momentumSignal
  if o.columns.volume=true then
    List.zipWith (fun signal multiplier => (signal*multiplier).clip (-1) 1) combined
      (List.zipWith volMultiplierOf o.volume (rollingMean 20 10 o.volume))
  else combined

variable [FloorRing K]

/-- `_generate_trend_following`. -/
def generateTrendFollowing (o : Ohlcv K) : Series K :=
  trendFollowingOf o (adaptiveSma o.close o.fastPeriod) (adaptiveSma o.close o.midPeriod)
    (adaptiveSma o.close o.slowPeriod)

/-- Zeros for the first rows and for what is missing, and four decimals. -/
def finished (minWindow : ℕ) (signal : Series K) : Series K :=
  signal.mapIdx fun i v => ((if i< minWindow then .number 0 else v).fillna (.number 0)).round4

/-- `generate`. -/
def generate (sqrt : K→K) (minWindow : ℕ) (o : Ohlcv K) : Signals K :=
  ⟨finished minWindow (generateMeanReversion sqrt o),
    finished minWindow (generateTrendFollowing o),
    finished minWindow (generateRiskParity sqrt o)⟩

end Signals

end Aqts.VectorizedSignals
