import Aqts.VectorizedSignals

/-!
# Signals of one ticker

`SignalGenerator`: the mean reversion and trend following signals of the last row of a
history. The indicators are those of the vectorized signals, but the signal is
calculated from their last values, and one that is missing gives no signal.
-/

namespace Aqts.SignalGenerator

open PandasSeries TechnicalIndicators VectorizedSignals

variable {K : Type*}

/-- Strategies that give a signal. -/
inductive StrategyType
  | factor | meanReversion | trendFollowing | statArb | riskParity | mlSignal
  deriving DecidableEq

/-- A signal. -/
structure Signal (K : Type*) where
  /-- Ticker. -/
  ticker : String
  /-- Strategy. -/
  strategy : StrategyType
  /-- From a strong sell to a strong buy. -/
  value : Value K
  /-- Confidence. -/
  confidence : Value K
  /-- Text of the indicators. -/
  reason : String

/-- `iloc[-1]`. -/
def lastOf (s : Series K) : Value K := s.getLastD .missing

/-- `iloc[-2]`, or zero. -/
def beforeLastOf [Zero K] (s : Series K) : Value K :=
  if 1< s.length then s.getD (s.length-2) .missing else .number 0

section Signals

variable [Field K] [LinearOrder K]

/-- The signal of a history that says nothing. -/
def silent (ticker : String) (strategy : StrategyType) (reason : String) : Signal K where
  ticker
  strategy
  value := .number 0
  confidence := .number 0
  reason

/-- An exponential mean of a span. -/
def ewmSpan (span : ℕ) (series : Series K) : Series K := ewmMean (2.0/((span : K)+1)) span series

/-- `histogram` of `macd`. -/
def macdHistogram (series : Series K) (fast slow signal : ℕ) : Series K :=
  let macdLine := List.zipWith (· - ·) (ewmSpan fast series) (ewmSpan slow series)
  List.zipWith (· - ·) macdLine (ewmSpan signal macdLine)

/-- `rsi_signal`. -/
def rsiSignalOf (currentRsi : Value K) : Value K :=
  if currentRsi.below (.number 30.0)=true then (.number 30.0-currentRsi)/.number 30.0
  else if Value.below (.number 70.0) currentRsi=true then -(currentRsi-.number 70.0)/.number 30.0
  else .number 0

/-- `bb_signal`. -/
def bbSignalOf (currentPrice : Value K) (bands : Value K×Value K×Value K) : Value K :=
  let bbRange := bands.1-bands.2.2
  let bbPosition := (currentPrice-bands.2.1)/(bbRange/.number 2.0)
  if Value.below (.number 0) bbRange=true then -bbPosition.clip (-1) 1 else .number 0

/-- `ma_signal`. -/
def maSignalOf (ma5 ma20 ma60 : Value K) : Value K :=
  if (ma20.below ma5 && ma60.below ma20)=true then
    ((ma5-ma60)/ma60*.number 10.0).pyMin (.number 1)
  else if (ma5.below ma20 && ma20.below ma60)=true then
    -((ma60-ma5)/ma60*.number 10.0).pyMin (.number 1)
  else if ma20.below ma5=true then .number 0.3
  else if ma5.below ma20=true then .number (-0.3)
  else .number 0

/-- `macd_signal`. -/
def macdSignalOf (currentHist prevHist : Value K) : Value K :=
  if (Value.below (.number 0) currentHist && prevHist.below currentHist)=true then .number 0.3
  else if (currentHist.below (.number 0) && currentHist.below prevHist)=true then .number (-0.3)
  else .number 0

variable [FloorRing K] (format : ℕ→Value K→String)

/-- `generate_mean_reversion_signal`. The texts of numbers are left to `format`. -/
def generateMeanReversionSignal (sqrt : K→K) (ticker : String) (ohlcv : Ohlcv K) : Signal K :=
  if ohlcv.rows.length<30 then silent ticker .meanReversion "Insufficient data"
  else
    let close := ohlcv.close
    let currentPrice := lastOf close
    let currentRsi := lastOf (rsi close 14)
    let bands := (bollingerBands sqrt close 20 2.0).getLastD (.missing,.missing,.missing)
    if currentRsi=.missing ∨ bands.1=.missing then silent ticker .meanReversion "Indicator NaN"
    else
      let rsiSignal := rsiSignalOf currentRsi
      let bbSignal := bbSignalOf currentPrice bands
      let combined := ((rsiSignal+bbSignal)/.number 2.0).clip (-1) 1
      let confidence :=
        if Value.below (.number 0) (rsiSignal*bbSignal)=true then
          (combined.abs*.number 1.5).pyMin (.number 1)
        else combined.abs*.number 0.5
      { ticker
        strategy := .meanReversion
        value := combined.round4
        confidence := confidence.round4
        reason := "RSI="++format 1 currentRsi++", BB_pos="++format 2 bbSignal }

/-- `generate_trend_following_signal`. -/
def generateTrendFollowingSignal (ticker : String) (ohlcv : Ohlcv K) : Signal K :=
  if ohlcv.rows.length<65 then silent ticker .trendFollowing "Insufficient data"
  else
    let close := ohlcv.close
    let ma5 := lastOf (sma close 5)
    let ma20 := lastOf (sma close 20)
    let ma60 := lastOf (sma close 60)
    let histogram := macdHistogram close 12 26 9
    let currentHist := lastOf histogram
    let prevHist := beforeLastOf histogram
    if ma60=.missing ∨ currentHist=.missing then silent ticker .trendFollowing "Indicator NaN"
    else
      let maSignal := maSignalOf ma5 ma20 ma60
      let macdSignal := macdSignalOf currentHist prevHist
      let combined := (maSignal+macdSignal).clip (-1) 1
      let confidence := maSignal.abs*.number 0.7+macdSignal.abs*.number 0.3
      { ticker
        strategy := .trendFollowing
        value := combined.round4
        confidence := (confidence.pyMin (.number 1)).round4
        reason := "MA5="++format 0 ma5++",MA20="++format 0 ma20++",MA60="++format 0 ma60++
          ",MACD_H="++format 2 currentHist }

end Signals

end Aqts.SignalGenerator
