import Aqts.PandasSeries

/-!
# Technical indicators

The indicators of `TechnicalIndicators` that the vectorized signals read. What a row
of them does with the values of that row is a function of these values; what reads
other rows is an operation on series. All of them are causal.
-/

namespace Aqts.TechnicalIndicators

open CausalSeries PandasSeries

variable {K : Type*} [Field K] {α : Type*} {f : List α→Series K}

/-- `sma`. -/
def sma (series : Series K) (period : ℕ) : Series K := rollingMean period period series

/-- An exponential mean with an `alpha` of one in the period. -/
def wilder (period : ℕ) (series : Series K) : Series K := ewmMean (1/(period : K)) period series

/-- Moving averages are as many. -/
@[simp] theorem sma_length (series : Series K) (period : ℕ) :
    (sma series period).length=series.length := rollingMean_length _ _ _

/-- Moving averages are causal. -/
theorem causal_sma (hf : Causal f) (period : ℕ) : Causal fun xs => sma (f xs) period :=
  causal_rollingMean hf period period

/-- Such means are causal. -/
theorem causal_wilder (hf : Causal f) (period : ℕ) : Causal fun xs => wilder period (f xs) :=
  causal_ewmMean hf _ period

variable [LinearOrder K] {high low close : List α→Series K}

/-- `gain` of a difference. -/
def gain (delta : Value K) : Value K := if Value.below (.number 0) delta=true then delta else .number 0

/-- `loss` of a difference. -/
def loss (delta : Value K) : Value K := if delta.below (.number 0)=true then -delta else .number 0

/-- `rsi` of the two means. -/
def rsiOf (avgGain avgLoss : Value K) : Value K :=
  let rs := avgGain/avgLoss.nonzero
  .number 100.0-.number 100.0/(.number 1+rs)

/-- `rsi`. -/
def rsi (series : Series K) (period : ℕ) : Series K :=
  let delta := diff series
  let avgGain := wilder period (delta.map gain)
  let avgLoss := wilder period (delta.map loss)
  List.zipWith rsiOf avgGain avgLoss

/-- `upper`, `middle` and `lower` of a row. -/
def bandsOf (numStd : K) (middle std : Value K) : Value K×Value K×Value K :=
  (middle+.number numStd*std,middle,middle-.number numStd*std)

/-- `bollinger_bands`. -/
def bollingerBands (sqrt : K→K) (series : Series K) (period : ℕ) (numStd : K) :
    List (Value K×Value K×Value K) :=
  List.zipWith (bandsOf numStd) (rollingMean period period series) (rollingStd sqrt period series)

/-- `true_range` of a row, over what is not missing. -/
def trueRangeOf (range : Value K×Value K) (prevClose : Value K) : Value K :=
  let tr1 := range.1-range.2
  let tr2 := (range.1-prevClose).abs
  let tr3 := (range.2-prevClose).abs
  (tr1.larger tr2).larger tr3

/-- `true_range`. -/
def trueRange (high low close : Series K) : Series K :=
  List.zipWith trueRangeOf (List.zip high low) (shifted 1 close)

/-- `atr`. -/
def atr (high low close : Series K) (period : ℕ) : Series K :=
  rollingMean period period (trueRange high low close)

/-- `plus_dm` and `minus_dm`, of which the larger one is kept. -/
def directional (range before : Value K×Value K) : Value K×Value K :=
  let plusDm := (range.1-before.1).clipBelow 0
  let minusDm := (before.2-range.2).clipBelow 0
  let plusKept := if minusDm.below plusDm=true then plusDm else .number 0
  let minusKept := if plusKept.below minusDm=true then minusDm else .number 0
  (plusKept,minusKept)

/-- `dx` of the smoothed movements and the smoothed range. -/
def dxOf (moves : Value K×Value K) (atrSmooth : Value K) : Value K :=
  let plusDi := .number 100.0*moves.1/atrSmooth.nonzero
  let minusDi := .number 100.0*moves.2/atrSmooth.nonzero
  (.number 100.0*(plusDi-minusDi).abs/(plusDi+minusDi).nonzero).fillna (.number 0)

/-- `adx`. -/
def adx (high low close : Series K) (period : ℕ) : Series K :=
  let moves := List.zipWith directional (List.zip high low)
    (List.zip (shifted 1 high) (shifted 1 low))
  let atrSmooth := wilder period (trueRange high low close)
  let plusSmooth := wilder period (moves.map Prod.fst)
  let minusSmooth := wilder period (moves.map Prod.snd)
  wilder period (List.zipWith dxOf (List.zip plusSmooth minusSmooth) atrSmooth)

/-- The bands are causal. -/
theorem causal_bollingerBands (hf : Causal f) (sqrt : K→K) (period : ℕ) (numStd : K) :
    Causal fun xs => bollingerBands sqrt (f xs) period numStd :=
  (causal_rollingMean hf period period).zipWith (causal_rollingStd hf sqrt period) (bandsOf numStd)

/-- The relative strength is causal. -/
theorem causal_rsi (hf : Causal f) (period : ℕ) : Causal fun xs => rsi (f xs) period := by
  have hdelta := causal_diff hf
  have hgain := causal_wilder (hdelta.map gain) period
  have hloss := causal_wilder (hdelta.map loss) period
  exact hgain.zipWith hloss rsiOf

/-- True ranges are causal. -/
theorem causal_trueRange (hhigh : Causal high) (hlow : Causal low) (hclose : Causal close) :
    Causal fun xs => trueRange (high xs) (low xs) (close xs) :=
  (hhigh.zipWith hlow Prod.mk).zipWith (causal_shifted hclose 1) trueRangeOf

/-- Average true ranges are causal. -/
theorem causal_atr (hhigh : Causal high) (hlow : Causal low) (hclose : Causal close)
    (period : ℕ) : Causal fun xs => atr (high xs) (low xs) (close xs) period :=
  causal_rollingMean (causal_trueRange hhigh hlow hclose) period period

/-- The directional index is causal. -/
theorem causal_adx (hhigh : Causal high) (hlow : Causal low) (hclose : Causal close)
    (period : ℕ) : Causal fun xs => adx (high xs) (low xs) (close xs) period := by
  have hbefore := (causal_shifted hhigh 1).zipWith (causal_shifted hlow 1) Prod.mk
  have hmoves := (hhigh.zipWith hlow Prod.mk).zipWith hbefore directional
  have hrange := causal_wilder (causal_trueRange hhigh hlow hclose) period
  have hplus := causal_wilder (hmoves.map Prod.fst) period
  have hminus := causal_wilder (hmoves.map Prod.snd) period
  exact causal_wilder ((hplus.zipWith hminus Prod.mk).zipWith hrange dxOf) period

end Aqts.TechnicalIndicators
