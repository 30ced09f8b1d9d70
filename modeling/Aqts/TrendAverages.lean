import Aqts.SignalGenerator
import Mathlib.Data.Rat.Floor
import Mathlib.Tactic.Linarith
import Mathlib.Tactic.NormNum

/-!
# Averages in a falling trend

The moving averages of `_generate_trend_following`: in a rising trend their part of
the signal is ten times the spread, up to one. In a falling trend the spread is clipped
to the negative range before its sign is turned, which leaves nothing of it, where
`generate_trend_following_signal` gives the mirrored value.
-/

namespace Aqts.TrendAverages

open PandasSeries TechnicalIndicators VectorizedSignals

variable {K : Type*} [Field K] [LinearOrder K]

/-- `ma_signal` of three averages. -/
def maSignal (fast mid slow : Series K) : Series K :=
  List.zipWith (fun outer inner => VectorizedSignals.maSignalOf outer.1 inner.1 outer.2 inner.2)
    (List.zip fast slow) (List.zip mid (shifted 5 mid))

/-- `momentum_signal`. -/
def momentumSignal (o : Ohlcv K) : Series K :=
  let roc := (pctChange 20 o.close).map fun change => change.fillna (.number 0)
  List.zipWith (fun ar pct => momentumSignalOf ar.1 ar.2 pct)
    (List.zip (adx o.high o.low o.close 14) roc) o.atrPct

/-- `combined` before the volume. -/
def combine (maSignal momentumSignal : Series K) : Series K :=
  List.zipWith (fun ma momentum => (ma*.number 0.6+momentum*.number 0.4).clip (-1) 1)
    maSignal momentumSignal

/-- A falling trend of three averages. -/
structure Falling (fast mid slow : K) : Prop where
  /-- They are positive. -/
  pos : 0< fast
  /-- The fast one is the least. -/
  fast_lt : fast< mid
  /-- The slow one is the largest. -/
  lt_slow : mid< slow

/-- Ten times the spread, up to one, as a sell. -/
def bearSpread (fast slow : K) : K := -min (10.0*(slow-fast)/slow) 1

section Adaptive

variable [FloorRing K]

/-- The averages of a row. -/
structure AveragesAt (o : Ohlcv K) (t : ℕ) (fast mid slow : K) : Prop where
  /-- The fast one. -/
  fast_row : (adaptiveSma o.close o.fastPeriod)[t]?=some (.number fast)
  /-- The middle one. -/
  mid_row : (adaptiveSma o.close o.midPeriod)[t]?=some (.number mid)
  /-- The slow one. -/
  slow_row : (adaptiveSma o.close o.slowPeriod)[t]?=some (.number slow)

/-- `ma_signal` of a history. -/
def maSignals (o : Ohlcv K) : Series K :=
  maSignal (adaptiveSma o.close o.fastPeriod) (adaptiveSma o.close o.midPeriod)
    (adaptiveSma o.close o.slowPeriod)

/-- Where the averages fall, their part of the signal is the spread as a sell, which is
negative, and that of the signal of one ticker. -/
def MirrorsFall (o : Ohlcv K) : Prop :=
  ∀ t fast mid slow,AveragesAt o t fast mid slow→Falling fast mid slow→
    (maSignals o)[t]?=some (.number (bearSpread fast slow)) ∧ bearSpread fast slow<0 ∧
      SignalGenerator.maSignalOf (.number fast) (.number mid) (.number slow)=
        .number (bearSpread fast slow)

/-- The averages never fall. -/
def NeverFalls (o : Ohlcv K) : Prop :=
  ∀ t fast mid slow,AveragesAt o t fast mid slow→¬Falling fast mid slow

/-- The signal is made of the parts of the averages and of the momentum. -/
theorem generateTrendFollowing_parts (o : Ohlcv K) :
    generateTrendFollowing o=
      if o.columns.volume=true then
        List.zipWith (fun signal multiplier => (signal*multiplier).clip (-1) 1)
          (combine (maSignals o) (momentumSignal o))
          (List.zipWith volMultiplierOf o.volume (rollingMean 20 10 o.volume))
      else combine (maSignals o) (momentumSignal o) := rfl

end Adaptive

section Falls

variable {fast mid slow : K}

/-- The number of the spread. -/
theorem Falling.spread_eq (h : Falling fast mid slow) :
    (Value.number slow-.number fast)/.number slow*.number 10.0=.number (10.0*(slow-fast)/slow) := by
  have hslow : slow≠0 := (h.pos.trans (h.fast_lt.trans h.lt_slow)).ne'
  have hdiv : (Value.number slow-.number fast)/.number slow=
      .number ((slow+-fast)/slow) := if_neg hslow
  rw [hdiv,mul_comm 10.0,← div_mul_eq_mul_div,sub_eq_add_neg]
  rfl

/-- The signal of one ticker is the spread as a sell. -/
theorem Falling.maSignalOf_scalar (h : Falling fast mid slow) :
    SignalGenerator.maSignalOf (.number fast) (.number mid) (.number slow)=
      .number (bearSpread fast slow) := by
  have hup : Value.below (.number mid) (.number fast)=false :=
    decide_eq_false (not_lt.mpr h.fast_lt.le)
  have hdown : Value.below (.number fast) (.number mid)=true := decide_eq_true h.fast_lt
  have hdown' : Value.below (.number mid) (.number slow)=true := decide_eq_true h.lt_slow
  unfold SignalGenerator.maSignalOf bearSpread
  rw [hup,hdown,hdown',Bool.false_and,if_neg Bool.false_ne_true,Bool.and_self,if_pos rfl,
    h.spread_eq]
  unfold Value.pyMin
  by_cases hlarge : 1<10.0*(slow-fast)/slow
  · have hbelow : Value.below (.number 1) (.number (10.0*(slow-fast)/slow))=true :=
      decide_eq_true hlarge
    rw [hbelow,if_pos rfl,min_eq_right hlarge.le]
    rfl
  · have hbelow : Value.below (.number 1) (.number (10.0*(slow-fast)/slow))=false :=
      decide_eq_false hlarge
    rw [hbelow,if_neg Bool.false_ne_true,min_eq_left (not_lt.mp hlarge)]
    rfl

variable [IsStrictOrderedRing K]

/-- The spread of a falling trend is positive. -/
theorem Falling.spread_pos (h : Falling fast mid slow) : 0<10.0*(slow-fast)/slow := by
  have hless := h.fast_lt.trans h.lt_slow
  exact div_pos (mul_pos (by norm_num) (sub_pos.mpr hless)) (h.pos.trans hless)

/-- The spread as a sell is negative. -/
theorem Falling.bearSpread_neg (h : Falling fast mid slow) : bearSpread fast slow<0 :=
  neg_neg_of_pos (lt_min h.spread_pos one_pos)

/-- The vectorized signal of a falling trend is nothing. -/
theorem Falling.maSignalOf_vectorized (h : Falling fast mid slow) (midBefore : Value K) :
    VectorizedSignals.maSignalOf (.number fast) (.number mid) (.number slow) midBefore=
      .number 0 := by
  have hup : Value.below (.number mid) (.number fast)=false :=
    decide_eq_false (not_lt.mpr h.fast_lt.le)
  have hdown : Value.below (.number fast) (.number mid)=true := decide_eq_true h.fast_lt
  have hdown' : Value.below (.number mid) (.number slow)=true := decide_eq_true h.lt_slow
  have hnonzero : (Value.number slow).nonzero=.number slow :=
    if_neg (h.pos.trans (h.fast_lt.trans h.lt_slow)).ne'
  have hclip : -(Value.number (10.0*(slow-fast)/slow)).clip (-1) 0=.number 0 := by
    have hlarge : (-1 : K)≤10.0*(slow-fast)/slow := by
      have hpos := h.spread_pos
      linarith
    have hzero : min (max (10.0*(slow-fast)/slow) (-1)) 0=0 := by
      rw [max_eq_left hlarge,min_eq_right h.spread_pos.le]
    exact congrArg Value.number ((congrArg Neg.neg hzero).trans neg_zero)
  unfold VectorizedSignals.maSignalOf
  rw [hup,hdown,hdown',hnonzero,h.spread_eq,hclip]
  simp

end Falls

/-- A row of the signal of three averages. -/
theorem maSignal_row {fasts mids slows : Series K} {t : ℕ} {fast mid slow : Value K}
    (hfast : fasts[t]?=some fast) (hmid : mids[t]?=some mid) (hslow : slows[t]?=some slow) :
    ∃ midBefore,(maSignal fasts mids slows)[t]?=
      some (VectorizedSignals.maSignalOf fast mid slow midBefore) := by
  obtain ⟨hlength,_⟩ := List.getElem?_eq_some_iff.mp hmid
  have hshifted : t< (shifted 5 mids).length := by rwa [shifted_length]
  have hbefore := List.getElem?_eq_getElem hshifted
  have houter : (List.zip fasts slows)[t]?=some (fast,slow) :=
    List.getElem?_zip_eq_some.mpr ⟨hfast,hslow⟩
  have hinner : (List.zip mids (shifted 5 mids))[t]?=some (mid,(shifted 5 mids)[t]) :=
    List.getElem?_zip_eq_some.mpr ⟨hmid,hbefore⟩
  exact ⟨_,List.getElem?_zipWith_eq_some.mpr ⟨_,_,houter,hinner,rfl⟩⟩

section Histories

variable [FloorRing K] [IsStrictOrderedRing K]

/-- The part of falling averages is nothing. -/
theorem maSignals_falling {o : Ohlcv K} {t : ℕ} {fast mid slow : K}
    (hrow : AveragesAt o t fast mid slow) (hfalling : Falling fast mid slow) :
    (maSignals o)[t]?=some (.number 0) := by
  obtain ⟨midBefore,hsignal⟩ := maSignal_row hrow.fast_row hrow.mid_row hrow.slow_row
  rw [hfalling.maSignalOf_vectorized] at hsignal
  exact hsignal

/-- The falls of a history are mirrored exactly if there are none. -/
theorem mirrorsFall_iff (o : Ohlcv K) : MirrorsFall o ↔ NeverFalls o := by
  constructor
  · intro h t fast mid slow hrow hfalling
    obtain ⟨hmirrored,hneg,_⟩ := h t fast mid slow hrow hfalling
    rw [maSignals_falling hrow hfalling] at hmirrored
    have hzero : 0=bearSpread fast slow := Value.number.inj (Option.some.inj hmirrored)
    exact absurd hneg (hzero ▸ lt_irrefl 0)
  · intro h t fast mid slow hrow hfalling
    exact absurd hfalling (h t fast mid slow hrow)

end Histories

/-- A price that falls by one every day. -/
def fallingHistory : Ohlcv ℚ where
  columns := ⟨true,true,true⟩
  rows := (List.range 60).map fun t : ℕ =>
    ⟨.number (100005-t),.number (99995-t),.number (100000-t),.number 1⟩

/-- Its averages on the sixtieth day. -/
theorem fallingHistory_averages :
    AveragesAt fallingHistory 59 99943 (199901/2) (199941/2) := by
  have hrows : (adaptiveSma fallingHistory.close fallingHistory.fastPeriod)[59]?=
        some (.number 99943) ∧
      (adaptiveSma fallingHistory.close fallingHistory.midPeriod)[59]?=
        some (.number (199901/2)) ∧
      (adaptiveSma fallingHistory.close fallingHistory.slowPeriod)[59]?=
        some (.number (199941/2)) := by decide +kernel
  exact ⟨hrows.1,hrows.2.1,hrows.2.2⟩

/-- Its fall is not mirrored. -/
theorem fallingHistory_not_mirrored : ¬MirrorsFall fallingHistory := by
  intro h
  have hfalling : Falling (99943 : ℚ) (199901/2) (199941/2) := by
    refine ⟨?_,?_,?_⟩ <;> norm_num
  obtain ⟨hmirrored,hneg,_⟩ := h 59 _ _ _ fallingHistory_averages hfalling
  rw [maSignals_falling fallingHistory_averages hfalling] at hmirrored
  have hzero : (0 : ℚ)=bearSpread 99943 (199941/2) :=
    Value.number.inj (Option.some.inj hmirrored)
  exact absurd hneg (hzero ▸ lt_irrefl 0)

/-- The condition on that history. -/
theorem mirrorsFall_iff_fallingHistory : MirrorsFall fallingHistory ↔ NeverFalls fallingHistory :=
  mirrorsFall_iff fallingHistory

end Aqts.TrendAverages
