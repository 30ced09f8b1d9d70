import Mathlib.Analysis.Real.Sqrt
import Aqts.HalfEvenRounding
import Aqts.LastIndicators
import Aqts.SampleDeviations

/-!
# Mean reversion of a history and of its last row

The vectorized signal and the signal of one ticker are calculated from the same last
indicators. A relative strength that is missing is nothing to the first, which keeps
half of the signal of the bands, and silences the second. Closes that never fall end
at the top of their bands, so the signals agree exactly if there is a down-move or the
last window is flat.
-/

namespace Aqts.MeanReversionAgreement

open PandasSeries TechnicalIndicators VectorizedSignals SignalGenerator LastIndicators
  SampleDeviations

/-- All closes of the last window are the same. -/
def FlatWindow (closes : List ℝ) : Prop :=
  ∀ x∈lastWindow 20 closes,∀ y∈lastWindow 20 closes,x=y

section Window

variable {closes : List ℝ}

/-- Without a down-move later closes are at least as high. -/
theorem le_of_no_down_move (h : ¬HasDownMove closes) (k : ℕ) {i : ℕ} {before after : ℝ}
    (hbefore : closes[i]?=some before) (hafter : closes[i+k]?=some after) : before≤after := by
  induction k generalizing after with
  | zero =>
    rw [Nat.add_zero,hbefore] at hafter
    exact (Option.some.inj hafter).le
  | succ k ih =>
    have hlength := (List.getElem?_eq_some_iff.mp hafter).1
    have hmiddle : closes[i+k]?=some closes[i+k] :=
      List.getElem?_eq_getElem (by omega : i+k< closes.length)
    refine (ih hmiddle).trans ?_
    by_contra hless
    exact h ⟨i+k,_,after,hmiddle,hafter,not_le.mp hless⟩

/-- Without a down-move the last close is the highest of its window. -/
theorem le_last_of_no_down_move (h : ¬HasDownMove closes) {last : ℝ}
    (hlast : closes[closes.length-1]?=some last) : ∀ x∈lastWindow 20 closes,x≤last := by
  intro x hx
  obtain ⟨i,hi⟩ := List.mem_iff_getElem?.mp (List.mem_of_mem_drop hx)
  have hlength := (List.getElem?_eq_some_iff.mp hi).1
  have hplace : i+(closes.length-1-i)=closes.length-1 := by omega
  refine le_of_no_down_move h (closes.length-1-i) hi ?_
  rw [hplace]
  exact hlast

/-- The last close is in its window. -/
theorem last_mem_window (henough : 20≤ closes.length) {last : ℝ}
    (hlast : closes[closes.length-1]?=some last) : last∈lastWindow 20 closes := by
  have hplace : closes.length-20+19=closes.length-1 := by omega
  refine List.mem_of_getElem? (i := 19) ?_
  unfold lastWindow
  rw [List.getElem?_drop,hplace]
  exact hlast

end Window

/-- The deviation of the last window. -/
noncomputable def lastStd (closes : List ℝ) : ℝ :=
  Real.sqrt (squares (lastWindow 20 closes)/19)

/-- The signal of the bands, as a number. -/
noncomputable def bbNumber (closes : List ℝ) (last : ℝ) : ℝ :=
  if 0< lastStd closes then
    -min (max ((last-mean (lastWindow 20 closes))/(2.0*lastStd closes)) (-1)) 1
  else 0

section Bands

variable {closes : List ℝ}

/-- The signal of bands of numbers. -/
theorem bbSignalOf_numbers {last middle std : ℝ} (hstd : 0≤ std) :
    bbSignalOf (.number last) (bandsOf 2.0 (.number middle) (.number std))=
      .number (if 0< std then -min (max ((last-middle)/(2.0*std)) (-1)) 1 else 0) := by
  have htwo : (2.0 : ℝ)=2 := by norm_num
  have hrange : (Value.number middle+.number 2.0*.number std)-
      (.number middle-.number 2.0*.number std)=.number (4*std) := by
    refine congrArg Value.number ?_
    rw [htwo]
    ring
  unfold bbSignalOf bandsOf
  dsimp only
  rw [hrange]
  by_cases hpos : 0< std
  · have hbelow : Value.below (.number 0) (.number (4*std))=true :=
      decide_eq_true (by linarith)
    have hhalf : Value.number (4*std)/.number 2.0=.number (2.0*std) := by
      refine (if_neg (by norm_num)).trans (congrArg Value.number ?_)
      rw [htwo]
      ring
    have hposition : (Value.number last-.number middle)/.number (2.0*std)=
        .number ((last-middle)/(2.0*std)) := by
      refine (if_neg (by rw [htwo]; linarith)).trans (congrArg Value.number ?_)
      rw [sub_eq_add_neg last middle]
    rw [hbelow,if_pos rfl,hhalf,hposition,if_pos hpos]
    rfl
  · have hzero : std=0 := le_antisymm (not_lt.mp hpos) hstd
    have hbelow : Value.below (.number 0) (.number (4*std))=false :=
      decide_eq_false (by rw [hzero]; norm_num)
    rw [hbelow,if_neg Bool.false_ne_true,if_neg hpos]

/-- The last bands of enough numbers. -/
theorem bollingerBands_last (henough : 20≤ closes.length) :
    (bollingerBands Real.sqrt (closes.map Value.number) 20 2.0)[closes.length-1]?=
      some (bandsOf 2.0 (.number (mean (lastWindow 20 closes))) (.number (lastStd closes))) := by
  have hlength := lastWindow_length henough
  have hdeviation : std Real.sqrt (lastWindow 20 closes)=.number (lastStd closes) := by
    have hcount : ((20 : ℕ) : ℝ)-1=19 := by norm_num
    unfold std lastStd squares
    rw [hlength,if_neg (by norm_num),foldl_add_eq,zero_add,hcount]
  have hmiddle := rolling_last (by norm_num : 0<20) henough fun xs => Value.number (mean xs)
  have hstd := rolling_last (by norm_num : 0<20) henough (std Real.sqrt)
  rw [hdeviation] at hstd
  exact List.getElem?_zipWith_eq_some.mpr ⟨_,_,hmiddle,hstd,rfl⟩

/-- The signal of the last bands. -/
theorem bbSignal_last (last : ℝ) :
    bbSignalOf (.number last)
        (bandsOf 2.0 (.number (mean (lastWindow 20 closes))) (.number (lastStd closes)))=
      .number (bbNumber closes last) := bbSignalOf_numbers (Real.sqrt_nonneg _)

/-- A flat window has no deviation. -/
theorem lastStd_of_flat (henough : 20≤ closes.length) (hflat : FlatWindow closes) :
    lastStd closes=0 := by
  have hsome : lastWindow 20 closes≠[] := by
    intro hnil
    have hlength := lastWindow_length henough
    rw [hnil] at hlength
    exact absurd hlength (by decide)
  obtain ⟨first,hfirst⟩ := List.exists_mem_of_ne_nil _ hsome
  unfold lastStd
  rw [squares_of_same hsome fun x hx => hflat x hx first hfirst,zero_div,Real.sqrt_zero]

/-- A flat window gives no signal. -/
theorem bbNumber_of_flat (henough : 20≤ closes.length) (hflat : FlatWindow closes) (last : ℝ) :
    bbNumber closes last=0 := by
  unfold bbNumber
  rw [lastStd_of_flat henough hflat]
  exact if_neg (lt_irrefl 0)

/-- Closes that never fall, and not all the same, end at least a tenth of the half range
above the middle of the bands. -/
theorem bbNumber_of_no_down_move (henough : 20≤ closes.length) (h : ¬HasDownMove closes)
    (hflat : ¬FlatWindow closes) {last : ℝ} (hlast : closes[closes.length-1]?=some last) :
    -1≤ bbNumber closes last ∧ bbNumber closes last≤ -1/10 := by
  have hlength := lastWindow_length henough
  have hmem := last_mem_window henough hlast
  have hsome := List.ne_nil_of_mem hmem
  have hbound := squares_le hsome (le_last_of_no_down_move h hlast)
  have hsquares : 0< squares (lastWindow 20 closes) := by
    refine lt_of_le_of_ne (squares_nonneg _) fun hzero => hflat fun x hx y hy => ?_
    have hsame := same_of_squares hzero.symm
    rw [hsame x hx,hsame y hy]
  have hstd : 0< lastStd closes := Real.sqrt_pos.mpr (by linarith)
  have hmean : mean (lastWindow 20 closes)≤last := by
    have hsum := List.sum_le_card_nsmul _ _ (le_last_of_no_down_move h hlast)
    rw [hlength,nsmul_eq_mul] at hsum
    rw [mean_eq,hlength,div_le_iff₀ (by norm_num)]
    push_cast at hsum ⊢
    linarith
  have hle : lastStd closes≤5*(last-mean (lastWindow 20 closes)) := by
    refine Real.sqrt_le_iff.mpr ⟨by linarith,?_⟩
    rw [hlength] at hbound
    have hsq := mul_self_nonneg (last-mean (lastWindow 20 closes))
    push_cast at hbound
    linarith [show (5*(last-mean (lastWindow 20 closes)))^2=
      25*((last-mean (lastWindow 20 closes))*(last-mean (lastWindow 20 closes))) by ring]
  have hposition : 1/10≤(last-mean (lastWindow 20 closes))/(2.0*lastStd closes) := by
    have htwo : (2.0 : ℝ)=2 := by norm_num
    rw [htwo,le_div_iff₀ (by linarith)]
    linarith
  unfold bbNumber
  rw [if_pos hstd]
  constructor
  · exact neg_le_neg (min_le_right _ _)
  · have hleast : 1/10≤ min (max ((last-mean (lastWindow 20 closes))/(2.0*lastStd closes)) (-1)) 1 :=
      le_min (hposition.trans (le_max_left _ _)) (by norm_num)
    linarith

end Bands

section Signals

/-- The vectorized signal of a row combines the signals of one ticker. -/
theorem meanReversionOf_eq (rsi close : Value ℝ) (bands : Value ℝ×Value ℝ×Value ℝ) :
    meanReversionOf rsi close bands=
      ((rsiSignalOf rsi+bbSignalOf close bands)/.number 2.0).clip (-1) 1 := by
  have hsignal : (if Value.below (.number 70.0) rsi=true then -(rsi-.number 70.0)/.number 30.0
      else if rsi.below (.number 30.0)=true then (.number 30.0-rsi)/.number 30.0
      else .number 0)=rsiSignalOf rsi := by
    unfold rsiSignalOf
    by_cases hlow : rsi.below (.number 30.0)=true
    · have hnot : ¬Value.below (.number 70.0) rsi=true := by
        cases rsi with
        | missing => exact Bool.false_ne_true
        | infinite negative =>
          have hnegative : negative=true := hlow
          rw [hnegative]
          exact Bool.false_ne_true
        | number x =>
          have hx : x<30.0 := of_decide_eq_true hlow
          intro hhigh
          have hx' : (70.0 : ℝ)<x := of_decide_eq_true hhigh
          norm_num at hx hx'
          linarith
      rw [if_neg hnot,if_pos hlow,if_pos hlow]
    · rw [if_neg hlow,if_neg hlow]
  unfold meanReversionOf
  dsimp only
  rw [hsignal]
  rfl

/-- The signal of a relative strength that is a number is a number. -/
theorem rsiSignalOf_number (x : ℝ) : ∃ y,rsiSignalOf (.number x)=.number y := by
  have hdivide : ∀ z : ℝ,Value.number z/.number 30.0=.number (z/30.0) :=
    fun z => if_neg (by norm_num)
  unfold rsiSignalOf
  split
  · exact ⟨_,hdivide (30.0+-x)⟩
  · split
    · exact ⟨_,hdivide (-(x+-70.0))⟩
    · exact ⟨0,rfl⟩

/-- The combination of two numbers. -/
theorem combined_numbers (x y : ℝ) :
    ((Value.number x+.number y)/.number 2.0).clip (-1) 1=
      .number (min (max ((x+y)/2.0) (-1)) 1) := by
  have hdivide : Value.number (x+y)/.number 2.0=.number ((x+y)/2.0) := if_neg (by norm_num)
  exact congrArg (Value.clip (-1) 1) hdivide

/-- The signals of the last row agree: the last vectorized one and that of one ticker. -/
def Agrees (minWindow : ℕ) (format : ℕ→Value ℝ→String) (ticker : String) (ohlcv : Ohlcv ℝ) :
    Prop :=
  (generate Real.sqrt minWindow ohlcv).meanReversion.getLast?=
    some (generateMeanReversionSignal format Real.sqrt ticker ohlcv).value

variable {ohlcv : Ohlcv ℝ} {closes : List ℝ}

/-- There are as many closes as rows. -/
theorem length_closes (hclose : ohlcv.close=closes.map Value.number) :
    ohlcv.rows.length=closes.length := by
  have hlength := congrArg List.length hclose
  unfold Ohlcv.close at hlength
  rw [List.length_map,List.length_map] at hlength
  exact hlength

/-- There are as many bands as closes. -/
theorem length_bands (hclose : ohlcv.close=closes.map Value.number) :
    (bollingerBands Real.sqrt ohlcv.close 20 2.0).length=closes.length := by
  unfold bollingerBands rollingMean rollingStd
  rw [hclose]
  simp

/-- The last vectorized signal. -/
theorem generate_last {minWindow : ℕ} (hclose : ohlcv.close=closes.map Value.number)
    (hmin : minWindow< closes.length) (henough : 20≤ closes.length) {last : ℝ}
    (hlast : closes[closes.length-1]?=some last) :
    (generate Real.sqrt minWindow ohlcv).meanReversion.getLast?=
      some (((((rsiSignalOf (lastOf (rsi ohlcv.close 14))+.number (bbNumber closes last))/
        .number 2.0).clip (-1) 1).fillna (.number 0)).round4) := by
  have hlength : (rsi ohlcv.close 14).length=closes.length := by
    unfold rsi wilder diff
    rw [hclose]
    simp
  have hrsi : (rsi ohlcv.close 14)[closes.length-1]?=some (lastOf (rsi ohlcv.close 14)) := by
    rw [lastOf_eq,hlength,List.getElem?_eq_getElem (by omega)]
    rfl
  have hprice : ohlcv.close[closes.length-1]?=some (.number last) := by
    rw [hclose,List.getElem?_map,hlast]
    rfl
  have hbands := bollingerBands_last henough
  rw [← hclose] at hbands
  have hrow : (generateMeanReversion Real.sqrt ohlcv)[closes.length-1]?=
      some (((rsiSignalOf (lastOf (rsi ohlcv.close 14))+.number (bbNumber closes last))/
        .number 2.0).clip (-1) 1) := by
    have hpair : (List.zip (rsi ohlcv.close 14) ohlcv.close)[closes.length-1]?=
        some (lastOf (rsi ohlcv.close 14),.number last) :=
      List.getElem?_zip_eq_some.mpr ⟨hrsi,hprice⟩
    refine List.getElem?_zipWith_eq_some.mpr ⟨_,_,hpair,hbands,?_⟩
    rw [meanReversionOf_eq,bbSignal_last]
  have hrows : (generate Real.sqrt minWindow ohlcv).meanReversion.length=closes.length := by
    have hcloseLength : ohlcv.close.length=closes.length := by
      rw [hclose,List.length_map]
    unfold generate finished generateMeanReversion
    rw [List.length_mapIdx,List.length_zipWith,List.length_zip,hlength,hcloseLength,
      length_bands hclose,min_self,min_self]
  rw [List.getLast?_eq_getElem?,hrows]
  unfold generate finished
  dsimp only
  rw [List.getElem?_mapIdx,hrow,Option.map_some,if_neg (by omega)]

/-- The signal of one ticker. -/
theorem generateSignal_value (format : ℕ→Value ℝ→String) (ticker : String)
    (hclose : ohlcv.close=closes.map Value.number) (henough : 30≤ closes.length) {last : ℝ}
    (hlast : closes[closes.length-1]?=some last) :
    (generateMeanReversionSignal format Real.sqrt ticker ohlcv).value=
      if lastOf (rsi ohlcv.close 14)=.missing then .number 0
      else (((rsiSignalOf (lastOf (rsi ohlcv.close 14))+.number (bbNumber closes last))/
        .number 2.0).clip (-1) 1).round4 := by
  have hbands := bollingerBands_last (by omega : 20≤ closes.length)
  rw [← hclose] at hbands
  have hlastBands : (bollingerBands Real.sqrt ohlcv.close 20 2.0).getLastD
      (.missing,.missing,.missing)=
        bandsOf 2.0 (.number (mean (lastWindow 20 closes))) (.number (lastStd closes)) := by
    rw [List.getLastD_eq_getLast?,List.getLast?_eq_getElem?,length_bands hclose,hbands]
    rfl
  have hprice : lastOf ohlcv.close=.number last := by
    rw [lastOf_eq,hclose,List.length_map,List.getElem?_map,hlast]
    rfl
  have hupper : (bandsOf 2.0 (.number (mean (lastWindow 20 closes)))
      (.number (lastStd closes))).1≠.missing := nofun
  unfold generateMeanReversionSignal
  dsimp only
  rw [length_closes hclose,if_neg (by omega),hlastBands,hprice,bbSignal_last]
  by_cases hmissing : lastOf (rsi ohlcv.close 14)=.missing
  · rw [if_pos (.inl hmissing),if_pos hmissing]
    rfl
  · rw [if_neg (not_or.mpr ⟨hmissing,hupper⟩),if_neg hmissing]

/-- The half of a signal of the bands is rounded to zero only if it is small. -/
theorem round4_half {x : ℝ} (hleast : -1≤x) (hlarge : x≤ -1/10) :
    (Value.number (min (max ((0+x)/2.0) (-1)) 1)).round4≠.number 0 := by
  have htwo : (2.0 : ℝ)=2 := by norm_num
  have hten : (10000.0 : ℝ)=10000 := by norm_num
  have hvalue : min (max ((0+x)/2.0) (-1)) 1=x/2 := by
    rw [zero_add,htwo,max_eq_left (by linarith),min_eq_left (by linarith)]
  rw [hvalue]
  intro h
  have hzero : (roundHalfEven (x/2*10000.0) : ℝ)/10000.0=0 := Value.number.inj h
  have hround : roundHalfEven (x/2*10000.0)≤ -500 := by
    refine (roundHalfEven_le_iff (by decide) _).mpr ?_
    rw [hten]
    push_cast
    linarith
  have hcast : (roundHalfEven (x/2*10000.0) : ℝ)≤ -500 := by exact_mod_cast hround
  rw [hten,div_eq_zero_iff,or_iff_left (by norm_num)] at hzero
  linarith

/-- Nothing is rounded to zero. -/
theorem round4_nothing : (Value.number (min (max (((0 : ℝ)+0)/2.0) (-1)) 1)).round4=.number 0 := by
  have hvalue : min (max (((0 : ℝ)+0)/2.0) (-1)) 1=0 := by norm_num
  have hround : roundHalfEven ((0 : ℝ)*10000.0)=0 := by
    rw [zero_mul]
    refine le_antisymm ((roundHalfEven_le_iff (by decide) _).mpr ?_)
      ((le_roundHalfEven_iff (by decide) _).mpr ?_)
    · norm_num
    · norm_num
  rw [hvalue]
  unfold Value.round4
  dsimp only
  rw [hround,Int.cast_zero,zero_div]

end Signals

section Agreement

variable {ohlcv : Ohlcv ℝ} {closes : List ℝ} {minWindow : ℕ}

/-- After a down-move the signals agree. -/
theorem agrees_of_down_move (format : ℕ→Value ℝ→String) (ticker : String)
    (hclose : ohlcv.close=closes.map Value.number) (hrows : 60< closes.length)
    (hmin : minWindow< closes.length) (h : HasDownMove closes) :
    Agrees minWindow format ticker ohlcv := by
  have hlast : closes[closes.length-1]?=some closes[closes.length-1] :=
    List.getElem?_eq_getElem (by omega)
  obtain ⟨x,hx⟩ := rsi_last_number (by decide : 1<14)
    (List.ne_nil_of_length_pos (by omega)) (by omega) h
  obtain ⟨y,hy⟩ := rsiSignalOf_number x
  have hpresent : ¬Value.number x=.missing := nofun
  unfold Agrees
  rw [generate_last hclose hmin (by omega) hlast,
    generateSignal_value format ticker hclose (by omega) hlast,hclose,hx,if_neg hpresent,hy,
    combined_numbers]
  rfl

/-- Without a down-move the signals agree exactly if half of the signal of the bands is
rounded to zero. -/
theorem agrees_of_no_down_move (format : ℕ→Value ℝ→String) (ticker : String)
    (hclose : ohlcv.close=closes.map Value.number) (hrows : 60< closes.length)
    (hmin : minWindow< closes.length) (h : ¬HasDownMove closes) {last : ℝ}
    (hlast : closes[closes.length-1]?=some last) :
    Agrees minWindow format ticker ohlcv ↔
      (Value.number (min (max ((0+bbNumber closes last)/2.0) (-1)) 1)).round4=.number 0 := by
  have hmissing := rsi_last_missing (by decide : 1<14)
    (List.ne_nil_of_length_pos (by omega)) (by omega) h
  have hnothing : rsiSignalOf (.missing : Value ℝ)=.number 0 := rfl
  unfold Agrees
  rw [generate_last hclose hmin (by omega) hlast,
    generateSignal_value format ticker hclose (by omega) hlast,Option.some.injEq,hclose,hmissing,
    if_pos rfl,hnothing,combined_numbers]
  exact Iff.rfl

/-- The last signals agree exactly if there is a down-move or the last window is flat. -/
theorem agrees_iff (format : ℕ→Value ℝ→String) (ticker : String)
    (hclose : ohlcv.close=closes.map Value.number) (hrows : 60< ohlcv.rows.length)
    (hmin : minWindow< ohlcv.rows.length) :
    Agrees minWindow format ticker ohlcv ↔ HasDownMove closes ∨ FlatWindow closes := by
  rw [length_closes hclose] at hrows hmin
  have hlast : closes[closes.length-1]?=some closes[closes.length-1] :=
    List.getElem?_eq_getElem (by omega)
  by_cases hdown : HasDownMove closes
  · exact iff_of_true (agrees_of_down_move format ticker hclose hrows hmin hdown) (.inl hdown)
  · rw [agrees_of_no_down_move format ticker hclose hrows hmin hdown hlast,or_iff_right hdown]
    by_cases hflat : FlatWindow closes
    · rw [bbNumber_of_flat (by omega) hflat]
      exact iff_of_true round4_nothing hflat
    · obtain ⟨hleast,hlarge⟩ := bbNumber_of_no_down_move (by omega) hdown hflat hlast
      exact iff_of_false (round4_half hleast hlarge) hflat

end Agreement

/-- Closes that rise by one every day. -/
noncomputable def risingCloses : List ℝ := (List.range 61).map fun t : ℕ => (t : ℝ)+1

/-- A history with these closes. -/
noncomputable def risingHistory : Ohlcv ℝ where
  columns := ⟨true,true,true⟩
  rows := (List.range 61).map fun t : ℕ =>
    ⟨.number ((t : ℝ)+1),.number ((t : ℝ)+1),.number ((t : ℝ)+1),.number 1⟩

/-- The closes of the history. -/
theorem risingHistory_close : risingHistory.close=risingCloses.map Value.number := by
  unfold risingHistory risingCloses Ohlcv.close
  rw [List.map_map,List.map_map]
  rfl

/-- The rising closes by their day. -/
theorem risingCloses_row {t : ℕ} (ht : t<61) : risingCloses[t]?=some ((t : ℝ)+1) := by
  unfold risingCloses
  rw [List.getElem?_map,List.getElem?_range ht]
  rfl

/-- They are sixty-one. -/
theorem risingCloses_length : risingCloses.length=61 := by
  unfold risingCloses
  rw [List.length_map,List.length_range]

/-- They never fall. -/
theorem risingCloses_rise : ¬HasDownMove risingCloses := by
  rintro ⟨t,before,after,hbefore,hafter,hless⟩
  have hlength := (List.getElem?_eq_some_iff.mp hafter).1
  rw [risingCloses_length] at hlength
  rw [risingCloses_row (by omega)] at hbefore
  rw [risingCloses_row hlength] at hafter
  rw [← Option.some.inj hbefore,← Option.some.inj hafter] at hless
  push_cast at hless
  linarith

/-- They are not flat. -/
theorem risingCloses_not_flat : ¬FlatWindow risingCloses := by
  intro h
  have hrow : ∀ k,k<20→(lastWindow 20 risingCloses)[k]?=some (((41+k : ℕ) : ℝ)+1) := by
    intro k hk
    unfold lastWindow
    rw [List.getElem?_drop,risingCloses_length]
    exact risingCloses_row (by omega)
  have hsame := h _ (List.mem_of_getElem? (hrow 0 (by decide))) _
    (List.mem_of_getElem? (hrow 1 (by decide)))
  norm_num at hsame

/-- The signals of rising closes do not agree. -/
theorem risingHistory_not_agrees : ¬Agrees 60 (fun _ _ => "") "AAPL" risingHistory := by
  have hlast := risingCloses_row (by decide : 60<61)
  have hlength := risingCloses_length
  rw [agrees_of_no_down_move _ _ risingHistory_close (by omega) (by omega) risingCloses_rise
    (by rw [hlength]; exact hlast)]
  obtain ⟨hleast,hlarge⟩ := bbNumber_of_no_down_move (by omega) risingCloses_rise
    risingCloses_not_flat (by rw [hlength]; exact hlast)
  exact round4_half hleast hlarge

/-- The condition on rising closes. -/
theorem agrees_iff_risingHistory :
    Agrees 60 (fun _ _ => "") "AAPL" risingHistory ↔
      HasDownMove risingCloses ∨ FlatWindow risingCloses :=
  agrees_iff _ _ risingHistory_close
    (by rw [length_closes risingHistory_close,risingCloses_length]; decide)
    (by rw [length_closes risingHistory_close,risingCloses_length]; decide)

end Aqts.MeanReversionAgreement
