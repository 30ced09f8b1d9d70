import Mathlib.Analysis.Complex.Exponential
import Mathlib.Analysis.Real.Sqrt
import Aqts.DynamicEnsemble
import Aqts.ExponentialMeans

/-!
# Rows of the dynamic ensemble

What every row of the ensemble has on a history of numbers: the weights of the regime
are mixed with a softmax of the performances and divided by their sum, so they are a
convex combination whatever the regime is, and the scalar of the volatility only makes
the combination smaller. No row sees a later one.
-/

namespace Aqts.EnsembleRows

open CausalSeries PandasSeries TechnicalIndicators DynamicEnsemble

/-- A row of the inputs, with prices and signals. The range may have gaps. -/
structure InputRow where
  /-- `high`. -/
  high : Value ℝ
  /-- `low`. -/
  low : Value ℝ
  /-- `close`. -/
  close : ℝ
  /-- Signal of trend following. -/
  tf : ℝ
  /-- Signal of mean reversion. -/
  mr : ℝ
  /-- Signal of risk parity. -/
  rp : ℝ

/-- A column of the inputs. -/
def column (f : InputRow→ℝ) (rows : List InputRow) : Series ℝ := rows.map fun r => .number (f r)

/-- The signals of the inputs. -/
def signals (rows : List InputRow) : Three (Series ℝ) :=
  ⟨column InputRow.tf rows,column InputRow.mr rows,column InputRow.rp rows⟩

/-- What the service calculates for the inputs. -/
noncomputable def seriesOf (service : DynamicEnsembleService ℝ) (rows : List InputRow) :
    EnsembleSeries ℝ :=
  computeSeries Real.sqrt Real.exp service (rows.map InputRow.high) (rows.map InputRow.low)
    (column InputRow.close rows) (signals rows)

/-- Parameters that make sense. -/
structure Sound (service : DynamicEnsembleService ℝ) : Prop where
  /-- The weights of a regime are not negative. -/
  nonneg : ∀ regime,0≤(service.regimeWeights regime).tf ∧ 0≤(service.regimeWeights regime).mr ∧
    0≤(service.regimeWeights regime).rp
  /-- They have a positive sum. -/
  pos : ∀ regime,0<(service.regimeWeights regime).tf+(service.regimeWeights regime).mr+
    (service.regimeWeights regime).rp
  /-- The blend is a share. -/
  blend : 0≤ service.params.perfBlend ∧ service.params.perfBlend≤1
  /-- The temperature is positive. -/
  temperature : 0< service.params.softmaxTemperature
  /-- The volatility that is aimed at is positive. -/
  target : 0< service.params.targetVol

/-- Three numbers that are a convex combination. -/
structure Convex (w : Three ℝ) : Prop where
  /-- Trend following has no negative weight. -/
  tf : 0≤w.tf
  /-- Mean reversion has no negative weight. -/
  mr : 0≤w.mr
  /-- Risk parity has no negative weight. -/
  rp : 0≤w.rp
  /-- The weights sum to one. -/
  sum : w.tf+w.mr+w.rp=1

/-- Three numbers as values. -/
def values (w : Three ℝ) : Three (Value ℝ) := ⟨.number w.tf,.number w.mr,.number w.rp⟩

section Weights

/-- A combination of numbers is not larger than the largest one. -/
theorem Convex.abs_le {w : Three ℝ} (h : Convex w) (tf mr rp : ℝ) :
    |w.tf*tf+w.mr*mr+w.rp*rp|≤ max (max |mr| |tf|) |rp| := by
  have htf : |tf|≤ max (max |mr| |tf|) |rp| := (le_max_right _ _).trans (le_max_left _ _)
  have hmr : |mr|≤ max (max |mr| |tf|) |rp| := (le_max_left _ _).trans (le_max_left _ _)
  have hrp : |rp|≤ max (max |mr| |tf|) |rp| := le_max_right _ _
  calc |w.tf*tf+w.mr*mr+w.rp*rp|≤|w.tf*tf|+|w.mr*mr|+|w.rp*rp| := abs_add_three _ _ _
    _=w.tf* |tf|+w.mr* |mr|+w.rp* |rp| := by
      rw [abs_mul,abs_mul,abs_mul,abs_of_nonneg h.tf,abs_of_nonneg h.mr,abs_of_nonneg h.rp]
    _≤w.tf*max (max |mr| |tf|) |rp|+w.mr*max (max |mr| |tf|) |rp|+
        w.rp*max (max |mr| |tf|) |rp| :=
      add_le_add (add_le_add (mul_le_mul_of_nonneg_left htf h.tf)
        (mul_le_mul_of_nonneg_left hmr h.mr)) (mul_le_mul_of_nonneg_left hrp h.rp)
    _=max (max |mr| |tf|) |rp| := by rw [← add_mul,← add_mul,h.sum,one_mul]

/-- Values by their sum are a convex combination. -/
theorem renormalised_convex {w : Three ℝ} (htf : 0≤w.tf) (hmr : 0≤w.mr) (hrp : 0≤w.rp)
    (hpos : 0<w.tf+w.mr+w.rp) :
    ∃ v,renormalised (values w)=values v ∧ Convex v := by
  have htotal : 0<w.mr+w.tf+w.rp := by linarith
  have hdivide : ∀ x : ℝ,Value.number x/.number (w.mr+w.tf+w.rp)=
      .number (x/(w.mr+w.tf+w.rp)) := fun x => if_neg htotal.ne'
  refine ⟨⟨w.tf/(w.mr+w.tf+w.rp),w.mr/(w.mr+w.tf+w.rp),w.rp/(w.mr+w.tf+w.rp)⟩,?_,
    ⟨div_nonneg htf htotal.le,div_nonneg hmr htotal.le,div_nonneg hrp htotal.le,?_⟩⟩
  · unfold values
    rw [← hdivide,← hdivide,← hdivide]
    rfl
  · dsimp only
    rw [← add_div,← add_div,add_comm w.tf w.mr]
    exact div_self htotal.ne'

/-- A convex combination that is mixed with weights, not negative and of a positive sum. -/
theorem blend_pos {weights : RegimeWeights ℝ} (htf : 0≤weights.tf) (hmr : 0≤weights.mr)
    (hrp : 0≤weights.rp) (hsum : 0<weights.tf+weights.mr+weights.rp) {blend : ℝ}
    (hblend : 0≤blend) (hblend' : blend≤1) {p : Three ℝ} (hp : Convex p) :
    0≤weights.tf*(1-blend)+p.tf*blend ∧ 0≤weights.mr*(1-blend)+p.mr*blend ∧
      0≤weights.rp*(1-blend)+p.rp*blend ∧
        0<weights.tf*(1-blend)+p.tf*blend+(weights.mr*(1-blend)+p.mr*blend)+
          (weights.rp*(1-blend)+p.rp*blend) := by
  have hrest := sub_nonneg.mpr hblend'
  refine ⟨add_nonneg (mul_nonneg htf hrest) (mul_nonneg hp.tf hblend),
    add_nonneg (mul_nonneg hmr hrest) (mul_nonneg hp.mr hblend),
    add_nonneg (mul_nonneg hrp hrest) (mul_nonneg hp.rp hblend),?_⟩
  have htotal : weights.tf*(1-blend)+p.tf*blend+(weights.mr*(1-blend)+p.mr*blend)+
      (weights.rp*(1-blend)+p.rp*blend)=
        (weights.tf+weights.mr+weights.rp)*(1-blend)+(p.tf+p.mr+p.rp)*blend := by ring
  rw [htotal,hp.sum,one_mul]
  rcases hblend.eq_or_lt with hzero | hpos
  · rw [← hzero,sub_zero,mul_one,add_zero]
    exact hsum
  · exact add_pos_of_nonneg_of_pos (mul_nonneg hsum.le hrest) hpos

/-- The weights of a row are a convex combination. -/
theorem weights_convex {service : DynamicEnsembleService ℝ} (h : Sound service)
    (regime : DynamicRegime) (perf : Three ℝ) :
    ∃ v,renormalised (adjusted Real.exp service.params.softmaxTemperature
      service.params.perfBlend (service.regimeWeights regime) (values perf))=values v ∧
        Convex v := by
  obtain ⟨htf,hmr,hrp⟩ := h.nonneg regime
  have hexp : ∀ x : ℝ,expValue Real.exp (Value.number x/.number
      service.params.softmaxTemperature)=
        .number (Real.exp (x/service.params.softmaxTemperature)) :=
    fun x => congrArg (expValue Real.exp) (if_neg h.temperature.ne')
  have hx := Real.exp_pos (perf.tf/service.params.softmaxTemperature)
  have hy := Real.exp_pos (perf.mr/service.params.softmaxTemperature)
  have hz := Real.exp_pos (perf.rp/service.params.softmaxTemperature)
  obtain ⟨p,hshares,hp⟩ := renormalised_convex
    (w := ⟨Real.exp (perf.tf/service.params.softmaxTemperature),
      Real.exp (perf.mr/service.params.softmaxTemperature),
      Real.exp (perf.rp/service.params.softmaxTemperature)⟩) hx.le hy.le hz.le
    (add_pos (add_pos hx hy) hz)
  obtain ⟨hnonneg,hnonneg',hnonneg'',hpos⟩ := blend_pos htf hmr hrp (h.pos regime) h.blend.1
    h.blend.2 hp
  obtain ⟨v,hv,hconvex⟩ := renormalised_convex (w := ⟨_,_,_⟩) hnonneg hnonneg' hnonneg'' hpos
  refine ⟨v,Eq.trans ?_ hv,hconvex⟩
  refine congrArg renormalised ?_
  have hshareTf := congrArg Three.tf hshares
  have hshareMr := congrArg Three.mr hshares
  have hshareRp := congrArg Three.rp hshares
  unfold renormalised values at hshareTf hshareMr hshareRp
  dsimp only at hshareTf hshareMr hshareRp
  unfold adjusted values
  dsimp only
  rw [hexp,hexp,hexp,hshareTf,hshareMr,hshareRp]
  rfl

end Weights

section Values

/-- A value that is missing or a number that is not negative. -/
def IsDeviation (v : Value ℝ) : Prop := v=.missing ∨ ∃ x,0≤x ∧ v=.number x

/-- Rolling values are missing or values of the numbers in the window. -/
theorem mem_rolling {window minPeriods : ℕ} {g : List ℝ→Value ℝ} {s : Series ℝ} {v : Value ℝ}
    (h : v∈rolling window minPeriods g s) :
    v=.missing ∨ ∃ xs : List ℝ,¬xs.length< minPeriods ∧ v=g xs := by
  unfold rolling trailing at h
  obtain ⟨t,_,rfl⟩ := List.mem_map.mp h
  dsimp only
  split
  · exact .inl rfl
  · rename_i henough
    exact .inr ⟨_,henough,rfl⟩

/-- The annual volatilities are deviations. -/
theorem annualVol_isDeviation {close : Series ℝ} {v : Value ℝ}
    (h : v∈annualVol Real.sqrt close) : IsDeviation v := by
  unfold annualVol at h
  obtain ⟨std,hstd,rfl⟩ := List.mem_map.mp h
  rcases mem_rolling hstd with rfl | ⟨xs,henough,rfl⟩
  · exact .inl rfl
  · have hnumber : PandasSeries.std Real.sqrt xs=.number (Real.sqrt
        ((xs.map fun x => (x-mean xs)*(x-mean xs)).foldl (· + ·) 0/(xs.length-1))) :=
      if_neg (by omega)
    rw [hnumber]
    exact .inr ⟨_,mul_nonneg (Real.sqrt_nonneg _) (Real.sqrt_nonneg _),rfl⟩

/-- The scalar of a deviation is positive and one at most. -/
theorem volScalarOf_range {target : ℝ} (htarget : 0<target) {vol : Value ℝ}
    (hvol : IsDeviation vol) : ∃ s,volScalarOf target vol=.number s ∧ 0< s ∧ s≤1 := by
  have hpositive : ∀ x : ℝ,0<x→∃ s,clipAbove 1 (Value.number target/.number x)=.number s ∧
      0< s ∧ s≤1 := by
    intro x hx
    have hdivide : Value.number target/.number x=.number (target/x) := if_neg hx.ne'
    rw [hdivide]
    exact ⟨_,rfl,lt_min (div_pos htarget hx) one_pos,min_le_right _ _⟩
  unfold volScalarOf
  rcases hvol with rfl | ⟨x,hx,rfl⟩
  · have hfilled : replaceZero target ((Value.missing : Value ℝ).fillna (.number target))=
        .number target := congrArg Value.number (if_neg htarget.ne')
    rw [hfilled]
    exact hpositive target htarget
  · have hreplaced : replaceZero target ((Value.number x).fillna (.number target))=
        .number (if x=0 then target else x) := rfl
    rw [hreplaced]
    by_cases hzero : x=0
    · rw [if_pos hzero]
      exact hpositive target htarget
    · rw [if_neg hzero]
      exact hpositive x (lt_of_le_of_ne hx (Ne.symm hzero))

/-- The performances are numbers. -/
theorem performance_number {window : ℕ} {signal returns : Series ℝ} {v : Value ℝ}
    (h : v∈performance window signal returns) : ∃ x,v=.number x := by
  unfold performance at h
  obtain ⟨total,htotal,rfl⟩ := List.mem_map.mp h
  rcases mem_rolling htotal with rfl | ⟨xs,_,rfl⟩
  · exact ⟨0,rfl⟩
  · exact ⟨_,rfl⟩

end Values

section Lengths

variable {K : Type*} [Field K] [LinearOrder K] (sqrt exp : K→K)
  (service : DynamicEnsembleService K) {high low close : Series K} {signals : Three (Series K)}
  {n : ℕ}

/-- There are as many indices as rows. -/
theorem computeAdx_length (hhigh : high.length=n) (hlow : low.length=n) (hclose : close.length=n)
    (period : ℕ) : (computeAdx high low close period).length=n := by
  unfold computeAdx wilder trueRange
  simp [hhigh,hlow,hclose]

/-- There are as many regimes as rows. -/
theorem regimes_length (hhigh : high.length=n) (hlow : low.length=n) (hclose : close.length=n) :
    (regimes sqrt service high low close).length=n := by
  have hadx := computeAdx_length hhigh hlow hclose 14
  unfold regimes assignRegimes momentum volPercentile expanding annualVol rollingStd
  simp [hadx,hclose]

/-- There are as many performances as rows. -/
theorem performance_length (window : ℕ) {signal returns : Series K} (hsignal : signal.length=n)
    (hreturns : returns.length=n) : (performance window signal returns).length=n := by
  unfold performance
  simp [hsignal,hreturns]

/-- There are as many scalars as rows. -/
theorem volScalar_length (hclose : close.length=n) :
    (volScalar sqrt service close).length=n := by
  unfold volScalar annualVol rollingStd
  simp [hclose]

end Lengths

section Rows

variable {service : DynamicEnsembleService ℝ} {rows : List InputRow} {t : ℕ}

/-- The signals of a row. -/
theorem signalRows_row {r : InputRow} (hrow : rows[t]?=some r) :
    (signalRows (signals rows))[t]?=some (values ⟨r.tf,r.mr,r.rp⟩) := by
  have hcolumn : ∀ f : InputRow→ℝ,(column f rows)[t]?=some (.number (f r)) := by
    intro f
    unfold column
    rw [List.getElem?_map,hrow]
    rfl
  exact List.getElem?_zipWith_eq_some.mpr ⟨(_,_),_,
    List.getElem?_zip_eq_some.mpr ⟨hcolumn InputRow.tf,hcolumn InputRow.mr⟩,
      hcolumn InputRow.rp,rfl⟩

/-- The performances of a row are numbers. -/
theorem performances_row (service : DynamicEnsembleService ℝ) (ht : t< rows.length) :
    ∃ p,(performances service (column InputRow.close rows) (signals rows))[t]?=
      some (values p) := by
  have hlength : ∀ f : InputRow→ℝ,(column f rows).length=rows.length := fun f => List.length_map _
  have hreturns : (pctChange 1 (column InputRow.close rows)).length=rows.length := by
    rw [pctChange_length,hlength]
  have hperformance : ∀ f : InputRow→ℝ,∃ x,(performance service.params.perfWindow (column f rows)
      (pctChange 1 (column InputRow.close rows)))[t]?=some (.number x) := by
    intro f
    have hlong := performance_length service.params.perfWindow (hlength f) hreturns
    have hget := List.getElem?_eq_getElem (hlong.symm ▸ ht)
    obtain ⟨x,hx⟩ := performance_number (List.mem_of_getElem? hget)
    rw [hx] at hget
    exact ⟨x,hget⟩
  obtain ⟨tf,htf⟩ := hperformance InputRow.tf
  obtain ⟨mr,hmr⟩ := hperformance InputRow.mr
  obtain ⟨rp,hrp⟩ := hperformance InputRow.rp
  exact ⟨⟨tf,mr,rp⟩,List.getElem?_zipWith_eq_some.mpr ⟨(_,_),_,
    List.getElem?_zip_eq_some.mpr ⟨htf,hmr⟩,hrp,rfl⟩⟩

/-- The weights of a row are a convex combination. -/
theorem weights_row (h : Sound service) (ht : t< rows.length) :
    ∃ w,(seriesOf service rows).weights[t]?=some (values w) ∧ Convex w := by
  obtain ⟨p,hp⟩ := performances_row service ht
  have hregimes := regimes_length Real.sqrt service
    (List.length_map InputRow.high : (rows.map InputRow.high).length=rows.length)
    (List.length_map InputRow.low : (rows.map InputRow.low).length=rows.length)
    (List.length_map _ : (column InputRow.close rows).length=rows.length)
  have hregime := List.getElem?_eq_getElem (hregimes.symm ▸ ht)
  obtain ⟨w,hw,hconvex⟩ := weights_convex h _ p
  refine ⟨w,List.getElem?_zipWith_eq_some.mpr ⟨_,_,hregime,hp,?_⟩,hconvex⟩
  exact hw

/-- The scalar of a row is positive and one at most. -/
theorem volScalar_row (h : Sound service) (ht : t< rows.length) :
    ∃ s,(seriesOf service rows).volScalar[t]?=some (.number s) ∧ 0< s ∧ s≤1 := by
  have hlength := volScalar_length Real.sqrt service
    (List.length_map _ : (column InputRow.close rows).length=rows.length)
  have hget := List.getElem?_eq_getElem (hlength.symm ▸ ht)
  obtain ⟨vol,hvol,hscalar⟩ := List.mem_map.mp (List.mem_of_getElem? hget)
  obtain ⟨s,hs,hpos,hle⟩ := volScalarOf_range h.target (annualVol_isDeviation hvol)
  rw [← hscalar,hs] at hget
  exact ⟨s,hget,hpos,hle⟩

/-- The ensemble of a row is no larger than the largest signal. -/
theorem ensemble_row (h : Sound service) {r : InputRow} (hrow : rows[t]?=some r) :
    ∃ e,(seriesOf service rows).ensemble[t]?=some (.number e) ∧
      |e|≤ max (max |r.mr| |r.tf|) |r.rp| := by
  have ht := (List.getElem?_eq_some_iff.mp hrow).1
  obtain ⟨w,hweights,hconvex⟩ := weights_row h ht
  obtain ⟨s,hscalar,hpos,hle⟩ := volScalar_row h ht
  have hbound := hconvex.abs_le r.tf r.mr r.rp
  refine ⟨(w.tf*r.tf+w.mr*r.mr+w.rp*r.rp)*s,?_,?_⟩
  · exact List.getElem?_zipWith_eq_some.mpr ⟨(_,_),_,
      List.getElem?_zip_eq_some.mpr ⟨hweights,signalRows_row hrow⟩,hscalar,rfl⟩
  · rw [abs_mul,abs_of_pos hpos]
    exact (mul_le_of_le_one_right (abs_nonneg _) hle).trans hbound

/-- The ensemble of a row is that of the rows up to it. -/
theorem ensemble_truncated (service : DynamicEnsembleService ℝ) (rows : List InputRow) (t : ℕ) :
    (seriesOf service (rows.take (t+1))).ensemble[t]?=(seriesOf service rows).ensemble[t]? := by
  have hcolumn : ∀ f : InputRow→ℝ,Causal (column f) := fun f => causal_id.map _
  have hcausal := causal_ensemble Real.sqrt Real.exp service
    (causal_id.map InputRow.high) (causal_id.map InputRow.low) (hcolumn InputRow.close)
    (hcolumn InputRow.tf) (hcolumn InputRow.mr) (hcolumn InputRow.rp)
  exact (hcausal.row rows t).symm

end Rows

/-- What a row of the ensemble has. -/
structure RowRight (service : DynamicEnsembleService ℝ) (rows : List InputRow) (t : ℕ)
    (r : InputRow) : Prop where
  /-- The weights are not negative and sum to one. -/
  weights : ∃ w,(seriesOf service rows).weights[t]?=some (values w) ∧ Convex w
  /-- The scalar is positive and one at most. -/
  scalar : ∃ s,(seriesOf service rows).volScalar[t]?=some (.number s) ∧ 0< s ∧ s≤1
  /-- The ensemble is no larger than the largest signal. -/
  bounded : ∃ e,(seriesOf service rows).ensemble[t]?=some (.number e) ∧
    |e|≤ max (max |r.mr| |r.tf|) |r.rp|
  /-- The ensemble is that of the inputs up to the row. -/
  truncated : (seriesOf service (rows.take (t+1))).ensemble[t]?=
    (seriesOf service rows).ensemble[t]?

/-- Every row of the ensemble is right for parameters that make sense. -/
theorem row_right {service : DynamicEnsembleService ℝ} (h : Sound service) (rows : List InputRow)
    (t : ℕ) (r : InputRow) (hrow : rows[t]?=some r) : RowRight service rows t r where
  weights := weights_row h (List.getElem?_eq_some_iff.mp hrow).1
  scalar := volScalar_row h (List.getElem?_eq_some_iff.mp hrow).1
  bounded := ensemble_row h hrow
  truncated := ensemble_truncated service rows t

/-- The default parameters make sense. -/
theorem sound_default : Sound ⟨defaultParams,defaultRegimeWeights⟩ where
  nonneg regime := by
    cases regime <;> norm_num [defaultRegimeWeights]
  pos regime := by
    cases regime <;> norm_num [defaultRegimeWeights]
  blend := by
    norm_num [defaultParams]
  temperature := by
    norm_num [defaultParams]
  target := by
    norm_num [defaultParams]

/-- A day of a history in which prices and signals move. -/
noncomputable def dayRow (day : ℕ) : InputRow :=
  ⟨.number (102+day%7 : ℕ),.number (97-day%5 : ℕ),(100+day%3 : ℕ),((day%3 : ℕ)-1)/(2 : ℕ),
    (1-(day%4 : ℕ))/(4 : ℕ),1/(5 : ℕ)⟩

/-- In a history of three hundred days, in which all windows are full and the strategies have
returns, the row of day 250 is right for the default parameters. -/
theorem row_right_year : RowRight ⟨defaultParams,defaultRegimeWeights⟩
    ((List.range 300).map dayRow) 250 (dayRow 250) :=
  row_right sound_default _ 250 _ (by rw [List.getElem?_map,List.getElem?_range (by norm_num)]; rfl)

end Aqts.EnsembleRows
