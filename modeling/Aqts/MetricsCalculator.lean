import Aqts.PeriodicReporter

/-!
# Drawdowns of backtests and reports

Three places compute a drawdown: `max_drawdown` of `metrics_calculator` from daily returns, the
backtest engine from its equity curve and the periodic report from the values of its days. The last
two find the deepest fall of the curve. The first one begins with the growth of the first day, so
a fall from the capital before that day is not seen.
-/

namespace Aqts.MetricsCalculator

open CausalSeries Drawdowns PeriodicReporter

section Curves

/-- A running maximum behind a peak is at least the peak. -/
theorem le_scan_max {α : Type*} [LinearOrder α] {peak m : α} {curve : List α}
    (hm : m ∈ scan (fun peak value => (max peak value,max peak value)) peak curve) : peak≤ m := by
  induction curve generalizing peak with
  | nil => cases hm
  | cons value curve ih =>
    rcases List.mem_cons.mp hm with rfl | hm
    · exact le_max_left _ _
    · exact (le_max_left _ _).trans (ih hm)

variable {K : Type*} [Field K] [LinearOrder K]

/-- `np.cumprod`. -/
def cumprod (xs : List K) : List K :=
  scan (fun product x => (product*x,product*x)) 1 xs

/-- `np.maximum.accumulate` and `cummax`. -/
def runningMax (curve : List K) : List K :=
  match curve with
  | [] => []
  | first::_ => scan (fun peak value => (max peak value,max peak value)) first curve

/-- `(curve - running_max) / running_max`, where no running maximum is zero. -/
def drawdownCurve (curve : List K) : Option (List K) :=
  let running := runningMax curve
  if ∃ peak ∈ running,peak=0 then none
  else some (List.zipWith (fun value peak => (value-peak)/peak) curve running)

/-- `max_drawdown`; nothing where a division by zero makes it no number. -/
def maxDrawdown (returns : List K) : Option K :=
  if returns=[] then some 0
  else (drawdownCurve (cumprod (returns.map fun r => 1+r))).bind List.min?

/-- `mdd` in `_calculate_metrics` of the engine, of a curve that begins above zero. -/
def equityMdd (equityCurve : List K) : Option K :=
  if equityCurve.length<2 then some 0 else (drawdownCurve equityCurve).bind List.min?

/-- `pct_change().dropna()` of values that are not zero. -/
def pctChange : List K→List K
  | before::value::later => (value/before-1)::pctChange (value::later)
  | _ => []

/-- The falls of a curve from its running maximum, behind a first peak. -/
def falls (peak : K) (curve : List K) : List K :=
  List.zipWith (fun value peak => (value-peak)/peak) curve
    (scan (fun peak value => (max peak value,max peak value)) peak curve)

/-- The pass of `Drawdowns` takes the least of the falls. -/
theorem foldl_step {peak depth : K} (hpeak : 0<peak) (curve : List K) :
    (curve.foldl step (peak,depth)).2=(falls peak curve).foldl min depth := by
  induction curve generalizing peak depth with
  | nil => rfl
  | cons value curve ih =>
    have hmax : (if peak<value then value else peak)=max peak value := by
      split_ifs with hlt
      · exact (max_eq_right hlt.le).symm
      · exact (max_eq_left (not_lt.mp hlt)).symm
    have hpos : 0< max peak value := lt_max_of_lt_left hpeak
    have hstep : step (peak,depth) value=
        (max peak value,min depth ((value-max peak value)/max peak value)) := by
      unfold step
      simp only [hmax,if_pos hpos]
    rw [List.foldl_cons,hstep,ih hpos]
    rfl

/-- The growth of a curve since its first value. -/
theorem cumprod_pctChange {F : Type*} [Field F] {before first : F} (hbefore : before≠0)
    (later : List F) (hfirst : first≠0)
    (hlater : ∀ x ∈ later,x≠0) :
    scan (fun product x => (product*x,product*x)) (first/before)
      ((pctChange (first::later)).map fun r => 1+r)=later.map fun x => x/before := by
  induction later generalizing first with
  | nil => rfl
  | cons value later ih =>
    have hgrowth : first/before*(1+(value/first-1))=value/before := by
      field_simp
      ring
    show first/before*(1+(value/first-1))::scan _ (first/before*(1+(value/first-1))) _=_
    rw [hgrowth,ih (hlater value List.mem_cons_self) fun x hx =>
      hlater x (List.mem_cons_of_mem _ hx)]
    rfl

/-- The least of the falls of a positive curve is its deepest fall. -/
theorem drawdownCurve_min {first : K} (hfirst : 0<first) (later : List K) :
    (drawdownCurve (first::later)).bind List.min?=some (deepest (first::later)) := by
  have hnonzero : ¬∃ peak ∈ runningMax (first::later),peak=0 := by
    rintro ⟨peak,hpeak,rfl⟩
    exact absurd (le_scan_max hpeak) (not_le.mpr hfirst)
  have hfalls : List.zipWith (fun value peak => (value-peak)/peak) (first::later)
      (runningMax (first::later))=0::falls first later := by
    show ((first-max first first)/max first first)::
      falls (max first first) later=_
    rw [max_self,sub_self,zero_div]
  unfold drawdownCurve
  rw [if_neg hnonzero,hfalls]
  show some ((falls first later).foldl min 0)=some _
  rw [← foldl_step hfirst]
  show _=some (((first::later).foldl step (first,0)).2)
  rw [List.foldl_cons,step_self]

variable [IsStrictOrderedRing K]

/-- The engine finds the deepest fall of a positive curve. -/
theorem equityMdd_isDeepest {first : K} {later : List K} (hfirst : 0<first)
    (hlater : ∀ x ∈ later,0<x) :
    ∃ depth,equityMdd (first::later)=some depth ∧ IsDeepest (first::later) depth := by
  have hnonneg : ∀ x ∈ first::later,0≤x := by
    intro x hx
    rcases List.mem_cons.mp hx with rfl | hx
    · exact hfirst.le
    · exact (hlater x hx).le
  refine ⟨_,?_,deepest_isDeepest _ hnonneg⟩
  unfold equityMdd
  cases later with
  | nil =>
    rw [if_pos (by simp)]
    show some (0 : K)=some (step (first,0) first).2
    rw [step_self]
  | cons second later => rw [if_neg (by simp),drawdownCurve_min hfirst]

/-- From the returns of a positive curve the deepest fall is found behind its first value. -/
theorem maxDrawdown_isDeepest {first : K} {later : List K} (hfirst : 0<first)
    (hlater : ∀ x ∈ later,0<x) :
    ∃ depth,maxDrawdown (pctChange (first::later))=some depth ∧ IsDeepest later depth := by
  cases later with
  | nil => exact ⟨0,rfl,deepest_isDeepest [] nofun⟩
  | cons second later =>
    have hgrowth : cumprod ((pctChange (first::second::later)).map fun r => 1+r)=
        (second::later).map fun x => x/first := by
      unfold cumprod
      rw [← cumprod_pctChange hfirst.ne' (second::later) hfirst.ne' fun x hx =>
        (hlater x hx).ne',div_self hfirst.ne']
    have hpos : ∀ x ∈ (second::later).map fun x => x/first,0≤x := by
      intro x hx
      obtain ⟨y,hy,rfl⟩ := List.mem_map.mp hx
      exact (div_pos (hlater y hy) hfirst).le
    refine ⟨_,?_,(isDeepest_scale hfirst).mp (deepest_isDeepest _ hpos)⟩
    unfold maxDrawdown
    rw [if_neg (by simp [pctChange]),hgrowth]
    exact drawdownCurve_min (div_pos (hlater second List.mem_cons_self) hfirst) _

end Curves

section Reports

/-- The report passes the values of its days, in percent. -/
theorem foldl_mddStep (days : List DailySummary) (peak depth : ℚ) :
    days.foldl mddStep (peak,depth*100)=
      let reached := (days.map fun d => d.portfolioValue).foldl step (peak,depth)
      (reached.1,reached.2*100) := by
  induction days generalizing peak depth with
  | nil => rfl
  | cons d days ih =>
    have hstep : mddStep (peak,depth*100) d=
        ((step (peak,depth) d.portfolioValue).1,(step (peak,depth) d.portfolioValue).2*100) := by
      have hfall : ∀ peak : ℚ,
          (if peak>0 then (d.portfolioValue-peak)/peak*100 else 0)=
            (if 0<peak then (d.portfolioValue-peak)/peak else 0)*100 := by
        intro peak
        rw [ite_mul,zero_mul]
      unfold mddStep step
      dsimp only
      rw [hfall,min_mul_of_nonneg _ _ (by norm_num : (0 : ℚ)≤100)]
    rw [List.foldl_cons,hstep,ih]
    rfl

/-- The report finds the deepest fall of its days, in percent, if no value is negative. -/
theorem calculateMdd_isDeepest {days : List DailySummary} (h : ∀ d ∈ days,0≤d.portfolioValue) :
    ∃ depth,calculateMdd days=depth*100 ∧
      IsDeepest (days.map fun d => d.portfolioValue) depth := by
  have hnonneg : ∀ x ∈ days.map fun d => d.portfolioValue,0≤x := by
    intro x hx
    obtain ⟨d,hd,rfl⟩ := List.mem_map.mp hx
    exact h d hd
  refine ⟨_,?_,deepest_isDeepest _ hnonneg⟩
  cases days with
  | nil => exact (zero_mul _).symm
  | cons first later =>
    have hpass := foldl_mddStep (first::later) first.portfolioValue 0
    rw [zero_mul] at hpass
    show ((first::later).foldl mddStep (first.portfolioValue,0)).2=_
    rw [hpass]
    rfl

/-- The three drawdowns of one positive curve: the engine and the report find the same one, the
deepest fall, and the metric from the returns finds it too exactly if no later value is further
below the first one than what it found behind it. -/
theorem drawdowns_agree (first : DailySummary) (later : List DailySummary)
    (hpos : ∀ d ∈ first::later,0<d.portfolioValue) :
    let values := (first::later).map fun d => d.portfolioValue
    ∃ depth after,IsDeepest values depth ∧
      equityMdd values=some depth ∧ calculateMdd (first::later)=depth*100 ∧
      maxDrawdown (pctChange values)=some after ∧
      (after=depth ↔ ∀ d ∈ later,
        after≤(d.portfolioValue-first.portfolioValue)/first.portfolioValue) := by
  have hfirst := hpos first List.mem_cons_self
  have hlater : ∀ x ∈ later.map fun d => d.portfolioValue,0<x := by
    intro x hx
    obtain ⟨d,hd,rfl⟩ := List.mem_map.mp hx
    exact hpos d (List.mem_cons_of_mem _ hd)
  obtain ⟨depth,hengine,hdepth⟩ := equityMdd_isDeepest hfirst hlater
  obtain ⟨after,hreturns,hafter⟩ := maxDrawdown_isDeepest hfirst hlater
  obtain ⟨percent,hreport,hpercent⟩ := calculateMdd_isDeepest fun d hd => (hpos d hd).le
  have hsame : percent=depth := hpercent.unique hdepth
  refine ⟨depth,after,hdepth,hengine,hsame ▸ hreport,hreturns,?_⟩
  have hiff := isDeepest_cons_iff hfirst hafter
  rw [List.forall_mem_map] at hiff
  rw [← hiff]
  exact ⟨fun h => h ▸ hdepth,fun h => h.unique hdepth⟩

/-- A fall by a half on the first day, and by a tenth on the next one. -/
theorem drawdowns_differ :
    let days : List DailySummary :=
      [⟨MarketCalendar.lastDate,100,0,0,0⟩,⟨MarketCalendar.lastDate,50,-50,-50,0⟩,
        ⟨MarketCalendar.lastDate,45,-5,-10,0⟩]
    let values := days.map fun d => d.portfolioValue
    ∃ depth after,IsDeepest values depth ∧
      equityMdd values=some depth ∧ calculateMdd days=depth*100 ∧
      maxDrawdown (pctChange values)=some after ∧
      (after=depth ↔ ∀ d ∈ days.tail,after≤(d.portfolioValue-100)/100) :=
  drawdowns_agree _ _ (by simp)

end Reports

end Aqts.MetricsCalculator
