import Mathlib.Algebra.Order.Field.Basic
import Mathlib.Tactic.Linarith
import Mathlib.Tactic.NormNum
import Aqts.GroupTotals

/-!
# Gates of a walk-forward run

`GateEvaluator` on the windows of a run and the numbers over all of them. The texts of the
reasons are built with `fmt`, which formats a number after a format specification.

Gate-B counts every regime of every window that is over its limit, next to the two other
criteria. `documentedGateB` is what its docstring says of the three criteria.
-/

namespace Aqts.OosGates

open Dictionary

/-- `OOSWindowResult`. -/
structure OosWindowResult (K : Type*) where
  /-- `window_index`. -/
  windowIndex : ℕ
  /-- `train_start`. -/
  trainStart : String
  /-- `train_end`. -/
  trainEnd : String
  /-- `test_start`. -/
  testStart : String
  /-- `test_end`. -/
  testEnd : String
  /-- `cagr`. -/
  cagr : K
  /-- `mdd`. -/
  mdd : K
  /-- `sharpe_ratio`. -/
  sharpeRatio : K
  /-- `sortino_ratio`. -/
  sortinoRatio : K
  /-- `calmar_ratio`. -/
  calmarRatio : K
  /-- `total_return`. -/
  totalReturn : K
  /-- `total_trades`. -/
  totalTrades : ℤ
  /-- `win_rate`. -/
  winRate : K
  /-- `profit_factor`. -/
  profitFactor : K
  /-- `regime_metrics`, by the name of the regime. -/
  regimeMetrics : Dict String (Dict String K)

/-- `GateResult`. -/
inductive GateResult
  /-- `PASS`. -/
  | pass
  /-- `REVIEW`. -/
  | review
  /-- `FAIL`. -/
  | fail
deriving DecidableEq

/-- Its value. -/
def GateResult.value : GateResult→String
  | .pass => "PASS"
  | .review => "REVIEW"
  | .fail => "FAIL"

/-- `FAIL` is worse than `REVIEW`, and `REVIEW` is worse than `PASS`. -/
def GateResult.rank : GateResult→ℕ
  | .fail => 0
  | .review => 1
  | .pass => 2

/-- What a gate returns. -/
structure Gate where
  /-- `result`. -/
  result : GateResult
  /-- `reasons`. -/
  reasons : List String
deriving DecidableEq

/-- What `evaluate_all` returns. -/
structure GateReport where
  /-- `gate_a`. -/
  gateA : Gate
  /-- `gate_b`. -/
  gateB : Gate
  /-- `gate_c`. -/
  gateC : Gate
  /-- `overall`. -/
  overall : GateResult
  /-- `all_reasons`. -/
  allReasons : List String
deriving DecidableEq

/-- The arguments of `evaluate_all`. -/
structure Evaluation (K : Type*) where
  /-- `windows`. -/
  windows : List (OosWindowResult K)
  /-- `avg_sharpe`. -/
  avgSharpe : K
  /-- `avg_calmar`. -/
  avgCalmar : K
  /-- `worst_mdd`. -/
  worstMdd : K
  /-- `sharpe_variance`. -/
  sharpeVariance : K

/-- The criteria that Gate-B counts, with their reasons. -/
structure Reviews where
  /-- `review_count`. -/
  count : ℕ
  /-- `reasons`. -/
  reasons : List String
  /-- One reason for each of them. -/
  told : reasons.length=count

/-- Nothing counted. -/
def Reviews.none : Reviews := ⟨0,[],rfl⟩

/-- One more criterion. -/
def Reviews.add (r : Reviews) (reason : String) : Reviews where
  count := r.count+1
  reasons := r.reasons++[reason]
  told := by rw [List.length_append,r.told,List.length_singleton]

section Functions

variable {K : Type*} [Field K] [LinearOrder K]

/-- The items of `DEFAULT_THRESHOLDS`. -/
def defaultItems : List (String×K) :=
  [("mdd_hard_limit",0.40),("max_turnover",5.0),("min_sharpe_ratio",0.2),("min_calmar_ratio",0.1),
    ("regime_worst_mdd",0.35),("max_window_variance",5.0),("min_positive_windows_ratio",0.5)]

/-- `DEFAULT_THRESHOLDS`. -/
def defaultThresholds : Dict String K := Dict.collect defaultItems

/-- `_load_thresholds`, of the section `oos_gate` if the file has one. -/
def loadThresholds (file : Option (Dict String K)) : Dict String K :=
  file.getD defaultThresholds

/-- The thresholds of a `GateEvaluator`. -/
def thresholdsOf (file given : Option (Dict String K)) : Dict String K :=
  match given with
  | some thresholds => if thresholds.items=[] then loadThresholds file else thresholds
  | none => loadThresholds file

/-- `thresholds.get(name, default)`. -/
def threshold (thresholds : Dict String K) (name : String) (default : K) : K :=
  (thresholds.get? name).getD default

/-- `regime_mdd`. -/
def regimeMdd (metrics : Dict String K) : K := |metrics.value "max_drawdown"|

/-- `_evaluate_gate_a`. -/
def evaluateGateA (fmt : String→K→String) (thresholds : Dict String K) (e : Evaluation K) : Gate :=
  let mddLimit := threshold thresholds "mdd_hard_limit" 0.25
  if mddLimit< |e.worstMdd| then
    ⟨.fail,["GATE_A: worst MDD "++fmt ".2%" e.worstMdd++" exceeds hard limit "++
      fmt ".2%" mddLimit]⟩
  else ⟨.pass,[]⟩

/-- The criterion on the Sharpe ratio. -/
def reviewSharpe (fmt : String→K→String) (minSharpe : K) (e : Evaluation K) (r : Reviews) :
    Reviews :=
  if e.avgSharpe< minSharpe then
    r.add ("GATE_B: avg Sharpe "++fmt ".3f" e.avgSharpe++" < minimum "++fmt "" minSharpe)
  else r

/-- The criterion on the Calmar ratio. -/
def reviewCalmar (fmt : String→K→String) (minCalmar : K) (e : Evaluation K) (r : Reviews) :
    Reviews :=
  if e.avgCalmar< minCalmar then
    r.add ("GATE_B: avg Calmar "++fmt ".3f" e.avgCalmar++" < minimum "++fmt "" minCalmar)
  else r

/-- The inner loop of the criterion on the regimes. -/
def reviewRegimes (fmt : String→K→String) (regimeWorst : K) (r : Reviews)
    (w : OosWindowResult K) : Reviews :=
  if w.regimeMetrics.items=[] then r
  else w.regimeMetrics.items.foldl (fun r item =>
    if regimeWorst< regimeMdd item.2 then
      r.add ("GATE_B: window "++toString w.windowIndex++" regime "++item.1++" MDD "++
        fmt ".2%" (regimeMdd item.2)++" > limit "++fmt ".2%" regimeWorst)
    else r) r

/-- The criteria of Gate-B as they are counted. -/
def reviews (fmt : String→K→String) (thresholds : Dict String K) (e : Evaluation K) : Reviews :=
  let minSharpe := threshold thresholds "min_sharpe_ratio" 0.3
  let minCalmar := threshold thresholds "min_calmar_ratio" 0.2
  let regimeWorst := threshold thresholds "regime_worst_mdd" 0.30
  e.windows.foldl (reviewRegimes fmt regimeWorst)
    (reviewCalmar fmt minCalmar e (reviewSharpe fmt minSharpe e .none))

/-- `_evaluate_gate_b`. -/
def evaluateGateB (fmt : String→K→String) (thresholds : Dict String K) (e : Evaluation K) : Gate :=
  let r := reviews fmt thresholds e
  if 3≤ r.count then ⟨.fail,r.reasons⟩
  else if 0< r.count then ⟨.review,r.reasons⟩
  else ⟨.pass,r.reasons⟩

/-- `positive_ratio`. -/
def positiveRatio (windows : List (OosWindowResult K)) : K :=
  (windows.countP fun w => 0< w.totalReturn : K)/(windows.length : K)

/-- `_evaluate_gate_c`. -/
def evaluateGateC (fmt : String→K→String) (thresholds : Dict String K) (e : Evaluation K) : Gate :=
  let maxVar := threshold thresholds "max_window_variance" 0.5
  let minPositive := threshold thresholds "min_positive_windows_ratio" 0.5
  let gate : Gate :=
    if maxVar< e.sharpeVariance then
      ⟨.review,["GATE_C: Sharpe variance "++fmt ".4f" e.sharpeVariance++" > limit "++
        fmt "" maxVar]⟩
    else ⟨.pass,[]⟩
  if e.windows=[] then gate
  else if positiveRatio e.windows< minPositive then
    ⟨.review,gate.reasons++["GATE_C: positive window ratio "++fmt ".1%" (positiveRatio e.windows)++
      " < minimum "++fmt ".1%" minPositive]⟩
  else gate

/-- The verdict over the three gates. -/
def overallOf (results : List GateResult) : GateResult :=
  if GateResult.fail∈results then .fail
  else if GateResult.review∈results then .review
  else .pass

/-- `evaluate_all`. -/
def evaluateAll (fmt : String→K→String) (thresholds : Dict String K) (e : Evaluation K) :
    GateReport :=
  let gateA := evaluateGateA fmt thresholds e
  let gateB := evaluateGateB fmt thresholds e
  let gateC := evaluateGateC fmt thresholds e
  ⟨gateA,gateB,gateC,overallOf [gateA.result,gateB.result,gateC.result],
    gateA.reasons++gateB.reasons++gateC.reasons⟩

end Functions

section Thresholds

variable {K : Type*} [Field K]

/-- The thresholds that the gates read. -/
def thresholdNames : List String :=
  ["mdd_hard_limit","min_sharpe_ratio","min_calmar_ratio","regime_worst_mdd",
    "max_window_variance","min_positive_windows_ratio"]

/-- Every threshold that the gates read has a default: without a file and an argument their own
fallbacks are not used. -/
theorem threshold_default {name : String} (h : name∈thresholdNames) (fallback fallback' : K) :
    threshold (thresholdsOf none none) name fallback=
      threshold (thresholdsOf none none) name fallback' := by
  have hnames : (defaultItems : List (String×K)).map Prod.fst=
      ["mdd_hard_limit","max_turnover","min_sharpe_ratio","min_calmar_ratio","regime_worst_mdd",
        "max_window_variance","min_positive_windows_ratio"] := rfl
  have hnodup : ((defaultItems : List (String×K)).map Prod.fst).Nodup := by
    rw [hnames]
    decide
  have hsub : thresholdNames⊆(defaultItems : List (String×K)).map Prod.fst := by
    rw [hnames]
    decide
  have hknown : ∃ value : K,(defaultThresholds : Dict String K).get? name=some value := by
    obtain ⟨item,hitem,rfl⟩ := List.mem_map.mp (hsub h)
    exact ⟨item.2,(Dict.get?_collect hnodup).mpr hitem⟩
  obtain ⟨value,hvalue⟩ := hknown
  unfold threshold thresholdsOf loadThresholds
  rw [Option.getD_none,hvalue,Option.getD_some,Option.getD_some]

end Thresholds

section Criteria

variable {K : Type*} [Field K] [LinearOrder K]

/-- The average Sharpe ratio is below its minimum. -/
def SharpeMissed (thresholds : Dict String K) (e : Evaluation K) : Prop :=
  e.avgSharpe< threshold thresholds "min_sharpe_ratio" 0.3

/-- The average Calmar ratio is below its minimum. -/
def CalmarMissed (thresholds : Dict String K) (e : Evaluation K) : Prop :=
  e.avgCalmar< threshold thresholds "min_calmar_ratio" 0.2

/-- The windows and regimes with a drawdown over a limit. -/
def regimesOver (limit : K) (windows : List (OosWindowResult K)) : List (ℕ×String) :=
  windows.flatMap fun w =>
    (w.regimeMetrics.items.filter fun item => limit< regimeMdd item.2).map fun item =>
      (w.windowIndex,item.1)

/-- The windows and regimes over the limit of the thresholds. -/
def overLimit (thresholds : Dict String K) (e : Evaluation K) : List (ℕ×String) :=
  regimesOver (threshold thresholds "regime_worst_mdd" 0.30) e.windows

instance (thresholds : Dict String K) (e : Evaluation K) :
    Decidable (SharpeMissed thresholds e) :=
  inferInstanceAs (Decidable (_< _))

instance (thresholds : Dict String K) (e : Evaluation K) :
    Decidable (CalmarMissed thresholds e) :=
  inferInstanceAs (Decidable (_< _))

/-- What the docstring of Gate-B says: `FAIL` if all three criteria are missed, `REVIEW` if
one or two of them are. -/
def documentedGateB (thresholds : Dict String K) (e : Evaluation K) : GateResult :=
  if SharpeMissed thresholds e ∧ CalmarMissed thresholds e ∧ overLimit thresholds e≠[] then .fail
  else if SharpeMissed thresholds e ∨ CalmarMissed thresholds e ∨ overLimit thresholds e≠[] then
    .review
  else .pass

/-- A window with a return as high and drawdowns as small in the same regimes. -/
structure WindowImproves (w w' : OosWindowResult K) : Prop where
  /-- The return is as high. -/
  totalReturn : w.totalReturn≤w'.totalReturn
  /-- No drawdown of a regime is larger. -/
  regimes : List.Forall₂ (fun m m' => m.1=m'.1 ∧ regimeMdd m'.2≤ regimeMdd m.2)
    w.regimeMetrics.items w'.regimeMetrics.items

/-- Windows and numbers over them that are as good. -/
structure Improves (e e' : Evaluation K) : Prop where
  /-- The Sharpe ratio is as high. -/
  sharpe : e.avgSharpe≤e'.avgSharpe
  /-- The Calmar ratio is as high. -/
  calmar : e.avgCalmar≤e'.avgCalmar
  /-- The worst drawdown is no larger. -/
  mdd : |e'.worstMdd|≤|e.worstMdd|
  /-- The variance is no larger. -/
  variance : e'.sharpeVariance≤e.sharpeVariance
  /-- The windows are as good, one by one. -/
  windows : List.Forall₂ WindowImproves e.windows e'.windows

end Criteria

section Counts

variable {K : Type*} [Field K] [LinearOrder K]

/-- What a criterion adds to the count. -/
theorem count_ite {p : Prop} [Decidable p] (r : Reviews) (reason : String) :
    (if p then r.add reason else r).count=r.count+if p then 1 else 0 := by
  by_cases hp : p
  · rw [if_pos hp,if_pos hp]
    rfl
  · rw [if_neg hp,if_neg hp,Nat.add_zero]

/-- A window adds its regimes over the limit. -/
theorem reviewRegimes_count (fmt : String→K→String) (limit : K) (r : Reviews)
    (w : OosWindowResult K) :
    (reviewRegimes fmt limit r w).count=
      r.count+(w.regimeMetrics.items.filter fun item => limit< regimeMdd item.2).length := by
  unfold reviewRegimes
  generalize w.regimeMetrics.items=items
  by_cases hempty : items=[]
  · rw [if_pos hempty,hempty]
    rfl
  rw [if_neg hempty]
  clear hempty
  induction items generalizing r with
  | nil => rfl
  | cons item items ih =>
    rw [List.foldl_cons,ih,count_ite]
    by_cases hover : limit< regimeMdd item.2
    · rw [if_pos hover,List.filter_cons_of_pos (by simpa using hover),List.length_cons]
      omega
    · rw [if_neg hover,List.filter_cons_of_neg (by simpa using hover)]
      rfl

/-- The windows add all their regimes over the limit. -/
theorem foldl_reviewRegimes_count (fmt : String→K→String) (limit : K) (r : Reviews)
    (windows : List (OosWindowResult K)) :
    (windows.foldl (reviewRegimes fmt limit) r).count=
      r.count+(regimesOver limit windows).length := by
  unfold regimesOver
  induction windows generalizing r with
  | nil => rfl
  | cons w windows ih =>
    rw [List.foldl_cons,ih,reviewRegimes_count,List.flatMap_cons,List.length_append,
      List.length_map,Nat.add_assoc]

/-- Gate-B counts every window and regime over the limit for itself. -/
theorem reviews_count (fmt : String→K→String) (thresholds : Dict String K) (e : Evaluation K) :
    (reviews fmt thresholds e).count=
      (if SharpeMissed thresholds e then 1 else 0)+(if CalmarMissed thresholds e then 1 else 0)+
        (overLimit thresholds e).length := by
  unfold reviews
  dsimp only
  rw [foldl_reviewRegimes_count]
  unfold reviewCalmar reviewSharpe
  rw [count_ite,count_ite]
  unfold Reviews.none
  dsimp only
  rw [Nat.zero_add]
  rfl

/-- The verdict of Gate-B for its count. -/
def verdictOf (count : ℕ) : GateResult :=
  if 3≤ count then .fail else if 0< count then .review else .pass

/-- The verdict of Gate-B is the one for its count. -/
theorem evaluateGateB_result (fmt : String→K→String) (thresholds : Dict String K)
    (e : Evaluation K) :
    (evaluateGateB fmt thresholds e).result=verdictOf (reviews fmt thresholds e).count := by
  unfold evaluateGateB verdictOf
  dsimp only
  split
  · rfl
  · split
    · rfl
    · rfl

/-- The verdict for a count of two criteria and of many entries of the third one, against
the verdict for the three criteria. -/
theorem verdictOf_eq_iff {s c : Prop} [Decidable s] [Decidable c] (n : ℕ) :
    verdictOf ((if s then 1 else 0)+(if c then 1 else 0)+n)=
        (if s ∧ c ∧ 0< n then GateResult.fail
          else if s ∨ c ∨ 0< n then GateResult.review else GateResult.pass) ↔
      (s ∧ c) ∨ n≤1 ∨ (¬s ∧ ¬c ∧ n≤2) := by
  rcases n with _ | _ | _ | n
  · by_cases hs : s <;> by_cases hc : c <;> simp [verdictOf,hs,hc]
  · by_cases hs : s <;> by_cases hc : c <;> simp [verdictOf,hs,hc]
  · by_cases hs : s <;> by_cases hc : c <;> simp [verdictOf,hs,hc]
  · have hmany : 3≤(if s then 1 else 0)+(if c then 1 else 0)+(n+1+1+1) := by omega
    unfold verdictOf
    rw [if_pos hmany]
    by_cases hs : s <;> by_cases hc : c <;> simp [hs,hc]

/-- Gate-B does what its docstring says exactly if both ratios are too low, or one regime at
most is over the limit, or two are and no ratio is too low. -/
theorem evaluateGateB_documented_iff (fmt : String→K→String) (thresholds : Dict String K)
    (e : Evaluation K) :
    (evaluateGateB fmt thresholds e).result=documentedGateB thresholds e ↔
      (SharpeMissed thresholds e ∧ CalmarMissed thresholds e) ∨
        (overLimit thresholds e).length≤1 ∨
          (¬SharpeMissed thresholds e ∧ ¬CalmarMissed thresholds e ∧
            (overLimit thresholds e).length≤2) := by
  have hsome : overLimit thresholds e≠[] ↔ 0< (overLimit thresholds e).length :=
    List.length_pos_iff.symm
  rw [evaluateGateB_result,reviews_count]
  unfold documentedGateB
  simp only [hsome]
  exact verdictOf_eq_iff _

end Counts

section Passing

variable {K : Type*} [Field K] [LinearOrder K]

/-- All gates pass exactly if each of them does. -/
theorem overallOf_pass_iff (a b c : GateResult) :
    overallOf [a,b,c]=.pass ↔ a=.pass ∧ b=.pass ∧ c=.pass := by
  cases a <;> cases b <;> cases c <;> decide

/-- Gate-A passes exactly if the worst drawdown is within its limit. -/
theorem evaluateGateA_pass_iff (fmt : String→K→String) (thresholds : Dict String K)
    (e : Evaluation K) :
    (evaluateGateA fmt thresholds e).result=.pass ↔
      ¬threshold thresholds "mdd_hard_limit" 0.25< |e.worstMdd| := by
  unfold evaluateGateA
  dsimp only
  split
  · rename_i hover
    exact ⟨fun h => GateResult.noConfusion h,fun h => absurd hover h⟩
  · rename_i hwithin
    exact ⟨fun _ => hwithin,fun _ => rfl⟩

/-- Gate-B passes exactly if none of its criteria is missed. -/
theorem evaluateGateB_pass_iff (fmt : String→K→String) (thresholds : Dict String K)
    (e : Evaluation K) :
    (evaluateGateB fmt thresholds e).result=.pass ↔
      ¬SharpeMissed thresholds e ∧ ¬CalmarMissed thresholds e ∧ overLimit thresholds e=[] := by
  have hnone : overLimit thresholds e=[] ↔ (overLimit thresholds e).length=0 :=
    List.length_eq_zero_iff.symm
  have hzero : ∀ count,verdictOf count=.pass ↔ count=0 := by
    intro count
    unfold verdictOf
    split
    · exact ⟨fun h => GateResult.noConfusion h,fun h => by omega⟩
    · split
      · exact ⟨fun h => GateResult.noConfusion h,fun h => by omega⟩
      · exact ⟨fun _ => by omega,fun _ => rfl⟩
  rw [evaluateGateB_result,reviews_count,hzero,hnone]
  by_cases hsharpe : SharpeMissed thresholds e
  · rw [if_pos hsharpe]
    exact ⟨fun h => by omega,fun h => absurd hsharpe h.1⟩
  · by_cases hcalmar : CalmarMissed thresholds e
    · rw [if_pos hcalmar]
      exact ⟨fun h => by omega,fun h => absurd hcalmar h.2.1⟩
    · rw [if_neg hsharpe,if_neg hcalmar,Nat.add_zero,Nat.zero_add]
      exact ⟨fun h => ⟨hsharpe,hcalmar,h⟩,fun h => h.2.2⟩

/-- Gate-C asks for a review exactly if the variance is too large, or there are windows and too
few of them have a positive return. -/
theorem evaluateGateC_result (fmt : String→K→String) (thresholds : Dict String K)
    (e : Evaluation K) :
    (evaluateGateC fmt thresholds e).result=
      if threshold thresholds "max_window_variance" 0.5< e.sharpeVariance ∨
          (e.windows≠[] ∧
            positiveRatio e.windows< threshold thresholds "min_positive_windows_ratio" 0.5) then
        .review
      else .pass := by
  unfold evaluateGateC
  dsimp only
  by_cases hvar : threshold thresholds "max_window_variance" 0.5< e.sharpeVariance
  · rw [if_pos hvar,if_pos (Or.inl hvar)]
    split
    · rfl
    · split
      · rfl
      · rfl
  · rw [if_neg hvar]
    by_cases hnone : e.windows=[]
    · rw [if_pos hnone,if_neg fun h => h.elim hvar fun hsome => hsome.1 hnone]
    · rw [if_neg hnone]
      by_cases hratio : positiveRatio e.windows<
          threshold thresholds "min_positive_windows_ratio" 0.5
      · rw [if_pos hratio,if_pos (Or.inr ⟨hnone,hratio⟩)]
      · rw [if_neg hratio,if_neg fun h => h.elim hvar fun hfew => hratio hfew.2]

/-- Gate-C passes exactly if the variance is within its limit and there are no windows or
enough of them have a positive return. -/
theorem evaluateGateC_pass_iff (fmt : String→K→String) (thresholds : Dict String K)
    (e : Evaluation K) :
    (evaluateGateC fmt thresholds e).result=.pass ↔
      ¬(threshold thresholds "max_window_variance" 0.5< e.sharpeVariance ∨
        (e.windows≠[] ∧
          positiveRatio e.windows< threshold thresholds "min_positive_windows_ratio" 0.5)) := by
  rw [evaluateGateC_result]
  split
  · rename_i hmissed
    exact ⟨fun h => GateResult.noConfusion h,fun h => absurd hmissed h⟩
  · rename_i hgood
    exact ⟨fun _ => hgood,fun _ => rfl⟩

/-- A window has a regime over a limit. -/
theorem regimesOver_eq_nil {limit : K} {windows : List (OosWindowResult K)} :
    regimesOver limit windows=[] ↔
      ∀ w∈windows,∀ item∈w.regimeMetrics.items,¬limit< regimeMdd item.2 := by
  unfold regimesOver
  rw [List.flatMap_eq_nil_iff]
  refine forall₂_congr fun w _ => ?_
  rw [List.map_eq_nil_iff,List.filter_eq_nil_iff]
  refine forall₂_congr fun item _ => ?_
  rw [decide_eq_true_eq]

end Passing

section Monotone

variable {K : Type*} [Field K] [LinearOrder K]

/-- More counts never give a better verdict. -/
theorem verdictOf_anti {n m : ℕ} (h : n≤ m) : (verdictOf m).rank≤(verdictOf n).rank := by
  unfold verdictOf
  by_cases hm : 3≤ m
  · rw [if_pos hm]
    exact Nat.zero_le _
  · have hn : ¬3≤n := by omega
    rw [if_neg hm,if_neg hn]
    by_cases hm0 : 0< m
    · rw [if_pos hm0]
      split
      · exact Nat.le_refl _
      · decide
    · have hn0 : ¬0< n := by omega
      rw [if_neg hm0,if_neg hn0]

/-- The verdict over the gates is the worst one. -/
theorem overallOf_rank (a b c : GateResult) :
    (overallOf [a,b,c]).rank=min a.rank (min b.rank c.rank) := by
  cases a <;> cases b <;> cases c <;> rfl

/-- Entries that have a property as often one by one have it as often. -/
theorem countP_le_of_forall₂ {α β : Type*} {R : α→β→Prop} {p : α→Bool} {q : β→Bool}
    {l : List α} {l' : List β} (h : List.Forall₂ R l l')
    (hpq : ∀ a b,R a b→p a=true→q b=true) : l.countP p≤l'.countP q := by
  induction h with
  | nil => exact Nat.le_refl _
  | @cons a b l l' hab _ ih =>
    rw [List.countP_cons,List.countP_cons]
    by_cases hp : p a=true
    · rw [if_pos hp,if_pos (hpq a b hab hp)]
      omega
    · rw [if_neg hp]
      omega

/-- Windows that are as good have as few regimes over a limit. -/
theorem regimesOver_anti {limit : K} {windows windows' : List (OosWindowResult K)}
    (h : List.Forall₂ WindowImproves windows windows') :
    (regimesOver limit windows').length≤(regimesOver limit windows).length := by
  unfold regimesOver
  induction h with
  | nil => exact Nat.le_refl _
  | @cons w w' windows windows' hw _ ih =>
    have hregimes := countP_le_of_forall₂ (p:=fun item => decide (limit< regimeMdd item.2))
      (q:=fun item => decide (limit< regimeMdd item.2)) hw.regimes.flip fun m' m hm hover => by
        exact decide_eq_true (lt_of_lt_of_le (of_decide_eq_true hover) hm.2)
    rw [List.flatMap_cons,List.flatMap_cons,List.length_append,List.length_append,
      List.length_map,List.length_map,←List.countP_eq_length_filter,
      ←List.countP_eq_length_filter]
    omega

/-- Gate-A of windows and numbers that are as good is no worse. -/
theorem evaluateGateA_mono (fmt : String→K→String) (thresholds : Dict String K)
    {e e' : Evaluation K} (h : Improves e e') :
    (evaluateGateA fmt thresholds e).result.rank≤
      (evaluateGateA fmt thresholds e').result.rank := by
  unfold evaluateGateA
  dsimp only
  by_cases hworse : threshold thresholds "mdd_hard_limit" 0.25< |e.worstMdd|
  · rw [if_pos hworse]
    exact Nat.zero_le _
  · have hbetter : ¬threshold thresholds "mdd_hard_limit" 0.25< |e'.worstMdd| :=
      not_lt.mpr (le_trans h.mdd (not_lt.mp hworse))
    rw [if_neg hworse,if_neg hbetter]

/-- Gate-B of windows and numbers that are as good is no worse. -/
theorem evaluateGateB_mono (fmt : String→K→String) (thresholds : Dict String K)
    {e e' : Evaluation K} (h : Improves e e') :
    (evaluateGateB fmt thresholds e).result.rank≤
      (evaluateGateB fmt thresholds e').result.rank := by
  rw [evaluateGateB_result,evaluateGateB_result]
  refine verdictOf_anti ?_
  rw [reviews_count,reviews_count]
  have hover : (overLimit thresholds e').length≤(overLimit thresholds e).length :=
    regimesOver_anti h.windows
  have hsharpe : SharpeMissed thresholds e'→SharpeMissed thresholds e :=
    fun hmissed => lt_of_le_of_lt h.sharpe hmissed
  have hcalmar : CalmarMissed thresholds e'→ CalmarMissed thresholds e :=
    fun hmissed => lt_of_le_of_lt h.calmar hmissed
  have hite : ∀ {p q : Prop} [Decidable p] [Decidable q],(p→q)→
      (if p then 1 else 0)≤(if q then 1 else 0 : ℕ) := by
    intro p q _ _ hpq
    by_cases hp : p
    · rw [if_pos hp,if_pos (hpq hp)]
    · rw [if_neg hp]
      exact Nat.zero_le _
  exact Nat.add_le_add (Nat.add_le_add (hite hsharpe) (hite hcalmar)) hover

variable [IsStrictOrderedRing K]

/-- The ratio of windows that are as good is as high. -/
theorem positiveRatio_mono {windows windows' : List (OosWindowResult K)}
    (h : List.Forall₂ WindowImproves windows windows') :
    positiveRatio windows≤ positiveRatio windows' := by
  unfold positiveRatio
  have hcount := countP_le_of_forall₂ (p:=fun w => decide (0< w.totalReturn))
    (q:=fun w => decide (0< w.totalReturn)) h fun w w' hw hpositive =>
      decide_eq_true (lt_of_lt_of_le (of_decide_eq_true hpositive) hw.totalReturn)
  rw [h.length_eq]
  exact div_le_div_of_nonneg_right (Nat.cast_le.mpr hcount) (Nat.cast_nonneg _)

/-- Gate-C of windows and numbers that are as good is no worse. -/
theorem evaluateGateC_mono (fmt : String→K→String) (thresholds : Dict String K)
    {e e' : Evaluation K} (h : Improves e e') :
    (evaluateGateC fmt thresholds e).result.rank≤
      (evaluateGateC fmt thresholds e').result.rank := by
  rw [evaluateGateC_result,evaluateGateC_result]
  have hratio := positiveRatio_mono h.windows
  have hnone : e'.windows≠[]→e.windows≠[] := by
    intro hsome hempty
    have hlength := h.windows.length_eq
    rw [hempty] at hlength
    exact hsome (List.length_eq_zero_iff.mp hlength.symm)
  split
  · split
    · exact Nat.le_refl _
    · decide
  · rename_i hgood
    rw [if_neg]
    rintro (hvar | ⟨hsome,hfew⟩)
    · exact hgood (Or.inl (lt_of_lt_of_le hvar h.variance))
    · exact hgood (Or.inr ⟨hnone hsome,lt_of_le_of_lt hratio hfew⟩)

/-- The overall verdict of windows and numbers that are as good is no worse. -/
theorem evaluateAll_mono (fmt : String→K→String) (thresholds : Dict String K)
    {e e' : Evaluation K} (h : Improves e e') :
    (evaluateAll fmt thresholds e).overall.rank≤(evaluateAll fmt thresholds e').overall.rank := by
  unfold evaluateAll
  dsimp only
  rw [overallOf_rank,overallOf_rank]
  exact min_le_min (evaluateGateA_mono fmt thresholds h)
    (min_le_min (evaluateGateB_mono fmt thresholds h) (evaluateGateC_mono fmt thresholds h))

/-- Gate-B is the documented verdict and the overall verdict never gets worse with better
numbers, exactly if both ratios are too low, or one regime at most is over the limit, or two
are and no ratio is too low. -/
theorem gates_documented_iff (fmt : String→K→String) (thresholds : Dict String K)
    (e : Evaluation K) :
    ((evaluateGateB fmt thresholds e).result=documentedGateB thresholds e ∧
      ∀ e',Improves e e'→
        (evaluateAll fmt thresholds e).overall.rank≤
          (evaluateAll fmt thresholds e').overall.rank) ↔
      (SharpeMissed thresholds e ∧ CalmarMissed thresholds e) ∨
        (overLimit thresholds e).length≤1 ∨
          (¬SharpeMissed thresholds e ∧ ¬CalmarMissed thresholds e ∧
            (overLimit thresholds e).length≤2) := by
  rw [←evaluateGateB_documented_iff fmt thresholds e]
  exact and_iff_left fun e' h => evaluateAll_mono fmt thresholds h

end Monotone

section Examples

/-- A window with a return and with drawdowns of its regimes. -/
def windowOf (windowIndex : ℕ) (totalReturn : ℚ) (regimes : List (String×ℚ)) :
    OosWindowResult ℚ :=
  ⟨windowIndex,"","","","",0,0,0,0,0,totalReturn,0,0,0,
    Dict.collect (regimes.map fun m => (m.1,Dict.collect [("max_drawdown",m.2)]))⟩

/-- Three windows, in each of which one regime has a drawdown over the limit, with good
ratios. -/
def oneRegimeThrice : Evaluation ℚ :=
  ⟨[windowOf 0 (1/10) [("BEAR",-(2/5))],windowOf 1 (1/10) [("BEAR",-(2/5))],
    windowOf 2 (1/10) [("BEAR",-(2/5))]],1,1,-(1/10),1/10⟩

/-- One criterion of three is missed, and Gate-B fails. -/
theorem evaluateGateB_one_criterion :
    (evaluateGateB (fun _ _ => "") defaultThresholds oneRegimeThrice).result≠
      documentedGateB defaultThresholds oneRegimeThrice := by
  decide +kernel

/-- The condition and the verdicts for those windows. -/
theorem gates_documented_iff_rat :
    ((evaluateGateB (fun _ _ => "") defaultThresholds oneRegimeThrice).result=
        documentedGateB defaultThresholds oneRegimeThrice ∧
      ∀ e',Improves oneRegimeThrice e'→
        (evaluateAll (fun _ _ => "") defaultThresholds oneRegimeThrice).overall.rank≤
          (evaluateAll (fun _ _ => "") defaultThresholds e').overall.rank) ↔
      (SharpeMissed defaultThresholds oneRegimeThrice ∧
        CalmarMissed defaultThresholds oneRegimeThrice) ∨
        (overLimit defaultThresholds oneRegimeThrice).length≤1 ∨
          (¬SharpeMissed defaultThresholds oneRegimeThrice ∧
            ¬CalmarMissed defaultThresholds oneRegimeThrice ∧
            (overLimit defaultThresholds oneRegimeThrice).length≤2) :=
  gates_documented_iff _ _ _

end Examples

end Aqts.OosGates
