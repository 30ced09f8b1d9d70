import Aqts.Doubles
import Aqts.GroupTotals

/-!
# Capital budgets of the strategies

`CapitalBudget` in the floats of the source. A call returns its result, or the exception,
next to the budget after it. The constructor checks the sum of the allocations and not
their signs, and a sum that is not a number passes; the limits hold in every run exactly
if every budget is a number, not negative, that its usage cannot be rounded past, and the
budgets together are within the capital and a thousandth of it.
-/

namespace Aqts.CapitalBudgets

open Dictionary Doubles

/-- The exceptions of `CapitalBudget`. -/
inductive BudgetError
  /-- `ValueError` for the capital. -/
  | totalCapital (total : Double)
  /-- `ValueError` for the sum of the allocations. -/
  | totalAllocation (total : Double)
  /-- `KeyError` for a strategy. -/
  | unknownStrategy (strategyId : String)
  /-- `ValueError` for an amount. -/
  | negativeAmount (amount : Double)
  /-- `ValueError` for an amount over the budget. -/
  | budgetExceeded (strategyId : String) (allocated used amount : Double)
  deriving DecidableEq

/-- Its text, with the text of a number. -/
def BudgetError.message (text : Double→String) : BudgetError→String
  | .totalCapital total => "total_capital must be > 0, got "++text total
  | .totalAllocation total => "strategy_allocations must sum to 1.0, got "++text total
  | .unknownStrategy strategyId => "Unknown strategy: "++strategyId
  | .negativeAmount amount => "amount must be >= 0, got "++text amount
  | .budgetExceeded strategyId allocated used amount =>
    "Budget exceeded for "++strategyId++": allocated="++text allocated++", used="++text used++
      ", requested="++text amount

/-- `CapitalBudget`. -/
structure CapitalBudget where
  /-- `total_capital`. -/
  totalCapital : Double
  /-- `strategy_allocations`. -/
  strategyAllocations : Dict String Double
  /-- `_daily_usage`. -/
  dailyUsage : Dict String Double

/-- A call that changes the budget. -/
inductive Call
  /-- `record_usage`. -/
  | recordUsage (strategyId : String) (amount : Double)
  /-- `reset_daily`. -/
  | resetDaily

section Functions

/-- The allocations without an argument: four equal ones. -/
def defaultAllocations : Dict String Double :=
  let strategies := ["TREND","MEAN_REV","FACTOR","RISK_PARITY"]
  Dict.collect (strategies.map fun s => (s,Double.round (1/strategies.length)))

/-- The given allocations, or without any the default ones. -/
def allocationsOf (strategyAllocations : Dict String Double) : Dict String Double :=
  if strategyAllocations.items=[] then defaultAllocations else strategyAllocations

/-- A loop that sets the usage of strategies to zero. -/
def zeroUsage (strategies : List String) (usage : Dict String Double) : Dict String Double :=
  strategies.foldl (fun usage strategy => usage.set strategy 0) usage

/-- The constructor with `__post_init__`. -/
def CapitalBudget.new (totalCapital : Double) (strategyAllocations : Dict String Double) :
    Except BudgetError CapitalBudget :=
  if totalCapital≤0 then .error (.totalCapital totalCapital)
  else
    let allocations := allocationsOf strategyAllocations
    let totalAllocation := Double.sum allocations.values
    if Double.round (1/1000)<(totalAllocation-Double.round 1).abs then
      .error (.totalAllocation totalAllocation)
    else .ok ⟨totalCapital,allocations,zeroUsage allocations.keys .empty⟩

/-- `get_budget`. -/
def CapitalBudget.getBudget (b : CapitalBudget) (strategyId : String) :
    Except BudgetError Double :=
  match b.strategyAllocations.get? strategyId with
  | none => .error (.unknownStrategy strategyId)
  | some allocation => .ok (b.totalCapital*allocation)

/-- `get_remaining`. -/
def CapitalBudget.getRemaining (b : CapitalBudget) (strategyId : String) :
    Except BudgetError Double :=
  match b.getBudget strategyId with
  | .error e => .error e
  | .ok allocated => .ok (allocated-b.dailyUsage.value strategyId)

/-- `check_budget`. -/
def CapitalBudget.checkBudget (b : CapitalBudget) (strategyId : String) (amount : Double) :
    Except BudgetError Bool :=
  if strategyId∉b.strategyAllocations.keys then .error (.unknownStrategy strategyId)
  else if amount<0 then .error (.negativeAmount amount)
  else
    match b.getBudget strategyId with
    | .error e => .error e
    | .ok allocated => .ok (decide (amount≤ allocated-b.dailyUsage.value strategyId))

/-- `record_usage`. -/
def CapitalBudget.recordUsage (b : CapitalBudget) (strategyId : String) (amount : Double) :
    Except BudgetError Double×CapitalBudget :=
  if strategyId∉b.strategyAllocations.keys then (.error (.unknownStrategy strategyId),b)
  else if amount<0 then (.error (.negativeAmount amount),b)
  else
    match b.checkBudget strategyId amount with
    | .error e => (.error e,b)
    | .ok false =>
      match b.getBudget strategyId with
      | .error e => (.error e,b)
      | .ok allocated =>
        (.error (.budgetExceeded strategyId allocated (b.dailyUsage.value strategyId) amount),b)
    | .ok true =>
      let used := {b with
        dailyUsage := b.dailyUsage.set strategyId (b.dailyUsage.value strategyId+amount)}
      (used.getRemaining strategyId,used)

/-- `reset_daily`. -/
def CapitalBudget.resetDaily (b : CapitalBudget) : CapitalBudget :=
  {b with dailyUsage := zeroUsage b.strategyAllocations.keys b.dailyUsage}

/-- The budget after a call, which may have raised. -/
def CapitalBudget.after (b : CapitalBudget) : Call→ CapitalBudget
  | .recordUsage strategyId amount => (b.recordUsage strategyId amount).2
  | .resetDaily => b.resetDaily

/-- The budget after some calls. -/
def CapitalBudget.run (b : CapitalBudget) (calls : List Call) : CapitalBudget :=
  calls.foldl CapitalBudget.after b

/-- Every strategy is within its budget, and all of them together within the capital and a
thousandth of it. -/
structure CapitalBudget.Within (b : CapitalBudget) : Prop where
  /-- No strategy uses more than its budget. -/
  each : ∀ strategyId budget,b.getBudget strategyId=.ok budget→
    b.dailyUsage.value strategyId≤ budget
  /-- All usages together. -/
  all : Double.sum b.dailyUsage.values≤b.totalCapital*Double.round (1001/1000)

/-- Budgets that keep the limits. -/
structure Sustainable (totalCapital : Double) (allocations : Dict String Double) : Prop where
  /-- Every budget is a number and not negative. -/
  nonneg : ∀ allocation∈allocations.values,0≤ totalCapital*allocation
  /-- No usage can be rounded past its budget. -/
  steady : ∀ allocation∈allocations.values,(totalCapital*allocation).Steady
  /-- The budgets together are within the capital and a thousandth of it. -/
  whole : Double.sum (allocations.values.map (totalCapital*·))≤
    totalCapital*Double.round (1001/1000)

end Functions

section Zeros

/-- Usages after the loop. -/
theorem value_zeroUsage (strategies : List String) (usage : Dict String Double)
    (strategyId : String) :
    (zeroUsage strategies usage).value strategyId=
      if strategyId∈strategies then 0 else usage.value strategyId := by
  unfold zeroUsage
  induction strategies generalizing usage with
  | nil => rw [List.foldl_nil,if_neg List.not_mem_nil]
  | cons first rest ih =>
    rw [List.foldl_cons,ih,value_set]
    by_cases hrest : strategyId∈rest
    · rw [if_pos hrest,if_pos (List.mem_cons_of_mem _ hrest)]
    · rw [if_neg hrest]
      by_cases hfirst : strategyId=first
      · rw [if_pos hfirst,if_pos (hfirst ▸ List.mem_cons_self)]
      · rw [if_neg hfirst,if_neg (List.not_mem_cons_of_ne_of_not_mem hfirst hrest)]

/-- The loop over strategies that have a usage keeps the strategies. -/
theorem keys_zeroUsage {strategies : List String} {usage : Dict String Double}
    (h : ∀ s∈strategies,s∈usage.keys) : (zeroUsage strategies usage).keys=usage.keys := by
  unfold zeroUsage
  induction strategies generalizing usage with
  | nil => rfl
  | cons first rest ih =>
    have hset := keys_set (h first List.mem_cons_self) (0 : Double)
    have hrest : ∀ s∈rest,s∈(usage.set first 0).keys := by
      intro s hs
      rw [hset]
      exact h s (List.mem_cons_of_mem _ hs)
    rw [List.foldl_cons,ih hrest,hset]

/-- The loop over new strategies adds them. -/
theorem keys_zeroUsage_new {strategies : List String} (hnodup : strategies.Nodup)
    {usage : Dict String Double} (h : ∀ s∈strategies,s∉usage.keys) :
    (zeroUsage strategies usage).keys=usage.keys++strategies := by
  unfold zeroUsage
  induction strategies generalizing usage with
  | nil => rw [List.foldl_nil,List.append_nil]
  | cons first rest ih =>
    obtain ⟨hfirst,hnodup'⟩ := List.nodup_cons.mp hnodup
    have hset : (usage.set first (0 : Double)).keys=usage.keys++[first] := by
      unfold Dict.set
      rw [dif_neg (h first List.mem_cons_self)]
      unfold Dict.keys
      rw [List.map_append,List.map_singleton]
    have hrest : ∀ s∈rest,s∉(usage.set first (0 : Double)).keys := by
      intro s hs
      rw [hset,List.mem_append,List.mem_singleton]
      rintro (hold | rfl)
      · exact h s (List.mem_cons_of_mem _ hs) hold
      · exact hfirst hs
    rw [List.foldl_cons,ih hnodup' hrest,hset,List.append_assoc,List.singleton_append]

end Zeros

section Calls

variable {b : CapitalBudget} {strategyId : String}

/-- The budget of a strategy. -/
theorem getBudget_ok_iff {budget : Double} :
    b.getBudget strategyId=.ok budget ↔
      strategyId∈b.strategyAllocations.keys ∧
        b.totalCapital*b.strategyAllocations.value strategyId=budget := by
  unfold CapitalBudget.getBudget
  rw [Dict.mem_keys]
  unfold Dict.value
  cases b.strategyAllocations.get? strategyId with
  | none => simp
  | some allocation => simp

/-- What `record_usage` makes of the budget of a strategy that has one. -/
theorem recordUsage_known (hknown : strategyId∈b.strategyAllocations.keys) (amount : Double) :
    (b.recordUsage strategyId amount).2=
      if ¬amount<0 ∧
          amount≤b.totalCapital*b.strategyAllocations.value strategyId-
            b.dailyUsage.value strategyId then
        {b with dailyUsage := b.dailyUsage.set strategyId (b.dailyUsage.value strategyId+amount)}
      else b := by
  have hnot : ¬strategyId∉b.strategyAllocations.keys := not_not.mpr hknown
  have hbudget : b.getBudget strategyId=
      .ok (b.totalCapital*b.strategyAllocations.value strategyId) :=
    getBudget_ok_iff.mpr ⟨hknown,rfl⟩
  unfold CapitalBudget.recordUsage
  rw [if_neg hnot]
  by_cases hnegative : amount<0
  · rw [if_pos hnegative,if_neg fun h => h.1 hnegative]
  · have hcheck : b.checkBudget strategyId amount=.ok (decide (amount≤
        b.totalCapital*b.strategyAllocations.value strategyId-
          b.dailyUsage.value strategyId)) := by
      unfold CapitalBudget.checkBudget
      rw [if_neg hnot,if_neg hnegative,hbudget]
    rw [if_neg hnegative,hcheck,hbudget]
    by_cases hfits : amount≤b.totalCapital*b.strategyAllocations.value strategyId-
        b.dailyUsage.value strategyId
    · rw [decide_eq_true hfits,if_pos ⟨hnegative,hfits⟩]
    · rw [decide_eq_false hfits,if_neg fun h => hfits h.2]

/-- A strategy without a budget is refused. -/
theorem recordUsage_unknown (hunknown : strategyId∉b.strategyAllocations.keys) (amount : Double) :
    (b.recordUsage strategyId amount).2=b := by
  unfold CapitalBudget.recordUsage
  rw [if_pos hunknown]

/-- An amount that fits is added. -/
theorem recordUsage_fits (hknown : strategyId∈b.strategyAllocations.keys) {amount : Double}
    (hnot : ¬amount<0)
    (hfits : amount≤b.totalCapital*b.strategyAllocations.value strategyId-
      b.dailyUsage.value strategyId) :
    b.after (.recordUsage strategyId amount)=
      {b with
        dailyUsage := b.dailyUsage.set strategyId (b.dailyUsage.value strategyId+amount)} :=
  (recordUsage_known hknown amount).trans (if_pos ⟨hnot,hfits⟩)

end Calls

section Runs

/-- A budget whose strategies are within their budgets. -/
structure Sound (b : CapitalBudget) : Prop where
  /-- There is a usage for every strategy. -/
  keys : b.dailyUsage.keys=b.strategyAllocations.keys
  /-- The usages are not negative, and none is above its budget. -/
  used : ∀ s∈b.strategyAllocations.keys,
    0≤b.dailyUsage.value s ∧ b.dailyUsage.value s≤b.totalCapital*b.strategyAllocations.value s

/-- The allocation of a strategy. -/
theorem value_mem_values {d : Dict String Double} {s : String} (hs : s∈d.keys) :
    d.value s∈d.values :=
  List.mem_map.mpr ⟨_,mem_items_value hs,rfl⟩

variable {b : CapitalBudget}

/-- A call changes the usages only. -/
theorem after_fixed (b : CapitalBudget) (call : Call) :
    (b.after call).totalCapital=b.totalCapital ∧
      (b.after call).strategyAllocations=b.strategyAllocations := by
  cases call with
  | recordUsage strategyId amount =>
    unfold CapitalBudget.after
    dsimp only
    by_cases hknown : strategyId∈b.strategyAllocations.keys
    · rw [recordUsage_known hknown]
      split
      · exact ⟨rfl,rfl⟩
      · exact ⟨rfl,rfl⟩
    · rw [recordUsage_unknown hknown]
      exact ⟨rfl,rfl⟩
  | resetDaily => exact ⟨rfl,rfl⟩

/-- A run changes the usages only. -/
theorem run_fixed (b : CapitalBudget) (calls : List Call) :
    (b.run calls).totalCapital=b.totalCapital ∧
      (b.run calls).strategyAllocations=b.strategyAllocations := by
  unfold CapitalBudget.run
  induction calls generalizing b with
  | nil => exact ⟨rfl,rfl⟩
  | cons call calls ih =>
    obtain ⟨htotal,hallocations⟩ := ih (b.after call)
    exact ⟨htotal.trans (after_fixed b call).1,hallocations.trans (after_fixed b call).2⟩

/-- With budgets that keep the limits a call keeps a budget sound. -/
theorem Sound.after (h : Sound b) (hs : Sustainable b.totalCapital b.strategyAllocations)
    (call : Call) : Sound (b.after call) := by
  cases call with
  | recordUsage strategyId amount =>
    unfold CapitalBudget.after
    dsimp only
    by_cases hknown : strategyId∈b.strategyAllocations.keys
    · rw [recordUsage_known hknown]
      split
      · rename_i hfits
        refine ⟨?_,fun s hmem => ?_⟩
        · dsimp only
          rw [keys_set (h.keys ▸ hknown),h.keys]
        · dsimp only at hmem ⊢
          rw [value_set]
          by_cases hsame : s=strategyId
          · have hallocation := value_mem_values hknown
            obtain ⟨hnonneg,hused⟩ := h.used strategyId hknown
            rw [if_pos hsame,hsame]
            exact add_le_of_fits (hs.nonneg _ hallocation) (hs.steady _ hallocation) hnonneg
              hused hfits.1 hfits.2
          · rw [if_neg hsame]
            exact h.used s hmem
      · exact h
    · rw [recordUsage_unknown hknown]
      exact h
  | resetDaily =>
    have hkeys : ∀ s∈b.strategyAllocations.keys,s∈b.dailyUsage.keys := fun s hmem => h.keys ▸ hmem
    refine ⟨(keys_zeroUsage hkeys).trans h.keys,fun s hmem => ?_⟩
    have hmem' : s∈b.strategyAllocations.keys := hmem
    have hzero : (b.after .resetDaily).dailyUsage.value s=0 :=
      (value_zeroUsage _ _ s).trans (if_pos hmem')
    rw [hzero]
    exact ⟨zero_nonneg,hs.nonneg _ (value_mem_values hmem')⟩

/-- With budgets that keep the limits a run keeps a budget sound. -/
theorem Sound.run (h : Sound b) (hs : Sustainable b.totalCapital b.strategyAllocations)
    (calls : List Call) : Sound (b.run calls) := by
  unfold CapitalBudget.run
  induction calls generalizing b with
  | nil => exact h
  | cons call calls ih =>
    obtain ⟨htotal,hallocations⟩ := after_fixed b call
    exact ih (h.after hs call) (by rw [htotal,hallocations]; exact hs)

/-- The values of a dictionary by its keys. -/
theorem values_eq_map (d : Dict String Double) : d.values=d.keys.map d.value := by
  unfold Dict.values
  rw [items_eq_map_value,List.map_map]
  rfl

/-- A sound budget is within its limits. -/
theorem Sound.within (h : Sound b) (hs : Sustainable b.totalCapital b.strategyAllocations) :
    b.Within where
  each := by
    intro strategyId budget hbudget
    obtain ⟨hknown,rfl⟩ := getBudget_ok_iff.mp hbudget
    exact (h.used strategyId hknown).2
  all := by
    obtain ⟨hnonneg,hmore⟩ := sum_mono h.used
    have hwhole := hs.whole
    rw [values_eq_map,List.map_map] at hwhole
    rw [values_eq_map,h.keys]
    exact le_trans_of_nonneg hnonneg hmore hwhole

/-- Strategies that use all of their budgets, one after the other. -/
theorem run_full {strategies : List String} (hnodup : strategies.Nodup)
    (hknown : ∀ s∈strategies,s∈b.strategyAllocations.keys)
    (hkeys : b.dailyUsage.keys=b.strategyAllocations.keys)
    (hstart : ∀ s∈strategies,b.dailyUsage.value s=0)
    (hnonneg : ∀ s∈strategies,0≤b.totalCapital*b.strategyAllocations.value s) :
    let after := b.run (strategies.map fun s =>
      .recordUsage s (b.totalCapital*b.strategyAllocations.value s))
    after.dailyUsage.keys=b.dailyUsage.keys ∧
      ∀ s,after.dailyUsage.value s=
        if s∈strategies then b.totalCapital*b.strategyAllocations.value s
        else b.dailyUsage.value s := by
  unfold CapitalBudget.run
  dsimp only
  induction strategies generalizing b with
  | nil => exact ⟨rfl,fun s => (if_neg List.not_mem_nil).symm⟩
  | cons first rest ih =>
    obtain ⟨hfirst,hrest⟩ := List.nodup_cons.mp hnodup
    have hthere := hknown first List.mem_cons_self
    obtain ⟨hnot,hfits,hadd⟩ := fits_full (hnonneg first List.mem_cons_self)
    have hzero := hstart first List.mem_cons_self
    have hstep : b.after (.recordUsage first
        (b.totalCapital*b.strategyAllocations.value first))={b with
          dailyUsage := b.dailyUsage.set first
            (b.totalCapital*b.strategyAllocations.value first)} := by
      rw [recordUsage_fits hthere hnot (by rw [hzero]; exact hfits),hzero,hadd]
    have hkeys' := keys_set (hkeys ▸ hthere) (b.totalCapital*b.strategyAllocations.value first)
    rw [List.map_cons,List.foldl_cons,hstep]
    have hlater := ih (b := {b with
        dailyUsage := b.dailyUsage.set first
          (b.totalCapital*b.strategyAllocations.value first)}) hrest
      (fun s hs => hknown s (List.mem_cons_of_mem _ hs)) (hkeys'.trans hkeys)
      (fun s hs => by
        have hother : s≠first := fun heq => hfirst (heq ▸ hs)
        dsimp only
        rw [value_set,if_neg hother]
        exact hstart s (List.mem_cons_of_mem _ hs))
      (fun s hs => hnonneg s (List.mem_cons_of_mem _ hs))
    refine ⟨hlater.1.trans hkeys',fun s => (hlater.2 s).trans ?_⟩
    dsimp only
    rw [value_set]
    by_cases hs : s∈rest
    · rw [if_pos hs,if_pos (List.mem_cons_of_mem _ hs)]
    · rw [if_neg hs]
      by_cases heq : s=first
      · rw [if_pos heq,if_pos (heq ▸ List.mem_cons_self),heq]
      · rw [if_neg heq,if_neg (List.not_mem_cons_of_ne_of_not_mem heq hs)]

/-- Two amounts of a strategy that fit one after the other. -/
theorem run_two {s : String} (hknown : s∈b.strategyAllocations.keys)
    (hstart : b.dailyUsage.value s=0) {first second : Double} (hfirst : 0≤first)
    (hfits : first≤b.totalCapital*b.strategyAllocations.value s) (hsecond : 0≤ second)
    (hfits' : second≤b.totalCapital*b.strategyAllocations.value s-first) :
    (b.run [.recordUsage s first,.recordUsage s second]).dailyUsage.value s=first+second := by
  have hbudget := le_trans_of_nonneg zero_nonneg hfirst hfits
  have hstep : b.after (.recordUsage s first)={b with
      dailyUsage := b.dailyUsage.set s first} := by
    rw [recordUsage_fits hknown (fits_full hfirst).1
      (by rw [hstart,sub_zero_of_nonneg hbudget]; exact hfits),hstart,zero_add_of_nonneg hfirst]
  have hvalue : (b.dailyUsage.set s first).value s=first := by rw [value_set,if_pos rfl]
  have hstep' : (b.after (.recordUsage s first)).after (.recordUsage s second)={b with
      dailyUsage := (b.dailyUsage.set s first).set s (first+second)} := by
    rw [hstep]
    have hnext := recordUsage_fits (b := {b with dailyUsage := b.dailyUsage.set s first}) hknown
      (fits_full hsecond).1 (by dsimp only; rw [hvalue]; exact hfits')
    dsimp only at hnext
    rw [hvalue] at hnext
    exact hnext
  unfold CapitalBudget.run
  rw [List.foldl_cons,List.foldl_cons,List.foldl_nil,hstep']
  dsimp only
  rw [value_set,if_pos rfl]

/-- What the constructor returns. -/
theorem new_ok {totalCapital : Double} {strategyAllocations : Dict String Double}
    (hnew : CapitalBudget.new totalCapital strategyAllocations=.ok b) :
    b=⟨totalCapital,allocationsOf strategyAllocations,
      zeroUsage (allocationsOf strategyAllocations).keys .empty⟩ := by
  unfold CapitalBudget.new at hnew
  dsimp only at hnew
  split at hnew
  · cases hnew
  · split at hnew
    · cases hnew
    · cases hnew
      rfl

section Unused

variable (hkeys : b.dailyUsage.keys=b.strategyAllocations.keys)
  (hstart : ∀ s∈b.strategyAllocations.keys,b.dailyUsage.value s=0)
include hkeys hstart

/-- Budgets that keep the limits without any usage keep them in every run. -/
theorem within_of_sustainable (hs : Sustainable b.totalCapital b.strategyAllocations)
    (calls : List Call) : (b.run calls).Within := by
  have hsound : Sound b := by
    refine ⟨hkeys,fun s hmem => ?_⟩
    rw [hstart s hmem]
    exact ⟨zero_nonneg,hs.nonneg _ (value_mem_values hmem)⟩
  refine (hsound.run hs calls).within ?_
  rw [(run_fixed b calls).1,(run_fixed b calls).2]
  exact hs

/-- Budgets of which every run is within the limits keep them. -/
theorem sustainable_of_within (h : ∀ calls,(b.run calls).Within) :
    Sustainable b.totalCapital b.strategyAllocations := by
  have hnonneg : ∀ s∈b.strategyAllocations.keys,
      0≤b.totalCapital*b.strategyAllocations.value s := by
    intro s hmem
    have hused := (h []).each s _ (getBudget_ok_iff.mpr ⟨hmem,rfl⟩)
    have hzero : (b.run []).dailyUsage.value s=0 := hstart s hmem
    rw [hzero] at hused
    exact hused
  refine ⟨?_,?_,?_⟩
  · intro allocation hallocation
    rw [values_eq_map] at hallocation
    obtain ⟨s,hmem,rfl⟩ := List.mem_map.mp hallocation
    exact hnonneg s hmem
  · intro allocation hallocation
    rw [values_eq_map] at hallocation
    obtain ⟨s,hmem,rfl⟩ := List.mem_map.mp hallocation
    by_contra hsteady
    obtain ⟨first,second,hfirst,hfits,hsecond,hfits',hpast⟩ :=
      exists_exceeding (hnonneg s hmem) hsteady
    obtain ⟨htotal,hallocations⟩ :=
      run_fixed b [.recordUsage s first,.recordUsage s second]
    have hused := (h [.recordUsage s first,.recordUsage s second]).each s
      (b.totalCapital*b.strategyAllocations.value s)
      (getBudget_ok_iff.mpr ⟨hallocations ▸ hmem,by rw [htotal,hallocations]⟩)
    rw [run_two hmem (hstart s hmem) hfirst hfits hsecond hfits'] at hused
    exact hpast hused
  · obtain ⟨hkeys',hfull⟩ :=
      run_full b.strategyAllocations.nodup (fun s hmem => hmem) hkeys hstart hnonneg
    have hall := (h (b.strategyAllocations.keys.map fun s =>
      .recordUsage s (b.totalCapital*b.strategyAllocations.value s))).all
    have husages : (b.run (b.strategyAllocations.keys.map fun s =>
          .recordUsage s (b.totalCapital*b.strategyAllocations.value s))).dailyUsage.values=
        b.strategyAllocations.values.map (b.totalCapital*·) := by
      rw [values_eq_map,values_eq_map b.strategyAllocations,List.map_map]
      refine (congrArg _ (hkeys'.trans hkeys)).trans (List.map_congr_left fun s hmem => ?_)
      exact (hfull s).trans (if_pos hmem)
    rw [husages,(run_fixed b _).1] at hall
    exact hall

end Unused

/-- The limits hold after every sequence of calls exactly if the budgets keep them. -/
theorem run_within_iff {totalCapital : Double} {strategyAllocations : Dict String Double}
    (hnew : CapitalBudget.new totalCapital strategyAllocations=.ok b) :
    (∀ calls,(b.run calls).Within) ↔
      Sustainable totalCapital (allocationsOf strategyAllocations) := by
  have hbudget := new_ok hnew
  generalize allocationsOf strategyAllocations=allocations at hbudget ⊢
  have hkeys : (zeroUsage allocations.keys .empty).keys=allocations.keys :=
    keys_zeroUsage_new allocations.nodup fun s _ => List.not_mem_nil
  have hstart : ∀ s∈allocations.keys,(zeroUsage allocations.keys .empty).value s=0 :=
    fun s hmem => (value_zeroUsage _ _ s).trans (if_pos hmem)
  subst hbudget
  exact ⟨sustainable_of_within (b := ⟨totalCapital,allocations,_⟩) hkeys hstart,
    within_of_sustainable (b := ⟨totalCapital,allocations,_⟩) hkeys hstart⟩

/-- The four equal allocations keep the limits of a capital of a hundred. -/
theorem run_within_iff_default :
    ∃ b,CapitalBudget.new (.round 100) .empty=.ok b ∧ ∀ calls,(b.run calls).Within := by
  have haccepted : (CapitalBudget.new (.round 100) .empty).toOption.isSome=true := by
    decide +kernel
  cases hnew : CapitalBudget.new (.round 100) .empty with
  | error e =>
    rw [hnew] at haccepted
    cases haccepted
  | ok b =>
    exact ⟨b,rfl,(run_within_iff hnew).mpr
      ⟨by decide +kernel,by decide +kernel,by decide +kernel⟩⟩

/-- A budget of 30.099999999999998, which a usage of 30.1 can be rounded to. -/
example : ¬(Double.round 100*Double.round (301/1000)).Steady := by
  decide +kernel

/-- Two allocations of which one is negative, with the sum one. -/
def oneNegative : Dict String Double := Dict.collect [("A",.round (3/2)),("B",.round (-1/2))]

/-- Two allocations of which one is no number. -/
def oneNan : Dict String Double := Dict.collect [("A",.nan),("B",.round 1000)]

/-- Whether all usages together are within the limit after some calls, if the budget is
accepted. -/
def allWithin (totalCapital : Double) (strategyAllocations : Dict String Double)
    (calls : List Call) : Option Bool :=
  (CapitalBudget.new totalCapital strategyAllocations).toOption.map fun b =>
    decide (Double.sum (b.run calls).dailyUsage.values≤
      b.totalCapital*Double.round (1001/1000))

/-- A budget that exceeds the limit for all strategies. -/
theorem not_within_of_all {totalCapital : Double} {strategyAllocations : Dict String Double}
    {calls : List Call} (h : allWithin totalCapital strategyAllocations calls=some false) :
    ∃ b,CapitalBudget.new totalCapital strategyAllocations=.ok b ∧ ¬(b.run calls).Within := by
  unfold allWithin at h
  cases hnew : CapitalBudget.new totalCapital strategyAllocations with
  | error e =>
    rw [hnew] at h
    cases h
  | ok b =>
    rw [hnew] at h
    refine ⟨b,rfl,fun hwithin => ?_⟩
    have hall := hwithin.all
    rw [(run_fixed b calls).1] at hall
    exact absurd hall (of_decide_eq_false (Option.some.inj h))

/-- Both are accepted. Beside a negative allocation the other strategy may use half more than
the capital, and beside one that is no number a thousand times the capital. -/
theorem run_oneNegative :
    (∃ b,CapitalBudget.new (.round 100) oneNegative=.ok b ∧
        ¬(b.run [.recordUsage "A" (.round 150)]).Within) ∧
      ∃ b,CapitalBudget.new (.round 100) oneNan=.ok b ∧
        ¬(b.run [.recordUsage "B" (.round 1000)]).Within :=
  ⟨not_within_of_all (by decide +kernel),not_within_of_all (by decide +kernel)⟩

end Runs

end Aqts.CapitalBudgets
