import Aqts.RebalancingEngine

/-!
# The trigger of an emergency

The loss is a fraction that is never positive, and the trigger asks whether it is
above the tolerance. A positive tolerance is never exceeded. A negative one is
exceeded by small losses and by none: it triggers above the value that it allows,
not below.
-/

namespace Aqts.EmergencyTrigger

open Dictionary RebalancingEngine

/-- The total of the positions below which the tolerance is exceeded. -/
def leastValue (profile : InvestorProfile) : ℚ :=
  profile.seedAmount*(1-|profile.lossTolerance|)

/-- The trigger finds a reason exactly below the least value, and none at the seed or
above. -/
structure TriggersRight (surroundings : Surroundings) (profile : InvestorProfile)
    (portfolioValues : Dict String ℚ) : Prop where
  /-- A reason exactly below the least value. -/
  below : (checkEmergencyTrigger surroundings profile portfolioValues).isSome ↔
    portfolioValues.values.sum< leastValue profile
  /-- No reason at the seed or above. -/
  atSeed : profile.seedAmount≤ portfolioValues.values.sum→
    checkEmergencyTrigger surroundings profile portfolioValues=none

/-- The totals where the trigger is right. With a positive tolerance it is silent, and
with a negative one it speaks above the least value and for totals that are not positive. -/
inductive SignHarmless (profile : InvestorProfile) (total : ℚ) : Prop
  /-- The tolerance is positive and not exceeded. -/
  | silent (positive : 0<profile.lossTolerance) (kept : leastValue profile≤total)
  /-- The tolerance is negative and nothing is left. -/
  | empty (negative : profile.lossTolerance<0) (gone : total≤0)
  /-- The tolerance is negative and just used up. -/
  | boundary (negative : profile.lossTolerance<0) (least : total=leastValue profile)

section Trigger

variable {surroundings : Surroundings} {profile : InvestorProfile}
  {portfolioValues : Dict String ℚ}

/-- There is a reason exactly if the loss is above the tolerance. -/
theorem trigger_isSome_iff :
    (checkEmergencyTrigger surroundings profile portfolioValues).isSome ↔
      profile.lossTolerance< calculatePortfolioLoss profile portfolioValues := by
  unfold checkEmergencyTrigger
  dsimp only
  split
  · rename_i h
    exact iff_of_true rfl h
  · rename_i h
    exact iff_of_false Bool.false_ne_true h

/-- The loss is not positive. -/
theorem loss_nonpos : calculatePortfolioLoss profile portfolioValues≤0 := by
  unfold calculatePortfolioLoss
  dsimp only
  split
  · exact le_rfl
  · exact min_le_left _ _

/-- A positive tolerance is never exceeded. -/
theorem not_trigger_of_pos (surroundings : Surroundings) (portfolioValues : Dict String ℚ)
    (h : 0<profile.lossTolerance) :
    ¬(checkEmergencyTrigger surroundings profile portfolioValues).isSome := by
  rw [trigger_isSome_iff]
  exact not_lt.mpr (loss_nonpos.trans h.le)

/-- A total that is not positive counts as no loss. -/
theorem loss_of_nonpos (h : portfolioValues.values.sum≤0) :
    calculatePortfolioLoss profile portfolioValues=0 := by
  unfold calculatePortfolioLoss
  dsimp only
  exact if_pos h

/-- A negative tolerance is exceeded above the least value. -/
theorem trigger_of_neg (surroundings : Surroundings) (hseed : 0<profile.seedAmount)
    (hneg : profile.lossTolerance<0) (htotal : 0<portfolioValues.values.sum) :
    (checkEmergencyTrigger surroundings profile portfolioValues).isSome ↔
      leastValue profile<portfolioValues.values.sum := by
  have hloss : calculatePortfolioLoss profile portfolioValues=
      min 0 ((portfolioValues.values.sum-profile.seedAmount)/profile.seedAmount) := by
    unfold calculatePortfolioLoss
    dsimp only
    exact if_neg (not_le.mpr htotal)
  rw [trigger_isSome_iff,hloss,lt_min_iff,and_iff_right hneg,lt_div_iff₀ hseed]
  unfold leastValue
  rw [abs_of_neg hneg]
  constructor
  · intro h
    linarith
  · intro h
    linarith

/-- When the trigger is right. -/
theorem triggersRight_iff (surroundings : Surroundings) (portfolioValues : Dict String ℚ)
    (hseed : 0<profile.seedAmount) (hzero : 0< |profile.lossTolerance|)
    (hone : |profile.lossTolerance|<1) :
    TriggersRight surroundings profile portfolioValues ↔
      SignHarmless profile portfolioValues.values.sum := by
  have hleast : 0< leastValue profile := mul_pos hseed (by linarith)
  have hless : leastValue profile<profile.seedAmount := by
    have hpart : 0<profile.seedAmount* |profile.lossTolerance| := mul_pos hseed hzero
    unfold leastValue
    linarith
  rcases lt_or_gt_of_ne (abs_pos.mp hzero) with hneg | hpos
  · rcases le_or_gt portfolioValues.values.sum 0 with hgone | htotal
    · have hsome : (checkEmergencyTrigger surroundings profile portfolioValues).isSome := by
        rw [trigger_isSome_iff,loss_of_nonpos hgone]
        exact hneg
      refine iff_of_true ⟨iff_of_true hsome (by linarith),fun h => ?_⟩ (.empty hneg hgone)
      linarith
    · have htrigger := trigger_of_neg surroundings hseed hneg htotal
      constructor
      · intro h
        have hiff := htrigger.symm.trans h.below
        refine .boundary hneg (le_antisymm ?_ ?_)
        · by_contra habove
          exact lt_asymm (hiff.mp (not_le.mp habove)) (not_le.mp habove)
        · by_contra hbelow
          exact lt_asymm (hiff.mpr (not_le.mp hbelow)) (not_le.mp hbelow)
      · rintro (⟨hpos,_⟩ | ⟨_,hgone⟩ | ⟨_,hboundary⟩)
        · exact absurd hneg (not_lt.mpr hpos.le)
        · exact absurd htotal (not_lt.mpr hgone)
        · rw [hboundary] at htrigger
          refine ⟨?_,fun h => ?_⟩
          · rw [htrigger,hboundary]
          · rw [hboundary] at h
            exact absurd hless (not_lt.mpr h)
  · have hnone := not_trigger_of_pos surroundings portfolioValues hpos
    constructor
    · intro h
      exact .silent hpos (not_lt.mp fun hbelow => hnone (h.below.mpr hbelow))
    · rintro (⟨_,hkept⟩ | ⟨hneg,_⟩ | ⟨hneg,_⟩)
      · exact ⟨iff_of_false hnone (not_lt.mpr hkept),
          fun _ => Option.not_isSome_iff_eq_none.mp hnone⟩
      · exact absurd hneg (not_lt.mpr hpos.le)
      · exact absurd hneg (not_lt.mpr hpos.le)

/-- Half of the seed is lost without a trigger at a tolerance of a tenth, and without
any loss there is one if the tolerance is written as minus a tenth. -/
theorem trigger_wrong :
    ¬TriggersRight .plain ⟨10000000,1/10,.monthly⟩
        ⟨[("005930",5000000)],List.nodup_singleton _⟩ ∧
      ¬TriggersRight .plain ⟨10000000,-1/10,.monthly⟩
        ⟨[("005930",10000000)],List.nodup_singleton _⟩ := by
  constructor
  · intro h
    have hbelow := h.below.mpr (by decide +kernel)
    exact absurd hbelow (not_trigger_of_pos _ _ (by norm_num))
  · intro h
    have hnone := h.atSeed (by decide +kernel)
    have hsome : (checkEmergencyTrigger .plain ⟨10000000,-1/10,.monthly⟩
        ⟨[("005930",10000000)],List.nodup_singleton _⟩).isSome := by decide +kernel
    rw [hnone] at hsome
    exact Bool.false_ne_true hsome

/-- The condition at a tenth below the seed. -/
theorem triggersRight_iff_tenth :
    TriggersRight .plain ⟨10000000,1/10,.monthly⟩
        ⟨[("005930",9000000)],List.nodup_singleton _⟩ ↔
      SignHarmless ⟨10000000,1/10,.monthly⟩ ([9000000] : List ℚ).sum :=
  triggersRight_iff .plain _ (by norm_num) (by norm_num) (by norm_num)

end Trigger

end Aqts.EmergencyTrigger
