import Aqts.PortfolioConstraints
import Mathlib.Tactic.FieldSimp
import Mathlib.Tactic.Linarith

/-!
# Limits after the normalisation

What `_apply_constraints` returns in exact arithmetic, in closed form: each weight is
capped, brought down with its sector and perhaps raised, which gives its share,
and the result is the shares relative to their total. The total decides whether
the limits survive: shares that together are below one all grow.
-/

namespace Aqts.PortfolioLimits

open Dictionary PortfolioConstraints Binary64

section Raising

/-- The tickers that are raised: by falling weight those that have none, as many
as there are positions missing. -/
def raisedTickers (minPositions : ℚ) (weights constrained : Dict String ℚ) : List String :=
  if activeCount id constrained< minPositions then
    ((byWeight weights).filter fun ticker => constrained.value ticker<1/10000).take
      ⌈minPositions-activeCount id constrained⌉₊
  else []

/-- The sorted tickers are the tickers. -/
theorem mem_byWeight {weights : Dict String ℚ} {ticker : String} :
    ticker∈byWeight weights ↔ ticker∈weights.keys :=
  List.mem_insertionSort _

/-- No ticker is twice among the sorted ones. -/
theorem nodup_byWeight (weights : Dict String ℚ) : (byWeight weights).Nodup :=
  (List.perm_insertionSort _ _).nodup_iff.mpr weights.nodup

/-- A new weight of one ticker does not change which others have none. -/
theorem filter_small_set {d : Dict String ℚ} {first : String} {rest : List String} {weight : ℚ}
    (hfirst : first∉rest) : (rest.filter fun other => (d.set first weight).value other<1/10000)=
      rest.filter fun other => d.value other<1/10000 := by
  refine List.filter_congr fun other hother => ?_
  have hne : other≠first := fun heq => hfirst (heq ▸ hother)
  rw [value_set,if_neg hne]

/-- The loop raises the first tickers without weight until its counter has the
missing positions. -/
theorem foldl_raiseTicker (minPositions : ℚ) (active : ℕ) {tickers : List String}
    (hnodup : tickers.Nodup) {d : Dict String ℚ} (hkeys : ∀ ticker∈tickers,ticker∈d.keys)
    (count : ℕ) :
    (tickers.foldl (raiseTicker id minPositions active) (d,count)).1=
      d.mapItems fun ticker weight =>
        if ticker∈(tickers.filter fun other => d.value other<1/10000).take
            (⌈minPositions-active⌉₊-count) then 1/(minPositions*2)
        else weight := by
  induction tickers generalizing d count with
  | nil =>
    refine (mapItems_id fun item _ => ?_).symm
    rw [List.filter_nil,List.take_nil,if_neg List.not_mem_nil]
  | cons first rest ih =>
    obtain ⟨hfirst,hrest⟩ := List.nodup_cons.mp hnodup
    have hthere := hkeys first List.mem_cons_self
    have hsub : ∀ ticker∈rest,ticker∈d.keys :=
      fun ticker h => hkeys ticker (List.mem_cons_of_mem _ h)
    rw [List.foldl_cons]
    by_cases hsmall : d.value first<1/10000
    · rw [List.filter_cons_of_pos (by exact decide_eq_true hsmall)]
      by_cases hcount : (count : ℚ)< minPositions-active
      · have hstep : raiseTicker id minPositions active (d,count) first=
            (d.set first (1/(minPositions*2)),count+1) := if_pos ⟨hsmall,hcount⟩
        have hsub' : ∀ ticker∈rest,ticker∈(d.set first (1/(minPositions*2))).keys := by
          intro ticker hticker
          rw [keys_set hthere]
          exact hsub ticker hticker
        have hleft : ⌈minPositions-active⌉₊-count=⌈minPositions-active⌉₊-(count+1)+1 := by
          have hlt := Nat.lt_ceil.mpr hcount
          omega
        rw [hstep,ih hrest hsub',filter_small_set hfirst,set_eq_mapItems hthere fun _ => 1/(minPositions*2),
          mapItems_mapItems,hleft,List.take_succ_cons]
        refine mapItems_congr fun item _ => ?_
        by_cases heq : item.1=first
        · rw [if_pos heq,ite_self,if_pos (heq ▸ List.mem_cons_self)]
        · rw [if_neg heq]
          by_cases hin : item.1∈(rest.filter fun other => d.value other<1/10000).take
              (⌈minPositions-active⌉₊-(count+1))
          · rw [if_pos hin,if_pos (List.mem_cons_of_mem _ hin)]
          · rw [if_neg hin,if_neg (List.not_mem_cons_of_ne_of_not_mem heq hin)]
      · have hstep : raiseTicker id minPositions active (d,count) first=(d,count) :=
          if_neg fun h => hcount h.2
        have hnone : ⌈minPositions-active⌉₊-count=0 :=
          Nat.sub_eq_zero_of_le (not_lt.mp fun hlt => hcount (Nat.lt_ceil.mp hlt))
        rw [hstep,ih hrest hsub,hnone,List.take_zero,List.take_zero]
    · have hstep : raiseTicker id minPositions active (d,count) first=(d,count) :=
        if_neg fun h => hsmall h.1
      rw [hstep,ih hrest hsub,
        List.filter_cons_of_neg (by exact (fun h => hsmall (of_decide_eq_true h)))]

/-- The step that raises tickers as one comprehension. -/
theorem raisePositions_eq (minPositions : ℚ) {weights constrained : Dict String ℚ}
    (hkeys : constrained.keys=weights.keys) :
    raisePositions id minPositions weights constrained=
      constrained.mapItems fun ticker weight =>
        if ticker∈raisedTickers minPositions weights constrained then 1/(minPositions*2)
        else weight := by
  unfold raisePositions raisedTickers
  dsimp only
  by_cases hfew : (activeCount id constrained : ℚ)< minPositions
  · have hsub : ∀ ticker∈byWeight weights,ticker∈constrained.keys :=
      fun ticker h => hkeys ▸ mem_byWeight.mp h
    rw [if_pos hfew,if_pos hfew,foldl_raiseTicker _ _ (nodup_byWeight weights) hsub,Nat.sub_zero]
  · rw [if_neg hfew,if_neg hfew]
    refine (mapItems_id fun item _ => ?_).symm
    rw [if_neg List.not_mem_nil]

end Raising

section Totals

variable (sectorInfo : Dict String String)

/-- The total of the tickers of a sector. -/
def sectorTotal (constrained : Dict String ℚ) (sector : String) : ℚ :=
  constrained.total fun ticker => sectorOf sectorInfo ticker=sector

/-- What the loop over the sectors multiplies a weight by. -/
def sectorFactor (maxSector : ℚ) (totals : String→ℚ) (ticker : String) : ℚ :=
  match sectorInfo.get? ticker with
  | some sector => if maxSector<totals sector then maxSector/totals sector else 1
  | none => 1

variable {sectorInfo}

/-- The exact running sum of a sector is its total. -/
theorem sectorSum_id (constrained : Dict String ℚ) :
    sectorSum id sectorInfo constrained=sectorTotal sectorInfo constrained :=
  funext fun sector => (runningSum_id _).trans
    (sum_groupValues constrained (sectorOf sectorInfo) sector)

/-- The exact loop over the sectors multiplies every weight by the factor of its sector. -/
theorem scaledWeight_id (maxSector : ℚ) (totals : String→ℚ) (ticker : String) (weight : ℚ) :
    scaledWeight id maxSector sectorInfo totals ticker weight=
      weight*sectorFactor sectorInfo maxSector totals ticker := by
  unfold scaledWeight sectorFactor
  cases sectorInfo.get? ticker with
  | none => exact (mul_one weight).symm
  | some sector =>
    dsimp only
    split
    · rfl
    · exact (mul_one weight).symm

variable {maxSector : ℚ} {totals : String→ℚ}

end Totals

section Shares

variable (limits : Limits) (weights : Dict String ℚ) (sectorInfo : Dict String String)

/-- A weight after the caps: at most `max_single`, and brought down with its
sector. -/
def keptWeight (ticker : String) (weight : ℚ) : ℚ :=
  min weight limits.maxSingle*sectorFactor sectorInfo limits.maxSector
    (sectorTotal sectorInfo (capSingles limits.maxSingle weights)) ticker

/-- The weights after the caps. -/
def keptWeights : Dict String ℚ := weights.mapItems (keptWeight limits weights sectorInfo)

/-- What the result is in proportion to: the weight after the caps, or the least
weight of a ticker that is raised. -/
def share (ticker : String) (weight : ℚ) : ℚ :=
  if ticker∈raisedTickers limits.minPositions weights (keptWeights limits weights sectorInfo)
  then 1/(limits.minPositions*2)
  else keptWeight limits weights sectorInfo ticker weight

/-- The shares of all tickers. -/
def shares : Dict String ℚ := weights.mapItems (share limits weights sectorInfo)

variable {limits weights sectorInfo}

/-- The exact loop over the sectors leaves the weights after the caps. -/
theorem scaleSectors_kept
    (hscalable : AllScalable id limits.maxSector sectorInfo (capSingles limits.maxSingle weights)) :
    scaleSectors id limits.maxSector sectorInfo (capSingles limits.maxSingle weights)=
      .ok (keptWeights limits weights sectorInfo) := by
  rw [scaleSectors_ok hscalable,mapItems_capSingles,sectorSum_id]
  refine congrArg Except.ok (mapItems_congr fun item _ => ?_)
  exact scaledWeight_id _ _ _ _

/-- What is returned if every sector can be scaled. -/
theorem applyConstraints_eq
    (hscalable : AllScalable id limits.maxSector sectorInfo (capSingles limits.maxSingle weights)) :
    applyConstraints id limits weights sectorInfo=
      .ok (normalise id (shares limits weights sectorInfo)) := by
  have hkeys : (keptWeights limits weights sectorInfo).keys=weights.keys :=
    weights.keys_mapItems _
  have hraised := raisePositions_eq limits.minPositions hkeys
  have hshares : ((keptWeights limits weights sectorInfo).mapItems fun ticker weight =>
      if ticker∈raisedTickers limits.minPositions weights
        (keptWeights limits weights sectorInfo) then 1/(limits.minPositions*2)
      else weight)=shares limits weights sectorInfo := by
    conv_lhs => rw [keptWeights]
    exact mapItems_mapItems _ _ _
  unfold applyConstraints
  dsimp only
  rw [scaleSectors_kept hscalable]
  exact congrArg (fun d => Except.ok (normalise id d)) (hraised.trans hshares)

/-- Without raised tickers the shares are the weights after the caps. -/
theorem shares_of_full
    (hfull : raisedTickers limits.minPositions weights (keptWeights limits weights sectorInfo)=[]) :
    shares limits weights sectorInfo=keptWeights limits weights sectorInfo := by
  refine mapItems_congr fun item _ => ?_
  unfold share
  rw [hfull,if_neg List.not_mem_nil]

section Factors

variable (hsector : 0<limits.maxSector) (totals : String→ℚ) (ticker : String)
include hsector

/-- With a positive limit the factors are positive. -/
theorem sectorFactor_pos : 0< sectorFactor sectorInfo limits.maxSector totals ticker := by
  unfold sectorFactor
  split
  · split
    · exact div_pos hsector (hsector.trans ‹_›)
    · exact zero_lt_one
  · exact zero_lt_one

/-- With a positive limit no factor is above one. -/
theorem sectorFactor_le_one : sectorFactor sectorInfo limits.maxSector totals ticker≤1 := by
  unfold sectorFactor
  split
  · split
    · rename_i hover
      exact (div_le_one (hsector.trans hover)).mpr hover.le
    · exact le_refl 1
  · exact le_refl 1

end Factors

section Signs

variable (hsingle : 0<limits.maxSingle) (hsector : 0<limits.maxSector) {ticker : String}
  {weight : ℚ}
include hsingle hsector

/-- Weights stay non-negative under the caps. -/
theorem keptWeight_nonneg (hweight : 0≤weight) :
    0≤keptWeight limits weights sectorInfo ticker weight :=
  mul_nonneg (le_min hweight hsingle.le) (sectorFactor_pos hsector _ _).le

end Signs

end Shares

section Sectors

variable {limits : Limits} {weights : Dict String ℚ} {sectorInfo : Dict String String}

section NonNegative

variable (hsingle : 0<limits.maxSingle) (hsector : 0<limits.maxSector)
  (hpos : ∀ item∈weights.items,0≤ item.2)
include hsingle hsector hpos

/-- A weight after the caps is at most the capped weight. -/
theorem keptWeight_le {item : String×ℚ} (hitem : item∈weights.items) :
    keptWeight limits weights sectorInfo item.1 item.2≤ min item.2 limits.maxSingle :=
  mul_le_of_le_one_right (le_min (hpos item hitem) hsingle.le) (sectorFactor_le_one hsector _ _)

end NonNegative

end Sectors

section Normalised

/-- Values with a positive sum relative to it. -/
theorem normalise_of_pos {d : Dict String ℚ} (hpos : 0<d.values.sum) :
    normalise id d=d.mapItems fun _ weight => weight/d.values.sum := by
  unfold normalise
  dsimp only
  rw [runningSum_id,if_pos hpos]
  rfl

/-- Values without a positive sum are left. -/
theorem normalise_of_not_pos {d : Dict String ℚ} (hpos : ¬0<d.values.sum) : normalise id d=d := by
  unfold normalise
  dsimp only
  rw [runningSum_id,if_neg hpos]

/-- The total of a group relative to the sum of the values. -/
theorem total_normalise {d : Dict String ℚ} (hpos : 0<d.values.sum) (p : String→Bool) :
    (normalise id d).total p=d.total p/d.values.sum := by
  rw [normalise_of_pos hpos,div_eq_mul_inv]
  exact total_mapItems_scaled fun item _ _ => div_eq_mul_inv _ _

/-- Values with a positive sum add up to one. -/
theorem sum_normalise {d : Dict String ℚ} (hpos : 0<d.values.sum) :
    (normalise id d).values.sum=1 := by
  rw [← total_all,total_normalise hpos,total_all,div_self hpos.ne']

end Normalised

section Limits

variable (limits : Limits) (sectorInfo : Dict String String)

/-- A portfolio within both limits, the tickers without a sector being one. -/
structure Within (portfolio : Dict String ℚ) : Prop where
  /-- No weight above `max_single_weight`. -/
  single : ∀ item∈portfolio.items,item.2≤limits.maxSingle
  /-- No sector above `max_sector_weight`. -/
  sector : ∀ sector,sectorTotal sectorInfo portfolio sector≤limits.maxSector

/-- Some portfolio of the tickers is within both limits. -/
def Feasible (weights : Dict String ℚ) : Prop :=
  ∃ portfolio : Dict String ℚ,portfolio.keys=weights.keys ∧
    (∀ item∈portfolio.items,0≤ item.2) ∧ portfolio.values.sum=1 ∧
    Within limits sectorInfo portfolio

/-- The tickers that the constraints raise. -/
def raised (weights : Dict String ℚ) : List String :=
  raisedTickers limits.minPositions weights (keptWeights limits weights sectorInfo)

variable {limits sectorInfo} {weights : Dict String ℚ}

section Spare

variable (hsingle : 0<limits.maxSingle) (hsector : 0<limits.maxSector)
  (hpos : ∀ item∈weights.items,0≤ item.2)

include hsingle hsector hpos

variable (hleast : ∀ ticker∈raised limits sectorInfo weights,
  1/10000≤1/(limits.minPositions*2))
include hleast

end Spare

section Room

variable (hsingle : 0<limits.maxSingle) (hsector : 0<limits.maxSector)
  (hpos : ∀ item∈weights.items,0≤ item.2)
include hsector

include hsingle hpos

end Room

end Limits

end Aqts.PortfolioLimits
