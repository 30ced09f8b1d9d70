import Aqts.Binary64
import Aqts.GroupTotals
import Mathlib.Data.List.Sort
import Mathlib.Tactic.FieldSimp
import Mathlib.Tactic.Linarith

/-!
# The constraints on a portfolio

`PortfolioConstructionEngine._apply_constraints`: single weights are capped, the
tickers of sectors above their limit are scaled down, tickers without weight are
raised until there are enough positions, and the result is normalised. The
scaling of a sector runs over the sector map and not over the weights, so a
ticker of the map without a weight ends it with a `KeyError`, and tickers that
the map does not have are never scaled. Weights are numbers of which every
operation is rounded: `fl` gives the floats of the source, and `id` exact
arithmetic.
-/

namespace Aqts.PortfolioConstraints

open Dictionary Binary64

/-- The constraints that `_apply_constraints` reads. -/
structure Limits where
  /-- `max_single_weight`. -/
  maxSingle : ℚ
  /-- `max_sector_weight`. -/
  maxSector : ℚ
  /-- `min_positions`. -/
  minPositions : ℚ

/-- What `_apply_constraints` can raise. -/
inductive Failure
  /-- `KeyError`: a ticker without a weight. -/
  | keyError (ticker : String)
  /-- `ZeroDivisionError`: a sector without weight above a negative limit. -/
  | zeroDivision
  deriving DecidableEq

/-- No weight above `max_single`. -/
def capSingles (maxSingle : ℚ) (weights : Dict String ℚ) : Dict String ℚ :=
  weights.mapItems fun _ weight => if maxSingle<weight then maxSingle else weight

/-- `sector_info.get(ticker, "UNKNOWN")`. -/
def sectorOf (sectorInfo : Dict String String) (ticker : String) : String :=
  (sectorInfo.get? ticker).getD "UNKNOWN"

/-- `sector_tickers`. -/
def sectorTickers (sectorInfo : Dict String String) (sector : String) : List String :=
  (sectorInfo.items.filter fun item => item.2=sector).map Prod.fst

/-- The tickers by falling weight; tickers of one weight keep their order. -/
def byWeight (weights : Dict String ℚ) : List String :=
  weights.keys.insertionSort fun ticker other => -weights.value ticker≤ -weights.value other

section Rounded

variable (rounded : ℚ→ℚ)

/-- `PORTFOLIO_CONSTRAINTS`. -/
def portfolioConstraints : Dict String ℚ :=
  (((Dict.empty.set "max_single_weight" (rounded (20/100))).set "max_sector_weight"
    (rounded (40/100))).set "min_positions" 5).set "max_us_weight_warning" (rounded (50/100))

/-- The constraints of an engine, each with its default. -/
def limitsOf (constraints : Dict String ℚ) : Limits where
  maxSingle := (constraints.get? "max_single_weight").getD (rounded (20/100))
  maxSector := (constraints.get? "max_sector_weight").getD (rounded (40/100))
  minPositions := (constraints.get? "min_positions").getD 5

/-- `sector_weights`. -/
def sectorWeights (sectorInfo : Dict String String) (constrained : Dict String ℚ) :
    Dict String ℚ :=
  constrained.groupTotals (fun total weight => rounded (total+weight)) (sectorOf sectorInfo)

/-- `constrained[ticker] *= scale`. -/
def scaleTicker (scale : ℚ) (constrained : Dict String ℚ) (ticker : String) :
    Except Failure (Dict String ℚ) :=
  match constrained.get? ticker with
  | some weight => .ok (constrained.set ticker (rounded (weight*scale)))
  | none => .error (.keyError ticker)

/-- One round of the loop over the sectors. -/
def scaleSector (maxSector : ℚ) (sectorInfo : Dict String String) (constrained : Dict String ℚ)
    (entry : String×ℚ) : Except Failure (Dict String ℚ) :=
  if maxSector<entry.2 then
    if entry.2=0 then .error .zeroDivision
    else
      (sectorTickers sectorInfo entry.1).foldlM
        (scaleTicker rounded (rounded (maxSector/entry.2))) constrained
  else .ok constrained

/-- The loop over the sectors. -/
def scaleSectors (maxSector : ℚ) (sectorInfo : Dict String String) (constrained : Dict String ℚ) :
    Except Failure (Dict String ℚ) :=
  (sectorWeights rounded sectorInfo constrained).items.foldlM
    (scaleSector rounded maxSector sectorInfo) constrained

/-- `active_count`. -/
def activeCount (constrained : Dict String ℚ) : ℕ :=
  (constrained.items.filter fun item => rounded (1/10000)< item.2).length

/-- One round of the loop that raises tickers without weight. -/
def raiseTicker (minPositions : ℚ) (active : ℕ) (s : Dict String ℚ×ℕ) (ticker : String) :
    Dict String ℚ×ℕ :=
  if s.1.value ticker< rounded (1/10000) ∧ s.2< minPositions-active then
    (s.1.set ticker (rounded (1/(minPositions*2))),s.2+1)
  else s

/-- Tickers without weight are raised while there are too few positions. -/
def raisePositions (minPositions : ℚ) (weights constrained : Dict String ℚ) : Dict String ℚ :=
  let active := activeCount rounded constrained
  if active< minPositions then
    ((byWeight weights).foldl (raiseTicker rounded minPositions active) (constrained,0)).1
  else constrained

/-- Weights relative to their total. -/
def normalise (constrained : Dict String ℚ) : Dict String ℚ :=
  let total := runningSum rounded constrained.values
  if 0<total then constrained.mapItems fun _ weight => rounded (weight/total) else constrained

/-- `_apply_constraints`. -/
def applyConstraints (limits : Limits) (weights : Dict String ℚ)
    (sectorInfo : Dict String String) : Except Failure (Dict String ℚ) := do
  let constrained := capSingles limits.maxSingle weights
  let scaled ← scaleSectors rounded limits.maxSector sectorInfo constrained
  return normalise rounded (raisePositions rounded limits.minPositions weights scaled)

end Rounded

/-- The sector that the map has for a ticker. -/
theorem sectorOf_of_get? {sectorInfo : Dict String String} {ticker sector : String}
    (h : sectorInfo.get? ticker=some sector) : sectorOf sectorInfo ticker=sector := by
  unfold sectorOf
  rw [h]
  rfl

/-- A comprehension over the capped weights. -/
theorem mapItems_capSingles (maxSingle : ℚ) (weights : Dict String ℚ) (f : String→ℚ→ℚ) :
    (capSingles maxSingle weights).mapItems f=
      weights.mapItems fun ticker weight => f ticker (min weight maxSingle) := by
  unfold capSingles
  rw [mapItems_mapItems]
  refine mapItems_congr fun item _ => ?_
  by_cases hover : maxSingle< item.2
  · rw [if_pos hover,min_eq_right hover.le]
  · rw [if_neg hover,min_eq_left (not_lt.mp hover)]

section Scaling

variable {rounded : ℚ→ℚ}

/-- A loop over tickers that all have a weight scales them. -/
theorem foldlM_scaleTicker {tickers : List String} (scale : ℚ) {d : Dict String ℚ}
    (hkeys : ∀ ticker∈tickers,ticker∈d.keys) :
    tickers.foldlM (scaleTicker rounded scale) d=.ok (d.assign tickers fun weight => rounded (weight*scale)) := by
  induction tickers generalizing d with
  | nil => rfl
  | cons first rest ih =>
    have hthere := hkeys first List.mem_cons_self
    obtain ⟨weight,hweight⟩ := d.mem_keys.mp hthere
    have hvalue : d.value first=weight := value_of_mem (d.get?_eq_some.mp hweight)
    have hstep : scaleTicker rounded scale d first=.ok (d.set first (rounded (d.value first*scale))) := by
      unfold scaleTicker
      rw [hweight,hvalue]
    have hsub : ∀ ticker∈rest,ticker∈(d.set first (rounded (d.value first*scale))).keys := by
      intro ticker hticker
      rw [keys_set hthere]
      exact hkeys ticker (List.mem_cons_of_mem _ hticker)
    rw [List.foldlM_cons,hstep]
    exact ih hsub

/-- A loop over tickers of which one has no weight raises. -/
theorem foldlM_scaleTicker_error {tickers : List String} (scale : ℚ) {d : Dict String ℚ}
    (hmissing : ∃ ticker∈tickers,ticker∉d.keys) :
    ∃ failure,tickers.foldlM (scaleTicker rounded scale) d=.error failure := by
  induction tickers generalizing d with
  | nil =>
    obtain ⟨ticker,hticker,_⟩ := hmissing
    exact absurd hticker List.not_mem_nil
  | cons first rest ih =>
    rw [List.foldlM_cons]
    by_cases hthere : first∈d.keys
    · obtain ⟨weight,hweight⟩ := d.mem_keys.mp hthere
      have hstep : scaleTicker rounded scale d first=.ok (d.set first (rounded (weight*scale))) := by
        unfold scaleTicker
        rw [hweight]
      rw [hstep]
      refine ih ?_
      obtain ⟨ticker,hticker,hnot⟩ := hmissing
      refine ⟨ticker,(List.mem_cons.mp hticker).resolve_left ?_,?_⟩
      · exact fun heq => hnot (heq ▸ hthere)
      · rw [keys_set hthere]
        exact hnot
    · refine ⟨.keyError first,?_⟩
      have hstep : scaleTicker rounded scale d first=.error (.keyError first) := by
        unfold scaleTicker
        rw [d.get?_eq_none.mpr hthere]
      rw [hstep]
      rfl

/-- The tickers of a sector are those that the map has in it. -/
theorem mem_sectorTickers {sectorInfo : Dict String String} {sector ticker : String} :
    ticker∈sectorTickers sectorInfo sector ↔ sectorInfo.get? ticker=some sector := by
  unfold sectorTickers
  rw [List.mem_map,Dict.get?_eq_some]
  constructor
  · rintro ⟨item,hitem,rfl⟩
    obtain ⟨hmem,heq⟩ := List.mem_filter.mp hitem
    exact of_decide_eq_true heq ▸ hmem
  · exact fun h => ⟨_,List.mem_filter.mpr ⟨h,decide_eq_true rfl⟩,rfl⟩

/-- No ticker is twice in a sector. -/
theorem nodup_sectorTickers (sectorInfo : Dict String String) (sector : String) :
    (sectorTickers sectorInfo sector).Nodup :=
  (List.filter_sublist.map Prod.fst).nodup sectorInfo.nodup

end Scaling

section Sectors

variable (rounded : ℚ→ℚ) (maxSector : ℚ) (sectorInfo : Dict String String) (totals : String→ℚ)

/-- What the loop over the sectors makes of a weight. -/
def scaledWeight (ticker : String) (weight : ℚ) : ℚ :=
  match sectorInfo.get? ticker with
  | some sector =>
    if maxSector<totals sector then rounded (weight*rounded (maxSector/totals sector)) else weight
  | none => weight

/-- A sector that the loop can scale: it has a weight to divide by, and all its
tickers in the map have weights. -/
def Scalable (constrained : Dict String ℚ) (sector : String) : Prop :=
  maxSector<totals sector→totals sector≠0 ∧
    ∀ ticker∈sectorTickers sectorInfo sector,ticker∈constrained.keys

instance (constrained : Dict String ℚ) (sector : String) :
    Decidable (Scalable maxSector sectorInfo totals constrained sector) :=
  inferInstanceAs (Decidable (_→_))

variable {rounded maxSector sectorInfo totals}

/-- A sector above its limit scales the weights of its tickers. -/
theorem scaledWeight_over {ticker sector : String} {weight : ℚ}
    (hsector : sectorInfo.get? ticker=some sector) (hover : maxSector<totals sector) :
    scaledWeight rounded maxSector sectorInfo totals ticker weight=
      rounded (weight*rounded (maxSector/totals sector)) := by
  unfold scaledWeight
  rw [hsector]
  exact if_pos hover

/-- A sector within its limit leaves the weights of its tickers. -/
theorem scaledWeight_within {ticker sector : String} {weight : ℚ}
    (hsector : sectorInfo.get? ticker=some sector) (hwithin : ¬maxSector<totals sector) :
    scaledWeight rounded maxSector sectorInfo totals ticker weight=weight := by
  unfold scaledWeight
  rw [hsector]
  exact if_neg hwithin

/-- A ticker that the map does not have keeps its weight. -/
theorem scaledWeight_none {ticker : String} {weight : ℚ} (hnone : sectorInfo.get? ticker=none) :
    scaledWeight rounded maxSector sectorInfo totals ticker weight=weight := by
  unfold scaledWeight
  rw [hnone]

/-- One round of the loop over the sectors. -/
theorem scaleSector_ok {constrained : Dict String ℚ} {sector : String}
    (hscalable : Scalable maxSector sectorInfo totals constrained sector) :
    scaleSector rounded maxSector sectorInfo constrained (sector,totals sector)=
      .ok (constrained.mapItems fun ticker weight =>
        if sectorInfo.get? ticker=some sector then
          scaledWeight rounded maxSector sectorInfo totals ticker weight
        else weight) := by
  unfold scaleSector
  dsimp only
  by_cases hover : maxSector<totals sector
  · obtain ⟨hne,hkeys⟩ := hscalable hover
    rw [if_pos hover,if_neg hne,foldlM_scaleTicker _ hkeys,
      assign_eq_mapItems (nodup_sectorTickers sectorInfo sector) hkeys]
    refine congrArg Except.ok (mapItems_congr fun item _ => ?_)
    by_cases hin : sectorInfo.get? item.1=some sector
    · rw [if_pos (mem_sectorTickers.mpr hin),if_pos hin,scaledWeight_over hin hover]
    · rw [if_neg (fun h => hin (mem_sectorTickers.mp h)),if_neg hin]
  · rw [if_neg hover]
    refine congrArg Except.ok (mapItems_id fun item _ => ?_).symm
    by_cases hin : sectorInfo.get? item.1=some sector
    · rw [if_pos hin,scaledWeight_within hin hover]
    · rw [if_neg hin]

/-- A sector that cannot be scaled ends the loop. -/
theorem scaleSector_error {constrained : Dict String ℚ} {sector : String}
    (hnot : ¬Scalable maxSector sectorInfo totals constrained sector) :
    ∃ failure,scaleSector rounded maxSector sectorInfo constrained (sector,totals sector)=
      .error failure := by
  unfold Scalable at hnot
  obtain ⟨hover,hrest⟩ := Classical.not_imp.mp hnot
  unfold scaleSector
  dsimp only
  rw [if_pos hover]
  by_cases hzero : totals sector=0
  · exact ⟨_,if_pos hzero⟩
  · rw [if_neg hzero]
    refine foldlM_scaleTicker_error _ ?_
    have hmissing := not_and.mp hrest hzero
    push Not at hmissing
    exact hmissing

/-- Sectors stay scalable while the tickers stay the same. -/
theorem scalable_congr {constrained scaled : Dict String ℚ} (hkeys : scaled.keys=constrained.keys)
    (sector : String) :
    Scalable maxSector sectorInfo totals scaled sector ↔
      Scalable maxSector sectorInfo totals constrained sector := by
  unfold Scalable
  rw [hkeys]

/-- The loop over sectors that can all be scaled scales every weight with
its sector. -/
theorem foldlM_scaleSector {sectors : List String} (hnodup : sectors.Nodup)
    {constrained : Dict String ℚ}
    (hscalable : ∀ sector∈sectors,Scalable maxSector sectorInfo totals constrained sector) :
    (sectors.map fun sector => (sector,totals sector)).foldlM (scaleSector rounded maxSector sectorInfo)
        constrained=
      .ok (constrained.mapItems fun ticker weight =>
        if ∃ sector∈sectors,sectorInfo.get? ticker=some sector then
          scaledWeight rounded maxSector sectorInfo totals ticker weight
        else weight) := by
  induction sectors generalizing constrained with
  | nil =>
    refine congrArg Except.ok (mapItems_id fun item _ => ?_).symm
    rw [if_neg]
    rintro ⟨sector,hsector,_⟩
    exact List.not_mem_nil hsector
  | cons first rest ih =>
    obtain ⟨hfirst,hrest⟩ := List.nodup_cons.mp hnodup
    have hafter : ∀ sector∈rest,Scalable maxSector sectorInfo totals
        (constrained.mapItems fun ticker weight =>
          if sectorInfo.get? ticker=some first then
            scaledWeight rounded maxSector sectorInfo totals ticker weight
          else weight) sector := fun sector hsector =>
      (scalable_congr (constrained.keys_mapItems _) sector).mpr
        (hscalable sector (List.mem_cons_of_mem _ hsector))
    rw [List.map_cons,List.foldlM_cons,scaleSector_ok (hscalable first List.mem_cons_self)]
    refine (ih hrest hafter).trans (congrArg Except.ok ?_)
    rw [mapItems_mapItems]
    refine mapItems_congr fun item _ => ?_
    by_cases hin : sectorInfo.get? item.1=some first
    · have hlater : ¬∃ sector∈rest,sectorInfo.get? item.1=some sector := by
        rintro ⟨sector,hsector,heq⟩
        exact hfirst (Option.some.inj (hin.symm.trans heq) ▸ hsector)
      rw [if_neg hlater,if_pos hin,if_pos ⟨first,List.mem_cons_self,hin⟩]
    · rw [if_neg hin]
      by_cases hlater : ∃ sector∈rest,sectorInfo.get? item.1=some sector
      · obtain ⟨sector,hsector,heq⟩ := hlater
        rw [if_pos ⟨sector,hsector,heq⟩,if_pos ⟨sector,List.mem_cons_of_mem _ hsector,heq⟩]
      · rw [if_neg hlater,if_neg]
        rintro ⟨sector,hsector,heq⟩
        refine hlater ⟨sector,(List.mem_cons.mp hsector).resolve_left ?_,heq⟩
        exact fun hsame => hin (hsame ▸ heq)

/-- The loop over sectors of which one cannot be scaled raises. -/
theorem foldlM_scaleSector_error {sectors : List String} {constrained : Dict String ℚ}
    (hnot : ∃ sector∈sectors,¬Scalable maxSector sectorInfo totals constrained sector) :
    ∃ failure,(sectors.map fun sector => (sector,totals sector)).foldlM
      (scaleSector rounded maxSector sectorInfo) constrained=.error failure := by
  induction sectors generalizing constrained with
  | nil =>
    obtain ⟨sector,hsector,_⟩ := hnot
    exact absurd hsector List.not_mem_nil
  | cons first rest ih =>
    rw [List.map_cons,List.foldlM_cons]
    by_cases hfirst : Scalable maxSector sectorInfo totals constrained first
    · rw [scaleSector_ok hfirst]
      refine ih ?_
      obtain ⟨sector,hsector,hbad⟩ := hnot
      refine ⟨sector,(List.mem_cons.mp hsector).resolve_left ?_,?_⟩
      · exact fun heq => hbad (heq ▸ hfirst)
      · rw [scalable_congr (constrained.keys_mapItems _)]
        exact hbad
    · obtain ⟨failure,hfailure⟩ := scaleSector_error hfirst
      rw [hfailure]
      exact ⟨failure,rfl⟩

end Sectors

section Step

variable (rounded : ℚ→ℚ) (maxSector : ℚ) (sectorInfo : Dict String String) (constrained : Dict String ℚ)

/-- The total of the tickers of a sector, added up one after the other. -/
def sectorSum (sector : String) : ℚ :=
  runningSum rounded (constrained.groupValues (sectorOf sectorInfo) sector)

/-- The loop over the sectors can scale the sector of every ticker. -/
def AllScalable : Prop :=
  ∀ ticker∈constrained.keys,
    Scalable maxSector sectorInfo (sectorSum rounded sectorInfo constrained) constrained
      (sectorOf sectorInfo ticker)

instance : Decidable (AllScalable rounded maxSector sectorInfo constrained) :=
  inferInstanceAs (Decidable (∀ ticker∈constrained.keys,_))

/-- The sectors and their totals. -/
theorem sectorWeights_items :
    (sectorWeights rounded sectorInfo constrained).items=
      (sectorWeights rounded sectorInfo constrained).keys.map fun sector =>
        (sector,sectorSum rounded sectorInfo constrained sector) := by
  rw [items_eq_map_value]
  refine List.map_congr_left fun sector _ => ?_
  exact congrArg (Prod.mk sector) (value_groupTotals _ constrained (sectorOf sectorInfo) sector)

variable {rounded maxSector sectorInfo constrained}

/-- If all sectors can be scaled every weight is scaled with its sector. -/
theorem scaleSectors_ok (hscalable : AllScalable rounded maxSector sectorInfo constrained) :
    scaleSectors rounded maxSector sectorInfo constrained=
      .ok (constrained.mapItems fun ticker weight =>
        scaledWeight rounded maxSector sectorInfo (sectorSum rounded sectorInfo constrained)
          ticker weight) := by
  have hall : ∀ sector∈(sectorWeights rounded sectorInfo constrained).keys,
      Scalable maxSector sectorInfo (sectorSum rounded sectorInfo constrained) constrained sector := by
    intro sector hsector
    obtain ⟨ticker,hticker,rfl⟩ := mem_keys_groupTotals.mp hsector
    exact hscalable ticker hticker
  have hnodup : (sectorWeights rounded sectorInfo constrained).keys.Nodup :=
    (sectorWeights rounded sectorInfo constrained).nodup
  unfold scaleSectors
  rw [sectorWeights_items,foldlM_scaleSector hnodup hall]
  refine congrArg Except.ok (mapItems_congr fun item hitem => ?_)
  have hkey : item.1∈constrained.keys := List.mem_map_of_mem hitem
  cases hsector : sectorInfo.get? item.1 with
  | none =>
    have hno : ¬∃ sector∈(sectorWeights rounded sectorInfo constrained).keys,none=some sector := by
      rintro ⟨_,_,h⟩
      exact nomatch h
    rw [if_neg hno,scaledWeight_none hsector]
  | some sector =>
    have hlabel : sectorOf sectorInfo item.1=sector := sectorOf_of_get? hsector
    rw [if_pos ⟨sector,mem_keys_groupTotals.mpr ⟨item.1,hkey,hlabel⟩,rfl⟩]

/-- If one sector cannot be scaled nothing is returned. -/
theorem scaleSectors_error (hnot : ¬AllScalable rounded maxSector sectorInfo constrained) :
    ∃ failure,scaleSectors rounded maxSector sectorInfo constrained=.error failure := by
  unfold AllScalable at hnot
  push Not at hnot
  obtain ⟨ticker,hticker,hbad⟩ := hnot
  unfold scaleSectors
  rw [sectorWeights_items]
  exact foldlM_scaleSector_error
    ⟨_,mem_keys_groupTotals.mpr ⟨ticker,hticker,rfl⟩,hbad⟩

end Step

section OverLimit

variable (rounded : ℚ→ℚ) (limits : Limits) (weights : Dict String ℚ)
  (sectorInfo : Dict String String)

/-- The total of the capped weights of a sector. -/
def cappedSum (sector : String) : ℚ :=
  sectorSum rounded sectorInfo (capSingles limits.maxSingle weights) sector

/-- A sector of weighted tickers whose capped weights are above the limit. -/
def OverLimit (sector : String) : Prop :=
  (∃ ticker∈weights.keys,sectorOf sectorInfo ticker=sector) ∧
    limits.maxSector< cappedSum rounded limits weights sectorInfo sector

/-- The constraints are applied without an exception, and the loop over the
sectors brings all weights of every sector above the limit down by one factor. -/
def ScalesOverLimit : Prop :=
  (∃ portfolio,applyConstraints rounded limits weights sectorInfo=.ok portfolio) ∧
    ∃ scaled,scaleSectors rounded limits.maxSector sectorInfo
        (capSingles limits.maxSingle weights)=.ok scaled ∧
      ∀ sector,OverLimit rounded limits weights sectorInfo sector→
        ∀ ticker∈weights.keys,sectorOf sectorInfo ticker=sector→
          scaled.value ticker=rounded ((capSingles limits.maxSingle weights).value ticker*
            rounded (limits.maxSector/ cappedSum rounded limits weights sectorInfo sector))

variable {rounded limits weights sectorInfo}

/-- The capped weights. -/
theorem value_capSingles {ticker : String} (hticker : ticker∈weights.keys) (maxSingle : ℚ) :
    (capSingles maxSingle weights).value ticker=min (weights.value ticker) maxSingle := by
  unfold capSingles
  rw [value_mapItems _ hticker]
  by_cases hover : maxSingle<weights.value ticker
  · rw [if_pos hover,min_eq_right hover.le]
  · rw [if_neg hover,min_eq_left (not_lt.mp hover)]

/-- Whether the constraints are applied depends on the loop over the sectors. -/
theorem applyConstraints_ok_iff :
    (∃ portfolio,applyConstraints rounded limits weights sectorInfo=.ok portfolio) ↔
      AllScalable rounded limits.maxSector sectorInfo (capSingles limits.maxSingle weights) := by
  unfold applyConstraints
  dsimp only
  constructor
  · rintro ⟨portfolio,hportfolio⟩
    by_contra hnot
    obtain ⟨failure,hfailure⟩ := scaleSectors_error hnot
    rw [hfailure] at hportfolio
    exact nomatch hportfolio
  · intro hscalable
    rw [scaleSectors_ok hscalable]
    exact ⟨_,rfl⟩

/-- If every sector above its limit is scaled, the weights of its tickers that the
map does not have are the same after the multiplication. -/
theorem unscaled_of_scales (hscales : ScalesOverLimit rounded limits weights sectorInfo)
    {ticker : String} (hticker : ticker∈weights.keys) (hunmapped : ticker∉sectorInfo.keys)
    (hover : limits.maxSector<
      cappedSum rounded limits weights sectorInfo (sectorOf sectorInfo ticker)) :
    rounded (min (weights.value ticker) limits.maxSingle*rounded (limits.maxSector/
      cappedSum rounded limits weights sectorInfo (sectorOf sectorInfo ticker)))=
        min (weights.value ticker) limits.maxSingle := by
  obtain ⟨happlied,scaled,hscaled,hall⟩ := hscales
  have hscalable := applyConstraints_ok_iff.mp happlied
  have hkeys : (capSingles limits.maxSingle weights).keys=weights.keys := weights.keys_mapItems _
  rw [scaleSectors_ok hscalable] at hscaled
  cases hscaled
  have hscale := hall _ ⟨⟨ticker,hticker,rfl⟩,hover⟩ ticker hticker rfl
  rw [value_mapItems _ (hkeys ▸ hticker),
    scaledWeight_none (sectorInfo.get?_eq_none.mpr hunmapped),value_capSingles hticker] at hscale
  exact hscale.symm

/-- The constraints are applied and scale every sector above its limit exactly
if each such sector can be scaled and the multiplication would change no ticker in
it that the map does not have. -/
theorem scalesOverLimit_iff (rounded : ℚ→ℚ) (limits : Limits) (weights : Dict String ℚ)
    (sectorInfo : Dict String String) :
    ScalesOverLimit rounded limits weights sectorInfo ↔
      AllScalable rounded limits.maxSector sectorInfo (capSingles limits.maxSingle weights) ∧
        ∀ ticker∈weights.keys,ticker∉sectorInfo.keys→
          limits.maxSector<
            cappedSum rounded limits weights sectorInfo (sectorOf sectorInfo ticker)→
          rounded (min (weights.value ticker) limits.maxSingle*rounded (limits.maxSector/
            cappedSum rounded limits weights sectorInfo (sectorOf sectorInfo ticker)))=
              min (weights.value ticker) limits.maxSingle := by
  have hkeys : (capSingles limits.maxSingle weights).keys=weights.keys := weights.keys_mapItems _
  constructor
  · exact fun hscales => ⟨applyConstraints_ok_iff.mp hscales.1,
      fun ticker hticker hunmapped hover => unscaled_of_scales hscales hticker hunmapped hover⟩
  · rintro ⟨hscalable,hunmapped⟩
    refine ⟨applyConstraints_ok_iff.mpr hscalable,_,scaleSectors_ok hscalable,?_⟩
    rintro sector ⟨_,hover⟩ ticker hticker rfl
    rw [value_mapItems _ (hkeys ▸ hticker)]
    cases hsector : sectorInfo.get? ticker with
    | some sector =>
      have hlabel : sectorOf sectorInfo ticker=sector := sectorOf_of_get? hsector
      rw [hlabel] at hover ⊢
      exact scaledWeight_over hsector hover
    | none =>
      have hsame := hunmapped ticker hticker (sectorInfo.get?_eq_none.mp hsector) hover
      rw [scaledWeight_none hsector,value_capSingles hticker,hsame]

end OverLimit

/-- Five tickers of one weight. -/
def fiveWeights : Dict String ℚ :=
  ((((Dict.empty.set "AAPL" (1/5)).set "MSFT" (1/5)).set "NVDA" (1/5)).set "005930" (1/5)).set
    "000660" (1/5)

/-- A map with a ticker that has no weight. -/
def mapWithStranger : Dict String String :=
  (((Dict.empty.set "AAPL" "Tech").set "MSFT" "Tech").set "NVDA" "Tech").set "TSLA" "Tech"

/-- A map without three of the tickers. -/
def mapWithGap : Dict String String := (Dict.empty.set "AAPL" "Tech").set "MSFT" "Tech"

/-- The limits of an engine without constraints of its own. -/
def defaultLimits : Limits := limitsOf fl (portfolioConstraints fl)

/-- Five floats of one weight. -/
def fiveFloats : Dict String ℚ := fiveWeights.mapItems fun _ weight => fl weight

/-- A ticker of the map without a weight in a sector above its limit is a
`KeyError`, and tickers that the map does not have are not scaled. -/
theorem stranger_raises :
    (applyConstraints fl defaultLimits fiveFloats mapWithStranger).isOk=false ∧
      ¬ScalesOverLimit fl defaultLimits fiveFloats mapWithStranger ∧
      ¬ScalesOverLimit fl defaultLimits fiveFloats mapWithGap := by
  have herror : (applyConstraints fl defaultLimits fiveFloats mapWithStranger).isOk=false := by
    decide +kernel
  refine ⟨herror,?_,?_⟩
  · rintro ⟨⟨portfolio,hportfolio⟩,_⟩
    rw [hportfolio] at herror
    exact nomatch herror
  · intro hscales
    have hticker : "NVDA"∈fiveFloats.keys := by decide +kernel
    have hunmapped : "NVDA"∉mapWithGap.keys := by decide +kernel
    have hsame := unscaled_of_scales hscales hticker hunmapped (by decide +kernel)
    exact absurd hsame (by decide +kernel)

/-- Four weights of one sector that are two fifths together. -/
def fourWeights : Dict String ℚ :=
  (((Dict.empty.set "AAPL" (5/100)).set "MSFT" (10/100)).set "NVDA" (17/100)).set "AVGO" (8/100)

/-- The sectors of the four and of a stranger. -/
def fourAndStranger : Dict String String := mapWithStranger.set "AVGO" "Tech"

/-- As floats the four weights add up to more than two fifths. -/
example : defaultLimits.maxSector< cappedSum fl defaultLimits
    (fourWeights.mapItems fun _ weight => fl weight) fourAndStranger "Tech" := by
  decide +kernel

end Aqts.PortfolioConstraints
