import Aqts.GroupTotals
import Aqts.OrderTypes
import Mathlib.Data.Rat.Defs
import Mathlib.Tactic.FieldSimp
import Mathlib.Tactic.Linarith
import Mathlib.Tactic.Ring

/-!
# The cap on the dollar weight

`PortfolioConstructionEngine._apply_currency_cap`: when the tickers of the US
markets weigh more than the cap together they are scaled down to it, and what
this frees goes to the other tickers in proportion to their weights. Weights
are exact rationals.
-/

namespace Aqts.CurrencyCap

open Dictionary OrderTypes

/-- `USD_WEIGHT_HARD_CAP`. -/
def usdWeightHardCap : ℚ := 60/100

/-- `us_markets`. -/
def usMarkets : List Market := [.nyse,.nasdaq,.amex]

/-- The market of a ticker is known and is one of the US markets. -/
def isUs (marketInfo : Dict String Market) (ticker : String) : Bool :=
  match marketInfo.get? ticker with
  | some market => usMarkets.contains market
  | none => false

/-- `us_tickers`. -/
def usTickers (weights : Dict String ℚ) (marketInfo : Dict String Market) : List String :=
  weights.keys.filter fun ticker => isUs marketInfo ticker && 0<weights.value ticker

/-- `kr_tickers`. -/
def krTickers (weights : Dict String ℚ) (marketInfo : Dict String Market) : List String :=
  weights.keys.filter fun ticker =>
    !(usTickers weights marketInfo).contains ticker && 0<weights.value ticker

/-- One round of the loop over `us_tickers`: the weight is scaled and what it
loses is freed. -/
def shrink (scale : ℚ) (s : Dict String ℚ×ℚ) (ticker : String) : Dict String ℚ×ℚ :=
  (s.1.set ticker (s.1.value ticker*scale),
    s.2+(s.1.value ticker-s.1.value ticker*scale))

/-- The freed weight goes to `kr_tickers`, in proportion to their weights or, if
these are all zero, in equal parts. -/
def redistribute (adjusted : Dict String ℚ) (kr : List String) (freed : ℚ) : Dict String ℚ :=
  let krTotal := (kr.map adjusted.value).sum
  if 0<krTotal ∧ 0<freed then adjusted.assign kr fun weight => weight+freed*(weight/krTotal)
  else if 0<freed ∧ kr≠[] then adjusted.assign kr fun weight => weight+freed/kr.length
  else adjusted

/-- `_apply_currency_cap`. -/
def applyCurrencyCap (weights : Dict String ℚ) (marketInfo : Dict String Market) :
    Dict String ℚ :=
  let us := usTickers weights marketInfo
  let usTotal := (us.map weights.value).sum
  if usTotal≤usdWeightHardCap ∨ usTotal<1/10000000000 then weights
  else
    let shrunk := us.foldl (shrink (usdWeightHardCap/usTotal)) (weights,0)
    redistribute shrunk.1 (krTickers weights marketInfo) shrunk.2

/-- A US ticker with a positive weight. -/
def usHeld (weights : Dict String ℚ) (marketInfo : Dict String Market) (ticker : String) : Bool :=
  isUs marketInfo ticker && 0<weights.value ticker

/-- Another ticker with a positive weight. -/
def krHeld (weights : Dict String ℚ) (marketInfo : Dict String Market) (ticker : String) : Bool :=
  !isUs marketInfo ticker && 0<weights.value ticker

/-- The other tickers with a positive weight, by their market. -/
theorem krTickers_eq (weights : Dict String ℚ) (marketInfo : Dict String Market) :
    krTickers weights marketInfo=weights.keys.filter (krHeld weights marketInfo) := by
  unfold krTickers
  refine List.filter_congr fun ticker hticker => ?_
  unfold krHeld
  by_cases hheld : 0<weights.value ticker
  · have hmem : (usTickers weights marketInfo).contains ticker=isUs marketInfo ticker := by
      unfold usTickers
      simp [List.contains_eq_mem,hticker,hheld]
    rw [hmem]
  · simp [hheld]

/-- The loop over `us_tickers` scales their weights and frees what they lose. -/
theorem foldl_shrink {us : List String} (scale : ℚ) {d : Dict String ℚ} (freed : ℚ)
    (hnodup : us.Nodup) (hkeys : ∀ ticker∈us,ticker∈d.keys) :
    us.foldl (shrink scale) (d,freed)=
      (d.assign us (·*scale),freed+(us.map fun ticker => d.value ticker*(1-scale)).sum) := by
  induction us generalizing d freed with
  | nil =>
    rw [List.map_nil,List.sum_nil,add_zero]
    rfl
  | cons first rest ih =>
    obtain ⟨hfirst,hrest⟩ := List.nodup_cons.mp hnodup
    have hthere := hkeys first List.mem_cons_self
    have hsub : ∀ ticker∈rest,ticker∈(d.set first (d.value first*scale)).keys := by
      intro ticker hticker
      rw [keys_set hthere]
      exact hkeys ticker (List.mem_cons_of_mem _ hticker)
    have hsame : rest.map (fun ticker =>
          (d.set first (d.value first*scale)).value ticker*(1-scale))=
        rest.map fun ticker => d.value ticker*(1-scale) := by
      refine List.map_congr_left fun ticker hticker => ?_
      have hother : ticker≠first := fun heq => hfirst (heq ▸ hticker)
      rw [value_set,if_neg hother]
    have hstep : shrink scale (d,freed) first=
        (d.set first (d.value first*scale),freed+(d.value first-d.value first*scale)) := rfl
    rw [List.foldl_cons,hstep,ih _ hrest hsub,hsame,List.map_cons,List.sum_cons]
    refine Prod.ext rfl ?_
    dsimp only
    ring

/-- Weight of the US tickers that are held. -/
def usWeight (weights : Dict String ℚ) (marketInfo : Dict String Market) : ℚ :=
  weights.total (usHeld weights marketInfo)

/-- Weight of the other tickers that are held. -/
def krWeight (weights : Dict String ℚ) (marketInfo : Dict String Market) : ℚ :=
  weights.total (krHeld weights marketInfo)

/-- A weight after the cap: the US weights are scaled down to it, and the others
get what this frees in proportion. -/
def cappedWeight (weights : Dict String ℚ) (marketInfo : Dict String Market) (ticker : String)
    (weight : ℚ) : ℚ :=
  if usHeld weights marketInfo ticker=true then
    weight*(usdWeightHardCap/usWeight weights marketInfo)
  else if krHeld weights marketInfo ticker=true then
    weight*(1+(usWeight weights marketInfo-usdWeightHardCap)/krWeight weights marketInfo)
  else weight

/-- A ticker that is held in the US is held in no other market. -/
theorem krHeld_of_usHeld {weights : Dict String ℚ} {marketInfo : Dict String Market}
    {ticker : String} (h : usHeld weights marketInfo ticker=true) :
    krHeld weights marketInfo ticker=false := by
  unfold usHeld at h
  unfold krHeld
  rw [(Bool.and_eq_true_iff.mp h).1]
  rfl

/-- The weights that are held are positive. -/
theorem held_pos {weights : Dict String ℚ} {marketInfo : Dict String Market} {ticker : String}
    (h : usHeld weights marketInfo ticker=true ∨ krHeld weights marketInfo ticker=true) :
    0<weights.value ticker := by
  unfold usHeld krHeld at h
  obtain h | h := h
  · exact of_decide_eq_true (Bool.and_eq_true_iff.mp h).2
  · exact of_decide_eq_true (Bool.and_eq_true_iff.mp h).2

/-- Without a positive total nothing is held in other markets. -/
theorem krHeld_eq_false {weights : Dict String ℚ} {marketInfo : Dict String Market}
    (h : ¬0<krWeight weights marketInfo) {item : String×ℚ} (hitem : item∈weights.items) :
    krHeld weights marketInfo item.1=false := by
  by_contra hheld
  rw [Bool.not_eq_false] at hheld
  have hvalue : weights.value item.1=item.2 := value_of_mem hitem
  have hpos : ∀ other∈weights.items,krHeld weights marketInfo other.1=true→0≤other.2 := by
    intro other hother hkr
    have hvalue' : weights.value other.1=other.2 := value_of_mem hother
    exact hvalue' ▸ (held_pos (.inr hkr)).le
  have hle := value_le_total hpos hitem hheld
  have hitempos := hvalue ▸ held_pos (.inr hheld)
  exact h (hitempos.trans_le hle)

/-- The US weights after the loop over them. -/
theorem shrunk_eq (weights : Dict String ℚ) (marketInfo : Dict String Market) (scale : ℚ) :
    (usTickers weights marketInfo).foldl (shrink scale) (weights,0)=
      (weights.mapItems fun ticker weight =>
        if usHeld weights marketInfo ticker=true then weight*scale else weight,
        usWeight weights marketInfo*(1-scale)) := by
  have hkeys : ∀ ticker∈usTickers weights marketInfo,ticker∈weights.keys :=
    fun ticker h => (List.mem_filter.mp h).1
  have hnodup : (usTickers weights marketInfo).Nodup := weights.nodup.filter _
  rw [foldl_shrink scale 0 hnodup hkeys,assign_eq_mapItems hnodup hkeys,zero_add,
    List.sum_map_mul_right]
  refine congrArg₂ Prod.mk (mapItems_congr fun item hitem => ?_) ?_
  · have hmem : item.1∈usTickers weights marketInfo ↔ usHeld weights marketInfo item.1=true := by
      unfold usTickers
      rw [List.mem_filter]
      exact and_iff_right (List.mem_map_of_mem hitem)
    by_cases hheld : usHeld weights marketInfo item.1=true
    · rw [if_pos (hmem.mpr hheld),if_pos hheld]
    · rw [if_neg (fun h => hheld (hmem.mp h)),if_neg hheld]
  · exact congrArg (·*(1-scale)) (sum_filter_keys weights (usHeld weights marketInfo))

/-- The other tickers after the loop over the US ones. -/
theorem krTotal_shrunk (weights : Dict String ℚ) (marketInfo : Dict String Market) (scale : ℚ) :
    ((weights.keys.filter (krHeld weights marketInfo)).map
        (weights.mapItems fun ticker weight =>
          if usHeld weights marketInfo ticker=true then weight*scale else weight).value).sum=
      krWeight weights marketInfo := by
  rw [← weights.keys_mapItems fun ticker weight =>
    if usHeld weights marketInfo ticker=true then weight*scale else weight,sum_filter_keys]
  refine total_mapItems_same fun item _ hkr => ?_
  refine if_neg fun hus => ?_
  rw [krHeld_of_usHeld hus] at hkr
  exact Bool.false_ne_true hkr

section Redistribution

variable (weights : Dict String ℚ) (marketInfo : Dict String Market)

/-- The weights after the loop over the US tickers. -/
def shrunkWeights : Dict String ℚ :=
  weights.mapItems fun ticker weight =>
    if usHeld weights marketInfo ticker=true then
      weight*(usdWeightHardCap/usWeight weights marketInfo)
    else weight

variable {weights marketInfo}

/-- What is freed goes to the other tickers, in proportion to their weights. -/
theorem redistribute_held (hkr : 0<krWeight weights marketInfo)
    (hfreed : 0<usWeight weights marketInfo-usdWeightHardCap) :
    redistribute (shrunkWeights weights marketInfo)
        (weights.keys.filter (krHeld weights marketInfo))
        (usWeight weights marketInfo-usdWeightHardCap)=
      weights.mapItems (cappedWeight weights marketInfo) := by
  have hnodup : (weights.keys.filter (krHeld weights marketInfo)).Nodup := weights.nodup.filter _
  unfold redistribute shrunkWeights
  dsimp only
  rw [krTotal_shrunk,if_pos ⟨hkr,hfreed⟩,assign_eq_mapItems hnodup,mapItems_mapItems]
  · refine mapItems_congr fun item hitem => ?_
    have hkey : item.1∈weights.keys := List.mem_map_of_mem hitem
    unfold cappedWeight
    by_cases hheld : usHeld weights marketInfo item.1=true
    · have hnot : item.1∉weights.keys.filter (krHeld weights marketInfo) := by
        intro hmem
        have hkrHeld := (List.mem_filter.mp hmem).2
        rw [krHeld_of_usHeld hheld] at hkrHeld
        exact Bool.false_ne_true hkrHeld
      rw [if_pos hheld,if_pos hheld,if_neg hnot]
    · rw [if_neg hheld,if_neg hheld]
      by_cases hkrHeld : krHeld weights marketInfo item.1=true
      · rw [if_pos (List.mem_filter.mpr ⟨hkey,hkrHeld⟩),if_pos hkrHeld]
        ring
      · rw [if_neg (fun h => hkrHeld (List.mem_filter.mp h).2),if_neg hkrHeld]
  · intro ticker hticker
    rw [Dict.keys_mapItems]
    exact (List.mem_filter.mp hticker).1

/-- Without other tickers that are held nothing is redistributed. -/
theorem redistribute_none (hkr : ¬0<krWeight weights marketInfo) :
    redistribute (shrunkWeights weights marketInfo)
        (weights.keys.filter (krHeld weights marketInfo))
        (usWeight weights marketInfo-usdWeightHardCap)=
      weights.mapItems (cappedWeight weights marketInfo) := by
  have hnone : weights.keys.filter (krHeld weights marketInfo)=[] := by
    refine List.filter_eq_nil_iff.mpr fun ticker hticker => ?_
    rw [krHeld_eq_false hkr (mem_items_value hticker)]
    exact Bool.false_ne_true
  unfold redistribute shrunkWeights
  dsimp only
  rw [krTotal_shrunk,if_neg (fun h => hkr h.1),if_neg (fun h => h.2 hnone)]
  refine mapItems_congr fun item hitem => ?_
  unfold cappedWeight
  rw [krHeld_eq_false hkr hitem,if_neg Bool.false_ne_true]

end Redistribution

/-- `_apply_currency_cap` as one comprehension: weights within the cap stay, and
otherwise every weight is the capped one. -/
theorem applyCurrencyCap_eq (weights : Dict String ℚ) (marketInfo : Dict String Market) :
    applyCurrencyCap weights marketInfo=
      if usWeight weights marketInfo≤usdWeightHardCap then weights
      else weights.mapItems (cappedWeight weights marketInfo) := by
  have hus : ((usTickers weights marketInfo).map weights.value).sum=
      usWeight weights marketInfo := sum_filter_keys weights (usHeld weights marketInfo)
  unfold applyCurrencyCap
  dsimp only
  rw [hus]
  by_cases hcap : usWeight weights marketInfo≤usdWeightHardCap
  · rw [if_pos (.inl hcap),if_pos hcap]
  · have hlarge : ¬usWeight weights marketInfo<1/10000000000 := by
      unfold usdWeightHardCap at hcap
      intro hsmall
      linarith
    have husPos : 0<usWeight weights marketInfo := by
      unfold usdWeightHardCap at hcap
      linarith
    have hfreed : usWeight weights marketInfo*(1-usdWeightHardCap/usWeight weights marketInfo)=
        usWeight weights marketInfo-usdWeightHardCap := by
      field_simp
    have hfreedPos : 0<usWeight weights marketInfo-usdWeightHardCap := by linarith
    rw [if_neg (not_or.mpr ⟨hcap,hlarge⟩),if_neg hcap,shrunk_eq,krTickers_eq]
    dsimp only
    rw [hfreed]
    by_cases hkr : 0<krWeight weights marketInfo
    · exact redistribute_held hkr hfreedPos
    · exact redistribute_none hkr

section Totals

variable (weights : Dict String ℚ) (marketInfo : Dict String Market)

/-- All weights after the cap, which acts on US weights above it only. -/
def cappedWeights : Dict String ℚ :=
  weights.mapItems fun ticker weight =>
    if usWeight weights marketInfo≤usdWeightHardCap then weight
    else cappedWeight weights marketInfo ticker weight

/-- `_apply_currency_cap` returns the weights after the cap. -/
theorem applyCurrencyCap_cappedWeights :
    applyCurrencyCap weights marketInfo=cappedWeights weights marketInfo := by
  rw [applyCurrencyCap_eq]
  unfold cappedWeights
  by_cases hcap : usWeight weights marketInfo≤usdWeightHardCap
  · rw [if_pos hcap]
    exact (mapItems_id fun _ _ => if_pos hcap).symm
  · rw [if_neg hcap]
    exact mapItems_congr fun _ _ => (if_neg hcap).symm

end Totals

section NonNegative

variable {weights : Dict String ℚ} {marketInfo : Dict String Market}
  (hpos : ∀ item∈weights.items,0≤ item.2)
include hpos

/-- The US tickers that are not held weigh nothing. -/
theorem usWeight_eq : usWeight weights marketInfo=weights.total (isUs marketInfo) := by
  refine total_support fun item hitem hne => ?_
  have hvalue : weights.value item.1=item.2 := value_of_mem hitem
  refine le_antisymm (not_lt.mp fun hlt => hne ?_) (hpos item hitem)
  unfold usHeld
  rw [decide_eq_true (hvalue ▸ hlt),Bool.and_true]

/-- The other tickers that are not held weigh nothing. -/
theorem krWeight_eq :
    krWeight weights marketInfo=weights.total fun ticker => !isUs marketInfo ticker := by
  refine total_support fun item hitem hne => ?_
  have hvalue : weights.value item.1=item.2 := value_of_mem hitem
  refine le_antisymm (not_lt.mp fun hlt => hne ?_) (hpos item hitem)
  unfold krHeld
  rw [decide_eq_true (hvalue ▸ hlt),Bool.and_true]

/-- The other tickers have no negative weight together. -/
theorem krWeight_nonneg : 0≤krWeight weights marketInfo := by
  rw [krWeight_eq hpos]
  exact total_nonneg fun item hitem _ => hpos item hitem

/-- The US weights are scaled by one factor. -/
theorem cappedWeight_us {item : String×ℚ} (hitem : item∈weights.items)
    (hus : isUs marketInfo item.1=true) :
    cappedWeight weights marketInfo item.1 item.2=
      item.2*(usdWeightHardCap/usWeight weights marketInfo) := by
  have hvalue : weights.value item.1=item.2 := value_of_mem hitem
  unfold cappedWeight
  by_cases hlt : 0< item.2
  · have hheld : usHeld weights marketInfo item.1=true :=
      Bool.and_eq_true_iff.mpr ⟨hus,decide_eq_true (hvalue ▸ hlt)⟩
    rw [if_pos hheld]
  · have hzero := le_antisymm (not_lt.mp hlt) (hpos item hitem)
    rw [hzero,zero_mul,zero_mul,ite_self,ite_self]

/-- The other weights are scaled by one factor. -/
theorem cappedWeight_kr {item : String×ℚ} (hitem : item∈weights.items)
    (hkr : isUs marketInfo item.1=false) :
    cappedWeight weights marketInfo item.1 item.2=
      item.2*(1+(usWeight weights marketInfo-usdWeightHardCap)/krWeight weights marketInfo) := by
  have hvalue : weights.value item.1=item.2 := value_of_mem hitem
  unfold cappedWeight
  by_cases hlt : 0< item.2
  · have hnot : usHeld weights marketInfo item.1≠true := by
      unfold usHeld
      rw [hkr]
      exact Bool.false_ne_true
    have hheld : krHeld weights marketInfo item.1=true := by
      unfold krHeld
      rw [hkr,decide_eq_true (hvalue ▸ hlt)]
      rfl
    rw [if_neg hnot,if_pos hheld]
  · have hzero := le_antisymm (not_lt.mp hlt) (hpos item hitem)
    rw [hzero,zero_mul,zero_mul,ite_self,ite_self]

/-- No weight becomes negative. -/
theorem applyCurrencyCap_nonneg :
    ∀ item∈(applyCurrencyCap weights marketInfo).items,0≤ item.2 := by
  intro item hitem
  rw [applyCurrencyCap_eq] at hitem
  by_cases hcap : usWeight weights marketInfo≤usdWeightHardCap
  · rw [if_pos hcap] at hitem
    exact hpos item hitem
  · rw [if_neg hcap] at hitem
    obtain ⟨before,hbefore,rfl⟩ := mem_mapItems.mp hitem
    have hnonneg := hpos before hbefore
    have hfreed : 0≤usWeight weights marketInfo-usdWeightHardCap := by linarith
    have hcapPos : 0≤usdWeightHardCap := by
      unfold usdWeightHardCap
      norm_num
    have husPos : 0≤usWeight weights marketInfo := by linarith
    have hkrPos : 0≤krWeight weights marketInfo := krWeight_nonneg hpos
    dsimp only
    cases hus : isUs marketInfo before.1 with
    | true =>
      rw [cappedWeight_us hpos hbefore hus]
      exact mul_nonneg hnonneg (div_nonneg hcapPos husPos)
    | false =>
      rw [cappedWeight_kr hpos hbefore hus]
      exact mul_nonneg hnonneg (add_nonneg zero_le_one (div_nonneg hfreed hkrPos))

/-- The US tickers together weigh what they weighed, but at most the cap. -/
theorem applyCurrencyCap_us :
    (applyCurrencyCap weights marketInfo).total (isUs marketInfo)=
      min (weights.total (isUs marketInfo)) usdWeightHardCap := by
  rw [applyCurrencyCap_eq,← usWeight_eq hpos]
  by_cases hcap : usWeight weights marketInfo≤usdWeightHardCap
  · rw [if_pos hcap,min_eq_left hcap,usWeight_eq hpos]
  · have hne : usWeight weights marketInfo≠0 := by
      unfold usdWeightHardCap at hcap
      intro hzero
      rw [hzero] at hcap
      exact hcap (by norm_num)
    rw [if_neg hcap,min_eq_right (not_le.mp hcap).le,
      total_mapItems_scaled fun item hitem => cappedWeight_us hpos hitem,← usWeight_eq hpos,
      mul_div_cancel₀ _ hne]

/-- The other tickers together take what the cap frees. -/
theorem applyCurrencyCap_kr (hkr : 0<krWeight weights marketInfo) :
    (applyCurrencyCap weights marketInfo).total (fun ticker => !isUs marketInfo ticker)=
      krWeight weights marketInfo+
        (usWeight weights marketInfo-min (usWeight weights marketInfo) usdWeightHardCap) := by
  rw [applyCurrencyCap_eq]
  by_cases hcap : usWeight weights marketInfo≤usdWeightHardCap
  · rw [if_pos hcap,min_eq_left hcap,sub_self,add_zero,krWeight_eq hpos]
  · have hscaled : ∀ item∈weights.items,(!isUs marketInfo item.1)=true→
        cappedWeight weights marketInfo item.1 item.2=item.2*
          (1+(usWeight weights marketInfo-usdWeightHardCap)/krWeight weights marketInfo) :=
      fun item hitem hnot => cappedWeight_kr hpos hitem (Bool.not_inj hnot)
    rw [if_neg hcap,min_eq_right (not_le.mp hcap).le,total_mapItems_scaled hscaled,
      ← krWeight_eq hpos,mul_add,mul_one,mul_div_cancel₀ _ hkr.ne']

/-- Two tickers of one group keep the ratio of their weights. -/
theorem applyCurrencyCap_ratio {first second : String} (hfirst : first∈weights.keys)
    (hsecond : second∈weights.keys)
    (hsame : isUs marketInfo first=isUs marketInfo second) :
    (applyCurrencyCap weights marketInfo).value first/
        (applyCurrencyCap weights marketInfo).value second=
      weights.value first/weights.value second := by
  rw [applyCurrencyCap_eq]
  by_cases hcap : usWeight weights marketInfo≤usdWeightHardCap
  · rw [if_pos hcap]
  · have husPos : 0<usWeight weights marketInfo := by
      unfold usdWeightHardCap at hcap
      linarith
    have hkrPos : 0≤krWeight weights marketInfo := krWeight_nonneg hpos
    rw [if_neg hcap,value_mapItems _ hfirst,value_mapItems _ hsecond]
    cases hus : isUs marketInfo second with
    | true =>
      have hcapNe : usdWeightHardCap≠0 := by
        unfold usdWeightHardCap
        norm_num
      rw [cappedWeight_us hpos (mem_items_value hfirst) (hsame.trans hus),
        cappedWeight_us hpos (mem_items_value hsecond) hus,
        mul_div_mul_right _ _ (div_ne_zero hcapNe husPos.ne')]
    | false =>
      have hshare : 0≤(usWeight weights marketInfo-usdWeightHardCap)/
          krWeight weights marketInfo := div_nonneg (by linarith) hkrPos
      have hfactor : 1+(usWeight weights marketInfo-usdWeightHardCap)/
          krWeight weights marketInfo≠0 := by linarith
      rw [cappedWeight_kr hpos (mem_items_value hfirst) (hsame.trans hus),
        cappedWeight_kr hpos (mem_items_value hsecond) hus,mul_div_mul_right _ _ hfactor]

end NonNegative

/-- The cap keeps the tickers. -/
theorem applyCurrencyCap_keys (weights : Dict String ℚ) (marketInfo : Dict String Market) :
    (applyCurrencyCap weights marketInfo).keys=weights.keys := by
  rw [applyCurrencyCap_eq]
  split
  · rfl
  · exact weights.keys_mapItems _

/-- What `_apply_currency_cap` does to weights that are not negative: the US
tickers weigh as much as before but at most the cap, no weight becomes negative,
weights of one group keep their ratios, the grand total stays when a ticker
of another market is held, and a second application changes nothing. -/
theorem applyCurrencyCap_account (weights : Dict String ℚ) (marketInfo : Dict String Market)
    (hpos : ∀ item∈weights.items,0≤ item.2) :
    let capped := applyCurrencyCap weights marketInfo
    capped.keys=weights.keys ∧
    capped.total (isUs marketInfo)=min (weights.total (isUs marketInfo)) usdWeightHardCap ∧
    (∀ item∈capped.items,0≤ item.2) ∧
    (∀ first∈weights.keys,∀ second∈weights.keys,
      isUs marketInfo first=true→isUs marketInfo second=true→
        capped.value first/capped.value second=weights.value first/weights.value second) ∧
    (∀ first∈weights.keys,∀ second∈weights.keys,
      isUs marketInfo first=false→0<weights.value first→
      isUs marketInfo second=false→0<weights.value second→
        capped.value first/capped.value second=weights.value first/weights.value second) ∧
    ((∃ ticker∈weights.keys,isUs marketInfo ticker=false ∧ 0<weights.value ticker)→
      capped.values.sum=weights.values.sum) ∧
    applyCurrencyCap capped marketInfo=capped := by
  intro capped
  have hnonneg : ∀ item∈capped.items,0≤ item.2 := applyCurrencyCap_nonneg hpos
  have hus : capped.total (isUs marketInfo)=
      min (weights.total (isUs marketInfo)) usdWeightHardCap := applyCurrencyCap_us hpos
  refine ⟨applyCurrencyCap_keys weights marketInfo,hus,hnonneg,?_,?_,?_,?_⟩
  · exact fun first hfirst second hsecond husFirst husSecond =>
      applyCurrencyCap_ratio hpos hfirst hsecond (husFirst.trans husSecond.symm)
  · exact fun first hfirst second hsecond hkrFirst _ hkrSecond _ =>
      applyCurrencyCap_ratio hpos hfirst hsecond (hkrFirst.trans hkrSecond.symm)
  · rintro ⟨ticker,hticker,hother,hheld⟩
    have hkr : 0<krWeight weights marketInfo := by
      rw [krWeight_eq hpos]
      refine hheld.trans_le (value_le_total (fun item hitem _ => hpos item hitem)
        (mem_items_value hticker) ?_)
      rw [hother]
      rfl
    rw [← total_all,← total_all,total_split capped _ (isUs marketInfo),
      total_split weights _ (isUs marketInfo)]
    have hkrAfter : capped.total (fun other => !isUs marketInfo other)=_ :=
      applyCurrencyCap_kr hpos hkr
    have husBefore : usWeight weights marketInfo=_ := usWeight_eq hpos
    have hkrBefore : krWeight weights marketInfo=_ := krWeight_eq hpos
    simp only [Bool.true_and]
    rw [hus,hkrAfter,husBefore,hkrBefore]
    ring
  · have hle : usWeight capped marketInfo≤usdWeightHardCap := by
      rw [usWeight_eq hnonneg,hus]
      exact min_le_right _ _
    rw [applyCurrencyCap_eq,if_pos hle]

/-- Two US tickers and a Korean one. -/
def mixedWeights : Dict String ℚ :=
  ((Dict.empty.set "AAPL" (6/10)).set "MSFT" (2/10)).set "005930" (2/10)

/-- Their markets. -/
def mixedMarkets : Dict String Market :=
  ((Dict.empty.set "AAPL" .nasdaq).set "MSFT" .nyse).set "005930" .krx

/-- A US weight of eighty percent comes down to sixty, and the Korean ticker
gets the rest. -/
theorem applyCurrencyCap_account_mixed :
    (applyCurrencyCap mixedWeights mixedMarkets).total (isUs mixedMarkets)=
        min (mixedWeights.total (isUs mixedMarkets)) usdWeightHardCap ∧
      (applyCurrencyCap mixedWeights mixedMarkets).items=
        [("AAPL",45/100),("MSFT",15/100),("005930",40/100)] :=
  ⟨(applyCurrencyCap_account mixedWeights mixedMarkets (by decide +kernel)).2.1,
    by decide +kernel⟩

end Aqts.CurrencyCap
