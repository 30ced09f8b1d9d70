import Aqts.CurrencyCap
import Aqts.PortfolioLimits
import Aqts.StrategyWeights

/-!
# The construction of a target portfolio

`PortfolioConstructionEngine.construct` after its optimiser, in exact arithmetic: the
cap on the dollar weight comes first, then the constraints with their
normalisation, then the cash share. What the optimiser returns is a parameter.
The later steps do not know of the cap: what they take from the other tickers
raises the US ones, and a ticker without a market is no US ticker to the cap but
is allocated on a US market.
-/

namespace Aqts.PortfolioConstruction

open Dictionary OrderTypes CurrencyCap PortfolioConstraints PortfolioLimits StrategyWeights

/-- `CASH_RATIO_MIN`. -/
def cashRatioMin : RiskProfile→ℚ
  | .conservative => 15/100
  | .balanced => 5/100
  | .aggressive => 0
  | .dividend => 10/100

/-- The engine. -/
structure Engine where
  /-- `risk_profile`. -/
  riskProfile : RiskProfile
  /-- `constraints`. -/
  constraints : Dict String ℚ

/-- `d or fallback`: an empty dictionary counts as none. -/
def orElse {α : Type} (d : Option (Dict String α)) (fallback : Dict String α) : Dict String α :=
  match d with
  | some given => if given.items.isEmpty then fallback else given
  | none => fallback

/-- `PortfolioConstructionEngine(risk_profile, constraints)`. -/
def Engine.create (riskProfile : RiskProfile) (constraints : Option (Dict String ℚ)) : Engine :=
  ⟨riskProfile,orElse constraints (portfolioConstraints id)⟩

/-- The limits that the engine applies. -/
def Engine.limits (engine : Engine) : Limits := limitsOf id engine.constraints

/-- The arguments of `construct` that are used after the optimiser. -/
structure ConstructRequest where
  /-- `ensemble_signals`. -/
  ensembleSignals : Dict String ℚ
  /-- `current_portfolio`. -/
  currentPortfolio : Dict String ℚ
  /-- `seed_capital`. -/
  seedCapital : ℚ
  /-- `method`. -/
  method : String
  /-- `sector_info`. -/
  sectorInfo : Option (Dict String String)
  /-- `market_info`. -/
  marketInfo : Option (Dict String Market)

/-- An allocation. -/
structure TargetAllocation where
  /-- Ticker. -/
  ticker : String
  /-- Market. -/
  market : Market
  /-- Weight to reach. -/
  targetWeight : ℚ
  /-- Weight now. -/
  currentWeight : ℚ
  /-- Score of the signal. -/
  signalScore : ℚ
  /-- Sector, or the empty text. -/
  sector : String

/-- A target portfolio. -/
structure TargetPortfolio where
  /-- Its allocations. -/
  allocations : List TargetAllocation
  /-- `total_value`. -/
  totalValue : ℚ
  /-- `cash_ratio`. -/
  cashRatio : ℚ
  /-- `optimization_method`. -/
  optimizationMethod : String

/-- The sector map of a request. -/
def ConstructRequest.sectors (request : ConstructRequest) : Dict String String :=
  orElse request.sectorInfo Dict.empty

/-- The market map of a request: without one every signal is on the NYSE. -/
def ConstructRequest.markets (request : ConstructRequest) : Dict String Market :=
  orElse request.marketInfo (request.ensembleSignals.mapItems fun _ _ => .nyse)

/-- The market that a ticker is allocated on. -/
def ConstructRequest.marketOf (request : ConstructRequest) (ticker : String) : Market :=
  (request.markets.get? ticker).getD .nyse

/-- The weights make room for the least cash. -/
def scaleForCash (minCash : ℚ) (weights : Dict String ℚ) : Dict String ℚ :=
  let totalWeight := weights.values.sum
  if 1-minCash<totalWeight ∧ 0< minCash then
    weights.mapItems fun _ weight => weight*((1-minCash)/totalWeight)
  else weights

/-- The allocation of a ticker. -/
def allocate (request : ConstructRequest) (item : String×ℚ) : TargetAllocation where
  ticker := item.1
  market := request.marketOf item.1
  targetWeight := item.2
  currentWeight := (request.currentPortfolio.get? item.1).getD 0
  signalScore := (request.ensembleSignals.get? item.1).getD 0
  sector := (request.sectors.get? item.1).getD ""

/-- `construct`, from the weights that the optimiser returns. -/
def construct (engine : Engine) (request : ConstructRequest) (optimised : Dict String ℚ) :
    Except Failure TargetPortfolio := do
  let capped := applyCurrencyCap optimised request.markets
  let weights ← applyConstraints id engine.limits capped request.sectors
  let minCash := cashRatioMin engine.riskProfile
  let invested := scaleForCash minCash weights
  return {
    allocations := (invested.items.filter fun item => 1/10000< item.2).map (allocate request)
    totalValue := request.seedCapital
    cashRatio := max minCash (1-weights.values.sum)
    optimizationMethod := request.method }

/-- The target weight of the US allocations. -/
def TargetPortfolio.usWeight (portfolio : TargetPortfolio) : ℚ :=
  ((portfolio.allocations.filter fun allocation => usMarkets.contains allocation.market).map
    TargetAllocation.targetWeight).sum

section Shares

variable (engine : Engine) (request : ConstructRequest) (optimised : Dict String ℚ)

/-- The shares of the tickers in the portfolio. -/
def targetShares : Dict String ℚ :=
  shares engine.limits (cappedWeights optimised request.markets) request.sectors

/-- What a share is multiplied by: the invested part of the portfolio over the sum
of the shares. -/
def investFactor : ℚ :=
  if 0<(targetShares engine request optimised).values.sum then
    (1-cashRatioMin engine.riskProfile)/(targetShares engine request optimised).values.sum
  else 1

/-- The ticker is allocated, on a US market. -/
def isUsAllocated (ticker : String) : Bool :=
  usMarkets.contains (request.marketOf ticker) &&
    1/10000<(targetShares engine request optimised).value ticker*
      investFactor engine request optimised

/-- The shares of the US tickers that are allocated. -/
def usShares : ℚ :=
  (targetShares engine request optimised).total (isUsAllocated engine request optimised)

/-- The sectors of a request can all be scaled. -/
def Constructible : Prop :=
  AllScalable id engine.limits.maxSector request.sectors
    (capSingles engine.limits.maxSingle (cappedWeights optimised request.markets))

instance : Decidable (Constructible engine request optimised) :=
  inferInstanceAs (Decidable (AllScalable _ _ _ _))

end Shares

/-- The least cash is not negative and less than everything. -/
theorem cashRatioMin_range (riskProfile : RiskProfile) :
    0≤ cashRatioMin riskProfile ∧ cashRatioMin riskProfile<1 := by
  cases riskProfile with
  | conservative => norm_num [cashRatioMin]
  | balanced => norm_num [cashRatioMin]
  | aggressive => norm_num [cashRatioMin]
  | dividend => norm_num [cashRatioMin]

/-- Normalised weights with room for cash. -/
theorem scaleForCash_normalise {minCash : ℚ} (hrange : 0≤ minCash ∧ minCash<1)
    (d : Dict String ℚ) :
    scaleForCash minCash (normalise id d)=
      d.mapItems fun _ weight =>
        weight*if 0<d.values.sum then (1-minCash)/d.values.sum else 1 := by
  unfold scaleForCash
  dsimp only
  by_cases hpos : 0<d.values.sum
  · rw [sum_normalise hpos,if_pos hpos,div_one]
    have hnormalise := normalise_of_pos hpos
    by_cases hcash : 0< minCash
    · rw [if_pos ⟨by linarith,hcash⟩,hnormalise,mapItems_mapItems]
      refine mapItems_congr fun item _ => ?_
      ring
    · have hzero := le_antisymm (not_lt.mp hcash) hrange.1
      rw [if_neg (fun h => hcash h.2),hnormalise,hzero]
      refine mapItems_congr fun item _ => ?_
      ring
  · have hless : ¬1-minCash<d.values.sum := by linarith
    rw [normalise_of_not_pos hpos,if_neg (fun h => hless h.1),if_neg hpos]
    refine (mapItems_id fun item _ => ?_).symm
    exact mul_one item.2

section Allocations

variable {engine : Engine} {request : ConstructRequest} {optimised : Dict String ℚ}

/-- The target weight of the US allocations of some weights. -/
theorem usWeight_allocate (request : ConstructRequest) (d : Dict String ℚ) :
    ((((d.items.filter fun item => 1/10000< item.2).map (allocate request)).filter
        fun allocation => usMarkets.contains allocation.market).map
          TargetAllocation.targetWeight).sum=
      d.total fun ticker =>
        usMarkets.contains (request.marketOf ticker) && 1/10000<d.value ticker := by
  have hsum := sum_filter_items d.items fun ticker =>
    usMarkets.contains (request.marketOf ticker) && 1/10000<d.value ticker
  rw [List.filter_map,List.map_map,List.filter_filter]
  refine Eq.trans ?_ hsum
  refine congrArg (fun items : List (String×ℚ) => (items.map Prod.snd).sum)
    (List.filter_congr fun item hitem => ?_)
  have hvalue : d.value item.1=item.2 := value_of_mem hitem
  rw [hvalue]
  rfl

/-- A request whose sectors can be scaled gets a portfolio. -/
theorem construct_ok (h : Constructible engine request optimised) :
    ∃ portfolio,construct engine request optimised=.ok portfolio := by
  unfold construct
  dsimp only
  rw [applyCurrencyCap_cappedWeights,applyConstraints_eq h]
  exact ⟨_,rfl⟩

/-- Only such a request gets one, which allocates the shares that are large enough. -/
theorem allocations_construct {portfolio : TargetPortfolio}
    (h : construct engine request optimised=.ok portfolio) :
    Constructible engine request optimised ∧
      portfolio.allocations=(((targetShares engine request optimised).mapItems
        fun _ share => share*investFactor engine request optimised).items.filter
          fun item => 1/10000< item.2).map (allocate request) := by
  have hconstructible : Constructible engine request optimised := by
    refine applyConstraints_ok_iff.mp ?_
    unfold construct at h
    dsimp only at h
    rw [applyCurrencyCap_cappedWeights] at h
    cases happlied : applyConstraints id engine.limits
        (cappedWeights optimised request.markets) request.sectors with
    | error failure =>
      rw [happlied] at h
      exact nomatch h
    | ok weights => exact ⟨weights,rfl⟩
  refine ⟨hconstructible,?_⟩
  unfold construct at h
  dsimp only at h
  rw [applyCurrencyCap_cappedWeights,applyConstraints_eq hconstructible] at h
  cases h
  dsimp only
  rw [scaleForCash_normalise (cashRatioMin_range _)]
  rfl

/-- In such a portfolio the US weight is that of the US shares. -/
theorem construct_usWeight {portfolio : TargetPortfolio}
    (h : construct engine request optimised=.ok portfolio) :
    Constructible engine request optimised ∧
      portfolio.usWeight=
        usShares engine request optimised*investFactor engine request optimised := by
  obtain ⟨hconstructible,hallocations⟩ := allocations_construct h
  refine ⟨hconstructible,?_⟩
  unfold TargetPortfolio.usWeight
  rw [hallocations]
  refine (usWeight_allocate request _).trans ?_
  refine (total_mapItems_scaled fun item _ _ => rfl).trans ?_
  refine congrArg (·*investFactor engine request optimised) (total_congr fun item hitem => ?_)
  have hkey : item.1∈(targetShares engine request optimised).keys := List.mem_map_of_mem hitem
  have hvalue := value_mapItems (fun _ weight => weight*investFactor engine request optimised) hkey
  unfold isUsAllocated
  rw [← hvalue]

end Allocations

section Cap

variable (engine : Engine) (request : ConstructRequest) (optimised : Dict String ℚ)

/-- Every portfolio that is returned keeps the cap on the dollar weight. -/
def KeepsDollarCap : Prop :=
  ∀ portfolio,construct engine request optimised=.ok portfolio→
    portfolio.usWeight≤usdWeightHardCap

/-- What the limits take from a weight: what is above the limit for one ticker, and
what the sector loses; a raised ticker loses what its weight is above the least one. -/
def lossOf (ticker : String) (weight : ℚ) : ℚ :=
  if ticker∈raised engine.limits request.sectors (cappedWeights optimised request.markets) then
    weight-1/(engine.limits.minPositions*2)
  else max 0 (weight-engine.limits.maxSingle)+
    min weight engine.limits.maxSingle*(1-sectorFactor request.sectors engine.limits.maxSector
      (sectorTotal request.sectors
        (capSingles engine.limits.maxSingle (cappedWeights optimised request.markets))) ticker)

/-- What the limits take from the tickers of a group. -/
def lost (p : String→Bool) : ℚ :=
  ((cappedWeights optimised request.markets).mapItems (lossOf engine request optimised)).total p

/-- The US shares that the cap does not count, as those of tickers without a market,
less those that it counts but that are too small to be allocated. -/
def escaped : ℚ :=
  (targetShares engine request optimised).total (fun ticker =>
      !usHeld optimised request.markets ticker && isUsAllocated engine request optimised ticker)-
    (targetShares engine request optimised).total fun ticker =>
      usHeld optimised request.markets ticker && !isUsAllocated engine request optimised ticker

variable {engine request optimised}

/-- Without raised tickers the US shares are within the cap, if every ticker has a
market. -/
theorem usShares_le_cap (hpos : ∀ item∈optimised.items,0≤ item.2)
    (hsingle : 0<engine.limits.maxSingle)
    (hsector : 0<engine.limits.maxSector)
    (hmarket : ∀ ticker∈optimised.keys,ticker∈request.markets.keys)
    (hfull : raisedTickers engine.limits.minPositions
      (cappedWeights optimised request.markets)
      (keptWeights engine.limits (cappedWeights optimised request.markets) request.sectors)=[]) :
    0≤usShares engine request optimised ∧
      usShares engine request optimised≤usdWeightHardCap := by
  have hcapped : ∀ item∈(cappedWeights optimised request.markets).items,0≤ item.2 := by
    rw [← applyCurrencyCap_cappedWeights]
    exact applyCurrencyCap_nonneg hpos
  have hshares : targetShares engine request optimised=_ := shares_of_full hfull
  have hus : ∀ item∈(cappedWeights optimised request.markets).items,
      isUsAllocated engine request optimised item.1=true→isUs request.markets item.1=true := by
    intro item hitem hallocated
    have hkey : item.1∈(cappedWeights optimised request.markets).keys :=
      List.mem_map_of_mem hitem
    unfold cappedWeights at hkey
    rw [Dict.keys_mapItems] at hkey
    obtain ⟨market,hmarketOf⟩ := request.markets.mem_keys.mp (hmarket item.1 hkey)
    have hon := (Bool.and_eq_true_iff.mp hallocated).1
    unfold ConstructRequest.marketOf at hon
    unfold isUs
    rw [hmarketOf] at hon ⊢
    exact hon
  have hmost : usShares engine request optimised≤
      (cappedWeights optimised request.markets).total
        (isUsAllocated engine request optimised) := by
    have hsame := mapItems_id (d := cappedWeights optimised request.markets)
      (f := fun _ weight => weight) fun _ _ => rfl
    unfold usShares
    rw [hshares]
    conv_rhs => rw [← hsame]
    refine total_le_total fun item hitem _ => ?_
    exact (keptWeight_le hsingle hsector hcapped hitem).trans (min_le_left _ _)
  constructor
  · refine total_nonneg fun item hitem _ => ?_
    rw [hshares] at hitem
    obtain ⟨before,hbefore,rfl⟩ := mem_mapItems.mp hitem
    exact keptWeight_nonneg hsingle hsector (hcapped before hbefore)
  · refine hmost.trans ((total_mono hcapped hus).trans ?_)
    rw [← applyCurrencyCap_cappedWeights,applyCurrencyCap_us hpos]
    exact min_le_right _ _

/-- The cap is kept where the limits leave enough: every ticker has a market, no
ticker is raised, and the shares sum to at least the invested part. -/
theorem keepsDollarCap_of_total (hpos : ∀ item∈optimised.items,0≤ item.2)
    (hsingle : 0<engine.limits.maxSingle)
    (hsector : 0<engine.limits.maxSector)
    (hmarket : ∀ ticker∈optimised.keys,ticker∈request.markets.keys)
    (hfull : raisedTickers engine.limits.minPositions
      (cappedWeights optimised request.markets)
      (keptWeights engine.limits (cappedWeights optimised request.markets) request.sectors)=[])
    (htotal : 1-cashRatioMin engine.riskProfile≤
      (targetShares engine request optimised).values.sum) :
    KeepsDollarCap engine request optimised := by
  obtain ⟨hnonneg,hcap⟩ := usShares_le_cap hpos hsingle hsector hmarket hfull
  have hcash := (cashRatioMin_range engine.riskProfile).2
  have hsum : 0<(targetShares engine request optimised).values.sum := by linarith
  have hfactor : investFactor engine request optimised≤1 := by
    unfold investFactor
    rw [if_pos hsum]
    exact (div_le_one hsum).mpr htotal
  intro portfolio hportfolio
  rw [(construct_usWeight hportfolio).2]
  exact (mul_le_of_le_one_right hnonneg hfactor).trans hcap

end Cap

end Aqts.PortfolioConstruction
