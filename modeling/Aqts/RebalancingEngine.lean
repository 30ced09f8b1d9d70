import Aqts.Rebalancing

/-!
# Scheduled and emergency rebalancing

`RebalancingEngine`: a scheduled rebalancing goes to the constructed portfolio, an
emergency one to the defensive portfolio, which keeps three tenths of every
holding. The result holds the orders and what is recorded with them. The trigger of
an emergency compares the loss since the seed with the loss tolerance.
-/

namespace Aqts.RebalancingEngine

open Dictionary OrderTypes PortfolioConstraints PortfolioConstruction Rebalancing

/-- How often a portfolio is rebalanced. -/
inductive RebalancingFrequency
  | monthly | bimonthly | quarterly
  deriving DecidableEq

/-- Text of a frequency. -/
def RebalancingFrequency.value : RebalancingFrequency→String
  | .monthly => "MONTHLY"
  | .bimonthly => "BIMONTHLY"
  | .quarterly => "QUARTERLY"

/-- Occasions of a rebalancing. -/
inductive RebalancingType
  | scheduled | emergency | manual
  deriving DecidableEq

/-- What a profile says about rebalancing. -/
structure InvestorProfile where
  /-- `seed_amount`. -/
  seedAmount : ℚ
  /-- `loss_tolerance`. -/
  lossTolerance : ℚ
  /-- `rebalancing_frequency`. -/
  rebalancingFrequency : RebalancingFrequency

/-- Summary of a portfolio of weights. -/
structure PortfolioSummary where
  /-- Number of the positions. -/
  positionCount : ℕ
  /-- The three largest positions. -/
  top3Positions : List (String×ℚ)
  /-- The largest weight. -/
  largestWeight : ℚ

/-- Summary of a target portfolio. -/
structure TargetSummary where
  /-- Number of the positions. -/
  positionCount : ℕ
  /-- Share of cash. -/
  cashRatio : ℚ
  /-- The three largest positions. -/
  top3Positions : List (String×ℚ)
  /-- Weights of the sectors. -/
  sectorWeights : Dict String ℚ

/-- Result of a rebalancing. -/
structure RebalancingResult where
  /-- Its orders. -/
  orders : List RebalancingOrder
  /-- Its occasion. -/
  rebalancingType : RebalancingType
  /-- Its reason. -/
  triggerReason : String
  /-- The portfolio before it. -/
  oldPortfolioSummary : PortfolioSummary
  /-- The portfolio that it goes to. -/
  newPortfolioSummary : TargetSummary

/-- Weights from the largest one on. -/
def largestFirst (items : List (String×ℚ)) : List (String×ℚ) :=
  items.insertionSort fun a b => -a.2≤ -b.2

/-- `_summarize_portfolio`. -/
def summarizePortfolio (portfolio : Dict String ℚ) : PortfolioSummary :=
  let positions := portfolio.filter fun _ weight => 1/10000<weight
  { positionCount := positions.items.length
    top3Positions := (largestFirst positions.items).take 3
    largestWeight := portfolio.values.max?.getD 0 }

/-- `sector_weights`. -/
def sectorWeights (portfolio : TargetPortfolio) : Dict String ℚ :=
  portfolio.allocations.foldl (fun weights a =>
    if a.sector="" then weights
    else weights.set a.sector (weights.value a.sector+a.targetWeight)) .empty

/-- `_summarize_target_portfolio`. -/
def summarizeTargetPortfolio (portfolio : TargetPortfolio) : TargetSummary where
  positionCount := (portfolio.allocations.filter fun a => 0<a.targetWeight).length
  cashRatio := portfolio.cashRatio
  top3Positions :=
    (largestFirst (portfolio.allocations.map fun a => (a.ticker,a.targetWeight))).take 3
  sectorWeights := sectorWeights portfolio

/-- What a run does not decide itself: the texts of percentages and the order in which
a union of two key sets is met. -/
structure Surroundings where
  /-- Text of a percentage with one digit after the point. -/
  percent : ℚ→String
  /-- Text of a percentage with two digits after the point. -/
  percent2 : ℚ→String
  /-- The order of a union. -/
  union : (left right : List String)→KeyUnion left right

/-- Surroundings whose texts say nothing. -/
def Surroundings.plain : Surroundings := ⟨fun _ => "",fun _ => "",KeyUnion.inOrder⟩

section Runs

variable (surroundings : Surroundings) (profile : InvestorProfile)

/-- The orders to a target portfolio. -/
def ordersTo (currentPortfolio : Dict String ℚ) (targetPortfolio : TargetPortfolio)
    (seedCapital : ℚ) : List RebalancingOrder :=
  generateRebalancingOrders surroundings.percent currentPortfolio targetPortfolio seedCapital
    (surroundings.union _ _)

/-- `execute_scheduled_rebalancing` with its request to the construction engine, from the weights
that the optimiser returns. -/
def executeScheduledRebalancing (engine : Engine) (request : ConstructRequest)
    (optimised : Dict String ℚ) : Except Failure RebalancingResult := do
  let targetPortfolio ← construct engine request optimised
  return {
    orders := ordersTo surroundings request.currentPortfolio targetPortfolio request.seedCapital
    rebalancingType := .scheduled
    triggerReason := "Scheduled rebalancing ("++profile.rebalancingFrequency.value++")"
    oldPortfolioSummary := summarizePortfolio request.currentPortfolio
    newPortfolioSummary := summarizeTargetPortfolio targetPortfolio }

/-- The defensive allocation of a holding. -/
def defensiveAllocation (item : String×ℚ) : TargetAllocation where
  ticker := item.1
  market := .krx
  targetWeight := item.2*(3/10)
  currentWeight := item.2
  signalScore := -1/2
  sector := ""

/-- `_generate_defensive_portfolio`. -/
def generateDefensivePortfolio (currentPortfolio : Dict String ℚ) : TargetPortfolio where
  allocations := (currentPortfolio.items.filter fun item => 1/1000< item.2).map defensiveAllocation
  totalValue := profile.seedAmount
  cashRatio := 7/10
  optimizationMethod := "defensive"

/-- `execute_emergency_rebalancing`. -/
def executeEmergencyRebalancing (currentPortfolio portfolioValues : Dict String ℚ)
    (triggerReason : String) : RebalancingResult :=
  let defensivePortfolio := generateDefensivePortfolio profile currentPortfolio
  { orders := ordersTo surroundings currentPortfolio defensivePortfolio portfolioValues.values.sum
    rebalancingType := .emergency
    triggerReason
    oldPortfolioSummary := summarizePortfolio currentPortfolio
    newPortfolioSummary := summarizeTargetPortfolio defensivePortfolio }

/-- `_calculate_portfolio_loss`. -/
def calculatePortfolioLoss (portfolioValues : Dict String ℚ) : ℚ :=
  let totalValue := portfolioValues.values.sum
  if totalValue≤0 then 0
  else min 0 ((totalValue-profile.seedAmount)/profile.seedAmount)

/-- `check_emergency_trigger`. -/
def checkEmergencyTrigger (portfolioValues : Dict String ℚ) : Option String :=
  let lossPct := calculatePortfolioLoss profile portfolioValues
  if profile.lossTolerance<lossPct then
    some ("Emergency: Portfolio loss "++surroundings.percent2 (lossPct*100)++
      "% exceeds tolerance "++surroundings.percent2 (profile.lossTolerance*100)++"%")
  else none

end Runs

end Aqts.RebalancingEngine
