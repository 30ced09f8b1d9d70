import Aqts.RebalancingEngine

/-!
# The market of a rebalancing order

An order takes its market from the allocation of its ticker, and is on the NYSE
without one. A holding that a scheduled rebalancing drops has no allocation, and a
defensive allocation is always on the KRX. The orders have the right markets exactly
if what is dropped is on the NYSE, and what is reduced in an emergency on the KRX.
-/

namespace Aqts.RebalancingMarkets

open Dictionary OrderTypes LimitPrices CurrencyCap PortfolioConstruction Rebalancing
  RebalancingEngine

/-- Every order is on the market of its ticker. -/
def MarketsRight (marketInfo : Dict String Market) (orders : List RebalancingOrder) : Prop :=
  ∀ order∈orders,marketInfo.get? order.ticker=some order.market

/-- A ticker with two weights gets an order. -/
def IsTraded (seedCapital currentWeight targetWeight : ℚ) : Prop :=
  1/1000≤|targetWeight-currentWeight| ∧
    1≤pyInt (|targetWeight-currentWeight| *seedCapital/1000)

instance (seedCapital currentWeight targetWeight : ℚ) :
    Decidable (IsTraded seedCapital currentWeight targetWeight) :=
  inferInstanceAs (Decidable (_ ∧ _))

/-- The market that an order to a target portfolio gets. -/
def orderMarket (portfolio : TargetPortfolio) (ticker : String) : Market :=
  ((marketDict portfolio).get? ticker).getD .nyse

section Orders

variable {surroundings : Surroundings} {current : Dict String ℚ} {seedCapital : ℚ}

/-- Which orders there are. -/
theorem mem_ordersTo {portfolio : TargetPortfolio} {order : RebalancingOrder} :
    order∈ordersTo surroundings current portfolio seedCapital ↔
      order.ticker∈(surroundings.union current.keys (targetDict portfolio).keys).tickers ∧
        rebalancingOrder surroundings.percent current portfolio seedCapital order.ticker=
          some order := by
  unfold ordersTo generateRebalancingOrders
  rw [List.mem_insertionSort]
  exact mem_filterMap_key ticker_rebalancingOrder

/-- A ticker gets an order exactly if it is traded, and which market it goes to. -/
theorem rebalancingOrder_iff {portfolio : TargetPortfolio} {ticker : String} :
    (∃ order,rebalancingOrder surroundings.percent current portfolio seedCapital ticker=
        some order) ↔
      IsTraded seedCapital (current.value ticker) ((targetDict portfolio).value ticker) := by
  unfold rebalancingOrder
  dsimp only
  constructor
  · rintro ⟨order,h⟩
    obtain ⟨hdiffer,h⟩ := Option.ite_none_left_eq_some.mp h
    obtain ⟨hpos,_⟩ := Option.ite_none_right_eq_some.mp h
    exact ⟨not_lt.mp hdiffer,hpos⟩
  · rintro ⟨hdiffer,hpos⟩
    exact ⟨_,Option.ite_none_left_eq_some.mpr ⟨not_lt.mpr hdiffer,
      Option.ite_none_right_eq_some.mpr ⟨hpos,rfl⟩⟩⟩

/-- The market of an order. -/
theorem market_rebalancingOrder {portfolio : TargetPortfolio} {ticker : String}
    {order : RebalancingOrder}
    (h : rebalancingOrder surroundings.percent current portfolio seedCapital ticker=some order) :
    order.market=orderMarket portfolio ticker := (rebalancingOrder_eq_some h).2.1

/-- A ticker of no weight in both portfolios is not traded. -/
theorem not_isTraded_zero : ¬IsTraded seedCapital 0 0 := by
  intro h
  have hdiffer := h.1
  rw [sub_self,abs_zero] at hdiffer
  norm_num at hdiffer

/-- The orders have the right markets exactly if the traded tickers have. -/
theorem marketsRight_iff {marketInfo : Dict String Market} {portfolio : TargetPortfolio} :
    MarketsRight marketInfo (ordersTo surroundings current portfolio seedCapital) ↔
      ∀ ticker,IsTraded seedCapital (current.value ticker)
          ((targetDict portfolio).value ticker)→
        marketInfo.get? ticker=some (orderMarket portfolio ticker) := by
  have hmade : ∀ ticker,(∃ order,
      rebalancingOrder surroundings.percent current portfolio seedCapital ticker=some order) ↔
        IsTraded seedCapital (current.value ticker) ((targetDict portfolio).value ticker) :=
    fun _ => rebalancingOrder_iff
  constructor
  · intro h ticker htraded
    obtain ⟨order,horder⟩ := (hmade ticker).mpr htraded
    have hticker := ticker_rebalancingOrder ticker order horder
    have hkey : ticker∈current.keys ∨ ticker∈(targetDict portfolio).keys := by
      by_contra hneither
      obtain ⟨hcurrent,htarget⟩ := not_or.mp hneither
      rw [value_of_not_mem hcurrent,value_of_not_mem htarget] at htraded
      exact not_isTraded_zero htraded
    have hmem : order∈ordersTo surroundings current portfolio seedCapital := by
      refine mem_ordersTo.mpr ?_
      rw [hticker]
      exact ⟨(KeyUnion.mem_iff _ ticker).mpr hkey,horder⟩
    have hright := h order hmem
    rw [hticker,market_rebalancingOrder horder] at hright
    exact hright
  · intro h order hmem
    obtain ⟨_,horder⟩ := mem_ordersTo.mp hmem
    rw [market_rebalancingOrder horder]
    exact h order.ticker ((hmade order.ticker).mp ⟨order,horder⟩)

end Orders

section Targets

variable {portfolio : TargetPortfolio}

/-- The dictionaries of a portfolio have what its allocations say. -/
theorem get?_collect_allocations {α : Type} (f : TargetAllocation→α)
    (hnodup : (portfolio.allocations.map TargetAllocation.ticker).Nodup) {ticker : String}
    {value : α} :
    (Dict.collect (portfolio.allocations.map fun a => (a.ticker,f a))).get? ticker=some value ↔
      ∃ a∈portfolio.allocations,a.ticker=ticker ∧ f a=value := by
  have hkeys : ((portfolio.allocations.map fun a => (a.ticker,f a)).map Prod.fst).Nodup := by
    rw [List.map_map]
    exact hnodup
  rw [Dict.get?_collect hkeys,List.mem_map]
  refine exists_congr fun a => and_congr_right fun _ => ?_
  exact Prod.mk.injEq _ _ _ _ ▸ Iff.rfl

/-- Of a portfolio that allocates the large weights of a dictionary. -/
theorem get?_collect_large {α : Type} (f : TargetAllocation→α) {weights : Dict String ℚ} {least : ℚ}
    (hleast : 0≤least) {allocation : String×ℚ→TargetAllocation}
    (hticker : ∀ item,(allocation item).ticker=item.1)
    (hallocations : portfolio.allocations=
      (weights.items.filter fun item => least< item.2).map allocation) (ticker : String) :
    (Dict.collect (portfolio.allocations.map fun a => (a.ticker,f a))).get? ticker=
      if least<weights.value ticker then some (f (allocation (ticker,weights.value ticker)))
      else none := by
  have hnodup : (portfolio.allocations.map TargetAllocation.ticker).Nodup := by
    have hsame : TargetAllocation.ticker∘allocation=Prod.fst := funext hticker
    rw [hallocations,List.map_map,hsame]
    exact (List.filter_sublist.map Prod.fst).nodup weights.nodup
  have hmem : ∀ a,a∈portfolio.allocations ↔
      ∃ item∈weights.items,least< item.2 ∧ allocation item=a := by
    intro a
    rw [hallocations,List.mem_map]
    refine exists_congr fun item => ?_
    rw [List.mem_filter,decide_eq_true_eq,and_assoc]
  refine Option.ext fun value => ?_
  rw [get?_collect_allocations f hnodup,Option.ite_none_right_eq_some,Option.some.injEq]
  constructor
  · rintro ⟨a,ha,rfl,rfl⟩
    obtain ⟨item,hitem,hlarge,rfl⟩ := (hmem a).mp ha
    have hvalue : weights.value item.1=item.2 := value_of_mem hitem
    rw [hticker,hvalue]
    exact ⟨hlarge,rfl⟩
  · rintro ⟨hlarge,rfl⟩
    have hkey : ticker∈weights.keys := by
      by_contra hmissing
      rw [value_of_not_mem hmissing] at hlarge
      exact absurd hlarge (not_lt.mpr hleast)
    exact ⟨_,(hmem _).mpr ⟨_,mem_items_value hkey,hlarge,rfl⟩,hticker _,rfl⟩

end Targets

section Scheduled

variable (engine : Engine) (request : ConstructRequest) (optimised : Dict String ℚ)

/-- The weight of a ticker in the target portfolio, before small ones are left out. -/
def investedShare (ticker : String) : ℚ :=
  (targetShares engine request optimised).value ticker*investFactor engine request optimised

/-- The ticker is allocated. -/
def IsAllocated (ticker : String) : Prop := 1/10000< investedShare engine request optimised ticker

instance (ticker : String) : Decidable (IsAllocated engine request optimised ticker) :=
  inferInstanceAs (Decidable (_<_))

/-- Every holding that is sold completely is on the NYSE. -/
def DropsOnNyse (marketInfo : Dict String Market) : Prop :=
  Constructible engine request optimised→∀ ticker,¬IsAllocated engine request optimised ticker→
    IsTraded request.seedCapital (request.currentPortfolio.value ticker) 0→
      marketInfo.get? ticker=some .nyse

/-- What is allocated in a portfolio that is constructed. -/
theorem get?_construct {α : Type} (f : TargetAllocation→α) {portfolio : TargetPortfolio}
    (h : construct engine request optimised=.ok portfolio) (ticker : String) :
    (Dict.collect (portfolio.allocations.map fun a => (a.ticker,f a))).get? ticker=
      if IsAllocated engine request optimised ticker then
        some (f (allocate request (ticker,investedShare engine request optimised ticker)))
      else none := by
  have hvalue : ((targetShares engine request optimised).mapItems
      fun _ share => share*investFactor engine request optimised).value ticker=
        investedShare engine request optimised ticker := by
    by_cases hkey : ticker∈(targetShares engine request optimised).keys
    · exact value_mapItems (fun _ share => share*investFactor engine request optimised) hkey
    · have hmapped : ticker∉((targetShares engine request optimised).mapItems
          fun _ share => share*investFactor engine request optimised).keys := by
        rw [Dict.keys_mapItems]
        exact hkey
      unfold investedShare
      rw [value_of_not_mem hmapped,value_of_not_mem hkey,zero_mul]
  have hlarge := get?_collect_large f (by norm_num) (fun _ => rfl)
    (allocations_construct h).2 ticker
  rw [hvalue] at hlarge
  exact hlarge

/-- A request knows the markets of the tickers in its market map. -/
theorem marketOf_of_mem {request : ConstructRequest} {marketInfo : Dict String Market}
    (hinfo : request.marketInfo=some marketInfo) {ticker : String} (h : ticker∈marketInfo.keys) :
    marketInfo.get? ticker=some (request.marketOf ticker) := by
  obtain ⟨market,hmarket⟩ := marketInfo.mem_keys.mp h
  have hsome : marketInfo.items.isEmpty=false := by
    rw [List.isEmpty_eq_false_iff]
    exact List.ne_nil_of_mem (marketInfo.get?_eq_some.mp hmarket)
  have hmarkets : request.markets=marketInfo := by
    unfold ConstructRequest.markets
    rw [hinfo]
    unfold orElse
    dsimp only
    rw [hsome]
    exact if_neg Bool.false_ne_true
  unfold ConstructRequest.marketOf
  rw [hmarkets,hmarket]
  rfl

/-- Only tickers of the optimiser are allocated. -/
theorem mem_of_isAllocated {engine : Engine} {request : ConstructRequest}
    {optimised : Dict String ℚ} {ticker : String}
    (h : IsAllocated engine request optimised ticker) : ticker∈optimised.keys := by
  have hkeys : (targetShares engine request optimised).keys=optimised.keys :=
    (Dict.keys_mapItems _ _).trans (optimised.keys_mapItems _)
  by_contra hmissing
  unfold IsAllocated investedShare at h
  rw [value_of_not_mem (hkeys ▸ hmissing),zero_mul] at h
  norm_num at h

variable {engine request optimised}

/-- A scheduled rebalancing has the right markets exactly if what it drops is on the
NYSE. -/
theorem scheduled_markets_iff (surroundings : Surroundings) (profile : InvestorProfile)
    {marketInfo : Dict String Market} (hinfo : request.marketInfo=some marketInfo)
    (hsignals : ∀ ticker∈request.ensembleSignals.keys,ticker∈marketInfo.keys)
    (hoptimised : ∀ ticker∈optimised.keys,ticker∈request.ensembleSignals.keys) :
    (∀ result,executeScheduledRebalancing surroundings profile engine request optimised=
        .ok result→MarketsRight marketInfo result.orders) ↔
      DropsOnNyse engine request optimised marketInfo := by
  have hportfolio : ∀ portfolio,construct engine request optimised=.ok portfolio→
      (MarketsRight marketInfo
          (ordersTo surroundings request.currentPortfolio portfolio request.seedCapital) ↔
        ∀ ticker,¬IsAllocated engine request optimised ticker→
          IsTraded request.seedCapital (request.currentPortfolio.value ticker) 0→
            marketInfo.get? ticker=some .nyse) := by
    intro portfolio h
    rw [marketsRight_iff]
    refine forall_congr' fun ticker => ?_
    unfold Dict.value orderMarket targetDict marketDict
    rw [get?_construct engine request optimised TargetAllocation.targetWeight h,
      get?_construct engine request optimised TargetAllocation.market h]
    by_cases hallocated : IsAllocated engine request optimised ticker
    · have hmarket := marketOf_of_mem hinfo
        (hsignals _ (hoptimised _ (mem_of_isAllocated hallocated)))
      rw [if_pos hallocated,if_pos hallocated]
      exact iff_of_true (fun _ => hmarket) fun hdropped => absurd hallocated hdropped
    · rw [if_neg hallocated,if_neg hallocated]
      exact ⟨fun h _ => h,fun h => h hallocated⟩
  unfold DropsOnNyse executeScheduledRebalancing
  constructor
  · intro h hconstructible
    obtain ⟨portfolio,hok⟩ := construct_ok hconstructible
    rw [hok] at h
    exact (hportfolio portfolio hok).mp (h _ rfl)
  · intro h result hresult
    cases hok : construct engine request optimised with
    | error failure =>
      rw [hok] at hresult
      exact nomatch hresult
    | ok portfolio =>
      rw [hok] at hresult
      cases hresult
      exact (hportfolio portfolio hok).mpr (h (allocations_construct hok).1)

end Scheduled

section Emergency

/-- The weight of a holding in the defensive portfolio. -/
def defensiveWeight (weight : ℚ) : ℚ := if 1/1000<weight then weight*(3/10) else 0

/-- Every holding that is reduced in an emergency is on the KRX, and every one that is
given up or bought back on the NYSE. -/
def DefencesOnKrx (currentPortfolio portfolioValues : Dict String ℚ)
    (holdingMarkets : Dict String Market) : Prop :=
  ∀ ticker,IsTraded portfolioValues.values.sum (currentPortfolio.value ticker)
      (defensiveWeight (currentPortfolio.value ticker))→
    holdingMarkets.get? ticker=
      some (if 1/1000< currentPortfolio.value ticker then .krx else .nyse)

/-- An emergency rebalancing has the right markets exactly if the holdings that it
reduces are on the KRX. -/
theorem emergency_markets_iff (surroundings : Surroundings) (profile : InvestorProfile)
    (currentPortfolio portfolioValues : Dict String ℚ) (triggerReason : String)
    (holdingMarkets : Dict String Market) :
    MarketsRight holdingMarkets (executeEmergencyRebalancing surroundings profile currentPortfolio
        portfolioValues triggerReason).orders ↔
      DefencesOnKrx currentPortfolio portfolioValues holdingMarkets := by
  have hlarge : ∀ {α : Type} (f : TargetAllocation→α) (ticker : String),
      (Dict.collect ((generateDefensivePortfolio profile currentPortfolio).allocations.map
        fun a => (a.ticker,f a))).get? ticker=
          if 1/1000< currentPortfolio.value ticker then
            some (f (defensiveAllocation (ticker,currentPortfolio.value ticker)))
          else none :=
    fun f ticker => get?_collect_large f (by norm_num) (fun _ => rfl) rfl ticker
  unfold executeEmergencyRebalancing DefencesOnKrx
  dsimp only
  rw [marketsRight_iff]
  refine forall_congr' fun ticker => ?_
  have htarget : (targetDict (generateDefensivePortfolio profile currentPortfolio)).value ticker=
      defensiveWeight (currentPortfolio.value ticker) := by
    unfold targetDict defensiveWeight
    rw [Dict.value,hlarge TargetAllocation.targetWeight]
    split
    · rfl
    · rfl
  have hmarket : orderMarket (generateDefensivePortfolio profile currentPortfolio) ticker=
      if 1/1000< currentPortfolio.value ticker then .krx else .nyse := by
    unfold orderMarket marketDict
    rw [hlarge TargetAllocation.market]
    split
    · rfl
    · rfl
  rw [htarget,hmarket]

end Emergency

/-- When the orders of both kinds of rebalancing have the markets of their tickers. -/
theorem markets_right_iff (surroundings : Surroundings) (profile : InvestorProfile)
    {engine : Engine} {request : ConstructRequest} {optimised : Dict String ℚ}
    {marketInfo : Dict String Market} (hinfo : request.marketInfo=some marketInfo)
    (hsignals : ∀ ticker∈request.ensembleSignals.keys,ticker∈marketInfo.keys)
    (hoptimised : ∀ ticker∈optimised.keys,ticker∈request.ensembleSignals.keys)
    (currentPortfolio portfolioValues : Dict String ℚ) (triggerReason : String)
    (holdingMarkets : Dict String Market) :
    ((∀ result,executeScheduledRebalancing surroundings profile engine request optimised=
        .ok result→MarketsRight marketInfo result.orders) ↔
      DropsOnNyse engine request optimised marketInfo) ∧
    (MarketsRight holdingMarkets (executeEmergencyRebalancing surroundings profile currentPortfolio
        portfolioValues triggerReason).orders ↔
      DefencesOnKrx currentPortfolio portfolioValues holdingMarkets) :=
  ⟨scheduled_markets_iff surroundings profile hinfo hsignals hoptimised,
    emergency_markets_iff surroundings profile currentPortfolio portfolioValues triggerReason
      holdingMarkets⟩

/-- The markets of the exchange. -/
def exchangeMarkets : Dict String Market := Dict.empty.set "AAPL" .nasdaq |>.set "005930" .krx

/-- A holding of Samsung and a signal for Apple. -/
def exchangeRequest : ConstructRequest where
  ensembleSignals := ⟨[("AAPL",1)],List.nodup_singleton _⟩
  currentPortfolio := ⟨[("005930",1/2)],List.nodup_singleton _⟩
  seedCapital := 10000000
  method := "mean_variance"
  sectorInfo := none
  marketInfo := some exchangeMarkets

/-- The weights of the exchange. -/
def exchangeWeights : Dict String ℚ := ⟨[("AAPL",1/5)],List.nodup_singleton _⟩

/-- Samsung is sold on the NYSE when it is dropped, and Apple on the KRX when it is
reduced in an emergency. -/
theorem markets_wrong :
    ¬(∀ result,executeScheduledRebalancing .plain ⟨10000000,-1/10,.monthly⟩
        (Engine.create .balanced none) exchangeRequest exchangeWeights=.ok result→
          MarketsRight exchangeMarkets result.orders) ∧
      ¬MarketsRight ⟨[("AAPL",.nasdaq)],List.nodup_singleton _⟩
        (executeEmergencyRebalancing .plain ⟨10000000,-1/10,.monthly⟩
          ⟨[("AAPL",1/2)],List.nodup_singleton _⟩ ⟨[("AAPL",5000000)],List.nodup_singleton _⟩
          "loss").orders := by
  rw [scheduled_markets_iff _ _ rfl (by decide) (by decide),emergency_markets_iff]
  constructor
  · intro h
    have hconstructible : Constructible (Engine.create .balanced none) exchangeRequest
        exchangeWeights := by decide +kernel
    have hdropped : ¬IsAllocated (Engine.create .balanced none) exchangeRequest exchangeWeights
        "005930" := by decide +kernel
    have hsold : IsTraded exchangeRequest.seedCapital
        (exchangeRequest.currentPortfolio.value "005930") 0 := by decide +kernel
    exact absurd (h hconstructible "005930" hdropped hsold) (by decide)
  · intro h
    exact absurd (h "AAPL" (by decide +kernel)) (by decide +kernel)

/-- The condition on the exchange. -/
theorem markets_right_iff_exchange :
    ((∀ result,executeScheduledRebalancing .plain ⟨10000000,-1/10,.monthly⟩
        (Engine.create .balanced none) exchangeRequest exchangeWeights=.ok result→
          MarketsRight exchangeMarkets result.orders) ↔
      DropsOnNyse (Engine.create .balanced none) exchangeRequest exchangeWeights
        exchangeMarkets) ∧
    (MarketsRight exchangeMarkets (executeEmergencyRebalancing .plain ⟨10000000,-1/10,.monthly⟩
        exchangeWeights exchangeWeights "loss").orders ↔
      DefencesOnKrx exchangeWeights exchangeWeights exchangeMarkets) :=
  markets_right_iff .plain ⟨10000000,-1/10,.monthly⟩ rfl (by decide) (by decide) exchangeWeights
    exchangeWeights "loss" exchangeMarkets

end Aqts.RebalancingMarkets
