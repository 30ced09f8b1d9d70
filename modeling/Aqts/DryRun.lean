import Aqts.BrokerPlacements

/-!
# Execution of an order in dry-run mode

`OrderExecutor` with its `dry_run` flag. Each order type decides the mode for
itself: a dry run records a virtual order with the engine and makes up a
result, a live run calls the broker. The ledger update comes after both and
does not look at the mode. With the flag off this is the live execution.
-/

namespace Aqts.DryRun

open OrderTypes OrdersTable OrderExecutor PortfolioLedger

/-- A virtual order of the dry-run engine. -/
structure DryRunOrder where
  /-- Identifier. -/
  orderId : String
  /-- Ticker symbol. -/
  ticker : String
  /-- Market of the ticker. -/
  market : Market
  /-- Direction. -/
  side : OrderSide
  /-- Quantity. -/
  quantity : ℤ
  /-- Execution style. -/
  orderType : OrderTypes.OrderType
  /-- Limit price. -/
  limitPrice : Option ℚ
  /-- Reason of the request. -/
  reason : String
  /-- Result of a risk check, which the executor leaves at its default. -/
  riskCheckPassed : Bool := true
  /-- Price of the estimate. -/
  estimatedPrice : ℚ
  /-- Amount of the estimate. -/
  estimatedAmount : ℚ
  deriving DecidableEq

/-- The surroundings of an execution beside the ledger and the table. -/
structure World where
  /-- Broker answers not used yet. -/
  broker : List BrokerCall
  /-- Broker calls made. -/
  placed : List Placement
  /-- Orders that the dry-run engine has recorded. -/
  recorded : List DryRunOrder
  deriving DecidableEq

/-- Time stamps and instants of the virtual orders, by their number. -/
structure Draws where
  /-- Stamp of the engine. -/
  engineStamp : ℕ→String
  /-- Stamp of the result. -/
  stamp : ℕ→String
  /-- Instant of the result. -/
  now : ℕ→ℚ

/-- `DryRunEngine.record_order`. -/
def recordOrder (d : Draws) (request : OrderRequest) (estimatedPrice : ℚ) (w : World) : World :=
  {w with recorded := w.recorded++[{
    orderId := "DRY_"++request.ticker++"_"++d.engineStamp w.recorded.length
    ticker := request.ticker
    market := request.market
    side := request.side
    quantity := request.quantity
    orderType := request.orderType
    limitPrice := request.limitPrice
    reason := request.reason
    estimatedPrice := estimatedPrice
    estimatedAmount := estimatedPrice*request.quantity }]}

/-- Result that a dry run makes up. -/
def dryResult (d : Draws) (request : OrderRequest) (filledQty : ℤ) (avgPrice : ℚ)
    (status : OrderStatus) (w : World) : OrderResult where
  orderId := "DRY_"++request.ticker++"_"++d.stamp w.recorded.length
  ticker := request.ticker
  market := request.market
  side := request.side
  quantity := request.quantity
  filledQuantity := filledQty
  avgPrice := avgPrice
  status := status
  executedAt := d.now w.recorded.length

/-- A broker call with the next answer. -/
def place (run : OrderRequest→BrokerCall→Except String OrderResult) (request : OrderRequest)
    (w : World) : Except String OrderResult×World :=
  (run request (nextAnswer w.broker).1,
    { w with
      broker := (nextAnswer w.broker).2
      placed := w.placed++[⟨request.quantity,(nextAnswer w.broker).1.outcome⟩] })

section Modes

variable (dryRun : Bool) (d : Draws)

/-- `_execute_market_order`. -/
def marketOrder (request : OrderRequest) (w : World) : Except String OrderResult×World :=
  if dryRun=true then
    (.ok (dryResult d request request.quantity 0 .filled w),recordOrder d request 100 w)
  else place executeMarketOrder request w

/-- `_execute_limit_order`; a dry run fills half of the quantity. -/
def limitOrder (request : OrderRequest) (w : World) : Except String OrderResult×World :=
  if ∀ price∈request.limitPrice,price≤0 then
    (.error "지정가 주문에는 유효한 limit_price가 필요합니다",w)
  else if dryRun=true then
    (.ok (dryResult d request (request.quantity.tdiv 2) (request.limitPrice.getD 0) .partialFill w),
      recordOrder d request (request.limitPrice.getD 0) w)
  else place executeLimitOrder request w

/-- Variables of the retry loop of one slice. -/
structure Progress where
  /-- The surroundings. -/
  world : World
  /-- `filled_in_slice`. -/
  filledInSlice : ℤ
  /-- `total_cost`. -/
  totalCost : ℚ
  /-- `sub_results`. -/
  subResults : List OrderResult

/-- One attempt on a slice. -/
def attemptSlice (request : OrderRequest) (reason : ℕ→String) (sliceQty : ℤ) (p : Progress)
    (attempt : ℕ) : Progress :=
  if sliceQty-p.filledInSlice≤0 then p
  else
    let subRequest : OrderRequest := {
      ticker := request.ticker
      market := request.market
      side := request.side
      quantity := sliceQty-p.filledInSlice
      reason := reason attempt }
    let run := marketOrder dryRun d subRequest p.world
    match run.1 with
    | .error _ => {p with world := run.2}
    | .ok result => {
        world := run.2
        filledInSlice := p.filledInSlice+result.filledQuantity
        totalCost := p.totalCost+result.filledQuantity*result.avgPrice
        subResults := p.subResults++[result] }

/-- Variables of the loop over the intervals. -/
structure LoopState where
  /-- The surroundings. -/
  world : World
  /-- `total_filled`. -/
  totalFilled : ℤ
  /-- `total_cost`. -/
  totalCost : ℚ
  /-- `sub_results`. -/
  subResults : List OrderResult
  /-- `carryover`. -/
  carryover : ℤ

/-- One interval. -/
def runSlice (request : OrderRequest) (attempts : ℕ) (reason : ℕ→ℕ→String) (st : LoopState)
    (slice : ℤ×ℕ) : LoopState :=
  let sliceQty := slice.1+st.carryover
  if sliceQty≤0 then st
  else
    let p := (List.range attempts).foldl (attemptSlice dryRun d request (reason slice.2) sliceQty)
      ⟨st.world,0,st.totalCost,st.subResults⟩
    { world := p.world
      totalFilled := st.totalFilled+p.filledInSlice
      totalCost := p.totalCost
      subResults := p.subResults
      carryover := sliceQty-p.filledInSlice }

/-- All intervals. -/
def runSlices (request : OrderRequest) (attempts : ℕ) (reason : ℕ→ℕ→String) (slices : List ℤ)
    (w : World) : LoopState :=
  slices.zipIdx.foldl (runSlice dryRun d request attempts reason) ⟨w,0,0,[],0⟩

/-- The variables of the live loop. -/
def LoopState.live (st : LoopState) : SliceState :=
  ⟨st.world.broker,st.totalFilled,st.totalCost,st.subResults,st.carryover⟩

/-- `_execute_twap_order` with the default arguments. -/
def twapOrder (call : Call) (w : World) : OrderResult×World :=
  let st := runSlices dryRun d call.request 3 (twapReason 6) (twapSlices call.request.quantity 6) w
  (slicedResult "TWAP" call.request call.stamp call.now st.live,st.world)

/-- `_execute_vwap_order` with the default arguments. -/
def vwapOrder (call : Call) (w : World) : OrderResult×World :=
  let profile := vwapProfile 6 []
  let st := runSlices dryRun d call.request 1 (vwapReason 6 profile)
    (vwapSlices call.request.quantity profile) w
  (slicedResult "VWAP" call.request call.stamp call.now st.live,st.world)

/-- Execution by order type. -/
def dispatchOrder (call : Call) (w : World) : Except String OrderResult×World :=
  match call.request.orderType with
  | .market => marketOrder dryRun d call.request w
  | .limit => limitOrder dryRun d call.request w
  | .twap => ((.ok (twapOrder dryRun d call w).1),(twapOrder dryRun d call w).2)
  | .vwap => ((.ok (vwapOrder dryRun d call w).1),(vwapOrder dryRun d call w).2)

/-- The checks of `execute_order`; only a live run asks for a quote. -/
def checkOrder (call : Call) : Except String Unit := do
  raising call.guarded
  validateOrder call.request
  if dryRun=false then raising call.quoted

/-- The post-trade check, which needs the quote of a live run. -/
def checkSlippage (call : Call) (result : OrderResult) : Except String Unit :=
  if dryRun=false ∧ 0 < result.filledQuantity ∧ 0 < result.avgPrice then raising call.slippage
  else .ok ()

/-- `execute_order` up to the ledger update. -/
def submit (call : Call) (w : World) : Except String OrderResult×World :=
  match checkOrder dryRun call with
  | .error text => (.error text,w)
  | .ok () =>
    let run := dispatchOrder dryRun d call w
    ((do
      let result ← run.1
      checkSlippage dryRun call result
      return result),run.2)

/-- `execute_order` from the ledger update on. -/
def finish (call : Call) (ledger : Ledger) : Except String OrderResult→Execution
  | .error text => failWith call ledger [] text
  | .ok result =>
    match bookFill call result ledger with
    | .error text => failWith call ledger [] text
    | .ok ledger' =>
      match call.audit with
      | some text => failWith call ledger' [storedRow result] text
      | none => ⟨ledger',[storedRow result],.ok result⟩

/-- `execute_order` in either mode. -/
def execute (call : Call) (ledger : Ledger) : Execution×World :=
  let submitted := submit dryRun d call ⟨call.broker,[],[]⟩
  (finish call ledger submitted.1,submitted.2)

end Modes

/-- The variables of the live retry loop. -/
def Progress.live (p : Progress) : SliceProgress :=
  ⟨p.world.broker,p.filledInSlice,p.totalCost,p.subResults⟩

section Live

variable (d : Draws)

/-- An attempt of a live run. -/
theorem attemptSlice_live (request : OrderRequest) (reason : ℕ→String) (sliceQty : ℤ)
    (p : Progress) (attempt : ℕ) :
    (attemptSlice false d request reason sliceQty p attempt).live=
      sliceAttempt request reason sliceQty p.live attempt := by
  have hsame : p.live.filledInSlice=p.filledInSlice := rfl
  have hbroker : p.live.broker=p.world.broker := rfl
  unfold attemptSlice sliceAttempt
  rw [hsame,hbroker]
  by_cases hdone : sliceQty-p.filledInSlice≤0
  · rw [if_pos hdone,if_pos hdone]
  · rw [if_neg hdone,if_neg hdone]
    dsimp only [marketOrder,place]
    rw [if_neg (by decide)]
    dsimp only
    cases executeMarketOrder ⟨request.ticker,request.market,request.side,sliceQty-p.filledInSlice,
        .market,none,reason attempt⟩ (nextAnswer p.world.broker).1 with
    | error text => rfl
    | ok result => rfl

/-- An interval of a live run. -/
theorem runSlice_live (request : OrderRequest) (attempts : ℕ) (reason : ℕ→ℕ→String)
    (st : LoopState) (slice : ℤ×ℕ) :
    (runSlice false d request attempts reason st slice).live=
      executeSlice request attempts reason st.live slice := by
  have hloop : ∀ (indices : List ℕ) (p : Progress),
      indices.foldl (sliceAttempt request (reason slice.2) (slice.1+st.carryover)) p.live=
        (indices.foldl (attemptSlice false d request (reason slice.2) (slice.1+st.carryover))
          p).live := by
    intro indices p
    refine List.foldl_hom Progress.live ?_
    intro p attempt
    exact (attemptSlice_live d request (reason slice.2) (slice.1+st.carryover) p attempt).symm
  have hsame : st.live.carryover=st.carryover := rfl
  unfold runSlice executeSlice
  dsimp only
  rw [hsame]
  by_cases hskip : slice.1+st.carryover≤0
  · rw [if_pos hskip,if_pos hskip]
  · have hend := hloop (List.range attempts) ⟨st.world,0,st.totalCost,st.subResults⟩
    have hstart : (⟨st.world,0,st.totalCost,st.subResults⟩ : Progress).live=
        ⟨st.live.broker,0,st.live.totalCost,st.live.subResults⟩ := rfl
    rw [hstart] at hend
    rw [if_neg hskip,if_neg hskip,hend]
    rfl

/-- The intervals of a live run. -/
theorem runSlices_live (request : OrderRequest) (attempts : ℕ) (reason : ℕ→ℕ→String)
    (slices : List ℤ) (w : World) :
    (runSlices false d request attempts reason slices w).live=
      executeSlices request attempts reason slices w.broker := by
  have hstart : (⟨w,0,0,[],0⟩ : LoopState).live=⟨w.broker,0,0,[],0⟩ := rfl
  unfold runSlices executeSlices
  rw [← hstart]
  refine (List.foldl_hom LoopState.live ?_).symm
  intro st slice
  exact (runSlice_live d request attempts reason st slice).symm

/-- The order types of a live run. -/
theorem dispatchOrder_live (call : Call) (w : World) (hw : w.broker=call.broker) :
    (dispatchOrder false d call w).1=dispatch call := by
  unfold dispatchOrder dispatch
  cases call.request.orderType with
  | market =>
    dsimp only [marketOrder,place]
    rw [if_neg (by decide),hw]
  | limit =>
    dsimp only [limitOrder,place]
    by_cases hprice : ∀ price∈call.request.limitPrice,price≤0
    · rw [if_pos hprice]
      unfold executeLimitOrder
      rw [if_pos hprice]
    · rw [if_neg hprice,if_neg (by decide),hw]
  | twap =>
    dsimp only [twapOrder]
    rw [runSlices_live,hw]
    rfl
  | vwap =>
    dsimp only [vwapOrder]
    rw [runSlices_live,hw]
    rfl

/-- With the flag off the execution is the live one. -/
theorem execute_live (call : Call) (ledger : Ledger) :
    (execute false d call ledger).1=executeOrder call ledger := by
  have hsubmit : (submit false d call ⟨call.broker,[],[]⟩).1=submitOrder call := by
    unfold submit submitOrder checkOrder
    cases call.guarded with
    | some text => rfl
    | none =>
      cases validateOrder call.request with
      | error text => rfl
      | ok _ =>
        cases call.quoted with
        | some text => rfl
        | none =>
          have hrun := dispatchOrder_live d call ⟨call.broker,[],[]⟩ rfl
          dsimp only [raising,bind,Except.bind]
          rw [if_pos rfl]
          dsimp only
          rw [hrun]
          cases dispatch call with
          | error text => rfl
          | ok result =>
            by_cases hpriced : 0 < result.filledQuantity ∧ 0 < result.avgPrice
            · simp [checkSlippage,hpriced,raising,pure,Except.pure]
            · simp [checkSlippage,hpriced,pure,Except.pure]
  unfold execute
  dsimp only
  rw [hsubmit]
  rfl

end Live

/-- No broker call was made from one state of the surroundings to the other. -/
def NoBrokerCall (w w' : World) : Prop := w'.broker=w.broker ∧ w'.placed=w.placed

section Dry

variable (d : Draws)

/-- An attempt of a dry run fills the slice and calls no broker. -/
theorem attemptSlice_dry (request : OrderRequest) (reason : ℕ→String) (sliceQty : ℤ)
    (p : Progress) (attempt : ℕ) :
    NoBrokerCall p.world (attemptSlice true d request reason sliceQty p attempt).world ∧
      (attemptSlice true d request reason sliceQty p attempt).filledInSlice=
        max p.filledInSlice sliceQty := by
  unfold attemptSlice
  by_cases hdone : sliceQty-p.filledInSlice≤0
  · rw [if_pos hdone]
    exact ⟨⟨rfl,rfl⟩,(max_eq_left (by omega)).symm⟩
  · rw [if_neg hdone]
    dsimp only [marketOrder]
    rw [if_pos rfl]
    refine ⟨⟨rfl,rfl⟩,?_⟩
    dsimp only [dryResult]
    rw [max_eq_right (by omega)]
    omega

/-- The attempts of a dry run fill the slice and call no broker. -/
theorem attempts_dry (request : OrderRequest) (reason : ℕ→String) (sliceQty : ℤ)
    (indices : List ℕ) (p : Progress) :
    NoBrokerCall p.world
        (indices.foldl (attemptSlice true d request reason sliceQty) p).world ∧
      (indices.foldl (attemptSlice true d request reason sliceQty) p).filledInSlice=
        if indices=[] then p.filledInSlice else max p.filledInSlice sliceQty := by
  induction indices generalizing p with
  | nil => exact ⟨⟨rfl,rfl⟩,rfl⟩
  | cons attempt indices ih =>
    have hfirst := attemptSlice_dry d request reason sliceQty p attempt
    have hrest := ih (attemptSlice true d request reason sliceQty p attempt)
    rw [List.foldl_cons,if_neg (by simp)]
    refine ⟨⟨hrest.1.1.trans hfirst.1.1,hrest.1.2.trans hfirst.1.2⟩,?_⟩
    rw [hrest.2,hfirst.2]
    split
    · rfl
    · rw [max_assoc,max_self]

/-- The loop of a dry run: no broker call, no carryover and a total. -/
structure DryLoop (w : World) (total : ℤ) (st : LoopState) : Prop where
  /-- No broker call was made. -/
  silent : NoBrokerCall w st.world
  /-- Everything is filled. -/
  filled : st.totalFilled=total
  /-- Nothing is carried over. -/
  carryover : st.carryover=0

/-- An interval of a dry run fills its slice, unless there is none. -/
theorem DryLoop.slice {w : World} {total : ℤ} {st : LoopState} (h : DryLoop w total st)
    (request : OrderRequest) {attempts : ℕ} (hattempts : 0<attempts) (reason : ℕ→ℕ→String)
    (slice : ℤ×ℕ) :
    DryLoop w (total+max 0 slice.1) (runSlice true d request attempts reason st slice) := by
  have hrange : List.range attempts≠[] := by
    rw [Ne,List.range_eq_nil]
    omega
  have hloop := attempts_dry d request (reason slice.2) slice.1 (List.range attempts)
    ⟨st.world,0,st.totalCost,st.subResults⟩
  rw [if_neg hrange] at hloop
  unfold runSlice
  dsimp only
  rw [h.carryover,add_zero]
  by_cases hskip : slice.1≤0
  · rw [if_pos hskip,max_eq_left hskip,add_zero]
    exact h
  · rw [if_neg hskip]
    have hfilled : ((List.range attempts).foldl
        (attemptSlice true d request (reason slice.2) slice.1)
        ⟨st.world,0,st.totalCost,st.subResults⟩).filledInSlice=slice.1 := by
      have hpos : max 0 slice.1=slice.1 := max_eq_right (by omega)
      exact hloop.2.trans hpos
    refine ⟨⟨hloop.1.1.trans h.silent.1,hloop.1.2.trans h.silent.2⟩,?_,?_⟩
    · dsimp only
      rw [hfilled,h.filled,max_eq_right (by omega)]
    · dsimp only
      rw [hfilled,sub_self]

/-- Shares of the positive slices of a plan. -/
def positiveSum (slices : List ℤ) : ℤ := (slices.map (max 0)).sum

/-- A dry run fills every positive slice of its plan. -/
theorem runSlices_dry (request : OrderRequest) {attempts : ℕ} (hattempts : 0<attempts)
    (reason : ℕ→ℕ→String) (slices : List ℤ) (w : World) :
    DryLoop w (positiveSum slices) (runSlices true d request attempts reason slices w) := by
  have hloop : ∀ (rest : List ℤ) (i : ℕ) (total : ℤ) (st : LoopState),DryLoop w total st→
      DryLoop w (total+positiveSum rest)
        ((rest.zipIdx i).foldl (runSlice true d request attempts reason) st) := by
    intro rest
    induction rest with
    | nil =>
      intro i total st h
      rw [positiveSum,List.map_nil,List.sum_nil,add_zero]
      exact h
    | cons slice rest ih =>
      intro i total st h
      have hnext := ih (i+1) _ _ (h.slice d request hattempts reason (slice,i))
      rw [positiveSum,List.map_cons,List.sum_cons,← add_assoc,List.zipIdx_cons,List.foldl_cons]
      exact hnext
  have hend := hloop slices 0 0 ⟨w,0,0,[],0⟩ ⟨⟨rfl,rfl⟩,rfl,rfl⟩
  rw [zero_add] at hend
  exact hend

/-- Quantity that a dry run of a valid order books. -/
def dryQuantity (request : OrderRequest) : ℤ :=
  match request.orderType with
  | .market => request.quantity
  | .limit => request.quantity/2
  | .twap => request.quantity
  | .vwap => positiveSum (vwapSlices request.quantity (vwapProfile 6 []))

/-- No slice of a TWAP order is negative. -/
theorem positiveSum_twapSlices {quantity : ℤ} (h : 0<quantity) :
    positiveSum (twapSlices quantity 6)=quantity := by
  have hsame : (twapSlices quantity 6).map (max 0)=(twapSlices quantity 6).map id := by
    refine List.map_congr_left ?_
    intro slice hslice
    obtain ⟨i,_,hi⟩ := List.mem_map.mp hslice
    refine max_eq_right ?_
    rw [← hi]
    split
    · omega
    · omega
  rw [positiveSum,hsame,List.map_id]
  exact twapSlices_sum quantity (by decide)

/-- The result of a valid dry run: it is booked with what the order type makes
up, and no broker is called. -/
theorem dispatchOrder_dry {call : Call} (hvalid : validateOrder call.request=.ok ()) (w : World) :
    NoBrokerCall w (dispatchOrder true d call w).2 ∧
      ∃ result,(dispatchOrder true d call w).1=.ok result ∧
        result.filledQuantity=dryQuantity call.request ∧
        (booksFill result=true ↔ 0<dryQuantity call.request) := by
  have hquantity : 0< call.request.quantity := by
    unfold validateOrder at hvalid
    split at hvalid
    · cases hvalid
    · omega
  unfold dispatchOrder dryQuantity
  cases htype : call.request.orderType with
  | market =>
    dsimp only [marketOrder]
    rw [if_pos rfl]
    refine ⟨⟨rfl,rfl⟩,_,rfl,rfl,?_⟩
    simp only [booksFill,dryResult,decide_true,Bool.true_or,Bool.true_and]
    exact decide_eq_true_iff
  | limit =>
    have hprice : ¬∀ price∈call.request.limitPrice,price≤0 := by
      intro hnone
      unfold validateOrder at hvalid
      rw [if_neg (by omega),if_pos ⟨htype,hnone⟩] at hvalid
      cases hvalid
    have hhalf : call.request.quantity.tdiv 2=call.request.quantity/2 :=
      Int.tdiv_eq_ediv_of_nonneg hquantity.le
    dsimp only [limitOrder]
    rw [if_neg hprice,if_pos rfl]
    refine ⟨⟨rfl,rfl⟩,_,rfl,hhalf,?_⟩
    simp [booksFill,dryResult,hhalf]
  | twap =>
    have hloop := runSlices_dry d call.request (show 0<3 by decide) (twapReason 6)
      (twapSlices call.request.quantity 6) w
    rw [positiveSum_twapSlices hquantity] at hloop
    refine ⟨hloop.silent,_,rfl,hloop.filled,?_⟩
    have hfilled : (runSlices true d call.request 3 (twapReason 6)
      (twapSlices call.request.quantity 6) w).live.totalFilled=call.request.quantity := hloop.filled
    dsimp only [twapOrder]
    rw [booksFill_slicedResult,hfilled]
  | vwap =>
    have hloop := runSlices_dry d call.request (show 0<1 by decide)
      (vwapReason 6 (vwapProfile 6 [])) (vwapSlices call.request.quantity (vwapProfile 6 [])) w
    refine ⟨hloop.silent,_,rfl,hloop.filled,?_⟩
    have hfilled : (runSlices true d call.request 1 (vwapReason 6 (vwapProfile 6 []))
      (vwapSlices call.request.quantity (vwapProfile 6 [])) w).live.totalFilled=
        positiveSum (vwapSlices call.request.quantity (vwapProfile 6 [])) := hloop.filled
    dsimp only [vwapOrder]
    rw [booksFill_slicedResult,hfilled]

end Dry

/-- The ledger after a submitted order is that of the ledger update. -/
theorem finish_ledger (call : Call) (ledger : Ledger) (result : OrderResult) :
    (finish call ledger (.ok result)).ledger=
      match bookFill call result ledger with
      | .ok ledger' => ledger'
      | .error _ => ledger := by
  unfold finish
  dsimp only
  cases bookFill call result ledger with
  | error text => rfl
  | ok ledger' =>
    cases call.audit with
    | none => rfl
    | some text => rfl

/-- The fill of an order is not booked: a blank ticker, a repository that raises
or more shares sold than held. -/
def FillRejected (call : Call) (ledger : Ledger) (quantity : ℤ) : Prop :=
  isBlank call.request.ticker=true ∨ call.ledgerFailure≠none ∨
    ledger.position call.request.ticker+signed call.request.side quantity<0

/-- A recorded fill changes the positions. -/
theorem recordFill_positions_ne {ledger ledger' : Ledger} {failure : Option String}
    {ticker : String} {side : OrderSide} {quantity : ℚ} (hpos : 0<quantity)
    (h : ledger.recordFill failure ticker side quantity=.ok ledger') :
    ledger'.positions≠ledger.positions := by
  intro hsame
  have hbooked := Ledger.recordFill_position h ticker
  have hkept : ledger'.position ticker=ledger.position ticker := by
    unfold Ledger.position
    rw [hsame]
  rw [if_pos rfl,hkept] at hbooked
  have hzero : signed side quantity=0 := by linarith
  cases side with
  | buy => exact hpos.ne' hzero
  | sell => exact hpos.ne' (neg_eq_zero.mp hzero)

/-- The ledger update leaves the positions exactly when there is nothing to book
or the fill is rejected. -/
theorem finish_positions_iff (call : Call) (ledger : Ledger) {result : OrderResult}
    (hbooks : booksFill result=true ↔ 0 < result.filledQuantity) :
    (finish call ledger (.ok result)).ledger.positions=ledger.positions ↔
      result.filledQuantity≤0 ∨ FillRejected call ledger result.filledQuantity := by
  rw [finish_ledger]
  unfold bookFill FillRejected
  by_cases hpos : 0 < result.filledQuantity
  · have hquantity : (0 : ℚ) < result.filledQuantity := by exact_mod_cast hpos
    have hrecorded := ledger.recordFill_ok_iff call.ledgerFailure call.request.ticker
      call.request.side result.filledQuantity
    rw [if_pos (hbooks.mpr hpos)]
    cases hrun : ledger.recordFill call.ledgerFailure call.request.ticker call.request.side
        result.filledQuantity with
    | ok ledger' =>
      obtain ⟨hblank,_,hfailure,hheld⟩ := hrecorded.mp ⟨ledger',hrun⟩
      simp [recordFill_positions_ne hquantity hrun,hpos.not_ge,hblank,hfailure,hheld.not_gt]
    | error error =>
      have hrejected : isBlank call.request.ticker=true ∨ call.ledgerFailure≠none ∨
          ledger.position call.request.ticker+signed call.request.side result.filledQuantity<0 := by
        by_contra hnone
        simp only [not_or,not_not,not_lt,Bool.not_eq_true] at hnone
        obtain ⟨ledger',hok⟩ := hrecorded.mpr ⟨hnone.1,hquantity,hnone.2.1,hnone.2.2⟩
        rw [hrun] at hok
        cases hok
      cases error with
      | refused ticker current delta => simp [hrejected]
      | blankTicker => simp [hrejected]
      | quantityNotPositive quantity => simp [hrejected]
      | repository text => simp [hrejected]
  · rw [if_neg (fun h => hpos (hbooks.mp h))]
    simp [not_lt.mp hpos]

section Harmless

variable (d : Draws)

/-- The checks that a dry run makes before it executes. -/
theorem checkOrder_dry (call : Call) :
    checkOrder true call=.ok () ↔ call.guarded=none ∧ validateOrder call.request=.ok () := by
  unfold checkOrder
  cases call.guarded with
  | some text => simp [raising,bind,Except.bind]
  | none =>
    cases validateOrder call.request with
    | error text => simp [raising,bind,Except.bind]
    | ok _ => simp [raising,bind,Except.bind,pure,Except.pure]

/-- A dry run that is refused, or whose fill is not booked. -/
def DryRunHarmless (call : Call) (ledger : Ledger) : Prop :=
  call.guarded≠none ∨ validateOrder call.request≠.ok () ∨ dryQuantity call.request≤0 ∨
    FillRejected call ledger (dryQuantity call.request)

/-- A dry run calls no broker, and leaves the positions exactly when it is
refused or its fill is not booked. -/
theorem execute_dry (call : Call) (ledger : Ledger) :
    ((execute true d call ledger).2.placed=[] ∧ (execute true d call ledger).2.broker=call.broker) ∧
      ((execute true d call ledger).1.ledger.positions=ledger.positions ↔
        DryRunHarmless call ledger) := by
  have hchecks := checkOrder_dry call
  unfold execute submit DryRunHarmless
  cases hrun : checkOrder true call with
  | error text =>
    have hrefused : ¬(call.guarded=none ∧ validateOrder call.request=.ok ()) := by
      intro hpass
      rw [hchecks.mpr hpass] at hrun
      cases hrun
    refine ⟨⟨rfl,rfl⟩,?_⟩
    simp only [finish,failWith,true_iff]
    by_cases hguard : call.guarded=none
    · exact .inr (.inl fun hvalid => hrefused ⟨hguard,hvalid⟩)
    · exact .inl hguard
  | ok _ =>
    obtain ⟨hguard,hvalid⟩ := hchecks.mp hrun
    obtain ⟨hsilent,result,hresult,hfilled,hbooks⟩ :=
      dispatchOrder_dry d hvalid ⟨call.broker,[],[]⟩
    refine ⟨⟨hsilent.2,hsilent.1⟩,?_⟩
    dsimp only
    rw [hresult]
    have hsubmitted : (do
        let result ← Except.ok result
        checkSlippage true call result
        return result : Except String OrderResult)=.ok result := by
      simp [checkSlippage,bind,Except.bind,pure,Except.pure]
    rw [hsubmitted,finish_positions_iff call ledger (by rw [hbooks,hfilled]),hfilled]
    simp [hguard,hvalid]

/-- A dry run makes no broker call and leaves the positions exactly when it is
refused before it executes, has nothing to book, or its fill is rejected. -/
theorem dryRun_harmless_iff (call : Call) (ledger : Ledger) :
    (execute true d call ledger).2.placed=[] ∧
        (execute true d call ledger).2.broker=call.broker ∧
        (execute true d call ledger).1.ledger.positions=ledger.positions ↔
      DryRunHarmless call ledger := by
  obtain ⟨⟨hplaced,hbroker⟩,hpositions⟩ := execute_dry d call ledger
  rw [← hpositions]
  exact ⟨fun h => h.2.2,fun h => ⟨hplaced,hbroker,h⟩⟩

end Harmless

/-- A dry run of a market order over ten shares. -/
def dryMarketOrder : Call where
  request := ⟨"005930",.krx,.buy,10,.market,none,""⟩
  guarded := none
  quoted := none
  broker := []
  slippage := none
  ledgerFailure := none
  audit := none
  stamp := ""
  uuid := ""
  now := 0
  floatText := fun _ => ""

/-- A dry run books ten shares that nobody holds. -/
theorem dry_run_books_fill :
    ¬∀ (d : Draws) (call : Call) (ledger : Ledger),
      (execute true d call ledger).2.placed=[] ∧
        (execute true d call ledger).2.broker=call.broker ∧
        (execute true d call ledger).1.ledger.positions=ledger.positions := by
  intro hall
  have hkept := (hall ⟨fun _ => "0",fun _ => "0",fun _ => 0⟩ dryMarketOrder Ledger.empty).2.2
  have hten : (execute true ⟨fun _ => "0",fun _ => "0",fun _ => 0⟩ dryMarketOrder
      Ledger.empty).1.ledger.positions "005930"=some 10 := by decide +kernel
  rw [hkept] at hten
  cases hten

end Aqts.DryRun
