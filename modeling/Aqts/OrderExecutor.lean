import Aqts.Binary64
import Aqts.OrdersTable
import Aqts.PortfolioLedger
import Mathlib.Algebra.BigOperators.Group.List.Basic
import Mathlib.Data.Rat.Floor
import Mathlib.Tactic.Linarith

/-!
# Execution of an order

`OrderExecutor.execute_order` in live mode: the checks, the broker calls of the
four order types, the ledger update and the rows sent to the `orders` table.
The contract check, the trading guard, the quote checks, the broker, the audit
log and the identifiers drawn on the way are inputs of a call. Market and limit
orders return what the broker said at submission; the sliced orders run a loop
of market orders with a carryover.
-/

namespace Aqts.OrderExecutor

open OrderTypes OrdersTable PortfolioLedger Binary64
open PandasSeries (roundHalfEven)

/-- Outcome of one broker call. -/
inductive BrokerOutcome
  /-- Accepted, with the order number, the quantity and the price of the answer. -/
  | accepted (orderId : String) (filledQty : ℤ) (avgPrice : ℚ)
  /-- Accepted, with a quantity or a price that is no number. -/
  | unreadable (text : String)
  /-- No token, or refused by the broker. -/
  | raises (text : String)
  deriving DecidableEq

/-- One broker call with the identifier and the instant drawn beside it. -/
structure BrokerCall where
  /-- What the broker answered. -/
  outcome : BrokerOutcome
  /-- Hexadecimal digits for an order without a number. -/
  uuid : String
  /-- Instant of the answer. -/
  now : ℚ
  deriving DecidableEq

/-- Quantity that an answer reports as filled. -/
def BrokerCall.filledQty (answer : BrokerCall) : ℤ :=
  match answer.outcome with
  | .accepted _ filledQty _ => filledQty
  | _ => 0

/-- A broker without a further answer raises. -/
def noAnswer : BrokerCall := ⟨.raises "","",0⟩

/-- The next answer and those that remain. -/
def nextAnswer : List BrokerCall→BrokerCall×List BrokerCall
  | [] => (noAnswer,[])
  | answer::answers => (answer,answers)

/-- `_validate_order`. -/
def validateOrder (request : OrderRequest) : Except String Unit :=
  if request.quantity≤0 then
    .error ("주문 수량은 0보다 커야 합니다: "++toString request.quantity)
  else if request.orderType=.limit ∧ ∀ price∈request.limitPrice,price≤0 then
    .error "지정가 주문에는 유효한 limit_price가 필요합니다"
  else .ok ()

/-- Result of an accepted order; its type is left at the default. -/
def submitted (request : OrderRequest) (orderId : String) (filledQty : ℤ) (avgPrice now : ℚ) :
    OrderResult where
  orderId := orderId
  ticker := request.ticker
  market := request.market
  side := request.side
  quantity := request.quantity
  filledQuantity := filledQty
  avgPrice := avgPrice
  status := .submitted
  executedAt := now

/-- `_execute_market_order`. -/
def executeMarketOrder (request : OrderRequest) (answer : BrokerCall) : Except String OrderResult :=
  match answer.outcome with
  | .raises text => .error text
  | .unreadable text => .error text
  | .accepted orderId filledQty avgPrice =>
    .ok (submitted request (if orderId="" then "KIS_"++answer.uuid else orderId) filledQty avgPrice
      answer.now)

/-- `_execute_limit_order`, which keeps an empty order number. -/
def executeLimitOrder (request : OrderRequest) (answer : BrokerCall) : Except String OrderResult :=
  if ∀ price∈request.limitPrice,price≤0 then
    .error "지정가 주문에는 유효한 limit_price가 필요합니다"
  else
    match answer.outcome with
    | .raises text => .error text
    | .unreadable text => .error text
    | .accepted orderId filledQty avgPrice =>
      .ok (submitted request orderId filledQty avgPrice answer.now)

/-- Variables of the retry loop of one slice. -/
structure SliceProgress where
  /-- Broker answers not used yet. -/
  broker : List BrokerCall
  /-- `filled_in_slice`. -/
  filledInSlice : ℤ
  /-- `total_cost`. -/
  totalCost : ℚ
  /-- `sub_results`. -/
  subResults : List OrderResult

/-- One attempt on a slice. A slice that is filled breaks the loop, which is to
leave the attempts that remain without effect. -/
def sliceAttempt (request : OrderRequest) (reason : ℕ→String) (sliceQty : ℤ) (p : SliceProgress)
    (attempt : ℕ) : SliceProgress :=
  if sliceQty-p.filledInSlice≤0 then p
  else
    let subRequest : OrderRequest := {
      ticker := request.ticker
      market := request.market
      side := request.side
      quantity := sliceQty-p.filledInSlice
      reason := reason attempt }
    let answer := nextAnswer p.broker
    match executeMarketOrder subRequest answer.1 with
    | .error _ => {p with broker := answer.2}
    | .ok result => {
        broker := answer.2
        filledInSlice := p.filledInSlice+result.filledQuantity
        totalCost := p.totalCost+result.filledQuantity*result.avgPrice
        subResults := p.subResults++[result] }

/-- Variables of the loop over the intervals. -/
structure SliceState where
  /-- Broker answers not used yet. -/
  broker : List BrokerCall
  /-- `total_filled`. -/
  totalFilled : ℤ
  /-- `total_cost`. -/
  totalCost : ℚ
  /-- `sub_results`. -/
  subResults : List OrderResult
  /-- `carryover`. -/
  carryover : ℤ

/-- One interval: the slice with the carryover, and its attempts. -/
def executeSlice (request : OrderRequest) (attempts : ℕ) (reason : ℕ→ℕ→String) (st : SliceState)
    (slice : ℤ×ℕ) : SliceState :=
  let sliceQty := slice.1+st.carryover
  if sliceQty≤0 then st
  else
    let p := (List.range attempts).foldl (sliceAttempt request (reason slice.2) sliceQty)
      ⟨st.broker,0,st.totalCost,st.subResults⟩
    { broker := p.broker
      totalFilled := st.totalFilled+p.filledInSlice
      totalCost := p.totalCost
      subResults := p.subResults
      carryover := sliceQty-p.filledInSlice }

/-- The loop over the intervals. -/
def executeSlices (request : OrderRequest) (attempts : ℕ) (reason : ℕ→ℕ→String)
    (slices : List ℤ) (broker : List BrokerCall) : SliceState :=
  slices.zipIdx.foldl (executeSlice request attempts reason) ⟨broker,0,0,[],0⟩

/-- Result of a sliced order; its type is left at the default. -/
def slicedResult (label : String) (request : OrderRequest) (stamp : String) (now : ℚ)
    (st : SliceState) : OrderResult where
  orderId := label++"_"++request.ticker++"_"++stamp
  ticker := request.ticker
  market := request.market
  side := request.side
  quantity := request.quantity
  filledQuantity := st.totalFilled
  avgPrice := if 0< st.totalFilled then st.totalCost/st.totalFilled else 0
  status :=
    if request.quantity ≤ st.totalFilled then .filled
    else if 0< st.totalFilled then .partialFill
    else .failed
  executedAt := now

/-- Slices of a TWAP order; the last one gets the remainder. -/
def twapSlices (quantity : ℤ) (numIntervals : ℕ) : List ℤ :=
  (List.range numIntervals).map fun i =>
    quantity/numIntervals+(if i+1=numIntervals then quantity%numIntervals else 0)

/-- `_execute_twap_order`. -/
def executeTwapOrder (request : OrderRequest) (numIntervals maxRetryPerSlice : ℕ)
    (broker : List BrokerCall) (stamp : String) (now : ℚ) : OrderResult :=
  slicedResult "TWAP" request stamp now
    (executeSlices request (maxRetryPerSlice+1)
      (fun i attempt => "TWAP "++toString (i+1)++"/"++toString numIntervals++
        (if 0<attempt then " retry-"++toString attempt else ""))
      (twapSlices request.quantity numIntervals) broker)

/-- `VWAP_VOLUME_PROFILE`. -/
def vwapVolumeProfile : List ℚ :=
  [fl (22/100),fl (12/100),fl (10/100),fl (10/100),fl (16/100),fl (30/100)]

/-- Weights divided by their sum, if that is positive. A sum beyond the floats
divides every weight to zero. -/
def normalizedProfile (profile : List ℚ) : List ℚ :=
  match floatSum profile with
  | .ok profileSum => if 0< profileSum then profile.map fun p => fl (p/profileSum) else profile
  | .error positive => if positive=true then profile.map fun _ => 0 else profile

/-- Normalised profile for the intervals; an empty profile is the default, and
one of another length is replaced by equal weights. -/
def vwapProfile (numIntervals : ℕ) (volumeProfile : List ℚ) : List ℚ :=
  let chosen := if volumeProfile=[] then vwapVolumeProfile else volumeProfile
  normalizedProfile (if chosen.length=numIntervals then chosen
    else List.replicate numIntervals (fl (1/fl numIntervals)))

/-- The quantity of an interval: its rounded part of the quantity, at least one. -/
def vwapPart (quantity : ℤ) (p : ℚ) : ℤ := max 1 (roundHalfEven (fl (fl quantity*p)))

/-- Slices of a VWAP order: rounded, at least one each, with the difference to
the quantity on the first interval of the largest weight. -/
def vwapSlices (quantity : ℤ) (profile : List ℚ) : List ℤ :=
  let rounded := profile.map (vwapPart quantity)
  if quantity-rounded.sum=0 then rounded
  else rounded.modify (profile.idxOf (profile.max?.getD 0)) (·+(quantity-rounded.sum))

/-- `_execute_vwap_order`, with one attempt for each slice. -/
def executeVwapOrder (request : OrderRequest) (numIntervals : ℕ) (volumeProfile : List ℚ)
    (broker : List BrokerCall) (stamp : String) (now : ℚ) : OrderResult :=
  let profile := vwapProfile numIntervals volumeProfile
  slicedResult "VWAP" request stamp now
    (executeSlices request 1
      (fun i _ => "VWAP "++toString (i+1)++"/"++toString numIntervals++
        " ("++toString (roundHalfEven (fl (100*profile.getD i 0)))++"%)")
      (vwapSlices request.quantity profile) broker)

/-- A call of `execute_order` with what its surroundings do. -/
structure Call where
  /-- The order. -/
  request : OrderRequest
  /-- Exception of the contract check or of the trading guard. -/
  guarded : Option String
  /-- Exception of the quote and pre-trade price checks. -/
  quoted : Option String
  /-- Answers of the broker, in the order of the calls. -/
  broker : List BrokerCall
  /-- Exception of the post-trade check. -/
  slippage : Option String
  /-- Exception of the ledger's repository. -/
  ledgerFailure : Option String
  /-- Exception of the audit log. -/
  audit : Option String
  /-- Text of the time stamp in the number of a sliced order. -/
  stamp : String
  /-- Hexadecimal digits for the number of a failed order. -/
  uuid : String
  /-- Instant of the result. -/
  now : ℚ
  /-- Text Python gives a float. -/
  floatText : ℚ→String

/-- A step that may raise. -/
def raising : Option String→Except String Unit
  | none => .ok ()
  | some text => .error text

/-- Execution by order type, with the default arguments. -/
def dispatch (call : Call) : Except String OrderResult :=
  match call.request.orderType with
  | .market => executeMarketOrder call.request (nextAnswer call.broker).1
  | .limit => executeLimitOrder call.request (nextAnswer call.broker).1
  | .twap => .ok (executeTwapOrder call.request 6 2 call.broker call.stamp call.now)
  | .vwap => .ok (executeVwapOrder call.request 6 [] call.broker call.stamp call.now)

/-- `execute_order` up to the ledger update. -/
def submitOrder (call : Call) : Except String OrderResult := do
  raising call.guarded
  validateOrder call.request
  raising call.quoted
  let result ← dispatch call
  if 0 < result.filledQuantity ∧ 0 < result.avgPrice then raising call.slippage
  return result

/-- The result is booked in the ledger. -/
def booksFill (result : OrderResult) : Bool :=
  (result.status=.filled || result.status=.partialFill) && 0 < result.filledQuantity

/-- The ledger update of `execute_order`; a refused fill is only logged. -/
def bookFill (call : Call) (result : OrderResult) (ledger : Ledger) : Except String Ledger :=
  if booksFill result=true then
    match ledger.recordFill call.ledgerFailure call.request.ticker call.request.side
        result.filledQuantity with
    | .ok ledger' => .ok ledger'
    | .error (.refused _ _ _) => .ok ledger
    | .error error => .error (error.message call.floatText)
  else .ok ledger

/-- The INSERT of `_store_order`. -/
def storedRow (result : OrderResult) : OrderRow where
  orderId := result.orderId
  ticker := result.ticker
  market := result.market.value
  side := result.side
  orderType := result.orderType.value
  quantity := result.quantity
  filledQuantity := result.filledQuantity
  filledPrice := result.avgPrice
  status := result.status.value
  createdAt := result.executedAt
  filledAt := none
  errorMessage := result.errorMessage

/-- The result that the exception branch stores. -/
def failedResult (call : Call) (text : String) : OrderResult where
  orderId := "FAIL_"++call.uuid
  ticker := call.request.ticker
  market := call.request.market
  side := call.request.side
  quantity := call.request.quantity
  filledQuantity := 0
  avgPrice := 0
  status := .failed
  executedAt := call.now
  orderType := call.request.orderType
  errorMessage := text

/-- Effects of a call. A failed INSERT is only logged, so the rows do not depend
on the table. -/
structure Execution where
  /-- The ledger afterwards. -/
  ledger : Ledger
  /-- Rows sent to `orders`, in order. -/
  stores : List OrderRow
  /-- The result returned, or the exception raised. -/
  outcome : Except String OrderResult

/-- The exception branch of `execute_order`, after the rows stored before. -/
def failWith (call : Call) (ledger : Ledger) (stores : List OrderRow) (text : String) : Execution :=
  ⟨ledger,stores++[storedRow (failedResult call text)],.error text⟩

/-- `execute_order`. -/
def executeOrder (call : Call) (ledger : Ledger) : Execution :=
  match submitOrder call with
  | .error text => failWith call ledger [] text
  | .ok result =>
    match bookFill call result ledger with
    | .error text => failWith call ledger [] text
    | .ok ledger' =>
      match call.audit with
      | some text => failWith call ledger' [storedRow result] text
      | none => ⟨ledger',[storedRow result],.ok result⟩

/-- A computation that succeeds has a first step that succeeds. -/
theorem bind_ok {α β : Type} {first : Except String α} {next : α→Except String β} {value : β}
    (h : first>>=next=.ok value) : ∃ a,first=.ok a ∧ next a=.ok value := by
  cases first with
  | error text => cases h
  | ok a => exact ⟨a,rfl,h⟩

/-- An order that reaches the ledger update has passed the checks of
`_validate_order` and was executed. -/
theorem submitOrder_ok {call : Call} {result : OrderResult} (h : submitOrder call=.ok result) :
    validateOrder call.request=.ok () ∧ dispatch call=.ok result := by
  unfold submitOrder at h
  obtain ⟨_,_,h⟩ := bind_ok h
  obtain ⟨_,hvalid,h⟩ := bind_ok h
  obtain ⟨_,_,h⟩ := bind_ok h
  obtain ⟨executed,hrun,h⟩ := bind_ok h
  have hsame : executed=result := by
    split at h
    · obtain ⟨_,_,h⟩ := bind_ok h
      cases h
      rfl
    · cases h
      rfl
  rw [hsame] at hrun
  exact ⟨hvalid,hrun⟩

/-- The quantity of an accepted answer. -/
theorem filledQty_accepted {answer : BrokerCall} {orderId : String} {filledQty : ℤ} {avgPrice : ℚ}
    (h : answer.outcome=.accepted orderId filledQty avgPrice) : answer.filledQty=filledQty := by
  unfold BrokerCall.filledQty
  rw [h]

/-- A market order that is accepted is a submitted order of its request, with
the quantity that the broker reported. -/
theorem executeMarketOrder_ok {request : OrderRequest} {answer : BrokerCall} {result : OrderResult}
    (h : executeMarketOrder request answer=.ok result) :
    result.ticker=request.ticker ∧ result.side=request.side ∧ result.status=.submitted ∧
      result.filledQuantity=answer.filledQty := by
  unfold executeMarketOrder at h
  split at h
  · cases h
  · cases h
  · rename_i orderId filledQty avgPrice hout
    cases h
    exact ⟨rfl,rfl,rfl,(filledQty_accepted hout).symm⟩

/-- A limit order that is accepted is a submitted order of its request, with
the quantity that the broker reported. -/
theorem executeLimitOrder_ok {request : OrderRequest} {answer : BrokerCall} {result : OrderResult}
    (h : executeLimitOrder request answer=.ok result) :
    result.ticker=request.ticker ∧ result.side=request.side ∧ result.status=.submitted ∧
      result.filledQuantity=answer.filledQty := by
  unfold executeLimitOrder at h
  split at h
  · cases h
  · split at h
    · cases h
    · cases h
    · rename_i orderId filledQty avgPrice hout
      cases h
      exact ⟨rfl,rfl,rfl,(filledQty_accepted hout).symm⟩

/-- Every order result is about the ticker and the side of the request. -/
theorem dispatch_request {call : Call} {result : OrderResult} (h : dispatch call=.ok result) :
    result.ticker=call.request.ticker ∧ result.side=call.request.side := by
  unfold dispatch at h
  split at h
  · have hok := executeMarketOrder_ok h
    exact ⟨hok.1,hok.2.1⟩
  · have hok := executeLimitOrder_ok h
    exact ⟨hok.1,hok.2.1⟩
  · cases h
    exact ⟨rfl,rfl⟩
  · cases h
    exact ⟨rfl,rfl⟩

/-- Market and limit orders return as submitted, with the quantity of the first
answer. -/
theorem dispatch_submitted {call : Call} {result : OrderResult} (h : dispatch call=.ok result)
    (htype : call.request.orderType=.market ∨ call.request.orderType=.limit) :
    result.status=.submitted ∧ result.filledQuantity=(nextAnswer call.broker).1.filledQty := by
  unfold dispatch at h
  obtain htype | htype := htype
  · rw [htype] at h
    exact (executeMarketOrder_ok h).2.2
  · rw [htype] at h
    exact (executeLimitOrder_ok h).2.2

/-- The answers report no negative quantity. -/
def FillsNonneg (broker : List BrokerCall) : Prop := ∀ answer∈broker,0≤answer.filledQty

instance : DecidablePred FillsNonneg := fun broker =>
  inferInstanceAs (Decidable (∀ answer∈broker,0≤answer.filledQty))

/-- The next answer reports no negative quantity, and neither do the others. -/
theorem FillsNonneg.next {broker : List BrokerCall} (h : FillsNonneg broker) :
    0≤(nextAnswer broker).1.filledQty ∧ FillsNonneg (nextAnswer broker).2 := by
  cases broker with
  | nil => exact ⟨le_refl 0,h⟩
  | cons answer answers =>
    exact ⟨h answer List.mem_cons_self,fun other ho => h other (List.mem_cons_of_mem answer ho)⟩

/-- An attempt does not take back what a slice has filled. -/
theorem sliceAttempt_nonneg (request : OrderRequest) (reason : ℕ→String) (sliceQty : ℤ)
    {p : SliceProgress} (attempt : ℕ) (h : 0≤p.filledInSlice ∧ FillsNonneg p.broker) :
    0≤(sliceAttempt request reason sliceQty p attempt).filledInSlice ∧
      FillsNonneg (sliceAttempt request reason sliceQty p attempt).broker := by
  unfold sliceAttempt
  split
  · exact h
  · have hnext := h.2.next
    dsimp only
    split
    · exact ⟨h.1,hnext.2⟩
    · rename_i result hr
      have hfilled := (executeMarketOrder_ok hr).2.2.2
      refine ⟨?_,hnext.2⟩
      dsimp only
      omega

/-- An interval does not take back what an order has filled. -/
theorem executeSlice_nonneg (request : OrderRequest) (attempts : ℕ) (reason : ℕ→ℕ→String)
    {st : SliceState} (slice : ℤ×ℕ) (h : 0 ≤ st.totalFilled ∧ FillsNonneg st.broker) :
    0≤(executeSlice request attempts reason st slice).totalFilled ∧
      FillsNonneg (executeSlice request attempts reason st slice).broker := by
  unfold executeSlice
  dsimp only
  split
  · exact h
  · have hloop := List.foldlRecOn (motive := fun p : SliceProgress =>
      0≤p.filledInSlice ∧ FillsNonneg p.broker) (List.range attempts)
      (sliceAttempt request (reason slice.2) (slice.1+st.carryover))
      (b := ⟨st.broker,0,st.totalCost,st.subResults⟩) ⟨le_refl 0,h.2⟩
      (fun p hp attempt _ => sliceAttempt_nonneg request _ _ attempt hp)
    refine ⟨?_,hloop.2⟩
    have hfilled := hloop.1
    dsimp only at hfilled ⊢
    omega

/-- The slices of an order never fill a negative quantity. -/
theorem executeSlices_nonneg (request : OrderRequest) (attempts : ℕ) (reason : ℕ→ℕ→String)
    (slices : List ℤ) {broker : List BrokerCall} (h : FillsNonneg broker) :
    0≤(executeSlices request attempts reason slices broker).totalFilled :=
  (List.foldlRecOn (motive := fun st : SliceState => 0 ≤ st.totalFilled ∧ FillsNonneg st.broker)
    slices.zipIdx (executeSlice request attempts reason) (b := ⟨broker,0,0,[],0⟩) ⟨le_refl 0,h⟩
    (fun _ hst slice _ => executeSlice_nonneg request attempts reason slice hst)).1

/-- A sliced order is booked exactly when it filled something. -/
theorem booksFill_slicedResult (label : String) (request : OrderRequest) (stamp : String) (now : ℚ)
    (st : SliceState) :
    booksFill (slicedResult label request stamp now st)=true ↔ 0 < st.totalFilled := by
  unfold booksFill slicedResult
  dsimp only
  by_cases hpos : 0 < st.totalFilled
  · by_cases hall : request.quantity ≤ st.totalFilled
    · simp [hall,hpos]
    · simp [hall,hpos]
  · simp [hpos]

/-- A sliced order that filled something is booked. -/
theorem slicedResult_books (label : String) (request : OrderRequest) (stamp : String) (now : ℚ)
    {st : SliceState} (h : 0 ≤ st.totalFilled) :
    (slicedResult label request stamp now st).filledQuantity=0 ∨
      booksFill (slicedResult label request stamp now st)=true := by
  obtain hzero | hpos := h.eq_or_lt
  · exact .inl hzero.symm
  · exact .inr ((booksFill_slicedResult label request stamp now st).mpr hpos)

/-- A sliced order is booked with whatever it filled. -/
theorem dispatch_books {call : Call} {result : OrderResult} (h : dispatch call=.ok result)
    (htype : call.request.orderType=.twap ∨ call.request.orderType=.vwap)
    (hfills : FillsNonneg call.broker) : result.filledQuantity=0 ∨ booksFill result=true := by
  unfold dispatch at h
  obtain htype | htype := htype
  · rw [htype] at h
    cases h
    exact slicedResult_books _ _ _ _ (executeSlices_nonneg _ _ _ _ hfills)
  · rw [htype] at h
    cases h
    exact slicedResult_books _ _ _ _ (executeSlices_nonneg _ _ _ _ hfills)

/-- The slices of a TWAP order add up to its quantity. -/
theorem twapSlices_sum (quantity : ℤ) {numIntervals : ℕ} (hn : 0<numIntervals) :
    (twapSlices quantity numIntervals).sum=quantity := by
  obtain ⟨m,rfl⟩ := Nat.exists_eq_add_of_lt hn
  unfold twapSlices
  rw [zero_add,List.range_succ,List.map_append,List.sum_append,List.map_singleton,
    List.sum_singleton,if_pos rfl]
  have hbase : (List.range m).map (fun i => quantity/((m+1 : ℕ) : ℤ)+
      (if i+1=m+1 then quantity%((m+1 : ℕ) : ℤ) else 0))=
      (List.range m).map (fun _ => quantity/((m+1 : ℕ) : ℤ)) := by
    refine List.map_congr_left ?_
    intro i hi
    have hlt := List.mem_range.mp hi
    rw [if_neg (by omega),add_zero]
  rw [hbase,List.map_const',List.sum_replicate,List.length_range,nsmul_eq_mul]
  have hdivision := Int.mul_ediv_add_emod quantity ((m+1 : ℕ) : ℤ)
  push_cast at hdivision ⊢
  linarith

/-- Adding to one entry adds to the sum. -/
theorem sum_modify (slices : List ℤ) {i : ℕ} (amount : ℤ) (h : i< slices.length) :
    (slices.modify i (·+amount)).sum=slices.sum+amount := by
  induction slices generalizing i with
  | nil => exact absurd h (Nat.not_lt_zero i)
  | cons slice slices ih =>
    cases i with
    | zero =>
      rw [List.modify_zero_cons,List.sum_cons,List.sum_cons]
      omega
    | succ i =>
      have hrest := ih (Nat.lt_of_succ_lt_succ h)
      rw [List.modify_succ_cons,List.sum_cons,List.sum_cons,hrest]
      omega

/-- The slices of a VWAP order add up to its quantity. -/
theorem vwapSlices_sum (quantity : ℤ) {profile : List ℚ} (hp : profile≠[]) :
    (vwapSlices quantity profile).sum=quantity := by
  unfold vwapSlices
  dsimp only
  split
  · omega
  · have hmax : profile.max?.getD 0∈profile := by
      obtain ⟨p,hmaxp⟩ := Option.isSome_iff_exists.mp (List.isSome_max?_of_ne_nil hp)
      rw [hmaxp]
      exact List.max?_mem hmaxp
    have hlt := List.idxOf_lt_length_of_mem hmax
    rw [sum_modify _ _ (by rwa [List.length_map])]
    omega

/-- Dividing by the sum keeps every weight. -/
theorem normalizedProfile_length (profile : List ℚ) :
    (normalizedProfile profile).length=profile.length := by
  unfold normalizedProfile
  split <;> split <;> simp

/-- A profile has a weight for each interval. -/
theorem vwapProfile_length (numIntervals : ℕ) (volumeProfile : List ℚ) :
    (vwapProfile numIntervals volumeProfile).length=numIntervals := by
  have hweights : ∀ chosen : List ℚ,(if chosen.length=numIntervals then chosen
      else List.replicate numIntervals (fl (1/fl numIntervals))).length=numIntervals := by
    intro chosen
    split
    · assumption
    · exact List.length_replicate
  unfold vwapProfile
  dsimp only
  rw [normalizedProfile_length]
  exact hweights _

/-- What a call leaves: the row of a failed order and the ledger as it was, or
the row of the result, followed by that of a failed order when the audit log
raises, and the ledger with the booked fill. -/
theorem executeOrder_cases (call : Call) (ledger : Ledger) :
    ((executeOrder call ledger).ledger=ledger ∧
      ∃ text,(executeOrder call ledger).stores=[storedRow (failedResult call text)]) ∨
    ∃ result,submitOrder call=.ok result ∧
      bookFill call result ledger=.ok (executeOrder call ledger).ledger ∧
      ((executeOrder call ledger).stores=[storedRow result] ∨
        ∃ text,(executeOrder call ledger).stores=
          [storedRow result,storedRow (failedResult call text)]) := by
  unfold executeOrder
  cases hs : submitOrder call with
  | error text => exact .inl ⟨rfl,text,rfl⟩
  | ok result =>
    dsimp only
    cases hb : bookFill call result ledger with
    | error text => exact .inl ⟨rfl,text,rfl⟩
    | ok ledger' =>
      refine .inr ⟨result,rfl,?_⟩
      cases call.audit with
      | none => exact ⟨hb,.inl rfl⟩
      | some text => exact ⟨hb,.inr ⟨text,rfl⟩⟩

/-- A market or limit order leaves the ledger as it was, whatever the broker
filled at submission. -/
theorem executeOrder_submitted_ledger (call : Call) (ledger : Ledger)
    (htype : call.request.orderType=.market ∨ call.request.orderType=.limit) :
    (executeOrder call ledger).ledger=ledger := by
  obtain hfail | ⟨result,hrun,hbook,_⟩ := executeOrder_cases call ledger
  · exact hfail.1
  · have hstatus := (dispatch_submitted (submitOrder_ok hrun).2 htype).1
    have hno : booksFill result=false := by
      unfold booksFill
      rw [hstatus]
      rfl
    unfold bookFill at hbook
    rw [hno] at hbook
    exact (Except.ok.inj hbook).symm

end Aqts.OrderExecutor
