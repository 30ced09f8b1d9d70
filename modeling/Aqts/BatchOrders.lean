import Aqts.CreateOrder
import Aqts.OrderExecutor
import Mathlib.Data.List.Forall2

/-!
# Batches of orders

`execute_batch_orders` runs the SELL orders of a batch before its BUY orders
and keeps the request order within a side, with one result for each request.
`create_batch_orders` pairs the results with the orders of the request body by
position. The executor of a single order is a parameter with a state of its own.
-/

namespace Aqts.BatchOrders

open OrderTypes OrderExecutor PortfolioLedger
open CreateOrder (OrderCreateRequest)

/-- An exception of `execute_order`, with the instant read when it is caught. -/
structure Failure where
  /-- Text of the exception. -/
  text : String
  /-- Instant of the failed result. -/
  now : ℚ
  deriving DecidableEq

/-- The result that stands for an exception; its type is left at the default. -/
def failedInBatch (request : OrderRequest) (failure : Failure) : OrderResult where
  orderId := ""
  ticker := request.ticker
  market := request.market
  side := request.side
  quantity := request.quantity
  filledQuantity := 0
  avgPrice := 0
  status := .failed
  executedAt := failure.now
  errorMessage := failure.text

/-- The result of one order of a batch. -/
def batchResult (request : OrderRequest) : Except Failure OrderResult→OrderResult
  | .ok result => result
  | .error failure => failedInBatch request failure

/-- `[r for r in requests if r.side == OrderSide.SELL]`. -/
def sellOrders (requests : List OrderRequest) : List OrderRequest :=
  requests.filter fun request => request.side=.sell

/-- `[r for r in requests if r.side == OrderSide.BUY]`. -/
def buyOrders (requests : List OrderRequest) : List OrderRequest :=
  requests.filter fun request => request.side=.buy

/-- The order in which a batch is executed. -/
def sellsFirst (requests : List OrderRequest) : List OrderRequest :=
  sellOrders requests++buyOrders requests

/-- `Market(text)`. -/
def parseMarket (text : String) : Except String Market :=
  if text="KRX" then .ok .krx
  else if text="NYSE" then .ok .nyse
  else if text="NASDAQ" then .ok .nasdaq
  else if text="AMEX" then .ok .amex
  else .error ("'"++text++"' is not a valid Market")

/-- `OrderSide(text)`. -/
def parseSide (text : String) : Except String OrderSide :=
  if text="BUY" then .ok .buy
  else if text="SELL" then .ok .sell
  else .error ("'"++text++"' is not a valid OrderSide")

/-- `OrderType(text)`. -/
def parseOrderType (text : String) : Except String OrderTypes.OrderType :=
  if text="MARKET" then .ok .market
  else if text="LIMIT" then .ok .limit
  else if text="TWAP" then .ok .twap
  else if text="VWAP" then .ok .vwap
  else .error ("'"++text++"' is not a valid OrderType")

/-- The order request of one order of the body. -/
def batchRequest (order : OrderCreateRequest) : Except String OrderRequest :=
  match parseMarket order.market,parseSide order.side,parseOrderType order.orderType with
  | .ok market,.ok side,.ok orderType =>
    .ok ⟨order.ticker,market,side,order.quantity,orderType,order.limitPrice,order.reason.getD ""⟩
  | .error text,_,_ => .error text
  | .ok _,.error text,_ => .error text
  | .ok _,.ok _,.error text => .error text

/-- `BatchOrderResponse`. -/
structure BatchOrderResponse where
  /-- `results`. -/
  results : List OrderResponse
  /-- `total`. -/
  total : ℕ
  /-- `success_count`. -/
  successCount : ℕ
  /-- `fail_count`. -/
  failCount : ℕ
  deriving DecidableEq

/-- The response for a result and the order of the body it is paired with. -/
def batchResponse (pair : OrderResult×OrderCreateRequest) : OrderResponse :=
  orderResultToResponse pair.1 pair.2.orderType (pair.2.reason.getD "")

section Execution

variable {σ : Type} (execute : OrderRequest→σ→Except Failure OrderResult×σ)

/-- One of the two loops of `execute_batch_orders`. -/
def runOrders : List OrderRequest→σ→List OrderResult×σ
  | [],s => ([],s)
  | request::requests,s =>
    let rest := runOrders requests (execute request s).2
    (batchResult request (execute request s).1::rest.1,rest.2)

/-- `execute_batch_orders`. -/
def executeBatchOrders (requests : List OrderRequest) (s : σ) : List OrderResult×σ :=
  let sells := runOrders execute (sellOrders requests) s
  let buys := runOrders execute (buyOrders requests) sells.2
  (sells.1++buys.1,buys.2)

/-- `create_batch_orders` between the two writes of its idempotency store. -/
def createBatchOrders (orders : List OrderCreateRequest) (now : ℚ) (s : σ) :
    ApiResponse BatchOrderResponse×σ :=
  match orders.mapM batchRequest with
  | .error text => (⟨false,none,"배치 주문 실패: "++text,now⟩,s)
  | .ok requests =>
    let run := executeBatchOrders execute requests s
    let pairs := run.1.zip orders
    (⟨true,some {
        results := pairs.map batchResponse
        total := (pairs.map batchResponse).length
        successCount := pairs.countP fun pair =>
          pair.1.status=.filled || pair.1.status=.partialFill
        failCount := pairs.countP fun pair => pair.1.status=.failed },
      toString run.1.length++"건 배치 주문이 실행되었습니다.",now⟩,run.2)

/-- An executor that writes down what it is asked to execute. -/
def recording (request : OrderRequest) (s : σ×List OrderRequest) :
    Except Failure OrderResult×(σ×List OrderRequest) :=
  ((execute request s.1).1,((execute request s.1).2,s.2++[request]))

/-- A result is what an execution of the request gave. -/
def BelongsTo (request : OrderRequest) (result : OrderResult) : Prop :=
  ∃ s,result=batchResult request (execute request s).1

/-- One loop writes down its requests and gives the results that it gives
without a record. -/
theorem runOrders_recording (requests : List OrderRequest) (s : σ) (calls : List OrderRequest) :
    runOrders (recording execute) requests (s,calls)=
      ((runOrders execute requests s).1,((runOrders execute requests s).2,calls++requests)) := by
  induction requests generalizing s calls with
  | nil =>
    rw [List.append_nil]
    rfl
  | cons request requests ih =>
    unfold runOrders
    rw [ih]
    dsimp only [recording]
    rw [List.append_assoc]
    rfl

/-- One loop gives a result for each of its requests, in order. -/
theorem runOrders_belong (requests : List OrderRequest) (s : σ) :
    List.Forall₂ (BelongsTo execute) requests (runOrders execute requests s).1 := by
  induction requests generalizing s with
  | nil => exact .nil
  | cons request requests ih => exact .cons ⟨s,rfl⟩ (ih _)

/-- A batch executes its SELL orders and then its BUY orders. -/
theorem executeBatchOrders_recording (requests : List OrderRequest) (s : σ) :
    executeBatchOrders (recording execute) requests (s,[])=
      ((executeBatchOrders execute requests s).1,
        ((executeBatchOrders execute requests s).2,sellsFirst requests)) := by
  unfold executeBatchOrders
  dsimp only
  rw [runOrders_recording,runOrders_recording,List.nil_append]
  rfl

/-- A batch gives a result for each request, in the order of execution. -/
theorem executeBatchOrders_belong (requests : List OrderRequest) (s : σ) :
    List.Forall₂ (BelongsTo execute) (sellsFirst requests)
      (executeBatchOrders execute requests s).1 :=
  List.rel_append (runOrders_belong execute _ s) (runOrders_belong execute _ _)

/-- The order type and the reason of a request, as texts of the response. -/
def requestLabel (request : OrderRequest) : String×String :=
  (request.orderType.value,request.reason)

/-- A response shows the order type and the reason of a request. -/
def ReportedAs (request : OrderRequest) (response : OrderResponse) : Prop :=
  response.orderType=request.orderType.value ∧ response.reason=request.reason

/-- Entries that agree one by one are the same lists of values. -/
theorem forall₂_iff_map_eq {α β γ : Type} (f : α→γ) (g : β→γ) (l : List α) (l' : List β) :
    List.Forall₂ (fun a b => f a=g b) l l' ↔ l.map f=l'.map g := by
  rw [← List.forall₂_eq_eq_eq,List.forall₂_map_left_iff,List.forall₂_map_right_iff]

/-- Responses that show the requests one by one have their labels. -/
theorem reported_iff (requests : List OrderRequest) (responses : List OrderResponse) :
    List.Forall₂ ReportedAs requests responses ↔
      requests.map requestLabel=responses.map fun r => (r.orderType,r.reason) := by
  rw [← forall₂_iff_map_eq]
  refine Iff.of_eq (congrArg (fun R => List.Forall₂ R requests responses) ?_)
  funext request response
  unfold ReportedAs requestLabel
  rw [Prod.mk.injEq,eq_comm (a := request.orderType.value),eq_comm (a := request.reason)]

/-- An order type that is read has the text it is read from. -/
theorem parseOrderType_ok {text : String} {orderType : OrderTypes.OrderType}
    (h : parseOrderType text=.ok orderType) : orderType.value=text := by
  unfold parseOrderType at h
  split_ifs at h with hmarket hlimit htwap hvwap
  · cases h
    exact hmarket.symm
  · cases h
    exact hlimit.symm
  · cases h
    exact htwap.symm
  · cases h
    exact hvwap.symm

/-- The request of an order has its order type and its reason. -/
theorem batchRequest_label {order : OrderCreateRequest} {request : OrderRequest}
    (h : batchRequest order=.ok request) :
    requestLabel request=(order.orderType,order.reason.getD "") := by
  unfold batchRequest at h
  split at h
  · rename_i market side orderType _ _ htype
    cases h
    exact congrArg (·,order.reason.getD "") (parseOrderType_ok htype)
  · cases h
  · cases h
  · cases h

/-- The requests of a body have the labels of its orders. -/
theorem mapM_batchRequest_labels {orders : List OrderCreateRequest} {requests : List OrderRequest}
    (h : orders.mapM batchRequest=.ok requests) :
    requests.map requestLabel=
      orders.map fun order => (order.orderType,order.reason.getD "") := by
  induction orders generalizing requests with
  | nil =>
    cases h
    rfl
  | cons order orders ih =>
    rw [List.mapM_cons] at h
    obtain ⟨request,hrequest,h⟩ := bind_ok h
    obtain ⟨rest,hrest,h⟩ := bind_ok h
    cases h
    rw [List.map_cons,List.map_cons,ih hrest,batchRequest_label hrequest]

/-- Selling first keeps the number of requests. -/
theorem sellsFirst_length (requests : List OrderRequest) :
    (sellsFirst requests).length=requests.length := by
  induction requests with
  | nil => rfl
  | cons request requests ih =>
    unfold sellsFirst sellOrders buyOrders at ih ⊢
    rw [List.length_append] at ih ⊢
    cases hside : request.side with
    | buy => simp [hside]; omega
    | sell => simp [hside]; omega

/-- The responses of a batch show the orders of the body by position. -/
theorem batchResponses_labels {results : List OrderResult} {orders : List OrderCreateRequest}
    (h : results.length=orders.length) :
    ((results.zip orders).map batchResponse).map (fun r => (r.orderType,r.reason))=
      orders.map fun order => (order.orderType,order.reason.getD "") := by
  have hsecond := List.map_snd_zip h.ge
  rw [List.map_map]
  conv_rhs => rw [← hsecond,List.map_map]
  rfl

/-- A batch whose texts name a market, a side and an order type: it gives one
result for each request and executes all SELL orders before any BUY order, each
side in request order, and every response shows the order type and the reason of
the request whose result it reports, exactly if moving the SELL orders to the
front leaves the sequence of order types and reasons as it was. -/
theorem createBatchOrders_paired_iff {orders : List OrderCreateRequest}
    {requests : List OrderRequest} (now : ℚ) (s : σ) (h : orders.mapM batchRequest=.ok requests) :
    ((executeBatchOrders execute requests s).1.length=requests.length ∧
        (executeBatchOrders (recording execute) requests (s,[])).2.2=
          sellOrders requests++buyOrders requests ∧
        List.Forall₂ (BelongsTo execute) (sellOrders requests++buyOrders requests)
          (executeBatchOrders execute requests s).1 ∧
        ∃ body,(createBatchOrders execute orders now s).1.data=some body ∧
          List.Forall₂ ReportedAs (sellOrders requests++buyOrders requests) body.results) ↔
      (sellsFirst requests).map requestLabel=requests.map requestLabel := by
  have hbelong := executeBatchOrders_belong execute requests s
  have hlength := hbelong.length_eq.symm.trans (sellsFirst_length requests)
  have hlabels := mapM_batchRequest_labels h
  have hsame : requests.length=orders.length := by
    have hcount := congrArg List.length hlabels
    rwa [List.length_map,List.length_map] at hcount
  have hshown := batchResponses_labels (hlength.trans hsame)
  have hbody : (createBatchOrders execute orders now s).1.data.map BatchOrderResponse.results=
      some (((executeBatchOrders execute requests s).1.zip orders).map batchResponse) := by
    unfold createBatchOrders
    rw [h]
    rfl
  have hreported := reported_iff (sellsFirst requests)
    (((executeBatchOrders execute requests s).1.zip orders).map batchResponse)
  rw [hshown,← hlabels] at hreported
  rw [← hreported]
  constructor
  · rintro ⟨_,_,_,body,hdata,hall⟩
    rw [hdata] at hbody
    exact Option.some.inj hbody ▸ hall
  · intro hall
    obtain ⟨body,hdata,hresults⟩ := Option.map_eq_some_iff.mp hbody
    refine ⟨hlength,?_,hbelong,body,hdata,hresults ▸ hall⟩
    rw [executeBatchOrders_recording]
    rfl

end Execution

/-- `execute_order` as the executor of a batch. The surroundings of each call
are given by its number, and the ledger and that number are the state. -/
def executeNext (surroundings : ℕ→ Call) (request : OrderRequest) (s : Ledger×ℕ) :
    Except Failure OrderResult×(Ledger×ℕ) :=
  let call := {surroundings s.2 with request := request}
  let execution := executeOrder call s.1
  ((match execution.outcome with
    | .ok result => .ok result
    | .error text => .error ⟨text,call.now⟩),(execution.ledger,s.2+1))

/-- An order that is executed gives a result about its ticker and its side. -/
theorem executeOrder_request {call : Call} {ledger : Ledger} {result : OrderResult}
    (h : (executeOrder call ledger).outcome=.ok result) :
    result.ticker=call.request.ticker ∧ result.side=call.request.side := by
  unfold executeOrder at h
  cases hs : submitOrder call with
  | error text =>
    rw [hs] at h
    cases h
  | ok submitted =>
    rw [hs] at h
    dsimp only at h
    cases hb : bookFill call submitted ledger with
    | error text =>
      rw [hb] at h
      cases h
    | ok ledger' =>
      rw [hb] at h
      dsimp only at h
      cases ha : call.audit with
      | some text =>
        rw [ha] at h
        cases h
      | none =>
        rw [ha] at h
        cases h
        exact dispatch_request (submitOrder_ok hs).2

/-- Every result of a batch is about the ticker and the side of the request it
belongs to. -/
theorem BelongsTo.request {surroundings : ℕ→ Call} {request : OrderRequest} {result : OrderResult}
    (h : BelongsTo (executeNext surroundings) request result) :
    result.ticker=request.ticker ∧ result.side=request.side := by
  obtain ⟨s,rfl⟩ := h
  unfold executeNext
  dsimp only
  cases hout : (executeOrder {surroundings s.2 with request := request} s.1).outcome with
  | ok result => exact executeOrder_request hout
  | error text => exact ⟨rfl,rfl⟩

/-- A market order of the body. -/
def marketBody (side reason : String) : OrderCreateRequest :=
  ⟨"005930","KRX",side,10,"MARKET",none,some reason⟩

/-- An order as it is read from the body. -/
def marketRequest (side : OrderSide) (reason : String) : OrderRequest :=
  ⟨"005930",.krx,side,10,.market,none,reason⟩

/-- Surroundings in which every check passes and the broker accepts. -/
def acceptingCall (_ : ℕ) : Call where
  request := marketRequest .buy ""
  guarded := none
  quoted := none
  broker := [⟨.accepted "77" 0 0,"",0⟩]
  slippage := none
  ledgerFailure := none
  audit := none
  stamp := ""
  uuid := ""
  now := 0
  floatText := fun _ => ""

/-- A SELL order before a BUY order. -/
theorem createBatchOrders_paired_iff_partitioned :
    ∃ body,(createBatchOrders (executeNext acceptingCall)
        [marketBody "SELL" "trim",marketBody "BUY" "signal"] 0 (Ledger.empty,0)).1.data=some body ∧
      List.Forall₂ ReportedAs [marketRequest .sell "trim",marketRequest .buy "signal"]
        body.results :=
  ((createBatchOrders_paired_iff (executeNext acceptingCall) 0 (Ledger.empty,0)
    (show [marketBody "SELL" "trim",marketBody "BUY" "signal"].mapM batchRequest=
      .ok [marketRequest .sell "trim",marketRequest .buy "signal"] from rfl)).mpr
        (by decide)).2.2.2

/-- A BUY order before a SELL order: the reason of the one is shown with the
result of the other. -/
theorem reasons_exchanged :
    ¬∀ (surroundings : ℕ→ Call) (orders : List OrderCreateRequest) (requests : List OrderRequest)
      (now : ℚ) (s : Ledger×ℕ),orders.mapM batchRequest=.ok requests→
      (executeBatchOrders (executeNext surroundings) requests s).1.length=requests.length ∧
        (executeBatchOrders (recording (executeNext surroundings)) requests (s,[])).2.2=
          sellOrders requests++buyOrders requests ∧
        List.Forall₂ (BelongsTo (executeNext surroundings))
          (sellOrders requests++buyOrders requests)
          (executeBatchOrders (executeNext surroundings) requests s).1 ∧
        ∃ body,(createBatchOrders (executeNext surroundings) orders now s).1.data=some body ∧
          List.Forall₂ ReportedAs (sellOrders requests++buyOrders requests) body.results := by
  intro hall
  obtain ⟨_,_,_,body,hdata,hshown⟩ := hall acceptingCall
    [marketBody "BUY" "signal",marketBody "SELL" "trim"]
    [marketRequest .buy "signal",marketRequest .sell "trim"] 0 (Ledger.empty,0) rfl
  cases hdata
  cases hshown with
  | cons hfirst _ => exact absurd hfirst.2 (by decide)

end Aqts.BatchOrders
