import Aqts.BrokerPlacements
import Mathlib.Algebra.BigOperators.Group.List.Basic
import Mathlib.Tactic.Linarith

/-!
# Failures after the broker has accepted an order

One `try` block of `execute_order` covers the placement and the bookkeeping
after it. The module says exactly when an order that was placed is reported
with the broker's result, in terms of the answers of the broker and of the
exceptions that the later steps would raise.
-/

namespace Aqts.PostTradeFailures

open OrderTypes OrderExecutor PortfolioLedger

/-- Broker calls of an order that passed the checks. -/
def dispatchPlacements (call : Call) : List Placement :=
  match call.request.orderType with
  | .market => [⟨call.request.quantity,(nextAnswer call.broker).1.outcome⟩]
  | .limit =>
    if ∀ price∈call.request.limitPrice,price≤0 then []
    else [⟨call.request.quantity,(nextAnswer call.broker).1.outcome⟩]
  | .twap => twapPlacements call.request 6 2 call.broker
  | .vwap => vwapPlacements call.request 6 [] call.broker

/-- The checks before the broker calls pass. -/
def ChecksPass (call : Call) : Prop :=
  call.guarded=none ∧ validateOrder call.request=.ok () ∧ call.quoted=none

instance (call : Call) : Decidable (ChecksPass call) := inferInstanceAs (Decidable (_ ∧ _ ∧ _))

/-- The broker has accepted an order during the call. -/
def Placed (call : Call) : Prop :=
  ChecksPass call ∧ ∃ p∈dispatchPlacements call,p.outcome.isAccepted=true

instance (call : Call) : Decidable (Placed call) := inferInstanceAs (Decidable (_ ∧ _))

/-- Quantity that the broker reported as filled. -/
def filledQuantity (log : List Placement) : ℤ := (log.map fun p => outcomeFilled p.outcome).sum

/-- Amount that the broker reported as filled. -/
def filledCost (log : List Placement) : ℚ := (log.map fun p => outcomeCost p.outcome).sum

/-- The variables of a loop are the totals of its log. -/
structure Totals (filled : ℤ) (cost : ℚ) (log : List Placement) : Prop where
  /-- Filled quantity. -/
  filled : filled=filledQuantity log
  /-- Filled amount. -/
  cost : cost=filledCost log

/-- One more broker call adds to the totals. -/
theorem Totals.snoc {filled : ℤ} {cost : ℚ} {log : List Placement} (h : Totals filled cost log)
    (p : Placement) :
    Totals (filled+outcomeFilled p.outcome) (cost+outcomeCost p.outcome) (log++[p]) := by
  constructor
  · unfold filledQuantity
    rw [List.map_append,List.sum_append,List.map_singleton,List.sum_singleton,h.filled]
    rfl
  · unfold filledCost
    rw [List.map_append,List.sum_append,List.map_singleton,List.sum_singleton,h.cost]
    rfl

/-- An attempt keeps the totals, with what the intervals before have filled. -/
theorem loggedAttempt_totals (request : OrderRequest) (reason : ℕ→String) (sliceQty before : ℤ)
    {s : SliceProgress×List Placement} (attempt : ℕ)
    (h : Totals (before+s.1.filledInSlice) s.1.totalCost s.2) :
    Totals (before+(loggedAttempt request reason sliceQty s attempt).1.filledInSlice)
      (loggedAttempt request reason sliceQty s attempt).1.totalCost
      (loggedAttempt request reason sliceQty s attempt).2 := by
  unfold loggedAttempt attemptPlacements
  dsimp only
  by_cases hdone : sliceQty-s.1.filledInSlice≤0
  · have hsame : sliceAttempt request reason sliceQty s.1 attempt=s.1 := by
      unfold sliceAttempt
      rw [if_pos hdone]
    rw [if_pos hdone,List.append_nil,hsame]
    exact h
  · obtain ⟨_,hfilled,hcost⟩ := sliceAttempt_answer request reason attempt
      (show 0< sliceQty-s.1.filledInSlice by omega)
    have hnext := h.snoc ⟨sliceQty-s.1.filledInSlice,(nextAnswer s.1.broker).1.outcome⟩
    rw [if_neg hdone,hfilled,hcost,← add_assoc]
    exact hnext

/-- An interval keeps the totals. -/
theorem loggedSlice_totals (request : OrderRequest) (attempts : ℕ) (reason : ℕ→ℕ→String)
    {s : SliceState×List Placement} (slice : ℤ×ℕ)
    (h : Totals s.1.totalFilled s.1.totalCost s.2) :
    Totals (loggedSlice request attempts reason s slice).1.totalFilled
      (loggedSlice request attempts reason s slice).1.totalCost
      (loggedSlice request attempts reason s slice).2 := by
  unfold loggedSlice executeSlice
  dsimp only
  by_cases hskip : slice.1+s.1.carryover≤0
  · rw [if_pos hskip,if_pos hskip]
    exact h
  · rw [if_neg hskip,if_neg hskip,← loggedAttempt_state request (reason slice.2)
      (slice.1+s.1.carryover) (List.range attempts)
      (⟨s.1.broker,0,s.1.totalCost,s.1.subResults⟩,s.2)]
    have hstart : Totals (s.1.totalFilled+0) s.1.totalCost s.2 := by
      rw [add_zero]
      exact h
    exact List.foldlRecOn (motive := fun p : SliceProgress×List Placement =>
      Totals (s.1.totalFilled+p.1.filledInSlice) p.1.totalCost p.2) (List.range attempts)
      (loggedAttempt request (reason slice.2) (slice.1+s.1.carryover))
      (b := (⟨s.1.broker,0,s.1.totalCost,s.1.subResults⟩,s.2)) hstart
      (fun p hp attempt _ => loggedAttempt_totals request _ _ _ attempt hp)

/-- The totals of a sliced order are those of its broker calls. -/
theorem loggedSlices_totals (request : OrderRequest) (attempts : ℕ) (reason : ℕ→ℕ→String)
    (slices : List ℤ) (broker : List BrokerCall) :
    Totals (loggedSlices request attempts reason slices broker).1.totalFilled
      (loggedSlices request attempts reason slices broker).1.totalCost
      (loggedSlices request attempts reason slices broker).2 :=
  List.foldlRecOn (motive := fun s : SliceState×List Placement =>
    Totals s.1.totalFilled s.1.totalCost s.2) slices.zipIdx (loggedSlice request attempts reason)
    (b := (⟨broker,0,0,[],0⟩,[])) ⟨rfl,rfl⟩
    (fun _ hs slice _ => loggedSlice_totals request attempts reason slice hs)

/-- The numbers of an answer can be read. -/
def readable : BrokerOutcome→Bool
  | .unreadable _ => false
  | _ => true

/-- What one accepted broker call leads to: an exception if its answer cannot be
read, else a submitted order with its totals. -/
def FromAnswer (run : Except String OrderResult) (outcome : BrokerOutcome) : Prop :=
  (readable outcome=false ∧ ∃ text,run=.error text) ∨
    readable outcome=true ∧ ∃ result,run=.ok result ∧ result.status=.submitted ∧
      result.filledQuantity=outcomeFilled outcome ∧
      result.filledQuantity*result.avgPrice=outcomeCost outcome

/-- A market order that the broker accepted. -/
theorem executeMarketOrder_placed (request : OrderRequest) {answer : BrokerCall}
    (h : answer.outcome.isAccepted=true) :
    FromAnswer (executeMarketOrder request answer) answer.outcome := by
  unfold executeMarketOrder
  cases hout : answer.outcome with
  | raises text =>
    rw [hout] at h
    cases h
  | unreadable text => exact .inl ⟨rfl,text,rfl⟩
  | accepted orderId filledQty avgPrice => exact .inr ⟨rfl,_,rfl,rfl,rfl,rfl⟩

/-- A limit order that the broker accepted. -/
theorem executeLimitOrder_placed (request : OrderRequest) {answer : BrokerCall}
    (hprice : ¬∀ price∈request.limitPrice,price≤0) (h : answer.outcome.isAccepted=true) :
    FromAnswer (executeLimitOrder request answer) answer.outcome := by
  unfold executeLimitOrder
  rw [if_neg hprice]
  cases hout : answer.outcome with
  | raises text =>
    rw [hout] at h
    cases h
  | unreadable text => exact .inl ⟨rfl,text,rfl⟩
  | accepted orderId filledQty avgPrice => exact .inr ⟨rfl,_,rfl,rfl,rfl,rfl⟩

/-- A market or limit order, which is one broker call. -/
def IsSingle (call : Call) : Prop :=
  call.request.orderType=.market ∨ call.request.orderType=.limit

instance (call : Call) : Decidable (IsSingle call) := inferInstanceAs (Decidable (_ ∨ _))

/-- The broker reports a fill with a positive amount. -/
def FillsAtPrice (call : Call) : Prop :=
  0<filledQuantity (dispatchPlacements call) ∧ 0<filledCost (dispatchPlacements call)

instance (call : Call) : Decidable (FillsAtPrice call) := inferInstanceAs (Decidable (_ ∧ _))

/-- The broker's result of a placed order: what the later steps read of it is
determined by the broker calls. -/
structure Reports (call : Call) (result : OrderResult) : Prop where
  /-- It is the result of the broker calls. -/
  dispatched : dispatch call=.ok result
  /-- It reaches the post-trade check. -/
  priced : 0< result.filledQuantity ∧ 0< result.avgPrice ↔ FillsAtPrice call
  /-- It is booked in the ledger. -/
  booked : booksFill result=true ↔ ¬IsSingle call ∧ 0<filledQuantity (dispatchPlacements call)

/-- A single order with its totals reports them. -/
theorem reports_single {call : Call} {result : OrderResult} {quantity : ℤ}
    {outcome : BrokerOutcome} (hsingle : IsSingle call)
    (hlog : dispatchPlacements call=[⟨quantity,outcome⟩]) (hrun : dispatch call=.ok result)
    (hstatus : result.status=.submitted) (hfilled : result.filledQuantity=outcomeFilled outcome)
    (hcost : result.filledQuantity*result.avgPrice=outcomeCost outcome) : Reports call result := by
  have hquantity : filledQuantity (dispatchPlacements call)=result.filledQuantity := by
    rw [hlog,hfilled]
    exact List.sum_singleton
  have hamount : filledCost (dispatchPlacements call)=result.filledQuantity*result.avgPrice := by
    rw [hlog,hcost]
    exact List.sum_singleton
  refine ⟨hrun,?_,?_⟩
  · unfold FillsAtPrice
    rw [hquantity,hamount]
    refine and_congr_right fun hpos => ?_
    have hpos' : (0 : ℚ)< result.filledQuantity := by exact_mod_cast hpos
    exact (mul_pos_iff_of_pos_left hpos').symm
  · simp [booksFill,hstatus,hsingle]

/-- A sliced order reports the totals of its broker calls. -/
theorem reports_sliced {call : Call} {label : String} {attempts : ℕ} {reason : ℕ→ℕ→String}
    {slices : List ℤ} (hsliced : ¬IsSingle call)
    (hlog : dispatchPlacements call=
      (loggedSlices call.request attempts reason slices call.broker).2)
    (hrun : dispatch call=.ok (slicedResult label call.request call.stamp call.now
      (loggedSlices call.request attempts reason slices call.broker).1)) :
    Reports call (slicedResult label call.request call.stamp call.now
      (loggedSlices call.request attempts reason slices call.broker).1) := by
  have htotals := loggedSlices_totals call.request attempts reason slices call.broker
  rw [← hlog] at htotals
  refine ⟨hrun,?_,?_⟩
  · unfold FillsAtPrice slicedResult
    dsimp only
    rw [← htotals.filled,← htotals.cost]
    refine and_congr_right fun hpos => ?_
    have hpos' : (0 : ℚ)<
        (loggedSlices call.request attempts reason slices call.broker).1.totalFilled := by
      exact_mod_cast hpos
    rw [if_pos hpos]
    exact div_pos_iff_of_pos_right hpos'
  · rw [booksFill_slicedResult,htotals.filled]
    simp [hsliced]

/-- The answer of a single order can be read. -/
def AnswerReadable (call : Call) : Prop :=
  IsSingle call→ readable (nextAnswer call.broker).1.outcome=true

instance (call : Call) : Decidable (AnswerReadable call) := inferInstanceAs (Decidable (_→_))

/-- The broker's result of an order, or the exception of an answer that cannot be
read. -/
def Dispatched (call : Call) : Prop :=
  (¬AnswerReadable call ∧ ∃ text,dispatch call=.error text) ∨
    AnswerReadable call ∧ ∃ result,Reports call result

/-- A single order that was placed. -/
theorem dispatched_single {call : Call} (hsingle : IsSingle call)
    (hlog : dispatchPlacements call=[⟨call.request.quantity,(nextAnswer call.broker).1.outcome⟩])
    (hanswer : (nextAnswer call.broker).1.outcome.isAccepted=true→
      FromAnswer (dispatch call) (nextAnswer call.broker).1.outcome)
    (hplaced : ∃ p∈dispatchPlacements call,p.outcome.isAccepted=true) : Dispatched call := by
  obtain ⟨p,hp,haccepted⟩ := hplaced
  rw [hlog,List.mem_singleton] at hp
  rw [hp] at haccepted
  obtain ⟨hbad,text,herror⟩ | ⟨hgood,result,hok,hstatus,hfilled,hcost⟩ := hanswer haccepted
  · refine .inl ⟨?_,text,herror⟩
    intro hread
    have hgood := hread hsingle
    rw [hbad] at hgood
    cases hgood
  · exact .inr ⟨fun _ => hgood,result,reports_single hsingle hlog hok hstatus hfilled hcost⟩

/-- A placed order has the broker's result exactly when its answer can be
read. -/
theorem dispatched_of_placed {call : Call}
    (h : ∃ p∈dispatchPlacements call,p.outcome.isAccepted=true) : Dispatched call := by
  cases htype : call.request.orderType with
  | market =>
    refine dispatched_single (.inl htype) ?_ ?_ h
    · unfold dispatchPlacements
      rw [htype]
    · intro haccepted
      unfold dispatch
      rw [htype]
      exact executeMarketOrder_placed call.request haccepted
  | limit =>
    by_cases hprice : ∀ price∈call.request.limitPrice,price≤0
    · obtain ⟨p,hp,_⟩ := h
      unfold dispatchPlacements at hp
      rw [htype] at hp
      dsimp only at hp
      rw [if_pos hprice] at hp
      cases hp
    · refine dispatched_single (.inr htype) ?_ ?_ h
      · unfold dispatchPlacements
        rw [htype]
        dsimp only
        rw [if_neg hprice]
      · intro haccepted
        unfold dispatch
        rw [htype]
        exact executeLimitOrder_placed call.request hprice haccepted
  | twap =>
    have hsliced : ¬IsSingle call := by simp [IsSingle,htype]
    have hlog : dispatchPlacements call=twapPlacements call.request 6 2 call.broker := by
      unfold dispatchPlacements
      rw [htype]
    have hrun : dispatch call=
        .ok (executeTwapOrder call.request 6 2 call.broker call.stamp call.now) := by
      unfold dispatch
      rw [htype]
    rw [executeTwapOrder_logged] at hrun
    exact .inr ⟨fun hsingle => (hsliced hsingle).elim,_,reports_sliced hsliced hlog hrun⟩
  | vwap =>
    have hsliced : ¬IsSingle call := by simp [IsSingle,htype]
    have hlog : dispatchPlacements call=vwapPlacements call.request 6 [] call.broker := by
      unfold dispatchPlacements
      rw [htype]
    have hrun : dispatch call=
        .ok (executeVwapOrder call.request 6 [] call.broker call.stamp call.now) := by
      unfold dispatch
      rw [htype]
    rw [executeVwapOrder_logged] at hrun
    exact .inr ⟨fun hsingle => (hsliced hsingle).elim,_,reports_sliced hsliced hlog hrun⟩

/-- After the checks a result passes the post-trade check exactly when that does
not raise, or is not reached. -/
theorem submitOrder_ok_iff {call : Call} (hchecks : ChecksPass call) (result : OrderResult) :
    submitOrder call=.ok result ↔ dispatch call=.ok result ∧
      (0 < result.filledQuantity ∧ 0 < result.avgPrice→call.slippage=none) := by
  obtain ⟨hguard,hvalid,hquote⟩ := hchecks
  have hpure : submitOrder call=(do
      let result ← dispatch call
      if 0 < result.filledQuantity ∧ 0 < result.avgPrice then raising call.slippage
      return result) := by
    unfold submitOrder
    rw [hguard,hvalid,hquote]
    rfl
  rw [hpure]
  cases hrun : dispatch call with
  | error text =>
    constructor
    · intro h
      cases h
    · rintro ⟨h,_⟩
      cases h
  | ok executed =>
    by_cases hpriced : 0 < executed.filledQuantity ∧ 0 < executed.avgPrice
    · cases hslip : call.slippage with
      | none => simp [hpriced,raising,bind,Except.bind,pure,Except.pure]
      | some text =>
        simp only [hpriced,raising,bind,Except.bind]
        constructor
        · intro h
          cases h
        · rintro ⟨h,hnone⟩
          cases h
          cases hnone hpriced
    · simp only [hpriced,bind,Except.bind,pure,Except.pure]
      constructor
      · intro h
        cases h
        exact ⟨rfl,fun h => (hpriced h).elim⟩
      · rintro ⟨h,_⟩
        exact h

/-- The ledger update raises exactly for a fill of a blank ticker or when the
repository raises; a refused fill is only logged. -/
theorem bookFill_ok_iff (call : Call) (result : OrderResult) (ledger : Ledger) :
    (∃ ledger',bookFill call result ledger=.ok ledger') ↔
      (booksFill result=true→isBlank call.request.ticker=false ∧ call.ledgerFailure=none) := by
  unfold bookFill
  by_cases hbooks : booksFill result=true
  · have hpos : ¬(result.filledQuantity : ℚ)≤0 := by
      have hfilled : 0 < result.filledQuantity := by
        simp only [booksFill,Bool.and_eq_true,decide_eq_true_eq] at hbooks
        exact hbooks.2
      exact not_le.mpr (by exact_mod_cast hfilled)
    rw [if_pos hbooks]
    unfold Ledger.recordFill
    cases hblank : isBlank call.request.ticker with
    | true => simp [hbooks]
    | false =>
      rw [if_neg (by simp),if_neg hpos]
      cases hfailure : call.ledgerFailure with
      | some text => simp [hbooks]
      | none =>
        dsimp only
        by_cases hneg : ledger.position call.request.ticker+
            signed call.request.side result.filledQuantity<0
        · rw [dif_pos hneg]
          simp
        · rw [dif_neg hneg]
          simp
  · simp [hbooks]

/-- A call returns a result exactly when the order passes every step. -/
theorem executeOrder_ok_iff (call : Call) (ledger : Ledger) (result : OrderResult) :
    (executeOrder call ledger).outcome=.ok result ↔ submitOrder call=.ok result ∧
      (∃ ledger',bookFill call result ledger=.ok ledger') ∧ call.audit=none := by
  unfold executeOrder
  cases hs : submitOrder call with
  | error text => simp [failWith]
  | ok submitted =>
    dsimp only
    cases hb : bookFill call submitted ledger with
    | error text =>
      simp only [failWith,reduceCtorEq,false_iff]
      rintro ⟨h,⟨ledger',hbook⟩,_⟩
      cases h
      rw [hb] at hbook
      cases hbook
    | ok ledger' =>
      cases ha : call.audit with
      | some text => simp [failWith]
      | none =>
        simp only [Except.ok.injEq,and_true]
        constructor
        · intro h
          rw [← h]
          exact ⟨rfl,ledger',hb⟩
        · rintro ⟨h,_⟩
          exact h

/-- A placed order is reported with the broker's result; a call stores a failed
row and raises only if no order was placed. -/
def ReportsPlaced (call : Call) (ledger : Ledger) : Prop :=
  (Placed call→∃ result,dispatch call=.ok result ∧ (executeOrder call ledger).outcome=.ok result) ∧
    ∀ text,(executeOrder call ledger).outcome=.error text→
      storedRow (failedResult call text)∈(executeOrder call ledger).stores→¬Placed call

/-- No step after the placement raises: the answer of a single order can be read,
a fill at a price passes the post-trade check, a filled sliced order has a ticker
and a repository that commits, and the audit log is written. -/
def StepsPass (call : Call) : Prop :=
  AnswerReadable call ∧ (FillsAtPrice call→call.slippage=none) ∧
    (¬IsSingle call→0<filledQuantity (dispatchPlacements call)→
      isBlank call.request.ticker=false ∧ call.ledgerFailure=none) ∧
    call.audit=none

/-- A placed order is reported exactly when no step after the placement raises. -/
theorem placed_reported_iff (call : Call) (ledger : Ledger) :
    ReportsPlaced call ledger ↔ (Placed call→StepsPass call) := by
  constructor
  · rintro ⟨hreport,_⟩ hplaced
    obtain ⟨result,hrun,hout⟩ := hreport hplaced
    obtain ⟨hsubmit,hbook,haudit⟩ := (executeOrder_ok_iff call ledger result).mp hout
    have hslippage := ((submitOrder_ok_iff hplaced.1 result).mp hsubmit).2
    have hledger := (bookFill_ok_iff call result ledger).mp hbook
    obtain ⟨_,text,herror⟩ | ⟨hread,executed,hexecuted⟩ := dispatched_of_placed hplaced.2
    · rw [hrun] at herror
      cases herror
    · have hsame : executed=result := Except.ok.inj (hexecuted.dispatched.symm.trans hrun)
      rw [hsame] at hexecuted
      exact ⟨hread,fun hfills => hslippage (hexecuted.priced.mpr hfills),
        fun hsliced hfilled => hledger (hexecuted.booked.mpr ⟨hsliced,hfilled⟩),haudit⟩
  · intro hpass
    have hreport : Placed call→∃ result,dispatch call=.ok result ∧
        (executeOrder call ledger).outcome=.ok result := by
      intro hplaced
      obtain ⟨hread,hslippage,hledger,haudit⟩ := hpass hplaced
      obtain ⟨hbad,_⟩ | ⟨_,result,hresult⟩ := dispatched_of_placed hplaced.2
      · exact (hbad hread).elim
      · refine ⟨result,hresult.dispatched,(executeOrder_ok_iff call ledger result).mpr ⟨?_,?_,haudit⟩⟩
        · exact (submitOrder_ok_iff hplaced.1 result).mpr
            ⟨hresult.dispatched,fun hpriced => hslippage (hresult.priced.mp hpriced)⟩
        · refine (bookFill_ok_iff call result ledger).mpr fun hbooks => ?_
          have hfills := hresult.booked.mp hbooks
          exact hledger hfills.1 hfills.2
    refine ⟨hreport,?_⟩
    intro text hraised _ hplaced
    obtain ⟨result,_,hok⟩ := hreport hplaced
    rw [hraised] at hok
    cases hok

/-- A TWAP order over six shares that is filled while the repository of the
ledger is unavailable. -/
def unrecordedTwap : Call where
  request := {
    ticker := "005930"
    market := .krx
    side := .buy
    quantity := 6
    orderType := .twap }
  guarded := none
  quoted := none
  broker := List.replicate 6 ⟨.accepted "1" 1 70000,"",0⟩
  slippage := none
  ledgerFailure := some "connection refused"
  audit := none
  stamp := "0"
  uuid := "0"
  now := 0
  floatText := fun _ => ""

/-- Filled shares are reported as a failed order that traded nothing. -/
theorem filled_order_reported_failed :
    ¬∀ (call : Call) (ledger : Ledger),ReportsPlaced call ledger := by
  intro hall
  have hplaced : Placed unrecordedTwap := by decide +kernel
  obtain ⟨result,_,hout⟩ := (hall unrecordedTwap Ledger.empty).1 hplaced
  have hraised : (executeOrder unrecordedTwap Ledger.empty).outcome=
      .error "connection refused" := by decide +kernel
  rw [hout] at hraised
  cases hraised

end Aqts.PostTradeFailures
