import Aqts.GuardedRuns
import Aqts.OrderExecutor
import Aqts.SettlementStatements
import Mathlib.Algebra.BigOperators.Group.List.Basic

/-!
# Fills in the ledger and in the orders table

A run interleaves calls of `execute_order`, their INSERTs and the SELECTs and
UPDATEs of the three settlement paths. The ledger hears of a fill from
`execute_order` only, and only when the order returns as filled or partially
filled; the settlement writes the `orders` table alone. The positions agree
with the signed fills of the rows as long as every fill passes through the
ledger.
-/

namespace Aqts.LedgerConservation

open OrderTypes OrdersTable PortfolioLedger OrderExecutor SettlementPoller SettlementStatements
open GuardedRuns

/-- What a row adds to the position of a ticker. -/
def share (ticker : String) (row : OrderRow) : ℚ :=
  if row.ticker=ticker then signed row.side row.filledQuantity else 0

/-- Signed fills of the rows of a ticker. -/
def net (ticker : String) (rows : List OrderRow) : ℚ := (rows.map (share ticker)).sum

/-- State of the live order path. -/
structure State where
  /-- The ledger. -/
  ledger : Ledger
  /-- The `orders` table. -/
  table : Table
  /-- INSERTs of `execute_order` that are not executed yet. -/
  stores : List OrderRow
  /-- UPDATEs of the settlement that are not executed yet. -/
  settlements : List Settlement

/-- Steps of the live order path. -/
inductive Event
  /-- `execute_order` up to its INSERTs. -/
  | execute (call : Call)
  /-- An INSERT, on a database that is up or down. -/
  | store (row : OrderRow) (reachable : Bool)
  /-- A settlement path reads the table. -/
  | select (now : ℚ) (reading : Reading)
  /-- An UPDATE, on a database that is up or down. -/
  | update (now : ℚ) (settlement : Settlement) (reachable : Bool)

/-- The step function. A failed INSERT or UPDATE changes nothing. -/
def step (s : State) : Event→Option State
  | .execute call => some {s with
      ledger := (executeOrder call s.ledger).ledger
      stores := s.stores++(executeOrder call s.ledger).stores }
  | .store row reachable =>
    if row∈s.stores then some {s with
      table := if reachable=true then (s.table.insert row).getD s.table else s.table
      stores := s.stores.erase row }
    else none
  | .select now reading => some {s with
      settlements := s.settlements++reading.settlements now s.table }
  | .update now settlement reachable =>
    if settlement∈s.settlements then some {s with
      table := if reachable=true then settlement.write now s.table else s.table
      settlements := s.settlements.erase settlement }
    else none

/-- An empty ledger and an empty table. -/
def initial : State := ⟨Ledger.empty,Table.empty,[],[]⟩

/-- No statement is in flight. -/
def Quiet (s : State) : Prop := s.stores=[] ∧ s.settlements=[]

instance : DecidablePred Quiet := fun s =>
  inferInstanceAs (Decidable (s.stores=[] ∧ s.settlements=[]))

/-- The position of every ticker is the sum of the signed fills of its rows. -/
def Conserved (s : State) : Prop :=
  ∀ ticker,(s.ledger.getPositions ticker).getD 0=net ticker s.table.rows

/-- The ledger refuses the fill of a call. -/
def refusesFill (call : Call) (ledger : Ledger) : Bool :=
  match submitOrder call with
  | .error _ => false
  | .ok result =>
    booksFill result &&
      match ledger.recordFill call.ledgerFailure call.request.ticker call.request.side
          result.filledQuantity with
      | .error (.refused _ _ _) => true
      | _ => false

/-- No call has its fill refused. -/
def NoRefusal (s : State) : Event→Prop
  | .execute call => refusesFill call s.ledger=false
  | _ => True

instance (s : State) : (e : Event)→Decidable (NoRefusal s e)
  | .execute call => inferInstanceAs (Decidable (refusesFill call s.ledger=false))
  | .store _ _ => inferInstanceAs (Decidable True)
  | .select _ _ => inferInstanceAs (Decidable True)
  | .update _ _ _ => inferInstanceAs (Decidable True)

/-- The answers of the broker leave nothing for a later booking: a market or
limit order is not filled at submission, and no slice reports a negative
quantity. -/
def FillsBooked (call : Call) : Prop :=
  ((call.request.orderType=.market ∨ call.request.orderType=.limit)→
    (nextAnswer call.broker).1.filledQty=0) ∧
  ((call.request.orderType=.twap ∨ call.request.orderType=.vwap)→FillsNonneg call.broker)

instance : DecidablePred FillsBooked := fun _ => inferInstanceAs (Decidable (_ ∧ _))

/-- The UPDATE writes the quantity that its row already has. -/
def KeepsQuantity (t : Table) (settlement : Settlement) : Prop :=
  ∀ row∈t.rows,row.orderId=settlement.orderId ∧ row.status=settlement.current→
    row.filledQuantity=settlement.fill.quantity

instance (t : Table) : DecidablePred (KeepsQuantity t) := fun settlement =>
  inferInstanceAs (Decidable (∀ row∈t.rows,
    row.orderId=settlement.orderId ∧ row.status=settlement.current→
      row.filledQuantity=settlement.fill.quantity))

/-- Every fill that reaches the table passes through the ledger: orders are
filled while they are sliced and at no other time, the INSERTs of filled orders
succeed, and the settlement writes no new quantity. -/
def FillsReachLedger (s : State) : Event→Prop
  | .execute call => refusesFill call s.ledger=false ∧ FillsBooked call
  | .store row reachable =>
    row.filledQuantity=0 ∨ (reachable=true ∧ s.table.find row.orderId=none)
  | .select _ _ => True
  | .update _ settlement reachable => reachable=true→KeepsQuantity s.table settlement

instance (s : State) : (e : Event)→Decidable (FillsReachLedger s e)
  | .execute call => inferInstanceAs (Decidable (refusesFill call s.ledger=false ∧ FillsBooked call))
  | .store row reachable => inferInstanceAs (Decidable
      (row.filledQuantity=0 ∨ (reachable=true ∧ s.table.find row.orderId=none)))
  | .select _ _ => inferInstanceAs (Decidable True)
  | .update _ settlement reachable => inferInstanceAs (Decidable
      (reachable=true→KeepsQuantity s.table settlement))

/-- Sums of two lists of rows. -/
theorem net_append (ticker : String) (rows others : List OrderRow) :
    net ticker (rows++others)=net ticker rows+net ticker others := by
  unfold net
  rw [List.map_append,List.sum_append]

/-- The sum of one row. -/
theorem net_singleton (ticker : String) (row : OrderRow) :
    net ticker [row]=share ticker row := by
  unfold net
  rw [List.map_singleton,List.sum_singleton]

/-- The sum without one of the rows. -/
theorem net_erase (ticker : String) {rows : List OrderRow} {row : OrderRow} (h : row∈rows) :
    share ticker row+net ticker (rows.erase row)=net ticker rows :=
  List.sum_map_erase (share ticker) h

/-- A row without fills adds nothing. -/
theorem share_unfilled (ticker : String) {row : OrderRow} (h : row.filledQuantity=0) :
    share ticker row=0 := by
  unfold share
  rw [h]
  cases row.side with
  | buy => simp [signed]
  | sell => simp [signed]

/-- The ledger update books the row of the result, unless it is refused. -/
theorem bookFill_position {call : Call} {result : OrderResult} {ledger ledger' : Ledger}
    (hs : submitOrder call=.ok result) (hno : refusesFill call ledger=false)
    (hzero : result.filledQuantity=0 ∨ booksFill result=true)
    (h : bookFill call result ledger=.ok ledger') (ticker : String) :
    ledger'.position ticker=ledger.position ticker+share ticker (storedRow result) := by
  obtain ⟨hticker,hside⟩ := dispatch_request (submitOrder_ok hs).2
  unfold bookFill at h
  by_cases hbooks : booksFill result=true
  · rw [if_pos hbooks] at h
    unfold refusesFill at hno
    rw [hs] at hno
    dsimp only at hno
    rw [hbooks,Bool.true_and] at hno
    have hshare : share ticker (storedRow result)=
        if call.request.ticker=ticker then signed call.request.side result.filledQuantity else 0 := by
      unfold share storedRow
      rw [hticker,hside]
    rw [hshare]
    cases hrec : ledger.recordFill call.ledgerFailure call.request.ticker call.request.side
        result.filledQuantity with
    | ok recorded =>
      rw [hrec] at h
      cases h
      exact Ledger.recordFill_position hrec ticker
    | error error =>
      rw [hrec] at h hno
      cases error with
      | refused _ _ _ => cases hno
      | blankTicker => cases h
      | quantityNotPositive _ => cases h
      | repository _ => cases h
  · rw [if_neg hbooks] at h
    cases h
    have hunfilled : (storedRow result).filledQuantity=0 := hzero.resolve_right hbooks
    rw [share_unfilled ticker hunfilled,add_zero]

/-- A call books in the ledger what its rows will add to the table. -/
theorem executeOrder_position (call : Call) (ledger : Ledger)
    (hno : refusesFill call ledger=false) (hbooked : FillsBooked call) (ticker : String) :
    (executeOrder call ledger).ledger.position ticker=
      ledger.position ticker+net ticker (executeOrder call ledger).stores := by
  have hfailed : ∀ text,share ticker (storedRow (failedResult call text))=0 := fun text =>
    share_unfilled ticker rfl
  obtain ⟨hledger,text,hstores⟩ | ⟨result,hs,hbook,hstores⟩ := executeOrder_cases call ledger
  · rw [hledger,hstores,net_singleton,hfailed,add_zero]
  · have hrun := (submitOrder_ok hs).2
    have hzero : result.filledQuantity=0 ∨ booksFill result=true := by
      by_cases hsub : call.request.orderType=.market ∨ call.request.orderType=.limit
      · have hfirst := (dispatch_submitted hrun hsub).2
        exact .inl (hfirst.trans (hbooked.1 hsub))
      · have hsliced : call.request.orderType=.twap ∨ call.request.orderType=.vwap := by
          cases htype : call.request.orderType <;> simp [htype] at hsub ⊢
        exact dispatch_books hrun hsliced (hbooked.2 hsliced)
    have hposition := bookFill_position hs hno hzero hbook ticker
    obtain hone | ⟨text,htwo⟩ := hstores
    · rw [hposition,hone,net_singleton]
    · have hnet : net ticker (executeOrder call ledger).stores=share ticker (storedRow result) := by
        rw [htwo,← List.singleton_append,net_append,net_singleton,net_singleton,hfailed,add_zero]
      rw [hposition,hnet]

/-- An UPDATE that keeps the quantity keeps what each row adds. -/
theorem net_write (ticker : String) (now : ℚ) {t : Table} {p : Settlement}
    (h : KeepsQuantity t p) : net ticker (p.write now t).rows=net ticker t.rows := by
  unfold net Settlement.write Table.update
  dsimp only
  rw [List.map_map]
  refine congrArg List.sum (List.map_congr_left ?_)
  intro row hrow
  rw [Function.comp_apply]
  unfold changeRow
  split
  · rename_i hid
    by_cases hs : row.status=p.current
    · rw [compareAndSet_hit now p.fill hs]
      unfold share settledRow
      rw [h row hrow ⟨hid,hs⟩]
    · rw [compareAndSet_miss now p.fill hs]
  · rfl

/-- The ledger agrees with the rows stored and those to be stored. -/
def Balanced (s : State) : Prop :=
  ∀ ticker,s.ledger.position ticker=net ticker s.table.rows+net ticker s.stores

/-- An INSERT moves what its row adds into the table. -/
theorem net_insert (ticker : String) {t : Table} {row : OrderRow} {reachable : Bool}
    (h : row.filledQuantity=0 ∨ (reachable=true ∧ t.find row.orderId=none)) :
    net ticker (if reachable=true then (t.insert row).getD t else t).rows=
      net ticker t.rows+share ticker row := by
  have hstored : ∀ t',t.insert row=some t'→net ticker t'.rows=net ticker t.rows+share ticker row := by
    intro t' hinsert
    rw [Table.insert_rows hinsert,net_append,net_singleton]
  obtain hzero | ⟨hup,hnew⟩ := h
  · have hshare := share_unfilled ticker hzero
    by_cases hup : reachable=true
    · rw [if_pos hup]
      cases hinsert : t.insert row with
      | none => rw [Option.getD_none,hshare,add_zero]
      | some t' => exact hstored t' hinsert
    · rw [if_neg hup,hshare,add_zero]
  · obtain ⟨t',hinsert⟩ := Table.insert_new hnew
    rw [if_pos hup,hinsert]
    exact hstored t' hinsert

/-- A step whose fills pass through the ledger keeps the balance. -/
theorem Balanced.step {s s' : State} {e : Event} (h : Balanced s) (ha : FillsReachLedger s e)
    (hs : step s e=some s') : Balanced s' := by
  intro ticker
  have hbefore := h ticker
  cases e with
  | execute call =>
    cases hs
    have hcall := executeOrder_position call s.ledger ha.1 ha.2 ticker
    dsimp only
    rw [hcall,hbefore,net_append,add_assoc]
  | store row reachable =>
    dsimp only [LedgerConservation.step] at hs
    split at hs
    · rename_i hmem
      cases hs
      have hrest := net_erase ticker hmem
      dsimp only
      rw [net_insert ticker ha,hbefore,← hrest,add_assoc]
    · cases hs
  | select now reading =>
    cases hs
    exact hbefore
  | update now settlement reachable =>
    dsimp only [LedgerConservation.step] at hs
    split at hs
    · cases hs
      dsimp only
      by_cases hup : reachable=true
      · rw [if_pos hup,net_write ticker now (ha hup)]
        exact hbefore
      · rw [if_neg hup]
        exact hbefore
    · cases hs

/-- The balance at the start. -/
theorem initial_balanced : Balanced initial := fun _ => (add_zero 0).symm

/-- In every run whose fills all pass through the ledger, the positions are the
signed fills of the orders whenever no statement is in flight. -/
theorem fills_reaching_ledger_conserved {s : State}
    (h : Reaches step FillsReachLedger initial s) (hq : Quiet s) : Conserved s := by
  have hbalance : Balanced s := h.invariant initial_balanced
    (fun _ _ _ _ hb ha hs => hb.step ha hs)
  intro ticker
  have hticker := hbalance ticker
  rw [hq.1] at hticker
  rw [Ledger.getPositions_eq]
  exact hticker.trans (add_zero _)

/-- A broker answer with a fill, or without one. -/
def sampleAnswer (orderId : String) (filledQty : ℤ) : BrokerCall :=
  ⟨.accepted orderId filledQty 100,"0",0⟩

/-- A call in which nothing but the broker has a say. -/
def sampleCall (orderType : OrderTypes.OrderType) (quantity : ℤ) (broker : List BrokerCall) : Call where
  request := ⟨"005930",.krx,.buy,quantity,orderType,some 100,""⟩
  guarded := none
  quoted := none
  broker := broker
  slippage := none
  ledgerFailure := none
  audit := none
  stamp := "0"
  uuid := "0"
  now := 0
  floatText := fun _ => ""

/-- A notice about a complete fill. -/
def sampleReport (orderNo : String) (quantity : ℤ) : Notice :=
  ⟨orderNo,"005930",quantity,100,quantity,true,false⟩

/-- A TWAP order of twelve shares fills seven of them. -/
def slicedCall : Call :=
  sampleCall .twap 12 [sampleAnswer "1" 2,sampleAnswer "2" 2,sampleAnswer "3" 2,sampleAnswer "4" 1]

/-- The run: the sliced order is stored, and a later notice closes it with the
seven shares. -/
def slicedRun : List Event := [
  .execute slicedCall,
  .store (storedRow (executeTwapOrder slicedCall.request 6 2 slicedCall.broker "0" 0)) true,
  .select 1 (.notice (sampleReport "TWAP_005930_0" 7)),
  .update 1 ⟨"TWAP_005930_0","PARTIAL",⟨.filled,7,100⟩⟩ true]

/-- A run with a booked partial fill and a settlement that keeps it. -/
theorem fills_reaching_ledger_conserved_sliced :
    ∃ s,Reaches step FillsReachLedger initial s ∧ Quiet s ∧ Conserved s ∧
      s.ledger.position "005930"=7 ∧ net "005930" s.table.rows=7 := by
  obtain ⟨s,_,⟨hq,hp,hn⟩,hr⟩ := play_ends step FillsReachLedger initial
    (fun s => Quiet s ∧ s.ledger.position "005930"=7 ∧ net "005930" s.table.rows=7) slicedRun
    (by decide +kernel)
  exact ⟨s,hr,hq,fills_reaching_ledger_conserved hr hq,hp,hn⟩

/-- A market order of ten shares, accepted without a fill. -/
def marketCall : Call := sampleCall .market 10 [sampleAnswer "77" 0]

/-- The run: the order is stored as submitted, and a notice settles it. -/
def marketRun : List Event := [
  .execute marketCall,
  .store (storedRow (submitted marketCall.request "77" 0 100 0)) true,
  .select 1 (.notice (sampleReport "77" 10)),
  .update 1 ⟨"77","SUBMITTED",⟨.filled,10,100⟩⟩ true]

/-- The fill of a settled market order never reaches the ledger. -/
theorem settled_fill_missing_in_ledger :
    ¬∀ s,Reaches step NoRefusal initial s→Quiet s→ Conserved s := by
  intro hall
  obtain ⟨s,_,⟨hq,hp,hn⟩,hr⟩ := play_ends step NoRefusal initial
    (fun s => Quiet s ∧ (s.ledger.getPositions "005930").getD 0=0 ∧ net "005930" s.table.rows=10)
    marketRun (by decide +kernel)
  have hsame := hall s hr hq "005930"
  rw [hp,hn] at hsame
  exact absurd hsame (by decide +kernel)

end Aqts.LedgerConservation
