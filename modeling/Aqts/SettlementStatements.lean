import Aqts.SettlementWriters

/-!
# The statements of the settlement paths

A poll, a reconciliation and a notice each read the `orders` table once and
then send the UPDATEs that the checks of `_update_order_status` allow. The
paths run alone are their SELECT followed by their UPDATEs, so a run of the
order path may interleave these statements.
-/

namespace Aqts.SettlementStatements

open OrderTypes OrderStateMachine OrdersTable SettlementPoller SettlementWriters

/-- The table after a call of `_update_order_status`; an exception changes
nothing. -/
def tableAfter (t : Table) : Except UpdateError (Bool×Table)→Table
  | .error _ => t
  | .ok updated => updated.2

/-- The table after a notice; an exception changes nothing. -/
def noticeTable (now : ℚ) (notice : Notice) (t : Table) : Table :=
  match handleExecutionNotice now notice t with
  | .error _ => t
  | .ok t' => t'

/-- An UPDATE of `_update_order_status` that has passed its checks. -/
structure Settlement where
  /-- Order number in its WHERE clause. -/
  orderId : String
  /-- Status in its WHERE clause, as read before. -/
  current : String
  /-- What it writes. -/
  fill : Fill
  deriving DecidableEq

/-- Execution of the UPDATE. -/
def Settlement.write (now : ℚ) (t : Table) (p : Settlement) : Table :=
  t.update p.orderId (compareAndSet now p.current p.fill)

/-- The UPDATE for a fill of an order whose status was read. -/
def settlementOf (orderId current : String) (fill : Fill) : Option Settlement :=
  match updateAllowed orderId current fill.status with
  | .ok true => some ⟨orderId,current,fill⟩
  | _ => none

/-- The UPDATE for an optional fill is one of its order. -/
theorem fill_settlement_orderId {orderId current : String} {fill : Option Fill} {p : Settlement}
    (h : fill.bind (settlementOf orderId current)=some p) : p.orderId=orderId := by
  obtain ⟨reported,_,hsettle⟩ := Option.bind_eq_some_iff.mp h
  unfold settlementOf at hsettle
  split at hsettle
  · cases hsettle
    rfl
  · cases hsettle

/-- A settlement path with the data it has received. -/
inductive Reading
  /-- An attempt of `poll_after_execution`, with the order it was started for. -/
  | poll (records : List CcldRecord) (orderId ticker market : String)
  /-- `reconcile_all_submitted`. -/
  | reconcile (records : MarketRecords)
  /-- `handle_execution_notice`. -/
  | notice (report : Notice)

/-- The path run without another statement in between. -/
def Reading.handle (now : ℚ) (t : Table) : Reading→Table
  | .poll records orderId ticker market => (pollAttempt now records orderId ticker market t).2
  | .reconcile records => (reconcileAllSubmitted now records t).1
  | .notice report => noticeTable now report t

/-- The UPDATE of one order of a reconciliation. -/
def reconcileSettlement (records : MarketRecords) (order : OrderRow) : Option Settlement :=
  (recordsFill (records.of order.market) order).bind (settlementOf order.orderId order.status)

/-- The UPDATEs that a path decides on after its SELECT. -/
def Reading.settlements (now : ℚ) (t : Table) : Reading→List Settlement
  | .poll records orderId ticker market =>
    match t.find orderId with
    | none => []
    | some row =>
      ((recordsFill records {row with ticker := ticker,market := market}).bind
        (settlementOf orderId row.status)).toList
  | .reconcile records => (submittedToday now t).filterMap (reconcileSettlement records)
  | .notice report =>
    if report.isFilled=false ∨ report.isRejected=true then []
    else
      match findOrderByKisOrderNo report.orderNo report.ticker t with
      | none => []
      | some row => ((noticeFill report).bind (settlementOf row.orderId row.status)).toList

/-- `_update_order_status` executes the UPDATE that its checks allow. -/
theorem updateOrderStatus_table (now : ℚ) (orderId current : String) (fill : Fill) (t : Table) :
    tableAfter t (updateOrderStatus now orderId current fill t)=
      (settlementOf orderId current fill).toList.foldl (Settlement.write now) t := by
  unfold updateOrderStatus settlementOf
  cases updateAllowed orderId current fill.status with
  | error error => rfl
  | ok allowed =>
    cases allowed with
    | false => rfl
    | true => rfl

/-- The UPDATE of an order whose status cannot be settled is not sent. -/
theorem settlementOf_stuck {orderId current : String} (fill : Fill)
    (h : ∀ status,parseOrderStatus current=some status→isTerminalOrderState status=true) :
    settlementOf orderId current fill=none := by
  unfold settlementOf
  split
  · rename_i hu
    exact absurd hu (updateAllowed_stuck h)
  · rfl

/-- An attempt of a poll executes the UPDATE it decides on. -/
theorem pollAttempt_table (now : ℚ) (records : List CcldRecord) (orderId ticker market : String)
    (t : Table) :
    (pollAttempt now records orderId ticker market t).2=
      (Reading.settlements now t (.poll records orderId ticker market)).foldl
        (Settlement.write now) t := by
  dsimp only [Reading.settlements]
  unfold pollAttempt
  cases hfind : t.find orderId with
  | none => rfl
  | some row =>
    have hid := Table.find_orderId hfind
    dsimp only
    cases hp : parseOrderStatus row.status with
    | none =>
      have hstuck : ∀ fill,settlementOf orderId row.status fill=none := fun fill =>
        settlementOf_stuck fill (by simp [hp])
      rw [funext hstuck,Option.bind_fun_none]
      rfl
    | some current =>
      dsimp only
      by_cases hterm : isTerminalOrderState current=true
      · have hstuck : ∀ fill,settlementOf orderId row.status fill=none := fun fill =>
          settlementOf_stuck fill (by simp [hp,hterm])
        rw [if_pos hterm,funext hstuck,Option.bind_fun_none]
        rfl
      · rw [if_neg hterm]
        unfold recordsFill
        dsimp only
        rw [hid]
        cases hm : matchCcldRecord records orderId ticker with
        | none => rfl
        | some record =>
          dsimp only
          cases hf : parseCcldStatus record market with
          | none => rfl
          | some fill =>
            dsimp only
            by_cases hsub : fill.status=.submitted
            · rw [if_pos hsub,if_pos hsub]
              rfl
            · rw [if_neg hsub,if_neg hsub,Option.bind_some,← updateOrderStatus_table]
              cases updateOrderStatus now orderId row.status fill t with
              | error error => rfl
              | ok updated => rfl

/-- The reconciliation of one order executes the UPDATE it decides on. -/
theorem reconcileOne_table (now : ℚ) (records : MarketRecords) (acc : Table×Stats)
    (order : OrderRow) :
    (reconcileOne now records acc order).1=
      (reconcileSettlement records order).toList.foldl (Settlement.write now) acc.1 := by
  unfold reconcileOne reconcileSettlement recordsFill
  dsimp only
  cases hm : matchCcldRecord (records.of order.market) order.orderId order.ticker with
  | none => rfl
  | some record =>
    dsimp only
    cases hf : parseCcldStatus record order.market with
    | none => rfl
    | some fill =>
      dsimp only
      by_cases hsub : fill.status=.submitted
      · rw [if_pos hsub,if_pos hsub]
        rfl
      · rw [if_neg hsub,if_neg hsub,Option.bind_some,← updateOrderStatus_table]
        cases updateOrderStatus now order.orderId order.status fill acc.1 with
        | error error => rfl
        | ok updated => rfl

/-- A reconciliation executes the UPDATEs it decides on, one after the other. -/
theorem reconcile_fold_table (now : ℚ) (records : MarketRecords) (orders : List OrderRow)
    (acc : Table×Stats) :
    (orders.foldl (reconcileOne now records) acc).1=
      (orders.filterMap (reconcileSettlement records)).foldl (Settlement.write now) acc.1 := by
  induction orders generalizing acc with
  | nil => rfl
  | cons order orders ih =>
    rw [List.foldl_cons,ih,reconcileOne_table]
    cases h : reconcileSettlement records order with
    | none =>
      rw [List.filterMap_cons_none h]
      rfl
    | some p =>
      rw [List.filterMap_cons_some h]
      rfl

/-- A notice executes the UPDATE it decides on. -/
theorem noticeTable_table (now : ℚ) (report : Notice) (t : Table) :
    noticeTable now report t=
      (Reading.settlements now t (.notice report)).foldl (Settlement.write now) t := by
  dsimp only [Reading.settlements]
  unfold noticeTable handleExecutionNotice
  by_cases hf : report.isFilled=false
  · rw [if_pos hf,if_pos (.inl hf)]
    rfl
  · by_cases hr : report.isRejected=true
    · rw [if_neg hf,if_pos hr,if_pos (.inr hr)]
      rfl
    · rw [if_neg hf,if_neg hr,if_neg (not_or.mpr ⟨hf,hr⟩)]
      cases hfind : findOrderByKisOrderNo report.orderNo report.ticker t with
      | none => rfl
      | some row =>
        dsimp only
        cases hn : noticeFill report with
        | none => rfl
        | some fill =>
          rw [Option.bind_some,← updateOrderStatus_table]
          dsimp only
          cases updateOrderStatus now row.orderId row.status fill t with
          | error error => rfl
          | ok updated => rfl

/-- Every settlement path is its SELECT followed by its UPDATEs. -/
theorem Reading.handle_eq (now : ℚ) (t : Table) (reading : Reading) :
    reading.handle now t=(reading.settlements now t).foldl (Settlement.write now) t := by
  cases reading with
  | poll records orderId ticker market => exact pollAttempt_table now records orderId ticker market t
  | reconcile records => exact reconcile_fold_table now records (submittedToday now t) _
  | notice report => exact noticeTable_table now report t

/-- A whole poll runs its attempts one after the other up to the one that stops
it. -/
theorem pollAfterExecution_attempts (orderId ticker market : String)
    (answers : List (ℚ×List CcldRecord)) (t : Table) :
    ∃ made,made<+:answers ∧ pollAfterExecution orderId ticker market answers t=
      made.foldl (fun t answer =>
        (Reading.poll answer.2 orderId ticker market).handle answer.1 t) t := by
  induction answers generalizing t with
  | nil => exact ⟨[],List.prefix_refl [],rfl⟩
  | cons answer answers ih =>
    obtain ⟨now,records⟩ := answer
    unfold pollAfterExecution
    split
    · rename_i t' hstop
      refine ⟨[(now,records)],List.prefix_append [(now,records)] answers,?_⟩
      exact (congrArg Prod.snd hstop).symm
    · rename_i t' hretry
      obtain ⟨made,hmade,heq⟩ := ih t'
      refine ⟨(now,records)::made,List.prefix_cons_inj _ |>.mpr hmade,?_⟩
      rw [List.foldl_cons,heq]
      have hfirst : (Reading.poll records orderId ticker market).handle now t=t' :=
        congrArg Prod.snd hretry
      rw [hfirst]

end Aqts.SettlementStatements
