import Aqts.SettlementStatements
import Mathlib.Data.List.Pairwise

/-!
# Fill reports handled one after the other

The effect of a poll, a reconciliation and a notice on the row of one order,
as the read and the write of a single settlement, which is the writer of the
concurrent model run alone. The quantity and the status a row ends with follow
from an abstract booking that accepts a report only along the transition table:
a partial fill is booked once, and later partial fills are refused.
-/

namespace Aqts.SettlementWriters

open OrderTypes OrderStateMachine OrdersTable SettlementPoller SettlementStatements

/-- A settlement read and written without a statement of another writer in
between. -/
def settleWith (now : ℚ) (fill : Fill) (row : OrderRow) : OrderRow :=
  match settlePending row fill with
  | none => row
  | some p => p.write now row

/-- The row after an optional fill. -/
def settleOption (now : ℚ) (fill : Option Fill) (row : OrderRow) : OrderRow :=
  match fill with
  | none => row
  | some fill => settleWith now fill row

/-- A settlement that passes its checks writes the fill. -/
theorem settleWith_allowed {now : ℚ} {fill : Fill} {row : OrderRow}
    (h : updateAllowed row.orderId row.status fill.status=.ok true) :
    settleWith now fill row=settledRow now fill row := by
  unfold settleWith settlePending
  rw [h]
  exact compareAndSet_hit now fill rfl

/-- A settlement that does not pass its checks changes nothing. -/
theorem settleWith_refused {now : ℚ} {fill : Fill} {row : OrderRow}
    (h : updateAllowed row.orderId row.status fill.status≠.ok true) :
    settleWith now fill row=row := by
  unfold settleWith settlePending
  split
  · rfl
  · rename_i p hp
    split at hp
    · rename_i hu
      exact absurd hu h
    · cases hp

/-- The UPDATE for an optional fill settles the row. -/
theorem settlements_find {t : Table} {orderId : String} {row : OrderRow} (now : ℚ)
    (fill : Option Fill) (h : t.find orderId=some row) :
    ((fill.bind (settlementOf orderId row.status)).toList.foldl (Settlement.write now) t).find
      orderId=some (settleOption now fill row) := by
  have hid := Table.find_orderId h
  cases fill with
  | none => exact h
  | some fill =>
    rw [Option.bind_some]
    dsimp only [settleOption]
    unfold settlementOf settleWith settlePending
    rw [hid]
    cases updateAllowed orderId row.status fill.status with
    | error error => exact h
    | ok allowed =>
      cases allowed with
      | false => exact h
      | true =>
        change (t.update orderId (compareAndSet now row.status fill)).find orderId=_
        rw [Table.find_update_self,h]
        rfl

/-- The UPDATEs of other orders leave an order alone. -/
theorem settlements_find_other {orderId : String} (now : ℚ) (settlements : List Settlement)
    (t : Table) (h : ∀ p∈settlements,orderId≠p.orderId) :
    (settlements.foldl (Settlement.write now) t).find orderId=t.find orderId := by
  induction settlements generalizing t with
  | nil => rfl
  | cons p settlements ih =>
    have hrest : ∀ q∈settlements,orderId≠q.orderId := fun q hq => h q (List.mem_cons_of_mem p hq)
    rw [List.foldl_cons,ih _ hrest]
    exact Table.find_update_other t _ (h p List.mem_cons_self)

/-- One attempt of a poll settles the row with what the records say. -/
theorem pollAttempt_find {t : Table} {orderId : String} {row : OrderRow} (now : ℚ)
    (records : List CcldRecord) (h : t.find orderId=some row) :
    (pollAttempt now records orderId row.ticker row.market t).2.find orderId=
      some (settleOption now (recordsFill records row) row) := by
  rw [pollAttempt_table]
  dsimp only [Reading.settlements]
  rw [h]
  exact settlements_find now (recordsFill records row) h

/-- The reconciliation of one order settles its row. -/
theorem reconcileOne_find {acc : Table×Stats} {order : OrderRow} (now : ℚ)
    (records : MarketRecords) (h : acc.1.find order.orderId=some order) :
    (reconcileOne now records acc order).1.find order.orderId=
      some (settleOption now (recordsFill (records.of order.market) order) order) := by
  rw [reconcileOne_table]
  exact settlements_find now (recordsFill (records.of order.market) order) h

/-- Reconciling orders of other numbers leaves an order alone. -/
theorem reconcile_fold_other {orderId : String} (now : ℚ) (records : MarketRecords)
    (orders : List OrderRow) (acc : Table×Stats) (h : ∀ order∈orders,orderId≠order.orderId) :
    (orders.foldl (reconcileOne now records) acc).1.find orderId=acc.1.find orderId := by
  rw [reconcile_fold_table]
  refine settlements_find_other now _ acc.1 ?_
  intro p hp
  obtain ⟨order,ho,hsettle⟩ := List.mem_filterMap.mp hp
  have hsame := fill_settlement_orderId hsettle
  rw [hsame]
  exact h order ho

/-- The orders of a reconciliation. -/
theorem mem_submittedToday {now : ℚ} {t : Table} {row : OrderRow} :
    row∈submittedToday now t ↔
      row∈t.rows ∧ row.status="SUBMITTED" ∧ dateOf row.createdAt=dateOf now := by
  unfold submittedToday
  rw [List.mem_insertionSort,List.mem_filter]
  simp

/-- The orders of a reconciliation have distinct numbers. -/
theorem submittedToday_nodup (now : ℚ) (t : Table) :
    ((submittedToday now t).map OrderRow.orderId).Nodup := by
  have hperm := (List.perm_insertionSort (fun a b : OrderRow => a.createdAt≤b.createdAt)
    (t.rows.filter fun row => row.status="SUBMITTED" && dateOf row.createdAt=dateOf now)).map
    OrderRow.orderId
  refine (hperm.nodup_iff).mpr ?_
  exact t.unique.sublist (List.filter_sublist.map OrderRow.orderId)

/-- A reconciliation settles the submitted orders of the day and no others. -/
theorem reconcile_find {t : Table} {orderId : String} {row : OrderRow} (now : ℚ)
    (records : MarketRecords) (h : t.find orderId=some row) :
    (reconcileAllSubmitted now records t).1.find orderId=
      some (if row.status="SUBMITTED" ∧ dateOf row.createdAt=dateOf now then
        settleOption now (recordsFill (records.of row.market) row) row else row) := by
  have hid := Table.find_orderId h
  have hrow := Table.find_mem h
  unfold reconcileAllSubmitted
  by_cases hsel : row.status="SUBMITTED" ∧ dateOf row.createdAt=dateOf now
  · rw [if_pos hsel]
    have hmem := mem_submittedToday.mpr ⟨hrow,hsel⟩
    obtain ⟨before,after,hsplit⟩ := List.append_of_mem hmem
    have hnodup := submittedToday_nodup now t
    rw [hsplit,List.map_append,List.map_cons,List.nodup_append] at hnodup
    obtain ⟨_,hafter,hbefore⟩ := hnodup
    have hpre : ∀ order∈before,row.orderId≠order.orderId := by
      intro order ho heq
      exact hbefore _ (List.mem_map_of_mem ho) _ List.mem_cons_self heq.symm
    have hpost : ∀ order∈after,row.orderId≠order.orderId := by
      intro order ho heq
      exact (List.nodup_cons.mp hafter).1 (heq ▸ List.mem_map_of_mem ho)
    subst hid
    rw [hsplit,List.foldl_append,List.foldl_cons,reconcile_fold_other now records after _ hpost]
    refine reconcileOne_find now records ?_
    rw [reconcile_fold_other now records before _ hpre]
    exact h
  · rw [if_neg hsel,reconcile_fold_other now records _ _ ?_]
    · exact h
    · intro order ho heq
      obtain ⟨hmem,hcond⟩ := mem_submittedToday.mp ho
      have hsame := Table.eq_of_orderId hrow hmem (hid.trans heq)
      rw [hsame] at hsel
      exact hsel hcond

/-- A notice settles the row that its search returns. -/
theorem handleExecutionNotice_find {t : Table} {orderId : String} {row : OrderRow} (now : ℚ)
    {notice : Notice} (h : t.find orderId=some row) (hf : notice.isFilled=true)
    (hr : notice.isRejected=false)
    (hs : findOrderByKisOrderNo notice.orderNo notice.ticker t=some row) :
    (noticeTable now notice t).find orderId=some (settleOption now (noticeFill notice) row) := by
  have hid := Table.find_orderId h
  rw [noticeTable_table]
  dsimp only [Reading.settlements]
  rw [if_neg (by simp [hf,hr]),hs]
  dsimp only
  rw [hid]
  exact settlements_find now (noticeFill notice) h

/-- A notice leaves every row alone that its search does not return. -/
theorem handleExecutionNotice_find_other {t : Table} {orderId : String} (now : ℚ)
    {notice : Notice}
    (hs : ∀ row,findOrderByKisOrderNo notice.orderNo notice.ticker t=some row→
      orderId≠row.orderId) :
    (noticeTable now notice t).find orderId=t.find orderId := by
  rw [noticeTable_table]
  refine settlements_find_other now _ t ?_
  intro p hp
  dsimp only [Reading.settlements] at hp
  split at hp
  · cases hp
  · split at hp
    · cases hp
    · rename_i row hrow
      have hsame := fill_settlement_orderId (Option.mem_toList.mp hp)
      rw [hsame]
      exact hs row hrow

/-- A fill report as it arrives. -/
inductive Report
  /-- A websocket notice. -/
  | notice (now : ℚ) (report : Notice)
  /-- The records of one attempt of `poll_after_execution`. -/
  | poll (now : ℚ) (records : List CcldRecord)
  /-- The records of one `reconcile_all_submitted`. -/
  | reconcile (now : ℚ) (records : MarketRecords)

/-- Handling of a report; the poll is that of the given order. -/
def Report.handle (orderId ticker market : String) (t : Table) : Report→Table
  | .notice now report => noticeTable now report t
  | .poll now records => (pollAttempt now records orderId ticker market t).2
  | .reconcile now records => (reconcileAllSubmitted now records t).1

/-- The ticker search returns submitted orders of the ticker. -/
theorem findOrderByKisOrderNo_submitted {t : Table} {kisOrderNo ticker : String} {row : OrderRow}
    (hn : t.find kisOrderNo=none)
    (h : findOrderByKisOrderNo kisOrderNo ticker t=some row) :
    row∈t.rows ∧ row.ticker=ticker ∧ row.status="SUBMITTED" := by
  unfold findOrderByKisOrderNo at h
  rw [hn] at h
  have hmem := List.mem_of_mem_head? (Option.mem_def.mpr h)
  rw [List.mem_insertionSort,List.mem_filter] at hmem
  have htest : row.ticker=ticker ∧ row.status="SUBMITTED" := by simpa using hmem.2
  exact ⟨hmem.1,htest⟩

/-- A search by number or by ticker returns an order that the notice is about. -/
theorem findOrderByKisOrderNo_about {t : Table} {kisOrderNo ticker : String} {row : OrderRow}
    (h : findOrderByKisOrderNo kisOrderNo ticker t=some row) :
    kisOrderNo=row.orderId ∨ (ticker=row.ticker ∧ row.status="SUBMITTED") := by
  cases hn : t.find kisOrderNo with
  | none =>
    obtain ⟨_,hticker,hst⟩ := findOrderByKisOrderNo_submitted hn h
    exact .inr ⟨hticker.symm,hst⟩
  | some other =>
    have hid := Table.find_orderId hn
    rw [findOrderByKisOrderNo,hn] at h
    cases h
    exact .inl hid.symm

/-- The writer of a report among the writers of one row. -/
def Report.read : Report→Read
  | .notice _ report => .notice report
  | .poll _ records => .poll records
  | .reconcile now records => .reconcile now records

/-- Instant of a report. -/
def Report.instant : Report→ℚ
  | .notice now _ => now
  | .poll now _ => now
  | .reconcile now _ => now

/-- A writer that reads and writes the row without another one in between. -/
def Read.alone (now : ℚ) (row : OrderRow) (read : Read) : OrderRow :=
  match read.pending row with
  | none => row
  | some p => p.write now row

/-- A poll alone settles what its records say. -/
theorem Read.alone_poll (now : ℚ) (row : OrderRow) (records : List CcldRecord) :
    Read.alone now row (.poll records)=settleOption now (recordsFill records row) row := by
  dsimp only [Read.alone,Read.pending]
  unfold recordPending
  cases recordsFill records row with
  | none => rfl
  | some fill => rfl

/-- A report handled on the table is its writer alone on the row; a notice has
to find the row. -/
theorem Report.handle_alone {t : Table} {row : OrderRow} (report : Report)
    (h : t.find row.orderId=some row)
    (hfound : ∀ now notice,report=.notice now notice→
      findOrderByKisOrderNo notice.orderNo notice.ticker t=some row) :
    (report.handle row.orderId row.ticker row.market t).find row.orderId=
      some (report.read.alone report.instant row) := by
  cases report with
  | poll now records =>
    dsimp only [Report.handle,Report.read,Report.instant]
    rw [Read.alone_poll]
    exact pollAttempt_find now records h
  | reconcile now records =>
    dsimp only [Report.handle,Report.read,Report.instant]
    rw [reconcile_find now records h]
    by_cases hsel : row.status="SUBMITTED" ∧ dateOf row.createdAt=dateOf now
    · rw [if_pos hsel,← Read.alone_poll]
      dsimp only [Read.alone,Read.pending]
      rw [if_pos hsel]
    · rw [if_neg hsel]
      dsimp only [Read.alone,Read.pending]
      rw [if_neg hsel]
  | notice now notice =>
    have hs := hfound now notice rfl
    dsimp only [Report.handle,Report.read,Report.instant,Read.alone,Read.pending]
    by_cases hskip : notice.isFilled=false ∨ notice.isRejected=true
    · rw [if_pos hskip,noticeTable_table]
      dsimp only [Reading.settlements]
      rw [if_pos hskip]
      exact h
    · have habout := findOrderByKisOrderNo_about hs
      obtain ⟨hf,hr⟩ := not_or.mp hskip
      rw [handleExecutionNotice_find now h (by simpa using hf) (by simpa using hr) hs,
        if_neg hskip,if_pos habout]
      cases noticeFill notice with
      | none => rfl
      | some fill => rfl

/-- The report reaches its order also after a partial fill: a poll, and a
notice with the number of the order. A reconciliation and a search by ticker
select submitted orders only. -/
def Report.reachesPartial (orderId : String) : Report→Bool
  | .notice _ report => report.orderNo=orderId
  | .poll _ _ => true
  | .reconcile _ _ => false

/-- The report says that `filled` of `ordered` shares of the row are filled.
A notice with an unknown number is about the row that its search finds. -/
def Report.Says (t : Table) (row : OrderRow) (ordered filled : ℤ) : Report→Prop
  | .notice _ report => report.isFilled=true ∧ report.isRejected=false ∧
      report.orderQty=ordered ∧ report.filledQty=filled ∧
      (report.orderNo=row.orderId ∨ (t.find report.orderNo=none ∧
        (row.status="SUBMITTED"→findOrderByKisOrderNo report.orderNo report.ticker t=some row)))
  | .poll _ records => ∃ record price,
      matchCcldRecord records row.orderId row.ticker=some record ∧
      parseCcldStatus record row.market=some (ccldFill ordered filled price)
  | .reconcile now records => dateOf row.createdAt=dateOf now ∧ ∃ record price,
      matchCcldRecord (records.of row.market) row.orderId row.ticker=some record ∧
      parseCcldStatus record row.market=some (ccldFill ordered filled price)

/-- What a row has booked. -/
structure Booking where
  /-- Status of the order. -/
  status : OrderStatus
  /-- Booked quantity. -/
  filled : ℤ
  deriving DecidableEq

/-- A report on an order: the first one is booked; after a partial fill only a
complete fill is, and only if the report reaches the order. -/
def Booking.book (ordered : ℤ) (reaches : Bool) (filled : ℤ) (b : Booking) : Booking :=
  match b.status with
  | .submitted => ⟨if ordered≤filled then .filled else .partialFill,filled⟩
  | .partialFill => if reaches=true ∧ ordered≤filled then ⟨.filled,filled⟩ else b
  | _ => b

/-- The row has booked this, and is the row of the same order. -/
def Books (row₀ row : OrderRow) (b : Booking) : Prop :=
  row.status=b.status.value ∧ row.filledQuantity=b.filled ∧ row.orderId=row₀.orderId ∧
    row.ticker=row₀.ticker ∧ row.market=row₀.market ∧ row.createdAt=row₀.createdAt

/-- A fill with the status that its quantity asks for. -/
def fillOf (ordered filled : ℤ) (price : ℚ) : Fill :=
  ⟨if ordered≤filled then .filled else .partialFill,filled,price⟩

/-- The checks of `_update_order_status` for a fill, by the current status. -/
theorem updateAllowed_fill (orderId : String) (status : OrderStatus) (ordered filled : ℤ)
    (price : ℚ) :
    updateAllowed orderId status.value (fillOf ordered filled price).status=.ok true ↔
      status=.submitted ∨ (status=.partialFill ∧ ordered≤filled) := by
  unfold updateAllowed fillOf
  rw [parseOrderStatus_value]
  by_cases hle : ordered≤filled
  · cases status <;> simp [hle,isTerminalOrderState,terminalOrderStates,assertOrderTransition,
      canTransitionOrder,validOrderTransitions]
  · cases status <;> simp [hle,isTerminalOrderState,terminalOrderStates,assertOrderTransition,
      canTransitionOrder,validOrderTransitions]

/-- A settlement books the report, as one that reaches the order. -/
theorem settleWith_books {now : ℚ} {row₀ row : OrderRow} {b : Booking} (ordered filled : ℤ)
    (price : ℚ) (h : Books row₀ row b) :
    Books row₀ (settleWith now (fillOf ordered filled price) row)
      (b.book ordered true filled) := by
  obtain ⟨hs,hq,hrest⟩ := h
  have hiff := updateAllowed_fill row.orderId b.status ordered filled price
  rw [← hs] at hiff
  by_cases ha : b.status=.submitted ∨ (b.status=.partialFill ∧ ordered≤filled)
  · rw [settleWith_allowed (hiff.mpr ha)]
    have hbook : b.book ordered true filled=
        ⟨if ordered≤filled then .filled else .partialFill,filled⟩ := by
      unfold Booking.book
      obtain hb | ⟨hb,hle⟩ := ha
      · rw [hb]
      · rw [hb]
        simp [hle]
    rw [hbook]
    exact ⟨rfl,rfl,hrest⟩
  · rw [settleWith_refused (fun hu => ha (hiff.mp hu))]
    have hbook : b.book ordered true filled=b := by
      unfold Booking.book
      rw [not_or] at ha
      split
      · rename_i hb
        exact absurd hb ha.1
      · rename_i hb
        exact if_neg fun hle => ha.2 ⟨hb,hle.2⟩
      · rfl
    rw [hbook]
    exact ⟨hs,hq,hrest⟩

/-- A report that does not reach a partial fill books submitted orders only. -/
theorem Booking.book_unreached {ordered filled : ℤ} {b : Booking} (h : b.status≠.submitted) :
    b.book ordered false filled=b := by
  unfold Booking.book
  split
  · rename_i hb
    exact absurd hb h
  · exact if_neg (by simp)
  · rfl

/-- On a submitted order every report is booked alike. -/
theorem Booking.book_submitted {ordered filled : ℤ} {b : Booking} (h : b.status=.submitted)
    (reaches : Bool) : b.book ordered reaches filled=b.book ordered true filled := by
  unfold Booking.book
  rw [h]

/-- A row has the text of a submitted order exactly when it has booked one. -/
theorem Books.submitted_iff {row₀ row : OrderRow} {b : Booking} (h : Books row₀ row b) :
    row.status="SUBMITTED" ↔ b.status=.submitted := by
  rw [h.1]
  constructor
  · intro hs
    exact OrderStatus.value_injective hs
  · intro hb
    rw [hb]
    rfl

/-- A positive fill of a record has the status that its quantity asks for. -/
theorem ccldFill_eq {ordered filled : ℤ} (price : ℚ) (h : 0<filled) :
    ccldFill ordered filled price=fillOf ordered filled price := by
  unfold ccldFill fillOf
  rw [if_neg (not_le.mpr h)]
  split <;> rfl

/-- What the matched record of a row says. -/
theorem recordsFill_eq {records : List CcldRecord} {row : OrderRow} {record : CcldRecord}
    {ordered filled : ℤ} {price : ℚ} (hq : 0<filled)
    (hm : matchCcldRecord records row.orderId row.ticker=some record)
    (hp : parseCcldStatus record row.market=some (ccldFill ordered filled price)) :
    recordsFill records row=some (fillOf ordered filled price) := by
  unfold recordsFill
  rw [hm]
  dsimp only
  rw [hp,ccldFill_eq price hq]
  refine if_neg ?_
  unfold fillOf
  split <;> simp

/-- What a notice with a positive fill says. -/
theorem noticeFill_eq {notice : Notice} {ordered filled : ℤ} (ho : notice.orderQty=ordered)
    (hf : notice.filledQty=filled) (hq : 0<filled) (hle : filled≤ordered) :
    noticeFill notice=some (fillOf ordered filled notice.filledPrice) := by
  unfold noticeFill fillOf
  rw [ho,hf]
  by_cases h : ordered≤filled
  · rw [if_pos ⟨hq.trans_le hle,h⟩,if_pos h]
  · rw [if_neg (fun hc => h hc.2),if_pos hq,if_neg h]

/-- A notice is booked by the row of its order. -/
theorem Report.notice_books {t : Table} {row₀ row : OrderRow} {b : Booking} {ordered filled : ℤ}
    (now : ℚ) (report : Notice) (hrow : t.find row₀.orderId=some row) (hb : Books row₀ row b)
    (hq : 0<filled) (hle : filled≤ordered)
    (hs : (Report.notice now report).Says t row ordered filled) :
    ∃ row',(noticeTable now report t).find row₀.orderId=some row' ∧
      Books row₀ row' (b.book ordered ((Report.notice now report).reachesPartial row₀.orderId)
        filled) := by
  have hid := hb.2.2.1
  obtain ⟨hfill,hrej,hord,hqty,hwho⟩ := hs
  have hn := noticeFill_eq hord hqty hq hle
  have hhit : findOrderByKisOrderNo report.orderNo report.ticker t=some row→
      (noticeTable now report t).find row₀.orderId=
        some (settleWith now (fillOf ordered filled report.filledPrice) row) := by
    intro hfound
    have hf := handleExecutionNotice_find now hrow hfill hrej hfound
    rw [hn] at hf
    exact hf
  by_cases hno : report.orderNo=row₀.orderId
  · have hfound : findOrderByKisOrderNo report.orderNo report.ticker t=some row := by
      unfold findOrderByKisOrderNo
      rw [hno,hrow]
    refine ⟨_,hhit hfound,?_⟩
    dsimp only [Report.reachesPartial]
    rw [decide_eq_true hno]
    exact settleWith_books ordered filled _ hb
  · obtain hwho | ⟨hnone,hsearch⟩ := hwho
    · exact absurd (hwho.trans hid) hno
    · dsimp only [Report.reachesPartial]
      rw [decide_eq_false hno]
      by_cases hsub : row.status="SUBMITTED"
      · refine ⟨_,hhit (hsearch hsub),?_⟩
        rw [Booking.book_submitted (hb.submitted_iff.mp hsub)]
        exact settleWith_books ordered filled _ hb
      · rw [Booking.book_unreached (fun hc => hsub (hb.submitted_iff.mpr hc))]
        refine ⟨row,?_,hb⟩
        rw [handleExecutionNotice_find_other now ?_]
        · exact hrow
        · intro found hfound heq
          obtain ⟨hmem,_,hst⟩ := findOrderByKisOrderNo_submitted hnone hfound
          have hsame := Table.eq_of_orderId (Table.find_mem hrow) hmem (hid.trans heq)
          rw [hsame] at hsub
          exact hsub hst

/-- One report is booked by the row of its order. -/
theorem Report.handle_books {t : Table} {row₀ row : OrderRow} {b : Booking} {ordered filled : ℤ}
    {report : Report} (hrow : t.find row₀.orderId=some row) (hb : Books row₀ row b)
    (hq : 0<filled) (hle : filled≤ordered) (hs : report.Says t row ordered filled) :
    ∃ row',(report.handle row₀.orderId row₀.ticker row₀.market t).find row₀.orderId=some row' ∧
      Books row₀ row' (b.book ordered (report.reachesPartial row₀.orderId) filled) := by
  have hticker := hb.2.2.2.1
  have hmarket := hb.2.2.2.2.1
  cases report with
  | poll now records =>
    obtain ⟨record,price,hm,hp⟩ := hs
    have hf := pollAttempt_find now records hrow
    rw [recordsFill_eq hq hm hp,hticker,hmarket] at hf
    exact ⟨_,hf,settleWith_books ordered filled price hb⟩
  | reconcile now records =>
    obtain ⟨hday,record,price,hm,hp⟩ := hs
    have hf := reconcile_find now records hrow
    rw [recordsFill_eq hq hm hp] at hf
    by_cases hsub : row.status="SUBMITTED"
    · rw [if_pos ⟨hsub,hday⟩] at hf
      refine ⟨_,hf,?_⟩
      rw [Booking.book_submitted (hb.submitted_iff.mp hsub)]
      exact settleWith_books ordered filled price hb
    · rw [if_neg (fun hc => hsub hc.1)] at hf
      refine ⟨_,hf,?_⟩
      change Books row₀ row (b.book ordered false filled)
      rw [Booking.book_unreached (fun hc => hsub (hb.submitted_iff.mpr hc))]
      exact hb
  | notice now report => exact Report.notice_books now report hrow hb hq hle hs

/-- Handling of a sequence of reports, each with the quantity it reports. -/
def handleAll (row₀ : OrderRow) (t : Table) (reports : List (Report×ℤ)) : Table :=
  reports.foldl (fun t r => r.1.handle row₀.orderId row₀.ticker row₀.market t) t

/-- Every report of a sequence is, when it is handled, about the order and
reports its quantity. -/
def AllSay (row₀ : OrderRow) (ordered : ℤ) : Table→List (Report×ℤ)→Prop
  | _,[] => True
  | t,(report,filled)::reports =>
    (∀ row∈t.find row₀.orderId,report.Says t row ordered filled) ∧
      AllSay row₀ ordered (report.handle row₀.orderId row₀.ticker row₀.market t) reports

/-- The bookings of a sequence of reports. -/
def bookAll (orderId : String) (ordered : ℤ) (b : Booking) (reports : List (Report×ℤ)) : Booking :=
  reports.foldl (fun b r => b.book ordered (r.1.reachesPartial orderId) r.2) b

/-- The table follows the bookings over a whole sequence of reports. -/
theorem handleAll_books {row₀ row : OrderRow} {ordered : ℤ} (reports : List (Report×ℤ))
    {t : Table} {b : Booking} (hrow : t.find row₀.orderId=some row) (hb : Books row₀ row b)
    (hpos : ∀ r∈reports,0 < r.2) (hle : ∀ r∈reports,r.2≤ordered)
    (hsay : AllSay row₀ ordered t reports) :
    ∃ row',(handleAll row₀ t reports).find row₀.orderId=some row' ∧
      Books row₀ row' (bookAll row₀.orderId ordered b reports) := by
  induction reports generalizing t row b with
  | nil => exact ⟨row,hrow,hb⟩
  | cons r reports ih =>
    obtain ⟨report,filled⟩ := r
    obtain ⟨hfirst,hrest⟩ := hsay
    obtain ⟨row',hrow',hb'⟩ := Report.handle_books hrow hb (hpos _ List.mem_cons_self)
      (hle _ List.mem_cons_self) (hfirst row hrow)
    exact ih hrow' hb' (fun r hr => hpos r (List.mem_cons_of_mem _ hr))
      (fun r hr => hle r (List.mem_cons_of_mem _ hr)) hrest

/-- A complete fill is final. -/
theorem bookAll_filled (orderId : String) (ordered filled : ℤ) (reports : List (Report×ℤ)) :
    bookAll orderId ordered ⟨.filled,filled⟩ reports=⟨.filled,filled⟩ := by
  induction reports with
  | nil => rfl
  | cons r reports ih => exact ih

/-- A partial fill stays as it is until a report of the complete fill reaches
the order. -/
theorem bookAll_partial_kept {orderId : String} {ordered filled : ℤ}
    (reports : List (Report×ℤ)) (hle : ∀ r∈reports,r.2≤ordered)
    (h : ¬∃ r∈reports,r.2=ordered ∧ r.1.reachesPartial orderId=true) :
    bookAll orderId ordered ⟨.partialFill,filled⟩ reports=⟨.partialFill,filled⟩ := by
  induction reports with
  | nil => rfl
  | cons r reports ih =>
    have hstep : Booking.book ordered (r.1.reachesPartial orderId) r.2 ⟨.partialFill,filled⟩=
        ⟨.partialFill,filled⟩ := by
      refine if_neg fun hc => h ⟨r,List.mem_cons_self,?_,hc.1⟩
      exact le_antisymm (hle r List.mem_cons_self) hc.2
    unfold bookAll
    rw [List.foldl_cons,hstep]
    refine ih (fun r hr => hle r (List.mem_cons_of_mem _ hr)) ?_
    rintro ⟨r',hr',hfull⟩
    exact h ⟨r',List.mem_cons_of_mem r hr',hfull⟩

/-- A report of the complete fill that reaches the order completes it. -/
theorem bookAll_partial_filled {orderId : String} {ordered filled : ℤ}
    (reports : List (Report×ℤ)) (hle : ∀ r∈reports,r.2≤ordered)
    (h : ∃ r∈reports,r.2=ordered ∧ r.1.reachesPartial orderId=true) :
    bookAll orderId ordered ⟨.partialFill,filled⟩ reports=⟨.filled,ordered⟩ := by
  induction reports with
  | nil =>
    obtain ⟨r,hr,_⟩ := h
    cases hr
  | cons r reports ih =>
    unfold bookAll
    rw [List.foldl_cons]
    by_cases hr : r.2=ordered ∧ r.1.reachesPartial orderId=true
    · have hstep : Booking.book ordered (r.1.reachesPartial orderId) r.2 ⟨.partialFill,filled⟩=
          ⟨.filled,ordered⟩ := by
        unfold Booking.book
        rw [hr.1]
        exact if_pos ⟨hr.2,le_rfl⟩
      rw [hstep]
      exact bookAll_filled orderId ordered ordered reports
    · have hstep : Booking.book ordered (r.1.reachesPartial orderId) r.2 ⟨.partialFill,filled⟩=
          ⟨.partialFill,filled⟩ := by
        refine if_neg fun hc => hr ⟨?_,hc.1⟩
        exact le_antisymm (hle r List.mem_cons_self) hc.2
      rw [hstep]
      refine ih (fun r hr => hle r (List.mem_cons_of_mem _ hr)) ?_
      obtain ⟨r',hr',hfull⟩ := h
      obtain rfl | hr' := List.mem_cons.mp hr'
      · exact absurd hfull hr
      · exact ⟨r',hr',hfull⟩

/-- The row of the order has the given filled quantity, and the status that
the quantity asks for. -/
def SettledAs (orderId : String) (ordered filled : ℤ) (t : Table) : Prop :=
  ∃ row,t.find orderId=some row ∧ row.filledQuantity=filled ∧
    row.status=(if filled=ordered then OrderStatus.filled else OrderStatus.partialFill).value

/-- The quantity and the status of a row in terms of what it has booked. -/
theorem settledAs_iff {t : Table} {row₀ row : OrderRow} {b : Booking} {ordered filled : ℤ}
    (hrow : t.find row₀.orderId=some row) (hb : Books row₀ row b) :
    SettledAs row₀.orderId ordered filled t ↔
      b=⟨if filled=ordered then .filled else .partialFill,filled⟩ := by
  constructor
  · rintro ⟨row',hfind,hq,hs⟩
    rw [hrow] at hfind
    cases hfind
    have hstatus := OrderStatus.value_injective (hb.1.symm.trans hs)
    have hfilled := hb.2.1.symm.trans hq
    cases b
    dsimp only at hstatus hfilled
    rw [hstatus,hfilled]
  · rintro rfl
    exact ⟨row,hrow,hb.2.1,hb.1⟩

/-- The bookings of a sequence that starts on a submitted order. -/
theorem bookAll_cons_submitted (orderId : String) (ordered filled : ℤ) (first : Report×ℤ)
    (rest : List (Report×ℤ)) :
    bookAll orderId ordered ⟨.submitted,filled⟩ (first::rest)=
      bookAll orderId ordered ⟨if ordered≤first.2 then .filled else .partialFill,first.2⟩ rest :=
  rfl

/-- The bookings of non-decreasing quantities end with the last quantity
exactly when that is the first one, or the complete fill reaches the order. -/
theorem bookAll_last_iff {orderId : String} {ordered filled last : ℤ} {first : Report×ℤ}
    {rest : List (Report×ℤ)} (hle : ∀ r∈first::rest,r.2≤ordered)
    (hlast : last≤ordered) (hmax : ∀ r∈first::rest,r.2≤last) :
    bookAll orderId ordered ⟨.submitted,filled⟩ (first::rest)=
        ⟨if last=ordered then .filled else .partialFill,last⟩ ↔
      last=first.2 ∨ ∃ r∈first::rest,r.2=ordered ∧ r.1.reachesPartial orderId=true := by
  have hrest : ∀ r∈rest,r.2≤ordered := fun r hr => hle r (List.mem_cons_of_mem _ hr)
  have hfirst := hmax first List.mem_cons_self
  rw [bookAll_cons_submitted]
  by_cases hq : ordered≤first.2
  · have hsame : last=first.2 := by omega
    have hfull : last=ordered := by omega
    rw [if_pos hq,if_pos hfull,bookAll_filled,hsame]
    simp
  · rw [if_neg hq]
    by_cases hex : ∃ r∈rest,r.2=ordered ∧ r.1.reachesPartial orderId=true
    · obtain ⟨r,hr,hfull,hreach⟩ := hex
      have hend : last=ordered := by
        have hrlast := hmax r (List.mem_cons_of_mem _ hr)
        omega
      rw [bookAll_partial_filled rest hrest ⟨r,hr,hfull,hreach⟩,if_pos hend,hend]
      refine ⟨fun _ => .inr ⟨r,List.mem_cons_of_mem _ hr,hfull,hreach⟩,fun _ => rfl⟩
    · rw [bookAll_partial_kept rest hrest hex]
      constructor
      · intro h
        have hfilled := congrArg Booking.filled h
        exact .inl hfilled.symm
      · rintro (h | ⟨r,hr,hfull,hreach⟩)
        · have hne : last≠ordered := by omega
          rw [if_neg hne,h]
        · obtain rfl | hr := List.mem_cons.mp hr
          · exact absurd hfull.ge hq
          · exact absurd ⟨r,hr,hfull,hreach⟩ hex

/-- For every table, every order in it stored as submitted and every sequence
of reports with positive, non-decreasing cumulative quantities up to the
ordered one, by any mixture of feeds: the row ends with the last quantity and
its status exactly when the last quantity is the first one, or a report of
the complete fill reaches the order after a partial fill. -/
theorem reports_settle_iff (t : Table) (row : OrderRow) (hrow : t.find row.orderId=some row)
    (hsub : row.status="SUBMITTED") (first : Report×ℤ) (rest : List (Report×ℤ))
    (hpos : ∀ r∈first::rest,0 < r.2) (hle : ∀ r∈first::rest,r.2 ≤ row.quantity)
    (hmono : (first::rest).Pairwise (fun a b => a.2≤b.2))
    (hsay : AllSay row row.quantity t (first::rest)) :
    SettledAs row.orderId row.quantity ((first::rest).getLast (List.cons_ne_nil _ _)).2
        (handleAll row t (first::rest)) ↔
      ((first::rest).getLast (List.cons_ne_nil _ _)).2=first.2 ∨
        ∃ r∈first::rest,r.2= row.quantity ∧ r.1.reachesPartial row.orderId=true := by
  have hbooks : Books row row ⟨.submitted,row.filledQuantity⟩ :=
    ⟨hsub,rfl,rfl,rfl,rfl,rfl⟩
  obtain ⟨row',hrow',hb'⟩ := handleAll_books (first::rest) hrow hbooks hpos hle hsay
  rw [settledAs_iff hrow' hb']
  have : Std.Refl (fun a b : Report×ℤ => a.2≤b.2) := ⟨fun a => le_rfl⟩
  exact bookAll_last_iff hle (hle _ (List.getLast_mem _)) (fun r hr => hmono.rel_getLast hr)

/-- The table with the sample order only. -/
def sampleTable : Table := ⟨[sampleRow],List.nodup_singleton _⟩

/-- A notice with the number of the sample order is about it. -/
theorem sampleNotice_about (t : Table) (filled : ℤ) :
    ∀ row∈t.find sampleRow.orderId,
      Report.Says t row sampleRow.quantity filled (.notice 1 (sampleNotice filled)) :=
  fun _ hrow => ⟨rfl,rfl,rfl,rfl,.inl (Table.find_orderId hrow).symm⟩

/-- A partial fill followed by the complete one. -/
theorem reports_settle_complete :
    SettledAs sampleRow.orderId 10 10
      (handleAll sampleRow sampleTable
        [(.notice 1 (sampleNotice 4),4),(.notice 1 (sampleNotice 10),10)]) := by
  have h := reports_settle_iff sampleTable sampleRow rfl rfl (.notice 1 (sampleNotice 4),4)
    [(.notice 1 (sampleNotice 10),10)] (by decide) (by decide) (by decide)
    ⟨sampleNotice_about _ 4,sampleNotice_about _ 10,trivial⟩
  exact h.mpr (.inr ⟨_,List.mem_cons_of_mem _ List.mem_cons_self,rfl,rfl⟩)

/-- A second partial fill is lost: after notices of 4 and 7 shares of 10 the
row still has 4. -/
theorem second_partial_fill_lost :
    ¬∀ (t : Table) (row : OrderRow) (first : Report×ℤ) (rest : List (Report×ℤ)),
      t.find row.orderId=some row→ row.status="SUBMITTED"→
      (∀ r∈first::rest,0 < r.2)→(∀ r∈first::rest,r.2 ≤ row.quantity)→
      (first::rest).Pairwise (fun a b => a.2≤b.2)→AllSay row row.quantity t (first::rest)→
      SettledAs row.orderId row.quantity ((first::rest).getLast (List.cons_ne_nil _ _)).2
        (handleAll row t (first::rest)) := by
  intro hall
  obtain ⟨row,hrow,hq,_⟩ := hall sampleTable sampleRow (.notice 1 (sampleNotice 4),4)
    [(.notice 1 (sampleNotice 7),7)] rfl rfl (by decide) (by decide) (by decide)
    ⟨sampleNotice_about _ 4,sampleNotice_about _ 7,trivial⟩
  have hfour : ((handleAll sampleRow sampleTable
      [(.notice 1 (sampleNotice 4),4),(.notice 1 (sampleNotice 7),7)]).find
        sampleRow.orderId).map OrderRow.filledQuantity=some 4 := by decide +kernel
  rw [hrow,Option.map_some,hq] at hfour
  exact absurd (Option.some.inj hfour) (by decide)

end Aqts.SettlementWriters
