import Aqts.GuardedRuns
import Aqts.SettlementPoller
import Mathlib.Data.Fintype.Basic

/-!
# Concurrent writers of one order row

Cancellations, polls, reconciliations and websocket notices read the status
of a row with one statement and write it with a later one. The step system
interleaves the statements of any number of such writers on one row. The
settlement writers compare and set; the UPDATE of `cancel_order` does not.
Every write is logged with the status it replaced.
-/

namespace Aqts.SettlementWriters

open OrderTypes OrderStateMachine OrdersTable SettlementPoller GuardedRuns

/-- Errors of `cancel_order` before its UPDATE. -/
inductive CancelRefusal
  /-- The order is not in the table. -/
  | notFound
  /-- The stored status is no status. -/
  | unknownStatus (raw : String)
  /-- The order cannot be cancelled in its status. -/
  | notCancellable (error : InvalidOrderTransition)
  deriving DecidableEq

/-- HTTP status of a refusal. -/
def CancelRefusal.statusCode : CancelRefusal→ℕ
  | .notFound => 404
  | .unknownStatus _ => 503
  | .notCancellable _ => 409

/-- Machine-readable code of a refusal. -/
def CancelRefusal.errorCode : CancelRefusal→String
  | .notFound => "ORDER_NOT_FOUND"
  | .unknownStatus _ => "ORDER_STORE_UNAVAILABLE"
  | .notCancellable _ => "INVALID_ORDER_TRANSITION"

/-- The checks of `cancel_order` on the status its SELECT returned. -/
def cancelCheck (orderId : String) : Option String→Except CancelRefusal OrderStatus
  | none => .error .notFound
  | some raw =>
    match parseOrderStatus raw with
    | none => .error (.unknownStatus raw)
    | some status =>
      match assertCanCancel status (some orderId) with
      | .error error => .error (.notCancellable error)
      | .ok () => .ok status

/-- The UPDATE of `cancel_order`, which looks at the order number only. -/
def cancelledRow (row : OrderRow) : OrderRow := {row with status := OrderStatus.cancelled.value}

/-- A write that a writer has decided on after its SELECT. -/
inductive Pending
  /-- `cancel_order` has passed its checks. -/
  | cancel
  /-- `_update_order_status` has passed its checks on the status read. -/
  | settle (current : String) (fill : Fill)
  deriving DecidableEq

/-- The settlement of a fill on a row whose status was read, if its checks
pass. -/
def settlePending (row : OrderRow) (fill : Fill) : Option Pending :=
  match updateAllowed row.orderId row.status fill.status with
  | .ok true => some (.settle row.status fill)
  | _ => none

/-- What the records say about a row; none without a match, with a malformed
number or without a fill. -/
def recordsFill (records : List CcldRecord) (row : OrderRow) : Option Fill :=
  match matchCcldRecord records row.orderId row.ticker with
  | none => none
  | some record =>
    match parseCcldStatus record row.market with
    | none => none
    | some fill => if fill.status=.submitted then none else some fill

/-- The settlement of what the records say about a row. -/
def recordPending (records : List CcldRecord) (row : OrderRow) : Option Pending :=
  match recordsFill records row with
  | none => none
  | some fill => settlePending row fill

/-- What a SELECT can be made for. -/
inductive Read
  /-- `cancel_order`. -/
  | cancel
  /-- One attempt of `poll_after_execution`. -/
  | poll (records : List CcldRecord)
  /-- `reconcile_all_submitted`. -/
  | reconcile (now : ℚ) (records : MarketRecords)
  /-- `handle_execution_notice`. -/
  | notice (report : Notice)

/-- What a writer has decided after reading the row. A reconciliation and the
ticker search of a notice see submitted rows only. -/
def Read.pending (row : OrderRow) : Read→Option Pending
  | .cancel =>
    match cancelCheck row.orderId (some row.status) with
    | .error _ => none
    | .ok _ => some .cancel
  | .poll records => recordPending records row
  | .reconcile now records =>
    if row.status="SUBMITTED" ∧ dateOf row.createdAt=dateOf now then
      recordPending (records.of row.market) row
    else none
  | .notice report =>
    if report.isFilled=false ∨ report.isRejected=true then none
    else if report.orderNo=row.orderId ∨ (report.ticker=row.ticker ∧ row.status="SUBMITTED") then
      match noticeFill report with
      | none => none
      | some fill => settlePending row fill
    else none

/-- State of a run of `n` writers on one row. -/
structure State (n : ℕ) where
  /-- The row. -/
  row : OrderRow
  /-- The write each writer has decided on. -/
  pending : Fin n→Option Pending
  /-- Status before and after each write, in order. -/
  changes : List (String×String)

/-- Statements of the writers. -/
inductive Event (n : ℕ)
  /-- A writer without an open write reads the row. -/
  | select (i : Fin n) (read : Read)
  /-- A writer sends its UPDATE. -/
  | update (i : Fin n) (now : ℚ)

variable {n : ℕ}

/-- The row after a write. -/
def Pending.write (now : ℚ) (row : OrderRow) : Pending→OrderRow
  | .cancel => cancelledRow row
  | .settle current fill => (compareAndSet now current fill).apply row

/-- The step function of a run. -/
def step (s : State n) : Event n→Option (State n)
  | .select i read =>
    if s.pending i=none then
      some {s with pending := Function.update s.pending i (read.pending s.row)}
    else none
  | .update i now =>
    (s.pending i).map fun p => {
      row := p.write now s.row
      pending := Function.update s.pending i none
      changes := s.changes++[(s.row.status,(p.write now s.row).status)] }

/-- All writers idle on a row. -/
def initial (n : ℕ) (row : OrderRow) : State n := ⟨row,fun _ => none,[]⟩

/-- Two stored texts are the ends of an edge of the transition table. -/
def isEdge (before after : String) : Bool :=
  match parseOrderStatus before,parseOrderStatus after with
  | some fromState,some toState => canTransitionOrder fromState toState
  | _,_ => false

/-- Every change of the stored status is an edge of the transition table. -/
def EdgesOnly (s : State n) : Prop := ∀ c∈s.changes,c.1≠c.2→isEdge c.1 c.2=true

instance : DecidablePred (EdgesOnly (n := n)) := fun s =>
  inferInstanceAs (Decidable (∀ c∈s.changes,c.1≠c.2→isEdge c.1 c.2=true))

/-- A row with a terminal status is never given another one. -/
def TerminalKept (s : State n) : Prop :=
  ∀ c∈s.changes,∀ status,parseOrderStatus c.1=some status→
    isTerminalOrderState status=true→c.2=c.1

/-- No cancellation is written over a filled order. -/
def NoLateCancel (s : State n) : Event n→Prop
  | .select _ _ => True
  | .update i _ => s.pending i=some .cancel→s.row.status≠OrderStatus.filled.value

instance (s : State n) : (e : Event n)→Decidable (NoLateCancel s e)
  | .select _ _ => inferInstanceAs (Decidable True)
  | .update i _ => inferInstanceAs (Decidable
      (s.pending i=some .cancel→s.row.status≠OrderStatus.filled.value))

/-- What an open write may rely on: a settlement follows an edge to a complete
or a partial fill, and the row of a cancellation has a status other than
`FAILED`. -/
def Pending.Sound (row : OrderRow) : Pending→Prop
  | .cancel => ∃ status,parseOrderStatus row.status=some status ∧ status≠.failed
  | .settle current fill => isEdge current fill.status.value=true ∧
      (fill.status=.filled ∨ fill.status=.partialFill)

/-- A status text read back. -/
theorem parseOrderStatus_value (status : OrderStatus) :
    parseOrderStatus status.value=some status := parseOrderStatus_eq_some.mpr rfl

/-- The settlement that passed its checks is sound. -/
theorem settlePending_sound {row : OrderRow} {fill : Fill} {p : Pending}
    (hf : fill.status=.filled ∨ fill.status=.partialFill) (h : settlePending row fill=some p) :
    p.Sound row := by
  unfold settlePending at h
  split at h
  · rename_i hu
    cases h
    obtain ⟨current,hp,hc⟩ := updateAllowed_eq_true hu
    refine ⟨?_,hf⟩
    unfold isEdge
    rw [hp,parseOrderStatus_value]
    exact hc
  · cases h

/-- What the records say is a complete or a partial fill. -/
theorem recordsFill_status {records : List CcldRecord} {row : OrderRow} {fill : Fill}
    (h : recordsFill records row=some fill) :
    fill.status=.filled ∨ fill.status=.partialFill := by
  unfold recordsFill at h
  split at h
  · cases h
  · split at h
    · cases h
    · rename_i parsed hp
      split at h
      · cases h
      · rename_i hne
        cases h
        obtain ⟨ordQty,ccldQty,price,rfl⟩ := parseCcldStatus_eq_some hp
        exact ccldFill_status hne

/-- The settlement of a matched record is sound. -/
theorem recordPending_sound {records : List CcldRecord} {row : OrderRow} {p : Pending}
    (h : recordPending records row=some p) : p.Sound row := by
  unfold recordPending at h
  split at h
  · cases h
  · rename_i fill hf
    exact settlePending_sound (recordsFill_status hf) h

/-- A cancellation that passed its checks is sound. -/
theorem cancelCheck_sound {row : OrderRow} {status : OrderStatus}
    (h : cancelCheck row.orderId (some row.status)=.ok status) : Pending.cancel.Sound row := by
  unfold cancelCheck at h
  dsimp only at h
  split at h
  · cases h
  · rename_i current hp
    refine ⟨current,hp,?_⟩
    rintro rfl
    cases h

/-- Whatever a writer decides on after its SELECT is sound. -/
theorem Read.pending_sound {row : OrderRow} {read : Read} {p : Pending}
    (h : read.pending row=some p) : p.Sound row := by
  cases read with
  | cancel =>
    dsimp only [Read.pending] at h
    split at h
    · cases h
    · rename_i status hc
      cases h
      exact cancelCheck_sound hc
  | poll records => exact recordPending_sound h
  | reconcile now records =>
    dsimp only [Read.pending] at h
    split at h
    · exact recordPending_sound h
    · cases h
  | notice report =>
    dsimp only [Read.pending] at h
    split at h
    · cases h
    · split at h
      · split at h
        · cases h
        · rename_i fill hf
          exact settlePending_sound (noticeFill_status hf) h
      · cases h

/-- The status that a sound write leaves: the one before, or the new one. -/
theorem Pending.write_status {row : OrderRow} {p : Pending} (now : ℚ) (h : p.Sound row) :
    (p.write now row).status=row.status ∨
      ∃ status : OrderStatus,(p.write now row).status=status.value ∧ status≠.failed := by
  cases p with
  | cancel => exact .inr ⟨.cancelled,rfl,by decide⟩
  | settle current fill =>
    by_cases hs : row.status=current
    · refine .inr ⟨fill.status,?_,?_⟩
      · rw [Pending.write,compareAndSet_hit now fill hs]
        rfl
      · obtain hf | hf := h.2
        · simp [hf]
        · simp [hf]
    · refine .inl ?_
      rw [Pending.write,compareAndSet_miss now fill hs]

/-- An open write stays sound when another write lands. -/
theorem Pending.Sound.after {row : OrderRow} {p q : Pending} {now : ℚ} (hq : q.Sound row)
    (hp : p.Sound row) : q.Sound (p.write now row) := by
  cases q with
  | settle current fill => exact hq
  | cancel =>
    obtain hs | ⟨status,hs,hf⟩ := p.write_status now hp
    · unfold Pending.Sound
      rw [hs]
      exact hq
    · refine ⟨status,?_,hf⟩
      rw [hs]
      exact parseOrderStatus_value status

/-- A sound write changes the status along an edge, unless it cancels a filled
order. -/
theorem Pending.write_edge {row : OrderRow} {p : Pending} {now : ℚ} (h : p.Sound row)
    (hc : p=.cancel→ row.status≠OrderStatus.filled.value)
    (hne : row.status≠(p.write now row).status) :
    isEdge row.status (p.write now row).status=true := by
  cases p with
  | cancel =>
    obtain ⟨status,hp,hf⟩ := h
    have hraw := parseOrderStatus_eq_some.mp hp
    have hfilled : status≠.filled := by
      rintro rfl
      exact hc rfl hraw
    have hcancelled : status≠.cancelled := by
      rintro rfl
      exact hne hraw
    change isEdge row.status OrderStatus.cancelled.value=true
    unfold isEdge
    rw [hp,parseOrderStatus_value]
    cases status <;> first | rfl | contradiction
  | settle current fill =>
    by_cases hs : row.status=current
    · have hw : (Pending.write now row (.settle current fill)).status=fill.status.value := by
        rw [Pending.write,compareAndSet_hit now fill hs]
        rfl
      rw [hw,hs]
      exact h.1
    · refine absurd ?_ hne
      rw [Pending.write,compareAndSet_miss now fill hs]

/-- The invariant of a run: open writes are sound, and the log has edges only. -/
def Orderly (s : State n) : Prop :=
  (∀ i p,s.pending i=some p→p.Sound s.row) ∧ EdgesOnly s

/-- No write is open and nothing is logged at the start. -/
theorem orderly_initial (row : OrderRow) : Orderly (initial n row) := by
  constructor
  · intro i p hp
    cases hp
  · intro c hmem
    cases hmem

/-- Every statement keeps the invariant unless it cancels a filled order. -/
theorem Orderly.step {s s' : State n} {e : Event n} (h : Orderly s) (hc : NoLateCancel s e)
    (hs : SettlementWriters.step s e=some s') : Orderly s' := by
  cases e with
  | select i read =>
    dsimp only [SettlementWriters.step] at hs
    split at hs
    · cases hs
      refine ⟨?_,h.2⟩
      intro j p hp
      dsimp only at hp ⊢
      by_cases hji : j=i
      · subst hji
        rw [Function.update_self] at hp
        exact Read.pending_sound hp
      · rw [Function.update_of_ne hji] at hp
        exact h.1 j p hp
    · cases hs
  | update i now =>
    obtain ⟨p,hp,rfl⟩ := Option.map_eq_some_iff.mp hs
    have hsound := h.1 i p hp
    refine ⟨?_,?_⟩
    · intro j q hq
      dsimp only at hq ⊢
      by_cases hji : j=i
      · subst hji
        rw [Function.update_self] at hq
        cases hq
      · rw [Function.update_of_ne hji] at hq
        exact (h.1 j q hq).after hsound
    · intro c hmem hne
      obtain hmem | hmem := List.mem_append.mp hmem
      · exact h.2 c hmem hne
      · rw [List.mem_singleton.mp hmem] at hne ⊢
        exact Pending.write_edge hsound (fun hcancel => hc (hcancel ▸ hp)) hne

/-- Edges leave no terminal status. -/
theorem EdgesOnly.terminalKept {s : State n} (h : EdgesOnly s) : TerminalKept s := by
  intro c hmem status hp ht
  by_contra hne
  have hedge := h c hmem (fun heq => hne heq.symm)
  have hnone := (isTerminalOrderState_iff status).mp ht
  unfold isEdge at hedge
  rw [hp] at hedge
  split at hedge
  · rename_i fromState toState hfrom hto
    cases hfrom
    rw [canTransitionOrder,hnone] at hedge
    cases hedge
  · cases hedge

/-- For any number of writers, any reports and any interleaving: while no
cancellation lands on a filled order, every change of the status is an edge
of the transition table and terminal statuses are kept. -/
theorem writers_follow_edges (row : OrderRow) {s : State n}
    (h : Reaches step NoLateCancel (initial n row) s) : EdgesOnly s ∧ TerminalKept s := by
  have hord : Orderly s := by
    refine h.invariant (orderly_initial row) ?_
    intro s e s' _ hs hc hstep
    exact hs.step hc hstep
  exact ⟨hord.2,hord.2.terminalKept⟩

/-- A submitted order of ten shares. -/
def sampleRow : OrderRow where
  orderId := "0000117057"
  ticker := "005930"
  market := "KRX"
  side := .buy
  orderType := "MARKET"
  quantity := 10
  filledQuantity := 0
  filledPrice := 0
  status := "SUBMITTED"
  createdAt := 0
  filledAt := none
  errorMessage := ""

/-- A notice about the sample order. -/
def sampleNotice (filledQty : ℤ) : Notice :=
  ⟨"0000117057","005930",filledQty,71000,10,true,false⟩

/-- A partial fill between the SELECT and the UPDATE of a cancellation. -/
theorem writers_follow_edges_partial :
    ∃ s : State 2,play step NoLateCancel (initial 2 sampleRow)
        [.select 0 .cancel,.select 1 (.notice (sampleNotice 4)),.update 1 1,.update 0 1]=some s ∧
      s.changes=[("SUBMITTED","PARTIAL"),("PARTIAL","CANCELLED")] ∧
      EdgesOnly s ∧ TerminalKept s := by
  obtain ⟨s,hp,hq,hr⟩ := play_ends step NoLateCancel (initial 2 sampleRow)
    (fun s => s.changes=[("SUBMITTED","PARTIAL"),("PARTIAL","CANCELLED")])
    [.select 0 .cancel,.select 1 (.notice (sampleNotice 4)),.update 1 1,.update 0 1]
    (by decide +kernel)
  exact ⟨s,hp,hq,writers_follow_edges sampleRow hr⟩

/-- A complete fill between the SELECT and the UPDATE of a cancellation is
overwritten. -/
theorem cancel_overwrites_filled :
    ¬∀ s : State 2,Reaches step (fun _ _ => True) (initial 2 sampleRow) s→EdgesOnly s :=
  not_forall_reaches
    [.select 0 .cancel,.select 1 (.notice (sampleNotice 10)),.update 1 1,.update 0 1]
    (by decide +kernel)

end Aqts.SettlementWriters
