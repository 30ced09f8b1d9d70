import Aqts.BrokerPlacements
import Mathlib.Logic.Relation

/-!
# Orders as tasks

The coroutines that call the broker, cut at their awaits: `execute_order` waits
for a quote, a token, an answer of the broker or the end of an interval, and
`_handle_unfilled` for the order's details and its cancellation. Between two
awaits a task runs without interruption, so a broker call starts in the step
that answers the await before it. A task that runs alone has the totals of the
loops of the other modules.
-/

namespace Aqts.OrderTasks

open OrderTypes OrderExecutor

/-- Variables of a sliced order between two intervals. -/
structure Interval where
  /-- Retries of each slice. -/
  retries : ℕ
  /-- Slices of the intervals to come. -/
  rest : List ℤ
  /-- `total_filled`. -/
  totalFilled : ℤ
  /-- `total_cost`. -/
  totalCost : ℚ
  /-- `carryover`. -/
  carryover : ℤ
  deriving DecidableEq

/-- Variables of a sliced order within an interval. -/
structure Slicing where
  /-- Retries of each slice. -/
  retries : ℕ
  /-- Slices of the intervals to come. -/
  rest : List ℤ
  /-- `total_filled` of the intervals before. -/
  totalFilled : ℤ
  /-- `total_cost`. -/
  totalCost : ℚ
  /-- `slice_qty`. -/
  sliceQty : ℤ
  /-- `filled_in_slice`. -/
  filledInSlice : ℤ
  /-- Attempts after the present one. -/
  attemptsLeft : ℕ
  deriving DecidableEq

/-- What a broker call is made for. -/
inductive Job
  /-- A market or limit order. -/
  | single (request : OrderRequest)
  /-- A sub-order of a sliced order. -/
  | sliced (request : OrderRequest) (loop : Slicing)
  /-- The market order of `_handle_unfilled`. -/
  | replacing (orderId ticker : String) (side : OrderSide) (market : Market) (remaining : ℤ)
  deriving DecidableEq

/-- Quantity of the broker call. -/
def Job.quantity : Job→ℤ
  | .single request => request.quantity
  | .sliced _ loop => loop.sliceQty-loop.filledInSlice
  | .replacing _ _ _ _ remaining => remaining

/-- Where a task waits. -/
inductive Stage
  /-- Not started. -/
  | idle
  /-- For the quote. -/
  | quoting (request : OrderRequest)
  /-- For a token. -/
  | fetchingToken (job : Job)
  /-- For the answer of the broker. -/
  | placing (job : Job)
  /-- For the end of an interval. -/
  | sleeping (request : OrderRequest) (interval : Interval)
  /-- For the details of an unfilled order. -/
  | asking (orderId : String) (remaining : ℤ)
  /-- For the cancellation of an unfilled order. -/
  | cancelling (job : Job)
  /-- For nothing: the broker calls are over, with these totals. -/
  | finished (filled : ℤ) (cost : ℚ)
  deriving DecidableEq

/-- A broker call after the check of the token: the new stage, and the quantity
if the call starts. -/
def beginPlace (tokenValid : Bool) (job : Job) : Stage×Option ℤ :=
  if tokenValid=true then (.placing job,some job.quantity) else (.fetchingToken job,none)

/-- The next interval with something due; those without are skipped. -/
def nextSlice (retries : ℕ) (totalFilled : ℤ) (totalCost : ℚ) (carryover : ℤ) :
    List ℤ→Option Slicing
  | [] => none
  | slice::rest =>
    if slice+carryover≤0 then nextSlice retries totalFilled totalCost carryover rest
    else some ⟨retries,rest,totalFilled,totalCost,slice+carryover,0,retries⟩

/-- The loop over the intervals goes on. -/
def Interval.resume (request : OrderRequest) (interval : Interval) (tokenValid : Bool) :
    Stage×Option ℤ :=
  match nextSlice interval.retries interval.totalFilled interval.totalCost interval.carryover
      interval.rest with
  | none => (.finished interval.totalFilled interval.totalCost,none)
  | some loop => beginPlace tokenValid (.sliced request loop)

/-- The variables of the retry loop at the next attempt. -/
def Slicing.retry (loop : Slicing) (filledQty : ℤ) (cost : ℚ) : Slicing :=
  {loop with
    filledInSlice := loop.filledInSlice+filledQty
    totalCost := loop.totalCost+cost
    attemptsLeft := loop.attemptsLeft-1}

/-- The retry loop goes on after an attempt. -/
def Slicing.afterAttempt (request : OrderRequest) (loop : Slicing) (filledQty : ℤ) (cost : ℚ)
    (tokenValid : Bool) : Stage×Option ℤ :=
  if 0<loop.sliceQty-(loop.filledInSlice+filledQty) ∧ 0<loop.attemptsLeft then
    beginPlace tokenValid (.sliced request (loop.retry filledQty cost))
  else if loop.rest=[] then
    (.finished (loop.totalFilled+(loop.filledInSlice+filledQty)) (loop.totalCost+cost),none)
  else
    (.sleeping request ⟨loop.retries,loop.rest,loop.totalFilled+(loop.filledInSlice+filledQty),
      loop.totalCost+cost,loop.sliceQty-(loop.filledInSlice+filledQty)⟩,none)

/-- A broker call, or the token for it, has ended; a sliced order swallows an
exception. -/
def Job.ended (filledQty : ℤ) (cost : ℚ) (tokenValid : Bool) : Job→Stage×Option ℤ
  | .sliced request loop => loop.afterAttempt request filledQty cost tokenValid
  | _ => (.finished filledQty cost,none)

/-- An order after its quote. -/
def dispatchTask (request : OrderRequest) (tokenValid : Bool) : Stage×Option ℤ :=
  match request.orderType with
  | .market => beginPlace tokenValid (.single request)
  | .limit =>
    if ∀ price∈request.limitPrice,price≤0 then (.finished 0 0,none)
    else beginPlace tokenValid (.single request)
  | .twap => Interval.resume request ⟨2,twapSlices request.quantity 6,0,0,0⟩ tokenValid
  | .vwap =>
    Interval.resume request ⟨0,vwapSlices request.quantity (vwapProfile 6 []),0,0,0⟩ tokenValid

/-- What ends the wait of a task. -/
inductive Signal
  /-- The quote, with the exception of the price checks. -/
  | quote (error : Option String) (tokenValid : Bool)
  /-- The token, or its exception. -/
  | token (error : Option String) (tokenValid : Bool)
  /-- The answer of the broker. -/
  | answer (outcome : BrokerOutcome) (tokenValid : Bool)
  /-- The end of the interval. -/
  | timer (tokenValid : Bool)
  /-- The details of the unfilled order: its ticker, side and market. -/
  | details (ticker : String) (side : OrderSide) (market : Market)
  /-- The exception of the details. -/
  | noDetails (error : String)
  /-- The cancellation, whether it worked or not. -/
  | cancelled
  deriving DecidableEq

/-- A task goes on to its next await: the new stage, and the quantity if a broker
call starts. -/
def advance : Stage→Signal→Option (Stage×Option ℤ)
  | .quoting _,.quote (some _) _ => some (.finished 0 0,none)
  | .quoting request,.quote none tokenValid => some (dispatchTask request tokenValid)
  | .fetchingToken job,.token none _ => some (.placing job,some job.quantity)
  | .fetchingToken job,.token (some _) tokenValid => some (job.ended 0 0 tokenValid)
  | .placing job,.answer outcome tokenValid =>
    some (job.ended (outcomeFilled outcome) (outcomeCost outcome) tokenValid)
  | .sleeping request interval,.timer tokenValid => some (interval.resume request tokenValid)
  | .asking orderId remaining,.details ticker side market =>
    if ticker="" then some (.finished 0 0,none)
    else some (.cancelling (.replacing orderId ticker side market remaining),none)
  | .asking _ _,.noDetails _ => some (.finished 0 0,none)
  | .cancelling job,.cancelled => some (.placing job,some job.quantity)
  | _,_ => none

/-- A step of a sliced order that runs alone with a valid token, on the answers
of the broker. -/
def aloneStep : Stage×List BrokerCall→Option (Stage×List BrokerCall)
  | (.placing job,broker) =>
    (advance (.placing job) (.answer (nextAnswer broker).1.outcome true)).map
      fun next => (next.1,(nextAnswer broker).2)
  | (.sleeping request interval,broker) =>
    (advance (.sleeping request interval) (.timer true)).map fun next => (next.1,broker)
  | _ => none

/-- Any number of steps of an order that runs alone. -/
abbrev RunsTo := Relation.ReflTransGen fun a b => aloneStep a=some b

/-- Attempts on a filled slice do nothing. -/
theorem sliceAttempts_filled (request : OrderRequest) (reason : ℕ→String) {sliceQty : ℤ}
    (indices : List ℕ) {p : SliceProgress} (h : sliceQty-p.filledInSlice≤0) :
    indices.foldl (sliceAttempt request reason sliceQty) p=p := by
  induction indices with
  | nil => rfl
  | cons index indices ih =>
    have hsame : sliceAttempt request reason sliceQty p index=p := by
      unfold sliceAttempt
      rw [if_pos h]
    rw [List.foldl_cons,hsame,ih]

/-- The stage after the last attempt on a slice. -/
def sliceEnd (request : OrderRequest) (loop : Slicing) (p : SliceProgress) : Stage :=
  if loop.rest=[] then .finished (loop.totalFilled+p.filledInSlice) p.totalCost
  else .sleeping request ⟨loop.retries,loop.rest,loop.totalFilled+p.filledInSlice,p.totalCost,
    loop.sliceQty-p.filledInSlice⟩

/-- The answer to the last attempt on a slice ends the slice. -/
theorem afterAttempt_end (request : OrderRequest) {loop : Slicing} {p : SliceProgress}
    {filledQty : ℤ} {cost : ℚ} (hfilled : loop.filledInSlice+filledQty=p.filledInSlice)
    (hcost : loop.totalCost+cost=p.totalCost)
    (hend : ¬(0<loop.sliceQty-p.filledInSlice ∧ 0<loop.attemptsLeft)) :
    (loop.afterAttempt request filledQty cost true).1=sliceEnd request loop p := by
  unfold Slicing.afterAttempt sliceEnd
  rw [hfilled,hcost,if_neg hend]
  split
  · rfl
  · rfl

/-- The broker calls of a slice run as its attempts. -/
theorem slice_runs (request : OrderRequest) (reason : ℕ→String) (indices : List ℕ) (index : ℕ)
    (loop : Slicing) (p : SliceProgress) (hleft : loop.attemptsLeft=indices.length)
    (hfilled : loop.filledInSlice=p.filledInSlice) (hcost : loop.totalCost=p.totalCost)
    (hdue : 0<loop.sliceQty-p.filledInSlice) :
    RunsTo (.placing (.sliced request loop),p.broker)
      (sliceEnd request loop
        ((index::indices).foldl (sliceAttempt request reason loop.sliceQty) p),
        ((index::indices).foldl (sliceAttempt request reason loop.sliceQty) p).broker) := by
  induction indices generalizing index loop p with
  | nil =>
    obtain ⟨hbroker,hfilled',hcost'⟩ := sliceAttempt_answer request reason index hdue
    have hend := afterAttempt_end request (p := sliceAttempt request reason loop.sliceQty p index)
      (by rw [hfilled',hfilled]) (by rw [hcost',hcost]) (by simp [hleft])
    refine Relation.ReflTransGen.single ?_
    rw [List.foldl_cons,List.foldl_nil,hbroker,← hend]
    rfl
  | cons next indices ih =>
    obtain ⟨hbroker,hfilled',hcost'⟩ := sliceAttempt_answer request reason index hdue
    by_cases hmore : 0<loop.sliceQty-
        (sliceAttempt request reason loop.sliceQty p index).filledInSlice
    · have hloop : RunsTo
          (.placing (.sliced request (loop.retry (outcomeFilled (nextAnswer p.broker).1.outcome)
            (outcomeCost (nextAnswer p.broker).1.outcome))),
            (sliceAttempt request reason loop.sliceQty p index).broker) _ :=
        ih next _ _ (by simp [Slicing.retry,hleft]) (by rw [hfilled',← hfilled]; rfl)
          (by rw [hcost',← hcost]; rfl) hmore
      refine Relation.ReflTransGen.head ?_ hloop
      have hgoes : (loop.afterAttempt request (outcomeFilled (nextAnswer p.broker).1.outcome)
          (outcomeCost (nextAnswer p.broker).1.outcome) true).1=
          .placing (.sliced request (loop.retry (outcomeFilled (nextAnswer p.broker).1.outcome)
            (outcomeCost (nextAnswer p.broker).1.outcome))) := by
        unfold Slicing.afterAttempt
        rw [hfilled,← hfilled',if_pos ⟨hmore,by simp [hleft]⟩]
        rfl
      rw [hbroker,← hgoes]
      rfl
    · have hend := afterAttempt_end request (p := sliceAttempt request reason loop.sliceQty p index)
        (by rw [hfilled',hfilled]) (by rw [hcost',hcost]) (fun h => hmore h.1)
      refine Relation.ReflTransGen.single ?_
      rw [List.foldl_cons,sliceAttempts_filled request reason _ (by omega),hbroker,← hend]
      rfl

/-- The attempts of an interval. -/
def sliceAttempts (request : OrderRequest) (attempts : ℕ) (reason : ℕ→String) (st : SliceState)
    (sliceQty : ℤ) : SliceProgress :=
  (List.range attempts).foldl (sliceAttempt request reason sliceQty)
    ⟨st.broker,0,st.totalCost,st.subResults⟩

/-- An interval with something due ends with its attempts. -/
theorem executeSlice_due (request : OrderRequest) (attempts : ℕ) (reason : ℕ→ℕ→String)
    (st : SliceState) (slice : ℤ×ℕ) (h : ¬slice.1+st.carryover≤0) :
    executeSlice request attempts reason st slice=
      ⟨(sliceAttempts request attempts (reason slice.2) st (slice.1+st.carryover)).broker,
        st.totalFilled+
          (sliceAttempts request attempts (reason slice.2) st (slice.1+st.carryover)).filledInSlice,
        (sliceAttempts request attempts (reason slice.2) st (slice.1+st.carryover)).totalCost,
        (sliceAttempts request attempts (reason slice.2) st (slice.1+st.carryover)).subResults,
        slice.1+st.carryover-
          (sliceAttempts request attempts (reason slice.2) st
            (slice.1+st.carryover)).filledInSlice⟩ := by
  unfold executeSlice
  dsimp only
  rw [if_neg h]
  rfl

/-- The intervals of an order that runs alone have the totals of the loop. -/
theorem intervals_run (request : OrderRequest) (retries : ℕ) (reason : ℕ→ℕ→String)
    (slices : List ℤ) (i : ℕ) (st : SliceState) :
    ∃ broker,RunsTo
      ((Interval.resume request ⟨retries,slices,st.totalFilled,st.totalCost,st.carryover⟩ true).1,
        st.broker)
      (.finished ((slices.zipIdx i).foldl (executeSlice request (retries+1) reason) st).totalFilled
        ((slices.zipIdx i).foldl (executeSlice request (retries+1) reason) st).totalCost,broker) := by
  induction slices generalizing i st with
  | nil => exact ⟨st.broker,.refl⟩
  | cons slice rest ih =>
    rw [List.zipIdx_cons,List.foldl_cons]
    by_cases hskip : slice+st.carryover≤0
    · have hsame : executeSlice request (retries+1) reason st (slice,i)=st := by
        unfold executeSlice
        dsimp only
        rw [if_pos hskip]
      have hnext : Interval.resume request
          ⟨retries,slice::rest,st.totalFilled,st.totalCost,st.carryover⟩ true=
          Interval.resume request ⟨retries,rest,st.totalFilled,st.totalCost,st.carryover⟩ true := by
        simp only [Interval.resume,nextSlice,hskip,if_true]
      rw [hsame,hnext]
      exact ih (i+1) st
    · have hnext : (Interval.resume request
          ⟨retries,slice::rest,st.totalFilled,st.totalCost,st.carryover⟩ true).1=
          .placing (.sliced request ⟨retries,rest,st.totalFilled,st.totalCost,slice+st.carryover,0,
            retries⟩) := by
        simp only [Interval.resume,nextSlice,hskip,if_false]
        rfl
      have hattempts : RunsTo
          (.placing (.sliced request ⟨retries,rest,st.totalFilled,st.totalCost,slice+st.carryover,0,
            retries⟩),st.broker)
          (sliceEnd request ⟨retries,rest,st.totalFilled,st.totalCost,slice+st.carryover,0,retries⟩
            (sliceAttempts request (retries+1) (reason i) st (slice+st.carryover)),
            (sliceAttempts request (retries+1) (reason i) st (slice+st.carryover)).broker) := by
        unfold sliceAttempts
        rw [List.range_succ_eq_map]
        exact slice_runs request (reason i) ((List.range retries).map Nat.succ) 0
          ⟨retries,rest,st.totalFilled,st.totalCost,slice+st.carryover,0,retries⟩
          ⟨st.broker,0,st.totalCost,st.subResults⟩ (by simp) rfl rfl
          (show 0< slice+st.carryover-0 by omega)
      have hslice := executeSlice_due request (retries+1) reason st (slice,i) hskip
      obtain ⟨broker,hrest⟩ := ih (i+1) (executeSlice request (retries+1) reason st (slice,i))
      rw [hnext]
      by_cases hlast : rest=[]
      · refine ⟨(sliceAttempts request (retries+1) (reason i) st (slice+st.carryover)).broker,?_⟩
        rw [sliceEnd,if_pos hlast] at hattempts
        rw [hlast] at hattempts ⊢
        rw [hslice]
        exact hattempts
      · refine ⟨broker,hattempts.trans (Relation.ReflTransGen.head ?_ hrest)⟩
        rw [sliceEnd,if_neg hlast,hslice]
        rfl

/-- A sliced order that runs alone ends with the totals of `executeSlices`. -/
theorem sliced_task_totals (request : OrderRequest) (retries : ℕ) (reason : ℕ→ℕ→String)
    (slices : List ℤ) (broker : List BrokerCall) :
    ∃ left,RunsTo ((Interval.resume request ⟨retries,slices,0,0,0⟩ true).1,broker)
      (.finished (executeSlices request (retries+1) reason slices broker).totalFilled
        (executeSlices request (retries+1) reason slices broker).totalCost,left) :=
  intervals_run request retries reason slices 0 ⟨broker,0,0,[],0⟩

end Aqts.OrderTasks
