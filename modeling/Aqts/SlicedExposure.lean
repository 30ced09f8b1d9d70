import Aqts.BrokerPlacements

/-!
# What a sliced order has at the broker

The abstract account of a sliced order: the rest of the last accepted
sub-order, which stays live because nothing cancels it, and the planned shares
that no accepted sub-order has asked for. The next sub-order asks for both, so
a live rest is submitted again. The loops of the TWAP and the VWAP order follow
this account, and the quantity they have accepted at the broker is the plan
plus what was submitted again, less what was never accepted.
-/

namespace Aqts.SlicedExposure

open OrderTypes OrderExecutor

/-- The account of a sliced order. -/
structure Exposure where
  /-- Unfilled rest of the last accepted sub-order. -/
  live : ℤ
  /-- Planned shares that no accepted sub-order has asked for. -/
  waiting : ℤ
  /-- Shares of a live rest that were asked for again. -/
  resubmitted : ℤ
  /-- Shares by which skipped slices would have reduced the plan. -/
  dropped : ℤ
  deriving DecidableEq

/-- Nothing planned and nothing sent. -/
def Exposure.empty : Exposure := ⟨0,0,0,0⟩

/-- Quantity of the next sub-order. -/
def Exposure.due (e : Exposure) : ℤ := e.live+e.waiting

/-- The broker accepts the next sub-order and fills a part of it. -/
def Exposure.accept (e : Exposure) (filledQty : ℤ) : Exposure :=
  ⟨e.due-filledQty,0,e.resubmitted+e.live,e.dropped⟩

/-- The next sub-order gets its answer. -/
def Exposure.answer (e : Exposure) : BrokerOutcome→Exposure
  | .accepted _ filledQty _ => e.accept filledQty
  | .unreadable _ => e.accept 0
  | .raises _ => e

/-- One attempt, with the answers that remain. -/
def exposeAttempt (s : Exposure×List BrokerCall) : Exposure×List BrokerCall :=
  if s.1.due≤0 then s else (s.1.answer (nextAnswer s.2).1.outcome,(nextAnswer s.2).2)

/-- Attempts one after the other. -/
def exposeAttempts : ℕ→Exposure×List BrokerCall→Exposure×List BrokerCall
  | 0,s => s
  | attempts+1,s => exposeAttempts attempts (exposeAttempt s)

/-- One interval: its slice is planned and attempted, or skipped when nothing is
due with it. -/
def exposeSlice (attempts : ℕ) (s : Exposure×List BrokerCall) (slice : ℤ) :
    Exposure×List BrokerCall :=
  if slice+s.1.due≤0 then ({s.1 with dropped := s.1.dropped-slice},s.2)
  else exposeAttempts attempts ({s.1 with waiting := s.1.waiting+slice},s.2)

/-- The account of a plan under the answers of the broker. -/
def expose (attempts : ℕ) (slices : List ℤ) (broker : List BrokerCall) : Exposure :=
  (slices.foldl (exposeSlice attempts) (Exposure.empty,broker)).1

/-- The shares that are submitted again and those planned in excess are covered
by shares that are never accepted. -/
def ResubmissionCovered (attempts : ℕ) (slices : List ℤ) (broker : List BrokerCall) : Prop :=
  (expose attempts slices broker).resubmitted+(expose attempts slices broker).dropped≤
    (expose attempts slices broker).waiting

instance (attempts : ℕ) (slices : List ℤ) (broker : List BrokerCall) :
    Decidable (ResubmissionCovered attempts slices broker) :=
  inferInstanceAs (Decidable (_≤_))

/-- Quantities of two logs add up. -/
theorem acceptedQuantity_append (log more : List Placement) :
    acceptedQuantity (log++more)=acceptedQuantity log+acceptedQuantity more := by
  unfold acceptedQuantity
  rw [List.map_append,List.sum_append]

/-- The quantity of one order, if it was accepted. -/
theorem acceptedQuantity_singleton (p : Placement) :
    acceptedQuantity [p]=if p.outcome.isAccepted=true then p.quantity else 0 := by
  unfold acceptedQuantity
  rw [List.map_singleton,List.sum_singleton]

/-- The attempts on a slice follow the account of a plan. -/
structure FollowsSlice (sliceQty planned : ℤ) (s : SliceProgress×List Placement)
    (a : Exposure×List BrokerCall) : Prop where
  /-- The same answers remain. -/
  broker : s.1.broker=a.2
  /-- The rest of the slice is what is due. -/
  due : sliceQty-s.1.filledInSlice=a.1.due
  /-- The accepted quantity. -/
  accepted : acceptedQuantity s.2+a.1.waiting=planned+a.1.dropped+a.1.resubmitted

/-- An answer reduces what is due by its fill. -/
theorem Exposure.answer_due (e : Exposure) (outcome : BrokerOutcome) :
    (e.answer outcome).due=e.due-outcomeFilled outcome := by
  cases outcome with
  | accepted orderId filledQty avgPrice =>
    dsimp only [Exposure.answer,Exposure.accept,Exposure.due,outcomeFilled]
    omega
  | unreadable text =>
    dsimp only [Exposure.answer,Exposure.accept,Exposure.due,outcomeFilled]
    omega
  | raises text =>
    dsimp only [Exposure.answer,Exposure.due,outcomeFilled]
    omega

/-- An accepted order asks for the waiting shares and for the live rest again. -/
theorem Exposure.answer_accepted (e : Exposure) (outcome : BrokerOutcome) :
    acceptedQuantity [⟨e.due,outcome⟩]+(e.answer outcome).waiting+e.resubmitted+e.dropped=
      e.waiting+(e.answer outcome).resubmitted+(e.answer outcome).dropped := by
  rw [acceptedQuantity_singleton]
  cases outcome with
  | accepted orderId filledQty avgPrice =>
    rw [if_pos (by rfl)]
    dsimp only [Exposure.answer,Exposure.accept,Exposure.due]
    omega
  | unreadable text =>
    rw [if_pos (by rfl)]
    dsimp only [Exposure.answer,Exposure.accept,Exposure.due]
    omega
  | raises text =>
    rw [if_neg (by simp [BrokerOutcome.isAccepted])]
    dsimp only [Exposure.answer]
    omega

/-- An attempt follows the account. -/
theorem FollowsSlice.attempt {sliceQty planned : ℤ} {s : SliceProgress×List Placement}
    {a : Exposure×List BrokerCall} (h : FollowsSlice sliceQty planned s a)
    (request : OrderRequest) (reason : ℕ→String) (attempt : ℕ) :
    FollowsSlice sliceQty planned (loggedAttempt request reason sliceQty s attempt)
      (exposeAttempt a) := by
  obtain ⟨hbroker,hdue,haccepted⟩ := h
  unfold loggedAttempt exposeAttempt attemptPlacements
  by_cases hdone : a.1.due≤0
  · have hslice : sliceQty-s.1.filledInSlice≤0 := by omega
    unfold sliceAttempt
    rw [if_pos hdone,if_pos hslice,if_pos hslice,List.append_nil]
    exact ⟨hbroker,hdue,haccepted⟩
  · have hslice : ¬sliceQty-s.1.filledInSlice≤0 := by omega
    obtain ⟨hrest,hfilled,_⟩ := sliceAttempt_answer request reason attempt (not_le.mp hslice)
    have hleft := a.1.answer_due (nextAnswer a.2).1.outcome
    have hsent := a.1.answer_accepted (nextAnswer a.2).1.outcome
    rw [if_neg hdone,if_neg hslice]
    rw [hbroker] at hrest hfilled
    rw [hbroker,hdue]
    refine ⟨hrest,?_,?_⟩
    · dsimp only
      rw [hfilled]
      omega
    · dsimp only
      rw [acceptedQuantity_append]
      omega

/-- All attempts on a slice follow the account. -/
theorem FollowsSlice.attempts {sliceQty planned : ℤ} (request : OrderRequest)
    (reason : ℕ→String) (attempts : List ℕ) {s : SliceProgress×List Placement}
    {a : Exposure×List BrokerCall} (h : FollowsSlice sliceQty planned s a) :
    FollowsSlice sliceQty planned (attempts.foldl (loggedAttempt request reason sliceQty) s)
      (exposeAttempts attempts.length a) := by
  induction attempts generalizing s a with
  | nil => exact h
  | cons attempt attempts ih => exact ih (h.attempt request reason attempt)

/-- The loop over the intervals follows the account of a plan. -/
structure Follows (planned : ℤ) (s : SliceState×List Placement) (a : Exposure×List BrokerCall) :
    Prop where
  /-- The same answers remain. -/
  broker : s.1.broker=a.2
  /-- The carryover is what is due. -/
  due : s.1.carryover=a.1.due
  /-- The accepted quantity. -/
  accepted : acceptedQuantity s.2+a.1.waiting=planned+a.1.dropped+a.1.resubmitted

/-- An interval follows the account. -/
theorem Follows.slice {planned : ℤ} {s : SliceState×List Placement} {a : Exposure×List BrokerCall}
    (h : Follows planned s a) (request : OrderRequest) (attempts : ℕ) (reason : ℕ→ℕ→String)
    (slice : ℤ×ℕ) :
    Follows (planned+slice.1) (loggedSlice request attempts reason s slice)
      (exposeSlice attempts a slice.1) := by
  obtain ⟨hbroker,hdue,haccepted⟩ := h
  unfold loggedSlice exposeSlice executeSlice
  dsimp only
  rw [hdue]
  by_cases hskip : slice.1+a.1.due≤0
  · rw [if_pos hskip,if_pos hskip,if_pos hskip]
    refine ⟨hbroker,hdue,?_⟩
    dsimp only
    omega
  · rw [if_neg hskip,if_neg hskip,if_neg hskip]
    have hstart : FollowsSlice (slice.1+a.1.due) (planned+slice.1)
        (⟨s.1.broker,0,s.1.totalCost,s.1.subResults⟩,s.2)
        ({a.1 with waiting := a.1.waiting+slice.1},a.2) := by
      refine ⟨hbroker,?_,?_⟩
      · dsimp only [Exposure.due]
        omega
      · dsimp only
        omega
    have hend := hstart.attempts request (reason slice.2) (List.range attempts)
    rw [List.length_range] at hend
    have hstate := loggedAttempt_state request (reason slice.2) (slice.1+a.1.due)
      (List.range attempts) (⟨s.1.broker,0,s.1.totalCost,s.1.subResults⟩,s.2)
    rw [← hstate]
    exact ⟨hend.broker,hend.due,hend.accepted⟩

/-- The quantity accepted at the broker, from the account of the plan. -/
theorem loggedSlices_accepted (request : OrderRequest) (attempts : ℕ) (reason : ℕ→ℕ→String)
    (slices : List ℤ) (broker : List BrokerCall) :
    acceptedQuantity (loggedSlices request attempts reason slices broker).2+
        (expose attempts slices broker).waiting=
      slices.sum+(expose attempts slices broker).dropped+
        (expose attempts slices broker).resubmitted := by
  have hloop : ∀ (rest : List ℤ) (i : ℕ) (planned : ℤ) (s : SliceState×List Placement)
      (a : Exposure×List BrokerCall),Follows planned s a→
      Follows (planned+rest.sum)
        ((rest.zipIdx i).foldl (loggedSlice request attempts reason) s)
        (rest.foldl (exposeSlice attempts) a) := by
    intro rest
    induction rest with
    | nil =>
      intro i planned s a h
      rw [List.sum_nil,add_zero]
      exact h
    | cons slice rest ih =>
      intro i planned s a h
      rw [List.sum_cons,← add_assoc,List.zipIdx_cons,List.foldl_cons,List.foldl_cons]
      exact ih (i+1) _ _ _ (h.slice request attempts reason (slice,i))
  have hend := hloop slices 0 0 (⟨broker,0,0,[],0⟩,[]) (Exposure.empty,broker) ⟨rfl,rfl,rfl⟩
  have haccepted := hend.accepted
  rw [zero_add] at haccepted
  exact haccepted

/-- A loop whose plan adds up to a quantity has accepted at most that quantity at
the broker exactly when its resubmissions are covered. -/
theorem loggedSlices_accepted_le_iff (request : OrderRequest) (attempts : ℕ)
    (reason : ℕ→ℕ→String) {slices : List ℤ} (broker : List BrokerCall) {quantity : ℤ}
    (hplan : slices.sum=quantity) :
    acceptedQuantity (loggedSlices request attempts reason slices broker).2≤quantity ↔
      ResubmissionCovered attempts slices broker := by
  have haccount := loggedSlices_accepted request attempts reason slices broker
  unfold ResubmissionCovered
  omega

/-- The accepted sub-orders of a TWAP or VWAP order ask for at most the quantity
of the order exactly when the shares submitted again, and those planned in
excess, are covered by shares that are never accepted. -/
theorem accepted_le_quantity_iff (request : OrderRequest) {numIntervals : ℕ}
    (hn : 0<numIntervals) (maxRetryPerSlice : ℕ) (volumeProfile : List ℚ)
    (broker : List BrokerCall) :
    (acceptedQuantity (twapPlacements request numIntervals maxRetryPerSlice broker)≤
        request.quantity ↔
      ResubmissionCovered (maxRetryPerSlice+1) (twapSlices request.quantity numIntervals) broker) ∧
    (acceptedQuantity (vwapPlacements request numIntervals volumeProfile broker)≤
        request.quantity ↔
      ResubmissionCovered 1
        (vwapSlices request.quantity (vwapProfile numIntervals volumeProfile)) broker) := by
  have hprofile : vwapProfile numIntervals volumeProfile≠[] := by
    intro hnil
    have hlength := vwapProfile_length numIntervals volumeProfile
    rw [hnil,List.length_nil] at hlength
    omega
  constructor
  · exact loggedSlices_accepted_le_iff request _ _ broker (twapSlices_sum request.quantity hn)
  · exact loggedSlices_accepted_le_iff request _ _ broker (vwapSlices_sum request.quantity hprofile)

/-- Every accepted sub-order fills between nothing and what it asks for. -/
def FillsWithinAsked (log : List Placement) : Prop :=
  ∀ p∈log,match p.outcome with
    | .accepted _ filledQty _ => 0≤filledQty ∧ filledQty≤p.quantity
    | .unreadable _ => False
    | .raises _ => True

/-- An order of sixty shares. -/
def sixtyShares : OrderRequest := ⟨"005930",.krx,.buy,60,.twap,none,""⟩

/-- An accepted answer that fills a quantity. -/
def fills (filledQty : ℤ) : BrokerCall := ⟨.accepted "1" filledQty 100,"",0⟩

/-- The first slice is rejected once, and everything else is filled at once. -/
theorem accepted_le_quantity_iff_filled :
    acceptedQuantity (twapPlacements sixtyShares 6 2 (⟨.raises "","",0⟩::List.replicate 6 (fills 10)))≤
        60 ∧
      acceptedQuantity (vwapPlacements sixtyShares 6 []
        [fills 13,fills 7,fills 6,fills 6,fills 10,fills 18])≤60 :=
  ⟨(accepted_le_quantity_iff sixtyShares (by decide) 2 [] _).1.mpr (by decide +kernel),
    (accepted_le_quantity_iff sixtyShares (by decide) 2 [] _).2.mpr (by decide +kernel)⟩

/-- The first slice is accepted without a fill and submitted again. -/
theorem live_slice_submitted_again :
    ¬∀ (request : OrderRequest) (numIntervals : ℕ) (broker : List BrokerCall),0<numIntervals→
      FillsWithinAsked (twapPlacements request numIntervals 2 broker)→
      acceptedQuantity (twapPlacements request numIntervals 2 broker)≤ request.quantity := by
  intro hall
  have hlog : twapPlacements sixtyShares 6 2 (fills 0::List.replicate 6 (fills 10))=
      List.replicate 1 ⟨10,.accepted "1" 0 100⟩++List.replicate 6 ⟨10,.accepted "1" 10 100⟩ := by
    decide +kernel
  have hwithin : FillsWithinAsked
      (twapPlacements sixtyShares 6 2 (fills 0::List.replicate 6 (fills 10))) := by
    rw [hlog]
    intro p hp
    obtain hp | hp := List.mem_append.mp hp
    · rw [List.eq_of_mem_replicate hp]
      decide
    · rw [List.eq_of_mem_replicate hp]
      decide
  have hle := hall sixtyShares 6 _ (by decide) hwithin
  rw [hlog] at hle
  exact absurd hle (by decide)

end Aqts.SlicedExposure
