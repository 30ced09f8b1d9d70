import Aqts.SlicedFills

/-!
# The account of a TWAP order

The slices of a TWAP order are never negative and add up to its quantity, so
what it fills and what it carries over at the end is the quantity, whatever the
sub-orders fill of what they ask for and whichever of them raise. The status and
the average price of the result follow. In floats the average price is rounded,
so that it need not give back what was paid.
-/

namespace Aqts.TwapFills

open OrderTypes OrderExecutor SlicedExposure SlicedFills Binary64

/-- `carryover` at the end of `_execute_twap_order`. -/
def twapCarryover (request : OrderRequest) (numIntervals maxRetryPerSlice : ℕ)
    (broker : List BrokerCall) : ℤ :=
  (executeSlices request (maxRetryPerSlice+1) (twapReason numIntervals)
    (twapSlices request.quantity numIntervals) broker).carryover

/-- No slice of a TWAP order is negative. -/
theorem twapSlices_nonneg {quantity : ℤ} (hq : 0≤quantity) {numIntervals : ℕ}
    (hn : 0<numIntervals) : ∀ slice∈twapSlices quantity numIntervals,0≤ slice := by
  intro slice hslice
  unfold twapSlices at hslice
  obtain ⟨i,_,rfl⟩ := List.mem_map.mp hslice
  have hn' : (numIntervals : ℤ)≠0 := by omega
  have hbase : 0≤quantity/numIntervals := Int.ediv_nonneg hq (Int.natCast_nonneg _)
  have hremainder : 0≤quantity%numIntervals := Int.emod_nonneg quantity hn'
  split
  · omega
  · omega

/-- The status of a sliced order tells how much of it is filled. -/
theorem slicedResult_status (label : String) {request : OrderRequest} (stamp : String) (now : ℚ)
    {st : SliceState} (hq : 1≤ request.quantity) (hleast : 0≤ st.totalFilled)
    (hmost : st.totalFilled≤ request.quantity) :
    ((slicedResult label request stamp now st).status=.filled ↔
        st.totalFilled=request.quantity) ∧
      ((slicedResult label request stamp now st).status=.partialFill ↔
        0< st.totalFilled ∧ st.totalFilled< request.quantity) ∧
      ((slicedResult label request stamp now st).status=.failed ↔ st.totalFilled=0) := by
  unfold slicedResult
  dsimp only
  by_cases hall : request.quantity≤ st.totalFilled
  · rw [if_pos hall]
    simp only [reduceCtorEq,true_iff,false_iff]
    omega
  · rw [if_neg hall]
    by_cases hsome : 0< st.totalFilled
    · rw [if_pos hsome]
      simp only [reduceCtorEq,true_iff,false_iff]
      omega
    · rw [if_neg hsome]
      simp only [reduceCtorEq,true_iff,false_iff]
      omega

/-- The average price of a sliced order times its fill is what it has paid. -/
theorem slicedResult_cost (label : String) (request : OrderRequest) (stamp : String) (now : ℚ)
    {st : SliceState} (hleast : 0≤ st.totalFilled) (hnone : st.totalFilled=0→st.totalCost=0) :
    (slicedResult label request stamp now st).avgPrice*st.totalFilled=st.totalCost := by
  unfold slicedResult
  dsimp only
  by_cases hsome : 0< st.totalFilled
  · rw [if_pos hsome]
    have hne : (st.totalFilled : ℚ)≠0 := Int.cast_ne_zero.mpr hsome.ne'
    exact div_mul_cancel₀ _ hne
  · rw [if_neg hsome,zero_mul,hnone (by omega)]

/-- A TWAP order whose sub-orders fill at most what they ask for or raise: the
fill and the final carryover are the quantity, the status tells which part is
filled, and the average price is that of the fills. -/
theorem executeTwapOrder_account {request : OrderRequest} {numIntervals : ℕ}
    (maxRetryPerSlice : ℕ) {broker : List BrokerCall} (stamp : String) (now : ℚ)
    (hq : 1≤ request.quantity) (hn : 1≤numIntervals)
    (hlog : FilledAtMostAsked (twapPlacements request numIntervals maxRetryPerSlice broker)) :
    let result := executeTwapOrder request numIntervals maxRetryPerSlice broker stamp now
    result.filledQuantity+twapCarryover request numIntervals maxRetryPerSlice broker=
        request.quantity ∧
      0≤ result.filledQuantity ∧ result.filledQuantity≤ request.quantity ∧
      (result.status=.filled ↔ result.filledQuantity=request.quantity) ∧
      (result.status=.partialFill ↔
        0< result.filledQuantity ∧ result.filledQuantity< request.quantity) ∧
      (result.status=.failed ↔ result.filledQuantity=0) ∧
      result.avgPrice*result.filledQuantity=
        filledCost (twapPlacements request numIntervals maxRetryPerSlice broker) := by
  have hend := loggedSlices_fills request (maxRetryPerSlice+1) (twapReason numIntervals)
    (twapSlices_nonneg (by omega) hn) broker hlog
  rw [twapSlices_sum request.quantity hn] at hend
  obtain ⟨hbalanced,hquantity,hcost⟩ := hend
  rw [loggedSlices_state] at hbalanced hquantity hcost
  have hleast := hbalanced.filled
  have hmost := hbalanced.most
  obtain ⟨hfilled,hpart,hfailed⟩ := slicedResult_status "TWAP" stamp now hq hleast hmost
  have hnone := filledCost_of_filled_zero hlog
  have hpaid := slicedResult_cost "TWAP" request stamp now hleast
    (fun hzero => hcost.trans (hnone (hquantity.symm.trans hzero)))
  exact ⟨hbalanced.total,hleast,hmost,hfilled,hpart,hfailed,hpaid.trans hcost⟩

/-- Answers with an exception, a fill of a part, an answer that cannot be read
and full fills until the broker is gone. -/
def mixedAnswers : List BrokerCall :=
  [⟨.raises "","",0⟩,fills 4,⟨.unreadable "","",0⟩,fills 16,fills 10,fills 10,fills 10]

/-- The account of sixty shares under mixed answers. -/
theorem executeTwapOrder_account_mixed :
    (executeTwapOrder sixtyShares 6 2 mixedAnswers "" 0).filledQuantity+
        twapCarryover sixtyShares 6 2 mixedAnswers=60 ∧
      (executeTwapOrder sixtyShares 6 2 mixedAnswers "" 0).filledQuantity=50 :=
  ⟨(executeTwapOrder_account 2 "" 0 (by decide) (by decide) (by decide +kernel)).1,
    by decide +kernel⟩

/-- `total_cost` in floats: every payment and every sum is rounded. -/
def floatCost (log : List Placement) : ℚ :=
  runningSum fl (log.map fun p => fl (outcomeCost p.outcome))

/-- `avg_price` in floats. -/
def floatAvgPrice (log : List Placement) : ℚ :=
  if 0<filledQuantity log then fl (floatCost log/filledQuantity log) else 0

/-- Seven shares in two slices, of which the first one is filled at 70000 but for a share. -/
def sevenAnswers : List BrokerCall := [⟨.accepted "1" 2 70000,"",0⟩,⟨.accepted "2" 5 70100,"",0⟩]

/-- In floats the average price of seven shares does not give back the 490500 that were paid,
neither exactly nor rounded to a float. -/
theorem float_average_loses_cost :
    ¬∀ (request : OrderRequest) (numIntervals maxRetryPerSlice : ℕ) (broker : List BrokerCall),
      1≤ request.quantity→1≤numIntervals→
      FilledAtMostAsked (twapPlacements request numIntervals maxRetryPerSlice broker)→
      let log := twapPlacements request numIntervals maxRetryPerSlice broker
      floatAvgPrice log*filledQuantity log=filledCost log ∨
        fl (floatAvgPrice log*filledQuantity log)=filledCost log := by
  intro hall
  have hseven := hall {sixtyShares with quantity := 7} 2 0 sevenAnswers (by decide) (by decide)
    (by decide +kernel)
  revert hseven
  decide +kernel

end Aqts.TwapFills
