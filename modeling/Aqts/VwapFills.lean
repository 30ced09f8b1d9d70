import Aqts.SlicedFills

/-!
# What a VWAP order submits when everything is filled

A VWAP order whose sub-orders are all filled completely and at once never
carries anything over, so it submits the slices that are positive. The slices
add up to the quantity, but the one of the heaviest interval is whatever the
others leave of it: once the others ask for more than the quantity it is
negative, the loop skips it and the order submits what the others ask for.
-/

namespace Aqts.VwapFills

open OrderTypes OrderExecutor SlicedExposure SlicedFills

/-- Quantity that the sub-orders of a log ask for. -/
def submittedQuantity (log : List Placement) : ℤ := (log.map Placement.quantity).sum

/-- Every sub-order is accepted and filled completely at once. -/
def FilledCompletely (log : List Placement) : Prop :=
  ∀ p∈log,outcomeFilled p.outcome=p.quantity

instance : DecidablePred FilledCompletely := fun log =>
  inferInstanceAs (Decidable (∀ p∈log,outcomeFilled p.outcome=p.quantity))

/-- Slices as far as they are positive. -/
def positivePart (slices : List ℤ) : ℤ := (slices.map (max 0)).sum

/-- Quantities of two logs add up. -/
theorem submittedQuantity_append (log more : List Placement) :
    submittedQuantity (log++more)=submittedQuantity log+submittedQuantity more := by
  unfold submittedQuantity
  rw [List.map_append,List.sum_append]

/-- The quantity of one sub-order. -/
theorem submittedQuantity_singleton (p : Placement) : submittedQuantity [p]=p.quantity :=
  List.sum_singleton

/-- The first slice counts as far as it is positive. -/
theorem positivePart_cons (slice : ℤ) (slices : List ℤ) :
    positivePart (slice::slices)=max 0 slice+positivePart slices :=
  List.sum_cons

/-- The loop of an order whose sub-orders are filled completely. -/
structure FillsAll (planned : ℤ) (s : SliceState×List Placement) : Prop where
  /-- Nothing is carried over. -/
  carryover : s.1.carryover=0
  /-- The positive slices are submitted. -/
  submitted : submittedQuantity s.2=planned
  /-- What is submitted is filled. -/
  filled : s.1.totalFilled=planned

/-- An interval with one attempt sends one sub-order if something is due. -/
theorem loggedSlice_once (request : OrderRequest) (reason : ℕ→ℕ→String)
    {s : SliceState×List Placement} {slice : ℤ×ℕ} (h : 0< slice.1+s.1.carryover) :
    (loggedSlice request 1 reason s slice).2=
        s.2++[⟨slice.1+s.1.carryover,(nextAnswer s.1.broker).1.outcome⟩] ∧
      (loggedSlice request 1 reason s slice).1.totalFilled=
        s.1.totalFilled+outcomeFilled (nextAnswer s.1.broker).1.outcome ∧
      (loggedSlice request 1 reason s slice).1.carryover=
        slice.1+s.1.carryover-outcomeFilled (nextAnswer s.1.broker).1.outcome := by
  have hdue : 0< slice.1+s.1.carryover-0 := by omega
  obtain ⟨_,hfilled,_⟩ := sliceAttempt_answer request (reason slice.2)
    (p := ⟨s.1.broker,0,s.1.totalCost,s.1.subResults⟩) 0 hdue
  rw [zero_add] at hfilled
  unfold loggedSlice executeSlice
  dsimp only
  rw [if_neg (not_le.mpr h),if_neg (not_le.mpr h)]
  refine ⟨?_,?_,?_⟩
  · change s.2++attemptPlacements _ _=_
    unfold attemptPlacements
    rw [if_neg (not_le.mpr hdue)]
    dsimp only
    rw [sub_zero]
  · exact congrArg (s.1.totalFilled+·) hfilled
  · exact congrArg (slice.1+s.1.carryover-·) hfilled

/-- An interval in which nothing is due leaves everything as it was. -/
theorem loggedSlice_skipped (request : OrderRequest) (attempts : ℕ) (reason : ℕ→ℕ→String)
    {s : SliceState×List Placement} {slice : ℤ×ℕ} (h : slice.1+s.1.carryover≤0) :
    loggedSlice request attempts reason s slice=s := by
  unfold loggedSlice executeSlice
  dsimp only
  rw [if_pos h,if_pos h]

/-- An interval with one attempt submits its slice if that is positive. -/
theorem FillsAll.slice {planned : ℤ} {s : SliceState×List Placement}
    (h : FilledCompletely s.2→FillsAll planned s) (request : OrderRequest) (reason : ℕ→ℕ→String)
    (slice : ℤ×ℕ) (hlog : FilledCompletely (loggedSlice request 1 reason s slice).2) :
    FillsAll (planned+max 0 slice.1) (loggedSlice request 1 reason s slice) := by
  by_cases hskip : slice.1+s.1.carryover≤0
  · rw [loggedSlice_skipped request 1 reason hskip] at hlog ⊢
    obtain ⟨hcarryover,hsubmitted,hfilled⟩ := h hlog
    rw [max_eq_left (by omega),add_zero]
    exact ⟨hcarryover,hsubmitted,hfilled⟩
  · obtain ⟨hnext,hadded,hleft⟩ := loggedSlice_once request reason (not_le.mp hskip)
    rw [hnext] at hlog
    obtain ⟨hbefore,hnew⟩ := List.forall_mem_append.mp hlog
    have hfull : outcomeFilled (nextAnswer s.1.broker).1.outcome=slice.1+s.1.carryover :=
      hnew _ (List.mem_singleton.mpr rfl)
    obtain ⟨hcarryover,hsubmitted,hfilled⟩ := h hbefore
    rw [max_eq_right (by omega)]
    refine ⟨?_,?_,?_⟩
    · rw [hleft,hfull,sub_self]
    · rw [hnext,submittedQuantity_append,hsubmitted,submittedQuantity_singleton,hcarryover,add_zero]
    · rw [hadded,hfull,hfilled,hcarryover,add_zero]

/-- What a loop with one attempt for each slice submits and fills when every
sub-order is filled completely. -/
theorem loggedSlices_fillsAll (request : OrderRequest) (reason : ℕ→ℕ→String) (slices : List ℤ)
    {broker : List BrokerCall}
    (hlog : FilledCompletely (loggedSlices request 1 reason slices broker).2) :
    FillsAll (positivePart slices) (loggedSlices request 1 reason slices broker) := by
  have hloop : ∀ (rest : List ℤ) (i : ℕ) (planned : ℤ) (s : SliceState×List Placement),
      (FilledCompletely s.2→FillsAll planned s)→
      FilledCompletely ((rest.zipIdx i).foldl (loggedSlice request 1 reason) s).2→
      FillsAll (planned+positivePart rest)
        ((rest.zipIdx i).foldl (loggedSlice request 1 reason) s) := by
    intro rest
    induction rest with
    | nil =>
      intro i planned s h hlog
      unfold positivePart
      rw [List.map_nil,List.sum_nil,add_zero]
      exact h hlog
    | cons slice rest ih =>
      intro i planned s h hlog
      rw [positivePart_cons,← add_assoc,List.zipIdx_cons,List.foldl_cons]
      rw [List.zipIdx_cons,List.foldl_cons] at hlog
      exact ih (i+1) _ _ (fun hnext => FillsAll.slice h request reason (slice,i) hnext) hlog
  have hend := hloop slices 0 0 (⟨broker,0,0,[],0⟩,[]) (fun _ => ⟨rfl,rfl,rfl⟩) hlog
  rw [zero_add] at hend
  exact hend

/-- Index of the first interval of the largest weight. -/
def heaviest (profile : List ℚ) : ℕ := profile.idxOf (profile.max?.getD 0)

/-- Rounded slices of all intervals but the heaviest, at least one each. -/
def otherSlices (quantity : ℤ) (profile : List ℚ) : List ℤ :=
  (profile.eraseIdx (heaviest profile)).map (vwapPart quantity)

/-- The heaviest interval is one of a profile. -/
theorem heaviest_lt {profile : List ℚ} (hp : profile≠[]) : heaviest profile<profile.length := by
  obtain ⟨p,hmax⟩ := Option.isSome_iff_exists.mp (List.isSome_max?_of_ne_nil hp)
  unfold heaviest
  rw [hmax]
  exact List.idxOf_lt_length_of_mem (List.max?_mem hmax)

/-- The rounded slices of a profile, at least one each. -/
def roundedSlices (quantity : ℤ) (profile : List ℚ) : List ℤ :=
  profile.map (vwapPart quantity)

/-- An entry and the others are the list. -/
theorem modify_perm (slices : List ℤ) {i : ℕ} (amount : ℤ) (h : i< slices.length) :
    (slices.modify i (·+amount)).Perm ((slices[i]+amount)::slices.eraseIdx i) := by
  have hlt : i<(slices.modify i (·+amount)).length := by rwa [List.length_modify]
  have hperm := List.getElem_cons_eraseIdx_perm hlt
  rw [List.getElem_modify_eq,List.eraseIdx_modify_of_eq] at hperm
  exact hperm.symm

/-- The slices of a VWAP order are those of the other intervals, and what these
leave of the quantity. -/
theorem vwapSlices_perm (quantity : ℤ) {profile : List ℚ} (hp : profile≠[]) :
    (vwapSlices quantity profile).Perm
      ((quantity-(otherSlices quantity profile).sum)::otherSlices quantity profile) := by
  have hlt : heaviest profile<(roundedSlices quantity profile).length := by
    unfold roundedSlices
    rw [List.length_map]
    exact heaviest_lt hp
  have hothers : (roundedSlices quantity profile).eraseIdx (heaviest profile)=
      otherSlices quantity profile := List.eraseIdx_map _ _ _
  have hsum := (List.getElem_cons_eraseIdx_perm hlt).sum_eq
  rw [List.sum_cons,hothers] at hsum
  have hshape : vwapSlices quantity profile=
      if quantity-(roundedSlices quantity profile).sum=0 then roundedSlices quantity profile
      else (roundedSlices quantity profile).modify (heaviest profile)
        (·+(quantity-(roundedSlices quantity profile).sum)) := rfl
  rw [hshape]
  split
  · have hleft : quantity-(otherSlices quantity profile).sum=
        (roundedSlices quantity profile)[heaviest profile] := by omega
    rw [hleft,← hothers]
    exact (List.getElem_cons_eraseIdx_perm hlt).symm
  · have hperm := modify_perm (roundedSlices quantity profile)
      (quantity-(roundedSlices quantity profile).sum) hlt
    have hleft : quantity-(otherSlices quantity profile).sum=
        (roundedSlices quantity profile)[heaviest profile]+
          (quantity-(roundedSlices quantity profile).sum) := by omega
    rw [hleft,← hothers]
    exact hperm

/-- The other slices are positive. -/
theorem otherSlices_pos (quantity : ℤ) (profile : List ℚ) :
    ∀ slice∈otherSlices quantity profile,1≤ slice := by
  intro slice hslice
  obtain ⟨p,_,rfl⟩ := List.mem_map.mp hslice
  exact le_max_left _ _

/-- No slice of a VWAP order is negative exactly if the other intervals leave
something of the quantity. -/
theorem vwapSlices_nonneg_iff (quantity : ℤ) {profile : List ℚ} (hp : profile≠[]) :
    (∀ slice∈vwapSlices quantity profile,0≤ slice) ↔
      (otherSlices quantity profile).sum≤quantity := by
  have hperm := vwapSlices_perm quantity hp
  constructor
  · intro hall
    have hleft := hall _ (hperm.mem_iff.mpr List.mem_cons_self)
    omega
  · intro hle slice hslice
    obtain rfl | hother := List.mem_cons.mp (hperm.mem_iff.mp hslice)
    · omega
    · have hpos := otherSlices_pos quantity profile slice hother
      omega

/-- The positive slices of a VWAP order are the quantity, or what the other
intervals ask for if that is more. -/
theorem vwapSlices_positivePart (quantity : ℤ) {profile : List ℚ} (hp : profile≠[]) :
    positivePart (vwapSlices quantity profile)=
      max quantity (otherSlices quantity profile).sum := by
  have hperm := (vwapSlices_perm quantity hp).map (max 0)
  have hothers : positivePart (otherSlices quantity profile)=
      (otherSlices quantity profile).sum := by
    unfold positivePart
    have hsame : ∀ slice∈otherSlices quantity profile,max 0 slice=id slice := by
      intro slice hslice
      have hpos := otherSlices_pos quantity profile slice hslice
      exact max_eq_right (by omega)
    rw [List.map_congr_left hsame,List.map_id]
  have hsum := hperm.sum_eq
  rw [List.map_cons,List.sum_cons] at hsum
  unfold positivePart at hothers ⊢
  rw [hsum,hothers]
  omega

/-- A VWAP order whose sub-orders are all filled completely and at once submits
its quantity, has no negative slice and reports its quantity as filled exactly
if the rounded slices of all intervals but the heaviest add up to at most the
quantity. -/
theorem executeVwapOrder_exact_iff (request : OrderRequest) {numIntervals : ℕ}
    (hn : 1≤numIntervals) (volumeProfile : List ℚ) {broker : List BrokerCall} (stamp : String)
    (now : ℚ)
    (hlog : FilledCompletely (vwapPlacements request numIntervals volumeProfile broker)) :
    (submittedQuantity (vwapPlacements request numIntervals volumeProfile broker)=
          request.quantity ∧
        (∀ slice∈vwapSlices request.quantity (vwapProfile numIntervals volumeProfile),0≤ slice) ∧
        (executeVwapOrder request numIntervals volumeProfile broker stamp now).filledQuantity=
          request.quantity) ↔
      (otherSlices request.quantity (vwapProfile numIntervals volumeProfile)).sum≤
        request.quantity := by
  have hprofile : vwapProfile numIntervals volumeProfile≠[] := by
    intro hnil
    have hlength := vwapProfile_length numIntervals volumeProfile
    rw [hnil,List.length_nil] at hlength
    omega
  have hend := loggedSlices_fillsAll request
    (vwapReason numIntervals (vwapProfile numIntervals volumeProfile)) _ hlog
  rw [vwapSlices_positivePart request.quantity hprofile] at hend
  have hfilled : (executeVwapOrder request numIntervals volumeProfile broker stamp
      now).filledQuantity=max request.quantity
        (otherSlices request.quantity (vwapProfile numIntervals volumeProfile)).sum := by
    rw [executeVwapOrder_logged]
    exact hend.filled
  rw [vwapSlices_nonneg_iff request.quantity hprofile,hfilled]
  constructor
  · exact fun h => h.2.1
  · intro hle
    rw [max_eq_left hle]
    exact ⟨hend.submitted.trans (max_eq_left hle),hle,rfl⟩

/-- The default profile of a hundred shares. -/
def hundredShares : OrderRequest := ⟨"005930",.krx,.buy,100,.vwap,none,""⟩

/-- A hundred shares over the default profile are submitted exactly. -/
theorem executeVwapOrder_exact_iff_hundred :
    submittedQuantity (vwapPlacements hundredShares 6 vwapVolumeProfile
        [fills 22,fills 12,fills 10,fills 10,fills 16,fills 30])=100 :=
  ((executeVwapOrder_exact_iff hundredShares (by decide) vwapVolumeProfile "" 0
    (by decide +kernel)).mpr (by decide +kernel)).1

/-- One share over the default profile is submitted as five. -/
theorem one_share_submitted_as_five :
    ¬∀ (request : OrderRequest) (numIntervals : ℕ) (volumeProfile : List ℚ)
      (broker : List BrokerCall) (stamp : String) (now : ℚ),
      1≤ request.quantity→1≤numIntervals→(∀ w∈volumeProfile,0≤w)→0<volumeProfile.sum→
      FilledCompletely (vwapPlacements request numIntervals volumeProfile broker)→
      submittedQuantity (vwapPlacements request numIntervals volumeProfile broker)=
          request.quantity ∧
        (∀ slice∈vwapSlices request.quantity (vwapProfile numIntervals volumeProfile),0≤ slice) ∧
        (executeVwapOrder request numIntervals volumeProfile broker stamp now).filledQuantity=
          request.quantity := by
  intro hall
  have hexact := hall {hundredShares with quantity := 1} 6 vwapVolumeProfile
    (List.replicate 5 (fills 1)) "" 0 (by decide) (by decide) (by decide +kernel)
    (by decide +kernel) (by decide +kernel)
  exact absurd hexact.1 (by decide +kernel)

end Aqts.VwapFills
