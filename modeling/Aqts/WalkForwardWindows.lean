import Mathlib.Data.List.Chain
import Mathlib.Data.List.Range
import Mathlib.Order.Interval.Finset.Nat
import Mathlib.Tactic.Ring

/-!
# Windows of a walk-forward run

`WalkForwardEngine._split_windows` on a list of dates. The loop runs on fuel, since it
never ends for some months, and an index outside the dates raises `IndexError`. What it
returns for positive months is given by the positions of the windows, of which a `Walk`
says what they are to satisfy.
-/

namespace Aqts.WalkForwardWindows

/-- The first and last entries of the two parts of a window. -/
structure Window (α : Type*) where
  /-- `train_start`. -/
  trainStart : α
  /-- `train_end`. -/
  trainEnd : α
  /-- `test_start`. -/
  testStart : α
  /-- `test_end`. -/
  testEnd : α
deriving DecidableEq

/-- The exception of an index outside the dates. -/
inductive IndexError
  /-- `IndexError` of this index. -/
  | outOfBounds (index : ℤ)
deriving DecidableEq

section Functions

variable {α : Type*}

/-- `date_index[index]`, from the end for a negative index. -/
def item (dates : List α) (index : ℤ) : Except IndexError α :=
  let position := if index<0 then index+dates.length else index
  if position<0 then .error (.outOfBounds index)
  else match dates[position.toNat]? with
    | some date => .ok date
    | none => .error (.outOfBounds index)

/-- The body of the loop: the window at a start, or `break`. -/
def windowAt (dates : List α) (trainDays testDays startIdx : ℤ) :
    Except IndexError (Option (Window α)) := do
  let trainStart ← item dates startIdx
  let trainEndIdx := startIdx+trainDays-1
  let testStartIdx := trainEndIdx+1
  let testEndIdx := testStartIdx+testDays-1
  if (dates.length : ℤ)≤testEndIdx then
    pure none
  else do
    let trainEnd ← item dates trainEndIdx
    let testStart ← item dates testStartIdx
    let testEnd ← item dates testEndIdx
    pure (some ⟨trainStart,trainEnd,testStart,testEnd⟩)

/-- The loop of `_split_windows`, if it ends with this fuel. -/
def splitLoop (dates : List α) (trainDays testDays : ℤ) :
    ℕ→ℤ→List (Window α)→Option (Except IndexError (List (Window α)))
  | 0,_,_ => none
  | fuel+1,startIdx,windows =>
    if startIdx+(trainDays+testDays)≤ dates.length then
      match windowAt dates trainDays testDays startIdx with
      | .error e => some (.error e)
      | .ok none => some (.ok windows)
      | .ok (some window) =>
        splitLoop dates trainDays testDays fuel (startIdx+testDays) (windows++[window])
    else some (.ok windows)

/-- `_split_windows`. -/
def splitWindows (fuel : ℕ) (dates : List α) (trainMonths testMonths : ℤ) :
    Option (Except IndexError (List (Window α))) :=
  let trainDays := trainMonths*21
  let testDays := testMonths*21
  let totalNeeded := trainDays+testDays
  if dates.length=0 then some (.ok [])
  else if (dates.length : ℤ)<totalNeeded then some (.ok [])
  else splitLoop dates trainDays testDays fuel 0 []

end Functions

section Positions

/-- The positions of the window at a start. -/
def span (train test start : ℕ) : Window ℕ :=
  ⟨start,start+train-1,start+train,start+train+test-1⟩

/-- The positions of so many windows from a start on. -/
def spans (train test start count : ℕ) : List (Window ℕ) :=
  (List.range count).map fun i => span train test (start+i*test)

/-- The windows that fit into so many dates from a start on. -/
def fitting (n train test start : ℕ) : ℕ := (n-(start+train))/test

/-- A window has the dates at its positions. -/
structure Dated {α : Type*} (dates : List α) (p : Window ℕ) (w : Window α) : Prop where
  /-- First date to train on. -/
  trainStart : dates[p.trainStart]?=some w.trainStart
  /-- Last date to train on. -/
  trainEnd : dates[p.trainEnd]?=some w.trainEnd
  /-- First date to test on. -/
  testStart : dates[p.testStart]?=some w.testStart
  /-- Last date to test on. -/
  testEnd : dates[p.testEnd]?=some w.testEnd

/-- Positions of a walk through so many dates, with so many positions to train on and to
test on in every window. -/
structure Walk (trainDays testDays : ℤ) (n : ℕ) (ps : List (Window ℕ)) : Prop where
  /-- As many positions to train on. -/
  train : ∀ p∈ps,((Finset.Icc p.trainStart p.trainEnd).card : ℤ)=trainDays
  /-- As many positions to test on. -/
  test : ∀ p∈ps,((Finset.Icc p.testStart p.testEnd).card : ℤ)=testDays
  /-- The test begins right after the training. -/
  follows : ∀ p∈ps,p.testStart=p.trainEnd+1
  /-- All positions are in the index. -/
  inside : ∀ p∈ps,∀ i∈Finset.Icc p.trainStart p.trainEnd∪Finset.Icc p.testStart p.testEnd,i<n
  /-- The next test begins right after the last one. -/
  adjacent : ps.IsChain fun p q => q.testStart=p.testEnd+1
  /-- No position is tested on twice. -/
  disjoint : ps.Pairwise fun p q =>
    Disjoint (Finset.Icc p.testStart p.testEnd) (Finset.Icc q.testStart q.testEnd)

end Positions

section Loop

variable {α : Type*} {dates : List α}

/-- The date at a position of the index. -/
theorem item_ok {i : ℕ} (h : i< dates.length) : item dates i=.ok (dates.get ⟨i,h⟩) := by
  unfold item
  dsimp only
  have hnotneg : ¬(i : ℤ)<0 := by omega
  rw [if_neg hnotneg,if_neg hnotneg,Int.toNat_natCast,List.getElem?_eq_getElem h]
  rfl

/-- The date at a position that is given as a difference. -/
theorem item_ok_of_eq {i : ℕ} {index : ℤ} (hindex : index=i) (h : i< dates.length) :
    item dates index=.ok (dates.get ⟨i,h⟩) := by
  rw [hindex]
  exact item_ok h

/-- The window at a start, if it fits: the loop never leaves at its `break`. -/
theorem windowAt_ok {train test start : ℕ} (htrain : 1≤train) (htest : 1≤test)
    (hfits : start+train+test≤ dates.length) :
    ∃ w,windowAt dates train test start=.ok (some w) ∧ Dated dates (span train test start) w := by
  have h0 : start< dates.length := by omega
  have h1 : start+train-1< dates.length := by omega
  have h2 : start+train< dates.length := by omega
  have h3 : start+train+test-1< dates.length := by omega
  have hend : ¬(dates.length : ℤ)≤(start : ℤ)+train-1+1+test-1 := by omega
  refine ⟨⟨dates.get ⟨_,h0⟩,dates.get ⟨_,h1⟩,dates.get ⟨_,h2⟩,dates.get ⟨_,h3⟩⟩,?_,?_⟩
  · unfold windowAt
    dsimp only
    rw [item_ok h0,item_ok_of_eq (by omega) h1,item_ok_of_eq (by omega) h2,
      item_ok_of_eq (by omega) h3]
    exact if_neg hend
  · exact ⟨List.getElem?_eq_getElem h0,List.getElem?_eq_getElem h1,
      List.getElem?_eq_getElem h2,List.getElem?_eq_getElem h3⟩

/-- One more window fits from a start than from the next one. -/
theorem fitting_next {n train test start : ℕ} (htest : 1≤test) (hfits : start+train+test≤n) :
    fitting n train test start=fitting n train test (start+test)+1 := by
  unfold fitting
  have hmore : test≤n-(start+train) := by omega
  have hrest : n-(start+test+train)=n-(start+train)-test := by omega
  rw [hrest,Nat.div_eq_sub_div htest hmore]

/-- No window fits. -/
theorem fitting_none {n train test start : ℕ} (htest : 1≤test) (hfits : ¬start+train+test≤n) :
    fitting n train test start=0 := by
  unfold fitting
  exact Nat.div_eq_of_lt (by omega)

/-- The positions of the first window and of the windows from the next start on. -/
theorem spans_succ (train test start count : ℕ) :
    spans train test start (count+1)=
      span train test start::spans train test (start+test) count := by
  unfold spans
  rw [List.range_succ_eq_map,List.map_cons,List.map_map]
  refine List.cons_eq_cons.mpr ⟨by rw [Nat.zero_mul,Nat.add_zero],List.map_congr_left ?_⟩
  intro i _
  have hstart : start+(i+1)*test=start+test+i*test := by ring
  exact congrArg (span train test) hstart

/-- The loop adds the windows that fit, from its start on. -/
theorem splitLoop_ok {train test : ℕ} (htrain : 1≤train) (htest : 1≤test) {fuel : ℕ}
    (start : ℕ) (windows : List (Window α)) (hfuel : dates.length-start< fuel) :
    ∃ ws,splitLoop dates train test fuel start windows=some (.ok (windows++ws)) ∧
      List.Forall₂ (Dated dates)
        (spans train test start (fitting dates.length train test start)) ws := by
  induction fuel generalizing start windows with
  | zero => omega
  | succ fuel ih =>
    unfold splitLoop
    by_cases hfits : start+train+test≤ dates.length
    · have hcast : (start : ℤ)+((train : ℤ)+(test : ℤ))≤ dates.length := by omega
      obtain ⟨w,hw,hdated⟩ := windowAt_ok htrain htest hfits
      have hnext : (start : ℤ)+(test : ℤ)=((start+test : ℕ) : ℤ) := by push_cast; ring
      have hless : dates.length-(start+test)< fuel := by omega
      obtain ⟨ws,hws,hall⟩ := ih (start+test) (windows++[w]) hless
      refine ⟨w::ws,?_,?_⟩
      · rw [if_pos hcast,hw]
        dsimp only
        rw [hnext,hws,List.append_assoc]
        rfl
      · rw [fitting_next htest hfits,spans_succ]
        exact .cons hdated hall
    · have hcast : ¬(start : ℤ)+((train : ℤ)+(test : ℤ))≤ dates.length := by omega
      refine ⟨[],?_,?_⟩
      · rw [if_neg hcast,List.append_nil]
      · rw [fitting_none htest hfits]
        exact .nil

end Loop

section Walks

variable {n train test start count : ℕ}

/-- Where the windows begin. -/
theorem mem_spans {p : Window ℕ} :
    p∈spans train test start count ↔ ∃ i,i< count ∧ span train test (start+i*test)=p := by
  unfold spans
  rw [List.mem_map]
  simp only [List.mem_range]

/-- The windows from a start on are a walk, if the last of them fits. -/
theorem walk_spans (htrain : 1≤train) (htest : 1≤test)
    (hfits : ∀ i< count,start+i*test+train+test≤n) :
    Walk train test n (spans train test start count) where
  train := by
    intro p hp
    obtain ⟨i,_,rfl⟩ := mem_spans.mp hp
    unfold span
    dsimp only
    rw [Nat.card_Icc]
    omega
  test := by
    intro p hp
    obtain ⟨i,_,rfl⟩ := mem_spans.mp hp
    unfold span
    dsimp only
    rw [Nat.card_Icc]
    omega
  follows := by
    intro p hp
    obtain ⟨i,_,rfl⟩ := mem_spans.mp hp
    unfold span
    dsimp only
    omega
  inside := by
    intro p hp j hj
    obtain ⟨i,hi,rfl⟩ := mem_spans.mp hp
    have hlast := hfits i hi
    unfold span at hj
    rw [Finset.mem_union,Finset.mem_Icc,Finset.mem_Icc] at hj
    dsimp only at hj
    omega
  adjacent := by
    clear hfits
    induction count generalizing start with
    | zero => exact .nil
    | succ count ih =>
      rw [spans_succ]
      cases count with
      | zero => exact .singleton _
      | succ count =>
        have hrest := @ih (start+test)
        rw [spans_succ] at hrest ⊢
        refine .cons_cons ?_ hrest
        unfold span
        dsimp only
        omega
  disjoint := by
    unfold spans
    rw [List.pairwise_map]
    refine List.pairwise_lt_range.imp fun {i j} hless => ?_
    rw [Finset.disjoint_left]
    intro k hk hk'
    unfold span at hk hk'
    rw [Finset.mem_Icc] at hk hk'
    dsimp only at hk hk'
    have hstep : (i+1)*test≤j*test := Nat.mul_le_mul_right test hless
    have hnext : (i+1)*test=i*test+test := by ring
    omega

/-- A walk needs room for the tests of all its windows after its first test begins. -/
theorem Walk.room {trainDays testDays : ℕ} {p : Window ℕ} {ps : List (Window ℕ)}
    (h : Walk trainDays testDays n (p::ps)) (htest : 1≤ testDays) :
    p.testStart+(ps.length+1)*testDays≤n := by
  induction ps generalizing p with
  | nil =>
    have hcard := h.test p List.mem_cons_self
    rw [Nat.card_Icc] at hcard
    have hlast := h.inside p List.mem_cons_self p.testEnd
      (Finset.mem_union_right _ (Finset.mem_Icc.mpr (by omega)))
    rw [List.length_nil]
    omega
  | cons q ps ih =>
    have htail : Walk trainDays testDays n (q::ps) :=
      ⟨fun r hr => h.train r (List.mem_cons_of_mem p hr),
        fun r hr => h.test r (List.mem_cons_of_mem p hr),
        fun r hr => h.follows r (List.mem_cons_of_mem p hr),
        fun r hr => h.inside r (List.mem_cons_of_mem p hr),h.adjacent.tail,h.disjoint.tail⟩
    have hrest := ih htail
    have hcard := h.test p List.mem_cons_self
    rw [Nat.card_Icc] at hcard
    have hnext : q.testStart=p.testEnd+1 := (List.isChain_cons_cons.mp h.adjacent).1
    have hsum : (ps.length+1+1)*testDays=(ps.length+1)*testDays+testDays := by ring
    rw [List.length_cons]
    omega

/-- No walk has more windows than fit. -/
theorem Walk.length_le {trainDays testDays : ℕ} {ps : List (Window ℕ)}
    (h : Walk trainDays testDays n ps) (htrain : 1≤ trainDays) (htest : 1≤ testDays) :
    ps.length≤fitting n trainDays testDays 0 := by
  cases ps with
  | nil => exact Nat.zero_le _
  | cons p ps =>
    have hroom := h.room htest
    have hcard := h.train p List.mem_cons_self
    rw [Nat.card_Icc] at hcard
    have hfollows := h.follows p List.mem_cons_self
    unfold fitting
    rw [List.length_cons,Nat.le_div_iff_mul_le htest]
    omega

end Walks

section Split

variable {α : Type*} {dates : List α}

/-- The early returns are what the loop would return. -/
theorem splitWindows_ok {train test : ℕ} (htrain : 1≤train) (htest : 1≤test) {fuel : ℕ}
    (hfuel : dates.length< fuel) :
    ∃ ws,splitWindows fuel dates train test=some (.ok ws) ∧
      List.Forall₂ (Dated dates)
        (spans (21*train) (21*test) 0 (fitting dates.length (21*train) (21*test) 0)) ws := by
  have hmonths : (train : ℤ)*21=((21*train : ℕ) : ℤ) ∧ (test : ℤ)*21=((21*test : ℕ) : ℤ) := by
    constructor <;> push_cast <;> ring
  unfold splitWindows
  dsimp only
  rw [hmonths.1,hmonths.2]
  by_cases hfits : 21*train+21*test≤ dates.length
  · have hsome : ¬dates.length=0 := by omega
    have hlong : ¬(dates.length : ℤ)<((21*train : ℕ) : ℤ)+((21*test : ℕ) : ℤ) := by omega
    rw [if_neg hsome,if_neg hlong]
    exact splitLoop_ok (by omega) (by omega) 0 [] (by omega)
  · have hshort : (dates.length : ℤ)<((21*train : ℕ) : ℤ)+((21*test : ℕ) : ℤ) := by omega
    refine ⟨[],?_,?_⟩
    · rw [if_pos hshort,ite_self]
    · rw [fitting_none (by omega) (by omega)]
      exact .nil

/-- The number of windows of a walk through so many dates. -/
theorem fitting_eq (n : ℕ) {train test : ℕ} (htest : 1≤test) :
    (fitting n train test 0 : ℤ)=
      if (train : ℤ)+test≤n then ((n : ℤ)-train)/test else 0 := by
  by_cases hfits : train+test≤n
  · have hcast : (train : ℤ)+test≤n := by omega
    have hsub : ((n-(0+train) : ℕ) : ℤ)=(n : ℤ)-train := by omega
    rw [if_pos hcast]
    unfold fitting
    rw [Int.natCast_div,hsub]
  · have hcast : ¬(train : ℤ)+test≤n := by omega
    rw [if_neg hcast,fitting_none htest (by omega)]
    rfl

/-- For positive months the windows that are returned are those of a walk through the dates,
and no walk has more of them. -/
theorem splitWindows_walk (dates : List α) {trainMonths testMonths : ℤ} (htrain : 1≤ trainMonths)
    (htest : 1≤ testMonths) {fuel : ℕ} (hfuel : dates.length< fuel) :
    ∃ ps ws,splitWindows fuel dates trainMonths testMonths=some (.ok ws) ∧
      List.Forall₂ (Dated dates) ps ws ∧
      Walk (21*trainMonths) (21*testMonths) dates.length ps ∧
      (ps.length : ℤ)=
        (if 21*trainMonths+21*testMonths≤ dates.length then
          (dates.length-21*trainMonths)/(21*testMonths) else 0) ∧
      ∀ qs,Walk (21*trainMonths) (21*testMonths) dates.length qs→qs.length≤ps.length := by
  obtain ⟨train,rfl⟩ : ∃ m : ℕ,trainMonths=m := ⟨trainMonths.toNat,by omega⟩
  obtain ⟨test,rfl⟩ : ∃ m : ℕ,testMonths=m := ⟨testMonths.toNat,by omega⟩
  have htrain1 : 1≤train := by omega
  have htest1 : 1≤test := by omega
  have htrain' : 1≤21*train := by omega
  have htest' : 1≤21*test := by omega
  have hdays : 21*(train : ℤ)=((21*train : ℕ) : ℤ) ∧ 21*(test : ℤ)=((21*test : ℕ) : ℤ) := by
    constructor <;> push_cast <;> rfl
  obtain ⟨ws,hws,hdated⟩ := splitWindows_ok htrain1 htest1 hfuel
  have hlength : (spans (21*train) (21*test) 0
      (fitting dates.length (21*train) (21*test) 0)).length=
        fitting dates.length (21*train) (21*test) 0 := by
    unfold spans
    rw [List.length_map,List.length_range]
  refine ⟨_,ws,hws,hdated,?_,?_,?_⟩
  · rw [hdays.1,hdays.2]
    refine walk_spans htrain' htest' fun i hi => ?_
    have hroom := (Nat.le_div_iff_mul_le htest').mp (Nat.succ_le_of_lt hi)
    have hsum : i.succ*(21*test)=i*(21*test)+21*test := Nat.succ_mul i _
    omega
  · rw [hlength,hdays.1,hdays.2]
    exact fitting_eq dates.length htest'
  · intro qs hqs
    rw [hdays.1,hdays.2] at hqs
    rw [hlength]
    exact hqs.length_le htrain' htest'

/-- One month to train on and one to test on, of nearly five months: three
windows, each next to the one before. -/
theorem splitWindows_walk_months :
    ∃ ps ws,splitWindows 120 (List.range 100) 1 1=some (.ok ws) ∧
      List.Forall₂ (Dated (List.range 100)) ps ws ∧
      Walk (21*1) (21*1) (List.range 100).length ps ∧
      (ps.length : ℤ)=
        (if (21 : ℤ)*1+21*1≤(List.range 100).length then
          ((List.range 100).length-21*1)/(21*1) else 0) ∧
      ∀ qs,Walk (21*1) (21*1) (List.range 100).length qs→qs.length≤ps.length :=
  splitWindows_walk (List.range 100) (by decide) (by decide)
    (by rw [List.length_range]; decide)

end Split

end Aqts.WalkForwardWindows
