import Mathlib.Data.List.Basic
import Mathlib.Data.List.Range

/-!
# Spans replaced from the right

Spans of a list are replaced one after the other, the one that starts last first, always
at the positions they have in the list as it was. To say what is left of the list, the
elements are marked with their positions. Without overlaps exactly the positions outside
the spans are left; in general this is a matter of two offsets that are carried from span
to span: where the rest of the list is cut, and how far the spans have reached.
-/

namespace Aqts.SpanReplacement

variable {α β : Type*}

/-- A span and what is written in its place. -/
structure Replacement (α : Type*) where
  /-- The first position. -/
  start : ℕ
  /-- The position behind the last one. -/
  stop : ℕ
  /-- What is written. -/
  text : List α

/-- The list with one span replaced. -/
def splice (l : List α) (r : Replacement α) : List α := l.take r.start++r.text++l.drop r.stop

/-- The list with some spans replaced, one after the other. -/
def spliceAll (rs : List (Replacement α)) (l : List α) : List α := rs.foldl splice l

/-- An element of the result: one of the list, by its position, or a written one. -/
inductive Mark (α : Type*)
  /-- The element at a position. -/
  | kept (position : ℕ)
  /-- A written element. -/
  | written (x : α)

/-- The position of an element of the list. -/
def Mark.position? : Mark α→Option ℕ
  | .kept position => some position
  | .written _ => none

/-- The positions that are left. -/
def positions (marks : List (Mark α)) : List ℕ := marks.filterMap Mark.position?

/-- The element that is marked. -/
def Mark.render [Inhabited α] (l : List α) : Mark α→α
  | .kept position => l.getD position default
  | .written x => x

/-- The replacement of marked elements. -/
def Replacement.marked (r : Replacement α) : Replacement (Mark α) :=
  ⟨r.start,r.stop,r.text.map .written⟩

/-- What becomes of the positions of a list. -/
def trace (n : ℕ) (rs : List (Replacement α)) : List (Mark α) :=
  spliceAll (rs.map Replacement.marked) ((List.range n).map .kept)

/-- The positions from some position on that no span covers. -/
def untouched (n : ℕ) (ds : List (Replacement α)) (reached : ℕ) : List ℕ :=
  (List.range n).filter fun i => decide (reached≤ i ∧ ∀ d∈ds,i<d.start ∨ d.stop≤ i)

/-- Exactly the positions outside the spans are left, in their order, and every stretch outside
the spans is left in one piece. -/
structure Intact (n : ℕ) (ds : List (Replacement α)) (marks : List (Mark α)) : Prop where
  /-- The positions that are left. -/
  left : positions marks=untouched n ds 0
  /-- The stretches. -/
  stretches : ∀ a b,a≤b→b≤n→(∀ d∈ds,d.stop≤a ∨ b≤d.start)→
    (List.range' a (b-a)).map .kept<:+:marks

/-- The two offsets agree before every span and at the end, as far as they are not behind it.
After a span the rest of the list is cut at its end and by what the span overlaps beyond the
written text, and the spans have reached the greatest end. -/
def Aligned (n : ℕ) : List (Replacement α)→ℕ→ℕ→Prop
  | [],cut,reached => min cut n=min reached n
  | d::ds,cut,reached => min cut d.start=min reached d.start ∧
      Aligned n ds (d.stop+(cut-d.start-d.text.length)) (max reached d.stop)

/-- The spans from the left to the right, within the list. -/
structure Ascending (n : ℕ) (ds : List (Replacement α)) : Prop where
  /-- The starts ascend. -/
  starts : ds.Pairwise fun a b => a.start≤b.start
  /-- Every span is within the list. -/
  within : ∀ d∈ds,d.start≤d.stop ∧ d.stop≤n

/-- The marks by recursion on the spans from the left to the right. -/
def layout (n : ℕ) : List (Replacement α)→List (Mark α)
  | [] => (List.range n).map .kept
  | d::ds => (List.range d.start).map .kept++d.text.map .written++(layout n ds).drop d.stop

/-- Two intervals that end at one position. -/
theorem range'_eq_iff (s cut reached : ℕ) :
    List.range' cut (s-cut)=List.range' reached (s-reached)↔min cut s=min reached s := by
  constructor
  · intro h
    have hlength := congrArg List.length h
    rw [List.length_range',List.length_range'] at hlength
    omega
  · intro h
    have hlength : s-cut=s-reached := by omega
    by_cases hzero : s-cut=0
    · rw [hzero,hlength.symm.trans hzero,List.range'_zero,List.range'_zero]
    · have hsame : cut=reached := by omega
      rw [hsame]

/-- Lists that begin with what is below a bound and go on with what is not. -/
theorem append_eq_iff {s : ℕ} {a b c d : List ℕ} (ha : ∀ i∈a,i< s) (hb : ∀ i∈b,s≤ i)
    (hc : ∀ i∈c,i< s) (hd : ∀ i∈d,s≤ i) : a++b=c++d↔a=c ∧ b=d := by
  constructor
  · intro h
    have hfilter := congrArg (List.filter fun i => decide (i< s)) h
    have hlow : ∀ l : List ℕ,(∀ i∈l,i< s)→l.filter (fun i => decide (i< s))=l := by
      intro l hl
      exact List.filter_eq_self.mpr fun i hi => decide_eq_true (hl i hi)
    have hhigh : ∀ l : List ℕ,(∀ i∈l,s≤ i)→l.filter (fun i => decide (i< s))=[] := by
      intro l hl
      refine List.filter_eq_nil_iff.mpr fun i hi => ?_
      have hle := hl i hi
      simpa using hle
    rw [List.filter_append,List.filter_append,hlow a ha,hhigh b hb,hlow c hc,hhigh d hd,
      List.append_nil,List.append_nil] at hfilter
    subst hfilter
    exact ⟨rfl,List.append_cancel_left h⟩
  · rintro ⟨rfl,rfl⟩
    rfl

/-- The positions of two parts. -/
theorem positions_append (marks marks' : List (Mark α)) :
    positions (marks++marks')=positions marks++positions marks' := List.filterMap_append

/-- The positions of kept elements. -/
theorem positions_kept (l : List ℕ) : positions (l.map (Mark.kept : ℕ→Mark α))=l := by
  unfold positions
  rw [List.filterMap_map]
  exact List.filterMap_some

/-- Written elements have none. -/
theorem positions_written (l : List α) : positions (l.map Mark.written)=[] := by
  unfold positions
  rw [List.filterMap_map]
  exact List.filterMap_eq_nil_iff.mpr fun _ _ => rfl

/-- What is left behind a cut: up to the first span from the cut on, and then what is left of
the rest behind a later cut. -/
theorem positions_drop_layout (n cut : ℕ) (d : Replacement α) (ds : List (Replacement α)) :
    positions ((layout n (d::ds)).drop cut)=List.range' cut (d.start-cut)++
      positions ((layout n ds).drop (d.stop+(cut-d.start-d.text.length))) := by
  have hkept : ((List.range d.start).map (Mark.kept : ℕ→Mark α)).drop cut=
      (List.range' cut (d.start-cut)).map .kept := by
    rw [←List.map_drop,List.range_eq_range',List.drop_range',Nat.zero_add,Nat.mul_one]
  have hwritten : positions ((d.text.map Mark.written).drop (cut-d.start))=[] := by
    rw [←List.map_drop]
    exact positions_written _
  rw [layout,List.drop_append,List.drop_append,positions_append,positions_append,hkept,
    positions_kept,List.length_append,List.length_map,List.length_map,List.length_range,
    hwritten,List.append_nil,List.drop_drop,Nat.sub_add_eq]

/-- Nothing behind a cut comes from before the spans and the cut. -/
theorem le_of_mem_positions {n k cut : ℕ} {ds : List (Replacement α)} (hcut : k≤ cut)
    (hds : ∀ d∈ds,k≤d.start ∧ d.start≤d.stop) :
    ∀ i∈positions ((layout n ds).drop cut),k≤ i := by
  induction ds generalizing cut with
  | nil =>
    intro i hi
    rw [layout,←List.map_drop,positions_kept,List.range_eq_range',List.drop_range'] at hi
    have hle := (List.mem_range'_1.mp hi).1
    omega
  | cons d ds ih =>
    obtain ⟨hd,hrest⟩ := List.forall_mem_cons.mp hds
    intro i hi
    rw [positions_drop_layout,List.mem_append] at hi
    rcases hi with hi | hi
    · exact hcut.trans (List.mem_range'_1.mp hi).1
    · exact ih (by omega) hrest i hi

/-- The positions from some position on. -/
theorem filter_range (s reached : ℕ) :
    (List.range s).filter (fun i => decide (reached≤ i))=List.range' reached (s-reached) := by
  induction s with
  | zero => simp
  | succ s ih =>
    rw [List.range_succ,List.filter_append,ih]
    by_cases h : reached≤ s
    · have hlength : s+1-reached=s-reached+1 := by omega
      have hlast : reached+1*(s-reached)=s := by omega
      rw [List.filter_cons_of_pos (by simpa using h),List.filter_nil,hlength,
        List.range'_concat,hlast]
    · have hzero : s-reached=0 := by omega
      have hzero' : s+1-reached=0 := by omega
      rw [List.filter_cons_of_neg (by simpa using h),List.filter_nil,hzero,hzero',
        List.range'_zero,List.append_nil]

/-- The positions outside the spans: up to the first span, and then behind it. -/
theorem untouched_cons {n reached : ℕ} {d : Replacement α} {ds : List (Replacement α)}
    (hspan : d.start≤d.stop ∧ d.stop≤n) (hstarts : ∀ e∈ds,d.start≤e.start) :
    untouched n (d::ds) reached=List.range' reached (d.start-reached)++
      untouched n ds (max reached d.stop) := by
  have hsplit : List.range n=List.range d.start++List.range' d.start (n-d.start) := by
    rw [List.range_eq_range',List.range_eq_range']
    have h := List.range'_append_1 (s := 0) (m := d.start) (n := n-d.start)
    rw [Nat.zero_add] at h
    rw [h]
    congr 1
    omega
  have hbefore : (List.range d.start).filter
      (fun i => decide (reached≤ i ∧ ∀ e∈d::ds,i<e.start ∨ e.stop≤ i))=
        List.range' reached (d.start-reached) := by
    have hsame : ∀ i∈List.range d.start,
        decide (reached≤ i ∧ ∀ e∈d::ds,i<e.start ∨ e.stop≤ i)=decide (reached≤ i) := by
      intro i hi
      have hlt := List.mem_range.mp hi
      refine decide_eq_decide.mpr ⟨fun h => h.1,fun h => ⟨h,fun e he => .inl ?_⟩⟩
      rcases List.mem_cons.mp he with rfl | hmem
      · exact hlt
      · exact hlt.trans_le (hstarts e hmem)
    rw [List.filter_congr hsame,filter_range]
  have hnone : (List.range d.start).filter
      (fun i => decide (max reached d.stop≤ i ∧ ∀ e∈ds,i<e.start ∨ e.stop≤ i))=[] := by
    refine List.filter_eq_nil_iff.mpr fun i hi htrue => ?_
    have hlt := List.mem_range.mp hi
    have hle := (of_decide_eq_true htrue).1
    omega
  have hafter : ∀ i∈List.range' d.start (n-d.start),
      decide (reached≤ i ∧ ∀ e∈d::ds,i<e.start ∨ e.stop≤ i)=
        decide (max reached d.stop≤ i ∧ ∀ e∈ds,i<e.start ∨ e.stop≤ i) := by
    intro i hi
    have hle := (List.mem_range'_1.mp hi).1
    refine decide_eq_decide.mpr ?_
    rw [List.forall_mem_cons]
    constructor
    · rintro ⟨hreached,hd,hrest⟩
      exact ⟨by omega,hrest⟩
    · rintro ⟨hmax,hrest⟩
      exact ⟨by omega,.inr (by omega),hrest⟩
  unfold untouched
  rw [hsplit,List.filter_append,List.filter_append,hbefore,hnone,List.nil_append,
    List.filter_congr hafter]

/-- No position outside the spans is before the reached one. -/
theorem le_of_mem_untouched {n reached : ℕ} {ds : List (Replacement α)} :
    ∀ i∈untouched n ds reached,reached≤ i :=
  fun _ hi => (of_decide_eq_true (List.mem_filter.mp hi).2).1

/-- Spans without the first one. -/
theorem Ascending.tail {n : ℕ} {d : Replacement α} {ds : List (Replacement α)}
    (h : Ascending n (d::ds)) : Ascending n ds :=
  ⟨(List.pairwise_cons.mp h.starts).2,fun e he => h.within e (List.mem_cons_of_mem _ he)⟩

/-- Behind a cut exactly the positions outside the spans from the reached one on are left, if
and only if the two offsets agree. -/
theorem positions_eq_untouched {n : ℕ} {ds : List (Replacement α)} (h : Ascending n ds)
    (cut reached : ℕ) : positions ((layout n ds).drop cut)=untouched n ds reached↔
      Aligned n ds cut reached := by
  induction ds generalizing cut reached with
  | nil =>
    have huntouched : untouched n ([] : List (Replacement α)) reached=
        List.range' reached (n-reached) := by
      unfold untouched
      rw [←filter_range]
      refine List.filter_congr fun i _ => decide_eq_decide.mpr ?_
      exact ⟨fun h => h.1,fun h => ⟨h,by simp⟩⟩
    rw [huntouched,layout,←List.map_drop,positions_kept,List.range_eq_range',List.drop_range',
      Nat.zero_add,Nat.mul_one,range'_eq_iff]
    rfl
  | cons d ds ih =>
    obtain ⟨hstarts,-⟩ := List.pairwise_cons.mp h.starts
    obtain ⟨hspan,hrest⟩ := List.forall_mem_cons.mp h.within
    have hlow : ∀ first,∀ i∈List.range' first (d.start-first),i<d.start := by
      intro first i hi
      have hmem := List.mem_range'_1.mp hi
      omega
    have hleft : ∀ i∈positions ((layout n ds).drop (d.stop+(cut-d.start-d.text.length))),
        d.start≤ i :=
      le_of_mem_positions (by omega) fun e he => ⟨hstarts e he,(hrest e he).1⟩
    have hright : ∀ i∈untouched n ds (max reached d.stop),d.start≤ i := by
      intro i hi
      have hle := le_of_mem_untouched i hi
      omega
    rw [positions_drop_layout,untouched_cons hspan hstarts,
      append_eq_iff (hlow cut) hleft (hlow reached) hright,range'_eq_iff,ih h.tail]
    rfl

/-- A stretch outside the spans of which an element is left behind a cut is left in one
piece. -/
theorem stretch_infix {n a b : ℕ} {ds : List (Replacement α)} (hab : a<b) (hb : b≤n)
    (hds : ∀ d∈ds,d.start≤d.stop) (houtside : ∀ d∈ds,d.stop≤a ∨ b≤d.start) {cut : ℕ}
    (hmem : a∈positions ((layout n ds).drop cut)) :
    (List.range' a (b-a)).map .kept<:+:(layout n ds).drop cut := by
  have hpart : ∀ first s,first≤a→b≤ s→(List.range' a (b-a)).map (Mark.kept : ℕ→Mark α)<:+:
      (List.range' first (s-first)).map .kept := by
    intro first s hfirst hs
    have hwhole : List.range' first (s-first)=
        List.range' first (a-first)++List.range' a (b-a)++List.range' b (s-b) := by
      have h₁ := List.range'_append_1 (s := first) (m := a-first) (n := b-a)
      have h₂ := List.range'_append_1 (s := first) (m := a-first+(b-a)) (n := s-b)
      have hfirst' : first+(a-first)=a := by omega
      have hsecond : first+(a-first+(b-a))=b := by omega
      have hlength : a-first+(b-a)+(s-b)=s-first := by omega
      rw [hfirst'] at h₁
      rw [hsecond,hlength] at h₂
      rw [h₁,h₂]
    rw [hwhole,List.map_append,List.map_append]
    exact ⟨_,_,rfl⟩
  induction ds generalizing cut with
  | nil =>
    rw [layout,←List.map_drop,List.range_eq_range',List.drop_range',Nat.zero_add,
      Nat.mul_one] at hmem ⊢
    rw [positions_kept] at hmem
    exact hpart cut n (List.mem_range'_1.mp hmem).1 hb
  | cons d ds ih =>
    obtain ⟨hd,hrest⟩ := List.forall_mem_cons.mp hds
    obtain ⟨hout,houts⟩ := List.forall_mem_cons.mp houtside
    rw [positions_drop_layout,List.mem_append] at hmem
    have hdrop : (layout n (d::ds)).drop cut=(List.range' cut (d.start-cut)).map .kept++
        ((d.text.map .written).drop (cut-d.start)++
          (layout n ds).drop (d.stop+(cut-d.start-d.text.length))) := by
      rw [layout,List.drop_append,List.drop_append,←List.map_drop,List.range_eq_range',
        List.drop_range',Nat.zero_add,Nat.mul_one,List.length_append,List.length_map,
        List.length_map,List.length_range',List.drop_drop,Nat.sub_add_eq,List.append_assoc]
    rw [hdrop]
    rcases hmem with hmem | hmem
    · have hrange := List.mem_range'_1.mp hmem
      have hstop : b≤d.start := by omega
      exact (hpart cut d.start hrange.1 hstop).trans (List.prefix_append _ _).isInfix
    · have hsuffix : (layout n ds).drop (d.stop+(cut-d.start-d.text.length))<:+
          (List.range' cut (d.start-cut)).map .kept++((d.text.map .written).drop (cut-d.start)++
            (layout n ds).drop (d.stop+(cut-d.start-d.text.length))) :=
        (List.suffix_append _ _).trans (List.suffix_append _ _)
      exact (ih hrest houts hmem).trans hsuffix.isInfix

/-- The replacements leave exactly what is outside the spans, if and only if the two offsets
agree from the beginning on. -/
theorem layout_intact {n : ℕ} {ds : List (Replacement α)} (h : Ascending n ds) :
    Intact n ds (layout n ds)↔Aligned n ds 0 0 := by
  have hpositions := positions_eq_untouched h 0 0
  rw [List.drop_zero] at hpositions
  rw [←hpositions]
  refine ⟨fun hintact => hintact.left,fun hleft => ⟨hleft,fun a b hab hb houtside => ?_⟩⟩
  by_cases hempty : a=b
  · rw [hempty,Nat.sub_self]
    exact List.nil_infix
  · have hmem : a∈positions ((layout n ds).drop 0) := by
      rw [List.drop_zero,hleft]
      refine List.mem_filter.mpr ⟨List.mem_range.mpr (by omega),decide_eq_true ⟨by omega,?_⟩⟩
      intro d hd
      have hout := houtside d hd
      omega
    have hinfix := stretch_infix (by omega) hb (fun d hd => (h.within d hd).1) houtside hmem
    rwa [List.drop_zero] at hinfix

/-- The result up to the first span is the list. -/
theorem take_layout {n k : ℕ} {ds : List (Replacement α)} (hk : k≤n) (hds : ∀ d∈ds,k≤d.start) :
    (layout n ds).take k=(List.range k).map .kept := by
  cases ds with
  | nil => rw [layout,←List.map_take,List.take_range,Nat.min_eq_left hk]
  | cons d ds =>
    have hle := hds d List.mem_cons_self
    rw [layout,List.append_assoc,List.take_append_of_le_length (by simpa using hle),←List.map_take,
      List.take_range,Nat.min_eq_left hle]

/-- Replacing from the right gives the marks of the recursion. -/
theorem trace_reverse {n : ℕ} {ds : List (Replacement α)} (h : Ascending n ds) :
    trace n ds.reverse=layout n ds := by
  induction ds with
  | nil => rfl
  | cons d ds ih =>
    obtain ⟨hstarts,-⟩ := List.pairwise_cons.mp h.starts
    have hspan := h.within d List.mem_cons_self
    have hrest := ih h.tail
    unfold trace spliceAll at hrest ⊢
    rw [List.reverse_cons,List.map_append,List.foldl_append,hrest]
    have htake : (layout n ds).take d.start=(List.range d.start).map .kept :=
      take_layout (hspan.1.trans hspan.2) hstarts
    change splice (layout n ds) d.marked=_
    unfold splice Replacement.marked
    dsimp only
    rw [htake]
    rfl

/-- What the marks stand for is the list with its spans replaced. -/
theorem render_trace [Inhabited α] (l : List α) (rs : List (Replacement α)) :
    (trace l.length rs).map (Mark.render l)=spliceAll rs l := by
  have hstep : ∀ (rs : List (Replacement α)) (marks : List (Mark α)),
      (spliceAll (rs.map Replacement.marked) marks).map (Mark.render l)=
        spliceAll rs (marks.map (Mark.render l)) := by
    intro rs
    induction rs with
    | nil => exact fun _ => rfl
    | cons r rs ih =>
      intro marks
      have hone : (splice marks r.marked).map (Mark.render l)=
          splice (marks.map (Mark.render l)) r := by
        unfold splice Replacement.marked
        dsimp only
        rw [List.map_append,List.map_append,List.map_take,List.map_drop,List.map_map]
        congr 2
        exact List.map_id _
      change (spliceAll (rs.map Replacement.marked) (splice marks r.marked)).map (Mark.render l)=_
      rw [ih,hone]
      rfl
  have hlist : ((List.range l.length).map (Mark.kept : ℕ→Mark α)).map (Mark.render l)=l := by
    rw [List.map_map]
    refine List.ext_getElem (by simp) fun i hi hi' => ?_
    simp [Mark.render,List.getElem?_eq_getElem hi']
  unfold trace
  rw [hstep,hlist]

end Aqts.SpanReplacement
