import Aqts.GuardedRuns
import Mathlib.Algebra.BigOperators.Group.List.Basic
import Mathlib.Algebra.Order.Ring.Rat
import Mathlib.Tactic.Linarith

/-!
# Concurrent updates of one position

`SqlPortfolioLedgerRepository.apply_delta` on one ticker, called by any number
of processes. Each transaction is the SELECT with its row lock, the statement
that follows from the new quantity, and the commit. The database shows
committed rows only: a SELECT that finds a locked row waits and then reads what
the holder left, one that finds no row locks nothing, and an INSERT meets the
primary key.
-/

namespace Aqts.ApplyDelta

open GuardedRuns

/-- The committed row of the ticker. -/
structure Row where
  /-- Number of the INSERT that made the row. -/
  generation : ℕ
  /-- `quantity`. -/
  quantity : ℚ
  deriving DecidableEq

/-- Where a call stands. The total is the sum of the applied deltas when its
SELECT was answered. -/
inductive Phase
  /-- No call. -/
  | idle
  /-- The transaction is open. -/
  | started (delta : ℚ)
  /-- The SELECT waits for the lock of a row. -/
  | waiting (delta : ℚ) (generation : ℕ)
  /-- The SELECT has locked the row. -/
  | found (delta quantity total : ℚ)
  /-- The SELECT has found no row. -/
  | missing (delta total : ℚ)
  /-- An UPDATE, or a DELETE, before its commit. -/
  | written (delta : ℚ) (next : Option ℚ)
  /-- An INSERT before its commit. -/
  | inserted (delta : ℚ)
  deriving DecidableEq

/-- The row of the ticker with its locks, the calls and their history. -/
structure State where
  /-- The committed row. -/
  row : Option Row
  /-- Process that has locked the row. -/
  lock : Option ℕ
  /-- Process whose INSERT is not committed. -/
  inserting : Option ℕ
  /-- Number of the next INSERT. -/
  nextGeneration : ℕ
  /-- The call of each process. -/
  phase : ℕ→Phase
  /-- Deltas of the calls that returned, in the order of the commits. -/
  applied : List ℚ
  /-- Calls that raised: the total at their SELECT and their delta. -/
  failed : List (ℚ×ℚ)

/-- No row and no call. -/
def State.start : State := ⟨none,none,none,0,fun _ => .idle,[],[]⟩

/-- Sum of the applied deltas. -/
def State.total (s : State) : ℚ := s.applied.sum

/-- Stored quantity; an absent row is zero. -/
def State.quantity (s : State) : ℚ := (s.row.map Row.quantity).getD 0

/-- A process moves on. -/
def State.goTo (s : State) (t : ℕ) (phase : Phase) : State :=
  {s with phase := Function.update s.phase t phase}

/-- `SELECT … FOR UPDATE` of a process, on the row it sees. -/
def select (s : State) (t : ℕ) (delta : ℚ) : State :=
  match s.row with
  | none => s.goTo t (.missing delta s.total)
  | some row =>
    if s.lock=none then {s.goTo t (.found delta row.quantity s.total) with lock := some t}
    else s.goTo t (.waiting delta row.generation)

/-- A SELECT that has waited: it locks the row it waited for, or finds none if
that row was deleted. -/
def wake (s : State) (t : ℕ) (delta : ℚ) (generation : ℕ) : Option State :=
  match s.row with
  | none => some (s.goTo t (.missing delta s.total))
  | some row =>
    if row.generation≠generation then some (s.goTo t (.missing delta s.total))
    else if s.lock=none then
      some {s.goTo t (.found delta row.quantity s.total) with lock := some t}
    else none

/-- The call raises and its transaction is rolled back. -/
def fail (s : State) (t : ℕ) (delta total : ℚ) : State :=
  {s.goTo t .idle with failed := s.failed++[(total,delta)]}

/-- The holder of the row lock has an uncommitted UPDATE or DELETE. -/
def State.changing (s : State) : Bool :=
  match s.lock with
  | none => false
  | some t =>
    match s.phase t with
    | .written _ _ => true
    | _ => false

/-- The INSERT. It waits for uncommitted changes and raises on a committed
row. -/
def insert (s : State) (t : ℕ) (delta total : ℚ) : Option State :=
  if s.inserting≠none ∨ s.changing=true then none
  else
    match s.row with
    | none => some {s.goTo t (.inserted delta) with inserting := some t}
    | some _ => some (fail s t delta total)

/-- The statement after the SELECT, from the new quantity. -/
def write (s : State) (t : ℕ) : Option State :=
  match s.phase t with
  | .found delta quantity total =>
    if quantity+delta<0 then some {fail s t delta total with lock := none}
    else if quantity+delta=0 then some (s.goTo t (.written delta none))
    else some (s.goTo t (.written delta (some (quantity+delta))))
  | .missing delta total =>
    if 0+delta<0 then some (fail s t delta total)
    else if 0+delta=0 then some {s.goTo t .idle with applied := s.applied++[delta]}
    else insert s t delta total
  | _ => none

/-- The commit, and the return of the call. -/
def commit (s : State) (t : ℕ) : Option State :=
  match s.phase t with
  | .written delta next =>
    some {s.goTo t .idle with
      row := s.row.bind fun row => next.map (Row.mk row.generation)
      lock := none
      applied := s.applied++[delta]}
  | .inserted delta =>
    some {s.goTo t .idle with
      row := some ⟨s.nextGeneration,delta⟩
      inserting := none
      nextGeneration := s.nextGeneration+1
      applied := s.applied++[delta]}
  | _ => none

/-- Steps of the processes. -/
inductive Event
  /-- A process calls `apply_delta`. -/
  | start (t : ℕ) (delta : ℚ)
  /-- Its SELECT. -/
  | select (t : ℕ)
  /-- The end of a wait for the lock. -/
  | wake (t : ℕ)
  /-- The statement after the SELECT. -/
  | write (t : ℕ)
  /-- The commit. -/
  | commit (t : ℕ)
  deriving DecidableEq

/-- One step, if it is enabled. -/
def step (s : State) : Event→Option State
  | .start t delta =>
    match s.phase t with
    | .idle => some (s.goTo t (.started delta))
    | _ => none
  | .select t =>
    match s.phase t with
    | .started delta => some (select s t delta)
    | _ => none
  | .wake t =>
    match s.phase t with
    | .waiting delta generation => wake s t delta generation
    | _ => none
  | .write t => write s t
  | .commit t => commit s t

/-- The row that a SELECT waits for was deleted, and another one is there. -/
def replaced : Phase→Option Row→Bool
  | .waiting _ generation,some row => row.generation≠generation
  | _,_ => false

/-- A call that found no row is about to insert one, and there is one. -/
def clashes : Phase→Option Row→Bool
  | .missing delta _,some _ => 0<delta
  | _,_ => false

/-- No call acts on an absence that is over: a row that is waited for is not
replaced by another, and an INSERT meets no row. -/
def AbsenceHolds (s : State) : Event→Prop
  | .wake t => replaced (s.phase t) s.row=false
  | .write t => clashes (s.phase t) s.row=false
  | _ => True

instance (s : State) (e : Event) : Decidable (AbsenceHolds s e) :=
  match e with
  | .wake _ => inferInstanceAs (Decidable (_=_))
  | .write _ => inferInstanceAs (Decidable (_=_))
  | .start _ _ => .isTrue trivial
  | .select _ => .isTrue trivial
  | .commit _ => .isTrue trivial

/-- What the phase of a process tells about the row and its locks. -/
def PhaseHolds (s : State) (t : ℕ) : Phase→Prop
  | .found _ quantity _ => s.lock=some t ∧ s.inserting≠some t ∧
      ∃ row,s.row=some row ∧ row.quantity=quantity
  | .written delta next => s.lock=some t ∧ s.inserting≠some t ∧
      ∃ row,s.row=some row ∧ next.getD 0=row.quantity+delta
  | .inserted _ => s.inserting=some t ∧ s.lock≠some t ∧ s.row=none
  | _ => s.lock≠some t ∧ s.inserting≠some t

/-- Only a process that has locked a row, or inserted one, is affected by what
another process does. -/
theorem PhaseHolds.frame {s s' : State} {t : ℕ} {phase : Phase} (h : PhaseHolds s t phase)
    (hlock : s'.lock=some t ↔ s.lock=some t) (hins : s'.inserting=some t ↔ s.inserting=some t)
    (hrow : s.lock=some t ∨ s.inserting=some t→s'.row=s.row) : PhaseHolds s' t phase := by
  cases phase with
  | found delta quantity total =>
    obtain ⟨hl,hi,hr⟩ := h
    rw [← hrow (.inl hl)] at hr
    exact ⟨hlock.mpr hl,fun hi' => hi (hins.mp hi'),hr⟩
  | written delta next =>
    obtain ⟨hl,hi,hr⟩ := h
    rw [← hrow (.inl hl)] at hr
    exact ⟨hlock.mpr hl,fun hi' => hi (hins.mp hi'),hr⟩
  | inserted delta =>
    obtain ⟨hi,hl,hr⟩ := h
    rw [← hrow (.inr hi)] at hr
    exact ⟨hins.mpr hi,fun hl' => hl (hlock.mp hl'),hr⟩
  | idle => exact ⟨fun hl => h.1 (hlock.mp hl),fun hi => h.2 (hins.mp hi)⟩
  | started delta => exact ⟨fun hl => h.1 (hlock.mp hl),fun hi => h.2 (hins.mp hi)⟩
  | waiting delta generation => exact ⟨fun hl => h.1 (hlock.mp hl),fun hi => h.2 (hins.mp hi)⟩
  | missing delta total => exact ⟨fun hl => h.1 (hlock.mp hl),fun hi => h.2 (hins.mp hi)⟩

/-- A locked row is there. -/
theorem PhaseHolds.lock_row {s : State} {t : ℕ} {phase : Phase} (h : PhaseHolds s t phase)
    (hlock : s.lock=some t) : s.row≠none := by
  cases phase with
  | found delta quantity total =>
    obtain ⟨_,_,row,hr,_⟩ := h
    simp [hr]
  | written delta next =>
    obtain ⟨_,_,row,hr,_⟩ := h
    simp [hr]
  | inserted delta => exact absurd hlock h.2.1
  | idle => exact absurd hlock h.1
  | started delta => exact absurd hlock h.1
  | waiting delta generation => exact absurd hlock h.1
  | missing delta total => exact absurd hlock h.1

/-- An INSERT that is not committed found no row. -/
theorem PhaseHolds.inserting_row {s : State} {t : ℕ} {phase : Phase} (h : PhaseHolds s t phase)
    (hins : s.inserting=some t) : s.row=none := by
  cases phase with
  | inserted delta => exact h.2.2
  | found delta quantity total => exact absurd hins h.2.1
  | written delta next => exact absurd hins h.2.1
  | idle => exact absurd hins h.2
  | started delta => exact absurd hins h.2
  | waiting delta generation => exact absurd hins h.2
  | missing delta total => exact absurd hins h.2

/-- The row is the sum of the applied deltas, and every phase holds. -/
structure Consistent (s : State) : Prop where
  /-- The stored quantity. -/
  stored : s.quantity=s.total
  /-- The phases. -/
  phases : ∀ t,PhaseHolds s t (s.phase t)

/-- What the phase of one process tells. -/
theorem Consistent.phaseHolds {s : State} (h : Consistent s) {t : ℕ} {phase : Phase}
    (hphase : s.phase t=phase) : PhaseHolds s t phase := by
  rw [← hphase]
  exact h.phases t

/-- One process moves: the others keep their phase if it takes or gives back only
its own locks, and changes the row only under one. -/
theorem Consistent.move {s s' : State} {t : ℕ} {p : Phase} (h : Consistent s)
    (hphase : s'.phase=Function.update s.phase t p) (hself : PhaseHolds s' t p)
    (hlock : ∀ u,u≠t→(s'.lock=some u ↔ s.lock=some u))
    (hins : ∀ u,u≠t→(s'.inserting=some u ↔ s.inserting=some u))
    (hrow : s'.row=s.row ∨ s.lock=some t ∨ s.inserting=some t)
    (hstored : s'.quantity=s'.total) : Consistent s' := by
  refine ⟨hstored,?_⟩
  intro u
  rw [hphase]
  by_cases hu : u=t
  · rw [hu,Function.update_self]
    exact hself
  · rw [Function.update_of_ne hu]
    refine (h.phases u).frame (hlock u hu) (hins u hu) ?_
    intro hown
    obtain hsame | hmine | hmine := hrow
    · exact hsame
    · obtain hown | hown := hown
      · rw [hmine] at hown
        exact absurd (Option.some.inj hown).symm hu
      · exact absurd ((h.phases u).inserting_row hown) ((h.phases t).lock_row hmine)
    · obtain hown | hown := hown
      · exact absurd ((h.phases t).inserting_row hmine) ((h.phases u).lock_row hown)
      · rw [hmine] at hown
        exact absurd (Option.some.inj hown).symm hu

/-- The SELECT of a process is about to be answered. -/
def Asks (s : State) (t : ℕ) (delta : ℚ) : Prop :=
  s.phase t=.started delta ∨ ∃ generation,s.phase t=.waiting delta generation

/-- All that a step can do. -/
inductive StepCase (s : State) (e : Event) : State→Prop
  /-- A call begins. -/
  | begun (t : ℕ) (delta : ℚ) : s.phase t=.idle→StepCase s e (s.goTo t (.started delta))
  /-- A SELECT finds no row, or its row was replaced while it waited. -/
  | missed (t : ℕ) (delta : ℚ) : Asks s t delta→
      (s.row=none ∨ e=.wake t ∧ replaced (s.phase t) s.row=true)→
      StepCase s e (s.goTo t (.missing delta s.total))
  /-- A SELECT waits. -/
  | waited (t : ℕ) (delta : ℚ) (row : Row) : s.phase t=.started delta→
      StepCase s e (s.goTo t (.waiting delta row.generation))
  /-- A SELECT locks the row. -/
  | locked (t : ℕ) (delta : ℚ) (row : Row) : Asks s t delta→s.row=some row→s.lock=none→
      StepCase s e {s.goTo t (.found delta row.quantity s.total) with lock := some t}
  /-- A call on the row is refused. -/
  | refusedFound (t : ℕ) (delta quantity total : ℚ) : s.phase t=.found delta quantity total→
      quantity+delta<0→StepCase s e {fail s t delta total with lock := none}
  /-- A call without a row is refused. -/
  | refusedMissing (t : ℕ) (delta total : ℚ) : s.phase t=.missing delta total→0+delta<0→
      StepCase s e (fail s t delta total)
  /-- An UPDATE or a DELETE. -/
  | wrote (t : ℕ) (delta quantity total : ℚ) (next : Option ℚ) :
      s.phase t=.found delta quantity total→next.getD 0=quantity+delta→
      StepCase s e (s.goTo t (.written delta next))
  /-- A call that changes nothing returns. -/
  | skipped (t : ℕ) (delta total : ℚ) : s.phase t=.missing delta total→0+delta=0→
      StepCase s e {s.goTo t .idle with applied := s.applied++[delta]}
  /-- An INSERT. -/
  | insert (t : ℕ) (delta total : ℚ) : s.phase t=.missing delta total→s.inserting=none→
      s.row=none→StepCase s e {s.goTo t (.inserted delta) with inserting := some t}
  /-- An INSERT violates the primary key. -/
  | violated (t : ℕ) (delta total : ℚ) : e=.write t→s.phase t=.missing delta total→
      clashes (s.phase t) s.row=true→StepCase s e (fail s t delta total)
  /-- The commit of an UPDATE or a DELETE. -/
  | committed (t : ℕ) (delta : ℚ) (next : Option ℚ) : s.phase t=.written delta next→
      StepCase s e {s.goTo t .idle with
        row := s.row.bind fun row => next.map (Row.mk row.generation)
        lock := none
        applied := s.applied++[delta]}
  /-- The commit of an INSERT. -/
  | created (t : ℕ) (delta : ℚ) : s.phase t=.inserted delta→
      StepCase s e {s.goTo t .idle with
        row := some ⟨s.nextGeneration,delta⟩
        inserting := none
        nextGeneration := s.nextGeneration+1
        applied := s.applied++[delta]}

/-- The cases of the statement after the SELECT. -/
theorem write_cases {s s' : State} {t : ℕ} (h : write s t=some s') :
    StepCase s (.write t) s' := by
  unfold write at h
  cases hphase : s.phase t with
  | found delta quantity total =>
    rw [hphase] at h
    dsimp only at h
    by_cases hneg : quantity+delta<0
    · rw [if_pos hneg] at h
      cases h
      exact .refusedFound t delta quantity total hphase hneg
    · rw [if_neg hneg] at h
      by_cases hzero : quantity+delta=0
      · rw [if_pos hzero] at h
        cases h
        exact .wrote t delta quantity total none hphase hzero.symm
      · rw [if_neg hzero] at h
        cases h
        exact .wrote t delta quantity total (some (quantity+delta)) hphase rfl
  | missing delta total =>
    rw [hphase] at h
    dsimp only at h
    by_cases hneg : 0+delta<0
    · rw [if_pos hneg] at h
      cases h
      exact .refusedMissing t delta total hphase hneg
    · rw [if_neg hneg] at h
      by_cases hzero : 0+delta=0
      · rw [if_pos hzero] at h
        cases h
        exact .skipped t delta total hphase hzero
      · rw [if_neg hzero] at h
        have hpos : 0<delta := by
          rw [zero_add] at hneg hzero
          exact lt_of_le_of_ne (not_lt.mp hneg) (Ne.symm hzero)
        unfold ApplyDelta.insert at h
        by_cases hwait : s.inserting≠none ∨ s.changing=true
        · rw [if_pos hwait] at h
          cases h
        · rw [if_neg hwait] at h
          have hfree : s.inserting=none := by
            by_contra hne
            exact hwait (.inl hne)
          cases hrow : s.row with
          | none =>
            rw [hrow] at h
            cases h
            exact .insert t delta total hphase hfree hrow
          | some row =>
            rw [hrow] at h
            cases h
            exact .violated t delta total rfl hphase (by simp [clashes,hphase,hrow,hpos])
  | idle => simp [hphase] at h
  | started delta => simp [hphase] at h
  | waiting delta generation => simp [hphase] at h
  | written delta next => simp [hphase] at h
  | inserted delta => simp [hphase] at h

/-- The cases of a step. -/
theorem step_cases {s s' : State} {e : Event} (h : step s e=some s') : StepCase s e s' := by
  cases e with
  | start t delta =>
    unfold step at h
    cases hphase : s.phase t with
    | idle =>
      simp only [hphase] at h
      cases h
      exact .begun t delta hphase
    | _ => simp [hphase] at h
  | select t =>
    unfold step at h
    cases hphase : s.phase t with
    | started delta =>
      simp only [hphase] at h
      cases h
      unfold select
      cases hrow : s.row with
      | none => exact .missed t delta (.inl hphase) (.inl hrow)
      | some row =>
        dsimp only
        by_cases hfree : s.lock=none
        · rw [if_pos hfree]
          exact .locked t delta row (.inl hphase) hrow hfree
        · rw [if_neg hfree]
          exact .waited t delta row hphase
    | _ => simp [hphase] at h
  | wake t =>
    unfold step at h
    cases hphase : s.phase t with
    | waiting delta generation =>
      simp only [hphase,wake] at h
      have hasks : Asks s t delta := .inr ⟨generation,hphase⟩
      cases hrow : s.row with
      | none =>
        simp only [hrow] at h
        cases h
        exact .missed t delta hasks (.inl hrow)
      | some row =>
        simp only [hrow] at h
        by_cases hnew : row.generation≠generation
        · rw [if_pos hnew] at h
          cases h
          exact .missed t delta hasks (.inr ⟨rfl,by simp [replaced,hphase,hrow,hnew]⟩)
        · rw [if_neg hnew] at h
          by_cases hfree : s.lock=none
          · rw [if_pos hfree] at h
            cases h
            exact .locked t delta row hasks hrow hfree
          · rw [if_neg hfree] at h
            cases h
    | _ => simp [hphase] at h
  | write t => exact write_cases h
  | commit t =>
    unfold step commit at h
    cases hphase : s.phase t with
    | written delta next =>
      simp only [hphase] at h
      cases h
      exact .committed t delta next hphase
    | inserted delta =>
      simp only [hphase] at h
      cases h
      exact .created t delta hphase
    | _ => simp [hphase] at h

/-- A process moves without taking a lock or giving one back. -/
theorem Consistent.goTo {s : State} (h : Consistent s) {t : ℕ} {phase : Phase}
    (hself : PhaseHolds s t phase) : Consistent (s.goTo t phase) :=
  h.move rfl (hself.frame Iff.rfl Iff.rfl fun _ => rfl) (fun _ _ => Iff.rfl) (fun _ _ => Iff.rfl)
    (.inl rfl) h.stored

/-- A process that asks holds no lock. -/
theorem Consistent.asks {s : State} (h : Consistent s) {t : ℕ} {delta : ℚ}
    (hasks : Asks s t delta) : s.lock≠some t ∧ s.inserting≠some t := by
  obtain hstarted | ⟨generation,hwaiting⟩ := hasks
  · exact h.phaseHolds hstarted
  · exact h.phaseHolds hwaiting

/-- A call without locks fails. -/
theorem Consistent.fail {s : State} (h : Consistent s) {t : ℕ} {delta total : ℚ}
    (hphase : s.phase t=.missing delta total) : Consistent (fail s t delta total) :=
  h.move rfl (h.phaseHolds hphase) (fun _ _ => Iff.rfl) (fun _ _ => Iff.rfl) (.inl rfl) h.stored

/-- One more applied delta. -/
theorem total_append {s s' : State} {delta : ℚ} (h : s'.applied=s.applied++[delta]) :
    s'.total=s.total+delta := by
  unfold State.total
  rw [h,List.sum_append,List.sum_singleton]

/-- The row that is there holds the sum of the applied deltas. -/
theorem Consistent.row_total {s : State} (h : Consistent s) {row : Option Row} (hrow : s.row=row) :
    (row.map Row.quantity).getD 0=s.total := by
  rw [← hrow]
  exact h.stored

/-- The commit of an UPDATE or a DELETE adds its delta to the row. -/
theorem Consistent.committed {s : State} (h : Consistent s) {t : ℕ} {delta : ℚ} {next : Option ℚ}
    (hphase : s.phase t=.written delta next) :
    Consistent {s.goTo t .idle with
      row := s.row.bind fun row => next.map (Row.mk row.generation)
      lock := none
      applied := s.applied++[delta]} := by
  obtain ⟨hlock,hins,row,hrow,hnext⟩ := h.phaseHolds hphase
  refine h.move (p := .idle) rfl ⟨by simp,hins⟩ ?_ (fun _ _ => Iff.rfl) (.inr (.inl hlock)) ?_
  · intro u hu
    simp [hlock,hu.symm]
  · have hstored : row.quantity=s.total := h.row_total hrow
    rw [total_append (s := s) rfl,← hstored,← hnext]
    unfold State.quantity
    dsimp only
    rw [hrow]
    cases next with
    | none => rfl
    | some quantity => rfl

/-- The commit of an INSERT puts its delta where nothing was. -/
theorem Consistent.created {s : State} (h : Consistent s) {t : ℕ} {delta : ℚ}
    (hphase : s.phase t=.inserted delta) :
    Consistent {s.goTo t .idle with
      row := some ⟨s.nextGeneration,delta⟩
      inserting := none
      nextGeneration := s.nextGeneration+1
      applied := s.applied++[delta]} := by
  obtain ⟨hins,hlock,hrow⟩ := h.phaseHolds hphase
  refine h.move (p := .idle) rfl ⟨hlock,by simp⟩ (fun _ _ => Iff.rfl) ?_ (.inr (.inr hins)) ?_
  · intro u hu
    simp [hins,hu.symm]
  · have hstored : 0=s.total := h.row_total hrow
    rw [total_append (s := s) rfl,← hstored,zero_add]
    rfl

/-- Every step keeps the row the sum of the applied deltas. -/
theorem Consistent.preserved {s s' : State} {e : Event} (h : Consistent s)
    (hs : step s e=some s') : Consistent s' := by
  cases step_cases hs with
  | begun t delta hphase =>
    have hfree := h.phaseHolds hphase
    exact h.goTo hfree
  | missed t delta hasks hrow => exact h.goTo (h.asks hasks)
  | waited t delta row hphase => exact h.goTo (h.asks (.inl hphase))
  | locked t delta row hasks hrow hfree =>
    refine h.move rfl ⟨rfl,(h.asks hasks).2,row,hrow,rfl⟩ ?_ (fun _ _ => Iff.rfl) (.inl rfl) h.stored
    intro u hu
    simp [hfree,hu.symm]
  | refusedFound t delta quantity total hphase hneg =>
    obtain ⟨hlock,hins,_⟩ := h.phaseHolds hphase
    refine h.move (p := .idle) rfl ⟨by simp,hins⟩ ?_ (fun _ _ => Iff.rfl) (.inl rfl) h.stored
    intro u hu
    simp [hlock,hu.symm]
  | refusedMissing t delta total hphase hneg => exact h.fail hphase
  | wrote t delta quantity total next hphase hnext =>
    obtain ⟨hlock,hins,row,hrow,hquantity⟩ := h.phaseHolds hphase
    refine h.goTo ⟨hlock,hins,row,hrow,?_⟩
    rw [hnext,hquantity]
  | skipped t delta total hphase hzero =>
    refine h.move rfl (h.phaseHolds hphase) (fun _ _ => Iff.rfl) (fun _ _ => Iff.rfl) (.inl rfl) ?_
    rw [total_append (s := s) rfl]
    have hstored : s.quantity=s.total := h.stored
    have hsame : s.total+delta=s.quantity := by linarith
    exact hsame.symm
  | insert t delta total hphase hins hrow =>
    have hfree := h.phaseHolds hphase
    refine h.move rfl ⟨rfl,hfree.1,hrow⟩ (fun _ _ => Iff.rfl) ?_ (.inl rfl) h.stored
    intro u hu
    simp [hins,hu.symm]
  | violated t delta total he hphase hclash => exact h.fail hphase
  | committed t delta next hphase => exact h.committed hphase
  | created t delta hphase => exact h.created hphase

/-- The answer of a SELECT is the total at its instant. -/
def Answered : Phase→Prop
  | .missing _ total => total=0
  | .found _ quantity total => total=quantity
  | _ => True

/-- Every SELECT was answered with the total, and every call that raised would
have made it negative. -/
structure Justified (s : State) : Prop where
  /-- The answers. -/
  answers : ∀ t,Answered (s.phase t)
  /-- The failures. -/
  failed : ∀ f∈s.failed,f.1+f.2<0

/-- One process moves. -/
theorem Justified.move {s s' : State} {t : ℕ} {p : Phase} (h : Justified s)
    (hphase : s'.phase=Function.update s.phase t p) (hself : Answered p)
    (hfailed : ∀ f∈s'.failed,f∈s.failed ∨ f.1+f.2<0) : Justified s' := by
  constructor
  · intro u
    rw [hphase]
    by_cases hu : u=t
    · rw [hu,Function.update_self]
      exact hself
    · rw [Function.update_of_ne hu]
      exact h.answers u
  · intro f hf
    obtain hold | hnew := hfailed f hf
    · exact h.failed f hold
    · exact hnew

/-- A process moves to a phase with the right answer, and no call fails. -/
theorem Justified.goesTo {s s' : State} {t : ℕ} {phase : Phase} (h : Justified s)
    (hphase : s'.phase=Function.update s.phase t phase) (hself : Answered phase)
    (hfailed : s'.failed=s.failed) : Justified s' := by
  refine h.move hphase hself ?_
  intro f hf
  rw [hfailed] at hf
  exact .inl hf

/-- A call that would make the total negative fails. -/
theorem Justified.fail {s : State} (h : Justified s) {t : ℕ} {delta total : ℚ}
    (hneg : total+delta<0) : Justified (fail s t delta total) := by
  refine h.move (p := .idle) rfl trivial ?_
  intro f hf
  obtain hold | hnew := List.mem_append.mp hf
  · exact .inl hold
  · rw [List.mem_singleton.mp hnew]
    exact .inr hneg

/-- The answer of a SELECT. -/
theorem Justified.answered {s : State} (h : Justified s) {t : ℕ} {phase : Phase}
    (hphase : s.phase t=phase) : Answered phase := by
  rw [← hphase]
  exact h.answers t

/-- A step on an absence that holds keeps every answer and failure justified. -/
theorem Justified.preserved {s s' : State} {e : Event} (h : Justified s) (hc : Consistent s)
    (hguard : AbsenceHolds s e) (hs : step s e=some s') : Justified s' := by
  cases step_cases hs with
  | begun t delta hphase => exact h.goesTo rfl trivial rfl
  | missed t delta hasks hrow =>
    have hnone : s.row=none := by
      obtain hnone | ⟨rfl,hreplaced⟩ := hrow
      · exact hnone
      · rw [show replaced (s.phase t) s.row=false from hguard] at hreplaced
        cases hreplaced
    exact h.goesTo rfl (hc.row_total hnone).symm rfl
  | waited t delta row hphase => exact h.goesTo rfl trivial rfl
  | locked t delta row hasks hrow hfree => exact h.goesTo rfl (hc.row_total hrow).symm rfl
  | refusedFound t delta quantity total hphase hneg =>
    have hanswer : total=quantity := h.answered hphase
    have hfail := h.fail (t := t) (show total+delta<0 by rw [hanswer]; exact hneg)
    exact ⟨hfail.answers,hfail.failed⟩
  | refusedMissing t delta total hphase hneg =>
    have hanswer : total=0 := h.answered hphase
    exact h.fail (by rw [hanswer]; exact hneg)
  | wrote t delta quantity total next hphase hnext => exact h.goesTo rfl trivial rfl
  | skipped t delta total hphase hzero => exact h.goesTo rfl trivial rfl
  | insert t delta total hphase hins hrow => exact h.goesTo rfl trivial rfl
  | violated t delta total he hphase hclash =>
    rw [he] at hguard
    rw [show clashes (s.phase t) s.row=false from hguard] at hclash
    cases hclash
  | committed t delta next hphase => exact h.goesTo rfl trivial rfl
  | created t delta hphase => exact h.goesTo rfl trivial rfl

/-- The holder of the row lock can go on. -/
theorem Consistent.holder_moves {s : State} (h : Consistent s) {t : ℕ} (hlock : s.lock=some t) :
    (step s (.write t)).isSome=true ∨ (step s (.commit t)).isSome=true := by
  have hholds := h.phases t
  cases hphase : s.phase t with
  | found delta quantity total =>
    refine .inl ?_
    simp only [step,write,hphase]
    split
    · rfl
    · split
      · rfl
      · rfl
  | written delta next =>
    refine .inr ?_
    simp [step,commit,hphase]
  | inserted delta =>
    rw [hphase] at hholds
    exact absurd hlock hholds.2.1
  | _ =>
    rw [hphase] at hholds
    exact absurd hlock hholds.1

/-- An uncommitted INSERT can be committed. -/
theorem Consistent.inserter_moves {s : State} (h : Consistent s) {t : ℕ}
    (hins : s.inserting=some t) : (step s (.commit t)).isSome=true := by
  have hholds := h.phases t
  cases hphase : s.phase t with
  | inserted delta => simp [step,commit,hphase]
  | found delta quantity total =>
    rw [hphase] at hholds
    exact absurd hins hholds.2.1
  | written delta next =>
    rw [hphase] at hholds
    exact absurd hins hholds.2.1
  | _ =>
    rw [hphase] at hholds
    exact absurd hins hholds.2

/-- A call that can go on. -/
def CanMove (s : State) : Prop :=
  ∃ t,(step s (.select t)).isSome=true ∨ (step s (.wake t)).isSome=true ∨
    (step s (.write t)).isSome=true ∨ (step s (.commit t)).isSome=true

/-- Open calls never block each other for good. -/
theorem Consistent.canMove {s : State} (h : Consistent s) {t : ℕ} (hopen : s.phase t≠.idle) :
    CanMove s := by
  cases hlock : s.lock with
  | some u => exact ⟨u,.inr (.inr (h.holder_moves hlock))⟩
  | none =>
    have hholds := h.phases t
    cases hphase : s.phase t with
    | idle => exact absurd hphase hopen
    | started delta =>
      refine ⟨t,.inl ?_⟩
      simp [step,hphase]
    | waiting delta generation =>
      refine ⟨t,.inr (.inl ?_)⟩
      simp only [step,hphase,wake,hlock]
      split
      · rfl
      · split
        · rfl
        · rfl
    | found delta quantity total =>
      rw [hphase] at hholds
      have hmine : s.lock=some t := hholds.1
      rw [hlock] at hmine
      cases hmine
    | written delta next =>
      rw [hphase] at hholds
      have hmine : s.lock=some t := hholds.1
      rw [hlock] at hmine
      cases hmine
    | missing delta total =>
      cases hins : s.inserting with
      | some u => exact ⟨u,.inr (.inr (.inr (h.inserter_moves hins)))⟩
      | none =>
        refine ⟨t,.inr (.inr (.inl ?_))⟩
        simp only [step,write,hphase,ApplyDelta.insert,State.changing,hins,hlock]
        split
        · rfl
        · split
          · rfl
          · rw [if_neg (by simp)]
            split
            · rfl
            · rfl
    | inserted delta =>
      refine ⟨t,.inr (.inr (.inr ?_))⟩
      simp [step,commit,hphase]

/-- The row is the sum of the applied deltas in every run, whatever the order of
the steps. -/
theorem reaches_consistent {allowed : State→Event→Prop} {s : State}
    (h : Reaches step allowed State.start s) : Consistent s := by
  refine h.invariant (P := Consistent) ?_ ?_
  · exact ⟨rfl,fun t => ⟨by simp [State.start],by simp [State.start]⟩⟩
  · intro s e s' _ hc _ hs
    exact hc.preserved hs

/-- In every run whose absences hold, a call raises only if its delta would make
the total negative, the stored quantity is the sum of the applied deltas, and an
open call leaves a step that can be taken. -/
theorem deltas_applied {s : State} (h : Reaches step AbsenceHolds State.start s) :
    (∀ f∈s.failed,f.1+f.2<0) ∧ s.quantity=s.total ∧ ∀ t,s.phase t≠.idle→ CanMove s := by
  have hc := reaches_consistent h
  have hj : Justified s := by
    refine h.invariant (P := Justified) ?_ ?_
    · exact ⟨fun t => trivial,fun f hf => by cases hf⟩
    · intro s e s' hr hj hguard hs
      exact hj.preserved (reaches_consistent hr) hguard hs
  exact ⟨hj.failed,hc.stored,fun t hopen => hc.canMove hopen⟩

/-- A BUY creates the row, another adds to it while a SELL waits for the lock and
then removes the row. -/
theorem deltas_applied_wait :
    ∃ s,Reaches step AbsenceHolds State.start s ∧ s.applied=[10,5,-15] ∧ s.row=none ∧
      s.quantity=s.total := by
  obtain ⟨s,_,hends,hrun⟩ := play_ends step AbsenceHolds State.start
    (fun s => s.applied=[10,5,-15] ∧ s.row=none)
    [.start 0 10,.start 1 5,.start 2 (-15),.select 0,.write 0,.commit 0,.select 1,.select 2,
      .write 1,.commit 1,.wake 2,.write 2,.commit 2] (by decide +kernel)
  exact ⟨s,hrun,hends.1,hends.2,(deltas_applied hrun).2.1⟩

/-- Two BUYs find no row, and the second INSERT violates the primary key. -/
theorem second_insert_raises :
    ¬∀ s,Reaches step (fun _ _ => True) State.start s→∀ f∈s.failed,f.1+f.2<0 :=
  not_forall_reaches [.start 0 10,.start 1 5,.select 0,.select 1,.write 0,.commit 0,.write 1]
    (by decide +kernel)

end Aqts.ApplyDelta
