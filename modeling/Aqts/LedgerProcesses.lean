import Aqts.GuardedRuns
import Aqts.LedgerPersistence
import Mathlib.Data.Fintype.Basic

/-!
# Processes that share one table of positions

Several processes, each with a `PortfolioLedger` of its own over the one table
of the repository. A process loads the table once at its start and afterwards
updates the tickers that it fills itself. Loading, committing and updating the
cache are separate steps, in any order between the processes.
-/

namespace Aqts.LedgerProcesses

open GuardedRuns OrderTypes PortfolioLedger LedgerPersistence

/-- Where a process stands. The lock of the ledger admits one call at a time. -/
inductive Stage
  /-- Not running. -/
  | down
  /-- `hydrate` has loaded the table. -/
  | hydrating (loaded : String→Option ℚ)
  /-- Running, with no call in flight. -/
  | up
  /-- `record_fill` has committed a new quantity. -/
  | committed (ticker : String) (newQty : ℚ)

/-- The process is not running. -/
def Stage.isDown : Stage→Bool
  | .down => true
  | _ => false

/-- A call of the process is in flight. -/
def Stage.inFlight : Stage→Bool
  | .hydrating _ => true
  | .committed _ _ => true
  | _ => false

/-- A process with its cache. -/
structure Process where
  /-- Where it stands. -/
  stage : Stage
  /-- `_positions`. -/
  cache : String→Option ℚ

/-- The shared table and the processes. -/
structure State (P : Type) where
  /-- `portfolio_positions`. -/
  table : Ledger
  /-- The processes. -/
  process : P→Process

variable {P : Type} [DecidableEq P]

/-- A table before any process runs. -/
def State.start (P : Type) (table : Ledger) : State P := ⟨table,fun _ => ⟨.down,fun _ => none⟩⟩

/-- A process changes. -/
def State.set (s : State P) (p : P) (process : Process) : State P :=
  {s with process := Function.update s.process p process}

/-- Steps of the processes. -/
inductive Event (P : Type)
  /-- A process starts and loads the table. -/
  | load (p : P)
  /-- It fills its cache. -/
  | assign (p : P)
  /-- It calls `record_fill`, up to the commit. -/
  | fill (p : P) (failure : Option String) (ticker : String) (side : OrderSide) (quantity : ℚ)
  /-- It updates its cache. -/
  | update (p : P)
  /-- It ends, at any point. -/
  | stop (p : P)

/-- The part of `record_fill` up to the commit. A fill that raises leaves the
process and the table. -/
def commitFill (s : State P) (p : P) (failure : Option String) (ticker : String)
    (side : OrderSide) (quantity : ℚ) : State P :=
  if isBlank ticker=true then s
  else if quantity≤0 then s
  else
    let applied := applyDelta s.table failure ticker (signed side quantity)
    match applied.1 with
    | .error _ => {s with table := applied.2}
    | .ok newQty =>
      {s.set p {s.process p with stage := .committed ticker newQty} with table := applied.2}

/-- One step, if it is enabled. -/
def step (s : State P) : Event P→Option (State P)
  | .load p =>
    match (s.process p).stage with
    | .down => some (s.set p ⟨.hydrating (loadAll s.table),fun _ => none⟩)
    | _ => none
  | .assign p =>
    match (s.process p).stage with
    | .hydrating loaded =>
      some (s.set p ⟨.up,fun ticker => (loaded ticker).filter (fun quantity => 0<quantity)⟩)
    | _ => none
  | .fill p failure ticker side quantity =>
    match (s.process p).stage with
    | .up => some (commitFill s p failure ticker side quantity)
    | _ => none
  | .update p =>
    match (s.process p).stage with
    | .committed ticker newQty =>
      some (s.set p ⟨.up,Function.update (s.process p).cache ticker
        (if newQty=0 then none else some newQty)⟩)
    | _ => none
  | .stop p => some (s.set p ⟨.down,fun _ => none⟩)

/-- `get_positions` of a process. -/
def getPositions (s : State P) (p : P) (ticker : String) : Option ℚ :=
  ((s.process p).cache ticker).filter (fun quantity => quantity≠0)

/-- When no call is in flight, every running process reports the stored
positions. -/
def CachesAgree (s : State P) : Prop :=
  (∀ p,(s.process p).stage.inFlight=false)→
    ∀ p,(s.process p).stage.isDown=false→ getPositions s p=loadAll s.table

/-- A fill is not refused and reaches its commit. -/
def commits (table : Ledger) (failure : Option String) (ticker : String) (side : OrderSide)
    (quantity : ℚ) : Bool :=
  !isBlank ticker && decide (0<quantity) &&
    (applyDelta table failure ticker (signed side quantity)).1.isOk

/-- A fill is committed while no other process runs. -/
def FillsAlone (s : State P) : Event P→Prop
  | .fill p failure ticker side quantity =>
    commits s.table failure ticker side quantity=true→∀ q,q≠p→(s.process q).stage.isDown=true
  | _ => True

instance [Fintype P] (s : State P) (e : Event P) : Decidable (FillsAlone s e) :=
  match e with
  | .fill p failure ticker side quantity =>
    inferInstanceAs (Decidable (commits s.table failure ticker side quantity=true→
      ∀ q,q≠p→(s.process q).stage.isDown=true))
  | .load _ => .isTrue trivial
  | .assign _ => .isTrue trivial
  | .update _ => .isTrue trivial
  | .stop _ => .isTrue trivial

/-- What a process knows about a table. -/
def Knows (table : Ledger) (process : Process) : Prop :=
  match process.stage with
  | .down => True
  | .hydrating loaded => loaded=loadAll table
  | .up => process.cache=loadAll table
  | .committed ticker newQty =>
    Function.update process.cache ticker (if newQty=0 then none else some newQty)=loadAll table

/-- A process that changes knows the table, the others do as before. -/
theorem knows_set {s : State P} {p : P} {process : Process}
    (h : ∀ q,Knows s.table (s.process q)) (hp : Knows s.table process) :
    ∀ q,Knows (s.set p process).table ((s.set p process).process q) := by
  intro q
  by_cases hq : q=p
  · rw [hq]
    simpa [State.set] using hp
  · simpa [State.set,hq] using h q

/-- A fill by the only running process leaves it with the new quantity in
flight. -/
theorem knows_commitFill {s : State P} {p : P} (h : ∀ q,Knows s.table (s.process q))
    (hup : (s.process p).stage=.up) {failure : Option String} {ticker : String}
    {side : OrderSide} {quantity : ℚ}
    (halone : commits s.table failure ticker side quantity=true→
      ∀ q,q≠p→(s.process q).stage.isDown=true) :
    ∀ q,Knows (commitFill s p failure ticker side quantity).table
      ((commitFill s p failure ticker side quantity).process q) := by
  unfold commitFill
  by_cases hblank : isBlank ticker=true
  · rw [if_pos hblank]
    exact h
  · rw [if_neg hblank]
    by_cases hquantity : quantity≤0
    · rw [if_pos hquantity]
      exact h
    · rw [if_neg hquantity]
      dsimp only
      obtain ⟨error,herror,htable⟩ | ⟨newQty,hok,_,htable⟩ :=
        applyDelta_spec s.table failure ticker (signed side quantity)
      · rw [herror,htable]
        exact h
      · have hcommits : commits s.table failure ticker side quantity=true := by
          unfold commits
          rw [Bool.eq_false_iff.mpr hblank,decide_eq_true (not_le.mp hquantity),hok]
          rfl
        rw [hok]
        intro q
        by_cases hq : q=p
        · have hcache : (s.process p).cache=s.table.positions := by
            have hknows := h p
            unfold Knows at hknows
            rw [hup] at hknows
            rw [← loadAll_eq]
            exact hknows
          rw [hq]
          simp only [State.set,Function.update_self,Knows]
          rw [loadAll_eq,htable,hcache]
        · have hdown : (s.process q).stage=.down := by
            have hisDown := halone hcommits q hq
            cases hstage : (s.process q).stage with
            | down => rfl
            | _ =>
              rw [hstage] at hisDown
              cases hisDown
          simp only [State.set,ne_eq,hq,not_false_eq_true,Function.update_of_ne,Knows,hdown]

/-- A step in which commits are alone keeps every process informed. -/
theorem knows_step {s s' : State P} {e : Event P} (h : ∀ q,Knows s.table (s.process q))
    (halone : FillsAlone s e) (hs : step s e=some s') : ∀ q,Knows s'.table (s'.process q) := by
  cases e with
  | load p =>
    unfold step at hs
    dsimp only at hs
    split at hs
    · cases hs
      exact knows_set h rfl
    · cases hs
  | assign p =>
    unfold step at hs
    dsimp only at hs
    split at hs
    · rename_i loaded hstage
      cases hs
      have hloaded : loaded=loadAll s.table := by
        have hknows := h p
        unfold Knows at hknows
        rw [hstage] at hknows
        exact hknows
      refine knows_set h ?_
      rw [hloaded]
      exact synced_hydrate ⟨fun _ => none,s.table,false⟩
    · cases hs
  | fill p failure ticker side quantity =>
    unfold step at hs
    dsimp only at hs
    split at hs
    · rename_i hstage
      cases hs
      exact knows_commitFill h hstage halone
    · cases hs
  | update p =>
    unfold step at hs
    dsimp only at hs
    split at hs
    · rename_i ticker newQty hstage
      cases hs
      refine knows_set h ?_
      have hknows := h p
      unfold Knows at hknows
      rw [hstage] at hknows
      exact hknows
    · cases hs
  | stop p =>
    cases hs
    exact knows_set h trivial

/-- In every run whose fills are committed while no other process runs, every
running process reports the stored positions whenever no call is in flight. -/
theorem caches_agree {table : Ledger} {s : State P}
    (h : Reaches step FillsAlone (State.start P table) s) : CachesAgree s := by
  have hknows : ∀ q,Knows s.table (s.process q) := by
    refine h.invariant (P := fun s : State P => ∀ q,Knows s.table (s.process q)) ?_ ?_
    · intro q
      trivial
    · intro s e s' _ hs halone hstep
      exact knows_step hs halone hstep
  intro hquiet p hrunning
  have hcache : (s.process p).cache=s.table.positions := by
    have hp := hknows p
    have hflight := hquiet p
    unfold Knows at hp
    cases hstage : (s.process p).stage with
    | up =>
      rw [hstage] at hp
      exact hp.trans (loadAll_eq s.table)
    | down =>
      rw [hstage] at hrunning
      cases hrunning
    | hydrating loaded =>
      rw [hstage] at hflight
      cases hflight
    | committed ticker newQty =>
      rw [hstage] at hflight
      cases hflight
  rw [loadAll_eq]
  unfold getPositions
  rw [hcache]
  exact s.table.getPositions_eq

/-- One process fills and ends, then two processes start. -/
theorem caches_agree_restart :
    ∃ s : State Bool,Reaches step FillsAlone (State.start Bool Ledger.empty) s ∧ CachesAgree s ∧
      getPositions s true "005930"=some 10 := by
  obtain ⟨s,_,hten,hrun⟩ := play_ends step FillsAlone (State.start Bool Ledger.empty)
    (fun s => getPositions s true "005930"=some 10)
    [.load false,.assign false,.fill false none "005930" .buy 10,.update false,.stop false,
      .load true,.load false,.assign true,.assign false] (by decide +kernel)
  exact ⟨s,hrun,caches_agree hrun,hten⟩

/-- Two processes run, one of them fills, and the other does not see it. -/
theorem other_process_stale :
    ¬∀ s : State Bool,Reaches step (fun _ _ => True) (State.start Bool Ledger.empty) s→
      CachesAgree s := by
  intro hall
  obtain ⟨s,_,hstale,hrun⟩ := play_ends step (fun _ _ => True) (State.start Bool Ledger.empty)
    (fun s => (∀ p,(s.process p).stage.inFlight=false) ∧ (s.process true).stage.isDown=false ∧
      getPositions s true "005930"≠loadAll s.table "005930")
    [.load false,.assign false,.load true,.assign true,.fill false none "005930" .buy 10,
      .update false] (by decide +kernel)
  exact hstale.2.2 (congrFun (hall s hrun hstale.1 true hstale.2.1) "005930")

end Aqts.LedgerProcesses
