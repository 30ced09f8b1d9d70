import Aqts.PortfolioLedger

/-!
# The ledger with its repository

`PortfolioLedger` in one process: the cached positions and the table of the
repository, which commits before the cache follows. A call returns its outcome
with the state it leaves, so that what a raising call leaves behind is visible.
The table keeps positive quantities only, as the in-memory ledger does, and the
two are compared call by call.
-/

namespace Aqts.LedgerPersistence

open OrderTypes PortfolioLedger

/-- `apply_delta` in one transaction; `failure` is the exception of a database
that does not commit. A quantity of zero deletes the row. -/
def applyDelta (table : Ledger) (failure : Option String) (ticker : String) (delta : ℚ) :
    Except LedgerError ℚ×Ledger :=
  match failure with
  | some text => (.error (.repository text),table)
  | none =>
    if h : table.position ticker+delta<0 then
      (.error (.refused ticker (table.position ticker) delta),table)
    else
      (.ok (table.position ticker+delta),
        table.put ticker (table.position ticker+delta) (not_lt.mp h))

/-- `load_all`. -/
def loadAll (table : Ledger) (ticker : String) : Option ℚ :=
  (table.positions ticker).filter (fun quantity => 0<quantity)

/-- A ledger with its repository. -/
structure LedgerState where
  /-- `_positions`. -/
  cache : String→Option ℚ
  /-- `portfolio_positions`. -/
  table : Ledger
  /-- `_hydrated`. -/
  isHydrated : Bool

/-- `PortfolioLedger(repository)`. -/
def LedgerState.new (table : Ledger) : LedgerState := ⟨fun _ => none,table,false⟩

/-- `hydrate`. -/
def hydrate (failure : Option String) (s : LedgerState) : Except LedgerError Unit×LedgerState :=
  match failure with
  | some text => (.error (.repository text),s)
  | none =>
    (.ok (),{s with
      cache := fun ticker => (loadAll s.table ticker).filter (fun quantity => 0<quantity)
      isHydrated := true})

/-- `record_fill`: the repository first, then the cache. -/
def recordFill (failure : Option String) (ticker : String) (side : OrderSide) (quantity : ℚ)
    (s : LedgerState) : Except LedgerError Unit×LedgerState :=
  if isBlank ticker=true then (.error .blankTicker,s)
  else if quantity≤0 then (.error (.quantityNotPositive quantity),s)
  else
    let applied := applyDelta s.table failure ticker (signed side quantity)
    match applied.1 with
    | .error error => (.error error,{s with table := applied.2})
    | .ok newQty =>
      (.ok (),{s with
        table := applied.2
        cache := Function.update s.cache ticker (if newQty=0 then none else some newQty)})

/-- `get_positions`. -/
def getPositions (s : LedgerState) (ticker : String) : Option ℚ :=
  (s.cache ticker).filter (fun quantity => quantity≠0)

/-- Calls of a process, with the failure of the repository. -/
inductive Call
  /-- `hydrate`. -/
  | hydrate (failure : Option String)
  /-- `record_fill`. -/
  | recordFill (failure : Option String) (ticker : String) (side : OrderSide) (quantity : ℚ)
  deriving DecidableEq

/-- The failure of the repository in a call. -/
def Call.failure : Call→Option String
  | .hydrate failure => failure
  | .recordFill failure _ _ _ => failure

/-- A call on the ledger with its repository. -/
def perform (s : LedgerState) : Call→Except LedgerError Unit×LedgerState
  | .hydrate failure => hydrate failure s
  | .recordFill failure ticker side quantity => recordFill failure ticker side quantity s

/-- A call on the ledger without a repository. -/
def performMemory (ledger : Ledger) : Call→Except LedgerError Unit×Ledger
  | .hydrate _ => (.ok (),ledger)
  | .recordFill _ ticker side quantity =>
    match ledger.recordFill none ticker side quantity with
    | .ok ledger' => (.ok (),ledger')
    | .error error => (.error error,ledger)

/-- The outcomes of a sequence of calls, and the state at its end. -/
def runCalls {S : Type} (perform : S→ Call→Except LedgerError Unit×S) :
    S→List Call→List (Except LedgerError Unit)×S
  | s,[] => ([],s)
  | s,call::calls =>
    let rest := runCalls perform (perform s call).2 calls
    ((perform s call).1::rest.1,rest.2)

/-- What every call preserves holds at the end of every sequence. -/
theorem runCalls_invariant {S : Type} {perform : S→ Call→Except LedgerError Unit×S} {P : S→Prop}
    (hstep : ∀ s call,P s→P (perform s call).2) {s : S} (hs : P s) (calls : List Call) :
    P (runCalls perform s calls).2 := by
  induction calls generalizing s with
  | nil => exact hs
  | cons call calls ih => exact ih (hstep s call hs)

/-- The update of the repository: an exception leaves the table, and a new
quantity is not negative and is what the table holds. -/
theorem applyDelta_spec (table : Ledger) (failure : Option String) (ticker : String) (delta : ℚ) :
    (∃ error,(applyDelta table failure ticker delta).1=.error error ∧
      (applyDelta table failure ticker delta).2=table) ∨
    ∃ newQty,(applyDelta table failure ticker delta).1=.ok newQty ∧ 0≤newQty ∧
      (applyDelta table failure ticker delta).2.positions=
        Function.update table.positions ticker (if newQty=0 then none else some newQty) := by
  unfold applyDelta
  cases failure with
  | some text => exact .inl ⟨_,rfl,rfl⟩
  | none =>
    dsimp only
    by_cases hneg : table.position ticker+delta<0
    · rw [dif_pos hneg]
      exact .inl ⟨_,rfl,rfl⟩
    · rw [dif_neg hneg]
      exact .inr ⟨_,rfl,not_lt.mp hneg,rfl⟩

/-- The outcome of a fill: an exception that leaves the ledger as it was, or the
same new quantity in the table and in the cache. -/
theorem recordFill_spec (failure : Option String) (ticker : String) (side : OrderSide)
    (quantity : ℚ) (s : LedgerState) :
    (∃ error,recordFill failure ticker side quantity s=(.error error,s)) ∨
    ∃ newQty s',recordFill failure ticker side quantity s=(.ok (),s') ∧ 0≤newQty ∧
      s'.cache=Function.update s.cache ticker (if newQty=0 then none else some newQty) ∧
      s'.table.positions=
        Function.update s.table.positions ticker (if newQty=0 then none else some newQty) := by
  unfold recordFill
  by_cases hblank : isBlank ticker=true
  · rw [if_pos hblank]
    exact .inl ⟨_,rfl⟩
  · rw [if_neg hblank]
    by_cases hq : quantity≤0
    · rw [if_pos hq]
      exact .inl ⟨_,rfl⟩
    · rw [if_neg hq]
      dsimp only
      obtain ⟨error,herror,htable⟩ | ⟨newQty,hok,hpos,htable⟩ :=
        applyDelta_spec s.table failure ticker (signed side quantity)
      · rw [herror,htable]
        exact .inl ⟨error,rfl⟩
      · rw [hok]
        exact .inr ⟨newQty,_,rfl,hpos,rfl,htable⟩

/-- A call that raises leaves the cache and the table. -/
theorem perform_raises {s : LedgerState} {call : Call} {error : LedgerError}
    (h : (perform s call).1=.error error) : (perform s call).2=s := by
  cases call with
  | hydrate failure =>
    cases failure with
    | some text => rfl
    | none => cases h
  | recordFill failure ticker side quantity =>
    obtain ⟨other,hrun⟩ | ⟨newQty,s',hrun,_⟩ := recordFill_spec failure ticker side quantity s
    · exact congrArg Prod.snd hrun
    · have hok : (perform s (.recordFill failure ticker side quantity)).1=.ok () :=
        congrArg Prod.fst hrun
      rw [hok] at h
      cases h

/-- The cache is what the repository loads. -/
def Synced (s : LedgerState) : Prop := s.cache=loadAll s.table

/-- The repository loads every row, since its quantities are positive. -/
theorem loadAll_eq (table : Ledger) : loadAll table=table.positions := by
  funext ticker
  unfold loadAll
  cases h : table.positions ticker with
  | none => rfl
  | some quantity => simp [Option.filter,table.positive ticker quantity h]

/-- A hydrate that succeeds makes the cache agree with the repository. -/
theorem synced_hydrate (s : LedgerState) : Synced (perform s (.hydrate none)).2 := by
  have hfilter : (fun ticker => (loadAll s.table ticker).filter (fun quantity => 0<quantity))=
      loadAll s.table := by
    rw [loadAll_eq]
    exact loadAll_eq s.table
  exact hfilter

/-- No call makes the cache disagree with the repository. -/
theorem Synced.perform {s : LedgerState} (h : Synced s) (call : Call) :
    Synced (perform s call).2 := by
  cases call with
  | hydrate failure =>
    cases failure with
    | some text => exact h
    | none => exact synced_hydrate s
  | recordFill failure ticker side quantity =>
    obtain ⟨error,hrun⟩ | ⟨newQty,s',hrun,_,hcache,htable⟩ :=
      recordFill_spec failure ticker side quantity s
    · have hsame : (LedgerPersistence.perform s (.recordFill failure ticker side quantity)).2=s :=
        congrArg Prod.snd hrun
      rw [hsame]
      exact h
    · have hnew : (LedgerPersistence.perform s (.recordFill failure ticker side quantity)).2=s' :=
        congrArg Prod.snd hrun
      unfold Synced at h ⊢
      rw [loadAll_eq] at h ⊢
      rw [hnew,hcache,htable,h]

/-- Every cached quantity is positive. -/
def CachePositive (s : LedgerState) : Prop := ∀ ticker quantity,s.cache ticker=some quantity→0<quantity

/-- No call caches a quantity that is not positive. -/
theorem CachePositive.perform {s : LedgerState} (h : CachePositive s) (call : Call) :
    CachePositive (perform s call).2 := by
  cases call with
  | hydrate failure =>
    cases failure with
    | some text => exact h
    | none =>
      intro ticker quantity hcached
      have hloaded : s.table.positions ticker=some quantity := by
        have hsynced := congrFun (synced_hydrate s) ticker
        rw [hcached,loadAll_eq] at hsynced
        exact hsynced.symm
      exact s.table.positive ticker quantity hloaded
  | recordFill failure ticker side quantity =>
    obtain ⟨error,hrun⟩ | ⟨newQty,s',hrun,hpos,hcache,_⟩ :=
      recordFill_spec failure ticker side quantity s
    · have hsame : (LedgerPersistence.perform s (.recordFill failure ticker side quantity)).2=s :=
        congrArg Prod.snd hrun
      rw [hsame]
      exact h
    · have hnew : (LedgerPersistence.perform s (.recordFill failure ticker side quantity)).2=s' :=
        congrArg Prod.snd hrun
      rw [hnew]
      intro other held hheld
      rw [hcache] at hheld
      by_cases heq : other=ticker
      · rw [heq,Function.update_self] at hheld
        split at hheld
        · cases hheld
        · rename_i hne
          rw [← Option.some.inj hheld]
          exact lt_of_le_of_ne hpos (Ne.symm hne)
      · rw [Function.update_of_ne heq] at hheld
        exact h other held hheld

/-- The positions returned are the cached ones. -/
theorem CachePositive.getPositions_eq {s : LedgerState} (h : CachePositive s) :
    getPositions s=s.cache := by
  funext ticker
  unfold getPositions
  cases hcached : s.cache ticker with
  | none => rfl
  | some quantity =>
    have hpos := h ticker quantity hcached
    simp [Option.filter,hpos.ne']

/-- A call whose repository does not fail has the outcome of the ledger in
memory, and leaves the table as that ledger. -/
theorem performMemory_eq (s : LedgerState) {call : Call} (h : call.failure=none) :
    performMemory s.table call=((perform s call).1,(perform s call).2.table) := by
  cases call with
  | hydrate failure =>
    have hnone : failure=none := h
    rw [hnone]
    rfl
  | recordFill failure ticker side quantity =>
    have hnone : failure=none := h
    rw [hnone]
    dsimp only [performMemory,perform]
    unfold Ledger.recordFill recordFill applyDelta
    by_cases hblank : isBlank ticker=true
    · rw [if_pos hblank,if_pos hblank]
    · rw [if_neg hblank,if_neg hblank]
      by_cases hq : quantity≤0
      · rw [if_pos hq,if_pos hq]
      · rw [if_neg hq,if_neg hq]
        dsimp only
        by_cases hneg : s.table.position ticker+signed side quantity<0
        · rw [dif_pos hneg,dif_pos hneg]
        · rw [dif_neg hneg,dif_neg hneg]

/-- A sequence without failures runs as in memory. -/
theorem runCalls_memory (s : LedgerState) {calls : List Call}
    (h : ∀ call∈calls,call.failure=none) :
    runCalls performMemory s.table calls=
      ((runCalls perform s calls).1,(runCalls perform s calls).2.table) := by
  induction calls generalizing s with
  | nil => rfl
  | cons call calls ih =>
    have hfirst := performMemory_eq s (h call List.mem_cons_self)
    have hrest := ih (perform s call).2 fun other ho => h other (List.mem_cons_of_mem call ho)
    dsimp only [runCalls]
    rw [hfirst,hrest]

/-- A sequence runs in two parts. -/
theorem runCalls_append {S : Type} (perform : S→ Call→Except LedgerError Unit×S) (s : S)
    (before after : List Call) :
    (runCalls perform s (before++after)).2=
      (runCalls perform (runCalls perform s before).2 after).2 := by
  induction before generalizing s with
  | nil => rfl
  | cons call before ih => exact ih (perform s call).2

/-- The cache agrees with the repository once the table was empty at the start,
or after a hydrate that succeeded. -/
theorem synced_run {table : Ledger} {calls : List Call}
    (h : table=Ledger.empty ∨ Call.hydrate none∈calls) :
    Synced (runCalls perform (.new table) calls).2 := by
  obtain hempty | hmem := h
  · refine runCalls_invariant (fun s call hs => hs.perform call) ?_ calls
    rw [hempty]
    unfold Synced
    rw [loadAll_eq]
    rfl
  · obtain ⟨before,after,hsplit⟩ := List.append_of_mem hmem
    rw [hsplit,runCalls_append]
    exact runCalls_invariant (fun s call hs => hs.perform call) (synced_hydrate _) after

/-- After any calls with any failures: the cache is what the repository holds, if
the table was empty at the start or a hydrate has succeeded; cached quantities
are positive and are the positions returned; a call that raises leaves cache and
table; and without failures the calls have the outcomes and the positions of the
ledger in memory. -/
theorem ledger_follows_repository (table : Ledger) (calls : List Call) :
    (table=Ledger.empty ∨ Call.hydrate none∈calls→
      (runCalls perform (.new table) calls).2.cache=
        loadAll (runCalls perform (.new table) calls).2.table) ∧
    (∀ ticker quantity,(runCalls perform (.new table) calls).2.cache ticker=some quantity→
      0<quantity) ∧
    getPositions (runCalls perform (.new table) calls).2=
      (runCalls perform (.new table) calls).2.cache ∧
    (∀ call error,(perform (runCalls perform (.new table) calls).2 call).1=.error error→
      (perform (runCalls perform (.new table) calls).2 call).2=
        (runCalls perform (.new table) calls).2) ∧
    ((∀ call∈calls,call.failure=none)→
      (runCalls performMemory table calls).1=(runCalls perform (.new table) calls).1 ∧
      (runCalls performMemory table calls).2=(runCalls perform (.new table) calls).2.table) := by
  have hpositive : CachePositive (runCalls perform (.new table) calls).2 := by
    refine runCalls_invariant (fun s call hs => hs.perform call) ?_ calls
    intro ticker quantity hcached
    cases hcached
  refine ⟨synced_run,hpositive,hpositive.getPositions_eq,fun call error => perform_raises,?_⟩
  intro hnone
  have hmemory := runCalls_memory (.new table) hnone
  exact ⟨congrArg Prod.fst hmemory,congrArg Prod.snd hmemory⟩

/-- A table with five shares of one ticker. -/
def fiveShares : Ledger := Ledger.empty.put "005930" 5 (by decide +kernel)

/-- A ledger that is hydrated, refuses to sell six shares and sells five. -/
theorem ledger_follows_repository_sale :
    (runCalls perform (.new fiveShares)
        [.hydrate none,.recordFill none "005930" .sell 6,.recordFill none "005930" .sell 5]).2.cache=
      loadAll (runCalls perform (.new fiveShares) [.hydrate none,.recordFill none "005930" .sell 6,
        .recordFill none "005930" .sell 5]).2.table :=
  (ledger_follows_repository fiveShares _).1 (.inr (by decide))

/-- A ledger that was never hydrated does not know the shares of the table, and a
failure of the repository refuses a fill that the ledger in memory accepts. -/
theorem unhydrated_cache_differs :
    (¬∀ (table : Ledger) (calls : List Call),
      (runCalls perform (.new table) calls).2.cache=
        loadAll (runCalls perform (.new table) calls).2.table) ∧
    ¬∀ calls : List Call,(runCalls performMemory Ledger.empty calls).1=
      (runCalls perform (.new Ledger.empty) calls).1 := by
  constructor
  · intro hall
    have hshares := congrFun (hall fiveShares [.recordFill none "000660" .buy 1]) "005930"
    revert hshares
    decide +kernel
  · intro hall
    have houtcomes := hall [.recordFill (some "connection refused") "005930" .buy 1]
    revert houtcomes
    decide +kernel

end Aqts.LedgerPersistence
