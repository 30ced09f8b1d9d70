import Aqts.GuardedRuns
import Mathlib.Data.Finset.Basic
import Mathlib.Data.Fintype.Basic
import Mathlib.Data.List.Sort
import Mathlib.Logic.Function.Basic

/-!
# Walk-forward jobs

`OOSJobManager` with the requests of `POST /oos/run`. A request looks for a run
with its parameters on the event loop and once more in a worker thread; then the
engine runs, and only its result is registered, first under its id and then
under the hash of the parameters. Requests that overlap do not see each other.

Both dictionaries change in single operations of the interpreter. A registered
run is never changed, so looking it up in the two of them is one step.
-/

namespace Aqts.OosJobs

open GuardedRuns

/-- The parameters of a request. -/
structure Params where
  /-- `strategy_version`. -/
  strategyVersion : String
  /-- `train_months`. -/
  trainMonths : ℤ
  /-- `test_months`. -/
  testMonths : ℤ
  /-- `tickers`. -/
  tickers : List String
deriving DecidableEq

/-- What is to identify a run: the parameters with the set of the tickers. -/
def Params.identity (p : Params) : String×ℤ×ℤ×Finset String :=
  (p.strategyVersion,p.trainMonths,p.testMonths,p.tickers.toFinset)

/-- The parameters as they are hashed, with the list of tickers sorted. -/
def Params.key (p : Params) : Params :=
  {p with tickers := p.tickers.insertionSort fun a b => a≤b}

/-- `OOSStatus`. -/
inductive OosStatus
  /-- Not started. -/
  | pending
  /-- Running. -/
  | running
  /-- The gates are passed. -/
  | pass
  /-- The gates ask for a review. -/
  | review
  /-- A gate failed. -/
  | fail
  /-- The run had an error. -/
  | error
deriving DecidableEq

/-- The states of a run that the engine returns. -/
inductive EngineResult
  /-- `PASS`. -/
  | pass
  /-- `REVIEW`. -/
  | review
  /-- `FAIL`. -/
  | fail
  /-- `ERROR`. -/
  | error
deriving DecidableEq

/-- The status of a returned run. -/
def EngineResult.status : EngineResult→OosStatus
  | .pass => .pass
  | .review => .review
  | .fail => .fail
  | .error => .error

/-- The run ended in `FAIL` or `ERROR`. -/
def EngineResult.failed : EngineResult→Bool
  | .fail => true
  | .error => true
  | _ => false

/-- The statuses of a run that `find_existing_run` returns. -/
def OosStatus.reusable (status : OosStatus) : Bool :=
  decide (status∈[.running,.pending,.pass,.review])

/-- Where a request is. -/
inductive Place (R : Type*)
  /-- It has not come. -/
  | idle
  /-- On its way to a worker thread. -/
  | queued (p : Params)
  /-- In the engine, with the id of the run. -/
  | running (p : Params) (runId : R)
  /-- The engine has returned. -/
  | storing (p : Params) (runId : R) (result : EngineResult)
  /-- The run is stored under its id. -/
  | indexing (p : Params) (runId : R)
  /-- The request was answered with a run id. -/
  | answered (p : Params) (runId : R)
  /-- The engine raised, and the request was answered with an error. -/
  | refused (p : Params)
deriving DecidableEq

/-- The run that a request has started and not yet registered. -/
def Place.underWay {R : Type*} : Place R→Option (Params×R)
  | .running p runId => some (p,runId)
  | .storing p runId _ => some (p,runId)
  | .indexing p runId => some (p,runId)
  | _ => none

/-- The manager with its requests. -/
structure Manager (I R H : Type*) where
  /-- `_runs`, by the status. -/
  runs : R→Option OosStatus
  /-- `_param_index`. -/
  paramIndex : H→Option R
  /-- The requests. -/
  place : I→Place R
  /-- The parameters of the requests that have come. -/
  arrived : List Params
  /-- The starts of the engine, newest first. -/
  starts : List (Params×R)
  /-- The parameters of the runs that ended in `FAIL` or `ERROR` or raised. -/
  failures : List Params

/-- A new manager. -/
def Manager.init (I R H : Type*) : Manager I R H :=
  ⟨fun _ => none,fun _ => none,fun _ => .idle,[],[],[]⟩

/-- What a request does in one step. -/
inductive Event (I R : Type*)
  /-- The request comes and looks for a run. -/
  | arrive (i : I) (p : Params)
  /-- The worker thread looks for a run and starts the engine, which draws an id,
  if there is none. -/
  | check (i : I) (runId : R)
  /-- The engine returns. -/
  | finish (i : I) (result : EngineResult)
  /-- The engine raises. -/
  | raise (i : I)
  /-- The run is stored under its id. -/
  | store (i : I)
  /-- The id is stored under the hash of the parameters. -/
  | index (i : I)

variable {I R H : Type*}

section Functions

variable [DecidableEq I] [DecidableEq R] [DecidableEq H]

/-- `_compute_param_hash`, with the digest of the sorted parameters. -/
def computeParamHash (digest : Params→H) (p : Params) : H := digest p.key

/-- `find_existing_run`. -/
def findExistingRun (digest : Params→H) (s : Manager I R H) (p : Params) : Option R :=
  match s.paramIndex (computeParamHash digest p) with
  | none => none
  | some runId =>
    match s.runs runId with
    | none => none
    | some status => if status.reusable then some runId else none

/-- A request moves to a place. -/
def Manager.move (s : Manager I R H) (i : I) (place : Place R) : Manager I R H :=
  {s with place := Function.update s.place i place}

/-- A run of some parameters ends, as a failure or not. -/
def Manager.ended (s : Manager I R H) (p : Params) (failed : Bool) : Manager I R H :=
  {s with failures := if failed then p::s.failures else s.failures}

/-- One step of `create_oos_run` and `submit_run`. -/
def step (digest : Params→H) (s : Manager I R H) : Event I R→Option (Manager I R H)
  | .arrive i p =>
    match s.place i with
    | .idle =>
      match findExistingRun digest s p with
      | some runId => some {s.move i (.answered p runId) with arrived := p::s.arrived}
      | none => some {s.move i (.queued p) with arrived := p::s.arrived}
    | _ => none
  | .check i runId =>
    match s.place i with
    | .queued p =>
      match findExistingRun digest s p with
      | some existing => some (s.move i (.answered p existing))
      | none =>
        -- the engine draws a new id
        if runId∈s.starts.map Prod.snd then none
        else some {s.move i (.running p runId) with starts := (p,runId)::s.starts}
    | _ => none
  | .finish i result =>
    match s.place i with
    | .running p runId => some ((s.move i (.storing p runId result)).ended p result.failed)
    | _ => none
  | .raise i =>
    match s.place i with
    | .running p _ => some ((s.move i (.refused p)).ended p true)
    | _ => none
  | .store i =>
    match s.place i with
    | .storing p runId result =>
      some {s.move i (.indexing p runId) with
        runs := Function.update s.runs runId (some result.status)}
    | _ => none
  | .index i =>
    match s.place i with
    | .indexing p runId =>
      some {s.move i (.answered p runId) with
        paramIndex := Function.update s.paramIndex (computeParamHash digest p) (some runId)}
    | _ => none

end Functions

/-- No run with the parameters has ended in `FAIL` or `ERROR`. -/
def NoFailure (s : Manager I R H) (p : Params) : Prop :=
  ∀ q∈s.failures,q.identity≠p.identity

instance (s : Manager I R H) (p : Params) : Decidable (NoFailure s p) :=
  inferInstanceAs (Decidable (∀ q∈s.failures,q.identity≠p.identity))

/-- What the manager promises: as long as no run with some parameters has failed, the
engine has been started for them at most once, and every request with them that was
answered has the id of that run. -/
def StartedOnce (s : Manager I R H) : Prop :=
  ∀ p,NoFailure s p→
    s.starts.countP (fun start => decide (start.1.identity=p.identity))≤1 ∧
      ∀ i q runId,s.place i=.answered q runId→q.identity=p.identity→
        ∃ start∈s.starts,start.1.identity=p.identity ∧ start.2=runId

/-- The hash of a request tells its parameters from those of all requests before. -/
def HashTells (digest : Params→H) (s : Manager I R H) (p : Params) : Prop :=
  ∀ q∈s.arrived,computeParamHash digest q=computeParamHash digest p↔q.identity=p.identity

instance [DecidableEq H] (digest : Params→H) (s : Manager I R H) (p : Params) :
    Decidable (HashTells digest s p) :=
  inferInstanceAs (Decidable (∀ q∈s.arrived,_↔_))

/-- While no run with the parameters has failed, none is under way. -/
def NoneUnderWay (s : Manager I R H) (p : Params) : Prop :=
  NoFailure s p→∀ i,∀ run∈(s.place i).underWay,run.1.identity≠p.identity

/-- The parameters of a request. -/
def Place.params? : Place R→Option Params
  | .idle => none
  | .queued p => some p
  | .running p _ => some p
  | .storing p _ _ => some p
  | .indexing p _ => some p
  | .answered p _ => some p
  | .refused p => some p

variable [DecidableEq I] [DecidableEq R] [DecidableEq H] {digest : Params→H}
  {s s' t : Manager I R H}

/-- A check of a request at a place finds a registered run or none under way. -/
def CheckAlone (digest : Params→H) (s : Manager I R H) : Place R→Prop
  | .queued p => findExistingRun digest s p=none→NoneUnderWay s p
  | _ => True

/-- Every hash tells the parameters of a request from those before, and a check that
starts the engine finds no run with the parameters under way, unless one has
failed. -/
def Apart (digest : Params→H) (s : Manager I R H) : Event I R→Prop
  | .arrive _ p => HashTells digest s p
  | .check i _ => CheckAlone digest s (s.place i)
  | _ => True

instance [Fintype I] (s : Manager I R H) (p : Params) : Decidable (NoneUnderWay s p) :=
  inferInstanceAs (Decidable (_→_))

instance [Fintype I] (digest : Params→H) (s : Manager I R H) (place : Place R) :
    Decidable (CheckAlone digest s place) :=
  match place with
  | .queued p => inferInstanceAs (Decidable (findExistingRun digest s p=none→NoneUnderWay s p))
  | .idle => .isTrue trivial
  | .running _ _ => .isTrue trivial
  | .storing _ _ _ => .isTrue trivial
  | .indexing _ _ => .isTrue trivial
  | .answered _ _ => .isTrue trivial
  | .refused _ => .isTrue trivial

instance [Fintype I] (digest : Params→H) (s : Manager I R H) (e : Event I R) :
    Decidable (Apart digest s e) :=
  match e with
  | .arrive _ p => inferInstanceAs (Decidable (HashTells digest s p))
  | .check i _ => inferInstanceAs (Decidable (CheckAlone digest s (s.place i)))
  | .finish _ _ => .isTrue trivial
  | .raise _ => .isTrue trivial
  | .store _ => .isTrue trivial
  | .index _ => .isTrue trivial

/-- What a step does, with what the guard says of it. -/
inductive Move (digest : Params→H) (s : Manager I R H) : Manager I R H→Prop
  /-- A request comes and finds a run. -/
  | found (i : I) (p : Params) (runId : R) (hplace : s.place i=.idle)
      (hfind : findExistingRun digest s p=some runId) (htells : HashTells digest s p) :
      Move digest s {s.move i (.answered p runId) with arrived := p::s.arrived}
  /-- A request comes and finds none. -/
  | queued (i : I) (p : Params) (hplace : s.place i=.idle) (htells : HashTells digest s p) :
      Move digest s {s.move i (.queued p) with arrived := p::s.arrived}
  /-- A worker thread finds a run. -/
  | joined (i : I) (p : Params) (runId : R) (hplace : s.place i=.queued p)
      (hfind : findExistingRun digest s p=some runId) : Move digest s (s.move i (.answered p runId))
  /-- A worker thread starts the engine. -/
  | started (i : I) (p : Params) (runId : R) (hplace : s.place i=.queued p)
      (hfind : findExistingRun digest s p=none) (hnone : NoneUnderWay s p)
      (hnew : runId∉s.starts.map Prod.snd) :
      Move digest s {s.move i (.running p runId) with starts := (p,runId)::s.starts}
  /-- The engine returns. -/
  | finished (i : I) (p : Params) (runId : R) (result : EngineResult)
      (hplace : s.place i=.running p runId) :
      Move digest s ((s.move i (.storing p runId result)).ended p result.failed)
  /-- The engine raises. -/
  | raised (i : I) (p : Params) (runId : R) (hplace : s.place i=.running p runId) :
      Move digest s ((s.move i (.refused p)).ended p true)
  /-- A run is stored. -/
  | stored (i : I) (p : Params) (runId : R) (result : EngineResult)
      (hplace : s.place i=.storing p runId result) :
      Move digest s {s.move i (.indexing p runId) with
        runs := Function.update s.runs runId (some result.status)}
  /-- A run is found from now on. -/
  | indexed (i : I) (p : Params) (runId : R) (hplace : s.place i=.indexing p runId) :
      Move digest s {s.move i (.answered p runId) with
        paramIndex := Function.update s.paramIndex (computeParamHash digest p) (some runId)}

/-- Every step that meets the guard is one of the moves. -/
theorem move_of_step {e : Event I R} (ha : Apart digest s e) (hs : step digest s e=some s') :
    Move digest s s' := by
  cases e with
  | arrive i p =>
    unfold step at hs
    dsimp only at hs
    split at hs
    · rename_i hplace
      cases hfind : findExistingRun digest s p with
      | some runId =>
        rw [hfind] at hs
        obtain rfl := Option.some.inj hs
        exact .found i p runId hplace hfind ha
      | none =>
        rw [hfind] at hs
        obtain rfl := Option.some.inj hs
        exact .queued i p hplace ha
    · cases hs
  | check i runId =>
    unfold step at hs
    unfold Apart at ha
    dsimp only at hs ha
    split at hs
    · rename_i p hplace
      rw [hplace] at ha
      cases hfind : findExistingRun digest s p with
      | some existing =>
        rw [hfind] at hs
        obtain rfl := Option.some.inj hs
        exact .joined i p existing hplace hfind
      | none =>
        rw [hfind] at hs
        dsimp only at hs
        by_cases hnew : runId∈s.starts.map Prod.snd
        · rw [if_pos hnew] at hs
          cases hs
        · rw [if_neg hnew] at hs
          obtain rfl := Option.some.inj hs
          exact .started i p runId hplace hfind (ha hfind) hnew
    · cases hs
  | finish i result =>
    unfold step at hs
    dsimp only at hs
    split at hs
    · rename_i p runId hplace
      obtain rfl := Option.some.inj hs
      exact .finished i p runId result hplace
    · cases hs
  | raise i =>
    unfold step at hs
    dsimp only at hs
    split at hs
    · rename_i p runId hplace
      obtain rfl := Option.some.inj hs
      exact .raised i p runId hplace
    · cases hs
  | store i =>
    unfold step at hs
    dsimp only at hs
    split at hs
    · rename_i p runId result hplace
      obtain rfl := Option.some.inj hs
      exact .stored i p runId result hplace
    · cases hs
  | index i =>
    unfold step at hs
    dsimp only at hs
    split at hs
    · rename_i p runId hplace
      obtain rfl := Option.some.inj hs
      exact .indexed i p runId hplace
    · cases hs

end Aqts.OosJobs
