import Aqts.GuardedRuns
import Aqts.IdempotencyStore
import Aqts.OrderTypes
import Mathlib.Data.Fintype.Basic

/-!
# Concurrent create_order requests on one idempotency key

The route `create_order` as a step system. Any number of requests with the
same user, route and idempotency key run against one store; a step is one
store command, one audit write, one executor event or a clock change, so a
run is any interleaving of the requests. Every error path of the route is a
branch of the step function. The fields that name the writer of the stored
entry, the claim and start instants and the logs are history variables: no
step of the route reads them.
-/

namespace Aqts.CreateOrder

open ExpiringSlot IdempotencyStore OrderTypes

/-- Body of `POST /api/orders` (`OrderCreateRequest`). -/
structure OrderCreateRequest where
  /-- Ticker symbol. -/
  ticker : String
  /-- Market text. -/
  market : String
  /-- Side text. -/
  side : String
  /-- Requested quantity. -/
  quantity : ℤ
  /-- Order type text. -/
  orderType : String
  /-- Limit price, if any. -/
  limitPrice : Option ℚ
  /-- Reason, if any. -/
  reason : Option String
  deriving DecidableEq

/-- Response body of the route. -/
abbrev Body := ApiResponse OrderResponse

/-- An `HTTPException` raised by the route. -/
structure HttpError where
  /-- HTTP status. -/
  statusCode : ℕ
  /-- Machine-readable code. -/
  errorCode : String
  /-- Text for the client. -/
  message : String
  /-- `Retry-After` header in seconds. -/
  retryAfter : Option ℕ
  deriving DecidableEq

/-- `_raise_idempotency_http`: the HTTP error of each store exception. -/
def raiseIdempotencyHttp : StoreError→HttpError
  | .conflict _ => ⟨422,"IDEMPOTENCY_CONFLICT",
      "동일한 Idempotency-Key 로 서로 다른 요청이 감지되었습니다.",none⟩
  | .inProgress _ => ⟨409,"IDEMPOTENCY_IN_PROGRESS",
      "동일 Idempotency-Key 의 이전 요청이 아직 처리 중입니다.",none⟩
  | .unavailable _ => ⟨503,"IDEMPOTENCY_STORE_UNAVAILABLE",
      "주문 멱등성 저장소가 일시적으로 사용 불가합니다.",some 30⟩

/-- `_raise_audit_unavailable`. -/
def auditUnavailable : HttpError :=
  ⟨503,"AUDIT_UNAVAILABLE","감사 시스템 일시 장애로 주문이 차단되었습니다",some 30⟩

/-- How a request ends. -/
inductive Reply
  /-- The response of an order that this request executed. -/
  | executed (body : Body)
  /-- The stored response of an earlier request. -/
  | replayed (body : Body)
  /-- `success=False` with the text of the exception. -/
  | failed (message : String)
  /-- An HTTP error. -/
  | refused (error : HttpError)
  deriving DecidableEq

/-- Where a request is, named after what it does next or has just done. -/
inductive Phase
  /-- About to send the GET of `lookup`. -/
  | arrived
  /-- Inside `try_claim`, about to send a command. -/
  | claiming (command : ClaimCommand)
  /-- `try_claim` has returned; the pre-flight audit write is next. -/
  | claimed
  /-- The pre-flight audit is written; `execute_order` is next. -/
  | requested
  /-- Inside `execute_order`. -/
  | executing
  /-- `execute_order` returned; the audit write of the result is next. -/
  | executed (result : OrderResult)
  /-- The result is audited; the response is built next. -/
  | recorded (result : OrderResult)
  /-- The response is built; `store_result` is next. -/
  | responding (body : Body)
  /-- An error path, about to call `release_claim`. -/
  | releasing (reply : Reply)
  /-- `release_claim` has seen a marker and sends its DELETE next. -/
  | deleting (reply : Reply)
  /-- The request has answered. -/
  | finished (reply : Reply)
  deriving DecidableEq

/-- Between a normal return of `try_claim` and the end of the request's own
`store_result` or `release_claim`. -/
def Phase.inSection : Phase→Bool
  | .arrived => false
  | .claiming _ => false
  | .finished _ => false
  | _ => true

/-- How the environment answers the next action of a request. -/
inductive Outcome
  /-- The action succeeds. -/
  | ok
  /-- A backend error without effect, or a failed audit write. -/
  | fails
  /-- Redis applies the command but the client sees an error. -/
  | lost
  /-- `execute_order` returns a result. -/
  | returns (result : OrderResult)
  /-- A Python exception with its text. -/
  | raises (text : String)
  deriving DecidableEq

/-- The two single-tier stores. -/
inductive Backend
  | redis | memory
  deriving DecidableEq

/-- What stays fixed during a run of `n` requests. -/
structure Setting (n : ℕ) where
  /-- Lifetimes of the store. -/
  config : StoreConfig
  /-- Store behind the route. -/
  backend : Backend
  /-- Idempotency key shared by the requests. -/
  key : String
  /-- `compute_request_fingerprint`; nothing depends on how it hashes. -/
  fingerprint : OrderCreateRequest→String
  /-- Body of each request. -/
  body : Fin n→OrderCreateRequest

/-- Fingerprint of a request's body. -/
def Setting.fp {n : ℕ} (env : Setting n) (i : Fin n) : String := env.fingerprint (env.body i)

/-- What a move does besides changing the request's own phase. -/
inductive Effect
  /-- Nothing visible. -/
  | quiet
  /-- The GET of `lookup` was answered. -/
  | looked
  /-- A marker was written into a free key. -/
  | installed
  /-- `try_claim` returned because a result with the same fingerprint is stored. -/
  | entered
  /-- The result was written. -/
  | stored
  /-- `release_claim` deleted whatever the key held. -/
  | removed
  /-- `execute_order` was called. -/
  | began
  /-- `execute_order` returned a result. -/
  | returned
  deriving DecidableEq

/-- Result of one action of a request. -/
structure Move where
  /-- Next phase of the request. -/
  phase : Phase
  /-- Contents of the key afterwards. -/
  slot : Slot (Raw Body) ℚ
  /-- Visible effect. -/
  effect : Effect

variable {n : ℕ}

/-- Reply to a store exception. -/
def refuse (error : StoreError) : Phase := .finished (.refused (raiseIdempotencyHttp error))

/-- The GET of `lookup` and the replay branch after it. -/
def lookupMove (env : Setting n) (i : Fin n) (now : ℚ) (slot : Slot (Raw Body) ℚ) : Move :=
  match lookupRecord now slot with
  | none => ⟨.claiming .setNx,sweep now slot,.looked⟩
  | some existing =>
    if existing.fingerprint≠env.fp i then ⟨refuse (.conflict env.key),sweep now slot,.looked⟩
    else ⟨.finished (.replayed existing.body),sweep now slot,.looked⟩

/-- Continuation of the route after a command of `try_claim`. -/
def claimMove : ClaimOutcome×Slot (Raw Body) ℚ→Move
  | (.again command,slot) => ⟨.claiming command,slot,.quiet⟩
  | (.installed,slot) => ⟨.claimed,slot,.installed⟩
  | (.alreadyStored,slot) => ⟨.claimed,slot,.entered⟩
  | (.raised error,slot) => ⟨refuse error,slot,.quiet⟩

/-- A claim command applied by Redis whose answer never arrived. -/
def lostClaimMove (command : ClaimCommand) : ClaimOutcome×Slot (Raw Body) ℚ→Move
  | (.installed,slot) => ⟨refuse (.unavailable command.op),slot,.installed⟩
  | (_,slot) => ⟨refuse (.unavailable command.op),slot,.quiet⟩

/-- Response of an executed order, as returned and as stored. -/
def responseBody (body : OrderCreateRequest) (now : ℚ) (result : OrderResult) : Body :=
  ⟨true,some (orderResultToResponse result body.orderType (body.reason.getD "")),
    "주문이 실행되었습니다.",now⟩

/-- Reply of the generic exception handler. -/
def creationFailed (text : String) : Reply := .failed ("주문 생성 실패: "++text)

/-- The key after the request has stored its response with status 200. -/
def storedSlot (env : Setting n) (i : Fin n) (now : ℚ) (body : Body) : Slot (Raw Body) ℚ :=
  storeResult env.config now (env.fp i) 200 body

/-- One action of a request in a phase, for an outcome the environment can
give there. Other combinations are disabled. -/
def move (env : Setting n) (i : Fin n) (now : ℚ) (slot : Slot (Raw Body) ℚ) :
    Phase→Outcome→Option Move
  | .arrived,.ok => some (lookupMove env i now slot)
  | .arrived,.fails =>
    if env.backend=.redis then some ⟨refuse (.unavailable "lookup"),slot,.quiet⟩ else none
  | .claiming command,.ok =>
    match env.backend with
    | .redis => some (claimMove (claimCommand env.config now env.key (env.fp i) command slot))
    | .memory => some (claimMove (memoryTryClaim env.config now env.key (env.fp i) slot))
  | .claiming command,.fails =>
    if env.backend=.redis then some ⟨refuse (.unavailable command.op),slot,.quiet⟩ else none
  | .claiming command,.lost =>
    if env.backend=.redis then
      some (lostClaimMove command (claimCommand env.config now env.key (env.fp i) command slot))
    else none
  | .claimed,.ok => some ⟨.requested,slot,.quiet⟩
  | .claimed,.fails => some ⟨.releasing (.refused auditUnavailable),slot,.quiet⟩
  | .requested,.ok => some ⟨.executing,slot,.began⟩
  | .requested,.raises text => some ⟨.releasing (creationFailed text),slot,.quiet⟩
  | .executing,.returns result => some ⟨.executed result,slot,.returned⟩
  | .executing,.raises text => some ⟨.releasing (creationFailed text),slot,.quiet⟩
  | .executed result,.ok => some ⟨.recorded result,slot,.quiet⟩
  | .executed _,.fails => some ⟨.releasing (.refused auditUnavailable),slot,.quiet⟩
  | .recorded result,.ok =>
    some ⟨.responding (responseBody (env.body i) now result),slot,.quiet⟩
  | .recorded _,.raises text => some ⟨.releasing (creationFailed text),slot,.quiet⟩
  | .responding body,.ok => some ⟨.finished (.executed body),storedSlot env i now body,.stored⟩
  | .responding body,.fails =>
    if env.backend=.redis then some ⟨.finished (.executed body),slot,.quiet⟩ else none
  | .responding body,.lost =>
    if env.backend=.redis then
      some ⟨.finished (.executed body),storedSlot env i now body,.stored⟩
    else none
  | .releasing reply,.ok =>
    match env.backend with
    | .redis =>
      if releaseSeesMarker now slot=true then some ⟨.deleting reply,sweep now slot,.quiet⟩
      else some ⟨.finished reply,sweep now slot,.quiet⟩
    | .memory => some ⟨.finished reply,memoryReleaseClaim slot,.removed⟩
  | .releasing reply,.fails =>
    if env.backend=.redis then some ⟨.finished reply,slot,.quiet⟩ else none
  | .deleting reply,.ok => some ⟨.finished reply,none,.removed⟩
  | .deleting reply,.fails => some ⟨.finished reply,slot,.quiet⟩
  | .deleting reply,.lost => some ⟨.finished reply,none,.removed⟩
  | _,_ => none

/-- A return of `execute_order` with a result. -/
structure Return (n : ℕ) where
  /-- The request that made the call. -/
  request : Fin n
  /-- Clock reading at the return. -/
  instant : ℚ
  deriving DecidableEq

/-- The start of an attempt: its `lookup` and the returns that preceded it. -/
structure Start (n : ℕ) where
  /-- Clock reading at the `lookup`. -/
  instant : ℚ
  /-- Returns of `execute_order` logged before the `lookup`. -/
  earlier : List (Return n)
  deriving DecidableEq

/-- A live entry deleted by a `release_claim`. -/
structure Removal (n : ℕ) where
  /-- The request whose `release_claim` ran. -/
  request : Fin n
  /-- What the key held. -/
  value : Raw Body
  /-- The request that had written it. -/
  writer : Option (Fin n)
  deriving DecidableEq

/-- One request during a run. -/
structure Attempt (n : ℕ) where
  /-- Progress of the request. -/
  phase : Phase
  /-- Clock reading when the marker was installed or `try_claim` returned. -/
  claimedAt : ℚ
  /-- Start of the attempt, absent before its `lookup`. -/
  start : Option (Start n)

/-- State of a run. -/
structure System (n : ℕ) where
  /-- Clock of the store. -/
  now : ℚ
  /-- Contents of the key. -/
  slot : Slot (Raw Body) ℚ
  /-- The request that wrote the key last. -/
  writer : Option (Fin n)
  /-- The requests. -/
  attempt : Fin n→Attempt n
  /-- Calls of `execute_order`, in order. -/
  started : List (Fin n)
  /-- Returns of `execute_order`, in order. -/
  returned : List (Return n)
  /-- Live entries deleted by `release_claim`, in order. -/
  removed : List (Removal n)

/-- The entry a deletion takes out of the log of live entries. -/
def removals (s : System n) (i : Fin n) (after : Slot (Raw Body) ℚ) : List (Removal n) :=
  match after,sweep s.now s.slot with
  | none,some entry => [⟨i,entry.value,s.writer⟩]
  | _,_ => []

/-- Carry out a move of a request. -/
def System.apply (s : System n) (i : Fin n) (m : Move) : System n where
  now := s.now
  slot := m.slot
  writer := if m.effect=.installed ∨ m.effect=.stored then some i else s.writer
  attempt := Function.update s.attempt i {
    phase := m.phase
    claimedAt := if m.effect=.installed ∨ m.effect=.entered then s.now else (s.attempt i).claimedAt
    start := if m.effect=.looked then some ⟨s.now,s.returned⟩ else (s.attempt i).start }
  started := if m.effect=.began then s.started++[i] else s.started
  returned := if m.effect=.returned then s.returned++[⟨i,s.now⟩] else s.returned
  removed := if m.effect=.removed then s.removed++removals s i m.slot else s.removed

/-- Events of a run. -/
inductive Event (n : ℕ)
  /-- The clock now reads the given instant, which may be any. -/
  | tick (instant : ℚ)
  /-- A request performs its next action. -/
  | act (i : Fin n) (outcome : Outcome)

/-- The step function of a run. -/
def step (env : Setting n) (s : System n) : Event n→Option (System n)
  | .tick instant => some {s with now := instant}
  | .act i outcome =>
    (move env i s.now s.slot (s.attempt i).phase outcome).map (s.apply i)

/-- No request has started and the key is unused. -/
def initial (n : ℕ) : System n := ⟨0,none,none,fun _ => ⟨.arrived,0,none⟩,[],[],[]⟩

/-- The command of `try_claim` that inspects the value of the key. -/
def inspects (backend : Backend) (command : ClaimCommand) : Bool :=
  match backend with
  | .redis => command=.get
  | .memory => true

/-- The next action of a request is the inspection of `try_claim`, and it
would find a stored result with the request's own fingerprint. -/
def findsOwnResult (env : Setting n) (s : System n) (i : Fin n) : Bool :=
  match (s.attempt i).phase,read s.now s.slot with
  | .claiming command,some (.result existing) =>
    inspects env.backend command && decide (existing.fingerprint=env.fp i)
  | _,_ => false

/-- Claim holders finish in time: the clock does not move beyond the lifetime
of the claim of a request that is still in its section. -/
def TimelyClaims (env : Setting n) (s : System n) : Event n→Prop
  | .tick instant => ∀ i,(s.attempt i).phase.inSection=true→
      instant≤(s.attempt i).claimedAt+env.config.claimTtl
  | .act _ _ => True

/-- No `try_claim` meets a stored result of its own request body. -/
def NoOwnResult (env : Setting n) (s : System n) : Event n→Prop
  | .tick _ => True
  | .act i _ => findsOwnResult env s i=false

instance (env : Setting n) (s : System n) : (e : Event n)→Decidable (TimelyClaims env s e)
  | .tick instant => inferInstanceAs (Decidable (∀ i,(s.attempt i).phase.inSection=true→
      instant≤(s.attempt i).claimedAt+env.config.claimTtl))
  | .act _ _ => inferInstanceAs (Decidable True)

instance (env : Setting n) (s : System n) : (e : Event n)→Decidable (NoOwnResult env s e)
  | .tick _ => inferInstanceAs (Decidable True)
  | .act i _ => inferInstanceAs (Decidable (findsOwnResult env s i=false))

end Aqts.CreateOrder
