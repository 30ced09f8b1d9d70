import Aqts.ExpiringSlot
import Mathlib.Data.Rat.Defs
import Mathlib.Algebra.Order.Ring.Rat
import Mathlib.Logic.Function.Basic
import Mathlib.Tactic.Linarith
import Mathlib.Tactic.NormNum

/-!
# Order idempotency stores

The Redis and the in-memory store of `core.idempotency.order_idempotency`.
One key holds either the claim marker or a serialised record. The JSON text
is kept decoded: the marker text is never a JSON object, and a record read
back from its JSON is the record written. The Redis methods are given command
by command, because another client may run between any two commands. The
methods of the in-memory store hold a lock and are single steps.
-/

namespace Aqts.IdempotencyStore

open ExpiringSlot

/-- A stored response (`OrderIdempotencyRecord`). -/
structure OrderIdempotencyRecord (β : Type) where
  /-- Hash of the request body the response belongs to. -/
  fingerprint : String
  /-- HTTP status of the stored response. -/
  statusCode : ℤ
  /-- Stored response body. -/
  body : β
  /-- Clock reading of the writer. -/
  createdAt : ℚ
  deriving DecidableEq

/-- Contents of a key: the claim marker or a serialised record. -/
inductive Raw (β : Type)
  /-- The text `__CLAIM__`; it carries no owner. -/
  | claimMarker
  /-- A serialised record. -/
  | result (record : OrderIdempotencyRecord β)
  deriving DecidableEq

/-- The exceptions of the store protocol. -/
inductive StoreError
  /-- `IdempotencyStoreUnavailable` with the failing operation. -/
  | unavailable (op : String)
  /-- `IdempotencyConflict` with the idempotency key. -/
  | conflict (key : String)
  /-- `IdempotencyInProgress` with the idempotency key. -/
  | inProgress (key : String)
  deriving DecidableEq

/-- Lifetimes of a store, in seconds; Redis accepts positive ones only. -/
structure StoreConfig where
  /-- Lifetime of a claim marker. -/
  claimTtl : ℚ
  /-- Lifetime of a stored result. -/
  resultTtl : ℚ
  /-- Claim lifetimes are positive. -/
  claimTtl_pos : 0< claimTtl
  /-- Result lifetimes are positive. -/
  resultTtl_pos : 0 < resultTtl

/-- `DEFAULT_CLAIM_TTL_SECONDS` and `DEFAULT_RESULT_TTL_SECONDS`. -/
def defaultConfig : StoreConfig := ⟨30,24*3600,by norm_num,by norm_num⟩

/-- `KEY_PREFIX`. -/
def keyPrefix : String := "aqts:order_idem"

/-- `_build_key`: the storage key of one client's idempotency key on one route. -/
def buildKey (userId route idempotencyKey : String) : String :=
  keyPrefix++":"++userId++":"++route++":"++idempotencyKey

variable {β : Type}

/-- `lookup` after its GET: a missing key and a claim marker both read as
no record. -/
def lookupRecord (now : ℚ) (slot : Slot (Raw β) ℚ) : Option (OrderIdempotencyRecord β) :=
  match read now slot with
  | none => none
  | some .claimMarker => none
  | some (.result record) => some record

/-- The record `lookup` returns is the live contents of the key. -/
theorem lookupRecord_eq_some {now : ℚ} {slot : Slot (Raw β) ℚ}
    {record : OrderIdempotencyRecord β} (h : lookupRecord now slot=some record) :
    read now slot=some (.result record) := by
  unfold lookupRecord at h
  split at h
  · cases h
  · cases h
  · rename_i stored hr
    cases h
    exact hr

/-- The Redis command that `try_claim` sends next. -/
inductive ClaimCommand
  /-- The first `SET NX EX`. -/
  | setNx
  /-- The GET that inspects the value found by a failed `SET NX`. -/
  | get
  /-- The second `SET NX EX`, after the GET found the key gone. -/
  | retrySetNx
  deriving DecidableEq

/-- Operation name reported when a command of `try_claim` fails. -/
def ClaimCommand.op : ClaimCommand→String
  | .setNx => "try_claim"
  | .get => "try_claim_get"
  | .retrySetNx => "try_claim_retry"

/-- What a command of `try_claim` leads to. -/
inductive ClaimOutcome
  /-- A further command is needed. -/
  | again (command : ClaimCommand)
  /-- The marker was installed; `try_claim` returns. -/
  | installed
  /-- A result with the same fingerprint is stored; `try_claim` returns
  without having installed anything. -/
  | alreadyStored
  /-- `try_claim` raises. -/
  | raised (error : StoreError)
  deriving DecidableEq

/-- One command of `RedisOrderIdempotencyStore.try_claim` at an instant, with
the contents of the key after it. -/
def claimCommand (config : StoreConfig) (now : ℚ) (key fingerprint : String) :
    ClaimCommand→Slot (Raw β) ℚ→ ClaimOutcome×Slot (Raw β) ℚ
  | .setNx,slot =>
    match sweep now slot with
    | none => (.installed,setEx now config.claimTtl .claimMarker)
    | some entry => (.again .get,some entry)
  | .get,slot =>
    match read now slot with
    | none => (.again .retrySetNx,sweep now slot)
    | some .claimMarker => (.raised (.inProgress key),sweep now slot)
    | some (.result existing) =>
      if existing.fingerprint=fingerprint then (.alreadyStored,sweep now slot)
      else (.raised (.conflict key),sweep now slot)
  | .retrySetNx,slot =>
    match sweep now slot with
    | none => (.installed,setEx now config.claimTtl .claimMarker)
    | some entry => (.raised (.inProgress key),some entry)

/-- `InMemoryOrderIdempotencyStore.try_claim`, atomic under the store lock. -/
def memoryTryClaim (config : StoreConfig) (now : ℚ) (key fingerprint : String)
    (slot : Slot (Raw β) ℚ) : ClaimOutcome×Slot (Raw β) ℚ :=
  match sweep now slot with
  | none => (.installed,setEx now config.claimTtl .claimMarker)
  | some entry =>
    match entry.value with
    | .claimMarker => (.raised (.inProgress key),slot)
    | .result existing =>
      if existing.fingerprint=fingerprint then (.alreadyStored,slot)
      else (.raised (.conflict key),slot)

/-- `store_result` of both stores: the key is overwritten, whatever it holds,
and gets the result lifetime. -/
def storeResult (config : StoreConfig) (now : ℚ) (fingerprint : String) (statusCode : ℤ)
    (body : β) : Slot (Raw β) ℚ :=
  setEx now config.resultTtl (.result ⟨fingerprint,statusCode,body,now⟩)

/-- Whether the GET of Redis `release_claim` sees a claim marker and so sends
the DELETE. -/
def releaseSeesMarker (now : ℚ) (slot : Slot (Raw β) ℚ) : Bool :=
  match read now slot with
  | none => false
  | some .claimMarker => true
  | some (.result _) => false

/-- `InMemoryOrderIdempotencyStore.release_claim`, atomic under the store
lock. It does not look at the expiry. -/
def memoryReleaseClaim : Slot (Raw β) ℚ→Slot (Raw β) ℚ
  | none => none
  | some entry =>
    match entry.value with
    | .claimMarker => none
    | .result _ => some entry

end Aqts.IdempotencyStore
