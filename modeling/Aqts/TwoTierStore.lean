import Aqts.GuardedRuns
import Aqts.IdempotencyStore

/-!
# The two-tier idempotency store

`PgOrderIdempotencyStore` and `TwoTierOrderIdempotencyStore` of
`core.idempotency.db_store`: Redis in front of a PostgreSQL table. The table
has one row for each user, route and key, which is its UNIQUE constraint, and
keeps a row until somebody deletes it. An operation runs at one clock reading
and meets tiers that are up or down. The round trip of `store_result` and
`lookup` is decided here for every state of the two tiers.
-/

namespace Aqts.TwoTierStore

open ExpiringSlot IdempotencyStore GuardedRuns

/-- The columns of the UNIQUE constraint. -/
structure ClientKey where
  /-- User identifier. -/
  userId : String
  /-- Route text. -/
  route : String
  /-- Idempotency key. -/
  key : String
  deriving DecidableEq

/-- Key of the same triple in Redis. -/
def ClientKey.redisKey (k : ClientKey) : String := buildKey k.userId k.route k.key

/-- A row of `order_idempotency_keys`; `expires_at` is NOT NULL. -/
structure Row (β : Type) where
  /-- Hash of the request body. -/
  fingerprint : String
  /-- HTTP status. -/
  statusCode : ℤ
  /-- Response body. -/
  body : β
  /-- Instant of the insert. -/
  createdAt : ℚ
  /-- Last instant at which `lookup` returns the row. -/
  expiresAt : ℚ
  deriving DecidableEq

/-- The contents of both tiers. -/
structure Tiers (β : Type) where
  /-- The table, by the UNIQUE columns. -/
  rows : ClientKey→Option (Row β)
  /-- The Redis keys. -/
  keys : String→Slot (Raw β) ℚ

/-- Both tiers empty. -/
def emptyTiers (β : Type) : Tiers β := ⟨fun _ => none,fun _ => none⟩

/-- Which backends answer during an operation. -/
structure Health where
  /-- Redis answers reads. -/
  redisRead : Bool
  /-- Redis answers writes. -/
  redisWrite : Bool
  /-- PostgreSQL answers. -/
  db : Bool
  deriving DecidableEq

/-- Whether Redis answers a command of `try_claim`. -/
def Health.answers (health : Health) : ClaimCommand→Bool
  | .setNx => health.redisWrite
  | .get => health.redisRead
  | .retrySetNx => health.redisWrite

/-- No backend failure. -/
def allUp : Health := ⟨true,true,true⟩

variable {β : Type}

/-- Replace the contents of one Redis key. -/
def Tiers.setKey (s : Tiers β) (key : String) (slot : Slot (Raw β) ℚ) : Tiers β :=
  {s with keys := Function.update s.keys key slot}

/-- Replace the row of one triple. -/
def Tiers.setRow (s : Tiers β) (k : ClientKey) (row : Option (Row β)) : Tiers β :=
  {s with rows := Function.update s.rows k row}

/-- The replaced key. -/
theorem Tiers.setKey_self (s : Tiers β) (key : String) (slot : Slot (Raw β) ℚ) :
    (s.setKey key slot).keys key=slot := by
  simp [Tiers.setKey]

/-- The other keys are left alone. -/
theorem Tiers.setKey_other (s : Tiers β) {key key' : String} (slot : Slot (Raw β) ℚ)
    (h : key'≠key) : (s.setKey key slot).keys key'=s.keys key' := by
  simp [Tiers.setKey,h]

/-- The replaced row. -/
theorem Tiers.setRow_self (s : Tiers β) (k : ClientKey) (row : Option (Row β)) :
    (s.setRow k row).rows k=row := by
  simp [Tiers.setRow]

/-- The other rows are left alone. -/
theorem Tiers.setRow_other (s : Tiers β) {k k' : ClientKey} (row : Option (Row β))
    (h : k'≠k) : (s.setRow k row).rows k'=s.rows k' := by
  simp [Tiers.setRow,h]

/-- `PgOrderIdempotencyStore.lookup` after its SELECT: an expired row reads as
no record. -/
def pgLookup (now : ℚ) : Option (Row β)→Option (OrderIdempotencyRecord β)
  | none => none
  | some row =>
    if row.expiresAt<now then none
    else some ⟨row.fingerprint,row.statusCode,row.body,row.createdAt⟩

/-- `PgOrderIdempotencyStore.try_claim` looks only. -/
def pgTryClaim (now : ℚ) (key fingerprint : String) (row : Option (Row β)) :
    Except StoreError Unit :=
  match pgLookup now row with
  | none => .ok ()
  | some existing =>
    if existing.fingerprint≠fingerprint then .error (.conflict key) else .ok ()

/-- `PgOrderIdempotencyStore.store_result`: an INSERT, and on a violation of
the UNIQUE constraint a `lookup` that decides. The row afterwards. -/
def pgStoreResult (config : StoreConfig) (now : ℚ) (key fingerprint : String) (statusCode : ℤ)
    (body : β) : Option (Row β)→Except StoreError (Row β)
  | none => .ok ⟨fingerprint,statusCode,body,now,now+config.resultTtl⟩
  | some row =>
    match pgLookup now (some row) with
    | none => .error (.inProgress key)
    | some existing =>
      if existing.fingerprint≠fingerprint then .error (.conflict key) else .ok row

/-- `TwoTierOrderIdempotencyStore.lookup`: Redis first, then PostgreSQL, and a
record found there is written to Redis with a fresh lifetime. -/
def lookup (config : StoreConfig) (health : Health) (now : ℚ) (k : ClientKey) (s : Tiers β) :
    Except StoreError (Option (OrderIdempotencyRecord β))×Tiers β :=
  if health.redisRead=false then (.error (.unavailable "lookup"),s)
  else
    let swept := s.setKey k.redisKey (sweep now (s.keys k.redisKey))
    match lookupRecord now (s.keys k.redisKey) with
    | some record => (.ok (some record),swept)
    | none =>
      if health.db=false then (.error (.unavailable "db_lookup"),swept)
      else
        match pgLookup now (s.rows k) with
        | none => (.ok none,swept)
        | some record =>
          if health.redisWrite=false then (.ok (some record),swept)
          else (.ok (some record),s.setKey k.redisKey
            (storeResult config now record.fingerprint record.statusCode record.body))

/-- The commands of Redis `try_claim` one after the other at one instant, from
a given command on. Three commands are the most it sends. -/
def runClaim (config : StoreConfig) (health : Health) (now : ℚ) (key fingerprint : String) :
    ℕ→ ClaimCommand→Slot (Raw β) ℚ→Except StoreError Unit×Slot (Raw β) ℚ
  | 0,_,slot => (.error (.inProgress key),slot)
  | fuel+1,command,slot =>
    if health.answers command=false then (.error (.unavailable command.op),slot)
    else
      match claimCommand config now key fingerprint command slot with
      | (.again next,slot') => runClaim config health now key fingerprint fuel next slot'
      | (.installed,slot') => (.ok (),slot')
      | (.alreadyStored,slot') => (.ok (),slot')
      | (.raised error,slot') => (.error error,slot')

/-- `TwoTierOrderIdempotencyStore.try_claim`: the table first, then Redis. -/
def tryClaim (config : StoreConfig) (health : Health) (now : ℚ) (k : ClientKey)
    (fingerprint : String) (s : Tiers β) : Except StoreError Unit×Tiers β :=
  if health.db=false then (.error (.unavailable "db_lookup"),s)
  else
    match pgTryClaim now k.key fingerprint (s.rows k) with
    | .error error => (.error error,s)
    | .ok () =>
      let claimed := runClaim config health now k.key fingerprint 3 .setNx (s.keys k.redisKey)
      (claimed.1,s.setKey k.redisKey claimed.2)

/-- `TwoTierOrderIdempotencyStore.store_result`: PostgreSQL first; a Redis
failure afterwards is only logged. -/
def storeResult (config : StoreConfig) (health : Health) (now : ℚ) (k : ClientKey)
    (fingerprint : String) (statusCode : ℤ) (body : β) (s : Tiers β) :
    Except StoreError Unit×Tiers β :=
  if health.db=false then (.error (.unavailable "db_store_result"),s)
  else
    match pgStoreResult config now k.key fingerprint statusCode body (s.rows k) with
    | .error error => (.error error,s)
    | .ok row =>
      let stored := s.setRow k (some row)
      if health.redisWrite=false then (.ok (),stored)
      else (.ok (),stored.setKey k.redisKey
        (IdempotencyStore.storeResult config now fingerprint statusCode body))

/-- `TwoTierOrderIdempotencyStore.release_claim`: the Redis marker only. -/
def releaseClaim (health : Health) (now : ℚ) (k : ClientKey) (s : Tiers β) :
    Except StoreError Unit×Tiers β :=
  if health.redisRead=false then (.error (.unavailable "release_claim"),s)
  else if releaseSeesMarker now (s.keys k.redisKey)=true then
    if health.redisWrite=false then (.error (.unavailable "release_claim"),s)
    else (.ok (),s.setKey k.redisKey none)
  else (.ok (),s.setKey k.redisKey (sweep now (s.keys k.redisKey)))

/-- Operations of clients and of the environment on the two tiers. -/
inductive Op (β : Type)
  /-- A `lookup`. -/
  | lookup (k : ClientKey)
  /-- A `try_claim`. -/
  | tryClaim (k : ClientKey) (fingerprint : String)
  /-- A `store_result`. -/
  | storeResult (k : ClientKey) (fingerprint : String) (statusCode : ℤ) (body : β)
  /-- A `release_claim`. -/
  | releaseClaim (k : ClientKey)
  /-- Redis loses a key. -/
  | evict (key : String)
  /-- A row is deleted from the table. -/
  | purge (k : ClientKey)

/-- An operation with the clock reading and the backends it meets. -/
structure Call (β : Type) where
  /-- Clock reading, which may be any. -/
  instant : ℚ
  /-- Backends during the operation. -/
  health : Health
  /-- The operation. -/
  op : Op β

/-- A `store_result` that returned normally. -/
structure Written (β : Type) where
  /-- Redis key of the triple. -/
  key : String
  /-- Stored fingerprint. -/
  fingerprint : String
  /-- Stored status. -/
  statusCode : ℤ
  /-- Stored body. -/
  body : β
  /-- Clock reading of the call. -/
  instant : ℚ
  deriving DecidableEq

/-- The tiers and the log of normal returns of `store_result`. -/
structure History (β : Type) where
  /-- Contents of both tiers. -/
  tiers : Tiers β
  /-- Normal returns of `store_result`, in order. -/
  log : List (Written β)

/-- Effect of an operation on the tiers. -/
def Call.run (config : StoreConfig) (c : Call β) (s : Tiers β) : Tiers β :=
  match c.op with
  | .lookup k => (lookup config c.health c.instant k s).2
  | .tryClaim k fingerprint => (tryClaim config c.health c.instant k fingerprint s).2
  | .storeResult k fingerprint statusCode body =>
    (storeResult config c.health c.instant k fingerprint statusCode body s).2
  | .releaseClaim k => (releaseClaim c.health c.instant k s).2
  | .evict key => s.setKey key none
  | .purge k => s.setRow k none

/-- What an operation adds to the log. -/
def Call.written (config : StoreConfig) (c : Call β) (s : Tiers β) : List (Written β) :=
  match c.op with
  | .storeResult k fingerprint statusCode body =>
    match (storeResult config c.health c.instant k fingerprint statusCode body s).1 with
    | .ok () => [⟨k.redisKey,fingerprint,statusCode,body,c.instant⟩]
    | .error _ => []
  | _ => []

/-- One operation of a history. -/
def step (config : StoreConfig) (h : History β) (c : Call β) : Option (History β) :=
  some ⟨c.run config h.tiers,h.log++c.written config h.tiers⟩

/-- The history before the first operation. -/
def History.empty (β : Type) : History β := ⟨emptyTiers β,[]⟩

/-- A live row reads as its record. -/
theorem pgLookup_live {now : ℚ} {row : Row β} (h : now ≤ row.expiresAt) :
    pgLookup now (some row)=some ⟨row.fingerprint,row.statusCode,row.body,row.createdAt⟩ :=
  if_neg (not_lt.mpr h)

/-- An expired row reads as no record. -/
theorem pgLookup_expired {now : ℚ} {row : Row β} (h : row.expiresAt<now) :
    pgLookup now (some row)=none := if_pos h

/-- No row, or an expired one, is what a `lookup` without a record has seen. -/
theorem pgLookup_eq_none {now : ℚ} {row : Option (Row β)} :
    pgLookup now row=none ↔ ∀ r∈row,r.expiresAt<now := by
  cases row with
  | none => simp [pgLookup]
  | some row =>
    by_cases h : row.expiresAt<now
    · simp [pgLookup,h]
    · simp [pgLookup,h]

/-- `store_result` of the table succeeds on a free triple and on a live row of
the same request body. -/
theorem pgStoreResult_ok_iff (config : StoreConfig) (now : ℚ) (key fingerprint : String)
    (statusCode : ℤ) (body : β) (row : Option (Row β)) :
    (∃ row',pgStoreResult config now key fingerprint statusCode body row=.ok row') ↔
      ∀ r∈row,now ≤ r.expiresAt ∧ r.fingerprint=fingerprint := by
  cases row with
  | none => simp [pgStoreResult]
  | some row =>
    by_cases hx : row.expiresAt<now
    · simp [pgStoreResult,pgLookup_expired hx,hx]
    · have hl := not_lt.mp hx
      by_cases hf : row.fingerprint=fingerprint
      · simp [pgStoreResult,pgLookup_live hl,hf,hl]
      · simp [pgStoreResult,pgLookup_live hl,hf]

/-- What `store_result` leaves in Redis is what a `lookup` within the result
lifetime returns. -/
theorem lookup_of_stored {config : StoreConfig} {now now' : ℚ} {k : ClientKey}
    {fingerprint : String} {statusCode : ℤ} {body : β} {s : Tiers β}
    (hs : s.keys k.redisKey=
      IdempotencyStore.storeResult config now fingerprint statusCode body)
    (hl : now'≤now+config.resultTtl) :
    (lookup config allUp now' k s).1=.ok (some ⟨fingerprint,statusCode,body,now⟩) := by
  have hrecord : lookupRecord now' (s.keys k.redisKey)=
      some ⟨fingerprint,statusCode,body,now⟩ := by
    rw [hs]
    unfold lookupRecord IdempotencyStore.storeResult setEx
    rw [read_live hl]
  unfold lookup
  rw [if_neg (by decide)]
  dsimp only
  rw [hrecord]

/-- `store_result` leaves its record in Redis when it returns normally. -/
theorem storeResult_key {config : StoreConfig} {now : ℚ} {k : ClientKey} {fingerprint : String}
    {statusCode : ℤ} {body : β} {s : Tiers β}
    (h : (storeResult config allUp now k fingerprint statusCode body s).1=.ok ()) :
    (storeResult config allUp now k fingerprint statusCode body s).2.keys k.redisKey=
      IdempotencyStore.storeResult config now fingerprint statusCode body := by
  unfold storeResult at h ⊢
  rw [if_neg (by decide)] at h ⊢
  cases hp : pgStoreResult config now k.key fingerprint statusCode body (s.rows k) with
  | error error =>
    rw [hp] at h
    cases h
  | ok row =>
    dsimp only
    rw [if_neg (by decide)]
    exact Tiers.setKey_self _ _ _

/-- `store_result` of the two tiers returns normally exactly when that of the
table does. -/
theorem storeResult_ok_iff (config : StoreConfig) (now : ℚ) (k : ClientKey)
    (fingerprint : String) (statusCode : ℤ) (body : β) (s : Tiers β) :
    (storeResult config allUp now k fingerprint statusCode body s).1=.ok () ↔
      ∀ row∈s.rows k,now ≤ row.expiresAt ∧ row.fingerprint=fingerprint := by
  rw [← pgStoreResult_ok_iff config now k.key fingerprint statusCode body (s.rows k)]
  unfold storeResult
  rw [if_neg (by decide)]
  cases hp : pgStoreResult config now k.key fingerprint statusCode body (s.rows k) with
  | error error => simp
  | ok row => simp [allUp]

/-- A `lookup` never touches the table. -/
theorem lookup_rows (config : StoreConfig) (health : Health) (now : ℚ) (k : ClientKey)
    (s : Tiers β) : (lookup config health now k s).2.rows=s.rows := by
  unfold lookup
  dsimp only
  split
  · rfl
  · split
    · rfl
    · split
      · rfl
      · split
        · rfl
        · split <;> rfl

/-- A `try_claim` never touches the table. -/
theorem tryClaim_rows (config : StoreConfig) (health : Health) (now : ℚ) (k : ClientKey)
    (fingerprint : String) (s : Tiers β) :
    (tryClaim config health now k fingerprint s).2.rows=s.rows := by
  unfold tryClaim
  dsimp only
  split
  · rfl
  · split
    · rfl
    · rfl

/-- A `lookup` without a record has met no live row. -/
theorem lookup_none_expired {config : StoreConfig} {now : ℚ} {k : ClientKey} {s : Tiers β}
    (h : (lookup config allUp now k s).1=.ok none) : ∀ row∈s.rows k,row.expiresAt<now := by
  unfold lookup at h
  rw [if_neg (by decide)] at h
  dsimp only at h
  split at h
  · cases h
  · rw [if_neg (by decide)] at h
    split at h
    · rename_i hp
      exact pgLookup_eq_none.mp hp
    · rw [if_neg (by decide)] at h
      cases h

/-- After a `lookup` without a record and a `try_claim`, on a clock that does
not run backwards, `store_result` returns normally exactly when the table has
never had, or has lost, a row of the triple. -/
theorem storeResult_after_miss_iff {config : StoreConfig} {t₀ t₁ t₂ : ℚ} {k : ClientKey}
    {fingerprint : String} {s : Tiers β} (hmiss : (lookup config allUp t₀ k s).1=.ok none)
    (ht : t₀≤t₂) (statusCode : ℤ) (body : β) :
    (storeResult config allUp t₂ k fingerprint statusCode body
        (tryClaim config allUp t₁ k fingerprint (lookup config allUp t₀ k s).2).2).1=.ok () ↔
      s.rows k=none := by
  rw [storeResult_ok_iff,tryClaim_rows,lookup_rows]
  have hexpired := lookup_none_expired hmiss
  constructor
  · intro hall
    cases hrow : s.rows k with
    | none => rfl
    | some row =>
      have hlive := (hall row hrow).1
      have hpast := (hexpired row hrow).trans_le ht
      exact absurd hlive (not_le.mpr hpast)
  · intro hnone row hrow
    rw [hnone] at hrow
    cases hrow

/-- `store_result` at an instant returns normally, and a `lookup` after it
returns exactly what was stored, as long as the result lives. -/
def RoundTrips (config : StoreConfig) (now : ℚ) (k : ClientKey) (fingerprint : String)
    (statusCode : ℤ) (body : β) (s : Tiers β) : Prop :=
  (storeResult config allUp now k fingerprint statusCode body s).1=.ok () ∧
    ∀ now',now'≤now+config.resultTtl→∃ createdAt,
      (lookup config allUp now' k
        (storeResult config allUp now k fingerprint statusCode body s).2).1=
          .ok (some ⟨fingerprint,statusCode,body,createdAt⟩)

/-- Over every state of the two tiers, whatever operations led to it: the
round trip succeeds exactly when the table holds no row for the triple, or
holds a live row of the same request body. -/
theorem roundTrips_iff (config : StoreConfig) (now : ℚ) (k : ClientKey) (fingerprint : String)
    (statusCode : ℤ) (body : β) (s : Tiers β) :
    RoundTrips config now k fingerprint statusCode body s ↔
      ∀ row∈s.rows k,now ≤ row.expiresAt ∧ row.fingerprint=fingerprint := by
  rw [← storeResult_ok_iff config now k fingerprint statusCode body s]
  refine ⟨fun h => h.1,fun h => ⟨h,fun now' hl => ⟨now,?_⟩⟩⟩
  exact lookup_of_stored (storeResult_key h) hl

/-- A triple of one client. -/
def sampleKey : ClientKey := ⟨"7f0c","POST /api/orders","k-1"⟩

/-- A day and a second after its first result, with the expired row not yet
deleted, the key looks free and can be claimed, but its next result cannot be
stored. -/
theorem expired_row_breaks_round_trip :
    ¬∀ h : History ℕ,
      Reaches (step defaultConfig) (fun _ c => c.health=allUp) (History.empty ℕ) h→
      ∀ (now : ℚ) (k : ClientKey) (fingerprint : String) (statusCode : ℤ) (body : ℕ),
        (lookup defaultConfig allUp now k h.tiers).1=.ok none→
        (tryClaim defaultConfig allUp now k fingerprint
          (lookup defaultConfig allUp now k h.tiers).2).1=.ok ()→
        RoundTrips defaultConfig now k fingerprint statusCode body
          (tryClaim defaultConfig allUp now k fingerprint
            (lookup defaultConfig allUp now k h.tiers).2).2 := by
  intro hall
  have hreach : Reaches (step defaultConfig) (fun _ c => c.health=allUp) (History.empty ℕ)
      ((step defaultConfig (History.empty ℕ)
        ⟨0,allUp,.storeResult sampleKey "f-1" 200 1⟩).get rfl) :=
    .next .start rfl rfl
  have hstored := (hall _ hreach 86401 sampleKey "f-1" 200 2 (by decide +kernel)
    (by decide +kernel)).1
  revert hstored
  decide +kernel

end Aqts.TwoTierStore
