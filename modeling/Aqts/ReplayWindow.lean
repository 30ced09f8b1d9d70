import Aqts.TwoTierStore

/-!
# The replay window of the idempotency stores

A `lookup` must return a record only within the result lifetime of the
`store_result` that wrote it. The log of normal returns of `store_result`
backs the contents of a key: every record in it comes from a logged call and
expires no later than that call allows. All operations of both stores keep
their keys backed, except the warm-up of Redis from the table, which gives an
old record a fresh lifetime.
-/

namespace Aqts.TwoTierStore

open ExpiringSlot IdempotencyStore GuardedRuns

variable {β : Type} {config : StoreConfig} {log : List (Written β)} {key : String}

/-- A logged call stored this record under this key, and the record may be
returned up to the given instant. -/
def Justified (config : StoreConfig) (log : List (Written β)) (key : String)
    (record : OrderIdempotencyRecord β) (limit : ℚ) : Prop :=
  ∃ w∈log,w.key=key ∧ (w.fingerprint=record.fingerprint ∧ w.statusCode=record.statusCode ∧
    w.body=record.body) ∧ limit≤w.instant+config.resultTtl

/-- A longer log justifies more. -/
theorem Justified.append {record : OrderIdempotencyRecord β} {limit : ℚ}
    (h : Justified config log key record limit) (more : List (Written β)) :
    Justified config (log++more) key record limit := by
  obtain ⟨w,hw,hrest⟩ := h
  exact ⟨w,List.mem_append_left more hw,hrest⟩

/-- An earlier instant is justified by the same call. -/
theorem Justified.anti {record : OrderIdempotencyRecord β} {limit limit' : ℚ}
    (h : Justified config log key record limit) (hl : limit'≤limit) :
    Justified config log key record limit' := by
  obtain ⟨w,hw,hk,hm,hx⟩ := h
  exact ⟨w,hw,hk,hm,hl.trans hx⟩

/-- Every record in the slot is justified until it expires. -/
def Backed (config : StoreConfig) (log : List (Written β)) (key : String)
    (slot : Slot (Raw β) ℚ) : Prop :=
  ∀ entry∈slot,∀ record,entry.value=.result record→
    Justified config log key record entry.expiresAt

/-- A longer log backs more. -/
theorem Backed.append {slot : Slot (Raw β) ℚ} (h : Backed config log key slot)
    (more : List (Written β)) : Backed config (log++more) key slot :=
  fun entry he record hr => (h entry he record hr).append more

/-- An empty slot is backed. -/
theorem backed_none : Backed config log key none := by
  intro entry he
  cases he

/-- A claim marker is backed. -/
theorem backed_marker (now ttl : ℚ) : Backed config log key (setEx now ttl .claimMarker) := by
  intro entry he record hr
  cases he
  cases hr

/-- Dropping an expired entry keeps a slot backed. -/
theorem Backed.sweep {slot : Slot (Raw β) ℚ} (h : Backed config log key slot) (now : ℚ) :
    Backed config log key (sweep now slot) :=
  fun entry he => h entry (sweep_eq_some he).1

/-- A stored result is backed by the entry of its own call. -/
theorem backed_stored {now : ℚ} {fingerprint : String} {statusCode : ℤ} {body : β}
    (h : ⟨key,fingerprint,statusCode,body,now⟩∈log) :
    Backed config log key
      (IdempotencyStore.storeResult config now fingerprint statusCode body) := by
  intro entry he record hr
  cases he
  cases hr
  exact ⟨_,h,rfl,⟨rfl,rfl,rfl⟩,le_rfl⟩

/-- A record read from a backed slot is justified at the instant of the read. -/
theorem Backed.lookup {slot : Slot (Raw β) ℚ} (h : Backed config log key slot) {now : ℚ}
    {record : OrderIdempotencyRecord β} (hl : lookupRecord now slot=some record) :
    Justified config log key record now := by
  obtain ⟨entry,hs,hx,hv⟩ := read_eq_some (lookupRecord_eq_some hl)
  exact (h entry hs record hv).anti hx

/-- A command of `try_claim` leaves the live contents or a new marker. -/
theorem claimCommand_slot (config : StoreConfig) (now : ℚ) (k fingerprint : String)
    (command : ClaimCommand) (slot : Slot (Raw β) ℚ) :
    (claimCommand config now k fingerprint command slot).2=sweep now slot ∨
      (claimCommand config now k fingerprint command slot).2=
        setEx now config.claimTtl .claimMarker := by
  cases command with
  | setNx =>
    dsimp only [claimCommand]
    cases hs : ExpiringSlot.sweep now slot with
    | none => exact .inr rfl
    | some entry => exact .inl rfl
  | get =>
    dsimp only [claimCommand]
    cases hr : ExpiringSlot.read now slot with
    | none => exact .inl rfl
    | some value =>
      cases value with
      | claimMarker => exact .inl rfl
      | result existing =>
        dsimp only
        split
        · exact .inl rfl
        · exact .inl rfl
  | retrySetNx =>
    dsimp only [claimCommand]
    cases hs : ExpiringSlot.sweep now slot with
    | none => exact .inr rfl
    | some entry => exact .inl rfl

/-- A command of `try_claim` keeps a slot backed. -/
theorem Backed.claimCommand {slot : Slot (Raw β) ℚ} (h : Backed config log key slot) (now : ℚ)
    (k fingerprint : String) (command : ClaimCommand) :
    Backed config log key
      (IdempotencyStore.claimCommand config now k fingerprint command slot).2 := by
  obtain hs | hs := claimCommand_slot config now k fingerprint command slot
  · rw [hs]
    exact h.sweep now
  · rw [hs]
    exact backed_marker _ _

/-- A whole Redis `try_claim` keeps a slot backed. -/
theorem Backed.runClaim {health : Health} {now : ℚ} {k fingerprint : String} (fuel : ℕ)
    {command : ClaimCommand} {slot : Slot (Raw β) ℚ} (h : Backed config log key slot) :
    Backed config log key
      (TwoTierStore.runClaim config health now k fingerprint fuel command slot).2 := by
  induction fuel generalizing command slot with
  | zero => exact h
  | succ fuel ih =>
    have hnext := h.claimCommand now k fingerprint command
    unfold TwoTierStore.runClaim
    split
    · exact h
    · split
      · rename_i next slot' hc
        rw [hc] at hnext
        exact ih hnext
      · rename_i slot' hc
        rw [hc] at hnext
        exact hnext
      · rename_i slot' hc
        rw [hc] at hnext
        exact hnext
      · rename_i error slot' hc
        rw [hc] at hnext
        exact hnext

/-- An in-memory `try_claim` keeps a slot backed. -/
theorem Backed.memoryTryClaim {slot : Slot (Raw β) ℚ} (h : Backed config log key slot) (now : ℚ)
    (k fingerprint : String) :
    Backed config log key
      (IdempotencyStore.memoryTryClaim config now k fingerprint slot).2 := by
  unfold IdempotencyStore.memoryTryClaim
  split
  · exact backed_marker _ _
  · split
    · exact h
    · split
      · exact h
      · exact h

/-- An in-memory `release_claim` keeps a slot backed. -/
theorem Backed.memoryReleaseClaim {slot : Slot (Raw β) ℚ} (h : Backed config log key slot) :
    Backed config log key (IdempotencyStore.memoryReleaseClaim slot) := by
  cases slot with
  | none => exact h
  | some entry =>
    unfold IdempotencyStore.memoryReleaseClaim
    dsimp only
    split
    · exact backed_none
    · exact h

/-- The record a row holds. -/
def Row.record (row : Row β) : OrderIdempotencyRecord β :=
  ⟨row.fingerprint,row.statusCode,row.body,row.createdAt⟩

/-- Both tiers contain only what the log justifies. -/
structure Accounted (config : StoreConfig) (h : History β) : Prop where
  /-- Every Redis key is backed. -/
  keys : ∀ key,Backed config h.log key (h.tiers.keys key)
  /-- Every row is justified until it expires. -/
  rows : ∀ k,∀ row∈h.tiers.rows k,Justified config h.log k.redisKey row.record row.expiresAt

/-- The operation is a `lookup` that writes a record of the table to Redis. -/
def warmsUp (h : History β) (c : Call β) : Bool :=
  match c.op with
  | .lookup k => c.health.redisRead && c.health.db && c.health.redisWrite &&
      (lookupRecord c.instant (h.tiers.keys k.redisKey)).isNone &&
      (pgLookup c.instant (h.tiers.rows k)).isSome
  | _ => false

/-- A record that the table returns is justified at the instant of the read. -/
theorem Accounted.pgLookup {h : History β} (ha : Accounted config h) {k : ClientKey} {now : ℚ}
    {record : OrderIdempotencyRecord β}
    (hp : TwoTierStore.pgLookup now (h.tiers.rows k)=some record) :
    Justified config h.log k.redisKey record now := by
  cases hr : h.tiers.rows k with
  | none =>
    rw [hr] at hp
    cases hp
  | some row =>
    rw [hr] at hp
    by_cases hx : row.expiresAt<now
    · rw [pgLookup_expired hx] at hp
      cases hp
    · rw [pgLookup_live (not_lt.mp hx)] at hp
      cases hp
      exact (ha.rows k row hr).anti (not_lt.mp hx)

/-- Replacing one key by a backed slot, with a longer log, stays accounted. -/
theorem Accounted.setKey {h : History β} (ha : Accounted config h) {key : String}
    {slot : Slot (Raw β) ℚ} (more : List (Written β))
    (hs : Backed config (h.log++more) key slot) :
    Accounted config ⟨h.tiers.setKey key slot,h.log++more⟩ where
  keys := by
    intro key'
    by_cases hk : key'=key
    · subst hk
      rw [Tiers.setKey_self]
      exact hs
    · rw [Tiers.setKey_other _ _ hk]
      exact (ha.keys key').append more
  rows := fun k row hr => (ha.rows k row hr).append more

/-- The table's row after `store_result`: the old one, or one of this call. -/
theorem pgStoreResult_row {now : ℚ} {k fingerprint : String} {statusCode : ℤ} {body : β}
    {row : Option (Row β)} {row' : Row β}
    (h : pgStoreResult config now k fingerprint statusCode body row=.ok row') :
    row=some row' ∨ row'=⟨fingerprint,statusCode,body,now,now+config.resultTtl⟩ := by
  cases row with
  | none =>
    cases h
    exact .inr rfl
  | some row =>
    dsimp only [pgStoreResult] at h
    split at h
    · cases h
    · split at h
      · cases h
      · cases h
        exact .inl rfl

/-- A row that is justified by the log may replace the row of its triple. -/
theorem Accounted.setRow {h : History β} (ha : Accounted config h) (k : ClientKey)
    (new : Option (Row β)) (more : List (Written β))
    (hr : ∀ row∈new,Justified config (h.log++more) k.redisKey row.record row.expiresAt) :
    Accounted config ⟨h.tiers.setRow k new,h.log++more⟩ where
  keys := fun key => (ha.keys key).append more
  rows := by
    intro k' row' hmem
    by_cases hk : k'=k
    · subst hk
      rw [Tiers.setRow_self] at hmem
      exact hr row' hmem
    · rw [Tiers.setRow_other _ _ hk] at hmem
      exact (ha.rows k' row' hmem).append more

/-- `store_result` keeps the tiers accounted for by the log with its own entry. -/
theorem Accounted.storeResult {h : History β} (ha : Accounted config h) (c : Call β)
    (k : ClientKey) (fingerprint : String) (statusCode : ℤ) (body : β)
    (hop : c.op=.storeResult k fingerprint statusCode body) :
    Accounted config ⟨c.run config h.tiers,h.log++c.written config h.tiers⟩ := by
  unfold Call.run Call.written
  rw [hop]
  dsimp only
  unfold TwoTierStore.storeResult
  split
  · simpa using ha
  · split
    · simpa using ha
    · rename_i row hp
      have hown : (⟨k.redisKey,fingerprint,statusCode,body,c.instant⟩ : Written β)∈
          h.log++[⟨k.redisKey,fingerprint,statusCode,body,c.instant⟩] := by simp
      have hrow : Justified config
          (h.log++[⟨k.redisKey,fingerprint,statusCode,body,c.instant⟩]) k.redisKey row.record
          row.expiresAt := by
        obtain hold | rfl := pgStoreResult_row hp
        · exact (ha.rows k row hold).append _
        · exact ⟨_,hown,rfl,⟨rfl,rfl,rfl⟩,le_rfl⟩
      have hset := ha.setRow k (some row) _ (fun r hr => by cases hr; exact hrow)
      have hslot : Backed config _ k.redisKey
          (IdempotencyStore.storeResult config c.instant fingerprint statusCode body) :=
        backed_stored hown
      dsimp only
      split
      · exact hset
      · simpa using hset.setKey [] (by simpa using hslot)

/-- A `lookup` that does not warm Redis up keeps the tiers accounted for. -/
theorem Accounted.lookup {h : History β} (ha : Accounted config h) {c : Call β} {k : ClientKey}
    (hop : c.op=.lookup k) (hw : warmsUp h c=false) :
    Accounted config ⟨(TwoTierStore.lookup config c.health c.instant k h.tiers).2,h.log++[]⟩ := by
  have hswept := ha.setKey [] (((ha.keys k.redisKey).sweep c.instant).append [])
  unfold TwoTierStore.lookup
  dsimp only
  split
  · simpa using ha
  · rename_i hread
    split
    · exact hswept
    · rename_i hmiss
      split
      · exact hswept
      · rename_i hdb
        split
        · exact hswept
        · rename_i record hp
          split
          · exact hswept
          · rename_i hwrite
            have hwarm : warmsUp h c=true := by
              unfold warmsUp
              rw [hop]
              simp_all
            rw [hwarm] at hw
            cases hw

/-- Every operation that does not warm Redis up keeps the tiers accounted for. -/
theorem Accounted.run {h : History β} (ha : Accounted config h) (c : Call β)
    (hw : warmsUp h c=false) :
    Accounted config ⟨c.run config h.tiers,h.log++c.written config h.tiers⟩ := by
  cases hop : c.op with
  | storeResult k fingerprint statusCode body => exact ha.storeResult c k _ _ _ hop
  | lookup k =>
    unfold Call.run Call.written
    rw [hop]
    exact ha.lookup hop hw
  | tryClaim k fingerprint =>
    unfold Call.run Call.written
    rw [hop]
    dsimp only
    unfold tryClaim
    split
    · simpa using ha
    · split
      · simpa using ha
      · exact ha.setKey [] (((ha.keys k.redisKey).runClaim 3).append [])
  | releaseClaim k =>
    unfold Call.run Call.written
    rw [hop]
    dsimp only
    unfold releaseClaim
    split
    · simpa using ha
    · split
      · split
        · simpa using ha
        · exact ha.setKey [] backed_none
      · exact ha.setKey [] (((ha.keys k.redisKey).sweep c.instant).append [])
  | evict key =>
    unfold Call.run Call.written
    rw [hop]
    exact ha.setKey [] backed_none
  | purge k =>
    unfold Call.run Call.written
    rw [hop]
    exact ha.setRow k none [] (fun row hr => by cases hr)

/-- Every `lookup` returns a record only within the result lifetime of a call
of `store_result` that stored it. -/
def WithinWindow (config : StoreConfig) (h : History β) : Prop :=
  ∀ (health : Health) (now : ℚ) (k : ClientKey) (record : OrderIdempotencyRecord β),
    (TwoTierStore.lookup config health now k h.tiers).1=.ok (some record)→
      Justified config h.log k.redisKey record now

/-- Accounted tiers answer within the window. -/
theorem Accounted.withinWindow {h : History β} (ha : Accounted config h) :
    WithinWindow config h := by
  intro health now k record hl
  unfold TwoTierStore.lookup at hl
  split at hl
  · cases hl
  · dsimp only at hl
    split at hl
    · rename_i found hr
      cases hl
      exact (ha.keys k.redisKey).lookup hr
    · split at hl
      · cases hl
      · split at hl
        · cases hl
        · rename_i found hp
          split at hl
          · cases hl
            exact ha.pgLookup hp
          · cases hl
            exact ha.pgLookup hp

/-- A history of the in-memory store. -/
structure MemoryHistory (β : Type) where
  /-- The dictionary of the store. -/
  keys : String→Slot (Raw β) ℚ
  /-- Calls of `store_result`, in order. -/
  log : List (Written β)

/-- The slot of the in-memory store after an operation, and what is logged.
The store has no eviction and no table. -/
def memoryOp (config : StoreConfig) (now : ℚ) (keys : String→Slot (Raw β) ℚ) :
    Op β→Option (String×Slot (Raw β) ℚ×List (Written β))
  | .lookup k => some (k.redisKey,sweep now (keys k.redisKey),[])
  | .tryClaim k fingerprint =>
    some (k.redisKey,(memoryTryClaim config now k.key fingerprint (keys k.redisKey)).2,[])
  | .storeResult k fingerprint statusCode body =>
    some (k.redisKey,IdempotencyStore.storeResult config now fingerprint statusCode body,
      [⟨k.redisKey,fingerprint,statusCode,body,now⟩])
  | .releaseClaim k => some (k.redisKey,memoryReleaseClaim (keys k.redisKey),[])
  | .evict _ => none
  | .purge _ => none

/-- One operation on the in-memory store. -/
def memoryStep (config : StoreConfig) (h : MemoryHistory β) (c : Call β) :
    Option (MemoryHistory β) :=
  (memoryOp config c.instant h.keys c.op).map fun r =>
    ⟨Function.update h.keys r.1 r.2.1,h.log++r.2.2⟩

/-- An operation of the in-memory store leaves a backed slot. -/
theorem memoryOp_backed {h : MemoryHistory β} {now : ℚ} {op : Op β}
    {r : String×Slot (Raw β) ℚ×List (Written β)}
    (hb : ∀ key,Backed config h.log key (h.keys key))
    (hr : memoryOp config now h.keys op=some r) : Backed config (h.log++r.2.2) r.1 r.2.1 := by
  cases op with
  | lookup k =>
    cases hr
    exact ((hb k.redisKey).sweep now).append []
  | tryClaim k fingerprint =>
    cases hr
    exact ((hb k.redisKey).memoryTryClaim now k.key fingerprint).append []
  | storeResult k fingerprint statusCode body =>
    cases hr
    exact backed_stored (by simp)
  | releaseClaim k =>
    cases hr
    exact (hb k.redisKey).memoryReleaseClaim.append []
  | evict key => cases hr
  | purge k => cases hr

/-- The in-memory store keeps all its keys backed. -/
theorem memoryStep_backed {h h' : MemoryHistory β} {c : Call β}
    (hb : ∀ key,Backed config h.log key (h.keys key)) (hs : memoryStep config h c=some h') :
    ∀ key,Backed config h'.log key (h'.keys key) := by
  obtain ⟨r,hr,rfl⟩ := Option.map_eq_some_iff.mp hs
  intro key
  by_cases hk : key=r.1
  · subst hk
    simpa using memoryOp_backed hb hr
  · simpa [hk] using (hb key).append r.2.2

/-- The window law: the two-tier store obeys it in every history without a
warm-up, whatever the clock and the failures, and the in-memory store obeys
it in every history. -/
theorem lookup_within_window (config : StoreConfig) :
    (∀ h : History β,Reaches (step config) (fun h c => warmsUp h c=false) (History.empty β) h→
        WithinWindow config h) ∧
      ∀ h : MemoryHistory β,
        Reaches (memoryStep config) (fun _ _ => True) ⟨fun _ => none,[]⟩ h→
          ∀ now k record,lookupRecord now (h.keys (ClientKey.redisKey k))=some record→
            Justified config h.log (ClientKey.redisKey k) record now := by
  constructor
  · intro h hr
    have hacc : Accounted config h := by
      refine hr.invariant ⟨fun _ => backed_none,fun _ _ hmem => by cases hmem⟩ ?_
      intro h c h' _ ha hw hs
      cases hs
      exact ha.run c hw
    exact hacc.withinWindow
  · intro h hr now k record hl
    have hb : ∀ key,Backed config h.log key (h.keys key) := by
      refine hr.invariant (P := fun h => ∀ key,Backed config h.log key (h.keys key))
        (fun _ => backed_none) ?_
      intro h c h' _ hb _ hs
      exact memoryStep_backed hb hs
    exact (hb k.redisKey).lookup hl

/-- A result that Redis keeps and a later `lookup` returns. -/
theorem lookup_within_window_stored :
    ∃ h : History ℕ,play (step defaultConfig) (fun h c => warmsUp h c=false) (History.empty ℕ)
        [⟨0,allUp,.storeResult sampleKey "f-1" 200 1⟩,⟨60,allUp,.lookup sampleKey⟩]=some h ∧
      (TwoTierStore.lookup defaultConfig allUp 86400 sampleKey h.tiers).1=
        .ok (some ⟨"f-1",200,1,0⟩) ∧
      Justified defaultConfig h.log sampleKey.redisKey ⟨"f-1",200,1,0⟩ 86400 := by
  obtain ⟨h,hp,hl,hr⟩ := play_ends (step defaultConfig) (fun h c => warmsUp h c=false)
    (History.empty ℕ)
    (fun h => (TwoTierStore.lookup defaultConfig allUp 86400 sampleKey h.tiers).1=
      .ok (some ⟨"f-1",200,1,0⟩))
    [⟨0,allUp,.storeResult sampleKey "f-1" 200 1⟩,⟨60,allUp,.lookup sampleKey⟩]
    (by decide +kernel)
  exact ⟨h,hp,hl,(lookup_within_window defaultConfig).1 h hr allUp 86400 sampleKey _ hl⟩

/-- Redis loses the key, a `lookup` after 23 hours warms it up, and a `lookup`
after 25 hours still returns the record. -/
theorem warm_up_extends_window :
    ¬∀ h : History ℕ,
      Reaches (step defaultConfig) (fun _ c => c.health=allUp) (History.empty ℕ) h→
        WithinWindow defaultConfig h := by
  intro hall
  obtain ⟨h,_,⟨hlog,hl⟩,hr⟩ := play_ends (step defaultConfig) (fun _ c => c.health=allUp)
    (History.empty ℕ)
    (fun h => h.log=[⟨sampleKey.redisKey,"f-1",200,1,0⟩] ∧
      (TwoTierStore.lookup defaultConfig allUp 90000 sampleKey h.tiers).1=
        .ok (some ⟨"f-1",200,1,82800⟩))
    [⟨0,allUp,.storeResult sampleKey "f-1" 200 1⟩,⟨10,allUp,.evict sampleKey.redisKey⟩,
      ⟨82800,allUp,.lookup sampleKey⟩]
    (by decide +kernel)
  obtain ⟨w,hw,_,_,hx⟩ := hall h hr allUp 90000 sampleKey _ hl
  rw [hlog,List.mem_singleton] at hw
  subst hw
  revert hx
  decide +kernel

end Aqts.TwoTierStore
