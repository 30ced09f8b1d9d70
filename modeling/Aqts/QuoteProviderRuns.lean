import Aqts.GuardedRuns
import Aqts.QuoteProvider
import Mathlib.Data.Finset.Card
import Mathlib.Data.Fintype.Card
import Mathlib.Tactic.Linarith

/-!
# Runs of the quote provider

Tasks that call `get_quote` of one provider, between the awaits of the function:
before the lock of the key is asked for, while another task holds the lock, and
while the client is asked. A task can be cancelled at each of them. Nothing
orders the tasks; `invalidate` and `clear` come at any time.
-/

namespace Aqts.QuoteProvider

open Dictionary GuardedRuns KeyedLocks OrderTypes PriceGuard

/-- Where a task is in `get_quote`. -/
inductive Stage
  /-- It is not in it. -/
  | idle
  /-- In `_get_lock`. -/
  | asking (key : QuoteKey)
  /-- At `async with lock`. -/
  | waiting (key : QuoteKey) (lock : ℕ)
  /-- In `_fetch_upstream`, with the lock. -/
  | fetching (key : QuoteKey) (lock : ℕ)
deriving DecidableEq

deriving instance DecidableEq for ProviderAnswer

/-- What a task got. -/
structure Answer (T : Type*) where
  /-- The task. -/
  task : T
  /-- What it asked for. -/
  key : QuoteKey
  /-- When it was answered. -/
  time : ℚ
  /-- The answer. -/
  answer : ProviderAnswer
deriving DecidableEq

/-- A provider, its tasks and what has happened. -/
structure Provider (T : Type*) where
  /-- `_cache`. -/
  cache : Cache
  /-- `_locks`. -/
  locks : Locks QuoteKey T
  /-- Where each task is. -/
  stage : T→Stage
  /-- The instant of the last event. -/
  now : ℚ
  /-- What `get_quote` answered, the last first. -/
  answers : List (Answer T)
  /-- What was stored and when, the last first. -/
  stores : List (QuoteKey×ℚ)

/-- What happens. -/
inductive Action (T : Type*)
  /-- A task calls `get_quote`. -/
  | call (task : T) (key : QuoteKey)
  /-- A task leaves `_get_lock`. -/
  | obtain (task : T)
  /-- A task gets the lock that it waits for. -/
  | acquire (task : T)
  /-- The client answers a task. -/
  | reply (task : T) (reply : Reply)
  /-- A task is cancelled. -/
  | cancel (task : T)
  /-- `invalidate`. -/
  | invalidate (key : QuoteKey)
  /-- `clear`. -/
  | clear

/-- Something that happens at an instant. -/
structure Event (T : Type*) where
  /-- The instant. -/
  time : ℚ
  /-- What happens. -/
  action : Action T

/-- A new provider at an instant. -/
def Provider.start (T : Type*) (now : ℚ) : Provider T :=
  ⟨Dict.empty,Locks.empty,fun _ => .idle,now,[],[]⟩

section Steps

variable {T : Type*} [DecidableEq T]

/-- A task goes to a stage. -/
def Provider.goes (s : Provider T) (task : T) (stage : Stage) : Provider T :=
  {s with stage := Function.update s.stage task stage}

/-- A task leaves `get_quote` with an answer. -/
def Provider.finish (s : Provider T) (task : T) (key : QuoteKey) (answer : ProviderAnswer) :
    Provider T :=
  {s.goes task .idle with answers := ⟨task,key,s.now,answer⟩::s.answers}

/-- `get_quote` up to `_get_lock`. -/
def Provider.call (s : Provider T) (task : T) (key : QuoteKey) : Option (Provider T) :=
  if s.stage task≠.idle then none
  else if key.ticker="" then
    some (s.finish task key (.fetchError key.ticker "ticker must be non-empty"))
  else
    match lookupCache s.cache key s.now with
    | (cache,some quote) => some ({s with cache := cache}.finish task key (.quote quote))
    | (cache,none) => some ({s with cache := cache}.goes task (.asking key))

/-- The lock of the key, from `_get_lock`. -/
def Provider.obtain (s : Provider T) (task : T) : Option (Provider T) :=
  match s.stage task with
  | .asking key =>
    some ({s with locks := (s.locks.obtainLock key).1}.goes task
      (.waiting key (s.locks.obtainLock key).2))
  | _ => none

/-- The second check of the cache, with the lock. A hit leaves the lock at once. -/
def Provider.acquire (s : Provider T) (task : T) : Option (Provider T) :=
  match s.stage task with
  | .waiting key lock =>
    if s.locks.holder lock≠none then none
    else
      match lookupCache s.cache key s.now with
      | (cache,some quote) => some ({s with cache := cache}.finish task key (.quote quote))
      | (cache,none) =>
        some ({s with cache := cache,locks := s.locks.hold lock (some task)}.goes task
          (.fetching key lock))
  | _ => none

/-- The rest of `get_quote` after the client. -/
def Provider.reply (texts : PriceTexts) (config : KISQuoteProviderConfig) (s : Provider T)
    (task : T) (reply : Reply) : Option (Provider T) :=
  match s.stage task with
  | .fetching key lock =>
    match fetchUpstream texts key reply s.now with
    | .error error =>
      some ({s with locks := s.locks.hold lock none}.finish task key
        (.fetchError error.ticker error.reason))
    | .ok quote =>
      some ({s with
        cache := storeCache config s.cache key quote s.now
        locks := s.locks.hold lock none
        stores := (key,s.now)::s.stores}.finish task key (.quote quote))
  | _ => none

/-- A task is cancelled at an await; the lock that it holds is released. -/
def Provider.cancel (s : Provider T) (task : T) : Option (Provider T) :=
  match s.stage task with
  | .idle => none
  | .asking _ => some (s.goes task .idle)
  | .waiting _ _ => some (s.goes task .idle)
  | .fetching _ lock => some ({s with locks := s.locks.hold lock none}.goes task .idle)

/-- What happens at the instant of the provider. -/
def Provider.act (texts : PriceTexts) (config : KISQuoteProviderConfig) (s : Provider T) :
    Action T→Option (Provider T)
  | .call task key => s.call task key
  | .obtain task => s.obtain task
  | .acquire task => s.acquire task
  | .reply task reply => s.reply texts config task reply
  | .cancel task => s.cancel task
  | .invalidate key => some {s with cache := s.cache.erase key}
  | .clear => some {s with cache := Dict.empty,locks := s.locks.clear}

/-- One event; no event is before the last one. -/
def step (texts : PriceTexts) (config : KISQuoteProviderConfig) (s : Provider T) (e : Event T) :
    Option (Provider T) :=
  if e.time< s.now then none else {s with now := e.time}.act texts config e.action

end Steps

section LocksOfTasks

/-- The locks and the stages of the tasks belong together: locks are of the keys
that they are waited for, and the holder of a lock is the task that asks the
client under it. -/
structure LocksAgree {T : Type*} (locks : Locks QuoteKey T) (stage : T→Stage) : Prop where
  /-- A lock that is waited for. -/
  waiting : ∀ (task : T) (key : QuoteKey) (lock : ℕ),stage task=.waiting key lock→
    ∃ era,locks.made[lock]?=some ⟨key,era⟩
  /-- A lock that the client is asked under. -/
  fetching : ∀ (task : T) (key : QuoteKey) (lock : ℕ),stage task=.fetching key lock→
    (∃ era,locks.made[lock]?=some ⟨key,era⟩) ∧ locks.holder lock=some task
  /-- A lock that is held. -/
  holder : ∀ (lock : ℕ) (task : T),locks.holder lock=some task→
    ∃ key,stage task=.fetching key lock

variable {T : Type*} {locks : Locks QuoteKey T} {stage : T→Stage} {task : T} {key : QuoteKey}
  {lock : ℕ}

/-- Nothing is held at the start. -/
theorem LocksAgree.start : LocksAgree (Locks.empty : Locks QuoteKey T) fun _ => .idle where
  waiting := nofun
  fetching := nofun
  holder := nofun

/-- Clearing the dictionary of the locks changes no task. -/
theorem LocksAgree.clear (h : LocksAgree locks stage) : LocksAgree locks.clear stage :=
  ⟨h.waiting,h.fetching,h.holder⟩

variable [DecidableEq T] {other : T} {now after : Stage}

/-- A stage that is not the new one of a task is that of another task. -/
theorem stage_of_update (h : Function.update stage task after other=now) (hne : after≠now) :
    other≠task ∧ stage other=now := by
  have hother : other≠task := by
    rintro rfl
    rw [Function.update_self] at h
    exact hne h
  rw [Function.update_of_ne hother] at h
  exact ⟨hother,h⟩

/-- A stage that the task was not in stays. -/
theorem update_of_stage (h : stage other=now) (hne : stage task≠now) :
    Function.update stage task after other=now := by
  have hother : other≠task := by
    rintro rfl
    exact hne h
  rw [Function.update_of_ne hother,h]

/-- A task without a lock leaves, or asks for the lock. -/
theorem LocksAgree.goes (h : LocksAgree locks stage)
    (hfree : ∀ key lock,stage task≠.fetching key lock) (hwaits : ∀ key lock,after≠.waiting key lock)
    (hfetches : ∀ key lock,after≠.fetching key lock) :
    LocksAgree locks (Function.update stage task after) where
  waiting := by
    intro other key lock hother
    exact h.waiting other key lock (stage_of_update hother (hwaits key lock)).2
  fetching := by
    intro other key lock hother
    exact h.fetching other key lock (stage_of_update hother (hfetches key lock)).2
  holder := by
    intro lock other hother
    obtain ⟨key,hstage⟩ := h.holder lock other hother
    exact ⟨key,update_of_stage hstage (hfree key lock)⟩

/-- A task gets the lock to wait for. -/
theorem LocksAgree.obtain (h : LocksAgree locks stage) (htask : stage task=.asking key) :
    LocksAgree (locks.obtainLock key).1
      (Function.update stage task (.waiting key (locks.obtainLock key).2)) where
  waiting := by
    intro other key' lock hother
    by_cases heq : other=task
    · rw [heq,Function.update_self,Stage.waiting.injEq] at hother
      rw [← hother.1,← hother.2]
      exact ⟨locks.era,locks.obtainLock_made key⟩
    · rw [Function.update_of_ne heq] at hother
      obtain ⟨era,hmade⟩ := h.waiting other key' lock hother
      exact ⟨era,Locks.made_obtainLock hmade⟩
  fetching := by
    intro other key' lock hother
    obtain ⟨_,hstage⟩ := stage_of_update hother nofun
    obtain ⟨⟨era,hmade⟩,hholder⟩ := h.fetching other key' lock hstage
    exact ⟨⟨era,Locks.made_obtainLock hmade⟩,by rw [Locks.holder_obtainLock,hholder]⟩
  holder := by
    intro lock other hother
    rw [Locks.holder_obtainLock] at hother
    obtain ⟨key',hstage⟩ := h.holder lock other hother
    exact ⟨key',update_of_stage hstage (by rw [htask]; exact nofun)⟩

/-- A task takes the lock that it waits for. -/
theorem LocksAgree.take (h : LocksAgree locks stage) (htask : stage task=.waiting key lock)
    (hfree : locks.holder lock=none) :
    LocksAgree (locks.hold lock (some task))
      (Function.update stage task (.fetching key lock)) where
  waiting := by
    intro other key' lock' hother
    exact h.waiting other key' lock' (stage_of_update hother nofun).2
  fetching := by
    intro other key' lock' hother
    by_cases heq : other=task
    · rw [heq,Function.update_self,Stage.fetching.injEq] at hother
      rw [← hother.1,← hother.2,heq]
      exact ⟨h.waiting task key lock htask,Locks.holder_hold_self⟩
    · rw [Function.update_of_ne heq] at hother
      obtain ⟨hmade,hholder⟩ := h.fetching other key' lock' hother
      have hne : lock'≠lock := by
        rintro rfl
        rw [hfree] at hholder
        cases hholder
      exact ⟨hmade,by rw [Locks.holder_hold_of_ne hne,hholder]⟩
  holder := by
    intro lock' other hother
    by_cases heq : lock'=lock
    · rw [heq,Locks.holder_hold_self,Option.some.injEq] at hother
      rw [← hother,heq]
      exact ⟨key,Function.update_self ..⟩
    · rw [Locks.holder_hold_of_ne heq] at hother
      obtain ⟨key',hstage⟩ := h.holder lock' other hother
      exact ⟨key',update_of_stage hstage (by rw [htask]; exact nofun)⟩

/-- A task leaves with the lock that it holds. -/
theorem LocksAgree.release (h : LocksAgree locks stage) (htask : stage task=.fetching key lock) :
    LocksAgree (locks.hold lock none) (Function.update stage task .idle) where
  waiting := by
    intro other key' lock' hother
    exact h.waiting other key' lock' (stage_of_update hother nofun).2
  fetching := by
    intro other key' lock' hother
    obtain ⟨hne,hstage⟩ := stage_of_update hother nofun
    obtain ⟨hmade,hholder⟩ := h.fetching other key' lock' hstage
    have hlock : lock'≠lock := by
      rintro rfl
      rw [(h.fetching task key lock' htask).2,Option.some.injEq] at hholder
      exact hne hholder.symm
    exact ⟨hmade,by rw [Locks.holder_hold_of_ne hlock,hholder]⟩
  holder := by
    intro lock' other hother
    have hlock : lock'≠lock := by
      rintro rfl
      rw [Locks.holder_hold_self] at hother
      cases hother
    rw [Locks.holder_hold_of_ne hlock] at hother
    obtain ⟨key',hstage⟩ := h.holder lock' other hother
    have hne : stage task≠.fetching key' lock' := by
      rw [htask]
      intro heq
      exact hlock (Stage.fetching.inj heq).2.symm
    exact ⟨key',update_of_stage hstage hne⟩

end LocksOfTasks

section Effects

variable {T : Type*} [DecidableEq T]

/-- What each action does. -/
inductive Effect (config : KISQuoteProviderConfig) (s : Provider T) : Action T→Provider T→Prop
  /-- A request without a ticker. -/
  | refused (task : T) (key : QuoteKey) (ticker reason : String) (hstage : s.stage task=.idle) :
      Effect config s (.call task key) (s.finish task key (.fetchError ticker reason))
  /-- A hit of the first check. -/
  | hit (task : T) (key : QuoteKey) (quote : Quote) (hstage : s.stage task=.idle)
      (hhit : (lookupCache s.cache key s.now).2=some quote) :
      Effect config s (.call task key)
        ({s with cache := (lookupCache s.cache key s.now).1}.finish task key (.quote quote))
  /-- A miss of the first check. -/
  | missed (task : T) (key : QuoteKey) (hstage : s.stage task=.idle)
      (hmiss : (lookupCache s.cache key s.now).2=none) :
      Effect config s (.call task key)
        ({s with cache := (lookupCache s.cache key s.now).1}.goes task (.asking key))
  /-- The lock of the key. -/
  | obtained (task : T) (key : QuoteKey) (hstage : s.stage task=.asking key) :
      Effect config s (.obtain task)
        ({s with locks := (s.locks.obtainLock key).1}.goes task
          (.waiting key (s.locks.obtainLock key).2))
  /-- A hit of the second check. -/
  | found (task : T) (key : QuoteKey) (lock : ℕ) (quote : Quote)
      (hstage : s.stage task=.waiting key lock)
      (hhit : (lookupCache s.cache key s.now).2=some quote) :
      Effect config s (.acquire task)
        ({s with cache := (lookupCache s.cache key s.now).1}.finish task key (.quote quote))
  /-- A miss of the second check. -/
  | taken (task : T) (key : QuoteKey) (lock : ℕ) (hstage : s.stage task=.waiting key lock)
      (hfree : s.locks.holder lock=none) (hmiss : (lookupCache s.cache key s.now).2=none) :
      Effect config s (.acquire task)
        ({s with
          cache := (lookupCache s.cache key s.now).1
          locks := s.locks.hold lock (some task)}.goes task (.fetching key lock))
  /-- No quote from the client. -/
  | failed (task : T) (key : QuoteKey) (lock : ℕ) (reply : Reply) (ticker reason : String)
      (hstage : s.stage task=.fetching key lock) :
      Effect config s (.reply task reply)
        ({s with locks := s.locks.hold lock none}.finish task key (.fetchError ticker reason))
  /-- A quote from the client. -/
  | stored (task : T) (key : QuoteKey) (lock : ℕ) (reply : Reply) (quote : Quote)
      (hstage : s.stage task=.fetching key lock) (hticker : quote.ticker=key.ticker)
      (hmarket : quote.market=key.market) (htime : quote.fetchedAt=s.now) :
      Effect config s (.reply task reply)
        ({s with
          cache := storeCache config s.cache key quote s.now
          locks := s.locks.hold lock none
          stores := (key,s.now)::s.stores}.finish task key (.quote quote))
  /-- A cancelled task without a lock. -/
  | left (task : T) (hfree : ∀ key lock,s.stage task≠.fetching key lock) :
      Effect config s (.cancel task) (s.goes task .idle)
  /-- A cancelled task with a lock. -/
  | released (task : T) (key : QuoteKey) (lock : ℕ) (hstage : s.stage task=.fetching key lock) :
      Effect config s (.cancel task) ({s with locks := s.locks.hold lock none}.goes task .idle)
  /-- One entry is dropped. -/
  | invalidated (key : QuoteKey) :
      Effect config s (.invalidate key) {s with cache := s.cache.erase key}
  /-- All entries and the dictionary of the locks are dropped. -/
  | cleared : Effect config s .clear {s with cache := Dict.empty,locks := s.locks.clear}

variable {texts : PriceTexts} {config : KISQuoteProviderConfig} {s s' : Provider T}

/-- Every action has one of these effects. -/
theorem act_effect {action : Action T} (h : s.act texts config action=some s') :
    Effect config s action s' := by
  cases action with
  | call task key =>
    change s.call task key=some s' at h
    unfold Provider.call at h
    split at h
    · cases h
    · rename_i hstage
      have hidle : s.stage task=.idle := not_not.mp hstage
      split at h
      · cases h
        exact .refused task key _ _ hidle
      · split at h
        · rename_i cache quote heq
          cases h
          have hcache : cache=(lookupCache s.cache key s.now).1 := by rw [heq]
          rw [hcache]
          exact .hit task key quote hidle (by rw [heq])
        · rename_i cache heq
          cases h
          have hcache : cache=(lookupCache s.cache key s.now).1 := by rw [heq]
          rw [hcache]
          exact .missed task key hidle (by rw [heq])
  | obtain task =>
    change s.obtain task=some s' at h
    unfold Provider.obtain at h
    split at h
    · rename_i key hstage
      cases h
      exact .obtained task key hstage
    · cases h
  | acquire task =>
    change s.acquire task=some s' at h
    unfold Provider.acquire at h
    split at h
    · rename_i key lock hstage
      split at h
      · cases h
      · rename_i hholder
        split at h
        · rename_i cache quote heq
          cases h
          have hcache : cache=(lookupCache s.cache key s.now).1 := by rw [heq]
          rw [hcache]
          exact .found task key lock quote hstage (by rw [heq])
        · rename_i cache heq
          cases h
          have hcache : cache=(lookupCache s.cache key s.now).1 := by rw [heq]
          rw [hcache]
          exact .taken task key lock hstage (not_not.mp hholder) (by rw [heq])
    · cases h
  | reply task reply =>
    change s.reply texts config task reply=some s' at h
    unfold Provider.reply at h
    split at h
    · rename_i key lock hstage
      split at h
      · rename_i error _
        cases h
        exact .failed task key lock reply _ _ hstage
      · rename_i quote hquote
        cases h
        obtain ⟨hticker,hmarket,htime⟩ := fetchUpstream_ok hquote
        exact .stored task key lock reply quote hstage hticker hmarket htime
    · cases h
  | cancel task =>
    change s.cancel task=some s' at h
    unfold Provider.cancel at h
    split at h
    · cases h
    · rename_i key hstage
      cases h
      exact .left task (by rw [hstage]; exact nofun)
    · rename_i key lock hstage
      cases h
      exact .left task (by rw [hstage]; exact nofun)
    · rename_i key lock hstage
      cases h
      exact .released task key lock hstage
  | invalidate key =>
    cases h
    exact .invalidated key
  | clear =>
    cases h
    exact .cleared

/-- A step is an action at its instant, which is not before the last one. -/
theorem step_effect {e : Event T} (h : step texts config s e=some s') :
    s.now≤e.time ∧ Effect config {s with now := e.time} e.action s' := by
  unfold step at h
  split at h
  · cases h
  · rename_i htime
    exact ⟨not_lt.mp htime,act_effect h⟩

end Effects

section Soundness

/-- Entries are of their keys and expire a fixed time after the client answered,
and there are not too many of them. -/
structure CacheSound (config : KISQuoteProviderConfig) (cache : Cache) (now : ℚ) : Prop where
  /-- The entry of a key. -/
  entry : ∀ (key : QuoteKey) (entry : CacheEntry),cache.get? key=some entry→
    entry.quote.ticker=key.ticker ∧ entry.quote.market=key.market ∧
      entry.quote.fetchedAt≤now ∧
      entry.expiresMonotonic=entry.quote.fetchedAt+config.cacheTtlSeconds
  /-- `max_cache_entries`. -/
  bound : cache.items.length≤ config.maxCacheEntries

variable {config : KISQuoteProviderConfig} {cache : Cache} {now now' : ℚ} {key : QuoteKey}

/-- The empty cache is sound. -/
theorem CacheSound.empty : CacheSound config Dict.empty now where
  entry := by
    intro key entry h
    cases h
  bound := Nat.zero_le _

/-- Time passes. -/
theorem CacheSound.later (h : CacheSound config cache now) (hle : now≤now') :
    CacheSound config cache now' where
  entry := by
    intro key entry hentry
    obtain ⟨hticker,hmarket,htime,hexpires⟩ := h.entry key entry hentry
    exact ⟨hticker,hmarket,htime.trans hle,hexpires⟩
  bound := h.bound

/-- A lookup keeps the cache sound. -/
theorem CacheSound.lookup (h : CacheSound config cache now) :
    CacheSound config (lookupCache cache key now).1 now where
  entry := fun other entry hentry => h.entry other entry (get?_lookupCache hentry)
  bound := length_lookupCache.trans h.bound

/-- Dropping an entry keeps the cache sound. -/
theorem CacheSound.erase (h : CacheSound config cache now) :
    CacheSound config (cache.erase key) now where
  entry := by
    intro other entry hentry
    rw [Dict.get?_erase] at hentry
    split at hentry
    · cases hentry
    · exact h.entry other entry hentry
  bound := (List.length_filter_le _ _).trans h.bound

/-- Storing a quote of this instant keeps the cache sound. -/
theorem CacheSound.store {quote : Quote} (h : CacheSound config cache now)
    (hticker : quote.ticker=key.ticker) (hmarket : quote.market=key.market)
    (htime : quote.fetchedAt=now) : CacheSound config (storeCache config cache key quote now) now where
  entry := by
    intro other entry hentry
    rcases get?_storeCache hentry with ⟨rfl,rfl⟩ | hold
    · exact ⟨hticker,hmarket,htime.le,by rw [htime]⟩
    · exact h.entry other entry hold
  bound := length_storeCache h.bound

/-- A hit is of its key and younger than the duration of the cache. -/
theorem CacheSound.hit {quote : Quote} (h : CacheSound config cache now)
    (hhit : (lookupCache cache key now).2=some quote) :
    quote.ticker=key.ticker ∧ quote.market=key.market ∧ quote.fetchedAt≤now ∧
      now< quote.fetchedAt+config.cacheTtlSeconds := by
  obtain ⟨entry,hentry,rfl,hfresh⟩ := lookupCache_hit hhit
  obtain ⟨hticker,hmarket,htime,hexpires⟩ := h.entry key entry hentry
  rw [hexpires] at hfresh
  exact ⟨hticker,hmarket,htime,hfresh⟩

/-- An answered quote is of the key that was asked for and younger than the
duration of the cache. -/
def Answer.Sound {T : Type*} (config : KISQuoteProviderConfig) (a : Answer T) : Prop :=
  ∀ quote,a.answer=.quote quote→quote.ticker=a.key.ticker ∧ quote.market=a.key.market ∧
    quote.fetchedAt≤a.time ∧ a.time< quote.fetchedAt+config.cacheTtlSeconds

/-- What holds of a provider in every run. -/
structure Sound {T : Type*} (config : KISQuoteProviderConfig) (s : Provider T) : Prop where
  /-- Locks and tasks. -/
  agree : LocksAgree s.locks s.stage
  /-- The cache. -/
  cache : CacheSound config s.cache s.now
  /-- What was answered. -/
  answers : ∀ a∈s.answers,a.Sound config

variable {T : Type*} {s s' : Provider T} {action : Action T}

/-- A new provider is sound. -/
theorem Sound.start : Sound config (Provider.start T now) :=
  ⟨LocksAgree.start,CacheSound.empty,nofun⟩

/-- Time passes. -/
theorem Sound.later (h : Sound config s) (hle : s.now≤now) : Sound config {s with now := now} :=
  ⟨h.agree,h.cache.later hle,h.answers⟩

/-- One more answer. -/
theorem Sound.cons {a : Answer T} (h : Sound config s) (ha : a.Sound config) :
    ∀ b∈a::s.answers,b.Sound config := by
  intro b hb
  obtain rfl | hold := List.mem_cons.mp hb
  · exact ha
  · exact h.answers b hold

variable [DecidableEq T]

/-- Every action keeps a provider sound. -/
theorem Sound.effect (h : Sound config s) (he : Effect config s action s') : Sound config s' := by
  cases he with
  | refused task key ticker reason hstage =>
    exact ⟨h.agree.goes (by rw [hstage]; exact nofun) nofun nofun,h.cache,h.cons nofun⟩
  | hit task key quote hstage hhit =>
    refine ⟨h.agree.goes (by rw [hstage]; exact nofun) nofun nofun,h.cache.lookup,h.cons ?_⟩
    rintro _ ⟨⟩
    exact h.cache.hit hhit
  | missed task key hstage hmiss =>
    exact ⟨h.agree.goes (by rw [hstage]; exact nofun) nofun nofun,h.cache.lookup,h.answers⟩
  | obtained task key hstage => exact ⟨h.agree.obtain hstage,h.cache,h.answers⟩
  | found task key lock quote hstage hhit =>
    refine ⟨h.agree.goes (by rw [hstage]; exact nofun) nofun nofun,h.cache.lookup,h.cons ?_⟩
    rintro _ ⟨⟩
    exact h.cache.hit hhit
  | taken task key lock hstage hfree hmiss =>
    exact ⟨h.agree.take hstage hfree,h.cache.lookup,h.answers⟩
  | failed task key lock reply ticker reason hstage =>
    exact ⟨h.agree.release hstage,h.cache,h.cons nofun⟩
  | stored task key lock reply quote hstage hticker hmarket htime =>
    refine ⟨h.agree.release hstage,h.cache.store hticker hmarket htime,h.cons ?_⟩
    rintro _ ⟨⟩
    exact ⟨hticker,hmarket,htime.le,by
      rw [htime]
      exact lt_add_of_pos_right _ config.ttlPositive⟩
  | left task hfree => exact ⟨h.agree.goes hfree nofun nofun,h.cache,h.answers⟩
  | released task key lock hstage => exact ⟨h.agree.release hstage,h.cache,h.answers⟩
  | invalidated key => exact ⟨h.agree,h.cache.erase,h.answers⟩
  | cleared => exact ⟨h.agree.clear,CacheSound.empty,h.answers⟩

variable {texts : PriceTexts} {allowed : Provider T→Event T→Prop}

/-- A provider is sound in every run. -/
theorem Sound.reached (h : Reaches (step texts config) allowed (Provider.start T now) s) :
    Sound config s := by
  refine h.invariant Sound.start ?_
  intro s e s' _ hs _ hstep
  obtain ⟨htime,he⟩ := step_effect hstep
  exact (hs.later htime).effect he

omit [DecidableEq T] in
/-- Tasks that ask the client for one key do so under locks of different eras. -/
theorem fetching_inj {s : Provider T} (h : LocksAgree s.locks s.stage)
    {task task' : T} {lock lock' era : ℕ} (hstage : s.stage task=.fetching key lock)
    (hstage' : s.stage task'=.fetching key lock') (hmade : s.locks.made[lock]?=some ⟨key,era⟩)
    (hmade' : s.locks.made[lock']?=some ⟨key,era⟩) : task=task' :=
  Locks.holder_unique hmade hmade' (h.fetching task key lock hstage).2
    (h.fetching task' key lock' hstage').2

end Soundness

section Results

variable {T : Type*} [DecidableEq T] {texts : PriceTexts} {config : KISQuoteProviderConfig}

/-- Every quote that `get_quote` answers, from the client or from the cache,
passes the guard of an order that accepts quotes of the duration of the cache;
the cache is never larger than its bound. -/
theorem quotes_pass_the_guard (start : ℚ) (s : Provider T)
    (h : Reaches (step texts config) (fun _ _ => True) (Provider.start T start) s) :
    s.cache.items.length≤ config.maxCacheEntries ∧
      ∀ a∈s.answers,∀ quote,a.answer=.quote quote→∀ maxAge,config.cacheTtlSeconds≤ maxAge→
        fetchAndValidateQuote a.answer a.key.ticker a.key.market maxAge a.time=.ok quote := by
  have hsound := Sound.reached h
  refine ⟨hsound.cache.bound,?_⟩
  intro a ha quote hquote maxAge hage
  obtain ⟨hticker,hmarket,htime,hfresh⟩ := hsound.answers a ha quote hquote
  have hage0 : 0< maxAge := config.ttlPositive.trans_le hage
  have hfresh' : assertQuoteFresh quote maxAge a.time=.ok () := by
    unfold assertQuoteFresh
    rw [if_neg (not_le.mpr hage0),if_neg (by linarith),if_neg (by linarith)]
  unfold fetchAndValidateQuote
  rw [hquote]
  dsimp only
  rw [if_neg (not_or.mpr ⟨not_not.mpr hticker,not_not.mpr hmarket⟩),hfresh']

/-- However the tasks are interleaved, the client is asked for a key by one task
at a time, plus one for each `clear`. -/
theorem fetches_le_clears (start : ℚ) (s : Provider T)
    (h : Reaches (step texts config) (fun _ _ => True) (Provider.start T start) s) (key : QuoteKey)
    (tasks : List T) (hnodup : tasks.Nodup)
    (hfetching : ∀ task∈tasks,∃ lock,s.stage task=.fetching key lock) :
    tasks.length≤ s.locks.era+1 := by
  have hagree := (Sound.reached h).agree
  have hera : ∀ task : tasks.toFinset,∃ era lock,era∈Finset.range (s.locks.era+1) ∧
      s.stage task.1=.fetching key lock ∧ s.locks.made[lock]?=some ⟨key,era⟩ := by
    intro task
    obtain ⟨lock,hstage⟩ := hfetching task.1 (List.mem_toFinset.mp task.2)
    obtain ⟨⟨era,hmade⟩,_⟩ := hagree.fetching task.1 key lock hstage
    exact ⟨era,lock,Finset.mem_range.mpr (Nat.lt_succ_of_le (s.locks.era_le lock _ hmade)),
      hstage,hmade⟩
  choose era lock hrange hstage hmade using hera
  have hinj : Function.Injective era := by
    intro task task' heq
    have hmade' := hmade task'
    rw [← heq] at hmade'
    exact Subtype.ext (fetching_inj hagree (hstage task) (hstage task') (hmade task) hmade')
  rw [← List.toFinset_card_of_nodup hnodup,← Fintype.card_coe,← Finset.card_univ,
    ← Finset.card_range (s.locks.era+1)]
  exact Finset.card_le_card_of_injOn era (fun task _ => hrange task) hinj.injOn

end Results

section SmallRuns

/-- Texts of the small runs. -/
def smallTexts : PriceTexts := ⟨fun text => if text="70000" then some 70000 else none,id,fun _ => ""⟩

/-- A ticker of the small runs. -/
def smallKey : QuoteKey := ⟨"005930",.krx⟩

/-- A response with a price. -/
def smallReply : Reply := .returns (.dict (some (Dict.empty.set "stck_prpr" (.text "70000"))))

/-- A task asks the client; after `clear` another one does so too. -/
def twoFetches : List (Event ℕ) :=
  [⟨0,.call 1 smallKey⟩,⟨0,.obtain 1⟩,⟨0,.acquire 1⟩,⟨1,.clear⟩,⟨1,.call 2 smallKey⟩,⟨1,.obtain 2⟩,
    ⟨2,.acquire 2⟩]

/-- One `clear` lets two tasks ask the client for one key. -/
theorem fetches_le_clears_two : ∃ s : Provider ℕ,s.locks.era=1 ∧ [1,2].length≤ s.locks.era+1 := by
  obtain ⟨s,_,⟨hera,h1,h2⟩,hr⟩ := play_ends (step smallTexts .default) (fun _ _ => True)
    (Provider.start ℕ 0) (fun s => s.locks.era=1 ∧ s.stage 1=.fetching smallKey 0 ∧
      s.stage 2=.fetching smallKey 1) twoFetches (by decide +kernel)
  refine ⟨s,hera,fetches_le_clears 0 s hr smallKey [1,2] (by decide) ?_⟩
  intro task htask
  obtain rfl | htask := List.mem_cons.mp htask
  · exact ⟨0,h1⟩
  · obtain rfl := List.mem_singleton.mp htask
    exact ⟨1,h2⟩

/-- A task gets a quote from the client, and another one finds it in the cache. -/
def cachedQuote : List (Event ℕ) :=
  [⟨0,.call 1 smallKey⟩,⟨0,.call 2 smallKey⟩,⟨0,.obtain 1⟩,⟨0,.obtain 2⟩,⟨0,.acquire 1⟩,
    ⟨1,.reply 1 smallReply⟩,⟨2,.acquire 2⟩]

/-- The quote of that run. -/
def smallQuote : Quote := ⟨"005930",.krx,70000,1,by norm_num⟩

/-- The quote from the cache passes the guard of five seconds. -/
theorem quotes_pass_the_guard_cached : ∃ s : Provider ℕ,∃ a∈s.answers,a.task=2 ∧
    fetchAndValidateQuote a.answer a.key.ticker a.key.market 5 a.time=.ok smallQuote := by
  obtain ⟨s,_,hhead,hr⟩ := play_ends (step smallTexts .default) (fun _ _ => True)
    (Provider.start ℕ 0) (fun s => s.answers.head?=some ⟨2,smallKey,2,.quote smallQuote⟩)
    cachedQuote (by decide +kernel)
  have hage : KISQuoteProviderConfig.default.cacheTtlSeconds≤5 := by decide +kernel
  have ha : ⟨2,smallKey,2,.quote smallQuote⟩∈s.answers := List.mem_of_head? hhead
  exact ⟨s,_,ha,rfl,(quotes_pass_the_guard 0 s hr).2 _ ha smallQuote rfl 5 hage⟩

end SmallRuns

section Progress

variable {T : Type*} [DecidableEq T]

/-- The events by which tasks come forward: locks and the client. -/
def Forward (_ : Provider T) (e : Event T) : Prop :=
  match e.action with
  | .obtain _ | .acquire _ | .reply _ _ => True
  | _ => False

variable (texts : PriceTexts) (config : KISQuoteProviderConfig) {s : Provider T} {task : T}
  {key : QuoteKey} {lock : ℕ}

/-- A run goes on with an action at the instant of the provider. -/
theorem forward_act {s' : Provider T} (action : Action T) (hforward : Forward s ⟨s.now,action⟩)
    (h : s.act texts config action=some s') : Reaches (step texts config) Forward s s' := by
  refine .next .start hforward ?_
  unfold step
  rw [if_neg (lt_irrefl _)]
  exact h

/-- An answer of the client that is no quote. -/
theorem reply_raises (text : String) (hstage : s.stage task=.fetching key lock) :
    s.reply texts config task (.raises text)=some ({s with locks := s.locks.hold lock none}.finish
      task key (.fetchError key.ticker ("KIS upstream error: "++text))) := by
  unfold Provider.reply
  rw [hstage]
  rfl

/-- The second check of the cache with a free lock. -/
theorem acquire_free (hstage : s.stage task=.waiting key lock)
    (hfree : s.locks.holder lock=none) :
    s.acquire task=some (match (lookupCache s.cache key s.now).2 with
      | some quote =>
        {s with cache := (lookupCache s.cache key s.now).1}.finish task key (.quote quote)
      | none =>
        {s with
          cache := (lookupCache s.cache key s.now).1
          locks := s.locks.hold lock (some task)}.goes task (.fetching key lock)) := by
  unfold Provider.acquire
  rw [hstage]
  dsimp only
  rw [if_neg (not_not.mpr hfree)]
  rcases lookupCache s.cache key s.now with ⟨cache,_ | quote⟩
  · rfl
  · rfl

/-- A task that asks the client is answered when the client raises. -/
theorem answered_of_fetching (hstage : s.stage task=.fetching key lock) :
    ∃ s',Reaches (step texts config) Forward s s' ∧ ∃ a∈s'.answers.head?,a.task=task :=
  ⟨_,forward_act texts config (.reply task (.raises "")) trivial
    (reply_raises texts config "" hstage),_,rfl,rfl⟩

/-- A task that waits for a free lock is answered. -/
theorem answered_of_free (hstage : s.stage task=.waiting key lock)
    (hfree : s.locks.holder lock=none) :
    ∃ s',Reaches (step texts config) Forward s s' ∧ ∃ a∈s'.answers.head?,a.task=task := by
  have hrun := forward_act texts config (.acquire task) trivial (acquire_free hstage hfree)
  cases hlook : (lookupCache s.cache key s.now).2 with
  | some quote =>
    rw [hlook] at hrun
    exact ⟨_,hrun,_,rfl,rfl⟩
  | none =>
    rw [hlook] at hrun
    obtain ⟨s',hrun',ha⟩ := answered_of_fetching texts config
      (s := {s with
        cache := (lookupCache s.cache key s.now).1
        locks := s.locks.hold lock (some task)}.goes task (.fetching key lock))
      (Function.update_self ..)
    exact ⟨s',hrun.trans hrun',ha⟩

/-- A task that waits for a lock is answered: a task that holds it leaves first. -/
theorem answered_of_waiting (hagree : LocksAgree s.locks s.stage)
    (hstage : s.stage task=.waiting key lock) :
    ∃ s',Reaches (step texts config) Forward s s' ∧ ∃ a∈s'.answers.head?,a.task=task := by
  cases hholder : s.locks.holder lock with
  | none => exact answered_of_free texts config hstage hholder
  | some holder =>
    obtain ⟨other,hfetching⟩ := hagree.holder lock holder hholder
    have hrun := forward_act texts config (.reply holder (.raises "")) trivial
      (reply_raises texts config "" hfetching)
    have hwaits : Function.update s.stage holder .idle task=.waiting key lock :=
      update_of_stage hstage (by rw [hfetching]; exact nofun)
    obtain ⟨s',hrun',ha⟩ := answered_of_free texts config (s := {s with
      locks := s.locks.hold lock none}.finish holder other
        (.fetchError other.ticker ("KIS upstream error: "++""))) hwaits Locks.holder_hold_self
    exact ⟨s',hrun.trans hrun',ha⟩

/-- No task is stuck: from every state that is reached, whoever was cancelled
before and whatever was cleared, each task in `get_quote` can be answered by
steps of the locks and of the client only. -/
theorem no_task_is_stuck (start : ℚ) (s : Provider T)
    (h : Reaches (step texts config) (fun _ _ => True) (Provider.start T start) s) (task : T)
    (htask : s.stage task≠.idle) :
    ∃ s',Reaches (step texts config) Forward s s' ∧ ∃ a∈s'.answers.head?,a.task=task := by
  have hagree := (Sound.reached h).agree
  cases hstage : s.stage task with
  | idle => exact absurd hstage htask
  | asking key =>
    have hobtain : s.obtain task=some ({s with locks := (s.locks.obtainLock key).1}.goes task
        (.waiting key (s.locks.obtainLock key).2)) := by
      unfold Provider.obtain
      rw [hstage]
    have hrun := forward_act texts config (.obtain task) trivial hobtain
    obtain ⟨s',hrun',ha⟩ := answered_of_waiting texts config (s := {s with
      locks := (s.locks.obtainLock key).1}.goes task
        (.waiting key (s.locks.obtainLock key).2)) (hagree.obtain hstage) (Function.update_self ..)
    exact ⟨s',hrun.trans hrun',ha⟩
  | waiting key lock => exact answered_of_waiting texts config hagree hstage
  | fetching key lock => exact answered_of_fetching texts config hstage

/-- A task that waits while another one asks the client is not stuck. -/
theorem no_task_is_stuck_waiting : ∃ s s' : Provider ℕ,s.stage 2=.waiting smallKey 0 ∧
    s.locks.holder 0=some 1 ∧ ∃ a∈s'.answers.head?,a.task=2 := by
  obtain ⟨s,_,⟨hwaits,hholder⟩,hr⟩ := play_ends (step smallTexts .default) (fun _ _ => True)
    (Provider.start ℕ 0) (fun s => s.stage 2=.waiting smallKey 0 ∧ s.locks.holder 0=some 1)
    (cachedQuote.take 5) (by decide +kernel)
  obtain ⟨s',_,ha⟩ := no_task_is_stuck smallTexts .default 0 s hr 2 (by rw [hwaits]; exact nofun)
  exact ⟨s,s',hwaits,hholder,ha⟩

end Progress

end Aqts.QuoteProvider
