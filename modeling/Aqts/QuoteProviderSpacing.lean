import Aqts.QuoteProviderRuns
import Aqts.SpacedTimes

/-!
# How often the client gives a quote

The quotes of one key that the client gave and the provider stored. While the
entry of the key stays until it expires, they are apart by the duration of the
cache: a task that misses the cache holds the only lock of the key, and the last
quote has expired when it asks.
-/

namespace Aqts.QuoteProvider

open Dictionary GuardedRuns KeyedLocks PriceGuard SpacedTimes

section Spacing

variable {T : Type*}

/-- When quotes of a key were stored, the last first. -/
def storeTimes (key : QuoteKey) (stores : List (QuoteKey×ℚ)) : List ℚ :=
  (stores.filter fun store => store.1=key).map Prod.snd

/-- One more quote of the key. -/
theorem storeTimes_cons_self (key : QuoteKey) (time : ℚ) (stores : List (QuoteKey×ℚ)) :
    storeTimes key ((key,time)::stores)=time::storeTimes key stores := by
  unfold storeTimes
  rw [List.filter_cons_of_pos (by simp),List.map_cons]

/-- One more quote of another key. -/
theorem storeTimes_cons_of_ne {key other : QuoteKey} (h : other≠key) (time : ℚ)
    (stores : List (QuoteKey×ℚ)) : storeTimes key ((other,time)::stores)=storeTimes key stores := by
  unfold storeTimes
  rw [List.filter_cons_of_neg (by simpa using h)]

/-- Events that drop no entry of a key: no `clear`, no `invalidate` of the key,
and no storing for which the entry of the key makes room. -/
def Keeps (config : KISQuoteProviderConfig) (key : QuoteKey) (s : Provider T) (e : Event T) : Prop :=
  match e.action with
  | .clear => False
  | .invalidate other => other≠key
  | .reply _ _ => evictedKey config s.cache≠some key
  | _ => True

instance (config : KISQuoteProviderConfig) (key : QuoteKey) (s : Provider T) (e : Event T) :
    Decidable (Keeps config key s e) := by
  unfold Keeps
  split <;> infer_instance

/-- What keeps the quotes of a key apart. -/
structure Kept (config : KISQuoteProviderConfig) (key : QuoteKey) (s : Provider T) : Prop where
  /-- The dictionary of the locks was never cleared. -/
  era : s.locks.era=0
  /-- The stored quotes are apart. -/
  spaced : Spaced config.cacheTtlSeconds (storeTimes key s.stores)
  /-- The last of them is in the cache until it has expired. -/
  cached : ∀ last∈(storeTimes key s.stores).head?,s.now< last+config.cacheTtlSeconds→
    ∃ entry,s.cache.get? key=some entry ∧ entry.expiresMonotonic=last+config.cacheTtlSeconds
  /-- The client is asked only after that. -/
  fetching : ∀ (task : T) (lock : ℕ),s.stage task=.fetching key lock→
    ∀ last∈(storeTimes key s.stores).head?,last+config.cacheTtlSeconds≤ s.now

variable {config : KISQuoteProviderConfig} {key other : QuoteKey} {s s' : Provider T} {now : ℚ}

/-- A new provider has stored nothing. -/
theorem Kept.start : Kept config key (Provider.start T now) :=
  ⟨rfl,spaced_nil,nofun,nofun⟩

/-- Time passes. -/
theorem Kept.later (h : Kept config key s) (hle : s.now≤now) :
    Kept config key {s with now := now} where
  era := h.era
  spaced := h.spaced
  cached := fun last hlast hnow => h.cached last hlast (hle.trans_lt hnow)
  fetching := fun task lock hstage last hlast => (h.fetching task lock hstage last hlast).trans hle

/-- Another cache with all entries that have not expired, and other stages. -/
theorem Kept.update {cache : Cache} {locks : Locks QuoteKey T} {stage : T→Stage}
    {answers : List (Answer T)} {stores : List (QuoteKey×ℚ)} (h : Kept config key s)
    (hera : locks.era=s.locks.era)
    (hcache : ∀ entry,s.cache.get? key=some entry→s.now< entry.expiresMonotonic→
      cache.get? key=some entry)
    (hstage : ∀ task lock,stage task=.fetching key lock→
      (∃ lock,s.stage task=.fetching key lock) ∨
        ∀ entry,s.cache.get? key=some entry→entry.expiresMonotonic≤ s.now)
    (hstores : storeTimes key stores=storeTimes key s.stores) :
    Kept config key ⟨cache,locks,stage,s.now,answers,stores⟩ where
  era := hera.trans h.era
  spaced := hstores ▸ h.spaced
  cached := by
    intro last hlast hnow
    rw [hstores] at hlast
    obtain ⟨entry,hentry,hexpires⟩ := h.cached last hlast hnow
    exact ⟨entry,hcache entry hentry (hexpires ▸ hnow),hexpires⟩
  fetching := by
    intro task lock htask last hlast
    rw [hstores] at hlast
    rcases hstage task lock htask with ⟨lock',hbefore⟩ | hexpired
    · exact h.fetching task lock' hbefore last hlast
    · by_contra hnot
      obtain ⟨entry,hentry,hexpires⟩ := h.cached last hlast (not_le.mp hnot)
      exact hnot (hexpires ▸ hexpired entry hentry)

variable [DecidableEq T]

/-- A quote of the key is stored. -/
theorem Kept.stored {task : T} {lock : ℕ} {quote : Quote} {answers : List (Answer T)}
    (h : Kept config key s) (hs : LocksAgree s.locks s.stage)
    (hstage : s.stage task=.fetching key lock) :
    Kept config key ⟨storeCache config s.cache key quote s.now,s.locks.hold lock none,
      Function.update s.stage task .idle,s.now,answers,(key,s.now)::s.stores⟩ := by
  have hmade : ∀ (task : T) (lock : ℕ),s.stage task=.fetching key lock→
      s.locks.made[lock]?=some ⟨key,0⟩ := by
    intro task lock htask
    obtain ⟨⟨era,hmade⟩,_⟩ := hs.fetching task key lock htask
    have hera : era≤0 := h.era ▸ s.locks.era_le lock _ hmade
    rw [hmade,Nat.le_zero.mp hera]
  refine ⟨h.era,?_,?_,?_⟩
  · rw [storeTimes_cons_self]
    exact h.spaced.cons config.ttlPositive.le (h.fetching task lock hstage)
  · intro last hlast _
    rw [storeTimes_cons_self,List.head?_cons,Option.mem_some_iff] at hlast
    exact ⟨_,get?_storeCache_self,by rw [hlast]⟩
  · intro task' lock' htask'
    obtain ⟨hne,hstage'⟩ := stage_of_update htask' nofun
    exact absurd (fetching_inj hs hstage' hstage (hmade task' lock' hstage')
      (hmade task lock hstage)) hne

/-- Every action that drops no entry of the key keeps its quotes apart. -/
theorem Kept.effect {action : Action T} (h : Kept config key s) (hs : LocksAgree s.locks s.stage)
    (hkeeps : Keeps config key s ⟨now,action⟩) (he : Effect config s action s') :
    Kept config key s' := by
  cases he with
  | refused task other ticker reason hstage =>
    refine h.update rfl (fun _ hentry _ => hentry) (fun task' lock htask' => ?_) rfl
    exact .inl ⟨lock,(stage_of_update htask' nofun).2⟩
  | hit task other quote hstage hhit =>
    refine h.update rfl (fun _ => get?_lookupCache_of_fresh) (fun task' lock htask' => ?_) rfl
    exact .inl ⟨lock,(stage_of_update htask' nofun).2⟩
  | missed task other hstage hmiss =>
    refine h.update rfl (fun _ => get?_lookupCache_of_fresh) (fun task' lock htask' => ?_) rfl
    exact .inl ⟨lock,(stage_of_update htask' nofun).2⟩
  | obtained task other hstage =>
    refine h.update (Locks.era_obtainLock ..) (fun _ hentry _ => hentry) (fun task' lock htask' => ?_) rfl
    exact .inl ⟨lock,(stage_of_update htask' nofun).2⟩
  | found task other lock quote hstage hhit =>
    refine h.update rfl (fun _ => get?_lookupCache_of_fresh) (fun task' lock htask' => ?_) rfl
    exact .inl ⟨lock,(stage_of_update htask' nofun).2⟩
  | taken task other lock hstage hfree hmiss =>
    refine h.update rfl (fun _ => get?_lookupCache_of_fresh) (fun task' lock' htask' => ?_) rfl
    by_cases heq : other=key
    · rw [heq] at hmiss
      exact .inr (lookupCache_miss hmiss)
    · refine .inl ⟨lock',(stage_of_update htask' ?_).2⟩
      intro hsame
      exact heq (Stage.fetching.inj hsame).1
  | failed task other lock reply ticker reason hstage =>
    refine h.update rfl (fun _ hentry _ => hentry) (fun task' lock' htask' => ?_) rfl
    exact .inl ⟨lock',(stage_of_update htask' nofun).2⟩
  | stored task other lock reply quote hstage hticker hmarket htime =>
    by_cases heq : other=key
    · subst heq
      exact h.stored hs hstage
    · have hne : key≠other := Ne.symm heq
      refine h.update rfl (fun entry hentry _ => ?_) (fun task' lock' htask' => ?_) ?_
      · exact (get?_storeCache_of_ne hne hkeeps).trans hentry
      · exact .inl ⟨lock',(stage_of_update htask' nofun).2⟩
      · exact storeTimes_cons_of_ne heq s.now s.stores
  | left task hfree =>
    refine h.update rfl (fun _ hentry _ => hentry) (fun task' lock' htask' => ?_) rfl
    exact .inl ⟨lock',(stage_of_update htask' nofun).2⟩
  | released task other lock hstage =>
    refine h.update rfl (fun _ hentry _ => hentry) (fun task' lock' htask' => ?_) rfl
    exact .inl ⟨lock',(stage_of_update htask' nofun).2⟩
  | invalidated other =>
    refine h.update rfl (fun entry hentry _ => ?_) (fun task' lock' htask' => .inl ⟨lock',htask'⟩)
      rfl
    have hne : key≠other := Ne.symm hkeeps
    rw [Dict.get?_erase,if_neg hne,hentry]
  | cleared => exact hkeeps.elim

variable {texts : PriceTexts}

/-- While no entry of a key is dropped before it expires, the quotes of the key
that the client gave are at least the duration of the cache apart, however many
tasks ask for it; so a window of `n` durations has at most `n` of them. -/
theorem stored_quotes_are_apart (start : ℚ) (s : Provider T)
    (h : Reaches (step texts config) (Keeps config key) (Provider.start T start) s) :
    Spaced config.cacheTtlSeconds (storeTimes key s.stores) ∧
      ∀ (n : ℕ) (t : ℚ),((storeTimes key s.stores).filter fun time =>
        t≤time ∧ time< t+n•config.cacheTtlSeconds).length≤n := by
  have hkept : Kept config key s := by
    refine h.invariant Kept.start ?_
    intro s e s' hr hs hkeeps hstep
    obtain ⟨htime,he⟩ := step_effect hstep
    have hsound := (Sound.reached hr).later htime
    exact (hs.later htime).effect hsound.agree hkeeps he
  exact ⟨hkept.spaced,fun n t => hkept.spaced.window config.ttlPositive.le n t⟩

/-- The client is asked again after the entry has expired. -/
def askedTwice : List (Event ℕ) :=
  cachedQuote++[⟨3,.call 1 smallKey⟩,⟨3,.obtain 1⟩,⟨3,.acquire 1⟩,⟨4,.reply 1 smallReply⟩]

/-- Two quotes from the client are apart. -/
theorem stored_quotes_are_apart_two : ∃ s : Provider ℕ,storeTimes smallKey s.stores=[4,1] ∧
    Spaced (3/2) (storeTimes smallKey s.stores) := by
  obtain ⟨s,_,htimes,hr⟩ := play_ends (step smallTexts .default) (Keeps .default smallKey)
    (Provider.start ℕ 0) (fun s => storeTimes smallKey s.stores=[4,1]) askedTwice
    (by decide +kernel)
  exact ⟨s,htimes,(stored_quotes_are_apart 0 s hr).1⟩

end Spacing

end Aqts.QuoteProvider
