import Aqts.Dictionary
import Aqts.KeyedLocks
import Aqts.PriceGuard
import Mathlib.Data.List.MinMax

/-!
# The quote provider

`core.order_executor.quote_provider_kis`: quotes from the client with a cache for
a short time. Requests of one key wait for the lock of the key, so that one of
them asks the client and the others find what it stored. The tasks are
interleaved at their awaits, and all clocks that one segment between two awaits
reads show one instant. Prices are rational; the texts `nan` and `inf`, which
Python's `float` reads too, have no price here.
-/

namespace Aqts.QuoteProvider

open Dictionary KeyedLocks OrderTypes PriceGuard

/-- Key of the cache: `(ticker, market)`. -/
structure QuoteKey where
  /-- The ticker. -/
  ticker : String
  /-- The market. -/
  market : Market
deriving DecidableEq

/-- `KISQuoteProviderConfig`. -/
structure KISQuoteProviderConfig where
  /-- `cache_ttl_seconds`. -/
  cacheTtlSeconds : ℚ
  /-- `max_cache_entries`. -/
  maxCacheEntries : ℕ
  /-- `cache_ttl_seconds must be > 0`. -/
  ttlPositive : 0< cacheTtlSeconds
  /-- `max_cache_entries must be > 0`. -/
  entriesPositive : 0< maxCacheEntries

/-- The default duration passes its check. -/
theorem defaultTtl_pos : (0 : ℚ)<3/2 := by norm_num

/-- The default bound passes its check. -/
theorem defaultEntries_pos : 0<4096 := by norm_num

/-- `KISQuoteProviderConfig()`. -/
def KISQuoteProviderConfig.default : KISQuoteProviderConfig :=
  ⟨3/2,4096,defaultTtl_pos,defaultEntries_pos⟩

/-- `_CacheEntry`. -/
structure CacheEntry where
  /-- The quote. -/
  quote : Quote
  /-- `expires_monotonic`. -/
  expiresMonotonic : ℚ
deriving DecidableEq

/-- A value in a response. -/
inductive Raw
  /-- `None`. -/
  | null
  /-- A text. -/
  | text (text : String)
  /-- A number. -/
  | number (value : ℚ)
  /-- Something else, with its `repr`. -/
  | other (repr : String)

/-- What the client returns. -/
inductive Body
  /-- No dictionary. -/
  | notDict
  /-- A dictionary, with the fields of `output` if this is a dictionary too. -/
  | dict (output : Option (Dict String Raw))

/-- How a call of the client ends. -/
inductive Reply
  /-- It raises, with this text. -/
  | raises (text : String)
  /-- It returns. -/
  | returns (body : Body)

/-- What Python does with texts and numbers. -/
structure PriceTexts where
  /-- `float` of a text, or its exception. -/
  float : String→Option ℚ
  /-- `repr` of a text. -/
  repr : String→String
  /-- A float without a format. -/
  plain : ℚ→String

/-- `QuoteFetchError`. -/
structure QuoteFetchError where
  /-- Its ticker. -/
  ticker : String
  /-- Its reason. -/
  reason : String
deriving DecidableEq

/-- `_parse_kr_price` and `_parse_us_price`: the price in a field of `output`. -/
def parsePrice (texts : PriceTexts) (country field : String) : Body→Except QuoteFetchError ℚ
  | .notDict => .error ⟨"",country++" response is not a dict"⟩
  | .dict none => .error ⟨"",country++" response missing 'output' dict"⟩
  | .dict (some output) =>
    match output.get? field with
    | none | some .null => .error ⟨"",country++" response missing '"++field++"'"⟩
    | some (.text raw) =>
      if raw="" then .error ⟨"",country++" response missing '"++field++"'"⟩
      else
        match texts.float raw with
        | some price => .ok price
        | none => .error ⟨"",country++" response "++field++" not numeric: "++texts.repr raw⟩
    | some (.number price) => .ok price
    | some (.other repr) => .error ⟨"",country++" response "++field++" not numeric: "++repr⟩

/-- `_parse_kr_price`. -/
def parseKrPrice (texts : PriceTexts) : Body→Except QuoteFetchError ℚ :=
  parsePrice texts "KR" "stck_prpr"

/-- `_parse_us_price`. -/
def parseUsPrice (texts : PriceTexts) : Body→Except QuoteFetchError ℚ :=
  parsePrice texts "US" "last"

/-- `_US_EXCHANGE_CODE`. -/
def usExchangeCode : Market→Option String
  | .nasdaq => some "NAS"
  | .nyse => some "NYS"
  | .amex => some "AMS"
  | .krx => none

/-- A call of the client. -/
inductive Call
  /-- `get_kr_stock_price(ticker)`. -/
  | kr (ticker : String)
  /-- `get_us_stock_price(ticker, exchange)`. -/
  | us (ticker exchange : String)
deriving DecidableEq

/-- The call that `_fetch_upstream` makes. -/
def upstreamCall (key : QuoteKey) : Option Call :=
  if key.market=.krx then some (.kr key.ticker)
  else (usExchangeCode key.market).map (.us key.ticker)

/-- Every market of an order has its call. -/
theorem upstreamCall_isSome (key : QuoteKey) : (upstreamCall key).isSome=true := by
  obtain ⟨ticker,market⟩ := key
  cases market <;> rfl

/-- `_fetch_upstream`, from what the client did. -/
def fetchUpstream (texts : PriceTexts) (key : QuoteKey) (reply : Reply) (now : ℚ) :
    Except QuoteFetchError Quote :=
  match reply with
  | .raises text => .error ⟨key.ticker,"KIS upstream error: "++text⟩
  | .returns body =>
    match if key.market=.krx then parseKrPrice texts body else parseUsPrice texts body with
    | .error error => .error error
    | .ok price =>
      if h : price≤0 then
        .error ⟨key.ticker,"KIS returned non-positive price: "++texts.plain price⟩
      else .ok ⟨key.ticker,key.market,price,now,not_le.mp h⟩

/-- A fetched quote is of the key and of this instant. -/
theorem fetchUpstream_ok {texts : PriceTexts} {key : QuoteKey} {reply : Reply} {now : ℚ}
    {quote : Quote} (h : fetchUpstream texts key reply now=.ok quote) :
    quote.ticker=key.ticker ∧ quote.market=key.market ∧ quote.fetchedAt=now := by
  unfold fetchUpstream at h
  split at h
  · cases h
  · split at h
    · cases h
    · split at h
      · cases h
      · cases h
        exact ⟨rfl,rfl,rfl⟩

/-- The cache. -/
abbrev Cache := Dict QuoteKey CacheEntry

/-- `_lookup_cache`: an entry that has expired is taken out. -/
def lookupCache (cache : Cache) (key : QuoteKey) (now : ℚ) : Cache×Option Quote :=
  match cache.get? key with
  | none => (cache,none)
  | some entry =>
    if entry.expiresMonotonic≤now then (cache.erase key,none) else (cache,some entry.quote)

/-- Key of the entry that expires first, the earlier one of two. -/
def oldestKey (cache : Cache) : Option QuoteKey :=
  (cache.items.argmin fun item => item.2.expiresMonotonic).map Prod.fst

/-- The entry that makes room in a full cache. -/
def evictedKey (config : KISQuoteProviderConfig) (cache : Cache) : Option QuoteKey :=
  if config.maxCacheEntries≤ cache.items.length then oldestKey cache else none

/-- The cache with room for an entry. -/
def makeRoom (config : KISQuoteProviderConfig) (cache : Cache) : Cache :=
  match evictedKey config cache with
  | none => cache
  | some oldest => cache.erase oldest

/-- `_store_cache`. -/
def storeCache (config : KISQuoteProviderConfig) (cache : Cache) (key : QuoteKey) (quote : Quote)
    (now : ℚ) : Cache :=
  (makeRoom config cache).set key ⟨quote,now+config.cacheTtlSeconds⟩

section Cache

variable {config : KISQuoteProviderConfig} {cache : Cache} {key other : QuoteKey} {now : ℚ}
  {quote : Quote} {entry : CacheEntry}

/-- What a lookup leaves in the cache was there. -/
theorem get?_lookupCache (h : (lookupCache cache key now).1.get? other=some entry) :
    cache.get? other=some entry := by
  unfold lookupCache at h
  split at h
  · exact h
  · split at h
    · rw [Dict.get?_erase] at h
      split at h
      · cases h
      · exact h
    · exact h

/-- A lookup takes out only what has expired. -/
theorem get?_lookupCache_of_fresh (h : cache.get? other=some entry)
    (hfresh : now< entry.expiresMonotonic) :
    (lookupCache cache key now).1.get? other=some entry := by
  unfold lookupCache
  split
  · exact h
  · rename_i found hfound
    split
    · rename_i hexpired
      have hne : other≠key := by
        rintro rfl
        rw [hfound,Option.some.injEq] at h
        rw [h] at hexpired
        exact absurd hfresh (not_lt.mpr hexpired)
      rw [Dict.get?_erase,if_neg hne]
      exact h
    · exact h

/-- A lookup adds nothing. -/
theorem length_lookupCache :
    (lookupCache cache key now).1.items.length≤ cache.items.length := by
  unfold lookupCache
  split
  · exact Nat.le_refl _
  · split
    · exact List.length_filter_le _ _
    · exact Nat.le_refl _

/-- A hit is the quote of an entry that has not expired. -/
theorem lookupCache_hit (h : (lookupCache cache key now).2=some quote) :
    ∃ entry,cache.get? key=some entry ∧ entry.quote=quote ∧ now< entry.expiresMonotonic := by
  unfold lookupCache at h
  split at h
  · cases h
  · rename_i entry hentry
    split at h
    · cases h
    · rename_i hfresh
      exact ⟨entry,hentry,Option.some.inj h,not_le.mp hfresh⟩

/-- After a miss there is no entry, and one that was there had expired. -/
theorem lookupCache_miss (h : (lookupCache cache key now).2=none) :
    ∀ entry,cache.get? key=some entry→entry.expiresMonotonic≤now := by
  intro entry hentry
  unfold lookupCache at h
  rw [hentry] at h
  dsimp only at h
  split at h
  · assumption
  · cases h

/-- What is left after making room was there. -/
theorem get?_makeRoom (h : (makeRoom config cache).get? other=some entry) :
    cache.get? other=some entry := by
  unfold makeRoom at h
  split at h
  · exact h
  · rw [Dict.get?_erase] at h
    split at h
    · cases h
    · exact h

/-- Making room takes out one entry only. -/
theorem get?_makeRoom_of_ne (h : evictedKey config cache≠some other) :
    (makeRoom config cache).get? other=cache.get? other := by
  unfold makeRoom
  split
  · rfl
  · rename_i oldest heq
    have hne : other≠oldest := by
      rintro rfl
      exact h heq
    rw [Dict.get?_erase,if_neg hne]

/-- A full cache has an oldest entry. -/
theorem oldestKey_mem (h : cache.items≠[]) : ∃ oldest,oldestKey cache=some oldest ∧
    oldest∈cache.keys := by
  unfold oldestKey
  cases hmin : cache.items.argmin fun item => item.2.expiresMonotonic with
  | none => exact absurd (List.argmin_eq_none.mp hmin) h
  | some item =>
    exact ⟨item.1,rfl,List.mem_map_of_mem (List.argmin_mem hmin)⟩

/-- There is room for an entry then. -/
theorem length_makeRoom (h : cache.items.length≤ config.maxCacheEntries) :
    (makeRoom config cache).items.length< config.maxCacheEntries := by
  unfold makeRoom evictedKey
  by_cases hfull : config.maxCacheEntries≤ cache.items.length
  · have hne : cache.items≠[] := by
      intro hnil
      rw [hnil] at hfull
      exact absurd config.entriesPositive (Nat.not_lt.mpr hfull)
    obtain ⟨oldest,holdest,hmem⟩ := oldestKey_mem hne
    rw [if_pos hfull,holdest]
    exact (Dict.length_erase_lt hmem).trans_le h
  · rw [if_neg hfull]
    exact Nat.not_le.mp hfull

/-- Storing keeps the bound. -/
theorem length_storeCache (h : cache.items.length≤ config.maxCacheEntries) :
    (storeCache config cache key quote now).items.length≤ config.maxCacheEntries :=
  (Dict.length_set_le _ _ _).trans (length_makeRoom h)

/-- Entries after storing. -/
theorem get?_storeCache (h : (storeCache config cache key quote now).get? other=some entry) :
    (other=key ∧ entry=⟨quote,now+config.cacheTtlSeconds⟩) ∨ cache.get? other=some entry := by
  unfold storeCache at h
  rw [Dict.get?_set] at h
  split at h
  · rename_i heq
    exact .inl ⟨heq,(Option.some.inj h).symm⟩
  · exact .inr (get?_makeRoom h)

/-- The entry that was stored. -/
theorem get?_storeCache_self :
    (storeCache config cache key quote now).get? key=
      some ⟨quote,now+config.cacheTtlSeconds⟩ := by
  unfold storeCache
  rw [Dict.get?_set,if_pos rfl]

/-- An entry that is not taken out stays. -/
theorem get?_storeCache_of_ne (hne : other≠key) (h : evictedKey config cache≠some other) :
    (storeCache config cache key quote now).get? other=cache.get? other := by
  unfold storeCache
  rw [Dict.get?_set,if_neg hne,get?_makeRoom_of_ne h]

end Cache

end Aqts.QuoteProvider
