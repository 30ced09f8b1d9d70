import Mathlib.Algebra.Order.Ring.Int
import Mathlib.Algebra.Order.Floor.Ring
import Aqts.AuthTokens

/-!
# Stores of revoked tokens

`InMemoryTokenRevocationStore` and `RedisTokenRevocationStore`. Both keep the id of
a revoked token until the moment of the write plus the lifetime in seconds, and
drop it when it is asked for later. Both therefore hold a revocation at every
moment up to its end, whatever else is revoked or asked for before. A clock is any
ordered ring with whole seconds.
-/

namespace Aqts.RevocationStores

open ExpiringSlot AuthTokens

variable {K : Type*}

/-- A store of either backend, by the `jti` of the tokens. -/
inductive Store (K : Type*)
  /-- `_blacklist` and `_expiry` of the store in memory. -/
  | memory (blacklist : String→Bool) (expiry : String→Option K)
  /-- The keys of Redis, under their prefix. -/
  | redis (keys : String→Slot Unit K)

variable [Ring K] [LinearOrder K]

/-- `revoke`. -/
def Store.revoke (store : Store K) (jti : String) (ttlSeconds : ℤ) (now : K) : Store K :=
  if ttlSeconds≤0 then store
  else
    match store with
    | .memory blacklist expiry =>
      .memory (Function.update blacklist jti true) (Function.update expiry jti (some (now+ttlSeconds)))
    | .redis keys => .redis (Function.update keys jti (setEx now (ttlSeconds : K) ()))

/-- `is_revoked`, and the store without an entry that has ended. -/
def Store.isRevoked (store : Store K) (jti : String) (now : K) : Bool×Store K :=
  match store with
  | .memory blacklist expiry =>
    if blacklist jti=false then (false,store)
    else if (expiry jti).getD 0≠0 ∧ (expiry jti).getD 0<now then
      (false,.memory (Function.update blacklist jti false) (Function.update expiry jti none))
    else (true,store)
  | .redis keys => ((read now (keys jti)).isSome,.redis (Function.update keys jti
      (sweep now (keys jti))))

/-- An entry for the token that lasts at least until a moment. -/
def Store.Holds (store : Store K) (jti : String) (ends : K) : Prop :=
  match store with
  | .memory blacklist expiry => blacklist jti=true ∧ ∃ t,expiry jti=some t ∧ ends≤t
  | .redis keys => ∃ entry,keys jti=some entry ∧ ends≤entry.expiresAt

variable {store : Store K} {jti : String} {ends now : K}

/-- A store answers for a token as long as it holds it. -/
theorem Store.Holds.isRevoked (h : store.Holds jti ends) (hnow : now≤ends) :
    (store.isRevoked jti now).1=true := by
  cases store with
  | memory blacklist expiry =>
    obtain ⟨hlisted,t,ht,hle⟩ := h
    dsimp only [Store.isRevoked]
    rw [if_neg (Bool.eq_false_iff.not.mpr (not_not.mpr hlisted)),ht,Option.getD_some,if_neg]
    exact fun hended => absurd hended.2 (not_lt.mpr (hnow.trans hle))
  | redis keys =>
    obtain ⟨entry,hentry,hle⟩ := h
    dsimp only [Store.isRevoked]
    rw [hentry,read_live (hnow.trans hle)]
    rfl

/-- Questions about any token leave what a store holds. -/
theorem Store.Holds.asked (h : store.Holds jti ends) (hnow : now≤ends) (other : String) :
    (store.isRevoked other now).2.Holds jti ends := by
  cases store with
  | memory blacklist expiry =>
    dsimp only [Store.isRevoked]
    by_cases hlisted : blacklist other=false
    · rw [if_pos hlisted]
      exact h
    rw [if_neg hlisted]
    by_cases hended : (expiry other).getD 0≠0 ∧ (expiry other).getD 0<now
    · rw [if_pos hended]
      obtain ⟨hkept,t,ht,hle⟩ := h
      have hne : jti≠other := by
        rintro rfl
        rw [ht] at hended
        exact absurd hended.2 (not_lt.mpr (hnow.trans hle))
      refine ⟨?_,t,?_,hle⟩
      · rw [Function.update_of_ne hne]
        exact hkept
      · rw [Function.update_of_ne hne]
        exact ht
    · rw [if_neg hended]
      exact h
  | redis keys =>
    obtain ⟨entry,hentry,hle⟩ := h
    refine ⟨entry,?_,hle⟩
    by_cases hsame : jti=other
    · rw [←hsame,Function.update_self,hentry]
      exact sweep_live (hnow.trans hle)
    · rw [Function.update_of_ne hsame]
      exact hentry

/-- A revocation is held to its end. -/
theorem Store.holds_revoke (store : Store K) (jti : String) {ttlSeconds : ℤ} (now : K)
    (httl : 0<ttlSeconds) : (store.revoke jti ttlSeconds now).Holds jti (now+ttlSeconds) := by
  unfold Store.revoke
  rw [if_neg (by omega)]
  cases store with
  | memory blacklist expiry =>
    exact ⟨Function.update_self ..,_,Function.update_self ..,le_rfl⟩
  | redis keys => exact ⟨_,Function.update_self ..,le_rfl⟩

/-- The revocation of another token leaves what a store holds. -/
theorem Store.Holds.revoke (h : store.Holds jti ends) {other : String} (hne : jti≠other)
    (ttlSeconds : ℤ) (now : K) : (store.revoke other ttlSeconds now).Holds jti ends := by
  unfold Store.revoke
  by_cases hskip : ttlSeconds≤0
  · rw [if_pos hskip]
    exact h
  rw [if_neg hskip]
  cases store with
  | memory blacklist expiry =>
    obtain ⟨hlisted,t,ht,hle⟩ := h
    refine ⟨?_,t,?_,hle⟩
    · rw [Function.update_of_ne hne]
      exact hlisted
    · rw [Function.update_of_ne hne]
      exact ht
  | redis keys =>
    obtain ⟨entry,hentry,hle⟩ := h
    refine ⟨entry,?_,hle⟩
    rw [Function.update_of_ne hne]
    exact hentry

/-- The lifetime of the entry for some claims. -/
def ttlSeconds (settings : Settings) (claims : Payload) (nowTs : ℤ) : ℤ :=
  match claims.exp with
  | some exp => max (exp-nowTs+60) 60
  | none => settings.refreshTokenExpireDays*86400

/-- `revoke_token` of a text with some claims or none, and its answer. -/
def Store.revokeToken (store : Store K) (settings : Settings) (claims : Option Payload) (nowTs : ℤ)
    (now : K) : Store K×Option String :=
  match claims with
  | none => (store,none)
  | some claims =>
    match claims.jti with
    | none => (store,none)
    | some jti =>
      if jti="" then (store,none)
      else (store.revoke jti (ttlSeconds settings claims nowTs) now,some jti)

/-- Redis with a clock of whole seconds, as the tokens use it. -/
theorem Store.revokeToken_redis (settings : Settings) (keys : Revocations) (claims : Payload)
    (now : ℤ) : (Store.revokeToken (.redis keys) settings (some claims) now now).1=
      .redis (AuthTokens.revokeToken settings keys claims now) := by
  unfold Store.revokeToken AuthTokens.revokeToken
  dsimp only
  cases claims.jti with
  | none => rfl
  | some jti =>
    dsimp only
    by_cases hempty : jti=""
    · rw [if_pos hempty,if_pos (.inl hempty)]
    rw [if_neg hempty]
    by_cases httl : ttlSeconds settings claims now≤0
    · have hskip : jti="" ∨ ttlSeconds settings claims now≤0 := .inr httl
      unfold Store.revoke
      rw [if_pos httl]
      exact (congrArg Store.redis (if_pos hskip)).symm
    · have hwrite : ¬(jti="" ∨ ttlSeconds settings claims now≤0) := not_or.mpr ⟨hempty,httl⟩
      unfold Store.revoke
      rw [if_neg httl]
      exact (congrArg Store.redis (if_neg hwrite)).symm

end Aqts.RevocationStores
