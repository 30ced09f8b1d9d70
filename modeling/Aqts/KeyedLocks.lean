import Mathlib.Data.List.Basic
import Mathlib.Logic.Function.Basic

/-!
# Locks made on demand

A dictionary gives every key the lock that was made for it, and makes one for a
key that has none. Clearing the dictionary starts a new era: a key gets another
lock then, while those who hold an old lock keep it. A lock has one holder at
most, and in one era a key has one lock at most, so two holders of locks of one
key are from different eras. Nothing here depends on what the keys and the
holders are.
-/

namespace Aqts.KeyedLocks

variable {K T : Type*}

/-- A lock as it was made. -/
structure Made (K : Type*) where
  /-- The key that it was made for. -/
  key : K
  /-- How often the dictionary had been cleared. -/
  era : ℕ
deriving DecidableEq

/-- The dictionary and the locks. A lock is known by its position in the list of
the locks that were made. -/
structure Locks (K T : Type*) where
  /-- All locks that were made, in order. -/
  made : List (Made K)
  /-- The dictionary. -/
  lockOf : K→Option ℕ
  /-- The holder of a lock. -/
  holder : ℕ→Option T
  /-- How often the dictionary has been cleared. -/
  era : ℕ
  /-- The dictionary gives a key a lock that was made for it in this era. -/
  made_lockOf : ∀ (key : K) (lock : ℕ),lockOf key=some lock→ made[lock]?=some ⟨key,era⟩
  /-- Every lock of this era is in the dictionary. -/
  lockOf_made : ∀ (key : K) (lock : ℕ),made[lock]?=some ⟨key,era⟩→lockOf key=some lock
  /-- No lock is from a later era. -/
  era_le : ∀ (lock : ℕ) (m : Made K),made[lock]?=some m→ m.era≤era
  /-- A key has one lock in an era. -/
  made_inj : ∀ (lock lock' : ℕ) (m : Made K),made[lock]?=some m→ made[lock']?=some m→lock=lock'

/-- No lock has been made. -/
def Locks.empty : Locks K T where
  made := []
  lockOf := fun _ => none
  holder := fun _ => none
  era := 0
  made_lockOf := nofun
  lockOf_made := by
    intro key lock h
    cases h
  era_le := by
    intro lock m h
    cases h
  made_inj := by
    intro lock lock' m h
    cases h

/-- Entries of a list with one more at its end. -/
theorem getElem?_concat_cases {α : Type*} {l : List α} {a b : α} {i : ℕ}
    (h : (l++[a])[i]?=some b) : l[i]?=some b ∨ (i=l.length ∧ b=a) := by
  rcases Nat.lt_trichotomy i l.length with hlt | heq | hgt
  · rw [List.getElem?_append_left hlt] at h
    exact .inl h
  · rw [heq,List.getElem?_concat_length,Option.some.injEq] at h
    exact .inr ⟨heq,h.symm⟩
  · rw [List.getElem?_eq_none (by simp; omega)] at h
    cases h

section Making

variable [DecidableEq K]

/-- A key without a lock gets a new one. -/
def Locks.make (locks : Locks K T) (key : K) (hkey : locks.lockOf key=none) : Locks K T where
  made := locks.made++[⟨key,locks.era⟩]
  lockOf := Function.update locks.lockOf key (some locks.made.length)
  holder := locks.holder
  era := locks.era
  made_lockOf := by
    intro other lock h
    by_cases heq : other=key
    · rw [heq,Function.update_self,Option.some.injEq] at h
      rw [← h,heq,List.getElem?_concat_length]
    · rw [Function.update_of_ne heq] at h
      have hold := locks.made_lockOf other lock h
      rwa [List.getElem?_append_left (List.getElem?_eq_some_iff.mp hold).1]
  lockOf_made := by
    intro other lock h
    rcases getElem?_concat_cases h with hold | ⟨hlock,hmade⟩
    · have hfound := locks.lockOf_made other lock hold
      have hother : other≠key := by
        rintro rfl
        rw [hkey] at hfound
        cases hfound
      rw [Function.update_of_ne hother,hfound]
    · rw [(Made.mk.inj hmade).1,Function.update_self,hlock]
  era_le := by
    intro lock m h
    rcases getElem?_concat_cases h with hold | ⟨_,rfl⟩
    · exact locks.era_le lock m hold
    · exact Nat.le_refl _
  made_inj := by
    have hfresh : ∀ lock : ℕ,locks.made[lock]?≠some ⟨key,locks.era⟩ := by
      intro lock h
      rw [locks.lockOf_made key lock h] at hkey
      cases hkey
    intro lock lock' m h h'
    rcases getElem?_concat_cases h with hold | ⟨hlock,rfl⟩
    · rcases getElem?_concat_cases h' with hold' | ⟨_,rfl⟩
      · exact locks.made_inj lock lock' m hold hold'
      · exact absurd hold (hfresh lock)
    · rcases getElem?_concat_cases h' with hold' | ⟨hlock',_⟩
      · exact absurd hold' (hfresh lock')
      · rw [hlock,hlock']

/-- The lock of a key, and the locks with it. -/
def Locks.obtainLock (locks : Locks K T) (key : K) : Locks K T×ℕ :=
  match h : locks.lockOf key with
  | some lock => (locks,lock)
  | none => (locks.make key h,locks.made.length)

variable {locks : Locks K T} {key : K} {lock : ℕ}

/-- The lock that a key gets was made for it in this era. -/
theorem Locks.obtainLock_made (locks : Locks K T) (key : K) :
    (locks.obtainLock key).1.made[(locks.obtainLock key).2]?=some ⟨key,locks.era⟩ := by
  unfold obtainLock
  split
  · rename_i lock h
    exact locks.made_lockOf key lock h
  · exact List.getElem?_concat_length

/-- Getting a lock keeps the locks that were made. -/
theorem Locks.made_obtainLock {m : Made K} (h : locks.made[lock]?=some m) :
    (locks.obtainLock key).1.made[lock]?=some m := by
  unfold obtainLock
  split
  · exact h
  · unfold make
    dsimp only
    rwa [List.getElem?_append_left (List.getElem?_eq_some_iff.mp h).1]

/-- Getting a lock changes no holder. -/
@[simp] theorem Locks.holder_obtainLock (locks : Locks K T) (key : K) :
    (locks.obtainLock key).1.holder=locks.holder := by
  unfold obtainLock
  split
  · rfl
  · rfl

/-- Getting a lock starts no era. -/
@[simp] theorem Locks.era_obtainLock (locks : Locks K T) (key : K) :
    (locks.obtainLock key).1.era=locks.era := by
  unfold obtainLock
  split
  · rfl
  · rfl

end Making

/-- The dictionary is cleared. -/
def Locks.clear (locks : Locks K T) : Locks K T where
  made := locks.made
  lockOf := fun _ => none
  holder := locks.holder
  era := locks.era+1
  made_lockOf := nofun
  lockOf_made := by
    intro key lock h
    exact absurd (locks.era_le lock _ h) (Nat.not_succ_le_self _)
  era_le := fun lock m h => Nat.le_succ_of_le (locks.era_le lock m h)
  made_inj := locks.made_inj

/-- A holder for a lock, or none. -/
def Locks.hold (locks : Locks K T) (lock : ℕ) (holder : Option T) : Locks K T :=
  {locks with holder := Function.update locks.holder lock holder}

variable {locks : Locks K T} {lock lock' : ℕ} {holder : Option T}

/-- Clearing changes no holder. -/
@[simp] theorem Locks.holder_clear (locks : Locks K T) : locks.clear.holder=locks.holder := rfl

/-- Clearing keeps the locks that were made. -/
@[simp] theorem Locks.made_clear (locks : Locks K T) : locks.clear.made=locks.made := rfl

/-- A new holder changes no lock. -/
@[simp] theorem Locks.made_hold : (locks.hold lock holder).made=locks.made := rfl

/-- A new holder starts no era. -/
@[simp] theorem Locks.era_hold : (locks.hold lock holder).era=locks.era := rfl

/-- The holder of the lock. -/
@[simp] theorem Locks.holder_hold_self : (locks.hold lock holder).holder lock=holder :=
  Function.update_self ..

/-- The holder of another lock. -/
theorem Locks.holder_hold_of_ne (h : lock'≠lock) :
    (locks.hold lock holder).holder lock'=locks.holder lock' := Function.update_of_ne h ..

/-- Two holders of locks that were made for one key in one era are the same. -/
theorem Locks.holder_unique {m : Made K} {t t' : T} (hm : locks.made[lock]?=some m)
    (hm' : locks.made[lock']?=some m) (ht : locks.holder lock=some t)
    (ht' : locks.holder lock'=some t') : t=t' := by
  have hlock := locks.made_inj lock lock' m hm hm'
  rw [hlock,ht'] at ht
  exact (Option.some.inj ht).symm

end Aqts.KeyedLocks
