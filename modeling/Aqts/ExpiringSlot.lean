import Mathlib.Order.Lattice

/-!
# One key of a store whose entries expire

A slot holds at most one value together with the instant after which it no
longer counts. Reading never returns an expired value; a read also drops it,
as a server with lazy expiry does. The clock is any linear order with an
addition, and no operation assumes that successive instants increase.
-/

namespace Aqts.ExpiringSlot

variable {V T : Type*}

/-- A stored value and the last instant at which it is still live. -/
structure Entry (V T : Type*) where
  /-- The value written by the last successful write. -/
  value : V
  /-- The entry is live up to and including this instant. -/
  expiresAt : T
  deriving DecidableEq

/-- The contents of one key. -/
abbrev Slot (V T : Type*) := Option (Entry V T)

variable [LinearOrder T]

/-- The live entry at an instant; an expired entry counts as absent. -/
def sweep (now : T) : Slot V T→Slot V T
  | none => none
  | some entry => if entry.expiresAt<now then none else some entry

/-- The value a read returns at an instant. -/
def read (now : T) (slot : Slot V T) : Option V := (sweep now slot).map Entry.value

/-- Write unconditionally, with a fresh lifetime. -/
def setEx [Add T] (now ttl : T) (value : V) : Slot V T := some ⟨value,now+ttl⟩

/-- An entry that has not expired survives the sweep. -/
theorem sweep_live {now : T} {entry : Entry V T} (h : now≤entry.expiresAt) :
    sweep now (some entry)=some entry := if_neg (not_lt.mpr h)

/-- An expired entry is dropped by the sweep. -/
theorem sweep_expired {now : T} {entry : Entry V T} (h : entry.expiresAt<now) :
    sweep now (some entry)=none := if_pos h

/-- What the sweep returns was in the slot and is live. -/
theorem sweep_eq_some {now : T} {slot : Slot V T} {entry : Entry V T}
    (h : sweep now slot=some entry) : slot=some entry ∧ now≤entry.expiresAt := by
  cases slot with
  | none => cases h
  | some stored =>
    by_cases hx : stored.expiresAt<now
    · rw [sweep_expired hx] at h
      cases h
    · rw [sweep_live (not_lt.mp hx)] at h
      cases h
      exact ⟨rfl,not_lt.mp hx⟩

/-- A read that returns a value returns the value of a live entry. -/
theorem read_eq_some {now : T} {slot : Slot V T} {value : V} (h : read now slot=some value) :
    ∃ entry,slot=some entry ∧ now≤entry.expiresAt ∧ entry.value=value := by
  unfold read at h
  obtain ⟨entry,he,hv⟩ := Option.map_eq_some_iff.mp h
  obtain ⟨hs,hl⟩ := sweep_eq_some he
  exact ⟨entry,hs,hl,hv⟩

/-- A live entry is what a read returns. -/
theorem read_live {now : T} {entry : Entry V T} (h : now≤entry.expiresAt) :
    read now (some entry)=some entry.value := by
  unfold read
  rw [sweep_live h]
  rfl

end Aqts.ExpiringSlot
