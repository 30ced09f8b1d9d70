import Mathlib.Data.Finset.Card
import Mathlib.Data.List.Nodup

/-!
# Retried calls

A driver that repeats a call while it raises, up to a number of attempts. The
driver is known by what it documents: how many attempts it makes when the
outcome of every attempt is given. The module says which attempts are made and
when at most one of them carries a mark, for every driver of this kind.
-/

namespace Aqts.RetriedCalls

/-- A driver that stops at the first attempt that does not raise, or after a
number of attempts. -/
structure Retrying (limit : ℤ) where
  /-- Number of attempts, from which attempts raise. -/
  attempts : (ℕ→Bool)→ℕ
  /-- The first attempt is made. -/
  attempts_pos : ∀ raises,0<attempts raises
  /-- An attempt is followed by another only if it raised below the limit. -/
  retried : ∀ raises k,k+1<attempts raises→ raises k=true ∧ (k+1 : ℤ)<limit
  /-- After a last attempt that raised the limit is reached. -/
  exhausted : ∀ raises k,k+1=attempts raises→ raises k=true→limit≤(k+1 : ℤ)

/-- Number of attempts from the `k`-th one on, with so many retries left. -/
def attemptsFrom (raises : ℕ→Bool) : ℕ→ℕ→ℕ
  | 0,k => k+1
  | left+1,k => if raises k=true then attemptsFrom raises left (k+1) else k+1

/-- The attempts from one on end with one that does not raise or when no retry
is left, and all before the end raise. -/
theorem attemptsFrom_spec (raises : ℕ→Bool) (left k : ℕ) :
    k<attemptsFrom raises left k ∧ attemptsFrom raises left k≤k+left+1 ∧
      (∀ i,k≤ i→i+1<attemptsFrom raises left k→ raises i=true) ∧
      ∀ i,i+1=attemptsFrom raises left k→ raises i=true→attemptsFrom raises left k=k+left+1 := by
  induction left generalizing k with
  | zero =>
    unfold attemptsFrom
    exact ⟨by omega,by omega,fun i _ _ => by omega,fun _ _ _ => rfl⟩
  | succ left ih =>
    unfold attemptsFrom
    by_cases hraised : raises k=true
    · rw [if_pos hraised]
      obtain ⟨hpos,hmost,hbefore,hlast⟩ := ih (k+1)
      refine ⟨by omega,by omega,?_,?_⟩
      · intro i hi hmade
        by_cases hik : i=k
        · rw [hik]
          exact hraised
        · exact hbefore i (by omega) hmade
      · intro i hi hi'
        have hend := hlast i hi hi'
        omega
    · rw [if_neg hraised]
      refine ⟨by omega,by omega,fun i _ _ => by omega,?_⟩
      intro i hi hi'
      have hik : i=k := by omega
      rw [hik] at hi'
      exact (hraised hi').elim

/-- The driver that counts its attempts. -/
def stopAfterAttempt (limit : ℤ) : Retrying limit where
  attempts raises := attemptsFrom raises (limit.toNat-1) 0
  attempts_pos raises := (attemptsFrom_spec raises (limit.toNat-1) 0).1
  retried raises k hmade := by
    obtain ⟨_,hmost,hbefore,_⟩ := attemptsFrom_spec raises (limit.toNat-1) 0
    exact ⟨hbefore k (Nat.zero_le k) hmade,by omega⟩
  exhausted raises k hk hraised := by
    have hend := (attemptsFrom_spec raises (limit.toNat-1) 0).2.2.2 k hk hraised
    omega

variable {limit : ℤ} (r : Retrying limit) (raises mark : ℕ→Bool)

/-- The attempts that are made: the first one, and those below the limit with
only raising attempts before. -/
theorem Retrying.made_iff (k : ℕ) :
    k< r.attempts raises ↔ k=0 ∨ (k : ℤ)<limit ∧ ∀ i<k,raises i=true := by
  constructor
  · intro hmade
    cases k with
    | zero => exact .inl rfl
    | succ k =>
      have hlimit := (r.retried raises k hmade).2
      refine .inr ⟨by omega,?_⟩
      intro i hi
      exact (r.retried raises i (by omega)).1
  · rintro (hzero | ⟨hlimit,hraised⟩)
    · rw [hzero]
      exact r.attempts_pos raises
    · by_contra hnot
      have hpos := r.attempts_pos raises
      have hlast : r.attempts raises-1+1=r.attempts raises := by omega
      by_cases hzero : k=0
      · omega
      · have hstop := r.exhausted raises (r.attempts raises-1) hlast (hraised _ (by omega))
        omega

/-- The marked attempts among those made. -/
def Retrying.marked : List ℕ := (List.range (r.attempts raises)).filter mark

/-- At most one attempt made is marked exactly when no marked attempt is reached
by raising attempts, one of which is marked. -/
theorem Retrying.marked_length_le_one_iff :
    (r.marked raises mark).length≤1 ↔
      ∀ i j : ℕ,i<j→(j : ℤ)<limit→(∀ k<j,raises k=true)→mark i=true→mark j=false := by
  have hnodup : (r.marked raises mark).Nodup := List.nodup_range.filter _
  rw [← List.toFinset_card_of_nodup hnodup,Finset.card_le_one]
  unfold Retrying.marked
  simp only [List.mem_toFinset,List.mem_filter,List.mem_range]
  constructor
  · intro honly i j hij hlimit hraised hi
    have hmade := (r.made_iff raises j).mpr (.inr ⟨hlimit,hraised⟩)
    by_contra hj
    have hsame := honly i ⟨by omega,hi⟩ j ⟨hmade,by simpa using hj⟩
    omega
  · rintro hnone i ⟨himade,hi⟩ j ⟨hjmade,hj⟩
    have hno : ∀ a b,a<b→b< r.attempts raises→mark a=true→mark b=true→False := by
      intro a b hab hmade ha hb
      obtain hzero | ⟨hlimit,hraised⟩ := (r.made_iff raises b).mp hmade
      · omega
      · have hb' := hnone a b hab hlimit hraised ha
        rw [hb] at hb'
        cases hb'
    obtain hlt | heq | hgt := Nat.lt_trichotomy i j
    · exact (hno i j hlt hjmade hi hj).elim
    · exact heq
    · exact (hno j i hgt himade hj hi).elim

end Aqts.RetriedCalls
