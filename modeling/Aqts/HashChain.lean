import Mathlib.Data.List.Induction
import Mathlib.Logic.Function.Basic

/-!
# Hash chains

A chain of links, each with a content, the hash before it and its own hash, which is a
digest of both. If the digest is injective and never the hash the chain starts with, the
last hash of a valid chain determines all of it, so a valid chain of hashes that another
one has is a beginning of that chain.
-/

namespace Aqts.HashChain

variable {C H : Type*}

/-- A link of a chain. -/
structure Link (C H : Type*) where
  /-- What it holds. -/
  content : C
  /-- The hash before it. -/
  previous : H
  /-- Its hash. -/
  hash : H

/-- Every link has the hash of the link before it, and the digest of its content and that
hash as its own. -/
def Valid (digest : C→H→H) : H→List (Link C H)→Prop
  | _,[] => True
  | start,l::ls => l.previous=start ∧ l.hash=digest l.content l.previous ∧ Valid digest l.hash ls

/-- The last hash of a chain. -/
def tip (start : H) (ls : List (Link C H)) : H := ls.foldl (fun _ l => l.hash) start

variable {digest : C→H→H} {start : H}

/-- A valid chain follows its start. -/
theorem valid_cons (start : H) (l : Link C H) (ls : List (Link C H)) :
    Valid digest start (l::ls) ↔
      l.previous=start ∧ l.hash=digest l.content l.previous ∧ Valid digest l.hash ls := Iff.rfl

/-- The last hash is that of the last link. -/
@[simp] theorem tip_concat (ls : List (Link C H)) (l : Link C H) : tip start (ls++[l])=l.hash := by
  simp [tip]

/-- A chain is valid if its first links are and the others follow them. -/
theorem valid_append (start : H) (ls ls' : List (Link C H)) :
    Valid digest start (ls++ls') ↔ Valid digest start ls ∧ Valid digest (tip start ls) ls' := by
  induction ls generalizing start with
  | nil => simp [Valid,tip]
  | cons l ls ih =>
    have htip : tip start (l::ls)=tip l.hash ls := rfl
    rw [List.cons_append,htip,valid_cons,valid_cons,ih l.hash]
    simp only [and_assoc]

/-- A chain with one more link. -/
theorem valid_concat (start : H) (ls : List (Link C H)) (l : Link C H) :
    Valid digest start (ls++[l]) ↔
      Valid digest start ls ∧ l.previous=tip start ls ∧ l.hash=digest l.content l.previous := by
  rw [valid_append]
  simp [Valid]

/-- A beginning of a valid chain is valid. -/
theorem valid_beginning {ls ls' : List (Link C H)} (h : Valid digest start ls') (hp : ls<+:ls') :
    Valid digest start ls := by
  obtain ⟨rest,rfl⟩ := hp
  exact ((valid_append start ls rest).mp h).1

/-- The last hash of a valid chain determines the chain. -/
theorem tip_determines (hinj : Function.Injective2 digest) (hstart : ∀ c h,digest c h≠start)
    {ls ls' : List (Link C H)} (h : Valid digest start ls) (h' : Valid digest start ls')
    (htip : tip start ls=tip start ls') : ls=ls' := by
  induction ls using List.reverseRecOn generalizing ls' with
  | nil =>
    cases ls' using List.reverseRecOn with
    | nil => rfl
    | append_singleton ls' l' =>
      rw [tip_concat,((valid_concat start ls' l').mp h').2.2] at htip
      exact absurd htip.symm (hstart _ _)
  | append_singleton ls l ih =>
    obtain ⟨hls,hprevious,hhash⟩ := (valid_concat start ls l).mp h
    cases ls' using List.reverseRecOn with
    | nil =>
      rw [tip_concat,hhash] at htip
      exact absurd htip (hstart _ _)
    | append_singleton ls' l' =>
      obtain ⟨hls',hprevious',hhash'⟩ := (valid_concat start ls' l').mp h'
      rw [tip_concat,tip_concat] at htip
      have hdigest : digest l.content l.previous=digest l'.content l'.previous := by
        rw [← hhash,← hhash',htip]
      obtain ⟨hcontent,hsame⟩ := hinj hdigest
      have hbefore : ls=ls' := ih hls hls' (by rw [← hprevious,← hprevious',hsame])
      have hlink : l=l' := by
        cases l
        cases l'
        simp only [Link.mk.injEq]
        exact ⟨hcontent,hsame,htip⟩
      rw [hbefore,hlink]

/-- A valid chain whose hashes are hashes of another one is a beginning of it. -/
theorem prefix_of_hashes (hinj : Function.Injective2 digest) (hstart : ∀ c h,digest c h≠start)
    {ls own : List (Link C H)} (hown : Valid digest start own) (h : Valid digest start ls)
    (hhashes : ∀ l∈ls,l.hash∈own.map Link.hash) : ls<+:own := by
  cases ls using List.reverseRecOn with
  | nil => exact List.nil_prefix
  | append_singleton ls l =>
    obtain ⟨o,ho,hsame⟩ := List.mem_map.mp (hhashes l (by simp))
    obtain ⟨before,rest,hsplit⟩ := List.append_of_mem ho
    have hprefix : before++[o]<+:own := ⟨rest,by rw [hsplit]; simp⟩
    have htip : tip start (before++[o])=tip start (ls++[l]) := by
      rw [tip_concat,tip_concat,hsame]
    rw [← tip_determines hinj hstart (valid_beginning hown hprefix) h htip]
    exact hprefix

end Aqts.HashChain
