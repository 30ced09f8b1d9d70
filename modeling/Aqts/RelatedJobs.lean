import Mathlib.Logic.Basic
import Mathlib.Tactic.TypeStar

/-!
# Jobs and related jobs

A job changes a state and returns a value or raises, and keeps the changes that
it has made when it raises. Two jobs on different states are related if they
give the same result from related states and leave related states: a job with
bookkeeping and the job without it. The rules follow the construction of jobs.
Nothing here depends on what the states, the values and the exceptions are.
-/

namespace Aqts.RelatedJobs

variable {S S' E A B C : Type*}

/-- A job. -/
def Job (S E A : Type*) := S→Except E A×S

/-- A job that returns a value. -/
def Job.value (a : A) : Job S E A := fun s => (.ok a,s)

/-- A job that raises. -/
def Job.raise (e : E) : Job S E A := fun s => (.error e,s)

/-- One job after another one. -/
def Job.andThen (j : Job S E A) (f : A→Job S E B) : Job S E B := fun s =>
  match j s with
  | (.ok a,t) => f a t
  | (.error e,t) => (.error e,t)

instance : Monad (Job S E) where
  pure := Job.value
  bind := Job.andThen

/-- The state changes. -/
def Job.change (f : S→S) : Job S E Unit := fun s => (.ok (),f s)

/-- A value of the state. -/
def Job.read (f : S→A) : Job S E A := fun s => (.ok (f s),s)

/-- The result of a job as a value: `try` and `except`. -/
def Job.attempt (j : Job S E A) : Job S E (Except E A) := fun s => (.ok (j s).1,(j s).2)

/-- One job for each entry of a list. -/
def Job.each (f : B→A→Job S E B) : List A→B→Job S E B
  | [],b => .value b
  | a::rest,b => (f b a).andThen (Job.each f rest)

/-- The rest of a job that returns. -/
theorem Job.andThen_ok {j : Job S E A} {f : A→Job S E B} {s t : S} {a : A} (h : j s=(.ok a,t)) :
    j.andThen f s=f a t := by
  unfold andThen
  rw [h]

/-- A job that raises has no rest. -/
theorem Job.andThen_error {j : Job S E A} {f : A→Job S E B} {s t : S} {e : E}
    (h : j s=(.error e,t)) : j.andThen f s=(.error e,t) := by
  unfold andThen
  rw [h]

/-- Two jobs that give the same result from states in a relation, and leave states in a
relation that may depend on what they return, or in another one if they raise. -/
def Related (R : S→S'→Prop) (j : Job S E A) (j' : Job S' E A) (Q : A→S→S'→Prop) (X : S→S'→Prop) :
    Prop :=
  ∀ s s',R s s'→(j s).1=(j' s').1 ∧ (∀ a,(j s).1=.ok a→Q a (j s).2 (j' s').2) ∧
    ∀ e,(j s).1=.error e→X (j s).2 (j' s').2

variable {R : S→S'→Prop} {Q : A→S→S'→Prop} {Q₂ : B→S→S'→Prop} {X : S→S'→Prop}

/-- Returning a value. -/
theorem Related.value {a : A} (h : ∀ s s',R s s'→Q a s s') :
    Related R (Job.value a : Job S E A) (Job.value a) Q X := by
  intro s s' hs
  refine ⟨rfl,?_,nofun⟩
  rintro _ ⟨⟩
  exact h s s' hs

/-- One job after another one. -/
theorem Related.andThen {j : Job S E A} {j' : Job S' E A} {f : A→Job S E B} {f' : A→Job S' E B}
    (h : Related R j j' Q X) (hf : ∀ a,Related (Q a) (f a) (f' a) Q₂ X) :
    Related R (j.andThen f) (j'.andThen f') Q₂ X := by
  intro s s' hs
  obtain ⟨hsame,hok,herror⟩ := h s s' hs
  unfold Job.andThen
  rcases hj : j s with ⟨_ | a,t⟩
  · rename_i e
    rcases hj' : j' s' with ⟨_ | a',t'⟩
    · rw [hj,hj'] at hsame herror
      cases hsame
      exact ⟨rfl,nofun,fun _ _ => herror e rfl⟩
    · rw [hj,hj'] at hsame
      cases hsame
  · rcases hj' : j' s' with ⟨_ | a',t'⟩
    · rw [hj,hj'] at hsame
      cases hsame
    · rw [hj,hj'] at hsame hok
      cases hsame
      exact hf a t t' (hok a rfl)

/-- Bookkeeping before the rest of the first job. -/
theorem Related.first {j : Job S E A} {f : A→Job S E B} {k : Job S' E B}
    (hj : ∀ s s',R s s'→∃ a t,j s=(.ok a,t) ∧ Q a t s') (hf : ∀ a,Related (Q a) (f a) k Q₂ X) :
    Related R (j.andThen f) k Q₂ X := by
  intro s s' hs
  obtain ⟨a,t,heq,hq⟩ := hj s s' hs
  unfold Job.andThen
  rw [heq]
  exact hf a t s' hq

/-- The results of related jobs as values. -/
theorem Related.attempt {j : Job S E A} {j' : Job S' E A} (h : Related R j j' Q X)
    (hQ : ∀ a s s',Q a s s'→X s s') :
    Related R j.attempt j'.attempt (fun _ => X) X := by
  intro s s' hs
  obtain ⟨hsame,hok,herror⟩ := h s s' hs
  refine ⟨congrArg Except.ok hsame,?_,nofun⟩
  intro result _
  cases hj : (j s).1 with
  | ok a => exact hQ a _ _ (hok a hj)
  | error e => exact herror e hj

/-- Related jobs for each entry of a list, if each of them keeps the relation. -/
theorem Related.each {f : B→A→Job S E B} {f' : B→A→Job S' E B} (l : List A) (b : B)
    (h : ∀ b a,Related R (f b a) (f' b a) (fun _ => R) X) :
    Related R (Job.each f l b) (Job.each f' l b) (fun _ => R) X := by
  induction l generalizing b with
  | nil => exact Related.value fun _ _ hs => hs
  | cons a rest ih => exact (h b a).andThen ih

/-- What a job returns, from any state. -/
def Returns (j : Job S E A) (P : A→Prop) : Prop :=
  ∀ s a,(j s).1=.ok a→P a

variable {P : A→Prop} {P' : B→Prop}

/-- Returning a value. -/
theorem Returns.value {a : A} (h : P a) : Returns (Job.value a : Job S E A) P := by
  rintro s _ ⟨⟩
  exact h

/-- One job after another one. -/
theorem Returns.andThen {j : Job S E A} {f : A→Job S E B} (h : Returns j P)
    (hf : ∀ a,P a→Returns (f a) P') : Returns (j.andThen f) P' := by
  intro s b hb
  unfold Job.andThen at hb
  rcases hj : j s with ⟨_ | a,t⟩
  · rw [hj] at hb
    cases hb
  · rw [hj] at hb
    exact hf a (h s a (by rw [hj])) t b hb

/-- The result of a job as a value. -/
theorem Returns.attempt {j : Job S E A} (h : Returns j P) :
    Returns j.attempt fun outcome => ∀ a,outcome=.ok a→P a := by
  rintro s _ ⟨⟩ a ha
  exact h s a ha

/-- What every job for an entry of a list keeps. -/
theorem Returns.each {I : B→Prop} {f : B→A→Job S E B} {l : List A} {b : B} (h0 : I b)
    (h : ∀ b a,a∈l→I b→Returns (f b a) I) : Returns (Job.each f l b) I := by
  induction l generalizing b with
  | nil => exact Returns.value h0
  | cons a rest ih =>
    refine (h b a List.mem_cons_self h0).andThen fun b' hb' => ih hb' ?_
    exact fun b a ha => h b a (List.mem_cons_of_mem _ ha)

/-- What the second one of two related jobs returns is returned by the first one. -/
theorem Related.returns {j : Job S E A} {j' : Job S' E A} (h : Related R j j' Q X)
    (htotal : ∀ s,∃ s',R s s') (hreturns : Returns j' P) : Returns j P := by
  intro s a ha
  obtain ⟨s',hs'⟩ := htotal s
  exact hreturns s' a ((h s s' hs').1.symm.trans ha)

/-- Every job returns something. -/
theorem Returns.trivial (j : Job S E A) : Returns j fun _ => True := fun _ _ _ => True.intro

/-- A job can return a value, from some state. -/
def Answers (j : Job S E A) (a : A) : Prop := ∃ s,(j s).1=.ok a

/-- A job returns what it can return. -/
theorem Returns.answers (j : Job S E A) : Returns j (Answers j) := fun s _ ha => ⟨s,ha⟩

/-- What a job that returns leaves, and what one that raises leaves. -/
def Ensures (R : S→Prop) (j : Job S E A) (Q : A→S→Prop) (X : E→S→Prop) : Prop :=
  ∀ s,R s→match j s with
    | (.ok a,t) => Q a t
    | (.error e,t) => X e t

section Triples

variable {R R' : S→Prop} {Q Q' : A→S→Prop} {Q₂ : B→S→Prop} {X X' : E→S→Prop}

/-- Returning a value. -/
theorem Ensures.value {a : A} (h : ∀ s,R s→Q a s) : Ensures R (Job.value a : Job S E A) Q X :=
  h

/-- Raising. -/
theorem Ensures.raise {e : E} (h : ∀ s,R s→X e s) : Ensures R (Job.raise e : Job S E A) Q X :=
  h

/-- One job after another one. -/
theorem Ensures.andThen {j : Job S E A} {f : A→Job S E B} (h : Ensures R j Q X)
    (hf : ∀ a,Ensures (Q a) (f a) Q₂ X) : Ensures R (j.andThen f) Q₂ X := by
  intro s hs
  have hfirst := h s hs
  unfold Job.andThen
  rcases hj : j s with ⟨_ | a,t⟩
  · rw [hj] at hfirst
    exact hfirst
  · rw [hj] at hfirst
    exact hf a t hfirst

/-- A stronger condition before, and weaker ones afterwards. -/
theorem Ensures.mono {j : Job S E A} (h : Ensures R j Q X) (hR : ∀ s,R' s→R s)
    (hQ : ∀ a s,Q a s→Q' a s) (hX : ∀ e s,X e s→X' e s) : Ensures R' j Q' X' := by
  intro s hs
  have hfirst := h s (hR s hs)
  rcases hj : j s with ⟨_ | a,t⟩
  · rw [hj] at hfirst
    exact hX _ t hfirst
  · rw [hj] at hfirst
    exact hQ a t hfirst

/-- A condition that does not speak about the state. -/
theorem Ensures.assume {P : Prop} {j : Job S E A} (h : P→Ensures R j Q X) :
    Ensures (fun s => P ∧ R s) j Q X := fun s hs => h hs.1 s hs.2

/-- What every job for an entry of a list keeps. -/
theorem Ensures.each {I : B→S→Prop} {f : B→A→Job S E B} (l : List A) (b : B)
    (h : ∀ b,∀ a∈l,Ensures (I b) (f b a) I X) : Ensures (I b) (Job.each f l b) I X := by
  induction l generalizing b with
  | nil => exact Ensures.value fun _ hs => hs
  | cons a rest ih =>
    refine (h b a List.mem_cons_self).andThen fun b' => ih b' ?_
    exact fun b a ha => h b a (List.mem_cons_of_mem _ ha)

/-- What a job leaves, whether it returns or raises. -/
theorem Ensures.leaves {P : S→Prop} {j : Job S E A} {s : S} (h : Ensures R j Q X) (hs : R s)
    (hQ : ∀ a t,Q a t→P t) (hX : ∀ e t,X e t→P t) : P (j s).2 := by
  have hfirst := h s hs
  rcases hj : j s with ⟨_ | a,t⟩
  · rw [hj] at hfirst
    exact hX _ t hfirst
  · rw [hj] at hfirst
    exact hQ a t hfirst

/-- What a job that returns leaves. -/
theorem Ensures.returns {j : Job S E A} {s : S} {a : A} (h : Ensures R j Q X) (hs : R s)
    (ha : (j s).1=.ok a) : Q a (j s).2 := by
  have hfirst := h s hs
  rcases hj : j s with ⟨_ | b,t⟩
  · rw [hj] at ha
    cases ha
  · rw [hj] at ha hfirst
    cases ha
    exact hfirst

end Triples

end Aqts.RelatedJobs
