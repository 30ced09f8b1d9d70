import Mathlib.Logic.Basic

/-!
# A handler in one unit of work

A handler works on a session: it reads what the transaction sees, writes into it
and may commit on the way. The unit of work commits what is left when the handler
returns, whatever it returns, and rolls back when it raises. A handler is atomic if
a refusal, and an error before its own commit, leave the stored data. The rules
follow the parts a handler is built of; what the data and the answers are is open.
-/

namespace Aqts.UnitOfWork

variable {T E A : Type*}

/-- A session of a database. -/
structure Session (T : Type*) where
  /-- What is committed. -/
  stored : T
  /-- What the transaction sees. -/
  working : T
  /-- The handler has committed. -/
  committed : Bool

/-- A session that begins. -/
def Session.begin (t : T) : Session T := ⟨t,t,false⟩

/-- What a handler does to a session, up to its answer or its error. -/
abbrev Handler (T E A : Type*) := Session T→Except E A×Session T

/-- An answer. -/
def answer (a : A) : Handler T E A := fun s => (.ok a,s)

/-- A call that may raise. -/
def attempt (fails : Bool) (e : E) (next : Handler T E A) : Handler T E A :=
  fun s => if fails=true then (.error e,s) else next s

/-- Reading what the transaction sees. -/
def load (next : T→Handler T E A) : Handler T E A := fun s => next s.working s

/-- A change of what the transaction sees. -/
def assign (f : T→T) (next : Handler T E A) : Handler T E A :=
  fun s => next {s with working := f s.working}

/-- The changes reach the database, which raises if it does not accept them. -/
def flush (accepts : T→Bool) (e : E) (next : Handler T E A) : Handler T E A :=
  fun s => if accepts s.working=true then next s else (.error e,s)

/-- The handler commits. -/
def commit (next : Handler T E A) : Handler T E A := fun s => next ⟨s.working,s.working,true⟩

/-- The end of a unit of work. -/
def close (accepts : T→Bool) (failure : E) : Except E A×Session T→Except E A×T
  | (.error e,s) => (.error e,s.stored)
  | (.ok a,s) => if accepts s.working=true then (.ok a,s.working) else (.error failure,s.stored)

/-- A unit of work: the answer or error, and what is stored afterwards. -/
def unitOfWork (accepts : T→Bool) (failure : E) (handler : Handler T E A) (t : T) : Except E A×T :=
  close accepts failure (handler (.begin t))

/-- The handler has not done its work: it refuses, or an error comes before its commit. -/
def Undone (refuses : A→Prop) (committed : Bool) (result : Except E A) : Prop :=
  (∃ a,result=.ok a ∧ refuses a) ∨ (∃ e,result=.error e) ∧ committed=false

/-- From a session on, the handler leaves the data if it does not do its work. -/
def Keeps (accepts : T→Bool) (failure : E) (refuses : A→Prop) (t : T) (handler : Handler T E A)
    (s : Session T) : Prop :=
  let final := close accepts failure (handler s)
  Undone refuses (handler s).2.committed final.1→final.2=t

/-- The handler leaves the data if it does not do its work. -/
def Atomic (accepts : T→Bool) (failure : E) (refuses : A→Prop) (handler : Handler T E A) (t : T) :
    Prop :=
  Keeps accepts failure refuses t handler (.begin t)

variable {accepts : T→Bool} {failure e : E} {refuses : A→Prop} {t : T} {s : Session T}
  {next : Handler T E A} {a : A}

/-- An error leaves what is stored. -/
theorem keeps_error (h : s.stored=t) : Keeps accepts failure refuses t (fun s => (.error e,s)) s :=
  fun _ => h

/-- A refusal keeps the data of a session that has written nothing that is committed. -/
theorem keeps_refusal (hstored : s.stored=t) (hworking : accepts s.working=true→s.working=t) :
    Keeps accepts failure refuses t (answer a) s := by
  intro _
  unfold answer close
  dsimp only
  by_cases haccepts : accepts s.working=true
  · rw [if_pos haccepts]
    exact hworking haccepts
  · rw [if_neg haccepts]
    exact hstored

/-- An answer that refuses nothing keeps what it has to, also if the end fails. -/
theorem keeps_answer (hdone : ¬refuses a) (hstored : s.committed=false→s.stored=t) :
    Keeps accepts failure refuses t (answer a) s := by
  unfold Keeps Undone answer close
  dsimp only
  by_cases haccepts : accepts s.working=true
  · rw [if_pos haccepts]
    rintro (⟨b,hok,hrefuses⟩ | ⟨⟨_,herror⟩,_⟩)
    · cases hok
      exact absurd hrefuses hdone
    · cases herror
  · rw [if_neg haccepts]
    rintro (⟨_,hok,_⟩ | ⟨_,hcommitted⟩)
    · cases hok
    · exact hstored hcommitted

/-- A call that may raise. -/
theorem keeps_attempt {fails : Bool} (hstored : s.committed=false→s.stored=t)
    (h : fails=false→Keeps accepts failure refuses t next s) :
    Keeps accepts failure refuses t (attempt fails e next) s := by
  cases fails with
  | false => exact h rfl
  | true =>
    rintro (⟨_,hok,_⟩ | ⟨_,hcommitted⟩)
    · cases hok
    · exact hstored hcommitted

/-- Reading. -/
theorem keeps_load {next : T→Handler T E A}
    (h : Keeps accepts failure refuses t (next s.working) s) :
    Keeps accepts failure refuses t (load next) s := h

/-- A change. -/
theorem keeps_assign {f : T→T}
    (h : Keeps accepts failure refuses t next {s with working := f s.working}) :
    Keeps accepts failure refuses t (assign f next) s := h

/-- A flush. -/
theorem keeps_flush {flushes : T→Bool} (hstored : s.stored=t)
    (h : flushes s.working=true→Keeps accepts failure refuses t next s) :
    Keeps accepts failure refuses t (flush flushes e next) s := by
  unfold Keeps flush at *
  by_cases hflushes : flushes s.working=true
  · rw [if_pos hflushes]
    exact h hflushes
  · rw [if_neg hflushes]
    exact fun _ => hstored

/-- A commit. -/
theorem keeps_commit (h : Keeps accepts failure refuses t next ⟨s.working,s.working,true⟩) :
    Keeps accepts failure refuses t (commit next) s := h

end Aqts.UnitOfWork
