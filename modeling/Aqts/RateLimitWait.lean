import Aqts.GuardedRuns
import Aqts.SpacedTimes
import Mathlib.Tactic.Linarith
import Mathlib.Tactic.NormNum
import Mathlib.Algebra.Order.Ring.Rat

/-!
# The rate limit of the KIS client

`_request` of `KISClient` holds one of 18 places of a semaphore and calls
`_rate_limit_wait` first, which reads the time of the last request, sleeps for
the rest of the interval and then writes the time. A caller that sleeps does
not look again when it wakes, so callers that read the same last request time
leave together.
-/

namespace Aqts.RateLimitWait

open GuardedRuns SpacedTimes

/-- `_min_interval`, in seconds. -/
def minInterval : ℚ := 0.05

/-- The places of `_rate_limit_semaphore`. -/
def semaphorePlaces : ℕ := 18

/-- A caller that sleeps in `_rate_limit_wait`. -/
structure Sleeper where
  /-- `_last_request_time` as the caller read it. -/
  lastRead : ℚ
  /-- The end of the sleep: the reading of the clock plus the rest of the
  interval. -/
  wakes : ℚ
deriving DecidableEq

/-- The limiter, shared by every client, with its callers. -/
structure Limiter where
  /-- The monotone clock, in seconds. -/
  clock : ℚ
  /-- `_last_request_time`. -/
  lastRequestTime : ℚ
  /-- The callers asleep, each with a place of the semaphore. -/
  sleeping : List Sleeper
  /-- The callers that left the wait and still hold their place. -/
  requesting : ℕ
  /-- The times at which callers left the wait, the newest first. -/
  departures : List ℚ
deriving DecidableEq

/-- The limiter of a fresh process, whose clock shows some time. -/
def init (clock : ℚ) : Limiter := ⟨clock,0,[],0,[]⟩

/-- What a caller does between two awaits. -/
inductive Event
  /-- A caller gets a place and reads the clock; a caller that need not wait
  reads it once more to write the request time. -/
  | enter (now after : ℚ)
  /-- A sleeping caller wakes and writes the request time. -/
  | wake (sleeper : Sleeper) (now : ℚ)
  /-- A sleeping caller is cancelled and gives its place back. -/
  | cancel (sleeper : Sleeper)
  /-- A request has ended and its place is free. -/
  | finish
deriving DecidableEq

/-- A caller leaves `_rate_limit_wait`. -/
def leave (now : ℚ) (s : Limiter) : Limiter :=
  {s with
    clock := now
    lastRequestTime := now
    requesting := s.requesting+1
    departures := now::s.departures}

/-- One step of the callers of `_request`. -/
def step (s : Limiter) : Event→Option Limiter
  | .enter now after =>
    if s.sleeping.length+s.requesting< semaphorePlaces ∧ s.clock≤now ∧ now≤after then
      if now-s.lastRequestTime< minInterval then
        some {s with
          clock := now
          sleeping := ⟨s.lastRequestTime,now+(minInterval-(now-s.lastRequestTime))⟩::s.sleeping}
      else some (leave after s)
    else none
  | .wake sleeper now =>
    if sleeper∈s.sleeping ∧ s.clock≤now ∧ sleeper.wakes≤now then
      some (leave now {s with sleeping := s.sleeping.erase sleeper})
    else none
  | .cancel sleeper =>
    if sleeper∈s.sleeping then some {s with sleeping := s.sleeping.erase sleeper} else none
  | .finish => if 0< s.requesting then some {s with requesting := s.requesting-1} else none

/-- No request has left since a waking caller read the last request time. -/
def NoneLeftSince (s : Limiter) : Event→Prop
  | .wake sleeper _ => s.lastRequestTime=sleeper.lastRead
  | _ => True

instance (s : Limiter) (e : Event) : Decidable (NoneLeftSince s e) :=
  match e with
  | .enter _ _ => .isTrue trivial
  | .wake sleeper _ => inferInstanceAs (Decidable (s.lastRequestTime=sleeper.lastRead))
  | .cancel _ => .isTrue trivial
  | .finish => .isTrue trivial

/-- The requests that left in the second from a time on. -/
def startedInSecond (s : Limiter) (t : ℚ) : ℕ :=
  (s.departures.filter fun x => t≤x ∧ x< t+1).length

/-- The limit as the module states it: requests leave at least the interval
apart, and at most 20 in any second. -/
def LimitKept (s : Limiter) : Prop :=
  Spaced minInterval s.departures ∧ ∀ t,startedInSecond s t≤20

/-- A caller that leaves long enough after the last request keeps the
departures apart. -/
theorem spaced_leave {s : Limiter} {now : ℚ}
    (hspaced : Spaced minInterval s.departures)
    (hlast : ∀ last∈s.departures.head?,s.lastRequestTime=last)
    (hnow : s.lastRequestTime+minInterval≤now) :
    Spaced minInterval (leave now s).departures := by
  apply hspaced.cons
  · unfold minInterval
    norm_num
  · intro last hmem
    rw [← hlast last hmem]
    exact hnow

/-- What a run keeps: the departures are apart, the last of them is the last
request time, and a sleeper wakes an interval after the time it read. -/
structure Paced (s : Limiter) : Prop where
  /-- The departures are apart. -/
  spaced : Spaced minInterval s.departures
  /-- The newest departure is the last request time. -/
  last : ∀ last∈s.departures.head?,s.lastRequestTime=last
  /-- A sleeper sleeps the rest of the interval. -/
  wakes : ∀ sleeper∈s.sleeping,sleeper.lastRead+minInterval≤ sleeper.wakes

/-- A step keeps the pace when no request has left since a waking caller read
the last request time. -/
theorem Paced.step {s s' : Limiter} {e : Event} (h : Paced s) (hguard : NoneLeftSince s e)
    (hs : RateLimitWait.step s e=some s') : Paced s' := by
  cases e with
  | enter now after =>
    unfold RateLimitWait.step at hs
    dsimp only at hs
    by_cases hplace :
        s.sleeping.length+s.requesting< semaphorePlaces ∧ s.clock≤now ∧ now≤after
    · rw [if_pos hplace] at hs
      by_cases hwait : now-s.lastRequestTime< minInterval
      · rw [if_pos hwait] at hs
        obtain rfl := Option.some.inj hs
        refine ⟨h.spaced,h.last,?_⟩
        intro sleeper hmem
        obtain rfl | hold := List.mem_cons.mp hmem
        · dsimp only
          linarith
        · exact h.wakes sleeper hold
      · rw [if_neg hwait] at hs
        obtain rfl := Option.some.inj hs
        refine ⟨spaced_leave h.spaced h.last ?_,?_,h.wakes⟩
        · have hafter : now≤after := hplace.2.2
          have hinterval : minInterval≤now-s.lastRequestTime := not_lt.mp hwait
          linarith
        · intro last hmem
          exact Option.some.inj hmem
    · rw [if_neg hplace] at hs
      cases hs
  | wake sleeper now =>
    unfold RateLimitWait.step at hs
    dsimp only at hs
    obtain ⟨hawake,hsome⟩ := Option.ite_none_right_eq_some.mp hs
    obtain rfl := Option.some.inj hsome
    refine ⟨?_,?_,?_⟩
    · refine spaced_leave (s := {s with sleeping := s.sleeping.erase sleeper})
        h.spaced h.last ?_
      -- the sleep was computed from the last request time that still stands
      have hread : s.lastRequestTime=sleeper.lastRead := hguard
      dsimp only
      rw [hread]
      exact (h.wakes sleeper hawake.1).trans hawake.2.2
    · intro last hmem
      exact Option.some.inj hmem
    · intro other hother
      exact h.wakes other (List.mem_of_mem_erase hother)
  | cancel sleeper =>
    unfold RateLimitWait.step at hs
    dsimp only at hs
    obtain ⟨hasleep,hsome⟩ := Option.ite_none_right_eq_some.mp hs
    obtain rfl := Option.some.inj hsome
    exact ⟨h.spaced,h.last,fun other hother => h.wakes other (List.mem_of_mem_erase hother)⟩
  | finish =>
    unfold RateLimitWait.step at hs
    dsimp only at hs
    obtain ⟨hrequest,hsome⟩ := Option.ite_none_right_eq_some.mp hs
    obtain rfl := Option.some.inj hsome
    exact ⟨h.spaced,h.last,h.wakes⟩

/-- The pace holds in every run in which no caller wakes to a newer request. -/
theorem paced_of_reaches {clock : ℚ} {s : Limiter}
    (h : Reaches step NoneLeftSince (init clock) s) : Paced s := by
  apply h.invariant (P := Paced)
  · refine ⟨spaced_nil,?_,?_⟩
    · intro last hmem
      cases hmem
    · intro sleeper hmem
      cases hmem
  · intro s e s' _ hpaced hguard hs
    exact hpaced.step hguard hs

/-- Departures an interval apart are at most 20 in a second. -/
theorem Paced.limit {s : Limiter} (h : Paced s) : LimitKept s := by
  refine ⟨h.spaced,?_⟩
  intro t
  have hpositive : 0≤ minInterval := by
    unfold minInterval
    norm_num
  have hwindow := h.spaced.window hpositive 20 t
  have hsecond : (20 : ℕ)•minInterval=1 := by
    unfold minInterval
    norm_num
  rw [hsecond] at hwindow
  exact hwindow

/-- In every run of callers, each of whom wakes before another request has left
since it read the last request time, requests leave at least the interval apart
and at most 20 of them in any second. -/
theorem requests_keep_limit {clock : ℚ} {s : Limiter}
    (h : Reaches step NoneLeftSince (init clock) s) : LimitKept s :=
  (paced_of_reaches h).limit

/-- One caller leaves at once, the next sleeps and leaves an interval later. -/
def spacedRun : List Event := [.enter 10 10,.enter 10.01 10.01,.wake ⟨10,10.05⟩ 10.06]

/-- The limit holds after two requests of which the second waits. -/
theorem requests_keep_limit_two :
    ∃ s,play step NoneLeftSince (init 10) spacedRun=some s ∧ s.departures=[10.06,10] ∧
      LimitKept s := by
  obtain ⟨s,hplay,hend,hreach⟩ := play_ends step NoneLeftSince (init 10)
    (fun s => s.departures=[10.06,10]) spacedRun (by decide +kernel)
  exact ⟨s,hplay,hend,requests_keep_limit hreach⟩

/-- Three callers: one leaves at once, two read its time and sleep until the
same instant. -/
def sameWakeRun : List Event :=
  [.enter 10 10,.enter 10.01 10.01,.enter 10.02 10.02,.wake ⟨10,10.05⟩ 10.05,
    .wake ⟨10,10.05⟩ 10.05]

/-- Two callers that read the same last request time leave together. -/
theorem not_limit_kept :
    ¬∀ s,Reaches step (fun _ _ => True) (init 10) s→LimitKept s := by
  intro hall
  obtain ⟨s,_,hend,hreach⟩ := play_ends step (fun _ _ => True) (init 10)
    (fun s => s.departures=[10.05,10.05,10]) sameWakeRun (by decide +kernel)
  have hspaced := (hall s hreach).1
  rw [hend] at hspaced
  exact absurd hspaced (by decide +kernel)

end Aqts.RateLimitWait
