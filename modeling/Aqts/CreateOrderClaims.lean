import Aqts.CreateOrder

/-!
# Ownership of the claim in create_order

What a single action of a request can do to the key, and from it the claim
discipline over whole runs. While every holder finishes within the lifetime
of its marker and no `try_claim` returns on a stored result, the marker in
the key belongs to the only request inside its section. The same invariant
decides what a `release_claim` can delete.
-/

namespace Aqts.CreateOrder

open ExpiringSlot IdempotencyStore OrderTypes GuardedRuns

variable {n : ℕ}

/-- The request is inside `try_claim`. -/
def Phase.isClaiming : Phase→Bool
  | .claiming _ => true
  | _ => false

/-- The request has not claimed and has not answered. -/
def Phase.waiting : Phase→Bool
  | .arrived => true
  | .claiming _ => true
  | _ => false

/-- `execute_order` has returned and the response is not stored yet. -/
def Phase.afterReturn : Phase→Bool
  | .executed _ => true
  | .recorded _ => true
  | .responding _ => true
  | _ => false

/-- The action did not take effect. -/
def Outcome.isFailure : Outcome→Bool
  | .fails => true
  | .raises _ => true
  | _ => false

/-- A request between its return and its store is in its section. -/
theorem Phase.inSection_of_afterReturn {p : Phase} (h : p.afterReturn=true) :
    p.inSection=true := by
  cases p with
  | executed result => rfl
  | recorded result => rfl
  | responding body => rfl
  | _ => cases h

/-- What an action of request `i` can do, by its effect on the key. -/
inductive MoveCase (env : Setting n) (i : Fin n) (now : ℚ) (slot : Slot (Raw Body) ℚ) :
    Phase→Outcome→Move→Prop
  /-- An action that leaves the live contents of the key alone. -/
  | quiet {p p' : Phase} {o : Outcome} {slot' : Slot (Raw Body) ℚ}
      (kept : slot'=slot ∨ slot'=sweep now slot)
      (inside : p'.inSection=true→p.inSection=true)
      (claims : p'.waiting=true→p.isClaiming=true ∧ p'.isClaiming=true)
      (after : p.afterReturn=true→ o.isFailure=false→p'.afterReturn=true)
      (before : p'.afterReturn=true→p.afterReturn=true) :
      MoveCase env i now slot p o ⟨p',slot',.quiet⟩
  /-- The GET of `lookup`; without a record the request goes on to claim. -/
  | looked {p' : Phase} {o : Outcome}
      (missed : p'=.claiming .setNx ∧ lookupRecord now slot=none ∨ ∃ reply,p'=.finished reply) :
      MoveCase env i now slot .arrived o ⟨p',sweep now slot,.looked⟩
  /-- A marker is written, which needs a free key. -/
  | installed {command : ClaimCommand} {o : Outcome} {p' : Phase} (free : sweep now slot=none)
      (entered : p'=.claimed ∨ ∃ reply,p'=.finished reply) :
      MoveCase env i now slot (.claiming command) o
        ⟨p',setEx now env.config.claimTtl .claimMarker,.installed⟩
  /-- The claim returns on a stored result. -/
  | entered {command : ClaimCommand} {o : Outcome} {slot' : Slot (Raw Body) ℚ}
      {existing : OrderIdempotencyRecord Body} (inspecting : inspects env.backend command=true)
      (found : read now slot=some (.result existing)) (own : existing.fingerprint=env.fp i) :
      MoveCase env i now slot (.claiming command) o ⟨.claimed,slot',.entered⟩
  /-- The executor is called. -/
  | began {o : Outcome} : MoveCase env i now slot .requested o ⟨.executing,slot,.began⟩
  /-- The executor returns. -/
  | returned {o : Outcome} {result : OrderResult} :
      MoveCase env i now slot .executing o ⟨.executed result,slot,.returned⟩
  /-- The response is stored. -/
  | stored {o : Outcome} {body : Body} :
      MoveCase env i now slot (.responding body) o
        ⟨.finished (.executed body),storedSlot env i now body,.stored⟩
  /-- The claim is released by a deletion. -/
  | removed {p : Phase} {o : Outcome} {slot' : Slot (Raw Body) ℚ} {reply : Reply}
      (inside : p.inSection=true) (after : p.afterReturn=false)
      (deleted : slot'=none ∨ slot'=slot) :
      MoveCase env i now slot p o ⟨.finished reply,slot',.removed⟩

variable {env : Setting n} {i : Fin n} {now : ℚ} {slot : Slot (Raw Body) ℚ}

/-- An action that keeps the key and stays within one kind of phase. -/
theorem MoveCase.keep {p p' : Phase} {o : Outcome} (hs : p.inSection=true)
    (hc : p'.waiting=false) (ha : p.afterReturn=true→ o.isFailure=false→p'.afterReturn=true)
    (hb : p'.afterReturn=true→p.afterReturn=true) :
    MoveCase env i now slot p o ⟨p',slot,.quiet⟩ := by
  refine .quiet (.inl rfl) (fun _ => hs) (fun h => ?_) ha hb
  rw [hc] at h
  cases h

/-- An action outside the section that ends the request. -/
theorem MoveCase.refuse {p : Phase} {o : Outcome} {error : StoreError}
    {slot' : Slot (Raw Body) ℚ} (hk : slot'=slot ∨ slot'=sweep now slot)
    (ha : p.afterReturn=false) :
    MoveCase env i now slot p o ⟨CreateOrder.refuse error,slot',.quiet⟩ := by
  refine .quiet hk (fun h => ?_) (fun h => ?_) (fun h => ?_) (fun h => ?_)
  · cases h
  · cases h
  · rw [ha] at h
    cases h
  · cases h

/-- The outcome of a Redis claim command, as a case of a move. -/
theorem claimCommand_moveCase (command : ClaimCommand) (o : Outcome)
    (hb : env.backend=.redis) :
    MoveCase env i now slot (.claiming command) o
      (claimMove (claimCommand env.config now env.key (env.fp i) command slot)) := by
  have hagain : ∀ (command' : ClaimCommand) (slot' : Slot (Raw Body) ℚ),slot'=sweep now slot→
      MoveCase env i now slot (.claiming command) o ⟨.claiming command',slot',.quiet⟩ :=
    fun _ _ hs => .quiet (.inr hs) (fun h => by cases h) (fun _ => ⟨rfl,rfl⟩)
      (fun h => by cases h) (fun h => by cases h)
  cases command with
  | setNx =>
    dsimp only [claimCommand]
    cases hsw : sweep now slot with
    | none => exact .installed hsw (.inl rfl)
    | some entry => exact hagain .get _ hsw.symm
  | get =>
    dsimp only [claimCommand]
    cases hr : read now slot with
    | none => exact hagain .retrySetNx _ rfl
    | some value =>
      cases value with
      | claimMarker => exact .refuse (.inr rfl) rfl
      | result existing =>
        dsimp only
        by_cases hf : existing.fingerprint=env.fp i
        · rw [if_pos hf]
          have hi : inspects env.backend .get=true := by
            rw [hb]
            rfl
          exact .entered hi hr hf
        · rw [if_neg hf]
          exact .refuse (.inr rfl) rfl
  | retrySetNx =>
    dsimp only [claimCommand]
    cases hsw : sweep now slot with
    | none => exact .installed hsw (.inl rfl)
    | some entry => exact .refuse (.inr hsw.symm) rfl

/-- The outcome of an in-memory claim, as a case of a move. -/
theorem memoryTryClaim_moveCase (command : ClaimCommand) (o : Outcome)
    (hb : env.backend=.memory) :
    MoveCase env i now slot (.claiming command) o
      (claimMove (memoryTryClaim env.config now env.key (env.fp i) slot)) := by
  unfold memoryTryClaim
  cases hsw : sweep now slot with
  | none => exact .installed hsw (.inl rfl)
  | some entry =>
    have hr : read now slot=some entry.value := by
      unfold ExpiringSlot.read
      rw [hsw]
      rfl
    dsimp only
    cases hv : entry.value with
    | claimMarker => exact .refuse (.inl rfl) rfl
    | result existing =>
      dsimp only
      by_cases hf : existing.fingerprint=env.fp i
      · rw [if_pos hf]
        have hi : inspects env.backend command=true := by
          rw [hb]
          rfl
        rw [hv] at hr
        exact .entered hi hr hf
      · rw [if_neg hf]
        exact .refuse (.inl rfl) rfl

/-- A claim command whose answer is lost still acts on the key. -/
theorem lostClaim_moveCase (command : ClaimCommand) (o : Outcome) :
    MoveCase env i now slot (.claiming command) o
      (lostClaimMove command (claimCommand env.config now env.key (env.fp i) command slot)) := by
  cases command with
  | setNx =>
    dsimp only [claimCommand]
    cases hsw : sweep now slot with
    | none => exact .installed hsw (.inr ⟨_,rfl⟩)
    | some entry => exact .refuse (.inr hsw.symm) rfl
  | get =>
    dsimp only [claimCommand]
    cases hr : read now slot with
    | none => exact .refuse (.inr rfl) rfl
    | some value =>
      cases value with
      | claimMarker => exact .refuse (.inr rfl) rfl
      | result existing =>
        dsimp only
        split
        · exact .refuse (.inr rfl) rfl
        · exact .refuse (.inr rfl) rfl
  | retrySetNx =>
    dsimp only [claimCommand]
    cases hsw : sweep now slot with
    | none => exact .installed hsw (.inr ⟨_,rfl⟩)
    | some entry => exact .refuse (.inr hsw.symm) rfl

/-- The GET of `lookup`, as a case of a move. -/
theorem lookupMove_moveCase (o : Outcome) :
    MoveCase env i now slot .arrived o (lookupMove env i now slot) := by
  unfold lookupMove
  cases hl : lookupRecord now slot with
  | none => exact .looked (.inl ⟨rfl,hl⟩)
  | some existing =>
    dsimp only
    split
    · exact .looked (.inr ⟨_,rfl⟩)
    · exact .looked (.inr ⟨_,rfl⟩)

/-- The deletion of the in-memory store. -/
theorem memoryReleaseClaim_cases (slot : Slot (Raw Body) ℚ) :
    memoryReleaseClaim slot=none ∨ memoryReleaseClaim slot=slot := by
  cases slot with
  | none => exact .inl rfl
  | some entry =>
    unfold memoryReleaseClaim
    dsimp only
    split
    · exact .inl rfl
    · exact .inr rfl

/-- An error path that leaves the section without touching the key. -/
theorem MoveCase.leave {p : Phase} {o : Outcome} {reply : Reply}
    {slot' : Slot (Raw Body) ℚ} (hk : slot'=slot ∨ slot'=sweep now slot)
    (ha : p.afterReturn=true→ o.isFailure=false→False) :
    MoveCase env i now slot p o ⟨.finished reply,slot',.quiet⟩ := by
  refine .quiet hk (fun h => ?_) (fun h => ?_) (fun h ho => (ha h ho).elim) (fun h => ?_)
  · cases h
  · cases h
  · cases h

/-- Every action of a request is one of the cases. -/
theorem move_cases {p : Phase} {o : Outcome} {m : Move} (h : move env i now slot p o=some m) :
    MoveCase env i now slot p o m := by
  unfold move at h
  split at h
  · cases h
    exact lookupMove_moveCase _
  · split at h
    · cases h
      exact .refuse (.inl rfl) rfl
    · cases h
  · split at h
    · rename_i hb
      cases h
      exact claimCommand_moveCase _ _ hb
    · rename_i hb
      cases h
      exact memoryTryClaim_moveCase _ _ hb
  · split at h
    · cases h
      exact .refuse (.inl rfl) rfl
    · cases h
  · split at h
    · cases h
      exact lostClaim_moveCase _ _
    · cases h
  · cases h
    exact .keep rfl rfl (fun h => by cases h) (fun h => by cases h)
  · cases h
    exact .keep rfl rfl (fun h => by cases h) (fun h => by cases h)
  · cases h
    exact .began
  · cases h
    exact .keep rfl rfl (fun h => by cases h) (fun h => by cases h)
  · cases h
    exact .returned
  · cases h
    exact .keep rfl rfl (fun h => by cases h) (fun h => by cases h)
  · cases h
    exact .keep rfl rfl (fun _ _ => rfl) (fun _ => rfl)
  · cases h
    exact .keep rfl rfl (fun _ ho => by cases ho) (fun h => by cases h)
  · cases h
    exact .keep rfl rfl (fun _ _ => rfl) (fun _ => rfl)
  · cases h
    exact .keep rfl rfl (fun _ ho => by cases ho) (fun h => by cases h)
  · cases h
    exact .stored
  · split at h
    · cases h
      exact .leave (.inl rfl) (fun _ ho => by cases ho)
    · cases h
  · split at h
    · cases h
      exact .stored
    · cases h
  · split at h
    · split at h
      · cases h
        exact .quiet (.inr rfl) (fun _ => rfl) (fun h => by cases h) (fun h => by cases h)
          (fun h => by cases h)
      · cases h
        exact .leave (.inr rfl) (fun h => by cases h)
    · cases h
      exact .removed rfl rfl (memoryReleaseClaim_cases slot)
  · split at h
    · cases h
      exact .leave (.inl rfl) (fun h => by cases h)
    · cases h
  · cases h
    exact .removed rfl rfl (.inl rfl)
  · cases h
    exact .leave (.inl rfl) (fun h => by cases h)
  · cases h
    exact .removed rfl rfl (.inl rfl)
  · cases h

/-- A step of a run is a clock change or a move of one request. -/
theorem step_cases {s s' : System n} {e : Event n} (h : step env s e=some s') :
    (∃ instant,e=.tick instant ∧ s'={s with now := instant}) ∨
      ∃ i o m,e=.act i o ∧ MoveCase env i s.now s.slot (s.attempt i).phase o m ∧
        s'=s.apply i m := by
  cases e with
  | tick instant =>
    cases h
    exact .inl ⟨instant,rfl,rfl⟩
  | act i o =>
    obtain ⟨m,hm,hs⟩ := Option.map_eq_some_iff.mp h
    exact .inr ⟨i,o,m,rfl,move_cases hm,hs.symm⟩

/-- The moving request after its move. -/
theorem apply_attempt_self (s : System n) (i : Fin n) (m : Move) :
    (s.apply i m).attempt i={
      phase := m.phase
      claimedAt :=
        if m.effect=.installed ∨ m.effect=.entered then s.now else (s.attempt i).claimedAt
      start := if m.effect=.looked then some ⟨s.now,s.returned⟩ else (s.attempt i).start } :=
  Function.update_self i _ s.attempt

/-- The moving request takes the phase of the move. -/
theorem apply_phase_self (s : System n) (i : Fin n) (m : Move) :
    ((s.apply i m).attempt i).phase=m.phase := by rw [apply_attempt_self]

/-- The claim instant of the moving request changes only when it claims. -/
theorem apply_claimedAt_self (s : System n) (i : Fin n) {m : Move}
    (h : ¬(m.effect=.installed ∨ m.effect=.entered)) :
    ((s.apply i m).attempt i).claimedAt=(s.attempt i).claimedAt := by
  rw [apply_attempt_self]
  exact if_neg h

/-- The other requests are left alone. -/
theorem apply_attempt_other (s : System n) {i j : Fin n} (m : Move) (h : j≠i) :
    (s.apply i m).attempt j=s.attempt j := Function.update_of_ne h _ _

/-- The key keeps its writer unless the move writes it. -/
theorem apply_writer (s : System n) (i : Fin n) {m : Move}
    (h : ¬(m.effect=.installed ∨ m.effect=.stored)) : (s.apply i m).writer=s.writer := if_neg h

/-- The key holds a live marker that this request has written. -/
def Holds (env : Setting n) (s : System n) (i : Fin n) : Prop :=
  s.writer=some i ∧
    s.slot=some ⟨.claimMarker,(s.attempt i).claimedAt+env.config.claimTtl⟩ ∧
    s.now≤(s.attempt i).claimedAt+env.config.claimTtl

/-- Every request in its section holds the key. -/
def Owned (env : Setting n) (s : System n) : Prop :=
  ∀ i,(s.attempt i).phase.inSection=true→Holds env s i

/-- The sweep does not change a key that is held. -/
theorem Holds.sweep {s : System n} {i : Fin n} (h : Holds env s i) :
    sweep s.now s.slot=s.slot := by
  rw [h.2.1]
  exact sweep_live h.2.2

/-- Two requests that hold the key are the same. -/
theorem Holds.unique {s : System n} {i j : Fin n} (hi : Holds env s i) (hj : Holds env s j) :
    i=j := Option.some.inj (hi.1.symm.trans hj.1)

/-- The holder keeps the key through a move that leaves key, writer and its
own claim instant alone. -/
theorem Holds.frame {s : System n} {i j : Fin n} {m : Move} (h : Holds env s j)
    (hk : m.slot=s.slot ∨ m.slot=ExpiringSlot.sweep s.now s.slot)
    (hw : ¬(m.effect=.installed ∨ m.effect=.stored))
    (hc : ¬(m.effect=.installed ∨ m.effect=.entered)) : Holds env (s.apply i m) j := by
  have hclaimed : ((s.apply i m).attempt j).claimedAt=(s.attempt j).claimedAt := by
    by_cases hj : j=i
    · subst hj
      exact apply_claimedAt_self s j hc
    · rw [apply_attempt_other s m hj]
  have hslot : (s.apply i m).slot=s.slot := by
    rcases hk with hk | hk
    · exact hk
    · exact hk.trans h.sweep
  unfold Holds
  rw [hclaimed,hslot,apply_writer s i hw]
  exact h

/-- A move that keeps the key and opens no section keeps the ownership. -/
theorem Owned.frame {s : System n} {i : Fin n} {m : Move} (h : Owned env s)
    (hk : m.slot=s.slot ∨ m.slot=sweep s.now s.slot)
    (hw : ¬(m.effect=.installed ∨ m.effect=.stored))
    (hc : ¬(m.effect=.installed ∨ m.effect=.entered))
    (hin : m.phase.inSection=true→(s.attempt i).phase.inSection=true) :
    Owned env (s.apply i m) := by
  intro j hj
  by_cases hji : j=i
  · subst hji
    rw [apply_phase_self] at hj
    exact (h j (hin hj)).frame hk hw hc
  · rw [apply_attempt_other s m hji] at hj
    exact (h j hj).frame hk hw hc

/-- When the only request in its section finishes, no section is open. -/
theorem Owned.close {s : System n} {i : Fin n} {m : Move} (h : Owned env s)
    (hi : (s.attempt i).phase.inSection=true) (hm : m.phase.inSection=false) :
    Owned env (s.apply i m) := by
  intro j hj
  by_cases hji : j=i
  · subst hji
    rw [apply_phase_self,hm] at hj
    cases hj
  · rw [apply_attempt_other s m hji] at hj
    exact absurd ((h j hj).unique (h i hi)) hji

/-- While the key is free, no request is in its section. -/
theorem Owned.none_inside {s : System n} (h : Owned env s) (hf : sweep s.now s.slot=none)
    (j : Fin n) : (s.attempt j).phase.inSection=false := by
  by_contra hj
  have hold := h j (Bool.not_eq_false _ ▸ hj)
  rw [hold.sweep,hold.2.1] at hf
  cases hf

/-- A marker written into a free key belongs to the only request that can
be in its section. -/
theorem Owned.install {s : System n} {i : Fin n} (h : Owned env s)
    (hf : sweep s.now s.slot=none) (p' : Phase) :
    Owned env (s.apply i ⟨p',setEx s.now env.config.claimTtl .claimMarker,.installed⟩) := by
  intro j hj
  by_cases hji : j=i
  · subst hji
    unfold Holds
    rw [apply_attempt_self]
    refine ⟨rfl,rfl,?_⟩
    exact le_add_of_nonneg_right env.config.claimTtl_pos.le
  · rw [apply_attempt_other s _ hji,h.none_inside hf j] at hj
    cases hj

/-- The case of a claim that returns on a stored result is excluded when no
`try_claim` meets its own result. -/
theorem not_entered {s : System n} {i : Fin n} {o : Outcome} {command : ClaimCommand}
    {existing : OrderIdempotencyRecord Body} (ho : NoOwnResult env s (.act i o))
    (hp : (s.attempt i).phase=.claiming command) (hi : inspects env.backend command=true)
    (hf : read s.now s.slot=some (.result existing)) (hown : existing.fingerprint=env.fp i) :
    False := by
  have hfind : findsOwnResult env s i=true := by
    unfold findsOwnResult
    rw [hp,hf]
    simp [hi,hown]
  rw [NoOwnResult,hfind] at ho
  cases ho

/-- The ownership survives every step of the claim discipline. -/
theorem Owned.step {s s' : System n} {e : Event n} (h : Owned env s)
    (ht : TimelyClaims env s e) (ho : NoOwnResult env s e)
    (hs : CreateOrder.step env s e=some s') : Owned env s' := by
  obtain ⟨instant,rfl,rfl⟩ | ⟨i,o,m,rfl,hm,rfl⟩ := step_cases hs
  · intro j hj
    exact ⟨(h j hj).1,(h j hj).2.1,ht j hj⟩
  · generalize hp : (s.attempt i).phase=p at hm
    cases hm with
    | quiet kept inside _ _ _ =>
      exact h.frame kept (by simp) (by simp) (by rwa [hp])
    | looked missed =>
      refine h.frame (.inr rfl) (by simp) (by simp) (fun hin => ?_)
      obtain ⟨rfl,_⟩ | ⟨reply,rfl⟩ := missed
      · cases hin
      · cases hin
    | installed free _ => exact h.install free _
    | entered inspecting found own => exact (not_entered ho hp inspecting found own).elim
    | began =>
      refine h.frame (.inl rfl) (by simp) (by simp) (fun _ => ?_)
      rw [hp]
      rfl
    | returned =>
      refine h.frame (.inl rfl) (by simp) (by simp) (fun _ => ?_)
      rw [hp]
      rfl
    | stored =>
      refine h.close ?_ rfl
      rw [hp]
      rfl
    | removed inside _ _ =>
      refine h.close ?_ rfl
      rwa [hp]

/-- The claim discipline of a run: holders finish within the lifetime of
their claim, and no `try_claim` returns on a stored result. -/
def Disciplined (env : Setting n) (s : System n) (e : Event n) : Prop :=
  TimelyClaims env s e ∧ NoOwnResult env s e

instance (env : Setting n) (s : System n) (e : Event n) : Decidable (Disciplined env s e) :=
  inferInstanceAs (Decidable (TimelyClaims env s e ∧ NoOwnResult env s e))

/-- Ownership holds in every state of a disciplined run, also when the run
is restricted further. -/
theorem owned_of_reaches {allowed : System n→Event n→Prop}
    (hd : ∀ s e,allowed s e→Disciplined env s e) {s : System n}
    (h : Reaches (step env) allowed (initial n) s) : Owned env s := by
  refine h.invariant ?_ ?_
  · intro i hi
    cases hi
  · intro s e s' _ hs ha hstep
    exact hs.step (hd s e ha).1 (hd s e ha).2 hstep

/-- At most one request is between its successful `try_claim` and its own
`store_result` or `release_claim`. -/
def AtMostOneInside (s : System n) : Prop :=
  ∀ i j,(s.attempt i).phase.inSection=true→(s.attempt j).phase.inSection=true→i=j

instance : DecidablePred (AtMostOneInside (n := n)) := fun s =>
  inferInstanceAs (Decidable (∀ i j,(s.attempt i).phase.inSection=true→
    (s.attempt j).phase.inSection=true→i=j))

/-- Copies of one TWAP order under one key, with the default lifetimes. -/
def repeatedOrder (n : ℕ) (backend : Backend) : Setting n where
  config := defaultConfig
  backend := backend
  key := "k-1"
  fingerprint := OrderCreateRequest.ticker
  body := fun _ => ⟨"005930","KRX","BUY",10,"TWAP",none,none⟩

/-- The claims of a disciplined run exclude each other, for either store,
any clock and any interleaving. -/
theorem disciplined_claims_exclude (env : Setting n) {s : System n}
    (h : Reaches (step env) (Disciplined env) (initial n) s) : AtMostOneInside s := by
  intro i j hi hj
  have hown := owned_of_reaches (fun _ _ hd => hd) h
  exact (hown i hi).unique (hown j hj)

/-- A second request during the execution of the first is refused. -/
def contendedRun : List (Event 2) :=
  [.act 0 .ok,.act 1 .ok,.act 0 .ok,.act 1 .ok,.act 0 .ok,.tick 20,.act 1 .ok,.act 0 .ok]

/-- The exclusion on a run where the first request is executing. -/
theorem disciplined_claims_exclude_contended :
    ∃ s,play (step (repeatedOrder 2 .redis)) (Disciplined (repeatedOrder 2 .redis)) (initial 2)
        contendedRun=some s ∧ (s.attempt 0).phase=.executing ∧
      AtMostOneInside s := by
  obtain ⟨s,hp,hq,hr⟩ := play_ends (step (repeatedOrder 2 .redis))
    (Disciplined (repeatedOrder 2 .redis)) (initial 2)
    (fun s => (s.attempt 0).phase=.executing) contendedRun (by decide +kernel)
  exact ⟨s,hp,hq,disciplined_claims_exclude _ hr⟩

/-- Without the discipline the exclusion fails: a claim of 30 s lapses while
its holder executes, and a second request claims the key. -/
theorem claims_overlap_after_expiry :
    ¬∀ s,Reaches (step (repeatedOrder 2 .redis)) (fun _ _ => True) (initial 2) s→
      AtMostOneInside s :=
  not_forall_reaches
    [.act 0 .ok,.act 0 .ok,.act 0 .ok,.act 0 .ok,.tick 31,.act 1 .ok,.act 1 .ok]
    (by decide +kernel)

/-- Every live entry deleted by a `release_claim` was a claim marker that the
releasing request had installed. -/
def RemovesOwnMarkers (s : System n) : Prop :=
  ∀ d∈s.removed,d.value=.claimMarker ∧ d.writer=some d.request

instance : DecidablePred (RemovesOwnMarkers (n := n)) := fun s =>
  inferInstanceAs (Decidable (∀ d∈s.removed,d.value=.claimMarker ∧ d.writer=some d.request))

/-- What one deletion logs when the releasing request holds the key. -/
theorem removals_of_holds {s : System n} {i : Fin n} (h : Holds env s i)
    (after : Slot (Raw Body) ℚ) {d : Removal n} (hd : d∈removals s i after) :
    d.value=.claimMarker ∧ d.writer=some d.request := by
  unfold removals at hd
  rw [h.sweep,h.2.1] at hd
  split at hd
  · rename_i he
    cases he
    rw [List.mem_singleton.mp hd]
    exact ⟨rfl,h.1⟩
  · cases hd

/-- In a disciplined run a `release_claim` removes its own marker only, and
so no result. -/
theorem disciplined_release_removes_own (env : Setting n) {s : System n}
    (h : Reaches (step env) (Disciplined env) (initial n) s) : RemovesOwnMarkers s := by
  refine h.invariant ?_ ?_
  · intro d hd
    cases hd
  · intro s e s' hr hs _ hstep
    have hown := owned_of_reaches (fun _ _ hd => hd) hr
    obtain ⟨instant,rfl,rfl⟩ | ⟨i,o,m,rfl,hm,rfl⟩ := step_cases hstep
    · exact hs
    · generalize hp : (s.attempt i).phase=p at hm
      cases hm with
      | removed inside _ _ =>
        intro d hd
        obtain hd | hd := List.mem_append.mp hd
        · exact hs d hd
        · exact removals_of_holds (hown i (by rwa [hp])) _ hd
      | _ => exact hs

/-- The pre-flight audit fails and the request takes its own marker back. -/
def releasedRun : List (Event 2) :=
  [.act 0 .ok,.act 0 .ok,.act 0 .fails,.act 0 .ok,.act 1 .ok,.act 0 .ok]

/-- The deletion of the disciplined run is logged and is of its own marker. -/
theorem disciplined_release_removes_own_marker :
    ∃ s,play (step (repeatedOrder 2 .redis)) (Disciplined (repeatedOrder 2 .redis)) (initial 2)
        releasedRun=some s ∧ s.removed=[⟨0,.claimMarker,some 0⟩] ∧ RemovesOwnMarkers s := by
  obtain ⟨s,hp,hq,hr⟩ := play_ends (step (repeatedOrder 2 .redis))
    (Disciplined (repeatedOrder 2 .redis)) (initial 2)
    (fun s => s.removed=[⟨0,.claimMarker,some 0⟩]) releasedRun (by decide +kernel)
  exact ⟨s,hp,hq,disciplined_release_removes_own _ hr⟩

/-- A result of the executor for the repeated order. -/
def filledResult : OrderResult where
  orderId := "0000117057"
  ticker := "005930"
  market := .krx
  side := .buy
  quantity := 10
  filledQuantity := 10
  avgPrice := 71000
  status := .filled
  executedAt := 0
  orderType := .twap

/-- Without the discipline a late DELETE removes the result of another
request: the GET saw a marker that has lapsed since. -/
theorem release_removes_stored_result :
    ¬∀ s,Reaches (step (repeatedOrder 2 .redis)) (fun _ _ => True) (initial 2) s→
      RemovesOwnMarkers s :=
  not_forall_reaches
    [.act 0 .ok,.act 0 .ok,.act 0 .fails,.act 0 .ok,.tick 31,.act 1 .ok,.act 1 .ok,.act 1 .ok,
      .act 1 .ok,.act 1 (.returns filledResult),.act 1 .ok,.act 1 .ok,.act 1 .ok,.act 0 .ok]
    (by decide +kernel)

end Aqts.CreateOrder
