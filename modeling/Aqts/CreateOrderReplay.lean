import Aqts.CreateOrderClaims

/-!
# One execution per key in undisturbed runs of create_order

Requests with one body share a Redis key while Redis answers, nothing expires
and every execution returns. The key then goes through three stages: free,
held by one request, done with its response. Every undisturbed step either
keeps the stage or moves it forward, unless a `try_claim` returns on the
stored result. The stage fixes the calls of `execute_order` and every reply.
-/

namespace Aqts.CreateOrder

open ExpiringSlot IdempotencyStore OrderTypes GuardedRuns

variable {n : ℕ}

/-- Outcomes without a Redis error and with every execution returning. The
audit writes and the building of the response are left open. -/
def redisAnswers : Phase→Outcome→Bool
  | .claimed,_ => true
  | .executed _,_ => true
  | .recorded _,_ => true
  | .executing,.raises _ => false
  | .executing,_ => true
  | _,outcome => outcome=.ok

/-- Outcomes where the audit is written and the response is built. -/
def auditAnswers : Phase→Outcome→Bool
  | .claimed,outcome => outcome=.ok
  | .executed _,outcome => outcome=.ok
  | .recorded _,outcome => outcome=.ok
  | _,_ => true

/-- Redis answers every command, no entry expires and every call of
`execute_order` returns a result. -/
def Undisturbed (s : System n) : Event n→Prop
  | .tick instant => ∀ entry∈s.slot,instant≤entry.expiresAt
  | .act i outcome => redisAnswers (s.attempt i).phase outcome=true

/-- The audit writes succeed and the response can be built. -/
def AuditsSucceed (s : System n) : Event n→Prop
  | .tick _ => True
  | .act i outcome => auditAnswers (s.attempt i).phase outcome=true

instance (s : System n) : (e : Event n)→Decidable (Undisturbed s e)
  | .tick instant => inferInstanceAs (Decidable (∀ entry∈s.slot,instant≤entry.expiresAt))
  | .act i outcome => inferInstanceAs (Decidable (redisAnswers (s.attempt i).phase outcome=true))

instance (s : System n) : (e : Event n)→Decidable (AuditsSucceed s e)
  | .tick _ => inferInstanceAs (Decidable True)
  | .act i outcome => inferInstanceAs (Decidable (auditAnswers (s.attempt i).phase outcome=true))

/-- The owner of the key is on its way to its response, before (`false`) or
after (`true`) its call of `execute_order`. -/
def Phase.working : Bool→Phase→Bool
  | false,.claimed => true
  | false,.requested => true
  | true,.executing => true
  | true,.executed _ => true
  | true,.recorded _ => true
  | true,.responding _ => true
  | _,_ => false

/-- Stages of a key in an undisturbed run. -/
inductive Stage (n : ℕ)
  /-- Nobody has claimed the key. -/
  | free
  /-- One request owns the key; the flag says whether it has called the
  executor. -/
  | held (owner : Fin n) (begun : Bool)
  /-- The response of the owner is stored. -/
  | done (owner : Fin n) (body : Body)

/-- The reply with status 409. -/
def inProgressReply (env : Setting n) : Reply := .refused (raiseIdempotencyHttp (.inProgress env.key))

/-- A request that does not own the key, given the stored response. -/
def Bystander (env : Setting n) (stored : Option Body) (p : Phase) : Prop :=
  p.waiting=true ∨ p=.finished (inProgressReply env) ∨
    ∃ body,stored=some body ∧ p=.finished (.replayed body)

/-- The state of the run is at a stage. -/
def AtStage (env : Setting n) (s : System n) : Stage n→Prop
  | .free => s.slot=none ∧ s.started=[] ∧ ∀ i,(s.attempt i).phase.waiting=true
  | .held owner begun =>
    (∃ entry,s.slot=some entry ∧ entry.value=.claimMarker ∧ s.now≤entry.expiresAt) ∧
      s.started=(if begun=true then [owner] else []) ∧
      (s.attempt owner).phase.working begun=true ∧
      ∀ i≠owner,Bystander env none (s.attempt i).phase
  | .done owner body =>
    (∃ entry record,s.slot=some entry ∧ entry.value=.result record ∧ s.now≤entry.expiresAt ∧
        record.fingerprint=env.fp owner ∧ record.body=body) ∧
      s.started=[owner] ∧ (s.attempt owner).phase=.finished (.executed body) ∧
      ∀ i≠owner,Bystander env (some body) (s.attempt i).phase

variable {env : Setting n}

/-- A move that calls no executor keeps the log of calls. -/
theorem apply_started (s : System n) (i : Fin n) {m : Move} (h : m.effect≠.began) :
    (s.apply i m).started=s.started := if_neg h

/-- On a free key a waiting request goes on waiting or installs its marker. -/
theorem waiting_move_free {i : Fin n} {now : ℚ} {p : Phase} {m : Move}
    (hb : env.backend=.redis) (hp : p.waiting=true) (h : move env i now none p .ok=some m) :
    (m.slot=none ∧ m.phase.waiting=true ∧ m.effect≠.began) ∨
      m=⟨.claimed,setEx now env.config.claimTtl .claimMarker,.installed⟩ := by
  cases p with
  | arrived =>
    cases h
    exact .inl ⟨rfl,rfl,by simp [lookupMove,lookupRecord,ExpiringSlot.read,sweep]⟩
  | claiming command =>
    simp only [move,hb,Option.some.injEq] at h
    subst h
    cases command with
    | setNx => exact .inr rfl
    | get => exact .inl ⟨rfl,rfl,by simp [claimCommand,claimMove,ExpiringSlot.read,sweep]⟩
    | retrySetNx => exact .inr rfl
  | _ => cases hp

/-- The record that a live entry makes `lookup` return. -/
theorem lookupRecord_live {now : ℚ} {entry : Entry (Raw Body) ℚ} (h : now≤entry.expiresAt) :
    lookupRecord now (some entry)=match entry.value with
      | .claimMarker => none
      | .result record => some record := by
  unfold lookupRecord
  rw [read_live h]
  cases entry.value <;> rfl

/-- On a live entry of its own body a waiting request leaves the key alone. It
goes on waiting, is refused with 409 or replays the stored response, unless
its `try_claim` inspects a result. -/
theorem waiting_move_live {i : Fin n} {now : ℚ} {p : Phase} {m : Move}
    {entry : Entry (Raw Body) ℚ} (hb : env.backend=.redis) (hp : p.waiting=true)
    (hl : now≤entry.expiresAt)
    (hfp : ∀ record,entry.value=.result record→ record.fingerprint=env.fp i)
    (hno : ∀ record,entry.value=.result record→p≠.claiming .get)
    (h : move env i now (some entry) p .ok=some m) :
    m.slot=some entry ∧ m.effect≠.began ∧
      Bystander env (match entry.value with
        | .claimMarker => none
        | .result record => some record.body) m.phase := by
  cases p with
  | arrived =>
    simp only [move,Option.some.injEq] at h
    subst h
    unfold lookupMove
    rw [lookupRecord_live hl]
    cases hv : entry.value with
    | claimMarker => exact ⟨sweep_live hl,by simp,.inl rfl⟩
    | result record =>
      dsimp only
      rw [if_neg (not_not.mpr (hfp record hv))]
      exact ⟨sweep_live hl,by simp,.inr (.inr ⟨_,rfl,rfl⟩)⟩
  | claiming command =>
    simp only [move,hb,Option.some.injEq] at h
    subst h
    cases command with
    | setNx =>
      simp only [claimCommand,sweep_live hl,claimMove]
      exact ⟨trivial,by simp,.inl rfl⟩
    | get =>
      cases hv : entry.value with
      | claimMarker =>
        simp only [claimCommand,read_live hl,hv,sweep_live hl,claimMove]
        exact ⟨trivial,by simp,.inr (.inl rfl)⟩
      | result record => exact absurd rfl (hno record hv)
    | retrySetNx =>
      simp only [claimCommand,sweep_live hl,claimMove]
      exact ⟨trivial,by simp,.inr (.inl rfl)⟩
  | _ => cases hp

/-- A waiting request of an undisturbed run gets an answer from Redis. -/
theorem Undisturbed.ok_of_waiting {s : System n} {i : Fin n} {o : Outcome}
    (h : Undisturbed s (.act i o)) (hp : (s.attempt i).phase.waiting=true) : o=.ok := by
  dsimp only [Undisturbed] at h
  generalize (s.attempt i).phase=p at h hp
  cases p with
  | arrived => exact of_decide_eq_true h
  | claiming command => exact of_decide_eq_true h
  | _ => cases hp

/-- The owner of the key goes on, calls the executor or stores its response. -/
theorem owner_move {s : System n} {i : Fin n} {o : Outcome} {m : Move} {begun : Bool}
    (hu : Undisturbed s (.act i o)) (ha : AuditsSucceed s (.act i o))
    (hp : (s.attempt i).phase.working begun=true)
    (h : move env i s.now s.slot (s.attempt i).phase o=some m) :
    (m.slot=s.slot ∧ m.effect≠.began ∧ m.phase.working begun=true) ∨
      (begun=false ∧ m=⟨.executing,s.slot,.began⟩) ∨
      (begun=true ∧ ∃ body,
        m=⟨.finished (.executed body),storedSlot env i s.now body,.stored⟩) := by
  dsimp only [Undisturbed] at hu
  dsimp only [AuditsSucceed] at ha
  generalize (s.attempt i).phase=p at hu ha hp h
  cases p with
  | claimed =>
    obtain rfl : o=.ok := of_decide_eq_true ha
    cases h
    exact .inl ⟨rfl,by simp,by cases begun <;> first | rfl | cases hp⟩
  | requested =>
    obtain rfl : o=.ok := of_decide_eq_true hu
    cases h
    cases begun with
    | false => exact .inr (.inl ⟨rfl,rfl⟩)
    | true => cases hp
  | executing =>
    cases o with
    | returns result =>
      cases h
      exact .inl ⟨rfl,by simp,by cases begun <;> first | rfl | cases hp⟩
    | raises text => cases hu
    | _ => cases h
  | executed result =>
    obtain rfl : o=.ok := of_decide_eq_true ha
    cases h
    exact .inl ⟨rfl,by simp,by cases begun <;> first | rfl | cases hp⟩
  | recorded result =>
    obtain rfl : o=.ok := of_decide_eq_true ha
    cases h
    exact .inl ⟨rfl,by simp,by cases begun <;> first | rfl | cases hp⟩
  | responding body =>
    obtain rfl : o=.ok := of_decide_eq_true hu
    cases h
    cases begun with
    | false => cases hp
    | true => exact .inr (.inr ⟨rfl,body,rfl⟩)
  | _ => cases begun <;> cases hp

/-- A bystander that can still move is waiting. -/
theorem Bystander.waiting_of_move {stored : Option Body} {i : Fin n} {now : ℚ}
    {slot : Slot (Raw Body) ℚ} {p : Phase} {o : Outcome} {m : Move}
    (h : Bystander env stored p) (hm : move env i now slot p o=some m) : p.waiting=true := by
  obtain hw | rfl | ⟨body,_,rfl⟩ := h
  · exact hw
  · cases hm
  · cases hm

/-- Storing a response does not change what a bystander has done so far. -/
theorem Bystander.store {p : Phase} (h : Bystander env none p) (body : Body) :
    Bystander env (some body) p := by
  obtain hw | hr | ⟨_,hs,_⟩ := h
  · exact .inl hw
  · exact .inr (.inl hr)
  · cases hs

/-- The bystanders stay bystanders when the moving request is one of them or
is the owner. -/
theorem bystanders_apply {s : System n} {i owner : Fin n} {m : Move} {stored : Option Body}
    (h : ∀ j≠owner,Bystander env stored (s.attempt j).phase)
    (hm : i≠owner→Bystander env stored m.phase) :
    ∀ j≠owner,Bystander env stored ((s.apply i m).attempt j).phase := by
  intro j hj
  by_cases hji : j=i
  · subst hji
    rw [apply_phase_self]
    exact hm hj
  · rw [apply_attempt_other s m hji]
    exact h j hj

/-- A step from a free key keeps it free or gives it an owner. -/
theorem free_step {s : System n} {i : Fin n} {o : Outcome} {m : Move}
    (hb : env.backend=.redis) (h : AtStage env s .free) (hu : Undisturbed s (.act i o))
    (hm : move env i s.now s.slot (s.attempt i).phase o=some m) :
    ∃ stage,AtStage env (s.apply i m) stage := by
  obtain ⟨hslot,hstarted,hwait⟩ := h
  have ho := hu.ok_of_waiting (hwait i)
  subst ho
  rw [hslot] at hm
  obtain ⟨hs,hp,he⟩ | rfl := waiting_move_free hb (hwait i) hm
  · refine ⟨.free,hs,?_,?_⟩
    · rw [apply_started s i he]
      exact hstarted
    · intro j
      by_cases hji : j=i
      · subst hji
        rw [apply_phase_self]
        exact hp
      · rw [apply_attempt_other s m hji]
        exact hwait j
  · refine ⟨.held i false,⟨_,rfl,rfl,?_⟩,?_,?_,?_⟩
    · exact le_add_of_nonneg_right env.config.claimTtl_pos.le
    · rw [apply_started s i (by simp)]
      exact hstarted
    · rw [apply_phase_self]
      rfl
    · exact bystanders_apply (fun j _ => .inl (hwait j)) (fun hne => absurd rfl hne)

/-- A move of a request that does not own the held key keeps the stage. -/
theorem held_step_other {s : System n} {i owner : Fin n} {o : Outcome} {m : Move} {begun : Bool}
    (hb : env.backend=.redis) (h : AtStage env s (.held owner begun))
    (hu : Undisturbed s (.act i o)) (hi : i≠owner)
    (hm : move env i s.now s.slot (s.attempt i).phase o=some m) :
    AtStage env (s.apply i m) (.held owner begun) := by
  obtain ⟨⟨entry,hslot,hv,hl⟩,hstarted,howner,hby⟩ := h
  have hw := (hby i hi).waiting_of_move hm
  have ho := hu.ok_of_waiting hw
  subst ho
  rw [hslot] at hm
  have hnot : ∀ record,entry.value≠.result record := by
    intro record hr
    rw [hv] at hr
    cases hr
  obtain ⟨hs,he,hp⟩ := waiting_move_live hb hw hl (fun record hr => absurd hr (hnot record))
    (fun record hr => absurd hr (hnot record)) hm
  rw [hv] at hp
  refine ⟨⟨entry,hs,hv,hl⟩,?_,?_,?_⟩
  · rw [apply_started s i he]
    exact hstarted
  · rw [apply_attempt_other s m hi.symm]
    exact howner
  · exact bystanders_apply hby (fun _ => hp)

/-- A move of the owner of the held key keeps it held or completes it. -/
theorem held_step_owner {s : System n} {owner : Fin n} {o : Outcome} {m : Move} {begun : Bool}
    (h : AtStage env s (.held owner begun))
    (hu : Undisturbed s (.act owner o)) (ha : AuditsSucceed s (.act owner o))
    (hm : move env owner s.now s.slot (s.attempt owner).phase o=some m) :
    ∃ stage,AtStage env (s.apply owner m) stage := by
  obtain ⟨hentry,hstarted,howner,hby⟩ := h
  obtain ⟨hs,he,hp⟩ | ⟨rfl,rfl⟩ | ⟨rfl,body,rfl⟩ := owner_move hu ha howner hm
  · refine ⟨.held owner begun,?_,?_,?_,?_⟩
    · change ∃ entry,m.slot=some entry ∧ _
      rw [hs]
      exact hentry
    · rw [apply_started s owner he]
      exact hstarted
    · rw [apply_phase_self]
      exact hp
    · exact bystanders_apply hby (fun hne => absurd rfl hne)
  · refine ⟨.held owner true,hentry,?_,?_,?_⟩
    · change s.started++[owner]=[owner]
      rw [hstarted]
      rfl
    · rw [apply_phase_self]
      rfl
    · exact bystanders_apply hby (fun hne => absurd rfl hne)
  · refine ⟨.done owner body,⟨_,_,rfl,rfl,?_,rfl,rfl⟩,?_,?_,?_⟩
    · exact le_add_of_nonneg_right env.config.resultTtl_pos.le
    · rw [apply_started s owner (by simp)]
      exact hstarted
    · rw [apply_phase_self]
    · exact bystanders_apply (fun j hj => (hby j hj).store body) (fun hne => absurd rfl hne)

/-- After the response is stored, every move keeps the stage unless a
`try_claim` returns on the result. -/
theorem done_step {s : System n} {i owner : Fin n} {o : Outcome} {m : Move} {body : Body}
    (hb : env.backend=.redis) (hfp : ∀ j k,env.fp j=env.fp k)
    (h : AtStage env s (.done owner body)) (hu : Undisturbed s (.act i o))
    (hno : NoOwnResult env s (.act i o))
    (hm : move env i s.now s.slot (s.attempt i).phase o=some m) :
    AtStage env (s.apply i m) (.done owner body) := by
  obtain ⟨⟨entry,record,hslot,hv,hl,hf,hbody⟩,hstarted,howner,hby⟩ := h
  have hi : i≠owner := by
    rintro rfl
    rw [howner] at hm
    cases hm
  have hw := (hby i hi).waiting_of_move hm
  have ho := hu.ok_of_waiting hw
  subst ho
  have hget : (s.attempt i).phase≠.claiming .get := by
    intro hp
    have hread : ExpiringSlot.read s.now s.slot=some (.result record) := by
      rw [hslot,read_live hl,hv]
    have hin : inspects env.backend .get=true := by
      rw [hb]
      rfl
    exact not_entered hno hp hin hread (hf.trans (hfp owner i))
  have hfpi : ∀ r,entry.value=.result r→ r.fingerprint=env.fp i := by
    intro r hr
    rw [hv] at hr
    cases hr
    rw [hf]
    exact hfp owner i
  rw [hslot] at hm
  obtain ⟨hs,he,hp⟩ := waiting_move_live hb hw hl hfpi (fun _ _ => hget) hm
  rw [hv] at hp
  dsimp only at hp
  rw [hbody] at hp
  refine ⟨⟨entry,record,hs,hv,hl,hf,hbody⟩,?_,?_,?_⟩
  · rw [apply_started s i he]
    exact hstarted
  · rw [apply_attempt_other s m hi.symm]
    exact howner
  · exact bystanders_apply hby (fun _ => hp)

/-- The clock moves without touching the stage while nothing expires. -/
theorem AtStage.tick {s : System n} {stage : Stage n} {instant : ℚ} (h : AtStage env s stage)
    (hu : Undisturbed s (.tick instant)) : AtStage env {s with now := instant} stage := by
  cases stage with
  | free => exact h
  | held owner begun =>
    obtain ⟨⟨entry,hslot,hv,_⟩,hrest⟩ := h
    exact ⟨⟨entry,hslot,hv,hu entry hslot⟩,hrest⟩
  | done owner body =>
    obtain ⟨⟨entry,record,hslot,hv,_,hr⟩,hrest⟩ := h
    exact ⟨⟨entry,record,hslot,hv,hu entry hslot,hr⟩,hrest⟩

/-- Every step of an undisturbed run leads from a stage to a stage. -/
theorem AtStage.step {s s' : System n} {e : Event n} {stage : Stage n}
    (hb : env.backend=.redis) (hfp : ∀ j k,env.fp j=env.fp k) (h : AtStage env s stage)
    (hu : Undisturbed s e) (ha : AuditsSucceed s e) (hno : NoOwnResult env s e)
    (hs : CreateOrder.step env s e=some s') : ∃ stage',AtStage env s' stage' := by
  cases e with
  | tick instant =>
    cases hs
    exact ⟨stage,h.tick hu⟩
  | act i o =>
    obtain ⟨m,hm,rfl⟩ := Option.map_eq_some_iff.mp hs
    cases stage with
    | free => exact free_step hb h hu hm
    | held owner begun =>
      by_cases hi : i=owner
      · subst hi
        exact held_step_owner h hu ha hm
      · exact ⟨_,held_step_other hb h hu hi hm⟩
    | done owner body => exact ⟨_,done_step hb hfp h hu hno hm⟩

/-- `execute_order` was called at most once, and every request that answered
without calling it replayed the response of the one that did, or was refused
with 409. -/
def AnsweredOnce (env : Setting n) (s : System n) : Prop :=
  s.started.length≤1 ∧
    ∀ i reply,(s.attempt i).phase=.finished reply→i∉s.started→
      reply=inProgressReply env ∨
        ∃ j body,j∈s.started ∧ (s.attempt j).phase=.finished (.executed body) ∧
          reply=.replayed body

/-- The answer of a bystander. -/
theorem Bystander.reply {stored : Option Body} {reply : Reply}
    (h : Bystander env stored (.finished reply)) :
    reply=inProgressReply env ∨ ∃ body,stored=some body ∧ reply=.replayed body := by
  obtain hw | hr | ⟨body,hs,hr⟩ := h
  · cases hw
  · cases hr
    exact .inl rfl
  · cases hr
    exact .inr ⟨body,hs,rfl⟩

/-- Each stage fixes the calls and the replies. -/
theorem AtStage.answeredOnce {s : System n} {stage : Stage n} (h : AtStage env s stage) :
    AnsweredOnce env s := by
  cases stage with
  | free =>
    obtain ⟨_,hstarted,hwait⟩ := h
    refine ⟨by simp [hstarted],?_⟩
    intro i reply hr _
    have hw := hwait i
    rw [hr] at hw
    cases hw
  | held owner begun =>
    obtain ⟨_,hstarted,howner,hby⟩ := h
    refine ⟨by cases begun <;> simp [hstarted],?_⟩
    intro i reply hr _
    have hi : i≠owner := by
      rintro rfl
      rw [hr] at howner
      cases begun <;> cases howner
    have hbi := hby i hi
    rw [hr] at hbi
    obtain hp | ⟨_,hs,_⟩ := hbi.reply
    · exact .inl hp
    · cases hs
  | done owner body =>
    obtain ⟨_,hstarted,howner,hby⟩ := h
    refine ⟨by simp [hstarted],?_⟩
    intro i reply hr hin
    have hi : i≠owner := by
      rintro rfl
      exact hin (by simp [hstarted])
    have hbi := hby i hi
    rw [hr] at hbi
    obtain hp | ⟨_,hs,rfl⟩ := hbi.reply
    · exact .inl hp
    · cases hs
      exact .inr ⟨owner,body,by simp [hstarted],howner,rfl⟩

/-- Any number of requests with one body on one Redis key: while the run is
undisturbed, the audits succeed and no `try_claim` inspects a stored result,
the order is executed once and the others replay it or get 409. -/
theorem undisturbed_answered_once (env : Setting n) (hb : env.backend=.redis)
    (hbody : ∀ i j,env.body i=env.body j) {s : System n}
    (h : Reaches (step env)
      (fun s e => Undisturbed s e ∧ AuditsSucceed s e ∧ NoOwnResult env s e) (initial n) s) :
    AnsweredOnce env s := by
  have hfp : ∀ j k,env.fp j=env.fp k := by
    intro j k
    unfold Setting.fp
    rw [hbody j k]
  have hstage : ∃ stage,AtStage env s stage := by
    refine h.invariant (P := fun s => ∃ stage,AtStage env s stage) ⟨.free,rfl,rfl,fun _ => rfl⟩ ?_
    rintro s e s' _ ⟨stage,hs⟩ ⟨hu,ha,hno⟩ hstep
    exact hs.step hb hfp hu ha hno hstep
  obtain ⟨stage,hs⟩ := hstage
  exact hs.answeredOnce

/-- Two requests of which the first executes and the second is refused, and
a third that replays the stored response. -/
def replayedRun : List (Event 3) :=
  [.act 0 .ok,.act 1 .ok,.act 0 .ok,.act 1 .ok,.act 1 .ok,.act 0 .ok,.act 0 .ok,.tick 5,
    .act 0 (.returns filledResult),.act 0 .ok,.act 0 .ok,.act 0 .ok,.act 2 .ok]

/-- The conclusion on a run where one request executes, one is refused and one
replays. -/
theorem undisturbed_answered_once_replayed :
    ∃ s,play (step (repeatedOrder 3 .redis))
        (fun s e => Undisturbed s e ∧ AuditsSucceed s e ∧ NoOwnResult (repeatedOrder 3 .redis) s e)
        (initial 3) replayedRun=some s ∧ s.started=[0] ∧
      AnsweredOnce (repeatedOrder 3 .redis) s := by
  obtain ⟨s,hp,hq,hr⟩ := play_ends (step (repeatedOrder 3 .redis))
    (fun s e => Undisturbed s e ∧ AuditsSucceed s e ∧ NoOwnResult (repeatedOrder 3 .redis) s e)
    (initial 3) (fun s => s.started=[0]) replayedRun (by decide +kernel)
  exact ⟨s,hp,hq,undisturbed_answered_once _ rfl (fun _ _ => rfl) hr⟩

/-- An undisturbed run with two executions: the second request looks before
the first has stored, and its `try_claim` runs afterwards and returns on the
stored result. -/
theorem undisturbed_executes_twice :
    ¬∀ s,Reaches (step (repeatedOrder 2 .redis)) (fun s e => Undisturbed s e ∧ AuditsSucceed s e)
        (initial 2) s→AnsweredOnce (repeatedOrder 2 .redis) s := by
  have hlong : ¬∀ s,Reaches (step (repeatedOrder 2 .redis))
      (fun s e => Undisturbed s e ∧ AuditsSucceed s e) (initial 2) s→s.started.length≤1 :=
    not_forall_reaches
      [.act 1 .ok,.act 0 .ok,.act 0 .ok,.act 0 .ok,.act 0 .ok,.act 0 (.returns filledResult),
        .act 0 .ok,.act 0 .ok,.act 0 .ok,.act 1 .ok,.act 1 .ok,.act 1 .ok,.act 1 .ok]
      (by decide +kernel)
  exact fun h => hlong (fun s hs => (h s hs).1)

end Aqts.CreateOrder
