import Aqts.AlertManager
import Aqts.GuardedRuns
import Mathlib.Logic.Function.Basic

/-!
# Delivery attempts of an alert

One stored alert under any number of calls of its entry points: the immediate
dispatch of `create_and_persist_alert`, the retry of `dispatch_retriable_alerts`,
`TelegramNotifier.dispatch_alert` and `dispatch_pending_alerts`. A call is cut at
its awaits, so that every command of the store, and the start and the end of an
attempt, is one step. An attempt is one dispatch to the router or one message of
the notifier.
-/

namespace Aqts.AlertDeliveries

open GuardedRuns DocumentStore IsoTimestamps AlertManager

/-- The code that claims the alert. -/
inductive Entry
  /-- `_dispatch_via_router`. -/
  | router
  /-- `dispatch_pending_alerts`. -/
  | batch
  /-- `dispatch_alert`, with whether the alert passes the level filter. -/
  | notifier (passes : Bool)
  deriving DecidableEq

/-- The error that the call records after a failed attempt, unless it raises. -/
def Entry.error : Entry→Delivery→Option String
  | _,.success => none
  | .router,.failure channelsTried => some (allChannelsFailed channelsTried)
  | .router,.raised error => some error
  | .batch,.failure _ => some "Telegram batch send_message failed"
  | .notifier _,.failure _ => some "Telegram send_message failed"
  | _,.raised _ => none

/-- Where a call waits. -/
inductive Phase
  /-- Not called. -/
  | idle
  /-- Before the requeue of the retry, whose document gives an alert or not. -/
  | requeueing (known : Bool)
  /-- Before the claim. -/
  | claiming (entry : Entry)
  /-- Before the attempt, with the result of the claim. -/
  | ready (entry : Entry) (claimed : Bool)
  /-- In the attempt. -/
  | attempting (entry : Entry) (claimed : Bool)
  /-- Before the mark of the delivery. -/
  | delivered (claimed : Bool)
  /-- Before the read of the failure. -/
  | failing (claimed : Bool) (error : String)
  /-- Before its update. -/
  | writing (claimed : Bool) (error : String) (attempts : ℤ)
  /-- Ended. -/
  | finished
  deriving DecidableEq

/-- The call has won a claim and has not ended. -/
def Phase.holds : Phase→Bool
  | .ready _ claimed => claimed
  | .attempting _ claimed => claimed
  | .delivered claimed => claimed
  | .failing claimed _ => claimed
  | .writing claimed _ _ => claimed
  | _ => false

/-- The call attempts a delivery, or is about to, or records its failure. -/
def Phase.acts : Phase→Bool
  | .ready _ _ => true
  | .attempting _ _ => true
  | .failing _ _ => true
  | .writing _ _ _ => true
  | _ => false

/-- The call is about to attempt a delivery. -/
def Phase.isReady : Phase→Bool
  | .ready _ _ => true
  | _ => false

/-- The call attempts a delivery. -/
def Phase.isAttempting : Phase→Bool
  | .attempting _ _ => true
  | _ => false

/-- The stored alert with the calls. -/
structure State (W : Type*) where
  /-- The document. -/
  stored : Option AlertDoc
  /-- The calls. -/
  task : W→Phase
  /-- The attempts so far, each with whether its call held a claim. -/
  attempts : List (W×Bool)

/-- Nothing is stored and nothing was called. -/
def State.start (W : Type*) : State W := ⟨none,fun _ => .idle,[]⟩

/-- Steps of the calls. -/
inductive Event (W : Type*)
  /-- `create_and_persist_alert` saves a new alert, with or without a router. -/
  | create (w : W) (alert : Alert) (routed : Bool)
  /-- `dispatch_retriable_alerts` finds the alert. -/
  | pickUp (w : W) (maxAttempts : ℤ) (current : Datetime)
  /-- `dispatch_pending_alerts` finds the alert, which passes the level filter. -/
  | batch (w : W)
  /-- `dispatch_alert` is called. -/
  | notify (w : W) (passes : Bool)
  /-- `requeue_failed_to_pending`. -/
  | requeue (w : W)
  /-- `claim_for_sending`. -/
  | claim (w : W) (now : Datetime)
  /-- An attempt starts. -/
  | attempt (w : W)
  /-- It ends. -/
  | finish (w : W) (delivery : Delivery)
  /-- `mark_sent_by_id`. -/
  | markSent (w : W) (now : Datetime)
  /-- The read of `mark_failed_with_retry`. -/
  | failedFind (w : W)
  /-- Its update. -/
  | failedUpdate (w : W) (now : Datetime)

variable {W : Type*} [DecidableEq W]

/-- A call moves to a phase. -/
def State.move (s : State W) (w : W) (phase : Phase) : State W :=
  {s with task := Function.update s.task w phase}

/-- A call moves after a command of the store. -/
def State.command (s : State W) (c : Update AlertDoc) (w : W) (phase : Phase) : State W where
  stored := s.stored.map c.onDoc
  task := Function.update s.task w phase
  attempts := s.attempts

/-- What follows the claim of a call. -/
def Entry.next (entry : Entry) (claimed : Bool) : Phase :=
  match entry with
  | .notifier passes => if passes=true then .ready entry claimed else .delivered claimed
  | _ => if claimed=true then .ready entry true else .finished

/-- What follows the end of an attempt. -/
def Entry.after (entry : Entry) (claimed : Bool) (delivery : Delivery) : Phase :=
  match delivery,entry.error delivery with
  | .success,_ => .delivered claimed
  | _,some error => .failing claimed error
  | _,none => .finished

section Steps

variable (fromisoformat : String→Parsed) (alertId : String) (s : State W)

/-- The claim at this moment succeeds. -/
def claims (now : Datetime) : Bool := (claimCommand alertId now).modifiedOne s.stored.toList=1

/-- One step, if it is enabled. -/
def step : Event W→Option (State W)
  | .create w alert routed =>
    if s.task w=.idle ∧ s.stored=none ∧ alert.id=alertId ∧ alert.status=.pending ∧
        alert.sendAttempts=0 then
      some {s with
        stored := some alert.toDict
        task := Function.update s.task w (if routed=true then .claiming .router else .finished)}
    else none
  | .pickUp w maxAttempts current =>
    match s.stored with
    | none => none
    | some d =>
      if s.task w=.idle ∧ isRetriable maxAttempts d=true ∧
          AlertManager.isReady fromisoformat current maxAttempts d=.ok true then
        some (s.move w (.requeueing (alertFromDoc d).isSome))
      else none
  | .batch w =>
    if s.task w=.idle ∧ ∃ d∈s.stored,d.status=some .pending then some (s.move w (.claiming .batch))
    else none
  | .notify w passes =>
    if s.task w=.idle then some (s.move w (.claiming (.notifier passes))) else none
  | .requeue w =>
    match s.task w with
    | .requeueing known =>
      let c := requeueCommand alertId
      let requeued : Bool := c.modifiedOne s.stored.toList=1
      some (s.command c w (if requeued=true ∧ known=true then .claiming .router else .finished))
    | _ => none
  | .claim w now =>
    match s.task w with
    | .claiming entry =>
      some (s.command (claimCommand alertId now) w (entry.next (claims alertId s now)))
    | _ => none
  | .attempt w =>
    match s.task w with
    | .ready entry claimed =>
      some {s.move w (.attempting entry claimed) with attempts := (w,claimed)::s.attempts}
    | _ => none
  | .finish w delivery =>
    match s.task w with
    | .attempting entry claimed => some (s.move w (entry.after claimed delivery))
    | _ => none
  | .markSent w now =>
    match s.task w with
    | .delivered _ => some (s.command (sentCommand alertId now) w .finished)
    | _ => none
  | .failedFind w =>
    match s.task w with
    | .failing claimed error =>
      match s.stored with
      | none => some (s.move w .finished)
      | some d => some (s.move w (.writing claimed error (d.sendAttempts.getD 0)))
    | _ => none
  | .failedUpdate w now =>
    match s.task w with
    | .writing _ error attempts =>
      some (s.command (failedCommand alertId (retryStatus attempts 3) error none now) w .finished)
    | _ => none

/-- A claim of `dispatch_alert` succeeds exactly when the alert passes its level
filter. -/
def NotifierClaims : Event W→Prop
  | .claim w now =>
    match s.task w with
    | .claiming (.notifier passes) => claims alertId s now=passes
    | _ => True
  | _ => True

instance (e : Event W) : Decidable (NotifierClaims alertId s e) := by
  cases e
  case claim w now =>
    unfold NotifierClaims
    dsimp only
    split <;> infer_instance
  all_goals exact .isTrue trivial

end Steps

/-- Every attempt is made under a claim; no two attempts are in progress; and the
attempts are those that the document counts, at most three, where a claim counts
before its attempt starts. -/
structure Delivers (s : State W) : Prop where
  /-- Attempts are made under a claim. -/
  claimed : ∀ attempt∈s.attempts,attempt.2=true
  /-- One at a time. -/
  alone : ∀ w w',(s.task w).isAttempting=true→(s.task w').isAttempting=true→w=w'
  /-- The document counts them. -/
  counted : (∀ w,(s.task w).isReady=false)→
    (s.attempts.length : ℤ)=(s.stored.bind AlertDoc.sendAttempts).getD 0
  /-- It may count the next one before it starts. -/
  started : (s.attempts.length : ℤ)≤(s.stored.bind AlertDoc.sendAttempts).getD 0
  /-- There are at most three. -/
  bounded : s.attempts.length≤3

/-- A document of the alert with its counter and status. -/
structure Tracked (alertId : String) (d : AlertDoc) (n : ℤ) (status : AlertStatus) : Prop where
  /-- `id`. -/
  id : d.id=some alertId
  /-- `send_attempts`. -/
  attempts : d.sendAttempts=some n
  /-- `status`. -/
  status : d.status=some status

/-- A call that holds no claim and attempts nothing. -/
def Phase.Quiet (p : Phase) : Prop := p.holds=false ∧ p.acts=false

/-- The phases of a call that holds its claim, with the counter of the document
and the number of attempts. -/
inductive Held (n : ℤ) (attempts : ℕ) : Phase→Prop
  /-- The next attempt is counted. -/
  | ready (entry : Entry) (h : n=attempts+1) : Held n attempts (.ready entry true)
  /-- In the attempt. -/
  | attempting (entry : Entry) (h : n=attempts) : Held n attempts (.attempting entry true)
  /-- After its success. -/
  | delivered (h : n=attempts) : Held n attempts (.delivered true)
  /-- After its failure. -/
  | failing (error : String) (h : n=attempts) : Held n attempts (.failing true error)
  /-- With the counter read. -/
  | writing (error : String) (h : n=attempts) : Held n attempts (.writing true error n)

/-- One call holds a claim, while the alert is in sending or sent. -/
structure Holding (alertId : String) (s : State W) (w : W) (d : AlertDoc) (n : ℤ)
    (status : AlertStatus) : Prop where
  /-- The alert is stored. -/
  stored : s.stored=some d
  /-- With its counter and status. -/
  doc : Tracked alertId d n status
  /-- Attempts were made under a claim. -/
  honest : ∀ attempt∈s.attempts,attempt.2=true
  /-- At most three are counted. -/
  most : n≤3
  /-- Nobody can claim or requeue the alert. -/
  taken : status=.sending ∨ status=.sent
  /-- The call. -/
  held : Held n s.attempts.length (s.task w)
  /-- The others. -/
  quiet : ∀ w',w'≠w→(s.task w').Quiet

/-- The alert is not stored, or no call holds a claim, or one does. -/
inductive Consistent (alertId : String) (s : State W) : Prop
  /-- Not stored. -/
  | absent (hstored : s.stored=none) (hattempts : s.attempts=[]) (hquiet : ∀ w,(s.task w).Quiet)
  /-- Without a claim. -/
  | free (d : AlertDoc) (n : ℤ) (status : AlertStatus) (hstored : s.stored=some d)
      (hdoc : Tracked alertId d n status) (hhonest : ∀ attempt∈s.attempts,attempt.2=true)
      (hcount : n=s.attempts.length) (hmost : n≤3) (hbelow : status=.pending ∨ status=.failed→n<3)
      (hquiet : ∀ w,(s.task w).Quiet)
  /-- With the claim of one call. -/
  | held (d : AlertDoc) (n : ℤ) (status : AlertStatus) (w : W) (h : Holding alertId s w d n status)

variable {alertId : String} {s : State W} {n : ℤ} {status : AlertStatus} {d : AlertDoc}

/-- A phase that holds a claim is not quiet. -/
theorem Held.holds {attempts : ℕ} {p : Phase} (h : Held n attempts p) : p.holds=true := by
  cases h <;> rfl

/-- The document counts the attempts that were made. -/
theorem Held.count_le {attempts : ℕ} {p : Phase} (h : Held n attempts p) : (attempts : ℤ)≤n := by
  cases h <;> omega

/-- And one more only before it starts. -/
theorem Held.count_eq {attempts : ℕ} {p : Phase} (h : Held n attempts p) (hready : p.isReady=false) :
    (attempts : ℤ)=n := by
  cases h with
  | ready entry hcount => cases hready
  | attempting entry hcount => exact hcount.symm
  | delivered hcount => exact hcount.symm
  | failing error hcount => exact hcount.symm
  | writing error hcount => exact hcount.symm

/-- After a quiet call moves to a quiet phase, all calls that were quiet are. -/
theorem quiet_update {w w' : W} {p : Phase} (hnew : p.Quiet) (h : (s.task w').Quiet) :
    (Function.update s.task w p w').Quiet := by
  by_cases hw : w'=w
  · rw [hw,Function.update_self]
    exact hnew
  · rw [Function.update_of_ne hw]
    exact h

/-- A quiet call may change the status, but not to one that another call could
claim or requeue, and not from one that a claim needs. -/
theorem Consistent.quiet (h : Consistent alertId s) {w : W} {p : Phase} {stored : Option AlertDoc}
    (hbefore : (s.task w).Quiet) (hnew : p.Quiet) (hnone : s.stored=none→stored=none)
    (hsome : ∀ d n status,s.stored=some d→Tracked alertId d n status→
      ∃ d' status',stored=some d' ∧ Tracked alertId d' n status' ∧
        (status'=.pending ∨ status'=.failed→status=.pending ∨ status=.failed) ∧
        (status=.sending ∨ status=.sent→status'=.sending ∨ status'=.sent)) :
    Consistent alertId ⟨stored,Function.update s.task w p,s.attempts⟩ := by
  cases h with
  | absent hstored hattempts hquiet =>
    exact .absent (hnone hstored) hattempts fun w' => quiet_update hnew (hquiet w')
  | free d n status hstored hdoc hhonest hcount hmost hbelow hquiet =>
    obtain ⟨d',status',hstored',hdoc',hkept,_⟩ := hsome d n status hstored hdoc
    exact .free d' n status' hstored' hdoc' hhonest hcount hmost (fun h => hbelow (hkept h))
      fun w' => quiet_update hnew (hquiet w')
  | held d n status holder h =>
    obtain ⟨d',status',hstored',hdoc',_,hkept⟩ := hsome d n status h.stored h.doc
    have hother : holder≠w := by
      rintro rfl
      exact absurd h.held.holds (by rw [hbefore.1]; exact Bool.false_ne_true)
    refine .held d' n status' holder ⟨hstored',hdoc',h.honest,h.most,hkept h.taken,?_,?_⟩
    · dsimp only
      rw [Function.update_of_ne hother]
      exact h.held
    · intro w' hw'
      exact quiet_update hnew (h.quiet w' hw')

/-- A quiet call that moves without a command. -/
theorem Consistent.move (h : Consistent alertId s) {w : W} {p : Phase}
    (hbefore : (s.task w).Quiet) (hnew : p.Quiet) : Consistent alertId (s.move w p) :=
  h.quiet hbefore hnew id fun d _ status hstored hdoc => ⟨d,status,hstored,hdoc,id,id⟩

/-- A command that asks for a status writes another one, or leaves the document. -/
theorem Tracked.guarded (h : Tracked alertId d n status) {c : Update AlertDoc}
    {expected written : AlertStatus}
    (hfilter : ∀ e,c.filter e=true ↔ e.id=some alertId ∧ e.status=some expected)
    (hset : Tracked alertId (c.set d) n written) :
    Tracked alertId (c.onDoc d) n (if status=expected then written else status) := by
  by_cases hexpected : status=expected
  · rw [if_pos hexpected,Update.onDoc_pos ((hfilter d).mpr ⟨h.id,hexpected ▸ h.status⟩)]
    exact hset
  · have hnot : ¬c.filter d=true := by
      intro hmatches
      have hstored := ((hfilter d).mp hmatches).2
      rw [h.status] at hstored
      exact hexpected (Option.some.inj hstored)
    rw [if_neg hexpected,Update.onDoc_neg hnot]
    exact h

/-- A requeue of the document. -/
theorem Tracked.requeue (h : Tracked alertId d n status) :
    Tracked alertId ((requeueCommand alertId).onDoc d) n
      (if status=.failed then .pending else status) :=
  h.guarded (fun _ => decide_eq_true_iff) ⟨h.id,h.attempts,rfl⟩

/-- A mark of the delivery. -/
theorem Tracked.markSent (h : Tracked alertId d n status) (now : Datetime) :
    Tracked alertId ((sentCommand alertId now).onDoc d) n
      (if status=.sending then .sent else status) :=
  h.guarded (fun _ => decide_eq_true_iff) ⟨h.id,h.attempts,rfl⟩

/-- A failure writes its status. -/
theorem Tracked.markFailed (h : Tracked alertId d n status) (newStatus : AlertStatus)
    (error : String) (statusCode : Option ℤ) (now : Datetime) :
    Tracked alertId ((failedCommand alertId newStatus error statusCode now).onDoc d) n newStatus := by
  rw [Update.onDoc_pos (decide_eq_true h.id)]
  exact ⟨h.id,h.attempts,rfl⟩

/-- A claim takes a pending alert and counts it. -/
theorem Tracked.claim (h : Tracked alertId d n .pending) (now : Datetime) :
    Tracked alertId ((claimCommand alertId now).onDoc d) (n+1) .sending := by
  rw [Update.onDoc_pos (decide_eq_true ⟨h.id,h.status⟩)]
  refine ⟨h.id,?_,rfl⟩
  unfold claimCommand
  dsimp only
  rw [h.attempts]
  rfl

omit [DecidableEq W] in
/-- It succeeds exactly on a pending alert. -/
theorem Tracked.claims_iff (h : Tracked alertId d n status) (hstored : s.stored=some d)
    (now : Datetime) : claims alertId s now=true ↔ status=.pending := by
  have hvisible : ∀ d'∈s.stored.toList,(claimCommand alertId now).filter d'=true→
      (claimCommand alertId now).set d'≠d' := by
    intro d' _ hfilter heq
    have hstatus := congrArg AlertDoc.status heq
    rw [(of_decide_eq_true hfilter).2] at hstatus
    cases hstatus
  unfold claims
  rw [decide_eq_true_iff,Update.modifiedOne_eq_one hvisible,hstored]
  unfold Update.matched
  rw [Option.toList_some,List.any_cons,List.any_nil,Bool.or_false]
  constructor
  · intro hfilter
    have hstatus := (of_decide_eq_true hfilter).2
    rw [h.status] at hstatus
    exact Option.some.inj hstatus
  · rintro rfl
    exact decide_eq_true ⟨h.id,h.status⟩

/-- Otherwise it changes nothing. -/
theorem Tracked.claim_other (h : Tracked alertId d n status) (hstatus : status≠.pending)
    (now : Datetime) : (claimCommand alertId now).onDoc d=d := by
  apply Update.onDoc_neg
  intro hfilter
  have hstored := (of_decide_eq_true hfilter).2
  rw [h.status] at hstored
  exact hstatus (Option.some.inj hstored)

/-- A call that is not quiet holds the claim. -/
theorem Consistent.holder (h : Consistent alertId s) {w : W} (hbusy : ¬(s.task w).Quiet) :
    ∃ d n status,Holding alertId s w d n status := by
  cases h with
  | absent _ _ hquiet => exact (hbusy (hquiet w)).elim
  | free _ _ _ _ _ _ _ _ _ hquiet => exact (hbusy (hquiet w)).elim
  | held d n status w' h =>
    by_cases hw : w=w'
    · exact ⟨d,n,status,hw ▸ h⟩
    · exact (hbusy (h.quiet w hw)).elim

/-- What a call that is not quiet holds in its phase. -/
theorem Consistent.heldBy (h : Consistent alertId s) {w : W} {p : Phase} (htask : s.task w=p)
    (hbusy : ¬p.Quiet) :
    ∃ d n status,Holding alertId s w d n status ∧ Held n s.attempts.length p := by
  rw [←htask] at hbusy
  obtain ⟨d,n,status,hold⟩ := h.holder hbusy
  have hheld := hold.held
  rw [htask] at hheld
  exact ⟨d,n,status,hold,hheld⟩

/-- The call with the claim goes on. -/
theorem Holding.goes {w : W} (h : Holding alertId s w d n status) {p : Phase}
    {attempts : List (W×Bool)} (hhonest : ∀ attempt∈attempts,attempt.2=true)
    (hheld : Held n attempts.length p) :
    Consistent alertId ⟨s.stored,Function.update s.task w p,attempts⟩ := by
  refine .held d n status w ⟨h.stored,h.doc,hhonest,h.most,h.taken,?_,?_⟩
  · dsimp only
    rw [Function.update_self]
    exact hheld
  · intro w' hw'
    dsimp only
    rw [Function.update_of_ne hw']
    exact h.quiet w' hw'

/-- Or it ends, with a last command on the document. -/
theorem Holding.ends {w : W} (h : Holding alertId s w d n status) {p : Phase} {d' : AlertDoc}
    {status' : AlertStatus} (hnew : p.Quiet) (hdoc : Tracked alertId d' n status')
    (hcount : n=s.attempts.length) (hbelow : status'=.pending ∨ status'=.failed→n<3) :
    Consistent alertId ⟨some d',Function.update s.task w p,s.attempts⟩ := by
  refine .free d' n status' rfl hdoc h.honest hcount h.most hbelow ?_
  intro w'
  by_cases hw : w'=w
  · dsimp only
    rw [hw,Function.update_self]
    exact hnew
  · dsimp only
    rw [Function.update_of_ne hw]
    exact h.quiet w' hw

/-- A successful claim gives the alert to its call. -/
theorem Consistent.won (h : Consistent alertId s) {w : W} {now : Datetime} (entry : Entry)
    (hclaims : claims alertId s now=true) :
    Consistent alertId (s.command (claimCommand alertId now) w (.ready entry true)) := by
  cases h with
  | absent hstored _ _ =>
    unfold claims at hclaims
    rw [hstored] at hclaims
    cases hclaims
  | held d n status w' h =>
    have hpending := (h.doc.claims_iff h.stored now).mp hclaims
    obtain hsending | hsent := h.taken
    · rw [hsending] at hpending
      cases hpending
    · rw [hsent] at hpending
      cases hpending
  | free d n status hstored hdoc hhonest hcount hmost hbelow hquiet =>
    have hpending := (hdoc.claims_iff hstored now).mp hclaims
    have hmore := hbelow (.inl hpending)
    subst hpending
    refine .held ((claimCommand alertId now).onDoc d) (n+1) .sending w ⟨?_,hdoc.claim now,hhonest,
      by omega,.inl rfl,?_,?_⟩
    · unfold State.command
      rw [hstored]
      rfl
    · unfold State.command
      dsimp only
      rw [Function.update_self]
      exact .ready entry (by rw [hcount])
    · intro w' hw'
      unfold State.command
      dsimp only
      rw [Function.update_of_ne hw']
      exact hquiet w'

/-- A claim that fails changes nothing. -/
theorem Consistent.lost (h : Consistent alertId s) {w : W} {now : Datetime} {p : Phase}
    (hclaims : claims alertId s now=false) (hbefore : (s.task w).Quiet) (hnew : p.Quiet) :
    Consistent alertId (s.command (claimCommand alertId now) w p) := by
  refine h.quiet hbefore hnew (fun hnone => by rw [hnone]; rfl) ?_
  intro d n status hstored hdoc
  refine ⟨d,status,?_,hdoc,id,id⟩
  have hother : status≠.pending := by
    intro hpending
    rw [(hdoc.claims_iff hstored now).mpr hpending] at hclaims
    cases hclaims
  rw [hstored,Option.map_some,hdoc.claim_other hother now]

/-- A claim, where one of `dispatch_alert` succeeds exactly for an alert that
passes the filter. -/
theorem Consistent.claim (h : Consistent alertId s) {w : W} {now : Datetime} {entry : Entry}
    (htask : s.task w=.claiming entry)
    (hallowed : ∀ passes,entry=.notifier passes→claims alertId s now=passes) :
    Consistent alertId
      (s.command (claimCommand alertId now) w (entry.next (claims alertId s now))) := by
  have hbefore : (s.task w).Quiet := by
    rw [htask]
    exact ⟨rfl,rfl⟩
  cases hclaims : claims alertId s now with
  | true =>
    have hnext : entry.next true=.ready entry true := by
      cases entry with
      | router => rfl
      | batch => rfl
      | notifier passes =>
        have hpasses := (hallowed passes rfl).symm.trans hclaims
        unfold Entry.next
        exact if_pos hpasses
    rw [hnext]
    exact h.won entry hclaims
  | false =>
    have hnext : (entry.next false).Quiet := by
      cases entry with
      | router => exact ⟨rfl,rfl⟩
      | batch => exact ⟨rfl,rfl⟩
      | notifier passes =>
        have hpasses := (hallowed passes rfl).symm.trans hclaims
        unfold Entry.next
        rw [hpasses]
        exact ⟨rfl,rfl⟩
    exact h.lost hclaims hbefore hnext

/-- The end of an attempt. -/
theorem Consistent.finish (h : Consistent alertId s) {w : W} {entry : Entry} {claimed : Bool}
    (htask : s.task w=.attempting entry claimed) (delivery : Delivery) :
    Consistent alertId (s.move w (entry.after claimed delivery)) := by
  obtain ⟨d,n,status,hold,hheld⟩ :=
    h.heldBy htask fun hquiet => Bool.false_ne_true hquiet.2.symm
  cases hheld with
  | attempting entry hcount =>
    have hended : Consistent alertId (s.move w .finished) := by
      have hfree := hold.ends (p := .finished) ⟨rfl,rfl⟩ hold.doc hcount (by
        rintro (rfl | rfl)
        · exact absurd hold.taken (by decide)
        · exact absurd hold.taken (by decide))
      rw [← hold.stored] at hfree
      exact hfree
    have hfailed : ∀ error,Consistent alertId (s.move w (.failing true error)) :=
      fun error => hold.goes hold.honest (.failing error hcount)
    cases delivery with
    | success => exact hold.goes hold.honest (.delivered hcount)
    | failure channelsTried => cases entry <;> exact hfailed _
    | raised error =>
      cases entry with
      | router => exact hfailed _
      | batch => exact hended
      | notifier passes => exact hended

/-- The mark of a delivery. -/
theorem Consistent.markSent (h : Consistent alertId s) {w : W} {claimed : Bool} (now : Datetime)
    (htask : s.task w=.delivered claimed) :
    Consistent alertId (s.command (sentCommand alertId now) w .finished) := by
  cases claimed with
  | false =>
    refine h.quiet (by rw [htask]; exact ⟨rfl,rfl⟩) ⟨rfl,rfl⟩ (fun hnone => by rw [hnone]; rfl) ?_
    intro d n status hstored hdoc
    refine ⟨_,_,by rw [hstored]; rfl,hdoc.markSent now,?_,?_⟩
    · cases status <;> simp
    · cases status <;> simp
  | true =>
    obtain ⟨d,n,status,hold,hheld⟩ :=
      h.heldBy htask fun hquiet => Bool.false_ne_true hquiet.1.symm
    cases hheld with
    | delivered hcount =>
      have hfree := hold.ends (p := .finished) ⟨rfl,rfl⟩ (hold.doc.markSent now) hcount (by
        obtain rfl | rfl := hold.taken
        · rintro (hnew | hnew) <;> cases hnew
        · rintro (hnew | hnew) <;> cases hnew)
      unfold State.command
      rw [hold.stored]
      exact hfree

/-- The read of a failure. -/
theorem Consistent.failedFind (h : Consistent alertId s) {w : W} {claimed : Bool} {error : String}
    (htask : s.task w=.failing claimed error) {s' : State W}
    (hstep : (match s.stored with
      | none => some (s.move w .finished)
      | some d => some (s.move w (.writing claimed error (d.sendAttempts.getD 0))))=some s') :
    Consistent alertId s' := by
  obtain ⟨d,n,status,hold,hheld⟩ :=
    h.heldBy htask fun hquiet => Bool.false_ne_true hquiet.2.symm
  rw [hold.stored] at hstep
  cases hheld with
  | failing error hcount =>
    cases hstep
    rw [hold.doc.attempts]
    exact hold.goes hold.honest (.writing error hcount)

/-- Its update. -/
theorem Consistent.failedUpdate (h : Consistent alertId s) {w : W} {claimed : Bool}
    {error : String} {attempts : ℤ} (now : Datetime)
    (htask : s.task w=.writing claimed error attempts) :
    Consistent alertId
      (s.command (failedCommand alertId (retryStatus attempts 3) error none now) w .finished) := by
  obtain ⟨d,n,status,hold,hheld⟩ :=
    h.heldBy htask fun hquiet => Bool.false_ne_true hquiet.2.symm
  cases hheld with
  | writing error hcount =>
    have hfree := hold.ends (p := .finished) ⟨rfl,rfl⟩
      (hold.doc.markFailed (retryStatus attempts 3) error none now) hcount (by
        unfold retryStatus
        split
        · rintro (hnew | hnew) <;> cases hnew
        · intro _
          omega)
    unfold State.command
    rw [hold.stored]
    exact hfree

/-- A step whose claims of `dispatch_alert` follow the filter keeps the calls
consistent. -/
theorem Consistent.step (h : Consistent alertId s) {fromisoformat : String→Parsed} {e : Event W}
    {s' : State W} (hallowed : NotifierClaims alertId s e)
    (hstep : AlertDeliveries.step fromisoformat alertId s e=some s') : Consistent alertId s' := by
  have hidle : ∀ {w},s.task w=.idle→(s.task w).Quiet := by
    intro w hw
    rw [hw]
    exact ⟨rfl,rfl⟩
  cases e with
  | create w alert routed =>
    dsimp only [AlertDeliveries.step] at hstep
    split at hstep
    · rename_i hnew
      obtain ⟨hw,hnone,hid,hstatus,hattempts⟩ := hnew
      cases hstep
      cases h with
      | absent _ hempty hquiet =>
        refine .free alert.toDict 0 .pending rfl ⟨congrArg some hid,congrArg some hattempts,
          congrArg some hstatus⟩ ?_ ?_ (by decide) (fun _ => by decide) ?_
        · dsimp only
          rw [hempty]
          exact nofun
        · dsimp only
          rw [hempty]
          rfl
        · intro w'
          refine quiet_update ?_ (hquiet w')
          cases routed <;> exact ⟨rfl,rfl⟩
      | free d _ _ hstored => cases hnone.symm.trans hstored
      | held d _ _ _ hold => cases hnone.symm.trans hold.stored
    · cases hstep
  | pickUp w maxAttempts current =>
    dsimp only [AlertDeliveries.step] at hstep
    split at hstep
    · cases hstep
    · split at hstep
      · rename_i hfound
        cases hstep
        exact h.move (hidle hfound.1) ⟨rfl,rfl⟩
      · cases hstep
  | batch w =>
    dsimp only [AlertDeliveries.step] at hstep
    split at hstep
    · rename_i hfound
      cases hstep
      exact h.move (hidle hfound.1) ⟨rfl,rfl⟩
    · cases hstep
  | notify w passes =>
    dsimp only [AlertDeliveries.step] at hstep
    split at hstep
    · rename_i hw
      cases hstep
      exact h.move (hidle hw) ⟨rfl,rfl⟩
    · cases hstep
  | requeue w =>
    dsimp only [AlertDeliveries.step] at hstep
    split at hstep
    · rename_i known htask
      cases hstep
      refine h.quiet (by rw [htask]; exact ⟨rfl,rfl⟩) ?_ (fun hnone => by rw [hnone]; rfl) ?_
      · split
        · exact ⟨rfl,rfl⟩
        · exact ⟨rfl,rfl⟩
      · intro d n status hstored hdoc
        refine ⟨_,_,by rw [hstored]; rfl,hdoc.requeue,?_,?_⟩
        · cases status <;> simp
        · cases status <;> simp
    · cases hstep
  | claim w now =>
    dsimp only [AlertDeliveries.step] at hstep
    split at hstep
    · rename_i entry htask
      cases hstep
      refine h.claim htask ?_
      rintro passes rfl
      dsimp only [NotifierClaims] at hallowed
      rw [htask] at hallowed
      exact hallowed
    · cases hstep
  | attempt w =>
    dsimp only [AlertDeliveries.step] at hstep
    split at hstep
    · rename_i entry claimed htask
      cases hstep
      obtain ⟨d,n,status,hold,hheld⟩ :=
        h.heldBy htask fun hquiet => Bool.false_ne_true hquiet.2.symm
      cases hheld with
      | ready entry hcount =>
        exact hold.goes (List.forall_mem_cons.mpr ⟨rfl,hold.honest⟩)
          (.attempting entry (by rw [List.length_cons]; exact_mod_cast hcount))
    · cases hstep
  | finish w delivery =>
    dsimp only [AlertDeliveries.step] at hstep
    split at hstep
    · rename_i entry claimed htask
      cases hstep
      exact h.finish htask delivery
    · cases hstep
  | markSent w now =>
    dsimp only [AlertDeliveries.step] at hstep
    split at hstep
    · rename_i claimed htask
      cases hstep
      exact h.markSent now htask
    · cases hstep
  | failedFind w =>
    dsimp only [AlertDeliveries.step] at hstep
    split at hstep
    · rename_i claimed error htask
      exact h.failedFind htask hstep
    · cases hstep
  | failedUpdate w now =>
    dsimp only [AlertDeliveries.step] at hstep
    split at hstep
    · rename_i claimed error attempts htask
      cases hstep
      exact h.failedUpdate now htask
    · cases hstep

/-- A quiet call neither attempts a delivery nor is about to. -/
theorem Phase.Quiet.not_attempting {p : Phase} (h : p.Quiet) :
    p.isAttempting=false ∧ p.isReady=false := by
  cases p with
  | ready entry claimed => cases h.2
  | attempting entry claimed => cases h.2
  | _ => exact ⟨rfl,rfl⟩

omit [DecidableEq W] in
/-- The counter of a stored alert. -/
theorem Tracked.counter (h : Tracked alertId d n status) (hstored : s.stored=some d) :
    (s.stored.bind AlertDoc.sendAttempts).getD 0=n := by
  rw [hstored,Option.bind_some,h.attempts,Option.getD_some]

/-- Consistent calls deliver as the document counts. -/
theorem Consistent.delivers (h : Consistent alertId s) : Delivers s := by
  have hnone : (∀ w,(s.task w).Quiet)→
      ∀ w w',(s.task w).isAttempting=true→(s.task w').isAttempting=true→w=w' := by
    intro hquiet w w' hw _
    rw [(hquiet w).not_attempting.1] at hw
    cases hw
  cases h with
  | absent hstored hempty hquiet =>
    refine ⟨?_,hnone hquiet,?_,?_,?_⟩
    · rw [hempty]
      exact nofun
    · intro _
      rw [hstored,hempty]
      rfl
    · rw [hstored,hempty]
      exact le_rfl
    · rw [hempty]
      exact Nat.zero_le 3
  | free d n status hstored hdoc hhonest hcount hmost hbelow hquiet =>
    have hcounter := (hdoc.counter hstored).trans hcount
    exact ⟨hhonest,hnone hquiet,fun _ => hcounter.symm,hcounter.ge,by omega⟩
  | held d n status holder h =>
    have hcounter := h.doc.counter h.stored
    have hlength := h.held.count_le
    refine ⟨h.honest,?_,?_,by rw [hcounter]; exact hlength,?_⟩
    · have hholder : ∀ w,(s.task w).isAttempting=true→w=holder := by
        intro w hw
        by_contra hother
        rw [(h.quiet w hother).not_attempting.1] at hw
        cases hw
      intro w w' hw hw'
      exact (hholder w hw).trans (hholder w' hw').symm
    · intro hready
      rw [hcounter]
      exact h.held.count_eq (hready holder)
    · have hmost := h.most
      omega

/-- In every run of the entry points in which `dispatch_alert` wins its claim
exactly for the alerts that pass its filter, every attempt is made under a
claim, no two attempts are in progress, and the document counts the attempts, at
most three. -/
theorem deliveries_claimed {fromisoformat : String→Parsed}
    (hrun : Reaches (step fromisoformat alertId) (NotifierClaims alertId) (State.start W) s) :
    Delivers s := by
  have hconsistent : Consistent alertId s := by
    refine hrun.invariant (P := Consistent alertId) ?_ ?_
    · exact .absent rfl rfl fun _ => ⟨rfl,rfl⟩
    · intro s e s' _ hs hallowed hstep
      exact hs.step hallowed hstep
  exact hconsistent.delivers

/-- The immediate dispatch fails, the retry fails, and the notifier delivers what
the second retry has requeued. -/
theorem deliveries_claimed_retries :
    ∃ s : State (Fin 4),s.attempts.length=3 ∧ s.stored.bind AlertDoc.status=some .sent ∧
      Delivers s := by
  obtain ⟨s,_,hq,hrun⟩ := play_ends (step (fun _ => .invalid) "a1") (NotifierClaims "a1")
    (State.start (Fin 4))
    (fun s => s.attempts.length=3 ∧ s.stored.bind AlertDoc.status=some .sent)
    [.create 0 outage true,.claim 0 (noon 1),.attempt 0,.finish 0 (.failure ["telegram"]),
      .failedFind 0,.failedUpdate 0 (noon 2),.pickUp 1 3 (noon 3),.requeue 1,.claim 1 (noon 4),
      .attempt 1,.finish 1 (.raised "timeout"),.failedFind 1,.failedUpdate 1 (noon 5),
      .pickUp 2 3 (noon 6),.requeue 2,.notify 3 true,.claim 3 (noon 7),.claim 2 (noon 8),
      .attempt 3,.finish 3 .success,.markSent 3 (noon 9)] (by decide +kernel)
  exact ⟨s,hq.1,hq.2,deliveries_claimed hrun⟩

/-- `dispatch_alert` sends an alert that the immediate dispatch is sending. -/
theorem notifier_ignores_claim :
    ¬∀ s : State Bool,Reaches (step (fun _ => .invalid) "a1") (fun _ _ => True)
      (State.start Bool) s→Delivers s := by
  intro hall
  obtain ⟨s,_,hboth,hrun⟩ := play_ends (step (fun _ => .invalid) "a1") (fun _ _ => True)
    (State.start Bool)
    (fun s => (s.task true).isAttempting=true ∧ (s.task false).isAttempting=true)
    [.create true outage true,.claim true (noon 1),.attempt true,.notify false true,
      .claim false (noon 2),.attempt false] (by decide +kernel)
  exact absurd ((hall s hrun).alone true false hboth.1 hboth.2) (by decide)

end Aqts.AlertDeliveries
