import Aqts.AlertManager
import Aqts.GuardedRuns

/-!
# The stored status of an alert

One stored alert under interleaved commands of any number of workers and
operators. A worker whose claim succeeded may mark the alert sent or failed, at
any time and more than once; a failure is a read followed by an update whose
filter names only the identifier, and so is the update of a save. The statuses
that these two write are the ones that can leave the documented machine.
-/

namespace Aqts.AlertStatuses

open GuardedRuns DocumentStore IsoTimestamps AlertManager

/-- The transitions that the documentation of `AlertStatus` lists. -/
def Documented : Option AlertStatus→Option AlertStatus→Bool
  | some .pending,some .sending => true
  | some .sending,some .sent => true
  | some .sending,some .failed => true
  | some .sending,some .dead => true
  | some .failed,some .pending => true
  | _,some .read => true
  | _,_ => false

/-- A call of `mark_failed_with_retry` between its read and its update. -/
structure FailedWrite where
  /-- `send_attempts` as it was read. -/
  attempts : ℤ
  /-- `max_attempts`. -/
  maxAttempts : ℤ
  /-- `error`. -/
  error : String
  /-- `status_code`. -/
  statusCode : Option ℤ
  /-- The reading of the clock. -/
  now : Datetime
  deriving DecidableEq

/-- `new_status`. -/
def FailedWrite.newStatus (w : FailedWrite) : AlertStatus := retryStatus w.attempts w.maxAttempts

/-- The update. -/
def FailedWrite.command (alertId : String) (w : FailedWrite) : Update AlertDoc :=
  failedCommand alertId w.newStatus w.error w.statusCode w.now

/-- The stored alert with the workers. -/
structure State (W : Type*) where
  /-- The document. -/
  stored : Option AlertDoc
  /-- Workers whose claim succeeded. -/
  claimants : List W
  /-- Failures between their read and their update. -/
  writes : List FailedWrite
  /-- Changes of the status, the last one first. -/
  changes : List (Option AlertStatus×Option AlertStatus)

/-- No worker has done anything. -/
def State.start (W : Type*) (stored : Option AlertDoc) : State W := ⟨stored,[],[],[]⟩

/-- A command of the store. -/
def State.command {W : Type*} (s : State W) (c : Update AlertDoc) : State W where
  stored := s.stored.map c.onDoc
  claimants := s.claimants
  writes := s.writes
  changes :=
    match s.stored with
    | none => s.changes
    | some d =>
      if (c.onDoc d).status=d.status then s.changes else (d.status,(c.onDoc d).status)::s.changes

/-- Commands of workers and operators. -/
inductive Event (W : Type*)
  /-- `save_alert` of an object with the identifier of the stored alert. -/
  | save (alert : Alert)
  /-- `claim_for_sending`. -/
  | claim (worker : W) (now : Datetime)
  /-- `mark_sent_by_id`. -/
  | sent (worker : W) (now : Datetime)
  /-- The read of `mark_failed_with_retry`. -/
  | failedFind (worker : W) (error : String) (statusCode : Option ℤ) (maxAttempts : ℤ)
      (now : Datetime)
  /-- Its update. -/
  | failedUpdate (write : FailedWrite)
  /-- `requeue_failed_to_pending`. -/
  | requeue
  /-- `mark_alert_read`. -/
  | read (now : Datetime)
  /-- `mark_all_read`. -/
  | readAll (now : Datetime)

variable {W : Type*} [DecidableEq W]

/-- One command, if it is enabled. -/
def step (alertId : String) (s : State W) : Event W→Option (State W)
  | .save alert =>
    if alert.id=alertId then
      match s.stored with
      | none => some {s with stored := some alert.toDict}
      | some _ => some (s.command (saveCommand alert))
    else none
  | .claim worker now =>
    let c := claimCommand alertId now
    let claimed := s.command c
    if c.modifiedOne s.stored.toList=1 then some {claimed with claimants := worker::s.claimants}
    else some claimed
  | .sent worker now =>
    if worker∈s.claimants then some (s.command (sentCommand alertId now)) else none
  | .failedFind worker error statusCode maxAttempts now =>
    if worker∈s.claimants then
      match s.stored with
      | none => some s
      | some d =>
        let write : FailedWrite := ⟨d.sendAttempts.getD 0,maxAttempts,error,statusCode,now⟩
        some {s with writes := write::s.writes}
    else none
  | .failedUpdate write =>
    if write∈s.writes then
      some {s.command (write.command alertId) with writes := s.writes.erase write}
    else none
  | .requeue => some (s.command (requeueCommand alertId))
  | .read now => some (s.command (readCommand alertId now))
  | .readAll now => some (s.command (readAllCommand now))

/-- The updates without a status in their filter find one that they may replace:
a failure finds the alert in sending, or in the status that it writes, and a save
finds the status of its object, or one with a documented transition to it. -/
def WritesInTime (s : State W) : Event W→Prop
  | .failedUpdate write => ∀ d∈s.stored,d.status=some .sending ∨ d.status=some write.newStatus
  | .save alert =>
    ∀ d∈s.stored,d.status=some alert.status ∨ Documented d.status (some alert.status)=true
  | _ => True

instance (s : State W) (e : Event W) : Decidable (WritesInTime s e) := by
  cases e <;> unfold WritesInTime <;> infer_instance

/-- Every change of the status was a documented transition. -/
def ChangesDocumented (s : State W) : Prop := ∀ change∈s.changes,Documented change.1 change.2=true

instance (s : State W) : Decidable (ChangesDocumented s) :=
  inferInstanceAs (Decidable (∀ change∈s.changes,Documented change.1 change.2=true))

variable {alertId : String} {s : State W}

omit [DecidableEq W] in
/-- A command that follows the machine on every document keeps the changes
documented. -/
theorem ChangesDocumented.command (h : ChangesDocumented s) {c : Update AlertDoc}
    (hc : ∀ d∈s.stored,c.filter d=true→
      (c.set d).status=d.status ∨ Documented d.status (c.set d).status=true) :
    ChangesDocumented (s.command c) := by
  intro change hchange
  unfold State.command at hchange
  dsimp only at hchange
  cases hstored : s.stored with
  | none =>
    rw [hstored] at hchange
    exact h change hchange
  | some d =>
    rw [hstored] at hchange
    dsimp only at hchange
    by_cases hsame : (c.onDoc d).status=d.status
    · rw [if_pos hsame] at hchange
      exact h change hchange
    · rw [if_neg hsame] at hchange
      by_cases hfilter : c.filter d=true
      · rw [Update.onDoc_pos hfilter] at hsame hchange
        obtain rfl | hbefore := List.mem_cons.mp hchange
        · exact (hc d hstored hfilter).resolve_left hsame
        · exact h change hbefore
      · rw [Update.onDoc_neg hfilter] at hsame
        exact (hsame rfl).elim

/-- A claim follows the machine. -/
theorem claimCommand_documented (now : Datetime) (d : AlertDoc)
    (h : (claimCommand alertId now).filter d=true) :
    Documented d.status ((claimCommand alertId now).set d).status=true := by
  have hstatus : d.status=some .pending := (of_decide_eq_true h).2
  rw [hstatus]
  rfl

/-- A mark of the delivery follows the machine. -/
theorem sentCommand_documented (now : Datetime) (d : AlertDoc)
    (h : (sentCommand alertId now).filter d=true) :
    Documented d.status ((sentCommand alertId now).set d).status=true := by
  have hstatus : d.status=some .sending := (of_decide_eq_true h).2
  rw [hstatus]
  rfl

/-- So does a requeue. -/
theorem requeueCommand_documented (d : AlertDoc) (h : (requeueCommand alertId).filter d=true) :
    Documented d.status ((requeueCommand alertId).set d).status=true := by
  have hstatus : d.status=some .failed := (of_decide_eq_true h).2
  rw [hstatus]
  rfl

/-- Every status may become read. -/
theorem documented_read (status : Option AlertStatus) : Documented status (some .read)=true := by
  cases status with
  | none => rfl
  | some status => cases status <;> rfl

/-- The status that a failure writes. -/
theorem FailedWrite.newStatus_cases (w : FailedWrite) : w.newStatus=.dead ∨ w.newStatus=.failed := by
  unfold newStatus retryStatus
  split
  · exact .inl rfl
  · exact .inr rfl

/-- A failure may follow sending. -/
theorem FailedWrite.documented (w : FailedWrite) :
    Documented (some .sending) (some w.newStatus)=true := by
  obtain hdead | hfailed := w.newStatus_cases
  · rw [hdead]
    rfl
  · rw [hfailed]
    rfl

/-- A transition from read or sent does not lead to failed or dead. -/
theorem documented_final {old new : Option AlertStatus} (h : Documented old new=true)
    (hold : old=some .read ∨ old=some .sent) : new≠some .failed ∧ new≠some .dead := by
  constructor
  all_goals
    rintro rfl
    obtain rfl | rfl := hold
    all_goals cases h

/-- A step whose unfiltered updates come in time keeps the changes documented. -/
theorem ChangesDocumented.step (h : ChangesDocumented s) {e : Event W} {s' : State W}
    (hallowed : WritesInTime s e) (hstep : AlertStatuses.step alertId s e=some s') :
    ChangesDocumented s' := by
  cases e with
  | save alert =>
    dsimp only [AlertStatuses.step] at hstep
    split at hstep
    · cases hstored : s.stored with
      | none =>
        rw [hstored] at hstep
        cases hstep
        exact h
      | some d =>
        rw [hstored] at hstep
        cases hstep
        refine h.command ?_
        intro d hd _
        exact (hallowed d hd).imp_left Eq.symm
    · cases hstep
  | claim worker now =>
    have hclaimed : ChangesDocumented (s.command (claimCommand alertId now)) :=
      h.command fun d _ hfilter => .inr (claimCommand_documented now d hfilter)
    dsimp only [AlertStatuses.step] at hstep
    split at hstep
    · cases hstep
      exact hclaimed
    · cases hstep
      exact hclaimed
  | sent worker now =>
    dsimp only [AlertStatuses.step] at hstep
    split at hstep
    · cases hstep
      exact h.command fun d _ hfilter => .inr (sentCommand_documented now d hfilter)
    · cases hstep
  | failedFind worker error statusCode maxAttempts now =>
    dsimp only [AlertStatuses.step] at hstep
    split at hstep
    · cases hstored : s.stored with
      | none =>
        rw [hstored] at hstep
        cases hstep
        exact h
      | some d =>
        rw [hstored] at hstep
        cases hstep
        exact h
    · cases hstep
  | failedUpdate write =>
    dsimp only [AlertStatuses.step] at hstep
    split at hstep
    · cases hstep
      have hupdated : ChangesDocumented (s.command (write.command alertId)) := by
        refine h.command ?_
        intro d hd _
        obtain hsending | hsame := hallowed d hd
        · right
          rw [hsending]
          exact write.documented
        · exact .inl hsame.symm
      exact hupdated
    · cases hstep
  | requeue =>
    cases hstep
    exact h.command fun d _ hfilter => .inr (requeueCommand_documented d hfilter)
  | read now =>
    cases hstep
    exact h.command fun d _ _ => .inr (documented_read d.status)
  | readAll now =>
    cases hstep
    exact h.command fun d _ _ => .inr (documented_read d.status)

/-- In every run of commands whose unfiltered updates come in time, the stored
status changes along the documented machine, so a failure never replaces a
status that says read or sent. -/
theorem statuses_documented {stored : Option AlertDoc}
    (hrun : Reaches (step alertId) WritesInTime (State.start W stored) s) :
    ChangesDocumented s ∧ ∀ old new,(old,new)∈s.changes→
      old=some .read ∨ old=some .sent→new≠some .failed ∧ new≠some .dead := by
  have hchanges : ChangesDocumented s := by
    refine hrun.invariant (P := ChangesDocumented) ?_ ?_
    · intro change hchange
      cases hchange
    · intro s e s' _ hs hallowed hstep
      exact hs.step hallowed hstep
  exact ⟨hchanges,fun old new hchange => documented_final (hchanges _ hchange)⟩

/-- An alert is claimed, fails, is requeued and claimed again, and is delivered. -/
theorem statuses_documented_retry :
    ∃ s : State Bool,s.changes.length=5 ∧ ChangesDocumented s ∧ ∀ old new,(old,new)∈s.changes→
      old=some .read ∨ old=some .sent→new≠some .failed ∧ new≠some .dead := by
  obtain ⟨s,_,hq,hrun⟩ := play_ends (step "a1") WritesInTime (State.start Bool none)
    (fun s => s.changes.length=5)
    [.save outage,.claim true (noon 1),.failedFind true "down" none 3 (noon 2),
      .failedUpdate ⟨1,3,"down",none,noon 2⟩,.requeue,.claim false (noon 3),
      .sent false (noon 4)] (by decide +kernel)
  exact ⟨s,hq,statuses_documented hrun⟩

/-- An operator reads the alert while a worker sends it, and the failure replaces
the status. -/
theorem failure_replaces_read :
    ¬∀ s : State Bool,Reaches (step "a1") (fun _ _ => True) (State.start Bool none) s→
      ChangesDocumented s :=
  not_forall_reaches
    [.save outage,.claim true (noon 1),.read (noon 2),.failedFind true "down" none 3 (noon 3),
      .failedUpdate ⟨1,3,"down",none,noon 3⟩] (by decide +kernel)

end Aqts.AlertStatuses
