import Aqts.Dictionary
import Aqts.GuardedRuns
import Mathlib.Data.List.TakeDrop
import Mathlib.Data.Rat.Defs

/-!
# The notification router

`core.notification.fallback_notifier`: an alert goes to the channels in their order until one of
them sends it, and every channel has a record of its successes and failures. Dispatches are
interleaved where they wait for a channel, and channels may be added meanwhile. A log keeps what
the records were told, and the records say no more and no less.
-/

namespace Aqts.NotificationRouter

open Dictionary GuardedRuns

section Health

/-- `ChannelStatus`. -/
inductive ChannelStatus
  /-- `ACTIVE`. -/
  | active
  /-- `DEGRADED`. -/
  | degraded
  /-- `DOWN`. -/
  | down
deriving DecidableEq

/-- `ChannelHealth`. -/
structure ChannelHealth where
  /-- `channel_name`. -/
  channelName : String
  /-- `total_sent`. -/
  totalSent : ℕ := 0
  /-- `total_failed`. -/
  totalFailed : ℕ := 0
  /-- `consecutive_failures`. -/
  consecutiveFailures : ℕ := 0
  /-- `last_success_at`. -/
  lastSuccessAt : Option ℚ := none
  /-- `last_failure_at`. -/
  lastFailureAt : Option ℚ := none
  /-- `status`. -/
  status : ChannelStatus := .active
deriving DecidableEq

/-- `DEGRADED_THRESHOLD`. -/
def degradedThreshold : ℕ := 2

/-- `DOWN_THRESHOLD`. -/
def downThreshold : ℕ := 5

/-- `record_success`. -/
def ChannelHealth.recordSuccess (h : ChannelHealth) (now : ℚ) : ChannelHealth :=
  { h with
    totalSent := h.totalSent+1
    consecutiveFailures := 0
    lastSuccessAt := some now
    status := .active }

/-- `record_failure`. -/
def ChannelHealth.recordFailure (h : ChannelHealth) (now : ℚ) : ChannelHealth :=
  let consecutiveFailures := h.consecutiveFailures+1
  { h with
    totalFailed := h.totalFailed+1
    consecutiveFailures := consecutiveFailures
    lastFailureAt := some now
    status :=
      if consecutiveFailures≥downThreshold then .down
      else if consecutiveFailures≥degradedThreshold then .degraded
      else h.status }

/-- `success_rate`. -/
def ChannelHealth.successRate (h : ChannelHealth) : ℚ :=
  let total := h.totalSent+h.totalFailed
  if total=0 then 1 else h.totalSent/total

/-- The status that a number of failures one after another means. -/
def statusOf (consecutiveFailures : ℕ) : ChannelStatus :=
  if consecutiveFailures≥downThreshold then .down
  else if consecutiveFailures≥degradedThreshold then .degraded
  else .active

/-- A record tells what a channel has answered, each answer with its time. -/
structure Tells (name : String) (answers : List (Bool×ℚ)) (h : ChannelHealth) : Prop where
  /-- It is the record of the channel. -/
  name : h.channelName=name
  /-- The successes are counted. -/
  sent : h.totalSent=answers.countP fun a => a.1
  /-- The failures are counted. -/
  failed : h.totalFailed=answers.countP fun a => !a.1
  /-- So are the failures behind the last success. -/
  consecutive : h.consecutiveFailures=(answers.reverse.takeWhile fun a => !a.1).length
  /-- The time of the last success. -/
  success : h.lastSuccessAt=(answers.reverse.find? fun a => a.1).map Prod.snd
  /-- The time of the last failure. -/
  failure : h.lastFailureAt=(answers.reverse.find? fun a => !a.1).map Prod.snd
  /-- The status is that of the failures behind the last success. -/
  status : h.status=statusOf h.consecutiveFailures

/-- A new record tells of no answer. -/
theorem Tells.new (name : String) : Tells name [] { channelName := name } :=
  ⟨rfl,rfl,rfl,rfl,rfl,rfl,rfl⟩

/-- A failure keeps the status that its number means. -/
theorem status_recordFailure {h : ChannelHealth} (hstatus : h.status=statusOf h.consecutiveFailures)
    (now : ℚ) : (h.recordFailure now).status=statusOf (h.recordFailure now).consecutiveFailures := by
  show (if h.consecutiveFailures+1≥downThreshold then _ else _)=statusOf (h.consecutiveFailures+1)
  rw [hstatus]
  unfold statusOf downThreshold degradedThreshold
  -- a first failure finds the status that no failure means
  split_ifs <;> first | rfl | omega

/-- One more answer is told too. -/
theorem Tells.record {name : String} {answers : List (Bool×ℚ)} {h : ChannelHealth}
    (htells : Tells name answers h) (ok : Bool) (now : ℚ) :
    Tells name (answers++[(ok,now)]) (if ok then h.recordSuccess now else h.recordFailure now) := by
  obtain ⟨hname,hsent,hfailed,hconsecutive,hsuccess,hfailure,hstatus⟩ := htells
  cases ok with
  | true =>
    rw [if_pos rfl]
    refine ⟨hname,?_,?_,?_,?_,?_,rfl⟩
    · rw [List.countP_append,← hsent]
      rfl
    · rw [List.countP_append,← hfailed]
      rfl
    · rw [List.reverse_append]
      rfl
    · rw [List.reverse_append]
      rfl
    · rw [List.reverse_append]
      exact hfailure
  | false =>
    rw [if_neg (by simp)]
    refine ⟨hname,?_,?_,?_,?_,?_,status_recordFailure hstatus now⟩
    · rw [List.countP_append,← hsent]
      rfl
    · rw [List.countP_append,← hfailed]
      rfl
    · rw [List.reverse_append]
      show h.consecutiveFailures+1=_
      rw [hconsecutive]
      rfl
    · rw [List.reverse_append]
      exact hsuccess
    · rw [List.reverse_append]
      rfl

/-- The rate is the share of the successes, one without an answer. -/
theorem Tells.successRate_mem {name : String} {answers : List (Bool×ℚ)} {h : ChannelHealth}
    (htells : Tells name answers h) :
    h.successRate=if answers=[] then 1
      else ((answers.countP fun a => a.1 : ℕ) : ℚ)/(answers.length : ℚ) := by
  have hlength := List.length_eq_countP_add_countP (fun a : Bool×ℚ => a.1) (l := answers)
  have htotal : h.totalSent+h.totalFailed=answers.length := by
    rw [htells.sent,htells.failed,hlength]
    congr 2
    funext a
    cases a.1 <;> rfl
  unfold ChannelHealth.successRate
  dsimp only
  rw [htotal,← htells.sent]
  by_cases hnone : answers=[]
  · rw [if_pos hnone,if_pos (List.length_eq_zero_iff.mpr hnone)]
  · rw [if_neg hnone,if_neg fun hzero => hnone (List.length_eq_zero_iff.mp hzero)]

end Health

section System

/-- What the log keeps. -/
inductive Entry
  /-- A channel is added. -/
  | added (channel : String)
  /-- A channel has sent an alert or failed to, for a dispatch. -/
  | answered (dispatch : ℕ) (channel : String) (ok : Bool) (now : ℚ)

/-- The records of the channels, and the log. -/
structure Records where
  /-- `_health`. -/
  health : Dict String ChannelHealth
  /-- The log. -/
  log : List Entry

/-- A new record for a channel. -/
def Records.add (s : Records) (channel : String) : Records :=
  ⟨s.health.set channel { channelName := channel },s.log++[.added channel]⟩

/-- `record_success` or `record_failure` of the record of a channel, if there is one. -/
def Records.record (s : Records) (dispatch : ℕ) (channel : String) (ok : Bool) (now : ℚ) : Records :=
  ⟨match s.health.get? channel with
    | none => s.health
    | some h => s.health.set channel (if ok then h.recordSuccess now else h.recordFailure now),
    s.log++[.answered dispatch channel ok now]⟩

/-- `DispatchResult`. -/
structure DispatchResult where
  /-- `success`. -/
  success : Bool
  /-- `channel_used`. -/
  channelUsed : String
  /-- `fallback_used`. -/
  fallbackUsed : Bool := false
  /-- `all_failed`. -/
  allFailed : Bool := false
  /-- `channels_tried`. -/
  channelsTried : List String := []
deriving DecidableEq

/-- A dispatch. -/
inductive Task
  /-- It has not begun. -/
  | idle
  /-- It waits for the channel at a position. -/
  | sending (index : ℕ) (channel : String) (channelsTried : List String)
  /-- It has its result. -/
  | finished (result : DispatchResult)
deriving DecidableEq

/-- `NotificationRouter`, and the dispatches that it has. -/
structure System where
  /-- Names of `_channels`. -/
  channels : List String
  /-- The records. -/
  records : Records
  /-- The dispatches. -/
  task : ℕ→Task

/-- The loop of `dispatch` up to the next channel that it waits for: channels that are not available
fail, and without a further channel all have failed. -/
def visit (dispatch : ℕ) (available : ℕ→Bool) (now : ℚ) :
    List String→ℕ→List String→Records→Task×Records
  | [],_,channelsTried,s =>
    (.finished {
      success := false
      channelUsed := "none"
      allFailed := true
      channelsTried := channelsTried },s)
  | channel::rest,index,channelsTried,s =>
    if available index then (.sending index channel (channelsTried++[channel]),s)
    else visit dispatch available now rest (index+1) (channelsTried++[channel])
      (s.record dispatch channel false now)

/-- `NotificationRouter(channels)`. -/
def System.new (channels : List String) : System :=
  ⟨channels,channels.foldl Records.add ⟨.empty,[]⟩,fun _ => .idle⟩

/-- What happens. -/
inductive Event
  /-- `dispatch` begins. -/
  | dispatch (dispatch : ℕ) (available : ℕ→Bool) (now : ℚ)
  /-- The channel that a dispatch waits for has sent the alert, or has failed or raised. -/
  | answer (dispatch : ℕ) (ok : Bool) (available : ℕ→Bool) (now : ℚ)
  /-- `add_channel`. -/
  | addChannel (channel : String)

/-- `fallback_used`: a channel that is not called as the first one. -/
def usedFallback (channels : List String) (channel : String) : Bool :=
  match channels with
  | [] => false
  | first::_ => decide (channel≠first)

/-- One segment between two awaits. -/
def step (s : System) : Event→Option System
  | .dispatch w available now =>
    match s.task w with
    | .idle =>
      let p := visit w available now s.channels 0 [] s.records
      some {s with records := p.2,task := Function.update s.task w p.1}
    | _ => none
  | .answer w ok available now =>
    match s.task w with
    | .sending index channel channelsTried =>
      let records := s.records.record w channel ok now
      if ok then
        let result : DispatchResult := {
          success := true
          channelUsed := channel
          fallbackUsed := usedFallback s.channels channel
          channelsTried := channelsTried }
        some {s with records := records,task := Function.update s.task w (.finished result)}
      else
        let p := visit w available now (s.channels.drop (index+1)) (index+1) channelsTried records
        some {s with records := p.2,task := Function.update s.task w p.1}
    | _ => none
  | .addChannel channel =>
    some {s with channels := s.channels++[channel],records := s.records.add channel}

/-- What every record that the loop leaves has, if every record of a failure keeps it. -/
theorem visit_keeps {P : Records→Prop} {w : ℕ} {available : ℕ→Bool} {now : ℚ}
    (hrecord : ∀ s channel,P s→P (s.record w channel false now)) (rest : List String) (index : ℕ)
    (channelsTried : List String) (s : Records) (h : P s) :
    P (visit w available now rest index channelsTried s).2 := by
  induction rest generalizing index channelsTried s with
  | nil => exact h
  | cons channel rest ih =>
    unfold visit
    split
    · exact h
    · exact ih _ _ _ (hrecord s channel h)

/-- An alert whose second channel sends it. -/
def secondSends : System :=
  let channels := ["telegram","console"]
  ⟨channels,((channels.foldl Records.add ⟨.empty,[]⟩).record 0 "telegram" false 1).record 0 "console"
    true 2,Function.update (Function.update (Function.update (fun _ => .idle) 0
      (.sending 0 "telegram" ["telegram"])) 0 (.sending 1 "console" channels)) 0
      (.finished ⟨true,"console",true,false,channels⟩)⟩

/-- It is reached. -/
theorem reaches_secondSends {allowed : System→Event→Prop} (h : ∀ s e,allowed s e) :
    Reaches step allowed (System.new ["telegram","console"]) secondSends :=
  .next (e := .answer 0 true (fun _ => true) 2)
    (.next (e := .answer 0 false (fun _ => true) 1)
      (.next (e := .dispatch 0 (fun _ => true) 0) .start (h _ _) rfl) (h _ _) rfl) (h _ _) rfl

end System

section Records

/-- What a channel has answered since it was added last, if it was. -/
def answersOf (channel : String) (log : List Entry) : Option (List (Bool×ℚ)) :=
  log.foldl (fun answers entry =>
    match entry with
    | .added other => if other=channel then some [] else answers
    | .answered _ other ok now =>
      if other=channel then answers.map (·++[(ok,now)]) else answers) none

/-- An addition to the log. -/
theorem answersOf_added (channel other : String) (log : List Entry) :
    answersOf channel (log++[.added other])=
      if other=channel then some [] else answersOf channel log := by
  unfold answersOf
  rw [List.foldl_append]
  rfl

/-- An answer in the log. -/
theorem answersOf_answered (w : ℕ) (channel other : String) (ok : Bool) (now : ℚ)
    (log : List Entry) :
    answersOf channel (log++[.answered w other ok now])=
      if other=channel then (answersOf channel log).map (·++[(ok,now)])
      else answersOf channel log := by
  unfold answersOf
  rw [List.foldl_append]
  rfl

/-- The record of a channel tells what it has answered since it was added last. -/
def Records.Tracks (s : Records) (channel : String) : Prop :=
  match answersOf channel s.log with
  | none => s.health.get? channel=none
  | some answers => ∃ h,s.health.get? channel=some h ∧ Tells channel answers h

/-- A new channel. -/
theorem Records.Tracks.add {s : Records} {channel : String} (h : s.Tracks channel)
    (other : String) : (s.add other).Tracks channel := by
  unfold Records.Tracks Records.add
  dsimp only
  rw [answersOf_added,Dict.get?_set]
  by_cases hsame : other=channel
  · subst hsame
    rw [if_pos rfl,if_pos rfl]
    exact ⟨_,rfl,Tells.new other⟩
  · rw [if_neg hsame,if_neg fun heq => hsame heq.symm]
    exact h

/-- One more answer. -/
theorem Records.Tracks.record {s : Records} {channel : String} (h : s.Tracks channel) (w : ℕ)
    (other : String) (ok : Bool) (now : ℚ) : (s.record w other ok now).Tracks channel := by
  unfold Records.Tracks Records.record
  dsimp only
  rw [answersOf_answered]
  by_cases hsame : other=channel
  · subst hsame
    rw [if_pos rfl]
    unfold Records.Tracks at h
    cases hanswers : answersOf other s.log with
    | none =>
      rw [hanswers] at h
      dsimp only [Option.map_none] at h ⊢
      rw [h]
      exact h
    | some answers =>
      rw [hanswers] at h
      obtain ⟨record,hrecord,htells⟩ := h
      dsimp only [Option.map_some]
      rw [hrecord,Dict.get?_set,if_pos rfl]
      exact ⟨_,rfl,htells.record ok now⟩
  · rw [if_neg hsame]
    have hget : (match s.health.get? other with
        | none => s.health
        | some h => s.health.set other (if ok then h.recordSuccess now else h.recordFailure now)).get?
          channel=s.health.get? channel := by
      cases s.health.get? other with
      | none => rfl
      | some record =>
        dsimp only
        rw [Dict.get?_set,if_neg fun heq => hsame heq.symm]
    rw [hget]
    exact h

/-- A channel that was added has answers in the log, or none yet. -/
def Records.Knows (s : Records) (channel : String) : Prop := (answersOf channel s.log).isSome=true

/-- It stays known. -/
theorem Records.Knows.add {s : Records} {channel : String} (h : s.Knows channel) (other : String) :
    (s.add other).Knows channel := by
  unfold Records.Knows Records.add
  dsimp only
  rw [answersOf_added]
  split_ifs
  · rfl
  · exact h

/-- Answers do not change that. -/
theorem Records.Knows.record {s : Records} {channel : String} (h : s.Knows channel) (w : ℕ)
    (other : String) (ok : Bool) (now : ℚ) : (s.record w other ok now).Knows channel := by
  unfold Records.Knows Records.record
  dsimp only
  rw [answersOf_answered]
  split_ifs
  · rw [Option.isSome_map]
    exact h
  · exact h

/-- The channel that was added last is known. -/
theorem Records.knows_add (s : Records) (channel : String) : (s.add channel).Knows channel := by
  unfold Records.Knows Records.add
  dsimp only
  rw [answersOf_added,if_pos rfl]
  rfl

/-- The records of a router: they are about its channels, and tell what these have answered. -/
def System.Recorded (s : System) : Prop :=
  (∀ channel,s.records.Tracks channel) ∧ ∀ channel∈s.channels,s.records.Knows channel

/-- A new router has new records. -/
theorem recorded_new (channels : List String) : (System.new channels).Recorded := by
  have hadd : ∀ (channels : List String) (s : Records),(∀ channel,s.Tracks channel)→
      (∀ channel,(channels.foldl Records.add s).Tracks channel) ∧
      ∀ channel,channel∈channels ∨ s.Knows channel→
        (channels.foldl Records.add s).Knows channel := by
    intro channels
    induction channels with
    | nil => exact fun s h => ⟨h,fun channel hknown => hknown.resolve_left nofun⟩
    | cons first rest ih =>
      intro s h
      obtain ⟨htracks,hknows⟩ := ih (s.add first) fun channel => (h channel).add first
      refine ⟨htracks,fun channel hknown => hknows channel ?_⟩
      rcases hknown with hmem | hknown
      · rcases List.mem_cons.mp hmem with rfl | hmem
        · exact .inr (s.knows_add channel)
        · exact .inl hmem
      · exact .inr (hknown.add first)
  obtain ⟨htracks,hknows⟩ := hadd channels ⟨.empty,[]⟩ fun _ => rfl
  exact ⟨htracks,fun channel hmem => hknows channel (.inl hmem)⟩

/-- One step keeps the records. -/
theorem recorded_step {s s' : System} {e : Event} (h : s.Recorded) (hstep : step s e=some s') :
    s'.Recorded := by
  obtain ⟨htracks,hknows⟩ := h
  -- a failure that the loop records
  have hvisit : ∀ (w : ℕ) (available : ℕ→Bool) (now : ℚ) (rest : List String) (index : ℕ)
      (channelsTried : List String) (r : Records),(∀ channel,r.Tracks channel)→
      (∀ channel∈s.channels,r.Knows channel)→
      (∀ channel,(visit w available now rest index channelsTried r).2.Tracks channel) ∧
      ∀ channel∈s.channels,(visit w available now rest index channelsTried r).2.Knows channel := by
    intro w available now rest index channelsTried r htracks hknows
    refine ⟨fun channel => ?_,fun channel hmem => ?_⟩
    · refine visit_keeps (P := fun r => r.Tracks channel) ?_ rest index channelsTried r
        (htracks channel)
      exact fun r other h => h.record w other false now
    · refine visit_keeps (P := fun r => r.Knows channel) ?_ rest index channelsTried r
        (hknows channel hmem)
      exact fun r other h => h.record w other false now
  cases e with
  | dispatch w available now =>
    unfold step at hstep
    dsimp only at hstep
    split at hstep
    · cases hstep
      exact hvisit _ _ _ _ _ _ _ htracks hknows
    · cases hstep
  | answer w ok available now =>
    unfold step at hstep
    dsimp only at hstep
    split at hstep
    · rename_i index channel channelsTried htask
      have htracks' := fun other => (htracks other).record w channel ok now
      have hknows' := fun other hmem => (hknows other hmem).record w channel ok now
      split at hstep
      · cases hstep
        exact ⟨htracks',hknows'⟩
      · cases hstep
        exact hvisit _ _ _ _ _ _ _ htracks' hknows'
    · cases hstep
  | addChannel channel =>
    cases hstep
    refine ⟨fun other => (htracks other).add channel,fun other hmem => ?_⟩
    rcases List.mem_append.mp hmem with hmem | hmem
    · exact (hknows other hmem).add channel
    · rw [List.mem_singleton.mp hmem]
      exact s.records.knows_add channel

/-- In every run, whatever is dispatched at once and added meanwhile, every channel has a record
that tells exactly what it has answered since it was added last: its successes and failures, those
behind its last success, the times of the last ones, and the status that they mean. -/
theorem health_tells_answers (channels : List String) {s : System}
    (h : Reaches step (fun _ _ => True) (System.new channels) s) {channel : String}
    (hmem : channel∈s.channels) :
    ∃ answers health,answersOf channel s.records.log=some answers ∧
      s.records.health.get? channel=some health ∧ Tells channel answers health := by
  obtain ⟨htracks,hknows⟩ := h.invariant (recorded_new channels)
    fun _ _ _ _ hrecorded _ hstep => recorded_step hrecorded hstep
  obtain ⟨answers,hanswers⟩ := Option.isSome_iff_exists.mp (hknows channel hmem)
  have htracked := htracks channel
  unfold Records.Tracks at htracked
  rw [hanswers] at htracked
  obtain ⟨health,hhealth,htells⟩ := htracked
  exact ⟨answers,health,hanswers,hhealth,htells⟩

/-- What the first of two channels has answered. -/
theorem health_tells_answers_first :
    ∃ answers health,answersOf "telegram" secondSends.records.log=some answers ∧
      secondSends.records.health.get? "telegram"=some health ∧ Tells "telegram" answers health :=
  health_tells_answers ["telegram","console"] (reaches_secondSends fun _ _ => trivial)
    List.mem_cons_self

end Records

end Aqts.NotificationRouter
