import Aqts.DocumentStore
import Aqts.IsoTimestamps
import Mathlib.Data.List.Sort

/-!
# The alert manager

`core.notification.alert_manager`: alerts, their documents, and the operations
of `AlertManager` over a collection of documents or, without one, over the list
of alerts in memory. Over a collection every operation is made of single
commands, named here, so that runs with interleaved commands use the same ones.
The router, the parser of timestamps and the order in which the collection sorts
equal keys are parameters.
-/

namespace Aqts.AlertManager

open DocumentStore IsoTimestamps

/-- `AlertType`. -/
inductive AlertType
  /-- `DAILY_REPORT`. -/
  | dailyReport
  /-- `WEEKLY_REPORT`. -/
  | weeklyReport
  /-- `MONTHLY_REPORT`. -/
  | monthlyReport
  /-- `EMERGENCY_REBALANCING`. -/
  | emergencyRebalancing
  /-- `SYSTEM_ERROR`. -/
  | systemError
  deriving DecidableEq

/-- `AlertType.value`. -/
def AlertType.value : AlertType→String
  | .dailyReport => "DAILY_REPORT"
  | .weeklyReport => "WEEKLY_REPORT"
  | .monthlyReport => "MONTHLY_REPORT"
  | .emergencyRebalancing => "EMERGENCY_REBALANCING"
  | .systemError => "SYSTEM_ERROR"

/-- `AlertType(value)`, unless it raises. -/
def AlertType.ofValue (value : String) : Option AlertType :=
  [dailyReport,weeklyReport,monthlyReport,emergencyRebalancing,systemError].find?
    fun t => t.value=value

/-- `AlertLevel`. -/
inductive AlertLevel
  /-- `INFO`. -/
  | info
  /-- `WARNING`. -/
  | warning
  /-- `ERROR`. -/
  | error
  /-- `CRITICAL`. -/
  | critical
  deriving DecidableEq

/-- `AlertLevel.value`. -/
def AlertLevel.value : AlertLevel→String
  | .info => "INFO"
  | .warning => "WARNING"
  | .error => "ERROR"
  | .critical => "CRITICAL"

/-- `AlertLevel(value)`, unless it raises. -/
def AlertLevel.ofValue (value : String) : Option AlertLevel :=
  [info,warning,error,critical].find? fun l => l.value=value

/-- `AlertStatus`. -/
inductive AlertStatus
  /-- `PENDING`. -/
  | pending
  /-- `SENDING`. -/
  | sending
  /-- `SENT`. -/
  | sent
  /-- `FAILED`. -/
  | failed
  /-- `DEAD`. -/
  | dead
  /-- `READ`. -/
  | read
  deriving DecidableEq

/-- `metadata`, by its keys. -/
abbrev Metadata := List (String×String)

/-- `Alert`. -/
structure Alert where
  /-- `alert_type`. -/
  alertType : AlertType
  /-- `level`. -/
  level : AlertLevel
  /-- `title`. -/
  title : String
  /-- `message`. -/
  message : String
  /-- `id`. -/
  id : String
  /-- `status`. -/
  status : AlertStatus := .pending
  /-- `created_at`. -/
  createdAt : Datetime
  /-- `sent_at`. -/
  sentAt : Option Datetime := none
  /-- `read_at`. -/
  readAt : Option Datetime := none
  /-- `metadata`. -/
  metadata : Metadata := []
  /-- `send_attempts`. -/
  sendAttempts : ℤ := 0
  /-- `last_send_error`. -/
  lastSendError : Option String := none
  /-- `last_send_attempt_at`. -/
  lastSendAttemptAt : Option Datetime := none
  /-- `last_send_status_code`. -/
  lastSendStatusCode : Option ℤ := none
  deriving DecidableEq

/-- A stored document. A field that is missing or null is `none`; `level` keeps
the two apart, and an unknown `status` is `none`. -/
structure AlertDoc where
  /-- `id`. -/
  id : Option String := none
  /-- `alert_type`. -/
  alertType : Option String := none
  /-- `level`, missing or null or a text. -/
  level : Option (Option String) := none
  /-- `title`. -/
  title : Option String := none
  /-- `message`. -/
  message : Option String := none
  /-- `status`. -/
  status : Option AlertStatus := none
  /-- `created_at`. -/
  createdAt : Option String := none
  /-- `sent_at`. -/
  sentAt : Option String := none
  /-- `read_at`. -/
  readAt : Option String := none
  /-- `metadata`. -/
  metadata : Option Metadata := none
  /-- `send_attempts`. -/
  sendAttempts : Option ℤ := none
  /-- `last_send_error`. -/
  lastSendError : Option String := none
  /-- `last_send_attempt_at`. -/
  lastSendAttemptAt : Option String := none
  /-- `last_send_status_code`. -/
  lastSendStatusCode : Option ℤ := none
  deriving DecidableEq

/-- `to_dict`. -/
def Alert.toDict (a : Alert) : AlertDoc where
  id := some a.id
  alertType := some a.alertType.value
  level := some (some a.level.value)
  title := some a.title
  message := some a.message
  status := some a.status
  createdAt := some a.createdAt.isoformat
  sentAt := a.sentAt.map Datetime.isoformat
  readAt := a.readAt.map Datetime.isoformat
  metadata := some a.metadata
  sendAttempts := some a.sendAttempts
  lastSendError := a.lastSendError
  lastSendAttemptAt := a.lastSendAttemptAt.map Datetime.isoformat
  lastSendStatusCode := a.lastSendStatusCode

/-- The readings of the clock within one operation. -/
structure Readings where
  /-- The first. -/
  now : Datetime
  /-- The next ones; the last reading stays. -/
  later : List Datetime := []
  deriving DecidableEq

/-- A reading by its number. -/
def Readings.reading (r : Readings) : ℕ→Datetime
  | 0 => r.now
  | n+1 => r.later.getD n (r.later.getLastD r.now)

/-- `MAX_ALERT_ERROR_LEN`. -/
def maxAlertErrorLen : ℕ := 500

/-- `error[:MAX_ALERT_ERROR_LEN] if error else ""`. -/
def truncatedError (error : String) : String := String.ofList (error.toList.take maxAlertErrorLen)

/-- The status after a failed attempt. -/
def retryStatus (attempts maxAttempts : ℤ) : AlertStatus :=
  if maxAttempts≤attempts then .dead else .failed

section Commands

variable (alertId : String)

/-- The update of `mark_alert_read`. -/
def readCommand (now : Datetime) : Update AlertDoc where
  filter d := d.id=some alertId
  set d := {d with status := some .read,readAt := some now.isoformat}

/-- The update of `mark_all_read`. -/
def readAllCommand (now : Datetime) : Update AlertDoc where
  filter d := d.status≠some .read
  set d := {d with status := some .read,readAt := some now.isoformat}

/-- The update of `save_alert`. -/
def saveCommand (alert : Alert) : Update AlertDoc where
  filter d := d.id=some alert.id
  set _ := alert.toDict

/-- The update of `claim_for_sending`. -/
def claimCommand (now : Datetime) : Update AlertDoc where
  filter d := d.id=some alertId ∧ d.status=some .pending
  set d := {d with
    status := some .sending
    lastSendAttemptAt := some now.isoformat
    sendAttempts := some (d.sendAttempts.getD 0+1)}

/-- The update of `mark_sent_by_id`. -/
def sentCommand (now : Datetime) : Update AlertDoc where
  filter d := d.id=some alertId ∧ d.status=some .sending
  set d := {d with status := some .sent,sentAt := some now.isoformat,lastSendError := none}

/-- The update of `mark_failed_with_retry`. -/
def failedCommand (newStatus : AlertStatus) (error : String) (statusCode : Option ℤ)
    (now : Datetime) : Update AlertDoc where
  filter d := d.id=some alertId
  set d := {d with
    status := some newStatus
    lastSendError := some (truncatedError error)
    lastSendStatusCode := statusCode
    lastSendAttemptAt := some now.isoformat}

/-- The update of `requeue_failed_to_pending`. -/
def requeueCommand : Update AlertDoc where
  filter d := d.id=some alertId ∧ d.status=some .failed
  set d := {d with status := some .pending}

/-- What the loops of the operations over the alerts in memory select and change:
`mark_alert_read`. -/
def readMemory (now : Datetime) : Update Alert where
  filter a := a.id=alertId
  set a := {a with status := .read,readAt := some now}

/-- `claim_for_sending` in memory. -/
def claimMemory (now : Datetime) : Update Alert where
  filter a := a.id=alertId ∧ a.status=.pending
  set a := {a with
    status := .sending
    sendAttempts := a.sendAttempts+1
    lastSendAttemptAt := some now}

/-- `mark_sent_by_id` in memory. -/
def sentMemory (now : Datetime) : Update Alert where
  filter a := a.id=alertId ∧ a.status=.sending
  set a := {a with status := .sent,sentAt := some now,lastSendError := none}

/-- `mark_failed_with_retry` in memory. -/
def failedMemory (newStatus : AlertStatus) (error : String) (statusCode : Option ℤ)
    (now : Datetime) : Update Alert where
  filter a := a.id=alertId
  set a := {a with
    status := newStatus
    lastSendError := some (truncatedError error)
    lastSendStatusCode := statusCode
    lastSendAttemptAt := some now}

/-- `requeue_failed_to_pending` in memory. -/
def requeueMemory : Update Alert where
  filter a := a.id=alertId ∧ a.status=.failed
  set a := {a with status := .pending}

end Commands

/-- The loop of `mark_all_read` over the alerts in memory, which reads the clock
for every alert that it marks. -/
def readAllMemory (r : Readings) : ℕ→List Alert→List Alert
  | _,[] => []
  | n,a::alerts =>
    if a.status≠.read then
      {a with status := .read,readAt := some (r.reading n)}::readAllMemory r (n+1) alerts
    else a::readAllMemory r n alerts

/-- What `datetime.fromisoformat` makes of a text. -/
inductive Parsed
  /-- It raises. -/
  | invalid
  /-- A time without a zone. -/
  | naive
  /-- A point of time, in microseconds. -/
  | aware (micros : ℤ)
  deriving DecidableEq

/-- `RETRY_BACKOFF_SECONDS`, with the last value for any other key. -/
def backoffSeconds (attempts : ℤ) : ℤ :=
  if attempts=1 then 60
  else if attempts=2 then 300
  else 900

/-- The difference of a time with a zone and one without raises. -/
inductive TypeError
  /-- `can't subtract offset-naive and offset-aware datetimes`. -/
  | offsetNaive
  deriving DecidableEq

/-- `_is_ready`. -/
def isReady (fromisoformat : String→Parsed) (current : Datetime) (maxAttempts : ℤ) (d : AlertDoc) :
    Except TypeError Bool :=
  let attempts := d.sendAttempts.getD 0
  if ¬(0<attempts ∧ attempts< maxAttempts) then .ok false
  else
    match d.lastSendAttemptAt with
    | none => .ok true
    | some last =>
      if last="" then .ok true
      else
        match fromisoformat last with
        | .invalid => .ok true
        | .naive => .error .offsetNaive
        | .aware micros => .ok (backoffSeconds attempts*1000000≤ current.micros-micros)

/-- The documents of a list that are ready. -/
def readyDocs (ready : AlertDoc→Except TypeError Bool) :
    List AlertDoc→Except TypeError (List AlertDoc)
  | [] => .ok []
  | d::docs =>
    match ready d with
    | .error error => .error error
    | .ok keep =>
      match readyDocs ready docs with
      | .error error => .error error
      | .ok rest => .ok (if keep=true then d::rest else rest)

/-- A null comes before every text. -/
def sortsBefore : Option String→Option String→Prop
  | none,_ => True
  | some _,none => False
  | some a,some b => a≤b

instance : DecidableRel sortsBefore
  | none,_ => .isTrue trivial
  | some _,none => .isFalse id
  | some a,some b => inferInstanceAs (Decidable (a≤b))

/-- Any two keys are in some order. -/
theorem sortsBefore_total : ∀ a b,sortsBefore a b ∨ sortsBefore b a
  | none,_ => .inl trivial
  | some _,none => .inr trivial
  | some a,some b => le_total a b

/-- The order of the keys is transitive. -/
theorem sortsBefore_trans : ∀ a b c,sortsBefore a b→sortsBefore b c→sortsBefore a c
  | none,_,_,_,_ => trivial
  | some _,none,_,h,_ => h.elim
  | some _,some _,none,_,h => h.elim
  | some _,some _,some _,h,h' => le_trans h h'

/-- The order of two documents. -/
def keyBefore (a b : AlertDoc) : Prop := sortsBefore a.lastSendAttemptAt b.lastSendAttemptAt

instance : DecidableRel keyBefore := fun _ _ => inferInstanceAs (Decidable (sortsBefore _ _))

instance : Std.Total keyBefore := ⟨fun _ _ => sortsBefore_total _ _⟩

instance : IsTrans AlertDoc keyBefore := ⟨fun _ _ _ => sortsBefore_trans _ _ _⟩

/-- `sort("last_send_attempt_at", 1)`: some order of the documents in which the
keys ascend. Documents with equal keys come in any order. -/
structure Sorter where
  /-- The sorted documents. -/
  sort : List AlertDoc→List AlertDoc
  /-- They are the same documents. -/
  perm : ∀ docs,(sort docs).Perm docs
  /-- The keys ascend. -/
  sorted : ∀ docs,(sort docs).Pairwise keyBefore

/-- A collection that keeps documents with equal keys in their order. -/
def stableSorter : Sorter where
  sort docs := docs.insertionSort keyBefore
  perm docs := List.perm_insertionSort keyBefore docs
  sorted docs := List.pairwise_insertionSort keyBefore docs

/-- `limit(n)` of a cursor: zero is no limit, and a negative number is one batch
of as many documents. -/
def cursorLimit (limit : ℤ) (docs : List AlertDoc) : List AlertDoc :=
  if limit=0 then docs else docs.take limit.natAbs

/-- `alerts[:limit]`. -/
def sliceTo (limit : ℤ) (alerts : List Alert) : List Alert :=
  if 0≤limit then alerts.take limit.toNat else alerts.take (alerts.length-limit.natAbs)

/-- The filter of `find_retriable_alerts`. -/
def isRetriable (maxAttempts : ℤ) (d : AlertDoc) : Bool :=
  d.status=some .failed ∧ ∃ n∈d.sendAttempts,n< maxAttempts ∧ 0<n

/-- The candidates in memory. -/
def isCandidate (maxAttempts : ℤ) (a : Alert) : Bool :=
  a.status=.failed ∧ 0<a.sendAttempts ∧ a.sendAttempts< maxAttempts

/-- Key of the sort in memory. -/
def candidateKey (a : Alert) : ℕ := (a.lastSendAttemptAt.getD .min).key

/-- What `_alert_from_doc` rebuilds for the router, without the times and the
metadata. -/
structure Rebuilt where
  /-- `alert_type`. -/
  alertType : AlertType
  /-- `level`. -/
  level : AlertLevel
  /-- `title`. -/
  title : String
  /-- `message`. -/
  message : String
  /-- `id`. -/
  id : Option String
  /-- `status`. -/
  status : Option AlertStatus
  /-- `send_attempts`. -/
  sendAttempts : ℤ
  /-- `last_send_error`. -/
  lastSendError : Option String
  /-- `last_send_status_code`. -/
  lastSendStatusCode : Option ℤ
  deriving DecidableEq

/-- `AlertLevel(doc.get("level", "INFO"))`, unless it raises. -/
def levelOf : Option (Option String)→Option AlertLevel
  | none => some .info
  | some none => none
  | some (some value) => AlertLevel.ofValue value

/-- `_alert_from_doc`. -/
def alertFromDoc (d : AlertDoc) : Option Rebuilt :=
  match d.alertType.bind AlertType.ofValue,levelOf d.level with
  | some alertType,some level =>
    some {
      alertType := alertType
      level := level
      title := d.title.getD ""
      message := d.message.getD ""
      id := d.id
      status := d.status
      sendAttempts := d.sendAttempts.getD 0
      lastSendError := d.lastSendError
      lastSendStatusCode := d.lastSendStatusCode }
  | _,_ => none

/-- How one delivery attempt ends. -/
inductive Delivery
  /-- A channel delivered the alert. -/
  | success
  /-- Every channel that was tried failed. -/
  | failure (channelsTried : List String)
  /-- The attempt raised. -/
  | raised (error : String)
  deriving DecidableEq

/-- `f"all channels failed: {channels_tried}"`. -/
def allChannelsFailed (channelsTried : List String) : String :=
  "all channels failed: ["++", ".intercalate (channelsTried.map fun c => "'"++c++"'")++"]"

/-- `AlertManager`. -/
structure Manager where
  /-- `_collection`. -/
  collection : Option (List AlertDoc)
  /-- `_in_memory_alerts`. -/
  inMemoryAlerts : List Alert
  deriving DecidableEq

namespace Manager

variable (m : Manager) (r : Readings) (alertId : String)

/-- `create_alert`, with the identifier that it draws. -/
def createAlert (alertType : AlertType) (level : AlertLevel) (title message : String)
    (metadata : Metadata) : Alert×Manager :=
  let alert : Alert := {
    alertType := alertType
    level := level
    title := if title="" then "["++alertType.value++"]" else title
    message := message
    id := alertId
    createdAt := r.now
    metadata := metadata }
  (alert,{m with inMemoryAlerts := m.inMemoryAlerts++[alert]})

/-- `save_alert`. -/
def saveAlert (alert : Alert) : Manager :=
  match m.collection with
  | some docs => {m with collection := some ((saveCommand alert).upsert alert.toDict docs)}
  | none => m

/-- `get_alert_by_id`. -/
def getAlertById : Option AlertDoc :=
  match m.collection with
  | some docs => docs.find? fun d => d.id=some alertId
  | none => (m.inMemoryAlerts.find? fun a => a.id=alertId).map Alert.toDict

/-- `mark_alert_read`. -/
def markAlertRead : Bool×Manager :=
  match m.collection with
  | some docs =>
    let c := readCommand alertId r.now
    (decide (0< c.modifiedOne docs),{m with collection := some (c.one docs)})
  | none =>
    let c := readMemory alertId r.now
    (c.matched m.inMemoryAlerts,{m with inMemoryAlerts := c.one m.inMemoryAlerts})

/-- `mark_all_read`. -/
def markAllRead : ℕ×Manager :=
  match m.collection with
  | some docs =>
    let c := readAllCommand r.now
    (c.modifiedMany docs,{m with collection := some (c.many docs)})
  | none =>
    (m.inMemoryAlerts.countP fun a => a.status≠.read,
      {m with inMemoryAlerts := readAllMemory r 0 m.inMemoryAlerts})

/-- `claim_for_sending`. -/
def claimForSending : Bool×Manager :=
  match m.collection with
  | some docs =>
    let c := claimCommand alertId r.now
    (decide (c.modifiedOne docs=1),{m with collection := some (c.one docs)})
  | none =>
    let c := claimMemory alertId (r.reading 1)
    (c.matched m.inMemoryAlerts,{m with inMemoryAlerts := c.one m.inMemoryAlerts})

/-- `mark_sent_by_id`. -/
def markSentById : Bool×Manager :=
  match m.collection with
  | some docs =>
    let c := sentCommand alertId r.now
    (decide (c.modifiedOne docs=1),{m with collection := some (c.one docs)})
  | none =>
    let c := sentMemory alertId r.now
    (c.matched m.inMemoryAlerts,{m with inMemoryAlerts := c.one m.inMemoryAlerts})

/-- `mark_failed_with_retry`. -/
def markFailedWithRetry (error : String) (statusCode : Option ℤ) (maxAttempts : ℤ) :
    AlertStatus×Manager :=
  match m.collection with
  | some docs =>
    match docs.find? fun d => d.id=some alertId with
    | none => (.failed,m)
    | some d =>
      let newStatus := retryStatus (d.sendAttempts.getD 0) maxAttempts
      (newStatus,{m with
        collection := some ((failedCommand alertId newStatus error statusCode r.now).one docs)})
  | none =>
    match m.inMemoryAlerts.find? fun a => a.id=alertId with
    | none => (.failed,m)
    | some a =>
      let newStatus := retryStatus a.sendAttempts maxAttempts
      (newStatus,{m with
        inMemoryAlerts := (failedMemory alertId newStatus error statusCode (r.reading 1)).one
          m.inMemoryAlerts})

/-- `requeue_failed_to_pending`. -/
def requeueFailedToPending : Bool×Manager :=
  match m.collection with
  | some docs =>
    let c := requeueCommand alertId
    (decide (c.modifiedOne docs=1),{m with collection := some (c.one docs)})
  | none =>
    let c := requeueMemory alertId
    (c.matched m.inMemoryAlerts,{m with inMemoryAlerts := c.one m.inMemoryAlerts})

/-- `find_retriable_alerts`. -/
def findRetriableAlerts (fromisoformat : String→Parsed) (sorter : Sorter) (now : Option Datetime)
    (maxAttempts limit : ℤ) : Except TypeError (List AlertDoc) :=
  let ready := isReady fromisoformat (now.getD r.now) maxAttempts
  match m.collection with
  | some docs => readyDocs ready (cursorLimit limit (sorter.sort (docs.filter (isRetriable maxAttempts))))
  | none =>
    let candidates := (m.inMemoryAlerts.filter (isCandidate maxAttempts)).insertionSort
      fun a b => candidateKey a≤ candidateKey b
    readyDocs ready ((sliceTo limit candidates).map Alert.toDict)

end Manager

/-- Noon in Seoul and some seconds. -/
def noon (second : Fin 60) : Datetime :=
  ⟨2026,4,13,3,0,second,0,by decide,⟨by decide,by decide,second.isLt,by decide⟩⟩

/-- The alert of an outage. -/
def outage : Alert where
  alertType := .systemError
  level := .error
  title := "KIS"
  message := "down"
  id := "a1"
  createdAt := noon 0

end Aqts.AlertManager
