import Aqts.AlertManager
import Aqts.GuardedRuns

/-!
# Alerts in memory and alerts in a collection

One manager without a collection and one with a collection, given the same
operations with the same readings of the clock, one after the other. The
documents of the second are those of the alerts of the first, field by field,
as long as no operation meets one of three differences: a loop in memory that
reads the clock again, an update that finds nothing to change where the loop
finds the alert, and a cursor that sorts equal keys or limits in its own way.
-/

namespace Aqts.AlertManager

open GuardedRuns DocumentStore IsoTimestamps

/-- Operations. -/
inductive Operation
  /-- `create_alert` and `save_alert`. -/
  | create (alertId : String) (alertType : AlertType) (level : AlertLevel) (title message : String)
      (metadata : Metadata)
  /-- `claim_for_sending`. -/
  | claim (alertId : String)
  /-- `mark_sent_by_id`. -/
  | markSent (alertId : String)
  /-- `mark_failed_with_retry`. -/
  | markFailed (alertId error : String) (statusCode : Option ℤ) (maxAttempts : ℤ)
  /-- `requeue_failed_to_pending`. -/
  | requeue (alertId : String)
  /-- `mark_alert_read`. -/
  | markRead (alertId : String)
  /-- `mark_all_read`. -/
  | markAllRead
  /-- `find_retriable_alerts`, with the order in which a cursor would sort. -/
  | findRetriable (sorter : Sorter) (now : Option Datetime) (maxAttempts limit : ℤ)

/-- Results. -/
inductive Answer
  /-- A new alert. -/
  | created (alert : Alert)
  /-- A flag. -/
  | flag (b : Bool)
  /-- A number of alerts. -/
  | count (n : ℕ)
  /-- A status. -/
  | status (status : AlertStatus)
  /-- Documents, or an exception. -/
  | documents (docs : Except TypeError (List AlertDoc))

/-- An operation of a manager. -/
def Manager.perform (fromisoformat : String→Parsed) (m : Manager) (r : Readings) :
    Operation→Answer×Manager
  | .create alertId alertType level title message metadata =>
    let created := m.createAlert r alertId alertType level title message metadata
    (.created created.1,created.2.saveAlert created.1)
  | .claim alertId =>
    let p := m.claimForSending r alertId
    (.flag p.1,p.2)
  | .markSent alertId =>
    let p := m.markSentById r alertId
    (.flag p.1,p.2)
  | .markFailed alertId error statusCode maxAttempts =>
    let p := m.markFailedWithRetry r alertId error statusCode maxAttempts
    (.status p.1,p.2)
  | .requeue alertId =>
    let p := m.requeueFailedToPending alertId
    (.flag p.1,p.2)
  | .markRead alertId =>
    let p := m.markAlertRead r alertId
    (.flag p.1,p.2)
  | .markAllRead =>
    let p := m.markAllRead r
    (.count p.1,p.2)
  | .findRetriable sorter now maxAttempts limit =>
    (.documents (m.findRetriableAlerts r fromisoformat sorter now maxAttempts limit),m)

/-- The two managers, with the results that they gave. -/
structure Stores where
  /-- Without a collection. -/
  memory : Manager
  /-- With a collection. -/
  stored : Manager
  /-- Results, the last one first. -/
  answers : List (Answer×Answer)

/-- Two managers without alerts. -/
def Stores.start : Stores := ⟨⟨none,[]⟩,⟨some [],[]⟩,[]⟩

/-- One operation, given to both. A new alert has a new identifier. -/
def storesStep (fromisoformat : String→Parsed) (s : Stores) (e : Readings×Operation) : Option Stores :=
  let next : Stores := {
    memory := (s.memory.perform fromisoformat e.1 e.2).2
    stored := (s.stored.perform fromisoformat e.1 e.2).2
    answers := ((s.memory.perform fromisoformat e.1 e.2).1,
      (s.stored.perform fromisoformat e.1 e.2).1)::s.answers }
  match e.2 with
  | .create alertId _ _ _ _ _ =>
    if ∀ a∈s.memory.inMemoryAlerts,a.id≠alertId then some next else none
  | _ => some next

/-- The clock shows one time during an operation. -/
def Readings.Steady (r : Readings) : Prop := ∀ t∈r.later,t=r.now

instance (r : Readings) : Decidable r.Steady := inferInstanceAs (Decidable (∀ t∈r.later,t=r.now))

/-- The candidates of a search in memory. -/
def Manager.candidates (m : Manager) (maxAttempts : ℤ) : List Alert :=
  m.inMemoryAlerts.filter (isCandidate maxAttempts)

/-- An operation that meets none of the differences: the clock stands still where a
loop reads it again; an alert that is marked read is not one that says so, with
the same time, already; and a search looks at candidates with different keys
under a positive limit, or no candidate is ready. -/
def SameStores (fromisoformat : String→Parsed) (s : Stores) (e : Readings×Operation) : Prop :=
  match e.2 with
  | .claim _ => e.1.Steady
  | .markFailed _ _ _ _ => e.1.Steady
  | .markAllRead => e.1.Steady
  | .markRead alertId =>
    ∀ a∈s.memory.inMemoryAlerts,a.id=alertId→¬(a.status=.read ∧ a.readAt=some e.1.now)
  | .findRetriable _ now maxAttempts limit =>
    0<limit ∧ ((s.memory.candidates maxAttempts).map candidateKey).Nodup ∨
      ∀ a∈s.memory.candidates maxAttempts,
        isReady fromisoformat (now.getD e.1.now) maxAttempts a.toDict=.ok false
  | _ => True

instance (fromisoformat : String→Parsed) (s : Stores) (e : Readings×Operation) :
    Decidable (SameStores fromisoformat s e) := by
  obtain ⟨r,op⟩ := e
  cases op <;> unfold SameStores <;> infer_instance

/-- The fields of an alert that its delivery changes. -/
def deliveryFields (d : AlertDoc) :
    Option AlertStatus×Option ℤ×Option String×Option String :=
  (d.status,d.sendAttempts,d.lastSendError,d.lastSendAttemptAt)

/-- Both managers gave the same results, and show the same of every alert. -/
def Agree (s : Stores) : Prop :=
  (∀ p∈s.answers,p.1=p.2) ∧
    ∀ alertId,(s.memory.getAlertById alertId).map deliveryFields=
      (s.stored.getAlertById alertId).map deliveryFields

/-- The documents of one manager are the alerts of the other. -/
structure Mirror (m m' : Manager) : Prop where
  /-- Without a collection. -/
  memory : m.collection=none
  /-- With one. -/
  stored : m'.collection=some (m.inMemoryAlerts.map Alert.toDict)

/-- A command and a loop select the same alerts and change them alike. -/
structure Mirrors (c : Update AlertDoc) (c' : Update Alert) : Prop where
  /-- The filters. -/
  filter : ∀ a : Alert,c.filter a.toDict=c'.filter a
  /-- The changes. -/
  set : ∀ a : Alert,c'.filter a=true→c.set a.toDict=(c'.set a).toDict
  /-- The status or another field of a selected document changes. -/
  visible : ∀ a : Alert,c'.filter a=true→c.set a.toDict≠a.toDict

variable {m m' : Manager} {r : Readings} {alertId : String}

/-- All readings of a clock that stands still. -/
theorem Readings.Steady.reading (h : r.Steady) (n : ℕ) : r.reading n=r.now := by
  cases n with
  | zero => rfl
  | succ n =>
    show r.later.getD n (r.later.getLastD r.now)=r.now
    rw [List.getD_eq_getElem?_getD]
    cases hn : r.later[n]? with
    | some t => exact h t (List.mem_of_getElem? hn)
    | none =>
      rw [Option.getD_none]
      cases hlast : r.later with
      | nil => rfl
      | cons t later =>
        rw [List.getLastD_cons]
        exact h _ (by rw [hlast]; exact List.getLastD_mem_cons)

/-- The command on the documents is the loop over the alerts. -/
theorem Mirrors.one {c : Update AlertDoc} {c' : Update Alert} (h : Mirrors c c') (l : List Alert) :
    c.one (l.map Alert.toDict)=(c'.one l).map Alert.toDict :=
  Update.one_map h.filter h.set l

/-- It reports a change where the loop finds an alert. -/
theorem Mirrors.modified {c : Update AlertDoc} {c' : Update Alert} (h : Mirrors c c')
    (l : List Alert) : c.modifiedOne (l.map Alert.toDict)=1 ↔ c'.matched l=true := by
  rw [Update.modifiedOne_eq_one,Update.matched_map h.filter]
  intro d hd hfilter
  obtain ⟨a,_,rfl⟩ := List.mem_map.mp hd
  exact h.visible a ((h.filter a).symm.trans hfilter)

/-- Two changes with different statuses are different. -/
theorem ne_of_status {d d' : AlertDoc} (h : d.status≠d'.status) : d≠d' :=
  fun heq => h (congrArg AlertDoc.status heq)

/-- The claims. -/
theorem mirrors_claim (alertId : String) (now : Datetime) :
    Mirrors (claimCommand alertId now) (claimMemory alertId now) where
  filter a := by simp [claimCommand,claimMemory,Alert.toDict]
  set _ _ := rfl
  visible a hfilter := by
    have hpending : a.status=.pending := (of_decide_eq_true hfilter).2
    refine ne_of_status ?_
    unfold Alert.toDict
    rw [hpending]
    exact nofun

/-- The marks of a delivery. -/
theorem mirrors_sent (alertId : String) (now : Datetime) :
    Mirrors (sentCommand alertId now) (sentMemory alertId now) where
  filter a := by simp [sentCommand,sentMemory,Alert.toDict]
  set _ _ := rfl
  visible a hfilter := by
    have hsending : a.status=.sending := (of_decide_eq_true hfilter).2
    refine ne_of_status ?_
    unfold Alert.toDict
    rw [hsending]
    exact nofun

/-- The requeues. -/
theorem mirrors_requeue (alertId : String) :
    Mirrors (requeueCommand alertId) (requeueMemory alertId) where
  filter a := by simp [requeueCommand,requeueMemory,Alert.toDict]
  set _ _ := rfl
  visible a hfilter := by
    have hfailed : a.status=.failed := (of_decide_eq_true hfilter).2
    refine ne_of_status ?_
    unfold Alert.toDict
    rw [hfailed]
    exact nofun

/-- A command that mirrors a loop gives its result and keeps the documents. -/
theorem Mirror.command (h : Mirror m m') {c : Update AlertDoc} {c' : Update Alert}
    (hc : Mirrors c c') :
    c'.matched m.inMemoryAlerts=decide (c.modifiedOne (m.inMemoryAlerts.map Alert.toDict)=1) ∧
      Mirror {m with inMemoryAlerts := c'.one m.inMemoryAlerts}
        {m' with collection := some (c.one (m.inMemoryAlerts.map Alert.toDict))} := by
  constructor
  · rw [Bool.eq_iff_iff,decide_eq_true_iff]
    exact (hc.modified m.inMemoryAlerts).symm
  · exact ⟨h.memory,congrArg some (hc.one m.inMemoryAlerts)⟩

/-- Claims agree when the clock stands still. -/
theorem Mirror.claim (h : Mirror m m') (hr : r.Steady) :
    (m.claimForSending r alertId).1=(m'.claimForSending r alertId).1 ∧
      Mirror (m.claimForSending r alertId).2 (m'.claimForSending r alertId).2 := by
  unfold Manager.claimForSending
  rw [h.memory,h.stored,hr.reading]
  have hcommand := h.command (mirrors_claim alertId r.now)
  rw [h.memory] at hcommand
  exact hcommand

/-- Marks of a delivery agree. -/
theorem Mirror.markSent (h : Mirror m m') :
    (m.markSentById r alertId).1=(m'.markSentById r alertId).1 ∧
      Mirror (m.markSentById r alertId).2 (m'.markSentById r alertId).2 := by
  unfold Manager.markSentById
  rw [h.memory,h.stored]
  have hcommand := h.command (mirrors_sent alertId r.now)
  rw [h.memory] at hcommand
  exact hcommand

/-- Requeues agree. -/
theorem Mirror.requeue (h : Mirror m m') :
    (m.requeueFailedToPending alertId).1=(m'.requeueFailedToPending alertId).1 ∧
      Mirror (m.requeueFailedToPending alertId).2 (m'.requeueFailedToPending alertId).2 := by
  unfold Manager.requeueFailedToPending
  rw [h.memory,h.stored]
  have hcommand := h.command (mirrors_requeue alertId)
  rw [h.memory] at hcommand
  exact hcommand

/-- A search for an identifier finds the document of the alert. -/
theorem find_toDict (alertId : String) (l : List Alert) :
    (l.map Alert.toDict).find? (fun d => d.id=some alertId)=
      (l.find? fun a => a.id=alertId).map Alert.toDict := by
  rw [List.find?_map]
  congr 2
  funext a
  simp [Alert.toDict]

/-- Failures agree when the clock stands still. -/
theorem Mirror.markFailed (h : Mirror m m') (hr : r.Steady) (error : String)
    (statusCode : Option ℤ) (maxAttempts : ℤ) :
    (m.markFailedWithRetry r alertId error statusCode maxAttempts).1=
        (m'.markFailedWithRetry r alertId error statusCode maxAttempts).1 ∧
      Mirror (m.markFailedWithRetry r alertId error statusCode maxAttempts).2
        (m'.markFailedWithRetry r alertId error statusCode maxAttempts).2 := by
  unfold Manager.markFailedWithRetry
  rw [h.memory,h.stored]
  dsimp only
  rw [find_toDict,hr.reading]
  cases m.inMemoryAlerts.find? fun a => a.id=alertId with
  | none => exact ⟨rfl,h⟩
  | some a =>
    refine ⟨rfl,rfl,congrArg some ?_⟩
    apply Update.one_map
    · intro a
      simp [failedCommand,failedMemory,Alert.toDict]
    · intro a _
      rfl

/-- A mark of an alert as read agrees, unless the alert says so with this time. -/
theorem Mirror.markRead (h : Mirror m m')
    (hnew : ∀ a∈m.inMemoryAlerts,a.id=alertId→¬(a.status=.read ∧ a.readAt=some r.now)) :
    (m.markAlertRead r alertId).1=(m'.markAlertRead r alertId).1 ∧
      Mirror (m.markAlertRead r alertId).2 (m'.markAlertRead r alertId).2 := by
  have hfilter : ∀ a : Alert,(readCommand alertId r.now).filter a.toDict=
      (readMemory alertId r.now).filter a := by
    intro a
    simp [readCommand,readMemory,Alert.toDict]
  unfold Manager.markAlertRead
  rw [h.memory,h.stored]
  refine ⟨?_,rfl,congrArg some (Update.one_map hfilter (fun _ _ => rfl) _)⟩
  dsimp only
  rw [Bool.eq_iff_iff,decide_eq_true_iff,Update.modifiedOne_pos,Update.modifiedOne_eq_one,
    Update.matched_map hfilter]
  intro d hd hselected heq
  obtain ⟨a,ha,rfl⟩ := List.mem_map.mp hd
  have hid : a.id=alertId := of_decide_eq_true ((hfilter a).symm.trans hselected)
  have hstatus : a.status=.read := (Option.some.inj (congrArg AlertDoc.status heq)).symm
  have htime : some r.now.isoformat=a.readAt.map Datetime.isoformat := congrArg AlertDoc.readAt heq
  obtain ⟨t,ht,hiso⟩ := Option.map_eq_some_iff.mp htime.symm
  exact hnew a ha hid ⟨hstatus,ht.trans (congrArg some (Datetime.isoformat_injective hiso))⟩

/-- The change that the loop over all alerts makes. -/
def readAllOf (now : Datetime) : Update Alert where
  filter a := a.status≠.read
  set a := {a with status := .read,readAt := some now}

/-- The loop under a clock that stands still. -/
theorem readAllMemory_steady (hr : r.Steady) (n : ℕ) (l : List Alert) :
    readAllMemory r n l=(readAllOf r.now).many l := by
  induction l generalizing n with
  | nil => rfl
  | cons a l ih =>
    have hmany : (readAllOf r.now).many (a::l)=
        (readAllOf r.now).onDoc a::(readAllOf r.now).many l := rfl
    unfold readAllMemory
    rw [hmany]
    by_cases hread : a.status≠.read
    · rw [if_pos hread,ih,hr.reading,Update.onDoc_pos (decide_eq_true hread)]
      rfl
    · have hskip : ¬(readAllOf r.now).filter a=true := fun h => hread (of_decide_eq_true h)
      rw [if_neg hread,ih,Update.onDoc_neg hskip]

/-- Marks of all alerts agree when the clock stands still. -/
theorem Mirror.markAllRead (h : Mirror m m') (hr : r.Steady) :
    (m.markAllRead r).1=(m'.markAllRead r).1 ∧ Mirror (m.markAllRead r).2 (m'.markAllRead r).2 := by
  have hfilter : ∀ a : Alert,(readAllCommand r.now).filter a.toDict=(readAllOf r.now).filter a := by
    intro a
    simp [readAllCommand,readAllOf,Alert.toDict]
  unfold Manager.markAllRead
  rw [h.memory,h.stored]
  dsimp only
  rw [readAllMemory_steady hr]
  refine ⟨?_,rfl,congrArg some (Update.many_map hfilter (fun _ _ => rfl) _)⟩
  rw [Update.modifiedMany_eq_countP,List.countP_map]
  · exact List.countP_congr fun a _ => by rw [Function.comp_apply,hfilter]; rfl
  · intro d _ hselected heq
    have hread : some AlertStatus.read=d.status := congrArg AlertDoc.status heq
    exact of_decide_eq_true hselected hread.symm

/-- A new alert agrees. -/
theorem Mirror.create (h : Mirror m m') (hnew : ∀ a∈m.inMemoryAlerts,a.id≠alertId)
    (alertType : AlertType) (level : AlertLevel) (title message : String) (metadata : Metadata) :
    (m.createAlert r alertId alertType level title message metadata).1=
        (m'.createAlert r alertId alertType level title message metadata).1 ∧
      Mirror
        ((m.createAlert r alertId alertType level title message metadata).2.saveAlert
          (m.createAlert r alertId alertType level title message metadata).1)
        ((m'.createAlert r alertId alertType level title message metadata).2.saveAlert
          (m'.createAlert r alertId alertType level title message metadata).1) := by
  refine ⟨rfl,?_⟩
  unfold Manager.createAlert Manager.saveAlert
  dsimp only
  rw [h.memory,h.stored]
  refine ⟨rfl,congrArg some ?_⟩
  have hnone : ∀ (alert : Alert),alert.id=alertId→
      (saveCommand alert).matched (m.inMemoryAlerts.map Alert.toDict)=false := by
    intro alert hid
    unfold Update.matched
    rw [List.any_eq_false]
    intro d hd hselected
    obtain ⟨a,ha,rfl⟩ := List.mem_map.mp hd
    exact hnew a ha ((Option.some.inj (of_decide_eq_true hselected)).trans hid)
  unfold Update.upsert
  rw [hnone _ rfl,if_neg Bool.false_ne_true,List.map_append]
  rfl

/-- The order of two keys in memory is the order of their texts. -/
theorem keyBefore_of_lt {a b : Alert} (h : candidateKey a< candidateKey b) :
    keyBefore a.toDict b.toDict ∧ ¬keyBefore b.toDict a.toDict := by
  unfold candidateKey at h
  unfold keyBefore Alert.toDict
  dsimp only
  cases ha : a.lastSendAttemptAt with
  | none =>
    rw [ha] at h
    cases hb : b.lastSendAttemptAt with
    | none =>
      rw [hb] at h
      exact absurd h (lt_irrefl _)
    | some t => exact ⟨trivial,id⟩
  | some s =>
    rw [ha] at h
    cases hb : b.lastSendAttemptAt with
    | none =>
      rw [hb] at h
      exact absurd h (not_lt.mpr s.min_key_le)
    | some t =>
      rw [hb] at h
      have htexts := Datetime.isoformat_lt h
      exact ⟨htexts.le,htexts.not_ge⟩

/-- With different keys, every cursor sorts the documents as the alerts are
sorted. -/
theorem sort_toDict (sorter : Sorter) {l : List Alert} (hkeys : (l.map candidateKey).Nodup) :
    sorter.sort (l.map Alert.toDict)=
      (l.insertionSort fun a b => candidateKey a≤ candidateKey b).map Alert.toDict := by
  have hperm := List.perm_insertionSort (fun a b => candidateKey a≤ candidateKey b) l
  have : Std.Total fun a b : Alert => candidateKey a≤ candidateKey b := ⟨fun _ _ => le_total _ _⟩
  have : IsTrans Alert fun a b => candidateKey a≤ candidateKey b := ⟨fun _ _ _ => le_trans⟩
  have hsorted := List.pairwise_insertionSort (fun a b => candidateKey a≤ candidateKey b) l
  have hdifferent : ((l.insertionSort fun a b => candidateKey a≤ candidateKey b).map
      candidateKey).Nodup := ((hperm.map candidateKey).nodup_iff).mpr hkeys
  have hascending : ((l.insertionSort fun a b => candidateKey a≤ candidateKey b).map
      Alert.toDict).Pairwise keyBefore := by
    rw [List.pairwise_map]
    refine (hsorted.and (List.pairwise_map.mp hdifferent)).imp ?_
    intro a b hab
    exact (keyBefore_of_lt (lt_of_le_of_ne hab.1 hab.2)).1
  refine List.Perm.eq_of_pairwise ?_ (sorter.sorted _) hascending
    ((sorter.perm _).trans (hperm.map Alert.toDict).symm)
  intro d e hd he hde hed
  obtain ⟨a,ha,rfl⟩ := List.mem_map.mp ((sorter.perm _).mem_iff.mp hd)
  obtain ⟨b,hb,rfl⟩ := List.mem_map.mp he
  obtain hlt | heq | hlt := lt_trichotomy (candidateKey a) (candidateKey b)
  · exact absurd hed (keyBefore_of_lt hlt).2
  · rw [List.inj_on_of_nodup_map hkeys ha (hperm.mem_iff.mp hb) heq]
  · exact absurd hde (keyBefore_of_lt hlt).2

/-- Nothing is found where nothing is ready. -/
theorem readyDocs_none {ready : AlertDoc→Except TypeError Bool} {docs : List AlertDoc}
    (h : ∀ d∈docs,ready d=.ok false) : readyDocs ready docs=.ok [] := by
  induction docs with
  | nil => rfl
  | cons d docs ih =>
    obtain ⟨hd,hrest⟩ := List.forall_mem_cons.mp h
    unfold readyDocs
    rw [hd,ih hrest]
    rfl

/-- The filter of a search selects the documents of the candidates. -/
theorem filter_toDict (maxAttempts : ℤ) :
    (m.inMemoryAlerts.map Alert.toDict).filter (isRetriable maxAttempts)=
      (m.candidates maxAttempts).map Alert.toDict := by
  rw [List.filter_map]
  congr 2
  funext a
  simp [isRetriable,isCandidate,Alert.toDict,and_comm]

/-- Searches agree under a positive limit over different keys, and where nothing is
ready. -/
theorem Mirror.findRetriable (h : Mirror m m') {fromisoformat : String→Parsed} (sorter : Sorter)
    {now : Option Datetime} {maxAttempts limit : ℤ}
    (hsame : 0<limit ∧ ((m.candidates maxAttempts).map candidateKey).Nodup ∨
      ∀ a∈m.candidates maxAttempts,
        isReady fromisoformat (now.getD r.now) maxAttempts a.toDict=.ok false) :
    m.findRetriableAlerts r fromisoformat sorter now maxAttempts limit=
      m'.findRetriableAlerts r fromisoformat sorter now maxAttempts limit := by
  unfold Manager.findRetriableAlerts
  rw [h.memory,h.stored]
  dsimp only
  rw [filter_toDict]
  obtain ⟨hlimit,hkeys⟩ | hnone := hsame
  · rw [sort_toDict sorter hkeys]
    unfold cursorLimit sliceTo
    rw [if_pos hlimit.le,if_neg hlimit.ne',List.map_take]
    congr 2
    omega
  · have hsliced : ∀ d∈(sliceTo limit ((m.candidates maxAttempts).insertionSort
        fun a b => candidateKey a≤ candidateKey b)).map Alert.toDict,
        isReady fromisoformat (now.getD r.now) maxAttempts d=.ok false := by
      intro d hd
      obtain ⟨a,ha,rfl⟩ := List.mem_map.mp hd
      apply hnone a
      apply (List.mem_insertionSort fun a b => candidateKey a≤ candidateKey b).mp
      unfold sliceTo at ha
      split at ha
      · exact List.mem_of_mem_take ha
      · exact List.mem_of_mem_take ha
    have hlimited : ∀ d∈cursorLimit limit (sorter.sort ((m.candidates maxAttempts).map Alert.toDict)),
        isReady fromisoformat (now.getD r.now) maxAttempts d=.ok false := by
      intro d hd
      have hmem : d∈sorter.sort ((m.candidates maxAttempts).map Alert.toDict) := by
        unfold cursorLimit at hd
        split at hd
        · exact hd
        · exact List.mem_of_mem_take hd
      obtain ⟨a,ha,rfl⟩ := List.mem_map.mp ((sorter.perm _).mem_iff.mp hmem)
      exact hnone a ha
    exact (readyDocs_none hsliced).trans (readyDocs_none hlimited).symm

/-- The two managers mirror each other and have given the same results. -/
structure Lockstep (s : Stores) : Prop where
  /-- The documents are those of the alerts. -/
  mirror : Mirror s.memory s.stored
  /-- Results. -/
  answers : ∀ p∈s.answers,p.1=p.2

/-- An operation that gives the same result keeps the managers together. -/
theorem Lockstep.next {s : Stores} (h : Lockstep s) {p q : Answer×Manager} (hanswer : p.1=q.1)
    (hmirror : Mirror p.2 q.2) : Lockstep ⟨p.2,q.2,(p.1,q.1)::s.answers⟩ :=
  ⟨hmirror,List.forall_mem_cons.mpr ⟨hanswer,h.answers⟩⟩

/-- An operation that meets none of the differences keeps the managers together. -/
theorem Lockstep.step {fromisoformat : String→Parsed} {s s' : Stores} {e : Readings×Operation}
    (h : Lockstep s) (hallowed : SameStores fromisoformat s e)
    (hstep : storesStep fromisoformat s e=some s') : Lockstep s' := by
  obtain ⟨r,op⟩ := e
  have hm := h.mirror
  cases op with
  | create alertId alertType level title message metadata =>
    unfold storesStep at hstep
    dsimp only at hstep
    by_cases hnew : ∀ a∈s.memory.inMemoryAlerts,a.id≠alertId
    · rw [if_pos hnew] at hstep
      cases hstep
      obtain ⟨hanswer,hmirror⟩ := hm.create (r := r) hnew alertType level title message metadata
      exact h.next (congrArg Answer.created hanswer) hmirror
    · rw [if_neg hnew] at hstep
      cases hstep
  | claim alertId =>
    cases hstep
    obtain ⟨hanswer,hmirror⟩ := hm.claim (r := r) hallowed
    exact h.next (congrArg Answer.flag hanswer) hmirror
  | markSent alertId =>
    cases hstep
    obtain ⟨hanswer,hmirror⟩ := hm.markSent (r := r)
    exact h.next (congrArg Answer.flag hanswer) hmirror
  | markFailed alertId error statusCode maxAttempts =>
    cases hstep
    obtain ⟨hanswer,hmirror⟩ := hm.markFailed (r := r) hallowed error statusCode maxAttempts
    exact h.next (congrArg Answer.status hanswer) hmirror
  | requeue alertId =>
    cases hstep
    obtain ⟨hanswer,hmirror⟩ := hm.requeue
    exact h.next (congrArg Answer.flag hanswer) hmirror
  | markRead alertId =>
    cases hstep
    obtain ⟨hanswer,hmirror⟩ := hm.markRead (r := r) hallowed
    exact h.next (congrArg Answer.flag hanswer) hmirror
  | markAllRead =>
    cases hstep
    obtain ⟨hanswer,hmirror⟩ := hm.markAllRead (r := r) hallowed
    exact h.next (congrArg Answer.count hanswer) hmirror
  | findRetriable sorter now maxAttempts limit =>
    cases hstep
    exact h.next (congrArg Answer.documents (hm.findRetriable (r := r) sorter hallowed)) hm

/-- In every sequence of operations that meet none of the differences, both
managers give the same results and show the same of every alert. -/
theorem stores_agree {fromisoformat : String→Parsed} {s : Stores}
    (hrun : Reaches (storesStep fromisoformat) (SameStores fromisoformat) .start s) : Agree s := by
  have hlockstep : Lockstep s := by
    refine hrun.invariant (P := Lockstep) ?_ ?_
    · exact ⟨⟨rfl,rfl⟩,fun _ h => (List.not_mem_nil h).elim⟩
    · intro s e s' _ hs hallowed hstep
      exact hs.step hallowed hstep
  refine ⟨hlockstep.answers,?_⟩
  intro alertId
  unfold Manager.getAlertById
  rw [hlockstep.mirror.memory,hlockstep.mirror.stored]
  dsimp only
  rw [find_toDict]

/-- An alert fails, is found and requeued, and is delivered and read. -/
theorem stores_agree_retry :
    ∃ s : Stores,s.answers.length=8 ∧
      (s.memory.getAlertById "a1").map AlertDoc.sendAttempts=some (some 2) ∧ Agree s := by
  obtain ⟨s,_,hq,hrun⟩ := play_ends (storesStep fun _ => .invalid) (SameStores fun _ => .invalid)
    .start (fun s => s.answers.length=8 ∧
      (s.memory.getAlertById "a1").map AlertDoc.sendAttempts=some (some 2))
    [(⟨noon 0,[]⟩,.create "a1" .systemError .error "" "down" []),(⟨noon 1,[]⟩,.claim "a1"),
      (⟨noon 2,[]⟩,.markFailed "a1" "down" none 3),
      (⟨noon 3,[]⟩,.findRetriable stableSorter none 3 100),(⟨noon 4,[]⟩,.requeue "a1"),
      (⟨noon 5,[]⟩,.claim "a1"),(⟨noon 6,[]⟩,.markSent "a1"),(⟨noon 7,[]⟩,.markRead "a1")]
    (by decide +kernel)
  exact ⟨s,hq.1,hq.2,stores_agree hrun⟩

/-- How many documents a search found. -/
def Answer.found : Answer→Option ℕ
  | .documents (.ok docs) => some docs.length
  | _ => none

/-- A search with the limit zero finds nothing in memory, and every ready document
in the collection. -/
theorem zero_limit_differs :
    ¬∀ s : Stores,Reaches (storesStep fun _ => .invalid) (fun _ _ => True) .start s→Agree s := by
  intro hall
  obtain ⟨s,_,⟨p,hp,hdiffer⟩,hrun⟩ := play_ends (storesStep fun _ => .invalid) (fun _ _ => True)
    .start (fun s => ∃ p∈s.answers,p.1.found≠p.2.found)
    [(⟨noon 0,[]⟩,.create "a1" .systemError .error "" "down" []),(⟨noon 1,[]⟩,.claim "a1"),
      (⟨noon 2,[]⟩,.markFailed "a1" "down" none 3),
      (⟨noon 3,[]⟩,.findRetriable stableSorter none 3 0)] (by decide +kernel)
  exact hdiffer (congrArg Answer.found ((hall s hrun).1 p hp))

end Aqts.AlertManager
