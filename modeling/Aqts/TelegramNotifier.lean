import Aqts.AlertStarvation

/-!
# Batches of pending alerts

`dispatch_pending_alerts` reads the newest pending alerts, so many at most, and leaves
those below its level pending. Such alerts stay the newest ones, so that an older alert
that passes the level is not read: a batch tries to send one exactly when one is among
those that are read, and otherwise nothing changes, however often it is repeated.
-/

namespace Aqts.AlertManager

open DocumentStore IsoTimestamps

/-- `ALERT_LEVEL_PRIORITY`. -/
def alertLevelPriority : AlertLevel→ℕ
  | .info => 0
  | .warning => 1
  | .error => 2
  | .critical => 3

/-- `FILTER_LEVEL_MAP`, with zero for any other key. -/
def filterLevelMap (alertLevel : String) : ℕ :=
  if alertLevel="ALL" then 0
  else if alertLevel="IMPORTANT" then 1
  else if alertLevel="ERROR" then 2
  else 0

/-- `_should_send`. -/
def shouldSend (alertLevel : String) (level : AlertLevel) : Bool :=
  decide (filterLevelMap alertLevel≤alertLevelPriority level)

/-- The level of a document; one that is missing or unknown is the lowest. -/
def batchLevel (d : AlertDoc) : AlertLevel := (levelOf d.level).getD .info

/-- The order of two documents, the newer one first. -/
def newerFirst (a b : AlertDoc) : Prop := sortsBefore b.createdAt a.createdAt

/-- `sort("created_at", -1)`: some order of the documents in which the times descend. -/
structure NewestSorter where
  /-- The sorted documents. -/
  sort : List AlertDoc→List AlertDoc
  /-- They are the same documents. -/
  perm : ∀ docs,(sort docs).Perm docs
  /-- The times descend. -/
  sorted : ∀ docs,(sort docs).Pairwise newerFirst

/-- What `get_alerts` looks for. -/
structure AlertQuery where
  /-- `alert_type`. -/
  alertType : Option AlertType := none
  /-- `level`. -/
  level : Option AlertLevel := none
  /-- `status`. -/
  status : Option AlertStatus := none

/-- The query of a collection. -/
def AlertQuery.ofDoc (query : AlertQuery) (d : AlertDoc) : Bool :=
  query.alertType.all (fun t => d.alertType=some t.value) &&
    query.level.all (fun l => d.level=some (some l.value)) &&
      query.status.all fun s => d.status=some s

/-- The comprehensions in memory. -/
def AlertQuery.ofAlert (query : AlertQuery) (a : Alert) : Bool :=
  query.alertType.all (fun t => a.alertType=t) && query.level.all (fun l => a.level=l) &&
    query.status.all fun s => a.status=s

/-- No filter is given. -/
def AlertQuery.isEmpty (query : AlertQuery) : Bool :=
  query.alertType.isNone && query.level.isNone && query.status.isNone

/-- `get_alerts`, which without a filter sorts the alerts in memory themselves. -/
def Manager.getAlerts (m : Manager) (sorter : NewestSorter) (limit offset : ℕ)
    (query : AlertQuery) : List AlertDoc×Manager :=
  match m.collection with
  | some docs => (cursorLimit limit ((sorter.sort (docs.filter query.ofDoc)).drop offset),m)
  | none =>
    let sorted := (m.inMemoryAlerts.filter query.ofAlert).insertionSort
      fun a b => b.createdAt.key≤a.createdAt.key
    (((sorted.drop offset).take limit).map Alert.toDict,
      if query.isEmpty=true then {m with inMemoryAlerts := sorted} else m)

/-- The query of the pending alerts. -/
def pendingQuery : AlertQuery := {status := some .pending}

/-- What one round of a batch meets outside: the clock, and the answer of `send_message`. -/
structure Outside where
  /-- The clock. -/
  readings : Readings
  /-- `send_message`. -/
  sendMessage : String→Bool

/-- The counts of a batch, and the documents whose messages were given to `send_message`. -/
structure Batch where
  /-- `sent`. -/
  sent : ℕ := 0
  /-- `failed`. -/
  failed : ℕ := 0
  /-- `filtered`. -/
  filtered : ℕ := 0
  /-- What it tried to send. -/
  attempted : List AlertDoc := []

/-- One round of `dispatch_pending_alerts`. -/
def dispatchOne (alertLevel : String) (outside : Outside) (p : Manager×Batch) (d : AlertDoc) :
    Manager×Batch :=
  if shouldSend alertLevel (batchLevel d)=false then (p.1,{p.2 with filtered := p.2.filtered+1})
  else
    let alertId := d.id.getD ""
    let claimed := p.1.claimForSending outside.readings alertId
    if claimed.1=false then (claimed.2,p.2)
    else
      let tried := {p.2 with attempted := p.2.attempted++[d]}
      let formatted := "<b>"++d.title.getD ""++"</b>\n\n"++d.message.getD ""
      if outside.sendMessage formatted=true then
        ((claimed.2.markSentById outside.readings alertId).2,{tried with sent := tried.sent+1})
      else
        ((claimed.2.markFailedWithRetry outside.readings alertId
          "Telegram batch send_message failed" none 3).2,{tried with failed := tried.failed+1})

/-- The loop of `dispatch_pending_alerts`. -/
def dispatchLoop (alertLevel : String) (outside : ℕ→Outside) :
    ℕ→List AlertDoc→Manager×Batch→Manager×Batch
  | _,[],p => p
  | n,d::docs,p =>
    dispatchLoop alertLevel outside (n+1) docs (dispatchOne alertLevel (outside n) p d)

/-- The pending alerts that a batch reads. -/
def Manager.pendingBatch (m : Manager) (sorter : NewestSorter) : List AlertDoc×Manager :=
  m.getAlerts sorter 100 0 pendingQuery

/-- `dispatch_pending_alerts`. -/
def Manager.dispatchPendingAlerts (m : Manager) (sorter : NewestSorter) (alertLevel : String)
    (outside : ℕ→Outside) : Manager×Batch :=
  let pending := m.pendingBatch sorter
  dispatchLoop alertLevel outside 0 pending.1 (pending.2,{})

/-- A pending alert of the level or a higher one. -/
def Sendable (alertLevel : String) (a : Alert) : Prop :=
  a.status=.pending ∧ shouldSend alertLevel a.level=true

/-- If an alert is there to be sent, the batch tries to send one. -/
def Progresses (m : Manager) (alerts : List Alert) (sorter : NewestSorter) (alertLevel : String)
    (outside : ℕ→Outside) : Prop :=
  (∃ a∈alerts,Sendable alertLevel a)→
    ∃ a∈alerts,Sendable alertLevel a ∧
      a.toDict∈(m.dispatchPendingAlerts sorter alertLevel outside).2.attempted

/-- A value names its level. -/
theorem ofValue_value (level : AlertLevel) : AlertLevel.ofValue level.value=some level := by
  cases level <;> decide

/-- The document of an alert has its level. -/
theorem batchLevel_toDict (a : Alert) : batchLevel a.toDict=a.level := by
  unfold batchLevel Alert.toDict
  dsimp only
  rw [levelOf,ofValue_value,Option.getD_some]

/-- The query selects the documents of the alerts that it selects. -/
theorem ofDoc_toDict (status : AlertStatus) (a : Alert) :
    (AlertQuery.ofDoc {status := some status} a.toDict)=decide (a.status=status) := by
  simp [AlertQuery.ofDoc,Alert.toDict]

variable {m : Manager} {alerts : List Alert} {sorter : NewestSorter} {alertLevel : String}
  {outside : ℕ→Outside}

/-- Reading the pending alerts leaves the manager. -/
theorem pendingBatch_same (m : Manager) (sorter : NewestSorter) : (m.pendingBatch sorter).2=m := by
  unfold Manager.pendingBatch Manager.getAlerts
  cases m.collection with
  | some docs => rfl
  | none => rfl

/-- What is read are documents of pending alerts. -/
theorem pendingBatch_pending (hkeeps : Keeps m alerts) {d : AlertDoc}
    (hd : d∈(m.pendingBatch sorter).1) : ∃ a∈alerts,a.status=.pending ∧ d=a.toDict := by
  unfold Manager.pendingBatch Manager.getAlerts at hd
  obtain hstored | ⟨hnone,hmemory⟩ := hkeeps
  · rw [hstored] at hd
    dsimp only at hd
    rw [List.drop_zero] at hd
    have hsorted : d∈sorter.sort ((alerts.map Alert.toDict).filter pendingQuery.ofDoc) := by
      unfold cursorLimit at hd
      split at hd
      · exact hd
      · exact List.mem_of_mem_take hd
    obtain ⟨hmem,hquery⟩ := List.mem_filter.mp ((sorter.perm _).mem_iff.mp hsorted)
    obtain ⟨a,ha,rfl⟩ := List.mem_map.mp hmem
    unfold pendingQuery at hquery
    rw [ofDoc_toDict] at hquery
    exact ⟨a,ha,of_decide_eq_true hquery,rfl⟩
  · rw [hnone,hmemory] at hd
    dsimp only at hd
    obtain ⟨a,ha,rfl⟩ := List.mem_map.mp hd
    have hsorted := List.mem_of_mem_drop (List.mem_of_mem_take ha)
    have hfilter := (List.mem_insertionSort _).mp hsorted
    obtain ⟨hmem,hquery⟩ := List.mem_filter.mp hfilter
    refine ⟨a,hmem,?_,rfl⟩
    simpa [AlertQuery.ofAlert,pendingQuery] using hquery

/-- A pending alert that is kept can be claimed. -/
theorem claim_kept (hkeeps : Keeps m alerts) {a : Alert} (ha : a∈alerts)
    (hpending : a.status=.pending) (r : Readings) : (m.claimForSending r a.id).1=true := by
  unfold Manager.claimForSending
  obtain hstored | ⟨hnone,hmemory⟩ := hkeeps
  · rw [hstored]
    dsimp only
    refine decide_eq_true (Update.modifiedOne_eq_one ?_ |>.mpr ?_)
    · intro d hd hfilter heq
      have hstatus : d.status=some .pending := (of_decide_eq_true hfilter).2
      have hsending := congrArg AlertDoc.status heq
      rw [hstatus] at hsending
      cases hsending
    · refine List.any_eq_true.mpr ⟨a.toDict,List.mem_map_of_mem ha,decide_eq_true ⟨rfl,?_⟩⟩
      exact congrArg some hpending
  · rw [hnone,hmemory]
    dsimp only
    exact List.any_eq_true.mpr ⟨a,ha,decide_eq_true ⟨rfl,hpending⟩⟩

/-- A document below the level is counted and left. -/
theorem dispatchOne_filtered (o : Outside) (p : Manager×Batch) {d : AlertDoc}
    (h : shouldSend alertLevel (batchLevel d)=false) :
    dispatchOne alertLevel o p d=(p.1,{p.2 with filtered := p.2.filtered+1}) := if_pos h

/-- What passes and is claimed is tried. -/
theorem dispatchOne_claimed {o : Outside} {p : Manager×Batch} {d : AlertDoc}
    (h : shouldSend alertLevel (batchLevel d)=true)
    (hclaim : (p.1.claimForSending o.readings (d.id.getD "")).1=true) :
    (dispatchOne alertLevel o p d).2.attempted=p.2.attempted++[d] := by
  have hsend : ¬shouldSend alertLevel (batchLevel d)=false := by
    rw [h]
    exact Bool.noConfusion
  have hclaimed : ¬(p.1.claimForSending o.readings (d.id.getD "")).1=false := by
    rw [hclaim]
    exact Bool.noConfusion
  unfold dispatchOne
  dsimp only
  rw [if_neg hsend,if_neg hclaimed]
  split
  · rfl
  · rfl

/-- One round tries the document or nothing. -/
theorem dispatchOne_attempted (o : Outside) (p : Manager×Batch) (d : AlertDoc) :
    (dispatchOne alertLevel o p d).2.attempted=p.2.attempted ∨
      (dispatchOne alertLevel o p d).2.attempted=p.2.attempted++[d] ∧
        shouldSend alertLevel (batchLevel d)=true := by
  by_cases hsend : shouldSend alertLevel (batchLevel d)=true
  · by_cases hclaim : (p.1.claimForSending o.readings (d.id.getD "")).1=true
    · exact .inr ⟨dispatchOne_claimed hsend hclaim,hsend⟩
    · have hpass : ¬shouldSend alertLevel (batchLevel d)=false := by
        rw [hsend]
        exact Bool.noConfusion
      refine .inl ?_
      unfold dispatchOne
      dsimp only
      rw [if_neg hpass,if_pos (Bool.not_eq_true _ ▸ hclaim)]
  · exact .inl (by rw [dispatchOne_filtered o p (Bool.not_eq_true _ ▸ hsend)])

/-- The loop adds documents that it walks over and that pass. -/
theorem dispatchLoop_attempted (alertLevel : String) (outside : ℕ→Outside) (n : ℕ)
    (docs : List AlertDoc) (p : Manager×Batch) :
    ∃ added,(dispatchLoop alertLevel outside n docs p).2.attempted=p.2.attempted++added ∧
      ∀ d∈added,d∈docs ∧ shouldSend alertLevel (batchLevel d)=true := by
  induction docs generalizing n p with
  | nil => exact ⟨[],(List.append_nil _).symm,by simp⟩
  | cons d rest ih =>
    obtain ⟨added,hadded,hall⟩ := ih (n+1) (dispatchOne alertLevel (outside n) p d)
    have hrest : ∀ e∈added,e∈d::rest ∧ shouldSend alertLevel (batchLevel e)=true :=
      fun e he => ⟨List.mem_cons_of_mem _ (hall e he).1,(hall e he).2⟩
    rw [dispatchLoop]
    rcases dispatchOne_attempted (outside n) p d with hsame | ⟨hone,hsend⟩
    · exact ⟨added,by rw [hadded,hsame],hrest⟩
    · refine ⟨d::added,by rw [hadded,hone,List.append_assoc,List.singleton_append],?_⟩
      intro e he
      rcases List.mem_cons.mp he with rfl | hmem
      · exact ⟨List.mem_cons_self,hsend⟩
      · exact hrest e hmem

/-- If what passes can be claimed, the loop tries the first document that passes. -/
theorem dispatchLoop_progress (outside : ℕ→Outside) {docs : List AlertDoc}
    (hclaim : ∀ d∈docs,∀ r,(m.claimForSending r (d.id.getD "")).1=true)
    (hpass : ∃ d∈docs,shouldSend alertLevel (batchLevel d)=true) (n : ℕ) (b : Batch) :
    ∃ d∈docs,shouldSend alertLevel (batchLevel d)=true ∧
      d∈(dispatchLoop alertLevel outside n docs (m,b)).2.attempted := by
  induction docs generalizing n b with
  | nil =>
    obtain ⟨d,hd,-⟩ := hpass
    exact absurd hd List.not_mem_nil
  | cons first rest ih =>
    rw [dispatchLoop]
    by_cases hfirst : shouldSend alertLevel (batchLevel first)=true
    · have hone := dispatchOne_claimed (p := (m,b)) hfirst
        (hclaim first List.mem_cons_self (outside n).readings)
      obtain ⟨added,hadded,-⟩ := dispatchLoop_attempted alertLevel outside (n+1) rest
        (dispatchOne alertLevel (outside n) (m,b) first)
      refine ⟨first,List.mem_cons_self,hfirst,?_⟩
      rw [hadded,hone]
      simp
    · have hrest : ∃ d∈rest,shouldSend alertLevel (batchLevel d)=true := by
        obtain ⟨d,hd,hsend⟩ := hpass
        rcases List.mem_cons.mp hd with rfl | hmem
        · exact absurd hsend hfirst
        · exact ⟨d,hmem,hsend⟩
      rw [dispatchOne_filtered _ _ (Bool.not_eq_true _ ▸ hfirst)]
      obtain ⟨d,hd,hsend,hmem⟩ := ih (fun d hd => hclaim d (List.mem_cons_of_mem _ hd)) hrest
        (n+1) {b with filtered := b.filtered+1}
      exact ⟨d,List.mem_cons_of_mem _ hd,hsend,hmem⟩

/-- Where nothing passes, the loop counts the documents and does nothing else. -/
theorem dispatchLoop_filtered {docs : List AlertDoc}
    (h : ∀ d∈docs,shouldSend alertLevel (batchLevel d)=false) (n : ℕ) (p : Manager×Batch) :
    dispatchLoop alertLevel outside n docs p=
      (p.1,{p.2 with filtered := p.2.filtered+docs.length}) := by
  induction docs generalizing n p with
  | nil => rfl
  | cons d rest ih =>
    obtain ⟨hd,hrest⟩ := List.forall_mem_cons.mp h
    rw [dispatchLoop,dispatchOne_filtered _ _ hd,ih hrest]
    dsimp only
    rw [List.length_cons,Nat.add_assoc,Nat.add_comm 1]

/-- A batch that reads nothing that passes tries nothing and leaves the manager. -/
theorem dispatch_filtered
    (h : ∀ d∈(m.pendingBatch sorter).1,shouldSend alertLevel (batchLevel d)=false) :
    m.dispatchPendingAlerts sorter alertLevel outside=
      (m,{filtered := (m.pendingBatch sorter).1.length}) := by
  unfold Manager.dispatchPendingAlerts
  dsimp only
  rw [pendingBatch_same,dispatchLoop_filtered h,Nat.zero_add]

/-- So it is with any number of batches, one after the other. -/
theorem dispatches_filtered
    (h : ∀ d∈(m.pendingBatch sorter).1,shouldSend alertLevel (batchLevel d)=false)
    (batches : List (ℕ→Outside)) :
    batches.foldl (fun m outside => (m.dispatchPendingAlerts sorter alertLevel outside).1) m=m := by
  induction batches with
  | nil => rfl
  | cons first rest ih => rw [List.foldl_cons,dispatch_filtered h,ih]

/-- A batch tries to send an alert whenever one is there to be sent, exactly when one of the
pending alerts that it reads passes the level. -/
theorem dispatchPending_progresses (hkeeps : Keeps m alerts) :
    Progresses m alerts sorter alertLevel outside↔((∃ a∈alerts,Sendable alertLevel a)→
      ∃ d∈(m.pendingBatch sorter).1,shouldSend alertLevel (batchLevel d)=true) := by
  unfold Progresses
  refine forall_congr' fun _ => ?_
  constructor
  · rintro ⟨a,-,⟨-,hsend⟩,hmem⟩
    unfold Manager.dispatchPendingAlerts at hmem
    obtain ⟨added,hadded,hall⟩ := dispatchLoop_attempted alertLevel outside 0
      (m.pendingBatch sorter).1 ((m.pendingBatch sorter).2,{})
    dsimp only at hmem hadded
    rw [hadded,List.nil_append] at hmem
    exact ⟨_,hall _ hmem⟩
  · intro hpass
    have hclaim : ∀ d∈(m.pendingBatch sorter).1,∀ r,
        (m.claimForSending r (d.id.getD "")).1=true := by
      intro d hd r
      obtain ⟨a,ha,hpending,rfl⟩ := pendingBatch_pending hkeeps hd
      exact claim_kept hkeeps ha hpending r
    obtain ⟨d,hd,hsend,hmem⟩ :=
      dispatchLoop_progress outside hclaim hpass 0 {}
    obtain ⟨a,ha,hpending,rfl⟩ := pendingBatch_pending hkeeps hd
    refine ⟨a,ha,⟨hpending,?_⟩,?_⟩
    · rwa [batchLevel_toDict] at hsend
    · unfold Manager.dispatchPendingAlerts
      dsimp only
      rwa [pendingBatch_same]

instance : DecidableRel newerFirst := fun _ _ => inferInstanceAs (Decidable (sortsBefore _ _))

instance : Std.Total newerFirst := ⟨fun _ _ => sortsBefore_total _ _⟩

instance : IsTrans AlertDoc newerFirst := ⟨fun _ _ _ h h' => sortsBefore_trans _ _ _ h' h⟩

/-- A collection that keeps documents with equal times in their order. -/
def stableNewest : NewestSorter where
  sort docs := docs.insertionSort newerFirst
  perm docs := List.perm_insertionSort newerFirst docs
  sorted docs := List.pairwise_insertionSort newerFirst docs

/-- A pending alert of a level. -/
def pendingAlert (alertId : String) (level : AlertLevel) (second : Fin 60) : Alert :=
  {outage with
    id := alertId
    level := level
    createdAt := noon second}

/-- An outage, and as many reports as a batch reads, all of them newer. -/
def backlog (older newer : Fin 60) : List Alert :=
  pendingAlert "a1" .error older::
    (List.range 100).map fun n => pendingAlert ("r"++toString n) .info newer

/-- A clock that stands still and a transport that delivers. -/
def delivering (second : Fin 60) : ℕ→Outside := fun _ => ⟨⟨noon second,[]⟩,fun _ => true⟩

/-- An outage beside one report. -/
theorem dispatchPending_progresses_outage :
    Progresses ⟨none,[pendingAlert "a1" .error 0,pendingAlert "r1" .info 1]⟩
      [pendingAlert "a1" .error 0,pendingAlert "r1" .info 1] stableNewest "ERROR"
      (delivering 2) :=
  (dispatchPending_progresses (.inr ⟨rfl,rfl⟩)).mpr fun _ =>
    ⟨(pendingAlert "a1" .error 0).toDict,by decide +kernel,by decide +kernel⟩

/-- Newer reports below the level keep an outage from being sent. -/
theorem not_progresses_backlog :
    ¬∀ (m : Manager) (alerts : List Alert) (sorter : NewestSorter) (alertLevel : String)
      (outside : ℕ→Outside),Keeps m alerts→Progresses m alerts sorter alertLevel outside := by
  intro h
  have hfiltered : ∀ d∈((⟨none,backlog 0 1⟩ : Manager).pendingBatch stableNewest).1,
      shouldSend "ERROR" (batchLevel d)=false := by decide +kernel
  have houtage : Sendable "ERROR" (pendingAlert "a1" .error 0) := ⟨rfl,by decide⟩
  obtain ⟨a,-,-,hmem⟩ := h ⟨none,backlog 0 1⟩ (backlog 0 1) stableNewest "ERROR" (delivering 2)
    (.inr ⟨rfl,rfl⟩) ⟨_,List.mem_cons_self,houtage⟩
  rw [dispatch_filtered hfiltered] at hmem
  exact absurd hmem List.not_mem_nil

end Aqts.AlertManager
