import Aqts.AlertManager

/-!
# One pass of the retry loop

`dispatch_retriable_alerts`: the failed alerts whose waiting time is over are
requeued, rebuilt and dispatched, one after the other. The documents of the
collection are followed by their positions; two documents do not share an
identifier, and what a pass does to one of them depends on that document alone.
A document that cannot be rebuilt has been requeued by then.
-/

namespace Aqts.AlertManager

open DocumentStore IsoTimestamps

/-- An attempt with the readings of the clock before and after it. -/
structure Attempt where
  /-- How it ends. -/
  delivery : Delivery
  /-- Readings of the claim. -/
  claimed : Readings
  /-- Readings of the mark. -/
  marked : Readings

/-- `_dispatch_via_router`. -/
def Manager.dispatchViaRouter (m : Manager) (alertId : String) (attempt : Attempt) : Manager :=
  let claim := m.claimForSending attempt.claimed alertId
  if claim.1=true then
    match attempt.delivery with
    | .success => (claim.2.markSentById attempt.marked alertId).2
    | .failure channelsTried =>
      (claim.2.markFailedWithRetry attempt.marked alertId (allChannelsFailed channelsTried) none 3).2
    | .raised error => (claim.2.markFailedWithRetry attempt.marked alertId error none 3).2
  else claim.2

/-- Result of `dispatch_retriable_alerts`. -/
structure RetryStats where
  /-- `dispatched`. -/
  dispatched : ℕ
  /-- `skipped`. -/
  skipped : ℕ
  /-- `dead`. -/
  dead : ℕ
  deriving DecidableEq

/-- One turn of the loop, with the attempt that the router would make. -/
def retryOne (router : AlertDoc→Attempt) (p : Manager×RetryStats) (d : AlertDoc) :
    Manager×RetryStats :=
  match d.id with
  | none => (p.1,{p.2 with skipped := p.2.skipped+1})
  | some alertId =>
    if alertId="" then (p.1,{p.2 with skipped := p.2.skipped+1})
    else
      let requeued := p.1.requeueFailedToPending alertId
      if requeued.1=true then
        match alertFromDoc d with
        | none => (requeued.2,{p.2 with skipped := p.2.skipped+1})
        | some _ =>
          let m := requeued.2.dispatchViaRouter alertId (router d)
          (m,{p.2 with
            dispatched := p.2.dispatched+1
            dead := p.2.dead+(if (m.getAlertById alertId).bind AlertDoc.status=some .dead then 1 else 0)})
      else (requeued.2,{p.2 with skipped := p.2.skipped+1})

/-- `dispatch_retriable_alerts`. -/
def Manager.dispatchRetriableAlerts (m : Manager) (router : Option (AlertDoc→Attempt)) (r : Readings)
    (fromisoformat : String→Parsed) (sorter : Sorter) (maxAttempts limit : ℤ) :
    Except TypeError (Manager×RetryStats) :=
  match router with
  | none => .ok (m,⟨0,0,0⟩)
  | some router =>
    match m.findRetriableAlerts r fromisoformat sorter none maxAttempts limit with
    | .error error => .error error
    | .ok candidates => .ok (candidates.foldl (retryOne router) (m,⟨0,0,0⟩))

/-- Two documents do not share an identifier. -/
def Distinct (docs : List AlertDoc) : Prop := docs.Pairwise fun a b => a.id=b.id→a.id=none

/-- The type of the document is an alert type, and its level is missing or an
alert level. -/
def Rebuildable (d : AlertDoc) : Prop :=
  d.alertType.bind AlertType.ofValue≠none ∧ levelOf d.level≠none

instance (d : AlertDoc) : Decidable (Rebuildable d) :=
  inferInstanceAs (Decidable (_ ∧ _))

/-- The loop has an identifier to work with. -/
def Named (d : AlertDoc) : Prop := d.id≠none ∧ d.id≠some ""

instance (d : AlertDoc) : Decidable (Named d) := inferInstanceAs (Decidable (_ ∧ _))

/-- A status that another pass or an operator still sees. -/
def Visible (status : Option AlertStatus) : Prop :=
  status=some .sent ∨ status=some .failed ∨ status=some .dead ∨ status=some .read

/-- Every selected document has such a status afterwards. -/
def Settles (docs docs' selected : List AlertDoc) : Prop :=
  ∀ (i : ℕ) (d : AlertDoc),docs[i]?=some d→d∈selected→∃ d',docs'[i]?=some d' ∧ Visible d'.status

/-- What a pass leaves of a document that it works on. -/
structure Retried (d d' : AlertDoc) : Prop where
  /-- Its identifier. -/
  id : d'.id=d.id
  /-- A delivered alert or a failed one. -/
  done : Rebuildable d→Visible d'.status
  /-- What cannot be rebuilt stays requeued. -/
  stranded : ¬Rebuildable d→d'.status=some .pending

variable {docs : List AlertDoc} {d : AlertDoc} {i : ℕ} {alertId : String}

/-- A document is rebuilt exactly when its type and level are known. -/
theorem alertFromDoc_eq_none : alertFromDoc d=none ↔ ¬Rebuildable d := by
  unfold alertFromDoc Rebuildable
  cases d.alertType.bind AlertType.ofValue with
  | none => simp
  | some alertType =>
    cases levelOf d.level with
    | none => simp
    | some level => simp

/-- Only one document has an identifier. -/
theorem Distinct.alone (h : Distinct docs) (hi : docs[i]?=some d) (hid : d.id=some alertId) :
    ∀ j e,docs[j]?=some e→e.id=some alertId→j=i := by
  intro j e hj he
  obtain ⟨hi',rfl⟩ := List.getElem?_eq_some_iff.mp hi
  obtain ⟨hj',rfl⟩ := List.getElem?_eq_some_iff.mp hj
  have hpairs := List.pairwise_iff_getElem.mp h
  obtain hlt | heq | hlt := lt_trichotomy i j
  · have hnone := hpairs i j hi' hj' hlt (hid.trans he.symm)
    rw [hid] at hnone
    cases hnone
  · exact heq.symm
  · have hnone := hpairs j i hj' hi' hlt (he.trans hid.symm)
    rw [he] at hnone
    cases hnone

/-- A change that keeps the identifiers keeps them distinct. -/
theorem Distinct.set (h : Distinct docs) (hi : docs[i]?=some d) {d' : AlertDoc} (hid : d'.id=d.id) :
    Distinct (docs.set i d') := by
  have hids : (docs.set i d').map AlertDoc.id=docs.map AlertDoc.id := by
    apply List.ext_getElem?
    intro j
    rw [List.getElem?_map,List.getElem?_map,List.getElem?_set]
    by_cases hij : i=j
    · obtain ⟨hlt,_⟩ := List.getElem?_eq_some_iff.mp hi
      rw [if_pos hij,if_pos hlt,← hij,hi]
      exact congrArg some hid
    · rw [if_neg hij]
  unfold Distinct at h ⊢
  rw [← List.pairwise_map (R := fun a b => a=b→a=none)] at h ⊢
  rwa [hids]

/-- The document of an alert at its position in the collection. -/
structure At (m : Manager) (docs : List AlertDoc) (i : ℕ) (d : AlertDoc) (alertId : String) :
    Prop where
  /-- The collection. -/
  collection : m.collection=some docs
  /-- Its identifiers are distinct. -/
  distinct : Distinct docs
  /-- The position. -/
  position : docs[i]?=some d
  /-- The identifier. -/
  id : d.id=some alertId

variable {m m' : Manager}

/-- The document is replaced. -/
theorem At.replace (h : At m docs i d alertId) {d' : AlertDoc} (hid : d'.id=d.id)
    (hm : m'.collection=some (docs.set i d')) : At m' (docs.set i d') i d' alertId := by
  obtain ⟨hlt,_⟩ := List.getElem?_eq_some_iff.mp h.position
  exact ⟨hm,h.distinct.set h.position hid,List.getElem?_set_self hlt,hid.trans h.id⟩

/-- A command for the identifier of an alert acts on its document. -/
theorem At.command (h : At m docs i d alertId) {c : Update AlertDoc}
    (hc : ∀ e,c.filter e=true→e.id=some alertId) : c.one docs=docs.set i (c.onDoc d) :=
  Update.one_eq_set h.position fun j e hj hfilter =>
    h.distinct.alone h.position h.id j e hj (hc e hfilter)

/-- And reports that it did, when it changes the status. -/
theorem At.modified (h : At m docs i d alertId) {c : Update AlertDoc}
    (hc : ∀ e,c.filter e=true→e.id=some alertId) (hfilter : c.filter d=true)
    (hstatus : (c.set d).status≠d.status) : c.modifiedOne docs=1 := by
  refine (Update.modifiedOne_at h.position ?_ ?_).mpr hfilter
  · intro j e hj hselected
    exact h.distinct.alone h.position h.id j e hj (hc e hselected)
  · exact fun _ heq => hstatus (congrArg AlertDoc.status heq)

/-- The document is the one that a search for the identifier finds. -/
theorem At.find (h : At m docs i d alertId) :
    docs.find? (fun e => e.id=some alertId)=some d := by
  cases hfind : docs.find? (fun e => e.id=some alertId) with
  | none =>
    have hnot := List.find?_eq_none.mp hfind d (List.mem_of_getElem? h.position)
    exact absurd (decide_eq_true h.id) hnot
  | some e =>
    have he : e.id=some alertId := by simpa using List.find?_some hfind
    obtain ⟨j,hj⟩ := List.mem_iff_getElem?.mp (List.mem_of_find?_eq_some hfind)
    have hij := h.distinct.alone h.position h.id j e hj he
    rw [hij,h.position] at hj
    exact hj.symm

/-- The requeue of a failed alert. -/
theorem At.requeue (h : At m docs i d alertId) (hstatus : d.status=some .failed) :
    (m.requeueFailedToPending alertId).1=true ∧
      At (m.requeueFailedToPending alertId).2 (docs.set i {d with status := some .pending}) i
        {d with status := some .pending} alertId := by
  have haddressed : ∀ e,(requeueCommand alertId).filter e=true→e.id=some alertId :=
    fun e he => (of_decide_eq_true he).1
  have hfilter : (requeueCommand alertId).filter d=true := decide_eq_true ⟨h.id,hstatus⟩
  unfold Manager.requeueFailedToPending
  rw [h.collection]
  dsimp only
  constructor
  · apply decide_eq_true
    exact h.modified haddressed hfilter (by rw [hstatus]; exact nofun)
  · refine h.replace rfl ?_
    rw [h.command haddressed,Update.onDoc_pos hfilter]
    rfl

/-- The claim of a pending alert. -/
theorem At.claim (h : At m docs i d alertId) (r : Readings) (hstatus : d.status=some .pending) :
    (m.claimForSending r alertId).1=true ∧ ∃ d',d'.status=some .sending ∧ d'.id=d.id ∧
      At (m.claimForSending r alertId).2 (docs.set i d') i d' alertId := by
  have haddressed : ∀ e,(claimCommand alertId r.now).filter e=true→e.id=some alertId :=
    fun e he => (of_decide_eq_true he).1
  have hfilter : (claimCommand alertId r.now).filter d=true := decide_eq_true ⟨h.id,hstatus⟩
  unfold Manager.claimForSending
  rw [h.collection]
  dsimp only
  constructor
  · apply decide_eq_true
    exact h.modified haddressed hfilter (by rw [hstatus]; exact nofun)
  · refine ⟨(claimCommand alertId r.now).set d,rfl,rfl,h.replace rfl ?_⟩
    rw [h.command haddressed,Update.onDoc_pos hfilter]

/-- The mark of a delivery. -/
theorem At.markSent (h : At m docs i d alertId) (r : Readings) (hstatus : d.status=some .sending) :
    ∃ d',d'.status=some .sent ∧ d'.id=d.id ∧
      At (m.markSentById r alertId).2 (docs.set i d') i d' alertId := by
  have haddressed : ∀ e,(sentCommand alertId r.now).filter e=true→e.id=some alertId :=
    fun e he => (of_decide_eq_true he).1
  have hfilter : (sentCommand alertId r.now).filter d=true := decide_eq_true ⟨h.id,hstatus⟩
  unfold Manager.markSentById
  rw [h.collection]
  dsimp only
  refine ⟨(sentCommand alertId r.now).set d,rfl,rfl,h.replace rfl ?_⟩
  rw [h.command haddressed,Update.onDoc_pos hfilter]

/-- The mark of a failure. -/
theorem At.markFailed (h : At m docs i d alertId) (r : Readings) (error : String) :
    ∃ d',(d'.status=some .failed ∨ d'.status=some .dead) ∧ d'.id=d.id ∧
      At (m.markFailedWithRetry r alertId error none 3).2 (docs.set i d') i d' alertId := by
  unfold Manager.markFailedWithRetry
  rw [h.collection]
  dsimp only
  rw [h.find]
  dsimp only
  have haddressed : ∀ e,(failedCommand alertId (retryStatus (d.sendAttempts.getD 0) 3) error none
      r.now).filter e=true→e.id=some alertId := fun e he => of_decide_eq_true he
  refine ⟨(failedCommand alertId (retryStatus (d.sendAttempts.getD 0) 3) error none r.now).set d,
    ?_,rfl,h.replace rfl ?_⟩
  · unfold failedCommand retryStatus
    dsimp only
    split
    · exact .inr rfl
    · exact .inl rfl
  · rw [h.command haddressed,Update.onDoc_pos (decide_eq_true h.id)]

/-- The dispatch of a pending alert leaves it sent, failed or dead. -/
theorem At.dispatch (h : At m docs i d alertId) (hstatus : d.status=some .pending)
    (attempt : Attempt) : ∃ d',Visible d'.status ∧ d'.id=d.id ∧
      At (m.dispatchViaRouter alertId attempt) (docs.set i d') i d' alertId := by
  obtain ⟨hclaimed,d₁,hsending,hid,hnext⟩ := h.claim attempt.claimed hstatus
  have hfailed : ∀ error,∃ d',Visible d'.status ∧ d'.id=d.id ∧
      At ((m.claimForSending attempt.claimed alertId).2.markFailedWithRetry attempt.marked alertId
        error none 3).2 (docs.set i d') i d' alertId := by
    intro error
    obtain ⟨d',hdone,hid',hat⟩ := hnext.markFailed attempt.marked error
    rw [List.set_set] at hat
    refine ⟨d',?_,hid'.trans hid,hat⟩
    obtain hfailed | hdead := hdone
    · exact .inr (.inl hfailed)
    · exact .inr (.inr (.inl hdead))
  unfold Manager.dispatchViaRouter
  dsimp only
  rw [if_pos hclaimed]
  cases attempt.delivery with
  | success =>
    obtain ⟨d',hsent,hid',hat⟩ := hnext.markSent attempt.marked hsending
    rw [List.set_set] at hat
    exact ⟨d',.inl hsent,hid'.trans hid,hat⟩
  | failure channelsTried => exact hfailed _
  | raised error => exact hfailed error

/-- A turn of the loop changes the document that it works on, and only that. -/
theorem retryOne_at (h : At m docs i d alertId) (hname : alertId≠"") (hstatus : d.status=some .failed)
    (router : AlertDoc→Attempt) (stats : RetryStats) :
    ∃ d',Retried d d' ∧ At (retryOne router (m,stats) d).1 (docs.set i d') i d' alertId := by
  obtain ⟨hrequeued,hnext⟩ := h.requeue hstatus
  unfold retryOne
  rw [h.id]
  dsimp only
  rw [if_neg hname,if_pos hrequeued]
  cases hrebuilt : alertFromDoc d with
  | none =>
    have hunknown := alertFromDoc_eq_none.mp hrebuilt
    exact ⟨{d with status := some .pending},⟨rfl,fun hknown => (hunknown hknown).elim,fun _ => rfl⟩,
      hnext⟩
  | some alert =>
    have hknown : Rebuildable d := by
      by_contra hunknown
      rw [alertFromDoc_eq_none.mpr hunknown] at hrebuilt
      cases hrebuilt
    obtain ⟨d',hvisible,hid,hat⟩ := hnext.dispatch rfl (router d)
    rw [List.set_set] at hat
    exact ⟨d',⟨hid,fun _ => hvisible,fun hunknown => (hunknown hknown).elim⟩,hat⟩

/-- A document without an identifier is left. -/
theorem retryOne_unnamed (hname : ¬Named d) (router : AlertDoc→Attempt) (p : Manager×RetryStats) :
    (retryOne router p d).1=p.1 := by
  unfold retryOne
  cases hid : d.id with
  | none => rfl
  | some alertId =>
    dsimp only
    rw [if_pos]
    by_contra hother
    exact hname ⟨by rw [hid]; exact nofun,by rw [hid]; exact fun h => hother (Option.some.inj h)⟩

/-- What a pass over some documents leaves of a document. -/
structure After (candidates : List AlertDoc) (d d' : AlertDoc) : Prop where
  /-- It works on its documents with an identifier. -/
  worked : d∈candidates→Named d→Retried d d'
  /-- It leaves the others. -/
  left : ¬(d∈candidates ∧ Named d)→d'=d

/-- Only the documents with an identifier count. -/
theorem After.congr {candidates candidates' : List AlertDoc} {d' : AlertDoc}
    (h : After candidates d d') (hiff : Named d→(d∈candidates' ↔ d∈candidates)) :
    After candidates' d d' := by
  constructor
  · intro hmem hname
    exact h.worked ((hiff hname).mp hmem) hname
  · intro hnot
    exact h.left fun hmem => hnot ⟨(hiff hmem.2).mpr hmem.1,hmem.2⟩

/-- The loop over failed documents with distinct identifiers. -/
theorem retryLoop_after (router : AlertDoc→Attempt) {candidates : List AlertDoc}
    (hcandidates : Distinct candidates)
    (hfailed : ∀ d∈candidates,d∈docs ∧ d.status=some .failed) (hcollection : m.collection=some docs)
    (hdistinct : Distinct docs) (stats : RetryStats) :
    ∃ docs' : List AlertDoc,(candidates.foldl (retryOne router) (m,stats)).1.collection=some docs' ∧
      ∀ (i : ℕ) (d : AlertDoc),docs[i]?=some d→∃ d',docs'[i]?=some d' ∧ After candidates d d' := by
  induction candidates generalizing m docs stats with
  | nil =>
    refine ⟨docs,hcollection,?_⟩
    intro i d hi
    exact ⟨d,hi,fun hmem _ => (List.not_mem_nil hmem).elim,fun _ => rfl⟩
  | cons c candidates ih =>
    obtain ⟨hc,hrest⟩ := List.pairwise_cons.mp hcandidates
    obtain ⟨⟨hmem,hstatus⟩,hfailed⟩ := List.forall_mem_cons.mp hfailed
    rw [List.foldl_cons]
    by_cases hname : Named c
    · obtain ⟨alertId,hid⟩ := Option.ne_none_iff_exists'.mp hname.1
      obtain ⟨k,hk⟩ := List.mem_iff_getElem?.mp hmem
      have hat : At m docs k c alertId := ⟨hcollection,hdistinct,hk,hid⟩
      obtain ⟨c',hretried,hnext⟩ := retryOne_at hat (fun h => hname.2 (h ▸ hid)) hstatus router stats
      have hother : ∀ e,e.id=some alertId→e∉candidates := by
        intro e he hmem
        have hnone := hc e hmem (hid.trans he.symm)
        rw [hid] at hnone
        cases hnone
      have hkept : ∀ e∈candidates,e∈docs.set k c' ∧ e.status=some .failed := by
        intro e he
        obtain ⟨hmem,hfailed⟩ := hfailed e he
        obtain ⟨j,hj⟩ := List.mem_iff_getElem?.mp hmem
        have hjk : k≠j := by
          rintro rfl
          rw [hk] at hj
          cases hj
          exact hother c hid he
        exact ⟨List.mem_of_getElem? (by rwa [List.getElem?_set_ne hjk]),hfailed⟩
      obtain ⟨docs',hdocs',hafter⟩ := ih hrest hkept hnext.collection hnext.distinct _
      refine ⟨docs',hdocs',?_⟩
      intro i d hi
      by_cases hik : k=i
      · subst hik
        rw [hk] at hi
        cases hi
        obtain ⟨d',hd',hd⟩ := hafter k c' hnext.position
        rw [hd.left fun h => hother c' hnext.id h.1] at hd'
        exact ⟨c',hd',fun _ _ => hretried,fun hnot => (hnot ⟨List.mem_cons_self,hname⟩).elim⟩
      · obtain ⟨d',hd',hd⟩ := hafter i d (by rwa [List.getElem?_set_ne hik])
        refine ⟨d',hd',?_⟩
        have hdc : d≠c := by
          rintro rfl
          exact hik (hdistinct.alone hi hid k d hk hid)
        exact hd.congr fun _ => by rw [List.mem_cons,or_iff_right hdc]
    · have hsame : (retryOne router (m,stats) c).1.collection=some docs := by
        rw [retryOne_unnamed hname]
        exact hcollection
      obtain ⟨docs',hdocs',hafter⟩ := ih hrest hfailed hsame hdistinct _
      refine ⟨docs',hdocs',?_⟩
      intro i d hi
      obtain ⟨d',hd',hd⟩ := hafter i d hi
      refine ⟨d',hd',hd.congr ?_⟩
      intro hdname
      have hdc : d≠c := by
        rintro rfl
        exact hname hdname
      rw [List.mem_cons,or_iff_right hdc]

/-- The documents that are ready are among those that were looked at, in their
order. -/
theorem readyDocs_sublist {ready : AlertDoc→Except TypeError Bool} {kept : List AlertDoc}
    (h : readyDocs ready docs=.ok kept) : kept.Sublist docs := by
  induction docs generalizing kept with
  | nil =>
    cases h
    exact .slnil
  | cons d docs ih =>
    unfold readyDocs at h
    cases hd : ready d with
    | error error =>
      rw [hd] at h
      cases h
    | ok keep =>
      rw [hd] at h
      cases hrest : readyDocs ready docs with
      | error error =>
        rw [hrest] at h
        cases h
      | ok rest =>
        rw [hrest] at h
        cases keep with
        | true =>
          cases h
          exact (ih hrest).cons_cons d
        | false =>
          cases h
          exact (ih hrest).cons d

/-- The documents that a search selects are failed ones of the collection, with
distinct identifiers. -/
theorem findRetriable_spec {r : Readings} {fromisoformat : String→Parsed} {sorter : Sorter}
    {now : Option Datetime} {maxAttempts limit : ℤ} {candidates : List AlertDoc}
    (hcollection : m.collection=some docs) (hdistinct : Distinct docs)
    (hfound : m.findRetriableAlerts r fromisoformat sorter now maxAttempts limit=.ok candidates) :
    Distinct candidates ∧ ∀ d∈candidates,d∈docs ∧ d.status=some .failed := by
  unfold Manager.findRetriableAlerts at hfound
  rw [hcollection] at hfound
  have hlimited : ∀ l,(cursorLimit limit l).Sublist l := by
    intro l
    unfold cursorLimit
    split
    · exact List.Sublist.refl l
    · exact List.take_sublist _ l
  have hsub := (readyDocs_sublist hfound).trans (hlimited _)
  have hperm := sorter.perm (docs.filter (isRetriable maxAttempts))
  constructor
  · have hsorted : Distinct (sorter.sort (docs.filter (isRetriable maxAttempts))) := by
      refine (hperm.pairwise_iff ?_).mpr (hdistinct.sublist List.filter_sublist)
      intro a b h heq
      rw [heq]
      exact h heq.symm
    exact hsorted.sublist hsub
  · intro d hd
    obtain ⟨hmem,hretriable⟩ := List.mem_filter.mp (hperm.mem_iff.mp (hsub.subset hd))
    exact ⟨hmem,(of_decide_eq_true hretriable).1⟩

/-- After a pass every selected document is sent, failed, dead or read, exactly
when there is no router or the type and the level of every selected document with
an identifier are known. -/
theorem retry_settles_iff {docs' : List AlertDoc} {router : Option (AlertDoc→Attempt)} {r : Readings}
    {fromisoformat : String→Parsed} {sorter : Sorter} {maxAttempts limit : ℤ}
    {selected : List AlertDoc} {stats : RetryStats} (hcollection : m.collection=some docs)
    (hdistinct : Distinct docs)
    (hselected : m.findRetriableAlerts r fromisoformat sorter none maxAttempts limit=.ok selected)
    (hreturned : m.dispatchRetriableAlerts router r fromisoformat sorter maxAttempts limit=
      .ok (m',stats))
    (hcollection' : m'.collection=some docs') :
    Settles docs docs' selected ↔ router=none ∨ ∀ d∈selected,Named d→Rebuildable d := by
  obtain ⟨hcandidates,hfailed⟩ := findRetriable_spec hcollection hdistinct hselected
  unfold Manager.dispatchRetriableAlerts at hreturned
  cases router with
  | none =>
    cases hreturned
    rw [hcollection] at hcollection'
    cases hcollection'
    exact ⟨fun _ => .inl rfl,fun _ i d hi hd => ⟨d,hi,.inr (.inl (hfailed d hd).2)⟩⟩
  | some router =>
    rw [hselected] at hreturned
    obtain ⟨docs'',hdocs'',hafter⟩ :=
      retryLoop_after router hcandidates hfailed hcollection hdistinct ⟨0,0,0⟩
    have hm : (selected.foldl (retryOne router) (m,⟨0,0,0⟩)).1=m' :=
      congrArg Prod.fst (Except.ok.inj hreturned)
    rw [hm,hcollection'] at hdocs''
    cases hdocs''
    constructor
    · intro hsettled
      refine .inr ?_
      intro d hd hname
      by_contra hunknown
      obtain ⟨i,hi⟩ := List.mem_iff_getElem?.mp (hfailed d hd).1
      obtain ⟨d',hd',hvisible⟩ := hsettled i d hi hd
      obtain ⟨e,he,hpass⟩ := hafter i d hi
      rw [hd'] at he
      cases he
      rw [(hpass.worked hd hname).stranded hunknown] at hvisible
      exact absurd hvisible (by unfold Visible; decide)
    · intro hcondition
      have hknown := hcondition.resolve_left nofun
      intro i d hi hd
      obtain ⟨d',hd',hpass⟩ := hafter i d hi
      refine ⟨d',hd',?_⟩
      by_cases hname : Named d
      · exact (hpass.worked hd hname).done (hknown d hd hname)
      · rw [hpass.left fun h => hname h.2]
        exact .inr (.inl (hfailed d hd).2)

/-- A document that failed twice, of some type. -/
def failedDoc (alertType : String) : AlertDoc where
  id := some "a1"
  alertType := some alertType
  status := some .failed
  sendAttempts := some 2

/-- A router with one outcome. -/
def routerOf (delivery : Delivery) (now : Datetime) (_ : AlertDoc) : Attempt :=
  ⟨delivery,⟨now,[]⟩,⟨now,[]⟩⟩

/-- The third attempt of a report fails. -/
theorem retry_settles_iff_dead :
    ∃ m' stats docs',
      (⟨some [failedDoc "DAILY_REPORT"],[]⟩ : Manager).dispatchRetriableAlerts
        (some (routerOf (.failure ["telegram"]) (noon 1))) ⟨noon 0,[]⟩ (fun _ => .invalid) stableSorter 3 100=
          .ok (m',stats) ∧ stats=⟨1,0,1⟩ ∧ m'.collection=some docs' ∧
      (Settles [failedDoc "DAILY_REPORT"] docs' [failedDoc "DAILY_REPORT"] ↔
        some (routerOf (.failure ["telegram"]) (noon 1))=none ∨
          ∀ d∈[failedDoc "DAILY_REPORT"],Named d→Rebuildable d) := by
  have hselected : (⟨some [failedDoc "DAILY_REPORT"],[]⟩ : Manager).findRetriableAlerts
      ⟨noon 0,[]⟩ (fun _ => .invalid) stableSorter none 3 100=.ok [failedDoc "DAILY_REPORT"] := rfl
  obtain ⟨m',stats,hreturned,hstats⟩ : ∃ m' stats,
      (⟨some [failedDoc "DAILY_REPORT"],[]⟩ : Manager).dispatchRetriableAlerts
        (some (routerOf (.failure ["telegram"]) (noon 1))) ⟨noon 0,[]⟩ (fun _ => .invalid) stableSorter 3 100=
          .ok (m',stats) ∧ stats=⟨1,0,1⟩ ∧ m'.collection≠none := by
    refine ⟨_,_,rfl,by decide +kernel,nofun⟩
  obtain ⟨docs',hcollection'⟩ := Option.ne_none_iff_exists'.mp hstats.2
  exact ⟨m',stats,docs',hreturned,hstats.1,hcollection',
    retry_settles_iff rfl (List.pairwise_singleton _ _) hselected hreturned hcollection'⟩

/-- A document of another type is requeued and left pending. -/
theorem unknown_type_stranded :
    ¬∀ (docs docs' selected : List AlertDoc) (m' : Manager) (stats : RetryStats)
        (router : AlertDoc→Attempt),
      (⟨some docs,[]⟩ : Manager).findRetriableAlerts ⟨noon 0,[]⟩ (fun _ => .invalid) stableSorter
        none 3 100=.ok selected→
      (⟨some docs,[]⟩ : Manager).dispatchRetriableAlerts (some router) ⟨noon 0,[]⟩
        (fun _ => .invalid) stableSorter 3 100=.ok (m',stats)→
      m'.collection=some docs'→Settles docs docs' selected := by
  intro hall
  have hsettled := hall [failedDoc "PRICE_ALERT"]
    [{failedDoc "PRICE_ALERT" with status := some .pending}] [failedDoc "PRICE_ALERT"] _ _
    (routerOf .success (noon 1)) rfl rfl rfl
  obtain ⟨d',hd',hvisible⟩ := hsettled 0 _ rfl List.mem_cons_self
  cases hd'
  exact absurd hvisible (by unfold Visible; decide)

end Aqts.AlertManager
