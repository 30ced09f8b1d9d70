import Aqts.AlertStores

/-!
# Alerts that are due behind alerts that wait

`find_retriable_alerts` takes as many failed alerts as its limit, the oldest attempts
first, and only then leaves out those whose backoff has not expired. A second attempt
waits longer than a first one, so an alert that is due can stand behind others that still
wait. The search finds as many alerts as it may exactly when no waiting alert within the
limit stands before one that is due behind it.
-/

namespace Aqts.AlertManager

open IsoTimestamps

/-- The manager keeps some alerts: as their documents in the collection, or in memory. -/
def Keeps (m : Manager) (alerts : List Alert) : Prop :=
  m.collection=some (alerts.map Alert.toDict) ∨ m.collection=none ∧ m.inMemoryAlerts=alerts

/-- The alert has failed, has an attempt left, and its backoff has expired. -/
def isDue (current : Datetime) (maxAttempts : ℤ) (a : Alert) : Bool :=
  isCandidate maxAttempts a && match a.lastSendAttemptAt with
    | none => true
    | some last => decide (backoffSeconds a.sendAttempts*1000000≤ current.micros-last.micros)

/-- The failed alerts with an attempt left, in the order in which they are looked at. -/
def Manager.queue (m : Manager) (sorter : Sorter) (maxAttempts : ℤ) : List AlertDoc :=
  match m.collection with
  | some docs => sorter.sort (docs.filter (isRetriable maxAttempts))
  | none => ((m.inMemoryAlerts.filter (isCandidate maxAttempts)).insertionSort
      fun a b => candidateKey a≤ candidateKey b).map Alert.toDict

/-- The search finds as many of the due alerts as the limit allows, those with the oldest
attempts, in the order of the attempts. -/
def FindsDue (m : Manager) (alerts : List Alert) (r : Readings) (fromisoformat : String→Parsed)
    (sorter : Sorter) (now : Option Datetime) (maxAttempts limit : ℤ) : Prop :=
  ∃ found rest : List Alert,
    m.findRetriableAlerts r fromisoformat sorter now maxAttempts limit=
        .ok (found.map Alert.toDict) ∧
      (found.length : ℤ)=min limit (alerts.countP (isDue (now.getD r.now) maxAttempts)) ∧
      (found++rest).Perm (alerts.filter (isDue (now.getD r.now) maxAttempts)) ∧
      (found++rest).Pairwise fun a b => candidateKey a≤ candidateKey b

/-- No alert that still waits is within the limit before one that is due behind it. -/
def NoneHidden (ready : AlertDoc→Except TypeError Bool) (limit : ℕ) (queue : List AlertDoc) :
    Prop :=
  ∀ waiting∈queue.take limit,ready waiting=.ok false→
    ∀ due∈queue.drop limit,ready due≠.ok true

/-- A reordering of images is the image of a reordering. -/
theorem exists_perm_map {α β : Type*} (f : α→β) {images : List β} {l : List α}
    (h : images.Perm (l.map f)) : ∃ l' : List α,l'.Perm l ∧ images=l'.map f := by
  induction images generalizing l with
  | nil =>
    have hnil : l=[] := List.map_eq_nil_iff.mp h.nil_eq.symm
    exact ⟨[],by rw [hnil],rfl⟩
  | cons first rest ih =>
    obtain ⟨a,ha,rfl⟩ := List.mem_map.mp (h.subset List.mem_cons_self)
    obtain ⟨before,after,rfl⟩ := List.append_of_mem ha
    have hrest : rest.Perm ((before++after).map f) := by
      rw [List.map_append,List.map_cons] at h
      rw [List.map_append]
      exact List.Perm.cons_inv (h.trans List.perm_middle)
    obtain ⟨l',hperm,rfl⟩ := ih hrest
    exact ⟨a::l',(hperm.cons a).trans List.perm_middle.symm,rfl⟩

/-- Documents in the order of their keys are of alerts in the order of theirs. -/
theorem key_le_of_keyBefore {a b : Alert} (h : keyBefore a.toDict b.toDict) :
    candidateKey a≤ candidateKey b := by
  by_contra hlt
  exact (keyBefore_of_lt (not_le.mp hlt)).2 h

variable {m : Manager} {alerts : List Alert} {r : Readings} {fromisoformat : String→Parsed}
  {now : Option Datetime} {maxAttempts limit : ℤ}

/-- The queue is one of alerts, the oldest attempts first. -/
theorem queue_alerts (h : Keeps m alerts) (sorter : Sorter) (maxAttempts : ℤ) :
    ∃ queue : List Alert,m.queue sorter maxAttempts=queue.map Alert.toDict ∧
      queue.Perm (alerts.filter (isCandidate maxAttempts)) ∧
        queue.Pairwise fun a b => candidateKey a≤ candidateKey b := by
  unfold Manager.queue
  obtain hstored | ⟨hnone,hmemory⟩ := h
  · have hfilter : (alerts.map Alert.toDict).filter (isRetriable maxAttempts)=
        (alerts.filter (isCandidate maxAttempts)).map Alert.toDict :=
      filter_toDict (m := ⟨none,alerts⟩) maxAttempts
    rw [hstored]
    dsimp only
    rw [hfilter]
    obtain ⟨queue,hperm,hqueue⟩ := exists_perm_map Alert.toDict
      (sorter.perm ((alerts.filter (isCandidate maxAttempts)).map Alert.toDict))
    refine ⟨queue,hqueue,hperm,?_⟩
    have hsorted := sorter.sorted ((alerts.filter (isCandidate maxAttempts)).map Alert.toDict)
    rw [hqueue,List.pairwise_map] at hsorted
    exact hsorted.imp key_le_of_keyBefore
  · rw [hnone,hmemory]
    have : Std.Total fun a b : Alert => candidateKey a≤ candidateKey b :=
      ⟨fun _ _ => le_total _ _⟩
    have : IsTrans Alert fun a b => candidateKey a≤ candidateKey b := ⟨fun _ _ _ => le_trans⟩
    exact ⟨_,rfl,List.perm_insertionSort _ _,List.pairwise_insertionSort _ _⟩

/-- The time of an alert is read back from its document, so that being ready is being due. -/
theorem isReady_toDict {a : Alert} (hcandidate : isCandidate maxAttempts a=true)
    (hread : ∀ t∈a.lastSendAttemptAt,fromisoformat t.isoformat=.aware t.micros)
    (current : Datetime) :
    isReady fromisoformat current maxAttempts a.toDict=.ok (isDue current maxAttempts a) := by
  have hattempts : 0<a.sendAttempts ∧ a.sendAttempts< maxAttempts :=
    (of_decide_eq_true hcandidate).2
  unfold isReady isDue Alert.toDict
  dsimp only
  rw [Option.getD_some,if_neg (not_not_intro hattempts),hcandidate,Bool.true_and]
  cases hlast : a.lastSendAttemptAt with
  | none => rfl
  | some t =>
    rw [Option.map_some]
    dsimp only
    rw [if_neg t.isoformat_ne_empty,hread t hlast]

/-- Of some candidates the due ones are found. -/
theorem readyDocs_toDict {current : Datetime} {queue : List Alert}
    (h : ∀ a∈queue,isReady fromisoformat current maxAttempts a.toDict=
      .ok (isDue current maxAttempts a)) :
    readyDocs (isReady fromisoformat current maxAttempts) (queue.map Alert.toDict)=
      .ok ((queue.filter (isDue current maxAttempts)).map Alert.toDict) := by
  induction queue with
  | nil => rfl
  | cons a rest ih =>
    obtain ⟨ha,hrest⟩ := List.forall_mem_cons.mp h
    rw [List.map_cons,readyDocs,ha]
    dsimp only
    rw [ih hrest,List.filter_cons]
    cases isDue current maxAttempts a with
    | true => rfl
    | false => rfl

/-- As many elements as possible of the first ones have a property exactly when none of the
first ones that lacks it stands before one that has it. -/
theorem countP_take_eq {α : Type*} (p : α→Bool) (l : List α) (n : ℕ) :
    (l.take n).countP p=min n (l.countP p)↔
      ∀ a∈l.take n,p a=false→∀ b∈l.drop n,p b=false := by
  have hsum : (l.take n).countP p+(l.drop n).countP p=l.countP p := by
    rw [←List.countP_append,List.take_append_drop]
  have hle : (l.take n).countP p≤(l.take n).length := List.countP_le_length
  have htake : (l.take n).length=min n l.length := List.length_take
  have hdrop : (l.drop n).countP p≤(l.drop n).length := List.countP_le_length
  rw [List.length_drop] at hdrop
  have hall : (∀ a∈l.take n,p a=false→∀ b∈l.drop n,p b=false)↔
      (l.take n).countP p=(l.take n).length ∨ (l.drop n).countP p=0 := by
    rw [List.countP_eq_length,List.countP_eq_zero]
    constructor
    · intro h
      by_cases hfirst : ∀ a∈l.take n,p a=true
      · exact .inl hfirst
      · push Not at hfirst
        obtain ⟨a,ha,hpa⟩ := hfirst
        refine .inr fun b hb => ?_
        rw [h a ha (Bool.not_eq_true _ ▸ hpa) b hb]
        exact Bool.false_ne_true
    · rintro (h | h) a ha hpa b hb
      · rw [h a ha] at hpa
        cases hpa
      · exact Bool.not_eq_true _ ▸ h b hb
  rw [hall]
  omega

/-- The search looks at the first alerts of the queue. -/
theorem findRetriable_queue (sorter : Sorter) (hlimit : 0<limit) :
    m.findRetriableAlerts r fromisoformat sorter now maxAttempts limit=
      readyDocs (isReady fromisoformat (now.getD r.now) maxAttempts)
        ((m.queue sorter maxAttempts).take limit.toNat) := by
  unfold Manager.findRetriableAlerts Manager.queue
  cases m.collection with
  | some docs =>
    have hnat : limit.natAbs=limit.toNat := by omega
    dsimp only
    unfold cursorLimit
    rw [if_neg hlimit.ne',hnat]
  | none =>
    dsimp only
    unfold sliceTo
    rw [if_pos hlimit.le,List.map_take]

/-- The due alerts of the queue are all that are due. -/
theorem filter_queue {current : Datetime} {queue : List Alert}
    (hperm : queue.Perm (alerts.filter (isCandidate maxAttempts))) :
    (queue.filter (isDue current maxAttempts)).Perm
      (alerts.filter (isDue current maxAttempts)) := by
  have h := hperm.filter (isDue current maxAttempts)
  rw [List.filter_filter] at h
  refine h.trans (List.Perm.of_eq (List.filter_congr fun a _ => ?_))
  unfold isDue
  cases isCandidate maxAttempts a with
  | true => rw [Bool.and_true]
  | false => rfl

/-- The queue is one of alerts, the oldest attempts first, of which the ready ones are due, and
these are all that are due. -/
theorem queue_due (hkeeps : Keeps m alerts) (sorter : Sorter) (maxAttempts : ℤ)
    (hread : ∀ a∈alerts,∀ t∈a.lastSendAttemptAt,fromisoformat t.isoformat=.aware t.micros)
    (current : Datetime) : ∃ queue : List Alert,m.queue sorter maxAttempts=queue.map Alert.toDict ∧
      (∀ a∈queue,isReady fromisoformat current maxAttempts a.toDict=
        .ok (isDue current maxAttempts a)) ∧
      (queue.filter (isDue current maxAttempts)).Perm
        (alerts.filter (isDue current maxAttempts)) ∧
      queue.Pairwise fun a b => candidateKey a≤ candidateKey b := by
  obtain ⟨queue,hqueue,hperm,hsorted⟩ := queue_alerts hkeeps sorter maxAttempts
  refine ⟨queue,hqueue,fun a ha => ?_,filter_queue hperm,hsorted⟩
  obtain ⟨hmem,hcandidate⟩ := List.mem_filter.mp (hperm.subset ha)
  exact isReady_toDict hcandidate (hread a hmem) current

/-- Nothing is hidden in a queue of alerts, by what is due of them. -/
theorem noneHidden_iff {current : Datetime} {queue : List Alert}
    (h : ∀ a∈queue,isReady fromisoformat current maxAttempts a.toDict=
      .ok (isDue current maxAttempts a)) (n : ℕ) :
    NoneHidden (isReady fromisoformat current maxAttempts) n (queue.map Alert.toDict)↔
      ∀ a∈queue.take n,isDue current maxAttempts a=false→
        ∀ b∈queue.drop n,isDue current maxAttempts b=false := by
  unfold NoneHidden
  rw [←List.map_take,←List.map_drop]
  simp only [List.forall_mem_map]
  constructor
  · intro hnone a ha hwaits b hb
    have hnot := hnone a ha (by rw [h a (List.mem_of_mem_take ha),hwaits]) b hb
    rw [h b (List.mem_of_mem_drop hb)] at hnot
    exact Bool.not_eq_true _ ▸ fun htrue => hnot (congrArg Except.ok htrue)
  · intro hnone a ha hwaits b hb
    rw [h a (List.mem_of_mem_take ha)] at hwaits
    rw [h b (List.mem_of_mem_drop hb),hnone a ha (Except.ok.inj hwaits) b hb]
    intro heq
    cases heq

/-- With a positive limit the search finds as many due alerts as it may exactly when no waiting
alert hides one that is due. -/
theorem findsDue_pos (hkeeps : Keeps m alerts) (sorter : Sorter) (hlimit : 0<limit)
    (hread : ∀ a∈alerts,∀ t∈a.lastSendAttemptAt,fromisoformat t.isoformat=.aware t.micros) :
    FindsDue m alerts r fromisoformat sorter now maxAttempts limit↔
      NoneHidden (isReady fromisoformat (now.getD r.now) maxAttempts) limit.toNat
        (m.queue sorter maxAttempts) := by
  obtain ⟨queue,hqueue,hready,hdue,hsorted⟩ :=
    queue_due hkeeps sorter maxAttempts hread (now.getD r.now)
  have hfound : m.findRetriableAlerts r fromisoformat sorter now maxAttempts limit=
      .ok (((queue.take limit.toNat).filter (isDue (now.getD r.now) maxAttempts)).map
        Alert.toDict) := by
    rw [findRetriable_queue sorter hlimit,hqueue,←List.map_take]
    exact readyDocs_toDict fun a ha => hready a (List.mem_of_mem_take ha)
  have hcount : alerts.countP (isDue (now.getD r.now) maxAttempts)=
      queue.countP (isDue (now.getD r.now) maxAttempts) := by
    rw [List.countP_eq_length_filter,List.countP_eq_length_filter,hdue.length_eq]
  rw [hqueue,noneHidden_iff hready,←countP_take_eq]
  unfold FindsDue
  rw [hfound,hcount]
  constructor
  · rintro ⟨found,rest,hsame,hlength,-⟩
    have heq := congrArg List.length (Except.ok.inj hsame)
    rw [List.length_map,List.length_map,←List.countP_eq_length_filter] at heq
    omega
  · intro h
    refine ⟨_,(queue.drop limit.toNat).filter (isDue (now.getD r.now) maxAttempts),rfl,?_,?_,?_⟩
    · rw [←List.countP_eq_length_filter]
      omega
    · rw [←List.filter_append,List.take_append_drop]
      exact hdue
    · rw [←List.filter_append,List.take_append_drop]
      exact hsorted.filter _

/-- Without a limit the search of a collection looks at the whole queue. -/
theorem findRetriable_zero (sorter : Sorter) {docs : List AlertDoc} (h : m.collection=some docs) :
    m.findRetriableAlerts r fromisoformat sorter now maxAttempts 0=
      readyDocs (isReady fromisoformat (now.getD r.now) maxAttempts)
        (m.queue sorter maxAttempts) := by
  unfold Manager.findRetriableAlerts Manager.queue
  rw [h]
  rfl

/-- So it finds whatever is due, and in memory nothing. -/
theorem findsDue_zero (hkeeps : Keeps m alerts) (sorter : Sorter)
    (hread : ∀ a∈alerts,∀ t∈a.lastSendAttemptAt,fromisoformat t.isoformat=.aware t.micros) :
    FindsDue m alerts r fromisoformat sorter now maxAttempts 0↔
      m.collection=none ∨ ∀ a∈alerts,isDue (now.getD r.now) maxAttempts a=false := by
  obtain ⟨queue,hqueue,hready,hdue,hsorted⟩ :=
    queue_due hkeeps sorter maxAttempts hread (now.getD r.now)
  have hmin : min (0 : ℤ) (alerts.countP (isDue (now.getD r.now) maxAttempts))=0 := by omega
  unfold FindsDue
  rw [hmin]
  cases hcollection : m.collection with
  | none =>
    refine iff_of_true ⟨[],_,?_,rfl,hdue,hsorted.filter _⟩ (.inl rfl)
    unfold Manager.findRetriableAlerts
    rw [hcollection]
    rfl
  | some docs =>
    have hfound : m.findRetriableAlerts r fromisoformat sorter now maxAttempts 0=
        .ok ((queue.filter (isDue (now.getD r.now) maxAttempts)).map Alert.toDict) := by
      rw [findRetriable_zero sorter hcollection,hqueue]
      exact readyDocs_toDict hready
    have hnone : (∀ a∈alerts,isDue (now.getD r.now) maxAttempts a=false)↔
        queue.filter (isDue (now.getD r.now) maxAttempts)=[] := by
      rw [←List.length_eq_zero_iff,hdue.length_eq,List.length_eq_zero_iff,List.filter_eq_nil_iff]
      simp only [Bool.not_eq_true]
    rw [hfound,hnone]
    constructor
    · rintro ⟨found,rest,hsame,hlength,-⟩
      have heq := congrArg List.length (Except.ok.inj hsame)
      rw [List.length_map,List.length_map] at heq
      refine .inr (List.length_eq_zero_iff.mp ?_)
      omega
    · rintro (h | h)
      · cases h
      · exact ⟨[],_,by rw [h],rfl,hdue,hsorted.filter _⟩

/-- A search finds as many of the due alerts as its limit allows, the oldest attempts first,
exactly when the limit is positive and no waiting alert hides one that is due, or when the
limit is zero and nothing is due or the alerts are in memory. -/
theorem findRetriable_findsDue (hkeeps : Keeps m alerts) (sorter : Sorter)
    (hread : ∀ a∈alerts,∀ t∈a.lastSendAttemptAt,fromisoformat t.isoformat=.aware t.micros) :
    FindsDue m alerts r fromisoformat sorter now maxAttempts limit↔
      0<limit ∧ NoneHidden (isReady fromisoformat (now.getD r.now) maxAttempts) limit.toNat
          (m.queue sorter maxAttempts) ∨
        limit=0 ∧ (m.collection=none ∨
          ∀ a∈alerts,isDue (now.getD r.now) maxAttempts a=false) := by
  obtain hneg | rfl | hpos := lt_trichotomy limit 0
  · refine iff_of_false ?_ ?_
    · rintro ⟨found,rest,-,hlength,-⟩
      omega
    · rintro (⟨h,-⟩ | ⟨h,-⟩)
      · omega
      · omega
  · rw [findsDue_zero hkeeps sorter hread]
    simp
  · rw [findsDue_pos hkeeps sorter hpos hread]
    have hne : limit≠0 := hpos.ne'
    simp [hpos,hne]

/-- A failed alert with its attempts and the second of its last one. -/
def attempted (alertId : String) (attempts : ℤ) (second : Fin 60) : Alert :=
  {outage with
    id := alertId
    status := .failed
    sendAttempts := attempts
    lastSendAttemptAt := some (noon second)}

/-- Some seconds past noon in Seoul are read back. -/
def readNoon (text : String) : Parsed :=
  match (List.finRange 60).find? fun second => (noon second).isoformat=text with
  | some second => .aware (noon second).micros
  | none => .invalid

/-- A minute and some seconds past noon in Seoul. -/
def minutePast (second : Fin 60) : Datetime :=
  {noon second with
    minute := 1
    timed := ⟨(noon second).timed.1,Nat.lt_add_of_pos_right (n := 1) (Nat.succ_pos 58),
      (noon second).timed.2.2⟩}

/-- A first attempt before a second one: the alert that is due is found. -/
theorem findRetriable_findsDue_first :
    FindsDue ⟨some ([attempted "a1" 1 0,attempted "a2" 2 10].map Alert.toDict),[]⟩
      [attempted "a1" 1 0,attempted "a2" 2 10] ⟨minutePast 30,[]⟩ readNoon stableSorter none
      3 1 := by
  refine (findRetriable_findsDue (.inl rfl) stableSorter ?_).mpr (.inl ⟨by decide,?_⟩)
  · decide +kernel
  · unfold NoneHidden
    decide +kernel

/-- A second attempt that waits hides a first one that is due. -/
theorem not_findsDue_hidden :
    ¬∀ (m : Manager) (alerts : List Alert) (r : Readings) (fromisoformat : String→Parsed)
      (sorter : Sorter) (now : Option Datetime) (maxAttempts limit : ℤ),Keeps m alerts→
        (∀ a∈alerts,∀ t∈a.lastSendAttemptAt,fromisoformat t.isoformat=.aware t.micros)→
          0<limit→FindsDue m alerts r fromisoformat sorter now maxAttempts limit := by
  intro h
  obtain ⟨found,rest,hfound,hlength,-⟩ := h
    ⟨some ([attempted "a1" 2 0,attempted "a2" 1 10].map Alert.toDict),[]⟩
    [attempted "a1" 2 0,attempted "a2" 1 10] ⟨minutePast 30,[]⟩ readNoon stableSorter none
    3 1
    (.inl rfl) (by decide +kernel) (by decide)
  have hnone : (⟨some ([attempted "a1" 2 0,attempted "a2" 1 10].map Alert.toDict),[]⟩ :
      Manager).findRetriableAlerts ⟨minutePast 30,[]⟩ readNoon stableSorter none 3 1=
        .ok [] := by
    decide +kernel
  have hdue : [attempted "a1" 2 0,attempted "a2" 1 10].countP (isDue (minutePast 30) 3)=1 := by
    decide +kernel
  rw [hnone] at hfound
  have hempty : found=[] := List.map_eq_nil_iff.mp (Except.ok.inj hfound).symm
  rw [hempty] at hlength
  have hone : (Option.none.getD (minutePast 30))=minutePast 30 := rfl
  rw [hone,hdue] at hlength
  cases hlength

end Aqts.AlertManager
