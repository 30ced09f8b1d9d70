import Mathlib.Algebra.Order.Ring.Int
import Mathlib.Tactic.TypeStar

/-!
# Retention of the trading records

`RetentionStore` registers records, archives them and deletes them. A deletion
checks the expiry and the archived status; archiving checks nothing, so that it
takes a deleted record back. The laws of a record's life hold in exactly the
sequences of calls in which no deleted record is archived.

Times are microseconds. Calls carry the time that passes before each reading of
the clock, which is therefore monotone.
-/

namespace Aqts.RetentionPolicy

/-- `RetentionCategory`. -/
inductive RetentionCategory
  /-- Orders. -/
  | tradeOrder
  /-- Executions. -/
  | tradeExecution
  /-- Snapshots of the portfolio. -/
  | portfolioSnapshot
  /-- Records of decisions. -/
  | decisionRecord
  /-- Rebalancings. -/
  | rebalancing
  /-- Risk events. -/
  | riskEvent
  /-- Audit log. -/
  | auditLog
  /-- Changes of the configuration. -/
  | systemConfig
deriving DecidableEq

/-- `RetentionStatus`. -/
inductive RetentionStatus
  /-- Kept. -/
  | active
  /-- Expired, a status that no call sets. -/
  | expired
  /-- Archived. -/
  | archived
  /-- Deleted. -/
  | deleted
deriving DecidableEq

/-- `DEFAULT_RETENTION_DAYS`. -/
def defaultRetentionDays : RetentionCategory→ℤ
  | .auditLog => 10*365
  | .systemConfig => 3*365
  | _ => 5*365

/-- `RetentionPolicy`. -/
structure Policy where
  /-- `retention_days`. -/
  retentionDays : ℤ
  /-- `requires_archive`, whose default the store keeps. -/
  requiresArchive : Bool := true

/-- The policies of a store, with the custom periods where given. -/
def policies (customPolicies : RetentionCategory→Option ℤ) (category : RetentionCategory) :
    Policy :=
  {retentionDays := (customPolicies category).getD (defaultRetentionDays category)}

/-- A date with its time of day, where it is not naive with the offset of its
zone at every local time. -/
structure Moment where
  /-- The local time, from the first day of year 1. -/
  wall : ℤ
  /-- `utcoffset` of the zone. -/
  offset : Option (ℤ→ℤ)

/-- The instant in UTC; a naive date has none. -/
def Moment.instant? (m : Moment) : Option ℤ := m.offset.map fun offset => m.wall-offset m.wall

/-- A day in microseconds. -/
def day : ℤ := 24*60*60*1000000

/-- The days up to the last day of year 9999. -/
def lastDay : ℤ := 3652059

/-- `now+timedelta(days=days)`, which raises outside the range of either type. -/
def Moment.addDays (m : Moment) (days : ℤ) : Option Moment :=
  if |days|≤999999999 ∧ 0≤ m.wall+days*day ∧ m.wall+days*day<lastDay*day then
    some {m with wall := m.wall+days*day}
  else none

/-- `RetentionRecord`, without the source's table and id, which nothing reads. -/
structure RetentionRecord where
  /-- `record_id`. -/
  recordId : String
  /-- `category`. -/
  category : RetentionCategory
  /-- `created_at`. -/
  createdAt : Moment
  /-- `expires_at`. -/
  expiresAt : Moment
  /-- `status`. -/
  status : RetentionStatus := .active
  /-- `archived_at`, in UTC. -/
  archivedAt : Option ℤ := none
  /-- `deleted_at`, in UTC. -/
  deletedAt : Option ℤ := none

/-- `is_expired` at a reading of the clock. The comparison with a naive date
raises. -/
def RetentionRecord.isExpired (r : RetentionRecord) (now : ℤ) : Option Bool :=
  r.expiresAt.instant?.map fun expiry => decide (expiry≤now)

/-- What a call gives. -/
inductive Answer
  /-- A record. -/
  | record (r : RetentionRecord)
  /-- `None`. -/
  | nothing
  /-- The call raised. -/
  | raised

/-- `RetentionStore` with the clock in UTC. -/
structure RetentionStore where
  /-- The clock. -/
  clock : ℤ
  /-- `_policies`. -/
  policies : RetentionCategory→Policy
  /-- `_records`. -/
  records : List RetentionRecord

/-- A new store. -/
def RetentionStore.init (customPolicies : RetentionCategory→Option ℤ) (clock : ℤ) :
    RetentionStore :=
  ⟨clock,RetentionPolicy.policies customPolicies,[]⟩

/-- Time passes. -/
def RetentionStore.wait (s : RetentionStore) (elapsed : ℕ) : RetentionStore :=
  {s with clock := s.clock+elapsed}

/-- The record has an id. -/
def RetentionRecord.hasId (recordId : String) (r : RetentionRecord) : Bool := r.recordId==recordId

/-- `_find_record`. -/
def RetentionStore.findRecord (s : RetentionStore) (recordId : String) : Option RetentionRecord :=
  s.records.find? (RetentionRecord.hasId recordId)

/-- Change the first record with an id, the one that `_find_record` finds. -/
def changeFirst (recordId : String) (f : RetentionRecord→RetentionRecord) :
    List RetentionRecord→List RetentionRecord
  | [] => []
  | r::rest => if r.hasId recordId then f r::rest else r::changeFirst recordId f rest

/-- `register_record`, whose id is new. Without a given date the record is
created at the present in UTC. -/
def RetentionStore.registerRecord (s : RetentionStore) (recordId : String)
    (category : RetentionCategory) (createdAt : Option Moment) : Answer×RetentionStore :=
  let now := createdAt.getD ⟨s.clock,some fun _ => 0⟩
  match now.addDays (s.policies category).retentionDays with
  | none => (.raised,s)
  | some expiresAt =>
    let record : RetentionRecord := {recordId,category,createdAt := now,expiresAt}
    (.record record,{s with records := s.records++[record]})

/-- A record as `archive_record` leaves it. -/
def RetentionRecord.archive (now : ℤ) (r : RetentionRecord) : RetentionRecord :=
  {r with status := .archived,archivedAt := some now}

/-- `archive_record`. -/
def RetentionStore.archiveRecord (s : RetentionStore) (recordId : String) :
    Answer×RetentionStore :=
  match s.findRecord recordId with
  | none => (.nothing,s)
  | some r =>
    (.record (r.archive s.clock),
      {s with records := changeFirst recordId (.archive s.clock) s.records})

/-- A record as `delete_record` leaves it. -/
def RetentionRecord.delete (now : ℤ) (r : RetentionRecord) : RetentionRecord :=
  {r with status := .deleted,deletedAt := some now}

/-- `delete_record`, which reads the clock once more for the time of the
deletion. -/
def RetentionStore.deleteRecord (s : RetentionStore) (recordId : String) (elapsed : ℕ) :
    Answer×RetentionStore :=
  match s.findRecord recordId with
  | none => (.nothing,s)
  | some r =>
    match r.isExpired s.clock with
    | none => (.raised,s)
    | some false => (.nothing,s)
    | some true =>
      if (s.policies r.category).requiresArchive=true ∧ r.status≠.archived then (.nothing,s)
      else
        let later := s.wait elapsed
        (.record (r.delete later.clock),
          {later with records := changeFirst recordId (.delete later.clock) s.records})

/-- A record that `validate_no_premature_deletion` reports. The comparison with
a naive date raises. -/
def RetentionRecord.premature (r : RetentionRecord) : Option Bool :=
  match r.status,r.deletedAt with
  | .deleted,some time => r.expiresAt.instant?.map fun expiry => decide (time<expiry)
  | _,_ => some false

/-- `validate_no_premature_deletion`, with the records it reports, or nothing
where it raises. -/
def validateNoPrematureDeletion : List RetentionRecord→Option (List RetentionRecord)
  | [] => some []
  | r::rest => do
    let violation ← r.premature
    let violations ← validateNoPrematureDeletion rest
    pure (if violation then r::violations else violations)

/-- A call, after some time. -/
inductive Call
  /-- `register_record`. -/
  | register (recordId : String) (category : RetentionCategory) (createdAt : Option Moment)
  /-- `archive_record`. -/
  | archive (recordId : String)
  /-- `delete_record`, with the time between its two readings of the clock. -/
  | delete (recordId : String) (elapsed : ℕ)

/-- The store after a call. -/
def RetentionStore.apply (s : RetentionStore) : Call→RetentionStore
  | .register recordId category createdAt => (s.registerRecord recordId category createdAt).2
  | .archive recordId => (s.archiveRecord recordId).2
  | .delete recordId elapsed => (s.deleteRecord recordId elapsed).2

/-- The store after some time and a call. -/
def RetentionStore.after (s : RetentionStore) (timed : ℕ×Call) : RetentionStore :=
  (s.wait timed.1).apply timed.2

/-- A legal change of a record by a call that ends at a time. -/
structure LegalChange (now : ℤ) (old new : RetentionRecord) : Prop where
  /-- The status stays or moves one place on. -/
  status : new.status=old.status ∨ old.status=.active ∧ new.status=.archived ∨
    old.status=.archived ∧ new.status=.deleted
  /-- A record becomes deleted from its expiry on. -/
  inTime : old.status≠.deleted→new.status=.deleted→
    ∃ expiry∈old.expiresAt.instant?,expiry≤now
  /-- A deleted record keeps the time of its deletion. -/
  final : old.status=.deleted→new.deletedAt=old.deletedAt

/-- The records change legally, and those that are added are active. -/
def LegalRecords (now : ℤ) : List RetentionRecord→List RetentionRecord→Prop
  | [],added => ∀ r∈added,r.status=.active
  | old::olds,new::news => LegalChange now old new ∧ LegalRecords now olds news
  | _::_,[] => False

/-- A sequence of calls changes every record legally, and the store never
reports a premature deletion. -/
def Lawful : RetentionStore→List (ℕ×Call)→Prop
  | s,[] => validateNoPrematureDeletion s.records=some []
  | s,timed::calls =>
    validateNoPrematureDeletion s.records=some [] ∧
      LegalRecords (s.after timed).clock s.records (s.after timed).records ∧
        Lawful (s.after timed) calls

/-- A call that archives finds no deleted record. -/
def SparesDeleted (s : RetentionStore) : Call→Prop
  | .archive recordId => ∀ r∈s.findRecord recordId,r.status≠.deleted
  | _ => True

/-- No call of a sequence archives a deleted record. -/
def AllSpareDeleted : RetentionStore→List (ℕ×Call)→Prop
  | _,[] => True
  | s,timed::calls => SparesDeleted s timed.2 ∧ AllSpareDeleted (s.after timed) calls

/-- What holds of every record of a store: its status is not the unused one, and
a deletion was not premature. -/
structure Sound (r : RetentionRecord) : Prop where
  /-- No call marks a record as expired. -/
  status : r.status≠.expired
  /-- A deleted record was deleted from its expiry on. -/
  inTime : r.status=.deleted→
    ∃ time∈r.deletedAt,∃ expiry∈r.expiresAt.instant?,expiry≤time

/-- What every call keeps. -/
structure Kept (s : RetentionStore) : Prop where
  /-- Every policy requires an archive. -/
  archive : ∀ category,(s.policies category).requiresArchive=true
  /-- The records. -/
  sound : ∀ r∈s.records,Sound r

variable {s : RetentionStore} {now : ℤ} {recordId : String}
  {r : RetentionRecord} {records added : List RetentionRecord}
  {f : RetentionRecord→RetentionRecord}

/-- A record deleted from its expiry on is not reported. -/
theorem Sound.premature (h : Sound r) : r.premature=some false := by
  unfold RetentionRecord.premature
  split
  · rename_i time hstatus hdeleted
    obtain ⟨later,hlater,expiry,hexpiry,hle⟩ := h.inTime hstatus
    obtain rfl := Option.some.inj (hdeleted.symm.trans hlater)
    rw [hexpiry]
    exact congrArg some (decide_eq_false (not_lt_of_ge hle))
  · rfl

/-- Sound records give no report. -/
theorem validate_of_sound (h : ∀ r∈records,Sound r) :
    validateNoPrematureDeletion records=some [] := by
  induction records with
  | nil => rfl
  | cons r rest ih =>
    unfold validateNoPrematureDeletion
    rw [(h r List.mem_cons_self).premature,ih fun other hmem => h other (List.mem_cons_of_mem _ hmem)]
    rfl

/-- A record may stay as it is. -/
theorem LegalChange.refl : LegalChange now r r :=
  ⟨.inl rfl,fun hkept hdeleted => absurd hdeleted hkept,fun _ => rfl⟩

/-- Records may stay as they are while active ones are added. -/
theorem LegalRecords.append (h : ∀ r∈added,r.status=.active) :
    LegalRecords now records (records++added) := by
  induction records with
  | nil => exact h
  | cons r rest ih => exact ⟨.refl,ih⟩

/-- Records may stay as they are. -/
theorem LegalRecords.refl : LegalRecords now records records := by
  have h : LegalRecords now records (records++[]) := .append (List.forall_mem_nil _)
  rw [List.append_nil] at h
  exact h

/-- A change of the first record with an id is legal as the change of that
record is. -/
theorem legal_changeFirst_iff (h : records.find? (RetentionRecord.hasId recordId)=some r) :
    LegalRecords now records (changeFirst recordId f records)↔LegalChange now r (f r) := by
  induction records with
  | nil => cases h
  | cons first rest ih =>
    unfold changeFirst
    by_cases hid : first.hasId recordId=true
    · rw [List.find?_cons_of_pos (p := RetentionRecord.hasId recordId) hid] at h
      obtain rfl := Option.some.inj h
      rw [if_pos hid]
      exact and_iff_left .refl
    · rw [List.find?_cons_of_neg (p := RetentionRecord.hasId recordId) hid] at h
      rw [if_neg hid]
      exact (and_iff_right .refl).trans (ih h)

/-- A changed record is the image of one of the store, and the others stay. -/
theorem mem_changeFirst (h : r∈changeFirst recordId f records) :
    r∈records ∨ ∃ old,records.find? (RetentionRecord.hasId recordId)=some old ∧ r=f old := by
  induction records with
  | nil => cases h
  | cons first rest ih =>
    unfold changeFirst at h
    by_cases hid : first.hasId recordId=true
    · rw [if_pos hid] at h
      obtain rfl | hrest := List.mem_cons.mp h
      · exact .inr ⟨first,List.find?_cons_of_pos (p := RetentionRecord.hasId recordId) hid,rfl⟩
      · exact .inl (List.mem_cons_of_mem _ hrest)
    · rw [if_neg hid] at h
      obtain rfl | hrest := List.mem_cons.mp h
      · exact .inl List.mem_cons_self
      · obtain hold | ⟨old,hfind,himage⟩ := ih hrest
        · exact .inl (List.mem_cons_of_mem _ hold)
        · have hsame := List.find?_cons_of_neg (p := RetentionRecord.hasId recordId) (l := rest) hid
          exact .inr ⟨old,hsame.trans hfind,himage⟩

/-- An expiry that has passed is an instant before the present. -/
theorem expiry_of_isExpired (h : r.isExpired now=some true) :
    ∃ expiry∈r.expiresAt.instant?,expiry≤now := by
  unfold RetentionRecord.isExpired at h
  obtain ⟨expiry,hexpiry,hpassed⟩ := Option.map_eq_some_iff.mp h
  exact ⟨expiry,hexpiry,of_decide_eq_true hpassed⟩

/-- Archiving is legal for every sound record but a deleted one. -/
theorem legal_archive_iff (h : Sound r) :
    LegalChange now r (r.archive now)↔r.status≠.deleted := by
  constructor
  · intro hlegal hdeleted
    rcases hlegal.status with hsame | ⟨hactive,_⟩ | ⟨harchived,_⟩
    · rw [hdeleted] at hsame
      cases hsame
    · rw [hdeleted] at hactive
      cases hactive
    · rw [hdeleted] at harchived
      cases harchived
  · intro hkept
    refine ⟨?_,(fun _ hdeleted => nomatch hdeleted),fun hdeleted => absurd hdeleted hkept⟩
    cases hstatus : r.status with
    | active => exact .inr (.inl ⟨rfl,rfl⟩)
    | expired => exact absurd hstatus h.status
    | archived => exact .inl rfl
    | deleted => exact absurd hstatus hkept

/-- A registration adds an active record or none. -/
theorem registerRecord_records (s : RetentionStore) (recordId : String)
    (category : RetentionCategory) (createdAt : Option Moment) :
    ∃ added,(∀ r∈added,r.status=.active) ∧
      (s.registerRecord recordId category createdAt).2={s with records := s.records++added} := by
  unfold RetentionStore.registerRecord
  dsimp only
  split
  · refine ⟨[],List.forall_mem_nil _,?_⟩
    rw [List.append_nil]
  · refine ⟨_,?_,rfl⟩
    intro r hmem
    obtain rfl := List.mem_singleton.mp hmem
    rfl

/-- A deletion leaves the store or deletes an archived record that has expired. -/
theorem deleteRecord_records (s : RetentionStore) (recordId : String)
    (harchive : ∀ category,(s.policies category).requiresArchive=true) (elapsed : ℕ) :
    (s.deleteRecord recordId elapsed).2=s ∨
      ∃ r,s.findRecord recordId=some r ∧ r.isExpired s.clock=some true ∧ r.status=.archived ∧
        (s.deleteRecord recordId elapsed).2={s.wait elapsed with
          records := changeFirst recordId (.delete (s.clock+elapsed)) s.records} := by
  unfold RetentionStore.deleteRecord
  cases hfind : s.findRecord recordId with
  | none => exact .inl rfl
  | some r =>
    dsimp only
    cases hexpired : r.isExpired s.clock with
    | none => exact .inl rfl
    | some passed =>
      cases passed with
      | false => exact .inl rfl
      | true =>
        dsimp only
        by_cases hstatus : r.status=.archived
        · right
          refine ⟨r,rfl,hexpired,hstatus,?_⟩
          rw [if_neg fun h => h.2 hstatus]
          rfl
        · left
          rw [if_pos ⟨harchive _,hstatus⟩]

/-- Deleting an archived record that has expired is legal. -/
theorem legal_delete (hexpired : r.isExpired now=some true) (hstatus : r.status=.archived)
    (elapsed : ℕ) : LegalChange (now+elapsed) r (r.delete (now+elapsed)) := by
  obtain ⟨expiry,hexpiry,hpassed⟩ := expiry_of_isExpired hexpired
  refine ⟨.inr (.inr ⟨hstatus,rfl⟩),?_,?_⟩
  · intro _ _
    exact ⟨expiry,hexpiry,hpassed.trans (Int.le_add_of_nonneg_right (Int.natCast_nonneg elapsed))⟩
  · intro hdeleted
    rw [hstatus] at hdeleted
    cases hdeleted

/-- Every call keeps the policies and the soundness of the records. -/
theorem Kept.after (h : Kept s) (timed : ℕ×Call) : Kept (s.after timed) := by
  obtain ⟨elapsed,call⟩ := timed
  unfold RetentionStore.after
  dsimp only
  cases call with
  | register recordId category createdAt =>
    unfold RetentionStore.apply
    dsimp only
    obtain ⟨added,hactive,heq⟩ :=
      registerRecord_records (s.wait elapsed) recordId category createdAt
    rw [heq]
    refine ⟨h.archive,?_⟩
    intro r hmem
    obtain hold | hnew := List.mem_append.mp hmem
    · exact h.sound r hold
    · have hstatus := hactive r hnew
      refine ⟨?_,?_⟩
      · rw [hstatus]
        exact nofun
      · rw [hstatus]
        exact nofun
  | archive recordId =>
    unfold RetentionStore.apply RetentionStore.archiveRecord
    dsimp only
    cases hfind : (s.wait elapsed).findRecord recordId with
    | none => exact ⟨h.archive,h.sound⟩
    | some found =>
      refine ⟨h.archive,?_⟩
      intro r hmem
      obtain hold | ⟨old,_,rfl⟩ := mem_changeFirst hmem
      · exact h.sound r hold
      · exact ⟨nofun,nofun⟩
  | delete recordId later =>
    unfold RetentionStore.apply
    dsimp only
    obtain heq | ⟨found,hfind,hexpired,_,heq⟩ :=
      deleteRecord_records (s.wait elapsed) recordId h.archive later
    · rw [heq]
      exact ⟨h.archive,h.sound⟩
    · rw [heq]
      refine ⟨h.archive,?_⟩
      intro r hmem
      obtain hold | ⟨old,hsame,rfl⟩ := mem_changeFirst hmem
      · exact h.sound r hold
      · obtain rfl := Option.some.inj (hfind.symm.trans hsame)
        obtain ⟨expiry,hexpiry,hpassed⟩ := expiry_of_isExpired hexpired
        refine ⟨nofun,fun _ => ⟨_,rfl,expiry,hexpiry,?_⟩⟩
        exact hpassed.trans (Int.le_add_of_nonneg_right (Int.natCast_nonneg later))

/-- A call changes the records legally exactly when it archives no deleted one. -/
theorem legal_after_iff (h : Kept s) (elapsed : ℕ) (call : Call) :
    LegalRecords (s.after (elapsed,call)).clock s.records (s.after (elapsed,call)).records↔
      SparesDeleted s call := by
  unfold RetentionStore.after
  dsimp only
  cases call with
  | register recordId category createdAt =>
    unfold RetentionStore.apply
    dsimp only
    obtain ⟨added,hactive,heq⟩ :=
      registerRecord_records (s.wait elapsed) recordId category createdAt
    rw [heq]
    exact iff_of_true (.append hactive) trivial
  | archive recordId =>
    unfold RetentionStore.apply RetentionStore.archiveRecord SparesDeleted
    dsimp only
    have hwait : (s.wait elapsed).findRecord recordId=s.findRecord recordId := rfl
    rw [hwait]
    cases hfind : s.findRecord recordId with
    | none => exact iff_of_true .refl fun r hmem => nomatch hmem
    | some found =>
      dsimp only
      have hsound : Sound found := h.sound found (List.mem_of_find?_eq_some hfind)
      refine (legal_changeFirst_iff hfind).trans ((legal_archive_iff hsound).trans ?_)
      constructor
      · intro hkept r hmem
        obtain rfl := Option.some.inj hmem
        exact hkept
      · intro hall
        exact hall found rfl
  | delete recordId later =>
    unfold RetentionStore.apply
    dsimp only
    refine iff_of_true ?_ trivial
    obtain heq | ⟨found,hfind,hexpired,hstatus,heq⟩ :=
      deleteRecord_records (s.wait elapsed) recordId h.archive later
    · rw [heq]
      exact .refl
    · rw [heq]
      exact (legal_changeFirst_iff hfind).mpr (legal_delete hexpired hstatus later)

/-- From a store with sound records the laws hold of a sequence of calls exactly
when none archives a deleted record. -/
theorem Kept.lawful_iff (h : Kept s) (calls : List (ℕ×Call)) :
    Lawful s calls↔AllSpareDeleted s calls := by
  induction calls generalizing s with
  | nil => exact iff_of_true (validate_of_sound h.sound) trivial
  | cons timed calls ih =>
    unfold Lawful AllSpareDeleted
    rw [and_iff_right (validate_of_sound h.sound),legal_after_iff h timed.1 timed.2,
      ih (h.after timed)]

/-- A new store, whatever its policies, has no unsound record. -/
theorem kept_init (customPolicies : RetentionCategory→Option ℤ) (clock : ℤ) :
    Kept (.init customPolicies clock) := ⟨fun _ => rfl,List.forall_mem_nil _⟩

/-- The laws of a record's life hold of a sequence of calls on a new store exactly
when no call archives a deleted record. -/
theorem lawful_iff_allSpareDeleted (customPolicies : RetentionCategory→Option ℤ) (clock : ℤ)
    (calls : List (ℕ×Call)) :
    Lawful (.init customPolicies clock) calls↔AllSpareDeleted (.init customPolicies clock) calls :=
  (kept_init customPolicies clock).lawful_iff calls

/-- A record of the first day of year 1 is archived, deleted after more than ten
years, archived again and deleted at a later time. -/
def archivedAgain : List (ℕ×Call) :=
  [(0,.register "r" .systemConfig (some ⟨0,some fun _ => 0⟩)),(0,.archive "r"),
    (1,.delete "r" 0),(1,.archive "r"),(1,.delete "r" 0)]

/-- A deleted record becomes an archived one again. -/
theorem not_lawful :
    ¬∀ (customPolicies : RetentionCategory→Option ℤ) (clock : ℤ) (calls : List (ℕ×Call)),
      Lawful (.init customPolicies clock) calls := by
  intro hall
  obtain ⟨_,_,_,_,_,_,_,hagain,_⟩ := hall (fun _ => none) (4000*day) archivedAgain
  have hchange : LegalChange _ _ _ := hagain.1
  have hstatus := hchange.status
  revert hstatus
  decide

end Aqts.RetentionPolicy
