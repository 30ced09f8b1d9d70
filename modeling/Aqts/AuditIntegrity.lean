import Aqts.HashChain

/-!
# Integrity of the audit log

`AuditIntegrityStore`: entries with the hash of the entry before them, and the check that
recomputes all hashes. The hash is an injective function of the text that enters it, which
never gives the hash of the beginning. The metadata of an entry does not enter the text,
different values may have one text, and the check does not look at the last hash, so the
lists it accepts among those without new hashes are the beginnings of the store's own list,
as far as the texts tell.
-/

namespace Aqts.AuditIntegrity

open HashChain

/-- What enters a hash besides the hash before it. -/
structure HashedFields (J : Type*) where
  /-- `entry_id`. -/
  entryId : J
  /-- `timestamp`, its text. -/
  timestamp : String
  /-- `action_type`. -/
  actionType : J
  /-- `module`. -/
  module : J
  /-- `description`. -/
  description : J
  /-- `before_state`. -/
  beforeState : Option J
  /-- `after_state`. -/
  afterState : Option J

/-- `AuditEntry`. -/
structure AuditEntry (T J H : Type*) where
  /-- `entry_id`. -/
  entryId : J
  /-- `timestamp`. -/
  timestamp : T
  /-- `action_type`. -/
  actionType : J
  /-- `module`. -/
  module : J
  /-- `description`. -/
  description : J
  /-- `before_state`. -/
  beforeState : Option J
  /-- `after_state`. -/
  afterState : Option J
  /-- `metadata`. -/
  metadata : Option J
  /-- `previous_hash`. -/
  previousHash : H
  /-- `entry_hash`. -/
  entryHash : H

/-- What the store uses of the world. -/
structure World (T J H : Type*) where
  /-- `isoformat` of a timestamp. -/
  isoformat : T→String
  /-- `json.dumps` of the fields without the hash before them, which gives some values the
  same text. -/
  canonical : HashedFields J→String
  /-- SHA-256 of such a text with the hash before it. -/
  sha256 : String→H→H
  /-- `GENESIS_HASH`. -/
  genesisHash : H
  /-- The first twelve characters of a hash. -/
  short : H→String
  /-- Different texts have different hashes. -/
  injective : Function.Injective2 sha256
  /-- No text has the hash of the beginning. -/
  genesis_ne : ∀ text previous,sha256 text previous≠genesisHash

/-- `IntegrityResult`. -/
structure IntegrityResult where
  /-- `valid`. -/
  valid : Bool
  /-- `total_entries`. -/
  totalEntries : ℕ
  /-- `broken_at_index`. -/
  brokenAtIndex : Option ℕ
  /-- `details`. -/
  details : String
  deriving DecidableEq

/-- Arguments of `append`, with the identifier and the time it takes. -/
structure AppendCall (T J : Type*) where
  /-- `uuid4`. -/
  entryId : J
  /-- `datetime.now`. -/
  timestamp : T
  /-- `action_type`. -/
  actionType : J
  /-- `module`. -/
  module : J
  /-- `description`. -/
  description : J
  /-- `before_state`. -/
  beforeState : Option J
  /-- `after_state`. -/
  afterState : Option J
  /-- `metadata`. -/
  metadata : Option J

variable {T J H : Type*}

/-- The fields of an entry that enter its hash. -/
def AuditEntry.hashed (w : World T J H) (e : AuditEntry T J H) : HashedFields J :=
  ⟨e.entryId,w.isoformat e.timestamp,e.actionType,e.module,e.description,e.beforeState,e.afterState⟩

/-- The text of an entry, which its metadata does not enter. -/
def AuditEntry.text (w : World T J H) (e : AuditEntry T J H) : String := w.canonical (e.hashed w)

/-- An entry as a link: its text and its hashes. -/
def AuditEntry.link (w : World T J H) (e : AuditEntry T J H) : Link String H :=
  ⟨e.text w,e.previousHash,e.entryHash⟩

/-- The hash of an entry computed again. -/
def AuditEntry.recomputed (w : World T J H) (e : AuditEntry T J H) : H :=
  w.sha256 (e.text w) e.previousHash

/-- The entry of a call. -/
def AppendCall.entry (w : World T J H) (c : AppendCall T J) (lastHash : H) : AuditEntry T J H :=
  let fields : HashedFields J :=
    ⟨c.entryId,w.isoformat c.timestamp,c.actionType,c.module,c.description,c.beforeState,c.afterState⟩
  ⟨c.entryId,c.timestamp,c.actionType,c.module,c.description,c.beforeState,c.afterState,c.metadata,
    lastHash,w.sha256 (w.canonical fields) lastHash⟩

/-- `AuditIntegrityStore`: its entries are a valid chain up to its last hash. -/
structure AuditIntegrityStore (w : World T J H) where
  /-- `_entries`. -/
  entries : List (AuditEntry T J H)
  /-- `_last_hash`. -/
  lastHash : H
  /-- The entries are a chain. -/
  chained : Valid w.sha256 w.genesisHash (entries.map (AuditEntry.link w))
  /-- The last hash is that of the chain. -/
  last : lastHash=tip w.genesisHash (entries.map (AuditEntry.link w))

/-- `AuditIntegrityStore.__init__`. -/
def AuditIntegrityStore.empty (w : World T J H) : AuditIntegrityStore w :=
  ⟨[],w.genesisHash,trivial,rfl⟩

/-- `append`. -/
def AuditIntegrityStore.append {w : World T J H} (s : AuditIntegrityStore w) (c : AppendCall T J) :
    AuditIntegrityStore w where
  entries := s.entries++[c.entry w s.lastHash]
  lastHash := (c.entry w s.lastHash).entryHash
  chained := by
    rw [List.map_append,List.map_singleton,valid_concat]
    exact ⟨s.chained,s.last,rfl⟩
  last := by
    rw [List.map_append,List.map_singleton,tip_concat]
    rfl

/-- The store after some calls. -/
def run (w : World T J H) (calls : List (AppendCall T J)) : AuditIntegrityStore w :=
  calls.foldl AuditIntegrityStore.append (.empty w)

variable [DecidableEq H]

/-- The loop of `verify_integrity`. -/
def verifyFrom (w : World T J H) (total idx : ℕ) (expectedPrev : H) :
    List (AuditEntry T J H)→IntegrityResult
  | [] => ⟨true,total,none,""⟩
  | e::es =>
    if e.previousHash≠expectedPrev then
      ⟨false,total,some idx,"Chain broken at index "++toString idx++": expected previous_hash="++
        w.short expectedPrev++"..., got="++w.short e.previousHash++"..."⟩
    else if e.entryHash≠e.recomputed w then
      ⟨false,total,some idx,"Hash mismatch at index "++toString idx++": stored="++
        w.short e.entryHash++"..., recomputed="++w.short (e.recomputed w)++"..."⟩
    else verifyFrom w total (idx+1) e.entryHash es

/-- `verify_integrity` of a list of entries. -/
def verifyIntegrity (w : World T J H) (entries : List (AuditEntry T J H)) : IntegrityResult :=
  if entries=[] then ⟨true,0,none,""⟩
  else verifyFrom w entries.length 0 w.genesisHash entries

/-- The check accepts the lists that are chains. -/
theorem verifyFrom_valid (w : World T J H) (total idx : ℕ) (expectedPrev : H)
    (es : List (AuditEntry T J H)) : (verifyFrom w total idx expectedPrev es).valid=true ↔
      Valid w.sha256 expectedPrev (es.map (AuditEntry.link w)) := by
  induction es generalizing idx expectedPrev with
  | nil => simp [verifyFrom,Valid]
  | cons e es ih =>
    rw [List.map_cons,valid_cons]
    unfold verifyFrom
    by_cases hprevious : e.previousHash=expectedPrev
    · rw [if_neg (not_not.mpr hprevious)]
      by_cases hhash : e.entryHash=e.recomputed w
      · rw [if_neg (not_not.mpr hhash),ih]
        exact ⟨fun h => ⟨hprevious,hhash,h⟩,fun h => h.2.2⟩
      · rw [if_pos hhash]
        exact iff_of_false (by simp) fun h => hhash h.2.1
    · rw [if_pos hprevious]
      exact iff_of_false (by simp) fun h => hprevious h.1

/-- `verify_integrity` accepts the lists that are chains from the beginning on. -/
theorem verifyIntegrity_valid (w : World T J H) (es : List (AuditEntry T J H)) :
    (verifyIntegrity w es).valid=true ↔
      Valid w.sha256 w.genesisHash (es.map (AuditEntry.link w)) := by
  unfold verifyIntegrity
  by_cases hempty : es=[]
  · rw [if_pos hempty,hempty]
    simp [Valid]
  · rw [if_neg hempty]
    exact verifyFrom_valid w _ _ _ es

/-- An entry without a new hash: its hash is one of the list, or not the hash of its fields. -/
def Unrecomputed (w : World T J H) (own : List (AuditEntry T J H)) (e : AuditEntry T J H) : Prop :=
  e.entryHash∈own.map AuditEntry.entryHash ∨ e.entryHash≠e.recomputed w

/-- A list made of another one without new hashes: entries are removed and reordered, and
entries are inserted, also in the places of those whose fields change. -/
inductive Edited (w : World T J H) (own : List (AuditEntry T J H)) : List (AuditEntry T J H)→Prop
  /-- Nothing changes. -/
  | unchanged : Edited w own own
  /-- An entry is removed. -/
  | removed {l r : List (AuditEntry T J H)} {e : AuditEntry T J H} (h : Edited w own (l++e::r)) :
    Edited w own (l++r)
  /-- An entry is inserted. -/
  | inserted {l r : List (AuditEntry T J H)} {e : AuditEntry T J H} (h : Edited w own (l++r))
    (he : Unrecomputed w own e) : Edited w own (l++e::r)
  /-- The entries are reordered. -/
  | reordered {es es' : List (AuditEntry T J H)} (h : Edited w own es) (hperm : es.Perm es') :
    Edited w own es'

omit [DecidableEq H] in
/-- Without new hashes no entry has one. -/
theorem Edited.unrecomputed {w : World T J H} {own es : List (AuditEntry T J H)}
    (h : Edited w own es) : ∀ e∈es,Unrecomputed w own e := by
  induction h with
  | unchanged => exact fun e he => .inl (List.mem_map_of_mem he)
  | removed h ih =>
    intro e he
    apply ih
    rw [List.mem_append] at he ⊢
    exact he.imp_right (List.mem_cons_of_mem _)
  | inserted h he ih =>
    intro e hmem
    rw [List.mem_append,List.mem_cons] at hmem
    rcases hmem with hl | rfl | hr
    · exact ih e (List.mem_append_left _ hl)
    · exact he
    · exact ih e (List.mem_append_right _ hr)
  | reordered h hperm ih => exact fun e he => ih e (hperm.mem_iff.mpr he)

omit [DecidableEq H] in
/-- Every link of a valid chain has the digest of its fields. -/
theorem hash_of_valid {w : World T J H} {start : H} {es : List (AuditEntry T J H)}
    (h : Valid w.sha256 start (es.map (AuditEntry.link w))) :
    ∀ e∈es,e.entryHash=e.recomputed w := by
  induction es generalizing start with
  | nil => exact fun e he => nomatch he
  | cons e es ih =>
    rw [List.map_cons,valid_cons] at h
    intro e' he'
    rcases List.mem_cons.mp he' with rfl | hmem
    · exact h.2.1
    · exact ih h.2.2 e' hmem

/-- Without new hashes the check accepts the beginnings of the store's list, as far as the
texts tell. -/
theorem verifyIntegrity_edited {w : World T J H} (s : AuditIntegrityStore w)
    {es : List (AuditEntry T J H)} (h : Edited w s.entries es) : (verifyIntegrity w es).valid=true ↔
      es.map (AuditEntry.link w)<+:s.entries.map (AuditEntry.link w) := by
  rw [verifyIntegrity_valid]
  constructor
  · intro hvalid
    refine prefix_of_hashes w.injective w.genesis_ne s.chained hvalid fun l hl => ?_
    obtain ⟨e,he,rfl⟩ := List.mem_map.mp hl
    have hhash := hash_of_valid hvalid e he
    rcases h.unrecomputed e he with hown | hnew
    · rw [List.map_map]
      exact hown
    · exact absurd hhash hnew
  · exact valid_beginning s.chained

/-- For every history of appended entries and every list made of the store's own without new
hashes: the list is either unchanged or detected exactly if it is unchanged or, by the texts
and the hashes of its entries, not a beginning of the store's list. -/
theorem tampering_detected_iff (w : World T J H) (calls : List (AppendCall T J))
    {es : List (AuditEntry T J H)} (h : Edited w (run w calls).entries es) :
    ((verifyIntegrity w es).valid=true→es=(run w calls).entries) ↔
      es=(run w calls).entries ∨
        ¬es.map (AuditEntry.link w)<+:(run w calls).entries.map (AuditEntry.link w) := by
  rw [verifyIntegrity_edited (run w calls) h,or_comm,imp_iff_not_or]

/-- A hash that keeps what it was made of. -/
inductive Digest
  /-- `GENESIS_HASH`. -/
  | genesis
  /-- The hash of a text and the hash before it. -/
  | sha256 (text : String) (previous : Digest)
  deriving DecidableEq

/-- The JSON of fields that are texts without quotation marks. -/
def textFields (fields : HashedFields String) : String :=
  let quoted : String→String := fun text => "\""++text++"\""
  let state : Option String→String := fun value => (value.map quoted).getD "null"
  "\x7b\"action_type\": "++quoted fields.actionType++", \"after_state\": "++
    state fields.afterState++", \"before_state\": "++state fields.beforeState++
    ", \"description\": "++quoted fields.description++", \"entry_id\": "++
    quoted fields.entryId++", \"module\": "++quoted fields.module++", \"timestamp\": "++
    quoted fields.timestamp++"\x7d"

/-- A world with such hashes and timestamps that are texts. -/
def symbolic : World String String Digest where
  isoformat := id
  canonical := textFields
  sha256 := .sha256
  genesisHash := .genesis
  short := fun _ => ""
  injective := by
    intro text text' previous previous' h
    exact Digest.sha256.inj h
  genesis_ne := fun _ _ h => by cases h

/-- An order and its execution. -/
def placedAndExecuted : List (AppendCall String String) :=
  [⟨"1","2026-04-13T09:05:00","ORDER_PLACED","order","buy",none,none,some "live"⟩,
    ⟨"2","2026-04-13T09:05:01","ORDER_EXECUTED","order","filled",none,some "10",none⟩]

/-- Entries in another order are detected. -/
theorem reordered_detected :
    (verifyIntegrity symbolic (run symbolic placedAndExecuted).entries.reverse).valid=false := by
  have hreordered : Edited symbolic (run symbolic placedAndExecuted).entries
      (run symbolic placedAndExecuted).entries.reverse :=
    .reordered .unchanged (List.reverse_perm _).symm
  have hdetected := (tampering_detected_iff symbolic placedAndExecuted hreordered).mpr (.inr (by
    rw [← verifyIntegrity_edited _ hreordered]
    decide))
  refine Bool.eq_false_iff.mpr fun hvalid => ?_
  have hids := congrArg (List.map AuditEntry.entryId) (hdetected hvalid)
  exact absurd hids (by decide)

/-- Without its last entry, or with other metadata, the list is another one and accepted. -/
theorem tampering_undetected : ¬∀ es,Edited symbolic (run symbolic placedAndExecuted).entries es→
    (verifyIntegrity symbolic es).valid=true→es=(run symbolic placedAndExecuted).entries := by
  intro h
  have hdropped : Edited symbolic (run symbolic placedAndExecuted).entries
      ((run symbolic placedAndExecuted).entries.take 1++[]) :=
    .removed (e := (placedAndExecuted[1]).entry symbolic
      ((placedAndExecuted[0]).entry symbolic .genesis).entryHash) .unchanged
  have hlength := congrArg List.length (h _ hdropped (by decide +kernel))
  exact absurd hlength (by decide)

end Aqts.AuditIntegrity
