import Aqts.DocumentStore
import Aqts.ExpiringSlot
import Aqts.RelatedJobs
import Mathlib.Data.List.MinMax
import Mathlib.Data.List.Sort

/-!
# Versions of the prompts

`core.ai_analyzer.prompt_manager`: the versions of every prompt in a collection, one of
them active, and the active one in a cache for an hour. A command of the database or of
the cache can be refused, or it can take effect and its answer can be lost. The hash of a
content and the change of the metrics of a document are given; the time of creation, which
no function reads, is left out.
-/

namespace Aqts.PromptVersions

open DocumentStore ExpiringSlot RelatedJobs

/-- `PROMPT_TYPES`. -/
def promptTypes : List String :=
  ["sentiment_system","sentiment_user","opinion_system","opinion_stock","opinion_sector",
    "opinion_macro"]

/-- `PromptVersion`, which is also its document. -/
structure PromptVersion (M : Type) where
  /-- `prompt_type`. -/
  promptType : String
  /-- `version`. -/
  version : ℤ
  /-- `content`. -/
  content : String
  /-- `content_hash`. -/
  contentHash : String
  /-- `is_active`. -/
  isActive : Bool
  /-- `author`. -/
  author : String
  /-- `change_note`. -/
  changeNote : String
  /-- `metrics`. -/
  metrics : M
deriving DecidableEq

/-- What becomes of a command. -/
inductive Outcome
  /-- It takes effect and answers. -/
  | answered
  /-- It raises and has no effect. -/
  | refused
  /-- It takes effect and raises. -/
  | lost
deriving DecidableEq

/-- The collection, the cache by key, the time in seconds and what becomes of the next
commands, which answer when the list is empty. -/
structure World (M : Type) where
  /-- `prompt_versions`. -/
  docs : List (PromptVersion M)
  /-- Keys of the cache. -/
  cache : String→Slot (PromptVersion M) ℕ
  /-- Time. -/
  now : ℕ
  /-- Commands of the database. -/
  mongo : List Outcome
  /-- Commands of the cache. -/
  redis : List Outcome

/-- Exceptions. -/
inductive PromptError
  /-- An unknown type. -/
  | invalidType (promptType : String)
  /-- An unknown version. -/
  | notFound (target : ℤ) (promptType : String)
  /-- An exception of the database. -/
  | database
deriving DecidableEq

/-- Text of a `ValueError`; the database has texts of its own. -/
def PromptError.text : PromptError→Option String
  | .invalidType t => some ("Invalid prompt_type: "++t++". Valid types: ['sentiment_system', "++
      "'sentiment_user', 'opinion_system', 'opinion_stock', 'opinion_sector', 'opinion_macro']")
  | .notFound target t => some ("Version "++toString target++" not found for "++t)
  | .database => none

/-- A method of the manager. -/
abbrev Method (M A : Type) := Job (World M) PromptError A

/-- `CACHE_TTL`. -/
def cacheTtl : ℕ := 3600

/-- `{CACHE_PREFIX}{prompt_type}:active`. -/
def cacheKey (t : String) : String := "aqts:prompt:"++t++":active"

section Manager

variable {M : Type}

/-- A command of the database, with what it answers and what it leaves. -/
def mongo {A : Type} (f : List (PromptVersion M)→A×List (PromptVersion M)) : Method M A := fun s =>
  match s.mongo.headD .answered with
  | .answered => (.ok (f s.docs).1,{s with docs := (f s.docs).2,mongo := s.mongo.tail})
  | .refused => (.error .database,{s with mongo := s.mongo.tail})
  | .lost => (.error .database,{s with docs := (f s.docs).2,mongo := s.mongo.tail})

/-- `find_one`. -/
def findOne (filter : PromptVersion M→Bool) : Method M (Option (PromptVersion M)) :=
  mongo fun docs => (docs.find? filter,docs)

/-- The document with the greatest version, by the order of the integers. -/
def latest (docs : List (PromptVersion M)) : Option (PromptVersion M) :=
  @List.argmax _ ℤ Int.instLinearOrder.toPreorder Int.decLt PromptVersion.version docs

/-- `find_one(sort=[("version", -1)])`. -/
def findLatest (filter : PromptVersion M→Bool) : Method M (Option (PromptVersion M)) :=
  mongo fun docs => (latest (docs.filter filter),docs)

/-- `update_many`. -/
def updateMany (command : Update (PromptVersion M)) : Method M Unit :=
  mongo fun docs => ((),command.many docs)

/-- `update_one`. -/
def updateOne (command : Update (PromptVersion M)) : Method M Unit :=
  mongo fun docs => ((),command.one docs)

/-- `insert_one`. -/
def insertOne (doc : PromptVersion M) : Method M Unit := mongo fun docs => ((),docs++[doc])

/-- `create_index`. -/
def createIndex : Method M Unit := mongo fun docs => ((),docs)

/-- Selects a type. -/
def ofType (t : String) (d : PromptVersion M) : Bool := decide (d.promptType=t)

/-- Selects the active versions of a type. -/
def activeOf (t : String) (d : PromptVersion M) : Bool := ofType t d && d.isActive

/-- Selects one version of a type. -/
def versionOf (t : String) (n : ℤ) (d : PromptVersion M) : Bool :=
  ofType t d && decide (d.version=n)

/-- `{"$set": {"is_active": False}}` for the active versions of a type. -/
def deactivation (t : String) : Update (PromptVersion M) :=
  ⟨activeOf t,fun d => {d with isActive := false}⟩

/-- `{"$set": {"is_active": True}}` for one version of a type. -/
def activation (t : String) (n : ℤ) : Update (PromptVersion M) :=
  ⟨versionOf t n,fun d => {d with isActive := true}⟩

variable (hash : String→String)

/-- `_doc_to_version`, with `__post_init__`. -/
def docToVersion (d : PromptVersion M) : PromptVersion M :=
  if d.contentHash="" then {d with contentHash := hash d.content} else d

/-- `_get_cached`; every exception is swallowed. -/
def getCached (t : String) : Method M (Option (PromptVersion M)) := fun s =>
  let s' := {s with redis := s.redis.tail}
  match s.redis.headD .answered with
  | .answered => (.ok ((read s.now (s.cache (cacheKey t))).map (docToVersion hash)),s')
  | _ => (.ok none,s')

/-- `_set_cached`; every exception is swallowed. -/
def setCached (t : String) (v : PromptVersion M) : Method M Unit := fun s =>
  let s' := {s with redis := s.redis.tail}
  match s.redis.headD .answered with
  | .refused => (.ok (),s')
  | _ => (.ok (),{s' with cache := Function.update s.cache (cacheKey t) (setEx s.now cacheTtl v)})

/-- `get_active_prompt`. -/
def getActivePrompt (t : String) : Method M (Option (PromptVersion M)) := do
  match ←getCached hash t with
  | some cached => return some cached
  | none =>
    match ←findOne (activeOf t) with
    | none => return none
    | some doc =>
      setCached t (docToVersion hash doc)
      return some (docToVersion hash doc)

/-- `get_active_content`. -/
def getActiveContent (t : String) : Method M (Option String) := do
  return (←getActivePrompt hash t).map PromptVersion.content

/-- The version that `create_version` stores after the latest one. -/
def newVersion (noMetrics : M) (t content author note : String) (latest : Option (PromptVersion M)) :
    PromptVersion M where
  promptType := t
  version := match latest with
    | some d => d.version+1
    | none => 1
  content := content
  contentHash := hash content
  isActive := true
  author := author
  changeNote := note
  metrics := noMetrics

/-- `create_version`. -/
def createVersion (noMetrics : M) (t content author note : String) : Method M (PromptVersion M) := do
  if t∉promptTypes then
    Job.raise (.invalidType t)
  else
    match ←findOne (fun d => ofType t d && decide (d.contentHash=hash content)) with
    | some existing => return docToVersion hash existing
    | none =>
      let latest ← findLatest (ofType t)
      updateMany (deactivation t)
      let new := newVersion hash noMetrics t content author note latest
      insertOne new
      setCached t new
      createIndex
      createIndex
      return new

/-- `rollback`. -/
def rollback (t : String) (target : ℤ) : Method M (PromptVersion M) := do
  match ←findOne (versionOf t target) with
  | none => Job.raise (.notFound target t)
  | some doc =>
    updateMany (deactivation t)
    updateOne (activation t target)
    let version := docToVersion hash {doc with isActive := true}
    setCached t version
    return version

/-- `get_version_history`, for a positive limit. -/
def getVersionHistory (t : String) (limit : ℕ) : Method M (List (PromptVersion M)) := do
  let docs ← mongo fun docs =>
    (((docs.filter (ofType t)).mergeSort fun d e => decide (e.version≤d.version)).take limit,docs)
  return docs.map (docToVersion hash)

/-- `update_metrics`. -/
def updateMetrics (merge : M→M→M) (t : String) (n : ℤ) (metrics : M) : Method M Unit :=
  updateOne ⟨versionOf t n,fun d => {d with metrics := merge d.metrics metrics}⟩

/-- One default of `initialize_defaults`, after the number of those registered before. -/
def initializeDefault (noMetrics : M) (created : ℕ) (d : String×String) : Method M ℕ := do
  match ←getActivePrompt hash d.1 with
  | some _ => return created
  | none =>
    let _ ← createVersion hash noMetrics d.1 d.2 "system" "Initial default prompt registration"
    return created+1

/-- `initialize_defaults`, with the default contents in the order of the source. -/
def initializeDefaults (noMetrics : M) (defaults : List (String×String)) : Method M ℕ :=
  Job.each (initializeDefault hash noMetrics) defaults 0

end Manager

end Aqts.PromptVersions
