import Aqts.Delimited
import Aqts.TwoTierStore

/-!
# Clients of the idempotency store do not meet

The parts of a storage key can be read off it, as long as user ids and routes have no colon, so
that the requests of one client never change what is stored for another one.
-/

namespace Aqts.TwoTierStore

open ExpiringSlot IdempotencyStore

/-- A user id and a route without the separator of the storage keys. -/
structure ClientKey.Plain (k : ClientKey) : Prop where
  /-- No colon in the user id. -/
  userId : ':'∉k.userId.toList
  /-- No colon in the route. -/
  route : ':'∉k.route.toList

/-- The parts of a storage key with colons between them. -/
theorem toList_redisKey (k : ClientKey) :
    k.redisKey.toList=keyPrefix.toList++
      ':' ::Delimited.join ':' [k.userId.toList,k.route.toList,k.key.toList] := by
  have hcolon : ":".toList=[':'] := rfl
  unfold ClientKey.redisKey buildKey
  rw [Delimited.join_cons (by simp),Delimited.join_cons (by simp),Delimited.join_one]
  simp only [String.toList_append,hcolon,List.append_assoc,List.cons_append,
    List.nil_append]

/-- The parts are found at the first two colons. -/
theorem split_parts {k : ClientKey} (hk : k.Plain) :
    Delimited.splitAtMost ':' 2
        (Delimited.join ':' [k.userId.toList,k.route.toList,k.key.toList])=
      [k.userId.toList,k.route.toList,k.key.toList] := by
  have hfields : ∀ field∈[k.userId.toList,k.route.toList],':'∉field := by
    intro field hfield
    rcases List.mem_cons.mp hfield with rfl | hfield
    · exact hk.userId
    · rw [List.mem_singleton.mp hfield]
      exact hk.route
  exact Delimited.splitAtMost_join hfields k.key.toList

/-- Plain clients with one storage key are the same. -/
theorem redisKey_injective {k k' : ClientKey} (hk : k.Plain) (hk' : k'.Plain)
    (h : k.redisKey=k'.redisKey) : k=k' := by
  have htext := congrArg String.toList h
  rw [toList_redisKey,toList_redisKey] at htext
  have hjoin := (List.cons.inj (List.append_cancel_left htext)).2
  have hparts := congrArg (Delimited.splitAtMost ':' 2) hjoin
  rw [split_parts hk,split_parts hk'] at hparts
  obtain ⟨huser,hrest⟩ := List.cons.inj hparts
  obtain ⟨hroute,hlast⟩ := List.cons.inj hrest
  obtain ⟨hkey,_⟩ := List.cons.inj hlast
  cases k
  cases k'
  exact congr (congr (congrArg ClientKey.mk (String.toList_inj.mp huser))
    (String.toList_inj.mp hroute)) (String.toList_inj.mp hkey)

section Frames

variable {β : Type}

/-- The client that sends a request; evictions and purges are no requests. -/
def Op.client : Op β→Option ClientKey
  | .lookup k => some k
  | .tryClaim k _ => some k
  | .storeResult k _ _ _ => some k
  | .releaseClaim k => some k
  | .evict _ => none
  | .purge _ => none

/-- Two states differ in the storage key and in the row of one client at most. -/
structure Apart (k : ClientKey) (s s' : Tiers β) : Prop where
  /-- The other storage keys are the same. -/
  keys : ∀ key,key≠k.redisKey→s'.keys key=s.keys key
  /-- The other rows are the same. -/
  rows : ∀ k',k'≠k→s'.rows k'=s.rows k'

/-- Nothing is changed. -/
theorem Apart.refl (k : ClientKey) (s : Tiers β) : Apart k s s := ⟨fun _ _ => rfl,fun _ _ => rfl⟩

/-- The storage key of the client is changed. -/
theorem Apart.setKey {k : ClientKey} {s s' : Tiers β} (h : Apart k s s') (slot : Slot (Raw β) ℚ) :
    Apart k s (s'.setKey k.redisKey slot) :=
  ⟨fun key hkey => (s'.setKey_other slot hkey).trans (h.keys key hkey),h.rows⟩

/-- The row of the client is changed. -/
theorem Apart.setRow {k : ClientKey} {s s' : Tiers β} (h : Apart k s s') (row : Option (Row β)) :
    Apart k s (s'.setRow k row) :=
  ⟨h.keys,fun k' hk' => (s'.setRow_other row hk').trans (h.rows k' hk')⟩

/-- A request changes nothing but the storage key and the row of its client. -/
theorem Call.run_apart (config : StoreConfig) {c : Call β} {k : ClientKey}
    (hc : c.op.client=some k) (s : Tiers β) : Apart k s (c.run config s) := by
  obtain ⟨instant,health,op⟩ := c
  unfold Call.run
  cases op with
  | lookup k' =>
    cases hc
    dsimp only
    unfold lookup
    dsimp only
    split
    · exact .refl k s
    · split
      · exact (Apart.refl k s).setKey _
      · split
        · exact (Apart.refl k s).setKey _
        · split
          · exact (Apart.refl k s).setKey _
          · split
            · exact (Apart.refl k s).setKey _
            · exact (Apart.refl k s).setKey _
  | tryClaim k' fingerprint =>
    cases hc
    dsimp only
    unfold tryClaim
    dsimp only
    split
    · exact .refl k s
    · split
      · exact .refl k s
      · exact (Apart.refl k s).setKey _
  | storeResult k' fingerprint statusCode body =>
    cases hc
    dsimp only
    unfold storeResult
    dsimp only
    split
    · exact .refl k s
    · split
      · exact .refl k s
      · split
        · exact (Apart.refl k s).setRow _
        · exact ((Apart.refl k s).setRow _).setKey _
  | releaseClaim k' =>
    cases hc
    dsimp only
    unfold releaseClaim
    split
    · exact .refl k s
    · split
      · split
        · exact .refl k s
        · exact (Apart.refl k s).setKey _
      · exact (Apart.refl k s).setKey _
  | evict key => cases hc
  | purge k' => cases hc

/-- The tiers after some calls. -/
def runCalls (config : StoreConfig) (calls : List (Call β)) (s : Tiers β) : Tiers β :=
  calls.foldl (fun s c => c.run config s) s

/-- Every call is the request of a plain client other than the given one. -/
def OfOthers (k : ClientKey) (calls : List (Call β)) : Prop :=
  ∀ c∈calls,∃ k',c.op.client=some k' ∧ k'.Plain ∧ k'≠k

/-- Plain clients have one storage key only if they are the same; and whatever other clients
request, what is stored for a client, its claim or its response, stays as it is. -/
theorem redisKey_isolates {k : ClientKey} (hk : k.Plain) :
    (∀ k' : ClientKey,k'.Plain→
      buildKey k'.userId k'.route k'.key=buildKey k.userId k.route k.key→k'=k) ∧
      ∀ (config : StoreConfig) (calls : List (Call β)) (s : Tiers β),OfOthers k calls→
        (runCalls config calls s).keys k.redisKey=s.keys k.redisKey ∧
          (runCalls config calls s).rows k=s.rows k := by
  refine ⟨fun k' hk' h => redisKey_injective hk' hk h,?_⟩
  intro config calls s hothers
  unfold runCalls
  induction calls generalizing s with
  | nil => exact ⟨rfl,rfl⟩
  | cons c calls ih =>
    obtain ⟨k',hclient,hk',hne⟩ := hothers c List.mem_cons_self
    have hstep := Call.run_apart config hclient s
    have hkey : k.redisKey≠k'.redisKey := fun h => hne (redisKey_injective hk hk' h).symm
    obtain ⟨hkeys,hrows⟩ := ih (c.run config s) fun c' hc' =>
      hothers c' (List.mem_cons_of_mem _ hc')
    exact ⟨hkeys.trans (hstep.keys _ hkey),hrows.trans (hstep.rows k (Ne.symm hne))⟩

/-- The sample client. -/
theorem redisKey_isolates_sample :
    (∀ k' : ClientKey,k'.Plain→buildKey k'.userId k'.route k'.key=
      buildKey sampleKey.userId sampleKey.route sampleKey.key→k'=sampleKey) ∧
      ∀ (config : StoreConfig) (calls : List (Call ℕ)) (s : Tiers ℕ),OfOthers sampleKey calls→
        (runCalls config calls s).keys sampleKey.redisKey=s.keys sampleKey.redisKey ∧
          (runCalls config calls s).rows sampleKey=s.rows sampleKey :=
  redisKey_isolates ⟨by decide,by decide⟩

end Frames

end Aqts.TwoTierStore
