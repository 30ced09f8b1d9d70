import Aqts.AlertRetries
import Aqts.NotificationRouter

/-!
# Dispatches of the notification router

What a dispatch has done with the channels, by the log of their answers: it asks them in their
order, each of them once, up to the first that sends the alert. With a channel that always sends
no dispatch fails, and the alert manager marks every alert as sent that it has claimed.
-/

namespace Aqts.NotificationRouter

open AlertManager GuardedRuns

section Dispatches

/-- The answers that a dispatch has had, one after another. -/
def attemptsOf (w : ℕ) (log : List Entry) : List (String×Bool) :=
  log.filterMap fun entry =>
    match entry with
    | .added _ => none
    | .answered dispatch channel ok _ => if dispatch=w then some (channel,ok) else none

/-- An answer is one of its dispatch. -/
theorem attemptsOf_record (w dispatch : ℕ) (s : Records) (channel : String) (ok : Bool) (now : ℚ) :
    attemptsOf w (s.record dispatch channel ok now).log=
      attemptsOf w s.log++if dispatch=w then [(channel,ok)] else [] := by
  show attemptsOf w (s.log++[.answered dispatch channel ok now])=_
  unfold attemptsOf
  rw [List.filterMap_append]
  congr 1
  by_cases hsame : dispatch=w
  · simp [hsame]
  · simp [hsame]

/-- A new channel is no answer. -/
theorem attemptsOf_add (w : ℕ) (s : Records) (channel : String) :
    attemptsOf w (s.add channel).log=attemptsOf w s.log := by
  show attemptsOf w (s.log++[.added channel])=_
  unfold attemptsOf
  rw [List.filterMap_append]
  exact List.append_nil _

/-- The loop answers for its own dispatch alone. -/
theorem attemptsOf_visit {w other : ℕ} (hne : w≠other) (available : ℕ→Bool) (now : ℚ)
    (rest : List String) (index : ℕ) (channelsTried : List String) (s : Records) :
    attemptsOf other (visit w available now rest index channelsTried s).2.log=
      attemptsOf other s.log := by
  refine visit_keeps (P := fun r => attemptsOf other r.log=attemptsOf other s.log) ?_ rest index
    channelsTried s rfl
  intro r channel h
  rw [attemptsOf_record,if_neg hne,List.append_nil,h]

/-- Failures of channels. -/
def failures (channels : List String) : List (String×Bool) :=
  channels.map fun channel => (channel,false)

/-- What a dispatch has done with the channels of its router, of which there were at least some
when it began. -/
inductive Done (least : ℕ) (channels : List String) (attempts : List (String×Bool))
    (r : DispatchResult) : Prop
  /-- The channels in front of one have failed, and that one has sent the alert. -/
  | sent (index : ℕ) (channel : String) (hchannel : channels[index]?=some channel)
      (hattempts : attempts=failures (channels.take index)++[(channel,true)])
      (hresult : r={
        success := true
        channelUsed := channel
        fallbackUsed := decide (channels.head?≠some channel)
        channelsTried := channels.take (index+1) })
  /-- All channels have failed. -/
  | failed (n : ℕ) (hleast : least≤n) (hn : n≤ channels.length)
      (hattempts : attempts=failures (channels.take n))
      (hresult : r={
        success := false
        channelUsed := "none"
        allFailed := true
        channelsTried := channels.take n })

/-- What a dispatch has done so far. -/
def Underway (least : ℕ) (channels : List String) (attempts : List (String×Bool)) : Task→Prop
  | .idle => attempts=[]
  | .sending index channel channelsTried => channels[index]?=some channel ∧
      channelsTried=channels.take (index+1) ∧ attempts=failures (channels.take index)
  | .finished r => Done least channels attempts r

/-- A channel behind the others changes nothing of that. -/
theorem Underway.addChannel {least : ℕ} {channels : List String} {attempts : List (String×Bool)}
    {task : Task} (h : Underway least channels attempts task) (other : String) :
    Underway least (channels++[other]) attempts task := by
  have hget : ∀ {index : ℕ} {channel : String},channels[index]?=some channel→
      index< channels.length ∧ (channels++[other])[index]?=some channel := by
    intro index channel hchannel
    have hlt := (List.getElem?_eq_some_iff.mp hchannel).1
    exact ⟨hlt,by rw [List.getElem?_append_left hlt,hchannel]⟩
  have htake : ∀ {n : ℕ},n≤ channels.length→(channels++[other]).take n=channels.take n :=
    fun hn => List.take_append_of_le_length hn
  cases task with
  | idle => exact h
  | sending index channel channelsTried =>
    obtain ⟨hchannel,htried,hattempts⟩ := h
    obtain ⟨hlt,hchannel⟩ := hget hchannel
    refine ⟨hchannel,?_,?_⟩
    · rw [htake hlt,htried]
    · rw [htake hlt.le,hattempts]
  | finished r =>
    rcases h with ⟨index,channel,hchannel,hattempts,hresult⟩ | ⟨n,hleast,hn,hattempts,hresult⟩
    · obtain ⟨hlt,hchannel⟩ := hget hchannel
      have hhead : (channels++[other]).head?=channels.head? := by
        cases channels with
        | nil => cases hlt
        | cons first rest => rfl
      refine .sent index channel hchannel ?_ ?_
      · rw [htake hlt.le,hattempts]
      · rw [htake hlt,hhead,hresult]
    · refine .failed n hleast (by rw [List.length_append]; omega) ?_ ?_
      · rw [htake hn,hattempts]
      · rw [htake hn,hresult]

/-- The loop goes on from the channels that have failed. -/
theorem underway_visit {least : ℕ} {channels : List String} (hleast : least≤ channels.length)
    (w : ℕ) (available : ℕ→Bool) (now : ℚ) (rest : List String) (index : ℕ) (s : Records)
    (hrest : channels.drop index=rest) (hindex : index≤ channels.length)
    (hattempts : attemptsOf w s.log=failures (channels.take index)) :
    let p := visit w available now rest index (channels.take index) s
    Underway least channels (attemptsOf w p.2.log) p.1 := by
  induction rest generalizing index s with
  | nil =>
    have hend : index=channels.length := by
      have := List.drop_eq_nil_iff.mp hrest
      omega
    subst hend
    exact .failed channels.length hleast (le_refl _) hattempts rfl
  | cons channel rest ih =>
    have hlt : index< channels.length := by
      by_contra hge
      rw [List.drop_eq_nil_iff.mpr (not_lt.mp hge)] at hrest
      cases hrest
    have hsplit := List.drop_eq_getElem_cons hlt
    rw [hrest] at hsplit
    obtain ⟨hchannel,hdrop⟩ := List.cons.inj hsplit
    have htake : channels.take (index+1)=channels.take index++[channel] := by
      rw [List.take_succ_eq_append_getElem hlt,hchannel]
    have hget : channels[index]?=some channel := by
      rw [List.getElem?_eq_getElem hlt,hchannel]
    unfold visit
    split
    · exact ⟨hget,htake.symm,hattempts⟩
    · rw [← htake]
      refine ih (index+1) _ hdrop.symm hlt ?_
      rw [attemptsOf_record,if_pos rfl,hattempts,htake]
      unfold failures
      rw [List.map_append]
      rfl

/-- What all dispatches have done so far. -/
def System.Consistent (least : ℕ) (s : System) : Prop :=
  least≤ s.channels.length ∧
    ∀ w,Underway least s.channels (attemptsOf w s.records.log) (s.task w)

/-- One step keeps it. -/
theorem consistent_step {least : ℕ} {s s' : System} {e : Event} (h : s.Consistent least)
    (hstep : step s e=some s') : s'.Consistent least := by
  obtain ⟨hleast,hunderway⟩ := h
  -- a dispatch goes on, the others are left alone
  have hone : ∀ (w : ℕ) (task : Task) (records : Records),
      (∀ other,w≠other→attemptsOf other records.log=attemptsOf other s.records.log)→
      Underway least s.channels (attemptsOf w records.log) task→
      System.Consistent least
        {s with records := records,task := Function.update s.task w task} := by
    intro w task records hothers htask
    refine ⟨hleast,fun other => ?_⟩
    dsimp only
    by_cases hsame : w=other
    · subst hsame
      rw [Function.update_self]
      exact htask
    · rw [Function.update_of_ne fun heq => hsame heq.symm,hothers other hsame]
      exact hunderway other
  cases e with
  | dispatch w available now =>
    unfold step at hstep
    dsimp only at hstep
    split at hstep
    · rename_i htask
      cases hstep
      have hnone := hunderway w
      rw [htask] at hnone
      refine hone w _ _ (fun other hne => attemptsOf_visit hne ..) ?_
      exact underway_visit hleast w available now s.channels 0 s.records rfl (Nat.zero_le _) hnone
    · cases hstep
  | answer w ok available now =>
    unfold step at hstep
    dsimp only at hstep
    split at hstep
    · rename_i index channel channelsTried htask
      have hsending := hunderway w
      rw [htask] at hsending
      obtain ⟨hchannel,htried,hattempts⟩ := hsending
      have hlt := (List.getElem?_eq_some_iff.mp hchannel).1
      have hanswer := attemptsOf_record w w s.records channel ok now
      rw [if_pos rfl,hattempts] at hanswer
      have hothers : ∀ other,w≠other→
          attemptsOf other (s.records.record w channel ok now).log=
            attemptsOf other s.records.log := by
        intro other hne
        rw [attemptsOf_record,if_neg hne,List.append_nil]
      cases ok with
      | true =>
        rw [if_pos rfl] at hstep
        cases hstep
        refine hone w _ _ hothers (.sent index channel hchannel hanswer ?_)
        have hfallback : usedFallback s.channels channel=
            decide (s.channels.head?≠some channel) := by
          cases hchannels : s.channels with
          | nil =>
            rw [hchannels] at hlt
            cases hlt
          | cons first rest =>
            refine decide_eq_decide.mpr (not_congr ?_)
            rw [List.head?_cons,Option.some_inj]
            exact eq_comm
        rw [hfallback,htried]
      | false =>
        rw [if_neg (by simp)] at hstep
        cases hstep
        refine hone w _ _ (fun other hne => ?_) ?_
        · rw [attemptsOf_visit hne]
          exact hothers other hne
        · rw [htried]
          refine underway_visit hleast w available now _ (index+1) _ rfl hlt ?_
          rw [hanswer]
          have htake : s.channels.take (index+1)=s.channels.take index++[channel] := by
            rw [List.take_succ_eq_append_getElem hlt,(List.getElem?_eq_some_iff.mp hchannel).2]
          rw [htake]
          unfold failures
          rw [List.map_append]
          rfl
    · cases hstep
  | addChannel channel =>
    cases hstep
    refine ⟨?_,fun w => ?_⟩
    · rw [List.length_append]
      omega
    · dsimp only
      rw [attemptsOf_add]
      exact (hunderway w).addChannel channel

/-- A new router has not dispatched anything. -/
theorem consistent_new (channels : List String) :
    (System.new channels).Consistent channels.length := by
  have hnone : ∀ (channels : List String) (s : Records) (w : ℕ),attemptsOf w s.log=[]→
      attemptsOf w (channels.foldl Records.add s).log=[] := by
    intro channels
    induction channels with
    | nil => exact fun _ _ h => h
    | cons first rest ih =>
      intro s w h
      exact ih (s.add first) w ((attemptsOf_add w s first).trans h)
  exact ⟨le_refl _,fun w => hnone channels _ w rfl⟩

/-- In every run a dispatch that has its result has asked the channels in their order, each of them
once, and no further one behind the first that sent the alert; it has failed only if all channels
failed, those that the router was made with and any that it has been given before. The result says
so: the channels that were asked, the one that sent, and whether that is not the first one. -/
theorem dispatch_results (channels : List String) {s : System}
    (h : Reaches step (fun _ _ => True) (System.new channels) s) {w : ℕ} {r : DispatchResult}
    (hfinished : s.task w=.finished r) :
    Done channels.length s.channels (attemptsOf w s.records.log) r := by
  obtain ⟨-,hunderway⟩ := h.invariant (P := System.Consistent channels.length)
    (consistent_new channels) fun _ _ _ _ hconsistent _ hstep => consistent_step hconsistent hstep
  have hdone := hunderway w
  rwa [hfinished] at hdone

/-- Its dispatch has asked both channels. -/
theorem dispatch_results_second :
    Done 2 ["telegram","console"] (attemptsOf 0 secondSends.records.log)
      ⟨true,"console",true,false,["telegram","console"]⟩ :=
  dispatch_results ["telegram","console"] (s := secondSends)
    (reaches_secondSends fun _ _ => trivial) rfl

/-- The channel at a position is always available and always sends. -/
def Sure (k : ℕ) (s : System) : Event→Prop
  | .dispatch _ available _ => available k=true
  | .answer w ok available _ => available k=true ∧
      ∀ channel channelsTried,s.task w=.sending k channel channelsTried→ ok=true
  | .addChannel _ => True

/-- A dispatch that has not gone behind a position. -/
def Within (k : ℕ) : Task→Prop
  | .idle => True
  | .sending index _ _ => index≤k
  | .finished r => r.success=true ∧ r.channelsTried.length≤k+1

/-- The loop stops at the position at the latest. -/
theorem within_visit {k : ℕ} {channels : List String} (hk : k< channels.length) {w : ℕ}
    {available : ℕ→Bool} (havailable : available k=true) (now : ℚ) (rest : List String) (index : ℕ)
    (channelsTried : List String) (s : Records) (hrest : channels.drop index=rest)
    (hindex : index≤k) : Within k (visit w available now rest index channelsTried s).1 := by
  induction rest generalizing index channelsTried s with
  | nil =>
    have := List.drop_eq_nil_iff.mp hrest
    omega
  | cons channel rest ih =>
    have hdrop : channels.drop (index+1)=rest := by
      rw [← List.tail_drop,hrest]
      rfl
    unfold visit
    split
    · exact hindex
    · rename_i hnot
      refine ih (index+1) _ _ hdrop (lt_of_le_of_ne hindex ?_)
      rintro rfl
      exact hnot havailable

/-- One step keeps every dispatch within it. -/
theorem within_step {k : ℕ} {s s' : System} {e : Event} (hk : k< s.channels.length)
    {least : ℕ} (hconsistent : s.Consistent least) (h : ∀ w,Within k (s.task w))
    (hsure : Sure k s e) (hstep : step s e=some s') : ∀ w,Within k (s'.task w) := by
  have hone : ∀ (w : ℕ) (task : Task),Within k task→
      ∀ other,Within k (Function.update s.task w task other) := by
    intro w task htask other
    by_cases hsame : other=w
    · rw [hsame,Function.update_self]
      exact htask
    · rw [Function.update_of_ne hsame]
      exact h other
  cases e with
  | dispatch w available now =>
    unfold step at hstep
    dsimp only at hstep
    split at hstep
    · cases hstep
      exact hone w _ (within_visit hk hsure now s.channels 0 [] s.records rfl (Nat.zero_le _))
    · cases hstep
  | answer w ok available now =>
    obtain ⟨havailable,hsends⟩ := hsure
    unfold step at hstep
    dsimp only at hstep
    split at hstep
    · rename_i index channel channelsTried htask
      have hindex := h w
      rw [htask] at hindex
      have htried := hconsistent.2 w
      rw [htask] at htried
      cases ok with
      | true =>
        rw [if_pos rfl] at hstep
        cases hstep
        refine hone w _ ⟨rfl,?_⟩
        show channelsTried.length≤k+1
        rw [htried.2.1,List.length_take]
        exact (min_le_left _ _).trans (Nat.succ_le_succ hindex)
      | false =>
        rw [if_neg (by simp)] at hstep
        cases hstep
        refine hone w _ (within_visit hk havailable now _ (index+1) _ _ rfl ?_)
        refine Nat.lt_of_le_of_ne hindex ?_
        rintro rfl
        exact absurd (hsends channel channelsTried htask) (by simp)
    · cases hstep
  | addChannel channel =>
    cases hstep
    exact h

/-- What `_dispatch_via_router` makes of a result. -/
def DispatchResult.delivery (r : DispatchResult) : Delivery :=
  if r.success=true then .success else .failure r.channelsTried

/-- If one of the channels that a router is made with, as the console, is always available and
always sends, no dispatch of any run fails: it has sent its alert, and has asked no channel behind
that one. -/
theorem sure_channel_sends (channels : List String) {k : ℕ} (hk : k< channels.length) {s : System}
    (h : Reaches step (Sure k) (System.new channels) s) {w : ℕ} {r : DispatchResult}
    (hfinished : s.task w=.finished r) :
    r.delivery=.success ∧ r.channelsTried.length≤k+1 := by
  have hboth : s.Consistent channels.length ∧ ∀ w,Within k (s.task w) := by
    refine h.invariant (P := fun s => s.Consistent channels.length ∧ ∀ w,Within k (s.task w))
      ⟨consistent_new channels,fun w => ?_⟩ ?_
    · exact True.intro
    · rintro s e s' _ ⟨hconsistent,hwithin⟩ hsure hstep
      exact ⟨consistent_step hconsistent hstep,
        within_step (hk.trans_le hconsistent.1) hconsistent hwithin hsure hstep⟩
  have hdone := hboth.2 w
  rw [hfinished] at hdone
  exact ⟨if_pos hdone.1,hdone.2⟩

/-- The console behind the other channel. -/
theorem sure_channel_sends_second :
    (⟨true,"console",true,false,["telegram","console"]⟩ : DispatchResult).delivery=.success ∧
      ["telegram","console"].length≤1+1 := by
  have hreached : Reaches step (Sure 1) (System.new ["telegram","console"]) secondSends := by
    refine .next (e := .answer 0 true (fun _ => true) 2)
      (.next (e := .answer 0 false (fun _ => true) 1)
        (.next (e := .dispatch 0 (fun _ => true) 0) .start rfl rfl) ⟨rfl,?_⟩ rfl)
      ⟨rfl,fun _ _ _ => rfl⟩ rfl
    -- the first answer is that of the other channel
    intro channel channelsTried htask
    cases htask
  exact sure_channel_sends ["telegram","console"] (k := 1) (by decide) hreached (w := 0) rfl

/-- What the manager does with such a result: an alert that it has claimed is marked as sent. -/
theorem dispatchViaRouter_delivered {r : DispatchResult} (h : r.delivery=.success) (m : Manager)
    (alertId : String) (claimed marked : Readings) :
    m.dispatchViaRouter alertId ⟨r.delivery,claimed,marked⟩=
      let claim := m.claimForSending claimed alertId
      if claim.1=true then (claim.2.markSentById marked alertId).2 else claim.2 := by
  unfold Manager.dispatchViaRouter
  rw [h]

end Dispatches

end Aqts.NotificationRouter
