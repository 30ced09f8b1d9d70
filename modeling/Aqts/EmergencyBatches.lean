import Aqts.EmergencyMonitor
import Mathlib.Data.Fintype.Option
import Mathlib.Tactic.Linarith

/-!
# One defensive batch in a cooldown

When every trigger is found alone, the orders of a batch are all sent before its
cooldown begins, and the next batch starts after it. The orders within a cooldown
from a batch on are then its own, and they sell what the defensive ratio leaves.
-/

namespace Aqts.EmergencyMonitor

open GuardedRuns OrderTypes SpacedTimes

/-- The quantity of a ticker among some orders. -/
def orderedOf (orders : List SellOrder) (ticker : String) : ℕ :=
  (orders.map fun o => if o.ticker=ticker then o.quantity else 0).sum

/-- A cooldown is some time. -/
theorem cooldown_pos : 0< cooldown := by
  unfold cooldown
  norm_num

/-- A position is sold as far as the defensive ratio leaves it. -/
theorem sellQuantity_le (quantity : ℕ) : (sellQuantity quantity : ℚ)≤ sellable quantity := by
  have hratio : (0 : ℚ)≤1-defensiveStockRatio := by
    unfold defensiveStockRatio
    norm_num
  have hpos : (0 : ℚ)≤quantity*(1-defensiveStockRatio) := mul_nonneg (Nat.cast_nonneg _) hratio
  have hfloor : ((⌊(quantity : ℚ)*(1-defensiveStockRatio)⌋.toNat : ℤ) : ℚ)≤
      quantity*(1-defensiveStockRatio) := by
    rw [Int.toNat_of_nonneg (Int.floor_nonneg.mpr hpos)]
    exact Int.floor_le _
  unfold sellQuantity sellable
  rw [Int.cast_natCast] at hfloor
  linarith

/-- More shares leave more to sell. -/
theorem sellable_mono {a b : ℕ} (h : a≤b) : sellable a≤ sellable b := by
  have hcast : (a : ℚ)≤b := Nat.cast_le.mpr h
  unfold sellable defensiveStockRatio
  linarith

/-- The orders for some positions, before they are sorted. -/
theorem orderedOf_filterMap (positions : List Position) (ticker : String) :
    (orderedOf (positions.filterMap sellOrder) ticker : ℚ)≤
      sellable (quantityOf positions ticker) := by
  induction positions with
  | nil =>
    unfold sellable orderedOf quantityOf
    norm_num
  | cons p positions ih =>
    have hquantity : quantityOf (p::positions) ticker=
        (if p.ticker=ticker then p.quantity else 0)+quantityOf positions ticker := rfl
    have hone : (orderedOf ((p::positions).filterMap sellOrder) ticker : ℚ)=
        (if p.ticker=ticker then (sellQuantity p.quantity : ℚ) else 0)+
          orderedOf (positions.filterMap sellOrder) ticker := by
      by_cases hzero : sellQuantity p.quantity=0
      · have hnone : sellOrder p=none := if_pos hzero
        rw [List.filterMap_cons_none hnone,hzero]
        split
        · rw [Nat.cast_zero,zero_add]
        · rw [zero_add]
      · have hsome : sellOrder p=some ⟨p.ticker,p.market,sellQuantity p.quantity,
            sellQuantity p.quantity*p.currentPrice⟩ := if_neg hzero
        rw [List.filterMap_cons_some hsome]
        unfold orderedOf
        rw [List.map_cons,List.sum_cons,Nat.cast_add,Nat.cast_ite,Nat.cast_zero]
    rw [hone,hquantity]
    by_cases hticker : p.ticker=ticker
    · rw [if_pos hticker,if_pos hticker]
      have hsell := sellQuantity_le p.quantity
      unfold sellable at hsell ih ⊢
      rw [Nat.cast_add]
      linarith
    · rw [if_neg hticker,if_neg hticker,zero_add,zero_add]
      exact ih

/-- A batch sells no more of a ticker than is left of its positions. -/
theorem orderedOf_generate (positions : List Position) (ticker : String) :
    (orderedOf (generateDefensiveOrders positions) ticker : ℚ)≤
      sellable (quantityOf positions ticker) := by
  have hsorted : orderedOf (generateDefensiveOrders positions) ticker=
      orderedOf (positions.filterMap sellOrder) ticker :=
    ((List.perm_insertionSort _ _).map _).sum_eq
  rw [hsorted]
  exact orderedOf_filterMap positions ticker

/-- The orders that are sent sell no more either. -/
theorem orderedOf_ordersToSend (settings : Settings) (positions : List Position)
    (ticker : String) : (orderedOf (settings.ordersToSend positions) ticker : ℚ)≤
      sellable (quantityOf positions ticker) := by
  unfold Settings.ordersToSend
  by_cases hexecutor : settings.orderExecutor=true
  · rw [if_pos hexecutor]
    exact orderedOf_generate positions ticker
  · rw [if_neg hexecutor]
    refine le_trans ?_ (sellable_mono (Nat.zero_le _))
    unfold orderedOf sellable
    norm_num

/-- A ticker without a position has no quantity. -/
theorem quantityOf_eq_zero {positions : List Position} {ticker : String}
    (h : ∀ p∈positions,p.ticker≠ticker) : quantityOf positions ticker=0 := by
  apply List.sum_eq_zero
  intro n hn
  obtain ⟨p,hp,rfl⟩ := List.mem_map.mp hn
  exact if_neg (h p hp)

section Windows

variable {sent : List Sent} {start : ℚ} {ticker : String}

/-- Orders before a time are not within a cooldown from it. -/
theorem sentWithin_before (h : ∀ o∈sent,o.time< start) : sentWithin sent start ticker=0 := by
  apply List.sum_eq_zero
  intro n hn
  obtain ⟨o,ho,rfl⟩ := List.mem_map.mp hn
  exact if_neg fun hin => absurd hin.1 (not_le_of_gt (h o ho))

/-- An order after the cooldown is not within it. -/
theorem sentWithin_after {o : Sent} (h : start+cooldown≤o.time) :
    sentWithin (o::sent) start ticker=sentWithin sent start ticker := by
  unfold sentWithin
  rw [List.map_cons,List.sum_cons,if_neg fun hin => absurd hin.2.1 (not_lt_of_ge h),zero_add]

/-- One more order adds its quantity to its ticker at most. -/
theorem sentWithin_cons_le (o : Sent) (sent : List Sent) (start : ℚ) (ticker : String) :
    sentWithin (o::sent) start ticker≤
      (if o.ticker=ticker then o.quantity else 0)+sentWithin sent start ticker := by
  unfold sentWithin
  rw [List.map_cons,List.sum_cons]
  apply Nat.add_le_add_right
  split
  · rename_i hin
    rw [if_pos hin.2.2]
  · exact Nat.zero_le _

end Windows

variable {I : Type*} {s s' t : Monitor I}

/-- What guarded runs keep. -/
structure Kept (s : Monitor I) : Prop where
  /-- One trigger is handled at a time. -/
  alone : ∀ c d left rest,(s.place c).pending=some left→(s.place d).pending=some rest→c=d
  /-- No order is sent later than now. -/
  past : ∀ o∈s.sent,o.time≤ s.clock
  /-- With no trigger being handled, the cooldown covers every order. -/
  rest : (∀ c,(s.place c).pending=none)→∀ o∈s.sent,∃ t∈s.cooldownUntil,o.time+cooldown≤t
  /-- With no trigger being handled, the cooldown covers the last batch. -/
  last : (∀ c,(s.place c).pending=none)→
    ∀ b∈s.batches.head?,∃ t∈s.cooldownUntil,b.start+cooldown≤t
  /-- The batches are apart. -/
  spaced : Spaced cooldown (s.batches.map Batch.start)
  /-- The orders are covered. -/
  covered : ∀ b∈s.batches,∀ ticker,
    (sentWithin s.sent b.start ticker : ℚ)≤ sellable (b.held ticker)
  /-- The last batch is being handled, has begun, and has room for what is left of it. -/
  handled : ∀ c left,(s.place c).pending=some left→∃ b older,s.batches=b::older ∧
    b.start≤ s.clock ∧ ∀ ticker,
      ((sentWithin s.sent b.start ticker+orderedOf left ticker : ℕ) : ℚ)≤ sellable (b.held ticker)

/-- A step outside of the triggers keeps the orders and the batches. -/
theorem Kept.same (h : Kept s) (hpending : ∀ c,(t.place c).pending=(s.place c).pending)
    (hclock : s.clock≤t.clock) (huntil : t.cooldownUntil=s.cooldownUntil)
    (hbatches : t.batches=s.batches) (hsent : t.sent=s.sent) : Kept t := by
  refine ⟨?_,?_,?_,?_,?_,?_,?_⟩
  · intro c d left rest hc hd
    exact h.alone c d left rest ((hpending c).symm.trans hc) ((hpending d).symm.trans hd)
  · rw [hsent]
    exact fun o ho => (h.past o ho).trans hclock
  · intro hnone
    rw [hsent,huntil]
    exact h.rest fun c => (hpending c).symm.trans (hnone c)
  · intro hnone
    rw [hbatches,huntil]
    exact h.last fun c => (hpending c).symm.trans (hnone c)
  · rw [hbatches]
    exact h.spaced
  · rw [hbatches,hsent]
    exact h.covered
  · intro c left hc
    obtain ⟨b,older,hlast,hbegun,hroom⟩ := h.handled c left ((hpending c).symm.trans hc)
    refine ⟨b,older,hbatches.trans hlast,hbegun.trans hclock,?_⟩
    rw [hsent]
    exact hroom

/-- While a check handles a trigger, the others do not. -/
theorem Kept.others (h : Kept s) {c : Caller I} {left : List SellOrder}
    (hc : (s.place c).pending=some left) (d : Caller I) (hd : d≠c) :
    (s.place d).pending=none := by
  cases hpending : (s.place d).pending with
  | none => rfl
  | some rest => exact absurd (h.alone d c rest left hpending hc) hd

/-- A check that handles a trigger is the one that has moved. -/
theorem eq_of_pending {c d : Caller I} {left : List SellOrder}
    (h : ∀ e,e≠c→(t.place e).pending=none) (hd : (t.place d).pending=some left) : d=c := by
  by_contra hne
  exact absurd ((h d hne).symm.trans hd) nofun

/-- Only the check that has moved handles a trigger. -/
theorem alone_of_ne {c : Caller I} (h : ∀ e,e≠c→(t.place e).pending=none) (d e : Caller I)
    (left rest : List SellOrder) (hd : (t.place d).pending=some left)
    (he : (t.place e).pending=some rest) : d=e := by
  exact (eq_of_pending h hd).trans (eq_of_pending h he).symm

/-- A time that is not in the cooldown is after it. -/
theorem le_of_not_inCooldown {now time : ℚ} (h : s.isInCooldown now=false)
    (ht : time∈s.cooldownUntil) : time≤now := by
  unfold Monitor.isInCooldown at h
  rw [Option.mem_def.mp ht] at h
  exact not_lt.mp (of_decide_eq_false h)

variable [DecidableEq I] {settings : Settings}

/-- What a step does, with what the guard says of a trigger. -/
inductive Move (settings : Settings) (s : Monitor I) : Monitor I→Prop
  /-- Shares are bought or sold. -/
  | traded (held : String→ℕ) : Move settings s {s with held := held}
  /-- A check goes on outside of a trigger. -/
  | outside (c : Caller I) (place : Place) (now : ℚ) (hbefore : (s.place c).pending=none)
      (hafter : place.pending=none) (hclock : s.clock≤now) :
      Move settings s {s.move c place with clock := now}
  /-- A trigger is found. -/
  | triggered (c : Caller I) (positions : List Position) (now : ℚ) (hclock : s.clock≤now)
      (halone : TriggerAlone s positions now) : Move settings s (s.trigger settings c positions now)
  /-- An order is sent. -/
  | sent (c : Caller I) (o : SellOrder) (left : List SellOrder) (now : ℚ)
      (hplace : s.place c=.ordering (o::left)) (hclock : s.clock≤now) :
      Move settings s (s.send c o left now)
  /-- A trigger goes on after its orders. -/
  | staged (c : Caller I) (place : Place) (hbefore : (s.place c).pending=some [])
      (hafter : place.pending=some []) : Move settings s (s.move c place)
  /-- The cooldown begins. -/
  | finished (c : Caller I) (now : ℚ) (hplace : s.place c=.recording) (hclock : s.clock≤now) :
      Move settings s (s.beginCooldown c now)

/-- Only a check outside of a trigger has positions. -/
theorem pending_of_positions {place : Place} {answer positions : List Position}
    (h : place.positions answer=some positions) : place.pending=none := by
  cases place with
  | readingUs kr => rfl
  | readingDb => rfl
  | _ => cases h

/-- Every step that meets the guard is one of the moves. -/
theorem move_of_step {e : Event I} (ha : TriggersAlone settings s e)
    (hs : step settings s e=some s') : Move settings s s' := by
  cases e with
  | trade held =>
    obtain rfl := Option.some.inj hs
    exact .traded held
  | start c now =>
    unfold step at hs
    dsimp only at hs
    obtain ⟨hstart,hsome⟩ := Option.ite_none_right_eq_some.mp hs
    obtain rfl := Option.some.inj hsome
    refine .outside c _ now ?_ ?_ hstart.2.1
    · rw [hstart.1]
      rfl
    · split
      · rfl
      · rfl
  | readKr c answer =>
    unfold step at hs
    dsimp only at hs
    obtain ⟨hplace,hsome⟩ := Option.ite_none_right_eq_some.mp hs
    obtain rfl := Option.some.inj hsome
    refine .outside c _ s.clock ?_ rfl le_rfl
    rw [hplace]
    rfl
  | fail c =>
    unfold step at hs
    dsimp only at hs
    split at hs
    · rename_i hplace
      obtain rfl := Option.some.inj hs
      refine .outside c _ s.clock ?_ rfl le_rfl
      rw [hplace]
      rfl
    · rename_i kr hplace
      obtain rfl := Option.some.inj hs
      refine .outside c _ s.clock ?_ rfl le_rfl
      rw [hplace]
      rfl
    · cases hs
  | readLast c answer now =>
    unfold step at hs
    dsimp only at hs
    cases hpositions : (s.place c).positions answer with
    | none =>
      rw [hpositions] at hs
      cases hs
    | some positions =>
      rw [hpositions] at hs
      dsimp only at hs
      obtain ⟨hclock,hsome⟩ := Option.ite_none_right_eq_some.mp hs
      obtain rfl := Option.some.inj hsome
      unfold Monitor.evaluate
      by_cases htrigger : positions≠[] ∧ settings.isTriggered positions=true
      · rw [if_pos htrigger]
        exact .triggered c positions now hclock
          (ha positions hpositions htrigger.1 htrigger.2)
      · rw [if_neg htrigger]
        exact .outside c .idle now (pending_of_positions hpositions) rfl hclock
  | order c now =>
    unfold step at hs
    dsimp only at hs
    split at hs
    · rename_i o left hplace
      obtain ⟨hclock,hsome⟩ := Option.ite_none_right_eq_some.mp hs
      obtain rfl := Option.some.inj hsome
      exact .sent c o left now hplace hclock
    · cases hs
  | ordered c =>
    unfold step at hs
    dsimp only at hs
    obtain ⟨hplace,hsome⟩ := Option.ite_none_right_eq_some.mp hs
    obtain rfl := Option.some.inj hsome
    refine .staged c .alerting ?_ rfl
    rw [hplace]
    rfl
  | alerted c =>
    unfold step at hs
    dsimp only at hs
    obtain ⟨hplace,hsome⟩ := Option.ite_none_right_eq_some.mp hs
    obtain rfl := Option.some.inj hsome
    refine .staged c .recording ?_ rfl
    rw [hplace]
    rfl
  | recorded c now =>
    unfold step at hs
    dsimp only at hs
    obtain ⟨hplace,hsome⟩ := Option.ite_none_right_eq_some.mp hs
    obtain rfl := Option.some.inj hsome
    exact .finished c now hplace.1 hplace.2

/-- The check that moves. -/
theorem pending_move_self (c : Caller I) (place : Place) :
    ((s.move c place).place c).pending=place.pending := by
  unfold Monitor.move
  dsimp only
  rw [Function.update_self]

/-- A move to a place with the same orders left. -/
theorem pending_move {c : Caller I} {place : Place} (h : place.pending=(s.place c).pending)
    (d : Caller I) : ((s.move c place).place d).pending=(s.place d).pending := by
  unfold Monitor.move
  dsimp only
  by_cases hd : d=c
  · subst hd
    rw [Function.update_self]
    exact h
  · rw [Function.update_of_ne hd]

/-- After a move of the one check that handles a trigger only it may handle one. -/
theorem pending_none_of_ne {c d : Caller I} {place : Place} (h : ∀ e,e≠c→(s.place e).pending=none)
    (hd : d≠c) : ((s.move c place).place d).pending=none := by
  unfold Monitor.move
  dsimp only
  rw [Function.update_of_ne hd]
  exact h d hd

/-- A trigger that is found alone opens a batch with room for its orders. -/
theorem Kept.triggered (h : Kept s) {c : Caller I} {positions : List Position} {now : ℚ}
    (hclock : s.clock≤now) (halone : TriggerAlone s positions now) :
    Kept (s.trigger settings c positions now) := by
  have hself : ((s.trigger settings c positions now).place c).pending=
      some (settings.ordersToSend positions) :=
    pending_move_self c _
  have hothers : ∀ d,d≠c→((s.trigger settings c positions now).place d).pending=none :=
    fun d hd => pending_none_of_ne (fun e _ => halone.alone e) hd
  have hbusy : ¬∀ d,((s.trigger settings c positions now).place d).pending=none :=
    fun hnone => absurd (hself.symm.trans (hnone c)) nofun
  have hbefore : ∀ o∈s.sent,o.time< now := by
    intro o ho
    obtain ⟨time,htime,hcover⟩ := h.rest halone.alone o ho
    have hpassed : time≤now := le_of_not_inCooldown halone.passed htime
    have hcooldown := cooldown_pos
    linarith
  have hroom : ∀ ticker,
      ((sentWithin s.sent now ticker+orderedOf (settings.ordersToSend positions) ticker : ℕ) : ℚ)≤
        sellable (s.held ticker) := by
    intro ticker
    have hread : quantityOf positions ticker≤ s.held ticker := by
      by_cases hmem : ∃ p∈positions,p.ticker=ticker
      · obtain ⟨p,hp,rfl⟩ := hmem
        exact halone.held p hp
      · rw [quantityOf_eq_zero fun p hp hticker => hmem ⟨p,hp,hticker⟩]
        exact Nat.zero_le _
    rw [sentWithin_before hbefore,zero_add]
    exact (orderedOf_ordersToSend settings positions ticker).trans (sellable_mono hread)
  have hspaced : Spaced cooldown ((s.trigger settings c positions now).batches.map Batch.start) := by
    refine h.spaced.cons cooldown_pos.le ?_
    intro last hlast
    rw [List.head?_map] at hlast
    obtain ⟨b,hb,rfl⟩ := Option.mem_map.mp hlast
    obtain ⟨time,htime,hcover⟩ := h.last halone.alone b hb
    exact hcover.trans (le_of_not_inCooldown halone.passed htime)
  have hcovered : ∀ b∈(s.trigger settings c positions now).batches,∀ ticker,
      (sentWithin s.sent b.start ticker : ℚ)≤ sellable (b.held ticker) := by
    intro b hb ticker
    obtain rfl | hold := List.mem_cons.mp hb
    · exact (Nat.cast_le.mpr (Nat.le_add_right _ _)).trans (hroom ticker)
    · exact h.covered b hold ticker
  have hhandled : ∀ d left,((s.trigger settings c positions now).place d).pending=some left→
      ∃ b older,(s.trigger settings c positions now).batches=b::older ∧ b.start≤now ∧
        ∀ ticker,((sentWithin s.sent b.start ticker+orderedOf left ticker : ℕ) : ℚ)≤
          sellable (b.held ticker) := by
    intro d left hd
    obtain rfl := eq_of_pending hothers hd
    obtain rfl := Option.some.inj (hself.symm.trans hd)
    exact ⟨⟨now,s.held⟩,s.batches,rfl,le_rfl,hroom⟩
  exact ⟨alone_of_ne hothers,fun o ho => (h.past o ho).trans hclock,
    fun hnone => absurd hnone hbusy,fun hnone => absurd hnone hbusy,hspaced,hcovered,hhandled⟩

/-- An order of the last batch is in its room and after the cooldown of the others. -/
theorem Kept.sent (h : Kept s) {c : Caller I} {o : SellOrder} {left : List SellOrder} {now : ℚ}
    (hplace : s.place c=.ordering (o::left)) (hclock : s.clock≤now) :
    Kept (s.send c o left now) := by
  have hpending : (s.place c).pending=some (o::left) := by
    rw [hplace]
    rfl
  have hself : ((s.send c o left now).place c).pending=some left :=
    pending_move_self c _
  have hothers : ∀ d,d≠c→((s.send c o left now).place d).pending=none :=
    fun d hd => pending_none_of_ne (h.others hpending) hd
  have hbusy : ¬∀ d,((s.send c o left now).place d).pending=none :=
    fun hnone => absurd (hself.symm.trans (hnone c)) nofun
  obtain ⟨b,older,hbatches,hbegun,hroom⟩ := h.handled c _ hpending
  have hnow : ∀ ticker,
      ((sentWithin (⟨now,o.ticker,o.quantity⟩::s.sent) b.start ticker+
        orderedOf left ticker : ℕ) : ℚ)≤ sellable (b.held ticker) := by
    intro ticker
    refine le_trans (Nat.cast_le.mpr ?_) (hroom ticker)
    have hone := sentWithin_cons_le ⟨now,o.ticker,o.quantity⟩ s.sent b.start ticker
    have hleft : orderedOf (o::left) ticker=
        (if o.ticker=ticker then o.quantity else 0)+orderedOf left ticker := rfl
    rw [hleft]
    dsimp only at hone
    omega
  have hpast : ∀ order∈(s.send c o left now).sent,order.time≤now := by
    intro order horder
    obtain rfl | hold := List.mem_cons.mp horder
    · exact le_rfl
    · exact (h.past order hold).trans hclock
  have hcovered : ∀ batch∈s.batches,∀ ticker,
      (sentWithin (s.send c o left now).sent batch.start ticker : ℚ)≤
        sellable (batch.held ticker) := by
    intro batch hbatch ticker
    have hin : batch∈b::older := hbatches▸hbatch
    obtain rfl | hold := List.mem_cons.mp hin
    · exact (Nat.cast_le.mpr (Nat.le_add_right _ _)).trans (hnow ticker)
    -- an order of the last batch is sent after the cooldown of the older ones
    · have hspaced : Spaced cooldown (b.start::older.map Batch.start) := by
        have hs := h.spaced
        rw [hbatches] at hs
        exact hs
      have hapart : batch.start+cooldown≤b.start :=
        List.rel_of_pairwise_cons hspaced (List.mem_map_of_mem hold)
      have hafter : sentWithin (⟨now,o.ticker,o.quantity⟩::s.sent) batch.start ticker=
          sentWithin s.sent batch.start ticker :=
        sentWithin_after (hapart.trans (hbegun.trans hclock))
      have hkept := h.covered batch hbatch ticker
      rw [←hafter] at hkept
      exact hkept
  have hhandled : ∀ d rest,((s.send c o left now).place d).pending=some rest→
      ∃ b older,s.batches=b::older ∧ b.start≤now ∧ ∀ ticker,
        ((sentWithin (s.send c o left now).sent b.start ticker+orderedOf rest ticker : ℕ) : ℚ)≤
          sellable (b.held ticker) := by
    intro d rest hd
    obtain rfl := eq_of_pending hothers hd
    obtain rfl := Option.some.inj (hself.symm.trans hd)
    exact ⟨b,older,hbatches,hbegun.trans hclock,hnow⟩
  exact ⟨alone_of_ne hothers,hpast,fun hnone => absurd hnone hbusy,
    fun hnone => absurd hnone hbusy,h.spaced,hcovered,hhandled⟩

/-- The cooldown begins after all orders of the last batch. -/
theorem Kept.finished (h : Kept s) {c : Caller I} {now : ℚ} (hplace : s.place c=.recording)
    (hclock : s.clock≤now) : Kept (s.beginCooldown c now) := by
  have hpending : (s.place c).pending=some [] := by
    rw [hplace]
    rfl
  have hnone : ∀ d,((s.beginCooldown c now).place d).pending=none := by
    intro d
    by_cases hd : d=c
    · subst hd
      exact pending_move_self d _
    · exact pending_none_of_ne (h.others hpending) hd
  obtain ⟨b,older,hbatches,hbegun,_⟩ := h.handled c _ hpending
  refine ⟨?_,?_,?_,?_,h.spaced,h.covered,?_⟩
  · exact fun d _ left _ hd => absurd ((hnone d).symm.trans hd) nofun
  · exact fun o ho => (h.past o ho).trans hclock
  · intro _ o ho
    exact ⟨now+cooldown,rfl,add_le_add_left ((h.past o ho).trans hclock) cooldown⟩
  · intro _ last hlast
    have hb : (b::older).head?=some last := hbatches ▸ hlast
    obtain rfl := Option.some.inj hb
    exact ⟨now+cooldown,rfl,add_le_add_left (hbegun.trans hclock) cooldown⟩
  · exact fun d left hd => absurd ((hnone d).symm.trans hd) nofun

/-- Every move keeps the account. -/
theorem Kept.move (h : Kept s) (hmove : Move settings s s') : Kept s' := by
  cases hmove with
  | traded held => exact h.same (fun _ => rfl) le_rfl rfl rfl rfl
  | outside c place now hbefore hafter hclock =>
    exact h.same (pending_move (hafter.trans hbefore.symm)) hclock rfl rfl rfl
  | triggered c positions now hclock halone => exact h.triggered hclock halone
  | sent c o left now hplace hclock => exact h.sent hplace hclock
  | staged c place hbefore hafter =>
    exact h.same (pending_move (hafter.trans hbefore.symm)) le_rfl rfl rfl rfl
  | finished c now hplace hclock => exact h.finished hplace hclock

/-- Every guarded run keeps the account. -/
theorem kept_of_reaches {clock : ℚ} {held : String→ℕ}
    (h : Reaches (step settings) (TriggersAlone settings) (.init I clock held) s) : Kept s := by
  apply h.invariant (P := Kept)
  · refine ⟨nofun,nofun,nofun,nofun,spaced_nil,nofun,nofun⟩
  · intro s e s' _ hkept hguard hs
    exact hkept.move (move_of_step hguard hs)

/-- In every run in which a check finds a trigger only while no other trigger is being
handled and no cooldown is on, and reads no more shares than are held, there is one batch
in a cooldown, and the orders sell what the defensive ratio leaves. -/
theorem batches_defended {clock : ℚ} {held : String→ℕ}
    (h : Reaches (step settings) (TriggersAlone settings) (.init I clock held) s) :
    Defended s := by
  have hkept := kept_of_reaches h
  exact ⟨hkept.spaced,hkept.covered⟩

section Runs

/-- The callers are the loop and the calls. -/
instance [Fintype I] : Fintype (Caller I) :=
  .ofSurjective (fun c : Option I => c.elim .loop .manual) fun
    | .loop => ⟨none,rfl⟩
    | .manual i => ⟨some i,rfl⟩

instance [Fintype I] (s : Monitor I) (positions : List Position) (now : ℚ) :
    Decidable (TriggerAlone s positions now) :=
  decidable_of_iff ((∀ c,(s.place c).pending=none) ∧ s.isInCooldown now=false ∧
      ∀ p∈positions,quantityOf positions p.ticker≤ s.held p.ticker)
    ⟨fun h => ⟨h.1,h.2.1,h.2.2⟩,fun h => ⟨h.alone,h.passed,h.held⟩⟩

instance [Fintype I] (settings : Settings) (s : Monitor I) (e : Event I) :
    Decidable (TriggersAlone settings s e) :=
  match e with
  | .readLast c answer now => inferInstanceAs (Decidable (∀ positions∈(s.place c).positions answer,
      positions≠[]→settings.isTriggered positions=true→TriggerAlone s positions now))
  | .trade _ => .isTrue trivial
  | .start _ _ => .isTrue trivial
  | .readKr _ _ => .isTrue trivial
  | .fail _ => .isTrue trivial
  | .order _ _ => .isTrue trivial
  | .ordered _ => .isTrue trivial
  | .alerted _ => .isTrue trivial
  | .recorded _ _ => .isTrue trivial

/-- A monitor with a client and an executor that stops at ten percent. -/
def sampleSettings : Settings := ⟨true,true,-0.1,fun _ => -0.25⟩

/-- A hundred shares that have lost half of their value. -/
def samplePosition : Position := ⟨"005930",.krx,100,100,50⟩

/-- The shares that are held. -/
def sampleHeld (ticker : String) : ℕ := if ticker="005930" then 100 else 0

/-- The loop finds a trigger and sends its batch, and a call finds one after the cooldown. -/
def apartEvents : List (Event Unit) :=
  [.start .loop 300,.readKr .loop [samplePosition],.readLast .loop [] 301,.order .loop 302,
    .trade fun _ => 30,.ordered .loop,.alerted .loop,.recorded .loop 310,
    .start (.manual ()) 2110,.readKr (.manual ()) [{samplePosition with quantity := 30}],
    .readLast (.manual ()) [] 2111,.order (.manual ()) 2112]

/-- Both batches are sent, and they are defended. -/
theorem batches_defended_apart :
    ∃ s,play (step sampleSettings) (TriggersAlone sampleSettings) (.init Unit 0 sampleHeld)
        apartEvents=some s ∧
      s.sent.map Sent.quantity=[21,70] ∧ Defended s := by
  obtain ⟨s,hplay,hend,hreach⟩ := play_ends (step sampleSettings) (TriggersAlone sampleSettings)
    (.init Unit 0 sampleHeld) (fun s => s.sent.map Sent.quantity=[21,70]) apartEvents
    (by decide +kernel)
  exact ⟨s,hplay,hend,batches_defended hreach⟩

/-- The loop and a call both read the shares before either has sent its batch. -/
def overlappingEvents : List (Event Unit) :=
  [.start .loop 300,.start (.manual ()) 300,.readKr .loop [samplePosition],
    .readKr (.manual ()) [samplePosition],.readLast .loop [] 301,.readLast (.manual ()) [] 302,
    .order .loop 303,.order (.manual ()) 304]

/-- Two overlapping checks sell more than was held. -/
theorem not_defended :
    ¬∀ s,Reaches (step sampleSettings) (fun _ _ => True) (.init Unit 0 sampleHeld) s→
      Defended s := by
  intro hall
  obtain ⟨s,_,hend,hreach⟩ := play_ends (step sampleSettings) (fun _ _ => True)
    (.init Unit 0 sampleHeld)
    (fun s => ∃ b∈s.batches,sellable (b.held "005930")< sentWithin s.sent b.start "005930")
    overlappingEvents (by decide +kernel)
  obtain ⟨b,hb,hmore⟩ := hend
  exact absurd ((hall s hreach).covered b hb "005930") (not_le_of_gt hmore)

end Runs

end Aqts.EmergencyMonitor
