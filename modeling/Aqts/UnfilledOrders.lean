import Aqts.BrokerPlacements
import Aqts.GuardedRuns

/-!
# Replacement of an unfilled order

`_handle_unfilled` against a broker that may fill the original order at any
moment until it is cancelled. The handler asks for the details of the order,
requests its cancellation, whose failure is only logged, and sends a market
order for the quantity its caller gave it. The details and the cancellation are
methods that the client does not define, so what they do is an input: a client
without them raises when it is asked for the details.
-/

namespace Aqts.UnfilledOrders

open GuardedRuns OrderTypes OrderExecutor

/-- The original order at the broker. -/
structure Original where
  /-- Ticker. -/
  ticker : String
  /-- Market. -/
  market : Market
  /-- Side. -/
  side : OrderSide
  /-- Quantity. -/
  quantity : ℤ
  deriving DecidableEq

/-- A call of `_handle_unfilled` and the mode it runs in. -/
structure Handling where
  /-- `is_backtest` of the client. -/
  isBacktest : Bool
  /-- `order_id`. -/
  orderId : String
  /-- `remaining_qty`. -/
  remainingQty : ℤ
  deriving DecidableEq

/-- A value of the details of an order. -/
inductive DetailValue
  /-- The key is missing. -/
  | missing
  /-- A text, which the enumerations of the program also are. -/
  | text (value : String)
  /-- Anything else. -/
  | other
  deriving DecidableEq

/-- The details of an order; a missing ticker is empty. -/
structure OrderDetail where
  /-- `ticker`. -/
  ticker : String
  /-- `side`. -/
  side : DetailValue
  /-- `market`. -/
  market : DetailValue
  deriving DecidableEq

/-- The side of the details, BUY unless it is known to be another. -/
def OrderDetail.orderSide (detail : OrderDetail) : OrderSide :=
  match detail.side with
  | .text value => if value="SELL" then .sell else .buy
  | _ => .buy

/-- The market of the details, KRX unless it is known to be another. -/
def OrderDetail.orderMarket (detail : OrderDetail) : Market :=
  match detail.market with
  | .text value =>
    if value="NYSE" then .nyse
    else if value="NASDAQ" then .nasdaq
    else if value="AMEX" then .amex
    else .krx
  | _ => .krx

/-- A market order that replaces the original. -/
structure Replacement where
  /-- Ticker. -/
  ticker : String
  /-- Market. -/
  market : Market
  /-- Side. -/
  side : OrderSide
  /-- Quantity. -/
  quantity : ℤ
  /-- Shares executed so far. -/
  filled : ℤ
  deriving DecidableEq

/-- Where the handler is. -/
inductive Phase
  /-- At its first statement. -/
  | started
  /-- It waits for the cancellation. -/
  | cancelling (detail : OrderDetail)
  /-- It waits for the answer to the market order. -/
  | placing (detail : OrderDetail)
  /-- It has returned. -/
  | finished (result : OrderResult)
  deriving DecidableEq

/-- The original order, the handler and the replacement. -/
structure World where
  /-- Shares of the original executed so far. -/
  filled : ℤ
  /-- The original can still be filled. -/
  live : Bool
  /-- The handler. -/
  phase : Phase
  /-- The replacement, once the broker has it. -/
  replacement : Option Replacement
  deriving DecidableEq

/-- What happens next. -/
inductive Event
  /-- The original is filled by some shares. -/
  | fill (shares : ℤ)
  /-- The backtest mode simulates the replacement. -/
  | simulate (now : ℚ)
  /-- `get_kr_order_detail` returns. -/
  | detail (detail : OrderDetail) (now : ℚ)
  /-- `get_kr_order_detail` raises. -/
  | detailRaises (text : String) (now : ℚ)
  /-- `cancel_kr_order` returns. -/
  | cancelSucceeds
  /-- `cancel_kr_order` raises; the broker may have cancelled the order anyway. -/
  | cancelFails (applied : Bool)
  /-- The broker call of the market order ends; one that raises may have been
  accepted anyway. -/
  | placed (outcome : BrokerOutcome) (accepted : Bool) (now : ℚ)
  /-- The replacement is filled by some shares. -/
  | fillReplacement (shares : ℤ)
  deriving DecidableEq

/-- The result of the exception branch. -/
def failedHandling (h : Handling) (text : String) (now : ℚ) : OrderResult where
  orderId := h.orderId
  ticker := ""
  market := .krx
  side := .buy
  quantity := h.remainingQty
  filledQuantity := 0
  avgPrice := 0
  status := .failed
  executedAt := now
  errorMessage := text

/-- The result of the backtest mode. -/
def simulatedResult (h : Handling) (now : ℚ) : OrderResult where
  orderId := h.orderId
  ticker := "MOCK_"++h.orderId
  market := .krx
  side := .buy
  quantity := h.remainingQty
  filledQuantity := h.remainingQty
  avgPrice := 100
  status := .filled
  executedAt := now

/-- The replacement of the backtest mode, which is executed at once. -/
def simulatedReplacement (h : Handling) : Replacement :=
  ⟨"MOCK_"++h.orderId,.krx,.buy,h.remainingQty,h.remainingQty⟩

/-- The market order for the remaining quantity. -/
def replacementOf (h : Handling) (detail : OrderDetail) : Replacement :=
  ⟨detail.ticker,detail.orderMarket,detail.orderSide,h.remainingQty,0⟩

/-- What the handler returns after the market order. -/
def placedResult (h : Handling) (detail : OrderDetail) (now : ℚ) : BrokerOutcome→OrderResult
  | .accepted orderId filledQty avgPrice => {
      orderId := orderId
      ticker := detail.ticker
      market := detail.orderMarket
      side := detail.orderSide
      quantity := h.remainingQty
      filledQuantity := filledQty
      avgPrice := avgPrice
      status := .submitted
      executedAt := now }
  | .unreadable text => failedHandling h text now
  | .raises text => failedHandling h text now

/-- The handler after the details. -/
def afterDetail (h : Handling) (detail : OrderDetail) (now : ℚ) : Phase :=
  if detail.ticker="" then
    .finished (failedHandling h ("주문 정보에서 종목 코드를 찾을 수 없습니다: "++h.orderId) now)
  else .cancelling detail

variable (o : Original) (h : Handling)

/-- One step, if it can happen. -/
def step (s : World) : Event→Option World
  | .fill shares =>
    if s.live=true ∧ 0≤ shares ∧ s.filled+shares≤o.quantity then
      some {s with filled := s.filled+shares}
    else none
  | .simulate now =>
    if s.phase=.started ∧ h.isBacktest=true then
      some {s with
        phase := .finished (simulatedResult h now)
        replacement := some (simulatedReplacement h)}
    else none
  | .detail detail now =>
    if s.phase=.started ∧ h.isBacktest=false then some {s with phase := afterDetail h detail now}
    else none
  | .detailRaises text now =>
    if s.phase=.started ∧ h.isBacktest=false then
      some {s with phase := .finished (failedHandling h text now)}
    else none
  | .cancelSucceeds =>
    match s.phase with
    | .cancelling detail => some {s with live := false,phase := .placing detail}
    | _ => none
  | .cancelFails applied =>
    match s.phase with
    | .cancelling detail => some {s with live := s.live && !applied,phase := .placing detail}
    | _ => none
  | .placed outcome accepted now =>
    match s.phase with
    | .placing detail => some {s with
        phase := .finished (placedResult h detail now outcome)
        replacement :=
          if outcome.isAccepted=true ∨ accepted=true then some (replacementOf h detail) else none}
    | _ => none
  | .fillReplacement shares =>
    match s.replacement with
    | some r =>
      if 0≤ shares ∧ r.filled+shares≤ r.quantity then
        some {s with replacement := some {r with filled := r.filled+shares}}
      else none
    | none => none

/-- The handler is called for an order of which some shares are executed. -/
def start (filled : ℤ) : World := ⟨filled,true,.started,none⟩

/-- A replacement for the side, the ticker and the market of the original. -/
def SameOrder (r : Replacement) : Prop :=
  r.side=o.side ∧ r.ticker=o.ticker ∧ r.market=o.market

instance (r : Replacement) : Decidable (SameOrder o r) := inferInstanceAs (Decidable (_ ∧ _ ∧ _))

/-- Shares executed by both orders. -/
def World.executed (s : World) : ℤ :=
  s.filled+(match s.replacement with
    | some r => r.filled
    | none => 0)

/-- Both orders together execute at most the quantity of the original, and the
replacement is for the same side, ticker and market. -/
def Replaces (s : World) : Prop :=
  s.executed≤o.quantity ∧ ∀ r∈s.replacement,SameOrder o r

instance : DecidablePred (Replaces o) := fun s =>
  inferInstanceAs (Decidable (s.executed≤o.quantity ∧ ∀ r∈s.replacement,SameOrder o r))

/-- Shares that the original can come to: all of them while it is live. -/
def World.reach (s : World) : ℤ := if s.live=true then o.quantity else s.filled

/-- A replacement that leaves room for what the original can come to and is for
the same side, ticker and market. -/
def Fits (s : World) (r : Replacement) : Prop :=
  s.reach o+r.quantity≤o.quantity ∧ SameOrder o r

instance (s : World) (r : Replacement) : Decidable (Fits o s r) :=
  inferInstanceAs (Decidable (_ ∧ _))

/-- The market order that the handler waits for, if it is accepted, fits. -/
def PlacingFits (s : World) : Phase→Prop
  | .placing detail => Fits o s (replacementOf h detail)
  | _ => True

instance (s : World) : (phase : Phase)→Decidable (PlacingFits o h s phase)
  | .placing detail => inferInstanceAs (Decidable (Fits o s (replacementOf h detail)))
  | .started => .isTrue trivial
  | .cancelling _ => .isTrue trivial
  | .finished _ => .isTrue trivial

/-- The condition on a step: a replacement is sent, or simulated, only if it fits. -/
def SentIfFits (s : World) : Event→Prop
  | .simulate _ => Fits o s (simulatedReplacement h)
  | .placed _ _ _ => PlacingFits o h s s.phase
  | _ => True

instance (s : World) : (e : Event)→Decidable (SentIfFits o h s e)
  | .simulate _ => inferInstanceAs (Decidable (Fits o s (simulatedReplacement h)))
  | .placed _ _ _ => inferInstanceAs (Decidable (PlacingFits o h s s.phase))
  | .fill _ => .isTrue trivial
  | .detail _ _ => .isTrue trivial
  | .detailRaises _ _ => .isTrue trivial
  | .cancelSucceeds => .isTrue trivial
  | .cancelFails _ => .isTrue trivial
  | .fillReplacement _ => .isTrue trivial

/-- The cancellation that succeeds ends the original. -/
theorem step_cancelSucceeds {s s' : World} (hstep : step o h s .cancelSucceeds=some s') :
    ∃ detail,s.phase=.cancelling detail ∧
      s'={s with live := false,phase := .placing detail} := by
  dsimp only [step] at hstep
  split at hstep
  · rename_i detail hphase
    exact ⟨detail,hphase,(Option.some.inj hstep).symm⟩
  · cases hstep

/-- The cancellation that raises may have ended the original. -/
theorem step_cancelFails {s s' : World} {applied : Bool}
    (hstep : step o h s (.cancelFails applied)=some s') :
    ∃ detail,s.phase=.cancelling detail ∧
      s'={s with live := s.live && !applied,phase := .placing detail} := by
  dsimp only [step] at hstep
  split at hstep
  · rename_i detail hphase
    exact ⟨detail,hphase,(Option.some.inj hstep).symm⟩
  · cases hstep

/-- The market order comes after the cancellation. -/
theorem step_placed {s s' : World} {outcome : BrokerOutcome} {accepted : Bool} {now : ℚ}
    (hstep : step o h s (.placed outcome accepted now)=some s') :
    ∃ detail,s.phase=.placing detail ∧
      s'={s with
        phase := .finished (placedResult h detail now outcome)
        replacement :=
          if outcome.isAccepted=true ∨ accepted=true then some (replacementOf h detail)
          else none} := by
  dsimp only [step] at hstep
  split at hstep
  · rename_i detail hphase
    exact ⟨detail,hphase,(Option.some.inj hstep).symm⟩
  · cases hstep

/-- The broker fills a replacement that it has. -/
theorem step_fillReplacement {s s' : World} {shares : ℤ}
    (hstep : step o h s (.fillReplacement shares)=some s') :
    ∃ r,s.replacement=some r ∧ r.filled+shares≤ r.quantity ∧
      s'={s with replacement := some {r with filled := r.filled+shares}} := by
  dsimp only [step] at hstep
  split at hstep
  · rename_i r hr
    obtain ⟨⟨_,hmost⟩,hs'⟩ := Option.ite_none_right_eq_some.mp hstep
    exact ⟨r,hr,hmost,(Option.some.inj hs').symm⟩
  · cases hstep

/-- The handler has returned. -/
def Phase.isFinished : Phase→Bool
  | .finished _ => true
  | _ => false

/-- A call that has only begun, or has returned, neither cancels nor places an
order. -/
theorem not_cancelling {phase : Phase} (hphase : phase=.started ∨ phase.isFinished=true)
    (detail : OrderDetail) : phase≠.cancelling detail ∧ phase≠.placing detail := by
  constructor
  · rintro rfl
    exact hphase.elim nofun nofun
  · rintro rfl
    exact hphase.elim nofun nofun

/-- What holds in every state of a run whose replacements fit. -/
structure Covered (s : World) : Prop where
  /-- The original is filled at most once over. -/
  filled : s.filled≤o.quantity
  /-- A replacement is sent by the last statement of the handler. -/
  sent : ∀ r∈s.replacement,s.phase.isFinished=true
  /-- The replacement leaves room for what the original can come to. -/
  fits : ∀ r∈s.replacement,Fits o s r
  /-- The replacement is filled at most once over. -/
  most : ∀ r∈s.replacement,r.filled≤ max 0 r.quantity

/-- The original is filled at most as far as it can come to. -/
theorem World.filled_le_reach {s : World} (hfilled : s.filled≤o.quantity) :
    s.filled≤ s.reach o := by
  unfold World.reach
  split
  · exact hfilled
  · exact le_refl _

/-- Both orders together execute at most the quantity of the original. -/
theorem Covered.replaces {s : World} (hs : Covered o s) : Replaces o s := by
  refine ⟨?_,fun r hr => (hs.fits r hr).2⟩
  have hfilled := hs.filled
  unfold World.executed
  cases hr : s.replacement with
  | none =>
    dsimp only
    omega
  | some r =>
    have hroom := (hs.fits r hr).1
    have hmost := hs.most r hr
    have hreach := World.filled_le_reach o hfilled
    dsimp only
    omega

/-- The handler has sent nothing before it returns. -/
theorem Covered.unsent {s : World} (hs : Covered o s) (hphase : s.phase.isFinished=false) :
    s.replacement=none := by
  cases hr : s.replacement with
  | none => rfl
  | some r =>
    have hsent := hs.sent r hr
    rw [hphase] at hsent
    cases hsent

/-- The call begins covered. -/
theorem start_covered {filled : ℤ} (hfilled : filled≤o.quantity) : Covered o (start filled) :=
  ⟨hfilled,nofun,nofun,nofun⟩

/-- Without a replacement only the fill of the original counts. -/
theorem covered_of_unsent {s : World} (hfilled : s.filled≤o.quantity) (hnone : s.replacement=none) :
    Covered o s :=
  ⟨hfilled,by simp [hnone],by simp [hnone],by simp [hnone]⟩

/-- A replacement that fits and has executed no more than its quantity. -/
theorem covered_of_sent {s : World} {r : Replacement} (hfilled : s.filled≤o.quantity)
    (hphase : s.phase.isFinished=true) (hsent : s.replacement=some r) (hfits : Fits o s r)
    (hmost : r.filled≤ max 0 r.quantity) : Covered o s := by
  have honly : ∀ other∈s.replacement,other=r := by
    intro other hother
    exact (Option.some.inj (hsent.symm.trans hother)).symm
  exact ⟨hfilled,fun _ _ => hphase,fun other ho => (honly other ho).symm ▸ hfits,
    fun other ho => (honly other ho).symm ▸ hmost⟩

/-- A fill of the original keeps the cover. -/
theorem Covered.fill {s : World} (hs : Covered o s) {shares : ℤ} (hlive : s.live=true)
    (hmost : s.filled+shares≤o.quantity) : Covered o {s with filled := s.filled+shares} := by
  refine ⟨hmost,hs.sent,fun r hr => ⟨?_,(hs.fits r hr).2⟩,hs.most⟩
  have hroom := (hs.fits r hr).1
  unfold World.reach at hroom ⊢
  rw [if_pos hlive] at hroom
  dsimp only
  rwa [if_pos hlive]

/-- A fill of the replacement keeps the cover. -/
theorem Covered.fillReplacement {s : World} (hs : Covered o s) {r : Replacement}
    (hr : s.replacement=some r) {shares : ℤ} (hmost : r.filled+shares≤ r.quantity) :
    Covered o {s with replacement := some {r with filled := r.filled+shares}} :=
  covered_of_sent o hs.filled (hs.sent r hr) rfl (hs.fits r hr)
    (hmost.trans (le_max_right 0 r.quantity))

/-- A step that sends a replacement only if it fits keeps the cover. -/
theorem step_covered {s s' : World} {e : Event} (hs : Covered o s) (hfits : SentIfFits o h s e)
    (hstep : step o h s e=some s') : Covered o s' := by
  cases e with
  | fill shares =>
    obtain ⟨⟨hlive,_,hmost⟩,hs'⟩ := Option.ite_none_right_eq_some.mp hstep
    cases hs'
    exact hs.fill o hlive hmost
  | simulate now =>
    obtain ⟨_,hs'⟩ := Option.ite_none_right_eq_some.mp hstep
    cases hs'
    exact covered_of_sent o hs.filled rfl rfl hfits (le_max_right 0 h.remainingQty)
  | detail detail now =>
    obtain ⟨⟨hphase,_⟩,hs'⟩ := Option.ite_none_right_eq_some.mp hstep
    cases hs'
    exact covered_of_unsent o hs.filled (hs.unsent o (by rw [hphase]; rfl))
  | detailRaises text now =>
    obtain ⟨⟨hphase,_⟩,hs'⟩ := Option.ite_none_right_eq_some.mp hstep
    cases hs'
    exact covered_of_unsent o hs.filled (hs.unsent o (by rw [hphase]; rfl))
  | cancelSucceeds =>
    obtain ⟨detail,hphase,rfl⟩ := step_cancelSucceeds o h hstep
    exact covered_of_unsent o hs.filled (hs.unsent o (by rw [hphase]; rfl))
  | cancelFails applied =>
    obtain ⟨detail,hphase,rfl⟩ := step_cancelFails o h hstep
    exact covered_of_unsent o hs.filled (hs.unsent o (by rw [hphase]; rfl))
  | placed outcome accepted now =>
    obtain ⟨detail,hphase,rfl⟩ := step_placed o h hstep
    unfold SentIfFits at hfits
    rw [hphase] at hfits
    by_cases haccepted : outcome.isAccepted=true ∨ accepted=true
    · rw [if_pos haccepted]
      exact covered_of_sent o hs.filled rfl rfl hfits (le_max_left 0 h.remainingQty)
    · rw [if_neg haccepted]
      exact covered_of_unsent o hs.filled rfl
  | fillReplacement shares =>
    obtain ⟨r,hr,hmost,rfl⟩ := step_fillReplacement o h hstep
    exact hs.fillReplacement o hr hmost

/-- In every run that sends a replacement only if it fits, whatever the broker
fills before, during and after the cancellation and whether the cancellation
succeeds or fails, the original and the replacement together execute at most the
quantity of the original, and the replacement is for its side, ticker and market. -/
theorem replaces_of_sentIfFits {filled : ℤ} (hfilled : filled≤o.quantity) {s : World}
    (hr : Reaches (step o h) (SentIfFits o h) (start filled) s) : Replaces o s :=
  (Reaches.invariant (start_covered o hfilled)
    (fun _ _ _ _ hs hfits hstep => step_covered o h hs hfits hstep) hr).replaces o

/-- A handler that has returned sends nothing, and has returned for good. -/
theorem finished_step {s s' : World} {e : Event} (hphase : s.phase.isFinished=true)
    (hstep : step o h s e=some s') : SentIfFits o h s e ∧ s'.phase.isFinished=true := by
  cases e with
  | fill shares =>
    obtain ⟨_,hs'⟩ := Option.ite_none_right_eq_some.mp hstep
    cases hs'
    exact ⟨trivial,hphase⟩
  | fillReplacement shares =>
    obtain ⟨r,_,_,rfl⟩ := step_fillReplacement o h hstep
    exact ⟨trivial,hphase⟩
  | simulate now =>
    obtain ⟨⟨hstarted,_⟩,_⟩ := Option.ite_none_right_eq_some.mp hstep
    rw [hstarted] at hphase
    cases hphase
  | detail detail now =>
    obtain ⟨⟨hstarted,_⟩,_⟩ := Option.ite_none_right_eq_some.mp hstep
    rw [hstarted] at hphase
    cases hphase
  | detailRaises text now =>
    obtain ⟨⟨hstarted,_⟩,_⟩ := Option.ite_none_right_eq_some.mp hstep
    rw [hstarted] at hphase
    cases hphase
  | cancelSucceeds =>
    obtain ⟨detail,hcancelling,_⟩ := step_cancelSucceeds o h hstep
    rw [hcancelling] at hphase
    cases hphase
  | cancelFails applied =>
    obtain ⟨detail,hcancelling,_⟩ := step_cancelFails o h hstep
    rw [hcancelling] at hphase
    cases hphase
  | placed outcome accepted now =>
    obtain ⟨detail,hplacing,_⟩ := step_placed o h hstep
    rw [hplacing] at hphase
    cases hphase

/-- Every continuation, once the handler has returned. -/
theorem finished_covered {s s' : World} (hs : Covered o s) (hphase : s.phase.isFinished=true)
    (hr : Reaches (step o h) (fun _ _ => True) s s') : Covered o s' := by
  have hboth : Covered o s' ∧ s'.phase.isFinished=true := by
    refine Reaches.invariant (P := fun s => Covered o s ∧ s.phase.isFinished=true) ⟨hs,hphase⟩ ?_ hr
    intro t e t' _ ht _ hstep
    obtain ⟨hfits,hfinished⟩ := finished_step o h ht.2 hstep
    exact ⟨step_covered o h ht.1 hfits hstep,hfinished⟩
  exact hboth.1

/-- The world after the market order was accepted. -/
def afterPlaced (s : World) (detail : OrderDetail) (result : OrderResult) : World :=
  {s with phase := .finished result,replacement := some (replacementOf h detail)}

/-- Both orders filled as far as they can come to. -/
theorem afterPlaced_exhausted {s : World} (hfilled : s.filled≤o.quantity) (detail : OrderDetail)
    (result : OrderResult) (hremaining : 0≤h.remainingQty) :
    ∃ s',Reaches (step o h) (fun _ _ => True) (afterPlaced h s detail result) s' ∧
      s'.executed=s.reach o+h.remainingQty := by
  have hreplaced : ∀ t : World,t.replacement=some (replacementOf h detail)→
      step o h t (.fillReplacement h.remainingQty)=some {t with
        replacement := some {replacementOf h detail with filled := 0+h.remainingQty}} := by
    intro t ht
    dsimp only [step]
    rw [ht]
    exact if_pos ⟨hremaining,(zero_add _).le⟩
  unfold World.reach
  cases hlive : s.live with
  | true =>
    have hfill : step o h (afterPlaced h s detail result) (.fill (o.quantity-s.filled))=
        some {afterPlaced h s detail result with filled := s.filled+(o.quantity-s.filled)} :=
      if_pos ⟨hlive,by omega,by unfold afterPlaced; dsimp only; omega⟩
    refine ⟨_,.next (.next .start trivial hfill) trivial (hreplaced _ rfl),?_⟩
    unfold World.executed
    rw [if_pos rfl]
    dsimp only
    omega
  | false =>
    refine ⟨_,.next .start trivial (hreplaced _ rfl),?_⟩
    unfold World.executed afterPlaced
    rw [if_neg nofun]
    dsimp only
    omega

/-- The market order that the broker has accepted is safe in every continuation
exactly if it fits. -/
theorem afterPlaced_safe_iff {s : World} (hfilled : s.filled≤o.quantity) (detail : OrderDetail)
    (result : OrderResult) :
    (∀ s',Reaches (step o h) (fun _ _ => True) (afterPlaced h s detail result) s'→Replaces o s') ↔
      Fits o s (replacementOf h detail) := by
  constructor
  · intro hall
    refine ⟨?_,(hall _ .start).2 _ rfl⟩
    by_cases hremaining : 0≤h.remainingQty
    · obtain ⟨s',hr,hexecuted⟩ := afterPlaced_exhausted o h hfilled detail result hremaining
      exact hexecuted ▸ (hall s' hr).1
    · have hreach : s.reach o≤o.quantity := by
        unfold World.reach
        split
        · exact le_refl _
        · exact hfilled
      have hquantity : (replacementOf h detail).quantity=h.remainingQty := rfl
      omega
  · intro hfits s' hr
    have hsent : Covered o (afterPlaced h s detail result) :=
      covered_of_sent o hfilled rfl rfl hfits (le_max_left 0 h.remainingQty)
    exact (finished_covered o h hsent rfl hr).replaces o

/-- A client without the details raises in every live run, so nothing is sent. -/
theorem unsent_without_details {filled : ℤ} {s : World} (hlive : h.isBacktest=false)
    (hr : Reaches (step o h) (fun _ e => ∀ detail now,e≠.detail detail now) (start filled) s) :
    s.replacement=none := by
  have hboth : s.replacement=none ∧ (s.phase=.started ∨ s.phase.isFinished=true) := by
    refine Reaches.invariant (P := fun s : World =>
      s.replacement=none ∧ (s.phase=.started ∨ s.phase.isFinished=true)) ⟨rfl,.inl rfl⟩ ?_ hr
    intro t e t' _ ht hguard hstep
    obtain ⟨hnone,hphase⟩ := ht
    cases e with
    | fill shares =>
      obtain ⟨_,ht'⟩ := Option.ite_none_right_eq_some.mp hstep
      cases ht'
      exact ⟨hnone,hphase⟩
    | simulate now =>
      obtain ⟨⟨_,hback⟩,_⟩ := Option.ite_none_right_eq_some.mp hstep
      rw [hlive] at hback
      cases hback
    | detail detail now => exact absurd rfl (hguard detail now)
    | detailRaises text now =>
      obtain ⟨_,ht'⟩ := Option.ite_none_right_eq_some.mp hstep
      cases ht'
      exact ⟨hnone,.inr rfl⟩
    | fillReplacement shares =>
      obtain ⟨r,hr,_,_⟩ := step_fillReplacement o h hstep
      rw [hnone] at hr
      cases hr
    | cancelSucceeds =>
      obtain ⟨detail,hcancelling,_⟩ := step_cancelSucceeds o h hstep
      exact absurd hcancelling (not_cancelling hphase detail).1
    | cancelFails applied =>
      obtain ⟨detail,hcancelling,_⟩ := step_cancelFails o h hstep
      exact absurd hcancelling (not_cancelling hphase detail).1
    | placed outcome accepted now =>
      obtain ⟨detail,hplacing,_⟩ := step_placed o h hstep
      exact absurd hplacing (not_cancelling hphase detail).2
  exact hboth.1

/-- A SELL of a hundred shares. -/
def soldHundred : Original := ⟨"005930",.krx,.sell,100⟩

/-- Details that name the order. -/
def soldDetail : OrderDetail := ⟨"005930",.text "SELL",.text "KRX"⟩

/-- A call for sixty shares. -/
def sixtyRemaining (isBacktest : Bool) : Handling := ⟨isBacktest,"1",60⟩

/-- The original executes forty shares, is cancelled and replaced, and the
replacement executes all of its sixty. -/
theorem replaces_of_sentIfFits_cancelled :
    ∃ s,Replaces soldHundred s ∧ s.executed=100 := by
  obtain ⟨s,_,hexecuted,hr⟩ := play_ends (step soldHundred (sixtyRemaining false))
    (SentIfFits soldHundred (sixtyRemaining false)) (start 0) (fun s => s.executed=100)
    [.fill 40,.detail soldDetail 0,.cancelSucceeds,.placed (.accepted "2" 0 0) true 0,
      .fillReplacement 60] (by decide)
  exact ⟨s,replaces_of_sentIfFits soldHundred (sixtyRemaining false) (by decide) hr,hexecuted⟩

/-- The cancellation fails and the original executes its other sixty shares
after the replacement was sent; and the backtest mode simulates a BUY. -/
theorem executed_twice_over :
    (¬∀ s,Reaches (step soldHundred (sixtyRemaining false)) (fun _ _ => True) (start 40) s→
        Replaces soldHundred s) ∧
      ¬∀ s,Reaches (step soldHundred (sixtyRemaining true)) (fun _ _ => True) (start 40) s→
        Replaces soldHundred s :=
  ⟨not_forall_reaches [.detail soldDetail 0,.cancelFails false,.placed (.accepted "2" 0 0) true 0,
      .fillReplacement 60,.fill 60] (by decide),
    not_forall_reaches [.simulate 0] (by decide)⟩

end Aqts.UnfilledOrders
