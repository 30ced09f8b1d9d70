import Aqts.OrderTypes
import Aqts.RetriedCalls
import Mathlib.Algebra.Order.Ring.Rat

/-!
# Order requests to the broker

`KISClient.place_kr_order` and `place_us_order`: one POST, repeated by the
generic request method while it raises at the client. What the network and the
broker do with each attempt is an input, and an attempt may raise after the
broker has accepted its order. The retry driver is known by its documented
behaviour only.
-/

namespace Aqts.KisClient

open OrderTypes RetriedCalls

/-- Settings that the order calls read. -/
structure KisSettings where
  /-- `is_live`. -/
  isLive : Bool
  /-- `is_backtest`. -/
  isBacktest : Bool
  /-- `account_no`. -/
  accountNo : String
  /-- `account_prod`. -/
  accountProd : String
  /-- `api_retry_count`. -/
  apiRetryCount : ℤ

/-- A request with its body. -/
structure Post where
  /-- Path of the call. -/
  path : String
  /-- `tr_id` of the headers. -/
  trId : String
  /-- Fields of the body. -/
  body : List (String×String)
  deriving DecidableEq

/-- The parsed body of an answer; a missing code is empty. -/
structure Answer where
  /-- `rt_cd`. -/
  rtCd : String
  /-- `msg1`. -/
  msg1 : Option String
  /-- The order number of the output. -/
  odno : String
  deriving DecidableEq

/-- What happens in one attempt. `accepted` tells whether the broker has taken
the order. -/
inductive Attempt
  /-- No token, so nothing is sent. -/
  | noToken (text : String)
  /-- Timeout or loss of the connection. -/
  | lost (accepted : Bool) (text : String)
  /-- An answer with its status; no body means one that cannot be parsed. -/
  | answered (accepted : Bool) (status : ℕ) (body : Option Answer)
  deriving DecidableEq

/-- The broker has accepted the order of an attempt. -/
def Attempt.accepted : Attempt→Bool
  | .noToken _ => false
  | .lost accepted _ => accepted
  | .answered accepted _ _ => accepted

/-- Exceptions of one attempt. -/
inductive AttemptError
  /-- From the token manager. -/
  | token (text : String)
  /-- From the connection. -/
  | connection (text : String)
  /-- `raise_for_status`. -/
  | status (status : ℕ)
  /-- `response.json`. -/
  | unparsable
  /-- `KISAPIError`. -/
  | api (rtCd message : String)
  deriving DecidableEq

/-- `_do_request`. -/
def doRequest : Attempt→Except AttemptError Answer
  | .noToken text => .error (.token text)
  | .lost _ text => .error (.connection text)
  | .answered _ status body =>
    if status<200 ∨ 299< status then .error (.status status)
    else
      match body with
      | none => .error .unparsable
      | some data =>
        if data.rtCd≠"" ∧ data.rtCd≠"0" then
          .error (.api data.rtCd (data.msg1.getD "Unknown KIS API error"))
        else .ok data

/-- An attempt raises at the client. -/
def raises (attempt : Attempt) : Bool :=
  match doRequest attempt with
  | .ok _ => false
  | .error _ => true

/-- Exceptions of a request. -/
inductive RequestError
  /-- `KISAPIError` of the backtest mode. -/
  | backtest (message : String)
  /-- `RetryError` around the last attempt. -/
  | retry (last : AttemptError)
  deriving DecidableEq

/-- Effects of a request. -/
structure Exchange where
  /-- Orders that the broker has accepted. -/
  accepted : List Post
  /-- The answer returned, or the exception raised. -/
  outcome : Except RequestError Answer

/-- `_request`; the network gives the outcome of each attempt. -/
def request (settings : KisSettings) (r : Retrying settings.apiRetryCount) (network : ℕ→Attempt)
    (post : Post) : Exchange :=
  if settings.isBacktest=true then
    ⟨[],.error (.backtest
      "BACKTEST 모드에서는 실제 API 호출이 불가합니다. DEMO 또는 LIVE 모드로 전환하세요.")⟩
  else
    { accepted := (r.marked (fun k => raises (network k))
        (fun k => (network k).accepted)).map fun _ => post
      outcome :=
        match doRequest (network (r.attempts (fun k => raises (network k))-1)) with
        | .ok data => .ok data
        | .error last => .error (.retry last) }

/-- What the broker accepts is the request that is sent. -/
theorem request_accepted {settings : KisSettings} {r : Retrying settings.apiRetryCount}
    {network : ℕ→Attempt} {post accepted : Post}
    (h : accepted∈(request settings r network post).accepted) : accepted=post := by
  unfold request at h
  by_cases hbacktest : settings.isBacktest=true
  · rw [if_pos hbacktest] at h
    exact absurd h List.not_mem_nil
  · rw [if_neg hbacktest] at h
    obtain ⟨_,_,rfl⟩ := List.mem_map.mp h
    rfl

/-- `_get_tr_id`. -/
def getTrId (settings : KisSettings) (liveId demoId : String) : String :=
  if settings.isLive=true then liveId else demoId

/-- `place_kr_order`. -/
def placeKrOrder (settings : KisSettings) (r : Retrying settings.apiRetryCount)
    (network : ℕ→Attempt) (ticker : String) (side : OrderSide) (quantity price : ℤ)
    (orderType : String) : Exchange :=
  request settings r network {
    path := "/uapi/domestic-stock/v1/trading/order-cash"
    trId :=
      match side with
      | .buy => getTrId settings "TTTC0802U" "VTTC0802U"
      | .sell => getTrId settings "TTTC0801U" "VTTC0801U"
    body := [("CANO",settings.accountNo),("ACNT_PRDT_CD",settings.accountProd),("PDNO",ticker),
      ("ORD_DVSN",orderType),("ORD_QTY",toString quantity),("ORD_UNPR",toString price)] }

/-- `place_us_order`, with the text Python gives the price. -/
def placeUsOrder (settings : KisSettings) (r : Retrying settings.apiRetryCount)
    (network : ℕ→Attempt) (floatText : ℚ→String) (ticker : String) (side : OrderSide)
    (quantity : ℤ) (price : ℚ) (exchange : String) : Exchange :=
  request settings r network {
    path := "/uapi/overseas-stock/v1/trading/order"
    trId :=
      match side with
      | .buy => getTrId settings "TTTS0308U" "VTTS0308U"
      | .sell => getTrId settings "TTTS0307U" "VTTS0307U"
    body := [("CANO",settings.accountNo),("ACNT_PRDT_CD",settings.accountProd),
      ("OVRS_EXCG_CD",exchange),("PDNO",ticker),("ORD_DVSN",if price>0 then "00" else "32"),
      ("ORD_QTY",toString quantity),("OVRS_ORD_UNPR",floatText price)] }

/-- An attempt that the broker accepted is repeated, and accepted again, within
the number of attempts. -/
def AcceptedAgain (settings : KisSettings) (network : ℕ→Attempt) : Prop :=
  ∃ i j : ℕ,i<j ∧ (j : ℤ)< settings.apiRetryCount ∧ (∀ k<j,raises (network k)=true) ∧
    (network i).accepted=true ∧ (network j).accepted=true

/-- A request is accepted at most once exactly in the backtest mode or when no
accepted attempt is repeated and accepted again. -/
theorem request_accepted_iff (settings : KisSettings) (r : Retrying settings.apiRetryCount)
    (network : ℕ→Attempt) (post : Post) :
    (request settings r network post).accepted.length≤1 ↔
      settings.isBacktest=true ∨ ¬AcceptedAgain settings network := by
  unfold request
  by_cases hback : settings.isBacktest=true
  · rw [if_pos hback]
    simp [hback]
  · rw [if_neg hback,List.length_map,r.marked_length_le_one_iff]
    constructor
    · rintro hnone
      refine .inr ?_
      rintro ⟨i,j,hij,hlimit,hraised,hi,hj⟩
      have hj' := hnone i j hij hlimit hraised hi
      rw [hj] at hj'
      cases hj'
    · rintro (hback' | hnone) i j hij hlimit hraised hi
      · exact (hback hback').elim
      · by_contra hj
        exact hnone ⟨i,j,hij,hlimit,hraised,hi,by simpa using hj⟩

/-- The broker accepts at most one order of a call exactly in the backtest mode
or when no accepted attempt is repeated and accepted again, for both markets. -/
theorem place_accepted_once_iff (settings : KisSettings) (r : Retrying settings.apiRetryCount)
    (network : ℕ→Attempt) (floatText : ℚ→String) (ticker orderType exchange : String)
    (side : OrderSide) (quantity krPrice : ℤ) (usPrice : ℚ) :
    ((placeKrOrder settings r network ticker side quantity krPrice orderType).accepted.length≤1 ↔
      settings.isBacktest=true ∨ ¬AcceptedAgain settings network) ∧
    ((placeUsOrder settings r network floatText ticker side quantity usPrice
        exchange).accepted.length≤1 ↔
      settings.isBacktest=true ∨ ¬AcceptedAgain settings network) :=
  ⟨request_accepted_iff settings r network _,request_accepted_iff settings r network _⟩

/-- The demo mode with the default number of attempts. -/
def demoClient : KisSettings := ⟨false,false,"50000000","01",3⟩

/-- The first POST is accepted and its answer is late, the second is answered. -/
def lateAnswer : ℕ→Attempt
  | 0 => .lost true "ReadTimeout"
  | _ => .answered true 200 (some ⟨"0",none,"0000117057"⟩)

/-- A late answer makes the broker accept the order twice. -/
theorem late_answer_accepted_twice :
    ¬∀ (settings : KisSettings) (r : Retrying settings.apiRetryCount) (network : ℕ→Attempt)
      (ticker orderType : String) (side : OrderSide) (quantity price : ℤ),
      (placeKrOrder settings r network ticker side quantity price orderType).accepted.length≤1 := by
  intro hall
  have honce := hall demoClient (stopAfterAttempt 3) lateAnswer "005930" "01" .buy 10 0
  revert honce
  decide

end Aqts.KisClient
