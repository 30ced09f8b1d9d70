import Aqts.OrderTypes
import Mathlib.Algebra.Order.Field.Rat

/-!
# The trading guard

`core.trading_guard`: the state that one process shares between its orders, the
four checks that an order has to pass and the kill switch that three of them
latch. A check returns its result together with the state it leaves, since a
refusal changes what later checks see. Amounts are exact rationals.
-/

namespace Aqts.TradingGuard

open OrderTypes

/-- Texts that the number formats of the messages give. -/
structure NumberTexts where
  /-- `{:,.0f}`. -/
  whole : ℚ→String
  /-- `{:.2%}`. -/
  percent : ℚ→String
  /-- `{:.1%}`. -/
  percentTenth : ℚ→String

/-- `RiskManagementSettings`, as far as the guard reads them. -/
structure RiskSettings where
  /-- `initial_capital_krw`. -/
  initialCapital : ℤ
  /-- `daily_loss_limit_krw`. -/
  dailyLossLimit : ℤ
  /-- `max_order_amount_krw`. -/
  maxOrderAmount : ℤ
  /-- `consecutive_loss_limit`. -/
  consecutiveLossLimit : ℤ
  /-- `max_drawdown`. -/
  maxDrawdown : ℚ
  deriving DecidableEq

/-- Settings that the guard reads. In LIVE mode the active credential is made of
the live fields. -/
structure Settings where
  /-- `kis.is_live`. -/
  isLive : Bool
  /-- `is_production`. -/
  isProduction : Bool
  /-- `kis.live_app_key`. -/
  liveAppKey : String
  /-- `kis.live_app_secret`. -/
  liveAppSecret : String
  /-- `kis.live_account_no`. -/
  liveAccountNo : String
  /-- `kis.demo_app_key`. -/
  demoAppKey : String
  /-- `risk`. -/
  risk : RiskSettings
  deriving DecidableEq

/-- `TradingGuardState`. -/
structure TradingGuardState where
  /-- `kill_switch_on`. -/
  killSwitchOn : Bool := false
  /-- `kill_switch_reason`. -/
  killSwitchReason : String := ""
  /-- `daily_realized_pnl`. -/
  dailyRealizedPnl : ℚ := 0
  /-- `daily_order_count`. -/
  dailyOrderCount : ℕ := 0
  /-- `consecutive_losses`. -/
  consecutiveLosses : ℕ := 0
  /-- `current_drawdown`. -/
  currentDrawdown : ℚ := 0
  /-- `peak_portfolio_value`. -/
  peakPortfolioValue : ℚ := 0
  /-- `current_portfolio_value`. -/
  currentPortfolioValue : ℚ := 0
  deriving DecidableEq

/-- `PreOrderCheckResult`. -/
structure PreOrderCheckResult where
  /-- The order may go on. -/
  allowed : Bool
  /-- Why it may not. -/
  reason : String := ""
  /-- Texts for the operator. -/
  warnings : List String := []
  deriving DecidableEq

/-- `TradingGuard()`. -/
def initial (settings : Settings) : TradingGuardState where
  peakPortfolioValue := settings.risk.initialCapital
  currentPortfolioValue := settings.risk.initialCapital

/-- `activate_kill_switch`, and the private method behind it. -/
def activateKillSwitch (reason : String) (s : TradingGuardState) : TradingGuardState :=
  {s with killSwitchOn := true,killSwitchReason := reason}

/-- `deactivate_kill_switch`. -/
def deactivateKillSwitch (s : TradingGuardState) : TradingGuardState :=
  {s with killSwitchOn := false,killSwitchReason := ""}

/-- `reset_daily_state`. -/
def resetDailyState (s : TradingGuardState) : TradingGuardState :=
  {s with dailyRealizedPnl := 0,dailyOrderCount := 0}

/-- `record_trade_result`. -/
def recordTradeResult (pnl portfolioValue : ℚ) (s : TradingGuardState) : TradingGuardState :=
  {s with
    dailyRealizedPnl := s.dailyRealizedPnl+pnl
    dailyOrderCount := s.dailyOrderCount+1
    currentPortfolioValue := portfolioValue
    peakPortfolioValue :=
      if portfolioValue>s.peakPortfolioValue then portfolioValue else s.peakPortfolioValue
    consecutiveLosses := if pnl<0 then s.consecutiveLosses+1 else 0}

/-- `verify_environment`. -/
def verifyEnvironment (settings : Settings) : PreOrderCheckResult :=
  if settings.isLive=true ∧ settings.isProduction=false then
    {allowed := false,reason := "LIVE 모드는 production 환경에서만 허용됩니다."}
  else if settings.isLive=true then
    if settings.liveAppKey="" ∨ settings.liveAppSecret="" then
      {allowed := false,reason := "LIVE 모드 API 키가 설정되지 않았습니다."}
    else if settings.liveAccountNo="" then
      {allowed := false,reason := "LIVE 모드 계좌번호가 설정되지 않았습니다."}
    else if settings.liveAppKey=settings.demoAppKey ∧ settings.liveAppKey≠"" then
      {allowed := true,warnings := ["LIVE와 DEMO API 키가 동일합니다. 확인해 주세요."]}
    else {allowed := true}
  else {allowed := true}

/-- A check with the state it leaves. -/
abbrev Check := TradingGuardState→PreOrderCheckResult×TradingGuardState

/-- A circuit breaker: a limit that is reached turns the kill switch on with one
text and refuses with another. -/
def breaker (reached : Prop) [Decidable reached] (switchReason reason : String) : Check := fun s =>
  if reached then ({allowed := false,reason := reason},activateKillSwitch switchReason s)
  else ({allowed := true},s)

/-- `check_daily_loss_limit`. -/
def checkDailyLossLimit (texts : NumberTexts) (risk : RiskSettings) : Check := fun s =>
  breaker (s.dailyRealizedPnl≤ -(risk.dailyLossLimit : ℚ))
    ("일일 손실 한도 도달: "++texts.whole s.dailyRealizedPnl++"원")
    ("일일 손실 한도 초과: "++texts.whole s.dailyRealizedPnl++"원") s

/-- Drawdown of the current value from the peak. -/
def drawdown (s : TradingGuardState) : ℚ :=
  (s.peakPortfolioValue-s.currentPortfolioValue)/s.peakPortfolioValue

/-- `check_max_drawdown`, which also stores the drawdown. -/
def checkMaxDrawdown (texts : NumberTexts) (risk : RiskSettings) : Check := fun s =>
  if s.peakPortfolioValue>0 then
    breaker (drawdown s ≥ risk.maxDrawdown)
      ("최대 낙폭 한도 도달: "++texts.percent (drawdown s))
      ("MDD 한도 초과: "++texts.percent (drawdown s)++" >= "++texts.percent risk.maxDrawdown)
      {s with currentDrawdown := drawdown s}
  else ({allowed := true},s)

/-- `check_consecutive_losses`. -/
def checkConsecutiveLosses (risk : RiskSettings) : Check := fun s =>
  breaker ((s.consecutiveLosses : ℤ) ≥ risk.consecutiveLossLimit)
    ("연속 손실 한도 도달: "++toString s.consecutiveLosses++"회")
    ("연속 손실 한도 초과: "++toString s.consecutiveLosses++"회 >= "++
      toString risk.consecutiveLossLimit++"회") s

/-- The loop of `run_all_checks`: the first refusal ends it, and the warnings of
the checks that passed are collected. -/
def runChecks : List Check→List String→ Check
  | [],warnings,s => ({allowed := true,warnings := warnings},s)
  | check::checks,warnings,s =>
    if (check s).1.allowed=true then runChecks checks (warnings++(check s).1.warnings) (check s).2
    else check s

/-- `run_all_checks`. -/
def runAllChecks (texts : NumberTexts) (settings : Settings) : Check :=
  runChecks [fun s => (verifyEnvironment settings,s),checkDailyLossLimit texts settings.risk,
    checkMaxDrawdown texts settings.risk,checkConsecutiveLosses settings.risk] []

/-- Arguments of `check_pre_order`. -/
structure PreOrder where
  /-- Ticker, which no check reads. -/
  ticker : String
  /-- BUY or SELL. -/
  side : OrderSide
  /-- Quantity. -/
  quantity : ℤ
  /-- Limit price, if the order has one. -/
  limitPrice : Option ℚ
  deriving DecidableEq

/-- Amount of the order as far as it is known before the fill: that of a BUY
with a positive limit price. -/
def PreOrder.amount (order : PreOrder) : Option ℚ :=
  match order.side,order.limitPrice with
  | .buy,some price => if 0<price then some (price*order.quantity) else none
  | _,_ => none

/-- `check_pre_order`. -/
def checkPreOrder (texts : NumberTexts) (settings : Settings) (order : PreOrder) : Check := fun s =>
  if s.killSwitchOn=true then
    ({allowed := false,reason := "Kill Switch 활성화됨: "++s.killSwitchReason},s)
  else
    let base := runAllChecks texts settings s
    if base.1.allowed=false then base
    else
      match order.amount with
      | none => ({allowed := true,warnings := base.1.warnings},base.2)
      | some amount =>
        if amount > settings.risk.maxOrderAmount then
          ({allowed := false,reason := "주문 금액 초과: "++texts.whole amount++"원 > 한도 "++
            texts.whole settings.risk.maxOrderAmount++"원"},base.2)
        else ({allowed := true,warnings := base.1.warnings},base.2)

/-- Two states with the same accounts. The kill switch and the stored drawdown
are all that a check may change. -/
structure SameAccounts (s t : TradingGuardState) : Prop where
  /-- Realised result of the day. -/
  pnl : t.dailyRealizedPnl=s.dailyRealizedPnl
  /-- Orders of the day. -/
  count : t.dailyOrderCount=s.dailyOrderCount
  /-- Losses in a row. -/
  losses : t.consecutiveLosses=s.consecutiveLosses
  /-- Peak of the portfolio. -/
  peak : t.peakPortfolioValue=s.peakPortfolioValue
  /-- Value of the portfolio. -/
  current : t.currentPortfolioValue=s.currentPortfolioValue

/-- A state has the accounts of itself. -/
theorem SameAccounts.refl (s : TradingGuardState) : SameAccounts s s := ⟨rfl,rfl,rfl,rfl,rfl⟩

/-- Accounts that stay the same twice stay the same. -/
theorem SameAccounts.trans {s t u : TradingGuardState} (h : SameAccounts s t)
    (h' : SameAccounts t u) : SameAccounts s u :=
  ⟨h'.pnl.trans h.pnl,h'.count.trans h.count,h'.losses.trans h.losses,h'.peak.trans h.peak,
    h'.current.trans h.current⟩

/-- States with the same accounts have the same drawdown. -/
theorem SameAccounts.drawdown_eq {s t : TradingGuardState} (h : SameAccounts s t) :
    drawdown t=drawdown s := by
  unfold drawdown
  rw [h.peak,h.current]

/-- The answer of a check that refuses exactly when a limit is reached, and then
leaves the kill switch on. -/
structure Latches (s : TradingGuardState) (answer : PreOrderCheckResult×TradingGuardState)
    (reached : Prop) : Prop where
  /-- Orders are allowed while the limit is not reached. -/
  allowed : answer.1.allowed=true ↔ ¬reached
  /-- The switch is on if it was on or the limit is reached. -/
  switch : answer.2.killSwitchOn=true ↔ s.killSwitchOn=true ∨ reached
  /-- The accounts stay. -/
  accounts : SameAccounts s answer.2

/-- A circuit breaker latches its limit. -/
theorem breaker_latches (reached : Prop) [Decidable reached] (switchReason reason : String)
    (s : TradingGuardState) : Latches s (breaker reached switchReason reason s) reached := by
  unfold breaker
  by_cases h : reached
  · rw [if_pos h]
    exact ⟨by simp [h],by simp [h,activateKillSwitch],⟨rfl,rfl,rfl,rfl,rfl⟩⟩
  · rw [if_neg h]
    exact ⟨by simp [h],by simp [h],.refl s⟩

/-- The end of the loop latches nothing. -/
theorem runChecks_nil_latches (warnings : List String) (s : TradingGuardState) :
    Latches s (runChecks [] warnings s) False :=
  ⟨by simp [runChecks],by simp [runChecks],.refl s⟩

/-- A check before others latches its own limit and theirs. -/
theorem runChecks_cons_latches {check : Check} {checks : List Check} {warnings : List String}
    {s : TradingGuardState} {reached rest : Prop} (hfirst : Latches s (check s) reached)
    (hrest : ∀ warnings',Latches (check s).2 (runChecks checks warnings' (check s).2) rest) :
    Latches s (runChecks (check::checks) warnings s) (reached ∨ rest) := by
  rw [runChecks]
  by_cases h : reached
  · have hrefused : ¬(check s).1.allowed=true := fun ha => hfirst.allowed.mp ha h
    rw [if_neg hrefused]
    refine ⟨?_,?_,hfirst.accounts⟩
    · rw [hfirst.allowed]
      simp [h]
    · rw [hfirst.switch]
      simp [h]
  · have hloop := hrest (warnings++(check s).1.warnings)
    rw [if_pos (hfirst.allowed.mpr h)]
    refine ⟨?_,?_,hfirst.accounts.trans hloop.accounts⟩
    · rw [hloop.allowed]
      simp [h]
    · rw [hloop.switch,hfirst.switch]
      simp [h]

/-- The loss check latches the limit of the day. -/
theorem checkDailyLossLimit_latches (texts : NumberTexts) (risk : RiskSettings)
    {s t : TradingGuardState} (h : SameAccounts s t) :
    Latches t (checkDailyLossLimit texts risk t)
      (s.dailyRealizedPnl≤ -(risk.dailyLossLimit : ℚ)) := by
  rw [← h.pnl]
  exact breaker_latches (t.dailyRealizedPnl≤ -(risk.dailyLossLimit : ℚ)) _ _ t

/-- The drawdown check latches the drawdown of a portfolio with a positive
peak. -/
theorem checkMaxDrawdown_latches (texts : NumberTexts) (risk : RiskSettings)
    {s t : TradingGuardState} (h : SameAccounts s t) (hpeak : 0 < s.peakPortfolioValue) :
    Latches t (checkMaxDrawdown texts risk t) (risk.maxDrawdown≤drawdown s) := by
  rw [← h.drawdown_eq]
  rw [← h.peak] at hpeak
  unfold checkMaxDrawdown
  rw [if_pos hpeak]
  have hbreaker := breaker_latches (drawdown t≥ risk.maxDrawdown)
    ("최대 낙폭 한도 도달: "++texts.percent (drawdown t))
    ("MDD 한도 초과: "++texts.percent (drawdown t)++" >= "++texts.percent risk.maxDrawdown)
    {t with currentDrawdown := drawdown t}
  have hstored : SameAccounts t {t with currentDrawdown := drawdown t} := ⟨rfl,rfl,rfl,rfl,rfl⟩
  exact ⟨hbreaker.allowed,hbreaker.switch,hstored.trans hbreaker.accounts⟩

/-- The streak check latches the losses in a row. -/
theorem checkConsecutiveLosses_latches (risk : RiskSettings) {s t : TradingGuardState}
    (h : SameAccounts s t) :
    Latches t (checkConsecutiveLosses risk t)
      (risk.consecutiveLossLimit≤(s.consecutiveLosses : ℤ)) := by
  rw [← h.losses]
  exact breaker_latches ((t.consecutiveLosses : ℤ) ≥ risk.consecutiveLossLimit) _ _ t

/-- A limit on losses, drawdown or losses in a row is reached. -/
def LimitReached (risk : RiskSettings) (s : TradingGuardState) : Prop :=
  s.dailyRealizedPnl≤ -(risk.dailyLossLimit : ℚ) ∨ risk.maxDrawdown≤drawdown s ∨
    risk.consecutiveLossLimit≤(s.consecutiveLosses : ℤ)

instance (risk : RiskSettings) (s : TradingGuardState) : Decidable (LimitReached risk s) :=
  inferInstanceAs (Decidable (_ ∨ _ ∨ _))

/-- In a valid environment the checks of an order latch the three limits. -/
theorem runAllChecks_latches (texts : NumberTexts) (settings : Settings) {s : TradingGuardState}
    (henv : (verifyEnvironment settings).allowed=true) (hpeak : 0 < s.peakPortfolioValue) :
    Latches s (runAllChecks texts settings s) (LimitReached settings.risk s) := by
  have hall : Latches s (runAllChecks texts settings s)
      (False ∨ s.dailyRealizedPnl≤ -(settings.risk.dailyLossLimit : ℚ) ∨
        settings.risk.maxDrawdown≤drawdown s ∨
        settings.risk.consecutiveLossLimit≤(s.consecutiveLosses : ℤ) ∨ False) := by
    have hfirst : Latches s (verifyEnvironment settings,s) False := ⟨by simp [henv],by simp,.refl s⟩
    refine runChecks_cons_latches hfirst fun _ => ?_
    have hsecond := checkDailyLossLimit_latches texts settings.risk hfirst.accounts
    have hkept := hfirst.accounts.trans hsecond.accounts
    refine runChecks_cons_latches hsecond fun _ => ?_
    have hthird := checkMaxDrawdown_latches texts settings.risk hkept hpeak
    refine runChecks_cons_latches hthird fun _ => ?_
    have hfourth := checkConsecutiveLosses_latches settings.risk (hkept.trans hthird.accounts)
    exact runChecks_cons_latches hfourth fun _ => runChecks_nil_latches _ _
  simpa only [LimitReached,false_or,or_false] using hall

/-- The kill switch refuses every order and keeps the state. -/
theorem checkPreOrder_switch (texts : NumberTexts) (settings : Settings) (order : PreOrder)
    {s : TradingGuardState} (h : s.killSwitchOn=true) :
    checkPreOrder texts settings order s=
      ({allowed := false,reason := "Kill Switch 활성화됨: "++s.killSwitchReason},s) := by
  unfold checkPreOrder
  rw [if_pos h]

/-- Without the kill switch the state is that of the checks. -/
theorem checkPreOrder_state (texts : NumberTexts) (settings : Settings) (order : PreOrder)
    {s : TradingGuardState} (h : s.killSwitchOn=false) :
    (checkPreOrder texts settings order s).2=(runAllChecks texts settings s).2 := by
  unfold checkPreOrder
  rw [if_neg (by simp [h])]
  dsimp only
  split
  · rfl
  · split
    · rfl
    · split
      · rfl
      · rfl

/-- The amount of the order is within the limit, as far as it is known. -/
def WithinAmount (risk : RiskSettings) (order : PreOrder) : Prop :=
  ∀ price∈order.limitPrice,order.side=.buy→0<price→price*order.quantity ≤ risk.maxOrderAmount

/-- The known amount is that of a BUY with a positive limit price. -/
theorem withinAmount_iff (risk : RiskSettings) (order : PreOrder) :
    WithinAmount risk order ↔ ∀ amount∈order.amount,amount ≤ risk.maxOrderAmount := by
  unfold WithinAmount PreOrder.amount
  cases order.side with
  | sell => simp
  | buy =>
    cases order.limitPrice with
    | none => simp
    | some price =>
      by_cases hprice : 0<price
      · simp [hprice]
      · simp [hprice]

/-- Without the kill switch an order is allowed when the checks pass and its
amount is within the limit. -/
theorem checkPreOrder_allowed (texts : NumberTexts) (settings : Settings) (order : PreOrder)
    {s : TradingGuardState} (h : s.killSwitchOn=false) :
    (checkPreOrder texts settings order s).1.allowed=true ↔
      (runAllChecks texts settings s).1.allowed=true ∧ WithinAmount settings.risk order := by
  rw [withinAmount_iff]
  unfold checkPreOrder
  rw [if_neg (by simp [h])]
  dsimp only
  by_cases hbase : (runAllChecks texts settings s).1.allowed=false
  · rw [if_pos hbase]
    simp [hbase]
  · rw [if_neg hbase]
    have hpassed : (runAllChecks texts settings s).1.allowed=true := by simpa using hbase
    cases hamount : order.amount with
    | none => simp [hpassed]
    | some amount =>
      by_cases hlimit : amount > settings.risk.maxOrderAmount
      · simp [hlimit]
      · simp [hlimit,hpassed,not_lt.mp hlimit]

/-- In a valid environment and with a positive peak an order is allowed exactly
when the kill switch is off, no limit is reached and its amount is within the
limit. -/
theorem checkPreOrder_allowed_iff (texts : NumberTexts) (settings : Settings) (order : PreOrder)
    {s : TradingGuardState} (henv : (verifyEnvironment settings).allowed=true)
    (hpeak : 0 < s.peakPortfolioValue) :
    (checkPreOrder texts settings order s).1.allowed=true ↔
      s.killSwitchOn=false ∧ ¬LimitReached settings.risk s ∧ WithinAmount settings.risk order := by
  cases hswitch : s.killSwitchOn with
  | true =>
    rw [checkPreOrder_switch texts settings order hswitch]
    simp
  | false =>
    rw [checkPreOrder_allowed texts settings order hswitch,
      (runAllChecks_latches texts settings henv hpeak).allowed]
    simp

/-- `check_pre_order` keeps the accounts and turns the kill switch on when a
limit is reached. -/
theorem checkPreOrder_latches (texts : NumberTexts) (settings : Settings) (order : PreOrder)
    {s : TradingGuardState} (henv : (verifyEnvironment settings).allowed=true)
    (hpeak : 0 < s.peakPortfolioValue) :
    SameAccounts s (checkPreOrder texts settings order s).2 ∧
      ((checkPreOrder texts settings order s).2.killSwitchOn=true ↔
        s.killSwitchOn=true ∨ LimitReached settings.risk s) := by
  cases hswitch : s.killSwitchOn with
  | true =>
    rw [checkPreOrder_switch texts settings order hswitch]
    exact ⟨.refl s,by simp [hswitch]⟩
  | false =>
    have hchecks := runAllChecks_latches texts settings henv hpeak
    rw [checkPreOrder_state texts settings order hswitch]
    exact ⟨hchecks.accounts,by rw [hchecks.switch,hswitch]⟩

/-- A circuit breaker that allows an order keeps the kill switch. -/
theorem breaker_allowed_switch {reached : Prop} [Decidable reached] {switchReason reason : String}
    {s : TradingGuardState} (h : (breaker reached switchReason reason s).1.allowed=true) :
    (breaker reached switchReason reason s).2.killSwitchOn=s.killSwitchOn := by
  unfold breaker at h ⊢
  split
  · rename_i hreached
    rw [if_pos hreached] at h
    cases h
  · rfl

/-- Checks that keep the kill switch when they allow an order keep it when they
all do. -/
theorem runChecks_allowed_switch {checks : List Check} {warnings : List String}
    {s : TradingGuardState} (hchecks : ∀ check∈checks,∀ s,(check s).1.allowed=true→
      (check s).2.killSwitchOn=s.killSwitchOn)
    (h : (runChecks checks warnings s).1.allowed=true) :
    (runChecks checks warnings s).2.killSwitchOn=s.killSwitchOn := by
  induction checks generalizing warnings s with
  | nil => rfl
  | cons check checks ih =>
    rw [runChecks] at h ⊢
    by_cases hfirst : (check s).1.allowed=true
    · rw [if_pos hfirst] at h ⊢
      have hrest := ih (fun other ho => hchecks other (List.mem_cons_of_mem check ho)) h
      exact hrest.trans (hchecks check List.mem_cons_self s hfirst)
    · rw [if_neg hfirst] at h
      exact (hfirst h).elim

/-- The drawdown check keeps the kill switch when it allows an order. -/
theorem checkMaxDrawdown_allowed_switch {texts : NumberTexts} {risk : RiskSettings}
    {s : TradingGuardState} (h : (checkMaxDrawdown texts risk s).1.allowed=true) :
    (checkMaxDrawdown texts risk s).2.killSwitchOn=s.killSwitchOn := by
  unfold checkMaxDrawdown at h ⊢
  split
  · rename_i hpeak
    rw [if_pos hpeak] at h
    exact breaker_allowed_switch h
  · rfl

/-- After an order was allowed the kill switch is off. -/
theorem checkPreOrder_allowed_switch {texts : NumberTexts} {settings : Settings} {order : PreOrder}
    {s : TradingGuardState} (h : (checkPreOrder texts settings order s).1.allowed=true) :
    (checkPreOrder texts settings order s).2.killSwitchOn=false := by
  cases hswitch : s.killSwitchOn with
  | true =>
    rw [checkPreOrder_switch texts settings order hswitch] at h
    cases h
  | false =>
    have hbase := ((checkPreOrder_allowed texts settings order hswitch).mp h).1
    rw [checkPreOrder_state texts settings order hswitch,← hswitch]
    refine runChecks_allowed_switch ?_ hbase
    intro check hcheck t hallowed
    simp only [List.mem_cons,List.not_mem_nil,or_false] at hcheck
    obtain rfl | rfl | rfl | rfl := hcheck
    · rfl
    · exact breaker_allowed_switch hallowed
    · exact checkMaxDrawdown_allowed_switch hallowed
    · exact breaker_allowed_switch hallowed

end Aqts.TradingGuard
