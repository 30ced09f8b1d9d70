import Aqts.KillSwitchRuns

/-!
# The amount limit and the currency of an order

`execute_order` asks the guard with the limit price as it is and without the
market, and the guard compares price times quantity with a limit in won. The
price of an order for another market than KRX is sent in dollars, so such an
order is admitted with its dollar amount.
-/

namespace Aqts.OrderAmounts

open OrderTypes TradingGuard KillSwitchRuns

/-- Price times quantity in won; the prices of other markets than KRX are in
dollars. -/
def amountKrw (usdKrw : ℚ) (market : Market) (price : ℚ) (quantity : ℤ) : ℚ :=
  if market=.krx then price*quantity else price*quantity*usdKrw

/-- The order passes the guard but for its amount: the kill switch is off and the
checks of `run_all_checks` pass. -/
def PassesOtherChecks (texts : NumberTexts) (settings : Settings) (s : TradingGuardState) : Prop :=
  s.killSwitchOn=false ∧ (runAllChecks texts settings s).1.allowed=true

instance (texts : NumberTexts) (settings : Settings) (s : TradingGuardState) :
    Decidable (PassesOtherChecks texts settings s) :=
  inferInstanceAs (Decidable (_ ∧ _))

/-- A number that is at most the limit as it stands, and above it in won. -/
def BetweenLimits (limit usdKrw amount : ℚ) : Prop := limit/usdKrw<amount ∧ amount≤limit

instance (limit usdKrw amount : ℚ) : Decidable (BetweenLimits limit usdKrw amount) :=
  inferInstanceAs (Decidable (_ ∧ _))

/-- A rate of at most one leaves nothing between the limits. -/
theorem not_betweenLimits_of_rate {limit usdKrw amount : ℚ} (hlimit : 0≤limit)
    (hpos : 0<usdKrw) (hrate : usdKrw≤1) : ¬BetweenLimits limit usdKrw amount := by
  rintro ⟨habove,hbelow⟩
  have hscaled : limit≤limit/usdKrw := by
    rw [le_div_iff₀ hpos]
    exact mul_le_of_le_one_right hlimit hrate
  linarith

/-- A BUY with a positive limit price is admitted exactly if the other checks
pass and price times quantity, in whatever currency, is at most the limit. -/
theorem preOrder_allowed_iff (texts : NumberTexts) (settings : Settings) (s : TradingGuardState)
    {request : OrderRequest} {price : ℚ} (hside : request.side=.buy)
    (hprice : request.limitPrice=some price) (hpos : 0<price) :
    (checkPreOrder texts settings (preOrder request) s).1.allowed=true ↔
      PassesOtherChecks texts settings s ∧
        price*request.quantity≤ settings.risk.maxOrderAmount := by
  have hwithin : WithinAmount settings.risk (preOrder request) ↔
      price*request.quantity≤ settings.risk.maxOrderAmount := by
    unfold WithinAmount preOrder
    dsimp only
    rw [hprice,hside]
    exact ⟨fun h => h price rfl rfl hpos,fun h other hother _ _ => Option.some.inj hother ▸ h⟩
  unfold PassesOtherChecks
  cases hswitch : s.killSwitchOn with
  | true =>
    rw [checkPreOrder_switch texts settings _ hswitch]
    exact ⟨nofun,fun h => absurd h.1.1 (by simp)⟩
  | false =>
    rw [checkPreOrder_allowed texts settings _ hswitch,hwithin]
    simp

/-- A BUY with a positive limit price that the guard admits is within the limit
in won exactly if it is for KRX, or the guard refuses it on another ground, or
its amount in dollars is not between the limit in dollars and the limit as it
stands. -/
theorem checkPreOrder_amountKrw_iff (texts : NumberTexts) (settings : Settings)
    (s : TradingGuardState) {request : OrderRequest} {price usdKrw : ℚ}
    (hside : request.side=.buy) (hprice : request.limitPrice=some price) (hpos : 0<price)
    (hrate : 0<usdKrw) :
    ((checkPreOrder texts settings (preOrder request) s).1.allowed=true→
        amountKrw usdKrw request.market price request.quantity≤ settings.risk.maxOrderAmount) ↔
      request.market=.krx ∨ ¬PassesOtherChecks texts settings s ∨
        ¬BetweenLimits settings.risk.maxOrderAmount usdKrw (price*request.quantity) := by
  rw [preOrder_allowed_iff texts settings s hside hprice hpos]
  unfold amountKrw BetweenLimits
  by_cases hmarket : request.market=.krx
  · rw [if_pos hmarket]
    exact ⟨fun _ => .inl hmarket,fun _ h => h.2⟩
  · rw [if_neg hmarket,← le_div_iff₀ hrate]
    constructor
    · intro h
      by_cases hothers : PassesOtherChecks texts settings s
      · exact .inr (.inr fun hbetween =>
          absurd (h ⟨hothers,hbetween.2⟩) (not_le.mpr hbetween.1))
      · exact .inr (.inl hothers)
    · rintro (hkrx | hothers | hbetween) ⟨hpassed,hwithin⟩
      · exact absurd hkrx hmarket
      · exact absurd hpassed hothers
      · exact not_lt.mp fun habove => hbetween ⟨habove,hwithin⟩

/-- A BUY of a hundred shares with a limit price. -/
def hundredAt (ticker : String) (market : Market) (limitPrice : ℚ) : OrderRequest :=
  ⟨ticker,market,.buy,100,.limit,some limitPrice,""⟩

/-- A hundred shares at seventy thousand won are within ten million won. -/
theorem checkPreOrder_amountKrw_iff_won :
    amountKrw 1350 .krx 70000 100≤10000000 :=
  (checkPreOrder_amountKrw_iff GuardHistory.lossTexts GuardHistory.demoSettings
    (initial GuardHistory.demoSettings) (show (hundredAt "005930" .krx 70000).side=.buy from rfl)
    rfl (by decide +kernel) (by decide +kernel)).mpr (.inl rfl) (by decide +kernel)

/-- A hundred shares at two hundred dollars are admitted under a limit of ten
million won. -/
theorem twenty_thousand_dollars_admitted :
    ¬∀ (texts : NumberTexts) (settings : Settings) (s : TradingGuardState)
      (request : OrderRequest) (price usdKrw : ℚ),request.side=.buy→
      request.limitPrice=some price→0<price→0<usdKrw→
      (checkPreOrder texts settings (preOrder request) s).1.allowed=true→
      amountKrw usdKrw request.market price request.quantity≤ settings.risk.maxOrderAmount := by
  intro hall
  have hle := hall GuardHistory.lossTexts GuardHistory.demoSettings
    (initial GuardHistory.demoSettings) (hundredAt "AAPL" .nasdaq 200) 200 1350 rfl rfl
    (by decide +kernel) (by decide +kernel) (by decide +kernel)
  exact absurd hle (by decide +kernel)

end Aqts.OrderAmounts
