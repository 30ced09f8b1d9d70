import Aqts.OrderTypes
import Mathlib.Algebra.Order.Field.Rat
import Mathlib.Data.Rat.Floor
import Mathlib.Tactic.Linarith

/-!
# The price guard

`core.order_executor.price_guard`: the freshness of the quote that an order is
measured by, the band for the price of a limit order and the check of the fill
price. A quote has a positive price and the thresholds are positive, since
their constructors raise otherwise. Instants are exact and carry no zone.
-/

namespace Aqts.PriceGuard

open OrderTypes

/-- `Quote`. -/
structure Quote where
  /-- Ticker of the price. -/
  ticker : String
  /-- Market of the price. -/
  market : Market
  /-- The price. -/
  price : ℚ
  /-- Instant at which the client received it. -/
  fetchedAt : ℚ
  /-- `Quote.price must be > 0`. -/
  positive : 0<price
  deriving DecidableEq

/-- `PriceGuardConfig`. -/
structure PriceGuardConfig where
  /-- `max_quote_age_seconds`. -/
  maxQuoteAgeSeconds : ℚ
  /-- `max_pre_trade_deviation_pct`. -/
  maxPreTradeDeviationPct : ℚ
  /-- `max_post_trade_slippage_pct`. -/
  maxPostTradeSlippagePct : ℚ
  /-- `max_quote_age_seconds must be > 0`. -/
  agePositive : 0< maxQuoteAgeSeconds
  /-- `max_pre_trade_deviation_pct must be > 0`. -/
  deviationPositive : 0< maxPreTradeDeviationPct
  /-- `max_post_trade_slippage_pct must be > 0`. -/
  slippagePositive : 0< maxPostTradeSlippagePct

/-- The default age passes its check. -/
theorem defaultAge_pos : (0 : ℚ)<5 := by norm_num

/-- The default deviation passes its check. -/
theorem defaultDeviation_pos : (0 : ℚ)<2/100 := by norm_num

/-- The default slippage passes its check. -/
theorem defaultSlippage_pos : (0 : ℚ)<1/100 := by norm_num

/-- `PriceGuardConfig()`. -/
def PriceGuardConfig.default : PriceGuardConfig :=
  ⟨5,2/100,1/100,defaultAge_pos,defaultDeviation_pos,defaultSlippage_pos⟩

/-- Exceptions of the guard. -/
inductive GuardError
  /-- `StaleQuoteError`. -/
  | staleQuote (ticker : String) (ageSeconds limitSeconds : ℚ)
  /-- `PriceDeviationError`. -/
  | priceDeviation (ticker : String) (side : OrderSide)
      (referencePrice orderPrice deviationPct limitPct : ℚ)
  /-- `QuoteFetchError`. -/
  | quoteFetch (ticker reason : String)
  /-- `ValueError`. -/
  | value (text : String)
  deriving DecidableEq

/-- Texts that Python gives numbers in the messages. -/
structure GuardTexts where
  /-- `{:.3f}`. -/
  seconds : ℚ→String
  /-- A float without a format. -/
  plain : ℚ→String
  /-- `{:.4%}`. -/
  percent : ℚ→String

/-- Text of an exception. -/
def GuardError.message (texts : GuardTexts) : GuardError→String
  | .staleQuote ticker age limit =>
    "Stale quote for "++ticker++": age="++texts.seconds age++"s > limit="++texts.seconds limit++"s"
  | .priceDeviation ticker side reference order deviation limit =>
    "Pre-trade price deviation for "++ticker++" "++side.value++": order="++texts.plain order++
      " vs reference="++texts.plain reference++" (deviation="++texts.percent deviation++
      " > limit="++texts.percent limit++")"
  | .quoteFetch ticker reason => "Quote fetch failed for "++ticker++": "++reason
  | .value text => text

/-- `compute_deviation_pct`. -/
def computeDeviationPct (reference candidate : ℚ) : Except GuardError ℚ :=
  if reference≤0 then .error (.value "reference must be > 0")
  else .ok (|candidate-reference|/reference)

/-- `assert_quote_fresh`. -/
def assertQuoteFresh (quote : Quote) (maxAgeSeconds now : ℚ) : Except GuardError Unit :=
  if maxAgeSeconds≤0 then .error (.value "max_age_seconds must be > 0")
  else if now-quote.fetchedAt<0 then
    .error (.staleQuote quote.ticker (now-quote.fetchedAt) maxAgeSeconds)
  else if maxAgeSeconds<now-quote.fetchedAt then
    .error (.staleQuote quote.ticker (now-quote.fetchedAt) maxAgeSeconds)
  else .ok ()

/-- The exception for a price outside the band. -/
def deviates (ticker : String) (side : OrderSide) (reference order maxDeviationPct : ℚ) :
    Except GuardError Unit :=
  match computeDeviationPct reference order with
  | .error error => .error error
  | .ok deviation => .error (.priceDeviation ticker side reference order deviation maxDeviationPct)

/-- `assert_pre_trade_price`. -/
def assertPreTradePrice (ticker : String) (side : OrderSide)
    (referencePrice orderPrice maxDeviationPct : ℚ) : Except GuardError Unit :=
  if maxDeviationPct≤0 then .error (.value "max_deviation_pct must be > 0")
  else if referencePrice≤0 ∨ orderPrice≤0 then
    .error (.value "reference_price and order_price must be > 0")
  else
    match side with
    | .buy =>
      if referencePrice*(1+maxDeviationPct)<orderPrice then
        deviates ticker side referencePrice orderPrice maxDeviationPct
      else .ok ()
    | .sell =>
      if orderPrice< referencePrice*(1-maxDeviationPct) then
        deviates ticker side referencePrice orderPrice maxDeviationPct
      else .ok ()

/-- `check_post_trade_slippage`. -/
def checkPostTradeSlippage (side : OrderSide) (referencePrice fillPrice maxSlippagePct : ℚ) :
    Except GuardError Bool :=
  if maxSlippagePct≤0 then .error (.value "max_slippage_pct must be > 0")
  else if referencePrice≤0 ∨ fillPrice≤0 then .ok false
  else
    match computeDeviationPct referencePrice fillPrice with
    | .error error => .error error
    | .ok deviation =>
      if side=.buy ∧ fillPrice≤ referencePrice then .ok false
      else if side=.sell ∧ referencePrice≤fillPrice then .ok false
      else if deviation≤ maxSlippagePct then .ok false
      else .ok true

/-- What `get_quote` of a provider does. -/
inductive ProviderAnswer
  /-- A quote. -/
  | quote (quote : Quote)
  /-- `QuoteFetchError`. -/
  | fetchError (ticker reason : String)
  /-- Another exception, with its text. -/
  | raises (text : String)

/-- `fetch_and_validate_quote`. -/
def fetchAndValidateQuote (answer : ProviderAnswer) (ticker : String) (market : Market)
    (maxAgeSeconds now : ℚ) : Except GuardError Quote :=
  match answer with
  | .fetchError ticker reason => .error (.quoteFetch ticker reason)
  | .raises text => .error (.quoteFetch ticker ("unexpected provider error: "++text))
  | .quote quote =>
    if quote.ticker≠ticker ∨ quote.market≠market then
      .error (.quoteFetch ticker ("quote identity mismatch: got ("++quote.ticker++","++
        quote.market.value++")"))
    else
      match assertQuoteFresh quote maxAgeSeconds now with
      | .error error => .error error
      | .ok _ => .ok quote

/-- The band of a price: not above it for a BUY, not below it for a SELL. -/
def InBand (side : OrderSide) (reference maxDeviationPct price : ℚ) : Prop :=
  match side with
  | .buy => price≤ reference*(1+maxDeviationPct)
  | .sell => reference*(1-maxDeviationPct)≤price

instance (side : OrderSide) (reference maxDeviationPct price : ℚ) :
    Decidable (InBand side reference maxDeviationPct price) :=
  match side with
  | .buy => inferInstanceAs (Decidable (_≤_))
  | .sell => inferInstanceAs (Decidable (_≤_))

/-- A quote that passes is of the ticker and the market asked for, and not older
than the threshold. -/
theorem fetchAndValidateQuote_ok {answer : ProviderAnswer} {ticker : String} {market : Market}
    {maxAgeSeconds now : ℚ} {quote : Quote}
    (h : fetchAndValidateQuote answer ticker market maxAgeSeconds now=.ok quote) :
    quote.ticker=ticker ∧ quote.market=market ∧ quote.fetchedAt≤now ∧
      now-quote.fetchedAt≤ maxAgeSeconds := by
  unfold fetchAndValidateQuote at h
  cases answer with
  | fetchError ticker reason => cases h
  | raises text => cases h
  | quote answered =>
    dsimp only at h
    by_cases hother : answered.ticker≠ticker ∨ answered.market≠market
    · rw [if_pos hother] at h
      cases h
    · rw [if_neg hother] at h
      obtain ⟨hticker,hmarket⟩ := not_or.mp hother
      unfold assertQuoteFresh at h
      split_ifs at h with hlimit hfuture hstale
      · cases h
        exact ⟨not_not.mp hticker,not_not.mp hmarket,by linarith,not_lt.mp hstale⟩

/-- The check of the fill price never raises under a positive threshold. -/
theorem checkPostTradeSlippage_ok (side : OrderSide) (referencePrice fillPrice : ℚ)
    {maxSlippagePct : ℚ} (h : 0< maxSlippagePct) :
    ∃ exceeded,checkPostTradeSlippage side referencePrice fillPrice maxSlippagePct=
      .ok exceeded := by
  unfold checkPostTradeSlippage
  rw [if_neg (not_le.mpr h)]
  by_cases hprices : referencePrice≤0 ∨ fillPrice≤0
  · exact ⟨false,if_pos hprices⟩
  · rw [if_neg hprices]
    unfold computeDeviationPct
    rw [if_neg (not_or.mp hprices).1]
    dsimp only
    split_ifs
    · exact ⟨false,rfl⟩
    · exact ⟨false,rfl⟩
    · exact ⟨false,rfl⟩
    · exact ⟨true,rfl⟩

/-- A price outside the band raises. -/
theorem deviates_not_ok (ticker : String) (side : OrderSide) (reference order limit : ℚ) :
    deviates ticker side reference order limit≠.ok () := by
  unfold deviates
  split
  · exact nofun
  · exact nofun

/-- The guard passes exactly the positive prices of the band, for a positive
reference and a positive threshold. -/
theorem assertPreTradePrice_ok (ticker : String) (side : OrderSide)
    (reference order maxDeviationPct : ℚ) :
    assertPreTradePrice ticker side reference order maxDeviationPct=.ok () ↔
      0< maxDeviationPct ∧ 0< reference ∧ 0<order ∧ InBand side reference maxDeviationPct order := by
  unfold assertPreTradePrice
  by_cases hlimit : maxDeviationPct≤0
  · rw [if_pos hlimit]
    exact ⟨nofun,fun h => absurd h.1 (not_lt.mpr hlimit)⟩
  · rw [if_neg hlimit]
    by_cases hprices : reference≤0 ∨ order≤0
    · rw [if_pos hprices]
      refine ⟨nofun,fun h => ?_⟩
      obtain hreference | horder := hprices
      · exact absurd h.2.1 (not_lt.mpr hreference)
      · exact absurd h.2.2.1 (not_lt.mpr horder)
    · rw [if_neg hprices]
      obtain ⟨hreference,horder⟩ := not_or.mp hprices
      have hpositive : ∀ P : Prop,(0< maxDeviationPct ∧ 0< reference ∧ 0<order ∧ P) ↔ P := by
        intro P
        exact ⟨fun h => h.2.2.2,
          fun h => ⟨not_le.mp hlimit,not_le.mp hreference,not_le.mp horder,h⟩⟩
      rw [hpositive]
      cases side with
      | buy =>
        dsimp only [InBand]
        by_cases hout : reference*(1+maxDeviationPct)<order
        · rw [if_pos hout]
          exact ⟨fun h => absurd h (deviates_not_ok _ _ _ _ _),fun h => absurd hout (not_lt.mpr h)⟩
        · rw [if_neg hout]
          exact ⟨fun _ => not_lt.mp hout,fun _ => rfl⟩
      | sell =>
        dsimp only [InBand]
        by_cases hout : order< reference*(1-maxDeviationPct)
        · rw [if_pos hout]
          exact ⟨fun h => absurd h (deviates_not_ok _ _ _ _ _),fun h => absurd hout (not_lt.mpr h)⟩
        · rw [if_neg hout]
          exact ⟨fun _ => not_lt.mp hout,fun _ => rfl⟩

end Aqts.PriceGuard
