import Aqts.KisClient
import Aqts.PriceGuard

/-!
# The price that a limit order sends

The price guard of `execute_order` measures the limit price of the request. A
KRX order then sends its whole part and an order for another market sends it as
it is, so what is sent is a positive price of the band for the other markets,
and for KRX unless the truncation steps over the lower edge of the band or
leaves nothing.
-/

namespace Aqts.LimitPrices

open OrderTypes PriceGuard KisClient RetriedCalls

/-- `int(x)` of a float. -/
def pyInt (x : ℚ) : ℤ := if 0≤x then ⌊x⌋ else ⌈x⌉

/-- Price of an order, as its broker call gets it. -/
inductive SentPrice
  /-- `price` of `place_kr_order`. -/
  | kr (price : ℤ)
  /-- `price` of `place_us_order`. -/
  | us (price : ℚ)
  deriving DecidableEq

/-- The number that is sent. -/
def SentPrice.value : SentPrice→ℚ
  | .kr price => price
  | .us price => price

/-- The price that `_execute_limit_order` passes on. -/
def sentLimitPrice (market : Market) (limitPrice : ℚ) : SentPrice :=
  if market=.krx then .kr (pyInt limitPrice) else .us limitPrice

/-- The broker call of `_execute_limit_order`. -/
def placeLimitOrder (settings : KisSettings) (r : Retrying settings.apiRetryCount)
    (network : ℕ→Attempt) (floatText : ℚ→String) (request : OrderRequest) (limitPrice : ℚ) :
    Exchange :=
  match sentLimitPrice request.market limitPrice with
  | .kr price =>
    placeKrOrder settings r network request.ticker request.side request.quantity price "00"
  | .us price =>
    placeUsOrder settings r network floatText request.ticker request.side request.quantity price
      "NASD"

/-- The field of the request body with the price. -/
def SentPrice.field (floatText : ℚ→String) : SentPrice→String×String
  | .kr price => ("ORD_UNPR",toString price)
  | .us price => ("OVRS_ORD_UNPR",floatText price)

/-- Every order that the broker accepts from a limit order carries the price that
is sent. -/
theorem placeLimitOrder_price {settings : KisSettings} {r : Retrying settings.apiRetryCount}
    {network : ℕ→Attempt} {floatText : ℚ→String} {request : OrderRequest} {limitPrice : ℚ}
    {post : Post}
    (h : post∈(placeLimitOrder settings r network floatText request limitPrice).accepted) :
    (sentLimitPrice request.market limitPrice).field floatText∈post.body := by
  unfold placeLimitOrder at h
  cases hsent : sentLimitPrice request.market limitPrice with
  | kr price =>
    rw [hsent] at h
    rw [request_accepted h]
    simp [SentPrice.field]
  | us price =>
    rw [hsent] at h
    rw [request_accepted h]
    simp [SentPrice.field]

/-- The quote and price checks of `execute_order` for a live order. No provider
is given as `none`. -/
def preTradeGuard (config : PriceGuardConfig) (provider : Option ProviderAnswer)
    (request : OrderRequest) (now : ℚ) : Except GuardError Quote :=
  match provider with
  | none => .error (.quoteFetch request.ticker
      "live OrderExecutor requires a quote_provider; refusing to trade blind")
  | some answer =>
    match fetchAndValidateQuote answer request.ticker request.market config.maxQuoteAgeSeconds
        now with
    | .error error => .error error
    | .ok quote =>
      match request.orderType,request.limitPrice with
      | .limit,some limitPrice =>
        match assertPreTradePrice request.ticker request.side quote.price limitPrice
            config.maxPreTradeDeviationPct with
        | .error error => .error error
        | .ok _ => .ok quote
      | _,_ => .ok quote

/-- The truncation keeps at least one unit of the price and does not step over
the lower edge of the band of a SELL. -/
def TruncationKeeps (side : OrderSide) (reference maxDeviationPct limitPrice : ℚ) : Prop :=
  1≤limitPrice ∧ (side=.sell→ reference*(1-maxDeviationPct)≤⌊limitPrice⌋)

instance (side : OrderSide) (reference maxDeviationPct limitPrice : ℚ) :
    Decidable (TruncationKeeps side reference maxDeviationPct limitPrice) :=
  inferInstanceAs (Decidable (_ ∧ _))

/-- A limit order that passes the guard has a positive price of the band. -/
theorem preTradeGuard_limit {config : PriceGuardConfig} {provider : Option ProviderAnswer}
    {request : OrderRequest} {now limitPrice : ℚ} {quote : Quote}
    (htype : request.orderType=.limit) (hprice : request.limitPrice=some limitPrice)
    (h : preTradeGuard config provider request now=.ok quote) :
    0<limitPrice ∧ InBand request.side quote.price config.maxPreTradeDeviationPct limitPrice := by
  unfold preTradeGuard at h
  rw [htype,hprice] at h
  cases provider with
  | none => cases h
  | some answer =>
    dsimp only at h
    split at h
    · cases h
    · split at h
      · cases h
      · rename_i hband
        cases h
        exact ((assertPreTradePrice_ok _ _ _ _ _).mp hband).2.2

/-- The whole part of a positive price. -/
theorem pyInt_of_pos {x : ℚ} (h : 0<x) : pyInt x=⌊x⌋ := if_pos h.le

/-- The truncated price of a positive price of the band is positive and of the
band exactly if the truncation keeps it. -/
theorem truncated_inBand_iff {side : OrderSide} {reference maxDeviationPct limitPrice : ℚ}
    (hpos : 0<limitPrice) (hband : InBand side reference maxDeviationPct limitPrice) :
    (0<(pyInt limitPrice : ℚ) ∧ InBand side reference maxDeviationPct (pyInt limitPrice)) ↔
      TruncationKeeps side reference maxDeviationPct limitPrice := by
  have hunit : 0<(⌊limitPrice⌋ : ℚ) ↔ 1≤limitPrice := by
    rw [Int.cast_pos,Int.floor_pos]
  rw [pyInt_of_pos hpos]
  unfold TruncationKeeps
  rw [hunit]
  cases side with
  | buy =>
    have hless : (⌊limitPrice⌋ : ℚ)≤ reference*(1+maxDeviationPct) :=
      (Int.floor_le limitPrice).trans hband
    exact ⟨fun h => ⟨h.1,nofun⟩,fun h => ⟨h.1,hless⟩⟩
  | sell => exact ⟨fun h => ⟨h.1,fun _ => h.2⟩,fun h => ⟨h.1,h.2 rfl⟩⟩

/-- The price that a limit order sends after passing the guard is positive and
of the band exactly if the order is for another market than KRX or the
truncation keeps its price. -/
theorem sentLimitPrice_inBand_iff {config : PriceGuardConfig} {provider : Option ProviderAnswer}
    {request : OrderRequest} {now limitPrice : ℚ} {quote : Quote}
    (htype : request.orderType=.limit) (hprice : request.limitPrice=some limitPrice)
    (h : preTradeGuard config provider request now=.ok quote) :
    (0<(sentLimitPrice request.market limitPrice).value ∧
        InBand request.side quote.price config.maxPreTradeDeviationPct
          (sentLimitPrice request.market limitPrice).value) ↔
      request.market≠.krx ∨
        TruncationKeeps request.side quote.price config.maxPreTradeDeviationPct limitPrice := by
  obtain ⟨hpos,hband⟩ := preTradeGuard_limit htype hprice h
  unfold sentLimitPrice
  by_cases hmarket : request.market=.krx
  · rw [if_pos hmarket]
    dsimp only [SentPrice.value]
    rw [truncated_inBand_iff hpos hband]
    exact ⟨.inr,fun h => h.resolve_left (not_not.mpr hmarket)⟩
  · rw [if_neg hmarket]
    exact ⟨fun _ => .inl hmarket,fun _ => ⟨hpos,hband⟩⟩

/-- A hundred is a price. -/
theorem hundred_pos : (0 : ℚ)<100 := by norm_num

/-- A fresh quote of a hundred won. -/
def hundredWon : Quote := ⟨"005930",.krx,100,0,hundred_pos⟩

/-- A limit order for the ticker of the quote. -/
def limitRequest (side : OrderSide) (limitPrice : ℚ) : OrderRequest :=
  ⟨"005930",.krx,side,10,.limit,some limitPrice,""⟩

/-- The guard passes a SELL of the ticker at ninety-eight won. -/
theorem preTradeGuard_ninetyEight :
    preTradeGuard PriceGuardConfig.default (some (.quote hundredWon)) (limitRequest .sell 98) 1=
      .ok hundredWon := by
  decide +kernel

/-- A price of whole won is sent as it is. -/
theorem sentLimitPrice_inBand_iff_whole :
    0<(sentLimitPrice .krx 98).value ∧
      InBand .sell 100 (2/100) (sentLimitPrice .krx 98).value :=
  (sentLimitPrice_inBand_iff rfl rfl preTradeGuard_ninetyEight).mpr (.inr (by decide +kernel))

/-- Half a won passes the guard and is sent as zero. -/
theorem half_won_sent_as_zero :
    ¬∀ (config : PriceGuardConfig) (provider : Option ProviderAnswer) (request : OrderRequest)
      (now limitPrice : ℚ) (quote : Quote),request.orderType=.limit→
      request.limitPrice=some limitPrice→
      preTradeGuard config provider request now=.ok quote→
      0<(sentLimitPrice request.market limitPrice).value ∧
        InBand request.side quote.price config.maxPreTradeDeviationPct
          (sentLimitPrice request.market limitPrice).value := by
  intro hall
  have hsent := hall PriceGuardConfig.default (some (.quote hundredWon)) (limitRequest .buy (1/2))
    1 (1/2) hundredWon rfl rfl (by decide +kernel)
  exact absurd hsent.1 (by decide +kernel)

end Aqts.LimitPrices
