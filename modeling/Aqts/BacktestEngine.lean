import Aqts.BacktestAccount

/-!
# The simulation of a backtest

`BacktestEngine._simulate`, day by day, over the frames of signals and prices that
`run` has cut to their common dates and tickers. A day is a cooldown, a forced
liquidation or a day of trading; a trading day stops losses, follows trailing
stops, sells and buys by the signals and values what is left. The thresholds of the
market regime, the order of equal signals, realized volatility and the root of the
safe return are parameters. A day that raises ends the simulation.
-/

namespace Aqts.BacktestEngine

open BacktestAccount

variable {D T K : Type*}

/-- `Country`. -/
inductive Country
  /-- `KR`. -/
  | kr
  /-- `US`. -/
  | us
  deriving DecidableEq

/-- `BacktestConfig`, of what the simulation reads. -/
structure BacktestConfig (K : Type*) [Field K] where
  /-- `initial_capital`. -/
  initialCapital : K := 50000000
  /-- `country`. -/
  country : Country := .kr
  /-- `commission_rate`. -/
  commissionRate : Option K := none
  /-- `tax_rate`. -/
  taxRate : Option K := none
  /-- `slippage_rate`. -/
  slippageRate : Option K := none
  /-- `stop_loss_pct`. -/
  stopLossPct : Option K := none
  /-- `stop_loss_atr_multiplier`. -/
  stopLossAtrMultiplier : Option K := none
  /-- `trailing_stop_atr_multiplier`. -/
  trailingStopAtrMultiplier : Option K := none
  /-- `max_drawdown_limit`. -/
  maxDrawdownLimit : Option K := none
  /-- `drawdown_cooldown_days`. -/
  drawdownCooldownDays : ℤ := 20
  /-- `safe_asset_annual_return`. -/
  safeAssetAnnualReturn : K := 3/100
  /-- `dd_cushion_start`. -/
  ddCushionStart : Option K := none
  /-- `dd_cushion_floor`. -/
  ddCushionFloor : K := 25/100
  /-- `vol_target`. -/
  volTarget : Option K := none
  /-- `vol_lookback`. -/
  volLookback : ℤ := 20
  /-- `gradual_reentry_days`. -/
  gradualReentryDays : ℤ := 0
  /-- `use_dynamic_threshold`. -/
  useDynamicThreshold : Bool := false

/-- The defaults. -/
def BacktestConfig.plain [Field K] : BacktestConfig K := {}

/-- One row of both frames. A value that is missing is no number. -/
structure Row (D T K : Type*) where
  /-- Its date. -/
  date : D
  /-- Signals. -/
  signals : T→Option K
  /-- Closing prices. -/
  prices : T→Option K

/-- The two frames, over the same dates and tickers. -/
structure Market (D T K : Type*) [LinearOrder D] where
  /-- The columns. -/
  tickers : List T
  /-- Every ticker is a column. -/
  complete : ∀ ticker,ticker∈tickers
  /-- The rows. -/
  rows : List (Row D T K)
  /-- The dates are sorted, and no date comes twice. -/
  increasing : (rows.map Row.date).Pairwise (· < ·)

/-- A row of the frame that stands for the whole market. -/
structure Candle (D K : Type*) where
  /-- Its date. -/
  date : D
  /-- `open`. -/
  opening : Option K
  /-- `high`. -/
  high : Option K
  /-- `low`. -/
  low : Option K
  /-- `close`. -/
  close : Option K
  /-- `volume`. -/
  volume : ℕ

/-- What the regime tells: `DynamicThreshold.compute` and whether there is a crisis. -/
structure Regime (K : Type*) where
  /-- `buy_threshold`. -/
  buyThreshold : K
  /-- `sell_threshold`. -/
  sellThreshold : K
  /-- The regime is `CRISIS`. -/
  crisis : Bool

/-- Code that the simulation calls. -/
structure Library (D T K : Type*) where
  /-- The regime, from the frames of all calls up to the present one. -/
  regime : List (List (Candle D K))→Regime K
  /-- `sort_values(ascending=False)`. -/
  sortValues : List (T×K)→List (T×K)
  /-- The annual deviation of the last returns of an equity curve, if there are five of them. -/
  realizedVolatility : List K→ℤ→Option K
  /-- The power of one day in 252, if it is a real number. -/
  dailyRoot : K→Option K

/-- The variables of the loop. -/
structure State (D T K : Type*) where
  /-- `cash`, `positions` and `trade_records`. -/
  account : Account D T K
  /-- `equity_history`. -/
  equityHistory : List (D×K)
  /-- `peak_value`. -/
  peakValue : K
  /-- `cooldown_remaining`. -/
  cooldownRemaining : ℤ
  /-- `reentry_remaining`. -/
  reentryRemaining : ℤ
  /-- Frames the regime was asked about. -/
  regimeCalls : List (List (Candle D K))

/-- What a day sees of the frames. -/
structure Today (D T K : Type*) where
  /-- `i`. -/
  index : ℕ
  /-- `date`. -/
  date : D
  /-- The columns. -/
  tickers : List T
  /-- The row of the date. -/
  row : Row D T K
  /-- The rows from some rows back up to the present one. -/
  window : ℕ→List (Row D T K)

section Frames

variable [LinearOrder D]

/-- The index of the frames. -/
def Market.dates (m : Market D T K) : List D := m.rows.map Row.date

/-- `loc`. -/
def Market.loc (m : Market D T K) (date : D) : Option (Row D T K) :=
  m.rows.find? fun row => row.date=date

/-- `iloc[start:stop]`. -/
def Market.iloc (m : Market D T K) (start stop : ℕ) : List (Row D T K) :=
  (m.rows.take stop).drop start

/-- The day of an index and a date. -/
def Market.today (m : Market D T K) (date : D) (i : ℕ) : Option (Today D T K) :=
  (m.loc date).map fun row => ⟨i,date,m.tickers,row,fun back => m.iloc (i-back) (i+1)⟩

end Frames

variable [Field K] [LinearOrder K]

/-- `TRANSACTION_COSTS`. -/
def transactionCosts : Country→ Costs K
  | .kr => ⟨15/100000,23/10000,1/1000⟩
  | .us => ⟨1/1000,0,1/1000⟩

/-- `get_costs`. -/
def BacktestConfig.costs (cfg : BacktestConfig K) : Costs K :=
  let defaults : Costs K := transactionCosts cfg.country
  ⟨cfg.commissionRate.getD defaults.commission,cfg.taxRate.getD defaults.tax,
    cfg.slippageRate.getD defaults.slippage⟩

/-- The start of the loop. -/
def State.start (cfg : BacktestConfig K) : State D T K :=
  ⟨⟨cfg.initialCapital,.empty,[]⟩,[],cfg.initialCapital,0,0,[]⟩

/-- The greatest of some numbers. -/
def maxOf : List K→Option K
  | [] => none
  | x::xs => some (xs.foldl max x)

/-- The least of some numbers. -/
def minOf : List K→Option K
  | [] => none
  | x::xs => some (xs.foldl min x)

/-- The mean of some numbers. -/
def meanOf : List K→Option K
  | [] => none
  | x::xs => some ((xs.foldl (· + ·) x)/(xs.length+1))

/-- The range of a ticker's prices over the last days, in parts of a base. -/
def atrPct (today : Today D T K) (ticker : T) (lookback : ℕ) (base : K) : K :=
  let recentPrices := (today.window lookback).filterMap fun row => row.prices ticker
  let highLow := ((maxOf recentPrices).getD 0)-((minOf recentPrices).getD 0)
  let atr := if 0<lookback then highLow/lookback else 0
  if 0<base then atr/base else 0

/-- Whether a stop-loss sells a position. -/
def stopLossTriggers (cfg : BacktestConfig K) (today : Today D T K) (h : Holding T K)
    (currentPrice : K) : Bool :=
  let fixed := match cfg.stopLossPct with
    | none => 15/100
    | some pct => if pct=0 then 15/100 else pct
  let lookback := min today.index 20
  let stopThreshold := match cfg.stopLossAtrMultiplier with
    | none => fixed
    | some multiplier =>
      if 5≤lookback then max (atrPct today h.ticker lookback h.avgPrice*multiplier) (5/100) else fixed
  let lossPct := (currentPrice-h.avgPrice)/h.avgPrice
  decide (lossPct< -stopThreshold)

/-- Whether a trailing stop sells a position. -/
def trailingStopTriggers (multiplier : K) (today : Today D T K) (h : Holding T K)
    (currentPrice : K) : Bool :=
  let peak := h.peakPrice
  if peak≤h.avgPrice then false
  else
    let lookback := min today.index 20
    let trailingThreshold :=
      if 5≤lookback then max (atrPct today h.ticker lookback peak*multiplier) (5/100) else 10/100
    let dropFromPeak := (currentPrice-peak)/peak
    decide (dropFromPeak< -trailingThreshold)

/-- The peak price of a position follows a valid price. -/
def followPeak (price : T→Option K) (h : Holding T K) : Holding T K :=
  match validPrice (price h.ticker) with
  | none => h
  | some current => {h with peakPrice := max h.peakPrice current}

/-- A position keeps its ticker. -/
theorem followPeak_ticker (price : T→Option K) (h : Holding T K) :
    (followPeak price h).ticker=h.ticker := by
  unfold followPeak
  cases validPrice (price h.ticker) <;> rfl

/-- The frame that stands for the market: the mean prices of some rows. -/
def ohlcvProxy (tickers : List T) (rows : List (Row D T K)) : List (Candle D K) :=
  let avgPrices := rows.map fun row => (row.date,meanOf (tickers.filterMap row.prices))
  let shifted := none::avgPrices.map Prod.snd
  (avgPrices.zip shifted).map fun entry =>
    ⟨entry.1.1,entry.2.or entry.1.2,entry.1.2.map fun p => p*(1005/1000),
      entry.1.2.map fun p => p*(995/1000),entry.1.2,1000000⟩

/-- Thresholds for buying and selling and whether there is a crisis, and the calls. -/
def thresholds (cfg : BacktestConfig K) (lib : Library D T K) (today : Today D T K)
    (calls : List (List (Candle D K))) : Regime K×List (List (Candle D K)) :=
  if cfg.useDynamicThreshold=true ∧ 60≤today.index then
    let calls := calls++[ohlcvProxy today.tickers (today.window 119)]
    (lib.regime calls,calls)
  else (⟨3/10,3/10,false⟩,calls)

/-- The factor of the volatility target. -/
def volScale (cfg : BacktestConfig K) (lib : Library D T K) (index : ℕ) (equity : List K) : K :=
  match cfg.volTarget with
  | none => 1
  | some target =>
    if cfg.volLookback≤ index ∧ cfg.volLookback≤equity.length then
      match lib.realizedVolatility equity cfg.volLookback with
      | none => 1
      | some realizedVol =>
        if 0< realizedVol then max (min (target/realizedVol) (3/2)) (1/10) else 1
    else 1

/-- The factor of the drawdown cushion. -/
def cushionScale (cfg : BacktestConfig K) (currentDd : K) : K :=
  match cfg.ddCushionStart with
  | none => 1
  | some cushionStart =>
    if currentDd<0 ∧ cushionStart< |currentDd| then
      let hardLimit := cfg.maxDrawdownLimit.getD (cushionStart*2)
      let progress := min ((|currentDd|-cushionStart)/max (hardLimit-cushionStart) (1/1000000)) 1
      1-progress*(1-cfg.ddCushionFloor)
    else 1

/-- The factor of the gradual reentry. -/
def reentryScale (cfg : BacktestConfig K) (reentryRemaining : ℤ) : K :=
  if 0< reentryRemaining then
    max (1-(reentryRemaining : K)/cfg.gradualReentryDays) (1/10)
  else 1

/-- `available_cash`. -/
def availableCash (cfg : BacktestConfig K) (lib : Library D T K) (index : ℕ) (s : State D T K)
    (cash currentDd : K) (crisis : Bool) : K :=
  cash*(95/100)*volScale cfg lib index (s.equityHistory.map Prod.snd)*
    (if crisis=true then 20/100 else 1)*reentryScale cfg s.reentryRemaining*
    cushionScale cfg currentDd

/-- `current_dd`, below a peak. -/
def drawdown (portfolioValue peakValue : K) : K :=
  if 0<peakValue then (portfolioValue-peakValue)/peakValue else 0

/-- Kinds of days. -/
inductive DayKind
  /-- After a liquidation. -/
  | cooldown
  /-- The drawdown is beyond the limit. -/
  | liquidation
  /-- A day of trading. -/
  | trading
  deriving DecidableEq

/-- The kind of a day. -/
def dayKind (cfg : BacktestConfig K) (s : State D T K) (price : T→Option K) : DayKind :=
  let portfolioValue := s.account.worth price
  match cfg.maxDrawdownLimit with
  | none => .trading
  | some limit =>
    if 0< s.cooldownRemaining then .cooldown
    else if drawdown portfolioValue (max s.peakValue portfolioValue)< -limit then .liquidation
    else .trading

/-- A day of the cooldown: the cash earns the safe return. -/
def cooldownDay (cfg : BacktestConfig K) (lib : Library D T K) (date : D) (s : State D T K) :
    Option (State D T K) :=
  (lib.dailyRoot (1+cfg.safeAssetAnnualReturn)).map fun root =>
    let dailySafeReturn := root-1
    let cash := s.account.cash*(1+dailySafeReturn)
    let remaining := s.cooldownRemaining-1
    {s with
      account := {s.account with cash := cash}
      equityHistory := s.equityHistory++[(date,cash)]
      peakValue := if remaining=0 then cash else s.peakValue
      cooldownRemaining := remaining
      reentryRemaining := if remaining=0 ∧ 0< cfg.gradualReentryDays then cfg.gradualReentryDays
        else s.reentryRemaining}

section Days

variable [DecidableEq T]

/-- The day of a forced liquidation. -/
def liquidationDay (cfg : BacktestConfig K) (date : D) (price : T→Option K) (s : State D T K) :
    State D T K :=
  let account := s.account.sellEach cfg.costs date price (fun _ _ => true) s.account.book.keys
  {s with
    account := account
    equityHistory := s.equityHistory++[(date,account.cash)]
    cooldownRemaining := cfg.drawdownCooldownDays}

/-- Stops of a trading day: the account after peaks, stop-losses and trailing stops. -/
def stops (cfg : BacktestConfig K) (today : Today D T K) (a : Account D T K) : Account D T K :=
  let price := today.row.prices
  let followed := {a with book := a.book.map (followPeak price) (followPeak_ticker price)}
  let stopped :=
    if cfg.stopLossPct.isSome=true ∨ cfg.stopLossAtrMultiplier.isSome=true then
      followed.sellEach cfg.costs today.date price (stopLossTriggers cfg today) followed.book.keys
    else followed
  match cfg.trailingStopAtrMultiplier with
  | none => stopped
  | some multiplier =>
    stopped.sellEach cfg.costs today.date price (trailingStopTriggers multiplier today)
      stopped.book.keys

variable [FloorRing K]

/-- A day of trading, below a peak. -/
def tradingDay (cfg : BacktestConfig K) (lib : Library D T K) (today : Today D T K)
    (currentDd : K) (s : State D T K) : Option (State D T K) :=
  let price := today.row.prices
  let stopped := stops cfg today s.account
  let (regime,calls) := thresholds cfg lib today s.regimeCalls
  let daySignals := today.tickers.filterMap fun ticker =>
    (today.row.signals ticker).map fun signal => (ticker,signal)
  let buySignals := lib.sortValues (daySignals.filter fun signal => regime.buyThreshold< signal.2)
  let sellSignals := daySignals.filter fun signal => signal.2< -regime.sellThreshold
  let sold := stopped.sellEach cfg.costs today.date price (fun h _ => decide (0<h.quantity))
    (sellSignals.map Prod.fst)
  let totalSignal := (buySignals.map Prod.snd).foldl (· + ·) 0
  let buys := buySignals≠[] ∧ 0<totalSignal
  let available := availableCash cfg lib today.index s sold.cash currentDd regime.crisis
  let bought := if buys then
      sold.buyEach cfg.costs today.date price available totalSignal buySignals
    else some sold
  bought.map fun account =>
    {s with
      account := account
      equityHistory := s.equityHistory++[(today.date,account.worth price)]
      reentryRemaining :=
        if buys ∧ 0< s.reentryRemaining then s.reentryRemaining-1 else s.reentryRemaining
      regimeCalls := calls}

/-- One day. -/
def day (cfg : BacktestConfig K) (lib : Library D T K) (today : Today D T K) (s : State D T K) :
    Option (State D T K) :=
  let portfolioValue := s.account.worth today.row.prices
  let peak := max s.peakValue portfolioValue
  match dayKind cfg s today.row.prices with
  | .cooldown => cooldownDay cfg lib today.date {s with peakValue := peak}
  | .liquidation => some (liquidationDay cfg today.date today.row.prices {s with peakValue := peak})
  | .trading => tradingDay cfg lib today (drawdown portfolioValue peak) {s with peakValue := peak}

variable [LinearOrder D]

/-- The days before an index. -/
def runTo (cfg : BacktestConfig K) (lib : Library D T K) (m : Market D T K) (n : ℕ) :
    Option (State D T K) :=
  (m.dates.zipIdx.take n).foldlM (fun s entry =>
    (m.today entry.1 entry.2).bind fun today => day cfg lib today s) (.start cfg)

/-- `_simulate`: the equity curve and the trade records. -/
def simulate (cfg : BacktestConfig K) (lib : Library D T K) (m : Market D T K) :
    Option (List (D×K)×List (TradeRecord D T K)) :=
  (runTo cfg lib m m.dates.length).map fun s => (s.equityHistory,s.account.records)

end Days

end Aqts.BacktestEngine
