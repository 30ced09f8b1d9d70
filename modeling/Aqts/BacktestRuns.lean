import Mathlib.Data.Rat.Floor
import Aqts.BacktestEngine

/-!
# Runs of a backtest

The days of a run one after the other, what each kind of day does, and the rules
for what they keep. An account keeps through a day what every sale of a position,
every purchase of a new ticker, every followed peak and the interest of a cooldown
keep.
-/

namespace Aqts.BacktestRuns

open BacktestAccount BacktestEngine

variable {D T K : Type*}

section Frames

variable [LinearOrder D]

/-- What a day sees of its row. -/
def seen (m : Market D T K) (n : ℕ) (row : Row D T K) : Today D T K :=
  ⟨n,row.date,m.tickers,row,fun back => m.iloc (n-back) (n+1)⟩

/-- A row is found by its date. -/
theorem loc_eq {m : Market D T K} {row : Row D T K} (h : row∈m.rows) :
    m.loc row.date=some row := by
  unfold Market.loc
  cases hfound : m.rows.find? fun other => other.date=row.date with
  | none =>
    have hnone := List.find?_eq_none.mp hfound row h
    exact absurd (decide_eq_true rfl) hnone
  | some other =>
    have hdate := List.find?_some hfound
    have hmem : other∈m.rows := List.mem_of_find?_eq_some hfound
    have hnodup : (m.rows.map Row.date).Nodup := m.increasing.imp ne_of_lt
    exact congrArg some (List.inj_on_of_nodup_map hnodup hmem h (of_decide_eq_true hdate))

/-- The day of a row. -/
theorem today_eq {m : Market D T K} {n : ℕ} {row : Row D T K} (h : m.rows[n]?=some row) :
    m.today row.date n=some (seen m n row) := by
  unfold Market.today
  rw [loc_eq (List.mem_of_getElem? h)]
  rfl

end Frames

variable [Field K] [LinearOrder K] [DecidableEq T]

/-- What the trades of a day keep of an account. -/
structure Kept (cfg : BacktestConfig K) (today : Today D T K) (P : Account D T K→Prop) : Prop where
  /-- The sale of a position at a price above zero. -/
  sell : ∀ a h current,P a→h∈a.book.holdings→today.row.prices h.ticker=some current→0< current→
    P (a.sell cfg.costs today.date h current)
  /-- The purchase of shares of a new ticker for no more than the cash. -/
  buy : ∀ a ticker quantity current,P a→ticker∉a.book.keys→0< current→0<quantity→
    totalCost cfg.costs quantity (current*(1+cfg.costs.slippage))≤a.cash→
    P (a.buy cfg.costs today.date ticker quantity (current*(1+cfg.costs.slippage)))
  /-- Peaks. -/
  follow : ∀ a,P a→P {a with
    book := a.book.map (followPeak today.row.prices) (followPeak_ticker today.row.prices)}

variable {cfg : BacktestConfig K} {lib : Library D T K} {today : Today D T K}
  {P : Account D T K→Prop} {s s' : State D T K}

/-- A forced liquidation. -/
theorem Kept.liquidation (h : Kept cfg today P) (ha : P s.account) :
    P (liquidationDay cfg today.date today.row.prices s).account :=
  sellEach_invariant h.sell _ _ ha

/-- The stops of a trading day. -/
theorem Kept.stops (h : Kept cfg today P) {a : Account D T K} (ha : P a) :
    P (BacktestEngine.stops cfg today a) := by
  unfold BacktestEngine.stops
  dsimp only
  have hfollowed := h.follow a ha
  have hstopped := sellEach_invariant h.sell (stopLossTriggers cfg today)
    (a.book.map (followPeak today.row.prices) (followPeak_ticker today.row.prices)).keys hfollowed
  cases cfg.trailingStopAtrMultiplier with
  | none =>
    dsimp only
    split
    · exact hstopped
    · exact hfollowed
  | some multiplier =>
    dsimp only
    refine sellEach_invariant h.sell _ _ ?_
    split
    · exact hstopped
    · exact hfollowed

variable [FloorRing K]

/-- A trading day. -/
theorem Kept.trading (h : Kept cfg today P) {currentDd : K} (ha : P s.account)
    (hday : tradingDay cfg lib today currentDd s=some s') : P s'.account := by
  unfold tradingDay at hday
  dsimp only at hday
  obtain ⟨account,haccount,rfl⟩ := Option.map_eq_some_iff.mp hday
  have hsold := fun tickers => sellEach_invariant h.sell (fun h _ => decide (0<h.quantity)) tickers
    (h.stops ha)
  split at haccount
  · exact buyEach_invariant h.buy (hsold _) haccount
  · cases haccount
    exact hsold _

/-- A state whose peak has followed the worth. -/
def peaked (s : State D T K) (price : T→Option K) : State D T K :=
  {s with peakValue := max s.peakValue (s.account.worth price)}

/-- A day of a cooldown. -/
theorem day_cooldown (hkind : dayKind cfg s today.row.prices=.cooldown) :
    day cfg lib today s=cooldownDay cfg lib today.date (peaked s today.row.prices) := by
  unfold day
  rw [hkind]
  rfl

/-- A day of a liquidation. -/
theorem day_liquidation (hkind : dayKind cfg s today.row.prices=.liquidation) :
    day cfg lib today s=
      some (liquidationDay cfg today.date today.row.prices (peaked s today.row.prices)) := by
  unfold day
  rw [hkind]
  rfl

/-- A day of trading. -/
theorem day_trading (hkind : dayKind cfg s today.row.prices=.trading) :
    day cfg lib today s=
      tradingDay cfg lib today (drawdown (s.account.worth today.row.prices)
        (peaked s today.row.prices).peakValue) (peaked s today.row.prices) := by
  unfold day
  rw [hkind]
  rfl

/-- A day keeps what its trades and the interest of a cooldown keep. -/
theorem Kept.day (h : Kept cfg today P)
    (hinterest : ∀ root,dayKind cfg s today.row.prices=.cooldown→
      lib.dailyRoot (1+cfg.safeAssetAnnualReturn)=some root→
      P {s.account with cash := s.account.cash*(1+(root-1))})
    (ha : P s.account) (hday : BacktestEngine.day cfg lib today s=some s') : P s'.account := by
  cases hkind : dayKind cfg s today.row.prices with
  | cooldown =>
    rw [day_cooldown hkind] at hday
    obtain ⟨root,hroot,rfl⟩ := Option.map_eq_some_iff.mp hday
    exact hinterest root hkind hroot
  | liquidation =>
    rw [day_liquidation hkind] at hday
    cases hday
    exact h.liquidation ha
  | trading =>
    rw [day_trading hkind] at hday
    refine h.trading ?_ hday
    exact ha

/-- A day adds one value to the equity curve, of its own date. -/
theorem day_equity (hday : day cfg lib today s=some s') :
    ∃ value,s'.equityHistory=s.equityHistory++[(today.date,value)] := by
  cases hkind : dayKind cfg s today.row.prices with
  | cooldown =>
    rw [day_cooldown hkind] at hday
    obtain ⟨root,_,rfl⟩ := Option.map_eq_some_iff.mp hday
    exact ⟨_,rfl⟩
  | liquidation =>
    rw [day_liquidation hkind] at hday
    cases hday
    exact ⟨_,rfl⟩
  | trading =>
    rw [day_trading hkind] at hday
    obtain ⟨account,_,rfl⟩ := Option.map_eq_some_iff.mp hday
    exact ⟨_,rfl⟩

/-- A day adds trade records of its own date only. -/
theorem day_records (hday : day cfg lib today s=some s') :
    ∃ added,s'.account.records=s.account.records++added ∧ ∀ r∈added,r.date=today.date := by
  have hall : ∀ (added : List (TradeRecord D T K)) (last : TradeRecord D T K),
      (∀ r∈added,r.date=today.date)→last.date=today.date→∀ r∈added++[last],r.date=today.date := by
    intro added last hadded hlast r hr
    rcases List.mem_append.mp hr with hold | hnew
    · exact hadded r hold
    · rw [List.mem_singleton.mp hnew]
      exact hlast
  have hkept : Kept cfg today fun a : Account D T K =>
      ∃ added,a.records=s.account.records++added ∧ ∀ r∈added,r.date=today.date := by
    refine ⟨?_,?_,fun a ha => ha⟩
    · rintro a h current ⟨added,hadded,hdates⟩ _ _ _
      obtain ⟨sale,hrecords,hdate,_⟩ := sell_record cfg.costs today.date h current a
      exact ⟨_,hrecords.trans (by rw [hadded,List.append_assoc]),hall added sale hdates hdate⟩
    · rintro a ticker quantity current ⟨added,hadded,hdates⟩ _ _ _ _
      obtain ⟨purchase,hrecords,hdate,_⟩ := buy_record cfg.costs today.date ticker quantity
        (current*(1+cfg.costs.slippage)) a
      exact ⟨_,hrecords.trans (by rw [hadded,List.append_assoc]),hall added purchase hdates hdate⟩
  have hsame : ∃ added,s.account.records=s.account.records++added ∧ ∀ r∈added,r.date=today.date :=
    ⟨[],(List.append_nil _).symm,fun _ hr => (List.not_mem_nil hr).elim⟩
  exact hkept.day (fun _ _ _ => hsame) hsame hday

variable [LinearOrder D] {m : Market D T K} {n : ℕ}

/-- One more day. -/
theorem runTo_succ {row : Row D T K} (h : m.rows[n]?=some row) :
    runTo cfg lib m (n+1)=(runTo cfg lib m n).bind (day cfg lib (seen m n row)) := by
  have hentry : m.dates.zipIdx[n]?=some (row.date,n) := by
    rw [List.getElem?_zipIdx]
    unfold Market.dates
    rw [List.getElem?_map,h]
    simp
  unfold runTo
  rw [List.take_add_one,hentry,Option.toList_some,List.foldlM_append]
  have hday : (fun s : State D T K => (m.today row.date n).bind fun today => day cfg lib today s)=
      day cfg lib (seen m n row) := by
    funext s
    rw [today_eq h]
    rfl
  rw [←hday]
  simp only [List.foldlM_cons,List.foldlM_nil,bind_pure]
  rfl

/-- No more days. -/
theorem runTo_length (h : m.rows.length≤n) : runTo cfg lib m (n+1)=runTo cfg lib m n := by
  have hlength : m.dates.zipIdx.length=m.rows.length := by
    rw [List.length_zipIdx]
    exact List.length_map _
  unfold runTo
  rw [List.take_of_length_le (by omega),List.take_of_length_le (by omega)]

/-- The last day of a run. -/
theorem runTo_succ_cases (h : runTo cfg lib m (n+1)=some s') :
    (m.rows.length≤n ∧ runTo cfg lib m n=some s') ∨
      ∃ row s,m.rows[n]?=some row ∧ runTo cfg lib m n=some s ∧
        day cfg lib (seen m n row) s=some s' := by
  cases hrow : m.rows[n]? with
  | none =>
    have hlength := List.getElem?_eq_none_iff.mp hrow
    rw [runTo_length hlength] at h
    exact .inl ⟨hlength,h⟩
  | some row =>
    rw [runTo_succ hrow] at h
    obtain ⟨s,hs,hday⟩ := Option.bind_eq_some_iff.mp h
    exact .inr ⟨row,s,rfl,hs,hday⟩

/-- What holds at the start and through every day holds after every number of days. -/
theorem runTo_invariant {P : State D T K→Prop} (hstart : P (.start cfg))
    (hday : ∀ today s s',P s→day cfg lib today s=some s'→P s')
    (hrun : runTo cfg lib m n=some s) : P s := by
  induction n generalizing s with
  | zero =>
    cases hrun
    exact hstart
  | succ n ih =>
    rcases runTo_succ_cases hrun with ⟨_,hsame⟩ | ⟨row,before,_,hbefore,hlast⟩
    · exact ih hsame
    · exact hday _ before s (ih hbefore) hlast

/-- Two tickers. -/
inductive Pair
  /-- The first column. -/
  | first
  /-- The second column. -/
  | second
  deriving DecidableEq

/-- Both columns. -/
theorem pair_mem (ticker : Pair) : ticker∈[Pair.first,Pair.second] := by
  cases ticker with
  | first => simp
  | second => simp

/-- A market of two columns with the same signal and the same price, one row a day. -/
def daily (entries : List (Option ℚ×Option ℚ)) : Market ℕ Pair ℚ where
  tickers := [.first,.second]
  complete := pair_mem
  rows := entries.zipIdx.map fun entry => ⟨entry.2,fun _ => entry.1.1,fun _ => entry.1.2⟩
  increasing := by
    rw [List.map_map]
    have hdates : (Row.date∘fun entry : (Option ℚ×Option ℚ)×ℕ =>
        (⟨entry.2,fun _ => entry.1.1,fun _ => entry.1.2⟩ : Row ℕ Pair ℚ))=Prod.snd := rfl
    rw [hdates,List.zipIdx_map_snd]
    exact List.pairwise_lt_range'

/-- Fixed thresholds, signals in the order of the columns, no volatility and the root of
one. -/
def plainLibrary : Library ℕ Pair ℚ where
  regime _ := ⟨3/10,3/10,false⟩
  sortValues := id
  realizedVolatility _ _ := none
  dailyRoot x := if x=1 then some 1 else none

end Aqts.BacktestRuns
