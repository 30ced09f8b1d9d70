import Mathlib.Algebra.Order.Field.Basic
import Mathlib.Algebra.Order.Floor.Ring
import Mathlib.Data.List.Nodup

/-!
# The account of a backtest

Cash, positions and trade records of `BacktestEngine._simulate`, and the two ways
they move. The four copies of the sale differ in the tickers they go through and
in what makes them sell; the purchase buys whole shares and never more than the
cash there is. Prices are missing or numbers, and amounts are exact.
-/

namespace Aqts.BacktestAccount

/-- A position. -/
structure Holding (T K : Type*) where
  /-- Its key. -/
  ticker : T
  /-- `quantity`. -/
  quantity : ℤ
  /-- `avg_price`. -/
  avgPrice : K
  /-- `peak_price`. -/
  peakPrice : K
  deriving DecidableEq

/-- `positions`, in the order of their purchases. -/
structure Book (T K : Type*) where
  /-- Positions. -/
  holdings : List (Holding T K)
  /-- The keys of a dictionary. -/
  unique : (holdings.map Holding.ticker).Nodup

/-- `side`. -/
inductive Side
  /-- `BUY`. -/
  | buy
  /-- `SELL`. -/
  | sell
  deriving DecidableEq

/-- `TradeRecord`. -/
structure TradeRecord (D T K : Type*) where
  /-- `date`. -/
  date : D
  /-- `ticker`. -/
  ticker : T
  /-- `side`. -/
  side : Side
  /-- `quantity`. -/
  quantity : ℤ
  /-- `price`. -/
  price : K
  /-- `cost`. -/
  cost : K
  /-- `pnl`. -/
  pnl : K
  deriving DecidableEq

/-- Rates of `get_costs`. -/
structure Costs (K : Type*) where
  /-- `commission`. -/
  commission : K
  /-- `tax`. -/
  tax : K
  /-- `slippage`. -/
  slippage : K

/-- What moves in a trade. -/
structure Account (D T K : Type*) where
  /-- `cash`. -/
  cash : K
  /-- `positions`. -/
  book : Book T K
  /-- `trade_records`. -/
  records : List (TradeRecord D T K)

variable {D T K : Type*}

/-- No position. -/
def Book.empty : Book T K := ⟨[],List.nodup_nil⟩

/-- Keys of the positions. -/
def Book.keys (book : Book T K) : List T := book.holdings.map Holding.ticker

/-- Positions changed in place. -/
def Book.map (f : Holding T K→Holding T K) (hf : ∀ h,(f h).ticker=h.ticker) (book : Book T K) :
    Book T K where
  holdings := book.holdings.map f
  unique := by
    have hkeys : Holding.ticker∘f=Holding.ticker := funext hf
    rw [List.map_map,hkeys]
    exact book.unique

section Positions

variable [DecidableEq T]

/-- The position of a ticker. -/
def Book.find (book : Book T K) (ticker : T) : Option (Holding T K) :=
  book.holdings.find? fun h => h.ticker=ticker

/-- `del positions[ticker]`. -/
def Book.erase (book : Book T K) (ticker : T) : Book T K where
  holdings := book.holdings.filter fun h => h.ticker≠ticker
  unique := (List.filter_sublist.map Holding.ticker).nodup book.unique

/-- A position for a ticker without one, the last of the book. -/
def Book.insert (book : Book T K) (h : Holding T K) : Book T K :=
  if hnew : h.ticker∈book.keys then book
  else
    ⟨book.holdings++[h],by
      rw [List.map_append,List.map_singleton,←List.concat_eq_append]
      exact book.unique.concat hnew⟩

/-- A found position is in the book under its ticker. -/
theorem Book.find_mem {book : Book T K} {ticker : T} {h : Holding T K}
    (hfind : book.find ticker=some h) : h∈book.holdings ∧ h.ticker=ticker := by
  have hticker := List.find?_some hfind
  exact ⟨List.mem_of_find?_eq_some hfind,of_decide_eq_true hticker⟩

/-- A ticker without a position is no key. -/
theorem Book.find_none {book : Book T K} {ticker : T} (hfind : book.find ticker=none) :
    ticker∉book.keys := by
  intro hkey
  obtain ⟨h,hmem,hticker⟩ := List.mem_map.mp hkey
  exact List.find?_eq_none.mp hfind h hmem (decide_eq_true hticker)

/-- Positions that are left after a deletion. -/
theorem Book.mem_erase {book : Book T K} {ticker : T} {h : Holding T K}
    (hmem : h∈(book.erase ticker).holdings) : h∈book.holdings ∧ h.ticker≠ticker := by
  obtain ⟨hold,hne⟩ := List.mem_filter.mp hmem
  exact ⟨hold,of_decide_eq_true hne⟩

/-- Positions after an insertion. -/
theorem Book.mem_insert {book : Book T K} {h other : Holding T K}
    (hmem : other∈(book.insert h).holdings) : other∈book.holdings ∨ other=h := by
  unfold Book.insert at hmem
  by_cases hnew : h.ticker∈book.keys
  · rw [dif_pos hnew] at hmem
    exact .inl hmem
  · rw [dif_neg hnew] at hmem
    rcases List.mem_append.mp hmem with hold | hlast
    · exact .inl hold
    · exact .inr (List.mem_singleton.mp hlast)

/-- A deleted ticker has no position, the others keep theirs. -/
theorem Book.find_erase (book : Book T K) (ticker other : T) :
    (book.erase ticker).find other=if other=ticker then none else book.find other := by
  unfold Book.erase Book.find
  dsimp only
  rw [List.find?_filter]
  by_cases hsame : other=ticker
  · rw [if_pos hsame]
    refine List.find?_eq_none.mpr fun h _ => ?_
    rw [hsame]
    simp
  · rw [if_neg hsame]
    congr 1
    funext h
    by_cases hticker : h.ticker=other
    · simp [hticker,hsame]
    · simp [hticker]

/-- A new ticker has its position, the others keep theirs. -/
theorem Book.find_insert {book : Book T K} {h : Holding T K} (hnew : h.ticker∉book.keys)
    (other : T) : (book.insert h).find other=if other=h.ticker then some h else book.find other := by
  unfold Book.insert
  rw [dif_neg hnew]
  unfold Book.find
  dsimp only
  rw [List.find?_append]
  by_cases hsame : other=h.ticker
  · have hnone : book.holdings.find? (fun held => held.ticker=other)=none := by
      refine List.find?_eq_none.mpr fun held hmem hticker => hnew ?_
      rw [←hsame,←of_decide_eq_true hticker]
      exact List.mem_map_of_mem hmem
    rw [hnone,if_pos hsame,Option.none_or,List.find?_singleton]
    simp [hsame]
  · have hlast : [h].find? (fun held => held.ticker=other)=none := by
      simp [Ne.symm hsame]
    rw [hlast,if_neg hsame,Option.or_none]

/-- Positions that are changed in place are found as before. -/
theorem Book.find_map (book : Book T K) (f : Holding T K→Holding T K)
    (hf : ∀ h,(f h).ticker=h.ticker) (ticker : T) :
    (book.map f hf).find ticker=(book.find ticker).map f := by
  unfold Book.map Book.find
  dsimp only
  rw [List.find?_map]
  congr 2
  funext h
  exact congrArg (fun held => decide (held=ticker)) (hf h)

end Positions

variable [Field K]

section Moves

variable [DecidableEq T]

/-- The sale of a position at a price. -/
def Account.sell (costs : Costs K) (date : D) (h : Holding T K) (sellPrice : K)
    (a : Account D T K) : Account D T K :=
  let effectivePrice := sellPrice*(1-costs.slippage)
  let grossProceeds := effectivePrice*h.quantity
  let commission := grossProceeds*costs.commission
  let tax := grossProceeds*costs.tax
  let totalCost := commission+tax
  let netProceeds := grossProceeds-totalCost
  let pnl := netProceeds-h.avgPrice*h.quantity
  ⟨a.cash+netProceeds,a.book.erase h.ticker,
    a.records++[⟨date,h.ticker,.sell,h.quantity,effectivePrice,totalCost,pnl⟩]⟩

/-- `total_cost` of a purchase. -/
def totalCost (costs : Costs K) (quantity : ℤ) (effectivePrice : K) : K :=
  let grossCost := effectivePrice*quantity
  let commission := grossCost*costs.commission
  grossCost+commission

/-- The purchase of some shares at a price. -/
def Account.buy (costs : Costs K) (date : D) (ticker : T) (quantity : ℤ) (effectivePrice : K)
    (a : Account D T K) : Account D T K :=
  let commission := effectivePrice*quantity*costs.commission
  ⟨a.cash-totalCost costs quantity effectivePrice,
    a.book.insert ⟨ticker,quantity,effectivePrice,effectivePrice⟩,
    a.records++[⟨date,ticker,.buy,quantity,effectivePrice,commission,0⟩]⟩

/-- The record of a sale accounts for the cash. -/
theorem sell_record (costs : Costs K) (date : D) (h : Holding T K) (sellPrice : K)
    (a : Account D T K) : ∃ r : TradeRecord D T K,
    (a.sell costs date h sellPrice).records=a.records++[r] ∧ r.date=date ∧ r.ticker=h.ticker ∧
      r.side=.sell ∧ r.quantity=h.quantity ∧
      (a.sell costs date h sellPrice).cash=a.cash+(r.price*r.quantity-r.cost) :=
  ⟨_,rfl,rfl,rfl,rfl,rfl,rfl⟩

/-- The record of a purchase accounts for the cash. -/
theorem buy_record (costs : Costs K) (date : D) (ticker : T) (quantity : ℤ) (effectivePrice : K)
    (a : Account D T K) : ∃ r : TradeRecord D T K,
    (a.buy costs date ticker quantity effectivePrice).records=a.records++[r] ∧ r.date=date ∧
      r.ticker=ticker ∧ r.side=.buy ∧ r.quantity=quantity ∧
      (a.buy costs date ticker quantity effectivePrice).cash=a.cash-(r.price*r.quantity+r.cost) :=
  ⟨_,rfl,rfl,rfl,rfl,rfl,rfl⟩

end Moves

variable [LinearOrder K]

/-- A price that is a number above zero. -/
def validPrice (price : Option K) : Option K := price.filter fun p => 0<p

/-- Value of some cash and the positions, of those with a valid price. -/
def Book.value (book : Book T K) (price : T→Option K) (cash : K) : K :=
  book.holdings.foldl (fun total h =>
    match validPrice (price h.ticker) with
    | none => total
    | some current => total+h.quantity*current) cash

/-- The value of the portfolio. -/
def Account.worth (a : Account D T K) (price : T→Option K) : K := a.book.value price a.cash

section Trades

variable [DecidableEq T]

/-- The sale of a ticker, if it is held, has a valid price and the position triggers it. -/
def Account.sellTicker (costs : Costs K) (date : D) (price : T→Option K)
    (triggers : Holding T K→K→Bool) (a : Account D T K) (ticker : T) : Account D T K :=
  match a.book.find ticker with
  | none => a
  | some h =>
    match validPrice (price ticker) with
    | none => a
    | some current => if triggers h current=true then a.sell costs date h current else a

/-- A loop of sales over some tickers. -/
def Account.sellEach (costs : Costs K) (date : D) (price : T→Option K)
    (triggers : Holding T K→K→Bool) (tickers : List T) (a : Account D T K) : Account D T K :=
  tickers.foldl (Account.sellTicker costs date price triggers) a

variable [FloorRing K]

/-- `int`, towards zero. -/
def truncate (x : K) : ℤ := if 0≤x then ⌊x⌋ else ⌈x⌉

/-- The purchase of a ticker without a position for a part of the available cash, as far
as there is the cash. A division by a price of zero raises. -/
def Account.buyTicker (costs : Costs K) (date : D) (price : T→Option K)
    (availableCash totalSignal : K) (a : Account D T K) (signal : T×K) :
    Option (Account D T K) :=
  match a.book.find signal.1 with
  | some _ => some a
  | none =>
    let targetWeight := signal.2/totalSignal
    let targetAmount := availableCash*targetWeight
    match validPrice (price signal.1) with
    | none => some a
    | some buyPrice =>
      let effectivePrice := buyPrice*(1+costs.slippage)
      if effectivePrice=0 then none
      else
        let quantity := truncate (targetAmount/effectivePrice)
        if quantity≤0 then some a
        else
          if a.cash<totalCost costs quantity effectivePrice then some a
          else some (a.buy costs date signal.1 quantity effectivePrice)

/-- The loop of purchases. -/
def Account.buyEach (costs : Costs K) (date : D) (price : T→Option K)
    (availableCash totalSignal : K) (signals : List (T×K)) (a : Account D T K) :
    Option (Account D T K) :=
  signals.foldlM (Account.buyTicker costs date price availableCash totalSignal) a

end Trades

section Rules

variable [DecidableEq T] {costs : Costs K} {date : D} {price : T→Option K} {a a' : Account D T K}

/-- A valid price is above zero. -/
theorem validPrice_pos {p : Option K} {current : K} (h : validPrice p=some current) :
    p=some current ∧ 0< current := by
  obtain ⟨hp,hpos⟩ := Option.filter_eq_some_iff.mp h
  exact ⟨hp,of_decide_eq_true hpos⟩

/-- What a sale does: nothing, or one position is sold at its valid price. -/
theorem sellTicker_cases (costs : Costs K) (date : D) (price : T→Option K)
    (triggers : Holding T K→K→Bool) (a : Account D T K) (ticker : T) :
    a.sellTicker costs date price triggers ticker=a ∨
      ∃ h current,h∈a.book.holdings ∧ h.ticker=ticker ∧ validPrice (price ticker)=some current ∧
        triggers h current=true ∧
        a.sellTicker costs date price triggers ticker=a.sell costs date h current := by
  unfold Account.sellTicker
  cases hfind : a.book.find ticker with
  | none => exact .inl rfl
  | some h =>
    dsimp only
    cases hprice : validPrice (price ticker) with
    | none => exact .inl rfl
    | some current =>
      dsimp only
      by_cases htriggers : triggers h current=true
      · rw [if_pos htriggers]
        obtain ⟨hmem,hticker⟩ := Book.find_mem hfind
        exact .inr ⟨h,current,hmem,hticker,rfl,htriggers,rfl⟩
      · rw [if_neg htriggers]
        exact .inl rfl

/-- Sales keep what every sale of a position at a price above zero keeps. -/
theorem sellEach_invariant {P : Account D T K→Prop}
    (hsell : ∀ a h current,P a→h∈a.book.holdings→price h.ticker=some current→0< current→
      P (a.sell costs date h current))
    (triggers : Holding T K→K→Bool) (tickers : List T) (ha : P a) :
    P (a.sellEach costs date price triggers tickers) := by
  unfold Account.sellEach
  induction tickers generalizing a with
  | nil => exact ha
  | cons ticker tickers ih =>
    refine ih ?_
    rcases sellTicker_cases costs date price triggers a ticker with
      hsame | ⟨h,current,hmem,hticker,hprice,_,hsold⟩
    · rw [hsame]
      exact ha
    · obtain ⟨hvalue,hpos⟩ := validPrice_pos hprice
      rw [hsold]
      exact hsell a h current ha hmem (hticker ▸ hvalue) hpos

variable [FloorRing K]

/-- What a purchase does: nothing, or whole shares of a new ticker at its valid price,
for no more than the cash. -/
theorem buyTicker_cases {availableCash totalSignal : K} {signal : T×K}
    (hbuy : a.buyTicker costs date price availableCash totalSignal signal=some a') :
    a'=a ∨ ∃ quantity current,signal.1∉a.book.keys ∧ price signal.1=some current ∧ 0< current ∧
      0<quantity ∧ totalCost costs quantity (current*(1+costs.slippage))≤a.cash ∧
      a'=a.buy costs date signal.1 quantity (current*(1+costs.slippage)) := by
  unfold Account.buyTicker at hbuy
  cases hfind : a.book.find signal.1 with
  | some h =>
    rw [hfind] at hbuy
    cases hbuy
    exact .inl rfl
  | none =>
    rw [hfind] at hbuy
    dsimp only at hbuy
    cases hprice : validPrice (price signal.1) with
    | none =>
      rw [hprice] at hbuy
      cases hbuy
      exact .inl rfl
    | some current =>
      rw [hprice] at hbuy
      dsimp only at hbuy
      by_cases hzero : current*(1+costs.slippage)=0
      · rw [if_pos hzero] at hbuy
        cases hbuy
      rw [if_neg hzero] at hbuy
      generalize truncate (availableCash*(signal.2/totalSignal)/(current*(1+costs.slippage)))=
        quantity at hbuy
      by_cases hnone : quantity≤0
      · rw [if_pos hnone] at hbuy
        cases hbuy
        exact .inl rfl
      rw [if_neg hnone] at hbuy
      by_cases hshort : a.cash<totalCost costs quantity (current*(1+costs.slippage))
      · rw [if_pos hshort] at hbuy
        cases hbuy
        exact .inl rfl
      · rw [if_neg hshort] at hbuy
        cases hbuy
        obtain ⟨hvalue,hpos⟩ := validPrice_pos hprice
        exact .inr ⟨quantity,current,Book.find_none hfind,hvalue,hpos,by omega,not_lt.mp hshort,rfl⟩

/-- Purchases keep what every purchase of a new ticker keeps. -/
theorem buyEach_invariant {P : Account D T K→Prop}
    (hbuy : ∀ a ticker quantity current,P a→ticker∉a.book.keys→0< current→0<quantity→
      totalCost costs quantity (current*(1+costs.slippage))≤a.cash→
      P (a.buy costs date ticker quantity (current*(1+costs.slippage))))
    {availableCash totalSignal : K} {signals : List (T×K)} (ha : P a)
    (hbought : a.buyEach costs date price availableCash totalSignal signals=some a') : P a' := by
  unfold Account.buyEach at hbought
  induction signals generalizing a with
  | nil =>
    cases hbought
    exact ha
  | cons signal signals ih =>
    rw [List.foldlM_cons] at hbought
    obtain ⟨next,hnext,hrest⟩ := Option.bind_eq_some_iff.mp hbought
    refine ih ?_ hrest
    rcases buyTicker_cases hnext with rfl | ⟨quantity,current,hnew,_,hpos,hquantity,hcash,rfl⟩
    · exact ha
    · exact hbuy a signal.1 quantity current ha hnew hpos hquantity hcash

end Rules

end Aqts.BacktestAccount
