import Mathlib.Algebra.Order.BigOperators.Group.List
import Aqts.BacktestCash

/-!
# Equity of a backtest

What a day records as equity, against the worth of the account it leaves behind. A
forced liquidation sells every position that has a price, and a trading day adds the
positions up, so both record the worth. A cooldown records the cash alone: a position
that had no price on the day of the liquidation is still held and is left out as soon
as it has a price again.
-/

namespace Aqts.BacktestEquity

open BacktestAccount BacktestEngine BacktestRuns BacktestCash

variable {D T K : Type*} [Field K] [LinearOrder K]

/-- What a position is worth at a day's prices, nothing without a valid one. -/
def positionValue (price : T→Option K) (h : Holding T K) : K :=
  match validPrice (price h.ticker) with
  | none => 0
  | some current => h.quantity*current

/-- What all positions are worth. -/
def positionsValue (price : T→Option K) (book : Book T K) : K :=
  (book.holdings.map (positionValue price)).sum

/-- The loop over the positions adds up what they are worth. -/
theorem worth_eq (a : Account D T K) (price : T→Option K) :
    a.worth price=a.cash+positionsValue price a.book := by
  have hfold : ∀ (holdings : List (Holding T K)) (total : K),
      holdings.foldl (fun total h =>
        match validPrice (price h.ticker) with
        | none => total
        | some current => total+h.quantity*current) total=
      total+(holdings.map (positionValue price)).sum := by
    intro holdings
    induction holdings with
    | nil =>
      intro total
      simp
    | cons h holdings ih =>
      intro total
      rw [List.foldl_cons,ih,List.map_cons,List.sum_cons]
      unfold positionValue
      cases validPrice (price h.ticker) with
      | none => simp
      | some current =>
        dsimp only
        ring
  exact hfold a.book.holdings a.cash

section Order

variable [IsStrictOrderedRing K]

/-- A position of shares with a valid price is worth something. -/
theorem positionValue_pos {price : T→Option K} {h : Holding T K} (hquantity : 1≤h.quantity)
    (hprice : (validPrice (price h.ticker)).isSome=true) : 0<positionValue price h := by
  obtain ⟨current,hcurrent⟩ := Option.isSome_iff_exists.mp hprice
  have hpos := (validPrice_pos hcurrent).2
  have hshares : (0 : K)<h.quantity := by
    have hstrict : 0<h.quantity := by omega
    exact_mod_cast hstrict
  unfold positionValue
  rw [hcurrent]
  exact mul_pos hshares hpos

/-- No position of shares is worth less than nothing. -/
theorem positionValue_nonneg {price : T→Option K} {h : Holding T K} (hquantity : 1≤h.quantity) :
    0≤positionValue price h := by
  by_cases hprice : (validPrice (price h.ticker)).isSome=true
  · exact (positionValue_pos hquantity hprice).le
  · unfold positionValue
    rw [Option.not_isSome_iff_eq_none.mp hprice]

/-- Positions of shares are worth nothing exactly when none of them has a valid price. -/
theorem positionsValue_eq_zero {price : T→Option K} {book : Book T K}
    (hquantity : ∀ h∈book.holdings,1≤h.quantity) :
    positionsValue price book=0↔∀ h∈book.holdings,validPrice (price h.ticker)=none := by
  have hnonneg : ∀ x∈book.holdings.map (positionValue price),0≤x := by
    intro x hx
    obtain ⟨h,hmem,rfl⟩ := List.mem_map.mp hx
    exact positionValue_nonneg (hquantity h hmem)
  unfold positionsValue
  constructor
  · intro hzero h hmem
    by_contra hprice
    have hpos := positionValue_pos (hquantity h hmem) (Option.isSome_iff_ne_none.mpr hprice)
    have hle := List.single_le_sum hnonneg _ (List.mem_map_of_mem hmem)
    exact absurd (hzero ▸ hle) (not_le.mpr hpos)
  · intro hnone
    refine List.sum_eq_zero fun x hx => ?_
    obtain ⟨h,hmem,rfl⟩ := List.mem_map.mp hx
    unfold positionValue
    rw [hnone h hmem]

end Order

section Liquidation

variable [DecidableEq T] {costs : Costs K} {date : D} {price : T→Option K}

/-- A loop that sells whatever it can leaves the positions of other tickers and those
without a valid price. -/
theorem sellEach_left {tickers : List T} {a : Account D T K} {h : Holding T K}
    (hmem : h∈(a.sellEach costs date price (fun _ _ => true) tickers).book.holdings) :
    h∈a.book.holdings ∧ (h.ticker∈tickers→validPrice (price h.ticker)=none) := by
  unfold Account.sellEach at hmem
  induction tickers generalizing a with
  | nil => exact ⟨hmem,fun hticker => (List.not_mem_nil hticker).elim⟩
  | cons ticker tickers ih =>
    obtain ⟨hleft,hrest⟩ := ih hmem
    have hfirst : h∈a.book.holdings ∧ (h.ticker=ticker→validPrice (price ticker)=none) := by
      unfold Account.sellTicker at hleft
      cases hfind : a.book.find ticker with
      | none =>
        rw [hfind] at hleft
        refine ⟨hleft,fun hticker => ?_⟩
        exact absurd (hticker ▸ List.mem_map_of_mem hleft) (Book.find_none hfind)
      | some held =>
        rw [hfind] at hleft
        dsimp only at hleft
        cases hprice : validPrice (price ticker) with
        | none =>
          rw [hprice] at hleft
          exact ⟨hleft,fun _ => rfl⟩
        | some current =>
          rw [hprice] at hleft
          dsimp only at hleft
          rw [if_pos rfl] at hleft
          obtain ⟨hold,hne⟩ := Book.mem_erase hleft
          have hheld := (Book.find_mem hfind).2
          exact ⟨hold,fun hticker => absurd (hticker.trans hheld.symm) hne⟩
    refine ⟨hfirst.1,fun hticker => ?_⟩
    rcases List.mem_cons.mp hticker with hsame | hlater
    · rw [hsame]
      exact hfirst.2 hsame
    · exact hrest hlater

/-- What a forced liquidation leaves has no valid price. -/
theorem liquidation_left {cfg : BacktestConfig K} {s : State D T K} {h : Holding T K}
    (hmem : h∈(liquidationDay cfg date price s).account.book.holdings) :
    h∈s.account.book.holdings ∧ validPrice (price h.ticker)=none := by
  obtain ⟨hold,hnone⟩ := sellEach_left hmem
  exact ⟨hold,hnone (List.mem_map_of_mem hold)⟩

/-- After a forced liquidation the account is worth its cash. -/
theorem liquidation_worth [IsStrictOrderedRing K] {cfg : BacktestConfig K} {s : State D T K}
    (hsound : Sound s.account) :
    (liquidationDay cfg date price s).account.worth price=
      (liquidationDay cfg date price s).account.cash := by
  have hleft := fun h (hmem : h∈(liquidationDay cfg date price s).account.book.holdings) =>
    liquidation_left hmem
  have hzero := (positionsValue_eq_zero fun h hmem => hsound.positive h (hleft h hmem).1).mpr
    fun h hmem => (hleft h hmem).2
  rw [worth_eq,hzero,add_zero]

end Liquidation

section Days

variable [DecidableEq T] [FloorRing K] {cfg : BacktestConfig K} {lib : Library D T K}
  {today : Today D T K} {s s' : State D T K}

/-- A forced liquidation records the worth. -/
theorem liquidation_recorded [IsStrictOrderedRing K] (hsound : Sound s.account)
    (hday : day cfg lib today s=some s') (hkind : dayKind cfg s today.row.prices=.liquidation) :
    s'.equityHistory=s.equityHistory++[(today.date,s'.account.worth today.row.prices)] := by
  rw [day_liquidation hkind] at hday
  cases hday
  have hpeak : Sound (peaked s today.row.prices).account := hsound
  rw [liquidation_worth hpeak]
  rfl

/-- A trading day records the worth. -/
theorem trading_recorded (hday : day cfg lib today s=some s')
    (hkind : dayKind cfg s today.row.prices=.trading) :
    s'.equityHistory=s.equityHistory++[(today.date,s'.account.worth today.row.prices)] := by
  rw [day_trading hkind] at hday
  obtain ⟨account,_,rfl⟩ := Option.map_eq_some_iff.mp hday
  rfl

/-- A cooldown records the worth exactly when no position has a valid price. -/
theorem cooldown_recorded [IsStrictOrderedRing K] (hsound : Sound s.account)
    (hday : day cfg lib today s=some s') (hkind : dayKind cfg s today.row.prices=.cooldown) :
    s'.equityHistory=s.equityHistory++[(today.date,s'.account.worth today.row.prices)]↔
      ∀ h∈s.account.book.holdings,validPrice (today.row.prices h.ticker)=none := by
  rw [day_cooldown hkind] at hday
  obtain ⟨root,_,rfl⟩ := Option.map_eq_some_iff.mp hday
  rw [←positionsValue_eq_zero hsound.positive]
  dsimp only [peaked]
  rw [worth_eq]
  constructor
  · intro hsame
    have hvalue := congrArg Prod.snd (List.singleton_inj.mp (List.append_cancel_left hsame))
    exact left_eq_add.mp hvalue
  · intro hzero
    rw [hzero,add_zero]

end Days

section Runs

variable [DecidableEq T] [LinearOrder D] [FloorRing K] {cfg : BacktestConfig K}
  {lib : Library D T K} {m : Market D T K} {n : ℕ} {s : State D T K}

/-- The kind of a reached day. -/
def kindOn (cfg : BacktestConfig K) (lib : Library D T K) (m : Market D T K) (k : ℕ) :
    Option DayKind :=
  (m.rows[k]?).bind fun row => (runTo cfg lib m k).map fun s => dayKind cfg s row.prices

/-- A day records as equity the worth of the account it leaves behind. -/
def Recorded (cfg : BacktestConfig K) (lib : Library D T K) (m : Market D T K) (k : ℕ) : Prop :=
  ∀ row s s',m.rows[k]?=some row→ runTo cfg lib m k=some s→ runTo cfg lib m (k+1)=some s'→
    s'.equityHistory=s.equityHistory++[(row.date,s'.account.worth row.prices)]

/-- A day of a cooldown finds a position that has a valid price. -/
def Stranded (cfg : BacktestConfig K) (lib : Library D T K) (m : Market D T K) (k : ℕ) : Prop :=
  ∃ row s,m.rows[k]?=some row ∧ runTo cfg lib m k=some s ∧ dayKind cfg s row.prices=.cooldown ∧
    ∃ h∈s.account.book.holdings,(validPrice (row.prices h.ticker)).isSome=true

/-- Days before a reached one are reached. -/
theorem runTo_before (hrun : runTo cfg lib m n=some s) {k : ℕ} (hk : k≤n) :
    ∃ before,runTo cfg lib m k=some before := by
  induction n generalizing s with
  | zero =>
    have hzero : k=0 := by omega
    exact ⟨s,hzero ▸ hrun⟩
  | succ n ih =>
    by_cases hlast : k=n+1
    · exact ⟨s,hlast ▸ hrun⟩
    · rcases runTo_succ_cases hrun with ⟨_,hbefore⟩ | ⟨_,before,_,hbefore,_⟩
      · exact ih hbefore (by omega)
      · exact ih hbefore (by omega)

variable [IsStrictOrderedRing K] {s' : State D T K}

/-- A day records the worth exactly when it is no cooldown with a priced position. -/
theorem recorded_iff {row : Row D T K} (hrow : m.rows[n]?=some row)
    (hs : runTo cfg lib m n=some s) (hs' : runTo cfg lib m (n+1)=some s') :
    Recorded cfg lib m n↔¬Stranded cfg lib m n := by
  have hsound := sound_of_runTo hs
  have hday : day cfg lib (seen m n row) s=some s' := by
    rw [runTo_succ hrow,hs] at hs'
    exact hs'
  have hrecorded : Recorded cfg lib m n↔
      s'.equityHistory=s.equityHistory++[(row.date,s'.account.worth row.prices)] := by
    unfold Recorded
    rw [hrow,hs,hs']
    constructor
    · intro h
      exact h row s s' rfl rfl rfl
    · rintro h _ _ _ ⟨⟩ ⟨⟩ ⟨⟩
      exact h
  have hstranded : Stranded cfg lib m n↔dayKind cfg s row.prices=.cooldown ∧
      ∃ h∈s.account.book.holdings,(validPrice (row.prices h.ticker)).isSome=true := by
    unfold Stranded
    rw [hrow,hs]
    constructor
    · rintro ⟨_,_,⟨⟩,⟨⟩,h⟩
      exact h
    · intro h
      exact ⟨row,s,rfl,rfl,h⟩
  rw [hrecorded,hstranded]
  cases hkind : dayKind cfg s row.prices with
  | liquidation =>
    have h := liquidation_recorded hsound hday hkind
    exact ⟨fun _ hboth => (by cases hboth.1),fun _ => h⟩
  | trading =>
    have h := trading_recorded hday hkind
    exact ⟨fun _ hboth => (by cases hboth.1),fun _ => h⟩
  | cooldown =>
    have h := cooldown_recorded hsound hday hkind
    refine h.trans ⟨?_,?_⟩
    · rintro hnone ⟨_,held,hmem,hprice⟩
      exact Option.isSome_iff_ne_none.mp hprice (hnone held hmem)
    · intro hnot held hmem
      by_contra hprice
      exact hnot ⟨rfl,held,hmem,Option.isSome_iff_ne_none.mpr hprice⟩

/-- In every run, every day records as equity the cash and the positions at its prices,
of those with a valid price, exactly when no day of a cooldown finds a position with a
valid price. -/
theorem equity_recorded_iff (hrun : runTo cfg lib m n=some s) :
    (∀ k<n,Recorded cfg lib m k)↔∀ k<n,¬Stranded cfg lib m k := by
  refine forall₂_congr fun k hk => ?_
  obtain ⟨before,hbefore⟩ := runTo_before hrun hk.le
  obtain ⟨after,hafter⟩ := runTo_before hrun hk
  cases hrow : m.rows[k]? with
  | some row => exact recorded_iff hrow hbefore hafter
  | none =>
    have hrecorded : Recorded cfg lib m k := by
      intro row _ _ hsome
      rw [hrow] at hsome
      cases hsome
    have hstranded : ¬Stranded cfg lib m k := by
      rintro ⟨row,_,hsome,_⟩
      rw [hrow] at hsome
      cases hsome
    exact ⟨fun _ => hstranded,fun _ => hrecorded⟩

end Runs

/-- A price that is missing for a day, between two days at one price. -/
def gap : Market ℕ Pair ℚ := daily [(some (1/2),some 100),(none,none),(none,some 100)]

/-- A limit of a tenth, and a safe return of nothing. -/
def tenth : BacktestConfig ℚ :=
  {BacktestConfig.plain with
    maxDrawdownLimit := some (1/10)
    safeAssetAnnualReturn := 0}

/-- The missing price makes a drawdown, nothing is sold, and on the next day the two
positions are held at their old price and left out. -/
theorem gap_not_recorded :
    ¬∀ (cfg : BacktestConfig ℚ) (m : Market ℕ Pair ℚ) k,Recorded cfg plainLibrary m k := by
  intro hall
  obtain ⟨s,hs⟩ := Option.isSome_iff_exists.mp
    (by decide +kernel : (runTo tenth plainLibrary gap 2).isSome=true)
  obtain ⟨s',hs'⟩ := Option.isSome_iff_exists.mp
    (by decide +kernel : (runTo tenth plainLibrary gap 3).isSome=true)
  have hlast := congrArg (fun entries => (entries.getLast?).map Prod.snd)
    (hall tenth gap 2 _ s s' rfl hs hs')
  have hleft : ((runTo tenth plainLibrary gap 3).map fun s =>
      decide ((s.equityHistory.getLast?).map Prod.snd=
        some (s.account.worth fun _ => some 100)))=some false := by decide +kernel
  rw [hs',Option.map_some] at hleft
  refine of_decide_eq_false (Option.some.inj hleft) ?_
  rw [List.getLast?_concat] at hlast
  exact hlast

/-- A run with a liquidation at known prices. -/
theorem equity_recorded_turns : kindOn tenth plainLibrary (BacktestPrefixes.turns 60) 2=
      some .liquidation ∧
    ∀ k<3,Recorded tenth plainLibrary (BacktestPrefixes.turns 60) k := by
  obtain ⟨s,hs⟩ := Option.isSome_iff_exists.mp
    (by decide +kernel : (runTo tenth plainLibrary (BacktestPrefixes.turns 60) 3).isSome=true)
  refine ⟨by decide +kernel,(equity_recorded_iff hs).mpr fun k hk => ?_⟩
  rintro ⟨row,before,hrow,hbefore,hkind,_⟩
  have hnone : ∀ k<3,kindOn tenth plainLibrary (BacktestPrefixes.turns 60) k≠some .cooldown := by
    decide +kernel
  refine hnone k hk ?_
  unfold kindOn
  rw [hrow,hbefore,Option.bind_some,Option.map_some,hkind]

end Aqts.BacktestEquity
