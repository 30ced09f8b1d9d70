import Mathlib.Tactic.Linarith
import Mathlib.Tactic.Ring
import Aqts.BacktestPrefixes

/-!
# Cash and trade records

Every unit of cash is accounted for by the trade records and the interest of the
cooldowns, every position has a share at least and as many as its records say, and
cash that starts at zero or above stays there. An account that starts below zero
keeps its debt: nothing asks for the sign of the initial capital.
-/

namespace Aqts.BacktestCash

open BacktestAccount BacktestEngine BacktestRuns

variable {D T K : Type*}

/-- Shares of a ticker that are held. -/
def heldQuantity [DecidableEq T] (book : Book T K) (ticker : T) : ℤ :=
  ((book.find ticker).map Holding.quantity).getD 0

/-- Shares that a record brings of a ticker. -/
def sharesOf [DecidableEq T] (ticker : T) (r : TradeRecord D T K) : ℤ :=
  if r.ticker=ticker then
    match r.side with
    | .buy => r.quantity
    | .sell => -r.quantity
  else 0

/-- Shares of a ticker that the records bought, less those they sold. -/
def netQuantity [DecidableEq T] (records : List (TradeRecord D T K)) (ticker : T) : ℤ :=
  records.foldl (fun total r => total+sharesOf ticker r) 0

/-- One more record of a ticker. -/
theorem netQuantity_append [DecidableEq T] (records : List (TradeRecord D T K))
    (r : TradeRecord D T K) (ticker : T) :
    netQuantity (records++[r]) ticker=netQuantity records ticker+sharesOf ticker r := by
  unfold netQuantity
  rw [List.foldl_append]
  rfl

section Records

variable [Field K]

/-- What the purchases have cost. -/
def spent (records : List (TradeRecord D T K)) : K :=
  ((records.filter fun r => r.side=.buy).map fun r => r.price*(r.quantity : K)+r.cost).sum

/-- What the sales have brought. -/
def earned (records : List (TradeRecord D T K)) : K :=
  ((records.filter fun r => r.side=.sell).map fun r => r.price*(r.quantity : K)-r.cost).sum

/-- One more purchase. -/
theorem spent_earned_buy (records : List (TradeRecord D T K)) {r : TradeRecord D T K}
    (hside : r.side=.buy) : spent (records++[r])=spent records+(r.price*r.quantity+r.cost) ∧
      earned (records++[r])=earned records := by
  unfold spent earned
  simp [List.filter_append,hside]

/-- One more sale. -/
theorem spent_earned_sell (records : List (TradeRecord D T K)) {r : TradeRecord D T K}
    (hside : r.side=.sell) : spent (records++[r])=spent records ∧
      earned (records++[r])=earned records+(r.price*r.quantity-r.cost) := by
  unfold spent earned
  simp [List.filter_append,hside]

/-- The records account for the cash, from some base. -/
def Balanced (base : K) (a : Account D T K) : Prop :=
  a.cash=base-spent a.records+earned a.records

end Records

/-- Positions of a share at least, as many as the records say. -/
structure Sound [DecidableEq T] (a : Account D T K) : Prop where
  /-- Shares. -/
  positive : ∀ h∈a.book.holdings,1≤h.quantity
  /-- Records. -/
  recorded : ∀ ticker,heldQuantity a.book ticker=netQuantity a.records ticker

/-- A position's shares are the held ones. -/
theorem heldQuantity_mem [DecidableEq T] {book : Book T K} {h : Holding T K}
    (hmem : h∈book.holdings) : heldQuantity book h.ticker=h.quantity := by
  unfold heldQuantity
  cases hfind : book.find h.ticker with
  | none => exact absurd (List.mem_map_of_mem hmem) (Book.find_none hfind)
  | some held =>
    obtain ⟨hheld,hticker⟩ := Book.find_mem hfind
    rw [List.inj_on_of_nodup_map book.unique hheld hmem hticker]
    rfl

/-- Followed peaks keep the positions sound. -/
theorem Sound.map [DecidableEq T] {a : Account D T K} (ha : Sound a) {f : Holding T K→Holding T K} {hf : ∀ h,(f h).ticker=h.ticker}
    (hquantity : ∀ h,(f h).quantity=h.quantity) : Sound {a with book := a.book.map f hf} := by
  refine ⟨fun held hheld => ?_,fun ticker => ?_⟩
  · obtain ⟨h,hmem,rfl⟩ := List.mem_map.mp hheld
    rw [hquantity]
    exact ha.positive h hmem
  · rw [←ha.recorded]
    unfold heldQuantity
    rw [Book.find_map,Option.map_map]
    have hsame : Holding.quantity∘f=Holding.quantity := funext hquantity
    rw [hsame]

section Trades

variable [DecidableEq T] [Field K] {a : Account D T K} {costs : Costs K} {date : D} {base : K}

/-- A sale keeps the positions sound. -/
theorem Sound.sell (ha : Sound a) {h : Holding T K} (hmem : h∈a.book.holdings) (sellPrice : K) :
    Sound (a.sell costs date h sellPrice) := by
  obtain ⟨r,hrecords,_,hticker,hside,hquantity,_⟩ := sell_record costs date h sellPrice a
  refine ⟨fun held hheld => ha.positive held (Book.mem_erase hheld).1,fun ticker => ?_⟩
  have hbook : (a.sell costs date h sellPrice).book=a.book.erase h.ticker := rfl
  rw [hrecords,netQuantity_append,hbook,←ha.recorded]
  unfold sharesOf
  rw [hticker,hside,hquantity]
  by_cases hsame : h.ticker=ticker
  · subst hsame
    have hheld := heldQuantity_mem hmem
    have hgone : heldQuantity (a.book.erase h.ticker) h.ticker=0 := by
      unfold heldQuantity
      rw [Book.find_erase,if_pos rfl]
      rfl
    rw [if_pos rfl,hgone,hheld]
    dsimp only
    omega
  · have hkept : heldQuantity (a.book.erase h.ticker) ticker=heldQuantity a.book ticker := by
      unfold heldQuantity
      rw [Book.find_erase,if_neg (Ne.symm hsame)]
    rw [if_neg hsame,hkept]
    omega

/-- A purchase keeps the positions sound. -/
theorem Sound.buy (ha : Sound a) {ticker : T} {quantity : ℤ} (hnew : ticker∉a.book.keys)
    (hquantity : 0<quantity) (effectivePrice : K) :
    Sound (a.buy costs date ticker quantity effectivePrice) := by
  obtain ⟨r,hrecords,_,hticker,hside,hshares,_⟩ :=
    buy_record costs date ticker quantity effectivePrice a
  have hbook : (a.buy costs date ticker quantity effectivePrice).book=
      a.book.insert ⟨ticker,quantity,effectivePrice,effectivePrice⟩ := rfl
  refine ⟨fun held hheld => ?_,fun other => ?_⟩
  · rw [hbook] at hheld
    rcases Book.mem_insert hheld with hold | hlast
    · exact ha.positive held hold
    · rw [hlast]
      dsimp only
      omega
  · rw [hrecords,netQuantity_append,hbook,←ha.recorded]
    unfold sharesOf
    rw [hticker,hside,hshares]
    unfold heldQuantity
    rw [Book.find_insert hnew]
    dsimp only
    by_cases hsame : other=ticker
    · subst hsame
      have hnone : a.book.find other=none := by
        cases hfind : a.book.find other with
        | none => rfl
        | some held =>
          obtain ⟨hheld,hown⟩ := Book.find_mem hfind
          exact absurd (hown ▸ List.mem_map_of_mem hheld) hnew
      rw [if_pos rfl,if_pos rfl,hnone]
      simp
    · rw [if_neg hsame,if_neg (Ne.symm hsame)]
      omega

/-- A sale is accounted for. -/
theorem Balanced.sell (ha : Balanced base a) (h : Holding T K) (sellPrice : K) :
    Balanced base (a.sell costs date h sellPrice) := by
  obtain ⟨r,hrecords,_,_,hside,_,hcash⟩ := sell_record costs date h sellPrice a
  obtain ⟨hspent,hearned⟩ := spent_earned_sell a.records hside
  unfold Balanced at *
  rw [hrecords,hspent,hearned,hcash,ha]
  ring

/-- A purchase is accounted for. -/
theorem Balanced.buy (ha : Balanced base a) (ticker : T) (quantity : ℤ) (effectivePrice : K) :
    Balanced base (a.buy costs date ticker quantity effectivePrice) := by
  obtain ⟨r,hrecords,_,_,hside,_,hcash⟩ := buy_record costs date ticker quantity effectivePrice a
  obtain ⟨hspent,hearned⟩ := spent_earned_buy a.records hside
  unfold Balanced at *
  rw [hrecords,hspent,hearned,hcash,ha]
  ring

end Trades

variable [Field K] [LinearOrder K]

/-- A followed peak leaves the shares. -/
theorem followPeak_quantity (price : T→Option K) (h : Holding T K) :
    (followPeak price h).quantity=h.quantity := by
  unfold followPeak
  cases validPrice (price h.ticker) <;> rfl

variable [DecidableEq T] {cfg : BacktestConfig K} {today : Today D T K}

/-- The trades of a day keep the positions sound. -/
theorem kept_sound : Kept cfg today (Sound (D := D) (T := T) (K := K)) :=
  ⟨fun _ _ current ha hmem _ _ => ha.sell hmem current,
    fun _ _ _ _ ha hnew _ hquantity _ => ha.buy hnew hquantity _,
    fun _ ha => ha.map (followPeak_quantity _)⟩

/-- The trades of a day are accounted for. -/
theorem kept_balanced (base : K) : Kept cfg today (Balanced (D := D) (T := T) base) :=
  ⟨fun _ h current ha _ _ _ => ha.sell h current,
    fun _ ticker quantity _ ha _ _ _ _ => ha.buy ticker quantity _,fun _ ha => ha⟩

/-- Rates of slippage, commission and tax. -/
structure Costs.Valid (costs : Costs K) : Prop where
  /-- `slippage`. -/
  slippage : 0≤ costs.slippage ∧ costs.slippage<1
  /-- `commission`. -/
  commission : 0≤ costs.commission ∧ costs.commission<1
  /-- `tax`. -/
  tax : 0≤ costs.tax ∧ costs.tax<1
  /-- Commission and tax together. -/
  both : costs.commission+costs.tax≤1

section Order

variable [IsStrictOrderedRing K]

/-- A sale of shares brings no loss of cash. -/
theorem sell_cash (hcosts : Costs.Valid cfg.costs) {a : Account D T K} {h : Holding T K} {date : D}
    {current : K} (hquantity : 1≤h.quantity) (hpos : 0< current) :
    a.cash≤(a.sell cfg.costs date h current).cash := by
  have hshares : (0 : K)≤h.quantity := by
    have hnonneg : 0≤h.quantity := by omega
    exact_mod_cast hnonneg
  have hprice : 0≤ current*(1-cfg.costs.slippage) :=
    mul_nonneg hpos.le (by linarith [hcosts.slippage.2])
  have hgross := mul_nonneg hprice hshares
  have hrate : 0≤1-(cfg.costs.commission+cfg.costs.tax) := by linarith [hcosts.both]
  have hnet := mul_nonneg hgross hrate
  have hcash : (a.sell cfg.costs date h current).cash=a.cash+
      current*(1-cfg.costs.slippage)*h.quantity*(1-(cfg.costs.commission+cfg.costs.tax)) := by
    unfold Account.sell
    ring
  rw [hcash]
  linarith

/-- The trades of a day keep cash at zero or above. -/
theorem kept_cash (hcosts : Costs.Valid cfg.costs) : Kept cfg today
    fun a : Account D T K => Sound a ∧ 0≤a.cash := by
  refine ⟨?_,?_,fun a ha => ⟨ha.1.map (followPeak_quantity _),ha.2⟩⟩
  · rintro a h current ⟨hsound,hcash⟩ hmem _ hpos
    exact ⟨hsound.sell hmem current,
      hcash.trans (sell_cash hcosts (hsound.positive h hmem) hpos)⟩
  · rintro a ticker quantity current ⟨hsound,hcash⟩ hnew _ hquantity hafford
    exact ⟨hsound.buy hnew hquantity _,sub_nonneg.mpr hafford⟩

end Order

/-- A cooldown adds its interest to the cash and trades nothing. -/
theorem cooldown_day [FloorRing K] {lib : Library D T K} {s s' : State D T K}
    (hkind : dayKind cfg s today.row.prices=.cooldown)
    (hday : day cfg lib today s=some s') : ∃ root,
      lib.dailyRoot (1+cfg.safeAssetAnnualReturn)=some root ∧
        s'.account={s.account with cash := s.account.cash*(1+(root-1))} := by
  rw [day_cooldown hkind] at hday
  obtain ⟨root,hroot,rfl⟩ := Option.map_eq_some_iff.mp hday
  exact ⟨root,hroot,rfl⟩

section Runs

variable [LinearOrder D] [FloorRing K]

/-- The interest of a day: what a cooldown adds to the cash. -/
def interestOn (cfg : BacktestConfig K) (lib : Library D T K) (m : Market D T K) (n : ℕ) : K :=
  match m.rows[n]?,runTo cfg lib m n,runTo cfg lib m (n+1) with
  | some row,some s,some s' =>
    if dayKind cfg s row.prices=.cooldown then s'.account.cash-s.account.cash else 0
  | _,_,_ => 0

/-- The interest of the days before an index. -/
def interestTo (cfg : BacktestConfig K) (lib : Library D T K) (m : Market D T K) : ℕ→K
  | 0 => 0
  | n+1 => interestTo cfg lib m n+interestOn cfg lib m n

variable {lib : Library D T K} {m : Market D T K} {n : ℕ} {s s' : State D T K}

/-- The interest of the last day. -/
theorem interestOn_eq {row : Row D T K} (hrow : m.rows[n]?=some row)
    (hs : runTo cfg lib m n=some s) (hs' : runTo cfg lib m (n+1)=some s') :
    interestOn cfg lib m n=
      if dayKind cfg s row.prices=.cooldown then s'.account.cash-s.account.cash else 0 := by
  unfold interestOn
  rw [hrow,hs,hs']

/-- After every number of days the positions are sound. -/
theorem sound_of_runTo (hrun : runTo cfg lib m n=some s) : Sound s.account := by
  refine runTo_invariant (P := fun s => Sound s.account) ?_ ?_ hrun
  · exact ⟨fun _ hmem => (List.not_mem_nil hmem).elim,fun _ => rfl⟩
  · intro today s s' hs hday
    exact kept_sound.day (fun _ _ _ => ⟨hs.positive,hs.recorded⟩) hs hday

/-- After every number of days the records and the interest account for the cash. -/
theorem balanced_of_runTo (hrun : runTo cfg lib m n=some s) :
    Balanced (cfg.initialCapital+interestTo cfg lib m n) s.account := by
  induction n generalizing s with
  | zero =>
    cases hrun
    unfold Balanced State.start spent earned interestTo
    simp
  | succ n ih =>
    rcases runTo_succ_cases hrun with ⟨hlength,hbefore⟩ | ⟨row,before,hrow,hbefore,hday⟩
    · have hnone : interestOn cfg lib m n=0 := by
        unfold interestOn
        rw [List.getElem?_eq_none hlength]
      unfold interestTo
      rw [hnone,add_zero]
      exact ih hbefore
    · have hbalanced := ih hbefore
      unfold interestTo
      rw [interestOn_eq hrow hbefore hrun]
      by_cases hkind : dayKind cfg before row.prices=.cooldown
      · have hcooldown : dayKind cfg before (seen m n row).row.prices=.cooldown := hkind
        obtain ⟨root,_,haccount⟩ := cooldown_day hcooldown hday
        have hrecords : s.account.records=before.account.records := by rw [haccount]
        rw [if_pos hkind]
        unfold Balanced at *
        rw [hrecords,hbalanced]
        ring
      · rw [if_neg hkind,add_zero]
        have hnot : dayKind cfg before (seen m n row).row.prices≠.cooldown := hkind
        refine (kept_balanced _).day (fun _ hcooldown _ => ?_) hbalanced hday
        exact (hnot hcooldown).elim

/-- Without a limit, and with a safe return of nothing, there is no interest. -/
theorem no_interest
    (hnone : cfg.maxDrawdownLimit=none ∨ lib.dailyRoot (1+cfg.safeAssetAnnualReturn)=some 1)
    (n : ℕ) : interestTo cfg lib m n=0 := by
  induction n with
  | zero => rfl
  | succ n ih =>
    have hday : interestOn cfg lib m n=0 := by
      unfold interestOn
      split
      case h_2 => rfl
      case h_1 row s s' hrow hs hs' =>
        by_cases hkind : dayKind cfg s row.prices=.cooldown
        · rw [if_pos hkind]
          rcases hnone with hlimit | hroot
          · unfold dayKind at hkind
            rw [hlimit] at hkind
            cases hkind
          · rw [runTo_succ hrow,hs] at hs'
            have hcooldown : dayKind cfg s (seen m n row).row.prices=.cooldown := hkind
            obtain ⟨root,hsome,haccount⟩ := cooldown_day hcooldown hs'
            rw [hroot] at hsome
            cases hsome
            rw [haccount]
            dsimp only
            ring
        · rw [if_neg hkind]
    unfold interestTo
    rw [ih,hday,add_zero]

variable [IsStrictOrderedRing K]

/-- Cash that starts at zero or above stays there. -/
theorem cash_of_runTo (hcosts : Costs.Valid cfg.costs)
    (hroot : ∀ x root,lib.dailyRoot x=some root→0≤ root) (hcapital : 0≤ cfg.initialCapital)
    (hrun : runTo cfg lib m n=some s) : 0≤ s.account.cash := by
  have hboth : Sound s.account ∧ 0≤ s.account.cash := by
    refine runTo_invariant (P := fun s => Sound s.account ∧ 0≤ s.account.cash) ?_ ?_ hrun
    · exact ⟨⟨fun _ hmem => (List.not_mem_nil hmem).elim,fun _ => rfl⟩,hcapital⟩
    · intro today s s' hs hday
      refine (kept_cash hcosts).day (fun root _ hsome => ?_) hs hday
      refine ⟨⟨hs.1.positive,hs.1.recorded⟩,mul_nonneg hs.2 ?_⟩
      linarith [hroot _ root hsome]
  exact hboth.2

/-- At the end of every simulated day, for valid rates and whatever the signals and
prices are: cash that starts at zero or above is there, every position has a share at
least, as many as the trade records bought and did not sell, and the records account
for the cash up to the interest of the cooldowns, of which there is none without a limit
or with a safe return of nothing. -/
theorem cash_accounted (hcosts : Costs.Valid cfg.costs)
    (hroot : ∀ x root,lib.dailyRoot x=some root→0≤ root) (hrun : runTo cfg lib m n=some s) :
    (0≤ cfg.initialCapital→0≤ s.account.cash) ∧
      (∀ h∈s.account.book.holdings,1≤h.quantity) ∧
      (∀ ticker,heldQuantity s.account.book ticker=netQuantity s.account.records ticker) ∧
      s.account.cash=cfg.initialCapital+interestTo cfg lib m n-spent s.account.records+
        earned s.account.records ∧
      (cfg.maxDrawdownLimit=none ∨ lib.dailyRoot (1+cfg.safeAssetAnnualReturn)=some 1→
        s.account.cash=cfg.initialCapital-spent s.account.records+earned s.account.records) := by
  have hsound := sound_of_runTo hrun
  have hbalanced := balanced_of_runTo hrun
  refine ⟨fun hcapital => cash_of_runTo hcosts hroot hcapital hrun,hsound.positive,hsound.recorded,
    hbalanced,fun hnone => ?_⟩
  unfold Balanced at hbalanced
  rw [no_interest hnone,add_zero] at hbalanced
  exact hbalanced

end Runs

/-- The default rates of Korea are valid. -/
theorem valid_kr : Costs.Valid (transactionCosts .kr : Costs ℚ) := by
  refine ⟨?_,?_,?_,?_⟩
  all_goals
    unfold transactionCosts
    norm_num

/-- A capital below zero stays below zero. -/
theorem cash_negative : ¬∀ (cfg : BacktestConfig ℚ) (m : Market ℕ Pair ℚ) n s,
    Costs.Valid cfg.costs→ runTo cfg plainLibrary m n=some s→0≤ s.account.cash := by
  intro hall
  obtain ⟨s,hs⟩ := Option.isSome_iff_exists.mp (by decide +kernel :
    (runTo ({initialCapital := -1} : BacktestConfig ℚ) plainLibrary (BacktestPrefixes.turns 60) 3).isSome=true)
  have hcash := hall {initialCapital := -1} (BacktestPrefixes.turns 60) 3 s valid_kr hs
  have hnegative : ((runTo ({initialCapital := -1} : BacktestConfig ℚ) plainLibrary (BacktestPrefixes.turns 60) 3).map
      fun s => s.account.cash)=some (-1) := by decide +kernel
  rw [hs,Option.map_some] at hnegative
  rw [Option.some.inj hnegative] at hcash
  exact absurd hcash (by decide +kernel)

/-- A purchase, a sale and what is left. -/
theorem cash_accounted_turns : ∃ s,
    runTo ({} : BacktestConfig ℚ) plainLibrary (BacktestPrefixes.turns 60) 3=some s ∧ s.account.records.length=4 ∧
      s.account.cash=50000000-spent s.account.records+earned s.account.records := by
  obtain ⟨s,hs⟩ := Option.isSome_iff_exists.mp
    (by decide +kernel : (runTo ({} : BacktestConfig ℚ) plainLibrary (BacktestPrefixes.turns 60) 3).isSome=true)
  have hlength : ((runTo ({} : BacktestConfig ℚ) plainLibrary (BacktestPrefixes.turns 60) 3).map
      fun s => s.account.records.length)=some 4 := by decide +kernel
  rw [hs,Option.map_some] at hlength
  have hroot : ∀ x root,plainLibrary.dailyRoot x=some root→0≤ root := by
    intro x root hsome
    dsimp only [plainLibrary] at hsome
    by_cases hone : x=1
    · rw [if_pos hone] at hsome
      cases hsome
      norm_num
    · rw [if_neg hone] at hsome
      cases hsome
  have hcosts : Costs.Valid ({} : BacktestConfig ℚ).costs := valid_kr
  have haccounted := cash_accounted hcosts hroot hs
  exact ⟨s,hs,Option.some.inj hlength,haccounted.2.2.2.2 (.inl rfl)⟩

end Aqts.BacktestCash
