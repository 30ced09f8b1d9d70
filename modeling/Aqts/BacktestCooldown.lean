import Aqts.BacktestEquity

/-!
# After a forced liquidation

The counter of a cooldown runs down to zero, and the peak follows the cash down only on
the day it gets there by a decrement. A cooldown of one day or more therefore ends in a
day of trading at any prices. A cooldown of no days leaves the old peak, and the same
drawdown liquidates again on the next day.
-/

namespace Aqts.BacktestCooldown

open BacktestAccount BacktestEngine BacktestRuns BacktestCash BacktestEquity

variable {D T K : Type*} [Field K] [LinearOrder K]

/-- What reaches the cash of the value of a sold position. -/
def keptPart (costs : Costs K) : K := (1-costs.slippage)*(1-(costs.commission+costs.tax))

/-- Cash when every position is sold at a day's prices. -/
def proceeds (cfg : BacktestConfig K) (price : T→Option K) (s : State D T K) : K :=
  s.account.cash+(s.account.worth price-s.account.cash)*keptPart cfg.costs

/-- No position is worth nothing. -/
theorem positionsValue_empty (price : T→Option K) {book : Book T K} (hempty : book.holdings=[]) :
    positionsValue price book=0 := by
  unfold positionsValue
  rw [hempty]
  rfl

section Sales

variable [DecidableEq T] {costs : Costs K} {date : D} {price : T→Option K}

/-- A deleted position takes its value along. -/
theorem positionsValue_erase {book : Book T K} {h : Holding T K} (hmem : h∈book.holdings) :
    positionsValue price (book.erase h.ticker)+positionValue price h=positionsValue price book := by
  have hlist : ∀ holdings : List (Holding T K),(holdings.map Holding.ticker).Nodup→h∈holdings→
      ((holdings.filter fun held => held.ticker≠h.ticker).map (positionValue price)).sum+
        positionValue price h=(holdings.map (positionValue price)).sum := by
    intro holdings
    induction holdings with
    | nil => exact fun _ hnone => (List.not_mem_nil hnone).elim
    | cons held holdings ih =>
      intro hunique hin
      obtain ⟨hnew,hrest⟩ := List.nodup_cons.mp hunique
      rcases List.mem_cons.mp hin with hfirst | hlater
      · subst hfirst
        have hall : holdings.filter (fun held => held.ticker≠h.ticker)=holdings := by
          refine List.filter_eq_self.mpr fun held hheld => decide_eq_true fun hsame => hnew ?_
          exact hsame ▸ List.mem_map_of_mem hheld
        rw [List.filter_cons_of_neg (by simp),hall,List.map_cons,List.sum_cons,add_comm]
      · have hne : held.ticker≠h.ticker := by
          intro hsame
          exact hnew (hsame ▸ List.mem_map_of_mem hlater)
        rw [List.filter_cons_of_pos (by simpa using hne),List.map_cons,List.sum_cons,add_assoc,
          ih hrest hlater,List.map_cons,List.sum_cons]
  exact hlist book.holdings book.unique hmem

/-- Sales at a day's prices turn the value of the positions into cash. -/
theorem sellEach_proceeds (a : Account D T K) (triggers : Holding T K→K→Bool) (tickers : List T) :
    (a.sellEach costs date price triggers tickers).cash+
        positionsValue price (a.sellEach costs date price triggers tickers).book*keptPart costs=
      a.cash+positionsValue price a.book*keptPart costs := by
  refine sellEach_invariant (P := fun b : Account D T K =>
    b.cash+positionsValue price b.book*keptPart costs=
      a.cash+positionsValue price a.book*keptPart costs) ?_ triggers tickers rfl
  intro b h current hb hmem hprice hpos
  have hvalue : positionValue price h=h.quantity*current := by
    unfold positionValue validPrice
    rw [hprice,Option.filter_some,if_pos (decide_eq_true hpos)]
  have hbook : (b.sell costs date h current).book=b.book.erase h.ticker := rfl
  have hcash : (b.sell costs date h current).cash=
      b.cash+h.quantity*current*keptPart costs := by
    unfold Account.sell keptPart
    ring
  rw [←hb,hbook,hcash,←positionsValue_erase hmem,hvalue]
  ring

/-- With all prices a forced liquidation leaves no position. -/
theorem liquidation_empty {cfg : BacktestConfig K} {s : State D T K}
    (hprices : ∀ ticker,∃ p,price ticker=some p ∧ 0<p) :
    (liquidationDay cfg date price s).account.book.holdings=[] := by
  refine List.eq_nil_iff_forall_not_mem.mpr fun h hmem => ?_
  obtain ⟨p,hp,hpos⟩ := hprices h.ticker
  have hnone := (liquidation_left hmem).2
  unfold validPrice at hnone
  rw [hp,Option.filter_some,if_pos (decide_eq_true hpos)] at hnone
  cases hnone

/-- With all prices a forced liquidation leaves the proceeds. -/
theorem liquidation_cash {cfg : BacktestConfig K} {s : State D T K}
    (hprices : ∀ ticker,∃ p,price ticker=some p ∧ 0<p) :
    (liquidationDay cfg date price s).account.cash=proceeds cfg price s := by
  have hleft : (liquidationDay cfg date price s).account.book.holdings=[] := liquidation_empty hprices
  have hsold : (liquidationDay cfg date price s).account.cash+
      positionsValue price (liquidationDay cfg date price s).account.book*keptPart cfg.costs=
        s.account.cash+positionsValue price s.account.book*keptPart cfg.costs :=
    sellEach_proceeds s.account _ _
  rw [positionsValue_empty price hleft,zero_mul,add_zero] at hsold
  unfold proceeds
  rw [hsold,worth_eq,add_sub_cancel_left]

/-- With valid rates the proceeds are no more than the worth. -/
theorem proceeds_le [IsStrictOrderedRing K] {cfg : BacktestConfig K} {s : State D T K}
    (hcosts : Costs.Valid cfg.costs) (hsound : Sound s.account) :
    proceeds cfg price s≤ s.account.worth price := by
  have hnonneg : 0≤positionsValue price s.account.book := by
    refine List.sum_nonneg fun x hx => ?_
    obtain ⟨h,hmem,rfl⟩ := List.mem_map.mp hx
    exact positionValue_nonneg (hsound.positive h hmem)
  have hpart : keptPart cfg.costs≤1 := by
    unfold keptPart
    have hrates : 0≤ cfg.costs.commission+cfg.costs.tax :=
      add_nonneg hcosts.commission.1 hcosts.tax.1
    exact mul_le_one₀ (by linarith [hcosts.slippage.1]) (by linarith [hcosts.both]) (by linarith)
  unfold proceeds
  rw [worth_eq,add_sub_cancel_left]
  have hvalue := mul_le_of_le_one_right hnonneg hpart
  linarith

end Sales

section Limits

variable [IsStrictOrderedRing K] {limit peak x : K}

/-- A value is within the limit of a peak when it is no lower than a part of the peak. -/
theorem drawdown_iff (hlimit : 0<limit) (hpeak : 0<peak) :
    ¬drawdown x (max peak x)< -limit↔(1-limit)*peak≤x := by
  unfold drawdown
  rcases le_total peak x with hup | hdown
  · have hpos : 0<x := lt_of_lt_of_le hpeak hup
    rw [max_eq_right hup,if_pos hpos,sub_self,zero_div]
    have hpart : limit*peak>0 := mul_pos hlimit hpeak
    constructor
    · intro _
      linarith
    · intro _
      linarith
  · rw [max_eq_left hdown,if_pos hpeak,not_lt,le_div_iff₀ hpeak]
    constructor
    · intro h
      linarith
    · intro h
      linarith

/-- A drawdown beyond a limit is one from a peak above zero. -/
theorem peak_pos (hlimit : 0<limit) (h : drawdown x peak< -limit) : 0<peak := by
  by_contra hnot
  unfold drawdown at h
  rw [if_neg hnot] at h
  linarith

end Limits

section Days

variable {cfg : BacktestConfig K} {lib : Library D T K} {today : Today D T K}
  {s s' : State D T K} {limit : K}

/-- Without positions and without a cooldown it is the cash that is compared with the peak. -/
theorem idle_kind (hlimit : cfg.maxDrawdownLimit=some limit)
    (hempty : s.account.book.holdings=[]) (hremaining : s.cooldownRemaining≤0)
    (price : T→Option K) : dayKind cfg s price=.trading↔
      ¬drawdown s.account.cash (max s.peakValue s.account.cash)< -limit := by
  have hworth : s.account.worth price=s.account.cash := by
    rw [worth_eq,positionsValue_empty price hempty,add_zero]
  unfold dayKind
  dsimp only
  rw [hlimit,hworth]
  dsimp only
  rw [if_neg (not_lt.mpr hremaining)]
  by_cases hbeyond : drawdown s.account.cash (max s.peakValue s.account.cash)< -limit
  · rw [if_pos hbeyond]
    exact ⟨fun h => (by cases h),fun h => absurd hbeyond h⟩
  · rw [if_neg hbeyond]
    exact ⟨fun _ => hbeyond,fun _ => rfl⟩

/-- What a liquidation was called for. -/
theorem liquidation_kind (hlimit : cfg.maxDrawdownLimit=some limit) {price : T→Option K}
    (hkind : dayKind cfg s price=.liquidation) :
    drawdown (s.account.worth price) (max s.peakValue (s.account.worth price))< -limit := by
  unfold dayKind at hkind
  dsimp only at hkind
  rw [hlimit] at hkind
  dsimp only at hkind
  by_cases hcooldown : 0< s.cooldownRemaining
  · rw [if_pos hcooldown] at hkind
    cases hkind
  · rw [if_neg hcooldown] at hkind
    by_contra hnot
    rw [if_neg hnot] at hkind
    cases hkind

/-- Some days after a liquidation. -/
structure Cooling (cfg : BacktestConfig K) (sold : State D T K) (k : ℕ) (s : State D T K) :
    Prop where
  /-- No positions. -/
  holdings : s.account.book.holdings=[]
  /-- No trades. -/
  records : s.account.records=sold.account.records
  /-- The counter. -/
  remaining : s.cooldownRemaining=cfg.drawdownCooldownDays-k
  /-- The peak and the cash of the first day. -/
  first : k=0→s.peakValue=sold.peakValue ∧ s.account.cash=sold.account.cash
  /-- The peak of a counter that got to zero. -/
  peak : 0<k→s.cooldownRemaining=0→s.peakValue=s.account.cash

/-- The state that a liquidation leaves. -/
def soldOut [DecidableEq T] (cfg : BacktestConfig K) (row : Row D T K) (s : State D T K) :
    State D T K :=
  liquidationDay cfg row.date row.prices (peaked s row.prices)

/-- A cooldown of a day or more ends in a day of trading. -/
theorem trading_after [IsStrictOrderedRing K] (hlimit : cfg.maxDrawdownLimit=some limit) (hpos : 0<limit)
    (hdays : 1≤ cfg.drawdownCooldownDays) {after : State D T K} {sold : State D T K}
    (hcooling : Cooling cfg sold cfg.drawdownCooldownDays.toNat after) (price : T→Option K) :
    dayKind cfg after price=.trading := by
  have hremaining := hcooling.remaining
  have hzero : after.cooldownRemaining=0 := by omega
  have hpeak := hcooling.peak (by omega) hzero
  refine (idle_kind hlimit hcooling.holdings hzero.le price).mpr ?_
  unfold drawdown
  rw [hpeak,max_self,sub_self,zero_div,ite_self]
  linarith

/-- After a cooldown of no days it is the proceeds that are compared with the old peak. -/
theorem trading_at_once_iff [DecidableEq T] [IsStrictOrderedRing K] {row : Row D T K}
    (hlimit : cfg.maxDrawdownLimit=some limit) (hpos : 0<limit)
    (hprices : ∀ ticker,∃ p,row.prices ticker=some p ∧ 0<p)
    (hkind : dayKind cfg s row.prices=.liquidation) (hdays : cfg.drawdownCooldownDays≤0)
    {after : State D T K} (hcooling : Cooling cfg (soldOut cfg row s) 0 after)
    (price : T→Option K) : dayKind cfg after price=.trading↔
      (1-limit)*max s.peakValue (s.account.worth row.prices)≤proceeds cfg row.prices s := by
  have hremaining := hcooling.remaining
  obtain ⟨hpeak,hcash⟩ := hcooling.first rfl
  have hsoldPeak : (soldOut cfg row s).peakValue=max s.peakValue (s.account.worth row.prices) := rfl
  have hsoldCash : (soldOut cfg row s).account.cash=proceeds cfg row.prices s :=
    liquidation_cash hprices
  rw [idle_kind hlimit hcooling.holdings (by omega) price,hpeak,hcash,hsoldPeak,hsoldCash]
  exact drawdown_iff hpos (peak_pos hpos (liquidation_kind hlimit hkind))

variable [DecidableEq T] [FloorRing K]

/-- A day of a cooldown keeps positions and records, and the last one lets the peak follow. -/
theorem cooldown_step (hkind : dayKind cfg s today.row.prices=.cooldown)
    (hday : day cfg lib today s=some s') : s'.account.book=s.account.book ∧
      s'.account.records=s.account.records ∧ s'.cooldownRemaining=s.cooldownRemaining-1 ∧
      (s'.cooldownRemaining=0→s'.peakValue=s'.account.cash) := by
  rw [day_cooldown hkind] at hday
  obtain ⟨root,_,rfl⟩ := Option.map_eq_some_iff.mp hday
  exact ⟨rfl,rfl,rfl,fun hzero => if_pos hzero⟩

end Days

section Runs

variable [DecidableEq T] [LinearOrder D] [FloorRing K] {cfg : BacktestConfig K}
  {lib : Library D T K} {m : Market D T K} {i : ℕ} {row : Row D T K} {s : State D T K} {limit : K}

/-- Every price is a number above zero. -/
def Priced (m : Market D T K) : Prop :=
  ∀ row∈m.rows,∀ ticker,∃ p,row.prices ticker=some p ∧ 0<p

/-- No trades for the days of the cooldown, and a day of trading after it. -/
def Resumes (cfg : BacktestConfig K) (lib : Library D T K) (m : Market D T K) (i : ℕ) : Prop :=
  (∀ j s s',i<j→j≤ i+cfg.drawdownCooldownDays.toNat→ runTo cfg lib m j=some s→
    runTo cfg lib m (j+1)=some s'→s'.account.records=s.account.records) ∧
  ∀ kind,kindOn cfg lib m (i+cfg.drawdownCooldownDays.toNat+1)=some kind→kind=.trading

/-- A day of a liquidation. -/
theorem soldOut_eq (hrow : m.rows[i]?=some row) (hs : runTo cfg lib m i=some s)
    (hkind : dayKind cfg s row.prices=.liquidation) :
    runTo cfg lib m (i+1)=some (soldOut cfg row s) := by
  rw [runTo_succ hrow,hs,Option.bind_some]
  exact day_liquidation hkind

/-- The days of the cooldown after a liquidation at known prices. -/
theorem cooling_of_runTo (hlimit : cfg.maxDrawdownLimit=some limit) (hpriced : Priced m)
    (hrow : m.rows[i]?=some row) (hs : runTo cfg lib m i=some s)
    (hkind : dayKind cfg s row.prices=.liquidation) {k : ℕ} {after : State D T K}
    (hk : k≤ cfg.drawdownCooldownDays.toNat) (hlength : i+1+k≤ m.rows.length)
    (hafter : runTo cfg lib m (i+1+k)=some after) : Cooling cfg (soldOut cfg row s) k after := by
  induction k generalizing after with
  | zero =>
    have hsold := (soldOut_eq hrow hs hkind).symm.trans hafter
    cases hsold
    refine ⟨liquidation_empty (hpriced row (List.mem_of_getElem? hrow)),rfl,?_,fun _ => ⟨rfl,rfl⟩,?_⟩
    · unfold soldOut liquidationDay
      simp
    · intro hpos
      omega
  | succ k ih =>
    obtain ⟨next,hnext⟩ : ∃ next,m.rows[i+1+k]?=some next :=
      ⟨_,List.getElem?_eq_getElem (by omega)⟩
    rw [←add_assoc,runTo_succ hnext] at hafter
    obtain ⟨before,hbefore,hday⟩ := Option.bind_eq_some_iff.mp hafter
    have hcooling := ih (by omega) (by omega) hbefore
    have hremaining := hcooling.remaining
    have hcooldown : dayKind cfg before (seen m (i+1+k) next).row.prices=.cooldown := by
      unfold dayKind
      dsimp only
      rw [hlimit]
      dsimp only
      exact if_pos (by omega)
    obtain ⟨hbook,hrecords,hcounter,hpeak⟩ := cooldown_step hcooldown hday
    refine ⟨?_,hrecords.trans hcooling.records,?_,?_,fun _ => hpeak⟩
    · rw [hbook]
      exact hcooling.holdings
    · push_cast
      omega
    · intro hzero
      omega

/-- After a liquidation at known prices there are no trades for the days of the cooldown. -/
theorem no_trades (hlimit : cfg.maxDrawdownLimit=some limit) (hpriced : Priced m)
    (hrow : m.rows[i]?=some row) (hs : runTo cfg lib m i=some s)
    (hkind : dayKind cfg s row.prices=.liquidation) {j : ℕ} {before after : State D T K}
    (hij : i<j) (hj : j≤ i+cfg.drawdownCooldownDays.toNat)
    (hbefore : runTo cfg lib m j=some before) (hafter : runTo cfg lib m (j+1)=some after) :
    after.account.records=before.account.records := by
  by_cases hlength : m.rows.length≤j
  · rw [runTo_length hlength,hbefore] at hafter
    cases hafter
    rfl
  · obtain ⟨k,rfl⟩ : ∃ k,j=i+1+k := ⟨j-(i+1),by omega⟩
    have hfirst := cooling_of_runTo hlimit hpriced hrow hs hkind (by omega) (by omega) hbefore
    have hsecond := cooling_of_runTo hlimit hpriced hrow hs hkind (k := k+1) (by omega) (by omega)
      hafter
    exact hsecond.records.trans hfirst.records.symm

variable [IsStrictOrderedRing K]

/-- After a liquidation at known prices, with a limit above zero: there are no trades for
the days of the cooldown and then a day of trading exactly when the cooldown is a day or
more, or the liquidation was on the last day, or the proceeds are within the limit of the
peak. -/
theorem resumes_iff (hlimit : cfg.maxDrawdownLimit=some limit) (hpos : 0<limit)
    (hpriced : Priced m) (hrow : m.rows[i]?=some row) (hs : runTo cfg lib m i=some s)
    (hkind : dayKind cfg s row.prices=.liquidation) :
    Resumes cfg lib m i↔1≤ cfg.drawdownCooldownDays ∨ m.rows.length=i+1 ∨
      (1-limit)*max s.peakValue (s.account.worth row.prices)≤proceeds cfg row.prices s := by
  have hi : i< m.rows.length := (List.getElem?_eq_some_iff.mp hrow).1
  have htrades : ∀ j s s',i<j→j≤ i+cfg.drawdownCooldownDays.toNat→ runTo cfg lib m j=some s→
      runTo cfg lib m (j+1)=some s'→s'.account.records=s.account.records :=
    fun j _ _ hij hj => no_trades hlimit hpriced hrow hs hkind hij hj
  by_cases hdays : 1≤ cfg.drawdownCooldownDays
  · refine ⟨fun _ => .inl hdays,fun _ => ⟨htrades,fun kind hafterKind => ?_⟩⟩
    unfold kindOn at hafterKind
    obtain ⟨next,hnext,hmap⟩ := Option.bind_eq_some_iff.mp hafterKind
    obtain ⟨after,hafter,rfl⟩ := Option.map_eq_some_iff.mp hmap
    have hlength := (List.getElem?_eq_some_iff.mp hnext).1
    rw [Nat.add_right_comm] at hafter
    have hcooling := cooling_of_runTo hlimit hpriced hrow hs hkind le_rfl (by omega) hafter
    exact trading_after hlimit hpos hdays hcooling next.prices
  have hzero : cfg.drawdownCooldownDays.toNat=0 := by omega
  unfold Resumes
  rw [hzero] at htrades ⊢
  by_cases hlast : m.rows.length=i+1
  · refine ⟨fun _ => .inr (.inl hlast),fun _ => ⟨htrades,fun kind hafterKind => ?_⟩⟩
    unfold kindOn at hafterKind
    rw [List.getElem?_eq_none (by omega)] at hafterKind
    cases hafterKind
  obtain ⟨next,hnext⟩ : ∃ next,m.rows[i+1]?=some next := ⟨_,List.getElem?_eq_getElem (by omega)⟩
  have hsold := soldOut_eq hrow hs hkind
  have hcooling := cooling_of_runTo hlimit hpriced hrow hs hkind (k := 0) (by omega) (by omega) hsold
  have hnextKind : kindOn cfg lib m (i+1)=some (dayKind cfg (soldOut cfg row s) next.prices) := by
    unfold kindOn
    rw [hnext,hsold]
    rfl
  have hiff := trading_at_once_iff hlimit hpos (hpriced row (List.mem_of_getElem? hrow)) hkind
    (by omega) hcooling next.prices
  rw [←hiff]
  constructor
  · rintro ⟨_,hkinds⟩
    exact .inr (.inr (hkinds _ hnextKind))
  · rintro (hone | hlength | htrading)
    · exact absurd hone hdays
    · exact absurd hlength hlast
    · refine ⟨htrades,fun kind hafterKind => ?_⟩
      rw [hnextKind] at hafterKind
      exact (Option.some.inj hafterKind).symm.trans htrading

/-- With valid rates the proceeds are beyond the limit. -/
theorem proceeds_beyond (hlimit : cfg.maxDrawdownLimit=some limit) (hpos : 0<limit)
    (hcosts : Costs.Valid cfg.costs) (hs : runTo cfg lib m i=some s)
    (hkind : dayKind cfg s row.prices=.liquidation) :
    proceeds cfg row.prices s<(1-limit)*max s.peakValue (s.account.worth row.prices) := by
  have hbeyond := liquidation_kind hlimit hkind
  have hpeak := peak_pos hpos hbeyond
  have hle : proceeds cfg row.prices s≤ s.account.worth row.prices :=
    proceeds_le hcosts (sound_of_runTo hs)
  unfold drawdown at hbeyond
  rw [if_pos hpeak,div_lt_iff₀ hpeak] at hbeyond
  linarith

end Runs

/-- Two prices halve after a day. -/
def halved : Market ℕ Pair ℚ :=
  daily [(some (1/2),some 100),(some (1/2),some 50),(some (1/2),some 50),(some (1/2),some 50)]

/-- A limit of a tenth, a safe return of nothing and a cooldown of some days. -/
def tenthFor (days : ℤ) : BacktestConfig ℚ :=
  {tenth with drawdownCooldownDays := days}

/-- The halved prices are above zero. -/
theorem halved_priced : Priced halved := by
  intro row hrow ticker
  have hrows : row.prices ticker=some 100 ∨ row.prices ticker=some 50 := by
    rcases List.mem_cons.mp hrow with rfl | hrest
    · exact .inl rfl
    · rcases List.mem_cons.mp hrest with rfl | hlater
      · exact .inr rfl
      · rcases List.mem_cons.mp hlater with rfl | hlast
        · exact .inr rfl
        · rw [List.mem_singleton.mp hlast]
          exact .inr rfl
  rcases hrows with hprice | hprice
  · exact ⟨100,hprice,by norm_num⟩
  · exact ⟨50,hprice,by norm_num⟩

/-- After a cooldown of a day there is a day of trading. -/
theorem resumes_halved : kindOn (tenthFor 1) plainLibrary halved 1=some .liquidation ∧
    Resumes (tenthFor 1) plainLibrary halved 1 ∧
    kindOn (tenthFor 1) plainLibrary halved 3=some .trading := by
  obtain ⟨s,hs⟩ := Option.isSome_iff_exists.mp
    (by decide +kernel : (runTo (tenthFor 1) plainLibrary halved 1).isSome=true)
  have hkindOn : kindOn (tenthFor 1) plainLibrary halved 1=some .liquidation := by decide +kernel
  let row : Row ℕ Pair ℚ := ⟨1,fun _ => some (1/2),fun _ => some 50⟩
  have hrow : halved.rows[1]?=some row := rfl
  have hkind : dayKind (tenthFor 1) s row.prices=.liquidation := by
    unfold kindOn at hkindOn
    rw [hrow,hs] at hkindOn
    exact Option.some.inj hkindOn
  have hpos : (0 : ℚ)<1/10 := by norm_num
  have hlimit : (tenthFor 1).maxDrawdownLimit=some (1/10) := rfl
  have hdays : 1≤(tenthFor 1).drawdownCooldownDays := le_refl 1
  have hresumes := (resumes_iff hlimit hpos halved_priced hrow hs hkind).mpr (.inl hdays)
  exact ⟨by decide +kernel,hresumes,by decide +kernel⟩

/-- Without days of cooldown the day after a liquidation is another one. -/
theorem liquidated_again : ¬∀ (cfg : BacktestConfig ℚ) (limit : ℚ) (m : Market ℕ Pair ℚ) (i : ℕ),
    cfg.maxDrawdownLimit=some limit→0<limit→limit<1→0≤ cfg.drawdownCooldownDays→ Priced m→
      kindOn cfg plainLibrary m i=some .liquidation→ Resumes cfg plainLibrary m i := by
  intro hall
  have hresumes := hall (tenthFor 0) (1/10) halved 1 rfl (by norm_num) (by norm_num) le_rfl
    halved_priced (by decide +kernel)
  have hagain : kindOn (tenthFor 0) plainLibrary halved 2=some .liquidation := by decide +kernel
  exact absurd (hresumes.2 _ hagain) (by decide)

end Aqts.BacktestCooldown
