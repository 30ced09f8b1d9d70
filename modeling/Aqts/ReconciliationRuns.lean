import Aqts.Reconciliation
import Mathlib.Tactic.Linarith

/-!
# When a reconciliation matches

The ledger has the fills of every market and may take one between the two reads
of a run, while the broker side is the Korean balance at the first read. A run
ends well exactly when the account holds next to nothing in the markets of the
United States, and, with Korean fills alone, exactly when those between the
reads cancel out.
-/

namespace Aqts.Reconciliation

open Dictionary OrderTypes PandasSeries PortfolioLedger TradingGuard
open JsonText hiding Text

/-- A row of the balance that reports a quantity of a ticker. -/
def RowReports (reading : FieldReading) (row : Json) (item : String×ℚ) : Prop :=
  ∃ members ticker raw,row=.object members ∧ field "pdno" members=ticker ∧ ticker≠.null ∧
    reading.ticker ticker=item.1 ∧ field "hldg_qty" members=raw ∧ raw≠.null ∧
    reading.float raw=.ok (.number item.2) ∧ 0≤ item.2

/-- The response of `get_kr_balance` reports exactly some holdings: a row for every
ticker, and no other row but of quantity zero. Without any it may have no rows. -/
def Reports (reading : FieldReading) (response : Json) (holdings : String→ℚ) : Prop :=
  ∃ members rows,∃ entries : Dict String ℚ,response=.object members ∧
    (field "output1" members=.array rows ∨ field "output1" members=.null ∧ rows=[]) ∧
      List.Forall₂ (RowReports reading) rows entries.items ∧
        ∀ ticker,(entries.get? ticker).getD 0=holdings ticker

variable {reading : FieldReading} {response : Json} {holdings : String→ℚ}
  {guard : TradingGuardState}

/-- A row that reports a quantity becomes a position, unless the quantity is zero. -/
theorem parseRow_reports {row : Json} {item : String×ℚ} (h : RowReports reading row item)
    (idx : ℕ) (positions : PositionMap) :
    parseRow reading idx row positions=
      .ok (if item.2=0 then positions else positions.set item.1 (.number item.2)) := by
  obtain ⟨members,ticker,raw,rfl,hpdno,hticker,hname,hqty,hraw,hfloat,hpos⟩ := h
  have hbelow : ¬(Value.number item.2).below (.number 0)=true := by
    intro hneg
    exact absurd (of_decide_eq_true hneg) (not_lt_of_ge hpos)
  unfold parseRow
  dsimp only
  rw [hpdno,hqty]
  split
  · exact absurd rfl hticker
  · exact absurd rfl hraw
  · rw [hfloat]
    dsimp only
    rw [if_neg hbelow,hname]
    by_cases hzero : item.2=0
    · rw [if_pos hzero,if_pos (congrArg Value.number hzero)]
    · rw [if_neg hzero,if_neg fun heq => hzero (Value.number.inj heq)]

/-- Rows that report different tickers become positions of their quantities. -/
theorem parseRows_reports {rows : List Json} {items : List (String×ℚ)}
    (h : List.Forall₂ (RowReports reading) rows items) (hnodup : (items.map Prod.fst).Nodup)
    (idx : ℕ) (positions : PositionMap)
    (hnew : ∀ ticker∈items.map Prod.fst,positions.get? ticker=none) :
    ∃ parsed,parseRows reading idx rows positions=.ok parsed ∧
      ∀ ticker,quantityOf parsed ticker=
        ((items.find? fun item => item.1=ticker).map fun item => Value.number item.2).getD
          (quantityOf positions ticker) := by
  induction h generalizing idx positions with
  | nil => exact ⟨positions,rfl,fun _ => rfl⟩
  | @cons row item rows items hrow _ ih =>
    obtain ⟨hfirst,hrest⟩ := List.nodup_cons.mp hnodup
    have hnone : positions.get? item.1=none := hnew item.1 List.mem_cons_self
    -- the positions after the first row
    have hafter : ∃ next,parseRow reading idx row positions=.ok next ∧
        (∀ other,other≠item.1→next.get? other=positions.get? other) ∧
          quantityOf next item.1=.number item.2 := by
      refine ⟨_,parseRow_reports hrow idx positions,?_⟩
      unfold quantityOf
      by_cases hzero : item.2=0
      · rw [if_pos hzero]
        refine ⟨fun _ _ => rfl,?_⟩
        rw [hnone,hzero]
        rfl
      · rw [if_neg hzero]
        refine ⟨?_,?_⟩
        · intro other hother
          rw [Dict.get?_set,if_neg hother]
        · rw [Dict.get?_set,if_pos rfl]
          rfl
    obtain ⟨next,hnext,hothers,hitem⟩ := hafter
    obtain ⟨parsed,hparsed,hquantities⟩ := ih hrest (idx+1) next (by
      intro ticker hmem
      have hne : ticker≠item.1 := fun heq => hfirst (heq ▸ hmem)
      rw [hothers ticker hne]
      exact hnew ticker (List.mem_cons_of_mem _ hmem))
    refine ⟨parsed,?_,?_⟩
    · unfold parseRows
      rw [hnext]
      exact hparsed
    · intro ticker
      rw [hquantities ticker]
      by_cases hticker : item.1=ticker
      · subst hticker
        have hmissing : items.find? (fun other => decide (other.1=item.1))=none := by
          rw [List.find?_eq_none]
          intro other hmem heq
          exact hfirst (of_decide_eq_true heq ▸ List.mem_map_of_mem hmem)
        have hfound : (item::items).find? (fun other => decide (other.1=item.1))=some item := by
          rw [List.find?_cons,decide_eq_true rfl]
        rw [hmissing,hfound]
        exact hitem
      · have hlater : (item::items).find? (fun other => decide (other.1=ticker))=
            items.find? fun other => decide (other.1=ticker) := by
          rw [List.find?_cons,decide_eq_false hticker]
        rw [hlater]
        have hsame : quantityOf next ticker=quantityOf positions ticker := by
          unfold quantityOf
          rw [hothers ticker (Ne.symm hticker)]
        rw [hsame]

/-- A response that reports some holdings is read into their quantities. -/
theorem parse_reports (h : Reports reading response holdings) :
    ∃ positions,parse reading response=.ok positions ∧
      ∀ ticker,quantityOf positions ticker=.number (holdings ticker) := by
  obtain ⟨members,rows,entries,rfl,hrows,hreports,hholdings⟩ := h
  obtain ⟨parsed,hparsed,hquantities⟩ :=
    parseRows_reports hreports entries.nodup 0 Dict.empty (fun _ _ => rfl)
  refine ⟨parsed,?_,?_⟩
  · unfold parse
    dsimp only
    obtain harray | ⟨hnull,hempty⟩ := hrows
    · rw [harray]
      exact hparsed
    · rw [hnull]
      subst hempty
      exact hparsed
  · intro ticker
    rw [hquantities,← hholdings]
    unfold Dict.get?
    cases entries.items.find? fun item => decide (item.1=ticker) with
    | none => rfl
    | some item => rfl

/-- Two numbers differ when they are further apart than the tolerance. -/
theorem not_differs_iff (x y : ℚ) : differs (.number x) (.number y)=false↔|x-y|≤tolerance := by
  have hdiffers : differs (.number x) (.number y)=decide (tolerance< |x+ -y|) := rfl
  rw [hdiffers,decide_eq_false_iff_not,not_lt,sub_eq_add_neg]

/-- A run over a reported balance and a snapshot of the ledger ends well exactly when
every quantity is within the tolerance. -/
theorem run_reports_iff (h : Reports reading response holdings) (hoff : guard.killSwitchOn=false)
    (runner : Runner) {ledger : Ledger} (snapshot : Snapshot ledger) :
    MatchedAndOff (runner.run (brokerPositions reading (.ok response)) snapshot.internalPositions
        guard)↔∀ ticker,|holdings ticker-ledger.position ticker|≤tolerance := by
  obtain ⟨positions,hparse,hquantities⟩ := parse_reports h
  have hbroker : brokerPositions reading (.ok response)=.ok positions := hparse
  rw [hbroker,run_matched_iff runner hoff]
  apply forall_congr'
  intro ticker
  rw [hquantities ticker,snapshot.quantityOf ticker,not_differs_iff]

/-- The holdings of an account in the markets that the executor accepts. -/
abbrev Account := Market→Ledger

/-- The holdings in the markets of the United States. -/
def Account.us (account : Account) (ticker : String) : ℚ :=
  (account .nyse).position ticker+(account .nasdaq).position ticker+(account .amex).position ticker

/-- The ledger holds exactly what the account holds over all markets. -/
def HoldsExactly (ledger : Ledger) (account : Account) : Prop :=
  ∀ ticker,ledger.position ticker=(account .krx).position ticker+account.us ticker

/-- No position is negative. -/
theorem position_nonneg (ledger : Ledger) (ticker : String) : 0≤ledger.position ticker := by
  unfold Ledger.position
  cases h : ledger.positions ticker with
  | none => exact le_rfl
  | some quantity => exact (ledger.positive ticker quantity h).le

/-- The ledger with some positive positions, and its snapshot. -/
def ledgerOf (positions : Dict String ℚ) (h : ∀ item∈positions.items,0< item.2) : Ledger :=
  ⟨positions.get?,fun _ _ hfound => h _ (positions.get?_eq_some.mp hfound)⟩

/-- The snapshot of such a ledger. -/
def snapshotOf (positions : Dict String ℚ) (h : ∀ item∈positions.items,0< item.2) :
    Snapshot (ledgerOf positions h) :=
  ⟨positions,fun ticker => congrFun (Ledger.getPositions_eq (ledgerOf positions h)).symm ticker⟩

/-- The dictionary of a ledger after a fill, as `record_fill` changes it. -/
def Snapshot.put {ledger : Ledger} (snapshot : Snapshot ledger) (ticker : String) (quantity : ℚ)
    (h : 0≤quantity) : Snapshot (ledger.put ticker quantity h) where
  positions :=
    if quantity=0 then snapshot.positions.filter fun other _ => decide (other≠ticker)
    else snapshot.positions.set ticker quantity
  same := by
    intro other
    have hbefore : snapshot.positions.get? other=ledger.positions other := by
      rw [snapshot.same,ledger.getPositions_eq]
    rw [Ledger.getPositions_eq]
    unfold Ledger.put
    dsimp only
    by_cases hzero : quantity=0
    · rw [if_pos hzero,if_pos hzero,Dict.get?_filter,hbefore]
      by_cases hother : other=ticker
      · rw [hother,Function.update_self,Option.filter_eq_none_iff]
        exact fun _ _ hkept => of_decide_eq_true hkept rfl
      · rw [Function.update_of_ne hother]
        cases ledger.positions other with
        | none => rfl
        | some held => exact Option.filter_some_pos (decide_eq_true hother)
    · rw [if_neg hzero,if_neg hzero,Dict.get?_set,hbefore]
      by_cases hother : other=ticker
      · rw [if_pos hother,hother,Function.update_self]
      · rw [if_neg hother,Function.update_of_ne hother]

/-- With a ledger that agrees with the account, a run matches and leaves the kill
switch off exactly when the account holds next to nothing in the United States. -/
theorem run_account_iff (account : Account) {ledger : Ledger} (runner : Runner)
    (snapshot : Snapshot ledger) (hledger : HoldsExactly ledger account)
    (hreport : Reports reading response (account .krx).position)
    (hoff : guard.killSwitchOn=false) :
    MatchedAndOff (runner.run (brokerPositions reading (.ok response)) snapshot.internalPositions
        guard)↔∀ ticker,account.us ticker≤tolerance := by
  rw [run_reports_iff hreport hoff]
  apply forall_congr'
  intro ticker
  have hus : 0≤account.us ticker :=
    add_nonneg (add_nonneg (position_nonneg _ _) (position_nonneg _ _)) (position_nonneg _ _)
  rw [hledger ticker,sub_add_cancel_left,abs_neg,abs_of_nonneg hus]

/-- `float` of digits, and `str` of nothing else. -/
def digitReading : FieldReading where
  float
    | .str digits =>
      if digits.all Char.isDigit then .ok (.number (natOf digits)) else .error .notNumeric
    | _ => .error .notNumeric
  text _ := ""

/-- A runner without tolerance for mismatches. -/
def strictRunner : Runner := ⟨0,fun _ => ""⟩

/-- A balance with one row. -/
def balance (ticker quantity : String) : Json :=
  .object [("output1".toList,.array [.object [("pdno".toList,.str ticker.toList),
    ("hldg_qty".toList,.str quantity.toList)]])]

/-- Ten shares of a Korean ticker. -/
def korean : Dict String ℚ := Dict.empty.set "005930" 10

/-- One share of an American ticker. -/
def american : Dict String ℚ := Dict.empty.set "AAPL" 1

/-- The Korean and the American shares. -/
def bothShares : Dict String ℚ := korean.set "AAPL" 1

/-- An account with shares in Korea and at the Nasdaq. -/
def accountOf (nasdaq : Ledger) : Account
  | .krx => ledgerOf korean (by decide +kernel)
  | .nasdaq => nasdaq
  | _ => Ledger.empty

/-- The balance reports the Korean shares. -/
theorem reports_korean :
    Reports digitReading (balance "005930" "10") (ledgerOf korean (by decide +kernel)).position := by
  refine ⟨_,[_],korean,rfl,.inl rfl,List.Forall₂.cons ?_ List.Forall₂.nil,fun _ => rfl⟩
  refine ⟨_,_,_,rfl,rfl,nofun,?_,rfl,nofun,?_,?_⟩
  · decide +kernel
  · rfl
  · decide +kernel

/-- An account has in the United States what it has at the Nasdaq. -/
theorem us_accountOf (nasdaq : Ledger) (ticker : String) :
    Account.us (accountOf nasdaq) ticker=nasdaq.position ticker := by
  have hnone : Ledger.empty.position ticker=0 := rfl
  unfold Account.us accountOf
  dsimp only
  rw [hnone,zero_add,add_zero]

/-- The reconciliation of Korean shares alone matches. -/
theorem run_account_iff_korean :
    MatchedAndOff (strictRunner.run (brokerPositions digitReading (.ok (balance "005930" "10")))
      (snapshotOf korean (by decide +kernel)).internalPositions {}) := by
  have hnone : ∀ ticker,Account.us (accountOf Ledger.empty) ticker=0 := us_accountOf Ledger.empty
  refine (run_account_iff (accountOf Ledger.empty) strictRunner
    (snapshotOf korean (by decide +kernel)) ?_ reports_korean rfl).mpr ?_
  · intro ticker
    rw [hnone,add_zero]
    rfl
  · intro ticker
    rw [hnone]
    decide +kernel

/-- One share at the Nasdaq turns the kill switch on. -/
theorem not_matched_with_us :
    ¬∀ (reading : FieldReading) (runner : Runner) (account : Account) (ledger : Ledger)
        (snapshot : Snapshot ledger) (response : Json) (guard : TradingGuardState),
      HoldsExactly ledger account→Reports reading response (account .krx).position→
        guard.killSwitchOn=false→
          MatchedAndOff (runner.run (brokerPositions reading (.ok response))
            snapshot.internalPositions guard) := by
  intro hall
  have hexact : HoldsExactly (ledgerOf bothShares (by decide +kernel))
      (accountOf (ledgerOf american (by decide +kernel))) := by
    intro ticker
    rw [us_accountOf]
    by_cases hkrx : ticker="005930"
    · rw [hkrx]
      decide +kernel
    · by_cases hus : ticker="AAPL"
      · rw [hus]
        decide +kernel
      · have hboth : (ledgerOf bothShares (by decide +kernel)).positions ticker=none := by
          refine (Dict.get?_set _ _ _ _).trans ((if_neg hus).trans ?_)
          exact (Dict.get?_set _ _ _ _).trans (if_neg hkrx)
        have hkorean : (ledgerOf korean (by decide +kernel)).positions ticker=none :=
          (Dict.get?_set _ _ _ _).trans (if_neg hkrx)
        have hamerican : (ledgerOf american (by decide +kernel)).positions ticker=none :=
          (Dict.get?_set _ _ _ _).trans (if_neg hus)
        unfold Ledger.position accountOf
        dsimp only
        rw [hboth,hkorean,hamerican]
        decide +kernel
  have hswitch := (hall digitReading strictRunner _ _ (snapshotOf bothShares (by decide +kernel))
    (balance "005930" "10") {} hexact reports_korean rfl).2
  revert hswitch
  decide +kernel

/-- A fill that is booked. -/
structure Fill where
  /-- The ticker. -/
  ticker : String
  /-- The side. -/
  side : OrderSide
  /-- The quantity. -/
  quantity : ℚ

/-- The quantity that fills add to a ticker. -/
def net (fills : List Fill) (ticker : String) : ℚ :=
  (fills.map fun fill => if fill.ticker=ticker then signed fill.side fill.quantity else 0).sum

/-- The ledger records fills one after the other. -/
def Records : Ledger→List Fill→Ledger→Prop
  | ledger,[],ledger' => ledger'=ledger
  | ledger,fill::fills,ledger' =>
    ∃ next,ledger.recordFill none fill.ticker fill.side fill.quantity=.ok next ∧
      Records next fills ledger'

/-- Recorded fills change every position by what they add. -/
theorem Records.position {ledger ledger' : Ledger} {fills : List Fill}
    (h : Records ledger fills ledger') (ticker : String) :
    ledger'.position ticker=ledger.position ticker+net fills ticker := by
  induction fills generalizing ledger with
  | nil =>
    have hsame : ledger'=ledger := h
    rw [hsame]
    exact (add_zero _).symm
  | cons fill fills ih =>
    obtain ⟨next,hnext,hrest⟩ := h
    rw [ih hrest,Ledger.recordFill_position hnext ticker]
    unfold net
    rw [List.map_cons,List.sum_cons,add_assoc]

/-- Fills are booked at the broker and in the ledger at once. A run that reads the
balance at one moment and the ledger after some fills matches and leaves the kill
switch off exactly when these fills cancel out. -/
theorem run_between_fills_iff {atBalance atLedger : Ledger} {between : List Fill}
    (runner : Runner) (snapshot : Snapshot atLedger) (hfills : Records atBalance between atLedger)
    (hreport : Reports reading response atBalance.position) (hoff : guard.killSwitchOn=false) :
    MatchedAndOff (runner.run (brokerPositions reading (.ok response)) snapshot.internalPositions
        guard)↔∀ ticker,|net between ticker|≤tolerance := by
  rw [run_reports_iff hreport hoff]
  apply forall_congr'
  intro ticker
  rw [hfills.position ticker,sub_add_cancel_left,abs_neg]

/-- A fill that a ledger takes puts the new quantity. -/
theorem recordFill_put {ledger : Ledger} (fill : Fill) (hticker : isBlank fill.ticker=false)
    (hquantity : 0<fill.quantity)
    (hposition : 0≤ledger.position fill.ticker+signed fill.side fill.quantity) :
    ledger.recordFill none fill.ticker fill.side fill.quantity=
      .ok (ledger.put fill.ticker (ledger.position fill.ticker+signed fill.side fill.quantity)
        hposition) := by
  unfold Ledger.recordFill
  rw [hticker,if_neg Bool.false_ne_true,if_neg (not_le_of_gt hquantity)]
  exact dif_neg (not_lt_of_ge hposition)

/-- Five more shares are bought. -/
def bought : Fill := ⟨"005930",.buy,5⟩

/-- The ledger of the Korean shares. -/
def beforeFills : Ledger := ledgerOf korean (by decide +kernel)

/-- The ledger after the purchase. -/
def afterBuy : Ledger :=
  beforeFills.put "005930" (beforeFills.position "005930"+signed .buy 5) (by decide +kernel)

/-- The ledger after five shares were bought and sold. -/
def afterSell : Ledger :=
  afterBuy.put "005930" (afterBuy.position "005930"+signed .sell 5) (by decide +kernel)

/-- The snapshot after the purchase. -/
def snapshotAfterBuy : Snapshot afterBuy :=
  (snapshotOf korean (by decide +kernel)).put "005930" _ (by decide +kernel)

/-- The snapshot after the sale. -/
def snapshotAfterSell : Snapshot afterSell :=
  snapshotAfterBuy.put "005930" _ (by decide +kernel)

/-- Shares that are bought and sold again between the reads leave no mismatch. -/
theorem run_between_fills_iff_sold :
    MatchedAndOff (strictRunner.run (brokerPositions digitReading (.ok (balance "005930" "10")))
        snapshotAfterSell.internalPositions {})↔
      ∀ ticker,|net [bought,⟨"005930",.sell,5⟩] ticker|≤tolerance := by
  have hfills : Records beforeFills [bought,⟨"005930",.sell,5⟩] afterSell := by
    refine ⟨afterBuy,?_,afterSell,?_,rfl⟩
    · exact recordFill_put bought rfl (by decide +kernel) (by decide +kernel)
    · exact recordFill_put ⟨"005930",.sell,5⟩ rfl (by decide +kernel) (by decide +kernel)
  exact run_between_fills_iff strictRunner snapshotAfterSell hfills reports_korean rfl

/-- A purchase between the reads turns the kill switch on. -/
theorem not_matched_between_fills :
    ¬∀ (reading : FieldReading) (runner : Runner) (atBalance atLedger : Ledger)
        (between : List Fill) (snapshot : Snapshot atLedger) (response : Json)
        (guard : TradingGuardState),
      Records atBalance between atLedger→Reports reading response atBalance.position→
        guard.killSwitchOn=false→
          MatchedAndOff (runner.run (brokerPositions reading (.ok response))
            snapshot.internalPositions guard) := by
  intro hall
  have hfills : Records beforeFills [bought] afterBuy :=
    ⟨afterBuy,recordFill_put bought rfl (by decide +kernel) (by decide +kernel),rfl⟩
  have hswitch := (hall digitReading strictRunner _ _ _ snapshotAfterBuy (balance "005930" "10") {}
    hfills reports_korean rfl).2
  revert hswitch
  decide +kernel

end Aqts.Reconciliation
