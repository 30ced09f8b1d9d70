import Aqts.Dictionary
import Aqts.PandasSeries
import Aqts.RealtimeResponses
import Aqts.TradingGuard

/-!
# Reconciliation of the positions

`ReconciliationRunner.run` with its two providers: the broker's positions are
read from the balance of the Korean market, the internal ones are a snapshot of
the ledger. They are compared ticker by ticker, and a mismatch turns the kill
switch on.
-/

namespace Aqts.Reconciliation

open Dictionary PandasSeries PortfolioLedger TradingGuard
open JsonText hiding Text
open RealtimeFrames (strip)

/-- A map of positions. -/
abbrev PositionMap := Dict String (Value ℚ)

/-- The quantity of a ticker, zero without a position. -/
def quantityOf (positions : PositionMap) (ticker : String) : Value ℚ :=
  (positions.get? ticker).getD (.number 0)

/-- How `float` fails. -/
inductive FloatError
  /-- `TypeError` or `ValueError`. -/
  | notNumeric
  /-- `OverflowError`, for an integer out of range. -/
  | overflow

/-- What Python makes of the fields of a balance. -/
structure FieldReading where
  /-- `float`. -/
  float : Json→Except FloatError (Value ℚ)
  /-- `str` of what is no string. -/
  text : Json→String

/-- `str(ticker).strip()`. -/
def FieldReading.ticker (reading : FieldReading) (value : Json) : String :=
  match value with
  | .str text => String.ofList (strip text)
  | _ => String.ofList (strip (reading.text value).toList)

/-- What `KISBrokerPositionProvider.get_positions` raises. -/
inductive ProviderError
  /-- `BrokerPositionParseError` for a request that failed. -/
  | upstream (text : String)
  /-- For a response that is no dictionary. -/
  | responseType (response : Json)
  /-- For rows that are no list. -/
  | rowsType (rows : Json)
  /-- For a row that is no dictionary. -/
  | rowType (idx : ℕ) (row : Json)
  /-- For a row without a ticker or a quantity. -/
  | missingField (idx : ℕ)
  /-- For a quantity that is no number. -/
  | notNumeric (idx : ℕ) (quantity : Json)
  /-- For a negative quantity. -/
  | negative (idx : ℕ) (quantity : Value ℚ) (ticker : Json)
  /-- `OverflowError`, which the provider does not catch. -/
  | overflow

/-- The name of a value's type. -/
def typeName : Json→String
  | .null => "NoneType"
  | .bool _ => "bool"
  | .int _ => "int"
  | .float _ => "float"
  | .str _ => "str"
  | .array _ => "list"
  | .object _ => "dict"

/-- The text of an error, with `repr` and `str` of values and of floats. -/
def ProviderError.message (repr str : Json→String) (floatText : Value ℚ→String) :
    ProviderError→String
  | .upstream text => "KIS upstream error: "++text
  | .responseType response => "unexpected response type: "++typeName response
  | .rowsType rows => "output1 must be list, got "++typeName rows
  | .rowType idx row => "output1["++toString idx++"] is not a dict: "++typeName row
  | .missingField idx => "output1["++toString idx++"] missing required field (pdno/hldg_qty)"
  | .notNumeric idx quantity =>
    "output1["++toString idx++"] non-numeric quantity: "++repr quantity
  | .negative idx quantity ticker =>
    "output1["++toString idx++"] negative quantity "++floatText quantity++" for "++str ticker
  | .overflow => "int too large to convert to float"

/-- A field of a row; `None` where it is missing. -/
def field (name : String) (members : List (List Char×Json)) : Json :=
  (member name.toList members).getD .null

/-- One row of `_parse`, whose quantity replaces an earlier one of the ticker. -/
def parseRow (reading : FieldReading) (idx : ℕ) (row : Json) (positions : PositionMap) :
    Except ProviderError PositionMap :=
  match row with
  | .object members =>
    match field "pdno" members,field "hldg_qty" members with
    | .null,_ => .error (.missingField idx)
    | _,.null => .error (.missingField idx)
    | ticker,raw =>
      match reading.float raw with
      | .error .notNumeric => .error (.notNumeric idx raw)
      | .error .overflow => .error .overflow
      | .ok quantity =>
        if quantity.below (.number 0)=true then .error (.negative idx quantity ticker)
        else if quantity=.number 0 then .ok positions
        else .ok (positions.set (reading.ticker ticker) quantity)
  | _ => .error (.rowType idx row)

/-- The loop of `_parse`. -/
def parseRows (reading : FieldReading) : ℕ→List Json→PositionMap→Except ProviderError PositionMap
  | _,[],positions => .ok positions
  | idx,row::rows,positions =>
    match parseRow reading idx row positions with
    | .error e => .error e
    | .ok next => parseRows reading (idx+1) rows next

/-- `KISBrokerPositionProvider._parse`. -/
def parse (reading : FieldReading) (response : Json) : Except ProviderError PositionMap :=
  match response with
  | .object members =>
    match field "output1" members with
    | .null => .ok Dict.empty
    | .array rows => parseRows reading 0 rows Dict.empty
    | rows => .error (.rowsType rows)
  | _ => .error (.responseType response)

/-- `KISBrokerPositionProvider.get_positions`, of the response or the exception of
`get_kr_balance`. -/
def brokerPositions (reading : FieldReading) (response : Except String Json) :
    Except ProviderError PositionMap :=
  match response with
  | .error text => .error (.upstream text)
  | .ok response => parse reading response

/-- The dictionary that `get_positions` of a ledger returns. -/
structure Snapshot (ledger : Ledger) where
  /-- The dictionary, in any order. -/
  positions : Dict String ℚ
  /-- It has the positions of the ledger. -/
  same : ∀ ticker,positions.get? ticker=ledger.getPositions ticker

/-- `LedgerPositionProvider.get_positions`. -/
def Snapshot.internalPositions {ledger : Ledger} (snapshot : Snapshot ledger) : PositionMap :=
  snapshot.positions.mapItems fun _ quantity => .number quantity

/-- An entry of `mismatches`. -/
structure Mismatch where
  /-- `ticker`. -/
  ticker : String
  /-- `broker_qty`. -/
  brokerQty : Value ℚ
  /-- `internal_qty`. -/
  internalQty : Value ℚ
  /-- `difference`. -/
  difference : Value ℚ

/-- `ReconciliationResult`, without its time, which nothing reads. -/
structure ReconciliationResult where
  /-- `matched`. -/
  matched : Bool
  /-- `mismatches`. -/
  mismatches : List Mismatch
  /-- `broker_total`. -/
  brokerTotal : Value ℚ
  /-- `internal_total`. -/
  internalTotal : Value ℚ

/-- The difference of two quantities that still counts as none. -/
def tolerance : ℚ := 0.000001

/-- The quantities differ by more than the tolerance. -/
def differs (brokerQty internalQty : Value ℚ) : Bool :=
  (Value.number tolerance).below (brokerQty-internalQty).abs

/-- The mismatch of a ticker, if there is one. -/
def mismatch (broker internal : PositionMap) (ticker : String) : Option Mismatch :=
  if differs (quantityOf broker ticker) (quantityOf internal ticker)=true then
    some ⟨ticker,quantityOf broker ticker,quantityOf internal ticker,
      quantityOf broker ticker-quantityOf internal ticker⟩
  else none

/-- The tickers of either side. -/
def allTickers (broker internal : PositionMap) : List String :=
  broker.keys++internal.keys.filter fun ticker => decide (ticker∉broker.keys)

/-- `sum` of the quantities. -/
def total (positions : PositionMap) : Value ℚ := positions.values.foldl (·+·) (.number 0)

/-- `ReconciliationEngine.reconcile`. -/
def reconcile (broker internal : PositionMap) : ReconciliationResult :=
  let mismatches := (allTickers broker internal).filterMap (mismatch broker internal)
  ⟨mismatches.isEmpty,mismatches,total broker,total internal⟩

/-- `ReconciliationRunner`, as far as it is configured. -/
structure Runner where
  /-- `mismatch_threshold`. -/
  mismatchThreshold : ℕ
  /-- `{:.2f}`. -/
  twoDecimals : Value ℚ→String

/-- The reason of the kill switch. -/
def Runner.reason (runner : Runner) (result : ReconciliationResult) : String :=
  "Reconciliation mismatch: "++toString result.mismatches.length++"건 (임계 "++
    toString runner.mismatchThreshold++") ledger_diff="++
    runner.twoDecimals (result.brokerTotal-result.internalTotal).abs

/-- `ReconciliationRunner.run` after its two providers: the result or the error, and
the guard. -/
def Runner.run (runner : Runner) (broker : Except ProviderError PositionMap)
    (internal : PositionMap) (guard : TradingGuardState) :
    Except ProviderError ReconciliationResult×TradingGuardState :=
  match broker with
  | .error e => (.error e,guard)
  | .ok broker =>
    let result := reconcile broker internal
    if result.matched=true then (.ok result,guard)
    else if runner.mismatchThreshold< result.mismatches.length then
      (.ok result,activateKillSwitch (runner.reason result) guard)
    else (.ok result,guard)

/-- The run has found no mismatch and the kill switch is off. -/
def MatchedAndOff (outcome : Except ProviderError ReconciliationResult×TradingGuardState) : Prop :=
  (∃ result,outcome.1=.ok result ∧ result.matched=true) ∧ outcome.2.killSwitchOn=false

variable {broker internal : PositionMap} {guard : TradingGuardState} {ticker : String}

/-- Without a position on either side a ticker does not differ. -/
theorem not_differs_of_not_mem (h : ticker∉allTickers broker internal) :
    differs (quantityOf broker ticker) (quantityOf internal ticker)=false := by
  have hparts := mt List.mem_append.mpr h
  have hbroker : ticker∉broker.keys := fun hmem => hparts (.inl hmem)
  have hinternal : ticker∉internal.keys := by
    intro hmem
    exact hparts (.inr (List.mem_filter.mpr ⟨hmem,decide_eq_true hbroker⟩))
  unfold quantityOf
  rw [broker.get?_eq_none.mpr hbroker,internal.get?_eq_none.mpr hinternal]
  decide +kernel

/-- The comparison matches exactly when no ticker differs. -/
theorem reconcile_matched_iff (broker internal : PositionMap) :
    (reconcile broker internal).matched=true↔
      ∀ ticker,differs (quantityOf broker ticker) (quantityOf internal ticker)=false := by
  unfold reconcile
  dsimp only
  rw [List.isEmpty_iff,List.filterMap_eq_nil_iff]
  constructor
  · intro hnone ticker
    by_cases hmem : ticker∈allTickers broker internal
    · have hmismatch := hnone ticker hmem
      unfold mismatch at hmismatch
      split at hmismatch
      · cases hmismatch
      · rename_i hsame
        exact Bool.not_eq_true _ ▸ hsame
    · exact not_differs_of_not_mem hmem
  · intro hsame ticker _
    unfold mismatch
    rw [hsame ticker]
    exact if_neg Bool.false_ne_true

/-- With positions on both sides a run ends well exactly when no ticker differs. -/
theorem run_matched_iff (runner : Runner) (hoff : guard.killSwitchOn=false) :
    MatchedAndOff (runner.run (.ok broker) internal guard)↔
      ∀ ticker,differs (quantityOf broker ticker) (quantityOf internal ticker)=false := by
  rw [← reconcile_matched_iff]
  unfold Runner.run MatchedAndOff
  dsimp only
  by_cases hmatched : (reconcile broker internal).matched=true
  · rw [if_pos hmatched]
    exact iff_of_true ⟨⟨_,rfl,hmatched⟩,hoff⟩ hmatched
  · rw [if_neg hmatched]
    refine iff_of_false ?_ hmatched
    rintro ⟨⟨result,hresult,htrue⟩,_⟩
    have hsame : reconcile broker internal=result := by
      split at hresult
      · exact Except.ok.inj hresult
      · exact Except.ok.inj hresult
    exact hmatched (hsame ▸ htrue)

/-- A snapshot has the quantities of its ledger. -/
theorem Snapshot.quantityOf {ledger : Ledger} (snapshot : Snapshot ledger) (ticker : String) :
    quantityOf snapshot.internalPositions ticker=.number (ledger.position ticker) := by
  unfold Reconciliation.quantityOf Snapshot.internalPositions Ledger.position
  rw [Dict.get?_mapItems,snapshot.same,ledger.getPositions_eq]
  cases ledger.positions ticker with
  | none => rfl
  | some quantity => rfl

end Aqts.Reconciliation
