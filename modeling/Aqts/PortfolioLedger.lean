import Aqts.OrderTypes
import Mathlib.Algebra.Order.Ring.Rat

/-!
# The position ledger

`core.portfolio_ledger`: the cached positions that the reconciliation compares
with the broker. A position is removed when it becomes zero and never becomes
negative, which the ledger carries as a field. The repository enters as the
exception it may raise before it commits.
-/

namespace Aqts.PortfolioLedger

open OrderTypes

/-- The characters that `str.strip` removes. -/
def isSpace (c : Char) : Bool :=
  (9 ≤ c.toNat && c.toNat≤13) || (28 ≤ c.toNat && c.toNat≤32) || c.toNat=0x85 || c.toNat=0xA0 ||
    c.toNat=0x1680 || (0x2000 ≤ c.toNat && c.toNat≤0x200A) || c.toNat=0x2028 ||
    c.toNat=0x2029 || c.toNat=0x202F || c.toNat=0x205F || c.toNat=0x3000

/-- A text that is empty after `strip`. -/
def isBlank (text : String) : Bool := text.toList.all isSpace

/-- Exceptions of `record_fill`. -/
inductive LedgerError
  /-- `ValueError` for a blank ticker. -/
  | blankTicker
  /-- `ValueError` for a quantity that is not positive. -/
  | quantityNotPositive (quantity : ℚ)
  /-- `LedgerInvariantError` for a position that would become negative. -/
  | refused (ticker : String) (current delta : ℚ)
  /-- An exception of the repository before its commit. -/
  | repository (text : String)
  deriving DecidableEq

/-- Text of an exception, with the text Python gives a float. -/
def LedgerError.message (floatText : ℚ→String) : LedgerError→String
  | .blankTicker => "ticker must be a non-empty string"
  | .quantityNotPositive quantity => "quantity must be > 0, got "++floatText quantity
  | .refused ticker current delta =>
    "ledger refuses to record short position for "++ticker++": current="++floatText current++
      " delta="++floatText delta++" → "++floatText (current+delta)
  | .repository text => text

/-- `PortfolioLedger`: the cached positions. -/
structure Ledger where
  /-- Quantity of each held ticker. -/
  positions : String→Option ℚ
  /-- Held quantities are positive. -/
  positive : ∀ ticker quantity,positions ticker=some quantity→0<quantity

/-- The ledger without positions. -/
def Ledger.empty : Ledger := ⟨fun _ => none,fun _ _ h => by cases h⟩

/-- `_positions.get(ticker, 0.0)`. -/
def Ledger.position (ledger : Ledger) (ticker : String) : ℚ := (ledger.positions ticker).getD 0

/-- Quantity with the sign of its side. -/
def signed : OrderSide→ℚ→ℚ
  | .buy,quantity => quantity
  | .sell,quantity => -quantity

/-- The cache with a new quantity; zero removes the ticker. -/
def Ledger.put (ledger : Ledger) (ticker : String) (quantity : ℚ) (h : 0≤quantity) : Ledger where
  positions := Function.update ledger.positions ticker
    (if quantity=0 then none else some quantity)
  positive := by
    intro other held hheld
    by_cases heq : other=ticker
    · rw [heq,Function.update_self] at hheld
      split at hheld
      · cases hheld
      · rename_i hne
        have hsame : quantity=held := Option.some.inj hheld
        rw [← hsame]
        exact lt_of_le_of_ne h (Ne.symm hne)
    · rw [Function.update_of_ne heq] at hheld
      exact ledger.positive other held hheld

/-- `record_fill`; `failure` is the exception of a repository that cannot
commit. -/
def Ledger.recordFill (ledger : Ledger) (failure : Option String) (ticker : String)
    (side : OrderSide) (quantity : ℚ) : Except LedgerError Ledger :=
  if isBlank ticker=true then .error .blankTicker
  else if quantity≤0 then .error (.quantityNotPositive quantity)
  else
    match failure with
    | some text => .error (.repository text)
    | none =>
      if h : ledger.position ticker+signed side quantity<0 then
        .error (.refused ticker (ledger.position ticker) (signed side quantity))
      else .ok (ledger.put ticker (ledger.position ticker+signed side quantity) (not_lt.mp h))

/-- `get_positions`. -/
def Ledger.getPositions (ledger : Ledger) (ticker : String) : Option ℚ :=
  (ledger.positions ticker).filter (fun quantity => quantity≠0)

/-- `get_positions` returns every cached position. -/
theorem Ledger.getPositions_eq (ledger : Ledger) : ledger.getPositions=ledger.positions := by
  funext ticker
  unfold Ledger.getPositions
  cases h : ledger.positions ticker with
  | none => rfl
  | some quantity =>
    have hpos := ledger.positive ticker quantity h
    simp [Option.filter,hpos.ne']

/-- A new quantity is the position. -/
theorem Ledger.put_position (ledger : Ledger) (ticker : String) (quantity : ℚ)
    (h : 0≤quantity) : (ledger.put ticker quantity h).position ticker=quantity := by
  unfold Ledger.position Ledger.put
  dsimp only
  rw [Function.update_self]
  by_cases hz : quantity=0
  · rw [if_pos hz,hz]
    rfl
  · rw [if_neg hz]
    rfl

/-- A new quantity leaves other tickers alone. -/
theorem Ledger.put_position_other (ledger : Ledger) {ticker other : String} (quantity : ℚ)
    (h : 0≤quantity) (hne : other≠ticker) :
    (ledger.put ticker quantity h).position other=ledger.position other := by
  unfold Ledger.position Ledger.put
  dsimp only
  rw [Function.update_of_ne hne]

/-- A recorded fill adds its signed quantity to its ticker and to no other. -/
theorem Ledger.recordFill_position {ledger ledger' : Ledger} {failure : Option String}
    {ticker : String} {side : OrderSide} {quantity : ℚ}
    (h : ledger.recordFill failure ticker side quantity=.ok ledger') (other : String) :
    ledger'.position other=
      ledger.position other+(if ticker=other then signed side quantity else 0) := by
  unfold Ledger.recordFill at h
  by_cases hblank : isBlank ticker=true
  · rw [if_pos hblank] at h
    cases h
  · rw [if_neg hblank] at h
    by_cases hq : quantity≤0
    · rw [if_pos hq] at h
      cases h
    · rw [if_neg hq] at h
      cases failure with
      | some text => cases h
      | none =>
        dsimp only at h
        by_cases hneg : ledger.position ticker+signed side quantity<0
        · rw [dif_pos hneg] at h
          cases h
        · rw [dif_neg hneg] at h
          cases h
          by_cases heq : ticker=other
          · rw [if_pos heq,← heq]
            exact ledger.put_position ticker _ _
          · rw [if_neg heq,add_zero]
            exact ledger.put_position_other _ _ (Ne.symm heq)

/-- A fill is recorded exactly when its ticker is not blank, its quantity is
positive, the repository commits and the position stays non-negative. -/
theorem Ledger.recordFill_ok_iff (ledger : Ledger) (failure : Option String) (ticker : String)
    (side : OrderSide) (quantity : ℚ) :
    (∃ ledger',ledger.recordFill failure ticker side quantity=.ok ledger') ↔
      isBlank ticker=false ∧ 0<quantity ∧ failure=none ∧
        0 ≤ ledger.position ticker+signed side quantity := by
  unfold Ledger.recordFill
  cases hblank : isBlank ticker with
  | true => simp
  | false =>
    rw [if_neg (by decide)]
    by_cases hq : quantity≤0
    · simp [hq]
    · rw [if_neg hq]
      cases failure with
      | some text => simp
      | none =>
        by_cases hneg : ledger.position ticker+signed side quantity<0
        · simp [hneg]
        · simp [hneg,not_le.mp hq,not_lt.mp hneg]

end Aqts.PortfolioLedger
