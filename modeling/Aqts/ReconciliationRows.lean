import Aqts.GroupTotals
import Aqts.ReconciliationRuns

/-!
# Several rows of one ticker

The balance may have several rows for a ticker, of holdings in cash and on credit.
`_parse` assigns every quantity to the ticker, so that of several rows with a quantity
the last one stays. What the rows hold together is what the map has exactly when each
ticker has one row with a quantity at most, apart from floats that absorb what is added
to them.
-/

namespace Aqts.Reconciliation

open Dictionary PandasSeries
open JsonText hiding Text

section Floats

variable {K : Type*} [Field K]

/-- `nan` absorbs what is added to it. -/
@[simp] theorem missing_add (v : Value K) : .missing+v=(.missing : Value K) := rfl

/-- On either side. -/
@[simp] theorem add_missing (v : Value K) : v+.missing=(.missing : Value K) := by
  cases v with
  | missing => rfl
  | infinite a => rfl
  | number x => rfl

/-- Two infinities. -/
@[simp] theorem infinite_add_infinite (a b : Bool) :
    (.infinite a+.infinite b : Value K)=if a=b then .infinite a else .missing := rfl

/-- An infinity and a number. -/
@[simp] theorem infinite_add_number (a : Bool) (x : K) :
    (.infinite a+.number x : Value K)=.infinite a := rfl

/-- A number and an infinity. -/
@[simp] theorem number_add_infinite (x : K) (a : Bool) :
    (.number x+.infinite a : Value K)=.infinite a := rfl

/-- Two numbers. -/
@[simp] theorem number_add_number (x y : K) :
    (.number x+.number y : Value K)=.number (x+y) := rfl

/-- The sum does not depend on the order. -/
theorem value_add_comm (v w : Value K) : v+w=w+v := by
  cases v with
  | missing => rw [missing_add,add_missing]
  | infinite a =>
    cases w with
    | missing => rfl
    | infinite b => cases a <;> cases b <;> rfl
    | number y => rfl
  | number x =>
    cases w with
    | missing => rfl
    | infinite b => rfl
    | number y => rw [number_add_number,number_add_number,add_comm]

/-- Nor on the brackets. -/
theorem value_add_assoc (u v w : Value K) : u+v+w=u+(v+w) := by
  cases u with
  | missing => rfl
  | infinite a =>
    cases v with
    | missing => rfl
    | infinite b =>
      cases w with
      | missing => rw [add_missing,add_missing,add_missing]
      | infinite c => cases a <;> cases b <;> cases c <;> rfl
      | number z => cases a <;> cases b <;> rfl
    | number y => cases w <;> rfl
  | number x =>
    cases v with
    | missing => rfl
    | infinite b =>
      cases w with
      | missing => rfl
      | infinite c => cases b <;> cases c <;> rfl
      | number z => rfl
    | number y => cases w <;> simp [add_assoc]

instance : Zero (Value K) where
  zero := .number 0

instance : AddCommMonoid (Value K) where
  add_assoc := value_add_assoc
  zero_add v := by
    change .number 0+v=v
    cases v <;> simp
  add_zero v := by
    change v+.number 0=v
    cases v <;> simp
  add_comm := value_add_comm
  nsmul := nsmulRec

end Floats

/-- The ticker and the quantity of a row that has both. -/
def readFields (reading : FieldReading) (idx : ℕ) (ticker raw : Json) :
    Except ProviderError (String×Value ℚ) :=
  match reading.float raw with
  | .error .notNumeric => .error (.notNumeric idx raw)
  | .error .overflow => .error .overflow
  | .ok quantity =>
    if quantity.below (.number 0)=true then .error (.negative idx quantity ticker)
    else .ok (reading.ticker ticker,quantity)

/-- `is None`. -/
def isNone : Json→Bool
  | .null => true
  | _ => false

/-- Only `None` is. -/
theorem isNone_of_ne {value : Json} (h : value=.null→False) : isNone value=false := by
  cases value with
  | null => exact absurd rfl h
  | _ => rfl

/-- One row: its ticker and its quantity. -/
def readRow (reading : FieldReading) (idx : ℕ) (row : Json) :
    Except ProviderError (String×Value ℚ) :=
  match row with
  | .object members =>
    if (isNone (field "pdno" members) || isNone (field "hldg_qty" members))=true then
      .error (.missingField idx)
    else readFields reading idx (field "pdno" members) (field "hldg_qty" members)
  | _ => .error (.rowType idx row)

/-- The rows, up to the first one that cannot be read. -/
def readRows (reading : FieldReading) : ℕ→List Json→Except ProviderError (List (String×Value ℚ))
  | _,[] => .ok []
  | idx,row::rows =>
    match readRow reading idx row with
    | .error e => .error e
    | .ok entry => (readRows reading (idx+1) rows).map fun entries => entry::entries

/-- What the rows hold of a ticker together. -/
def rowTotal (entries : List (String×Value ℚ)) (ticker : String) : Value ℚ :=
  (valuesOf entries ticker).sum

/-- The quantities of a ticker that are not zero. -/
def holdings (entries : List (String×Value ℚ)) (ticker : String) : List (Value ℚ) :=
  (valuesOf entries ticker).filter fun quantity => quantity≠.number 0

/-- One quantity at most, or a last one that absorbs the others: `nan`, or an infinity
without a `nan`. -/
def LastIsAll (quantities : List (Value ℚ)) : Prop :=
  quantities.length≤1 ∨ quantities.getLast?=some .missing ∨
    quantities.getLast?=some (.infinite false) ∧ .missing∉quantities

/-- The map has what the rows hold together: of every ticker, in total, and in every
comparison with the ledger. -/
structure Conserved (entries : List (String×Value ℚ)) (positions : PositionMap) : Prop where
  /-- Of every ticker. -/
  quantities : ∀ ticker,quantityOf positions ticker=rowTotal entries ticker
  /-- In total. -/
  sums : total positions=(entries.map Prod.snd).sum
  /-- In every comparison. -/
  reported : ∀ internal ticker,
    ticker∈(reconcile positions internal).mismatches.map Mismatch.ticker↔
      differs (rowTotal entries ticker) (quantityOf internal ticker)=true

/-- `_parse` raises `BrokerPositionParseError` or has what the rows hold together. -/
def RaisesOrConserves (reading : FieldReading) (rows : List Json)
    (outcome : Except ProviderError PositionMap) : Prop :=
  (∃ e,outcome=.error e ∧ e≠.overflow) ∨
    ∃ positions entries,outcome=.ok positions ∧ readRows reading 0 rows=.ok entries ∧
      Conserved entries positions

section Sums

/-- A float above zero, or `nan`. -/
def Positive (v : Value ℚ) : Prop := v=.missing ∨ v=.infinite false ∨ ∃ x,0<x ∧ v=.number x

/-- What is neither below zero nor zero. -/
theorem positive_of_not_below {v : Value ℚ} (hbelow : v.below (.number 0)≠true)
    (hzero : v≠.number 0) : Positive v := by
  cases v with
  | missing => exact .inl rfl
  | infinite a =>
    cases a with
    | false => exact .inr (.inl rfl)
    | true => exact absurd rfl hbelow
  | number x =>
    have hneg : ¬x<0 := fun h => hbelow (decide_eq_true h)
    have hne : x≠0 := fun h => hzero (by rw [h])
    exact .inr (.inr ⟨x,lt_of_le_of_ne (not_lt.mp hneg) hne.symm,rfl⟩)

/-- A positive sum, which is `nan` only if one of the two is. -/
theorem positive_add {v w : Value ℚ} (hv : Positive v) (hw : Positive w) :
    Positive (v+w) ∧ (v+w=.missing↔v=.missing ∨ w=.missing) := by
  rcases hv with rfl | rfl | ⟨x,hx,rfl⟩
  · exact ⟨.inl rfl,by simp⟩
  · rcases hw with rfl | rfl | ⟨y,hy,rfl⟩
    · exact ⟨.inl rfl,by simp⟩
    · exact ⟨.inr (.inl rfl),by simp⟩
    · exact ⟨.inr (.inl rfl),by simp⟩
  · rcases hw with rfl | rfl | ⟨y,hy,rfl⟩
    · exact ⟨.inl rfl,by simp⟩
    · exact ⟨.inr (.inl rfl),by simp⟩
    · exact ⟨.inr (.inr ⟨x+y,add_pos hx hy,rfl⟩),by simp⟩

/-- The sum of some positive floats is positive. -/
theorem positive_sum {quantities : List (Value ℚ)} (h : ∀ quantity∈quantities,Positive quantity)
    (hne : quantities≠[]) : Positive quantities.sum := by
  induction quantities with
  | nil => exact absurd rfl hne
  | cons first rest ih =>
    have hfirst := h first List.mem_cons_self
    rw [List.sum_cons]
    by_cases hrest : rest=[]
    · rw [hrest,List.sum_nil,add_zero]
      exact hfirst
    · exact (positive_add hfirst (ih (fun q hq => h q (List.mem_cons_of_mem _ hq)) hrest)).1

/-- It is `nan` exactly if one of them is. -/
theorem sum_eq_missing {quantities : List (Value ℚ)}
    (h : ∀ quantity∈quantities,Positive quantity) :
    quantities.sum=.missing↔.missing∈quantities := by
  induction quantities with
  | nil =>
    rw [List.sum_nil]
    exact iff_of_false (fun heq => by cases heq) List.not_mem_nil
  | cons first rest ih =>
    have hfirst := h first List.mem_cons_self
    have hothers : ∀ q∈rest,Positive q := fun q hq => h q (List.mem_cons_of_mem _ hq)
    rw [List.sum_cons,List.mem_cons,←ih hothers]
    by_cases hrest : rest=[]
    · subst hrest
      rw [List.sum_nil,add_zero]
      have hzero : (0 : Value ℚ)≠.missing := fun heq => by cases heq
      simp [hzero,eq_comm]
    · rw [(positive_add hfirst (positive_sum hothers hrest)).2,eq_comm (a := first)]

/-- The last of some positive floats is their sum exactly if it is all there is. -/
theorem getLast_eq_sum {quantities : List (Value ℚ)}
    (h : ∀ quantity∈quantities,Positive quantity) :
    quantities.getLast?.getD (.number 0)=quantities.sum↔LastIsAll quantities := by
  rcases List.eq_nil_or_concat quantities with rfl | ⟨before,last,rfl⟩
  · exact iff_of_true rfl (.inl (by simp))
  have hbefore : ∀ q∈before,Positive q :=
    fun q hq => h q (by rw [List.concat_eq_append]; exact List.mem_append_left _ hq)
  have hlast : Positive last := h last (by simp)
  unfold LastIsAll
  rw [List.concat_eq_append,List.sum_append,List.sum_singleton,List.getLast?_append,
    List.getLast?_singleton,Option.some_or,Option.getD_some,List.length_append,
    List.length_singleton,List.mem_append,List.mem_singleton]
  by_cases hempty : before=[]
  · subst hempty
    simp
  have hlength : 0<before.length := List.length_pos_of_ne_nil hempty
  have hmissing := sum_eq_missing hbefore
  have hlong : ¬before.length+1≤1 := by omega
  have hcases := positive_sum hbefore hempty
  rcases hlast with rfl | rfl | ⟨y,-,rfl⟩
  · simp
  · rcases hcases with hs | hs | ⟨x,-,hs⟩
    · have hmem := hmissing.mp hs
      rw [hs]
      simp [hmem,hlong]
    · have hnot : .missing∉before := fun hmem => by
        rw [hmissing.mpr hmem] at hs
        cases hs
      rw [hs]
      simp [hnot]
    · have hnot : .missing∉before := fun hmem => by
        rw [hmissing.mpr hmem] at hs
        cases hs
      rw [hs]
      simp [hnot]
  · rcases hcases with hs | hs | ⟨x,hx,hs⟩
    · rw [hs]
      simp [hempty]
    · rw [hs]
      simp [hempty]
    · rw [hs]
      simp [hempty,hx.ne']

end Sums

variable {reading : FieldReading} {entries : List (String×Value ℚ)}

/-- A row of `_parse` is read and, unless its quantity is zero, assigned. -/
theorem parseRow_eq (reading : FieldReading) (idx : ℕ) (row : Json) (positions : PositionMap) :
    parseRow reading idx row positions=(readRow reading idx row).map fun entry =>
      if entry.2≠.number 0 then positions.set entry.1 entry.2 else positions := by
  unfold parseRow readRow
  cases row with
  | object members =>
    dsimp only
    split
    · rename_i hticker
      rw [hticker]
      rfl
    · rename_i hraw _
      rw [hraw,show isNone .null=true from rfl,Bool.or_true,if_pos rfl]
      rfl
    · rename_i hticker hraw
      rw [isNone_of_ne hticker,isNone_of_ne hraw,Bool.or_false,if_neg Bool.false_ne_true]
      unfold readFields
      cases reading.float (field "hldg_qty" members) with
      | error e => cases e <;> rfl
      | ok quantity =>
        dsimp only
        by_cases hbelow : quantity.below (.number 0)=true
        · rw [if_pos hbelow,if_pos hbelow]
          rfl
        · rw [if_neg hbelow,if_neg hbelow]
          dsimp only [Except.map]
          rw [ite_not]
          by_cases hzero : quantity=.number 0
          · rw [if_pos hzero,if_pos hzero]
          · rw [if_neg hzero,if_neg hzero]
  | _ => rfl

/-- The loop of `_parse` reads the rows and assigns what is not zero. -/
theorem parseRows_eq (reading : FieldReading) (idx : ℕ) (rows : List Json)
    (positions : PositionMap) :
    parseRows reading idx rows positions=(readRows reading idx rows).map fun entries =>
      (entries.filter fun entry => entry.2≠.number 0).foldl
        (fun d entry => d.set entry.1 entry.2) positions := by
  induction rows generalizing idx positions with
  | nil => rfl
  | cons row rest ih =>
    rw [parseRows,readRows,parseRow_eq]
    cases readRow reading idx row with
    | error e => rfl
    | ok entry =>
      dsimp only [Except.map]
      rw [ih]
      cases readRows reading (idx+1) rest with
      | error e => rfl
      | ok entries =>
        dsimp only [Except.map]
        rw [List.filter_cons]
        by_cases hzero : entry.2=.number 0
        · simp [hzero]
        · simp [hzero]

/-- No row that is read has a quantity below zero. -/
theorem readRow_nonneg {idx : ℕ} {row : Json} {entry : String×Value ℚ}
    (h : readRow reading idx row=.ok entry) : entry.2.below (.number 0)≠true := by
  unfold readRow readFields at h
  cases row with
  | object members =>
    dsimp only at h
    split at h
    · cases h
    · split at h
      · cases h
      · cases h
      · split at h
        · cases h
        · rename_i hbelow
          cases h
          exact hbelow
  | _ => cases h

/-- So it is with all rows. -/
theorem readRows_nonneg {idx : ℕ} {rows : List Json} (h : readRows reading idx rows=.ok entries) :
    ∀ entry∈entries,entry.2.below (.number 0)≠true := by
  induction rows generalizing idx entries with
  | nil =>
    cases h
    simp
  | cons row rest ih =>
    rw [readRows] at h
    cases hrow : readRow reading idx row with
    | error e =>
      rw [hrow] at h
      cases h
    | ok first =>
      rw [hrow] at h
      cases hrest : readRows reading (idx+1) rest with
      | error e =>
        rw [hrest] at h
        cases h
      | ok others =>
        rw [hrest] at h
        cases h
        intro entry hentry
        rcases List.mem_cons.mp hentry with rfl | hmem
        · exact readRow_nonneg hrow
        · exact ih hrest entry hmem

/-- The map of some entries. -/
def assigned (entries : List (String×Value ℚ)) : PositionMap :=
  (entries.filter fun entry => entry.2≠.number 0).foldl
    (fun d entry => d.set entry.1 entry.2) Dict.empty

/-- The map has the last quantity of a ticker that is not zero. -/
theorem quantityOf_assigned (entries : List (String×Value ℚ)) (ticker : String) :
    quantityOf (assigned entries) ticker=(holdings entries ticker).getLast?.getD (.number 0) := by
  have hvalues : valuesOf (entries.filter fun entry => entry.2≠.number 0) ticker=
      holdings entries ticker := by
    unfold holdings valuesOf
    rw [List.filter_map,List.filter_filter,List.filter_filter]
    refine congrArg _ (List.filter_congr fun entry _ => ?_)
    exact Bool.and_comm _ _
  have hempty : (Dict.empty : PositionMap).get? ticker=none := rfl
  unfold quantityOf assigned
  rw [get?_foldl_set_last,hvalues,hempty,Option.or_none]

/-- Zeros do not count in what the rows hold together. -/
theorem rowTotal_eq (entries : List (String×Value ℚ)) (ticker : String) :
    rowTotal entries ticker=(holdings entries ticker).sum := by
  have hfilter : ∀ quantities : List (Value ℚ),quantities.sum=
      (quantities.filter fun quantity => quantity≠.number 0).sum := by
    intro quantities
    induction quantities with
    | nil => rfl
    | cons first rest ih =>
      rw [List.filter_cons]
      by_cases hzero : first=.number 0
      · have hadd : (.number 0 : Value ℚ)+rest.sum=rest.sum := zero_add _
        simp only [hzero,ne_eq,not_true_eq_false,decide_false,Bool.false_eq_true,if_false,
          List.sum_cons]
        rw [hadd,ih]
      · simp only [hzero,ne_eq,not_false_eq_true,decide_true,if_true,List.sum_cons]
        rw [ih]
  exact hfilter _

/-- A comparison lists exactly the tickers whose quantities differ. -/
theorem mem_mismatches (broker internal : PositionMap) (ticker : String) :
    ticker∈(reconcile broker internal).mismatches.map Mismatch.ticker↔
      differs (quantityOf broker ticker) (quantityOf internal ticker)=true := by
  unfold reconcile
  dsimp only
  rw [List.mem_map]
  constructor
  · rintro ⟨m,hm,rfl⟩
    obtain ⟨other,-,hother⟩ := List.mem_filterMap.mp hm
    unfold mismatch at hother
    split at hother
    · rename_i hdiffers
      cases hother
      exact hdiffers
    · cases hother
  · intro hdiffers
    have hmem : ticker∈allTickers broker internal := by
      by_contra hnot
      rw [not_differs_of_not_mem hnot] at hdiffers
      cases hdiffers
    refine ⟨_,List.mem_filterMap.mpr ⟨ticker,hmem,if_pos hdiffers⟩,rfl⟩

/-- The map of the entries has what they hold together exactly when of every ticker the
last quantity is all there is. -/
theorem conserved_assigned (hnonneg : ∀ entry∈entries,entry.2.below (.number 0)≠true) :
    Conserved entries (assigned entries)↔∀ ticker,LastIsAll (holdings entries ticker) := by
  have hpositive : ∀ ticker,∀ quantity∈holdings entries ticker,Positive quantity := by
    intro ticker quantity hquantity
    obtain ⟨hmem,hzero⟩ := List.mem_filter.mp hquantity
    obtain ⟨entry,hentry,rfl⟩ := List.mem_map.mp hmem
    exact positive_of_not_below (hnonneg entry (List.mem_filter.mp hentry).1)
      (of_decide_eq_true hzero)
  have heach : ∀ ticker,quantityOf (assigned entries) ticker=rowTotal entries ticker↔
      LastIsAll (holdings entries ticker) := by
    intro ticker
    rw [quantityOf_assigned,rowTotal_eq]
    exact getLast_eq_sum (hpositive ticker)
  refine ⟨fun h ticker => (heach ticker).mp (h.quantities ticker),fun h => ?_⟩
  have hquantities := fun ticker => (heach ticker).mpr (h ticker)
  refine ⟨hquantities,?_,fun internal ticker => ?_⟩
  · have hkeys : ∀ entry∈entries,entry.1∉(assigned entries).keys→entry.2=0 := by
      intro entry hentry hnot
      by_contra hzero
      have hmem : entry.2∈holdings entries entry.1 :=
        List.mem_filter.mpr ⟨List.mem_map.mpr
          ⟨entry,List.mem_filter.mpr ⟨hentry,decide_eq_true rfl⟩,rfl⟩,decide_eq_true hzero⟩
      have hnone := quantityOf_assigned entries entry.1
      unfold quantityOf at hnone
      rw [(assigned entries).get?_eq_none.mpr hnot] at hnone
      have hlast := List.getLast?_eq_some_getLast (List.ne_nil_of_mem hmem)
      rw [hlast] at hnone
      have hin := List.getLast_mem (List.ne_nil_of_mem hmem)
      have hpos := (List.mem_filter.mp hin).2
      rw [←show _=(holdings entries entry.1).getLast _ from hnone] at hpos
      exact of_decide_eq_true hpos rfl
    have hsum := sum_valuesOf (assigned entries).nodup hkeys
    have hsame : ∀ ticker∈(assigned entries).keys,
        (valuesOf entries ticker).sum=(assigned entries).value ticker :=
      fun ticker _ => (hquantities ticker).symm
    have htotal : total (assigned entries)=(assigned entries).values.sum :=
      List.sum_eq_foldl.symm
    rw [htotal,sum_values,←hsum]
    exact congrArg List.sum (List.map_congr_left fun ticker hticker => (hsame ticker hticker).symm)
  · rw [mem_mismatches,hquantities ticker]

/-- `_parse` raises its error or has what the rows hold together exactly when it reaches no
quantity too large for a float and, where all rows can be read, no ticker has two rows with a
quantity, unless the last one absorbs the others. -/
theorem parse_conserves {members : List (List Char×Json)} {rows : List Json}
    (hrows : field "output1" members=.array rows) :
    RaisesOrConserves reading rows (parse reading (.object members))↔
      readRows reading 0 rows≠.error .overflow ∧ ∀ entries,readRows reading 0 rows=.ok entries→
        ∀ ticker,LastIsAll (holdings entries ticker) := by
  have hparse : parse reading (.object members)=(readRows reading 0 rows).map assigned := by
    unfold parse
    dsimp only
    rw [hrows]
    exact parseRows_eq reading 0 rows Dict.empty
  unfold RaisesOrConserves
  rw [hparse]
  cases hread : readRows reading 0 rows with
  | error e =>
    dsimp only [Except.map]
    constructor
    · rintro (⟨raised,hraised,hne⟩ | ⟨positions,entries,hok,-⟩)
      · refine ⟨?_,fun entries hentries => by cases hentries⟩
        intro heq
        rw [Except.error.inj hraised] at heq
        exact hne (Except.error.inj heq)
      · cases hok
    · rintro ⟨hne,-⟩
      exact .inl ⟨e,rfl,fun heq => hne (by rw [heq])⟩
  | ok entries =>
    dsimp only [Except.map]
    have hconserved := conserved_assigned (readRows_nonneg hread)
    constructor
    · rintro (⟨raised,hraised,-⟩ | ⟨positions,others,hok,hothers,hall⟩)
      · cases hraised
      · refine ⟨by simp,fun found hfound => ?_⟩
        cases hfound
        cases hothers
        cases hok
        exact hconserved.mp hall
    · rintro ⟨-,hall⟩
      exact .inr ⟨_,entries,rfl,rfl,hconserved.mpr (hall entries rfl)⟩

/-- With one quantity in all, no ticker has more. -/
theorem lastIsAll_of_one
    (h : ((entries.map Prod.snd).filter fun quantity => quantity≠.number 0).length≤1)
    (ticker : String) : LastIsAll (holdings entries ticker) := by
  have hsub : (valuesOf entries ticker).Sublist (entries.map Prod.snd) :=
    List.filter_sublist.map Prod.snd
  exact .inl ((hsub.filter _).length_le.trans h)

/-- A row of the balance. -/
def balanceRow (ticker quantity : String) : Json :=
  .object [("pdno".toList,.str ticker.toList),("hldg_qty".toList,.str quantity.toList)]

/-- A balance with a row that has no quantity left beside one that has. -/
theorem parse_conserves_sold :
    RaisesOrConserves digitReading [balanceRow "005930" "10",balanceRow "005930" "0"]
      (parse digitReading (.object [("output1".toList,
        .array [balanceRow "005930" "10",balanceRow "005930" "0"])])) := by
  refine (parse_conserves rfl).mpr ⟨?_,fun entries hentries ticker => ?_⟩
  · intro h
    cases h
  · refine lastIsAll_of_one ?_ ticker
    cases hentries
    decide +kernel

/-- Shares in cash and on credit: the second row hides the first one. -/
theorem not_conserves_credit :
    ¬∀ (reading : FieldReading) (members : List (List Char×Json)) (rows : List Json),
      field "output1" members=.array rows→
        RaisesOrConserves reading rows (parse reading (.object members)) := by
  intro h
  have hcase := h digitReading
    [("output1".toList,.array [balanceRow "005930" "10",balanceRow "005930" "5"])] _ rfl
  rcases hcase with ⟨e,he,-⟩ | ⟨positions,entries,hpositions,hentries,hconserved⟩
  · cases he
  · have hfive : (parse digitReading (.object [("output1".toList,
        .array [balanceRow "005930" "10",balanceRow "005930" "5"])])).toOption.map
          (fun positions => quantityOf positions "005930")=some (.number 5) := by decide +kernel
    have hfifteen : (readRows digitReading 0
        [balanceRow "005930" "10",balanceRow "005930" "5"]).toOption.map
          (fun entries => rowTotal entries "005930")=some (.number 15) := by decide +kernel
    rw [hpositions] at hfive
    rw [hentries] at hfifteen
    have hsame := hconserved.quantities "005930"
    have hbroker : quantityOf positions "005930"=.number 5 := Option.some.inj hfive
    have hheld : rowTotal entries "005930"=.number 15 := Option.some.inj hfifteen
    rw [hbroker,hheld] at hsame
    exact absurd hsame (by decide +kernel)

end Aqts.Reconciliation
