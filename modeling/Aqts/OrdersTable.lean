import Aqts.OrderTypes
import Mathlib.Data.List.Nodup

/-!
# The orders table

The columns of `orders` that the order path writes and reads. A table is a
list of rows with distinct order numbers, which is its UNIQUE constraint; an
INSERT with a known number fails. An UPDATE by order number changes at most
one row.
-/

namespace Aqts.OrdersTable

open OrderTypes

/-- A row of `orders`. -/
structure OrderRow where
  /-- Order number, unique. -/
  orderId : String
  /-- Ticker symbol. -/
  ticker : String
  /-- Market text. -/
  market : String
  /-- Direction. -/
  side : OrderSide
  /-- Order type text. -/
  orderType : String
  /-- Ordered quantity. -/
  quantity : ℤ
  /-- Quantity filled so far. -/
  filledQuantity : ℤ
  /-- Average price of the filled quantity. -/
  filledPrice : ℚ
  /-- Status text. -/
  status : String
  /-- Instant of the insert. -/
  createdAt : ℚ
  /-- Instant of the complete fill. -/
  filledAt : Option ℚ
  /-- Error text. -/
  errorMessage : String
  deriving DecidableEq

/-- Contents of the table. -/
structure Table where
  /-- Rows in the order of their insertion. -/
  rows : List OrderRow
  /-- The UNIQUE constraint on the order number. -/
  unique : (rows.map OrderRow.orderId).Nodup

/-- The table without rows. -/
def Table.empty : Table := ⟨[],List.nodup_nil⟩

/-- SELECT by order number. -/
def Table.find (t : Table) (orderId : String) : Option OrderRow :=
  t.rows.find? (fun row => row.orderId=orderId)

/-- INSERT; none when the order number is taken. -/
def Table.insert (t : Table) (row : OrderRow) : Option Table :=
  if h : row.orderId∈t.rows.map OrderRow.orderId then none
  else some ⟨t.rows++[row],by
    rw [List.map_append,List.map_singleton]
    exact List.nodup_append.mpr ⟨t.unique,List.nodup_singleton _,by
      intro a ha b hb hab
      rw [List.mem_singleton.mp hb] at hab
      exact h (hab ▸ ha)⟩⟩

/-- An INSERT appends its row. -/
theorem Table.insert_rows {t t' : Table} {row : OrderRow} (h : t.insert row=some t') :
    t'.rows=t.rows++[row] := by
  unfold Table.insert at h
  split at h
  · cases h
  · cases h
    rfl

/-- An INSERT with a new number succeeds. -/
theorem Table.insert_new {t : Table} {row : OrderRow} (h : t.find row.orderId=none) :
    ∃ t',t.insert row=some t' := by
  unfold Table.find at h
  rw [List.find?_eq_none] at h
  unfold Table.insert
  have hnew : row.orderId∉t.rows.map OrderRow.orderId := by
    intro hmem
    obtain ⟨other,ho,hid⟩ := List.mem_map.mp hmem
    exact h other ho (decide_eq_true hid)
  rw [dif_neg hnew]
  exact ⟨_,rfl⟩

/-- A change of a row that keeps its order number. -/
structure RowChange where
  /-- The change. -/
  apply : OrderRow→OrderRow
  /-- The order number is no target of an UPDATE. -/
  keeps : ∀ row,(apply row).orderId=row.orderId

/-- An UPDATE by order number, row by row. -/
def changeRow (orderId : String) (change : RowChange) (row : OrderRow) : OrderRow :=
  if row.orderId=orderId then change.apply row else row

/-- The order numbers are left alone. -/
theorem changeRow_orderId (orderId : String) (change : RowChange) (row : OrderRow) :
    (changeRow orderId change row).orderId=row.orderId := by
  unfold changeRow
  split
  · exact change.keeps row
  · rfl

/-- UPDATE by order number. -/
def Table.update (t : Table) (orderId : String) (change : RowChange) : Table where
  rows := t.rows.map (changeRow orderId change)
  unique := by
    have hids : (t.rows.map (changeRow orderId change)).map OrderRow.orderId=
        t.rows.map OrderRow.orderId := by
      rw [List.map_map]
      exact List.map_congr_left fun row _ => changeRow_orderId orderId change row
    rw [hids]
    exact t.unique

/-- The row found has the number asked for. -/
theorem Table.find_orderId {t : Table} {orderId : String} {row : OrderRow}
    (h : t.find orderId=some row) : row.orderId=orderId := by
  have hp := List.find?_some h
  simpa using hp

/-- The row found is in the table. -/
theorem Table.find_mem {t : Table} {orderId : String} {row : OrderRow}
    (h : t.find orderId=some row) : row∈t.rows := List.mem_of_find?_eq_some h

/-- Rows with the same number are the same. -/
theorem Table.eq_of_orderId {t : Table} {a b : OrderRow} (ha : a∈t.rows) (hb : b∈t.rows)
    (h : a.orderId=b.orderId) : a=b := List.inj_on_of_nodup_map t.unique ha hb h

/-- An UPDATE changes the row of its number. -/
theorem Table.find_update_self (t : Table) (orderId : String) (change : RowChange) :
    (t.update orderId change).find orderId=(t.find orderId).map change.apply := by
  unfold Table.find Table.update
  dsimp only
  induction t.rows with
  | nil => rfl
  | cons row rows ih =>
    rw [List.map_cons,List.find?_cons,List.find?_cons]
    by_cases hid : row.orderId=orderId
    · have hnew : (changeRow orderId change row).orderId=orderId := by
        rw [changeRow_orderId,hid]
      simp only [hnew,hid,decide_true]
      unfold changeRow
      rw [if_pos hid]
      rfl
    · have hnew : (changeRow orderId change row).orderId≠orderId := by
        rwa [changeRow_orderId]
      simp only [hnew,hid,decide_false]
      exact ih

/-- An UPDATE leaves the rows of other numbers alone. -/
theorem Table.find_update_other (t : Table) {orderId other : String}
    (change : RowChange) (h : other≠orderId) :
    (t.update orderId change).find other=t.find other := by
  unfold Table.find Table.update
  dsimp only
  induction t.rows with
  | nil => rfl
  | cons row rows ih =>
    rw [List.map_cons,List.find?_cons,List.find?_cons,changeRow_orderId]
    by_cases hid : row.orderId=other
    · simp only [hid,decide_true]
      unfold changeRow
      rw [if_neg (by rwa [hid])]
    · simp only [hid,decide_false]
      exact ih

end Aqts.OrdersTable
