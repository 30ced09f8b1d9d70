import Mathlib.Data.List.Basic

/-!
# Causal functions of series

A function of series is causal when the first rows of its result are its result on the
first rows, so no row sees a later one. Rows that are changed one by one, rows of two
results that are combined, earlier rows that are read, states that are carried along
and values of the last rows are causal, and causal functions compose.
-/

namespace Aqts.CausalSeries

variable {α β γ δ σ : Type*}

/-- The first rows of the result are the result on the first rows. -/
def Causal (f : List α→List β) : Prop := ∀ n xs,(f xs).take n=f (xs.take n)

/-- A row of a causal result is one of the rows up to it. -/
theorem Causal.row {f : List α→List β} (hf : Causal f) (xs : List α) (t : ℕ) :
    (f xs)[t]?=(f (xs.take (t+1)))[t]? := by
  rw [←hf,List.getElem?_take_of_lt (Nat.lt_succ_self t)]

/-- A row of a causal result is one of the rows up to any later one. -/
theorem Causal.row_of_le {f : List α→List β} (hf : Causal f) (xs : List α) {r t : ℕ} (h : r≤t) :
    (f xs)[r]?=(f (xs.take (t+1)))[r]? := by
  rw [←hf,List.getElem?_take_of_lt (Nat.lt_succ_of_le h)]

/-- The rows themselves. -/
theorem causal_id : Causal fun xs : List α => xs := fun _ _ => rfl

/-- One causal function after the other. -/
theorem Causal.comp {g : List β→List γ} {f : List α→List β} (hg : Causal g) (hf : Causal f) :
    Causal fun xs => g (f xs) := by
  intro n xs
  rw [hg,hf]

/-- Rows that are changed one by one. -/
theorem Causal.map {f : List α→List β} (hf : Causal f) (h : β→γ) : Causal fun xs => (f xs).map h := by
  intro n xs
  rw [←List.map_take,hf]

/-- Rows that are combined. -/
theorem Causal.zipWith {f : List α→List β} {g : List α→List γ} (hf : Causal f) (hg : Causal g)
    (h : β→γ→δ) : Causal fun xs => List.zipWith h (f xs) (g xs) := by
  intro n xs
  rw [List.take_zipWith,hf,hg]

/-- A combined row is that of the two rows. -/
theorem zipWith_row {xs xs' : List α} {ys ys' : List β} {t : ℕ} (h : α→β→γ)
    (hx : xs[t]?=xs'[t]?) (hy : ys[t]?=ys'[t]?) :
    (List.zipWith h xs ys)[t]?=(List.zipWith h xs' ys')[t]? := by
  rw [List.getElem?_zipWith,List.getElem?_zipWith,hx,hy]

/-- A function is causal if it keeps the number of rows and no row moves when later rows go. -/
theorem causal_of_rows {f : List α→List β} (hlength : ∀ xs,(f xs).length=xs.length)
    (hrow : ∀ n xs i,i<n→i<xs.length→(f (xs.take n))[i]?=(f xs)[i]?) : Causal f := by
  intro n xs
  refine List.ext_getElem? fun i => ?_
  by_cases hi : i<n
  · rw [List.getElem?_take_of_lt hi]
    by_cases hin : i<xs.length
    · exact (hrow n xs i hi hin).symm
    · rw [List.getElem?_eq_none (by rw [hlength]; omega),
        List.getElem?_eq_none (by rw [hlength,List.length_take]; omega)]
  · rw [List.getElem?_eq_none (by rw [List.length_take]; omega),
      List.getElem?_eq_none (by rw [hlength,List.length_take]; omega)]

/-- Earlier rows, with a filler for the first ones. -/
def shift (fill : α) (k : ℕ) (xs : List α) : List α := (List.replicate k fill++xs).take xs.length

/-- Shifted rows are as many. -/
@[simp] theorem shift_length (fill : α) (k : ℕ) (xs : List α) : (shift fill k xs).length=xs.length := by
  unfold shift
  rw [List.length_take,List.length_append]
  omega

/-- A shifted row is the filler or an earlier row. -/
theorem shift_row (fill : α) (k : ℕ) {xs : List α} {t : ℕ} (ht : t<xs.length) :
    (shift fill k xs)[t]?=if t<k then some fill else xs[t-k]? := by
  unfold shift
  rw [List.getElem?_take_of_lt ht]
  by_cases hk : t<k
  · rw [if_pos hk,List.getElem?_append_left (by rw [List.length_replicate]; exact hk),
      List.getElem?_replicate_of_lt hk]
  · rw [if_neg hk,List.getElem?_append_right (by rw [List.length_replicate]; omega),
      List.length_replicate]

/-- For every row a value of it and of the row before; the first row has none before it. -/
def withBefore (start : α→β) (f : α→α→β) : List α→List β
  | [] => []
  | first::rest => start first::List.zipWith f (first::rest) rest

/-- There are as many values as rows. -/
@[simp] theorem withBefore_length (start : α→β) (f : α→α→β) (xs : List α) :
    (withBefore start f xs).length=xs.length := by
  cases xs with
  | nil => rfl
  | cons first rest =>
    unfold withBefore
    rw [List.length_cons,List.length_zipWith,List.length_cons]
    omega

/-- Values of rows that are changed one by one. -/
theorem withBefore_map (g : γ→α) (start : α→β) (f : α→α→β) (xs : List γ) :
    withBefore start f (xs.map g)=
      withBefore (fun x => start (g x)) (fun before x => f (g before) (g x)) xs := by
  cases xs with
  | nil => rfl
  | cons first rest =>
    have hmap : List.zipWith f ((first::rest).map g) (rest.map g)=
        List.zipWith (fun before x => f (g before) (g x)) (first::rest) rest := List.zipWith_map
    exact congrArg (List.cons _) hmap

/-- Values that are changed one by one. -/
theorem map_withBefore (h : β→γ) (start : α→β) (f : α→α→β) (xs : List α) :
    (withBefore start f xs).map h=
      withBefore (fun x => h (start x)) (fun before x => h (f before x)) xs := by
  cases xs with
  | nil => rfl
  | cons first rest => exact congrArg (List.cons _) List.map_zipWith

/-- Rows that are combined with the rows before them. -/
theorem zipWith_shift (f : β→γ→δ) (a : α→β) (b : α→γ) (fill : γ) (xs : List α) :
    List.zipWith f (xs.map a) (shift fill 1 (xs.map b))=
      withBefore (fun x => f (a x) fill) (fun before x => f (a x) (b before)) xs := by
  cases xs with
  | nil => rfl
  | cons first rest =>
    have hshift : shift fill 1 ((first::rest).map b)=
        fill::((first::rest).map b).take rest.length := by
      unfold shift
      rw [List.length_map,List.length_cons]
      rfl
    rw [hshift,List.map_cons,List.zipWith_cons_cons]
    refine congrArg (List.cons _) (List.ext_getElem? fun i => ?_)
    rw [List.getElem?_zipWith,List.getElem?_zipWith]
    by_cases hi : i< rest.length
    · rw [List.getElem?_take_of_lt hi,List.getElem?_map,List.getElem?_map,
        List.getElem?_eq_getElem hi,
        List.getElem?_eq_getElem (Nat.lt_succ_of_lt hi : i<(first::rest).length)]
      rfl
    · rw [List.getElem?_map,List.getElem?_eq_none (Nat.le_of_not_lt hi)]
      cases (first::rest)[i]? with
      | none => rfl
      | some before => rfl

/-- Rows before that are paired. -/
theorem zip_shift (fill : α) (fill' : β) (k : ℕ) {xs : List α} {ys : List β}
    (hlength : xs.length=ys.length) :
    List.zip (shift fill k xs) (shift fill' k ys)=shift (fill,fill') k (List.zip xs ys) := by
  have hzip : (List.zip xs ys).length=xs.length := by
    rw [List.length_zip,hlength,Nat.min_self]
  have happend : List.zip (List.replicate k fill++xs) (List.replicate k fill'++ys)=
      List.replicate k (fill,fill')++List.zip xs ys := by
    rw [List.zip_append (by rw [List.length_replicate,List.length_replicate]),List.zip_replicate']
  unfold shift
  rw [hzip,← hlength,← happend]
  exact List.take_zipWith.symm

/-- Earlier rows are causal. -/
theorem causal_shift (fill : α) (k : ℕ) : Causal (shift fill k) := by
  refine causal_of_rows (shift_length fill k) fun n xs i hi hin => ?_
  have hlength : i<(xs.take n).length := by
    rw [List.length_take]
    omega
  rw [shift_row fill k hlength,shift_row fill k hin,List.getElem?_take_of_lt (by omega)]

/-- A state that goes along the rows. -/
def scan (step : σ→α→σ×β) : σ→List α→List β
  | _,[] => []
  | s,x::xs => (step s x).2::scan step (step s x).1 xs

/-- A state leaves as many rows. -/
@[simp] theorem scan_length (step : σ→α→σ×β) (s : σ) (xs : List α) :
    (scan step s xs).length=xs.length := by
  induction xs generalizing s with
  | nil => rfl
  | cons x xs ih => simp [scan,ih]

/-- A state that goes along the rows is causal. -/
theorem causal_scan (step : σ→α→σ×β) (s : σ) : Causal (scan step s) := by
  intro n xs
  induction xs generalizing s n with
  | nil => simp [scan]
  | cons x xs ih =>
    cases n with
    | zero => rfl
    | succ n =>
      rw [List.take_succ_cons]
      unfold scan
      rw [List.take_succ_cons,ih]

/-- For every row the value of the last rows up to it. -/
def trailing (w : ℕ) (g : List α→β) (xs : List α) : List β :=
  (List.range xs.length).map fun i => g ((xs.take (i+1)).drop (i+1-w))

/-- Values of the last rows are as many. -/
@[simp] theorem trailing_length (w : ℕ) (g : List α→β) (xs : List α) :
    (trailing w g xs).length=xs.length := by
  unfold trailing
  rw [List.length_map,List.length_range]

/-- A value of the last rows. -/
theorem trailing_row (w : ℕ) (g : List α→β) {xs : List α} {t : ℕ} (ht : t<xs.length) :
    (trailing w g xs)[t]?=some (g ((xs.take (t+1)).drop (t+1-w))) := by
  unfold trailing
  rw [List.getElem?_map,List.getElem?_range ht]
  rfl

/-- Values of the last rows are causal. -/
theorem causal_trailing (w : ℕ) (g : List α→β) : Causal (trailing w g) := by
  refine causal_of_rows (trailing_length w g) fun n xs i hi hin => ?_
  have hlength : i<(xs.take n).length := by
    rw [List.length_take]
    omega
  have hfirst : min (i+1) n=i+1 := by omega
  rw [trailing_row w g hlength,trailing_row w g hin,List.take_take,hfirst]

end Aqts.CausalSeries
