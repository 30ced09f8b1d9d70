import Mathlib.Data.List.Basic

/-!
# Delimited texts

A text of fields with a separator between them, and the splits that give the fields
back: at every separator, or at so many of the first ones that the last field may
contain the separator itself.
-/

namespace Aqts.Delimited

variable {α : Type*} {sep : α}

/-- The fields with a separator between them. -/
def join (sep : α) (fields : List (List α)) : List α := [sep].intercalate fields

/-- One field is the text. -/
@[simp] theorem join_one (field : List α) : join sep [field]=field := by
  simp [join,List.intercalate]

/-- A separator follows the first of several fields. -/
theorem join_cons {field : List α} {fields : List (List α)} (h : fields≠[]) :
    join sep (field::fields)=field++sep::join sep fields := by
  obtain ⟨next,rest,rfl⟩ := List.exists_cons_of_ne_nil h
  simp [join,List.intercalate]

variable [DecidableEq α]

/-- The text split at every separator. -/
def split (sep : α) (text : List α) : List (List α) := text.splitOn sep

/-- The text split at its first separators, so many at most. -/
def splitAtMost (sep : α) : ℕ→List α→List (List α)
  | 0,text => [text]
  | n+1,text =>
    if sep∈text then
      text.takeWhile (fun c => c≠sep)::splitAtMost sep n (text.dropWhile fun c => c≠sep).tail
    else [text]

/-- Fields without the separator are what their text splits into. -/
theorem split_join {fields : List (List α)} (hne : fields≠[]) (h : ∀ field∈fields,sep∉field) :
    split sep (join sep fields)=fields :=
  List.splitOn_intercalate sep h hne

/-- A split ends its first field at the first separator. -/
theorem splitAtMost_field {field : List α} (h : sep∉field) (n : ℕ) (rest : List α) :
    splitAtMost sep (n+1) (field++sep::rest)=field::splitAtMost sep n rest := by
  have hother : ∀ c∈field,decide (c≠sep)=true := by
    intro c hc
    exact decide_eq_true fun heq => h (heq ▸ hc)
  have htake : (field++sep::rest).takeWhile (fun c => c≠sep)=field := by
    rw [List.takeWhile_append_of_pos hother,List.takeWhile_cons_of_neg (by simp),List.append_nil]
  have hdrop : (field++sep::rest).dropWhile (fun c => c≠sep)=sep::rest := by
    rw [List.dropWhile_append_of_pos hother,List.dropWhile_cons_of_neg (by simp)]
  rw [splitAtMost,if_pos (by simp),htake,hdrop,List.tail_cons]

/-- Fields without the separator and a rest that may have it are what their text splits into
at as many separators as there are such fields. -/
theorem splitAtMost_join {fields : List (List α)} (h : ∀ field∈fields,sep∉field) (rest : List α) :
    splitAtMost sep fields.length (join sep (fields++[rest]))=fields++[rest] := by
  induction fields with
  | nil => simp [splitAtMost]
  | cons field fields ih =>
    have hrest := ih fun f hf => h f (List.mem_cons_of_mem _ hf)
    rw [List.cons_append,join_cons (by simp),List.length_cons,
      splitAtMost_field (h field List.mem_cons_self),hrest]

end Aqts.Delimited
