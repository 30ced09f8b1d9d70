import Aqts.Dictionary
import Mathlib.Algebra.BigOperators.Ring.List
import Mathlib.Algebra.Order.BigOperators.Group.List

/-!
# Totals over groups of keys

Dictionaries of numbers: the total over the keys of a group, loops that assign
to some of the keys, and the dictionary of the totals of all groups. A loop that
assigns to each key once is a comprehension, and a group whose values are all
scaled by one factor has its total scaled by it.
-/

namespace Aqts.Dictionary

section Comprehensions

variable {κ α β γ : Type*}

/-- Dictionaries with the same items are the same. -/
theorem dict_ext {d d' : Dict κ α} (h : d.items=d'.items) : d=d' := by
  cases d
  cases d'
  cases h
  rfl

/-- Comprehensions that agree on the items are the same. -/
theorem mapItems_congr {d : Dict κ α} {f g : κ→α→β}
    (h : ∀ item∈d.items,f item.1 item.2=g item.1 item.2) : d.mapItems f=d.mapItems g := by
  refine dict_ext (List.map_congr_left fun item hitem => ?_)
  rw [h item hitem]

/-- A comprehension over a comprehension. -/
theorem mapItems_mapItems (d : Dict κ α) (f : κ→α→β) (g : κ→β→γ) :
    (d.mapItems f).mapItems g=d.mapItems fun key value => g key (f key value) :=
  dict_ext List.map_map

/-- A comprehension that changes nothing. -/
theorem mapItems_id {d : Dict κ α} {f : κ→α→α} (h : ∀ item∈d.items,f item.1 item.2=item.2) :
    d.mapItems f=d := by
  refine dict_ext ?_
  have hsame : ∀ item∈d.items,(item.1,f item.1 item.2)=id item := by
    intro item hitem
    rw [h item hitem]
    rfl
  exact (List.map_congr_left hsame).trans (List.map_id _)

/-- Items of a comprehension. -/
theorem mem_mapItems {d : Dict κ α} {f : κ→α→β} {item : κ×β} :
    item∈(d.mapItems f).items ↔ ∃ before∈d.items,(before.1,f before.1 before.2)=item :=
  List.mem_map

end Comprehensions

section Values

variable {κ K : Type*} [DecidableEq κ] [Zero K]

/-- `d.get(key, 0.0)`. -/
def Dict.value (d : Dict κ K) (key : κ) : K := (d.get? key).getD 0

/-- The value of an item. -/
theorem value_of_mem {d : Dict κ K} {key : κ} {value : K} (h : (key,value)∈d.items) :
    d.value key=value := by
  unfold Dict.value
  rw [d.get?_eq_some.mpr h]
  rfl

/-- The value of a key that is missing. -/
theorem value_of_not_mem {d : Dict κ K} {key : κ} (h : key∉d.keys) : d.value key=0 := by
  unfold Dict.value
  rw [d.get?_eq_none.mpr h]
  rfl

/-- A key has its value as an item. -/
theorem mem_items_value {d : Dict κ K} {key : κ} (h : key∈d.keys) :
    (key,d.value key)∈d.items := by
  obtain ⟨value,hvalue⟩ := d.mem_keys.mp h
  have hitem := d.get?_eq_some.mp hvalue
  rw [value_of_mem hitem]
  exact hitem

/-- The items by their keys. -/
theorem items_eq_map_value (d : Dict κ K) : d.items=d.keys.map fun key => (key,d.value key) := by
  have hsame : ∀ item∈d.items,(item.1,d.value item.1)=id item := by
    intro item hitem
    have hvalue : d.value item.1=item.2 := value_of_mem hitem
    rw [hvalue]
    rfl
  unfold Dict.keys
  rw [List.map_map]
  exact ((List.map_congr_left hsame).trans (List.map_id _)).symm

/-- An assignment to a key that is there. -/
theorem set_eq_mapItems {d : Dict κ K} {key : κ} (h : key∈d.keys) (f : K→K) :
    d.set key (f (d.value key))=
      d.mapItems fun other before => if other=key then f before else before := by
  unfold Dict.set
  rw [dif_pos h]
  refine mapItems_congr fun item hitem => ?_
  by_cases heq : item.1=key
  · have hvalue : d.value key=item.2 := value_of_mem (heq ▸ hitem)
    rw [if_pos heq,if_pos heq,hvalue]
  · rw [if_neg heq,if_neg heq]

/-- Values after an assignment. -/
theorem value_set (d : Dict κ K) (key other : κ) (value : K) :
    (d.set key value).value other=if other=key then value else d.value other := by
  unfold Dict.value
  rw [Dict.get?_set]
  split
  · rfl
  · rfl

/-- Values of a comprehension. -/
theorem value_mapItems {d : Dict κ K} {key : κ} (f : κ→K→K) (h : key∈d.keys) :
    (d.mapItems f).value key=f key (d.value key) :=
  value_of_mem (mem_mapItems.mpr ⟨_,mem_items_value h,rfl⟩)

/-- An assignment to a key that is there keeps the keys. -/
theorem keys_set {d : Dict κ K} {key : κ} (h : key∈d.keys) (value : K) :
    (d.set key value).keys=d.keys :=
  (congrArg Dict.keys (set_eq_mapItems h fun _ => value)).trans (d.keys_mapItems _)

/-- A loop that assigns to keys, each from its own value. -/
def Dict.assign (d : Dict κ K) (keys : List κ) (f : K→K) : Dict κ K :=
  keys.foldl (fun d key => d.set key (f (d.value key))) d

/-- A loop that assigns to each key once is a comprehension. -/
theorem assign_eq_mapItems {d : Dict κ K} {keys : List κ} (hnodup : keys.Nodup)
    (hkeys : ∀ key∈keys,key∈d.keys) (f : K→K) :
    d.assign keys f=d.mapItems fun key value => if key∈keys then f value else value := by
  unfold Dict.assign
  induction keys generalizing d with
  | nil =>
    refine (mapItems_id fun item _ => ?_).symm
    rw [if_neg List.not_mem_nil]
  | cons first rest ih =>
    obtain ⟨hfirst,hrest⟩ := List.nodup_cons.mp hnodup
    rw [List.foldl_cons,set_eq_mapItems (hkeys first List.mem_cons_self)]
    have hsub : ∀ key∈rest,key∈(d.mapItems fun other before =>
        if other=first then f before else before).keys := by
      intro key hkey
      rw [Dict.keys_mapItems]
      exact hkeys key (List.mem_cons_of_mem _ hkey)
    rw [ih hrest hsub,mapItems_mapItems]
    refine mapItems_congr fun item _ => ?_
    by_cases heq : item.1=first
    · have hnot : item.1∉rest := heq ▸ hfirst
      rw [if_neg hnot,if_pos heq,if_pos (heq ▸ List.mem_cons_self)]
    · rw [if_neg heq]
      by_cases hin : item.1∈rest
      · rw [if_pos hin,if_pos (List.mem_cons_of_mem _ hin)]
      · rw [if_neg hin,if_neg (List.not_mem_cons_of_ne_of_not_mem heq hin)]

end Values

section Assignments

variable {κ K : Type*} [DecidableEq κ]

/-- The values that a list of assignments gives to a key, in their order. -/
def valuesOf (entries : List (κ×K)) (key : κ) : List K :=
  (entries.filter fun entry => entry.1=key).map Prod.snd

/-- The values of the first assignment and of the others. -/
theorem valuesOf_cons (entry : κ×K) (entries : List (κ×K)) (key : κ) :
    valuesOf (entry::entries) key=
      if entry.1=key then entry.2::valuesOf entries key else valuesOf entries key := by
  unfold valuesOf
  by_cases heq : entry.1=key
  · rw [if_pos heq,List.filter_cons_of_pos (by simpa using heq),List.map_cons]
  · rw [if_neg heq,List.filter_cons_of_neg (by simpa using heq)]

/-- Of several assignments to a key the last one stays. -/
theorem get?_foldl_set_last (entries : List (κ×K)) (d : Dict κ K) (key : κ) :
    (entries.foldl (fun d entry => d.set entry.1 entry.2) d).get? key=
      (valuesOf entries key).getLast?.or (d.get? key) := by
  induction entries generalizing d with
  | nil => rfl
  | cons entry rest ih =>
    rw [List.foldl_cons,ih,Dict.get?_set,valuesOf_cons]
    by_cases heq : entry.1=key
    · rw [if_pos heq.symm,if_pos heq,List.getLast?_cons]
      cases (valuesOf rest key).getLast? with
      | none => rfl
      | some value => rfl
    · rw [if_neg (Ne.symm heq),if_neg heq]

variable [AddCommMonoid K]

/-- One entry adds its value to the totals of keys that have its key. -/
theorem sum_indicator {keys : List κ} (hnodup : keys.Nodup) (key : κ) (value : K) :
    (keys.map fun other => if key=other then value else 0).sum=
      if key∈keys then value else 0 := by
  induction keys with
  | nil => simp
  | cons first rest ih =>
    obtain ⟨hfirst,hrest⟩ := List.nodup_cons.mp hnodup
    rw [List.map_cons,List.sum_cons,ih hrest]
    by_cases heq : key=first
    · have hnot : key∉rest := heq ▸ hfirst
      rw [if_pos heq,if_neg hnot,add_zero,if_pos (heq ▸ List.mem_cons_self)]
    · rw [if_neg heq,zero_add]
      by_cases hmem : key∈rest
      · rw [if_pos hmem,if_pos (List.mem_cons_of_mem _ hmem)]
      · rw [if_neg hmem,if_neg (List.not_mem_cons_of_ne_of_not_mem heq hmem)]

/-- The totals of the keys add up to the total of the entries, if only zeros have other keys. -/
theorem sum_valuesOf {keys : List κ} (hnodup : keys.Nodup) {entries : List (κ×K)}
    (hkeys : ∀ entry∈entries,entry.1∉keys→entry.2=0) :
    (keys.map fun key => (valuesOf entries key).sum).sum=(entries.map Prod.snd).sum := by
  induction entries with
  | nil =>
    refine List.sum_eq_zero fun value hvalue => ?_
    obtain ⟨key,-,rfl⟩ := List.mem_map.mp hvalue
    rfl
  | cons entry rest ih =>
    have hsplit : ∀ key∈keys,(valuesOf (entry::rest) key).sum=
        (if entry.1=key then entry.2 else 0)+(valuesOf rest key).sum := by
      intro key _
      rw [valuesOf_cons]
      by_cases heq : entry.1=key
      · rw [if_pos heq,if_pos heq,List.sum_cons]
      · rw [if_neg heq,if_neg heq,zero_add]
    have hrest := ih fun other hother => hkeys other (List.mem_cons_of_mem _ hother)
    rw [List.map_congr_left hsplit,List.sum_map_add,sum_indicator hnodup,hrest,List.map_cons,
      List.sum_cons]
    by_cases hmem : entry.1∈keys
    · rw [if_pos hmem]
    · rw [if_neg hmem,hkeys entry List.mem_cons_self hmem]

/-- The values of a dictionary add up over its keys. -/
theorem sum_values (d : Dict κ K) : d.values.sum=(d.keys.map d.value).sum := by
  unfold Dict.values
  rw [items_eq_map_value,List.map_map]
  rfl

end Assignments

section Totals

variable {κ K : Type*} [AddCommMonoid K]

/-- Total over the keys of a group. -/
def Dict.total (d : Dict κ K) (p : κ→Bool) : K :=
  (d.items.map fun item => if p item.1=true then item.2 else 0).sum

/-- The total over all keys is the sum of the values. -/
theorem total_all (d : Dict κ K) : d.total (fun _ => true)=d.values.sum := by
  unfold Dict.total Dict.values
  simp

/-- Totals of groups that differ in zeros only. -/
theorem total_support {d : Dict κ K} {p q : κ→Bool}
    (h : ∀ item∈d.items,p item.1≠q item.1→item.2=0) : d.total p=d.total q := by
  unfold Dict.total
  refine congrArg List.sum (List.map_congr_left fun item hitem => ?_)
  by_cases heq : p item.1=q item.1
  · rw [heq]
  · rw [h item hitem heq,ite_self,ite_self]

/-- Totals of groups with the same keys. -/
theorem total_congr {d : Dict κ K} {p q : κ→Bool} (h : ∀ item∈d.items,p item.1=q item.1) :
    d.total p=d.total q :=
  total_support fun item hitem hne => absurd (h item hitem) hne

/-- The totals of comprehensions that agree on the group. -/
theorem total_mapItems_congr {α : Type*} {d : Dict κ α} {f g : κ→α→K} {p : κ→Bool}
    (h : ∀ item∈d.items,p item.1=true→f item.1 item.2=g item.1 item.2) :
    (d.mapItems f).total p=(d.mapItems g).total p := by
  unfold Dict.total Dict.mapItems
  dsimp only
  rw [List.map_map,List.map_map]
  refine congrArg List.sum (List.map_congr_left fun item hitem => ?_)
  dsimp only [Function.comp]
  by_cases hp : p item.1=true
  · rw [if_pos hp,if_pos hp,h item hitem hp]
  · rw [if_neg hp,if_neg hp]

/-- The total of a comprehension that does not change the group. -/
theorem total_mapItems_same {d : Dict κ K} {f : κ→K→K} {p : κ→Bool}
    (h : ∀ item∈d.items,p item.1=true→f item.1 item.2=item.2) :
    (d.mapItems f).total p=d.total p := by
  rw [total_mapItems_congr (g := fun _ value => value) h,mapItems_id fun _ _ => rfl]

/-- A group splits into two. -/
theorem total_split (d : Dict κ K) (p q : κ→Bool) :
    d.total p=d.total (fun key => p key && q key)+
      d.total (fun key => p key && !q key) := by
  unfold Dict.total
  rw [← List.sum_map_add]
  refine congrArg List.sum (List.map_congr_left fun item _ => ?_)
  cases hp : p item.1 with
  | false => simp [hp]
  | true =>
    cases hq : q item.1 with
    | false => simp [hp,hq]
    | true => simp [hp,hq]

end Totals

/-- The values of the items of a group add up to its total. -/
theorem sum_filter_items {κ K : Type*} [AddCommMonoid K] (items : List (κ×K)) (p : κ→Bool) :
    ((items.filter fun item => p item.1).map Prod.snd).sum=
      (items.map fun item => if p item.1=true then item.2 else 0).sum := by
  induction items with
  | nil => rfl
  | cons item rest ih =>
    rw [List.map_cons,List.sum_cons,← ih]
    by_cases hp : p item.1=true
    · rw [List.filter_cons,if_pos hp,if_pos hp,List.map_cons,List.sum_cons]
    · rw [List.filter_cons,if_neg hp,if_neg hp,zero_add]

/-- The values of some of the keys add up to the total of their group. -/
theorem sum_filter_keys {κ K : Type*} [DecidableEq κ] [AddCommMonoid K] (d : Dict κ K)
    (p : κ→Bool) : ((d.keys.filter p).map d.value).sum=d.total p := by
  have hvalue : ∀ item∈d.items.filter fun item => p item.1,d.value item.1=item.2 :=
    fun item hitem => value_of_mem (List.mem_filter.mp hitem).1
  unfold Dict.keys
  rw [List.filter_map,List.map_map]
  exact (congrArg List.sum (List.map_congr_left hvalue)).trans (sum_filter_items d.items p)

/-- A group whose values are scaled by one factor. -/
theorem total_mapItems_scaled {κ K : Type*} [Semiring K] {d : Dict κ K} {f : κ→K→K}
    {p : κ→Bool} {factor : K}
    (h : ∀ item∈d.items,p item.1=true→f item.1 item.2=item.2*factor) :
    (d.mapItems f).total p=d.total p*factor := by
  unfold Dict.total Dict.mapItems
  dsimp only
  rw [List.map_map,← List.sum_map_mul_right]
  refine congrArg List.sum (List.map_congr_left fun item hitem => ?_)
  dsimp only [Function.comp]
  by_cases hp : p item.1=true
  · rw [if_pos hp,if_pos hp,h item hitem hp]
  · rw [if_neg hp,if_neg hp,zero_mul]

/-- The values of the keys of a group, in the order of the items. -/
def Dict.groupValues {κ ι K : Type*} [DecidableEq ι] (d : Dict κ K) (label : κ→ι) (group : ι) :
    List K :=
  (d.items.filter fun item => label item.1=group).map Prod.snd

section Groups

variable {κ ι K : Type*} [DecidableEq ι] [AddCommMonoid K] (plus : K→K→K)

/-- `totals[label] = totals.get(label, 0.0) + value`, with an addition that may round. -/
def Dict.addTo (totals : Dict ι K) (label : ι) (value : K) : Dict ι K :=
  totals.set label (plus (totals.value label) value)

/-- The totals of all groups, in the order of their first keys. -/
def Dict.groupTotals (d : Dict κ K) (label : κ→ι) : Dict ι K :=
  d.items.foldl (fun totals item => totals.addTo plus (label item.1) item.2) Dict.empty

/-- Groups and their totals after a run over some items. -/
theorem foldl_addTo (items : List (κ×K)) (label : κ→ι) (totals : Dict ι K) (group : ι) :
    (items.foldl (fun totals item => totals.addTo plus (label item.1) item.2) totals).value group=
        ((items.filter fun item => label item.1=group).map Prod.snd).foldl plus
          (totals.value group) ∧
      (group∈(items.foldl (fun totals item => totals.addTo plus (label item.1) item.2)
          totals).keys ↔
        group∈totals.keys ∨ ∃ item∈items,label item.1=group) := by
  induction items generalizing totals with
  | nil => exact ⟨rfl,by simp⟩
  | cons item rest ih =>
    obtain ⟨hvalue,hkeys⟩ := ih (totals.addTo plus (label item.1) item.2)
    rw [List.foldl_cons]
    constructor
    · rw [hvalue]
      unfold Dict.addTo
      rw [value_set]
      by_cases heq : group=label item.1
      · rw [if_pos heq,List.filter_cons_of_pos (by simpa using heq.symm),List.map_cons,
          List.foldl_cons,heq]
      · rw [if_neg heq,List.filter_cons_of_neg (by simpa using Ne.symm heq)]
    · rw [hkeys,List.exists_mem_cons_iff]
      unfold Dict.addTo
      rw [Dict.mem_keys,Dict.get?_set]
      by_cases heq : group=label item.1
      · rw [if_pos heq]
        exact iff_of_true (.inl ⟨_,rfl⟩) (.inr (.inl heq.symm))
      · rw [if_neg heq,← Dict.mem_keys]
        constructor
        · rintro (hold | hrest)
          · exact .inl hold
          · exact .inr (.inr hrest)
        · rintro (hold | hfirst | hrest)
          · exact .inl hold
          · exact absurd hfirst.symm heq
          · exact .inr hrest

/-- The total of a group adds up its values in their order. -/
theorem value_groupTotals (d : Dict κ K) (label : κ→ι) (group : ι) :
    (d.groupTotals plus label).value group=(d.groupValues label group).foldl plus 0 := by
  have hvalue := (foldl_addTo plus d.items label Dict.empty group).1
  rw [value_of_not_mem (d := (Dict.empty : Dict ι K)) List.not_mem_nil] at hvalue
  exact hvalue

/-- Without rounding it is the total over the keys of the group. -/
theorem sum_groupValues (d : Dict κ K) (label : κ→ι) (group : ι) :
    (d.groupValues label group).sum=d.total fun key => label key=group :=
  sum_filter_items d.items fun key => label key=group

variable {plus}

/-- The groups are those of the keys. -/
theorem mem_keys_groupTotals {d : Dict κ K} {label : κ→ι} {group : ι} :
    group∈(d.groupTotals plus label).keys ↔ ∃ key∈d.keys,label key=group := by
  have hkeys := (foldl_addTo plus d.items label Dict.empty group).2
  unfold Dict.groupTotals
  rw [hkeys]
  unfold Dict.keys
  simp [Dict.empty]

end Groups

section Order

variable {κ K : Type*} [AddCommMonoid K] [PartialOrder K] [IsOrderedAddMonoid K]

/-- A group without negative values has no negative total. -/
theorem total_nonneg {d : Dict κ K} {p : κ→Bool}
    (h : ∀ item∈d.items,p item.1=true→0≤ item.2) : 0≤d.total p := by
  unfold Dict.total
  refine List.sum_nonneg fun value hvalue => ?_
  obtain ⟨item,hitem,rfl⟩ := List.mem_map.mp hvalue
  split
  · exact h item hitem ‹_›
  · exact le_refl 0

/-- A larger group of values without negative ones has no smaller total. -/
theorem total_mono {d : Dict κ K} {p q : κ→Bool} (h : ∀ item∈d.items,0≤ item.2)
    (hsub : ∀ item∈d.items,p item.1=true→q item.1=true) : d.total p≤d.total q := by
  unfold Dict.total
  refine List.sum_le_sum fun item hitem => ?_
  by_cases hp : p item.1=true
  · rw [if_pos hp,if_pos (hsub item hitem hp)]
  · rw [if_neg hp]
    split
    · exact h item hitem
    · exact le_refl 0

/-- Totals of comprehensions of which one is nowhere above the other. -/
theorem total_le_total {d : Dict κ K} {f g : κ→K→K} {p : κ→Bool}
    (h : ∀ item∈d.items,p item.1=true→f item.1 item.2≤g item.1 item.2) :
    (d.mapItems f).total p≤(d.mapItems g).total p := by
  unfold Dict.total Dict.mapItems
  dsimp only
  rw [List.map_map,List.map_map]
  refine List.sum_le_sum fun item hitem => ?_
  dsimp only [Function.comp]
  by_cases hp : p item.1=true
  · rw [if_pos hp,if_pos hp]
    exact h item hitem hp
  · rw [if_neg hp,if_neg hp]

/-- A value of a group without negative values is at most its total. -/
theorem value_le_total {d : Dict κ K} {p : κ→Bool}
    (h : ∀ item∈d.items,p item.1=true→0≤ item.2) {item : κ×K} (hitem : item∈d.items)
    (hp : p item.1=true) : item.2≤d.total p := by
  unfold Dict.total
  refine List.single_le_sum ?_ _ (List.mem_map.mpr ⟨item,hitem,if_pos hp⟩)
  intro value hvalue
  obtain ⟨other,hother,rfl⟩ := List.mem_map.mp hvalue
  split
  · exact h other hother ‹_›
  · exact le_refl 0

end Order

end Aqts.Dictionary
