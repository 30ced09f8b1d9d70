import Mathlib.Data.List.Nodup

/-!
# Dictionaries that keep their order

A dictionary as the list of its items in the order of their first assignment.
No two items have one key, which the dictionary carries as a field. Lookups
decide everything but the order: two dictionaries are equal in the sense of
their program if they find the same values.
-/

namespace Aqts.Dictionary

/-- A dictionary. -/
structure Dict (κ α : Type*) where
  /-- Keys and their values, in the order of the first assignments. -/
  items : List (κ×α)
  /-- No key twice. -/
  nodup : (items.map Prod.fst).Nodup

section Derived

variable {κ α β : Type*}

/-- The dictionary without items. -/
def Dict.empty : Dict κ α := ⟨[],List.nodup_nil⟩

/-- `keys()`. -/
def Dict.keys (d : Dict κ α) : List κ := d.items.map Prod.fst

/-- `values()`. -/
def Dict.values (d : Dict κ α) : List α := d.items.map Prod.snd

/-- The same keys with other values: a comprehension over the items. -/
def Dict.mapItems (d : Dict κ α) (f : κ→α→β) : Dict κ β where
  items := d.items.map fun item => (item.1,f item.1 item.2)
  nodup := by
    rw [List.map_map]
    exact d.nodup

/-- Some of the items: a comprehension with a condition. -/
def Dict.filter (d : Dict κ α) (p : κ→α→Bool) : Dict κ α where
  items := d.items.filter fun item => p item.1 item.2
  nodup := (List.filter_sublist.map Prod.fst).nodup d.nodup

/-- Keys of a loop over the items that skips some of them. -/
theorem filterMap_keys_sublist (items : List (κ×α)) (f : κ→α→Option β) :
    ((items.filterMap fun item => (f item.1 item.2).map (Prod.mk item.1)).map Prod.fst).Sublist
      (items.map Prod.fst) := by
  induction items with
  | nil => exact List.Sublist.slnil
  | cons item rest ih =>
    rw [List.filterMap_cons,List.map_cons]
    cases f item.1 item.2 with
    | none => exact ih.cons _
    | some value => exact ih.cons_cons _

/-- A loop over the items that skips some of them. -/
def Dict.filterMap (d : Dict κ α) (f : κ→α→Option β) : Dict κ β where
  items := d.items.filterMap fun item => (f item.1 item.2).map (Prod.mk item.1)
  nodup := (filterMap_keys_sublist d.items f).nodup d.nodup

/-- A comprehension over the items has their keys. -/
@[simp] theorem Dict.keys_mapItems (d : Dict κ α) (f : κ→α→β) : (d.mapItems f).keys=d.keys :=
  List.map_map

/-- A comprehension over the items has their values. -/
theorem Dict.values_mapItems (d : Dict κ α) (f : α→β) :
    (d.mapItems fun _ value => f value).values=d.values.map f := by
  unfold Dict.values Dict.mapItems
  rw [List.map_map,List.map_map]
  rfl

/-- A comprehension over the items of a comprehension. -/
theorem Dict.mapItems_mapItems {γ : Type*} (d : Dict κ α) (f : κ→α→β) (g : κ→β→γ) :
    (d.mapItems f).mapItems g=d.mapItems fun key value => g key (f key value) := by
  unfold Dict.mapItems
  dsimp only
  congr 1
  exact List.map_map

/-- There are as many keys as values. -/
theorem Dict.keys_length (d : Dict κ α) : d.keys.length=d.values.length := by
  unfold Dict.keys Dict.values
  rw [List.length_map,List.length_map]

/-- A comprehension with a condition has some of the keys. -/
theorem Dict.mem_keys_filter {d : Dict κ α} {p : κ→α→Bool} {key : κ}
    (h : key∈(d.filter p).keys) : key∈d.keys :=
  (List.filter_sublist.map Prod.fst).subset h

/-- Items with the same keys are the same. -/
theorem Dict.eq_of_keys (d : Dict κ α) {l l' : List (κ×α)} (hl : ∀ e∈l,e∈d.items)
    (hl' : ∀ e∈l',e∈d.items) (h : l.map Prod.fst=l'.map Prod.fst) : l=l' := by
  induction l generalizing l' with
  | nil => exact (List.map_eq_nil_iff.mp h.symm).symm
  | cons e l ih =>
    obtain ⟨e',rest,rfl,hkey,hrest⟩ := List.map_eq_cons_iff.mp h.symm
    have hsame : e'=e := List.inj_on_of_nodup_map d.nodup (hl' e' List.mem_cons_self)
      (hl e List.mem_cons_self) hkey
    rw [hsame,ih (fun x hx => hl x (List.mem_cons_of_mem _ hx))
      (fun x hx => hl' x (List.mem_cons_of_mem _ hx)) hrest.symm]

end Derived

section Lookup

variable {κ α β : Type*} [DecidableEq κ]

/-- The value of a key. -/
def Dict.get? (d : Dict κ α) (key : κ) : Option α :=
  (d.items.find? fun item => item.1=key).map Prod.snd

/-- A value is found exactly if it is the one of an item. -/
theorem Dict.get?_eq_some (d : Dict κ α) {key : κ} {value : α} :
    d.get? key=some value ↔ (key,value)∈d.items := by
  unfold Dict.get?
  constructor
  · intro h
    obtain ⟨item,hfind,hvalue⟩ := Option.map_eq_some_iff.mp h
    have hkey : item.1=key := by simpa using List.find?_some hfind
    rw [← hkey,← hvalue]
    exact List.mem_of_find?_eq_some hfind
  · intro h
    obtain ⟨item,hfind⟩ : ∃ item,d.items.find? (fun item => item.1=key)=some item := by
      rw [← Option.isSome_iff_exists,List.find?_isSome]
      exact ⟨_,h,decide_eq_true rfl⟩
    have hkey : item.1=key := by simpa using List.find?_some hfind
    have hsame : item=(key,value) :=
      List.inj_on_of_nodup_map d.nodup (List.mem_of_find?_eq_some hfind) h hkey
    rw [hfind,hsame]
    rfl

/-- A key has a value exactly if it is one of the keys. -/
theorem Dict.mem_keys (d : Dict κ α) {key : κ} : key∈d.keys ↔ ∃ value,d.get? key=some value := by
  unfold Dict.keys
  constructor
  · intro h
    obtain ⟨item,hitem,rfl⟩ := List.mem_map.mp h
    exact ⟨item.2,d.get?_eq_some.mpr hitem⟩
  · rintro ⟨value,h⟩
    exact List.mem_map_of_mem (d.get?_eq_some.mp h)

/-- What is not a key has no value. -/
theorem Dict.get?_eq_none (d : Dict κ α) {key : κ} : d.get? key=none ↔ key∉d.keys := by
  rw [d.mem_keys,Option.eq_none_iff_forall_ne_some,not_exists]

/-- Values of the same keys. -/
theorem Dict.get?_mapItems (d : Dict κ α) (f : κ→α→β) (key : κ) :
    (d.mapItems f).get? key=(d.get? key).map (f key) := by
  refine Option.ext fun value => ?_
  rw [Dict.get?_eq_some,Option.map_eq_some_iff]
  unfold Dict.mapItems
  dsimp only
  rw [List.mem_map]
  constructor
  · rintro ⟨item,hitem,heq⟩
    cases heq
    exact ⟨item.2,d.get?_eq_some.mpr hitem,rfl⟩
  · rintro ⟨before,hbefore,rfl⟩
    exact ⟨_,d.get?_eq_some.mp hbefore,rfl⟩

/-- Comprehensions with the same values for all items are the same. -/
theorem Dict.mapItems_congr {d : Dict κ α} {f g : κ→α→β}
    (h : ∀ key value,d.get? key=some value→f key value=g key value) :
    d.mapItems f=d.mapItems g := by
  unfold Dict.mapItems
  congr 1
  refine List.map_congr_left fun item hitem => ?_
  rw [h item.1 item.2 (d.get?_eq_some.mpr hitem)]

/-- Values among some of the items. -/
theorem Dict.get?_filter (d : Dict κ α) (p : κ→α→Bool) (key : κ) :
    (d.filter p).get? key=(d.get? key).filter (p key) := by
  refine Option.ext fun value => ?_
  rw [Dict.get?_eq_some,Option.filter_eq_some_iff,Dict.get?_eq_some]
  unfold Dict.filter
  dsimp only
  exact List.mem_filter

/-- `d[key] = value`. -/
def Dict.set (d : Dict κ α) (key : κ) (value : α) : Dict κ α :=
  if h : key∈d.keys then
    d.mapItems fun other before => if other=key then value else before
  else
    { items := d.items++[(key,value)]
      nodup := by
        rw [List.map_append]
        exact List.Nodup.append d.nodup (List.nodup_singleton _)
          (List.disjoint_singleton.mpr h) }

/-- Values after an assignment. -/
theorem Dict.get?_set (d : Dict κ α) (key other : κ) (value : α) :
    (d.set key value).get? other=if other=key then some value else d.get? other := by
  unfold Dict.set
  split
  · rename_i hkey
    rw [Dict.get?_mapItems]
    by_cases heq : other=key
    · obtain ⟨before,hbefore⟩ := d.mem_keys.mp hkey
      rw [if_pos heq,heq,hbefore,Option.map_some,if_pos rfl]
    · rw [if_neg heq]
      cases hother : d.get? other with
      | none => rfl
      | some before => rw [Option.map_some,if_neg heq]
  · rename_i hkey
    refine Option.ext fun found => ?_
    rw [Dict.get?_eq_some,List.mem_append,List.mem_singleton]
    by_cases heq : other=key
    · rw [if_pos heq,heq]
      constructor
      · rintro (hitem | hitem)
        · exact absurd (List.mem_map_of_mem hitem) hkey
        · rw [(Prod.mk.inj hitem).2]
      · intro h
        exact .inr (by rw [Option.some.inj h])
    · rw [if_neg heq,Dict.get?_eq_some]
      exact ⟨fun h => h.resolve_right fun hitem => heq (Prod.mk.inj hitem).1,.inl⟩

/-- A comprehension over the items of an assignment. -/
theorem Dict.mapItems_set (d : Dict κ α) (key : κ) (value : α) (f : α→β) :
    (d.set key value).mapItems (fun _ v => f v)=
      (d.mapItems fun _ v => f v).set key (f value) := by
  have hkeys : key∈(d.mapItems fun _ v => f v).keys ↔ key∈d.keys := by
    rw [Dict.keys_mapItems]
  unfold Dict.set
  by_cases hkey : key∈d.keys
  · rw [dif_pos hkey,dif_pos (hkeys.mpr hkey),Dict.mapItems_mapItems,Dict.mapItems_mapItems]
    refine Dict.mapItems_congr fun other before _ => ?_
    exact apply_ite f ..
  · rw [dif_neg hkey,dif_neg (fun h => hkey (hkeys.mp h))]
    unfold Dict.mapItems
    congr 1
    exact List.map_append

/-- `pop(key, None)`: the items without that of a key. -/
def Dict.erase (d : Dict κ α) (key : κ) : Dict κ α := d.filter fun other _ => other≠key

/-- Values after a key was taken out. -/
theorem Dict.get?_erase (d : Dict κ α) (key other : κ) :
    (d.erase key).get? other=if other=key then none else d.get? other := by
  unfold Dict.erase
  rw [Dict.get?_filter]
  by_cases heq : other=key
  · rw [if_pos heq]
    cases d.get? other with
    | none => rfl
    | some value => simp [heq]
  · rw [if_neg heq]
    cases d.get? other with
    | none => rfl
    | some value => simp [heq]

/-- Taking out a key of the dictionary leaves fewer items. -/
theorem Dict.length_erase_lt {d : Dict κ α} {key : κ} (h : key∈d.keys) :
    (d.erase key).items.length<d.items.length := by
  obtain ⟨item,hitem,hkey⟩ := List.mem_map.mp h
  refine List.length_filter_lt_length_iff_exists.mpr ⟨item,hitem,?_⟩
  simp [hkey]

/-- An assignment adds one item at most. -/
theorem Dict.length_set_le (d : Dict κ α) (key : κ) (value : α) :
    (d.set key value).items.length≤d.items.length+1 := by
  unfold Dict.set
  split
  · unfold Dict.mapItems
    rw [List.length_map]
    exact Nat.le_succ _
  · rw [List.length_append]
    exact Nat.le_refl _

/-- `update`: the assignments of another dictionary. -/
def Dict.update (d other : Dict κ α) : Dict κ α :=
  other.items.foldl (fun d item => d.set item.1 item.2) d

/-- Values after some assignments, of which no two are to one key. -/
theorem Dict.get?_foldl_set {items : List (κ×α)} (hnodup : (items.map Prod.fst).Nodup)
    (d : Dict κ α) (key : κ) :
    (items.foldl (fun d item => d.set item.1 item.2) d).get? key=
      ((items.find? fun item => item.1=key).map Prod.snd).or (d.get? key) := by
  induction items generalizing d with
  | nil => rfl
  | cons item rest ih =>
    obtain ⟨hfirst,hrest⟩ := List.nodup_cons.mp hnodup
    rw [List.foldl_cons,ih hrest,Dict.get?_set,List.find?_cons]
    by_cases heq : item.1=key
    · have hnone : rest.find? (fun item => decide (item.1=key))=none := by
        refine List.find?_eq_none.mpr fun later hlater => ?_
        rw [decide_eq_true_eq]
        intro hsame
        exact hfirst (heq.trans hsame.symm ▸ List.mem_map_of_mem hlater)
      rw [if_pos heq.symm,hnone,decide_eq_true heq]
      rfl
    · rw [if_neg (Ne.symm heq),decide_eq_false heq]

/-- Values after the assignments of another dictionary. -/
theorem Dict.get?_update (d other : Dict κ α) (key : κ) :
    (d.update other).get? key=(other.get? key).or (d.get? key) :=
  Dict.get?_foldl_set other.nodup d key

/-- A comprehension over a list: of two values of a key the later one stays. -/
def Dict.collect (items : List (κ×α)) : Dict κ α :=
  items.foldl (fun d item => d.set item.1 item.2) .empty

/-- The items of a comprehension without repeated keys. -/
theorem Dict.get?_collect {items : List (κ×α)} (hnodup : (items.map Prod.fst).Nodup) {key : κ}
    {value : α} : (Dict.collect items).get? key=some value ↔ (key,value)∈items := by
  have hempty : (Dict.empty : Dict κ α).get? key=none := rfl
  have hitems : ((items.find? fun item => item.1=key).map Prod.snd)=
      (Dict.mk items hnodup).get? key := rfl
  unfold Dict.collect
  rw [Dict.get?_foldl_set hnodup,hempty,Option.or_none,hitems,Dict.get?_eq_some]

/-- Assignments of one value to those of some keys that have none. -/
def Dict.fill (d : Dict κ α) (keys : List κ) (value : α) : Dict κ α :=
  keys.foldl (fun d key => if key∈d.keys then d else d.set key value) d

/-- Values after such assignments. -/
theorem Dict.get?_fill (d : Dict κ α) (keys : List κ) (value : α) (key : κ) :
    (d.fill keys value).get? key=(d.get? key).or (if key∈keys then some value else none) := by
  unfold Dict.fill
  induction keys generalizing d with
  | nil =>
    rw [List.foldl_nil,if_neg List.not_mem_nil,Option.or_none]
  | cons first rest ih =>
    rw [List.foldl_cons,ih]
    by_cases hkey : first∈d.keys
    · rw [if_pos hkey]
      by_cases heq : key=first
      · obtain ⟨found,hfound⟩ := d.mem_keys.mp hkey
        rw [heq,hfound,Option.some_or,Option.some_or]
      · simp only [List.mem_cons,heq,false_or]
    · rw [if_neg hkey,Dict.get?_set]
      by_cases heq : key=first
      · rw [if_pos heq,heq,d.get?_eq_none.mpr hkey,if_pos List.mem_cons_self]
        rfl
      · rw [if_neg heq]
        simp only [List.mem_cons,heq,false_or]

/-- Keys after such assignments. -/
theorem Dict.mem_keys_fill {d : Dict κ α} {keys : List κ} {value : α} {key : κ} :
    key∈(d.fill keys value).keys ↔ key∈d.keys ∨ key∈keys := by
  rw [Dict.mem_keys,Dict.get?_fill,Dict.mem_keys]
  cases d.get? key with
  | none =>
    by_cases hkey : key∈keys
    · simp [hkey]
    · simp [hkey]
  | some found => simp

/-- `==`: the same values for the same keys. -/
def Dict.Same (d other : Dict κ α) : Prop := ∀ key,d.get? key=other.get? key

end Lookup

end Aqts.Dictionary
