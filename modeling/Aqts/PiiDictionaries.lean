import Aqts.JsonText
import Aqts.PiiMasking

/-!
# Personal data in nested values

`mask_dict` and `detect_in_dict` walk over a dictionary, each with a case for strings,
for dictionaries and for lists. Within a list neither has a case for lists, so that a list
that stands in a list is left as it is and is not searched, whatever is below it. Masking
reaches every string and detection reports all there is exactly when nothing is to be
found in such lists.
-/

namespace Aqts.PiiMasking

open JsonText hiding Text

mutual

/-- A value of a dictionary in `_mask_dict_recursive`. -/
def PiiDetector.maskValue (detector : PiiDetector) : Json→Json×List Detection
  | .str text => (.str (detector.maskText text).1,(detector.maskText text).2)
  | .object members =>
    (.object (detector.maskDictRecursive members).1,(detector.maskDictRecursive members).2)
  | .array items =>
    (.array (detector.maskListRecursive items).1,(detector.maskListRecursive items).2)
  | value => (value,[])

/-- `_mask_dict_recursive`, with the detections it appends. -/
def PiiDetector.maskDictRecursive (detector : PiiDetector) :
    List (Text×Json)→List (Text×Json)×List Detection
  | [] => ([],[])
  | (key,value)::members =>
    ((key,(detector.maskValue value).1)::(detector.maskDictRecursive members).1,
      (detector.maskValue value).2++(detector.maskDictRecursive members).2)

/-- An item of a list in `_mask_list_recursive`. -/
def PiiDetector.maskItem (detector : PiiDetector) : Json→Json×List Detection
  | .str text => (.str (detector.maskText text).1,(detector.maskText text).2)
  | .object members =>
    (.object (detector.maskDictRecursive members).1,(detector.maskDictRecursive members).2)
  | item => (item,[])

/-- `_mask_list_recursive`, with the detections it appends. -/
def PiiDetector.maskListRecursive (detector : PiiDetector) : List Json→List Json×List Detection
  | [] => ([],[])
  | item::items => ((detector.maskItem item).1::(detector.maskListRecursive items).1,
      (detector.maskItem item).2++(detector.maskListRecursive items).2)

end

/-- `mask_dict`. The keys of a dictionary are different, so that every assignment appends. -/
def PiiDetector.maskDict (detector : PiiDetector) (data : List (Text×Json)) :
    List (Text×Json)×List Detection :=
  detector.maskDictRecursive data

/-- `current_path` of a member. -/
def memberPath (path key : Text) : Text := if path.isEmpty=true then key else path++ '.'::key

/-- The path of an item. -/
def itemPath (path : Text) (i : ℕ) : Text := path++ '['::((toString i).toList++[']'])

mutual

/-- A value of a dictionary in `detect_in_dict`, at its path. -/
def PiiDetector.detectValue (detector : PiiDetector) (path : Text) : Json→List Detection
  | .str text => (detector.detect text).map fun d => {d with metadataPath := some path}
  | .object members => detector.detectInDict path members
  | .array items => detector.detectItems path 0 items
  | _ => []

/-- `detect_in_dict`. -/
def PiiDetector.detectInDict (detector : PiiDetector) (path : Text) :
    List (Text×Json)→List Detection
  | [] => []
  | (key,value)::members =>
    detector.detectValue (memberPath path key) value++detector.detectInDict path members

/-- An item of a list in `detect_in_dict`. -/
def PiiDetector.detectItem (detector : PiiDetector) (path : Text) (i : ℕ) : Json→List Detection
  | .str text => detector.detect text
  | .object members => detector.detectInDict (itemPath path i) members
  | _ => []

/-- The loop over a list in `detect_in_dict`. -/
def PiiDetector.detectItems (detector : PiiDetector) (path : Text) : ℕ→List Json→List Detection
  | _,[] => []
  | i,item::items => detector.detectItem path i item++detector.detectItems path (i+1) items

end

mutual

/-- The value with every string in it changed. -/
def mapStrings (f : Text→Text) : Json→Json
  | .str text => .str (f text)
  | .object members => .object (mapMembers f members)
  | .array items => .array (mapItems f items)
  | value => value

/-- The members of a dictionary with every string in them changed. -/
def mapMembers (f : Text→Text) : List (Text×Json)→List (Text×Json)
  | [] => []
  | (key,value)::members => (key,mapStrings f value)::mapMembers f members

/-- The items of a list with every string in them changed. -/
def mapItems (f : Text→Text) : List Json→List Json
  | [] => []
  | item::items => mapStrings f item::mapItems f items

end

mutual

/-- The strings of a value, from the first to the last. -/
def stringLeaves : Json→List Text
  | .str text => [text]
  | .object members => memberLeaves members
  | .array items => itemLeaves items
  | _ => []

/-- The strings of a dictionary. -/
def memberLeaves : List (Text×Json)→List Text
  | [] => []
  | (_,value)::members => stringLeaves value++memberLeaves members

/-- The strings of a list. -/
def itemLeaves : List Json→List Text
  | [] => []
  | item::items => stringLeaves item++itemLeaves items

end

mutual

/-- The strings of a value below a list that stands in a list. -/
def hiddenLeaves : Json→List Text
  | .object members => hiddenMembers members
  | .array items => hiddenItems items
  | _ => []

/-- Those of a dictionary. -/
def hiddenMembers : List (Text×Json)→List Text
  | [] => []
  | (_,value)::members => hiddenLeaves value++hiddenMembers members

/-- Those of an item of a list: of a list in it all strings. -/
def hiddenItem : Json→List Text
  | .object members => hiddenMembers members
  | .array items => itemLeaves items
  | _ => []

/-- Those of a list. -/
def hiddenItems : List Json→List Text
  | [] => []
  | item::items => hiddenItem item++hiddenItems items

end

/-- Every string is masked and nothing else is changed, and the detections are those of all
strings. -/
def MasksEveryString (detector : PiiDetector) (data : List (Text×Json)) : Prop :=
  (detector.maskDict data).1=mapMembers (fun text => (detector.maskText text).1) data ∧
    (detector.detectInDict [] data).map (fun d => {d with metadataPath := none})=
      (memberLeaves data).flatMap detector.detect

mutual

/-- Changing the strings changes nothing exactly when it changes none of them. -/
theorem mapStrings_eq_self (f : Text→Text) :
    ∀ value,mapStrings f value=value↔∀ text∈stringLeaves value,f text=text
  | .str text => by simp [mapStrings,stringLeaves]
  | .object members => by
    rw [mapStrings,stringLeaves,←mapMembers_eq_self f members]
    exact ⟨fun h => Json.object.inj h,congrArg Json.object⟩
  | .array items => by
    rw [mapStrings,stringLeaves,←mapItems_eq_self f items]
    exact ⟨fun h => Json.array.inj h,congrArg Json.array⟩
  | .null => by simp [mapStrings,stringLeaves]
  | .bool b => by simp [mapStrings,stringLeaves]
  | .int n => by simp [mapStrings,stringLeaves]
  | .float isZero => by simp [mapStrings,stringLeaves]

/-- The same for a dictionary. -/
theorem mapMembers_eq_self (f : Text→Text) :
    ∀ members,mapMembers f members=members↔∀ text∈memberLeaves members,f text=text
  | [] => by simp [mapMembers,memberLeaves]
  | (key,value)::members => by
    rw [mapMembers,memberLeaves,List.forall_mem_append,←mapStrings_eq_self f value,
      ←mapMembers_eq_self f members]
    simp

/-- The same for a list. -/
theorem mapItems_eq_self (f : Text→Text) :
    ∀ items,mapItems f items=items↔∀ text∈itemLeaves items,f text=text
  | [] => by simp [mapItems,itemLeaves]
  | item::items => by
    rw [mapItems,itemLeaves,List.forall_mem_append,←mapStrings_eq_self f item,
      ←mapItems_eq_self f items,List.cons.injEq]

end

/-- The masked text of a string. -/
abbrev PiiDetector.masked (detector : PiiDetector) (text : Text) : Text :=
  (detector.maskText text).1

mutual

/-- The masked value has every string masked exactly when masking leaves the hidden ones. -/
theorem maskValue_eq (detector : PiiDetector) :
    ∀ value,(detector.maskValue value).1=mapStrings detector.masked value↔
      ∀ text∈hiddenLeaves value,detector.masked text=text
  | .str text => by simp [PiiDetector.maskValue,mapStrings,hiddenLeaves]
  | .object members => by
    rw [PiiDetector.maskValue,mapStrings,hiddenLeaves,←maskDictRecursive_eq detector members]
    exact ⟨fun h => Json.object.inj h,congrArg Json.object⟩
  | .array items => by
    rw [PiiDetector.maskValue,mapStrings,hiddenLeaves,←maskListRecursive_eq detector items]
    exact ⟨fun h => Json.array.inj h,congrArg Json.array⟩
  | .null => by simp [PiiDetector.maskValue,mapStrings,hiddenLeaves]
  | .bool b => by simp [PiiDetector.maskValue,mapStrings,hiddenLeaves]
  | .int n => by simp [PiiDetector.maskValue,mapStrings,hiddenLeaves]
  | .float isZero => by simp [PiiDetector.maskValue,mapStrings,hiddenLeaves]

/-- The same for a dictionary. -/
theorem maskDictRecursive_eq (detector : PiiDetector) :
    ∀ members,(detector.maskDictRecursive members).1=mapMembers detector.masked members↔
      ∀ text∈hiddenMembers members,detector.masked text=text
  | [] => by simp [PiiDetector.maskDictRecursive,mapMembers,hiddenMembers]
  | (key,value)::members => by
    rw [PiiDetector.maskDictRecursive,mapMembers,hiddenMembers,List.forall_mem_append,
      ←maskValue_eq detector value,←maskDictRecursive_eq detector members]
    simp

/-- An item that is a list keeps its strings. -/
theorem maskItem_eq (detector : PiiDetector) :
    ∀ item,(detector.maskItem item).1=mapStrings detector.masked item↔
      ∀ text∈hiddenItem item,detector.masked text=text
  | .str text => by simp [PiiDetector.maskItem,mapStrings,hiddenItem]
  | .object members => by
    rw [PiiDetector.maskItem,mapStrings,hiddenItem,←maskDictRecursive_eq detector members]
    exact ⟨fun h => Json.object.inj h,congrArg Json.object⟩
  | .array items => by
    have h := mapStrings_eq_self detector.masked (.array items)
    rw [stringLeaves] at h
    change .array items=mapStrings detector.masked (.array items)↔_
    rw [hiddenItem,←h,eq_comm]
  | .null => by simp [PiiDetector.maskItem,mapStrings,hiddenItem]
  | .bool b => by simp [PiiDetector.maskItem,mapStrings,hiddenItem]
  | .int n => by simp [PiiDetector.maskItem,mapStrings,hiddenItem]
  | .float isZero => by simp [PiiDetector.maskItem,mapStrings,hiddenItem]

/-- The same for a list. -/
theorem maskListRecursive_eq (detector : PiiDetector) :
    ∀ items,(detector.maskListRecursive items).1=mapItems detector.masked items↔
      ∀ text∈hiddenItems items,detector.masked text=text
  | [] => by simp [PiiDetector.maskListRecursive,mapItems,hiddenItems]
  | item::items => by
    rw [PiiDetector.maskListRecursive,mapItems,hiddenItems,List.forall_mem_append,
      ←maskItem_eq detector item,←maskListRecursive_eq detector items,List.cons.injEq]

end

/-- What is reported of some strings: all their detections, in their order. -/
def PiiDetector.reports (detector : PiiDetector) (texts : List Text) : List Detection :=
  texts.flatMap detector.detect

/-- Of two parts. -/
theorem reports_append (detector : PiiDetector) (texts texts' : List Text) :
    detector.reports (texts++texts')=detector.reports texts++detector.reports texts' :=
  List.flatMap_append

/-- Of one string. -/
theorem reports_one (detector : PiiDetector) (text : Text) :
    detector.reports [text]=detector.detect text := List.flatMap_singleton _ _

/-- The detection without its path. -/
abbrev Detection.bare (d : Detection) : Detection := {d with metadataPath := none}

/-- A detection of a text has no path, and one that is set does not show without it. -/
theorem map_bare_detect (detector : PiiDetector) (text : Text) :
    (detector.detect text).map Detection.bare=detector.detect text := by
  have hnone : ∀ d∈detector.detect text,d.bare=id d := by
    intro d hd
    obtain ⟨item,-,hitem⟩ := List.mem_flatMap.mp hd
    obtain ⟨span,-,rfl⟩ := List.mem_map.mp hitem
    rfl
  exact (List.map_congr_left hnone).trans (List.map_id _)

mutual

/-- What is not reported are the detections of the hidden strings. -/
theorem detectValue_length (detector : PiiDetector) (path : Text) :
    ∀ value,(detector.detectValue path value).length+
      (detector.reports (hiddenLeaves value)).length=
        (detector.reports (stringLeaves value)).length
  | .str text => by simp [PiiDetector.reports,PiiDetector.detectValue,hiddenLeaves,stringLeaves]
  | .object members => by
    rw [PiiDetector.detectValue,hiddenLeaves,stringLeaves]
    exact detectInDict_length detector path members
  | .array items => by
    rw [PiiDetector.detectValue,hiddenLeaves,stringLeaves]
    exact detectItems_length detector path 0 items
  | .null => by simp [PiiDetector.reports,PiiDetector.detectValue,hiddenLeaves,stringLeaves]
  | .bool b => by simp [PiiDetector.reports,PiiDetector.detectValue,hiddenLeaves,stringLeaves]
  | .int n => by simp [PiiDetector.reports,PiiDetector.detectValue,hiddenLeaves,stringLeaves]
  | .float isZero => by simp [PiiDetector.reports,PiiDetector.detectValue,hiddenLeaves,stringLeaves]

/-- The same for a dictionary. -/
theorem detectInDict_length (detector : PiiDetector) (path : Text) :
    ∀ members,(detector.detectInDict path members).length+
      (detector.reports (hiddenMembers members)).length=
        (detector.reports (memberLeaves members)).length
  | [] => by simp [PiiDetector.reports,PiiDetector.detectInDict,hiddenMembers,memberLeaves]
  | (key,value)::members => by
    have hvalue := detectValue_length detector (memberPath path key) value
    have hmembers := detectInDict_length detector path members
    rw [PiiDetector.detectInDict,hiddenMembers,memberLeaves,reports_append,reports_append,
      List.length_append,List.length_append,List.length_append]
    omega

/-- Of an item that is a list nothing is reported. -/
theorem detectItem_length (detector : PiiDetector) (path : Text) (i : ℕ) :
    ∀ item,(detector.detectItem path i item).length+
      (detector.reports (hiddenItem item)).length=
        (detector.reports (stringLeaves item)).length
  | .str text => by simp [PiiDetector.reports,PiiDetector.detectItem,hiddenItem,stringLeaves]
  | .object members => by
    rw [PiiDetector.detectItem,hiddenItem,stringLeaves]
    exact detectInDict_length detector (itemPath path i) members
  | .array items => by simp [PiiDetector.reports,PiiDetector.detectItem,hiddenItem,stringLeaves]
  | .null => by simp [PiiDetector.reports,PiiDetector.detectItem,hiddenItem,stringLeaves]
  | .bool b => by simp [PiiDetector.reports,PiiDetector.detectItem,hiddenItem,stringLeaves]
  | .int n => by simp [PiiDetector.reports,PiiDetector.detectItem,hiddenItem,stringLeaves]
  | .float isZero => by simp [PiiDetector.reports,PiiDetector.detectItem,hiddenItem,stringLeaves]

/-- The same for a list. -/
theorem detectItems_length (detector : PiiDetector) (path : Text) :
    ∀ i items,(detector.detectItems path i items).length+
      (detector.reports (hiddenItems items)).length=
        (detector.reports (itemLeaves items)).length
  | _,[] => by simp [PiiDetector.reports,PiiDetector.detectItems,hiddenItems,itemLeaves]
  | i,item::items => by
    have hitem := detectItem_length detector path i item
    have hitems := detectItems_length detector path (i+1) items
    rw [PiiDetector.detectItems,hiddenItems,itemLeaves,reports_append,reports_append,
      List.length_append,List.length_append,List.length_append]
    omega

end

mutual

/-- If nothing is found in the hidden strings, all detections of a value are reported. -/
theorem detectValue_reports (detector : PiiDetector) (path : Text) :
    ∀ value,(∀ text∈hiddenLeaves value,detector.detect text=[])→
      (detector.detectValue path value).map Detection.bare=detector.reports (stringLeaves value)
  | .str text,_ => by
    rw [PiiDetector.detectValue,stringLeaves,List.map_map,reports_one]
    exact map_bare_detect detector text
  | .object members,h => by
    rw [PiiDetector.detectValue,stringLeaves]
    exact detectInDict_reports detector path members (by rwa [hiddenLeaves] at h)
  | .array items,h => by
    rw [PiiDetector.detectValue,stringLeaves]
    exact detectItems_reports detector path 0 items (by rwa [hiddenLeaves] at h)
  | .null,_ => rfl
  | .bool b,_ => rfl
  | .int n,_ => rfl
  | .float isZero,_ => rfl

/-- The same for a dictionary. -/
theorem detectInDict_reports (detector : PiiDetector) (path : Text) :
    ∀ members,(∀ text∈hiddenMembers members,detector.detect text=[])→
      (detector.detectInDict path members).map Detection.bare=
        detector.reports (memberLeaves members)
  | [],_ => rfl
  | (key,value)::members,h => by
    rw [hiddenMembers,List.forall_mem_append] at h
    rw [PiiDetector.detectInDict,memberLeaves,List.map_append,reports_append,
      detectValue_reports detector _ value h.1,detectInDict_reports detector path members h.2]

/-- The same for an item of a list. -/
theorem detectItem_reports (detector : PiiDetector) (path : Text) (i : ℕ) :
    ∀ item,(∀ text∈hiddenItem item,detector.detect text=[])→
      (detector.detectItem path i item).map Detection.bare=detector.reports (stringLeaves item)
  | .str text,_ => by
    rw [PiiDetector.detectItem,stringLeaves,reports_one]
    exact map_bare_detect detector text
  | .object members,h => by
    rw [PiiDetector.detectItem,stringLeaves]
    exact detectInDict_reports detector _ members (by rwa [hiddenItem] at h)
  | .array items,h => by
    rw [hiddenItem] at h
    change []=detector.reports (stringLeaves (.array items))
    rw [stringLeaves]
    exact (List.flatMap_eq_nil_iff.mpr h).symm
  | .null,_ => rfl
  | .bool b,_ => rfl
  | .int n,_ => rfl
  | .float isZero,_ => rfl

/-- The same for a list. -/
theorem detectItems_reports (detector : PiiDetector) (path : Text) :
    ∀ i items,(∀ text∈hiddenItems items,detector.detect text=[])→
      (detector.detectItems path i items).map Detection.bare=detector.reports (itemLeaves items)
  | _,[],_ => rfl
  | i,item::items,h => by
    rw [hiddenItems,List.forall_mem_append] at h
    rw [PiiDetector.detectItems,itemLeaves,List.map_append,reports_append,
      detectItem_reports detector path i item h.1,detectItems_reports detector path (i+1) items h.2]

end

/-- Every string of a dictionary is masked and searched exactly when nothing is found in a
string below a list that stands in a list. -/
theorem maskDict_everyString (detector : PiiDetector) (data : List (Text×Json)) :
    MasksEveryString detector data↔∀ text∈hiddenMembers data,detector.detect text=[] := by
  constructor
  · rintro ⟨-,hdetect⟩
    have hlength : (detector.detectInDict [] data).length=
        (detector.reports (memberLeaves data)).length := by
      have heq := congrArg List.length hdetect
      rwa [List.length_map] at heq
    have hcount := detectInDict_length detector [] data
    have hnone : detector.reports (hiddenMembers data)=[] := List.length_eq_zero_iff.mp (by omega)
    exact List.flatMap_eq_nil_iff.mp hnone
  · intro h
    refine ⟨(maskDictRecursive_eq detector data).mpr fun text htext => ?_,
      detectInDict_reports detector [] data h⟩
    unfold PiiDetector.masked PiiDetector.maskText
    dsimp only
    rw [h text htext]
    rfl

/-- A list of lists, as a table of rows. -/
def table : List (Text×Json) := [("rows".toList,.array [.array [.str secret]])]

/-- The secret in a table is neither masked nor reported. -/
theorem not_everyString_table : ¬∀ detector data,MasksEveryString detector data := by
  intro h
  have hmasked := (h secretDetector table).1
  have hrow := (mapMembers_eq_self (fun text => (secretDetector.maskText text).1) table).mp
    hmasked.symm secret (by decide)
  revert hrow
  decide +kernel

end Aqts.PiiMasking
