import Aqts.JsonText
import Aqts.RealtimeFrames

/-!
# JSON frames of the realtime socket

`KISRealtimeClient._handle_json_response` takes the members of a JSON response
with `get` and catches the decode error alone. A frame that is JSON of another
shape raises, and the receive loop ends; the frames that are handled without an
exception are determined here.
-/

namespace Aqts.RealtimeResponses

open RealtimeFrames
open JsonText hiding Text

/-- What the interpreter does with JSON texts and keys. -/
structure Reading where
  /-- The nesting at which `json.loads` gives up. -/
  maxDepth : ℕ
  /-- What a decryption is given for a key that is no string. -/
  keyText : Json→Text
  /-- It is given something. -/
  keyText_ne : ∀ key,keyText key≠[]

/-- A key as a decryption is given it. -/
def Reading.key (reading : Reading) : Json→Text
  | .str text => text
  | key => reading.keyText key

/-- `in` a set of texts, with the text that was found. What cannot stand in a
set raises. -/
def among (texts : List Text) (value : Json) : Option (Option Text) :=
  if value.hashable then
    match value with
    | .str text => some (if texts.contains text=true then some text else none)
    | _ => some none
  else none

/-- The end of `_handle_json_response`: the key and the initial vector in the
body of a response about notices, where both are there. Nothing where it raises. -/
def noticeKeys (notice : Text) (body : Json) : Option (Option (Text×Json×Json)) :=
  match body.get "output".toList (.object []) with
  | none => none
  | some output =>
    match output.get "key".toList .null,output.get "iv".toList .null with
    | some key,some iv =>
      some (if key.truthy=true ∧ iv.truthy=true then some (notice,key,iv) else none)
    | _,_ => none

/-- `_handle_json_response` on the header and the body of a response. The message
of the body is taken for the log only. -/
def partKeys (header body : Json) : Option (Option (Text×Json×Json)) :=
  match header.get "tr_id".toList (.str []),header.get "msg_cd".toList (.str []) with
  | some trId,some msgCd =>
    if msgCd.truthy=true ∧ (body.get "msg1".toList (.str []))=none then none
    else
      match among execNoticeTrIds trId with
      | none => none
      | some none => some none
      | some (some notice) => noticeKeys notice body
  | _,_ => none

/-- `_handle_json_response` on a response that was read: the transaction id, the
key and the initial vector that it keeps, if any. Nothing where it raises. -/
def responseKeys (data : Json) : Option (Option (Text×Json×Json)) :=
  match data.get "header".toList (.object []),data.get "body".toList (.object []) with
  | some header,some body => partKeys header body
  | _,_ => none

/-- The answer that a frame is, with `json.loads` and the members of its value. -/
def Reading.answer (reading : Reading) (raw : Text) : Answer :=
  match loads reading.maxDepth raw with
  | .error .decodeError => .invalid
  | .error .other => .other
  | .ok data =>
    match responseKeys data with
    | none => .other
    | some none => .object [] [] []
    | some (some (trId,key,iv)) => .object trId (reading.key key) (reading.key iv)

/-- A member of a value, with a default where there is none. -/
def part (name : String) (default value : Json) : Json :=
  (value.get name.toList default).getD default

/-- The transaction id of a header. -/
def trId (header : Json) : Json := part "tr_id" (.str []) header

/-- The header has a message code. -/
def HasCode (header : Json) : Prop := (part "msg_cd" (.str []) header).truthy=true

/-- The header is one of a response about execution notices. -/
def IsNotice (header : Json) : Prop := ∃ text∈execNoticeTrIds,trId header=.str text

/-- The parts of a response are dictionaries where the handler looks into them. -/
structure PartsShaped (header body : Json) : Prop where
  /-- The header is a dictionary. -/
  headerObject : header.isObject=true
  /-- The transaction id may stand in a set. -/
  hashable : (trId header).hashable=true
  /-- With a message code or for a notice the body is a dictionary. -/
  bodyObject : HasCode header ∨ IsNotice header→body.isObject=true
  /-- The output of a notice is one. -/
  outputObject : IsNotice header→(part "output" (.object []) body).isObject=true

/-- A response of the shape that the handler takes. -/
structure WellShaped (data : Json) : Prop where
  /-- The response is a dictionary. -/
  object : data.isObject=true
  /-- Its parts are shaped. -/
  parts : PartsShaped (part "header" (.object []) data) (part "body" (.object []) data)

variable {value default header body data : Json} {name : String}

/-- A dictionary has a member or the default. -/
theorem get_isObject (h : value.isObject=true) :
    value.get name.toList default=some (part name default value) := by
  cases value with
  | object members => rfl
  | _ => cases h

/-- What is no dictionary has no members. -/
theorem get_not_isObject (h : ¬value.isObject=true) : value.get name.toList default=none := by
  cases value with
  | object members => exact absurd rfl h
  | null => rfl
  | bool _ => rfl
  | int _ => rfl
  | float _ => rfl
  | str _ => rfl
  | array _ => rfl

/-- A value that may stand in a set is no text of it or one. -/
theorem among_hashable (texts : List Text) (h : value.hashable=true) :
    among texts value=some none ∧ (¬∃ text∈texts,value=.str text) ∨
      ∃ text∈texts,value=.str text ∧ among texts value=some (some text) := by
  unfold among
  rw [if_pos h]
  cases value with
  | str text =>
    dsimp only
    by_cases hmem : texts.contains text=true
    · rw [if_pos hmem]
      exact .inr ⟨text,List.contains_iff_mem.mp hmem,rfl,rfl⟩
    · rw [if_neg hmem]
      refine .inl ⟨rfl,?_⟩
      rintro ⟨other,hother,heq⟩
      cases heq
      exact hmem (List.contains_iff_mem.mpr hother)
  | null => exact .inl ⟨rfl,fun ⟨_,_,heq⟩ => nomatch heq⟩
  | bool _ => exact .inl ⟨rfl,fun ⟨_,_,heq⟩ => nomatch heq⟩
  | int _ => exact .inl ⟨rfl,fun ⟨_,_,heq⟩ => nomatch heq⟩
  | float _ => exact .inl ⟨rfl,fun ⟨_,_,heq⟩ => nomatch heq⟩
  | array _ => cases h
  | object _ => cases h

/-- The body of a notice is handled exactly when it is a dictionary and its output
is one. -/
theorem noticeKeys_isSome_iff (notice : Text) (body : Json) :
    (noticeKeys notice body).isSome=true↔
      body.isObject=true ∧ (part "output" (.object []) body).isObject=true := by
  unfold noticeKeys
  by_cases hbody : body.isObject=true
  · rw [get_isObject hbody]
    dsimp only
    by_cases houtput : (part "output" (.object []) body).isObject=true
    · rw [get_isObject houtput,get_isObject houtput]
      exact iff_of_true rfl ⟨hbody,houtput⟩
    · rw [get_not_isObject houtput]
      exact iff_of_false Bool.false_ne_true fun h => houtput h.2
  · rw [get_not_isObject hbody]
    exact iff_of_false Bool.false_ne_true fun h => hbody h.1

/-- The parts of a response are handled exactly when they are shaped. -/
theorem partKeys_isSome_iff (header body : Json) :
    (partKeys header body).isSome=true↔PartsShaped header body := by
  unfold partKeys
  by_cases hheader : header.isObject=true
  · rw [get_isObject hheader,get_isObject hheader]
    dsimp only
    by_cases hcode : HasCode header ∧ ¬body.isObject=true
    · rw [if_pos ⟨hcode.1,get_not_isObject hcode.2⟩]
      exact iff_of_false Bool.false_ne_true fun h => hcode.2 (h.bodyObject (.inl hcode.1))
    · have hlog : ¬((part "msg_cd" (.str []) header).truthy=true ∧
          body.get "msg1".toList (.str [])=none) := by
        rintro ⟨htruthy,hnone⟩
        refine hcode ⟨htruthy,?_⟩
        intro hbody
        rw [get_isObject hbody] at hnone
        cases hnone
      rw [if_neg hlog]
      by_cases hhash : (trId header).hashable=true
      · obtain ⟨hfound,hother⟩ | ⟨notice,hmem,hid,hfound⟩ :=
          among_hashable execNoticeTrIds hhash
        · have hlookup : among execNoticeTrIds (part "tr_id" (.str []) header)=some none := hfound
          rw [hlookup]
          refine iff_of_true rfl ⟨hheader,hhash,?_,fun hnotice => absurd hnotice hother⟩
          rintro (hhas | hnotice)
          · by_contra hbody
            exact hcode ⟨hhas,hbody⟩
          · exact absurd hnotice hother
        · have hlookup : among execNoticeTrIds (part "tr_id" (.str []) header)=some (some notice) :=
            hfound
          rw [hlookup]
          refine (noticeKeys_isSome_iff notice body).trans ?_
          constructor
          · intro hshape
            exact ⟨hheader,hhash,fun _ => hshape.1,fun _ => hshape.2⟩
          · intro hshape
            exact ⟨hshape.bodyObject (.inr ⟨notice,hmem,hid⟩),hshape.outputObject ⟨notice,hmem,hid⟩⟩
      · have hlookup : among execNoticeTrIds (part "tr_id" (.str []) header)=none := if_neg hhash
        rw [hlookup]
        exact iff_of_false Bool.false_ne_true fun h => hhash h.hashable
  · rw [get_not_isObject hheader]
    exact iff_of_false Bool.false_ne_true fun h => hheader h.headerObject

/-- A response is handled exactly when it is well shaped. -/
theorem responseKeys_isSome_iff (data : Json) :
    (responseKeys data).isSome=true↔WellShaped data := by
  unfold responseKeys
  by_cases hdata : data.isObject=true
  · rw [get_isObject hdata,get_isObject hdata]
    refine (partKeys_isSome_iff _ _).trans ?_
    exact ⟨fun hparts => ⟨hdata,hparts⟩,fun hshape => hshape.parts⟩
  · rw [get_not_isObject hdata]
    exact iff_of_false Bool.false_ne_true fun h => hdata h.object

variable {F : Type*}

/-- A response raises exactly when it is read as nothing that the handler takes. -/
theorem handleJsonResponse_raised (w : World F) (client : Client) (raw : Text) :
    (handleJsonResponse w client raw).raised=true↔w.answer raw=.other := by
  unfold handleJsonResponse
  cases w.answer raw with
  | invalid => exact iff_of_false Bool.false_ne_true nofun
  | other => exact iff_of_true rfl rfl
  | object trId key iv =>
    dsimp only
    split
    · exact iff_of_false Bool.false_ne_true nofun
    · exact iff_of_false Bool.false_ne_true nofun

variable [Zero F]

/-- A data frame never raises. -/
theorem handleRecords_raised (w : World F) (client : Client) (trId data : Text) :
    (handleRecords w client trId data).raised=false := by
  unfold handleRecords
  dsimp only
  split
  · rfl
  · split
    · rfl
    · rfl

/-- A notice never raises, whether or not it can be decrypted. -/
theorem handleExecNotice_raised (w : World F) (client : Client) (trId data : Text)
    (isEncrypted : Bool) : (handleExecNotice w client trId data isEncrypted).raised=false := by
  unfold handleExecNotice
  split
  · split
    · rfl
    · split
      · rfl
      · rfl
  · rfl

/-- A text that begins neither a heartbeat nor a data frame is handled when it is
no JSON at all or a well shaped response. -/
def Answerable (reading : Reading) (raw : Text) : Prop :=
  loads reading.maxDepth raw=.error .decodeError ∨
    ∃ data,loads reading.maxDepth raw=.ok data ∧ WellShaped data

/-- A frame that the client handles: the empty one, one that begins with a digit
of the data frames, and an answerable text. -/
def Harmless (reading : Reading) (raw : Text) : Prop :=
  raw=[] ∨ (∃ first∈['0','1'],raw.head?=some first) ∨ Answerable reading raw

/-- The answer makes the handler raise exactly when the text is not answerable. -/
theorem answer_other_iff (reading : Reading) (raw : Text) :
    reading.answer raw=.other↔¬Answerable reading raw := by
  unfold Reading.answer Answerable
  cases hloads : loads reading.maxDepth raw with
  | error failure =>
    cases failure with
    | decodeError => exact iff_of_false nofun fun h => h (.inl rfl)
    | other =>
      refine iff_of_true rfl ?_
      rintro (h | ⟨data,hdata,_⟩)
      · cases h
      · cases hdata
  | ok data =>
    dsimp only
    have hshape := responseKeys_isSome_iff data
    cases hkeys : responseKeys data with
    | none =>
      rw [hkeys] at hshape
      refine iff_of_true rfl ?_
      rintro (h | ⟨other,hother,hwell⟩)
      · cases h
      · cases hother
        exact Bool.false_ne_true (hshape.mpr hwell)
    | some keys =>
      rw [hkeys] at hshape
      have hwell : WellShaped data := hshape.mp rfl
      cases keys with
      | none => exact iff_of_false nofun fun h => h (.inr ⟨data,rfl,hwell⟩)
      | some triple => exact iff_of_false nofun fun h => h (.inr ⟨data,rfl,hwell⟩)

/-- A connected client handles a frame without an exception exactly when the frame
is harmless, whatever the reading of numbers and the decryption do. -/
theorem handleMessage_raised_iff (w : World F) (reading : Reading) (client : Client) (raw : Text)
    (hws : client.ws=true) :
    (handleMessage {w with answer := reading.answer} client raw).raised=false↔
      Harmless reading raw := by
  unfold handleMessage Harmless
  cases raw with
  | nil => exact iff_of_true rfl (.inl rfl)
  | cons first rest =>
    dsimp only
    by_cases hping : first= '1'
    · rw [if_pos hping,if_pos hws]
      refine iff_of_true rfl (.inr (.inl ⟨first,?_,rfl⟩))
      rw [hping]
      decide
    · rw [if_neg hping]
      by_cases hdigit : first∈['0','1']
      · rw [if_pos hdigit]
        refine iff_of_true ?_ (.inr (.inl ⟨first,hdigit,rfl⟩))
        split
        · split
          · exact handleExecNotice_raised _ client _ _ _
          · exact handleRecords_raised _ client _ _
        · rfl
      · rw [if_neg hdigit]
        have hnot : ¬∃ other∈['0','1'],(first::rest).head?=some other := by
          rintro ⟨other,hother,hhead⟩
          cases hhead
          exact hdigit hother
        rw [or_iff_right (List.cons_ne_nil first rest),or_iff_right hnot,← Bool.not_eq_true,
          handleJsonResponse_raised,answer_other_iff,not_not]

/-- A world without numbers and without keys. -/
def silentWorld : World ℤ := ⟨fun _ => none,fun _ => none,fun _ _ _ => none,fun _ => .invalid,[]⟩

/-- The interpreter's limit of the nesting, and one text for every key that is no string. -/
def usualReading : Reading := ⟨1000,fun _ => ['k'],fun _ => List.cons_ne_nil _ _⟩

/-- A connected client without callbacks. -/
def plainClient : Client := ⟨true,[],[],false,false,false,false,⟨0,0,0,0⟩⟩

/-- A response to a subscription is handled. -/
theorem handleMessage_raised_subscribed :
    (handleMessage {silentWorld with answer := usualReading.answer} plainClient
        "\x7b\"header\":\x7b\x7d\x7d".toList).raised=false↔
      Harmless usualReading "\x7b\"header\":\x7b\x7d\x7d".toList :=
  handleMessage_raised_iff silentWorld usualReading plainClient _ rfl

/-- A frame that is an empty JSON list raises. -/
theorem not_handled :
    ¬∀ (w : World ℤ) (reading : Reading) (client : Client) (raw : Text),client.ws=true→
      (handleMessage {w with answer := reading.answer} client raw).raised=false := by
  intro hall
  have hraised := hall silentWorld usualReading plainClient "[]".toList rfl
  revert hraised
  decide +kernel

end Aqts.RealtimeResponses
