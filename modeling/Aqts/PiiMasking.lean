import Aqts.Dictionary
import Aqts.SpanReplacement
import Mathlib.Data.List.Sort

/-!
# Personal data masked in a text

`mask_text` looks for the matches of every pattern in the text and writes a mask in the
place of each, the one that starts last first. Matches of different patterns may overlap,
and a mask is seldom as long as what it covers, so that the positions of an overlapping
match are no longer those of the text. The text outside the matches is left and the rest
is not, exactly if the offsets agree all the same.
-/

namespace Aqts.PiiMasking

open Dictionary SpanReplacement

/-- A text. -/
abbrev Text := List Char

/-- `PIIPattern`. -/
inductive PiiPattern
  /-- `RESIDENT_NUMBER`. -/
  | residentNumber
  /-- `PHONE_NUMBER`. -/
  | phoneNumber
  /-- `EMAIL`. -/
  | email
  /-- `ACCOUNT_NUMBER`. -/
  | accountNumber
  /-- `CARD_NUMBER`. -/
  | cardNumber
  /-- `IP_ADDRESS`. -/
  | ipAddress
  /-- `API_KEY`. -/
  | apiKey
  deriving DecidableEq

/-- A compiled pattern: the matches that `finditer` gives for a text, each from its first
position to the one behind its last. -/
structure Pattern where
  /-- `finditer`. -/
  finditer : Text→List (ℕ×ℕ)
  /-- Every match is within the text. -/
  within : ∀ text,∀ span∈finditer text,span.1≤ span.2 ∧ span.2≤text.length
  /-- No match begins before the one in front of it ends. -/
  apart : ∀ text,(finditer text).Pairwise fun a b => a.2≤b.1

/-- `PII_PATTERNS`, by their sources. -/
def piiPatterns : List (PiiPattern×String) :=
  [(.residentNumber,"\\d\x7b6\x7d\\s*-\\s*[1-4]\\d\x7b6\x7d"),
    (.phoneNumber,"01[016789]-?\\d\x7b3,4\x7d-?\\d\x7b4\x7d"),
    (.email,"[a-zA-Z0-9._%+-]+@[a-zA-Z0-9.-]+\\.[a-zA-Z]\x7b2,\x7d"),
    (.accountNumber,"\\d\x7b3,4\x7d-?\\d\x7b2,4\x7d-?\\d\x7b4,6\x7d"),
    (.cardNumber,"\\d\x7b4\x7d[\\s-]?\\d\x7b4\x7d[\\s-]?\\d\x7b4\x7d[\\s-]?\\d\x7b4\x7d"),
    (.ipAddress,"\\b(?:\\d\x7b1,3\x7d\\.)\x7b3\x7d\\d\x7b1,3\x7d\\b"),
    (.apiKey,"(?:sk|pk|api|key|token|secret)[_-]?[a-zA-Z0-9_-]\x7b16,\x7d")]

/-- `MASKING_RULES`. -/
def maskingRules : PiiPattern→Text
  | .residentNumber => "******-*******".toList
  | .phoneNumber => "***-****-****".toList
  | .email => "***@***".toList
  | .accountNumber => "****-**-******".toList
  | .cardNumber => "****-****-****-****".toList
  | .ipAddress => "***.***.***.***".toList
  | .apiKey => "***MASKED***".toList

/-- `PIIDetection`. -/
structure Detection where
  /-- `pattern_type`. -/
  patternType : PiiPattern
  /-- `original_value`. -/
  originalValue : Text
  /-- `position`. -/
  position : ℕ×ℕ
  /-- `masked_value`. -/
  maskedValue : Text
  /-- `metadata_path`, which only `detect_in_dict` sets. -/
  metadataPath : Option Text := none
  deriving DecidableEq

/-- `PIIDetector`. -/
structure PiiDetector where
  /-- `_patterns`. -/
  patterns : Dict PiiPattern Pattern

/-- The constructor, with `re.compile`. -/
def PiiDetector.new (compile : String→Pattern) (patterns : Option (Dict PiiPattern Pattern)) :
    PiiDetector :=
  let default := Dict.collect (piiPatterns.map fun entry => (entry.1,compile entry.2))
  match patterns with
  | some patterns => ⟨if patterns.items.isEmpty=true then default else patterns⟩
  | none => ⟨default⟩

/-- The detection of a match. -/
def detection (patternType : PiiPattern) (text : Text) (span : ℕ×ℕ) : Detection where
  patternType := patternType
  originalValue := (text.take span.2).drop span.1
  position := span
  maskedValue := maskingRules patternType

/-- `detect`. -/
def PiiDetector.detect (detector : PiiDetector) (text : Text) : List Detection :=
  detector.patterns.items.flatMap fun item =>
    (item.2.finditer text).map (detection item.1 text)

/-- `sorted(detections, key=lambda d: d.position[0], reverse=True)`. -/
def fromTheRight (detections : List Detection) : List Detection :=
  detections.insertionSort fun a b => b.position.1≤a.position.1

/-- One round of `mask_text`. -/
def maskOne (maskedText : Text) (d : Detection) : Text :=
  maskedText.take d.position.1++d.maskedValue++maskedText.drop d.position.2

/-- `mask_text`. -/
def PiiDetector.maskText (detector : PiiDetector) (text : Text) : Text×List Detection :=
  let detections := detector.detect text
  if detections.isEmpty=true then (text,[])
  else ((fromTheRight detections).foldl maskOne text,detections)

/-- The replacement of a detection. -/
def Detection.replacement (d : Detection) : Replacement Char :=
  ⟨d.position.1,d.position.2,d.maskedValue⟩

/-- What becomes of every position of the text. -/
def PiiDetector.marks (detector : PiiDetector) (text : Text) : List (Mark Char) :=
  trace text.length ((fromTheRight (detector.detect text)).map Detection.replacement)

/-- The masked text is the text outside the detections, stretch by stretch and in its order, and
no character of a detection is left. -/
def MasksWell (detector : PiiDetector) (text : Text) : Prop :=
  (detector.maskText text).1=(detector.marks text).map (Mark.render text) ∧
    Intact text.length ((detector.detect text).map Detection.replacement) (detector.marks text)

/-- The detections from the left to the right. -/
def PiiDetector.fromTheLeft (detector : PiiDetector) (text : Text) : List (Replacement Char) :=
  ((fromTheRight (detector.detect text)).map Detection.replacement).reverse

variable {detector : PiiDetector} {text : Text}

/-- A detection is within the text. -/
theorem detect_within {d : Detection} (h : d∈detector.detect text) :
    d.position.1≤d.position.2 ∧ d.position.2≤text.length := by
  obtain ⟨item,-,hitem⟩ := List.mem_flatMap.mp h
  obtain ⟨span,hspan,rfl⟩ := List.mem_map.mp hitem
  exact item.2.within text span hspan

/-- A text is masked by replacing the spans of its detections from the right. -/
theorem maskText_eq (detector : PiiDetector) (text : Text) : (detector.maskText text).1=
    spliceAll ((fromTheRight (detector.detect text)).map Detection.replacement) text := by
  have hfold : ∀ (ds : List Detection) (masked : Text),
      ds.foldl maskOne masked=spliceAll (ds.map Detection.replacement) masked := by
    intro ds masked
    unfold spliceAll
    rw [List.foldl_map]
    rfl
  unfold PiiDetector.maskText
  dsimp only
  by_cases hempty : (detector.detect text).isEmpty=true
  · rw [if_pos hempty,List.isEmpty_iff.mp hempty]
    rfl
  · rw [if_neg hempty]
    exact hfold _ text

/-- Sorting keeps the detections. -/
theorem mem_fromTheRight {ds : List Detection} {d : Detection} : d∈fromTheRight ds↔d∈ds :=
  List.mem_insertionSort _

/-- From the left to the right the spans ascend. -/
theorem fromTheLeft_ascending (detector : PiiDetector) (text : Text) :
    Ascending text.length (detector.fromTheLeft text) where
  starts := by
    have : Std.Total fun a b : Detection => b.position.1≤a.position.1 :=
      ⟨fun _ _ => le_total _ _⟩
    have : IsTrans Detection fun a b => b.position.1≤a.position.1 :=
      ⟨fun _ _ _ h h' => le_trans h' h⟩
    have hsorted := List.pairwise_insertionSort
      (fun a b : Detection => b.position.1≤a.position.1) (detector.detect text)
    unfold PiiDetector.fromTheLeft
    rw [List.pairwise_reverse,List.pairwise_map]
    exact hsorted
  within := by
    intro r hr
    obtain ⟨d,hd,rfl⟩ := List.mem_map.mp (List.mem_reverse.mp hr)
    exact detect_within (mem_fromTheRight.mp hd)

/-- Only which spans there are counts for what is outside of them. -/
theorem intact_congr {α : Type*} {n : ℕ} {ds ds' : List (Replacement α)} {marks : List (Mark α)}
    (h : ∀ d,d∈ds↔d∈ds') : Intact n ds marks↔Intact n ds' marks := by
  have hiff : ∀ p : Replacement α→Prop,(∀ d∈ds,p d)↔∀ d∈ds',p d :=
    fun p => forall_congr' fun d => imp_congr_left (h d)
  have huntouched : untouched n ds 0=untouched n ds' 0 := by
    unfold untouched
    refine List.filter_congr fun i _ => decide_eq_decide.mpr (and_congr_right fun _ => ?_)
    exact hiff _
  constructor
  · rintro ⟨hleft,hstretches⟩
    exact ⟨hleft.trans huntouched,fun a b hab hb hout => hstretches a b hab hb ((hiff _).mpr hout)⟩
  · rintro ⟨hleft,hstretches⟩
    exact ⟨hleft.trans huntouched.symm,
      fun a b hab hb hout => hstretches a b hab hb ((hiff _).mp hout)⟩

/-- A text is masked well exactly when, from its first detection on to the right, the offset
at which the code goes on and the end that the detections have reached agree. -/
theorem maskText_masksWell (detector : PiiDetector) (text : Text) :
    MasksWell detector text↔Aligned text.length (detector.fromTheLeft text) 0 0 := by
  have hascending := fromTheLeft_ascending detector text
  have hmarks : detector.marks text=layout text.length (detector.fromTheLeft text) := by
    rw [←trace_reverse hascending]
    unfold PiiDetector.marks PiiDetector.fromTheLeft
    rw [List.reverse_reverse]
  have hsame : ∀ r,r∈(detector.detect text).map Detection.replacement↔
      r∈detector.fromTheLeft text := by
    intro r
    unfold PiiDetector.fromTheLeft
    rw [List.mem_reverse,List.mem_map,List.mem_map]
    exact exists_congr fun d => and_congr_left' mem_fromTheRight.symm
  rw [←layout_intact hascending,←hmarks]
  unfold MasksWell
  rw [intact_congr hsame]
  refine and_iff_right ?_
  rw [maskText_eq]
  exact (render_trace text _).symm

/-- A pattern that matches one span of one text. -/
def matchOf (text : Text) (span : ℕ×ℕ) (h : span.1≤ span.2 ∧ span.2≤text.length) : Pattern where
  finditer other := if other=text then [span] else []
  within := by
    intro other found hfound
    split at hfound
    · rename_i heq
      rw [List.mem_singleton.mp hfound,heq]
      exact h
    · exact absurd hfound List.not_mem_nil
  apart := by
    intro other
    split
    · exact List.pairwise_singleton _ _
    · exact List.Pairwise.nil

/-- A secret with the digits of a card in it. -/
def secret : Text := "token_1234567890123456abcd".toList

/-- What the patterns of account numbers, card numbers and keys find in it. -/
def secretDetector : PiiDetector where
  patterns :=
    { items := [(.accountNumber,matchOf secret (6,20) (by decide)),
        (.cardNumber,matchOf secret (6,22) (by decide)),(.apiKey,matchOf secret (0,26) (by decide))]
      nodup := by
        rw [List.map_cons,List.map_cons,List.map_cons,List.map_nil]
        decide }

/-- The end of the secret is left. -/
theorem not_masksWell_secret : ¬∀ detector text,MasksWell detector text := by
  intro h
  have hleft := (h secretDetector secret).2.left
  revert hleft
  decide +kernel

end Aqts.PiiMasking
