import Mathlib.Data.List.TakeWhile

/-!
# Long messages in pieces

A message that is too long for one request is cut at its last newline before the
limit, or at the limit when there is none, and the newlines at the cut are dropped.
Every round of the loop shortens the text, so the loop ends, the pieces are short
enough and nothing but newlines is lost. Only the first piece can be empty: when the
text begins with a newline and has no other newline before the limit, the cut is at
position zero.
-/

namespace Aqts.TelegramTransport

/-- A text. -/
abbrev Text := List Char

/-- `TELEGRAM_MAX_LENGTH`. -/
def telegramMaxLength : ℕ := 4096

/-- `str.rfind`: the last position of a character. -/
def rfind (c : Char) : Text→Option ℕ
  | [] => none
  | first::rest =>
    match rfind c rest with
    | some i => some (i+1)
    | none => if first=c then some 0 else none

/-- `str.lstrip`. -/
def lstrip (c : Char) (text : Text) : Text := text.dropWhile fun first => first=c

/-- `split_idx`: the last newline before the limit, or else the limit. -/
def splitIdx (maxLength : ℕ) (text : Text) : ℕ := (rfind '\n' (text.take maxLength)).getD maxLength

/-- The loop of `split_message`, for so many rounds at most. -/
def splitLoop (maxLength : ℕ) : ℕ→Text→Option (List Text)
  | 0,_ => none
  | fuel+1,text =>
    if text=[] then some []
    else if text.length≤ maxLength then some [text]
    else (splitLoop maxLength fuel (lstrip '\n' (text.drop (splitIdx maxLength text)))).map
      fun messages => text.take (splitIdx maxLength text)::messages

/-- `split_message`. -/
def splitMessage (fuel : ℕ) (text : Text) (maxLength : ℕ) : Option (List Text) :=
  if text.length≤ maxLength then some [text] else splitLoop maxLength fuel text

/-- `_send_single`: one request for each attempt until one is answered with 200. -/
def sendSingle (maxRetries : ℕ) (post : ℕ→Text→Option ℕ) (text : Text) : Bool :=
  (List.range maxRetries).any fun attempt => post (attempt+1) text=some 200

/-- The loop of `send_text` over the pieces: the answer, and the pieces that were tried. -/
def sendChunks (deliver : Text→Bool) : List Text→Bool×List Text
  | [] => (true,[])
  | chunk::rest =>
    if deliver chunk then ((sendChunks deliver rest).1,chunk::(sendChunks deliver rest).2)
    else (false,[chunk])

/-- `send_text`. -/
def sendText (maxRetries : ℕ) (post : ℕ→Text→Option ℕ) (fuel : ℕ) (text : Text) :
    Option (Bool×List Text) :=
  (splitMessage fuel text telegramMaxLength).map (sendChunks (sendSingle maxRetries post))

/-- The pieces give the text back up to newlines that followed a piece. -/
inductive Rejoins : List Text→Text→Prop
  /-- No piece is left, and no text. -/
  | done : Rejoins [] []
  /-- A piece, the newlines dropped after it, and the rest. -/
  | piece (chunk newlines : Text) {chunks : List Text} {text : Text}
      (hnewlines : ∀ c∈newlines,c= '\n') (hrest : Rejoins chunks text) :
      Rejoins (chunk::chunks) (chunk++newlines++text)

/-- No position is found exactly when the character does not occur. -/
theorem rfind_none {c : Char} {text : Text} : rfind c text=none↔c∉text := by
  induction text with
  | nil => simp [rfind]
  | cons first rest ih =>
    rw [rfind]
    cases hrest : rfind c rest with
    | some j =>
      have hmem : c∈rest := by
        by_contra hnot
        rw [ih.mpr hnot] at hrest
        cases hrest
      simp [hmem]
    | none =>
      have hnot := ih.mp hrest
      by_cases hfirst : first=c
      · simp [hfirst]
      · simp [hfirst,hnot,Ne.symm hfirst]

/-- The last position is that of the character, and none is behind it. -/
theorem rfind_some {c : Char} {text : Text} {i : ℕ} (h : rfind c text=some i) :
    ∃ before after,text=before++c::after ∧ before.length=i ∧ c∉after := by
  induction text generalizing i with
  | nil => simp [rfind] at h
  | cons first rest ih =>
    rw [rfind] at h
    cases hrest : rfind c rest with
    | some j =>
      obtain ⟨before,after,heq,hlen,hnot⟩ := ih hrest
      rw [hrest] at h
      simp only [Option.some.injEq] at h
      refine ⟨first::before,after,by rw [heq,List.cons_append],?_,hnot⟩
      rw [List.length_cons,hlen,h]
    | none =>
      rw [hrest] at h
      by_cases hfirst : first=c
      · simp only [hfirst,if_true,Option.some.injEq] at h
        exact ⟨[],rest,by rw [hfirst]; rfl,h,rfind_none.mp hrest⟩
      · simp [hfirst] at h

/-- The cut is not behind the limit. -/
theorem splitIdx_le (maxLength : ℕ) (text : Text) : splitIdx maxLength text≤ maxLength := by
  unfold splitIdx
  cases hfind : rfind '\n' (text.take maxLength) with
  | none => exact le_rfl
  | some i =>
    obtain ⟨before,after,heq,hlen,-⟩ := rfind_some hfind
    have hle : (text.take maxLength).length≤ maxLength := List.length_take_le _ _
    rw [heq,List.length_append,hlen,List.length_cons] at hle
    rw [Option.getD_some]
    omega

/-- The cut is at position zero exactly when the only newline before the limit is the first
character. -/
theorem splitIdx_zero {maxLength : ℕ} {text : Text} (hmax : 1≤ maxLength) :
    splitIdx maxLength text=0↔text.head?=some '\n' ∧ '\n'∉(text.take maxLength).tail := by
  have hhead : (text.take maxLength).head?=text.head? := by
    rw [List.head?_take,if_neg (by omega)]
  rw [←hhead]
  unfold splitIdx
  cases hfind : rfind '\n' (text.take maxLength) with
  | none =>
    have hnot := rfind_none.mp hfind
    rw [Option.getD_none]
    constructor
    · intro h
      omega
    · rintro ⟨h,-⟩
      exact absurd (List.mem_of_head? h) hnot
  | some i =>
    obtain ⟨before,after,heq,hlen,hnot⟩ := rfind_some hfind
    rw [Option.getD_some,heq,←hlen]
    cases before with
    | nil => simpa using hnot
    | cons first rest => simp

/-- What `lstrip` removes is the character it strips. -/
theorem lstrip_newlines (c : Char) (text : Text) :
    ∃ newlines : Text,(∀ d∈newlines,d=c) ∧ text=newlines++lstrip c text :=
  ⟨text.takeWhile fun first => first=c,
    fun d hd => by simpa using List.mem_takeWhile_imp hd,
    List.takeWhile_append_dropWhile.symm⟩

/-- A stripped text does not begin with the character. -/
theorem lstrip_head (c : Char) (text : Text) : (lstrip c text).head?≠some c := by
  intro h
  have hnot := List.head?_dropWhile_not (fun first => decide (first=c)) text
  unfold lstrip at h
  rw [h] at hnot
  simp at hnot

/-- A stripped text is a suffix. -/
theorem lstrip_length_le (c : Char) (text : Text) : (lstrip c text).length≤text.length :=
  List.length_dropWhile_le _ text

/-- Every round of the loop shortens the text. -/
theorem next_shorter {maxLength : ℕ} {text : Text} (hmax : 1≤ maxLength)
    (hlong : maxLength<text.length) :
    (lstrip '\n' (text.drop (splitIdx maxLength text))).length<text.length := by
  by_cases hzero : splitIdx maxLength text=0
  · obtain ⟨hhead,-⟩ := (splitIdx_zero hmax).mp hzero
    rw [hzero,List.drop_zero]
    cases text with
    | nil => simp at hhead
    | cons first rest =>
      have hfirst : first= '\n' := by simpa using hhead
      have hle := lstrip_length_le '\n' rest
      have heq : lstrip '\n' (first::rest)=lstrip '\n' rest := by
        unfold lstrip
        rw [List.dropWhile_cons_of_pos (by simpa using hfirst)]
      rw [heq,List.length_cons]
      omega
  · have hle := lstrip_length_le '\n' (text.drop (splitIdx maxLength text))
    rw [List.length_drop] at hle
    omega

/-- The text is longer than the limit and is cut at position zero. -/
def EmptyCut (maxLength : ℕ) (text : Text) : Prop :=
  maxLength<text.length ∧ splitIdx maxLength text=0

/-- A stripped text is not cut at position zero. -/
theorem not_emptyCut_lstrip {maxLength : ℕ} (hmax : 1≤ maxLength) (text : Text) :
    ¬EmptyCut maxLength (lstrip '\n' text) := by
  rintro ⟨-,hzero⟩
  exact lstrip_head '\n' text ((splitIdx_zero hmax).mp hzero).1

/-- What the pieces of a text are: short enough, the text again up to newlines, and one of
them empty exactly when the first cut is at position zero. -/
structure Pieces (maxLength : ℕ) (text : Text) (messages : List Text) : Prop where
  /-- No piece is longer than the limit. -/
  short : ∀ chunk∈messages,chunk.length≤ maxLength
  /-- Only newlines are lost. -/
  rejoins : Rejoins messages text
  /-- When a piece is empty. -/
  empty : []∈messages↔EmptyCut maxLength text

/-- A text that is short enough is its own piece. -/
theorem pieces_one {maxLength : ℕ} {text : Text} (hne : text≠[]) (hshort : text.length≤ maxLength) :
    Pieces maxLength text [text] where
  short := by simpa using hshort
  rejoins := by
    have h := Rejoins.piece text [] (by simp) Rejoins.done
    rwa [List.append_nil,List.append_nil] at h
  empty := by
    have hnot : ¬EmptyCut maxLength text := fun h => absurd h.1 (by omega)
    simp only [List.mem_singleton,hnot,iff_false]
    exact hne.symm

/-- A cut in front of pieces of the stripped rest gives pieces. -/
theorem pieces_cut {maxLength : ℕ} {text : Text} {messages : List Text} (hmax : 1≤ maxLength)
    (hlong : maxLength<text.length)
    (hrest : Pieces maxLength (lstrip '\n' (text.drop (splitIdx maxLength text))) messages) :
    Pieces maxLength text (text.take (splitIdx maxLength text)::messages) where
  short := by
    intro chunk hchunk
    rcases List.mem_cons.mp hchunk with rfl | hmem
    · exact (List.length_take_le _ _).trans (splitIdx_le maxLength text)
    · exact hrest.short chunk hmem
  rejoins := by
    obtain ⟨newlines,hnewlines,heq⟩ :=
      lstrip_newlines '\n' (text.drop (splitIdx maxLength text))
    have h := Rejoins.piece (text.take (splitIdx maxLength text)) newlines hnewlines hrest.rejoins
    rwa [List.append_assoc,←heq,List.take_append_drop] at h
  empty := by
    have hnot := not_emptyCut_lstrip hmax (text.drop (splitIdx maxLength text))
    have hne : text≠[] := by
      rintro rfl
      simp at hlong
    rw [List.mem_cons,hrest.empty]
    simp only [hnot,or_false]
    rw [eq_comm,List.take_eq_nil_iff]
    simp only [hne,or_false]
    exact ⟨fun h => ⟨hlong,h⟩,fun h => h.2⟩

/-- With enough rounds the loop ends, always with the same pieces. -/
theorem splitLoop_pieces {maxLength : ℕ} (hmax : 1≤ maxLength) (text : Text) :
    ∃ messages,(∀ fuel,text.length<fuel→splitLoop maxLength fuel text=some messages) ∧
      Pieces maxLength text messages := by
  induction hn : text.length using Nat.strong_induction_on generalizing text with
  | _ n ih =>
    subst hn
    by_cases hne : text=[]
    · refine ⟨[],?_,?_⟩
      · intro fuel hfuel
        obtain ⟨k,rfl⟩ := Nat.exists_eq_add_one_of_ne_zero (by omega : fuel≠0)
        rw [splitLoop,if_pos hne]
      · subst hne
        exact ⟨by simp,Rejoins.done,by simp [EmptyCut]⟩
    by_cases hshort : text.length≤ maxLength
    · refine ⟨[text],?_,pieces_one hne hshort⟩
      intro fuel hfuel
      obtain ⟨k,rfl⟩ := Nat.exists_eq_add_one_of_ne_zero (by omega : fuel≠0)
      rw [splitLoop,if_neg hne,if_pos hshort]
    have hless := next_shorter hmax (not_le.mp hshort)
    obtain ⟨messages,hrun,hpieces⟩ := ih _ hless _ rfl
    refine ⟨_,?_,pieces_cut hmax (not_le.mp hshort) hpieces⟩
    intro fuel hfuel
    obtain ⟨k,rfl⟩ := Nat.exists_eq_add_one_of_ne_zero (by omega : fuel≠0)
    rw [splitLoop,if_neg hne,if_neg hshort,hrun k (by omega),Option.map_some]

/-- So does `split_message`. -/
theorem splitMessage_pieces {maxLength : ℕ} {text : Text} (hmax : 1≤ maxLength) (hne : text≠[]) :
    ∃ messages,(∀ fuel,text.length<fuel→splitMessage fuel text maxLength=some messages) ∧
      Pieces maxLength text messages := by
  by_cases hshort : text.length≤ maxLength
  · exact ⟨[text],fun fuel _ => by rw [splitMessage,if_pos hshort],pieces_one hne hshort⟩
  · obtain ⟨messages,hrun,hpieces⟩ := splitLoop_pieces hmax text
    refine ⟨messages,fun fuel hfuel => ?_,hpieces⟩
    rw [splitMessage,if_neg hshort,hrun fuel hfuel]

/-- The message is cut into pieces that can be sent: the loop ends, no piece is empty or too
long, and only newlines behind a piece are lost. -/
def CutsWell (text : Text) (maxLength : ℕ) : Prop :=
  ∃ messages,(∀ fuel,text.length<fuel→splitMessage fuel text maxLength=some messages) ∧
    (∀ chunk∈messages,chunk≠[] ∧ chunk.length≤ maxLength) ∧ Rejoins messages text

/-- A message is cut into pieces that can be sent exactly when it is short enough, does not
begin with a newline or has another newline before the limit. -/
theorem splitMessage_cutsWell {text : Text} {maxLength : ℕ} (hne : text≠[]) (hmax : 1≤ maxLength) :
    CutsWell text maxLength↔text.length≤ maxLength ∨ text.head?≠some '\n' ∨
      '\n'∈(text.take maxLength).tail := by
  obtain ⟨messages,hrun,hpieces⟩ := splitMessage_pieces hmax hne
  have hcut : ¬EmptyCut maxLength text↔text.length≤ maxLength ∨ text.head?≠some '\n' ∨
      '\n'∈(text.take maxLength).tail := by
    unfold EmptyCut
    rw [splitIdx_zero hmax,not_and_or,not_lt,not_and_or,not_not]
  rw [←hcut,←hpieces.empty]
  constructor
  · rintro ⟨others,hothers,hchunks,-⟩ hmem
    have heq : some others=some messages := by
      rw [←hothers _ (Nat.lt_succ_self _),hrun _ (Nat.lt_succ_self _)]
    rw [Option.some.inj heq] at hchunks
    exact (hchunks [] hmem).1 rfl
  · intro hnot
    refine ⟨messages,hrun,fun chunk hchunk => ⟨?_,hpieces.short chunk hchunk⟩,hpieces.rejoins⟩
    rintro rfl
    exact hnot hchunk

/-- A message of two lines. -/
theorem splitMessage_cutsWell_lines : CutsWell ['a','\n','b'] 2 :=
  (splitMessage_cutsWell (by simp) (by decide)).mpr (.inr (.inl (by simp)))

/-- A long message that begins with a newline has an empty first piece. -/
theorem not_cutsWell_newline :
    ¬∀ (text : Text) (maxLength : ℕ),text≠[]→1≤ maxLength→ CutsWell text maxLength := by
  intro h
  obtain ⟨messages,hrun,hchunks,-⟩ := h ['\n','a','b'] 2 (by simp) (by decide)
  have heq : splitMessage 4 ['\n','a','b'] 2=some [[],['a','b']] := by decide
  have hmessages : [[],['a','b']]=messages := by
    rw [hrun 4 (by decide)] at heq
    exact (Option.some.inj heq).symm
  exact (hchunks [] (by rw [←hmessages]; simp)).1 rfl

/-- The answer is true exactly when every piece was delivered. -/
theorem sendChunks_true (deliver : Text→Bool) (chunks : List Text) :
    (sendChunks deliver chunks).1=true↔∀ chunk∈chunks,deliver chunk=true := by
  induction chunks with
  | nil => simp [sendChunks]
  | cons chunk rest ih =>
    rw [sendChunks]
    by_cases hchunk : deliver chunk=true
    · rw [if_pos hchunk]
      simp [hchunk,ih]
    · rw [if_neg hchunk]
      simp [hchunk]

/-- The pieces that were tried are the first ones, up to the one that failed. -/
theorem sendChunks_tried (deliver : Text→Bool) (chunks : List Text) :
    (sendChunks deliver chunks).2<+:chunks := by
  induction chunks with
  | nil => simp [sendChunks]
  | cons chunk rest ih =>
    rw [sendChunks]
    by_cases hchunk : deliver chunk=true
    · rw [if_pos hchunk]
      simpa using ih
    · rw [if_neg hchunk]
      simp

/-- A service that takes every text of an allowed length and no other gets a whole message
exactly when the message is not cut at position zero. -/
theorem sendText_true {maxRetries : ℕ} {post : ℕ→Text→Option ℕ} {text : Text}
    (hretries : 1≤ maxRetries) (hne : text≠[])
    (hpost : ∀ attempt chunk,post attempt chunk=some 200↔
      chunk≠[] ∧ chunk.length≤telegramMaxLength) :
    ∃ tried,∀ fuel,text.length<fuel→sendText maxRetries post fuel text=
      some (decide (text.length≤telegramMaxLength ∨ splitIdx telegramMaxLength text≠0),tried) := by
  have hsingle : ∀ chunk,sendSingle maxRetries post chunk=true↔
      chunk≠[] ∧ chunk.length≤telegramMaxLength := by
    intro chunk
    unfold sendSingle
    simp only [List.any_eq_true,List.mem_range,decide_eq_true_eq,hpost]
    exact ⟨fun ⟨_,_,h⟩ => h,fun h => ⟨0,by omega,h⟩⟩
  have hmax : 1≤telegramMaxLength := by decide
  obtain ⟨messages,hrun,hpieces⟩ := splitMessage_pieces hmax hne
  refine ⟨(sendChunks (sendSingle maxRetries post) messages).2,fun fuel hfuel => ?_⟩
  have hanswer : (sendChunks (sendSingle maxRetries post) messages).1=
      decide (text.length≤telegramMaxLength ∨ splitIdx telegramMaxLength text≠0) := by
    rw [Bool.eq_iff_iff,sendChunks_true,decide_eq_true_iff]
    have hnot : (∀ chunk∈messages,sendSingle maxRetries post chunk=true)↔[]∉messages := by
      constructor
      · intro h hmem
        exact ((hsingle []).mp (h [] hmem)).1 rfl
      · intro h chunk hchunk
        refine (hsingle chunk).mpr ⟨?_,hpieces.short chunk hchunk⟩
        rintro rfl
        exact h hchunk
    rw [hnot,hpieces.empty,EmptyCut,not_and_or,not_lt]
  rw [sendText,hrun fuel hfuel,Option.map_some,←hanswer]

end Aqts.TelegramTransport
