import Aqts.RealtimeFrames

/-!
# What frames deliver

Notices and quotes as the tables of field names describe them, and which frames of the
server deliver them. A plain execution notice is delivered once with the named fields;
an encrypted one never, though the handler of notices would decrypt it. Of the records
of a quote frame the first is delivered and the others are lost.
-/

namespace Aqts.RealtimeDelivery

open Delimited RealtimeFrames

/-- `EXEC_NOTICE_DOMESTIC_FIELDS`. -/
def execNoticeDomesticFields : List String :=
  ["CUST_ID","ACNT_NO","ODER_NO","OODER_NO","SELN_BYOV_CLS","RCTF_CLS","ODER_KIND","ODER_COND",
    "STCK_SHRN_ISCD","CNTG_QTY","CNTG_UNPR","STCK_CNTG_HOUR","RFUS_YN","CNTG_YN","ACPT_YN",
    "BRNC_NO","ODER_QTY","ACNT_NAME","ORD_COND_PRC","ORD_EXG_GB","POPUP_YN","FILLER","CRDT_CLS",
    "CRDT_LOAN_DATE","CNTG_ISNM40","ODER_PRC"]

/-- `EXEC_NOTICE_OVERSEAS_FIELDS`. -/
def execNoticeOverseasFields : List String :=
  ["CUST_ID","ACNT_NO","ODER_NO","OODER_NO","SELN_BYOV_CLS","RCTF_CLS","ODER_KIND2",
    "STCK_SHRN_ISCD","CNTG_QTY","CNTG_UNPR","STCK_CNTG_HOUR","RFUS_YN","CNTG_YN","ACPT_YN",
    "BRNC_NO","ODER_QTY","ACNT_NAME","CNTG_ISNM","ODER_COND","DEBT_GB","DEBT_DATE","START_TM",
    "END_TM","TM_DIV_TP","CNTG_UNPR12"]

/-- `QUOTE_FIELDS`. -/
def quoteFields : List String :=
  ["ticker","exec_time","current_price","sign","change","change_rate","weighted_avg_price","open",
    "high","low","ask1","bid1","exec_volume","cum_volume","cum_amount","sell_cum_volume",
    "buy_cum_volume","turnover_rate","prev_cum_volume_rate","ask_count","bid_count",
    "net_bid_count","vol_power","exec_no","exec_type","ask_exec_volume","bid_exec_volume",
    "confirm_yn","reserved1","prev_close","new_capital_sign","new_capital_change_rate",
    "reserved2","capital_acum","capital_turn_rate","reserved3","reserved4","reserved5",
    "market_cap","reserved6","reserved7","vi_type","reserved8","reserved9","reserved10",
    "reserved11"]

/-- The table of a notice. -/
def execNoticeFields (isOverseas : Bool) : List String :=
  if isOverseas=true then execNoticeOverseasFields else execNoticeDomesticFields

variable {F : Type*} [Zero F]

/-- The text of a named field. -/
def namedStr (table : List String) (name : String) (raw : List Text) : Text :=
  safeStr raw (table.idxOf name)

/-- The integer of a named field. -/
def namedInt (w : World F) (table : List String) (name : String) (raw : List Text) : ℤ :=
  safeInt w raw (table.idxOf name)

/-- The number of a named field. -/
def namedFloat (w : World F) (table : List String) (name : String) (raw : List Text) : F :=
  safeFloat w raw (table.idxOf name)

/-- A notice has the order numbers, the side, the ticker, the quantities, the price, the time
and the flags of a list of fields. -/
structure NoticeOf (w : World F) (isOverseas : Bool) (raw : List Text)
    (n : RealtimeExecutionNotice F) : Prop where
  /-- `order_no`. -/
  orderNo : n.orderNo=namedStr (execNoticeFields isOverseas) "ODER_NO" raw
  /-- `original_order_no`. -/
  originalOrderNo : n.originalOrderNo=namedStr (execNoticeFields isOverseas) "OODER_NO" raw
  /-- `side`. -/
  side : n.side=namedStr (execNoticeFields isOverseas) "SELN_BYOV_CLS" raw
  /-- `ticker`. -/
  ticker : n.ticker=namedStr (execNoticeFields isOverseas) "STCK_SHRN_ISCD" raw
  /-- `filled_qty`. -/
  filledQty : n.filledQty=namedInt w (execNoticeFields isOverseas) "CNTG_QTY" raw
  /-- `filled_price`. -/
  filledPrice : n.filledPrice=namedFloat w (execNoticeFields isOverseas) "CNTG_UNPR" raw
  /-- `order_qty`. -/
  orderQty : n.orderQty=namedInt w (execNoticeFields isOverseas) "ODER_QTY" raw
  /-- `exec_time`. -/
  execTime : n.execTime=namedStr (execNoticeFields isOverseas) "STCK_CNTG_HOUR" raw
  /-- `is_rejected`. -/
  isRejected : n.isRejected=true↔namedStr (execNoticeFields isOverseas) "RFUS_YN" raw=['1']
  /-- `is_filled`. -/
  isFilled : n.isFilled=true↔namedStr (execNoticeFields isOverseas) "CNTG_YN" raw=['2']
  /-- `is_overseas`. -/
  layout : n.isOverseas=isOverseas

/-- A quote has the fields of a record. -/
structure QuoteOf (w : World F) (raw : List Text) (q : RealtimeQuote F) : Prop where
  /-- `ticker`. -/
  ticker : q.ticker=(raw[quoteFields.idxOf "ticker"]?).getD []
  /-- `exec_time`. -/
  execTime : q.execTime=(raw[quoteFields.idxOf "exec_time"]?).getD []
  /-- `price`. -/
  price : q.price=namedFloat w quoteFields "current_price" raw
  /-- `change`. -/
  change : q.change=namedFloat w quoteFields "change" raw
  /-- `change_rate`. -/
  changeRate : q.changeRate=namedFloat w quoteFields "change_rate" raw
  /-- `open_price`. -/
  openPrice : q.openPrice=namedFloat w quoteFields "open" raw
  /-- `high_price`. -/
  highPrice : q.highPrice=namedFloat w quoteFields "high" raw
  /-- `low_price`. -/
  lowPrice : q.lowPrice=namedFloat w quoteFields "low" raw
  /-- `ask1`. -/
  ask1 : q.ask1=namedFloat w quoteFields "ask1" raw
  /-- `bid1`. -/
  bid1 : q.bid1=namedFloat w quoteFields "bid1" raw
  /-- `volume`. -/
  volume : q.volume=namedInt w quoteFields "exec_volume" raw
  /-- `cum_volume`. -/
  cumVolume : q.cumVolume=namedInt w quoteFields "cum_volume" raw
  /-- `cum_amount`. -/
  cumAmount : q.cumAmount=namedFloat w quoteFields "cum_amount" raw

/-- A notice reads the places its table names. -/
theorem executionNotice_of (w : World F) (raw : List Text) (isOverseas : Bool) :
    NoticeOf w isOverseas raw (executionNotice w raw isOverseas) := by
  cases isOverseas with
  | false => exact ⟨rfl,rfl,rfl,rfl,rfl,rfl,rfl,rfl,decide_eq_true_iff,decide_eq_true_iff,rfl⟩
  | true => exact ⟨rfl,rfl,rfl,rfl,rfl,rfl,rfl,rfl,decide_eq_true_iff,decide_eq_true_iff,rfl⟩

/-- A quote reads the places its table names. -/
theorem quote_of (w : World F) (raw : List Text) : QuoteOf w raw (quote w raw) :=
  ⟨rfl,rfl,rfl,rfl,rfl,rfl,rfl,rfl,rfl,rfl,rfl,rfl,rfl⟩

omit [Zero F] in
/-- The notices that effects deliver. -/
def notices (effects : List (Effect F)) : List (RealtimeExecutionNotice F) :=
  effects.filterMap fun e =>
    match e with
    | .onExecNotice n => some n
    | _ => none

omit [Zero F] in
/-- The quotes that effects deliver. -/
def quotes (effects : List (Effect F)) : List (RealtimeQuote F) :=
  effects.filterMap fun e =>
    match e with
    | .onQuote q => some q
    | _ => none

/-- `flag|TR_ID|count|payload`. -/
def frame (encrypted : Bool) (trId count payload : Text) : Text :=
  join '|' ([[if encrypted=true then '1' else '0'],trId,count]++[payload])

/-- The frame of a notice, whose fields may be encrypted. -/
def noticeFrame (encrypt : Text→Text) (encrypted : Bool) (trId count : Text) (fields : List Text) :
    Text :=
  frame encrypted trId count
    (if encrypted=true then encrypt (join '^' fields) else join '^' fields)

/-- The frame of some quote records. -/
def quoteFrame (count : Text) (records : List (List Text)) : Text :=
  frame false trIdQuote count (join '^' records.flatten)

/-- A frame delivers one notice, with the fields of a list. -/
def DeliversNotice (w : World F) (client : Client) (isOverseas : Bool) (fields : List Text)
    (raw : Text) : Prop :=
  ∃ n,notices (handleMessage w client raw).effects=[n] ∧ NoticeOf w isOverseas fields n

/-- A frame delivers a quote for each record, with its fields. -/
def DeliversQuotes (w : World F) (client : Client) (records : List (List Text)) (raw : Text) : Prop :=
  List.Forall₂ (QuoteOf w) records (quotes (handleMessage w client raw).effects)

/-- A frame splits into its flag, its name, its count and its payload. -/
theorem frame_parts (encrypted : Bool) {trId count : Text} (htr : '|'∉trId) (hcount : '|'∉count)
    (payload : Text) : splitAtMost '|' 3 (frame encrypted trId count payload)=
      [[if encrypted=true then '1' else '0'],trId,count,payload] := by
  have hflag : '|'∉[if encrypted=true then '1' else '0'] := by cases encrypted <;> decide
  have hfields : ∀ field∈[[if encrypted=true then '1' else '0'],trId,count],'|'∉field := by
    intro field hfield
    simp only [List.mem_cons,List.not_mem_nil,or_false] at hfield
    rcases hfield with rfl | rfl | rfl
    · exact hflag
    · exact htr
    · exact hcount
  exact splitAtMost_join hfields payload

/-- A frame begins with its flag. -/
theorem frame_first (encrypted : Bool) (trId count payload : Text) :
    ∃ rest,frame encrypted trId count payload=(if encrypted=true then '1' else '0')::rest := by
  unfold frame
  rw [List.cons_append,join_cons (by simp)]
  exact ⟨_,rfl⟩

/-- An encrypted frame is sent back, if it can be, and nothing else happens. -/
theorem handleMessage_encrypted (w : World F) (client : Client) (trId count payload : Text) :
    handleMessage w client (frame true trId count payload)=
      if client.ws=true then ⟨client,[.sent (frame true trId count payload)],false⟩
      else ⟨client,[],true⟩ := by
  obtain ⟨rest,hrest⟩ := frame_first true trId count payload
  rw [if_pos rfl] at hrest
  rw [hrest]
  rfl

/-- An encrypted frame delivers no notice. -/
theorem notices_encrypted (w : World F) (client : Client) (trId count payload : Text) :
    notices (handleMessage w client (frame true trId count payload)).effects=[] := by
  rw [handleMessage_encrypted]
  by_cases hws : client.ws=true
  · rw [if_pos hws]
    rfl
  · rw [if_neg hws]
    rfl

/-- A plain frame is handled by its name. -/
theorem handleMessage_plain (w : World F) (client : Client) {trId count : Text} (htr : '|'∉trId)
    (hcount : '|'∉count) (payload : Text) :
    handleMessage w client (frame false trId count payload)=
      if trId∈execNoticeTrIds then handleExecNotice w client trId payload false
      else handleRecords w client trId payload := by
  have hparts := frame_parts false htr hcount payload
  obtain ⟨rest,hrest⟩ := frame_first false trId count payload
  rw [hrest] at hparts ⊢
  unfold handleMessage
  dsimp only
  rw [if_neg (by decide),if_pos (by decide),hparts]
  rfl

/-- A notice of joined fields has these fields, also where there is none. -/
theorem executionNotice_join (w : World F) (isOverseas : Bool) {fields : List Text}
    (hfields : ∀ f∈fields,'^'∉f) :
    NoticeOf w isOverseas fields (executionNotice w (split '^' (join '^' fields)) isOverseas) := by
  by_cases hne : fields=[]
  · rw [hne]
    have h := executionNotice_of w [[]] isOverseas
    cases isOverseas with
    | false => exact ⟨h.1,h.2,h.3,h.4,h.5,h.6,h.7,h.8,h.9,h.10,h.11⟩
    | true => exact ⟨h.1,h.2,h.3,h.4,h.5,h.6,h.7,h.8,h.9,h.10,h.11⟩
  · rw [split_join hne hfields]
    exact executionNotice_of w fields isOverseas

/-- The names of notices have no separator. -/
theorem execNotice_name {trId : Text} (h : trId∈execNoticeTrIds) : '|'∉trId := by
  have hall : ∀ name∈execNoticeTrIds,'|'∉name := by decide
  exact hall trId h

/-- For all fields, every name of notices and every count, whatever the encryption is and
whichever keys the client holds: the frame delivers one notice with these fields exactly
if it is not an encrypted one. -/
theorem notice_delivered_iff (w : World F) (encrypt : Text→Text) (client : Client)
    (encrypted : Bool) {trId count : Text} {fields : List Text} (hcallback : client.onExecNotice=true)
    (htr : trId∈execNoticeTrIds) (hcount : '|'∉count) (hfields : ∀ f∈fields,'^'∉f) :
    DeliversNotice w client (isOverseasTrId trId) fields
      (noticeFrame encrypt encrypted trId count fields) ↔ encrypted=false := by
  unfold DeliversNotice noticeFrame
  cases encrypted with
  | true =>
    constructor
    · rintro ⟨n,hn,_⟩
      rw [if_pos rfl,notices_encrypted] at hn
      cases hn
    · intro h
      cases h
  | false =>
    refine iff_of_true ?_ rfl
    rw [if_neg (by decide),handleMessage_plain w client (execNotice_name htr) hcount,if_pos htr]
    unfold handleExecNotice deliverNotice
    dsimp only
    rw [if_neg (by decide),if_pos hcallback]
    exact ⟨_,rfl,executionNotice_join w _ hfields⟩

/-- The handler of notices delivers an encrypted notice if the client holds a key and an `iv`
with which the decryption inverts the encryption. -/
theorem handleExecNotice_encrypted (w : World F) (encrypt : Text→Text) (client : Client)
    {trId : Text} {fields : List Text} (hcallback : client.onExecNotice=true)
    (hkey : client.aesKey≠[] ∧ client.aesIv≠[])
    (hinverse : ∀ text,w.decrypt client.aesKey client.aesIv (encrypt text)=some text)
    (hfields : ∀ f∈fields,'^'∉f) :
    ∃ n,notices (handleExecNotice w client trId (encrypt (join '^' fields)) true).effects=[n] ∧
      NoticeOf w (isOverseasTrId trId) fields n := by
  unfold handleExecNotice
  rw [if_pos rfl,if_neg (not_or.mpr hkey),hinverse]
  unfold deliverNotice
  dsimp only
  rw [if_pos hcallback]
  exact ⟨_,rfl,executionNotice_join w _ hfields⟩

/-- A frame of quote records delivers the quote of all their fields. -/
theorem quotes_quoteFrame (w : World F) (client : Client) {count : Text} {records : List (List Text)}
    (hcallback : client.onQuote=true) (hflat : records.flatten≠[])
    (hfields : ∀ r∈records,∀ f∈r,'^'∉f) (hcount : '|'∉count) :
    quotes (handleMessage w client (quoteFrame count records)).effects=
      [quote w records.flatten] := by
  have hsplit : split '^' (join '^' records.flatten)=records.flatten := by
    refine split_join hflat fun f hf => ?_
    obtain ⟨r,hr,hfr⟩ := List.mem_flatten.mp hf
    exact hfields r hr f hfr
  unfold quoteFrame
  rw [handleMessage_plain w client (by decide) hcount,if_neg (by decide)]
  unfold handleRecords
  rw [hsplit]
  dsimp only
  rw [if_pos rfl,if_pos hcallback]
  cases client.redisCache <;> rfl

/-- For every number of records of the width of the table, and every count: the frame delivers
a quote for each of them exactly if there is one. -/
theorem quotes_delivered_iff (w : World F) (client : Client) {count : Text}
    {records : List (List Text)} (hcallback : client.onQuote=true) (hne : records≠[])
    (hwidth : ∀ r∈records,r.length=quoteFields.length) (hfields : ∀ r∈records,∀ f∈r,'^'∉f)
    (hcount : '|'∉count) :
    DeliversQuotes w client records (quoteFrame count records) ↔ records.length=1 := by
  obtain ⟨record,rest,rfl⟩ := List.exists_cons_of_ne_nil hne
  have hflat : (record::rest).flatten≠[] := by
    have hrecord := hwidth record List.mem_cons_self
    intro hempty
    rw [List.flatten_cons,List.append_eq_nil_iff] at hempty
    rw [hempty.1] at hrecord
    cases hrecord
  unfold DeliversQuotes
  rw [quotes_quoteFrame w client hcallback hflat hfields hcount]
  constructor
  · intro h
    exact h.length_eq
  · intro h
    have hrest : rest=[] := List.length_eq_zero_iff.mp (by simpa using h)
    rw [hrest]
    refine .cons ?_ .nil
    simpa using quote_of w record

/-- The number of a text of decimal digits. -/
def digits (text : Text) : Option ℕ :=
  if text≠[] ∧ text.all Char.isDigit=true then
    some (text.foldl (fun n c => 10*n+(c.toNat-48)) 0)
  else none

/-- A world that reads decimal digits. -/
def decimalWorld : World ℚ where
  float := fun text => (digits text).map fun n => (n : ℚ)
  int := fun text => (digits text).map fun n => (n : ℤ)
  decrypt := fun _ _ _ => none
  answer := fun _ => .invalid
  now := "2026-04-13T09:05:00+09:00".toList

/-- A client with a key, an `iv` and all callbacks. -/
def subscriber : Client :=
  ⟨true,"0123456789abcdef0123456789abcdef".toList,"0123456789abcdef".toList,true,true,true,false,
    ⟨0,0,0,0⟩⟩

/-- The fields of a domestic fill. -/
def domesticFill : List Text :=
  ["CUST","50012345","0000117057","","02","0","00","0","005930","10","70000","090500","0","2","2",
    "00950","10","ACCOUNT","0","1","Y","","00","","SAMSUNG","70000"].map String.toList

/-- A plain fill is delivered. -/
theorem notice_delivered_plain : DeliversNotice decimalWorld subscriber
    (isOverseasTrId trIdExecNoticeLive) domesticFill
    (noticeFrame id false trIdExecNoticeLive "001".toList domesticFill) :=
  (notice_delivered_iff decimalWorld id subscriber false rfl (by decide) (by decide)
    (by decide)).mpr rfl

/-- An encrypted fill is lost in every world that could decrypt it. -/
theorem encrypted_notice_lost : ¬∃ (w : World ℚ) (encrypt : Text→Text),
    (∀ text,w.decrypt subscriber.aesKey subscriber.aesIv (encrypt text)=some text) ∧
      DeliversNotice w subscriber (isOverseasTrId trIdExecNoticeLive) domesticFill
        (noticeFrame encrypt true trIdExecNoticeLive "001".toList domesticFill) := by
  rintro ⟨w,encrypt,_,n,hn,_⟩
  unfold noticeFrame at hn
  rw [if_pos rfl,notices_encrypted] at hn
  cases hn

/-- A frame of one record delivers its quote. -/
theorem quotes_delivered_one : DeliversQuotes decimalWorld subscriber
    [List.replicate 46 ['7']] (quoteFrame "001".toList [List.replicate 46 ['7']]) :=
  (quotes_delivered_iff decimalWorld subscriber rfl (by decide) (by decide) (by decide)
    (by decide)).mpr rfl

/-- Of two records one is lost. -/
theorem second_quote_lost : ¬DeliversQuotes decimalWorld subscriber
    [List.replicate 46 ['7'],List.replicate 46 ['8']]
    (quoteFrame "002".toList [List.replicate 46 ['7'],List.replicate 46 ['8']]) := by
  intro h
  unfold DeliversQuotes at h
  rw [quotes_quoteFrame decimalWorld subscriber rfl (by decide) (by decide) (by decide)] at h
  exact absurd h.length_eq (by decide)

end Aqts.RealtimeDelivery
