import Mathlib.Data.List.Forall2
import Aqts.Delimited
import Aqts.PortfolioLedger

/-!
# Frames of the realtime socket

`KISRealtimeClient._handle_message`: what a frame makes the client do. A frame that
begins with the digit of an encrypted one is taken for a heartbeat and sent back, so
encrypted execution notices are not delivered; and a quote frame gives one quote
whatever number of records it carries. The readers of Python, the decryption and the
JSON answers of the server are given.
-/

namespace Aqts.RealtimeFrames

open Delimited PortfolioLedger

/-- A text. -/
abbrev Text := List Char

/-- A JSON answer of the server. -/
inductive Answer
  /-- `JSONDecodeError`. -/
  | invalid
  /-- JSON that is no object of objects, which raises. -/
  | other
  /-- `tr_id` of the header, and `key` and `iv` of the output. -/
  | object (trId key iv : Text)

/-- What the client uses of the world. -/
structure World (F : Type*) where
  /-- `float` of a text, if it has one. -/
  float : Text→Option F
  /-- `int` of a text, if it has one. -/
  int : Text→Option ℤ
  /-- `_aes_cbc_base64_decrypt` with a key and an `iv`; nothing if it raises. -/
  decrypt : Text→Text→Text→Option Text
  /-- `json.loads` of a text. -/
  answer : Text→Answer
  /-- `now_kst().isoformat()`. -/
  now : Text

/-- `TR_ID_QUOTE`. -/
def trIdQuote : Text := "H0STCNT0".toList

/-- `TR_ID_ORDERBOOK`. -/
def trIdOrderbook : Text := "H0STASP0".toList

/-- `TR_ID_EXEC_NOTICE_LIVE`. -/
def trIdExecNoticeLive : Text := "H0STCNI0".toList

/-- `TR_ID_EXEC_NOTICE_DEMO`. -/
def trIdExecNoticeDemo : Text := "H0STCNI9".toList

/-- `TR_ID_EXEC_NOTICE_OVERSEAS_LIVE`. -/
def trIdExecNoticeOverseasLive : Text := "H0GSCNI0".toList

/-- `TR_ID_EXEC_NOTICE_OVERSEAS_DEMO`. -/
def trIdExecNoticeOverseasDemo : Text := "H0GSCNI9".toList

/-- `_EXEC_NOTICE_TR_IDS`. -/
def execNoticeTrIds : List Text :=
  [trIdExecNoticeLive,trIdExecNoticeDemo,trIdExecNoticeOverseasLive,trIdExecNoticeOverseasDemo]

/-- `is_overseas` of a notice. -/
def isOverseasTrId (trId : Text) : Bool :=
  decide (trId∈[trIdExecNoticeOverseasLive,trIdExecNoticeOverseasDemo])

/-- `str.strip`. -/
def strip (text : Text) : Text := ((text.dropWhile isSpace).reverse.dropWhile isSpace).reverse

/-- `_safe_str`. -/
def safeStr (fields : List Text) (idx : ℕ) : Text := ((fields[idx]?).map strip).getD []

variable {F : Type*} [Zero F]

/-- `_safe_float`. -/
def safeFloat (w : World F) (fields : List Text) (idx : ℕ) : F := ((fields[idx]?).bind w.float).getD 0

/-- `_safe_int`. -/
def safeInt (w : World F) (fields : List Text) (idx : ℕ) : ℤ := ((fields[idx]?).bind w.int).getD 0

/-- `RealtimeExecutionNotice`. -/
structure RealtimeExecutionNotice (F : Type*) where
  /-- `order_no`. -/
  orderNo : Text
  /-- `original_order_no`. -/
  originalOrderNo : Text
  /-- `ticker`. -/
  ticker : Text
  /-- `side`. -/
  side : Text
  /-- `filled_qty`. -/
  filledQty : ℤ
  /-- `filled_price`. -/
  filledPrice : F
  /-- `order_qty`. -/
  orderQty : ℤ
  /-- `order_price`. -/
  orderPrice : F
  /-- `exec_time`. -/
  execTime : Text
  /-- `is_filled`. -/
  isFilled : Bool
  /-- `is_rejected`. -/
  isRejected : Bool
  /-- `is_overseas`. -/
  isOverseas : Bool
  /-- `raw_fields`. -/
  rawFields : List Text
  /-- `timestamp`. -/
  timestamp : Text

/-- `RealtimeExecutionNotice.__init__`. -/
def executionNotice (w : World F) (raw : List Text) (isOverseas : Bool) : RealtimeExecutionNotice F :=
  if isOverseas=true then
    { orderNo := safeStr raw 2, originalOrderNo := safeStr raw 3, side := safeStr raw 4,
      ticker := safeStr raw 7, filledQty := safeInt w raw 8, filledPrice := safeFloat w raw 9,
      execTime := safeStr raw 10, isRejected := decide (safeStr raw 11=['1']),
      isFilled := decide (safeStr raw 12=['2']), orderQty := safeInt w raw 15,
      orderPrice := if 24< raw.length then safeFloat w raw 24 else 0,
      isOverseas := true, rawFields := raw, timestamp := w.now }
  else
    { orderNo := safeStr raw 2, originalOrderNo := safeStr raw 3, side := safeStr raw 4,
      ticker := safeStr raw 8, filledQty := safeInt w raw 9, filledPrice := safeFloat w raw 10,
      execTime := safeStr raw 11, isRejected := decide (safeStr raw 12=['1']),
      isFilled := decide (safeStr raw 13=['2']), orderQty := safeInt w raw 16,
      orderPrice := if 25< raw.length then safeFloat w raw 25 else 0,
      isOverseas := false, rawFields := raw, timestamp := w.now }

/-- `RealtimeQuote`. -/
structure RealtimeQuote (F : Type*) where
  /-- `ticker`. -/
  ticker : Text
  /-- `price`. -/
  price : F
  /-- `change`. -/
  change : F
  /-- `change_rate`. -/
  changeRate : F
  /-- `volume`. -/
  volume : ℤ
  /-- `cum_volume`. -/
  cumVolume : ℤ
  /-- `cum_amount`. -/
  cumAmount : F
  /-- `open_price`. -/
  openPrice : F
  /-- `high_price`. -/
  highPrice : F
  /-- `low_price`. -/
  lowPrice : F
  /-- `ask1`. -/
  ask1 : F
  /-- `bid1`. -/
  bid1 : F
  /-- `exec_time`. -/
  execTime : Text
  /-- `timestamp`. -/
  timestamp : Text

/-- `RealtimeQuote.__init__`. -/
def quote (w : World F) (raw : List Text) : RealtimeQuote F :=
  { ticker := (raw[0]?).getD [], execTime := (raw[1]?).getD [], price := safeFloat w raw 2,
    change := safeFloat w raw 4, changeRate := safeFloat w raw 5, openPrice := safeFloat w raw 7,
    highPrice := safeFloat w raw 8, lowPrice := safeFloat w raw 9, ask1 := safeFloat w raw 10,
    bid1 := safeFloat w raw 11, volume := safeInt w raw 12, cumVolume := safeInt w raw 13,
    cumAmount := safeFloat w raw 14, timestamp := w.now }

/-- `RealtimeOrderbook`. -/
structure RealtimeOrderbook (F : Type*) where
  /-- `ticker`. -/
  ticker : Text
  /-- `exec_time`. -/
  execTime : Text
  /-- `asks`. -/
  asks : List F
  /-- `bids`. -/
  bids : List F
  /-- `ask_volumes`. -/
  askVolumes : List ℤ
  /-- `bid_volumes`. -/
  bidVolumes : List ℤ
  /-- `total_ask_vol`. -/
  totalAskVol : ℤ
  /-- `total_bid_vol`. -/
  totalBidVol : ℤ
  /-- `timestamp`. -/
  timestamp : Text

/-- `RealtimeOrderbook.__init__`. -/
def orderbook (w : World F) (raw : List Text) : RealtimeOrderbook F :=
  { ticker := (raw[0]?).getD [], execTime := (raw[1]?).getD [],
    asks := (List.range' 3 10).map (safeFloat w raw), bids := (List.range' 13 10).map (safeFloat w raw),
    askVolumes := (List.range' 23 10).map (safeInt w raw),
    bidVolumes := (List.range' 33 10).map (safeInt w raw),
    totalAskVol := safeInt w raw 43, totalBidVol := safeInt w raw 44, timestamp := w.now }

/-- What a client does besides changing itself. -/
inductive Effect (F : Type*)
  /-- `_ws.send`. -/
  | sent (raw : Text)
  /-- `on_quote`. -/
  | onQuote (q : RealtimeQuote F)
  /-- `on_orderbook`. -/
  | onOrderbook (o : RealtimeOrderbook F)
  /-- `on_exec_notice`. -/
  | onExecNotice (n : RealtimeExecutionNotice F)
  /-- `_cache_quote`. -/
  | cacheQuote (q : RealtimeQuote F)

/-- `_stats`, as far as messages change it. -/
structure Stats where
  /-- `quotes_processed`. -/
  quotesProcessed : ℕ
  /-- `orderbooks_processed`. -/
  orderbooksProcessed : ℕ
  /-- `exec_notices_processed`. -/
  execNoticesProcessed : ℕ
  /-- `errors`. -/
  errors : ℕ

/-- `KISRealtimeClient`, as far as it handles messages. -/
structure Client where
  /-- `_ws` is there. -/
  ws : Bool
  /-- `_exec_notice_aes_key`; empty without one. -/
  aesKey : Text
  /-- `_exec_notice_aes_iv`; empty without one. -/
  aesIv : Text
  /-- `on_quote` is there. -/
  onQuote : Bool
  /-- `on_orderbook` is there. -/
  onOrderbook : Bool
  /-- `on_exec_notice` is there. -/
  onExecNotice : Bool
  /-- `_redis_cache`. -/
  redisCache : Bool
  /-- `_stats`. -/
  stats : Stats

/-- A message that was handled. -/
structure Handled (F : Type*) where
  /-- The client afterwards. -/
  client : Client
  /-- What it did, in order. -/
  effects : List (Effect F)
  /-- The handler raised. -/
  raised : Bool

/-- `errors` counts one more. -/
def Client.failed (client : Client) : Client :=
  {client with stats := {client.stats with errors := client.stats.errors+1}}

/-- `_handle_json_response`. -/
def handleJsonResponse (w : World F) (client : Client) (raw : Text) : Handled F :=
  match w.answer raw with
  | .invalid => ⟨client,[],false⟩
  | .other => ⟨client,[],true⟩
  | .object trId key iv =>
    if trId∈execNoticeTrIds ∧ key≠[] ∧ iv≠[] then
      ⟨{client with aesKey := key, aesIv := iv},[],false⟩
    else ⟨client,[],false⟩

/-- A notice of its text. -/
def deliverNotice (w : World F) (client : Client) (trId data : Text) : Handled F :=
  let notice := executionNotice w (split '^' data) (isOverseasTrId trId)
  let processed := client.stats.execNoticesProcessed+1
  ⟨{client with stats := {client.stats with execNoticesProcessed := processed}},
    if client.onExecNotice=true then [.onExecNotice notice] else [],false⟩

/-- `_handle_exec_notice`. -/
def handleExecNotice (w : World F) (client : Client) (trId data : Text) (isEncrypted : Bool) :
    Handled F :=
  if isEncrypted=true then
    if client.aesKey=[] ∨ client.aesIv=[] then ⟨client,[],false⟩
    else
      match w.decrypt client.aesKey client.aesIv data with
      | none => ⟨client.failed,[],false⟩
      | some plain => deliverNotice w client trId plain
  else deliverNotice w client trId data

/-- The quotes and order books of `_handle_message`. -/
def handleRecords (w : World F) (client : Client) (trId data : Text) : Handled F :=
  let records := split '^' data
  if trId=trIdQuote then
    let q := quote w records
    let processed := client.stats.quotesProcessed+1
    ⟨{client with stats := {client.stats with quotesProcessed := processed}},
      (if client.onQuote=true then [.onQuote q] else [])++
        if client.redisCache=true then [.cacheQuote q] else [],false⟩
  else if trId=trIdOrderbook then
    let processed := client.stats.orderbooksProcessed+1
    ⟨{client with stats := {client.stats with orderbooksProcessed := processed}},
      if client.onOrderbook=true then [.onOrderbook (orderbook w records)] else [],false⟩
  else ⟨client,[],false⟩

/-- `_handle_message`. -/
def handleMessage (w : World F) (client : Client) (raw : Text) : Handled F :=
  match raw with
  | [] => ⟨client,[],false⟩
  | first::_ =>
    if first= '1' then
      if client.ws=true then ⟨client,[.sent raw],false⟩ else ⟨client,[],true⟩
    else if first∈['0','1'] then
      match splitAtMost '|' 3 raw with
      | [flag,trId,_,data] =>
        if trId∈execNoticeTrIds then handleExecNotice w client trId data (decide (flag=['1']))
        else handleRecords w client trId data
      | _ => ⟨client,[],false⟩
    else handleJsonResponse w client raw

end Aqts.RealtimeFrames
