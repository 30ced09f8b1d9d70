import Aqts.GuardedRuns
import Mathlib.Data.Finset.Union
import Mathlib.Data.Fintype.Basic
import Mathlib.Data.Set.Card
import Mathlib.Logic.Function.Basic

/-!
# Subscriptions of the realtime client

`KISRealtimeClient` with the calls that subscribe and unsubscribe, the loss of its
connection and `_reconnect`. A call checks the state, waits for the key, sends one
message for each registration and only then notes what it has subscribed to. After
a loss the noted tickers are cleared and kept in local variables of the one
attempt to connect again.

The key is there after the first connection. A send succeeds while the connection
is up; one that waits when it is lost may still return.
-/

namespace Aqts.RealtimeSubscriptions

open GuardedRuns

/-- A registration on the connection. -/
inductive Reg (T : Type*)
  /-- `TR_ID_QUOTE` of a ticker. -/
  | quote (ticker : T)
  /-- `TR_ID_ORDERBOOK` of a ticker. -/
  | orderbook (ticker : T)
  /-- The domestic execution notices. -/
  | domestic
  /-- The overseas execution notices. -/
  | overseas
deriving DecidableEq

/-- Settings of the client. -/
structure Settings where
  /-- `_subscribe_orderbook`. -/
  subscribeOrderbook : Bool
  /-- `hts_id` is set. -/
  htsId : Bool

/-- `MAX_SUBSCRIPTIONS`. -/
def maxSubscriptions : ℕ := 40

/-- A call that changes the subscriptions. -/
inductive Call (T : Type*)
  /-- `subscribe`. -/
  | subscribe (ticker : T)
  /-- `unsubscribe`. -/
  | unsubscribe (ticker : T)
  /-- `subscribe_exec_notice`. -/
  | subscribeExecNotice
  /-- `unsubscribe_exec_notice`. -/
  | unsubscribeExecNotice
deriving DecidableEq

variable {I T : Type*}

/-- What can be subscribed to. -/
inductive Item (T : Type*)
  /-- A ticker. -/
  | ticker (name : T)
  /-- The execution notices. -/
  | notice
deriving DecidableEq

/-- What a call subscribes to or unsubscribes from. -/
def Call.item : Call T→Item T
  | .subscribe ticker => .ticker ticker
  | .unsubscribe ticker => .ticker ticker
  | .subscribeExecNotice => .notice
  | .unsubscribeExecNotice => .notice

/-- The registrations of an item, in the order of their messages. -/
def Item.regs (settings : Settings) : Item T→List (Reg T)
  | .ticker name =>
    if settings.subscribeOrderbook=true then [.quote name,.orderbook name] else [.quote name]
  | .notice => [.domestic,.overseas]

/-- The registrations for which a call sends messages. -/
def Call.regs (settings : Settings) (c : Call T) : List (Reg T) := c.item.regs settings

/-- The messages of a call have `tr_type` 1. -/
def Call.subscribes : Call T→Bool
  | .subscribe _ => true
  | .subscribeExecNotice => true
  | .unsubscribe _ => false
  | .unsubscribeExecNotice => false

/-- What a call returned. -/
inductive Result
  /-- The call was made. -/
  | flag (success : Bool)
  /-- `subscribe_batch`. -/
  | count (success : ℕ)
deriving DecidableEq

/-- What a task does when a call in it returns. -/
inductive Cont (T : Type*)
  /-- The call is the task. -/
  | call
  /-- `subscribe_batch` of a caller. -/
  | batch (rest : List T) (success : ℕ)
  /-- `subscribe_batch` in `_reconnect`, with the tickers and whether the notices are
  left. -/
  | restore (rest : List T) (exec : Bool)
  /-- The end of `_reconnect`. -/
  | reconnected
deriving DecidableEq

/-- Where a task is. -/
inductive Place (T : Type*)
  /-- Nowhere, with what it returned. -/
  | idle (result : Option Result)
  /-- In a call that has sent some messages, waiting for the key or the last of them. -/
  | calling (c : Call T) (sends : ℕ) (k : Cont T)
  /-- In the `sleep` of `subscribe_batch`. -/
  | resting (k : Cont T)
  /-- In `_ws.close` of `_reconnect`. -/
  | closing (saved : Finset T) (exec : Bool)
  /-- In the `sleep` or the `connect` of `_reconnect`. -/
  | waiting (saved : Finset T) (exec : Bool)
deriving DecidableEq

/-- A task that can begin. -/
def Place.isIdle : Place T→Bool
  | .idle _ => true
  | _ => false

/-- `_ws`. -/
inductive Socket
  /-- `None`. -/
  | absent
  /-- A connection. -/
  | up
  /-- A lost connection whose receive loop has not noticed. -/
  | lost
  /-- A lost connection that is being closed. -/
  | closing
deriving DecidableEq

/-- The client, its tasks and the registrations of its connection. -/
structure Client (I T : Type*) where
  /-- `_ws`. -/
  socket : Socket
  /-- `_connected`. -/
  connected : Bool
  /-- `_subscribed_tickers`. -/
  subscribed : Finset T
  /-- `_exec_notice_subscribed`. -/
  notice : Bool
  /-- The tasks: calls, and receive loops that reconnect. -/
  place : I→Place T
  /-- The registrations that are live on the connection. -/
  live : Finset (Reg T)
  /-- The tickers that calls have added and not discarded since, losses or not. -/
  wanted : Finset T
  /-- The notices were subscribed to and not unsubscribed from since. -/
  wantedNotice : Bool

/-- A new client. -/
def Client.init (I T : Type*) : Client I T :=
  ⟨.absent,false,∅,false,fun _ => .idle none,∅,∅,false⟩

/-- `is_connected`. -/
def Client.isConnected (s : Client I T) : Bool := s.connected && decide (s.socket≠.absent)

/-- What happens between two awaits. -/
inductive Event (I T : Type*)
  /-- A caller connects, or connects again after an attempt that failed. -/
  | connect
  /-- A call begins. -/
  | call (i : I) (c : Call T)
  /-- `subscribe_batch` begins. -/
  | batch (i : I) (tickers : List T)
  /-- The key or the last send comes back and the next message is sent. -/
  | send (i : I)
  /-- The last send comes back. -/
  | finish (i : I)
  /-- A send raises. -/
  | raise (i : I)
  /-- The `sleep` of `subscribe_batch` ends. -/
  | wake (i : I)
  /-- The connection is lost. -/
  | lose
  /-- The receive loop notices it. -/
  | noticed (i : I)
  /-- The connection is closed. -/
  | closed (i : I)
  /-- `connect` succeeds; the tickers are restored in some order. -/
  | reconnected (i : I) (order : List T)
  /-- `connect` fails. -/
  | failed (i : I)

variable [DecidableEq T]

/-- The checks at the beginning of a call: what it returns at once, if it does. -/
def Client.check (settings : Settings) (s : Client I T) : Call T→Option Bool
  | .subscribe ticker =>
    if s.isConnected=false then some false
    else if maxSubscriptions≤ s.subscribed.card then some false
    else if ticker∈s.subscribed then some true
    else none
  | .unsubscribe ticker =>
    if s.isConnected=false then some false
    else if ticker∉s.subscribed then some true
    else none
  | .subscribeExecNotice =>
    if s.isConnected=false then some false
    else if settings.htsId=false then some false
    else if s.notice=true then some true
    else none
  | .unsubscribeExecNotice =>
    if s.isConnected=false ∨ s.notice=false then some false
    else if settings.htsId=false then some false
    else none

/-- Where a task is after a call in it has returned. -/
def Cont.answer (result : Bool) : Cont T→Place T
  | .call => .idle (some (.flag result))
  | .batch rest success => .resting (.batch rest (success+result.toNat))
  | .restore rest exec => .resting (.restore rest exec)
  | .reconnected => .idle none

/-- Where a task is after a call in it has begun. -/
def Client.begin (settings : Settings) (s : Client I T) (c : Call T) (k : Cont T) : Place T :=
  match s.check settings c with
  | some result => k.answer result
  | none => .calling c 0 k

/-- Where a task is after it has gone on from the `sleep` or, in `_reconnect`, from
`connect`. -/
def Client.proceed (settings : Settings) (s : Client I T) : Cont T→Place T
  | .batch (ticker::rest) success => s.begin settings (.subscribe ticker) (.batch rest success)
  | .batch [] success => .idle (some (.count success))
  | .restore (ticker::rest) exec => s.begin settings (.subscribe ticker) (.restore rest exec)
  | .restore [] true => s.begin settings .subscribeExecNotice .reconnected
  | .restore [] false => .idle none
  | .call => .idle none
  | .reconnected => .idle none

/-- A message reaches the connection. -/
def Client.register (s : Client I T) (c : Call T) (r : Reg T) : Client I T :=
  {s with live := if c.subscribes=true then insert r s.live else s.live.erase r}

/-- The end of a call whose messages were all sent. -/
def Client.conclude (s : Client I T) : Call T→ Client I T
  | .subscribe ticker =>
    {s with subscribed := insert ticker s.subscribed, wanted := insert ticker s.wanted}
  | .unsubscribe ticker =>
    {s with subscribed := s.subscribed.erase ticker, wanted := s.wanted.erase ticker}
  | .subscribeExecNotice => {s with notice := true, wantedNotice := true}
  | .unsubscribeExecNotice => {s with notice := false, wantedNotice := false}

/-- A connection is made. -/
def Client.open (s : Client I T) : Client I T := {s with socket := .up, connected := true, live := ∅}

variable [DecidableEq I]

/-- A task moves to a place. -/
def Client.move (s : Client I T) (i : I) (place : Place T) : Client I T :=
  {s with place := Function.update s.place i place}

/-- The beginning of `_reconnect`. -/
def Client.leave (s : Client I T) (i : I) : Client I T :=
  {s.move i (.closing s.subscribed s.notice) with
    socket := .closing
    subscribed := ∅
    notice := false}

/-- One step of the client. -/
def step (settings : Settings) (s : Client I T) : Event I T→Option (Client I T)
  | .connect => if s.connected=false then some s.open else none
  | .call i c =>
    if (s.place i).isIdle=true then some (s.move i (s.begin settings c .call)) else none
  | .batch i tickers =>
    if (s.place i).isIdle=true then some (s.move i (s.proceed settings (.batch tickers 0))) else none
  | .send i =>
    match s.place i with
    | .calling c sends k =>
      match (c.regs settings)[sends]? with
      | none => none
      | some r =>
        if s.socket=.up then some ((s.register c r).move i (.calling c (sends+1) k))
        else some (s.move i (k.answer false))
    | _ => none
  | .finish i =>
    match s.place i with
    | .calling c sends k =>
      if sends=(c.regs settings).length then some ((s.conclude c).move i (k.answer true)) else none
    | _ => none
  | .raise i =>
    match s.place i with
    | .calling _ sends k =>
      if 0< sends ∧ s.socket≠.up then some (s.move i (k.answer false)) else none
    | _ => none
  | .wake i =>
    match s.place i with
    | .resting k => some (s.move i (s.proceed settings k))
    | _ => none
  | .lose => if s.socket=.up then some {s with socket := .lost, live := ∅} else none
  | .noticed i =>
    if (s.place i).isIdle=true ∧ s.socket=.lost ∧ s.connected=true then some (s.leave i) else none
  | .closed i =>
    match s.place i with
    | .closing saved exec => some {s.move i (.waiting saved exec) with socket := .absent}
    | _ => none
  | .reconnected i order =>
    match s.place i with
    | .waiting saved exec =>
      if order.Nodup ∧ order.toFinset=saved then
        some (s.open.move i (s.open.proceed settings (.restore order exec)))
      else none
    | _ => none
  | .failed i =>
    match s.place i with
    | .waiting _ _ => some {s.move i (.idle none) with connected := false}
    | _ => none

section Promise

/-- The items of some tickers, with the notices or not. -/
def items (tickers : Finset T) (notice : Bool) : Finset (Item T) :=
  tickers.image .ticker∪if notice=true then {.notice} else ∅

/-- What the client has noted. -/
def Client.held (s : Client I T) : Finset (Item T) := items s.subscribed s.notice

/-- What calls have added and not discarded since. -/
def Client.wants (s : Client I T) : Finset (Item T) := items s.wanted s.wantedNotice

/-- What a call adds. -/
def Call.added (c : Call T) : Finset (Item T) := if c.subscribes=true then {c.item} else ∅

/-- What is left to restore after a call. -/
def Cont.left : Cont T→Finset (Item T)
  | .restore rest exec => items rest.toFinset exec
  | .call => ∅
  | .batch _ _ => ∅
  | .reconnected => ∅

/-- The task of a call is `_reconnect`. -/
def Cont.restores : Cont T→Bool
  | .restore _ _ => true
  | .reconnected => true
  | .call => false
  | .batch _ _ => false

/-- What a task adds or has left to restore. -/
def Place.asks : Place T→Finset (Item T)
  | .calling c _ k => c.added∪k.left
  | .resting k => k.left
  | .closing saved exec => items saved exec
  | .waiting saved exec => items saved exec
  | .idle _ => ∅

/-- What a task has left to restore. -/
def Place.toRestore : Place T→Finset (Item T)
  | .calling c _ k => if k.restores=true then c.added∪k.left else ∅
  | .resting k => k.left
  | .closing saved exec => items saved exec
  | .waiting saved exec => items saved exec
  | .idle _ => ∅

/-- A task is in `_reconnect`. -/
def Place.reconnecting : Place T→Bool
  | .calling _ _ k => k.restores
  | .resting k => k.restores
  | .closing _ _ => true
  | .waiting _ _ => true
  | .idle _ => false

/-- The registrations that are live, and those of what is noted, being added or left to
restore. -/
def Client.reserved (settings : Settings) (s : Client I T) : Set (Reg T) :=
  {r | r∈s.live ∨ ∃ x,(x∈s.held ∨ ∃ i,x∈(s.place i).asks) ∧ r∈x.regs settings}

/-- The registrations that a call adds. -/
def Call.asked (settings : Settings) (c : Call T) : Set (Reg T) :=
  {r | ∃ x∈c.added,r∈x.regs settings}

/-- A call that passes its checks finds room for what it adds. -/
def Room (settings : Settings) (s : Client I T) (c : Call T) : Prop :=
  s.check settings c=none→(s.reserved settings∪c.asked settings).encard≤ maxSubscriptions

/-- The call that a caller's event begins. -/
def Client.begins (s : Client I T) : Event I T→Option (Call T)
  | .call _ c => some c
  | .batch _ (ticker::_) => some (.subscribe ticker)
  | .wake i =>
    match s.place i with
    | .resting (.batch (ticker::_) _) => some (.subscribe ticker)
    | _ => none
  | _ => none

/-- A connection is lost, or a new one fails, with nothing left to restore that is not
noted. -/
def Safe (s : Client I T) : Event I T→Prop
  | .lose => ∀ i,(s.place i).toRestore⊆ s.held
  | .failed i => (s.place i).toRestore⊆ s.held
  | _ => True

/-- The calls find room, and nothing is lost with a connection. -/
def RoomAndSafe (settings : Settings) (s : Client I T) (e : Event I T) : Prop :=
  (∀ c∈s.begins e,Room settings s c) ∧ Safe s e

/-- What the client promises: no more registrations than the limit, and, when it is
connected and not reconnecting, all subscriptions that calls have made. -/
structure Promised (s : Client I T) : Prop where
  /-- The registrations are within the limit. -/
  room : s.live.card≤ maxSubscriptions
  /-- The subscriptions are there. -/
  restored : s.isConnected=true→(∀ i,(s.place i).reconnecting=false)→
    s.subscribed=s.wanted ∧ s.notice=s.wantedNotice

end Promise

end Aqts.RealtimeSubscriptions
