import Fluxnode.DukMain.Event
import Fluxnode.Foundation.Ledger
import Fluxnode.Foundation.Run
import Fluxnode.Record.Model
import Fluxnode.WebSocket.Model

/-!
# The payloads of events

The producers of events run in tasks of their own, or in the script, and hand
the payload of an event over with it; the runtime task frees it.  An action is
one step of a task between two accesses to the heap or to the queue, and the
actions interleave in any order.  What arrives from outside, and whether
`malloc` finds memory, is part of an action.  A step without a defined result
has no successor.  The blocks of the events themselves are left out.
-/

namespace Fluxnode
namespace Payload

open C (SizeT)
open DukMain (Event MsgType Direction)
open Foundation (Ledger)

/-- A payload buffer, by the number of its allocation. -/
abbrev Buffer := Nat

structure Pointer where
  buffer : Buffer
  bytes : List UInt8
  deriving DecidableEq, Repr

structure Msg where
  event : Event
  payload : Option Buffer
  deriving DecidableEq, Repr

/-!
## Positions

`isr_recv_task` waits for a command, or is before `lora_receive_packet` with
its buffer.  `websocket_serve` waits for a frame, is behind the `malloc` of its
payload, in `queue_cb` before and behind `duk_main_add_event`, or back from it.
The runtime task may be running a script; in `work_queue_delete` it is before
`WORK_QUEUE_RECV_GET` or `free(msg->payload)`; and it shows an event to the
script or to `send_func`, or is before `free(msg->payload)`.
-/

inductive IsrPc where
  | waiting
  | receiving (buf : Option Buffer)
  deriving DecidableEq, Repr

inductive ServePc where
  | waiting
  | copied (opcode : Nat) (payload : Pointer)
  | callback (payload : Pointer)
  | added (framePayload : Option Buffer)
  | returned (framePayload : Option Buffer)
  deriving DecidableEq, Repr

inductive TaskPc where
  | script
  | deleteQueue
  | deleteMsg (msg : Msg)
  | dispatch (msg : Msg)
  | freeMsg (msg : Msg)
  deriving DecidableEq, Repr

structure Pending where
  msgType : MsgType
  payload : Option Pointer
  len : SizeT
  deriving DecidableEq, Repr

/--
The heap, the queue, and the positions: `isr_recv_task`, the websocket server,
`queue_udp_cb`, the GATT callback with the buffer of its record, before
`ble_receive`, `Platform.sendEvent` of the script, and the runtime task.
-/
structure State where
  ledger : Ledger
  eventQueue : List Msg
  isr : IsrPc
  serve : ServePc
  udp : Option Pending
  record : Record.RecordT
  recordBuf : Option Buffer
  ble : Option Pending
  sending : Option Pending
  task : TaskPc

/-!
## Adding an event
-/

def addFullEvent (s : State) (msgType : MsgType) (direction : Direction)
    (payload : Option Pointer) (len : SizeT) (rssi snr ts : Int) :
    Option State :=
  let args : DukMain.EventArgs :=
    { msgType := msgType
      direction := direction
      payload := payload.map Pointer.bytes
      len := len
      rssi := rssi
      snr := snr
      ts := ts }
  match DukMain.fullEvent args with
  | none => none
  | some event =>
      some { s with
        eventQueue :=
          s.eventQueue ++
            [{ event := event, payload := payload.map Pointer.buffer }] }

def addEvent (s : State) (msgType : MsgType) (direction : Direction)
    (payload : Option Pointer) (len : SizeT) : Option State :=
  addFullEvent s msgType direction payload len 0 0 0

/-!
## LoRa
-/

def loraMsgMaxSize : Nat := 255

/-- `isr_recv_task` with a command, to the call of `lora_receive_packet`;
`hopped` is the result of `lora_fhss_handle`. -/
def isrCmd (s : State) (hopped succeeds : Bool) : Option State :=
  match s.isr with
  | .waiting =>
      if hopped then
        some s
      else
        let (buf, ledger) := s.ledger.malloc succeeds
        some { s with ledger := ledger, isr := .receiving buf }
  | .receiving _ => none

/-- `isr_recv_task` when `lora_receive_packet` has returned the number of the
bytes that it wrote. -/
def isrReceived (s : State) (bytes : List UInt8) (rssi snr ts : Int) :
    Option State :=
  match s.isr with
  | .waiting => none
  | .receiving buf =>
      let bytesRecv := bytes.length
      let s := { s with isr := .waiting }
      if bytesRecv > loraMsgMaxSize + 1 then
        none
      else if bytesRecv > 0 then
        match buf with
        -- a write through a null pointer
        | none => none
        | some buf =>
            addFullEvent s DukMain.loraMsg .incoming (some ⟨buf, bytes⟩)
              (UInt32.ofNat bytesRecv) rssi snr ts
      else
        some s

/-!
## The websocket server
-/

/-- `websocket_serve` with a frame, up to the terminated payload. -/
def serveFrame (s : State) (opcode : Nat) (payload : List UInt8)
    (succeeds : Bool) : Option State :=
  match s.serve with
  | .waiting =>
      if opcode = WebSocket.wsOpClose then
        some s
      else
        match s.ledger.malloc succeeds with
        | (none, _) => some s
        | (some buf, ledger) =>
            some { s with
              ledger := ledger
              serve := .copied opcode ⟨buf, payload ++ [0]⟩ }
  | _ => none

def serveStep (s : State) : Option State :=
  match s.serve with
  | .waiting => none
  | .copied opcode payload =>
      if opcode ≠ WebSocket.wsOpText then
        some { s with
          ledger := s.ledger.release payload.buffer
          serve := .waiting }
      else
        some { s with serve := .callback payload }
  | .callback payload =>
      addEvent { s with serve := .added payload.buffer } DukMain.uiMsg
        .incoming payload (UInt32.ofNat (payload.bytes.length - 1))
  -- `frame->payload = NULL`
  | .added _ => some { s with serve := .returned none }
  | .returned framePayload =>
      some { s with
        ledger := s.ledger.release framePayload
        serve := .waiting }

/-!
## UDP
-/

/-- `queue_udp_cb` up to the call of `duk_main_add_full_event`. -/
def queueUdpCb (s : State) (buf : List UInt8) (succeeds : Bool) :
    Option State :=
  match s.udp, buf with
  | none, first :: second :: rest =>
      match s.ledger.malloc succeeds with
      -- a copy to a null pointer
      | (none, _) => none
      | (some data, ledger) =>
          some { s with
            ledger := ledger
            udp := some
              { msgType := (first - 65).toUInt32
                payload := some ⟨data, second :: rest⟩
                len := UInt32.ofNat (buf.length - 1) } }
  | none, _ => some s
  | some _, _ => none

def udpAdd (s : State) (ts : Int) : Option State :=
  match s.udp with
  | none => none
  | some e =>
      addFullEvent { s with udp := none } e.msgType .incoming e.payload e.len
        0 0 ts

/-!
## BLE
-/

def recordBytes (block : Option C.Block) : List UInt8 :=
  (block.getD []).map (fun c => c.getD 0)

/-- The full-write branch of `ESP_GATTS_WRITE_EVT`, up to the call of
`ble_receive`.  `record_add` allocates at the start of a record. -/
def bleWrite (s : State) (value : List UInt8) : Option State :=
  match s.ble with
  | some _ => none
  | none =>
      let (buf, ledger) :=
        if s.record.len = 0 then s.ledger.malloc true
        else (s.recordBuf, s.ledger)
      match Record.writeEvt s.record value with
      | none => none
      | some (record, none) =>
          some { s with ledger := ledger, record := record, recordBuf := buf }
      | some (record, some received) =>
          some { s with
            ledger := ledger
            record := record
            recordBuf := none
            ble := some
              { msgType := DukMain.uiMsg
                payload := buf.map (⟨·, recordBytes received.buf⟩)
                len := received.len } }

def bleReceive (s : State) : Option State :=
  match s.ble with
  | none => none
  | some e =>
      addEvent { s with ble := none } e.msgType .incoming e.payload e.len

/-!
## The script
-/

/-- A script runs at its start, in `OnTimer`, or in `OnEvent`, and is not in
`Platform.sendEvent`. -/
def mayCall (s : State) : Bool :=
  match s.sending, s.task with
  | none, .script => true
  | none, .dispatch msg => msg.event.msgDirection == .incoming
  | _, _ => false

/-- `Platform.sendEvent` up to the call of `duk_main_add_event`. -/
def sendEvent (s : State) (eventType : MsgType) (data : List UInt8)
    (succeeds : Bool) : Option State :=
  if mayCall s then
    match s.ledger.malloc succeeds with
    | (none, _) =>
        -- a copy to a null pointer, unless there is nothing to copy
        if data = [] then
          some { s with
            sending := some
              { msgType := eventType, payload := none, len := 0 } }
        else
          none
    | (some buff, ledger) =>
        some { s with
          ledger := ledger
          sending := some
            { msgType := eventType
              payload := some ⟨buff, data⟩
              len := UInt32.ofNat data.length } }
  else
    none

def sendAdd (s : State) : Option State :=
  match s.sending with
  | none => none
  | some e =>
      addEvent { s with sending := none } e.msgType .outgoing e.payload e.len

/-- `ble_server_start`, which `setConnectivity` calls, as far as the record
goes. -/
def bleServerStart (s : State) (recordSize : SizeT) : Option State :=
  if mayCall s then
    some { s with record := Record.idle recordSize, recordBuf := none }
  else
    none

/-!
## The runtime task
-/

def taskStep (s : State) : Option State :=
  if s.sending.isSome then
    none
  else
    match s.task with
    | .script =>
        match s.eventQueue with
        | [] => some s
        | msg :: rest =>
            some { s with eventQueue := rest, task := .dispatch msg }
    | .deleteQueue =>
        match s.eventQueue with
        | [] => some { s with task := .script }
        | msg :: rest =>
            some { s with eventQueue := rest, task := .deleteMsg msg }
    | .deleteMsg msg =>
        some { s with
          ledger := s.ledger.release msg.payload
          task := .deleteQueue }
    | .dispatch msg => some { s with task := .freeMsg msg }
    | .freeMsg msg =>
        some { s with
          ledger := s.ledger.release msg.payload
          task := .script }

def dukInit (s : State) : Option State :=
  if s.sending.isNone ∧ s.task = .script then
    some { s with task := .deleteQueue }
  else
    none

/-!
## The system
-/

inductive Action where
  | isrCmd (hopped succeeds : Bool)
  | isrReceived (bytes : List UInt8) (rssi snr ts : Int)
  | serveFrame (opcode : Nat) (payload : List UInt8) (succeeds : Bool)
  | serveStep
  | queueUdpCb (buf : List UInt8) (succeeds : Bool)
  | udpAdd (ts : Int)
  | bleWrite (value : List UInt8)
  | bleReceive
  | sendEvent (eventType : MsgType) (data : List UInt8) (succeeds : Bool)
  | sendAdd
  | bleServerStart (recordSize : SizeT)
  /-- `button_callback` and `ui_conninfo` add events without a payload. -/
  | notify (msgType : MsgType) (len : SizeT)
  | task
  | dukInit
  deriving DecidableEq, Repr

def step : Action -> State -> Option State
  | .isrCmd hopped succeeds, s => isrCmd s hopped succeeds
  | .isrReceived bytes rssi snr ts, s => isrReceived s bytes rssi snr ts
  | .serveFrame opcode payload succeeds, s =>
      serveFrame s opcode payload succeeds
  | .serveStep, s => serveStep s
  | .queueUdpCb buf succeeds, s => queueUdpCb s buf succeeds
  | .udpAdd ts, s => udpAdd s ts
  | .bleWrite value, s => bleWrite s value
  | .bleReceive, s => bleReceive s
  | .sendEvent eventType data succeeds, s => sendEvent s eventType data succeeds
  | .sendAdd, s => sendAdd s
  | .bleServerStart recordSize, s => bleServerStart s recordSize
  | .notify msgType len, s => addEvent s msgType .incoming none len
  | .task, s => taskStep s
  | .dukInit, s => dukInit s

structure IsInitial (s : State) : Prop where
  ledger : s.ledger = Ledger.empty
  eventQueue : s.eventQueue = []
  isr : s.isr = .waiting
  serve : s.serve = .waiting
  udp : s.udp = none
  record : s.record.len = 0
  recordBuf : s.recordBuf = none
  ble : s.ble = none
  sending : s.sending = none
  task : s.task = .script

/-!
## Owners
-/

def Pending.owned (e : Pending) : List Buffer :=
  (e.payload.map Pointer.buffer).toList

def queued (s : State) : List Buffer :=
  s.eventQueue.flatMap (fun msg => msg.payload.toList)

def IsrPc.held : IsrPc -> List Buffer
  | .waiting => []
  | .receiving buf => buf.toList

/-- Once the event is added, the frame has given its payload away. -/
def ServePc.held : ServePc -> List Buffer
  | .waiting => []
  | .copied _ payload => [payload.buffer]
  | .callback payload => [payload.buffer]
  | .added _ => []
  | .returned framePayload => framePayload.toList

def TaskPc.held : TaskPc -> List Buffer
  | .deleteMsg msg => msg.payload.toList
  | .dispatch msg => msg.payload.toList
  | .freeMsg msg => msg.payload.toList
  | _ => []

def held (s : State) : List Buffer :=
  s.isr.held ++ s.serve.held ++ s.udp.elim [] Pending.owned ++
    s.recordBuf.toList ++ s.ble.elim [] Pending.owned ++
    s.sending.elim [] Pending.owned ++ s.task.held

def owned (s : State) : List Buffer :=
  queued s ++ held s

/-- The buffers that are allocated and not freed are those of the queued events
and those held, each of them has one owner, and none was freed twice. -/
def Conserved (s : State) : Prop :=
  s.ledger.Accounts (owned s)

end Payload
end Fluxnode
