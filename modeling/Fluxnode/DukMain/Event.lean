import Fluxnode.C.Memory
import Fluxnode.Duktape.Stack

/-!
# Events of the runtime

An event is built by `duk_main_add_full_event` and shown to the application by
`send_event`, which calls `OnEvent` with an object made from the members of the
event.
-/

namespace Fluxnode
namespace DukMain

open Duktape

/-- `event_msg_type`.  A producer may pass a number without a name. -/
abbrev MsgType := UInt32

def loraMsg : MsgType := 0

def uiMsg : MsgType := 1

def buttonPressed : MsgType := 4

inductive Direction where
  | incoming
  | outgoing
  deriving DecidableEq, Repr

/--
`event_msg_t`, without its links.  Its payload is a block of at least
`payloadLen` bytes, or null.
-/
structure Event where
  msgType : MsgType
  msgDirection : Direction
  rssi : Int
  snr : Int
  ts : Int
  payload : Option (List UInt8)
  payloadLen : C.SizeT
  covered : forall bytes, bytes ∈ payload -> payloadLen.toNat ≤ bytes.length
  deriving DecidableEq, Repr

structure EventArgs where
  msgType : MsgType
  direction : Direction
  payload : Option (List UInt8)
  len : C.SizeT
  rssi : Int
  snr : Int
  ts : Int
  deriving DecidableEq, Repr

/-- The `payload_len` that `duk_main_add_full_event` stores. -/
def payloadLen (payload : Option (List UInt8)) (len : C.SizeT) :
    Option C.SizeT :=
  match payload with
  | some bytes =>
      if len = 0 then (C.strlen bytes).map UInt32.ofNat else some len
  | none => some len

/--
The event that `duk_main_add_full_event` builds.  There is none when the
payload is shorter than its length, or is a string without an end.
-/
def fullEvent (args : EventArgs) : Option Event :=
  match payloadLen args.payload args.len with
  | none => none
  | some len =>
      if h : forall bytes, bytes ∈ args.payload ->
          len.toNat ≤ bytes.length then
        some
          { msgType := args.msgType
            msgDirection := args.direction
            rssi := args.rssi
            snr := args.snr
            ts := args.ts
            payload := args.payload
            payloadLen := len
            covered := h }
      else
        none

/-- The arguments that `duk_main_add_event` passes on. -/
def eventArgs (msgType : MsgType) (direction : Direction)
    (payload : Option (List UInt8)) (len : C.SizeT) : EventArgs where
  msgType := msgType
  direction := direction
  payload := payload
  len := len
  rssi := 0
  snr := 0
  ts := 0

theorem fullEvent_isSome {args : EventArgs}
    (hpayload : forall bytes, bytes ∈ args.payload ->
      args.len.toNat ≤ bytes.length ∧
        (args.len = 0 -> (C.strlen bytes).isSome)) :
    (fullEvent args).isSome := by
  cases hp : args.payload with
  | none =>
      simp [fullEvent, payloadLen, hp]
  | some bytes =>
      rcases hpayload bytes hp with ⟨hlength, hstring⟩
      rcases eq_or_ne args.len 0 with hzero | hne
      · rcases Option.isSome_iff_exists.mp (hstring hzero) with ⟨n, hn⟩
        have hlt := C.strlen_lt hn
        have hle : n % 2 ^ 32 ≤ bytes.length :=
          Nat.le_trans (Nat.mod_le _ _) (Nat.le_of_lt hlt)
        simpa [fullEvent, payloadLen, hp, hzero, hn] using hle
      · simp [fullEvent, payloadLen, hp, hne, hlength]

/-!
## `send_event`
-/

variable {α : Type}

/-- Push a number and make it a property of the object below it. -/
def putNumber (st : Stack α) (key : String) (n : Int) : Option (Stack α) :=
  putPropString (pushNumber st n) (-2) key

def putEventData (st : Stack α) (event : Event) : Option (Stack α) :=
  match event.payload with
  | none => some st
  | some bytes =>
      if event.payloadLen = 0 then
        some st
      else do
        let st := pushFixedBuffer st event.payloadLen.toNat
        let data ← C.readBytes bytes 0 event.payloadLen.toNat
        let st ← fillBuffer st data
        putPropString st (-2) "EventData"

def putSignal (st : Stack α) (event : Event) : Option (Stack α) :=
  if event.msgType = loraMsg then do
    let st ← putNumber st "LoRaRSSI" event.rssi
    putNumber st "LoRaSNR" event.snr
  else
    some st

def putTimeStamp (st : Stack α) (event : Event) : Option (Stack α) :=
  if event.ts = 0 then some st else putNumber st "TimeStamp" event.ts

def putNumPress (st : Stack α) (event : Event) : Option (Stack α) :=
  if event.msgType = buttonPressed then
    putNumber st "NumPress" event.payloadLen.toNat
  else
    some st

/-- `send_event` up to the call of `OnEvent`. -/
def prepareEvent (prop : Value α -> String -> Value α) (st : Stack α)
    (event : Event) : Option (Stack α) := do
  let st := pushGlobalObject st
  let st ← getPropString prop st (-1) "OnEvent"
  let st := pushObject st
  let st ← putNumber st "EventType" event.msgType.toNat
  let st ← putEventData st event
  let st ← putSignal st event
  let st ← putTimeStamp st event
  let st ← putNumPress st event
  insert st (-1)

/-- `send_event` from the call of `OnEvent`: its result, and the stack. -/
def finishEvent (outcome : Outcome α) (st : Stack α) :
    Option (Int × Stack α) := do
  let (code, st) ← pcall outcome st 1
  let result := if code ≠ 0 then 0 else 1
  let st ← pop st
  return (result, st)

def sendEvent (prop : Value α -> String -> Value α) (outcome : Outcome α)
    (st : Stack α) (event : Event) : Option (Int × Stack α) := do
  let st ← prepareEvent prop st event
  finishEvent outcome st

/-!
## The object that `OnEvent` gets

The optional properties are assigned under different names, so the object holds
them in the order of the assignments.
-/

def dataProps (event : Event) : List (String × Value α) :=
  match event.payload with
  | none => []
  | some bytes =>
      if event.payloadLen = 0 then
        []
      else
        [("EventData", .buffer (bytes.take event.payloadLen.toNat))]

def signalProps (event : Event) : List (String × Value α) :=
  if event.msgType = loraMsg then
    [("LoRaRSSI", .number event.rssi), ("LoRaSNR", .number event.snr)]
  else
    []

def timeProps (event : Event) : List (String × Value α) :=
  if event.ts = 0 then [] else [("TimeStamp", .number event.ts)]

def pressProps (event : Event) : List (String × Value α) :=
  if event.msgType = buttonPressed then
    [("NumPress", .number event.payloadLen.toNat)]
  else
    []

def eventProps (event : Event) : List (String × Value α) :=
  [("EventType", .number event.msgType.toNat)] ++ dataProps event ++
    signalProps event ++ timeProps event ++ pressProps event

theorem setProp_of_not_mem {props : List (String × Value α)} {key : String}
    (v : Value α) (hkey : key ∉ props.map Prod.fst) :
    setProp props key v = props ++ [(key, v)] := by
  induction props with
  | nil =>
      rfl
  | cons p rest ih =>
      rw [List.map_cons, List.mem_cons, not_or] at hkey
      rw [setProp, if_neg (Ne.symm hkey.1), ih hkey.2]
      rfl

theorem putNumber_object (props : List (String × Value α)) (st : Stack α)
    {key : String} (n : Int) (hkey : key ∉ props.map Prod.fst) :
    putNumber (.object props :: st) key n =
      some (.object (props ++ [(key, .number n)]) :: st) := by
  rw [putNumber, pushNumber, putPropString_below_top,
    setProp_of_not_mem _ hkey]

theorem putEventData_object (props : List (String × Value α))
    (st : Stack α) (event : Event)
    (hkey : "EventData" ∉ props.map Prod.fst) :
    putEventData (.object props :: st) event =
      some (.object (props ++ dataProps event) :: st) := by
  cases hpayload : event.payload with
  | none =>
      simp only [putEventData, dataProps, hpayload, List.append_nil]
  | some bytes =>
      by_cases hzero : event.payloadLen = 0
      · simp only [putEventData, dataProps, hpayload, if_pos hzero,
          List.append_nil]
      · have hcovered := event.covered bytes hpayload
        have hread : C.readBytes bytes 0 event.payloadLen.toNat =
            some (bytes.take event.payloadLen.toNat) := by
          rw [C.readBytes_of_le (by rw [Nat.zero_add]; exact hcovered),
            List.drop_zero]
        have hlength : (bytes.take event.payloadLen.toNat).length =
            event.payloadLen.toNat := by
          rw [List.length_take, Nat.min_eq_left hcovered]
        have hfill := fillBuffer_pushFixedBuffer (.object props :: st)
          (bytes.take event.payloadLen.toNat)
        rw [hlength] at hfill
        simp only [putEventData, dataProps, hpayload, if_neg hzero, hread,
          hfill, Option.bind_eq_bind, Option.bind_some,
          putPropString_below_top, setProp_of_not_mem _ hkey]

theorem putSignal_object (props : List (String × Value α)) (st : Stack α)
    (event : Event) (hrssi : "LoRaRSSI" ∉ props.map Prod.fst)
    (hsnr : "LoRaSNR" ∉ props.map Prod.fst) :
    putSignal (.object props :: st) event =
      some (.object (props ++ signalProps event) :: st) := by
  by_cases hlora : event.msgType = loraMsg
  · have hsnr' : "LoRaSNR" ∉
        (props ++ [("LoRaRSSI", Value.number (α := α) event.rssi)]).map
          Prod.fst := by
      rw [List.map_append, List.mem_append, not_or]
      exact ⟨hsnr, by simp⟩
    simp only [putSignal, signalProps, if_pos hlora,
      putNumber_object props st _ hrssi, Option.bind_eq_bind,
      Option.bind_some, putNumber_object _ st _ hsnr', List.append_assoc,
      List.singleton_append]
  · simp only [putSignal, signalProps, if_neg hlora, List.append_nil]

theorem putTimeStamp_object (props : List (String × Value α))
    (st : Stack α) (event : Event)
    (hkey : "TimeStamp" ∉ props.map Prod.fst) :
    putTimeStamp (.object props :: st) event =
      some (.object (props ++ timeProps event) :: st) := by
  by_cases hzero : event.ts = 0
  · simp only [putTimeStamp, timeProps, if_pos hzero, List.append_nil]
  · simp only [putTimeStamp, timeProps, if_neg hzero,
      putNumber_object props st _ hkey]

theorem putNumPress_object (props : List (String × Value α))
    (st : Stack α) (event : Event)
    (hkey : "NumPress" ∉ props.map Prod.fst) :
    putNumPress (.object props :: st) event =
      some (.object (props ++ pressProps event) :: st) := by
  by_cases hpressed : event.msgType = buttonPressed
  · simp only [putNumPress, pressProps, if_pos hpressed,
      putNumber_object props st _ hkey]
  · simp only [putNumPress, pressProps, if_neg hpressed, List.append_nil]

theorem not_mem_dataProps (event : Event) {key : String}
    (hkey : key ≠ "EventData") :
    key ∉ (dataProps (α := α) event).map Prod.fst := by
  unfold dataProps
  split
  · exact List.not_mem_nil
  · split
    · exact List.not_mem_nil
    · exact List.not_mem_cons_of_ne_of_not_mem hkey List.not_mem_nil

theorem not_mem_signalProps (event : Event) {key : String}
    (hrssi : key ≠ "LoRaRSSI") (hsnr : key ≠ "LoRaSNR") :
    key ∉ (signalProps (α := α) event).map Prod.fst := by
  unfold signalProps
  split
  · exact List.not_mem_cons_of_ne_of_not_mem hrssi
      (List.not_mem_cons_of_ne_of_not_mem hsnr List.not_mem_nil)
  · exact List.not_mem_nil

theorem not_mem_timeProps (event : Event) {key : String}
    (hkey : key ≠ "TimeStamp") :
    key ∉ (timeProps (α := α) event).map Prod.fst := by
  unfold timeProps
  split
  · exact List.not_mem_nil
  · exact List.not_mem_cons_of_ne_of_not_mem hkey List.not_mem_nil

theorem not_mem_append_props {props props' : List (String × Value α)}
    {key : String} (h : key ∉ props.map Prod.fst)
    (h' : key ∉ props'.map Prod.fst) :
    key ∉ (props ++ props').map Prod.fst := by
  rw [List.map_append, List.mem_append, not_or]
  exact ⟨h, h'⟩

/--
Before the call of `OnEvent` the stack holds, above what was there, the global
object, the function and the event object.
-/
theorem prepareEvent_eq (prop : Value α -> String -> Value α)
    (st : Stack α) (event : Event) :
    prepareEvent prop st event =
      some (.object (eventProps event) :: prop .globalObject "OnEvent" ::
        .globalObject :: st) := by
  let typed : List (String × Value α) :=
    [("EventType", .number event.msgType.toNat)]
  have htyped : forall key, key ≠ "EventType" ->
      key ∉ typed.map Prod.fst := by
    intro key hkey
    exact List.not_mem_cons_of_ne_of_not_mem hkey List.not_mem_nil
  have hdata : forall key, key ≠ "EventType" -> key ≠ "EventData" ->
      key ∉ (typed ++ dataProps event).map Prod.fst := by
    intro key htype hdata
    exact not_mem_append_props (htyped key htype)
      (not_mem_dataProps event hdata)
  have hstamp : "TimeStamp" ∉
      (typed ++ dataProps event ++ signalProps event).map Prod.fst := by
    apply not_mem_append_props (hdata _ (by simp) (by simp))
    exact not_mem_signalProps event (by simp) (by simp)
  have hpresses : "NumPress" ∉
      (typed ++ dataProps event ++ signalProps event ++
        timeProps event).map Prod.fst := by
    apply not_mem_append_props
    · apply not_mem_append_props (hdata _ (by simp) (by simp))
      exact not_mem_signalProps event (by simp) (by simp)
    · exact not_mem_timeProps event (by simp)
  have htypeNumber : putNumber (pushObject
      (prop .globalObject "OnEvent" :: .globalObject :: st)) "EventType"
      event.msgType.toNat = some (.object typed ::
        prop .globalObject "OnEvent" :: .globalObject :: st) :=
    putNumber_object [] _ _ List.not_mem_nil
  simp only [prepareEvent, pushGlobalObject, getPropString_top, htypeNumber,
    putEventData_object _ _ _ (htyped _ (by simp)),
    putSignal_object _ _ _ (hdata _ (by simp) (by simp))
      (hdata _ (by simp) (by simp)),
    putTimeStamp_object _ _ _ hstamp, putNumPress_object _ _ _ hpresses,
    insert_top, Option.bind_eq_bind, Option.bind_some]
  rfl

theorem finishEvent_eq (outcome : Outcome α) (arg func : Value α)
    (st : Stack α) :
    finishEvent outcome (arg :: func :: .globalObject :: st) =
      some (if outcome.result.1 ≠ 0 then 0 else 1, .globalObject :: st) := by
  simp [finishEvent, pcall_one, pop]

/-- `send_event` always ends with one more value on the stack. -/
theorem sendEvent_eq (prop : Value α -> String -> Value α)
    (outcome : Outcome α) (st : Stack α) (event : Event) :
    sendEvent prop outcome st event =
      some (if outcome.result.1 ≠ 0 then 0 else 1, .globalObject :: st) := by
  simp only [sendEvent, prepareEvent_eq, finishEvent_eq,
    Option.bind_eq_bind, Option.bind_some]

end DukMain
end Fluxnode
