import Fluxnode.DukMain.Event
import Fluxnode.Foundation.Routing
import Fluxnode.Record.Sessions

/-!
# The BLE server

`ble_server.c` serves two profiles: the flux profile, by which a client and the
script exchange messages, and the battery level.  The stack names the interface
of a profile with each event, and `gatts_event_handler` passes the event on to
the profiles that have it.
-/

namespace Fluxnode
namespace Ble

open C
open Foundation
open DukMain (Direction EventArgs MsgType eventArgs)
open Record

def fluxIdxNb : Nat := 5

def battIdxVal : Nat := 2

def battIdxNb : Nat := 3

def gattIfNone : UInt8 := 0xff

structure BattProfile where
  handleTable : List UInt16
  mtuSize : UInt16
  connId : UInt16
  gattsIf : UInt8
  isConnected : Bool
  remoteBda : List UInt8
  deriving DecidableEq, Repr

/-- An event of the stack, with the parameters that the handlers read.  The
handlers do nothing with the events that are not listed. -/
inductive StackEvent where
  | reg (ok : Bool) (appId : Nat)
  | creatAttrTab (ok : Bool) (handles : List UInt16)
  | read (handle connId : UInt16) (transId : UInt32)
  | write (handle : UInt16) (isPrep : Bool) (value : DataValue)
  | mtu (size : UInt16)
  | connect (connId : UInt16) (remoteBda : List UInt8)
  | disconnect
  | other
  deriving DecidableEq, Repr

/-- `esp_ble_gatts_send_response`, with a value of one byte. -/
structure Response where
  gattsIf : UInt8
  connId : UInt16
  transId : UInt32
  handle : UInt16
  value : UInt8
  deriving DecidableEq, Repr

inductive StackCall where
  | setDeviceName
  | configAdvDataRaw
  | createAttrTab (gattsIf : UInt8) (maxNbAttr : Nat)
  | startService (handle : UInt16)
  | sendResponse (response : Response)
  | flux (output : Output)
  deriving DecidableEq, Repr

/-- `ESP_GATTS_REG_EVT` -/
def register (gattsIf : UInt8) (maxNbAttr : Nat) : List StackCall :=
  [.setDeviceName, .configAdvDataRaw, .createAttrTab gattsIf maxNbAttr]

/-- `ESP_GATTS_CREAT_ATTR_TAB_EVT`: the new handle table. -/
def newTable (ok : Bool) (handles : List UInt16) (maxNbAttr : Nat)
    (table : List UInt16) : List UInt16 × List StackCall :=
  if ok ∧ handles.length = maxNbAttr then
    (handles, (handles.head?.map StackCall.startService).toList)
  else
    (table, [])

/-- The event for the part of the handler that serves a client. -/
def StackEvent.gatts? (gattsIf : UInt8) : StackEvent -> Option GattsEvent
  | .write handle isPrep value => some (.write handle isPrep value)
  | .mtu size => some (.mtu size)
  | .connect connId remoteBda => some (.connect connId gattsIf remoteBda)
  | .disconnect => some .disconnect
  | _ => none

def fluxGattsProfileEventHandler (gattsIf : UInt8) (p : FluxProfile)
    (event : StackEvent) : Option (FluxProfile × List StackCall) :=
  match event with
  | .reg _ _ => some (p, register gattsIf fluxIdxNb)
  | .creatAttrTab ok handles =>
      let (table, calls) := newTable ok handles fluxIdxNb p.handleTable
      some ({ p with handleTable := table }, calls)
  | _ =>
      match event.gatts? gattsIf with
      | none => some (p, [])
      | some gatts =>
          (eventHandler p gatts).map (fun r => (r.1, r.2.map StackCall.flux))

/-- `batt_find_char_and_desr_index`, without a result for an unknown handle. -/
def battFindCharAndDesrIndex (table : List UInt16) (handle : UInt16) :
    Option Nat :=
  table.findIdx? (· == handle)

/-- The level in the answer; 99 without a function that tells it. -/
def batteryLevel (percent : Option Int) : UInt8 :=
  match percent with
  | some percent => UInt8.ofInt percent
  | none => 99

/-- `batt_gatts_profile_event_handler`, when `get_battery_percent` tells the
level. -/
def battGattsProfileEventHandler (gattsIf : UInt8) (percent : Option Int)
    (p : BattProfile) : StackEvent -> BattProfile × List StackCall
  | .reg _ _ => (p, register gattsIf battIdxNb)
  | .creatAttrTab ok handles =>
      let (table, calls) := newTable ok handles battIdxNb p.handleTable
      ({ p with handleTable := table }, calls)
  | .read handle connId transId =>
      if battFindCharAndDesrIndex p.handleTable handle = some battIdxVal then
        (p, [.sendResponse {
          gattsIf := gattsIf
          connId := connId
          transId := transId
          handle := handle
          value := batteryLevel percent }])
      else
        (p, [])
  | .write _ _ _ => (p, [])
  | .mtu size => ({ p with mtuSize := size }, [])
  | .connect connId remoteBda =>
      ({ p with
          connId := connId
          gattsIf := gattsIf
          isConnected := true
          remoteBda := remoteBda }, [])
  | .disconnect =>
      ({ p with isConnected := false }, [.flux .startAdvertising])
  | .other => (p, [])

/-- The globals of the server; the interfaces are those of
`flux_profile_tab`. -/
structure Server where
  flux : FluxProfile
  batt : BattProfile
  fluxIf : UInt8
  battIf : UInt8

/-- An event, the interface it is for, and what `get_battery_percent` would
tell. -/
structure Incoming where
  gattsIf : UInt8
  event : StackEvent
  percent : Option Int
  deriving DecidableEq, Repr

def Incoming.isFor (profileIf : UInt8) (i : Incoming) : Bool :=
  i.gattsIf == gattIfNone || i.gattsIf == profileIf

def callProfiles (s : Server) (i : Incoming) :
    Option (Server × List StackCall) :=
  match
      if i.isFor s.fluxIf then
        fluxGattsProfileEventHandler i.gattsIf s.flux i.event
      else some (s.flux, []) with
  | none => none
  | some (flux, calls) =>
      let (batt, calls') :=
        if i.isFor s.battIf then
          battGattsProfileEventHandler i.gattsIf i.percent s.batt i.event
        else (s.batt, [])
      some ({ s with flux := flux, batt := batt }, calls ++ calls')

/-- `flux_profile_tab[app_id].gatts_if = gatts_if`, inside the table. -/
def setGattsIf (s : Server) (appId : Nat) (gattsIf : UInt8) : Option Server :=
  match appId with
  | 0 => some { s with fluxIf := gattsIf }
  | 1 => some { s with battIf := gattsIf }
  | _ => none

def gattsEventHandler (s : Server) (i : Incoming) :
    Option (Server × List StackCall) :=
  match i.event with
  | .reg ok appId =>
      if ok then
        match setGattsIf s appId i.gattsIf with
        | none => none
        | some s => callProfiles s i
      else some (s, [])
  | _ => callProfiles s i

end Ble
end Fluxnode
