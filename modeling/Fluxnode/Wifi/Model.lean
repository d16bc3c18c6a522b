import Mathlib.Tactic.Common

/-!
# The wifi service

`wifi_start` and `wifi_stop`, over a network stack that is seen as flags.
`ESP_ERROR_CHECK` ends the program when a call of the stack fails.  The events
of the station come from outside.
-/

namespace Fluxnode
namespace Wifi

inductive WifiMode where
  | ap
  | sta
  deriving DecidableEq, Repr

def stationMaximumRetry : Nat := 3

structure Stack where
  /-- The default event loop exists. -/
  eventLoop : Bool
  /-- `net` -/
  netif : Option WifiMode
  initialised : Bool
  started : Bool
  stationHandlers : Bool
  apHandler : Bool
  retryNum : Nat
  wifiMode : WifiMode
  deriving DecidableEq, Repr

def Stack.off : Stack where
  eventLoop := false
  netif := none
  initialised := false
  started := false
  stationHandlers := false
  apHandler := false
  retryNum := 0
  wifiMode := .ap

/-- Why a function does not return. -/
inductive Stop where
  | aborted
  | waiting
  deriving DecidableEq, Repr

abbrev Service := StateT Stack (Except Stop)

/-!
## Calls of the stack
-/

/-- `ESP_ERROR_CHECK` of a call that fails unless the condition holds. -/
def espErrorCheck (succeeds : Stack -> Bool) (effect : Stack -> Stack) :
    Service Unit := do
  if succeeds (← get) then
    modify effect
  else
    throw .aborted

def espEventLoopCreateDefault : Service Unit :=
  espErrorCheck (fun s => !s.eventLoop) (fun s => { s with eventLoop := true })

def espEventLoopDeleteDefault : Service Unit :=
  modify (fun s => { s with eventLoop := false })

def espNetifCreateDefaultWifi (mode : WifiMode) : Service Unit :=
  modify (fun s => { s with netif := some mode })

def espNetifDestroy : Service Unit :=
  modify (fun s => { s with netif := none })

def espWifiInit : Service Unit :=
  espErrorCheck (fun _ => true) (fun s => { s with initialised := true })

def espWifiDeinit : Service Unit :=
  espErrorCheck (·.initialised) (fun s => { s with initialised := false })

def espWifiSet : Service Unit :=
  espErrorCheck (·.initialised) id

def espWifiStart : Service Unit :=
  espErrorCheck (·.initialised) (fun s => { s with started := true })

def espWifiDisconnect : Service Unit :=
  espErrorCheck (fun s => s.initialised && s.started) id

def espWifiStop : Service Unit :=
  espErrorCheck (·.initialised) (fun s => { s with started := false })

/-- Register or unregister `station_event_handler` for both of its events. -/
def setStationHandlers (registered : Bool) : Service Unit :=
  espErrorCheck (·.eventLoop) (fun s => { s with stationHandlers := registered })

def registerApHandler : Service Unit :=
  espErrorCheck (·.eventLoop) (fun s => { s with apHandler := true })

/-!
## Station
-/

inductive StationEvent where
  | start
  | disconnected
  | gotIp
  deriving DecidableEq, Repr

structure Bits where
  connected : Bool
  fail : Bool
  deriving DecidableEq, Repr

/-- `station_event_handler`, without its calls of `esp_wifi_connect`. -/
def stationEventHandler (p : Stack × Bits) : StationEvent -> Stack × Bits
  | .start => p
  | .disconnected =>
      if p.1.retryNum < stationMaximumRetry then
        ({ p.1 with retryNum := p.1.retryNum + 1 }, p.2)
      else
        (p.1, { p.2 with fail := true })
  | .gotIp => ({ p.1 with retryNum := 0 }, { p.2 with connected := true })

/-- The first of the bits to be set ends the wait.  The events behind it come,
too, as long as the handlers are registered. -/
def waitBits : List StationEvent -> Stack × Bits ->
    Option ((Stack × Bits) × List StationEvent)
  | [], _ => none
  | event :: rest, p =>
      let p := stationEventHandler p event
      if p.2.connected || p.2.fail then
        some (p, rest)
      else
        waitBits rest p

def xEventGroupWaitBits (events : List StationEvent) :
    Service (Bits × List StationEvent) := fun s =>
  match waitBits events (s, ⟨false, false⟩) with
  | none => .error .waiting
  | some (p, late) => .ok ((p.2, late), p.1)

def lateEvents (late : List StationEvent) (bits : Bits) : Service Unit :=
  modify (fun s => (late.foldl stationEventHandler (s, bits)).1)

/-- The events are those in front of the call of
`esp_event_handler_unregister`. -/
def wifiInitStation (events : List StationEvent) : Service Int := do
  espNetifCreateDefaultWifi .sta
  espWifiInit
  setStationHandlers true
  espWifiSet
  espWifiSet
  espWifiStart
  let (bits, late) ← xEventGroupWaitBits events
  let ret := if bits.connected then 1 else 0
  lateEvents late bits
  setStationHandlers false
  return ret

/-!
## Access point
-/

def wifiInitSoftap : Service Unit := do
  espNetifCreateDefaultWifi .ap
  espWifiInit
  registerApHandler
  espWifiSet
  espWifiSet
  espWifiStart

/-!
## Start and stop
-/

/-- `wifi_start`; the events are those of a station. -/
def wifiStart (mode : WifiMode) (events : List StationEvent) : Service Int := do
  modify (fun s => { s with wifiMode := mode })
  espEventLoopCreateDefault
  if mode = .ap then
    wifiInitSoftap
    return 1
  else
    wifiInitStation events

def wifiStop : Service Unit := do
  if (← get).wifiMode = .sta then
    espWifiDisconnect
  espWifiStop
  espWifiDeinit
  espNetifDestroy
  espEventLoopDeleteDefault

end Wifi
end Fluxnode
