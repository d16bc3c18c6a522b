import Fluxnode.DukMain.Model

/-!
# Connectivity

`setConnectivity` and `wifiConfigure` of the `Platform` object, with the tasks
of the websocket server that `websocket_start` creates and `websocket_stop`
ends.  A call runs in the task of the runtime.  It is one step, unless it has to
stop wifi: then it waits in `websocket_stop`, and its rest is another step.  The
servers take their steps in between, in any order.

The drivers of the radio, the HTTP server and the UDP service are not modelled
beyond whether they run.  A program that the firmware library ends by an abort
has no next state.
-/

namespace Fluxnode
namespace Connectivity

open DukMain (SendFunc)

/-!
## The websocket server

A server stands before a call or a test that depends on other tasks: before
`netconn_new`, in `netconn_accept`, before the test of
`websocket_server_running` that follows, in the handshake, in `netconn_recv` of
`websocket_serve`, and before it sets `websocket_server_running` to 2.
-/

/-- Before `netconn_new` it is settled whether the server will get its
connection. -/
inductive ServerPc where
  | starting (connects : Bool)
  | accepting
  | checkRunning
  | handshaking
  | serving
  | closing
  | stopped
  deriving DecidableEq, Repr

/-- What a server meets.  A frame that is received may make it leave the
client. -/
inductive ServerEvent where
  | listening
  | connectFailed
  | accepted
  | acceptFailed
  | check
  | handshake (done : Bool)
  | recvTimeout
  | recvFailed
  | recvFrame (leaves : Bool)
  | closed
  deriving DecidableEq, Repr

/-- A step of `websocket_server_task`: its next position, and the value of
`websocket_server_running`. -/
def serverMove (running : UInt32) : ServerPc -> ServerEvent ->
    Option (ServerPc × UInt32)
  | .starting true, .listening => some (.accepting, running)
  -- the task returns, and the flag stays as it is
  | .starting false, .connectFailed => some (.stopped, running)
  | .accepting, .accepted => some (.checkRunning, running)
  | .accepting, .acceptFailed =>
      some (if running ≠ 0 then .accepting else .checkRunning, running)
  | .checkRunning, .check =>
      some (if running = 0 then .closing else .handshaking, running)
  | .handshaking, .handshake done =>
      some (if done then .serving else .accepting, running)
  | .serving, .recvTimeout =>
      some (if running ≠ 0 then .serving else .accepting, running)
  | .serving, .recvFailed => some (.accepting, running)
  | .serving, .recvFrame leaves =>
      some (if running = 0 ∨ leaves then .accepting else .serving, running)
  | .closing, .closed => some (.stopped, 2)
  | _, _ => none

/-!
## The state
-/

/-- `CONNECTIVITY_T`.  The variable holds any number that is assigned to it. -/
abbrev ConnectivityT := UInt32

def notConnected : ConnectivityT := 0

def wifi : ConnectivityT := 1

def ble : ConnectivityT := 2

/-- The task of the runtime is outside of both functions, or waits in
`websocket_stop` on behalf of `setConnectivity`.  The flag is for
`ble_server_start`, which may follow. -/
inductive CallPc where
  | idle
  | stopping (newcon : Int32) (bleStarts : Bool)
  deriving DecidableEq, Repr

structure State where
  connectivity : ConnectivityT
  /-- The last call was `bootloader_random_enable`. -/
  randomEnabled : Bool
  sendFunc : Option SendFunc
  bleRunning : Bool
  /-- The `read_only` of the web server, while it runs. -/
  webserver : Option Int32
  udpRunning : Bool
  /-- `ws_server_cfg != NULL` -/
  wsServerCfg : Bool
  /-- `websocket_server_running` -/
  running : UInt32
  servers : List ServerPc
  pc : CallPc
  deriving DecidableEq, Repr

def initial : State where
  connectivity := notConnected
  randomEnabled := true
  sendFunc := none
  bleRunning := false
  webserver := none
  udpRunning := false
  wsServerCfg := false
  running := 0
  servers := []
  pc := .idle

/-!
## Starting and stopping
-/

/-- `websocket_start`, and whether `xTaskCreate` succeeds and the task will get
its connection.  `wifi_configure` ignores what it returns. -/
def websocketStart (created connects : Bool) (s : State) : State :=
  { s with
    running := 1
    servers :=
      if created then s.servers ++ [.starting connects] else s.servers }

def webserverStart (readOnly : Int32) (started : Bool) (s : State) : State :=
  if started then { s with webserver := some readOnly } else s

def udpServerStart (bound : Bool) (s : State) : State :=
  if bound then { s with udpRunning := true } else s

def websocketStop (newcon : Int32) (bleStarts : Bool) (s : State) : State :=
  { s with running := 0, pc := .stopping newcon bleStarts }

def wifiConnectivityStop (s : State) : State :=
  { s with webserver := none, udpRunning := false, wsServerCfg := false }

/-- `ble_server_start`, and whether the controller and the stack are enabled.
Where they are not, it returns before it registers anything. -/
def bleServerStart (starts : Bool) (s : State) : State :=
  if starts then { s with bleRunning := true } else s

def bleServerStop (s : State) : State :=
  { s with bleRunning := false }

def setSendFunc (func : Option SendFunc) (s : State) : State :=
  { s with sendFunc := func }

/-!
## The calls
-/

/-- `set_connectivity` behind the branch that leaves the old mode.  It ignores
what `ble_server_start` returns. -/
def enterConnectivity (newcon : Int32) (bleStarts : Bool) (s : State) : State :=
  let s :=
    if newcon = 0 then
      setSendFunc none { s with randomEnabled := true }
    else if newcon = 1 then
      setSendFunc none s
    else if newcon = 2 then
      setSendFunc (some .bleServerSend) (bleServerStart bleStarts s)
    else
      s
  { s with connectivity := newcon.toUInt32, pc := .idle }

/-- `set_connectivity`, up to its end or to the loop of `websocket_stop`. -/
def setConnectivity (newcon : Int32) (bleStarts : Bool) (s : State) : State :=
  let s :=
    if s.connectivity = notConnected then
      { s with randomEnabled := false }
    else
      s
  if (newcon = 0 ∨ newcon = 2) ∧ s.connectivity = wifi then
    websocketStop newcon bleStarts s
  else if (newcon = 0 ∨ newcon = 1) ∧ s.connectivity = ble then
    enterConnectivity newcon bleStarts (bleServerStop s)
  else
    enterConnectivity newcon bleStarts s

/-- What `wifi_configure` gets: its arguments, as C strings, and how the
services start. -/
structure WifiConfig where
  ssid : List UInt8
  pass : List UInt8
  mode : Int32
  webmode : Int32
  wifiStarts : Bool
  /-- `xTaskCreate` of the websocket server succeeds. -/
  serverStarts : Bool
  /-- `netconn_new` of that server succeeds. -/
  serverConnects : Bool
  webStarts : Bool
  udpStarts : Bool
  deriving DecidableEq, Repr

/-- The password is empty or long enough, and `wifi_start` succeeds. -/
def WifiConfig.succeeds (c : WifiConfig) : Bool :=
  !(0 < c.pass.length && c.pass.length < 8) && c.wifiStarts

def wifiConfigure (c : WifiConfig) (s : State) : State :=
  if 0 < c.pass.length ∧ c.pass.length < 8 then
    { s with connectivity := notConnected }
  else if c.wifiStarts = false then
    { s with connectivity := notConnected }
  else
    udpServerStart c.udpStarts
      (webserverStart c.webmode c.webStarts
        (websocketStart c.serverStarts c.serverConnects
          (setSendFunc (some .websocketSend) { s with wsServerCfg := true })))

inductive Call where
  | setConnectivity (newcon : Int32) (bleStarts : Bool)
  | wifiConfigure (c : WifiConfig)
  deriving DecidableEq, Repr

def callStep (c : Call) (s : State) : Option State :=
  if s.pc = .idle then
    match c with
    | .setConnectivity newcon bleStarts =>
        some (setConnectivity newcon bleStarts s)
    | .wifiConfigure config => some (wifiConfigure config s)
  else
    none

def pollStep (s : State) : Option State :=
  match s.pc with
  | .idle => none
  | .stopping newcon bleStarts =>
      if s.running ≠ 2 then
        some s
      else
        some (enterConnectivity newcon bleStarts (wifiConnectivityStop s))

def serverStep (i : Nat) (e : ServerEvent) (s : State) : Option State :=
  match s.servers[i]? with
  | none => none
  | some pc =>
      match serverMove s.running pc e with
      | none => none
      | some (pc, running) =>
          some { s with servers := s.servers.set i pc, running := running }

inductive Action where
  | call (c : Call)
  | poll
  | server (i : Nat) (e : ServerEvent)
  deriving DecidableEq, Repr

def step : Action -> State -> Option State
  | .call c => callStep c
  | .poll => pollStep
  | .server i e => serverStep i e

end Connectivity
end Fluxnode
