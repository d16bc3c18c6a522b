import Fluxnode.C.File
import Fluxnode.C.Memory
import Fluxnode.Foundation.Pieces
import Fluxnode.WebSocket.Model

/-!
# The server task and its connection

`websocket_server_task` with the functions that it hands the connection to, and
`websocket_send` and `websocket_is_connected` of the script's task, operation by
operation.  `websocket_conn` is a variable of both tasks.  What the network and
the heap answer next is part of the state.  The buffers of the network stack,
and calls whose result is not used, are left out.
-/

namespace Fluxnode
namespace WebSocket

open C
open Foundation

/-- A connection, by the number of connections that were accepted before. -/
abbrev Conn := Nat

abbrev NetconnPtr := Option Conn

def errOk : Int := 0
def errMem : Int := -1
def errTimeout : Int := -3
def errConn : Int := -11

inductive Writer where
  | server
  | javascript
  deriving DecidableEq, Repr

inductive Op where
  | netconnNew
  /-- `netconn_accept`, before it waits. -/
  | acceptEntry
  /-- `netconn_accept`, when it returns. -/
  | accept
  | getRunning
  | setRunning (running : Int)
  | getConn
  | setConn (conn : NetconnPtr)
  | getaddr (conn : NetconnPtr)
  | setClientIpAddress (text : List UInt8)
  | recv (conn : NetconnPtr)
  | netbufData
  /-- For which sizes the next calls of `malloc` succeed. -/
  | heap
  | write (writer : Writer) (conn : NetconnPtr) (bytes : Block)
  | close (conn : NetconnPtr)
  | delete (conn : NetconnPtr)
  | callback (frame : WebsocketFrame)
  | conninfoNotify (status : Int)
  /-- `vTaskDelete(NULL)` -/
  | deleteTask
  /-- An access without a meaning. -/
  | fault
  deriving DecidableEq, Repr

abbrev Op.Answer : Op -> Type
  | .netconnNew => Bool
  | .accept => Int
  | .getRunning => Int
  | .getConn => NetconnPtr
  | .getaddr _ => List UInt8
  | .recv _ => Int
  | .netbufData => Int × List UInt8
  | .heap => Nat -> Bool
  | .write _ _ _ => Int
  | .callback _ => Int
  | .deleteTask => Empty
  | .fault => Empty
  | _ => Unit

abbrev Prog := Program Op.Answer

def access (o : Op) : Prog o.Answer := Program.op o

def fault {α : Type} : Prog α :=
  .perform .fault Empty.elim

/-- The result of a computation that may have no meaning. -/
def orFault {α : Type} : Option α -> Prog α
  | none => fault
  | some a => .done a

/-!
## The handshake
-/

def websocketSecKey : List UInt8 := ascii "Sec-WebSocket-Key:"

def websocketSecConKey : List UInt8 :=
  ascii "258EAFA5-E914-47DA-95CA-C5AB0DC85B11"

def serverHeaderFront : List UInt8 :=
  ascii "HTTP/1.1 101 Switching Protocols \r\nUpgrade: websocket\r\nConnection: Upgrade\r\nSec-WebSocket-Accept: "

def serverHeaderBack : List UInt8 := ascii "\r\n\r\n"

def sizeofServerHeader : Nat :=
  serverHeaderFront.length + 4 + serverHeaderBack.length + 1

def keyDigestSizeMax : Nat := 24
def sha1DigestLen : Nat := 20
def base64DigestLen : Nat := 42

/-- `strstr`: the position of the first occurrence in the C string at the start
of the buffer, if there is one.  A buffer without it and without a terminator
has no result. -/
def strstr (needle : List UInt8) : List UInt8 -> Option (Option Nat)
  | [] => none
  | c :: rest =>
      if needle.isPrefixOf (c :: rest) then
        some (some 0)
      else if c = 0 then
        some none
      else
        (strstr needle rest).map (fun found => found.map (· + 1))

/-- The loop over the key, with at most `n` bytes to go. -/
def copyKey : Nat -> List UInt8 -> Option (List UInt8)
  | 0, _ => some []
  | _ + 1, [] => none
  | n + 1, c :: rest =>
      if c = 13 ∨ c = 10 then
        some []
      else
        (copyKey n rest).map (c :: ·)

/-- `esp_sha` for SHA-1, and `mbedtls_base64_encode`. -/
structure Digests where
  sha1 : List UInt8 -> List UInt8
  base64 : List UInt8 -> List UInt8

/-- `base64digest` for the key of a client.  `strlen` ends at a terminator in
the key. -/
def base64Digest (digests : Digests) (key : List UInt8) : List UInt8 :=
  let handshake := (key ++ websocketSecConKey).takeWhile (· ≠ 0)
  digests.base64 (digests.sha1 handshake)

/-- `websocket_handshake` from its last `malloc` on. -/
def writeResponse (conn : NetconnPtr) (base64digest : List UInt8) :
    Prog Int := do
  let allocates ← access .heap
  if allocates (sizeofServerHeader + base64digest.length + 1) then
    access (.write .server conn
      ((serverHeaderFront ++ base64digest ++ serverHeaderBack).map some))
  else
    return errMem

/-- `websocket_handshake` behind the search for the key. -/
def answerKey (digests : Digests) (conn : NetconnPtr) (buf : List UInt8)
    (seckey : Nat) : Prog Int := do
  let allocates ← access .heap
  if allocates (websocketSecConKey.length + 1 + keyDigestSizeMax) then do
    let key ← orFault (copyKey keyDigestSizeMax
      (buf.drop (seckey + (websocketSecKey.length + 1))))
    let allocates ← access .heap
    -- the results of these two calls of `malloc` are not tested
    if allocates (sha1DigestLen + 1) ∧ allocates base64DigestLen then
      writeResponse conn (base64Digest digests key)
    else
      fault
  else
    return errMem

def websocketHandshake (digests : Digests) (conn : NetconnPtr) : Prog Int := do
  let err ← access (.recv conn)
  if err ≠ errOk then
    return err
  else do
    let (err, buf) ← access .netbufData
    if err ≠ errOk then
      return err
    else do
      let seckey ← orFault (strstr websocketSecKey buf)
      match seckey with
      | none => return errConn
      | some seckey => answerKey digests conn buf seckey

/-!
## The server task

The task goes from label to label.
-/

inductive Label where
  | starting
  | accepting
  /-- The handshake has succeeded. -/
  | connected
  /-- A round of the loop of `websocket_serve`. -/
  | serving (conn : NetconnPtr)
  /-- `websocket_serve` behind its loop. -/
  | leaving (conn : NetconnPtr)
  /-- `websocket_serve` has returned. -/
  | left
  /-- The task has left its loop. -/
  | stopping
  | stopped
  deriving DecidableEq, Repr

def startServer : Prog Label := do
  access (.setConn none)
  let created ← access .netconnNew
  return if created then .accepting else .stopped

/-- The round of the loop behind its first test. -/
def acceptedRound (digests : Digests) : Prog Label := do
  let running ← access .getRunning
  if running = 0 then
    return .stopping
  else do
    let conn ← access .getConn
    let ip ← access (.getaddr conn)
    access (.setClientIpAddress ip)
    let conn ← access .getConn
    let res ← websocketHandshake digests conn
    return if res ≠ 0 then .accepting else .connected

def acceptRound (digests : Digests) : Prog Label := do
  access .acceptEntry
  let accepted ← access .accept
  if accepted ≠ errOk then do
    let running ← access .getRunning
    if running ≠ 0 then
      return .accepting
    else
      acceptedRound digests
  else
    acceptedRound digests

def callServe : Prog Label := do
  access (.conninfoNotify 1)
  let conn ← access .getConn
  return .serving conn

/-- What `websocket_serve` does with the data of a frame. -/
def serveFrame (conn : NetconnPtr) : Prog Label := do
  let (err, buf) ← access .netbufData
  if err ≠ errOk then
    return .leaving conn
  else do
    let allocates ← access .heap
    let served ← orFault (serveData allocates buf)
    match served with
    | .leaves => return .leaving conn
    | .calls frame => do
        let status ← access (.callback frame)
        return if status ≠ errOk then .leaving conn else .serving conn

def serveRound (conn : NetconnPtr) : Prog Label := do
  let res ← access (.recv conn)
  if res = errTimeout then do
    let running ← access .getRunning
    return if running ≠ 0 then .serving conn else .leaving conn
  else if res ≠ errOk then
    return .leaving conn
  else do
    let running ← access .getRunning
    if running = 0 then
      return .leaving conn
    else
      serveFrame conn

def leaveServe (conn : NetconnPtr) : Prog Label := do
  access (.close conn)
  access (.delete conn)
  return .left

def endRound : Prog Label := do
  access (.conninfoNotify 0)
  access (.setClientIpAddress [])
  access (.setConn none)
  return .accepting

def stopServer : Prog Label := do
  access (.setRunning 2)
  access (.setClientIpAddress [])
  return .stopped

/-- `websocket_server_task` from a label to the next one. -/
def websocketServerTask (digests : Digests) : Label -> Prog Label
  | .starting => startServer
  | .accepting => acceptRound digests
  | .connected => callServe
  | .serving conn => serveRound conn
  | .leaving conn => leaveServe conn
  | .left => endRound
  | .stopping => stopServer
  | .stopped => .perform .deleteTask Empty.elim

/-!
## The task of the script
-/

/-- The header in `buf`.  Its bytes for a long payload are written through the
struct with the 16-bit length, so the last two are not. -/
def frameHeader (length : SizeT) : Block :=
  if length > 0xffff then
    [some 0x81, some 127, some (length >>> 24).toUInt8,
      some (length >>> 16).toUInt8, none, none]
  else if length > 125 then
    [some 0x81, some 126, some (length >>> 8).toUInt8, some length.toUInt8]
  else
    [some 0x81, some length.toUInt8]

def websocketSend (data : List UInt8) : Prog Int := do
  let conn ← access .getConn
  if conn = none then
    return errConn
  else do
    let conn ← access .getConn
    let res ← access (.write .javascript conn
      (frameHeader (UInt32.ofNat data.length)))
    if res ≠ errOk then
      return res
    else do
      let conn ← access .getConn
      access (.write .javascript conn (data.map some))

def websocketIsConnected : Prog Int := do
  let conn ← access .getConn
  return if conn = none then 0 else 1

inductive Call where
  | isConnected
  | send (data : List UInt8)
  deriving DecidableEq, Repr

def Call.program : Call -> Prog Int
  | .isConnected => websocketIsConnected
  | .send data => websocketSend data

end WebSocket
end Fluxnode
