import Fluxnode.Foundation.Run
import Fluxnode.WebSocket.Server

/-!
# Both tasks at once

The server and the task of the script take their operations in any order, and
`websocket_stop` may be called in between.  A connection that `netconn_accept`
returns is greeted when the response of the handshake is written without an
error, and is then closed and deleted by `websocket_serve`.
-/

namespace Fluxnode
namespace WebSocket

open C
open Foundation

/-!
## The state
-/

structure Reply where
  /-- The error, or the result of the callback. -/
  err : Int
  /-- The bytes from the start of the received data on. -/
  buf : List UInt8
  /-- The address of the client. -/
  ip : List UInt8
  allocates : Nat -> Bool
  /-- `netconn_accept` sets the pointer to `NULL` before it waits. -/
  clears : Bool

structure Shared where
  /-- `websocket_conn` -/
  conn : NetconnPtr
  /-- `websocket_server_running` -/
  running : Int
  clientIpAddress : List UInt8
  reply : Reply
  /-- The number of connections that were returned with `ERR_OK`. -/
  accepted : Nat
  /-- The connections to which the server wrote with `ERR_OK`, in order. -/
  greeted : List Conn
  /-- The calls of `netconn_close`, in order. -/
  closed : List Conn
  /-- The calls of `netconn_delete`, in order. -/
  deleted : List Conn

/-- `netconn_accept` returns a connection that was not returned before. -/
def Shared.acceptConn (s : Shared) : Shared :=
  { s with conn := some s.accepted, accepted := s.accepted + 1 }

def exec : (o : Op) -> Shared -> Option (Shared × o.Answer)
  | .netconnNew, s => some (s, s.reply.err == errOk)
  | .acceptEntry, s =>
      some (if s.reply.clears then { s with conn := none } else s, ())
  | .accept, s =>
      if s.reply.err = errOk then
        some (s.acceptConn, errOk)
      else
        some (s, s.reply.err)
  | .getRunning, s => some (s, s.running)
  | .setRunning running, s => some ({ s with running := running }, ())
  | .getConn, s => some (s, s.conn)
  | .setConn conn, s => some ({ s with conn := conn }, ())
  | .getaddr _, s => some (s, s.reply.ip)
  | .setClientIpAddress text, s =>
      some ({ s with clientIpAddress := text }, ())
  | .recv _, s => some (s, s.reply.err)
  | .netbufData, s => some (s, (s.reply.err, s.reply.buf))
  | .heap, s => some (s, s.reply.allocates)
  | .write .server conn _, s =>
      if s.reply.err = errOk then
        some ({ s with greeted := s.greeted ++ conn.toList }, errOk)
      else
        some (s, s.reply.err)
  | .write .javascript _ _, s => some (s, s.reply.err)
  | .close conn, s => some ({ s with closed := s.closed ++ conn.toList }, ())
  | .delete conn, s => some ({ s with deleted := s.deleted ++ conn.toList }, ())
  | .callback _, s => some (s, s.reply.err)
  | .conninfoNotify _, s => some (s, ())
  | .deleteTask, _ => none
  | .fault, _ => none

structure Running where
  call : Call
  rest : Prog Int

structure System where
  shared : Shared
  server : Position Op.Answer Label
  app : Option Running

inductive Action where
  /-- The next operation of the server. -/
  | server
  | call (call : Call)
  /-- The next operation of the call, or its return. -/
  | app
  /-- Another task calls `websocket_stop`. -/
  | stop
  | reply (reply : Reply)

def System.step (digests : Digests) : Action -> System -> Option System
  | .server, s =>
      (s.server.step (websocketServerTask digests) exec s.shared).map
        (fun r => { s with server := r.1, shared := r.2 })
  | .call call, s =>
      match s.app with
      | none => some { s with app := some ⟨call, call.program⟩ }
      | some _ => none
  | .app, s =>
      match s.app with
      | none => none
      | some ⟨_, .done _⟩ => some { s with app := none }
      | some ⟨call, .perform o next⟩ =>
          match exec o s.shared with
          | none => none
          | some (shared, b) =>
              some { s with shared := shared, app := some ⟨call, next b⟩ }
  | .stop, s => some { s with shared := { s.shared with running := 0 } }
  | .reply reply, s => some { s with shared := { s.shared with reply := reply } }

structure Started (digests : Digests) (s : System) : Prop where
  server : s.server = .enter (websocketServerTask digests) .starting
  app : s.app = none
  accepted : s.shared.accepted = 0
  greeted : s.shared.greeted = []
  closed : s.shared.closed = []
  deleted : s.shared.deleted = []

/-!
## What an operation leaves alone
-/

def ScriptOp : Op -> Prop
  | .getConn => True
  | .write .javascript _ _ => True
  | _ => False

theorem exec_scriptOp {o : Op} {s s' : Shared} {b : o.Answer}
    (ho : ScriptOp o) (h : exec o s = some (s', b)) : s' = s := by
  cases o with
  | getConn =>
      cases h
      rfl
  | write writer conn bytes =>
      cases writer with
      | server => exact ho.elim
      | javascript =>
          cases h
          rfl
  | _ => exact ho.elim

theorem all_access {ok : Op -> Prop} {o : Op} (ho : ok o) :
    (access o).All ok :=
  ⟨ho, fun _ => trivial⟩

theorem Call.scriptOps (call : Call) : call.program.All ScriptOp := by
  cases call with
  | isConnected =>
      apply Program.All.bind (all_access trivial)
      intro conn
      trivial
  | send data =>
      apply Program.All.bind (all_access trivial)
      intro conn
      split
      · trivial
      · apply Program.All.bind (all_access trivial)
        intro conn
        apply Program.All.bind (all_access trivial)
        intro res
        split
        · trivial
        · apply Program.All.bind (all_access trivial)
          intro conn
          exact all_access trivial

def Op.Reads : Op -> Prop
  | .netconnNew => True
  | .getRunning => True
  | .getConn => True
  | .getaddr _ => True
  | .recv _ => True
  | .netbufData => True
  | .heap => True
  | .callback _ => True
  | .conninfoNotify _ => True
  | _ => False

theorem exec_reads {o : Op} {s s' : Shared} {b : o.Answer} (ho : o.Reads)
    (h : exec o s = some (s', b)) : s' = s := by
  cases o with
  | netconnNew => cases h; rfl
  | getRunning => cases h; rfl
  | getConn => cases h; rfl
  | getaddr conn => cases h; rfl
  | recv conn => cases h; rfl
  | netbufData => cases h; rfl
  | heap => cases h; rfl
  | callback frame => cases h; rfl
  | conninfoNotify status => cases h; rfl
  | _ => exact ho.elim

end WebSocket
end Fluxnode
