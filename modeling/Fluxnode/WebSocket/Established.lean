import Fluxnode.WebSocket.Lifecycle

/-!
# Frames and the connection they go to

`websocket_conn` holds a connection from the return of `netconn_accept` on until
after it is deleted, and the script's task tests it for `NULL` only.
-/

namespace Fluxnode
namespace WebSocket

open C
open Foundation

def Established (s : Shared) (c : Conn) : Prop :=
  c ∈ s.greeted ∧ c ∉ s.deleted

/-- What the call is about to do goes to an established connection: a write of
`websocket_send`, or a read of `websocket_is_connected` that makes it return 1. -/
def OnEstablished (s : Shared) : Call -> Option Op -> Prop
  | .send _, some (.write _ conn _) => exists c, conn = some c ∧ Established s c
  | .isConnected, some .getConn => forall c, s.conn = some c -> Established s c
  | _, _ => True

def SendsEstablished : Action -> System -> Prop
  | .app, s => forall r, s.app = some r ->
      OnEstablished s.shared r.call r.rest.next?
  | _, _ => True

/-- What the call is about to do falls between the end of the handshake and the
call of `netconn_delete`, and a write is to the connection that is served. -/
def whileServing (label : Label) (conn : NetconnPtr) : Call -> Option Op -> Bool
  | .send _, some (.write _ conn' _) => label.Serves && conn' == conn
  | .isConnected, some .getConn => conn == none || label.Serves
  | _, _ => true

def sendsWhileServing : Action -> System -> Bool
  | .app, s => s.app.all (fun r =>
      whileServing s.server.label s.shared.conn r.call r.rest.next?)
  | _, _ => true

theorem Within.established_iff {label : Label} {o : Op} {s : Shared} {c : Conn}
    (h : Within label o s) :
    Established s c ↔ label.Serves = true ∧ s.conn = some c := by
  unfold Within at h
  split at h
  · rename_i hserves
    rcases h with ⟨_, hnodup, d, hconn, hgreeted⟩
    have hlast : d ∉ s.deleted := by
      rw [hgreeted, List.nodup_append] at hnodup
      intro hmem
      exact hnodup.2.2 d hmem d (.head _) rfl
    rw [hconn, Option.some.injEq]
    constructor
    · intro hestablished
      rcases hestablished with ⟨hmem, hnot⟩
      rw [hgreeted, List.mem_append, List.mem_singleton] at hmem
      exact ⟨hserves, (hmem.resolve_left hnot).symm⟩
    · intro hserved
      rcases hserved with ⟨_, rfl⟩
      refine ⟨?_, hlast⟩
      rw [hgreeted]
      simp
  · rename_i hnot
    constructor
    · intro hestablished
      exact absurd (h.deleted ▸ hestablished.1) hestablished.2
    · intro hserved
      exact absurd hserved.1 hnot

theorem onEstablished_iff {label : Label} {o : Op} {s : Shared}
    (h : Within label o s) (call : Call) (next : Option Op) :
    OnEstablished s call next ↔ whileServing label s.conn call next = true := by
  unfold OnEstablished whileServing
  split
  · rename_i conn bytes
    simp only [h.established_iff, Bool.and_eq_true, beq_iff_eq]
    constructor
    · intro hwrite
      rcases hwrite with ⟨c, hconn, hserves, hshared⟩
      exact ⟨hserves, hconn.trans hshared.symm⟩
    · intro hwrite
      rcases hwrite with ⟨hserves, rfl⟩
      rw [Within, if_pos hserves] at h
      rcases h.2.2 with ⟨c, hconn, _⟩
      exact ⟨c, hconn, hserves, hconn⟩
  · simp only [h.established_iff, Bool.or_eq_true, beq_iff_eq]
    cases hconn : s.conn with
    | none => simp
    | some c => simp
  · simp

theorem sendsEstablished_iff (action : Action) (s : System) (h : Orderly s) :
    SendsEstablished action s ↔ sendsWhileServing action s = true := by
  cases action with
  | app =>
      rcases h.within with ⟨o, hwithin⟩
      simp only [SendsEstablished, sendsWhileServing, Option.all_eq_true,
        onEstablished_iff hwithin]
  | _ => simp [SendsEstablished, sendsWhileServing]

/--
In every run of both tasks, the frames of `websocket_send` go to established
connections, and `websocket_is_connected` returns 1 only for one, exactly when
the writes and the positive answers fall between the end of the handshake and
the call of `netconn_delete`, and each write is to the connection that is served
at that time.
-/
theorem sends_established {digests : Digests} {s : System}
    (hstarted : Started digests s) (actions : List Action) :
    EveryStep (System.step digests) SendsEstablished actions s ↔
      EveryStep (System.step digests) (fun action s =>
        sendsWhileServing action s = true) actions s :=
  EveryStep.congr_of_invariant (fun _ _ _ h hstep => h.step hstep)
    sendsEstablished_iff hstarted.orderly

/-!
## A client that has not been greeted
-/

def keyDigests : Digests where
  sha1 := fun _ =>
    [0xb3, 0x7a, 0x4f, 0x2c, 0xc0, 0x62, 0x4f, 0x16, 0x90, 0xf6,
      0x46, 0x06, 0xcf, 0x38, 0x59, 0x45, 0xb2, 0xbe, 0xc4, 0xea]
  base64 := fun _ => ascii "s3pPLMBiTxaQ9kYGzzhZRbK+xOo="

def keyRequest : List UInt8 :=
  ascii "GET / HTTP/1.1\r\nSec-WebSocket-Key: dGhlIHNhbXBsZSBub25jZQ==\r\n\r\n"

def startSystem : System where
  shared :=
    { conn := none
      running := 1
      clientIpAddress := []
      reply :=
        { err := errOk
          buf := keyRequest
          ip := ascii "10.0.0.2"
          allocates := fun _ => true
          clears := true }
      accepted := 0
      greeted := []
      closed := []
      deleted := [] }
  server := .enter (websocketServerTask keyDigests) .starting
  app := none

theorem started_startSystem : Started keyDigests startSystem := by
  constructor <;> rfl

def sendCall : List Action :=
  .call (.send (ascii "hi")) :: List.replicate 6 .app

def sendToServed : List Action :=
  List.replicate 17 .server ++ sendCall

theorem sends_established_served :
    EveryStep (System.step keyDigests) SendsEstablished sendToServed
      startSystem :=
  (sends_established started_startSystem sendToServed).mpr (by decide)

def sendToAccepted : List Action :=
  List.replicate 4 .server ++ sendCall

theorem sends_before_handshake :
    ¬ forall actions, EveryStep (System.step keyDigests) SendsEstablished actions
      startSystem := by
  intro hall
  have hserving := (EveryStep.congr_of_invariant
    (fun _ _ _ h hstep => Orderly.step h hstep) sendsEstablished_iff
    started_startSystem.orderly).mp (hall sendToAccepted)
  exact absurd hserving (by decide)

end WebSocket
end Fluxnode
