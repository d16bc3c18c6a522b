import Fluxnode.DukMain.Event

/-!
# The UDP service

The task of `udp_service.c` with the callback that `platform.c` gives it, and
`udp_server_stop`, which other tasks call.  The result of `recv` is passed on as
a `size_t`.
-/

namespace Fluxnode
namespace Udp

open C
open DukMain (EventArgs)

def recvBufferSize : Nat := 2048

structure RecvBuffer where
  bytes : List UInt8
  length_eq : bytes.length = recvBufferSize
  deriving DecidableEq, Repr

/-- What `recv` comes to.  A longer datagram is cut. -/
inductive RecvResult where
  | datagram (bytes : List UInt8) (length_le : bytes.length ≤ recvBufferSize)
  /-- -1 -/
  | failed
  deriving DecidableEq, Repr

def RecvResult.rb : RecvResult -> SizeT
  | .datagram bytes _ => UInt32.ofNat bytes.length
  | .failed => (-1 : Int32).toUInt32

inductive Phase where
  /-- In front of the test of `running`. -/
  | testing
  | receiving
  | ended
  deriving DecidableEq, Repr

structure UdpServer where
  running : Bool
  /-- `udp_srv_sock` is open. -/
  sockOpen : Bool
  phase : Phase
  buf : RecvBuffer
  /-- The sizes that `queue_udp_cb` has allocated. -/
  allocated : List SizeT
  /-- The calls of `duk_main_add_full_event`. -/
  queued : List EventArgs
  /-- A copy has left the buffer. -/
  leftBuffer : Bool
  deriving DecidableEq, Repr

/-- `udp_server_start`, with the old content of the buffer. -/
def udpServerStart (buf : RecvBuffer) : UdpServer where
  running := true
  sockOpen := true
  phase := .testing
  buf := buf
  allocated := []
  queued := []
  leftBuffer := false

def packetEvent (first : UInt8) (data : List UInt8) (len : SizeT) (ts : Int) :
    EventArgs where
  msgType := (first - 65).toUInt32
  direction := .incoming
  payload := some data
  len := len
  rssi := 0
  snr := 0
  ts := ts

/-- `queue_udp_cb`; `ts` is `time(NULL)`. -/
def queueUdpCb (s : UdpServer) (len : SizeT) (ts : Int) : UdpServer :=
  if len < 2 then
    s
  else
    let s := { s with allocated := s.allocated ++ [len - 1] }
    match memcpy (malloc (len - 1)) 0 s.buf.bytes 1 (len - 1).toNat with
    | none => { s with phase := .ended, leftBuffer := true }
    | some data =>
        { s with
          queued := s.queued ++
            [packetEvent (s.buf.bytes.headD 0) (data.filterMap id) (len - 1)
              ts] }

def RecvResult.store (r : RecvResult) (buf : RecvBuffer) : RecvBuffer :=
  match r with
  | .datagram bytes length_le =>
      { bytes := bytes ++ buf.bytes.drop bytes.length
        length_eq := by
          rw [List.length_append, List.length_drop, buf.length_eq]
          lia }
  | .failed => buf

inductive Action where
  /-- The head of the loop in `udp_server_task`. -/
  | test
  /-- `recv` returns, and the callback is called. -/
  | receive (r : RecvResult) (ts : Int)
  /-- `udp_server_stop` up to its call of `close`. -/
  | stop
  | close
  deriving DecidableEq, Repr

def step : Action -> UdpServer -> Option UdpServer
  | .test, s =>
      if s.phase = .testing then
        some { s with phase := if s.running then .receiving else .ended }
      else
        none
  | .receive r ts, s =>
      if s.phase = .receiving ∧ (s.sockOpen = true ∨ r = .failed) then
        some (queueUdpCb { s with phase := .testing, buf := r.store s.buf }
          r.rb ts)
      else
        none
  | .stop, s => some { s with running := false }
  | .close, s => if s.running then none else some { s with sockOpen := false }

end Udp
end Fluxnode
