import Mathlib.Data.List.Basic
import Mathlib.Tactic.Common
import Mathlib.Algebra.Group.Nat.Defs

/-!
# Websocket server

`websocket_serve` takes what each `netconn_recv` returns for one frame.  The
length of the buffer is not looked at: a read behind its end has no result.  The
callback is `queue_cb`, which takes every frame and returns 0, and the server is
not stopped in the meantime.
-/

namespace Fluxnode
namespace WebSocket

def wsOpText : Nat := 0x1

def wsOpClose : Nat := 0x8

/-- `websocket_frame_t`, without the terminator of the payload. -/
structure WebsocketFrame where
  payloadLength : Nat
  payload : List UInt8
  deriving DecidableEq, Repr

inductive Recv where
  | data (buf : List UInt8)
  | timeout
  | failed
  deriving DecidableEq, Repr

/-- The loop over a masked payload, from index `i` on, with `n` bytes to go. -/
def unmask (buf : List UInt8) (mask : Nat) : Nat -> Nat -> Option (List UInt8)
  | 0, _ => some []
  | n + 1, i => do
      let c ← buf[mask + 4 + i]?
      let m ← buf[mask + i % 4]?
      let rest ← unmask buf mask n (i + 1)
      pure ((c ^^^ m) :: rest)

def copyPayload (buf : List UInt8) (mask n : Nat) : Option (List UInt8) :=
  if mask + n ≤ buf.length then
    some ((buf.drop mask).take n)
  else
    none

/-- `ntohs` of the two bytes at offset 2. -/
def readLen16 (buf : List UInt8) : Option Nat := do
  let b₂ ← buf[2]?
  let b₃ ← buf[3]?
  pure (b₂.toNat * 256 + b₃.toNat)

/-- `ntohl` of the four bytes at offset 2. -/
def readLen32 (buf : List UInt8) : Option Nat := do
  let b₂ ← buf[2]?
  let b₃ ← buf[3]?
  let b₄ ← buf[4]?
  let b₅ ← buf[5]?
  pure (((b₂.toNat * 256 + b₃.toNat) * 256 + b₄.toNat) * 256 + b₅.toNat)

/-- `payload_len`, and the offset of `mask`. -/
def payloadLen (buf : List UInt8) (b₁ : UInt8) : Option (Nat × Nat) :=
  if b₁.toNat % 128 = 127 then
    (readLen32 buf).map (fun n => (n, 6))
  else if b₁.toNat % 128 = 126 then
    (readLen16 buf).map (fun n => (n, 4))
  else
    some (b₁.toNat % 128, 2)

def readPayload (buf : List UInt8) (b₁ : UInt8) (mask n : Nat) :
    Option (List UInt8) :=
  if b₁.toNat / 128 = 1 then
    unmask buf mask n 0
  else
    copyPayload buf mask n

inductive Served where
  | leaves
  | calls (frame : WebsocketFrame)
  deriving DecidableEq, Repr

/-- One round of `websocket_serve` with data.  `allocates` tells for which sizes
`malloc` succeeds. -/
def serveData (allocates : Nat -> Bool) (buf : List UInt8) : Option Served := do
  let b₀ ← buf[0]?
  if b₀.toNat % 16 = wsOpClose then
    pure .leaves
  else
    let b₁ ← buf[1]?
    let (n, mask) ← payloadLen buf b₁
    if allocates ((n + 1) % 2 ^ 32) then
      let payload ← readPayload buf b₁ mask n
      if b₀.toNat % 16 = wsOpText then
        pure (.calls { payloadLength := n, payload := payload })
      else
        pure .leaves
    else
      pure .leaves

/-- `websocket_serve`: the frames of the calls of the callback.  After the last
result the connection is closed. -/
def websocketServe (allocates : Nat -> Bool) :
    List Recv -> Option (List WebsocketFrame)
  | [] => some []
  | .timeout :: rest => websocketServe allocates rest
  | .failed :: _ => some []
  | .data buf :: rest =>
      match serveData allocates buf with
      | none => none
      | some .leaves => some []
      | some (.calls frame) =>
          (websocketServe allocates rest).map (frame :: ·)

/-!
## What a round needs
-/

theorem unmask_length {buf : List UInt8} {mask n i : Nat}
    {payload : List UInt8} (h : unmask buf mask n i = some payload) :
    payload.length = n := by
  induction n generalizing i payload with
  | zero =>
      cases h
      rfl
  | succ n ih =>
      simp only [unmask, Option.bind_eq_bind, Option.pure_def,
        Option.bind_eq_some_iff, Option.some.injEq] at h
      rcases h with ⟨c, _, m, _, rest, hrest, hpayload⟩
      rw [← hpayload, List.length_cons, ih hrest]

theorem unmask_fits {buf : List UInt8} {mask n i : Nat}
    {payload : List UInt8} (h : unmask buf mask n i = some payload)
    (hpos : 0 < n) : mask + 4 + i + n ≤ buf.length := by
  induction n generalizing i payload with
  | zero => exact absurd hpos (Nat.lt_irrefl 0)
  | succ n ih =>
      simp only [unmask, Option.bind_eq_bind, Option.pure_def,
        Option.bind_eq_some_iff, Option.some.injEq] at h
      rcases h with ⟨c, hc, m, _, rest, hrest, _⟩
      rcases List.getElem?_eq_some_iff.mp hc with ⟨hlt, _⟩
      cases n with
      | zero => lia
      | succ n =>
          have hfits := ih hrest (Nat.succ_pos n)
          lia

theorem copyPayload_length {buf : List UInt8} {mask n : Nat}
    {payload : List UInt8} (h : copyPayload buf mask n = some payload) :
    payload.length = n := by
  unfold copyPayload at h
  split at h
  · rename_i hfits
    cases h
    rw [List.length_take, List.length_drop]
    lia
  · cases h

structure Called (buf : List UInt8) (frame : WebsocketFrame)
    (b₀ b₁ : UInt8) (mask : Nat) : Prop where
  first : buf[0]? = some b₀
  second : buf[1]? = some b₁
  text : b₀.toNat % 16 = wsOpText
  len : payloadLen buf b₁ = some (frame.payloadLength, mask)
  payload : readPayload buf b₁ mask frame.payloadLength = some frame.payload

theorem serveData_calls {allocates : Nat -> Bool} {buf : List UInt8}
    {frame : WebsocketFrame}
    (h : serveData allocates buf = some (.calls frame)) :
    exists b₀ b₁ mask, Called buf frame b₀ b₁ mask := by
  simp only [serveData, Option.bind_eq_bind, Option.bind_eq_some_iff] at h
  rcases h with ⟨b₀, hfirst, h⟩
  split at h
  · cases h
  · simp only [Option.bind_eq_some_iff] at h
    rcases h with ⟨b₁, hsecond, ⟨n, mask⟩, hlen, h⟩
    split at h
    · simp only [Option.bind_eq_some_iff] at h
      rcases h with ⟨payload, hpayload, h⟩
      split at h
      · rename_i htext
        cases h
        exact ⟨b₀, b₁, mask, hfirst, hsecond, htext, hlen, hpayload⟩
      · cases h
    · cases h

theorem Called.serveData {buf : List UInt8} {frame : WebsocketFrame}
    {b₀ b₁ : UInt8} {mask : Nat} (h : Called buf frame b₀ b₁ mask)
    (allocates : Nat -> Bool) :
    serveData allocates buf =
      some (if allocates ((frame.payloadLength + 1) % 2 ^ 32) then
        .calls frame else .leaves) := by
  have hclose : ¬ wsOpText = wsOpClose := by decide
  simp only [WebSocket.serveData, Option.bind_eq_bind, h.first, h.second,
    h.len, h.payload, h.text, Option.bind_some, if_neg hclose, if_true]
  split <;> rfl

theorem Called.payload_length {buf : List UInt8} {frame : WebsocketFrame}
    {b₀ b₁ : UInt8} {mask : Nat} (h : Called buf frame b₀ b₁ mask) :
    frame.payload.length = frame.payloadLength := by
  have hpayload := h.payload
  unfold readPayload at hpayload
  split at hpayload
  · exact unmask_length hpayload
  · exact copyPayload_length hpayload

theorem Called.two_le_length {buf : List UInt8} {frame : WebsocketFrame}
    {b₀ b₁ : UInt8} {mask : Nat} (h : Called buf frame b₀ b₁ mask) :
    2 ≤ buf.length := by
  rcases List.getElem?_eq_some_iff.mp h.second with ⟨hlt, _⟩
  exact hlt

theorem payloadLen_mask {buf : List UInt8} {b₁ : UInt8} {n mask : Nat}
    (h : payloadLen buf b₁ = some (n, mask)) :
    mask = if b₁.toNat % 128 = 127 then 6
      else if b₁.toNat % 128 = 126 then 4
      else 2 := by
  unfold payloadLen at h
  split at h
  · rename_i hlong
    rw [Option.map_eq_some_iff] at h
    rcases h with ⟨_, _, hpair⟩
    cases hpair
    rw [if_pos hlong]
  · rename_i hnot
    split at h
    · rename_i hmiddle
      rw [Option.map_eq_some_iff] at h
      rcases h with ⟨_, _, hpair⟩
      cases hpair
      rw [if_neg hnot, if_pos hmiddle]
    · rename_i hshort
      cases h
      rw [if_neg hnot, if_neg hshort]

/-!
## Runs
-/

def Recv.data? : Recv -> Option (List UInt8)
  | .data buf => some buf
  | .timeout => none
  | .failed => none

theorem websocketServe_data {allocates : Nat -> Bool} {recvs : List Recv}
    (hrecvs : Recv.failed ∉ recvs) :
    websocketServe allocates recvs =
      websocketServe allocates
        ((recvs.filterMap Recv.data?).map .data) := by
  induction recvs with
  | nil => rfl
  | cons recv rest ih =>
      rw [List.mem_cons, not_or] at hrecvs
      have hrest := ih hrecvs.2
      cases recv with
      | data buf =>
          rw [List.filterMap_cons_some (rfl : Recv.data? (.data buf) = some buf),
            List.map_cons, websocketServe, websocketServe, hrest]
      | timeout =>
          rw [List.filterMap_cons_none (rfl : Recv.data? .timeout = none),
            websocketServe]
          exact hrest
      | failed => exact absurd rfl hrecvs.1

theorem websocketServe_calls {allocates : Nat -> Bool} {buf : List UInt8}
    {rest : List Recv} {frame : WebsocketFrame}
    (hserve : serveData allocates buf = some (.calls frame)) :
    websocketServe allocates (.data buf :: rest) =
      (websocketServe allocates rest).map (frame :: ·) := by
  rw [websocketServe, hserve]

theorem websocketServe_cons {allocates : Nat -> Bool} {buf : List UInt8}
    {rest : List Recv} {frame : WebsocketFrame} {out : List WebsocketFrame}
    (h : websocketServe allocates (.data buf :: rest) = some (frame :: out)) :
    serveData allocates buf = some (.calls frame) ∧
      websocketServe allocates rest = some out := by
  rw [websocketServe] at h
  split at h
  · cases h
  · cases h
  · rename_i frame' hcalls
    rw [Option.map_eq_some_iff] at h
    rcases h with ⟨out', hrest, hcons⟩
    cases hcons
    exact ⟨hcalls, hrest⟩

end WebSocket
end Fluxnode
