import Fluxnode.WebSocket.Frame
import Fluxnode.WebSocket.Segment

/-!
# A whole frame in one segment

A final text frame with a key or without one, at the start of a segment.  The
server looks at the bytes of the frame and at no others, and the buffer that the
callback is given holds the payload and a terminator.
-/

namespace Fluxnode
namespace WebSocket

open Foundation

abbrev MaskingKey := { key : List UInt8 // key.length = 4 }

def payloadBytes (payload : List UInt8) : Option MaskingKey -> List UInt8
  | none => payload
  | some key => key.val ++ masked key.val payload

/-- The shortest encoding of a final text frame. -/
def encodeText (key : Option MaskingKey) (payload : List UInt8) : List UInt8 :=
  headerBytes key.isSome payload.length ++ payloadBytes payload key

/-- The encoding is one, by the decoder of headers. -/
theorem decodeHeader_encodeText (key : Option MaskingKey)
    {payload : List UInt8} (hpayload : payload.length < 65536) :
    decodeHeader (encodeText key payload) =
      some (textHeader key.isSome payload.length, payloadBytes payload key) :=
  decodeHeader_headerBytes key.isSome hpayload _

def calledWith (payload : List UInt8) : WebsocketFrame where
  payloadLength := payload.length
  payload := payload

/-- The memory from the start of a segment that starts with these bytes. -/
def StartsWith (memory : Nat -> UInt8) (bytes : List UInt8) : Prop :=
  Reader.Holds memory (bytesOf bytes)

/-- One segment that starts with the frame brings one call, with the payload. -/
structure DecodedExactly (allocates : Nat -> Bool) (key : Option MaskingKey)
    (payload : List UInt8) : Prop where
  inside : forall memory, StartsWith memory (encodeText key payload) ->
    forall i, i ∈ Reader.reads memory (serveSegment allocates) ->
      i < (encodeText key payload).length
  buffer : allocates (payload.length + 1) = true ->
    forall memory, StartsWith memory (encodeText key payload) ->
      Reader.result memory (serveSegment allocates) =
        .calls payload.length (HeapBuffer.terminated payload)
  once : allocates (payload.length + 1) = true -> forall behind more,
    websocketServe allocates
        (.data (encodeText key payload ++ behind) :: more) =
      (websocketServe allocates more).map (calledWith payload :: ·)

theorem copyPayload_append (front bytes : List UInt8) :
    copyPayload (front ++ bytes) front.length bytes.length = some bytes := by
  rw [copyPayload, List.length_append, if_pos (Nat.le_refl _),
    List.drop_left, List.take_length]

theorem called_encodeText (key : Option MaskingKey) {payload : List UInt8}
    (hpayload : payload.length < 65536) :
    exists b₁, Called (encodeText key payload) (calledWith payload) 0x81 b₁
      (headerLength payload.length) := by
  rcases @headerBytes_second key.isSome payload.length
      (payloadBytes payload key) with ⟨b₁, hsecond, hmask, _⟩
  have hfirst := headerBytes_first key.isSome payload.length
    (payloadBytes payload key)
  have hlen := payloadLen_headerBytes hpayload hsecond
  refine ⟨b₁, hfirst, hsecond, rfl, hlen, ?_⟩
  cases key with
  | none =>
      have hnot : ¬ b₁.toNat / 128 = 1 := by
        intro hset
        cases hmask.mp hset
      rw [readPayload, if_neg hnot, ← headerBytes_length false]
      exact copyPayload_append _ payload
  | some key =>
      rw [readPayload, if_pos (hmask.mpr rfl)]
      exact TextFrame.unmask_encode
        { key := key.val, payload := payload
          key_length := key.property, payload_lt := hpayload }

theorem bytesOf_append {buf : List UInt8} (behind : List UInt8) {i : Nat}
    {b : UInt8} (h : bytesOf buf i = some b) :
    bytesOf (buf ++ behind) i = some b := by
  rcases List.getElem?_eq_some_iff.mp h with ⟨hlt, _⟩
  rw [bytesOf, List.getElem?_append_left hlt]
  exact h

theorem terminated_injective {bytes bytes' : List UInt8}
    (h : HeapBuffer.terminated bytes = HeapBuffer.terminated bytes') :
    bytes = bytes' := by
  have hcells := congrArg HeapBuffer.cells h
  rw [HeapBuffer.terminated, HeapBuffer.terminated,
    List.append_left_inj] at hcells
  exact List.map_injective_iff.mpr (Option.some_injective _) hcells

theorem storedPayload_of_calls {allocates : Nat -> Bool} {buf : List UInt8}
    {frame : WebsocketFrame} (hsize : frame.payloadLength + 1 < 2 ^ 32)
    (h : serveData allocates buf = some (.calls frame)) :
    storedPayload frame.payloadLength frame.payload =
      HeapBuffer.terminated frame.payload := by
  rcases serveData_calls h with ⟨_, _, _, hcalled⟩
  rw [← hcalled.payload_length] at hsize ⊢
  exact storedPayload_eq hsize

theorem serveData_append {allocates : Nat -> Bool} {buf : List UInt8}
    {frame : WebsocketFrame} (behind : List UInt8)
    (hsize : frame.payloadLength + 1 < 2 ^ 32)
    (h : serveData allocates buf = some (.calls frame)) :
    serveData allocates (buf ++ behind) = some (.calls frame) := by
  have hround : Reader.resultIn (bytesOf buf) (serveSegment allocates) =
      some (Served.calls frame).round := by
    rw [resultIn_serveSegment, h]
    rfl
  have hmore := Reader.resultIn_mono
    (fun i b => @bytesOf_append buf behind i b) hround
  rw [resultIn_serveSegment, Option.map_eq_some_iff] at hmore
  rcases hmore with ⟨served, hserved, heq⟩
  rw [hserved]
  cases served with
  | leaves => cases heq
  | calls frame' =>
      simp only [Served.round, Round.calls.injEq] at heq
      rcases heq with ⟨hlength, hstored⟩
      have hsize' : frame'.payloadLength + 1 < 2 ^ 32 := by
        rw [hlength]
        exact hsize
      rw [storedPayload_of_calls hsize' hserved,
        storedPayload_of_calls hsize h] at hstored
      have hpayload := terminated_injective hstored
      cases frame
      cases frame'
      cases hlength
      cases hpayload
      rfl

theorem wholeFrame_decoded (allocates : Nat -> Bool)
    (key : Option MaskingKey) (payload : List UInt8)
    (hpayload : payload.length ≤ 65535) :
    DecodedExactly allocates key payload := by
  have hwrap : payload.length + 1 < 2 ^ 32 := by lia
  rcases called_encodeText key (Nat.lt_succ_of_le hpayload) with
    ⟨b₁, hcalled⟩
  have hserve := hcalled.serveData allocates
  have hsize : (payload.length + 1) % 2 ^ 32 = payload.length + 1 :=
    Nat.mod_eq_of_lt hwrap
  simp only [calledWith, hsize] at hserve
  constructor
  · intro memory hmemory
    have hsome : (Reader.resultIn (bytesOf (encodeText key payload))
        (serveSegment allocates)).isSome = true := by
      rw [resultIn_serveSegment, hserve]
      rfl
    intro i hi
    exact bytesOf_isSome.mp
      ((Reader.reads_inside_iff hmemory).mpr hsome i hi)
  · intro hallocates memory hmemory
    rw [if_pos hallocates] at hserve
    have hround : Reader.resultIn (bytesOf (encodeText key payload))
        (serveSegment allocates) =
          some (.calls payload.length (HeapBuffer.terminated payload)) := by
      rw [resultIn_serveSegment, hserve, ← storedPayload_eq hwrap]
      rfl
    exact ((Reader.resultIn_eq_some_iff hmemory).mp hround).1
  · intro hallocates behind more
    rw [if_pos hallocates] at hserve
    exact websocketServe_calls (serveData_append behind hwrap hserve)

theorem wholeFrame_decoded_hi :
    [104, 105].length ≤ 65535 ∧
      DecodedExactly (fun _ => true) none [104, 105] := by
  have hlength : [104, 105].length ≤ 65535 := Nat.le_of_ble_eq_true rfl
  exact ⟨hlength, wholeFrame_decoded (fun _ => true) none [104, 105] hlength⟩

end WebSocket
end Fluxnode
