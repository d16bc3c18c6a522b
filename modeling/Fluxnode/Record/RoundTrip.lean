import Fluxnode.Record.Receiver

/-!
# Message streams over BLE

A list of messages is sent one after the other, each with its own record size,
and every fragment is written to the receiver in the order it was sent.
-/

namespace Fluxnode
namespace Record

open C
open Foundation

structure Outgoing where
  sender : RecordT
  send : SendFunc
  payload : List UInt8
  lenbytes_eq : sender.lenbytes = 2
  two_le_recordSize : 2 ≤ sender.recordSize
  length_lt : payload.length < 2 ^ 16

def Outgoing.transmit (m : Outgoing) : Option (List Fragment × Int) :=
  recordSend m.sender m.send m.payload (UInt32.ofNat m.payload.length)

theorem Outgoing.transmit_eq (m : Outgoing) :
    m.transmit = some (sendFragments m.send []
      (chunks m.sender.recordSize.toNat (frame m.payload))) := by
  have hlt := m.length_lt
  exact recordSend_eq_sendFragments m.lenbytes_eq m.two_le_recordSize (by lia)

theorem Outgoing.two_le_size (m : Outgoing) :
    2 ≤ m.sender.recordSize.toNat :=
  UInt32.le_iff_toNat_le.mp m.two_le_recordSize

theorem Outgoing.fragments_of_transmit
    {m : Outgoing} {frags : List Fragment}
    (hsent : m.transmit = some (frags, 0)) :
    frags = chunks m.sender.recordSize.toNat (frame m.payload) := by
  rw [m.transmit_eq, Option.some.injEq] at hsent
  simpa using sendFragments_of_zero hsent

theorem feedAll_transmit
    {recordSize : SizeT} {m : Outgoing} {frags : List Fragment}
    (hsent : m.transmit = some (frags, 0)) :
    feedAll writeEvt (idle recordSize) frags =
      some (idle recordSize, answers frags m.payload) := by
  have hsize := m.two_le_size
  have hfrags := Outgoing.fragments_of_transmit hsent
  have hfirst : (frame m.payload).take m.sender.recordSize.toNat =
      header m.payload.length ++
        m.payload.take (m.sender.recordSize.toNat - 2) := by
    rw [frame, List.take_append, length_header,
      List.take_of_length_le (by rw [length_header]; exact hsize)]
  have hbehind : (frame m.payload).drop m.sender.recordSize.toNat =
      m.payload.drop (m.sender.recordSize.toNat - 2) := by
    rw [frame, List.drop_append, length_header,
      List.drop_eq_nil_of_le (by rw [length_header]; exact hsize),
      List.nil_append]
  rw [chunks_of_pos (by lia) (frame_ne_nil m.payload), hfirst, hbehind]
    at hfrags
  rw [hfrags]
  apply feedAll_frame m.length_lt
  · rw [chunks_flatten (by lia), List.take_append_drop]
  · intro write hwrite
    exact ne_nil_of_mem_chunks (List.mem_of_getLast? hwrite)

/--
Messages of any length up to 65535, sent with any record sizes of at least two
and all sends succeeding, come out of the receiver as they went in: silence
until the last fragment of each message, then the message, and the receiver
idle again at the end.
-/
theorem record_stream_roundTrip
    (recordSize : SizeT) {messages : List Outgoing}
    {sent : List (List Fragment)}
    (hsent : List.Forall₂ (fun m frags => m.transmit = some (frags, 0))
      messages sent) :
    exists outs : List (Option Received),
      feedAll writeEvt (idle recordSize) sent.flatten =
          some (idle recordSize, outs) ∧
        outs.reduceOption = messages.map (fun m => delivered m.payload) ∧
        outs = (List.zipWith answers sent
          (messages.map Outgoing.payload)).flatten := by
  refine ⟨_, ?_, ?_, rfl⟩
  · apply feedAll_flatten_of_home
    induction hsent with
    | nil => exact List.Forall₂.nil
    | cons hfirst _ ih => exact List.Forall₂.cons (feedAll_transmit hfirst) ih
  · induction hsent with
    | nil => rfl
    | cons _ _ ih =>
        simp only [List.map_cons, List.zipWith_cons_cons, List.flatten_cons,
          List.reduceOption_append, reduceOption_answers, ih,
          List.singleton_append]

def accepted (recordSize : SizeT) (hsize : 2 ≤ recordSize)
    (payload : List UInt8) (hlen : payload.length < 2 ^ 16) : Outgoing where
  sender := idle recordSize
  send := fun _ => 0
  payload := payload
  lenbytes_eq := rfl
  two_le_recordSize := hsize
  length_lt := hlen

theorem record_stream_roundTrip_three_messages :
    exists outs : List (Option Received),
      feedAll writeEvt (idle 18)
          [[2, 0, 104, 105], [3, 0], [1, 2], [3], [0, 0]] =
          some (idle 18, outs) ∧
        outs.reduceOption =
          [delivered [104, 105], delivered [1, 2, 3], delivered []] := by
  have h := record_stream_roundTrip 18
    (show List.Forall₂ (fun m frags => m.transmit = some (frags, 0))
      [accepted 10 (by decide) [104, 105] (by decide),
        accepted 2 (by decide) [1, 2, 3] (by decide),
        accepted 2 (by decide) [] (by decide)]
      [[[2, 0, 104, 105]], [[3, 0], [1, 2], [3]], [[0, 0]]] from
      .cons (by decide) (.cons (by decide) (.cons (by decide) .nil)))
  rcases h with ⟨outs, hfeed, hreceived, _⟩
  exact ⟨outs, hfeed, hreceived⟩

end Record
end Fluxnode
