import Fluxnode.Record.Fragments

/-!
# The calls of the send callback

`record_send` computes the number of its rounds from the whole frame and then
moves a cursor over the payload.  The pieces it hands over are as many as it
computed, none of them is empty or too long, and a failed call is the last.
-/

namespace Fluxnode
namespace Record

open C
open Foundation

/-!
## Handing pieces over
-/

theorem sendFragments_of_all_zero
    {send : SendFunc} {todo sent : List Fragment}
    (h : forall k, k < todo.length -> send (sent ++ todo.take (k + 1)) = 0) :
    sendFragments send sent todo = (sent ++ todo, 0) := by
  induction todo generalizing sent with
  | nil => rw [sendFragments, List.append_nil]
  | cons frag rest ih =>
      have hfirst : send (sent ++ [frag]) = 0 := h 0 (Nat.succ_pos _)
      have hrest : forall k, k < rest.length ->
          send ((sent ++ [frag]) ++ rest.take (k + 1)) = 0 := by
        intro k hk
        rw [List.append_assoc]
        exact h (k + 1) (Nat.succ_lt_succ hk)
      rw [sendFragments, if_neg (not_not.mpr hfirst), ih hrest,
        List.append_assoc, List.singleton_append]

theorem sendFragments_of_first_nonzero
    {send : SendFunc} {todo sent : List Fragment} {k : Nat}
    (hk : k < todo.length)
    (hzero : forall j, j < k -> send (sent ++ todo.take (j + 1)) = 0)
    (hres : send (sent ++ todo.take (k + 1)) ≠ 0) :
    sendFragments send sent todo =
      (sent ++ todo.take (k + 1), send (sent ++ todo.take (k + 1))) := by
  induction todo generalizing sent k with
  | nil => cases hk
  | cons frag rest ih =>
      cases k with
      | zero =>
          rw [List.take_succ_cons, List.take_zero] at hres ⊢
          rw [sendFragments, if_pos hres]
      | succ k =>
          have hfirst : send (sent ++ [frag]) = 0 := hzero 0 (Nat.succ_pos k)
          have hbehind : forall j, (sent ++ [frag]) ++ rest.take (j + 1) =
              sent ++ (frag :: rest).take (j + 1 + 1) := by
            intro j
            rw [List.append_assoc, List.take_succ_cons, List.singleton_append]
          have hzero' : forall j, j < k ->
              send ((sent ++ [frag]) ++ rest.take (j + 1)) = 0 := by
            intro j hj
            rw [hbehind]
            exact hzero (j + 1) (Nat.succ_lt_succ hj)
          rw [← hbehind] at hres ⊢
          rw [sendFragments, if_neg (not_not.mpr hfirst),
            ih (Nat.lt_of_succ_lt_succ hk) hzero' hres]

/-!
## The pieces
-/

theorem length_chunks {α : Type _} {n : Nat} (hn : 0 < n) (xs : List α) :
    (chunks n xs).length = pieceCount xs.length n := by
  fun_induction chunks n xs with
  | case1 xs hstop =>
      rcases hstop with hnil | hzero
      · rw [hnil, List.length_nil, List.length_nil]
        exact ((pieceCount_eq_zero hn).mpr rfl).symm
      · exact absurd hzero (Nat.ne_of_gt hn)
  | case2 xs hgo ih =>
      have hpos : 0 < xs.length := by
        apply List.length_pos_iff.mpr
        intro hnil
        exact hgo (Or.inl hnil)
      rw [List.length_cons, ih, List.length_drop]
      rcases Nat.lt_or_ge xs.length n with hlt | hge
      · rw [pieceCount_of_le hpos (Nat.le_of_lt hlt),
          (pieceCount_eq_zero hn).mpr (Nat.sub_eq_zero_of_le (by lia))]
      · rw [pieceCount_step hn hge]

theorem pieceCount_eq_ceil {total size : Nat} (hsize : 0 < size) :
    pieceCount total size = (total + size - 1) / size := by
  have hdiv := Nat.div_add_mod total size
  have hmod := Nat.mod_lt total hsize
  unfold pieceCount
  symm
  rw [Nat.div_eq_iff hsize]
  split
  · rw [Nat.add_mul, Nat.mul_comm (total / size)]
    lia
  · rw [Nat.add_zero, Nat.mul_comm (total / size)]
    lia

/--
`record_send` hands these pieces over: all of them when every call succeeds,
and otherwise those up to the first call that fails, whose result it returns.
-/
structure SendsPieces (r : RecordT) (payload : List UInt8)
    (pieces : List Fragment) : Prop where
  succeeds : forall send : SendFunc,
    (forall k, k < pieces.length -> send (pieces.take (k + 1)) = 0) ->
      recordSend r send payload (UInt32.ofNat payload.length) =
        some (pieces, 0)
  fails : forall (send : SendFunc) (k : Nat), k < pieces.length ->
    (forall j, j < k -> send (pieces.take (j + 1)) = 0) ->
      send (pieces.take (k + 1)) ≠ 0 ->
      recordSend r send payload (UInt32.ofNat payload.length) =
        some (pieces.take (k + 1), send (pieces.take (k + 1)))
  count : pieces.length =
    (payload.length + 2 + r.recordSize.toNat - 1) / r.recordSize.toNat
  sizes : forall piece, piece ∈ pieces ->
    1 ≤ piece.length ∧ piece.length ≤ r.recordSize.toNat
  inside : pieces.flatten = header payload.length ++ payload

/-- The pieces of a message of at most 65535 bytes. -/
theorem record_sends_pieces
    {r : RecordT} {payload : List UInt8} (hlenbytes : r.lenbytes = 2)
    (hsize : 2 ≤ r.recordSize) (hpayload : payload.length ≤ 65535) :
    exists pieces, SendsPieces r payload pieces := by
  have hpos : 0 < r.recordSize.toNat := by
    have htwo : 2 ≤ r.recordSize.toNat := UInt32.le_iff_toNat_le.mp hsize
    lia
  have hsend : forall send : SendFunc,
      recordSend r send payload (UInt32.ofNat payload.length) =
        some (sendFragments send []
          (chunks r.recordSize.toNat (frame payload))) := by
    intro send
    exact recordSend_eq_sendFragments hlenbytes hsize (by lia)
  have hlength : (frame payload).length = payload.length + 2 := by
    rw [frame, List.length_append, length_header, Nat.add_comm]
  exists chunks r.recordSize.toNat (frame payload)
  constructor
  · intro send hzero
    rw [hsend, sendFragments_of_all_zero hzero, List.nil_append]
  · intro send k hk hzero hres
    rw [hsend, sendFragments_of_first_nonzero hk hzero hres, List.nil_append]
  · rw [length_chunks hpos, pieceCount_eq_ceil hpos, hlength]
  · intro piece hpiece
    constructor
    · exact List.length_pos_iff.mpr (ne_nil_of_mem_chunks hpiece)
    · exact length_le_of_mem_chunks hpiece
  · exact chunks_flatten hpos (frame payload)

theorem record_sends_pieces_of_three_bytes :
    exists pieces, SendsPieces (idle 4) [1, 2, 3] pieces :=
  record_sends_pieces rfl (by decide) (by decide)

end Record
end Fluxnode
