import Fluxnode.Record.Model

/-!
# What `record_send` hands to its callback

On the wire a message is a frame: the length in two bytes, then the payload.
The fragments are the pieces of `recordSize` bytes of that frame, handed over
in order until the callback answers with an error.
-/

namespace Fluxnode
namespace Record

open C
open Foundation

/-!
## Frames
-/

/-- The two length bytes, low byte first. -/
def header (n : Nat) : Fragment :=
  [UInt8.ofNat n, UInt8.ofNat (n / 256)]

def frame (payload : List UInt8) : Fragment :=
  header payload.length ++ payload

@[simp] theorem length_header (n : Nat) : (header n).length = 2 := rfl

theorem frame_ne_nil (payload : List UInt8) : frame payload ≠ [] := by
  simp [frame, header]

theorem take_frame (payload : List UInt8) {size : Nat} (hsize : 2 ≤ size) :
    (frame payload).take size =
      header payload.length ++ payload.take (size - 2) := by
  rw [frame, List.take_append, length_header, List.take_of_length_le hsize]

theorem drop_frame (payload : List UInt8) {size : Nat} (hsize : 2 ≤ size) :
    (frame payload).drop size = payload.drop (size - 2) := by
  rw [frame, List.drop_append, length_header, List.drop_eq_nil_of_le hsize,
    List.nil_append]

private theorem and_255 (k : Nat) : k &&& 255 = k % 256 :=
  Nat.and_two_pow_sub_one_eq_mod k 8

theorem lengthBytes_eq_header (n : Nat) (hn : n < 2 ^ 32) :
    [(UInt32.ofNat n &&& 0xff).toUInt8,
        ((UInt32.ofNat n >>> 8) &&& 0xff).toUInt8] = header n := by
  have hlo : (UInt32.ofNat n &&& 0xff).toUInt8 = UInt8.ofNat n := by
    apply UInt8.toNat_inj.mp
    simp [and_255]
  have hhi :
      ((UInt32.ofNat n >>> 8) &&& 0xff).toUInt8 = UInt8.ofNat (n / 256) := by
    apply UInt8.toNat_inj.mp
    have hshift : (UInt32.ofNat n >>> 8).toNat = n / 256 := by
      rw [UInt32.toNat_shiftRight, UInt32.toNat_ofNat_of_lt' hn]
      exact Nat.shiftRight_eq_div_pow n 8
    rw [UInt32.toNat_toUInt8, UInt32.toNat_and, hshift]
    show ((n / 256) &&& 255) % 256 = n / 256 % 256
    rw [and_255, Nat.mod_mod]
  rw [hlo, hhi, header]

/-!
## Handing fragments over
-/

/--
Hand the fragments to the callback in order and stop at the first non-zero
answer.
-/
def sendFragments (send : SendFunc) :
    List Fragment -> List Fragment -> List Fragment × Int
  | sent, [] => (sent, 0)
  | sent, frag :: rest =>
      if send (sent ++ [frag]) ≠ 0 then
        (sent ++ [frag], send (sent ++ [frag]))
      else
        sendFragments send (sent ++ [frag]) rest

theorem sendFragments_of_zero
    {send : SendFunc} {todo sent out : List Fragment}
    (h : sendFragments send sent todo = (out, 0)) :
    out = sent ++ todo := by
  induction todo generalizing sent with
  | nil =>
      simp only [sendFragments, Prod.mk.injEq, and_true] at h
      simp [h]
  | cons frag rest ih =>
      by_cases hres : send (sent ++ [frag]) = 0
      · rw [sendFragments, if_neg (not_not.mpr hres)] at h
        simpa using ih h
      · rw [sendFragments, if_pos hres] at h
        exact absurd (congrArg Prod.snd h) hres

/-!
## The loop

The loop starts behind the first fragment with `curLen = recordSize` and runs
once for each piece of the payload that is left.  The number of rounds is the
ceiling that `record_send` computes from the whole frame.
-/

/-- The number of pieces of `size` bytes that `total` bytes make. -/
def pieceCount (total size : Nat) : Nat :=
  total / size + if total % size > 0 then 1 else 0

theorem pieceCount_of_le {total size : Nat} (hpos : 0 < total)
    (hle : total ≤ size) : pieceCount total size = 1 := by
  unfold pieceCount
  rcases Nat.lt_or_eq_of_le hle with hlt | rfl
  · rw [Nat.div_eq_of_lt hlt, Nat.mod_eq_of_lt hlt, if_pos hpos]
  · rw [Nat.div_self hpos, Nat.mod_self, if_neg (Nat.lt_irrefl 0)]

theorem pieceCount_step {total size : Nat} (hsize : 0 < size)
    (hlt : size ≤ total) :
    pieceCount total size = pieceCount (total - size) size + 1 := by
  unfold pieceCount
  rw [Nat.div_eq_sub_div hsize hlt, Nat.mod_eq_sub_mod hlt]
  lia

theorem pieceCount_eq_zero {total size : Nat} (hsize : 0 < size) :
    pieceCount total size = 0 <-> total = 0 := by
  constructor
  · intro hcount
    rcases Nat.lt_or_ge total size with hlt | hge
    · by_contra hne
      rw [pieceCount_of_le (Nat.pos_of_ne_zero hne) (Nat.le_of_lt hlt)]
        at hcount
      cases hcount
    · rw [pieceCount_step hsize hge] at hcount
      cases hcount
  · intro hsame
    subst hsame
    simp [pieceCount]

theorem le_pieceCount_mul (total : Nat) {size : Nat} (hsize : 0 < size) :
    total ≤ pieceCount total size * size := by
  have hdiv := Nat.div_add_mod total size
  have hmod := Nat.mod_lt total hsize
  unfold pieceCount
  rw [Nat.add_mul, Nat.mul_comm (total / size)]
  split <;> lia

/--
The loop hands over the pieces of the payload behind `cur`.  The invariant is
that `curLen` is still `recordSize`: it shrinks only in the last round.
-/
theorem recordSendLoop_eq_sendFragments
    {send : SendFunc} {payload : List UInt8} {len size : SizeT}
    (hlen : len.toNat = payload.length) (hsize : 0 < size.toNat)
    (hfits : payload.length + size.toNat < 2 ^ 32)
    {cur : SizeT} {sent : List Fragment}
    (hcur : cur.toNat ≤ payload.length) :
    recordSendLoop send payload len
        (pieceCount (payload.length - cur.toNat) size.toNat) cur size sent =
      some (sendFragments send sent
        (chunks size.toNat (payload.drop cur.toNat))) := by
  induction hrounds :
      pieceCount (payload.length - cur.toNat) size.toNat
      generalizing cur sent with
  | zero =>
      have hdone := (pieceCount_eq_zero hsize).mp hrounds
      rw [List.drop_eq_nil_of_le (by lia), chunks_nil]
      rfl
  | succ rounds ih =>
      have hleft : cur.toNat < payload.length := by
        by_contra hge
        have hzero := (pieceCount_eq_zero hsize).mpr
          (show payload.length - cur.toNat = 0 by lia)
        rw [hrounds] at hzero
        cases hzero
      have hne : payload.drop cur.toNat ≠ [] := by
        rw [Ne, List.drop_eq_nil_iff]
        lia
      have hsum : (cur + size).toNat = cur.toNat + size.toNat := by
        rw [UInt32.toNat_add]
        lia
      rw [chunks_of_pos hsize hne, recordSendLoop]
      by_cases hlast : payload.length < cur.toNat + size.toNat
      · -- the last, shortened piece
        have hcond : cur + size > len := by
          rw [gt_iff_lt, UInt32.lt_iff_toNat_lt]
          lia
        have hrest : (len - cur).toNat = payload.length - cur.toNat := by
          rw [UInt32.toNat_sub_of_le _ _ (UInt32.le_iff_toNat_le.mpr (by lia)),
            hlen]
        have hone : rounds = 0 := by
          rw [pieceCount_of_le (by lia) (by lia)] at hrounds
          lia
        subst hone
        have hall :
            (payload.drop cur.toNat).take (payload.length - cur.toNat) =
              payload.drop cur.toNat :=
          List.take_of_length_le (by simp)
        have hpiece :
            (payload.drop cur.toNat).take size.toNat =
              payload.drop cur.toNat :=
          List.take_of_length_le (by rw [List.length_drop]; lia)
        have hnone : (payload.drop cur.toNat).drop size.toNat = [] :=
          List.drop_eq_nil_of_le (by rw [List.length_drop]; lia)
        rw [if_pos hcond, hrest, readBytes_of_le (by lia), hall, hpiece,
          hnone, chunks_nil]
        simp only [recordSendLoop, sendFragments]
        split <;> rfl
      · have hcond : ¬ cur + size > len := by
          rw [gt_iff_lt, UInt32.lt_iff_toNat_lt]
          lia
        have hnext :
            pieceCount (payload.length - (cur + size).toNat) size.toNat =
              rounds := by
          rw [pieceCount_step hsize (by lia)] at hrounds
          rw [hsum, Nat.sub_add_eq]
          lia
        rw [if_neg hcond, readBytes_of_le (by lia), List.drop_drop, ← hsum]
        simp only [sendFragments]
        split
        · rfl
        · exact ih (by lia) hnext

/-!
## The whole call
-/

private theorem toInt_toInt32_of_lt {x : UInt32} (h : x.toNat < 2 ^ 31) :
    x.toInt32.toInt = x.toNat := by
  show x.toBitVec.toInt = x.toNat
  rw [BitVec.toInt_eq_toNat_of_lt]
  · rfl
  · show 2 * x.toNat < 2 ^ 32
    lia

/-- `numRecords` is the number of pieces of the frame, unless counting the last
one overflows. -/
theorem numRecords_cases {total size : SizeT} (hsize : 2 ≤ size.toNat) :
    (if total % size > 0 then (total / size).toInt32 + 1
      else (total / size).toInt32).toInt =
        (pieceCount total.toNat size.toNat : Int) ∨
    (if total % size > 0 then (total / size).toInt32 + 1
      else (total / size).toInt32).toInt < 0 ∧
        size.toNat = 2 ∧ total.toNat = 2 ^ 32 - 1 := by
  have hbound := total.toNat_lt
  have hhalf : total.toNat / size.toNat ≤ total.toNat / 2 :=
    Nat.div_le_div_left hsize (by lia)
  have hquot : (total / size).toInt32.toInt =
      ((total.toNat / size.toNat : Nat) : Int) := by
    rw [toInt_toInt32_of_lt (by rw [UInt32.toNat_div]; lia),
      UInt32.toNat_div]
  have hmod : total % size > 0 <-> total.toNat % size.toNat > 0 := by
    rw [gt_iff_lt, UInt32.lt_iff_toNat_lt, UInt32.toNat_mod]
    rfl
  have hdivmod := Nat.div_add_mod total.toNat size.toNat
  unfold pieceCount
  by_cases hrem : total.toNat % size.toNat > 0
  · have hone : Int32.toInt 1 = 1 := rfl
    rw [if_pos (hmod.mpr hrem), if_pos hrem, Int32.toInt_add, hquot, hone]
    by_cases hlast : total.toNat / size.toNat + 1 < 2 ^ 31
    · left
      rw [Int.bmod_eq_of_le (by lia) (by lia)]
      push_cast
      rfl
    · right
      have hq : total.toNat / size.toNat = 2 ^ 31 - 1 := by lia
      rw [hq] at hdivmod ⊢
      have htwo : size.toNat = 2 := by lia
      rw [htwo] at hdivmod hrem
      refine ⟨by decide, htwo, ?_⟩
      lia
  · left
    rw [if_neg (mt hmod.mp hrem), if_neg hrem, hquot]
    simp

theorem toUInt32_allocSize (len size : SizeT) :
    (if len + 2 < size.toInt32.toUInt32 then (len + 2).toInt32
      else size.toInt32).toUInt32 =
        if len + 2 < size then len + 2 else size := by
  rw [apply_ite Int32.toUInt32]
  simp only [UInt32.toUInt32_toInt32]

theorem toNat_allocSize {len : SizeT} (size : SizeT)
    (hlen : len.toNat + 2 < 2 ^ 32) :
    (if len + 2 < size then len + 2 else size).toNat =
      min size.toNat (len.toNat + 2) := by
  have hsum : (len + 2).toNat = len.toNat + 2 := by
    rw [UInt32.toNat_add]
    exact Nat.mod_eq_of_lt hlen
  have hlt : len + 2 < size <-> len.toNat + 2 < size.toNat := by
    rw [UInt32.lt_iff_toNat_lt, hsum]
  split
  · have := hlt.mp ‹_›
    lia
  · have := mt hlt.mpr ‹_›
    lia

theorem recordSend_firstRecord
    {r : RecordT} (send : SendFunc) {payload : List UInt8}
    (hlenbytes : r.lenbytes = 2) (hsize : 2 ≤ r.recordSize)
    (hpayload : payload.length + 2 < 2 ^ 32) :
    exists (alloc : SizeT) (numRecords : Int),
      alloc.toNat = min r.recordSize.toNat (payload.length + 2) ∧
      (numRecords = pieceCount (payload.length + 2) r.recordSize.toNat ∨
        numRecords < 0 ∧ r.recordSize.toNat = 2 ∧
          payload.length + 2 = 2 ^ 32 - 1) ∧
      recordSend r send payload (UInt32.ofNat payload.length) =
        if send [(frame payload).take r.recordSize.toNat] ≠ 0 then
          some ([(frame payload).take r.recordSize.toNat],
            send [(frame payload).take r.recordSize.toNat])
        else
          recordSendLoop send payload (UInt32.ofNat payload.length)
            (numRecords - 1).toNat (alloc - 2) r.recordSize
            [(frame payload).take r.recordSize.toNat] := by
  have hsizeNat : 2 ≤ r.recordSize.toNat := UInt32.le_iff_toNat_le.mp hsize
  have hlen : (UInt32.ofNat payload.length).toNat = payload.length :=
    UInt32.toNat_ofNat_of_lt' (show _ < 2 ^ 32 by lia)
  have htotal : (UInt32.ofNat payload.length + 2).toNat =
      payload.length + 2 := by
    rw [UInt32.toNat_add, hlen]
    exact Nat.mod_eq_of_lt hpayload
  have hzero : r.recordSize ≠ 0 := by
    intro h
    rw [h] at hsizeNat
    exact absurd hsizeNat (by decide)
  have hcount := @numRecords_cases (UInt32.ofNat payload.length + 2)
    r.recordSize hsizeNat
  rw [htotal] at hcount
  have halloc := toNat_allocSize r.recordSize
    (show (UInt32.ofNat payload.length).toNat + 2 < 2 ^ 32 by lia)
  rw [hlen] at halloc
  have hlenbytesSize : Int32.toUInt32 2 = 2 := rfl
  simp only [recordSend, hlenbytes, if_neg hzero, toUInt32_allocSize,
    hlenbytesSize]
  generalize (if UInt32.ofNat payload.length + 2 < r.recordSize then
    UInt32.ofNat payload.length + 2 else r.recordSize) = alloc at halloc ⊢
  refine ⟨alloc, _, halloc, hcount, ?_⟩
  have hbig : ¬ alloc < 2 := by
    rw [UInt32.lt_iff_toNat_lt, halloc]
    show ¬ min r.recordSize.toNat (payload.length + 2) < 2
    lia
  have hbody : (alloc - 2).toNat = alloc.toNat - 2 :=
    UInt32.toNat_sub_of_le _ _ (UInt32.not_lt.mp hbig)
  rw [if_neg hbig, hbody, readBytes_of_le (by lia), List.drop_zero]
  have hdata :
      (UInt32.ofNat payload.length &&& 0xff).toUInt8 ::
          ((UInt32.ofNat payload.length >>> 8) &&& 0xff).toUInt8 ::
            payload.take (alloc.toNat - 2) =
        (frame payload).take r.recordSize.toNat := by
    have htake : payload.take (alloc.toNat - 2) =
        payload.take (r.recordSize.toNat - 2) := by
      rw [List.take_eq_take_iff]
      lia
    rw [htake, take_frame payload hsizeNat,
      ← lengthBytes_eq_header payload.length (by lia)]
    rfl
  simp only [hdata]

/--
`record_send` hands over the pieces of the frame, for every record size that
holds the length field and every message whose frame an `int` can count.
-/
theorem recordSend_eq_sendFragments
    {r : RecordT} {send : SendFunc} {payload : List UInt8}
    (hlenbytes : r.lenbytes = 2) (hsize : 2 ≤ r.recordSize)
    (hpayload : payload.length + 2 < 2 ^ 31) :
    recordSend r send payload (UInt32.ofNat payload.length) =
      some (sendFragments send []
        (chunks r.recordSize.toNat (frame payload))) := by
  have hsizeNat : 2 ≤ r.recordSize.toNat := UInt32.le_iff_toNat_le.mp hsize
  have hlen : (UInt32.ofNat payload.length).toNat = payload.length :=
    UInt32.toNat_ofNat_of_lt' (show _ < 2 ^ 32 by lia)
  rcases @recordSend_firstRecord r send payload hlenbytes hsize (by lia) with
    ⟨alloc, numRecords, halloc, hcount, hsend⟩
  have hcount : numRecords =
      pieceCount (payload.length + 2) r.recordSize.toNat := by lia
  rw [hsend, hcount, chunks_of_pos (by lia) (frame_ne_nil payload),
    drop_frame payload hsizeNat]
  simp only [sendFragments, List.nil_append]
  split
  · rfl
  · by_cases hone : payload.length + 2 < r.recordSize.toNat
    · -- the whole frame fits, so the loop does not run
      rw [pieceCount_of_le (by lia) (by lia),
        List.drop_eq_nil_of_le (by lia), chunks_nil]
      rfl
    · have hbody : (alloc - 2).toNat = alloc.toNat - 2 := by
        apply UInt32.toNat_sub_of_le
        rw [UInt32.le_iff_toNat_le, halloc]
        show 2 ≤ min r.recordSize.toNat (payload.length + 2)
        lia
      have hcur : (alloc - 2).toNat = r.recordSize.toNat - 2 := by lia
      have hrounds :
          ((pieceCount (payload.length + 2) r.recordSize.toNat : Int) - 1).toNat =
            pieceCount (payload.length - (alloc - 2).toNat)
              r.recordSize.toNat := by
        rw [pieceCount_step (by lia) (by lia), hcur]
        have hleft : payload.length + 2 - r.recordSize.toNat =
            payload.length - (r.recordSize.toNat - 2) := by lia
        rw [hleft]
        lia
      rw [hrounds, ← hcur]
      exact recordSendLoop_eq_sendFragments hlen (by lia) (by lia)
        (by lia)

end Record
end Fluxnode
