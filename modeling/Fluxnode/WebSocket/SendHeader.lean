import Fluxnode.Foundation.BitField
import Fluxnode.WebSocket.Frame
import Fluxnode.WebSocket.Server
import Mathlib.Tactic.IntervalCases

/-!
# The header that websocket_send writes

The header is put together in a buffer on the stack, member by member, through
two pointers to the same struct.  What is on the stack before is not known.
-/

namespace Fluxnode
namespace WebSocket

open C
open Foundation
open Foundation.BitField

/-!
## The members of the packed structs
-/

/-- A bit field: the byte it is in, its first bit, and its bits. -/
structure Member where
  offset : Nat
  shift : UInt8
  mask : UInt8
  deriving DecidableEq, Repr

def opcodeMember : Member := { offset := 0, shift := 0, mask := 0x0f }
def reservedMember : Member := { offset := 0, shift := 4, mask := 0x70 }
def finMember : Member := { offset := 0, shift := 7, mask := 0x80 }
def payloadLenMember : Member := { offset := 1, shift := 0, mask := 0x7f }
def maskMember : Member := { offset := 1, shift := 7, mask := 0x80 }

def Member.assign (m : Member) (value : UInt8) (buf : List UInt8) :
    List UInt8 :=
  buf.modify m.offset (splice m.mask (value <<< m.shift))

/-- `hdr->len = value`, for the 16-bit `len` behind the bit fields. -/
def assignLen (value : UInt16) (buf : List UInt8) : List UInt8 :=
  (buf.set 2 value.toUInt8).set 3 (value >>> 8).toUInt8

/-- `ntohs`, on a target that stores the low byte first. -/
def ntohs (x : UInt16) : UInt16 :=
  (x <<< 8) ||| (x >>> 8)

def ntohl (x : UInt32) : UInt32 :=
  (x <<< 24) ||| ((x &&& (0xff00 : UInt32)) <<< 8) |||
    ((x >>> 8) &&& (0xff00 : UInt32)) ||| (x >>> 24)

def twobyteLen : Nat := 2
def fourbyteLen : Nat := 4

def sizeofHeader : Nat := 2

def sizeofHeader32 : Nat := 6

/-- The bytes that `websocket_send` hands to its first `netconn_write`, from
what is on the stack. -/
def sendHeader (stack : List UInt8) (length : SizeT) : List UInt8 :=
  let buf := finMember.assign 0x1 stack
  let (buf, hdrLen) :=
    if length > 0xffff then
      -- `hdr32` points to the struct with the 16-bit `len`
      (assignLen (ntohl length).toUInt16 (payloadLenMember.assign 127 buf),
        sizeofHeader + fourbyteLen)
    else if length > 125 ∧ length ≤ 0xffff then
      (assignLen (ntohs length.toUInt16) (payloadLenMember.assign 126 buf),
        sizeofHeader + twobyteLen)
    else
      (payloadLenMember.assign length.toUInt8 buf, sizeofHeader)
  let buf := maskMember.assign 0 buf
  let buf := reservedMember.assign 0 buf
  let buf := opcodeMember.assign (UInt8.ofNat wsOpText) buf
  buf.take hdrLen

/-!
## What is written
-/

theorem assign_before (v s₀ s₁ : UInt8) (rest : List UInt8) :
    payloadLenMember.assign v (finMember.assign 0x1 (s₀ :: s₁ :: rest)) =
      splice 0x80 ((1 : UInt8) <<< 7) s₀ :: splice 0x7f (v <<< 0) s₁ ::
        rest := rfl

theorem assign_behind (s₀ s₁ : UInt8) (rest : List UInt8) :
    opcodeMember.assign (UInt8.ofNat wsOpText)
        (reservedMember.assign 0 (maskMember.assign 0 (s₀ :: s₁ :: rest))) =
      splice 0x0f ((1 : UInt8) <<< 0) (splice 0x70 ((0 : UInt8) <<< 4) s₀) ::
        splice 0x80 ((0 : UInt8) <<< 7) s₁ :: rest := rfl

theorem assignLen_cons (value : UInt16) (s₀ s₁ s₂ s₃ : UInt8)
    (rest : List UInt8) :
    assignLen value (s₀ :: s₁ :: s₂ :: s₃ :: rest) =
      s₀ :: s₁ :: value.toUInt8 :: (value >>> 8).toUInt8 :: rest := rfl

theorem first_byte (s : UInt8) :
    splice 0x0f ((1 : UInt8) <<< 0) (splice 0x70 ((0 : UInt8) <<< 4)
      (splice 0x80 ((1 : UInt8) <<< 7) s)) = 0x81 := by
  apply eq_of_bits
  intro i hi
  simp only [toBitVec_splice, BitVec.getLsbD_or, BitVec.getLsbD_and,
    BitVec.getLsbD_not]
  interval_cases i <;> simp

theorem second_byte (v s : UInt8) :
    splice 0x80 ((0 : UInt8) <<< 7) (splice 0x7f (v <<< 0) s) =
      v &&& 0x7f := by
  apply eq_of_bits
  intro i hi
  simp only [toBitVec_splice, BitVec.getLsbD_or, BitVec.getLsbD_and,
    BitVec.getLsbD_not]
  interval_cases i <;> simp

theorem ntohs_bytes (x : UInt32) :
    (ntohs x.toUInt16).toUInt8 = (x >>> 8).toUInt8 ∧
      (ntohs x.toUInt16 >>> 8).toUInt8 = x.toUInt8 := by
  constructor
  · apply eq_of_bits
    intro i hi
    simp [ntohs]
    interval_cases i <;> simp
  · apply eq_of_bits
    intro i hi
    simp [ntohs]
    interval_cases i <;> simp

theorem ntohl_bytes (x : UInt32) :
    (ntohl x).toUInt16.toUInt8 = (x >>> 24).toUInt8 ∧
      ((ntohl x).toUInt16 >>> 8).toUInt8 = (x >>> 16).toUInt8 := by
  constructor
  · apply eq_of_bits
    intro i hi
    simp [ntohl]
  · apply eq_of_bits
    intro i hi
    simp [ntohl]
    interval_cases i <;> simp

theorem and_of_short {v : UInt8} (h : v.toNat < 128) : v &&& 0x7f = v := by
  apply UInt8.toNat_inj.mp
  rw [UInt8.toNat_and]
  change v.toNat &&& (2 ^ 7 - 1) = v.toNat
  rw [Nat.and_two_pow_sub_one_eq_mod]
  exact Nat.mod_eq_of_lt h


theorem toNat_le_of_small {length : SizeT} (h : ¬ length > 125) :
    length.toNat ≤ 125 :=
  UInt32.le_iff_toNat_le.mp (UInt32.not_lt.mp h)

theorem toNat_toUInt8_of_small {length : SizeT} (h : ¬ length > 125) :
    length.toUInt8.toNat = length.toNat := by
  have hle := toNat_le_of_small h
  rw [UInt32.toNat_toUInt8]
  exact Nat.mod_eq_of_lt (by lia)

theorem sendHeader_eq {stack : List UInt8}
    (hstack : stack.length = sizeofHeader32) (length : SizeT) :
    sendHeader stack length =
      List.zipWith (fun cell s => cell.getD s) (frameHeader length) stack := by
  match stack, hstack with
  | [s₀, s₁, s₂, s₃, s₄, s₅], _ =>
      unfold sendHeader frameHeader
      split
      · rcases ntohl_bytes length with ⟨hlow, hhigh⟩
        simp only [assign_before, assignLen_cons, assign_behind, first_byte,
          second_byte, hlow, hhigh]
        rfl
      · rename_i hshort
        split
        · rcases ntohs_bytes length with ⟨hlow, hhigh⟩
          rename_i hmiddle
          simp only [assign_before, assignLen_cons, assign_behind, first_byte,
            second_byte, hlow, hhigh, if_pos hmiddle.1]
          rfl
        · rename_i hnot
          have hsmall : ¬ length > 125 := by
            intro hgt
            exact hnot ⟨hgt, UInt32.not_lt.mp hshort⟩
          have hv : length.toUInt8.toNat < 128 := by
            rw [toNat_toUInt8_of_small hsmall]
            exact Nat.lt_of_le_of_lt (toNat_le_of_small hsmall) (by decide)
          simp only [assign_before, assign_behind, first_byte, second_byte,
            and_of_short hv, if_neg hsmall]
          rfl

/-!
## Complete headers
-/

/-- Whatever is on the stack, the header is that of a final, unmasked text frame
of this length. -/
def EmitsHeader (length : SizeT) : Prop :=
  exists bytes,
    (forall stack, stack.length = sizeofHeader32 ->
      sendHeader stack length = bytes) ∧
    decodeHeader bytes = some (textHeader false length.toNat, [])

theorem zipWith_determined (bytes stack : List UInt8)
    (h : bytes.length ≤ stack.length) :
    List.zipWith (fun cell s => cell.getD s) (bytes.map some) stack =
      bytes := by
  induction bytes generalizing stack with
  | nil => rfl
  | cons b bytes ih =>
      cases stack with
      | nil => exact absurd h (Nat.not_succ_le_zero _)
      | cons s stack =>
          rw [List.map_cons, List.zipWith_cons_cons,
            ih stack (Nat.le_of_succ_le_succ h), Option.getD_some]

theorem frameHeader_of_short {length : SizeT} (h : length.toNat ≤ 65535) :
    frameHeader length = (headerBytes false length.toNat).map some := by
  have hlong : ¬ length > 0xffff := by
    intro hgt
    exact absurd (UInt32.lt_iff_toNat_lt.mp hgt) (Nat.not_lt.mpr h)
  rw [frameHeader, if_neg hlong]
  by_cases hmiddle : length > 125
  · have hgt : 125 < length.toNat := UInt32.lt_iff_toNat_lt.mp hmiddle
    have hhigh : (length >>> 8).toUInt8 =
        UInt8.ofNat (length.toNat / 256) := by
      apply UInt8.toNat_inj.mp
      rw [UInt32.toNat_toUInt8, UInt32.toNat_shiftRight]
      simp [Nat.shiftRight_eq_div_pow]
    have hlow : length.toUInt8 = UInt8.ofNat (length.toNat % 256) := by
      apply UInt8.toNat_inj.mp
      simp
    rw [if_pos hmiddle, hhigh, hlow, headerBytes, if_neg (by lia)]
    rfl
  · have hle := toNat_le_of_small hmiddle
    have hbyte : length.toUInt8 = UInt8.ofNat (0 + length.toNat) := by
      apply UInt8.toNat_inj.mp
      simp
    rw [if_neg hmiddle, hbyte, headerBytes, if_pos hle]
    rfl

theorem emitsHeader_of_short {length : SizeT} (h : length.toNat ≤ 65535) :
    EmitsHeader length := by
  refine ⟨headerBytes false length.toNat, ?_, ?_⟩
  · intro stack hstack
    rw [sendHeader_eq hstack, frameHeader_of_short h]
    apply zipWith_determined
    rw [hstack, headerBytes_length, headerLength]
    split <;> exact Nat.le_of_ble_eq_true rfl
  · have hdecode := decodeHeader_headerBytes false
      (Nat.lt_succ_of_le h) []
    rw [List.append_nil] at hdecode
    exact hdecode

/-- The length of 64 bits takes eight bytes; four are written. -/
theorem decodeHeader_of_long {length : SizeT} (h : length > 0xffff)
    {stack : List UInt8} (hstack : stack.length = sizeofHeader32) :
    decodeHeader (sendHeader stack length) = none := by
  rw [sendHeader_eq hstack, frameHeader, if_pos h]
  match stack, hstack with
  | [s₀, s₁, s₂, s₃, s₄, s₅], _ => rfl

theorem not_emitsHeader_of_long {length : SizeT} (h : length > 0xffff) :
    ¬ EmitsHeader length := by
  rintro ⟨bytes, hsend, hdecode⟩
  have hstack : (List.replicate 6 (0 : UInt8)).length = sizeofHeader32 := rfl
  rw [← hsend _ hstack, decodeHeader_of_long h hstack] at hdecode
  cases hdecode

theorem emitsHeader_iff_short (length : SizeT) :
    EmitsHeader length <-> length.toNat ≤ 65535 := by
  constructor
  · intro h
    by_contra hlong
    apply not_emitsHeader_of_long (UInt32.lt_iff_toNat_lt.mpr ?_) h
    exact Nat.lt_of_not_le hlong
  · exact emitsHeader_of_short

/-- The shortest length that does not fit 16 bits. -/
theorem not_emitsHeader_65536 : ¬ EmitsHeader 65536 :=
  not_emitsHeader_of_long (by decide)

end WebSocket
end Fluxnode
