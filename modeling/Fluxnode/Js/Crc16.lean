import Fluxnode.Foundation.Crc
import Fluxnode.Js.TypedArray

/-!
# The CRC of `util.js`

`crc16` takes a byte at a time from a table and never masks its accumulator, so
the accumulator is a signed number of 32 bits whose upper half is left over
from bytes before.  Its lower half is the register of the CRC.
-/

namespace Fluxnode
namespace Js

open Crc

def crcTable : List Int :=
  [0x0000, 0x1021, 0x2042, 0x3063, 0x4084, 0x50a5, 0x60c6, 0x70e7,
   0x8108, 0x9129, 0xa14a, 0xb16b, 0xc18c, 0xd1ad, 0xe1ce, 0xf1ef,
   0x1231, 0x0210, 0x3273, 0x2252, 0x52b5, 0x4294, 0x72f7, 0x62d6,
   0x9339, 0x8318, 0xb37b, 0xa35a, 0xd3bd, 0xc39c, 0xf3ff, 0xe3de,
   0x2462, 0x3443, 0x0420, 0x1401, 0x64e6, 0x74c7, 0x44a4, 0x5485,
   0xa56a, 0xb54b, 0x8528, 0x9509, 0xe5ee, 0xf5cf, 0xc5ac, 0xd58d,
   0x3653, 0x2672, 0x1611, 0x0630, 0x76d7, 0x66f6, 0x5695, 0x46b4,
   0xb75b, 0xa77a, 0x9719, 0x8738, 0xf7df, 0xe7fe, 0xd79d, 0xc7bc,
   0x48c4, 0x58e5, 0x6886, 0x78a7, 0x0840, 0x1861, 0x2802, 0x3823,
   0xc9cc, 0xd9ed, 0xe98e, 0xf9af, 0x8948, 0x9969, 0xa90a, 0xb92b,
   0x5af5, 0x4ad4, 0x7ab7, 0x6a96, 0x1a71, 0x0a50, 0x3a33, 0x2a12,
   0xdbfd, 0xcbdc, 0xfbbf, 0xeb9e, 0x9b79, 0x8b58, 0xbb3b, 0xab1a,
   0x6ca6, 0x7c87, 0x4ce4, 0x5cc5, 0x2c22, 0x3c03, 0x0c60, 0x1c41,
   0xedae, 0xfd8f, 0xcdec, 0xddcd, 0xad2a, 0xbd0b, 0x8d68, 0x9d49,
   0x7e97, 0x6eb6, 0x5ed5, 0x4ef4, 0x3e13, 0x2e32, 0x1e51, 0x0e70,
   0xff9f, 0xefbe, 0xdfdd, 0xcffc, 0xbf1b, 0xaf3a, 0x9f59, 0x8f78,
   0x9188, 0x81a9, 0xb1ca, 0xa1eb, 0xd10c, 0xc12d, 0xf14e, 0xe16f,
   0x1080, 0x00a1, 0x30c2, 0x20e3, 0x5004, 0x4025, 0x7046, 0x6067,
   0x83b9, 0x9398, 0xa3fb, 0xb3da, 0xc33d, 0xd31c, 0xe37f, 0xf35e,
   0x02b1, 0x1290, 0x22f3, 0x32d2, 0x4235, 0x5214, 0x6277, 0x7256,
   0xb5ea, 0xa5cb, 0x95a8, 0x8589, 0xf56e, 0xe54f, 0xd52c, 0xc50d,
   0x34e2, 0x24c3, 0x14a0, 0x0481, 0x7466, 0x6447, 0x5424, 0x4405,
   0xa7db, 0xb7fa, 0x8799, 0x97b8, 0xe75f, 0xf77e, 0xc71d, 0xd73c,
   0x26d3, 0x36f2, 0x0691, 0x16b0, 0x6657, 0x7676, 0x4615, 0x5634,
   0xd94c, 0xc96d, 0xf90e, 0xe92f, 0x99c8, 0x89e9, 0xb98a, 0xa9ab,
   0x5844, 0x4865, 0x7806, 0x6827, 0x18c0, 0x08e1, 0x3882, 0x28a3,
   0xcb7d, 0xdb5c, 0xeb3f, 0xfb1e, 0x8bf9, 0x9bd8, 0xabbb, 0xbb9a,
   0x4a75, 0x5a54, 0x6a37, 0x7a16, 0x0af1, 0x1ad0, 0x2ab3, 0x3a92,
   0xfd2e, 0xed0f, 0xdd6c, 0xcd4d, 0xbdaa, 0xad8b, 0x9de8, 0x8dc9,
   0x7c26, 0x6c07, 0x5c64, 0x4c45, 0x3ca2, 0x2c83, 0x1ce0, 0x0cc1,
   0xef1f, 0xff3e, 0xcf5d, 0xdf7c, 0xaf9b, 0xbfba, 0x8fd9, 0x9ff8,
   0x6e17, 0x7e36, 0x4e55, 0x5e74, 0x2e93, 0x3eb2, 0x0ed1, 0x1ef0]

/-- The loop of `crc16` over the rest of the array; `__crcTable[j]` is always in
range. -/
def crc16Loop : List Int -> Int -> Except JsError Int
  | [], crc => .ok crc
  | c :: rest, crc =>
      if c > 255 then
        .error .rangeError
      else
        let j := bitAnd (bitXor c (shiftRight crc 8)) 0xFF
        crc16Loop rest (bitXor (crcTable.getD j.toNat 0) (shiftLeft crc 8))

def crc16 (buf : List Int) : Except JsError Int := do
  let crc <- crc16Loop buf 0x0000
  return bitAnd (bitXor crc 0x0) 0xFFFF

/-!
## The register

The polynomial is `x^16 + x^12 + x^5 + 1`.
-/

def crcPoly : BitVec 16 :=
  0x1021

def numbers (buf : Bytes) : List Int :=
  buf.map (fun b => (b.toNat : Int))

/-- The bits of a message, each byte from its most significant bit on. -/
def messageBits (buf : Bytes) : List Bool :=
  buf.flatMap (fun b => topBits 8 b.toBitVec)

def crcOf (buf : Bytes) : BitVec 16 :=
  crcBits crcPoly 0 (messageBits buf)

/-- The lower half of the accumulator. -/
def register (crc : Int) : BitVec 16 :=
  (toInt32 crc).setWidth 16

theorem register_crcTable (i : BitVec 8) :
    register (crcTable.getD i.toNat 0) = crcBits crcPoly 0 (topBits 8 i) := by
  revert i
  decide +kernel

theorem register_bitXor (x y : Int) :
    register (bitXor x y) = register x ^^^ register y := by
  rw [register, bitXor, toInt32, BitVec.ofInt_toInt, BitVec.setWidth_xor]
  rfl

theorem register_shiftLeft (x : Int) (n : Nat) :
    register (shiftLeft x n) = register x <<< n := by
  rw [register, shiftLeft, toInt32, BitVec.ofInt_toInt]
  apply BitVec.eq_of_getLsbD_eq
  intro i hi
  simp [register, BitVec.getLsbD_setWidth, BitVec.getLsbD_shiftLeft]

/-- The index into the table: the byte against the upper half of the
register. -/
theorem index_toNat (b : UInt8) (crc : Int) :
    (bitAnd (bitXor b.toNat (shiftRight crc 8)) 0xFF).toNat =
      (b.toBitVec ^^^ high 8 (register crc)).toNat := by
  have hindex : (toInt32 (bitXor b.toNat (shiftRight crc 8))).setWidth 8 =
      b.toBitVec ^^^ high 8 (register crc) := by
    rw [bitXor, shiftRight, toInt32, toInt32, BitVec.ofInt_toInt, toInt32,
      BitVec.ofInt_toInt, BitVec.ofInt_natCast, BitVec.setWidth_xor]
    congr 1
    · rw [BitVec.setWidth_ofNat_of_le (by decide)]
      exact BitVec.ofNat_toNat ..
    · apply BitVec.eq_of_getLsbD_eq
      intro i hi
      rw [BitVec.getLsbD_setWidth, BitVec.getLsbD_sshiftRight, high,
        BitVec.getLsbD_extractLsb', register, BitVec.getLsbD_setWidth]
      simp [hi, show 8 + i < 32 by lia, show 8 + i < 16 by lia,
        show i < 32 by lia, toInt32]
  rw [← hindex]
  exact congrArg Int.toNat (bitAnd_mask _ (show 8 < 32 by decide))

/-- One round of the loop takes the eight bits of its byte into the register,
whatever the upper half of the accumulator is. -/
theorem register_round (b : UInt8) (crc : Int) :
    register (bitXor
        (crcTable.getD
          (bitAnd (bitXor b.toNat (shiftRight crc 8)) 0xFF).toNat 0)
        (shiftLeft crc 8)) =
      crcBits crcPoly (register crc) (topBits 8 b.toBitVec) := by
  rw [index_toNat, register_bitXor, register_shiftLeft]
  exact (crcBits_table (by decide) register_crcTable _ _).symm

theorem crc16Loop_numbers (buf : Bytes) (crc : Int) :
    exists crc', crc16Loop (numbers buf) crc = .ok crc' ∧
      register crc' = crcBits crcPoly (register crc) (messageBits buf) := by
  induction buf generalizing crc with
  | nil => exact ⟨crc, rfl, rfl⟩
  | cons b rest ih =>
      have hbyte : ¬ ((b.toNat : Int) > 255) := by
        have hlt := UInt8.toNat_lt b
        lia
      rcases ih (bitXor
        (crcTable.getD
          (bitAnd (bitXor b.toNat (shiftRight crc 8)) 0xFF).toNat 0)
        (shiftLeft crc 8)) with ⟨crc', hloop, hcrc'⟩
      refine ⟨crc', ?_, ?_⟩
      · rw [numbers, List.map_cons, crc16Loop, if_neg hbyte]
        exact hloop
      · rw [hcrc', register_round, ← crcBits_append]
        rfl

theorem bitAnd_register (crc : Int) :
    bitAnd (bitXor crc 0x0) 0xFFFF = (register crc).toNat := by
  have hzero : register (bitXor crc 0x0) = register crc := by
    rw [register_bitXor]
    exact BitVec.xor_zero
  have hmask : ((2 ^ 16 - 1 : Nat) : Int) = 0xFFFF := rfl
  rw [← hzero, ← hmask]
  exact bitAnd_mask _ (by decide)

theorem crc16_numbers (buf : Bytes) :
    crc16 (numbers buf) = .ok ((crcOf buf).toNat : Int) := by
  rcases crc16Loop_numbers buf 0 with ⟨crc, hloop, hcrc⟩
  have hzero : register 0 = 0 := rfl
  rw [hzero] at hcrc
  have hresult := bitAnd_register crc
  rw [hcrc] at hresult
  rw [crc16, hloop]
  exact congrArg Except.ok hresult

/-!
## Arrays of numbers

A byte array may be a plain array whose elements are bytes.
-/

theorem toUint8_of_byte {c : Int} (hlow : 0 ≤ c) (hhigh : c ≤ 255) :
    ((toUint8 c).toNat : Int) = c := by
  rcases Int.eq_ofNat_of_zero_le hlow with ⟨n, rfl⟩
  rw [toUint8, BitVec.ofInt_natCast, UInt8.toNat_ofBitVec, BitVec.toNat_ofNat,
    Nat.mod_eq_of_lt (by lia)]

theorem numbers_toUint8 {buf : List Int}
    (hbytes : forall c, c ∈ buf -> 0 ≤ c ∧ c ≤ 255) :
    numbers (buf.map toUint8) = buf := by
  have hsame : forall c, c ∈ buf -> ((toUint8 c).toNat : Int) = c := by
    intro c hc
    rcases hbytes c hc with ⟨hlow, hhigh⟩
    exact toUint8_of_byte hlow hhigh
  rw [numbers, List.map_map]
  exact (List.map_congr_left hsame).trans (List.map_id buf)

/-- The table-driven CRC of an array of bytes is its bit-by-bit CRC. -/
theorem crc16_eq_crcOf (buf : List Int)
    (hbytes : forall c, c ∈ buf -> 0 ≤ c ∧ c ≤ 255) :
    crc16 buf = .ok ((crcOf (buf.map toUint8)).toNat : Int) := by
  rw [← crc16_numbers, numbers_toUint8 hbytes]

theorem crc16_eq_crcOf_digits :
    crc16 [49, 50, 51, 52, 53, 54, 55, 56, 57] = .ok 0x31C3 := by
  rw [crc16_eq_crcOf _ (by decide)]
  decide +kernel

end Js
end Fluxnode
