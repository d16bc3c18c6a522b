import Fluxnode.Js.TypedArray
import Mathlib.Algebra.Group.Int.Defs

/-!
# `util.js`

The helpers of `spiffs_image/util.js` that the LoRaWAN library uses.
-/

namespace Fluxnode
namespace Js

def reverse (input : Bytes) : Except JsError Bytes := do
  let output <- newUint8Array input.length
  return storeEach output input.length
    (fun i => load input (input.length - (i + 1)))

def arrayEqual (a b : Bytes) : Bool :=
  if a.length ≠ b.length then
    false
  else
    (List.range a.length).all (fun i => load a i == load b i)

def htons (num : Int) : Int :=
  bitOr (shiftRight num 8) (shiftLeft (bitAnd num 0xff) 8)

def fromTwosComplement (twosComplement : Int) (numberBytes : Nat) : Int :=
  let numberBits := (if numberBytes = 0 then 1 else numberBytes) * 8
  -- a shift count counts modulo 32
  let bound := shiftLeft 1 (numberBits % 32)
  if twosComplement < 0 ∨ twosComplement > bound - 1 then
    0
  else if twosComplement ≤ 2 ^ (numberBits - 1) - 1 then
    twosComplement
  else
    -(bitAnd (bitNot twosComplement) (bound - 1) + 1)

/-!
## Arrays
-/

theorem load_of_lt {xs : Bytes} {i : Nat} (hi : i < xs.length) :
    load xs i = xs[i] :=
  by rw [load, List.getD_eq_getElem?_getD, List.getElem?_eq_getElem hi]; rfl

theorem reverse_eq (input : Bytes) : reverse input = .ok input.reverse := by
  have hstore : storeEach (List.replicate input.length 0) input.length
      (fun i => load input (input.length - (i + 1))) = input.reverse := by
    have hall := storeEach_length (List.replicate input.length 0)
      (fun i => load input (input.length - (i + 1)))
    rw [List.length_replicate] at hall
    rw [hall]
    apply List.ext_getElem
    · simp
    · intro i hi _
      have hlt : i < input.length := by simpa using hi
      rw [List.getElem_map, List.getElem_range, List.getElem_reverse,
        load_of_lt (by lia)]
      congr 1
      lia
  rw [reverse, newUint8Array_natCast]
  exact congrArg Except.ok hstore

theorem arrayEqual_iff {a b : Bytes} : arrayEqual a b = true <-> a = b := by
  unfold arrayEqual
  constructor
  · intro h
    by_cases hlength : a.length = b.length
    · rw [if_neg (by simpa using hlength), List.all_eq_true] at h
      apply List.ext_getElem hlength
      intro i hi hi'
      have hsame := h i (List.mem_range.mpr hi)
      rw [load_of_lt hi, load_of_lt hi'] at hsame
      exact beq_iff_eq.mp hsame
    · rw [if_pos hlength] at h
      cases h
  · intro h
    rw [h, if_neg (by simp), List.all_eq_true]
    intro i _
    exact beq_self_eq_true _

/-!
## Byte order

A number below 65536 leaves the same two bytes little-endian as its `htons`
leaves big-endian.  The shifts of `htons` do not mask a larger number.
-/

def counterBytes (n : Nat) : Bytes :=
  [UInt8.ofNat n, UInt8.ofNat (n / 256)]

theorem lowByte_natCast (n : Nat) : lowByte n = UInt8.ofNat n := by
  apply UInt8.toNat_inj.mp
  simp [lowByte]

theorem highByte_natCast (n : Nat) : highByte n = UInt8.ofNat (n / 256) := by
  have hdiv : n % 65536 / 256 = n / 256 % 256 :=
    Nat.mod_mul_right_div_self n 256 256
  apply UInt8.toNat_inj.mp
  rw [highByte, UInt8.toNat_ofBitVec, BitVec.extractLsb'_toNat,
    BitVec.ofInt_natCast, BitVec.toNat_ofNat, Nat.shiftRight_eq_div_pow,
    UInt8.toNat_ofNat']
  show n % 65536 / 256 % 256 = n / 256 % 256
  rw [hdiv, Nat.mod_mod]

theorem highByte_toInt (x : BitVec 32) :
    highByte x.toInt = UInt8.ofBitVec (x.extractLsb' 8 8) := by
  have hword : BitVec.ofInt 16 x.toInt = x.setWidth 16 :=
    BitVec.signExtend_eq_setWidth_of_le x (by decide)
  rw [highByte, hword]
  congr 1
  apply BitVec.eq_of_getLsbD_eq
  intro i hi
  simp [hi, show 8 + i < 16 by lia]

theorem lowByte_toInt (x : BitVec 32) :
    lowByte x.toInt = UInt8.ofBitVec (x.extractLsb' 0 8) := by
  have hword : BitVec.ofInt 16 x.toInt = x.setWidth 16 :=
    BitVec.signExtend_eq_setWidth_of_le x (by decide)
  rw [lowByte, hword]
  congr 1
  apply BitVec.eq_of_getLsbD_eq
  intro i hi
  simp [hi, show i < 16 by lia]

theorem extractLsb'_ofNat (n : Nat) {k d : Nat} (hk : k + 8 ≤ 32)
    (hd : 2 ^ k = d) :
    UInt8.ofBitVec ((BitVec.ofNat 32 n).extractLsb' k 8) =
      UInt8.ofNat (n / d) := by
  apply UInt8.toNat_inj.mp
  rw [← hd, UInt8.toNat_ofBitVec, BitVec.extractLsb'_toNat, BitVec.toNat_ofNat,
    UInt8.toNat_ofNat', Nat.shiftRight_eq_div_pow, ← Nat.mod_mul_right_div_self,
    ← Nat.mod_mul_right_div_self, ← Nat.pow_add,
    Nat.mod_mod_of_dvd _ (Nat.pow_dvd_pow 2 hk)]

theorem htons_eq_toInt (n : Nat) :
    htons n = ((BitVec.ofNat 32 n).sshiftRight 8 |||
      ((BitVec.ofNat 32 n &&& 255#32) <<< 8)).toInt := by
  simp only [htons, bitOr, shiftRight, shiftLeft, bitAnd, toInt32,
    BitVec.ofInt_toInt, BitVec.ofInt_natCast]
  rfl

/-- `htons` moves the third byte of a number to where its lowest byte goes. -/
theorem highByte_htons (n : Nat) :
    highByte (htons n) = UInt8.ofNat (n / 65536) ||| UInt8.ofNat n := by
  have hbits : ((BitVec.ofNat 32 n).sshiftRight 8 |||
      ((BitVec.ofNat 32 n &&& 255#32) <<< 8)).extractLsb' 8 8 =
        (BitVec.ofNat 32 n).extractLsb' 16 8 |||
          (BitVec.ofNat 32 n).extractLsb' 0 8 := by
    apply BitVec.eq_of_getLsbD_eq
    intro i hi
    have hmask : (255#32).getLsbD i = true := by
      have hall : forall j, j < 8 -> (255#32).getLsbD j = true := by
        decide
      exact hall i hi
    have hplace : 8 + (8 + i) = 16 + i := by lia
    simp only [BitVec.getLsbD_extractLsb', BitVec.getLsbD_or,
      BitVec.getLsbD_sshiftRight, BitVec.getLsbD_shiftLeft, BitVec.getLsbD_and]
    rw [hplace]
    simp [hi, hmask, show 8 + i < 32 by lia, show 16 + i < 32 by lia,
      show ¬ 32 ≤ 8 + i by lia, show ¬ 8 + i < 8 by lia]
  rw [htons_eq_toInt, highByte_toInt, hbits, UInt8.ofBitVec_or,
    extractLsb'_ofNat (d := 65536) n (by decide) rfl,
    extractLsb'_ofNat (d := 1) n (by decide) rfl, Nat.div_one]

theorem lowByte_htons (n : Nat) :
    lowByte (htons n) = UInt8.ofNat (n / 256) := by
  have hbits : ((BitVec.ofNat 32 n).sshiftRight 8 |||
      ((BitVec.ofNat 32 n &&& 255#32) <<< 8)).extractLsb' 0 8 =
        (BitVec.ofNat 32 n).extractLsb' 8 8 := by
    apply BitVec.eq_of_getLsbD_eq
    intro i hi
    simp only [BitVec.getLsbD_extractLsb', BitVec.getLsbD_or,
      BitVec.getLsbD_sshiftRight, BitVec.getLsbD_shiftLeft, BitVec.getLsbD_and]
    simp [hi, show i < 32 by lia, show 8 + i < 32 by lia]
  rw [htons_eq_toInt, lowByte_toInt, hbits,
    extractLsb'_ofNat (d := 256) n (by decide) rfl]

theorem highByte_htons_of_lt {n : Nat} (hn : n < 65536) :
    highByte (htons n) = UInt8.ofNat n := by
  rw [highByte_htons, Nat.div_eq_of_lt hn]
  exact UInt8.zero_or

theorem setUint16_little (a b : UInt8) (n : Nat) :
    setUint16 [a, b] 0 n true = .ok (counterBytes n) := by
  rw [setUint16, if_pos rfl, lowByte_natCast, highByte_natCast]
  exact typedArraySet_all rfl

theorem setUint16_htons (a b : UInt8) {n : Nat} (hn : n < 65536) :
    setUint16 [a, b] 0 (htons n) false = .ok (counterBytes n) := by
  rw [setUint16, if_neg Bool.false_ne_true, highByte_htons_of_lt hn,
    lowByte_htons]
  exact typedArraySet_all rfl

def counterValue (first second : UInt8) : Nat :=
  first.toNat + 256 * second.toNat

theorem counterValue_lt (first second : UInt8) :
    counterValue first second < 65536 := by
  have hfirst := UInt8.toNat_lt first
  have hsecond := UInt8.toNat_lt second
  unfold counterValue
  lia

theorem getUint16_little (first second : UInt8) :
    getUint16 [first, second] 0 true = .ok (counterValue first second : Int) :=
  rfl

theorem counterBytes_counterValue (first second : UInt8) :
    counterBytes (counterValue first second) = [first, second] := by
  have hfirst := UInt8.toNat_lt first
  have hsecond := UInt8.toNat_lt second
  have hlow : UInt8.ofNat (counterValue first second) = first := by
    apply UInt8.toNat_inj.mp
    rw [UInt8.toNat_ofNat', counterValue, Nat.add_mul_mod_self_left]
    exact Nat.mod_eq_of_lt hfirst
  have hhigh : counterValue first second / 256 = second.toNat := by
    rw [counterValue, Nat.add_mul_div_left _ _ (by lia),
      Nat.div_eq_of_lt hfirst, Nat.zero_add]
  rw [counterBytes, hlow, hhigh, UInt8.ofNat_toNat]

theorem counterValue_counterBytes {n : Nat} (hn : n < 65536) :
    counterValue (UInt8.ofNat n) (UInt8.ofNat (n / 256)) = n := by
  rw [counterValue, UInt8.toNat_ofNat', UInt8.toNat_ofNat',
    Nat.mod_eq_of_lt (show n / 256 < 2 ^ 8 by lia)]
  exact Nat.mod_add_div n 256

end Js
end Fluxnode
