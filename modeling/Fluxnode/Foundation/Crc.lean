import Mathlib.Data.List.Basic
import Mathlib.Tactic.Common

/-!
# Cyclic redundancy checks

The register of a CRC of `w` bits takes a message bit by bit, the most
significant bit of the register first and without reflection.  The step is
linear over exclusive or.  From this a group of message bits can be taken at
once: the register moves up by their number, and what moves out of it meets the
bits and contributes the check value of the result.
-/

namespace Fluxnode
namespace Crc

variable {w : Nat}

def crcBit (poly c : BitVec w) (bit : Bool) : BitVec w :=
  if c.msb ^^ bit then (c <<< 1) ^^^ poly else c <<< 1

def crcBits (poly c : BitVec w) (bits : List Bool) : BitVec w :=
  bits.foldl (crcBit poly) c

/-- The first `n` bits that move out of the register. -/
def topBits (n : Nat) (c : BitVec w) : List Bool :=
  (List.range n).map c.getMsbD

theorem crcBits_cons (poly c : BitVec w) (bit : Bool) (rest : List Bool) :
    crcBits poly c (bit :: rest) = crcBits poly (crcBit poly c bit) rest :=
  rfl

theorem crcBits_append (poly c : BitVec w) (front back : List Bool) :
    crcBits poly c (front ++ back) =
      crcBits poly (crcBits poly c front) back :=
  List.foldl_append

@[simp] theorem length_topBits (n : Nat) (c : BitVec w) :
    (topBits n c).length = n := by
  rw [topBits, List.length_map, List.length_range]

/-!
## Linearity
-/

theorem crcBit_xor (poly c d : BitVec w) (a b : Bool) :
    crcBit poly (c ^^^ d) (a ^^ b) = crcBit poly c a ^^^ crcBit poly d b := by
  have hcarry :
      ((c ^^^ d).msb ^^ (a ^^ b)) = ((c.msb ^^ a) ^^ (d.msb ^^ b)) := by
    rw [BitVec.msb_xor, Bool.xor_assoc, Bool.xor_left_comm d.msb,
      ← Bool.xor_assoc c.msb]
  have hcancel : c <<< 1 ^^^ d <<< 1 =
      (c <<< 1 ^^^ poly) ^^^ (d <<< 1 ^^^ poly) := by
    rw [BitVec.xor_assoc, BitVec.xor_comm _ poly, ← BitVec.xor_assoc poly,
      BitVec.xor_self, BitVec.zero_xor]
  unfold crcBit
  rw [hcarry, BitVec.shiftLeft_xor_distrib]
  cases c.msb ^^ a <;> cases d.msb ^^ b
  · rfl
  · exact BitVec.xor_assoc _ _ _
  · show c <<< 1 ^^^ d <<< 1 ^^^ poly = c <<< 1 ^^^ poly ^^^ d <<< 1
    ac_rfl
  · exact hcancel

theorem crcBits_xor (poly : BitVec w) {bits bits' : List Bool}
    (hlength : bits.length = bits'.length) (c d : BitVec w) :
    crcBits poly (c ^^^ d) (List.zipWith xor bits bits') =
      crcBits poly c bits ^^^ crcBits poly d bits' := by
  induction bits generalizing bits' c d with
  | nil =>
      cases bits' with
      | nil => rfl
      | cons b rest => cases hlength
  | cons a rest ih =>
      cases bits' with
      | nil => cases hlength
      | cons b rest' =>
          rw [List.zipWith_cons_cons, crcBits_cons, crcBits_cons, crcBits_cons,
            crcBit_xor]
          exact ih (Nat.succ.inj hlength) _ _

/-!
## Several bits at once
-/

theorem crcBit_msb (poly c : BitVec w) : crcBit poly c c.msb = c <<< 1 := by
  rw [crcBit, Bool.xor_self]
  rfl

theorem topBits_succ (n : Nat) (c : BitVec w) :
    topBits (n + 1) c = c.msb :: topBits n (c <<< 1) := by
  rw [topBits, List.range_succ_eq_map, List.map_cons, List.map_map, topBits]
  congr 1
  apply List.map_congr_left
  intro i _
  simp [BitVec.getMsbD_shiftLeft]

/-- A register that is fed the bits that move out of it only moves. -/
theorem crcBits_topBits (poly : BitVec w) (n : Nat) (c : BitVec w) :
    crcBits poly c (topBits n c) = c <<< n := by
  induction n generalizing c with
  | zero => exact (BitVec.shiftLeft_zero c).symm
  | succ n ih =>
      rw [topBits_succ, crcBits_cons, crcBit_msb, ih, ← BitVec.shiftLeft_add,
        Nat.add_comm]

theorem zipWith_xor_cancel {bits top : List Bool}
    (hlength : bits.length = top.length) :
    List.zipWith xor (List.zipWith xor bits top) top = bits := by
  apply List.ext_getElem
  · simp [hlength]
  · intro i hi hi'
    simp

/-- A group of bits at once: what moves out of the register meets the bits, and
the check value of the result is added to what stays. -/
theorem crcBits_group (poly c : BitVec w) (bits : List Bool) :
    crcBits poly c bits =
      crcBits poly 0 (List.zipWith xor bits (topBits bits.length c)) ^^^
        c <<< bits.length := by
  have hlength : bits.length = (topBits bits.length c).length := by simp
  have hsplit := crcBits_xor poly
    (show (List.zipWith xor bits (topBits bits.length c)).length =
      (topBits bits.length c).length by simp) 0 c
  rw [zipWith_xor_cancel hlength, crcBits_topBits] at hsplit
  rw [← hsplit]
  exact congrArg (fun d => crcBits poly d bits) BitVec.zero_xor.symm

/-!
## A table of check values
-/

def high (n : Nat) (c : BitVec w) : BitVec n :=
  c.extractLsb' (w - n) n

theorem topBits_high {n : Nat} (hn : n ≤ w) (c : BitVec w) :
    topBits n (high n c) = topBits n c := by
  apply List.map_congr_left
  intro i hi
  have hlt : i < n := List.mem_range.mp hi
  have hbit : w - n + (n - 1 - i) = w - 1 - i := by lia
  rw [BitVec.getMsbD_eq_getLsbD, BitVec.getMsbD_eq_getLsbD, high,
    BitVec.getLsbD_extractLsb', hbit]
  simp [hlt, show i < w by lia]
  lia

theorem zipWith_xor_topBits (n : Nat) (c d : BitVec w) :
    List.zipWith xor (topBits n c) (topBits n d) = topBits n (c ^^^ d) := by
  apply List.ext_getElem
  · simp
  · intro i hi hi'
    simp [topBits]

/-- With a table of the check values of all words of `n` bits, a word takes one
look-up. -/
theorem crcBits_table {n : Nat} (hn : n ≤ w) {poly : BitVec w}
    {table : BitVec n -> BitVec w}
    (htable : forall i, table i = crcBits poly 0 (topBits n i))
    (c : BitVec w) (word : BitVec n) :
    crcBits poly c (topBits n word) =
      table (word ^^^ high n c) ^^^ c <<< n := by
  rw [crcBits_group, length_topBits, ← topBits_high hn c, zipWith_xor_topBits,
    htable]

end Crc
end Fluxnode
