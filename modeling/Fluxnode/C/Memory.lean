import Mathlib.Data.List.Basic
import Mathlib.Tactic.Common
import Mathlib.Algebra.Group.Nat.Defs

/-!
# C memory blocks

The firmware runs on a 32-bit target, so `size_t` is `UInt32` with
its wrap-around.  A block returned by `malloc` has a fixed number of
cells, each undetermined until it is written.  A copy that leaves its source or
its destination has no result.
-/

namespace Fluxnode
namespace C

/-- `size_t` of the target. -/
abbrev SizeT := UInt32

/-- An allocated block; `none` is a byte that was never written. -/
abbrev Block := List (Option UInt8)

/-- `malloc(n)`, with the content undetermined. -/
def malloc (n : SizeT) : Block :=
  List.replicate n.toNat none

/-- The `n` bytes at offset `off`, when they lie inside the buffer. -/
def readBytes (buf : List UInt8) (off n : Nat) : Option (List UInt8) :=
  if off + n ≤ buf.length then
    some ((buf.drop off).take n)
  else
    none

def memcpy (dst : Block) (dstOff : Nat) (src : List UInt8) (srcOff n : Nat) :
    Option Block := do
  let bytes ← readBytes src srcOff n
  if dstOff + n ≤ dst.length then
    some (dst.take dstOff ++ bytes.map some ++ dst.drop (dstOff + n))
  else
    none

/-- `strlen(s)`, when the buffer holds a terminator. -/
def strlen (buf : List UInt8) : Option Nat :=
  buf.findIdx? (· == 0)

/-- The C string at the start of a block, when all of it was written. -/
def cString : Block -> Option (List UInt8)
  | [] => none
  | none :: _ => none
  | some c :: rest =>
      if c = 0 then
        some []
      else
        (cString rest).map (c :: ·)

/-!
## What the operations give when they are in range
-/

theorem readBytes_of_le {buf : List UInt8} {off n : Nat}
    (h : off + n ≤ buf.length) :
    readBytes buf off n = some ((buf.drop off).take n) := by
  rw [readBytes, if_pos h]

theorem length_of_readBytes {buf bytes : List UInt8} {off n : Nat}
    (h : readBytes buf off n = some bytes) :
    off + n ≤ buf.length ∧ bytes.length = n := by
  rw [readBytes, Option.ite_none_right_eq_some, Option.some.injEq] at h
  rcases h with ⟨hin, rfl⟩
  rw [List.length_take, List.length_drop]
  lia

theorem strlen_lt {buf : List UInt8} {n : Nat} (h : strlen buf = some n) :
    n < buf.length := by
  rw [strlen, List.findIdx?_eq_some_iff_findIdx_eq] at h
  exact h.1

theorem memcpy_of_le {dst : Block} {dstOff srcOff n : Nat} {src : List UInt8}
    (hdst : dstOff + n ≤ dst.length) (hsrc : srcOff + n ≤ src.length) :
    memcpy dst dstOff src srcOff n =
      some (dst.take dstOff ++ ((src.drop srcOff).take n).map some ++
        dst.drop (dstOff + n)) := by
  simp [memcpy, readBytes_of_le hsrc, hdst]

theorem cString_terminated {bytes : List UInt8} {rest : Block}
    (hnonzero : (0 : UInt8) ∉ bytes) :
    cString (bytes.map some ++ some 0 :: rest) = some bytes := by
  induction bytes with
  | nil => rfl
  | cons c bytes ih =>
      rw [List.mem_cons, not_or] at hnonzero
      rw [List.map_cons, List.cons_append, cString, ih hnonzero.2,
        if_neg (Ne.symm hnonzero.1)]
      rfl

/-- A copy that does not fit into the destination has no result. -/
theorem memcpy_of_lt {dst : Block} {dstOff srcOff n : Nat} {src : List UInt8}
    (hdst : dst.length < dstOff + n) :
    memcpy dst dstOff src srcOff n = none := by
  cases hsrc : readBytes src srcOff n with
  | none => simp [memcpy, hsrc]
  | some bytes => simp [memcpy, hsrc, Nat.not_le.mpr hdst]

theorem zero_of_memcpy_malloc
    {n : SizeT} {block : Block} {src : List UInt8} {srcOff count : Nat}
    (hcopy : memcpy (malloc n) 0 src srcOff count = some block)
    (hzero : n = 0) : count = 0 := by
  have hfits : ¬ (malloc n).length < 0 + count := by
    intro hlt
    rw [memcpy_of_lt hlt] at hcopy
    cases hcopy
  rw [hzero, malloc, List.length_replicate, UInt32.toNat_zero] at hfits
  lia

/--
A block that has been filled from the front: the written bytes, then
undetermined cells up to `size`.
-/
def filled (written : List UInt8) (size : Nat) : Block :=
  written.map some ++ List.replicate (size - written.length) none

@[simp] theorem filled_nil (n : SizeT) : filled [] n.toNat = malloc n := by
  simp [filled, malloc]

theorem filled_full {written : List UInt8} {size : Nat}
    (h : size = written.length) : filled written size = written.map some := by
  simp [filled, h]

theorem memcpy_filled
    {written src : List UInt8} {size srcOff n : Nat}
    (hsize : written.length + n ≤ size) (hsrc : srcOff + n ≤ src.length) :
    memcpy (filled written size) written.length src srcOff n =
      some (filled (written ++ (src.drop srcOff).take n) size) := by
  have hlen : (filled written size).length = size := by
    simp only [filled, List.length_append, List.length_map,
      List.length_replicate]
    lia
  have htake : ((src.drop srcOff).take n).length = n := by
    rw [List.length_take, List.length_drop]
    lia
  rw [memcpy_of_le (by lia) hsrc]
  simp only [filled, List.map_append, List.length_append, htake,
    List.append_assoc, Option.some.injEq]
  congr 1
  · simp
  congr 1
  simp only [List.drop_append, List.length_map, List.drop_replicate]
  rw [List.drop_eq_nil_of_le (by simp), List.nil_append]
  congr 1
  lia

end C
end Fluxnode
