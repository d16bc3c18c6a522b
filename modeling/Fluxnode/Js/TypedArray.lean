import Fluxnode.Js.Slice
import Mathlib.Algebra.Group.Nat.Defs

/-!
# Numbers and byte arrays of JavaScript

Whole numbers are integers.  The bit operators work on their 32-bit
two's-complement values, and a byte array keeps the low eight bits of what is
stored.  A copy that does not fit and a negative length throw a `RangeError`.
-/

namespace Fluxnode
namespace Js

/-- What the modelled library code throws. -/
inductive JsError where
  | rangeError
  deriving DecidableEq, Repr

/-- The content of a `Uint8Array` or an `ArrayBuffer`. -/
abbrev Bytes := List UInt8

/-!
## Bit operators
-/

def toInt32 (x : Int) : BitVec 32 :=
  BitVec.ofInt 32 x

def bitAnd (x y : Int) : Int :=
  (toInt32 x &&& toInt32 y).toInt

def bitOr (x y : Int) : Int :=
  (toInt32 x ||| toInt32 y).toInt

def bitXor (x y : Int) : Int :=
  (toInt32 x ^^^ toInt32 y).toInt

def bitNot (x : Int) : Int :=
  (~~~ toInt32 x).toInt

def shiftLeft (x : Int) (n : Nat) : Int :=
  (toInt32 x <<< n).toInt

def shiftRight (x : Int) (n : Nat) : Int :=
  ((toInt32 x).sshiftRight n).toInt

/-- The element that storing a number leaves. -/
def toUint8 (x : Int) : UInt8 :=
  UInt8.ofBitVec (BitVec.ofInt 8 x)

/-!
## Byte arrays
-/

def newUint8Array (length : Int) : Except JsError Bytes :=
  if length < 0 then
    .error .rangeError
  else
    .ok (List.replicate length.toNat 0)

def typedArraySet (target source : Bytes) (offset : Nat) :
    Except JsError Bytes :=
  if target.length < offset + source.length then
    .error .rangeError
  else
    .ok (target.take offset ++ source ++ target.drop (offset + source.length))

/-- `xs[i] = x`, which does nothing outside the array. -/
def store (xs : Bytes) (i : Nat) (x : Int) : Bytes :=
  xs.set i (toUint8 x)

/-- `xs[i]` as an operand, where undefined counts as zero. -/
def load (xs : Bytes) (i : Nat) : UInt8 :=
  xs.getD i 0

def subarray (xs : Bytes) (start stop : Int) : Bytes :=
  slice xs start stop

/-- A loop that stores `f i` at every index `i` below `n`. -/
def storeEach (xs : Bytes) (n : Nat) (f : Nat -> UInt8) : Bytes :=
  (List.range n).foldl (fun ys i => ys.set i (f i)) xs

/-!
## Access through a `DataView`
-/

def highByte (x : Int) : UInt8 :=
  UInt8.ofBitVec ((BitVec.ofInt 16 x).extractLsb' 8 8)

def lowByte (x : Int) : UInt8 :=
  UInt8.ofBitVec ((BitVec.ofInt 16 x).extractLsb' 0 8)

def setUint16 (view : Bytes) (offset : Nat) (x : Int) (littleEndian : Bool) :
    Except JsError Bytes :=
  if littleEndian then
    typedArraySet view [lowByte x, highByte x] offset
  else
    typedArraySet view [highByte x, lowByte x] offset

def getUint16 (view : Bytes) (offset : Nat) (littleEndian : Bool) :
    Except JsError Int :=
  if view.length < offset + 2 then
    .error .rangeError
  else
    let first := (load view offset).toNat
    let second := (load view (offset + 1)).toNat
    if littleEndian then
      .ok (first + 256 * second : Nat)
    else
      .ok (256 * first + second : Nat)

def littleEndian : Bytes -> Nat
  | [] => 0
  | b :: rest => b.toNat + 256 * littleEndian rest

def getUint32 (view : Bytes) (offset : Nat) : Except JsError Int :=
  if view.length < offset + 4 then
    .error .rangeError
  else
    .ok (littleEndian ((view.drop offset).take 4))

/-!
## What the operations give when they are in range
-/

theorem bitAnd_mask (x : Int) {n : Nat} (hn : n < 32) :
    bitAnd x (2 ^ n - 1 : Nat) = (((toInt32 x).setWidth n).toNat : Int) := by
  have hpow : 2 ^ n ≤ 2 ^ 31 := Nat.pow_le_pow_right (by decide) (by lia)
  have hmask : (toInt32 (2 ^ n - 1 : Nat)).toNat = 2 ^ n - 1 := by
    rw [toInt32, BitVec.ofInt_natCast, BitVec.toNat_ofNat]
    exact Nat.mod_eq_of_lt (by lia)
  have hvalue : (toInt32 x &&& toInt32 (2 ^ n - 1 : Nat)).toNat =
      ((toInt32 x).setWidth n).toNat := by
    rw [BitVec.toNat_and, hmask, Nat.and_two_pow_sub_one_eq_mod,
      BitVec.toNat_setWidth]
  have hlt := ((toInt32 x).setWidth n).isLt
  rw [bitAnd, BitVec.toInt_eq_toNat_of_lt (by lia), hvalue]

theorem toUint8_toNat (b : UInt8) : toUint8 b.toNat = b := by
  apply UInt8.toNat_inj.mp
  rw [toUint8, BitVec.ofInt_natCast, UInt8.toNat_ofBitVec, BitVec.toNat_ofNat]
  exact Nat.mod_eq_of_lt (UInt8.toNat_lt b)

theorem newUint8Array_natCast (n : Nat) :
    newUint8Array n = .ok (List.replicate n 0) := by
  rw [newUint8Array, if_neg (by lia), Int.toNat_natCast]

theorem typedArraySet_of_le {target source : Bytes} {offset : Nat}
    (h : offset + source.length ≤ target.length) :
    typedArraySet target source offset =
      .ok (target.take offset ++ source ++
        target.drop (offset + source.length)) := by
  rw [typedArraySet, if_neg (Nat.not_lt.mpr h)]

theorem typedArraySet_all {target source : Bytes}
    (h : source.length = target.length) :
    typedArraySet target source 0 = .ok source := by
  rw [typedArraySet_of_le (by lia), List.take_zero, List.nil_append,
    Nat.zero_add, List.drop_eq_nil_of_le (by lia), List.append_nil]

theorem typedArraySet_zeros {written source : Bytes} {offset rest : Nat}
    (hoffset : offset = written.length) :
    typedArraySet (written ++ List.replicate (source.length + rest) 0) source
        offset =
      .ok (written ++ source ++ List.replicate rest 0) := by
  rw [hoffset, typedArraySet_of_le (by simp), List.take_left, List.drop_append,
    List.drop_eq_nil_of_le (by lia), List.nil_append, List.drop_replicate]
  congr 3
  lia

theorem typedArraySet_last {written source : Bytes} {offset : Nat}
    (hoffset : offset = written.length) :
    typedArraySet (written ++ List.replicate source.length 0) source offset =
      .ok (written ++ source) := by
  have h : typedArraySet (written ++ List.replicate (source.length + 0) 0)
      source offset = .ok (written ++ source ++ List.replicate 0 0) :=
    typedArraySet_zeros hoffset
  rw [List.replicate_zero, List.append_nil, Nat.add_zero] at h
  exact h

theorem typedArraySet_getElem? {target source result : Bytes} {offset : Nat}
    (h : typedArraySet target source offset = .ok result) (i : Nat) :
    result[i]? =
      if offset ≤ i ∧ i < offset + source.length then source[i - offset]?
      else target[i]? := by
  unfold typedArraySet at h
  split at h
  · cases h
  · cases h
    rw [List.append_assoc, List.getElem?_append, List.getElem?_append,
      List.length_take, List.getElem?_take, List.getElem?_drop]
    grind

theorem length_typedArraySet {target source result : Bytes} {offset : Nat}
    (h : typedArraySet target source offset = .ok result) :
    result.length = target.length := by
  unfold typedArraySet at h
  split at h
  · cases h
  · cases h
    simp only [List.length_append, List.length_take, List.length_drop]
    lia

@[simp] theorem length_store (xs : Bytes) (i : Nat) (x : Int) :
    (store xs i x).length = xs.length :=
  List.length_set

theorem store_same {xs : Bytes} {i : Nat} (hi : i < xs.length) (x : Int) :
    (store xs i x)[i]? = some (toUint8 x) := by
  rw [store, List.getElem?_set_self hi]

theorem store_other {i j : Nat} (hij : i ≠ j) (xs : Bytes) (x : Int) :
    (store xs i x)[j]? = xs[j]? := by
  rw [store, List.getElem?_set_ne hij]

theorem store_zeros {written : Bytes} {offset rest : Nat} (x : Int)
    (hoffset : offset = written.length) :
    store (written ++ List.replicate (rest + 1) 0) offset x =
      written ++ [toUint8 x] ++ List.replicate rest 0 := by
  rw [store, hoffset, List.set_append_right _ _ (Nat.le_refl _), Nat.sub_self,
    List.append_assoc]
  rfl

theorem length_storeEach (xs : Bytes) (n : Nat) (f : Nat -> UInt8) :
    (storeEach xs n f).length = xs.length := by
  induction n with
  | zero => rfl
  | succ n ih =>
      unfold storeEach at ih ⊢
      rw [List.range_succ, List.foldl_append, List.foldl_cons, List.foldl_nil,
        List.length_set, ih]

theorem storeEach_getElem? (xs : Bytes) (n : Nat) (f : Nat -> UInt8) (i : Nat) :
    (storeEach xs n f)[i]? =
      if i < n ∧ i < xs.length then some (f i) else xs[i]? := by
  induction n with
  | zero =>
      rw [if_neg (by lia)]
      rfl
  | succ n ih =>
      have hstep : storeEach xs (n + 1) f = (storeEach xs n f).set n (f n) := by
        unfold storeEach
        rw [List.range_succ, List.foldl_append, List.foldl_cons,
          List.foldl_nil]
      rw [hstep, List.getElem?_set, length_storeEach, ih]
      grind

theorem storeEach_length (xs : Bytes) (f : Nat -> UInt8) :
    storeEach xs xs.length f = (List.range xs.length).map f := by
  apply List.ext_getElem?
  intro i
  rw [storeEach_getElem?, List.getElem?_map]
  rcases Nat.lt_or_ge i xs.length with hi | hi
  · rw [if_pos ⟨hi, hi⟩, List.getElem?_range hi]
    rfl
  · rw [if_neg (by lia), List.getElem?_eq_none hi,
      List.getElem?_eq_none (by simpa using hi)]
    rfl

end Js
end Fluxnode
