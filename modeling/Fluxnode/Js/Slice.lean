import Mathlib.Data.List.Basic
import Mathlib.Tactic.Common

/-!
# `Array.prototype.slice`

A negative index counts from the end of the array, and every index is clamped
to the array's bounds.
-/

namespace Fluxnode
namespace Js

/-- The position a `slice` argument denotes in an array of length `len`. -/
def sliceIndex (len : Nat) (i : Int) : Nat :=
  if i < 0 then (len + i).toNat else min i.toNat len

def slice {α : Type _} (xs : List α) (start stop : Int) : List α :=
  (xs.take (sliceIndex xs.length stop)).drop (sliceIndex xs.length start)

variable {α : Type _}

@[simp] theorem sliceIndex_natCast (len i : Nat) :
    sliceIndex len (i : Int) = min i len := by
  rw [sliceIndex, if_neg (by lia), Int.toNat_natCast]

theorem slice_subset (xs : List α) (start stop : Int) :
    slice xs start stop ⊆ xs := by
  intro x hx
  exact List.mem_of_mem_take (List.mem_of_mem_drop hx)

theorem slice_of_le {xs : List α} {start stop : Nat}
    (hstart : start ≤ xs.length) (hstop : stop ≤ xs.length) :
    slice xs start stop = (xs.take stop).drop start := by
  rw [slice, sliceIndex_natCast, sliceIndex_natCast, Nat.min_eq_left hstart,
    Nat.min_eq_left hstop]

theorem slice_zero_of_le {xs : List α} {i : Nat} (hi : i ≤ xs.length) :
    slice xs 0 i = xs.take i := by
  have hstart : sliceIndex xs.length 0 = 0 := by
    simpa using sliceIndex_natCast xs.length 0
  rw [slice, hstart, List.drop_zero, sliceIndex_natCast, Nat.min_eq_left hi]

theorem slice_length_of_le {xs : List α} {i : Nat} (hi : i ≤ xs.length) :
    slice xs i xs.length = xs.drop i := by
  rw [slice, sliceIndex_natCast, sliceIndex_natCast, Nat.min_self,
    List.take_length, Nat.min_eq_left hi]

end Js
end Fluxnode
