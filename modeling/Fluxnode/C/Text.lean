import Fluxnode.C.Memory
import Mathlib.Data.List.TakeWhile

/-!
# Text in buffers

Strings that are copied, printed into a block and read from inside of a buffer.
An access outside of the buffer has no result.
-/

namespace Fluxnode
namespace C

variable {α : Type _}

def store (buf : List α) (i : Nat) (x : α) : Option (List α) :=
  if i < buf.length then some (buf.set i x) else none

/-- The string at `buf + off`, when its terminator is inside the buffer. -/
def stringAt (buf : List UInt8) (off : Nat) : Option (List UInt8) :=
  (strlen (buf.drop off)).map (fun n => (buf.drop off).take n)

def strdup (s : List UInt8) : List UInt8 :=
  s.takeWhile (· != 0) ++ [0]

def sprintf (buf : Block) (text : List UInt8) : Option Block :=
  memcpy buf 0 (text ++ [0]) 0 (text.length + 1)

theorem store_of_split (front back : List α) (x y : α) :
    store (front ++ x :: back) front.length y = some (front ++ y :: back) := by
  rw [store, if_pos (by simp)]
  simp

theorem strlen_terminated {s : List UInt8} (h : 0 ∉ s) (rest : List UInt8) :
    strlen (s ++ 0 :: rest) = some s.length := by
  have hnone : s.findIdx? (· == 0) = none := by
    rw [List.findIdx?_eq_none_iff]
    intro c hc
    rw [beq_eq_false_iff_ne]
    intro hzero
    exact h (hzero ▸ hc)
  rw [strlen, List.findIdx?_append, hnone]
  simp [List.findIdx?_cons]

theorem stringAt_of_split {s : List UInt8} (h : 0 ∉ s)
    (front rest : List UInt8) :
    stringAt (front ++ (s ++ 0 :: rest)) front.length = some s := by
  rw [stringAt, List.drop_left, strlen_terminated h, Option.map_some,
    List.take_left]

theorem strdup_of_nonzero {s : List UInt8} (h : 0 ∉ s) :
    strdup s = s ++ [0] := by
  rw [strdup, List.takeWhile_eq_self_iff.mpr]
  intro c hc
  rw [bne_iff_ne]
  intro hzero
  exact h (hzero ▸ hc)

theorem cString_sprintf {text : List UInt8} (h : 0 ∉ text) {size : SizeT}
    (hfits : text.length < size.toNat) :
    (sprintf (malloc size) text).bind cString = some text := by
  have hdst : 0 + (text.length + 1) ≤ (malloc size).length := by
    rw [malloc, List.length_replicate]
    lia
  have hsrc : 0 + (text.length + 1) ≤ (text ++ [0]).length := by
    simp
  rw [sprintf, memcpy_of_le hdst hsrc, Option.bind_some, List.take_zero,
    List.drop_zero, List.take_of_length_le (by simp), List.map_append,
    List.nil_append, List.append_assoc]
  exact cString_terminated h

end C
end Fluxnode
