import Mathlib.Data.List.Basic
import Mathlib.Tactic.Common

/-!
# Streams of frames

A decoder that takes one frame off the front of a stream is used until nothing
more can be taken off.  Where it undoes an encoder whatever follows, it finds
all the frames of a stream.
-/

namespace Fluxnode
namespace Foundation

variable {α β γ : Type _} (decode : List β -> Option (α × List β))

/-- The frames in front, at most so many, and what is left. -/
def decodeFrames : Nat -> List β -> List α × List β
  | 0, bytes => ([], bytes)
  | n + 1, bytes =>
      match decode bytes with
      | none => ([], bytes)
      | some (a, rest) =>
          let (frames, left) := decodeFrames n rest
          (a :: frames, left)

/-- A frame takes a byte at least, so no more than `bytes.length` can come. -/
def decodeStream (bytes : List β) : List α × List β :=
  decodeFrames decode bytes.length bytes

variable {decode} {encode : γ -> List β} {value : γ -> α}

theorem decodeFrames_flatMap {cs : List γ} {tail : List β} {n : Nat}
    (hframe : forall c, c ∈ cs -> forall rest,
      decode (encode c ++ rest) = some (value c, rest))
    (htail : decode tail = none) (hn : cs.length ≤ n) :
    decodeFrames decode n (cs.flatMap encode ++ tail) =
      (cs.map value, tail) := by
  induction cs generalizing n with
  | nil =>
      cases n with
      | zero => rfl
      | succ n => simp [decodeFrames, htail]
  | cons c rest ih =>
      cases n with
      | zero => exact absurd hn (Nat.not_succ_le_zero _)
      | succ n =>
          have hfirst := hframe c List.mem_cons_self
            (rest.flatMap encode ++ tail)
          have hrest := ih
            (fun c' hc' => hframe c' (List.mem_cons_of_mem c hc'))
            (Nat.le_of_succ_le_succ hn)
          rw [List.flatMap_cons, List.append_assoc, decodeFrames, hfirst]
          dsimp only
          rw [hrest]
          rfl

theorem length_le_flatMap {cs : List γ}
    (hne : forall c, c ∈ cs -> encode c ≠ []) :
    cs.length ≤ (cs.flatMap encode).length := by
  induction cs with
  | nil => exact Nat.le_refl _
  | cons c rest ih =>
      have hfirst := List.length_pos_iff.mpr (hne c List.mem_cons_self)
      have hrest := ih (fun c' hc' => hne c' (List.mem_cons_of_mem c hc'))
      rw [List.flatMap_cons, List.length_append, List.length_cons]
      lia

theorem decodeStream_flatMap {cs : List γ} {tail : List β}
    (hframe : forall c, c ∈ cs -> forall rest,
      decode (encode c ++ rest) = some (value c, rest))
    (hne : forall c, c ∈ cs -> encode c ≠ []) (htail : decode tail = none) :
    decodeStream decode (cs.flatMap encode ++ tail) = (cs.map value, tail) := by
  apply decodeFrames_flatMap hframe htail
  have hle := length_le_flatMap hne
  rw [List.length_append]
  lia

end Foundation
end Fluxnode
