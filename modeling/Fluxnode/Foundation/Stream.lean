import Mathlib.Data.List.Basic
import Mathlib.Tactic.Common

/-!
# Streams cut into pieces

A receiver is a fallible step function that may answer something after each
input.  This module runs such a step over a list of inputs and cuts lists into
pieces of a bounded size.  Nothing here depends on what the inputs mean.
-/

namespace Fluxnode
namespace Foundation

/-!
## Feeding a receiver

The answers are kept one for each input, so a run also shows at which inputs
the receiver stayed silent.
-/

/-- Run a fallible step over the inputs and collect its answers. -/
def feedAll {σ ι ω : Type _} (step : σ -> ι -> Option (σ × ω)) :
    σ -> List ι -> Option (σ × List ω)
  | s, [] => some (s, [])
  | s, i :: rest =>
      match step s i with
      | none => none
      | some (s', out) =>
          match feedAll step s' rest with
          | none => none
          | some (s'', outs) => some (s'', out :: outs)

section FeedAll

variable {σ ι ω : Type _} {step : σ -> ι -> Option (σ × ω)}

@[simp] theorem feedAll_nil (s : σ) :
    feedAll step s [] = some (s, []) := rfl

theorem feedAll_cons_of_some
    {s s' s'' : σ} {i : ι} {rest : List ι} {out : ω} {outs : List ω}
    (hstep : step s i = some (s', out))
    (hrest : feedAll step s' rest = some (s'', outs)) :
    feedAll step s (i :: rest) = some (s'', out :: outs) := by
  simp [feedAll, hstep, hrest]

theorem feedAll_append_of_some
    {s s' s'' : σ} {xs ys : List ι} {outs outs' : List ω}
    (hxs : feedAll step s xs = some (s', outs))
    (hys : feedAll step s' ys = some (s'', outs')) :
    feedAll step s (xs ++ ys) = some (s'', outs ++ outs') := by
  induction xs generalizing s outs with
  | nil =>
      simp only [feedAll_nil, Option.some.injEq, Prod.mk.injEq] at hxs
      rcases hxs with ⟨rfl, rfl⟩
      simpa using hys
  | cons i rest ih =>
      cases hstep : step s i with
      | none =>
          simp [feedAll, hstep] at hxs
      | some mid =>
          rcases mid with ⟨mid, out⟩
          cases hrest : feedAll step mid rest with
          | none =>
              simp [feedAll, hstep, hrest] at hxs
          | some tail =>
              rcases tail with ⟨last, tailOuts⟩
              simp only [feedAll, hstep, hrest, Option.some.injEq,
                Prod.mk.injEq] at hxs
              rcases hxs with ⟨rfl, rfl⟩
              exact feedAll_cons_of_some hstep (ih hrest)

theorem feedAll_append_of_none
    {s : σ} {xs : List ι} (ys : List ι) (hxs : feedAll step s xs = none) :
    feedAll step s (xs ++ ys) = none := by
  induction xs generalizing s with
  | nil => cases hxs
  | cons i rest ih =>
      cases hstep : step s i with
      | none => simp [feedAll, hstep]
      | some mid =>
          rcases mid with ⟨mid, out⟩
          cases hrest : feedAll step mid rest with
          | none => simp [feedAll, hstep, ih hrest]
          | some tail => simp [feedAll, hstep, hrest] at hxs

theorem feedAll_append_none
    {s s' : σ} {xs ys : List ι} {outs : List ω}
    (hxs : feedAll step s xs = some (s', outs))
    (hys : feedAll step s' ys = none) :
    feedAll step s (xs ++ ys) = none := by
  induction xs generalizing s outs with
  | nil =>
      cases hxs
      exact hys
  | cons i rest ih =>
      cases hstep : step s i with
      | none => simp [feedAll, hstep] at hxs
      | some mid =>
          rcases mid with ⟨mid, out⟩
          cases hrest : feedAll step mid rest with
          | none => simp [feedAll, hstep, hrest] at hxs
          | some tail =>
              rcases tail with ⟨last, tailOuts⟩
              simp only [feedAll, hstep, hrest, Option.some.injEq,
                Prod.mk.injEq] at hxs
              rcases hxs with ⟨rfl, rfl⟩
              simp [feedAll, hstep, ih hrest]

/--
If every block takes the home state back to itself, so does their
concatenation, and the answers are those of the blocks in order.
-/
theorem feedAll_flatten_of_home
    {home : σ} {blocks : List (List ι)} {outs : List (List ω)}
    (hblocks : List.Forall₂
      (fun block out => feedAll step home block = some (home, out))
      blocks outs) :
    feedAll step home blocks.flatten = some (home, outs.flatten) := by
  induction hblocks with
  | nil => rfl
  | cons hblock _ ih =>
      simpa using feedAll_append_of_some hblock ih

end FeedAll

/-!
## Cutting a list into pieces

`chunks n xs` are the consecutive pieces of `n` elements of
`xs`; the last one may be shorter.
-/

/-- Consecutive pieces of length `n`, the last one possibly shorter. -/
def chunks {α : Type _} (n : Nat) (xs : List α) : List (List α) :=
  if _h : xs = [] ∨ n = 0 then
    []
  else
    xs.take n :: chunks n (xs.drop n)
termination_by xs.length
decreasing_by
  have hpos : 0 < xs.length := List.length_pos_iff.mpr (by tauto)
  simp only [List.length_drop]
  lia

section Chunks

variable {α : Type _}

@[simp] theorem chunks_nil (n : Nat) : chunks n ([] : List α) = [] := by
  rw [chunks]
  simp

theorem chunks_of_pos {n : Nat} {xs : List α} (hn : 0 < n) (hxs : xs ≠ []) :
    chunks n xs = xs.take n :: chunks n (xs.drop n) := by
  rw [chunks, dif_neg]
  intro hstop
  rcases hstop with hnil | hzero
  · exact hxs hnil
  · lia

theorem chunks_flatten {n : Nat} (hn : 0 < n) (xs : List α) :
    (chunks n xs).flatten = xs := by
  fun_induction chunks n xs with
  | case1 xs hstop =>
      rcases hstop with hnil | hzero
      · rw [hnil, List.flatten_nil]
      · lia
  | case2 xs hgo ih =>
      rw [List.flatten_cons, ih, List.take_append_drop]

theorem ne_nil_of_mem_chunks {n : Nat} {xs piece : List α}
    (hmem : piece ∈ chunks n xs) : piece ≠ [] := by
  fun_induction chunks n xs with
  | case1 xs hstop =>
      cases hmem
  | case2 xs hgo ih =>
      rcases List.mem_cons.mp hmem with rfl | htail
      · rw [Ne, List.take_eq_nil_iff]
        tauto
      · exact ih htail

theorem length_le_of_mem_chunks {n : Nat} {xs piece : List α}
    (hmem : piece ∈ chunks n xs) : piece.length ≤ n := by
  fun_induction chunks n xs with
  | case1 xs hstop => cases hmem
  | case2 xs hgo ih =>
      rcases List.mem_cons.mp hmem with rfl | htail
      · exact List.length_take_le n xs
      · exact ih htail

end Chunks

/-!
## Cutting a list at given lengths
-/

def cut {α : Type _} : List Nat -> List α -> List (List α)
  | [], _ => []
  | n :: ns, xs => xs.take n :: cut ns (xs.drop n)

section Cut

variable {α : Type _}

theorem cut_lengths (pieces : List (List α)) :
    cut (pieces.map List.length) pieces.flatten = pieces := by
  induction pieces with
  | nil => rfl
  | cons piece rest ih =>
      rw [List.map_cons, List.flatten_cons, cut, List.take_left,
        List.drop_left, ih]

theorem cut_cons_append {n : Nat} {ns : List Nat} {xs ys : List α}
    (h : xs.length = n) : cut (n :: ns) (xs ++ ys) = xs :: cut ns ys := by
  rw [cut, List.take_left' h, List.drop_left' h]

end Cut

end Foundation
end Fluxnode
