import Mathlib.Data.UInt
import Mathlib.Logic.Function.Basic
import Mathlib.Tactic.Common

/-!
# Bit fields in registers

A register holds several fields, each under a mask of its own, and a field is
written by reading the register, changing the bits under the mask and writing it
back.  A register file in which some fields have been written is the old one
under an overlay of the values.
-/

namespace Fluxnode
namespace Foundation
namespace BitField

/-- The register with the bits under the mask taken from a value. -/
def splice (mask value reg : UInt8) : UInt8 :=
  (reg &&& ~~~mask) ||| (value &&& mask)

theorem toBitVec_splice (mask value reg : UInt8) :
    (splice mask value reg).toBitVec =
      (reg.toBitVec &&& ~~~mask.toBitVec) |||
        (value.toBitVec &&& mask.toBitVec) := rfl

theorem eq_of_bits {a b : UInt8}
    (h : forall i : Nat, i < 8 ->
      a.toBitVec.getLsbD i = b.toBitVec.getLsbD i) : a = b := by
  apply UInt8.eq_of_toBitVec_eq
  exact BitVec.eq_of_getLsbD_eq h

theorem bit_of_disjoint {m m' : UInt8} (h : m &&& m' = 0) (i : Nat) :
    (m.toBitVec.getLsbD i && m'.toBitVec.getLsbD i) = false := by
  have hbit := congrArg (fun x : UInt8 => x.toBitVec.getLsbD i) h
  simpa using hbit

theorem splice_insert (m v w r : UInt8) :
    splice m v (splice m w r) = splice m v r := by
  apply eq_of_bits
  intro i hi
  simp only [toBitVec_splice, BitVec.getLsbD_or, BitVec.getLsbD_and,
    BitVec.getLsbD_not]
  cases m.toBitVec.getLsbD i <;> simp

theorem splice_comm {m m' : UInt8} (h : m &&& m' = 0) (v w r : UInt8) :
    splice m v (splice m' w r) = splice m' w (splice m v r) := by
  apply eq_of_bits
  intro i hi
  have hbit := bit_of_disjoint h i
  simp only [toBitVec_splice, BitVec.getLsbD_or, BitVec.getLsbD_and,
    BitVec.getLsbD_not]
  cases hm : m.toBitVec.getLsbD i <;> cases hm' : m'.toBitVec.getLsbD i <;>
    simp_all

theorem splice_and (m v r : UInt8) : splice m v r &&& m = v &&& m := by
  apply eq_of_bits
  intro i hi
  simp only [UInt8.toBitVec_and, toBitVec_splice, BitVec.getLsbD_or,
    BitVec.getLsbD_and, BitVec.getLsbD_not]
  cases m.toBitVec.getLsbD i <;> simp

theorem splice_and_of_disjoint {m m' : UInt8} (h : m &&& m' = 0)
    (v r : UInt8) : splice m v r &&& m' = r &&& m' := by
  apply eq_of_bits
  intro i hi
  have hbit := bit_of_disjoint h i
  simp only [UInt8.toBitVec_and, toBitVec_splice, BitVec.getLsbD_or,
    BitVec.getLsbD_and, BitVec.getLsbD_not]
  cases hm : m.toBitVec.getLsbD i <;> cases hm' : m'.toBitVec.getLsbD i <;>
    simp_all

theorem splice_all (v r : UInt8) : splice 0xff v r = v := by
  apply eq_of_bits
  intro i hi
  have hmask : (0xff : UInt8).toBitVec.getLsbD i = true := by
    change (BitVec.allOnes 8).getLsbD i = true
    rw [BitVec.getLsbD_allOnes]
    exact decide_eq_true hi
  simp only [toBitVec_splice, BitVec.getLsbD_or, BitVec.getLsbD_and,
    BitVec.getLsbD_not, hmask]
  simp

theorem splice_of_inside {m v : UInt8} (h : v &&& m = v) (r : UInt8) :
    splice m v r = (r &&& ~~~m) ||| v := by
  rw [splice, h]

theorem splice_zero (m r : UInt8) : splice m 0 r = r &&& ~~~m := by
  rw [splice, UInt8.zero_and, UInt8.or_zero]

theorem splice_self (m r : UInt8) : splice m m r = r ||| m := by
  apply eq_of_bits
  intro i hi
  simp only [UInt8.toBitVec_or, toBitVec_splice, BitVec.getLsbD_or,
    BitVec.getLsbD_and, BitVec.getLsbD_not]
  cases m.toBitVec.getLsbD i <;> simp [hi]

theorem splice_of_agree {m v r : UInt8} (h : r &&& m = v &&& m) :
    splice m v r = r := by
  rw [splice, ← h]
  apply eq_of_bits
  intro i hi
  simp only [UInt8.toBitVec_or, UInt8.toBitVec_and, UInt8.toBitVec_not,
    BitVec.getLsbD_or, BitVec.getLsbD_and, BitVec.getLsbD_not]
  cases m.toBitVec.getLsbD i <;> simp [hi]

/-!
## Register files
-/

structure Layout (F R : Type) where
  fields : List F
  reg : F -> R
  mask : F -> UInt8
  nodup : fields.Nodup
  complete : forall f, f ∈ fields
  disjoint : forall f g, f ≠ g -> reg f = reg g -> mask f &&& mask g = 0

namespace Layout

variable {F R : Type} [DecidableEq F] [DecidableEq R] (layout : Layout F R)

def place (f : F) (value : Option UInt8) (r : R) (old : UInt8) : UInt8 :=
  match value with
  | none => old
  | some x => if layout.reg f = r then splice (layout.mask f) x old else old

/-- The register file with the values of some fields. -/
def overlay (value : F -> Option UInt8) (regs : R -> UInt8) : R -> UInt8 :=
  fun r => layout.fields.foldr (fun f old => layout.place f (value f) r old)
    (regs r)

def write (f : F) (x : UInt8) (regs : R -> UInt8) : R -> UInt8 :=
  Function.update regs (layout.reg f)
    (splice (layout.mask f) x (regs (layout.reg f)))

variable {layout}

omit [DecidableEq F] in
theorem place_place {f : F} {x : UInt8} {value : Option UInt8} {r : R}
    {old : UInt8} :
    layout.place f (some x) r (layout.place f value r old) =
      layout.place f (some x) r old := by
  cases value with
  | none => rfl
  | some y =>
      simp only [place]
      split
      · exact splice_insert _ _ _ _
      · rfl

omit [DecidableEq F] in
theorem place_comm {f g : F} (h : f ≠ g) {x : UInt8} {value : Option UInt8}
    {r : R} {old : UInt8} :
    layout.place g value r (layout.place f (some x) r old) =
      layout.place f (some x) r (layout.place g value r old) := by
  cases value with
  | none => rfl
  | some y =>
      simp only [place]
      split
      · split
        · rename_i hg hf
          exact splice_comm (layout.disjoint g f (Ne.symm h)
            (hg.trans hf.symm)) _ _ _
        · rfl
      · rfl

theorem foldr_place_absent {f : F} {x : UInt8} {value : F -> Option UInt8}
    {r : R} {old : UInt8} {fs : List F} (hf : f ∉ fs) :
    fs.foldr (fun g old =>
        layout.place g (Function.update value f (some x) g) r old) old =
      fs.foldr (fun g old => layout.place g (value g) r old) old := by
  apply List.foldr_ext
  intro g hg acc
  have hne : g ≠ f := fun heq => hf (heq ▸ hg)
  rw [Function.update_of_ne hne]

theorem foldr_place_update {f : F} {x : UInt8} {value : F -> Option UInt8}
    {r : R} {old : UInt8} {fs : List F} (hf : f ∈ fs) (hnodup : fs.Nodup) :
    fs.foldr (fun g old =>
        layout.place g (Function.update value f (some x) g) r old) old =
      layout.place f (some x) r
        (fs.foldr (fun g old => layout.place g (value g) r old) old) := by
  induction fs with
  | nil => cases hf
  | cons g fs ih =>
      rw [List.nodup_cons] at hnodup
      simp only [List.foldr_cons]
      rcases List.mem_cons.mp hf with heq | hrest
      · subst g
        rw [foldr_place_absent hnodup.1, Function.update_self, place_place]
      · have hne : g ≠ f := fun heq => hnodup.1 (heq ▸ hrest)
        rw [ih hrest hnodup.2, Function.update_of_ne hne,
          place_comm (Ne.symm hne)]

theorem overlay_update (f : F) (x : UInt8) (value : F -> Option UInt8)
    (regs : R -> UInt8) :
    layout.overlay (Function.update value f (some x)) regs =
      layout.write f x (layout.overlay value regs) := by
  funext r
  rw [overlay, foldr_place_update (layout.complete f) layout.nodup, write,
    Function.update_apply]
  rcases eq_or_ne r (layout.reg f) with heq | hne
  · subst r
    simp [place, overlay]
  · simp [place, overlay, hne, Ne.symm hne]

omit [DecidableEq F] in
theorem place_and_of_ne {f g : F} (h : g ≠ f) (value : Option UInt8)
    (old : UInt8) :
    layout.place g value (layout.reg f) old &&& layout.mask f =
      old &&& layout.mask f := by
  cases value with
  | none => rfl
  | some y =>
      simp only [place]
      split
      · rename_i hreg
        exact splice_and_of_disjoint (layout.disjoint g f h hreg) _ _
      · rfl

omit [DecidableEq F] in
theorem foldr_place_and {f : F} {value : F -> Option UInt8}
    (h : value f = none) (old : UInt8) (fs : List F) :
    fs.foldr (fun g old => layout.place g (value g) (layout.reg f) old) old &&&
        layout.mask f =
      old &&& layout.mask f := by
  induction fs with
  | nil => rfl
  | cons g fs ih =>
      rw [List.foldr_cons]
      rcases eq_or_ne g f with heq | hne
      · subst g
        rw [h]
        exact ih
      · rw [place_and_of_ne hne]
        exact ih

/-- A field holds the value it was given, or else what it held before. -/
theorem overlay_and (f : F) (value : F -> Option UInt8) (regs : R -> UInt8) :
    layout.overlay value regs (layout.reg f) &&& layout.mask f =
      (value f).getD (regs (layout.reg f)) &&& layout.mask f := by
  cases h : value f with
  | none => exact foldr_place_and h _ _
  | some x =>
      have hvalue : Function.update value f (some x) = value := by
        rw [← h, Function.update_eq_self]
      rw [← hvalue, overlay_update, write, Function.update_self, splice_and]
      rfl

omit [DecidableEq F] in
theorem overlay_congr {value : F -> Option UInt8} {regs regs' : R -> UInt8}
    {r : R} (h : regs r = regs' r) :
    layout.overlay value regs r = layout.overlay value regs' r := by
  rw [overlay, overlay, h]

omit [DecidableEq F] in
theorem overlay_of_ne {value : F -> Option UInt8} {regs : R -> UInt8} {r : R}
    (h : forall f, layout.reg f ≠ r) :
    layout.overlay value regs r = regs r := by
  simp only [overlay]
  induction layout.fields with
  | nil => rfl
  | cons f fs ih =>
      rw [List.foldr_cons, ih]
      cases hvalue : value f with
      | none => rfl
      | some x => simp [place, h f]

omit [DecidableEq F] in
@[simp] theorem overlay_none (regs : R -> UInt8) :
    layout.overlay (fun _ => none) regs = regs := by
  funext r
  simp only [overlay, place]
  induction layout.fields with
  | nil => rfl
  | cons f fs ih => exact ih

end Layout

end BitField
end Foundation
end Fluxnode
