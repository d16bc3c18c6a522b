import Mathlib.Order.Bounds.Defs
import Mathlib.Order.Defs.PartialOrder
import Mathlib.Tactic.Common

/-!
# Spaced selections

A scan over values in order selects each one that is far from the value it has
selected last.  It selects as many as any choice of values that are far from
each other, when what is far from a value is far from the smaller ones.
-/

namespace Fluxnode
namespace Foundation

section Spaced

variable {α : Type} (far : α -> α -> Prop) [DecidableRel far]

/-- The values that the scan selects behind `last`. -/
def spaced (last : α) : List α -> List α
  | [] => []
  | a :: rest =>
      if far last a then
        a :: spaced a rest
      else
        spaced last rest

variable {far}

theorem spaced_cons_of_far {last a : α} (h : far last a) (rest : List α) :
    spaced far last (a :: rest) = a :: spaced far a rest :=
  if_pos h

theorem spaced_cons_of_not_far {last a : α} (h : ¬ far last a)
    (rest : List α) : spaced far last (a :: rest) = spaced far last rest :=
  if_neg h

theorem spaced_sublist (last : α) (l : List α) :
    (spaced far last l).Sublist l := by
  induction l generalizing last with
  | nil => exact List.Sublist.slnil
  | cons a rest ih =>
      by_cases h : far last a
      · rw [spaced_cons_of_far h]
        exact (ih a).cons_cons a
      · rw [spaced_cons_of_not_far h]
        exact (ih last).cons a

theorem spaced_append (last : α) (l l' : List α) :
    spaced far last (l ++ l') =
      spaced far last l ++
        spaced far ((spaced far last l).getLastD last) l' := by
  induction l generalizing last with
  | nil => rfl
  | cons a rest ih =>
      rw [List.cons_append]
      by_cases h : far last a
      · rw [spaced_cons_of_far h, spaced_cons_of_far h, ih, List.getLastD_cons,
          List.cons_append]
      · rw [spaced_cons_of_not_far h, spaced_cons_of_not_far h, ih]

theorem spaced_eq_nil_iff (last : α) (l : List α) :
    spaced far last l = [] <-> forall a, a ∈ l -> ¬ far last a := by
  induction l with
  | nil => simp [spaced]
  | cons a rest ih =>
      rw [List.forall_mem_cons]
      by_cases h : far last a
      · simp [spaced_cons_of_far h, h]
      · simp [spaced_cons_of_not_far h, h, ih]

theorem spaced_map {β : Type} {near : β -> β -> Prop} [DecidableRel near]
    (f : β -> α) {last : β} {l : List β}
    (h : (last :: l).Pairwise (fun a b => far (f a) (f b) <-> near a b)) :
    spaced far (f last) (l.map f) = (spaced near last l).map f := by
  induction l generalizing last with
  | nil => rfl
  | cons a rest ih =>
      rcases List.pairwise_cons.mp h with ⟨hlast, hrest⟩
      have hiff := hlast a List.mem_cons_self
      rw [List.map_cons]
      by_cases hnear : near last a
      · rw [spaced_cons_of_far (hiff.mpr hnear), spaced_cons_of_far hnear,
          List.map_cons, ih hrest]
      · have hnot : ¬ far (f last) (f a) := fun hfar => hnear (hiff.mp hfar)
        rw [spaced_cons_of_not_far hnot, spaced_cons_of_not_far hnear]
        exact ih (h.sublist ((List.sublist_cons_self a rest).cons_cons last))

/-!
## Values in order
-/

variable [Preorder α]

/-- Smaller values are farther from a value above them, and larger ones farther
from a value below. -/
structure Spacing (far : α -> α -> Prop) : Prop where
  below : forall {a b c}, a ≤ b -> far b c -> far a c
  above : forall {a b c}, far a b -> b ≤ c -> far a c

theorem spaced_pairwise (hfar : Spacing far) {last : α} {l : List α}
    (hsorted : (last :: l).Pairwise (· ≤ ·)) :
    (last :: spaced far last l).Pairwise far := by
  induction l generalizing last with
  | nil => exact List.pairwise_singleton far last
  | cons a rest ih =>
      have hrest := hsorted.of_cons
      by_cases h : far last a
      · rw [spaced_cons_of_far h, List.pairwise_cons]
        constructor
        · intro b hb
          rw [List.mem_cons] at hb
          rcases hb with rfl | hb
          · exact h
          · have hmem := (spaced_sublist a rest).subset hb
            exact hfar.above h (List.rel_of_pairwise_cons hrest hmem)
        · exact ih hrest
      · rw [spaced_cons_of_not_far h]
        exact ih (hsorted.sublist ((List.sublist_cons_self a rest).cons_cons last))

/-- The exchange: a choice whose first value is replaced by a smaller one is
still far from it. -/
theorem length_le_spaced (hfar : Spacing far) {last : α} {l chosen : List α}
    (hsorted : l.Pairwise (· ≤ ·)) (hsub : chosen.Sublist l)
    (hchosen : (last :: chosen).Pairwise far) :
    chosen.length ≤ (spaced far last l).length := by
  induction l generalizing last chosen with
  | nil =>
      rw [List.sublist_nil] at hsub
      rw [hsub]
      exact Nat.le_refl 0
  | cons a rest ih =>
      rw [List.pairwise_cons] at hsorted
      rcases hsorted with ⟨hleast, hrest⟩
      cases chosen with
      | nil => exact Nat.zero_le _
      | cons c chosen =>
          rcases List.pairwise_cons.mp hchosen with ⟨hlast, hpair⟩
          by_cases h : far last a
          · -- `a` takes the place of `c`
            have hle : forall x, x ∈ chosen -> far a x := by
              intro x hx
              have hcx : far c x := List.rel_of_pairwise_cons hpair hx
              rcases List.mem_cons.mp (hsub.subset List.mem_cons_self) with
                rfl | hc
              · exact hcx
              · exact hfar.below (hleast c hc) hcx
            rw [spaced_cons_of_far h, List.length_cons, List.length_cons]
            apply Nat.succ_le_succ
            apply ih hrest hsub.tail
            exact List.pairwise_cons.mpr ⟨hle, (List.pairwise_cons.mp hpair).2⟩
          · -- `a` is not chosen
            have hne : c ≠ a := by
              intro heq
              exact h (heq ▸ hlast c List.mem_cons_self)
            rw [spaced_cons_of_not_far h]
            apply ih hrest _ hchosen
            cases hsub with
            | cons _ hsub => exact hsub
            | cons_cons _ hsub => exact absurd rfl hne

/-- The scan from the first value selects as many as possible. -/
theorem isGreatest_spaced (hfar : Spacing far) {first : α} {rest : List α}
    (hsorted : (first :: rest).Pairwise (· ≤ ·)) :
    IsGreatest
      { n | exists chosen : List α, chosen.Sublist (first :: rest) ∧
        chosen.Pairwise far ∧ chosen.length = n }
      ((spaced far first rest).length + 1) := by
  constructor
  · exists first :: spaced far first rest
    constructor
    · exact (spaced_sublist first rest).cons_cons first
    constructor
    · exact spaced_pairwise hfar hsorted
    · rfl
  · intro n hn
    rcases hn with ⟨chosen, hsub, hpair, rfl⟩
    rw [List.pairwise_cons] at hsorted
    cases chosen with
    | nil => exact Nat.zero_le _
    | cons c chosen =>
        rw [List.length_cons]
        apply Nat.succ_le_succ
        apply length_le_spaced hfar hsorted.2 hsub.tail
        rcases List.pairwise_cons.mp hpair with ⟨hc, hpair⟩
        apply List.pairwise_cons.mpr
        constructor
        · intro x hx
          rcases List.mem_cons.mp (hsub.subset List.mem_cons_self) with
            rfl | hmem
          · exact hc x hx
          · exact hfar.below (hsorted.1 c hmem) (hc x hx)
        · exact hpair

end Spaced

end Foundation
end Fluxnode
