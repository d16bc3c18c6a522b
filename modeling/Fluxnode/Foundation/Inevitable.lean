import Mathlib.Data.List.Basic
import Mathlib.Tactic.Common

/-!
# Goals that every run reaches

A goal is inevitable in a state if it holds there, or if some step is possible
and every possible step leads to a state in which it is inevitable.  A rank that
falls with every step shows that it is.
-/

namespace Fluxnode
namespace Foundation

variable {σ ι : Type _} {step : ι -> σ -> Option σ} {goal : σ -> Prop}

inductive Inevitable (step : ι -> σ -> Option σ) (goal : σ -> Prop) :
    σ -> Prop where
  | here {s : σ} (hgoal : goal s) : Inevitable step goal s
  | later {s : σ} (hcan : exists i, (step i s).isSome)
      (hall : forall i s', step i s = some s' -> Inevitable step goal s') :
      Inevitable step goal s

/-- The rule for ranks: until the goal holds, some step is possible, and every
step keeps the invariant and lowers the rank. -/
theorem Inevitable.of_rank {inv : σ -> Prop} (rank : σ -> Nat)
    (hcan : forall s, inv s -> ¬ goal s -> exists i, (step i s).isSome)
    (hstep : forall i s s', inv s -> ¬ goal s -> step i s = some s' ->
      inv s' ∧ rank s' < rank s)
    {s : σ} (hs : inv s) : Inevitable step goal s := by
  induction hrank : rank s using Nat.strongRecOn generalizing s with
  | _ n ih =>
      rcases Classical.em (goal s) with hgoal | hnot
      · exact .here hgoal
      · refine .later (hcan s hs hnot) ?_
        intro i s' hs'
        rcases hstep i s s' hs hnot hs' with ⟨hinv, hlower⟩
        exact ih (rank s') (by lia) hinv rfl

theorem Inevitable.not_of_invariant {inv : σ -> Prop}
    (hgoal : forall s, inv s -> ¬ goal s)
    (hstep : forall i s s', inv s -> step i s = some s' -> inv s')
    {s : σ} (hs : inv s) : ¬ Inevitable step goal s := by
  intro h
  induction h with
  | here hreached => exact hgoal _ hs hreached
  | later hcan _ ih =>
      rcases hcan with ⟨i, hi⟩
      rcases Option.isSome_iff_exists.mp hi with ⟨s', hs'⟩
      exact ih i s' hs' (hstep i _ s' hs hs')

end Foundation
end Fluxnode
