import Mathlib.Data.List.Basic
import Mathlib.Tactic.Common

/-!
# Runs of a transition function

A system is a partial step function over its actions: an action that is not
possible in a state has no result.  An invariant is shown once for the start
and once for a step.
-/

namespace Fluxnode
namespace Foundation

variable {σ ι : Type _} {step : ι -> σ -> Option σ}

def runAll (step : ι -> σ -> Option σ) : List ι -> σ -> Option σ
  | [], s => some s
  | i :: rest, s =>
      match step i s with
      | none => none
      | some s' => runAll step rest s'

/-- A state that some run from a start state ends in. -/
def Reachable (step : ι -> σ -> Option σ) (start : σ -> Prop) (s : σ) :
    Prop :=
  exists s₀ is, start s₀ ∧ runAll step is s₀ = some s

theorem runAll_cons {i : ι} {is : List ι} {s s' : σ}
    (h : runAll step (i :: is) s = some s') :
    exists mid, step i s = some mid ∧ runAll step is mid = some s' := by
  cases hstep : step i s with
  | none => simp [runAll, hstep] at h
  | some mid =>
      refine ⟨mid, rfl, ?_⟩
      simpa [runAll, hstep] using h

theorem runAll_append {is js : List ι} {s mid s' : σ}
    (his : runAll step is s = some mid)
    (hjs : runAll step js mid = some s') :
    runAll step (is ++ js) s = some s' := by
  induction is generalizing s with
  | nil =>
      cases his
      exact hjs
  | cons i is ih =>
      rcases runAll_cons his with ⟨next, hnext, hrest⟩
      simp only [List.cons_append, runAll, hnext]
      exact ih hrest

theorem runAll_append_split {is js : List ι} {s s' : σ}
    (h : runAll step (is ++ js) s = some s') :
    exists mid, runAll step is s = some mid ∧ runAll step js mid = some s' := by
  induction is generalizing s with
  | nil => exact ⟨s, rfl, h⟩
  | cons i is ih =>
      rw [List.cons_append] at h
      rcases runAll_cons h with ⟨next, hnext, hrest⟩
      rcases ih hrest with ⟨mid, hmid, hjs⟩
      refine ⟨mid, ?_, hjs⟩
      simp only [runAll, hnext, hmid]

theorem runAll_singleton {i : ι} {s : σ} :
    runAll step [i] s = step i s := by
  cases hstep : step i s <;> simp [runAll, hstep]

def Leads (step : ι -> σ -> Option σ) (s s' : σ) : Prop :=
  exists is, runAll step is s = some s'

theorem Leads.refl (s : σ) : Leads step s s :=
  ⟨[], rfl⟩

theorem Leads.trans {s mid s' : σ} (h : Leads step s mid)
    (hrest : Leads step mid s') : Leads step s s' := by
  rcases h with ⟨is, his⟩
  rcases hrest with ⟨js, hjs⟩
  exact ⟨is ++ js, runAll_append his hjs⟩

theorem Leads.head {i : ι} {s mid s' : σ} (h : step i s = some mid)
    (hrest : Leads step mid s') : Leads step s s' :=
  Leads.trans ⟨[i], runAll_singleton.trans h⟩ hrest

/-- A run that lowers a rank until its goal holds. -/
theorem exists_runAll_of_rank {inv goal : σ -> Prop} (rank : σ -> Nat)
    (hstep : forall s, inv s -> ¬ goal s ->
      exists i s', step i s = some s' ∧ inv s' ∧ rank s' < rank s)
    {s : σ} (hs : inv s) :
    exists is s', runAll step is s = some s' ∧ inv s' ∧ goal s' := by
  induction hrank : rank s using Nat.strongRecOn generalizing s with
  | _ n ih =>
      rcases Classical.em (goal s) with hgoal | hnot
      · exact ⟨[], s, rfl, hs, hgoal⟩
      · rcases hstep s hs hnot with ⟨i, mid, hi, hmid, hlower⟩
        rcases ih (rank mid) (by lia) hmid rfl with
          ⟨is, s', his, hinv, hgoal⟩
        refine ⟨i :: is, s', ?_, hinv, hgoal⟩
        simp only [runAll, hi, his]

theorem runAll_invariant {inv : σ -> Prop}
    (hstep : forall i s s', inv s -> step i s = some s' -> inv s')
    {is : List ι} {s s' : σ} (hs : inv s)
    (h : runAll step is s = some s') : inv s' := by
  induction is generalizing s with
  | nil =>
      cases h
      exact hs
  | cons i is ih =>
      rcases runAll_cons h with ⟨mid, hmid, hrest⟩
      exact ih (hstep i s mid hs hmid) hrest

theorem exists_runAll {inv : σ -> Prop}
    (hstep : forall i s, inv s -> exists s', step i s = some s' ∧ inv s')
    (is : List ι) {s : σ} (hs : inv s) :
    exists s', runAll step is s = some s' ∧ inv s' := by
  induction is generalizing s with
  | nil => exact ⟨s, rfl, hs⟩
  | cons i is ih =>
      rcases hstep i s hs with ⟨mid, hmid, hinv⟩
      simp only [runAll, hmid]
      exact ih hinv

/-- Every action of a run is taken in a state that meets a condition. -/
def EveryStep (step : ι -> σ -> Option σ) (cond : ι -> σ -> Prop) :
    List ι -> σ -> Prop
  | [], _ => True
  | i :: rest, s =>
      cond i s ∧ forall s', step i s = some s' -> EveryStep step cond rest s'

theorem EveryStep.of_forall {cond : ι -> σ -> Prop} {is : List ι}
    (h : forall i, i ∈ is -> forall s, cond i s) (s : σ) :
    EveryStep step cond is s := by
  induction is generalizing s with
  | nil => trivial
  | cons i is ih =>
      exact ⟨h i (.head is) s, fun s' _ =>
        ih (fun j hj => h j (.tail i hj)) s'⟩

theorem EveryStep.mono {cond cond' : ι -> σ -> Prop}
    (himp : forall i s, cond i s -> cond' i s) {is : List ι} {s : σ}
    (h : EveryStep step cond is s) : EveryStep step cond' is s := by
  induction is generalizing s with
  | nil => trivial
  | cons i is ih =>
      exact ⟨himp i s h.1, fun s' hs' => ih (h.2 s' hs')⟩

theorem EveryStep.congr {cond cond' : ι -> σ -> Prop}
    (h : forall i s s', step i s = some s' -> (cond i s ↔ cond' i s))
    {is : List ι} {s s' : σ} (hrun : runAll step is s = some s') :
    EveryStep step cond is s ↔ EveryStep step cond' is s := by
  induction is generalizing s with
  | nil => exact Iff.rfl
  | cons i is ih =>
      rcases runAll_cons hrun with ⟨mid, hmid, hrest⟩
      have hrec := ih hrest
      simp only [EveryStep, hmid, Option.some.injEq, forall_eq', h i s mid hmid,
        hrec]

theorem EveryStep.congr_of_invariant {cond cond' : ι -> σ -> Prop}
    {inv : σ -> Prop}
    (hstep : forall i s s', inv s -> step i s = some s' -> inv s')
    (h : forall i s, inv s -> (cond i s ↔ cond' i s)) {is : List ι} {s : σ}
    (hs : inv s) : EveryStep step cond is s ↔ EveryStep step cond' is s := by
  induction is generalizing s with
  | nil => exact Iff.rfl
  | cons i is ih =>
      apply and_congr (h i s hs)
      apply forall_congr'
      intro s'
      exact imp_congr_right (fun hs' => ih (hstep i s s' hs hs'))

instance EveryStep.decidable (step : ι -> σ -> Option σ) (cond : ι -> σ -> Prop)
    [forall i s, Decidable (cond i s)] :
    forall is s, Decidable (EveryStep step cond is s)
  | [], _ => isTrue trivial
  | i :: rest, s =>
      match hstep : step i s with
      | none =>
          decidable_of_iff (cond i s) (by simp [EveryStep, hstep])
      | some s' =>
          have : Decidable (EveryStep step cond rest s') :=
            EveryStep.decidable step cond rest s'
          decidable_of_iff (cond i s ∧ EveryStep step cond rest s')
            (by simp [EveryStep, hstep])

theorem EveryStep.invariant {cond : ι -> σ -> Prop} {inv : σ -> Prop}
    (hstep : forall i s s', inv s -> cond i s -> step i s = some s' -> inv s')
    {is : List ι} {s s' : σ} (hcond : EveryStep step cond is s) (hs : inv s)
    (h : runAll step is s = some s') : inv s' := by
  induction is generalizing s with
  | nil =>
      cases h
      exact hs
  | cons i is ih =>
      rcases runAll_cons h with ⟨mid, hmid, hrest⟩
      exact ih (hcond.2 mid hmid) (hstep i s mid hs hcond.1 hmid) hrest

theorem EveryStep.imp_of_invariant {cond cond' : ι -> σ -> Prop}
    {inv : σ -> Prop}
    (hstep : forall i s s', inv s -> cond i s -> step i s = some s' -> inv s')
    (himp : forall i s, inv s -> cond i s -> cond' i s) {is : List ι} {s : σ}
    (h : EveryStep step cond is s) (hs : inv s) :
    EveryStep step cond' is s := by
  induction is generalizing s with
  | nil => trivial
  | cons i is ih =>
      constructor
      · exact himp i s hs h.1
      · intro s' hs'
        exact ih (h.2 s' hs') (hstep i s s' hs h.1 hs')

/-- What a step keeps exactly under the condition holds in all states of a run
exactly when all of its steps meet the condition. -/
theorem EveryStep.throughout_iff {cond : ι -> σ -> Prop}
    {inv good : σ -> Prop} (hgood : forall s, inv s -> good s)
    (hkeep : forall i s s', inv s -> cond i s -> step i s = some s' -> inv s')
    (hbreak : forall i s s', inv s -> ¬ cond i s -> step i s = some s' ->
      ¬ good s')
    {is : List ι} {s s' : σ} (hs : inv s)
    (hrun : runAll step is s = some s') :
    (forall n mid, runAll step (is.take n) s = some mid -> good mid) ↔
      EveryStep step cond is s := by
  induction is generalizing s with
  | nil =>
      constructor
      · intro _
        trivial
      · intro _ n mid hmid
        rw [List.take_nil] at hmid
        cases hmid
        exact hgood s hs
  | cons i is ih =>
      rcases runAll_cons hrun with ⟨next, hnext, hrest⟩
      constructor
      · intro h
        have hcond : cond i s := by
          by_contra hnot
          apply hbreak i s next hs hnot hnext
          apply h 1
          rw [List.take_succ_cons, List.take_zero, runAll_singleton]
          exact hnext
        refine ⟨hcond, ?_⟩
        intro next' hnext'
        rw [hnext] at hnext'
        cases hnext'
        apply (ih (hkeep i s next hs hcond hnext) hrest).mp
        intro n mid hmid
        apply h (n + 1)
        rw [List.take_succ_cons, runAll, hnext]
        exact hmid
      · intro h n mid hmid
        cases n with
        | zero =>
            cases hmid
            exact hgood s hs
        | succ n =>
            have hinv := hkeep i s next hs h.1 hnext
            apply (ih hinv hrest).mpr (h.2 next hnext) n
            rw [List.take_succ_cons, runAll, hnext] at hmid
            exact hmid

/-- The rule for invariants of reachable states. -/
theorem Reachable.invariant {start inv : σ -> Prop}
    (hstart : forall s, start s -> inv s)
    (hstep : forall i s s', inv s -> step i s = some s' -> inv s')
    {s : σ} (h : Reachable step start s) : inv s := by
  rcases h with ⟨s₀, is, hs₀, hrun⟩
  exact runAll_invariant hstep (hstart s₀ hs₀) hrun

theorem Reachable.tail {start : σ -> Prop} {s s' : σ} {i : ι}
    (h : Reachable step start s) (hstep : step i s = some s') :
    Reachable step start s' := by
  rcases h with ⟨s₀, is, hs₀, his⟩
  exact ⟨s₀, is ++ [i], hs₀, runAll_append his (runAll_singleton.trans hstep)⟩

end Foundation
end Fluxnode
