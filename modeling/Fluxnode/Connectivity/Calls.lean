import Mathlib.Data.List.Induction
import Fluxnode.Connectivity.Steps

/-!
# Call sequences

What holds whenever a call has returned, for a sequence of calls and every order
in which the servers take their steps in between.
-/

namespace Fluxnode
namespace Connectivity

open Foundation

def callsOf : List Action -> List Call
  | [] => []
  | .call c :: rest => c :: callsOf rest
  | .poll :: rest => callsOf rest
  | .server _ _ :: rest => callsOf rest

theorem callsOf_append (as bs : List Action) :
    callsOf (as ++ bs) = callsOf as ++ callsOf bs := by
  induction as with
  | nil => rfl
  | cons a as ih =>
      cases a with
      | call c => simp [callsOf, ih]
      | poll => simp [callsOf, ih]
      | server i e => simp [callsOf, ih]

/-- Some run that makes these calls ends in the state. -/
def After (cs : List Call) (s : State) : Prop :=
  exists as, runAll step as initial = some s ∧ callsOf as = cs

theorem After.start : After [] initial := ⟨[], rfl, rfl⟩

theorem After.run {cs : List Call} {s s' : State} {as : List Action}
    (h : After cs s) (hrun : runAll step as s = some s') :
    After (cs ++ callsOf as) s' := by
  rcases h with ⟨bs, hbs, hcalls⟩
  refine ⟨bs ++ as, runAll_append hbs hrun, ?_⟩
  rw [callsOf_append, hcalls]

theorem After.call {cs : List Call} {c : Call} {s s' : State}
    (h : After cs s) (hcall : callStep c s = some s') :
    After (cs ++ [c]) s' := by
  have hrun : runAll step [.call c] s = some s' := by
    rw [runAll_singleton]
    exact hcall
  exact h.run hrun

theorem After.invariant {inv : State -> Prop} (hinitial : inv initial)
    (hstep : forall a s s', inv s -> step a s = some s' -> inv s')
    {cs : List Call} {s : State} (h : After cs s) : inv s := by
  rcases h with ⟨as, has, _⟩
  exact runAll_invariant hstep hinitial has

/-- The property holds at the start and whenever a call has returned. -/
def HoldsThroughout (P : State -> Prop) (cs : List Call) : Prop :=
  forall before after s, before ++ after = cs -> After before s ->
    s.pc = .idle -> P s

def EachCall (Q : Call -> State -> Prop) (cs : List Call) : Prop :=
  forall before c after s, before ++ c :: after = cs -> After before s ->
    s.pc = .idle -> Q c s

/-!
## Rules
-/

section Rules

variable {Q : Call -> State -> Prop} {inv : State -> Prop}

theorem After.invariant_of_eachCall (hinitial : inv initial)
    (hcall : forall c s s', inv s -> Q c s -> callStep c s = some s' -> inv s')
    (hpoll : forall s s', inv s -> pollStep s = some s' -> inv s')
    (hserver : forall i e s s', inv s -> serverStep i e s = some s' -> inv s')
    {cs before after : List Call} {s : State} (heach : EachCall Q cs)
    (hcs : before ++ after = cs) (h : After before s) : inv s := by
  rcases h with ⟨as, has, rfl⟩
  induction as using List.reverseRecOn generalizing after s with
  | nil =>
      cases has
      exact hinitial
  | append_singleton as a ih =>
      rcases runAll_append_split has with ⟨mid, hmid, hlast⟩
      rw [runAll_singleton] at hlast
      rw [callsOf_append, List.append_assoc] at hcs
      have hinv : inv mid := ih hmid hcs
      cases a with
      | call c =>
          refine hcall c mid s hinv ?_ hlast
          exact heach (callsOf as) c after mid hcs ⟨as, hmid, rfl⟩
            (callStep_pc hlast)
      | poll => exact hpoll mid s hinv hlast
      | server i e => exact hserver i e mid s hinv hlast

theorem holdsThroughout_of_eachCall {P : State -> Prop}
    (hinitial : inv initial)
    (hcall : forall c s s', inv s -> Q c s -> callStep c s = some s' -> inv s')
    (hpoll : forall s s', inv s -> pollStep s = some s' -> inv s')
    (hserver : forall i e s s', inv s -> serverStep i e s = some s' -> inv s')
    (hidle : forall s, inv s -> s.pc = .idle -> P s)
    {cs : List Call} (heach : EachCall Q cs) : HoldsThroughout P cs := by
  intro before after s hcs hafter hpc
  refine hidle s ?_ hpc
  exact hafter.invariant_of_eachCall hinitial hcall hpoll hserver heach hcs

/-- A call that misses its condition has a run on which the property fails. -/
theorem eachCall_of_holdsThroughout {P : State -> Prop}
    (hmiss : forall before c s, After before s -> s.pc = .idle -> P s ->
      ¬ Q c s -> exists s', After (before ++ [c]) s' ∧ s'.pc = .idle ∧ ¬ P s')
    {cs : List Call} (hholds : HoldsThroughout P cs) : EachCall Q cs := by
  intro before c after s hcs hafter hpc
  by_contra hnot
  have hP : P s := hholds before (c :: after) s hcs hafter hpc
  rcases hmiss before c s hafter hpc hP hnot with ⟨s', hafter', hpc', hfails⟩
  refine hfails (hholds (before ++ [c]) after s' ?_ hafter' hpc')
  rw [List.append_assoc]
  exact hcs

end Rules

end Connectivity
end Fluxnode
