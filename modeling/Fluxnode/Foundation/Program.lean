import Mathlib.Logic.Relation
import Mathlib.Tactic.Common

/-!
# Programs and interference

A program performs operations one after the other, and what it does next may
depend on their answers.  The same program can run alone or in steps, while
others change the state between any two of its operations.  The rules for the
second case carry an assertion that the others keep from operation to operation.
-/

namespace Fluxnode
namespace Foundation

/-- A program over operations `Op` with their answers. -/
inductive Program {Op : Type} (Answer : Op -> Type) (α : Type) : Type where
  | done (a : α)
  | perform (o : Op) (next : Answer o -> Program Answer α)

namespace Program

variable {Op : Type} {Answer : Op -> Type} {α β σ : Type}

def bind : Program Answer α -> (α -> Program Answer β) -> Program Answer β
  | .done a, f => f a
  | .perform o next, f => .perform o (fun b => (next b).bind f)

instance : Monad (Program Answer) where
  pure := done
  bind := bind

def op (o : Op) : Program Answer (Answer o) :=
  .perform o .done

def next? : Program Answer α -> Option Op
  | .done _ => none
  | .perform o _ => some o

theorem next?_eq_some {p : Program Answer α} {o : Op}
    (h : p.next? = some o) : exists next, p = .perform o next := by
  cases p with
  | done a => cases h
  | perform o' next =>
      cases h
      exact ⟨next, rfl⟩

@[simp] theorem pure_eq (a : α) : (pure a : Program Answer α) = .done a := rfl

@[simp] theorem bind_eq (p : Program Answer α) (f : α -> Program Answer β) :
    p >>= f = p.bind f := rfl

@[simp] theorem perform_bind (o : Op) (next : Answer o -> Program Answer α)
    (f : α -> Program Answer β) :
    (perform o next).bind f = perform o (fun b => (next b).bind f) := rfl

theorem bind_assoc {γ : Type} (p : Program Answer α)
    (f : α -> Program Answer β) (g : β -> Program Answer γ) :
    (p.bind f).bind g = p.bind (fun a => (f a).bind g) := by
  induction p with
  | done a => rfl
  | perform o next ih =>
      simp only [perform_bind, ih]

@[simp] theorem op_bind (o : Op) (f : Answer o -> Program Answer β) :
    (op o).bind f = perform o f := rfl

/-!
## Programs that run alone
-/

section Run

variable (exec : (o : Op) -> σ -> Option (σ × Answer o))

def run : Program Answer α -> σ -> Option (σ × α)
  | .done a, s => some (s, a)
  | .perform o next, s =>
      match exec o s with
      | none => none
      | some (s', b) => (next b).run s'

@[simp] theorem run_done (a : α) (s : σ) :
    (done a : Program Answer α).run exec s = some (s, a) := rfl

@[simp] theorem run_perform (o : Op) (next : Answer o -> Program Answer α)
    (s : σ) :
    (perform o next).run exec s =
      (exec o s).bind (fun r => (next r.2).run exec r.1) := by
  rw [run]
  cases exec o s <;> rfl

@[simp] theorem run_op (o : Op) (s : σ) :
    (op o : Program Answer (Answer o)).run exec s = exec o s := by
  rw [op, run_perform]
  cases exec o s <;> rfl

@[simp] theorem run_bind (p : Program Answer α) (f : α -> Program Answer β)
    (s : σ) :
    (p.bind f).run exec s =
      (p.run exec s).bind (fun r => (f r.2).run exec r.1) := by
  induction p generalizing s with
  | done a => rfl
  | perform o next ih =>
      rw [perform_bind, run_perform, run_perform]
      cases exec o s with
      | none => rfl
      | some r => exact ih r.2 r.1

def Completes (post : α -> σ -> Prop) (p : Program Answer α) (s : σ) : Prop :=
  exists s' a, p.run exec s = some (s', a) ∧ post a s'

variable {exec} {post : α -> σ -> Prop}

theorem Completes.done {a : α} {s : σ} (h : post a s) :
    Completes exec post (.done a) s :=
  ⟨s, a, rfl, h⟩

theorem Completes.perform {o : Op} {next : Answer o -> Program Answer α}
    {s s' : σ} {b : Answer o} (hexec : exec o s = some (s', b))
    (h : Completes exec post (next b) s') :
    Completes exec post (.perform o next) s := by
  rcases h with ⟨t, a, hrun, hpost⟩
  refine ⟨t, a, ?_, hpost⟩
  rw [run_perform, hexec]
  exact hrun

theorem Completes.bind {p : Program Answer α} {f : α -> Program Answer β}
    {post : β -> σ -> Prop} {s : σ}
    (h : Completes exec (fun a s => Completes exec post (f a) s) p s) :
    Completes exec post (p.bind f) s := by
  rcases h with ⟨t, a, hrun, u, b, hrest, hpost⟩
  refine ⟨u, b, ?_, hpost⟩
  rw [run_bind, hrun]
  exact hrest

theorem Completes.mono {post' : α -> σ -> Prop} {p : Program Answer α} {s : σ}
    (h : Completes exec post p s) (hpost : forall a s, post a s -> post' a s) :
    Completes exec post' p s := by
  rcases h with ⟨t, a, hrun, hp⟩
  exact ⟨t, a, hrun, hpost a t hp⟩

theorem Completes.result {p : Program Answer α} {s s' : σ} {a : α}
    (h : Completes exec post p s) (hrun : p.run exec s = some (s', a)) :
    post a s' := by
  rcases h with ⟨t, c, ht, hpost⟩
  rw [hrun] at ht
  cases ht
  exact hpost

end Run

/-!
## Programs of few operations
-/

def All (ok : Op -> Prop) : Program Answer α -> Prop
  | .done _ => True
  | .perform o next => ok o ∧ forall b, All ok (next b)

/-- An assertion that every operation of the program keeps. -/
theorem Completes.frame {exec : (o : Op) -> σ -> Option (σ × Answer o)}
    {ok : Op -> Prop} {P : σ -> Prop} {p : Program Answer α} {s : σ}
    (hs : P s) (hall : p.All ok)
    (hexec : forall o s, ok o -> P s ->
      exists s' b, exec o s = some (s', b) ∧ P s') :
    Completes exec (fun _ => P) p s := by
  induction p generalizing s with
  | done a => exact Completes.done hs
  | perform o next ih =>
      rcases hexec o s hall.1 hs with ⟨s', b, hb, hs'⟩
      exact Completes.perform hb (ih b hs' (hall.2 b))

theorem All.keeps {exec : (o : Op) -> σ -> Option (σ × Answer o)}
    {ok : Op -> Prop} {P : σ -> Prop} {p : Program Answer α} {s s' : σ} {a : α}
    (hall : p.All ok) (hs : P s) (hrun : p.run exec s = some (s', a))
    (hexec : forall o s s' b, ok o -> P s -> exec o s = some (s', b) -> P s') :
    P s' := by
  induction p generalizing s with
  | done c =>
      cases hrun
      exact hs
  | perform o next ih =>
      rw [run_perform] at hrun
      rcases Option.bind_eq_some_iff.mp hrun with ⟨⟨t, b⟩, hfirst, hrest⟩
      exact ih b (hall.2 b) (hexec o s t b hall.1 hs hfirst) hrest

/-- A state that carries another one along runs as that one does. -/
theorem run_lift {τ : Type} {exec : (o : Op) -> σ -> Option (σ × Answer o)}
    {exec' : (o : Op) -> τ -> Option (τ × Answer o)} {ok : Op -> Prop}
    {lift : σ -> τ} {p : Program Answer α} (hall : p.All ok)
    (hexec : forall o s, ok o ->
      exec' o (lift s) = (exec o s).map (fun r => (lift r.1, r.2)))
    (s : σ) :
    p.run exec' (lift s) =
      (p.run exec s).map (fun r => (lift r.1, r.2)) := by
  induction p generalizing s with
  | done a => rfl
  | perform o next ih =>
      rw [run_perform, run_perform, hexec o s hall.1]
      cases exec o s with
      | none => rfl
      | some r => exact ih r.2 (hall.2 r.2) r.1

theorem All.bind {ok : Op -> Prop} {p : Program Answer α}
    {f : α -> Program Answer β} (hp : p.All ok)
    (hf : forall a, (f a).All ok) : (p.bind f).All ok := by
  induction p with
  | done a => exact hf a
  | perform o next ih => exact ⟨hp.1, fun b => ih b (hp.2 b)⟩

theorem All.mono {ok ok' : Op -> Prop} {p : Program Answer α} (hp : p.All ok)
    (h : forall o, ok o -> ok' o) : p.All ok' := by
  induction p with
  | done a => trivial
  | perform o next ih => exact ⟨h o hp.1, fun b => ih b (hp.2 b)⟩

/-- Every operation that the program can come to, as long as the answers are the
expected ones. -/
def AllGiven (ok : Op -> Prop) (expected : (o : Op) -> Answer o -> Prop) :
    Program Answer α -> Prop
  | .done _ => True
  | .perform o next =>
      ok o ∧ forall b, expected o b -> AllGiven ok expected (next b)

theorem All.given {ok : Op -> Prop} {expected : (o : Op) -> Answer o -> Prop}
    {p : Program Answer α} (hp : p.All ok) : p.AllGiven ok expected := by
  induction p with
  | done a => trivial
  | perform o next ih => exact ⟨hp.1, fun b _ => ih b (hp.2 b)⟩

theorem AllGiven.bind {ok : Op -> Prop}
    {expected : (o : Op) -> Answer o -> Prop} {p : Program Answer α}
    {f : α -> Program Answer β} (hp : p.AllGiven ok expected)
    (hf : forall a, (f a).AllGiven ok expected) :
    (p.bind f).AllGiven ok expected := by
  induction p with
  | done a => exact hf a
  | perform o next ih =>
      exact ⟨hp.1, fun b hb => ih b (hp.2 b hb)⟩

def Everywhere (Q : Program Answer α -> Prop) : Program Answer α -> Prop
  | .done a => Q (.done a)
  | .perform o next => Q (.perform o next) ∧ forall b, Everywhere Q (next b)

theorem Everywhere.here {Q : Program Answer α -> Prop}
    {p : Program Answer α} (h : p.Everywhere Q) : Q p := by
  cases p with
  | done a => exact h
  | perform o next => exact h.1

theorem Everywhere.of_all {ok : Op -> Prop} {Q : Program Answer α -> Prop}
    {p : Program Answer α} (hp : p.All ok)
    (hok : forall o next, ok o -> Q (.perform o next))
    (hdone : forall a, Q (.done a)) : p.Everywhere Q := by
  induction p with
  | done a => exact hdone a
  | perform o next ih => exact ⟨hok o next hp.1, fun b => ih b (hp.2 b)⟩

theorem Everywhere.bind {ok : Op -> Prop} {Q : Program Answer β -> Prop}
    {p : Program Answer α} {f : α -> Program Answer β} (hp : p.All ok)
    (hok : forall o next, ok o -> Q (.perform o next))
    (hf : forall a, (f a).Everywhere Q) : (p.bind f).Everywhere Q := by
  induction p with
  | done a => exact hf a
  | perform o next ih => exact ⟨hok o _ hp.1, fun b => ih b (hp.2 b)⟩

/-!
## Programs among others

`rely` is what the others do to the state while the program is about to perform
an operation, and `allow` is what has to hold of each operation when it is
performed.
-/

/-- An assertion that the others keep. -/
def Stable (rely : σ -> σ -> Prop) (P : σ -> Prop) : Prop :=
  forall s s', P s -> rely s s' -> P s'

theorem Stable.closure {rely : σ -> σ -> Prop} {P : σ -> Prop}
    (h : Stable rely P) {s s' : σ} (hs : P s)
    (hrely : Relation.ReflTransGen rely s s') : P s' := by
  induction hrely with
  | refl => exact hs
  | tail _ hlast ih => exact h _ _ ih hlast

section Ensures

variable (exec : (o : Op) -> σ -> Option (σ × Answer o))
  (rely : Option Op -> σ -> σ -> Prop) (allow : Op -> σ -> Prop)

/-- However the others interfere, every operation is allowed when it is
performed, and the result meets the postcondition. -/
def Ensures (post : α -> σ -> Prop) : Program Answer α -> σ -> Prop
  | .done a, s =>
      forall s', Relation.ReflTransGen (rely none) s s' -> post a s'
  | .perform o next, s =>
      forall s', Relation.ReflTransGen (rely (some o)) s s' ->
        allow o s' ∧ forall s'' b, exec o s' = some (s'', b) ->
          Ensures post (next b) s''

variable {exec rely allow}

theorem Ensures.interfered {post : α -> σ -> Prop} {p : Program Answer α}
    {s s' : σ} (h : Ensures exec rely allow post p s)
    (hrely : rely p.next? s s') : Ensures exec rely allow post p s' := by
  cases p with
  | done a =>
      intro s'' hrest
      exact h s'' (.head hrely hrest)
  | perform o next =>
      intro s'' hrest
      exact h s'' (.head hrely hrest)

theorem Ensures.step {post : α -> σ -> Prop} {o : Op}
    {next : Answer o -> Program Answer α} {s s' : σ} {b : Answer o}
    (h : Ensures exec rely allow post (.perform o next) s)
    (hexec : exec o s = some (s', b)) :
    Ensures exec rely allow post (next b) s' :=
  (h s .refl).2 s' b hexec

theorem Ensures.allowed {post : α -> σ -> Prop} {o : Op}
    {next : Answer o -> Program Answer α} {s : σ}
    (h : Ensures exec rely allow post (.perform o next) s) : allow o s :=
  (h s .refl).1

theorem Ensures.finished {post : α -> σ -> Prop} {a : α} {s : σ}
    (h : Ensures exec rely allow post (.done a) s) : post a s :=
  h s .refl

theorem Ensures.perform {P : σ -> Prop} {post : α -> σ -> Prop} {o : Op}
    {next : Answer o -> Program Answer α} {s : σ} (hs : P s)
    (hstable : Stable (rely (some o)) P) (hallow : forall s, P s -> allow o s)
    (hnext : forall s s' b, P s -> exec o s = some (s', b) ->
      Ensures exec rely allow post (next b) s') :
    Ensures exec rely allow post (.perform o next) s := by
  intro s' hrely
  have hs' := hstable.closure hs hrely
  exact ⟨hallow s' hs', fun s'' b hexec => hnext s' s'' b hs' hexec⟩

theorem Ensures.done {P : σ -> Prop} {post : α -> σ -> Prop} {a : α} {s : σ}
    (hs : P s) (hstable : Stable (rely none) P)
    (hpost : forall s, P s -> post a s) :
    Ensures exec rely allow post (.done a) s := by
  intro s' hrely
  exact hpost s' (hstable.closure hs hrely)

theorem Ensures.bind {p : Program Answer α} {f : α -> Program Answer β}
    {post : β -> σ -> Prop} {s : σ}
    (h : Ensures exec rely allow
      (fun a s => Ensures exec rely allow post (f a) s) p s) :
    Ensures exec rely allow post (p.bind f) s := by
  induction p generalizing s with
  | done a => exact h.finished
  | perform o next ih =>
      intro s' hrely
      rcases h s' hrely with ⟨hallow, hnext⟩
      constructor
      · exact hallow
      · intro s'' b hexec
        exact ih b (hnext s'' b hexec)

theorem Ensures.mono {post post' : α -> σ -> Prop} {p : Program Answer α}
    {s : σ} (h : Ensures exec rely allow post p s)
    (hpost : forall a s, post a s -> post' a s) :
    Ensures exec rely allow post' p s := by
  induction p generalizing s with
  | done a =>
      intro s' hrely
      exact hpost a s' (h s' hrely)
  | perform o next ih =>
      intro s' hrely
      rcases h s' hrely with ⟨hallow, hnext⟩
      constructor
      · exact hallow
      · intro s'' b hexec
        exact ih b (hnext s'' b hexec)

/-- The frame rule: an assertion that every operation of the program keeps. -/
theorem Ensures.frame {P : σ -> Prop} {ok : Op -> Prop}
    {p : Program Answer α} {s : σ} (hs : P s) (hall : p.All ok)
    (hstable : forall o, ok o -> Stable (rely (some o)) P)
    (hdone : Stable (rely none) P)
    (hallow : forall o s, ok o -> P s -> allow o s)
    (hexec : forall o s s' b, ok o -> P s -> exec o s = some (s', b) -> P s') :
    Ensures exec rely allow (fun _ => P) p s := by
  induction p generalizing s with
  | done a => exact Ensures.done hs hdone (fun _ h => h)
  | perform o next ih =>
      refine Ensures.perform hs (hstable o hall.1)
        (fun s => hallow o s hall.1) ?_
      intro s' s'' b hs' hb
      exact ih b (hexec o s' s'' b hall.1 hs' hb) (hall.2 b)

end Ensures

end Program

end Foundation
end Fluxnode
