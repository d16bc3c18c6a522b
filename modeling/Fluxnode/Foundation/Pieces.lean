import Fluxnode.Foundation.Program

/-!
# Programs in pieces

A task that never comes to an end goes from piece to piece: each piece is a
program that ends with the label of the next one.  What holds at the labels, and
what holds inside of the pieces, follows from one proof for each piece.
-/

namespace Fluxnode
namespace Foundation

variable {Op L σ : Type} {Answer : Op -> Type}

/-- Where such a task stands: in the piece of a label, with the rest of it. -/
structure Position (Answer : Op -> Type) (L : Type) where
  label : L
  rest : Program Answer L

namespace Position

variable (piece : L -> Program Answer L)

def enter (label : L) : Position Answer L :=
  ⟨label, piece label⟩

/-- Behind an operation the task goes on in its piece or enters the next one. -/
def resume (label : L) : Program Answer L -> Position Answer L
  | .done next => enter piece next
  | .perform o next => ⟨label, .perform o next⟩

def step (exec : (o : Op) -> σ -> Option (σ × Answer o)) :
    Position Answer L -> σ -> Option (Position Answer L × σ)
  | ⟨_, .done next⟩, s => some (enter piece next, s)
  | ⟨label, .perform o next⟩, s =>
      match exec o s with
      | none => none
      | some (s', b) => some (resume piece label (next b), s')

theorem step_performs {piece : L -> Program Answer L}
    (hpiece : forall label, (piece label).next?.isSome)
    {exec : (o : Op) -> σ -> Option (σ × Answer o)} {t t' : Position Answer L}
    {s s' : σ} (h : t.step piece exec s = some (t', s')) :
    t'.rest.next?.isSome := by
  rcases t with ⟨label, rest⟩
  cases rest with
  | done next =>
      cases h
      exact hpiece next
  | perform o next =>
      simp only [step] at h
      split at h
      · cases h
      · rename_i b hexec
        cases h
        cases hnext : next b with
        | done label' => exact hpiece label'
        | perform o' next' => rfl

/-!
## Assertions at the labels

`within` is what holds at an operation of the piece of a label, whatever the
others do, and `atLabel` is what holds when the piece is entered.
-/

section Guarded

variable (exec : (o : Op) -> σ -> Option (σ × Answer o))
  (rely : Option Op -> σ -> σ -> Prop) (within : L -> Op -> σ -> Prop)
  (atLabel : L -> σ -> Prop)

/-- The piece is correct for its label. -/
def Keeps (label : L) (p : Program Answer L) (s : σ) : Prop :=
  p.Ensures exec rely (within label) atLabel s

def Guarded (t : Position Answer L) (s : σ) : Prop :=
  Keeps exec rely within atLabel t.label t.rest s

variable {piece exec rely within atLabel}

theorem Guarded.within_of_perform {t : Position Answer L} {s : σ}
    (h : Guarded exec rely within atLabel t s) {o : Op}
    (hnext : t.rest.next? = some o) : within t.label o s := by
  rcases t with ⟨label, rest⟩
  rcases Program.next?_eq_some hnext with ⟨next, hrest⟩
  cases hrest
  have hpiece : Keeps exec rely within atLabel label (.perform o next) s := h
  exact hpiece.allowed

theorem Guarded.interfered {t : Position Answer L} {s s' : σ}
    (h : Guarded exec rely within atLabel t s)
    (hrely : rely t.rest.next? s s') :
    Guarded exec rely within atLabel t s' :=
  Program.Ensures.interfered h hrely

/-- The rule for a step of the task. -/
theorem Guarded.step
    (hpiece : forall label s, atLabel label s ->
      Keeps exec rely within atLabel label (piece label) s)
    {t t' : Position Answer L} {s s' : σ}
    (h : Guarded exec rely within atLabel t s)
    (hstep : t.step piece exec s = some (t', s')) :
    Guarded exec rely within atLabel t' s' := by
  rcases t with ⟨label, rest⟩
  cases rest with
  | done next =>
      cases hstep
      have hdone : Keeps exec rely within atLabel label (.done next) s := h
      exact hpiece next s hdone.finished
  | perform o next =>
      simp only [Position.step] at hstep
      split at hstep
      · cases hstep
      · rename_i mid b hexec
        cases hstep
        have hhere : Keeps exec rely within atLabel label (.perform o next) s := h
        have hrest := hhere.step hexec
        cases hnext : next b with
        | done label' =>
            rw [hnext] at hrest
            exact hpiece label' _ hrest.finished
        | perform o' next' =>
            rw [hnext] at hrest
            exact hrest

end Guarded

end Position

end Foundation
end Fluxnode
