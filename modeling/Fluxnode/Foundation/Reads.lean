import Fluxnode.Foundation.Program

/-!
# Which cells a program reads

A program whose operations read cells runs over a total memory, and the cells it
comes to are its footprint there.  Over a part of the memory it has a result as
long as it stays inside.  The two views agree: the footprint lies in the part
exactly when there is a result over the part.
-/

namespace Fluxnode
namespace Foundation

/-- A program that reads cells, and does nothing else. -/
abbrev Reader (ι β α : Type) := Program (fun _ : ι => β) α

namespace Reader

variable {ι β α γ : Type}

def cell (i : ι) : Reader ι β β := Program.op i

def result (memory : ι -> β) : Reader ι β α -> α
  | .done a => a
  | .perform i next => result memory (next (memory i))

@[simp] theorem result_bind (memory : ι -> β) (p : Reader ι β α)
    (f : α -> Reader ι β γ) :
    result memory (p.bind f) = result memory (f (result memory p)) := by
  induction p with
  | done a => rfl
  | perform i next ih =>
      rw [Program.perform_bind, result, result]
      exact ih (memory i)

def reads (memory : ι -> β) : Reader ι β α -> List ι
  | .done _ => []
  | .perform i next => i :: reads memory (next (memory i))

/-- The result over a part of the memory, if no other cell is read. -/
def resultIn (part : ι -> Option β) : Reader ι β α -> Option α
  | .done a => some a
  | .perform i next => (part i).bind (fun b => resultIn part (next b))

@[simp] theorem resultIn_done (part : ι -> Option β) (a : α) :
    resultIn part (.done a : Reader ι β α) = some a := rfl

@[simp] theorem resultIn_cell (part : ι -> Option β) (i : ι) :
    resultIn part (cell i) = part i := by
  rw [cell, Program.op, resultIn]
  cases part i <;> rfl

@[simp] theorem resultIn_bind (part : ι -> Option β) (p : Reader ι β α)
    (f : α -> Reader ι β γ) :
    resultIn part (p.bind f) =
      (resultIn part p).bind (fun a => resultIn part (f a)) := by
  induction p with
  | done a => rfl
  | perform i next ih =>
      rw [Program.perform_bind, resultIn, resultIn]
      cases part i with
      | none => rfl
      | some b => exact ih b

def Holds (memory : ι -> β) (part : ι -> Option β) : Prop :=
  forall i b, part i = some b -> memory i = b

theorem resultIn_eq_some_iff {memory : ι -> β} {part : ι -> Option β}
    (hholds : Holds memory part) {p : Reader ι β α} {a : α} :
    resultIn part p = some a <->
      result memory p = a ∧
        forall i, i ∈ reads memory p -> (part i).isSome = true := by
  induction p with
  | done b =>
      simp [resultIn, result, reads]
  | perform i next ih =>
      rw [resultIn, result, reads, List.forall_mem_cons]
      cases hi : part i with
      | none => simp
      | some b =>
          rw [hholds i b hi, Option.bind_some, ih b, Option.isSome_some]
          simp

/-- The footprint lies inside exactly when there is a result. -/
theorem reads_inside_iff {memory : ι -> β} {part : ι -> Option β}
    (hholds : Holds memory part) {p : Reader ι β α} :
    (forall i, i ∈ reads memory p -> (part i).isSome = true) <->
      (resultIn part p).isSome = true := by
  rw [Option.isSome_iff_exists]
  constructor
  · intro hinside
    exact ⟨_, (resultIn_eq_some_iff hholds).mpr ⟨rfl, hinside⟩⟩
  · rintro ⟨a, ha⟩
    exact ((resultIn_eq_some_iff hholds).mp ha).2

theorem resultIn_mono {part part' : ι -> Option β}
    (hpart : forall i b, part i = some b -> part' i = some b)
    {p : Reader ι β α} {a : α} (h : resultIn part p = some a) :
    resultIn part' p = some a := by
  induction p with
  | done b => exact h
  | perform i next ih =>
      rw [resultIn, Option.bind_eq_some_iff] at h
      rcases h with ⟨b, hb, hrest⟩
      rw [resultIn, hpart i b hb]
      exact ih b hrest

end Reader

end Foundation
end Fluxnode
