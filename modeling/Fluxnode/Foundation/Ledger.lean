import Mathlib.Data.List.Perm.Basic
import Mathlib.Tactic.Common

/-!
# Blocks and their owners

A ledger numbers the blocks of a heap in the order of their allocation, and
keeps the calls of `free`.  A list of owned blocks accounts for it when it
names every block that is allocated and not freed once, and no block was freed
twice.
-/

namespace Fluxnode
namespace Foundation

structure Ledger where
  allocated : Nat
  freed : List Nat
  deriving DecidableEq, Repr

namespace Ledger

def empty : Ledger where
  allocated := 0
  freed := []

/-- `malloc`, which gives the next block or null. -/
def malloc (l : Ledger) (succeeds : Bool) : Option Nat × Ledger :=
  if succeeds then
    (some l.allocated, { l with allocated := l.allocated + 1 })
  else
    (none, l)

def release (l : Ledger) : Option Nat -> Ledger
  | none => l
  | some b => { l with freed := l.freed ++ [b] }

def live (l : Ledger) : List Nat :=
  (List.range l.allocated).filter (fun b => decide (b ∉ l.freed))

structure Accounts (l : Ledger) (owned : List Nat) : Prop where
  live : l.live.Perm owned
  known : forall b, b ∈ l.freed -> b < l.allocated
  once : l.freed.Nodup

theorem mem_live {l : Ledger} {b : Nat} :
    b ∈ l.live <-> b < l.allocated ∧ b ∉ l.freed := by
  rw [live, List.mem_filter, List.mem_range, decide_eq_true_iff]

theorem live_nodup (l : Ledger) : l.live.Nodup :=
  List.nodup_range.filter _

theorem accounts_empty : empty.Accounts [] where
  live := List.Perm.refl []
  known := by
    intro b hb
    cases hb
  once := List.nodup_nil

theorem Accounts.perm {l : Ledger} {owned owned' : List Nat}
    (h : l.Accounts owned) (hperm : owned.Perm owned') :
    l.Accounts owned' where
  live := h.live.trans hperm
  known := h.known
  once := h.once

theorem Accounts.nodup {l : Ledger} {owned : List Nat}
    (h : l.Accounts owned) : owned.Nodup :=
  h.live.nodup_iff.mp l.live_nodup

theorem Accounts.malloc {l : Ledger} {owned : List Nat}
    (h : l.Accounts owned) (succeeds : Bool) :
    (l.malloc succeeds).2.Accounts
      ((l.malloc succeeds).1.toList ++ owned) := by
  cases succeeds with
  | false => exact h
  | true =>
      have hfresh : l.allocated ∉ l.freed := by
        intro hmem
        exact Nat.lt_irrefl _ (h.known _ hmem)
      have hlive : (l.malloc true).2.live = l.live ++ [l.allocated] := by
        simp [Ledger.malloc, Ledger.live, List.range_succ, List.filter_append,
          hfresh]
      constructor
      · rw [hlive]
        exact (h.live.append_right _).trans List.perm_append_comm
      · intro b hb
        exact Nat.lt_succ_of_lt (h.known b hb)
      · exact h.once

theorem mem_live_release {l : Ledger} {a b : Nat} :
    a ∈ (l.release (some b)).live <-> a ∈ l.live ∧ a ≠ b := by
  rw [mem_live, mem_live, and_assoc]
  apply and_congr_right
  intro _
  simp only [Ledger.release, List.mem_append, List.mem_singleton, not_or]

theorem Accounts.release {l : Ledger} {p : Option Nat} {owned : List Nat}
    (h : l.Accounts (p.toList ++ owned)) : (l.release p).Accounts owned := by
  cases p with
  | none => exact h
  | some b =>
      have hlive : b ∈ l.live := h.live.symm.subset List.mem_cons_self
      rcases mem_live.mp hlive with ⟨hknown, hfree⟩
      rcases List.nodup_cons.mp h.nodup with ⟨hother, howned⟩
      constructor
      · apply (List.perm_ext_iff_of_nodup (live_nodup _) howned).mpr
        intro a
        rw [mem_live_release, h.live.mem_iff, Option.toList_some,
          List.singleton_append, List.mem_cons]
        constructor
        · intro hleft
          rcases hleft with ⟨hmem, hne⟩
          exact hmem.resolve_left hne
        · intro hmem
          constructor
          · exact Or.inr hmem
          · intro heq
            rw [heq] at hmem
            exact hother hmem
      · intro a ha
        rcases List.mem_append.mp ha with ha | ha
        · exact h.known a ha
        · rw [List.mem_singleton.mp ha]
          exact hknown
      · apply List.nodup_append.mpr
        refine ⟨h.once, List.pairwise_singleton _ b, ?_⟩
        intro a ha c hc heq
        rw [heq, List.mem_singleton.mp hc] at ha
        exact hfree ha

theorem Accounts.not_of_lost {l : Ledger} {b : Nat} {owned : List Nat}
    (h : l.Accounts (b :: owned)) : ¬ l.Accounts owned := by
  intro h'
  have hlength := (h.live.symm.trans h'.live).length_eq
  rw [List.length_cons] at hlength
  exact Nat.succ_ne_self _ hlength

end Ledger
end Foundation
end Fluxnode
