import Mathlib.Data.List.Basic
import Mathlib.Logic.Function.Basic
import Mathlib.Tactic.Common

/-!
# Singly linked chains

Cells over an arbitrary type of addresses, each with a link to the next cell.
`next a` is `none` when there is no cell at `a`, and `some none` when the cell
at `a` is the last one.  A chain relates a pointer to the list of the cells met
by following the links.
-/

namespace Fluxnode
namespace Foundation

variable {α : Type _} {next next' : α -> Option (Option α)}

/-- Following the links from the pointer meets exactly these cells. -/
inductive Chain (next : α -> Option (Option α)) :
    Option α -> List α -> Prop where
  | nil : Chain next none []
  | link {a : α} {q : Option α} {as : List α}
      (hnext : next a = some q) (htail : Chain next q as) :
      Chain next (some a) (a :: as)

namespace Chain

/-!
## The list is determined by the pointer, and repeats no cell
-/

theorem pointer_eq_head? {p : Option α} {as : List α}
    (h : Chain next p as) : p = as.head? := by
  cases h with
  | nil => rfl
  | link hnext htail => rfl

theorem unique {p : Option α} {as bs : List α}
    (has : Chain next p as) (hbs : Chain next p bs) : as = bs := by
  induction has generalizing bs with
  | nil =>
      cases hbs
      rfl
  | link hnext htail ih =>
      cases hbs with
      | link hnext' htail' =>
          have hlink := hnext.symm.trans hnext'
          cases hlink
          rw [ih htail']

theorem of_mem {p : Option α} {as : List α} {a : α}
    (h : Chain next p as) (hmem : a ∈ as) :
    exists bs, Chain next (some a) bs ∧ bs.length ≤ as.length := by
  induction h with
  | nil =>
      cases hmem
  | @link b q as hnext htail ih =>
      rcases List.mem_cons.mp hmem with rfl | htailMem
      · exact ⟨_, .link hnext htail, Nat.le_refl _⟩
      · rcases ih htailMem with ⟨bs, hbs, hlength⟩
        exact ⟨bs, hbs, Nat.le_succ_of_le hlength⟩

/-- A finite chain is acyclic. -/
theorem nodup {p : Option α} {as : List α} (h : Chain next p as) :
    as.Nodup := by
  induction h with
  | nil =>
      exact List.nodup_nil
  | @link a q as hnext htail ih =>
      rw [List.nodup_cons]
      constructor
      · intro hmem
        rcases htail.of_mem hmem with ⟨bs, hbs, hlength⟩
        have hsame := (Chain.link hnext htail).unique hbs
        rw [← hsame, List.length_cons] at hlength
        exact Nat.not_succ_le_self _ hlength
      · exact ih

theorem next_isSome {p : Option α} {as : List α} {a : α}
    (h : Chain next p as) (hmem : a ∈ as) : exists q, next a = some q := by
  induction h with
  | nil =>
      cases hmem
  | link hnext htail ih =>
      rcases List.mem_cons.mp hmem with rfl | htailMem
      · exact ⟨_, hnext⟩
      · exact ih htailMem

/-!
## Writing cells
-/

theorem frame {p : Option α} {as : List α} (h : Chain next p as)
    (hsame : forall a, a ∈ as -> next' a = next a) : Chain next' p as := by
  induction h with
  | nil =>
      exact .nil
  | @link a q as hnext htail ih =>
      have ha : next' a = some q := by
        rw [hsame a List.mem_cons_self, hnext]
      have htail' : Chain next' q as := by
        apply ih
        intro b hb
        exact hsame b (List.mem_cons_of_mem a hb)
      exact .link ha htail'

theorem single {a : α} (hnext : next a = some none) :
    Chain next (some a) [a] :=
  .link hnext .nil

theorem join {p q : Option α} {as bs : List α} {last : α}
    (has : Chain next p (as ++ [last])) (hbs : Chain next' q bs)
    (hlast : next' last = some q)
    (hsame : forall a, a ∈ as -> next' a = next a) :
    Chain next' p (as ++ last :: bs) := by
  induction as generalizing p with
  | nil =>
      cases has with
      | link hnext htail => exact .link hlast hbs
  | cons a as ih =>
      cases has with
      | @link _ r _ hnext htail =>
          have ha : next' a = some r := by
            rw [hsame a List.mem_cons_self, hnext]
          have hrest : forall b, b ∈ as -> next' b = next b := by
            intro b hb
            exact hsame b (List.mem_cons_of_mem a hb)
          exact .link ha (ih htail hrest)

/-!
## Links that never end
-/

/-- Every cell of the set has a successor, which is in the set. -/
def Endless (next : α -> Option (Option α)) (cells : List α) : Prop :=
  forall a, a ∈ cells -> exists b, next a = some (some b) ∧ b ∈ cells

theorem not_mem_of_endless {cells : List α} (hcells : Endless next cells)
    {a : α} {as : List α} (h : Chain next (some a) as) : a ∉ cells := by
  generalize hp : some a = p at h
  induction h generalizing a with
  | nil =>
      cases hp
  | @link c q as hnext htail ih =>
      cases hp
      intro hc
      rcases hcells c hc with ⟨b, hb, hmem⟩
      have hlink := hnext.symm.trans hb
      cases hlink
      exact ih rfl hmem

theorem next_of_mem_front {p : Option α} {as : List α} {last a : α}
    (h : Chain next p (as ++ [last])) (ha : a ∈ as) :
    exists b, next a = some (some b) ∧ b ∈ as ++ [last] := by
  induction as generalizing p with
  | nil =>
      cases ha
  | cons c as ih =>
      cases h with
      | @link _ q _ hnext htail =>
          rcases List.mem_cons.mp ha with hfirst | hmem
          · have hhead : q = (as ++ [last]).head? := htail.pointer_eq_head?
            cases hrest : as ++ [last] with
            | nil => simp at hrest
            | cons b bs =>
                rw [hrest, List.head?_cons] at hhead
                refine ⟨b, ?_, ?_⟩
                · rw [hfirst, hnext, hhead]
                · rw [List.cons_append, hrest]
                  exact List.mem_cons_of_mem c List.mem_cons_self
          · rcases ih htail hmem with ⟨b, hb, hbmem⟩
            exact ⟨b, hb, List.mem_cons_of_mem c hbmem⟩

theorem endless_update [DecidableEq α] {p : Option α} {as : List α}
    {last a : α} (h : Chain next p (as ++ [last])) (ha : a ∈ as ++ [last]) :
    Endless (Function.update next last (some (some a))) (as ++ [last]) := by
  intro b hb
  rcases eq_or_ne b last with rfl | hne
  · exact ⟨a, Function.update_self .., ha⟩
  · have hfront : b ∈ as := by simpa [hne] using hb
    rw [Function.update_of_ne hne]
    exact h.next_of_mem_front hfront

end Chain

end Foundation
end Fluxnode
