import Fluxnode.Button.Model
import Fluxnode.Foundation.Spaced
import Mathlib.Order.Nat
import Mathlib.Algebra.Group.Nat.Defs

/-!
# The count of presses

`button_callback` counts the presses that a scan selects, and the ticks of the
presses are the times of the presses modulo 2^32.
-/

namespace Fluxnode
namespace Button

open Foundation

/-- A tick is far enough behind another one to be a press of its own. -/
def Apart (a b : UInt32) : Prop :=
  b - a > buttonPressMinMs

instance : DecidableRel Apart := fun a b => by
  unfold Apart
  infer_instance

def ApartTimes (a b : Nat) : Prop :=
  a + buttonPressMinMs.toNat < b

instance : DecidableRel ApartTimes := fun a b => by
  unfold ApartTimes
  infer_instance

theorem spacing_apartTimes : Spacing ApartTimes where
  below := by
    intro a b c hab hbc
    unfold ApartTimes at *
    lia
  above := by
    intro a b c hab hbc
    unfold ApartTimes at *
    lia

theorem countPresses_eq (count : Nat) (last : UInt32) (presses : List UInt32) :
    countPresses count last presses =
      count + (spaced Apart last presses).length := by
  induction presses generalizing count last with
  | nil => rfl
  | cons press rest ih =>
      by_cases h : Apart last press
      · rw [spaced_cons_of_far h, List.length_cons]
        show (if Apart last press then _ else _) = _
        rw [if_pos h, ih]
        lia
      · rw [spaced_cons_of_not_far h]
        show (if Apart last press then _ else _) = _
        rw [if_neg h, ih]

theorem buttonPressCount_cons (first : UInt32) (rest : List UInt32) :
    buttonPressCount (first :: rest) =
      (spaced Apart first rest).length + 1 := by
  rw [buttonPressCount, countPresses_eq, Nat.add_comm]

theorem apart_ofNat_iff {a b : Nat} (hle : a ≤ b) (hlt : b < a + 2 ^ 31) :
    Apart (UInt32.ofNat a) (UInt32.ofNat b) <-> ApartTimes a b := by
  have hsub : UInt32.ofNat b - UInt32.ofNat a = UInt32.ofNat (b - a) :=
    (UInt32.ofNat_sub hle).symm
  have hnat : (UInt32.ofNat (b - a)).toNat = b - a :=
    UInt32.toNat_ofNat_of_lt' (show b - a < 2 ^ 32 by lia)
  unfold Apart ApartTimes
  rw [hsub, gt_iff_lt, UInt32.lt_iff_toNat_lt, hnat]
  lia

/-- Times in order, as they are recorded in one window. -/
structure Recorded (times : List Nat) : Prop where
  sorted : times.Pairwise (· ≤ ·)
  span : forall a, a ∈ times -> forall b, b ∈ times -> b < a + 2 ^ 31

theorem Recorded.apart_iff {times : List Nat} (h : Recorded times) :
    times.Pairwise (fun a b =>
      Apart (UInt32.ofNat a) (UInt32.ofNat b) <-> ApartTimes a b) := by
  apply List.Pairwise.imp_of_mem _ h.sorted
  intro a b ha hb hle
  exact apart_ofNat_iff hle (h.span a ha b hb)

/-- The reported count is the largest number of the recorded presses that are
pairwise more than `BUTTON_PRESS_MIN_MS` apart. -/
theorem reported_isGreatest {s : ButtonService} {times : List Nat}
    (hne : times ≠ []) (hpresses : s.presses = times.map UInt32.ofNat)
    (h : Recorded times) :
    exists count, (buttonCallback s).reported = s.reported ++ [count] ∧
      IsGreatest
        { n | exists chosen : List Nat, chosen.Sublist times ∧
          chosen.Pairwise ApartTimes ∧ chosen.length = n } count := by
  exists buttonPressCount s.presses
  constructor
  · rfl
  · cases times with
    | nil => exact absurd rfl hne
    | cons first rest =>
        rw [hpresses, List.map_cons, buttonPressCount_cons,
          spaced_map UInt32.ofNat h.apart_iff, List.length_map]
        exact isGreatest_spaced spacing_apartTimes h.sorted

theorem reported_isGreatest_wrapped :
    exists count, (buttonCallback
        { buttonServiceStart with
          presses := [0xfffffff0, 0xfffffff2, 0x20, 0x50] }).reported =
        [] ++ [count] ∧
      IsGreatest
        { n | exists chosen : List Nat,
          chosen.Sublist
            [0xfffffff0, 0xfffffff2, 0x100000020, 0x100000050] ∧
          chosen.Pairwise ApartTimes ∧ chosen.length = n } count :=
  reported_isGreatest
    (s := { buttonServiceStart with
      presses := [0xfffffff0, 0xfffffff2, 0x20, 0x50] })
    (by decide) (by decide) ⟨by decide, by decide⟩

end Button
end Fluxnode
