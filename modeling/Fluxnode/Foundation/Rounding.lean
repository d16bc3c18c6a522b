import Mathlib.Algebra.Order.Round
import Mathlib.Tactic.Ring
import Mathlib.Data.Int.ConditionallyCompleteOrder

/-!
# Rounding by a digit

A number is rounded half up by looking at its first digit behind the point: in an
even base, the number is cut off, and one is added when the digit is at least
half of the base.
-/

namespace Fluxnode
namespace Foundation

variable {R : Type _} [Field R] [LinearOrder R] [IsStrictOrderedRing R]
  [FloorRing R]

theorem round_mono : Monotone (round : R -> Int) := by
  intro x y hle
  rw [round_eq, round_eq]
  exact Int.floor_mono (add_le_add_left hle (1 / 2))

theorem floor_of_shifted {n : Nat} (hn : 0 < n) (x : R) :
    ⌊(n : R) * x⌋ / (n : Int) = ⌊x⌋ :=
  Int.natCast_mul_floor_div_cancel (Nat.ne_of_gt hn) x

/-- In base `2n`, a remainder below `n` leaves an even quotient by `n`. -/
theorem succ_quotient_half {n : Nat} (hn : 0 < n) (a : Int) :
    (a / n + 1) / 2 =
      a / (2 * n : Nat) + if (n : Int) ≤ a % (2 * n : Nat) then 1 else 0 := by
  have hpos : (0 : Int) < n := by exact_mod_cast hn
  have hquotient : a / (2 * n : Nat) = a / n / 2 := by
    rw [Int.ediv_ediv_of_nonneg hpos.le, Nat.cast_mul, Nat.cast_ofNat,
      Int.mul_comm]
  have hremainder : a % (2 * n : Nat) = a % n + n * (a / n % 2) := by
    rw [Int.emod_def, hquotient, Int.emod_def a n, Int.emod_def (a / n) 2,
      Nat.cast_mul, Nat.cast_ofNat]
    ring
  have hbound := Int.emod_lt_of_pos a hpos
  have hnonneg := Int.emod_nonneg a hpos.ne'
  rw [hquotient, hremainder]
  rcases Int.emod_two_eq (a / n) with heven | hodd
  · rw [heven, if_neg (by lia)]
    lia
  · rw [hodd, if_pos (by lia)]
    lia

/-- Rounding by the first digit behind the point. -/
theorem floor_add_digit {n : Nat} (hn : 0 < n) (x : R) :
    ⌊x⌋ + (if (n : Int) ≤ ⌊((2 * n : Nat) : R) * x⌋ % (2 * n : Nat)
        then 1 else 0) =
      round x := by
  have hwhole := floor_of_shifted (Nat.mul_pos two_pos hn) x
  have htwice : ⌊((2 * n : Nat) : R) * x⌋ / (n : Int) = ⌊2 * x⌋ := by
    rw [← floor_of_shifted hn (2 * x), Nat.cast_mul, Nat.cast_ofNat,
      mul_comm 2 (n : R), mul_assoc]
  rw [round_eq_div, ← htwice, succ_quotient_half hn, hwhole]

end Foundation
end Fluxnode
