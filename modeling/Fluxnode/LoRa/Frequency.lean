import Fluxnode.Foundation.Rounding
import Fluxnode.LoRa.Settings

/-!
# The frequency registers

`freq_regs` takes the digit that it rounds by from the difference of two
products that are cut off.  What it adds up is the frequency in steps of the
synthesizer, rounded half up, and `lora_set_frequency` spreads the result over
three registers.
-/

namespace Fluxnode
namespace LoRa

open Foundation
open Js (Number)

/-!
## The number
-/

def inSteps (freq : ℚ) : ℚ :=
  freq * 10000 / (61035 / 100000)

theorem inSteps_mono {f g : ℚ} (h : f ≤ g) : inSteps f ≤ inSteps g := by
  unfold inSteps
  linarith

theorem digit_of_difference (a b : Int) : (a - b * 100) % 10 = a % 10 := by
  lia

/-- The number behind the conversions, before it is stored in 32 bits. -/
theorem freqRegs_eq (freq : ℚ) :
    freqRegs (.finite freq) = UInt32.ofInt (round (inSteps freq)) := by
  have htenth : freq / (61035 / 100000) * 1000 * 10 = inSteps freq := by
    unfold inSteps
    ring
  have hhundredth : freq / (61035 / 100000) * 1000 * 100 =
      ((2 * 5 : Nat) : ℚ) * inSteps freq := by
    rw [← htenth]
    ring
  have hround := floor_add_digit (n := 5) (by decide) (inSteps freq)
  simp only [freqRegs, digit_of_difference, htenth, hhundredth]
  rw [← hround]
  apply congrArg
  rw [← Int.floor_add_intCast]
  rfl

theorem toNat_ofInt {z : Int} (hnonneg : 0 ≤ z) (hlt : z < 2 ^ 32) :
    ((UInt32.ofInt z).toNat : Int) = z := by
  have hmod : z % 2 ^ 32 = z := Int.emod_eq_of_lt hnonneg hlt
  rw [UInt32.ofInt, hmod]
  simp
  lia

theorem round_inSteps_nonneg {freq : ℚ} (h : 0 ≤ freq) :
    0 ≤ round (inSteps freq) := by
  have hmono := round_mono (inSteps_mono h)
  simpa [inSteps] using hmono

theorem round_inSteps_lt {freq top : ℚ} {n : Int} (h : freq ≤ top)
    (htop : inSteps top + 1 / 2 < n) : round (inSteps freq) < n := by
  have hmono := inSteps_mono h
  rw [round_eq, Int.floor_lt]
  linarith

/-- Nothing overflows up to 100000 MHz. -/
theorem freqRegs_toNat {freq : ℚ} (hlow : 0 ≤ freq) (hhigh : freq ≤ 100000) :
    ((freqRegs (.finite freq)).toNat : Int) = round (inSteps freq) := by
  have hlt : round (inSteps freq) < 2 ^ 32 :=
    round_inSteps_lt hhigh (by norm_num [inSteps])
  rw [freqRegs_eq]
  exact toNat_ofInt (round_inSteps_nonneg hlow) hlt

/-!
## The registers
-/

def Chip.frf (c : Chip) : Nat :=
  (c.regs regFrfMsb).toNat * 2 ^ 16 + (c.regs regFrfMid).toNat * 2 ^ 8 +
    (c.regs regFrfLsb).toNat

def Chip.setFrf (c : Chip) (frf : UInt32) : Chip :=
  ((c.set regFrfMsb (frf >>> 16).toUInt8).set
    regFrfMid (frf >>> 8).toUInt8).set regFrfLsb (frf >>> 0).toUInt8

theorem run_loraSetFrequency (frequency : Number) (s : Radio) :
    (loraSetFrequency frequency).run exec s =
      some ({ s with
        frequency := Js.requireInt frequency
        tuned := s.tuned ++ [frequency]
        chip := s.chip.setFrf (freqRegs frequency) }, ()) := rfl

theorem bytes_recombine {n : UInt32} (h : n.toNat < 2 ^ 24) :
    (n >>> 16).toUInt8.toNat * 2 ^ 16 + (n >>> 8).toUInt8.toNat * 2 ^ 8 +
      (n >>> 0).toUInt8.toNat = n.toNat := by
  simp only [UInt32.toNat_toUInt8, UInt32.toNat_shiftRight,
    Nat.shiftRight_eq_div_pow]
  simp
  lia

theorem setFrf_frf (c : Chip) {frf : UInt32} (h : frf.toNat < 2 ^ 24) :
    (c.setFrf frf).frf = frf.toNat := by
  rw [← bytes_recombine h]
  rfl

/--
The number is the exact quotient rounded half up, it grows with the frequency,
and in the band it is what the three registers hold.
-/
theorem freqRegs_rounds_half_up :
    (forall f : ℚ, 0 ≤ f -> f ≤ 100000 ->
      ((freqRegs (.finite f)).toNat : Int) =
        ⌊f * 10000 / (61035 / 100000) + 1 / 2⌋) ∧
    (forall f g : ℚ, 0 ≤ f -> f ≤ g -> g ≤ 100000 ->
      freqRegs (.finite f) ≤ freqRegs (.finite g)) ∧
    (forall f : ℚ, 902 ≤ f -> f ≤ 928 ->
      (freqRegs (.finite f)).toNat < 2 ^ 24 ∧
      forall s : Radio, exists s',
        (loraSetFrequency (.finite f)).run exec s = some (s', ()) ∧
        s'.chip.frf = (freqRegs (.finite f)).toNat) := by
  refine ⟨?_, ?_, ?_⟩
  · intro f hlow hhigh
    rw [freqRegs_toNat hlow hhigh, round_eq]
    rfl
  · intro f g hlow hle hhigh
    have hf := freqRegs_toNat hlow (le_trans hle hhigh)
    have hg := freqRegs_toNat (le_trans hlow hle) hhigh
    have hmono := round_mono (inSteps_mono hle)
    rw [UInt32.le_iff_toNat_le]
    lia
  · intro f hlow hhigh
    have hvalue := freqRegs_toNat (by linarith) (by linarith : f ≤ 100000)
    have hband : round (inSteps f) < 2 ^ 24 :=
      round_inSteps_lt hhigh (by norm_num [inSteps])
    have hfits : (freqRegs (.finite f)).toNat < 2 ^ 24 := by lia
    refine ⟨hfits, ?_⟩
    intro s
    exact ⟨_, run_loraSetFrequency (.finite f) s, setFrf_frf s.chip hfits⟩

theorem freqRegs_rounds_half_up_902 :
    (freqRegs (.finite (9023 / 10))).toNat = 14783321 ∧
    freqRegs (.finite (9023 / 10)) ≤ freqRegs (.finite 915) ∧
    exists s',
      (loraSetFrequency (.finite (9023 / 10))).run exec enabledRadio =
        some (s', ()) ∧ s'.chip.frf = 14783321 := by
  have hrounds := freqRegs_rounds_half_up
  have hvalue : (freqRegs (.finite (9023 / 10))).toNat = 14783321 := by
    have hfloor := hrounds.1 (9023 / 10) (by norm_num) (by norm_num)
    have hsteps : ⌊(9023 / 10 : ℚ) * 10000 / (61035 / 100000) + 1 / 2⌋ =
        14783321 := by
      rw [Int.floor_eq_iff]
      norm_num
    lia
  refine ⟨hvalue, ?_, ?_⟩
  · exact hrounds.2.1 _ _ (by norm_num) (by norm_num) (by norm_num)
  · rw [← hvalue]
    exact (hrounds.2.2 _ (by norm_num) (by norm_num)).2 enabledRadio

end LoRa
end Fluxnode
