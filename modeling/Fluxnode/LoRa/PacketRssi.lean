import Fluxnode.LoRa.Tasks
import Mathlib.Tactic.Linarith

/-!
# The offset of the RSSI

`lora_set_frequency` keeps the frequency in MHz, and `lora_packet_rssi` compares
it with a number of Hz.
-/

namespace Fluxnode
namespace LoRa

open Foundation
open Js (Number)

/-- The RSSI of a packet on frequency `f` in MHz, with `v` in the register. -/
structure RightRssi (f : Number) (v : UInt8) (rssi : Int32) : Prop where
  high : f ≠ .nan -> f.less (.finite 868) = false ->
    rssi = Int32.ofInt v.toNat - 157
  low : f.less (.finite 868) = true -> rssi = Int32.ofInt v.toNat - 164

/-- Below 868 MHz, or above 868 million MHz. -/
def OffsetFits (f : Number) : Prop :=
  f.less (.finite 868) = true ∨ f.less (.finite 868000000) = false

/-- `lora_packet_rssi` behind the access to the register. -/
def rssiOf (v : UInt8) : Prog Int32 := do
  let frequency ← getFrequency
  return Int32.ofInt v.toNat - (if frequency < 868000000 then 164 else 157)

theorem loraPacketRssi_eq :
    loraPacketRssi = .perform (.readReg regPktRssiValue) rssiOf := rfl

/-!
## The frequency
-/

/-- `__frequency` is the one that was last set, without its fraction. -/
def Tracks (s : Radio) : Prop :=
  forall f, s.tuned.getLast? = some f -> s.frequency = Js.requireInt f

theorem Tracks.congr {s s' : Radio} (h : Tracks s)
    (hfrequency : s'.frequency = s.frequency) (htuned : s'.tuned = s.tuned) :
    Tracks s' := by
  intro f hf
  rw [htuned] at hf
  rw [hfrequency]
  exact h f hf

theorem exec_frequency {o : Op} {s s' : Radio} {b : o.Answer}
    (hne : forall frequency, o ≠ .setFrequency frequency)
    (h : exec o s = some (s', b)) : s'.frequency = s.frequency := by
  cases o with
  | setFrequency frequency => exact absurd rfl (hne frequency)
  | malloc size block =>
      cases block with
      | none =>
          cases h
          rfl
      | some block =>
          simp only [exec, Option.ite_none_right_eq_some] at h
          cases h.2
          rfl
  | free a =>
      simp only [exec, Option.ite_none_right_eq_some] at h
      cases h.2
      rfl
  | loadEntry table i =>
      simp only [exec] at h
      split at h
      · cases h
      · cases h
        rfl
  | storeEntry table i value =>
      cases table with
      | none => cases h
      | some a =>
          simp only [exec] at h
          split at h
          · cases h
          · simp only [Option.ite_none_right_eq_some] at h
            cases h.2
            rfl
  | awaitModemState state =>
      simp only [exec, Option.ite_none_left_eq_some] at h
      cases h.2
      rfl
  | awaitIrq mask =>
      simp only [exec, Option.ite_none_right_eq_some] at h
      cases h.2
      rfl
  | fault => cases h
  | _ =>
      cases h
      rfl

theorem Tracks.exec {o : Op} {s s' : Radio} {b : o.Answer} (h : Tracks s)
    (hexec : LoRa.exec o s = some (s', b)) : Tracks s' := by
  by_cases hset : exists frequency, o = .setFrequency frequency
  · rcases hset with ⟨frequency, rfl⟩
    cases hexec
    intro f hf
    rw [List.getLast?_concat] at hf
    cases hf
    rfl
  · have hne : forall frequency, o ≠ .setFrequency frequency :=
      fun frequency heq => hset ⟨frequency, heq⟩
    exact h.congr (exec_frequency hne hexec) ((exec_effect hexec).tuned hne)

theorem interrupt_frequency (s : Radio) (pin : Pin) (cmd : IsrCmd) :
    (s.interrupt pin cmd).frequency = s.frequency := by
  unfold Radio.interrupt
  split <;> rfl

theorem rxDone_frequency (s : Radio) (rx : Reception) :
    (s.rxDone rx).frequency = s.frequency := by
  unfold Radio.rxDone
  split
  · rfl
  · exact interrupt_frequency _ _ _

theorem changeChannel_frequency (s : Radio) (hop : UInt8) :
    (s.changeChannel hop).frequency = s.frequency := by
  unfold Radio.changeChannel
  split
  · rfl
  · exact interrupt_frequency _ _ _

theorem Tracks.modemStep {e : Event} {m m' : Modem} (h : Tracks m.radio)
    (hstep : m.step e = some m') : Tracks m'.radio := by
  cases Modem.step_moves hstep with
  | take hqueue => exact h.congr rfl rfl
  | finish => exact h
  | access hexec => exact h.exec hexec
  | rxDone rx =>
      exact h.congr (rxDone_frequency _ rx) (raised_rxDone _ rx).tuned
  | changeChannel hop =>
      exact h.congr (changeChannel_frequency _ hop)
        (raised_changeChannel _ hop).tuned
  | transmitted htx => exact h.congr rfl rfl

section Runs

variable {C : Type} {program : C -> Prog Returned}

theorem tracks_step (a : Action C) (s s' : System C)
    (h : Tracks s.modem.radio) (hstep : System.step program a s = some s') :
    Tracks s'.modem.radio := by
  cases System.step_moves hstep with
  | call c => exact h
  | returned => exact h
  | access hexec => exact h.exec hexec
  | event he => exact h.modemStep he

theorem tracks_run {s s' : System C} {actions : List (Action C)}
    (hstart : Started s.modem)
    (hrun : runAll (System.step program) actions s = some s') :
    Tracks s'.modem.radio := by
  apply runAll_invariant tracks_step _ hrun
  intro f hf
  rw [hstart.tuned] at hf
  cases hf

end Runs

/-!
## The offset
-/

theorem truncate_lt_iff {q : ℚ} {n : Int} (hpos : 0 < n) :
    Js.truncate q < n <-> q < n := by
  unfold Js.truncate
  split
  · rename_i hneg
    have hzero : (0 : ℚ) < n := by exact_mod_cast hpos
    have hceil : q.ceil ≤ 0 := Rat.ceil_le_iff.mpr hneg.le
    constructor
    · intro _
      exact lt_trans hneg hzero
    · intro _
      exact lt_of_le_of_lt hceil hpos
  · exact Rat.floor_lt_iff

theorem truncate_range {q : ℚ} (hlow : ¬ q < -0x80000000)
    (hhigh : ¬ q > 0x7fffffff) :
    -2 ^ 31 ≤ Js.truncate q ∧ Js.truncate q < 2 ^ 31 := by
  rw [not_lt] at hlow
  rw [gt_iff_lt, not_lt] at hhigh
  unfold Js.truncate
  split
  · rename_i hneg
    have hceil : q.ceil ≤ 0 := Rat.ceil_le_iff.mpr hneg.le
    constructor
    · have hle : ((-2 ^ 31 : Int) : ℚ) ≤ q.ceil := by
        refine le_trans ?_ Rat.le_ceil
        norm_num
        exact hlow
      exact_mod_cast hle
    · lia
  · rename_i hnonneg
    rw [not_lt] at hnonneg
    constructor
    · have hfloor : 0 ≤ q.floor := Rat.le_floor_iff.mpr (by simpa using hnonneg)
      lia
    · rw [Rat.floor_lt_iff]
      norm_num
      linarith

/-- The number of Hz is compared with the number of MHz. -/
theorem requireInt_lt_iff (f : Number) :
    Js.requireInt f < 868000000 <->
      f = .nan ∨ f.less (.finite 868000000) = true := by
  cases f with
  | nan => decide
  | infinity negative => cases negative <;> decide
  | finite q =>
      have hless : Number.less (.finite q) (.finite 868000000) = true <->
          q < 868000000 := decide_eq_true_iff
      rw [hless]
      simp only [Js.requireInt, reduceCtorEq, false_or]
      split
      · rename_i hlow
        constructor
        · intro _
          linarith
        · intro _
          decide
      · rename_i hlow
        split
        · rename_i hhigh
          constructor
          · intro hlt
            exact absurd hlt (by decide)
          · intro hlt
            linarith
        · rename_i hhigh
          have hrange := truncate_range hlow hhigh
          have hint : (868000000 : Int32).toInt = 868000000 := rfl
          rw [Int32.lt_iff_toInt_lt, hint,
            Int32.toInt_ofInt_of_le hrange.1 hrange.2,
            truncate_lt_iff (by decide)]
          norm_num

theorem less_trans_868 {f : Number} (h : f.less (.finite 868) = true) :
    f.less (.finite 868000000) = true := by
  cases f with
  | nan => cases h
  | infinity negative => exact h
  | finite q =>
      have hlt : q < 868 := of_decide_eq_true h
      apply decide_eq_true
      linarith

theorem rssiOf_run (s : Radio) (v : UInt8) :
    (rssiOf v).run exec s =
      some (s, Int32.ofInt v.toNat -
        (if s.frequency < 868000000 then 164 else 157)) := rfl

theorem loraPacketRssi_run (s : Radio) :
    loraPacketRssi.run exec s =
      (rssiOf (s.chip.regs regPktRssiValue)).run exec s := by
  rw [loraPacketRssi_eq, Program.run_perform, exec_readReg,
    s.chip.read_of_ne (by decide)]
  rfl

theorem offsets_differ (x : Int32) : x - 164 ≠ x - 157 := by
  grind

theorem rightRssi_low_iff (f : Number) (v : UInt8) :
    RightRssi f v (Int32.ofInt v.toNat - 164) <->
      f = .nan ∨ f.less (.finite 868) = true := by
  constructor
  · intro h
    by_cases hnan : f = .nan
    · exact Or.inl hnan
    · apply Or.inr
      rw [← Bool.not_eq_false]
      intro hhigh
      exact offsets_differ _ (h.high hnan hhigh)
  · intro h
    constructor
    · intro hnan hhigh
      rcases h with h | hlow
      · exact absurd h hnan
      · rw [hlow] at hhigh
        cases hhigh
    · intro _
      rfl

theorem rightRssi_high_iff (f : Number) (v : UInt8) :
    RightRssi f v (Int32.ofInt v.toNat - 157) <->
      f.less (.finite 868) = false := by
  constructor
  · intro h
    rw [← Bool.not_eq_true]
    intro hlow
    exact offsets_differ _ (h.low hlow).symm
  · intro h
    constructor
    · intro _ _
      rfl
    · intro hlow
      rw [h] at hlow
      cases hlow

theorem rightRssi_iff (f : Number) (v : UInt8) :
    RightRssi f v (Int32.ofInt v.toNat -
        (if Js.requireInt f < 868000000 then 164 else 157)) <->
      OffsetFits f := by
  unfold OffsetFits
  by_cases hlt : Js.requireInt f < 868000000
  · rw [if_pos hlt, rightRssi_low_iff]
    rcases (requireInt_lt_iff f).mp hlt with rfl | hless
    · decide
    · have hne : f ≠ .nan := by
        intro hnan
        rw [hnan] at hless
        cases hless
      simp [hne, hless]
  · have hnot : f.less (.finite 868000000) = false := by
      rw [← Bool.not_eq_true]
      intro hless
      exact hlt ((requireInt_lt_iff f).mpr (Or.inr hless))
    have hhigh : f.less (.finite 868) = false := by
      rw [← Bool.not_eq_true]
      intro hlow
      rw [less_trans_868 hlow] at hnot
      cases hnot
    rw [if_neg hlt, rightRssi_high_iff]
    simp [hnot, hhigh]

/-- The offset is wrong on each frequency that `set_freq` accepts. -/
theorem not_offsetFits_of_accepted {q : ℚ} (hlow : 902 ≤ q) (hhigh : q ≤ 928) :
    ¬ OffsetFits (.finite q) := by
  intro hfits
  rcases hfits with hless | hless
  · have hlt : q < 868 := of_decide_eq_true hless
    linarith
  · have hnot : ¬ q < 868000000 := of_decide_eq_false hless
    exact hnot (by linarith)

section Runs

variable {C : Type} {program : C -> Prog Returned}

/-- In every state of every run: with `v` from the register, `lora_packet_rssi`
returns the RSSI for the frequency that was last set exactly if that is below
868 MHz, or far above any band. -/
theorem packet_rssi_right_iff {s s' : System C} {actions : List (Action C)}
    (hstart : Started s.modem)
    (hrun : runAll (System.step program) actions s = some s') {f : Number}
    (hf : s'.modem.radio.tuned.getLast? = some f) (v : UInt8) :
    exists rssi, (rssiOf v).run exec s'.modem.radio =
        some (s'.modem.radio, rssi) ∧
      (RightRssi f v rssi <-> OffsetFits f) := by
  have htracks := tracks_run hstart hrun f hf
  refine ⟨_, rssiOf_run s'.modem.radio v, ?_⟩
  rw [htracks]
  exact rightRssi_iff f v

end Runs

def tunesTo905 : List (Action Number) :=
  .call (.finite 905) :: List.replicate 5 .app

theorem tunesTo905_run : exists s',
    runAll (System.step setFreq) tunesTo905 ⟨startModem, none⟩ = some s' ∧
      s'.modem.radio.tuned.getLast? = some (.finite 905) := by
  have hrun : (runAll (System.step setFreq) tunesTo905
      ⟨startModem, none⟩).map (fun s => s.modem.radio.tuned) =
      some [.finite 905] := by
    decide
  rcases Option.map_eq_some_iff.mp hrun with ⟨s', hs', htuned⟩
  refine ⟨s', hs', ?_⟩
  rw [htuned]
  rfl

theorem packet_rssi_right_iff_905 : exists s',
    runAll (System.step setFreq) tunesTo905 ⟨startModem, none⟩ = some s' ∧
      exists rssi, (rssiOf 100).run exec s'.modem.radio =
          some (s'.modem.radio, rssi) ∧
        (RightRssi (.finite 905) 100 rssi <-> OffsetFits (.finite 905)) := by
  rcases tunesTo905_run with ⟨s', hrun, hf⟩
  exact ⟨s', hrun, packet_rssi_right_iff started_startModem hrun hf 100⟩

/-- The RSSI on 905 MHz is 7 dB too low. -/
theorem packet_rssi_wrong_905 : exists s' rssi,
    runAll (System.step setFreq) tunesTo905 ⟨startModem, none⟩ = some s' ∧
      s'.modem.radio.tuned.getLast? = some (.finite 905) ∧
      (rssiOf 100).run exec s'.modem.radio = some (s'.modem.radio, rssi) ∧
      rssi = -64 ∧ ¬ RightRssi (.finite 905) 100 rssi := by
  rcases tunesTo905_run with ⟨s', hrun, hf⟩
  have htracks := tracks_run started_startModem hrun _ hf
  refine ⟨s', _, hrun, hf, rssiOf_run s'.modem.radio 100, ?_⟩
  rw [htracks]
  constructor
  · decide
  · rw [rightRssi_iff]
    unfold OffsetFits
    decide

end LoRa
end Fluxnode
