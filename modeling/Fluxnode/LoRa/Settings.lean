import Fluxnode.Foundation.BitField
import Fluxnode.Foundation.Run
import Fluxnode.LoRa.Main

/-!
# The settings of the modem

What the script has set, parameter by parameter, and the registers that follow
from it: fields of different parameters share registers, and a setter writes
those of its own parameter only.
-/

namespace Fluxnode
namespace LoRa

open Foundation
open Foundation.BitField (Layout splice)
open Js (Number)

inductive Setter where
  | setBW (bw : Number)
  | setSF (sf : Number)
  | setCR (cr : Number)
  | setCRC (crc : Bool)
  | setPayloadLen (pl : Number)
  | setIQMode (iq : Bool)
  | setPreambleLen (pl : Number)
  | setSyncWord (sw : Number)
  | setTxPower (txp : Number)
  deriving DecidableEq, Repr

def Setter.program : Setter -> Prog Returned
  | .setBW bw => setBandwidth bw
  | .setSF sf => LoRa.setSf sf
  | .setCR cr => LoRa.setCr cr
  | .setCRC crc => LoRa.setCrc crc
  | .setPayloadLen pl => LoRa.setPayloadLen pl
  | .setIQMode iq => LoRa.setIqMode iq
  | .setPreambleLen pl => LoRa.setPreambleLen pl
  | .setSyncWord sw => LoRa.setSyncWord sw
  | .setTxPower txp => LoRa.setTxPower txp

/-!
## The abstract configuration
-/

/-- The last accepted value of each parameter. -/
structure Config where
  bandwidth : Option (Fin 10)
  spreadingFactor : Option (Fin 16)
  codingRate : Option (Fin 8)
  crc : Option Bool
  implicit : Option Bool
  /-- The last length that was not 0. -/
  payloadLength : Option UInt8
  invertIq : Option Bool
  preambleLength : Option UInt16
  syncWord : Option UInt8
  txPower : Option UInt8
  deriving DecidableEq, Repr

def Config.unset : Config :=
  ⟨none, none, none, none, none, none, none, none, none, none⟩

/-- The parameter that a call sets, when its value is in range. -/
def Config.accept (c : Config) : Setter -> Config
  | .setBW bw =>
      let bw := Js.requireInt bw
      if 7800 ≤ bw ∧ bw ≤ 500000 then
        { c with bandwidth := some (Fin.ofNat 10 (bandwidthCode bw).toNat) }
      else c
  | .setSF sf =>
      let sf := Js.requireInt sf
      if 6 ≤ sf ∧ sf ≤ 12 then
        { c with spreadingFactor := some (Fin.ofNat 16 sf.toInt.toNat) }
      else c
  | .setCR cr =>
      let cr := Js.requireInt cr
      if 5 ≤ cr ∧ cr ≤ 8 then
        { c with codingRate := some (Fin.ofNat 8 (cr.toInt.toNat - 4)) }
      else c
  | .setCRC crc => { c with crc := some crc }
  | .setPayloadLen pl =>
      let pl := Js.requireInt pl
      if pl = 0 then
        { c with implicit := some false }
      else if 0 < pl ∧ pl < 256 then
        { c with
          implicit := some true
          payloadLength := some (UInt8.ofNat pl.toInt.toNat) }
      else c
  | .setIQMode iq => { c with invertIq := some iq }
  | .setPreambleLen pl =>
      let pl := Js.requireInt pl
      if 0 ≤ pl ∧ pl ≤ 0xffff then
        { c with preambleLength := some (UInt16.ofNat pl.toInt.toNat) }
      else c
  | .setSyncWord sw =>
      { c with syncWord := some (Js.requireUint sw).toUInt8 }
  | .setTxPower txp =>
      let txp := Js.requireUint txp
      if 2 ≤ txp ∧ txp ≤ 17 then
        { c with txPower := some txp.toUInt8 }
      else c

/-!
## Fields of the registers
-/

inductive Field where
  | bandwidth
  | codingRate
  | headerMode
  | spreadingFactor
  | crc
  | detectionOptimize
  | detectionThreshold
  | payloadLength
  | invertIq
  | preambleMsb
  | preambleLsb
  | syncWord
  | paConfig
  deriving DecidableEq, Repr

def Field.reg : Field -> Register
  | .bandwidth => regModemConfig1
  | .codingRate => regModemConfig1
  | .headerMode => regModemConfig1
  | .spreadingFactor => regModemConfig2
  | .crc => regModemConfig2
  | .detectionOptimize => regDetectionOptimize
  | .detectionThreshold => regDetectionThreshold
  | .payloadLength => regPayloadLength
  | .invertIq => regInvertIq1
  | .preambleMsb => regPreambleMsb
  | .preambleLsb => regPreambleLsb
  | .syncWord => regSyncWord
  | .paConfig => regPaConfig

def Field.mask : Field -> UInt8
  | .bandwidth => 0xf0
  | .codingRate => 0x0e
  | .headerMode => 0x01
  | .spreadingFactor => 0xf0
  | .crc => 0x04
  | .invertIq => 0x40
  | _ => 0xff

def layout : Layout Field Register where
  fields := [.bandwidth, .codingRate, .headerMode, .spreadingFactor, .crc,
    .detectionOptimize, .detectionThreshold, .payloadLength, .invertIq,
    .preambleMsb, .preambleLsb, .syncWord, .paConfig]
  reg := Field.reg
  mask := Field.mask
  nodup := by decide
  complete := by
    intro f
    cases f <;> decide
  disjoint := by
    intro f g hne hreg
    cases f <;> cases g <;> revert hne hreg <;> decide

def Config.value (c : Config) : Field -> Option UInt8
  | .bandwidth => c.bandwidth.map (fun b => UInt8.ofNat b.val <<< 4)
  | .codingRate => c.codingRate.map (fun cr => UInt8.ofNat cr.val <<< 1)
  | .headerMode => c.implicit.map (fun b => if b then 0x01 else 0)
  | .spreadingFactor =>
      c.spreadingFactor.map (fun sf => UInt8.ofNat sf.val <<< 4)
  | .crc => c.crc.map (fun b => if b then 0x04 else 0)
  | .detectionOptimize =>
      c.spreadingFactor.map (fun sf => if sf = 6 then 0xc5 else 0xc3)
  | .detectionThreshold =>
      c.spreadingFactor.map (fun sf => if sf = 6 then 0x0c else 0x0a)
  | .payloadLength => c.payloadLength
  | .invertIq => c.invertIq.map (fun b => if b then 0x40 else 0)
  | .preambleMsb =>
      c.preambleLength.map (fun n => UInt16.toUInt8 (n >>> (8 : UInt16)))
  | .preambleLsb => c.preambleLength.map (fun n => n.toUInt8)
  | .syncWord => c.syncWord
  | .paConfig => c.txPower.map (fun level => 0x80 ||| (level - 2))

/-- The registers under a configuration, from what they held at first. -/
def Config.registers (c : Config) (regs : Registers) : Registers :=
  layout.overlay c.value regs

/-!
## Programs that write fields
-/

def Radio.setField (s : Radio) (f : Field) (x : UInt8) : Radio :=
  s.setChip (s.chip.set f.reg (splice f.mask x (s.chip.regs f.reg)))

@[simp] theorem setField_regs (s : Radio) (f : Field) (x : UInt8) :
    (s.setField f x).chip.regs = layout.write f x s.chip.regs := rfl

theorem Field.plain (f : Field) : f.reg.Plain := by
  cases f <;> decide

theorem run_writeReg {s : Radio} {reg : Register} {val : UInt8}
    (h : reg.Plain) :
    (writeReg reg val).run exec s =
      some (s.setChip (s.chip.set reg val), ()) := by
  simp [writeReg, s.chip.write_of_plain h]

theorem run_readReg {s : Radio} {reg : Register} (h : reg ≠ regFifo) :
    (readReg reg).run exec s = some (s, s.chip.regs reg) := by
  simp [readReg, s.chip.read_of_ne h]

theorem run_modify {s : Radio} {reg : Register} (f : Field) {x : UInt8}
    {g : UInt8 -> UInt8} (hreg : f.reg = reg)
    (h : forall r, g r = splice f.mask x r) :
    ((readReg reg).bind (fun config => writeReg reg (g config))).run exec s =
      some (s.setField f x, ()) := by
  subst reg
  rw [Program.run_bind, run_readReg f.plain.1, Option.bind_some,
    run_writeReg f.plain, h]
  rfl

theorem run_modify_bind {α : Type} {s : Radio} {reg : Register} (f : Field)
    {x : UInt8} {g : UInt8 -> UInt8} {next : Unit -> Prog α}
    (hreg : f.reg = reg) (h : forall r, g r = splice f.mask x r) :
    ((readReg reg).bind (fun config =>
        (writeReg reg (g config)).bind next)).run exec s =
      (next ()).run exec (s.setField f x) := by
  subst reg
  rw [Program.run_bind, run_readReg f.plain.1, Option.bind_some,
    Program.run_bind, run_writeReg f.plain, Option.bind_some, h]
  rfl

theorem run_write_field {s : Radio} {reg : Register} (f : Field) {x : UInt8}
    (hreg : f.reg = reg) (h : f.mask = 0xff) :
    (writeReg reg x).run exec s = some (s.setField f x, ()) := by
  subst reg
  rw [run_writeReg f.plain, Radio.setField, h, BitField.splice_all]

theorem run_write_field_bind {α : Type} {s : Radio} {reg : Register}
    (f : Field) {x : UInt8} {next : Unit -> Prog α} (hreg : f.reg = reg)
    (h : f.mask = 0xff) :
    ((writeReg reg x).bind next).run exec s =
      (next ()).run exec (s.setField f x) := by
  rw [Program.run_bind, run_write_field f hreg h, Option.bind_some]

/-!
## The functions of the driver
-/

section Driver

variable (s : Radio)

theorem bandwidthCode_le (sbw : Int32) : bandwidthCode sbw ≤ 9 := by
  unfold bandwidthCode
  repeat' split
  all_goals decide

theorem shifted_inside : forall code : Fin 16,
    (UInt8.ofNat code.val <<< 4) &&& (0xf0 : UInt8) =
      UInt8.ofNat code.val <<< 4 := by
  decide

theorem eq_of_cr_range {cr : Int32} (h : 5 ≤ cr ∧ cr ≤ 8) :
    cr = 5 ∨ cr = 6 ∨ cr = 7 ∨ cr = 8 := by
  simp only [Int32.le_iff_toInt_le, ← Int32.toInt_inj] at *
  lia

theorem preambleMsb_eq {x : Int32} (h : 0 ≤ x ∧ x ≤ 0xffff) :
    (x >>> 8).toUInt32.toUInt8 =
      (UInt16.ofNat x.toNatClampNeg >>> 8).toUInt8 := by
  have hlow := Int32.le_iff_toInt_le.mp h.1
  have hhigh := Int32.le_iff_toInt_le.mp h.2
  change 0 ≤ x.toInt at hlow
  change x.toInt ≤ 0xffff at hhigh
  have hnat := Int32.toNat_toInt x
  have hmsb : x.toBitVec.msb = false := by
    rw [BitVec.msb_eq_toInt]
    exact decide_eq_false (by rw [Int32.toInt_toBitVec]; lia)
  have hshift : (x >>> 8).toUInt32.toNat = x.toNatClampNeg / 256 := by
    rw [← Int32.toNat_toBitVec, Int32.toBitVec_shiftRight]
    change (x.toBitVec.sshiftRight 8).toNat = _
    rw [BitVec.toNat_sshiftRight_of_msb_false hmsb, Nat.shiftRight_eq_div_pow,
      Int32.toNat_toBitVec_of_le h.1]
  have hmod : x.toNatClampNeg % 65536 = x.toNatClampNeg :=
    Nat.mod_eq_of_lt (by lia)
  apply UInt8.toNat_inj.mp
  simp [hshift, hmod, Nat.shiftRight_eq_div_pow]

theorem toUInt8_eq_ofNat {x : Int32} (h : 0 ≤ x) :
    x.toUInt32.toUInt8 = UInt8.ofNat x.toNatClampNeg := by
  apply UInt8.toNat_inj.mp
  simp [Int32.toNat_toUInt32_of_le h]

theorem toInt32_range {x : UInt32} (h : 2 ≤ x ∧ x ≤ 17) :
    2 ≤ x.toInt32 ∧ x.toInt32 ≤ 17 := by
  have hlow := UInt32.le_iff_toNat_le.mp h.1
  have hhigh := UInt32.le_iff_toNat_le.mp h.2
  change 2 ≤ x.toNat at hlow
  change x.toNat ≤ 17 at hhigh
  have hint : x.toInt32.toInt = x.toNat := by
    rw [← Int32.toInt_toBitVec, UInt32.toBitVec_toInt32,
      BitVec.toInt_eq_toNat_of_lt]
    · rfl
    · change 2 * x.toNat < _
      lia
  simp only [Int32.le_iff_toInt_le, hint]
  change (2 : Int) ≤ _ ∧ _ ≤ (17 : Int)
  lia

theorem run_loraSetBandwidth (sbw : Int32) :
    (loraSetBandwidth sbw).run exec s =
      some (s.setField .bandwidth (bandwidthCode sbw <<< 4), ()) := by
  apply run_modify .bandwidth rfl
  intro r
  have hcode := bandwidthCode_le sbw
  have hinside := shifted_inside ⟨(bandwidthCode sbw).toNat, by
    have := UInt8.le_iff_toNat_le.mp hcode
    lia⟩
  simp only [UInt8.ofNat_toNat] at hinside
  exact (BitField.splice_of_inside hinside r).symm

theorem eq_of_sf_range {sf : Int32} (h : 6 ≤ sf ∧ sf ≤ 12) :
    sf = 6 ∨ sf = 7 ∨ sf = 8 ∨ sf = 9 ∨ sf = 10 ∨ sf = 11 ∨ sf = 12 := by
  simp only [Int32.le_iff_toInt_le, ← Int32.toInt_inj] at *
  lia

theorem run_loraEnableCrc :
    loraEnableCrc.run exec s = some (s.setField .crc 0x04, ()) := by
  apply run_modify .crc rfl
  intro r
  exact (BitField.splice_self 0x04 r).symm

theorem run_loraDisableCrc :
    loraDisableCrc.run exec s = some (s.setField .crc 0, ()) := by
  apply run_modify .crc rfl
  intro r
  exact (BitField.splice_zero 0x04 r).symm

theorem run_loraEnableInvertIq :
    loraEnableInvertIq.run exec s = some (s.setField .invertIq 0x40, ()) := by
  apply run_modify .invertIq rfl
  intro r
  exact (BitField.splice_self 0x40 r).symm

theorem run_loraDisableInvertIq :
    loraDisableInvertIq.run exec s = some (s.setField .invertIq 0, ()) := by
  apply run_modify .invertIq rfl
  intro r
  exact (BitField.splice_zero 0x40 r).symm

theorem run_loraSetSyncWord (sw : UInt8) :
    (loraSetSyncWord sw).run exec s = some (s.setField .syncWord sw, ()) :=
  run_write_field .syncWord rfl rfl

theorem run_loraExplicitHeaderMode :
    loraExplicitHeaderMode.run exec s =
      some ((s.setImplicit false).setField .headerMode 0, ()) := by
  rw [loraExplicitHeaderMode, access, Program.bind_eq, Program.run_bind,
    Program.run_op, exec_setImplicit, Option.bind_some]
  exact run_modify .headerMode rfl
    (fun r => (BitField.splice_zero 0x01 r).symm)

theorem run_loraImplicitHeaderMode (size : Int32) :
    (loraImplicitHeaderMode size).run exec s =
      some (((s.setImplicit true).setField .headerMode 0x01).setField
        .payloadLength size.toUInt32.toUInt8, ()) := by
  rw [loraImplicitHeaderMode, access, Program.bind_eq, Program.run_bind,
    Program.run_op, exec_setImplicit, Option.bind_some]
  refine (run_modify_bind .headerMode rfl
    (fun r => (BitField.splice_self 0x01 r).symm)).trans ?_
  exact run_write_field .payloadLength rfl rfl

theorem run_loraSetPreambleLength (length : Int32) :
    (loraSetPreambleLength length).run exec s =
      some ((s.setField .preambleMsb (length >>> 8).toUInt32.toUInt8).setField
        .preambleLsb (length >>> 0).toUInt32.toUInt8, ()) := by
  rw [loraSetPreambleLength, Program.bind_eq]
  apply (run_write_field_bind .preambleMsb rfl rfl).trans
  exact run_write_field .preambleLsb rfl rfl

theorem run_loraSetCodingRate {denominator : Int32}
    (h : 5 ≤ denominator ∧ denominator ≤ 8) :
    (loraSetCodingRate denominator).run exec s =
      some (s.setField .codingRate
        ((denominator - 4).toUInt32.toUInt8 <<< 1), ()) := by
  have hcases := eq_of_cr_range h
  have hinside : ((denominator - 4).toUInt32.toUInt8 <<< 1) &&& Field.mask
      .codingRate = (denominator - 4).toUInt32.toUInt8 <<< 1 := by
    rcases hcases with heq | heq | heq | heq <;> subst heq <;> decide
  have hclamp : (if denominator < 5 then 5 else
      if denominator > 8 then 8 else denominator) = denominator := by
    rw [if_neg (Int32.not_lt.mpr h.1), if_neg (Int32.not_lt.mpr h.2)]
  unfold loraSetCodingRate
  simp only [hclamp]
  exact run_modify .codingRate rfl
    (fun r => (BitField.splice_of_inside hinside r).symm)

theorem run_loraSetSpreadingFactor {sf : Int32} (h : 6 ≤ sf ∧ sf ≤ 12) :
    (loraSetSpreadingFactor sf).run exec s =
      some (((s.setField .detectionOptimize
          (if sf = 6 then 0xc5 else 0xc3)).setField
        .detectionThreshold (if sf = 6 then 0x0c else 0x0a)).setField
        .spreadingFactor (sf.toUInt32.toUInt8 <<< 4), ()) := by
  have hclamp :
      (if sf < 6 then 6 else if sf > 12 then 12 else sf) = sf := by
    rw [if_neg (Int32.not_lt.mpr h.1), if_neg (Int32.not_lt.mpr h.2)]
  unfold loraSetSpreadingFactor
  simp only [hclamp, Program.bind_eq]
  split
  · apply (run_write_field_bind .detectionOptimize rfl rfl).trans
    apply (run_write_field_bind .detectionThreshold rfl rfl).trans
    exact run_modify .spreadingFactor rfl (fun r => rfl)
  · apply (run_write_field_bind .detectionOptimize rfl rfl).trans
    apply (run_write_field_bind .detectionThreshold rfl rfl).trans
    exact run_modify .spreadingFactor rfl (fun r => rfl)

theorem run_loraSetTxPower {level : Int32} (h : 2 ≤ level ∧ level ≤ 17) :
    (loraSetTxPower level).run exec s =
      some (s.setField .paConfig
        (paBoost ||| (level - 2).toUInt32.toUInt8), ()) := by
  have hclamp :
      (if level < 2 then 2 else if level > 17 then 17 else level) = level := by
    rw [if_neg (Int32.not_lt.mpr h.1), if_neg (Int32.not_lt.mpr h.2)]
  unfold loraSetTxPower
  simp only [hclamp]
  exact run_write_field .paConfig rfl rfl

end Driver

/-!
## The setters follow the configuration
-/

structure Configured (regs : Registers) (c : Config) (s : Radio) : Prop where
  registers : s.chip.regs = c.registers regs
  implicit : forall b, c.implicit = some b -> s.implicit = b

/-- A call leaves the radio set up as a configuration says, and leaves it alone
where it returns `false`. -/
def Configures (regs : Registers) (c : Config) (s : Radio)
    (p : Prog Returned) : Prop :=
  exists s' r, p.run exec s = some (s', r) ∧ Configured regs c s' ∧
    (r = .boolean false -> s' = s)

section Setters

variable {regs : Registers} {c : Config} {s : Radio}

theorem overlay_setField {v : Field -> Option UInt8} {f : Field} {x : UInt8}
    (h : s.chip.regs = layout.overlay v regs) :
    (s.setField f x).chip.regs =
      layout.overlay (Function.update v f (some x)) regs := by
  rw [setField_regs, h, Layout.overlay_update]

/-- The rule for a parameter in a field of its own. -/
theorem Configured.setField {c' : Config} {f : Field} {x : UInt8}
    (h : Configured regs c s)
    (hvalue : Function.update c.value f (some x) = c'.value)
    (himplicit : c'.implicit = c.implicit) :
    Configured regs c' (s.setField f x) := by
  refine ⟨?_, ?_⟩
  · rw [Config.registers, ← hvalue]
    exact overlay_setField h.registers
  · intro b hb
    rw [himplicit] at hb
    exact h.implicit b hb

theorem configures_settingIf {accepted : Bool} {p : Prop} [Decidable p]
    {set : Prog Unit} {s' : Radio} {c' : Config} (h : Configured regs c s)
    (haccepted : accepted = true ↔ p)
    (hrun : p -> set.run exec s = some (s', ()))
    (hs' : p -> Configured regs c' s') :
    Configures regs (if p then c' else c) s (settingIf accepted set) := by
  unfold settingIf
  cases hacc : accepted with
  | false =>
      have hp : ¬ p := fun hp => by simp [haccepted.mpr hp] at hacc
      rw [if_neg hp]
      exact ⟨s, .boolean false, rfl, h, fun _ => rfl⟩
  | true =>
      have hp : p := haccepted.mp hacc
      rw [if_pos hp]
      refine ⟨s', .boolean true, ?_, hs' hp, by simp⟩
      simp [hrun hp]

theorem settingIf_true {set : Prog Unit} {s' : Radio}
    (h : set.run exec s = some (s', ())) :
    (settingIf true set).run exec s = some (s', .boolean true) := by
  simp [settingIf, h]

theorem Configured.registers' (h : Configured regs c s) (implicit : Bool) :
    (s.setImplicit implicit).chip.regs = layout.overlay c.value regs :=
  h.registers

theorem configures_setBandwidth (h : Configured regs c s) (bw : Number) :
    Configures regs (c.accept (.setBW bw)) s (setBandwidth bw) := by
  apply configures_settingIf h
  · simp [Int32.not_lt]
  · intro hbw
    exact run_loraSetBandwidth s _
  · intro hbw
    refine h.setField ?_ rfl
    funext f
    have hcode := UInt8.le_iff_toNat_le.mp (bandwidthCode_le (Js.requireInt bw))
    have hlt : (bandwidthCode (Js.requireInt bw)).toNat % 10 =
        (bandwidthCode (Js.requireInt bw)).toNat := Nat.mod_eq_of_lt (by
      change _ ≤ 9 at hcode
      lia)
    cases f <;> simp [Config.value, hlt]

theorem configures_setSf (h : Configured regs c s) (sf : Number) :
    Configures regs (c.accept (.setSF sf)) s (setSf sf) := by
  apply configures_settingIf h
  · simp [Int32.not_lt]
  · intro hsf
    exact run_loraSetSpreadingFactor s hsf
  · intro hsf
    refine ⟨?_, h.implicit⟩
    rw [overlay_setField (overlay_setField (overlay_setField h.registers))]
    rw [Config.registers]
    congr 1
    funext f
    rcases eq_of_sf_range hsf with heq | heq | heq | heq | heq | heq | heq <;>
      rw [heq] <;> cases f <;> rfl

theorem configures_setCr (h : Configured regs c s) (cr : Number) :
    Configures regs (c.accept (.setCR cr)) s (setCr cr) := by
  apply configures_settingIf h
  · simp [Int32.not_lt]
  · intro hcr
    exact run_loraSetCodingRate s hcr
  · intro hcr
    refine h.setField ?_ rfl
    funext f
    rcases eq_of_cr_range hcr with heq | heq | heq | heq <;>
      rw [heq] <;> cases f <;> rfl

theorem configures_setPreambleLen (h : Configured regs c s) (pl : Number) :
    Configures regs (c.accept (.setPreambleLen pl)) s (setPreambleLen pl) := by
  apply configures_settingIf h
  · simp [Int32.not_lt]
  · intro hpl
    exact run_loraSetPreambleLength s _
  · intro hpl
    refine ⟨?_, h.implicit⟩
    rw [overlay_setField (overlay_setField h.registers)]
    rw [Config.registers]
    congr 1
    funext f
    cases f <;> simp [Config.value, preambleMsb_eq hpl,
      toUInt8_eq_ofNat hpl.1]

theorem configures_setTxPower (h : Configured regs c s) (txp : Number) :
    Configures regs (c.accept (.setTxPower txp)) s (setTxPower txp) := by
  apply configures_settingIf h
  · simp [UInt32.not_lt]
  · intro htxp
    exact run_loraSetTxPower s (toInt32_range htxp)
  · intro htxp
    refine h.setField ?_ rfl
    funext f
    cases f <;> simp [Config.value]
    rfl

theorem configures_setPayloadLen (h : Configured regs c s) (pl : Number) :
    Configures regs (c.accept (.setPayloadLen pl)) s (setPayloadLen pl) := by
  unfold setPayloadLen
  simp only [Config.accept]
  rcases eq_or_ne (Js.requireInt pl) 0 with hzero | hne
  · have hnot : ¬ (Js.requireInt pl > 0 ∧ Js.requireInt pl < 256) := by
      rw [hzero]
      decide
    rw [if_pos hzero, if_neg hnot, decide_eq_true hzero]
    refine ⟨_, .boolean true, settingIf_true (run_loraExplicitHeaderMode s),
      ⟨?_, ?_⟩, by simp⟩
    · rw [overlay_setField (h.registers' false), Config.registers]
      congr 1
      funext f
      cases f <;> rfl
    · intro b hb
      cases hb
      rfl
  · rw [if_neg hne, decide_eq_false hne]
    split
    · rename_i hpl
      refine ⟨_, .boolean true, settingIf_true (run_loraImplicitHeaderMode s _),
        ⟨?_, ?_⟩, by simp⟩
      · rw [overlay_setField (overlay_setField (h.registers' true)),
          Config.registers]
        congr 1
        funext f
        cases f <;> simp [Config.value, toUInt8_eq_ofNat (Int32.le_of_lt hpl.1)]
      · intro b hb
        cases hb
        rfl
    · exact ⟨s, .boolean false, rfl, h, fun _ => rfl⟩

theorem configures_setCrc (h : Configured regs c s) (crc : Bool) :
    Configures regs (c.accept (.setCRC crc)) s (setCrc crc) := by
  cases crc with
  | false =>
      refine ⟨s.setField .crc 0, .undefined, ?_, ?_, by simp⟩
      · simp [setCrc, run_loraDisableCrc]
      · refine h.setField ?_ rfl
        funext f
        cases f <;> rfl
  | true =>
      refine ⟨s.setField .crc 0x04, .undefined, ?_, ?_, by simp⟩
      · simp [setCrc, run_loraEnableCrc]
      · refine h.setField ?_ rfl
        funext f
        cases f <;> rfl

theorem configures_setIqMode (h : Configured regs c s) (iq : Bool) :
    Configures regs (c.accept (.setIQMode iq)) s (setIqMode iq) := by
  cases iq with
  | false =>
      refine ⟨s.setField .invertIq 0, .undefined, ?_, ?_, by simp⟩
      · simp [setIqMode, run_loraDisableInvertIq]
      · refine h.setField ?_ rfl
        funext f
        cases f <;> rfl
  | true =>
      refine ⟨s.setField .invertIq 0x40, .undefined, ?_, ?_, by simp⟩
      · simp [setIqMode, run_loraEnableInvertIq]
      · refine h.setField ?_ rfl
        funext f
        cases f <;> rfl

theorem configures_setSyncWord (h : Configured regs c s) (sw : Number) :
    Configures regs (c.accept (.setSyncWord sw)) s (setSyncWord sw) := by
  refine ⟨s.setField .syncWord (Js.requireUint sw).toUInt8, .undefined, ?_, ?_,
    by simp⟩
  · simp [setSyncWord, run_loraSetSyncWord]
  · refine h.setField ?_ rfl
    funext f
    cases f <;> rfl

theorem configures_setter (h : Configured regs c s) (call : Setter) :
    Configures regs (c.accept call) s call.program := by
  cases call with
  | setBW bw => exact configures_setBandwidth h bw
  | setSF sf => exact configures_setSf h sf
  | setCR cr => exact configures_setCr h cr
  | setCRC crc => exact configures_setCrc h crc
  | setPayloadLen pl => exact configures_setPayloadLen h pl
  | setIQMode iq => exact configures_setIqMode h iq
  | setPreambleLen pl => exact configures_setPreambleLen h pl
  | setSyncWord sw => exact configures_setSyncWord h sw
  | setTxPower txp => exact configures_setTxPower h txp

end Setters

/-!
## Runs
-/

def callSetter (call : Setter) (s : Radio) : Option Radio :=
  (call.program.run exec s).map Prod.fst

def configAfter (calls : List Setter) : Config :=
  calls.foldl Config.accept .unset

theorem configured_run {regs : Registers} {c : Config} {s : Radio}
    (h : Configured regs c s) (calls : List Setter) :
    exists s', runAll callSetter calls s = some s' ∧
      Configured regs (calls.foldl Config.accept c) s' := by
  induction calls generalizing c s with
  | nil => exact ⟨s, rfl, h⟩
  | cons call rest ih =>
      rcases configures_setter h call with ⟨mid, r, hrun, hmid, -⟩
      rcases ih hmid with ⟨s', hs', hconfigured⟩
      refine ⟨s', ?_, hconfigured⟩
      have hstep : callSetter call s = some mid := by
        rw [callSetter, hrun]
        rfl
      simp only [runAll, hstep]
      exact hs'

theorem configured_unset (s : Radio) :
    Configured s.chip.regs .unset s := by
  refine ⟨?_, by simp [Config.unset]⟩
  have hvalue : Config.unset.value = fun _ => none := by
    funext f
    cases f <;> rfl
  rw [Config.registers, hvalue, Layout.overlay_none]

/-!
## Reading back
-/

theorem Config.registers_field (c : Config) (regs : Registers) (f : Field) :
    c.registers regs f.reg &&& f.mask =
      (c.value f).getD (regs f.reg) &&& f.mask :=
  Layout.overlay_and f c.value regs

theorem run_loraGetSettings (s : Radio) :
    loraGetSettings.run exec s = some (s,
      (s.chip.regs regModemConfig1 &&& 0xf0) >>> 4,
      (s.chip.regs regModemConfig1 &&& 0x0f) >>> 1,
      (s.chip.regs regModemConfig2 &&& 0xf0) >>> 4) := by
  have h1 := @run_readReg s regModemConfig1 (by decide)
  have h2 := @run_readReg s regModemConfig2 (by decide)
  simp [loraGetSettings, h1, h2]

theorem shift_low_bits (r : UInt8) :
    (r &&& 0x0f) >>> 1 = (r &&& 0x0e) >>> 1 := by
  have h : forall b : BitVec 8,
      (b &&& 0x0f) >>> (1 : BitVec 8) = (b &&& 0x0e) >>> (1 : BitVec 8) := by
    decide
  apply UInt8.eq_of_toBitVec_eq
  exact h r.toBitVec

theorem read_bandwidth {c : Config} {b : Fin 10} (h : c.bandwidth = some b)
    (regs : Registers) :
    (c.registers regs regModemConfig1 &&& 0xf0) >>> 4 = UInt8.ofNat b.val := by
  have hvalue : c.value .bandwidth = some (UInt8.ofNat b.val <<< 4) := by
    rw [Config.value, h]
    rfl
  have hfield := c.registers_field regs .bandwidth
  rw [hvalue] at hfield
  have hcode : forall b : Fin 10,
      ((UInt8.ofNat b.val <<< 4) &&& (0xf0 : UInt8)) >>> 4 =
        UInt8.ofNat b.val := by
    decide
  exact (congrArg (fun r : UInt8 => r >>> 4) hfield).trans (hcode b)

theorem read_spreadingFactor {c : Config} {sf : Fin 16}
    (h : c.spreadingFactor = some sf) (regs : Registers) :
    (c.registers regs regModemConfig2 &&& 0xf0) >>> 4 =
      UInt8.ofNat sf.val := by
  have hvalue : c.value .spreadingFactor = some (UInt8.ofNat sf.val <<< 4) := by
    rw [Config.value, h]
    rfl
  have hfield := c.registers_field regs .spreadingFactor
  rw [hvalue] at hfield
  have hcode : forall sf : Fin 16,
      ((UInt8.ofNat sf.val <<< 4) &&& (0xf0 : UInt8)) >>> 4 =
        UInt8.ofNat sf.val := by
    decide
  exact (congrArg (fun r : UInt8 => r >>> 4) hfield).trans (hcode sf)

theorem read_codingRate {c : Config} {cr : Fin 8}
    (h : c.codingRate = some cr) (regs : Registers) :
    (c.registers regs regModemConfig1 &&& 0x0f) >>> 1 =
      UInt8.ofNat cr.val := by
  have hvalue : c.value .codingRate = some (UInt8.ofNat cr.val <<< 1) := by
    rw [Config.value, h]
    rfl
  have hfield := c.registers_field regs .codingRate
  rw [hvalue] at hfield
  have hcode : forall cr : Fin 8,
      ((UInt8.ofNat cr.val <<< 1) &&& (0x0e : UInt8)) >>> 1 =
        UInt8.ofNat cr.val := by
    decide
  rw [shift_low_bits]
  exact (congrArg (fun r : UInt8 => r >>> 1) hfield).trans (hcode cr)

theorem read_headerMode {c : Config} {b : Bool} (h : c.implicit = some b)
    (regs : Registers) :
    c.registers regs regModemConfig1 &&& 0x01 = if b then 0x01 else 0 := by
  have hvalue : c.value .headerMode = some (if b then 0x01 else 0) := by
    rw [Config.value, h]
    rfl
  have hfield := c.registers_field regs .headerMode
  rw [hvalue] at hfield
  have hcode : forall b : Bool,
      (if b then 0x01 else 0 : UInt8) &&& 0x01 = if b then 0x01 else 0 := by
    decide
  exact hfield.trans (hcode b)

/-- A call that returns `false` changes nothing. -/
theorem setter_rejected {call : Setter} {s s' : Radio}
    (h : call.program.run exec s = some (s', .boolean false)) : s' = s := by
  rcases configures_setter (configured_unset s) call with
    ⟨t, r, hrun, -, hrejected⟩
  rw [h, Option.some.injEq, Prod.mk.injEq] at hrun
  rw [hrun.1]
  exact hrejected hrun.2.symm

/-- The setters of the script are independent: the registers are those of the
last accepted value of each parameter over what they held at first, and
`lora_get_settings` and `__implicit` agree with them; a call that returns
`false` changes nothing. -/
theorem setters_configure (s : Radio) (calls : List Setter) :
    (exists s', runAll callSetter calls s = some s' ∧
      s'.chip.regs = (configAfter calls).registers s.chip.regs ∧
      (exists bw cr sf, loraGetSettings.run exec s' = some (s', bw, cr, sf) ∧
        (forall b, (configAfter calls).bandwidth = some b ->
          bw = UInt8.ofNat b.val) ∧
        (forall d, (configAfter calls).codingRate = some d ->
          cr = UInt8.ofNat d.val) ∧
        (forall f, (configAfter calls).spreadingFactor = some f ->
          sf = UInt8.ofNat f.val)) ∧
      ((configAfter calls).implicit.isSome ->
        (s'.implicit = true ↔ s'.chip.regs regModemConfig1 &&& 0x01 ≠ 0))) ∧
    forall (call : Setter) (t t' : Radio),
      call.program.run exec t = some (t', .boolean false) -> t' = t := by
  refine ⟨?_, fun call t t' => setter_rejected⟩
  rcases configured_run (configured_unset s) calls with ⟨s', hrun, h⟩
  refine ⟨s', hrun, h.registers, ⟨_, _, _, run_loraGetSettings s', ?_⟩, ?_⟩
  · rw [h.registers]
    exact ⟨fun b hb => read_bandwidth hb _, fun d hd => read_codingRate hd _,
      fun f hf => read_spreadingFactor hf _⟩
  · intro hsome
    rcases Option.isSome_iff_exists.mp hsome with ⟨b, hb⟩
    rw [h.implicit b hb, h.registers]
    change _ ↔ (configAfter calls).registers _ _ &&& 0x01 ≠ 0
    rw [read_headerMode hb]
    cases b <;> decide

end LoRa
end Fluxnode
