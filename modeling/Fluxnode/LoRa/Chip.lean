import Fluxnode.Foundation.BitField

/-!
# The radio chip

The registers of the chip, as its driver sees them over the bus.  A write to
`REG_IRQ_FLAGS` clears the flags that are set in the value, and `REG_FIFO` is a
window on the byte that `REG_FIFO_ADDR_PTR` points to, which moves on with every
access.
-/

namespace Fluxnode
namespace LoRa

open Foundation

abbrev Register := Fin 128

def regFifo : Register := 0x00
def regOpMode : Register := 0x01
def regFrfMsb : Register := 0x06
def regFrfMid : Register := 0x07
def regFrfLsb : Register := 0x08
def regPaConfig : Register := 0x09
def regFifoAddrPtr : Register := 0x0d
def regFifoRxCurrentAddr : Register := 0x10
def regIrqFlags : Register := 0x12
def regRxNbBytes : Register := 0x13
def regPktSnrValue : Register := 0x19
def regPktRssiValue : Register := 0x1a
def regHopChannel : Register := 0x1c
def regModemConfig1 : Register := 0x1d
def regModemConfig2 : Register := 0x1e
def regPreambleMsb : Register := 0x20
def regPreambleLsb : Register := 0x21
def regPayloadLength : Register := 0x22
def regHopPeriod : Register := 0x24
def regDetectionOptimize : Register := 0x31
def regInvertIq1 : Register := 0x33
def regDetectionThreshold : Register := 0x37
def regSyncWord : Register := 0x39
def regDioMapping1 : Register := 0x40

def modeLongRangeMode : UInt8 := 0x80
def modeSleep : UInt8 := 0x00
def modeStdby : UInt8 := 0x01
def modeTx : UInt8 := 0x03
def modeRxContinuous : UInt8 := 0x05
/-- Not a mode of the chip: the driver reads the buffer. -/
def modeRxReadBuf : UInt8 := 0x07

def paBoost : UInt8 := 0x80

def irqTxDoneMask : UInt8 := 0x08
def irqPayloadCrcErrorMask : UInt8 := 0x20
def irqRxDoneMask : UInt8 := 0x40
def irqFhssChangeChannel : UInt8 := 0x02

abbrev Registers := Register -> UInt8

structure Chip where
  regs : Registers
  /-- The 256 bytes behind `REG_FIFO`. -/
  fifo : UInt8 -> UInt8

def Chip.set (c : Chip) (reg : Register) (val : UInt8) : Chip :=
  { c with regs := Function.update c.regs reg val }

def Chip.read (c : Chip) (reg : Register) : Chip × UInt8 :=
  if reg = regFifo then
    (c.set regFifoAddrPtr (c.regs regFifoAddrPtr + 1),
      c.fifo (c.regs regFifoAddrPtr))
  else
    (c, c.regs reg)

def Chip.write (c : Chip) (reg : Register) (val : UInt8) : Chip :=
  if reg = regFifo then
    { c.set regFifoAddrPtr (c.regs regFifoAddrPtr + 1) with
      fifo := Function.update c.fifo (c.regs regFifoAddrPtr) val }
  else if reg = regIrqFlags then
    c.set regIrqFlags (c.regs regIrqFlags &&& ~~~ val)
  else
    c.set reg val

def Chip.flag (c : Chip) (mask : UInt8) : Prop :=
  c.regs regIrqFlags &&& mask ≠ 0

instance (c : Chip) (mask : UInt8) : Decidable (c.flag mask) := by
  unfold Chip.flag
  infer_instance

def Chip.raise (c : Chip) (mask : UInt8) : Chip :=
  c.set regIrqFlags (c.regs regIrqFlags ||| mask)

def opMode (mode : UInt8) : UInt8 :=
  modeLongRangeMode ||| mode

/-!
## Registers that are storage
-/

/-- A register that holds what was written to it. -/
def Register.Plain (reg : Register) : Prop :=
  reg ≠ regFifo ∧ reg ≠ regIrqFlags

instance (reg : Register) : Decidable reg.Plain := by
  unfold Register.Plain
  infer_instance

section Registers

variable (c : Chip) {reg reg' : Register} {val : UInt8}

theorem Chip.read_of_ne (h : reg ≠ regFifo) :
    c.read reg = (c, c.regs reg) := by
  rw [Chip.read, if_neg h]

theorem Chip.write_of_plain (h : reg.Plain) :
    c.write reg val = c.set reg val := by
  rw [Chip.write, if_neg h.1, if_neg h.2]

@[simp] theorem Chip.set_regs_self :
    (c.set reg val).regs reg = val :=
  Function.update_self _ _ _

theorem Chip.set_regs_of_ne (h : reg' ≠ reg) :
    (c.set reg val).regs reg' = c.regs reg' :=
  Function.update_of_ne h _ _

theorem Chip.raise_regs_of_ne {mask : UInt8} (h : reg ≠ regIrqFlags) :
    (c.raise mask).regs reg = c.regs reg :=
  c.set_regs_of_ne h

theorem Chip.read_regs_of_ne (h : reg' ≠ regFifoAddrPtr) :
    (c.read reg).1.regs reg' = c.regs reg' := by
  unfold Chip.read
  split
  · exact c.set_regs_of_ne h
  · rfl

theorem Chip.write_regs_of_ne (h : reg' ≠ reg) (hptr : reg' ≠ regFifoAddrPtr) :
    (c.write reg val).regs reg' = c.regs reg' := by
  unfold Chip.write
  split
  · exact c.set_regs_of_ne hptr
  · split
    · rename_i hirq
      exact c.set_regs_of_ne (hirq ▸ h)
    · exact c.set_regs_of_ne h

theorem Chip.write_regs_self (h : reg.Plain) :
    (c.write reg val).regs reg = val := by
  rw [c.write_of_plain h, c.set_regs_self]

theorem Chip.write_irqFlags :
    c.write regIrqFlags val =
      c.set regIrqFlags (c.regs regIrqFlags &&& ~~~val) := rfl

end Registers

/-!
## Flags
-/

section Flags

variable {c : Chip} {mask m : UInt8}

theorem or_and_eq_zero (r : UInt8) :
    (r ||| m) &&& mask = 0 ↔ r &&& mask = 0 ∧ m &&& mask = 0 := by
  have hdistrib : (r ||| m) &&& mask = (r &&& mask) ||| (m &&& mask) := by
    rw [← UInt8.toBitVec_inj]
    simp only [UInt8.toBitVec_and, UInt8.toBitVec_or]
    exact BitVec.and_or_distrib_right
  rw [hdistrib, UInt8.or_eq_zero_iff]

theorem Chip.flag_congr {c' : Chip}
    (h : c'.regs regIrqFlags = c.regs regIrqFlags) :
    c'.flag mask ↔ c.flag mask := by
  unfold Chip.flag
  rw [h]

theorem Chip.flag_raise : (c.raise m).flag mask ↔ c.flag mask ∨ m &&& mask ≠ 0 := by
  unfold Chip.flag Chip.raise
  rw [c.set_regs_self, ne_eq, or_and_eq_zero, not_and_or]

theorem and_not_and_of_disjoint (r : UInt8) (h : m &&& mask = 0) :
    (r &&& ~~~m) &&& mask = r &&& mask := by
  rw [← BitField.splice_zero]
  exact BitField.splice_and_of_disjoint h _ _

theorem and_not_and_of_covers (r : UInt8) (h : m &&& mask = mask) :
    (r &&& ~~~m) &&& mask = 0 := by
  rw [← h, ← UInt8.and_assoc, ← BitField.splice_zero, BitField.splice_and,
    UInt8.zero_and, UInt8.zero_and]

def SingleBit (mask : UInt8) : Prop :=
  forall v, v &&& mask = 0 ∨ v &&& mask = mask

theorem singleBit_rxDone : SingleBit irqRxDoneMask := by
  intro v
  have h : forall b : BitVec 8, b &&& 0x40 = 0 ∨ b &&& 0x40 = 0x40 := by
    decide
  simp only [← UInt8.toBitVec_inj]
  exact h v.toBitVec

theorem singleBit_fhss : SingleBit irqFhssChangeChannel := by
  intro v
  have h : forall b : BitVec 8, b &&& 0x02 = 0 ∨ b &&& 0x02 = 0x02 := by
    decide
  simp only [← UInt8.toBitVec_inj]
  exact h v.toBitVec

theorem Chip.flag_clear (h : SingleBit mask) (hmask : mask ≠ 0) :
    (c.set regIrqFlags (c.regs regIrqFlags &&& ~~~m)).flag mask ↔
      c.flag mask ∧ m &&& mask = 0 := by
  unfold Chip.flag
  rw [c.set_regs_self]
  rcases h m with hzero | hcovers
  · rw [and_not_and_of_disjoint _ hzero]
    simp [hzero]
  · rw [and_not_and_of_covers _ hcovers, hcovers]
    simp [hmask]

theorem Chip.flag_of_clear
    (h : (c.set regIrqFlags (c.regs regIrqFlags &&& ~~~m)).flag mask) :
    c.flag mask := by
  unfold Chip.flag at *
  rw [c.set_regs_self] at h
  intro hzero
  apply h
  rw [UInt8.and_assoc, UInt8.and_comm (~~~m), ← UInt8.and_assoc, hzero,
    UInt8.zero_and]

end Flags

end LoRa
end Fluxnode
