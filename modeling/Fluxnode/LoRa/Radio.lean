import Fluxnode.LoRa.Driver

/-!
# The state of the radio

The chip, the variables of `lora.c` and `lora_main.c`, the heap with the hopping
table, and what one access does to them.  An access without a meaning, such as a
load through `NULL`, has no result.
-/

namespace Fluxnode
namespace LoRa

open Foundation
open Js (Number)

structure PinState where
  handler : Bool
  enabled : Bool
  deriving DecidableEq, Repr

inductive IsrCmd where
  | readPacket
  | stop
  | fhss
  deriving DecidableEq, Repr

structure Radio where
  chip : Chip
  implicit : Bool
  frequency : Int32
  modemState : UInt8
  pins : Pin -> PinState
  loraMode : LoRaMode
  isrRecvQueue : List IsrCmd
  fqtable : Option Addr
  fqtableEntries : UInt32
  heap : Addr -> Option (List Entry)
  /-- The events for the script. -/
  delivered : List Packet
  /-- The frequencies passed to `lora_set_frequency`. -/
  tuned : List Number
  /-- How many of them there were when `FHSS_CHANGE_CHANNEL` was last set. -/
  hopMark : Nat

def Radio.setChip (s : Radio) (c : Chip) : Radio :=
  { s with chip := c }

def Radio.setImplicit (s : Radio) (implicit : Bool) : Radio :=
  { s with implicit := implicit }

def Radio.setPin (s : Radio) (pin : Pin) (p : PinState) : Radio :=
  { s with pins := Function.update s.pins pin p }

def Radio.setBlock (s : Radio) (a : Addr) (block : Option (List Entry)) :
    Radio :=
  { s with heap := Function.update s.heap a block }

@[simp] theorem Radio.setChip_chip (s : Radio) (c : Chip) :
    (s.setChip c).chip = c := rfl

theorem Radio.setBlock_heap (s : Radio) (a : Addr)
    (block : Option (List Entry)) :
    (s.setBlock a block).heap = Function.update s.heap a block := rfl

def Radio.block (s : Radio) (table : Option Addr) : Option (List Entry) :=
  table.bind s.heap

def exec : (o : Op) -> Radio -> Option (Radio × o.Answer)
  | .readReg reg, s =>
      some (s.setChip (s.chip.read reg).1, (s.chip.read reg).2)
  | .writeReg reg val, s => some (s.setChip (s.chip.write reg val), ())
  | .gpioIntrEnable pin, s =>
      some (s.setPin pin { s.pins pin with enabled := true }, ())
  | .gpioIntrDisable pin, s =>
      some (s.setPin pin { s.pins pin with enabled := false }, ())
  | .gpioIsrHandlerAdd pin, s =>
      some (s.setPin pin { s.pins pin with handler := true }, ())
  | .getImplicit, s => some (s, s.implicit)
  | .setImplicit implicit, s => some (s.setImplicit implicit, ())
  | .setFrequency frequency, s =>
      some ({ s with
        frequency := Js.requireInt frequency
        tuned := s.tuned ++ [frequency] }, ())
  | .getFrequency, s => some (s, s.frequency)
  | .setModemState state, s => some ({ s with modemState := state }, ())
  | .awaitModemState state, s =>
      if s.modemState = state then none else some (s, ())
  | .awaitIrq mask, s => if s.chip.flag mask then some (s, ()) else none
  | .getLoraMode, s => some (s, s.loraMode)
  | .setLoraMode mode, s => some ({ s with loraMode := mode }, ())
  | .getFqtable, s => some (s, s.fqtable)
  | .setFqtable table, s => some ({ s with fqtable := table }, ())
  | .getFqtableEntries, s => some (s, s.fqtableEntries)
  | .setFqtableEntries n, s => some ({ s with fqtableEntries := n }, ())
  | .malloc _ none, s => some (s, none)
  | .malloc size (some (a, old)), s =>
      if (s.heap a).isNone ∧ 8 * old.length = size.toNat then
        some (s.setBlock a (some (old.map (fun x => ⟨x, false⟩))), some a)
      else
        none
  | .free a, s =>
      if (s.heap a).isSome then some (s.setBlock a none, ()) else none
  | .loadEntry table i, s =>
      match (s.block table).bind (fun es => es[i]?) with
      | none => none
      | some e => some (s, e.value)
  | .storeEntry none _ _, _ => none
  | .storeEntry (some a) i value, s =>
      match s.heap a with
      | none => none
      | some es =>
          if i < es.length then
            some (s.setBlock a (some (es.set i ⟨value, true⟩)), ())
          else
            none
  | .addEvent packet, s =>
      some ({ s with delivered := s.delivered ++ [packet] }, ())
  | .fault, _ => none

/-!
## Accesses
-/

section Exec

variable (s : Radio)

@[simp] theorem exec_readReg (reg : Register) :
    exec (.readReg reg) s =
      some ({ s with chip := (s.chip.read reg).1 }, (s.chip.read reg).2) := rfl

@[simp] theorem exec_writeReg (reg : Register) (val : UInt8) :
    exec (.writeReg reg val) s =
      some (s.setChip (s.chip.write reg val), ()) := rfl

@[simp] theorem exec_setImplicit (implicit : Bool) :
    exec (.setImplicit implicit) s = some (s.setImplicit implicit, ()) := rfl

@[simp] theorem exec_getFqtable :
    exec .getFqtable s = some (s, s.fqtable) := rfl

@[simp] theorem exec_setFqtable (table : Option Addr) :
    exec (.setFqtable table) s = some ({ s with fqtable := table }, ()) := rfl

@[simp] theorem exec_setFqtableEntries (n : UInt32) :
    exec (.setFqtableEntries n) s =
      some ({ s with fqtableEntries := n }, ()) := rfl

end Exec

/-!
## What an access leaves alone
-/

def Op.chip : Op -> Chip -> Chip
  | .readReg reg, c => (c.read reg).1
  | .writeReg reg val, c => c.write reg val
  | _, c => c

def Op.OnHeap : Op -> Prop
  | .malloc _ _ => True
  | .free _ => True
  | .storeEntry _ _ _ => True
  | _ => False

def Op.OnPins : Op -> Prop
  | .gpioIntrEnable _ => True
  | .gpioIntrDisable _ => True
  | .gpioIsrHandlerAdd _ => True
  | _ => False

structure Effect (o : Op) (s s' : Radio) : Prop where
  chip : s'.chip = o.chip s.chip
  isrRecvQueue : s'.isrRecvQueue = s.isrRecvQueue
  hopMark : s'.hopMark = s.hopMark
  pins : ¬ o.OnPins -> s'.pins = s.pins
  heap : ¬ o.OnHeap -> s'.heap = s.heap
  loraMode : (forall mode, o ≠ .setLoraMode mode) -> s'.loraMode = s.loraMode
  fqtable : (forall table, o ≠ .setFqtable table) -> s'.fqtable = s.fqtable
  fqtableEntries : (forall n, o ≠ .setFqtableEntries n) ->
    s'.fqtableEntries = s.fqtableEntries
  tuned : (forall frequency, o ≠ .setFrequency frequency) -> s'.tuned = s.tuned

theorem exec_effect {o : Op} {s s' : Radio} {b : o.Answer}
    (h : exec o s = some (s', b)) : Effect o s s' := by
  cases o with
  | malloc size block =>
      cases block with
      | none =>
          cases h
          constructor <;> simp [Op.chip]
      | some block =>
          simp only [exec, Option.ite_none_right_eq_some] at h
          cases h.2
          constructor <;> simp [Op.chip, Op.OnHeap, Radio.setBlock]
  | free a =>
      simp only [exec, Option.ite_none_right_eq_some] at h
      cases h.2
      constructor <;> simp [Op.chip, Op.OnHeap, Radio.setBlock]
  | loadEntry table i =>
      simp only [exec] at h
      split at h
      · cases h
      · cases h
        constructor <;> simp [Op.chip]
  | storeEntry table i value =>
      cases table with
      | none => cases h
      | some a =>
          simp only [exec] at h
          split at h
          · cases h
          · simp only [Option.ite_none_right_eq_some] at h
            cases h.2
            constructor <;> simp [Op.chip, Op.OnHeap, Radio.setBlock]
  | awaitModemState state =>
      simp only [exec, Option.ite_none_left_eq_some] at h
      cases h.2
      constructor <;> simp [Op.chip]
  | awaitIrq mask =>
      simp only [exec, Option.ite_none_right_eq_some] at h
      cases h.2
      constructor <;> simp [Op.chip]
  | fault => cases h
  | _ =>
      cases h
      constructor <;> simp [Op.chip, Op.OnPins, Radio.setPin, Radio.setChip,
        Radio.setImplicit]

/-- Only a write changes a register, apart from the FIFO pointer. -/
theorem Effect.regs {o : Op} {s s' : Radio} (h : Effect o s s')
    {reg : Register} (hptr : reg ≠ regFifoAddrPtr)
    (hwrite : forall val, o ≠ .writeReg reg val) :
    s'.chip.regs reg = s.chip.regs reg := by
  rw [h.chip]
  cases o with
  | readReg reg' => exact s.chip.read_regs_of_ne hptr
  | writeReg reg' val =>
      have hne : reg ≠ reg' := fun heq => hwrite val (heq ▸ rfl)
      exact s.chip.write_regs_of_ne hne hptr
  | _ => rfl

theorem Effect.flag {o : Op} {s s' : Radio} (h : Effect o s s')
    {mask : UInt8} (hflag : s'.chip.flag mask) : s.chip.flag mask := by
  rcases Classical.em (exists val, o = .writeReg regIrqFlags val) with
    ⟨val, heq⟩ | hne
  · subst o
    rw [h.chip] at hflag
    exact Chip.flag_of_clear hflag
  · have hregs := h.regs (by decide : regIrqFlags ≠ regFifoAddrPtr)
      (fun val heq => hne ⟨val, heq⟩)
    exact (Chip.flag_congr hregs).mp hflag

end LoRa
end Fluxnode
