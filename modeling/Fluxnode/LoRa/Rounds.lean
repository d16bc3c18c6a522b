import Fluxnode.LoRa.Tasks

/-!
# The rounds of the task

A round reads `REG_IRQ_FLAGS` twice, once for a hop and once for a packet, and
clears what it has read.  What comes behind the second clearing does not access
the flags any more.
-/

namespace Fluxnode
namespace LoRa

open Foundation
open Js (Number)

/-!
## The parts of a round
-/

def packetBytes (irq : UInt8) (size : Nat) : Prog (List UInt8) :=
  if irq &&& irqRxDoneMask = 0 then
    return []
  else if irq &&& irqPayloadCrcErrorMask ≠ 0 then
    return []
  else do
    access (.setModemState modeRxReadBuf)
    let implicit ← getImplicit
    let len ← readReg (if implicit then regPayloadLength else regRxNbBytes)
    loraIdle
    access (.setModemState modeRxReadBuf)
    let addr ← readReg regFifoRxCurrentAddr
    writeReg regFifoAddrPtr addr
    let buf ← readFifo (if len.toNat > size then size else len.toNat)
    access (.setModemState modeStdby)
    return buf

def endRound (buf : List UInt8) : Prog Unit := do
  let rssi ← loraPacketRssi
  let snr ← loraPacketSnr
  loraReceive
  if buf.length > 0 then
    access (.addEvent ⟨buf, rssi, snr⟩)

def receiveRest (irq : UInt8) : Prog Unit :=
  (packetBytes irq (loraMsgMaxSize + 1)).bind endRound

def receiveFrom (irq : UInt8) : Prog Unit :=
  .perform (.writeReg regIrqFlags irq) (fun _ => receiveRest irq)

theorem loraReceivePacket_eq (size : Nat) :
    loraReceivePacket size =
      .perform (.readReg regIrqFlags) (fun irq =>
        .perform (.writeReg regIrqFlags irq) (fun _ =>
          packetBytes irq size)) := rfl

theorem receiveRound_eq :
    receiveRound = .perform (.readReg regIrqFlags) receiveFrom := rfl

def behindHandle (handled : Bool) : Prog Unit :=
  if handled then .done () else receiveRound

theorem isrRecvRound_eq :
    isrRecvRound =
      .perform .getFqtable (fun table =>
        .perform .getFqtableEntries (fun entries =>
          (loraFhssHandle table entries.toInt32).bind behindHandle)) := rfl

def hopTo (table : Option Addr) (size : Int32) (hop : UInt8) : Prog Bool :=
  .perform (.loadEntry table (hopIndex hop size)) (fun frequency =>
    (loraSetFrequency frequency).bind (fun _ =>
      .perform (.writeReg regIrqFlags irqFhssChangeChannel) (fun _ =>
        .done true)))

theorem loraFhssHandle_eq (table : Option Addr) (size : Int32) :
    loraFhssHandle table size =
      .perform (.readReg regIrqFlags) (fun irq =>
        if irq &&& irqFhssChangeChannel = 0 then .done false
        else .perform (.readReg regHopChannel) (fun hop =>
          if size = 0 then
            .perform .fault (fun _ => hopTo table size hop)
          else hopTo table size hop)) := rfl

/-!
## The accesses of a round
-/

def frfRegs : List Register :=
  [regFrfMsb, regFrfMid, regFrfLsb]

def FrfOp : Op -> Prop
  | .writeReg reg _ => reg ∈ frfRegs
  | .setFrequency _ => True
  | _ => False

/-- The accesses behind the clearing of the flags: the packet is read, and the
chip goes to standby and back into receive mode. -/
def PacketOp : Op -> Prop
  | .readReg _ => True
  | .writeReg reg val =>
      reg = regFifoAddrPtr ∨
        reg = regOpMode ∧
          (val = opMode modeStdby ∨ val = opMode modeRxContinuous)
  | .setModemState _ => True
  | .getImplicit => True
  | .getFrequency => True
  | .addEvent _ => True
  | _ => False

def HandleOp : Op -> Prop
  | .readReg _ => True
  | .writeReg reg _ => reg ∈ frfRegs ∨ reg = regIrqFlags
  | .setFrequency _ => True
  | .loadEntry _ _ => True
  | .fault => True
  | _ => False

def IsrOp (o : Op) : Prop :=
  HandleOp o ∨ PacketOp o ∨ o = .getFqtable ∨ o = .getFqtableEntries

theorem IsrOp.ne_setLoraMode {o : Op} (h : IsrOp o) (mode : LoRaMode) :
    o ≠ .setLoraMode mode := by
  intro heq
  subst heq
  rcases h with h | h | h | h
  · exact h
  · exact h
  · cases h
  · cases h

theorem IsrOp.opMode_val {val : UInt8}
    (h : IsrOp (.writeReg regOpMode val)) :
    val = opMode modeStdby ∨ val = opMode modeRxContinuous := by
  rcases h with h | h | h | h
  · rcases h with hfrf | hflags
    · exact absurd hfrf (show regOpMode ∉ frfRegs by decide)
    · exact absurd hflags (by decide)
  · rcases h with h | h
    · exact absurd h (by decide)
    · exact h.2
  · cases h
  · cases h

theorem readFifo_all (n : Nat) : (readFifo n).All PacketOp := by
  induction n with
  | zero => trivial
  | succ n ih => exact ⟨trivial, fun b => ih.bind (fun rest => trivial)⟩

theorem packetBytes_all (irq : UInt8) (size : Nat) :
    (packetBytes irq size).All PacketOp := by
  unfold packetBytes
  split
  · trivial
  · split
    · trivial
    · refine ⟨trivial, fun _ => ⟨trivial, fun implicit => ⟨trivial, fun len =>
        ⟨trivial, fun _ => ⟨.inr ⟨rfl, .inl rfl⟩, fun _ => ⟨trivial, fun _ =>
          ⟨trivial, fun addr => ⟨.inl rfl, fun _ => ?_⟩⟩⟩⟩⟩⟩⟩⟩
      exact (readFifo_all _).bind (fun buf => ⟨trivial, fun _ => trivial⟩)

theorem endRound_all (buf : List UInt8) : (endRound buf).All PacketOp := by
  refine ⟨trivial, fun value => ⟨trivial, fun frequency => ⟨trivial,
    fun snr => ⟨trivial, fun _ => ⟨.inr ⟨rfl, .inr rfl⟩, fun _ => ?_⟩⟩⟩⟩⟩
  change Program.All PacketOp (if buf.length > 0 then _ else _)
  split
  · exact ⟨trivial, fun _ => trivial⟩
  · trivial

theorem receiveRest_all (irq : UInt8) : (receiveRest irq).All PacketOp :=
  (packetBytes_all irq _).bind endRound_all

theorem FrfOp.handle {o : Op} (h : FrfOp o) : HandleOp o := by
  cases o <;> first | exact h.elim | trivial | exact .inl h

theorem loraSetFrequency_all (frequency : Number) :
    (loraSetFrequency frequency).All FrfOp := by
  exact ⟨trivial, fun _ => ⟨by simp [FrfOp, frfRegs], fun _ =>
    ⟨by simp [FrfOp, frfRegs], fun _ => ⟨by simp [FrfOp, frfRegs],
      fun _ => trivial⟩⟩⟩⟩

theorem hopTo_all (table : Option Addr) (size : Int32) (hop : UInt8) :
    (hopTo table size hop).All HandleOp :=
  ⟨trivial, fun frequency =>
    ((loraSetFrequency_all frequency).mono (fun _ => FrfOp.handle)).bind
      (fun _ => ⟨.inr rfl, fun _ => trivial⟩)⟩

theorem loraFhssHandle_all (table : Option Addr) (size : Int32) :
    (loraFhssHandle table size).All HandleOp := by
  rw [loraFhssHandle_eq]
  constructor
  · exact trivial
  · intro irq
    beta_reduce
    split
    · trivial
    · constructor
      · exact trivial
      · intro hop
        beta_reduce
        split
        · exact ⟨trivial, fun _ => hopTo_all table size hop⟩
        · exact hopTo_all table size hop

theorem receiveRound_all : receiveRound.All IsrOp := by
  rw [receiveRound_eq]
  exact ⟨.inl trivial, fun irq => ⟨.inl (.inr rfl), fun _ =>
    (receiveRest_all irq).mono (fun _ h => .inr (.inl h))⟩⟩

theorem isrRecvRound_all : isrRecvRound.All IsrOp := by
  rw [isrRecvRound_eq]
  refine ⟨.inr (.inr (.inl rfl)), fun table =>
    ⟨.inr (.inr (.inr rfl)), fun entries => ?_⟩⟩
  apply ((loraFhssHandle_all table entries.toInt32).mono
    (fun _ h => .inl h)).bind
  intro handled
  cases handled with
  | false => exact receiveRound_all
  | true => trivial

def Modem.IsrOnly (m : Modem) : Prop :=
  forall p, m.isr = some p -> p.All IsrOp

theorem Modem.isrOnly_moves {e : Event} {m m' : Modem} (h : m.IsrOnly)
    (hmoves : Moves e m m') : m'.IsrOnly := by
  cases hmoves with
  | take hqueue =>
      intro p hp
      cases hp
      exact isrRecvRound_all
  | finish =>
      intro p hp
      cases hp
  | @access radio radio' o next b hexec =>
      intro p hp
      cases hp
      exact (h _ rfl).2 b
  | rxDone rx => exact h
  | changeChannel hop => exact h
  | transmitted htx => exact h

end LoRa
end Fluxnode
