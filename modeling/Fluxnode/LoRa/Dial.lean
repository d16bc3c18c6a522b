import Fluxnode.LoRa.Frequency
import Fluxnode.LoRa.PacketDelivery
import Fluxnode.LoRa.SendLength

/-!
# What a script puts on the air

A script sets the modem up, tunes it, switches its mode and sends, and packets
that arrive are read in between.  Seen from the script the radio is a dial: a
packet goes out as it is, with the settings that were last accepted.
-/

namespace Fluxnode
namespace LoRa

open Foundation
open Foundation.BitField (Layout splice)
open Js (Number)

/-- The calls of a script that does not hop. -/
inductive RadioCall where
  | setter (call : Setter)
  | setFrequency (freq : Number)
  | loraIdle
  | loraSleep
  | loraReceive
  | sendPacket (buf : List UInt8)
  deriving DecidableEq, Repr

def RadioCall.program : RadioCall -> Prog Returned
  | .setter call => call.program
  | .setFrequency freq => setFreq freq
  | .loraIdle => idleSet
  | .loraSleep => sleepSet
  | .loraReceive => recvEnable
  | .sendPacket buf => LoRa.sendPacket buf

inductive RadioAction where
  | call (c : RadioCall)
  /-- A packet arrives, and `isr_recv_task` does what it is told to. -/
  | round (rx : Reception)

/-- A frame on the air, with the registers of the chip. -/
structure Transmission where
  frame : List UInt8
  regs : Registers

/-- The radio, with what it has sent. -/
structure Recorded where
  radio : Radio
  sent : List Transmission

/-- An access; the write of the mode starts the transmission. -/
def execRecorded (o : Op) (s : Recorded) : Option (Recorded × o.Answer) :=
  (execTransmitting o s.radio).map (fun p =>
    (⟨p.1, if o = .writeReg regOpMode (opMode modeTx)
      then s.sent ++ [⟨s.radio.chip.frame, s.radio.chip.regs⟩]
      else s.sent⟩, p.2))

theorem execRecorded_cases {o : Op} {s s' : Recorded} {b : o.Answer}
    (h : execRecorded o s = some (s', b)) :
    exec o s.radio = some (s'.radio, b) ∨
      s.radio.chip.regs regOpMode = opMode modeTx ∧
        exec o (s.radio.setChip s.radio.chip.transmitted) =
          some (s'.radio, b) := by
  rcases Option.map_eq_some_iff.mp h with ⟨⟨t, c⟩, hexec, heq⟩
  cases heq
  cases o with
  | awaitIrq mask =>
      change exec (.awaitIrq mask) (if _ then _ else _) = _ at hexec
      split at hexec
      · rename_i htx
        exact .inr ⟨htx, hexec⟩
      · exact .inl hexec
  | _ => exact .inl hexec

/-- The chip takes packets off the air. -/
def Radio.Receives (s : Radio) : Prop :=
  s.chip.regs regOpMode = opMode modeRxContinuous

instance (s : Radio) : Decidable s.Receives :=
  inferInstanceAs (Decidable (_ = _))

/-- The rounds for the commands in the queue, one after the other. -/
def Recorded.handle : List IsrCmd -> Recorded -> Option Recorded
  | [], s => some s
  | _ :: rest, s =>
      match isrRecvRound.run execRecorded
          { s with radio := { s.radio with isrRecvQueue := rest } } with
      | none => none
      | some (s', _) => Recorded.handle rest s'

/-- A call, or a packet; a chip that does not receive misses the packet. -/
def Recorded.step : RadioAction -> Recorded -> Option Recorded
  | .call c, s => (c.program.run execRecorded s).map Prod.fst
  | .round rx, s =>
      if s.radio.Receives then
        Recorded.handle (s.radio.rxDone rx).isrRecvQueue
          { s with radio := s.radio.rxDone rx }
      else
        some s

/-!
## The dial
-/

structure Dial where
  config : Config
  /-- The number of the last accepted frequency. -/
  frequency : Option UInt32
  mode : LoRaMode
  /-- The mode of the chip, once it is known. -/
  chipMode : Option UInt8
  deriving DecidableEq, Repr

structure Broadcast where
  bytes : List UInt8
  dial : Dial
  deriving DecidableEq, Repr

/-- `set_freq` refuses what is outside of the band. -/
def accepted (freq : Number) : Bool :=
  !(freq.less (.finite 902) || (Number.finite 928).less freq)

/-- The dial behind a packet: the length of the packet is in the register for
the length of a received one. -/
def Dial.loaded (d : Dial) (buf : List UInt8) : Dial :=
  { d with config := { d.config with
      payloadLength := some (UInt8.ofNat buf.length) } }

def Dial.step : RadioAction -> Dial -> Dial
  | .call (.setter call), d => { d with config := d.config.accept call }
  | .call (.setFrequency freq), d =>
      if accepted freq then { d with frequency := some (freqRegs freq) } else d
  | .call .loraIdle, d => { d with mode := .idle, chipMode := some modeStdby }
  | .call .loraSleep, d =>
      { d with mode := .sleep, chipMode := some modeSleep }
  | .call .loraReceive, d =>
      { d with mode := .recv, chipMode := some modeRxContinuous }
  | .call (.sendPacket buf), d =>
      { d.loaded buf with
        chipMode := some (if d.mode = .recv then modeRxContinuous
          else modeStdby) }
  | .round _, d => d

def Dial.airs : RadioAction -> Dial -> List Broadcast
  | .call (.sendPacket buf), d => [⟨buf, d.loaded buf⟩]
  | _, _ => []

def broadcasts : List RadioAction -> Dial -> List Broadcast
  | [], _ => []
  | a :: rest, d => d.airs a ++ broadcasts rest (d.step a)

def Dial.run (actions : List RadioAction) (d : Dial) : Dial :=
  actions.foldl (fun d a => d.step a) d

theorem Dial.run_append (actions more : List RadioAction) (d : Dial) :
    d.run (actions ++ more) = (d.run actions).run more :=
  List.foldl_append

theorem broadcasts_append (actions more : List RadioAction) (d : Dial) :
    broadcasts (actions ++ more) d =
      broadcasts actions d ++ broadcasts more (d.run actions) := by
  induction actions generalizing d with
  | nil => rfl
  | cons a rest ih =>
      rw [List.cons_append, broadcasts, ih, broadcasts, List.append_assoc]
      rfl

/-- No packet is longer than the chip can send. -/
def SendsFit (actions : List RadioAction) : Prop :=
  forall buf, .call (.sendPacket buf) ∈ actions -> buf.length ≤ 255

/-!
## Registers
-/

def settledRegs : List Register :=
  layout.fields.map Field.reg ++ frfRegs

def tune (frf : UInt32) (regs : Registers) : Registers :=
  Function.update (Function.update (Function.update regs
    regFrfMsb (frf >>> 16).toUInt8) regFrfMid (frf >>> 8).toUInt8)
    regFrfLsb (frf >>> 0).toUInt8

def Dial.tuned (d : Dial) (regs : Registers) : Registers :=
  match d.frequency with
  | none => regs
  | some frf => tune frf regs

/-- The registers under the dial, from what they held at first. -/
def Dial.registers (d : Dial) (regs : Registers) : Registers :=
  d.config.registers (d.tuned regs)

/-- The radio is set as the dial says. -/
structure Follows (regs : Registers) (d : Dial) (s : Radio) : Prop where
  registers : forall reg, reg ∈ settledRegs ->
    s.chip.regs reg = d.registers regs reg
  implicit : forall b, d.config.implicit = some b -> s.implicit = b
  mode : s.loraMode = d.mode
  noHop : ¬ s.chip.flag irqFhssChangeChannel

structure Settled (regs : Registers) (d : Dial) (s : Radio) : Prop where
  follows : Follows regs d s
  chipMode : forall m, d.chipMode = some m -> s.chip.regs regOpMode = opMode m
  done : s.Done

structure Carries (regs : Registers) (t : Transmission) (b : Broadcast) :
    Prop where
  frame : t.frame = b.bytes
  registers : forall reg, reg ∈ settledRegs ->
    t.regs reg = b.dial.registers regs reg

theorem mem_settledRegs (f : Field) : f.reg ∈ settledRegs := by
  cases f <;> decide

theorem mem_settledRegs_iff {reg : Register} :
    reg ∈ settledRegs <-> (exists f : Field, f.reg = reg) ∨ reg ∈ frfRegs := by
  constructor
  · intro h
    rcases List.mem_append.mp h with hfield | hfrf
    · rcases List.mem_map.mp hfield with ⟨f, -, hf⟩
      exact .inl ⟨f, hf⟩
    · exact .inr hfrf
  · intro h
    rcases h with ⟨f, rfl⟩ | hfrf
    · exact mem_settledRegs f
    · exact List.mem_append_right _ hfrf

theorem field_not_frf (f : Field) : f.reg ∉ frfRegs := by
  cases f <;> decide

theorem tune_of_not_mem {frf : UInt32} {regs : Registers} {reg : Register}
    (h : reg ∉ frfRegs) : tune frf regs reg = regs reg := by
  simp only [frfRegs, List.mem_cons, List.not_mem_nil, or_false, not_or] at h
  rw [tune, Function.update_of_ne h.2.2, Function.update_of_ne h.2.1,
    Function.update_of_ne h.1]

theorem tune_of_mem {frf : UInt32} {regs regs' : Registers} {reg : Register}
    (h : reg ∈ frfRegs) : tune frf regs reg = tune frf regs' reg := by
  simp only [frfRegs, List.mem_cons, List.not_mem_nil, or_false] at h
  rcases h with rfl | rfl | rfl <;> rfl

theorem registers_frf {d : Dial} {regs : Registers} {reg : Register}
    (h : reg ∈ frfRegs) :
    d.registers regs reg = d.tuned regs reg := by
  apply Layout.overlay_of_ne
  intro f hf
  apply field_not_frf f
  rw [show f.reg = reg from hf]
  exact h

theorem registers_field {d : Dial} {regs : Registers} (f : Field) :
    d.registers regs f.reg = d.config.registers regs f.reg := by
  apply Layout.overlay_congr
  unfold Dial.tuned
  cases d.frequency with
  | none => rfl
  | some frf => exact tune_of_not_mem (field_not_frf f)

theorem Dial.registers_value {d : Dial} {f : Field} {x : UInt8}
    (h : d.config.value f = some x) (regs : Registers) :
    d.registers regs f.reg &&& f.mask = x &&& f.mask := by
  rw [registers_field, Config.registers_field, h]
  rfl

theorem Dial.registers_frequency {d : Dial} {frf : UInt32}
    (h : d.frequency = some frf) {reg : Register} (hreg : reg ∈ frfRegs)
    (regs : Registers) : d.registers regs reg = tune frf regs reg := by
  rw [registers_frf hreg, Dial.tuned, h]

/-!
## Accesses that change no setting
-/

/-- An access that is recorded by what it does to the radio only. -/
def Op.Unrecorded (o : Op) : Prop :=
  (forall mask, o ≠ .awaitIrq mask) ∧ o ≠ .writeReg regOpMode (opMode modeTx)

theorem Op.Unrecorded.execRecorded {o : Op} (ho : o.Unrecorded) (s : Radio)
    (sent : List Transmission) :
    LoRa.execRecorded o ⟨s, sent⟩ =
      (LoRa.exec o s).map (fun r => (⟨r.1, sent⟩, r.2)) := by
  have hawait : execTransmitting o s = LoRa.exec o s := by
    cases o <;> first | rfl | exact absurd rfl (ho.1 _)
  rw [LoRa.execRecorded, hawait, if_neg ho.2]

/-- An access to what no setting is in. -/
def Op.Apart : Op -> Prop
  | .readReg _ => True
  | .writeReg reg val =>
      reg ∉ settledRegs ∧ ¬ (reg = regOpMode ∧ val = opMode modeTx)
  | .gpioIntrEnable _ => True
  | .gpioIntrDisable _ => True
  | .gpioIsrHandlerAdd _ => True
  | .getImplicit => True
  | .getFrequency => True
  | .getLoraMode => True
  | .setModemState _ => True
  | .addEvent _ => True
  | .getFqtable => True
  | .getFqtableEntries => True
  | _ => False

theorem fhss_not_plain {reg : Register} (h : reg ∈ settledRegs) :
    reg ≠ regIrqFlags ∧ reg ≠ regFifoAddrPtr := by
  revert h reg
  decide

theorem Op.Apart.exec {o : Op} (ho : o.Apart) {regs : Registers} {d : Dial}
    {s : Radio} (h : Follows regs d s) :
    exists s' b, LoRa.exec o s = some (s', b) ∧ Follows regs d s' := by
  have hsome : exists s' b, LoRa.exec o s = some (s', b) ∧
      s'.implicit = s.implicit := by
    cases o <;> first | exact ho.elim | exact ⟨_, _, rfl, rfl⟩
  rcases hsome with ⟨s', b, hexec, himplicit⟩
  have heffect := exec_effect hexec
  refine ⟨s', b, hexec, ?_, ?_, ?_, ?_⟩
  · intro reg hreg
    rw [← h.registers reg hreg]
    apply heffect.regs (fhss_not_plain hreg).2
    intro val heq
    subst heq
    exact ho.1 hreg
  · intro b hb
    rw [himplicit]
    exact h.implicit b hb
  · rw [← h.mode]
    apply heffect.loraMode
    intro mode heq
    subst heq
    exact ho.elim
  · intro hflag
    exact h.noHop (heffect.flag hflag)

theorem Op.Apart.unrecorded {o : Op} (ho : o.Apart) : o.Unrecorded := by
  constructor
  · intro mask heq
    subst heq
    exact ho
  · intro heq
    subst heq
    exact ho.2 ⟨rfl, rfl⟩

abbrev Records {α : Type} (post : α -> Recorded -> Prop) (p : Prog α)
    (s : Recorded) : Prop :=
  p.Completes execRecorded post s

/-- The frame rule for accesses to what no setting is in. -/
theorem records_apart {α : Type} {p : Prog α} (hall : p.All Op.Apart)
    {regs : Registers} {d : Dial} {s : Recorded}
    (h : Follows regs d s.radio) :
    Records (fun _ s' => Follows regs d s'.radio ∧ s'.sent = s.sent) p s := by
  have hstart : (fun t : Recorded =>
      Follows regs d t.radio ∧ t.sent = s.sent) s := ⟨h, rfl⟩
  refine Program.Completes.frame hstart hall ?_
  intro o t ho ht
  rcases ho.exec ht.1 with ⟨s', b, hexec, hs'⟩
  refine ⟨⟨s', t.sent⟩, b, ?_, hs', ht.2⟩
  rw [ho.unrecorded.execRecorded, hexec]
  rfl

/-!
## Setters
-/

def Op.Setting : Op -> Prop
  | .readReg _ => True
  | .writeReg reg _ => exists f : Field, f.reg = reg
  | .setImplicit _ => True
  | _ => False

theorem settingIf_all {ok : Op -> Prop} {accepted : Bool} {set : Prog Unit}
    (h : set.All ok) : (settingIf accepted set).All ok := by
  cases accepted with
  | false => trivial
  | true => exact Program.All.bind h (fun _ => trivial)

theorem modify_all {reg : Register} {g : UInt8 -> UInt8} (f : Field)
    (hreg : f.reg = reg) :
    ((readReg reg).bind (fun config => writeReg reg (g config))).All
      Op.Setting :=
  ⟨trivial, fun _ => ⟨⟨f, hreg⟩, fun _ => trivial⟩⟩

theorem write_all {reg : Register} {val : UInt8} (f : Field)
    (hreg : f.reg = reg) : (writeReg reg val).All Op.Setting :=
  ⟨⟨f, hreg⟩, fun _ => trivial⟩

theorem loraSetSpreadingFactor_all (sf : Int32) :
    (loraSetSpreadingFactor sf).All Op.Setting := by
  unfold loraSetSpreadingFactor
  generalize (if sf < 6 then (6 : Int32) else if sf > 12 then 12 else sf) = sf
  dsimp only
  split
  · exact Program.All.bind (write_all .detectionOptimize rfl) (fun _ =>
      Program.All.bind (write_all .detectionThreshold rfl) (fun _ =>
        modify_all .spreadingFactor rfl))
  · exact Program.All.bind (write_all .detectionOptimize rfl) (fun _ =>
      Program.All.bind (write_all .detectionThreshold rfl) (fun _ =>
        modify_all .spreadingFactor rfl))

theorem setPayloadLen_all (pl : Number) :
    (setPayloadLen pl).All Op.Setting := by
  unfold setPayloadLen
  dsimp only
  split
  · exact settingIf_all ⟨trivial, fun _ => ⟨trivial, fun _ =>
      ⟨⟨.headerMode, rfl⟩, fun _ => write_all .payloadLength rfl⟩⟩⟩
  · exact settingIf_all ⟨trivial, fun _ => modify_all .headerMode rfl⟩

theorem setter_all (call : Setter) : call.program.All Op.Setting := by
  cases call with
  | setBW bw => exact settingIf_all (modify_all .bandwidth rfl)
  | setSF sf => exact settingIf_all (loraSetSpreadingFactor_all _)
  | setCR cr => exact settingIf_all (modify_all .codingRate rfl)
  | setCRC crc =>
      cases crc with
      | false =>
          exact Program.All.bind (modify_all .crc rfl) (fun _ => trivial)
      | true => exact Program.All.bind (modify_all .crc rfl) (fun _ => trivial)
  | setPayloadLen pl => exact setPayloadLen_all pl
  | setIQMode iq =>
      cases iq with
      | false =>
          exact Program.All.bind (modify_all .invertIq rfl) (fun _ => trivial)
      | true =>
          exact Program.All.bind (modify_all .invertIq rfl) (fun _ => trivial)
  | setPreambleLen pl =>
      exact settingIf_all (Program.All.bind (write_all .preambleMsb rfl)
        (fun _ => write_all .preambleLsb rfl))
  | setSyncWord sw =>
      exact Program.All.bind (write_all .syncWord rfl) (fun _ => trivial)
  | setTxPower txp => exact settingIf_all (write_all .paConfig rfl)

structure SameModes (s s' : Radio) : Prop where
  mode : s'.loraMode = s.loraMode
  chipMode : s'.chip.regs regOpMode = s.chip.regs regOpMode
  flags : s'.chip.regs regIrqFlags = s.chip.regs regIrqFlags
  modemState : s'.modemState = s.modemState

theorem field_apart (f : Field) :
    f.reg ≠ regOpMode ∧ f.reg ≠ regIrqFlags := by
  cases f <;> decide

theorem Op.Setting.exec {o : Op} (ho : o.Setting) (s : Radio) :
    exists s' b, LoRa.exec o s = some (s', b) ∧ SameModes s s' := by
  cases o <;> try exact ho.elim
  · exact ⟨_, _, rfl, rfl, s.chip.read_regs_of_ne (by decide),
      s.chip.read_regs_of_ne (by decide), rfl⟩
  · rcases ho with ⟨f, rfl⟩
    exact ⟨_, _, rfl, rfl,
      s.chip.write_regs_of_ne (field_apart f).1.symm (by decide),
      s.chip.write_regs_of_ne (field_apart f).2.symm (by decide), rfl⟩
  · exact ⟨_, _, rfl, rfl, rfl, rfl, rfl⟩

theorem setter_sameModes (call : Setter) {s s' : Radio} {r : Returned}
    (hrun : call.program.run exec s = some (s', r)) : SameModes s s' := by
  have hstart : SameModes s s := ⟨rfl, rfl, rfl, rfl⟩
  rcases Program.Completes.frame hstart (setter_all call) (by
    intro o t ho ht
    rcases ho.exec t with ⟨t', b, hexec, h⟩
    exact ⟨t', b, hexec, h.mode.trans ht.mode, h.chipMode.trans ht.chipMode,
      h.flags.trans ht.flags, h.modemState.trans ht.modemState⟩)
    with ⟨t, a, ht, hsame⟩
  rw [hrun] at ht
  cases ht
  exact hsame

theorem Op.Setting.unrecorded {o : Op} (ho : o.Setting) : o.Unrecorded := by
  constructor
  · intro mask heq
    subst heq
    exact ho
  · intro heq
    subst heq
    rcases ho with ⟨f, hf⟩
    exact (field_apart f).1 hf

theorem FrfOp.unrecorded {o : Op} (ho : FrfOp o) : o.Unrecorded := by
  constructor
  · intro mask heq
    subst heq
    exact ho
  · intro heq
    subst heq
    exact absurd ho (show regOpMode ∉ frfRegs by decide)

theorem run_unrecorded {α : Type} {p : Prog α} (hall : p.All Op.Unrecorded)
    (s : Radio) (sent : List Transmission) :
    p.run execRecorded ⟨s, sent⟩ =
      (p.run exec s).map (fun r => (⟨r.1, sent⟩, r.2)) :=
  @Program.run_lift _ _ _ _ _ exec execRecorded Op.Unrecorded
    (fun t => ⟨t, sent⟩) p hall
    (fun _ t ho => ho.execRecorded t sent) s

end LoRa
end Fluxnode
