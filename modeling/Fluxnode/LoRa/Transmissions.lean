import Fluxnode.LoRa.Schedules

/-!
# The radio follows the dial

Every call of a script and every packet that is read in between moves the radio
as it moves the dial, and a packet that is sent carries the settings of the dial
at that moment.
-/

namespace Fluxnode
namespace LoRa

open Foundation
open Foundation.BitField (Layout splice)
open Js (Number)

variable {regs : Registers} {d : Dial}

/-!
## Settings
-/

def Dial.base (d : Dial) (regs : Registers) (s : Radio) : Registers :=
  fun reg => if reg ∈ settledRegs then d.tuned regs reg else s.chip.regs reg

theorem Follows.configured {s : Radio} (h : Follows regs d s) :
    Configured (d.base regs s) d.config s := by
  constructor
  · funext reg
    by_cases hreg : reg ∈ settledRegs
    · rw [h.registers reg hreg]
      apply Layout.overlay_congr
      rw [Dial.base, if_pos hreg]
    · have hnone : forall f : Field, layout.reg f ≠ reg := by
        intro f hf
        apply hreg
        rw [← show f.reg = reg from hf]
        exact mem_settledRegs f
      rw [Config.registers, Layout.overlay_of_ne hnone, Dial.base, if_neg hreg]
  · exact h.implicit

theorem Follows.of_configured {s s' : Radio} {c : Config}
    (h : Follows regs d s) (hc : Configured (d.base regs s) c s')
    (hmode : s'.loraMode = s.loraMode)
    (hflags : s'.chip.regs regIrqFlags = s.chip.regs regIrqFlags) :
    Follows regs { d with config := c } s' := by
  refine ⟨?_, hc.implicit, ?_, ?_⟩
  · intro reg hreg
    rw [hc.registers]
    apply Layout.overlay_congr
    rw [Dial.base, if_pos hreg]
    rfl
  · rw [hmode]
    exact h.mode
  · rw [Chip.flag_congr hflags]
    exact h.noHop

theorem Settled.setter {s : Radio} (h : Settled regs d s) (call : Setter) :
    exists s' r, call.program.run exec s = some (s', r) ∧
      Settled regs (d.step (.call (.setter call))) s' := by
  rcases configures_setter h.follows.configured call with
    ⟨s', r, hrun, hconfigured, -⟩
  have hsame := setter_sameModes call hrun
  refine ⟨s', r, hrun,
    h.follows.of_configured hconfigured hsame.mode hsame.flags, ?_, ?_⟩
  · intro m hm
    rw [hsame.chipMode]
    exact h.chipMode m hm
  · unfold Radio.Done
    rw [hsame.modemState]
    exact h.done

theorem setFrf_regs (c : Chip) (frf : UInt32) :
    (c.setFrf frf).regs = tune frf c.regs := rfl

theorem opMode_not_settled : regOpMode ∉ settledRegs := by
  decide

theorem irqFlags_not_settled : regIrqFlags ∉ settledRegs := by
  decide

theorem not_frf_of_not_settled {reg : Register} (h : reg ∉ settledRegs) :
    reg ∉ frfRegs :=
  fun hfrf => h (List.mem_append_right _ hfrf)

theorem setFrf_apart (c : Chip) (frf : UInt32) {reg : Register}
    (h : reg ∉ settledRegs) : (c.setFrf frf).regs reg = c.regs reg := by
  rw [setFrf_regs]
  exact tune_of_not_mem (not_frf_of_not_settled h)

theorem Follows.setFrf {s : Radio} (h : Follows regs d s) (frf : UInt32)
    {reg : Register} (hreg : reg ∈ settledRegs) :
    (s.chip.setFrf frf).regs reg =
      Dial.registers { d with frequency := some frf } regs reg := by
  rw [setFrf_regs]
  rcases mem_settledRegs_iff.mp hreg with ⟨f, rfl⟩ | hfrf
  · rw [tune_of_not_mem (field_not_frf f), h.registers _ hreg, registers_field,
      registers_field]
  · rw [registers_frf hfrf]
    exact tune_of_mem hfrf

theorem setFreq_eq (freq : Number) :
    setFreq freq = settingIf (accepted freq) (loraSetFrequency freq) := rfl

theorem step_setFrequency (freq : Number) (d : Dial) :
    d.step (.call (.setFrequency freq)) =
      if accepted freq then { d with frequency := some (freqRegs freq) }
      else d := rfl

theorem Settled.setFrequency {s : Radio} (h : Settled regs d s)
    (freq : Number) :
    exists s' r, (setFreq freq).run exec s = some (s', r) ∧
      Settled regs (d.step (.call (.setFrequency freq))) s' := by
  rw [setFreq_eq, step_setFrequency]
  cases haccepted : accepted freq with
  | false =>
      rw [if_neg Bool.false_ne_true]
      exact ⟨s, _, rfl, h⟩
  | true =>
      have hrun := settingIf_true (run_loraSetFrequency freq s)
      have hmode := setFrf_apart s.chip (freqRegs freq) opMode_not_settled
      have hflags := setFrf_apart s.chip (freqRegs freq) irqFlags_not_settled
      rw [if_pos rfl]
      refine ⟨_, _, hrun, ⟨fun reg => h.follows.setFrf _, h.follows.implicit,
        h.follows.mode, ?_⟩, ?_, h.done⟩
      · intro hflag
        apply h.follows.noHop
        exact (Chip.flag_congr hflags).mp hflag
      · intro m hm
        exact hmode.trans (h.chipMode m hm)

theorem setFreq_all (freq : Number) : (setFreq freq).All Op.Unrecorded :=
  settingIf_all ((loraSetFrequency_all freq).mono
    (fun _ => FrfOp.unrecorded))

theorem records_of_run {p : Prog Returned} (hall : p.All Op.Unrecorded)
    {s : Recorded} {d' : Dial} (h : exists s' r,
      p.run exec s.radio = some (s', r) ∧ Settled regs d' s') :
    Records (fun _ s' => Settled regs d' s'.radio ∧ s'.sent = s.sent) p s := by
  rcases h with ⟨s', r, hrun, hsettled⟩
  refine ⟨⟨s', s.sent⟩, r, ?_, hsettled, rfl⟩
  have hlift := run_unrecorded hall s.radio s.sent
  rw [hrun] at hlift
  exact hlift

/-!
## Modes
-/

/-- `lora_idle`, `lora_sleep` and `lora_receive`. -/
def toMode (m : UInt8) : Prog Unit := do
  access (.setModemState m)
  writeReg regOpMode (opMode m)

def switchTo (m : UInt8) (mode : LoRaMode) : Prog Returned := do
  toMode m
  access (.setLoraMode mode)
  return .undefined

theorem idleSet_eq :
    idleSet = .perform .getLoraMode (fun mode =>
      if mode = .recv then
        .perform (.gpioIntrDisable .dio0) (fun _ => switchTo modeStdby .idle)
      else switchTo modeStdby .idle) := rfl

theorem sleepSet_eq :
    sleepSet = .perform .getLoraMode (fun mode =>
      if mode = .recv then
        .perform (.gpioIntrDisable .dio0) (fun _ => switchTo modeSleep .sleep)
      else switchTo modeSleep .sleep) := rfl

def enableIrqs : Prog Unit := do
  loraInstallIrqRecv
  loraEnableIrqRecv true
  loraInstallIrqFhss
  loraEnableIrqFhss true

theorem recvEnable_eq :
    recvEnable =
      enableIrqs.bind (fun _ => switchTo modeRxContinuous .recv) := rfl

theorem Follows.congr {d' : Dial} {s s' : Radio} (h : Follows regs d s)
    (hregisters : d'.registers regs = d.registers regs)
    (hregs : forall reg, reg ∈ settledRegs ->
      s'.chip.regs reg = s.chip.regs reg)
    (himplicit : d'.config.implicit = d.config.implicit ∧
      s'.implicit = s.implicit)
    (hmode : s'.loraMode = d'.mode)
    (hflag : s'.chip.flag irqFhssChangeChannel ->
      s.chip.flag irqFhssChangeChannel) : Follows regs d' s' := by
  refine ⟨?_, ?_, hmode, fun hhop => h.noHop (hflag hhop)⟩
  · intro reg hreg
    rw [hregs reg hreg, hregisters]
    exact h.registers reg hreg
  · intro b hb
    rw [himplicit.2]
    exact h.implicit b (himplicit.1 ▸ hb)

theorem Follows.setChipMode {s : Radio} (h : Follows regs d s)
    (chipMode : Option UInt8) :
    Follows regs { d with chipMode := chipMode } s :=
  ⟨h.registers, h.implicit, h.mode, h.noHop⟩

theorem Follows.setMode {s : Radio} (h : Follows regs d s) (val : UInt8) :
    Follows regs d (s.setChip (s.chip.write regOpMode val)) := by
  have hregs : forall reg, reg ≠ regOpMode -> reg ≠ regFifoAddrPtr ->
      (s.chip.write regOpMode val).regs reg = s.chip.regs reg :=
    fun reg hne hptr => s.chip.write_regs_of_ne hne hptr
  apply h.congr rfl
  · intro reg hreg
    exact hregs reg (fun heq => opMode_not_settled (heq ▸ hreg))
      (fhss_not_plain hreg).2
  · exact ⟨rfl, rfl⟩
  · exact h.mode
  · exact (Chip.flag_congr (hregs _ (by decide) (by decide))).mp

structure InMode (regs : Registers) (d : Dial) (m : UInt8) (s : Radio) :
    Prop where
  follows : Follows regs d s
  opMode : s.chip.regs regOpMode = opMode m
  modemState : s.modemState = m

theorem records_write {s : Recorded} {reg : Register} {val : UInt8}
    (h : reg ≠ regOpMode ∨ val ≠ opMode modeTx) :
    execRecorded (.writeReg reg val) s =
      some ({ s with radio := s.radio.setChip (s.radio.chip.write reg val) },
        ()) := by
  have hne : (Op.writeReg reg val) ≠ .writeReg regOpMode (opMode modeTx) := by
    intro heq
    cases heq
    rcases h with h | h
    · exact h rfl
    · exact h rfl
  simp only [execRecorded, if_neg hne]
  rfl

theorem records_setModemState (m : UInt8) (s : Recorded) :
    execRecorded (.setModemState m) s =
      some ({ s with radio := { s.radio with modemState := m } }, ()) := rfl

theorem opMode_set (c : Chip) (val : UInt8) :
    (c.write regOpMode val).regs regOpMode = val :=
  c.write_regs_self (by decide)

theorem records_toMode {m : UInt8} (hm : opMode m ≠ opMode modeTx)
    {s : Recorded} (h : Follows regs d s.radio) :
    Records (fun _ s' => InMode regs d m s'.radio ∧ s'.sent = s.sent)
      (toMode m) s := by
  have hset : Follows regs d { s.radio with modemState := m } :=
    ⟨h.registers, h.implicit, h.mode, h.noHop⟩
  apply Program.Completes.perform (records_setModemState m s)
  apply Program.Completes.perform (records_write (.inr hm))
  apply Program.Completes.done
  exact ⟨⟨hset.setMode _, opMode_set _ _, rfl⟩, rfl⟩

theorem records_switchTo {m : UInt8} (hm : opMode m ≠ opMode modeTx)
    (hdone : m ≠ modeRxReadBuf) (mode : LoRaMode) {s : Recorded}
    (h : Follows regs d s.radio) :
    Records (fun _ s' =>
      Settled regs { d with mode := mode, chipMode := some m } s'.radio ∧
        s'.sent = s.sent) (switchTo m mode) s := by
  apply Program.Completes.bind
  apply (records_toMode hm h).mono
  intro _ s' hs'
  apply Program.Completes.perform rfl
  apply Program.Completes.done
  rcases hs' with ⟨⟨hfollows, hopMode, hstate⟩, hsent⟩
  refine ⟨⟨⟨hfollows.registers, hfollows.implicit, rfl, hfollows.noHop⟩, ?_, ?_⟩,
    hsent⟩
  · intro m' hm'
    cases hm'
    exact hopMode
  · unfold Radio.Done
    rw [← hstate] at hdone
    exact hdone

/-- A change of the mode from a call that turns the interrupt off first. -/
theorem records_leave {m : UInt8} (hm : opMode m ≠ opMode modeTx)
    (hdone : m ≠ modeRxReadBuf) (mode : LoRaMode) {s : Recorded}
    (h : Follows regs d s.radio) :
    Records (fun _ s' =>
      Settled regs { d with mode := mode, chipMode := some m } s'.radio ∧
        s'.sent = s.sent)
      (.perform .getLoraMode (fun current =>
        if current = .recv then
          .perform (.gpioIntrDisable .dio0) (fun _ => switchTo m mode)
        else switchTo m mode)) s := by
  apply Program.Completes.perform rfl
  change Records _ (if s.radio.loraMode = .recv then _ else _) s
  split
  · apply Program.Completes.perform rfl
    have hpin : Follows regs d (s.radio.setPin .dio0
        { s.radio.pins .dio0 with enabled := false }) :=
      ⟨h.registers, h.implicit, h.mode, h.noHop⟩
    exact records_switchTo hm hdone mode hpin
  · exact records_switchTo hm hdone mode h

theorem records_idleSet {s : Recorded} (h : Follows regs d s.radio) :
    Records (fun _ s' => Settled regs (d.step (.call .loraIdle)) s'.radio ∧
      s'.sent = s.sent) idleSet s := by
  rw [idleSet_eq]
  exact records_leave (by decide) stdby_done .idle h

theorem records_sleepSet {s : Recorded} (h : Follows regs d s.radio) :
    Records (fun _ s' => Settled regs (d.step (.call .loraSleep)) s'.radio ∧
      s'.sent = s.sent) sleepSet s := by
  rw [sleepSet_eq]
  exact records_leave (by decide) (by decide) .sleep h

theorem enableIrqs_all : enableIrqs.All Op.Apart := by
  have hwrite : Op.Apart (.writeReg regDioMapping1 0x00) := by
    constructor <;> decide
  exact ⟨trivial, fun _ => ⟨hwrite, fun _ => ⟨trivial, fun _ => ⟨trivial,
    fun _ => ⟨trivial, fun _ => ⟨hwrite, fun _ => ⟨trivial, fun _ => ⟨trivial,
      fun _ => trivial⟩⟩⟩⟩⟩⟩⟩⟩

theorem records_recvEnable {s : Recorded} (h : Follows regs d s.radio) :
    Records (fun _ s' => Settled regs (d.step (.call .loraReceive)) s'.radio ∧
      s'.sent = s.sent) recvEnable s := by
  rw [recvEnable_eq]
  apply Program.Completes.bind
  apply (records_apart enableIrqs_all h).mono
  intro _ s' hs'
  rw [← hs'.2]
  exact records_switchTo (by decide) rxContinuous_done .recv hs'.1

/-!
## Sending
-/

theorem Follows.load {s : Radio} (h : Follows regs d s) (buf : List UInt8) :
    Follows regs (d.loaded buf) (s.setChip
      (s.chip.write regPayloadLength (UInt8.ofNat buf.length))) := by
  have hwrite : s.setChip (s.chip.write regPayloadLength
      (UInt8.ofNat buf.length)) =
        s.setField .payloadLength (UInt8.ofNat buf.length) := by
    rw [s.chip.write_of_plain (by decide), Radio.setField]
    congr 2
    exact (BitField.splice_all _ _).symm
  have hflags : (s.setField .payloadLength (UInt8.ofNat
      buf.length)).chip.regs regIrqFlags = s.chip.regs regIrqFlags :=
    s.chip.set_regs_of_ne (by decide)
  rw [hwrite]
  refine h.of_configured (h.configured.setField ?_ rfl) rfl hflags
  funext f
  cases f <;> rfl

theorem Follows.writeBytes {s : Radio} (h : Follows regs d s)
    (bytes : List UInt8) :
    Follows regs d (s.setChip (s.chip.writeBytes bytes)) := by
  have hregs : forall reg, reg ≠ regFifoAddrPtr ->
      (s.chip.writeBytes bytes).regs reg = s.chip.regs reg := by
    intro reg hptr
    generalize s.chip = c
    induction bytes generalizing c with
    | nil => rfl
    | cons b rest ih =>
        rw [Chip.writeBytes_cons, ih, Chip.write, if_pos rfl]
        exact c.set_regs_of_ne hptr
  apply h.congr rfl
  · intro reg hreg
    exact hregs reg (fhss_not_plain hreg).2
  · exact ⟨rfl, rfl⟩
  · exact h.mode
  · exact (Chip.flag_congr (hregs _ (by decide))).mp

theorem Follows.transmitted {s : Radio} (h : Follows regs d s) :
    Follows regs d (s.setChip
      (s.chip.transmitted.write regIrqFlags irqTxDoneMask)) := by
  have hregs : forall reg, reg ∈ settledRegs ->
      (s.chip.transmitted.write regIrqFlags irqTxDoneMask).regs reg =
        s.chip.regs reg := by
    intro reg hreg
    have hne : reg ∉ [regOpMode, regIrqFlags] := by
      revert hreg reg
      decide
    rw [Chip.write_regs_of_ne _ (fhss_not_plain hreg).1 (fhss_not_plain hreg).2,
      transmitted_regs_of_ne _ hne]
  apply h.congr rfl hregs
  · exact ⟨rfl, rfl⟩
  · exact h.mode
  · intro hflag
    exact (transmitted_flag _ (by decide)).mp (Chip.flag_of_clear hflag)

theorem run_writeFifo_recorded (bytes : List UInt8) (s : Recorded) :
    (writeFifo bytes).run execRecorded s =
      some ({ s with
        radio := s.radio.setChip (s.radio.chip.writeBytes bytes) }, ()) := by
  induction bytes generalizing s with
  | nil => rfl
  | cons b rest ih =>
      show ((Program.op (.writeReg regFifo b)).bind
        (fun _ => writeFifo rest)).run execRecorded s = _
      rw [Program.op_bind, Program.run_perform,
        records_write (.inl (by decide)), Option.bind_some, ih]
      rfl

theorem records_start (s : Recorded) :
    execRecorded (.writeReg regOpMode (opMode modeTx)) s =
      some (⟨s.radio.setChip (s.radio.chip.write regOpMode (opMode modeTx)),
        s.sent ++ [⟨s.radio.chip.frame, s.radio.chip.regs⟩]⟩, ()) := by
  simp only [execRecorded, if_pos]
  rfl

theorem records_awaitIrq {s : Recorded}
    (h : s.radio.chip.regs regOpMode = opMode modeTx) :
    execRecorded (.awaitIrq irqTxDoneMask) s =
      some ({ s with radio := s.radio.setChip s.radio.chip.transmitted },
        ()) := by
  rw [execRecorded, exec_awaitIrq h]
  rfl

/-- The radio behind a packet that was sent: in standby, or back in receive
mode. -/
theorem records_behindSend {s : Recorded}
    (h : InMode regs d modeStdby s.radio) :
    Records (fun _ s' => Settled regs { d with
        chipMode := some (if d.mode = .recv then modeRxContinuous
          else modeStdby) } s'.radio ∧ s'.sent = s.sent) behindSend s := by
  have hmode := h.follows.mode
  apply Program.Completes.perform rfl
  change Records _ (if s.radio.loraMode = .recv then _ else _) s
  rw [hmode]
  split
  · apply Program.Completes.bind
    apply (records_toMode (m := modeRxContinuous) (by decide) h.follows).mono
    intro _ s' hs'
    apply Program.Completes.done
    refine ⟨⟨hs'.1.follows.setChipMode _, ?_, ?_⟩, hs'.2⟩
    · intro m hm
      cases hm
      exact hs'.1.opMode
    · unfold Radio.Done
      rw [hs'.1.modemState]
      exact rxContinuous_done
  · apply Program.Completes.done
    refine ⟨⟨h.follows.setChipMode _, ?_, ?_⟩, rfl⟩
    · intro m hm
      cases hm
      exact h.opMode
    · unfold Radio.Done
      rw [h.modemState]
      exact stdby_done

theorem transmitted_opMode (c : Chip) :
    (c.transmitted.write regIrqFlags irqTxDoneMask).regs regOpMode =
      opMode modeStdby := by
  rw [Chip.write_regs_of_ne _ (by decide) (by decide), Chip.transmitted,
    Chip.raise_regs_of_ne _ (by decide), Chip.set_regs_self]

theorem records_endSend {s : Recorded} (h : Follows regs d s.radio)
    (buf : List UInt8) :
    Records (fun _ s' =>
      Settled regs (d.step (.call (.sendPacket buf))) s'.radio ∧
        exists t, s'.sent = s.sent ++ [t] ∧
          t.frame = (s.radio.chip.write regPayloadLength
            (UInt8.ofNat buf.length)).frame ∧
          forall reg, reg ∈ settledRegs ->
            t.regs reg = (d.loaded buf).registers regs reg)
      (endSend buf) s := by
  have hload := h.load buf
  have hsent := (hload.setMode (opMode modeTx)).transmitted
  have hopMode : ((s.radio.chip.write regPayloadLength
      (UInt8.ofNat buf.length)).write regOpMode (opMode modeTx)).regs
        regOpMode = opMode modeTx := opMode_set _ _
  unfold endSend
  rw [lengthByte]
  apply Program.Completes.perform (records_write (.inl (by decide)))
  apply Program.Completes.perform (records_start _)
  apply Program.Completes.perform (records_awaitIrq hopMode)
  apply Program.Completes.perform (records_write (.inl (by decide)))
  apply Program.Completes.perform (records_setModemState _ _)
  apply Program.Completes.perform rfl
  refine Program.Completes.mono
    (@records_behindSend regs (d.loaded buf) _ ?_) ?_
  · exact ⟨⟨hsent.registers, hsent.implicit, hsent.mode, hsent.noHop⟩,
      transmitted_opMode _, rfl⟩
  · intro _ s' hs'
    exact ⟨hs'.1, _, hs'.2, rfl, hload.registers⟩

theorem records_awaitModemState {s : Recorded} (h : s.radio.Done) :
    execRecorded (.awaitModemState modeRxReadBuf) s = some (s, ()) := by
  have hexec : execTransmitting (.awaitModemState modeRxReadBuf) s.radio =
      some (s.radio, ()) := if_neg h
  rw [execRecorded, hexec]
  rfl

/-- A packet is sent as it is, with the settings of the dial. -/
theorem records_sendPacket {s : Recorded} (h : Settled regs d s.radio)
    {buf : List UInt8} (hlength : buf.length ≤ 255) :
    Records (fun _ s' =>
      Settled regs (d.step (.call (.sendPacket buf))) s'.radio ∧
        exists t, s'.sent = s.sent ++ [t] ∧
          Carries regs t ⟨buf, d.loaded buf⟩) (sendPacket buf) s := by
  have hstdby := h.follows.setMode (opMode modeStdby)
  have hptr : Follows regs d (s.radio.setChip ((s.radio.chip.write regOpMode
      (opMode modeStdby)).write regFifoAddrPtr 0)) := by
    apply hstdby.congr rfl
    · intro reg hreg
      exact Chip.write_regs_of_ne _ (fhss_not_plain hreg).2
        (fhss_not_plain hreg).2
    · exact ⟨rfl, rfl⟩
    · exact hstdby.mode
    · exact (Chip.flag_congr (Chip.set_regs_of_ne _ (by decide))).mp
  have hbytes := hptr.writeBytes (sentBytes buf)
  rw [sendPacket_eq]
  apply Program.Completes.perform (records_awaitModemState h.done)
  apply Program.Completes.perform (records_setModemState _ _)
  apply Program.Completes.perform rfl
  apply Program.Completes.perform (records_setModemState _ _)
  apply Program.Completes.perform (records_write (.inr (by decide)))
  apply Program.Completes.perform (records_setModemState _ _)
  apply Program.Completes.perform (records_write (.inl (by decide)))
  apply Program.Completes.bind
  refine ⟨_, (), run_writeFifo_recorded _ _, ?_⟩
  refine Program.Completes.mono (@records_endSend regs d _ ?_ buf) ?_
  · exact ⟨hbytes.registers, hbytes.implicit, hbytes.mode, hbytes.noHop⟩
  · intro _ s' hs'
    rcases hs'.2 with ⟨t, hsent, hframe, hregs⟩
    refine ⟨hs'.1, t, hsent, ?_, hregs⟩
    rw [hframe]
    exact s.radio.chip.loaded_frame (by lia)

/-!
## Receiving
-/

theorem PacketOp.apart {o : Op} (h : PacketOp o) : o.Apart := by
  cases o <;> try first | exact h.elim | trivial
  rcases h with h | ⟨h, hval⟩
  · subst h
    exact ⟨by decide, fun heq => absurd heq.1 (by decide)⟩
  · subst h
    refine ⟨opMode_not_settled, fun heq => ?_⟩
    rcases hval with hval | hval <;> exact absurd (hval.symm.trans heq.2) (by decide)

theorem Follows.rxDone {s : Radio} (h : Follows regs d s) (rx : Reception) :
    Follows regs d (s.rxDone rx) := by
  apply h.congr rfl
  · intro reg hreg
    apply rxDone_regs_of_ne
    revert hreg reg
    decide
  · exact ⟨rfl, rxDone_implicit s rx⟩
  · rw [(raised_rxDone s rx).loraMode]
    exact h.mode
  · exact (rxDone_flag_fhss s rx).mp

def passOn (buf : List UInt8) (rssi : Int32) (snr : Int) : Prog Unit :=
  if buf.length > 0 then access (.addEvent ⟨buf, rssi, snr⟩) else .done ()

theorem endRound_eq (buf : List UInt8) :
    endRound buf = loraPacketRssi.bind (fun rssi =>
      loraPacketSnr.bind (fun snr =>
        (toMode modeRxContinuous).bind (fun _ => passOn buf rssi snr))) := rfl

theorem loraPacketRssi_all : loraPacketRssi.All PacketOp :=
  ⟨trivial, fun _ => ⟨trivial, fun _ => trivial⟩⟩

theorem loraPacketSnr_all : loraPacketSnr.All PacketOp :=
  ⟨trivial, fun _ => trivial⟩

theorem records_packet {α : Type} {p : Prog α} (hall : p.All PacketOp)
    {s : Recorded} (h : Follows regs d s.radio) :
    Records (fun _ s' => Follows regs d s'.radio ∧ s'.sent = s.sent) p s :=
  records_apart (hall.mono (fun _ => PacketOp.apart)) h

theorem records_passOn {s : Recorded}
    (h : InMode regs d modeRxContinuous s.radio) (buf : List UInt8)
    (rssi : Int32) (snr : Int) :
    Records (fun _ s' =>
      Settled regs { d with chipMode := some modeRxContinuous } s'.radio ∧
        s'.sent = s.sent) (passOn buf rssi snr) s := by
  have hsettled : forall s' : Radio, s'.chip = s.radio.chip ->
      s'.implicit = s.radio.implicit -> s'.loraMode = s.radio.loraMode ->
      s'.modemState = s.radio.modemState ->
      Settled regs { d with chipMode := some modeRxContinuous } s' := by
    intro s' hchip himplicit hmode hstate
    refine ⟨⟨?_, ?_, ?_, ?_⟩, ?_, ?_⟩
    · rw [hchip]
      exact h.follows.registers
    · rw [himplicit]
      exact h.follows.implicit
    · rw [hmode]
      exact h.follows.mode
    · rw [hchip]
      exact h.follows.noHop
    · intro m hm
      cases hm
      rw [hchip]
      exact h.opMode
    · unfold Radio.Done
      rw [hstate, h.modemState]
      exact rxContinuous_done
  unfold passOn
  split
  · exact Program.Completes.perform rfl (Program.Completes.done
      ⟨hsettled _ rfl rfl rfl rfl, rfl⟩)
  · exact Program.Completes.done ⟨hsettled _ rfl rfl rfl rfl, rfl⟩

theorem records_endRound {s : Recorded} (h : Follows regs d s.radio)
    (buf : List UInt8) :
    Records (fun _ s' =>
      Settled regs { d with chipMode := some modeRxContinuous } s'.radio ∧
        s'.sent = s.sent) (endRound buf) s := by
  rw [endRound_eq]
  apply Program.Completes.bind
  apply (records_packet loraPacketRssi_all h).mono
  intro rssi s₁ h₁
  apply Program.Completes.bind
  apply (records_packet loraPacketSnr_all h₁.1).mono
  intro snr s₂ h₂
  apply Program.Completes.bind
  apply (records_toMode (m := modeRxContinuous) (by decide) h₂.1).mono
  intro _ s₃ h₃
  apply (records_passOn h₃.1 buf rssi snr).mono
  intro _ s₄ h₄
  exact ⟨h₄.1, h₄.2.trans (h₃.2.trans (h₂.2.trans h₁.2))⟩

theorem Follows.clear {s : Radio} (h : Follows regs d s) (irq : UInt8) :
    Follows regs d (s.setChip (s.chip.write regIrqFlags irq)) := by
  apply h.congr rfl
  · intro reg hreg
    exact s.chip.write_regs_of_ne (fhss_not_plain hreg).1 (fhss_not_plain hreg).2
  · exact ⟨rfl, rfl⟩
  · exact h.mode
  · exact Chip.flag_of_clear

theorem records_receiveRound {s : Recorded} (h : Follows regs d s.radio) :
    Records (fun _ s' =>
      Settled regs { d with chipMode := some modeRxContinuous } s'.radio ∧
        s'.sent = s.sent) receiveRound s := by
  rw [receiveRound_eq]
  apply Program.Completes.perform rfl
  apply Program.Completes.perform (records_write (.inl (by decide)))
  apply Program.Completes.bind
  apply (records_packet (packetBytes_all _ _) (h.clear _)).mono
  intro buf s' hs'
  apply (records_endRound hs'.1 buf).mono
  intro _ t ht
  exact ⟨ht.1, ht.2.trans hs'.2⟩

theorem run_isrRecvRound {s : Recorded}
    (h : ¬ s.radio.chip.flag irqFhssChangeChannel) :
    isrRecvRound.run execRecorded s = receiveRound.run execRecorded s := by
  have hirq : s.radio.chip.regs regIrqFlags &&& irqFhssChangeChannel = 0 :=
    not_not.mp h
  show ((if s.radio.chip.regs regIrqFlags &&& irqFhssChangeChannel = 0
    then _ else _ : Prog Bool).bind behindHandle).run execRecorded s = _
  rw [if_pos hirq]
  rfl

/-- A round without a hop handles the packet and goes back to receiving. -/
theorem records_isrRecvRound {s : Recorded} (h : Follows regs d s.radio) :
    Records (fun _ s' =>
      Settled regs { d with chipMode := some modeRxContinuous } s'.radio ∧
        s'.sent = s.sent) isrRecvRound s := by
  unfold Records Program.Completes
  rw [run_isrRecvRound h.noHop]
  exact records_receiveRound h

theorem Settled.rxDone {s : Radio} (h : Settled regs d s) (rx : Reception) :
    Settled regs d (s.rxDone rx) := by
  refine ⟨h.follows.rxDone rx, ?_, ?_⟩
  · intro m hm
    rw [rxDone_regs_of_ne s rx (by decide)]
    exact h.chipMode m hm
  · unfold Radio.Done
    rw [rxDone_modemState]
    exact h.done

theorem Settled.receiving {s s' : Radio} (h : Settled regs d s)
    (hrecv : s.Receives)
    (h' : Settled regs { d with chipMode := some modeRxContinuous } s') :
    Settled regs d s' ∧ s'.Receives := by
  have hrecv' : s'.Receives := h'.chipMode _ rfl
  refine ⟨⟨h'.follows.setChipMode d.chipMode, ?_, h'.done⟩, hrecv'⟩
  intro m hm
  rw [hrecv', ← hrecv]
  exact h.chipMode m hm

theorem settled_handle {s : Recorded} (h : Settled regs d s.radio)
    (hrecv : s.radio.Receives) (cmds : List IsrCmd) :
    exists s', Recorded.handle cmds s = some s' ∧ Settled regs d s'.radio ∧
      s'.sent = s.sent := by
  induction cmds generalizing s with
  | nil => exact ⟨s, rfl, h, rfl⟩
  | cons cmd rest ih =>
      have htaken : Settled regs d
          { s.radio with isrRecvQueue := rest } :=
        ⟨⟨h.follows.registers, h.follows.implicit, h.follows.mode,
          h.follows.noHop⟩, h.chipMode, h.done⟩
      rcases records_isrRecvRound (s := ⟨_, s.sent⟩) htaken.follows with
        ⟨t, a, hround, hsettled, hsent⟩
      rcases htaken.receiving hrecv hsettled with ⟨hmid, hrecv'⟩
      rcases ih hmid hrecv' with ⟨s', hrest, hlast, hmore⟩
      refine ⟨s', ?_, hlast, hmore.trans hsent⟩
      simp only [Recorded.handle, hround]
      exact hrest

/-!
## Runs
-/

def Simulates (regs : Registers) (d : Dial) (a : RadioAction) (s : Recorded)
    (s' : Recorded) : Prop :=
  Settled regs (d.step a) s'.radio ∧
    exists new, s'.sent = s.sent ++ new ∧
      List.Forall₂ (Carries regs) new (d.airs a)

theorem simulates_silent {α : Type} {p : Prog α} {s : Recorded}
    {a : RadioAction} (hsilent : d.airs a = [])
    (h : Records (fun _ s' => Settled regs (d.step a) s'.radio ∧
      s'.sent = s.sent) p s) :
    exists s', (p.run execRecorded s).map Prod.fst = some s' ∧
      Simulates regs d a s s' := by
  rcases h with ⟨s', r, hrun, hsettled, hsent⟩
  refine ⟨s', ?_, hsettled, [], ?_, ?_⟩
  · rw [hrun]
    rfl
  · rw [hsent, List.append_nil]
  · rw [hsilent]
    exact .nil

theorem Settled.step {s : Recorded} (h : Settled regs d s.radio)
    (a : RadioAction)
    (hfits : forall buf, a = .call (.sendPacket buf) -> buf.length ≤ 255) :
    exists s', Recorded.step a s = some s' ∧ Simulates regs d a s s' := by
  cases a with
  | round rx =>
      by_cases hrecv : s.radio.Receives
      · have hrecv' : (s.radio.rxDone rx).Receives :=
          (rxDone_regs_of_ne s.radio rx (by decide)).trans hrecv
        rcases settled_handle (s := ⟨s.radio.rxDone rx, s.sent⟩) (h.rxDone rx)
          hrecv' (s.radio.rxDone rx).isrRecvQueue with
          ⟨s', hhandle, hsettled, hsent⟩
        refine ⟨s', ?_, hsettled, [], ?_, .nil⟩
        · simp only [Recorded.step, if_pos hrecv]
          exact hhandle
        · rw [hsent, List.append_nil]
      · refine ⟨s, ?_, h, [], (List.append_nil _).symm, .nil⟩
        simp only [Recorded.step, if_neg hrecv]
  | call c =>
      cases c with
      | setter call =>
          exact simulates_silent rfl (records_of_run
            ((setter_all call).mono (fun _ => Op.Setting.unrecorded))
            (h.setter call))
      | setFrequency freq =>
          exact simulates_silent rfl
            (records_of_run (setFreq_all freq) (h.setFrequency freq))
      | loraIdle =>
          exact simulates_silent rfl (records_idleSet h.follows)
      | loraSleep =>
          exact simulates_silent rfl (records_sleepSet h.follows)
      | loraReceive =>
          exact simulates_silent rfl (records_recvEnable h.follows)
      | sendPacket buf =>
          rcases records_sendPacket h (hfits buf rfl) with
            ⟨s', r, hrun, hsettled, t, hsent, hcarries⟩
          refine ⟨s', ?_, hsettled, [t], hsent, .cons hcarries .nil⟩
          exact congrArg (Option.map Prod.fst) hrun

theorem Settled.run {actions : List RadioAction} {s : Recorded}
    (h : Settled regs d s.radio) (hfits : SendsFit actions) :
    exists s', runAll Recorded.step actions s = some s' ∧
      Settled regs (d.run actions) s'.radio ∧
      exists new, s'.sent = s.sent ++ new ∧
        List.Forall₂ (Carries regs) new (broadcasts actions d) := by
  induction actions generalizing d s with
  | nil =>
      exact ⟨s, rfl, h, [], (List.append_nil _).symm, .nil⟩
  | cons a rest ih =>
      have hfirst : forall buf, a = .call (.sendPacket buf) ->
          buf.length ≤ 255 :=
        fun buf heq => hfits buf (heq ▸ List.mem_cons_self)
      rcases h.step a hfirst with ⟨mid, hmid, hsettled, new, hnew, hcarries⟩
      rcases ih hsettled (fun buf hbuf => hfits buf
        (List.mem_cons_of_mem _ hbuf)) with
        ⟨s', hrun, hlast, newer, hnewer, hrest⟩
      refine ⟨s', ?_, hlast, new ++ newer, ?_,
        List.rel_append hcarries hrest⟩
      · simp only [runAll, hmid]
        exact hrun
      · rw [hnewer, hnew, List.append_assoc]

/-- The dial of a radio of which only the mode is known. -/
def Radio.dial (s : Radio) : Dial :=
  ⟨Config.unset, none, s.loraMode, none⟩

/-- A radio that is not in the middle of a packet or a hop. -/
structure Radio.AtRest (s : Radio) : Prop where
  done : s.Done
  noHop : ¬ s.chip.flag irqFhssChangeChannel
  queue : s.isrRecvQueue = []

theorem settled_dial {s : Radio} (h : s.AtRest) :
    Settled s.chip.regs s.dial s := by
  refine ⟨⟨?_, ?_, rfl, h.noHop⟩, ?_, h.done⟩
  · intro reg hreg
    exact congrFun (configured_unset s).registers reg
  · intro b hb
    cases hb
  · intro m hm
    cases hm

/-- For every radio at rest, all calls with packets that fit and all packets
that arrive, one after the other: the calls come to an end, the settings are
those of the dial, and on the air are the packets that were sent, each as it was
and with the settings of the dial at that moment.  Access by access, the same is
a run of the radio with its task. -/
theorem radio_follows_dial {s : Radio} {actions : List RadioAction}
    (h : s.AtRest) (hfits : SendsFit actions) :
    exists s', runAll Recorded.step actions ⟨s, []⟩ = some s' ∧
      Settled s.chip.regs (s.dial.run actions) s'.radio ∧
      List.Forall₂ (Carries s.chip.regs) s'.sent
        (broadcasts actions s.dial) ∧
      Leads (System.step RadioCall.program) s.resting s'.radio.resting := by
  have hstart : Settled s.chip.regs s.dial (Recorded.mk s []).radio :=
    settled_dial h
  rcases hstart.run hfits with ⟨s', hrun, hsettled, new, hnew, hcarries⟩
  rw [List.nil_append] at hnew
  exact ⟨s', hrun, hsettled, hnew ▸ hcarries,
    (Recorded.run_leads (s := ⟨s, []⟩) h.queue hrun).1⟩

theorem startRadio_atRest : startRadio.AtRest :=
  ⟨startRadio_done, by decide, rfl⟩

def twoPackets : List RadioAction :=
  [.call (.setter (.setSF (.finite 7))), .call (.sendPacket [1]),
    .call .loraReceive, .round emptyPacket,
    .call (.setFrequency (.finite 915)), .call (.sendPacket [2])]

theorem radio_follows_dial_twice :
    exists s', runAll Recorded.step twoPackets ⟨startRadio, []⟩ = some s' ∧
      Settled startRadio.chip.regs (startRadio.dial.run twoPackets) s'.radio ∧
      List.Forall₂ (Carries startRadio.chip.regs) s'.sent
        (broadcasts twoPackets startRadio.dial) ∧
      Leads (System.step RadioCall.program) startRadio.resting
        s'.radio.resting :=
  radio_follows_dial startRadio_atRest (by
    intro buf hbuf
    simp only [twoPackets, List.mem_cons, RadioAction.call.injEq,
      RadioCall.sendPacket.injEq, reduceCtorEq, List.not_mem_nil, or_false,
      false_or] at hbuf
    rcases hbuf with heq | heq <;> subst heq <;> decide)

end LoRa
end Fluxnode
