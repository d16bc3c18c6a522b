import Fluxnode.LoRa.Transmissions

/-!
# What a script hears

While the script is in receive mode, a packet without an error is passed on with
the bytes that arrived, in the length that the header or the settings tell.  No
call of the script passes one on.
-/

namespace Fluxnode
namespace LoRa

open Foundation
open Foundation.BitField (Layout splice)
open Js (Number)

variable {regs : Registers} {d : Dial}

def Reception.bytes (rx : Reception) (n : Nat) : List UInt8 :=
  (List.range n).map (fun i => rx.fifo (rx.currentAddr + UInt8.ofNat i))

/-- The length of a packet, in the header or configured. -/
def Dial.rxLength (d : Dial) (regs : Registers) (rx : Reception) : Nat :=
  if d.config.implicit = some true then
    (d.registers regs regPayloadLength).toNat
  else
    rx.nbBytes.toNat

def Dial.hears (regs : Registers) : RadioAction -> Dial -> List (List UInt8)
  | .round rx, d =>
      if d.mode ≠ .recv ∨ rx.crcError ∨ d.rxLength regs rx = 0 then []
      else [rx.bytes (d.rxLength regs rx)]
  | .call _, _ => []

def heard (regs : Registers) : List RadioAction -> Dial -> List (List UInt8)
  | [], _ => []
  | a :: rest, d => d.hears regs a ++ heard regs rest (d.step a)

def Radio.inbox (s : Radio) : List (List UInt8) :=
  s.delivered.map Packet.buf

/-- No packet is on its way to the script. -/
structure Radio.Clear (s : Radio) : Prop where
  noError : ¬ s.chip.flag irqPayloadCrcErrorMask
  noPacket : ¬ s.chip.flag irqRxDoneMask
  queue : s.isrRecvQueue = []

/-- The chip receives while the script is in receive mode, and tells the
task. -/
structure Radio.Attentive (s : Radio) : Prop where
  receives : s.Receives <-> s.loraMode = .recv
  irq : s.loraMode = .recv -> s.pins .dio0 = ⟨true, true⟩

/-- The header mode is known, and the next packet is handled. -/
structure Attends (d : Dial) (s : Radio) : Prop where
  implicit : exists b, d.config.implicit = some b
  clear : s.Clear
  attentive : s.Attentive

/-!
## Calls
-/

def Op.InCall : Op -> Prop
  | .readReg _ => True
  | .writeReg _ _ => True
  | .gpioIntrEnable _ => True
  | .gpioIntrDisable _ => True
  | .gpioIsrHandlerAdd _ => True
  | .setImplicit _ => True
  | .setFrequency _ => True
  | .setModemState _ => True
  | .awaitModemState _ => True
  | .awaitIrq _ => True
  | .getLoraMode => True
  | .setLoraMode _ => True
  | _ => False

structure Unheard (inbox : List (List UInt8)) (s : Radio) : Prop where
  inbox : s.inbox = inbox
  clear : s.Clear

theorem Op.InCall.delivered {o : Op} (ho : o.InCall) {s s' : Radio}
    {b : o.Answer} (h : exec o s = some (s', b)) :
    s'.delivered = s.delivered := by
  cases o <;> try exact ho.elim
  all_goals
    simp only [exec, Option.ite_none_left_eq_some,
      Option.ite_none_right_eq_some] at h
    first
      | cases h
        rfl
      | cases h.2
        rfl

theorem Radio.Clear.exec {o : Op} {s s' : Radio} {b : o.Answer} (hs : s.Clear)
    (h : exec o s = some (s', b)) : s'.Clear := by
  have heffect := exec_effect h
  refine ⟨fun hflag => hs.noError (heffect.flag hflag),
    fun hflag => hs.noPacket (heffect.flag hflag), ?_⟩
  rw [heffect.isrRecvQueue]
  exact hs.queue

theorem Radio.Clear.transmitted {s : Radio} (hs : s.Clear) :
    (s.setChip s.chip.transmitted).Clear :=
  ⟨fun hflag => hs.noError ((transmitted_flag _ (by decide)).mp hflag),
    fun hflag => hs.noPacket ((transmitted_flag _ (by decide)).mp hflag),
    hs.queue⟩

theorem Unheard.execRecorded {inbox : List (List UInt8)} {o : Op}
    (ho : o.InCall) {s s' : Recorded} {b : o.Answer}
    (hs : Unheard inbox s.radio) (h : execRecorded o s = some (s', b)) :
    Unheard inbox s'.radio := by
  rcases execRecorded_cases h with hexec | ⟨-, hexec⟩
  · refine ⟨?_, hs.clear.exec hexec⟩
    rw [Radio.inbox, ho.delivered hexec]
    exact hs.inbox
  · refine ⟨?_, hs.clear.transmitted.exec hexec⟩
    rw [Radio.inbox, ho.delivered hexec]
    exact hs.inbox

theorem writeFifo_inCall (bytes : List UInt8) :
    (writeFifo bytes).All Op.InCall := by
  induction bytes with
  | nil => trivial
  | cons b rest ih => exact ⟨trivial, fun _ => ih⟩

theorem Op.Setting.inCall {o : Op} (h : o.Setting) : o.InCall := by
  cases o <;> first | exact h.elim | trivial

theorem FrfOp.inCall {o : Op} (h : FrfOp o) : o.InCall := by
  cases o <;> first | exact h.elim | trivial

theorem switchTo_inCall (m : UInt8) (mode : LoRaMode) :
    (switchTo m mode).All Op.InCall :=
  ⟨trivial, fun _ => ⟨trivial, fun _ => ⟨trivial, fun _ => trivial⟩⟩⟩

theorem leave_inCall (m : UInt8) (mode : LoRaMode) :
    (Program.perform .getLoraMode (fun current =>
      if current = .recv then
        .perform (.gpioIntrDisable .dio0) (fun _ => switchTo m mode)
      else switchTo m mode) : Prog Returned).All Op.InCall := by
  refine ⟨trivial, fun current => ?_⟩
  beta_reduce
  split
  · exact ⟨trivial, fun _ => switchTo_inCall m mode⟩
  · exact switchTo_inCall m mode

theorem behindSend_inCall : behindSend.All Op.InCall := by
  refine ⟨trivial, fun mode => ?_⟩
  change Program.All Op.InCall (if mode = .recv then _ else _)
  split
  · exact ⟨trivial, fun _ => ⟨trivial, fun _ => trivial⟩⟩
  · trivial

theorem sendPacket_inCall (buf : List UInt8) :
    (sendPacket buf).All Op.InCall := by
  rw [sendPacket_eq]
  refine ⟨trivial, fun _ => ⟨trivial, fun _ => ⟨trivial, fun _ =>
    ⟨trivial, fun _ => ⟨trivial, fun _ => ⟨trivial, fun _ => ⟨trivial,
      fun _ => ?_⟩⟩⟩⟩⟩⟩⟩
  apply (writeFifo_inCall _).bind
  intro _
  exact ⟨trivial, fun _ => ⟨trivial, fun _ => ⟨trivial, fun _ => ⟨trivial,
    fun _ => ⟨trivial, fun _ => ⟨trivial, fun _ => behindSend_inCall⟩⟩⟩⟩⟩⟩

theorem enableIrqs_inCall : enableIrqs.All Op.InCall :=
  ⟨trivial, fun _ => ⟨trivial, fun _ => ⟨trivial, fun _ => ⟨trivial,
    fun _ => ⟨trivial, fun _ => ⟨trivial, fun _ => ⟨trivial, fun _ => ⟨trivial,
      fun _ => trivial⟩⟩⟩⟩⟩⟩⟩⟩

theorem RadioCall.inCall (c : RadioCall) : c.program.All Op.InCall := by
  cases c with
  | setter call => exact (setter_all call).mono (fun _ => Op.Setting.inCall)
  | setFrequency freq =>
      exact settingIf_all ((loraSetFrequency_all freq).mono
        (fun _ => FrfOp.inCall))
  | loraIdle =>
      show idleSet.All Op.InCall
      rw [idleSet_eq]
      exact leave_inCall _ _
  | loraSleep =>
      show sleepSet.All Op.InCall
      rw [sleepSet_eq]
      exact leave_inCall _ _
  | loraReceive =>
      show recvEnable.All Op.InCall
      rw [recvEnable_eq]
      exact enableIrqs_inCall.bind (fun _ => switchTo_inCall _ _)
  | sendPacket buf => exact sendPacket_inCall buf

theorem Recorded.call_unheard {c : RadioCall} {s s' : Recorded}
    {inbox : List (List UInt8)} (hs : Unheard inbox s.radio)
    (h : Recorded.step (.call c) s = some s') : Unheard inbox s'.radio := by
  rcases Option.map_eq_some_iff.mp h with ⟨⟨t, r⟩, hrun, heq⟩
  cases heq
  exact Program.All.keeps (P := fun t : Recorded => Unheard inbox t.radio)
    c.inCall hs hrun (fun o s s' b ho hs hexec => hs.execRecorded ho hexec)

/-!
## The mode and the interrupt behind a call
-/

/-- An access to neither the mode nor a pin. -/
structure Op.Steady (o : Op) : Prop where
  unrecorded : o.Unrecorded
  pins : ¬ o.OnPins
  opMode : forall val, o ≠ .writeReg regOpMode val
  loraMode : forall mode, o ≠ .setLoraMode mode

theorem Op.Setting.steady {o : Op} (ho : o.Setting) : o.Steady := by
  refine ⟨ho.unrecorded, ?_, ?_, ?_⟩
  · intro hpins
    cases o <;> first | exact ho.elim | exact hpins.elim
  · intro val heq
    subst heq
    rcases ho with ⟨f, hf⟩
    exact (field_apart f).1 hf
  · intro mode heq
    subst heq
    exact ho

theorem FrfOp.steady {o : Op} (ho : FrfOp o) : o.Steady := by
  refine ⟨ho.unrecorded, ?_, ?_, ?_⟩
  · intro hpins
    cases o <;> first | exact ho.elim | exact hpins.elim
  · intro val heq
    subst heq
    exact absurd ho (show regOpMode ∉ frfRegs by decide)
  · intro mode heq
    subst heq
    exact ho

theorem Radio.Attentive.exec {o : Op} (ho : o.Steady) {s s' : Radio}
    {b : o.Answer} (hs : s.Attentive) (h : exec o s = some (s', b)) : s'.Attentive := by
  have heffect := exec_effect h
  have hmode := heffect.loraMode ho.loraMode
  have hchip := heffect.regs (by decide) ho.opMode
  constructor
  · unfold Radio.Receives
    rw [hmode, hchip]
    exact hs.receives
  · rw [hmode, heffect.pins ho.pins]
    exact hs.irq

theorem Radio.Attentive.run {α : Type} {p : Prog α} (hall : p.All Op.Steady)
    {s s' : Recorded} {a : α} (hs : s.radio.Attentive)
    (hrun : p.run execRecorded s = some (s', a)) : s'.radio.Attentive := by
  refine Program.All.keeps (P := fun t : Recorded => t.radio.Attentive)
    hall hs hrun ?_
  intro o t t' b ho ht hexec
  rw [ho.unrecorded.execRecorded] at hexec
  rcases Option.map_eq_some_iff.mp hexec with ⟨⟨radio, c⟩, hexec', heq⟩
  cases heq
  exact ht.exec ho hexec'

theorem Settled.receives_iff {s : Radio} (h : Settled regs d s) {m : UInt8}
    (hchip : d.chipMode = some m)
    (hm : opMode m = opMode modeRxContinuous <-> d.mode = .recv) :
    s.Receives <-> s.loraMode = .recv := by
  unfold Radio.Receives
  rw [h.chipMode m hchip, h.follows.mode]
  exact hm

theorem Settled.attentive {s : Radio} (h : Settled regs d s) {m : UInt8}
    (hchip : d.chipMode = some m)
    (hm : opMode m ≠ opMode modeRxContinuous) (hmode : d.mode ≠ .recv) :
    s.Attentive := by
  refine ⟨h.receives_iff hchip ⟨fun heq => absurd heq hm,
    fun heq => absurd heq hmode⟩, ?_⟩
  rw [h.follows.mode]
  exact fun heq => absurd heq hmode

theorem records_recvEnable_pins (s : Recorded) :
    Records (fun _ s' => s'.radio.pins .dio0 = ⟨true, true⟩) recvEnable s := by
  rw [recvEnable_eq]
  apply Program.Completes.perform rfl
  apply Program.Completes.perform (records_write (.inl (by decide)))
  apply Program.Completes.perform rfl
  apply Program.Completes.perform rfl
  apply Program.Completes.perform rfl
  apply Program.Completes.perform (records_write (.inl (by decide)))
  apply Program.Completes.perform rfl
  apply Program.Completes.perform rfl
  apply Program.Completes.perform rfl
  apply Program.Completes.perform (records_write (.inr (by decide)))
  apply Program.Completes.perform rfl
  apply Program.Completes.done
  rfl

theorem records_behindSend_pins (s : Recorded) :
    Records (fun _ s' => s'.radio.pins = s.radio.pins) behindSend s := by
  apply Program.Completes.perform rfl
  change Records _ (if s.radio.loraMode = .recv then _ else _) s
  split
  · apply Program.Completes.perform rfl
    apply Program.Completes.perform (records_write (.inr (by decide)))
    exact Program.Completes.done rfl
  · exact Program.Completes.done rfl

theorem records_sendPacket_pins {s : Recorded} (hdone : s.radio.Done)
    (h : s.radio.pins .dio0 = ⟨true, true⟩) (buf : List UInt8) :
    Records (fun _ s' => s'.radio.pins .dio0 = ⟨true, true⟩)
      (sendPacket buf) s := by
  rw [sendPacket_eq]
  apply Program.Completes.perform (records_awaitModemState hdone)
  apply Program.Completes.perform rfl
  apply Program.Completes.perform rfl
  apply Program.Completes.perform rfl
  apply Program.Completes.perform (records_write (.inr (by decide)))
  apply Program.Completes.perform rfl
  apply Program.Completes.perform (records_write (.inl (by decide)))
  apply Program.Completes.bind
  refine ⟨_, (), run_writeFifo_recorded _ _, ?_⟩
  apply Program.Completes.perform (records_write (.inl (by decide)))
  apply Program.Completes.perform (records_start _)
  apply Program.Completes.perform (records_awaitIrq (opMode_set _ _))
  apply Program.Completes.perform (records_write (.inl (by decide)))
  apply Program.Completes.perform rfl
  apply Program.Completes.perform rfl
  apply (records_behindSend_pins _).mono
  intro _ s' hs'
  rw [hs']
  show PinState.mk (s.radio.pins .dio0).handler true = _
  rw [h]

/-- A call leaves the chip receiving exactly in receive mode. -/
theorem Recorded.call_attentive {c : RadioCall} {s s' : Recorded}
    (hsettled : Settled regs d s.radio) (h : s.radio.Attentive)
    (hstep : Recorded.step (.call c) s = some s')
    (hsettled' : Settled regs (d.step (.call c)) s'.radio) :
    s'.radio.Attentive := by
  rcases Option.map_eq_some_iff.mp hstep with ⟨⟨t, r⟩, hrun, heq⟩
  cases heq
  cases c with
  | setter call =>
      exact h.run ((setter_all call).mono (fun _ => Op.Setting.steady)) hrun
  | setFrequency freq =>
      exact h.run (settingIf_all ((loraSetFrequency_all freq).mono
        (fun _ => FrfOp.steady))) hrun
  | loraIdle =>
      exact hsettled'.attentive rfl (by decide) LoRaMode.noConfusion
  | loraSleep =>
      exact hsettled'.attentive rfl (by decide) LoRaMode.noConfusion
  | loraReceive =>
      refine ⟨hsettled'.receives_iff rfl ⟨fun _ => rfl, fun _ => rfl⟩,
        fun _ => ?_⟩
      exact (records_recvEnable_pins s).result hrun
  | sendPacket buf =>
      have hmode : t.radio.loraMode = s.radio.loraMode :=
        hsettled'.follows.mode.trans hsettled.follows.mode.symm
      refine ⟨hsettled'.receives_iff rfl ?_, ?_⟩
      · show opMode (if d.mode = .recv then modeRxContinuous
          else modeStdby) = _ <-> d.mode = .recv
        split
        · rename_i hrecv
          exact ⟨fun _ => hrecv, fun _ => rfl⟩
        · rename_i hother
          exact ⟨fun heq => absurd heq (by decide),
            fun heq => absurd heq hother⟩
      · intro hrecv
        have hpin := h.irq (hmode.symm.trans hrecv)
        exact (records_sendPacket_pins hsettled.done hpin buf).result hrun

/-!
## Rounds
-/

theorem window_succ (fifo : UInt8 -> UInt8) (ptr : UInt8) (n : Nat) :
    (List.range (n + 1)).map (fun i => fifo (ptr + UInt8.ofNat i)) =
      fifo ptr ::
        (List.range n).map (fun i => fifo (ptr + 1 + UInt8.ofNat i)) := by
  rw [List.range_succ_eq_map, List.map_cons, List.map_map]
  congr 1
  · rw [show UInt8.ofNat 0 = 0 from rfl, UInt8.add_zero]
  · apply List.map_congr_left
    intro i _
    show fifo (ptr + UInt8.ofNat (i + 1)) = _
    rw [UInt8.ofNat_add, UInt8.add_comm (UInt8.ofNat i), ← UInt8.add_assoc]
    rfl

theorem records_fifo (s : Recorded) :
    execRecorded (.readReg regFifo) s =
      some ({ s with radio := s.radio.setChip (s.radio.chip.set regFifoAddrPtr
        (s.radio.chip.regs regFifoAddrPtr + 1)) },
          s.radio.chip.fifo (s.radio.chip.regs regFifoAddrPtr)) := rfl

theorem records_readFifo (n : Nat) (s : Recorded) :
    Records (fun bytes s' =>
      bytes = (List.range n).map (fun i => s.radio.chip.fifo
        (s.radio.chip.regs regFifoAddrPtr + UInt8.ofNat i)) ∧
      s'.radio.delivered = s.radio.delivered) (readFifo n) s := by
  induction n generalizing s with
  | zero => exact Program.Completes.done ⟨rfl, rfl⟩
  | succ n ih =>
      rw [readFifo_succ]
      apply Program.Completes.perform (records_fifo s)
      apply Program.Completes.bind
      apply (ih _).mono
      intro rest s' h
      apply Program.Completes.done
      refine ⟨?_, h.2⟩
      rw [window_succ, h.1]
      rfl

theorem records_readReg {reg : Register} (h : reg ≠ regFifo) (s : Recorded) :
    execRecorded (.readReg reg) s = some (s, s.radio.chip.regs reg) := by
  have hexec : exec (.readReg reg) s.radio =
      some (s.radio, s.radio.chip.regs reg) := by
    rw [exec, s.radio.chip.read_of_ne h]
    rfl
  show (exec (.readReg reg) s.radio).map _ = _
  rw [hexec]
  rfl

theorem records_copyBytes (n : Nat) (s : Recorded) :
    Records (fun bytes s' =>
      bytes = (List.range n).map (fun i => s.radio.chip.fifo
        (s.radio.chip.regs regFifoAddrPtr + UInt8.ofNat i)) ∧
      s'.radio.delivered = s.radio.delivered) (copyBytes n) s := by
  apply Program.Completes.bind
  apply (records_readFifo n s).mono
  intro bytes s' h
  apply Program.Completes.perform (records_setModemState _ _)
  apply Program.Completes.done
  exact h

theorem rxLength_fits (s : Radio) :
    (if s.rxLength.toNat > loraMsgMaxSize + 1 then loraMsgMaxSize + 1
      else s.rxLength.toNat) = s.rxLength.toNat := by
  apply if_neg
  have hlt := s.rxLength.toNat_lt
  unfold loraMsgMaxSize
  lia

theorem records_readPacket {rx : Reception} {s : Recorded}
    (hfifo : s.radio.chip.fifo = rx.fifo)
    (haddr : s.radio.chip.regs regFifoRxCurrentAddr = rx.currentAddr) :
    Records (fun bytes s' => bytes = rx.bytes s.radio.rxLength.toNat ∧
      s'.radio.delivered = s.radio.delivered)
      (readPacket (loraMsgMaxSize + 1) s.radio.implicit) s := by
  have hreg : (if s.radio.implicit then regPayloadLength else regRxNbBytes) ≠
      regFifo := by
    split <;> decide
  have haddr' : (s.radio.chip.write regOpMode (opMode modeStdby)).regs
      regFifoRxCurrentAddr = rx.currentAddr :=
    (s.radio.chip.write_regs_of_ne (by decide) (by decide)).trans haddr
  have hlength : s.radio.chip.regs (if s.radio.implicit then regPayloadLength
      else regRxNbBytes) = s.radio.rxLength := rfl
  apply Program.Completes.perform (records_readReg hreg s)
  rw [hlength]
  apply Program.Completes.perform (records_setModemState _ _)
  apply Program.Completes.perform (records_write (.inr (by decide)))
  apply Program.Completes.perform (records_setModemState _ _)
  apply Program.Completes.perform (records_readReg (by decide) _)
  apply Program.Completes.perform (records_write (.inl (by decide)))
  refine (records_copyBytes _ _).mono ?_
  intro bytes s' h
  refine ⟨?_, h.2⟩
  have hptr : ((s.radio.chip.write regOpMode (opMode modeStdby)).write
      regFifoAddrPtr ((s.radio.chip.write regOpMode (opMode modeStdby)).regs
        regFifoRxCurrentAddr)).regs regFifoAddrPtr = rx.currentAddr :=
    (Chip.write_regs_self _ (by decide)).trans haddr'
  have hbytes : bytes = (List.range _).map (fun i => s.radio.chip.fifo
      (((s.radio.chip.write regOpMode (opMode modeStdby)).write regFifoAddrPtr
        ((s.radio.chip.write regOpMode (opMode modeStdby)).regs
          regFifoRxCurrentAddr)).regs regFifoAddrPtr + UInt8.ofNat i)) := h.1
  rw [hbytes, rxLength_fits, hptr, hfifo]
  rfl

theorem records_endRound_inbox (buf : List UInt8) (s : Recorded) :
    Records (fun _ s' => s'.radio.inbox =
      s.radio.inbox ++ if buf = [] then [] else [buf]) (endRound buf) s := by
  apply Program.Completes.perform (records_readReg (by decide) _)
  apply Program.Completes.perform rfl
  apply Program.Completes.perform (records_readReg (by decide) _)
  apply Program.Completes.perform (records_setModemState _ _)
  apply Program.Completes.perform (records_write (.inr (by decide)))
  cases buf with
  | nil =>
      apply Program.Completes.done
      exact (List.append_nil _).symm
  | cons b rest =>
      apply Program.Completes.perform rfl
      apply Program.Completes.done
      exact List.map_append

theorem Reception.bytes_eq_nil (rx : Reception) (n : UInt8) :
    rx.bytes n.toNat = [] <-> n = 0 := by
  rw [Reception.bytes, List.map_eq_nil_iff, List.range_eq_nil]
  exact UInt8.toNat_inj (b := 0)

/-- What a packet has left behind, when the flags are read. -/
structure Arrived (rx : Reception) (s : Radio) : Prop where
  fifo : s.chip.fifo = rx.fifo
  addr : s.chip.regs regFifoRxCurrentAddr = rx.currentAddr
  done : s.chip.flag irqRxDoneMask
  error : s.chip.flag irqPayloadCrcErrorMask <-> rx.crcError = true
  noHop : ¬ s.chip.flag irqFhssChangeChannel

/-- A round passes a packet on as it arrived, unless there is an error. -/
theorem records_round_inbox {rx : Reception} {s : Recorded}
    (h : Arrived rx s.radio) :
    Records (fun _ s' => s'.radio.inbox = s.radio.inbox ++
      if rx.crcError ∨ s.radio.rxLength = 0 then []
      else [rx.bytes s.radio.rxLength.toNat]) isrRecvRound s := by
  unfold Records Program.Completes
  rw [run_isrRecvRound h.noHop, receiveRound_eq]
  change Records _ (.perform (.readReg regIrqFlags) receiveFrom) s
  apply Program.Completes.perform (records_readReg (by decide) _)
  apply Program.Completes.perform (records_write (.inl (by decide)))
  apply Program.Completes.bind
  unfold packetBytes
  rw [if_neg h.done]
  cases herror : rx.crcError with
  | true =>
      have hflag : s.radio.chip.regs regIrqFlags &&&
          irqPayloadCrcErrorMask ≠ 0 := h.error.mpr herror
      rw [if_pos hflag, if_pos (.inl rfl)]
      apply Program.Completes.done
      exact records_endRound_inbox [] _
  | false =>
      have hclean : ¬ s.radio.chip.regs regIrqFlags &&&
          irqPayloadCrcErrorMask ≠ 0 := by
        intro hflag
        have herror' := h.error.mp hflag
        rw [herror] at herror'
        cases herror'
      have hkept : forall reg, reg ≠ regIrqFlags -> reg ≠ regFifoAddrPtr ->
          (s.radio.chip.write regIrqFlags (s.radio.chip.regs regIrqFlags)).regs
            reg = s.radio.chip.regs reg :=
        fun reg hne hptr => s.radio.chip.write_regs_of_ne hne hptr
      rw [if_neg hclean]
      apply Program.Completes.perform (records_setModemState _ _)
      apply Program.Completes.perform rfl
      refine Program.Completes.mono (@records_readPacket rx _ h.fifo
        ((hkept _ (by decide) (by decide)).trans h.addr)) ?_
      intro bytes s' hbytes
      apply (records_endRound_inbox bytes s').mono
      intro _ t ht
      have hlength : Radio.rxLength { s.radio with
          chip := s.radio.chip.write regIrqFlags (s.radio.chip.regs regIrqFlags)
          modemState := modeRxReadBuf } = s.radio.rxLength := by
        unfold Radio.rxLength
        apply hkept
        · split <;> decide
        · split <;> decide
      have hread : bytes = rx.bytes s.radio.rxLength.toNat := by
        rw [← hlength]
        exact hbytes.1
      have hinbox : s'.radio.inbox = s.radio.inbox :=
        congrArg (List.map Packet.buf) hbytes.2
      rw [ht, hinbox, hread]
      simp only [Reception.bytes_eq_nil, Bool.false_eq_true, false_or]

theorem singleBit_crcError : SingleBit irqPayloadCrcErrorMask := by
  intro v
  have h : forall b : BitVec 8, b &&& 0x20 = 0 ∨ b &&& 0x20 = 0x20 := by
    decide
  simp only [← UInt8.toBitVec_inj]
  exact h v.toBitVec

theorem round_clears {s s' : Recorded} {a : Unit} {mask : UInt8}
    (hbit : SingleBit mask) (hmask : mask ≠ 0)
    (hhop : ¬ s.radio.chip.flag irqFhssChangeChannel)
    (hrun : isrRecvRound.run execRecorded s = some (s', a)) :
    ¬ s'.radio.chip.flag mask := by
  have hclear : ¬ (s.radio.chip.write regIrqFlags
      (s.radio.chip.regs regIrqFlags)).flag mask := by
    intro hflag
    rcases (Chip.flag_clear hbit hmask).mp hflag with ⟨hset, hzero⟩
    exact hset hzero
  rw [run_isrRecvRound hhop, receiveRound_eq, Program.run_perform,
    records_readReg (by decide), Option.bind_some, receiveFrom,
    Program.run_perform, records_write (.inl (by decide)),
    Option.bind_some] at hrun
  refine Program.All.keeps
    (P := fun t : Recorded => ¬ t.radio.chip.flag mask)
    (receiveRest_all _) hclear hrun ?_
  intro o t t' b ho ht hexec hflag
  rw [ho.apart.unrecorded.execRecorded] at hexec
  rcases Option.map_eq_some_iff.mp hexec with ⟨⟨r, c⟩, hexec', heq⟩
  cases heq
  exact ht ((exec_effect hexec').flag hflag)

theorem round_frame {s s' : Recorded} {a : Unit}
    (hrun : isrRecvRound.run execRecorded s = some (s', a)) :
    s'.radio.pins = s.radio.pins ∧ s'.radio.loraMode = s.radio.loraMode := by
  refine Program.All.keeps (P := fun t : Recorded =>
    t.radio.pins = s.radio.pins ∧ t.radio.loraMode = s.radio.loraMode)
    isrRecvRound_all ⟨rfl, rfl⟩ hrun ?_
  intro o t t' b ho ht hexec
  rw [ho.unrecorded.execRecorded] at hexec
  rcases Option.map_eq_some_iff.mp hexec with ⟨⟨r, c⟩, hexec', heq⟩
  cases heq
  have heffect := exec_effect hexec'
  exact ⟨(heffect.pins ho.not_onPins).trans ht.1,
    (heffect.loraMode ho.ne_setLoraMode).trans ht.2⟩

/-!
## Runs
-/

section RxDone

variable (s : Radio) (rx : Reception)

theorem rxDone_fifo : (s.rxDone rx).chip.fifo = rx.fifo := by
  rw [rxDone_chip, Chip.receive]
  split <;> rfl

theorem rxDone_addr :
    (s.rxDone rx).chip.regs regFifoRxCurrentAddr = rx.currentAddr := by
  rw [rxDone_chip, Chip.receive]
  split <;> rfl

theorem rxDone_nbBytes :
    (s.rxDone rx).chip.regs regRxNbBytes = rx.nbBytes := by
  rw [rxDone_chip, Chip.receive]
  split <;> rfl

theorem interrupt_inbox (pin : Pin) (cmd : IsrCmd) :
    (s.interrupt pin cmd).inbox = s.inbox := by
  unfold Radio.interrupt
  split <;> rfl

theorem rxDone_inbox : (s.rxDone rx).inbox = s.inbox := by
  unfold Radio.rxDone
  split
  · rfl
  · exact interrupt_inbox _ _ _

theorem rxDone_error (h : ¬ s.chip.flag irqPayloadCrcErrorMask) :
    (s.rxDone rx).chip.flag irqPayloadCrcErrorMask <-> rx.crcError = true := by
  rw [rxDone_chip, Chip.flag_raise, Chip.receive]
  cases rx.crcError with
  | true =>
      simp only [if_true, iff_true]
      exact .inl (Chip.flag_raise.mpr (.inr (by decide)))
  | false =>
      simp only [Bool.false_eq_true, if_false, iff_false, not_or, not_not]
      exact ⟨h, by decide⟩

end RxDone

theorem arrived_rxDone {s : Radio} (h : Follows regs d s)
    (hclean : ¬ s.chip.flag irqPayloadCrcErrorMask) (rx : Reception) :
    Arrived rx (s.rxDone rx) :=
  ⟨rxDone_fifo s rx, rxDone_addr s rx, rxDone_flag_rxDone s rx,
    rxDone_error s rx hclean, (h.rxDone rx).noHop⟩

theorem Follows.rxLength {s : Radio} (h : Follows regs d s) {b : Bool}
    (hb : d.config.implicit = some b) (rx : Reception) :
    (s.rxDone rx).rxLength.toNat = d.rxLength regs rx := by
  have himplicit : (s.rxDone rx).implicit = b :=
    (rxDone_implicit s rx).trans (h.implicit b hb)
  unfold Radio.rxLength Dial.rxLength
  rw [himplicit, hb]
  cases b with
  | false =>
      rw [if_neg Bool.false_ne_true, if_neg (by decide), rxDone_nbBytes]
  | true =>
      rw [if_pos rfl, if_pos rfl]
      congr 1
      exact (h.rxDone rx).registers _ (mem_settledRegs .payloadLength)

theorem Dial.step_implicit (d : Dial) (a : RadioAction)
    (h : exists b, d.config.implicit = some b) :
    exists b, (d.step a).config.implicit = some b := by
  cases a with
  | round rx => exact h
  | call c =>
      cases c with
      | setter call =>
          show exists b, (d.config.accept call).implicit = some b
          cases call with
          | setPayloadLen pl =>
              unfold Config.accept
              dsimp only
              split
              · exact ⟨_, rfl⟩
              · split
                · exact ⟨_, rfl⟩
                · exact h
          | setCRC crc => exact h
          | setIQMode iq => exact h
          | setSyncWord sw => exact h
          | _ =>
              unfold Config.accept
              dsimp only
              split <;> exact h
      | setFrequency freq =>
          rw [step_setFrequency]
          split <;> exact h
      | _ => exact h

theorem Recorded.call_attends {c : RadioCall} {s s' : Recorded}
    (himplicit : exists b, d.config.implicit = some b) (hclear : s.radio.Clear)
    (hstep : Recorded.step (.call c) s = some s')
    (hattentive : s'.radio.Attentive) :
    Attends (d.step (.call c)) s'.radio ∧
      s'.radio.inbox = s.radio.inbox ++ d.hears regs (.call c) := by
  have hunheard : Unheard s.radio.inbox s'.radio :=
    Recorded.call_unheard ⟨rfl, hclear⟩ hstep
  refine ⟨⟨d.step_implicit _ himplicit, hunheard.clear, hattentive⟩, ?_⟩
  exact hunheard.inbox.trans (List.append_nil _).symm

theorem rxDone_posts {s : Radio} (hclear : s.Clear)
    (hpin : s.pins .dio0 = ⟨true, true⟩) (rx : Reception) :
    (s.rxDone rx).isrRecvQueue = [.readPacket] := by
  unfold Radio.rxDone
  rw [if_neg hclear.noPacket]
  unfold Radio.interrupt
  simp only [Radio.setChip, hpin, hclear.queue]
  rfl

/-- The packet has arrived, and the task has taken its command. -/
def Recorded.taken (rx : Reception) (s : Recorded) : Recorded :=
  { s with radio := { s.radio.rxDone rx with isrRecvQueue := [] } }

theorem Recorded.step_round {s : Recorded} (hrecv : s.radio.Receives)
    (hclear : s.radio.Clear) (hpin : s.radio.pins .dio0 = ⟨true, true⟩)
    (rx : Reception) :
    Recorded.step (.round rx) s =
      (isrRecvRound.run execRecorded (s.taken rx)).map Prod.fst := by
  simp only [Recorded.step, if_pos hrecv, rxDone_posts hclear hpin,
    Recorded.handle]
  rw [Recorded.taken]
  cases isrRecvRound.run execRecorded _ <;> rfl

theorem Recorded.round_attends {s s' : Recorded} {rx : Reception}
    (hsettled : Settled regs d s.radio) (h : Attends d s.radio)
    (hmode : d.mode = .recv)
    (hstep : Recorded.step (.round rx) s = some s') :
    Attends d s'.radio ∧
      s'.radio.inbox = s.radio.inbox ++ d.hears regs (.round rx) := by
  have hrecv := hsettled.follows.mode.trans hmode
  have hpin := h.attentive.irq hrecv
  rcases h.implicit with ⟨b, hb⟩
  rw [Recorded.step_round (h.attentive.receives.mpr hrecv) h.clear hpin]
    at hstep
  rcases Option.map_eq_some_iff.mp hstep with ⟨⟨t, a⟩, hrun, heq⟩
  cases heq
  have hfollows := hsettled.follows.rxDone rx
  have htaken : Follows regs d (s.taken rx).radio :=
    ⟨hfollows.registers, hfollows.implicit, hfollows.mode, hfollows.noHop⟩
  have hrxDone : Arrived rx (s.radio.rxDone rx) :=
    arrived_rxDone hsettled.follows h.clear.noError rx
  have harrived : Arrived rx (s.taken rx).radio :=
    ⟨hrxDone.fifo, hrxDone.addr, hrxDone.done, hrxDone.error, hrxDone.noHop⟩
  have hinbox := (records_round_inbox harrived).result hrun
  have hreceiving := (records_isrRecvRound htaken).result hrun
  have hraised := raised_rxDone s.radio rx
  rcases round_frame hrun with ⟨hpins, hloraMode⟩
  have hmode' : t.radio.loraMode = .recv :=
    hloraMode.trans (hraised.loraMode.trans hrecv)
  have hpin' : t.radio.pins .dio0 = ⟨true, true⟩ :=
    (congrFun (hpins.trans hraised.pins) _).trans hpin
  refine ⟨⟨⟨b, hb⟩, ⟨?_, ?_, run_queue hrun⟩, ?_⟩, ?_⟩
  · exact round_clears singleBit_crcError (by decide) htaken.noHop hrun
  · exact round_clears singleBit_rxDone (by decide) htaken.noHop hrun
  · exact ⟨⟨fun _ => hmode', fun _ => hreceiving.1.chipMode _ rfl⟩,
      fun _ => hpin'⟩
  · have hlength : (s.taken rx).radio.rxLength.toNat = d.rxLength regs rx :=
      hsettled.follows.rxLength hb rx
    have hzero : (s.taken rx).radio.rxLength = 0 <->
        d.rxLength regs rx = 0 := by
      rw [← hlength]
      exact UInt8.toNat_inj (b := 0).symm
    have hbefore : (s.taken rx).radio.inbox = s.radio.inbox :=
      rxDone_inbox s.radio rx
    rw [hinbox, hbefore]
    simp only [Dial.hears, hzero, hlength, hmode, ne_eq, not_true_eq_false,
      false_or]

theorem Recorded.round_missed {s s' : Recorded} {rx : Reception}
    (hsettled : Settled regs d s.radio) (h : Attends d s.radio)
    (hmode : d.mode ≠ .recv)
    (hstep : Recorded.step (.round rx) s = some s') :
    s' = s ∧ d.hears regs (.round rx) = [] := by
  have hmissed : ¬ s.radio.Receives := by
    intro hreceives
    apply hmode
    exact hsettled.follows.mode.symm.trans (h.attentive.receives.mp hreceives)
  simp only [Recorded.step, if_neg hmissed, Option.some.injEq] at hstep
  exact ⟨hstep.symm, if_pos (.inl hmode)⟩

theorem Attends.step {s s' : Recorded} {a : RadioAction}
    (hsettled : Settled regs d s.radio) (h : Attends d s.radio)
    (hstep : Recorded.step a s = some s')
    (hsettled' : Settled regs (d.step a) s'.radio) :
    Attends (d.step a) s'.radio ∧
      s'.radio.inbox = s.radio.inbox ++ d.hears regs a := by
  cases a with
  | call c =>
      exact Recorded.call_attends h.implicit h.clear hstep
        (Recorded.call_attentive hsettled h.attentive hstep hsettled')
  | round rx =>
      by_cases hmode : d.mode = .recv
      · exact Recorded.round_attends hsettled h hmode hstep
      · rcases Recorded.round_missed hsettled h hmode hstep with ⟨rfl, hnone⟩
        refine ⟨h, ?_⟩
        rw [hnone, List.append_nil]

theorem Attends.run {actions : List RadioAction} {s s' : Recorded}
    (hsettled : Settled regs d s.radio) (h : Attends d s.radio)
    (hfits : SendsFit actions)
    (hrun : runAll Recorded.step actions s = some s') :
    Attends (d.run actions) s'.radio ∧
      s'.radio.inbox = s.radio.inbox ++ heard regs actions d := by
  induction actions generalizing d s with
  | nil =>
      cases hrun
      exact ⟨h, (List.append_nil _).symm⟩
  | cons a rest ih =>
      rcases runAll_cons hrun with ⟨mid, hmid, hrest⟩
      rcases hsettled.step a (fun buf heq => hfits buf
        (heq ▸ List.mem_cons_self)) with ⟨mid', hmid', hsettled', -⟩
      rw [hmid] at hmid'
      cases hmid'
      rcases h.step hsettled hmid hsettled' with ⟨hattends, hinbox⟩
      rcases ih hsettled' hattends (fun buf hbuf => hfits buf
        (List.mem_cons_of_mem _ hbuf)) hrest with ⟨hlast, hmore⟩
      refine ⟨hlast, ?_⟩
      rw [hmore, hinbox, List.append_assoc]
      rfl

theorem attends_run_idle {rest : List RadioAction} {s s' : Recorded}
    (hsettled : Settled regs d s.radio)
    (himplicit : exists b, d.config.implicit = some b) (hclear : s.radio.Clear)
    (hfits : SendsFit rest)
    (hrun : runAll Recorded.step (.call .loraIdle :: rest) s = some s') :
    Attends (d.run (.call .loraIdle :: rest)) s'.radio ∧
      s'.radio.inbox = s.radio.inbox ++
        heard regs (.call .loraIdle :: rest) d := by
  rcases runAll_cons hrun with ⟨mid, hmid, hrest⟩
  rcases hsettled.step (.call .loraIdle) (fun buf heq => by cases heq) with
    ⟨mid', hmid', hsettled', -⟩
  rw [hmid] at hmid'
  cases hmid'
  have hattentive : mid.radio.Attentive :=
    hsettled'.attentive rfl (by decide) LoRaMode.noConfusion
  rcases @Recorded.call_attends regs _ _ _ _ himplicit hclear hmid hattentive
    with ⟨hattends, hinbox⟩
  rcases hattends.run hsettled' hfits hrest with ⟨hlast, hmore⟩
  refine ⟨hlast, ?_⟩
  rw [hmore, hinbox, List.append_assoc]
  rfl

def Radio.HeaderKnown (s : Radio) : Prop :=
  s.chip.regs regModemConfig1 &&& 0x01 = if s.implicit then 0x01 else 0

def Radio.headerDial (s : Radio) : Dial :=
  { s.dial with config := { Config.unset with implicit := some s.implicit } }

theorem HeaderKnown.registers {s : Radio} (h : s.HeaderKnown) :
    s.headerDial.registers s.chip.regs = s.chip.regs := by
  have hvalue : s.headerDial.config.value = Function.update Config.unset.value
      .headerMode (some (if s.implicit then 0x01 else 0)) := by
    funext f
    cases f <;> rfl
  have hagree : s.chip.regs regModemConfig1 &&& 0x01 =
      (if s.implicit then 0x01 else 0) &&& 0x01 := by
    rw [h]
    cases s.implicit <;> rfl
  show layout.overlay s.headerDial.config.value s.chip.regs = s.chip.regs
  rw [hvalue, Layout.overlay_update, ← Config.registers,
    ← (configured_unset s).registers, Layout.write]
  show Function.update s.chip.regs regModemConfig1
    (splice 0x01 _ (s.chip.regs regModemConfig1)) = _
  rw [BitField.splice_of_agree hagree, Function.update_eq_self]

theorem settled_headerDial {s : Radio} (hdone : s.Done)
    (hhop : ¬ s.chip.flag irqFhssChangeChannel) (hheader : s.HeaderKnown) :
    Settled s.chip.regs s.headerDial s := by
  refine ⟨⟨?_, ?_, rfl, hhop⟩, ?_, hdone⟩
  · intro reg hreg
    rw [HeaderKnown.registers hheader]
  · intro b hb
    cases hb
    rfl
  · intro m hm
    cases hm

/-- A radio that is not in the middle of a packet or a hop, and whose header
mode is known. -/
structure Radio.Ready (s : Radio) : Prop where
  done : s.Done
  noHop : ¬ s.chip.flag irqFhssChangeChannel
  clear : s.Clear
  header : s.HeaderKnown

theorem Radio.Ready.attends {s : Radio} (h : s.Ready)
    (hattentive : s.Attentive) : Attends s.headerDial s :=
  ⟨⟨_, rfl⟩, h.clear, hattentive⟩

/-- For every radio that is ready, all calls with packets that fit and all
packets that arrive, one after the other: the script gets the packets that
arrived without an error while it was in receive mode, each once, in order and
with the bytes that arrived, and nothing else. -/
theorem radio_delivers {s : Radio} {actions : List RadioAction} (h : s.Ready)
    (hattentive : s.Attentive) (hfits : SendsFit actions) :
    exists s', runAll Recorded.step actions ⟨s, []⟩ = some s' ∧
      Settled s.chip.regs (s.headerDial.run actions) s'.radio ∧
      s'.radio.inbox =
        s.inbox ++ heard s.chip.regs actions s.headerDial := by
  have hsettled := settled_headerDial h.done h.noHop h.header
  rcases Settled.run (s := ⟨s, []⟩) hsettled hfits with
    ⟨s', hrun, hlast, -⟩
  exact ⟨s', hrun, hlast, (Attends.run (s := ⟨s, []⟩) hsettled
    (h.attends hattentive) hfits hrun).2⟩

theorem startRadio_ready : startRadio.Ready := by
  refine ⟨startRadio_done, by decide, ⟨by decide, by decide, rfl⟩, ?_⟩
  unfold Radio.HeaderKnown
  decide

theorem startRadio_attentive : startRadio.Attentive :=
  ⟨by decide, LoRaMode.noConfusion⟩

def oneByte : Reception :=
  { emptyPacket with nbBytes := 1, fifo := fun _ => 0x42 }

def missesOne : List RadioAction :=
  [.round oneByte, .call .loraReceive, .round oneByte]

theorem radio_delivers_one :
    exists s', runAll Recorded.step missesOne ⟨startRadio, []⟩ = some s' ∧
      s'.radio.inbox = [[0x42]] := by
  have hnone : SendsFit missesOne := by
    intro buf hmem
    simp [missesOne] at hmem
  rcases radio_delivers startRadio_ready startRadio_attentive hnone with
    ⟨s', hrun, -, hinbox⟩
  exact ⟨s', hrun, hinbox⟩

end LoRa
end Fluxnode
