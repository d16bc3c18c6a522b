import Fluxnode.LoRa.Settings
import Fluxnode.LoRa.Rounds

/-!
# The length of received packets

With an implicit header the length of a packet is the one in
`REG_PAYLOAD_LENGTH`.  `set_payload_len` configures it there, and
`lora_send_packet` writes the length of its own packet to the same register.
-/

namespace Fluxnode
namespace LoRa

open Foundation
open Js (Number)

/-!
## Calls and packets
-/

structure SentPacket where
  bytes : List UInt8
  length_pos : 0 < bytes.length
  length_lt : bytes.length < 256

inductive PayloadOp where
  | setPayloadLen (pl : Number)
  | sendPacket (packet : SentPacket)
  /-- A packet arrives and `lora_receive_packet` is called. -/
  | receive (rx : Reception) (size : Nat)

/-- The radio, the length that was last accepted, with 0 for explicit headers,
and the length of the packet that was last sent since. -/
structure PayloadState where
  radio : Radio
  configured : Nat
  sent : Option Nat

/-- An access, where the chip is done with sending when the driver waits for
it. -/
def execTransmitting : (o : Op) -> Radio -> Option (Radio × o.Answer)
  | .awaitIrq mask, s =>
      exec (.awaitIrq mask)
        (if s.chip.regs regOpMode = opMode modeTx then
          s.setChip s.chip.transmitted
        else s)
  | o, s => exec o s

def receiveAlone (rx : Reception) (size : Nat) (s : Radio) :
    Option (Radio × List UInt8) :=
  (loraReceivePacket size).run execTransmitting (s.rxDone rx)

def PayloadState.step : PayloadOp -> PayloadState -> Option PayloadState
  | .setPayloadLen pl, s =>
      ((LoRa.setPayloadLen pl).run execTransmitting s.radio).map (fun p =>
        if p.2 = .boolean true then
          ⟨p.1, (Js.requireInt pl).toNatClampNeg, none⟩
        else { s with radio := p.1 })
  | .sendPacket packet, s =>
      ((LoRa.sendPacket packet.bytes).run execTransmitting s.radio).map
        (fun p => { s with radio := p.1, sent := some packet.bytes.length })
  | .receive rx size, s =>
      (receiveAlone rx size s.radio).map (fun p => { s with radio := p.1 })

/-- A packet is received without an error into a buffer that is large enough for
the configured length. -/
def Receives (rx : Reception) (size : Nat) (s : PayloadState) : Prop :=
  0 < s.configured ∧ s.configured ≤ size ∧
    ¬ (s.radio.rxDone rx).chip.flag irqPayloadCrcErrorMask

def HasConfiguredLength : PayloadOp -> PayloadState -> Prop
  | .receive rx size, s =>
      Receives rx size s -> forall radio bytes,
        receiveAlone rx size s.radio = some (radio, bytes) ->
          bytes.length = s.configured
  | _, _ => True

/-- The packet that was last sent since the length was configured has this
length, if there is one, or it is longer and the buffer cuts it. -/
def LastSentFits : PayloadOp -> PayloadState -> Prop
  | .receive rx size, s =>
      Receives rx size s -> forall n, s.sent = some n ->
        n = s.configured ∨ s.configured < n ∧ size = s.configured
  | _, _ => True

/-!
## What the calls leave behind
-/

/-- The driver is not in the middle of a packet. -/
def Radio.Done (s : Radio) : Prop :=
  s.modemState ≠ modeRxReadBuf

structure HeaderIs (implicit : Bool) (length : UInt8) (s : Radio) : Prop where
  implicit : s.implicit = implicit
  length : s.chip.regs regPayloadLength = length

abbrev CompletesWith {α : Type} (post : α -> Radio -> Prop) (p : Prog α)
    (s : Radio) : Prop :=
  p.Completes execTransmitting post s

theorem write_payloadLength_self (c : Chip) (val : UInt8) :
    (c.write regPayloadLength val).regs regPayloadLength = val :=
  c.write_regs_self (by decide)

theorem write_payloadLength (c : Chip) (reg : Register) (val : UInt8)
    (h : reg ≠ regPayloadLength) :
    (c.write reg val).regs regPayloadLength = c.regs regPayloadLength :=
  c.write_regs_of_ne h.symm (by decide)

theorem completes_setPayloadLen {s : Radio} (h : s.Done) (pl : Number) :
    CompletesWith (fun r s' => s'.Done ∧
      (r = .boolean true ->
        (Js.requireInt pl).toNatClampNeg < 256 ∧
          (0 < (Js.requireInt pl).toNatClampNeg ->
            HeaderIs true (UInt8.ofNat (Js.requireInt pl).toNatClampNeg) s')) ∧
      (r ≠ .boolean true -> s' = s)) (setPayloadLen pl) s := by
  change CompletesWith _ (if Js.requireInt pl > 0 ∧ Js.requireInt pl < 256
    then _ else _) s
  split
  · rename_i hrange
    have hnonneg : 0 ≤ Js.requireInt pl := Int32.le_of_lt hrange.1
    have hlt : (Js.requireInt pl).toNatClampNeg < 256 := by
      have hint := Int32.lt_iff_toInt_lt.mp hrange.2
      have h256 : (256 : Int32).toInt = 256 := rfl
      unfold Int32.toNatClampNeg
      lia
    apply Program.Completes.perform rfl
    apply Program.Completes.perform rfl
    apply Program.Completes.perform rfl
    apply Program.Completes.perform rfl
    apply Program.Completes.done
    refine ⟨h, fun _ => ⟨hlt, fun _ => ⟨rfl, ?_⟩⟩, fun hne => absurd rfl hne⟩
    rw [← toUInt8_eq_ofNat hnonneg]
    exact write_payloadLength_self _ _
  · unfold settingIf
    split
    · rename_i hzero
      apply Program.Completes.perform rfl
      apply Program.Completes.perform rfl
      apply Program.Completes.perform rfl
      apply Program.Completes.done
      have hnat : (Js.requireInt pl).toNatClampNeg = 0 := by
        rw [of_decide_eq_true hzero]
        rfl
      refine ⟨h, fun _ => ?_, fun hne => absurd rfl hne⟩
      rw [hnat]
      exact ⟨by decide, fun hpos => absurd hpos (Nat.lt_irrefl 0)⟩
    · apply Program.Completes.done
      exact ⟨h, fun heq => absurd heq (by decide), fun _ => rfl⟩

theorem writeFifo_all (bytes : List UInt8) :
    (writeFifo bytes).All (fun o => exists b, o = .writeReg regFifo b) := by
  induction bytes with
  | nil => trivial
  | cons b rest ih => exact ⟨⟨b, rfl⟩, fun _ => ih⟩

theorem completes_writeFifo {P : Radio -> Prop} {s : Radio} (hs : P s)
    (hwrite : forall s b, P s -> P (s.setChip (s.chip.write regFifo b)))
    (bytes : List UInt8) :
    CompletesWith (fun _ => P) (writeFifo bytes) s := by
  apply Program.Completes.frame hs (writeFifo_all bytes)
  intro o s ho hs
  rcases ho with ⟨b, heq⟩
  subst o
  exact ⟨_, (), rfl, hwrite s b hs⟩

theorem flag_transmitted (c : Chip) : c.transmitted.flag irqTxDoneMask := by
  rw [Chip.transmitted, Chip.flag_raise]
  exact .inr (by decide)

/-- The chip sends what the driver has written, and the driver goes on. -/
theorem exec_awaitIrq {s : Radio} (h : s.chip.regs regOpMode = opMode modeTx) :
    execTransmitting (.awaitIrq irqTxDoneMask) s =
      some (s.setChip s.chip.transmitted, ()) := by
  have hexec : execTransmitting (.awaitIrq irqTxDoneMask) s =
      exec (.awaitIrq irqTxDoneMask) (s.setChip s.chip.transmitted) := by
    change exec (.awaitIrq irqTxDoneMask)
      (if s.chip.regs regOpMode = opMode modeTx then _ else _) = _
    rw [if_pos h]
  rw [hexec]
  exact if_pos (flag_transmitted s.chip)

theorem rxContinuous_done : modeRxContinuous ≠ modeRxReadBuf := by
  decide

theorem stdby_done : modeStdby ≠ modeRxReadBuf := by
  decide

def behindSend : Prog Returned := do
  let mode ← getLoraMode
  if mode = .recv then
    loraReceive
  return .undefined

theorem completes_behindSend {implicit : Bool} {length : UInt8} {s : Radio}
    (hdone : s.Done) (hheader : HeaderIs implicit length s) :
    CompletesWith (fun _ s' => s'.Done ∧ HeaderIs implicit length s')
      behindSend s := by
  apply Program.Completes.perform rfl
  change CompletesWith _ (if s.loraMode = .recv then _ else _) s
  split
  · apply Program.Completes.perform rfl
    apply Program.Completes.perform rfl
    apply Program.Completes.done
    have hlength := write_payloadLength s.chip regOpMode
      (opMode modeRxContinuous) (by decide)
    exact ⟨rxContinuous_done, hheader.implicit, hlength.trans hheader.length⟩
  · exact Program.Completes.done ⟨hdone, hheader⟩

def sentBytes (buf : List UInt8) : List UInt8 :=
  buf.take (Int32.ofNat buf.length).toNatClampNeg

def endSend (bytes : List UInt8) : Prog Returned := do
  writeReg regPayloadLength (Int32.ofNat bytes.length).toUInt32.toUInt8
  writeReg regOpMode (opMode modeTx)
  access (.awaitIrq irqTxDoneMask)
  writeReg regIrqFlags irqTxDoneMask
  access (.setModemState modeStdby)
  access (.gpioIntrEnable .dio0)
  behindSend

theorem sendPacket_eq (bytes : List UInt8) :
    sendPacket bytes =
      .perform (.awaitModemState modeRxReadBuf) (fun _ =>
        .perform (.setModemState modeTx) (fun _ =>
          .perform (.gpioIntrDisable .dio0) (fun _ =>
            .perform (.setModemState modeStdby) (fun _ =>
              .perform (.writeReg regOpMode (opMode modeStdby)) (fun _ =>
                .perform (.setModemState modeTx) (fun _ =>
                  .perform (.writeReg regFifoAddrPtr 0) (fun _ =>
                    (writeFifo (sentBytes bytes)).bind
                      (fun _ => endSend bytes)))))))) := by
  simp only [sendPacket, loraSendPacketIrq, loraSendPacket, loraIdle, endSend,
    behindSend, sentBytes, loraEnableIrqRecv, loraEnableIrq, writeReg, access,
    getLoraMode, Program.bind_eq, Program.op_bind, Program.perform_bind,
    Program.bind_assoc]
  rfl

theorem lengthByte (n : Nat) :
    (Int32.ofNat n).toUInt32.toUInt8 = UInt8.ofNat n :=
  UInt32.toUInt8_ofNat' n

theorem completes_endSend (s : Radio) (bytes : List UInt8) :
    CompletesWith (fun _ s' => s'.Done ∧
      HeaderIs s.implicit (UInt8.ofNat bytes.length) s')
      (endSend bytes) s := by
  unfold endSend
  rw [lengthByte]
  have hmode : ((s.chip.write regPayloadLength (UInt8.ofNat bytes.length)).write
      regOpMode (opMode modeTx)).regs regOpMode = opMode modeTx :=
    Chip.write_regs_self _ (by decide)
  have hlength : ((((s.chip.write regPayloadLength
      (UInt8.ofNat bytes.length)).write regOpMode
        (opMode modeTx)).transmitted).write regIrqFlags irqTxDoneMask).regs
          regPayloadLength = UInt8.ofNat bytes.length := by
    rw [write_payloadLength _ regIrqFlags _ (by decide),
      transmitted_regs_of_ne _ (by decide),
      write_payloadLength _ regOpMode _ (by decide), write_payloadLength_self]
  apply Program.Completes.perform rfl
  apply Program.Completes.perform rfl
  apply Program.Completes.perform (exec_awaitIrq hmode)
  apply Program.Completes.perform rfl
  apply Program.Completes.perform rfl
  apply Program.Completes.perform rfl
  exact completes_behindSend stdby_done ⟨rfl, hlength⟩

theorem completes_sendBytes {implicit : Bool} {s : Radio}
    (h : s.implicit = implicit) (bytes : List UInt8) :
    CompletesWith (fun _ s' => s'.Done ∧
      HeaderIs implicit (UInt8.ofNat bytes.length) s')
      ((writeFifo (sentBytes bytes)).bind (fun _ => endSend bytes)) s := by
  apply Program.Completes.bind
  apply (completes_writeFifo (P := fun t => t.implicit = implicit) h
    (fun _ _ h => h) (sentBytes bytes)).mono
  intro _ t ht
  rw [← ht]
  exact completes_endSend t bytes

/-- Sending writes the length of the packet to `REG_PAYLOAD_LENGTH`. -/
theorem completes_sendPacket {s : Radio} (h : s.Done) (bytes : List UInt8) :
    CompletesWith (fun _ s' => s'.Done ∧
      HeaderIs s.implicit (UInt8.ofNat bytes.length) s')
      (sendPacket bytes) s := by
  rw [sendPacket_eq]
  have hawait : execTransmitting (.awaitModemState modeRxReadBuf) s =
      some (s, ()) := if_neg h
  apply Program.Completes.perform hawait
  apply Program.Completes.perform rfl
  apply Program.Completes.perform rfl
  apply Program.Completes.perform rfl
  apply Program.Completes.perform rfl
  apply Program.Completes.perform rfl
  apply Program.Completes.perform rfl
  exact completes_sendBytes rfl bytes

/-!
## What is received
-/

theorem readFifo_succ (n : Nat) :
    readFifo (n + 1) = .perform (.readReg regFifo) (fun b =>
      (readFifo n).bind (fun rest => .done (b :: rest))) := rfl

theorem completes_readFifo {P : Radio -> Prop}
    (hread : forall s, P s -> P (s.setChip (s.chip.read regFifo).1)) (n : Nat)
    {s : Radio} (hs : P s) :
    CompletesWith (fun bytes s' => bytes.length = n ∧ P s') (readFifo n) s := by
  induction n generalizing s with
  | zero => exact Program.Completes.done ⟨rfl, hs⟩
  | succ n ih =>
      rw [readFifo_succ]
      apply Program.Completes.perform rfl
      apply Program.Completes.bind
      apply (ih (hread s hs)).mono
      intro rest s' h
      apply Program.Completes.done
      exact ⟨by rw [List.length_cons, h.1], h.2⟩

theorem read_payloadLength (c : Chip) (reg : Register) :
    (c.read reg).1.regs regPayloadLength = c.regs regPayloadLength :=
  c.read_regs_of_ne (by decide)

def Radio.rxLength (s : Radio) : UInt8 :=
  s.chip.regs (if s.implicit then regPayloadLength else regRxNbBytes)

theorem HeaderIs.setChip {implicit : Bool} {length : UInt8} {s : Radio}
    {c : Chip} (h : HeaderIs implicit length s)
    (hc : c.regs regPayloadLength = s.chip.regs regPayloadLength) :
    HeaderIs implicit length (s.setChip c) :=
  ⟨h.implicit, hc.trans h.length⟩

def copyBytes (n : Nat) : Prog (List UInt8) := do
  let buf ← readFifo n
  access (.setModemState modeStdby)
  return buf

theorem completes_copyBytes {implicit : Bool} {length : UInt8} {s : Radio}
    (h : HeaderIs implicit length s) (n : Nat) :
    CompletesWith (fun bytes s' => bytes.length = n ∧ s'.Done ∧
      HeaderIs implicit length s') (copyBytes n) s := by
  apply Program.Completes.bind
  have hread : forall s, HeaderIs implicit length s ->
      HeaderIs implicit length (s.setChip (s.chip.read regFifo).1) :=
    fun s h => h.setChip (read_payloadLength s.chip regFifo)
  apply (completes_readFifo hread n h).mono
  intro bytes s' hbytes
  apply Program.Completes.perform rfl
  apply Program.Completes.done
  exact ⟨hbytes.1, stdby_done, hbytes.2.implicit, hbytes.2.length⟩

def readPacket (size : Nat) (implicit : Bool) : Prog (List UInt8) := do
  let len ← readReg (if implicit then regPayloadLength else regRxNbBytes)
  loraIdle
  access (.setModemState modeRxReadBuf)
  let addr ← readReg regFifoRxCurrentAddr
  writeReg regFifoAddrPtr addr
  copyBytes (if len.toNat > size then size else len.toNat)

theorem completes_readPacket (s : Radio) (size : Nat) :
    CompletesWith (fun bytes s' =>
      bytes.length = min s.rxLength.toNat size ∧ s'.Done ∧
        HeaderIs s.implicit (s.chip.regs regPayloadLength) s')
      (readPacket size s.implicit) s := by
  have hlen : (s.chip.read (if s.implicit then regPayloadLength
      else regRxNbBytes)) = (s.chip, s.rxLength) := by
    apply Chip.read_of_ne
    split <;> decide
  have hmin : (if s.rxLength.toNat > size then size else s.rxLength.toNat) =
      min s.rxLength.toNat size := by
    split <;> lia
  have hexec : execTransmitting (.readReg (if s.implicit then regPayloadLength
      else regRxNbBytes)) s = some (s, s.rxLength) := by
    change some (s.setChip (s.chip.read _).1, (s.chip.read _).2) = _
    rw [hlen]
    rfl
  apply Program.Completes.perform hexec
  apply Program.Completes.perform rfl
  apply Program.Completes.perform rfl
  apply Program.Completes.perform rfl
  apply Program.Completes.perform rfl
  apply Program.Completes.perform rfl
  rw [← hmin]
  have hkept : forall addr, (((s.chip.write regOpMode (opMode modeStdby)).read
      regFifoRxCurrentAddr).1.write regFifoAddrPtr addr).regs
        regPayloadLength = s.chip.regs regPayloadLength := by
    intro addr
    rw [write_payloadLength _ regFifoAddrPtr _ (by decide),
      read_payloadLength, write_payloadLength _ regOpMode _ (by decide)]
  apply completes_copyBytes
  exact ⟨rfl, hkept _⟩

/-- A packet without an error has the length that the driver finds, up to the
size of the buffer. -/
theorem completes_loraReceivePacket {s : Radio} (hdone : s.Done)
    (hrx : s.chip.flag irqRxDoneMask) (size : Nat) :
    CompletesWith (fun bytes s' => s'.Done ∧
      HeaderIs s.implicit (s.chip.regs regPayloadLength) s' ∧
      (¬ s.chip.flag irqPayloadCrcErrorMask ->
        bytes.length = min s.rxLength.toNat size)) (loraReceivePacket size) s := by
  have hflags : execTransmitting (.readReg regIrqFlags) s =
      some (s, s.chip.regs regIrqFlags) := rfl
  have hlength := write_payloadLength s.chip regIrqFlags
    (s.chip.regs regIrqFlags) (by decide)
  have hnb : (s.chip.write regIrqFlags (s.chip.regs regIrqFlags)).regs
      regRxNbBytes = s.chip.regs regRxNbBytes :=
    s.chip.write_regs_of_ne (by decide) (by decide)
  rw [loraReceivePacket_eq]
  apply Program.Completes.perform hflags
  apply Program.Completes.perform rfl
  unfold packetBytes
  rw [if_neg hrx]
  split
  · rename_i hcrc
    apply Program.Completes.done
    exact ⟨hdone, ⟨rfl, hlength⟩, fun hnot => absurd hcrc hnot⟩
  · apply Program.Completes.perform rfl
    apply Program.Completes.perform rfl
    have hread := completes_readPacket { s with
      chip := s.chip.write regIrqFlags (s.chip.regs regIrqFlags)
      modemState := modeRxReadBuf } size
    apply hread.mono
    intro bytes s' h
    refine ⟨h.2.1, ⟨h.2.2.implicit, h.2.2.length.trans hlength⟩, fun _ => ?_⟩
    rw [h.1]
    have hsame : Radio.rxLength { s with
        chip := s.chip.write regIrqFlags (s.chip.regs regIrqFlags)
        modemState := modeRxReadBuf } = s.rxLength := by
      unfold Radio.rxLength
      cases s.implicit with
      | true => exact hlength
      | false => exact hnb
    rw [hsame]

/-!
## Runs
-/

theorem rxDone_implicit (s : Radio) (rx : Reception) :
    (s.rxDone rx).implicit = s.implicit := by
  unfold Radio.rxDone
  split
  · rfl
  · exact interrupt_implicit _ _ _

theorem rxDone_modemState (s : Radio) (rx : Reception) :
    (s.rxDone rx).modemState = s.modemState := by
  unfold Radio.rxDone
  split
  · rfl
  · exact interrupt_modemState _ _ _

/-- The register holds the configured length, or the one of the packet that was
last sent since. -/
structure PayloadState.Tracked (s : PayloadState) : Prop where
  done : s.radio.Done
  configured_lt : s.configured < 256
  sent_lt : forall n, s.sent = some n -> n < 256
  header : 0 < s.configured ->
    HeaderIs true (UInt8.ofNat (s.sent.getD s.configured)) s.radio

theorem PayloadState.Tracked.received {s : PayloadState} (h : s.Tracked)
    (rx : Reception) (size : Nat) :
    exists radio bytes, receiveAlone rx size s.radio = some (radio, bytes) ∧
      PayloadState.Tracked { s with radio := radio } ∧
      (Receives rx size s ->
        bytes.length = min (s.sent.getD s.configured) size) := by
  have hdone : (s.radio.rxDone rx).Done := by
    unfold Radio.Done
    rw [rxDone_modemState]
    exact h.done
  have hregs : (s.radio.rxDone rx).chip.regs regPayloadLength =
      s.radio.chip.regs regPayloadLength :=
    rxDone_regs_of_ne s.radio rx (by decide)
  rcases completes_loraReceivePacket hdone (rxDone_flag_rxDone s.radio rx) size
    with ⟨radio, bytes, hrun, hdone', hheader, hlength⟩
  rw [rxDone_implicit, hregs] at hheader
  refine ⟨radio, bytes, hrun, ⟨hdone', h.configured_lt, h.sent_lt, ?_⟩, ?_⟩
  · intro hpos
    have hbefore := h.header hpos
    rw [hbefore.implicit, hbefore.length] at hheader
    exact hheader
  · intro hreceives
    have hbefore := h.header hreceives.1
    rw [hlength hreceives.2.2]
    unfold Radio.rxLength
    rw [rxDone_implicit, hbefore.implicit, if_pos rfl, hregs, hbefore.length]
    congr 1
    apply UInt8.toNat_ofNat_of_lt'
    cases hsent : s.sent with
    | none => exact h.configured_lt
    | some n => exact h.sent_lt n hsent

theorem PayloadState.Tracked.step {s : PayloadState} (h : s.Tracked)
    (op : PayloadOp) : exists s', s.step op = some s' ∧ s'.Tracked := by
  cases op with
  | setPayloadLen pl =>
      rcases completes_setPayloadLen h.done pl with
        ⟨radio, r, hrun, hdone, haccepted, hrejected⟩
      simp only [PayloadState.step, hrun, Option.map_some, Option.some.injEq,
        exists_eq_left']
      split
      · rename_i htrue
        rcases haccepted htrue with ⟨hlt, hheader⟩
        exact ⟨hdone, hlt, by simp, hheader⟩
      · rename_i hfalse
        rw [hrejected hfalse]
        exact h
  | sendPacket packet =>
      rcases completes_sendPacket h.done packet.bytes with
        ⟨radio, r, hrun, hdone, hheader⟩
      simp only [PayloadState.step, hrun, Option.map_some, Option.some.injEq,
        exists_eq_left']
      refine ⟨hdone, h.configured_lt, ?_, ?_⟩
      · intro n hn
        cases hn
        exact packet.length_lt
      · intro hpos
        rw [(h.header hpos).implicit] at hheader
        exact hheader
  | receive rx size =>
      rcases h.received rx size with ⟨radio, bytes, hrun, htracked, _⟩
      simp only [PayloadState.step, hrun, Option.map_some, Option.some.injEq,
        exists_eq_left']
      exact htracked

theorem PayloadState.Tracked.keeps_iff {s : PayloadState} (h : s.Tracked)
    (op : PayloadOp) : HasConfiguredLength op s ↔ LastSentFits op s := by
  cases op with
  | setPayloadLen pl => exact Iff.rfl
  | sendPacket packet => exact Iff.rfl
  | receive rx size =>
      rcases h.received rx size with ⟨radio, bytes, hrun, _, hlength⟩
      have hone : HasConfiguredLength (.receive rx size) s ↔
          (Receives rx size s -> bytes.length = s.configured) := by
        constructor
        · exact fun hall hreceives => hall hreceives radio bytes hrun
        · intro hone hreceives radio' bytes' hrun'
          rw [hrun] at hrun'
          cases hrun'
          exact hone hreceives
      rw [hone]
      apply imp_congr_right
      intro hreceives
      rw [hlength hreceives]
      have hsize := hreceives.2.1
      cases s.sent with
      | none => simp [hsize]
      | some n =>
          simp only [Option.getD_some, Option.some.injEq, forall_eq']
          lia

/-- For every sequence of calls and packets: the received packets have the
configured length exactly if the packets sent in between fit. -/
theorem payload_length_iff {s : PayloadState} {ops : List PayloadOp}
    (hstart : s.configured = 0) (hsent : s.sent = none) (hdone : s.radio.Done) :
    exists s', runAll PayloadState.step ops s = some s' ∧
      (EveryStep PayloadState.step HasConfiguredLength ops s ↔
        EveryStep PayloadState.step LastSentFits ops s) := by
  have htracked : s.Tracked := by
    refine ⟨hdone, by rw [hstart]; decide, by simp [hsent], fun hpos => ?_⟩
    rw [hstart] at hpos
    exact absurd hpos (Nat.lt_irrefl 0)
  rcases exists_runAll (fun op s h => PayloadState.Tracked.step h op) ops
    htracked with ⟨s', hrun, _⟩
  refine ⟨s', hrun, ?_⟩
  apply EveryStep.congr_of_invariant _ _ htracked
  · intro op s s' h hstep
    rcases h.step op with ⟨t, ht, htracked⟩
    rw [hstep] at ht
    cases ht
    exact htracked
  · exact fun op s h => h.keeps_iff op

instance (rx : Reception) (size : Nat) (s : PayloadState) :
    Decidable (Receives rx size s) := by
  unfold Receives
  infer_instance

instance (op : PayloadOp) (s : PayloadState) : Decidable (LastSentFits op s) := by
  cases op with
  | setPayloadLen pl => exact isTrue trivial
  | sendPacket packet => exact isTrue trivial
  | receive rx size =>
      unfold LastSentFits
      cases hsent : s.sent with
      | none => exact isTrue (fun _ n hn => by simp [hsent] at hn)
      | some n =>
          exact decidable_of_iff (Receives rx size s ->
            n = s.configured ∨ s.configured < n ∧ size = s.configured)
            (by simp [hsent])

def configuredSent (n : Nat) (bytes : SentPacket) : List PayloadOp :=
  [.setPayloadLen (.finite n), .sendPacket bytes,
    .receive emptyPacket (loraMsgMaxSize + 1)]

def fiveBytes : SentPacket :=
  ⟨[1, 2, 3, 4, 5], by decide, by decide⟩

theorem payload_length_five :
    EveryStep PayloadState.step HasConfiguredLength
      (configuredSent 5 fiveBytes) ⟨startRadio, 0, none⟩ := by
  have hstart : startRadio.Done := by
    unfold Radio.Done
    decide
  rcases @payload_length_iff ⟨startRadio, 0, none⟩
    (configuredSent 5 fiveBytes) rfl rfl hstart with ⟨_, _, hiff⟩
  exact hiff.mpr (by decide)

theorem payload_length_lost : exists s radio bytes,
    runAll PayloadState.step
      [.setPayloadLen (.finite 10), .sendPacket fiveBytes]
      ⟨startRadio, 0, none⟩ = some s ∧ s.configured = 10 ∧
      Receives emptyPacket (loraMsgMaxSize + 1) s ∧
      receiveAlone emptyPacket (loraMsgMaxSize + 1) s.radio =
        some (radio, bytes) ∧ bytes.length ≠ s.configured := by
  have hrun : (runAll PayloadState.step
      [.setPayloadLen (.finite 10), .sendPacket fiveBytes]
      ⟨startRadio, 0, none⟩).bind (fun s =>
        (receiveAlone emptyPacket (loraMsgMaxSize + 1) s.radio).map (fun p =>
          (s.configured, decide (Receives emptyPacket (loraMsgMaxSize + 1) s),
            p.2.length))) = some (10, true, 5) := by
    decide
  rcases Option.bind_eq_some_iff.mp hrun with ⟨s, hs, hreceive⟩
  rcases Option.map_eq_some_iff.mp hreceive with
    ⟨⟨radio, bytes⟩, hbytes, hobserved⟩
  simp only [Prod.mk.injEq, decide_eq_true_eq] at hobserved
  rcases hobserved with ⟨hconfigured, hreceives, hlength⟩
  refine ⟨s, radio, bytes, hs, hconfigured, hreceives, hbytes, ?_⟩
  rw [hconfigured, hlength]
  decide

end LoRa
end Fluxnode
