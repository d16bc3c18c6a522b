import Fluxnode.LoRa.PayloadLength

/-!
# The length of sent packets

The chip sends `REG_PAYLOAD_LENGTH` bytes of its FIFO.  `send_packet` passes on
the length of any buffer, while the register has 8 bits and the FIFO 256 bytes.
-/

namespace Fluxnode
namespace LoRa

open Foundation

def Chip.frame (c : Chip) : List UInt8 :=
  (List.range (c.regs regPayloadLength).toNat).map
    (fun i => c.fifo (UInt8.ofNat i))

/-- The radio, with the frames that it has started to send. -/
structure Aired where
  radio : Radio
  frames : List (List UInt8)

/-- An access; the write of the mode starts the transmission. -/
def execAired (o : Op) (s : Aired) : Option (Aired × o.Answer) :=
  (execTransmitting o s.radio).map (fun p =>
    (⟨p.1, if o = .writeReg regOpMode (opMode modeTx)
      then s.frames ++ [s.radio.chip.frame] else s.frames⟩, p.2))

/-- `sendPacket` sends the buffer and nothing else, or fails and sends
nothing. -/
def SendsOrRefuses (buf : List UInt8) (r : Returned) (s : Aired) : Prop :=
  s.frames = [buf] ∨ s.frames = [] ∧ (r = .boolean false ∨ r = .throws)

/-!
## The FIFO
-/

def Chip.writeBytes (c : Chip) (bytes : List UInt8) : Chip :=
  bytes.foldl (fun c b => c.write regFifo b) c

theorem Chip.writeBytes_cons (c : Chip) (b : UInt8) (rest : List UInt8) :
    c.writeBytes (b :: rest) = (c.write regFifo b).writeBytes rest := rfl

theorem Chip.write_fifo (c : Chip) (b : UInt8) :
    (c.write regFifo b).fifo =
      Function.update c.fifo (c.regs regFifoAddrPtr) b := rfl

theorem Chip.write_fifoAddrPtr (c : Chip) (b : UInt8) :
    (c.write regFifo b).regs regFifoAddrPtr = c.regs regFifoAddrPtr + 1 := by
  show (c.set regFifoAddrPtr _).regs regFifoAddrPtr = _
  exact c.set_regs_self

theorem toNat_sub_of_ne {a ptr : UInt8} (h : a ≠ ptr) :
    (a - ptr).toNat = (a - (ptr + 1)).toNat + 1 := by
  have hsub : a - (ptr + 1) = a - ptr - 1 := by grind
  have hne : a - ptr ≠ 0 := by grind
  have hpos : 1 ≤ a - ptr := by grind
  rw [hsub, UInt8.toNat_sub_of_le _ _ hpos]
  have hnat := UInt8.le_iff_toNat_le.mp hpos
  have hone : (1 : UInt8).toNat = 1 := rfl
  lia

/-- As many bytes as the FIFO holds do not overwrite each other. -/
theorem Chip.writeBytes_fifo (c : Chip) {bytes : List UInt8}
    (h : bytes.length ≤ 256) (a : UInt8) :
    (c.writeBytes bytes).fifo a =
      (bytes[(a - c.regs regFifoAddrPtr).toNat]?).getD (c.fifo a) := by
  induction bytes generalizing c with
  | nil => rfl
  | cons b rest ih =>
      rw [List.length_cons] at h
      rw [Chip.writeBytes_cons, ih _ (by lia), Chip.write_fifoAddrPtr,
        Chip.write_fifo]
      generalize c.regs regFifoAddrPtr = ptr
      by_cases heq : a = ptr
      · subst heq
        have hlast : (a - (a + 1)).toNat = 255 := by
          have hsub : a - (a + 1) = 255 := by grind
          rw [hsub]
          rfl
        rw [hlast, List.getElem?_eq_none (by lia), UInt8.sub_self,
          Function.update_self]
        rfl
      · rw [toNat_sub_of_ne heq, List.getElem?_cons_succ,
          Function.update_of_ne heq]

theorem Chip.frame_length (c : Chip) :
    c.frame.length = (c.regs regPayloadLength).toNat := by
  rw [Chip.frame, List.length_map, List.length_range]

theorem Chip.frame_eq {c : Chip} {bytes : List UInt8}
    (hlength : (c.regs regPayloadLength).toNat = bytes.length)
    (hfifo : forall (i : Nat) (h : i < bytes.length),
      c.fifo (UInt8.ofNat i) = bytes[i]) : c.frame = bytes := by
  apply List.ext_getElem
  · rw [c.frame_length, hlength]
  · intro i hi hbytes
    simp only [Chip.frame, List.getElem_map, List.getElem_range]
    exact hfifo i hbytes

/-!
## The call
-/

theorem sends_write {s : Aired} {reg : Register} {val : UInt8}
    (h : reg ≠ regOpMode ∨ val ≠ opMode modeTx) :
    execAired (.writeReg reg val) s =
      some ({ s with radio := s.radio.setChip (s.radio.chip.write reg val) },
        ()) := by
  have hne : (Op.writeReg reg val) ≠ .writeReg regOpMode (opMode modeTx) := by
    intro heq
    cases heq
    rcases h with h | h
    · exact h rfl
    · exact h rfl
  simp only [execAired, if_neg hne]
  rfl

theorem run_writeFifo (bytes : List UInt8) (s : Aired) :
    (writeFifo bytes).run execAired s =
      some ({ s with
        radio := s.radio.setChip (s.radio.chip.writeBytes bytes) }, ()) := by
  induction bytes generalizing s with
  | nil => rfl
  | cons b rest ih =>
      show ((Program.op (.writeReg regFifo b)).bind
        (fun _ => writeFifo rest)).run execAired s = _
      rw [Program.op_bind, Program.run_perform,
        sends_write (.inl (by decide)), Option.bind_some, ih]
      rfl

def Chip.loaded (c : Chip) (buf : List UInt8) : Chip :=
  (((c.write regOpMode (opMode modeStdby)).write regFifoAddrPtr 0).writeBytes
    (sentBytes buf)).write regPayloadLength (UInt8.ofNat buf.length)

theorem Chip.loaded_payloadLength (c : Chip) (buf : List UInt8) :
    (c.loaded buf).regs regPayloadLength = UInt8.ofNat buf.length :=
  write_payloadLength_self _ _

theorem Chip.loaded_frame_length (c : Chip) (buf : List UInt8) :
    (c.loaded buf).frame.length ≤ 255 := by
  rw [Chip.frame_length, Chip.loaded_payloadLength]
  have hlt := (UInt8.ofNat buf.length).toNat_lt
  lia

theorem sentBytes_of_lt {buf : List UInt8} (h : buf.length < 256) :
    sentBytes buf = buf := by
  have hint : (Int32.ofNat buf.length).toInt = buf.length :=
    Int32.toInt_ofNat_of_lt (by lia)
  rw [sentBytes, Int32.toNatClampNeg, hint, Int.toNat_natCast, List.take_length]

theorem Chip.loaded_frame (c : Chip) {buf : List UInt8}
    (h : buf.length < 256) : (c.loaded buf).frame = buf := by
  apply Chip.frame_eq
  · rw [Chip.loaded_payloadLength]
    exact UInt8.toNat_ofNat_of_lt' h
  · intro i hi
    show ((((c.write regOpMode (opMode modeStdby)).write regFifoAddrPtr
      0).writeBytes (sentBytes buf)).fifo (UInt8.ofNat i)) = _
    have hptr : ((c.write regOpMode (opMode modeStdby)).write regFifoAddrPtr
        0).regs regFifoAddrPtr = 0 :=
      Chip.write_regs_self _ (by decide)
    have hi' : (UInt8.ofNat i - 0).toNat = i := by
      rw [UInt8.sub_zero]
      exact UInt8.toNat_ofNat_of_lt' (show i < 256 by lia)
    rw [sentBytes_of_lt h, Chip.writeBytes_fifo _ (by lia), hptr, hi',
      List.getElem?_eq_getElem hi, Option.getD_some]

abbrev SendsWith {α : Type} (post : α -> Aired -> Prop) (p : Prog α)
    (s : Aired) : Prop :=
  p.Completes execAired post s

theorem sends_behindSend (s : Aired) :
    SendsWith (fun r s' => r = .undefined ∧ s'.frames = s.frames)
      behindSend s := by
  apply Program.Completes.perform rfl
  change SendsWith _ (if s.radio.loraMode = .recv then _ else _) s
  split
  · apply Program.Completes.perform rfl
    apply Program.Completes.perform (sends_write (.inr (by decide)))
    apply Program.Completes.done
    exact ⟨rfl, rfl⟩
  · apply Program.Completes.done
    exact ⟨rfl, rfl⟩

theorem sends_start (s : Aired) :
    execAired (.writeReg regOpMode (opMode modeTx)) s =
      some (⟨s.radio.setChip (s.radio.chip.write regOpMode (opMode modeTx)),
        s.frames ++ [s.radio.chip.frame]⟩, ()) := by
  simp only [execAired, if_pos]
  rfl

theorem sends_awaitIrq {s : Aired}
    (h : s.radio.chip.regs regOpMode = opMode modeTx) :
    execAired (.awaitIrq irqTxDoneMask) s =
      some ({ s with radio := s.radio.setChip s.radio.chip.transmitted },
        ()) := by
  rw [execAired, exec_awaitIrq h]
  rfl

theorem sends_endSend (s : Aired) (buf : List UInt8) :
    SendsWith (fun r s' => r = .undefined ∧
      s'.frames = s.frames ++ [(s.radio.chip.write regPayloadLength
        (UInt8.ofNat buf.length)).frame]) (endSend buf) s := by
  have hmode : ((s.radio.chip.write regPayloadLength
      (UInt8.ofNat buf.length)).write regOpMode (opMode modeTx)).regs
        regOpMode = opMode modeTx :=
    Chip.write_regs_self _ (by decide)
  unfold endSend
  rw [lengthByte]
  apply Program.Completes.perform (sends_write (.inl (by decide)))
  apply Program.Completes.perform (sends_start _)
  apply Program.Completes.perform (sends_awaitIrq hmode)
  apply Program.Completes.perform (sends_write (.inl (by decide)))
  apply Program.Completes.perform rfl
  apply Program.Completes.perform rfl
  exact sends_behindSend _

theorem sends_sendPacket {s : Aired} (h : s.radio.Done) (buf : List UInt8) :
    SendsWith (fun r s' => r = .undefined ∧
      s'.frames = s.frames ++ [(s.radio.chip.loaded buf).frame])
      (sendPacket buf) s := by
  have hawait : execAired (.awaitModemState modeRxReadBuf) s = some (s, ()) := by
    have hexec : execTransmitting (.awaitModemState modeRxReadBuf) s.radio =
        some (s.radio, ()) := if_neg h
    rw [execAired, hexec]
    rfl
  rw [sendPacket_eq]
  apply Program.Completes.perform hawait
  apply Program.Completes.perform rfl
  apply Program.Completes.perform rfl
  apply Program.Completes.perform rfl
  apply Program.Completes.perform (sends_write (.inr (by decide)))
  apply Program.Completes.perform rfl
  apply Program.Completes.perform (sends_write (.inl (by decide)))
  apply Program.Completes.bind
  refine ⟨_, (), run_writeFifo _ _, ?_⟩
  exact sends_endSend _ buf

theorem sendsOrRefuses_loaded {c : Chip} {buf : List UInt8} {s : Aired}
    (h : s.frames = [(c.loaded buf).frame]) {r : Returned} :
    SendsOrRefuses buf r s <-> buf.length ≤ 255 := by
  constructor
  · intro hsends
    rcases hsends with hframe | hrefused
    · rw [h] at hframe
      injection hframe with hbuf
      have hlength := c.loaded_frame_length buf
      rw [hbuf] at hlength
      exact hlength
    · rw [h] at hrefused
      cases hrefused.1
  · intro hlength
    apply Or.inl
    rw [h, c.loaded_frame (by lia)]

/-- For every buffer: the call comes to its end, and it sends the buffer or
refuses it exactly if the length fits into the register. -/
theorem sendPacket_exact_iff {s : Radio} (h : s.Done) (buf : List UInt8) :
    exists s' r, (sendPacket buf).run execAired ⟨s, []⟩ = some (s', r) ∧
      (SendsOrRefuses buf r s' <-> buf.length ≤ 255) := by
  rcases sends_sendPacket (s := ⟨s, []⟩) h buf with ⟨s', r, hrun, _, hframes⟩
  exact ⟨s', r, hrun, sendsOrRefuses_loaded hframes⟩

theorem startRadio_done : startRadio.Done := by
  unfold Radio.Done
  decide

theorem sendPacket_exact_iff_one :
    exists s' r, (sendPacket [0x42]).run execAired ⟨startRadio, []⟩ =
        some (s', r) ∧
      (SendsOrRefuses [0x42] r s' <-> [(0x42 : UInt8)].length ≤ 255) :=
  sendPacket_exact_iff startRadio_done [0x42]

theorem sends_empty_frame : exists s' r,
    (sendPacket (List.replicate 256 0x42)).run execAired ⟨startRadio, []⟩ =
      some (s', r) ∧
    s'.frames = [[]] ∧
    ¬ SendsOrRefuses (List.replicate 256 0x42) r s' := by
  rcases sends_sendPacket (s := ⟨startRadio, []⟩) startRadio_done
    (List.replicate 256 0x42) with ⟨s', r, hrun, _, hframes⟩
  have hlength : (startRadio.chip.loaded
      (List.replicate 256 0x42)).frame.length = 0 := by
    rw [Chip.frame_length, Chip.loaded_payloadLength, List.length_replicate]
    rfl
  have hempty := List.eq_nil_of_length_eq_zero hlength
  refine ⟨s', r, hrun, ?_, ?_⟩
  · rw [hframes, hempty]
    rfl
  · intro hsends
    have hle := (sendsOrRefuses_loaded hframes).mp hsends
    rw [List.length_replicate] at hle
    lia

end LoRa
end Fluxnode
