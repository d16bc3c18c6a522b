import Fluxnode.LoRa.Rounds

/-!
# Received packets

A flag that is set has a command on its way: pending flags are at most as many as
commands in the queue, and during a round one more, up to the clearing of a flag
in the round.
-/

namespace Fluxnode
namespace LoRa

open Foundation

structure Listening (m : Modem) : Prop where
  isr : m.isr = none
  opMode : m.radio.chip.regs regOpMode = opMode modeRxContinuous
  irqFlags : m.radio.chip.regs regIrqFlags = 0
  pins : forall pin, m.radio.pins pin = ⟨true, true⟩
  loraMode : m.radio.loraMode = .recv
  isrRecvQueue : m.radio.isrRecvQueue = []

/-!
## Pending flags
-/

def Chip.pending (c : Chip) : Nat :=
  (if c.flag irqRxDoneMask then 1 else 0) +
    (if c.flag irqFhssChangeChannel then 1 else 0)

/-- Every pending flag has a command in the queue, or is one of `k` more. -/
structure Announced (k : Nat) (s : Radio) : Prop where
  pins : forall pin, s.pins pin = ⟨true, true⟩
  pending : s.chip.pending ≤ s.isrRecvQueue.length + k

theorem pending_le_two (c : Chip) : c.pending ≤ 2 := by
  unfold Chip.pending
  split <;> split <;> lia

theorem pending_mono {c c' : Chip}
    (hrx : c'.flag irqRxDoneMask -> c.flag irqRxDoneMask)
    (hfhss : c'.flag irqFhssChangeChannel -> c.flag irqFhssChangeChannel) :
    c'.pending ≤ c.pending := by
  unfold Chip.pending
  split_ifs <;> lia

theorem pending_le_succ {c c' : Chip}
    (h : (c'.flag irqRxDoneMask -> c.flag irqRxDoneMask) ∨
      (c'.flag irqFhssChangeChannel -> c.flag irqFhssChangeChannel)) :
    c'.pending ≤ c.pending + 1 := by
  unfold Chip.pending
  rcases h with h | h <;> split_ifs <;> lia

theorem interrupt_queue {s : Radio} (h : forall pin, s.pins pin = ⟨true, true⟩)
    (pin : Pin) (cmd : IsrCmd) :
    isrRecvQueueSize ≤ (s.interrupt pin cmd).isrRecvQueue.length ∨
      (s.interrupt pin cmd).isrRecvQueue.length =
        s.isrRecvQueue.length + 1 := by
  unfold Radio.interrupt
  rw [h pin]
  rcases Nat.lt_or_ge s.isrRecvQueue.length isrRecvQueueSize with hlt | hge
  · right
    simp [hlt]
  · left
    rw [if_neg (by lia)]
    exact hge

/-- What the chip does on its own. -/
def ChipMoves (s s' : Radio) : Prop :=
  (exists rx, s' = s.rxDone rx) ∨ (exists hop, s' = s.changeChannel hop) ∨
    s' = s.setChip s.chip.transmitted

theorem receive_flag_iff {c : Chip} {rx : Reception} {mask : UInt8}
    (h : irqPayloadCrcErrorMask &&& mask = 0) :
    (c.receive rx).flag mask ↔ c.flag mask := by
  unfold Chip.receive
  split
  · rw [Chip.flag_raise, h]
    simp only [ne_eq, not_true_eq_false, or_false]
    exact Iff.rfl
  · exact Iff.rfl

theorem rxDone_flag_fhss (s : Radio) (rx : Reception) :
    (s.rxDone rx).chip.flag irqFhssChangeChannel ↔
      s.chip.flag irqFhssChangeChannel := by
  have hbit : irqRxDoneMask &&& irqFhssChangeChannel = 0 := by decide
  rw [rxDone_chip, Chip.flag_raise, receive_flag_iff (by decide), hbit]
  simp

theorem changeChannel_flag_rxDone (s : Radio) (hop : UInt8) :
    (s.changeChannel hop).chip.flag irqRxDoneMask ↔
      s.chip.flag irqRxDoneMask := by
  have hbit : irqFhssChangeChannel &&& irqRxDoneMask = 0 := by decide
  rw [changeChannel_flag, hbit]
  simp

theorem transmitted_flag (c : Chip) {mask : UInt8}
    (h : irqTxDoneMask &&& mask = 0) :
    c.transmitted.flag mask ↔ c.flag mask := by
  rw [Chip.transmitted, Chip.flag_raise, h]
  simp only [ne_eq, not_true_eq_false, or_false]
  exact Chip.flag_congr (c.set_regs_of_ne (by decide))

theorem Announced.setChip {k : Nat} {s : Radio} (h : Announced k s)
    {c : Chip} (hc : c.pending ≤ s.chip.pending) : Announced k (s.setChip c) :=
  ⟨h.pins, hc.trans h.pending⟩

theorem Announced.raise {k : Nat} {s : Radio} (h : Announced k s) {t : Radio}
    (hpins : t.pins = s.pins) (hqueue : t.isrRecvQueue = s.isrRecvQueue)
    (hpending : t.chip.pending ≤ s.chip.pending + 1) (pin : Pin)
    (cmd : IsrCmd) : Announced k (t.interrupt pin cmd) := by
  have htpins : forall pin, t.pins pin = ⟨true, true⟩ :=
    fun pin => hpins ▸ h.pins pin
  refine ⟨fun pin => (raised_interrupt t _ cmd).pins ▸ htpins pin, ?_⟩
  have hbefore := h.pending
  have htwo := pending_le_two t.chip
  rw [interrupt_chip]
  rcases interrupt_queue htpins pin cmd with hfull | hposted
  · unfold isrRecvQueueSize at hfull
    lia
  · rw [hposted, hqueue]
    lia

theorem Announced.chipMoves {k : Nat} {s s' : Radio} (h : Announced k s)
    (hmoves : ChipMoves s s') : Announced k s' := by
  rcases hmoves with ⟨rx, heq⟩ | ⟨hop, heq⟩ | heq
  · subst s'
    have hfhss := (rxDone_flag_fhss s rx).mp
    rw [rxDone_chip] at hfhss
    unfold Radio.rxDone
    split
    · rename_i hflag
      exact h.setChip (pending_mono (fun _ => hflag) hfhss)
    · refine Announced.raise h ?_ ?_ ?_ .dio0 .readPacket
      · rfl
      · rfl
      · exact pending_le_succ (.inr hfhss)
  · subst s'
    have hrx := (changeChannel_flag_rxDone s hop).mp
    rw [changeChannel_chip] at hrx
    unfold Radio.changeChannel
    split
    · rename_i hflag
      exact h.setChip (pending_mono hrx (fun _ => hflag))
    · refine Announced.raise h ?_ ?_ ?_ .dio2 .fhss
      · rfl
      · rfl
      · exact pending_le_succ (.inl hrx)
  · subst s'
    exact h.setChip (pending_mono (transmitted_flag _ (by decide)).mp
      (transmitted_flag _ (by decide)).mp)

/-!
## A round
-/

abbrev Handles {α : Type} (post : α -> Radio -> Prop) (p : Prog α)
    (s : Radio) : Prop :=
  p.Ensures exec (fun _ => ChipMoves) (fun _ _ => True) post s

theorem announced_stable (k : Nat) :
    Program.Stable ChipMoves (Announced k) :=
  fun _ _ h hmoves => h.chipMoves hmoves

theorem Announced.access {k : Nat} {o : Op} {s s' : Radio} {b : o.Answer}
    (h : Announced k s) (hpins : ¬ o.OnPins)
    (hexec : exec o s = some (s', b)) : Announced k s' := by
  have heffect := exec_effect hexec
  refine ⟨fun pin => heffect.pins hpins ▸ h.pins pin, ?_⟩
  rw [heffect.isrRecvQueue]
  exact (pending_mono heffect.flag heffect.flag).trans h.pending

theorem IsrOp.not_onPins {o : Op} (h : IsrOp o) : ¬ o.OnPins := by
  intro hpins
  cases o <;> try exact hpins
  all_goals
    rcases h with h | h | h | h
    · exact h
    · exact h
    · cases h
    · cases h

theorem flag_chipMoves {s s' : Radio} {mask : UInt8}
    (h : s.chip.flag mask) (hmoves : ChipMoves s s') :
    s'.chip.flag mask := by
  rcases hmoves with ⟨rx, heq⟩ | ⟨hop, heq⟩ | heq
  · subst s'
    rw [rxDone_chip, Chip.flag_raise]
    left
    unfold Chip.receive
    split
    · exact Chip.flag_raise.mpr (.inl h)
    · exact h
  · subst s'
    exact changeChannel_flag.mpr (.inl h)
  · subst s'
    have hset : (s.chip.set regOpMode (opMode modeStdby)).flag mask :=
      (Chip.flag_congr (s.chip.set_regs_of_ne (by decide))).mpr h
    exact Chip.flag_raise.mpr (.inl hset)

structure Holds (k : Nat) (mask : UInt8) (s : Radio) : Prop where
  announced : Announced k s
  flag : s.chip.flag mask

theorem holds_stable (k : Nat) (mask : UInt8) :
    Program.Stable ChipMoves (Holds k mask) :=
  fun _ _ h hmoves =>
    ⟨h.announced.chipMoves hmoves, flag_chipMoves h.flag hmoves⟩

def Op.KeepsFlags (o : Op) : Prop :=
  ¬ o.OnPins ∧ forall val, o ≠ .writeReg regIrqFlags val

theorem Effect.flag_iff {o : Op} {s s' : Radio} (h : Effect o s s')
    (hkeeps : o.KeepsFlags) {mask : UInt8} :
    s'.chip.flag mask ↔ s.chip.flag mask :=
  Chip.flag_congr (h.regs (by decide) hkeeps.2)

theorem Holds.access {k : Nat} {mask : UInt8} {o : Op} {s s' : Radio}
    {b : o.Answer} (h : Holds k mask s) (hkeeps : o.KeepsFlags)
    (hexec : exec o s = some (s', b)) : Holds k mask s' :=
  ⟨h.announced.access hkeeps.1 hexec,
    ((exec_effect hexec).flag_iff hkeeps).mpr h.flag⟩

theorem FrfOp.keepsFlags {o : Op} (h : FrfOp o) : o.KeepsFlags := by
  cases o <;> try exact h.elim
  · constructor
    · exact id
    · intro val heq
      cases heq
      have hnot : regIrqFlags ∉ frfRegs := by decide
      exact hnot h
  · exact ⟨id, by simp⟩

theorem PacketOp.keepsFlags {o : Op} (h : PacketOp o) : o.KeepsFlags := by
  constructor
  · exact IsrOp.not_onPins (.inr (.inl h))
  · intro val heq
    subst o
    rcases h with h | h
    · exact absurd h (by decide)
    · exact absurd h.1 (by decide)

theorem pending_clear {c : Chip} {val : UInt8}
    (h : c.flag irqRxDoneMask ∧ val &&& irqRxDoneMask ≠ 0 ∨
      c.flag irqFhssChangeChannel ∧ val &&& irqFhssChangeChannel ≠ 0) :
    (c.write regIrqFlags val).pending + 1 ≤ c.pending := by
  have hrx := @Chip.flag_clear c irqRxDoneMask val singleBit_rxDone (by decide)
  have hfhss := @Chip.flag_clear c irqFhssChangeChannel val singleBit_fhss
    (by decide)
  rw [Chip.write_irqFlags]
  simp only [Chip.pending, hrx, hfhss]
  split_ifs <;> lia

theorem Announced.clear {k : Nat} {s s' : Radio} {val : UInt8} {b : Unit}
    (h : Announced (k + 1) s)
    (hflag : s.chip.flag irqRxDoneMask ∧ val &&& irqRxDoneMask ≠ 0 ∨
      s.chip.flag irqFhssChangeChannel ∧ val &&& irqFhssChangeChannel ≠ 0)
    (hexec : exec (.writeReg regIrqFlags val) s = some (s', b)) :
    Announced k s' := by
  cases hexec
  constructor
  · exact h.pins
  · have hpending := h.pending
    have hclear := pending_clear hflag
    change (s.chip.write regIrqFlags val).pending ≤ s.isrRecvQueue.length + k
    lia

theorem handles_hopTo {s : Radio} {table : Option Addr} {size : Int32}
    {hop : UInt8} (h : Holds 1 irqFhssChangeChannel s) :
    Handles (fun handled s => handled = true ∧ Announced 0 s)
      (hopTo table size hop) s := by
  apply Program.Ensures.perform h (holds_stable _ _) (fun _ _ => trivial)
  intro s s' frequency hs hexec
  have hs' := hs.access (o := .loadEntry table (hopIndex hop size))
    ⟨id, by simp⟩ hexec
  apply Program.Ensures.bind
  have hframe : Handles (fun _ => Holds 1 irqFhssChangeChannel)
      (loraSetFrequency frequency) s' :=
    Program.Ensures.frame hs' (loraSetFrequency_all frequency)
      (fun _ _ => holds_stable _ _) (holds_stable _ _)
      (fun _ _ _ _ => trivial)
      (fun _ _ _ _ hok hholds hexec => hholds.access hok.keepsFlags hexec)
  apply hframe.mono
  intro _ s hs
  apply Program.Ensures.perform hs (holds_stable _ _) (fun _ _ => trivial)
  intro s s' b hs hexec
  have hcleared : Announced 0 s' :=
    hs.announced.clear (.inr ⟨hs.flag, by decide⟩) hexec
  exact Program.Ensures.done hcleared (announced_stable 0)
    (fun _ h => ⟨rfl, h⟩)

theorem handles_loraFhssHandle {s : Radio} (h : Announced 1 s)
    (table : Option Addr) (size : Int32) :
    Handles (fun handled => Announced (if handled then 0 else 1))
      (loraFhssHandle table size) s := by
  rw [loraFhssHandle_eq]
  apply Program.Ensures.perform h (announced_stable 1) (fun _ _ => trivial)
  intro s s' irq hs hexec
  cases hexec
  split
  · exact Program.Ensures.done hs (announced_stable 1) (fun _ h => h)
  · rename_i hirq
    have hholds : Holds 1 irqFhssChangeChannel s := ⟨hs, hirq⟩
    refine Program.Ensures.perform hholds (holds_stable _ _)
      (fun _ _ => trivial) ?_
    intro s s' hop hs hexec
    have hs' := hs.access (o := .readReg regHopChannel) ⟨id, by simp⟩ hexec
    have hhop : forall s, Holds 1 irqFhssChangeChannel s ->
        Handles (fun handled => Announced (if handled then 0 else 1))
          (hopTo table size hop) s := by
      intro s hs
      apply (handles_hopTo hs).mono
      intro handled s hpost
      rw [hpost.1]
      exact hpost.2
    split
    · refine Program.Ensures.perform hs' (holds_stable _ _)
        (fun _ _ => trivial) ?_
      intro s s' b hs hexec
      cases hexec
    · exact hhop s' hs'

structure Found (irq : UInt8) (s : Radio) : Prop where
  announced : Announced 1 s
  rxDone : irq &&& irqRxDoneMask ≠ 0 -> s.chip.flag irqRxDoneMask
  fhss : irq &&& irqFhssChangeChannel ≠ 0 -> s.chip.flag irqFhssChangeChannel
  none : irq &&& irqRxDoneMask = 0 -> irq &&& irqFhssChangeChannel = 0 ->
    Announced 0 s

theorem found_stable (irq : UInt8) : Program.Stable ChipMoves (Found irq) :=
  fun _ _ h hmoves =>
    ⟨h.announced.chipMoves hmoves,
      fun hirq => flag_chipMoves (h.rxDone hirq) hmoves,
      fun hirq => flag_chipMoves (h.fhss hirq) hmoves,
      fun hrx hfhss => (h.none hrx hfhss).chipMoves hmoves⟩

theorem handles_receiveRound {s : Radio} (h : Announced 1 s) :
    Handles (fun _ => Announced 0) receiveRound s := by
  rw [receiveRound_eq]
  apply Program.Ensures.perform h (announced_stable 1) (fun _ _ => trivial)
  intro s s' irq hs hexec
  have hread : s = s' ∧ s.chip.regs regIrqFlags = irq := by
    cases hexec
    exact ⟨rfl, rfl⟩
  rcases hread with ⟨heq, hirq⟩
  subst heq
  have hfound : Found irq s := by
    subst hirq
    refine ⟨hs, id, id, fun hrx hfhss => ⟨hs.pins, ?_⟩⟩
    unfold Chip.pending Chip.flag
    simp [hrx, hfhss]
  apply Program.Ensures.perform hfound (found_stable _) (fun _ _ => trivial)
  intro s s' b hs hexec
  have hs' : Announced 0 s' := by
    rcases eq_or_ne (irq &&& irqRxDoneMask) 0 with hrx | hrx
    · rcases eq_or_ne (irq &&& irqFhssChangeChannel) 0 with hfhss | hfhss
      · exact (hs.none hrx hfhss).access (o := .writeReg regIrqFlags irq) id
          hexec
      · exact hs.announced.clear (.inr ⟨hs.fhss hfhss, hfhss⟩) hexec
    · exact hs.announced.clear (.inl ⟨hs.rxDone hrx, hrx⟩) hexec
  exact Program.Ensures.frame hs' (receiveRest_all _)
    (fun _ _ => announced_stable 0) (announced_stable 0)
    (fun _ _ _ _ => trivial)
    (fun _ _ _ _ hok h hexec => h.access hok.keepsFlags.1 hexec)

theorem handles_isrRecvRound {s : Radio} (h : Announced 1 s) :
    Handles (fun _ => Announced 0) isrRecvRound s := by
  rw [isrRecvRound_eq]
  apply Program.Ensures.perform h (announced_stable 1) (fun _ _ => trivial)
  intro s s' table hs hexec
  have hs' := hs.access (o := .getFqtable) id hexec
  apply Program.Ensures.perform hs' (announced_stable 1) (fun _ _ => trivial)
  intro s s' entries hs hexec
  have hs' := hs.access (o := .getFqtableEntries) id hexec
  apply Program.Ensures.bind
  apply (handles_loraFhssHandle hs' table _).mono
  intro handled s hs
  cases handled with
  | false => exact handles_receiveRound hs
  | true => exact Program.Ensures.done hs (announced_stable 0) (fun _ h => h)

/-!
## Runs
-/

/-- While the task waits, every pending flag has a command in the queue. -/
def Tracked (m : Modem) : Prop :=
  match m.isr with
  | none => Announced 0 m.radio
  | some p => Handles (fun _ => Announced 0) p m.radio

theorem Tracked.chipMoves {m : Modem} (h : Tracked m) {radio : Radio}
    (hmoves : ChipMoves m.radio radio) :
    Tracked { m with radio := radio } := by
  unfold Tracked at *
  cases hisr : m.isr with
  | none =>
      rw [hisr] at h
      exact h.chipMoves hmoves
  | some p =>
      rw [hisr] at h
      exact h.interfered hmoves

theorem Tracked.step (e : Event) (m m' : Modem) (h : Tracked m)
    (hstep : m.step e = some m') : Tracked m' := by
  cases Modem.step_moves hstep with
  | @take radio cmd rest hqueue =>
      have hannounced : Announced 1 { radio with isrRecvQueue := rest } := by
        constructor
        · exact h.pins
        · have hpending := h.pending
          rw [hqueue] at hpending
          exact hpending
      exact handles_isrRecvRound hannounced
  | @finish radio =>
      have hdone : Handles (fun _ => Announced 0) (.done ()) radio := h
      exact hdone.finished
  | access hexec => exact Program.Ensures.step h hexec
  | rxDone rx => exact h.chipMoves (.inl ⟨rx, rfl⟩)
  | changeChannel hop => exact h.chipMoves (.inr (.inl ⟨hop, rfl⟩))
  | transmitted htx => exact h.chipMoves (.inr (.inr rfl))

theorem Listening.tracked {m : Modem} (h : Listening m) : Tracked m := by
  unfold Tracked
  rw [h.isr]
  constructor
  · exact h.pins
  · unfold Chip.pending Chip.flag
    simp [h.irqFlags]

/-!
## Who clears `RX_DONE`
-/

/-- A write that can clear `RX_DONE` is the one of `lora_receive_packet`. -/
def ClearsRead (p : Prog Unit) : Prop :=
  forall val next, p = .perform (.writeReg regIrqFlags val) next ->
    val &&& irqRxDoneMask = 0 ∨ p = receiveFrom val

def Op.SparesRxDone (o : Op) : Prop :=
  forall val, o = .writeReg regIrqFlags val -> val &&& irqRxDoneMask = 0

theorem Op.SparesRxDone.clearsRead {o : Op} {next : o.Answer -> Prog Unit}
    (h : o.SparesRxDone) : ClearsRead (.perform o next) := by
  intro val next' heq
  rw [Program.perform.injEq] at heq
  exact .inl (h val heq.1)

theorem Op.KeepsFlags.sparesRxDone {o : Op} (h : o.KeepsFlags) :
    o.SparesRxDone := by
  intro val heq
  exact absurd heq (h.2 val)

theorem hopTo_spares (table : Option Addr) (size : Int32) (hop : UInt8) :
    (hopTo table size hop).All Op.SparesRxDone := by
  constructor
  · exact by simp [Op.SparesRxDone]
  · intro frequency
    apply ((loraSetFrequency_all frequency).mono
      (fun _ h => h.keepsFlags.sparesRxDone)).bind
    intro _
    refine ⟨fun val heq => ?_, fun _ => trivial⟩
    cases heq
    decide

theorem loraFhssHandle_spares (table : Option Addr) (size : Int32) :
    (loraFhssHandle table size).All Op.SparesRxDone := by
  rw [loraFhssHandle_eq]
  constructor
  · exact by simp [Op.SparesRxDone]
  · intro irq
    beta_reduce
    split
    · trivial
    · exists by simp [Op.SparesRxDone]
      intro hop
      beta_reduce
      split
      · exact ⟨by simp [Op.SparesRxDone], fun _ => hopTo_spares table size hop⟩
      · exact hopTo_spares table size hop

theorem receiveRound_clearsRead : receiveRound.Everywhere ClearsRead := by
  rw [receiveRound_eq]
  refine ⟨by simp [ClearsRead], fun irq => ⟨?_, fun _ => ?_⟩⟩
  · intro val next heq
    rw [Program.perform.injEq] at heq
    cases heq.1
    exact .inr rfl
  · exact Program.Everywhere.of_all (receiveRest_all irq)
      (fun _ _ hok => hok.keepsFlags.sparesRxDone.clearsRead)
      (fun _ val next heq => by cases heq)

theorem isrRecvRound_clearsRead : isrRecvRound.Everywhere ClearsRead := by
  rw [isrRecvRound_eq]
  refine ⟨by simp [ClearsRead], fun table => ⟨by simp [ClearsRead],
    fun entries => ?_⟩⟩
  apply Program.Everywhere.bind (loraFhssHandle_spares table _)
  · exact fun o next hok => hok.clearsRead
  · intro handled
    cases handled with
    | false => exact receiveRound_clearsRead
    | true =>
        intro val next heq
        cases heq

def FromRound (m : Modem) : Prop :=
  forall p, m.isr = some p -> p.Everywhere ClearsRead

theorem FromRound.step (e : Event) (m m' : Modem) (h : FromRound m)
    (hstep : m.step e = some m') : FromRound m' := by
  cases Modem.step_moves hstep with
  | take hqueue =>
      intro p hp
      cases hp
      exact isrRecvRound_clearsRead
  | finish =>
      intro p hp
      cases hp
  | @access radio radio' o next b hexec =>
      intro p hp
      cases hp
      exact (h _ rfl).2 b
  | rxDone rx => exact h
  | changeChannel hop => exact h
  | transmitted htx => exact h

theorem FromRound.cleared {e : Event} {m m' : Modem} (h : FromRound m)
    (hstep : m.step e = some m') (hflag : m.radio.chip.flag irqRxDoneMask)
    (hcleared : ¬ m'.radio.chip.flag irqRxDoneMask) :
    exists irq, e = .isr ∧ m.isr = some (receiveFrom irq) ∧
      irq &&& irqRxDoneMask ≠ 0 := by
  cases Modem.step_moves hstep with
  | take hqueue => exact absurd hflag hcleared
  | finish => exact absurd hflag hcleared
  | @access radio radio' o next b hexec =>
      rcases Classical.em (exists val, o = .writeReg regIrqFlags val) with
        ⟨val, heq⟩ | hne
      · subst o
        have hbit : val &&& irqRxDoneMask ≠ 0 := by
          intro hzero
          cases hexec
          exact hcleared ((Chip.flag_clear singleBit_rxDone (by decide)).mpr
            ⟨hflag, hzero⟩)
        rcases (h _ rfl).here val next rfl with hzero | heq
        · exact absurd hzero hbit
        · exact ⟨val, rfl, congrArg some heq, hbit⟩
      · have hregs := (exec_effect hexec).regs
          (by decide : regIrqFlags ≠ regFifoAddrPtr)
          (fun val heq => hne ⟨val, heq⟩)
        exact absurd ((Chip.flag_congr hregs).mpr hflag) hcleared
  | rxDone rx =>
      exact absurd (flag_chipMoves hflag (.inl ⟨rx, rfl⟩)) hcleared
  | changeChannel hop =>
      exact absurd (flag_chipMoves hflag (.inr (.inl ⟨hop, rfl⟩))) hcleared
  | transmitted htx =>
      exact absurd (flag_chipMoves hflag (.inr (.inr rfl))) hcleared

/-- No received packet gets stuck: while the task waits and no command is on its
way, `RX_DONE` is clear, and it is `lora_receive_packet` that has cleared it. -/
theorem packet_delivered {m m' : Modem} {events : List Event}
    (hstart : Listening m) (hrun : runAll Modem.step events m = some m') :
    (m'.Waiting -> ¬ m'.radio.chip.flag irqRxDoneMask) ∧
      forall e m'', m'.step e = some m'' ->
        m'.radio.chip.flag irqRxDoneMask ->
        ¬ m''.radio.chip.flag irqRxDoneMask ->
        exists irq, e = .isr ∧ m'.isr = some (receiveFrom irq) ∧
          irq &&& irqRxDoneMask ≠ 0 := by
  refine ⟨fun hwaiting => ?_, fun e m'' hstep hflag hcleared => ?_⟩
  · have h := runAll_invariant Tracked.step hstart.tracked hrun
    unfold Tracked at h
    rw [hwaiting.1] at h
    have hpending := h.pending
    rw [hwaiting.2] at hpending
    intro hflag
    unfold Chip.pending at hpending
    rw [if_pos hflag] at hpending
    simp at hpending
  · have hfrom : FromRound m := by
      intro p hp
      rw [hstart.isr] at hp
      cases hp
    exact (runAll_invariant FromRound.step hfrom hrun).cleared hstep hflag
      hcleared

theorem listening_listeningModem : Listening listeningModem := by
  constructor <;> first | rfl | (intro pin; rfl)

theorem packet_delivered_behind_hop : exists m',
    runAll Modem.step ([.rxDone emptyPacket, .changeChannel 1] ++
      List.replicate 33 .isr) listeningModem = some m' ∧ m'.Waiting ∧
      ¬ m'.radio.chip.flag irqRxDoneMask := by
  have hrun : (runAll Modem.step ([.rxDone emptyPacket, .changeChannel 1] ++
      List.replicate 33 .isr) listeningModem).map (fun m =>
        (m.isr.isNone, m.radio.isrRecvQueue)) = some (true, []) := by
    decide
  rcases Option.map_eq_some_iff.mp hrun with ⟨m', hm', hobserved⟩
  simp only [Prod.mk.injEq, Option.isNone_iff_eq_none] at hobserved
  exact ⟨m', hm', hobserved,
    (packet_delivered listening_listeningModem hm').1 hobserved⟩

end LoRa
end Fluxnode
