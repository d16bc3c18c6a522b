import Fluxnode.LoRa.PacketDelivery

/-!
# Channel hops

A round handles a hop when the first read of the flags finds it: it reads the
channel, tunes to the entry of the table and clears the flag.  A hop between the
two reads of the flags is found by the second one only, which clears it with the
packet's flags.
-/

namespace Fluxnode
namespace LoRa

open Foundation
open Js (Number)

def Radio.hopEntry (s : Radio) (hop : UInt8) : Option Number :=
  ((s.block s.fqtable).bind (fun es =>
    es[hopIndex hop s.fqtableEntries.toInt32]?)).map Entry.value

/-- Hopping is on, with a frequency for every channel. -/
structure Hopping (m : Modem) : Prop extends Listening m where
  hopPeriod : m.radio.chip.regs regHopPeriod ≠ 0
  entries : m.radio.fqtableEntries ≠ 0
  table : forall hop, (m.radio.hopEntry hop).isSome

def ClearsHop (o : Op) (s : Radio) : Prop :=
  s.chip.flag irqFhssChangeChannel ∧
    exists val, o = .writeReg regIrqFlags val ∧
      val &&& irqFhssChangeChannel ≠ 0

/-- The radio was tuned to the frequency of the current channel since the flag
was set. -/
def Hopped (s : Radio) : Prop :=
  exists frequency, s.hopEntry (s.chip.regs regHopChannel) = some frequency ∧
    frequency ∈ s.tuned.drop s.hopMark

def HopOp : Op -> Prop
  | .loadEntry _ _ => True
  | .setFrequency _ => True
  | .writeReg reg val =>
      reg ∈ frfRegs ∨ reg = regIrqFlags ∧ val = irqFhssChangeChannel
  | _ => False

/-- A change to a channel that has the frequency of the current one. -/
def Radio.SameEntry (s : Radio) (hop : UInt8) : Prop :=
  s.hopEntry hop = s.hopEntry (s.chip.regs regHopChannel)

/-- The chip does not change the channel between the two reads of the flags, nor
to another frequency between the read of the channel and the clearing of its
flag. -/
def HopCondition (e : Event) (m : Modem) : Prop :=
  forall hop, e = .changeChannel hop ->
    m.isr ≠ some receiveRound ∧
      forall o next, m.isr = some (.perform o next) -> HopOp o ->
        m.radio.SameEntry hop

/-!
## The mark of a hop
-/

def Marked (s : Radio) : Prop :=
  s.chip.flag irqFhssChangeChannel -> s.hopMark ≤ s.tuned.length

theorem interrupt_hopMark (s : Radio) (pin : Pin) (cmd : IsrCmd) :
    (s.interrupt pin cmd).hopMark = s.hopMark := by
  unfold Radio.interrupt
  split <;> rfl

theorem rxDone_hopMark (s : Radio) (rx : Reception) :
    (s.rxDone rx).hopMark = s.hopMark := by
  unfold Radio.rxDone
  split
  · rfl
  · exact interrupt_hopMark _ _ _

theorem changeChannel_hopMark (s : Radio) (hop : UInt8) :
    (s.changeChannel hop).hopMark =
      if s.chip.flag irqFhssChangeChannel then s.hopMark
      else s.tuned.length := by
  unfold Radio.changeChannel
  split
  · rfl
  · exact interrupt_hopMark _ _ _

theorem changeChannel_hopChannel (s : Radio) (hop : UInt8) :
    (s.changeChannel hop).chip.regs regHopChannel = hop := by
  rw [changeChannel_chip, Chip.raise_regs_of_ne _ (by decide),
    Chip.set_regs_self]

theorem Marked.chipMoves {s s' : Radio} (h : Marked s)
    (hmoves : ChipMoves s s') : Marked s' := by
  unfold Marked at *
  rcases hmoves with ⟨rx, heq⟩ | ⟨hop, heq⟩ | heq
  · subst s'
    rw [rxDone_flag_fhss, rxDone_hopMark, (raised_rxDone s rx).tuned]
    exact h
  · subst s'
    rw [changeChannel_hopMark, (raised_changeChannel s hop).tuned]
    intro _
    split
    · rename_i hflag
      exact h hflag
    · exact Nat.le_refl _
  · subst s'
    intro hflag
    exact h ((transmitted_flag _ (by decide)).mp hflag)

theorem Marked.access {o : Op} {s s' : Radio} {b : o.Answer} (h : Marked s)
    (hexec : exec o s = some (s', b)) : Marked s' := by
  have heffect := exec_effect hexec
  intro hflag
  have hmark := h (heffect.flag hflag)
  rw [heffect.hopMark]
  rcases Classical.em (exists frequency, o = .setFrequency frequency) with
    ⟨frequency, heq⟩ | hne
  · subst o
    cases hexec
    simp only [List.length_append, List.length_singleton]
    lia
  · rw [heffect.tuned (fun frequency heq => hne ⟨frequency, heq⟩)]
    exact hmark

/-!
## The table during a round
-/

theorem ChipMoves.raised {s s' : Radio} (h : ChipMoves s s') : Raised s s' := by
  rcases h with ⟨rx, heq⟩ | ⟨hop, heq⟩ | heq
  · subst s'
    exact raised_rxDone s rx
  · subst s'
    exact raised_changeChannel s hop
  · subst s'
    constructor <;> rfl

theorem hopEntry_congr {s s' : Radio} (hheap : s'.heap = s.heap)
    (htable : s'.fqtable = s.fqtable)
    (hentries : s'.fqtableEntries = s.fqtableEntries) (hop : UInt8) :
    s'.hopEntry hop = s.hopEntry hop := by
  unfold Radio.hopEntry Radio.block
  rw [hheap, htable, hentries]

theorem Raised.hopEntry {s s' : Radio} (h : Raised s s') (hop : UInt8) :
    s'.hopEntry hop = s.hopEntry hop :=
  hopEntry_congr h.heap h.fqtable h.fqtableEntries hop

theorem Effect.hopEntry {o : Op} {s s' : Radio} (h : Effect o s s')
    (hhandle : HandleOp o) (hop : UInt8) :
    s'.hopEntry hop = s.hopEntry hop := by
  apply hopEntry_congr
  · apply h.heap
    cases o <;> first | exact hhandle.elim | exact id
  · apply h.fqtable
    intro table heq
    subst o
    exact hhandle
  · apply h.fqtableEntries
    intro n heq
    subst o
    exact hhandle

theorem Effect.hopChannel {o : Op} {s s' : Radio} (h : Effect o s s')
    (hhandle : HandleOp o) :
    s'.chip.regs regHopChannel = s.chip.regs regHopChannel := by
  apply h.regs (by decide)
  intro val heq
  subst o
  rcases hhandle with h | h
  · exact absurd h (by decide)
  · exact absurd h (by decide)

/-!
## A round
-/

def ChangesTo (channels : UInt8 -> Prop) (s s' : Radio) : Prop :=
  (exists rx, s' = s.rxDone rx) ∨
    (exists hop, channels hop ∧ s' = s.changeChannel hop) ∨
    s' = s.setChip s.chip.transmitted

theorem ChangesTo.chipMoves {channels : UInt8 -> Prop} {s s' : Radio}
    (h : ChangesTo channels s s') : ChipMoves s s' := by
  rcases h with h | ⟨hop, _, heq⟩ | h
  · exact .inl h
  · exact .inr (.inl ⟨hop, heq⟩)
  · exact .inr (.inr h)

def HandleRely (next : Option Op) (s : Radio) : Radio -> Prop :=
  ChangesTo (fun hop =>
    exists o, next = some o ∧ (HopOp o -> s.SameEntry hop)) s

/-- No pending hop is dropped. -/
abbrev Keeps {α : Type} (post : α -> Radio -> Prop) (p : Prog α)
    (s : Radio) : Prop :=
  p.Ensures exec HandleRely (fun o s => ClearsHop o s -> Hopped s) post s

structure OnTable (table : Option Addr) (size : Int32) (s : Radio) : Prop where
  marked : Marked s
  fqtable : s.fqtable = table
  entries : s.fqtableEntries.toInt32 = size

/-- A hop is pending, and the round has read a channel with its frequency. -/
structure AtHop (table : Option Addr) (size : Int32) (hop : UInt8)
    (s : Radio) : Prop extends OnTable table size s where
  flag : s.chip.flag irqFhssChangeChannel
  sameEntry : s.SameEntry hop

structure AtFrequency (s : Radio) : Prop where
  flag : s.chip.flag irqFhssChangeChannel
  hopped : Hopped s

theorem OnTable.chipMoves {table : Option Addr} {size : Int32} {s s' : Radio}
    (h : OnTable table size s) (hmoves : ChipMoves s s') :
    OnTable table size s' :=
  ⟨h.marked.chipMoves hmoves, hmoves.raised.fqtable.trans h.fqtable,
    hmoves.raised.fqtableEntries ▸ h.entries⟩

theorem hopEntry_changesTo {s s' : Radio}
    (h : ChangesTo s.SameEntry s s') :
    s'.hopEntry (s'.chip.regs regHopChannel) =
      s.hopEntry (s.chip.regs regHopChannel) := by
  rw [h.chipMoves.raised.hopEntry]
  rcases h with ⟨rx, heq⟩ | ⟨hop, hsame, heq⟩ | heq
  · subst s'
    rw [rxDone_regs_of_ne _ _ (by decide)]
  · subst s'
    rw [changeChannel_hopChannel]
    exact hsame
  · subst s'
    exact congrArg s.hopEntry (transmitted_regs_of_ne s.chip (by decide))

theorem hopMark_chipMoves {s s' : Radio}
    (hflag : s.chip.flag irqFhssChangeChannel) (h : ChipMoves s s') :
    s'.hopMark = s.hopMark := by
  rcases h with ⟨rx, heq⟩ | ⟨hop, heq⟩ | heq
  · subst s'
    exact rxDone_hopMark s rx
  · subst s'
    rw [changeChannel_hopMark, if_pos hflag]
  · subst s'
    rfl

theorem AtHop.changesTo {table : Option Addr} {size : Int32} {hop : UInt8}
    {s s' : Radio} (h : AtHop table size hop s)
    (hmoves : ChangesTo s.SameEntry s s') : AtHop table size hop s' := by
  refine ⟨h.toOnTable.chipMoves hmoves.chipMoves,
    flag_chipMoves h.flag hmoves.chipMoves, ?_⟩
  unfold Radio.SameEntry
  rw [hopEntry_changesTo hmoves, hmoves.chipMoves.raised.hopEntry]
  exact h.sameEntry

theorem AtFrequency.changesTo {s s' : Radio} (h : AtFrequency s)
    (hmoves : ChangesTo s.SameEntry s s') : AtFrequency s' := by
  rcases h.hopped with ⟨frequency, hentry, hmem⟩
  refine ⟨flag_chipMoves h.flag hmoves.chipMoves, frequency, ?_, ?_⟩
  · rw [hopEntry_changesTo hmoves]
    exact hentry
  · rw [hopMark_chipMoves h.flag hmoves.chipMoves,
      hmoves.chipMoves.raised.tuned]
    exact hmem

theorem HandleRely.sameEntry {next : Option Op}
    (hhop : forall o, next = some o -> HopOp o) {s s' : Radio}
    (h : HandleRely next s s') : ChangesTo s.SameEntry s s' := by
  rcases h with h | ⟨hop, ⟨o, ho, hsame⟩, heq⟩ | h
  · exact .inl h
  · exact .inr (.inl ⟨hop, hsame (hhop o ho), heq⟩)
  · exact .inr (.inr h)

theorem atHop_stable {o : Op} (hhop : HopOp o) (table : Option Addr)
    (size : Int32) (hop : UInt8) :
    Program.Stable (HandleRely (some o)) (AtHop table size hop) := by
  intro s s' h hrely
  apply h.changesTo
  apply hrely.sameEntry
  intro o' heq
  cases heq
  exact hhop

theorem atFrequency_stable {next : Option Op}
    (hhop : forall o, next = some o -> HopOp o) :
    Program.Stable (HandleRely next) AtFrequency :=
  fun _ _ h hrely => h.changesTo (hrely.sameEntry hhop)

theorem AtFrequency.access {o : Op} {s s' : Radio} {b : o.Answer}
    (h : AtFrequency s) (hhandle : HandleOp o) (hkeeps : o.KeepsFlags)
    (htune : forall frequency, o ≠ .setFrequency frequency)
    (hexec : exec o s = some (s', b)) : AtFrequency s' := by
  have heffect := exec_effect hexec
  rcases h.hopped with ⟨frequency, hentry, hmem⟩
  refine ⟨(heffect.flag_iff hkeeps).mpr h.flag, frequency, ?_, ?_⟩
  · rw [heffect.hopChannel hhandle, heffect.hopEntry hhandle]
    exact hentry
  · rw [heffect.tuned htune, heffect.hopMark]
    exact hmem

theorem AtHop.tune {table : Option Addr} {size : Int32} {hop : UInt8}
    {frequency : Number} {s s' : Radio} {b : Unit}
    (h : AtHop table size hop s) (hentry : s.hopEntry hop = some frequency)
    (hexec : exec (.setFrequency frequency) s = some (s', b)) :
    AtFrequency s' := by
  have hmark := h.marked h.flag
  have hsame := h.sameEntry
  cases hexec
  refine ⟨h.flag, frequency, ?_, ?_⟩
  · exact hsame.symm.trans hentry
  · rw [List.drop_append_of_le_length hmark]
    simp

theorem AtHop.load {table : Option Addr} {size : Int32} {hop : UInt8}
    {frequency : Number} {s s' : Radio} (h : AtHop table size hop s)
    (hexec : exec (.loadEntry table (hopIndex hop size)) s =
      some (s', frequency)) :
    AtHop table size hop s' ∧ s'.hopEntry hop = some frequency := by
  simp only [exec] at hexec
  split at hexec
  · cases hexec
  · rename_i e hentry
    cases hexec
    constructor
    · exact h
    · unfold Radio.hopEntry
      rw [h.fqtable, h.entries, hentry]
      rfl

def writeFrf (frequency : Number) : Prog Unit := do
  let frf := freqRegs frequency
  writeReg regFrfMsb (frf >>> 16).toUInt8
  writeReg regFrfMid (frf >>> 8).toUInt8
  writeReg regFrfLsb (frf >>> 0).toUInt8

theorem hopTo_eq (table : Option Addr) (size : Int32) (hop : UInt8) :
    hopTo table size hop =
      .perform (.loadEntry table (hopIndex hop size)) (fun frequency =>
        .perform (.setFrequency frequency) (fun _ =>
          (writeFrf frequency).bind (fun _ =>
            .perform (.writeReg regIrqFlags irqFhssChangeChannel) (fun _ =>
              .done true)))) := rfl

def FrfWrite (o : Op) : Prop :=
  exists reg val, reg ∈ frfRegs ∧ o = .writeReg reg val

theorem writeFrf_all (frequency : Number) :
    (writeFrf frequency).All FrfWrite := by
  refine ⟨⟨_, _, ?_, rfl⟩, fun _ => ⟨⟨_, _, ?_, rfl⟩, fun _ =>
    ⟨⟨_, _, ?_, rfl⟩, fun _ => trivial⟩⟩⟩ <;> simp [frfRegs]

theorem FrfWrite.hopOp {o : Op} (h : FrfWrite o) : HopOp o := by
  rcases h with ⟨reg, val, hreg, heq⟩
  subst o
  exact .inl hreg

theorem FrfWrite.handle {o : Op} (h : FrfWrite o) : HandleOp o := by
  rcases h with ⟨reg, val, hreg, heq⟩
  subst o
  exact Or.inl hreg

theorem FrfWrite.keepsFlags {o : Op} (h : FrfWrite o) : o.KeepsFlags := by
  rcases h with ⟨reg, val, hreg, heq⟩
  subst o
  exact FrfOp.keepsFlags (o := .writeReg reg val) hreg

theorem FrfWrite.not_tunes {o : Op} (h : FrfWrite o) (frequency : Number) :
    o ≠ .setFrequency frequency := by
  rcases h with ⟨reg, val, hreg, heq⟩
  subst o
  simp

theorem Op.KeepsFlags.not_clears {o : Op} {s : Radio} (h : o.KeepsFlags) :
    ¬ ClearsHop o s := by
  intro hclears
  rcases hclears with ⟨_, val, heq, _⟩
  exact absurd heq (h.2 val)

theorem Op.KeepsFlags.keeps {o : Op} {s : Radio} (h : o.KeepsFlags)
    (hclears : ClearsHop o s) : Hopped s :=
  absurd hclears h.not_clears

theorem keeps_hopTo {post : Bool -> Radio -> Prop} {table : Option Addr}
    {size : Int32} {hop : UInt8} {s : Radio} (h : AtHop table size hop s)
    (hpost : forall s, post true s) :
    Keeps post (hopTo table size hop) s := by
  rw [hopTo_eq]
  apply Program.Ensures.perform h
  · apply atHop_stable
    trivial
  · intro s _
    exact Op.KeepsFlags.keeps ⟨id, by simp⟩
  intro s s' frequency hs hexec
  apply Program.Ensures.perform
    (P := fun s => AtHop table size hop s ∧ s.hopEntry hop = some frequency)
    (hs.load hexec)
  · intro s s' h hrely
    have hmoves : ChangesTo s.SameEntry s s' := by
      apply hrely.sameEntry
      intro o heq
      cases heq
      trivial
    exact ⟨h.1.changesTo hmoves,
      (hmoves.chipMoves.raised.hopEntry hop).trans h.2⟩
  · intro s _
    exact Op.KeepsFlags.keeps ⟨id, by simp⟩
  intro s s' b hs hexec
  have htuned := hs.1.tune hs.2 hexec
  apply Program.Ensures.bind
  have hframe : Keeps (fun _ => AtFrequency)
      (writeFrf frequency) s' := by
    apply Program.Ensures.frame htuned (writeFrf_all frequency)
    · intro o hwrite
      apply atFrequency_stable
      intro o' heq
      cases heq
      exact hwrite.hopOp
    · apply atFrequency_stable
      intro o heq
      cases heq
    · intro o s hwrite _
      exact hwrite.keepsFlags.keeps
    · intro o s s' b hwrite hs hexec
      exact hs.access hwrite.handle hwrite.keepsFlags hwrite.not_tunes hexec
  apply hframe.mono
  intro _ s hs
  apply Program.Ensures.perform hs
  · apply atFrequency_stable
    intro o heq
    cases heq
    exact .inr ⟨rfl, rfl⟩
  · exact fun s hs _ => hs.hopped
  intro s s' b _ _
  exact Program.Ensures.done (P := fun _ => True) trivial
    (fun _ _ _ _ => trivial) (fun s _ => hpost s)

/-- The post condition of `lora_fhss_handle`: no hop is left for the next read
of the flags. -/
def NothingLeft (handled : Bool) (s : Radio) : Prop :=
  handled = false -> ¬ s.chip.flag irqFhssChangeChannel

theorem noFlag_stable {rely : Radio -> Radio -> Prop}
    (h : forall s s', rely s s' -> ChangesTo (fun _ => False) s s') :
    Program.Stable rely (fun s => ¬ s.chip.flag irqFhssChangeChannel) := by
  intro s s' hflag hrely
  rcases h s s' hrely with ⟨rx, heq⟩ | ⟨hop, hno, _⟩ | heq
  · subst s'
    rw [rxDone_flag_fhss]
    exact hflag
  · exact hno.elim
  · subst s'
    intro hset
    exact hflag ((transmitted_flag _ (by decide)).mp hset)

theorem keeps_loraFhssHandle {table : Option Addr} {size : Int32} {s : Radio}
    (h : OnTable table size s) :
    Keeps NothingLeft (loraFhssHandle table size) s := by
  have htable : forall next, Program.Stable (HandleRely next)
      (OnTable table size) :=
    fun _ _ _ h hrely => h.chipMoves hrely.chipMoves
  rw [loraFhssHandle_eq]
  apply Program.Ensures.perform h (htable _)
  · intro s _
    exact Op.KeepsFlags.keeps ⟨id, by simp⟩
  intro s s' irq hs hexec
  cases hexec
  split
  · rename_i hirq
    have hstable : Program.Stable (HandleRely none)
        (fun s => ¬ s.chip.flag irqFhssChangeChannel) := by
      apply noFlag_stable
      intro s s' hrely
      rcases hrely with h | ⟨hop, ⟨o, ho, _⟩, _⟩ | h
      · exact .inl h
      · cases ho
      · exact .inr (.inr h)
    exact Program.Ensures.done (not_not.mpr hirq) hstable (fun s hs _ => hs)
  · rename_i hirq
    apply Program.Ensures.perform
      (P := fun s => OnTable table size s ∧
        s.chip.flag irqFhssChangeChannel) ⟨hs, hirq⟩
    · intro s s' h hrely
      exact ⟨h.1.chipMoves hrely.chipMoves,
        flag_chipMoves h.2 hrely.chipMoves⟩
    · intro s _
      exact Op.KeepsFlags.keeps ⟨id, by simp⟩
    intro s s' hop hs hexec
    cases hexec
    have hhop : AtHop table size (s.chip.regs regHopChannel) s :=
      ⟨hs.1, hs.2, rfl⟩
    have hpost : forall s, NothingLeft true s := by
      intro s heq
      cases heq
    split
    · intro s' hrely
      exact ⟨Op.KeepsFlags.keeps ⟨id, by simp⟩,
        fun s'' b hexec => by cases hexec⟩
    · exact keeps_hopTo hhop hpost

/-- The round up to the end of `lora_fhss_handle`. -/
def handleRound : Prog Bool := do
  let table ← getFqtable
  let entries ← getFqtableEntries
  loraFhssHandle table entries.toInt32

theorem isrRecvRound_eq_handleRound :
    isrRecvRound = handleRound.bind behindHandle := rfl

theorem keeps_handleRound {s : Radio} (h : Marked s) :
    Keeps NothingLeft handleRound s := by
  apply Program.Ensures.perform h
    (fun _ _ h hrely => h.chipMoves hrely.chipMoves)
  · intro s _
    exact Op.KeepsFlags.keeps ⟨id, by simp⟩
  intro s s' table hs hexec
  have htable : Marked s' ∧ s'.fqtable = table := by
    cases hexec
    exact ⟨hs, rfl⟩
  apply Program.Ensures.perform
    (P := fun s => Marked s ∧ s.fqtable = table) htable
  · intro s s' h hrely
    exact ⟨h.1.chipMoves hrely.chipMoves,
      hrely.chipMoves.raised.fqtable.trans h.2⟩
  · intro s _
    exact Op.KeepsFlags.keeps ⟨id, by simp⟩
  intro s s' entries hs hexec
  cases hexec
  exact keeps_loraFhssHandle ⟨hs.1, hs.2, rfl⟩

/-!
## Runs
-/

/-- How far a round is: in `lora_fhss_handle`, between the two reads of the
flags without a hop, or behind them without a hop to clear. -/
inductive Phase (s : Radio) : Prog Unit -> Prop
  | handling {o : Op} {next : o.Answer -> Prog Bool}
      (h : Keeps NothingLeft (.perform o next) s) :
      Phase s (.perform o (fun b => (next b).bind behindHandle))
  | between {p : Prog Unit} (hround : p = receiveRound)
      (h : ¬ s.chip.flag irqFhssChangeChannel) : Phase s p
  | behind {p : Prog Unit} (h : p.All (fun o => forall s, ¬ ClearsHop o s)) :
      Phase s p

theorem phase_behindHandle {handled : Bool} {s : Radio}
    (h : NothingLeft handled s) : Phase s (behindHandle handled) := by
  cases handled with
  | true => exact .behind trivial
  | false => exact .between rfl (h rfl)

theorem phase_receiveFrom {irq : UInt8} {s : Radio}
    (h : irq &&& irqFhssChangeChannel = 0) : Phase s (receiveFrom irq) := by
  apply Phase.behind
  constructor
  · intro s hclears
    rcases hclears with ⟨_, val, heq, hval⟩
    cases heq
    exact hval h
  · intro _
    exact (receiveRest_all irq).mono (fun _ hpacket _ =>
      hpacket.keepsFlags.not_clears)

theorem Phase.access {o : Op} {next : o.Answer -> Prog Unit} {s s' : Radio}
    {b : o.Answer} (h : Phase s (.perform o next))
    (hexec : exec o s = some (s', b)) : Phase s' (next b) := by
  cases h with
  | @handling o next h =>
      have hnext := h.step hexec
      beta_reduce
      cases hq : next b with
      | done handled =>
          rw [hq] at hnext
          exact phase_behindHandle hnext.finished
      | perform o' next' =>
          rw [hq] at hnext
          exact .handling hnext
  | between hround h =>
      rw [receiveRound_eq] at hround
      cases hround
      cases hexec
      exact phase_receiveFrom (not_not.mp h)
  | behind h => exact .behind (h.2 b)

theorem Phase.keeps {o : Op} {next : o.Answer -> Prog Unit} {s : Radio}
    (h : Phase s (.perform o next)) (hclears : ClearsHop o s) : Hopped s := by
  cases h with
  | handling h => exact h.allowed hclears
  | between hround h => exact absurd hclears.1 h
  | behind h => exact absurd hclears (h.1 s)

theorem Phase.changesTo {p : Prog Unit} {s s' : Radio}
    {channels : UInt8 -> Prop} (h : Phase s p)
    (hmoves : ChangesTo channels s s')
    (hbetween : forall hop, channels hop -> p ≠ receiveRound)
    (hwindow : forall hop, channels hop -> forall o next,
      p = .perform o next -> HopOp o -> s.SameEntry hop) : Phase s' p := by
  cases h with
  | @handling o next h =>
      apply Phase.handling
      apply h.interfered
      rcases hmoves with h | ⟨hop, hchannel, heq⟩ | h
      · exact .inl h
      · exact .inr (.inl ⟨hop, ⟨o, rfl, hwindow hop hchannel o _ rfl⟩, heq⟩)
      · exact .inr (.inr h)
  | between hround h =>
      apply Phase.between hround
      have hstable : Program.Stable (ChangesTo channels)
          (fun s => ¬ s.chip.flag irqFhssChangeChannel) := by
        apply noFlag_stable
        intro s s' hmoves
        rcases hmoves with h | ⟨hop, hchannel, _⟩ | h
        · exact .inl h
        · exact absurd hround (hbetween hop hchannel)
        · exact .inr (.inr h)
      exact hstable s s' h hmoves
  | behind h => exact .behind h

structure HopTracked (m : Modem) : Prop where
  marked : Marked m.radio
  phase : forall p, m.isr = some p -> Phase m.radio p

theorem HopTracked.step (e : Event) (m m' : Modem) (h : HopTracked m)
    (hcond : HopCondition e m) (hstep : m.step e = some m') :
    HopTracked m' := by
  cases Modem.step_moves hstep with
  | @take radio cmd rest hqueue =>
      have hmarked : Marked { radio with isrRecvQueue := rest } := h.marked
      constructor
      · exact hmarked
      · intro p hp
        cases hp
        exact .handling (keeps_handleRound hmarked)
  | finish => exact ⟨h.marked, fun p hp => by cases hp⟩
  | access hexec =>
      constructor
      · exact h.marked.access hexec
      · intro p hp
        cases hp
        exact (h.phase _ rfl).access hexec
  | rxDone rx =>
      have hmoves : ChangesTo (fun _ => False) m.radio (m.radio.rxDone rx) :=
        .inl ⟨rx, rfl⟩
      constructor
      · exact h.marked.chipMoves hmoves.chipMoves
      · intro p hp
        exact (h.phase p hp).changesTo hmoves (fun _ => False.elim)
          (fun _ => False.elim)
  | changeChannel hop =>
      have hmoves : ChangesTo (fun hop' => hop' = hop) m.radio
          (m.radio.changeChannel hop) := .inr (.inl ⟨hop, rfl, rfl⟩)
      constructor
      · exact h.marked.chipMoves hmoves.chipMoves
      · intro p hp
        apply (h.phase p hp).changesTo hmoves
        · intro hop' heq hround
          exact (hcond hop rfl).1 (hround ▸ hp)
        · intro hop' heq o next hperform hhop
          subst hop' p
          exact (hcond hop rfl).2 o next hp hhop
  | transmitted htx =>
      have hmoves : ChangesTo (fun _ => False) m.radio
          (m.radio.setChip m.radio.chip.transmitted) := .inr (.inr rfl)
      constructor
      · exact h.marked.chipMoves hmoves.chipMoves
      · intro p hp
        exact (h.phase p hp).changesTo hmoves (fun _ => False.elim)
          (fun _ => False.elim)

/-- No hop is dropped while the chip changes the channel under the condition:
where the task clears the flag, it has tuned to the frequency since the flag was
set. -/
theorem hop_handled {m m' : Modem} {events : List Event} (hstart : Hopping m)
    (hcond : EveryStep Modem.step HopCondition events m)
    (hrun : runAll Modem.step events m = some m') {o : Op}
    {next : o.Answer -> Prog Unit} (hisr : m'.isr = some (.perform o next))
    (hclears : ClearsHop o m'.radio) : Hopped m'.radio := by
  have htracked : HopTracked m := by
    constructor
    · intro hflag
      exact absurd (by rw [hstart.irqFlags]; rfl) hflag
    · intro p hp
      rw [hstart.isr] at hp
      cases hp
  exact ((hcond.invariant HopTracked.step htracked hrun).phase _ hisr).keeps
    hclears

theorem hopping_listeningModem : Hopping listeningModem where
  toListening := listening_listeningModem
  hopPeriod := by decide
  entries := by decide
  table := by
    intro hop
    have hindex : hopIndex hop listeningRadio.fqtableEntries.toInt32 < 2 :=
      Nat.mod_lt _ (by decide)
    unfold Radio.hopEntry
    rw [Option.isSome_map]
    change ([_, _][hopIndex hop listeningRadio.fqtableEntries.toInt32]?).isSome
    rw [isSome_getElem?]
    exact hindex

theorem hop_handled_waiting : exists m' next,
    runAll Modem.step (.changeChannel 1 :: List.replicate 10 .isr)
      listeningModem = some m' ∧
      m'.isr = some (.perform (.writeReg regIrqFlags irqFhssChangeChannel)
        next) ∧ Hopped m'.radio := by
  have hrun : (runAll Modem.step (.changeChannel 1 :: List.replicate 10 .isr)
      listeningModem).map (fun m => (m.isr.bind Program.next?,
        decide (m.radio.chip.flag irqFhssChangeChannel))) =
      some (some (.writeReg regIrqFlags irqFhssChangeChannel), true) := by
    decide
  rcases Option.map_eq_some_iff.mp hrun with ⟨m', hm', hobserved⟩
  simp only [Prod.mk.injEq, Option.bind_eq_some_iff, decide_eq_true_eq]
    at hobserved
  rcases hobserved with ⟨⟨p, hp, hnext⟩, hflag⟩
  rcases Program.next?_eq_some hnext with ⟨next, heq⟩
  subst p
  have hcond : EveryStep Modem.step HopCondition
      (.changeChannel 1 :: List.replicate 10 .isr) listeningModem := by
    constructor
    · intro hop _
      exact ⟨by simp [listeningModem], by simp [listeningModem]⟩
    · intro m _
      apply EveryStep.of_forall
      intro e he m hop heq
      rw [List.eq_of_mem_replicate he] at heq
      cases heq
  exact ⟨m', next, hm', hp, hop_handled hopping_listeningModem hcond hm' hp
    ⟨hflag, _, rfl, by decide⟩⟩

/-- A hop between the two reads of the flags is dropped. -/
theorem hop_dropped : exists m' next,
    runAll Modem.step (.rxDone emptyPacket :: List.replicate 4 .isr ++
      [.changeChannel 1, .isr]) listeningModem = some m' ∧
      m'.isr = some (.perform (.writeReg regIrqFlags 0x42) next) ∧
      ClearsHop (.writeReg regIrqFlags 0x42) m'.radio ∧
      ¬ Hopped m'.radio := by
  have hrun : (runAll Modem.step (.rxDone emptyPacket ::
      List.replicate 4 .isr ++ [.changeChannel 1, .isr])
      listeningModem).map (fun m => (m.isr.bind Program.next?,
        decide (m.radio.chip.flag irqFhssChangeChannel), m.radio.tuned)) =
      some (some (.writeReg regIrqFlags 0x42), true, []) := by
    decide
  rcases Option.map_eq_some_iff.mp hrun with ⟨m', hm', hobserved⟩
  simp only [Prod.mk.injEq, Option.bind_eq_some_iff, decide_eq_true_eq]
    at hobserved
  rcases hobserved with ⟨⟨p, hp, hnext⟩, hflag, htuned⟩
  rcases Program.next?_eq_some hnext with ⟨next, heq⟩
  subst p
  refine ⟨m', next, hm', hp, ⟨hflag, _, rfl, by decide⟩, fun hhopped => ?_⟩
  rcases hhopped with ⟨frequency, _, hmem⟩
  rw [htuned] at hmem
  simp at hmem

end LoRa
end Fluxnode
