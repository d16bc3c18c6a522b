import Fluxnode.LoRa.HopHandling
import Fluxnode.LoRa.HoppingTable

/-!
# Hopping calls among the rounds

A round reads the table when it finds a hop.  The chip asks for hops while
`REG_HOP_PERIOD` is set, so the table has to be there while it is, and while a
hop is pending.  Calls that do not overlap a round's reads of the table keep it
so, if they fit and turn hopping off while no hop is pending.
-/

namespace Fluxnode
namespace LoRa

open Foundation
open Js (Number)

/-!
## Rounds
-/

/-- The table holds as many elements as the entry count says. -/
def TableReady (s : Radio) : Prop :=
  exists es, s.block s.fqtable = some es ∧ es ≠ [] ∧
    es.length = s.fqtableEntries.toNat

/-- The table is ready while the chip may ask for a hop. -/
def Safe (s : Radio) : Prop :=
  s.chip.regs regHopPeriod ≠ 0 ∨ s.chip.flag irqFhssChangeChannel -> TableReady s

def Op.Total (o : Op) : Prop :=
  forall s, (exec o s).isSome

def ReceiveOp (o : Op) : Prop :=
  PacketOp o ∨ exists val, o = .writeReg regIrqFlags val

/-- The chip, which asks for hops while `REG_HOP_PERIOD` is set. -/
def HopMoves (s : Radio) : Radio -> Prop :=
  ChangesTo (fun _ => s.chip.regs regHopPeriod ≠ 0) s

abbrev RunsSafely {α : Type} (post : α -> Radio -> Prop) (p : Prog α)
    (s : Radio) : Prop :=
  p.Ensures exec (fun _ => HopMoves) (fun o s => (exec o s).isSome) post s

theorem ReceiveOp.total {o : Op} (h : ReceiveOp o) : o.Total := by
  intro s
  rcases h with h | ⟨val, heq⟩
  · cases o <;> first | exact h.elim | rfl
  · subst o
    rfl

theorem receiveRound_receiveOp : receiveRound.All ReceiveOp := by
  rw [receiveRound_eq]
  exact ⟨.inl trivial, fun irq => ⟨.inr ⟨irq, rfl⟩, fun _ =>
    (receiveRest_all irq).mono (fun _ h => .inl h)⟩⟩

theorem runsSafely_of_total {α : Type} {p : Prog α} (h : p.All Op.Total)
    (s : Radio) : RunsSafely (fun _ _ => True) p s := by
  apply Program.Ensures.frame (P := fun _ => True) trivial h
  · exact fun _ _ _ _ _ _ => trivial
  · exact fun _ _ _ _ => trivial
  · exact fun o s htotal _ => htotal s
  · exact fun _ _ _ _ _ _ _ => trivial

theorem hopPeriod_chipMoves {s s' : Radio} (h : ChipMoves s s') :
    s'.chip.regs regHopPeriod = s.chip.regs regHopPeriod := by
  rcases h with ⟨rx, heq⟩ | ⟨hop, heq⟩ | heq
  · subst s'
    exact rxDone_regs_of_ne s rx (by decide)
  · subst s'
    exact changeChannel_regs_of_ne s hop (by decide)
  · subst s'
    exact transmitted_regs_of_ne s.chip (by decide)

theorem flag_hopMoves {s s' : Radio} (h : HopMoves s s')
    (hflag : s'.chip.flag irqFhssChangeChannel) :
    s.chip.flag irqFhssChangeChannel ∨ s.chip.regs regHopPeriod ≠ 0 := by
  rcases h with ⟨rx, heq⟩ | ⟨hop, hperiod, _⟩ | heq
  · subst s'
    exact .inl ((rxDone_flag_fhss s rx).mp hflag)
  · exact .inr hperiod
  · subst s'
    exact .inl ((transmitted_flag _ (by decide)).mp hflag)

theorem ready_congr {s s' : Radio} (hheap : s'.heap = s.heap)
    (htable : s'.fqtable = s.fqtable)
    (hentries : s'.fqtableEntries = s.fqtableEntries) :
    TableReady s' ↔ TableReady s := by
  unfold TableReady Radio.block
  rw [hheap, htable, hentries]

theorem Raised.ready {s s' : Radio} (h : Raised s s') :
    TableReady s' ↔ TableReady s :=
  ready_congr h.heap h.fqtable h.fqtableEntries

theorem Safe.hopMoves {s s' : Radio} (h : Safe s) (hmoves : HopMoves s s') :
    Safe s' := by
  intro hasks
  apply hmoves.chipMoves.raised.ready.mpr
  apply h
  rcases hasks with hperiod | hflag
  · rw [hopPeriod_chipMoves hmoves.chipMoves] at hperiod
    exact .inl hperiod
  · exact (flag_hopMoves hmoves hflag).symm

theorem natAbs_toInt32 (n : UInt32) (h : 0 < n.toNat) :
    0 < n.toInt32.toInt.natAbs ∧ n.toInt32.toInt.natAbs ≤ n.toNat := by
  have hint : n.toInt32.toInt = n.toBitVec.toInt := rfl
  have hnat : n.toBitVec.toNat = n.toNat := rfl
  have hlt := n.toNat_lt
  rw [hint, BitVec.toInt_eq_toNat_cond, hnat]
  split <;> lia

theorem TableReady.load {s : Radio} (h : TableReady s) (hop : UInt8) :
    s.fqtableEntries.toInt32 ≠ 0 ∧
      (exec (.loadEntry s.fqtable (hopIndex hop s.fqtableEntries.toInt32))
        s).isSome := by
  rcases h with ⟨es, hblock, hne, hlength⟩
  have hpos : 0 < s.fqtableEntries.toNat := by
    rw [← hlength]
    exact List.length_pos_iff.mpr hne
  rcases natAbs_toInt32 _ hpos with ⟨habs, hle⟩
  constructor
  · intro hzero
    rw [hzero] at habs
    exact absurd habs (by decide)
  · have hindex : hopIndex hop s.fqtableEntries.toInt32 < es.length :=
      Nat.lt_of_lt_of_le (Nat.mod_lt _ habs) (hlength ▸ hle)
    simp only [exec, hblock, Option.bind_some, List.getElem?_eq_getElem hindex]
    rfl

structure SafeTable (table : Option Addr) (size : Int32) (s : Radio) :
    Prop where
  safe : Safe s
  fqtable : s.fqtable = table
  entries : s.fqtableEntries.toInt32 = size

structure ReadyTable (table : Option Addr) (size : Int32) (s : Radio) :
    Prop where
  ready : TableReady s
  fqtable : s.fqtable = table
  entries : s.fqtableEntries.toInt32 = size

theorem SafeTable.hopMoves {table : Option Addr} {size : Int32}
    {s s' : Radio} (h : SafeTable table size s) (hmoves : HopMoves s s') :
    SafeTable table size s' :=
  ⟨h.safe.hopMoves hmoves,
    hmoves.chipMoves.raised.fqtable.trans h.fqtable,
    hmoves.chipMoves.raised.fqtableEntries ▸ h.entries⟩

theorem ReadyTable.hopMoves {table : Option Addr} {size : Int32}
    {s s' : Radio} (h : ReadyTable table size s) (hmoves : HopMoves s s') :
    ReadyTable table size s' :=
  ⟨hmoves.chipMoves.raised.ready.mpr h.ready,
    hmoves.chipMoves.raised.fqtable.trans h.fqtable,
    hmoves.chipMoves.raised.fqtableEntries ▸ h.entries⟩

theorem tune_total (frequency : Number) :
    ((loraSetFrequency frequency).bind (fun _ =>
      (.perform (.writeReg regIrqFlags irqFhssChangeChannel) (fun _ =>
        .done true) : Prog Bool))).All Op.Total := by
  have htotal : (loraSetFrequency frequency).All Op.Total := by
    apply (loraSetFrequency_all frequency).mono
    intro o hfrf s
    cases o <;> first | exact hfrf.elim | rfl
  exact htotal.bind (fun _ => ⟨fun _ => rfl, fun _ => trivial⟩)

theorem runsSafely_hopTo {table : Option Addr} {size : Int32} {s : Radio}
    (h : ReadyTable table size s) (hop : UInt8) :
    RunsSafely (fun _ _ => True) (hopTo table size hop) s := by
  apply Program.Ensures.perform h (fun _ _ h hmoves => h.hopMoves hmoves)
  · intro s hs
    rw [← hs.fqtable, ← hs.entries]
    exact (hs.ready.load hop).2
  · intro s s' frequency _ _
    exact runsSafely_of_total (tune_total frequency) s'

theorem runsSafely_loraFhssHandle {table : Option Addr} {size : Int32}
    {s : Radio} (h : SafeTable table size s) :
    RunsSafely (fun _ _ => True) (loraFhssHandle table size) s := by
  rw [loraFhssHandle_eq]
  apply Program.Ensures.perform h (fun _ _ h hmoves => h.hopMoves hmoves)
    (fun _ _ => rfl)
  intro s s' irq hs hexec
  cases hexec
  split
  · exact fun _ _ => trivial
  · rename_i hirq
    have hready : ReadyTable table size s :=
      ⟨hs.safe (.inr hirq), hs.fqtable, hs.entries⟩
    apply Program.Ensures.perform hready (fun _ _ h hmoves => h.hopMoves hmoves)
      (fun _ _ => rfl)
    intro s s' hop hs hexec
    cases hexec
    rw [if_neg]
    · exact runsSafely_hopTo hs _
    · rw [← hs.entries]
      exact (hs.ready.load 0).1

theorem runsSafely_isrRecvRound {s : Radio} (h : Safe s) :
    RunsSafely (fun _ _ => True) isrRecvRound s := by
  rw [isrRecvRound_eq]
  apply Program.Ensures.perform h (fun _ _ h hmoves => h.hopMoves hmoves)
    (fun _ _ => rfl)
  intro s s' table hs hexec
  have htable : Safe s' ∧ s'.fqtable = table := by
    cases hexec
    exact ⟨hs, rfl⟩
  apply Program.Ensures.perform (P := fun s => Safe s ∧ s.fqtable = table)
    htable
  · intro s s' h hmoves
    exact ⟨h.1.hopMoves hmoves, hmoves.chipMoves.raised.fqtable.trans h.2⟩
  · exact fun _ _ => rfl
  intro s s' entries hs hexec
  cases hexec
  apply Program.Ensures.bind
  apply (runsSafely_loraFhssHandle ⟨hs.1, hs.2, rfl⟩).mono
  intro handled s _
  cases handled with
  | true => exact fun _ _ => trivial
  | false =>
      exact runsSafely_of_total
        (receiveRound_receiveOp.mono (fun _ h => h.total)) s

/-!
## What the others do during a call
-/

def Modem.NotHandling (m : Modem) : Prop :=
  forall p, m.isr = some p -> p.All ReceiveOp

structure HopIdle (m : Modem) : Prop where
  isrOnly : m.IsrOnly
  safe : Safe m.radio
  round : forall p, m.isr = some p ->
    RunsSafely (fun _ _ => True) p m.radio

/-- During a call no round begins, and the chip asks for a hop only while the
register is set. -/
def HopRely (_ : HopCall) (_ : Option Op) (m m' : Modem) : Prop :=
  exists e, Moves e m m' ∧ (e = .isr -> m.isr ≠ none) ∧
    forall hop, e = .changeChannel hop -> m.radio.chip.regs regHopPeriod ≠ 0

structure HopKept (s s' : Radio) : Prop where
  heap : s'.heap = s.heap
  fqtable : s'.fqtable = s.fqtable
  fqtableEntries : s'.fqtableEntries = s.fqtableEntries
  hopPeriod : s'.chip.regs regHopPeriod = s.chip.regs regHopPeriod
  flag : s'.chip.flag irqFhssChangeChannel ->
    s.chip.flag irqFhssChangeChannel ∨ s.chip.regs regHopPeriod ≠ 0

theorem HopMoves.kept {s s' : Radio} (h : HopMoves s s') : HopKept s s' :=
  ⟨h.chipMoves.raised.heap, h.chipMoves.raised.fqtable,
    h.chipMoves.raised.fqtableEntries, hopPeriod_chipMoves h.chipMoves,
    flag_hopMoves h⟩

theorem ReceiveOp.isrOp {o : Op} (h : ReceiveOp o) : IsrOp o := by
  rcases h with h | ⟨val, heq⟩
  · exact .inr (.inl h)
  · subst o
    exact .inl (.inr rfl)

theorem IsrOp.kept {o : Op} {s s' : Radio} {b : o.Answer}
    (h : IsrOp o) (hexec : exec o s = some (s', b)) : HopKept s s' := by
  have heffect := exec_effect hexec
  constructor
  · apply heffect.heap
    intro hheap
    cases o <;> first | exact hheap.elim | skip
    all_goals rcases h with h | h | h | h <;> first | exact h.elim | cases h
  · apply heffect.fqtable
    intro table heq
    subst o
    rcases h with h | h | h | h <;> first | exact h.elim | cases h
  · apply heffect.fqtableEntries
    intro n heq
    subst o
    rcases h with h | h | h | h <;> first | exact h.elim | cases h
  · apply heffect.regs (by decide)
    intro val heq
    subst o
    rcases h with (hfrf | hirq) | (hptr | hmode) | h | h
    · exact absurd hfrf (by decide)
    · exact absurd hirq (by decide)
    · exact absurd hptr (by decide)
    · exact absurd hmode.1 (by decide)
    · cases h
    · cases h
  · exact fun hflag => .inl (heffect.flag hflag)

theorem HopKept.refl (s : Radio) : HopKept s s :=
  ⟨rfl, rfl, rfl, rfl, .inl⟩

structure During (P : Radio -> Prop) (m : Modem) : Prop where
  notHandling : m.NotHandling
  radio : P m.radio

def Steady (P : Radio -> Prop) : Prop :=
  forall s s', P s -> HopKept s s' -> P s'

theorem HopRely.kept {c : HopCall} {next : Option Op} {m m' : Modem}
    (h : HopRely c next m m') (hnot : m.NotHandling) :
    m'.NotHandling ∧ HopKept m.radio m'.radio := by
  rcases h with ⟨e, hmoves, hbegin, hasks⟩
  cases hmoves with
  | take hqueue => exact absurd rfl (hbegin rfl)
  | finish =>
      refine ⟨fun p hp => ?_, HopKept.refl _⟩
      cases hp
  | @access radio radio' o next b hexec =>
      have hround := hnot _ rfl
      refine ⟨fun p hp => ?_, hround.1.isrOp.kept hexec⟩
      cases hp
      exact hround.2 b
  | rxDone rx =>
      have hmoves : HopMoves m.radio (m.radio.rxDone rx) := .inl ⟨rx, rfl⟩
      exact ⟨hnot, hmoves.kept⟩
  | changeChannel hop =>
      have hmoves : HopMoves m.radio (m.radio.changeChannel hop) :=
        .inr (.inl ⟨hop, hasks hop rfl, rfl⟩)
      exact ⟨hnot, hmoves.kept⟩
  | transmitted htx =>
      have hmoves : HopMoves m.radio
          (m.radio.setChip m.radio.chip.transmitted) := .inr (.inr rfl)
      exact ⟨hnot, hmoves.kept⟩

theorem during_stable {P : Radio -> Prop} (hP : Steady P) (c : HopCall)
    (next : Option Op) : Program.Stable (HopRely c next) (During P) := by
  intro m m' h hrely
  rcases hrely.kept h.notHandling with ⟨hnot, hkept⟩
  exact ⟨hnot, hP _ _ h.radio hkept⟩

def TurnsOff (o : Op) (s : Radio) : Prop :=
  o = .writeReg regHopPeriod 0 ∧ s.fqtable = none

instance (o : Op) (s : Radio) : Decidable (TurnsOff o s) := by
  unfold TurnsOff
  infer_instance

/-- An access of a call, where hopping is turned off without a table only while
no hop is pending. -/
def execHop (o : Op) (m : Modem) : Option (Modem × o.Answer) :=
  if TurnsOff o m.radio ∧ m.radio.chip.flag irqFhssChangeChannel then none
  else execModem o m

theorem execHop_some {o : Op} {m m' : Modem} {b : o.Answer}
    (h : execHop o m = some (m', b)) :
    m'.isr = m.isr ∧ exec o m.radio = some (m'.radio, b) ∧
      (TurnsOff o m.radio -> ¬ m.radio.chip.flag irqFhssChangeChannel) := by
  unfold execHop at h
  split at h
  · cases h
  · rename_i hoff
    rcases execModem_some h with ⟨hisr, hexec⟩
    exact ⟨hisr, hexec, fun hturns hflag => hoff ⟨hturns, hflag⟩⟩

theorem During.access {P Q : Radio -> Prop} {o : Op} {m m' : Modem}
    {b : o.Answer} (h : During P m) (hexec : execHop o m = some (m', b))
    (hQ : forall s, P m.radio -> exec o m.radio = some (s, b) -> Q s) :
    During Q m' := by
  rcases execHop_some hexec with ⟨hisr, hradio, _⟩
  exact ⟨fun p hp => h.notHandling p (hisr ▸ hp), hQ _ h.radio hradio⟩

theorem During.mono {P Q : Radio -> Prop} {m : Modem} (h : During P m)
    (hPQ : forall s, P s -> Q s) : During Q m :=
  ⟨h.notHandling, hPQ _ h.radio⟩

theorem During.idle {m : Modem} (h : During Safe m) : HopIdle m := by
  constructor
  · intro p hp
    exact (h.notHandling p hp).mono (fun _ hreceive => hreceive.isrOp)
  · exact h.radio
  · intro p hp
    exact runsSafely_of_total
      ((h.notHandling p hp).mono (fun _ hreceive => hreceive.total)) _

/-!
## A call
-/

abbrev Leaves {α : Type} (c : HopCall) (post : α -> Modem -> Prop)
    (p : Prog α) (m : Modem) : Prop :=
  p.Ensures execHop (HopRely c) (fun _ _ => True) post m

theorem leaves_done {α : Type} {c : HopCall} {post : α -> Modem -> Prop}
    {P : Radio -> Prop} (hP : Steady P) {a : α} {m : Modem}
    (h : During P m) (hpost : forall m, During P m -> post a m) :
    Leaves c post (.done a) m :=
  Program.Ensures.done h (during_stable hP c none) hpost

/-- The rule for an access, with what holds in front of it and behind it. -/
theorem leaves_perform {α : Type} {c : HopCall} {post : α -> Modem -> Prop}
    {P : Radio -> Prop} (hP : Steady P) {o : Op}
    {next : o.Answer -> Prog α} {m : Modem} (h : During P m)
    (Q : o.Answer -> Radio -> Prop)
    (hexec : forall s s' b, P s -> exec o s = some (s', b) -> Q b s')
    (hnext : forall b m, During (Q b) m -> Leaves c post (next b) m) :
    Leaves c post (.perform o next) m := by
  apply Program.Ensures.perform h (during_stable hP c _) (fun _ _ => trivial)
  intro m m' b hm hb
  exact hnext b m' (hm.access hb (fun s => hexec _ s b))

theorem leaves_freeTable {c : HopCall} {post : Unit -> Modem -> Prop}
    {P : Chip -> Prop} (hP : Steady (fun s => P s.chip)) {m : Modem}
    (h : During (fun s => P s.chip) m)
    (hpost : forall m, During (fun s => P s.chip ∧ s.fqtable = none) m ->
      post () m) : Leaves c post freeTable m := by
  have hnone : Steady (fun s => P s.chip ∧ s.fqtable = none) :=
    fun s s' h hkept => ⟨hP s s' h.1 hkept, hkept.fqtable.trans h.2⟩
  apply leaves_perform hP h
    (fun table s => P s.chip ∧ s.fqtable = table)
  · intro s s' table hs hexec
    cases hexec
    exact ⟨hs, rfl⟩
  · intro table m hm
    cases table with
    | none => exact leaves_done hnone hm hpost
    | some table =>
        apply leaves_perform hP (hm.mono (fun _ h => h.1))
          (fun _ s => P s.chip)
        · intro s s' u hs hexec
          rw [(exec_effect hexec).chip]
          exact hs
        · intro _ m hm
          apply leaves_perform hP hm (fun _ s => P s.chip ∧ s.fqtable = none)
          · intro s s' u hs hexec
            cases hexec
            exact ⟨hs, rfl⟩
          · intro _ m hm
            exact leaves_done hnone hm hpost

def Silent (c : Chip) : Prop :=
  c.regs regHopPeriod = 0 ∧ ¬ c.flag irqFhssChangeChannel

theorem silent_steady : Steady (fun s => Silent s.chip) := by
  intro s s' h hkept
  constructor
  · exact hkept.hopPeriod.trans h.1
  · intro hflag
    rcases hkept.flag hflag with hbefore | hperiod
    · exact h.2 hbefore
    · exact hperiod h.1

theorem Silent.safe {s : Radio} (h : Silent s.chip) : Safe s := by
  intro hasks
  rcases hasks with hperiod | hflag
  · exact absurd h.1 hperiod
  · exact absurd hflag h.2

theorem TableReady.safe {s : Radio} (h : TableReady s) : Safe s :=
  fun _ => h

theorem ready_steady : Steady TableReady :=
  fun _ _ h hkept =>
    (ready_congr hkept.heap hkept.fqtable hkept.fqtableEntries).mpr h

abbrev EndsIdle (c : HopCall) (p : Prog Returned) (m : Modem) : Prop :=
  Leaves c (fun _ => HopIdle) p m

theorem endsIdle_off {c : HopCall} (hzero : c.hopsInt = 0) {m : Modem}
    (h : During (fun s => s.fqtable = none) m) :
    EndsIdle c c.behindFree m := by
  have hperiod : c.period = 0 := by
    unfold HopCall.period
    rw [hzero]
    rfl
  have hnone : Steady (fun s => s.fqtable = none) :=
    fun s s' h hkept => hkept.fqtable.trans h
  unfold HopCall.behindFree
  rw [if_pos hzero, hperiod]
  apply Program.Ensures.perform h (during_stable hnone c _)
    (fun _ _ => trivial)
  intro m m' u hm hexec
  rcases execHop_some hexec with ⟨hisr, hradio, hoff⟩
  have hsilent : During (fun s => Silent s.chip) m' := by
    refine ⟨fun p hp => hm.notHandling p (hisr ▸ hp), ?_, ?_⟩
    · rw [(exec_effect hradio).chip]
      exact Chip.write_regs_self _ (by decide)
    · intro hflag
      exact hoff ⟨rfl, hm.radio⟩ ((exec_effect hradio).flag hflag)
  exact leaves_done silent_steady hsilent
    (fun m hm => (hm.mono (fun _ h => h.safe)).idle)

structure Filling (n i : Nat) (s : Radio) : Prop where
  entries : s.fqtableEntries = UInt32.ofNat n
  length_le : forall es, s.block s.fqtable = some es -> es.length ≤ n
  stored : 0 < i -> exists es, s.block s.fqtable = some es ∧ i ≤ es.length

theorem filling_steady (n i : Nat) : Steady (Filling n i) := by
  intro s s' h hkept
  have hblock : s'.block s'.fqtable = s.block s.fqtable := by
    unfold Radio.block
    rw [hkept.heap, hkept.fqtable]
  constructor
  · exact hkept.fqtableEntries.trans h.entries
  · rw [hblock]
    exact h.length_le
  · rw [hblock]
    exact h.stored

theorem Filling.store {n i : Nat} {s s' : Radio} {x : Number} {u : Unit}
    (h : Filling n i s)
    (hexec : exec (.storeEntry s.fqtable i x) s = some (s', u)) :
    Filling n (i + 1) s' := by
  rcases storeEntry_some hexec with ⟨a, es, htable, hes, hi, heq⟩
  have hblock : s.block s.fqtable = some es := by
    rw [htable]
    exact hes
  have hblock' : s'.block s'.fqtable = some (es.set i ⟨x, true⟩) := by
    subst s'
    change (s.fqtable).bind (Function.update s.heap a _) = _
    rw [htable]
    exact Function.update_self _ _ _
  constructor
  · rw [heq]
    exact h.entries
  · intro es' hes'
    rw [hblock'] at hes'
    cases hes'
    rw [List.length_set]
    exact h.length_le es hblock
  · intro _
    exact ⟨_, hblock', by rw [List.length_set]; exact hi⟩

theorem Filling.ready {n : Nat} {s : Radio} (h : Filling n n s) (hn : 0 < n)
    (hlt : n < 2 ^ 32) : TableReady s := by
  rcases h.stored hn with ⟨es, hes, hle⟩
  have hlength := Nat.le_antisymm (h.length_le es hes) hle
  refine ⟨es, hes, ?_, ?_⟩
  · intro hnil
    rw [hnil] at hlength
    exact absurd hlength (Nat.ne_of_lt hn)
  · rw [h.entries, UInt32.toNat_ofNat_of_lt' hlt, hlength]

theorem leaves_storeElements {c : HopCall} {post : Bool -> Modem -> Prop}
    {n : Nat} {xs : List Number} {i : Nat} (hi : i + xs.length = n)
    {m : Modem} (h : During (Filling n i) m)
    (hpost : forall m, During (Filling n n) m -> post true m) :
    Leaves c post (storeElements i (xs.map Element.number)) m := by
  induction xs generalizing i m with
  | nil =>
      have heq : i = n := hi
      subst i
      exact leaves_done (filling_steady n n) h hpost
  | cons x rest ih =>
      have hnext : (i + 1) + rest.length = n := by
        rw [← hi, List.length_cons]
        lia
      apply leaves_perform (filling_steady n i) h
        (fun table s => Filling n i s ∧ s.fqtable = table)
      · intro s s' table hs hexec
        cases hexec
        exact ⟨hs, rfl⟩
      · intro table m hm
        apply leaves_perform _ hm (fun _ s => Filling n (i + 1) s)
        · intro s s' u hs hexec
          rw [← hs.2] at hexec
          exact hs.1.store hexec
        · intro _ m hm
          exact ih hnext hm
        · intro s s' h hkept
          exact ⟨filling_steady n i s s' h.1 hkept,
            hkept.fqtable.trans h.2⟩

theorem endsIdle_storeTable {c : HopCall} {xs : List Number}
    (hxs : c.elements = xs.map Element.number) (hne : xs ≠ []) {m : Modem}
    (h : During (fun _ => True) m) : EndsIdle c c.storeTable m := by
  have hlt : xs.length < 2 ^ 32 := by
    have hlength := c.length_elements
    rw [hxs, List.length_map] at hlength
    exact hlength
  unfold HopCall.storeTable
  rw [hxs, List.length_map]
  apply leaves_perform (fun _ _ _ _ => trivial) h
    (fun _ s => s.fqtableEntries = UInt32.ofNat xs.length)
  · intro s s' u _ hexec
    cases hexec
    rfl
  intro _ m hm
  apply leaves_perform _ hm (fun table s =>
    s.fqtableEntries = UInt32.ofNat xs.length ∧
      forall es, s.block table = some es -> es.length ≤ xs.length)
  · intro s s' table hs hexec
    constructor
    · exact ((exec_effect hexec).fqtableEntries (by simp)).trans hs
    · intro es hes
      cases table with
      | none => cases hes
      | some a =>
          rcases malloc_some hexec with ⟨es', hes', hsize⟩
          cases hes.symm.trans hes'
          exact length_le_of_size hsize hlt
  · intro table m hm
    apply leaves_perform _ hm (fun _ s => Filling xs.length 0 s)
    · intro s s' u hs hexec
      cases hexec
      exact ⟨hs.1, hs.2, fun hpos => absurd hpos (Nat.lt_irrefl 0)⟩
    · intro _ m hm
      apply Program.Ensures.bind
      apply leaves_storeElements (Nat.zero_add _) hm
      intro m hm
      have hready := hm.mono (fun _ hfilled =>
        hfilled.ready (List.length_pos_iff.mpr hne) hlt)
      apply leaves_perform ready_steady hready (fun _ s => TableReady s)
      · intro s s' u hs hexec
        cases hexec
        exact hs
      · intro _ m hm
        exact leaves_done ready_steady hm
          (fun m hm => (hm.mono (fun _ h => h.safe)).idle)
    · intro s s' h hkept
      refine ⟨hkept.fqtableEntries.trans h.1, fun es hes => h.2 es ?_⟩
      unfold Radio.block at hes
      rw [hkept.heap] at hes
      exact hes
  · exact fun s s' h hkept => hkept.fqtableEntries.trans h

theorem endsIdle_refused {c : HopCall} (hon : c.hopsInt ≠ 0)
    (hempty : c.elements = []) {m : Modem}
    (h : During (fun s => Silent s.chip) m) :
    EndsIdle c c.behindFree m := by
  unfold HopCall.behindFree
  rw [if_neg hon, if_pos hempty]
  exact leaves_done silent_steady h
    (fun m hm => (hm.mono (fun _ h => h.safe)).idle)

/-- Every element is there, and none throws. -/
def HopCall.AllNumbers (c : HopCall) : Prop :=
  c.hopsInt ≠ 0 -> Element.missing ∉ c.elements ∧ Element.throws ∉ c.elements

theorem endsIdle_call {c : HopCall} {m : Modem} (h : HopIdle m)
    (hnot : m.NotHandling) (hfits : c.Fits m.radio) (hnumbers : c.AllNumbers) :
    EndsIdle c c.program m := by
  rw [HopCall.program_eq]
  apply Program.Ensures.bind
  rcases Classical.em (c.hopsInt = 0) with hzero | hon
  · apply leaves_freeTable (P := fun _ => True) (fun _ _ _ _ => trivial)
      ⟨hnot, trivial⟩
    intro m hm
    exact endsIdle_off hzero (hm.mono (fun _ h => h.2))
  · unfold HopCall.Fits at hfits
    rw [if_neg hon] at hfits
    rcases Classical.em (c.elements = []) with hempty | hsome
    · rw [if_pos hempty] at hfits
      have hsilent : Silent m.radio.chip := by
        constructor
        · exact hfits.2
        · intro hflag
          rcases h.safe (.inr hflag) with ⟨es, hes, _⟩
          rw [hfits.1] at hes
          cases hes
      apply leaves_freeTable silent_steady ⟨hnot, hsilent⟩
      intro m hm
      exact endsIdle_refused hon hempty (hm.mono (fun _ h => h.1))
    · rcases hnumbers hon with ⟨hmissing, hthrows⟩
      rcases exists_numbers hmissing hthrows with ⟨xs, hxs⟩
      apply leaves_freeTable (P := fun _ => True) (fun _ _ _ _ => trivial)
        ⟨hnot, trivial⟩
      intro m hm
      unfold HopCall.behindFree
      rw [if_neg hon, if_neg hsome]
      apply endsIdle_storeTable hxs _ (hm.mono (fun _ _ => trivial))
      intro hnil
      rw [hnil] at hxs
      exact hsome hxs

/-!
## Runs
-/

/-- Calls fit and do not overlap the reads of the table by a round, hopping is
turned off without a table only while no hop is pending, and the chip asks for a
hop only while hopping is on. -/
def HopCallCondition : Action HopCall -> System HopCall -> Prop
  | .call c, s =>
      c.Fits s.modem.radio ∧ c.AllNumbers ∧ s.modem.NotHandling
  | .app, s =>
      forall c o next, s.app = some ⟨c, .perform o next⟩ ->
        TurnsOff o s.modem.radio ->
        ¬ s.modem.radio.chip.flag irqFhssChangeChannel
  | .event .isr, s => s.modem.isr = none -> s.app = none
  | .event (.changeChannel _), s => s.modem.radio.chip.regs regHopPeriod ≠ 0
  | .event _, _ => True

theorem Safe.kept {s s' : Radio} (h : Safe s) (hkept : HopKept s s') :
    Safe s' := by
  intro hasks
  apply (ready_congr hkept.heap hkept.fqtable hkept.fqtableEntries).mpr
  apply h
  rcases hasks with hperiod | hflag
  · rw [hkept.hopPeriod] at hperiod
    exact .inl hperiod
  · exact (hkept.flag hflag).symm

theorem HopIdle.hopMoves {m : Modem} {radio : Radio} (h : HopIdle m)
    (hmoves : HopMoves m.radio radio) : HopIdle { m with radio := radio } :=
  ⟨h.isrOnly, h.safe.hopMoves hmoves,
    fun p hp => (h.round p hp).interfered hmoves⟩

theorem HopIdle.step {m m' : Modem} {e : Event} (h : HopIdle m)
    (hasks : forall hop, e = .changeChannel hop ->
      m.radio.chip.regs regHopPeriod ≠ 0)
    (hstep : m.step e = some m') : HopIdle m' := by
  have hmoves := Modem.step_moves hstep
  have honly := Modem.isrOnly_moves h.isrOnly hmoves
  cases hmoves with
  | @take radio cmd rest hqueue =>
      have hsafe : Safe { radio with isrRecvQueue := rest } := h.safe
      refine ⟨honly, hsafe, fun p hp => ?_⟩
      cases hp
      exact runsSafely_isrRecvRound hsafe
  | finish =>
      refine ⟨honly, h.safe, fun p hp => ?_⟩
      cases hp
  | access hexec =>
      refine ⟨honly, h.safe.kept ((h.isrOnly _ rfl).1.kept hexec),
        fun p hp => ?_⟩
      cases hp
      exact (h.round _ rfl).step hexec
  | rxDone rx => exact h.hopMoves (.inl ⟨rx, rfl⟩)
  | changeChannel hop =>
      exact h.hopMoves (.inr (.inl ⟨hop, hasks hop rfl, rfl⟩))
  | transmitted htx => exact h.hopMoves (.inr (.inr rfl))

theorem HopCallCondition.asks {e : Event} {s : System HopCall}
    (h : HopCallCondition (.event e) s) (hop : UInt8)
    (heq : e = .changeChannel hop) :
    s.modem.radio.chip.regs regHopPeriod ≠ 0 := by
  subst e
  exact h

theorem hopIdle_follows_step (a : Action HopCall) (s s' : System HopCall)
    (h : s.Follows HopIdle execHop HopRely) (hcond : HopCallCondition a s)
    (hstep : System.step HopCall.program a s = some s') :
    s'.Follows HopIdle execHop HopRely := by
  refine System.follows_step ?_ ?_ ?_ ?_ a s s' h hcond hstep
  · intro c s hidle hcond
    exact endsIdle_call hidle hcond.2.2 hcond.1 hcond.2.1
  · intro e s m' _ hidle hcond hstep
    exact hidle.step hcond.asks hstep
  · intro c o next s m' b happ hcond hexec
    unfold execHop
    rw [if_neg]
    · exact hexec
    · exact fun hoff => hcond c o next happ hoff.1 hoff.2
  · intro c rest e s m' happ hcond hstep
    refine ⟨e, Modem.step_moves hstep, ?_, hcond.asks⟩
    intro heq hnone
    subst e
    have hidle := hcond hnone
    rw [happ] at hidle
    cases hidle

structure HopsOff (s : System HopCall) : Prop where
  app : s.app = none
  isr : s.modem.isr = none
  fqtable : s.modem.radio.fqtable = none
  silent : Silent s.modem.radio.chip

theorem HopsOff.follows {s : System HopCall} (h : HopsOff s) :
    s.Follows HopIdle execHop HopRely := by
  have hround : forall p, s.modem.isr ≠ some p := by
    intro p hp
    rw [h.isr] at hp
    cases hp
  unfold System.Follows
  rw [h.app]
  exact ⟨fun p hp => absurd hp (hround p), h.silent.safe,
    fun p hp => absurd hp (hround p)⟩

/-- While a call is under way, no round reads the table. -/
def CallsApart (s : System HopCall) : Prop :=
  s.app ≠ none -> s.modem.NotHandling

theorem CallsApart.step (a : Action HopCall) (s s' : System HopCall)
    (h : CallsApart s) (hcond : HopCallCondition a s)
    (hstep : System.step HopCall.program a s = some s') : CallsApart s' := by
  intro hcalling
  cases System.step_moves hstep with
  | call c => exact hcond.2.2
  | returned => exact absurd rfl hcalling
  | access hexec => exact h (Option.some_ne_none _)
  | @event modem modem' app e he =>
      have hrely : HopRely ⟨.nan, none, none⟩ none modem modem' := by
        refine ⟨e, Modem.step_moves he, ?_, hcond.asks⟩
        intro heq hnone
        subst e
        exact hcalling (hcond hnone)
      exact (hrely.kept (h hcalling)).1

/-- In every sequence of calls, all keep the contract exactly if all fit.  Among
events, calls under the condition leave a safe table behind, and every access of
a round has a meaning. -/
theorem table_backs_hops {calls : List HopCall} {s s' : HopState}
    (hcalls : runAll HopState.step calls s = some s') :
    (EveryStep HopState.step HopCall.Keeps calls s ↔
      EveryStep HopState.step (fun c s => c.Fits s.radio) calls s) ∧
    forall (actions : List (Action HopCall)) (t t' : System HopCall),
      HopsOff t ->
      EveryStep (System.step HopCall.program) HopCallCondition actions t ->
      runAll (System.step HopCall.program) actions t = some t' ->
        (t'.app = none -> Safe t'.modem.radio) ∧
          forall o next, t'.modem.isr = some (.perform o next) ->
            (exec o t'.modem.radio).isSome := by
  constructor
  · exact all_keep_iff_all_fit hcalls
  · intro actions s s' hstart hcond hrun
    have hfollows := hcond.invariant hopIdle_follows_step hstart.follows hrun
    have hapart := hcond.invariant CallsApart.step
      (fun hcalling => absurd hstart.app hcalling) hrun
    unfold System.Follows at hfollows
    cases happ : s'.app with
    | none =>
        rw [happ] at hfollows
        constructor
        · exact fun _ => hfollows.safe
        · intro o next hisr
          exact (hfollows.round _ hisr).allowed
    | some running =>
        constructor
        · exact fun hnone => absurd hnone (by simp)
        · intro o next hisr
          have hround := hapart (by rw [happ]; simp) _ hisr
          exact hround.1.total _

def hopsWithoutArray : HopCall where
  hops := .finite 5
  hopfreqs := none
  block := none

/-- A call that is refused while hopping is on: the table is gone, the register
is not, and the next hop is looked up in no table. -/
theorem table_freed_by_refusal : exists mid s',
    HopState.call hopsOn905 ⟨enabledRadio, []⟩ = some (mid, .boolean true) ∧
      mid.call hopsWithoutArray = some (s', .boolean false) ∧
      ¬ s'.Backed ∧ ¬ SameTable mid.radio s'.radio ∧
      isrRecvRound.run exec (s'.radio.changeChannel 1) = none := by
  have hcalls : (HopState.call hopsOn905 ⟨enabledRadio, []⟩).bind (fun p =>
      (p.1.call hopsWithoutArray).map (fun q =>
        (p.2, p.1.radio.fqtable, q.2, q.1.radio.fqtable.isNone &&
          decide (q.1.radio.chip.regs regHopPeriod ≠ 0) &&
          (isrRecvRound.run exec (q.1.radio.changeChannel 1)).isNone))) =
      some (.boolean true, some 0, .boolean false, true) := by
    decide
  rcases Option.bind_eq_some_iff.mp hcalls with ⟨⟨mid, r⟩, hfirst, hsecond⟩
  rcases Option.map_eq_some_iff.mp hsecond with ⟨⟨s', r'⟩, hcall, hobserved⟩
  simp only [Prod.mk.injEq, Bool.and_eq_true, decide_eq_true_eq,
    Option.isNone_iff_eq_none] at hobserved
  rcases hobserved with ⟨hr, hmid, hr', ⟨hnone, hperiod⟩, hround⟩
  subst r r'
  refine ⟨mid, s', hfirst, hcall, ?_, ?_, hround⟩
  · intro hbacked
    rcases hbacked hperiod with ⟨es, hes, _⟩
    rw [hnone] at hes
    cases hes
  · intro hsame
    have hfq := hsame.fqtable
    rw [hmid, hnone] at hfq
    cases hfq

def HopCallCheck : Action HopCall -> System HopCall -> Bool
  | .call c, s =>
      c.hopsInt ≠ 0 && c.elements ≠ [] && !c.elements.contains .missing &&
        !c.elements.contains .throws && s.modem.isr.isNone
  | .app, s => decide (¬ s.modem.radio.chip.flag irqFhssChangeChannel)
  | .event .isr, s => s.app.isNone
  | .event (.changeChannel _), s =>
      s.modem.radio.chip.regs regHopPeriod ≠ 0
  | .event _, _ => true

theorem HopCallCheck.condition (a : Action HopCall) (s : System HopCall)
    (h : HopCallCheck a s = true) : HopCallCondition a s := by
  cases a with
  | call c =>
      simp only [HopCallCheck, Bool.and_eq_true, decide_eq_true_eq,
        Bool.not_eq_true', List.contains_eq_mem, decide_eq_false_iff_not,
        Option.isNone_iff_eq_none] at h
      rcases h with ⟨⟨⟨⟨hon, hsome⟩, hmissing⟩, hthrows⟩, hisr⟩
      refine ⟨?_, fun _ => ⟨hmissing, hthrows⟩, fun p hp => ?_⟩
      · unfold HopCall.Fits
        rw [if_neg hon, if_neg hsome]
        exact .inr (.inr hmissing)
      · rw [hisr] at hp
        cases hp
  | app => exact fun c o next _ _ => of_decide_eq_true h
  | event e =>
      cases e with
      | isr => exact fun _ => Option.isNone_iff_eq_none.mp h
      | changeChannel hop =>
          have hperiod : s.modem.radio.chip.regs regHopPeriod ≠ 0 :=
            of_decide_eq_true h
          exact hperiod
      | rxDone rx => trivial
      | transmitted => trivial

def hopBehindCall : List (Action HopCall) :=
  .call hopsOn905 :: List.replicate 8 .app ++
    .event (.changeChannel 1) :: List.replicate 5 (.event .isr)

theorem table_backs_hops_905 :
    EveryStep HopState.step HopCall.Keeps [hopsOn905] ⟨enabledRadio, []⟩ ∧
    exists s' o next,
      runAll (System.step HopCall.program) hopBehindCall
        ⟨⟨enabledRadio, none⟩, none⟩ = some s' ∧
        s'.modem.isr = some (.perform o next) ∧
        (exec o s'.modem.radio).isSome ∧ Safe s'.modem.radio := by
  have hcalled :
      (runAll HopState.step [hopsOn905] ⟨enabledRadio, []⟩).isSome := by
    decide
  rcases Option.isSome_iff_exists.mp hcalled with ⟨s, hcalls⟩
  have hkept := table_backs_hops hcalls
  have hfits : hopsOn905.Fits enabledRadio := by
    unfold HopCall.Fits
    decide
  constructor
  · exact hkept.1.mpr ⟨hfits, fun _ _ => trivial⟩
  · have hrun : (runAll (System.step HopCall.program) hopBehindCall
        ⟨⟨enabledRadio, none⟩, none⟩).map
        (fun s => (s.app.isNone, s.modem.isr.bind Program.next?)) =
        some (true, some (.loadEntry (some 0) 0)) := by
      decide
    have hcheck : EveryStep (System.step HopCall.program)
        (fun a s => HopCallCheck a s = true) hopBehindCall
        ⟨⟨enabledRadio, none⟩, none⟩ := by
      decide
    rcases Option.map_eq_some_iff.mp hrun with ⟨s', hs', hobserved⟩
    simp only [Prod.mk.injEq, Option.isNone_iff_eq_none,
      Option.bind_eq_some_iff] at hobserved
    rcases hobserved with ⟨happ, p, hp, hnext⟩
    rcases Program.next?_eq_some hnext with ⟨next, heq⟩
    subst p
    have hsafe := hkept.2 hopBehindCall _ s'
      ⟨rfl, rfl, rfl, rfl, by decide⟩ (hcheck.mono HopCallCheck.condition) hs'
    exact ⟨s', _, next, hs', hp, hsafe.2 _ next hp, hsafe.1 happ⟩

end LoRa
end Fluxnode
