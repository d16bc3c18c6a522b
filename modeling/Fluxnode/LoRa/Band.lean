import Fluxnode.LoRa.HopHandling
import Fluxnode.LoRa.HoppingTable

/-!
# The band

`set_freq` looks at its frequency, with comparisons that are false for `NaN`;
`set_hopping` stores any number, and the task tunes to what it finds in the
table.  The radio stays in the band as long as the stored numbers are in it.
-/

namespace Fluxnode
namespace LoRa

open Foundation
open Js (Number)

/-- 902 to 928 MHz. -/
def InBand : Number -> Prop
  | .finite q => 902 ≤ q ∧ q ≤ 928
  | _ => False

instance (x : Number) : Decidable (InBand x) := by
  unfold InBand
  split <;> infer_instance

/-!
## Calls
-/

inductive BandCall where
  | setFrequency (freq : Number)
  | setHopping (c : HopCall)

def BandCall.program : BandCall -> Prog Returned
  | .setFrequency freq => setFreq freq
  | .setHopping c => c.program

/-- The elements that a call stores: those in front of one that throws. -/
def HopCall.storedElements (c : HopCall) : List Element :=
  if c.hopsInt = 0 then []
  else c.elements.takeWhile (fun e => e ≠ .throws)

def Element.InBand : Element -> Prop
  | .number x => LoRa.InBand x
  | _ => True

def Modem.nextLoad (m : Modem) : Option Entry :=
  match m.isr with
  | some (.perform (.loadEntry table i) _) =>
      (m.radio.block table).bind (fun es => es[i]?)
  | _ => none

/-- A load from a block that was freed, or from behind the end of one, finds no
entry.  The code goes on with the number that it reads there. -/
def Modem.strayLoad (x : Number) (m : Modem) : Option Modem :=
  match m.isr, m.nextLoad with
  | some (.perform (.loadEntry (some _) _) next), none =>
      some { m with isr := some (next x) }
  | _, _ => none

inductive BandAction where
  | system (a : Action BandCall)
  /-- The next access of `isr_recv_task` reads a number where no entry is. -/
  | strayLoad (x : Number)

def bandStep : BandAction -> System BandCall -> Option (System BandCall)
  | .system a, s => System.step BandCall.program a s
  | .strayLoad x, s =>
      (s.modem.strayLoad x).map (fun modem => { s with modem := modem })

/-- `setFrequency` is not called with `NaN`, the elements that a round can reach
are in the band, and so is memory that a round reads where no element was
written, or where the table is not any more. -/
def BandCondition : BandAction -> System BandCall -> Prop
  | .system (.call (.setFrequency freq)), _ => freq ≠ .nan
  | .system (.call (.setHopping c)), _ =>
      forall e, e ∈ c.storedElements.take 64 -> e.InBand
  | .system (.event .isr), s =>
      forall e, s.modem.nextLoad = some e -> e.stored = false -> InBand e.value
  | .strayLoad x, _ => InBand x
  | _, _ => True

/-!
## The accesses of calls and rounds
-/

def CallBandOp : Op -> Prop
  | .setFrequency frequency => InBand frequency
  | .storeEntry _ i x => i < 64 -> InBand x
  | .loadEntry _ _ => False
  | _ => True

/-- What is tuned to is in the band, and loads are from the elements that a
round can reach. -/
def RoundBandOp : Op -> Prop
  | .setFrequency frequency => InBand frequency
  | .storeEntry _ _ _ => False
  | .loadEntry _ i => i < 64
  | _ => True

def FindsInBand : (o : Op) -> o.Answer -> Prop
  | .loadEntry _ _, x => InBand x
  | _, _ => True

theorem inBand_of_accepted {freq : Number} (hnan : freq ≠ .nan)
    (h : (!(freq.less (.finite 902) || (Number.finite 928).less freq)) = true) :
    InBand freq := by
  cases freq with
  | nan => exact absurd rfl hnan
  | infinity negative => cases negative <;> cases h
  | finite q =>
      simp only [Number.less, Bool.not_eq_true', Bool.or_eq_false_iff,
        decide_eq_false_iff_not, not_lt] at h
      exact h

theorem loraSetFrequency_band {ok : Op -> Prop} {frequency : Number}
    (htune : ok (.setFrequency frequency))
    (hwrite : forall reg val, ok (.writeReg reg val)) :
    (loraSetFrequency frequency).All ok :=
  ⟨htune, fun _ => ⟨hwrite _ _, fun _ => ⟨hwrite _ _, fun _ =>
    ⟨hwrite _ _, fun _ => trivial⟩⟩⟩⟩

theorem setFreq_band {freq : Number} (hnan : freq ≠ .nan) :
    (setFreq freq).All CallBandOp := by
  unfold setFreq settingIf
  split
  · rename_i haccepted
    apply (loraSetFrequency_band (inBand_of_accepted hnan haccepted)
      (fun _ _ => trivial)).bind
    exact fun _ => trivial
  · trivial

theorem freeTable_band : freeTable.All CallBandOp := by
  constructor
  · exact trivial
  · intro table
    cases table with
    | none => trivial
    | some table => exact ⟨trivial, fun _ => ⟨trivial, fun _ => trivial⟩⟩

theorem mem_take_cons {a e : Element} {rest : List Element} {i : Nat}
    (h : e ∈ rest.take (64 - (i + 1))) : e ∈ (a :: rest).take (64 - i) := by
  rcases Nat.lt_or_ge i 64 with hlt | hge
  · have hsucc : 64 - i = (64 - (i + 1)) + 1 := by lia
    rw [hsucc, List.take_succ_cons]
    exact .tail a h
  · have hzero : 64 - (i + 1) = 0 := by lia
    rw [hzero] at h
    cases h

theorem storeElements_band {elements : List Element} {i : Nat}
    (h : forall e,
      e ∈ (elements.takeWhile (fun e => e ≠ .throws)).take (64 - i) ->
        e.InBand) : (storeElements i elements).All CallBandOp := by
  induction elements generalizing i with
  | nil => trivial
  | cons e rest ih =>
      cases e with
      | number x =>
          rw [List.takeWhile_cons_of_pos (by simp)] at h
          have hx : CallBandOp (.storeEntry none i x) := by
            intro hlt
            have hsucc : 64 - i = (64 - (i + 1)) + 1 := by lia
            apply h (.number x)
            rw [hsucc, List.take_succ_cons]
            exact .head _
          exact ⟨trivial, fun table => ⟨hx, fun _ =>
            ih (fun e he => h e (mem_take_cons he))⟩⟩
      | missing =>
          rw [List.takeWhile_cons_of_pos (by simp)] at h
          exact ih (fun e he => h e (mem_take_cons he))
      | throws => trivial

theorem setHopping_band {c : HopCall}
    (h : forall e, e ∈ c.storedElements.take 64 -> e.InBand) :
    c.program.All CallBandOp := by
  rw [HopCall.program_eq]
  apply freeTable_band.bind
  intro _
  unfold HopCall.behindFree
  unfold HopCall.storedElements at h
  split_ifs at h ⊢ with hzero hempty
  · exact ⟨trivial, fun _ => trivial⟩
  · trivial
  · refine ⟨trivial, fun _ => ⟨trivial, fun table => ⟨trivial, fun _ => ?_⟩⟩⟩
    apply (storeElements_band h).bind
    intro stored
    cases stored with
    | true => exact ⟨trivial, fun _ => trivial⟩
    | false => trivial

theorem hopIndex_lt (hop : UInt8) (size : Int32) : hopIndex hop size < 64 := by
  unfold hopIndex
  have hle : (hop &&& 0x3f).toNat ≤ 63 := by
    rw [UInt8.toNat_and]
    exact Nat.and_le_right
  exact Nat.lt_of_le_of_lt (Nat.mod_le _ _) (Nat.lt_succ_of_le hle)

theorem PacketOp.roundBand {o : Op} (h : PacketOp o) : RoundBandOp o := by
  cases o <;> first | exact h.elim | trivial

theorem receiveRound_band : receiveRound.All RoundBandOp := by
  rw [receiveRound_eq]
  exact ⟨trivial, fun irq => ⟨trivial, fun _ =>
    (receiveRest_all irq).mono (fun _ h => h.roundBand)⟩⟩

theorem hopTo_band (table : Option Addr) (size : Int32) (hop : UInt8) :
    (hopTo table size hop).AllGiven RoundBandOp FindsInBand := by
  constructor
  · exact hopIndex_lt hop size
  · intro frequency hfound
    have htune : (loraSetFrequency frequency).All RoundBandOp :=
      loraSetFrequency_band hfound (fun _ _ => trivial)
    have hclear : (Program.perform (.writeReg regIrqFlags irqFhssChangeChannel)
        (fun _ => .done true) : Prog Bool).All RoundBandOp :=
      ⟨trivial, fun _ => trivial⟩
    exact (htune.bind (fun _ => hclear)).given

theorem isrRecvRound_band :
    isrRecvRound.AllGiven RoundBandOp FindsInBand := by
  rw [isrRecvRound_eq]
  refine ⟨trivial, fun table _ => ⟨trivial, fun entries _ => ?_⟩⟩
  apply Program.AllGiven.bind
  · rw [loraFhssHandle_eq]
    constructor
    · exact trivial
    · intro irq _
      beta_reduce
      split
      · trivial
      · constructor
        · exact trivial
        · intro hop _
          beta_reduce
          split
          · exact ⟨trivial, fun _ _ => hopTo_band _ _ _⟩
          · exact hopTo_band _ _ _
  · intro handled
    cases handled with
    | false => exact receiveRound_band.given
    | true => trivial

/-!
## The radio
-/

def BlockInBand (es : List Entry) : Prop :=
  forall i e, es[i]? = some e -> i < 64 -> e.stored = true -> InBand e.value

structure BandKept (s : Radio) : Prop where
  tuned : forall x, x ∈ s.tuned -> InBand x
  stored : forall a es, s.heap a = some es -> BlockInBand es

theorem blockInBand_unwritten (old : List Number) :
    BlockInBand (old.map (fun x => ⟨x, false⟩)) := by
  intro i e he _ hstored
  rw [List.getElem?_map] at he
  rcases Option.map_eq_some_iff.mp he with ⟨x, _, heq⟩
  subst e
  cases hstored

theorem BlockInBand.set {es : List Entry} (h : BlockInBand es) {i : Nat}
    {x : Number} (hx : i < 64 -> InBand x) :
    BlockInBand (es.set i ⟨x, true⟩) := by
  intro j e he hj hstored
  rcases eq_or_ne i j with heq | hne
  · subst j
    rw [List.getElem?_set_self'] at he
    rcases Option.map_eq_some_iff.mp he with ⟨_, _, heq⟩
    subst e
    exact hx hj
  · rw [List.getElem?_set_ne hne] at he
    exact h j e he hj hstored

theorem stored_setBlock {s : Radio} {a : Addr} {block : Option (List Entry)}
    (h : forall a es, s.heap a = some es -> BlockInBand es)
    (hblock : forall es, block = some es -> BlockInBand es) (a' : Addr)
    (es : List Entry) (hes : (s.setBlock a block).heap a' = some es) :
    BlockInBand es := by
  rw [Radio.setBlock_heap] at hes
  rcases eq_or_ne a' a with heq | hne
  · subst a'
    rw [Function.update_self] at hes
    exact hblock es hes
  · rw [Function.update_of_ne hne] at hes
    exact h a' es hes

theorem BandKept.heap {o : Op} {s s' : Radio} {b : o.Answer}
    (h : BandKept s)
    (hstore : forall table i x, o = .storeEntry table i x -> i < 64 -> InBand x)
    (hexec : exec o s = some (s', b)) (a : Addr) (es : List Entry)
    (hes : s'.heap a = some es) : BlockInBand es := by
  rcases Classical.em o.OnHeap with hheap | hnot
  · cases o with
    | malloc size block =>
        cases block with
        | none =>
            cases hexec
            exact h.stored a es hes
        | some block =>
            simp only [exec, Option.ite_none_right_eq_some] at hexec
            cases hexec.2
            apply stored_setBlock h.stored _ a es hes
            intro es heq
            cases heq
            exact blockInBand_unwritten block.2
    | free table =>
        simp only [exec, Option.ite_none_right_eq_some] at hexec
        cases hexec.2
        apply stored_setBlock h.stored _ a es hes
        intro es heq
        cases heq
    | storeEntry table i x =>
        rcases storeEntry_some hexec with ⟨a', es', _, hes', _, heq⟩
        subst s'
        apply stored_setBlock h.stored _ a es hes
        intro es heq
        cases heq
        exact (h.stored a' es' hes').set (hstore table i x rfl)
    | _ => exact hheap.elim
  · rw [(exec_effect hexec).heap hnot] at hes
    exact h.stored a es hes

theorem BandKept.access {o : Op} {s s' : Radio} {b : o.Answer}
    (h : BandKept s) (htune : forall x, o = .setFrequency x -> InBand x)
    (hstore : forall table i x, o = .storeEntry table i x -> i < 64 -> InBand x)
    (hexec : exec o s = some (s', b)) : BandKept s' := by
  refine ⟨?_, h.heap hstore hexec⟩
  rcases Classical.em (exists x, o = .setFrequency x) with ⟨x, heq⟩ | hne
  · subst o
    cases hexec
    intro y hy
    rcases List.mem_append.mp hy with hold | hnew
    · exact h.tuned y hold
    · rw [List.mem_singleton.mp hnew]
      exact htune x rfl
  · rw [(exec_effect hexec).tuned (fun x heq => hne ⟨x, heq⟩)]
    exact h.tuned

theorem CallBandOp.access {o : Op} {s s' : Radio} {b : o.Answer}
    (h : CallBandOp o) (hs : BandKept s) (hexec : exec o s = some (s', b)) :
    BandKept s' := by
  apply hs.access _ _ hexec
  · intro x heq
    subst o
    exact h
  · intro table i x heq
    subst o
    exact h

theorem RoundBandOp.access {o : Op} {s s' : Radio} {b : o.Answer}
    (h : RoundBandOp o) (hs : BandKept s) (hexec : exec o s = some (s', b)) :
    BandKept s' := by
  apply hs.access _ _ hexec
  · intro x heq
    subst o
    exact h
  · intro table i x heq
    subst o
    exact h.elim

theorem finds_of_nextLoad {o : Op} {next : o.Answer -> Prog Unit}
    {s s' : Radio} {b : o.Answer} (hs : BandKept s) (h : RoundBandOp o)
    (hload : forall e, Modem.nextLoad ⟨s, some (.perform o next)⟩ = some e ->
      e.stored = false -> InBand e.value)
    (hexec : exec o s = some (s', b)) : FindsInBand o b := by
  cases o with
  | loadEntry table i =>
      simp only [exec] at hexec
      split at hexec
      · cases hexec
      · rename_i e hentry
        cases hexec
        cases hstored : e.stored with
        | false => exact hload e hentry hstored
        | true =>
            rcases Option.bind_eq_some_iff.mp hentry with ⟨es, hblock, hes⟩
            rcases Option.bind_eq_some_iff.mp hblock with ⟨a, _, ha⟩
            exact hs.stored a es ha i e hes h hstored
  | _ => trivial

theorem BandKept.chipMoves {s s' : Radio} (h : BandKept s)
    (hmoves : ChipMoves s s') : BandKept s' := by
  have hraised := hmoves.raised
  constructor
  · rw [hraised.tuned]
    exact h.tuned
  · rw [hraised.heap]
    exact h.stored

/-!
## Runs
-/

structure InBandModem (m : Modem) : Prop where
  radio : BandKept m.radio
  isr : forall p, m.isr = some p -> p.AllGiven RoundBandOp FindsInBand

theorem InBandModem.step {e : Event} {m m' : Modem} (h : InBandModem m)
    (hload : e = .isr -> forall entry, m.nextLoad = some entry ->
      entry.stored = false -> InBand entry.value)
    (hstep : m.step e = some m') : InBandModem m' := by
  cases Modem.step_moves hstep with
  | take hqueue =>
      constructor
      · exact ⟨h.radio.tuned, h.radio.stored⟩
      · intro p hp
        cases hp
        exact isrRecvRound_band
  | finish =>
      constructor
      · exact h.radio
      · intro p hp
        cases hp
  | access hexec =>
      have hround := h.isr _ rfl
      constructor
      · exact hround.1.access h.radio hexec
      · intro p hp
        cases hp
        exact hround.2 _ (finds_of_nextLoad h.radio hround.1 (hload rfl) hexec)
  | rxDone rx => exact ⟨h.radio.chipMoves (.inl ⟨rx, rfl⟩), h.isr⟩
  | changeChannel hop =>
      exact ⟨h.radio.chipMoves (.inr (.inl ⟨hop, rfl⟩)), h.isr⟩
  | transmitted htx => exact ⟨h.radio.chipMoves (.inr (.inr rfl)), h.isr⟩

theorem InBandModem.strayLoad {x : Number} {m m' : Modem}
    (h : InBandModem m) (hx : InBand x) (hstep : m.strayLoad x = some m') :
    InBandModem m' := by
  unfold Modem.strayLoad at hstep
  split at hstep
  · rename_i a i next hisr _
    cases hstep
    constructor
    · exact h.radio
    · intro p hp
      cases hp
      exact (h.isr _ hisr).2 x hx
  · cases hstep

structure InBandSystem (s : System BandCall) : Prop where
  modem : InBandModem s.modem
  app : forall c rest, s.app = some ⟨c, rest⟩ -> rest.All CallBandOp

theorem InBandSystem.system {a : Action BandCall} {s s' : System BandCall}
    (h : InBandSystem s) (hcond : BandCondition (.system a) s)
    (hstep : System.step BandCall.program a s = some s') :
    InBandSystem s' := by
  cases System.step_moves hstep with
  | call c =>
      constructor
      · exact h.modem
      · intro c' rest heq
        cases heq
        cases c with
        | setFrequency freq => exact setFreq_band hcond
        | setHopping c => exact setHopping_band hcond
  | returned =>
      constructor
      · exact h.modem
      · intro c rest heq
        cases heq
  | access hexec =>
      have hall := h.app _ _ rfl
      constructor
      · exact ⟨hall.1.access h.modem.radio hexec, h.modem.isr⟩
      · intro c rest heq
        cases heq
        exact hall.2 _
  | event he =>
      constructor
      · apply h.modem.step _ he
        intro heq
        subst heq
        exact hcond
      · exact h.app

theorem InBandSystem.step (a : BandAction) (s s' : System BandCall)
    (h : InBandSystem s) (hcond : BandCondition a s)
    (hstep : bandStep a s = some s') : InBandSystem s' := by
  cases a with
  | system a => exact h.system hcond hstep
  | strayLoad x =>
      rcases Option.map_eq_some_iff.mp hstep with ⟨modem, hmodem, rfl⟩
      exact ⟨h.modem.strayLoad hcond hmodem, h.app⟩

/-- Before the first call: no table was stored and nothing was tuned to. -/
structure Untuned (s : System BandCall) : Prop where
  app : s.app = none
  isr : s.modem.isr = none
  fqtable : s.modem.radio.fqtable = none
  heap : forall a, s.modem.radio.heap a = none
  tuned : s.modem.radio.tuned = []

theorem Untuned.inBand {s : System BandCall} (h : Untuned s) :
    InBandSystem s := by
  refine ⟨⟨⟨?_, ?_⟩, ?_⟩, ?_⟩
  · intro x hx
    rw [h.tuned] at hx
    cases hx
  · intro a es hes
    rw [h.heap] at hes
    cases hes
  · intro p hp
    rw [h.isr] at hp
    cases hp
  · intro c rest heq
    rw [h.app] at heq
    cases heq

/-- In every run under the condition, whatever channels the chip asks for, the
radio is tuned to frequencies in the band only. -/
theorem tuned_in_band {s s' : System BandCall} {actions : List BandAction}
    (hstart : Untuned s) (hcond : EveryStep bandStep BandCondition actions s)
    (hrun : runAll bandStep actions s = some s') :
    forall x, x ∈ s'.modem.radio.tuned -> InBand x :=
  (hcond.invariant InBandSystem.step hstart.inBand hrun).modem.radio.tuned

instance (e : Element) : Decidable e.InBand := by
  cases e <;> unfold Element.InBand <;> infer_instance

instance decidableBandCondition :
    (a : BandAction) -> (s : System BandCall) -> Decidable (BandCondition a s)
  | .system (.call (.setFrequency freq)), _ =>
      inferInstanceAs (Decidable (freq ≠ .nan))
  | .system (.call (.setHopping c)), _ =>
      inferInstanceAs
        (Decidable (forall e, e ∈ c.storedElements.take 64 -> e.InBand))
  | .system .app, _ => isTrue trivial
  | .system (.event .isr), s =>
      decidable_of_iff
        (forall e, e ∈ s.modem.nextLoad -> e.stored = false -> InBand e.value)
        Iff.rfl
  | .system (.event (.rxDone _)), _ => isTrue trivial
  | .system (.event (.changeChannel _)), _ => isTrue trivial
  | .system (.event .transmitted), _ => isTrue trivial
  | .strayLoad x, _ => inferInstanceAs (Decidable (InBand x))

def hopsBehind (c : HopCall) (accesses : Nat) : List BandAction :=
  .system (.call (.setHopping c)) :: List.replicate 8 (.system .app) ++
    .system (.event (.changeChannel 0)) ::
      List.replicate accesses (.system (.event .isr))

/-- Hopping is turned off while the round of a hop has the table in hand, and
the round reads 906 where the table was. -/
def freedUnderRound : List BandAction :=
  hopsBehind hopsOn905 5 ++
    .system (.call (.setHopping ⟨.finite 0, none, none⟩)) ::
      List.replicate 5 (.system .app) ++
    .strayLoad (.finite 906) :: List.replicate 6 (.system (.event .isr))

/-- The first run tunes to a frequency of the table, the second one to what it
finds in freed memory. -/
theorem tuned_in_band_905 :
    (exists s', runAll bandStep (hopsBehind hopsOn905 12)
      ⟨⟨enabledRadio, none⟩, none⟩ = some s' ∧
      s'.modem.radio.tuned ≠ [] ∧
      forall x, x ∈ s'.modem.radio.tuned -> InBand x) ∧
    exists s', runAll bandStep freedUnderRound
      ⟨⟨enabledRadio, none⟩, none⟩ = some s' ∧
      s'.modem.radio.tuned ≠ [] ∧
      forall x, x ∈ s'.modem.radio.tuned -> InBand x := by
  have hstart : Untuned ⟨⟨enabledRadio, none⟩, none⟩ :=
    ⟨rfl, rfl, rfl, fun _ => rfl, rfl⟩
  constructor
  · have hrun : (runAll bandStep (hopsBehind hopsOn905 12)
        ⟨⟨enabledRadio, none⟩, none⟩).map (fun s => s.modem.radio.tuned) =
        some [.finite 905] := by
      decide
    rcases Option.map_eq_some_iff.mp hrun with ⟨s', hs', htuned⟩
    refine ⟨s', hs', ?_, tuned_in_band hstart (by decide) hs'⟩
    rw [htuned]
    simp
  · have hrun : (runAll bandStep freedUnderRound
        ⟨⟨enabledRadio, none⟩, none⟩).map (fun s => s.modem.radio.tuned) =
        some [.finite 906] := by
      decide
    rcases Option.map_eq_some_iff.mp hrun with ⟨s', hs', htuned⟩
    refine ⟨s', hs', ?_, tuned_in_band hstart (by decide) hs'⟩
    rw [htuned]
    simp

def hopsOn433 : HopCall where
  hops := .finite 1
  hopfreqs := some ⟨[.number (.finite 433)], by decide⟩
  block := some (0, [.nan])

theorem tuned_out_of_band : Untuned ⟨⟨enabledRadio, none⟩, none⟩ ∧ exists s',
    runAll bandStep (hopsBehind hopsOn433 12)
      ⟨⟨enabledRadio, none⟩, none⟩ = some s' ∧
      exists x, x ∈ s'.modem.radio.tuned ∧ ¬ InBand x := by
  have hrun : (runAll bandStep (hopsBehind hopsOn433 12)
      ⟨⟨enabledRadio, none⟩, none⟩).map (fun s => s.modem.radio.tuned) =
      some [.finite 433] := by
    decide
  rcases Option.map_eq_some_iff.mp hrun with ⟨s', hs', htuned⟩
  refine ⟨⟨rfl, rfl, rfl, fun _ => rfl, rfl⟩, s', hs', .finite 433, ?_, ?_⟩
  · rw [htuned]
    exact .head _
  · decide

end LoRa
end Fluxnode
