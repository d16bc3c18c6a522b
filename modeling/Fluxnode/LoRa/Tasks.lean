import Fluxnode.Foundation.Run
import Fluxnode.LoRa.Main

/-!
# The tasks around the radio

The chip raises flags, an interrupt handler posts a command for a flag that
was clear, `isr_recv_task` handles the commands one after the other, and the
script calls the API: in any order, access by access.
-/

namespace Fluxnode
namespace LoRa

open Foundation
open Js (Number)

/-!
## What the chip does
-/

structure Reception where
  crcError : Bool
  nbBytes : UInt8
  currentAddr : UInt8
  rssi : UInt8
  snr : UInt8
  fifo : UInt8 -> UInt8

def Chip.receive (c : Chip) (rx : Reception) : Chip :=
  let c := { c with fifo := rx.fifo }
  let c := c.set regRxNbBytes rx.nbBytes
  let c := c.set regFifoRxCurrentAddr rx.currentAddr
  let c := c.set regPktRssiValue rx.rssi
  let c := c.set regPktSnrValue rx.snr
  if rx.crcError then c.raise irqPayloadCrcErrorMask else c

/-- The chip is done with sending and goes to standby. -/
def Chip.transmitted (c : Chip) : Chip :=
  (c.set regOpMode (opMode modeStdby)).raise irqTxDoneMask

def isrRecvQueueSize : Nat := 10

/-- `gpio_isr_handler` and `gpio_fhss_isr_handler`: a full queue drops it. -/
def Radio.interrupt (s : Radio) (pin : Pin) (cmd : IsrCmd) : Radio :=
  if (s.pins pin).handler ∧ (s.pins pin).enabled ∧
      s.isrRecvQueue.length < isrRecvQueueSize then
    { s with isrRecvQueue := s.isrRecvQueue ++ [cmd] }
  else
    s

def Radio.rxDone (s : Radio) (rx : Reception) : Radio :=
  let s' := s.setChip ((s.chip.receive rx).raise irqRxDoneMask)
  if s.chip.flag irqRxDoneMask then s' else s'.interrupt .dio0 .readPacket

def Radio.changeChannel (s : Radio) (hop : UInt8) : Radio :=
  let s' := s.setChip ((s.chip.set regHopChannel hop).raise irqFhssChangeChannel)
  if s.chip.flag irqFhssChangeChannel then s'
  else { s' with hopMark := s'.tuned.length }.interrupt .dio2 .fhss

/-!
## The radio and its task
-/

structure Modem where
  radio : Radio
  /-- The rest of the round, or `none` while the task waits for a command. -/
  isr : Option (Prog Unit)

inductive Event where
  /-- The next access of `isr_recv_task`. -/
  | isr
  | rxDone (rx : Reception)
  | changeChannel (hop : UInt8)
  | transmitted

def Modem.step : Event -> Modem -> Option Modem
  | .isr, m =>
      match m.isr with
      | none =>
          match m.radio.isrRecvQueue with
          | [] => none
          | _ :: rest =>
              some ⟨{ m.radio with isrRecvQueue := rest }, some isrRecvRound⟩
      | some (.done _) => some ⟨m.radio, none⟩
      | some (.perform o next) =>
          match exec o m.radio with
          | none => none
          | some (radio, b) => some ⟨radio, some (next b)⟩
  | .rxDone rx, m => some { m with radio := m.radio.rxDone rx }
  | .changeChannel hop, m =>
      some { m with radio := m.radio.changeChannel hop }
  | .transmitted, m =>
      if m.radio.chip.regs regOpMode = opMode modeTx then
        some { m with radio := m.radio.setChip m.radio.chip.transmitted }
      else
        none

inductive Moves : Event -> Modem -> Modem -> Prop
  | take {radio : Radio} {cmd : IsrCmd} {rest : List IsrCmd}
      (hqueue : radio.isrRecvQueue = cmd :: rest) :
      Moves .isr ⟨radio, none⟩
        ⟨{ radio with isrRecvQueue := rest }, some isrRecvRound⟩
  | finish {radio : Radio} :
      Moves .isr ⟨radio, some (.done ())⟩ ⟨radio, none⟩
  | access {radio radio' : Radio} {o : Op} {next : o.Answer -> Prog Unit}
      {b : o.Answer} (hexec : exec o radio = some (radio', b)) :
      Moves .isr ⟨radio, some (.perform o next)⟩ ⟨radio', some (next b)⟩
  | rxDone {m : Modem} (rx : Reception) :
      Moves (.rxDone rx) m { m with radio := m.radio.rxDone rx }
  | changeChannel {m : Modem} (hop : UInt8) :
      Moves (.changeChannel hop) m
        { m with radio := m.radio.changeChannel hop }
  | transmitted {m : Modem}
      (htx : m.radio.chip.regs regOpMode = opMode modeTx) :
      Moves .transmitted m
        { m with radio := m.radio.setChip m.radio.chip.transmitted }

theorem Modem.step_moves {e : Event} {m m' : Modem}
    (h : m.step e = some m') : Moves e m m' := by
  rcases m with ⟨radio, isr⟩
  cases e with
  | isr =>
      cases isr with
      | none =>
          simp only [Modem.step] at h
          split at h
          · cases h
          · rename_i cmd rest hqueue
            cases h
            exact .take hqueue
      | some p =>
          cases p with
          | done a =>
              cases h
              exact .finish
          | perform o next =>
              simp only [Modem.step] at h
              split at h
              · cases h
              · rename_i radio' b hexec
                cases h
                exact .access hexec
  | rxDone rx =>
      cases h
      exact .rxDone rx
  | changeChannel hop =>
      cases h
      exact .changeChannel hop
  | transmitted =>
      simp only [Modem.step, Option.ite_none_right_eq_some] at h
      cases h.2
      exact .transmitted h.1

/-- The task waits and no command is on its way. -/
def Modem.Waiting (m : Modem) : Prop :=
  m.isr = none ∧ m.radio.isrRecvQueue = []

structure Started (m : Modem) : Prop where
  isr : m.isr = none
  opMode : m.radio.chip.regs regOpMode = opMode modeSleep
  irqFlags : m.radio.chip.regs regIrqFlags = 0
  hopPeriod : m.radio.chip.regs regHopPeriod = 0
  implicit : m.radio.implicit = false
  modemState : m.radio.modemState = modeSleep
  pins : forall pin, m.radio.pins pin = ⟨false, false⟩
  loraMode : m.radio.loraMode = .sleep
  isrRecvQueue : m.radio.isrRecvQueue = []
  fqtable : m.radio.fqtable = none
  fqtableEntries : m.radio.fqtableEntries = 0
  tuned : m.radio.tuned = []

def resetChip : Chip where
  regs := fun reg => if reg = regOpMode then opMode modeSleep else 0
  fifo := fun _ => 0

def startRadio : Radio where
  chip := resetChip
  implicit := false
  frequency := 0
  modemState := modeSleep
  pins := fun _ => ⟨false, false⟩
  loraMode := .sleep
  isrRecvQueue := []
  fqtable := none
  fqtableEntries := 0
  heap := fun _ => none
  delivered := []
  tuned := []
  hopMark := 0

def enabledRadio : Radio :=
  { startRadio with pins := fun _ => ⟨true, true⟩ }

def startModem : Modem :=
  ⟨startRadio, none⟩

theorem started_startModem : Started startModem := by
  constructor <;> first | rfl | (intro pin; rfl)

/-- Receive mode with both interrupts, and a table of two frequencies. -/
def listeningRadio : Radio :=
  { startRadio with
    chip := (resetChip.set regOpMode (opMode modeRxContinuous)).set
      regHopPeriod 5
    pins := fun _ => ⟨true, true⟩
    loraMode := .recv
    fqtable := some 0
    fqtableEntries := 2
    heap := fun a =>
      if a = 0 then some [⟨.finite 905, true⟩, ⟨.finite 906, true⟩] else none }

def listeningModem : Modem :=
  ⟨listeningRadio, none⟩

def emptyPacket : Reception where
  crcError := false
  nbBytes := 0
  currentAddr := 0
  rssi := 0
  snr := 0
  fifo := fun _ => 0

/-!
## The radio, its task and the script
-/

section System

variable {C : Type}

structure Running (C : Type) where
  call : C
  rest : Prog Returned

structure System (C : Type) where
  modem : Modem
  app : Option (Running C)

inductive Action (C : Type) where
  | call (c : C)
  /-- The next access of the call, or its return. -/
  | app
  | event (e : Event)

def System.step (program : C -> Prog Returned) :
    Action C -> System C -> Option (System C)
  | .call c, s =>
      match s.app with
      | none => some { s with app := some ⟨c, program c⟩ }
      | some _ => none
  | .app, s =>
      match s.app with
      | none => none
      | some ⟨_, .done _⟩ => some { s with app := none }
      | some ⟨c, .perform o next⟩ =>
          match exec o s.modem.radio with
          | none => none
          | some (radio, b) =>
              some ⟨{ s.modem with radio := radio }, some ⟨c, next b⟩⟩
  | .event e, s =>
      match s.modem.step e with
      | none => none
      | some modem => some { s with modem := modem }

inductive SystemMoves (program : C -> Prog Returned) :
    Action C -> System C -> System C -> Prop
  | call {modem : Modem} (c : C) :
      SystemMoves program (.call c) ⟨modem, none⟩ ⟨modem, some ⟨c, program c⟩⟩
  | returned {modem : Modem} {c : C} {r : Returned} :
      SystemMoves program .app ⟨modem, some ⟨c, .done r⟩⟩ ⟨modem, none⟩
  | access {modem : Modem} {radio' : Radio} {c : C} {o : Op}
      {next : o.Answer -> Prog Returned} {b : o.Answer}
      (hexec : exec o modem.radio = some (radio', b)) :
      SystemMoves program .app ⟨modem, some ⟨c, .perform o next⟩⟩
        ⟨{ modem with radio := radio' }, some ⟨c, next b⟩⟩
  | event {modem modem' : Modem} {app : Option (Running C)} {e : Event}
      (he : modem.step e = some modem') :
      SystemMoves program (.event e) ⟨modem, app⟩ ⟨modem', app⟩

theorem System.step_moves {program : C -> Prog Returned} {a : Action C}
    {s s' : System C} (h : System.step program a s = some s') :
    SystemMoves program a s s' := by
  rcases s with ⟨modem, app⟩
  cases a with
  | call c =>
      cases app with
      | none =>
          cases h
          exact .call c
      | some running => cases h
  | app =>
      cases app with
      | none => cases h
      | some running =>
          rcases running with ⟨c, rest⟩
          cases rest with
          | done r =>
              cases h
              exact .returned
          | perform o next =>
              simp only [System.step] at h
              split at h
              · cases h
              · rename_i radio' b hexec
                cases h
                exact .access hexec
  | event e =>
      simp only [System.step] at h
      split at h
      · cases h
      · rename_i modem' he
        cases h
        exact .event he

/-- No call is in progress, the task waits and no command is on its way. -/
def System.Quiet (s : System C) : Prop :=
  s.app = none ∧ s.modem.Waiting

end System

/-!
## What an event leaves alone
-/

structure Raised (s s' : Radio) : Prop where
  pins : s'.pins = s.pins
  heap : s'.heap = s.heap
  loraMode : s'.loraMode = s.loraMode
  fqtable : s'.fqtable = s.fqtable
  fqtableEntries : s'.fqtableEntries = s.fqtableEntries
  tuned : s'.tuned = s.tuned

@[simp] theorem interrupt_chip (s : Radio) (pin : Pin) (cmd : IsrCmd) :
    (s.interrupt pin cmd).chip = s.chip := by
  unfold Radio.interrupt
  split <;> rfl

@[simp] theorem interrupt_implicit (s : Radio) (pin : Pin) (cmd : IsrCmd) :
    (s.interrupt pin cmd).implicit = s.implicit := by
  unfold Radio.interrupt
  split <;> rfl

@[simp] theorem interrupt_modemState (s : Radio) (pin : Pin) (cmd : IsrCmd) :
    (s.interrupt pin cmd).modemState = s.modemState := by
  unfold Radio.interrupt
  split <;> rfl

theorem raised_interrupt (s : Radio) (pin : Pin) (cmd : IsrCmd) :
    Raised s (s.interrupt pin cmd) := by
  unfold Radio.interrupt
  split <;> constructor <;> rfl

theorem rxDone_chip (s : Radio) (rx : Reception) :
    (s.rxDone rx).chip = (s.chip.receive rx).raise irqRxDoneMask := by
  unfold Radio.rxDone
  split <;> simp

theorem changeChannel_chip (s : Radio) (hop : UInt8) :
    (s.changeChannel hop).chip =
      (s.chip.set regHopChannel hop).raise irqFhssChangeChannel := by
  unfold Radio.changeChannel
  split <;> simp

theorem raised_rxDone (s : Radio) (rx : Reception) :
    Raised s (s.rxDone rx) := by
  unfold Radio.rxDone
  split
  · constructor <;> rfl
  · have h := raised_interrupt
      (s.setChip ((s.chip.receive rx).raise irqRxDoneMask)) .dio0 .readPacket
    exact ⟨h.pins, h.heap, h.loraMode, h.fqtable, h.fqtableEntries, h.tuned⟩

theorem raised_changeChannel (s : Radio) (hop : UInt8) :
    Raised s (s.changeChannel hop) := by
  unfold Radio.changeChannel
  split
  · constructor <;> rfl
  · exact ⟨(raised_interrupt _ _ _).pins, (raised_interrupt _ _ _).heap,
      (raised_interrupt _ _ _).loraMode, (raised_interrupt _ _ _).fqtable,
      (raised_interrupt _ _ _).fqtableEntries, (raised_interrupt _ _ _).tuned⟩

theorem receive_regs_of_ne (c : Chip) (rx : Reception) {reg : Register}
    (hreg : reg ∉ [regRxNbBytes, regFifoRxCurrentAddr, regPktRssiValue,
      regPktSnrValue, regIrqFlags]) : (c.receive rx).regs reg = c.regs reg := by
  simp only [List.mem_cons, List.not_mem_nil, or_false, not_or] at hreg
  rcases hreg with ⟨hnb, haddr, hrssi, hsnr, hirq⟩
  unfold Chip.receive
  split
  · rw [Chip.raise_regs_of_ne _ hirq, Chip.set_regs_of_ne _ hsnr,
      Chip.set_regs_of_ne _ hrssi, Chip.set_regs_of_ne _ haddr,
      Chip.set_regs_of_ne _ hnb]
  · rw [Chip.set_regs_of_ne _ hsnr,
      Chip.set_regs_of_ne _ hrssi, Chip.set_regs_of_ne _ haddr,
      Chip.set_regs_of_ne _ hnb]

theorem receive_flag {c : Chip} {rx : Reception} {mask : UInt8}
    (h : (c.receive rx).flag mask) :
    c.flag mask ∨ irqPayloadCrcErrorMask &&& mask ≠ 0 := by
  unfold Chip.receive at h
  split at h
  · exact Chip.flag_raise.mp h
  · exact .inl h

theorem rxDone_flag {s : Radio} {rx : Reception} {mask : UInt8}
    (h : (s.rxDone rx).chip.flag mask) :
    s.chip.flag mask ∨ irqPayloadCrcErrorMask &&& mask ≠ 0 ∨
      irqRxDoneMask &&& mask ≠ 0 := by
  rw [rxDone_chip, Chip.flag_raise] at h
  rcases h with h | h
  · rcases receive_flag h with h | h
    · exact .inl h
    · exact .inr (.inl h)
  · exact .inr (.inr h)

theorem rxDone_flag_rxDone (s : Radio) (rx : Reception) :
    (s.rxDone rx).chip.flag irqRxDoneMask := by
  rw [rxDone_chip, Chip.flag_raise]
  exact .inr (by decide)

theorem changeChannel_flag {s : Radio} {hop mask : UInt8} :
    (s.changeChannel hop).chip.flag mask ↔
      s.chip.flag mask ∨ irqFhssChangeChannel &&& mask ≠ 0 := by
  rw [changeChannel_chip, Chip.flag_raise]
  rfl

theorem rxDone_regs_of_ne (s : Radio) (rx : Reception) {reg : Register}
    (hreg : reg ∉ [regRxNbBytes, regFifoRxCurrentAddr, regPktRssiValue,
      regPktSnrValue, regIrqFlags]) :
    (s.rxDone rx).chip.regs reg = s.chip.regs reg := by
  have hirq : reg ≠ regIrqFlags := by
    intro heq
    exact hreg (by simp [heq])
  rw [rxDone_chip, Chip.raise_regs_of_ne _ hirq, receive_regs_of_ne _ _ hreg]

theorem changeChannel_regs_of_ne (s : Radio) (hop : UInt8) {reg : Register}
    (hreg : reg ∉ [regHopChannel, regIrqFlags]) :
    (s.changeChannel hop).chip.regs reg = s.chip.regs reg := by
  simp only [List.mem_cons, List.not_mem_nil, or_false, not_or] at hreg
  rw [changeChannel_chip, Chip.raise_regs_of_ne _ hreg.2,
    Chip.set_regs_of_ne _ hreg.1]

theorem transmitted_regs_of_ne (c : Chip) {reg : Register}
    (hreg : reg ∉ [regOpMode, regIrqFlags]) :
    c.transmitted.regs reg = c.regs reg := by
  simp only [List.mem_cons, List.not_mem_nil, or_false, not_or] at hreg
  rw [Chip.transmitted, Chip.raise_regs_of_ne _ hreg.2,
    Chip.set_regs_of_ne _ hreg.1]

/-!
## The rule for calls among events
-/

def execModem (o : Op) (m : Modem) : Option (Modem × o.Answer) :=
  (exec o m.radio).map (fun r => ({ m with radio := r.1 }, r.2))

theorem execModem_some {o : Op} {m m' : Modem} {b : o.Answer}
    (h : execModem o m = some (m', b)) :
    m'.isr = m.isr ∧ exec o m.radio = some (m'.radio, b) := by
  unfold execModem at h
  rcases Option.map_eq_some_iff.mp h with ⟨⟨radio, a⟩, hexec, heq⟩
  cases heq
  exact ⟨rfl, hexec⟩

section Calls

variable {C : Type} {program : C -> Prog Returned}
  {cond : Action C -> System C -> Prop} {idle : Modem -> Prop}
  {execCall : (o : Op) -> Modem -> Option (Modem × o.Answer)}
  {rely : C -> Option Op -> Modem -> Modem -> Prop}

/-- Between calls an assertion holds, and a call in progress brings it about
however the events fall. -/
def System.Follows (idle : Modem -> Prop)
    (execCall : (o : Op) -> Modem -> Option (Modem × o.Answer))
    (rely : C -> Option Op -> Modem -> Modem -> Prop) (s : System C) : Prop :=
  match s.app with
  | none => idle s.modem
  | some ⟨c, rest⟩ =>
      rest.Ensures execCall (rely c) (fun _ _ => True) (fun _ => idle) s.modem

theorem System.follows_none {modem : Modem} :
    System.Follows idle execCall rely ⟨modem, none⟩ <-> idle modem :=
  Iff.rfl

theorem System.follows_some {modem : Modem} {c : C} {rest : Prog Returned} :
    System.Follows idle execCall rely ⟨modem, some ⟨c, rest⟩⟩ <->
      rest.Ensures execCall (rely c) (fun _ _ => True) (fun _ => idle) modem :=
  Iff.rfl

theorem System.follows_step
    (hcall : forall c s, idle s.modem -> cond (.call c) s ->
      (program c).Ensures execCall (rely c) (fun _ _ => True) (fun _ => idle)
        s.modem)
    (hidle : forall e s m', s.app = none -> idle s.modem ->
      cond (.event e) s -> s.modem.step e = some m' -> idle m')
    (happ : forall c o next s m' b, s.app = some ⟨c, .perform o next⟩ ->
      cond .app s -> execModem o s.modem = some (m', b) ->
      execCall o s.modem = some (m', b))
    (hevent : forall c rest e s m', s.app = some ⟨c, rest⟩ ->
      cond (.event e) s -> s.modem.step e = some m' ->
      rely c rest.next? s.modem m')
    (a : Action C) (s s' : System C) (h : s.Follows idle execCall rely)
    (hcond : cond a s) (hstep : System.step program a s = some s') :
    s'.Follows idle execCall rely := by
  cases System.step_moves hstep with
  | @call modem c =>
      rw [System.follows_none] at h
      exact hcall c ⟨modem, none⟩ h hcond
  | returned =>
      rw [System.follows_some] at h
      exact h.finished
  | @access modem radio' c o next b hexec =>
      rw [System.follows_some] at h
      have hmodem : execModem o modem =
          some ({ modem with radio := radio' }, b) := by
        rw [execModem, hexec]
        rfl
      exact h.step (happ c o next _ _ b rfl hcond hmodem)
  | @event modem modem' app e he =>
      cases app with
      | none =>
          rw [System.follows_none] at h
          exact hidle e _ modem' rfl h hcond he
      | some running =>
          rw [System.follows_some] at h
          exact h.interfered (hevent running.call running.rest e _ modem' rfl
            hcond he)

end Calls

end LoRa
end Fluxnode
