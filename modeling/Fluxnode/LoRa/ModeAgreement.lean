import Fluxnode.LoRa.Rounds

/-!
# The mode of the chip and the mode that the script asked for

`isr_recv_task` puts the chip into standby while it reads a packet and back into
receive mode behind it.  That agrees with the script as long as the script has
asked for receive mode.
-/

namespace Fluxnode
namespace LoRa

open Foundation

/-!
## What a round writes to `REG_OP_MODE`
-/

def Op.listens (listens : Prop) : Op -> Prop
  | .writeReg reg val =>
      if reg = regOpMode then val = opMode modeRxContinuous else listens
  | _ => listens

def Resumes {α : Type} : Prog α -> Prop -> Prop
  | .done _, listens => listens
  | .perform o next, listens => forall b, Resumes (next b) (o.listens listens)

theorem Resumes.mono {α : Type} {p : Prog α} {listens listens' : Prop}
    (h : Resumes p listens) (himp : listens -> listens') :
    Resumes p listens' := by
  induction p generalizing listens listens' with
  | done a => exact himp h
  | perform o next ih =>
      intro b
      apply ih b (h b)
      cases o <;> simp only [Op.listens] <;> try exact himp
      split
      · exact id
      · exact himp

theorem Resumes.bind {α β : Type} {p : Prog α} {f : α -> Prog β}
    {listens : Prop} (hf : forall a listens, Resumes (f a) listens) :
    Resumes (p.bind f) listens := by
  induction p generalizing listens with
  | done a => exact hf a listens
  | perform o next ih => exact fun b => ih b

def Op.KeepsMode : Op -> Prop
  | .writeReg reg _ => reg ≠ regOpMode
  | _ => True

theorem Resumes.bind_of_keeps {α β : Type} {p : Prog α} {f : α -> Prog β}
    {listens : Prop} (hp : p.All Op.KeepsMode)
    (hf : forall a, Resumes (f a) listens) :
    Resumes (p.bind f) listens := by
  induction p with
  | done a => exact hf a
  | perform o next ih =>
      intro b
      apply (ih b (hp.2 b)).mono
      cases o <;> simp only [Op.listens] <;> try exact id
      rw [if_neg hp.1]
      exact id

theorem resumes_receiveRound (listens : Prop) :
    Resumes receiveRound listens := by
  intro irq _
  apply Resumes.bind
  intro buf listens value frequency snr _ _
  simp only [Op.listens, if_pos]
  split
  · exact fun _ => trivial
  · trivial

theorem HandleOp.keepsMode {o : Op} (h : HandleOp o) : o.KeepsMode := by
  cases o with
  | writeReg reg val =>
      intro heq
      subst heq
      have hne : ¬ (regOpMode ∈ frfRegs ∨ regOpMode = regIrqFlags) := by
        decide
      exact hne h
  | _ => trivial

theorem resumes_isrRecvRound : Resumes isrRecvRound True := by
  rw [isrRecvRound_eq]
  intro table entries
  apply Resumes.bind_of_keeps
  · exact (loraFhssHandle_all table _).mono (fun _ => HandleOp.keepsMode)
  · intro handled
    cases handled with
    | false => exact resumes_receiveRound True
    | true => trivial

/-!
## What a step does to the mode
-/

def Op.writesMode : Op -> Bool
  | .writeReg reg _ => reg = regOpMode
  | _ => false

def Modem.WritesMode (m : Modem) : Prop :=
  (m.isr.bind Program.next?).any Op.writesMode = true

instance (m : Modem) : Decidable m.WritesMode :=
  inferInstanceAs (Decidable (_ = true))

def Modem.opMode (m : Modem) : UInt8 :=
  m.radio.chip.regs regOpMode

def Modem.txDone (m : Modem) : Prop :=
  m.radio.chip.flag irqTxDoneMask

/-- A round under way is one of `isr_recv_task`, and ends in receive mode if it
writes the mode at all. -/
structure Orderly (m : Modem) : Prop where
  isrOnly : m.IsrOnly
  resumes : forall p, m.isr = some p -> Resumes p True

structure ModeStep (e : Event) (m m' : Modem) : Prop where
  loraMode : m'.radio.loraMode = m.radio.loraMode
  opMode : m'.opMode = m.opMode ∨
    (e = .isr ∧ m.WritesMode) ∧ (m'.opMode = LoRa.opMode modeStdby ∨
      m'.opMode = LoRa.opMode modeRxContinuous) ∨
    m.opMode = LoRa.opMode modeTx ∧ m'.opMode = LoRa.opMode modeStdby
  txDone : m'.txDone -> m.txDone ∨
    m.opMode = LoRa.opMode modeTx ∧ m'.opMode = LoRa.opMode modeStdby

theorem Orderly.moves {e : Event} {m m' : Modem} (h : Orderly m)
    (hmoves : Moves e m m') : Orderly m' := by
  constructor
  · exact Modem.isrOnly_moves h.isrOnly hmoves
  · cases hmoves with
    | take hqueue =>
        intro p hp
        cases hp
        exact resumes_isrRecvRound
    | finish =>
        intro p hp
        cases hp
    | @access radio radio' o next b hexec =>
        intro p hp
        cases hp
        exact (h.resumes _ rfl b).mono (fun _ => trivial)
    | rxDone rx => exact h.resumes
    | changeChannel hop => exact h.resumes
    | transmitted htx => exact h.resumes

theorem modeStep_moves {e : Event} {m m' : Modem} (h : Orderly m)
    (hmoves : Moves e m m') : ModeStep e m m' := by
  cases hmoves with
  | take hqueue => exact ⟨rfl, .inl rfl, .inl⟩
  | finish => exact ⟨rfl, .inl rfl, .inl⟩
  | @access radio radio' o next b hexec =>
      have heffect := exec_effect hexec
      have hok := (h.isrOnly _ rfl).1
      refine ⟨heffect.loraMode hok.ne_setLoraMode, ?_,
        fun hflag => .inl (heffect.flag hflag)⟩
      rcases Classical.em (exists val, o = .writeReg regOpMode val) with
        ⟨val, heq⟩ | hne
      · subst o
        have hval : radio'.chip.regs regOpMode = val := by
          rw [heffect.chip]
          exact radio.chip.write_regs_self (by decide)
        refine .inr (.inl ⟨⟨rfl, rfl⟩, ?_⟩)
        change radio'.chip.regs regOpMode = _ ∨ radio'.chip.regs regOpMode = _
        rw [hval]
        exact hok.opMode_val
      · exact .inl (heffect.regs (by decide) (fun val heq => hne ⟨val, heq⟩))
  | rxDone rx =>
      refine ⟨(raised_rxDone _ rx).loraMode, .inl ?_, fun hflag => .inl ?_⟩
      · exact rxDone_regs_of_ne _ rx (by decide)
      · rcases rxDone_flag hflag with hflag | hbit | hbit
        · exact hflag
        · exact absurd hbit (by decide)
        · exact absurd hbit (by decide)
  | changeChannel hop =>
      refine ⟨(raised_changeChannel _ hop).loraMode, .inl ?_,
        fun hflag => .inl ?_⟩
      · exact changeChannel_regs_of_ne _ hop (by decide)
      · rcases changeChannel_flag.mp hflag with hflag | hbit
        · exact hflag
        · exact absurd hbit (by decide)
  | @transmitted m htx =>
      have hmode : (m.radio.chip.transmitted).regs regOpMode =
          LoRa.opMode modeStdby := by
        rw [Chip.transmitted, Chip.raise_regs_of_ne _ (by decide),
          Chip.set_regs_self]
      exact ⟨rfl, .inr (.inr ⟨htx, hmode⟩), fun _ => .inr ⟨htx, hmode⟩⟩

/-!
## Assertions
-/

structure Calm (m : Modem) : Prop where
  orderly : Orderly m
  notTx : m.opMode ≠ opMode modeTx
  notDone : ¬ m.txDone

/-- The chip is in receive mode, or will be behind the round. -/
def Listens (m : Modem) : Prop :=
  match m.isr with
  | none => m.opMode = opMode modeRxContinuous
  | some p => Resumes p (m.opMode = opMode modeRxContinuous)

/-- The chip is in the mode that `lora_mode` stands for, up to a round. -/
def ModeFits (m : Modem) : Prop :=
  match m.radio.loraMode with
  | .recv => Listens m
  | .idle => m.opMode = opMode modeStdby
  | .sleep => m.opMode = opMode modeSleep

theorem Calm.moves {e : Event} {m m' : Modem} (h : Calm m)
    (hmoves : Moves e m m') : Calm m' := by
  have hstep := modeStep_moves h.orderly hmoves
  refine ⟨h.orderly.moves hmoves, ?_, ?_⟩
  · rcases hstep.opMode with heq | ⟨-, heq | heq⟩ | ⟨htx, -⟩
    · rw [heq]
      exact h.notTx
    · rw [heq]
      decide
    · rw [heq]
      decide
    · exact absurd htx h.notTx
  · intro hdone
    rcases hstep.txDone hdone with hdone | ⟨htx, -⟩
    · exact h.notDone hdone
    · exact h.notTx htx

theorem Calm.opMode_moves {e : Event} {m m' : Modem} (h : Calm m)
    (hmoves : Moves e m m') (hwrites : ¬ (e = .isr ∧ m.WritesMode)) :
    m'.opMode = m.opMode := by
  rcases (modeStep_moves h.orderly hmoves).opMode with
    heq | ⟨hw, -⟩ | ⟨htx, -⟩
  · exact heq
  · exact absurd hw hwrites
  · exact absurd htx h.notTx

theorem Listens.congr {m m' : Modem} (h : Listens m) (hisr : m'.isr = m.isr)
    (hmode : m'.opMode = m.opMode) : Listens m' := by
  unfold Listens
  rw [hisr, hmode]
  exact h

theorem exec_opMode {val : UInt8} {s s' : Radio} {b : Unit}
    (h : exec (.writeReg regOpMode val) s = some (s', b)) :
    s'.chip.regs regOpMode = val := by
  cases h
  exact s.chip.write_regs_self (by decide : Register.Plain regOpMode)

theorem Listens.moves {e : Event} {m m' : Modem} (h : Listens m)
    (hcalm : Calm m) (hmoves : Moves e m m') : Listens m' := by
  cases hmoves with
  | take hqueue => exact resumes_isrRecvRound.mono (fun _ => h)
  | finish => exact h
  | @access radio radio' o next b hexec =>
      apply (h b).mono
      intro hlistens
      rcases Classical.em (exists val, o = .writeReg regOpMode val) with
        ⟨val, heq⟩ | hne
      · subst o
        simp only [Op.listens, if_pos] at hlistens
        exact (exec_opMode hexec).trans hlistens
      · have hmode := (exec_effect hexec).regs
          (by decide : regOpMode ≠ regFifoAddrPtr)
          (fun val heq => hne ⟨val, heq⟩)
        apply hmode.trans
        cases o with
        | writeReg reg val =>
            have hreg : reg ≠ regOpMode := fun heq => hne ⟨val, heq ▸ rfl⟩
            simp only [Op.listens, if_neg hreg] at hlistens
            exact hlistens
        | _ => exact hlistens
  | @rxDone m rx =>
      exact h.congr rfl (rxDone_regs_of_ne m.radio rx (by decide))
  | @changeChannel m hop =>
      exact h.congr rfl (changeChannel_regs_of_ne m.radio hop (by decide))
  | @transmitted m htx => exact absurd htx hcalm.notTx

structure Between (m : Modem) : Prop where
  calm : Calm m
  fits : ModeFits m

theorem Between.moves {e : Event} {m m' : Modem} (h : Between m)
    (hmoves : Moves e m m')
    (hwrites : e = .isr -> m.WritesMode -> m.radio.loraMode = .recv) :
    Between m' := by
  constructor
  · exact h.calm.moves hmoves
  · have hfits := h.fits
    unfold ModeFits at *
    rw [(modeStep_moves h.calm.orderly hmoves).loraMode]
    cases hmode : m.radio.loraMode with
    | recv =>
        rw [hmode] at hfits
        exact hfits.moves h.calm hmoves
    | idle =>
        rw [hmode] at hfits
        have hnot : ¬ (e = .isr ∧ m.WritesMode) := by
          intro hw
          simp [hwrites hw.1 hw.2] at hmode
        exact (h.calm.opMode_moves hmoves hnot).trans hfits
    | sleep =>
        rw [hmode] at hfits
        have hnot : ¬ (e = .isr ∧ m.WritesMode) := by
          intro hw
          simp [hwrites hw.1 hw.2] at hmode
        exact (h.calm.opMode_moves hmoves hnot).trans hfits

/-!
## The calls
-/

inductive ModeCall where
  | loraReceive
  | loraIdle
  | loraSleep
  | sendPacket (buf : List UInt8)
  deriving DecidableEq, Repr

def ModeCall.program : ModeCall -> Prog Returned
  | .loraReceive => recvEnable
  | .loraIdle => idleSet
  | .loraSleep => sleepSet
  | .sendPacket buf => LoRa.sendPacket buf

/-- The mode that the script has asked for, during a call that performs an
access next: `loraReceive` asks for its mode from its start on, the others when
only their store of `lora_mode` is left. -/
def ModeCall.asked (c : ModeCall) (next : Option Op) (m : Modem) : LoRaMode :=
  match c, next with
  | .loraReceive, _ => .recv
  | _, some (.setLoraMode mode) => mode
  | _, _ => m.radio.loraMode

def asked (s : System ModeCall) : LoRaMode :=
  match s.app with
  | none => s.modem.radio.loraMode
  | some ⟨c, rest⟩ => c.asked rest.next? s.modem

/-- The task writes the mode only while the script has asked for receive mode,
and the script does not send from sleep. -/
def ModeCondition : Action ModeCall -> System ModeCall -> Prop
  | .event .isr, s => s.modem.WritesMode -> asked s = .recv
  | .call (.sendPacket _), s => s.modem.radio.loraMode ≠ .sleep
  | _, _ => True

def ModeRely (c : ModeCall) (next : Option Op) (m m' : Modem) : Prop :=
  exists e, Moves e m m' ∧
    (e = .isr -> m.WritesMode -> c.asked next m = .recv)

abbrev Brings {α : Type} (c : ModeCall) (post : α -> Modem -> Prop)
    (p : Prog α) (m : Modem) : Prop :=
  p.Ensures execModem (ModeRely c) (fun _ _ => True) post m

section Accesses

variable {m m' : Modem} {c : ModeCall}

theorem Orderly.access {o : Op} {b : o.Answer} (h : Orderly m)
    (hexec : execModem o m = some (m', b)) : Orderly m' := by
  rcases execModem_some hexec with ⟨hisr, _⟩
  constructor
  · intro p hp
    exact h.isrOnly p (hisr ▸ hp)
  · intro p hp
    exact h.resumes p (hisr ▸ hp)

theorem execModem_opMode {o : Op} {b : o.Answer} (hkeeps : o.KeepsMode)
    (hexec : execModem o m = some (m', b)) : m'.opMode = m.opMode := by
  apply (exec_effect (execModem_some hexec).2).regs (by decide)
  intro val heq
  subst o
  exact hkeeps rfl

theorem Calm.access {o : Op} {b : o.Answer} (h : Calm m)
    (hkeeps : o.KeepsMode) (hexec : execModem o m = some (m', b)) :
    Calm m' ∧ m'.opMode = m.opMode := by
  have heffect := exec_effect (execModem_some hexec).2
  have hmode := execModem_opMode hkeeps hexec
  refine ⟨⟨?_, ?_, fun hdone => h.notDone (heffect.flag hdone)⟩, hmode⟩
  · exact h.orderly.access hexec
  · rw [hmode]
    exact h.notTx

theorem Calm.writeMode {val : UInt8} {b : Unit} (h : Calm m)
    (hval : val ≠ opMode modeTx)
    (hexec : execModem (.writeReg regOpMode val) m = some (m', b)) :
    Calm m' ∧ m'.opMode = val := by
  have hradio := (execModem_some hexec).2
  have hmode : m'.opMode = val := exec_opMode hradio
  refine ⟨⟨?_, ?_, ?_⟩, hmode⟩
  · exact h.orderly.access hexec
  · rw [hmode]
    exact hval
  · intro hdone
    exact h.notDone ((exec_effect hradio).flag hdone)

theorem calm_stable (next : Option Op) :
    Program.Stable (ModeRely c next) Calm := by
  intro m m' h hrely
  rcases hrely with ⟨e, hmoves, -⟩
  exact h.moves hmoves

theorem Calm.brings {α β : Type} {p : Prog α} {f : α -> Prog β}
    {post : β -> Modem -> Prop} (h : Calm m) (hp : p.All Op.KeepsMode)
    (hf : forall a m, Calm m -> Brings c post (f a) m) :
    Brings c post (p.bind f) m := by
  apply Program.Ensures.bind
  have hframe : Brings c (fun _ => Calm) p m :=
    Program.Ensures.frame h hp (fun _ _ => calm_stable _) (calm_stable _)
      (fun _ _ _ _ => trivial)
      (fun _ _ _ _ hok hcalm hexec => (hcalm.access hok hexec).1)
  exact hframe.mono hf

theorem between_stable (hc : c ≠ .loraReceive) :
    Program.Stable (ModeRely c none) Between := by
  intro m m' h hrely
  rcases hrely with ⟨e, hmoves, hasked⟩
  apply h.moves hmoves
  intro he hwrites
  cases c with
  | loraReceive => exact absurd rfl hc
  | _ => exact hasked he hwrites

theorem brings_mode {mode : LoRaMode} {state val : UInt8}
    (hc : forall m, c.asked (some (.setLoraMode mode)) m = mode)
    (hreceive : c ≠ .loraReceive) (hmode : mode ≠ .recv)
    (hval : val ≠ opMode modeTx)
    (hfits : forall m : Modem, m.radio.loraMode = mode -> m.opMode = val ->
      ModeFits m) (h : Calm m) :
    Brings c (fun _ => Between)
      (.perform (.setModemState state) (fun _ =>
        .perform (.writeReg regOpMode val) (fun _ =>
          .perform (.setLoraMode mode) (fun _ =>
            .done Returned.undefined)))) m := by
  apply Program.Ensures.perform h (calm_stable _) (fun _ _ => trivial)
  intro m m' b hcalm hexec
  refine Program.Ensures.perform
    (hcalm.access (o := .setModemState state) trivial hexec).1 (calm_stable _)
    (fun _ _ => trivial) ?_
  intro m m' b hcalm hexec
  have hstable : Program.Stable (ModeRely c (some (.setLoraMode mode)))
      (fun m => Calm m ∧ m.opMode = val) := by
    intro m m' hm hrely
    rcases hrely with ⟨e, hmoves, hasked⟩
    have hnot : ¬ (e = .isr ∧ m.WritesMode) := by
      intro hw
      exact hmode ((hc m).symm.trans (hasked hw.1 hw.2))
    exact ⟨hm.1.moves hmoves, (hm.1.opMode_moves hmoves hnot).trans hm.2⟩
  refine Program.Ensures.perform (hcalm.writeMode hval hexec) hstable
    (fun _ _ => trivial) ?_
  intro m m' b hm hexec
  have haccess := hm.1.access (o := .setLoraMode mode) trivial hexec
  have hlora : mode = m'.radio.loraMode :=
    congrArg (fun r : Radio × Unit => r.1.loraMode)
      (Option.some.inj (execModem_some hexec).2)
  exact Program.Ensures.done
    ⟨haccess.1, hfits m' hlora.symm (haccess.2.trans hm.2)⟩
    (between_stable hreceive) (fun _ h => h)

theorem brings_leaving {rest : Prog Returned} (h : Calm m)
    (hrest : forall m, Calm m -> Brings c (fun _ => Between) rest m) :
    Brings c (fun _ => Between)
      (getLoraMode.bind (fun mode =>
        if mode = .recv then (loraEnableIrqRecv false).bind (fun _ => rest)
        else rest)) m := by
  apply h.brings (p := getLoraMode) ⟨trivial, fun _ => trivial⟩
  intro mode m hm
  split
  · exact hm.brings (p := loraEnableIrqRecv false) ⟨trivial, fun _ => trivial⟩
      (fun _ => hrest)
  · exact hrest m hm

theorem brings_sleepSet (h : Calm m) :
    Brings .loraSleep (fun _ => Between) sleepSet m := by
  apply brings_leaving h
  intro m hm
  apply brings_mode (fun _ => rfl) (by simp) (by simp) (by decide) _ hm
  intro m hlora hmode
  unfold ModeFits
  rw [hlora]
  exact hmode

theorem brings_idleSet (h : Calm m) :
    Brings .loraIdle (fun _ => Between) idleSet m := by
  apply brings_leaving h
  intro m hm
  apply brings_mode (fun _ => rfl) (by simp) (by simp) (by decide) _ hm
  intro m hlora hmode
  unfold ModeFits
  rw [hlora]
  exact hmode

theorem Calm.listens (h : Calm m)
    (hmode : m.opMode = opMode modeRxContinuous) : Listens m := by
  unfold Listens
  cases hisr : m.isr with
  | none => exact hmode
  | some p => exact (h.orderly.resumes p hisr).mono (fun _ => hmode)

theorem loraInstallIrq_keeps (pin : Pin) :
    (loraInstallIrq pin).All Op.KeepsMode :=
  ⟨trivial, fun _ => ⟨(by decide : regDioMapping1 ≠ regOpMode),
    fun _ => ⟨trivial, fun _ => trivial⟩⟩⟩

theorem loraEnableIrq_keeps (pin : Pin) :
    (loraEnableIrq pin true).All Op.KeepsMode :=
  ⟨trivial, fun _ => trivial⟩

theorem brings_recvEnable (h : Calm m) :
    Brings .loraReceive (fun _ => Between) recvEnable m := by
  apply h.brings (loraInstallIrq_keeps .dio0)
  intro _ m hm
  apply hm.brings (loraEnableIrq_keeps .dio0)
  intro _ m hm
  apply hm.brings (loraInstallIrq_keeps .dio2)
  intro _ m hm
  apply hm.brings (loraEnableIrq_keeps .dio2)
  intro _ m hm
  apply Program.Ensures.perform hm (calm_stable _) (fun _ _ => trivial)
  intro m m' b hcalm hexec
  have hm' := (hcalm.access (o := .setModemState modeRxContinuous) trivial
    hexec).1
  apply Program.Ensures.perform hm' (calm_stable _) (fun _ _ => trivial)
  intro m m' b hcalm hexec
  have hwrite := hcalm.writeMode (by decide) hexec
  have hstable : Program.Stable (ModeRely .loraReceive (some
      (.setLoraMode .recv))) (fun m => Calm m ∧ Listens m) := by
    intro m m' hm hrely
    rcases hrely with ⟨e, hmoves, -⟩
    exact ⟨hm.1.moves hmoves, hm.2.moves hm.1 hmoves⟩
  refine Program.Ensures.perform ⟨hwrite.1, hwrite.1.listens hwrite.2⟩ hstable
    (fun _ _ => trivial) ?_
  intro m m' b hm hexec
  have haccess := hm.1.access (o := .setLoraMode .recv) trivial hexec
  have hlora : LoRaMode.recv = m'.radio.loraMode :=
    congrArg (fun r : Radio × Unit => r.1.loraMode)
      (Option.some.inj (execModem_some hexec).2)
  have hfits : ModeFits m' := by
    unfold ModeFits
    rw [← hlora]
    exact hm.2.congr (execModem_some hexec).1 haccess.2
  have hdone : Program.Stable (ModeRely .loraReceive none)
      (fun m => Between m ∧ m.radio.loraMode = .recv) := by
    intro m m' hm hrely
    rcases hrely with ⟨e, hmoves, -⟩
    exact ⟨hm.1.moves hmoves (fun _ _ => hm.2),
      (modeStep_moves hm.1.calm.orderly hmoves).loraMode.trans hm.2⟩
  exact Program.Ensures.done ⟨⟨haccess.1, hfits⟩, hlora.symm⟩ hdone
    (fun _ h => h.1)

end Accesses

/-!
## Sending
-/

section Sending

variable {m m' : Modem} {buf : List UInt8} {mode : LoRaMode}

/-- While a packet is sent, rounds write the mode in receive mode only. -/
structure Sends (mode : LoRaMode) (m : Modem) : Prop where
  orderly : Orderly m
  loraMode : m.radio.loraMode = mode
  idle : mode ≠ .recv ->
    m.opMode = opMode modeStdby ∨ m.opMode = opMode modeTx

theorem Sends.moves {next : Option Op} (h : Sends mode m)
    (hnext : forall mode, next ≠ some (.setLoraMode mode))
    (hrely : ModeRely (.sendPacket buf) next m m') : Sends mode m' := by
  rcases hrely with ⟨e, hmoves, hasked⟩
  have hstep := modeStep_moves h.orderly hmoves
  refine ⟨h.orderly.moves hmoves, hstep.loraMode.trans h.loraMode, ?_⟩
  intro hmode
  rcases hstep.opMode with heq | ⟨⟨he, hw⟩, -⟩ | ⟨-, heq⟩
  · rw [heq]
    exact h.idle hmode
  · have hrecv : m.radio.loraMode = .recv := by
      have hb := hasked he hw
      unfold ModeCall.asked at hb
      split at hb
      · rename_i heq
        cases heq
      · rename_i x y z hz
        exact absurd rfl (hnext _)
      · exact hb
    exact absurd (h.loraMode.symm.trans hrecv) hmode
  · exact .inl heq

def Op.Spares (o : Op) : Prop :=
  o.KeepsMode ∧ forall mode, o ≠ .setLoraMode mode

theorem Op.Spares.next {o : Op} (h : o.Spares) (mode : LoRaMode) :
    some o ≠ some (.setLoraMode mode) := by
  intro heq
  exact h.2 mode (Option.some.inj heq)

theorem Sends.access {o : Op} {b : o.Answer} (h : Sends mode m)
    (hspares : o.Spares) (hexec : execModem o m = some (m', b)) :
    Sends mode m' ∧ m'.opMode = m.opMode := by
  have heffect := exec_effect (execModem_some hexec).2
  have hmode := execModem_opMode hspares.1 hexec
  refine ⟨⟨?_, ?_, ?_⟩, hmode⟩
  · exact h.orderly.access hexec
  · exact (heffect.loraMode hspares.2).trans h.loraMode
  · rw [hmode]
    exact h.idle

theorem Sends.writeMode {val : UInt8} {b : Unit} (h : Sends mode m)
    (hval : val = opMode modeStdby ∨ val = opMode modeTx)
    (hexec : execModem (.writeReg regOpMode val) m = some (m', b)) :
    Sends mode m' := by
  have hradio := (execModem_some hexec).2
  refine ⟨?_, ?_, ?_⟩
  · exact h.orderly.access hexec
  · exact ((exec_effect hradio).loraMode (by simp)).trans h.loraMode
  · intro _
    have hmode : m'.opMode = val := exec_opMode hradio
    rw [hmode]
    exact hval

structure Ready (mode : LoRaMode) (m : Modem) : Prop where
  sends : Sends mode m
  calm : Calm m

structure OnAir (mode : LoRaMode) (m : Modem) : Prop where
  sends : Sends mode m
  notTx : m.txDone -> m.opMode ≠ opMode modeTx

theorem ready_stable {next : Option Op}
    (hnext : forall mode, next ≠ some (.setLoraMode mode)) :
    Program.Stable (ModeRely (.sendPacket buf) next) (Ready mode) := by
  intro m m' h hrely
  constructor
  · exact h.sends.moves hnext hrely
  · rcases hrely with ⟨e, hmoves, -⟩
    exact h.calm.moves hmoves

theorem onAir_stable {next : Option Op}
    (hnext : forall mode, next ≠ some (.setLoraMode mode)) :
    Program.Stable (ModeRely (.sendPacket buf) next) (OnAir mode) := by
  intro m m' h hrely
  constructor
  · exact h.sends.moves hnext hrely
  · rcases hrely with ⟨e, hmoves, -⟩
    have hstep := modeStep_moves h.sends.orderly hmoves
    intro hdone
    rcases hstep.opMode with heq | ⟨-, heq | heq⟩ | ⟨-, heq⟩
    · rw [heq]
      rcases hstep.txDone hdone with hdone | ⟨htx, hstdby⟩
      · exact h.notTx hdone
      · rw [← heq, hstdby]
        decide
    · rw [heq]
      decide
    · rw [heq]
      decide
    · rw [heq]
      decide

theorem Ready.brings {α β : Type} {p : Prog α} {f : α -> Prog β}
    {post : β -> Modem -> Prop} (h : Ready mode m) (hp : p.All Op.Spares)
    (hf : forall a m, Ready mode m -> Brings (.sendPacket buf) post (f a) m) :
    Brings (.sendPacket buf) post (p.bind f) m := by
  apply Program.Ensures.bind
  have hframe : Brings (.sendPacket buf) (fun _ => Ready mode) p m :=
    Program.Ensures.frame h hp (fun _ hok => ready_stable hok.next)
      (ready_stable (by simp)) (fun _ _ _ _ => trivial)
      (fun _ _ _ _ hok hready hexec =>
        ⟨(hready.sends.access hok hexec).1,
          (hready.calm.access hok.1 hexec).1⟩)
  exact hframe.mono hf

theorem writeFifo_spares (buf : List UInt8) :
    (writeFifo buf).All Op.Spares := by
  induction buf with
  | nil => trivial
  | cons b rest ih =>
      exact ⟨⟨(by decide : regFifo ≠ regOpMode), by simp⟩, fun _ => ih⟩

theorem spares_writeReg {reg : Register} {val : UInt8}
    (h : reg ≠ regOpMode) : (writeReg reg val).All Op.Spares :=
  ⟨⟨h, by simp⟩, fun _ => trivial⟩

theorem spares_setModemState {state : UInt8} :
    (access (.setModemState state)).All Op.Spares :=
  ⟨⟨trivial, by simp⟩, fun _ => trivial⟩

/-- Sending in `lora_send_packet`, from the switch to transmit mode on: the
chip is in standby when it reports the end. -/
theorem brings_transmit (h : Ready mode m) :
    Brings (.sendPacket buf) (fun _ => Ready mode)
      (.perform (.writeReg regOpMode (opMode modeTx)) (fun _ =>
        .perform (.awaitIrq irqTxDoneMask) (fun _ =>
          .perform (.writeReg regIrqFlags irqTxDoneMask) (fun _ =>
            access (.setModemState modeStdby))))) m := by
  refine Program.Ensures.perform h (ready_stable (by simp))
    (fun _ _ => trivial) ?_
  intro m m' b hm hexec
  have hair : OnAir mode m' := by
    constructor
    · exact hm.sends.writeMode (.inr rfl) hexec
    · intro hdone
      exact absurd ((exec_effect (execModem_some hexec).2).flag hdone)
        hm.calm.notDone
  refine Program.Ensures.perform hair (onAir_stable (by simp))
    (fun _ _ => trivial) ?_
  intro m m' b hm hexec
  have hspares : Op.Spares (.awaitIrq irqTxDoneMask) := ⟨trivial, by simp⟩
  have haccess := hm.sends.access hspares hexec
  have hnotTx : m'.opMode ≠ opMode modeTx := by
    rw [haccess.2]
    apply hm.notTx
    have hradio := (execModem_some hexec).2
    simp only [exec, Option.ite_none_right_eq_some] at hradio
    exact hradio.1
  have hsent : Program.Stable (ModeRely (.sendPacket buf)
      (some (.writeReg regIrqFlags irqTxDoneMask)))
      (fun m => Sends mode m ∧ m.opMode ≠ opMode modeTx) := by
    intro m m' hm hrely
    constructor
    · exact hm.1.moves (by simp) hrely
    · rcases hrely with ⟨e, hmoves, -⟩
      rcases (modeStep_moves hm.1.orderly hmoves).opMode with
        heq | ⟨-, heq | heq⟩ | ⟨-, heq⟩
      · rw [heq]
        exact hm.2
      all_goals
        rw [heq]
        decide
  refine Program.Ensures.perform ⟨haccess.1, hnotTx⟩ hsent
    (fun _ _ => trivial) ?_
  intro m m' b hm hexec
  have hspares : Op.Spares (.writeReg regIrqFlags irqTxDoneMask) :=
    ⟨(by decide : regIrqFlags ≠ regOpMode), by simp⟩
  have haccess := hm.1.access hspares hexec
  have hready : Ready mode m' := by
    refine ⟨haccess.1, haccess.1.orderly, haccess.2 ▸ hm.2, ?_⟩
    have hradio := (execModem_some hexec).2
    rw [Modem.txDone, (exec_effect hradio).chip]
    intro hflag
    apply hflag
    change (m.radio.chip.set regIrqFlags _).regs regIrqFlags &&& _ = 0
    rw [Chip.set_regs_self]
    exact and_not_and_of_covers _ (by decide)
  exact hready.brings (f := fun _ => .done ()) spares_setModemState
    (fun _ m hm => Program.Ensures.done hm (ready_stable (by simp))
      (fun _ h => h))

theorem brings_loraSendPacket (h : Ready mode m) (packet : List UInt8)
    (size : Int32) :
    Brings (.sendPacket buf) (fun _ => Ready mode) (loraSendPacket packet size)
      m := by
  refine h.brings (p := access (.setModemState modeStdby))
    spares_setModemState (fun _ m hm => ?_)
  refine Program.Ensures.perform hm (ready_stable (by simp))
    (fun _ _ => trivial) ?_
  intro m m' b hm hexec
  have hready : Ready mode m' :=
    ⟨hm.sends.writeMode (.inl rfl) hexec,
      (hm.calm.writeMode (by decide) hexec).1⟩
  refine hready.brings (p := access (.setModemState modeTx))
    spares_setModemState (fun _ m hm => ?_)
  refine hm.brings (p := writeReg regFifoAddrPtr 0)
    (spares_writeReg (by decide)) (fun _ m hm => ?_)
  refine hm.brings (p := writeFifo _) (writeFifo_spares _)
    (fun _ m hm => ?_)
  refine hm.brings (p := writeReg regPayloadLength _)
    (spares_writeReg (by decide)) (fun _ m hm => ?_)
  exact brings_transmit hm

theorem brings_loraSendPacketIrq (h : Ready mode m) (packet : List UInt8)
    (size : Int32) :
    Brings (.sendPacket buf) (fun _ => Ready mode)
      (loraSendPacketIrq packet size) m := by
  refine h.brings (p := access (.awaitModemState modeRxReadBuf))
    ⟨⟨trivial, by simp⟩, fun _ => trivial⟩ (fun _ m hm => ?_)
  refine hm.brings (p := access (.setModemState modeTx))
    spares_setModemState (fun _ m hm => ?_)
  refine hm.brings (p := access (.gpioIntrDisable .dio0))
    ⟨⟨trivial, by simp⟩, fun _ => trivial⟩ (fun _ m hm => ?_)
  change Brings _ _
    ((loraSendPacket packet size).bind (fun _ => loraEnableIrqRecv true)) m
  apply Program.Ensures.bind
  apply (brings_loraSendPacket hm packet size).mono
  intro _ m hm
  exact hm.brings (p := loraEnableIrqRecv true) (f := fun _ => .done ())
    ⟨⟨trivial, by simp⟩, fun _ => trivial⟩
    (fun _ m hm => Program.Ensures.done hm (ready_stable (by simp))
      (fun _ h => h))

theorem brings_backToReceive (h : Ready .recv m) :
    Brings (.sendPacket buf) (fun _ => Between)
      (loraReceive.bind (fun _ => .done Returned.undefined)) m := by
  refine h.brings (p := access (.setModemState modeRxContinuous))
    spares_setModemState (fun _ m hm => ?_)
  refine Program.Ensures.perform hm (ready_stable (by simp))
    (fun _ _ => trivial) ?_
  intro m m' b hm hexec
  have hwrite := hm.calm.writeMode (by decide) hexec
  have hlora : m'.radio.loraMode = .recv :=
    ((exec_effect (execModem_some hexec).2).loraMode (by simp)).trans
      hm.sends.loraMode
  have hfits : ModeFits m' := by
    unfold ModeFits
    rw [hlora]
    exact hwrite.1.listens hwrite.2
  exact Program.Ensures.done ⟨hwrite.1, hfits⟩ (between_stable (by simp))
    (fun _ h => h)

theorem Ready.between (h : Ready mode m) (hmode : mode ≠ .sleep)
    (hrecv : mode ≠ .recv) : Between m := by
  constructor
  · exact h.calm
  · unfold ModeFits
    rw [h.sends.loraMode]
    cases mode with
    | recv => exact absurd rfl hrecv
    | sleep => exact absurd rfl hmode
    | idle => exact (h.sends.idle hrecv).resolve_right h.calm.notTx

theorem brings_sendPacket (h : Between m)
    (hmode : m.radio.loraMode ≠ .sleep) :
    Brings (.sendPacket buf) (fun _ => Between) (LoRa.sendPacket buf) m := by
  have hready : Ready m.radio.loraMode m := by
    refine ⟨⟨h.calm.orderly, rfl, fun hrecv => ?_⟩, h.calm⟩
    have hfits := h.fits
    unfold ModeFits at hfits
    cases hlora : m.radio.loraMode with
    | recv => exact absurd hlora hrecv
    | sleep => exact absurd hlora hmode
    | idle =>
        rw [hlora] at hfits
        exact .inl hfits
  generalize m.radio.loraMode = mode at hready hmode
  apply Program.Ensures.bind
  apply (brings_loraSendPacketIrq hready buf _).mono
  intro _ m hm
  refine Program.Ensures.perform hm (ready_stable (by simp))
    (fun _ _ => trivial) ?_
  intro m m' b hm hexec
  have hspares : Op.Spares .getLoraMode := ⟨trivial, by simp⟩
  have hready : Ready mode m' :=
    ⟨(hm.sends.access hspares hexec).1, (hm.calm.access hspares.1 hexec).1⟩
  have hanswer : mode = b :=
    hm.sends.loraMode.symm.trans (congrArg Prod.snd
      (Option.some.inj (execModem_some hexec).2))
  subst hanswer
  change Brings _ _ (if mode = .recv then _ else _) m'
  split
  · rename_i hrecv
    subst hrecv
    exact brings_backToReceive hready
  · rename_i hrecv
    exact Program.Ensures.done (hready.between hmode hrecv)
      (between_stable (by simp)) (fun _ h => h)

end Sending

/-!
## Runs
-/

theorem follows_step (a : Action ModeCall) (s s' : System ModeCall)
    (h : s.Follows Between execModem ModeRely) (hcond : ModeCondition a s)
    (hstep : System.step ModeCall.program a s = some s') :
    s'.Follows Between execModem ModeRely := by
  refine System.follows_step ?_ ?_ ?_ ?_ a s s' h hcond hstep
  · intro c s hbetween hcond
    cases c with
    | loraReceive => exact brings_recvEnable hbetween.calm
    | loraIdle => exact brings_idleSet hbetween.calm
    | loraSleep => exact brings_sleepSet hbetween.calm
    | sendPacket buf => exact brings_sendPacket hbetween hcond
  · intro e s m' happ hbetween hcond he
    apply hbetween.moves (Modem.step_moves he)
    intro heq hwrites
    subst heq
    have hasked := hcond hwrites
    rw [asked, happ] at hasked
    exact hasked
  · intro c o next s m' b happ hcond hexec
    exact hexec
  · intro c rest e s m' happ hcond he
    refine ⟨e, Modem.step_moves he, ?_⟩
    intro heq hwrites
    subst heq
    have hasked := hcond hwrites
    rw [asked, happ] at hasked
    exact hasked

def SystemStarted (s : System ModeCall) : Prop :=
  s.app = none ∧ Started s.modem

theorem SystemStarted.follows {s : System ModeCall} (h : SystemStarted s) :
    s.Follows Between execModem ModeRely := by
  have hstarted := h.2
  unfold System.Follows
  rw [h.1]
  refine ⟨⟨⟨?_, ?_⟩, ?_, ?_⟩, ?_⟩
  · intro p hp
    rw [hstarted.isr] at hp
    cases hp
  · intro p hp
    rw [hstarted.isr] at hp
    cases hp
  · rw [Modem.opMode, hstarted.opMode]
    decide
  · intro hdone
    apply hdone
    rw [hstarted.irqFlags]
    decide
  · unfold ModeFits
    rw [hstarted.loraMode]
    exact hstarted.opMode

def LoRaMode.chipMode : LoRaMode -> UInt8
  | .recv => opMode modeRxContinuous
  | .sleep => opMode modeSleep
  | .idle => opMode modeStdby

/-- The chip is in the mode that the script asked for. -/
def ModeAgrees (s : System ModeCall) : Prop :=
  s.modem.opMode = s.modem.radio.loraMode.chipMode

/-- In every quiet state of every run whose steps meet the condition, the chip
is in the mode that the script asked for. -/
theorem mode_agrees {s s' : System ModeCall}
    {actions : List (Action ModeCall)} (hstart : SystemStarted s)
    (hcond : EveryStep (System.step ModeCall.program) ModeCondition actions s)
    (hrun : runAll (System.step ModeCall.program) actions s = some s')
    (hquiet : s'.Quiet) : ModeAgrees s' := by
  have h := hcond.invariant follows_step hstart.follows hrun
  unfold System.Follows at h
  rw [hquiet.1] at h
  have hfits := h.fits
  unfold ModeFits at hfits
  unfold ModeAgrees
  cases hlora : s'.modem.radio.loraMode with
  | recv =>
      rw [hlora, Listens, hquiet.2.1] at hfits
      exact hfits
  | idle =>
      rw [hlora] at hfits
      exact hfits
  | sleep =>
      rw [hlora] at hfits
      exact hfits

instance (a : Action ModeCall) (s : System ModeCall) :
    Decidable (ModeCondition a s) := by
  cases a with
  | call c => cases c <;> unfold ModeCondition <;> infer_instance
  | app => exact isTrue trivial
  | event e => cases e <;> unfold ModeCondition <;> infer_instance

def receivesPacket (others : List (Action ModeCall)) :
    List (Action ModeCall) :=
  [.call .loraReceive] ++ List.replicate 12 .app ++
    [.event (.rxDone emptyPacket)] ++ others ++
    List.replicate 21 (.event .isr)

def startSystem : System ModeCall :=
  ⟨startModem, none⟩

theorem systemStarted_startSystem : SystemStarted startSystem :=
  ⟨rfl, started_startModem⟩

def System.observed (s : System ModeCall) :
    Bool × Bool × List IsrCmd × LoRaMode × UInt8 :=
  (s.app.isNone, s.modem.isr.isNone, s.modem.radio.isrRecvQueue,
    s.modem.radio.loraMode, s.modem.opMode)

theorem mode_agrees_received : exists s',
    runAll (System.step ModeCall.program) (receivesPacket []) startSystem =
      some s' ∧ s'.Quiet ∧ ModeAgrees s' := by
  have hrun : (runAll (System.step ModeCall.program) (receivesPacket [])
      startSystem).map System.observed =
        some (true, true, [], .recv, opMode modeRxContinuous) := by
    decide
  rcases Option.map_eq_some_iff.mp hrun with ⟨s', hs', hobserved⟩
  simp only [System.observed, Prod.mk.injEq, Option.isNone_iff_eq_none]
    at hobserved
  have hquiet : s'.Quiet := ⟨hobserved.1, hobserved.2.1, hobserved.2.2.1⟩
  exact ⟨s', hs', hquiet,
    mode_agrees systemStarted_startSystem (by decide) hs' hquiet⟩

/-- `loraSleep` while the command for a packet waits for the task. -/
def sleepsLate : List (Action ModeCall) :=
  receivesPacket ([.call .loraSleep] ++ List.replicate 6 .app)

theorem mode_disagrees : SystemStarted startSystem ∧ exists s',
    runAll (System.step ModeCall.program) sleepsLate startSystem = some s' ∧
      s'.Quiet ∧ s'.modem.radio.loraMode = .sleep ∧ ¬ ModeAgrees s' := by
  have hrun : (runAll (System.step ModeCall.program) sleepsLate
      startSystem).map System.observed =
        some (true, true, [], .sleep, opMode modeRxContinuous) := by
    decide
  rcases Option.map_eq_some_iff.mp hrun with ⟨s', hs', hobserved⟩
  simp only [System.observed, Prod.mk.injEq, Option.isNone_iff_eq_none]
    at hobserved
  rcases hobserved with ⟨happ, hisr, hqueue, hlora, hmode⟩
  refine ⟨systemStarted_startSystem, s', hs', ⟨happ, hisr, hqueue⟩, hlora, ?_⟩
  unfold ModeAgrees
  rw [hmode, hlora]
  decide

end LoRa
end Fluxnode
