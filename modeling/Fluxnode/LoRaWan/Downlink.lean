import Fluxnode.LoRa.Link
import Fluxnode.LoRaWan.RoundTrip

/-!
# Messages over the air

One board builds packets with the library and sends them.  The script of
another one, which has the same keys, parses what its radio gives to it.
-/

namespace Fluxnode
namespace LoRaWan

open Foundation
open Js (Bytes JsError toUint8 toInt32)
open LoRa

/-- The arguments of `confirmedDown` and `unConfirmedDown`, with a payload, and
within the bounds of a packet. -/
structure Message where
  confirmed : Bool
  payload : Bytes
  fport : UInt8
  fcnt : Nat
  fopts : Bytes
  payload_ne : payload ≠ []
  fcnt_lt : fcnt < 65536
  fopts_le : fopts.length ≤ 15
  fits : 13 + fopts.length + payload.length ≤ 255

def Message.build (crypto : Crypto) (gateway : LoraWanPacket) (m : Message) :
    Except JsError Bytes :=
  if m.confirmed then
    confirmedDown crypto gateway m.payload m.fport.toNat m.fcnt m.fopts
  else
    unConfirmedDown crypto gateway m.payload m.fport.toNat m.fcnt m.fopts

/-- What a parser with the keys of the gateway should say of it. -/
def Message.decoded (gateway : LoraWanPacket) (m : Message) : DownPacket where
  devAddr := gateway.devAddr
  confirmed := m.confirmed
  payload := m.payload
  fport := .byte m.fport
  fcnt := m.fcnt
  fopts := m.fopts
  ack := false
  fpending := false
  adr := false
  adrackreq := false
  micVerified := true

inductive GatewayStep where
  | message (m : Message)
  | radio (a : RadioAction)

/-- `LoRa.sendPacket` of the packet that was built; an exception of the library
comes before the call. -/
def GatewayStep.actions (crypto : Crypto) (gateway : LoraWanPacket) :
    GatewayStep -> List RadioAction
  | .message m =>
      match m.build crypto gateway with
      | .ok pkt => [.call (.sendPacket pkt)]
      | .error _ => []
  | .radio a => [a]

def messages : List GatewayStep -> List Message
  | [] => []
  | .message m :: rest => m :: messages rest
  | _ :: rest => messages rest

def OnlyMessages (steps : List GatewayStep) : Prop :=
  forall buf, .radio (.call (.sendPacket buf)) ∉ steps

variable {crypto : Crypto} {gateway node : LoraWanPacket}

/-!
## The packet of a message
-/

def Message.pkttype (m : Message) : Int :=
  if m.confirmed then 0xA0 else 0x60

def Message.bytes (crypto : Crypto) (gateway : LoraWanPacket) (m : Message) :
    Bytes :=
  withMic crypto gateway.nwkKey gateway.devAddr m.fcnt 1
    (frameBytes (toUint8 m.pkttype) gateway.devAddr (controlByte 0 m.fopts)
      m.fcnt m.fopts (toUint8 m.fport.toNat)
      (applyKeyStream crypto gateway.appKey gateway.devAddr m.fcnt 1
        m.payload))

theorem Message.build_eq (haddr : gateway.devAddr.length = 4) (m : Message) :
    m.build crypto gateway = .ok (m.bytes crypto gateway) := by
  unfold Message.build Message.bytes Message.pkttype
  split
  · exact makePacketFromPayLoad_eq crypto haddr m.fcnt_lt m.payload 0xA0
      m.fport.toNat 0 m.fopts 1
  · exact makePacketFromPayLoad_eq crypto haddr m.fcnt_lt m.payload 0x60
      m.fport.toNat 0 m.fopts 1

theorem Message.length_bytes (haddr : gateway.devAddr.length = 4)
    (m : Message) :
    (m.bytes crypto gateway).length =
      13 + m.fopts.length + m.payload.length := by
  rw [Message.bytes, withMic, List.length_append, length_micOf,
    length_frameBytes haddr, length_applyKeyStream]
  lia

theorem Message.toUint8_fport (m : Message) :
    toUint8 m.fport.toNat = m.fport := by
  rw [toUint8, BitVec.ofInt_natCast, ← UInt8.toNat_inj,
    UInt8.toNat_ofBitVec, BitVec.toNat_ofNat]
  exact Nat.mod_eq_of_lt m.fport.toNat_lt

theorem Message.mtype (m : Message) :
    toUint8 m.pkttype >>> 5 = if m.confirmed then 5 else 3 := by
  unfold Message.pkttype
  split <;> decide

theorem Message.control_flags (m : Message) :
    (controlByte 0 m.fopts &&& 0x10 != 0) = false ∧
      (controlByte 0 m.fopts &&& 0x20 != 0) = false ∧
      (controlByte 0 m.fopts &&& 0x40 != 0) = false ∧
      (controlByte 0 m.fopts &&& 0x80 != 0) = false := by
  have hflag : forall i, 4 ≤ i -> i < 8 ->
      (controlByte 0 m.fopts).toBitVec.getLsbD i = false := by
    intro i hlow hhigh
    rw [controlByte_high hlow hhigh]
    exact BitVec.getLsbD_zero
  rcases and_mask_ne_zero (controlByte 0 m.fopts).toBitVec with
    ⟨hpending, hack, hadrackreq, hadr⟩
  exact ⟨hpending.trans (hflag 4 (by decide) (by decide)),
    hack.trans (hflag 5 (by decide) (by decide)),
    hadrackreq.trans (hflag 6 (by decide) (by decide)),
    hadr.trans (hflag 7 (by decide) (by decide))⟩

/-- The device parses what the gateway built, whatever its own address is. -/
theorem Message.parse (haddr : gateway.devAddr.length = 4)
    (hnwk : node.nwkKey = gateway.nwkKey)
    (happ : node.appKey = gateway.appKey) (m : Message) :
    parseDownPacket crypto node (m.bytes crypto gateway) =
      .ok (.parsed (m.decoded gateway)) := by
  have hbytes : m.bytes crypto gateway =
      withMic crypto node.nwkKey gateway.devAddr m.fcnt 1
        (frameBytes (toUint8 m.pkttype) gateway.devAddr
          (controlByte 0 m.fopts) m.fcnt m.fopts (toUint8 m.fport.toNat)
          (applyKeyStream crypto node.appKey gateway.devAddr m.fcnt 1
            m.payload)) := by
    rw [hnwk, happ]
    rfl
  have htype : toUint8 m.pkttype >>> 5 = 5 ∨ toUint8 m.pkttype >>> 5 = 3 := by
    rw [m.mtype]
    cases m.confirmed
    · exact Or.inr rfl
    · exact Or.inl rfl
  have hconfirmed : (toUint8 m.pkttype >>> 5 == 5) = m.confirmed := by
    rw [m.mtype]
    cases m.confirmed <;> rfl
  have hparse := parseDownPacket_frame hbytes haddr m.fcnt_lt m.payload_ne
    htype (controlByte_low rfl m.fopts_le)
  rcases m.control_flags with ⟨hpending, hack, hadrackreq, hadr⟩
  rw [hparse, hconfirmed, hpending, hack, hadrackreq, hadr, m.toUint8_fport]
  rfl

/-!
## The gateway
-/

def gatewayActions (crypto : Crypto) (gateway : LoraWanPacket)
    (steps : List GatewayStep) : List RadioAction :=
  steps.flatMap (GatewayStep.actions crypto gateway)

theorem OnlyMessages.rest {first : GatewayStep} {steps : List GatewayStep}
    (h : OnlyMessages (first :: steps)) : OnlyMessages steps :=
  fun buf hmem => h buf (List.mem_cons_of_mem first hmem)

theorem sentPackets_append (front back : List RadioAction) :
    sentPackets (front ++ back) = sentPackets front ++ sentPackets back := by
  induction front with
  | nil => rfl
  | cons a rest ih =>
      cases a with
      | round rx => exact ih
      | call c =>
          cases c with
          | sendPacket buf => exact congrArg (List.cons buf) ih
          | _ => exact ih

theorem sentPackets_gatewayActions (haddr : gateway.devAddr.length = 4)
    {steps : List GatewayStep} (honly : OnlyMessages steps) :
    sentPackets (gatewayActions crypto gateway steps) =
      (messages steps).map (Message.bytes crypto gateway) := by
  induction steps with
  | nil => rfl
  | cons step rest ih =>
      have hrest := ih honly.rest
      rw [gatewayActions, List.flatMap_cons, sentPackets_append]
      cases step with
      | message m =>
          rw [GatewayStep.actions, m.build_eq haddr]
          exact congrArg (List.cons _) hrest
      | radio a =>
          cases a with
          | round rx => exact hrest
          | call c =>
              cases c with
              | sendPacket buf => exact absurd List.mem_cons_self (honly buf)
              | _ => exact hrest

theorem mem_sentPackets {actions : List RadioAction} {buf : List UInt8} :
    buf ∈ sentPackets actions <-> .call (.sendPacket buf) ∈ actions := by
  induction actions with
  | nil => simp [sentPackets]
  | cons a rest ih =>
      cases a with
      | round rx => simp [sentPackets, ih]
      | call c => cases c <;> simp [sentPackets, ih]

theorem gatewayActions_fit (haddr : gateway.devAddr.length = 4)
    {steps : List GatewayStep} (honly : OnlyMessages steps) :
    SendsFit (gatewayActions crypto gateway steps) := by
  intro buf hbuf
  have hsent := mem_sentPackets.mpr hbuf
  rw [sentPackets_gatewayActions haddr honly] at hsent
  rcases List.mem_map.mp hsent with ⟨m, _, rfl⟩
  rw [m.length_bytes haddr]
  exact m.fits

theorem exists_map_of_subset {α β : Type _} {f : α -> β} {as : List α}
    {bs : List β} (h : bs ⊆ as.map f) :
    exists as', as' ⊆ as ∧ bs = as'.map f := by
  induction bs with
  | nil => exact ⟨[], List.nil_subset as, rfl⟩
  | cons b rest ih =>
      rcases List.cons_subset.mp h with ⟨hb, hrest⟩
      rcases List.mem_map.mp hb with ⟨a, ha, rfl⟩
      rcases ih hrest with ⟨as', has', rfl⟩
      exact ⟨a :: as', List.cons_subset.mpr ⟨ha, has'⟩, rfl⟩

theorem exists_messages {ms : List Message} {frames : List Bytes}
    (h : frames ⊆ ms.map (Message.bytes crypto gateway)) :
    exists got : List Message,
      got ⊆ ms ∧ frames = got.map (Message.bytes crypto gateway) ∧
        (frames.Sublist (ms.map (Message.bytes crypto gateway)) ->
          got.Sublist ms) := by
  by_cases hsub : frames.Sublist (ms.map (Message.bytes crypto gateway))
  · rcases List.sublist_map_iff.mp hsub with ⟨got, hgot, heq⟩
    exact ⟨got, hgot.subset, heq, fun _ => hgot⟩
  · rcases exists_map_of_subset h with ⟨got, hgot, heq⟩
    exact ⟨got, hgot, heq, fun hs => absurd hs hsub⟩

/-- A device parses exactly the messages whose frames reach it while it is in
receive mode: each as the gateway meant it and with a verified MIC.  Frames that
are lost leave the rest in order; a frame that comes twice is parsed twice. -/
theorem downlink_delivers {a b : Radio} {steps : List GatewayStep}
    {hears : List RadioAction} {ts : List Transmission} {sent : Recorded}
    (haddr : gateway.devAddr.length = 4)
    (hnwk : node.nwkKey = gateway.nwkKey)
    (happ : node.appKey = gateway.appKey)
    (ha : a.AtRest) (honly : OnlyMessages steps)
    (hsent : runAll Recorded.step (gatewayActions crypto gateway steps)
      ⟨a, []⟩ = some sent)
    (hair : ts ⊆ sent.sent)
    (hb : b.Ready) (hattentive : b.Attentive) (hexplicit : b.implicit = false)
    (hkeeps : KeepsHeader hears) (hbfits : SendsFit hears)
    (harrive : List.Forall₂ Arrives ts (receptions hears b.headerDial)) :
    exists got s',
      got ⊆ messages steps ∧ got.length = ts.length ∧
      (ts.Sublist sent.sent -> got.Sublist (messages steps)) ∧
      runAll Recorded.step hears ⟨b, []⟩ = some s' ∧
      s'.radio.inbox.map (parseDownPacket crypto node) =
        b.inbox.map (parseDownPacket crypto node) ++
          got.map (fun m => .ok (.parsed (m.decoded gateway))) := by
  have hstart : Settled a.chip.regs a.dial (Recorded.mk a []).radio :=
    settled_dial ha
  rcases hstart.run (gatewayActions_fit haddr honly) with
    ⟨sent', hrun, -, new, hnew, hcarries⟩
  rw [hsent] at hrun
  cases hrun
  rw [List.nil_append] at hnew
  have hframes := (carries_frames hcarries).trans (broadcasts_bytes _ _)
  rw [sentPackets_gatewayActions haddr honly, ← hnew] at hframes
  have hsubset : ts.map Transmission.frame ⊆
      (messages steps).map (Message.bytes crypto gateway) := by
    rw [← hframes]
    exact List.map_subset _ hair
  rcases exists_messages hsubset with ⟨got, hgot, heq, hordered⟩
  have hlistens : Settled b.chip.regs b.headerDial (Recorded.mk b []).radio :=
    settled_headerDial hb.done hb.noHop hb.header
  have hattends : Attends b.headerDial (Recorded.mk b []).radio :=
    hb.attends hattentive
  rcases hlistens.run hbfits with ⟨s', hrun, -⟩
  have hinbox := (hattends.run hlistens hbfits hrun).2
  rw [heard_arrives (congrArg some hexplicit) hkeeps harrive, heq] at hinbox
  have hne : (got.map (Message.bytes crypto gateway)).filter
      (fun frame => frame ≠ []) = got.map (Message.bytes crypto gateway) := by
    apply List.filter_eq_self.mpr
    intro frame hframe
    rcases List.mem_map.mp hframe with ⟨m, _, rfl⟩
    have hlength := @Message.length_bytes crypto _ haddr m
    apply decide_eq_true
    intro hempty
    rw [hempty, List.length_nil] at hlength
    lia
  refine ⟨got, s', hgot, ?_, ?_, hrun, ?_⟩
  · have hlengths := congrArg List.length heq
    rw [List.length_map, List.length_map] at hlengths
    exact hlengths.symm
  · intro hts
    apply hordered
    rw [← hframes]
    exact hts.map _
  · rw [hinbox, hne, List.map_append, List.map_map]
    congr 1
    apply List.map_congr_left
    intro m _
    exact m.parse haddr hnwk happ

def hiMessage : Message where
  confirmed := true
  payload := [104, 105]
  fport := 7
  fcnt := 0x1234
  fopts := [2]
  payload_ne := List.cons_ne_nil _ _
  fcnt_lt := by decide
  fopts_le := by decide
  fits := by decide

def hiReception : Reception :=
  { emptyPacket with
    nbBytes := 16
    fifo := fun i => (hiMessage.bytes zeroCrypto device).getD i.toNat 0 }

def hiSteps : List GatewayStep :=
  [.message hiMessage, .radio (.call .loraReceive)]

def hearsTwice : List RadioAction :=
  [.call .loraReceive, .round hiReception, .round hiReception]

theorem downlink_delivers_twice :
    exists sent s',
      runAll Recorded.step (gatewayActions zeroCrypto device hiSteps)
        ⟨startRadio, []⟩ = some sent ∧
      runAll Recorded.step hearsTwice ⟨startRadio, []⟩ = some s' ∧
      s'.radio.inbox.map (parseDownPacket zeroCrypto device) =
        [.ok (.parsed (hiMessage.decoded device)),
          .ok (.parsed (hiMessage.decoded device))] := by
  have honly : OnlyMessages hiSteps := by
    intro buf hmem
    simp [hiSteps] at hmem
  have hstart : Settled startRadio.chip.regs startRadio.dial
      (Recorded.mk startRadio []).radio :=
    settled_dial startRadio_atRest
  rcases hstart.run (@gatewayActions_fit zeroCrypto device rfl _ honly) with
    ⟨sent, hrun, -, new, hnew, hcarries⟩
  rw [List.nil_append] at hnew
  have hframes : new.map Transmission.frame =
      [hiMessage.bytes zeroCrypto device] :=
    (carries_frames hcarries).trans rfl
  rcases List.map_eq_singleton_iff.mp hframes with ⟨t, hnew', hframe⟩
  have harrives : Arrives t hiReception := by
    constructor
    · rfl
    · rw [hframe]
      rfl
    · rw [hframe]
      rfl
  have hair : [t, t] ⊆ sent.sent := by
    rw [hnew, hnew']
    exact List.cons_subset.mpr ⟨List.mem_singleton_self t, fun _ h => h⟩
  have hkeeps : KeepsHeader hearsTwice := by
    intro pl hmem
    simp [hearsTwice] at hmem
  have hnone : SendsFit hearsTwice := by
    intro buf hmem
    simp [hearsTwice] at hmem
  rcases @downlink_delivers zeroCrypto device device startRadio startRadio
    hiSteps hearsTwice [t, t] sent rfl rfl rfl startRadio_atRest honly hrun hair
    startRadio_ready startRadio_attentive rfl hkeeps hnone
    (.cons harrives (.cons harrives .nil)) with
    ⟨got, s', hgot, hlength, -, hrun', hinbox⟩
  have htwo : got = List.replicate 2 hiMessage := by
    apply List.eq_replicate_iff.mpr
    exact ⟨hlength, fun m hm => List.mem_singleton.mp (hgot hm)⟩
  refine ⟨sent, s', hrun, hrun', ?_⟩
  rw [hinbox, htwo]
  rfl

end LoRaWan
end Fluxnode
