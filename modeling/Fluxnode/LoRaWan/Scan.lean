import Fluxnode.LoRa.Deliveries
import Fluxnode.LoRaWan.BeaconChannel

/-!
# The channel scan

`spiffs_image/lorawanscan.js` sends a confirmed packet on every channel, one
after the other, and listens for the answer on the channel that goes with it.
A timeout leads from one channel to the next one.
-/

namespace Fluxnode
namespace LoRaWan

open Foundation
open Js (Bytes JsError Number load)
open LoRa (RadioCall RadioAction Recorded Reception)

structure UpDownChannel where
  channel : Int
  sf : Nat
  bw : Nat
  upFreq : ℚ
  downFreq : ℚ
  down2Freq : ℚ
  deriving DecidableEq, Repr

def loraWanUpDownChannel915 (channel : Int) : UpDownChannel where
  channel := channel
  sf := if channel > 63 then 8 else 7
  bw := if channel > 63 then 500000 else 125000
  upFreq := loraWanChannel915 channel 0
  downFreq := loraWanChannel915 (channel.tmod 8) 1
  down2Freq := 9233 / 10

def sendUp (pkt : Bytes) (channel : Int) : List RadioCall :=
  let chans := loraWanUpDownChannel915 channel
  [.loraIdle,
    .setFrequency (.finite chans.upFreq),
    .setter (.setBW (.finite chans.bw)),
    .setter (.setSF (.finite chans.sf)),
    .setter (.setTxPower (.finite 17)),
    .setter (.setPreambleLen (.finite 8)),
    .setter (.setIQMode false),
    .setter (.setSyncWord (.finite 0x34)),
    .setter (.setCRC true),
    .loraReceive,
    .sendPacket pkt,
    .loraIdle,
    .setter (.setBW (.finite 500000)),
    .setter (.setIQMode true),
    .setFrequency (.finite chans.downFreq),
    .loraReceive]

/-- `scanState`, with the timeouts of `scanNext` that are pending. -/
structure ScanState where
  lp : LoraWanPacket
  channel : Int
  channel_max : Int
  answers : List Int
  timeouts : List Nat
  deriving DecidableEq, Repr

def startScan (addr nwkkey appkey : Bytes) : Except JsError ScanState := do
  let lp <- loraWanPacket addr nwkkey appkey
  return { lp := lp, channel := -1, channel_max := 71, answers := [],
           timeouts := [5000] }

def ping : Bytes :=
  [0x70, 0x69, 0x6e, 0x67]

def scanNext (crypto : Crypto) (s : ScanState) :
    Except JsError (ScanState × List RadioCall) :=
  if s.channel < s.channel_max then do
    let s := { s with channel := s.channel + 1 }
    let pkt <- confirmedUp crypto s.lp ping 1 s.channel []
    let delay := if s.channel ≤ s.channel_max then 5000 else 7000
    return ({ s with timeouts := s.timeouts ++ [delay] },
      sendUp pkt s.channel)
  else
    return (s, [])

def processLora (crypto : Crypto) (s : ScanState) (pkt : Bytes) :
    Except JsError ScanState := do
  match <- parseDownPacket crypto s.lp pkt with
  | .failed _ => return s
  | .parsed res =>
      if res.ack = true ∧ res.micVerified = true then
        return { s with answers := s.answers ++ [s.channel] }
      else
        return s

/-!
## The board
-/

structure Board where
  recorded : Recorded
  scan : ScanState

inductive BoardEvent where
  /-- The pending timeout is over. -/
  | timeout
  /-- A packet arrives, and is passed to `OnEvent`. -/
  | reception (rx : Reception)

def processAll (crypto : Crypto) :
    List Bytes -> ScanState -> Except JsError ScanState
  | [], s => return s
  | pkt :: rest, s => do
      let s <- processLora crypto s pkt
      processAll crypto rest s

/-- An event of the board; none where a script throws. -/
def Board.step (crypto : Crypto) : BoardEvent -> Board -> Option Board
  | .timeout, b =>
      match b.scan.timeouts with
      | [] => none
      | _ :: rest => do
          let (scan, calls) <-
            (scanNext crypto { b.scan with timeouts := rest }).toOption
          let recorded <-
            runAll Recorded.step (calls.map RadioAction.call) b.recorded
          return ⟨recorded, scan⟩
  | .reception rx, b => do
      let recorded <- Recorded.step (.round rx) b.recorded
      let arrived :=
        recorded.radio.inbox.drop b.recorded.radio.inbox.length
      let scan <- (processAll crypto arrived b.scan).toOption
      return ⟨recorded, scan⟩

/-!
## What is sent and what is answered
-/

def uplink (crypto : Crypto) (self : LoraWanPacket) (c : Nat) : Bytes :=
  withMic crypto self.nwkKey self.devAddr c 0
    (frameBytes 0x80 self.devAddr 0 c [] 1
      (applyKeyStream crypto self.appKey self.devAddr c 0 ping))

/-- A packet that acknowledges, with a MIC under the key of the network. -/
def Acknowledges (crypto : Crypto) (self : LoraWanPacket) (pkt : Bytes) :
    Prop :=
  Parsable pkt ∧ load pkt 5 &&& 0x20 ≠ 0 ∧
    MicVerified crypto self.nwkKey pkt

instance (crypto : Crypto) (self : LoraWanPacket) (pkt : Bytes) :
    Decidable (Acknowledges crypto self pkt) := by
  unfold Acknowledges Parsable
  infer_instance

theorem confirmedUp_ping (crypto : Crypto) {self : LoraWanPacket} {c : Nat}
    (haddr : self.devAddr.length = 4) (hc : c < 65536) :
    confirmedUp crypto self ping 1 c [] = .ok (uplink crypto self c) := by
  rw [confirmedUp, makePacketFromPayLoad_eq crypto haddr hc]
  rfl

theorem length_uplink (crypto : Crypto) {self : LoraWanPacket}
    (haddr : self.devAddr.length = 4) (c : Nat) :
    (uplink crypto self c).length = 17 := by
  rw [uplink, withMic, List.length_append, length_frameBytes haddr,
    length_micOf, length_applyKeyStream]
  rfl

theorem processLora_eq (crypto : Crypto) (s : ScanState) (pkt : Bytes) :
    processLora crypto s pkt = .ok { s with
      answers := s.answers ++
        if Acknowledges crypto s.lp pkt then [s.channel] else [] } := by
  unfold processLora
  by_cases hparsable : Parsable pkt
  · have hcounted : ((downPacket crypto s.lp pkt).ack = true ∧
        (downPacket crypto s.lp pkt).micVerified = true) <->
          Acknowledges crypto s.lp pkt := by
      simp [downPacket, Acknowledges, hparsable]
    rw [parseDownPacket_of_parsable crypto s.lp hparsable]
    show (if _ ∧ _ then Except.ok _ else Except.ok _) = _
    by_cases hacknowledges : Acknowledges crypto s.lp pkt
    · rw [if_pos (hcounted.mpr hacknowledges), if_pos hacknowledges]
    · rw [if_neg (fun h => hacknowledges (hcounted.mp h)),
        if_neg hacknowledges, List.append_nil]
  · rcases parseDownPacket_of_not_parsable crypto s.lp hparsable with
      ⟨errMsg, hfailed⟩
    rw [hfailed, if_neg (fun h => hparsable h.1), List.append_nil]
    rfl

def acknowledgements (crypto : Crypto) (self : LoraWanPacket)
    (pkts : List Bytes) : Nat :=
  pkts.countP (fun pkt => Acknowledges crypto self pkt)

def ScanState.counted (crypto : Crypto) (s : ScanState) (pkts : List Bytes) :
    ScanState :=
  { s with answers := s.answers ++
      List.replicate (acknowledgements crypto s.lp pkts) s.channel }

theorem processAll_eq (crypto : Crypto) (pkts : List Bytes) (s : ScanState) :
    processAll crypto pkts s = .ok (s.counted crypto pkts) := by
  unfold ScanState.counted
  induction pkts generalizing s with
  | nil =>
      show Except.ok s = _
      rw [acknowledgements, List.countP_nil, List.replicate_zero,
        List.append_nil]
  | cons pkt rest ih =>
      rw [processAll, processLora_eq]
      refine (ih _).trans ?_
      simp only [acknowledgements, List.countP_cons, List.append_assoc]
      by_cases hacknowledges : Acknowledges crypto s.lp pkt
      · simp [hacknowledges, List.replicate_succ]
      · simp [hacknowledges]

theorem Board.step_reception (crypto : Crypto) {b : Board} {rx : Reception}
    {recorded : Recorded}
    (h : Recorded.step (.round rx) b.recorded = some recorded) :
    Board.step crypto (.reception rx) b = some ⟨recorded, b.scan.counted crypto
      (recorded.radio.inbox.drop b.recorded.radio.inbox.length)⟩ := by
  simp only [Board.step, h, processAll_eq]
  rfl

theorem Board.step_timeout (crypto : Crypto) {b : Board} {delay : Nat}
    {rest : List Nat} (h : b.scan.timeouts = delay :: rest) {scan : ScanState}
    {calls : List RadioCall} {recorded : Recorded}
    (hscan : scanNext crypto { b.scan with timeouts := rest } =
      .ok (scan, calls))
    (hcalls : runAll Recorded.step (calls.map RadioAction.call) b.recorded =
      some recorded) :
    Board.step crypto .timeout b = some ⟨recorded, scan⟩ := by
  simp only [Board.step, h, hscan]
  show (runAll Recorded.step _ _).bind _ = _
  rw [hcalls]
  rfl

/-!
## The settings for a channel
-/

theorem accepted_of_tenths {n : Int} (hlow : 9020 ≤ n) (hhigh : n ≤ 9280) :
    LoRa.accepted (.finite ((n : ℚ) / 10)) = true := by
  have hten : (0 : ℚ) < 10 := by norm_num
  have hbelow : ¬ (n : ℚ) / 10 < 902 := by
    rw [div_lt_iff₀ hten]
    norm_cast
    lia
  have habove : ¬ (928 : ℚ) < (n : ℚ) / 10 := by
    rw [lt_div_iff₀ hten]
    norm_cast
    lia
  simp [LoRa.accepted, Number.less, hbelow, habove]

theorem upFreq_eq {c : Nat} (hc : c < 72) :
    exists n : Int, 9020 ≤ n ∧ n ≤ 9280 ∧
      loraWanChannel915 c 0 = (n : ℚ) / 10 := by
  unfold loraWanChannel915
  by_cases hlow : c ≤ 63
  · rw [if_pos (by lia)]
    exact ⟨9023 + 2 * c, by lia, by lia, rfl⟩
  · rw [if_neg (by lia), if_pos (by lia)]
    exact ⟨9030 + 16 * (c - 64), by lia, by lia, rfl⟩

theorem downFreq_eq (c : Nat) :
    exists n : Int, 9020 ≤ n ∧ n ≤ 9280 ∧
      loraWanChannel915 ((c : Int).tmod 8) 1 = (n : ℚ) / 10 := by
  have hmod : (c : Int).tmod 8 = c % 8 := Int.tmod_eq_emod_of_nonneg (by lia)
  unfold loraWanChannel915
  rw [hmod, if_neg (by lia), if_neg (by lia), if_pos (by lia)]
  exact ⟨9233 + 6 * (c % 8), by lia, by lia, rfl⟩

section Accept

variable (c : Nat) (config : LoRa.Config)

theorem bandwidth_lt : (if c ≤ 63 then 7 else 9) < 10 := by
  split <;> decide

def bandwidthOf : Fin 10 :=
  ⟨if c ≤ 63 then 7 else 9, bandwidth_lt c⟩

theorem spreadingFactor_lt : (if c ≤ 63 then 7 else 8) < 16 := by
  split <;> decide

def spreadingFactorOf : Fin 16 :=
  ⟨if c ≤ 63 then 7 else 8, spreadingFactor_lt c⟩

theorem wide_lt : 9 < 10 := by
  decide

def wide : Fin 10 :=
  ⟨9, wide_lt⟩

theorem requireInt_bw :
    Js.requireInt (.finite (loraWanUpDownChannel915 c).bw) =
      if c ≤ 63 then 125000 else 500000 := by
  have hnarrow : Js.requireInt (.finite (125000 : Nat)) = 125000 := by decide
  have hwide : Js.requireInt (.finite (500000 : Nat)) = 500000 := by decide
  unfold loraWanUpDownChannel915
  by_cases hc : c ≤ 63
  · rw [if_pos hc, ← hnarrow]
    dsimp only
    rw [if_neg (by lia)]
  · rw [if_neg hc, ← hwide]
    dsimp only
    rw [if_pos (by lia)]

theorem requireInt_sf :
    Js.requireInt (.finite (loraWanUpDownChannel915 c).sf) =
      if c ≤ 63 then 7 else 8 := by
  have hnarrow : Js.requireInt (.finite (7 : Nat)) = 7 := by decide
  have hwide : Js.requireInt (.finite (8 : Nat)) = 8 := by decide
  unfold loraWanUpDownChannel915
  by_cases hc : c ≤ 63
  · rw [if_pos hc, ← hnarrow]
    dsimp only
    rw [if_neg (by lia)]
  · rw [if_neg hc, ← hwide]
    dsimp only
    rw [if_pos (by lia)]

theorem accept_bw :
    config.accept (.setBW (.finite (loraWanUpDownChannel915 c).bw)) =
      { config with bandwidth := some (bandwidthOf c) } := by
  simp only [LoRa.Config.accept, requireInt_bw, bandwidthOf]
  split <;> rfl

theorem accept_sf :
    config.accept (.setSF (.finite (loraWanUpDownChannel915 c).sf)) =
      { config with spreadingFactor := some (spreadingFactorOf c) } := by
  simp only [LoRa.Config.accept, requireInt_sf, spreadingFactorOf]
  split <;> rfl

theorem accept_wide :
    config.accept (.setBW (.finite 500000)) =
      { config with bandwidth := some wide } := by
  have hint : Js.requireInt (.finite 500000) = 500000 := by decide
  simp only [LoRa.Config.accept, hint]
  rfl

theorem accept_txPower :
    config.accept (.setTxPower (.finite 17)) =
      { config with txPower := some 17 } := by
  have huint : Js.requireUint (.finite 17) = 17 := by decide
  simp only [LoRa.Config.accept, huint]
  rfl

theorem accept_preambleLen :
    config.accept (.setPreambleLen (.finite 8)) =
      { config with preambleLength := some 8 } := by
  have hint : Js.requireInt (.finite 8) = 8 := by decide
  simp only [LoRa.Config.accept, hint]
  rfl

theorem accept_syncWord :
    config.accept (.setSyncWord (.finite 0x34)) =
      { config with syncWord := some 0x34 } := by
  have huint : Js.requireUint (.finite 0x34) = 0x34 := by decide
  simp only [LoRa.Config.accept, huint]
  rfl

end Accept

def frequencyNumber (freq : ℚ) : UInt32 :=
  LoRa.freqRegs (.finite freq)

def uplinkDial (c : Nat) (d : LoRa.Dial) : LoRa.Dial where
  config := { d.config with
    bandwidth := some (bandwidthOf c)
    spreadingFactor := some (spreadingFactorOf c)
    txPower := some 17
    preambleLength := some 8
    invertIq := some false
    syncWord := some 0x34
    crc := some true }
  frequency := some (frequencyNumber (loraWanUpDownChannel915 c).upFreq)
  mode := .recv
  chipMode := some LoRa.modeRxContinuous

def downlinkDial (c : Nat) (pkt : Bytes) (d : LoRa.Dial) : LoRa.Dial where
  config := { ((uplinkDial c d).loaded pkt).config with
    bandwidth := some wide
    invertIq := some true }
  frequency := some (frequencyNumber (loraWanUpDownChannel915 c).downFreq)
  mode := .recv
  chipMode := some LoRa.modeRxContinuous

theorem step_frequency {freq : ℚ} {n : Int} (hlow : 9020 ≤ n)
    (hhigh : n ≤ 9280) (hfreq : freq = (n : ℚ) / 10) (d : LoRa.Dial) :
    d.step (.call (.setFrequency (.finite freq))) =
      { d with frequency := some (frequencyNumber freq) } := by
  rw [LoRa.step_setFrequency, hfreq, if_pos (accepted_of_tenths hlow hhigh)]
  rfl

theorem step_setter (call : LoRa.Setter) (d : LoRa.Dial) :
    d.step (.call (.setter call)) =
      { d with config := d.config.accept call } := rfl

theorem uplink_steps {c : Nat} (hc : c < 72) (pkt : Bytes) (d : LoRa.Dial) :
    d.run (((sendUp pkt c).take 10).map RadioAction.call) =
      uplinkDial c d := by
  rcases upFreq_eq hc with ⟨n, hlow, hhigh, hfreq⟩
  have hup : (loraWanUpDownChannel915 c).upFreq = (n : ℚ) / 10 := hfreq
  simp only [sendUp, List.take_succ_cons, List.take_zero, List.map_cons,
    List.map_nil, LoRa.Dial.run, List.foldl_cons, List.foldl_nil,
    step_setter, step_frequency hlow hhigh hup, accept_bw, accept_sf,
    accept_txPower, accept_preambleLen, accept_syncWord]
  rfl

theorem downlink_steps (c : Nat) (pkt : Bytes) (d : LoRa.Dial) :
    (uplinkDial c d).run (((sendUp pkt c).drop 10).map RadioAction.call) =
      downlinkDial c pkt d := by
  rcases downFreq_eq c with ⟨n, hlow, hhigh, hfreq⟩
  have hdown : (loraWanUpDownChannel915 c).downFreq = (n : ℚ) / 10 := hfreq
  simp only [sendUp, List.drop_succ_cons, List.drop_zero, List.map_cons,
    List.map_nil, LoRa.Dial.run, List.foldl_cons, List.foldl_nil,
    step_setter, step_frequency hlow hhigh hdown, accept_wide]
  rfl

theorem sendUp_split (pkt : Bytes) (c : Nat) :
    (sendUp pkt c).map RadioAction.call =
      ((sendUp pkt c).take 10).map RadioAction.call ++
        ((sendUp pkt c).drop 10).map RadioAction.call := by
  rw [← List.map_append, List.take_append_drop]

/-- One packet is on the air, and then the answer is awaited. -/
theorem sendUp_dial {c : Nat} (hc : c < 72) (pkt : Bytes) (d : LoRa.Dial) :
    LoRa.broadcasts ((sendUp pkt c).map RadioAction.call) d =
        [⟨pkt, (uplinkDial c d).loaded pkt⟩] ∧
      d.run ((sendUp pkt c).map RadioAction.call) = downlinkDial c pkt d := by
  have hsilent : LoRa.broadcasts
      (((sendUp pkt c).take 10).map RadioAction.call) d = [] := rfl
  constructor
  · rw [sendUp_split, LoRa.broadcasts_append, hsilent, uplink_steps hc]
    rfl
  · rw [sendUp_split, LoRa.Dial.run_append, uplink_steps hc, downlink_steps]

end LoRaWan
end Fluxnode
