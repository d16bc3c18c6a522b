import Fluxnode.LoRaWan.BeaconChannel
import Fluxnode.LoRaWan.ScanRun

/-!
# Listening for beacons

`spiffs_image/lorawanscan.js` also listens for class B beacons: it begins on
the channel of the next beacon, or on the first one while the clock is not set,
goes on to the next channel with each packet, and sets the clock by a beacon
whose time has the right CRC.
-/

namespace Fluxnode
namespace LoRaWan

open Foundation
open Js (Bytes JsError Number littleEndian)
open LoRa

def LoRaCall.radio : LoRaCall -> RadioCall
  | .loraIdle => .loraIdle
  | .setFrequency freq => .setFrequency (.finite freq)
  | .setPayloadLen len => .setter (.setPayloadLen (.finite len))
  | .setSF sf => .setter (.setSF (.finite sf))
  | .setTxPower power => .setter (.setTxPower (.finite power))
  | .setPreambleLen len => .setter (.setPreambleLen (.finite len))
  | .setSyncWord word => .setter (.setSyncWord (.finite word))
  | .setCRC on => .setter (.setCRC on)
  | .setBW bw => .setter (.setBW (.finite bw))
  | .setIQMode on => .setter (.setIQMode on)
  | .loraReceive => .loraReceive

/-- `scanState`, with the times that `set_system_time` has got. -/
structure ListenState where
  channel : Int
  clock : List UInt32
  deriving DecidableEq, Repr

def listenNext (s : ListenState) : ListenState × List RadioCall :=
  let channel := if s.channel < 7 then s.channel + 1 else 0
  ({ s with channel := channel },
    (loraWanBeaconListen channel 0).1.map LoRaCall.radio)

/-- `OnStart` in the mode that listens, when `new Date().getTime()` is the given
number of milliseconds. -/
def startListen (getTime : Int) : ListenState × List RadioCall :=
  listenNext {
    channel :=
      if getTime > gpsEpoch then
        (loraWanBeaconGetNextChannel getTime).channel - 1
      else -1
    clock := [] }

def processListen (s : ListenState) (pkt : Bytes) :
    Except JsError (ListenState × List RadioCall) := do
  match <- loraWanBeaconDecode pkt 0 with
  | .failed _ => return listenNext s
  | .decoded beacon =>
      if beacon.time_crc then
        return listenNext { s with
          clock := s.clock ++
            [Js.requireUint (.finite (beacon.time + 1 : Int))] }
      else
        return listenNext s

/-!
## The board
-/

structure Listener where
  recorded : Recorded
  listen : ListenState

def Listener.calls (recorded : Recorded) :
    ListenState × List RadioCall -> Option Listener
  | (listen, calls) => do
      let recorded <- runAll Recorded.step (calls.map RadioAction.call) recorded
      return ⟨recorded, listen⟩

def Listener.process : List Bytes -> Listener -> Option Listener
  | [], b => some b
  | pkt :: rest, b => do
      let handled <- (processListen b.listen pkt).toOption
      let b <- Listener.calls b.recorded handled
      Listener.process rest b

def Listener.start (getTime : Int) (radio : Radio) : Option Listener :=
  Listener.calls ⟨radio, []⟩ (startListen getTime)

def Listener.step (rx : Reception) (b : Listener) : Option Listener := do
  let recorded <- Recorded.step (.round rx) b.recorded
  Listener.process
    (recorded.radio.inbox.drop b.recorded.radio.inbox.length)
    ⟨recorded, b.listen⟩

/-!
## The dial of a channel
-/

theorem twelve_lt : 12 < 16 := by
  decide

def beaconSpreading : Fin 16 :=
  ⟨12, twelve_lt⟩

structure BeaconDial (c : Nat) (d : Dial) : Prop where
  frequency : d.frequency = some (frequencyNumber (loraWanChannel915 c 1))
  implicit : d.config.implicit = some true
  payloadLength : d.config.payloadLength = some 23
  spreadingFactor : d.config.spreadingFactor = some beaconSpreading
  preambleLength : d.config.preambleLength = some 10
  syncWord : d.config.syncWord = some 0x34
  crc : d.config.crc = some false
  bandwidth : d.config.bandwidth = some wide
  invertIq : d.config.invertIq = some false
  mode : d.mode = .recv
  chipMode : d.chipMode = some modeRxContinuous

theorem beaconFreq_eq {c : Nat} (hc : c < 8) :
    exists n : Int, 9020 ≤ n ∧ n ≤ 9280 ∧
      loraWanChannel915 c 1 = (n : ℚ) / 10 := by
  unfold loraWanChannel915
  rw [if_neg (by lia), if_neg (by lia), if_pos (by lia)]
  exact ⟨9233 + 6 * c, by lia, by lia, rfl⟩

section Accept

variable (config : Config)

theorem accept_beaconLength :
    config.accept (.setPayloadLen (.finite (23 : Nat))) =
      { config with implicit := some true, payloadLength := some 23 } := by
  have hint : Js.requireInt (.finite (23 : Nat)) = 23 := by decide
  simp only [Config.accept, hint]
  rfl

theorem accept_beaconSpreading :
    config.accept (.setSF (.finite (12 : Nat))) =
      { config with spreadingFactor := some beaconSpreading } := by
  have hint : Js.requireInt (.finite (12 : Nat)) = 12 := by decide
  simp only [Config.accept, hint]
  rfl

theorem accept_beaconPower :
    config.accept (.setTxPower (.finite (1 : Nat))) = config := by
  have huint : Js.requireUint (.finite (1 : Nat)) = 1 := by decide
  simp only [Config.accept, huint]
  rfl

theorem accept_beaconPreamble :
    config.accept (.setPreambleLen (.finite (10 : Nat))) =
      { config with preambleLength := some 10 } := by
  have hint : Js.requireInt (.finite (10 : Nat)) = 10 := by decide
  simp only [Config.accept, hint]
  rfl

theorem accept_beaconSyncWord :
    config.accept (.setSyncWord (.finite (0x34 : Nat))) =
      { config with syncWord := some 0x34 } := by
  have huint : Js.requireUint (.finite (0x34 : Nat)) = 0x34 := by decide
  simp only [Config.accept, huint]
  rfl

theorem accept_beaconBandwidth :
    config.accept (.setBW (.finite (500000 : Nat))) =
      { config with bandwidth := some wide } := by
  have hint : Js.requireInt (.finite (500000 : Nat)) = 500000 := by decide
  simp only [Config.accept, hint]
  rfl

end Accept

theorem beaconListen_calls {c : Nat} (hc : c < 8) :
    (loraWanBeaconListen c 0).1 =
      [.loraIdle, .setFrequency (loraWanChannel915 c 1), .setPayloadLen 23,
        .setSF 12, .setTxPower 1, .setPreambleLen 10, .setSyncWord 0x34,
        .setCRC false, .setBW 500000, .setIQMode false, .loraReceive] := by
  have hfreq : loraWanChannel915 c 1 ≠ 0 := by
    intro hzero
    have hlisten := (loraWanBeaconListen_iff c).mpr (by lia)
    rw [loraWanBeaconListen, if_pos rfl] at hlisten
    dsimp only at hlisten
    rw [if_pos hzero] at hlisten
    cases hlisten
  rw [loraWanBeaconListen, if_pos rfl]
  dsimp only
  rw [if_neg hfreq]

theorem beaconListen_none {channel : Int}
    (h : ¬ (0 ≤ channel ∧ channel ≤ 7)) :
    (loraWanBeaconListen channel 0).1 = [] := by
  have hfreq : loraWanChannel915 channel 1 = 0 := by
    unfold loraWanChannel915
    rw [if_neg (by lia), if_neg (by lia), if_neg h]
  rw [loraWanBeaconListen, if_pos rfl]
  dsimp only
  rw [if_pos hfreq]

def channelCalls (channel : Int) : List RadioAction :=
  ((loraWanBeaconListen channel 0).1.map LoRaCall.radio).map RadioAction.call

theorem channelCalls_dial {c : Nat} (hc : c < 8) (d : Dial) :
    BeaconDial c (d.run (channelCalls c)) := by
  rcases beaconFreq_eq hc with ⟨n, hlow, hhigh, hfreq⟩
  rw [channelCalls, beaconListen_calls hc]
  simp only [List.map_cons, List.map_nil, LoRaCall.radio, Dial.run,
    List.foldl_cons, List.foldl_nil, step_setter,
    step_frequency hlow hhigh hfreq, accept_beaconLength,
    accept_beaconSpreading, accept_beaconPower, accept_beaconPreamble,
    accept_beaconSyncWord, accept_beaconBandwidth]
  exact ⟨rfl, rfl, rfl, rfl, rfl, rfl, rfl, rfl, rfl, rfl, rfl⟩

theorem channelCalls_silent {c : Nat} (hc : c < 8) (d : Dial) :
    broadcasts (channelCalls c) d = [] := by
  rw [channelCalls, beaconListen_calls hc]
  rfl

theorem channelCalls_heard {c : Nat} (hc : c < 8) (regs : Registers)
    (d : Dial) : heard regs (channelCalls c) d = [] := by
  rw [channelCalls, beaconListen_calls hc]
  rfl

theorem channelCalls_fit {c : Nat} (hc : c < 8) :
    SendsFit (channelCalls c) := by
  intro buf hbuf
  rw [channelCalls, beaconListen_calls hc] at hbuf
  simp [LoRaCall.radio] at hbuf

/-!
## The board between two packets
-/

variable {regs : Registers} {d : Dial}

structure HearsBeacons (c : Nat) (s : Radio) : Prop where
  opMode : s.chip.regs regOpMode = opMode modeRxContinuous
  frequency : Tuned (loraWanChannel915 c 1) s.chip.regs
  bandwidth : s.chip.regs regModemConfig1 &&& 0xf0 = 0x90
  headerMode : s.chip.regs regModemConfig1 &&& 0x01 = 0x01
  spreadingFactor : s.chip.regs regModemConfig2 &&& 0xf0 = 0xc0
  crc : s.chip.regs regModemConfig2 &&& 0x04 = 0
  payloadLength : s.chip.regs regPayloadLength = 23
  invertIq : s.chip.regs regInvertIq1 &&& 0x40 = 0
  preambleMsb : s.chip.regs regPreambleMsb = 0
  preambleLsb : s.chip.regs regPreambleLsb = 10
  syncWord : s.chip.regs regSyncWord = 0x34

theorem BeaconDial.radio {c : Nat} {s : Radio} (h : BeaconDial c d)
    (hsettled : Settled regs d s) : HearsBeacons c s := by
  have hregs := hsettled.follows.registers
  have hbandwidth : d.config.value .bandwidth = some 0x90 := by
    rw [Config.value, h.bandwidth]
    rfl
  have hheader : d.config.value .headerMode = some 0x01 := by
    rw [Config.value, h.implicit]
    rfl
  have hspreading : d.config.value .spreadingFactor = some 0xc0 := by
    rw [Config.value, h.spreadingFactor]
    rfl
  have hcrc : d.config.value .crc = some 0 := by
    rw [Config.value, h.crc]
    rfl
  have hinvert : d.config.value .invertIq = some 0 := by
    rw [Config.value, h.invertIq]
    rfl
  have hmsb : d.config.value .preambleMsb = some 0 := by
    rw [Config.value, h.preambleLength]
    rfl
  have hlsb : d.config.value .preambleLsb = some 10 := by
    rw [Config.value, h.preambleLength]
    rfl
  exact {
    opMode := hsettled.chipMode _ h.chipMode
    frequency := (tuned_registers h.frequency).congr hregs
    bandwidth := field_of_registers hregs hbandwidth
    headerMode := field_of_registers hregs hheader
    spreadingFactor := field_of_registers hregs hspreading
    crc := field_of_registers hregs hcrc
    payloadLength := whole_of_registers hregs
      (show d.config.value .payloadLength = _ from h.payloadLength) rfl
    invertIq := field_of_registers hregs hinvert
    preambleMsb := whole_of_registers hregs hmsb rfl
    preambleLsb := whole_of_registers hregs hlsb rfl
    syncWord := whole_of_registers hregs
      (show d.config.value .syncWord = _ from h.syncWord) rfl }

theorem BeaconDial.hears {c : Nat} (h : BeaconDial c d) (rx : Reception) :
    d.hears regs (.round rx) = if rx.crcError then [] else [rx.bytes 23] := by
  have hlength : d.rxLength regs rx = 23 := by
    have hfield := Dial.registers_value (f := .payloadLength)
      (show d.config.value .payloadLength = _ from h.payloadLength) regs
    have hall : forall y : UInt8, y &&& 0xff = y := fun y => UInt8.and_neg_one
    rw [show Field.payloadLength.mask = 0xff from rfl, hall, hall] at hfield
    rw [Dial.rxLength, if_pos h.implicit]
    exact congrArg UInt8.toNat hfield
  rw [Dial.hears, hlength]
  simp only [h.mode, ne_eq, not_true_eq_false, false_or, OfNat.ofNat_ne_zero,
    or_false]

/-- What a packet of the length of a beacon sets the clock to. -/
def clockOf (pkt : Bytes) : List UInt32 :=
  if littleEndian (piece pkt 9 11) = (Js.crcOf (piece pkt 0 9)).toNat then
    [UInt32.ofNat (min (littleEndian (piece pkt 5 9) + 315964783) 0xffffffff)]
  else []

theorem requireUint_natCast (n : Nat) :
    Js.requireUint (.finite (n : ℚ)) = UInt32.ofNat (min n 0xffffffff) := by
  have hneg : ¬ (n : ℚ) < 0 := not_lt.mpr (Nat.cast_nonneg n)
  unfold Js.requireUint
  dsimp only
  rw [if_neg hneg]
  by_cases hlarge : 0xffffffff < n
  · have hcast : (n : ℚ) > 0xffffffff := by exact_mod_cast hlarge
    rw [if_pos hcast, Nat.min_eq_right (Nat.le_of_lt hlarge)]
    rfl
  · have hcast : ¬ (n : ℚ) > 0xffffffff := by
      intro h
      apply hlarge
      exact_mod_cast h
    rw [if_neg hcast, Nat.min_eq_left (Nat.le_of_not_lt hlarge), Js.truncate,
      if_neg hneg]
    have hfloor : (n : ℚ).floor = n := Rat.floor_intCast n
    have hmod : ((n : Int) % 2 ^ 32).toNat = n := by lia
    rw [hfloor, UInt32.ofInt, hmod]

theorem processListen_eq (s : ListenState) {pkt : Bytes}
    (hlen : pkt.length = 23) :
    processListen s pkt =
      .ok (listenNext { s with clock := s.clock ++ clockOf pkt }) := by
  have htime : (beaconOf pkt).time + 1 =
      ((littleEndian (piece pkt 5 9) + 315964783 : Nat) : Int) := by
    show (315964800 + (littleEndian (piece pkt 5 9) : Int) - 18) + 1 = _
    push_cast
    lia
  unfold processListen clockOf
  rw [loraWanBeaconDecode_eq hlen]
  show (if (beaconOf pkt).time_crc = true then Except.ok _ else Except.ok _) = _
  have hset : (beaconOf pkt).time_crc = true <-> littleEndian (piece pkt 9 11) =
      (Js.crcOf (piece pkt 0 9)).toNat := beq_iff_eq
  rw [htime, Int.cast_natCast, requireUint_natCast]
  by_cases hcrc : littleEndian (piece pkt 9 11) =
      (Js.crcOf (piece pkt 0 9)).toNat
  · rw [if_pos (hset.mpr hcrc), if_pos hcrc]
  · rw [if_neg (fun h => hcrc (hset.mp h)), if_neg hcrc, List.append_nil]

structure Listening (regs : Registers) (c : Nat) (b : Listener) : Prop where
  radio : exists d, Settled regs d b.recorded.radio ∧
    Attends d b.recorded.radio ∧ BeaconDial c d
  channel : b.listen.channel = c
  lt : c < 8
  silent : b.recorded.sent = []

theorem listenNext_eq {s : ListenState} {c : Nat} (hchannel : s.channel = c)
    (hc : c < 8) :
    listenNext s = ({ s with channel := ((c + 1) % 8 : Nat) },
      (loraWanBeaconListen ((c + 1) % 8 : Nat) 0).1.map LoRaCall.radio) := by
  have hnext : (if s.channel < 7 then s.channel + 1 else 0) =
      (((c + 1) % 8 : Nat) : Int) := by
    rw [hchannel]
    split <;> lia
  rw [listenNext, hnext]

theorem listening_of_calls {c : Nat} (hc : c < 8) {recorded : Recorded}
    (hsettled : Settled regs d recorded.radio)
    (himplicit : exists b, d.config.implicit = some b)
    (hclear : recorded.radio.Clear) (hsilent : recorded.sent = [])
    (clock : List UInt32) :
    exists b, Listener.calls recorded (⟨c, clock⟩,
        (loraWanBeaconListen c 0).1.map LoRaCall.radio) = some b ∧
      Listening regs c b ∧ b.listen.clock = clock ∧
      b.recorded.radio.inbox = recorded.radio.inbox := by
  have hfits := channelCalls_fit hc
  rcases hsettled.run hfits with
    ⟨last, hrun, hsettled', new, hnew, hcarries⟩
  have hidle : channelCalls c = .call .loraIdle :: (channelCalls c).tail := by
    rw [channelCalls, beaconListen_calls hc]
    rfl
  rw [hidle] at hfits hrun
  rcases attends_run_idle hsettled himplicit hclear (fun buf hbuf =>
    hfits buf (List.mem_cons_of_mem _ hbuf)) hrun with ⟨hattends', hinbox⟩
  rw [← hidle] at hrun hattends' hinbox
  rw [channelCalls_silent hc] at hcarries
  cases hcarries
  rw [channelCalls_heard hc, List.append_nil] at hinbox
  rw [hsilent] at hnew
  refine ⟨⟨last, ⟨c, clock⟩⟩, ?_, ⟨⟨_, hsettled', hattends',
    channelCalls_dial hc d⟩, rfl, hc, hnew⟩, rfl, hinbox⟩
  show (runAll Recorded.step (channelCalls c) recorded).bind _ = _
  rw [hrun]
  rfl

structure Handled (regs : Registers) (c : Nat) (b : Listener)
    (pkts : List Bytes) (b' : Listener) : Prop where
  listening : Listening regs ((c + pkts.length) % 8) b'
  inbox : b'.recorded.radio.inbox = b.recorded.radio.inbox ++ pkts
  clock : b'.listen.clock = b.listen.clock ++ pkts.flatMap clockOf

def beaconPackets (receptions : List Reception) : List Bytes :=
  receptions.flatMap (fun rx => if rx.crcError then [] else [rx.bytes 23])

theorem Listening.step {c : Nat} {b : Listener} (h : Listening regs c b)
    (rx : Reception) :
    exists b', Listener.step rx b = some b' ∧
      Handled regs c b (beaconPackets [rx]) b' := by
  rcases h.radio with ⟨d, hsettled, hattends, hdial⟩
  rcases hsettled.step (.round rx) (fun buf heq => by cases heq) with
    ⟨recorded, hstep, hsettled', new, hnew, hcarries⟩
  rcases hattends.step hsettled hstep hsettled' with ⟨hattends', hinbox⟩
  cases hcarries
  have hsilent : recorded.sent = [] := by
    rw [hnew, h.silent]
    rfl
  have hpackets : d.hears regs (.round rx) = beaconPackets [rx] := by
    rw [hdial.hears, beaconPackets, List.flatMap_singleton]
  rw [hpackets] at hinbox
  have harrived : recorded.radio.inbox.drop b.recorded.radio.inbox.length =
      beaconPackets [rx] := by
    rw [hinbox, List.drop_left]
  have hboard : Listener.step rx b =
      Listener.process (beaconPackets [rx]) ⟨recorded, b.listen⟩ := by
    simp only [Listener.step, hstep]
    show Listener.process _ _ = _
    rw [harrived]
  rw [hboard]
  cases herror : rx.crcError with
  | true =>
      have hnone : beaconPackets [rx] = [] := by
        rw [beaconPackets, List.flatMap_singleton, herror, if_pos rfl]
      rw [hnone] at hinbox ⊢
      refine ⟨_, rfl, ⟨?_, hinbox, (List.append_nil _).symm⟩⟩
      have hsame : (c + ([] : List Bytes).length) % 8 = c :=
        Nat.mod_eq_of_lt h.lt
      rw [hsame]
      exact ⟨⟨_, hsettled', hattends', hdial⟩, h.channel, h.lt,
        hsilent⟩
  | false =>
      have hone : beaconPackets [rx] = [rx.bytes 23] := by
        rw [beaconPackets, List.flatMap_singleton, herror,
          if_neg Bool.false_ne_true]
      have hlen : (rx.bytes 23).length = 23 := by
        rw [Reception.bytes, List.length_map, List.length_range]
      rw [hone] at hinbox ⊢
      rcases listening_of_calls (Nat.mod_lt (c + 1) (by decide)) hsettled'
        hattends'.implicit hattends'.clear hsilent
        (b.listen.clock ++ clockOf (rx.bytes 23)) with
        ⟨b', hcalls, hlistening, hclock, hinbox'⟩
      refine ⟨b', ?_, ⟨hlistening, hinbox'.trans hinbox, ?_⟩⟩
      · simp only [Listener.process, processListen_eq _ hlen]
        rw [listenNext_eq (c := c) (by exact h.channel) h.lt]
        show (Listener.calls recorded _).bind some = _
        rw [hcalls]
        rfl
      · rw [hclock, List.flatMap_singleton]

theorem Listening.run {c : Nat} {b : Listener} (h : Listening regs c b)
    (receptions : List Reception) :
    exists b', runAll Listener.step receptions b = some b' ∧
      Handled regs c b (beaconPackets receptions) b' := by
  induction receptions generalizing c b with
  | nil =>
      refine ⟨b, rfl, ?_, (List.append_nil _).symm,
        (List.append_nil _).symm⟩
      have hsame : (c + (beaconPackets []).length) % 8 = c :=
        Nat.mod_eq_of_lt h.lt
      rw [hsame]
      exact h
  | cons rx rest ih =>
      have hcons : beaconPackets (rx :: rest) =
          beaconPackets [rx] ++ beaconPackets rest := by
        simp only [beaconPackets, List.flatMap_cons, List.flatMap_nil,
          List.append_nil]
      rcases h.step rx with ⟨mid, hmid, hfirst⟩
      rcases ih hfirst.listening with ⟨b', hrun, hrest⟩
      refine ⟨b', ?_, ⟨?_, ?_, ?_⟩⟩
      · simp only [runAll, hmid]
        exact hrun
      · have hchannel := hrest.listening
        rw [Nat.mod_add_mod, Nat.add_assoc] at hchannel
        rw [hcons, List.length_append]
        exact hchannel
      · rw [hrest.inbox, hfirst.inbox, hcons, List.append_assoc]
      · rw [hrest.clock, hfirst.clock, hcons, List.flatMap_append,
          List.append_assoc]

/-!
## Runs
-/

def HasFirstChannel (getTime : Int) : Prop :=
  getTime ≤ 315964800 ∨ -128 ≤ (beaconSeconds getTime).tmod 1024

/-- The channel to begin on: the one of the next beacon, once the clock is
set. -/
def firstChannel (getTime : Int) : Nat :=
  if getTime ≤ 315964800 then 0
  else ((beaconSeconds getTime / 128 + 1) % 8).toNat

theorem firstChannel_lt (getTime : Int) : firstChannel getTime < 8 := by
  unfold firstChannel
  split
  · decide
  · lia

/-- A remainder in the direction of zero, in terms of one that is not
negative. -/
theorem tmod_period (x : Int) :
    x.tmod 1024 = x % 1024 ∧ 0 ≤ x ∨
      x.tmod 1024 = x % 1024 - 1024 ∧ x < 0 ∧ x % 1024 ≠ 0 ∨
      x.tmod 1024 = 0 ∧ x < 0 ∧ x % 1024 = 0 := by
  rw [Int.tmod_eq_emod]
  by_cases hneg : x < 0
  · by_cases hdvd : x % 1024 = 0
    · refine .inr (.inr ⟨?_, hneg, hdvd⟩)
      rw [if_pos (.inr (Int.dvd_of_emod_eq_zero hdvd)), hdvd]
      rfl
    · refine .inr (.inl ⟨?_, hneg, hdvd⟩)
      rw [if_neg (by lia)]
      rfl
  · refine .inl ⟨?_, by lia⟩
    rw [if_pos (.inl (by lia))]
    exact Int.sub_zero _

theorem startListen_eq (getTime : Int) :
    startListen getTime =
      let channel : Int :=
        if getTime ≤ 315964800 then 0
        else if (beaconSeconds getTime).tmod 1024 / 128 < 7 then
          (beaconSeconds getTime).tmod 1024 / 128 + 1
        else 0
      (⟨channel, []⟩,
        (loraWanBeaconListen channel 0).1.map LoRaCall.radio) := by
  have hchannel : (if getTime > gpsEpoch then
        (loraWanBeaconGetNextChannel getTime).channel - 1 else -1) =
      if getTime ≤ 315964800 then -1
      else (beaconSeconds getTime).tmod 1024 / 128 := by
    by_cases hunset : getTime ≤ 315964800
    · have hbefore : ¬ getTime > gpsEpoch := not_lt.mpr hunset
      rw [if_pos hunset, if_neg hbefore]
    · have hbehind : getTime > gpsEpoch := lt_of_not_ge hunset
      rw [if_neg hunset, if_pos hbehind]
      show 1 + (beaconSeconds getTime).tmod 1024 / 128 - 1 = _
      exact add_sub_cancel_left _ _
  unfold startListen listenNext
  rw [hchannel]
  by_cases hunset : getTime ≤ 315964800
  · simp only [if_pos hunset]
    rfl
  · simp only [if_neg hunset]

theorem startListen_first {getTime : Int} (h : HasFirstChannel getTime) :
    startListen getTime = (⟨firstChannel getTime, []⟩,
      (loraWanBeaconListen (firstChannel getTime) 0).1.map
        LoRaCall.radio) := by
  have hchannel : (if getTime ≤ 315964800 then 0
      else if (beaconSeconds getTime).tmod 1024 / 128 < 7 then
        (beaconSeconds getTime).tmod 1024 / 128 + 1
      else 0) = (firstChannel getTime : Int) := by
    unfold firstChannel
    by_cases hunset : getTime ≤ 315964800
    · rw [if_pos hunset, if_pos hunset]
      rfl
    · rw [if_neg hunset, if_neg hunset]
      have hmod := h.resolve_left hunset
      have hcases := tmod_period (beaconSeconds getTime)
      split <;> lia
  rw [startListen_eq]
  dsimp only
  rw [hchannel]

/-- Without a channel the modem is left as it is. -/
theorem startListen_none {getTime : Int} (h : ¬ HasFirstChannel getTime) :
    (startListen getTime).2 = [] := by
  unfold HasFirstChannel at h
  rw [startListen_eq]
  dsimp only
  rw [if_neg (by lia), if_pos (by lia), beaconListen_none (by lia)]
  rfl

/-- For every modem that is ready, all readings of the clock and all packets
that arrive: if there is a channel to begin on, the modem listens to beacons on
the channels from 0 to 7 in turn, one packet each, whatever is in them, from
the channel of the next beacon on, the script gets the 23 bytes of each packet,
and it sets the clock by those whose time has the right CRC.  Otherwise the
modem is left as it is. -/
theorem listen_follows_beacons {radio : Radio} {getTime : Int}
    {receptions : List Reception} (hready : radio.Ready) :
    (HasFirstChannel getTime -> exists b,
      (Listener.start getTime radio).bind
          (runAll Listener.step receptions) = some b ∧
        HearsBeacons
          ((firstChannel getTime + (beaconPackets receptions).length) % 8)
          b.recorded.radio ∧
        b.recorded.sent = [] ∧
        b.recorded.radio.inbox = radio.inbox ++ beaconPackets receptions ∧
        b.listen.clock = (beaconPackets receptions).flatMap clockOf) ∧
    (¬ HasFirstChannel getTime -> exists b,
      Listener.start getTime radio = some b ∧ b.recorded = ⟨radio, []⟩) := by
  constructor
  · intro hfirst
    have hsettled := settled_headerDial hready.done hready.noHop hready.header
    rcases @listening_of_calls _ _ _ (firstChannel_lt getTime) ⟨radio, []⟩
      hsettled ⟨_, rfl⟩ hready.clear rfl [] with
      ⟨start, hcalls, hlistening, hclock, hinbox⟩
    have hstart : Listener.start getTime radio = some start := by
      rw [Listener.start, startListen_first hfirst]
      exact hcalls
    rcases hlistening.run receptions with ⟨b, hrun, hhandled⟩
    rcases hhandled.listening.radio with ⟨d, hsettled', -, hdial⟩
    refine ⟨b, ?_, hdial.radio hsettled', hhandled.listening.silent, ?_, ?_⟩
    · rw [hstart]
      exact hrun
    · rw [hhandled.inbox, hinbox]
    · rw [hhandled.clock, hclock]
      rfl
  · intro hnone
    refine ⟨⟨⟨radio, []⟩, (startListen getTime).1⟩, ?_, rfl⟩
    show (runAll Recorded.step ((startListen getTime).2.map RadioAction.call)
      _).bind _ = _
    rw [startListen_none hnone]
    rfl

theorem listen_follows_beacons_one :
    exists b, (Listener.start 0 startRadio).bind
        (runAll Listener.step [oneByte]) = some b ∧
      HearsBeacons 1 b.recorded.radio ∧
      b.recorded.radio.inbox = [oneByte.bytes 23] := by
  rcases (@listen_follows_beacons startRadio 0 [oneByte] startRadio_ready).1
    (.inl (by decide)) with ⟨b, hb, hhears, -, hinbox, -⟩
  exact ⟨b, hb, hhears, hinbox⟩

end LoRaWan
end Fluxnode
