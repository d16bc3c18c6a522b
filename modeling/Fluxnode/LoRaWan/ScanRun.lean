import Fluxnode.LoRaWan.Scan

/-!
# Runs of the scan

In any order of timeouts and packets the script sends one packet on each of the
72 channels, in order and with the number of the channel as its counter, and it
counts a channel for each acknowledgement that arrives behind the packet for the
channel and in front of the next one.
-/

namespace Fluxnode
namespace LoRaWan

open Foundation
open Js (Bytes JsError Number load)
open LoRa

def Tuned (freq : ℚ) (regs : Registers) : Prop :=
  regs regFrfMsb = (frequencyNumber freq >>> 16).toUInt8 ∧
    regs regFrfMid = (frequencyNumber freq >>> 8).toUInt8 ∧
    regs regFrfLsb = (frequencyNumber freq >>> 0).toUInt8

/-- The packet for a channel on the air, as US-915 asks for it. -/
structure OnChannel (c : Nat) (pkt : Bytes) (t : Transmission) : Prop where
  frame : t.frame = pkt
  frequency : Tuned (loraWanChannel915 c 0) t.regs
  bandwidth : t.regs regModemConfig1 &&& 0xf0 = if c ≤ 63 then 0x70 else 0x90
  spreadingFactor :
    t.regs regModemConfig2 &&& 0xf0 = if c ≤ 63 then 0x70 else 0x80
  crc : t.regs regModemConfig2 &&& 0x04 = 0x04
  invertIq : t.regs regInvertIq1 &&& 0x40 = 0
  preambleMsb : t.regs regPreambleMsb = 0
  preambleLsb : t.regs regPreambleLsb = 8
  syncWord : t.regs regSyncWord = 0x34

/-- The chip listens on the channel down that goes with a channel up. -/
structure Awaits (c : Nat) (s : Radio) : Prop where
  opMode : s.chip.regs regOpMode = opMode modeRxContinuous
  frequency : Tuned (loraWanChannel915 (c % 8 : Nat) 1) s.chip.regs
  bandwidth : s.chip.regs regModemConfig1 &&& 0xf0 = 0x90
  spreadingFactor :
    s.chip.regs regModemConfig2 &&& 0xf0 = if c ≤ 63 then 0x70 else 0x80
  invertIq : s.chip.regs regInvertIq1 &&& 0x40 = 0x40
  syncWord : s.chip.regs regSyncWord = 0x34

variable {regs : Registers} {d : Dial}

/-!
## Settings on the air
-/

theorem tuned_registers {freq : ℚ}
    (h : d.frequency = some (frequencyNumber freq)) :
    Tuned freq (d.registers regs) :=
  ⟨Dial.registers_frequency h (by decide) regs,
    Dial.registers_frequency h (by decide) regs,
    Dial.registers_frequency h (by decide) regs⟩

theorem Tuned.congr {freq : ℚ} {regs' : Registers}
    (h : Tuned freq regs)
    (heq : forall reg, reg ∈ settledRegs -> regs' reg = regs reg) :
    Tuned freq regs' := by
  unfold Tuned
  rw [heq _ (by decide), heq _ (by decide), heq _ (by decide)]
  exact h

theorem field_of_registers {regs' : Registers}
    (heq : forall reg, reg ∈ settledRegs -> regs' reg = d.registers regs reg)
    {f : Field} {x : UInt8} (hx : d.config.value f = some x) :
    regs' f.reg &&& f.mask = x &&& f.mask := by
  rw [heq _ (mem_settledRegs f), Dial.registers_value hx]

theorem whole_of_registers {regs' : Registers}
    (heq : forall reg, reg ∈ settledRegs -> regs' reg = d.registers regs reg)
    {f : Field} {x : UInt8} (hx : d.config.value f = some x)
    (hmask : f.mask = 0xff) : regs' f.reg = x := by
  have hfield := field_of_registers heq hx
  have hall : forall y : UInt8, y &&& 0xff = y := fun y => UInt8.and_neg_one
  rw [hmask, hall, hall] at hfield
  exact hfield

theorem bandwidth_value (c : Nat) :
    UInt8.ofNat (bandwidthOf c).val <<< 4 &&& 0xf0 =
      if c ≤ 63 then 0x70 else 0x90 := by
  unfold bandwidthOf
  dsimp only
  split <;> rfl

theorem spreadingFactor_value (c : Nat) :
    UInt8.ofNat (spreadingFactorOf c).val <<< 4 &&& 0xf0 =
      if c ≤ 63 then 0x70 else 0x80 := by
  unfold spreadingFactorOf
  dsimp only
  split <;> rfl

theorem onChannel_uplink {c : Nat} {pkt : Bytes} {t : Transmission}
    (h : Carries regs t ⟨pkt, (uplinkDial c d).loaded pkt⟩) :
    OnChannel c pkt t := by
  have hregs := h.registers
  have hfreq : ((uplinkDial c d).loaded pkt).frequency =
      some (frequencyNumber (loraWanChannel915 c 0)) := rfl
  refine ⟨h.frame, (tuned_registers hfreq).congr hregs, ?_, ?_, ?_, ?_, ?_, ?_,
    ?_⟩
  · rw [← bandwidth_value]
    exact @field_of_registers _ _ _ hregs .bandwidth _ rfl
  · rw [← spreadingFactor_value]
    exact @field_of_registers _ _ _ hregs .spreadingFactor _ rfl
  · exact @field_of_registers _ _ _ hregs .crc _ rfl
  · exact @field_of_registers _ _ _ hregs .invertIq _ rfl
  · exact @whole_of_registers _ _ _ hregs .preambleMsb _ rfl rfl
  · exact @whole_of_registers _ _ _ hregs .preambleLsb _ rfl rfl
  · exact @whole_of_registers _ _ _ hregs .syncWord _ rfl rfl

structure AwaitsOn (c : Nat) (d : Dial) : Prop where
  frequency :
    d.frequency = some (frequencyNumber (loraWanChannel915 (c % 8 : Nat) 1))
  bandwidth : d.config.bandwidth = some wide
  spreadingFactor : d.config.spreadingFactor = some (spreadingFactorOf c)
  invertIq : d.config.invertIq = some true
  syncWord : d.config.syncWord = some 0x34
  mode : d.mode = .recv
  chipMode : d.chipMode = some modeRxContinuous

theorem awaitsOn_downlink (c : Nat) (pkt : Bytes) (d : Dial) :
    AwaitsOn c (downlinkDial c pkt d) := by
  have hmod : ((c : Int).tmod 8) = ((c % 8 : Nat) : Int) :=
    Int.tmod_eq_emod_of_nonneg (by lia)
  refine ⟨?_, rfl, rfl, rfl, rfl, rfl, rfl⟩
  rw [← hmod]
  rfl

theorem AwaitsOn.radio {c : Nat} {s : Radio} (h : AwaitsOn c d)
    (hsettled : Settled regs d s) : Awaits c s := by
  have hregs := hsettled.follows.registers
  refine ⟨hsettled.chipMode _ h.chipMode,
    (tuned_registers h.frequency).congr hregs, ?_, ?_, ?_, ?_⟩
  · have hvalue : d.config.value .bandwidth = some 0x90 := by
      rw [Config.value, h.bandwidth]
      rfl
    exact field_of_registers hregs hvalue
  · have hvalue : d.config.value .spreadingFactor =
        some (UInt8.ofNat (spreadingFactorOf c).val <<< 4) := by
      rw [Config.value, h.spreadingFactor]
      rfl
    rw [← spreadingFactor_value]
    exact field_of_registers hregs hvalue
  · have hvalue : d.config.value .invertIq = some 0x40 := by
      rw [Config.value, h.invertIq]
      rfl
    exact field_of_registers hregs hvalue
  · have hvalue : d.config.value .syncWord = some 0x34 := by
      rw [Config.value, h.syncWord]
    exact whole_of_registers hregs hvalue rfl

/-!
## The board between two events
-/

/-- The packets that a reception leads to, with explicit headers. -/
def packets (rx : Reception) : List Bytes :=
  if rx.crcError ∨ rx.nbBytes.toNat = 0 then []
  else [rx.bytes rx.nbBytes.toNat]

def lastChannel (k : Nat) : Int :=
  min k 72 - 1

def Scans (regs : Registers) (mode : LoRaMode) (k : Nat) (s : Radio) : Prop :=
  exists d, Settled regs d s ∧ Attends d s ∧
    d.config.implicit = some false ∧ d.mode = mode ∧
    (0 < k -> AwaitsOn (min k 72 - 1) d)

structure Scanning (lp : LoraWanPacket) (regs : Registers) (mode : LoRaMode)
    (k : Nat) (b : Board) : Prop where
  radio : Scans regs mode k b.recorded.radio
  scan : b.scan = {
    lp := lp
    channel := lastChannel k
    channel_max := 71
    answers := b.scan.answers
    timeouts := if k ≤ 72 then [5000] else [] }

/-- A board that does not receive misses the packet. -/
def heardPackets (mode : LoRaMode) (rx : Reception) : List Bytes :=
  if mode = .recv then packets rx else []

theorem hears_packets (hexplicit : d.config.implicit = some false)
    (rx : Reception) : d.hears regs (.round rx) = heardPackets d.mode rx := by
  have hlength : d.rxLength regs rx = rx.nbBytes.toNat := by
    rw [Dial.rxLength, hexplicit, if_neg (by decide)]
  unfold heardPackets packets
  rw [Dial.hears, hlength]
  by_cases hmode : d.mode = .recv
  · simp only [hmode, ne_eq, not_true_eq_false, false_or, if_true]
  · rw [if_pos (.inl hmode), if_neg hmode]

theorem Scanning.reception (crypto : Crypto) {lp : LoraWanPacket}
    {mode : LoRaMode} {k : Nat} {b : Board} (h : Scanning lp regs mode k b)
    (rx : Reception) :
    exists b', Board.step crypto (.reception rx) b = some b' ∧
      Scanning lp regs mode k b' ∧ b'.recorded.sent = b.recorded.sent ∧
      b'.scan.answers = b.scan.answers ++
        List.replicate (acknowledgements crypto lp (heardPackets mode rx))
          (lastChannel k) := by
  rcases h.radio with ⟨d, hsettled, hattends, hexplicit, hmode, hawaits⟩
  rcases hsettled.step (.round rx) (fun buf heq => by cases heq) with
    ⟨recorded, hstep, hsettled', new, hnew, hcarries⟩
  rcases hattends.step hsettled hstep hsettled' with ⟨hattends', hinbox⟩
  cases hcarries
  have harrived : recorded.radio.inbox.drop b.recorded.radio.inbox.length =
      heardPackets mode rx := by
    rw [hinbox, List.drop_left, hears_packets hexplicit, hmode]
  have hboard := Board.step_reception crypto hstep
  rw [harrived] at hboard
  refine ⟨_, hboard, ⟨⟨d, hsettled', hattends', hexplicit, hmode, hawaits⟩, ?_⟩,
    ?_, ?_⟩
  · rw [h.scan]
    rfl
  · rw [hnew, List.append_nil]
  · rw [h.scan]
    rfl

theorem scanNext_sends (crypto : Crypto) {s : ScanState} {c : Nat}
    (haddr : s.lp.devAddr.length = 4) (hc : c < 72)
    (hchannel : s.channel = (c : Int) - 1) (hmax : s.channel_max = 71) :
    scanNext crypto s = .ok ({ s with
      channel := c
      timeouts := s.timeouts ++ [5000] }, sendUp (uplink crypto s.lp c) c) := by
  have hnext : s.channel + 1 = (c : Int) := by lia
  unfold scanNext
  rw [if_pos (by lia), hnext]
  dsimp only
  rw [confirmedUp_ping crypto haddr (by lia)]
  show Except.ok _ = _
  rw [if_pos (by lia)]

theorem scanNext_ends (crypto : Crypto) {s : ScanState}
    (hchannel : s.channel = 71) (hmax : s.channel_max = 71) :
    scanNext crypto s = .ok (s, []) := by
  unfold scanNext
  rw [if_neg (by lia)]
  rfl

theorem Scanning.timeout (crypto : Crypto) {lp : LoraWanPacket}
    {mode : LoRaMode} {k : Nat} {b : Board} (h : Scanning lp regs mode k b)
    (haddr : lp.devAddr.length = 4) (hk : k < 72) :
    exists b' t, Board.step crypto .timeout b = some b' ∧
      Scanning lp regs .recv (k + 1) b' ∧
      b'.recorded.sent = b.recorded.sent ++ [t] ∧
      OnChannel k (uplink crypto lp k) t ∧
      b'.scan.answers = b.scan.answers := by
  rcases h.radio with ⟨d, hsettled, hattends, hexplicit, -, -⟩
  have hpending : b.scan.timeouts = [5000] := by
    rw [h.scan]
    exact if_pos (by lia)
  have hlp : b.scan.lp = lp := by
    rw [h.scan]
  have hchannel : b.scan.channel = (k : Int) - 1 := by
    rw [h.scan]
    unfold lastChannel
    lia
  have hscan := scanNext_sends crypto (s := { b.scan with timeouts := [] })
    (hlp ▸ haddr) hk hchannel (by rw [h.scan])
  have hfits : SendsFit
      ((sendUp (uplink crypto lp k) k).map RadioAction.call) := by
    intro buf hbuf
    have heq : buf = uplink crypto lp k := by
      simpa [sendUp] using hbuf
    rw [heq, length_uplink crypto haddr]
    decide
  rcases sendUp_dial hk (uplink crypto lp k) d with ⟨hairs, hdial⟩
  rcases hsettled.run hfits with
    ⟨recorded, hrun, hsettled', new, hnew, hcarries⟩
  have hattends' := (hattends.run hsettled hfits hrun).1
  rw [hdial] at hsettled' hattends'
  rw [hairs] at hcarries
  cases hcarries with
  | cons hcarries hnil =>
      cases hnil
      rename_i t
      have hboard := Board.step_timeout crypto hpending hscan (hlp ▸ hrun)
      refine ⟨_, t, hboard, ⟨⟨_, hsettled', hattends', hexplicit, rfl,
        ?_⟩, ?_⟩, hnew, onChannel_uplink hcarries, rfl⟩
      · have hlast : min (k + 1) 72 - 1 = k := by lia
        rw [hlast]
        exact fun _ => awaitsOn_downlink k _ d
      · have hlast : lastChannel (k + 1) = k := by
          unfold lastChannel
          lia
        have hmax : b.scan.channel_max = 71 := by
          rw [h.scan]
        rw [hlast, if_pos (show k + 1 ≤ 72 by lia)]
        simp [hlp, hmax]

theorem Scanning.ends (crypto : Crypto) {lp : LoraWanPacket} {mode : LoRaMode}
    {b : Board} (h : Scanning lp regs mode 72 b) :
    exists b', Board.step crypto .timeout b = some b' ∧
      Scanning lp regs .recv 73 b' ∧ b'.recorded.sent = b.recorded.sent ∧
      b'.scan.answers = b.scan.answers := by
  have hpending : b.scan.timeouts = [5000] := by
    rw [h.scan]
    rfl
  have hscan := scanNext_ends crypto (s := { b.scan with timeouts := [] })
    (by rw [h.scan]; rfl) (by rw [h.scan])
  rcases h.radio with ⟨d, hsettled, hattends, hexplicit, -, hawaits⟩
  have hon := hawaits (by decide)
  refine ⟨_, Board.step_timeout crypto hpending hscan rfl,
    ⟨⟨d, hsettled, hattends, hexplicit, hon.mode, fun _ => hon⟩, ?_⟩, rfl, rfl⟩
  rw [h.scan]
  rfl

theorem Scanning.over (crypto : Crypto) {lp : LoraWanPacket} {mode : LoRaMode}
    {b : Board} (h : Scanning lp regs mode 73 b) :
    Board.step crypto .timeout b = none := by
  have hpending : b.scan.timeouts = [] := by
    rw [h.scan]
    rfl
  simp only [Board.step, hpending]

/-!
## Runs
-/

def timeouts : List BoardEvent -> Nat
  | [] => 0
  | .timeout :: rest => timeouts rest + 1
  | .reception _ :: rest => timeouts rest

/-- The channels that acknowledgements are counted for, behind some timeouts.
The board receives from the first one on. -/
def answered (crypto : Crypto) (lp : LoraWanPacket) :
    LoRaMode -> Nat -> List BoardEvent -> List Int
  | _, _, [] => []
  | _, k, .timeout :: rest => answered crypto lp .recv (k + 1) rest
  | mode, k, .reception rx :: rest =>
      List.replicate (acknowledgements crypto lp (heardPackets mode rx))
        (lastChannel k) ++ answered crypto lp mode k rest

def channelsBetween (k n : Nat) : List Nat :=
  List.range' (min k 72) (min n 72 - min k 72)

theorem channelsBetween_self (k : Nat) : channelsBetween k k = [] := by
  rw [channelsBetween, Nat.sub_self]
  rfl

theorem channelsBetween_cons {k n : Nat} (hk : k < 72) (hn : k < n) :
    channelsBetween k n = k :: channelsBetween (k + 1) n := by
  have hmin : min k 72 = k := by lia
  have hnext : min (k + 1) 72 = k + 1 := by lia
  have hlength : min n 72 - k = min n 72 - (k + 1) + 1 := by lia
  rw [channelsBetween, channelsBetween, hmin, hnext, hlength, List.range'_succ]

theorem channelsBetween_past {k n : Nat} (hk : 72 ≤ k) :
    channelsBetween k n = [] := by
  have hlength : min n 72 - min k 72 = 0 := by lia
  rw [channelsBetween, hlength]
  rfl

theorem Scanning.run (crypto : Crypto) {lp : LoraWanPacket} {mode : LoRaMode}
    {k : Nat} {b : Board} {events : List BoardEvent}
    (h : Scanning lp regs mode k b) (haddr : lp.devAddr.length = 4)
    (hk : k + timeouts events ≤ 73) :
    exists b' new, runAll (Board.step crypto) events b = some b' ∧
      (exists mode', Scanning lp regs mode' (k + timeouts events) b') ∧
      b'.recorded.sent = b.recorded.sent ++ new ∧
      List.Forall₂ (fun c t => OnChannel c (uplink crypto lp c) t)
        (channelsBetween k (k + timeouts events)) new ∧
      b'.scan.answers = b.scan.answers ++
        answered crypto lp mode k events := by
  induction events generalizing mode k b with
  | nil =>
      refine ⟨b, [], rfl, ⟨mode, h⟩, (List.append_nil _).symm, ?_,
        (List.append_nil _).symm⟩
      rw [show timeouts [] = 0 from rfl, Nat.add_zero, channelsBetween_self]
      exact .nil
  | cons e rest ih =>
      cases e with
      | reception rx =>
          have hcount : timeouts (.reception rx :: rest) = timeouts rest := rfl
          rw [hcount] at hk ⊢
          rcases h.reception crypto rx with ⟨mid, hmid, hscan, hsent, hanswers⟩
          rcases ih hscan hk with ⟨b', new, hrun, hlast, hnew, hair, hmore⟩
          refine ⟨b', new, ?_, hlast, hnew.trans (by rw [hsent]), hair, ?_⟩
          · simp only [runAll, hmid]
            exact hrun
          · rw [hmore, hanswers, List.append_assoc]
            rfl
      | timeout =>
          have hcount : timeouts (.timeout :: rest) = timeouts rest + 1 := rfl
          have hall : k + timeouts (.timeout :: rest) =
              k + 1 + timeouts rest := by lia
          rw [hall] at hk ⊢
          rcases Nat.lt_or_ge k 72 with hlt | hge
          · rcases h.timeout crypto haddr hlt with
              ⟨mid, t, hmid, hscan, hsent, hair, hanswers⟩
            rcases ih hscan hk with ⟨b', new, hrun, hlast, hnew, hrest, hmore⟩
            refine ⟨b', t :: new, ?_, hlast, ?_, ?_, ?_⟩
            · simp only [runAll, hmid]
              exact hrun
            · rw [hnew, hsent, List.append_assoc]
              rfl
            · rw [channelsBetween_cons hlt (by lia)]
              exact .cons hair hrest
            · rw [hmore, hanswers]
              rfl
          · have heq : k = 72 := by lia
            subst heq
            rcases h.ends crypto with ⟨mid, hmid, hscan, hsent, hanswers⟩
            rcases ih hscan hk with ⟨b', new, hrun, hlast, hnew, hrest, hmore⟩
            refine ⟨b', new, ?_, hlast, hnew.trans (by rw [hsent]), ?_, ?_⟩
            · simp only [runAll, hmid]
              exact hrun
            · rw [channelsBetween_past (by decide)] at hrest ⊢
              exact hrest
            · rw [hmore, hanswers]
              rfl

theorem Scanning.run_none (crypto : Crypto) {lp : LoraWanPacket}
    {mode : LoRaMode} {k : Nat} {b : Board} {events : List BoardEvent}
    (h : Scanning lp regs mode k b) (haddr : lp.devAddr.length = 4)
    (hle : k ≤ 73) (hk : 73 < k + timeouts events) :
    runAll (Board.step crypto) events b = none := by
  induction events generalizing mode k b with
  | nil => exact absurd hk (by rw [show timeouts [] = 0 from rfl]; lia)
  | cons e rest ih =>
      cases e with
      | reception rx =>
          rcases h.reception crypto rx with ⟨mid, hmid, hscan, -⟩
          simp only [runAll, hmid]
          exact ih hscan hle hk
      | timeout =>
          have hall : k + timeouts (.timeout :: rest) =
              k + 1 + timeouts rest := by
            rw [show timeouts (.timeout :: rest) = timeouts rest + 1 from rfl]
            lia
          rw [hall] at hk
          rcases Nat.lt_or_ge k 72 with hlt | hge
          · rcases h.timeout crypto haddr hlt with ⟨mid, t, hmid, hscan, -⟩
            simp only [runAll, hmid]
            exact ih hscan (by lia) hk
          · rcases Nat.lt_or_ge k 73 with hlast | hover
            · have heq : k = 72 := by lia
              subst heq
              rcases h.ends crypto with ⟨mid, hmid, hscan, -⟩
              simp only [runAll, hmid]
              exact ih hscan (by lia) hk
            · have heq : k = 73 := by lia
              subst heq
              simp only [runAll, h.over crypto]

def Board.started (radio : Radio) (scan : ScanState) : Board :=
  ⟨⟨radio, []⟩, scan⟩

theorem scanning_start {radio : Radio} (hready : radio.Ready)
    (hattentive : radio.Attentive) (hexplicit : radio.implicit = false)
    (lp : LoraWanPacket) :
    Scanning lp radio.chip.regs radio.loraMode 0 (.started radio {
      lp := lp, channel := -1, channel_max := 71, answers := [],
      timeouts := [5000] }) := by
  refine ⟨⟨radio.headerDial, settled_headerDial hready.done hready.noHop
    hready.header, hready.attends hattentive, congrArg some hexplicit, rfl,
    fun hpos => absurd hpos (Nat.lt_irrefl 0)⟩, rfl⟩

/-- For every board that is ready and all timeouts and packets, in any order:
the script sends exactly one packet on each of the first channels, in order,
with the number of the channel as its counter and the settings of US-915,
listens on the channel down that goes with the last one, and counts a channel
once for each acknowledgement that arrives while it is the last one and the
board receives.  The scan ends with the 73rd timeout. -/
theorem scan_covers_channels (crypto : Crypto) {radio : Radio}
    {addr nwkkey appkey : Bytes} {events : List BoardEvent}
    (hready : radio.Ready) (hattentive : radio.Attentive)
    (hexplicit : radio.implicit = false) (haddr : addr.length = 4) :
    exists start, startScan addr nwkkey appkey = .ok start ∧
      (73 < timeouts events ->
        runAll (Board.step crypto) events (.started radio start) = none) ∧
      (timeouts events ≤ 73 -> exists b,
        runAll (Board.step crypto) events (.started radio start) = some b ∧
        List.Forall₂ (fun c t => OnChannel c (uplink crypto start.lp c) t)
          (List.range (min (timeouts events) 72)) b.recorded.sent ∧
        (0 < timeouts events ->
          Awaits (min (timeouts events) 72 - 1) b.recorded.radio) ∧
        b.scan.answers =
          answered crypto start.lp radio.loraMode 0 events) := by
  let lp : LoraWanPacket := ⟨addr.reverse, nwkkey, appkey⟩
  have hlp : loraWanPacket addr nwkkey appkey = .ok lp := by
    rw [loraWanPacket, Js.reverse_eq]
    rfl
  have hdevAddr : lp.devAddr.length = 4 := by
    rw [← haddr]
    exact List.length_reverse
  have hstart := scanning_start hready hattentive hexplicit lp
  refine ⟨_, by rw [startScan, hlp]; rfl, ?_, ?_⟩
  · intro hmore
    exact hstart.run_none crypto hdevAddr (by decide) (by lia)
  · intro hle
    have hbound : 0 + timeouts events ≤ 73 := by lia
    rcases hstart.run crypto hdevAddr hbound with
      ⟨b, new, hrun, ⟨mode, hlast⟩, hnew, hair, hanswers⟩
    have hchannels : channelsBetween 0 (timeouts events) =
        List.range (min (timeouts events) 72) := by
      rw [channelsBetween, List.range_eq_range']
      rfl
    rw [Nat.zero_add] at hlast hair
    rw [hchannels] at hair
    rcases hlast.radio with ⟨d, hsettled, -, -, -, hawaits⟩
    refine ⟨b, hrun, ?_, fun hpos => (hawaits hpos).radio hsettled, hanswers⟩
    rw [hnew]
    exact hair

def twoChannels : List BoardEvent :=
  [.reception emptyPacket, .timeout, .reception emptyPacket, .timeout]

theorem scan_covers_channels_two :
    exists start, startScan [1, 2, 3, 4] [] [] = .ok start ∧
      exists b, runAll (Board.step zeroCrypto) twoChannels
          (.started startRadio start) = some b ∧
        List.Forall₂ (fun c t => OnChannel c (uplink zeroCrypto start.lp c) t)
          [0, 1] b.recorded.sent ∧ Awaits 1 b.recorded.radio ∧
        b.scan.answers = [] := by
  rcases @scan_covers_channels zeroCrypto startRadio [1, 2, 3, 4] [] []
    twoChannels startRadio_ready startRadio_attentive rfl rfl with
    ⟨start, hstart, -, hrun⟩
  rcases hrun (by decide) with ⟨b, hb, hsent, hawaits, hanswers⟩
  refine ⟨start, hstart, b, hb, hsent, hawaits (by decide), ?_⟩
  rw [hanswers]
  rfl

end LoRaWan
end Fluxnode
