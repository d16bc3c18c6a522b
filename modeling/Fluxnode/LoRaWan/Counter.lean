import Fluxnode.LoRaWan.RoundTrip

/-!
# The counter of the header and of the blocks

A packet carries the counter in its header, and the receiver computes the MIC
from there.  The sender puts the counter into the blocks through `htons`.  The
two agree exactly when the third byte of the counter adds no bit to the lowest
one.
-/

namespace Fluxnode
namespace LoRaWan

open Js

/-!
## The functions that build a packet
-/

/-- The functions of a `LoraWanPacket` that take a counter, with their other
arguments. -/
inductive Builder where
  | makePacketFromPayLoad (payload : Bytes) (pkttype fport fctrl : Int)
      (fopts : Bytes) (dir : Int)
  | unConfirmedDown (payload : Bytes) (fport : Int) (fopts : Bytes)
  | confirmedDown (payload : Bytes) (fport : Int) (fopts : Bytes)
  | unConfirmedUp (payload : Bytes) (fport : Int) (fopts : Bytes)
  | confirmedUp (payload : Bytes) (fport : Int) (fopts : Bytes)
  | ackPacket (fport : Int)
  deriving DecidableEq, Repr

def Builder.build (crypto : Crypto) (self : LoraWanPacket) (fcnt : Int) :
    Builder -> Except JsError Bytes
  | .makePacketFromPayLoad payload pkttype fport fctrl fopts dir =>
      LoRaWan.makePacketFromPayLoad crypto self payload pkttype fport fctrl
        fcnt fopts dir
  | .unConfirmedDown payload fport fopts =>
      LoRaWan.unConfirmedDown crypto self payload fport fcnt fopts
  | .confirmedDown payload fport fopts =>
      LoRaWan.confirmedDown crypto self payload fport fcnt fopts
  | .unConfirmedUp payload fport fopts =>
      LoRaWan.unConfirmedUp crypto self payload fport fcnt fopts
  | .confirmedUp payload fport fopts =>
      LoRaWan.confirmedUp crypto self payload fport fcnt fopts
  | .ackPacket fport => LoRaWan.ackPacket crypto self fport fcnt

def Builder.dir : Builder -> Int
  | .makePacketFromPayLoad _ _ _ _ _ dir => dir
  | .unConfirmedDown _ _ _ => 1
  | .confirmedDown _ _ _ => 1
  | .unConfirmedUp _ _ _ => 0
  | .confirmedUp _ _ _ => 0
  | .ackPacket _ => 0

/-- A packet whose blocks hold one counter and whose header another. -/
def BuiltFrom (crypto : Crypto) (self : LoraWanPacket) (n : Nat) (dir : Int)
    (pkt : Bytes) : Prop :=
  exists mhdr control fopts fport data,
    pkt = withMic crypto self.nwkKey self.devAddr (blockCounter n) dir
      (frameBytes mhdr self.devAddr control n fopts fport data)

theorem Builder.build_eq
    (crypto : Crypto) {self : LoraWanPacket}
    (haddr : self.devAddr.length = 4) (n : Nat) (b : Builder) :
    exists pkt, b.build crypto self n = .ok pkt ∧
      BuiltFrom crypto self n b.dir pkt := by
  have hmake : forall payload pkttype fport fctrl fopts dir,
      exists pkt, LoRaWan.makePacketFromPayLoad crypto self payload pkttype
          fport fctrl n fopts dir = .ok pkt ∧
        BuiltFrom crypto self n dir pkt := by
    intro payload pkttype fport fctrl fopts dir
    exact ⟨_, makePacketFromPayLoad_blockCounter crypto haddr n payload pkttype
      fport fctrl fopts dir, _, _, _, _, _, rfl⟩
  cases b with
  | makePacketFromPayLoad payload pkttype fport fctrl fopts dir =>
      exact hmake payload pkttype fport fctrl fopts dir
  | unConfirmedDown payload fport fopts => exact hmake payload _ fport _ fopts 1
  | confirmedDown payload fport fopts => exact hmake payload _ fport _ fopts 1
  | unConfirmedUp payload fport fopts => exact hmake payload _ fport _ fopts 0
  | confirmedUp payload fport fopts => exact hmake payload _ fport _ fopts 0
  | ackPacket fport => exact hmake [] _ fport _ [] 0

/-!
## The two places of the counter
-/

/-- The packet that is built has the counter bytes of the blocks in its header,
and its MIC verifies from its own header. -/
def CounterAgrees (crypto : Crypto) (self : LoraWanPacket) (fcnt : UInt32)
    (b : Builder) : Prop :=
  exists pkt, b.build crypto self fcnt.toNat = .ok pkt ∧
    (forall blocknum block,
      makeEncBase b.dir fcnt.toNat self.devAddr blocknum = .ok block ->
        piece block 10 12 = piece pkt 6 8) ∧
    checkMic crypto pkt self.nwkKey (counterOf pkt) (piece pkt 1 5) b.dir =
      .ok true

/-- The third byte of the counter has no bit that the lowest one has not. -/
def ThirdByteCovered (fcnt : UInt32) : Prop :=
  UInt8.ofNat (fcnt.toNat / 65536) ||| UInt8.ofNat fcnt.toNat =
    UInt8.ofNat fcnt.toNat

instance (fcnt : UInt32) : Decidable (ThirdByteCovered fcnt) :=
  inferInstanceAs (Decidable (_ = _))

theorem counterBytes_blockCounter_iff (fcnt : UInt32) :
    counterBytes (blockCounter fcnt.toNat) = counterBytes fcnt.toNat <->
      ThirdByteCovered fcnt := by
  rw [counterBytes_blockCounter, highByte_htons, lowByte_htons, counterBytes,
    ThirdByteCovered]
  constructor
  · intro h
    exact (List.cons.inj h).1
  · intro h
    rw [h]

theorem piece_makeEncBase
    {dir blocknum : Int} {n : Nat} {addr block : Bytes}
    (haddr : addr.length = 4)
    (h : makeEncBase dir n addr blocknum = .ok block) :
    piece block 10 12 = counterBytes (blockCounter n) := by
  rw [makeEncBase_counter, makeEncBase_eq haddr (blockCounter_lt n)] at h
  rcases exists_addr haddr with ⟨a, b, c, d, rfl⟩
  cases h
  rfl

theorem BuiltFrom.piece_counter
    {crypto : Crypto} {self : LoraWanPacket} {n : Nat} {dir : Int} {pkt : Bytes}
    (haddr : self.devAddr.length = 4) (h : BuiltFrom crypto self n dir pkt) :
    piece pkt 6 8 = counterBytes n := by
  rcases h with ⟨mhdr, control, fopts, fport, data, rfl⟩
  rcases exists_addr haddr with ⟨a, b, c, d, hfour⟩
  rw [hfour]
  rfl

theorem BuiltFrom.counterOf_eq
    {crypto : Crypto} {self : LoraWanPacket} {n : Nat} {dir : Int} {pkt : Bytes}
    (haddr : self.devAddr.length = 4) (h : BuiltFrom crypto self n dir pkt) :
    counterOf pkt = counterValue (UInt8.ofNat n) (UInt8.ofNat (n / 256)) := by
  rcases h with ⟨mhdr, control, fopts, fport, data, rfl⟩
  rcases exists_addr haddr with ⟨a, b, c, d, hfour⟩
  rw [hfour]
  rfl

theorem BuiltFrom.checkMic
    {crypto : Crypto} {self : LoraWanPacket} {fcnt : UInt32} {dir : Int}
    {pkt : Bytes} (haddr : self.devAddr.length = 4)
    (h : BuiltFrom crypto self fcnt.toNat dir pkt)
    (hcovered : ThirdByteCovered fcnt) :
    LoRaWan.checkMic crypto pkt self.nwkKey (counterOf pkt) (piece pkt 1 5)
      dir = .ok true := by
  have hcounter : counterOf pkt = blockCounter fcnt.toNat := by
    rw [h.counterOf_eq haddr, blockCounter, highByte_htons, lowByte_htons,
      show _ = _ from hcovered]
  rcases h with ⟨mhdr, control, fopts, fport, data, hpkt⟩
  have hmic := length_micOf crypto self.nwkKey self.devAddr
    (blockCounter fcnt.toNat) dir
    (frameBytes mhdr self.devAddr control fcnt.toNat fopts fport data)
  have hlen : 12 ≤ pkt.length := by
    rw [hpkt, withMic, List.length_append, hmic, length_frameBytes haddr]
    lia
  have hpaddr : piece pkt 1 5 = self.devAddr := assembled_addr haddr hpkt
  rcases piece_withMic hpkt with ⟨hbody, hlast⟩
  rw [checkMic_dir hlen, hcounter, hpaddr, hbody, hlast, decide_eq_true rfl]

/-- A packet has the same counter in its header and in its blocks, and verifies
from its header, exactly when the third byte of the counter is covered. -/
theorem counterAgrees_iff_thirdByteCovered
    (crypto : Crypto) {self : LoraWanPacket}
    (haddr : self.devAddr.length = 4) (fcnt : UInt32) (b : Builder) :
    CounterAgrees crypto self fcnt b <-> ThirdByteCovered fcnt := by
  rcases b.build_eq crypto haddr fcnt.toNat with ⟨pkt, hbuild, hpkt⟩
  have hheader := hpkt.piece_counter haddr
  constructor
  · intro h
    rcases h with ⟨pkt', hbuild', hblocks, _⟩
    rw [hbuild] at hbuild'
    cases hbuild'
    have hblock := makeEncBase_eq haddr (blockCounter_lt fcnt.toNat) b.dir 0
    rw [← makeEncBase_counter] at hblock
    have hsame := hblocks 0 _ hblock
    rw [piece_makeEncBase haddr hblock, hheader] at hsame
    exact (counterBytes_blockCounter_iff fcnt).mp hsame
  · intro hcovered
    refine ⟨pkt, hbuild, ?_, hpkt.checkMic haddr hcovered⟩
    intro blocknum block hblock
    rw [piece_makeEncBase haddr hblock, hheader]
    exact (counterBytes_blockCounter_iff fcnt).mpr hcovered

theorem counterAgrees_small :
    ThirdByteCovered 0x1234 ∧
      CounterAgrees zeroCrypto device 0x1234 (.unConfirmedUp [104, 105] 7 []) :=
  ⟨by decide, (counterAgrees_iff_thirdByteCovered zeroCrypto rfl 0x1234 _).mpr
    (by decide)⟩

/-!
## The first counter that differs
-/

/-- A stand-in for AES whose MACs begin with the counter bytes of the block. -/
def counterCrypto : Crypto where
  aes128EcbEnc _ _ := List.replicate 16 0
  aes128Cmac _ msg := (piece msg 10 12 ++ List.replicate 16 0).take 16
  length_aes128EcbEnc := zeroCrypto.length_aes128EcbEnc
  length_aes128Cmac _ msg := by
    rw [List.length_take, List.length_append, List.length_replicate]
    lia

/-- The packet for the counter 65536: the header says 0, the MIC is that of
the counter 1. -/
def pastSixteenBits : Bytes :=
  [0x40, 1, 2, 3, 4, 0x20, 0, 0, 7, 1, 0, 0, 0]

theorem counters_differ :
    Builder.build counterCrypto device 65536 (.ackPacket 7) =
        .ok pastSixteenBits ∧
      makeEncBase 0 65536 device.devAddr 0 =
        .ok [1, 0, 0, 0, 0, 0, 1, 2, 3, 4, 1, 0, 0, 0, 0, 1] ∧
      checkMic counterCrypto pastSixteenBits device.nwkKey
        (counterOf pastSixteenBits) (piece pastSixteenBits 1 5) 0 = .ok false ∧
      ¬ CounterAgrees counterCrypto device 65536 (.ackPacket 7) := by
  refine ⟨rfl, rfl, rfl, ?_⟩
  intro h
  rcases h with ⟨pkt, hbuild, hblocks, _⟩
  have hpkt : pkt = pastSixteenBits := by
    cases hbuild
    rfl
  have hsame := hblocks 0 [1, 0, 0, 0, 0, 0, 1, 2, 3, 4, 1, 0, 0, 0, 0, 1] rfl
  rw [hpkt] at hsame
  exact absurd hsame (by decide)

end LoRaWan
end Fluxnode
