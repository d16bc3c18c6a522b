import Fluxnode.LoRaWan.Frame

/-!
# What the parser returns

The result of `parseDownPacket` on every byte string, in terms of pieces of
the packet at fixed positions.
-/

namespace Fluxnode
namespace LoRaWan

open Js

/-!
## Pieces of a packet
-/

def piece (pkt : Bytes) (start stop : Nat) : Bytes :=
  (pkt.take stop).drop start

/-- The type of the message, from the upper three bits of the first byte. -/
def mtype (pkt : Bytes) : UInt8 :=
  load pkt 0 >>> 5

def foptsLen (pkt : Bytes) : Nat :=
  (load pkt 5 &&& 0x0F).toNat

def counterOf (pkt : Bytes) : Nat :=
  counterValue (load pkt 6) (load pkt 7)

/-- The options, or zeros where they do not fit. -/
def foptsOf (pkt : Bytes) : Bytes :=
  if foptsLen pkt + 12 ≤ pkt.length then
    piece pkt 8 (8 + foptsLen pkt)
  else
    List.replicate (foptsLen pkt) 0

def dataStart (pkt : Bytes) : Nat :=
  if foptsLen pkt + 12 ≤ pkt.length then 8 + foptsLen pkt else 8

def MicVerified (crypto : Crypto) (key pkt : Bytes) : Prop :=
  micOf crypto key (piece pkt 1 5) (counterOf pkt) 1
      (piece pkt 0 (pkt.length - 4)) =
    piece pkt (pkt.length - 4) pkt.length

instance (crypto : Crypto) (key pkt : Bytes) :
    Decidable (MicVerified crypto key pkt) :=
  inferInstanceAs (Decidable (_ = _))

/-- The MIC is right and more than one byte lies behind the options. -/
def HasPayload (crypto : Crypto) (key pkt : Bytes) : Prop :=
  MicVerified crypto key pkt ∧ dataStart pkt + 4 + 1 < pkt.length

instance (crypto : Crypto) (key pkt : Bytes) :
    Decidable (HasPayload crypto key pkt) :=
  inferInstanceAs (Decidable (_ ∧ _))

def decrypted (crypto : Crypto) (self : LoraWanPacket) (pkt : Bytes)
    (start : Nat) : Bytes :=
  applyKeyStream crypto self.appKey (piece pkt 1 5) (counterOf pkt) 1
    (piece pkt start (pkt.length - 4))

/-- The object returned for a packet of sufficient length and right type. -/
def downPacket (crypto : Crypto) (self : LoraWanPacket) (pkt : Bytes) :
    DownPacket where
  devAddr := piece pkt 1 5
  confirmed := mtype pkt == 5
  payload :=
    if HasPayload crypto self.nwkKey pkt then
      decrypted crypto self pkt (dataStart pkt + 1)
    else
      []
  fport :=
    if HasPayload crypto self.nwkKey pkt then
      .byte (load pkt (dataStart pkt))
    else
      .emptyArray
  fcnt := counterOf pkt
  fopts := foptsOf pkt
  ack := load pkt 5 &&& 0x20 != 0
  fpending := load pkt 5 &&& 0x10 != 0
  adr := load pkt 5 &&& 0x80 != 0
  adrackreq := load pkt 5 &&& 0x40 != 0
  micVerified := MicVerified crypto self.nwkKey pkt

theorem counterOf_lt (pkt : Bytes) : counterOf pkt < 65536 :=
  counterValue_lt _ _

theorem length_piece {pkt : Bytes} {start stop : Nat}
    (hstop : stop ≤ pkt.length) :
    (piece pkt start stop).length = stop - start := by
  rw [piece, List.length_drop, List.length_take, Nat.min_eq_left hstop]

theorem subarray_eq_piece {pkt : Bytes} {start stop : Nat}
    (hstart : start ≤ pkt.length) (hstop : stop ≤ pkt.length) :
    subarray pkt start stop = piece pkt start stop :=
  slice_of_le hstart hstop

/-!
## The branches of the parser
-/

theorem copy_piece {pkt : Bytes} {start stop size : Nat}
    (hstart : start ≤ pkt.length) (hstop : stop ≤ pkt.length)
    (hsize : stop - start = size) :
    typedArraySet (List.replicate size 0) (subarray pkt start stop) 0 =
      .ok (piece pkt start stop) := by
  rw [subarray_eq_piece hstart hstop]
  apply typedArraySet_all
  rw [length_piece hstop, List.length_replicate, hsize]

theorem parseFopts_eq (pkt : Bytes) :
    parseFopts pkt (foptsLen pkt) 8 (List.replicate (foptsLen pkt) 0) =
      .ok (foptsOf pkt, dataStart pkt) := by
  unfold parseFopts
  by_cases hfits : foptsLen pkt + 12 ≤ pkt.length
  · rw [foptsOf, dataStart, if_pos hfits, if_pos hfits]
    rcases Nat.eq_zero_or_pos (foptsLen pkt) with hzero | hpos
    · rw [hzero, if_neg (by lia), piece, List.drop_eq_nil_of_le]
      · rfl
      · rw [List.length_take]
        lia
    · rw [if_pos ⟨hpos, hfits⟩, copy_piece (by lia) (by lia) (by lia)]
      rfl
  · rw [foptsOf, dataStart, if_neg hfits, if_neg hfits,
      if_neg (fun h => hfits h.2)]

theorem checkMic_dir {crypto : Crypto} {key pkt : Bytes}
    (hlen : 12 ≤ pkt.length) (dir : Int) :
    checkMic crypto pkt key (counterOf pkt) (piece pkt 1 5) dir =
      .ok (decide (micOf crypto key (piece pkt 1 5) (counterOf pkt) dir
          (piece pkt 0 (pkt.length - 4)) =
        piece pkt (pkt.length - 4) pkt.length)) := by
  have hstop : (pkt.length : Int) - 4 = (pkt.length - 4 : Nat) := by lia
  have haddr : (piece pkt 1 5).length = 4 := length_piece (by lia)
  have hfour : newUint8Array 4 = .ok (List.replicate 4 0) := rfl
  have hbody : typedArraySet (List.replicate (pkt.length - 4) 0)
      (subarray pkt (0 : Nat) (pkt.length - 4 : Nat)) 0 =
        .ok (piece pkt 0 (pkt.length - 4)) :=
    copy_piece (by lia) (by lia) (by lia)
  have hmic : typedArraySet (List.replicate 4 0)
      (subarray pkt (pkt.length - 4 : Nat) pkt.length) 0 =
        .ok (piece pkt (pkt.length - 4) pkt.length) :=
    copy_piece (by lia) (by lia) (by lia)
  have hequal : forall a b : Bytes, arrayEqual a b = decide (a = b) := by
    intro a b
    rw [Bool.eq_iff_iff, arrayEqual_iff, decide_eq_true_iff]
  unfold checkMic
  rw [hstop, newUint8Array_natCast, hfour]
  dsimp only [bind, Except.bind]
  rw [show (0 : Int) = (0 : Nat) from rfl, hbody]
  dsimp only
  rw [hmic]
  dsimp only
  rw [makeMic_eq haddr (counterOf_lt pkt)]
  exact congrArg Except.ok (hequal _ _)

theorem checkMic_eq {crypto : Crypto} {key pkt : Bytes}
    (hlen : 12 ≤ pkt.length) :
    checkMic crypto pkt key (counterOf pkt) (piece pkt 1 5) 1 =
      .ok (decide (MicVerified crypto key pkt)) :=
  checkMic_dir hlen 1

theorem parsePayload_eq {crypto : Crypto} {self : LoraWanPacket} {pkt : Bytes}
    (hlen : 12 ≤ pkt.length) :
    parsePayload crypto self pkt (piece pkt 1 5) (counterOf pkt)
        (dataStart pkt) (decide (MicVerified crypto self.nwkKey pkt)) =
      .ok ((downPacket crypto self pkt).payload,
        (downPacket crypto self pkt).fport) := by
  have haddr : (piece pkt 1 5).length = 4 := length_piece (by lia)
  unfold parsePayload
  by_cases hpayload : HasPayload crypto self.nwkKey pkt
  · have hstop : (pkt.length : Int) - 4 = (pkt.length - 4 : Nat) := by lia
    have hsize : ((pkt.length - 4 : Nat) : Int) - (dataStart pkt + 1 : Nat) =
        (pkt.length - 4 - (dataStart pkt + 1) : Nat) := by
      have hmore := hpayload.2
      lia
    have hpay : typedArraySet
        (List.replicate (pkt.length - 4 - (dataStart pkt + 1)) 0)
        (subarray pkt (dataStart pkt + 1 : Nat) (pkt.length - 4 : Nat)) 0 =
          .ok (piece pkt (dataStart pkt + 1) (pkt.length - 4)) := by
      have hmore := hpayload.2
      exact copy_piece (by lia) (by lia) rfl
    rw [if_pos ⟨decide_eq_true hpayload.1, hpayload.2⟩, hstop]
    dsimp only [bind, Except.bind]
    rw [hsize, newUint8Array_natCast]
    dsimp only
    rw [hpay]
    dsimp only
    rw [encryptPayload_eq haddr (counterOf_lt pkt)]
    simp only [downPacket, if_pos hpayload]
    rfl
  · have hbranch : ¬ (decide (MicVerified crypto self.nwkKey pkt) = true ∧
        dataStart pkt + 4 + 1 < pkt.length) := by
      intro h
      exact hpayload ⟨of_decide_eq_true h.1, h.2⟩
    rw [if_neg hbranch]
    simp only [downPacket, if_neg hpayload]

/-!
## The parser
-/

/-- The packet is long enough and has one of the two types. -/
def Parsable (pkt : Bytes) : Prop :=
  12 ≤ pkt.length ∧ (mtype pkt = 5 ∨ mtype pkt = 3)

theorem parseDownPacket_of_parsable
    (crypto : Crypto) (self : LoraWanPacket) {pkt : Bytes}
    (h : Parsable pkt) :
    parseDownPacket crypto self pkt =
      .ok (.parsed (downPacket crypto self pkt)) := by
  have hlen := h.1
  have htype : ¬ (load pkt 0 >>> 5 ≠ 5 ∧ load pkt 0 >>> 5 ≠ 3) := by
    intro hbad
    rcases h.2 with hfive | hthree
    · exact hbad.1 hfive
    · exact hbad.2 hthree
  have hfour : newUint8Array 4 = .ok (List.replicate 4 0) := rfl
  have haddr : typedArraySet (List.replicate 4 0) (subarray pkt 1 5) 0 =
      .ok (piece pkt 1 5) :=
    copy_piece (by lia) (by lia) rfl
  have hcounter : getUint16
      (store (store [0, 0] 0 (load pkt 6).toNat) 1 (load pkt 7).toNat) 0 true =
        .ok (counterOf pkt : Int) := by
    have hbytes : store (store [0, 0] 0 (load pkt 6).toNat) 1
        (load pkt 7).toNat = [load pkt 6, load pkt 7] := by
      rw [store, store, toUint8_toNat, toUint8_toNat]
      rfl
    rw [hbytes]
    exact getUint16_little _ _
  have hfopts : newUint8Array ((load pkt 5 &&& 0x0F).toNat : Nat) =
      .ok (List.replicate (foptsLen pkt) 0) :=
    newUint8Array_natCast _
  unfold parseDownPacket
  rw [if_neg (Nat.not_lt.mpr hlen)]
  dsimp only [bind, Except.bind]
  rw [if_neg htype, hfour]
  dsimp only
  rw [haddr]
  dsimp only
  rw [hcounter]
  dsimp only
  rw [hfopts]
  dsimp only
  rw [show (load pkt 5 &&& 0x0F).toNat = foptsLen pkt from rfl, parseFopts_eq]
  dsimp only
  rw [checkMic_eq hlen]
  dsimp only
  rw [parsePayload_eq hlen]
  rfl

theorem parseDownPacket_of_not_parsable
    (crypto : Crypto) (self : LoraWanPacket) {pkt : Bytes}
    (h : ¬ Parsable pkt) :
    exists errMsg, parseDownPacket crypto self pkt = .ok (.failed errMsg) := by
  unfold parseDownPacket
  rcases Nat.lt_or_ge pkt.length 12 with hshort | hlen
  · rw [if_pos hshort]
    exact ⟨_, rfl⟩
  · have htype : load pkt 0 >>> 5 ≠ 5 ∧ load pkt 0 >>> 5 ≠ 3 := by
      constructor
      · intro hfive
        exact h ⟨hlen, Or.inl hfive⟩
      · intro hthree
        exact h ⟨hlen, Or.inr hthree⟩
    rw [if_neg (Nat.not_lt.mpr hlen)]
    dsimp only
    rw [if_pos htype]
    exact ⟨_, rfl⟩

end LoRaWan
end Fluxnode
