import Fluxnode.LoRaWan.Parse

/-!
# Building and parsing are inverse

A packet built for the down direction parses to what it was built from, and a
packet that parses with a payload and the right MIC is the packet built from
what it parses to.
-/

namespace Fluxnode
namespace LoRaWan

open Js

/-!
## The control byte
-/

theorem toUint8_toInt (x : BitVec 32) :
    toUint8 x.toInt = UInt8.ofBitVec (x.setWidth 8) :=
  congrArg UInt8.ofBitVec (BitVec.signExtend_eq_setWidth_of_le x (by decide))

theorem toInt32_toInt (x : BitVec 32) : toInt32 x.toInt = x :=
  BitVec.ofInt_toInt

theorem controlByte_toBitVec (fctrl : Int) (fopts : Bytes) :
    (controlByte fctrl fopts).toBitVec =
      (toInt32 fctrl).setWidth 8 |||
        (BitVec.ofNat 8 fopts.length &&& 15#8) := by
  have hlength : toInt32 (bitAnd fopts.length 0x0F) =
      BitVec.ofNat 32 fopts.length &&& 15#32 := by
    rw [bitAnd, toInt32_toInt, toInt32, BitVec.ofInt_natCast]
    rfl
  rw [controlByte, bitOr, toUint8_toInt, hlength, BitVec.setWidth_or,
    BitVec.setWidth_and, BitVec.setWidth_ofNat_of_le (by decide)]
  rfl

theorem and_mask_ne_zero (b : BitVec 8) :
    (UInt8.ofBitVec b &&& 0x10 != 0) = b.getLsbD 4 ∧
      (UInt8.ofBitVec b &&& 0x20 != 0) = b.getLsbD 5 ∧
      (UInt8.ofBitVec b &&& 0x40 != 0) = b.getLsbD 6 ∧
      (UInt8.ofBitVec b &&& 0x80 != 0) = b.getLsbD 7 := by
  revert b
  decide

theorem controlByte_low {fctrl : Int} {fopts : Bytes}
    (hfctrl : bitAnd fctrl 0x0F = 0) (hfopts : fopts.length ≤ 15) :
    (controlByte fctrl fopts &&& 0x0F).toNat = fopts.length := by
  have hword : toInt32 fctrl &&& 15#32 = 0#32 := by
    apply BitVec.eq_of_toInt_eq
    exact hfctrl
  have hlow : (toInt32 fctrl).setWidth 8 &&& 15#8 = 0#8 := by
    have hbyte := congrArg (BitVec.setWidth 8) hword
    rw [BitVec.setWidth_and] at hbyte
    exact hbyte
  have hdistrib : ((toInt32 fctrl).setWidth 8 |||
      (BitVec.ofNat 8 fopts.length &&& 15#8)) &&& 15#8 =
        BitVec.ofNat 8 fopts.length &&& 15#8 := by
    rw [BitVec.and_or_distrib_right, hlow, BitVec.zero_or, BitVec.and_assoc,
      BitVec.and_self]
  rw [← UInt8.toNat_toBitVec, UInt8.toBitVec_and, controlByte_toBitVec]
  show (((toInt32 fctrl).setWidth 8 |||
    (BitVec.ofNat 8 fopts.length &&& 15#8)) &&& 15#8).toNat = fopts.length
  rw [hdistrib, BitVec.toNat_and, BitVec.toNat_ofNat,
    Nat.mod_eq_of_lt (by lia)]
  show fopts.length &&& 15 = fopts.length
  rw [Nat.and_two_pow_sub_one_eq_mod fopts.length 4]
  exact Nat.mod_eq_of_lt (by lia)

theorem controlByte_high {fctrl : Int} {fopts : Bytes} {i : Nat}
    (hlow : 4 ≤ i) (hhigh : i < 8) :
    (controlByte fctrl fopts).toBitVec.getLsbD i =
      (toInt32 fctrl).getLsbD i := by
  have hmask : (15#8).getLsbD i = false := by
    have hall : forall j, j < 8 -> 4 ≤ j -> (15#8).getLsbD j = false := by
      decide
    exact hall i hhigh hlow
  rw [controlByte_toBitVec, BitVec.getLsbD_or, BitVec.getLsbD_and, hmask,
    Bool.and_false, Bool.or_false, BitVec.getLsbD_setWidth]
  simp [hhigh]

/-!
## Pieces of an assembled packet
-/

theorem piece_middle {pkt middle : Bytes} {start stop : Nat}
    (front back : Bytes) (hpkt : pkt = front ++ middle ++ back)
    (hstart : start = front.length)
    (hstop : stop = front.length + middle.length) :
    piece pkt start stop = middle := by
  have hlength : stop = (front ++ middle).length := by
    rw [hstop, List.length_append]
  rw [piece, hpkt, hlength, List.take_left, hstart, List.drop_left]

theorem load_middle {pkt : Bytes} {b : UInt8} {i : Nat} (front back : Bytes)
    (hpkt : pkt = front ++ [b] ++ back) (hi : i = front.length) :
    load pkt i = b := by
  rw [load, hpkt, hi, List.getD_eq_getElem?_getD, List.append_assoc,
    List.getElem?_append_right (Nat.le_refl _), Nat.sub_self]
  rfl

section Assembled

variable {mhdr control fport : UInt8} {addr fopts data mic pkt : Bytes} {n : Nat}

theorem length_frameBytes (haddr : addr.length = 4) :
    (frameBytes mhdr addr control n fopts fport data).length =
      9 + fopts.length + data.length := by
  simp only [frameBytes, counterBytes, List.length_append, haddr,
    List.length_cons, List.length_nil]
  lia

theorem assembled_mhdr
    (hpkt : pkt = frameBytes mhdr addr control n fopts fport data ++ mic) :
    load pkt 0 = mhdr := by
  rw [hpkt]
  rfl

variable (haddr : addr.length = 4)
  (hpkt : pkt = frameBytes mhdr addr control n fopts fport data ++ mic)

include haddr hpkt

theorem assembled_addr : piece pkt 1 5 = addr := by
  rcases exists_addr haddr with ⟨a, b, c, d, rfl⟩
  rw [hpkt]
  rfl

theorem assembled_control : load pkt 5 = control := by
  rcases exists_addr haddr with ⟨a, b, c, d, rfl⟩
  rw [hpkt]
  rfl

theorem assembled_counter (hn : n < 65536) : counterOf pkt = n := by
  rcases exists_addr haddr with ⟨a, b, c, d, rfl⟩
  rw [hpkt]
  exact counterValue_counterBytes hn

theorem assembled_fopts : piece pkt 8 (8 + fopts.length) = fopts := by
  have hfront :
      ([mhdr] ++ (addr ++ [control] ++ counterBytes n)).length = 8 := by
    rw [List.length_append, List.length_append, List.length_append, haddr]
    rfl
  apply piece_middle ([mhdr] ++ (addr ++ [control] ++ counterBytes n))
    ([fport] ++ data ++ mic) _ hfront.symm
  · rw [hfront]
  · rw [hpkt, frameBytes]
    simp only [List.append_assoc]

theorem assembled_fport : load pkt (8 + fopts.length) = fport := by
  apply load_middle
    ([mhdr] ++ (addr ++ [control] ++ counterBytes n ++ fopts)) (data ++ mic)
  · rw [hpkt, frameBytes]
    simp only [List.append_assoc]
  · simp only [List.length_append, haddr, counterBytes, List.length_cons,
      List.length_nil]
    lia

theorem assembled_data (hmic : mic.length = 4) :
    piece pkt (8 + fopts.length + 1) (pkt.length - 4) = data := by
  apply piece_middle
    ([mhdr] ++ (addr ++ [control] ++ counterBytes n ++ fopts) ++ [fport]) mic
  · rw [hpkt, frameBytes]
  · simp only [List.length_append, haddr, counterBytes, List.length_cons,
      List.length_nil]
    lia
  · rw [hpkt, List.length_append, hmic]
    simp only [frameBytes, List.length_append, haddr, counterBytes,
      List.length_cons, List.length_nil]
    lia

end Assembled

theorem piece_withMic
    {crypto : Crypto} {key addr msg : Bytes} {n : Nat} {dir : Int} {pkt : Bytes}
    (hpkt : pkt = withMic crypto key addr n dir msg) :
    piece pkt 0 (pkt.length - 4) = msg ∧
      piece pkt (pkt.length - 4) pkt.length =
        micOf crypto key addr n dir msg := by
  have hmic := length_micOf crypto key addr n dir msg
  have hlength : pkt.length = msg.length + 4 := by
    rw [hpkt, withMic, List.length_append, hmic]
  constructor
  · apply piece_middle [] (micOf crypto key addr n dir msg)
    · exact hpkt
    · rfl
    · rw [hlength, List.length_nil]
      lia
  · apply piece_middle msg []
    · rw [hpkt, withMic, List.append_nil]
    · lia
    · lia

/-!
## Decoding what was built
-/

/-- The parser on a frame of a down-link with a payload. -/
theorem parseDownPacket_frame
    {crypto : Crypto} {self : LoraWanPacket} {mhdr control fport : UInt8}
    {addr fopts payload pkt : Bytes} {n : Nat}
    (hpkt : pkt = withMic crypto self.nwkKey addr n 1
      (frameBytes mhdr addr control n fopts fport
        (applyKeyStream crypto self.appKey addr n 1 payload)))
    (haddr : addr.length = 4) (hn : n < 65536) (hpayload : payload ≠ [])
    (htype : mhdr >>> 5 = 5 ∨ mhdr >>> 5 = 3)
    (hcontrol : (control &&& 0x0F).toNat = fopts.length) :
    parseDownPacket crypto self pkt =
      .ok (.parsed {
        devAddr := addr
        confirmed := mhdr >>> 5 == 5
        payload := payload
        fport := .byte fport
        fcnt := n
        fopts := fopts
        ack := control &&& 0x20 != 0
        fpending := control &&& 0x10 != 0
        adr := control &&& 0x80 != 0
        adrackreq := control &&& 0x40 != 0
        micVerified := true }) := by
  have hmicLength : (micOf crypto self.nwkKey addr n 1
      (frameBytes mhdr addr control n fopts fport
        (applyKeyStream crypto self.appKey addr n 1 payload))).length = 4 :=
    length_micOf ..
  have hmhdr := assembled_mhdr hpkt
  have hpaddr := assembled_addr haddr hpkt
  have hpcontrol := assembled_control haddr hpkt
  have hcounter := assembled_counter haddr hpkt hn
  have hfopts := assembled_fopts haddr hpkt
  have hfport := assembled_fport haddr hpkt
  have hdata := assembled_data haddr hpkt hmicLength
  have hlen : foptsLen pkt = fopts.length := by
    rw [foptsLen, hpcontrol, hcontrol]
  have hpos : 0 < payload.length := List.length_pos_iff.mpr hpayload
  have hlength : pkt.length = 13 + fopts.length + payload.length := by
    rw [hpkt, withMic, List.length_append, hmicLength, length_frameBytes haddr,
      length_applyKeyStream]
    lia
  have hmic : MicVerified crypto self.nwkKey pkt := by
    rcases piece_withMic hpkt with ⟨hbody, hlast⟩
    rw [MicVerified, hpaddr, hcounter, hbody, hlast]
  have hfits : foptsLen pkt + 12 ≤ pkt.length := by lia
  have hstart : dataStart pkt = 8 + fopts.length := by
    rw [dataStart, if_pos hfits, hlen]
  have hhas : HasPayload crypto self.nwkKey pkt := ⟨hmic, by lia⟩
  have hparsable : Parsable pkt := by
    constructor
    · exact by lia
    · rw [mtype, hmhdr]
      exact htype
  have hpfopts : foptsOf pkt = fopts := by
    rw [foptsOf, if_pos hfits, hlen, hfopts]
  have hplain :
      decrypted crypto self pkt (8 + fopts.length + 1) = payload := by
    rw [decrypted, hpaddr, hcounter, hdata, applyKeyStream_applyKeyStream]
  rw [parseDownPacket_of_parsable crypto self hparsable]
  simp only [downPacket, if_pos hhas, hpaddr, hstart, hplain, hcounter, hpfopts,
    mtype, hmhdr, hpcontrol, hfport, hmic, decide_true]

/-- A packet built for the down direction decodes to what it was built from. -/
theorem parseDownPacket_makePacketFromPayLoad
    (crypto : Crypto) (addr nwkKey appKey payload fopts : Bytes)
    (pkttype fport fctrl fcnt : Int)
    (haddr : addr.length = 4) (hpayload : 1 ≤ payload.length)
    (hfopts : fopts.length ≤ 15) (hfport : 0 ≤ fport ∧ fport ≤ 255)
    (hfcnt : 0 ≤ fcnt ∧ fcnt ≤ 65535) (hfctrl : bitAnd fctrl 0x0F = 0)
    (htype : toUint8 pkttype >>> 5 = 3 ∨ toUint8 pkttype >>> 5 = 5) :
    exists self pkt p,
      loraWanPacket addr nwkKey appKey = .ok self ∧
        makePacketFromPayLoad crypto self payload pkttype fport fctrl fcnt
          fopts 1 = .ok pkt ∧
        parseDownPacket crypto self pkt = .ok (.parsed p) ∧
        p.micVerified = true ∧
        p.devAddr = addr.reverse ∧
        p.payload = payload ∧
        (exists b, p.fport = .byte b ∧ (b.toNat : Int) = fport) ∧
        p.fcnt = fcnt ∧
        p.fopts = fopts ∧
        (p.confirmed = true <-> toUint8 pkttype >>> 5 = 5) ∧
        p.ack = (toInt32 fctrl).getLsbD 5 ∧
        p.fpending = (toInt32 fctrl).getLsbD 4 ∧
        p.adr = (toInt32 fctrl).getLsbD 7 ∧
        p.adrackreq = (toInt32 fctrl).getLsbD 6 := by
  let self : LoraWanPacket := ⟨addr.reverse, nwkKey, appKey⟩
  have hself : loraWanPacket addr nwkKey appKey = .ok self := by
    rw [loraWanPacket, reverse_eq]
    rfl
  have hdevAddr : self.devAddr.length = 4 := by
    rw [← haddr]
    exact List.length_reverse
  rcases Int.eq_ofNat_of_zero_le hfcnt.1 with ⟨n, rfl⟩
  have hn : n < 65536 := by lia
  have hne : payload ≠ [] := List.length_pos_iff.mp hpayload
  have hport : ((toUint8 fport).toNat : Int) = fport := by
    rcases Int.eq_ofNat_of_zero_le hfport.1 with ⟨k, rfl⟩
    rw [toUint8, BitVec.ofInt_natCast, UInt8.toNat_ofBitVec, BitVec.toNat_ofNat,
      Nat.mod_eq_of_lt (by lia)]
  have hmake := makePacketFromPayLoad_eq crypto hdevAddr hn payload pkttype
    fport fctrl fopts 1
  have hpkt : withMic crypto self.nwkKey self.devAddr n 1
      (frameBytes (toUint8 pkttype) self.devAddr (controlByte fctrl fopts) n
        fopts (toUint8 fport)
        (applyKeyStream crypto self.appKey self.devAddr n 1 payload)) = _ := rfl
  have hparse := parseDownPacket_frame hpkt hdevAddr hn hne htype.symm
    (controlByte_low hfctrl hfopts)
  rcases and_mask_ne_zero (controlByte fctrl fopts).toBitVec with
    ⟨hpending, hack, hadrackreq, hadr⟩
  refine ⟨self, _, _, hself, hmake, hparse, rfl, rfl, rfl, ?_, rfl, rfl, ?_, ?_,
    ?_, ?_, ?_⟩
  · exact ⟨toUint8 fport, rfl, hport⟩
  · exact beq_iff_eq
  · exact hack.trans (controlByte_high (by lia) (by lia))
  · exact hpending.trans (controlByte_high (by lia) (by lia))
  · exact hadr.trans (controlByte_high (by lia) (by lia))
  · exact hadrackreq.trans (controlByte_high (by lia) (by lia))

/-!
## A device with a stand-in for AES
-/

/-- A stand-in for AES whose blocks and MACs are all zero. -/
def zeroCrypto : Crypto where
  aes128EcbEnc _ _ := List.replicate 16 0
  aes128Cmac _ _ := List.replicate 16 0
  length_aes128EcbEnc _ _ := rfl
  length_aes128Cmac _ _ := rfl

def device : LoraWanPacket where
  devAddr := [1, 2, 3, 4]
  nwkKey := List.replicate 16 0
  appKey := List.replicate 16 0

def hiPacket : Bytes :=
  [0xA0, 1, 2, 3, 4, 0x21, 0x34, 0x12, 2, 7, 104, 105, 0, 0, 0, 0]

theorem parseDownPacket_makePacketFromPayLoad_hi :
    exists self pkt p,
      loraWanPacket [4, 3, 2, 1] device.nwkKey device.appKey = .ok self ∧
        makePacketFromPayLoad zeroCrypto self [104, 105] 0xA0 7 0x20 0x1234 [2]
          1 = .ok pkt ∧
        parseDownPacket zeroCrypto self pkt = .ok (.parsed p) ∧
        p.payload = [104, 105] ∧ p.fcnt = 0x1234 ∧ p.fopts = [2] := by
  have h := parseDownPacket_makePacketFromPayLoad zeroCrypto [4, 3, 2, 1]
    device.nwkKey device.appKey [104, 105] [2] 0xA0 7 0x20 0x1234
    rfl (by decide) (by decide) (by decide) (by decide) rfl (by decide)
  rcases h with
    ⟨self, pkt, p, hself, hmake, hparse, _, _, hpayload, _, hfcnt, hfopts, _⟩
  exact ⟨self, pkt, p, hself, hmake, hparse, hpayload, hfcnt, hfopts⟩

/-!
## Building what was decoded
-/

theorem piece_append {pkt : Bytes} {start middle stop : Nat}
    (hstart : start ≤ middle) (hmiddle : middle ≤ stop)
    (hstop : stop ≤ pkt.length) :
    piece pkt start middle ++ piece pkt middle stop = piece pkt start stop := by
  have htake : (pkt.take stop).take middle = pkt.take middle := by
    rw [List.take_take, Nat.min_eq_left hmiddle]
  have hlength : start ≤ (pkt.take middle).length := by
    rw [List.length_take]
    lia
  calc
    piece pkt start middle ++ piece pkt middle stop =
        (pkt.take middle ++ (pkt.take stop).drop middle).drop start := by
      rw [List.drop_append_of_le_length hlength]
      rfl
    _ = ((pkt.take stop).take middle ++ (pkt.take stop).drop middle).drop
        start := by
      rw [htake]
    _ = piece pkt start stop := by
      rw [List.take_append_drop]
      rfl

theorem piece_succ {pkt : Bytes} {i : Nat} (hi : i < pkt.length) :
    piece pkt i (i + 1) = [load pkt i] := by
  rw [piece, List.take_add_one, List.drop_append_of_le_length, load_of_lt hi,
    List.getElem?_eq_getElem hi, List.drop_eq_nil_of_le]
  · rfl
  · rw [List.length_take]
    lia
  · rw [List.length_take]
    lia

theorem frameBytes_pieces {pkt : Bytes} {start stop : Nat}
    (hstart : 8 ≤ start) (hport : start + 1 ≤ stop) (hstop : stop ≤ pkt.length) :
    frameBytes (load pkt 0) (piece pkt 1 5) (load pkt 5) (counterOf pkt)
        (piece pkt 8 start) (load pkt start) (piece pkt (start + 1) stop) =
      piece pkt 0 stop := by
  have hcounter : counterBytes (counterOf pkt) = [load pkt 6, load pkt 7] :=
    counterBytes_counterValue _ _
  have hpair : [load pkt 6, load pkt 7] = piece pkt 6 7 ++ piece pkt 7 8 := by
    rw [piece_succ (by lia), piece_succ (by lia)]
    rfl
  rw [frameBytes, hcounter, hpair, ← piece_succ (i := 0) (by lia),
    ← piece_succ (i := 5) (by lia), ← piece_succ (i := start) (by lia)]
  rw [piece_append (by lia) (by lia) (by lia),
    piece_append (by lia) (by lia) (by lia),
    piece_append (by lia) (by lia) (by lia),
    piece_append (by lia) (by lia) (by lia),
    piece_append (by lia) (by lia) (by lia),
    piece_append (by lia) (by lia) (by lia),
    piece_append (by lia) (by lia) (by lia)]

theorem controlByte_self {control : UInt8} {fopts : Bytes}
    (hfopts : fopts.length = (control &&& 0x0F).toNat) :
    controlByte (bitAnd control.toNat 0xF0) fopts = control := by
  have hsplit : forall b : BitVec 8,
      (b &&& 240#8) ||| (b &&& 15#8 &&& 15#8) = b := by
    decide
  have hhigh : (toInt32 (bitAnd control.toNat 0xF0)).setWidth 8 =
      control.toBitVec &&& 240#8 := by
    rw [bitAnd, toInt32_toInt, toInt32, BitVec.ofInt_natCast,
      BitVec.setWidth_and, BitVec.setWidth_ofNat_of_le (by decide)]
    congr 1
    exact BitVec.ofNat_toNat ..
  have hlow : BitVec.ofNat 8 fopts.length = control.toBitVec &&& 15#8 := by
    rw [hfopts]
    exact BitVec.ofNat_toNat ..
  apply UInt8.toBitVec_inj.mp
  rw [controlByte_toBitVec, hhigh, hlow]
  exact hsplit control.toBitVec

/-- A packet that decodes with a payload and the right MIC is the packet built
from what it decodes to. -/
theorem makePacketFromPayLoad_parseDownPacket
    {crypto : Crypto} {self : LoraWanPacket} {pkt : Bytes} {p : DownPacket}
    (hparse : parseDownPacket crypto self pkt = .ok (.parsed p))
    (hverified : p.micVerified = true) (hpayload : p.payload ≠ [])
    (haddr : p.devAddr = self.devAddr)
    (hfits : (load pkt 5 &&& 0x0F).toNat + 12 ≤ pkt.length) :
    exists b, p.fport = .byte b ∧
      makePacketFromPayLoad crypto self p.payload (load pkt 0).toNat b.toNat
        (bitAnd (load pkt 5).toNat 0xF0) p.fcnt p.fopts 1 = .ok pkt := by
  by_cases hparsable : Parsable pkt
  · rw [parseDownPacket_of_parsable crypto self hparsable] at hparse
    cases hparse
    have hhas : HasPayload crypto self.nwkKey pkt := by
      by_contra hnone
      apply hpayload
      simp only [downPacket, if_neg hnone]
    have hlen := hparsable.1
    have hmic := hhas.1
    have hmore := hhas.2
    have hstart : dataStart pkt = 8 + foptsLen pkt := if_pos hfits
    have hfopts : foptsOf pkt = piece pkt 8 (8 + foptsLen pkt) := if_pos hfits
    have hself : self.devAddr.length = 4 := by
      rw [← haddr]
      exact length_piece (by lia)
    have hcontrol : controlByte (bitAnd (load pkt 5).toNat 0xF0)
        (piece pkt 8 (8 + foptsLen pkt)) = load pkt 5 := by
      apply controlByte_self
      rw [length_piece (by lia)]
      show 8 + foptsLen pkt - 8 = foptsLen pkt
      lia
    have hframe : frameBytes (load pkt 0) (piece pkt 1 5) (load pkt 5)
        (counterOf pkt) (piece pkt 8 (8 + foptsLen pkt))
        (load pkt (8 + foptsLen pkt))
        (piece pkt (8 + foptsLen pkt + 1) (pkt.length - 4)) =
          piece pkt 0 (pkt.length - 4) :=
      frameBytes_pieces (by lia) (by lia) (by lia)
    have haddr' : self.devAddr = piece pkt 1 5 := haddr.symm
    have hwhole : piece pkt 0 pkt.length = pkt := by
      rw [piece, List.take_length, List.drop_zero]
    refine ⟨load pkt (dataStart pkt), if_pos hhas, ?_⟩
    simp only [downPacket, if_pos hhas, hfopts, hstart]
    rw [makePacketFromPayLoad_eq crypto hself (counterOf_lt pkt), hcontrol,
      toUint8_toNat, toUint8_toNat, haddr', decrypted,
      applyKeyStream_applyKeyStream, hframe, withMic, hmic,
      piece_append (by lia) (by lia) (by lia), hwhole]
  · rcases parseDownPacket_of_not_parsable crypto self hparsable with
      ⟨errMsg, hfailed⟩
    rw [hfailed] at hparse
    cases hparse

theorem makePacketFromPayLoad_parseDownPacket_hi :
    exists p b,
      parseDownPacket zeroCrypto device hiPacket = .ok (.parsed p) ∧
        p.payload = [104, 105] ∧ p.fport = .byte b ∧
        makePacketFromPayLoad zeroCrypto device p.payload
          (load hiPacket 0).toNat b.toNat (bitAnd (load hiPacket 5).toNat 0xF0)
          p.fcnt p.fopts 1 = .ok hiPacket := by
  have hparsable : Parsable hiPacket := ⟨by decide, Or.inl (by decide)⟩
  have hpayload : (downPacket zeroCrypto device hiPacket).payload =
      [104, 105] := by
    decide
  have hparse := parseDownPacket_of_parsable zeroCrypto device hparsable
  rcases makePacketFromPayLoad_parseDownPacket hparse (by decide) (by decide)
      rfl (by decide) with ⟨b, hfport, hmake⟩
  exact ⟨_, b, hparse, hpayload, hfport, hmake⟩

end LoRaWan
end Fluxnode
