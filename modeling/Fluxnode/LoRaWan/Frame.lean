import Fluxnode.LoRaWan.Model

/-!
# The frame a packet carries

A packet is a header with device address, control byte, counter and options, a
port, the encrypted payload, and a MIC over all of it.  The functions that
build a packet produce exactly these bytes.
-/

namespace Fluxnode
namespace LoRaWan

open Js

/-!
## Blocks for AES
-/

def dirByte (dir : Int) : UInt8 :=
  if dir = 1 then 1 else 0

/-- The block that `__makeEncBase` builds, with its first and last byte. -/
def encBlock (first last : UInt8) (dir : Int) (n : Nat) (addr : Bytes) :
    Bytes :=
  [first, 0, 0, 0, 0, dirByte dir] ++ addr ++ counterBytes n ++ [0, 0, 0, last]

theorem exists_addr {addr : Bytes} (haddr : addr.length = 4) :
    exists a b c d, addr = [a, b, c, d] := by
  match addr, haddr with
  | [a, b, c, d], _ => exact ⟨a, b, c, d, rfl⟩

theorem length_encBlock
    {first last : UInt8} {dir : Int} {n : Nat} {addr : Bytes}
    (haddr : addr.length = 4) :
    (encBlock first last dir n addr).length = 16 := by
  rcases exists_addr haddr with ⟨a, b, c, d, rfl⟩
  rfl

theorem makeEncBase_eq
    {addr : Bytes} {n : Nat} (haddr : addr.length = 4) (hn : n < 65536)
    (dir blocknum : Int) :
    makeEncBase dir n addr blocknum =
      .ok (encBlock 1 (toUint8 (blocknum + 1)) dir n addr) := by
  rcases exists_addr haddr with ⟨a, b, c, d, rfl⟩
  by_cases hdir : dir = 1
  · simp only [makeEncBase, if_pos hdir, setUint16_htons 0 0 hn, encBlock,
      dirByte]
    rfl
  · simp only [makeEncBase, if_neg hdir, setUint16_htons 0 0 hn, encBlock,
      dirByte]
    rfl

/-!
## The key stream
-/

def keyStream (crypto : Crypto) (key addr : Bytes) (n : Nat) (dir : Int)
    (blocks : List Nat) : Bytes :=
  blocks.flatMap (fun block : Nat =>
    crypto.aes128EcbEnc key (encBlock 1 (toUint8 (block + 1)) dir n addr))

def applyKeyStream (crypto : Crypto) (key addr : Bytes) (n : Nat) (dir : Int)
    (payload : Bytes) : Bytes :=
  List.zipWith (fun k p => k ^^^ p)
    (keyStream crypto key addr n dir (List.range ((payload.length + 15) / 16)))
    payload

theorem length_keyStream
    (crypto : Crypto) (key addr : Bytes) (n : Nat) (dir : Int)
    (blocks : List Nat) :
    (keyStream crypto key addr n dir blocks).length = 16 * blocks.length := by
  induction blocks with
  | nil => rfl
  | cons block rest ih =>
      have hhead := crypto.length_aes128EcbEnc key
        (encBlock 1 (toUint8 (block + 1)) dir n addr)
      rw [keyStream, List.flatMap_cons, List.length_append, hhead]
      rw [keyStream] at ih
      rw [ih, List.length_cons]
      lia

theorem keyStreamLoop_eq
    (crypto : Crypto) (key : Bytes) (dir : Int) {addr : Bytes} {n : Nat}
    (haddr : addr.length = 4) (hn : n < 65536)
    (count start : Nat) {written : Bytes}
    (hwritten : written.length = 16 * start) :
    keyStreamLoop crypto addr key n dir (List.range' start count)
        (written ++ List.replicate (16 * count) 0) =
      .ok (written ++
        keyStream crypto key addr n dir (List.range' start count)) := by
  induction count generalizing start written with
  | zero => rfl
  | succ count ih =>
      let part := crypto.aes128EcbEnc key
        (encBlock 1 (toUint8 (start + 1)) dir n addr)
      have hpart : part.length = 16 := crypto.length_aes128EcbEnc _ _
      have hroom : 16 * (count + 1) = part.length + 16 * count := by lia
      have hset : typedArraySet (written ++ List.replicate (16 * (count + 1)) 0)
          part (start * 16) =
            .ok (written ++ part ++ List.replicate (16 * count) 0) := by
        rw [hroom]
        exact typedArraySet_zeros (by lia)
      have hlength : (written ++ part).length = 16 * (start + 1) := by
        rw [List.length_append]
        lia
      have hrest := ih (start + 1) hlength
      rw [List.range'_succ, keyStreamLoop, makeEncBase_eq haddr hn]
      show (typedArraySet _ part (start * 16) >>= _) = _
      rw [hset]
      show keyStreamLoop crypto addr key n dir
        (List.range' (start + 1) count) _ = _
      rw [hrest, List.append_assoc]
      rfl

theorem length_applyKeyStream
    (crypto : Crypto) (key addr : Bytes) (n : Nat) (dir : Int)
    (payload : Bytes) :
    (applyKeyStream crypto key addr n dir payload).length = payload.length := by
  rw [applyKeyStream, List.length_zipWith, length_keyStream, List.length_range]
  lia

theorem encryptPayload_eq
    {crypto : Crypto} {key addr : Bytes} {n : Nat}
    (haddr : addr.length = 4) (hn : n < 65536) (payload : Bytes) (dir : Int) :
    encryptPayload crypto payload addr key n dir =
      .ok (applyKeyStream crypto key addr n dir payload) := by
  have hempty : ([] : Bytes).length = 16 * 0 := rfl
  have hloop := keyStreamLoop_eq crypto key dir haddr hn
    ((payload.length + 15) / 16) 0 hempty
  rw [← List.range_eq_range', List.nil_append, List.nil_append] at hloop
  have hstore := storeEach_length (List.replicate payload.length 0)
    (fun i => load (keyStream crypto key addr n dir
      (List.range ((payload.length + 15) / 16))) i ^^^ load payload i)
  rw [List.length_replicate] at hstore
  have hstream := length_keyStream crypto key addr n dir
    (List.range ((payload.length + 15) / 16))
  rw [List.length_range] at hstream
  have happly : applyKeyStream crypto key addr n dir payload =
      (List.range payload.length).map (fun i =>
        load (keyStream crypto key addr n dir
          (List.range ((payload.length + 15) / 16))) i ^^^ load payload i) := by
    apply List.ext_getElem
    · rw [length_applyKeyStream, List.length_map, List.length_range]
    · intro i hi hi'
      rw [length_applyKeyStream] at hi
      rw [List.getElem_map, List.getElem_range, load_of_lt hi,
        load_of_lt (by lia)]
      exact List.getElem_zipWith
  simp only [encryptPayload, newUint8Array_natCast, bind, Except.bind, hloop,
    hstore, happly]
  rfl

theorem applyKeyStream_applyKeyStream
    (crypto : Crypto) (key addr : Bytes) (n : Nat) (dir : Int)
    (payload : Bytes) :
    applyKeyStream crypto key addr n dir
        (applyKeyStream crypto key addr n dir payload) = payload := by
  have hlength := length_applyKeyStream crypto key addr n dir payload
  have hstream := length_keyStream crypto key addr n dir
    (List.range ((payload.length + 15) / 16))
  rw [List.length_range] at hstream
  apply List.ext_getElem
  · rw [length_applyKeyStream, hlength]
  · intro i hi hi'
    have hlen : (List.zipWith (fun k p : UInt8 => k ^^^ p)
        (keyStream crypto key addr n dir
          (List.range ((payload.length + 15) / 16))) payload).length =
        payload.length := hlength
    simp only [applyKeyStream, List.getElem_zipWith, hlen]
    rw [← UInt8.xor_assoc, UInt8.xor_self, UInt8.zero_xor]

/-!
## The MIC
-/

def micOf (crypto : Crypto) (key addr : Bytes) (n : Nat) (dir : Int)
    (msg : Bytes) : Bytes :=
  (crypto.aes128Cmac key
    (encBlock 0x49 (toUint8 msg.length) dir n addr ++ msg)).take 4

theorem length_micOf
    (crypto : Crypto) (key addr : Bytes) (n : Nat) (dir : Int) (msg : Bytes) :
    (micOf crypto key addr n dir msg).length = 4 := by
  rw [micOf, List.length_take, crypto.length_aes128Cmac]
  rfl

theorem makeMic_of_base
    (crypto : Crypto) {tmp addr : Bytes} {dir fcnt : Int}
    (hbase : makeEncBase dir fcnt addr 0 = .ok tmp) (htmp : tmp.length = 16)
    (key pkt : Bytes) :
    makeMic crypto pkt addr key fcnt dir =
      .ok ((crypto.aes128Cmac key
        (store (store tmp 0 0x49) 15 pkt.length ++ pkt)).take 4) := by
  let first := store (store tmp 0 0x49) 15 pkt.length
  let cmac := crypto.aes128Cmac key (first ++ pkt)
  have hlength : first.length = 16 := by
    rw [length_store, length_store, htmp]
  have hnew : newUint8Array (pkt.length + 16 : Nat) =
      .ok ([] ++ List.replicate (first.length + pkt.length) 0) := by
    rw [newUint8Array_natCast, hlength, Nat.add_comm]
    rfl
  have hfirst : typedArraySet
      ([] ++ List.replicate (first.length + pkt.length) 0) first 0 =
        .ok (first ++ List.replicate pkt.length 0) :=
    typedArraySet_zeros rfl
  have hmsg : typedArraySet (first ++ List.replicate pkt.length 0) pkt 16 =
      .ok (first ++ pkt) :=
    typedArraySet_last hlength.symm
  have hmic : typedArraySet (List.replicate 4 0) (subarray cmac 0 4) 0 =
      .ok (cmac.take 4) := by
    have hcmac : cmac.length = 16 := crypto.length_aes128Cmac _ _
    have hslice : subarray cmac 0 4 = cmac.take 4 :=
      slice_zero_of_le (by lia)
    rw [hslice]
    apply typedArraySet_all
    rw [List.length_take, hcmac]
    rfl
  have hfour : newUint8Array 4 = .ok (List.replicate 4 0) := rfl
  simp only [makeMic, hnew, hbase, bind, Except.bind, first, hfirst, hmsg,
    hfour]
  exact hmic

theorem makeMic_eq
    {crypto : Crypto} {key addr : Bytes} {n : Nat}
    (haddr : addr.length = 4) (hn : n < 65536) (msg : Bytes) (dir : Int) :
    makeMic crypto msg addr key n dir =
      .ok (micOf crypto key addr n dir msg) := by
  have hstore : store (store (encBlock 1 (toUint8 (0 + 1)) dir n addr) 0 0x49) 15
      msg.length = encBlock 0x49 (toUint8 msg.length) dir n addr := by
    rcases exists_addr haddr with ⟨a, b, c, d, rfl⟩
    rfl
  rw [makeMic_of_base crypto (makeEncBase_eq haddr hn dir 0)
    (length_encBlock haddr), hstore]
  rfl

/-!
## The header
-/

def controlByte (fctrl : Int) (fopts : Bytes) : UInt8 :=
  toUint8 (bitOr fctrl (bitAnd fopts.length 0x0F))

theorem makeFhdr_eq
    {addr : Bytes} (haddr : addr.length = 4) (fctrl : Int) (n : Nat)
    (fopts : Bytes) :
    makeFhdr addr fctrl n fopts =
      .ok (addr ++ [controlByte fctrl fopts] ++ counterBytes n ++ fopts) := by
  have hnew : newUint8Array (7 + fopts.length : Nat) =
      .ok ([] ++ List.replicate (addr.length + (2 + fopts.length + 1)) 0) := by
    rw [newUint8Array_natCast, haddr, List.nil_append]
    congr 2
    lia
  have haddrSet : typedArraySet
      ([] ++ List.replicate (addr.length + (2 + fopts.length + 1)) 0) addr 0 =
        .ok (addr ++ List.replicate (2 + fopts.length + 1) 0) :=
    typedArraySet_zeros rfl
  have hcontrol : store (addr ++ List.replicate (2 + fopts.length + 1) 0) 4
      (bitOr fctrl (bitAnd fopts.length 0x0F)) =
        addr ++ [controlByte fctrl fopts] ++
          List.replicate ((counterBytes n).length + fopts.length) 0 :=
    store_zeros _ haddr.symm
  have hcounter : typedArraySet
      (addr ++ [controlByte fctrl fopts] ++
        List.replicate ((counterBytes n).length + fopts.length) 0)
      (counterBytes n) 5 =
        .ok (addr ++ [controlByte fctrl fopts] ++ counterBytes n ++
          List.replicate fopts.length 0) :=
    typedArraySet_zeros (by rw [List.length_append, haddr]; rfl)
  have hfopts : typedArraySet
      (addr ++ [controlByte fctrl fopts] ++ counterBytes n ++
        List.replicate fopts.length 0) fopts 7 =
        .ok (addr ++ [controlByte fctrl fopts] ++ counterBytes n ++ fopts) :=
    typedArraySet_last (by
      rw [List.length_append, List.length_append, haddr]
      rfl)
  simp only [makeFhdr, hnew, bind, Except.bind, haddrSet, hcontrol,
    setUint16_little, hcounter]
  split
  · exact hfopts
  · have hnil : fopts = [] := List.eq_nil_of_length_eq_zero (by lia)
    rw [hnil]
    rfl

/-!
## The packet
-/

def frameBytes (mhdr : UInt8) (addr : Bytes) (control : UInt8) (n : Nat)
    (fopts : Bytes) (fport : UInt8) (data : Bytes) : Bytes :=
  [mhdr] ++ (addr ++ [control] ++ counterBytes n ++ fopts) ++ [fport] ++ data

def withMic (crypto : Crypto) (key addr : Bytes) (n : Nat) (dir : Int)
    (msg : Bytes) : Bytes :=
  msg ++ micOf crypto key addr n dir msg

theorem setPayload_eq
    {crypto : Crypto} {self : LoraWanPacket} {n : Nat}
    (haddr : self.devAddr.length = 4) (hn : n < 65536) (dir : Int)
    (front payload : Bytes) :
    setPayload crypto self (front ++ List.replicate payload.length 0) payload n
        dir =
      .ok (front ++
        applyKeyStream crypto self.appKey self.devAddr n dir payload) := by
  have hlength :=
    length_applyKeyStream crypto self.appKey self.devAddr n dir payload
  unfold setPayload
  split
  · rw [encryptPayload_eq haddr hn]
    show typedArraySet _ _ _ = _
    rw [← hlength]
    apply typedArraySet_last
    rw [List.length_append, List.length_replicate]
    lia
  · have hnil : payload = [] := List.eq_nil_of_length_eq_zero (by lia)
    rw [hnil]
    rfl

theorem typedArraySet_front (mhdr fport : UInt8) (header : Bytes) (rest : Nat)
    (next : Bytes -> Except JsError Bytes) :
    (do
      let pkt <- newUint8Array (1 + header.length + 1 + rest : Nat)
      let pkt <- typedArraySet pkt [mhdr] 0
      let pkt <- typedArraySet pkt header 1
      let pkt <- typedArraySet pkt [fport] (1 + header.length)
      next pkt) =
      next ([mhdr] ++ header ++ [fport] ++ List.replicate rest 0) := by
  have hnew : newUint8Array (1 + header.length + 1 + rest : Nat) =
      .ok ([] ++ List.replicate
        ([mhdr].length + (header.length + ([fport].length + rest))) 0) := by
    rw [newUint8Array_natCast, List.nil_append, List.length_singleton,
      List.length_singleton]
    congr 2
    lia
  have hmhdr : typedArraySet ([] ++ List.replicate
      ([mhdr].length + (header.length + ([fport].length + rest))) 0) [mhdr] 0 =
        .ok ([mhdr] ++
          List.replicate (header.length + ([fport].length + rest)) 0) :=
    typedArraySet_zeros rfl
  have hheader : typedArraySet ([mhdr] ++
      List.replicate (header.length + ([fport].length + rest)) 0) header 1 =
        .ok ([mhdr] ++ header ++ List.replicate ([fport].length + rest) 0) :=
    typedArraySet_zeros rfl
  have hport : typedArraySet ([mhdr] ++ header ++
      List.replicate ([fport].length + rest) 0) [fport] (1 + header.length) =
        .ok ([mhdr] ++ header ++ [fport] ++ List.replicate rest 0) :=
    typedArraySet_zeros (by
      rw [List.length_append, List.length_singleton])
  simp only [hnew, bind, Except.bind, hmhdr, hheader, hport]

theorem typedArraySet_both (front back : Bytes) :
    (do
      let xs <- newUint8Array (front.length + back.length : Nat)
      let xs <- typedArraySet xs front 0
      typedArraySet xs back front.length) = .ok (front ++ back) := by
  have hnew : newUint8Array (front.length + back.length : Nat) =
      .ok ([] ++ List.replicate (front.length + back.length) 0) := by
    rw [newUint8Array_natCast, List.nil_append]
  have hfront : typedArraySet
      ([] ++ List.replicate (front.length + back.length) 0) front 0 =
        .ok (front ++ List.replicate back.length 0) :=
    typedArraySet_zeros rfl
  simp only [hnew, bind, Except.bind, hfront]
  exact typedArraySet_last rfl

/-!
## The counter of a block

The header holds the low bytes of the counter.  The blocks hold what `htons`
leaves of it, which is the same below 65536 only.
-/

/-- The counter that the blocks carry for a number. -/
def blockCounter (fcnt : Int) : Nat :=
  counterValue (highByte (htons fcnt)) (lowByte (htons fcnt))

theorem blockCounter_lt (fcnt : Int) : blockCounter fcnt < 65536 :=
  counterValue_lt _ _

theorem counterBytes_blockCounter (fcnt : Int) :
    counterBytes (blockCounter fcnt) =
      [highByte (htons fcnt), lowByte (htons fcnt)] :=
  counterBytes_counterValue _ _

theorem blockCounter_of_lt {n : Nat} (hn : n < 65536) : blockCounter n = n := by
  rw [blockCounter, highByte_htons_of_lt hn, lowByte_htons]
  exact counterValue_counterBytes hn

theorem setUint16_htons_counter (a b : UInt8) (fcnt : Int) :
    setUint16 [a, b] 0 (htons fcnt) false =
      setUint16 [a, b] 0 (htons (blockCounter fcnt)) false := by
  rw [setUint16_htons a b (blockCounter_lt fcnt), counterBytes_blockCounter,
    setUint16, if_neg Bool.false_ne_true]
  exact typedArraySet_all rfl

theorem makeEncBase_counter (dir fcnt : Int) (addr : Bytes) (blocknum : Int) :
    makeEncBase dir fcnt addr blocknum =
      makeEncBase dir (blockCounter fcnt) addr blocknum := by
  rw [makeEncBase, makeEncBase, setUint16_htons_counter]

theorem keyStreamLoop_counter
    (crypto : Crypto) (addr key : Bytes) (fcnt dir : Int) (blocks : List Nat)
    (keyStream : Bytes) :
    keyStreamLoop crypto addr key fcnt dir blocks keyStream =
      keyStreamLoop crypto addr key (blockCounter fcnt) dir blocks
        keyStream := by
  induction blocks generalizing keyStream with
  | nil => rfl
  | cons block rest ih =>
      rw [keyStreamLoop, keyStreamLoop, makeEncBase_counter]
      simp only [ih]

theorem setPayload_counter
    (crypto : Crypto) (self : LoraWanPacket) (pkt payload : Bytes)
    (fcnt dir : Int) :
    setPayload crypto self pkt payload fcnt dir =
      setPayload crypto self pkt payload (blockCounter fcnt) dir := by
  rw [setPayload, setPayload, encryptPayload, encryptPayload]
  simp only [keyStreamLoop_counter crypto self.devAddr self.appKey fcnt]

theorem makeMic_counter
    (crypto : Crypto) (pkt addr key : Bytes) (fcnt dir : Int) :
    makeMic crypto pkt addr key fcnt dir =
      makeMic crypto pkt addr key (blockCounter fcnt) dir := by
  rw [makeMic, makeMic, makeEncBase_counter]

/-!
## The whole packet
-/

/-- A packet is built with the counter in the header and the counter of the
blocks in the key stream and the MIC. -/
theorem makePacketFromPayLoad_blockCounter
    (crypto : Crypto) {self : LoraWanPacket}
    (haddr : self.devAddr.length = 4) (n : Nat)
    (payload : Bytes) (pkttype fport fctrl : Int) (fopts : Bytes) (dir : Int) :
    makePacketFromPayLoad crypto self payload pkttype fport fctrl n fopts dir =
      .ok (withMic crypto self.nwkKey self.devAddr (blockCounter n) dir
        (frameBytes (toUint8 pkttype) self.devAddr (controlByte fctrl fopts) n
          fopts (toUint8 fport)
          (applyKeyStream crypto self.appKey self.devAddr (blockCounter n) dir
            payload))) := by
  have hone : newUint8Array 1 = .ok [0] := rfl
  have hport : makeFport fport = .ok [toUint8 fport] := rfl
  have hn : blockCounter n < 65536 := blockCounter_lt n
  unfold makePacketFromPayLoad
  rw [hone, makeFhdr_eq haddr, hport]
  refine Eq.trans (typedArraySet_front (toUint8 pkttype) (toUint8 fport)
    (self.devAddr ++ [controlByte fctrl fopts] ++ counterBytes n ++ fopts)
    payload.length _) ?_
  rw [setPayload_counter, setPayload_eq haddr hn]
  dsimp only [bind, Except.bind]
  rw [makeMic_counter, makeMic_eq haddr hn]
  exact typedArraySet_both _ _

theorem makePacketFromPayLoad_eq
    (crypto : Crypto) {self : LoraWanPacket} {n : Nat}
    (haddr : self.devAddr.length = 4) (hn : n < 65536)
    (payload : Bytes) (pkttype fport fctrl : Int) (fopts : Bytes) (dir : Int) :
    makePacketFromPayLoad crypto self payload pkttype fport fctrl n fopts dir =
      .ok (withMic crypto self.nwkKey self.devAddr n dir
        (frameBytes (toUint8 pkttype) self.devAddr (controlByte fctrl fopts) n
          fopts (toUint8 fport)
          (applyKeyStream crypto self.appKey self.devAddr n dir payload))) := by
  rw [makePacketFromPayLoad_blockCounter crypto haddr, blockCounter_of_lt hn]

end LoRaWan
end Fluxnode
