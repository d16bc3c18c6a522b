import Fluxnode.Js.Util

/-!
# The LoRaWAN packet library

`spiffs_image/lorawanlib.js` builds and parses LoRaWAN data frames for one
device.  AES-128 and its CMAC come from outside.
-/

namespace Fluxnode
namespace LoRaWan

open Js

/-- `Crypto.aes128EcbEnc` on one block and `Crypto.aes128Cmac`. -/
structure Crypto where
  aes128EcbEnc : Bytes -> Bytes -> Bytes
  aes128Cmac : Bytes -> Bytes -> Bytes
  length_aes128EcbEnc (key data : Bytes) : (aes128EcbEnc key data).length = 16
  length_aes128Cmac (key data : Bytes) : (aes128Cmac key data).length = 16

structure LoraWanPacket where
  devAddr : Bytes
  nwkKey : Bytes
  appKey : Bytes
  deriving DecidableEq, Repr

def loraWanPacket (devAddr nwkKey appKey : Bytes) :
    Except JsError LoraWanPacket := do
  let devAddr <- reverse devAddr
  return { devAddr := devAddr, nwkKey := nwkKey, appKey := appKey }

/-!
## Building
-/

def makeEncBase (dir fcnt : Int) (addr : Bytes) (blocknum : Int) :
    Except JsError Bytes := do
  let base <- newUint8Array 16
  let base := store base 0 0x01
  let base := store base 1 0x00
  let base := store base 2 0x00
  let base := store base 3 0x00
  let base := store base 4 0x00
  let base := store base 5 0x00
  let base := if dir = 1 then store base 5 0x01 else base
  let base <- typedArraySet base addr 6
  let tmp <- setUint16 [0, 0] 0 (htons fcnt) false
  let base <- typedArraySet base tmp 10
  let base := store base 12 0x00
  let base := store base 13 0x00
  let base := store base 14 0x00
  return store base 15 (blocknum + 1)

def makeFport (port : Int) : Except JsError Bytes := do
  let fport <- newUint8Array 1
  return store fport 0 port

def makeFhdr (addr : Bytes) (fctrl fcnt : Int) (fopts : Bytes) :
    Except JsError Bytes := do
  let FHDR <- newUint8Array (7 + fopts.length : Nat)
  let FHDR <- typedArraySet FHDR addr 0
  let FHDR := store FHDR 4 (bitOr fctrl (bitAnd fopts.length 0x0F))
  let tmp <- setUint16 [0, 0] 0 fcnt true
  let FHDR <- typedArraySet FHDR tmp 5
  if fopts.length > 0 then
    typedArraySet FHDR fopts 7
  else
    return FHDR

def makeMic (crypto : Crypto) (pkt addr key : Bytes) (fcnt dir : Int) :
    Except JsError Bytes := do
  let msg <- newUint8Array (pkt.length + 16 : Nat)
  let tmp <- makeEncBase dir fcnt addr 0
  let tmp := store tmp 0 0x49
  let tmp := store tmp 15 pkt.length
  let msg <- typedArraySet msg tmp 0
  let msg <- typedArraySet msg pkt 16
  let cmac := crypto.aes128Cmac key msg
  let mic <- newUint8Array 4
  typedArraySet mic (subarray cmac 0 4) 0

/-- The key-stream loop of `__encryptPayload`, over the block numbers. -/
def keyStreamLoop (crypto : Crypto) (addr key : Bytes) (fcnt dir : Int) :
    List Nat -> Bytes -> Except JsError Bytes
  | [], keyStream => .ok keyStream
  | block :: rest, keyStream => do
      let part <- makeEncBase dir fcnt addr block
      let keyStream <-
        typedArraySet keyStream (crypto.aes128EcbEnc key part) (block * 16)
      keyStreamLoop crypto addr key fcnt dir rest keyStream

def encryptPayload (crypto : Crypto) (payload addr key : Bytes)
    (fcnt dir : Int) : Except JsError Bytes := do
  let blocks := (payload.length + 15) / 16
  let keyStream <- newUint8Array (16 * blocks : Nat)
  let keyStream <-
    keyStreamLoop crypto addr key fcnt dir (List.range blocks) keyStream
  let encPayload <- newUint8Array payload.length
  return storeEach encPayload payload.length
    (fun i => load keyStream i ^^^ load payload i)

def setPayload (crypto : Crypto) (self : LoraWanPacket) (pkt payload : Bytes)
    (fcnt dir : Int) : Except JsError Bytes :=
  if payload.length > 0 then do
    let encPayload <-
      encryptPayload crypto payload self.devAddr self.appKey fcnt dir
    typedArraySet pkt encPayload (pkt.length - encPayload.length)
  else
    .ok pkt

def makePacketFromPayLoad (crypto : Crypto) (self : LoraWanPacket)
    (payload : Bytes) (pkttype fport fctrl fcnt : Int) (fopts : Bytes)
    (dir : Int) : Except JsError Bytes := do
  let MHDR <- newUint8Array 1
  let MHDR := store MHDR 0 pkttype
  let FHDR <- makeFhdr self.devAddr fctrl fcnt fopts
  let FPORT <- makeFport fport
  let pkt <- newUint8Array
    (MHDR.length + FHDR.length + FPORT.length + payload.length : Nat)
  let pkt <- typedArraySet pkt MHDR 0
  let pkt <- typedArraySet pkt FHDR 1
  let pkt <- typedArraySet pkt FPORT (MHDR.length + FHDR.length)
  let pkt <- setPayload crypto self pkt payload fcnt dir
  let mic <- makeMic crypto pkt self.devAddr self.nwkKey fcnt dir
  let lorapkt <- newUint8Array (pkt.length + mic.length : Nat)
  let lorapkt <- typedArraySet lorapkt pkt 0
  typedArraySet lorapkt mic pkt.length

def unConfirmedDown (crypto : Crypto) (self : LoraWanPacket) (payload : Bytes)
    (fport fcnt : Int) (fopts : Bytes) : Except JsError Bytes :=
  makePacketFromPayLoad crypto self payload 0x60 fport 0 fcnt fopts 1

def confirmedDown (crypto : Crypto) (self : LoraWanPacket) (payload : Bytes)
    (fport fcnt : Int) (fopts : Bytes) : Except JsError Bytes :=
  makePacketFromPayLoad crypto self payload 0xA0 fport 0 fcnt fopts 1

def unConfirmedUp (crypto : Crypto) (self : LoraWanPacket) (payload : Bytes)
    (fport fcnt : Int) (fopts : Bytes) : Except JsError Bytes :=
  makePacketFromPayLoad crypto self payload 0x40 fport 0 fcnt fopts 0

def confirmedUp (crypto : Crypto) (self : LoraWanPacket) (payload : Bytes)
    (fport fcnt : Int) (fopts : Bytes) : Except JsError Bytes :=
  makePacketFromPayLoad crypto self payload 0x80 fport 0 fcnt fopts 0

def ackPacket (crypto : Crypto) (self : LoraWanPacket) (fport fcnt : Int) :
    Except JsError Bytes :=
  makePacketFromPayLoad crypto self [] 0x40 fport 0x20 fcnt [] 0

/-!
## Parsing
-/

def checkMic (crypto : Crypto) (pkt key : Bytes) (fcnt : Int) (addr : Bytes)
    (dir : Int) : Except JsError Bool := do
  let pkt_wo_mic <- newUint8Array ((pkt.length : Int) - 4)
  let pkt_wo_mic <-
    typedArraySet pkt_wo_mic (subarray pkt 0 ((pkt.length : Int) - 4)) 0
  let old_mic <- newUint8Array 4
  let old_mic <-
    typedArraySet old_mic (subarray pkt ((pkt.length : Int) - 4) pkt.length) 0
  let mic <- makeMic crypto pkt_wo_mic addr key fcnt dir
  return arrayEqual mic old_mic

/-- The `fport` of a parsed packet: the empty array it starts as, or a byte. -/
inductive FPort where
  | emptyArray
  | byte (b : UInt8)
  deriving DecidableEq, Repr

structure DownPacket where
  devAddr : Bytes
  confirmed : Bool
  payload : Bytes
  fport : FPort
  fcnt : Int
  fopts : Bytes
  ack : Bool
  fpending : Bool
  adr : Bool
  adrackreq : Bool
  micVerified : Bool
  deriving DecidableEq, Repr

/-- The two shapes of the result, with `error` true and false. -/
inductive ParseResult where
  | failed (errMsg : String)
  | parsed (pkt : DownPacket)
  deriving DecidableEq, Repr

def ParseResult.error : ParseResult -> Bool
  | .failed _ => true
  | .parsed _ => false

/-- The branch of `__parseDownPacket` that reads the options: the options and
the index behind them. -/
def parseFopts (pkt : Bytes) (FOPTSLEN data_idx : Nat) (FOPTS : Bytes) :
    Except JsError (Bytes × Nat) :=
  if FOPTSLEN > 0 ∧ FOPTSLEN + 12 ≤ pkt.length then do
    let FOPTS <- typedArraySet FOPTS
      (subarray pkt data_idx (data_idx + FOPTSLEN : Nat)) 0
    return (FOPTS, data_idx + FOPTSLEN)
  else
    .ok (FOPTS, data_idx)

def parsePayload (crypto : Crypto) (self : LoraWanPacket) (pkt addr : Bytes)
    (FCNT : Int) (data_idx : Nat) (micOk : Bool) :
    Except JsError (Bytes × FPort) :=
  if micOk = true ∧ data_idx + 4 + 1 < pkt.length then do
    let FPORT := FPort.byte (load pkt data_idx)
    let data_idx := data_idx + 1
    let pay <- newUint8Array ((pkt.length : Int) - 4 - data_idx)
    let pay <- typedArraySet pay
      (subarray pkt data_idx ((pkt.length : Int) - 4)) 0
    let payload <- encryptPayload crypto pay addr self.appKey FCNT 1
    return (payload, FPORT)
  else
    .ok ([], .emptyArray)

def parseDownPacket (crypto : Crypto) (self : LoraWanPacket) (pkt : Bytes) :
    Except JsError ParseResult :=
  if pkt.length < 12 then
    .ok (.failed "packet too short")
  else
    let MHDR := load pkt 0
    if MHDR >>> 5 ≠ 5 ∧ MHDR >>> 5 ≠ 3 then
      .ok (.failed "MType bad")
    else do
      let addr <- newUint8Array 4
      let addr <- typedArraySet addr (subarray pkt 1 5) 0
      let FCTRL := load pkt 5
      let fcntbytes : Bytes := [0, 0]
      let fcntbytes := store fcntbytes 0 (load pkt 6).toNat
      let fcntbytes := store fcntbytes 1 (load pkt 7).toNat
      let FCNT <- getUint16 fcntbytes 0 true
      let FOPTSLEN := (FCTRL &&& 0x0F).toNat
      let FOPTS <- newUint8Array FOPTSLEN
      let (FOPTS, data_idx) <- parseFopts pkt FOPTSLEN 8 FOPTS
      let micOk <- checkMic crypto pkt self.nwkKey FCNT addr 1
      let (payload, FPORT) <-
        parsePayload crypto self pkt addr FCNT data_idx micOk
      return .parsed {
        devAddr := addr
        confirmed := MHDR >>> 5 == 5
        payload := payload
        fport := FPORT
        fcnt := FCNT
        fopts := FOPTS
        ack := FCTRL &&& 0x20 != 0
        fpending := FCTRL &&& 0x10 != 0
        adr := FCTRL &&& 0x80 != 0
        adrackreq := FCTRL &&& 0x40 != 0
        micVerified := micOk }

end LoRaWan
end Fluxnode
