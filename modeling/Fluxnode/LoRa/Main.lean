import Fluxnode.LoRa.Radio

/-!
# The LoRa API of the script

The functions of `lora_main.c`: those that a script calls, and one round of
`isr_recv_task`.
-/

namespace Fluxnode
namespace LoRa

open Foundation
open Js (Number)

def loraMsgMaxSize : Nat := 255

inductive Returned where
  | undefined
  | boolean (b : Bool)
  | throws
  deriving DecidableEq, Repr

/-- An element of an array, as `duk_to_number` finds it. -/
inductive Element where
  | number (x : Number)
  | missing
  | throws
  deriving DecidableEq, Repr

structure Hopfreqs where
  elements : List Element
  length_lt : elements.length < 2 ^ 32
  deriving DecidableEq

/-!
## Modes
-/

def recvEnable : Prog Returned := do
  loraInstallIrqRecv
  loraEnableIrqRecv true
  loraInstallIrqFhss
  loraEnableIrqFhss true
  loraReceive
  access (.setLoraMode .recv)
  return .undefined

def sleepSet : Prog Returned := do
  let mode ← getLoraMode
  if mode = .recv then
    loraEnableIrqRecv false
  loraSleep
  access (.setLoraMode .sleep)
  return .undefined

def idleSet : Prog Returned := do
  let mode ← getLoraMode
  if mode = .recv then
    loraEnableIrqRecv false
  loraIdle
  access (.setLoraMode .idle)
  return .undefined

def sendPacket (buf : List UInt8) : Prog Returned := do
  loraSendPacketIrq buf (Int32.ofNat buf.length)
  let mode ← getLoraMode
  if mode = .recv then
    loraReceive
  return .undefined

/-!
## Settings
-/

def settingIf (accepted : Bool) (set : Prog Unit) : Prog Returned :=
  if accepted then do
    set
    return .boolean true
  else
    return .boolean false

def setFreq (freq : Number) : Prog Returned :=
  settingIf (!(freq.less (.finite 902) || (Number.finite 928).less freq))
    (loraSetFrequency freq)

def setBandwidth (bw : Number) : Prog Returned :=
  let bw := Js.requireInt bw
  settingIf (!(bw < 7800 || bw > 500000)) (loraSetBandwidth bw)

def setSf (sf : Number) : Prog Returned :=
  let sf := Js.requireInt sf
  settingIf (!(sf < 6 || sf > 12)) (loraSetSpreadingFactor sf)

def setCr (cr : Number) : Prog Returned :=
  let cr := Js.requireInt cr
  settingIf (!(cr < 5 || cr > 8)) (loraSetCodingRate cr)

def setPreambleLen (pl : Number) : Prog Returned :=
  let pl := Js.requireInt pl
  settingIf (!(pl < 0 || pl > 0xffff)) (loraSetPreambleLength pl)

def setTxPower (txp : Number) : Prog Returned :=
  let txp := Js.requireUint txp
  settingIf (!(txp < 2 || txp > 17)) (loraSetTxPower txp.toInt32)

def setPayloadLen (pl : Number) : Prog Returned :=
  let pl := Js.requireInt pl
  if pl > 0 ∧ pl < 256 then
    settingIf true (loraImplicitHeaderMode pl)
  else
    settingIf (pl = 0) loraExplicitHeaderMode

def setSyncWord (sw : Number) : Prog Returned := do
  loraSetSyncWord (Js.requireUint sw).toUInt8
  return .undefined

def setCrc (crc : Bool) : Prog Returned := do
  if crc then
    loraEnableCrc
  else
    loraDisableCrc
  return .undefined

def setIqMode (iq : Bool) : Prog Returned := do
  if iq then
    loraEnableInvertIq
  else
    loraDisableInvertIq
  return .undefined

/-!
## Hopping
-/

/-- The loop of `set_hopping` from an index on, which an exception ends. -/
def storeElements (i : Nat) : List Element -> Prog Bool
  | [] => return true
  | .number x :: rest => do
      let table ← getFqtable
      access (.storeEntry table i x)
      storeElements (i + 1) rest
  | .missing :: rest => storeElements (i + 1) rest
  | .throws :: _ => return false

/-- `set_hopping`, where `hopfreqs` may not be an array.  What `malloc` does is
part of the call. -/
def setHopping (hops : Number) (hopfreqs : Option Hopfreqs)
    (block : Option (Addr × List Number)) : Prog Returned := do
  let hops := Js.requireInt hops
  match ← getFqtable with
  | some table => do
      access (.free table)
      access (.setFqtable none)
  | none => pure ()
  if hops = 0 then do
    loraFhssSethops hops
    return .boolean true
  else
    match hopfreqs with
    | none => return .boolean false
    | some hopfreqs =>
        let n := hopfreqs.elements.length
        if n = 0 then
          return .boolean false
        else do
          access (.setFqtableEntries (UInt32.ofNat n))
          let table ← malloc (8 * UInt32.ofNat n) block
          access (.setFqtable table)
          if ← storeElements 0 hopfreqs.elements then do
            loraFhssSethops hops
            return .boolean true
          else
            return .throws

/-!
## The task
-/

def receiveRound : Prog Unit := do
  let buf ← loraReceivePacket (loraMsgMaxSize + 1)
  let rssi ← loraPacketRssi
  let snr ← loraPacketSnr
  loraReceive
  if buf.length > 0 then
    access (.addEvent ⟨buf, rssi, snr⟩)

/-- A round of `isr_recv_task` behind `xQueueReceive`; what it does does not
depend on the command. -/
def isrRecvRound : Prog Unit := do
  let table ← getFqtable
  let entries ← getFqtableEntries
  let handled ← loraFhssHandle table entries.toInt32
  if handled then
    return
  else
    receiveRound

end LoRa
end Fluxnode
