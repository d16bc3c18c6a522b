import Fluxnode.Foundation.Program
import Fluxnode.Js.Number
import Fluxnode.LoRa.Chip

/-!
# The driver of the chip

The functions of `lora.c` as programs over single accesses to the chip and to
variables, so that another task can come between any two of them.  Arithmetic
on frequencies is exact here.
-/

namespace Fluxnode
namespace LoRa

open Foundation
open Js (Number)

/-- The interrupt pins of the chip: DIO0 for `RX_DONE`, DIO2 for
`FHSS_CHANGE_CHANNEL`. -/
inductive Pin where
  | dio0
  | dio2
  deriving DecidableEq, Repr

/-- An element of a table of doubles.  Memory that was not written since it was
allocated holds some number, too. -/
structure Entry where
  value : Number
  stored : Bool
  deriving DecidableEq, Repr

abbrev Addr := Nat

inductive LoRaMode where
  | idle
  | sleep
  | recv
  deriving DecidableEq, Repr

/-- The arguments of `duk_main_add_full_event` behind its first two. -/
structure Packet where
  buf : List UInt8
  rssi : Int32
  snr : Int
  deriving DecidableEq, Repr

/-- An access to the chip, to a pin, to a variable or to memory. -/
inductive Op where
  | readReg (reg : Register)
  | writeReg (reg : Register) (val : UInt8)
  | gpioIntrEnable (pin : Pin)
  | gpioIntrDisable (pin : Pin)
  | gpioIsrHandlerAdd (pin : Pin)
  | getImplicit
  | setImplicit (implicit : Bool)
  | setFrequency (frequency : Number)
  | getFrequency
  | setModemState (state : UInt8)
  /-- Poll until `_modem_state` is another one. -/
  | awaitModemState (state : UInt8)
  /-- Poll until one of the flags is set. -/
  | awaitIrq (mask : UInt8)
  | getLoraMode
  | setLoraMode (mode : LoRaMode)
  | getFqtable
  | setFqtable (table : Option Addr)
  | getFqtableEntries
  | setFqtableEntries (n : UInt32)
  /-- `malloc`, with the address and the old content of the new block. -/
  | malloc (size : UInt32) (block : Option (Addr × List Number))
  | free (table : Addr)
  | loadEntry (table : Option Addr) (i : Nat)
  | storeEntry (table : Option Addr) (i : Nat) (value : Number)
  | addEvent (packet : Packet)
  /-- An operation without a meaning. -/
  | fault
  deriving DecidableEq, Repr

@[reducible] def Op.Answer : Op -> Type
  | .readReg _ => UInt8
  | .getImplicit => Bool
  | .getFrequency => Int32
  | .getLoraMode => LoRaMode
  | .getFqtable => Option Addr
  | .getFqtableEntries => UInt32
  | .malloc _ _ => Option Addr
  | .loadEntry _ _ => Number
  | _ => Unit

abbrev Prog := Program Op.Answer

abbrev access (o : Op) : Prog o.Answer :=
  Program.op o

/-!
## Register access
-/

def readReg (reg : Register) : Prog UInt8 :=
  access (.readReg reg)

def writeReg (reg : Register) (val : UInt8) : Prog Unit :=
  access (.writeReg reg val)

/-!
## Variables
-/

def getImplicit : Prog Bool :=
  access .getImplicit

def getFrequency : Prog Int32 :=
  access .getFrequency

def getLoraMode : Prog LoRaMode :=
  access .getLoraMode

def getFqtable : Prog (Option Addr) :=
  access .getFqtable

def getFqtableEntries : Prog UInt32 :=
  access .getFqtableEntries

def malloc (size : UInt32) (block : Option (Addr × List Number)) :
    Prog (Option Addr) :=
  access (.malloc size block)

def loadEntry (table : Option Addr) (i : Nat) : Prog Number :=
  access (.loadEntry table i)

/-!
## Modes
-/

def loraExplicitHeaderMode : Prog Unit := do
  access (.setImplicit false)
  let config ← readReg regModemConfig1
  writeReg regModemConfig1 (config &&& 0xfe)

def loraImplicitHeaderMode (size : Int32) : Prog Unit := do
  access (.setImplicit true)
  let config ← readReg regModemConfig1
  writeReg regModemConfig1 (config ||| 0x01)
  writeReg regPayloadLength size.toUInt32.toUInt8

def loraIdle : Prog Unit := do
  access (.setModemState modeStdby)
  writeReg regOpMode (opMode modeStdby)

def loraSleep : Prog Unit := do
  access (.setModemState modeSleep)
  writeReg regOpMode (opMode modeSleep)

def loraReceive : Prog Unit := do
  access (.setModemState modeRxContinuous)
  writeReg regOpMode (opMode modeRxContinuous)

/-!
## Parameters
-/

def loraSetTxPower (level : Int32) : Prog Unit :=
  let level := if level < 2 then 2 else if level > 17 then 17 else level
  writeReg regPaConfig (paBoost ||| (level - 2).toUInt32.toUInt8)

def freqRegs : Number -> UInt32
  | .finite freq =>
      let fr := freq / (61035 / 100000) * 1000
      let ax := (fr * 100).floor
      let ay := fr.floor * 100
      let add : Int := if (ax - ay) % 10 ≥ 5 then 1 else 0
      UInt32.ofInt (fr * 10 + add).floor
  | _ => 0

def loraSetFrequency (frequency : Number) : Prog Unit := do
  access (.setFrequency frequency)
  let frf := freqRegs frequency
  writeReg regFrfMsb (frf >>> 16).toUInt8
  writeReg regFrfMid (frf >>> 8).toUInt8
  writeReg regFrfLsb (frf >>> 0).toUInt8

def loraSetSpreadingFactor (sf : Int32) : Prog Unit := do
  let sf := if sf < 6 then 6 else if sf > 12 then 12 else sf
  if sf = 6 then
    writeReg regDetectionOptimize 0xc5
    writeReg regDetectionThreshold 0x0c
  else
    writeReg regDetectionOptimize 0xc3
    writeReg regDetectionThreshold 0x0a
  let config ← readReg regModemConfig2
  let code : UInt8 := sf.toUInt32.toUInt8 <<< 4
  writeReg regModemConfig2 ((config &&& 0x0f) ||| (code &&& 0xf0))

/-- `bw` of `lora_set_bandwidth`. -/
def bandwidthCode (sbw : Int32) : UInt8 :=
  if sbw ≤ 7800 then 0
  else if sbw ≤ 10400 then 1
  else if sbw ≤ 15600 then 2
  else if sbw ≤ 20800 then 3
  else if sbw ≤ 31250 then 4
  else if sbw ≤ 41700 then 5
  else if sbw ≤ 62500 then 6
  else if sbw ≤ 125000 then 7
  else if sbw ≤ 250000 then 8
  else 9

def loraSetBandwidth (sbw : Int32) : Prog Unit := do
  let config ← readReg regModemConfig1
  let code : UInt8 := bandwidthCode sbw <<< 4
  writeReg regModemConfig1 ((config &&& 0x0f) ||| code)

/-- `lora_get_settings`: the bandwidth, the coding rate and the spreading
factor. -/
def loraGetSettings : Prog (UInt8 × UInt8 × UInt8) := do
  let sf ← readReg regModemConfig2
  let bw ← readReg regModemConfig1
  let cr ← readReg regModemConfig1
  return ((bw &&& 0xf0) >>> 4, (cr &&& 0x0f) >>> 1, (sf &&& 0xf0) >>> 4)

def loraSetCodingRate (denominator : Int32) : Prog Unit := do
  let denominator :=
    if denominator < 5 then 5 else if denominator > 8 then 8 else denominator
  let cr := denominator - 4
  let config ← readReg regModemConfig1
  let code : UInt8 := cr.toUInt32.toUInt8 <<< 1
  writeReg regModemConfig1 ((config &&& 0xf1) ||| code)

def loraSetPreambleLength (length : Int32) : Prog Unit := do
  writeReg regPreambleMsb (length >>> 8).toUInt32.toUInt8
  writeReg regPreambleLsb (length >>> 0).toUInt32.toUInt8

def loraSetSyncWord (sw : UInt8) : Prog Unit :=
  writeReg regSyncWord sw

def loraEnableCrc : Prog Unit := do
  let config ← readReg regModemConfig2
  writeReg regModemConfig2 (config ||| 0x04)

def loraDisableCrc : Prog Unit := do
  let config ← readReg regModemConfig2
  writeReg regModemConfig2 (config &&& 0xfb)

def loraDisableInvertIq : Prog Unit := do
  let config ← readReg regInvertIq1
  writeReg regInvertIq1 (config &&& ~~~ ((1 : UInt8) <<< 6))

def loraEnableInvertIq : Prog Unit := do
  let config ← readReg regInvertIq1
  writeReg regInvertIq1 (config ||| ((1 : UInt8) <<< 6))

/-!
## Interrupt pins
-/

/-- `lora_install_irq_recv` and `lora_install_irq_fhss`. -/
def loraInstallIrq (pin : Pin) : Prog Unit := do
  access (.gpioIntrDisable pin)
  writeReg regDioMapping1 0x00
  access (.gpioIsrHandlerAdd pin)

def loraInstallIrqRecv : Prog Unit :=
  loraInstallIrq .dio0

def loraInstallIrqFhss : Prog Unit :=
  loraInstallIrq .dio2

/-- `lora_enable_irq_recv` and `lora_enable_irq_fhss`. -/
def loraEnableIrq (pin : Pin) (enable : Bool) : Prog Unit :=
  if enable then
    access (.gpioIntrEnable pin)
  else
    access (.gpioIntrDisable pin)

def loraEnableIrqRecv (enable : Bool) : Prog Unit :=
  loraEnableIrq .dio0 enable

def loraEnableIrqFhss (enable : Bool) : Prog Unit :=
  loraEnableIrq .dio2 enable

/-!
## Packets
-/

def writeFifo : List UInt8 -> Prog Unit
  | [] => return
  | b :: rest => do
      writeReg regFifo b
      writeFifo rest

def loraSendPacket (buf : List UInt8) (size : Int32) : Prog Unit := do
  loraIdle
  access (.setModemState modeTx)
  writeReg regFifoAddrPtr 0
  writeFifo (buf.take size.toNatClampNeg)
  writeReg regPayloadLength size.toUInt32.toUInt8
  writeReg regOpMode (opMode modeTx)
  access (.awaitIrq irqTxDoneMask)
  writeReg regIrqFlags irqTxDoneMask
  access (.setModemState modeStdby)

def loraSendPacketIrq (buf : List UInt8) (size : Int32) : Prog Unit := do
  access (.awaitModemState modeRxReadBuf)
  access (.setModemState modeTx)
  loraEnableIrqRecv false
  loraSendPacket buf size
  loraEnableIrqRecv true

def readFifo : Nat -> Prog (List UInt8)
  | 0 => return []
  | n + 1 => do
      let b ← readReg regFifo
      let rest ← readFifo n
      return b :: rest

/-- `lora_receive_packet`: the bytes in the buffer. -/
def loraReceivePacket (size : Nat) : Prog (List UInt8) := do
  let irq ← readReg regIrqFlags
  writeReg regIrqFlags irq
  if irq &&& irqRxDoneMask = 0 then
    return []
  else if irq &&& irqPayloadCrcErrorMask ≠ 0 then
    return []
  else
    access (.setModemState modeRxReadBuf)
    let implicit ← getImplicit
    let len ← readReg (if implicit then regPayloadLength else regRxNbBytes)
    loraIdle
    access (.setModemState modeRxReadBuf)
    let addr ← readReg regFifoRxCurrentAddr
    writeReg regFifoAddrPtr addr
    let buf ← readFifo (if len.toNat > size then size else len.toNat)
    access (.setModemState modeStdby)
    return buf

def loraPacketRssi : Prog Int32 := do
  let value ← readReg regPktRssiValue
  let frequency ← getFrequency
  return Int32.ofInt value.toNat - (if frequency < 868000000 then 164 else 157)

/-- `lora_packet_snr`, in an `int`. -/
def loraPacketSnr : Prog Int := do
  let value ← readReg regPktSnrValue
  return Int.tdiv value.toInt8.toInt 4

/-!
## Hopping
-/

def loraFhssSethops (hops : Int32) : Prog Unit :=
  writeReg regHopPeriod hops.toUInt32.toUInt8

def hopIndex (hop : UInt8) (fhtableSize : Int32) : Nat :=
  (hop &&& 0x3f).toNat % fhtableSize.toInt.natAbs

def loraFhssHandle (fhtable : Option Addr) (fhtableSize : Int32) :
    Prog Bool := do
  let irq ← readReg regIrqFlags
  if irq &&& irqFhssChangeChannel = 0 then
    return false
  else
    let hop ← readReg regHopChannel
    if fhtableSize = 0 then
      access .fault
    let frequency ← loadEntry fhtable (hopIndex hop fhtableSize)
    loraSetFrequency frequency
    writeReg regIrqFlags irqFhssChangeChannel
    return true

end LoRa
end Fluxnode
