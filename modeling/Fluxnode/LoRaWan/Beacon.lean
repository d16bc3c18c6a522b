import Fluxnode.Js.Crc16
import Fluxnode.LoRaWan.RoundTrip

/-!
# Class B beacons

`loraWanBeaconDecode` picks the fields of a beacon out of a packet of 23 bytes:
four bytes of padding, the time and its CRC, the information byte with the
position of the gateway, three reserved bytes and a second CRC.
-/

namespace Fluxnode
namespace LoRaWan

open Js

def gpsEpoch : Int :=
  315964800

def gpsEpochOffset : Int :=
  18

/-- A coordinate: the double `value / (8388607 / limit)`. -/
structure Coordinate where
  value : Int
  limit : Nat
  deriving DecidableEq, Repr

structure Beacon where
  region : Int
  time : Int
  time_stamp : Int
  time_crc : Bool
  info : UInt8
  info_crc : Bool
  lat : Coordinate
  lon : Coordinate
  deriving DecidableEq, Repr

/-- The two shapes of the result, with `error` true and false. -/
inductive BeaconResult where
  | failed (msg : String)
  | decoded (beacon : Beacon)
  deriving DecidableEq, Repr

/-- The three bytes from `i` on, read through `gpsView`. -/
def gpsValue (pkt : Bytes) (i : Nat) : Except JsError Int := do
  let gpsView : Bytes := [0, 0, 0, 0]
  let gpsView := store gpsView 0 (load pkt i).toNat
  let gpsView := store gpsView 1 (load pkt (i + 1)).toNat
  let gpsView := store gpsView 2 (load pkt (i + 2)).toNat
  let gpsView := store gpsView 3 0
  getUint32 gpsView 0

/-- The CRC at `i`, read through `bufView`. -/
def crcValue (pkt : Bytes) (i : Nat) : Except JsError Int := do
  let bufView : Bytes := [0, 0]
  let bufView := store bufView 0 (load pkt i).toNat
  let bufView := store bufView 1 (load pkt (i + 1)).toNat
  getUint16 bufView 0 true

def crcCalc (pkt : Bytes) (i n : Nat) : Except JsError Int := do
  let data <- newUint8Array n
  let data := storeEach data n (fun j => load pkt (i + j))
  crc16 (numbers data)

def loraWanBeaconDecode (pkt : Bytes) (region : Int) :
    Except JsError BeaconResult :=
  if region = 0 then
    let pad := 4
    let gwRfu := 3
    if pkt.length ≠ 23 then
      .ok (.failed "pkt.length != 23")
    else do
      let timeView : Bytes := [0, 0, 0, 0]
      let timeView := store timeView 0 (load pkt (pad + 1)).toNat
      let timeView := store timeView 1 (load pkt (pad + 2)).toNat
      let timeView := store timeView 2 (load pkt (pad + 3)).toNat
      let timeView := store timeView 3 (load pkt (pad + 4)).toNat
      let tm <- getUint32 timeView 0
      let crc <- crcValue pkt (pad + 5)
      let crc_calc <- crcCalc pkt 0 (pad + 5)
      let time_crc := crc == crc_calc
      let infoDesc <- newUint8Array 1
      let infoDesc <- typedArraySet infoDesc (subarray pkt (pad + 7 : Nat) 1) 0
      let lat <- gpsValue pkt (pad + 8)
      let lon <- gpsValue pkt (pad + 11)
      let crc <- crcValue pkt (pad + gwRfu + 14)
      let crc_calc <- crcCalc pkt (pad + 7) 10
      let info_crc := crc == crc_calc
      return .decoded {
        region := region
        time := gpsEpoch + tm - gpsEpochOffset
        time_stamp := gpsEpoch + tm
        time_crc := time_crc
        info := load infoDesc 0
        info_crc := info_crc
        lat := ⟨fromTwosComplement lat 3, 90⟩
        lon := ⟨fromTwosComplement lon 3, 180⟩ }
  else
    .ok (.failed "region not supported")

/-!
## The fields of a beacon
-/

/-- The number of 24 bits with a sign that three bytes hold, low byte first. -/
def signed24 (bytes : Bytes) : Int :=
  (BitVec.ofNat 24 (littleEndian bytes)).toInt

def beaconOf (pkt : Bytes) : Beacon where
  region := 0
  time := 315964800 + littleEndian (piece pkt 5 9) - 18
  time_stamp := 315964800 + littleEndian (piece pkt 5 9)
  time_crc := littleEndian (piece pkt 9 11) == (crcOf (piece pkt 0 9)).toNat
  info := 0
  info_crc := littleEndian (piece pkt 21 23) == (crcOf (piece pkt 11 21)).toNat
  lat := ⟨signed24 (piece pkt 12 15), 90⟩
  lon := ⟨signed24 (piece pkt 15 18), 180⟩

def RecoversFields (pkt : Bytes) : Prop :=
  exists b, loraWanBeaconDecode pkt 0 = .ok (.decoded b) ∧
    b.time_stamp = 315964800 + littleEndian (piece pkt 5 9) ∧
    b.time = b.time_stamp - 18 ∧
    (b.time_crc = true <->
      littleEndian (piece pkt 9 11) = (crcOf (piece pkt 0 9)).toNat) ∧
    b.info = load pkt 11 ∧
    b.lat = ⟨signed24 (piece pkt 12 15), 90⟩ ∧
    b.lon = ⟨signed24 (piece pkt 15 18), 180⟩ ∧
    (b.info_crc = true <->
      littleEndian (piece pkt 21 23) = (crcOf (piece pkt 11 21)).toNat)

/-!
## What the decoder reads
-/

theorem littleEndian_lt (bytes : Bytes) :
    littleEndian bytes < 256 ^ bytes.length := by
  induction bytes with
  | nil => exact Nat.one_pos
  | cons b rest ih =>
      have hb := UInt8.toNat_lt b
      rw [littleEndian, List.length_cons, Nat.pow_succ]
      lia

theorem bitAnd_bitNot {n : Nat} (hn : n < 2 ^ 24) :
    bitAnd (bitNot n) (2 ^ 24 - 1 : Nat) = (2 ^ 24 - 1 - n : Nat) := by
  have hnot : (toInt32 (bitNot n)).setWidth 24 = ~~~ BitVec.ofNat 24 n := by
    rw [bitNot, toInt32_toInt, toInt32, BitVec.ofInt_natCast,
      BitVec.setWidth_not (by decide), BitVec.setWidth_ofNat_of_le (by decide)]
  rw [bitAnd_mask _ (by decide), hnot, BitVec.toNat_not, BitVec.toNat_ofNat,
    Nat.mod_eq_of_lt hn]

theorem fromTwosComplement_three {n : Nat} (hn : n < 2 ^ 24) :
    fromTwosComplement n 3 = (BitVec.ofNat 24 n).toInt := by
  have hbound : shiftLeft 1 24 - 1 = (2 ^ 24 - 1 : Nat) := rfl
  have hvalue : (BitVec.ofNat 24 n).toNat = n := by
    rw [BitVec.toNat_ofNat, Nat.mod_eq_of_lt hn]
  show (if (n : Int) < 0 ∨ (n : Int) > shiftLeft 1 24 - 1 then 0
    else if (n : Int) ≤ 2 ^ 23 - 1 then (n : Int)
    else -(bitAnd (bitNot n) (shiftLeft 1 24 - 1) + 1)) = _
  rw [hbound, bitAnd_bitNot hn, if_neg (by lia), BitVec.toInt_eq_toNat_cond,
    hvalue]
  by_cases hsmall : (n : Int) ≤ 2 ^ 23 - 1
  · rw [if_pos hsmall, if_pos (by lia)]
  · rw [if_neg hsmall, if_neg (by lia)]
    lia

theorem piece_three {pkt : Bytes} {i : Nat} (hi : i + 3 ≤ pkt.length) :
    piece pkt i (i + 3) = [load pkt i, load pkt (i + 1), load pkt (i + 2)] := by
  rw [← piece_append (show i ≤ i + 1 by lia) (by lia) hi,
    ← piece_append (show i + 1 ≤ i + 1 + 1 by lia) (by lia) hi,
    piece_succ (by lia), piece_succ (by lia), piece_succ (by lia)]
  rfl

theorem piece_two {pkt : Bytes} {i : Nat} (hi : i + 2 ≤ pkt.length) :
    piece pkt i (i + 2) = [load pkt i, load pkt (i + 1)] := by
  rw [← piece_append (show i ≤ i + 1 by lia) (by lia) hi,
    piece_succ (by lia), piece_succ (by lia)]
  rfl

theorem gpsValue_eq {pkt : Bytes} {i : Nat} (hi : i + 3 ≤ pkt.length) :
    gpsValue pkt i = .ok (littleEndian (piece pkt i (i + 3)) : Int) := by
  have hzero : forall a b c : UInt8,
      littleEndian [a, b, c, 0] = littleEndian [a, b, c] := by
    intro a b c
    rfl
  rw [piece_three hi, ← hzero]
  simp only [gpsValue, store, toUint8_toNat]
  rfl

theorem crcValue_eq {pkt : Bytes} {i : Nat} (hi : i + 2 ≤ pkt.length) :
    crcValue pkt i = .ok (littleEndian (piece pkt i (i + 2)) : Int) := by
  rw [piece_two hi]
  simp only [crcValue, store, toUint8_toNat]
  rfl

theorem timeValue_eq {pkt : Bytes} (hlen : pkt.length = 23) :
    getUint32 [load pkt 5, load pkt 6, load pkt 7, load pkt 8] 0 =
      .ok (littleEndian (piece pkt 5 9) : Int) := by
  rw [← piece_append (show 5 ≤ 6 by lia) (by lia) (by lia),
    piece_succ (by lia), piece_three (by lia)]
  rfl

theorem storeEach_piece {pkt : Bytes} {i n : Nat} (hi : i + n ≤ pkt.length) :
    storeEach (List.replicate n 0) n (fun j => load pkt (i + j)) =
      piece pkt i (i + n) := by
  have hall := storeEach_length (List.replicate n 0)
    (fun j => load pkt (i + j))
  rw [List.length_replicate] at hall
  rw [hall]
  apply List.ext_getElem
  · rw [length_piece hi, List.length_map, List.length_range]
    lia
  · intro j hj hj'
    have hlt : j < n := by simpa using hj
    rw [List.getElem_map, List.getElem_range, load_of_lt (by lia)]
    simp [piece]

theorem crcCalc_eq {pkt : Bytes} {i n : Nat} (hi : i + n ≤ pkt.length) :
    crcCalc pkt i n = .ok ((crcOf (piece pkt i (i + n))).toNat : Int) := by
  rw [crcCalc, newUint8Array_natCast, ← storeEach_piece hi, ← crc16_numbers]
  rfl

theorem coordinate_eq {pkt : Bytes} {i : Nat} (hi : i + 3 ≤ pkt.length) :
    fromTwosComplement (littleEndian (piece pkt i (i + 3))) 3 =
      signed24 (piece pkt i (i + 3)) := by
  have hlt := littleEndian_lt (piece pkt i (i + 3))
  rw [length_piece hi, Nat.add_sub_cancel_left] at hlt
  exact fromTwosComplement_three (show _ < 2 ^ 24 by lia)

theorem natCast_beq (m n : Nat) : ((m : Int) == (n : Int)) = (m == n) := by
  rw [Bool.eq_iff_iff, beq_iff_eq, beq_iff_eq, Int.natCast_inj]

theorem loraWanBeaconDecode_eq {pkt : Bytes} (hlen : pkt.length = 23) :
    loraWanBeaconDecode pkt 0 = .ok (.decoded (beaconOf pkt)) := by
  have htime := timeValue_eq hlen
  have htimeCrc : crcValue pkt 9 = .ok (littleEndian (piece pkt 9 11) : Int) :=
    crcValue_eq (by lia)
  have hinfoCrc : crcValue pkt 21 =
      .ok (littleEndian (piece pkt 21 23) : Int) :=
    crcValue_eq (by lia)
  have hlat : gpsValue pkt 12 = .ok (littleEndian (piece pkt 12 15) : Int) :=
    gpsValue_eq (by lia)
  have hlon : gpsValue pkt 15 = .ok (littleEndian (piece pkt 15 18) : Int) :=
    gpsValue_eq (by lia)
  have hlatValue : fromTwosComplement (littleEndian (piece pkt 12 15)) 3 =
      signed24 (piece pkt 12 15) := coordinate_eq (by lia)
  have hlonValue : fromTwosComplement (littleEndian (piece pkt 15 18)) 3 =
      signed24 (piece pkt 15 18) := coordinate_eq (by lia)
  have htimeData : crcCalc pkt 0 9 =
      .ok ((crcOf (piece pkt 0 9)).toNat : Int) :=
    crcCalc_eq (by lia)
  have hinfoData : crcCalc pkt 11 10 =
      .ok ((crcOf (piece pkt 11 21)).toNat : Int) :=
    crcCalc_eq (by lia)
  -- the second argument of `subarray` is the end, not the length
  have hinfo : subarray pkt (11 : Nat) 1 = [] := by
    rw [show (1 : Int) = (1 : Nat) from rfl,
      subarray_eq_piece (by lia) (by lia), piece]
    apply List.drop_eq_nil_of_le
    rw [List.length_take]
    lia
  have hone : newUint8Array 1 = .ok [0] := rfl
  have hset : typedArraySet ([0] : Bytes) [] 0 = .ok [0] := rfl
  unfold loraWanBeaconDecode
  rw [if_pos rfl]
  dsimp only
  rw [if_neg (by simpa using hlen)]
  simp only [store, toUint8_toNat, List.set_cons_zero, List.set_cons_succ]
  rw [htime]
  dsimp only [bind, Except.bind]
  rw [htimeCrc]
  dsimp only
  rw [htimeData]
  dsimp only
  rw [hone]
  dsimp only
  rw [hinfo, hset]
  dsimp only
  rw [hlat]
  dsimp only
  rw [hlon]
  dsimp only
  rw [hinfoCrc]
  dsimp only
  rw [hinfoData]
  dsimp only
  rw [hlatValue, hlonValue, natCast_beq, natCast_beq]
  rfl

/-- The decoder gives every field exactly when the information byte is zero. -/
theorem recoversFields_iff_info_zero {pkt : Bytes} (hlen : pkt.length = 23) :
    RecoversFields pkt <-> load pkt 11 = 0 := by
  constructor
  · intro h
    rcases h with ⟨b, hdecode, _, _, _, hinfo, _⟩
    rw [loraWanBeaconDecode_eq hlen] at hdecode
    cases hdecode
    exact hinfo.symm
  · intro hzero
    refine ⟨_, loraWanBeaconDecode_eq hlen, rfl, rfl, ?_, hzero.symm, rfl, rfl,
      ?_⟩
    · exact beq_iff_eq
    · exact beq_iff_eq

def beaconPacket (info : UInt8) : Bytes :=
  [0, 0, 0, 0, 0, 0x40, 0x42, 0x0F, 0x4C, 0x27, 0x84, info, 0xFF, 0xFF, 0x3F, 1,
    0, 0x80, 0, 0, 0, 0x04, 0x8D]

theorem recoversFields_info_zero : RecoversFields (beaconPacket 0) :=
  (recoversFields_iff_info_zero rfl).mpr rfl

theorem info_byte_lost :
    loraWanBeaconDecode (beaconPacket 2) 0 =
        .ok (.decoded (beaconOf (beaconPacket 2))) ∧
      (beaconOf (beaconPacket 2)).info = 0 ∧ load (beaconPacket 2) 11 = 2 ∧
      ¬ RecoversFields (beaconPacket 2) := by
  refine ⟨loraWanBeaconDecode_eq rfl, rfl, rfl, ?_⟩
  intro h
  rcases h with ⟨b, hdecode, _, _, _, hinfo, _⟩
  rw [loraWanBeaconDecode_eq rfl] at hdecode
  cases hdecode
  exact absurd hinfo (by decide)

end LoRaWan
end Fluxnode
