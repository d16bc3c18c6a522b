import Fluxnode.Foundation.CrcErrors
import Fluxnode.LoRaWan.Beacon

/-!
# Damaged beacons

Each CRC of a beacon covers some bytes and lies behind them, low byte first.
What may happen to a beacon on the air is noticed: a change of one, two or three
bits, of any odd number of bits, and a burst of up to 16 bits in the bytes that
are covered.
-/

namespace Fluxnode
namespace LoRaWan

open Crc
open Js

def differingBits (before after : Bytes) : Nat :=
  differing (messageBits before) (messageBits after)

/-- Damage to some bytes and to the CRC behind them. -/
inductive Damage (data data' crc crc' : Bytes) : Prop where
  | odd
      (h : (differingBits data data' + differingBits crc crc') % 2 = 1)
  | two (h : differingBits data data' + differingBits crc crc' = 2)
  | burst (h : Burst 16 (messageBits data) (messageBits data'))
      (hcrc : crc = crc')

/-!
## Bytes and words
-/

theorem messageBits_append (a b : Bytes) :
    messageBits (a ++ b) = messageBits a ++ messageBits b :=
  List.flatMap_append

@[simp] theorem length_messageBits (bytes : Bytes) :
    (messageBits bytes).length = 8 * bytes.length := by
  induction bytes with
  | nil => rfl
  | cons b rest ih =>
      show (topBits 8 b.toBitVec ++ messageBits rest).length = _
      rw [List.length_append, length_topBits, ih, List.length_cons]
      lia

theorem differingBits_append {a a' : Bytes} (h : a.length = a'.length)
    (b b' : Bytes) :
    differingBits (a ++ b) (a' ++ b') =
      differingBits a a' + differingBits b b' := by
  rw [differingBits, messageBits_append, messageBits_append,
    differing_append (by simp [h])]
  rfl

theorem differingBits_reverse {a a' : Bytes} (h : a.length = a'.length) :
    differingBits a.reverse a'.reverse = differingBits a a' := by
  induction a generalizing a' with
  | nil =>
      cases a' with
      | nil => rfl
      | cons y ys => cases h
  | cons x xs ih =>
      cases a' with
      | nil => cases h
      | cons y ys =>
          have hrest : xs.length = ys.length := Nat.succ.inj h
          have hone : [x].length = [y].length := rfl
          have hhead := differingBits_append hone xs ys
          rw [List.reverse_cons, List.reverse_cons,
            differingBits_append (by simp [hrest]), ih hrest]
          simp only [List.singleton_append] at hhead
          lia

theorem messageBits_register {crc : Bytes} {c : BitVec 16}
    (hlength : crc.length = 2) :
    littleEndian crc = c.toNat <-> messageBits crc.reverse = topBits 16 c := by
  rcases List.length_eq_two.mp hlength with ⟨lo, hi, rfl⟩
  have hword : messageBits [lo, hi].reverse =
      topBits 16 (hi.toBitVec ++ lo.toBitVec) := by
    show topBits 8 hi.toBitVec ++ (topBits 8 lo.toBitVec ++ []) = _
    rw [List.append_nil]
    apply List.ext_getElem
    · simp
    · intro i hleft hright
      have hi' : i < 16 := by simpa using hright
      simp only [topBits, List.getElem_append, List.getElem_map,
        List.getElem_range, List.length_map, List.length_range]
      rw [BitVec.getMsbD_append]
      split
      · rw [if_neg (by lia)]
      · rw [if_pos (by lia)]
  have hvalue : littleEndian [lo, hi] =
      (hi.toBitVec ++ lo.toBitVec).toNat := by
    have hlo := lo.toNat_lt
    rw [BitVec.toNat_append, Nat.shiftLeft_eq, Nat.mul_comm,
      ← Nat.two_pow_add_eq_or_of_lt lo.toBitVec.isLt]
    show lo.toNat + 256 * (hi.toNat + 256 * 0) = 256 * hi.toNat + lo.toNat
    lia
  rw [hword, hvalue]
  constructor
  · intro h
    rw [BitVec.eq_of_toNat_eq h]
  · intro h
    congr 1
    apply BitVec.eq_of_getMsbD_eq
    intro i hi
    have hbit := congrArg (fun bits => bits[i]?) h
    simpa [topBits, hi] using hbit

/-!
## The code of `crc16`
-/

theorem crcPoly_hasConstant : HasConstant crcPoly :=
  rfl

theorem parityOf_crcPoly : parityOf crcPoly = true := by
  decide

theorem crcPoly_separates : Separates crcPoly 128 := by
  decide +kernel

theorem crc_right_iff {data crc : Bytes} (hcrc : crc.length = 2) :
    littleEndian crc = (crcOf data).toNat <->
      Codeword crcPoly (messageBits data ++ messageBits crc.reverse) := by
  have hlength : (messageBits crc.reverse).length = 16 := by
    simp [hcrc]
  constructor
  · intro h
    rw [(messageBits_register hcrc).mp h]
    exact (codeword_iff crcPoly_hasConstant _ _).mpr rfl
  · intro h
    have hlt := littleEndian_lt crc
    rw [hcrc] at hlt
    have hstored : littleEndian crc =
        (BitVec.ofNat 16 (littleEndian crc)).toNat := by
      rw [BitVec.toNat_ofNat]
      exact (Nat.mod_eq_of_lt hlt).symm
    rw [(messageBits_register hcrc).mp hstored] at h
    have hregister := (codeword_iff crcPoly_hasConstant _ _).mp h
    show _ = (crcBits crcPoly 0#16 (messageBits data)).toNat
    rw [hregister]
    exact hstored

theorem Damage.noticed {data data' crc crc' : Bytes}
    (h : Damage data data' crc crc') (hdata : data.length = data'.length)
    (hshort : data.length ≤ 14) (hcrc : crc.length = 2)
    (hcrc' : crc'.length = 2)
    (hright : littleEndian crc = (crcOf data).toNat) :
    littleEndian crc' ≠ (crcOf data').toNat := by
  rw [ne_eq, crc_right_iff hcrc']
  have hword := (crc_right_iff hcrc).mp hright
  have hlength : (messageBits data ++ messageBits crc.reverse).length =
      (messageBits data' ++ messageBits crc'.reverse).length := by
    simp [hdata, hcrc, hcrc']
  have hdiffering : differing (messageBits data ++ messageBits crc.reverse)
      (messageBits data' ++ messageBits crc'.reverse) =
        differingBits data data' + differingBits crc crc' := by
    rw [differing_append (by simp [hdata])]
    congr 1
    exact differingBits_reverse (hcrc.trans hcrc'.symm)
  cases h with
  | odd hodd =>
      exact hword.not_of_odd parityOf_crcPoly hlength (hdiffering ▸ hodd)
  | two htwo =>
      have hsep : Separates crcPoly
          (messageBits data ++ messageBits crc.reverse).length := by
        intro k hk hpos
        refine crcPoly_separates k ?_ hpos
        simp [hcrc] at hk
        lia
      exact hword.not_of_two crcPoly_hasConstant hsep hlength
        (hdiffering ▸ htwo)
  | burst hburst hsame =>
      rw [← hsame]
      exact hword.not_of_burst crcPoly_hasConstant (hburst.append _)

/-!
## Beacons
-/

/-- What the decoder says about a CRC that was right is that it is wrong after
damage to its bytes. -/
theorem damaged_beacon_noticed {pkt pkt' : Bytes} {b b' : Beacon}
    (hdecode : loraWanBeaconDecode pkt 0 = .ok (.decoded b))
    (hdecode' : loraWanBeaconDecode pkt' 0 = .ok (.decoded b')) :
    (b.time_crc = true ->
      Damage (piece pkt 0 9) (piece pkt' 0 9) (piece pkt 9 11)
        (piece pkt' 9 11) ->
      b'.time_crc = false) ∧
    (b.info_crc = true ->
      Damage (piece pkt 11 21) (piece pkt' 11 21) (piece pkt 21 23)
        (piece pkt' 21 23) ->
      b'.info_crc = false) := by
  have hlength : forall {p : Bytes} {c : Beacon},
      loraWanBeaconDecode p 0 = .ok (.decoded c) -> p.length = 23 := by
    intro p c hp
    by_contra hne
    rw [loraWanBeaconDecode, if_pos rfl] at hp
    dsimp only at hp
    rw [if_pos hne] at hp
    cases hp
  have hlen := hlength hdecode
  have hlen' := hlength hdecode'
  rw [loraWanBeaconDecode_eq hlen] at hdecode
  rw [loraWanBeaconDecode_eq hlen'] at hdecode'
  cases hdecode
  cases hdecode'
  have hpiece : forall (start stop : Nat), stop ≤ 23 ->
      (piece pkt start stop).length = stop - start ∧
        (piece pkt' start stop).length = stop - start := by
    intro start stop hstop
    exact ⟨length_piece (by lia), length_piece (by lia)⟩
  have htime := hpiece 0 9 (by decide)
  have htimeCrc := hpiece 9 11 (by decide)
  have hinfo := hpiece 11 21 (by decide)
  have hinfoCrc := hpiece 21 23 (by decide)
  constructor
  · intro hright hdamage
    exact beq_false_of_ne (hdamage.noticed (by lia) (by lia) htimeCrc.1
      htimeCrc.2 (beq_iff_eq.mp hright))
  · intro hright hdamage
    exact beq_false_of_ne (hdamage.noticed (by lia) (by lia) hinfoCrc.1
      hinfoCrc.2 (beq_iff_eq.mp hright))

theorem damaged_beacon_noticed_bit :
    exists b b', loraWanBeaconDecode (beaconPacket 0) 0 = .ok (.decoded b) ∧
      loraWanBeaconDecode ((beaconPacket 0).set 5 0x41) 0 = .ok (.decoded b') ∧
      b'.time_crc = false := by
  have hdecode : loraWanBeaconDecode (beaconPacket 0) 0 =
      .ok (.decoded (beaconOf (beaconPacket 0))) := loraWanBeaconDecode_eq rfl
  have hdecode' : loraWanBeaconDecode ((beaconPacket 0).set 5 0x41) 0 =
      .ok (.decoded (beaconOf ((beaconPacket 0).set 5 0x41))) :=
    loraWanBeaconDecode_eq rfl
  refine ⟨_, _, hdecode, hdecode', ?_⟩
  refine (damaged_beacon_noticed hdecode hdecode').1 (by decide +kernel) ?_
  exact .odd (by decide +kernel)

end LoRaWan
end Fluxnode
