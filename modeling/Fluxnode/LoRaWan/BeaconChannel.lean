import Mathlib.Data.Rat.Defs
import Mathlib.Tactic.NormNum
import Fluxnode.LoRaWan.Beacon

/-!
# The channel of the next beacon

Beacons come every 128 seconds and rotate over eight channels.  The channel is
numbered from the beacon period that runs, so in the last of eight periods the
next channel is 8, which is no channel.
-/

namespace Fluxnode
namespace LoRaWan

/-- The frequency in MHz, zero when there is no such channel. -/
def loraWanChannel915 (channel dir : Int) : ℚ :=
  if dir = 0 ∧ channel ≥ 0 ∧ channel ≤ 63 then
    (9023 + 2 * channel : Int) / 10
  else if dir = 0 ∧ channel ≥ 64 ∧ channel ≤ 71 then
    (9030 + 16 * (channel - 64) : Int) / 10
  else if channel ≥ 0 ∧ channel ≤ 7 then
    (9233 + 6 * channel : Int) / 10
  else
    0

inductive LoRaCall where
  | loraIdle
  | setFrequency (freq : ℚ)
  | setPayloadLen (len : Nat)
  | setSF (sf : Nat)
  | setTxPower (power : Nat)
  | setPreambleLen (len : Nat)
  | setSyncWord (word : Nat)
  | setCRC (on : Bool)
  | setBW (bw : Nat)
  | setIQMode (on : Bool)
  | loraReceive
  deriving DecidableEq, Repr

def loraWanBeaconListen (channel region : Int) : List LoRaCall × Bool :=
  if region = 0 then
    let freq := loraWanChannel915 channel 1
    if freq = 0 then
      ([], false)
    else
      ([.loraIdle, .setFrequency freq, .setPayloadLen 23, .setSF 12,
        .setTxPower 1, .setPreambleLen 10, .setSyncWord 0x34, .setCRC false,
        .setBW 500000, .setIQMode false, .loraReceive], true)
  else
    ([], false)

structure NextChannel where
  channel : Int
  nextBeaconSeconds : Int
  deriving DecidableEq, Repr

/-- `loraWanBeaconGetNextChannel`, when `new Date().getTime()` is the given
number of milliseconds. -/
def loraWanBeaconGetNextChannel (getTime : Int) : NextChannel :=
  let n := getTime / 1000
  let rel := n - gpsEpoch + gpsEpochOffset
  let channelDiff := 128 - rel.tmod 128
  let channel := 1 + rel.tmod (128 * 8) / 128
  { channel := channel, nextBeaconSeconds := channelDiff }

/-!
## The channel that is named
-/

def beaconSeconds (getTime : Int) : Int :=
  getTime / 1000 - 315964800 + 18

/-- The next beacon comes at the named time and on the named channel, which is
one that `loraWanBeaconListen` accepts. -/
def NamesNextBeacon (getTime : Int) : Prop :=
  let next := loraWanBeaconGetNextChannel getTime
  let at_beacon := beaconSeconds getTime + next.nextBeaconSeconds
  1 ≤ next.nextBeaconSeconds ∧ next.nextBeaconSeconds ≤ 128 ∧
    at_beacon % 128 = 0 ∧ next.channel = at_beacon / 128 % 8 ∧
    (loraWanBeaconListen next.channel 0).2 = true

theorem loraWanBeaconListen_iff (channel : Int) :
    (loraWanBeaconListen channel 0).2 = true <-> 0 ≤ channel ∧ channel ≤ 7 := by
  unfold loraWanBeaconListen
  rw [if_pos rfl]
  by_cases hchannel : 0 ≤ channel ∧ channel ≤ 7
  · have hfreq : loraWanChannel915 channel 1 ≠ 0 := by
      have hpos : (9233 + 6 * channel : Int) ≠ 0 := by lia
      unfold loraWanChannel915
      rw [if_neg (by lia), if_neg (by lia), if_pos hchannel]
      exact div_ne_zero (Int.cast_ne_zero.mpr hpos) (by norm_num)
    dsimp only
    rw [if_neg hfreq]
    exact iff_of_true rfl hchannel
  · have hfreq : loraWanChannel915 channel 1 = 0 := by
      unfold loraWanChannel915
      rw [if_neg (by lia), if_neg (by lia), if_neg hchannel]
    dsimp only
    rw [if_pos hfreq]
    exact iff_of_false Bool.false_ne_true hchannel

theorem loraWanBeaconGetNextChannel_eq {getTime : Int}
    (hrel : 0 ≤ beaconSeconds getTime) :
    loraWanBeaconGetNextChannel getTime =
      { channel := 1 + beaconSeconds getTime % 1024 / 128
        nextBeaconSeconds := 128 - beaconSeconds getTime % 128 } := by
  show NextChannel.mk (1 + (beaconSeconds getTime).tmod 1024 / 128)
    (128 - (beaconSeconds getTime).tmod 128) = _
  rw [Int.tmod_eq_emod_of_nonneg hrel, Int.tmod_eq_emod_of_nonneg hrel]

/-- The next beacon is named right exactly when the period that runs is not the
last of eight. -/
theorem namesNextBeacon_iff_not_last {getTime : Int}
    (hrel : 0 ≤ beaconSeconds getTime) :
    NamesNextBeacon getTime <-> beaconSeconds getTime / 128 % 8 ≠ 7 := by
  unfold NamesNextBeacon
  rw [loraWanBeaconGetNextChannel_eq hrel]
  dsimp only
  rw [loraWanBeaconListen_iff]
  lia

theorem namesNextBeacon_first :
    beaconSeconds 315964782000 = 0 ∧ NamesNextBeacon 315964782000 :=
  ⟨by decide, (namesNextBeacon_iff_not_last (by decide)).mpr (by decide)⟩

/-- In the last of eight periods the channel is 8, and listening fails. -/
theorem next_channel_is_eight :
    loraWanBeaconGetNextChannel 315965678000 =
        { channel := 8, nextBeaconSeconds := 128 } ∧
      (loraWanBeaconListen 8 0).2 = false ∧
      ¬ NamesNextBeacon 315965678000 := by
  have hnext : loraWanBeaconGetNextChannel 315965678000 =
      { channel := 8, nextBeaconSeconds := 128 } := by
    decide
  have hlisten : (loraWanBeaconListen 8 0).2 = false := by
    decide
  refine ⟨hnext, hlisten, ?_⟩
  intro h
  have haccepted := h.2.2.2.2
  rw [hnext, hlisten] at haccepted
  cases haccepted

end LoRaWan
end Fluxnode
