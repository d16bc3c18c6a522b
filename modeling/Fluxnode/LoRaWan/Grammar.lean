import Fluxnode.LoRaWan.RoundTrip

/-!
# The frames that the parser accepts

A data frame has at least twelve bytes, one of the two down-link types, and
room for its options in front of the MIC.  The parser does not check the last
of these, and it takes a port with no payload behind it for no port at all.
-/

namespace Fluxnode
namespace LoRaWan

open Js

def IsFrame (pkt : Bytes) : Prop :=
  12 ≤ pkt.length ∧ (mtype pkt = 3 ∨ mtype pkt = 5) ∧
    8 + foptsLen pkt + 4 ≤ pkt.length

/-- The fields of a frame whose MIC is right: the options, the port when a byte
lies between the options and the MIC, and the payload behind it. -/
def HasFields (crypto : Crypto) (self : LoraWanPacket) (pkt : Bytes)
    (p : DownPacket) : Prop :=
  p.fopts = piece pkt 8 (8 + foptsLen pkt) ∧
    (8 + foptsLen pkt < pkt.length - 4 ->
      p.fport = .byte (load pkt (8 + foptsLen pkt))) ∧
    p.payload = decrypted crypto self pkt (8 + foptsLen pkt + 1)

/-- The parser accepts the bytes just when they are a frame, and an accepted
frame with the right MIC has the fields of the frame. -/
def FollowsGrammar (crypto : Crypto) (self : LoraWanPacket) (pkt : Bytes) :
    Prop :=
  exists result, parseDownPacket crypto self pkt = .ok result ∧
    (result.error = false <-> IsFrame pkt) ∧
    forall p, result = .parsed p -> p.micVerified = true ->
      HasFields crypto self pkt p

/-- The options fit, and no port stands alone in front of a right MIC. -/
def WithinBounds (crypto : Crypto) (self : LoraWanPacket) (pkt : Bytes) :
    Prop :=
  Parsable pkt ->
    foptsLen pkt + 12 ≤ pkt.length ∧
      ¬ (pkt.length = foptsLen pkt + 13 ∧ MicVerified crypto self.nwkKey pkt)

theorem isFrame_of_parsable {pkt : Bytes} (h : Parsable pkt)
    (hfits : foptsLen pkt + 12 ≤ pkt.length) : IsFrame pkt :=
  ⟨h.1, h.2.symm, by lia⟩

theorem parsable_of_isFrame {pkt : Bytes} (h : IsFrame pkt) : Parsable pkt :=
  ⟨h.1, h.2.1.symm⟩

theorem piece_eq_nil {pkt : Bytes} {start stop : Nat} (h : stop ≤ start) :
    piece pkt start stop = [] := by
  rw [piece, List.drop_eq_nil_of_le]
  rw [List.length_take]
  lia

theorem applyKeyStream_nil (crypto : Crypto) (key addr : Bytes) (n : Nat)
    (dir : Int) : applyKeyStream crypto key addr n dir [] = [] :=
  List.eq_nil_of_length_eq_zero (length_applyKeyStream crypto key addr n dir [])

theorem hasFields_of_withinBounds
    {crypto : Crypto} {self : LoraWanPacket} {pkt : Bytes}
    (hlen : 12 ≤ pkt.length) (hfits : foptsLen pkt + 12 ≤ pkt.length)
    (hmic : MicVerified crypto self.nwkKey pkt)
    (hport : pkt.length ≠ foptsLen pkt + 13) :
    HasFields crypto self pkt (downPacket crypto self pkt) := by
  have hstart : dataStart pkt = 8 + foptsLen pkt := if_pos hfits
  refine ⟨if_pos hfits, ?_, ?_⟩
  · intro hbyte
    have hpayload : HasPayload crypto self.nwkKey pkt :=
      ⟨hmic, by lia⟩
    simp only [downPacket, if_pos hpayload, hstart]
  · by_cases hpayload : HasPayload crypto self.nwkKey pkt
    · simp only [downPacket, if_pos hpayload, hstart]
    · have hend : ¬ dataStart pkt + 4 + 1 < pkt.length := by
        intro hmore
        exact hpayload ⟨hmic, hmore⟩
      have hrest :
          piece pkt (8 + foptsLen pkt + 1) (pkt.length - 4) = [] :=
        piece_eq_nil (by lia)
      have hnil : decrypted crypto self pkt (8 + foptsLen pkt + 1) = [] := by
        rw [decrypted, hrest, applyKeyStream_nil]
      simp only [downPacket, if_neg hpayload, hnil]

theorem withinBounds_of_followsGrammar
    {crypto : Crypto} {self : LoraWanPacket} {pkt : Bytes}
    (h : FollowsGrammar crypto self pkt) : WithinBounds crypto self pkt := by
  intro hparsable
  rcases h with ⟨result, hresult, haccepts, hfields⟩
  rw [parseDownPacket_of_parsable crypto self hparsable] at hresult
  cases hresult
  have hframe : IsFrame pkt := haccepts.mp rfl
  have hfits : foptsLen pkt + 12 ≤ pkt.length := by
    have hroom := hframe.2.2
    lia
  constructor
  · exact hfits
  · intro halone
    rcases halone with ⟨hlength, hmic⟩
    have hport := (hfields _ rfl (decide_eq_true hmic)).2.1 (by lia)
    have hstart : dataStart pkt = 8 + foptsLen pkt := if_pos hfits
    have hnone : ¬ HasPayload crypto self.nwkKey pkt := by
      intro hpayload
      have hmore := hpayload.2
      lia
    simp only [downPacket, if_neg hnone] at hport
    cases hport

/-- On every byte string, the parser follows the grammar exactly when the
options fit and no port stands alone. -/
theorem followsGrammar_iff_withinBounds
    (crypto : Crypto) (self : LoraWanPacket) (pkt : Bytes) :
    FollowsGrammar crypto self pkt <-> WithinBounds crypto self pkt := by
  constructor
  · exact withinBounds_of_followsGrammar
  · intro hbounds
    by_cases hparsable : Parsable pkt
    · rcases hbounds hparsable with ⟨hfits, halone⟩
      refine ⟨_, parseDownPacket_of_parsable crypto self hparsable, ?_, ?_⟩
      · constructor
        · intro _
          exact isFrame_of_parsable hparsable hfits
        · intro _
          rfl
      · intro p hp hverified
        cases hp
        have hmic : MicVerified crypto self.nwkKey pkt :=
          of_decide_eq_true hverified
        apply hasFields_of_withinBounds hparsable.1 hfits hmic
        intro hlength
        exact halone ⟨hlength, hmic⟩
    · rcases parseDownPacket_of_not_parsable crypto self hparsable with
        ⟨errMsg, hfailed⟩
      refine ⟨_, hfailed, ?_, ?_⟩
      · constructor
        · intro herror
          cases herror
        · intro hframe
          exact absurd (parsable_of_isFrame hframe) hparsable
      · intro p hp
        cases hp

/-!
## Two packets that the parser gets wrong
-/

def longOptions : Bytes :=
  [0x60, 1, 2, 3, 4, 0x0F, 0, 0, 0, 0, 0, 0]

/-- What `unConfirmedDown` builds for port 7 and the empty payload. -/
def emptyPayload : Bytes :=
  [0x60, 1, 2, 3, 4, 0, 0, 0, 7, 0, 0, 0, 0]

theorem grammar_not_followed :
    unConfirmedDown zeroCrypto device [] 7 0 [] = .ok emptyPayload ∧
      ¬ FollowsGrammar zeroCrypto device longOptions ∧
      ¬ FollowsGrammar zeroCrypto device emptyPayload := by
  refine ⟨rfl, ?_, ?_⟩
  · intro h
    have hfits := (withinBounds_of_followsGrammar h (by
      refine ⟨by decide, Or.inr (by decide)⟩)).1
    exact absurd hfits (by decide)
  · intro h
    have halone := (withinBounds_of_followsGrammar h (by
      refine ⟨by decide, Or.inr (by decide)⟩)).2
    exact halone ⟨rfl, by decide⟩

end LoRaWan
end Fluxnode
