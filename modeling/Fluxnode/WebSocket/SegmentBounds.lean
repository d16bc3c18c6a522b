import Fluxnode.WebSocket.Handshake

/-!
# Reads inside the segment

Neither the handshake nor the server looks at `buf_len`.  A segment is read
beyond its end unless its own bytes stop the search, the copy of the key and the
copy of the payload in time.
-/

namespace Fluxnode
namespace WebSocket

open Foundation

/-- The bytes of a segment; `buf_len` is a `uint16_t`. -/
structure Segment where
  bytes : List UInt8
  length_lt : bytes.length < 2 ^ 16
  deriving Repr

/-- Whatever there is in memory behind the segment, every read is at an offset
below `buf_len`. -/
def ReadsInside {α : Type} (seg : Segment) (p : SegmentReader α) : Prop :=
  forall memory, Reader.Holds memory (bytesOf seg.bytes) ->
    forall i, i ∈ Reader.reads memory p -> i < seg.bytes.length

theorem readsInside_iff {α : Type} {seg : Segment} {p : SegmentReader α} :
    ReadsInside seg p <->
      (Reader.resultIn (bytesOf seg.bytes) p).isSome = true := by
  constructor
  · intro h
    have hholds : Reader.Holds (fun i => (bytesOf seg.bytes i).getD 0)
        (bytesOf seg.bytes) := by
      intro i b hb
      dsimp only
      rw [hb, Option.getD_some]
    apply (Reader.reads_inside_iff hholds).mp
    intro i hi
    exact bytesOf_isSome.mpr (h _ hholds i hi)
  · intro h memory hholds i hi
    exact bytesOf_isSome.mp ((Reader.reads_inside_iff hholds).mpr h i hi)

/-!
## The search
-/

def FirstAt (needle bytes : List UInt8) (p : Nat) : Prop :=
  needle <+: bytes.drop p ∧ (0 : UInt8) ∉ bytes.take p ∧
    forall q, q < p -> ¬ needle <+: bytes.drop q

theorem strstr_cons (needle : List UInt8) (c : UInt8) (bytes : List UInt8) :
    strstr needle (c :: bytes) =
      if needle <+: c :: bytes then some (some 0)
      else if c = 0 then some none
      else (strstr needle bytes).map (fun found => found.map (· + 1)) := by
  simp only [strstr, List.isPrefixOf_iff_prefix]

theorem exists_match_cons {needle bytes : List UInt8} {c : UInt8} :
    (exists p, needle <+: (c :: bytes).drop p) <->
      needle <+: c :: bytes ∨ exists p, needle <+: bytes.drop p := by
  constructor
  · rintro ⟨p, hp⟩
    cases p with
    | zero => exact Or.inl hp
    | succ p => exact Or.inr ⟨p, hp⟩
  · rintro (hfirst | ⟨p, hp⟩)
    · exact ⟨0, hfirst⟩
    · exact ⟨p + 1, hp⟩

theorem strstr_isSome_iff {needle : List UInt8} (hne : needle ≠ [])
    (bytes : List UInt8) :
    (strstr needle bytes).isSome = true <->
      (0 : UInt8) ∈ bytes ∨ exists p, needle <+: bytes.drop p := by
  induction bytes with
  | nil => simp [strstr, hne]
  | cons c bytes ih =>
      rw [strstr_cons, exists_match_cons, List.mem_cons]
      by_cases hstarts : needle <+: c :: bytes
      · simp [hstarts]
      · rw [if_neg hstarts]
        by_cases hzero : c = 0
        · simp [hzero]
        · rw [if_neg hzero, Option.isSome_map, ih]
          simp [hstarts, Ne.symm hzero]

theorem firstAt_succ {needle bytes : List UInt8} {c : UInt8} {p : Nat}
    (hstarts : ¬ needle <+: c :: bytes) (hzero : ¬ c = 0) :
    FirstAt needle (c :: bytes) (p + 1) <-> FirstAt needle bytes p := by
  constructor
  · rintro ⟨hmatch, hnone, hfirst⟩
    rw [List.take_succ_cons, List.mem_cons, not_or] at hnone
    refine ⟨hmatch, hnone.2, ?_⟩
    intro q hq
    exact hfirst (q + 1) (Nat.succ_lt_succ hq)
  · rintro ⟨hmatch, hnone, hfirst⟩
    refine ⟨hmatch, ?_, ?_⟩
    · rw [List.take_succ_cons, List.mem_cons, not_or]
      exact ⟨Ne.symm hzero, hnone⟩
    · intro q hq
      cases q with
      | zero => exact hstarts
      | succ q => exact hfirst q (Nat.lt_of_succ_lt_succ hq)

theorem strstr_eq_found_iff {needle : List UInt8} (hne : needle ≠ [])
    {bytes : List UInt8} {p : Nat} :
    strstr needle bytes = some (some p) <-> FirstAt needle bytes p := by
  induction bytes generalizing p with
  | nil => simp [strstr, FirstAt, hne]
  | cons c bytes ih =>
      rw [strstr_cons]
      by_cases hstarts : needle <+: c :: bytes
      · rw [if_pos hstarts]
        constructor
        · intro h
          cases h
          exact ⟨hstarts, List.not_mem_nil, fun q hq => absurd hq (by lia)⟩
        · intro h
          cases p with
          | zero => rfl
          | succ p => exact absurd hstarts (h.2.2 0 (Nat.succ_pos p))
      · rw [if_neg hstarts]
        cases p with
        | zero =>
            have hnot : ¬ FirstAt needle (c :: bytes) 0 :=
              fun h => hstarts h.1
            simp only [hnot, iff_false]
            split
            · simp
            · simp
        | succ p =>
            by_cases hzero : c = 0
            · rw [if_pos hzero]
              constructor
              · intro h
                cases h
              · intro h
                rw [hzero] at h
                exact absurd List.mem_cons_self h.2.1
            · rw [if_neg hzero, firstAt_succ hstarts hzero, ← ih]
              simp

/-!
## The key
-/

/-- `\r` or `\n` is met in time, or there are bytes enough without. -/
def KeyEnds (bytes : List UInt8) : Prop :=
  keyDigestSizeMax ≤ bytes.length ∨
    exists k, k < keyDigestSizeMax ∧
      (bytes[k]? = some 13 ∨ bytes[k]? = some 10)

theorem copyKey_isSome_iff (n : Nat) (bytes : List UInt8) :
    (copyKey n bytes).isSome = true <->
      n ≤ bytes.length ∨
        exists k, k < n ∧ (bytes[k]? = some 13 ∨ bytes[k]? = some 10) := by
  induction n generalizing bytes with
  | zero => simp [copyKey]
  | succ n ih =>
      cases bytes with
      | nil => simp [copyKey]
      | cons c bytes =>
          rw [copyKey]
          by_cases hend : c = 13 ∨ c = 10
          · rw [if_pos hend]
            simp only [Option.isSome_some, true_iff]
            refine Or.inr ⟨0, Nat.succ_pos n, ?_⟩
            rw [List.getElem?_cons_zero, Option.some.injEq,
              Option.some.injEq]
            exact hend
          · rw [if_neg hend, Option.isSome_map, ih, List.length_cons,
              Nat.succ_le_succ_iff]
            apply or_congr_right
            constructor
            · rintro ⟨k, hk, hbyte⟩
              exact ⟨k + 1, Nat.succ_lt_succ hk, hbyte⟩
            · rintro ⟨k, hk, hbyte⟩
              cases k with
              | zero =>
                  rw [List.getElem?_cons_zero, Option.some.injEq,
                    Option.some.injEq] at hbyte
                  exact absurd hbyte hend
              | succ k => exact ⟨k, Nat.lt_of_succ_lt_succ hk, hbyte⟩

def RequestFits (allocates : Nat -> Bool) (bytes : List UInt8) : Prop :=
  ((0 : UInt8) ∈ bytes ∨ exists p, websocketSecKey <+: bytes.drop p) ∧
    forall p, FirstAt websocketSecKey bytes p ->
      allocates handshakeSize = true ->
      KeyEnds (bytes.drop (p + (websocketSecKey.length + 1)))

theorem readRequest_inside_iff (allocates : Nat -> Bool) (seg : Segment) :
    ReadsInside seg (readRequest allocates) <->
      RequestFits allocates seg.bytes := by
  have hlength : seg.bytes.length < addressSpace :=
    Nat.lt_trans seg.length_lt (by decide)
  have hsome := strstr_isSome_iff websocketSecKey_ne_nil seg.bytes
  rw [readsInside_iff, resultIn_readRequest allocates hlength, RequestFits,
    ← hsome]
  cases hfound : strstr websocketSecKey seg.bytes with
  | none => simp
  | some found =>
      rw [Option.bind_some, Option.isSome_some]
      cases found with
      | none =>
          simp only [Option.isSome_some, true_and, true_iff]
          intro p hp
          rw [← strstr_eq_found_iff websocketSecKey_ne_nil, hfound] at hp
          cases hp
      | some seckey =>
          have hfirst : forall p, FirstAt websocketSecKey seg.bytes p <->
              p = seckey := by
            intro p
            rw [← strstr_eq_found_iff websocketSecKey_ne_nil, hfound]
            simp [eq_comm]
          simp only [hfirst, forall_eq, true_and]
          split
          · rename_i hallocates
            rw [Option.isSome_map, copyKey_isSome_iff, KeyEnds]
            simp only [hallocates, true_imp_iff]
          · rename_i hnot
            simp [hnot]

/-!
## The frame
-/

def lengthFieldEnd (b₁ : UInt8) : Nat :=
  if b₁.toNat % 128 = 127 then 6 else if b₁.toNat % 128 = 126 then 4 else 2

def keyLength (b₁ : UInt8) : Nat :=
  if b₁.toNat / 128 = 1 then 4 else 0

def FrameFits (allocates : Nat -> Bool) (bytes : List UInt8) (b₁ : UInt8) :
    Prop :=
  lengthFieldEnd b₁ ≤ bytes.length ∧
    forall n mask, payloadLen bytes b₁ = some (n, mask) ->
      allocates ((n + 1) % 2 ^ 32) = true ->
      n = 0 ∨ mask + keyLength b₁ + n ≤ bytes.length

/-- The segment has what `websocket_serve` needs to stay inside. -/
def RoundFits (allocates : Nat -> Bool) (bytes : List UInt8) : Prop :=
  exists b₀, bytes[0]? = some b₀ ∧
    (b₀.toNat % 16 = wsOpClose ∨
      exists b₁, bytes[1]? = some b₁ ∧ FrameFits allocates bytes b₁)

theorem readLen32_isSome_iff (bytes : List UInt8) :
    (readLen32 bytes).isSome = true <-> 6 ≤ bytes.length := by
  by_cases hlength : 6 ≤ bytes.length
  · rw [readLen32, List.getElem?_eq_getElem (by lia),
      List.getElem?_eq_getElem (by lia), List.getElem?_eq_getElem (by lia),
      List.getElem?_eq_getElem (by lia)]
    simp [hlength]
  · have hlast : bytes[5]? = none := List.getElem?_eq_none (by lia)
    simp [readLen32, hlast, hlength]

theorem readLen16_isSome_iff (bytes : List UInt8) :
    (readLen16 bytes).isSome = true <-> 4 ≤ bytes.length := by
  by_cases hlength : 4 ≤ bytes.length
  · rw [readLen16, List.getElem?_eq_getElem (by lia),
      List.getElem?_eq_getElem (by lia)]
    simp [hlength]
  · have hlast : bytes[3]? = none := List.getElem?_eq_none (by lia)
    simp [readLen16, hlast, hlength]

theorem payloadLen_isSome_iff {bytes : List UInt8} {b₁ : UInt8}
    (hsecond : bytes[1]? = some b₁) :
    (payloadLen bytes b₁).isSome = true <->
      lengthFieldEnd b₁ ≤ bytes.length := by
  unfold payloadLen lengthFieldEnd
  split
  · rw [Option.isSome_map]
    exact readLen32_isSome_iff bytes
  · split
    · rw [Option.isSome_map]
      exact readLen16_isSome_iff bytes
    · rcases List.getElem?_eq_some_iff.mp hsecond with ⟨hlt, _⟩
      simp only [Option.isSome_some, true_iff]
      exact hlt

theorem unmask_isSome_of_fits {bytes : List UInt8} {mask n i : Nat}
    (hfits : mask + 4 + i + n ≤ bytes.length) :
    (unmask bytes mask n i).isSome = true := by
  induction n generalizing i with
  | zero => rfl
  | succ n ih =>
      have hmod : i % 4 < 4 := Nat.mod_lt i (by lia)
      have hrest := @ih (i + 1) (by lia)
      rcases Option.isSome_iff_exists.mp hrest with ⟨rest, heq⟩
      rw [unmask, List.getElem?_eq_getElem (by lia),
        List.getElem?_eq_getElem (by lia), heq]
      rfl

theorem unmask_isSome_iff (bytes : List UInt8) (mask n : Nat) :
    (unmask bytes mask n 0).isSome = true <->
      n = 0 ∨ mask + 4 + n ≤ bytes.length := by
  constructor
  · intro h
    rcases Option.isSome_iff_exists.mp h with ⟨payload, heq⟩
    rcases Nat.eq_zero_or_pos n with hzero | hpos
    · exact Or.inl hzero
    · exact Or.inr (unmask_fits heq hpos)
  · rintro (rfl | hfits)
    · rfl
    · exact unmask_isSome_of_fits hfits

theorem readPayload_isSome_iff {bytes : List UInt8} {b₁ : UInt8} {mask : Nat}
    (hmask : mask ≤ bytes.length) (n : Nat) :
    (readPayload bytes b₁ mask n).isSome = true <->
      n = 0 ∨ mask + keyLength b₁ + n ≤ bytes.length := by
  unfold readPayload keyLength
  split
  · exact unmask_isSome_iff bytes mask n
  · rw [copyPayload]
    split
    · simp; lia
    · simp; lia

theorem frameFits_iff {allocates : Nat -> Bool} {bytes : List UInt8}
    {b₁ : UInt8} (hsecond : bytes[1]? = some b₁) :
    FrameFits allocates bytes b₁ <->
      exists n mask, payloadLen bytes b₁ = some (n, mask) ∧
        (allocates ((n + 1) % 2 ^ 32) = true ->
          (readPayload bytes b₁ mask n).isSome = true) := by
  rw [FrameFits, ← payloadLen_isSome_iff hsecond]
  constructor
  · rintro ⟨hsome, hfits⟩
    rcases Option.isSome_iff_exists.mp hsome with ⟨⟨n, mask⟩, hlen⟩
    refine ⟨n, mask, hlen, ?_⟩
    intro hallocates
    rw [readPayload_isSome_iff (mask_le_length hsecond hlen)]
    exact hfits n mask hlen hallocates
  · rintro ⟨n, mask, hlen, hpayload⟩
    constructor
    · rw [hlen]
      rfl
    · intro n' mask' hlen' hallocates
      rw [hlen] at hlen'
      cases hlen'
      exact (readPayload_isSome_iff (mask_le_length hsecond hlen) n).mp
        (hpayload hallocates)

theorem serveData_isSome_iff (allocates : Nat -> Bool) (bytes : List UInt8) :
    (serveData allocates bytes).isSome = true <->
      RoundFits allocates bytes := by
  unfold serveData RoundFits
  simp only [Option.bind_eq_bind, Option.pure_def]
  cases hfirst : bytes[0]? with
  | none => simp
  | some b₀ =>
      simp only [Option.bind_some, Option.some.injEq, exists_eq_left']
      by_cases hclose : b₀.toNat % 16 = wsOpClose
      · simp [hclose]
      · rw [if_neg hclose]
        cases hsecond : bytes[1]? with
        | none => simp [hclose]
        | some b₁ =>
            simp only [Option.bind_some, hclose, false_or, Option.some.injEq,
              exists_eq_left']
            rw [frameFits_iff hsecond]
            cases payloadLen bytes b₁ with
            | none => simp
            | some r =>
                rcases r with ⟨n, mask⟩
                have hround : forall payload : List UInt8,
                    (if b₀.toNat % 16 = wsOpText then
                      some (Served.calls
                        { payloadLength := n, payload := payload })
                    else some .leaves).isSome = true := by
                  intro payload
                  split <;> rfl
                by_cases hallocates : allocates ((n + 1) % 2 ^ 32) = true
                · rw [Option.bind_some, if_pos hallocates]
                  cases hpayload : readPayload bytes b₁ mask n with
                  | none =>
                      rw [Option.bind_none, Option.isSome_none]
                      constructor
                      · intro h
                        cases h
                      · rintro ⟨n', mask', hsame, hsome⟩
                        cases hsame
                        rw [hpayload] at hsome
                        exact hsome hallocates
                  | some payload =>
                      rw [Option.bind_some]
                      simp only [hround, true_iff]
                      refine ⟨n, mask, rfl, ?_⟩
                      intro _
                      rw [hpayload]
                      rfl
                · rw [Option.bind_some, if_neg hallocates]
                  simp only [Option.isSome_some, true_iff]
                  exact ⟨n, mask, rfl, fun h => absurd h hallocates⟩

theorem serveSegment_inside_iff (allocates : Nat -> Bool) (seg : Segment) :
    ReadsInside seg (serveSegment allocates) <->
      RoundFits allocates seg.bytes := by
  rw [readsInside_iff, resultIn_serveSegment, Option.isSome_map,
    serveData_isSome_iff]

theorem segment_reads_inside_iff (allocates : Nat -> Bool) (seg : Segment) :
    (ReadsInside seg (readRequest allocates) <->
        RequestFits allocates seg.bytes) ∧
      (ReadsInside seg (serveSegment allocates) <->
        RoundFits allocates seg.bytes) ∧
      forall memory,
        (Reader.result memory (readRequest allocates)).WritesInside := by
  refine ⟨?_, ?_, ?_⟩
  · exact readRequest_inside_iff allocates seg
  · exact serveSegment_inside_iff allocates seg
  · exact readRequest_writesInside allocates

/-- A request without a key header, and the header of a frame whose payload is
still to come. -/
theorem short_segments_read_behind :
    ¬ ReadsInside { bytes := [71, 69, 84], length_lt := by decide }
        (readRequest (fun _ => true)) ∧
      ¬ ReadsInside { bytes := [0x81, 5], length_lt := by decide }
        (serveSegment (fun _ => true)) := by
  constructor
  · rw [readsInside_iff, resultIn_readRequest _ (by decide)]
    decide
  · rw [readsInside_iff, resultIn_serveSegment]
    decide

end WebSocket
end Fluxnode
