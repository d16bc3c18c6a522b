import Fluxnode.Foundation.Stream
import Fluxnode.WebSocket.Frame

/-!
# Frames and segments

How the bytes of the frames are cut into the buffers that the server receives.
The server takes the start of each buffer for the start of a frame and forgets
what is behind that frame, so the calls are right exactly when every buffer is
one frame.
-/

namespace Fluxnode
namespace WebSocket

open Foundation

/-- Whatever timeouts there are between the segments, the callback is called
once for each frame, in order, with its payload. -/
def Delivers (allocates : Nat -> Bool) (frames : List TextFrame)
    (segments : List (List UInt8)) : Prop :=
  forall recvs, Recv.failed ∉ recvs ->
    recvs.filterMap Recv.data? = segments ->
    websocketServe allocates recvs = some (frames.map TextFrame.called)

/-- How long the payloads of the frames are, and how long the segments are into
which their bytes are cut. -/
structure Layout where
  payloads : List PayloadLength
  segments : List Nat
  segment_pos : forall c, c ∈ segments -> 0 < c
  sum_eq : segments.sum = (payloads.map (fun n => frameLength n.val)).sum

def Layout.Delivered (allocates : Nat -> Bool) (l : Layout) : Prop :=
  forall frames, frames.map TextFrame.length = l.payloads ->
    Delivers allocates frames (cut l.segments (stream frames))

def Layout.Aligned (l : Layout) : Prop :=
  l.segments = l.payloads.map (fun n => frameLength n.val)

theorem delivers_iff {allocates : Nat -> Bool} {frames : List TextFrame}
    {segments : List (List UInt8)} :
    Delivers allocates frames segments <->
      websocketServe allocates (segments.map .data) =
        some (frames.map TextFrame.called) := by
  constructor
  · intro h
    refine h (segments.map .data) ?_ ?_
    · intro hmem
      rcases List.mem_map.mp hmem with ⟨_, _, hfailed⟩
      cases hfailed
    · rw [List.filterMap_map]
      exact List.filterMap_some
  · intro h recvs hrecvs hdata
    rw [websocketServe_data hrecvs, hdata]
    exact h

/-- Every way to cut the stream is a layout of its lengths. -/
theorem eq_cut_of_flatten {frames : List TextFrame}
    {segments : List (List UInt8)} (h : segments.flatten = stream frames) :
    segments = cut (segments.map List.length) (stream frames) := by
  rw [← h, cut_lengths]

/-!
## One frame in each segment
-/

section Aligned

variable {allocates : Nat -> Bool}
  (hallocates : forall n, n ≤ 65536 -> allocates n = true)
include hallocates

theorem websocketServe_frames (frames : List TextFrame) :
    websocketServe allocates ((frames.map TextFrame.encode).map .data) =
      some (frames.map TextFrame.called) := by
  induction frames with
  | nil => rfl
  | cons f frames ih =>
      rw [List.map_cons, List.map_cons,
        websocketServe_calls (f.serveData_encode hallocates), ih]
      rfl

theorem Layout.Aligned.delivered {l : Layout} (h : l.Aligned) :
    l.Delivered allocates := by
  intro frames hframes
  have hlengths : l.segments =
      (frames.map TextFrame.encode).map List.length := by
    rw [h, ← hframes, List.map_map, List.map_map]
    apply List.map_congr_left
    intro f _
    exact f.encode_length.symm
  rw [delivers_iff, hlengths, stream, cut_lengths]
  exact websocketServe_frames hallocates frames

end Aligned

/-!
## Frames of zero bytes

With a zero key and a zero payload, no byte behind the header looks like the
start of a text frame.
-/

def zeroFrame (n : PayloadLength) : TextFrame where
  key := List.replicate 4 0
  payload := List.replicate n.val 0
  key_length := List.length_replicate
  payload_lt := by
    rw [List.length_replicate]
    exact n.isLt

def zeroStream (ns : List PayloadLength) : List UInt8 :=
  stream (ns.map zeroFrame)

theorem zeroStream_cons (n : PayloadLength) (ns : List PayloadLength) :
    zeroStream (n :: ns) = (zeroFrame n).encode ++ zeroStream ns := rfl

theorem zeroFrame_length (n : PayloadLength) : (zeroFrame n).length = n := by
  apply Fin.ext
  exact List.length_replicate

theorem map_zeroFrame_length (ns : List PayloadLength) :
    (ns.map zeroFrame).map TextFrame.length = ns := by
  rw [List.map_map]
  refine (List.map_congr_left ?_).trans (List.map_id ns)
  intro n _
  exact zeroFrame_length n

theorem encode_zeroFrame (n : PayloadLength) :
    (zeroFrame n).encode = header n.val ++ List.replicate (4 + n.val) 0 := by
  have hmasked : masked (List.replicate 4 0) (List.replicate n.val 0) =
      List.replicate n.val 0 := by
    refine List.eq_replicate_iff.mpr ⟨?_, ?_⟩
    · rw [masked_length, List.length_replicate]
    · intro b hb
      rcases List.mem_mapIdx.mp hb with ⟨i, hi, rfl⟩
      rw [List.getElem_replicate, List.getD_eq_getElem?_getD,
        List.getElem?_replicate_of_lt (Nat.mod_lt i (by lia))]
      rfl
  rw [TextFrame.encode, zeroFrame, List.length_replicate, hmasked,
    List.replicate_append_replicate]

theorem encode_zeroFrame_length (n : PayloadLength) :
    (zeroFrame n).encode.length = frameLength n.val := by
  rw [TextFrame.encode_length]
  exact congrArg frameLength List.length_replicate

theorem encode_zeroFrame_behind {n : PayloadLength} {i : Nat}
    (hbehind : headerLength n.val ≤ i) (hi : i < frameLength n.val) :
    (zeroFrame n).encode[i]? = some 0 := by
  have hheader := header_length n.val
  rw [encode_zeroFrame, List.getElem?_append_right (by lia)]
  refine List.getElem?_replicate_of_lt ?_
  rw [frameLength] at hi
  lia

theorem inside_byte {n : PayloadLength} {p c i : Nat} {more : List UInt8}
    {b : UInt8} (hb : (((zeroFrame n).encode.drop p ++ more).take c)[i]? = some b)
    (hi : p + i < frameLength n.val) : (zeroFrame n).encode[p + i]? = some b := by
  have hlt : i < ((zeroFrame n).encode.drop p).length := by
    rw [List.length_drop, encode_zeroFrame_length]
    lia
  rw [List.getElem?_take] at hb
  split at hb
  · rw [List.getElem?_append_left hlt, List.getElem?_drop] at hb
    exact hb
  · cases hb

/-!
## Buffers that start inside of a frame
-/

section Inside

variable {n : PayloadLength} {p c : Nat} {more : List UInt8}
  {frame : WebsocketFrame} {b₀ b₁ : UInt8} {mask : Nat}

theorem inside_zero {i : Nat} {b : UInt8}
    (hb : (((zeroFrame n).encode.drop p ++ more).take c)[i]? = some b)
    (hbehind : headerLength n.val ≤ p + i) (hi : p + i < frameLength n.val) :
    b = 0 := by
  have hzero := inside_byte hb hi
  rw [encode_zeroFrame_behind hbehind hi] at hzero
  exact (Option.some.inj hzero).symm

theorem encode_zeroFrame_short (hshort : n.val ≤ 125) :
    (zeroFrame n).encode[1]? = some (UInt8.ofNat (128 + n.val)) := by
  rw [encode_zeroFrame, header, if_pos hshort]
  rfl

theorem encode_zeroFrame_long (hlong : Not (n.val ≤ 125)) :
    (zeroFrame n).encode =
      0x81 :: 0xfe :: UInt8.ofNat (n.val / 256) :: UInt8.ofNat (n.val % 256) ::
        List.replicate (4 + n.val) 0 := by
  rw [encode_zeroFrame, header, if_neg hlong]
  rfl

theorem not_called_of_header (hp : p + c < headerLength n.val) :
    Not (Called (((zeroFrame n).encode.drop p ++ more).take c)
      frame b₀ b₁ mask) := by
  intro h
  have htwo := h.two_le_length
  have hflen := headerLength_lt_frameLength n.val
  rw [List.length_take] at htwo
  have hlong : Not (n.val ≤ 125) := by
    intro hshort
    rw [headerLength, if_pos hshort] at hp
    lia
  have hencode := encode_zeroFrame_long hlong
  have hheader : headerLength n.val = 4 := if_neg hlong
  have hcases : p = 0 ∨ p = 1 := by lia
  rcases hcases with hp0 | hp1
  · -- the length field says 16 bits, and they are not in the buffer
    have hsecond := inside_byte h.second (by lia)
    rw [hencode, hp0] at hsecond
    cases hsecond
    have hnone : (((zeroFrame n).encode.drop p ++ more).take c)[3]? = none := by
      rw [List.getElem?_eq_none_iff, List.length_take]
      lia
    have hlen := h.len
    rw [payloadLen, if_neg (by decide), if_pos (by decide), readLen16,
      hnone] at hlen
    cases hbyte : (((zeroFrame n).encode.drop p ++ more).take c)[2]? with
    | none =>
        rw [hbyte] at hlen
        cases hlen
    | some b₂ =>
        rw [hbyte] at hlen
        cases hlen
  · have hfirst := inside_byte h.first (by lia)
    rw [hencode, hp1] at hfirst
    cases hfirst
    exact absurd h.text (by decide)

theorem not_called_behind (hbehind : headerLength n.val ≤ p)
    (hp : p < frameLength n.val) :
    Not (Called (((zeroFrame n).encode.drop p ++ more).take c)
      frame b₀ b₁ mask) := by
  intro h
  have hzero := inside_zero h.first hbehind hp
  have htext := h.text
  rw [hzero] at htext
  exact absurd htext (by decide)

end Inside

theorem readLen_zero {buf : List UInt8} {b₁ : UInt8} {n mask : Nat}
    (hzeros : forall i b, 2 ≤ i -> i ≤ 5 -> buf[i]? = some b -> b = 0)
    (hlen : payloadLen buf b₁ = some (n, mask)) : n ≤ 125 := by
  unfold payloadLen at hlen
  split at hlen
  · simp only [readLen32, Option.bind_eq_bind, Option.pure_def,
      Option.map_eq_some_iff, Option.bind_eq_some_iff, Option.some.injEq,
      Prod.mk.injEq] at hlen
    rcases hlen with
      ⟨len, ⟨b₂, hb₂, b₃, hb₃, b₄, hb₄, b₅, hb₅, hsum⟩, hn, _⟩
    have h₂ := hzeros 2 b₂ (by lia) (by lia) hb₂
    have h₃ := hzeros 3 b₃ (by lia) (by lia) hb₃
    have h₄ := hzeros 4 b₄ (by lia) (by lia) hb₄
    have h₅ := hzeros 5 b₅ (by lia) (by lia) hb₅
    rw [h₂, h₃, h₄, h₅] at hsum
    rw [← hn, ← hsum]
    exact Nat.zero_le 125
  · split at hlen
    · simp only [readLen16, Option.bind_eq_bind, Option.pure_def,
        Option.map_eq_some_iff, Option.bind_eq_some_iff, Option.some.injEq,
        Prod.mk.injEq] at hlen
      rcases hlen with ⟨len, ⟨b₂, hb₂, b₃, hb₃, hsum⟩, hn, _⟩
      have h₂ := hzeros 2 b₂ (by lia) (by lia) hb₂
      have h₃ := hzeros 3 b₃ (by lia) (by lia) hb₃
      rw [h₂, h₃] at hsum
      rw [← hn, ← hsum]
      exact Nat.zero_le 125
    · cases hlen
      lia

theorem payloadLength_ne {n : PayloadLength} {p c : Nat} {more : List UInt8}
    {frame : WebsocketFrame} {b₀ b₁ : UInt8} {mask : Nat} (hpos : 0 < p)
    (hp : p < headerLength n.val)
    (h : Called (((zeroFrame n).encode.drop p ++ more).take c)
      frame b₀ b₁ mask) : frame.payloadLength ≠ n.val := by
  have hflen : frameLength n.val = headerLength n.val + (4 + n.val) := rfl
  have htext := h.text
  have hlen := h.len
  rcases Nat.lt_or_ge 125 n.val with hlong | hshort
  · have hheader : headerLength n.val = 4 := if_neg (by lia)
    have hcases : p = 1 ∨ 2 ≤ p := by lia
    rcases hcases with hp1 | hp2
    · have hfirst := inside_byte h.first (by lia)
      rw [encode_zeroFrame_long (by lia), hp1] at hfirst
      cases hfirst
      exact absurd htext (by decide)
    · have hle : frame.payloadLength ≤ 125 := by
        refine readLen_zero ?_ hlen
        intro i b hi hi' hb
        exact inside_zero hb (by lia) (by lia)
      lia
  · have hheader : headerLength n.val = 2 := if_pos hshort
    have hp1 : p = 1 := by lia
    have hfirst := inside_byte h.first (by lia)
    have hsecond := inside_zero h.second (by lia) (by lia)
    rw [hp1, encode_zeroFrame_short hshort] at hfirst
    cases hfirst
    rw [hsecond] at hlen
    have hzero : 0 = frame.payloadLength :=
      congrArg Prod.fst (Option.some.inj hlen)
    rw [UInt8.toNat_ofNat_of_lt' (show 128 + n.val < 256 by lia)] at htext
    intro hn
    rw [← hn, ← hzero] at htext
    exact absurd htext (by decide)

/-!
## How many calls a stream of zero bytes can bring
-/

def headersBehind : Nat -> List PayloadLength -> Nat
  | _, [] => 0
  | q, n :: ns =>
      if q < headerLength n.val then
        ns.length + 1
      else
        headersBehind (q - frameLength n.val) ns

theorem headersBehind_le (q : Nat) (ns : List PayloadLength) :
    headersBehind q ns ≤ ns.length := by
  induction ns generalizing q with
  | nil => exact Nat.le_refl 0
  | cons n ns ih =>
      rw [headersBehind, List.length_cons]
      split
      · exact Nat.le_refl _
      · exact Nat.le_succ_of_le (ih _)

theorem drop_zeroStream_inside {n : PayloadLength} {ns : List PayloadLength}
    {q : Nat} (hq : q < frameLength n.val) :
    (zeroStream (n :: ns)).drop q =
      (zeroFrame n).encode.drop q ++ zeroStream ns := by
  rw [zeroStream_cons, List.drop_append_of_le_length]
  rw [encode_zeroFrame_length]
  exact Nat.le_of_lt hq

theorem drop_zeroStream_behind {n : PayloadLength} {ns : List PayloadLength}
    {q : Nat} (hq : frameLength n.val ≤ q) :
    (zeroStream (n :: ns)).drop q =
      (zeroStream ns).drop (q - frameLength n.val) := by
  have hlength := encode_zeroFrame_length n
  rw [zeroStream_cons, List.drop_append, List.drop_eq_nil_of_le (by lia),
    List.nil_append, hlength]

theorem headersBehind_lt {ns : List PayloadLength} {q c : Nat}
    {frame : WebsocketFrame} {b₀ b₁ : UInt8} {mask : Nat}
    (h : Called (((zeroStream ns).drop q).take c) frame b₀ b₁ mask) :
    headersBehind (q + c) ns < headersBehind q ns := by
  induction ns generalizing q with
  | nil =>
      have htwo := h.two_le_length
      rw [zeroStream, List.map_nil, stream, List.map_nil, List.flatten_nil,
        List.drop_nil, List.take_nil] at htwo
      cases htwo
  | cons n ns ih =>
      have hflen := headerLength_lt_frameLength n.val
      rw [headersBehind, headersBehind]
      rcases Nat.lt_or_ge q (frameLength n.val) with hinside | hbehind
      · rw [drop_zeroStream_inside hinside] at h
        have hheader : q < headerLength n.val := by
          apply Nat.lt_of_not_le
          intro hle
          exact not_called_behind hle hinside h
        have hend : Not (q + c < headerLength n.val) := by
          intro hlt
          exact not_called_of_header hlt h
        rw [if_pos hheader, if_neg hend]
        exact Nat.lt_succ_of_le (headersBehind_le _ ns)
      · rw [drop_zeroStream_behind hbehind] at h
        have hrest := ih h
        rw [if_neg (by lia), if_neg (by lia), Nat.sub_add_comm hbehind]
        exact hrest

theorem length_le_headersBehind {allocates : Nat -> Bool}
    {ns : List PayloadLength} {cs : List Nat} {q : Nat}
    {out : List WebsocketFrame}
    (h : websocketServe allocates
      ((cut cs ((zeroStream ns).drop q)).map .data) = some out) :
    out.length ≤ headersBehind q ns := by
  induction cs generalizing q out with
  | nil =>
      cases h
      exact Nat.zero_le _
  | cons c cs ih =>
      rw [cut, List.map_cons, List.drop_drop] at h
      cases out with
      | nil => exact Nat.zero_le _
      | cons frame out =>
          rcases websocketServe_cons h with ⟨hcalls, hrest⟩
          rcases serveData_calls hcalls with ⟨b₀, b₁, mask, hcalled⟩
          have hlt := headersBehind_lt hcalled
          have hle := ih hrest
          rw [List.length_cons]
          lia

/-!
## One frame in each segment, necessarily
-/

def AllDelivered (allocates : Nat -> Bool) (ns : List PayloadLength)
    (cs : List Nat) : Prop :=
  forall frames, frames.map TextFrame.length = ns ->
    websocketServe allocates ((cut cs (stream frames)).map .data) =
      some (frames.map TextFrame.called)

/-- The frame without payload, with a key that looks like the start of a text
frame. -/
def emptyFrame : TextFrame where
  key := List.replicate 4 0x81
  payload := []
  key_length := rfl
  payload_lt := Nat.zero_lt_succ _

section Necessary

variable {allocates : Nat -> Bool} {n : PayloadLength}
  {ns : List PayloadLength} {c : Nat} {cs : List Nat}

theorem AllDelivered.zero (h : AllDelivered allocates ns cs) :
    websocketServe allocates ((cut cs (zeroStream ns)).map .data) =
      some (ns.map (fun n => (zeroFrame n).called)) := by
  have hzero := h (ns.map zeroFrame) (map_zeroFrame_length ns)
  rw [List.map_map] at hzero
  exact hzero

theorem AllDelivered.first (h : AllDelivered allocates (n :: ns) (c :: cs)) :
    serveData allocates ((zeroStream (n :: ns)).take c) =
        some (.calls (zeroFrame n).called) ∧
      websocketServe allocates
          ((cut cs ((zeroStream (n :: ns)).drop c)).map .data) =
        some (ns.map (fun n => (zeroFrame n).called)) :=
  websocketServe_cons h.zero

theorem zeroFrame_called (n : PayloadLength) :
    (zeroFrame n).called.payloadLength = n.val := List.length_replicate

theorem Called.frameLength_le {more : List UInt8} {frame : WebsocketFrame}
    {b₀ b₁ : UInt8} {mask : Nat}
    (h : Called (((zeroFrame n).encode ++ more).take c) frame b₀ b₁ mask)
    (hpos : 0 < n.val) (hlen : frame.payloadLength = n.val) :
    frameLength n.val ≤ c := by
  have hheader := headerLength_lt_frameLength n.val
  have htwo := two_le_headerLength n.val
  have hsecond := inside_byte (p := 0) h.second (by lia)
  rw [Nat.zero_add, encode_zeroFrame] at hsecond
  rcases @headerBytes_second true n.val (List.replicate (4 + n.val) 0) with
    ⟨b, hb, hmasked, hfield⟩
  rw [header_eq, hb] at hsecond
  cases hsecond
  have hmask : mask = headerLength n.val := by
    rw [payloadLen_mask h.len, hfield, headerLength]
    split
    · rw [if_neg (by lia), if_neg (by lia)]
    · rfl
  have hpayload := h.payload
  rw [readPayload, if_pos (hmasked.mpr rfl), hlen] at hpayload
  have hfits := unmask_fits hpayload hpos
  rw [List.length_take] at hfits
  rw [frameLength]
  lia

theorem serveData_emptyFrame
    (hallocates : forall n, n ≤ 65536 -> allocates n = true) {c₂ : Nat}
    (hc : 2 ≤ c) (hlt : c < 6) (hpos : 0 < c₂) :
    serveData allocates ((emptyFrame.encode.drop c).take c₂) = none := by
  have hdrop : emptyFrame.encode.drop c = List.replicate (6 - c) 0x81 := by
    have hencode : emptyFrame.encode =
        [0x81, 0x80] ++ List.replicate 4 0x81 := rfl
    rw [hencode, List.drop_append, List.drop_eq_nil_of_le hc,
      List.drop_replicate, List.nil_append]
    exact congrArg (List.replicate · _) (show 4 - (c - 2) = 6 - c by lia)
  rw [hdrop, List.take_replicate]
  have hle : min c₂ (6 - c) ≤ 4 := by lia
  have hone : 1 ≤ min c₂ (6 - c) := by lia
  generalize min c₂ (6 - c) = k at hle hone
  have hcases : k = 1 ∨ exists m, k = m + 2 := by
    rcases Nat.lt_or_ge 1 k with htwo | hle
    · exact Or.inr ⟨k - 2, by lia⟩
    · exact Or.inl (by lia)
  rcases hcases with hk | ⟨m, hk⟩
  · rw [hk]
    rfl
  · have hbyte : (List.replicate (m + 2) (0x81 : UInt8))[6]? = none := by
      rw [List.getElem?_eq_none_iff, List.length_replicate]
      lia
    rw [hk]
    show (if allocates 2 then
      (unmask (List.replicate (m + 2) 0x81) 2 1 0).bind _ else _) = _
    rw [if_pos (hallocates 2 (by lia)), unmask, hbyte]
    rfl

theorem AllDelivered.frameLength_le
    (hallocates : forall n, n ≤ 65536 -> allocates n = true)
    (h : AllDelivered allocates (n :: ns) (c :: cs))
    (hpos : forall c, c ∈ cs -> 0 < c)
    (hsum : (c :: cs).sum =
      ((n :: ns).map (fun n => frameLength n.val)).sum) :
    frameLength n.val ≤ c := by
  rcases h.first with ⟨hfirst, hrest⟩
  rcases serveData_calls hfirst with ⟨b₀, b₁, mask, hcalled⟩
  rcases Nat.eq_zero_or_pos n.val with hn | hn
  · -- no payload byte is read, so only what follows shows the cut
    have hframe : frameLength n.val = 6 := by
      rw [hn]
      rfl
    have hheader : headerLength n.val = 2 := by
      rw [hn]
      rfl
    have htwo := hcalled.two_le_length
    rw [List.length_take] at htwo
    apply Nat.le_of_not_lt
    intro hlt
    cases cs with
    | nil =>
        simp only [List.sum_cons, List.sum_nil, List.map_cons] at hsum
        lia
    | cons c₂ cs =>
        cases ns with
        | nil =>
            have hnone : serveData allocates
                ((emptyFrame.encode.drop c).take c₂) = none :=
              serveData_emptyFrame hallocates (by lia) (by lia)
                (hpos c₂ (List.mem_cons_self ..))
            have hempty := h [emptyFrame]
              (congrArg (fun n => [n]) (Fin.ext hn.symm))
            rw [stream_cons, stream, List.map_nil, List.flatten_nil,
              List.append_nil] at hempty
            rcases websocketServe_cons hempty with ⟨_, hbehind⟩
            rw [cut, List.map_cons, websocketServe, hnone] at hbehind
            cases hbehind
        | cons n₂ ns =>
            rcases websocketServe_cons hrest with ⟨hsecond, _⟩
            rcases serveData_calls hsecond with ⟨_, _, _, hcalled₂⟩
            rw [drop_zeroStream_inside hlt] at hcalled₂
            exact not_called_behind (by lia) hlt hcalled₂
  · exact hcalled.frameLength_le hn (zeroFrame_called n)

theorem AllDelivered.le_frameLength
    (h : AllDelivered allocates (n :: ns) (c :: cs))
    (hsum : (c :: cs).sum =
      ((n :: ns).map (fun n => frameLength n.val)).sum) :
    c ≤ frameLength n.val := by
  rcases h.first with ⟨_, hrest⟩
  apply Nat.le_of_not_lt
  intro hlt
  cases ns with
  | nil =>
      simp only [List.sum_cons, List.map_cons, List.map_nil,
        List.sum_nil] at hsum
      lia
  | cons n₂ ns =>
      have hheader := headerLength_lt_frameLength n.val
      have hcount := length_le_headersBehind hrest
      have hbehind : c - frameLength n.val < headerLength n₂.val := by
        rw [List.length_map, headersBehind, if_neg (by lia), headersBehind,
          List.length_cons] at hcount
        split at hcount
        · assumption
        · have hle := headersBehind_le
            (c - frameLength n.val - frameLength n₂.val) ns
          lia
      cases cs with
      | nil => cases hrest
      | cons c₂ cs =>
          have hheader₂ := headerLength_lt_frameLength n₂.val
          rcases websocketServe_cons hrest with ⟨hsecond, _⟩
          rcases serveData_calls hsecond with ⟨_, _, _, hcalled⟩
          rw [drop_zeroStream_behind (Nat.le_of_lt hlt),
            drop_zeroStream_inside (by lia)] at hcalled
          exact payloadLength_ne (by lia) hbehind hcalled
            (zeroFrame_called n₂)

theorem AllDelivered.tail
    (h : AllDelivered allocates (n :: ns) (frameLength n.val :: cs)) :
    AllDelivered allocates ns cs := by
  intro frames hframes
  have hall := h (zeroFrame n :: frames) (by
    rw [List.map_cons, zeroFrame_length, hframes])
  rw [stream_cons, cut_cons_append (encode_zeroFrame_length n)] at hall
  exact (websocketServe_cons hall).2

theorem AllDelivered.segments_eq
    (hallocates : forall n, n ≤ 65536 -> allocates n = true)
    (h : AllDelivered allocates ns cs)
    (hpos : forall c, c ∈ cs -> 0 < c)
    (hsum : cs.sum = (ns.map (fun n => frameLength n.val)).sum) :
    cs = ns.map (fun n => frameLength n.val) := by
  induction ns generalizing cs with
  | nil =>
      cases cs with
      | nil => rfl
      | cons c cs =>
          have hc := hpos c (List.mem_cons_self ..)
          rw [List.sum_cons, List.map_nil, List.sum_nil] at hsum
          lia
  | cons n ns ih =>
      cases cs with
      | nil => cases h.zero
      | cons c cs =>
          have hpos' : forall c, c ∈ cs -> 0 < c := by
            intro c' hmem
            exact hpos c' (List.mem_cons_of_mem c hmem)
          have hc : c = frameLength n.val :=
            Nat.le_antisymm (h.le_frameLength hsum)
              (h.frameLength_le hallocates hpos' hsum)
          rw [hc] at h hsum
          rw [List.map_cons, List.sum_cons, List.sum_cons] at hsum
          rw [hc, List.map_cons,
            ih h.tail hpos' (Nat.add_left_cancel hsum)]

end Necessary

/-!
## Segmentation
-/

/-- The frames are delivered, whatever their keys and payloads, exactly when
every segment is one frame. -/
theorem Layout.delivered_iff_aligned {allocates : Nat -> Bool}
    (hallocates : forall n, n ≤ 65536 -> allocates n = true) (l : Layout) :
    l.Delivered allocates <-> l.Aligned := by
  constructor
  · intro h
    have hall : AllDelivered allocates l.payloads l.segments := by
      intro frames hframes
      exact delivers_iff.mp (h frames hframes)
    exact hall.segments_eq hallocates l.segment_pos l.sum_eq
  · intro h
    exact h.delivered hallocates

def twoSegments : Layout where
  payloads := [1, 300]
  segments := [7, 308]
  segment_pos := by decide
  sum_eq := rfl

theorem twoSegments_delivered : twoSegments.Delivered (fun _ => true) :=
  (Layout.delivered_iff_aligned (fun _ _ => rfl) twoSegments).mpr rfl

def splitFrame : Layout where
  payloads := [1]
  segments := [6, 1]
  segment_pos := by decide
  sum_eq := rfl

def twoFrames : Layout where
  payloads := [1, 1]
  segments := [14]
  segment_pos := by decide
  sum_eq := rfl

/-- Neither are all frames delivered that are cut, nor all that come
together. -/
theorem segmentation_shows :
    Not (splitFrame.Delivered (fun _ => true)) ∧
      Not (twoFrames.Delivered (fun _ => true)) := by
  constructor
  · intro h
    have hdelivers := delivers_iff.mp (h [zeroFrame 1] rfl)
    cases hdelivers
  · intro h
    have hdelivers := delivers_iff.mp (h [zeroFrame 1, zeroFrame 1] rfl)
    cases hdelivers

end WebSocket
end Fluxnode
