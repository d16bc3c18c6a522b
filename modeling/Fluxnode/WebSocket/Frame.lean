import Mathlib.Data.List.Basic
import Mathlib.Data.UInt
import Fluxnode.WebSocket.Model

/-!
# Text frames

The masked final text frames of a client, with a payload of at most 65535 bytes,
and what the server does with one that is in a buffer of its own.
-/

namespace Fluxnode
namespace WebSocket

/-- The length of a payload that fits the short or the 16-bit length field. -/
abbrev PayloadLength := Fin 65536

structure TextFrame where
  key : List UInt8
  payload : List UInt8
  key_length : key.length = 4
  payload_lt : payload.length < 65536
  deriving DecidableEq, Repr

def TextFrame.length (f : TextFrame) : PayloadLength :=
  ⟨f.payload.length, f.payload_lt⟩

/-- FIN, the opcode of text, the mask bit, and the shortest length field. -/
def header (n : Nat) : List UInt8 :=
  if n ≤ 125 then
    [0x81, UInt8.ofNat (128 + n)]
  else
    [0x81, 0xfe, UInt8.ofNat (n / 256), UInt8.ofNat (n % 256)]

def headerLength (n : Nat) : Nat :=
  if n ≤ 125 then 2 else 4

def frameLength (n : Nat) : Nat :=
  headerLength n + (4 + n)

def masked (key payload : List UInt8) : List UInt8 :=
  payload.mapIdx (fun i b => b ^^^ key.getD (i % 4) 0)

def TextFrame.encode (f : TextFrame) : List UInt8 :=
  header f.payload.length ++ (f.key ++ masked f.key f.payload)

def TextFrame.called (f : TextFrame) : WebsocketFrame where
  payloadLength := f.payload.length
  payload := f.payload

def stream (frames : List TextFrame) : List UInt8 :=
  (frames.map TextFrame.encode).flatten

theorem stream_cons (f : TextFrame) (frames : List TextFrame) :
    stream (f :: frames) = f.encode ++ stream frames := rfl

/-!
## The header
-/

def headerBytes (isMasked : Bool) (n : Nat) : List UInt8 :=
  let maskBit := if isMasked then 128 else 0
  if n ≤ 125 then
    [0x81, UInt8.ofNat (maskBit + n)]
  else
    [0x81, UInt8.ofNat (maskBit + 126), UInt8.ofNat (n / 256),
      UInt8.ofNat (n % 256)]

theorem header_eq (n : Nat) : header n = headerBytes true n := rfl

theorem headerBytes_length (isMasked : Bool) (n : Nat) :
    (headerBytes isMasked n).length = headerLength n := by
  unfold headerBytes headerLength
  dsimp only
  split <;> rfl

theorem headerBytes_first (isMasked : Bool) (n : Nat) (rest : List UInt8) :
    (headerBytes isMasked n ++ rest)[0]? = some 0x81 := by
  unfold headerBytes
  dsimp only
  split <;> rfl

theorem lengthByte_fields (isMasked : Bool) {k : Nat} (hk : k < 128) :
    ((UInt8.ofNat ((if isMasked then 128 else 0) + k)).toNat / 128 = 1 <->
      isMasked = true) ∧
    (UInt8.ofNat ((if isMasked then 128 else 0) + k)).toNat % 128 = k := by
  have hb : (UInt8.ofNat ((if isMasked then 128 else 0) + k)).toNat =
      (if isMasked then 128 else 0) + k := by
    apply UInt8.toNat_ofNat_of_lt'
    change _ < 256
    split <;> lia
  rw [hb]
  cases isMasked with
  | false =>
      simp only [Bool.false_eq_true, if_false, iff_false]
      lia
  | true =>
      simp only [if_true, iff_true]
      lia

theorem headerBytes_second (isMasked : Bool) {n : Nat} (rest : List UInt8) :
    exists b₁ : UInt8, (headerBytes isMasked n ++ rest)[1]? = some b₁ ∧
      (b₁.toNat / 128 = 1 <-> isMasked = true) ∧
      b₁.toNat % 128 = if n ≤ 125 then n else 126 := by
  unfold headerBytes
  dsimp only
  split
  · exact ⟨_, rfl, lengthByte_fields isMasked (by lia)⟩
  · exact ⟨_, rfl, lengthByte_fields isMasked (by lia)⟩

theorem toNat_lengthBytes {n : Nat} (hn : n < 65536) :
    (UInt8.ofNat (n / 256)).toNat * 256 + (UInt8.ofNat (n % 256)).toNat =
      n := by
  have hhigh : (UInt8.ofNat (n / 256)).toNat = n / 256 :=
    UInt8.toNat_ofNat_of_lt' (show n / 256 < 256 by lia)
  have hlow : (UInt8.ofNat (n % 256)).toNat = n % 256 :=
    UInt8.toNat_ofNat_of_lt' (show n % 256 < 256 by lia)
  rw [hhigh, hlow]
  lia

theorem payloadLen_headerBytes {isMasked : Bool} {n : Nat} (hn : n < 65536)
    {b₁ : UInt8} {rest : List UInt8}
    (hb : (headerBytes isMasked n ++ rest)[1]? = some b₁) :
    payloadLen (headerBytes isMasked n ++ rest) b₁ =
      some (n, headerLength n) := by
  rcases headerBytes_second isMasked rest with ⟨b, hb', _, hlen⟩
  rw [hb] at hb'
  cases hb'
  unfold payloadLen headerLength
  split at hlen
  · rename_i hshort
    rw [hlen, if_neg (by lia), if_neg (by lia), if_pos hshort]
  · rename_i hlong
    have hread : readLen16 (headerBytes isMasked n ++ rest) = some n := by
      rw [headerBytes, if_neg hlong]
      simp only [readLen16, List.cons_append, List.getElem?_cons_succ,
        List.getElem?_cons_zero, Option.bind_eq_bind, Option.bind_some,
        Option.pure_def, toNat_lengthBytes hn]
    rw [hlen, if_neg (by decide), if_pos rfl, if_neg hlong, hread]
    rfl

/-!
## Lengths
-/

theorem header_length (n : Nat) : (header n).length = headerLength n :=
  headerBytes_length true n

theorem masked_length (key payload : List UInt8) :
    (masked key payload).length = payload.length := by
  rw [masked, List.length_mapIdx]

theorem TextFrame.encode_length (f : TextFrame) :
    f.encode.length = frameLength f.payload.length := by
  rw [encode, List.length_append, List.length_append, header_length,
    masked_length, f.key_length, frameLength]

theorem two_le_headerLength (n : Nat) : 2 ≤ headerLength n := by
  unfold headerLength
  split <;> lia

theorem headerLength_lt_frameLength (n : Nat) :
    headerLength n + 4 ≤ frameLength n := by
  unfold frameLength
  lia

/-!
## One frame in one buffer
-/

theorem unmask_masked {buf payload : List UInt8} {mask : Nat}
    (key : List UInt8)
    (hkey : forall k, k < 4 -> buf[mask + k]? = some (key.getD k 0))
    (hbytes : forall i, i < payload.length ->
      buf[mask + 4 + i]? = (masked key payload)[i]?)
    (n i : Nat) (hn : i + n = payload.length) :
    unmask buf mask n i = some (payload.drop i) := by
  induction n generalizing i with
  | zero =>
      rw [unmask, List.drop_eq_nil_of_le (by lia)]
  | succ n ih =>
      have hi : i < payload.length := by lia
      have hbyte := hbytes i hi
      rw [masked, List.getElem?_mapIdx, List.getElem?_eq_getElem hi,
        Option.map_some] at hbyte
      rw [unmask, hbyte, hkey (i % 4) (Nat.mod_lt i (by lia)),
        ih (i + 1) (by lia), List.drop_eq_getElem_cons hi]
      simp only [Option.bind_eq_bind, Option.bind_some, Option.pure_def,
        UInt8.xor_assoc, UInt8.xor_self, UInt8.xor_zero]

theorem TextFrame.unmask_encode (f : TextFrame) :
    unmask f.encode (headerLength f.payload.length) f.payload.length 0 =
      some f.payload := by
  have hheader := header_length f.payload.length
  refine unmask_masked f.key ?_ ?_ f.payload.length 0 (Nat.zero_add _)
  · intro k hk
    have hlt : k < f.key.length := by
      rw [f.key_length]
      exact hk
    rw [encode, List.getElem?_append_right (by lia), hheader,
      Nat.add_sub_cancel_left, List.getElem?_append_left hlt,
      List.getD_eq_getElem?_getD, List.getElem?_eq_getElem hlt]
    rfl
  · intro i _
    rw [encode, List.getElem?_append_right (by lia), hheader, Nat.add_assoc,
      Nat.add_sub_cancel_left, List.getElem?_append_right
        (by rw [f.key_length]; lia), f.key_length, Nat.add_sub_cancel_left]

theorem TextFrame.encode_eq (f : TextFrame) :
    f.encode = headerBytes true f.payload.length ++
      (f.key ++ masked f.key f.payload) := rfl

theorem TextFrame.called_encode (f : TextFrame) :
    exists b₁, Called f.encode f.called 0x81 b₁
      (headerLength f.payload.length) := by
  rcases @headerBytes_second true f.payload.length
      (f.key ++ masked f.key f.payload) with ⟨b₁, hsecond, hmask, _⟩
  have hlen := payloadLen_headerBytes f.payload_lt hsecond
  have hfirst := headerBytes_first true f.payload.length
    (f.key ++ masked f.key f.payload)
  rw [← f.encode_eq] at hfirst hsecond hlen
  refine ⟨b₁, hfirst, hsecond, rfl, hlen, ?_⟩
  rw [readPayload, if_pos (hmask.mpr rfl)]
  exact f.unmask_encode

theorem TextFrame.serveData_encode {allocates : Nat -> Bool}
    (hallocates : forall n, n ≤ 65536 -> allocates n = true) (f : TextFrame) :
    serveData allocates f.encode = some (.calls f.called) := by
  have hlt := f.payload_lt
  have hsize : allocates ((f.called.payloadLength + 1) % 2 ^ 32) = true := by
    apply hallocates _
    rw [TextFrame.called, Nat.mod_eq_of_lt (by lia)]
    lia
  rcases f.called_encode with ⟨b₁, hcalled⟩
  rw [hcalled.serveData, if_pos hsize]

/-!
## Decoding a header
-/

structure FrameHeader where
  fin : Bool
  reserved : Nat
  opcode : Nat
  masked : Bool
  payloadLength : Nat
  deriving DecidableEq, Repr

def bigEndian (bytes : List UInt8) : Nat :=
  bytes.foldl (fun n b => n * 256 + b.toNat) 0

/-- A length of so many bytes that is not below the first value it is for. -/
def decodeExtended (width first : Nat) (bytes : List UInt8) :
    Option (Nat × List UInt8) :=
  if width ≤ bytes.length ∧ first ≤ bigEndian (bytes.take width) then
    some (bigEndian (bytes.take width), bytes.drop width)
  else
    none

/-- The length, in the 7-bit form, the 16-bit form or the 64-bit form, of which
the shortest that fits is to be used. -/
def decodeLength (field : Nat) (bytes : List UInt8) :
    Option (Nat × List UInt8) :=
  if field = 127 then
    decodeExtended 8 65536 bytes
  else if field = 126 then
    decodeExtended 2 126 bytes
  else
    some (field, bytes)

/-- A frame header as RFC 6455 has it, and the bytes behind it. -/
def decodeHeader : List UInt8 -> Option (FrameHeader × List UInt8)
  | b₀ :: b₁ :: bytes => do
      let (n, rest) ← decodeLength (b₁.toNat % 128) bytes
      return ({ fin := b₀.toNat / 128 = 1
                reserved := b₀.toNat / 16 % 8
                opcode := b₀.toNat % 16
                masked := b₁.toNat / 128 = 1
                payloadLength := n }, rest)
  | _ => none

def textHeader (isMasked : Bool) (length : Nat) : FrameHeader where
  fin := true
  reserved := 0
  opcode := wsOpText
  masked := isMasked
  payloadLength := length

theorem decodeLength_extended {n : Nat} (hlong : ¬ n ≤ 125) (hn : n < 65536)
    (rest : List UInt8) :
    decodeLength 126
        (UInt8.ofNat (n / 256) :: UInt8.ofNat (n % 256) :: rest) =
      some (n, rest) := by
  have hvalue : bigEndian [UInt8.ofNat (n / 256), UInt8.ofNat (n % 256)] =
      n := by
    simp only [bigEndian, List.foldl_cons, List.foldl_nil, Nat.zero_mul,
      Nat.zero_add, toNat_lengthBytes hn]
  have hfits : 2 ≤ (UInt8.ofNat (n / 256) :: UInt8.ofNat (n % 256) ::
      rest).length := by
    simp only [List.length_cons]
    lia
  have htake : (UInt8.ofNat (n / 256) :: UInt8.ofNat (n % 256) ::
      rest).take 2 = [UInt8.ofNat (n / 256), UInt8.ofNat (n % 256)] := rfl
  rw [decodeLength, if_neg (by decide), if_pos rfl, decodeExtended, htake,
    hvalue, if_pos ⟨hfits, by lia⟩]
  rfl

theorem decodeHeader_headerBytes (isMasked : Bool) {n : Nat} (hn : n < 65536)
    (rest : List UInt8) :
    decodeHeader (headerBytes isMasked n ++ rest) =
      some (textHeader isMasked n, rest) := by
  by_cases hshort : n ≤ 125
  · rcases @lengthByte_fields isMasked n (by lia) with ⟨hmask, hfield⟩
    have hlength : decodeLength n rest = some (n, rest) := by
      rw [decodeLength, if_neg (by lia), if_neg (by lia)]
    rw [headerBytes, if_pos hshort]
    simp only [List.cons_append, List.nil_append, decodeHeader, hfield,
      hlength, hmask]
    simp [textHeader, wsOpText]
  · rcases @lengthByte_fields isMasked 126 (by lia) with ⟨hmask, hfield⟩
    rw [headerBytes, if_neg hshort]
    simp only [List.cons_append, List.nil_append, decodeHeader, hfield,
      decodeLength_extended hshort hn, hmask]
    simp [textHeader, wsOpText]

end WebSocket
end Fluxnode
