import Fluxnode.C.Memory
import Fluxnode.Foundation.Reads
import Fluxnode.WebSocket.Model

/-!
# A round of websocket_serve, read by read

`websocket_serve` is given a pointer to the segment and does not look at its
length.  Every byte that it takes from there is one read here, at an offset from
that pointer.  A write behind the end of an allocated buffer is remembered.
-/

namespace Fluxnode
namespace WebSocket

open C
open Foundation

abbrev SegmentReader (α : Type) := Reader Nat UInt8 α

def readAt (i : Nat) : SegmentReader UInt8 := Reader.cell i

/-- A buffer on the heap, and whether a byte was written outside. -/
structure HeapBuffer where
  cells : Block
  overrun : Bool
  deriving DecidableEq, Repr

namespace HeapBuffer

def alloc (n : Nat) : HeapBuffer where
  cells := List.replicate n none
  overrun := false

def write (p : HeapBuffer) (i : Nat) (b : UInt8) : HeapBuffer :=
  if i < p.cells.length then
    { p with cells := p.cells.set i (some b) }
  else
    { p with overrun := true }

def writeAll (p : HeapBuffer) (i : Nat) : List UInt8 -> HeapBuffer
  | [] => p
  | b :: bytes => (p.write i b).writeAll (i + 1) bytes

def terminated (bytes : List UInt8) : HeapBuffer where
  cells := bytes.map some ++ [some 0]
  overrun := false

theorem length_write (p : HeapBuffer) (i : Nat) (b : UInt8) :
    (p.write i b).cells.length = p.cells.length := by
  unfold write
  split
  · exact List.length_set
  · rfl

theorem overrun_write {p : HeapBuffer} {i : Nat} (b : UInt8)
    (hlt : i < p.cells.length) : (p.write i b).overrun = p.overrun := by
  rw [write, if_pos hlt]

theorem overrun_writeAll {p : HeapBuffer} {i : Nat} {bytes : List UInt8}
    (hfits : i + bytes.length ≤ p.cells.length) :
    (p.writeAll i bytes).overrun = p.overrun := by
  induction bytes generalizing p i with
  | nil => rfl
  | cons b bytes ih =>
      rw [List.length_cons] at hfits
      rw [writeAll, ih (by rw [length_write]; lia),
        overrun_write b (by lia)]

theorem writeAll_cells (front : Block) (bytes : List UInt8) (rest : Block)
    (overrun : Bool) :
    writeAll
        { cells := front ++ (List.replicate bytes.length none ++ rest)
          overrun := overrun } front.length bytes =
      { cells := front ++ (bytes.map some ++ rest), overrun := overrun } := by
  induction bytes generalizing front with
  | nil => rfl
  | cons b bytes ih =>
      have hlt : front.length <
          (front ++
            (List.replicate (bytes.length + 1) none ++ rest)).length := by
        rw [List.length_append, List.length_append, List.length_replicate]
        lia
      rw [writeAll, List.length_cons, write, if_pos hlt]
      have hset : (front ++ (List.replicate (bytes.length + 1) none ++
          rest)).set front.length (some b) =
          (front ++ [some b]) ++
            (List.replicate bytes.length none ++ rest) := by
        rw [List.set_append_right _ _ (Nat.le_refl _), Nat.sub_self,
          List.replicate_succ]
        simp
      have hlength : front.length + 1 = (front ++ [some b]).length := by simp
      rw [hset, hlength, ih]
      simp

end HeapBuffer

/-!
## The round
-/

def copyBytes (source : Nat -> SegmentReader UInt8) :
    Nat -> Nat -> HeapBuffer -> SegmentReader HeapBuffer
  | 0, _, p => pure p
  | n + 1, i, p => do
      let b ← source i
      copyBytes source n (i + 1) (p.write i b)

def unmaskedByte (mask i : Nat) : SegmentReader UInt8 := do
  let c ← readAt (mask + 4 + i)
  let m ← readAt (mask + i % 4)
  return c ^^^ m

/-- `payload_len`, and the offset of `mask`. -/
def segmentPayloadLen (b₁ : UInt8) : SegmentReader (Nat × Nat) :=
  if b₁.toNat % 128 = 127 then do
    let b₂ ← readAt 2
    let b₃ ← readAt 3
    let b₄ ← readAt 4
    let b₅ ← readAt 5
    return (((b₂.toNat * 256 + b₃.toNat) * 256 + b₄.toNat) * 256 + b₅.toNat, 6)
  else if b₁.toNat % 128 = 126 then do
    let b₂ ← readAt 2
    let b₃ ← readAt 3
    return (b₂.toNat * 256 + b₃.toNat, 4)
  else
    return (b₁.toNat % 128, 2)

/-- The payload, from the loop over the masked bytes or by `memcpy`. -/
def segmentPayload (b₁ : UInt8) (mask n : Nat) (p : HeapBuffer) :
    SegmentReader HeapBuffer :=
  if b₁.toNat / 128 = 1 then
    copyBytes (unmaskedByte mask) n 0 p
  else
    copyBytes (fun i => readAt (mask + i)) n 0 p

inductive Round where
  | leaves
  | calls (payloadLength : Nat) (payload : HeapBuffer)
  deriving DecidableEq, Repr

def serveSegment (allocates : Nat -> Bool) : SegmentReader Round := do
  let b₀ ← readAt 0
  if b₀.toNat % 16 = wsOpClose then
    return .leaves
  else do
    let b₁ ← readAt 1
    let (n, mask) ← segmentPayloadLen b₁
    let size := (n + 1) % 2 ^ 32
    if allocates size then do
      let payload ← segmentPayload b₁ mask n (.alloc size)
      -- terminate string
      let payload := payload.write n 0
      if b₀.toNat % 16 = wsOpText then
        return .calls n payload
      else
        return .leaves
    else
      return .leaves

/-!
## The same round over a list of bytes
-/

def bytesOf (buf : List UInt8) (i : Nat) : Option UInt8 := buf[i]?

theorem bytesOf_isSome {buf : List UInt8} {i : Nat} :
    (bytesOf buf i).isSome = true <-> i < buf.length := by
  rw [bytesOf, isSome_getElem?]

def storedPayload (n : Nat) (bytes : List UInt8) : HeapBuffer :=
  ((HeapBuffer.alloc ((n + 1) % 2 ^ 32)).writeAll 0 bytes).write n 0

def Served.round : Served -> Round
  | .leaves => .leaves
  | .calls frame =>
      .calls frame.payloadLength
        (storedPayload frame.payloadLength frame.payload)

@[simp] theorem resultIn_readAt (buf : List UInt8) (i : Nat) :
    Reader.resultIn (bytesOf buf) (readAt i) = buf[i]? :=
  Reader.resultIn_cell _ _

@[simp] theorem resultIn_unmaskedByte (buf : List UInt8) (mask i : Nat) :
    Reader.resultIn (bytesOf buf) (unmaskedByte mask i) =
      buf[mask + 4 + i]?.bind (fun c =>
        buf[mask + i % 4]?.bind (fun m => some (c ^^^ m))) := by
  simp only [unmaskedByte, Program.bind_eq, Program.pure_eq,
    Reader.resultIn_bind, resultIn_readAt, Reader.resultIn_done]

theorem resultIn_copyBytes (part : Nat -> Option UInt8)
    (source : Nat -> SegmentReader UInt8) (n i : Nat) (p : HeapBuffer) :
    Reader.resultIn part (copyBytes source (n + 1) i p) =
      (Reader.resultIn part (source i)).bind (fun b =>
        Reader.resultIn part (copyBytes source n (i + 1) (p.write i b))) := by
  rw [copyBytes, Program.bind_eq, Reader.resultIn_bind]

theorem resultIn_unmaskedBytes (buf : List UInt8) (mask n i : Nat)
    (p : HeapBuffer) :
    Reader.resultIn (bytesOf buf) (copyBytes (unmaskedByte mask) n i p) =
      (unmask buf mask n i).map (p.writeAll i) := by
  induction n generalizing i p with
  | zero => rfl
  | succ n ih =>
      rw [resultIn_copyBytes, resultIn_unmaskedByte, unmask]
      cases buf[mask + 4 + i]? with
      | none => rfl
      | some c =>
          cases buf[mask + i % 4]? with
          | none => rfl
          | some m =>
              simp only [Option.bind_some, ih, Option.bind_eq_bind,
                Option.pure_def]
              cases unmask buf mask n (i + 1) <;> rfl

theorem copyPayload_succ {buf : List UInt8} {mask n : Nat} :
    copyPayload buf mask (n + 1) =
      buf[mask]?.bind (fun b =>
        (copyPayload buf (mask + 1) n).map (b :: ·)) := by
  by_cases hmask : mask < buf.length
  · rw [List.getElem?_eq_getElem hmask, Option.bind_some, copyPayload,
      copyPayload]
    by_cases hfits : mask + 1 + n ≤ buf.length
    · rw [if_pos (by lia), if_pos hfits, Option.map_some,
        List.drop_eq_getElem_cons hmask, List.take_succ_cons]
    · rw [if_neg (by lia), if_neg hfits, Option.map_none]
  · rw [List.getElem?_eq_none (Nat.le_of_not_lt hmask), Option.bind_none,
      copyPayload, if_neg (by lia)]

/-- Nothing is read when nothing is to be copied, so `mask` itself has to be
inside the segment. -/
theorem resultIn_copiedBytes (buf : List UInt8) (mask n i : Nat)
    (p : HeapBuffer) (hmask : mask + i ≤ buf.length) :
    Reader.resultIn (bytesOf buf)
        (copyBytes (fun i => readAt (mask + i)) n i p) =
      (copyPayload buf (mask + i) n).map (p.writeAll i) := by
  induction n generalizing i p with
  | zero =>
      rw [copyPayload, Nat.add_zero, if_pos hmask]
      rfl
  | succ n ih =>
      rw [resultIn_copyBytes, resultIn_readAt, copyPayload_succ]
      cases hbyte : buf[mask + i]? with
      | none => rfl
      | some b =>
          rcases List.getElem?_eq_some_iff.mp hbyte with ⟨hlt, _⟩
          rw [Option.bind_some, Option.bind_some, ih (i + 1) _ (by lia),
            Nat.add_assoc, Option.map_map]
          rfl

theorem resultIn_segmentPayloadLen (buf : List UInt8) (b₁ : UInt8) :
    Reader.resultIn (bytesOf buf) (segmentPayloadLen b₁) =
      payloadLen buf b₁ := by
  unfold segmentPayloadLen payloadLen
  split
  · simp only [readLen32, Program.bind_eq, Program.pure_eq,
      Reader.resultIn_bind, resultIn_readAt, Reader.resultIn_done,
      Option.bind_eq_bind, Option.pure_def, Option.map_bind,
      Function.comp_def, Option.map_some]
  · split
    · simp only [readLen16, Program.bind_eq, Program.pure_eq,
        Reader.resultIn_bind, resultIn_readAt, Reader.resultIn_done,
        Option.bind_eq_bind, Option.pure_def, Option.map_bind,
        Function.comp_def, Option.map_some]
    · rfl

theorem mask_le_length {buf : List UInt8} {b₁ : UInt8} {n mask : Nat}
    (hsecond : buf[1]? = some b₁) (h : payloadLen buf b₁ = some (n, mask)) :
    mask ≤ buf.length := by
  unfold payloadLen at h
  split at h
  · simp only [readLen32, Option.bind_eq_bind, Option.pure_def,
      Option.map_eq_some_iff, Option.bind_eq_some_iff] at h
    rcases h with ⟨_, ⟨_, _, _, _, _, _, b₅, h₅, _⟩, hpair⟩
    rcases List.getElem?_eq_some_iff.mp h₅ with ⟨hlt, _⟩
    cases hpair
    exact hlt
  · split at h
    · simp only [readLen16, Option.bind_eq_bind, Option.pure_def,
        Option.map_eq_some_iff, Option.bind_eq_some_iff] at h
      rcases h with ⟨_, ⟨_, _, b₃, h₃, _⟩, hpair⟩
      rcases List.getElem?_eq_some_iff.mp h₃ with ⟨hlt, _⟩
      cases hpair
      exact hlt
    · rcases List.getElem?_eq_some_iff.mp hsecond with ⟨hlt, _⟩
      cases h
      exact hlt

theorem resultIn_segmentPayload {buf : List UInt8} {b₁ : UInt8} {mask : Nat}
    (n : Nat) (p : HeapBuffer) (hmask : mask ≤ buf.length) :
    Reader.resultIn (bytesOf buf) (segmentPayload b₁ mask n p) =
      (readPayload buf b₁ mask n).map (p.writeAll 0) := by
  unfold segmentPayload readPayload
  split
  · exact resultIn_unmaskedBytes buf mask n 0 p
  · exact resultIn_copiedBytes buf mask n 0 p hmask

theorem resultIn_serveSegment (allocates : Nat -> Bool) (buf : List UInt8) :
    Reader.resultIn (bytesOf buf) (serveSegment allocates) =
      (serveData allocates buf).map Served.round := by
  simp only [serveSegment, serveData, Program.bind_eq, Program.pure_eq,
    Option.bind_eq_bind, Option.pure_def, Reader.resultIn_bind,
    resultIn_readAt]
  cases buf[0]? with
  | none => rfl
  | some b₀ =>
      rw [Option.bind_some, Option.bind_some]
      split
      · rfl
      · rw [Reader.resultIn_bind, resultIn_readAt]
        cases hsecond : buf[1]? with
        | none => rfl
        | some b₁ =>
            rw [Option.bind_some, Option.bind_some, Reader.resultIn_bind,
              resultIn_segmentPayloadLen]
            cases hlen : payloadLen buf b₁ with
            | none => rfl
            | some r =>
                rcases r with ⟨n, mask⟩
                have hmask := mask_le_length hsecond hlen
                rw [Option.bind_some, Option.bind_some]
                split
                · rw [Reader.resultIn_bind, resultIn_segmentPayload n _ hmask]
                  cases readPayload buf b₁ mask n with
                  | none => rfl
                  | some bytes =>
                      rw [Option.map_some, Option.bind_some, Option.bind_some]
                      split <;> rfl
                · rfl

/-- As long as the size does not wrap, the callback is given the payload and the
terminator. -/
theorem storedPayload_eq {bytes : List UInt8}
    (hsize : bytes.length + 1 < 2 ^ 32) :
    storedPayload bytes.length bytes = HeapBuffer.terminated bytes := by
  have hcells := HeapBuffer.writeAll_cells [] bytes [none] false
  simp only [List.nil_append, List.length_nil] at hcells
  rw [storedPayload, Nat.mod_eq_of_lt hsize, HeapBuffer.alloc,
    List.replicate_succ', hcells]
  simp [HeapBuffer.write, HeapBuffer.terminated]

end WebSocket
end Fluxnode
