import Fluxnode.WebSocket.Segment
import Fluxnode.WebSocket.Server

/-!
# The request in websocket_handshake, read by read

The search for the key header and the copy of the key, up to where the buffer of
the request is given back.  The search ends at the first match or at a
terminator, wherever in memory this is; it has no result when there is neither
up to the end of the address space.
-/

namespace Fluxnode
namespace WebSocket

open C
open Foundation

def matchesAt : List UInt8 -> Nat -> SegmentReader Bool
  | [], _ => pure true
  | c :: needle, p => do
      let b ← readAt p
      if b = c then matchesAt needle (p + 1) else return false

/-- `strstr`, from offset `p` on, with so many bytes to go. -/
def strstrAt (needle : List UInt8) :
    Nat -> Nat -> SegmentReader (Option (Option Nat))
  | 0, _ => pure none
  | n + 1, p => do
      if ← matchesAt needle p then
        return some (some p)
      else do
        let b ← readAt p
        if b = 0 then return some none else strstrAt needle n (p + 1)

/-- The loop over the key at offset `key`, from index `i` on, with at most `n`
bytes to go: `hs_len`, and the buffer. -/
def copyKeyAt (key : Nat) :
    Nat -> Nat -> HeapBuffer -> SegmentReader (Nat × HeapBuffer)
  | 0, i, p => pure (i, p)
  | n + 1, i, p => do
      let c ← readAt (key + i)
      if c = 13 ∨ c = 10 then
        return (i, p)
      else
        copyKeyAt key n (i + 1) (p.write i c)

inductive Request where
  /-- The search does not end. -/
  | unending
  | withoutKey
  | noMemory
  /-- `handshake`, with the key and `websocket_sec_con_key` in it. -/
  | keyed (handshake : HeapBuffer)
  deriving DecidableEq, Repr

def handshakeSize : Nat := websocketSecConKey.length + 1 + keyDigestSizeMax

def addressSpace : Nat := 2 ^ 32

/-- `websocket_handshake` from the search to the `netbuf_delete` behind it. -/
def readRequest (allocates : Nat -> Bool) : SegmentReader Request := do
  match ← strstrAt websocketSecKey addressSpace 0 with
  | none => return .unending
  | some none => return .withoutKey
  | some (some seckey) =>
      if allocates handshakeSize then do
        let (hsLen, handshake) ← copyKeyAt
          (seckey + (websocketSecKey.length + 1)) keyDigestSizeMax 0
          (.alloc handshakeSize)
        return .keyed (handshake.writeAll hsLen (websocketSecConKey ++ [0]))
      else
        return .noMemory

/-!
## The same over a list of bytes
-/

theorem resultIn_copyKeyAt (buf : List UInt8) (key n i : Nat)
    (p : HeapBuffer) :
    Reader.resultIn (bytesOf buf) (copyKeyAt key n i p) =
      (copyKey n (buf.drop (key + i))).map
        (fun bytes => (i + bytes.length, p.writeAll i bytes)) := by
  induction n generalizing i p with
  | zero => rfl
  | succ n ih =>
      rw [copyKeyAt, Program.bind_eq, Reader.resultIn_bind, resultIn_readAt]
      by_cases hlt : key + i < buf.length
      · rw [List.getElem?_eq_getElem hlt, Option.bind_some,
          List.drop_eq_getElem_cons hlt, copyKey]
        split
        · rfl
        · rw [ih, Nat.add_assoc, Option.map_map]
          cases copyKey n (buf.drop (key + (i + 1))) with
          | none => rfl
          | some bytes =>
              simp only [Option.map_some, Function.comp_apply,
                List.length_cons, HeapBuffer.writeAll, Option.some.injEq,
                Prod.mk.injEq, and_true]
              lia
      · rw [List.getElem?_eq_none (Nat.le_of_not_lt hlt),
          List.drop_eq_nil_of_le (Nat.le_of_not_lt hlt)]
        rfl

theorem resultIn_matchesAt (buf needle : List UInt8) (p : Nat) :
    Reader.resultIn (bytesOf buf) (matchesAt needle p) =
      if needle <+: buf.drop p then some true
      else if buf.drop p <+: needle then none
      else some false := by
  induction needle generalizing p with
  | nil =>
      rw [if_pos List.nil_prefix]
      rfl
  | cons c needle ih =>
      rw [matchesAt, Program.bind_eq, Reader.resultIn_bind, resultIn_readAt]
      by_cases hlt : p < buf.length
      · rw [List.getElem?_eq_getElem hlt, Option.bind_some,
          List.drop_eq_getElem_cons hlt]
        by_cases hb : buf[p] = c
        · rw [if_pos hb, ih]
          simp only [List.cons_prefix_cons, hb, true_and]
        · have hc : ¬ c = buf[p] := fun h => hb h.symm
          rw [if_neg hb]
          simp only [List.cons_prefix_cons, hb, hc, false_and, if_false]
          rfl
      · rw [List.getElem?_eq_none (Nat.le_of_not_lt hlt),
          List.drop_eq_nil_of_le (Nat.le_of_not_lt hlt),
          if_neg (by simp), if_pos List.nil_prefix]
        rfl

theorem strstr_of_short {needle bytes : List UInt8}
    (hshort : bytes.length < needle.length) (hzero : (0 : UInt8) ∉ bytes) :
    strstr needle bytes = none := by
  induction bytes with
  | nil => rfl
  | cons c bytes ih =>
      rw [List.mem_cons, not_or] at hzero
      have hnot : ¬ needle.isPrefixOf (c :: bytes) = true := by
        rw [List.isPrefixOf_iff_prefix]
        intro hstarts
        exact absurd hstarts.length_le (Nat.not_le.mpr hshort)
      rw [strstr, if_neg hnot, if_neg (Ne.symm hzero.1),
        ih (Nat.lt_of_succ_lt hshort) hzero.2]
      rfl

theorem strstr_of_proper {needle bytes : List UInt8}
    (hneedle : (0 : UInt8) ∉ needle) (hnot : ¬ needle <+: bytes)
    (hshort : bytes <+: needle) : strstr needle bytes = none := by
  have hlength : bytes.length < needle.length := by
    apply Nat.lt_of_le_of_ne hshort.length_le
    intro heq
    rw [hshort.eq_of_length heq] at hnot
    exact hnot (List.prefix_refl needle)
  have hzero : (0 : UInt8) ∉ bytes :=
    fun hmem => hneedle (hshort.subset hmem)
  exact strstr_of_short hlength hzero

theorem strstr_of_starts {needle bytes : List UInt8} (hne : needle ≠ [])
    (hstarts : needle <+: bytes) : strstr needle bytes = some (some 0) := by
  cases bytes with
  | nil =>
      rw [List.prefix_nil] at hstarts
      exact absurd hstarts hne
  | cons c rest =>
      rw [← List.isPrefixOf_iff_prefix] at hstarts
      rw [strstr, if_pos hstarts]

theorem resultIn_strstrAt {buf needle : List UInt8} (hne : needle ≠ [])
    (hneedle : (0 : UInt8) ∉ needle) {n p : Nat} (hp : p ≤ buf.length)
    (hn : buf.length < n + p) :
    Reader.resultIn (bytesOf buf) (strstrAt needle n p) =
      (strstr needle (buf.drop p)).map (fun found =>
        some (found.map (p + ·))) := by
  induction n generalizing p with
  | zero => exact absurd hp (by lia)
  | succ n ih =>
      rw [strstrAt, Program.bind_eq, Reader.resultIn_bind, resultIn_matchesAt]
      by_cases hmatch : needle <+: buf.drop p
      · rw [if_pos hmatch, strstr_of_starts hne hmatch]
        rfl
      · rw [if_neg hmatch]
        by_cases hshort : buf.drop p <+: needle
        · -- the comparison runs out of bytes: so does the search
          rw [if_pos hshort, strstr_of_proper hneedle hmatch hshort]
          rfl
        · have hlt : p < buf.length := by
            apply Nat.lt_of_le_of_ne hp
            intro heq
            rw [heq, List.drop_length] at hshort
            exact hshort List.nil_prefix
          rw [List.drop_eq_getElem_cons hlt,
            ← List.isPrefixOf_iff_prefix] at hmatch
          rw [if_neg hshort, Option.bind_some, List.drop_eq_getElem_cons hlt,
            strstr, if_neg hmatch, if_neg Bool.false_ne_true,
            Program.bind_eq, Reader.resultIn_bind, resultIn_readAt,
            List.getElem?_eq_getElem hlt, Option.bind_some]
          split
          · rfl
          · rw [ih hlt (by lia), Option.map_map]
            cases strstr needle (buf.drop (p + 1)) with
            | none => rfl
            | some found =>
                cases found with
                | none => rfl
                | some k =>
                    simp only [Option.map_some, Function.comp_apply,
                      Option.some.injEq]
                    lia

theorem websocketSecKey_ne_nil : websocketSecKey ≠ [] := by decide

theorem zero_not_mem_websocketSecKey : (0 : UInt8) ∉ websocketSecKey := by
  decide

def handshakeOf (key : List UInt8) : HeapBuffer :=
  ((HeapBuffer.alloc handshakeSize).writeAll 0 key).writeAll key.length
    (websocketSecConKey ++ [0])

theorem resultIn_readRequest (allocates : Nat -> Bool) {buf : List UInt8}
    (hlength : buf.length < addressSpace) :
    Reader.resultIn (bytesOf buf) (readRequest allocates) =
      (strstr websocketSecKey buf).bind (fun found =>
        match found with
        | none => some .withoutKey
        | some seckey =>
            if allocates handshakeSize then
              (copyKey keyDigestSizeMax
                (buf.drop (seckey + (websocketSecKey.length + 1)))).map
                  (fun key => .keyed (handshakeOf key))
            else
              some .noMemory) := by
  have hsearch := @resultIn_strstrAt buf websocketSecKey
    websocketSecKey_ne_nil zero_not_mem_websocketSecKey addressSpace 0
    (Nat.zero_le _) (by lia)
  rw [readRequest, Program.bind_eq, Reader.resultIn_bind, hsearch,
    List.drop_zero]
  cases strstr websocketSecKey buf with
  | none => rfl
  | some found =>
      rw [Option.map_some, Option.bind_some, Option.bind_some]
      cases found with
      | none => rfl
      | some seckey =>
          simp only [Option.map_some, Nat.zero_add]
          split
          · rw [Program.bind_eq, Reader.resultIn_bind, resultIn_copyKeyAt,
              Nat.add_zero]
            cases copyKey keyDigestSizeMax
                (buf.drop (seckey + (websocketSecKey.length + 1))) with
            | none => rfl
            | some key =>
                rw [Option.map_some, Option.bind_some, Option.map_some,
                  Nat.zero_add]
                rfl
          · rfl

/-!
## The buffer of the handshake
-/

theorem result_copyKeyAt (memory : Nat -> UInt8) {key n i j : Nat}
    {p q : HeapBuffer} (hfits : i + n ≤ p.cells.length)
    (h : Reader.result memory (copyKeyAt key n i p) = (j, q)) :
    j ≤ i + n ∧ q.cells.length = p.cells.length ∧
      q.overrun = p.overrun := by
  induction n generalizing i p with
  | zero =>
      cases h
      exact ⟨Nat.le_refl _, rfl, rfl⟩
  | succ n ih =>
      rw [copyKeyAt, Program.bind_eq, Reader.result_bind] at h
      split at h
      · cases h
        exact ⟨Nat.le_add_right _ _, rfl, rfl⟩
      · have hrest := ih (by rw [HeapBuffer.length_write]; lia) h
        rw [HeapBuffer.length_write,
          HeapBuffer.overrun_write _ (by lia)] at hrest
        refine ⟨?_, hrest.2⟩
        have hj := hrest.1
        lia

def Request.WritesInside : Request -> Prop
  | .keyed handshake => handshake.overrun = false
  | _ => True

/-- Whatever the request is, the key and the fixed string fit the buffer. -/
theorem readRequest_writesInside (allocates : Nat -> Bool)
    (memory : Nat -> UInt8) :
    (Reader.result memory (readRequest allocates)).WritesInside := by
  rw [readRequest, Program.bind_eq, Reader.result_bind]
  split
  · trivial
  · trivial
  · rename_i seckey _
    split
    · rw [Program.bind_eq, Reader.result_bind]
      cases hcopy : Reader.result memory (copyKeyAt
          (seckey + (websocketSecKey.length + 1)) keyDigestSizeMax 0
          (.alloc handshakeSize)) with
      | mk hsLen handshake =>
          have hsize : (HeapBuffer.alloc handshakeSize).cells.length =
              handshakeSize := List.length_replicate
          have hroom : handshakeSize =
              (websocketSecConKey ++ [0]).length + keyDigestSizeMax := rfl
          rcases result_copyKeyAt memory (by lia) hcopy with
            ⟨hle, hlength, hoverrun⟩
          change
            (handshake.writeAll hsLen (websocketSecConKey ++ [0])).overrun = false
          rw [HeapBuffer.overrun_writeAll (by lia), hoverrun]
          rfl
    · trivial

end WebSocket
end Fluxnode
