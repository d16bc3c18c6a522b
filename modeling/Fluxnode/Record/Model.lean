import Fluxnode.C.Memory
import Fluxnode.Foundation.Stream

/-!
# BLE records

A message is framed by a 16-bit length and cut into fragments of at most
`recordSize` bytes.  This module holds the sender, the receiver and the
part of the GATT write handler that drives the receiver, as
`main/record.c` and `main/ble_server.c` have them.
-/

namespace Fluxnode
namespace Record

open C
open Foundation

/-- The bytes handed to one call of the send callback. -/
abbrev Fragment := List UInt8

/--
The send callback's return value, given every fragment handed to it so far with
the current one last.
-/
abbrev SendFunc := List Fragment -> Int

/-- `struct record_t`, without the callback and its argument. -/
structure RecordT where
  recordSize : SizeT
  lenbytes : Int32
  len : SizeT
  cur : SizeT
  buf : Option Block
  deriving DecidableEq, Repr

/-!
## Receiver

A missing result is an access outside the written value or outside the block
allocated for the message.
-/

def recordAdd (r : RecordT) (buf : List UInt8) (len : SizeT) :
    Option RecordT :=
  if r.len = 0 then do
    let rlen ←
      if r.lenbytes = 2 then do
        let b0 ← buf[0]?
        let b1 ← buf[1]?
        some (b0.toUInt32 ||| (b1.toUInt32 <<< 8))
      else
        some r.len
    -- len - 2 wraps when the first write is shorter than the length field
    let block ← memcpy (malloc rlen) 0 buf 2 (len - 2).toNat
    some { r with len := rlen, buf := some block, cur := len - 2 }
  else if r.len ≥ r.cur + len then do
    let block ← r.buf
    let block' ← memcpy block r.cur.toNat buf 0 len.toNat
    some { r with buf := some block', cur := r.cur + len }
  else
    some r

def recordLen (r : RecordT) : SizeT :=
  r.len

def recordComplete (r : RecordT) : Bool :=
  r.len == r.cur

def recordGet (r : RecordT) : RecordT × Option Block :=
  ({ r with buf := none, len := 0, cur := 0 }, r.buf)

structure Received where
  buf : Option Block
  len : SizeT
  deriving DecidableEq, Repr

/--
The full-write branch of `ESP_GATTS_WRITE_EVT` for the data
characteristic: the new receiver and the call of `receive_cb`, if any.
-/
def writeEvt (r : RecordT) (value : List UInt8) :
    Option (RecordT × Option Received) := do
  let r' ← recordAdd r value (UInt32.ofNat value.length)
  if recordComplete r' then
    let recvLen := recordLen r'
    let (r'', recvBuf) := recordGet r'
    some (r'', some { buf := recvBuf, len := recvLen })
  else
    some (r', none)

/-- The receiver after `ble_server_start` for a given record size. -/
def idle (recordSize : SizeT) : RecordT where
  recordSize := recordSize
  lenbytes := 2
  len := 0
  cur := 0
  buf := none

theorem recordAdd_len
    {r r' : RecordT} {value : List UInt8} {len : SizeT}
    (h : recordAdd r value len = some r') :
    r'.len ≠ 0 ∨ r'.len = r'.cur := by
  have hstarted : forall rlen block,
      memcpy (malloc rlen) 0 value 2 (len - 2).toNat = some block ->
        rlen ≠ 0 ∨ rlen = len - 2 := by
    intro rlen block hcopy
    by_cases hzero : rlen = 0
    · right
      apply UInt32.toNat_inj.mp
      rw [zero_of_memcpy_malloc hcopy hzero, hzero]
      rfl
    · exact Or.inl hzero
  unfold recordAdd at h
  split at h
  · dsimp only [bind] at h
    split at h
    · simp only [Option.bind_eq_some_iff] at h
      rcases h with ⟨b0, _, b1, _, rlen, _, block, hcopy, heq⟩
      cases heq
      exact hstarted rlen block hcopy
    · simp only [Option.bind_eq_some_iff] at h
      rcases h with ⟨rlen, _, block, hcopy, heq⟩
      cases heq
      exact hstarted rlen block hcopy
  · rename_i hlen
    left
    split at h
    · simp only [bind, Option.bind_eq_some_iff] at h
      rcases h with ⟨_, _, _, _, heq⟩
      cases heq
      exact hlen
    · cases h
      exact hlen

theorem writeEvt_len
    {r r' : RecordT} {value : List UInt8}
    {received : Option Received}
    (h : writeEvt r value = some (r', received)) :
    received.isSome ∨ r'.len ≠ 0 := by
  unfold writeEvt at h
  rw [Option.bind_eq_bind, Option.bind_eq_some_iff] at h
  rcases h with ⟨r₁, hadd, h⟩
  dsimp only at h
  by_cases hcomplete : recordComplete r₁ = true
  · rw [if_pos hcomplete] at h
    cases h
    exact Or.inl rfl
  · rw [if_neg hcomplete] at h
    cases h
    right
    rcases recordAdd_len hadd with hlen | heq
    · exact hlen
    · exact absurd (beq_iff_eq.mpr heq) hcomplete

/-!
## Sender

A missing result is a division by a zero `recordSize`, a first fragment
too small for the two length bytes, or a read outside the message.
-/

/--
The loop of `record_send` over the remaining records, with the fragments
already handed to the callback.
-/
def recordSendLoop (send : SendFunc) (buf : List UInt8) (len : SizeT) :
    Nat -> SizeT -> SizeT -> List Fragment -> Option (List Fragment × Int)
  | 0, _, _, sent => some (sent, 0)
  | n + 1, cur, curLen, sent =>
      let curLen := if cur + curLen > len then len - cur else curLen
      match readBytes buf cur.toNat curLen.toNat with
      | none => none
      | some frag =>
          let sent := sent ++ [frag]
          let res := send sent
          if res ≠ 0 then
            some (sent, res)
          else
            recordSendLoop send buf len n (cur + curLen) curLen sent

/--
`record_send`: the fragments handed to the callback and the returned
value.
-/
def recordSend (r : RecordT) (send : SendFunc) (buf : List UInt8)
    (len : SizeT) : Option (List Fragment × Int) :=
  let totalLen := len + r.lenbytes.toUInt32
  if r.recordSize = 0 then
    none
  else
    let quotient : Int32 := (totalLen / r.recordSize).toInt32
    let numRecords : Int32 :=
      if totalLen % r.recordSize > 0 then quotient + 1 else quotient
    let allocSize : Int32 := r.recordSize.toInt32
    let allocSize : Int32 :=
      if len + 2 < allocSize.toUInt32 then (len + 2).toInt32 else allocSize
    if allocSize.toUInt32 < 2 then
      none
    else
      match readBytes buf 0 (allocSize.toUInt32 - 2).toNat with
      | none => none
      | some body =>
          let data : Fragment :=
            (len &&& 0xff).toUInt8 :: ((len >>> 8) &&& 0xff).toUInt8 :: body
          let res := send [data]
          if res ≠ 0 then
            some ([data], res)
          else
            recordSendLoop send buf len (numRecords.toInt - 1).toNat
              (allocSize.toUInt32 - 2) r.recordSize [data]

end Record
end Fluxnode
