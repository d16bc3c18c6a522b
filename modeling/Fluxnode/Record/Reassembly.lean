import Fluxnode.Record.Receiver

/-!
# The receiver without its memory

Between two writes the receiver holds an incomplete message or none.  A first
write that is too short for the length field, or that brings more bytes than it
declares, leaves the memory of the receiver; every other write does what the
abstract receiver here does.
-/

namespace Fluxnode
namespace Record

open C
open Foundation

/-- `FLUX_DATA_MAX_LEN`: the longest value of the data characteristic. -/
def fluxDataMaxLen : Nat := 512

structure DataValue where
  bytes : List UInt8
  length_le : bytes.length ≤ fluxDataMaxLen
  deriving DecidableEq, Repr

structure Incomplete where
  payload : List UInt8
  size : Nat
  length_lt : payload.length < size
  size_lt : size < 2 ^ 16
  deriving DecidableEq, Repr

def declaredSize (low high : UInt8) : Nat :=
  low.toNat + 256 * high.toNat

theorem declaredSize_lt (low high : UInt8) :
    declaredSize low high < 2 ^ 16 := by
  have hlow := low.toNat_lt
  have hhigh := high.toNat_lt
  rw [declaredSize]
  lia

def startMessage (low high : UInt8) (body : List UInt8) :
    Option (Option Incomplete × Option (List UInt8)) :=
  if body.length = declaredSize low high then
    some (none, some body)
  else if h : body.length < declaredSize low high then
    some
      (some
        { payload := body
          size := declaredSize low high
          length_lt := h
          size_lt := declaredSize_lt low high },
        none)
  else
    none

/-- A later write; it is ignored when it does not fit. -/
def Incomplete.continue (m : Incomplete) (value : List UInt8) :
    Option Incomplete × Option (List UInt8) :=
  if m.payload.length + value.length = m.size then
    (none, some (m.payload ++ value))
  else if h : (m.payload ++ value).length < m.size then
    (some { m with payload := m.payload ++ value, length_lt := h }, none)
  else
    (some m, none)

/-- A write: the message that is incomplete afterwards, and the message that it
completes.  There is no result for a first write that does not fit. -/
def receive : Option Incomplete -> List UInt8 ->
    Option (Option Incomplete × Option (List UInt8))
  | some m, value => some (m.continue value)
  | none, low :: high :: body => startMessage low high body
  | none, _ => none

/-!
## The receiver in memory
-/

def holding (recordSize : SizeT) : Option Incomplete -> RecordT
  | none => idle recordSize
  | some m =>
      { recordSize := recordSize
        lenbytes := 2
        len := UInt32.ofNat m.size
        cur := UInt32.ofNat m.payload.length
        buf := some (filled m.payload m.size) }

section Refinement

variable {recordSize : SizeT}

theorem header_declaredSize (low high : UInt8) :
    header (declaredSize low high) = [low, high] := by
  have hlow : UInt8.ofNat (declaredSize low high) = low := by
    apply UInt8.toNat_inj.mp
    have hlt := low.toNat_lt
    rw [UInt8.toNat_ofNat', declaredSize]
    lia
  have hhigh : UInt8.ofNat (declaredSize low high / 256) = high := by
    apply UInt8.toNat_inj.mp
    have hlt := low.toNat_lt
    have hlt' := high.toNat_lt
    rw [UInt8.toNat_ofNat', declaredSize]
    lia
  rw [header, hlow, hhigh]

/-- Any message of the right length that starts with the bytes that came in
tells the same state. -/
theorem collecting_append (payload tail : List UInt8) :
    collecting recordSize (payload ++ tail) payload.length =
      { recordSize := recordSize
        lenbytes := 2
        len := UInt32.ofNat (payload.length + tail.length)
        cur := UInt32.ofNat payload.length
        buf := some (filled payload (payload.length + tail.length)) } := by
  simp [collecting]

theorem holding_eq_collecting (m : Incomplete) {tail : List UInt8}
    (htail : m.payload.length + tail.length = m.size) :
    holding recordSize (some m) =
      collecting recordSize (m.payload ++ tail) m.payload.length := by
  rw [collecting_append, htail]
  rfl

theorem exists_tail {k size : Nat} (hk : k ≤ size) :
    exists tail : List UInt8, k + tail.length = size :=
  ⟨List.replicate (size - k) 0, by rw [List.length_replicate]; lia⟩

theorem lengthField_eq (low high : UInt8) :
    low.toUInt32 ||| (high.toUInt32 <<< 8) =
      UInt32.ofNat (declaredSize low high) := by
  have hfield := lengthField_header (declaredSize_lt low high)
  have hheader := header_declaredSize low high
  rw [header, List.cons.injEq, List.cons.injEq] at hheader
  rw [hheader.1, hheader.2.1] at hfield
  exact hfield

theorem toNat_bodyCount {low high : UInt8} {body : List UInt8}
    (hlength : (low :: high :: body).length ≤ fluxDataMaxLen) :
    (UInt32.ofNat (low :: high :: body).length - 2).toNat = body.length := by
  rw [List.length_cons, List.length_cons, fluxDataMaxLen] at *
  have htwo : (2 : UInt32) ≤ UInt32.ofNat (body.length + 1 + 1) := by
    rw [UInt32.le_iff_toNat_le,
      UInt32.toNat_ofNat_of_lt' (show _ < 2 ^ 32 by lia)]
    exact Nat.le_add_left 2 body.length
  rw [UInt32.toNat_sub_of_le _ _ htwo,
    UInt32.toNat_ofNat_of_lt' (show _ < 2 ^ 32 by lia)]
  rfl

theorem recordAdd_idle_long {low high : UInt8} {body : List UInt8}
    (hlength : (low :: high :: body).length ≤ fluxDataMaxLen)
    (hlong : declaredSize low high < body.length) :
    recordAdd (idle recordSize) (low :: high :: body)
      (UInt32.ofNat (low :: high :: body).length) = none := by
  have hsize := declaredSize_lt low high
  have hcopy :
      memcpy (malloc (UInt32.ofNat (declaredSize low high))) 0
        (low :: high :: body) 2 body.length = none := by
    apply memcpy_of_lt
    rw [malloc, List.length_replicate,
      UInt32.toNat_ofNat_of_lt' (show _ < 2 ^ 32 by lia)]
    lia
  simp only [recordAdd, toNat_bodyCount hlength, idle, if_true,
    List.getElem?_cons_zero, List.getElem?_cons_succ, bind, Option.bind_some,
    lengthField_eq, hcopy, Option.bind_none]

theorem recordAdd_holding_long {m : Incomplete} {value : List UInt8}
    (hlength : value.length ≤ fluxDataMaxLen)
    (hlong : m.size < m.payload.length + value.length) :
    recordAdd (holding recordSize (some m)) value
      (UInt32.ofNat value.length) = some (holding recordSize (some m)) := by
  have hlt := m.length_lt
  have hsize := m.size_lt
  rw [fluxDataMaxLen] at hlength
  have hlen : (UInt32.ofNat m.size).toNat = m.size :=
    UInt32.toNat_ofNat_of_lt' (show _ < 2 ^ 32 by lia)
  have hopen : ¬ UInt32.ofNat m.size = 0 := by
    intro hzero
    rw [hzero] at hlen
    have hnone : UInt32.toNat 0 = 0 := rfl
    lia
  have hroom : ¬ UInt32.ofNat m.size ≥
      UInt32.ofNat m.payload.length + UInt32.ofNat value.length := by
    rw [← UInt32.ofNat_add, ge_iff_le, UInt32.le_iff_toNat_le, hlen,
      UInt32.toNat_ofNat_of_lt' (show _ < 2 ^ 32 by lia)]
    lia
  simp only [recordAdd, holding, if_neg hopen]
  exact if_neg hroom

theorem recordComplete_holding (m : Incomplete) :
    recordComplete (holding recordSize (some m)) = false := by
  rcases exists_tail (Nat.le_of_lt m.length_lt) with ⟨tail, htail⟩
  have hlt := m.length_lt
  have hsize := m.size_lt
  have hsum : (m.payload ++ tail).length = m.size := by
    rw [List.length_append, htail]
  rw [holding_eq_collecting m htail,
    recordComplete_collecting (by lia) (by lia)]
  exact decide_eq_false (by lia)

theorem recordAdd_start {low high : UInt8} {body tail : List UInt8}
    (htail : body.length + tail.length = declaredSize low high) :
    recordAdd (idle recordSize) (low :: high :: body)
        (UInt32.ofNat (low :: high :: body).length) =
      some (collecting recordSize (body ++ tail) body.length) := by
  have hsize := declaredSize_lt low high
  have hsum : (body ++ tail).length = declaredSize low high := by
    rw [List.length_append, htail]
  have hadd := @recordAdd_idle recordSize (body ++ tail) body.length
    (by lia) (by lia)
  rw [hsum, header_declaredSize, List.take_left, List.cons_append,
    List.cons_append, List.nil_append] at hadd
  exact hadd

theorem recordAdd_continue {m : Incomplete} {value tail : List UInt8}
    (htail : m.payload.length + value.length + tail.length = m.size) :
    recordAdd (holding recordSize (some m)) value
        (UInt32.ofNat value.length) =
      some (collecting recordSize (m.payload ++ value ++ tail)
        (m.payload ++ value).length) := by
  have hlt := m.length_lt
  have hsize := m.size_lt
  have hsum : (m.payload ++ value ++ tail).length = m.size := by
    rw [List.length_append, List.length_append, htail]
  have hwrite : value =
      ((m.payload ++ value ++ tail).drop m.payload.length).take
        value.length := by
    rw [List.append_assoc, List.drop_left, List.take_left]
  have hadd := @recordAdd_collecting recordSize (m.payload ++ value ++ tail)
    m.payload.length value (by lia) (by lia) hwrite
  rw [← List.length_append, List.append_assoc m.payload,
    ← holding_eq_collecting m (by rw [List.length_append]; lia),
    ← List.append_assoc] at hadd
  exact hadd

/-!
## Every write
-/

theorem writeEvt_start {low high : UInt8} {body : List UInt8}
    (hfits : body.length ≤ declaredSize low high) :
    writeEvt (idle recordSize) (low :: high :: body) =
      (startMessage low high body).map
        (fun r => (holding recordSize r.1, r.2.map delivered)) := by
  rcases exists_tail hfits with ⟨tail, htail⟩
  have hsize := declaredSize_lt low high
  have hsum : (body ++ tail).length = declaredSize low high := by
    rw [List.length_append, htail]
  have hadd := @recordAdd_start recordSize low high body tail htail
  rcases Nat.lt_or_eq_of_le hfits with hlt | heq
  · rw [startMessage, if_neg (by lia), dif_pos hlt,
      writeEvt_of_incomplete (by lia) (by lia) hadd]
    exact congrArg (fun r => some (r, none))
      (holding_eq_collecting ⟨body, _, hlt, hsize⟩ htail).symm
  · have hnil : tail = [] := List.length_eq_zero_iff.mp (by lia)
    rw [hnil, List.append_nil] at hadd hsum
    rw [startMessage, if_pos heq, writeEvt_of_complete (by lia) hadd]
    rfl

theorem writeEvt_continue {m : Incomplete} {value : List UInt8}
    (hfits : m.payload.length + value.length ≤ m.size) :
    writeEvt (holding recordSize (some m)) value =
      some (holding recordSize (m.continue value).1,
        (m.continue value).2.map delivered) := by
  have hsize := m.size_lt
  rcases exists_tail hfits with ⟨tail, htail⟩
  have hlength : (m.payload ++ value).length + tail.length = m.size := by
    rw [List.length_append, htail]
  have hsum : (m.payload ++ value ++ tail).length = m.size := by
    rw [List.length_append, hlength]
  have hadd := @recordAdd_continue recordSize m value tail htail
  rcases Nat.lt_or_eq_of_le hfits with hmore | hfull
  · have hopen : (m.payload ++ value).length < m.size := by
      rw [List.length_append]
      exact hmore
    rw [writeEvt_of_incomplete (by lia) (by lia) hadd, Incomplete.continue,
      if_neg (Nat.ne_of_lt hmore), dif_pos hopen]
    exact congrArg (fun r => some (r, none))
      (holding_eq_collecting ⟨_, m.size, hopen, hsize⟩ hlength).symm
  · have hnil : tail = [] := List.length_eq_zero_iff.mp (by lia)
    rw [hnil, List.append_nil] at hadd hsum
    rw [writeEvt_of_complete (by lia) hadd, Incomplete.continue,
      if_pos hfull]
    rfl

/-- The receiver in memory does what the abstract one does. -/
theorem writeEvt_holding (state : Option Incomplete) (value : DataValue) :
    writeEvt (holding recordSize state) value.bytes =
      (receive state value.bytes).map
        (fun r => (holding recordSize r.1, r.2.map delivered)) := by
  rcases value with ⟨value, hlength⟩
  cases state with
  | none =>
      match value with
      | [] => rfl
      | [low] => rfl
      | low :: high :: body =>
          rcases Nat.lt_or_ge (declaredSize low high) body.length with
            hlong | hfits
          · have hadd := @recordAdd_idle_long recordSize low high body
              hlength hlong
            have hnone : receive none (low :: high :: body) = none := by
              rw [receive, startMessage, if_neg (by lia), dif_neg (by lia)]
            rw [hnone, holding, writeEvt, hadd]
            rfl
          · exact writeEvt_start hfits
  | some m =>
      rcases Nat.lt_or_ge m.size (m.payload.length + value.length) with
        hlong | hfits
      · have hignored : m.continue value = (some m, none) := by
          rw [Incomplete.continue, if_neg (by lia),
            dif_neg (by rw [List.length_append]; lia)]
        simp [writeEvt, receive, hignored,
          recordAdd_holding_long hlength hlong, recordComplete_holding]
      · exact writeEvt_continue hfits

end Refinement

end Record
end Fluxnode
