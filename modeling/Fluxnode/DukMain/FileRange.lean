import Fluxnode.DukMain.ScriptFile

/-!
# Ranges of a script's buffer

`js_fs_write` and `js_fs_read` turn the offset and the length of the script into
`size_t` and cut the length.  What they hand to `write` and `read` is not always
a part of the buffer.
-/

namespace Fluxnode
namespace DukMain

open C

/-- A pointer into a buffer, as its distance from the start, and a length. -/
structure Span where
  start : SizeT
  length : SizeT
  deriving DecidableEq, Repr

/-- Each byte of the range is in the buffer.  The address wraps around. -/
def Span.Inside (r : Span) (bufferSize : SizeT) : Prop :=
  forall i, i < r.length -> r.start + i < bufferSize

/-!
## The ranges
-/

/-- The check of `js_fs_write` in front of `write`. -/
def fsWriteCut (bufferSize : SizeT) (range : SizeT × SizeT) : Span where
  start := range.1
  length :=
    if range.2 > bufferSize - range.1 then bufferSize - range.1 else range.2

/-- What `js_fs_write` hands to `write`. -/
def jsFsWriteSpan (data : FsData) (offset length : Option Int32) : Span :=
  fsWriteCut (UInt32.ofNat data.bytes.length) (fsWriteRange data offset length)

/-- What `js_fs_write` hands to `write` from a buffer of this size, when it is
called with an offset and a length. -/
def fsWriteSpan (bufferSize : SizeT) (offset length : Int32) : Span :=
  fsWriteCut bufferSize
    (offset.toUInt32,
      if length.toUInt32 > bufferSize then bufferSize else length.toUInt32)

def jsFsReadSpan (bufferSize : SizeT) (writeOffset maxToRead : Int32) : Span where
  start := writeOffset.toUInt32
  length :=
    if maxToRead.toUInt32 > bufferSize then bufferSize else maxToRead.toUInt32

/-- `js_fs_read`: the buffer behind the call, and the number of bytes.  `read`
brings the bytes, or fails. -/
def jsFsRead (buffer : List UInt8) (writeOffset maxToRead : Int32)
    (brings : Option (List UInt8)) : Option (List UInt8 × Nat) :=
  let range := jsFsReadSpan (UInt32.ofNat buffer.length) writeOffset maxToRead
  let start := range.start.toNat
  match brings with
  | none => some (buffer, 0)
  | some bytes =>
      let data := bytes.take range.length.toNat
      if data = [] ∨ start + data.length ≤ buffer.length then
        some (buffer.take start ++ data ++ buffer.drop (start + data.length),
          data.length)
      else
        none

theorem jsFsWriteBytes_eq (data : FsData) (offset length : Option Int32) :
    jsFsWriteBytes data offset length =
      readBytes data.bytes (jsFsWriteSpan data offset length).start.toNat
        (jsFsWriteSpan data offset length).length.toNat := rfl

theorem jsFsWriteSpan_buffer (bytes : List UInt8) (offset length : Int32) :
    jsFsWriteSpan (.buffer bytes) (some offset) (some length) =
      fsWriteSpan (UInt32.ofNat bytes.length) offset length := rfl

/-!
## Ranges in a buffer
-/

theorem inside_iff (r : Span) (bufferSize : SizeT) :
    r.Inside bufferSize <->
      r.length = 0 ∨ r.start.toNat + r.length.toNat ≤ bufferSize.toNat := by
  have hsize := bufferSize.toNat_lt
  constructor
  · intro hinside
    by_cases hzero : r.length = 0
    · exact Or.inl hzero
    · apply Or.inr
      have hpos : 0 < r.length := UInt32.pos_iff_ne_zero.mpr hzero
      have hfirst := hinside 0 hpos
      rw [UInt32.add_zero] at hfirst
      by_contra hbeyond
      -- the first byte behind the buffer
      have hle : r.start ≤ bufferSize := UInt32.le_of_lt hfirst
      have hsub := UInt32.toNat_sub_of_le _ _ hle
      have hin : bufferSize - r.start < r.length := by
        rw [UInt32.lt_iff_toNat_lt, hsub]
        have hnat := UInt32.le_iff_toNat_le.mp hle
        lia
      have hbehind := hinside (bufferSize - r.start) hin
      rw [UInt32.add_comm, UInt32.sub_add_cancel] at hbehind
      exact UInt32.lt_irrefl _ hbehind
  · intro h i hi
    have hnat := UInt32.lt_iff_toNat_lt.mp hi
    rcases h with hzero | hle
    · rw [hzero] at hnat
      exact absurd hnat (Nat.not_lt_zero _)
    · rw [UInt32.lt_iff_toNat_lt, UInt32.toNat_add,
        Nat.mod_eq_of_lt (by lia)]
      lia

theorem fsWriteCut_inside_iff (bufferSize : SizeT) (range : SizeT × SizeT) :
    (fsWriteCut bufferSize range).Inside bufferSize <->
      range.2 = 0 ∨ range.1 ≤ bufferSize := by
  rw [inside_iff]
  rcases range with ⟨start, length⟩
  by_cases hle : start ≤ bufferSize
  · have hsub := UInt32.toNat_sub_of_le _ _ hle
    have hnat := UInt32.le_iff_toNat_le.mp hle
    simp only [fsWriteCut, hle, or_true, iff_true]
    apply Or.inr
    split
    · rw [hsub]
      lia
    · rename_i hnot
      rw [gt_iff_lt, UInt32.not_lt, UInt32.le_iff_toNat_le, hsub] at hnot
      lia
  · -- the rest of the buffer wraps around, and the cut is too late
    have hnat : bufferSize.toNat < start.toNat :=
      UInt32.lt_iff_toNat_lt.mp (UInt32.not_le.mp hle)
    have hrest : bufferSize - start ≠ 0 := by
      intro hzero
      have heq : bufferSize = start := by grind
      rw [heq] at hnat
      exact Nat.lt_irrefl _ hnat
    simp only [fsWriteCut, hle, or_false]
    constructor
    · intro h
      rcases h with hzero | hbound
      · split at hzero
        · exact absurd hzero hrest
        · exact hzero
      · lia
    · intro hzero
      apply Or.inl
      rw [hzero, if_neg]
      exact UInt32.not_lt_zero

/-!
## Reading and writing
-/

/-- The range of a write starts in the buffer, if it is not empty. -/
def WriteStartsInside (bufferSize : SizeT) (offset length : Int32) : Prop :=
  bufferSize = 0 ∨ length = 0 ∨ offset.toUInt32 ≤ bufferSize

/-- The range of a read ends in the buffer, if it does not start with the buffer
and is not empty. -/
def ReadEndsInside (bufferSize : SizeT) (offset length : Int32) : Prop :=
  bufferSize = 0 ∨ length = 0 ∨ offset = 0 ∨
    offset.toUInt32.toNat + length.toUInt32.toNat ≤ bufferSize.toNat

theorem toUInt32_eq_zero_iff (x : Int32) : x.toUInt32 = 0 <-> x = 0 := by
  constructor
  · intro h
    rw [← Int32.toInt32_toUInt32 x, h]
    rfl
  · intro h
    rw [h]
    rfl

theorem clamped_eq_zero_iff (bufferSize : SizeT) (length : Int32) :
    (if length.toUInt32 > bufferSize then bufferSize else length.toUInt32) = 0 <->
      bufferSize = 0 ∨ length = 0 := by
  split
  · rename_i hgt
    have hne : length.toUInt32 ≠ 0 := by
      intro hzero
      rw [hzero] at hgt
      exact UInt32.not_lt_zero hgt
    rw [← toUInt32_eq_zero_iff]
    simp [hne]
  · rename_i hle
    rw [toUInt32_eq_zero_iff]
    constructor
    · exact Or.inr
    · intro h
      rcases h with hsize | hlength
      · rw [hsize, gt_iff_lt, UInt32.not_lt, UInt32.le_zero_iff] at hle
        exact (toUInt32_eq_zero_iff length).mp hle
      · exact hlength

theorem fsWriteSpan_inside_iff (bufferSize : SizeT) (offset length : Int32) :
    (fsWriteSpan bufferSize offset length).Inside bufferSize <->
      WriteStartsInside bufferSize offset length := by
  rw [fsWriteSpan, fsWriteCut_inside_iff, clamped_eq_zero_iff,
    WriteStartsInside, or_assoc]

theorem jsFsReadSpan_inside_iff (bufferSize : SizeT) (offset length : Int32) :
    (jsFsReadSpan bufferSize offset length).Inside bufferSize <->
      ReadEndsInside bufferSize offset length := by
  rw [inside_iff]
  simp only [jsFsReadSpan, clamped_eq_zero_iff, ReadEndsInside, or_assoc]
  apply or_congr_right
  apply or_congr_right
  rw [← toUInt32_eq_zero_iff offset, ← UInt32.toNat_inj, UInt32.toNat_zero]
  split
  · rename_i hgt
    have hnat := UInt32.lt_iff_toNat_lt.mp hgt
    lia
  · rename_i hle
    rw [gt_iff_lt, UInt32.not_lt, UInt32.le_iff_toNat_le] at hle
    lia

/-- A read whose range is in the buffer changes no byte in front of it or behind
it. -/
theorem jsFsRead_of_inside {buffer : List UInt8} {writeOffset maxToRead : Int32}
    (hsize : buffer.length < 2 ^ 32)
    (h : ReadEndsInside (UInt32.ofNat buffer.length) writeOffset maxToRead)
    (brings : Option (List UInt8)) :
    exists after n, jsFsRead buffer writeOffset maxToRead brings =
        some (after, n) ∧
      after.length = buffer.length ∧
      after.take writeOffset.toUInt32.toNat =
        buffer.take writeOffset.toUInt32.toNat ∧
      after.drop (writeOffset.toUInt32.toNat + n) =
        buffer.drop (writeOffset.toUInt32.toNat + n) := by
  have hinside := (jsFsReadSpan_inside_iff _ _ _).mpr h
  rw [inside_iff, UInt32.toNat_ofNat_of_lt' hsize] at hinside
  cases brings with
  | none => exact ⟨buffer, 0, rfl, rfl, rfl, rfl⟩
  | some bytes =>
      generalize hdata : bytes.take (jsFsReadSpan (UInt32.ofNat buffer.length)
        writeOffset maxToRead).length.toNat = data
      have hlength := congrArg List.length hdata
      rw [List.length_take] at hlength
      have hfits : data = [] ∨
          writeOffset.toUInt32.toNat + data.length ≤ buffer.length := by
        rcases hinside with hzero | hle
        · apply Or.inl
          rw [hzero] at hdata
          exact hdata.symm
        · apply Or.inr
          change writeOffset.toUInt32.toNat + _ ≤ _ at hle
          lia
      refine ⟨buffer.take writeOffset.toUInt32.toNat ++ data ++
        buffer.drop (writeOffset.toUInt32.toNat + data.length), data.length,
        ?_, ?_⟩
      · simp only [jsFsRead, hdata]
        exact if_pos hfits
      · rcases hfits with rfl | hfits
        · simp
        · have htake : (buffer.take writeOffset.toUInt32.toNat).length =
              writeOffset.toUInt32.toNat := by
            rw [List.length_take]
            lia
          constructor
          · simp only [List.length_append, List.length_drop, htake]
            lia
          constructor
          · rw [List.append_assoc, List.take_left' htake]
          · rw [List.drop_left']
            rw [List.length_append, htake]

/-- For every size of the buffer, offset and length: the range of a write is in
the buffer exactly if it starts there, and the range of a read exactly if it
ends there. -/
theorem fs_ranges_inside_iff (bufferSize : SizeT) (offset length : Int32) :
    ((fsWriteSpan bufferSize offset length).Inside bufferSize <->
      WriteStartsInside bufferSize offset length) ∧
    ((jsFsReadSpan bufferSize offset length).Inside bufferSize <->
      ReadEndsInside bufferSize offset length) :=
  ⟨fsWriteSpan_inside_iff bufferSize offset length,
    jsFsReadSpan_inside_iff bufferSize offset length⟩

theorem fs_ranges_outside :
    ¬ (jsFsReadSpan 16 10 16).Inside 16 ∧
      ¬ (fsWriteSpan 16 (-1) 16).Inside 16 := by
  constructor
  · rw [jsFsReadSpan_inside_iff]
    unfold ReadEndsInside
    decide
  · rw [fsWriteSpan_inside_iff]
    unfold WriteStartsInside
    decide

end DukMain
end Fluxnode
