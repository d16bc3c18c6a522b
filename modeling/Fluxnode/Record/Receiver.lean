import Fluxnode.Record.Fragments
import Mathlib.Data.List.ReduceOption

/-!
# Reassembling a message

While a message is incomplete the receiver is in a state that the message and
the number of payload bytes seen so far determine.  The writes may cut the
frame anywhere behind the two length bytes.
-/

namespace Fluxnode
namespace Record

open C
open Foundation

def collecting (recordSize : SizeT) (payload : List UInt8) (k : Nat) :
    RecordT where
  recordSize := recordSize
  lenbytes := 2
  len := UInt32.ofNat payload.length
  cur := UInt32.ofNat k
  buf := some (filled (payload.take k) payload.length)

def delivered (payload : List UInt8) : Received where
  buf := some (payload.map some)
  len := UInt32.ofNat payload.length

/-!
## The length field
-/

theorem lengthField_header {n : Nat} (hn : n < 2 ^ 16) :
    (UInt8.ofNat n).toUInt32 ||| ((UInt8.ofNat (n / 256)).toUInt32 <<< 8) =
      UInt32.ofNat n := by
  apply UInt32.toNat_inj.mp
  have hor : n % 256 ||| (n / 256) <<< 8 = n := by
    rw [Nat.or_comm, ← Nat.shiftLeft_add_eq_or_of_lt (Nat.mod_lt n (by decide)),
      Nat.shiftLeft_eq]
    lia
  have hhi : n / 256 % 256 = n / 256 := Nat.mod_eq_of_lt (by lia)
  have hshift : (n / 256) <<< 8 % 2 ^ 32 = (n / 256) <<< 8 := by
    rw [Nat.shiftLeft_eq]
    lia
  have hleft :
      ((UInt8.ofNat n).toUInt32 |||
          ((UInt8.ofNat (n / 256)).toUInt32 <<< 8)).toNat =
        n % 256 ||| (n / 256 % 256) <<< 8 % 2 ^ 32 := by
    simp [UInt32.toNat_or, UInt32.toNat_shiftLeft]
  rw [hleft, hhi, hshift, hor]
  exact (Nat.mod_eq_of_lt (by lia)).symm

private theorem toNat_ofNat_of_lt {n : Nat} (hn : n < 2 ^ 32) :
    (UInt32.ofNat n).toNat = n :=
  UInt32.toNat_ofNat_of_lt' hn

private theorem toNat_ofNat_sub_two {n : Nat} (hn : n < 2 ^ 32)
    (htwo : 2 ≤ n) : UInt32.ofNat n - 2 = UInt32.ofNat (n - 2) := by
  apply UInt32.toNat_inj.mp
  have hle : (2 : UInt32) ≤ UInt32.ofNat n := by
    rw [UInt32.le_iff_toNat_le, toNat_ofNat_of_lt hn]
    exact htwo
  rw [UInt32.toNat_sub_of_le _ _ hle, toNat_ofNat_of_lt hn,
    toNat_ofNat_of_lt (by lia)]
  rfl

/-!
## One write
-/

section Write

variable {recordSize : SizeT} {payload : List UInt8}

theorem recordAdd_idle {k : Nat}
    (hpayload : payload.length < 2 ^ 16) (hk : k ≤ payload.length) :
    recordAdd (idle recordSize)
        (header payload.length ++ payload.take k)
        (UInt32.ofNat (header payload.length ++ payload.take k).length) =
      some (collecting recordSize payload k) := by
  have hlength : (header payload.length ++ payload.take k).length = k + 2 := by
    simp [Nat.min_eq_left hk, Nat.add_comm]
  have hsize : (UInt32.ofNat payload.length).toNat = payload.length :=
    toNat_ofNat_of_lt (by lia)
  have hbody :
      ((header payload.length ++ payload.take k).drop 2).take k =
        payload.take k := by
    have hdrop :
        (header payload.length ++ payload.take k).drop 2 = payload.take k := rfl
    rw [hdrop, List.take_of_length_le (by rw [List.length_take]; lia)]
  have hcopy :
      memcpy (malloc (UInt32.ofNat payload.length)) 0
          (header payload.length ++ payload.take k) 2 k =
        some (filled (payload.take k) payload.length) := by
    have h := memcpy_filled
      (show ([] : List UInt8).length + k ≤ payload.length by simpa using hk)
      (show 2 + k ≤ (header payload.length ++ payload.take k).length by lia)
    rw [hbody, List.nil_append, List.length_nil] at h
    rw [← filled_nil, hsize]
    exact h
  rw [hlength, recordAdd]
  have hcur : UInt32.ofNat (k + 2) - 2 = UInt32.ofNat k := by
    rw [toNat_ofNat_sub_two (by lia) (by lia)]
    rfl
  rw [hcur, toNat_ofNat_of_lt (by lia : k < 2 ^ 32)]
  simp only [idle, if_true]
  have hfield := lengthField_header hpayload
  simp only [header, List.cons_append, List.getElem?_cons_zero,
    List.getElem?_cons_succ, bind, Option.bind_some, hfield]
  have hcopy' := hcopy
  simp only [header, List.cons_append] at hcopy'
  rw [hcopy']
  rfl

theorem recordAdd_collecting {k : Nat} {write : List UInt8}
    (hpayload : payload.length < 2 ^ 16)
    (hk : k < payload.length)
    (hwrite : write = (payload.drop k).take write.length) :
    recordAdd (collecting recordSize payload k) write
        (UInt32.ofNat write.length) =
      some (collecting recordSize payload (k + write.length)) := by
  have hfits : k + write.length ≤ payload.length := by
    have hlen := congrArg List.length hwrite
    rw [List.length_take, List.length_drop] at hlen
    lia
  have hcur : (UInt32.ofNat k).toNat = k := toNat_ofNat_of_lt (by lia)
  have hcount : (UInt32.ofNat write.length).toNat = write.length :=
    toNat_ofNat_of_lt (by lia)
  have hsize : (UInt32.ofNat payload.length).toNat = payload.length :=
    toNat_ofNat_of_lt (by lia)
  have hopen : ¬ UInt32.ofNat payload.length = 0 := by
    intro hzero
    rw [hzero] at hsize
    exact absurd hsize.symm (by show payload.length ≠ 0; lia)
  have hnext : UInt32.ofNat k + UInt32.ofNat write.length =
      UInt32.ofNat (k + write.length) := (UInt32.ofNat_add k write.length).symm
  have hroom :
      UInt32.ofNat payload.length ≥ UInt32.ofNat (k + write.length) := by
    rw [ge_iff_le, UInt32.le_iff_toNat_le, hsize, toNat_ofNat_of_lt (by lia)]
    exact hfits
  have hwritten : (payload.take k).length = k := by
    rw [List.length_take]
    lia
  have hcopy :
      memcpy (filled (payload.take k) payload.length) k write 0 write.length =
        some (filled (payload.take (k + write.length)) payload.length) := by
    have hjoin : payload.take (k + write.length) =
        payload.take k ++ (write.drop 0).take write.length := by
      rw [List.take_add, List.drop_zero, List.take_length, ← hwrite]
    have h := memcpy_filled
      (show (payload.take k).length + write.length ≤ payload.length by lia)
      (show 0 + write.length ≤ write.length by lia)
    rw [hwritten, ← hjoin] at h
    exact h
  simp only [recordAdd, collecting, if_neg hopen, hnext, if_pos hroom, hcur,
    hcount, bind, Option.bind_some, hcopy]

theorem recordComplete_collecting {k : Nat}
    (hpayload : payload.length < 2 ^ 16) (hk : k ≤ payload.length) :
    recordComplete (collecting recordSize payload k) =
      decide (k = payload.length) := by
  have hiff : UInt32.ofNat payload.length = UInt32.ofNat k <->
      k = payload.length := by
    rw [← UInt32.toNat_inj, toNat_ofNat_of_lt (by lia),
      toNat_ofNat_of_lt (by lia)]
    exact eq_comm
  by_cases hfull : k = payload.length
  · simp [recordComplete, collecting, hfull]
  · simp [recordComplete, collecting, hiff, hfull]

theorem writeEvt_of_incomplete
    {r : RecordT} {write : List UInt8} {k : Nat}
    (hpayload : payload.length < 2 ^ 16) (hk : k < payload.length)
    (hadd : recordAdd r write (UInt32.ofNat write.length) =
      some (collecting recordSize payload k)) :
    writeEvt r write = some (collecting recordSize payload k, none) := by
  have hcomplete : recordComplete (collecting recordSize payload k) = false := by
    rw [recordComplete_collecting hpayload (by lia)]
    exact decide_eq_false (by lia)
  simp [writeEvt, hadd, hcomplete]

theorem writeEvt_of_complete
    {r : RecordT} {write : List UInt8}
    (hpayload : payload.length < 2 ^ 16)
    (hadd : recordAdd r write (UInt32.ofNat write.length) =
      some (collecting recordSize payload payload.length)) :
    writeEvt r write = some (idle recordSize, some (delivered payload)) := by
  have hcomplete :
      recordComplete (collecting recordSize payload payload.length) = true := by
    rw [recordComplete_collecting hpayload (by lia)]
    exact decide_eq_true rfl
  have hblock : filled payload payload.length = payload.map some :=
    filled_full rfl
  simp only [writeEvt, hadd, bind, Option.bind_some, hcomplete, if_true]
  simp [recordGet, recordLen, collecting, idle, delivered, hblock]

/-!
## A whole frame

The receiver stays silent until the last write, provided that the last write
is not empty, and is idle again afterwards.
-/

/-- The answers while a message comes in: silence, then the message. -/
def answers (writes : List (List UInt8)) (payload : List UInt8) :
    List (Option Received) :=
  List.replicate (writes.length - 1) none ++ [some (delivered payload)]

theorem reduceOption_answers
    (writes : List (List UInt8)) (payload : List UInt8) :
    (answers writes payload).reduceOption = [delivered payload] := by
  simp [answers, List.reduceOption_append, List.reduceOption_replicate_none]

private theorem lt_length_of_pending
    {writes : List (List UInt8)} {k : Nat}
    (hwrites : writes.flatten = payload.drop k) (hne : writes ≠ [])
    (hlast : forall write, writes.getLast? = some write -> write ≠ []) :
    k < payload.length := by
  rcases Nat.lt_or_ge k payload.length with hlt | hge
  · exact hlt
  · rw [List.drop_eq_nil_of_le hge, List.flatten_eq_nil_iff] at hwrites
    exact absurd (hwrites _ (List.getLast_mem hne))
      (hlast _ (List.getLast?_eq_some_getLast hne))

theorem feedAll_collecting
    {writes : List (List UInt8)} {k : Nat}
    (hpayload : payload.length < 2 ^ 16) (hk : k < payload.length)
    (hwrites : writes.flatten = payload.drop k)
    (hlast : forall write, writes.getLast? = some write -> write ≠ []) :
    feedAll writeEvt (collecting recordSize payload k) writes =
      some (idle recordSize, answers writes payload) := by
  induction writes generalizing k with
  | nil =>
      have hnone := congrArg List.length hwrites
      simp only [List.flatten_nil, List.length_nil, List.length_drop] at hnone
      lia
  | cons write rest ih =>
      have hwrite : write = (payload.drop k).take write.length := by
        rw [← hwrites, List.flatten_cons, List.take_left]
      have hrest : rest.flatten = payload.drop (k + write.length) := by
        rw [← List.drop_drop, ← hwrites, List.flatten_cons, List.drop_left]
      have hfits : k + write.length ≤ payload.length := by
        have hlen := congrArg List.length hwrites
        rw [List.flatten_cons, List.length_append, List.length_drop] at hlen
        lia
      have hadd :
          recordAdd (collecting recordSize payload k) write
              (UInt32.ofNat write.length) =
            some (collecting recordSize payload (k + write.length)) :=
        recordAdd_collecting hpayload hk hwrite
      cases rest with
      | nil =>
          have hfull : k + write.length = payload.length := by
            have hnone := congrArg List.length hrest
            simp only [List.flatten_nil, List.length_nil,
              List.length_drop] at hnone
            lia
          rw [hfull] at hadd
          exact feedAll_cons_of_some (writeEvt_of_complete hpayload hadd) rfl
      | cons next more =>
          have hlast' : forall last,
              (next :: more).getLast? = some last -> last ≠ [] := by
            intro last hsome
            exact hlast last (by rw [List.getLast?_cons_cons]; exact hsome)
          have hopen : k + write.length < payload.length :=
            lt_length_of_pending hrest (List.cons_ne_nil next more) hlast'
          have hstep := writeEvt_of_incomplete hpayload hopen hadd
          exact feedAll_cons_of_some hstep (ih hopen hrest hlast')

/--
A frame that is cut into writes anywhere behind its length bytes is delivered
at the last write and at no other.
-/
theorem feedAll_frame
    {writes : List (List UInt8)} {first : List UInt8}
    (hpayload : payload.length < 2 ^ 16)
    (hwrites : first ++ writes.flatten = payload)
    (hlast : forall write, writes.getLast? = some write -> write ≠ []) :
    feedAll writeEvt (idle recordSize)
        ((header payload.length ++ first) :: writes) =
      some (idle recordSize,
        answers ((header payload.length ++ first) :: writes) payload) := by
  have hfits : first.length ≤ payload.length := by
    rw [← hwrites, List.length_append]
    lia
  have hfirst : first = payload.take first.length := by
    rw [← hwrites, List.take_left]
  have hadd :
      recordAdd (idle recordSize)
          (header payload.length ++ payload.take first.length)
          (UInt32.ofNat
            (header payload.length ++ payload.take first.length).length) =
        some (collecting recordSize payload first.length) :=
    recordAdd_idle hpayload hfits
  rw [← hfirst] at hadd
  cases writes with
  | nil =>
      have hfull : first.length = payload.length := by
        rw [← hwrites, List.flatten_nil, List.append_nil]
      rw [hfull] at hadd
      exact feedAll_cons_of_some (writeEvt_of_complete hpayload hadd) rfl
  | cons next more =>
      have hrest : (next :: more).flatten = payload.drop first.length := by
        rw [← hwrites, List.drop_left]
      have hopen : first.length < payload.length :=
        lt_length_of_pending hrest (List.cons_ne_nil next more) hlast
      have hstep := writeEvt_of_incomplete hpayload hopen hadd
      exact feedAll_cons_of_some hstep
        (feedAll_collecting hpayload hopen hrest hlast)

end Write

end Record
end Fluxnode
