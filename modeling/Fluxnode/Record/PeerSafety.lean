import Fluxnode.Record.Reassembly

/-!
# Writes of any peer

A peer may write any values to the data characteristic.  They stay inside the
memory of the receiver exactly as long as every first write of a message has a
length field and brings no more bytes than it declares: the length of a later
write is compared with the room that is left, that of a first one is not.
-/

namespace Fluxnode
namespace Record

open C
open Foundation

/--
A call of `record_add` that is safe: its accesses are inside the value and the
block, neither `len - 2` nor `cur + len` wraps, and afterwards at most `len`
bytes of a block of `len` bytes are filled.
-/
structure SafeAdd (r : RecordT) (value : List UInt8) (r' : RecordT) :
    Prop where
  accesses : recordAdd r value (UInt32.ofNat value.length) = some r'
  body : r.len = 0 -> 2 ≤ value.length
  sum : r.len ≠ 0 ->
    (r.cur + UInt32.ofNat value.length).toNat = r.cur.toNat + value.length
  filled : r'.cur ≤ r'.len
  block : forall block, r'.buf = some block -> block.length = r'.len.toNat

def SafeRun : RecordT -> List DataValue -> Prop
  | _, [] => True
  | r, value :: rest =>
      exists r' next out, SafeAdd r value.bytes r' ∧
        writeEvt r value.bytes = some (next, out) ∧ SafeRun next rest

def declaredLen (value : List UInt8) : Nat :=
  match value with
  | low :: high :: _ => declaredSize low high
  | _ => 0

/-- A value that starts a message has a length field, and no more bytes behind
it than it declares. -/
def FirstFits (r : RecordT) (value : List UInt8) : Prop :=
  r.len = 0 -> 2 ≤ value.length ∧ value.length - 2 ≤ declaredLen value

def EveryFirstFits : RecordT -> List DataValue -> Prop
  | _, [] => True
  | r, value :: rest =>
      FirstFits r value.bytes ∧
        forall next out, writeEvt r value.bytes = some (next, out) ->
          EveryFirstFits next rest

/-!
## One write
-/

section Write

variable {recordSize : SizeT}

theorem holding_len_eq_zero (state : Option Incomplete) :
    (holding recordSize state).len = 0 <-> state = none := by
  cases state with
  | none => simp [holding, idle]
  | some m =>
      have hlt := m.length_lt
      have hsize := m.size_lt
      rw [← UInt32.toNat_inj]
      have hself : (holding recordSize (some m)).len.toNat = m.size :=
        UInt32.toNat_ofNat_of_lt' (show _ < 2 ^ 32 by lia)
      have hzero : UInt32.toNat 0 = 0 := rfl
      rw [hself, hzero]
      simp
      lia

theorem receive_isSome_iff (state : Option Incomplete)
    (value : List UInt8) :
    (receive state value).isSome <->
      FirstFits (holding recordSize state) value := by
  cases state with
  | some m => simp [receive, FirstFits, holding_len_eq_zero]
  | none =>
      rcases value with _ | ⟨low, _ | ⟨high, body⟩⟩
      · simp [receive, FirstFits, holding_len_eq_zero]
      · simp [receive, FirstFits, holding_len_eq_zero]
      · simp only [receive, startMessage, FirstFits, holding_len_eq_zero,
          declaredLen, List.length_cons, forall_const]
        split
        · simp
          lia
        · split
          · simp
            lia
          · simp
            lia

theorem collecting_filled {payload : List UInt8} {k : Nat}
    (hpayload : payload.length < 2 ^ 16) (hk : k ≤ payload.length) :
    (collecting recordSize payload k).cur ≤
        (collecting recordSize payload k).len ∧
      forall block, (collecting recordSize payload k).buf = some block ->
        block.length = (collecting recordSize payload k).len.toNat := by
  have hlen : (UInt32.ofNat payload.length).toNat = payload.length :=
    UInt32.toNat_ofNat_of_lt' (show _ < 2 ^ 32 by lia)
  have hcur : (UInt32.ofNat k).toNat = k :=
    UInt32.toNat_ofNat_of_lt' (show _ < 2 ^ 32 by lia)
  constructor
  · rw [UInt32.le_iff_toNat_le]
    simp only [collecting, hlen, hcur]
    exact hk
  · intro block hblock
    simp only [collecting, Option.some.injEq] at hblock
    rw [← hblock, collecting, hlen, filled, List.length_append,
      List.length_map, List.length_replicate, List.length_take]
    lia

theorem recordAdd_holding {state : Option Incomplete} {value : DataValue}
    (hfits : FirstFits (holding recordSize state) value.bytes) :
    exists payload k, payload.length < 2 ^ 16 ∧ k ≤ payload.length ∧
      recordAdd (holding recordSize state) value.bytes
          (UInt32.ofNat value.bytes.length) =
        some (collecting recordSize payload k) := by
  rcases value with ⟨value, hlength⟩
  cases state with
  | none =>
      rcases hfits ((holding_len_eq_zero none).mpr rfl) with ⟨htwo, hbody⟩
      match value with
      | low :: high :: body =>
          have hsize := declaredSize_lt low high
          have hle : body.length ≤ declaredSize low high := hbody
          rcases exists_tail hle with ⟨tail, htail⟩
          refine ⟨body ++ tail, body.length, ?_, ?_, recordAdd_start htail⟩
          · rw [List.length_append]
            lia
          · rw [List.length_append]
            lia
  | some m =>
      have hlt := m.length_lt
      have hsize := m.size_lt
      rcases Nat.lt_or_ge m.size (m.payload.length + value.length) with
        hlong | hroom
      · rcases exists_tail (Nat.le_of_lt hlt) with ⟨tail, htail⟩
        have hadd := @recordAdd_holding_long recordSize m value hlength hlong
        rw [holding_eq_collecting m htail] at hadd ⊢
        refine ⟨m.payload ++ tail, m.payload.length, ?_, ?_, hadd⟩
        · rw [List.length_append]
          lia
        · rw [List.length_append]
          lia
      · rcases exists_tail hroom with ⟨tail, htail⟩
        refine ⟨m.payload ++ value ++ tail, (m.payload ++ value).length, ?_, ?_,
          recordAdd_continue htail⟩
        · rw [List.length_append, List.length_append]
          lia
        · exact (List.prefix_append _ tail).length_le

theorem safeAdd_of_firstFits {state : Option Incomplete} {value : DataValue}
    (hfits : FirstFits (holding recordSize state) value.bytes) :
    exists r', SafeAdd (holding recordSize state) value.bytes r' := by
  rcases recordAdd_holding hfits with ⟨payload, k, hpayload, hk, hadd⟩
  rcases @collecting_filled recordSize payload k hpayload hk with
    ⟨hfilled, hblock⟩
  refine ⟨_, hadd, fun hidle => (hfits hidle).1, ?_, hfilled, hblock⟩
  intro hopen
  cases state with
  | none => exact absurd ((holding_len_eq_zero none).mpr rfl) hopen
  | some m =>
      have hlt := m.length_lt
      have hsize := m.size_lt
      have hlength := value.length_le
      rw [fluxDataMaxLen] at hlength
      have hcur : (holding recordSize (some m)).cur =
          UInt32.ofNat m.payload.length := rfl
      rw [hcur, ← UInt32.ofNat_add,
        UInt32.toNat_ofNat_of_lt' (show _ < 2 ^ 32 by lia),
        UInt32.toNat_ofNat_of_lt' (show _ < 2 ^ 32 by lia)]

end Write

/-!
## Whole runs
-/

theorem safeRun_holding (recordSize : SizeT) (state : Option Incomplete)
    (values : List DataValue) :
    SafeRun (holding recordSize state) values <->
      EveryFirstFits (holding recordSize state) values := by
  induction values generalizing state with
  | nil => simp [SafeRun, EveryFirstFits]
  | cons value rest ih =>
      have hevt := @writeEvt_holding recordSize state value
      have hiff := @receive_isSome_iff recordSize state value.bytes
      cases hreceive : receive state value.bytes with
      | none =>
          rw [hreceive] at hevt hiff
          have hmisfit : ¬ FirstFits (holding recordSize state) value.bytes :=
            fun h => Bool.false_ne_true (hiff.mpr h)
          constructor
          · intro hsafe
            rcases hsafe with ⟨r', next, out, _, hwrite, _⟩
            rw [hevt] at hwrite
            cases hwrite
          · intro hfits
            exact absurd hfits.1 hmisfit
      | some result =>
          rw [hreceive] at hevt hiff
          have hfits := hiff.mp rfl
          constructor
          · intro hsafe
            rcases hsafe with ⟨r', next, out, _, hwrite, hrest⟩
            constructor
            · exact hfits
            · intro next' out' hwrite'
              rw [hwrite'] at hevt
              cases hevt
              rw [hwrite] at hwrite'
              cases hwrite'
              exact (ih _).mp hrest
          · intro hall
            rcases safeAdd_of_firstFits hfits with ⟨r', hadd⟩
            exact ⟨r', _, _, hadd, hevt, (ih _).mpr (hall.2 _ _ hevt)⟩

/-- From the start of the server, a run of writes is safe exactly when each of
its writes that starts a message fits. -/
theorem safeRun_iff_everyFirstFits (recordSize : SizeT)
    (values : List DataValue) :
    SafeRun (idle recordSize) values <->
      EveryFirstFits (idle recordSize) values :=
  safeRun_holding recordSize none values

theorem empty_write_unsafe :
    ¬ SafeRun (idle 18) [{ bytes := [], length_le := by decide }] := by
  intro hsafe
  rcases hsafe with ⟨r', next, out, hadd, _, _⟩
  exact absurd (hadd.body rfl) (by decide)

end Record
end Fluxnode
