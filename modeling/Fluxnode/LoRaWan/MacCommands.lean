import Fluxnode.LoRaWan.RoundTrip
import Mathlib.Algebra.GroupWithZero.Nat

/-!
# The MAC commands in the options of a frame

`__foptsDecode` walks through the options with an index and, apart from it, a
count of the bytes that remain.
-/

namespace Fluxnode
namespace LoRaWan

open Js

/-- An element of `MACcmds`, named after its `cmd`. -/
inductive MACcmd where
  | link_check_req
  | link_adr_req (dr tx chmask maskctl nbrep : Int)
  | duty_cycle_req
  | rx_param_setup_req
  | dev_status_req
  | new_channel_req
  | rx_timing_setup_req (delay : Int)
  deriving DecidableEq, Repr

/--
The object that is returned.  The history is not part of the code: for each
reported command, the index behind the last byte that was read for it.
-/
structure FoptsResult where
  error : Bool
  MAC : List MACcmd
  readEnds : List Nat
  deriving DecidableEq, Repr

/-- `cmd.set(data.subarray(idx, idx + n), 0)` on a new array of `n` bytes. -/
def copyCmd (data : Bytes) (idx n : Nat) : Except JsError Bytes := do
  let cmd <- newUint8Array n
  typedArraySet cmd (subarray data idx (idx + n : Nat)) 0

/-- The loop of `__foptsDecode`; `data[idx]` is undefined behind the end. -/
def foptsDecodeLoop (data : Bytes) (idx : Nat) (fl : Int)
    (MACcmds : List MACcmd) (readEnds : List Nat) :
    Except JsError FoptsResult :=
  if fl > 0 then
    let cid := data[idx]?
    if cid = some 0x02 then
      foptsDecodeLoop data (idx + 1) (fl - 1) (MACcmds ++ [.link_check_req])
        (readEnds ++ [idx + 1])
    else if cid = some 0x3 then do
      let cmd <- copyCmd data (idx + 1) 4
      let DR := shiftRight (bitAnd (load cmd 0).toNat 0xF0) 4
      let TX := bitAnd (load cmd 0).toNat 0x0F
      let nbrep := bitAnd (load cmd 3).toNat 0x0F
      let maskctl := shiftRight (load cmd 3).toNat 4
      let chans := bitOr (shiftLeft (load cmd 1).toNat 8) (load cmd 2).toNat
      foptsDecodeLoop data (idx + 1 + 4) (fl - 5)
        (MACcmds ++ [.link_adr_req DR TX chans maskctl nbrep])
        (readEnds ++ [idx + 1 + 4])
    else if cid = some 0x4 then
      foptsDecodeLoop data (idx + 2) (fl - 2) (MACcmds ++ [.duty_cycle_req])
        (readEnds ++ [idx + 1])
    else if cid = some 0x5 then
      foptsDecodeLoop data (idx + 5) (fl - 5)
        (MACcmds ++ [.rx_param_setup_req]) (readEnds ++ [idx + 1])
    else if cid = some 0x6 then
      foptsDecodeLoop data (idx + 1) (fl - 1) (MACcmds ++ [.dev_status_req])
        (readEnds ++ [idx + 1])
    else if cid = some 0x7 then
      foptsDecodeLoop data (idx + 6) (fl - 6) (MACcmds ++ [.new_channel_req])
        (readEnds ++ [idx + 1])
    else if cid = some 0x8 then do
      let cmd <- copyCmd data (idx + 1) 1
      let delay := bitAnd (load cmd 0).toNat 0x0F
      let delay := if delay = 0 then 1 else delay
      -- the index stays in front of the byte of the delay
      foptsDecodeLoop data (idx + 1) (fl - 2)
        (MACcmds ++ [.rx_timing_setup_req delay]) (readEnds ++ [idx + 1 + 1])
    else
      .ok { error := true, MAC := MACcmds, readEnds := readEnds }
  else
    .ok { error := false, MAC := MACcmds, readEnds := readEnds }
  termination_by fl.toNat

def foptsDecode (data : Bytes) : Except JsError FoptsResult :=
  foptsDecodeLoop data 0 data.length [] []

/-!
## The commands

The library knows seven commands, each with a number of bytes behind its id.
-/

inductive CommandId where
  | linkCheckReq
  | linkAdrReq
  | dutyCycleReq
  | rxParamSetupReq
  | devStatusReq
  | newChannelReq
  | rxTimingSetupReq
  deriving DecidableEq, Repr

namespace CommandId

def byte : CommandId -> UInt8
  | linkCheckReq => 0x02
  | linkAdrReq => 0x03
  | dutyCycleReq => 0x04
  | rxParamSetupReq => 0x05
  | devStatusReq => 0x06
  | newChannelReq => 0x07
  | rxTimingSetupReq => 0x08

def payloadLength : CommandId -> Nat
  | linkCheckReq => 0
  | linkAdrReq => 4
  | dutyCycleReq => 1
  | rxParamSetupReq => 4
  | devStatusReq => 0
  | newChannelReq => 5
  | rxTimingSetupReq => 1

def entry (payload : Bytes) : CommandId -> MACcmd
  | linkCheckReq => .link_check_req
  | linkAdrReq =>
      .link_adr_req ((load payload 0).toNat / 16) ((load payload 0).toNat % 16)
        (256 * (load payload 1).toNat + (load payload 2).toNat)
        ((load payload 3).toNat / 16) ((load payload 3).toNat % 16)
  | dutyCycleReq => .duty_cycle_req
  | rxParamSetupReq => .rx_param_setup_req
  | devStatusReq => .dev_status_req
  | newChannelReq => .new_channel_req
  | rxTimingSetupReq =>
      let delay : Int := (load payload 0).toNat % 16
      .rx_timing_setup_req (if delay = 0 then 1 else delay)

def advance : CommandId -> Nat
  | rxTimingSetupReq => 1
  | id => 1 + id.payloadLength

/-- How many of the bytes behind the id are looked at. -/
def looksAt : CommandId -> Nat
  | linkAdrReq => 4
  | rxTimingSetupReq => 1
  | _ => 0

end CommandId

/-!
## One round of the loop
-/

/-- What is read of a copy; bytes behind the end of the data are zero. -/
theorem copyCmd_eq (data : Bytes) (idx n : Nat) :
    exists cmd, copyCmd data idx n = .ok cmd ∧
      forall i, i < n -> load cmd i = load ((data.drop idx).take n) i := by
  have hpart : subarray data idx (idx + n : Nat) = (data.drop idx).take n := by
    rw [subarray, slice, sliceIndex_natCast, sliceIndex_natCast]
    apply List.ext_getElem?
    intro i
    rw [List.getElem?_drop, List.getElem?_take, List.getElem?_take,
      List.getElem?_drop]
    grind
  have hfits : 0 + ((data.drop idx).take n).length ≤
      (List.replicate n (0 : UInt8)).length := by
    rw [Nat.zero_add, List.length_replicate]
    exact List.length_take_le _ _
  have hset : copyCmd data idx n =
      .ok ((data.drop idx).take n ++
        List.replicate (n - ((data.drop idx).take n).length) 0) := by
    rw [copyCmd, newUint8Array_natCast, hpart]
    show typedArraySet _ _ 0 = _
    rw [typedArraySet_of_le hfits, List.take_zero,
      List.nil_append, Nat.zero_add, List.drop_replicate]
  refine ⟨_, hset, ?_⟩
  intro i hi
  rw [load, load, List.getD_eq_getElem?_getD, List.getD_eq_getElem?_getD,
    List.getElem?_append, List.getElem?_replicate]
  grind

section Fields

variable (b b' : UInt8)

theorem shiftRight_highBits :
    shiftRight (bitAnd b.toNat 0xF0) 4 = (b.toNat : Int) / 16 := by
  have hall : forall x : BitVec 8,
      shiftRight (bitAnd x.toNat 0xF0) 4 = (x.toNat : Int) / 16 := by
    decide +kernel
  exact hall b.toBitVec

theorem bitAnd_lowBits : bitAnd b.toNat 0x0F = (b.toNat : Int) % 16 := by
  have hall : forall x : BitVec 8,
      bitAnd x.toNat 0x0F = (x.toNat : Int) % 16 := by
    decide +kernel
  exact hall b.toBitVec

theorem shiftRight_byte : shiftRight b.toNat 4 = (b.toNat : Int) / 16 := by
  have hall : forall x : BitVec 8,
      shiftRight x.toNat 4 = (x.toNat : Int) / 16 := by
    decide +kernel
  exact hall b.toBitVec

theorem bitOr_bytes :
    bitOr (shiftLeft b.toNat 8) b'.toNat =
      256 * (b.toNat : Int) + b'.toNat := by
  have hb := UInt8.toNat_lt b
  have hb' := UInt8.toNat_lt b'
  have hvalue : ((BitVec.ofNat 32 b.toNat) <<< 8 |||
      BitVec.ofNat 32 b'.toNat).toNat = 256 * b.toNat + b'.toNat := by
    rw [BitVec.toNat_or, BitVec.toNat_shiftLeft, BitVec.toNat_ofNat,
      BitVec.toNat_ofNat, Nat.mod_eq_of_lt (show b.toNat < 2 ^ 32 by lia),
      Nat.mod_eq_of_lt (show b'.toNat < 2 ^ 32 by lia), Nat.mod_eq_of_lt,
      ← Nat.shiftLeft_add_eq_or_of_lt hb', Nat.shiftLeft_eq]
    · lia
    · rw [Nat.shiftLeft_eq]
      lia
  rw [bitOr, shiftLeft, toInt32_toInt, toInt32, toInt32, BitVec.ofInt_natCast,
    BitVec.ofInt_natCast, BitVec.toInt_eq_toNat_of_lt (by lia), hvalue]
  lia

end Fields

theorem foptsDecodeLoop_known
    {data : Bytes} {idx : Nat} {fl : Int} {id : CommandId} (hfl : 0 < fl)
    (hid : data[idx]? = some id.byte)
    (MACcmds : List MACcmd) (readEnds : List Nat) :
    foptsDecodeLoop data idx fl MACcmds readEnds =
      foptsDecodeLoop data (idx + id.advance) (fl - (1 + id.payloadLength))
        (MACcmds ++ [id.entry ((data.drop (idx + 1)).take id.payloadLength)])
        (readEnds ++ [idx + 1 + id.looksAt]) := by
  rw [foptsDecodeLoop, if_pos hfl, hid]
  cases id with
  | linkCheckReq => rfl
  | linkAdrReq =>
      rcases copyCmd_eq data (idx + 1) 4 with ⟨cmd, hcmd, hload⟩
      have hentry : CommandId.linkAdrReq.entry
          ((data.drop (idx + 1)).take CommandId.linkAdrReq.payloadLength) =
            .link_adr_req (shiftRight (bitAnd (load cmd 0).toNat 0xF0) 4)
              (bitAnd (load cmd 0).toNat 0x0F)
              (bitOr (shiftLeft (load cmd 1).toNat 8) (load cmd 2).toNat)
              (shiftRight (load cmd 3).toNat 4)
              (bitAnd (load cmd 3).toNat 0x0F) := by
        rw [shiftRight_highBits, bitAnd_lowBits, bitOr_bytes, shiftRight_byte,
          bitAnd_lowBits, hload 0 (by decide), hload 1 (by decide),
          hload 2 (by decide), hload 3 (by decide)]
        rfl
      rw [hentry]
      show (copyCmd data (idx + 1) 4 >>= _) = _
      rw [hcmd]
      rfl
  | dutyCycleReq => rfl
  | rxParamSetupReq => rfl
  | devStatusReq => rfl
  | newChannelReq => rfl
  | rxTimingSetupReq =>
      rcases copyCmd_eq data (idx + 1) 1 with ⟨cmd, hcmd, hload⟩
      have hentry : CommandId.rxTimingSetupReq.entry ((data.drop (idx + 1)).take
          CommandId.rxTimingSetupReq.payloadLength) =
            .rx_timing_setup_req
              (if bitAnd (load cmd 0).toNat 0x0F = 0 then 1
              else bitAnd (load cmd 0).toNat 0x0F) := by
        rw [bitAnd_lowBits, hload 0 (by decide)]
        rfl
      rw [hentry]
      show (copyCmd data (idx + 1) 1 >>= _) = _
      rw [hcmd]
      rfl

theorem foptsDecodeLoop_unknown
    {data : Bytes} {idx : Nat} {fl : Int} (hfl : 0 < fl)
    (hid : forall id : CommandId, data[idx]? ≠ some id.byte)
    (MACcmds : List MACcmd) (readEnds : List Nat) :
    foptsDecodeLoop data idx fl MACcmds readEnds =
      .ok { error := true, MAC := MACcmds, readEnds := readEnds } := by
  have h2 : data[idx]? ≠ some 0x02 := hid .linkCheckReq
  have h3 : data[idx]? ≠ some 0x03 := hid .linkAdrReq
  have h4 : data[idx]? ≠ some 0x04 := hid .dutyCycleReq
  have h5 : data[idx]? ≠ some 0x05 := hid .rxParamSetupReq
  have h6 : data[idx]? ≠ some 0x06 := hid .devStatusReq
  have h7 : data[idx]? ≠ some 0x07 := hid .newChannelReq
  have h8 : data[idx]? ≠ some 0x08 := hid .rxTimingSetupReq
  rw [foptsDecodeLoop, if_pos hfl]
  dsimp only
  rw [if_neg h2, if_neg h3, if_neg h4, if_neg h5, if_neg h6, if_neg h7,
    if_neg h8]

theorem foptsDecodeLoop_done
    {data : Bytes} {idx : Nat} {fl : Int} (hfl : fl ≤ 0)
    (MACcmds : List MACcmd) (readEnds : List Nat) :
    foptsDecodeLoop data idx fl MACcmds readEnds =
      .ok { error := false, MAC := MACcmds, readEnds := readEnds } := by
  rw [foptsDecodeLoop, if_neg (Int.not_lt.mpr hfl)]

/-!
## A walk over known ids
-/

def advanceAll (ids : List CommandId) : Nat :=
  (ids.map CommandId.advance).sum

def countAll (ids : List CommandId) : Nat :=
  (ids.map (fun id => 1 + id.payloadLength)).sum

/-- From `idx` on the library meets the ids one after the other. -/
def Meets (data : Bytes) (idx : Nat) (ids : List CommandId) : Prop :=
  forall front id back, ids = front ++ id :: back ->
    data[idx + advanceAll front]? = some id.byte

def entriesAt (data : Bytes) : Nat -> List CommandId -> List MACcmd
  | _, [] => []
  | idx, id :: rest =>
      id.entry ((data.drop (idx + 1)).take id.payloadLength) ::
        entriesAt data (idx + id.advance) rest

def endsAt : Nat -> List CommandId -> List Nat
  | _, [] => []
  | idx, id :: rest => (idx + 1 + id.looksAt) :: endsAt (idx + id.advance) rest

@[simp] theorem advanceAll_cons (id : CommandId) (rest : List CommandId) :
    advanceAll (id :: rest) = id.advance + advanceAll rest := by
  simp [advanceAll]

@[simp] theorem countAll_cons (id : CommandId) (rest : List CommandId) :
    countAll (id :: rest) = 1 + id.payloadLength + countAll rest := by
  simp [countAll]

theorem meets_nil (data : Bytes) (idx : Nat) : Meets data idx [] := by
  intro front id back h
  cases front <;> cases h

theorem meets_cons_iff {data : Bytes} {idx : Nat} {id : CommandId}
    {rest : List CommandId} :
    Meets data idx (id :: rest) <->
      data[idx]? = some id.byte ∧ Meets data (idx + id.advance) rest := by
  constructor
  · intro h
    constructor
    · exact h [] id rest rfl
    · intro front id' back hrest
      have hsplit := h (id :: front) id' back (by rw [hrest]; rfl)
      rw [advanceAll_cons, ← Nat.add_assoc] at hsplit
      exact hsplit
  · intro h front id' back hsplit
    cases front with
    | nil =>
        cases hsplit
        exact h.1
    | cons a front =>
        rw [List.cons_append] at hsplit
        cases hsplit
        have hrest := h.2 front id' back rfl
        rw [advanceAll_cons, ← Nat.add_assoc]
        exact hrest

theorem meets_concat {data : Bytes} {idx : Nat} {ids : List CommandId}
    {last : CommandId} (h : Meets data idx ids)
    (hlast : data[idx + advanceAll ids]? = some last.byte) :
    Meets data idx (ids ++ [last]) := by
  induction ids generalizing idx with
  | nil => exact meets_cons_iff.mpr ⟨hlast, meets_nil _ _⟩
  | cons id rest ih =>
      rcases meets_cons_iff.mp h with ⟨hid, hrest⟩
      rw [advanceAll_cons, ← Nat.add_assoc] at hlast
      exact meets_cons_iff.mpr ⟨hid, ih hrest hlast⟩

theorem foptsDecodeLoop_meets
    {data : Bytes} {idx : Nat} {fl : Int} {ids : List CommandId}
    (hmeets : Meets data idx ids)
    (hfl : forall front id back, ids = front ++ id :: back ->
      (countAll front : Int) < fl)
    (MACcmds : List MACcmd) (readEnds : List Nat) :
    foptsDecodeLoop data idx fl MACcmds readEnds =
      foptsDecodeLoop data (idx + advanceAll ids) (fl - countAll ids)
        (MACcmds ++ entriesAt data idx ids) (readEnds ++ endsAt idx ids) := by
  induction ids generalizing idx fl MACcmds readEnds with
  | nil => simp [advanceAll, countAll, entriesAt, endsAt]
  | cons id rest ih =>
      rcases meets_cons_iff.mp hmeets with ⟨hid, hrest⟩
      have hpos : 0 < fl := hfl [] id rest rfl
      have hfl' : forall front id' back, rest = front ++ id' :: back ->
          (countAll front : Int) < fl - (1 + id.payloadLength) := by
        intro front id' back hsplit
        have hlt := hfl (id :: front) id' back (by rw [hsplit]; rfl)
        rw [countAll_cons] at hlt
        lia
      rw [foptsDecodeLoop_known hpos hid, ih hrest hfl', entriesAt, endsAt,
        advanceAll_cons, countAll_cons, List.append_assoc, List.append_assoc,
        Nat.add_assoc]
      congr 1
      lia

/-- Every run of the loop is such a walk, to an unknown id or until no bytes
are counted any more. -/
theorem exists_walk (data : Bytes) (idx : Nat) (fl : Int) :
    exists ids, Meets data idx ids ∧
      (forall front id back, ids = front ++ id :: back ->
        (countAll front : Int) < fl) ∧
      ((forall id : CommandId, data[idx + advanceAll ids]? ≠ some id.byte) ∧
          (countAll ids : Int) < fl ∨
        fl ≤ countAll ids) := by
  induction hn : fl.toNat using Nat.strongRecOn generalizing idx fl with
  | ind n ih =>
      by_cases hfl : 0 < fl
      · by_cases hknown : exists id : CommandId, data[idx]? = some id.byte
        · rcases hknown with ⟨id, hid⟩
          rcases ih (fl - (1 + id.payloadLength)).toNat (by lia)
              (idx + id.advance) (fl - (1 + id.payloadLength)) rfl with
            ⟨ids, hmeets, hcount, hend⟩
          refine ⟨id :: ids, meets_cons_iff.mpr ⟨hid, hmeets⟩, ?_, ?_⟩
          · intro front id' back hsplit
            cases front with
            | nil => exact hfl
            | cons a front =>
                rw [List.cons_append] at hsplit
                cases hsplit
                have hlt := hcount front id' back rfl
                rw [countAll_cons]
                lia
          · rw [advanceAll_cons, countAll_cons, ← Nat.add_assoc]
            rcases hend with ⟨hunknown, hlt⟩ | hle
            · exact Or.inl ⟨hunknown, by lia⟩
            · exact Or.inr (by lia)
        · refine ⟨[], meets_nil data idx, ?_, Or.inl ⟨?_, ?_⟩⟩
          · intro front id back h
            cases front <;> cases h
          · intro id hid
            exact hknown ⟨id, hid⟩
          · exact hfl
      · refine ⟨[], meets_nil data idx, ?_, Or.inr ?_⟩
        · intro front id back h
          cases front <;> cases h
        · exact Int.not_lt.mp hfl

structure StopsAtUnknown (data : Bytes) (ids : List CommandId) : Prop where
  meets : Meets data 0 ids
  counted : countAll ids < data.length
  unknown : forall id : CommandId, data[advanceAll ids]? ≠ some id.byte

structure RunsOut (data : Bytes) (ids : List CommandId) : Prop where
  meets : Meets data 0 ids
  before : forall front id back, ids = front ++ id :: back ->
    countAll front < data.length
  counted : data.length ≤ countAll ids

theorem countAll_append (front back : List CommandId) :
    countAll (front ++ back) = countAll front + countAll back := by
  simp [countAll]

theorem RunsOut.of_concat
    {data : Bytes} {init : List CommandId} {last : CommandId}
    (hmeets : Meets data 0 (init ++ [last]))
    (hlt : countAll init < data.length)
    (hle : data.length ≤ countAll (init ++ [last])) :
    RunsOut data (init ++ [last]) where
  meets := hmeets
  before := by
    intro front id back hsplit
    rcases List.eq_nil_or_concat back with rfl | ⟨back, id', rfl⟩
    · rcases List.append_inj' hsplit rfl with ⟨rfl, _⟩
      exact hlt
    · rw [List.concat_eq_append, ← List.cons_append,
        ← List.append_assoc] at hsplit
      rcases List.append_inj' hsplit rfl with ⟨rfl, _⟩
      rw [countAll_append] at hlt
      lia
  counted := hle

theorem foptsDecode_of_stopsAtUnknown
    {data : Bytes} {ids : List CommandId} (h : StopsAtUnknown data ids) :
    foptsDecode data =
      .ok { error := true, MAC := entriesAt data 0 ids
            readEnds := endsAt 0 ids } := by
  have hcounted := h.counted
  have hbefore : forall front id back, ids = front ++ id :: back ->
      (countAll front : Int) < data.length := by
    intro front id back hsplit
    have hsum : countAll ids = countAll front + countAll (id :: back) := by
      rw [hsplit, countAll_append]
    lia
  rw [foptsDecode, foptsDecodeLoop_meets h.meets hbefore, Nat.zero_add,
    foptsDecodeLoop_unknown (by lia) h.unknown]
  rfl

theorem foptsDecode_of_runsOut
    {data : Bytes} {ids : List CommandId} (h : RunsOut data ids) :
    foptsDecode data =
      .ok { error := false, MAC := entriesAt data 0 ids
            readEnds := endsAt 0 ids } := by
  have hcounted := h.counted
  have hbefore : forall front id back, ids = front ++ id :: back ->
      (countAll front : Int) < data.length := by
    intro front id back hsplit
    have hlt := h.before front id back hsplit
    lia
  rw [foptsDecode, foptsDecodeLoop_meets h.meets hbefore,
    foptsDecodeLoop_done (by lia)]
  rfl

theorem stopsAtUnknown_or_runsOut (data : Bytes) :
    (exists ids, StopsAtUnknown data ids) ∨ exists ids, RunsOut data ids := by
  rcases exists_walk data 0 data.length with ⟨ids, hmeets, hbefore, hend⟩
  rw [Nat.zero_add] at hend
  rcases hend with ⟨hunknown, hlt⟩ | hle
  · exact Or.inl ⟨ids, hmeets, by lia, hunknown⟩
  · right
    refine ⟨ids, hmeets, ?_, by lia⟩
    intro front id back hsplit
    have hlt := hbefore front id back hsplit
    lia

end LoRaWan
end Fluxnode
