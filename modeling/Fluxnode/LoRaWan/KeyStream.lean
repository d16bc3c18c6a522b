import Fluxnode.LoRaWan.Frame

/-!
# The blocks that go into AES

The counter mode of `__encryptPayload` is safe as long as no block goes into
AES twice.  A block has the direction, the counter and its number at fixed
positions, and a block of the MIC has another first byte, whatever the length
of the address.
-/

namespace Fluxnode
namespace LoRaWan

open Js

/-!
## The bytes of a block
-/

/-- The bytes of a block that do not come from the address. -/
structure HasBytes (block : Bytes) (first : UInt8) (dir fcnt : Int)
    (last : UInt8) : Prop where
  length : block.length = 16
  first : block[0]? = some first
  dir : block[5]? = some (dirByte dir)
  counterHigh : block[10]? = some (highByte (htons fcnt))
  counterLow : block[11]? = some (lowByte (htons fcnt))
  last : block[15]? = some last

def blockHeader (dir : Int) : Bytes :=
  1 :: 0 :: 0 :: 0 :: 0 :: dirByte dir :: List.replicate 10 0

theorem makeEncBase_of_ok
    {dir fcnt blocknum : Int} {addr block : Bytes}
    (h : makeEncBase dir fcnt addr blocknum = .ok block) :
    exists base base' : Bytes,
      typedArraySet (blockHeader dir) addr 6 = .ok base ∧
      typedArraySet base [highByte (htons fcnt), lowByte (htons fcnt)] 10 =
        .ok base' ∧
      block = store (store (store (store base' 12 0x00) 13 0x00) 14 0x00) 15
        (blocknum + 1) := by
  have hcounter : setUint16 [0, 0] 0 (htons fcnt) false =
      .ok [highByte (htons fcnt), lowByte (htons fcnt)] := by
    rw [setUint16, if_neg Bool.false_ne_true]
    exact typedArraySet_all rfl
  have hheader : makeEncBase dir fcnt addr blocknum =
      (typedArraySet (blockHeader dir) addr 6 >>= fun base =>
        typedArraySet base [highByte (htons fcnt), lowByte (htons fcnt)] 10
          >>= fun base =>
        .ok (store (store (store (store base 12 0x00) 13 0x00) 14 0x00) 15
          (blocknum + 1))) := by
    rw [makeEncBase, hcounter]
    by_cases hdir : dir = 1
    · simp only [if_pos hdir, blockHeader, dirByte]
      rfl
    · simp only [if_neg hdir, blockHeader, dirByte]
      rfl
  rw [hheader] at h
  cases haddr : typedArraySet (blockHeader dir) addr 6 with
  | error e =>
      rw [haddr] at h
      cases h
  | ok base =>
      rw [haddr] at h
      cases hset : typedArraySet base
          [highByte (htons fcnt), lowByte (htons fcnt)] 10 with
      | error e =>
          simp only [bind, Except.bind, hset] at h
          cases h
      | ok base' =>
          simp only [bind, Except.bind, hset] at h
          cases h
          exact ⟨base, base', rfl, hset, rfl⟩

theorem makeEncBase_hasBytes
    {dir fcnt blocknum : Int} {addr block : Bytes}
    (h : makeEncBase dir fcnt addr blocknum = .ok block) :
    HasBytes block 1 dir fcnt (toUint8 (blocknum + 1)) := by
  rcases makeEncBase_of_ok h with ⟨base, base', haddr, hset, rfl⟩
  have hlength : base'.length = 16 := by
    rw [length_typedArraySet hset, length_typedArraySet haddr]
    rfl
  have hbefore : forall i, i < 6 -> base'[i]? = (blockHeader dir)[i]? := by
    intro i hi
    rw [typedArraySet_getElem? hset, typedArraySet_getElem? haddr,
      if_neg (by lia), if_neg (by lia)]
  have hcounters : forall i, i = 10 ∨ i = 11 -> base'[i]? =
      [highByte (htons fcnt), lowByte (htons fcnt)][i - 10]? := by
    intro i hi
    rw [typedArraySet_getElem? hset, if_pos]
    simp only [List.length_cons, List.length_nil]
    lia
  exact
    { length := by
        simp only [length_store, hlength]
      first := by
        simp (disch := decide) only [store_other, hbefore]
        rfl
      dir := by
        simp (disch := decide) only [store_other, hbefore]
        rfl
      counterHigh := by
        simp (disch := decide) only [store_other]
        exact hcounters 10 (Or.inl rfl)
      counterLow := by
        simp (disch := decide) only [store_other]
        exact hcounters 11 (Or.inr rfl)
      last := by
        apply store_same
        simp only [length_store, hlength]
        decide }

/-- The block B0 that `__makeMic` puts in front of a message. -/
def firstBlock (dir fcnt : Int) (addr : Bytes) (length : Nat) :
    Except JsError Bytes := do
  let tmp <- makeEncBase dir fcnt addr 0
  let tmp := store tmp 0 0x49
  return store tmp 15 length

theorem firstBlock_hasBytes
    {dir fcnt : Int} {addr block : Bytes} {length : Nat}
    (h : firstBlock dir fcnt addr length = .ok block) :
    HasBytes block 0x49 dir fcnt (toUint8 length) := by
  cases hbase : makeEncBase dir fcnt addr 0 with
  | error e =>
      rw [firstBlock, hbase] at h
      cases h
  | ok tmp =>
      rw [firstBlock, hbase] at h
      cases h
      have hbytes := makeEncBase_hasBytes hbase
      have hlength := hbytes.length
      exact
        { length := by
            simp only [length_store, hlength]
          first := by
            rw [store_other (by decide), store_same (by lia)]
            rfl
          dir := by
            rw [store_other (by decide), store_other (by decide), hbytes.dir]
          counterHigh := by
            rw [store_other (by decide), store_other (by decide),
              hbytes.counterHigh]
          counterLow := by
            rw [store_other (by decide), store_other (by decide),
              hbytes.counterLow]
          last := by
            apply store_same
            rw [length_store]
            lia }

/-!
## What goes into AES
-/

def KeyStreamInput (addr : Bytes) (dir fcnt : Int) (block : Bytes) : Prop :=
  exists blocknum : Nat, blocknum < 256 ∧
    makeEncBase dir fcnt addr blocknum = .ok block

/-- `__encryptPayload` uses AES on blocks of its key stream only. -/
theorem encryptPayload_congr
    {crypto crypto' : Crypto} {payload addr key : Bytes} {fcnt dir : Int}
    (hpayload : payload.length ≤ 4096)
    (hsame : forall block, KeyStreamInput addr dir fcnt block ->
      crypto.aes128EcbEnc key block = crypto'.aes128EcbEnc key block) :
    encryptPayload crypto payload addr key fcnt dir =
      encryptPayload crypto' payload addr key fcnt dir := by
  have hloop : forall (blocks : List Nat) (keyStream : Bytes),
      (forall n, n ∈ blocks -> n < 256) ->
        keyStreamLoop crypto addr key fcnt dir blocks keyStream =
          keyStreamLoop crypto' addr key fcnt dir blocks keyStream := by
    intro blocks
    induction blocks with
    | nil =>
        intro keyStream _
        rfl
    | cons n rest ih =>
        intro keyStream hblocks
        rw [keyStreamLoop, keyStreamLoop]
        cases hpart : makeEncBase dir fcnt addr n with
        | error e => rfl
        | ok part =>
            have hinput : KeyStreamInput addr dir fcnt part :=
              ⟨n, hblocks n List.mem_cons_self, hpart⟩
            simp only [bind, Except.bind, hsame part hinput]
            cases typedArraySet keyStream (crypto'.aes128EcbEnc key part)
                (n * 16) with
            | error e => rfl
            | ok next =>
                apply ih next
                intro m hm
                exact hblocks m (List.mem_cons_of_mem n hm)
  have hblocks : forall n, n ∈ List.range ((payload.length + 15) / 16) ->
      n < 256 := by
    intro n hn
    have hlt := List.mem_range.mp hn
    lia
  simp only [encryptPayload, hloop _ _ hblocks]

/-- `__makeMic` uses the MAC on the block B0 and the message behind it. -/
theorem makeMic_firstBlock
    {crypto : Crypto} {pkt addr key mic : Bytes} {fcnt dir : Int}
    (h : makeMic crypto pkt addr key fcnt dir = .ok mic) :
    exists block, firstBlock dir fcnt addr pkt.length = .ok block ∧
      mic = (crypto.aes128Cmac key (block ++ pkt)).take 4 := by
  cases hbase : makeEncBase dir fcnt addr 0 with
  | error e =>
      cases hnew : newUint8Array (pkt.length + 16 : Nat) with
      | error e =>
          rw [makeMic, hnew] at h
          cases h
      | ok msg =>
          simp only [makeMic, hnew, hbase, bind, Except.bind] at h
          cases h
  | ok tmp =>
      rw [makeMic_of_base crypto hbase (makeEncBase_hasBytes hbase).length] at h
      cases h
      refine ⟨_, ?_, rfl⟩
      rw [firstBlock, hbase]
      rfl

/-!
## No block goes into AES twice
-/

/-- An address of four bytes gives blocks for AES.  Key streams of different
packets, and within one packet, have no block in common, and no block is a block
B0. -/
structure NeverRepeats (addr : Bytes) : Prop where
  built : addr.length = 4 -> forall dir fcnt blocknum : Int,
    exists block, makeEncBase dir fcnt addr blocknum = .ok block ∧
      block.length = 16
  packets : forall (dir dir' fcnt fcnt' : Int) (block block' : Bytes),
    (dir = 0 ∨ dir = 1) -> (dir' = 0 ∨ dir' = 1) ->
      (0 ≤ fcnt ∧ fcnt ≤ 65535) -> (0 ≤ fcnt' ∧ fcnt' ≤ 65535) ->
      (dir, fcnt) ≠ (dir', fcnt') ->
      KeyStreamInput addr dir fcnt block ->
      KeyStreamInput addr dir' fcnt' block' -> block ≠ block'
  blocks : forall (dir fcnt : Int) (m n : Nat) (block block' : Bytes),
    m < 256 -> n < 256 -> m ≠ n ->
      makeEncBase dir fcnt addr m = .ok block ->
      makeEncBase dir fcnt addr n = .ok block' -> block ≠ block'
  mic : forall (dir dir' fcnt fcnt' : Int) (length : Nat)
      (block block' : Bytes),
    KeyStreamInput addr dir fcnt block ->
      firstBlock dir' fcnt' addr length = .ok block' -> block ≠ block'

theorem counterBytes_injective {m n : Nat} (hm : m < 65536) (hn : n < 65536)
    (h : counterBytes m = counterBytes n) : m = n := by
  have hbytes := List.cons.inj h
  rw [← counterValue_counterBytes hm, ← counterValue_counterBytes hn,
    hbytes.1, (List.cons.inj hbytes.2).1]

theorem dirByte_injective {dir dir' : Int} (hdir : dir = 0 ∨ dir = 1)
    (hdir' : dir' = 0 ∨ dir' = 1) (h : dirByte dir = dirByte dir') :
    dir = dir' := by
  rcases hdir with rfl | rfl <;> rcases hdir' with rfl | rfl
  · rfl
  · exact absurd h (by decide)
  · exact absurd h (by decide)
  · rfl

theorem toUint8_succ_injective {m n : Nat} (hm : m < 256) (hn : n < 256)
    (h : toUint8 (m + 1) = toUint8 (n + 1)) : m = n := by
  have hvalue := congrArg UInt8.toNat h
  have hsucc : forall k : Nat, (toUint8 ((k : Int) + 1)).toNat =
      (k + 1) % 256 := by
    intro k
    rw [toUint8, ← Int.natCast_succ, BitVec.ofInt_natCast,
      UInt8.toNat_ofBitVec, BitVec.toNat_ofNat]
  rw [hsucc, hsucc] at hvalue
  lia

theorem HasBytes.counter_eq
    {block : Bytes} {first first' last last' : UInt8} {dir dir' : Int}
    {m n : Nat} (hm : m < 65536) (hn : n < 65536)
    (h : HasBytes block first dir m last)
    (h' : HasBytes block first' dir' n last') : m = n := by
  have hhigh := h.counterHigh.symm.trans h'.counterHigh
  have hlow := h.counterLow.symm.trans h'.counterLow
  rw [highByte_htons_of_lt hm, highByte_htons_of_lt hn] at hhigh
  rw [lowByte_htons, lowByte_htons] at hlow
  apply counterBytes_injective hm hn
  rw [counterBytes, counterBytes, Option.some.inj hhigh, Option.some.inj hlow]

theorem keyStream_neverRepeats (addr : Bytes) : NeverRepeats addr where
  built := by
    intro haddr dir fcnt blocknum
    have hbuilt := makeEncBase_eq haddr (blockCounter_lt fcnt) dir blocknum
    rw [← makeEncBase_counter] at hbuilt
    exact ⟨_, hbuilt, length_encBlock haddr⟩
  packets := by
    intro dir dir' fcnt fcnt' block block' hdir hdir' hfcnt hfcnt' hne hin hin'
      hsame
    rcases hin with ⟨m, _, hblock⟩
    rcases hin' with ⟨n, _, hblock'⟩
    have hbytes := makeEncBase_hasBytes hblock
    have hbytes' := makeEncBase_hasBytes hblock'
    rw [← hsame] at hbytes'
    rcases Int.eq_ofNat_of_zero_le hfcnt.1 with ⟨k, rfl⟩
    rcases Int.eq_ofNat_of_zero_le hfcnt'.1 with ⟨k', rfl⟩
    have hcounter : k = k' := hbytes.counter_eq (by lia) (by lia) hbytes'
    have hsameDir : dir = dir' := dirByte_injective hdir hdir'
      (Option.some.inj (hbytes.dir.symm.trans hbytes'.dir))
    apply hne
    rw [hcounter, hsameDir]
  blocks := by
    intro dir fcnt m n block block' hm hn hne hblock hblock' hsame
    have hbytes := makeEncBase_hasBytes hblock
    have hbytes' := makeEncBase_hasBytes hblock'
    rw [← hsame] at hbytes'
    exact hne (toUint8_succ_injective hm hn
      (Option.some.inj (hbytes.last.symm.trans hbytes'.last)))
  mic := by
    intro dir dir' fcnt fcnt' length block block' hin hfirst hsame
    rcases hin with ⟨m, _, hblock⟩
    have hbytes := makeEncBase_hasBytes hblock
    have hbytes' := firstBlock_hasBytes hfirst
    rw [← hsame] at hbytes'
    have hfirstByte := Option.some.inj (hbytes.first.symm.trans hbytes'.first)
    exact absurd hfirstByte (by decide)

end LoRaWan
end Fluxnode
