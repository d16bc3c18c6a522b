import Fluxnode.Record.Reassembly

/-!
# The length field on the wire

The first two bytes of a frame are a length of 16 bits, low byte first.  A
message that is longer is sent all the same, under a length that is not its
own, and a client that follows the documentation swaps the two bytes.
-/

namespace Fluxnode
namespace Record

open C
open Foundation

theorem declaredSize_header (n : Nat) :
    declaredSize (UInt8.ofNat n) (UInt8.ofNat (n / 256)) = n % 65536 := by
  rw [declaredSize, UInt8.toNat_ofNat', UInt8.toNat_ofNat']
  lia

theorem take_two_header (n : Nat) (rest : List UInt8) :
    header n ++ rest = UInt8.ofNat n :: UInt8.ofNat (n / 256) :: rest := rfl

/-!
## Messages that fit
-/

theorem sendFragments_cons
    (send : SendFunc) (sent : List Fragment) (first : Fragment)
    (todo : List Fragment) :
    exists more res,
      sendFragments send sent (first :: todo) =
          (sent ++ first :: more, res) ∧
        (res = 0 -> more = todo) := by
  induction todo generalizing sent first with
  | nil =>
      rw [sendFragments]
      split
      · exact ⟨[], _, rfl, fun _ => rfl⟩
      · exact ⟨[], _, rfl, fun _ => rfl⟩
  | cons next todo ih =>
      rw [sendFragments]
      split
      · rename_i hres
        refine ⟨[], _, rfl, ?_⟩
        intro hzero
        exact absurd hzero hres
      · rcases ih (sent ++ [first]) next with ⟨more, res, hsend, hall⟩
        refine ⟨next :: more, res, ?_, ?_⟩
        · rw [hsend, List.append_assoc, List.singleton_append]
        · intro hzero
          rw [hall hzero]

theorem recordSend_header
    {r : RecordT} {send : SendFunc} {payload : List UInt8}
    (hlenbytes : r.lenbytes = 2) (hsize : 2 ≤ r.recordSize)
    (hpayload : payload.length + 2 < 2 ^ 31) :
    exists frags res rest,
      recordSend r send payload (UInt32.ofNat payload.length) =
          some (frags, res) ∧
        frags.flatten = header payload.length ++ rest ∧
        (res = 0 -> rest = payload) := by
  have htwo : 2 ≤ r.recordSize.toNat := UInt32.le_iff_toNat_le.mp hsize
  have hpieces := chunks_of_pos (show 0 < r.recordSize.toNat by lia)
    (frame_ne_nil payload)
  rw [take_frame payload htwo] at hpieces
  have hall := chunks_flatten (show 0 < r.recordSize.toNat by lia)
    (frame payload)
  rw [hpieces, List.flatten_cons, List.append_assoc] at hall
  have hsend := @recordSend_eq_sendFragments r send payload hlenbytes hsize
    hpayload
  rw [hpieces] at hsend
  rcases sendFragments_cons send [] _ _ with ⟨more, res, hsent, hmore⟩
  rw [hsent] at hsend
  refine ⟨_, res, payload.take (r.recordSize.toNat - 2) ++ more.flatten,
    hsend, ?_, ?_⟩
  · rw [List.nil_append, List.flatten_cons, List.append_assoc]
  · intro hzero
    rw [hmore hzero]
    exact List.append_cancel_left hall

/-!
## Messages of any length

Without a failure the number of bytes follows from the number of rounds.
-/

def allSent : SendFunc :=
  fun _ => 0

theorem not_allSent_ne_zero (sent : List Fragment) : ¬ allSent sent ≠ 0 :=
  not_not.mpr rfl

theorem recordSendLoop_round
    {payload : List UInt8} {len cur curLen : SizeT} {n : Nat}
    {sent out : List Fragment} {res : Int}
    (h : recordSendLoop allSent payload len (n + 1) cur curLen sent =
      some (out, res)) :
    exists size : SizeT, exists frag : Fragment,
      size = (if cur + curLen > len then len - cur else curLen) ∧
        cur.toNat + size.toNat ≤ payload.length ∧
        frag.length = size.toNat ∧
        recordSendLoop allSent payload len n (cur + size) size
          (sent ++ [frag]) = some (out, res) := by
  rw [recordSendLoop] at h
  dsimp only at h
  exists if cur + curLen > len then len - cur else curLen
  cases hread : readBytes payload cur.toNat
      (if cur + curLen > len then len - cur else curLen).toNat with
  | none =>
      rw [hread] at h
      cases h
  | some frag =>
      rw [hread] at h
      dsimp only at h
      rw [if_neg (not_allSent_ne_zero _)] at h
      rcases length_of_readBytes hread with ⟨hfits, hlength⟩
      exact ⟨frag, rfl, hfits, hlength, h⟩

theorem recordSendLoop_allSent
    {payload : List UInt8} {len cur curLen : SizeT} {n : Nat}
    {sent out : List Fragment} {res : Int}
    (hlen : len.toNat = payload.length) (hcur : cur.toNat ≤ payload.length)
    (h : recordSendLoop allSent payload len n cur curLen sent =
      some (out, res)) :
    res = 0 ∧ sent <+: out ∧ out.flatten.length = sent.flatten.length +
      min (n * curLen.toNat) (payload.length - cur.toNat) := by
  induction n generalizing cur curLen sent with
  | zero =>
      rw [recordSendLoop] at h
      cases h
      simp
  | succ n ih =>
      rcases recordSendLoop_round h with
        ⟨size, frag, hsize, hfits, hfrag, hrest⟩
      have hround : size.toNat =
          min curLen.toNat (payload.length - cur.toNat) := by
        by_cases hcond : cur + curLen > len
        · have hle : cur ≤ len := by
            rw [UInt32.le_iff_toNat_le, hlen]
            exact hcur
          rw [gt_iff_lt, UInt32.lt_iff_toNat_lt, UInt32.toNat_add, hlen]
            at hcond
          have hmod := Nat.mod_le (cur.toNat + curLen.toNat) (2 ^ 32)
          rw [hsize, if_pos (by
            rw [gt_iff_lt, UInt32.lt_iff_toNat_lt, UInt32.toNat_add, hlen]
            exact hcond), UInt32.toNat_sub_of_le _ _ hle, hlen]
          lia
        · rw [if_neg hcond] at hsize
          rw [hsize] at hfits ⊢
          lia
      have hnext : (cur + size).toNat = cur.toNat + size.toNat := by
        have hbound := len.toNat_lt
        rw [UInt32.toNat_add]
        exact Nat.mod_eq_of_lt (by lia)
      rcases ih (by lia) hrest with ⟨hres, hprefix, hlength⟩
      refine ⟨hres, (List.prefix_append sent [frag]).trans hprefix, ?_⟩
      · rw [hlength, hnext, List.flatten_append, List.length_append,
          List.flatten_singleton, hfrag, Nat.add_mul, Nat.one_mul]
        rcases Nat.le_total curLen.toNat (payload.length - cur.toNat) with
          hmore | hlast
        · rw [Nat.min_eq_left hmore] at hround
          rw [hround]
          generalize n * curLen.toNat = total
          lia
        · rw [Nat.min_eq_right hlast] at hround
          have hdone : payload.length - (cur.toNat + size.toNat) = 0 := by lia
          rw [hdone, Nat.min_zero, hround]
          generalize n * curLen.toNat = total
          lia

theorem length_lt_of_alloc {n : Nat} {size : SizeT} (hn : n < 2 ^ 32)
    (hsize : 2 ≤ size.toNat)
    (halloc : ¬ (if UInt32.ofNat n + 2 < size then UInt32.ofNat n + 2
      else size) < 2) : n + 2 < 2 ^ 32 := by
  by_contra hwrap
  have hsum : (UInt32.ofNat n + 2).toNat = n + 2 - 2 ^ 32 := by
    rw [UInt32.toNat_add, UInt32.toNat_ofNat_of_lt' hn]
    show (n + 2) % 2 ^ 32 = n + 2 - 2 ^ 32
    lia
  have hlt : UInt32.ofNat n + 2 < size := by
    rw [UInt32.lt_iff_toNat_lt, hsum]
    lia
  apply halloc
  rw [if_pos hlt, UInt32.lt_iff_toNat_lt, hsum]
  show n + 2 - 2 ^ 32 < 2
  lia

theorem frame_lt_of_recordSend
    {r : RecordT} {send : SendFunc} {payload : List UInt8}
    {frags : List Fragment} {res : Int}
    (hlenbytes : r.lenbytes = 2) (hsize : 2 ≤ r.recordSize.toNat)
    (hpayload : payload.length < 2 ^ 32)
    (h : recordSend r send payload (UInt32.ofNat payload.length) =
      some (frags, res)) : payload.length + 2 < 2 ^ 32 := by
  have hzero : r.recordSize ≠ 0 := by
    intro hzero
    rw [hzero] at hsize
    exact absurd hsize (by decide)
  simp only [recordSend, hlenbytes, if_neg hzero, toUInt32_allocSize] at h
  apply length_lt_of_alloc hpayload hsize
  intro hsmall
  rw [if_pos hsmall] at h
  cases h

/-- Without a failure the payload follows the length bytes, but for one length
at which the number of records overflows: there is nothing behind them. -/
theorem recordSend_allSent
    {r : RecordT} {payload : List UInt8} {frags : List Fragment} {res : Int}
    (hlenbytes : r.lenbytes = 2) (hsize : 2 ≤ r.recordSize)
    (hpayload : payload.length < 2 ^ 32)
    (h : recordSend r allSent payload (UInt32.ofNat payload.length) =
      some (frags, res)) :
    res = 0 ∧ exists rest, frags.flatten = header payload.length ++ rest ∧
      (rest.length = payload.length ∨
        rest.length = 0 ∧ payload.length = 2 ^ 32 - 3) := by
  have htwo : 2 ≤ r.recordSize.toNat := UInt32.le_iff_toNat_le.mp hsize
  have hlen : (UInt32.ofNat payload.length).toNat = payload.length :=
    UInt32.toNat_ofNat_of_lt' hpayload
  have hfits := frame_lt_of_recordSend hlenbytes htwo hpayload h
  rcases recordSend_firstRecord allSent hlenbytes hsize hfits with
    ⟨alloc, numRecords, halloc, hcount, hsend⟩
  rw [hsend, if_neg (not_allSent_ne_zero _)] at h
  have hbody : (alloc - 2).toNat = alloc.toNat - 2 := by
    apply UInt32.toNat_sub_of_le
    rw [UInt32.le_iff_toNat_le, halloc]
    show 2 ≤ min r.recordSize.toNat (payload.length + 2)
    lia
  rcases recordSendLoop_allSent hlen (by lia) h with
    ⟨hres, ⟨more, hmore⟩, hlength⟩
  have hflat : frags.flatten = header payload.length ++
      (payload.take (r.recordSize.toNat - 2) ++ more.flatten) := by
    rw [← hmore, take_frame payload htwo, List.flatten_append,
      List.flatten_singleton, List.append_assoc]
  refine ⟨hres, _, hflat, ?_⟩
  have hrest : (payload.take (r.recordSize.toNat - 2) ++ more.flatten).length =
      alloc.toNat - 2 + min ((numRecords - 1).toNat * r.recordSize.toNat)
        (payload.length - (alloc.toNat - 2)) := by
    have hboth := congrArg List.length hflat
    rw [hlength, List.length_append, length_header, List.flatten_singleton,
      take_frame payload htwo, List.length_append, length_header,
      List.length_take, hbody] at hboth
    lia
  rw [hrest]
  rcases Nat.lt_or_ge (payload.length + 2) r.recordSize.toNat with
    hshort | hlong
  · left
    rw [Nat.min_eq_right (Nat.le_of_lt hshort)] at halloc
    rw [halloc, Nat.add_sub_cancel, Nat.sub_self, Nat.min_zero]
    rfl
  · rw [Nat.min_eq_left hlong] at halloc
    rw [halloc]
    rcases hcount with hcount | ⟨hneg, hsmall, hlast⟩
    · left
      have hrounds : payload.length - (r.recordSize.toNat - 2) ≤
          (numRecords - 1).toNat * r.recordSize.toNat := by
        have hall := le_pieceCount_mul (payload.length + 2)
          (show 0 < r.recordSize.toNat by lia)
        rw [hcount, show ((pieceCount (payload.length + 2)
          r.recordSize.toNat : Int) - 1).toNat =
            pieceCount (payload.length + 2) r.recordSize.toNat - 1 by lia,
          Nat.sub_mul, Nat.one_mul]
        lia
      lia
    · right
      rw [show (numRecords - 1).toNat = 0 by lia, hsmall]
      constructor
      · lia
      · lia

/-!
## The length that is sent
-/

/-- Nothing is sent and a failure returned, or the length in front is that of
the message and, unless a call of the callback fails, the number of bytes that
follow. -/
def SendsTrueLength (r : RecordT) (payload : List UInt8) : Prop :=
  forall send : SendFunc, exists frags res,
    recordSend r send payload (UInt32.ofNat payload.length) =
        some (frags, res) ∧
      (frags = [] ∧ res ≠ 0 ∨
        exists low high rest, frags.flatten = low :: high :: rest ∧
          declaredSize low high = payload.length ∧
          (res = 0 -> declaredSize low high = rest.length))

theorem sendsTrueLength_of_fits
    {r : RecordT} {payload : List UInt8} (hlenbytes : r.lenbytes = 2)
    (hsize : 2 ≤ r.recordSize) (hfits : payload.length ≤ 65535) :
    SendsTrueLength r payload := by
  intro send
  rcases @recordSend_header r send payload hlenbytes hsize (by lia) with
    ⟨frags, res, rest, hsend, hflat, hrest⟩
  have htrue : declaredSize (UInt8.ofNat payload.length)
      (UInt8.ofNat (payload.length / 256)) = payload.length := by
    rw [declaredSize_header]
    exact Nat.mod_eq_of_lt (by lia)
  refine ⟨frags, res, hsend, Or.inr ⟨_, _, rest, hflat, htrue, ?_⟩⟩
  intro hzero
  rw [htrue, hrest hzero]

theorem SendsTrueLength.fits
    {r : RecordT} {payload : List UInt8} (h : SendsTrueLength r payload)
    (hlenbytes : r.lenbytes = 2) (hsize : 2 ≤ r.recordSize)
    (hpayload : payload.length < 2 ^ 32) : payload.length ≤ 65535 := by
  rcases h allSent with ⟨frags, res, hsend, hwhat⟩
  rcases recordSend_allSent hlenbytes hsize hpayload hsend with
    ⟨hzero, rest, hflat, hlength⟩
  rcases hwhat with ⟨_, hres⟩ | ⟨low, high, rest', hflat', _, htrue⟩
  · exact absurd hzero hres
  · rw [hflat, take_two_header] at hflat'
    cases hflat'
    have hsame := htrue hzero
    rw [declaredSize_header] at hsame
    rcases hlength with hall | ⟨hnone, hlast⟩
    · lia
    · lia

/-- The length is true exactly for the messages whose length has 16 bits. -/
theorem sendsTrueLength_iff_fits
    {r : RecordT} {payload : List UInt8} (hlenbytes : r.lenbytes = 2)
    (hsize : 2 ≤ r.recordSize) (hpayload : payload.length < 2 ^ 32) :
    SendsTrueLength r payload <-> payload.length ≤ 65535 := by
  constructor
  · intro h
    exact h.fits hlenbytes hsize hpayload
  · exact sendsTrueLength_of_fits hlenbytes hsize

theorem sendsTrueLength_of_three_bytes :
    SendsTrueLength (idle 18) [1, 2, 3] :=
  (sendsTrueLength_iff_fits rfl (by decide) (by decide)).mpr (by decide)

/-- A message of 65536 bytes goes out under the length 0. -/
theorem long_message_not_true :
    ¬ SendsTrueLength (idle 18) (List.replicate 65536 0) := by
  intro h
  have hfits := h.fits rfl (by decide) (by rw [List.length_replicate]; decide)
  rw [List.length_replicate] at hfits
  exact absurd hfits (by decide)

/-!
## The documented order
-/

def networkOrder (n : Nat) : List UInt8 :=
  [UInt8.ofNat (n / 256), UInt8.ofNat n]

/-- A message of length `n` goes out with the length bytes in network byte
order, and a frame that starts with them is taken for one of length `n`. -/
structure FollowsDocs (n : Nat) : Prop where
  sends : forall (r : RecordT) (send : SendFunc) (payload : List UInt8),
    r.lenbytes = 2 -> 2 ≤ r.recordSize -> payload.length = n ->
      exists frags res rest,
        recordSend r send payload (UInt32.ofNat n) = some (frags, res) ∧
          frags.flatten = networkOrder n ++ rest
  receives : forall (recordSize : SizeT) (body : List UInt8),
    body.length ≤ n ->
      exists r,
        recordAdd (idle recordSize) (networkOrder n ++ body)
            (UInt32.ofNat (networkOrder n ++ body).length) = some r ∧
          recordLen r = UInt32.ofNat n

theorem networkOrder_eq_header {n : Nat} (h : n / 256 = n % 256) :
    networkOrder n = header n := by
  have hlow : UInt8.ofNat n = UInt8.ofNat (n / 256) := by
    apply UInt8.toNat_inj.mp
    rw [UInt8.toNat_ofNat', UInt8.toNat_ofNat']
    lia
  rw [networkOrder, header, hlow]

theorem followsDocs_of_equal_bytes {n : Nat} (h : n / 256 = n % 256) :
    FollowsDocs n where
  sends := by
    intro r send payload hlenbytes hsize hpayload
    rcases @recordSend_header r send payload hlenbytes hsize (by lia) with
      ⟨frags, res, rest, hsend, hflat, _⟩
    rw [hpayload] at hsend hflat
    rw [networkOrder_eq_header h]
    exact ⟨frags, res, rest, hsend, hflat⟩
  receives := by
    intro recordSize body hbody
    rcases exists_tail hbody with ⟨tail, htail⟩
    have hlength : (body ++ tail).length = n := by
      rw [List.length_append, htail]
    have hadd := @recordAdd_idle recordSize (body ++ tail) body.length
      (by lia) (by lia)
    rw [hlength, List.take_left] at hadd
    rw [networkOrder_eq_header h]
    refine ⟨_, hadd, ?_⟩
    rw [recordLen, collecting, hlength]

theorem FollowsDocs.equal_bytes {n : Nat} (hn : n ≤ 65535)
    (h : FollowsDocs n) : n / 256 = n % 256 := by
  have hlength : (List.replicate n (0 : UInt8)).length = n :=
    List.length_replicate
  rcases h.sends (idle 2) allSent (List.replicate n 0) rfl (by decide)
    hlength with ⟨frags, res, rest, hsend, hflat⟩
  rcases @recordSend_header (idle 2) allSent (List.replicate n 0) rfl
    (by decide) (by lia) with ⟨frags', res', rest', hsend', hflat', _⟩
  rw [hlength] at hsend' hflat'
  rw [hsend] at hsend'
  cases hsend'
  rw [hflat, take_two_header] at hflat'
  have hfirst := congrArg UInt8.toNat (List.cons.inj hflat').1
  rw [UInt8.toNat_ofNat', UInt8.toNat_ofNat'] at hfirst
  lia

/-- Sender and receiver follow the documentation exactly for the lengths whose
two bytes are equal. -/
theorem followsDocs_iff_equal_bytes {n : Nat} (hn : n ≤ 65535) :
    FollowsDocs n <-> n / 256 = n % 256 := by
  constructor
  · exact FollowsDocs.equal_bytes hn
  · exact followsDocs_of_equal_bytes

theorem followsDocs_257 : FollowsDocs 257 :=
  (followsDocs_iff_equal_bytes (by decide)).mpr (by decide)

/-- The length 1 goes out as 1, 0, and 0, 1 is taken for 256. -/
theorem length_one_not_documented :
    ¬ FollowsDocs 1 ∧
      recordSend (idle 18) allSent [7] 1 = some ([[1, 0, 7]], 0) ∧
      (recordAdd (idle 18) [0, 1, 7] 3).map recordLen = some 256 := by
  refine ⟨?_, rfl, ?_⟩
  · intro h
    exact absurd (h.equal_bytes (by decide)) (by decide)
  · have hadd := @recordAdd_start 18 0 1 [7] (List.replicate 255 0)
      (by rw [List.length_replicate]; rfl)
    have hlength : ([7] ++ List.replicate 255 (0 : UInt8)).length = 256 := by
      rw [List.length_append, List.length_replicate]
      rfl
    rw [show (3 : UInt32) = UInt32.ofNat [0, 1, (7 : UInt8)].length from rfl,
      hadd, Option.map_some, recordLen, collecting, hlength]
    rfl

end Record
end Fluxnode
