import Fluxnode.Record.Fragments
import Fluxnode.Record.Sessions
import Fluxnode.Foundation.Run

/-!
# Fragments and the MTU of the connection

The flux profile keeps one MTU.  An MTU event of any connection sets it, and no
other event does, so a client that connects after another one is served with
the MTU that the other one had negotiated.
-/

namespace Fluxnode
namespace Record

open C
open Foundation

/-!
## Lengths of fragments
-/

/-- The loop hands over nothing longer than the record size.  The invariant is
that `cur` stays inside the message. -/
theorem length_le_of_recordSendLoop {send : SendFunc} {payload : List UInt8}
    {len : SizeT} (hlen : len.toNat = payload.length) {rounds : Nat}
    {cur curLen : SizeT} {sent frags : List Fragment} {res : Int}
    (hcur : cur.toNat ≤ payload.length)
    (hsent : recordSendLoop send payload len rounds cur curLen sent =
      some (frags, res)) :
    exists rest, frags = sent ++ rest ∧
      forall f, f ∈ rest -> f.length ≤ curLen.toNat := by
  induction rounds generalizing cur curLen sent with
  | zero =>
      cases hsent
      exact ⟨[], (List.append_nil _).symm, by simp⟩
  | succ rounds ih =>
      rw [recordSendLoop] at hsent
      have hshorter :
          (if cur + curLen > len then len - cur else curLen).toNat ≤
            curLen.toNat := by
        split
        · rename_i hover
          rw [gt_iff_lt, UInt32.lt_iff_toNat_lt, UInt32.toNat_add] at hover
          rw [UInt32.toNat_sub_of_le _ _ (UInt32.le_iff_toNat_le.mpr (by lia))]
          have := curLen.toNat_lt
          lia
        · exact Nat.le_refl _
      generalize (if cur + curLen > len then len - cur else curLen) = size
        at hsent hshorter
      dsimp only at hsent
      split at hsent
      · cases hsent
      · rename_i piece hread
        rcases length_of_readBytes hread with ⟨hin, hpiece⟩
        split at hsent
        · cases hsent
          refine ⟨[piece], rfl, ?_⟩
          intro f hf
          rw [List.mem_singleton.mp hf, hpiece]
          exact hshorter
        · have hnext : (cur + size).toNat ≤ payload.length := by
            rw [UInt32.toNat_add]
            exact Nat.le_trans (Nat.mod_le _ _) hin
          rcases ih hnext hsent with ⟨rest, hfrags, hrest⟩
          refine ⟨piece :: rest, ?_, ?_⟩
          · rw [hfrags, List.append_assoc, List.singleton_append]
          · intro f hf
            cases hf with
            | head => exact Nat.le_trans (Nat.le_of_eq hpiece) hshorter
            | tail _ hmem => exact Nat.le_trans (hrest f hmem) hshorter

theorem toNat_allocSize_of_two_le {len size : SizeT}
    (hbig : 2 ≤ (if len + 2 < size then len + 2 else size).toNat) :
    len.toNat + 2 < 2 ^ 32 ∧
      (if len + 2 < size then len + 2 else size).toNat =
        min size.toNat (len.toNat + 2) := by
  have hle : (if len + 2 < size then len + 2 else size).toNat ≤
      (len + 2).toNat := by
    split
    · exact Nat.le_refl _
    · exact UInt32.le_iff_toNat_le.mp (UInt32.not_lt.mp ‹_›)
  have hfits : len.toNat + 2 < 2 ^ 32 := by
    have htwo : UInt32.toNat 2 = 2 := rfl
    rw [UInt32.toNat_add, htwo] at hle
    have := len.toNat_lt
    lia
  exact ⟨hfits, toNat_allocSize size hfits⟩

theorem numRecords_of_lt {total size : SizeT} (hpos : 0 < total.toNat)
    (hlt : total.toNat < size.toNat) :
    (if total % size > 0 then (total / size).toInt32 + 1
      else (total / size).toInt32).toInt = 1 := by
  have hquot : total / size = 0 := by
    apply UInt32.toNat_inj.mp
    rw [UInt32.toNat_div, Nat.div_eq_of_lt hlt]
    rfl
  have hmod : total % size > 0 := by
    rw [gt_iff_lt, UInt32.lt_iff_toNat_lt, UInt32.toNat_mod,
      Nat.mod_eq_of_lt hlt]
    exact hpos
  rw [if_pos hmod, hquot]
  rfl

theorem lengths_of_recordSend {r : RecordT} {send : SendFunc}
    {payload : List UInt8} {frags : List Fragment} {res : Int}
    (hlenbytes : r.lenbytes = 2) (hpayload : payload.length < 2 ^ 32)
    (hsent : recordSend r send payload (UInt32.ofNat payload.length) =
      some (frags, res)) :
    exists first rest, frags = first :: rest ∧
      first.length = min r.recordSize.toNat (payload.length + 2) ∧
      forall f, f ∈ rest ->
        f.length ≤ min r.recordSize.toNat (payload.length + 2) := by
  have hlen : (UInt32.ofNat payload.length).toNat = payload.length :=
    UInt32.toNat_ofNat_of_lt' hpayload
  have hzero : r.recordSize ≠ 0 := by
    intro hzero
    simp [recordSend, hzero] at hsent
  simp only [recordSend, hlenbytes, if_neg hzero, toUInt32_allocSize] at hsent
  have hsize := @toNat_allocSize_of_two_le (UInt32.ofNat payload.length)
    r.recordSize
  generalize (if UInt32.ofNat payload.length + 2 < r.recordSize then
    UInt32.ofNat payload.length + 2 else r.recordSize) = alloc at hsent hsize
  have hbig : ¬ alloc < 2 := by
    intro hsmall
    simp [hsmall] at hsent
  rw [if_neg hbig] at hsent
  have htwo : 2 ≤ alloc.toNat :=
    UInt32.le_iff_toNat_le.mp (UInt32.not_lt.mp hbig)
  rcases hsize htwo with ⟨hframe, hfirst⟩
  rw [hlen] at hframe hfirst
  have hbody : (alloc - 2).toNat = alloc.toNat - 2 :=
    UInt32.toNat_sub_of_le _ _ (UInt32.not_lt.mp hbig)
  split at hsent
  · cases hsent
  · rename_i body hread
    have hlength := (length_of_readBytes hread).2
    split at hsent
    · cases hsent
      exact ⟨_, [], rfl, by simp only [List.length_cons]; lia, by simp⟩
    · by_cases hone : payload.length + 2 < r.recordSize.toNat
      · -- the whole frame is in the first fragment, and no round is left
        have htotal : (UInt32.ofNat payload.length + Int32.toUInt32 2).toNat =
            payload.length + 2 := by
          rw [UInt32.toNat_add, hlen]
          exact Nat.mod_eq_of_lt hframe
        rw [numRecords_of_lt (by lia) (by lia)] at hsent
        cases hsent
        exact ⟨_, [], rfl, by simp only [List.length_cons]; lia, by simp⟩
      · rcases length_le_of_recordSendLoop hlen (by lia) hsent with
          ⟨rest, rfl, hrest⟩
        refine ⟨_, rest, rfl, by simp only [List.length_cons]; lia, ?_⟩
        intro f hf
        have := hrest f hf
        lia

/-!
## Connections and calls

The MTU of a connection is 23 from its start until its own MTU event.  The
handler gets the connection with the event and does not look at it.
-/

structure Message where
  bytes : List UInt8
  length_lt : bytes.length < 2 ^ 32
  deriving DecidableEq, Repr

/-- The globals of the profile, and the MTU that holds on every connection. -/
structure Link where
  profile : FluxProfile
  mtus : UInt16 -> UInt16

inductive LinkAction where
  | connect (connId : UInt16) (gattsIf : UInt8) (remoteBda : List UInt8)
  | mtu (connId size : UInt16)
  | disconnect (connId : UInt16)
  | send (sendFunction : SendFunc) (message : Message)

/-- `ble_server_send`: the fragments for `flux_conn_id` and the returned
value.  `record_send` does not read the other fields of the record. -/
def bleServerSend (p : FluxProfile) (sendFunction : SendFunc)
    (message : Message) : Option (List Fragment × Int) :=
  if !p.isConnected then
    some ([], 0)
  else
    recordSend
      { recordSize := p.mtuSize.toUInt32 - 5
        lenbytes := 2
        len := 0
        cur := 0
        buf := none }
      sendFunction message.bytes (UInt32.ofNat message.bytes.length)

def linkStep : LinkAction -> Link -> Option Link
  | .connect connId gattsIf remoteBda, s =>
      (eventHandler s.profile (.connect connId gattsIf remoteBda)).map
        (fun r => { profile := r.1, mtus := Function.update s.mtus connId 23 })
  | .mtu connId size, s =>
      (eventHandler s.profile (.mtu size)).map
        (fun r => { profile := r.1, mtus := Function.update s.mtus connId size })
  | .disconnect _, s =>
      (eventHandler s.profile .disconnect).map
        (fun r => { s with profile := r.1 })
  | .send sendFunction message, s =>
      (bleServerSend s.profile sendFunction message).map (fun _ => s)

def Link.currentMtu (s : Link) : UInt16 :=
  s.mtus s.profile.connId

def FragmentsFit : LinkAction -> Link -> Prop
  | .send sendFunction message, s =>
      forall frags res,
        bleServerSend s.profile sendFunction message = some (frags, res) ->
          forall f, f ∈ frags -> f.length + 3 ≤ s.currentMtu.toNat
  | _, _ => True

/-- A send while nobody is connected, of a message that fits as a whole, or
with an MTU that is not too far above the one of the connection. -/
def MtuFits : LinkAction -> Link -> Prop
  | .send _ message, s =>
      s.profile.isConnected = true ->
        message.bytes.length + 5 ≤ s.currentMtu.toNat ∨
          5 ≤ s.profile.mtuSize.toNat ∧
            s.profile.mtuSize.toNat ≤ s.currentMtu.toNat + 2
  | _, _ => True

instance MtuFits.decidable : forall action s, Decidable (MtuFits action s)
  | .connect _ _ _, _ => isTrue trivial
  | .mtu _ _, _ => isTrue trivial
  | .disconnect _, _ => isTrue trivial
  | .send _ message, s =>
      inferInstanceAs (Decidable (s.profile.isConnected = true ->
        message.bytes.length + 5 ≤ s.currentMtu.toNat ∨
          5 ≤ s.profile.mtuSize.toNat ∧
            s.profile.mtuSize.toNat ≤ s.currentMtu.toNat + 2))

/-!
## The fragments of a run
-/

theorem min_recordSize_le (mtuSize currentMtu : UInt16) (n : Nat) :
    min (mtuSize.toUInt32 - 5).toNat (n + 2) + 3 ≤ currentMtu.toNat ↔
      n + 5 ≤ currentMtu.toNat ∨
        5 ≤ mtuSize.toNat ∧ mtuSize.toNat ≤ currentMtu.toNat + 2 := by
  have hbound := currentMtu.toNat_lt
  have hsize := mtuSize.toNat_lt
  have hfive : UInt32.toNat 5 = 5 := rfl
  rw [UInt32.toNat_sub, UInt16.toNat_toUInt32, hfive]
  omega

theorem fragmentsFit_send {s : Link} {sendFunction : SendFunc}
    {message : Message} {frags : List Fragment} {res : Int}
    (hsent : bleServerSend s.profile sendFunction message =
      some (frags, res)) :
    FragmentsFit (.send sendFunction message) s ↔
      MtuFits (.send sendFunction message) s := by
  cases hconnected : s.profile.isConnected with
  | false => simp [FragmentsFit, MtuFits, bleServerSend, hconnected]
  | true =>
      have hcall := hsent
      simp only [bleServerSend, hconnected, Bool.not_true, Bool.false_eq_true,
        if_false] at hcall
      rcases lengths_of_recordSend rfl message.length_lt hcall with
        ⟨first, rest, rfl, hfirst, hrest⟩
      simp only [MtuFits, hconnected, forall_const]
      rw [← min_recordSize_le, ← hfirst]
      constructor
      · intro hfit
        exact hfit _ _ hsent first (.head _)
      · intro hroom frags res hsent' f hf
        rw [hsent] at hsent'
        cases hsent'
        cases hf with
        | head => exact hroom
        | tail _ hmem =>
            have := hrest f hmem
            lia

theorem fragmentsFit_iff (action : LinkAction) (s s' : Link)
    (hstep : linkStep action s = some s') :
    FragmentsFit action s ↔ MtuFits action s := by
  cases action with
  | connect connId gattsIf remoteBda => exact Iff.rfl
  | mtu connId size => exact Iff.rfl
  | disconnect connId => exact Iff.rfl
  | send sendFunction message =>
      rw [linkStep, Option.map_eq_some_iff] at hstep
      rcases hstep with ⟨⟨frags, res⟩, hsent, _⟩
      exact fragmentsFit_send hsent

/--
In every run of connections, MTU events and sends, the fragments fit the
connections they are sent on exactly when at every send the one MTU that the
profile keeps does, or the whole message.
-/
theorem fragments_fit {actions : List LinkAction} {s s' : Link}
    (hrun : runAll linkStep actions s = some s') :
    EveryStep linkStep FragmentsFit actions s ↔
      EveryStep linkStep MtuFits actions s :=
  EveryStep.congr fragmentsFit_iff hrun

/-!
## A client after one with a larger MTU
-/

def firstLink : Link where
  profile := firstProfile
  mtus := fun _ => 23

def clientWithMtu : List LinkAction :=
  [.connect 0 3 [1, 2, 3, 4, 5, 6],
    .mtu 0 185,
    .send (fun _ => 0)
      { bytes := List.replicate 30 0, length_lt := by decide }]

def nextClientWithoutMtu : List LinkAction :=
  clientWithMtu ++
    [.disconnect 0,
      .connect 0 3 [6, 5, 4, 3, 2, 1],
      .send (fun _ => 0)
        { bytes := List.replicate 30 0, length_lt := by decide }]

theorem fragments_fit_client :
    EveryStep linkStep FragmentsFit clientWithMtu firstLink := by
  have hruns : (runAll linkStep clientWithMtu firstLink).isSome := by decide
  rcases Option.isSome_iff_exists.mp hruns with ⟨s', hrun⟩
  exact (fragments_fit hrun).mpr (by decide)

/-- The next client has an MTU of 23 and gets a fragment of 32 bytes. -/
theorem next_client_overrun :
    ¬ forall actions s', runAll linkStep actions firstLink = some s' ->
      EveryStep linkStep FragmentsFit actions firstLink := by
  intro hfit
  have hruns : (runAll linkStep nextClientWithoutMtu firstLink).isSome := by
    decide
  rcases Option.isSome_iff_exists.mp hruns with ⟨s', hrun⟩
  have hroom := (EveryStep.congr fragmentsFit_iff hrun).mp (hfit _ s' hrun)
  exact absurd hroom (by decide)

end Record
end Fluxnode
