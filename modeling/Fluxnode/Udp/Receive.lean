import Fluxnode.Foundation.Run
import Fluxnode.Udp.Model

/-!
# Results of `recv`

A result of -1 is a large length for `queue_udp_cb`.  `udp_server_stop` brings
it about when the task waits for a datagram.
-/

namespace Fluxnode
namespace Udp

open C
open DukMain (EventArgs)
open Foundation

def eventOf : RecvResult × Int -> Option EventArgs
  | (.datagram (first :: second :: rest) _, ts) =>
      some (packetEvent first (second :: rest)
        (UInt32.ofNat (second :: rest).length) ts)
  | _ => none

theorem fullEvent_of_eventOf {p : RecvResult × Int} {args : EventArgs}
    (h : eventOf p = some args) : (DukMain.fullEvent args).isSome := by
  rcases p with ⟨r, ts⟩
  cases r with
  | failed => cases h
  | datagram bytes hlength =>
      cases bytes with
      | nil => cases h
      | cons first more =>
          cases more with
          | nil => cases h
          | cons second rest =>
              cases h
              apply DukMain.fullEvent_isSome
              intro data hdata
              cases hdata
              have hlt : (second :: rest).length < 2 ^ 32 := by
                unfold recvBufferSize at hlength
                rw [List.length_cons] at hlength
                lia
              have hnat : (UInt32.ofNat (second :: rest).length).toNat =
                  (second :: rest).length := UInt32.toNat_ofNat_of_lt' hlt
              constructor
              · exact Nat.le_of_eq hnat
              · intro hzero
                have hlen := congrArg UInt32.toNat hzero
                rw [packetEvent, hnat] at hlen
                cases hlen

def Action.result : Action -> Option (RecvResult × Int)
  | .receive r ts => some (r, ts)
  | _ => none

/-- The datagrams are queued and nothing else, and the callback stays within the
buffer. -/
structure Harmless (handled : List (RecvResult × Int)) (s : UdpServer) :
    Prop where
  queued : s.queued = handled.filterMap eventOf
  allocated : forall n, n ∈ s.allocated -> n.toNat ≤ recvBufferSize
  inside : s.leftBuffer = false

def HasFailure (handled : List (RecvResult × Int)) : Prop :=
  exists ts, (.failed, ts) ∈ handled

/-!
## One result
-/

structure Handles (r : RecvResult) (ts : Int) (s s' : UdpServer) : Prop where
  queued : s'.queued = s.queued ++ (eventOf (r, ts)).toList
  allocated : forall n, n ∈ s'.allocated ->
    n ∈ s.allocated ∨ n.toNat ≤ recvBufferSize
  leftBuffer : s'.leftBuffer = s.leftBuffer

theorem queueUdpCb_long {s : UdpServer} {first : UInt8}
    {data behind : List UInt8} (hpos : 0 < data.length)
    (hbuf : s.buf.bytes = first :: (data ++ behind)) (ts : Int) :
    queueUdpCb s (UInt32.ofNat (data.length + 1)) ts =
      { s with
        allocated := s.allocated ++ [UInt32.ofNat data.length]
        queued := s.queued ++
          [packetEvent first data (UInt32.ofNat data.length) ts] } := by
  have hsize : 1 + data.length ≤ recvBufferSize := by
    rw [← s.buf.length_eq, hbuf, List.length_cons, List.length_append]
    lia
  unfold recvBufferSize at hsize
  have hlen : UInt32.ofNat (data.length + 1) - 1 = UInt32.ofNat data.length := by
    rw [UInt32.ofNat_add, UInt32.ofNat_one, UInt32.add_sub_cancel]
  have hnat : (UInt32.ofNat data.length).toNat = data.length :=
    UInt32.toNat_ofNat_of_lt' (show data.length < 2 ^ 32 by lia)
  have hnot : ¬ UInt32.ofNat (data.length + 1) < 2 := by
    rw [UInt32.lt_iff_toNat_lt, UInt32.toNat_ofNat_of_lt'
      (show data.length + 1 < 2 ^ 32 by lia)]
    have htwo : (2 : UInt32).toNat = 2 := rfl
    lia
  have hcopy : memcpy (malloc (UInt32.ofNat data.length)) 0 s.buf.bytes 1
      data.length = some (data.map some) := by
    have hblock : (malloc (UInt32.ofNat data.length)).length = data.length := by
      rw [malloc, List.length_replicate, hnat]
    have hsrc : 1 + data.length ≤ s.buf.bytes.length := by
      rw [s.buf.length_eq]
      exact hsize
    have hfront : (s.buf.bytes.drop 1).take data.length = data := by
      rw [hbuf, List.drop_one, List.tail_cons, List.take_left]
    rw [memcpy_of_le (by lia) hsrc, hfront, List.take_zero, List.nil_append,
      List.drop_eq_nil_of_le (by lia), List.append_nil]
  have hdata : (data.map some).filterMap id = data := by
    rw [List.filterMap_map]
    exact List.filterMap_some
  rw [queueUdpCb, if_neg hnot]
  simp only [hlen, hnat, hcopy, hdata]
  rw [hbuf]
  rfl

theorem queueUdpCb_failed (s : UdpServer) (ts : Int) :
    (queueUdpCb s RecvResult.failed.rb ts).leftBuffer = true := by
  have hread : readBytes s.buf.bytes 1
      (RecvResult.failed.rb - 1).toNat = none := by
    rw [readBytes, if_neg]
    rw [s.buf.length_eq]
    decide
  have hcopy : memcpy (malloc (RecvResult.failed.rb - 1)) 0 s.buf.bytes 1
      (RecvResult.failed.rb - 1).toNat = none := by
    simp only [memcpy, hread]
    rfl
  rw [queueUdpCb, if_neg (by decide)]
  simp only [hcopy]

theorem queueUdpCb_datagram (s : UdpServer) {bytes : List UInt8}
    (h : bytes.length ≤ recvBufferSize) (ts : Int) :
    Handles (.datagram bytes h) ts s
      (queueUdpCb { s with
        phase := .testing, buf := (RecvResult.datagram bytes h).store s.buf }
        (RecvResult.datagram bytes h).rb ts) := by
  cases bytes with
  | nil => exact ⟨(List.append_nil _).symm, fun _ hn => Or.inl hn, rfl⟩
  | cons first more =>
      cases more with
      | nil => exact ⟨(List.append_nil _).symm, fun _ hn => Or.inl hn, rfl⟩
      | cons second rest =>
          have hcall := queueUdpCb_long
            (s := { s with
              phase := .testing
              buf := (RecvResult.datagram (first :: second :: rest) h).store
                s.buf })
            (show 0 < (second :: rest).length by simp) rfl ts
          change Handles _ ts s
            (queueUdpCb _ (UInt32.ofNat ((second :: rest).length + 1)) ts)
          rw [hcall]
          constructor
          · rfl
          · intro n hn
            rcases List.mem_append.mp hn with hn | hn
            · exact Or.inl hn
            · apply Or.inr
              have hle := Nat.mod_le (second :: rest).length (2 ^ 32)
              rw [List.mem_singleton.mp hn, UInt32.toNat_ofNat']
              rw [List.length_cons] at h
              lia
          · rfl

/-!
## Runs
-/

structure Served (handled : List (RecvResult × Int)) (s : UdpServer) :
    Prop where
  harmless : ¬ HasFailure handled -> Harmless handled s
  harmed : HasFailure handled -> s.leftBuffer = true

theorem hasFailure_append (handled : List (RecvResult × Int)) (r : RecvResult)
    (ts : Int) :
    HasFailure (handled ++ [(r, ts)]) <-> HasFailure handled ∨ r = .failed := by
  constructor
  · intro h
    rcases h with ⟨ts', hmem⟩
    rcases List.mem_append.mp hmem with hmem | hmem
    · exact Or.inl ⟨ts', hmem⟩
    · have heq := List.mem_singleton.mp hmem
      cases heq
      exact Or.inr rfl
  · intro h
    rcases h with ⟨ts', hmem⟩ | rfl
    · exact ⟨ts', List.mem_append_left _ hmem⟩
    · exact ⟨ts, List.mem_append_right _ List.mem_cons_self⟩

theorem Served.handles {handled : List (RecvResult × Int)} {r : RecvResult}
    {ts : Int} {s s' : UdpServer} (h : Served handled s) (hr : r ≠ .failed)
    (hhandles : Handles r ts s s') : Served (handled ++ [(r, ts)]) s' := by
  have hiff : HasFailure (handled ++ [(r, ts)]) <-> HasFailure handled := by
    rw [hasFailure_append]
    simp [hr]
  constructor
  · intro hnot
    have hharmless := h.harmless (fun hfail => hnot (hiff.mpr hfail))
    constructor
    · rw [hhandles.queued, hharmless.queued, List.filterMap_append]
      cases heq : eventOf (r, ts) with
      | none => simp [heq]
      | some event => simp [heq]
    · intro n hn
      rcases hhandles.allocated n hn with hn | hle
      · exact hharmless.allocated n hn
      · exact hle
    · rw [hhandles.leftBuffer, hharmless.inside]
  · intro hfail
    rw [hhandles.leftBuffer, h.harmed (hiff.mp hfail)]

theorem Served.congr {handled : List (RecvResult × Int)} {s s' : UdpServer}
    (h : Served handled s) (hqueued : s'.queued = s.queued)
    (hallocated : s'.allocated = s.allocated)
    (hleft : s'.leftBuffer = s.leftBuffer) : Served handled s' := by
  constructor
  · intro hnot
    have hharmless := h.harmless hnot
    constructor
    · rw [hqueued, hharmless.queued]
    · rw [hallocated]
      exact hharmless.allocated
    · rw [hleft, hharmless.inside]
  · intro hfail
    rw [hleft, h.harmed hfail]

theorem Served.step {handled : List (RecvResult × Int)} {s s' : UdpServer}
    (h : Served handled s) {action : Action}
    (hstep : Udp.step action s = some s') :
    Served (handled ++ action.result.toList) s' := by
  cases action with
  | test =>
      simp only [Udp.step, Option.ite_none_right_eq_some] at hstep
      cases hstep.2
      show Served (handled ++ []) _
      rw [List.append_nil]
      exact h.congr rfl rfl rfl
  | receive r ts =>
      simp only [Udp.step, Option.ite_none_right_eq_some] at hstep
      cases hstep.2
      rw [Action.result, Option.toList_some]
      cases r with
      | datagram bytes hlength =>
          exact h.handles (by simp) (queueUdpCb_datagram s hlength ts)
      | failed =>
          constructor
          · intro hnot
            exact absurd ((hasFailure_append _ _ _).mpr (Or.inr rfl)) hnot
          · intro _
            exact queueUdpCb_failed _ ts
  | stop =>
      cases hstep
      show Served (handled ++ []) _
      rw [List.append_nil]
      exact h.congr rfl rfl rfl
  | close =>
      simp only [Udp.step, Option.ite_none_left_eq_some] at hstep
      cases hstep.2
      show Served (handled ++ []) _
      rw [List.append_nil]
      exact h.congr rfl rfl rfl

theorem Served.run {handled : List (RecvResult × Int)} {actions : List Action}
    {s s' : UdpServer} (h : Served handled s)
    (hrun : runAll Udp.step actions s = some s') :
    Served (handled ++ actions.filterMap Action.result) s' := by
  induction actions generalizing handled s with
  | nil =>
      cases hrun
      rw [List.filterMap_nil, List.append_nil]
      exact h
  | cons action rest ih =>
      rcases runAll_cons hrun with ⟨mid, hstep, hrest⟩
      have hserved := ih (h.step hstep) hrest
      rw [List.append_assoc] at hserved
      cases hresult : action.result with
      | none =>
          rw [hresult] at hserved
          rw [List.filterMap_cons_none hresult]
          exact hserved
      | some p =>
          rw [hresult] at hserved
          rw [List.filterMap_cons_some hresult]
          exact hserved

theorem served_start (buf : RecvBuffer) : Served [] (udpServerStart buf) := by
  constructor
  · intro _
    exact ⟨rfl, fun _ hn => absurd hn List.not_mem_nil, rfl⟩
  · intro hfail
    rcases hfail with ⟨_, hmem⟩
    cases hmem

/-- In every run of the task and of `udp_server_stop`, the results of `recv` are
harmless exactly if none of them is -1. -/
theorem harmless_iff_not_hasFailure {buf : RecvBuffer} {actions : List Action}
    {s : UdpServer}
    (h : runAll step actions (udpServerStart buf) = some s) :
    Harmless (actions.filterMap Action.result) s <->
      ¬ HasFailure (actions.filterMap Action.result) := by
  have hserved := (served_start buf).run h
  rw [List.nil_append] at hserved
  constructor
  · intro hharmless hfail
    have hleft := hserved.harmed hfail
    rw [hharmless.inside] at hleft
    cases hleft
  · exact hserved.harmless

def zeroBuffer : RecvBuffer where
  bytes := List.replicate recvBufferSize 0
  length_eq := List.length_replicate

def uiPacket : RecvResult :=
  .datagram [0x42, 0x78] (by decide)

theorem harmless_iff_not_hasFailure_packet : exists s,
    runAll step [.test, .receive uiPacket 7]
      (udpServerStart zeroBuffer) = some s ∧
    (Harmless [(uiPacket, 7)] s <-> ¬ HasFailure [(uiPacket, 7)]) :=
  ⟨_, rfl, @harmless_iff_not_hasFailure zeroBuffer
    [.test, .receive uiPacket 7] _ rfl⟩

theorem stopped_server_leaves_buffer : exists s,
    runAll step [.test, .stop, .close, .receive .failed 7]
      (udpServerStart zeroBuffer) = some s ∧
    ¬ Harmless [(.failed, 7)] s := by
  refine ⟨_, rfl, ?_⟩
  intro hharmless
  have hinside := hharmless.inside
  rw [queueUdpCb_failed] at hinside
  cases hinside

/-- Every stop that finds the task waiting leaves the buffer. -/
theorem stop_leaves_buffer {s s' : UdpServer} {r : RecvResult} {ts : Int}
    (h : runAll step [.stop, .close, .receive r ts] s = some s') :
    r = .failed ∧ s'.leftBuffer = true := by
  simp only [runAll, step, Bool.false_eq_true, if_false, false_or] at h
  split at h
  · cases h
  · rename_i hreceive
    rw [Option.ite_none_right_eq_some] at hreceive
    rcases hreceive with ⟨⟨_, rfl⟩, heq⟩
    cases heq
    cases h
    exact ⟨rfl, queueUdpCb_failed _ ts⟩

end Udp
end Fluxnode
