import Fluxnode.Payload.Model

/-!
# What a step does to the buffers

A step allocates a buffer for its task, hands a buffer over, or frees the
buffer of its task, and the account stays right.  There are two exceptions:
`isr_recv_task` forgets its buffer when no packet was received, and
`ble_server_start` forgets that of a record which is not complete.
-/

namespace Fluxnode
namespace Payload

open Foundation

/-- `lora_receive_packet` returns more than zero when `isr_recv_task` has a
buffer, and no record is half received when the BLE server is started. -/
def StepOk : Action -> State -> Prop
  | .isrReceived bytes _ _ _, s => s.isr.held ≠ [] -> 0 < bytes.length
  | .bleServerStart _, s => s.recordBuf = none
  | _, _ => True

instance (a : Action) (s : State) : Decidable (StepOk a s) := by
  cases a <;> unfold StepOk <;> infer_instance

/-!
## What a step does to the account
-/

inductive Moves (s s' : State) : Prop where
  | keeps (hledger : s'.ledger = s.ledger)
      (howned : forall b, (owned s).count b = (owned s').count b)
  | allocates (succeeds : Bool)
      (hledger : s'.ledger = (s.ledger.malloc succeeds).2)
      (howned : forall b,
        ((s.ledger.malloc succeeds).1.toList ++ owned s).count b =
          (owned s').count b)
  | frees (p : Option Buffer) (hledger : s'.ledger = s.ledger.release p)
      (howned : forall b,
        (owned s).count b = (p.toList ++ owned s').count b)

structure Loses (s s' : State) (lost : Buffer) : Prop where
  ledger : s'.ledger = s.ledger
  owned : forall b, (owned s).count b = (lost :: owned s').count b

theorem Moves.conserved {s s' : State} (h : Moves s s')
    (hconserved : Conserved s) : Conserved s' := by
  unfold Conserved at *
  cases h with
  | keeps hledger howned =>
      rw [hledger]
      exact hconserved.perm (List.perm_iff_count.mpr howned)
  | allocates succeeds hledger howned =>
      rw [hledger]
      exact (hconserved.malloc succeeds).perm (List.perm_iff_count.mpr howned)
  | frees p hledger howned =>
      rw [hledger]
      exact (hconserved.perm (List.perm_iff_count.mpr howned)).release

theorem Loses.not_conserved {s s' : State} {lost : Buffer}
    (h : Loses s s' lost) (hconserved : Conserved s) : ¬ Conserved s' := by
  unfold Conserved at *
  rw [h.ledger]
  exact (hconserved.perm (List.perm_iff_count.mpr h.owned)).not_of_lost

theorem count_owned (s : State) (b : Buffer) :
    (owned s).count b =
      (queued s).count b + s.isr.held.count b + s.serve.held.count b +
        (s.udp.elim [] Pending.owned).count b + s.recordBuf.toList.count b +
        (s.ble.elim [] Pending.owned).count b +
        (s.sending.elim [] Pending.owned).count b + s.task.held.count b := by
  simp only [owned, held, List.count_append, Nat.add_assoc]

/-!
## Adding an event
-/

theorem addFullEvent_owned
    {s s' : State} {msgType : DukMain.MsgType} {direction : DukMain.Direction}
    {payload : Option Pointer} {len : C.SizeT} {rssi snr ts : Int}
    (h : addFullEvent s msgType direction payload len rssi snr ts = some s') :
    s'.ledger = s.ledger ∧
      forall b, (owned s').count b =
        ((payload.map Pointer.buffer).toList ++ owned s).count b := by
  unfold addFullEvent at h
  dsimp only at h
  split at h
  · cases h
  · cases h
    refine ⟨rfl, ?_⟩
    intro b
    simp only [count_owned, queued, List.flatMap_append, List.flatMap_cons,
      List.flatMap_nil, List.count_append, List.count_nil]
    lia

theorem moves_of_addFullEvent
    {s s₁ s' : State} {msgType : DukMain.MsgType}
    {direction : DukMain.Direction} {payload : Option Pointer} {len : C.SizeT}
    {rssi snr ts : Int} (hledger : s₁.ledger = s.ledger)
    (howned : forall b, (owned s).count b =
      ((payload.map Pointer.buffer).toList ++ owned s₁).count b)
    (h : addFullEvent s₁ msgType direction payload len rssi snr ts =
      some s') : Moves s s' := by
  rcases addFullEvent_owned h with ⟨hledger', howned'⟩
  apply Moves.keeps (hledger'.trans hledger)
  intro b
  rw [howned b, howned' b]

/-!
## The producers
-/

theorem isrCmd_moves {s s' : State} {hopped succeeds : Bool}
    (h : isrCmd s hopped succeeds = some s') : Moves s s' := by
  unfold isrCmd at h
  cases hisr : s.isr with
  | receiving buf =>
      rw [hisr] at h
      cases h
  | waiting =>
      rw [hisr] at h
      dsimp only at h
      split at h
      · cases h
        exact Moves.keeps rfl (fun _ => rfl)
      · cases h
        apply Moves.allocates succeeds
        · rfl
        · intro b
          simp only [count_owned, List.count_append, queued, IsrPc.held, hisr,
            List.count_nil]
          lia

theorem isrReceived_moves
    {s s' : State} {bytes : List UInt8} {rssi snr ts : Int}
    (hok : StepOk (.isrReceived bytes rssi snr ts) s)
    (h : isrReceived s bytes rssi snr ts = some s') : Moves s s' := by
  unfold isrReceived at h
  cases hisr : s.isr with
  | waiting =>
      rw [hisr] at h
      cases h
  | receiving buf =>
      rw [hisr] at h
      dsimp only at h
      split at h
      · cases h
      · split at h
        · cases buf with
          | none => cases h
          | some buf =>
              apply moves_of_addFullEvent _ _ h
              · rfl
              · intro b
                simp only [count_owned, List.count_append, queued, IsrPc.held,
                  hisr, List.count_nil, Option.map_some]
                lia
        · cases h
          cases buf with
          | none =>
              apply Moves.keeps
              · rfl
              · intro b
                simp only [count_owned, queued, IsrPc.held, hisr,
                  Option.toList_none]
          | some buf =>
              have hpos : 0 < bytes.length := by
                apply hok
                rw [hisr]
                exact List.cons_ne_nil buf []
              contradiction

theorem isrReceived_loses
    {s s' : State} {bytes : List UInt8} {rssi snr ts : Int}
    (hnot : ¬ StepOk (.isrReceived bytes rssi snr ts) s)
    (h : isrReceived s bytes rssi snr ts = some s') :
    exists lost, Loses s s' lost := by
  rcases Classical.not_imp.mp hnot with ⟨hheld, hzero⟩
  have hbuf : exists buf, s.isr = .receiving (some buf) := by
    cases hisr : s.isr with
    | waiting =>
        rw [hisr] at hheld
        exact absurd rfl hheld
    | receiving buf =>
        cases buf with
        | none =>
            rw [hisr] at hheld
            exact absurd rfl hheld
        | some buf => exact ⟨buf, rfl⟩
  rcases hbuf with ⟨buf, hisr⟩
  unfold isrReceived at h
  rw [hisr] at h
  dsimp only at h
  split at h
  · cases h
  · cases h
    refine ⟨buf, rfl, ?_⟩
    intro b
    simp only [count_owned, queued, IsrPc.held, hisr, List.count_cons,
      List.count_nil, Option.toList_some]
    lia

theorem serveFrame_moves
    {s s' : State} {opcode : Nat} {payload : List UInt8} {succeeds : Bool}
    (h : serveFrame s opcode payload succeeds = some s') : Moves s s' := by
  unfold serveFrame at h
  cases hserve : s.serve with
  | waiting =>
      rw [hserve] at h
      dsimp only at h
      split at h
      · cases h
        exact Moves.keeps rfl (fun _ => rfl)
      · cases succeeds with
        | false =>
            cases h
            exact Moves.keeps rfl (fun _ => rfl)
        | true =>
            cases h
            apply Moves.allocates true
            · rfl
            · intro b
              simp only [count_owned, List.count_append, queued, ServePc.held,
                hserve, List.count_nil, Ledger.malloc, if_true,
                Option.toList_some]
              lia
  | _ =>
      rw [hserve] at h
      cases h

theorem serveStep_moves {s s' : State}
    (h : serveStep s = some s') : Moves s s' := by
  unfold serveStep at h
  cases hserve : s.serve with
  | waiting =>
      rw [hserve] at h
      cases h
  | copied opcode payload =>
      rw [hserve] at h
      dsimp only at h
      split at h
      · cases h
        apply Moves.frees (some payload.buffer)
        · rfl
        · intro b
          simp only [count_owned, List.count_append, queued, ServePc.held,
            hserve, List.count_nil, Option.toList_some]
          lia
      · cases h
        apply Moves.keeps
        · rfl
        · intro b
          simp only [count_owned, queued, ServePc.held, hserve]
  | callback payload =>
      rw [hserve] at h
      apply moves_of_addFullEvent _ _ h
      · rfl
      · intro b
        simp only [count_owned, List.count_append, queued, ServePc.held, hserve,
          List.count_nil, Option.map_some, Option.toList_some]
        lia
  | added framePayload =>
      rw [hserve] at h
      cases h
      apply Moves.keeps
      · rfl
      · intro b
        simp only [count_owned, queued, ServePc.held, hserve,
          Option.toList_none]
  | returned framePayload =>
      rw [hserve] at h
      cases h
      apply Moves.frees framePayload
      · rfl
      · intro b
        simp only [count_owned, List.count_append, queued, ServePc.held, hserve,
          List.count_nil]
        lia

theorem queueUdpCb_moves {s s' : State} {buf : List UInt8} {succeeds : Bool}
    (h : queueUdpCb s buf succeeds = some s') : Moves s s' := by
  unfold queueUdpCb at h
  split at h
  · rename_i hudp
    cases succeeds with
    | false => cases h
    | true =>
        cases h
        apply Moves.allocates true
        · rfl
        · intro b
          simp only [count_owned, List.count_append, queued, hudp,
            Option.elim_none, Option.elim_some, Pending.owned, List.count_nil,
            Ledger.malloc, if_true, Option.map_some, Option.toList_some]
          lia
  · cases h
    exact Moves.keeps rfl (fun _ => rfl)
  · cases h

theorem udpAdd_moves {s s' : State} {ts : Int}
    (h : udpAdd s ts = some s') : Moves s s' := by
  unfold udpAdd at h
  cases hudp : s.udp with
  | none =>
      rw [hudp] at h
      cases h
  | some e =>
      rw [hudp] at h
      apply moves_of_addFullEvent _ _ h
      · rfl
      · intro b
        simp only [count_owned, List.count_append, queued, hudp,
          Option.elim_none, Option.elim_some, Pending.owned, List.count_nil]
        lia

/-!
## The record of the BLE server

Between two messages the record has no buffer.
-/

def RecordIdle (s : State) : Prop :=
  s.record.len = 0 -> s.recordBuf = none

/-- The buffer of the record in a write, which `record_add` allocates when the
record has none. -/
theorem bleWrite_account {s : State} (hidle : RecordIdle s) (b : Buffer) :
    (if s.record.len = 0 then s.ledger.malloc true
      else (s.recordBuf, s.ledger)).1.toList.count b =
    s.recordBuf.toList.count b +
      (s.ledger.malloc (decide (s.record.len = 0))).1.toList.count b := by
  by_cases hstart : s.record.len = 0
  · rw [if_pos hstart, hidle hstart, decide_eq_true hstart,
      Option.toList_none, List.count_nil, Nat.zero_add]
  · rw [if_neg hstart, decide_eq_false hstart]
    rfl

theorem bleWrite_ledger (s : State) :
    (if s.record.len = 0 then s.ledger.malloc true
      else (s.recordBuf, s.ledger)).2 =
    (s.ledger.malloc (decide (s.record.len = 0))).2 := by
  by_cases hstart : s.record.len = 0
  · rw [if_pos hstart, decide_eq_true hstart]
  · rw [if_neg hstart, decide_eq_false hstart]
    rfl

theorem bleWrite_moves {s s' : State} {value : List UInt8}
    (hidle : RecordIdle s) (h : bleWrite s value = some s') :
    Moves s s' ∧ RecordIdle s' := by
  unfold bleWrite at h
  cases hble : s.ble with
  | some e =>
      rw [hble] at h
      cases h
  | none =>
      rw [hble] at h
      dsimp only at h
      cases hwrite : Record.writeEvt s.record value with
      | none =>
          rw [hwrite] at h
          cases h
      | some result =>
          rcases result with ⟨record, received⟩
          rw [hwrite] at h
          cases received with
          | none =>
              cases h
              have hlen := (Record.writeEvt_len hwrite).resolve_left (by decide)
              constructor
              · apply Moves.allocates (decide (s.record.len = 0))
                · exact bleWrite_ledger s
                · intro b
                  simp only [count_owned, List.count_append, queued,
                    bleWrite_account hidle]
                  lia
              · intro hzero
                exact absurd hzero hlen
          | some received =>
              cases h
              constructor
              · apply Moves.allocates (decide (s.record.len = 0))
                · exact bleWrite_ledger s
                · intro b
                  simp only [count_owned, List.count_append, queued, hble,
                    Option.elim_none, Option.elim_some, Pending.owned,
                    Option.map_map, Function.comp_def, Option.map_id',
                    Option.toList_none, List.count_nil,
                    bleWrite_account hidle]
                  lia
              · intro _
                rfl

theorem bleReceive_moves {s s' : State}
    (h : bleReceive s = some s') : Moves s s' := by
  unfold bleReceive at h
  cases hble : s.ble with
  | none =>
      rw [hble] at h
      cases h
  | some e =>
      rw [hble] at h
      apply moves_of_addFullEvent _ _ h
      · rfl
      · intro b
        simp only [count_owned, List.count_append, queued, hble,
          Option.elim_none, Option.elim_some, Pending.owned, List.count_nil]
        lia

/-!
## The script
-/

theorem not_sending_of_mayCall {s : State} (h : mayCall s = true) :
    s.sending = none := by
  unfold mayCall at h
  split at h
  · assumption
  · assumption
  · cases h

theorem sendEvent_moves
    {s s' : State} {eventType : DukMain.MsgType} {data : List UInt8}
    {succeeds : Bool} (h : sendEvent s eventType data succeeds = some s') :
    Moves s s' := by
  unfold sendEvent at h
  rcases Option.ite_none_right_eq_some.mp h with ⟨hcall, h⟩
  have hsending := not_sending_of_mayCall hcall
  cases succeeds with
  | false =>
      rcases Option.ite_none_right_eq_some.mp h with ⟨_, h⟩
      cases h
      apply Moves.keeps
      · rfl
      · intro b
        simp only [count_owned, queued, hsending, Option.elim_none,
          Option.elim_some, Pending.owned, Option.map_none, Option.toList_none]
  | true =>
      cases h
      apply Moves.allocates true
      · rfl
      · intro b
        simp only [count_owned, List.count_append, queued, hsending,
          Option.elim_none, Option.elim_some, Pending.owned, List.count_nil,
          Ledger.malloc, if_true, Option.map_some, Option.toList_some]
        lia

theorem sendAdd_moves {s s' : State}
    (h : sendAdd s = some s') : Moves s s' := by
  unfold sendAdd at h
  cases hsending : s.sending with
  | none =>
      rw [hsending] at h
      cases h
  | some e =>
      rw [hsending] at h
      apply moves_of_addFullEvent _ _ h
      · rfl
      · intro b
        simp only [count_owned, List.count_append, queued, hsending,
          Option.elim_none, Option.elim_some, Pending.owned, List.count_nil]
        lia

theorem bleServerStart_moves {s s' : State} {recordSize : C.SizeT}
    (hok : s.recordBuf = none)
    (h : bleServerStart s recordSize = some s') : Moves s s' := by
  unfold bleServerStart at h
  rcases Option.ite_none_right_eq_some.mp h with ⟨_, h⟩
  cases h
  apply Moves.keeps
  · rfl
  · intro b
    simp only [count_owned, queued, hok]

theorem bleServerStart_loses {s s' : State} {recordSize : C.SizeT}
    {buf : Buffer} (hnot : s.recordBuf = some buf)
    (h : bleServerStart s recordSize = some s') : Loses s s' buf := by
  unfold bleServerStart at h
  rcases Option.ite_none_right_eq_some.mp h with ⟨_, h⟩
  cases h
  refine ⟨rfl, ?_⟩
  intro b
  simp only [count_owned, queued, hnot, List.count_cons, List.count_nil,
    Option.toList_some, Option.toList_none]
  lia

/-!
## The runtime task
-/

theorem taskStep_moves {s s' : State}
    (h : taskStep s = some s') : Moves s s' := by
  unfold taskStep at h
  rcases Option.ite_none_left_eq_some.mp h with ⟨_, h⟩
  cases htask : s.task with
  | script =>
      rw [htask] at h
      cases hqueue : s.eventQueue with
      | nil =>
          rw [hqueue] at h
          cases h
          exact Moves.keeps rfl (fun _ => rfl)
      | cons msg rest =>
          rw [hqueue] at h
          cases h
          apply Moves.keeps
          · rfl
          · intro b
            simp only [count_owned, queued, hqueue, htask, TaskPc.held,
              List.flatMap_cons, List.count_append, List.count_nil]
            lia
  | deleteQueue =>
      rw [htask] at h
      cases hqueue : s.eventQueue with
      | nil =>
          rw [hqueue] at h
          cases h
          apply Moves.keeps
          · rfl
          · intro b
            simp only [count_owned, queued, hqueue, htask, TaskPc.held]
      | cons msg rest =>
          rw [hqueue] at h
          cases h
          apply Moves.keeps
          · rfl
          · intro b
            simp only [count_owned, queued, hqueue, htask, TaskPc.held,
              List.flatMap_cons, List.count_append, List.count_nil]
            lia
  | deleteMsg msg =>
      rw [htask] at h
      cases h
      apply Moves.frees msg.payload
      · rfl
      · intro b
        simp only [count_owned, List.count_append, queued, htask, TaskPc.held,
          List.count_nil]
        lia
  | dispatch msg =>
      rw [htask] at h
      cases h
      apply Moves.keeps
      · rfl
      · intro b
        simp only [count_owned, queued, htask, TaskPc.held]
  | freeMsg msg =>
      rw [htask] at h
      cases h
      apply Moves.frees msg.payload
      · rfl
      · intro b
        simp only [count_owned, List.count_append, queued, htask, TaskPc.held,
          List.count_nil]
        lia

theorem dukInit_moves {s s' : State}
    (h : dukInit s = some s') : Moves s s' := by
  unfold dukInit at h
  rcases Option.ite_none_right_eq_some.mp h with ⟨⟨_, htask⟩, h⟩
  cases h
  apply Moves.keeps
  · rfl
  · intro b
    simp only [count_owned, queued, htask, TaskPc.held]

/-!
## One step
-/

theorem sameRecord_of_step {a : Action} {s s' : State}
    (hwrite : forall value, a ≠ .bleWrite value)
    (hstart : forall recordSize, a ≠ .bleServerStart recordSize)
    (h : step a s = some s') :
    s'.record = s.record ∧ s'.recordBuf = s.recordBuf := by
  cases a with
  | bleWrite value => exact absurd rfl (hwrite value)
  | bleServerStart recordSize => exact absurd rfl (hstart recordSize)
  | isrCmd hopped succeeds =>
      simp only [step, isrCmd] at h
      grind
  | isrReceived bytes rssi snr ts =>
      simp only [step, isrReceived, addFullEvent] at h
      grind
  | serveFrame opcode payload succeeds =>
      simp only [step, serveFrame] at h
      grind
  | serveStep =>
      simp only [step, serveStep, addEvent, addFullEvent] at h
      grind
  | queueUdpCb buf succeeds =>
      simp only [step, queueUdpCb] at h
      grind
  | udpAdd ts =>
      simp only [step, udpAdd, addFullEvent] at h
      grind
  | bleReceive =>
      simp only [step, bleReceive, addEvent, addFullEvent] at h
      grind
  | sendEvent eventType data succeeds =>
      simp only [step, sendEvent] at h
      grind
  | sendAdd =>
      simp only [step, sendAdd, addEvent, addFullEvent] at h
      grind
  | notify msgType len =>
      simp only [step, addEvent, addFullEvent] at h
      grind
  | task =>
      simp only [step, taskStep] at h
      grind
  | dukInit =>
      simp only [step, dukInit] at h
      grind

theorem step_moves {a : Action} {s s' : State} (hidle : RecordIdle s)
    (hok : StepOk a s) (h : step a s = some s') : Moves s s' := by
  cases a with
  | isrCmd hopped succeeds => exact isrCmd_moves h
  | isrReceived bytes rssi snr ts => exact isrReceived_moves hok h
  | serveFrame opcode payload succeeds => exact serveFrame_moves h
  | serveStep => exact serveStep_moves h
  | queueUdpCb buf succeeds => exact queueUdpCb_moves h
  | udpAdd ts => exact udpAdd_moves h
  | bleWrite value => exact (bleWrite_moves hidle h).1
  | bleReceive => exact bleReceive_moves h
  | sendEvent eventType data succeeds => exact sendEvent_moves h
  | sendAdd => exact sendAdd_moves h
  | bleServerStart recordSize => exact bleServerStart_moves hok h
  | notify msgType len =>
      have hadd : addFullEvent s msgType .incoming none len 0 0 0 = some s' := h
      exact moves_of_addFullEvent rfl (fun _ => rfl) hadd
  | task => exact taskStep_moves h
  | dukInit => exact dukInit_moves h

theorem step_loses {a : Action} {s s' : State} (hnot : ¬ StepOk a s)
    (h : step a s = some s') : exists lost, Loses s s' lost := by
  cases a with
  | isrReceived bytes rssi snr ts => exact isrReceived_loses hnot h
  | bleServerStart recordSize =>
      rcases Option.ne_none_iff_exists'.mp hnot with ⟨buf, hbuf⟩
      exact ⟨buf, bleServerStart_loses hbuf h⟩
  | _ => exact absurd trivial hnot

theorem step_recordIdle {a : Action} {s s' : State} (hidle : RecordIdle s)
    (h : step a s = some s') : RecordIdle s' := by
  by_cases hwrite : exists value, a = .bleWrite value
  · rcases hwrite with ⟨value, rfl⟩
    exact (bleWrite_moves hidle h).2
  · by_cases hstart : exists recordSize, a = .bleServerStart recordSize
    · rcases hstart with ⟨recordSize, rfl⟩
      rcases Option.ite_none_right_eq_some.mp h with ⟨_, h⟩
      cases h
      intro _
      rfl
    · rcases sameRecord_of_step (fun value heq => hwrite ⟨value, heq⟩)
        (fun recordSize heq => hstart ⟨recordSize, heq⟩) h with
        ⟨hrecord, hbuf⟩
      intro hzero
      rw [hrecord] at hzero
      rw [hbuf]
      exact hidle hzero

end Payload
end Fluxnode
