import Fluxnode.Payload.Steps

/-!
# Payloads are conserved

In every run each allocated buffer has one owner, until a step is taken that
forgets a buffer.
-/

namespace Fluxnode
namespace Payload

open Foundation

/-!
## Runs
-/

structure PayloadInv (s : State) : Prop where
  conserved : Conserved s
  recordIdle : RecordIdle s

theorem initial_payloadInv {s : State} (h : IsInitial s) : PayloadInv s := by
  constructor
  · have hnone : owned s = [] := by
      simp [owned, queued, held, h.eventQueue, h.isr, h.serve, h.udp,
        h.recordBuf, h.ble, h.sending, h.task, IsrPc.held, ServePc.held,
        TaskPc.held]
    rw [Conserved, h.ledger, hnone]
    exact Ledger.accounts_empty
  · intro _
    exact h.recordBuf

def ConservedThroughout (actions : List Action) (s₀ : State) : Prop :=
  forall n s, runAll step (actions.take n) s₀ = some s -> Conserved s

/--
In every run the payloads are conserved in all states, exactly when
`lora_receive_packet` never leaves `isr_recv_task` with a buffer and without a
packet, and the BLE server is never started over a half received record.
-/
theorem conserved_throughout_iff {s₀ s : State} {actions : List Action}
    (hinitial : IsInitial s₀) (hrun : runAll step actions s₀ = some s) :
    ConservedThroughout actions s₀ <-> EveryStep step StepOk actions s₀ := by
  apply EveryStep.throughout_iff _ _ _ (initial_payloadInv hinitial) hrun
  · intro s hs
    exact hs.conserved
  · intro a s s' hs hok hstep
    have hmoves := step_moves hs.recordIdle hok hstep
    exact ⟨hmoves.conserved hs.conserved, step_recordIdle hs.recordIdle hstep⟩
  · intro a s s' hs hnot hstep
    rcases step_loses hnot hstep with ⟨lost, hloses⟩
    exact hloses.not_conserved hs.conserved

def start : State where
  ledger := Ledger.empty
  eventQueue := []
  isr := .waiting
  serve := .waiting
  udp := none
  record := Record.idle 18
  recordBuf := none
  ble := none
  sending := none
  task := .script

theorem isInitial_start : IsInitial start := by
  constructor <;> rfl

def packetReceived : List Action :=
  [.isrCmd false true, .isrReceived [1, 2, 3] (-40) 9 7, .task, .task, .task]

theorem conserved_throughout_packetReceived :
    ConservedThroughout packetReceived start :=
  (conserved_throughout_iff isInitial_start rfl).mpr (by decide)

def noPacket : List Action :=
  [.isrCmd false true, .isrReceived [] 0 0 0]

/-- The buffer of an interrupt without a packet has no owner. -/
theorem buffer_lost :
    exists s, runAll step noPacket start = some s ∧ s.ledger.live = [0] ∧
      owned s = [] ∧ ¬ Conserved s ∧ IsInitial start := by
  refine ⟨_, rfl, rfl, rfl, ?_, isInitial_start⟩
  intro h
  exact absurd h.live.length_eq (by decide)

end Payload
end Fluxnode
