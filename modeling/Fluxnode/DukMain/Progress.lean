import Fluxnode.DukMain.NoLostWakeUp

/-!
# The task is never stuck

A step without a defined result has no successor.  None is met: in every
reachable state the task goes on, unless it waits for a notification or its
script has a call to finish, which it can.
-/

namespace Fluxnode
namespace DukMain

open Duktape

variable {α T : Type}

/-- There is a Duktape context wherever one is used, and `send_event` finds its
values on the stack. -/
structure ReadyInv (s : State α T) : Prop where
  boots : s.g.ctx = none -> s.pc = .start ∨ s.pc = .load ∨
    (s.pc = .whileReset ∧ s.g.reset = true)
  calls : forall st, s.g.ctx = some st -> inSendEvent s.pc ≤ st.length

theorem initial_readyInv (reset : Bool) (wakeUp : WakeUp) :
    ReadyInv (initial α T reset wakeUp) where
  boots _ := Or.inl rfl
  calls st hctx := by cases hctx

theorem ReadyInv.of_ctx {s s' : State α T} (h : ReadyInv s)
    (hctx : s'.g.ctx = s.g.ctx)
    (hboots : s.g.ctx = none -> s'.pc = .start ∨ s'.pc = .load ∨
      (s'.pc = .whileReset ∧ s'.g.reset = true))
    (hcalls : inSendEvent s'.pc ≤ inSendEvent s.pc) : ReadyInv s' where
  boots hnone := hboots (hctx.symm.trans hnone)
  calls st hst := Nat.le_trans hcalls (h.calls st (hctx.symm.trans hst))

theorem ReadyInv.ctx_ne_none {s : State α T} (h : ReadyInv s)
    (hstart : s.pc ≠ .start) (hload : s.pc ≠ .load)
    (hreset : s.pc = .whileReset -> s.g.reset = false) :
    s.g.ctx ≠ none := by
  intro hnone
  rcases h.boots hnone with hpc | hpc | ⟨hpc, hset⟩
  · exact hstart hpc
  · exact hload hpc
  · rw [hreset hpc] at hset
    cases hset

theorem ReadyInv.of_ready {s s' : State α T} (h : ReadyInv s)
    (hctx : s'.g.ctx = s.g.ctx) (hstart : s.pc ≠ .start)
    (hload : s.pc ≠ .load) (hreset : s.pc ≠ .whileReset)
    (hcalls : inSendEvent s'.pc ≤ inSendEvent s.pc) : ReadyInv s' := by
  have hready := h.ctx_ne_none hstart hload (fun hpc => absurd hpc hreset)
  exact h.of_ctx hctx (fun hnone => absurd hnone hready) hcalls

theorem Move.of_no_ctx {s : State α T} {next : Pc} (h : Move s next)
    (hready : ReadyInv s) (hnone : s.g.ctx = none) : next = .load := by
  rcases hready.boots hnone with hpc | hpc | ⟨hpc, hset⟩
  · cases h <;> simp_all
  · cases h <;> simp_all
  · cases h <;> simp_all

theorem ReadyInv.taskStep {w : World α} {s s' : State α T}
    (h : ReadyInv s) (hstep : TaskStep w s s') : ReadyInv s' := by
  cases hstep with
  | start hpc =>
      exact h.of_ctx rfl (fun _ => Or.inr (Or.inr ⟨rfl, rfl⟩))
        (Nat.zero_le _)
  | move wakeUp hmove =>
      refine h.of_ctx rfl ?_ ?_
      · intro hnone
        exact Or.inr (Or.inl (hmove.of_no_ctx h hnone))
      · rw [hmove.inSendEvent.2]
        exact Nat.zero_le _
  | load hpc =>
      constructor
      · intro hnone
        cases hnone
      · intro st hst
        exact Nat.zero_le _
  | discard hpc hqueue =>
      exact h.of_ready rfl (by simp [hpc]) (by simp [hpc]) (by simp [hpc])
        (Nat.le_refl _)
  | clearReset hpc =>
      constructor
      · intro hnone
        cases hnone
      · intro st hst
        exact Nat.zero_le _
  | loadAndRun hpc =>
      exact h.of_ready rfl (by simp [hpc]) (by simp [hpc]) (by simp [hpc])
        (Nat.zero_le _)
  | failed loadIndex hpc =>
      exact h.of_ctx (by simp) (fun _ => Or.inr (Or.inl rfl))
        (Nat.zero_le _)
  | loaded hpc hresult =>
      exact h.of_ready (by simp) (by simp [hpc]) (by simp [hpc]) (by simp [hpc])
        (Nat.zero_le _)
  | notified hpc =>
      exact h.of_ready rfl (by simp [hpc]) (by simp [hpc]) (by simp [hpc])
        (Nat.zero_le _)
  | take hpc hqueue =>
      exact h.of_ready rfl (by simp [hpc]) (by simp [hpc]) (by simp [hpc])
        (Nat.zero_le _)
  | incoming object func hpc hdirection hctx =>
      constructor
      · intro hnone
        cases hnone
      · intro st hst
        cases hst
        exact Nat.le_add_left 3 _
  | sent hpc hdirection htype hfunc =>
      exact h.of_ready rfl (by simp [hpc]) (by simp [hpc]) (by simp [hpc])
        (Nat.zero_le _)
  | ignored hpc hdirection hnobody =>
      exact h.of_ready rfl (by simp [hpc]) (by simp [hpc]) (by simp [hpc])
        (Nat.zero_le _)
  | eventDone hpc hctx hfinish =>
      constructor
      · intro hnone
        cases hnone
      · intro st hst
        exact Nat.zero_le _

theorem ReadyInv.requestReset {s : State α T} (h : ReadyInv s)
    (requester : Option T) : ReadyInv (requestReset s requester) := by
  refine h.of_ctx rfl ?_ (Nat.le_refl _)
  intro hnone
  rcases h.boots hnone with hpc | hpc | ⟨hpc, hset⟩
  · exact Or.inl hpc
  · exact Or.inr (Or.inl hpc)
  · exact Or.inr (Or.inr ⟨hpc, rfl⟩)

theorem ReadyInv.scriptStep {s s' : State α T} (h : ReadyInv s)
    (hstep : ScriptStep s s') : ReadyInv s' := by
  cases hstep with
  | append event hidle => exact ⟨h.boots, h.calls⟩
  | wake happended => exact ⟨h.boots, h.calls⟩
  | reset hidle => exact h.requestReset none
  | assign wakeUp sendFunc loadFile hidle => exact ⟨h.boots, h.calls⟩

variable [DecidableEq T]

theorem ReadyInv.threadStep {t : T} {s s' : State α T} (h : ReadyInv s)
    (hstep : ThreadStep t s s') : ReadyInv s' := by
  cases hstep with
  | append event hidle => exact ⟨h.boots, h.calls⟩
  | reset hidle =>
      have hreset := h.requestReset (some t)
      exact ⟨hreset.boots, hreset.calls⟩
  | setLoad file hidle => exact ⟨h.boots, h.calls⟩
  | wake hbusy => exact ⟨h.boots, h.calls⟩

theorem reachable_readyInv {w : World α} {s : State α T}
    (h : Reachable w s) : ReadyInv s :=
  h.invariant initial_readyInv (fun _ _ hs _ hstep => hs.taskStep hstep)
    (fun _ _ hs _ hstep => hs.scriptStep hstep)
    (fun _ _ _ hs hstep => hs.threadStep hstep)

/-!
## Going on
-/

omit [DecidableEq T] in
theorem finishEvent_isSome (outcome : Outcome α) {st : Stack α}
    (hlength : 2 ≤ st.length) : (finishEvent outcome st).isSome := by
  simp [finishEvent, pcall, if_pos hlength, pop]

omit [DecidableEq T] in
theorem finishRun_isSome (i : Input α) {s : State α T} (next : Int -> Pc)
    (hctx : s.g.ctx ≠ none) : (finishRun i s next).isSome := by
  rcases Option.ne_none_iff_exists'.mp hctx with ⟨st, hst⟩
  simp [finishRun, hst, utilRun_eq]

omit [DecidableEq T] in
theorem stepDispatch_isSome (i : Input α) {s : State α T} (msg : Appended)
    (hctx : s.g.ctx ≠ none) : (stepDispatch i s msg).isSome := by
  rcases Option.ne_none_iff_exists'.mp hctx with ⟨st, hst⟩
  unfold stepDispatch
  split
  · simp [stepIncoming, hst, prepareEvent_eq]
  · rfl

omit [DecidableEq T] in
theorem stepOnEvent_isSome (i : Input α) {s : State α T} (msg : Appended)
    (hctx : s.g.ctx ≠ none)
    (hlength : forall st, s.g.ctx = some st -> 2 ≤ st.length) :
    (stepOnEvent i s msg).isSome := by
  rcases Option.ne_none_iff_exists'.mp hctx with ⟨st, hst⟩
  rcases Option.isSome_iff_exists.mp
      (finishEvent_isSome i.outcome (hlength st hst)) with ⟨r, hfinish⟩
  simp [stepOnEvent, hst, hfinish]

omit [DecidableEq T] in
theorem ReadyInv.taskStep_isSome {s : State α T} (h : ReadyInv s)
    (w : World α) (i : Input α) (hidle : s.scriptAppended = false)
    (hwait : s.pc ≠ .notifyTake) :
    (DukMain.taskStep w i s).isSome := by
  have hquiet : ¬ s.scriptAppended = true := by simp [hidle]
  rw [DukMain.taskStep, if_neg hquiet]
  cases hpc : s.pc with
  | notifyTake => exact absurd hpc hwait
  | runFile name =>
      exact finishRun_isSome i _
        (h.ctx_ne_none (by simp [hpc]) (by simp [hpc]) (by simp [hpc]))
  | runOnStart name =>
      exact finishRun_isSome i _
        (h.ctx_ne_none (by simp [hpc]) (by simp [hpc]) (by simp [hpc]))
  | runOnTimer =>
      exact finishRun_isSome i _
        (h.ctx_ne_none (by simp [hpc]) (by simp [hpc]) (by simp [hpc]))
  | dispatch msg =>
      exact stepDispatch_isSome i msg
        (h.ctx_ne_none (by simp [hpc]) (by simp [hpc]) (by simp [hpc]))
  | runOnEvent msg =>
      apply stepOnEvent_isSome i msg
      · exact h.ctx_ne_none (by simp [hpc]) (by simp [hpc]) (by simp [hpc])
      · intro st hst
        have hcalls := h.calls st hst
        rw [hpc] at hcalls
        exact Nat.le_of_succ_le hcalls
  | _ => rfl

/--
In every reachable state that is not blocked, the task can take a step, or its
script can finish the call that it is in.
-/
theorem task_goes_on (w : World α) (i : Input α) (s : State α T)
    (hreach : Reachable w s) (hblocked : ¬ Blocked s) :
    (taskStep w i s).isSome ∨ (scriptStep w .wake s).isSome := by
  cases hscript : s.scriptAppended with
  | true =>
      have hruns := (reachable_wakeInv hreach).script hscript
      exact Or.inr (by simp [DukMain.scriptStep, hruns, hscript])
  | false =>
      left
      by_cases hwait : s.pc = .notifyTake
      · have hcount : s.notifications ≠ 0 := by
          intro hzero
          exact hblocked ⟨hwait, hzero⟩
        simp [taskStep, hscript, hwait, stepNotifyTake, hcount]
      · exact (reachable_readyInv hreach).taskStep_isSome w i hscript hwait

end DukMain
end Fluxnode
