import Fluxnode.DukMain.Steps

/-!
# The value stack grows with every event

`send_event` pushes the global object to find `OnEvent` and does not pop it.
In a run, the stack is higher than right after the last `duk_init` by the
number of events delivered since then.
-/

namespace Fluxnode
namespace DukMain

open Duktape

variable {α T : Type}

/-!
## One event
-/

/-- `send_event` leaves the height of the stack as it was. -/
def Neutral (prop : Value α -> String -> Value α) (outcome : Outcome α)
    (st : Stack α) (event : Event) : Prop :=
  exists result st', sendEvent prop outcome st event = some (result, st') ∧
    st'.length = st.length

theorem not_neutral (prop : Value α -> String -> Value α)
    (outcome : Outcome α) (st : Stack α) (event : Event) :
    ¬ Neutral prop outcome st event := by
  intro hdone
  rcases hdone with ⟨result, st', hsend, hlength⟩
  rw [sendEvent_eq] at hsend
  cases hsend
  rw [List.length_cons] at hlength
  exact Nat.succ_ne_self _ hlength

theorem length_of_finishEvent {outcome : Outcome α} {st st' : Stack α}
    {result : Int} (h : finishEvent outcome st = some (result, st')) :
    st'.length + 2 = st.length := by
  by_cases htwo : 2 ≤ st.length
  · simp only [finishEvent, pcall, if_pos htwo, pop, Option.bind_eq_bind,
      Option.bind_some, Option.pure_def, Option.some.injEq,
      Prod.mk.injEq] at h
    rw [← h.2, List.length_drop]
    lia
  · simp [finishEvent, pcall, htwo] at h

/-!
## Runs
-/

/-- `duk_init` is under way, or was not called yet. -/
def Loading : Pc -> Prop
  | .start => True
  | .deleteQueue => True
  | .clearReset => True
  | .loadAndRun => True
  | .loadFile _ => True
  | .runFile _ => True
  | .runOnStart _ => True
  | .afterLoad _ _ => True
  | _ => False

def inSendEvent : Pc -> Nat
  | .runOnEvent _ => 3
  | _ => 0

/-- The height of the stack, relative to the end of the last `duk_init`. -/
structure HeightInv (s : State α T) : Prop where
  loading : Loading s.pc ->
    s.history.baseHeight = none ∧ s.history.delivered = 0
  height : forall h, s.history.baseHeight = some h ->
    exists st, s.g.ctx = some st ∧
      st.length = h + s.history.delivered + inSendEvent s.pc

theorem initial_heightInv (reset : Bool) (wakeUp : WakeUp) :
    HeightInv (initial α T reset wakeUp) where
  loading _ := ⟨rfl, rfl⟩
  height h hbase := by cases hbase

theorem Move.inSendEvent {s : State α T} {next : Pc} (h : Move s next) :
    inSendEvent s.pc = 0 ∧ inSendEvent next = 0 := by
  cases h <;> simp [DukMain.inSendEvent, *]

theorem Move.loading {s : State α T} {next : Pc} (h : Move s next)
    (hnext : Loading next) : Loading s.pc := by
  cases h <;> simp_all [Loading]

theorem HeightInv.of_loading {s s' : State α T} (h : HeightInv s)
    (hpc : Loading s.pc)
    (hbase : s'.history.baseHeight = s.history.baseHeight)
    (hdelivered : s'.history.delivered = s.history.delivered) :
    HeightInv s' := by
  have hinit := h.loading hpc
  constructor
  · intro _
    rw [hbase, hdelivered]
    exact hinit
  · intro k hk
    rw [hbase, hinit.1] at hk
    cases hk

theorem HeightInv.of_same {s s' : State α T} (h : HeightInv s)
    (hctx : s'.g.ctx = s.g.ctx)
    (hbase : s'.history.baseHeight = s.history.baseHeight)
    (hdelivered : s'.history.delivered = s.history.delivered)
    (hcalls : inSendEvent s'.pc = inSendEvent s.pc)
    (hloading : Loading s'.pc -> Loading s.pc) : HeightInv s' := by
  constructor
  · intro hpc
    rw [hbase, hdelivered]
    exact h.loading (hloading hpc)
  · intro k hk
    rw [hctx, hdelivered, hcalls]
    exact h.height k (hbase.symm.trans hk)

theorem HeightInv.taskStep {w : World α} {s s' : State α T}
    (h : HeightInv s) (hstep : TaskStep w s s') : HeightInv s' := by
  cases hstep with
  | start hpc =>
      exact h.of_loading (by simp [Loading, hpc]) rfl rfl
  | move wakeUp hmove =>
      have hcalls := hmove.inSendEvent.2.trans hmove.inSendEvent.1.symm
      exact h.of_same rfl rfl rfl hcalls hmove.loading
  | load hpc =>
      constructor
      · intro _
        exact ⟨rfl, rfl⟩
      · intro k hbase
        cases hbase
  | discard hpc hqueue =>
      exact h.of_same rfl rfl rfl rfl id
  | clearReset hpc =>
      exact h.of_loading (by simp [Loading, hpc]) rfl rfl
  | loadAndRun hpc =>
      exact h.of_loading (by simp [Loading, hpc]) rfl rfl
  | failed loadIndex hpc =>
      exact h.of_loading (by simp [Loading, hpc]) rfl rfl
  | loaded hpc hresult =>
      have hinit := h.loading (by simp [Loading, hpc])
      constructor
      · intro hnext
        cases hnext
      · intro k hbase
        rcases Option.map_eq_some_iff.mp hbase with ⟨st, hctx, hlength⟩
        refine ⟨st, ?_, ?_⟩
        · rw [releaseLoadFile_ctx]
          exact hctx
        · rw [hinit.2]
          exact hlength
  | notified hpc =>
      exact h.of_same rfl rfl rfl (by simp [inSendEvent, hpc]) False.elim
  | take hpc hqueue =>
      exact h.of_same rfl rfl rfl (by simp [inSendEvent, hpc]) False.elim
  | @incoming msg st object func hpc hdirection hctx =>
      constructor
      · intro hnext
        cases hnext
      · intro k hbase
        rcases h.height k hbase with ⟨st', hctx', hlength⟩
        rw [hctx] at hctx'
        cases hctx'
        rw [hpc] at hlength
        refine ⟨_, rfl, ?_⟩
        simpa [recordDispatch, inSendEvent] using hlength
  | sent hpc hdirection htype hfunc =>
      exact h.of_same rfl rfl rfl (by simp [inSendEvent, hpc]) False.elim
  | ignored hpc hdirection hnobody =>
      exact h.of_same rfl rfl rfl (by simp [inSendEvent, hpc]) False.elim
  | @eventDone msg st st' outcome result hpc hctx hfinish =>
      have htwo := length_of_finishEvent hfinish
      constructor
      · intro hnext
        cases hnext
      · intro k hbase
        rcases h.height k hbase with ⟨st₀, hctx₀, hlength⟩
        rw [hctx] at hctx₀
        cases hctx₀
        rw [hpc, inSendEvent] at hlength
        refine ⟨st', rfl, ?_⟩
        change st'.length = k + (s.history.delivered + 1) + 0
        lia

theorem HeightInv.scriptStep {s s' : State α T} (h : HeightInv s)
    (hstep : ScriptStep s s') : HeightInv s' := by
  rcases h with ⟨hloading, hheight⟩
  cases hstep with
  | append event hidle => exact ⟨hloading, hheight⟩
  | wake happended => exact ⟨hloading, hheight⟩
  | reset hidle => exact ⟨hloading, hheight⟩
  | assign wakeUp sendFunc loadFile hidle => exact ⟨hloading, hheight⟩

variable [DecidableEq T]

theorem HeightInv.threadStep {t : T} {s s' : State α T} (h : HeightInv s)
    (hstep : ThreadStep t s s') : HeightInv s' := by
  rcases h with ⟨hloading, hheight⟩
  cases hstep with
  | append event hidle => exact ⟨hloading, hheight⟩
  | reset hidle => exact ⟨hloading, hheight⟩
  | setLoad file hidle => exact ⟨hloading, hheight⟩
  | wake hbusy => exact ⟨hloading, hheight⟩

theorem reachable_heightInv {w : World α} {s : State α T}
    (h : Reachable w s) : HeightInv s :=
  h.invariant initial_heightInv (fun _ _ hs _ hstep => hs.taskStep hstep)
    (fun _ _ hs _ hstep => hs.scriptStep hstep)
    (fun _ _ _ hs hstep => hs.threadStep hstep)

/--
`send_event` is never neutral: in every reachable state outside of it, the
stack is as high as right after the last `duk_init` exactly if no event was
delivered since then.
-/
theorem sendEvent_never_neutral (w : World α) :
    (forall (prop : Value α -> String -> Value α) (outcome : Outcome α)
      (st : Stack α) (event : Event), ¬ Neutral prop outcome st event) ∧
    forall (s : State α T), Reachable w s ->
      forall h, s.history.baseHeight = some h -> inSendEvent s.pc = 0 ->
        exists st, s.g.ctx = some st ∧
          (st.length = h ↔ s.history.delivered = 0) := by
  constructor
  · exact not_neutral
  · intro s hreach k hbase hout
    rcases (reachable_heightInv hreach).height k hbase with
      ⟨st, hctx, hlength⟩
    refine ⟨st, hctx, ?_⟩
    rw [hlength, hout]
    lia

/-!
## A button press

`main.js` is loaded, another thread reports that the button was pressed once,
and `OnEvent` returns.
-/

def plainWorld : World Unit where
  registered := []
  shorten := id

def goodInput : Input Unit where
  tick := 0
  tickAfter := 0
  readable := true
  outcome := .returned (.script ())
  prop := fun _ _ => .script ()

def pressArgs : EventArgs :=
  eventArgs buttonPressed .incoming none 1

def pressRun : List (Action Unit Unit) :=
  List.replicate 11 (.task goodInput) ++
    [.thread () (.addFullEvent pressArgs), .thread () .wake] ++
    List.replicate 5 (.task goodInput)

def noWakeUp : WakeUp where
  delay := portMaxDelay
  lastTicks := 0
  wakeUpTimeMS := 0

theorem press_run :
    (Foundation.runAll (step plainWorld) pressRun
        (initial Unit Unit false noWakeUp)).map
      (fun s => (inSendEvent s.pc, s.g.ctx, s.history.baseHeight,
        s.history.delivered)) =
      some (0, some [.globalObject], some 0, 1) := rfl

theorem exists_pressed :
    exists s : State Unit Unit, Reachable plainWorld s ∧
      inSendEvent s.pc = 0 ∧ s.g.ctx = some [.globalObject] ∧
      s.history.baseHeight = some 0 ∧ s.history.delivered = 1 := by
  rcases Option.map_eq_some_iff.mp press_run with ⟨s, hrun, hs⟩
  simp only [Prod.mk.injEq] at hs
  rcases hs with ⟨hpc, hctx, hbase, hdelivered⟩
  refine ⟨s, ?_, hpc, hctx, hbase, hdelivered⟩
  exact ⟨_, pressRun, ⟨false, noWakeUp, rfl⟩, hrun⟩

theorem press_event :
    exists event, fullEvent pressArgs = some event ∧
      sendEvent goodInput.prop goodInput.outcome [] event =
        some (1, [.globalObject]) :=
  ⟨_, rfl, rfl⟩

theorem press_grows_stack :
    (exists event, fullEvent pressArgs = some event ∧
      ¬ Neutral goodInput.prop goodInput.outcome [] event) ∧
    exists s : State Unit Unit, Reachable plainWorld s ∧
      inSendEvent s.pc = 0 ∧
      exists h st, s.history.baseHeight = some h ∧ s.g.ctx = some st ∧
        st.length ≠ h := by
  constructor
  · rcases press_event with ⟨event, hevent, hsend⟩
    refine ⟨event, hevent, ?_⟩
    intro hdone
    rcases hdone with ⟨result, st', hsend', hlength⟩
    rw [hsend] at hsend'
    cases hsend'
    cases hlength
  · rcases exists_pressed with ⟨s, hreach, hpc, hctx, hbase, hdelivered⟩
    exact ⟨s, hreach, hpc, 0, [.globalObject], hbase, hctx, by simp⟩

theorem sendEvent_never_neutral_pressed :
    exists s : State Unit Unit, Reachable plainWorld s ∧
      s.history.baseHeight = some 0 ∧ inSendEvent s.pc = 0 ∧
      exists st, s.g.ctx = some st ∧
        (st.length = 0 ↔ s.history.delivered = 0) := by
  rcases exists_pressed with ⟨s, hreach, hpc, hctx, hbase, hdelivered⟩
  exact ⟨s, hreach, hbase, hpc,
    (sendEvent_never_neutral plainWorld).2 s hreach 0 hbase hpc⟩

end DukMain
end Fluxnode
