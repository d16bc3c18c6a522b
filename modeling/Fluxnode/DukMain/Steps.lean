import Fluxnode.DukMain.Model

/-!
# What a step can do

The successors of a state, listed once.  Most steps of the task only move its
program counter; the others are the ones that invariants have to look at.
-/

namespace Fluxnode
namespace DukMain

open Duktape

variable {α T : Type}

/-!
## Fields that an operation leaves alone
-/

@[simp] theorem releaseLoadFile_ctx (g : DukGlobals α) (name : LoadName) :
    (releaseLoadFile g name).ctx = g.ctx := by
  unfold releaseLoadFile
  split <;> rfl

@[simp] theorem releaseLoadFile_reset (g : DukGlobals α)
    (name : LoadName) : (releaseLoadFile g name).reset = g.reset := by
  unfold releaseLoadFile
  split <;> rfl

@[simp] theorem releaseLoadFile_eventQueue (g : DukGlobals α)
    (name : LoadName) :
    (releaseLoadFile g name).eventQueue = g.eventQueue := by
  unfold releaseLoadFile
  split <;> rfl

@[simp] theorem releaseLoadFile_loadIndex (g : DukGlobals α)
    (name : LoadName) :
    (releaseLoadFile g name).loadIndex = g.loadIndex := by
  unfold releaseLoadFile
  split <;> rfl

theorem utilRun_eq (outcome : Outcome α) (st : Stack α) :
    utilRun outcome st =
      some (if outcome.result.1 ≠ 0 then 0 else 1, st) := rfl

theorem finishRun_eq_some {i : Input α} {s s' : State α T}
    {next : Int -> Pc} (h : finishRun i s next = some s') :
    exists result, s' = { s with pc := next result } := by
  cases hctx : s.g.ctx with
  | none => simp [finishRun, hctx] at h
  | some st =>
      simp only [finishRun, hctx, utilRun_eq, Option.some.injEq] at h
      exists if i.outcome.result.1 ≠ 0 then 0 else 1
      rw [← h, ← hctx]

/-!
## Steps of the task
-/

/-- Steps of the task that only move its program counter. -/
inductive Move (s : State α T) : Pc -> Prop where
  | init (hpc : s.pc = .whileReset) (hreset : s.g.reset = true) :
      Move s .load
  | sleep (hpc : s.pc = .whileReset) (hreset : s.g.reset = false) :
      Move s .notifyTake
  | deleted (hpc : s.pc = .deleteQueue) (hqueue : s.g.eventQueue = []) :
      Move s .clearReset
  | read {name : LoadName} (hpc : s.pc = .loadFile name) :
      Move s (.runFile name)
  | unreadable {name : LoadName} (hpc : s.pc = .loadFile name) :
      Move s (.afterLoad name 0)
  | fileRun {name : LoadName} (hpc : s.pc = .runFile name) :
      Move s (.runOnStart name)
  | fileFailed {name : LoadName} (hpc : s.pc = .runFile name) :
      Move s (.afterLoad name 0)
  | started {name : LoadName} (result : Int) (hpc : s.pc = .runOnStart name) :
      Move s (.afterLoad name result)
  | expired (hpc : s.pc = .timerCheck) : Move s .runOnTimer
  | pending (hpc : s.pc = .timerCheck) : Move s .queueGet
  | timerRun (hpc : s.pc = .runOnTimer) : Move s .queueGet
  | drained (hpc : s.pc = .queueGet) (hqueue : s.g.eventQueue = []) :
      Move s .whileReset
  | freed {msg : Appended} (hpc : s.pc = .freeMsg msg) : Move s .timerCheck

inductive TaskStep (w : World α) (s : State α T) : State α T -> Prop where
  | start (hpc : s.pc = .start) :
      TaskStep w s
        { s with pc := .whileReset, g := { s.g with reset := true } }
  | move {next : Pc} (wakeUp : WakeUp) (hmove : Move s next) :
      TaskStep w s
        { s with pc := next, g := { s.g with wakeUp := wakeUp } }
  | load (hpc : s.pc = .load) : TaskStep w s (stepLoad s)
  | discard {msg : Appended} {rest : List Appended}
      (hpc : s.pc = .deleteQueue) (hqueue : s.g.eventQueue = msg :: rest) :
      TaskStep w s
        { s with
          g := { s.g with eventQueue := rest }
          history :=
            { s.history with
              removed := s.history.removed ++ [(msg, .discarded)] } }
  | clearReset (hpc : s.pc = .clearReset) :
      TaskStep w s (stepClearReset w s)
  | loadAndRun (hpc : s.pc = .loadAndRun) :
      TaskStep w s (stepLoadAndRun s)
  | failed {name : LoadName} (loadIndex : Nat)
      (hpc : s.pc = .afterLoad name 0) :
      TaskStep w s
        { s with
          pc := .load
          g := releaseLoadFile { s.g with loadIndex := loadIndex } name }
  | loaded {name : LoadName} {result : Int}
      (hpc : s.pc = .afterLoad name result) (hresult : result ≠ 0) :
      TaskStep w s
        { s with
          pc := .whileReset
          g := releaseLoadFile { s.g with loadIndex := 0 } name
          history :=
            { s.history with baseHeight := s.g.ctx.map List.length } }
  | notified (hpc : s.pc = .notifyTake) :
      TaskStep w s { s with pc := .timerCheck, notifications := 0 }
  | take {msg : Appended} {rest : List Appended}
      (hpc : s.pc = .queueGet) (hqueue : s.g.eventQueue = msg :: rest) :
      TaskStep w s
        { s with
          pc := .dispatch msg
          g := { s.g with eventQueue := rest }
          history :=
            { s.history with
              removed := s.history.removed ++ [(msg, .taken)] } }
  | incoming {msg : Appended} {st : Stack α} (object func : Value α)
      (hpc : s.pc = .dispatch msg)
      (hdirection : msg.event.msgDirection = .incoming)
      (hctx : s.g.ctx = some st) :
      TaskStep w s
        { s with
          pc := .runOnEvent msg
          g := { s.g with ctx := some (object :: func :: .globalObject :: st) }
          history := recordDispatch s msg [.onEvent msg s.history.deletes] }
  | sent {msg : Appended} {func : SendFunc} (hpc : s.pc = .dispatch msg)
      (hdirection : msg.event.msgDirection ≠ .incoming)
      (htype : msg.event.msgType = uiMsg)
      (hfunc : s.g.sendFunc = some func) :
      TaskStep w s
        { s with
          pc := .freeMsg msg
          history :=
            recordDispatch s msg [.sendFunc func msg s.history.deletes] }
  | ignored {msg : Appended} (hpc : s.pc = .dispatch msg)
      (hdirection : msg.event.msgDirection ≠ .incoming)
      (hnobody : msg.event.msgType ≠ uiMsg ∨ s.g.sendFunc = none) :
      TaskStep w s
        { s with pc := .freeMsg msg, history := recordDispatch s msg [] }
  | eventDone {msg : Appended} {st st' : Stack α} {outcome : Outcome α}
      {result : Int} (hpc : s.pc = .runOnEvent msg)
      (hctx : s.g.ctx = some st)
      (hfinish : finishEvent outcome st = some (result, st')) :
      TaskStep w s
        { s with
          pc := .freeMsg msg
          g := { s.g with ctx := some st' }
          history :=
            { s.history with delivered := s.history.delivered + 1 } }

theorem TaskStep.of_move {w : World α} {s : State α T} {next : Pc}
    (hmove : Move s next) : TaskStep w s { s with pc := next } :=
  .move s.g.wakeUp hmove

theorem stepDeleteQueue_cases {w : World α} {s : State α T}
    (hpc : s.pc = .deleteQueue) : TaskStep w s (stepDeleteQueue s) := by
  unfold stepDeleteQueue
  split
  · rename_i hqueue
    exact .of_move (.deleted hpc hqueue)
  · rename_i hqueue
    exact .discard hpc hqueue

theorem stepAfterLoad_cases {w : World α} {s : State α T}
    {name : LoadName} {result : Int} (hpc : s.pc = .afterLoad name result) :
    TaskStep w s (stepAfterLoad s name result) := by
  unfold stepAfterLoad
  split
  · rename_i hresult
    rw [hresult] at hpc
    exact .failed _ hpc
  · rename_i hresult
    exact .loaded hpc hresult

theorem stepTimerCheck_cases {w : World α} {i : Input α} {s : State α T}
    (hpc : s.pc = .timerCheck) : TaskStep w s (stepTimerCheck w i s) := by
  unfold stepTimerCheck
  split
  rename_i expired wakeUp hcheck
  cases expired with
  | true => exact .move wakeUp (.expired hpc)
  | false => exact .move wakeUp (.pending hpc)

theorem stepQueueGet_cases {w : World α} {s : State α T}
    (hpc : s.pc = .queueGet) : TaskStep w s (stepQueueGet s) := by
  unfold stepQueueGet
  split
  · rename_i hqueue
    exact .of_move (.drained hpc hqueue)
  · rename_i hqueue
    exact .take hpc hqueue

theorem stepNotifyTake_cases {w : World α} {s s' : State α T}
    (hpc : s.pc = .notifyTake) (h : stepNotifyTake s = some s') :
    TaskStep w s s' := by
  unfold stepNotifyTake at h
  split at h
  · cases h
    exact .notified hpc
  · cases h

theorem stepDispatch_cases {w : World α} {i : Input α} {s s' : State α T}
    {msg : Appended} (hpc : s.pc = .dispatch msg)
    (h : stepDispatch i s msg = some s') : TaskStep w s s' := by
  unfold stepDispatch at h
  split at h
  case isTrue hdirection =>
    unfold stepIncoming at h
    split at h
    · cases h
    · rename_i st hctx
      rw [prepareEvent_eq] at h
      cases h
      exact .incoming _ _ hpc hdirection hctx
  case isFalse hdirection =>
    cases h
    unfold stepOutgoing
    split
    · rename_i htype
      split
      · rename_i hfunc
        exact .sent hpc hdirection htype hfunc
      · rename_i hfunc
        exact .ignored hpc hdirection (Or.inr hfunc)
    · rename_i htype
      exact .ignored hpc hdirection (Or.inl htype)

theorem stepOnEvent_cases {w : World α} {i : Input α} {s s' : State α T}
    {msg : Appended} (hpc : s.pc = .runOnEvent msg)
    (h : stepOnEvent i s msg = some s') : TaskStep w s s' := by
  unfold stepOnEvent at h
  split at h
  · cases h
  · rename_i st hctx
    split at h
    · cases h
    · rename_i hfinish
      cases h
      exact .eventDone hpc hctx hfinish

theorem taskStep_cases {w : World α} {i : Input α} {s s' : State α T}
    (h : taskStep w i s = some s') :
    s.scriptAppended = false ∧ TaskStep w s s' := by
  unfold taskStep at h
  split at h
  · cases h
  rename_i hscript
  constructor
  · simpa using hscript
  cases hpc : s.pc with
  | start =>
      rw [hpc] at h
      cases h
      exact .start hpc
  | whileReset =>
      rw [hpc] at h
      cases h
      cases hreset : s.g.reset with
      | true => exact .of_move (.init hpc hreset)
      | false => exact .of_move (.sleep hpc hreset)
  | load =>
      rw [hpc] at h
      cases h
      exact .load hpc
  | deleteQueue =>
      rw [hpc] at h
      cases h
      exact stepDeleteQueue_cases hpc
  | clearReset =>
      rw [hpc] at h
      cases h
      exact .clearReset hpc
  | loadAndRun =>
      rw [hpc] at h
      cases h
      exact .loadAndRun hpc
  | loadFile name =>
      rw [hpc] at h
      cases h
      cases i.readable with
      | true => exact .of_move (.read hpc)
      | false => exact .of_move (.unreadable hpc)
  | runFile name =>
      rw [hpc] at h
      rcases finishRun_eq_some h with ⟨result, rfl⟩
      by_cases hresult : result = 0
      · rw [if_pos hresult]
        exact .of_move (.fileFailed hpc)
      · rw [if_neg hresult]
        exact .of_move (.fileRun hpc)
  | runOnStart name =>
      rw [hpc] at h
      rcases finishRun_eq_some h with ⟨result, rfl⟩
      exact .of_move (.started result hpc)
  | afterLoad name result =>
      rw [hpc] at h
      cases h
      exact stepAfterLoad_cases hpc
  | notifyTake =>
      rw [hpc] at h
      exact stepNotifyTake_cases hpc h
  | timerCheck =>
      rw [hpc] at h
      cases h
      exact stepTimerCheck_cases hpc
  | runOnTimer =>
      rw [hpc] at h
      rcases finishRun_eq_some h with ⟨result, rfl⟩
      exact .of_move (.timerRun hpc)
  | queueGet =>
      rw [hpc] at h
      cases h
      exact stepQueueGet_cases hpc
  | dispatch msg =>
      rw [hpc] at h
      exact stepDispatch_cases hpc h
  | runOnEvent msg =>
      rw [hpc] at h
      exact stepOnEvent_cases hpc h
  | freeMsg msg =>
      rw [hpc] at h
      cases h
      exact .of_move (.freed hpc)

/-!
## Steps of the script
-/

inductive ScriptStep (s : State α T) : State α T -> Prop where
  | append (event : Event) (hidle : s.scriptAppended = false) :
      ScriptStep s { append s event with scriptAppended := true }
  | wake (happended : s.scriptAppended = true) :
      ScriptStep s { wake s with scriptAppended := false }
  | reset (hidle : s.scriptAppended = false) :
      ScriptStep s (requestReset s none)
  | assign (wakeUp : WakeUp) (sendFunc : Option SendFunc)
      (loadFile : Option LoadFile) (hidle : s.scriptAppended = false) :
      ScriptStep s
        { s with
          g :=
            { s.g with
              wakeUp := wakeUp
              sendFunc := sendFunc
              loadFile := loadFile } }

theorem scriptStep_cases {w : World α} {c : ScriptCall} {s s' : State α T}
    (h : scriptStep w c s = some s') : ScriptRuns s ∧ ScriptStep s s' := by
  unfold scriptStep at h
  split at h
  case isFalse => cases h
  rename_i hruns
  constructor
  · exact hruns
  split at h
  · rename_i happended
    cases c with
    | wake =>
        cases h
        exact .wake happended
    | sendEvent => cases h
    | reset => cases h
    | setLoadFileName => cases h
    | setTimer => cases h
    | setSendFunc => cases h
  · rename_i hidle
    have hidle : s.scriptAppended = false := by simpa using hidle
    cases c with
    | sendEvent args =>
        cases hevent : fullEvent args with
        | none => simp [scriptCall, hevent] at h
        | some event =>
            simp only [scriptCall, hevent, Option.some.injEq] at h
            rw [← h]
            exact .append event hidle
    | wake => cases h
    | reset =>
        cases h
        exact .reset hidle
    | setLoadFileName file =>
        cases h
        exact .assign s.g.wakeUp s.g.sendFunc file hidle
    | setTimer tick timeoutMS =>
        cases h
        exact .assign _ s.g.sendFunc s.g.loadFile hidle
    | setSendFunc func =>
        cases h
        exact .assign s.g.wakeUp func s.g.loadFile hidle

/-!
## Steps of the other threads
-/

variable [DecidableEq T]

inductive ThreadStep (t : T) (s : State α T) : State α T -> Prop where
  | append (event : Event) (hidle : s.thread t = .idle) :
      ThreadStep t s (setThread (append s event) t .appended)
  | reset (hidle : s.thread t = .idle) :
      ThreadStep t s
        (setThread (requestReset s (some t)) t
          (.flagSet s.history.requests.length))
  | setLoad (file : LoadFile) (hidle : s.thread t = .idle) :
      ThreadStep t s (setLoadFile s (some file))
  | wake (hbusy : s.thread t ≠ .idle) :
      ThreadStep t s (setThread (wake s) t .idle)

theorem threadStep_cases {t : T} {c : ThreadCall} {s s' : State α T}
    (h : threadStep t c s = some s') : ThreadStep t s s' := by
  unfold threadStep at h
  split at h
  case h_1 hidle =>
    split at h
    · cases h
    · cases h
      exact .append _ hidle
  case h_2 hidle =>
    cases h
    exact .reset hidle
  case h_3 file hidle =>
    cases h
    exact .setLoad file hidle
  case h_4 happended =>
    cases h
    apply ThreadStep.wake
    rw [happended]
    intro hidle
    cases hidle
  case h_5 request hflag =>
    cases h
    apply ThreadStep.wake
    rw [hflag]
    intro hidle
    cases hidle
  case h_6 => cases h

/-!
## Invariants

An invariant is shown for the start, and for each kind of step with what is
known when it is taken.
-/

theorem Reachable.invariant {w : World α} {inv : State α T -> Prop}
    (hstart : forall reset wakeUp, inv (initial α T reset wakeUp))
    (htask : forall s s', inv s -> s.scriptAppended = false ->
      TaskStep w s s' -> inv s')
    (hscript : forall s s', inv s -> ScriptRuns s -> ScriptStep s s' -> inv s')
    (hthread : forall t s s', inv s -> ThreadStep t s s' -> inv s')
    {s : State α T} (h : Reachable w s) : inv s := by
  apply Foundation.Reachable.invariant _ _ h
  · intro s₀ hs₀
    rcases hs₀ with ⟨reset, wakeUp, rfl⟩
    exact hstart reset wakeUp
  · intro action s s' hs hstep
    cases action with
    | task i =>
        rcases taskStep_cases hstep with ⟨hquiet, htaskStep⟩
        exact htask s s' hs hquiet htaskStep
    | script c =>
        rcases scriptStep_cases hstep with ⟨hruns, hscriptStep⟩
        exact hscript s s' hs hruns hscriptStep
    | thread t c => exact hthread t s s' hs (threadStep_cases hstep)

end DukMain
end Fluxnode
