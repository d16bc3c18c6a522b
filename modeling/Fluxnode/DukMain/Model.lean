import Mathlib.Logic.Function.Basic
import Fluxnode.DukMain.Event
import Fluxnode.DukMain.WakeUp
import Fluxnode.Foundation.Run

/-!
# The runtime task

`duktape_task` with everything that runs beside it.  An action is one step of
the task, one call that the running script makes, or one step of another
thread; the actions interleave in any order.  The work queue is the list of its
nodes, and each of its macros is one step.

What scripts compute, the files, the clock and the choice of the next action
come from outside.  A step that the code cannot take, or that has no defined
result, has no successor.
-/

namespace Fluxnode
namespace DukMain

open Duktape

/-!
## Files, functions and events
-/

/-- `ui_msg_send_func`: the functions that are ever set. -/
inductive SendFunc where
  | bleServerSend
  | websocketSend
  deriving DecidableEq, Repr

/-- A string of `duk_main_set_load_file`, with its address on the heap. -/
structure LoadFile where
  addr : Nat
  name : String
  deriving DecidableEq, Repr

/-- The `load_name` of `duk_init`: the load file, or one of `load_files`. -/
inductive LoadName where
  | loadFile (file : LoadFile)
  | builtin (index : Nat)
  deriving DecidableEq, Repr

/--
An event on its way through the queue, with its number in the order of the
appends and the number of queue deletions that had started before it.
-/
structure Appended where
  event : Event
  serial : Nat
  deletes : Nat
  deriving DecidableEq, Repr

/-!
## Positions

The task starts before `g->reset = 1` and comes to the outer loop at
`whileReset`.  In `duk_init` it is at the label `load`, in the loop of
`work_queue_delete`, at the assignments that clear the reset flag, and at the
call of `duk_util_load_and_run`; there it reads the file, evaluates it and
evaluates `OnStart();`, and `afterLoad` has the result.  `notifyTake` is
`ulTaskNotifyTake`.  In the inner loop the task is at `timer_check`, evaluates
`OnTimer();`, is at `WORK_QUEUE_RECV_GET`, has taken an event, waits for
`OnEvent` in `send_event`, and is at `free(msg)`.

Another thread is between its calls, or before the `duk_main_wake` of
`duk_main_add_full_event` or of the numbered reset request that it made by
`CMD_RESET`.
-/

inductive Pc where
  | start
  | whileReset
  | load
  | deleteQueue
  | clearReset
  | loadAndRun
  | loadFile (name : LoadName)
  | runFile (name : LoadName)
  | runOnStart (name : LoadName)
  | afterLoad (name : LoadName) (result : Int)
  | notifyTake
  | timerCheck
  | runOnTimer
  | queueGet
  | dispatch (msg : Appended)
  | runOnEvent (msg : Appended)
  | freeMsg (msg : Appended)
  deriving DecidableEq, Repr

inductive ThreadPc where
  | idle
  | appended
  | flagSet (request : Nat)
  deriving DecidableEq, Repr

/-!
## The state

`notifications` is the notification value of the task.  `scriptAppended` says
that the running script is in `duk_main_add_full_event`, before
`duk_main_wake`.

The history is not part of the code.  It holds the appended events, the events
that were removed from the queue, those that the dispatch loop looked at, and
the calls that showed an event to somebody; how often `work_queue_delete` and
`duk_util_load_and_run` were started; the reset requests; the height of the
value stack right after the last `duk_init`, and how many events `send_event`
has delivered since then.
-/

/-- `duk_globals_t`, without the task handle, which is set first. -/
structure DukGlobals (α : Type) where
  ctx : Option (Stack α)
  reset : Bool
  wakeUp : WakeUp
  eventQueue : List Appended
  sendFunc : Option SendFunc
  loadIndex : Nat
  loadFile : Option LoadFile

inductive Fate where
  | taken
  | discarded
  deriving DecidableEq, Repr

inductive Call where
  | onEvent (msg : Appended) (deletes : Nat)
  | sendFunc (func : SendFunc) (msg : Appended) (deletes : Nat)
  deriving DecidableEq, Repr

/-- An event that the dispatch loop looked at, and what it met. -/
structure Dispatched where
  msg : Appended
  sendFunc : Option SendFunc
  deletes : Nat
  deriving DecidableEq, Repr

/-- A reset that was requested by a thread or by the script, and the number of
loads that had started before it. -/
structure ResetRequest (T : Type) where
  requester : Option T
  loads : Nat
  deriving DecidableEq, Repr

structure History (T : Type) where
  appended : List Appended
  removed : List (Appended × Fate)
  dispatched : List Dispatched
  calls : List Call
  deletes : Nat
  loads : Nat
  requests : List (ResetRequest T)
  baseHeight : Option Nat
  delivered : Nat

structure State (α T : Type) where
  pc : Pc
  g : DukGlobals α
  notifications : Nat
  thread : T -> ThreadPc
  scriptAppended : Bool
  history : History T

/-- The state in which `duk_main_start` creates the task. -/
def initial (α T : Type) (reset : Bool) (wakeUp : WakeUp) : State α T where
  pc := .start
  g :=
    { ctx := none
      reset := reset
      wakeUp := wakeUp
      eventQueue := []
      sendFunc := none
      loadIndex := 0
      loadFile := none }
  notifications := 0
  thread := fun _ => .idle
  scriptAppended := false
  history :=
    { appended := []
      removed := []
      dispatched := []
      calls := []
      deletes := 0
      loads := 0
      requests := []
      baseHeight := none
      delivered := 0 }

variable {α T : Type}

/-!
## Operations on the globals
-/

/-- `malloc` of an event and `WORK_QUEUE_RECV_ADD`. -/
def append (s : State α T) (event : Event) : State α T :=
  let msg : Appended :=
    { event := event
      serial := s.history.appended.length
      deletes := s.history.deletes }
  { s with
    g := { s.g with eventQueue := s.g.eventQueue ++ [msg] }
    history := { s.history with appended := s.history.appended ++ [msg] } }

/-- `g->reset = 1` on behalf of a requester. -/
def requestReset (s : State α T) (requester : Option T) : State α T :=
  let request : ResetRequest T :=
    { requester := requester, loads := s.history.loads }
  { s with
    g := { s.g with reset := true }
    history :=
      { s.history with requests := s.history.requests ++ [request] } }

def wake (s : State α T) : State α T :=
  { s with notifications := s.notifications + 1 }

def setLoadFile (s : State α T) (file : Option LoadFile) : State α T :=
  { s with g := { s.g with loadFile := file } }

/-!
## The steps of the task
-/

/-- What does not change during a run: the stack that the registrations leave
in a new heap, and `delay * 0.99`. -/
structure World (α : Type) where
  registered : Stack α
  shorten : UInt32 -> UInt32

/-- What a step of the task reads from outside: the tick counter, twice,
whether the file could be read, how the evaluation or the call ends, and the
properties of the objects. -/
structure Input (α : Type) where
  tick : UInt32
  tickAfter : UInt32
  readable : Bool
  outcome : Outcome α
  prop : Value α -> String -> Value α

def loadFilesNum : Nat := 2

def loadName (g : DukGlobals α) : LoadName :=
  match g.loadFile with
  | some file => .loadFile file
  | none => .builtin g.loadIndex

/-- `g->load_file == load_name`, a comparison of addresses. -/
def isLoadName (g : DukGlobals α) : LoadName -> Bool
  | .loadFile file =>
      match g.loadFile with
      | some current => current.addr == file.addr
      | none => false
  | .builtin _ => false

/-- `if (g->load_file == load_name) { free(…); g->load_file = NULL; }` -/
def releaseLoadFile (g : DukGlobals α) (name : LoadName) : DukGlobals α :=
  if isLoadName g name then { g with loadFile := none } else g

/-- `duk_util_run` from the end of its evaluation: the result, and the
stack. -/
def utilRun (outcome : Outcome α) (st : Stack α) : Option (Int × Stack α) :=
  match pevalString outcome st with
  | (code, st) =>
      match pop st with
      | none => none
      | some st => some (if code ≠ 0 then 0 else 1, st)

def finishRun (i : Input α) (s : State α T) (next : Int -> Pc) :
    Option (State α T) :=
  match s.g.ctx with
  | none => none
  | some st =>
      match utilRun i.outcome st with
      | none => none
      | some (result, st) =>
          some { s with pc := next result, g := { s.g with ctx := some st } }

def stepLoad (s : State α T) : State α T :=
  { s with
    pc := .deleteQueue
    g := { s.g with ctx := some [] }
    history :=
      { s.history with
        deletes := s.history.deletes + 1
        baseHeight := none
        delivered := 0 } }

def stepDeleteQueue (s : State α T) : State α T :=
  match s.g.eventQueue with
  | [] => { s with pc := .clearReset }
  | msg :: rest =>
      { s with
        g := { s.g with eventQueue := rest }
        history :=
          { s.history with
            removed := s.history.removed ++ [(msg, .discarded)] } }

/-- The assignments after `work_queue_delete`, and the registrations. -/
def stepClearReset (w : World α) (s : State α T) : State α T :=
  { s with
    pc := .loadAndRun
    g :=
      { s.g with
        ctx := some w.registered
        reset := false
        wakeUp :=
          { s.g.wakeUp with delay := portMaxDelay, wakeUpTimeMS := 0 } } }

def stepLoadAndRun (s : State α T) : State α T :=
  { s with
    pc := .loadFile (loadName s.g)
    history := { s.history with loads := s.history.loads + 1 } }

def stepAfterLoad (s : State α T) (name : LoadName) (result : Int) :
    State α T :=
  if result = 0 then
    let g := { s.g with loadIndex := (s.g.loadIndex + 1) % loadFilesNum }
    { s with pc := .load, g := releaseLoadFile g name }
  else
    let g := { s.g with loadIndex := 0 }
    { s with
      pc := .whileReset
      g := releaseLoadFile g name
      history :=
        { s.history with baseHeight := s.g.ctx.map List.length } }

/-- `ulTaskNotifyTake(pdTRUE, g->delay)` returns: notified, or timed out. -/
def stepNotifyTake (s : State α T) : Option (State α T) :=
  if s.notifications ≠ 0 ∨ s.g.wakeUp.delay ≠ portMaxDelay then
    some { s with pc := .timerCheck, notifications := 0 }
  else
    none

def stepTimerCheck (w : World α) (i : Input α) (s : State α T) :
    State α T :=
  let (expired, wakeUp) :=
    timerCheck w.shorten i.tick i.tickAfter s.g.wakeUp
  { s with
    pc := if expired then .runOnTimer else .queueGet
    g := { s.g with wakeUp := wakeUp } }

def stepQueueGet (s : State α T) : State α T :=
  match s.g.eventQueue with
  | [] => { s with pc := .whileReset }
  | msg :: rest =>
      { s with
        pc := .dispatch msg
        g := { s.g with eventQueue := rest }
        history :=
          { s.history with
            removed := s.history.removed ++ [(msg, .taken)] } }

def recordDispatch (s : State α T) (msg : Appended) (calls : List Call) :
    History T :=
  let seen : Dispatched :=
    { msg := msg
      sendFunc := s.g.sendFunc
      deletes := s.history.deletes }
  { s.history with
    dispatched := s.history.dispatched ++ [seen]
    calls := s.history.calls ++ calls }

def stepIncoming (i : Input α) (s : State α T) (msg : Appended) :
    Option (State α T) :=
  match s.g.ctx with
  | none => none
  | some st =>
      match prepareEvent i.prop st msg.event with
      | none => none
      | some st =>
          some { s with
            pc := .runOnEvent msg
            g := { s.g with ctx := some st }
            history :=
              recordDispatch s msg [.onEvent msg s.history.deletes] }

def stepOutgoing (s : State α T) (msg : Appended) : State α T :=
  if msg.event.msgType = uiMsg then
    match s.g.sendFunc with
    | some func =>
        { s with
          pc := .freeMsg msg
          history :=
            recordDispatch s msg [.sendFunc func msg s.history.deletes] }
    | none =>
        { s with pc := .freeMsg msg, history := recordDispatch s msg [] }
  else
    { s with pc := .freeMsg msg, history := recordDispatch s msg [] }

def stepDispatch (i : Input α) (s : State α T) (msg : Appended) :
    Option (State α T) :=
  if msg.event.msgDirection = .incoming then
    stepIncoming i s msg
  else
    some (stepOutgoing s msg)

def stepOnEvent (i : Input α) (s : State α T) (msg : Appended) :
    Option (State α T) :=
  match s.g.ctx with
  | none => none
  | some st =>
      match finishEvent i.outcome st with
      | none => none
      | some (_, st) =>
          some { s with
            pc := .freeMsg msg
            g := { s.g with ctx := some st }
            history :=
              { s.history with delivered := s.history.delivered + 1 } }

/--
One step of `duktape_task`.  A script finishes its calls before its evaluation
ends.
-/
def taskStep (w : World α) (i : Input α) (s : State α T) :
    Option (State α T) :=
  if s.scriptAppended then
    none
  else
    match s.pc with
    | .start =>
        some { s with pc := .whileReset, g := { s.g with reset := true } }
    | .whileReset =>
        some { s with pc := if s.g.reset then .load else .notifyTake }
    | .load => some (stepLoad s)
    | .deleteQueue => some (stepDeleteQueue s)
    | .clearReset => some (stepClearReset w s)
    | .loadAndRun => some (stepLoadAndRun s)
    | .loadFile name =>
        some { s with
          pc := if i.readable then .runFile name else .afterLoad name 0 }
    | .runFile name =>
        finishRun i s (fun result =>
          if result = 0 then .afterLoad name 0 else .runOnStart name)
    | .runOnStart name => finishRun i s (.afterLoad name)
    | .afterLoad name result => some (stepAfterLoad s name result)
    | .notifyTake => stepNotifyTake s
    | .timerCheck => some (stepTimerCheck w i s)
    | .runOnTimer => finishRun i s (fun _ => .queueGet)
    | .queueGet => some (stepQueueGet s)
    | .dispatch msg => stepDispatch i s msg
    | .runOnEvent msg => stepOnEvent i s msg
    | .freeMsg _ => some { s with pc := .timerCheck }

/-!
## The script

The natives of `Platform` that reach the state of the task.  `sendEvent` is cut
in two: up to the append of its event, and its `duk_main_wake`.  `setSendFunc`
is the `duk_main_set_send_func` of `setConnectivity` and `wifiConfigure`.
-/

/-- A script runs in an evaluation, and as a finalizer when the heap of the
last application is destroyed. -/
def ScriptRuns (s : State α T) : Prop :=
  match s.pc with
  | .load => s.g.ctx.isSome
  | .runFile _ => True
  | .runOnStart _ => True
  | .runOnTimer => True
  | .runOnEvent _ => True
  | _ => False

instance (s : State α T) : Decidable (ScriptRuns s) := by
  unfold ScriptRuns
  split <;> infer_instance

inductive ScriptCall where
  | sendEvent (args : EventArgs)
  | wake
  | reset
  | setLoadFileName (file : Option LoadFile)
  | setTimer (tick timeoutMS : UInt32)
  | setSendFunc (func : Option SendFunc)
  deriving DecidableEq, Repr

def scriptCall (w : World α) (s : State α T) : ScriptCall ->
    Option (State α T)
  | .sendEvent args =>
      match fullEvent args with
      | none => none
      | some event => some { append s event with scriptAppended := true }
  | .wake => none
  | .reset => some (requestReset s none)
  | .setLoadFileName file => some (setLoadFile s file)
  | .setTimer tick timeoutMS =>
      some { s with
        g :=
          { s.g with
            wakeUp :=
              setWakeUpTime w.shorten tick timeoutMS s.g.wakeUp } }
  | .setSendFunc func => some { s with g := { s.g with sendFunc := func } }

def scriptStep (w : World α) (c : ScriptCall) (s : State α T) :
    Option (State α T) :=
  if ScriptRuns s then
    if s.scriptAppended then
      match c with
      | .wake => some { wake s with scriptAppended := false }
      | _ => none
    else
      scriptCall w s c
  else
    none

/-!
## The other threads

The producers call `duk_main_add_full_event`, and the web server runs
`CMD_RESET` and `CMD_SET_LOAD`.  The first two are cut in two like `sendEvent`.
-/

inductive ThreadCall where
  | addFullEvent (args : EventArgs)
  | reset
  | wake
  | setLoad (file : LoadFile)
  deriving DecidableEq, Repr

variable [DecidableEq T]

def setThread (s : State α T) (t : T) (pc : ThreadPc) : State α T :=
  { s with thread := Function.update s.thread t pc }

def threadStep (t : T) (c : ThreadCall) (s : State α T) :
    Option (State α T) :=
  match s.thread t, c with
  | .idle, .addFullEvent args =>
      match fullEvent args with
      | none => none
      | some event => some (setThread (append s event) t .appended)
  | .idle, .reset =>
      some (setThread (requestReset s (some t)) t
        (.flagSet s.history.requests.length))
  | .idle, .setLoad file => some (setLoadFile s (some file))
  | .appended, .wake => some (setThread (wake s) t .idle)
  | .flagSet _, .wake => some (setThread (wake s) t .idle)
  | _, _ => none

/-!
## The system
-/

inductive Action (α T : Type) where
  | task (i : Input α)
  | script (c : ScriptCall)
  | thread (t : T) (c : ThreadCall)

def step (w : World α) : Action α T -> State α T -> Option (State α T)
  | .task i, s => taskStep w i s
  | .script c, s => scriptStep w c s
  | .thread t c, s => threadStep t c s

/-- The states in which the task is created: its reset flag and its wake-up
time are undetermined. -/
def IsInitial (s : State α T) : Prop :=
  exists reset wakeUp, s = initial α T reset wakeUp

def Reachable (w : World α) (s : State α T) : Prop :=
  Foundation.Reachable (step w) IsInitial s

end DukMain
end Fluxnode
