import Fluxnode.DukMain.WakeUp
import Fluxnode.Foundation.Run
import Fluxnode.Timer.WellFormed

/-!
# Two clocks

The library compares expiries with the system time, which
`Platform.setSystemTime` sets to any value, while delays pass and the runtime
waits in ticks.  Here both clocks run on from the same time since the start, in
microseconds, and the calls of the library are cut into the steps between which
time passes or a callback makes its own calls.
-/

namespace Fluxnode
namespace Timer

/--
A function of the application, with the time at which its timer was armed and
by how much the system time was ahead of it then.  The library stores and calls
the function, and does not look into it.
-/
structure Stamped (func : Type _) where
  func : func
  armed : Nat
  offset : Int
  deriving DecidableEq, Repr

/--
Where the script is: between two calls of `OnTimer`, before a call that
`timer_check` asked for, at the head of its first loop, in a callback, or at
the head of its second loop.
-/
inductive Pc where
  | idle
  | timerExpired
  | look (ts : Int) (i : Nat) (expired : List Int)
  | callback (ts : Int) (i : Nat) (expired : List Int)
  | rearm (expired : List Int)
  deriving DecidableEq, Repr

structure Invocation (func : Type _) where
  timer : Entry (Stamped func)
  uptime : Nat
  deriving DecidableEq, Repr

/--
The library, the timer of the runtime, and the two clocks: the time since the
start, and by how much the system time is ahead of it.  The callbacks that were
run are not part of the code.
-/
structure System (func : Type _) where
  lib : State (Stamped func)
  wakeUp : DukMain.WakeUp
  uptime : Nat
  offset : Int
  pc : Pc
  invoked : List (Invocation func)
  deriving DecidableEq, Repr

variable {func : Type _}

/-!
## The clocks
-/

/-- `new Date().getTime()`, in milliseconds. -/
def getTimeAt (uptime : Nat) (offset : Int) : Int :=
  (uptime + offset) / 1000

/-- `xTaskGetTickCount()` without its overflow; a tick is 10 ms. -/
def tickCount (uptime : Nat) : Nat :=
  uptime / 10000

def System.date (s : System func) : Int :=
  getTimeAt s.uptime s.offset

def System.tick (s : System func) : UInt32 :=
  UInt32.ofNat (tickCount s.uptime)

def System.now (s : System func) : World (Stamped func) where
  clock _ := s.date
  body _ _ := []

/-- `set_system_time`, as far as the clocks go: `settimeofday` with whole
seconds. -/
def setSystemTime (s : System func) (tvSec : Int) : System func :=
  { s with offset := tvSec * 1000000 - s.uptime }

/-!
## The library in the system
-/

def setLib (shorten : UInt32 -> UInt32) (s : System func)
    (lib : State (Stamped func)) : System func :=
  { s with
    lib := lib
    wakeUp :=
      DukMain.setWakeUpTime shorten s.tick (UInt32.ofNat lib.wakeUpTimeMS)
        s.wakeUp }

def arm (s : System func) (f : func) (delay : Nat) (interval : Bool)
    (ID : Int) : System func :=
  let f : Stamped func :=
    { func := f, armed := s.uptime, offset := s.offset }
  { s with lib := (setTimeoutInternal s.now s.lib f delay interval ID).1 }

def pass (us : Nat) (s : System func) : System func :=
  { s with uptime := s.uptime + us }

def install (shorten : UInt32 -> UInt32) (s : System func) : System func :=
  setLib shorten s (installTimer s.now s.lib)

/-- `setTimeout` and `intervalTimer`; time passes between their two readings of
the clock. -/
def armAndInstall (shorten : UInt32 -> UInt32) (s : System func) (f : func)
    (delay : Nat) (interval : Bool) (us : Nat) : System func :=
  install shorten (pass us (arm s f delay interval (-1)))

/-- `OnTimer` up to the head of its first loop. -/
def startPass (s : System func) : System func :=
  { s with pc := .look s.date 0 [] }

def timerCheckStep (shorten : UInt32 -> UInt32) (s : System func) :
    System func :=
  let (expired, wakeUp) := DukMain.timerCheck shorten s.tick s.tick s.wakeUp
  { s with
    wakeUp := wakeUp
    pc := if expired then .timerExpired else .idle }

/-- The head of the first loop, up to the call of the callback. -/
def lookStep (s : System func) (ts : Int) (i : Nat) (expired : List Int) :
    System func :=
  match s.lib.timers[i]? with
  | none => { s with pc := .rearm expired }
  | some t =>
      if ts ≥ t.expire then
        { s with
          pc := .callback ts i (expired ++ [t.id])
          invoked := s.invoked ++ [{ timer := t, uptime := s.uptime }] }
      else
        { s with pc := .rearm expired }

/-- The rest of a round of the first loop, when the callback returned. -/
def returnStep (s : System func) (ts : Int) (i : Nat) (expired : List Int) :
    System func :=
  match s.lib.timers[i]? with
  -- `expire` of undefined
  | none => { s with pc := .idle }
  | some t =>
      if ts < t.expire then
        { s with pc := .rearm expired }
      else
        { s with pc := .look ts (i + 1) expired }

/-- A round of the second loop, or the end of `OnTimer`. -/
def rearmStep (shorten : UInt32 -> UInt32) (s : System func) :
    List Int -> System func
  | [] => { install shorten s with pc := .idle }
  | id :: rest =>
      let idx := timersFindIdxId s.lib.timers id
      let (removed, timers) := timersRemoveAt s.lib.timers idx
      let s := { s with lib := { s.lib with timers := timers } }
      match removed with
      -- `interval` of undefined
      | none => { s with pc := .idle }
      | some rt =>
          if rt.interval then
            { arm s rt.func.func rt.delay true rt.id with pc := .rearm rest }
          else
            { s with pc := .rearm rest }

/-!
## The system
-/

/-- Time passes, a call of the application or of a callback, the runtime at
`timer_check`, or `OnTimer` starts or goes on. -/
inductive Action (func : Type _) where
  | timePasses (us : Nat)
  | setSystemTime (tvSec : Int)
  | setTimeout (f : func) (delay : Nat) (us : Nat)
  | intervalTimer (f : func) (interval : Nat) (us : Nat)
  | cancelTimer (id : Int)
  | timerCheck
  | onTimer
  | goOn
  | returns
  | throws
  deriving DecidableEq, Repr

/-- The calls of the application are made outside of `OnTimer`, or by a
callback. -/
def mayCall : Pc -> Bool
  | .idle => true
  | .callback _ _ _ => true
  | _ => false

def step (shorten : UInt32 -> UInt32) :
    Action func -> System func -> Option (System func)
  | .timePasses us, s => some (pass us s)
  | .setSystemTime tvSec, s =>
      if mayCall s.pc then some (setSystemTime s tvSec) else none
  | .setTimeout f delay us, s =>
      if mayCall s.pc then some (armAndInstall shorten s f delay false us)
      else none
  | .intervalTimer f interval us, s =>
      if mayCall s.pc then some (armAndInstall shorten s f interval true us)
      else none
  | .cancelTimer id, s =>
      if mayCall s.pc then
        some (setLib shorten s (cancelTimer s.now s.lib id))
      else none
  | .timerCheck, s =>
      if s.pc = .idle then some (timerCheckStep shorten s) else none
  | .onTimer, s =>
      if s.pc = .idle ∨ s.pc = .timerExpired then some (startPass s) else none
  | .goOn, s =>
      match s.pc with
      | .look ts i expired => some (lookStep s ts i expired)
      | .rearm expired => some (rearmStep shorten s expired)
      | _ => none
  | .returns, s =>
      match s.pc with
      | .callback ts i expired => some (returnStep s ts i expired)
      | _ => none
  | .throws, s =>
      match s.pc with
      | .callback _ _ _ => some { s with pc := .idle }
      | _ => none

def IsInitial (s : System func) : Prop :=
  s.lib = initial (Stamped func) ∧ s.pc = .idle ∧ s.invoked = []

/-- The delay has elapsed in ticks since the arming, up to one tick. -/
def Waited (t : Entry (Stamped func)) (uptime : Nat) : Prop :=
  t.delay ≤ 10 * (tickCount uptime - tickCount t.func.armed) + 10

instance (t : Entry (Stamped func)) (uptime : Nat) :
    Decidable (Waited t uptime) :=
  inferInstanceAs (Decidable (_ ≤ _))

def NeverEarly (s : System func) : Prop :=
  forall v, v ∈ s.invoked -> Waited v.timer v.uptime

/-!
## What a step can do
-/

inductive Stepped (shorten : UInt32 -> UInt32) (s : System func) :
    Action func -> System func -> Prop where
  | timePasses (us : Nat) : Stepped shorten s (.timePasses us) (pass us s)
  | setSystemTime (tvSec : Int) (hpc : mayCall s.pc = true) :
      Stepped shorten s (.setSystemTime tvSec) (setSystemTime s tvSec)
  | setTimeout (f : func) (delay us : Nat) (hpc : mayCall s.pc = true) :
      Stepped shorten s (.setTimeout f delay us)
        (armAndInstall shorten s f delay false us)
  | intervalTimer (f : func) (interval us : Nat) (hpc : mayCall s.pc = true) :
      Stepped shorten s (.intervalTimer f interval us)
        (armAndInstall shorten s f interval true us)
  | cancelTimer (id : Int) (hpc : mayCall s.pc = true) :
      Stepped shorten s (.cancelTimer id)
        (setLib shorten s (cancelTimer s.now s.lib id))
  | timerCheck (hpc : s.pc = .idle) :
      Stepped shorten s .timerCheck (timerCheckStep shorten s)
  | onTimer (hpc : s.pc = .idle ∨ s.pc = .timerExpired) :
      Stepped shorten s .onTimer (startPass s)
  | look {ts : Int} {i : Nat} {expired : List Int}
      (hpc : s.pc = .look ts i expired) :
      Stepped shorten s .goOn (lookStep s ts i expired)
  | rearm {expired : List Int} (hpc : s.pc = .rearm expired) :
      Stepped shorten s .goOn (rearmStep shorten s expired)
  | returns {ts : Int} {i : Nat} {expired : List Int}
      (hpc : s.pc = .callback ts i expired) :
      Stepped shorten s .returns (returnStep s ts i expired)
  | throws {ts : Int} {i : Nat} {expired : List Int}
      (hpc : s.pc = .callback ts i expired) :
      Stepped shorten s .throws { s with pc := .idle }

theorem stepped_of_step
    {shorten : UInt32 -> UInt32} {a : Action func} {s s' : System func}
    (h : step shorten a s = some s') : Stepped shorten s a s' := by
  cases a with
  | timePasses us =>
      cases h
      exact .timePasses us
  | setSystemTime tvSec =>
      rcases Option.ite_none_right_eq_some.mp h with ⟨hpc, heq⟩
      cases heq
      exact .setSystemTime tvSec hpc
  | setTimeout f delay us =>
      rcases Option.ite_none_right_eq_some.mp h with ⟨hpc, heq⟩
      cases heq
      exact .setTimeout f delay us hpc
  | intervalTimer f interval us =>
      rcases Option.ite_none_right_eq_some.mp h with ⟨hpc, heq⟩
      cases heq
      exact .intervalTimer f interval us hpc
  | cancelTimer id =>
      rcases Option.ite_none_right_eq_some.mp h with ⟨hpc, heq⟩
      cases heq
      exact .cancelTimer id hpc
  | timerCheck =>
      rcases Option.ite_none_right_eq_some.mp h with ⟨hpc, heq⟩
      cases heq
      exact .timerCheck hpc
  | onTimer =>
      rcases Option.ite_none_right_eq_some.mp h with ⟨hpc, heq⟩
      cases heq
      exact .onTimer hpc
  | goOn =>
      unfold step at h
      dsimp only at h
      split at h
      · cases h
        exact .look (by assumption)
      · cases h
        exact .rearm (by assumption)
      · cases h
  | returns =>
      unfold step at h
      dsimp only at h
      split at h
      · cases h
        exact .returns (by assumption)
      · cases h
  | throws =>
      unfold step at h
      dsimp only at h
      split at h
      · cases h
        exact .throws (by assumption)
      · cases h

/-!
## When the clock may be set
-/

/-- The milliseconds by which the calls of `set_system_time` moved the clock
ahead since the timer was armed. -/
def movedAhead (s : System func) (t : Entry (Stamped func)) : Int :=
  s.date - getTimeAt s.uptime t.func.offset

/-- The milliseconds until the timer expires, on a clock that was not set since
the timer was armed. -/
def leftUnset (s : System func) (t : Entry (Stamped func)) : Int :=
  t.expire - getTimeAt s.uptime t.func.offset

/-- The clock was not moved ahead by all that is left of a timer whose delay
has not elapsed. -/
def NotAhead (s : System func) : Prop :=
  forall t, t ∈ s.lib.timers -> ¬ Waited t s.uptime ->
    movedAhead s t < leftUnset s t

/-- A callback has not set the clock back so far that a timer it creates now,
with a delay longer than a tick, is due at the start of the pass. -/
def NotBehindPass (s : System func) (delay : Nat) : Prop :=
  match s.pc with
  | .callback ts _ _ => 10 < delay -> ts < s.date + delay
  | _ => True

def StepOk : Action func -> System func -> Prop
  | .onTimer, s => NotAhead s
  | .setTimeout _ delay _, s => NotBehindPass s delay
  | .intervalTimer _ interval _, s => NotBehindPass s interval
  | _, _ => True

instance (s : System func) : Decidable (NotAhead s) :=
  inferInstanceAs (Decidable (forall t, t ∈ s.lib.timers -> _))

instance (s : System func) (delay : Nat) :
    Decidable (NotBehindPass s delay) := by
  unfold NotBehindPass
  split <;> infer_instance

instance (a : Action func) (s : System func) : Decidable (StepOk a s) := by
  cases a <;> unfold StepOk <;> infer_instance

end Timer
end Fluxnode
