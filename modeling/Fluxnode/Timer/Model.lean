import Fluxnode.Js.Slice

/-!
# The timer library

`spiffs_image/timer.js` keeps the timers of the application in an array that is
ordered by expiry, and keeps the one timer of the runtime set to the first of
them.  Times are whole milliseconds.  The clock and what the callbacks do when
they run come from outside.
-/

namespace Fluxnode
namespace Timer

/-- A call a callback makes while it runs, or its failure. -/
inductive Call (func : Type _) where
  | setTimeout (f : func) (delay : Nat)
  | intervalTimer (f : func) (interval : Nat)
  | cancelTimer (id : Int)
  | throws
  deriving DecidableEq, Repr

/--
The surroundings: the `k`-th reading of the clock, and the calls made when a
callback runs as the `k`-th callback of all.
-/
structure World (func : Type _) where
  clock : Nat -> Int
  body : Nat -> func -> List (Call func)

/-- An element of `__Timers.timers`. -/
structure Entry (func : Type _) where
  func : func
  expire : Int
  delay : Nat
  id : Int
  interval : Bool
  deriving DecidableEq, Repr

inductive Event where
  | ran (id : Int)
  | cancelled (id : Int)
  deriving DecidableEq, Repr

/--
`__Timers`, the runtime's wake-up time, and the history: how often the clock
was read, how many callbacks ran, and the observed events.
-/
structure State (func : Type _) where
  timers : List (Entry func)
  nextID : Int
  wakeUpTimeMS : Nat
  reads : Nat
  calls : Nat
  log : List Event
  deriving DecidableEq, Repr

def initial (func : Type _) : State func where
  timers := []
  nextID := 1
  wakeUpTimeMS := 0
  reads := 0
  calls := 0
  log := []

/-- How a piece of JavaScript ends; `running` is a loop that was not followed
to its end. -/
inductive Outcome (func α : Type _) where
  | returned (s : State func) (a : α)
  | threw (s : State func)
  | running
  deriving DecidableEq, Repr

variable {func : Type _}

/-!
## The array
-/

def timersFindIdx (timers : List (Entry func)) (expire : Int) : Nat :=
  timers.findIdx (fun t => decide (t.expire ≥ expire))

def timersFindIdxId (timers : List (Entry func)) (id : Int) : Int :=
  match timers.findIdx? (fun t => t.id == id) with
  | some i => i
  | none => -1

def timersInsertAt (timers : List (Entry func)) (t : Entry func) (idx : Nat) :
    List (Entry func) :=
  if idx = 0 then
    t :: timers
  else if idx = timers.length then
    timers ++ [t]
  else
    let ts := Js.slice timers 0 idx
    let te := Js.slice timers idx timers.length
    -- `push` extends the array that `ts` names as well
    (ts ++ [t]) ++ te

/-- `timers[idx]`, undefined outside the array. -/
def elementAt (timers : List (Entry func)) (idx : Int) :
    Option (Entry func) :=
  if idx < 0 then none else timers[idx.toNat]?

/-- `__timersRemoveAt`: the removed timer, undefined if there is none, and the
remaining array. -/
def timersRemoveAt (timers : List (Entry func)) (idx : Int) :
    Option (Entry func) × List (Entry func) :=
  if idx = 0 then
    (timers.head?, timers.tail)
  else if idx = timers.length then
    (timers.getLast?, timers.dropLast)
  else
    let ts := Js.slice timers 0 idx
    let te := Js.slice timers (idx + 1) timers.length
    (elementAt timers idx, ts ++ te)

/-!
## The runtime timer
-/

def requireUint (d : Int) : Nat :=
  if d < 0 then 0 else if d > 0xffffffff then 0xffffffff else d.toNat

/-- `Platform.setTimer`: `set_timer` and `duk_main_set_wake_up_time`. -/
def setTimer (s : State func) (timeout : Int) : State func :=
  { s with wakeUpTimeMS := requireUint timeout }

def getTime (w : World func) (s : State func) : Int × State func :=
  (w.clock s.reads, { s with reads := s.reads + 1 })

def installTimer (w : World func) (s : State func) : State func :=
  match s.timers with
  | [] => setTimer s 0
  | first :: _ =>
      let (ts, s) := getTime w s
      setTimer s (first.expire - ts)

/-!
## The calls of an application
-/

def setTimeoutInternal (w : World func) (s : State func) (f : func)
    (delay : Nat) (interval : Bool) (ID : Int) : State func × Int :=
  let (ts, s) := getTime w s
  let (id, s) :=
    if ID ≠ -1 then (ID, s)
    else (s.nextID, { s with nextID := s.nextID + 1 })
  let t : Entry func :=
    { func := f, expire := ts + delay, delay := delay, id := id,
      interval := interval }
  let idx := timersFindIdx s.timers t.expire
  ({ s with timers := timersInsertAt s.timers t idx }, id)

def setTimeout (w : World func) (s : State func) (f : func) (delay : Nat) :
    State func × Int :=
  let (s, id) := setTimeoutInternal w s f delay false (-1)
  (installTimer w s, id)

def intervalTimer (w : World func) (s : State func) (f : func)
    (interval : Nat) : State func × Int :=
  let (s, id) := setTimeoutInternal w s f interval true (-1)
  (installTimer w s, id)

def cancelTimer (w : World func) (s : State func) (id : Int) : State func :=
  let s := { s with log := s.log ++ [.cancelled id] }
  let idx := timersFindIdxId s.timers id
  let s :=
    if idx ≠ -1 then
      { s with timers := (timersRemoveAt s.timers idx).2 }
    else
      s
  installTimer w s

/-!
## `OnTimer`
-/

def runCalls (w : World func) :
    List (Call func) -> State func -> Outcome func Unit
  | [], s => .returned s ()
  | .setTimeout f delay :: rest, s => runCalls w rest (setTimeout w s f delay).1
  | .intervalTimer f interval :: rest, s =>
      runCalls w rest (intervalTimer w s f interval).1
  | .cancelTimer id :: rest, s => runCalls w rest (cancelTimer w s id)
  | .throws :: _, s => .threw s

def invoke (w : World func) (t : Entry func) (s : State func) :
    Outcome func Unit :=
  runCalls w (w.body s.calls t.func)
    { s with calls := s.calls + 1, log := s.log ++ [.ran t.id] }

/--
The first loop of `OnTimer`: `i` is its index and `expired` the ids collected
so far.  The array is the live one, which the callbacks change.
-/
def onTimerLoop (w : World func) (ts : Int) :
    Nat -> Nat -> List Int -> State func -> Outcome func (List Int)
  | 0, _, _, _ => .running
  | fuel + 1, i, expired, s =>
      match s.timers[i]? with
      | none => .returned s expired
      | some t =>
          if ts ≥ t.expire then
            match invoke w t s with
            | .returned s' _ =>
                match s'.timers[i]? with
                -- `expire` of undefined
                | none => .threw s'
                | some t' =>
                    if ts < t'.expire then
                      .returned s' (expired ++ [t.id])
                    else
                      onTimerLoop w ts fuel (i + 1) (expired ++ [t.id]) s'
            | .threw s' => .threw s'
            | .running => .running
          else
            .returned s expired

/-- The second loop of `OnTimer`, over the ids of the expired timers. -/
def rearmExpired (w : World func) :
    List Int -> State func -> Outcome func Unit
  | [], s => .returned s ()
  | id :: rest, s =>
      let idx := timersFindIdxId s.timers id
      let (removed, timers) := timersRemoveAt s.timers idx
      let s := { s with timers := timers }
      match removed with
      -- `interval` of undefined
      | none => .threw s
      | some rt =>
          if rt.interval then
            rearmExpired w rest
              (setTimeoutInternal w s rt.func rt.delay true rt.id).1
          else
            rearmExpired w rest s

/-- `OnTimer`, with fuel for its first loop. -/
def onTimer (w : World func) (fuel : Nat) (s : State func) :
    Outcome func Unit :=
  let (ts, s) := getTime w s
  match onTimerLoop w ts fuel 0 [] s with
  | .returned s expired =>
      match rearmExpired w expired s with
      | .returned s _ => .returned (installTimer w s) ()
      | .threw s => .threw s
      | .running => .running
  | .threw s => .threw s
  | .running => .running

end Timer
end Fluxnode
