import Mathlib.Tactic.Common

/-!
# The wake-up time of the runtime

`duk_main.c` counts the time until the next call of `OnTimer` in milliseconds,
and the ticks since it last looked at the tick counter.  Both are 32 bits wide.
The floating-point factor of the sleeping time comes from outside.
-/

namespace Fluxnode
namespace DukMain

structure WakeUp where
  delay : UInt32
  lastTicks : UInt32
  wakeUpTimeMS : UInt32
  deriving DecidableEq, Repr

def msPerTick : UInt32 := 10

def maxDelay : UInt32 := 100 * 60 * 60 * 24

def portMaxDelay : UInt32 := 0xffffffff

/-- `timer_set_check`, at a tick, with `delay * 0.99` as `shorten`. -/
def timerSetCheck (shorten : UInt32 -> UInt32) (tick : UInt32)
    (w : WakeUp) : WakeUp :=
  let delay := w.wakeUpTimeMS / msPerTick
  let delay := shorten delay
  let delay := if delay = 0 then 1 else delay
  let delay := if delay > maxDelay then maxDelay else delay
  { w with lastTicks := tick, delay := delay }

/--
`timer_check`: whether the timer expired.  The tick counter is read a second
time by `timer_set_check`.
-/
def timerCheck (shorten : UInt32 -> UInt32) (tick tickAfter : UInt32)
    (w : WakeUp) : Bool × WakeUp :=
  if w.wakeUpTimeMS = 0 then
    (false, { w with delay := portMaxDelay, lastTicks := 0 })
  else
    let ticksPassed := tick - w.lastTicks
    if ticksPassed = 0 then
      (false, w)
    else
      let msPassed := ticksPassed * msPerTick
      if msPassed ≥ w.wakeUpTimeMS then
        (true, { w with lastTicks := 0, wakeUpTimeMS := 0 })
      else
        let w := { w with wakeUpTimeMS := w.wakeUpTimeMS - msPassed }
        (false, timerSetCheck shorten tickAfter w)

def setWakeUpTime (shorten : UInt32 -> UInt32) (tick : UInt32)
    (wakeUpInMS : UInt32) (w : WakeUp) : WakeUp :=
  timerSetCheck shorten tick { w with wakeUpTimeMS := wakeUpInMS }

end DukMain
end Fluxnode
