import Fluxnode.Foundation.Run

/-!
# The button service

An interrupt of the button records its tick, and the first one starts a timer.
When the timer expires, the recorded presses are counted.
-/

namespace Fluxnode
namespace Button

def configTickRateHz : UInt32 := 100

def pdMsToTicks (ms : UInt32) : UInt32 :=
  ms * configTickRateHz / 1000

def buttonPressNumMax : Nat := 11

def buttonPressMinMs : UInt32 := pdMsToTicks 300

structure ButtonService where
  /-- `presses`, up to `press_idx`. -/
  presses : List UInt32
  timerStarted : Bool
  /-- The timer runs. -/
  timerActive : Bool
  /-- The counts that the callback was called with. -/
  reported : List Nat
  deriving DecidableEq, Repr

def buttonServiceStart : ButtonService where
  presses := []
  timerStarted := false
  timerActive := false
  reported := []

def startTimer (s : ButtonService) : ButtonService :=
  if s.timerStarted then
    s
  else
    { s with timerStarted := true, timerActive := true }

def record (s : ButtonService) (tick : UInt32) : ButtonService :=
  { s with presses := s.presses ++ [tick] }

def buttonIsr (s : ButtonService) (tick : UInt32) : ButtonService :=
  let s := startTimer s
  if s.presses.length < buttonPressNumMax - 1 then
    record s tick
  else
    s

/-- The loop of `button_callback`. -/
def countPresses (count : Nat) (last : UInt32) : List UInt32 -> Nat
  | [] => count
  | press :: rest =>
      if press - last > buttonPressMinMs then
        countPresses (count + 1) press rest
      else
        countPresses count last rest

def buttonPressCount : List UInt32 -> Nat
  | [] => 1
  | first :: rest => countPresses 1 first rest

def buttonServiceEnable (s : ButtonService) (enable : Bool) : ButtonService :=
  { s with timerStarted := !enable }

/-- `button_callback`, up to the call of `cb`. -/
def buttonCallback (s : ButtonService) : ButtonService :=
  { s with
    presses := []
    timerActive := false
    reported := s.reported ++ [buttonPressCount s.presses] }

/-!
## Runs
-/

inductive Step where
  | interrupt (tick : UInt32)
  /-- The timer expires. -/
  | expire
  /-- `cb` enables the button again. -/
  | enable (enable : Bool)
  deriving DecidableEq, Repr

def step : Step -> ButtonService -> Option ButtonService
  | .interrupt tick, s => some (buttonIsr s tick)
  | .expire, s => if s.timerActive then some (buttonCallback s) else none
  | .enable enable, s => some (buttonServiceEnable s enable)

/-- While the timer runs, the first press is recorded, and the array is never
full. -/
structure Recording (s : ButtonService) : Prop where
  first : s.timerActive = true -> s.presses ≠ []
  room : s.presses.length < buttonPressNumMax

theorem startTimer_presses (s : ButtonService) :
    (startTimer s).presses = s.presses := by
  unfold startTimer
  split <;> rfl

theorem buttonIsr_presses (s : ButtonService) (tick : UInt32) :
    (buttonIsr s tick).presses =
      if s.presses.length < buttonPressNumMax - 1 then s.presses ++ [tick]
      else s.presses := by
  simp only [buttonIsr, startTimer_presses]
  split
  · simp only [record, startTimer_presses]
  · exact startTimer_presses s

theorem step_recording {i : Step} {s s' : ButtonService} (h : Recording s)
    (hstep : step i s = some s') : Recording s' := by
  cases i with
  | interrupt tick =>
      cases hstep
      constructor
      · intro _
        rw [buttonIsr_presses]
        split
        · simp
        · rename_i hfull
          intro hnil
          rw [hnil] at hfull
          exact hfull (by decide)
      · have hroom := h.room
        rw [buttonIsr_presses]
        split
        · rw [List.length_append, List.length_singleton]
          lia
        · exact hroom
  | expire =>
      simp only [step, Option.ite_none_right_eq_some] at hstep
      cases hstep.2
      constructor
      · intro hactive
        cases hactive
      · show 0 < buttonPressNumMax
        decide
  | enable enable =>
      cases hstep
      exact ⟨h.first, h.room⟩

/-- In every run, `button_callback` finds a first press. -/
theorem reachable_recording {is : List Step} {s : ButtonService}
    (h : Foundation.runAll step is buttonServiceStart = some s) :
    Recording s := by
  apply Foundation.runAll_invariant (fun _ _ _ => step_recording) _ h
  constructor
  · intro hactive
    cases hactive
  · decide

end Button
end Fluxnode
