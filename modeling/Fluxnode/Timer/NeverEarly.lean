import Fluxnode.Timer.TwoClocks

/-!
# Callbacks are never early

A callback runs early when `Platform.setSystemTime` moves the clock ahead while
its timer waits.  While the clock is not moved ahead by all that is left of a
delay, and a callback does not set it back behind the start of the pass, no
callback runs before its delay has elapsed in ticks.
-/

namespace Fluxnode
namespace Timer

variable {func : Type _}

/-!
## Passes

While a pass goes through the array, every timer due at its start has waited.
-/

def passTime : Pc -> Option Int
  | .look ts _ _ => some ts
  | .callback ts _ _ => some ts
  | _ => none

structure PassInv (s : System func) : Prop where
  neverEarly : NeverEarly s
  waited : forall ts, passTime s.pc = some ts -> forall t, t ∈ s.lib.timers ->
    t.expire ≤ ts -> Waited t s.uptime

theorem initial_passInv {s : System func} (h : IsInitial s) : PassInv s where
  neverEarly := by
    intro v hv
    rw [h.2.2] at hv
    cases hv
  waited := by
    intro ts hts
    rw [h.2.1] at hts
    cases hts

theorem Waited.mono {t : Entry (Stamped func)} {u u' : Nat}
    (h : Waited t u) (hle : u ≤ u') : Waited t u' := by
  have hticks : tickCount u ≤ tickCount u' := Nat.div_le_div_right hle
  unfold Waited at *
  lia

theorem PassInv.outside {s s' : System func} (h : PassInv s)
    (hinvoked : s'.invoked = s.invoked) (hpc : passTime s'.pc = none) :
    PassInv s' where
  neverEarly := by
    intro v hv
    rw [hinvoked] at hv
    exact h.neverEarly v hv
  waited := by
    intro ts hts
    rw [hpc] at hts
    cases hts

theorem PassInv.inside {s s' : System func} (h : PassInv s)
    (hinvoked : s'.invoked = s.invoked)
    (hpc : passTime s'.pc = passTime s.pc) (huptime : s.uptime ≤ s'.uptime)
    (htimers : s'.lib.timers ⊆ s.lib.timers) : PassInv s' where
  neverEarly := by
    intro v hv
    rw [hinvoked] at hv
    exact h.neverEarly v hv
  waited := by
    intro ts hts t ht hdue
    rw [hpc] at hts
    exact (h.waited ts hts t (htimers ht) hdue).mono huptime

theorem NotAhead.waited {s : System func} (h : NotAhead s)
    {t : Entry (Stamped func)} (ht : t ∈ s.lib.timers)
    (hdue : t.expire ≤ s.date) : Waited t s.uptime := by
  by_contra hnot
  have hmoved := h t ht hnot
  unfold movedAhead leftUnset at hmoved
  lia

theorem startPass_passInv {s : System func} (h : PassInv s)
    (hahead : NotAhead s) : PassInv (startPass s) where
  neverEarly := h.neverEarly
  waited := by
    intro ts hts t ht hdue
    cases hts
    exact hahead.waited ht hdue

/-!
## Creating timers
-/

theorem arm_timers (s : System func) (f : func) (delay : Nat)
    (interval : Bool) (ID : Int) :
    exists t : Entry (Stamped func),
      (arm s f delay interval ID).lib.timers = insertTimer t s.lib.timers ∧
        t.expire = s.date + delay ∧ t.delay = delay ∧
        t.func.armed = s.uptime ∧ t.func.offset = s.offset := by
  by_cases hfresh : ID = -1
  · rw [hfresh, arm, setTimeoutInternal_fresh]
    exact ⟨_, rfl, rfl, rfl, rfl, rfl⟩
  · rw [arm, setTimeoutInternal_reuse _ _ _ _ _ hfresh]
    exact ⟨_, rfl, rfl, rfl, rfl, rfl⟩

theorem waited_of_delay_le {t : Entry (Stamped func)} (h : t.delay ≤ 10)
    (uptime : Nat) : Waited t uptime := by
  unfold Waited
  lia

theorem armAndInstall_passInv
    {shorten : UInt32 -> UInt32} {s : System func} {f : func} {delay : Nat}
    {interval : Bool} {us : Nat} (h : PassInv s)
    (hbehind : NotBehindPass s delay) (hpc : mayCall s.pc = true) :
    PassInv (armAndInstall shorten s f delay interval us) where
  neverEarly := h.neverEarly
  waited := by
    rcases arm_timers s f delay interval (-1) with
      ⟨t₀, htimers, hexpire, hdelay, _, _⟩
    intro ts hts t ht hdue
    change passTime s.pc = some ts at hts
    have ht' : t ∈ insertTimer t₀ s.lib.timers := by
      rw [← htimers]
      simpa [armAndInstall, install, setLib, pass] using ht
    have hlater : s.uptime ≤ s.uptime + us := Nat.le_add_right _ _
    rcases mem_insertTimer.mp ht' with rfl | hold
    · apply waited_of_delay_le
      cases hat : s.pc with
      | callback ts' i expired =>
          rw [NotBehindPass, hat] at hbehind
          rw [hat] at hts
          cases hts
          by_contra hlong
          have hafter := hbehind (by lia)
          lia
      | _ =>
          rw [hat] at hts hpc
          cases hts <;> cases hpc
    · exact (h.waited ts hts t hold hdue).mono hlater

/-!
## The steps of `OnTimer`
-/

theorem cancelTimer_subset (w : World func) (s : State func) (id : Int) :
    (cancelTimer w s id).timers ⊆ s.timers := by
  unfold cancelTimer
  rw [installTimer_timers]
  split
  · exact timersRemoveAt_subset s.timers _
  · exact List.Subset.refl _

theorem timerCheckStep_passTime (shorten : UInt32 -> UInt32)
    (s : System func) : passTime (timerCheckStep shorten s).pc = none := by
  unfold timerCheckStep
  dsimp only
  split <;> rfl

theorem lookStep_passInv
    {s : System func} {ts : Int} {i : Nat} {expired : List Int}
    (h : PassInv s) (hpc : s.pc = .look ts i expired) :
    PassInv (lookStep s ts i expired) := by
  unfold lookStep
  cases hat : s.lib.timers[i]? with
  | none => exact h.outside rfl rfl
  | some t =>
      have ht : t ∈ s.lib.timers := List.mem_of_getElem? hat
      have hpass : passTime s.pc = some ts := by
        rw [hpc]
        rfl
      by_cases hdue : ts ≥ t.expire
      · have hwaited := h.waited ts hpass t ht hdue
        dsimp only
        rw [if_pos hdue]
        constructor
        · intro v hv
          rcases List.mem_append.mp hv with hv | hv
          · exact h.neverEarly v hv
          · rw [List.mem_singleton.mp hv]
            exact hwaited
        · intro ts' hts'
          cases hts'
          exact h.waited ts hpass
      · dsimp only
        rw [if_neg hdue]
        exact h.outside rfl rfl

theorem returnStep_passInv
    {s : System func} {ts : Int} {i : Nat} {expired : List Int}
    (h : PassInv s) (hpc : s.pc = .callback ts i expired) :
    PassInv (returnStep s ts i expired) := by
  unfold returnStep
  cases s.lib.timers[i]? with
  | none => exact h.outside rfl rfl
  | some t =>
      dsimp only
      by_cases hbreak : ts < t.expire
      · rw [if_pos hbreak]
        exact h.outside rfl rfl
      · rw [if_neg hbreak]
        have hpass : passTime (.look ts (i + 1) expired) = passTime s.pc := by
          rw [hpc]
          rfl
        exact h.inside rfl hpass (Nat.le_refl _) (List.Subset.refl _)

theorem rearmStep_passInv
    {shorten : UInt32 -> UInt32} {s : System func} {expired : List Int}
    (h : PassInv s) : PassInv (rearmStep shorten s expired) := by
  cases expired with
  | nil => exact h.outside rfl rfl
  | cons id rest =>
      unfold rearmStep
      dsimp only
      cases (timersRemoveAt s.lib.timers
        (timersFindIdxId s.lib.timers id)).1 with
      | none => exact h.outside rfl rfl
      | some rt =>
          dsimp only
          split
          · exact h.outside rfl rfl
          · exact h.outside rfl rfl

theorem step_passInv
    {shorten : UInt32 -> UInt32} (a : Action func) (s s' : System func)
    (h : PassInv s) (hok : StepOk a s) (hstep : step shorten a s = some s') :
    PassInv s' := by
  cases stepped_of_step hstep with
  | timePasses us =>
      exact h.inside rfl rfl (Nat.le_add_right _ _) (List.Subset.refl _)
  | setSystemTime tvSec hpc =>
      exact h.inside rfl rfl (Nat.le_refl _) (List.Subset.refl _)
  | setTimeout f delay us hpc => exact armAndInstall_passInv h hok hpc
  | intervalTimer f interval us hpc => exact armAndInstall_passInv h hok hpc
  | cancelTimer id hpc =>
      exact h.inside rfl rfl (Nat.le_refl _) (cancelTimer_subset _ _ id)
  | timerCheck hpc => exact h.outside rfl (timerCheckStep_passTime shorten s)
  | onTimer hpc => exact startPass_passInv h hok
  | look hpc => exact lookStep_passInv h hpc
  | rearm hpc => exact rearmStep_passInv h
  | returns hpc => exact returnStep_passInv h hpc
  | throws hpc => exact h.outside rfl rfl

/-- As long as the calls of `set_system_time` keep to the condition, no
callback is run before its delay has elapsed. -/
theorem neverEarly_of_stepsOk
    {shorten : UInt32 -> UInt32} {actions : List (Action func)}
    {s₀ s : System func} (hinitial : IsInitial s₀)
    (hrun : Foundation.runAll (step shorten) actions s₀ = some s)
    (hok : Foundation.EveryStep (step shorten) StepOk actions s₀) :
    NeverEarly s := by
  have hinv : PassInv s :=
    hok.invariant step_passInv (initial_passInv hinitial) hrun
  exact hinv.neverEarly

/-- The condition is needed: when the clock was moved ahead by all that is left
of the first timer, the pass runs its callback too early. -/
theorem early_of_first_ahead
    {shorten : UInt32 -> UInt32} {s : System func}
    {t : Entry (Stamped func)} {rest : List (Entry (Stamped func))}
    (hidle : s.pc = .idle) (htimers : s.lib.timers = t :: rest)
    (hnot : ¬ Waited t s.uptime) (hahead : leftUnset s t ≤ movedAhead s t) :
    exists s', Foundation.runAll (step shorten) [.onTimer, .goOn] s = some s' ∧
      ¬ NeverEarly s' := by
  have hdue : t.expire ≤ s.date := by
    unfold leftUnset movedAhead at hahead
    lia
  have hlook : lookStep (startPass s) s.date 0 [] =
      { s with
        pc := .callback s.date 0 ([] ++ [t.id])
        invoked := s.invoked ++ [{ timer := t, uptime := s.uptime }] } := by
    simp [lookStep, startPass, htimers, hdue]
  exists lookStep (startPass s) s.date 0 []
  constructor
  · have hstart : step shorten .onTimer s = some (startPass s) := by
      rw [step, if_pos (Or.inl hidle)]
    rw [Foundation.runAll, hstart]
    exact Foundation.runAll_singleton
  · intro h
    rw [hlook] at h
    apply hnot
    exact h { timer := t, uptime := s.uptime } (List.mem_append_right _
      (List.mem_singleton_self _))

/-!
## Runs
-/

def loaded : System Bool where
  lib := initial (Stamped Bool)
  wakeUp := { delay := 0, lastTicks := 0, wakeUpTimeMS := 0 }
  uptime := 0
  offset := 0
  pc := .idle
  invoked := []

/-- A timeout of 20 ms and one of an hour, with the clock set two hours ahead
before the pass. -/
def twoHoursAhead : List (Action Bool) :=
  [.setTimeout false 20 0, .setTimeout true 3600000 0, .setSystemTime 7200,
    .timePasses 20000, .timerCheck, .onTimer, .goOn, .returns, .goOn]

theorem hour_runs_early :
    (exists s, Foundation.runAll (step id) twoHoursAhead loaded = some s ∧
      s.invoked.map (fun v => (v.timer.delay, v.uptime)) =
        [(20, 20000), (3600000, 20000)] ∧
      ¬ NeverEarly s) ∧ IsInitial loaded := by
  constructor
  · refine ⟨_, rfl, rfl, ?_⟩
    intro h
    have hwaited := h _ (List.mem_cons_of_mem _ (List.mem_singleton_self _))
    exact absurd hwaited (by decide)
  · exact ⟨rfl, rfl, rfl⟩

def fiveSecondsAhead : List (Action Bool) :=
  [.setTimeout true 3600000 0, .setSystemTime 5, .setTimeout false 20 0,
    .timePasses 20000, .timerCheck, .onTimer, .goOn, .returns, .goOn, .goOn]

theorem neverEarly_fiveSecondsAhead :
    exists s, Foundation.runAll (step id) fiveSecondsAhead loaded = some s ∧
      s.invoked.map (fun v => (v.timer.delay, v.uptime)) = [(20, 20000)] ∧
      NeverEarly s := by
  have hinitial : IsInitial loaded := ⟨rfl, rfl, rfl⟩
  have hok : Foundation.EveryStep (step id) StepOk fiveSecondsAhead loaded := by
    decide
  refine ⟨_, rfl, rfl, ?_⟩
  exact neverEarly_of_stepsOk hinitial rfl hok

end Timer
end Fluxnode
