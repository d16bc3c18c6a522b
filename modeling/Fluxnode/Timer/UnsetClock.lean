import Fluxnode.Timer.NeverEarly

/-!
# A clock that is not set

No callback is early as long as the clock is set only while no timer waits.
-/

namespace Fluxnode
namespace Timer

variable {func : Type _}

/-- The clock is set outside of `OnTimer` only, and while no timer waits. -/
def NoneWaiting : Action func -> System func -> Prop
  | .setSystemTime _, s => s.pc = .idle ∧ s.lib.timers = []
  | _, _ => True

structure InStep (s : System func) : Prop where
  offset : forall t, t ∈ s.lib.timers -> t.func.offset = s.offset
  armed : forall t, t ∈ s.lib.timers -> t.func.armed ≤ s.uptime
  expire : forall t, t ∈ s.lib.timers ->
    t.expire = getTimeAt t.func.armed t.func.offset + t.delay
  started : forall ts, passTime s.pc = some ts -> ts ≤ s.date

theorem InStep.of_idle {s : System func} (hnil : s.lib.timers = [])
    (hidle : s.pc = .idle) : InStep s := by
  have hnone : forall t, t ∉ s.lib.timers := by
    intro t ht
    rw [hnil] at ht
    cases ht
  constructor
  · exact fun t ht => absurd ht (hnone t)
  · exact fun t ht => absurd ht (hnone t)
  · exact fun t ht => absurd ht (hnone t)
  · intro ts hts
    rw [hidle] at hts
    cases hts

theorem getTimeAt_mono {u u' : Nat} (h : u ≤ u') (offset : Int) :
    getTimeAt u offset ≤ getTimeAt u' offset := by
  unfold getTimeAt
  lia

/-- On a clock that is not set, milliseconds and ticks agree up to a tick. -/
theorem waited_of_due
    {t : Entry (Stamped func)} {uptime : Nat}
    (hexpire : t.expire = getTimeAt t.func.armed t.func.offset + t.delay)
    (hdue : t.expire ≤ getTimeAt uptime t.func.offset) :
    Waited t uptime := by
  unfold Waited tickCount
  unfold getTimeAt at hexpire hdue
  lia

theorem InStep.notAhead {s : System func} (h : InStep s) : NotAhead s := by
  intro t ht hnot
  by_contra hmoved
  apply hnot
  apply waited_of_due (h.expire t ht)
  unfold movedAhead leftUnset System.date at hmoved
  rw [h.offset t ht] at hmoved ⊢
  lia

theorem InStep.notBehindPass {s : System func} (h : InStep s) (delay : Nat) :
    NotBehindPass s delay := by
  unfold NotBehindPass
  split
  · intro hlong
    have hstarted := h.started _ (by rw [‹s.pc = _›]; rfl)
    lia
  · trivial

theorem InStep.of_subset {s s' : System func} (h : InStep s)
    (htimers : s'.lib.timers ⊆ s.lib.timers) (huptime : s.uptime ≤ s'.uptime)
    (hoffset : s'.offset = s.offset)
    (hpc : forall ts, passTime s'.pc = some ts -> ts ≤ s.date) :
    InStep s' where
  offset := by
    intro t ht
    rw [hoffset]
    exact h.offset t (htimers ht)
  armed := by
    intro t ht
    exact Nat.le_trans (h.armed t (htimers ht)) huptime
  expire := by
    intro t ht
    exact h.expire t (htimers ht)
  started := by
    intro ts hts
    have hmono := getTimeAt_mono huptime s.offset
    have hstarted := hpc ts hts
    unfold System.date at *
    rw [hoffset]
    lia

theorem InStep.arm {s : System func} (h : InStep s) (f : func) (delay : Nat)
    (interval : Bool) (ID : Int) : InStep (arm s f delay interval ID) := by
  rcases arm_timers s f delay interval ID with
    ⟨t₀, htimers, hexpire, hdelay, harmed, hoffset⟩
  constructor
  · intro t ht
    rw [htimers] at ht
    rcases mem_insertTimer.mp ht with rfl | hold
    · exact hoffset
    · exact h.offset t hold
  · intro t ht
    rw [htimers] at ht
    rcases mem_insertTimer.mp ht with rfl | hold
    · exact Nat.le_of_eq harmed
    · exact h.armed t hold
  · intro t ht
    rw [htimers] at ht
    rcases mem_insertTimer.mp ht with rfl | hold
    · rw [hexpire, hdelay, harmed, hoffset]
      rfl
    · exact h.expire t hold
  · exact h.started

theorem InStep.install {shorten : UInt32 -> UInt32} {s : System func}
    (h : InStep s) : InStep (install shorten s) := by
  have hsub : (Timer.install shorten s).lib.timers ⊆ s.lib.timers := by
    unfold Timer.install setLib
    dsimp only
    rw [installTimer_timers]
    exact List.Subset.refl _
  exact h.of_subset hsub (Nat.le_refl _) rfl h.started

theorem InStep.pass {s : System func} (h : InStep s) (us : Nat) :
    InStep (pass us s) :=
  h.of_subset (List.Subset.refl _) (Nat.le_add_right _ _) rfl h.started

theorem InStep.outside {s : System func} (h : InStep s) {pc : Pc}
    (hpc : passTime pc = none) : InStep { s with pc := pc } where
  offset := h.offset
  armed := h.armed
  expire := h.expire
  started := by
    intro ts hts
    rw [hpc] at hts
    cases hts

theorem InStep.rearmStep {shorten : UInt32 -> UInt32} {s : System func}
    (h : InStep s) (expired : List Int) :
    InStep (rearmStep shorten s expired) := by
  cases expired with
  | nil => exact h.install.outside rfl
  | cons id rest =>
      have hsub := timersRemoveAt_subset s.lib.timers
        (timersFindIdxId s.lib.timers id)
      unfold Timer.rearmStep
      dsimp only
      cases hremove : timersRemoveAt s.lib.timers
        (timersFindIdxId s.lib.timers id) with
      | mk removed timers =>
          rw [hremove] at hsub
          have hless : InStep
              { s with lib := { s.lib with timers := timers } } :=
            h.of_subset hsub (Nat.le_refl _) rfl h.started
          cases removed with
          | none => exact hless.outside rfl
          | some rt =>
              dsimp only
              by_cases hinterval : rt.interval = true
              · rw [if_pos hinterval]
                exact (hless.arm rt.func.func rt.delay true rt.id).outside rfl
              · rw [if_neg hinterval]
                exact hless.outside rfl

theorem InStep.lookStep {s : System func} {ts : Int} {i : Nat}
    {expired : List Int} (h : InStep s) (hpc : s.pc = .look ts i expired) :
    InStep (lookStep s ts i expired) := by
  unfold Timer.lookStep
  cases s.lib.timers[i]? with
  | none => exact h.outside rfl
  | some t =>
      dsimp only
      split
      · have hstarted := h.started ts (by rw [hpc]; rfl)
        have hsame : forall ts',
            passTime (.callback ts i (expired ++ [t.id])) = some ts' ->
              ts' ≤ s.date := by
          intro ts' hts'
          cases hts'
          exact hstarted
        exact ⟨h.offset, h.armed, h.expire, hsame⟩
      · exact h.outside rfl

theorem InStep.returnStep {s : System func} {ts : Int} {i : Nat}
    {expired : List Int} (h : InStep s)
    (hpc : s.pc = .callback ts i expired) :
    InStep (returnStep s ts i expired) := by
  unfold Timer.returnStep
  cases s.lib.timers[i]? with
  | none => exact h.outside rfl
  | some t =>
      dsimp only
      split
      · exact h.outside rfl
      · have hstarted := h.started ts (by rw [hpc]; rfl)
        have hsame : forall ts',
            passTime (.look ts (i + 1) expired) = some ts' ->
              ts' ≤ s.date := by
          intro ts' hts'
          cases hts'
          exact hstarted
        exact ⟨h.offset, h.armed, h.expire, hsame⟩

theorem step_inStep
    {shorten : UInt32 -> UInt32} (a : Action func) (s s' : System func)
    (h : InStep s) (hset : NoneWaiting a s)
    (hstep : step shorten a s = some s') : InStep s' := by
  cases stepped_of_step hstep with
  | timePasses us => exact h.pass us
  | setSystemTime tvSec hpc => exact .of_idle hset.2 hset.1
  | setTimeout f delay us hpc =>
      exact ((h.arm f delay false (-1)).pass us).install
  | intervalTimer f interval us hpc =>
      exact ((h.arm f interval true (-1)).pass us).install
  | cancelTimer id hpc =>
      exact h.of_subset (cancelTimer_subset _ _ id) (Nat.le_refl _) rfl
        h.started
  | timerCheck hpc =>
      have hout : forall ts,
          passTime (timerCheckStep shorten s).pc = some ts -> ts ≤ s.date := by
        intro ts hts
        rw [timerCheckStep_passTime] at hts
        cases hts
      exact h.of_subset (List.Subset.refl _) (Nat.le_refl _) rfl hout
  | onTimer hpc =>
      refine ⟨h.offset, h.armed, h.expire, ?_⟩
      intro ts hts
      cases hts
      exact Int.le_refl _
  | look hpc => exact h.lookStep hpc
  | rearm hpc => exact h.rearmStep _
  | returns hpc => exact h.returnStep hpc
  | throws hpc => exact h.outside rfl

theorem InStep.stepOk {s : System func} (h : InStep s) (a : Action func) :
    StepOk a s := by
  cases a with
  | onTimer => exact h.notAhead
  | setTimeout f delay us => exact h.notBehindPass delay
  | intervalTimer f interval us => exact h.notBehindPass interval
  | _ => trivial

/-- Setting the clock only while no timer waits is enough. -/
theorem stepsOk_of_noneWaiting
    {shorten : UInt32 -> UInt32} {actions : List (Action func)}
    {s₀ : System func} (hinitial : IsInitial s₀)
    (hset : Foundation.EveryStep (step shorten) NoneWaiting actions s₀) :
    Foundation.EveryStep (step shorten) StepOk actions s₀ := by
  have hnil : s₀.lib.timers = [] := by
    rw [hinitial.1]
    rfl
  have hinv : InStep s₀ := .of_idle hnil hinitial.2.1
  exact hset.imp_of_invariant step_inStep (fun a s h _ => h.stepOk a) hinv

end Timer
end Fluxnode
