import Mathlib.Data.List.Basic
import Fluxnode.DukMain.WakeUp
import Mathlib.Algebra.GroupWithZero.Nat

/-!
# The timer of the runtime is on time

After `duk_main_set_wake_up_time` the task calls `timer_check` when an event
wakes it, and at the latest when it has been blocked for `delay` ticks.  The
remaining time is counted in milliseconds and the sleep in ticks.  What the two
have in common is the tick at which the timer expires.
-/

namespace Fluxnode
namespace DukMain

/-!
## Schedules

A schedule is the list of the ticks from one call of `timer_check` to the next.
Everything else that the task does takes no ticks, so a call that follows
another one without blocking in between has the distance zero.
-/

structure Waiting where
  elapsed : Nat
  wakeUp : WakeUp
  deriving DecidableEq, Repr

/-- `duk_main_set_wake_up_time`, at the tick `start`. -/
def justSet (shorten : UInt32 -> UInt32) (start wakeUpInMS : UInt32)
    (w : WakeUp) : Waiting where
  elapsed := 0
  wakeUp := setWakeUpTime shorten start wakeUpInMS w

def tickAt (start : UInt32) (elapsed : Nat) : UInt32 :=
  start + UInt32.ofNat elapsed

def checkAfter (shorten : UInt32 -> UInt32) (start : UInt32) (gap : Nat)
    (s : Waiting) : Bool × Waiting :=
  let elapsed := s.elapsed + gap
  let tick := tickAt start elapsed
  let (expired, wakeUp) := timerCheck shorten tick tick s.wakeUp
  (expired, { elapsed := elapsed, wakeUp := wakeUp })

/-- The calls of a schedule: what each returned, and the timer after it. -/
def checks (shorten : UInt32 -> UInt32) (start : UInt32) :
    List Nat -> Waiting -> List (Bool × Waiting)
  | [], _ => []
  | gap :: gaps, s =>
      let c := checkAfter shorten start gap s
      c :: checks shorten start gaps c.2

/-- The task is never blocked for more than `delay` ticks. -/
def Punctual (shorten : UInt32 -> UInt32) (start : UInt32) :
    List Nat -> Waiting -> Prop
  | [], _ => True
  | gap :: gaps, s =>
      gap ≤ s.wakeUp.delay.toNat ∧
        Punctual shorten start gaps (checkAfter shorten start gap s).2

instance decidablePunctual (shorten : UInt32 -> UInt32) (start : UInt32) :
    forall gaps s, Decidable (Punctual shorten start gaps s)
  | [], _ => isTrue trivial
  | gap :: gaps, _ =>
      @instDecidableAnd _ _ (Nat.decLe gap _)
        (decidablePunctual shorten start gaps _)

def ticksFor (ms : UInt32) : Nat :=
  (ms.toNat + 9) / 10

/-!
## Between two calls

The timer that is still running expires at a fixed tick `due`, and the task
sleeps no longer than until then.  The cap of a day keeps the elapsed
milliseconds of one sleep below 2^32.
-/

structure Running (start : UInt32) (due : Nat) (s : Waiting) : Prop where
  enabled : s.wakeUp.wakeUpTimeMS ≠ 0
  lastTicks : s.wakeUp.lastTicks = tickAt start s.elapsed
  remaining : s.elapsed + ticksFor s.wakeUp.wakeUpTimeMS = due
  sleep : s.wakeUp.delay.toNat ≤ ticksFor s.wakeUp.wakeUpTimeMS
  capped : s.wakeUp.delay.toNat ≤ maxDelay.toNat

private theorem toNat_msPerTick : msPerTick.toNat = 10 := rfl

private theorem toNat_maxDelay : maxDelay.toNat = 8640000 := rfl

theorem timerSetCheck_sleep {shorten : UInt32 -> UInt32} (tick : UInt32)
    {w : WakeUp} (hshorten : forall d, shorten d ≤ d)
    (henabled : w.wakeUpTimeMS ≠ 0) :
    (timerSetCheck shorten tick w).delay.toNat ≤ ticksFor w.wakeUpTimeMS ∧
      (timerSetCheck shorten tick w).delay.toNat ≤ maxDelay.toNat := by
  have hpos : 0 < w.wakeUpTimeMS.toNat :=
    Nat.pos_of_ne_zero (fun h => henabled (UInt32.toNat_inj.mp h))
  have hshort := UInt32.le_iff_toNat_le.mp
    (hshorten (w.wakeUpTimeMS / msPerTick))
  rw [UInt32.toNat_div, toNat_msPerTick] at hshort
  simp only [timerSetCheck, ticksFor]
  generalize shorten (w.wakeUpTimeMS / msPerTick) = d at hshort
  have hone : UInt32.toNat 1 = 1 := rfl
  split <;> split <;>
    simp only [gt_iff_lt, UInt32.lt_iff_toNat_lt, toNat_maxDelay, hone] at * <;>
    lia

theorem Running.of_timerSetCheck {shorten : UInt32 -> UInt32}
    {start : UInt32} {due elapsed : Nat} {w : WakeUp}
    (hshorten : forall d, shorten d ≤ d) (henabled : w.wakeUpTimeMS ≠ 0)
    (hdue : elapsed + ticksFor w.wakeUpTimeMS = due) :
    Running start due
      { elapsed := elapsed
        wakeUp := timerSetCheck shorten (tickAt start elapsed) w } := by
  rcases timerSetCheck_sleep (tickAt start elapsed) hshorten henabled with
    ⟨hsleep, hcapped⟩
  exact
    { enabled := henabled
      lastTicks := rfl
      remaining := hdue
      sleep := hsleep
      capped := hcapped }

theorem tickAt_sub (start : UInt32) (elapsed gap : Nat) :
    tickAt start (elapsed + gap) - tickAt start elapsed =
      UInt32.ofNat gap := by
  rw [tickAt, tickAt, UInt32.ofNat_add]
  grind

theorem Running.sleep_small {start : UInt32} {due gap : Nat} {s : Waiting}
    (h : Running start due s) (hgap : gap ≤ s.wakeUp.delay.toNat) :
    (UInt32.ofNat gap).toNat = gap ∧
      (UInt32.ofNat gap * msPerTick).toNat = gap * 10 := by
  have hcapped := h.capped
  rw [toNat_maxDelay] at hcapped
  have hself : (UInt32.ofNat gap).toNat = gap :=
    UInt32.toNat_ofNat_of_lt' (show gap < 2 ^ 32 by lia)
  constructor
  · exact hself
  · rw [UInt32.toNat_mul, hself, toNat_msPerTick]
    exact Nat.mod_eq_of_lt (show gap * 10 < 2 ^ 32 by lia)

/-- What `timer_check` does in terms of the ticks since the last call. -/
theorem Running.checkAfter_eq {shorten : UInt32 -> UInt32}
    {start : UInt32} {due gap : Nat} {s : Waiting} (h : Running start due s)
    (hgap : gap ≤ s.wakeUp.delay.toNat) :
    checkAfter shorten start gap s =
      if gap = 0 then
        (false, s)
      else if s.wakeUp.wakeUpTimeMS.toNat ≤ gap * 10 then
        (true,
          { elapsed := s.elapsed + gap
            wakeUp := { s.wakeUp with lastTicks := 0, wakeUpTimeMS := 0 } })
      else
        (false,
          { elapsed := s.elapsed + gap
            wakeUp :=
              timerSetCheck shorten (tickAt start (s.elapsed + gap))
                { s.wakeUp with
                  wakeUpTimeMS :=
                    s.wakeUp.wakeUpTimeMS -
                      UInt32.ofNat gap * msPerTick } }) := by
  rcases h.sleep_small hgap with ⟨hself, hms⟩
  have hpassed : tickAt start (s.elapsed + gap) - s.wakeUp.lastTicks =
      UInt32.ofNat gap := by
    rw [h.lastTicks, tickAt_sub]
  have hzero : UInt32.ofNat gap = 0 <-> gap = 0 := by
    rw [← UInt32.toNat_inj, hself]
    rfl
  have hreached :
      UInt32.ofNat gap * msPerTick ≥ s.wakeUp.wakeUpTimeMS <->
        s.wakeUp.wakeUpTimeMS.toNat ≤ gap * 10 := by
    rw [ge_iff_le, UInt32.le_iff_toNat_le, hms]
  simp only [checkAfter, timerCheck, if_neg h.enabled, hpassed, hzero,
    hreached]
  split
  · rename_i hnone
    rw [hnone]
    rfl
  · split <;> rfl

theorem Running.checkAfter_early {shorten : UInt32 -> UInt32}
    {start : UInt32} {due gap : Nat} {s : Waiting}
    (hshorten : forall d, shorten d ≤ d) (h : Running start due s)
    (hgap : gap ≤ s.wakeUp.delay.toNat) (hearly : s.elapsed + gap < due) :
    (checkAfter shorten start gap s).1 = false ∧
      Running start due (checkAfter shorten start gap s).2 := by
  have hremaining := h.remaining
  rw [ticksFor] at hremaining
  rw [h.checkAfter_eq hgap]
  split
  · exact ⟨rfl, h⟩
  · rw [if_neg (by lia)]
    constructor
    · exact rfl
    · rcases h.sleep_small hgap with ⟨_, hms⟩
      have hleft :
          (s.wakeUp.wakeUpTimeMS - UInt32.ofNat gap * msPerTick).toNat =
            s.wakeUp.wakeUpTimeMS.toNat - gap * 10 := by
        rw [UInt32.toNat_sub_of_le _ _ (UInt32.le_iff_toNat_le.mpr (by lia)),
          hms]
      apply Running.of_timerSetCheck hshorten
      · intro hzero
        have := UInt32.toNat_inj.mpr hzero
        rw [hleft] at this
        have hnone : UInt32.toNat 0 = 0 := rfl
        lia
      · rw [ticksFor, hleft]
        lia

theorem Running.checkAfter_due (shorten : UInt32 -> UInt32)
    {start : UInt32} {due gap : Nat} {s : Waiting}
    (h : Running start due s)
    (hgap : gap ≤ s.wakeUp.delay.toNat) (hdue : s.elapsed + gap = due) :
    (checkAfter shorten start gap s).1 = true ∧
      (checkAfter shorten start gap s).2.wakeUp.wakeUpTimeMS = 0 := by
  have hremaining := h.remaining
  rw [ticksFor] at hremaining
  have hpos : 0 < s.wakeUp.wakeUpTimeMS.toNat :=
    Nat.pos_of_ne_zero (fun hz => h.enabled (UInt32.toNat_inj.mp hz))
  rw [h.checkAfter_eq hgap, if_neg (by lia), if_pos (by lia)]
  exact ⟨rfl, rfl⟩

@[simp] theorem checkAfter_elapsed (shorten : UInt32 -> UInt32)
    (start : UInt32) (gap : Nat) (s : Waiting) :
    (checkAfter shorten start gap s).2.elapsed = s.elapsed + gap := rfl

/-!
## Whole schedules
-/

/-- The calls are quiet until the timer is due; then one of them finds it
expired and clears it. -/
structure OnTime (due : Nat) (elapsed : Nat) (calls : List (Bool × Waiting)) :
    Prop where
  /-- Before the timer is due every call returns 0. -/
  quiet : forall c, c ∈ calls -> c.2.elapsed < due -> c.1 = false
  /-- A schedule that goes on long enough has a call at the very tick; it
  returns 1 and clears the timer, and all calls before it were earlier. -/
  expires : due ≤ elapsed ->
    exists before c after, calls = before ++ c :: after ∧
      (forall b, b ∈ before -> b.2.elapsed < due) ∧
      c.2.elapsed = due ∧ c.1 = true ∧ c.2.wakeUp.wakeUpTimeMS = 0

theorem OnTime.cons {due elapsed : Nat} {c : Bool × Waiting}
    {calls : List (Bool × Waiting)} (h : OnTime due elapsed calls)
    (hearly : c.2.elapsed < due) (hquiet : c.1 = false) :
    OnTime due elapsed (c :: calls) := by
  constructor
  · intro c' hc' hlt
    rcases List.mem_cons.mp hc' with rfl | hc'
    · exact hquiet
    · exact h.quiet c' hc' hlt
  · intro hlate
    rcases h.expires hlate with ⟨before, c', after, hcalls, hbefore, hc'⟩
    refine ⟨c :: before, c', after, ?_, ?_, hc'⟩
    · rw [hcalls, List.cons_append]
    · intro b hb
      rcases List.mem_cons.mp hb with rfl | hb
      · exact hearly
      · exact hbefore b hb

theorem OnTime.of_expired {due elapsed : Nat} {c : Bool × Waiting}
    {calls : List (Bool × Waiting)} (hdue : c.2.elapsed = due)
    (hexpired : c.1 = true) (hcleared : c.2.wakeUp.wakeUpTimeMS = 0)
    (hlater : forall c', c' ∈ calls -> due ≤ c'.2.elapsed) :
    OnTime due elapsed (c :: calls) := by
  constructor
  · intro c' hc' hlt
    have hge : due ≤ c'.2.elapsed := by
      rcases List.mem_cons.mp hc' with rfl | hc'
      · exact Nat.le_of_eq hdue.symm
      · exact hlater c' hc'
    exact absurd hlt (Nat.not_lt.mpr hge)
  · intro _
    refine ⟨[], c, calls, rfl, ?_, hdue, hexpired, hcleared⟩
    intro b hb
    cases hb

theorem checks_elapsed_ge {shorten : UInt32 -> UInt32} {start : UInt32}
    {gaps : List Nat} {s : Waiting} {c : Bool × Waiting}
    (hc : c ∈ checks shorten start gaps s) : s.elapsed ≤ c.2.elapsed := by
  induction gaps generalizing s with
  | nil => cases hc
  | cons gap gaps ih =>
      rcases List.mem_cons.mp hc with rfl | hc
      · exact Nat.le_add_right s.elapsed gap
      · have hle := ih hc
        rw [checkAfter_elapsed] at hle
        lia

theorem Running.gap_le {start : UInt32} {due gap : Nat} {s : Waiting}
    (h : Running start due s) (hgap : gap ≤ s.wakeUp.delay.toNat) :
    s.elapsed + gap ≤ due := by
  have hsleep := h.sleep
  have hremaining := h.remaining
  lia

theorem Running.onTime {shorten : UInt32 -> UInt32} {start : UInt32}
    {due : Nat} {gaps : List Nat} {s : Waiting}
    (hshorten : forall d, shorten d ≤ d) (h : Running start due s)
    (hpunctual : Punctual shorten start gaps s) :
    OnTime due (s.elapsed + gaps.sum) (checks shorten start gaps s) := by
  induction gaps generalizing s with
  | nil =>
      have hdue : s.elapsed < due := by
        have hremaining := h.remaining
        have henabled : s.wakeUp.wakeUpTimeMS.toNat ≠ 0 :=
          fun hz => h.enabled (UInt32.toNat_inj.mp hz)
        rw [ticksFor] at hremaining
        lia
      constructor
      · intro c hc
        cases hc
      · intro hlate
        rw [List.sum_nil, Nat.add_zero] at hlate
        exact absurd hlate (Nat.not_le.mpr hdue)
  | cons gap gaps ih =>
      rcases hpunctual with ⟨hgap, hrest⟩
      rw [List.sum_cons, ← Nat.add_assoc]
      rcases Nat.lt_or_eq_of_le (h.gap_le hgap) with hearly | hdue
      · rcases h.checkAfter_early hshorten hgap hearly with ⟨hquiet, hrun⟩
        have hon := ih hrun hrest
        rw [checkAfter_elapsed] at hon
        exact hon.cons hearly hquiet
      · rcases h.checkAfter_due shorten hgap hdue with
          ⟨hexpired, hcleared⟩
        apply OnTime.of_expired hdue hexpired hcleared
        intro c hc
        have hle := checks_elapsed_ge hc
        rw [checkAfter_elapsed] at hle
        lia

/--
Whatever wakes the task in the meantime, a timer of a positive number of
milliseconds expires exactly when these milliseconds, rounded up to ticks, have
passed, at any value of the tick counter.
-/
theorem timer_expires_on_time (shorten : UInt32 -> UInt32)
    (hshorten : forall d, shorten d ≤ d) (start wakeUpInMS : UInt32)
    (hpos : 1 ≤ wakeUpInMS) (w : WakeUp) (gaps : List Nat)
    (hpunctual : Punctual shorten start gaps
      (justSet shorten start wakeUpInMS w)) :
    OnTime (ticksFor wakeUpInMS) gaps.sum
      (checks shorten start gaps (justSet shorten start wakeUpInMS w)) := by
  have henabled : wakeUpInMS ≠ 0 := by
    intro hzero
    rw [hzero] at hpos
    exact absurd hpos (by decide)
  have hstart : start = tickAt start 0 := by
    simp [tickAt]
  have hrunning : Running start (ticksFor wakeUpInMS)
      (justSet shorten start wakeUpInMS w) := by
    have h := @Running.of_timerSetCheck shorten start (ticksFor wakeUpInMS) 0
      { w with wakeUpTimeMS := wakeUpInMS } hshorten henabled (Nat.zero_add _)
    rw [← hstart] at h
    exact h
  have hon := hrunning.onTime hshorten hpunctual
  rw [justSet, Nat.zero_add] at hon
  exact hon

/-- `delay * 0.99`, truncated. -/
def ninetyNinePercent (delay : UInt32) : UInt32 :=
  UInt32.ofNat (delay.toNat * 99 / 100)

theorem ninetyNinePercent_le (delay : UInt32) :
    ninetyNinePercent delay ≤ delay := by
  have hlt := delay.toNat_lt
  rw [UInt32.le_iff_toNat_le, ninetyNinePercent,
    UInt32.toNat_ofNat_of_lt' (show _ < 2 ^ 32 by lia)]
  lia

def noTimer : WakeUp where
  delay := portMaxDelay
  lastTicks := 0
  wakeUpTimeMS := 0

theorem timer_expires_on_time_wrapping :
    OnTime 3 3
      (checks ninetyNinePercent 0xfffffffe [0, 1, 1, 1]
        (justSet ninetyNinePercent 0xfffffffe 25 noTimer)) :=
  timer_expires_on_time ninetyNinePercent ninetyNinePercent_le 0xfffffffe 25
    (by decide) noTimer [0, 1, 1, 1] (by decide)

end DukMain
end Fluxnode
