import Fluxnode.Timer.AfterCalls
import Fluxnode.Timer.ExactDispatch

/-!
# The callbacks that a pass calls

However a pass ends, it calls the callbacks of due timers only, and these were
in the array when it started or have a new id.
-/

namespace Fluxnode
namespace Timer

variable {func : Type _}

/-- The callbacks called in between are those of due timers, which were in the
array already or are new. -/
def CallsDue (ts : Int) (s s' : State func) : Prop :=
  exists events, s'.log = s.log ++ events ∧
    forall id, Event.ran id ∈ events ->
      exists u, u.id = id ∧ u.expire ≤ ts ∧
        (u ∈ s.timers ∨ s.nextID ≤ u.id)

theorem CallsDue.refl {ts : Int} {s s' : State func} (h : s'.log = s.log) :
    CallsDue ts s s' := by
  refine ⟨[], by rw [h, List.append_nil], ?_⟩
  intro id hid
  cases hid

theorem CallsDue.trans {ts : Int} {s s₁ s₂ : State func}
    (h : CallsDue ts s s₁) (hevolves : Evolves s s₁)
    (h' : CallsDue ts s₁ s₂) : CallsDue ts s s₂ := by
  rcases h with ⟨events, hlog, hdue⟩
  rcases h' with ⟨more, hlog', hdue'⟩
  refine ⟨events ++ more, by rw [hlog', hlog, List.append_assoc], ?_⟩
  intro id hid
  rcases List.mem_append.mp hid with hid | hid
  · exact hdue id hid
  · rcases hdue' id hid with ⟨u, hu, hle, hin⟩
    refine ⟨u, hu, hle, ?_⟩
    rcases hin with hold | hnew
    · exact hevolves.timers u hold
    · exact Or.inr (Int.le_trans hevolves.nextID hnew)

theorem CallsDue.log {ts : Int} {s s₁ s₂ : State func}
    (h : CallsDue ts s s₁) (hlog : s₂.log = s₁.log) : CallsDue ts s s₂ := by
  rcases h with ⟨events, hevents, hdue⟩
  exact ⟨events, hlog.trans hevents, hdue⟩

theorem invoke_state {w : World func} {ts : Int} {t : Entry func}
    {s s' : State func} (hwf : WellFormed s) (ht : t ∈ s.timers)
    (hdue : t.expire ≤ ts) (hends : (invoke w t s).state? = some s') :
    WellFormed s' ∧ Evolves s s' ∧ CallsDue ts s s' := by
  have hwf' : WellFormed (called s t) :=
    hwf.of_sublist (List.Sublist.refl _) rfl
  rw [invoke_eq] at hends
  rcases runCalls_state hwf' hends with ⟨made, hafter⟩
  refine ⟨hafter.wellFormed, hafter.of_called.2.2, ?_⟩
  refine ⟨.ran t.id :: (cancelledBy made).map Event.cancelled, ?_, ?_⟩
  · rw [hafter.log]
    exact List.append_assoc _ _ _
  · intro id hid
    rcases List.mem_cons.mp hid with hid | hid
    · cases hid
      exact ⟨t, rfl, hdue, Or.inl ht⟩
    · rcases List.mem_map.mp hid with ⟨_, _, hne⟩
      cases hne

theorem onTimerLoop_callsDue {w : World func} {ts : Int} {fuel i : Nat}
    {expired : List Int} {s s' : State func} (hwf : WellFormed s)
    (hends : (onTimerLoop w ts fuel i expired s).state? = some s') :
    CallsDue ts s s' := by
  induction fuel generalizing i expired s with
  | zero => cases hends
  | succ fuel ih =>
      have hround := onTimerLoop_succ w ts fuel i expired s
      generalize onTimerLoop w ts (fuel + 1) i expired s = out at hround hends
      cases hround with
      | stops hstop =>
          cases hends
          exact .refl rfl
      | threw hat hdue hrun =>
          cases hends
          have ht := List.mem_of_getElem? hat
          exact (invoke_state hwf ht hdue (by rw [hrun]; rfl)).2.2
      | short hat hdue hrun hat₁ =>
          cases hends
          have ht := List.mem_of_getElem? hat
          exact (invoke_state hwf ht hdue (by rw [hrun]; rfl)).2.2
      | breaks hat hdue hrun hat₁ hlater =>
          cases hends
          have ht := List.mem_of_getElem? hat
          exact (invoke_state hwf ht hdue (by rw [hrun]; rfl)).2.2
      | @goesOn t t₁ s₁ hat hdue hrun hat₁ hdue₁ =>
          have ht := List.mem_of_getElem? hat
          rcases @invoke_state _ w ts t s s₁ hwf ht hdue
              (by rw [hrun]; rfl) with ⟨hwf₁, hevolves, hcalls⟩
          exact hcalls.trans hevolves (ih hwf₁ hends)

theorem setTimeoutInternal_log (w : World func) (s : State func) (f : func)
    (delay : Nat) (interval : Bool) (ID : Int) :
    (setTimeoutInternal w s f delay interval ID).1.log = s.log := by
  by_cases hfresh : ID = -1
  · rw [hfresh, setTimeoutInternal_fresh]
  · rw [setTimeoutInternal_reuse w s f delay interval hfresh]

theorem rearmExpired_log {w : World func} {ids : List Int}
    {s s' : State func}
    (hends : (rearmExpired w ids s).state? = some s') : s'.log = s.log := by
  induction ids generalizing s with
  | nil =>
      cases hends
      rfl
  | cons id rest ih =>
      simp only [rearmExpired] at hends
      split at hends
      · cases hends
        rfl
      · split at hends
        · rw [ih hends, setTimeoutInternal_log]
        · rw [ih hends]

theorem onTimer_callsDue {w : World func} {fuel : Nat} {s s' : State func}
    (hwf : WellFormed s) (hends : (onTimer w fuel s).state? = some s') :
    CallsDue (w.clock s.reads) s s' := by
  have hwf' : WellFormed { s with reads := s.reads + 1 } :=
    hwf.of_sublist (List.Sublist.refl _) rfl
  have hloop : forall s₁,
      (onTimerLoop w (w.clock s.reads) fuel 0 []
        { s with reads := s.reads + 1 }).state? = some s₁ ->
      CallsDue (w.clock s.reads) s s₁ := by
    intro s₁ hends
    have hcalls := onTimerLoop_callsDue hwf' hends
    exact hcalls
  simp only [onTimer, getTime] at hends
  cases hfirst : onTimerLoop w (w.clock s.reads) fuel 0 []
      { s with reads := s.reads + 1 } with
  | running =>
      rw [hfirst] at hends
      cases hends
  | threw s₁ =>
      rw [hfirst] at hends
      cases hends
      exact hloop _ (by rw [hfirst]; rfl)
  | returned s₁ expired =>
      have hcalls := hloop s₁ (by rw [hfirst]; rfl)
      rw [hfirst] at hends
      dsimp only at hends
      cases hrearm : rearmExpired w expired s₁ with
      | running =>
          rw [hrearm] at hends
          cases hends
      | threw s₂ =>
          rw [hrearm] at hends
          cases hends
          exact hcalls.log (rearmExpired_log (by rw [hrearm]; rfl))
      | returned s₂ a =>
          have hlog : s₂.log = s₁.log :=
            rearmExpired_log (by rw [hrearm]; rfl)
          rw [hrearm] at hends
          cases hends
          exact hcalls.log ((installTimer_log w s₂).trans hlog)

def standingStill (func : Type _) (ts : Int) : World func where
  clock _ := ts
  body _ _ := []

theorem standingStill_ran {s : State func} (hwf : WellFormed s)
    {t : Entry func} (ht : t ∈ s.timers) :
    exists fuel s', onTimer (standingStill func t.expire) fuel s =
        .returned s' () ∧
      Event.ran t.id ∈ s'.log.drop s.log.length := by
  let w := standingStill func t.expire
  have hdue : forall u, u ∈ dueTimers w s -> u.expire ≤ t.expire := by
    intro u hu
    exact (mem_dueTimers.mp hu).2
  have hlater : forall u, u ∈ laterTimers w s -> t.expire < u.expire := by
    intro u hu
    exact (mem_laterTimers.mp hu).2
  have hwaits : w.Waits := by
    intro k f c hc
    cases hc
  have hcreates : w.OnlyCreates := by
    intro k f c hc
    cases hc
  have hpass := pass_of_due (w := w) monotone_const hwaits hdue hlater
    (r := s.reads + 1) (Int.le_refl _) s.nextID s.calls
  rw [dueTimers_append_laterTimers hwf] at hpass
  rcases onTimer_pass hcreates hwf hpass with ⟨s₁, hreturned, _, _, _, hlog⟩
  refine ⟨_, _, hreturned, ?_⟩
  rw [installTimer_log, hlog, List.drop_left]
  have hmem : t ∈ dueTimers w s := mem_dueTimers.mpr ⟨ht, Int.le_refl _⟩
  exact List.mem_map_of_mem hmem

end Timer
end Fluxnode
