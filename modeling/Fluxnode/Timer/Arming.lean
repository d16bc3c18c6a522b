import Fluxnode.Timer.Overlooked
import Mathlib.Data.Int.ConditionallyCompleteOrder
import Mathlib.Order.ConditionallyCompleteLattice.Basic

/-!
# Arming the runtime timer

The runtime takes a wake-up time of zero for a timer that is switched off, and
`__installTimer` passes it the distance from the clock to the first expiry.  So
the timer is armed exactly when the first expiry lies strictly after that
reading of the clock.
-/

namespace Fluxnode
namespace Timer

variable {func : Type _}

/-!
## Calls and runs
-/

inductive ApiCall (func : Type _) where
  | setTimeout (f : func) (delay : Nat)
  | intervalTimer (f : func) (interval : Nat)
  | cancelTimer (id : Int)
  | onTimer
  deriving DecidableEq, Repr

def Returns (w : World func) (s : State func) :
    ApiCall func -> State func -> Prop
  | .setTimeout f delay, s' => (setTimeout w s f delay).1 = s'
  | .intervalTimer f interval, s' => (intervalTimer w s f interval).1 = s'
  | .cancelTimer id, s' => cancelTimer w s id = s'
  | .onTimer, s' => exists fuel, onTimer w fuel s = .returned s' ()

structure Step (func : Type _) where
  before : State func
  call : ApiCall func
  after : State func

/-- A sequence of calls that return, from the freshly loaded library on. -/
inductive Run (w : World func) : List (Step func) -> State func -> Prop where
  | start : Run w [] (initial func)
  | call {steps : List (Step func)} {s s' : State func} {c : ApiCall func}
      (hrun : Run w steps s) (hreturns : Returns w s c s') :
      Run w (steps ++ [⟨s, c, s'⟩]) s'

/-- The wake-up time is zero exactly when no timer is left. -/
def Armed (s : State func) : Prop :=
  s.wakeUpTimeMS = 0 <-> s.timers = []

/-!
## What a call leaves in the array
-/

/--
The timers that a call leaves in the array, and the reading of the clock that
its last `__installTimer` takes.
-/
inductive Leaves (w : World func) (s : State func) :
    ApiCall func -> List (Entry func) -> Nat -> Prop where
  | setTimeout (f : func) (delay : Nat) :
      Leaves w s (.setTimeout f delay)
        (newEntry w s f delay false s.nextID :: s.timers) (s.reads + 1)
  | intervalTimer (f : func) (interval : Nat) :
      Leaves w s (.intervalTimer f interval)
        (newEntry w s f interval true s.nextID :: s.timers) (s.reads + 1)
  | cancelTimer (id : Int) :
      Leaves w s (.cancelTimer id) (withoutId id s.timers) s.reads
  | onTimer {ran left : List (Entry func)} {r : Nat}
      (hpass : Pass w (w.clock s.reads) (s.reads + 1) s.nextID s.calls
        s.timers ran left r) :
      Leaves w s .onTimer (rearmed w r ran ++ left)
        (r + (rearmed w r ran).length)

/-- Every timer that the call leaves expires after its last reading. -/
def InTime (w : World func) (s : State func) (c : ApiCall func) : Prop :=
  exists timers r, Leaves w s c timers r ∧
    forall t, t ∈ timers -> w.clock r < t.expire

/-!
## Installing
-/

theorem requireUint_eq_zero {d : Int} : requireUint d = 0 <-> d ≤ 0 := by
  unfold requireUint
  split
  · lia
  · split <;> lia

theorem armed_installTimer_iff {w : World func} {s : State func}
    (hsorted : s.timers.Pairwise Before) :
    Armed (installTimer w s) <->
      forall t, t ∈ s.timers -> w.clock s.reads < t.expire := by
  cases htimers : s.timers with
  | nil =>
      constructor
      · intro _ t ht
        cases ht
      · intro _
        simp [Armed, installTimer, htimers, setTimer, requireUint]
  | cons first rest =>
      rw [htimers] at hsorted
      have hwake : (installTimer w s).wakeUpTimeMS =
          requireUint (first.expire - w.clock s.reads) := by
        simp only [installTimer, htimers]
        rfl
      have hne : (installTimer w s).timers ≠ [] := by
        rw [installTimer_timers, htimers]
        exact List.cons_ne_nil first rest
      constructor
      · intro harmed t ht
        have hzero : ¬ first.expire - w.clock s.reads ≤ 0 := by
          intro hle
          apply hne
          apply harmed.mp
          rw [hwake]
          exact requireUint_eq_zero.mpr hle
        have hfirst : first.expire ≤ t.expire := by
          rcases List.mem_cons.mp ht with rfl | ht
          · exact Int.le_refl _
          · exact (List.pairwise_cons.mp hsorted).1 t ht
        lia
      · intro hlater
        have hfirst := hlater first List.mem_cons_self
        constructor
        · intro hzero
          rw [hwake, requireUint_eq_zero] at hzero
          lia
        · intro hnil
          exact absurd hnil hne

/-!
## One call
-/

theorem armed_iff_of_leaves
    {w : World func} {s₁ : State func} {timers : List (Entry func)}
    (hwf : WellFormed s₁) (hperm : s₁.timers.Perm timers) :
    Armed (installTimer w s₁) <->
      forall t, t ∈ timers -> w.clock s₁.reads < t.expire := by
  rw [armed_installTimer_iff hwf.sorted]
  constructor
  · intro hlater t ht
    exact hlater t (hperm.symm.subset ht)
  · intro hlater t ht
    exact hlater t (hperm.subset ht)

theorem armed_create_iff
    {w : World func} {s : State func} (hwf : WellFormed s)
    (f : func) (delay : Nat) (interval : Bool) :
    Armed (create w s f delay interval) <->
      forall t, t ∈ newEntry w s f delay interval s.nextID :: s.timers ->
        w.clock (s.reads + 1) < t.expire := by
  unfold create
  apply armed_iff_of_leaves
  · apply hwf.insert rfl (Int.le_of_lt (Int.lt_succ s.nextID))
      hwf.nextID_free hwf.next_pos (Int.lt_succ s.nextID)
  · exact insertTimer_perm _ _

theorem armed_cancelTimer_iff
    {w : World func} {s : State func} (hwf : WellFormed s) (id : Int) :
    Armed (cancelTimer w s id) <->
      forall t, t ∈ withoutId id s.timers -> w.clock s.reads < t.expire := by
  rw [cancelTimer_eq hwf]
  apply armed_iff_of_leaves
  · exact hwf.of_sublist (withoutId_sublist id s.timers) rfl
  · exact List.Perm.refl _

theorem onTimer_unique
    {w : World func} {fuel more : Nat} {s s' s'' : State func}
    (h' : onTimer w fuel s = .returned s' ())
    (h'' : onTimer w more s = .returned s'' ()) : s' = s'' := by
  have hsame : Outcome.returned s' () = .returned s'' () := by
    rcases Nat.le_total fuel more with hle | hle
    · rw [← onTimer_mono hle h', h'']
    · rw [← h', onTimer_mono hle h'']
  cases hsame
  rfl

/-- A pass that overlooked a timer leaves the runtime timer off. -/
theorem not_armed_of_overlooked
    {w : World func} {s s₁ s₂ : State func} {expired : List Int}
    (hclock : Monotone w.clock) (hwf : WellFormed s₁)
    (hreads : s.reads ≤ s₁.reads)
    (hover : Overlooked (w.clock s.reads) expired s₁.timers)
    (hrearm : rearmExpired w expired s₁ = .returned s₂ ()) :
    ¬ Armed (installTimer w s₂) := by
  rcases rearmExpired_kept hwf hrearm with ⟨hwf₂, hreads₂, hkept⟩
  rcases hover with ⟨u, hu, hdue, hfree⟩
  intro harmed
  have hlater := (armed_installTimer_iff hwf₂.sorted).mp harmed u
    (hkept u hu hfree)
  have hclock' := hclock (Nat.le_trans hreads hreads₂)
  lia

theorem armed_onTimer_iff
    {w : World func} {fuel : Nat} {s s' : State func}
    (hclock : Monotone w.clock) (hcreates : w.OnlyCreates)
    (hwf : WellFormed s) (hreturned : onTimer w fuel s = .returned s' ()) :
    Armed s' <-> InTime w s .onTimer := by
  have hpassArmed : forall ran left r,
      Pass w (w.clock s.reads) (s.reads + 1) s.nextID s.calls s.timers
        ran left r ->
      (Armed s' <-> forall t, t ∈ rearmed w r ran ++ left ->
        w.clock (r + (rearmed w r ran).length) < t.expire) := by
    intro ran left r hpass
    rcases onTimer_pass hcreates hwf hpass with
      ⟨s₁, hrun, hwf₁, hperm₁, hreads₁, _⟩
    rw [onTimer_unique hreturned hrun, ← hreads₁]
    exact armed_iff_of_leaves hwf₁ hperm₁
  constructor
  · intro harmed
    rcases onTimer_returned_iff.mp hreturned with
      ⟨s₁, s₂, expired, hloop, hrearm, rfl⟩
    have hwf₀ : WellFormed { s with reads := s.reads + 1 } :=
      hwf.of_sublist (List.Sublist.refl _) rfl
    have hused : UsedUp { s with reads := s.reads + 1 } [] := by
      intro id hid
      cases hid
    rcases onTimerLoop_wellFormed hcreates hwf₀ hloop with ⟨hwf₁, hreads₁⟩
    rcases onTimerLoop_pass_or_overlooked [] hcreates hwf₀ hused rfl
        hloop with ⟨ran, left, r, hpass⟩ | hover
    · exact ⟨_, _, Leaves.onTimer hpass, (hpassArmed ran left r hpass).mp harmed⟩
    · exact absurd harmed
        (not_armed_of_overlooked hclock hwf₁ (Nat.le_of_succ_le hreads₁) hover
          hrearm)
  · intro h
    rcases h with ⟨timers, r, hleaves, hlater⟩
    cases hleaves with
    | onTimer hpass => exact (hpassArmed _ _ _ hpass).mpr hlater

theorem armed_iff_inTime
    {w : World func} {s s' : State func} {c : ApiCall func}
    (hclock : Monotone w.clock) (hcreates : w.OnlyCreates)
    (hwf : WellFormed s) (hreturns : Returns w s c s') :
    Armed s' <-> InTime w s c := by
  cases c with
  | setTimeout f delay =>
      rw [← show (setTimeout w s f delay).1 = s' from hreturns, setTimeout_eq,
        armed_create_iff hwf]
      constructor
      · intro hlater
        exact ⟨_, _, Leaves.setTimeout f delay, hlater⟩
      · intro h
        rcases h with ⟨timers, r, hleaves, hlater⟩
        cases hleaves
        exact hlater
  | intervalTimer f interval =>
      rw [← show (intervalTimer w s f interval).1 = s' from hreturns,
        intervalTimer_eq, armed_create_iff hwf]
      constructor
      · intro hlater
        exact ⟨_, _, Leaves.intervalTimer f interval, hlater⟩
      · intro h
        rcases h with ⟨timers, r, hleaves, hlater⟩
        cases hleaves
        exact hlater
  | cancelTimer id =>
      rw [← show cancelTimer w s id = s' from hreturns,
        armed_cancelTimer_iff hwf]
      constructor
      · intro hlater
        exact ⟨_, _, Leaves.cancelTimer id, hlater⟩
      · intro h
        rcases h with ⟨timers, r, hleaves, hlater⟩
        cases hleaves
        exact hlater
  | onTimer =>
      rcases hreturns with ⟨fuel, hreturned⟩
      exact armed_onTimer_iff hclock hcreates hwf hreturned

/-!
## Every run
-/

theorem returns_wellFormed
    {w : World func} {s s' : State func} {c : ApiCall func}
    (hcreates : w.OnlyCreates) (hwf : WellFormed s)
    (hreturns : Returns w s c s') : WellFormed s' := by
  cases c with
  | setTimeout f delay =>
      rw [← show (setTimeout w s f delay).1 = s' from hreturns, setTimeout_eq]
      exact create_wellFormed hwf f delay false
  | intervalTimer f interval =>
      rw [← show (intervalTimer w s f interval).1 = s' from hreturns,
        intervalTimer_eq]
      exact create_wellFormed hwf f interval true
  | cancelTimer id =>
      rw [← show cancelTimer w s id = s' from hreturns]
      exact cancelTimer_wellFormed hwf id
  | onTimer =>
      rcases hreturns with ⟨fuel, hreturned⟩
      rcases onTimer_returned_iff.mp hreturned with
        ⟨s₁, s₂, expired, hloop, hrearm, rfl⟩
      have hwf₀ : WellFormed { s with reads := s.reads + 1 } :=
        hwf.of_sublist (List.Sublist.refl _) rfl
      have hwf₁ := (onTimerLoop_wellFormed hcreates hwf₀ hloop).1
      exact installTimer_wellFormed (rearmExpired_kept hwf₁ hrearm).1

theorem run_wellFormed
    {w : World func} {steps : List (Step func)} {s : State func}
    (hcreates : w.OnlyCreates) (hrun : Run w steps s) : WellFormed s := by
  induction hrun with
  | start => exact initial_wellFormed
  | call _ hreturns ih => exact returns_wellFormed hcreates ih hreturns

theorem run_armed_iff_inTime
    {w : World func} {steps : List (Step func)} {s : State func}
    (hclock : Monotone w.clock) (hcreates : w.OnlyCreates)
    (hrun : Run w steps s) :
    forall x, x ∈ steps -> (Armed x.after <-> InTime w x.before x.call) := by
  induction hrun with
  | start =>
      intro x hx
      cases hx
  | @call steps s s' c hrun hreturns ih =>
      intro x hx
      rcases List.mem_append.mp hx with hx | hx
      · exact ih x hx
      · rw [List.mem_singleton.mp hx]
        exact armed_iff_inTime hclock hcreates (run_wellFormed hcreates hrun)
          hreturns

/-- The runtime timer is armed after every call of a run exactly when every
call of the run is in time. -/
theorem armed_throughout_iff
    {w : World func} {steps : List (Step func)} {s : State func}
    (hclock : Monotone w.clock) (hcreates : w.OnlyCreates)
    (hrun : Run w steps s) :
    (forall x, x ∈ steps -> Armed x.after) <->
      forall x, x ∈ steps -> InTime w x.before x.call := by
  have hcall := run_armed_iff_inTime hclock hcreates hrun
  constructor
  · intro harmed x hx
    exact (hcall x hx).mp (harmed x hx)
  · intro htime x hx
    exact (hcall x hx).mpr (htime x hx)

/-!
## A pass that takes a millisecond

Two timers are created at time 0.  The pass at time 10 runs the first, and when
it installs the second the clock reads 11.
-/

/-- The readings 0, 0, 0, 0, 10 and 11, and callbacks that do nothing. -/
def slowWorld : World Unit where
  clock k := if k ≤ 3 then 0 else if k = 4 then 10 else 11
  body _ _ := []

def afterFirst : State Unit :=
  (setTimeout slowWorld (initial Unit) () 10).1

def afterSecond : State Unit :=
  (setTimeout slowWorld afterFirst () 11).1

def afterPass : State Unit where
  timers :=
    [{ func := (), expire := 11, delay := 11, id := 2, interval := false }]
  nextID := 3
  wakeUpTimeMS := 0
  reads := 6
  calls := 1
  log := [.ran 1]

theorem slowWorld_monotone : Monotone slowWorld.clock := by
  intro j k hjk
  simp only [slowWorld]
  split <;> split <;> (try split) <;> (try split) <;> lia

theorem slowWorld_onlyCreates : slowWorld.OnlyCreates := by
  intro k f c hc
  cases hc

def firstCall : List (Step Unit) :=
  [] ++ [⟨initial Unit, .setTimeout () 10, afterFirst⟩]

theorem firstCall_run : Run slowWorld firstCall afterFirst :=
  Run.call (c := .setTimeout () 10) Run.start rfl

theorem armed_afterFirst :
    InTime slowWorld (initial Unit) (.setTimeout () 10) ∧ Armed afterFirst := by
  have htime : InTime slowWorld (initial Unit) (.setTimeout () 10) := by
    refine ⟨_, _, Leaves.setTimeout () 10, ?_⟩
    intro t ht
    rw [List.mem_singleton.mp ht]
    decide
  have harmed := (armed_throughout_iff slowWorld_monotone slowWorld_onlyCreates
    firstCall_run).mpr (by
      intro x hx
      rw [firstCall, List.nil_append, List.mem_singleton] at hx
      rw [hx]
      exact htime)
  exact ⟨htime, harmed _ List.mem_cons_self⟩

/-- A pass that returns leaves a timer in the list and the runtime timer off. -/
theorem runtime_timer_off_with_timer_left :
    Monotone slowWorld.clock ∧ slowWorld.OnlyCreates ∧
      exists steps, Run slowWorld steps afterPass ∧
        afterPass.timers ≠ [] ∧ afterPass.wakeUpTimeMS = 0 := by
  have hsecond : Run slowWorld
      (firstCall ++ [⟨afterFirst, .setTimeout () 11, afterSecond⟩])
      afterSecond :=
    Run.call (c := .setTimeout () 11) firstCall_run rfl
  have hreturned : Returns slowWorld afterSecond .onTimer afterPass :=
    ⟨2, rfl⟩
  refine ⟨slowWorld_monotone, slowWorld_onlyCreates, _,
    Run.call hsecond hreturned, ?_, rfl⟩
  intro hnil
  cases hnil

end Timer
end Fluxnode
