import Fluxnode.Timer.Arming
import Fluxnode.Timer.Cancellation

/-!
# What the calls of a callback leave

Whatever calls a callback makes until it returns or throws, the array stays in
order, each of its timers was there before or has a new id, and the runtime
timer is set to the first of them.
-/

namespace Fluxnode
namespace Timer

variable {func : Type _}

/-- The state in which the callback of `t` starts. -/
def called (s : State func) (t : Entry func) : State func :=
  { s with calls := s.calls + 1, log := s.log ++ [.ran t.id] }

theorem invoke_eq (w : World func) (t : Entry func) (s : State func) :
    invoke w t s = runCalls w (w.body s.calls t.func) (called s t) := rfl

/-!
## Calls in front of an exception
-/

theorem runCalls_append_of_returned {w : World func}
    {made more : List (Call func)} {s s' : State func}
    (h : runCalls w made s = .returned s' ()) :
    runCalls w (made ++ more) s = runCalls w more s' := by
  induction made generalizing s with
  | nil =>
      cases h
      rfl
  | cons c rest ih =>
      cases c with
      | throws => cases h
      | setTimeout f delay => exact ih h
      | intervalTimer f interval => exact ih h
      | cancelTimer id => exact ih h

theorem runCalls_threw {w : World func} {calls : List (Call func)}
    {s s' : State func} (h : runCalls w calls s = .threw s') :
    exists made rest, calls = made ++ .throws :: rest ∧
      runCalls w made s = .returned s' () := by
  induction calls generalizing s with
  | nil => cases h
  | cons c calls ih =>
      cases c with
      | throws =>
          cases h
          exact ⟨[], calls, rfl, rfl⟩
      | setTimeout f delay =>
          rcases ih h with ⟨made, rest, rfl, hrun⟩
          exact ⟨.setTimeout f delay :: made, rest, rfl, hrun⟩
      | intervalTimer f interval =>
          rcases ih h with ⟨made, rest, rfl, hrun⟩
          exact ⟨.intervalTimer f interval :: made, rest, rfl, hrun⟩
      | cancelTimer id =>
          rcases ih h with ⟨made, rest, rfl, hrun⟩
          exact ⟨.cancelTimer id :: made, rest, rfl, hrun⟩

/-!
## What the calls leave
-/

/-- The timers, in any order, with the readings of the clock and the next id. -/
structure Left (func : Type _) where
  timers : List (Entry func)
  reads : Nat
  nextID : Int
  deriving DecidableEq, Repr

def State.left (s : State func) : Left func where
  timers := s.timers
  reads := s.reads
  nextID := s.nextID

def Left.create (w : World func) (l : Left func) (f : func) (delay : Nat)
    (interval : Bool) : Left func where
  timers :=
    { func := f, expire := w.clock l.reads + delay, delay := delay,
      id := l.nextID, interval := interval } :: l.timers
  reads := l.reads + 2
  nextID := l.nextID + 1

def Left.cancel (l : Left func) (id : Int) : Left func where
  timers := withoutId id l.timers
  reads := l.reads + if (withoutId id l.timers).isEmpty then 0 else 1
  nextID := l.nextID

def Left.call (w : World func) (l : Left func) : Call func -> Left func
  | .setTimeout f delay => l.create w f delay false
  | .intervalTimer f interval => l.create w f interval true
  | .cancelTimer id => l.cancel id
  | .throws => l

structure Left.Same (l l' : Left func) : Prop where
  timers : l.timers.Perm l'.timers
  reads : l.reads = l'.reads
  nextID : l.nextID = l'.nextID

theorem Left.Same.call {w : World func} {l l' : Left func}
    (h : l.Same l') (c : Call func) : (l.call w c).Same (l'.call w c) := by
  have hcreate : forall f delay interval,
      (l.create w f delay interval).Same (l'.create w f delay interval) := by
    intro f delay interval
    constructor
    · rw [Left.create, Left.create, h.reads, h.nextID]
      exact h.timers.cons _
    · rw [Left.create, Left.create, h.reads]
    · rw [Left.create, Left.create, h.nextID]
  cases c with
  | setTimeout f delay => exact hcreate f delay false
  | intervalTimer f interval => exact hcreate f interval true
  | throws => exact h
  | cancelTimer id =>
      have hperm : (withoutId id l.timers).Perm (withoutId id l'.timers) :=
        h.timers.filter _
      constructor
      · exact hperm
      · simp only [Left.call, Left.cancel, hperm.isEmpty_eq, h.reads]
      · exact h.nextID

/-- The runtime is set to the first timer, by the last reading of the clock. -/
def Installed (w : World func) (s : State func) : Prop :=
  forall first, s.timers.head? = some first ->
    s.wakeUpTimeMS = requireUint (first.expire - w.clock (s.reads - 1))

theorem installed_installTimer (w : World func) (s : State func) :
    Installed w (installTimer w s) := by
  intro first hfirst
  rw [installTimer_timers] at hfirst
  cases htimers : s.timers with
  | nil =>
      rw [htimers] at hfirst
      cases hfirst
  | cons t rest =>
      rw [htimers] at hfirst
      cases hfirst
      simp only [installTimer, htimers]
      rfl

/-- A timer of the later state was there before, or has a new id. -/
structure Evolves (s s' : State func) : Prop where
  reads : s.reads ≤ s'.reads
  nextID : s.nextID ≤ s'.nextID
  timers : forall u, u ∈ s'.timers -> u ∈ s.timers ∨ s.nextID ≤ u.id

theorem Evolves.trans {s s₁ s₂ : State func} (h : Evolves s s₁)
    (h' : Evolves s₁ s₂) : Evolves s s₂ where
  reads := Nat.le_trans h.reads h'.reads
  nextID := Int.le_trans h.nextID h'.nextID
  timers := by
    intro u hu
    rcases h'.timers u hu with hu | hnew
    · exact h.timers u hu
    · exact Or.inr (Int.le_trans h.nextID hnew)

structure AfterCalls (w : World func) (s s' : State func)
    (made : List (Call func)) : Prop where
  wellFormed : WellFormed s'
  left : s'.left.Same (made.foldl (Left.call w) s.left)
  installed : Installed w s -> Installed w s'
  evolves : Evolves s s'
  log : s'.log = s.log ++ (cancelledBy made).map Event.cancelled

theorem create_after (w : World func) {s : State func} (hwf : WellFormed s)
    {c : Call func} (hcancels : c.cancels = none) (f : func) (delay : Nat)
    (interval : Bool)
    (hcall : s.left.call w c = s.left.create w f delay interval) :
    AfterCalls w s (create w s f delay interval) [c] where
  wellFormed := create_wellFormed hwf f delay interval
  left := by
    rw [List.foldl_cons, List.foldl_nil, hcall]
    constructor
    · change (create w s f delay interval).timers.Perm _
      rw [create_timers]
      exact insertTimer_perm _ _
    · exact create_reads w s f delay interval
    · exact create_nextID w s f delay interval
  installed := fun _ => installed_installTimer w _
  evolves := by
    constructor
    · rw [create_reads]
      exact Nat.le_add_right _ _
    · rw [create_nextID]
      exact Int.le_add_one (Int.le_refl _)
    · intro u hu
      rw [create_timers, mem_insertTimer] at hu
      rcases hu with rfl | hu
      · exact Or.inr (Int.le_refl _)
      · exact Or.inl hu
  log := by
    rw [create_log, cancelledBy, List.filterMap_cons_none hcancels]
    exact (List.append_nil _).symm

theorem cancelTimer_after (w : World func) {s : State func}
    (hwf : WellFormed s) (id : Int) :
    AfterCalls w s (cancelTimer w s id) [.cancelTimer id] where
  wellFormed := cancelTimer_wellFormed hwf id
  left := by
    constructor
    · change (cancelTimer w s id).timers.Perm (withoutId id s.timers)
      rw [cancelTimer_timers hwf]
    · change (cancelTimer w s id).reads =
        s.reads + if (withoutId id s.timers).isEmpty then 0 else 1
      rw [cancelTimer_eq hwf]
      cases hrest : withoutId id s.timers with
      | nil => rfl
      | cons t rest => rfl
    · change (cancelTimer w s id).nextID = s.nextID
      rw [cancelTimer_eq hwf, installTimer_nextID]
  installed := by
    intro _
    rw [cancelTimer_eq hwf]
    exact installed_installTimer w _
  evolves := by
    constructor
    · exact cancelTimer_reads_le hwf id
    · rw [cancelTimer_eq hwf, installTimer_nextID]
    · intro u hu
      rw [cancelTimer_timers hwf] at hu
      exact Or.inl (mem_withoutId.mp hu).1
  log := cancelTimer_log hwf id

theorem Left.Same.foldl {w : World func} {l l' : Left func}
    (h : l.Same l') (made : List (Call func)) :
    (made.foldl (Left.call w) l).Same (made.foldl (Left.call w) l') := by
  induction made generalizing l l' with
  | nil => exact h
  | cons c made ih => exact ih (h.call c)

theorem Left.Same.trans {l l' l'' : Left func} (h : l.Same l')
    (h' : l'.Same l'') : l.Same l'' where
  timers := h.timers.trans h'.timers
  reads := h.reads.trans h'.reads
  nextID := h.nextID.trans h'.nextID

theorem AfterCalls.append {w : World func} {s s₁ s₂ : State func}
    {made more : List (Call func)} (h : AfterCalls w s s₁ made)
    (h' : AfterCalls w s₁ s₂ more) : AfterCalls w s s₂ (made ++ more) where
  wellFormed := h'.wellFormed
  left := by
    rw [List.foldl_append]
    exact h'.left.trans (h.left.foldl more)
  installed := fun hinstalled => h'.installed (h.installed hinstalled)
  evolves := h.evolves.trans h'.evolves
  log := by
    rw [h'.log, h.log, List.append_assoc, ← List.map_append]
    simp only [cancelledBy, List.filterMap_append]

theorem runCalls_after {w : World func} {made : List (Call func)}
    {s s' : State func} (hwf : WellFormed s)
    (hrun : runCalls w made s = .returned s' ()) :
    AfterCalls w s s' made := by
  induction made generalizing s with
  | nil =>
      cases hrun
      refine ⟨hwf, ⟨.refl _, rfl, rfl⟩, fun h => h, ?_, ?_⟩
      · exact ⟨Nat.le_refl _, Int.le_refl _, fun u hu => Or.inl hu⟩
      · exact (List.append_nil _).symm
  | cons c made ih =>
      cases c with
      | throws => cases hrun
      | setTimeout f delay =>
          rw [runCalls, setTimeout_eq] at hrun
          have hfirst := create_after w hwf
            (c := .setTimeout f delay) rfl f delay false rfl
          exact hfirst.append (ih hfirst.wellFormed hrun)
      | intervalTimer f interval =>
          rw [runCalls, intervalTimer_eq] at hrun
          have hfirst := create_after w hwf
            (c := .intervalTimer f interval) rfl f interval true rfl
          exact hfirst.append (ih hfirst.wellFormed hrun)
      | cancelTimer id =>
          have hfirst := cancelTimer_after w hwf id
          exact hfirst.append (ih hfirst.wellFormed hrun)

theorem AfterCalls.of_called {w : World func} {s s' : State func}
    {t : Entry func} {made : List (Call func)}
    (h : AfterCalls w (called s t) s' made) :
    s'.left.Same (made.foldl (Left.call w) s.left) ∧
      (Installed w s -> Installed w s') ∧ Evolves s s' :=
  ⟨h.left, h.installed,
    { reads := h.evolves.reads
      nextID := h.evolves.nextID
      timers := h.evolves.timers }⟩

def Outcome.state? {α : Type _} : Outcome func α -> Option (State func)
  | .returned s _ => some s
  | .threw s => some s
  | .running => none

theorem runCalls_state {w : World func} {calls : List (Call func)}
    {s s' : State func} (hwf : WellFormed s)
    (hends : (runCalls w calls s).state? = some s') :
    exists made, AfterCalls w s s' made := by
  cases hrun : runCalls w calls s with
  | returned s₁ a =>
      rw [hrun] at hends
      cases hends
      exact ⟨calls, runCalls_after hwf hrun⟩
  | threw s₁ =>
      rw [hrun] at hends
      cases hends
      rcases runCalls_threw hrun with ⟨made, rest, _, hmade⟩
      exact ⟨made, runCalls_after hwf hmade⟩
  | running => exact absurd hrun (runCalls_ne_running w calls s)

theorem unique_of_evolves {s s' : State func} (hwf : WellFormed s)
    (h : Evolves s s') {t : Entry func} (ht : t ∈ s.timers) :
    t.id < s'.nextID ∧
      forall u, u ∈ s'.timers -> u.id = t.id -> u = t := by
  have hbelow := hwf.below t ht
  constructor
  · exact Int.lt_of_lt_of_le hbelow h.nextID
  · intro u hu hid
    rcases h.timers u hu with hold | hnew
    · exact eq_of_id_eq hwf hold ht hid
    · rw [hid] at hnew
      exact absurd hbelow (Int.not_lt.mpr hnew)

/-!
## The runtime timer
-/

theorem wakeUp_ne_zero_iff {w : World func} {s : State func}
    (hsorted : s.timers.Pairwise Before) (hinstalled : Installed w s) :
    (s.timers ≠ [] -> s.wakeUpTimeMS ≠ 0) <->
      forall u, u ∈ s.timers -> w.clock (s.reads - 1) < u.expire := by
  cases htimers : s.timers with
  | nil =>
      constructor
      · intro _ u hu
        cases hu
      · intro _ hne
        exact absurd rfl hne
  | cons first rest =>
      have hfirst : s.timers.head? = some first := by rw [htimers]; rfl
      have hwake := hinstalled first hfirst
      rw [htimers, List.pairwise_cons] at hsorted
      constructor
      · intro harmed u hu
        have hne := harmed (List.cons_ne_nil first rest)
        rw [hwake, Ne, requireUint_eq_zero] at hne
        rcases List.mem_cons.mp hu with rfl | hu
        · lia
        · have hle : first.expire ≤ u.expire := hsorted.1 u hu
          lia
      · intro hlater _
        have hpos := hlater first List.mem_cons_self
        rw [hwake, Ne, requireUint_eq_zero]
        lia

end Timer
end Fluxnode
