import Fluxnode.Timer.TimerList

/-!
# What each call does to the array

One description of each call in terms of ordered insertion and removal by id,
and from these that every call keeps the array ordered with distinct ids.
-/

namespace Fluxnode
namespace Timer

variable {func : Type _}

/-- The array is ordered, and its ids are distinct, positive and used up. -/
structure WellFormed (s : State func) : Prop where
  sorted : s.timers.Pairwise Before
  nodup : (s.timers.map Entry.id).Nodup
  pos : forall t, t ∈ s.timers -> 0 < t.id
  below : forall t, t ∈ s.timers -> t.id < s.nextID
  next_pos : 0 < s.nextID

theorem initial_wellFormed : WellFormed (initial func) where
  sorted := List.Pairwise.nil
  nodup := List.nodup_nil
  pos := by
    intro t ht
    cases ht
  below := by
    intro t ht
    cases ht
  next_pos := Int.one_pos

theorem eq_of_id_eq {s : State func} (hwf : WellFormed s) {t u : Entry func}
    (ht : t ∈ s.timers) (hu : u ∈ s.timers) (hid : t.id = u.id) : t = u :=
  List.inj_on_of_nodup_map hwf.nodup ht hu hid

/-!
## Installing the runtime timer
-/

@[simp] theorem installTimer_timers (w : World func) (s : State func) :
    (installTimer w s).timers = s.timers := by
  unfold installTimer
  split <;> rfl

@[simp] theorem installTimer_nextID (w : World func) (s : State func) :
    (installTimer w s).nextID = s.nextID := by
  unfold installTimer
  split <;> rfl

@[simp] theorem installTimer_calls (w : World func) (s : State func) :
    (installTimer w s).calls = s.calls := by
  unfold installTimer
  split <;> rfl

@[simp] theorem installTimer_log (w : World func) (s : State func) :
    (installTimer w s).log = s.log := by
  unfold installTimer
  split <;> rfl

theorem installTimer_reads_of_ne_nil {w : World func} {s : State func}
    (h : s.timers ≠ []) : (installTimer w s).reads = s.reads + 1 := by
  unfold installTimer
  split
  · exact absurd ‹s.timers = []› h
  · rfl

theorem installTimer_wellFormed {w : World func} {s : State func}
    (h : WellFormed s) : WellFormed (installTimer w s) where
  sorted := by simpa using h.sorted
  nodup := by simpa using h.nodup
  pos := by simpa using h.pos
  below := by simpa using h.below
  next_pos := by simpa using h.next_pos

/-!
## Creating a timer
-/

def newEntry (w : World func) (s : State func) (f : func) (delay : Nat)
    (interval : Bool) (id : Int) : Entry func where
  func := f
  expire := w.clock s.reads + delay
  delay := delay
  id := id
  interval := interval

theorem setTimeoutInternal_fresh
    (w : World func) (s : State func) (f : func) (delay : Nat)
    (interval : Bool) :
    setTimeoutInternal w s f delay interval (-1) =
      ({ s with
          timers :=
            insertTimer (newEntry w s f delay interval s.nextID) s.timers
          nextID := s.nextID + 1
          reads := s.reads + 1 },
        s.nextID) := by
  rw [← timersInsertAt_timersFindIdx]
  rfl

theorem setTimeoutInternal_reuse
    (w : World func) (s : State func) (f : func) (delay : Nat)
    (interval : Bool) {id : Int} (hid : id ≠ -1) :
    setTimeoutInternal w s f delay interval id =
      ({ s with
          timers := insertTimer (newEntry w s f delay interval id) s.timers
          reads := s.reads + 1 },
        id) := by
  rw [← timersInsertAt_timersFindIdx]
  simp only [setTimeoutInternal, getTime, if_pos hid]
  rfl

/-- `setTimeout` and `intervalTimer` are one call with a flag. -/
def create (w : World func) (s : State func) (f : func) (delay : Nat)
    (interval : Bool) : State func :=
  installTimer w
    { s with
      timers := insertTimer (newEntry w s f delay interval s.nextID) s.timers
      nextID := s.nextID + 1
      reads := s.reads + 1 }

theorem setTimeout_eq (w : World func) (s : State func) (f : func)
    (delay : Nat) :
    setTimeout w s f delay = (create w s f delay false, s.nextID) := by
  rw [setTimeout, setTimeoutInternal_fresh]
  rfl

theorem intervalTimer_eq (w : World func) (s : State func) (f : func)
    (interval : Nat) :
    intervalTimer w s f interval = (create w s f interval true, s.nextID) := by
  rw [intervalTimer, setTimeoutInternal_fresh]
  rfl

section Create

variable (w : World func) (s : State func) (f : func) (delay : Nat)
  (interval : Bool)

@[simp] theorem create_timers :
    (create w s f delay interval).timers =
      insertTimer (newEntry w s f delay interval s.nextID) s.timers := by
  simp [create]

@[simp] theorem create_calls :
    (create w s f delay interval).calls = s.calls := by
  simp [create]

@[simp] theorem create_log :
    (create w s f delay interval).log = s.log := by
  simp [create]

@[simp] theorem create_nextID :
    (create w s f delay interval).nextID = s.nextID + 1 := by
  simp [create]

@[simp] theorem create_reads :
    (create w s f delay interval).reads = s.reads + 2 := by
  rw [create, installTimer_reads_of_ne_nil (insertTimer_ne_nil _ _)]

end Create

theorem WellFormed.insert {s s' : State func} {t : Entry func}
    (h : WellFormed s) (htimers : s'.timers = insertTimer t s.timers)
    (hnext : s.nextID ≤ s'.nextID) (hfree : t.id ∉ s.timers.map Entry.id)
    (hpos : 0 < t.id) (hbelow : t.id < s'.nextID) : WellFormed s' where
  sorted := by
    rw [htimers]
    exact insertTimer_sorted h.sorted
  nodup := by
    rw [htimers, ((insertTimer_perm t s.timers).map Entry.id).nodup_iff]
    exact List.nodup_cons.mpr ⟨hfree, h.nodup⟩
  pos := by
    intro u hu
    rw [htimers, mem_insertTimer] at hu
    rcases hu with rfl | hu
    · exact hpos
    · exact h.pos u hu
  below := by
    intro u hu
    rw [htimers, mem_insertTimer] at hu
    rcases hu with rfl | hu
    · exact hbelow
    · exact Int.lt_of_lt_of_le (h.below u hu) hnext
  next_pos := Int.lt_of_lt_of_le h.next_pos hnext

theorem WellFormed.nextID_free {s : State func} (h : WellFormed s) :
    s.nextID ∉ s.timers.map Entry.id := by
  intro hmem
  rcases List.mem_map.mp hmem with ⟨t, ht, hid⟩
  have hbelow := h.below t ht
  rw [hid] at hbelow
  exact Int.lt_irrefl _ hbelow

theorem create_wellFormed {w : World func} {s : State func}
    (h : WellFormed s) (f : func) (delay : Nat) (interval : Bool) :
    WellFormed (create w s f delay interval) := by
  have hnext : s.nextID < s.nextID + 1 := Int.lt_succ s.nextID
  apply h.insert (create_timers w s f delay interval)
  · rw [create_nextID]
    exact Int.le_of_lt hnext
  · exact h.nextID_free
  · exact h.next_pos
  · rw [create_nextID]
    exact hnext

/-!
## Cancelling a timer
-/

theorem cancelTimer_eq {w : World func} {s : State func}
    (h : WellFormed s) (id : Int) :
    cancelTimer w s id =
      installTimer w
        { s with
          timers := withoutId id s.timers
          log := s.log ++ [.cancelled id] } := by
  by_cases hmem : id ∈ s.timers.map Entry.id
  · rcases List.mem_map.mp hmem with ⟨t, ht, rfl⟩
    have hremove := timersRemoveAt_timersFindIdxId h.nodup ht
    have hfound : timersFindIdxId s.timers t.id ≠ -1 := by
      intro hneg
      rw [hneg] at hremove
      have hnone := timersRemoveAt_neg_one s.timers
      rw [hremove] at hnone
      cases hnone
    simp only [cancelTimer, if_pos hfound, hremove]
  · have hnone := timersFindIdxId_of_not_mem hmem
    simp only [cancelTimer, hnone, withoutId_of_not_mem hmem]
    rfl

theorem cancelTimer_timers {w : World func} {s : State func}
    (h : WellFormed s) (id : Int) :
    (cancelTimer w s id).timers = withoutId id s.timers := by
  simp [cancelTimer_eq h]

theorem cancelTimer_log {w : World func} {s : State func}
    (h : WellFormed s) (id : Int) :
    (cancelTimer w s id).log = s.log ++ [.cancelled id] := by
  simp [cancelTimer_eq h]

theorem cancelTimer_calls {w : World func} {s : State func}
    (h : WellFormed s) (id : Int) :
    (cancelTimer w s id).calls = s.calls := by
  simp [cancelTimer_eq h]

theorem WellFormed.of_sublist {s s' : State func} (h : WellFormed s)
    (hsub : s'.timers.Sublist s.timers) (hnext : s'.nextID = s.nextID) :
    WellFormed s' where
  sorted := h.sorted.sublist hsub
  nodup := h.nodup.sublist (hsub.map Entry.id)
  pos := by
    intro t ht
    exact h.pos t (hsub.subset ht)
  below := by
    intro t ht
    rw [hnext]
    exact h.below t (hsub.subset ht)
  next_pos := by
    rw [hnext]
    exact h.next_pos

theorem withoutId_sublist (id : Int) (timers : List (Entry func)) :
    (withoutId id timers).Sublist timers :=
  List.filter_sublist

theorem cancelTimer_wellFormed {w : World func} {s : State func}
    (h : WellFormed s) (id : Int) : WellFormed (cancelTimer w s id) := by
  rw [cancelTimer_eq h]
  apply installTimer_wellFormed
  exact h.of_sublist (withoutId_sublist id s.timers) rfl

end Timer
end Fluxnode
