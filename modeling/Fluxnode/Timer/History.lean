import Fluxnode.Timer.WellFormed

/-!
# The array and the history of calls

An application that stays out of `OnTimer` creates timers and cancels ids, known
or not, while the clock reads anything.  The array is told by the history of
these calls: it holds what was created and not cancelled since, and a call
leaves every timer alone but the one it names.
-/

namespace Fluxnode
namespace Timer

variable {func : Type _}

inductive Request (func : Type _) where
  | setTimeout (f : func) (delay : Nat)
  | intervalTimer (f : func) (interval : Nat)
  | cancelTimer (id : Int)
  deriving DecidableEq, Repr

/-- What a call was for, told by its arguments, by the reading of the clock and
by the id that it returned. -/
inductive Change (func : Type _) where
  | created (t : Entry func)
  | cancelled (id : Int)
  deriving DecidableEq, Repr

def Change.named : Change func -> Int
  | .created t => t.id
  | .cancelled id => id

def perform (w : World func) (s : State func) :
    Request func -> State func × Change func
  | .setTimeout f delay =>
      let (s', id) := setTimeout w s f delay
      (s', .created
        { func := f, expire := w.clock s.reads + delay, delay := delay,
          id := id, interval := false })
  | .intervalTimer f interval =>
      let (s', id) := intervalTimer w s f interval
      (s', .created
        { func := f, expire := w.clock s.reads + interval, delay := interval,
          id := id, interval := true })
  | .cancelTimer id => (cancelTimer w s id, .cancelled id)

def performAll (w : World func) :
    List (Request func) -> State func -> State func × List (Change func)
  | [], s => (s, [])
  | r :: rest, s =>
      let (s', c) := perform w s r
      let (s'', history) := performAll w rest s'
      (s'', c :: history)

/-- The timer was created, and its id was not cancelled since. -/
def Pending (history : List (Change func)) (t : Entry func) : Prop :=
  exists front back, history = front ++ .created t :: back ∧
    .cancelled t.id ∉ back

/-!
## Histories
-/

theorem not_pending_nil (t : Entry func) : ¬ Pending [] t := by
  intro h
  rcases h with ⟨front, back, heq, _⟩
  cases front <;> cases heq

theorem Pending.append {history : List (Change func)} {t : Entry func}
    {c : Change func} (h : Pending history t) (hc : c ≠ .cancelled t.id) :
    Pending (history ++ [c]) t := by
  rcases h with ⟨front, back, rfl, hback⟩
  refine ⟨front, back ++ [c], by simp, ?_⟩
  intro hmem
  rcases List.mem_append.mp hmem with hmem | hmem
  · exact hback hmem
  · exact hc (List.mem_singleton.mp hmem).symm

theorem Pending.before {history : List (Change func)} {t : Entry func}
    {c : Change func} (h : Pending (history ++ [c]) t) :
    (Pending history t ∧ c ≠ .cancelled t.id) ∨ c = .created t := by
  rcases h with ⟨front, back, heq, hback⟩
  rcases List.eq_nil_or_concat back with rfl | ⟨back, last, rfl⟩
  · rcases List.append_inj' heq rfl with ⟨_, hlast⟩
    cases hlast
    exact Or.inr rfl
  · rw [List.concat_eq_append] at heq hback
    rw [← List.cons_append, ← List.append_assoc] at heq
    rcases List.append_inj' heq rfl with ⟨rfl, hlast⟩
    cases hlast
    rw [List.mem_append, not_or, List.mem_singleton] at hback
    exact Or.inl ⟨⟨front, back, rfl, hback.1⟩, Ne.symm hback.2⟩

theorem pending_created {history : List (Change func)} {t u : Entry func} :
    Pending (history ++ [.created t]) u <-> u = t ∨ Pending history u := by
  constructor
  · intro h
    rcases h.before with ⟨hold, _⟩ | hnew
    · exact Or.inr hold
    · cases hnew
      exact Or.inl rfl
  · intro h
    rcases h with rfl | hold
    · exact ⟨history, [], rfl, List.not_mem_nil⟩
    · exact hold.append (by simp)

theorem pending_cancelled {history : List (Change func)} {id : Int}
    {u : Entry func} :
    Pending (history ++ [.cancelled id]) u <->
      Pending history u ∧ u.id ≠ id := by
  constructor
  · intro h
    rcases h.before with ⟨hold, hne⟩ | hnew
    · refine ⟨hold, ?_⟩
      intro hid
      exact hne (congrArg Change.cancelled hid.symm)
    · cases hnew
  · intro h
    apply h.1.append
    intro heq
    cases heq
    exact h.2 rfl

/-!
## One call
-/

structure Accounted (s : State func) (history : List (Change func)) :
    Prop where
  wellFormed : WellFormed s
  pending : forall t, t ∈ s.timers <-> Pending history t

theorem accounted_initial : Accounted (initial func) [] where
  wellFormed := initial_wellFormed
  pending := by
    intro t
    constructor
    · intro ht
      cases ht
    · intro h
      exact absurd h (not_pending_nil t)

theorem Accounted.create {s : State func} {history : List (Change func)}
    (h : Accounted s history) (w : World func) (f : func) (delay : Nat)
    (interval : Bool) :
    Accounted (create w s f delay interval)
      (history ++ [.created (newEntry w s f delay interval s.nextID)]) where
  wellFormed := create_wellFormed h.wellFormed f delay interval
  pending := by
    intro t
    rw [create_timers, mem_insertTimer, pending_created, h.pending]

theorem Accounted.cancel {s : State func} {history : List (Change func)}
    (h : Accounted s history) (w : World func) (id : Int) :
    Accounted (cancelTimer w s id) (history ++ [.cancelled id]) where
  wellFormed := cancelTimer_wellFormed h.wellFormed id
  pending := by
    intro t
    rw [cancelTimer_timers h.wellFormed, mem_withoutId, pending_cancelled,
      h.pending]

theorem Accounted.perform {s : State func} {history : List (Change func)}
    (h : Accounted s history) (w : World func) (r : Request func) :
    Accounted (perform w s r).1 (history ++ [(perform w s r).2]) := by
  cases r with
  | setTimeout f delay =>
      simp only [Timer.perform, setTimeout_eq]
      exact h.create w f delay false
  | intervalTimer f interval =>
      simp only [Timer.perform, intervalTimer_eq]
      exact h.create w f interval true
  | cancelTimer id => exact h.cancel w id

theorem withoutId_insertTimer {t : Entry func} {timers : List (Entry func)}
    (hfree : t.id ∉ timers.map Entry.id) :
    withoutId t.id (insertTimer t timers) = timers := by
  rw [insertTimer, List.orderedInsert_eq_take_drop, withoutId,
    List.filter_append, List.filter_cons_of_neg (by simp), ← List.filter_append,
    List.takeWhile_append_dropWhile]
  exact withoutId_of_not_mem hfree

theorem withoutId_create {s : State func} (h : WellFormed s) (w : World func)
    (f : func) (delay : Nat) (interval : Bool) :
    withoutId s.nextID (create w s f delay interval).timers =
      withoutId s.nextID s.timers := by
  have hfree : (newEntry w s f delay interval s.nextID).id ∉
      s.timers.map Entry.id :=
    h.nextID_free
  rw [create_timers, withoutId_of_not_mem h.nextID_free]
  exact withoutId_insertTimer hfree

theorem perform_others {s : State func} (h : WellFormed s) (w : World func)
    (r : Request func) :
    withoutId (perform w s r).2.named (perform w s r).1.timers =
      withoutId (perform w s r).2.named s.timers := by
  cases r with
  | setTimeout f delay =>
      simp only [perform, setTimeout_eq]
      exact withoutId_create h w f delay false
  | intervalTimer f interval =>
      simp only [perform, intervalTimer_eq]
      exact withoutId_create h w f interval true
  | cancelTimer id =>
      simp only [perform, cancelTimer_timers h, Change.named, withoutId,
        List.filter_filter, Bool.and_self]

/-!
## Whole runs
-/

theorem Accounted.performAll {s : State func} {history : List (Change func)}
    (h : Accounted s history) (w : World func)
    (requests : List (Request func)) :
    Accounted (performAll w requests s).1
      (history ++ (performAll w requests s).2) := by
  induction requests generalizing s history with
  | nil =>
      rw [Timer.performAll, List.append_nil]
      exact h
  | cons r rest ih =>
      have hrest := ih (h.perform w r)
      rw [List.append_assoc] at hrest
      exact hrest

/--
After any calls and with any clock the array is in order, its ids are distinct
and used up, it holds the timers that were created and not cancelled since, and
the next call leaves alone all but the timer it names.
-/
theorem timers_follow_history (w : World func)
    (requests : List (Request func)) :
    let (s, history) := performAll w requests (initial func)
    s.timers.Pairwise Before ∧
      (s.timers.map Entry.id).Nodup ∧
      (forall t, t ∈ s.timers -> t.id < s.nextID) ∧
      (forall t, t ∈ s.timers <-> Pending history t) ∧
      forall r : Request func,
        withoutId (perform w s r).2.named (perform w s r).1.timers =
          withoutId (perform w s r).2.named s.timers := by
  have h := accounted_initial.performAll w requests
  rw [List.nil_append] at h
  refine ⟨h.wellFormed.sorted, h.wellFormed.nodup, h.wellFormed.below,
    h.pending, ?_⟩
  exact perform_others h.wellFormed w

end Timer
end Fluxnode
