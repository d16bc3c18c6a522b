import Fluxnode.Timer.CancelSafety
import Fluxnode.Timer.Overlooked
import Mathlib.Data.Int.ConditionallyCompleteOrder
import Mathlib.Order.ConditionallyCompleteLattice.Basic

/-!
# The timers that a pass runs

When the clock does not run backwards and every new timer has a delay, a timer
that a callback creates expires after the start of the pass.  It lands behind
every timer that is due, so the pass runs the timers due at its start, and no
others.
-/

namespace Fluxnode
namespace Timer

variable {func : Type _}

def Call.Waits : Call func -> Prop
  | .setTimeout _ delay => 1 ≤ delay
  | .intervalTimer _ interval => 1 ≤ interval
  | _ => True

def World.Waits (w : World func) : Prop :=
  forall k f c, c ∈ w.body k f -> Call.Waits c

/-- The timers created by the callbacks of several timers, run one after the
other from the given clock reading, id, and number of callbacks on. -/
def createdByAll (w : World func) :
    Nat -> Int -> Nat -> List (Entry func) -> List (Entry func)
  | _, _, _, [] => []
  | r, id, k, t :: rest =>
      let new := createdBy w r id (w.body k t.func)
      new ++ createdByAll w (r + 2 * new.length) (id + new.length) (k + 1) rest

def createdInPass (w : World func) (s : State func) : List (Entry func) :=
  createdByAll w (s.reads + 1) s.nextID s.calls (dueTimers w s)

/-!
## The pass
-/

theorem insertAll_append (new more timers : List (Entry func)) :
    insertAll (new ++ more) timers = insertAll more (insertAll new timers) := by
  induction new generalizing timers with
  | nil => rfl
  | cons t rest ih => exact ih (insertTimer t timers)

theorem insertAll_perm (new timers : List (Entry func)) :
    (insertAll new timers).Perm (new ++ timers) := by
  induction new generalizing timers with
  | nil => exact List.Perm.refl _
  | cons t rest ih =>
      have hinsert := (insertTimer_perm t timers).append_left rest
      exact (ih _).trans (hinsert.trans List.perm_middle)

theorem lt_expire_of_mem_createdBy
    {w : World func} {r : Nat} {id : Int} {calls : List (Call func)}
    {u : Entry func} (hclock : Monotone w.clock)
    (hwaits : forall c, c ∈ calls -> Call.Waits c)
    (hu : u ∈ createdBy w r id calls) : w.clock r < u.expire := by
  induction calls generalizing r id with
  | nil => cases hu
  | cons c rest ih =>
      have hrest : forall c', c' ∈ rest -> Call.Waits c' := by
        intro c' hc'
        exact hwaits c' (List.mem_cons_of_mem c hc')
      have hlater : w.clock r ≤ w.clock (r + 2) :=
        hclock (Nat.le_add_right r 2)
      have hwait := hwaits c List.mem_cons_self
      cases c with
      | setTimeout f delay =>
          have hdelay : 1 ≤ delay := hwait
          rcases List.mem_cons.mp hu with rfl | hu
          · dsimp only
            lia
          · exact Int.lt_of_le_of_lt hlater (ih hrest hu)
      | intervalTimer f interval =>
          have hdelay : 1 ≤ interval := hwait
          rcases List.mem_cons.mp hu with rfl | hu
          · dsimp only
            lia
          · exact Int.lt_of_le_of_lt hlater (ih hrest hu)
      | cancelTimer id' => exact ih hrest hu
      | throws => exact ih hrest hu

/-- A pass over due timers with others behind them runs just these; what their
callbacks create is inserted among the others. -/
theorem pass_of_due
    {w : World func} {ts : Int} {due later : List (Entry func)}
    (hclock : Monotone w.clock) (hwaits : w.Waits)
    (hdue : forall t, t ∈ due -> t.expire ≤ ts)
    (hlater : forall t, t ∈ later -> ts < t.expire)
    {r : Nat} (hr : ts ≤ w.clock r) (id : Int) (k : Nat) :
    Pass w ts r id k (due ++ later) due
      (insertAll (createdByAll w r id k due) later)
      (r + 2 * (createdByAll w r id k due).length) := by
  induction due generalizing r id k later with
  | nil =>
      apply Pass.stop
      intro t ht
      exact hlater t (List.mem_of_mem_head? ht)
  | cons t rest ih =>
      have hfirst : t.expire ≤ ts := hdue t List.mem_cons_self
      have hrest : forall u, u ∈ rest -> u.expire ≤ ts := by
        intro u hu
        exact hdue u (List.mem_cons_of_mem t hu)
      let new := createdBy w r id (w.body k t.func)
      have hnew : forall u, u ∈ new -> ts < u.expire := by
        intro u hu
        have hexpire := lt_expire_of_mem_createdBy hclock (hwaits k t.func) hu
        exact Int.lt_of_le_of_lt hr hexpire
      have hinsert : insertAll new (rest ++ later) =
          rest ++ insertAll new later := by
        apply insertAll_append_of_lt
        intro u hu v hv
        exact Int.lt_of_le_of_lt (hrest v hv) (hnew u hu)
      have hlater' : forall u, u ∈ insertAll new later -> ts < u.expire := by
        intro u hu
        rcases List.mem_append.mp ((insertAll_perm new later).subset hu) with
          hu | hu
        · exact hnew u hu
        · exact hlater u hu
      have hr' : ts ≤ w.clock (r + 2 * new.length) :=
        Int.le_trans hr (hclock (Nat.le_add_right r _))
      have hpass := ih hrest hlater' hr' (id + new.length) (k + 1)
      rw [← hinsert, ← insertAll_append] at hpass
      have hreads : r + 2 * (createdByAll w r id k (t :: rest)).length =
          r + 2 * new.length +
            2 * (createdByAll w (r + 2 * new.length) (id + new.length) (k + 1)
              rest).length := by
        rw [createdByAll, List.length_append]
        lia
      rw [hreads]
      apply Pass.run hfirst rfl _ hpass
      intro u hu
      exact Int.lt_of_le_of_lt hfirst (hnew u hu)

/-!
## The whole call
-/

/--
What a call of `OnTimer` does that runs exactly the due timers: it runs each of
them once in the order of the array, and leaves an ordered array with distinct
ids of the timers that were not due, those created on the way, and the due
intervals, re-armed under their ids.
-/
structure ExactDispatch (w : World func) (s s' : State func) : Prop where
  ran : s'.log =
    s.log ++ (dueTimers w s).map (fun t => Event.ran t.id)
  wellFormed : WellFormed s'
  timers : s'.timers.Perm
    (rearmed w (s.reads + 1 + 2 * (createdInPass w s).length) (dueTimers w s) ++
      (createdInPass w s ++ laterTimers w s))
  timeoutsGone : forall t, t ∈ dueTimers w s -> t.interval = false ->
    t.id ∉ s'.timers.map Entry.id

theorem le_id_of_mem_createdByAll
    {w : World func} {r : Nat} {id : Int} {k : Nat}
    {timers : List (Entry func)} {u : Entry func}
    (hu : u ∈ createdByAll w r id k timers) : id ≤ u.id := by
  induction timers generalizing r id k with
  | nil => cases hu
  | cons t rest ih =>
      rcases List.mem_append.mp hu with hu | hu
      · exact le_id_of_mem_createdBy hu
      · have hle := ih hu
        lia

theorem id_not_mem_left
    {w : World func} {s : State func} (hwf : WellFormed s) {r : Nat}
    {t : Entry func} (ht : t ∈ dueTimers w s) (htimeout : t.interval = false) :
    t.id ∉ (rearmed w r (dueTimers w s) ++
      (createdInPass w s ++ laterTimers w s)).map Entry.id := by
  rcases mem_dueTimers.mp ht with ⟨htimers, hdue⟩
  intro hmem
  rcases List.mem_map.mp hmem with ⟨u, hu, hid⟩
  rcases List.mem_append.mp hu with hu | hu
  · rcases of_mem_rearmed hu with ⟨v, hv, hinterval, hsame⟩
    have heq := eq_of_id_eq hwf htimers (mem_dueTimers.mp hv).1
      (hid.symm.trans hsame)
    rw [heq, hinterval] at htimeout
    cases htimeout
  · rcases List.mem_append.mp hu with hu | hu
    · have hnew := le_id_of_mem_createdByAll hu
      have hold := hwf.below t htimers
      lia
    · rcases mem_laterTimers.mp hu with ⟨hutimers, hlater⟩
      rw [eq_of_id_eq hwf hutimers htimers hid] at hlater
      lia

/-- `OnTimer` runs exactly the timers that are due when it starts. -/
theorem onTimer_exactDispatch
    {w : World func} {s : State func}
    (hclock : Monotone w.clock) (hcreates : w.OnlyCreates)
    (hwaits : w.Waits) (hwf : WellFormed s) :
    exists s',
      (forall fuel, (dueTimers w s).length < fuel ->
        onTimer w fuel s = .returned s' ()) ∧
      ExactDispatch w s s' := by
  have hdue : forall t, t ∈ dueTimers w s -> t.expire ≤ w.clock s.reads := by
    intro t ht
    exact (mem_dueTimers.mp ht).2
  have hlater : forall t, t ∈ laterTimers w s ->
      w.clock s.reads < t.expire := by
    intro t ht
    exact (mem_laterTimers.mp ht).2
  have hpass := pass_of_due hclock hwaits hdue hlater
    (hclock (Nat.le_succ s.reads)) s.nextID s.calls
  rw [dueTimers_append_laterTimers hwf] at hpass
  rcases onTimer_pass hcreates hwf hpass with
    ⟨s₁, hreturned, hwf₁, hperm, _, hlog⟩
  have hperm' := hperm.trans ((insertAll_perm _ _).append_left _)
  exists installTimer w s₁
  constructor
  · intro fuel hfuel
    exact onTimer_mono hfuel hreturned
  · exact {
      ran := by rw [installTimer_log, hlog]
      wellFormed := installTimer_wellFormed hwf₁
      timers := by rw [installTimer_timers]; exact hperm'
      timeoutsGone := by
        intro t ht htimeout hmem
        rw [installTimer_timers] at hmem
        exact id_not_mem_left hwf ht htimeout
          ((hperm'.map Entry.id).subset hmem) }

def twoDueOneLater : State Bool where
  timers := [⟨true, 0, 10, 1, true⟩, ⟨false, 5, 5, 2, false⟩,
    ⟨false, 100, 95, 3, false⟩]
  nextID := 4
  wakeUpTimeMS := 1
  reads := 5
  calls := 0
  log := []

def creatingInterval : World Bool where
  clock r := r
  body _ f := if f then [.setTimeout false 7] else []

theorem onTimer_exactDispatch_interval :
    exists s',
      ((forall fuel, 2 < fuel ->
          onTimer creatingInterval fuel twoDueOneLater =
            .returned s' ()) ∧
        ExactDispatch creatingInterval twoDueOneLater s') ∧
      s'.log = [.ran 1, .ran 2] ∧
      s'.timers.Perm [⟨true, 18, 10, 1, true⟩, ⟨false, 13, 7, 4, false⟩,
        ⟨false, 100, 95, 3, false⟩] := by
  have hwf : WellFormed twoDueOneLater :=
    { sorted := by decide
      nodup := by decide
      pos := by decide
      below := by decide
      next_pos := by decide }
  have hcreates : creatingInterval.OnlyCreates := by
    intro k f
    cases f
    · intro c hc
      cases hc
    · intro c hc
      rw [List.mem_singleton.mp hc]
      rfl
  have hwaits : creatingInterval.Waits := by
    intro k f
    cases f
    · intro c hc
      cases hc
    · intro c hc
      rw [List.mem_singleton.mp hc]
      exact Nat.le_of_ble_eq_true rfl
  rcases onTimer_exactDispatch (fun _ _ => Int.ofNat_le.mpr) hcreates hwaits
      hwf with ⟨s', hreturned, hexact⟩
  exists s'
  constructor
  · exact ⟨hreturned, hexact⟩
  · exact ⟨hexact.ran, hexact.timers⟩

end Timer
end Fluxnode
