import Fluxnode.Timer.Cancellation

/-!
# Cancelling from inside a callback

The pass does what it should exactly when no callback that runs cancels its own
timer or one that already ran.  Otherwise the second loop looks up an id that
is gone and reads a field of undefined.
-/

namespace Fluxnode
namespace Timer

variable {func : Type _}

inductive Reachable (w : World func) : State func -> Prop where
  | start : Reachable w (initial func)
  | setTimeout {s : State func} (h : Reachable w s) (f : func) (delay : Nat) :
      Reachable w (setTimeout w s f delay).1
  | intervalTimer {s : State func} (h : Reachable w s) (f : func)
      (interval : Nat) : Reachable w (intervalTimer w s f interval).1
  | cancelTimer {s : State func} (h : Reachable w s) (id : Int) :
      Reachable w (cancelTimer w s id)

theorem reachable_wellFormed {w : World func} {s : State func}
    (h : Reachable w s) : WellFormed s := by
  induction h with
  | start => exact initial_wellFormed
  | setTimeout _ f delay ih =>
      rw [setTimeout_eq]
      exact create_wellFormed ih f delay false
  | intervalTimer _ f interval ih =>
      rw [intervalTimer_eq]
      exact create_wellFormed ih f interval true
  | cancelTimer _ id ih => exact cancelTimer_wellFormed ih id

def dueTimers (w : World func) (s : State func) : List (Entry func) :=
  s.timers.filter (fun t => decide (t.expire ≤ w.clock s.reads))

def laterTimers (w : World func) (s : State func) : List (Entry func) :=
  s.timers.filter (fun t => decide (w.clock s.reads < t.expire))

theorem mem_dueTimers {w : World func} {s : State func} {t : Entry func} :
    t ∈ dueTimers w s <-> t ∈ s.timers ∧ t.expire ≤ w.clock s.reads := by
  rw [dueTimers, List.mem_filter, decide_eq_true_iff]

theorem mem_laterTimers {w : World func} {s : State func} {t : Entry func} :
    t ∈ laterTimers w s <-> t ∈ s.timers ∧ w.clock s.reads < t.expire := by
  rw [laterTimers, List.mem_filter, decide_eq_true_iff]

def eventsOf (s s' : State func) : List Event :=
  s'.log.drop s.log.length

/--
What a pass from `s` to `s'` should have done.  A cancelled timer is gone and
did not run after its cancellation.  Of the others, one that was not due is as
it was, a due interval is re-armed from a reading of the clock in the pass, and
a due one-shot is gone.
-/
structure Safe (w : World func) (s s' : State func) : Prop where
  absent : forall id, Event.cancelled id ∈ eventsOf s s' ->
    id ∉ s'.timers.map Entry.id
  silent : (eventsOf s s').Pairwise NotAfterCancel
  nodup : (s'.timers.map Entry.id).Nodup
  known : s'.timers.map Entry.id ⊆ s.timers.map Entry.id
  later : forall t, t ∈ s.timers -> Event.cancelled t.id ∉ eventsOf s s' ->
    w.clock s.reads < t.expire -> t ∈ s'.timers
  interval : forall t, t ∈ s.timers -> Event.cancelled t.id ∉ eventsOf s s' ->
    t.expire ≤ w.clock s.reads -> t.interval = true ->
    exists k, s.reads ≤ k ∧ k < s'.reads ∧
      { t with expire := w.clock k + t.delay } ∈ s'.timers
  oneShot : forall t, t ∈ s.timers -> t.expire ≤ w.clock s.reads ->
    t.interval = false -> t.id ∉ s'.timers.map Entry.id

def PassSafe (w : World func) (s : State func) : Prop :=
  exists fuel s', onTimer w fuel s = .returned s' () ∧ Safe w s s'

/-!
## A cancelled timer that already ran
-/

theorem onTimerLoop_missing
    {w : World func} {ts : Int} {fuel i : Nat} {expired expired' : List Int}
    {s s' : State func} {id : Int}
    (honly : w.OnlyCancels) (hwf : WellFormed s)
    (hexpired : id ∈ expired) (hmissing : id ∉ s.timers.map Entry.id)
    (hloop : onTimerLoop w ts fuel i expired s = .returned s' expired') :
    id ∈ expired' ∧ id ∉ s'.timers.map Entry.id := by
  induction fuel generalizing i expired s with
  | zero => cases hloop
  | succ fuel ih =>
      by_cases hround : exists t, s.timers[i]? = some t ∧ t.expire ≤ ts
      · rcases hround with ⟨t, hat, hdue⟩
        rcases invoke_cancelled t honly hwf with
          ⟨s₁, hrun, hwf₁, htimers₁, _, _, _⟩
        have hexpired₁ : id ∈ expired ++ [t.id] :=
          List.mem_append_left _ hexpired
        have hmissing₁ : id ∉ s₁.timers.map Entry.id := by
          intro hmem
          rw [htimers₁] at hmem
          exact hmissing (((withoutIds_sublist _ _).map Entry.id).subset hmem)
        rcases onTimerLoop_round hat hdue hrun hloop with
          ⟨rfl, rfl, _⟩ | hmore
        · exact ⟨hexpired₁, hmissing₁⟩
        · exact ih hwf₁ hexpired₁ hmissing₁ hmore
      · rcases onTimerLoop_over hround hloop with ⟨rfl, rfl⟩
        exact ⟨hexpired, hmissing⟩

theorem onTimerLoop_cancel_wellFormed
    {w : World func} {ts : Int} {fuel i : Nat} {expired expired' : List Int}
    {s s' : State func}
    (honly : w.OnlyCancels) (hwf : WellFormed s)
    (hloop : onTimerLoop w ts fuel i expired s = .returned s' expired') :
    WellFormed s' := by
  induction fuel generalizing i expired s with
  | zero => cases hloop
  | succ fuel ih =>
      by_cases hround : exists t, s.timers[i]? = some t ∧ t.expire ≤ ts
      · rcases hround with ⟨t, hat, hdue⟩
        rcases invoke_cancelled t honly hwf with ⟨s₁, hrun, hwf₁, _⟩
        rcases onTimerLoop_round hat hdue hrun hloop with ⟨rfl, _⟩ | hmore
        · exact hwf₁
        · exact ih hwf₁ hmore
      · rcases onTimerLoop_over hround hloop with ⟨rfl, _⟩
        exact hwf

/-- The second loop returns only if it finds every expired id. -/
theorem rearmExpired_present
    {w : World func} {ids : List Int} {s s' : State func}
    (hwf : WellFormed s) (hreturned : rearmExpired w ids s = .returned s' ()) :
    forall id, id ∈ ids -> id ∈ s.timers.map Entry.id := by
  induction ids generalizing s with
  | nil =>
      intro id hid
      cases hid
  | cons first rest ih =>
      intro id hid
      rcases rearmExpired_cons hwf hreturned with ⟨s₁, hround, hrest⟩
      rcases List.mem_cons.mp hid with rfl | hid
      · exact hround.present
      · exact hround.ids (ih hround.wellFormed hrest id hid)

/-- A first loop that loses none of the expired ids cancelled only timers that
had not run. -/
theorem cancelsPending_of_present
    {w : World func} {ts : Int} {due later : List (Entry func)}
    (honly : w.OnlyCancels)
    (hdue : forall t, t ∈ due -> t.expire ≤ ts)
    {fuel k : Nat} {ran gone expired' : List Int} {s s' : State func}
    {front : List (Entry func)} (hcalls : s.calls = k)
    (hpos : Position s front (due ++ later) ran gone)
    (hloop : onTimerLoop w ts fuel front.length ran s = .returned s' expired')
    (hpresent : forall id, id ∈ expired' -> id ∈ s'.timers.map Entry.id) :
    CancelsPending w k ran gone due := by
  induction due generalizing fuel k ran gone s front with
  | nil => exact True.intro
  | cons t rest ih =>
      have hdue' : forall u, u ∈ rest -> u.expire ≤ ts := by
        intro u hu
        exact hdue u (List.mem_cons_of_mem t hu)
      by_cases hgone : t.id ∈ gone
      · rw [CancelsPending, if_pos hgone]
        exact ih hdue' hcalls (hpos.skip hgone) hloop
      · rw [CancelsPending, if_neg hgone]
        cases fuel with
        | zero => cases hloop
        | succ fuel =>
            rcases invoke_cancelled t honly hpos.wellFormed with
              ⟨s₁, hrun, hwf₁, htimers₁, _, hcalls₁, _⟩
            rw [hcalls] at htimers₁ hcalls₁
            have hmore := onTimerLoop_round (hpos.getElem? hgone)
              (hdue t List.mem_cons_self) hrun hloop
            have hfree : forall id, id ∈ cancelledIn w k t ->
                id ∉ ran ++ [t.id] := by
              intro id hid hran
              have hmissing : id ∉ s₁.timers.map Entry.id := by
                intro hmem
                rcases List.mem_map.mp hmem with ⟨u, hu, rfl⟩
                rw [htimers₁] at hu
                exact (mem_withoutIds.mp hu).2 hid
              rcases hmore with ⟨rfl, rfl, _⟩ | hmore
              · exact hmissing (hpresent id hran)
              · rcases onTimerLoop_missing honly hwf₁ hran hmissing hmore with
                  ⟨hexpired, hgone'⟩
                exact hgone' (hpresent id hexpired)
            constructor
            · exact hfree
            · have hpos₁ := hpos.next hgone hfree hwf₁ htimers₁
              rcases hmore with ⟨_, _, t₁, hat₁, hbreak⟩ | hmore
              · rw [hpos₁.getElem?_next] at hat₁
                cases hat₁
                exact absurd (hdue t List.mem_cons_self) (Int.not_le.mpr hbreak)
              · have hlength : (front ++ [t]).length = front.length + 1 := by
                  rw [List.length_append, List.length_singleton]
                rw [← hlength] at hmore
                exact ih hdue' hcalls₁ hpos₁ hmore

/-!
## The array after the pass
-/

theorem filter_due_append_filter_later
    (ts : Int) {timers : List (Entry func)}
    (hsorted : timers.Pairwise Before) :
    timers.filter (fun t => decide (t.expire ≤ ts)) ++
        timers.filter (fun t => decide (ts < t.expire)) = timers := by
  induction timers with
  | nil => rfl
  | cons t rest ih =>
      rcases List.pairwise_cons.mp hsorted with ⟨hfirst, hrest⟩
      rcases le_or_gt t.expire ts with hdue | hlater
      · have hnot : ¬ ts < t.expire := Int.not_lt.mpr hdue
        simp only [List.filter_cons, hdue, hnot, decide_true, decide_false,
          if_true, List.cons_append]
        exact congrArg (List.cons t) (ih hrest)
      · have hnone : rest.filter (fun u => decide (u.expire ≤ ts)) = [] := by
          apply List.filter_eq_nil_iff.mpr
          intro u hu hle
          have hbefore : t.expire ≤ u.expire := hfirst u hu
          have hle' := of_decide_eq_true hle
          lia
        have hall : rest.filter (fun u => decide (ts < u.expire)) = rest := by
          apply List.filter_eq_self.mpr
          intro u hu
          have hbefore : t.expire ≤ u.expire := hfirst u hu
          exact decide_eq_true (by lia)
        have hnot : ¬ t.expire ≤ ts := Int.not_le.mpr hlater
        simp only [List.filter_cons, hlater, hnot, decide_true, decide_false,
          if_true, hnone, hall]
        rfl

theorem dueTimers_append_laterTimers {w : World func} {s : State func}
    (hwf : WellFormed s) : dueTimers w s ++ laterTimers w s = s.timers :=
  filter_due_append_filter_later (w.clock s.reads) hwf.sorted

theorem startPosition {w : World func} {s : State func}
    (hwf : WellFormed s) :
    Position { s with reads := s.reads + 1 } []
      (dueTimers w s ++ laterTimers w s) [] [] where
  wellFormed := hwf.of_sublist (List.Sublist.refl _) rfl
  ran := rfl
  timers := by
    rw [dueTimers_append_laterTimers hwf, withoutIds_nil]
    rfl
  front_free := by
    intro t ht
    cases ht

theorem mem_rearmed
    {w : World func} {r : Nat} {done : List (Entry func)} {t : Entry func}
    (ht : t ∈ done) (hinterval : t.interval = true) :
    exists k, r ≤ k ∧ k < r + (rearmed w r done).length ∧
      { t with expire := w.clock k + t.delay } ∈ rearmed w r done := by
  induction done generalizing r with
  | nil => cases ht
  | cons u rest ih =>
      rcases List.mem_cons.mp ht with rfl | ht
      · rw [rearmed, if_pos hinterval, List.length_cons]
        exact ⟨r, Nat.le_refl r, by lia, List.mem_cons_self⟩
      · by_cases hu : u.interval = true
        · rcases ih (r := r + 1) ht with ⟨k, hlow, hhigh, hmem⟩
          rw [rearmed, if_pos hu, List.length_cons]
          exact ⟨k, by lia, by lia, List.mem_cons_of_mem _ hmem⟩
        · rw [rearmed, if_neg hu]
          exact ih ht

theorem of_mem_rearmed
    {w : World func} {r : Nat} {done : List (Entry func)} {u : Entry func}
    (hu : u ∈ rearmed w r done) :
    exists t, t ∈ done ∧ t.interval = true ∧ u.id = t.id := by
  induction done generalizing r with
  | nil => cases hu
  | cons t rest ih =>
      by_cases ht : t.interval = true
      · rw [rearmed, if_pos ht] at hu
        rcases List.mem_cons.mp hu with rfl | hu
        · exact ⟨t, List.mem_cons_self, ht, rfl⟩
        · rcases ih hu with ⟨v, hv, hinterval, hid⟩
          exact ⟨v, List.mem_cons_of_mem t hv, hinterval, hid⟩
      · rw [rearmed, if_neg ht] at hu
        rcases ih hu with ⟨v, hv, hinterval, hid⟩
        exact ⟨v, List.mem_cons_of_mem t hv, hinterval, hid⟩

/-!
## The pass
-/

theorem safe_of_walked
    {w : World func} {s s₁ s₂ : State func} {done : List (Entry func)}
    {gone : List Int} {events : List Event}
    (hwf : WellFormed s)
    (hwalked : Walked { s with reads := s.reads + 1 } s₁ [] (dueTimers w s)
      (laterTimers w s) done [] gone events)
    (hwf₂ : WellFormed s₂)
    (hperm : s₂.timers.Perm
      (rearmed w s₁.reads done ++ withoutIds gone (laterTimers w s)))
    (hreads : s₂.reads = s₁.reads + (rearmed w s₁.reads done).length)
    (hlog : s₂.log = s₁.log) :
    Safe w s (installTimer w s₂) := by
  have hevents : eventsOf s (installTimer w s₂) = events := by
    rw [eventsOf, installTimer_log, hlog, hwalked.log]
    exact List.drop_left
  have hgone : forall id, id ∈ gone <-> Event.cancelled id ∈ events := by
    intro id
    rw [hwalked.gone_iff]
    simp
  have hmem : forall t, t ∈ (installTimer w s₂).timers <->
      t ∈ rearmed w s₁.reads done ∨ t ∈ laterTimers w s ∧ t.id ∉ gone := by
    intro t
    rw [installTimer_timers, hperm.mem_iff, List.mem_append, mem_withoutIds]
  have hdone : forall t, t ∈ done ->
      t ∈ s.timers ∧ t.expire ≤ w.clock s.reads ∧ t.id ∉ gone := by
    intro t ht
    have hdue := mem_dueTimers.mp (hwalked.done_sublist.subset ht)
    exact ⟨hdue.1, hdue.2, hwalked.done_free t ht⟩
  refine ⟨?_, ?_, ?_, ?_, ?_, ?_, ?_⟩
  · intro id hid hmap
    rw [hevents, ← hgone] at hid
    rcases List.mem_map.mp hmap with ⟨u, hu, rfl⟩
    rcases (hmem u).mp hu with hu | ⟨_, hfree⟩
    · rcases of_mem_rearmed hu with ⟨t, ht, _, hsame⟩
      rw [hsame] at hid
      exact (hdone t ht).2.2 hid
    · exact hfree hid
  · rw [hevents]
    exact hwalked.silent
  · exact (installTimer_wellFormed hwf₂).nodup
  · intro id hid
    rcases List.mem_map.mp hid with ⟨u, hu, rfl⟩
    rcases (hmem u).mp hu with hu | ⟨hu, _⟩
    · rcases of_mem_rearmed hu with ⟨t, ht, _, hsame⟩
      rw [hsame]
      exact List.mem_map_of_mem (hdone t ht).1
    · exact List.mem_map_of_mem (mem_laterTimers.mp hu).1
  · intro t ht hkept hlate
    rw [hevents, ← hgone] at hkept
    have hlater : t ∈ laterTimers w s := mem_laterTimers.mpr ⟨ht, hlate⟩
    exact (hmem t).mpr (Or.inr ⟨hlater, hkept⟩)
  · intro t ht hkept hdue hinterval
    rw [hevents, ← hgone] at hkept
    rcases hwalked.due_done t (mem_dueTimers.mpr ⟨ht, hdue⟩) with hran | hcancelled
    · rcases mem_rearmed (w := w) (r := s₁.reads) hran hinterval with
        ⟨k, hlow, hhigh, hin⟩
      have hfirst : s.reads + 1 ≤ s₁.reads := hwalked.reads
      have hlast := installTimer_reads_le w s₂
      exact ⟨k, by lia, by lia, (hmem _).mpr (Or.inl hin)⟩
    · exact absurd hcancelled hkept
  · intro t ht hdue hinterval hmap
    rcases List.mem_map.mp hmap with ⟨u, hu, hid⟩
    rcases (hmem u).mp hu with hu | ⟨hu, _⟩
    · rcases of_mem_rearmed hu with ⟨v, hv, hv', hsame⟩
      have hsame' : v = t := eq_of_id_eq hwf (hdone v hv).1 ht (by lia)
      rw [hsame', hinterval] at hv'
      cases hv'
    · rcases mem_laterTimers.mp hu with ⟨hu, hlate⟩
      have hsame : u = t := eq_of_id_eq hwf hu ht hid
      rw [hsame] at hlate
      lia

theorem passSafe_of_cancelsPending
    {w : World func} {s : State func}
    (honly : w.OnlyCancels) (hwf : WellFormed s)
    (hpending : CancelsPending w s.calls [] [] (dueTimers w s)) :
    PassSafe w s := by
  have hdue : forall t, t ∈ dueTimers w s -> t.expire ≤ w.clock s.reads :=
    fun t ht => (mem_dueTimers.mp ht).2
  have hlater : forall t, t ∈ laterTimers w s ->
      w.clock s.reads < t.expire :=
    fun t ht => (mem_laterTimers.mp ht).2
  rcases onTimerLoop_walked (s := { s with reads := s.reads + 1 }) honly hdue
      hlater hpending rfl (startPosition hwf) with
    ⟨fuel, s₁, done, gone, events, hloop, hwalked⟩
  have hperm : s₁.timers.Perm
      (done ++ withoutIds gone (laterTimers w s)) := by
    rw [hwalked.timers]
    exact List.Perm.refl _
  rcases rearmExpired_perm hwalked.wellFormed hperm with
    ⟨s₂, hrearm, hwf₂, hperm₂, hreads₂, hlog₂⟩
  refine ⟨fuel, installTimer w s₂, ?_, ?_⟩
  · exact onTimer_returned_iff.mpr ⟨s₁, s₂, _, hloop, hrearm, rfl⟩
  · exact safe_of_walked hwf hwalked hwf₂ hperm₂ hreads₂ hlog₂

theorem cancelsPending_of_returned
    {w : World func} {fuel : Nat} {s s' : State func}
    (honly : w.OnlyCancels) (hwf : WellFormed s)
    (hreturned : onTimer w fuel s = .returned s' ()) :
    CancelsPending w s.calls [] [] (dueTimers w s) := by
  have hdue : forall t, t ∈ dueTimers w s -> t.expire ≤ w.clock s.reads :=
    fun t ht => (mem_dueTimers.mp ht).2
  rcases onTimer_returned_iff.mp hreturned with
    ⟨s₁, s₂, expired, hloop, hrearm, _⟩
  have hpos := startPosition (w := w) hwf
  have hwf₁ := onTimerLoop_cancel_wellFormed honly hpos.wellFormed hloop
  exact cancelsPending_of_present (s := { s with reads := s.reads + 1 }) honly
    hdue rfl hpos hloop (rearmExpired_present hwf₁ hrearm)

/-- On a list that the calls of an application reach, the pass is safe exactly
when the callbacks that run cancel only timers that have not run. -/
theorem passSafe_iff_cancelsPending
    {w : World func} {s : State func}
    (honly : w.OnlyCancels) (hreach : Reachable w s) :
    PassSafe w s <-> CancelsPending w s.calls [] [] (dueTimers w s) := by
  have hwf := reachable_wellFormed hreach
  constructor
  · intro hsafe
    rcases hsafe with ⟨fuel, s', hreturned, _⟩
    exact cancelsPending_of_returned honly hwf hreturned
  · intro hpending
    exact passSafe_of_cancelsPending honly hwf hpending

/-!
## An interval and a timeout

Both are due when `OnTimer` starts.  The callback of the interval cancels one
timer.
-/

/-- A clock that advances ten milliseconds between readings, and callbacks that
cancel one id. -/
def cancelWorld (id : Int) : World Unit where
  clock k := 10 * k
  body _ _ := [.cancelTimer id]

def intervalAndTimeout (id : Int) : State Unit :=
  let s := (intervalTimer (cancelWorld id) (initial Unit) () 10).1
  (setTimeout (cancelWorld id) s () 10).1

theorem cancelWorld_onlyCancels (id : Int) :
    (cancelWorld id).OnlyCancels := by
  intro k f c hc
  rw [List.mem_singleton.mp hc]
  rfl

theorem intervalAndTimeout_reachable (id : Int) :
    Reachable (cancelWorld id) (intervalAndTimeout id) :=
  .setTimeout (.intervalTimer .start () 10) () 10

/-- The interval cancels the timeout, which is due as well. -/
theorem passSafe_cancelling_timeout :
    PassSafe (cancelWorld 2) (intervalAndTimeout 2) := by
  apply (passSafe_iff_cancelsPending (cancelWorld_onlyCancels 2)
    (intervalAndTimeout_reachable 2)).mpr
  have hdue : dueTimers (cancelWorld 2) (intervalAndTimeout 2) =
      [⟨(), 10, 10, 1, true⟩, ⟨(), 30, 10, 2, false⟩] := rfl
  rw [hdue]
  refine ⟨?_, True.intro⟩
  intro id hid
  rw [show id = 2 from List.mem_singleton.mp hid]
  decide

/-- The interval cancels itself: `OnTimer` throws. -/
theorem self_cancelling_interval_throws :
    (cancelWorld 1).OnlyCancels ∧
      Reachable (cancelWorld 1) (intervalAndTimeout 1) ∧
      (exists s', onTimer (cancelWorld 1) 2 (intervalAndTimeout 1) =
        .threw s') ∧
      ¬ PassSafe (cancelWorld 1) (intervalAndTimeout 1) := by
  refine ⟨cancelWorld_onlyCancels 1, intervalAndTimeout_reachable 1,
    ⟨_, rfl⟩, ?_⟩
  intro hsafe
  rcases hsafe with ⟨fuel, s', hreturned, _⟩
  have hpending := cancelsPending_of_returned (cancelWorld_onlyCancels 1)
    (reachable_wellFormed (intervalAndTimeout_reachable 1)) hreturned
  have hdue : dueTimers (cancelWorld 1) (intervalAndTimeout 1) =
      [⟨(), 10, 10, 1, true⟩, ⟨(), 30, 10, 2, false⟩] := rfl
  rw [hdue] at hpending
  exact hpending.1 1 List.mem_cons_self List.mem_cons_self

end Timer
end Fluxnode
