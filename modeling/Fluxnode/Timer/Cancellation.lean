import Fluxnode.Timer.Dispatch

/-!
# Callbacks that cancel timers

A callback that cancels a timer which has not run yet only takes it out of the
part of the array that the loop has not reached.  A callback that cancels a
timer which already ran, or its own, leaves an id without a timer among the
expired ones.
-/

namespace Fluxnode
namespace Timer

variable {func : Type _}

def Call.cancels : Call func -> Option Int
  | .cancelTimer id => some id
  | _ => none

/-- Callbacks that return and do nothing to timers but cancel them. -/
def World.OnlyCancels (w : World func) : Prop :=
  forall k f c, c ∈ w.body k f -> (Call.cancels c).isSome = true

def cancelledBy (calls : List (Call func)) : List Int :=
  calls.filterMap Call.cancels

def withoutIds (ids : List Int) (timers : List (Entry func)) :
    List (Entry func) :=
  timers.filter (fun t => decide (t.id ∉ ids))

/-!
## Removing several ids
-/

theorem mem_withoutIds {ids : List Int} {timers : List (Entry func)}
    {t : Entry func} :
    t ∈ withoutIds ids timers <-> t ∈ timers ∧ t.id ∉ ids := by
  simp [withoutIds]

theorem withoutIds_sublist (ids : List Int) (timers : List (Entry func)) :
    (withoutIds ids timers).Sublist timers :=
  List.filter_sublist

theorem withoutIds_nil (timers : List (Entry func)) :
    withoutIds [] timers = timers := by
  simp [withoutIds]

theorem withoutIds_append (ids : List Int) (front back : List (Entry func)) :
    withoutIds ids (front ++ back) =
      withoutIds ids front ++ withoutIds ids back :=
  List.filter_append ..

theorem withoutIds_cons_of_mem {ids : List Int} {t : Entry func}
    {timers : List (Entry func)} (h : t.id ∈ ids) :
    withoutIds ids (t :: timers) = withoutIds ids timers := by
  simp [withoutIds, h]

theorem withoutIds_cons_of_not_mem {ids : List Int} {t : Entry func}
    {timers : List (Entry func)} (h : t.id ∉ ids) :
    withoutIds ids (t :: timers) = t :: withoutIds ids timers := by
  simp [withoutIds, h]

theorem withoutIds_eq_self {ids : List Int} {timers : List (Entry func)}
    (h : forall t, t ∈ timers -> t.id ∉ ids) :
    withoutIds ids timers = timers := by
  apply List.filter_eq_self.mpr
  intro t ht
  exact decide_eq_true (h t ht)

theorem withoutIds_withoutIds (more ids : List Int)
    (timers : List (Entry func)) :
    withoutIds more (withoutIds ids timers) =
      withoutIds (ids ++ more) timers := by
  simp [withoutIds, List.filter_filter, not_or, and_comm]

theorem withoutIds_withoutId (id : Int) (ids : List Int)
    (timers : List (Entry func)) :
    withoutIds ids (withoutId id timers) = withoutIds (id :: ids) timers := by
  simp only [withoutIds, withoutId, List.filter_filter, List.mem_cons, not_or]
  apply List.filter_congr
  intro t _
  by_cases h : t.id = id <;> simp [h]

/-!
## Running a callback
-/

structure Cancelled (s s' : State func) (ids : List Int) : Prop where
  wellFormed : WellFormed s'
  timers : s'.timers = withoutIds ids s.timers
  reads : s.reads ≤ s'.reads
  calls : s'.calls = s.calls
  log : s'.log = s.log ++ ids.map Event.cancelled

theorem installTimer_reads_le (w : World func) (s : State func) :
    s.reads ≤ (installTimer w s).reads := by
  cases htimers : s.timers with
  | nil =>
      rw [installTimer, htimers]
      exact Nat.le_refl _
  | cons t rest =>
      rw [installTimer_reads_of_ne_nil (by
        rw [htimers]
        exact List.cons_ne_nil t rest)]
      exact Nat.le_succ _

theorem cancelTimer_reads_le {w : World func} {s : State func}
    (hwf : WellFormed s) (id : Int) :
    s.reads ≤ (cancelTimer w s id).reads := by
  rw [cancelTimer_eq hwf]
  exact installTimer_reads_le w
    { s with
      timers := withoutId id s.timers
      log := s.log ++ [.cancelled id] }

theorem runCalls_cancelled
    {w : World func} {calls : List (Call func)} {s : State func}
    (honly : forall c, c ∈ calls -> (Call.cancels c).isSome = true)
    (hwf : WellFormed s) :
    exists s', runCalls w calls s = .returned s' () ∧
      Cancelled s s' (cancelledBy calls) := by
  induction calls generalizing s with
  | nil =>
      refine ⟨s, rfl, hwf, ?_, Nat.le_refl _, rfl, ?_⟩
      · exact (withoutIds_nil s.timers).symm
      · exact (List.append_nil _).symm
  | cons c rest ih =>
      have hrest : forall c', c' ∈ rest -> (Call.cancels c').isSome = true := by
        intro c' hc'
        exact honly c' (List.mem_cons_of_mem c hc')
      cases c with
      | cancelTimer id =>
          have hwf₁ := cancelTimer_wellFormed (w := w) hwf id
          rcases ih hrest hwf₁ with ⟨s', hrun, hmore⟩
          refine ⟨s', hrun, hmore.wellFormed, ?_, ?_, ?_, ?_⟩
          · rw [hmore.timers, cancelTimer_timers hwf, withoutIds_withoutId]
            rfl
          · exact Nat.le_trans (cancelTimer_reads_le hwf id) hmore.reads
          · exact hmore.calls.trans (cancelTimer_calls hwf id)
          · rw [hmore.log, cancelTimer_log hwf, List.append_assoc]
            rfl
      | setTimeout f delay => cases honly _ List.mem_cons_self
      | intervalTimer f interval => cases honly _ List.mem_cons_self
      | throws => cases honly _ List.mem_cons_self

def cancelledIn (w : World func) (k : Nat) (t : Entry func) : List Int :=
  cancelledBy (w.body k t.func)

theorem invoke_cancelled
    {w : World func} {s : State func} (t : Entry func)
    (honly : w.OnlyCancels) (hwf : WellFormed s) :
    exists s', invoke w t s = .returned s' () ∧
      WellFormed s' ∧
      s'.timers = withoutIds (cancelledIn w s.calls t) s.timers ∧
      s.reads ≤ s'.reads ∧ s'.calls = s.calls + 1 ∧
      s'.log = s.log ++ .ran t.id ::
        (cancelledIn w s.calls t).map Event.cancelled := by
  have hwf₁ : WellFormed
      { s with calls := s.calls + 1, log := s.log ++ [.ran t.id] } :=
    hwf.of_sublist (List.Sublist.refl _) rfl
  rcases runCalls_cancelled (w := w) (honly s.calls t.func) hwf₁ with
    ⟨s', hrun, hdone⟩
  refine ⟨s', hrun, hdone.wellFormed, hdone.timers, hdone.reads, hdone.calls, ?_⟩
  rw [hdone.log, List.append_assoc]
  rfl

/-!
## A pass whose callbacks cancel only what has not run
-/

/--
Over the due timers in order, from the `k`-th callback on, with the ids that
ran and the ids that were cancelled so far: no callback that runs cancels its
own timer or one that already ran.
-/
def CancelsPending (w : World func) :
    Nat -> List Int -> List Int -> List (Entry func) -> Prop
  | _, _, _, [] => True
  | k, ran, gone, t :: rest =>
      if t.id ∈ gone then
        CancelsPending w k ran gone rest
      else
        (forall id, id ∈ cancelledIn w k t -> id ∉ ran ++ [t.id]) ∧
          CancelsPending w (k + 1) (ran ++ [t.id]) (gone ++ cancelledIn w k t)
            rest

/-- The loop is behind `front`, which ran, and the rest of the array is what is
left of `back`. -/
structure Position (s : State func) (front back : List (Entry func))
    (ran gone : List Int) : Prop where
  wellFormed : WellFormed s
  ran : ran = front.map Entry.id
  timers : s.timers = front ++ withoutIds gone back
  front_free : forall t, t ∈ front -> t.id ∉ gone

theorem Position.skip
    {s : State func} {front back : List (Entry func)} {ran gone : List Int}
    {t : Entry func}
    (h : Position s front (t :: back) ran gone) (ht : t.id ∈ gone) :
    Position s front back ran gone where
  wellFormed := h.wellFormed
  ran := h.ran
  timers := by rw [h.timers, withoutIds_cons_of_mem ht]
  front_free := h.front_free

theorem Position.getElem?
    {s : State func} {front back : List (Entry func)} {ran gone : List Int}
    {t : Entry func}
    (h : Position s front (t :: back) ran gone) (ht : t.id ∉ gone) :
    s.timers[front.length]? = some t := by
  rw [h.timers, withoutIds_cons_of_not_mem ht]
  simp

theorem Position.next
    {s s₁ : State func} {front back : List (Entry func)}
    {ran gone ids : List Int} {t : Entry func}
    (h : Position s front (t :: back) ran gone) (ht : t.id ∉ gone)
    (hids : forall id, id ∈ ids -> id ∉ ran ++ [t.id])
    (hwf₁ : WellFormed s₁) (htimers₁ : s₁.timers = withoutIds ids s.timers) :
    Position s₁ (front ++ [t]) back (ran ++ [t.id]) (gone ++ ids) := by
  have hran : ran ++ [t.id] = (front ++ [t]).map Entry.id := by
    rw [h.ran, List.map_append]
    rfl
  have hfree : forall u, u ∈ front ++ [t] -> u.id ∉ ids := by
    intro u hu hid
    apply hids u.id hid
    rw [hran]
    exact List.mem_map_of_mem hu
  refine ⟨hwf₁, hran, ?_, ?_⟩
  · have hcons : front ++ t :: withoutIds gone back =
        (front ++ [t]) ++ withoutIds gone back := by
      rw [List.append_assoc]
      rfl
    rw [htimers₁, h.timers, withoutIds_cons_of_not_mem ht, hcons,
      withoutIds_append, withoutIds_eq_self hfree, withoutIds_withoutIds]
  · intro u hu hid
    rcases List.mem_append.mp hid with hid | hid
    · rcases List.mem_append.mp hu with hu | hu
      · exact h.front_free u hu hid
      · rw [List.mem_singleton.mp hu] at hid
        exact ht hid
    · exact hfree u hu hid

theorem Position.getElem?_next
    {s : State func} {front back : List (Entry func)} {ran gone : List Int}
    {t : Entry func} (h : Position s (front ++ [t]) back ran gone) :
    s.timers[front.length]? = some t := by
  rw [h.timers]
  simp

def NotAfterCancel (earlier later : Event) : Prop :=
  forall id, earlier = .cancelled id -> later ≠ .ran id

structure Walked (s s' : State func) (front due later done : List (Entry func))
    (gone gone' : List Int) (events : List Event) : Prop where
  wellFormed : WellFormed s'
  timers : s'.timers = front ++ done ++ withoutIds gone' later
  reads : s.reads ≤ s'.reads
  log : s'.log = s.log ++ events
  done_sublist : done.Sublist due
  due_done : forall t, t ∈ due -> t ∈ done ∨ t.id ∈ gone'
  done_free : forall t, t ∈ front ++ done -> t.id ∉ gone'
  gone_iff : forall id, id ∈ gone' <-> id ∈ gone ∨ Event.cancelled id ∈ events
  gone_silent : forall id, id ∈ gone -> Event.ran id ∉ events
  silent : events.Pairwise NotAfterCancel

theorem walked_nil
    {s : State func} {front later : List (Entry func)} {ran gone : List Int}
    (h : Position s front later ran gone) :
    Walked s s front [] later [] gone gone [] where
  wellFormed := h.wellFormed
  timers := by rw [h.timers, List.append_nil]
  reads := Nat.le_refl _
  log := (List.append_nil _).symm
  done_sublist := List.Sublist.refl _
  due_done := by
    intro t ht
    cases ht
  done_free := by
    rw [List.append_nil]
    exact h.front_free
  gone_iff := by
    intro id
    simp
  gone_silent := by
    intro id _ hran
    cases hran
  silent := List.Pairwise.nil

theorem Walked.skip
    {s s' : State func} {front rest later done : List (Entry func)}
    {gone gone' : List Int} {events : List Event} {t : Entry func}
    (h : Walked s s' front rest later done gone gone' events)
    (ht : t.id ∈ gone) :
    Walked s s' front (t :: rest) later done gone gone' events where
  wellFormed := h.wellFormed
  timers := h.timers
  reads := h.reads
  log := h.log
  done_sublist := h.done_sublist.cons t
  due_done := by
    intro u hu
    rcases List.mem_cons.mp hu with rfl | hu
    · exact Or.inr ((h.gone_iff u.id).mpr (Or.inl ht))
    · exact h.due_done u hu
  done_free := h.done_free
  gone_iff := h.gone_iff
  gone_silent := h.gone_silent
  silent := h.silent

theorem Walked.run
    {s s₁ s' : State func} {front rest later done : List (Entry func)}
    {gone gone' ids : List Int} {events : List Event} {t : Entry func}
    (h : Walked s₁ s' (front ++ [t]) rest later done (gone ++ ids) gone' events)
    (ht : t.id ∉ gone) (hreads : s.reads ≤ s₁.reads)
    (hlog : s₁.log = s.log ++ .ran t.id :: ids.map Event.cancelled) :
    Walked s s' front (t :: rest) later (t :: done) gone gone'
      (.ran t.id :: ids.map Event.cancelled ++ events) where
  wellFormed := h.wellFormed
  timers := by
    rw [h.timers, List.append_assoc front]
    rfl
  reads := Nat.le_trans hreads h.reads
  log := by rw [h.log, hlog, List.append_assoc]
  done_sublist := h.done_sublist.cons_cons t
  due_done := by
    intro u hu
    rcases List.mem_cons.mp hu with rfl | hu
    · exact Or.inl List.mem_cons_self
    · rcases h.due_done u hu with hdone | hgone
      · exact Or.inl (List.mem_cons_of_mem t hdone)
      · exact Or.inr hgone
  done_free := by
    intro u hu
    apply h.done_free u
    rw [List.append_assoc]
    exact hu
  gone_iff := by
    intro id
    rw [h.gone_iff]
    simp [or_assoc]
  gone_silent := by
    intro id hid hran
    rcases List.mem_append.mp hran with hran | hran
    · rcases List.mem_cons.mp hran with hran | hran
      · cases hran
        exact ht hid
      · rcases List.mem_map.mp hran with ⟨id', _, hne⟩
        cases hne
    · exact h.gone_silent id (List.mem_append_left ids hid) hran
  silent := by
    apply List.pairwise_append.mpr
    refine ⟨?_, h.silent, ?_⟩
    · apply List.pairwise_cons.mpr
      constructor
      · intro e _ id hcancelled
        cases hcancelled
      · apply List.pairwise_map.mpr
        apply List.pairwise_of_forall
        intro a b id _ hran
        cases hran
    · intro a ha b hb id hcancelled hran
      rw [hcancelled] at ha
      rw [hran] at hb
      have hid : id ∈ ids := by
        rcases List.mem_cons.mp ha with ha | ha
        · cases ha
        · rcases List.mem_map.mp ha with ⟨id', hid', heq⟩
          cases heq
          exact hid'
      exact h.gone_silent id (List.mem_append_right gone hid) hb

/-- The first loop over due timers whose callbacks cancel only what has not
run yet. -/
theorem onTimerLoop_walked
    {w : World func} {ts : Int} {due later : List (Entry func)}
    (honly : w.OnlyCancels)
    (hdue : forall t, t ∈ due -> t.expire ≤ ts)
    (hlater : forall t, t ∈ later -> ts < t.expire)
    {k : Nat} {ran gone : List Int} {s : State func}
    {front : List (Entry func)}
    (hpending : CancelsPending w k ran gone due) (hcalls : s.calls = k)
    (hpos : Position s front (due ++ later) ran gone) :
    exists fuel s' done gone' events,
      onTimerLoop w ts fuel front.length ran s =
          .returned s' (ran ++ done.map Entry.id) ∧
        Walked s s' front due later done gone gone' events := by
  induction due generalizing k ran gone s front with
  | nil =>
      refine ⟨1, s, [], gone, [], ?_, walked_nil hpos⟩
      rw [List.map_nil, List.append_nil]
      apply onTimerLoop_stop
      intro t ht
      rw [hpos.timers, List.getElem?_append_right (Nat.le_refl _)] at ht
      exact hlater t (mem_withoutIds.mp (List.mem_of_getElem? ht)).1
  | cons t rest ih =>
      have hdue' : forall u, u ∈ rest -> u.expire ≤ ts := by
        intro u hu
        exact hdue u (List.mem_cons_of_mem t hu)
      by_cases hgone : t.id ∈ gone
      · rw [CancelsPending, if_pos hgone] at hpending
        rcases ih hdue' hpending hcalls (hpos.skip hgone) with
          ⟨fuel, s', done, gone', events, hloop, hwalked⟩
        exact ⟨fuel, s', done, gone', events, hloop, hwalked.skip hgone⟩
      · rw [CancelsPending, if_neg hgone] at hpending
        rcases hpending with ⟨hfree, hpending⟩
        rcases invoke_cancelled t honly hpos.wellFormed with
          ⟨s₁, hrun, hwf₁, htimers₁, hreads₁, hcalls₁, hlog₁⟩
        rw [hcalls] at htimers₁ hlog₁ hcalls₁
        have hpos₁ := hpos.next hgone hfree hwf₁ htimers₁
        have hlength : (front ++ [t]).length = front.length + 1 := by
          rw [List.length_append, List.length_singleton]
        rcases ih hdue' hpending hcalls₁ hpos₁ with
          ⟨fuel, s', done, gone', events, hloop, hwalked⟩
        refine ⟨fuel + 1, s', t :: done, gone', _, ?_,
          hwalked.run hgone hreads₁ hlog₁⟩
        rw [onTimerLoop_step (hpos.getElem? hgone) (hdue t List.mem_cons_self)
          hrun hpos₁.getElem?_next, ← hlength, hloop, List.append_assoc]
        rfl

end Timer
end Fluxnode
