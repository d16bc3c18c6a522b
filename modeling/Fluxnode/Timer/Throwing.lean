import Fluxnode.Timer.DueCallbacks

/-!
# Callbacks that throw

`duk_util_run` catches what a callback throws, and `OnTimer` is left in the
middle of its first loop.  Nothing has been taken out of the array at that
point, and `timer_check` has already cleared the wake-up time of the runtime.
-/

namespace Fluxnode
namespace Timer

variable {func : Type _}

/--
The first loop from index `i` on, up to a callback that throws: the timers whose
callbacks are called, the calls that these make, and the state that is left.
-/
inductive Throws (w : World func) (ts : Int) :
    Nat -> State func -> List (Entry func) -> List (Call func) ->
      State func -> Prop where
  | here {i : Nat} {s s' : State func} {t : Entry func}
      {made rest : List (Call func)}
      (hat : s.timers[i]? = some t) (hdue : t.expire ≤ ts)
      (hbody : w.body s.calls t.func = made ++ .throws :: rest)
      (hrun : runCalls w made (called s t) = .returned s' ()) :
      Throws w ts i s [t] made s'
  | later {i : Nat} {s s₁ s' : State func} {t t' : Entry func}
      {made more : List (Call func)} {ran : List (Entry func)}
      (hat : s.timers[i]? = some t) (hdue : t.expire ≤ ts)
      (hbody : w.body s.calls t.func = made)
      (hrun : runCalls w made (called s t) = .returned s₁ ())
      (hat' : s₁.timers[i]? = some t') (hdue' : t'.expire ≤ ts)
      (hrest : Throws w ts (i + 1) s₁ ran more s') :
      Throws w ts i s (t :: ran) (made ++ more) s'

theorem Throws.onTimerLoop {w : World func} {ts : Int} {i : Nat}
    {s s' : State func} {ran : List (Entry func)} {made : List (Call func)}
    (h : Throws w ts i s ran made s') (expired : List Int) :
    Timer.onTimerLoop w ts ran.length i expired s = .threw s' := by
  induction h generalizing expired with
  | @here i s s' t made rest hat hdue hbody hrun =>
      have hinvoke : invoke w t s = .threw s' := by
        rw [invoke_eq, hbody, runCalls_append_of_returned hrun]
        rfl
      simp only [List.length_cons, List.length_nil, Timer.onTimerLoop, hat,
        ge_iff_le, if_pos hdue, hinvoke]
  | @later i s s₁ s' t t' made more ran hat hdue hbody hrun hat' hdue' _ ih =>
      have hinvoke : invoke w t s = .returned s₁ () := by
        rw [invoke_eq, hbody, hrun]
      have hgoes : ¬ ts < t'.expire := Int.not_lt.mpr hdue'
      simp only [List.length_cons, Timer.onTimerLoop, hat, ge_iff_le,
        if_pos hdue, hinvoke, hat', if_neg hgoes]
      exact ih _

/-- An exception that ends the loop comes from a callback, or the array has
become too short for the index during a callback that returned. -/
theorem throws_of_onTimerLoop {w : World func} {ts : Int} {fuel i : Nat}
    {expired : List Int} {s s' : State func}
    (hthrew : onTimerLoop w ts fuel i expired s = .threw s') :
    (exists ran made, Throws w ts i s ran made s') ∨
      exists (j : Nat) (s₁ : State func) (t : Entry func),
        s₁.timers[j]? = some t ∧
        invoke w t s₁ = .returned s' () ∧ s'.timers[j]? = none := by
  induction fuel generalizing i expired s with
  | zero => cases hthrew
  | succ fuel ih =>
      have hround := onTimerLoop_succ w ts fuel i expired s
      rw [hthrew] at hround
      generalize hout : Outcome.threw s' = out at hround
      cases hround with
      | stops hstop => cases hout
      | @threw t s₁ hat hdue hrun =>
          cases hout
          rw [invoke_eq] at hrun
          rcases runCalls_threw hrun with ⟨made, rest, hbody, hmade⟩
          exact Or.inl ⟨[t], made, .here hat hdue hbody hmade⟩
      | short hat hdue hrun hat₁ =>
          cases hout
          exact Or.inr ⟨i, s, _, hat, hrun, hat₁⟩
      | breaks hat hdue hrun hat₁ hlater => cases hout
      | goesOn hat hdue hrun hat₁ hdue₁ =>
          rcases ih hout.symm with ⟨ran, more, hrest⟩ | hshort
          · rw [invoke_eq] at hrun
            exact Or.inl
              ⟨_, _, .later hat hdue rfl hrun hat₁ hdue₁ hrest⟩
          · exact Or.inr hshort

/-!
## The state that the exception leaves
-/

structure AfterThrow (w : World func) (ts : Int) (s s' : State func)
    (ran : List (Entry func)) (made : List (Call func)) : Prop where
  wellFormed : WellFormed s'
  left : s'.left.Same (made.foldl (Left.call w) s.left)
  installed : Installed w s -> Installed w s'
  evolves : Evolves s s'
  due : forall t, t ∈ ran -> t.expire ≤ ts
  known : forall t, t ∈ ran -> t.id < s'.nextID
  unique : forall t, t ∈ ran -> forall u, u ∈ s'.timers -> u.id = t.id -> u = t

theorem Throws.after {w : World func} {ts : Int} {i : Nat}
    {s s' : State func} {ran : List (Entry func)} {made : List (Call func)}
    (h : Throws w ts i s ran made s') (hwf : WellFormed s) :
    AfterThrow w ts s s' ran made := by
  induction h with
  | @here i s s' t made rest hat hdue hbody hrun =>
      have hwf' : WellFormed (called s t) :=
        hwf.of_sublist (List.Sublist.refl _) rfl
      have hafter := runCalls_after hwf' hrun
      rcases hafter.of_called with ⟨hleft, hinstalled, hevolves⟩
      rcases unique_of_evolves hwf hevolves (List.mem_of_getElem? hat) with
        ⟨hknown, hunique⟩
      refine ⟨hafter.wellFormed, hleft, hinstalled, hevolves, ?_, ?_, ?_⟩
      · intro u hu
        rw [List.mem_singleton.mp hu]
        exact hdue
      · intro u hu
        rw [List.mem_singleton.mp hu]
        exact hknown
      · intro u hu
        rw [List.mem_singleton.mp hu]
        exact hunique
  | @later i s s₁ s' t t' made more ran hat hdue hbody hrun hat' hdue' _ ih =>
      have hwf' : WellFormed (called s t) :=
        hwf.of_sublist (List.Sublist.refl _) rfl
      have hafter := runCalls_after hwf' hrun
      rcases hafter.of_called with ⟨hleft, hinstalled, hevolves⟩
      have hrest := ih hafter.wellFormed
      have hboth := hevolves.trans hrest.evolves
      rcases unique_of_evolves hwf hboth (List.mem_of_getElem? hat) with
        ⟨hknown, hunique⟩
      constructor
      · exact hrest.wellFormed
      · rw [List.foldl_append]
        exact hrest.left.trans (hleft.foldl more)
      · exact fun h => hrest.installed (hinstalled h)
      · exact hboth
      · intro u hu
        rcases List.mem_cons.mp hu with rfl | hu
        · exact hdue
        · exact hrest.due u hu
      · intro u hu
        rcases List.mem_cons.mp hu with rfl | hu
        · exact hknown
        · exact hrest.known u hu
      · intro u hu
        rcases List.mem_cons.mp hu with rfl | hu
        · exact hunique
        · exact hrest.unique u hu

/-!
## The service
-/

/-- `timer_check` when it returns 1: the wake-up time is cleared. -/
def timerCheckFired (s : State func) : State func :=
  { s with wakeUpTimeMS := 0 }

def passStart (s : State func) : State func :=
  { timerCheckFired s with reads := s.reads + 1 }

/-- `OnTimer` is called after `timer_check`, and a callback throws. -/
def PassThrows (w : World func) (s : State func) (ran : List (Entry func))
    (made : List (Call func)) (s' : State func) : Prop :=
  Throws w (w.clock s.reads) 0 (passStart s) ran made s'

theorem PassThrows.onTimer {w : World func} {s s' : State func}
    {ran : List (Entry func)} {made : List (Call func)}
    (h : PassThrows w s ran made s') :
    Timer.onTimer w ran.length (timerCheckFired s) = .threw s' := by
  have hloop := Throws.onTimerLoop h []
  have hstart : getTime w (timerCheckFired s) =
      (w.clock s.reads, passStart s) := rfl
  simp only [Timer.onTimer, hstart, hloop]

/-- However the clock and the callbacks go on, and whatever other code of the
application calls before it, the next pass does not call the callback, unless it
is an interval that has elapsed again. -/
def NotAgain (s' : State func) (t : Entry func) : Prop :=
  forall (w : World func) calls s₁, runCalls w calls s' = .returned s₁ () ->
    forall fuel s₂,
      (onTimer w fuel (timerCheckFired s₁)).state? = some s₂ ->
      Event.ran t.id ∈ s₂.log.drop s₁.log.length ->
      t.interval = true ∧ t.expire + t.delay ≤ w.clock s₁.reads

structure KeepsService (ran : List (Entry func)) (s' : State func) :
    Prop where
  armed : s'.timers ≠ [] -> s'.wakeUpTimeMS ≠ 0
  once : forall t, t ∈ ran -> NotAgain s' t

def NoneDue (w : World func) (l : Left func) : Prop :=
  forall u, u ∈ l.timers -> w.clock (l.reads - 1) < u.expire

/-- Of the timers that ran, at most intervals of 0 ms are left. -/
def NoneRepeats (ran : List (Entry func)) (l : Left func) : Prop :=
  forall t, t ∈ ran -> t ∈ l.timers -> t.interval = true ∧ t.delay = 0

def leftInPass (w : World func) (s : State func) (made : List (Call func)) :
    Left func :=
  made.foldl (Left.call w) (passStart s).left

theorem notAgain_iff {s' : State func} {t : Entry func}
    (hwf : WellFormed s') (hknown : t.id < s'.nextID)
    (hunique : forall u, u ∈ s'.timers -> u.id = t.id -> u = t) :
    NotAgain s' t <->
      (t ∈ s'.timers -> t.interval = true ∧ t.delay = 0) := by
  constructor
  · intro hnot ht
    -- the clock may come back to the expiry, and go no further
    rcases standingStill_ran (s := timerCheckFired s')
        (hwf.of_sublist (List.Sublist.refl _) rfl) ht with
      ⟨fuel, s₂, hreturned, hran⟩
    have hagain := hnot (standingStill func t.expire) [] s' rfl fuel s₂
      (by rw [hreturned]; rfl) hran
    refine ⟨hagain.1, ?_⟩
    have hle : t.expire + t.delay ≤ t.expire := hagain.2
    lia
  · intro hleft w calls s₁ hcalls fuel s₂ hends hran
    have hafter := runCalls_after hwf hcalls
    have hwf₁ : WellFormed (timerCheckFired s₁) :=
      hafter.wellFormed.of_sublist (List.Sublist.refl _) rfl
    rcases onTimer_callsDue hwf₁ hends with ⟨events, hlog, hdue⟩
    have hdrop : s₂.log.drop s₁.log.length = events := by
      rw [hlog]
      exact List.drop_left
    rw [hdrop] at hran
    rcases hdue t.id hran with ⟨u, hid, hle, hin⟩
    have hold : u ∈ s'.timers := by
      rcases hin with hin | hnew
      · rcases hafter.evolves.timers u hin with hold | hnew
        · exact hold
        · rw [hid] at hnew
          exact absurd hknown (Int.not_lt.mpr hnew)
      · rw [hid] at hnew
        have hnew' := Int.le_trans hafter.evolves.nextID hnew
        exact absurd hknown (Int.not_lt.mpr hnew')
    have hsame : u = t := hunique u hold hid
    rw [hsame] at hold hle
    have hzero := hleft hold
    refine ⟨hzero.1, ?_⟩
    rw [hzero.2]
    have hle' : t.expire ≤ w.clock s₁.reads := hle
    lia

theorem PassThrows.after {w : World func} {s s' : State func}
    {ran : List (Entry func)} {made : List (Call func)}
    (h : PassThrows w s ran made s') (hwf : WellFormed s) :
    AfterThrow w (w.clock s.reads) (passStart s) s' ran made :=
  Throws.after h (hwf.of_sublist (List.Sublist.refl _) rfl)

theorem PassThrows.installed {w : World func} {s s' : State func}
    {ran : List (Entry func)} {made : List (Call func)}
    (h : PassThrows w s ran made s') : Installed w (passStart s) := by
  have hdue : exists t, s.timers[0]? = some t ∧
      t.expire ≤ w.clock s.reads := by
    cases h with
    | here hat hdue hbody hrun => exact ⟨_, hat, hdue⟩
    | later hat hdue hbody hrun hat' hdue' hrest => exact ⟨_, hat, hdue⟩
  rcases hdue with ⟨t, hat, hle⟩
  intro first hfirst
  have hsame : t = first := by
    have hhead : s.timers.head? = some first := hfirst
    rw [List.head?_eq_getElem?, hat] at hhead
    exact Option.some.inj hhead
  rw [← hsame]
  symm
  apply requireUint_eq_zero.mpr
  change t.expire - w.clock s.reads ≤ 0
  lia

/-- When the clock is not set back in between, a timer that ran is due at the
last reading too. -/
theorem PassThrows.noneRepeats {w : World func} {s s' : State func}
    {ran : List (Entry func)} {made : List (Call func)}
    (h : PassThrows w s ran made s') (hwf : WellFormed s)
    (hclock : w.clock s.reads ≤ w.clock ((leftInPass w s made).reads - 1))
    (hnone : NoneDue w (leftInPass w s made)) :
    NoneRepeats ran (leftInPass w s made) := by
  intro t ht hleft
  have hdue := (h.after hwf).due t ht
  have hlater := hnone t hleft
  lia

theorem keepsService_iff (w : World func) (s s' : State func)
    (ran : List (Entry func)) (made : List (Call func)) (hwf : WellFormed s)
    (hthrows : PassThrows w s ran made s') :
    KeepsService ran s' <->
      NoneDue w (leftInPass w s made) ∧
        NoneRepeats ran (leftInPass w s made) := by
  have hafter := hthrows.after hwf
  have hmem : forall u, u ∈ s'.timers <-> u ∈ (leftInPass w s made).timers := by
    intro u
    exact hafter.left.timers.mem_iff
  have hreads : s'.reads = (leftInPass w s made).reads := hafter.left.reads
  have harmed := wakeUp_ne_zero_iff hafter.wellFormed.sorted
    (hafter.installed hthrows.installed)
  rw [hreads] at harmed
  have hagain : forall t, t ∈ ran -> (NotAgain s' t <->
      (t ∈ (leftInPass w s made).timers ->
        t.interval = true ∧ t.delay = 0)) := by
    intro t ht
    rw [← hmem]
    exact notAgain_iff hafter.wellFormed (hafter.known t ht)
      (hafter.unique t ht)
  constructor
  · intro h
    constructor
    · intro u hu
      exact harmed.mp h.armed u ((hmem u).mpr hu)
    · intro t ht
      exact (hagain t ht).mp (h.once t ht)
  · intro h
    rcases h with ⟨hnone, hrepeats⟩
    constructor
    · apply harmed.mpr
      intro u hu
      exact hnone u ((hmem u).mp hu)
    · intro t ht
      exact (hagain t ht).mpr (hrepeats t ht)

/-- Two timeouts, set at 0 for 10 ms and for 20 ms.  The clock reads 10 from the
pass on, and the callback of the first one throws. -/
def throwingWorld (made : List (Call Bool)) : World Bool where
  clock r := if r < 4 then 0 else 10
  body _ f := if f then made ++ [.throws] else []

def throwingTimeout : Entry Bool := ⟨true, 10, 10, 1, false⟩

def waitingTimeout : Entry Bool := ⟨false, 20, 20, 2, false⟩

def twoTimeouts : State Bool where
  timers := [throwingTimeout, waitingTimeout]
  nextID := 3
  wakeUpTimeMS := 10
  reads := 4
  calls := 0
  log := []

theorem twoTimeouts_wellFormed : WellFormed twoTimeouts where
  sorted := by decide
  nodup := by decide
  pos := by decide
  below := by decide
  next_pos := by decide

/-- A callback that cancels its own timer before it throws. -/
theorem keepsService_cancelled :
    KeepsService [throwingTimeout]
      { twoTimeouts with
        timers := [waitingTimeout], reads := 6, calls := 1
        log := [.ran 1, .cancelled 1] } := by
  apply (keepsService_iff (throwingWorld [.cancelTimer 1]) twoTimeouts _ _
    [.cancelTimer 1] twoTimeouts_wellFormed
    (.here rfl (by decide) rfl rfl)).mpr
  constructor
  · intro u hu
    rw [List.mem_singleton.mp hu]
    decide
  · intro t ht hleft
    rw [List.mem_singleton.mp ht] at hleft
    cases List.mem_singleton.mp hleft

/-- Both timeouts are left, the runtime timer is off, and the next pass calls
the first callback again. -/
theorem throwing_timeout_left :
    exists s', (setTimeout (throwingWorld []) (setTimeout (throwingWorld [])
          (initial Bool) true 10).1 false 20).1 = twoTimeouts ∧
      PassThrows (throwingWorld []) twoTimeouts [throwingTimeout] [] s' ∧
      (s'.timers = [throwingTimeout, waitingTimeout] ∧
        s'.wakeUpTimeMS = 0) ∧
      ¬ NotAgain s' throwingTimeout ∧ ¬ KeepsService [throwingTimeout] s' := by
  refine ⟨_, by decide, .here rfl (by decide) rfl rfl, ⟨rfl, rfl⟩, ?_, ?_⟩
  · intro hnot
    have hagain := hnot (throwingWorld []) [] _ rfl 1 _ rfl (by decide)
    cases hagain.1
  · intro hkeeps
    exact hkeeps.armed (List.cons_ne_nil _ _) rfl

end Timer
end Fluxnode

