import Fluxnode.Timer.WellFormed

/-!
# The two loops of `OnTimer`

As long as the callbacks leave the timers that already ran alone, the first
loop walks the due timers in order: at its head the array is the timers that
ran followed by the rest.  The second loop takes each of them out and puts the
intervals back with a new expiry.
-/

namespace Fluxnode
namespace Timer

variable {func : Type _}

/-!
## The first loop
-/

theorem runCalls_ne_running (w : World func) (calls : List (Call func))
    (s : State func) : runCalls w calls s ≠ .running := by
  induction calls generalizing s with
  | nil =>
      intro h
      cases h
  | cons c calls ih =>
      cases c with
      | throws =>
          intro h
          cases h
      | setTimeout f delay => exact ih _
      | intervalTimer f interval => exact ih _
      | cancelTimer id => exact ih _

/-- A round of the loop, by what the loop then ends with or goes on with. -/
inductive LoopRound (w : World func) (ts : Int) (fuel i : Nat)
    (expired : List Int) (s : State func) :
    Outcome func (List Int) -> Prop where
  | stops (hstop : forall t, s.timers[i]? = some t -> ts < t.expire) :
      LoopRound w ts fuel i expired s (.returned s expired)
  | threw {t : Entry func} {s₁ : State func}
      (hat : s.timers[i]? = some t) (hdue : t.expire ≤ ts)
      (hrun : invoke w t s = .threw s₁) :
      LoopRound w ts fuel i expired s (.threw s₁)
  | short {t : Entry func} {s₁ : State func}
      (hat : s.timers[i]? = some t) (hdue : t.expire ≤ ts)
      (hrun : invoke w t s = .returned s₁ ())
      (hat₁ : s₁.timers[i]? = none) :
      LoopRound w ts fuel i expired s (.threw s₁)
  | breaks {t t₁ : Entry func} {s₁ : State func}
      (hat : s.timers[i]? = some t) (hdue : t.expire ≤ ts)
      (hrun : invoke w t s = .returned s₁ ())
      (hat₁ : s₁.timers[i]? = some t₁) (hlater : ts < t₁.expire) :
      LoopRound w ts fuel i expired s (.returned s₁ (expired ++ [t.id]))
  | goesOn {t t₁ : Entry func} {s₁ : State func}
      (hat : s.timers[i]? = some t) (hdue : t.expire ≤ ts)
      (hrun : invoke w t s = .returned s₁ ())
      (hat₁ : s₁.timers[i]? = some t₁) (hdue₁ : t₁.expire ≤ ts) :
      LoopRound w ts fuel i expired s
        (onTimerLoop w ts fuel (i + 1) (expired ++ [t.id]) s₁)

theorem onTimerLoop_succ (w : World func) (ts : Int) (fuel i : Nat)
    (expired : List Int) (s : State func) :
    LoopRound w ts fuel i expired s
      (onTimerLoop w ts (fuel + 1) i expired s) := by
  rw [onTimerLoop]
  cases hat : s.timers[i]? with
  | none =>
      apply LoopRound.stops
      intro t ht
      rw [hat] at ht
      cases ht
  | some t =>
      dsimp only
      by_cases hdue : ts ≥ t.expire
      · rw [if_pos hdue]
        cases hrun : invoke w t s with
        | running => exact absurd hrun (runCalls_ne_running w _ _)
        | threw s₁ => exact .threw hat hdue hrun
        | returned s₁ a =>
            dsimp only
            cases hat₁ : s₁.timers[i]? with
            | none => exact .short hat hdue hrun hat₁
            | some t₁ =>
                dsimp only
                by_cases hbreak : ts < t₁.expire
                · rw [if_pos hbreak]
                  exact .breaks hat hdue hrun hat₁ hbreak
                · rw [if_neg hbreak]
                  exact .goesOn hat hdue hrun hat₁ (Int.not_lt.mp hbreak)
      · rw [if_neg hdue]
        apply LoopRound.stops
        intro u hu
        rw [hat] at hu
        cases hu
        exact Int.not_le.mp hdue

theorem onTimerLoop_step
    {w : World func} {ts : Int} {fuel i : Nat} {expired : List Int}
    {s s' : State func} {t : Entry func}
    (ht : s.timers[i]? = some t) (hdue : t.expire ≤ ts)
    (hrun : invoke w t s = .returned s' ())
    (ht' : s'.timers[i]? = some t) :
    onTimerLoop w ts (fuel + 1) i expired s =
      onTimerLoop w ts fuel (i + 1) (expired ++ [t.id]) s' := by
  have hnotBreak : ¬ ts < t.expire := Int.not_lt.mpr hdue
  simp only [onTimerLoop, ht, ge_iff_le, if_pos hdue, hrun, ht',
    if_neg hnotBreak]

theorem onTimerLoop_stop
    {w : World func} {ts : Int} {fuel i : Nat} {expired : List Int}
    {s : State func}
    (hstop : forall t, s.timers[i]? = some t -> ts < t.expire) :
    onTimerLoop w ts (fuel + 1) i expired s = .returned s expired := by
  cases ht : s.timers[i]? with
  | none => simp only [onTimerLoop, ht]
  | some t =>
      have hlater : ¬ t.expire ≤ ts := Int.not_le.mpr (hstop t ht)
      simp only [onTimerLoop, ht, ge_iff_le, if_neg hlater]

theorem onTimerLoop_round
    {w : World func} {ts : Int} {fuel i : Nat} {expired expired' : List Int}
    {s s₁ s' : State func} {t : Entry func}
    (hat : s.timers[i]? = some t) (hdue : t.expire ≤ ts)
    (hrun : invoke w t s = .returned s₁ ())
    (hloop : onTimerLoop w ts (fuel + 1) i expired s = .returned s' expired') :
    (s' = s₁ ∧ expired' = expired ++ [t.id] ∧
        exists t₁, s₁.timers[i]? = some t₁ ∧ ts < t₁.expire) ∨
      onTimerLoop w ts fuel (i + 1) (expired ++ [t.id]) s₁ =
        .returned s' expired' := by
  have hround := onTimerLoop_succ w ts fuel i expired s
  rw [hloop] at hround
  generalize hout : Outcome.returned s' expired' = out at hround
  cases hround with
  | stops hstop => exact absurd hdue (Int.not_le.mpr (hstop t hat))
  | threw hat' hdue' hrun' => cases hout
  | short hat' hdue' hrun' hat₁ => cases hout
  | breaks hat' hdue' hrun' hat₁ hlater =>
      rw [hat] at hat'
      cases hat'
      rw [hrun] at hrun'
      cases hrun'
      cases hout
      exact Or.inl ⟨rfl, rfl, _, hat₁, hlater⟩
  | goesOn hat' hdue' hrun' hat₁ hdue₁ =>
      rw [hat] at hat'
      cases hat'
      rw [hrun] at hrun'
      cases hrun'
      exact Or.inr rfl

theorem not_due_of_not_exists
    {ts : Int} {i : Nat} {timers : List (Entry func)}
    (h : ¬ exists t, timers[i]? = some t ∧ t.expire ≤ ts) :
    forall t, timers[i]? = some t -> ts < t.expire := by
  intro t hat
  apply Int.not_le.mp
  intro hdue
  exact h ⟨t, hat, hdue⟩

theorem onTimerLoop_over
    {w : World func} {ts : Int} {fuel i : Nat} {expired expired' : List Int}
    {s s' : State func}
    (hstop : ¬ exists t, s.timers[i]? = some t ∧ t.expire ≤ ts)
    (hloop : onTimerLoop w ts (fuel + 1) i expired s = .returned s' expired') :
    s' = s ∧ expired' = expired := by
  rw [onTimerLoop_stop (not_due_of_not_exists hstop)] at hloop
  cases hloop
  exact ⟨rfl, rfl⟩

theorem onTimerLoop_mono
    {w : World func} {ts : Int} {fuel more i : Nat} {expired : List Int}
    {s : State func} (hle : fuel ≤ more)
    (hended : onTimerLoop w ts fuel i expired s ≠ .running) :
    onTimerLoop w ts more i expired s =
      onTimerLoop w ts fuel i expired s := by
  induction fuel generalizing more i expired s with
  | zero => exact absurd rfl hended
  | succ fuel ih =>
      cases more with
      | zero => exact absurd hle (Nat.not_succ_le_zero fuel)
      | succ more =>
          have hle' : fuel ≤ more := Nat.le_of_succ_le_succ hle
          unfold onTimerLoop at hended ⊢
          cases ht : s.timers[i]? with
          | none => rfl
          | some t =>
              rw [ht] at hended
              dsimp only at hended ⊢
              by_cases hdue : ts ≥ t.expire
              · rw [if_pos hdue] at hended ⊢
                rw [if_pos hdue]
                cases hrun : invoke w t s with
                | threw s' => rfl
                | running => rfl
                | returned s' _ =>
                    rw [hrun] at hended
                    dsimp only at hended ⊢
                    cases ht' : s'.timers[i]? with
                    | none => rfl
                    | some t' =>
                        rw [ht'] at hended
                        dsimp only at hended ⊢
                        by_cases hbreak : ts < t'.expire
                        · rw [if_pos hbreak, if_pos hbreak]
                        · rw [if_neg hbreak] at hended ⊢
                          rw [if_neg hbreak]
                          exact ih hle' hended
              · rw [if_neg hdue, if_neg hdue]

/-!
## The second loop

Every timer that ran is still in the array when the second loop reaches it.
-/

/-- The intervals among the timers that ran, re-armed at successive readings
of the clock. -/
def rearmed (w : World func) : Nat -> List (Entry func) -> List (Entry func)
  | _, [] => []
  | r, t :: rest =>
      if t.interval then
        { t with expire := w.clock r + t.delay } :: rearmed w (r + 1) rest
      else
        rearmed w r rest

theorem withoutId_perm
    {timers rest : List (Entry func)} {t : Entry func}
    (hnodup : (timers.map Entry.id).Nodup) (h : timers.Perm (t :: rest)) :
    (withoutId t.id timers).Perm rest := by
  have hnodup' : (([] ++ t :: rest).map Entry.id).Nodup :=
    (h.map Entry.id).nodup_iff.mp hnodup
  have hrest : withoutId t.id (t :: rest) = rest :=
    withoutId_of_split hnodup'
  rw [← hrest]
  exact h.filter _

theorem rearm_interval
    {w : World func} {s : State func} {t : Entry func}
    (hwf : WellFormed s) (ht : t ∈ s.timers) (hinterval : t.interval = true) :
    exists s' : State func,
      setTimeoutInternal w { s with timers := withoutId t.id s.timers }
          t.func t.delay true t.id = (s', t.id) ∧
        s'.timers =
          insertTimer { t with expire := w.clock s.reads + t.delay }
            (withoutId t.id s.timers) ∧
        WellFormed s' ∧ s'.reads = s.reads + 1 ∧ s'.log = s.log := by
  have hid : t.id ≠ -1 := by
    have hpos := hwf.pos t ht
    lia
  have hentry :
      newEntry w { s with timers := withoutId t.id s.timers }
          t.func t.delay true t.id =
        { t with expire := w.clock s.reads + t.delay } := by
    simp [newEntry, hinterval]
  have hfree : t.id ∉ (withoutId t.id s.timers).map Entry.id := by
    intro hmem
    rcases List.mem_map.mp hmem with ⟨u, hu, huid⟩
    exact (mem_withoutId.mp hu).right huid
  have hwf' : WellFormed { s with timers := withoutId t.id s.timers } :=
    hwf.of_sublist (withoutId_sublist t.id s.timers) rfl
  rw [setTimeoutInternal_reuse w _ t.func t.delay true hid, hentry]
  refine ⟨_, rfl, rfl, ?_, rfl, rfl⟩
  exact hwf'.insert rfl (Int.le_refl _) hfree (hwf.pos t ht) (hwf.below t ht)

theorem rearmExpired_perm
    {w : World func} {done keep : List (Entry func)} {s : State func}
    (hwf : WellFormed s) (htimers : s.timers.Perm (done ++ keep)) :
    exists s' : State func,
      rearmExpired w (done.map Entry.id) s = .returned s' () ∧
        WellFormed s' ∧
        s'.timers.Perm (rearmed w s.reads done ++ keep) ∧
        s'.reads = s.reads + (rearmed w s.reads done).length ∧
        s'.log = s.log := by
  induction done generalizing s keep with
  | nil => exact ⟨s, rfl, hwf, htimers, rfl, rfl⟩
  | cons t rest ih =>
      have ht : t ∈ s.timers := htimers.symm.subset List.mem_cons_self
      have hremove := timersRemoveAt_timersFindIdxId hwf.nodup ht
      have hperm : (withoutId t.id s.timers).Perm (rest ++ keep) :=
        withoutId_perm hwf.nodup htimers
      by_cases hinterval : t.interval = true
      · rcases rearm_interval hwf ht hinterval with
          ⟨s₁, hput, htimers₁, hwf₁, hreads₁, hlog₁⟩
        have hperm₁ : s₁.timers.Perm
            (rest ++
              { t with expire := w.clock s.reads + t.delay } :: keep) := by
          rw [htimers₁]
          exact (insertTimer_perm _ _).trans
            ((hperm.cons _).trans List.perm_middle.symm)
        rcases ih hwf₁ hperm₁ with ⟨s', hrest, hwf', hfinal, hreads, hlog⟩
        rw [hreads₁] at hfinal hreads
        refine ⟨s', ?_, hwf', ?_, ?_, hlog.trans hlog₁⟩
        · simp only [List.map_cons, rearmExpired, hremove, if_pos hinterval,
            hput]
          exact hrest
        · rw [rearmed, if_pos hinterval]
          exact hfinal.trans List.perm_middle
        · rw [rearmed, if_pos hinterval, List.length_cons]
          lia
      · have hwf₁ : WellFormed { s with timers := withoutId t.id s.timers } :=
          hwf.of_sublist (withoutId_sublist t.id s.timers) rfl
        rcases ih hwf₁ hperm with ⟨s', hrest, hwf', hfinal, hreads, hlog⟩
        refine ⟨s', ?_, hwf', ?_, ?_, hlog⟩
        · simp only [List.map_cons, rearmExpired, hremove, if_neg hinterval]
          exact hrest
        · rw [rearmed, if_neg hinterval]
          exact hfinal
        · rw [rearmed, if_neg hinterval]
          exact hreads

/-!
## Runs of the second loop that return
-/

structure RearmRound (w : World func) (id : Int) (s s₁ : State func) :
    Prop where
  present : id ∈ s.timers.map Entry.id
  wellFormed : WellFormed s₁
  kept : forall u, u ∈ s.timers -> u.id ≠ id -> u ∈ s₁.timers
  ids : s₁.timers.map Entry.id ⊆ s.timers.map Entry.id
  reads : s.reads ≤ s₁.reads

theorem rearmExpired_cons
    {w : World func} {id : Int} {rest : List Int} {s s' : State func}
    (hwf : WellFormed s)
    (hreturned : rearmExpired w (id :: rest) s = .returned s' ()) :
    exists s₁, RearmRound w id s s₁ ∧
      rearmExpired w rest s₁ = .returned s' () := by
  by_cases hmem : id ∈ s.timers.map Entry.id
  · rcases List.mem_map.mp hmem with ⟨t, ht, rfl⟩
    have hremove := timersRemoveAt_timersFindIdxId hwf.nodup ht
    have hkept : forall u, u ∈ s.timers -> u.id ≠ t.id ->
        u ∈ withoutId t.id s.timers := by
      intro u hu hne
      exact mem_withoutId.mpr ⟨hu, hne⟩
    by_cases hinterval : t.interval = true
    · rcases rearm_interval hwf ht hinterval with
        ⟨s₁, hput, htimers₁, hwf₁, hreads₁, _⟩
      have hstate := congrArg Prod.fst hput
      simp only [rearmExpired, hremove, if_pos hinterval] at hstate hreturned
      rw [hstate] at hreturned
      refine ⟨s₁, ⟨hmem, hwf₁, ?_, ?_, ?_⟩, hreturned⟩
      · intro u hu hne
        rw [htimers₁]
        exact mem_insertTimer.mpr (Or.inr (hkept u hu hne))
      · intro i hi
        rcases List.mem_map.mp hi with ⟨u, hu, rfl⟩
        rw [htimers₁] at hu
        rcases mem_insertTimer.mp hu with rfl | hu
        · exact hmem
        · exact List.mem_map_of_mem (mem_withoutId.mp hu).1
      · rw [hreads₁]
        exact Nat.le_succ s.reads
    · simp only [rearmExpired, hremove, if_neg hinterval] at hreturned
      have hwf₁ : WellFormed { s with timers := withoutId t.id s.timers } :=
        hwf.of_sublist (withoutId_sublist t.id s.timers) rfl
      refine ⟨_, ⟨hmem, hwf₁, hkept, ?_, Nat.le_refl _⟩, hreturned⟩
      exact ((withoutId_sublist t.id s.timers).map Entry.id).subset
  · -- the lookup fails, and the loop reads a field of undefined
    have hnone := timersRemoveAt_neg_one s.timers
    rw [rearmExpired, timersFindIdxId_of_not_mem hmem] at hreturned
    cases hremove : timersRemoveAt s.timers (-1) with
    | mk removed timers =>
        rw [hremove] at hnone hreturned
        cases hnone
        cases hreturned

theorem rearmExpired_kept
    {w : World func} {ids : List Int} {s s' : State func}
    (hwf : WellFormed s)
    (hreturned : rearmExpired w ids s = .returned s' ()) :
    WellFormed s' ∧ s.reads ≤ s'.reads ∧
      forall u, u ∈ s.timers -> u.id ∉ ids -> u ∈ s'.timers := by
  induction ids generalizing s with
  | nil =>
      cases hreturned
      exact ⟨hwf, Nat.le_refl _, fun u hu _ => hu⟩
  | cons id rest ih =>
      rcases rearmExpired_cons hwf hreturned with ⟨s₁, hround, hrest⟩
      rcases ih hround.wellFormed hrest with ⟨hwf', hreads, hkept⟩
      refine ⟨hwf', Nat.le_trans hround.reads hreads, ?_⟩
      intro u hu hfree
      rw [List.mem_cons, not_or] at hfree
      exact hkept u (hround.kept u hu hfree.1) hfree.2

/-!
## The whole pass
-/

/-- `OnTimer` returns exactly when both of its loops do. -/
theorem onTimer_returned_iff {w : World func} {fuel : Nat} {s s' : State func} :
    onTimer w fuel s = .returned s' () <->
      exists s₁ s₂ expired,
        onTimerLoop w (w.clock s.reads) fuel 0 []
            { s with reads := s.reads + 1 } = .returned s₁ expired ∧
          rearmExpired w expired s₁ = .returned s₂ () ∧
          s' = installTimer w s₂ := by
  rw [onTimer, getTime]
  dsimp only
  constructor
  · intro hreturned
    cases hloop : onTimerLoop w (w.clock s.reads) fuel 0 []
        { s with reads := s.reads + 1 } with
    | threw s₁ =>
        rw [hloop] at hreturned
        cases hreturned
    | running =>
        rw [hloop] at hreturned
        cases hreturned
    | returned s₁ expired =>
        rw [hloop] at hreturned
        dsimp only at hreturned
        cases hrearm : rearmExpired w expired s₁ with
        | threw s₂ =>
            rw [hrearm] at hreturned
            cases hreturned
        | running =>
            rw [hrearm] at hreturned
            cases hreturned
        | returned s₂ _ =>
            rw [hrearm] at hreturned
            cases hreturned
            exact ⟨s₁, s₂, expired, rfl, hrearm, rfl⟩
  · intro h
    rcases h with ⟨s₁, s₂, expired, hloop, hrearm, rfl⟩
    rw [hloop]
    dsimp only
    rw [hrearm]

theorem onTimer_mono
    {w : World func} {fuel more : Nat} {s s' : State func}
    (hle : fuel ≤ more) (hreturned : onTimer w fuel s = .returned s' ()) :
    onTimer w more s = .returned s' () := by
  rcases onTimer_returned_iff.mp hreturned with
    ⟨s₁, s₂, expired, hloop, hrearm, rfl⟩
  apply onTimer_returned_iff.mpr
  refine ⟨s₁, s₂, expired, ?_, hrearm, rfl⟩
  rw [onTimerLoop_mono hle _, hloop]
  rw [hloop]
  intro hrunning
  cases hrunning

end Timer
end Fluxnode
