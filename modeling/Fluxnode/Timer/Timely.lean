import Fluxnode.DukMain.OnTime
import Fluxnode.Timer.ExactDispatch
import Fluxnode.Timer.TwoClocks

/-!
# Callbacks are on time

The library rounds down to milliseconds, the runtime up to ticks, and the task
sleeps for fewer ticks than are left and looks again.  Together they run every
callback less than two ticks after its timer has expired.

`OnTimer`, `__setTimeoutInternal` and `__installTimer` each read the system
time, which is not set.  Here the readings of one pass fall into the same
millisecond, for a timer can get lost when they do not; otherwise the code takes
no time.
-/

namespace Fluxnode
namespace Timer

open Foundation
open DukMain (Running WakeUp portMaxDelay setWakeUpTime tickAt ticksFor)

/-- What does not change: `delay * 0.99`, by how much the system time is ahead,
when the `k`-th reading of it is made by a pass that begins at `uptime`, and the
callbacks, which create timers with a delay and do nothing else. -/
structure Setting (func : Type _) where
  shorten : UInt32 -> UInt32
  offset : Int
  readAt : Nat -> Nat -> Nat
  body : Nat -> func -> List (Call func)
  shorten_le : forall d, shorten d ≤ d
  sameReading : forall uptime k,
    getTimeAt (readAt uptime k) offset = getTimeAt uptime offset
  creates : forall k f c, c ∈ body k f -> Call.creates c = true
  waits : forall k f c, c ∈ body k f -> Call.Waits c

/-- The library, the timer of the runtime, the time since the start, and the
callbacks that were run, with the reading of the clock. -/
structure Board (func : Type _) where
  lib : State func
  wakeUp : WakeUp
  uptime : Nat
  invoked : List (Int × Entry func)

variable {func : Type _}

def Setting.world (e : Setting func) (uptime : Nat) : World func where
  clock k := getTimeAt (e.readAt uptime k) e.offset
  body := e.body

def Board.date (e : Setting func) (s : Board func) : Int :=
  getTimeAt s.uptime e.offset

def Board.tick (s : Board func) : UInt32 :=
  UInt32.ofNat (tickCount s.uptime)

def Board.setLib (e : Setting func) (lib : State func) (s : Board func) :
    Board func :=
  { s with
    lib := lib
    wakeUp :=
      setWakeUpTime e.shorten s.tick (UInt32.ofNat lib.wakeUpTimeMS)
        s.wakeUp }

def ranTimers (before after : State func) : List (Entry func) :=
  before.timers.filter (fun t => Event.ran t.id ∈ eventsOf before after)

def check (e : Setting func) (s : Board func) : Option (Board func) :=
  let (expired, wakeUp) :=
    DukMain.timerCheck e.shorten s.tick s.tick s.wakeUp
  let s := { s with wakeUp := wakeUp }
  if expired then
    match onTimer (e.world s.uptime) (s.lib.timers.length + 1) s.lib with
    | .returned lib _ =>
        some (Board.setLib e lib { s with
          invoked := s.invoked ++
            (ranTimers s.lib lib).map (fun t => (s.date e, t)) })
    | _ => none
  else
    some s

def call (e : Setting func) (s : Board func) : Call func -> Board func
  | .setTimeout f delay =>
      s.setLib e (setTimeout (e.world s.uptime) s.lib f delay).1
  | .intervalTimer f interval =>
      s.setLib e (intervalTimer (e.world s.uptime) s.lib f interval).1
  | .cancelTimer id => s.setLib e (cancelTimer (e.world s.uptime) s.lib id)
  | .throws => s

def handle (e : Setting func) : List (Call func) -> Board func -> Board func
  | [], s => s
  | .throws :: _, s => s
  | c :: rest, s => handle e rest (call e s c)

/-- The task is blocked for no more than `g->delay` ticks. -/
def WakesInTime (s : Board func) (us : Nat) : Prop :=
  s.wakeUp.delay = portMaxDelay ∨
    tickCount (s.uptime + us) ≤ tickCount s.uptime + s.wakeUp.delay.toNat

instance (s : Board func) (us : Nat) : Decidable (WakesInTime s us) :=
  inferInstanceAs (Decidable (_ ∨ _))

/-- The task sleeps in `ulTaskNotifyTake`, or shows an event to the script; in
both cases it comes to `timer_check`. -/
inductive LoopAction (func : Type _) where
  | sleep (us : Nat)
  | event (calls : List (Call func))

structure Board.Start (s : Board func) : Prop where
  lib : s.lib = initial func
  wakeUp : s.wakeUp.wakeUpTimeMS = 0
  invoked : s.invoked = []

/-!
## The invariant
-/

/-- The runtime timer is set so that it expires less than a tick behind the
first timer of the array. -/
def ArmedFor (e : Setting func) (s : Board func) (first : Entry func) : Prop :=
  exists due, Running 0 due ⟨tickCount s.uptime, s.wakeUp⟩ ∧
    (due * 10000 : Nat) + e.offset < first.expire * 1000 + 10000

def OnTimeRun (v : Int × Entry func) : Prop :=
  v.2.expire ≤ v.1 ∧ v.1 < v.2.expire + 20

structure Delayed (lib : State func) : Prop where
  wellFormed : WellFormed lib
  delays : forall t, t ∈ lib.timers -> 1 ≤ t.delay

structure Timely (e : Setting func) (s : Board func) : Prop where
  delayed : Delayed s.lib
  off : s.lib.timers = [] -> s.wakeUp.wakeUpTimeMS = 0
  armed : forall first rest, s.lib.timers = first :: rest ->
    ArmedFor e s first
  invoked : forall v, v ∈ s.invoked -> OnTimeRun v

/-- No timer gets lost: each stays in the array, is run, or is cancelled. -/
structure Kept (cancelled : List Int) (s s' : Board func) : Prop where
  timers : forall t, t ∈ s.lib.timers -> t.id ∉ cancelled ->
    t ∈ s'.lib.timers ∨ exists date, (date, t) ∈ s'.invoked
  invoked : s.invoked ⊆ s'.invoked

variable {e : Setting func} {s : Board func}

theorem Setting.clock (e : Setting func) (uptime k : Nat) :
    (e.world uptime).clock k = getTimeAt uptime e.offset :=
  e.sameReading uptime k

theorem Setting.clock_monotone (e : Setting func) (uptime : Nat) :
    Monotone (e.world uptime).clock := by
  intro j k _
  rw [e.clock, e.clock]

theorem mem_dueTimers_world {uptime : Nat} {lib : State func}
    {t : Entry func} :
    t ∈ dueTimers (e.world uptime) lib <->
      t ∈ lib.timers ∧ t.expire ≤ getTimeAt uptime e.offset := by
  rw [mem_dueTimers, e.clock]

theorem mem_laterTimers_world {uptime : Nat} {lib : State func}
    {t : Entry func} :
    t ∈ laterTimers (e.world uptime) lib <->
      t ∈ lib.timers ∧ getTimeAt uptime e.offset < t.expire := by
  rw [mem_laterTimers, e.clock]

theorem Kept.same {s s' : Board func} (cancelled : List Int)
    (hlib : s'.lib = s.lib) (hinvoked : s'.invoked = s.invoked) :
    Kept cancelled s s' := by
  constructor
  · intro t ht _
    rw [hlib]
    exact Or.inl ht
  · rw [hinvoked]
    exact List.Subset.refl _

theorem Kept.trans {cancelled : List Int} {s s₁ s₂ : Board func}
    (h : Kept cancelled s s₁) (h' : Kept cancelled s₁ s₂) :
    Kept cancelled s s₂ := by
  refine ⟨?_, List.Subset.trans h.invoked h'.invoked⟩
  intro t ht hfree
  rcases h.timers t ht hfree with ht | ⟨date, hran⟩
  · exact h'.timers t ht hfree
  · exact Or.inr ⟨date, h'.invoked hran⟩

theorem Kept.mono {ids cancelled : List Int} {s s' : Board func}
    (h : Kept ids s s') (hsub : ids ⊆ cancelled) : Kept cancelled s s' :=
  ⟨fun t ht hfree => h.timers t ht (fun hid => hfree (hsub hid)), h.invoked⟩

theorem getTimeAt_bounds (uptime : Nat) (offset : Int) :
    getTimeAt uptime offset * 1000 ≤ uptime + offset ∧
      uptime + offset < getTimeAt uptime offset * 1000 + 1000 := by
  unfold getTimeAt
  constructor
  · lia
  · lia

theorem tickCount_bounds (uptime : Nat) :
    tickCount uptime * 10000 ≤ uptime ∧
      uptime < tickCount uptime * 10000 + 10000 := by
  unfold tickCount
  constructor
  · lia
  · lia

theorem tickAt_zero (n : Nat) : tickAt 0 n = UInt32.ofNat n := by
  rw [tickAt, UInt32.zero_add]

theorem WellFormed.head_le {lib : State func} (h : WellFormed lib)
    {first t : Entry func} {rest : List (Entry func)}
    (htimers : lib.timers = first :: rest) (ht : t ∈ lib.timers) :
    first.expire ≤ t.expire := by
  have hsorted := h.sorted
  rw [htimers] at hsorted ht
  rcases List.mem_cons.mp ht with rfl | ht
  · exact Int.le_refl _
  · exact (List.pairwise_cons.mp hsorted).1 t ht

theorem armedFor_install {lib : State func} {first : Entry func}
    {rest : List (Entry func)} (htimers : lib.timers = first :: rest)
    (hlater : s.date e < first.expire) :
    ArmedFor e (s.setLib e (installTimer (e.world s.uptime) lib)) first := by
  have hms : (installTimer (e.world s.uptime) lib).wakeUpTimeMS =
      requireUint (first.expire - s.date e) := by
    rw [installTimer, htimers, Board.date, <- e.clock s.uptime lib.reads]
    rfl
  let ms := requireUint (first.expire - s.date e)
  have hms' : 1 ≤ ms ∧ ms < 2 ^ 32 ∧ (ms : Int) ≤ first.expire - s.date e := by
    show 1 ≤ requireUint _ ∧ requireUint _ < _ ∧ (requireUint _ : Int) ≤ _
    unfold requireUint
    split
    · lia
    · split <;> lia
  have htoNat : (UInt32.ofNat ms).toNat = ms :=
    UInt32.toNat_ofNat_of_lt' hms'.2.1
  have henabled : UInt32.ofNat ms ≠ 0 := by
    intro hzero
    rw [hzero, UInt32.toNat_zero] at htoNat
    lia
  refine ⟨tickCount s.uptime + ticksFor (UInt32.ofNat ms), ?_, ?_⟩
  · have hrunning := @Running.of_timerSetCheck e.shorten 0
      (tickCount s.uptime + ticksFor (UInt32.ofNat ms)) (tickCount s.uptime)
      { s.wakeUp with wakeUpTimeMS := UInt32.ofNat ms } e.shorten_le henabled
      rfl
    rw [tickAt_zero] at hrunning
    unfold Board.setLib
    rw [hms]
    exact hrunning
  · have hticks := (tickCount_bounds s.uptime).1
    have hdate := getTimeAt_bounds s.uptime e.offset
    have hround : ticksFor (UInt32.ofNat ms) * 10 ≤ ms + 9 := by
      rw [ticksFor, htoNat]
      lia
    unfold Board.date at hms'
    lia

theorem timely_install {lib : State func} (hdelayed : Delayed lib)
    (hlater : forall t, t ∈ lib.timers -> s.date e < t.expire)
    (hinvoked : forall v, v ∈ s.invoked -> OnTimeRun v) :
    Timely e (s.setLib e (installTimer (e.world s.uptime) lib)) := by
  refine ⟨⟨installTimer_wellFormed hdelayed.wellFormed, ?_⟩, ?_, ?_, hinvoked⟩
  · show forall t, t ∈ (installTimer _ lib).timers -> _
    rw [installTimer_timers]
    exact hdelayed.delays
  · show (installTimer _ lib).timers = [] -> _
    rw [installTimer_timers]
    intro hnil
    show (UInt32.ofNat (installTimer _ lib).wakeUpTimeMS) = 0
    rw [installTimer, hnil]
    rfl
  · show forall first rest, (installTimer _ lib).timers = first :: rest -> _
    rw [installTimer_timers]
    intro first rest htimers
    apply armedFor_install htimers
    apply hlater
    rw [htimers]
    exact List.mem_cons_self

/-!
## A pass

At one reading of the clock the pass runs the timers that are due, and none of
those that it leaves is.
-/

theorem delay_of_mem_createdBy {w : World func} {r : Nat} {id : Int}
    {calls : List (Call func)} {u : Entry func}
    (hwaits : forall c, c ∈ calls -> Call.Waits c)
    (hu : u ∈ createdBy w r id calls) : 1 ≤ u.delay := by
  induction calls generalizing r id with
  | nil => cases hu
  | cons c rest ih =>
      have hwait := hwaits c List.mem_cons_self
      have hrest : forall c', c' ∈ rest -> Call.Waits c' := by
        intro c' hc'
        exact hwaits c' (List.mem_cons_of_mem c hc')
      cases c with
      | setTimeout f delay =>
          rcases List.mem_cons.mp hu with rfl | hu
          · exact hwait
          · exact ih hrest hu
      | intervalTimer f interval =>
          rcases List.mem_cons.mp hu with rfl | hu
          · exact hwait
          · exact ih hrest hu
      | cancelTimer id' => exact ih hrest hu
      | throws => exact ih hrest hu

theorem of_mem_createdByAll {w : World func} {r : Nat} {id : Int} {k : Nat}
    {timers : List (Entry func)} {u : Entry func}
    (hu : u ∈ createdByAll w r id k timers) :
    exists r' id' k' f, u ∈ createdBy w r' id' (w.body k' f) := by
  induction timers generalizing r id k with
  | nil => cases hu
  | cons t rest ih =>
      rcases List.mem_append.mp hu with hu | hu
      · exact ⟨r, id, k, t.func, hu⟩
      · exact ih hu

theorem rearmed_from {w : World func} {r : Nat} {done : List (Entry func)}
    {u : Entry func} (hu : u ∈ rearmed w r done) :
    exists t k, t ∈ done ∧ u = { t with expire := w.clock k + t.delay } := by
  induction done generalizing r with
  | nil => cases hu
  | cons t rest ih =>
      by_cases ht : t.interval = true
      · rw [rearmed, if_pos ht] at hu
        rcases List.mem_cons.mp hu with rfl | hu
        · exact ⟨t, r, List.mem_cons_self, rfl⟩
        · rcases ih hu with ⟨v, k, hv, heq⟩
          exact ⟨v, k, List.mem_cons_of_mem t hv, heq⟩
      · rw [rearmed, if_neg ht] at hu
        rcases ih hu with ⟨v, k, hv, heq⟩
        exact ⟨v, k, List.mem_cons_of_mem t hv, heq⟩

theorem Setting.onTimer_runs (e : Setting func) (uptime : Nat)
    {lib : State func} (h : Delayed lib) :
    exists left, onTimer (e.world uptime) (lib.timers.length + 1) lib =
        .returned (installTimer (e.world uptime) left) () ∧
      Delayed left ∧
      (forall t, t ∈ left.timers -> getTimeAt uptime e.offset < t.expire) ∧
      laterTimers (e.world uptime) lib ⊆ left.timers ∧
      left.log = lib.log ++
        (dueTimers (e.world uptime) lib).map (fun t => Event.ran t.id) := by
  let w := e.world uptime
  have hcreates : w.OnlyCreates := e.creates
  have hwaits : w.Waits := e.waits
  have hdue : forall t, t ∈ dueTimers w lib ->
      t.expire ≤ w.clock lib.reads := by
    intro t ht
    exact (mem_dueTimers.mp ht).2
  have hlater : forall t, t ∈ laterTimers w lib ->
      w.clock lib.reads < t.expire := by
    intro t ht
    exact (mem_laterTimers.mp ht).2
  have hclock := e.clock_monotone uptime
  have hpass := pass_of_due hclock hwaits hdue hlater
    (hclock (Nat.le_succ lib.reads)) lib.nextID lib.calls
  rw [dueTimers_append_laterTimers h.wellFormed] at hpass
  rcases onTimer_pass hcreates h.wellFormed hpass with
    ⟨left, hreturned, hwf, hperm, _, hlog⟩
  have hleft : forall t, t ∈ left.timers ->
      1 ≤ t.delay ∧ getTimeAt uptime e.offset < t.expire := by
    intro t ht
    rcases List.mem_append.mp (hperm.subset ht) with ht | ht
    · rcases rearmed_from ht with ⟨u, k, hu, rfl⟩
      have hdelay := h.delays u (mem_dueTimers.mp hu).1
      constructor
      · exact hdelay
      · show _ < w.clock k + (u.delay : Int)
        rw [e.clock]
        lia
    · rcases List.mem_append.mp ((insertAll_perm _ _).subset ht) with ht | ht
      · rcases of_mem_createdByAll ht with ⟨r, id, k, f, hu⟩
        constructor
        · exact delay_of_mem_createdBy (hwaits k f) hu
        · rw [<- e.clock uptime r]
          exact lt_expire_of_mem_createdBy hclock (hwaits k f) hu
      · constructor
        · exact h.delays t (mem_laterTimers.mp ht).1
        · exact (mem_laterTimers_world.mp ht).2
  refine ⟨left, ?_, ⟨hwf, fun t ht => (hleft t ht).1⟩,
    fun t ht => (hleft t ht).2, ?_, hlog⟩
  · apply onTimer_mono _ hreturned
    exact Nat.succ_le_succ (List.length_filter_le _ _)
  · intro t ht
    apply hperm.symm.subset
    apply List.mem_append_right
    exact (insertAll_perm _ _).symm.subset (List.mem_append_right _ ht)

theorem mem_ranTimers {uptime : Nat} {before after : State func}
    (hwf : WellFormed before)
    (hlog : after.log = before.log ++
      (dueTimers (e.world uptime) before).map (fun t => Event.ran t.id))
    (t : Entry func) :
    t ∈ ranTimers before after <->
      t ∈ before.timers ∧ t.expire ≤ getTimeAt uptime e.offset := by
  rw [ranTimers, List.mem_filter, decide_eq_true_iff, eventsOf, hlog,
    List.drop_left]
  constructor
  · rintro ⟨hmem, hran⟩
    rcases List.mem_map.mp hran with ⟨u, hu, hid⟩
    rcases mem_dueTimers_world.mp hu with ⟨humem, hdue⟩
    have heq : u = t := eq_of_id_eq hwf humem hmem (Event.ran.inj hid)
    rw [← heq]
    exact ⟨humem, hdue⟩
  · rintro ⟨hmem, hdue⟩
    refine ⟨hmem, ?_⟩
    exact List.mem_map_of_mem (mem_dueTimers_world.mpr ⟨hmem, hdue⟩)

/-!
## One round of the task
-/

theorem check_quiet {w : WakeUp}
    (h : DukMain.timerCheck e.shorten s.tick s.tick s.wakeUp = (false, w)) :
    check e s = some { s with wakeUp := w } := by
  rw [check, h]
  rfl

theorem check_expired {w : WakeUp} {lib : State func}
    (h : DukMain.timerCheck e.shorten s.tick s.tick s.wakeUp = (true, w))
    (hreturned : onTimer (e.world s.uptime) (s.lib.timers.length + 1) s.lib =
      .returned lib ()) :
    check e s = some (Board.setLib e lib
      { s with
        wakeUp := w
        invoked := s.invoked ++
          (ranTimers s.lib lib).map (fun t => (s.date e, t)) }) := by
  rw [check, h]
  dsimp only
  rw [if_pos rfl, hreturned]
  rfl

theorem check_due {w : WakeUp} {due : Nat} {first : Entry func}
    {rest : List (Entry func)} (hdelayed : Delayed s.lib)
    (htimers : s.lib.timers = first :: rest)
    (hinvoked : forall v, v ∈ s.invoked -> OnTimeRun v)
    (hexpired : DukMain.timerCheck e.shorten s.tick s.tick s.wakeUp = (true, w))
    (hdue : (due * 10000 : Nat) + e.offset < first.expire * 1000 + 10000)
    (htick : tickCount s.uptime = due) :
    exists s', check e s = some s' ∧ Timely e s' ∧ Kept [] s s' := by
  rcases e.onTimer_runs s.uptime hdelayed with
    ⟨left, hreturned, hleft, hlater, hkept, hlog⟩
  have hran := @mem_ranTimers _ e s.uptime s.lib
    (installTimer (e.world s.uptime) left) hdelayed.wellFormed
    (by rw [installTimer_log, hlog])
  refine ⟨_, check_expired hexpired hreturned, ?_, ?_, ?_⟩
  · refine timely_install (s := { s with wakeUp := w, invoked := _ }) hleft
      hlater ?_
    intro v hv
    rcases List.mem_append.mp hv with hv | hv
    · exact hinvoked v hv
    · rcases List.mem_map.mp hv with ⟨t, ht, rfl⟩
      rcases (hran t).mp ht with ⟨hmem, hreached⟩
      have hfirst := hdelayed.wellFormed.head_le htimers hmem
      have hticks := (tickCount_bounds s.uptime).2
      have hdate := (getTimeAt_bounds s.uptime e.offset).1
      constructor
      · exact hreached
      · show getTimeAt s.uptime e.offset < t.expire + 20
        lia
  · intro t ht _
    by_cases hreached : t.expire ≤ getTimeAt s.uptime e.offset
    · right
      refine ⟨s.date e, List.mem_append_right _ ?_⟩
      exact List.mem_map_of_mem ((hran t).mpr ⟨ht, hreached⟩)
    · left
      show t ∈ (installTimer _ left).timers
      rw [installTimer_timers]
      apply hkept
      exact mem_laterTimers_world.mpr ⟨ht, Int.not_le.mp hreached⟩
  · exact List.subset_append_left _ _

theorem Timely.check (h : Timely e s) {us : Nat} (hwakes : WakesInTime s us) :
    exists s', Timer.check e { s with uptime := s.uptime + us } = some s' ∧
      Timely e s' ∧ Kept [] s s' := by
  let later : Board func := { s with uptime := s.uptime + us }
  cases htimers : s.lib.timers with
  | nil =>
      have hoff := h.off htimers
      have hquiet : DukMain.timerCheck e.shorten later.tick later.tick
          later.wakeUp =
          (false, { s.wakeUp with delay := portMaxDelay, lastTicks := 0 }) := by
        rw [DukMain.timerCheck, if_pos hoff]
      refine ⟨_, check_quiet hquiet, ?_, Kept.same [] rfl rfl⟩
      refine ⟨h.delayed, fun _ => hoff, ?_, h.invoked⟩
      intro first rest hcons
      rw [htimers] at hcons
      cases hcons
  | cons first rest =>
      rcases h.armed first rest htimers with ⟨due, hrunning, hdue⟩
      have hgap : tickCount later.uptime - tickCount s.uptime ≤
          s.wakeUp.delay.toNat := by
        rcases hwakes with hforever | hwakes
        · have hcapped := hrunning.capped
          rw [hforever] at hcapped
          exact absurd hcapped (by decide)
        · show tickCount (s.uptime + us) - _ ≤ _
          lia
      have hmono : tickCount s.uptime ≤ tickCount later.uptime :=
        Nat.div_le_div_right (Nat.le_add_right s.uptime us)
      have hafter := Nat.add_sub_cancel' hmono
      have hle := hrunning.gap_le hgap
      generalize tickCount later.uptime - tickCount s.uptime = gap at *
      have hcheck : DukMain.timerCheck e.shorten later.tick later.tick
          later.wakeUp =
          ((DukMain.checkAfter e.shorten 0 gap
              ⟨tickCount s.uptime, s.wakeUp⟩).1,
            (DukMain.checkAfter e.shorten 0 gap
              ⟨tickCount s.uptime, s.wakeUp⟩).2.wakeUp) := by
        rw [DukMain.checkAfter]
        dsimp only
        rw [hafter, tickAt_zero]
        rfl
      rcases Nat.lt_or_eq_of_le hle with hearly | hnow
      · rcases hrunning.checkAfter_early e.shorten_le hgap hearly with
          ⟨hquiet, hrunning'⟩
        rw [hquiet] at hcheck
        refine ⟨_, check_quiet hcheck, ?_, Kept.same [] rfl rfl⟩
        refine ⟨h.delayed, ?_, ?_, h.invoked⟩
        · intro hnil
          rw [show s.lib.timers = [] from hnil] at htimers
          cases htimers
        · intro first' rest' hcons
          rw [show s.lib.timers = _ from hcons] at htimers
          cases htimers
          refine ⟨due, ?_, hdue⟩
          have helapsed := DukMain.checkAfter_elapsed e.shorten 0 gap
            ⟨tickCount s.uptime, s.wakeUp⟩
          rw [show tickCount s.uptime + gap = _ from hafter] at helapsed
          rw [← helapsed]
          exact hrunning'
      · have hexpired := (hrunning.checkAfter_due e.shorten hgap hnow).1
        rw [hexpired] at hcheck
        rcases check_due (s := later) h.delayed htimers h.invoked hcheck hdue
          (hafter.symm.trans hnow) with ⟨s', hs', htimely, hkept⟩
        exact ⟨s', hs', htimely, hkept.timers, hkept.invoked⟩

/-!
## The calls of an event
-/

def LoopAction.cancels : LoopAction func -> List Int
  | .sleep _ => []
  | .event calls => cancelledBy calls

end Timer
end Fluxnode
