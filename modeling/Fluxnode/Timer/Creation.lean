import Fluxnode.Timer.Dispatch

/-!
# Callbacks that create timers

A callback that creates a timer inserts it into the array that `OnTimer` walks.
As long as every new timer expires after the timer whose callback creates it,
it lands behind the index of the loop, and the pass runs each due timer once.
-/

namespace Fluxnode
namespace Timer

variable {func : Type _}

def Call.creates : Call func -> Bool
  | .setTimeout _ _ => true
  | .intervalTimer _ _ => true
  | _ => false

/-- Callbacks that return and do nothing to timers but create them. -/
def World.OnlyCreates (w : World func) : Prop :=
  forall k f c, c ∈ w.body k f -> Call.creates c = true

/-!
## The timers created by a callback

Each creation reads the clock twice, so its reading is known from the number of
creations before it.
-/

/-- The timers created by the calls, from the first reading and the first id
they use. -/
def createdBy (w : World func) :
    Nat -> Int -> List (Call func) -> List (Entry func)
  | r, id, .setTimeout f delay :: rest =>
      { func := f, expire := w.clock r + delay, delay := delay, id := id,
        interval := false } :: createdBy w (r + 2) (id + 1) rest
  | r, id, .intervalTimer f interval :: rest =>
      { func := f, expire := w.clock r + interval, delay := interval, id := id,
        interval := true } :: createdBy w (r + 2) (id + 1) rest
  | r, id, _ :: rest => createdBy w r id rest
  | _, _, [] => []

def insertAll : List (Entry func) -> List (Entry func) -> List (Entry func)
  | [], timers => timers
  | t :: rest, timers => insertAll rest (insertTimer t timers)

theorem insertAll_append_of_lt {new front back : List (Entry func)}
    (h : forall t, t ∈ new -> forall u, u ∈ front -> u.expire < t.expire) :
    insertAll new (front ++ back) = front ++ insertAll new back := by
  induction new generalizing back with
  | nil => rfl
  | cons t rest ih =>
      rw [insertAll, insertTimer_append_of_lt (h t List.mem_cons_self)]
      exact ih (fun u hu => h u (List.mem_cons_of_mem t hu))

theorem insertAll_behind {new front rest : List (Entry func)} {t : Entry func}
    (hsorted : (front ++ t :: rest).Pairwise Before)
    (hbehind : forall u, u ∈ new -> t.expire < u.expire) :
    insertAll new (front ++ t :: rest) =
      (front ++ [t]) ++ insertAll new rest := by
  have hfront : forall u, u ∈ new -> forall v, v ∈ front ++ [t] ->
      v.expire < u.expire := by
    intro u hu v hv
    have hle : v.expire ≤ t.expire := by
      rcases List.mem_append.mp hv with hv | hv
      · exact (List.pairwise_append.mp hsorted).2.2 v hv t List.mem_cons_self
      · rw [List.mem_singleton.mp hv]
    exact Int.lt_of_le_of_lt hle (hbehind u hu)
  rw [← insertAll_append_of_lt hfront, List.append_assoc]
  rfl

structure Created (s s' : State func) (new : List (Entry func)) : Prop where
  wellFormed : WellFormed s'
  timers : s'.timers = insertAll new s.timers
  reads : s'.reads = s.reads + 2 * new.length
  nextID : s'.nextID = s.nextID + new.length
  calls : s'.calls = s.calls
  log : s'.log = s.log

theorem create_created (w : World func) {s : State func} (hwf : WellFormed s)
    (f : func) (delay : Nat) (interval : Bool) :
    Created s (create w s f delay interval)
      [newEntry w s f delay interval s.nextID] where
  wellFormed := create_wellFormed hwf f delay interval
  timers := create_timers w s f delay interval
  reads := create_reads w s f delay interval
  nextID := create_nextID w s f delay interval
  calls := create_calls w s f delay interval
  log := create_log w s f delay interval

theorem Created.cons {s s₁ s₂ : State func} {t : Entry func}
    {new : List (Entry func)}
    (h : Created s s₁ [t]) (h' : Created s₁ s₂ new) :
    Created s s₂ (t :: new) where
  wellFormed := h'.wellFormed
  timers := by
    rw [h'.timers, h.timers]
    rfl
  reads := by
    rw [h'.reads, h.reads]
    simp only [List.length_cons, List.length_nil]
    lia
  nextID := by
    rw [h'.nextID, h.nextID]
    simp only [List.length_cons, List.length_nil]
    lia
  calls := h'.calls.trans h.calls
  log := h'.log.trans h.log

theorem runCalls_created
    {w : World func} {calls : List (Call func)} {s : State func}
    (hcreates : forall c, c ∈ calls -> Call.creates c = true)
    (hwf : WellFormed s) :
    exists s', runCalls w calls s = .returned s' () ∧
      Created s s' (createdBy w s.reads s.nextID calls) := by
  induction calls generalizing s with
  | nil =>
      exact ⟨s, rfl, hwf, rfl, rfl, (Int.add_zero _).symm, rfl, rfl⟩
  | cons c rest ih =>
      have hrest : forall c', c' ∈ rest -> Call.creates c' = true := by
        intro c' hc'
        exact hcreates c' (List.mem_cons_of_mem c hc')
      cases c with
      | setTimeout f delay =>
          have hfirst := create_created w hwf f delay false
          rcases ih hrest hfirst.wellFormed with ⟨s', hrun, hmore⟩
          rw [hfirst.reads, hfirst.nextID] at hmore
          refine ⟨s', ?_, hfirst.cons hmore⟩
          rw [runCalls, setTimeout_eq]
          exact hrun
      | intervalTimer f interval =>
          have hfirst := create_created w hwf f interval true
          rcases ih hrest hfirst.wellFormed with ⟨s', hrun, hmore⟩
          rw [hfirst.reads, hfirst.nextID] at hmore
          refine ⟨s', ?_, hfirst.cons hmore⟩
          rw [runCalls, intervalTimer_eq]
          exact hrun
      | cancelTimer id =>
          cases hcreates _ List.mem_cons_self
      | throws =>
          cases hcreates _ List.mem_cons_self

def createdIn (w : World func) (s : State func) (t : Entry func) :
    List (Entry func) :=
  createdBy w s.reads s.nextID (w.body s.calls t.func)

theorem invoke_created
    {w : World func} {s : State func} (t : Entry func)
    (hcreates : w.OnlyCreates) (hwf : WellFormed s) :
    exists s', invoke w t s = .returned s' () ∧
      WellFormed s' ∧
      s'.timers = insertAll (createdIn w s t) s.timers ∧
      s'.reads = s.reads + 2 * (createdIn w s t).length ∧
      s'.nextID = s.nextID + (createdIn w s t).length ∧
      s'.calls = s.calls + 1 ∧ s'.log = s.log ++ [.ran t.id] := by
  have hwf₁ : WellFormed
      { s with calls := s.calls + 1, log := s.log ++ [.ran t.id] } :=
    hwf.of_sublist (List.Sublist.refl _) rfl
  rcases runCalls_created (w := w) (hcreates s.calls t.func) hwf₁ with
    ⟨s', hrun, hnew⟩
  exact ⟨s', hrun, hnew.wellFormed, hnew.timers, hnew.reads, hnew.nextID,
    hnew.calls, hnew.log⟩

/-!
## A pass over the due timers
-/

/--
A pass at time `ts` that starts with the given number of clock readings, next
id, and number of callbacks run.  It runs the timers of the array up to the
first that is not due, among them those created on the way, and ends with the
timers that ran, the timers left, and the number of clock readings.
-/
inductive Pass (w : World func) (ts : Int) :
    Nat -> Int -> Nat -> List (Entry func) ->
      List (Entry func) -> List (Entry func) -> Nat -> Prop where
  | stop {r : Nat} {id : Int} {k : Nat} {timers : List (Entry func)}
      (hlater : forall t, t ∈ timers.head? -> ts < t.expire) :
      Pass w ts r id k timers [] timers r
  | run {r r' : Nat} {id : Int} {k : Nat} {t : Entry func}
      {rest new ran left : List (Entry func)}
      (hdue : t.expire ≤ ts)
      (hnew : createdBy w r id (w.body k t.func) = new)
      (hbehind : forall u, u ∈ new -> t.expire < u.expire)
      (hrest : Pass w ts (r + 2 * new.length) (id + new.length) (k + 1)
        (insertAll new rest) ran left r') :
      Pass w ts r id k (t :: rest) (t :: ran) left r'

theorem onTimerLoop_pass
    {w : World func} {ts : Int} {r r' : Nat} {id : Int} {k : Nat}
    {back ran left : List (Entry func)}
    (hcreates : w.OnlyCreates)
    (hpass : Pass w ts r id k back ran left r')
    {s : State func} (front : List (Entry func)) (expired : List Int)
    (hwf : WellFormed s) (htimers : s.timers = front ++ back)
    (hreads : s.reads = r) (hnext : s.nextID = id) (hcalls : s.calls = k) :
    exists s',
      onTimerLoop w ts (ran.length + 1) front.length expired s =
          .returned s' (expired ++ ran.map Entry.id) ∧
        WellFormed s' ∧ s'.timers = front ++ ran ++ left ∧ s'.reads = r' ∧
        s'.log = s.log ++ ran.map (fun t => Event.ran t.id) := by
  induction hpass generalizing s front expired with
  | @stop r id k timers hlater =>
      refine ⟨s, ?_, hwf, ?_, hreads, ?_⟩
      · rw [List.map_nil, List.append_nil]
        apply onTimerLoop_stop
        intro t ht
        rw [htimers, List.getElem?_append_right (Nat.le_refl _),
          Nat.sub_self, ← List.head?_eq_getElem?] at ht
        exact hlater t ht
      · rw [htimers, List.append_nil]
      · exact (List.append_nil _).symm
  | @run r r' id k t rest new ran left hdue hnew hbehind _ ih =>
      have hnew' : createdIn w s t = new := by
        rw [createdIn, hreads, hnext, hcalls, hnew]
      rcases invoke_created t hcreates hwf with
        ⟨s₁, hrun, hwf₁, htimers₁, hreads₁, hnext₁, hcalls₁, hlog₁⟩
      rw [hnew'] at htimers₁ hreads₁ hnext₁
      have hsplit : s₁.timers = (front ++ [t]) ++ insertAll new rest := by
        have hsorted := hwf.sorted
        rw [htimers] at hsorted
        rw [htimers₁, htimers, insertAll_behind hsorted hbehind]
      have hlength : (front ++ [t]).length = front.length + 1 := by
        rw [List.length_append, List.length_singleton]
      have hat : s.timers[front.length]? = some t := by
        rw [htimers]
        simp
      have hat₁ : s₁.timers[front.length]? = some t := by
        rw [hsplit]
        simp
      rcases ih (front ++ [t]) (expired ++ [t.id]) hwf₁ hsplit
          (by rw [hreads₁, hreads]) (by rw [hnext₁, hnext])
          (by rw [hcalls₁, hcalls]) with
        ⟨s', hloop, hwf', htimers', hreads', hlog'⟩
      refine ⟨s', ?_, hwf', ?_, hreads', ?_⟩
      · rw [List.length_cons, onTimerLoop_step hat hdue hrun hat₁, ← hlength,
          hloop, List.append_assoc]
        rfl
      · rw [htimers', List.append_assoc front [t] ran]
        rfl
      · rw [hlog', hlog₁, List.append_assoc]
        rfl

theorem onTimer_pass
    {w : World func} {s : State func} {ran left : List (Entry func)} {r' : Nat}
    (hcreates : w.OnlyCreates) (hwf : WellFormed s)
    (hpass : Pass w (w.clock s.reads) (s.reads + 1) s.nextID s.calls s.timers
      ran left r') :
    exists s₁,
      onTimer w (ran.length + 1) s = .returned (installTimer w s₁) () ∧
        WellFormed s₁ ∧ s₁.timers.Perm (rearmed w r' ran ++ left) ∧
        s₁.reads = r' + (rearmed w r' ran).length ∧
        s₁.log = s.log ++ ran.map (fun t => Event.ran t.id) := by
  have hwf₀ : WellFormed { s with reads := s.reads + 1 } :=
    hwf.of_sublist (List.Sublist.refl _) rfl
  rcases onTimerLoop_pass hcreates hpass [] [] hwf₀ rfl rfl rfl rfl with
    ⟨s', hloop, hwf', htimers', hreads', hlog'⟩
  have hperm : s'.timers.Perm (ran ++ left) := by
    rw [htimers']
    exact List.Perm.refl _
  rcases rearmExpired_perm hwf' hperm with
    ⟨s₁, hrearm, hwf₁, hperm₁, hreads₁, hlog₁⟩
  rw [hreads'] at hperm₁ hreads₁
  refine ⟨s₁, ?_, hwf₁, hperm₁, hreads₁, hlog₁.trans hlog'⟩
  exact onTimer_returned_iff.mpr ⟨s', s₁, _, hloop, hrearm, rfl⟩

end Timer
end Fluxnode
