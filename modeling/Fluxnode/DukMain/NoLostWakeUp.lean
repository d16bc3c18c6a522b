import Fluxnode.DukMain.StackHeight

/-!
# No wake-up and no reset is lost

The notifications are cleared as a whole when the task wakes up, and the reset
flag is cleared inside of `duk_init`.  In the dispatch loop the queue may hold
events nobody gives notice of: the loop is left when the queue is empty.
Between the clearing of the flag and the start of the load a reset request has
no trace: the load serves it.
-/

namespace Fluxnode
namespace DukMain

variable {α T : Type}

def Draining : Pc -> Prop
  | .timerCheck => True
  | .runOnTimer => True
  | .queueGet => True
  | .dispatch _ => True
  | .runOnEvent _ => True
  | .freeMsg _ => True
  | _ => False

def AppendNoticed (s : State α T) : Prop :=
  0 < s.notifications ∨ s.scriptAppended = true ∨
    exists t, s.thread t = .appended

def ResetNoticed (s : State α T) (k : Nat) (r : ResetRequest T) : Prop :=
  0 < s.notifications ∨
    exists t, r.requester = some t ∧ s.thread t = .flagSet k

/-- What holds of queue, flag and notifications between any two steps. -/
structure WakeInv (s : State α T) : Prop where
  awake : ¬ Draining s.pc -> s.g.eventQueue = [] ∨ AppendNoticed s
  script : s.scriptAppended = true -> ScriptRuns s
  loads : forall r, r ∈ s.history.requests -> r.loads ≤ s.history.loads
  flagged : s.pc ≠ .loadAndRun -> forall r, r ∈ s.history.requests ->
    r.loads = s.history.loads -> s.g.reset = true
  noticed : s.pc = .notifyTake -> forall k r,
    s.history.requests[k]? = some r -> r.loads = s.history.loads ->
      ResetNoticed s k r

theorem initial_wakeInv (reset : Bool) (wakeUp : WakeUp) :
    WakeInv (initial α T reset wakeUp) where
  awake _ := Or.inl rfl
  script hscript := by cases hscript
  loads r hr := by cases hr
  flagged _ r hr := by cases hr
  noticed hpc := by cases hpc

/-!
## Steps of the task
-/

theorem WakeInv.of_task {s s' : State α T} (h : WakeInv s)
    (hidle : s'.scriptAppended = s.scriptAppended)
    (hquiet : s.scriptAppended = false)
    (hthread : s'.thread = s.thread)
    (hrequests : s'.history.requests = s.history.requests)
    (hawake : ¬ Draining s'.pc -> s'.g.eventQueue = [] ∨
      (¬ Draining s.pc ∧ s.g.eventQueue ≠ [] ∧
        s'.notifications = s.notifications))
    (hloads : s'.history.loads = s.history.loads)
    (hflag : s'.pc ≠ .loadAndRun -> s'.g.reset = true ∨
      (s.pc ≠ .loadAndRun ∧ s'.g.reset = s.g.reset))
    (hsleep : s'.pc = .notifyTake -> s'.g.reset = false) :
    WakeInv s' := by
  have hflagged : s'.pc ≠ .loadAndRun -> forall r,
      r ∈ s'.history.requests -> r.loads = s'.history.loads ->
        s'.g.reset = true := by
    intro hpc r hr hunserved
    rw [hrequests] at hr
    rw [hloads] at hunserved
    rcases hflag hpc with hset | ⟨hpc', hsame⟩
    · exact hset
    · rw [hsame]
      exact h.flagged hpc' r hr hunserved
  constructor
  · intro hpc
    rcases hawake hpc with hempty | ⟨hpc', hqueue, hnotifications⟩
    · exact Or.inl hempty
    · right
      rw [AppendNoticed, hnotifications, hidle, hthread]
      exact (h.awake hpc').resolve_left hqueue
  · intro hscript
    rw [hidle, hquiet] at hscript
    cases hscript
  · rw [hrequests, hloads]
    exact h.loads
  · exact hflagged
  · intro hpc k r hr hunserved
    have hset := hflagged (by rw [hpc]; simp) r
      (List.mem_of_getElem? hr) hunserved
    rw [hsleep hpc] at hset
    cases hset

theorem Move.draining {s : State α T} {next : Pc} (h : Move s next)
    (hnext : ¬ Draining next) :
    ¬ Draining s.pc ∨ s.g.eventQueue = [] := by
  cases h <;> simp_all [Draining]

theorem Move.not_loadAndRun {s : State α T} {next : Pc} (h : Move s next) :
    s.pc ≠ .loadAndRun := by
  cases h <;> simp [*]

theorem Move.to_notifyTake {s : State α T} {next : Pc} (h : Move s next)
    (hnext : next = .notifyTake) : s.g.reset = false := by
  cases h <;> simp_all

theorem WakeInv.of_drain {s s' : State α T} (h : WakeInv s)
    (hidle : s'.scriptAppended = s.scriptAppended)
    (hquiet : s.scriptAppended = false)
    (hthread : s'.thread = s.thread)
    (hrequests : s'.history.requests = s.history.requests)
    (hloads : s'.history.loads = s.history.loads)
    (hreset : s'.g.reset = s.g.reset) (hpc : s.pc ≠ .loadAndRun)
    (hdrain : Draining s'.pc) : WakeInv s' := by
  refine h.of_task hidle hquiet hthread hrequests ?_ hloads ?_ ?_
  · intro hnext
    exact absurd hdrain hnext
  · intro _
    exact Or.inr ⟨hpc, hreset⟩
  · intro hsleep
    rw [hsleep] at hdrain
    cases hdrain

theorem WakeInv.of_init {s s' : State α T} (h : WakeInv s)
    (hidle : s'.scriptAppended = s.scriptAppended)
    (hquiet : s.scriptAppended = false)
    (hthread : s'.thread = s.thread)
    (hrequests : s'.history.requests = s.history.requests)
    (hloads : s'.history.loads = s.history.loads)
    (hnotifications : s'.notifications = s.notifications)
    (hqueue : s.g.eventQueue = [] -> s'.g.eventQueue = [])
    (hdrain : ¬ Draining s.pc)
    (hflag : s'.pc ≠ .loadAndRun -> s'.g.reset = true ∨
      (s.pc ≠ .loadAndRun ∧ s'.g.reset = s.g.reset))
    (hnext : s'.pc ≠ .notifyTake) : WakeInv s' := by
  refine h.of_task hidle hquiet hthread hrequests ?_ hloads hflag ?_
  · intro _
    by_cases hempty : s.g.eventQueue = []
    · exact Or.inl (hqueue hempty)
    · exact Or.inr ⟨hdrain, hempty, hnotifications⟩
  · intro hsleep
    exact absurd hsleep hnext

theorem WakeInv.taskStep {w : World α} {s s' : State α T}
    (h : WakeInv s) (hquiet : s.scriptAppended = false)
    (hstep : TaskStep w s s') : WakeInv s' := by
  cases hstep with
  | start hpc =>
      exact h.of_init rfl hquiet rfl rfl rfl rfl id (by simp [Draining, hpc])
        (fun _ => Or.inl rfl) (by simp)
  | @move next wakeUp hmove =>
      refine h.of_task rfl hquiet rfl rfl ?_ rfl ?_ hmove.to_notifyTake
      · intro hnext
        by_cases hempty : s.g.eventQueue = []
        · exact Or.inl hempty
        · exact Or.inr
            ⟨(hmove.draining hnext).resolve_right hempty, hempty, rfl⟩
      · intro _
        exact Or.inr ⟨hmove.not_loadAndRun, rfl⟩
  | load hpc =>
      exact h.of_init rfl hquiet rfl rfl rfl rfl id (by simp [Draining, hpc])
        (fun _ => Or.inr ⟨by simp [hpc], rfl⟩) (by simp [stepLoad])
  | discard hpc hqueue =>
      exact h.of_init rfl hquiet rfl rfl rfl rfl (by simp [hqueue])
        (by simp [Draining, hpc]) (fun _ => Or.inr ⟨by simp [hpc], rfl⟩)
        (by simp [hpc])
  | clearReset hpc =>
      exact h.of_init rfl hquiet rfl rfl rfl rfl id (by simp [Draining, hpc])
        (fun hnext => absurd rfl hnext) (by simp [stepClearReset])
  | loadAndRun hpc =>
      -- every request so far is served by this load
      have hserved : forall r, r ∈ s.history.requests ->
          r.loads ≠ s.history.loads + 1 := by
        intro r hr
        exact Nat.ne_of_lt (Nat.lt_succ_of_le (h.loads r hr))
      exact
        { awake := fun _ => h.awake (by simp [Draining, hpc])
          script := fun hscript => absurd hscript (by simp [hquiet,
            stepLoadAndRun])
          loads := fun r hr => Nat.le_succ_of_le (h.loads r hr)
          flagged := fun _ r hr hloads => absurd hloads (hserved r hr)
          noticed := fun hsleep => by cases hsleep }
  | failed loadIndex hpc =>
      exact h.of_init rfl hquiet rfl rfl rfl rfl (by simp)
        (by simp [Draining, hpc]) (fun _ => Or.inr (by simp [hpc]))
        (by simp)
  | loaded hpc hresult =>
      exact h.of_init rfl hquiet rfl rfl rfl rfl (by simp)
        (by simp [Draining, hpc]) (fun _ => Or.inr (by simp [hpc]))
        (by simp)
  | notified hpc =>
      exact h.of_drain rfl hquiet rfl rfl rfl rfl (by simp [hpc]) trivial
  | take hpc hqueue =>
      exact h.of_drain rfl hquiet rfl rfl rfl rfl (by simp [hpc]) trivial
  | incoming object func hpc hdirection hctx =>
      exact h.of_drain rfl hquiet rfl rfl rfl rfl (by simp [hpc]) trivial
  | sent hpc hdirection htype hfunc =>
      exact h.of_drain rfl hquiet rfl rfl rfl rfl (by simp [hpc]) trivial
  | ignored hpc hdirection hnobody =>
      exact h.of_drain rfl hquiet rfl rfl rfl rfl (by simp [hpc]) trivial
  | eventDone hpc hctx hfinish =>
      exact h.of_drain rfl hquiet rfl rfl rfl rfl (by simp [hpc]) trivial

/-!
## Steps of the script

No script runs while the task waits.
-/

theorem ScriptRuns.ne_notifyTake {s : State α T} (h : ScriptRuns s) :
    s.pc ≠ .notifyTake := by
  intro hpc
  rw [ScriptRuns, hpc] at h
  exact h

theorem WakeInv.loads_requestReset {s : State α T} (h : WakeInv s)
    (requester : Option T) (r : ResetRequest T)
    (hr : r ∈ (requestReset s requester).history.requests) :
    r.loads ≤ s.history.loads := by
  rcases List.mem_append.mp hr with hold | hnew
  · exact h.loads r hold
  · cases List.mem_singleton.mp hnew
    exact Nat.le_refl _

theorem WakeInv.scriptStep {s s' : State α T} (h : WakeInv s)
    (hruns : ScriptRuns s) (hstep : ScriptStep s s') : WakeInv s' := by
  have hsleep := hruns.ne_notifyTake
  cases hstep with
  | append event hidle =>
      exact
        { awake := fun _ => Or.inr (Or.inr (Or.inl rfl))
          script := fun _ => hruns
          loads := h.loads
          flagged := h.flagged
          noticed := fun hpc => absurd hpc hsleep }
  | wake happended =>
      exact
        { awake := fun _ => Or.inr (Or.inl (Nat.succ_pos _))
          script := fun hscript => by cases hscript
          loads := h.loads
          flagged := h.flagged
          noticed := fun hpc => absurd hpc hsleep }
  | reset hidle =>
      exact
        { awake := h.awake
          script := fun _ => hruns
          loads := h.loads_requestReset _
          flagged := fun _ _ _ _ => rfl
          noticed := fun hpc => absurd hpc hsleep }
  | assign wakeUp sendFunc loadFile hidle =>
      exact
        { awake := h.awake
          script := fun _ => hruns
          loads := h.loads
          flagged := h.flagged
          noticed := fun hpc => absurd hpc hsleep }

/-!
## Steps of the other threads
-/

variable [DecidableEq T]

theorem AppendNoticed.of_idle {s : State α T} {t : T} (pc : ThreadPc)
    (h : AppendNoticed s) (hidle : s.thread t = .idle) :
    AppendNoticed (setThread s t pc) := by
  rcases h with hcount | hscript | ⟨t', happended⟩
  · exact Or.inl hcount
  · exact Or.inr (Or.inl hscript)
  · refine Or.inr (Or.inr ⟨t', ?_⟩)
    have hne : t' ≠ t := by
      intro hsame
      subst hsame
      rw [hidle] at happended
      cases happended
    exact (Function.update_of_ne hne _ _).trans happended

theorem ResetNoticed.of_idle {s : State α T} {t : T} (pc : ThreadPc)
    {k : Nat} {r : ResetRequest T} (h : ResetNoticed s k r)
    (hidle : s.thread t = .idle) : ResetNoticed (setThread s t pc) k r := by
  rcases h with hcount | ⟨t', hrequester, hflag⟩
  · exact Or.inl hcount
  · refine Or.inr ⟨t', hrequester, ?_⟩
    have hne : t' ≠ t := by
      intro hsame
      subst hsame
      rw [hidle] at hflag
      cases hflag
    exact (Function.update_of_ne hne _ _).trans hflag

theorem WakeInv.threadStep {t : T} {s s' : State α T} (h : WakeInv s)
    (hstep : ThreadStep t s s') : WakeInv s' := by
  cases hstep with
  | append event hidle =>
      exact
        { awake := fun _ =>
            Or.inr (Or.inr (Or.inr ⟨t, Function.update_self _ _ _⟩))
          script := h.script
          loads := h.loads
          flagged := h.flagged
          noticed := by
            intro hpc k r hr hunserved
            exact (h.noticed hpc k r hr hunserved).of_idle .appended hidle }
  | reset hidle =>
      exact
        { awake := by
            intro hdrain
            rcases h.awake hdrain with hempty | hnoticed
            · exact Or.inl hempty
            · exact Or.inr (hnoticed.of_idle _ hidle)
          script := h.script
          loads := h.loads_requestReset _
          flagged := fun _ _ _ _ => rfl
          noticed := by
            intro hpc k r hr hunserved
            by_cases hold : k < s.history.requests.length
            · have hr' : s.history.requests[k]? = some r := by
                rw [← hr]
                exact (List.getElem?_append_left hold).symm
              have hnoticed := h.noticed hpc k r hr' hunserved
              exact hnoticed.of_idle (.flagSet _) hidle
            · -- the request that is being made
              have hle := Nat.le_of_not_lt hold
              change (s.history.requests ++ [_])[k]? = some r at hr
              rw [List.getElem?_append_right hle,
                List.getElem?_singleton] at hr
              split at hr
              · rename_i hzero
                cases hr
                have hk : k = s.history.requests.length :=
                  Nat.le_antisymm (Nat.le_of_sub_eq_zero hzero) hle
                refine Or.inr ⟨t, rfl, ?_⟩
                rw [hk]
                exact Function.update_self _ _ _
              · cases hr }
  | setLoad file hidle =>
      exact ⟨h.awake, h.script, h.loads, h.flagged, h.noticed⟩
  | wake hbusy =>
      exact
        { awake := fun _ => Or.inr (Or.inl (Nat.succ_pos _))
          script := h.script
          loads := h.loads
          flagged := h.flagged
          noticed := fun _ _ _ _ _ => Or.inl (Nat.succ_pos _) }

/-!
## Every run
-/

theorem reachable_wakeInv {w : World α} {s : State α T}
    (h : Reachable w s) : WakeInv s :=
  h.invariant initial_wakeInv
    (fun _ _ hs hquiet hstep => hs.taskStep hquiet hstep)
    (fun _ _ hs hruns hstep => hs.scriptStep hruns hstep)
    (fun _ _ _ hs hstep => hs.threadStep hstep)

def Blocked (s : State α T) : Prop :=
  s.pc = .notifyTake ∧ s.notifications = 0

/--
While the task is blocked, the queue is empty or a producer is still to notify
the task, and every reset request was followed by the start of a load, or its
requester is still to notify the task.
-/
theorem no_lost_wakeUp (w : World α) (s : State α T)
    (hreach : Reachable w s) (hblocked : Blocked s) :
    (s.g.eventQueue = [] ∨ exists t, s.thread t = .appended) ∧
    forall k r, s.history.requests[k]? = some r ->
      r.loads < s.history.loads ∨
        exists t, r.requester = some t ∧ s.thread t = .flagSet k := by
  have h := reachable_wakeInv hreach
  rcases hblocked with ⟨hpc, hcount⟩
  have hnone : ¬ 0 < s.notifications := by
    rw [hcount]
    exact Nat.lt_irrefl 0
  constructor
  · rcases h.awake (by rw [hpc]; exact id) with hempty | hnoticed
    · exact Or.inl hempty
    · rcases hnoticed with hpos | hscript | hproducer
      · exact absurd hpos hnone
      · exact absurd hpc (h.script hscript).ne_notifyTake
      · exact Or.inr hproducer
  · intro k r hr
    have hle := h.loads r (List.mem_of_getElem? hr)
    rcases Nat.lt_or_eq_of_le hle with hserved | hunserved
    · exact Or.inl hserved
    · exact Or.inr
        ((h.noticed hpc k r hr hunserved).resolve_left hnone)

/-- The task waits after the first load; one thread appends an event and another
one requests a reset, and neither has notified the task yet. -/
def resetRun : List (Action Unit Bool) :=
  List.replicate 11 (.task goodInput) ++
    [.thread true (.addFullEvent pressArgs), .thread false .reset]

theorem reset_run :
    (Foundation.runAll (step plainWorld) resetRun
        (initial Unit Bool false noWakeUp)).map
      (fun s => (s.pc, s.notifications, s.g.eventQueue.length,
        s.history.requests.length)) =
      some (.notifyTake, 0, 1, 1) := rfl

theorem no_lost_wakeUp_resetRun :
    exists s : State Unit Bool, Reachable plainWorld s ∧ Blocked s ∧
      s.g.eventQueue.length = 1 ∧ s.history.requests.length = 1 ∧
      (s.g.eventQueue = [] ∨ exists t, s.thread t = .appended) ∧
      forall k r, s.history.requests[k]? = some r ->
        r.loads < s.history.loads ∨
          exists t, r.requester = some t ∧ s.thread t = .flagSet k := by
  rcases Option.map_eq_some_iff.mp reset_run with ⟨s, hrun, hs⟩
  simp only [Prod.mk.injEq] at hs
  rcases hs with ⟨hpc, hcount, hqueue, hrequests⟩
  have hreach : Reachable plainWorld s :=
    ⟨_, resetRun, ⟨false, noWakeUp, rfl⟩, hrun⟩
  have hblocked : Blocked s := ⟨hpc, hcount⟩
  exact ⟨s, hreach, hblocked, hqueue, hrequests,
    no_lost_wakeUp plainWorld s hreach hblocked⟩

end DukMain
end Fluxnode
