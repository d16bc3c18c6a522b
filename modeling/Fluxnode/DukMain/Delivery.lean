import Mathlib.Data.List.Nodup
import Fluxnode.DukMain.StackHeight

/-!
# Events are delivered in order, once

The appended events are the removed ones followed by the queued ones.  A removed
event was either taken by the dispatch loop or discarded by
`work_queue_delete`; what the dispatch loop does with it depends on the event
and on the function that is set to send messages.
-/

namespace Fluxnode
namespace DukMain

variable {α T : Type}

def History.removedBy (h : History T) (fate : Fate) : List Appended :=
  (h.removed.filter (·.2 == fate)).map Prod.fst

def inHand : Pc -> List Appended
  | .dispatch msg => [msg]
  | _ => []

/-- The call that an event is to cause: `OnEvent` for an incoming one, and the
function that is set for an outgoing `UI_MSG`. -/
def expectedCall (d : Dispatched) : Option Call :=
  match d.msg.event.msgDirection with
  | .incoming => some (.onEvent d.msg d.deletes)
  | .outgoing =>
      if d.msg.event.msgType = uiMsg then
        d.sendFunc.map (fun func => .sendFunc func d.msg d.deletes)
      else
        none

def Call.msg : Call -> Appended
  | .onEvent msg _ => msg
  | .sendFunc _ msg _ => msg

def Call.deletes : Call -> Nat
  | .onEvent _ deletes => deletes
  | .sendFunc _ _ deletes => deletes

/-!
## The invariant
-/

/-- What holds of the queue and the history between any two steps. -/
structure DeliveryInv (s : State α T) : Prop where
  order : s.history.appended =
    s.history.removed.map Prod.fst ++ s.g.eventQueue
  serials : s.history.appended.map Appended.serial =
    List.range s.history.appended.length
  taken : s.history.removedBy .taken =
    s.history.dispatched.map Dispatched.msg ++ inHand s.pc
  calls : s.history.calls = s.history.dispatched.filterMap expectedCall
  fresh : s.pc ≠ .deleteQueue -> forall msg, msg ∈ s.g.eventQueue ->
    msg.deletes = s.history.deletes
  hand : forall msg, msg ∈ inHand s.pc -> msg.deletes = s.history.deletes
  current : forall d, d ∈ s.history.dispatched -> d.msg.deletes = d.deletes

theorem initial_deliveryInv (reset : Bool) (wakeUp : WakeUp) :
    DeliveryInv (initial α T reset wakeUp) where
  order := rfl
  serials := rfl
  taken := rfl
  calls := rfl
  fresh _ msg hmsg := by cases hmsg
  hand msg hmsg := by cases hmsg
  current d hd := by cases hd

theorem DeliveryInv.congr {s s' : State α T} (h : DeliveryInv s)
    (hhand : inHand s'.pc = inHand s.pc)
    (hdelete : s.pc = .deleteQueue -> s'.pc = .deleteQueue ∨
      s'.g.eventQueue = [])
    (hqueue : s'.g.eventQueue = s.g.eventQueue)
    (happended : s'.history.appended = s.history.appended)
    (hremoved : s'.history.removed = s.history.removed)
    (hdispatched : s'.history.dispatched = s.history.dispatched)
    (hcalls : s'.history.calls = s.history.calls)
    (hdeletes : s'.history.deletes = s.history.deletes) :
    DeliveryInv s' where
  order := by
    rw [happended, hremoved, hqueue]
    exact h.order
  serials := by
    rw [happended]
    exact h.serials
  taken := by
    rw [History.removedBy, hremoved, hdispatched, hhand]
    exact h.taken
  calls := by
    rw [hcalls, hdispatched]
    exact h.calls
  fresh := by
    intro hpc msg hmsg
    rw [hdeletes]
    by_cases hdel : s.pc = .deleteQueue
    · rcases hdelete hdel with hsame | hempty
      · exact absurd hsame hpc
      · rw [hempty] at hmsg
        cases hmsg
    · rw [hqueue] at hmsg
      exact h.fresh hdel msg hmsg
  hand := by
    rw [hhand, hdeletes]
    exact h.hand
  current := by
    rw [hdispatched]
    exact h.current

/-!
## Steps
-/

theorem Move.inHand {s : State α T} {next : Pc} (h : Move s next) :
    inHand next = inHand s.pc := by
  cases h <;> simp [DukMain.inHand, *]

theorem Move.leaves_deleteQueue {s : State α T} {next : Pc}
    (h : Move s next) (hpc : s.pc = .deleteQueue) :
    s.g.eventQueue = [] := by
  cases h <;> simp_all

theorem DeliveryInv.append {s : State α T} (h : DeliveryInv s)
    (event : Event) : DeliveryInv (append s event) where
  order := by
    change s.history.appended ++ [_] = _ ++ (s.g.eventQueue ++ [_])
    rw [h.order, List.append_assoc]
    rfl
  serials := by
    change (s.history.appended ++ [_]).map _ =
      List.range (s.history.appended ++ [_]).length
    rw [List.map_append, h.serials, List.length_append,
      List.length_singleton, List.range_succ]
    rfl
  taken := h.taken
  calls := h.calls
  fresh := by
    intro hpc msg hmsg
    rcases List.mem_append.mp hmsg with hold | hnew
    · exact h.fresh hpc msg hold
    · rw [List.mem_singleton.mp hnew]
      rfl
  hand := h.hand
  current := h.current

theorem order_of_remove {s : State α T} (h : DeliveryInv s)
    {msg : Appended} {rest : List Appended}
    (hqueue : s.g.eventQueue = msg :: rest) (fate : Fate) :
    s.history.appended =
      (s.history.removed ++ [(msg, fate)]).map Prod.fst ++ rest := by
  rw [h.order, hqueue, List.map_append, List.append_assoc]
  rfl

theorem removedBy_concat (h : History T) (msg : Appended)
    (fate fate' : Fate) :
    ((h.removed ++ [(msg, fate')]).filter (·.2 == fate)).map Prod.fst =
      h.removedBy fate ++ if fate' = fate then [msg] else [] := by
  by_cases heq : fate' = fate
  · simp [History.removedBy, heq]
  · simp [History.removedBy, heq]

theorem DeliveryInv.dispatch {s s' : State α T} {msg : Appended}
    {calls : List Call} (h : DeliveryInv s) (hpc : s.pc = .dispatch msg)
    (hnext : inHand s'.pc = [])
    (hqueue : s'.g.eventQueue = s.g.eventQueue)
    (hhistory : s'.history = recordDispatch s msg calls)
    (hcalls : calls = (expectedCall
      { msg := msg
        sendFunc := s.g.sendFunc
        deletes := s.history.deletes }).toList) :
    DeliveryInv s' where
  order := by
    rw [hhistory, hqueue]
    exact h.order
  serials := by
    rw [hhistory]
    exact h.serials
  taken := by
    rw [hhistory, hnext, List.append_nil]
    have htaken := h.taken
    rw [hpc] at htaken
    change s.history.removedBy .taken = _
    rw [htaken, recordDispatch, List.map_append]
    rfl
  calls := by
    rw [hhistory]
    change s.history.calls ++ calls = _
    rw [h.calls, hcalls, recordDispatch, List.filterMap_append]
    rfl
  fresh := by
    intro _ m hm
    rw [hqueue] at hm
    rw [hhistory]
    apply h.fresh _ m hm
    rw [hpc]
    intro hdel
    cases hdel
  hand := by
    rw [hnext]
    intro m hm
    cases hm
  current := by
    rw [hhistory]
    intro d hd
    rcases List.mem_append.mp hd with hold | hnew
    · exact h.current d hold
    · rw [List.mem_singleton.mp hnew]
      apply h.hand
      rw [hpc]
      exact List.mem_singleton_self msg

theorem DeliveryInv.taskStep {w : World α} {s s' : State α T}
    (h : DeliveryInv s) (hstep : TaskStep w s s') : DeliveryInv s' := by
  cases hstep with
  | start hpc =>
      apply h.congr <;> simp [inHand, hpc]
  | move wakeUp hmove =>
      have hempty := hmove.leaves_deleteQueue
      exact h.congr hmove.inHand (fun hpc => Or.inr (hempty hpc)) rfl rfl
        rfl rfl rfl rfl
  | load hpc =>
      have hfresh : forall msg, msg ∈ inHand (Pc.deleteQueue) ->
          msg.deletes = s.history.deletes + 1 := by
        intro msg hmsg
        cases hmsg
      have htaken := h.taken
      rw [hpc] at htaken
      exact
        { order := h.order
          serials := h.serials
          taken := htaken
          calls := h.calls
          fresh := fun hdelete => absurd rfl hdelete
          hand := hfresh
          current := h.current }
  | @discard msg rest hpc hqueue =>
      have htaken := h.taken
      have hhand := h.hand
      rw [hpc] at htaken hhand
      exact
        { order := order_of_remove h hqueue .discarded
          serials := h.serials
          taken := by
            rw [History.removedBy, removedBy_concat, hpc, if_neg (by simp),
              List.append_nil]
            exact htaken
          calls := h.calls
          fresh := fun hdelete => absurd hpc hdelete
          hand := by
            rw [hpc]
            exact hhand
          current := h.current }
  | clearReset hpc =>
      apply h.congr <;> simp [inHand, hpc, stepClearReset]
  | loadAndRun hpc =>
      apply h.congr <;> simp [inHand, hpc, stepLoadAndRun]
  | failed loadIndex hpc =>
      apply h.congr <;> simp [inHand, hpc]
  | loaded hpc hresult =>
      apply h.congr <;> simp [inHand, hpc]
  | notified hpc =>
      apply h.congr <;> simp [inHand, hpc]
  | @take msg rest hpc hqueue =>
      have htaken := h.taken
      have hfresh := h.fresh
      rw [hpc] at htaken hfresh
      rw [hqueue] at hfresh
      have hcurrent := hfresh (by simp)
      exact
        { order := order_of_remove h hqueue .taken
          serials := h.serials
          taken := by
            rw [History.removedBy, removedBy_concat, if_pos rfl, htaken]
            simp [inHand]
          calls := h.calls
          fresh := by
            intro _ m hm
            exact hcurrent m (List.mem_cons_of_mem msg hm)
          hand := by
            intro m hm
            rw [List.mem_singleton.mp hm]
            exact hcurrent msg List.mem_cons_self
          current := h.current }
  | incoming object func hpc hdirection hctx =>
      refine h.dispatch hpc rfl rfl rfl ?_
      simp [expectedCall, hdirection]
  | @sent msg func hpc hdirection htype hfunc =>
      refine h.dispatch hpc rfl rfl rfl ?_
      cases hmsg : msg.event.msgDirection with
      | incoming => exact absurd hmsg hdirection
      | outgoing => simp [expectedCall, hmsg, htype, hfunc]
  | @ignored msg hpc hdirection hnobody =>
      refine h.dispatch hpc rfl rfl rfl ?_
      cases hmsg : msg.event.msgDirection with
      | incoming => exact absurd hmsg hdirection
      | outgoing =>
          rcases hnobody with htype | hnone
          · simp [expectedCall, hmsg, htype]
          · simp [expectedCall, hmsg, hnone]
  | eventDone hpc hctx hfinish =>
      apply h.congr <;> simp [inHand, hpc]

theorem DeliveryInv.scriptStep {s s' : State α T} (h : DeliveryInv s)
    (hstep : ScriptStep s s') : DeliveryInv s' := by
  cases hstep with
  | append event hidle =>
      exact (h.append event).congr rfl Or.inl rfl rfl rfl rfl rfl rfl
  | wake happended =>
      exact h.congr rfl Or.inl rfl rfl rfl rfl rfl rfl
  | reset hidle =>
      exact h.congr rfl Or.inl rfl rfl rfl rfl rfl rfl
  | assign wakeUp sendFunc loadFile hidle =>
      exact h.congr rfl Or.inl rfl rfl rfl rfl rfl rfl

variable [DecidableEq T]

theorem DeliveryInv.threadStep {t : T} {s s' : State α T}
    (h : DeliveryInv s) (hstep : ThreadStep t s s') : DeliveryInv s' := by
  cases hstep with
  | append event hidle =>
      exact (h.append event).congr rfl Or.inl rfl rfl rfl rfl rfl rfl
  | reset hidle =>
      exact h.congr rfl Or.inl rfl rfl rfl rfl rfl rfl
  | setLoad file hidle =>
      exact h.congr rfl Or.inl rfl rfl rfl rfl rfl rfl
  | wake hbusy =>
      exact h.congr rfl Or.inl rfl rfl rfl rfl rfl rfl

theorem reachable_deliveryInv {w : World α} {s : State α T}
    (h : Reachable w s) : DeliveryInv s :=
  h.invariant initial_deliveryInv (fun _ _ hs _ hstep => hs.taskStep hstep)
    (fun _ _ hs _ hstep => hs.scriptStep hstep)
    (fun _ _ _ hs hstep => hs.threadStep hstep)

/-!
## Exactly once
-/

structure DeliveredOnce (s : State α T) : Prop where
  /-- The appended events are told apart. -/
  distinct : s.history.appended.Nodup
  /-- Each of them is taken, discarded or queued. -/
  partition : s.history.appended.Perm
    (s.history.removedBy .taken ++ s.history.removedBy .discarded ++
      s.g.eventQueue)
  /-- Events are removed in the order of the appends, and the queue holds the
  last ones in this order. -/
  order : s.history.appended =
    s.history.removed.map Prod.fst ++ s.g.eventQueue
  /-- Every event that was taken, but the one in hand, was looked at once, in
  the same order. -/
  looked : s.history.removedBy .taken =
    s.history.dispatched.map Dispatched.msg ++ inHand s.pc
  /-- The calls are the expected ones. -/
  calls : s.history.calls = s.history.dispatched.filterMap expectedCall
  /-- Between the append of an event and its call no queue deletion started. -/
  current : forall call, call ∈ s.history.calls ->
    call.msg.deletes = call.deletes

theorem filter_fates_perm (removed : List (Appended × Fate)) :
    (removed.filter (·.2 == .taken) ++
      removed.filter (·.2 == .discarded)).Perm removed := by
  have hnot : removed.filter (·.2 == .discarded) =
      removed.filter (fun r => !(r.2 == .taken)) := by
    apply List.filter_congr
    intro r hr
    cases r.2 with
    | taken => rfl
    | discarded => rfl
  rw [hnot]
  exact List.filter_append_perm _ removed

theorem expectedCall_eq_some {d : Dispatched} {call : Call}
    (h : expectedCall d = some call) :
    call.msg = d.msg ∧ call.deletes = d.deletes := by
  unfold expectedCall at h
  split at h
  · cases h
    exact ⟨rfl, rfl⟩
  · split at h
    · rcases Option.map_eq_some_iff.mp h with ⟨func, hfunc, rfl⟩
      exact ⟨rfl, rfl⟩
    · cases h

omit [DecidableEq T] in
theorem DeliveryInv.deliveredOnce {s : State α T} (h : DeliveryInv s) :
    DeliveredOnce s where
  distinct := by
    apply List.Nodup.of_map Appended.serial
    rw [h.serials]
    exact List.nodup_range
  partition := by
    rw [h.order]
    apply List.Perm.append_right
    rw [History.removedBy, History.removedBy, ← List.map_append]
    exact ((filter_fates_perm s.history.removed).map Prod.fst).symm
  order := h.order
  looked := h.taken
  calls := h.calls
  current := by
    intro call hcall
    rw [h.calls] at hcall
    rcases List.mem_filterMap.mp hcall with ⟨d, hd, hexpected⟩
    rcases expectedCall_eq_some hexpected with ⟨hmsg, hdeletes⟩
    rw [hmsg, hdeletes]
    exact h.current d hd

/-- In every reachable state, events were delivered in order and once. -/
theorem events_delivered_once (w : World α) (s : State α T)
    (h : Reachable w s) : DeliveredOnce s :=
  (reachable_deliveryInv h).deliveredOnce

/-- One event arrives before the first application is loaded, and two after
that. -/
def threeEventsRun : List (Action Unit Unit) :=
  [.thread () (.addFullEvent pressArgs), .thread () .wake] ++
    List.replicate 12 (.task goodInput) ++
    [.thread () (.addFullEvent pressArgs), .thread () .wake,
      .thread () (.addFullEvent pressArgs), .thread () .wake] ++
    List.replicate 4 (.task goodInput)

theorem threeEvents_run :
    (Foundation.runAll (step plainWorld) threeEventsRun
        (initial Unit Unit false noWakeUp)).map
      (fun s => ((s.history.removedBy .taken).map Appended.serial,
        (s.history.removedBy .discarded).map Appended.serial,
        s.g.eventQueue.map Appended.serial)) =
      some ([1], [0], [2]) := rfl

theorem events_delivered_once_threeEvents :
    exists s : State Unit Unit, Reachable plainWorld s ∧
      (s.history.removedBy .taken).map Appended.serial = [1] ∧
      (s.history.removedBy .discarded).map Appended.serial = [0] ∧
      s.g.eventQueue.map Appended.serial = [2] ∧ DeliveredOnce s := by
  rcases Option.map_eq_some_iff.mp threeEvents_run with ⟨s, hrun, hs⟩
  simp only [Prod.mk.injEq] at hs
  rcases hs with ⟨htaken, hdiscarded, hqueued⟩
  have hreach : Reachable plainWorld s :=
    ⟨_, threeEventsRun, ⟨false, noWakeUp, rfl⟩, hrun⟩
  exact ⟨s, hreach, htaken, hdiscarded, hqueued,
    events_delivered_once plainWorld s hreach⟩

end DukMain
end Fluxnode
