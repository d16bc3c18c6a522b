import Fluxnode.DukMain.Model
import Fluxnode.WorkQueue.Refinement

/-!
# The event queue in memory

The task keeps its queue as a list of events.  In memory it is the chain of a
work queue whose nodes hold the events.  An append of the list is the
`malloc` of a node and `WORK_QUEUE_RECV_ADD`; taking the first event off is
`WORK_QUEUE_RECV_GET`.
-/

namespace Fluxnode
namespace DukMain

open WorkQueue

variable {α T addr : Type} {m : Memory addr Event}

/-- The chain from `q->recv_queue` holds the events of the queue. -/
def Holds (m : Memory addr Event) (queue : List Appended) : Prop :=
  exists a, Represents m a ∧
    a.recv.map (dataAt m.heap) = queue.map (fun msg => some msg.event)

def eventNode (addr : Type) (event : Event) : Node addr Event where
  next := none
  prev := none
  data := event

theorem holds_workQueueInit (heap : Heap addr Event) :
    Holds (workQueueInit heap) [] :=
  ⟨_, represents_workQueueInit heap, rfl⟩

theorem heap_workQueueGet {t : Side} {m' : Memory addr Event}
    {p : Option addr} (h : workQueueGet t m = some (p, m')) :
    m'.heap = m.heap := by
  unfold workQueueGet at h
  split at h
  · cases h
    rfl
  · split at h
    · cases h
    · split at h <;> cases h <;> rfl

theorem not_mem_content {a : QueueLists addr} (h : Represents m a) {n : addr}
    (hfree : m.heap n = none) (t : Side) : n ∉ a.content t := by
  intro hmem
  rcases (h.chain t).next_isSome hmem with ⟨q, hq⟩
  rw [links, hfree] at hq
  cases hq

theorem holds_get {queue : List Appended} (h : Holds m queue) :
    exists p m', workQueueRecvGet m = some (p, m') ∧
      p.bind (dataAt m.heap) = queue.head?.map Appended.event ∧
      Holds m' queue.tail := by
  rcases h with ⟨a, hrep, hdata⟩
  rcases hrep.get .recv with ⟨m', hget, hrep'⟩
  refine ⟨_, m', hget, ?_, _, hrep', ?_⟩
  · change a.recv.head?.bind (dataAt m.heap) = _
    have hhead := congrArg List.head? hdata
    cases hrecv : a.recv with
    | nil =>
        cases queue with
        | nil => rfl
        | cons msg rest => simp [hrecv] at hdata
    | cons n ns =>
        cases queue with
        | nil => simp [hrecv] at hdata
        | cons msg rest => simpa [hrecv] using hhead
  · change a.recv.tail.map (dataAt m'.heap) = _
    rw [heap_workQueueGet hget, List.map_tail, hdata, List.map_tail]

variable [DecidableEq addr]

/-- `malloc` of a node at a free address and `WORK_QUEUE_RECV_ADD`. -/
theorem holds_append {s : State α T} (h : Holds m s.g.eventQueue) {n : addr}
    (hfree : m.heap n = none) (event : Event) :
    exists m' N,
      (forall fuel, N ≤ fuel ->
        workQueueRecvAdd fuel
          { m with
            heap := Function.update m.heap n (some (eventNode addr event)) }
          n = some m') ∧
      Holds m' (append s event).g.eventQueue := by
  rcases h with ⟨a, hrep, hdata⟩
  have hout := not_mem_content hrep hfree
  have hwritten := hrep.write (some (eventNode addr event)) hout
  have hloose : Loose
      { m with
        heap := Function.update m.heap n (some (eventNode addr event)) }
      { a with taken := QueueLists.untouched [n] a.taken } n := by
    constructor
    · exact hout
    · exact ⟨eventNode addr event, Function.update_self _ _ _, rfl⟩
  rcases hwritten.add .recv hloose with ⟨m', hadd, hrep'⟩
  refine ⟨m', a.recv.length + 1, fun fuel hfuel => hadd fuel hfuel,
    _, hrep', ?_⟩
  have hsame := dataAt_workQueueAdd (hadd _ (Nat.lt_succ_self _))
  have hold : forall b, b ∈ a.recv ->
      dataAt (Function.update m.heap n (some (eventNode addr event))) b =
        dataAt m.heap b := by
    intro b hb
    have hne : b ≠ n := by
      intro hsame
      subst hsame
      exact hout .recv hb
    rw [dataAt, dataAt, Function.update_of_ne hne]
  change (a.recv ++ [n]).map (dataAt m'.heap) =
    (s.g.eventQueue ++ [_]).map _
  rw [hsame, List.map_append, List.map_append, List.map_congr_left hold,
    hdata]
  simp [dataAt, eventNode]

end DukMain
end Fluxnode
