import Fluxnode.WorkQueue.Refinement

/-!
# Putting a node back

`WORK_QUEUE_RECV_GET` leaves the `next` of the node as it is.  Behind the tail
walk of an insertion the node brings the rest of the queue with it a second
time, and the last node of the queue then points back into the queue.
-/

namespace Fluxnode
namespace WorkQueue

open Foundation

universe u

variable {addr data : Type u}

/-!
## Queues that do not end
-/

/-- The head of the queue is a node from which the links never end. -/
structure Closed (t : Side) (m : Memory addr data) (nodes : List addr) :
    Prop where
  endless : Chain.Endless (links m.heap) nodes
  head : exists a, m.q.queue t = some a ∧ a ∈ nodes

theorem Closed.not_chain {t : Side} {m : Memory addr data}
    {nodes as : List addr} (h : Closed t m nodes) :
    ¬ Chain (links m.heap) (m.q.queue t) as := by
  intro hchain
  rcases h.head with ⟨a, hqueue, hmem⟩
  rw [hqueue] at hchain
  exact Chain.not_mem_of_endless h.endless hchain hmem

/-- The loop over the length of the queue does not end. -/
theorem lengthLoop_of_endless {heap : Heap addr data} {nodes : List addr}
    (h : Chain.Endless (links heap) nodes) {a : addr} (ha : a ∈ nodes)
    (fuel n : Nat) : lengthLoop heap fuel (some a) n = none := by
  induction fuel generalizing a n with
  | zero =>
      rfl
  | succ fuel ih =>
      rcases h a ha with ⟨b, hb, hmem⟩
      rcases links_eq_some hb with ⟨node, hnode, hlink⟩
      simp only [lengthLoop, hnode, hlink]
      exact ih hmem (n + 1)

theorem Closed.recvLen {m : Memory addr data} {nodes : List addr}
    (h : Closed .recv m nodes) (fuel : Nat) :
    workQueueRecvLen fuel m = none := by
  rcases h.head with ⟨a, hqueue, hmem⟩
  have hrecv : m.q.recvQueue = some a := hqueue
  rw [workQueueRecvLen, hrecv]
  exact lengthLoop_of_endless h.endless hmem fuel 0

/-!
## After a get
-/

def afterGet (t : Side) (m : Memory addr data) (rest : List addr) :
    Memory addr data :=
  { m with q := m.q.setQueue t rest.head? }

theorem workQueueGet_cons {t : Side} {m : Memory addr data} {n : addr}
    {rest : List addr}
    (h : Chain (links m.heap) (m.q.queue t) (n :: rest)) :
    workQueueGet t m = some (some n, afterGet t m rest) := by
  rcases workQueueGet_of_chain h with ⟨p, hp, hget⟩
  rw [hget, hp.pointer_eq_head?]
  rfl

theorem queue_afterGet (t : Side) (m : Memory addr data) (rest : List addr) :
    (afterGet t m rest).q.queue t = rest.head? :=
  m.q.queue_setQueue_self t _

theorem Represents.recv_chain {m : Memory addr data} {a : QueueLists addr}
    {n : addr} {rest : List addr} (h : Represents m a)
    (hrecv : a.recv = n :: rest) :
    Chain (links m.heap) (m.q.queue .recv) (n :: rest) := by
  have hchain := h.chain .recv
  rw [QueueLists.content, hrecv] at hchain
  exact hchain

variable [DecidableEq addr]

/-!
## Appending a node that has successors
-/

theorem appendTo_of_links {t : Side} {m : Memory addr data}
    {first entry last : addr} {front : List addr} {q : Option addr}
    (hqueue : m.q.queue t = some first)
    (hchain : Chain (links m.heap) (some first) (front ++ [last]))
    (hentry : links m.heap entry = some q) :
    exists heap',
      (forall fuel, front.length < fuel ->
        appendTo t fuel m entry = some { m with heap := heap' }) ∧
      links heap' =
        Function.update (links m.heap) last (some (some entry)) := by
  have hlastMem : last ∈ front ++ [last] := by simp
  rcases setPrev_of_links (some last) hentry with ⟨heap₁, hprev, hlinks₁⟩
  rcases hchain.next_isSome hlastMem with ⟨r, hlast⟩
  rw [← hlinks₁] at hlast
  rcases setNext_of_links (some entry) hlast with ⟨heap₂, hnext, hlinks₂⟩
  rw [hlinks₁] at hlinks₂
  refine ⟨heap₂, ?_, hlinks₂⟩
  intro fuel hfuel
  have hsame : m.q.setQueue t (some first) = m.q := by
    rw [← hqueue, WorkQueueT.setQueue_queue]
  simp only [appendTo, queueDlAppend, hqueue,
    tailLoop_of_chain hchain hfuel, hprev, hnext, hsame,
    Option.bind_eq_bind, Option.bind_some, Option.pure_def]

/-!
## A node is put back
-/

section Insertions

variable {t : Side} {m : Memory addr data} {n last : addr} {front : List addr}

/-- The node takes the place of the head, and the old head is appended to
the chain of which it is the second node. -/
theorem insertHead_afterGet
    (h : Chain (links m.heap) (m.q.queue t) (n :: (front ++ [last]))) :
    exists m' N,
      (forall fuel, N ≤ fuel ->
        workQueueInsertHead t fuel (afterGet t m (front ++ [last]))
          (some n) = some m') ∧
      Closed t m' (n :: (front ++ [last])) := by
  have hn : m.q.queue t = some n := h.pointer_eq_head?
  rw [hn] at h
  cases hfirst : (front ++ [last]).head? with
  | none => simp at hfirst
  | some r =>
      have hr : r ∈ n :: (front ++ [last]) :=
        List.mem_cons_of_mem n (List.mem_of_mem_head? hfirst)
      rcases h.next_isSome hr with ⟨q, hentry⟩
      have hqueue : (m.q.setQueue t (some n)).queue t = some n :=
        m.q.queue_setQueue_self t _
      have hchain : Chain (links m.heap) (some n) ((n :: front) ++ [last]) := h
      rcases appendTo_of_links
          (m := { heap := m.heap, q := m.q.setQueue t (some n) })
          hqueue hchain hentry with ⟨heap', happend, hlinks⟩
      refine ⟨{ heap := heap', q := m.q.setQueue t (some n) },
        (n :: front).length + 1, ?_, ?_, n, hqueue, List.mem_cons_self⟩
      · intro fuel hfuel
        rw [workQueueInsertHead, queue_afterGet, hfirst]
        simp only [afterGet, WorkQueueT.setQueue_setQueue]
        exact happend fuel hfuel
      · rw [hlinks]
        exact hchain.endless_update hr

/-- The node is appended to the rest, which it still points to. -/
theorem add_afterGet
    (h : Chain (links m.heap) (m.q.queue t) (n :: (front ++ [last]))) :
    exists m' N,
      (forall fuel, N ≤ fuel ->
        workQueueAdd t fuel (afterGet t m (front ++ [last])) n = some m') ∧
      Closed t m' (n :: (front ++ [last])) := by
  have hn : m.q.queue t = some n := h.pointer_eq_head?
  rw [hn] at h
  have hnode := h.next_isSome List.mem_cons_self
  rcases hnode with ⟨q, hentry⟩
  cases hfirst : (front ++ [last]).head? with
  | none => simp at hfirst
  | some r =>
      have hrest : Chain (links m.heap) (some r) (front ++ [last]) := by
        cases h with
        | link hnext htail =>
            have hpointer := htail.pointer_eq_head?
            rw [hpointer, hfirst] at htail
            exact htail
      have hqueue : (afterGet t m (front ++ [last])).q.queue t = some r := by
        rw [queue_afterGet, hfirst]
      rcases appendTo_of_links hqueue hrest hentry with
        ⟨heap', happend, hlinks⟩
      have hr : r ∈ n :: (front ++ [last]) :=
        List.mem_cons_of_mem n (List.mem_of_mem_head? hfirst)
      have hchain : Chain (links m.heap) (some n) ((n :: front) ++ [last]) := h
      refine ⟨_, front.length + 1, happend, ?_, r, hqueue, hr⟩
      rw [hlinks]
      exact hchain.endless_update List.mem_cons_self

end Insertions

/-!
## What a node put back must lead to
-/

/-- The queues are those of the lists, and every later use ends and gives what
the lists give. -/
structure GoesOn (m : Memory addr data) (a : QueueLists addr) : Prop where
  represents : Represents m a
  nodup : a.recv.Nodup
  later : forall ops, Valid ops m a ->
    exists m' a' results N,
      applyAll a ops = some (a', results) ∧
      (forall fuel, N ≤ fuel -> execAll fuel m ops = some (m', results)) ∧
      Represents m' a'

theorem Represents.goesOn {m : Memory addr data} {a : QueueLists addr}
    (h : Represents m a) : GoesOn m a where
  represents := h
  nodup := (h.chain .recv).nodup
  later _ hvalid := h.execAll hvalid

theorem Closed.not_goesOn {m : Memory addr data} {nodes : List addr}
    (h : Closed .recv m nodes) (a : QueueLists addr) : ¬ GoesOn m a :=
  fun hgoes => h.not_chain (hgoes.represents.chain .recv)

def PutsBackHead (m : Memory addr data) (a : QueueLists addr) (n : addr)
    (rest : List addr) : Prop :=
  exists m₁ m₂ N,
    workQueueRecvGet m = some (some n, m₁) ∧
    (forall fuel, N ≤ fuel ->
      workQueueRecvInsertHead fuel m₁ (some n) = some m₂) ∧
    GoesOn m₂ { a with recv := n :: rest }

def PutsBackTail (m : Memory addr data) (a : QueueLists addr) (n : addr)
    (rest : List addr) : Prop :=
  exists m₁ m₂ N,
    workQueueRecvGet m = some (some n, m₁) ∧
    (forall fuel, N ≤ fuel -> workQueueRecvAdd fuel m₁ n = some m₂) ∧
    GoesOn m₂ { a with recv := rest ++ [n] }

def Reached (m : Memory addr data) (a : QueueLists addr) : Prop :=
  exists heap ops results N,
    Valid ops (workQueueInit heap) (QueueLists.empty addr) ∧
    applyAll (QueueLists.empty addr) ops = some (a, results) ∧
    forall fuel, N ≤ fuel ->
      execAll fuel (workQueueInit heap) ops = some (m, results)

theorem Reached.represents {m : Memory addr data} {a : QueueLists addr}
    (h : Reached m a) : Represents m a := by
  rcases h with ⟨heap, ops, results, N, hvalid, happly, hrun⟩
  rcases (represents_workQueueInit heap).execAll hvalid with
    ⟨m', a', results', N', happly', hrun', hrep⟩
  have hm := hrun (max N N') (Nat.le_max_left _ _)
  rw [hrun' (max N N') (Nat.le_max_right _ _)] at hm
  rw [happly'] at happly
  cases hm
  cases happly
  exact hrep

section

variable {m : Memory addr data} {a : QueueLists addr} {n : addr}
  {rest : List addr}

theorem Represents.putsBack_single (h : Represents m a)
    (hrecv : a.recv = [n]) :
    PutsBackHead m a n [] ∧ PutsBackTail m a n [] := by
  have hchain := h.recv_chain hrecv
  have hget := workQueueGet_cons hchain
  have hn : m.q.queue .recv = some n := hchain.pointer_eq_head?
  have hback : (afterGet .recv m []).q.setQueue .recv (some n) = m.q := by
    rw [afterGet, WorkQueueT.setQueue_setQueue, ← hn,
      WorkQueueT.setQueue_queue]
  have hgoes : GoesOn m { a with recv := [n] } := by
    rw [← hrecv]
    exact h.goesOn
  constructor
  · refine ⟨_, m, 0, hget, ?_, hgoes⟩
    intro fuel _
    simp only [workQueueRecvInsertHead, workQueueInsertHead, queue_afterGet,
      List.head?_nil, hback]
    rfl
  · refine ⟨_, m, 0, hget, ?_, hgoes⟩
    intro fuel _
    simp only [workQueueRecvAdd, workQueueAdd, appendTo, queueDlAppend,
      queue_afterGet, List.head?_nil, hback, Option.bind_eq_bind,
      Option.bind_some, Option.pure_def]
    rfl

theorem Represents.not_putsBackHead (h : Represents m a)
    (hrecv : a.recv = n :: rest) (hrest : rest ≠ []) :
    ¬ PutsBackHead m a n rest := by
  rintro ⟨m₁, m₂, N, hget, hinsert, hgoes⟩
  have hchain := h.recv_chain hrecv
  rw [workQueueRecvGet, workQueueGet_cons hchain] at hget
  cases hget
  rw [← List.dropLast_append_getLast hrest] at hchain hinsert
  rcases insertHead_afterGet hchain with ⟨m', N', hinsert', hclosed⟩
  have hsame := hinsert (max N N') (Nat.le_max_left _ _)
  rw [workQueueRecvInsertHead,
    hinsert' (max N N') (Nat.le_max_right _ _)] at hsame
  cases hsame
  exact hclosed.not_goesOn _ hgoes

theorem Represents.not_putsBackTail (h : Represents m a)
    (hrecv : a.recv = n :: rest) (hrest : rest ≠ []) :
    ¬ PutsBackTail m a n rest := by
  rintro ⟨m₁, m₂, N, hget, hadd, hgoes⟩
  have hchain := h.recv_chain hrecv
  rw [workQueueRecvGet, workQueueGet_cons hchain] at hget
  cases hget
  rw [← List.dropLast_append_getLast hrest] at hchain hadd
  rcases add_afterGet hchain with ⟨m', N', hadd', hclosed⟩
  have hsame := hadd (max N N') (Nat.le_max_left _ _)
  rw [workQueueRecvAdd, hadd' (max N N') (Nat.le_max_right _ _)] at hsame
  cases hsame
  exact hclosed.not_goesOn _ hgoes

/-- The length of the queue is then never known. -/
theorem Represents.recvLen_after_insertHead (h : Represents m a)
    (hrecv : a.recv = n :: rest) (hrest : rest ≠ []) :
    exists m₁ m₂ N,
      workQueueRecvGet m = some (some n, m₁) ∧
      (forall fuel, N ≤ fuel ->
        workQueueRecvInsertHead fuel m₁ (some n) = some m₂) ∧
      forall fuel, workQueueRecvLen fuel m₂ = none := by
  have hchain := h.recv_chain hrecv
  have hget := workQueueGet_cons hchain
  rw [← List.dropLast_append_getLast hrest] at hchain
  rcases insertHead_afterGet hchain with ⟨m₂, N, hinsert, hclosed⟩
  rw [List.dropLast_append_getLast hrest] at hinsert
  exact ⟨_, m₂, N, hget, hinsert, hclosed.recvLen⟩

end

/-- A node can be put back only if it was the only one. -/
theorem putsBack_iff_single (m : Memory addr data) (a : QueueLists addr)
    (n : addr) (rest : List addr) (hreached : Reached m a)
    (hrecv : a.recv = n :: rest) :
    (PutsBackHead m a n rest ↔ rest = []) ∧
      (PutsBackTail m a n rest ↔ rest = []) := by
  have hrep := hreached.represents
  constructor
  · constructor
    · intro hback
      by_contra hrest
      exact hrep.not_putsBackHead hrecv hrest hback
    · rintro rfl
      exact (hrep.putsBack_single hrecv).1
  · constructor
    · intro hback
      by_contra hrest
      exact hrep.not_putsBackTail hrecv hrest hback
    · rintro rfl
      exact (hrep.putsBack_single hrecv).2

def addUpTo (k : Nat) : List (Op Nat Unit) :=
  (List.range k).map (.add .recv)

theorem addUpTo_one_valid :
    Valid (addUpTo 1) (workQueueInit looseNodes) (QueueLists.empty Nat) := by
  constructor
  · exact loose_first 0
  · intro fuel m r hexec
    exact trivial

theorem addUpTo_two_valid :
    Valid (addUpTo 2) (workQueueInit looseNodes) (QueueLists.empty Nat) := by
  constructor
  · exact loose_first 0
  intro fuel m r hexec
  cases hexec
  constructor
  · apply loose_looseNodes rfl
    intro t
    cases t with
    | send => exact List.not_mem_nil
    | recv =>
        change 1 ∉ [0]
        decide
  · intro fuel m r hexec
    exact trivial

theorem reached_of_valid {heap : Heap addr data} {ops : List (Op addr data)}
    (hvalid : Valid ops (workQueueInit heap) (QueueLists.empty addr))
    {a : QueueLists addr} {results : List (Result addr)}
    (happly : applyAll (QueueLists.empty addr) ops = some (a, results)) :
    exists m : Memory addr data, Reached m a := by
  rcases (represents_workQueueInit heap).execAll hvalid with
    ⟨m, a', results', N, happly', hrun, hrep⟩
  rw [happly] at happly'
  cases happly'
  exact ⟨m, heap, ops, results, N, hvalid, happly, hrun⟩

theorem putsBack_iff_single_one :
    exists m : Memory Nat Unit,
      Reached m { send := [], recv := [0], taken := [] } ∧
      (PutsBackHead m { send := [], recv := [0], taken := [] } 0 [] ↔
        ([] : List Nat) = []) ∧
      (PutsBackTail m { send := [], recv := [0], taken := [] } 0 [] ↔
        ([] : List Nat) = []) := by
  rcases reached_of_valid addUpTo_one_valid rfl with ⟨m, hreached⟩
  refine ⟨m, hreached, ?_⟩
  exact putsBack_iff_single m _ 0 [] hreached rfl

theorem first_of_two_not_putBack :
    exists m : Memory Nat Unit,
      Reached m { send := [], recv := [0, 1], taken := [] } ∧
      ¬ PutsBackHead m { send := [], recv := [0, 1], taken := [] } 0 [1] ∧
      ¬ PutsBackTail m { send := [], recv := [0, 1], taken := [] } 0 [1] := by
  rcases reached_of_valid addUpTo_two_valid rfl with ⟨m, hreached⟩
  have hrep := hreached.represents
  refine ⟨m, hreached, ?_, ?_⟩
  · exact hrep.not_putsBackHead rfl (List.cons_ne_nil 1 [])
  · exact hrep.not_putsBackTail rfl (List.cons_ne_nil 1 [])

end WorkQueue
end Fluxnode
