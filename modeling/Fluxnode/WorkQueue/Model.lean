import Mathlib.Logic.Function.Basic
import Mathlib.Tactic.Common

/-!
# The work queue

`include/queue.h` implements a pair of queues as macros over nodes that carry
their own links.  The type of the nodes and of their addresses is left open, as
the macros leave it open.  Every macro holds the mutex of its queue from begin
to end and is one step here.

A loop gets fuel.  There is no result when it runs out, and none when a pointer
is followed that does not point to a node.
-/

namespace Fluxnode
namespace WorkQueue

universe u

/-- A node: its links, and the remaining members. -/
structure Node (addr data : Type u) where
  next : Option addr
  prev : Option addr
  data : data
  deriving DecidableEq, Repr

/-- `work_queue_t`, without the mutexes. -/
structure WorkQueueT (addr : Type u) where
  sendQueue : Option addr
  recvQueue : Option addr
  deriving DecidableEq, Repr

abbrev Heap (addr data : Type u) := addr -> Option (Node addr data)

structure Memory (addr data : Type u) where
  heap : Heap addr data
  q : WorkQueueT addr

/-- The `SEND` and the `RECV` family of macros. -/
inductive Side where
  | send
  | recv
  deriving DecidableEq, Repr

def WorkQueueT.queue {addr : Type u} (q : WorkQueueT addr) :
    Side -> Option addr
  | .send => q.sendQueue
  | .recv => q.recvQueue

def WorkQueueT.setQueue {addr : Type u} (q : WorkQueueT addr) :
    Side -> Option addr -> WorkQueueT addr
  | .send, p => { q with sendQueue := p }
  | .recv, p => { q with recvQueue := p }

variable {addr data : Type u} [DecidableEq addr]

/-- `WORK_QUEUE_INIT`, over the nodes that exist. -/
def workQueueInit (heap : Heap addr data) : Memory addr data where
  heap := heap
  q := { sendQueue := none, recvQueue := none }

def setNext (heap : Heap addr data) (a : addr) (p : Option addr) :
    Option (Heap addr data) :=
  match heap a with
  | none => none
  | some node =>
      some (Function.update heap a (some { node with next := p }))

def setPrev (heap : Heap addr data) (a : addr) (p : Option addr) :
    Option (Heap addr data) :=
  match heap a with
  | none => none
  | some node =>
      some (Function.update heap a (some { node with prev := p }))

/-!
## The common loops
-/

/-- `while (_tmp->next != NULL) _tmp = _tmp->next;` -/
def tailLoop (heap : Heap addr data) : Nat -> addr -> Option addr
  | 0, _ => none
  | fuel + 1, tmp =>
      match heap tmp with
      | none => none
      | some node =>
          match node.next with
          | none => some tmp
          | some next => tailLoop heap fuel next

/-- `QUEUE_DL_APPEND`: the nodes, and the head. -/
def queueDlAppend (fuel : Nat) (heap : Heap addr data) (head : Option addr)
    (entry : addr) : Option (Heap addr data × Option addr) :=
  match head with
  | some first => do
      let tmp ← tailLoop heap fuel first
      let heap ← setPrev heap entry (some tmp)
      let heap ← setNext heap tmp (some entry)
      return (heap, head)
  | none => some (heap, some entry)

def appendTo (t : Side) (fuel : Nat) (m : Memory addr data) (entry : addr) :
    Option (Memory addr data) := do
  let (heap, head) ← queueDlAppend fuel m.heap (m.q.queue t) entry
  return { heap := heap, q := m.q.setQueue t head }

/-- `while (_q_l_head != NULL) { q_length++; _q_l_head = _q_l_head->next; }` -/
def lengthLoop (heap : Heap addr data) :
    Nat -> Option addr -> Nat -> Option Nat
  | 0, _, _ => none
  | fuel + 1, p, length =>
      match p with
      | none => some length
      | some a =>
          match heap a with
          | none => none
          | some node => lengthLoop heap fuel node.next (length + 1)

/-!
## The macros, for either queue
-/

def workQueueAdd (t : Side) (fuel : Nat) (m : Memory addr data)
    (node : addr) : Option (Memory addr data) :=
  appendTo t fuel m node

def workQueueInsertHead (t : Side) (fuel : Nat) (m : Memory addr data)
    (node : Option addr) : Option (Memory addr data) :=
  let head := m.q.queue t
  let m := { m with q := m.q.setQueue t node }
  match head with
  | some first => appendTo t fuel m first
  | none => some m

/-- `WORK_QUEUE_…_GET`: the item, and the memory. -/
def workQueueGet (t : Side) (m : Memory addr data) :
    Option (Option addr × Memory addr data) :=
  match m.q.queue t with
  | none => some (none, m)
  | some item =>
      match m.heap item with
      | none => none
      | some node =>
          match node.next with
          | none => some (some item, { m with q := m.q.setQueue t none })
          | some next =>
              some (some item, { m with q := m.q.setQueue t (some next) })

/-- `WORK_QUEUE_…_TAKE_HEAD`: the head, and the memory. -/
def workQueueTakeHead (t : Side) (m : Memory addr data) :
    Option addr × Memory addr data :=
  (m.q.queue t, { m with q := m.q.setQueue t none })

/-!
## The macros
-/

def workQueueRecvLen (fuel : Nat) (m : Memory addr data) : Option Nat :=
  lengthLoop m.heap fuel m.q.recvQueue 0

def workQueueRecvAdd (fuel : Nat) (m : Memory addr data) (node : addr) :
    Option (Memory addr data) :=
  workQueueAdd .recv fuel m node

def workQueueRecvInsertHead (fuel : Nat) (m : Memory addr data)
    (node : Option addr) : Option (Memory addr data) :=
  workQueueInsertHead .recv fuel m node

def workQueueRecvGet (m : Memory addr data) :
    Option (Option addr × Memory addr data) :=
  workQueueGet .recv m

def workQueueRecvTakeHead (m : Memory addr data) :
    Option addr × Memory addr data :=
  workQueueTakeHead .recv m

def workQueueSendAdd (fuel : Nat) (m : Memory addr data) (node : addr) :
    Option (Memory addr data) :=
  workQueueAdd .send fuel m node

def workQueueSendInsertHead (fuel : Nat) (m : Memory addr data)
    (node : Option addr) : Option (Memory addr data) :=
  workQueueInsertHead .send fuel m node

def workQueueSendGet (m : Memory addr data) :
    Option (Option addr × Memory addr data) :=
  workQueueGet .send m

def workQueueSendTakeHead (m : Memory addr data) :
    Option addr × Memory addr data :=
  workQueueTakeHead .send m

/-!
## Sequences of uses
-/

/--
One use of the queue, or a change that its client makes to a node of its own:
to allocate it, to assign its members or to free it.  The chain of an insertion
is passed as the pointer to its first node.
-/
inductive Op (addr data : Type u) where
  | add (t : Side) (node : addr)
  | insertHead (t : Side) (chain : List addr)
  | get (t : Side)
  | takeHead (t : Side)
  | recvLen
  | write (a : addr) (node : Option (Node addr data))
  deriving DecidableEq, Repr

inductive Result (addr : Type u) where
  | done
  | item (p : Option addr)
  | length (n : Nat)
  deriving DecidableEq, Repr

def exec (fuel : Nat) (m : Memory addr data) :
    Op addr data -> Option (Memory addr data × Result addr)
  | .add .recv node => (workQueueRecvAdd fuel m node).map (·, .done)
  | .add .send node => (workQueueSendAdd fuel m node).map (·, .done)
  | .insertHead .recv chain =>
      (workQueueRecvInsertHead fuel m chain.head?).map (·, .done)
  | .insertHead .send chain =>
      (workQueueSendInsertHead fuel m chain.head?).map (·, .done)
  | .get .recv => (workQueueRecvGet m).map (fun r => (r.2, .item r.1))
  | .get .send => (workQueueSendGet m).map (fun r => (r.2, .item r.1))
  | .takeHead .recv =>
      let r := workQueueRecvTakeHead m
      some (r.2, .item r.1)
  | .takeHead .send =>
      let r := workQueueSendTakeHead m
      some (r.2, .item r.1)
  | .recvLen => (workQueueRecvLen fuel m).map (fun n => (m, .length n))
  | .write a node =>
      some ({ m with heap := Function.update m.heap a node }, .done)

end WorkQueue
end Fluxnode
