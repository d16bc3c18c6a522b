import Fluxnode.WorkQueue.Model

/-!
# What the work queue is for

The two queues as lists of nodes, without links.  The chains that were taken
from a queue are remembered for as long as their nodes are left alone: a chain
is forgotten when its client writes to one of its nodes or gives one back to a
queue.
-/

namespace Fluxnode
namespace WorkQueue

universe u

/-- The content of the queues, and the chains taken and not modified since. -/
structure QueueLists (addr : Type u) where
  send : List addr
  recv : List addr
  taken : List (List addr)
  deriving DecidableEq, Repr

namespace QueueLists

variable {addr data : Type u}

def empty (addr : Type u) : QueueLists addr where
  send := []
  recv := []
  taken := []

def content (a : QueueLists addr) : Side -> List addr
  | .send => a.send
  | .recv => a.recv

def replace (a : QueueLists addr) (t : Side) (ns : List addr)
    (ts : List (List addr)) : QueueLists addr :=
  match t with
  | .send => { send := ns, recv := a.recv, taken := ts }
  | .recv => { send := a.send, recv := ns, taken := ts }

@[simp] theorem content_replace_self (a : QueueLists addr) (t : Side)
    (ns : List addr) (ts : List (List addr)) :
    (a.replace t ns ts).content t = ns := by
  cases t <;> rfl

theorem content_replace_of_ne {t t' : Side} (a : QueueLists addr) (hne : t' ≠ t)
    (ns : List addr) (ts : List (List addr)) :
    (a.replace t ns ts).content t' = a.content t' := by
  cases t <;> cases t' <;> first | rfl | exact absurd rfl hne

@[simp] theorem taken_replace (a : QueueLists addr) (t : Side) (ns : List addr)
    (ts : List (List addr)) : (a.replace t ns ts).taken = ts := by
  cases t <;> rfl

variable [DecidableEq addr]

def untouched (ns : List addr) (chains : List (List addr)) :
    List (List addr) :=
  chains.filter (fun chain => chain.all (· ∉ ns))

theorem mem_untouched {ns chain : List addr} {chains : List (List addr)} :
    chain ∈ untouched ns chains ↔ chain ∈ chains ∧ chain.Disjoint ns := by
  rw [untouched, List.mem_filter, List.all_eq_true]
  simp only [decide_eq_true_iff]
  rfl

def apply (a : QueueLists addr) : Op addr data -> QueueLists addr × Result addr
  | .add t node =>
      (a.replace t (a.content t ++ [node]) (untouched [node] a.taken), .done)
  | .insertHead t chain =>
      (a.replace t (chain ++ a.content t) (untouched chain a.taken), .done)
  | .get t =>
      (a.replace t (a.content t).tail a.taken, .item (a.content t).head?)
  | .takeHead t =>
      (a.replace t [] (a.content t :: a.taken), .item (a.content t).head?)
  | .recvLen => (a, .length a.recv.length)
  | .write n _ => ({ a with taken := untouched [n] a.taken }, .done)

/-!
## Nodes that enter and leave
-/

def entering (t : Side) : Op addr data -> List addr
  | .add t' node => if t' = t then [node] else []
  | .insertHead t' chain => if t' = t then chain else []
  | _ => []

def leaving (a : QueueLists addr) (t : Side) : Op addr data -> List addr
  | .get t' => if t' = t then (a.content t).head?.toList else []
  | .takeHead t' => if t' = t then a.content t else []
  | _ => []

def departed (t : Side) : QueueLists addr -> List (Op addr data) -> List addr
  | _, [] => []
  | a, op :: rest => a.leaving t op ++ departed t (a.apply op).1 rest

theorem content_apply_perm (a : QueueLists addr) (t : Side)
    (op : Op addr data) :
    (a.content t ++ entering t op).Perm
      (a.leaving t op ++ (a.apply op).1.content t) := by
  cases op with
  | add t' node =>
      rcases eq_or_ne t' t with rfl | hne
      · simp [entering, leaving, apply]
      · simp [entering, leaving, apply, hne,
          content_replace_of_ne a hne.symm]
  | insertHead t' chain =>
      rcases eq_or_ne t' t with rfl | hne
      · simpa [entering, leaving, apply] using List.perm_append_comm
      · simp [entering, leaving, apply, hne,
          content_replace_of_ne a hne.symm]
  | get t' =>
      rcases eq_or_ne t' t with rfl | hne
      · cases hcontent : a.content t' with
        | nil => simp [entering, leaving, apply, hcontent]
        | cons first rest => simp [entering, leaving, apply, hcontent]
      · simp [entering, leaving, apply, hne,
          content_replace_of_ne a hne.symm]
  | takeHead t' =>
      rcases eq_or_ne t' t with rfl | hne
      · simp [entering, leaving, apply]
      · simp [entering, leaving, apply, hne,
          content_replace_of_ne a hne.symm]
  | recvLen =>
      simp [entering, leaving, apply]
  | write n node =>
      simp only [entering, leaving, List.append_nil, List.nil_append]
      exact List.Perm.refl _

end QueueLists

/-!
## What a client may do
-/

variable {addr data : Type u} [DecidableEq addr]

/-- A node that is in no queue and has no successor. -/
def Loose (m : Memory addr data) (a : QueueLists addr) (n : addr) : Prop :=
  (forall t, n ∉ a.content t) ∧
    exists node, m.heap n = some node ∧ node.next = none

def Allowed (m : Memory addr data) (a : QueueLists addr) : Op addr data -> Prop
  | .add _ node => Loose m a node
  | .insertHead _ chain =>
      (exists node, chain = [node] ∧ Loose m a node) ∨ chain ∈ a.taken
  | .get _ => True
  | .takeHead _ => True
  | .recvLen => True
  | .write n _ => forall t, n ∉ a.content t

def Valid : List (Op addr data) -> Memory addr data -> QueueLists addr -> Prop
  | [], _, _ => True
  | op :: rest, m, a =>
      Allowed m a op ∧
        forall fuel m' r, exec fuel m op = some (m', r) ->
          Valid rest m' (a.apply op).1

end WorkQueue
end Fluxnode
