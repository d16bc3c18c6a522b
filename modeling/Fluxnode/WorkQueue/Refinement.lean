import Fluxnode.Foundation.LinkedChain
import Fluxnode.Foundation.Stream
import Fluxnode.WorkQueue.Lists

/-!
# The work queue refines its lists

The links from a queue always form the chain of its list.  Two loops follow
links; each ends because the chain is finite.  One link is written by an
append: the one of the last node.  Everything that does not contain this node
stays as it was.
-/

namespace Fluxnode
namespace WorkQueue

open Foundation

universe u

variable {addr data : Type u}

def links (heap : Heap addr data) (a : addr) : Option (Option addr) :=
  (heap a).map Node.next

theorem links_eq_some {heap : Heap addr data} {a : addr} {p : Option addr}
    (h : links heap a = some p) :
    exists node, heap a = some node ∧ node.next = p := by
  simpa only [links, Option.map_eq_some_iff] using h

theorem WorkQueueT.queue_setQueue_self (q : WorkQueueT addr) (t : Side)
    (p : Option addr) : (q.setQueue t p).queue t = p := by
  cases t <;> rfl

theorem WorkQueueT.queue_setQueue_of_ne {t t' : Side} (q : WorkQueueT addr)
    (hne : t' ≠ t) (p : Option addr) :
    (q.setQueue t p).queue t' = q.queue t' := by
  cases t <;> cases t' <;> first | rfl | exact absurd rfl hne

theorem WorkQueueT.setQueue_queue (q : WorkQueueT addr) (t : Side) :
    q.setQueue t (q.queue t) = q := by
  cases t <;> rfl

theorem WorkQueueT.setQueue_setQueue (q : WorkQueueT addr) (t : Side)
    (p p' : Option addr) :
    (q.setQueue t p).setQueue t p' = q.setQueue t p' := by
  cases t <;> rfl

/-!
## Following the links
-/

theorem tailLoop_of_chain {heap : Heap addr data} {a last : addr}
    {as : List addr} {fuel : Nat}
    (h : Chain (links heap) (some a) (as ++ [last]))
    (hfuel : as.length < fuel) : tailLoop heap fuel a = some last := by
  induction as generalizing a fuel with
  | nil =>
      cases h with
      | link hnext htail =>
          cases htail with
          | nil =>
              rcases links_eq_some hnext with ⟨node, hnode, hlink⟩
              cases fuel with
              | zero => exact absurd hfuel (Nat.not_lt_zero _)
              | succ fuel => simp only [tailLoop, hnode, hlink]
  | cons b as ih =>
      cases h with
      | @link _ q _ hnext htail =>
          cases fuel with
          | zero => exact absurd hfuel (Nat.not_lt_zero _)
          | succ fuel =>
              rcases links_eq_some hnext with ⟨node, hnode, hlink⟩
              have hfuel' : as.length < fuel := Nat.lt_of_succ_lt_succ hfuel
              cases q with
              | none =>
                  have hhead := htail.pointer_eq_head?
                  simp at hhead
              | some c =>
                  simp only [tailLoop, hnode, hlink]
                  exact ih htail hfuel'

theorem lengthLoop_of_chain {heap : Heap addr data} {p : Option addr}
    {as : List addr} {fuel n : Nat} (h : Chain (links heap) p as)
    (hfuel : as.length < fuel) :
    lengthLoop heap fuel p n = some (n + as.length) := by
  induction h generalizing fuel n with
  | nil =>
      cases fuel with
      | zero => exact absurd hfuel (Nat.not_lt_zero _)
      | succ fuel => rfl
  | @link a q as hnext htail ih =>
      cases fuel with
      | zero => exact absurd hfuel (Nat.not_lt_zero _)
      | succ fuel =>
          rcases links_eq_some hnext with ⟨node, hnode, hlink⟩
          have hfuel' : as.length < fuel := Nat.lt_of_succ_lt_succ hfuel
          simp only [lengthLoop, hnode, hlink, ih hfuel', List.length_cons,
            Option.some.injEq]
          lia

/-!
## The representation
-/

/-- The links of a memory form the chains of the lists. -/
structure Represents (m : Memory addr data) (a : QueueLists addr) : Prop where
  chain : forall t, Chain (links m.heap) (m.q.queue t) (a.content t)
  taken : forall ns, ns ∈ a.taken -> Chain (links m.heap) ns.head? ns
  sides : forall t t', t' ≠ t -> (a.content t').Disjoint (a.content t)
  apart : forall ns, ns ∈ a.taken -> forall t, ns.Disjoint (a.content t)

theorem represents_workQueueInit (heap : Heap addr data) :
    Represents (workQueueInit heap) (QueueLists.empty addr) where
  chain t := by cases t <;> exact .nil
  taken ns hns := by cases hns
  sides t t' _ := by cases t <;> cases t' <;> exact List.disjoint_nil_left _
  apart ns hns := by cases hns

/--
One queue is replaced and some nodes are written.  What is kept must not
contain a written node.
-/
theorem Represents.replace {m : Memory addr data} {a : QueueLists addr}
    (h : Represents m a) {t : Side} {heap' : Heap addr data}
    {p : Option addr} {content written : List addr} {ts : List (List addr)}
    (hcontent : Chain (links heap') p content)
    (hsame : forall n, n ∉ written -> links heap' n = links m.heap n)
    (hother : forall t', t' ≠ t ->
      (a.content t').Disjoint written ∧ (a.content t').Disjoint content)
    (htaken : forall ns, ns ∈ ts -> Chain (links m.heap) ns.head? ns)
    (hapart : forall ns, ns ∈ ts ->
      ns.Disjoint written ∧ ns.Disjoint content ∧
        forall t', t' ≠ t -> ns.Disjoint (a.content t')) :
    Represents { heap := heap', q := m.q.setQueue t p }
      (a.replace t content ts) where
  chain t' := by
    rcases eq_or_ne t' t with rfl | hne
    · rw [WorkQueueT.queue_setQueue_self, QueueLists.content_replace_self]
      exact hcontent
    · rw [WorkQueueT.queue_setQueue_of_ne _ hne,
        QueueLists.content_replace_of_ne _ hne]
      apply (h.chain t').frame
      intro n hn
      apply hsame
      exact (hother t' hne).1 hn
  taken ns hns := by
    rw [QueueLists.taken_replace] at hns
    apply (htaken ns hns).frame
    intro n hn
    apply hsame
    exact (hapart ns hns).1 hn
  sides t₁ t₂ hne := by
    rcases eq_or_ne t₁ t with rfl | hne₁
    · rw [QueueLists.content_replace_self,
        QueueLists.content_replace_of_ne _ hne]
      exact (hother t₂ hne).2
    rw [QueueLists.content_replace_of_ne _ hne₁]
    rcases eq_or_ne t₂ t with rfl | hne₂
    · rw [QueueLists.content_replace_self]
      exact List.disjoint_symm (hother t₁ hne₁).2
    · rw [QueueLists.content_replace_of_ne _ hne₂]
      exact h.sides t₁ t₂ hne
  apart ns hns t' := by
    rw [QueueLists.taken_replace] at hns
    rcases eq_or_ne t' t with rfl | hne
    · rw [QueueLists.content_replace_self]
      exact (hapart ns hns).2.1
    · rw [QueueLists.content_replace_of_ne _ hne]
      exact (hapart ns hns).2.2 t' hne

/-!
## Uses that write no link
-/

theorem loose_links {m : Memory addr data} {a : QueueLists addr} {n : addr}
    (h : Loose m a n) : links m.heap n = some none := by
  rcases h.2 with ⟨node, hnode, hnext⟩
  simp [links, hnode, hnext]

theorem Represents.insertable {m : Memory addr data} {a : QueueLists addr}
    (h : Represents m a) {chain : List addr}
    (hgiven : (exists node, chain = [node] ∧ Loose m a node) ∨
      chain ∈ a.taken) :
    Chain (links m.heap) chain.head? chain ∧
      forall t, chain.Disjoint (a.content t) := by
  rcases hgiven with ⟨node, rfl, hloose⟩ | htaken
  · constructor
    · exact Chain.single (loose_links hloose)
    · intro t
      rw [List.singleton_disjoint]
      exact hloose.1 t
  · exact ⟨h.taken chain htaken, h.apart chain htaken⟩

theorem workQueueGet_of_chain {t : Side} {m : Memory addr data}
    {as : List addr} (h : Chain (links m.heap) (m.q.queue t) as) :
    exists p, Chain (links m.heap) p as.tail ∧
      workQueueGet t m =
        some (as.head?, { m with q := m.q.setQueue t p }) := by
  have hhead := h.pointer_eq_head?
  cases as with
  | nil =>
      refine ⟨none, .nil, ?_⟩
      rw [List.head?_nil] at hhead ⊢
      have hsame : m.q.setQueue t none = m.q := by
        rw [← hhead, WorkQueueT.setQueue_queue]
      simp only [workQueueGet, hhead, hsame]
  | cons first rest =>
      rw [List.head?_cons] at hhead
      rw [hhead] at h
      cases h with
      | @link _ q _ hnext htail =>
          rcases links_eq_some hnext with ⟨node, hnode, hlink⟩
          refine ⟨q, htail, ?_⟩
          cases q with
          | none => simp only [workQueueGet, hhead, hnode, hlink,
              List.head?_cons]
          | some next => simp only [workQueueGet, hhead, hnode, hlink,
              List.head?_cons]

theorem Represents.get {m : Memory addr data} {a : QueueLists addr}
    (h : Represents m a) (t : Side) :
    exists m', workQueueGet t m = some ((a.content t).head?, m') ∧
      Represents m' (a.replace t (a.content t).tail a.taken) := by
  rcases workQueueGet_of_chain (h.chain t) with ⟨p, hp, hget⟩
  refine ⟨_, hget, h.replace hp (fun n (_ : n ∉ []) => rfl) ?_ ?_ ?_⟩
  · intro t' hne
    constructor
    · exact List.disjoint_nil_right _
    · exact List.disjoint_of_subset_right (List.tail_sublist _).subset
        (h.sides t t' hne)
  · intro ns hns
    exact h.taken ns hns
  · intro ns hns
    refine ⟨List.disjoint_nil_right _, ?_, fun t' _ => h.apart ns hns t'⟩
    exact List.disjoint_of_subset_right (List.tail_sublist _).subset
      (h.apart ns hns t)

theorem Represents.takeHead {m : Memory addr data} {a : QueueLists addr}
    (h : Represents m a) (t : Side) :
    (workQueueTakeHead t m).1 = (a.content t).head? ∧
      Represents (workQueueTakeHead t m).2
        (a.replace t [] (a.content t :: a.taken)) := by
  constructor
  · exact (h.chain t).pointer_eq_head?
  · apply h.replace .nil (fun n (_ : n ∉ []) => rfl)
    · intro t' hne
      exact ⟨List.disjoint_nil_right _, List.disjoint_nil_right _⟩
    · intro ns hns
      rcases List.mem_cons.mp hns with rfl | hmem
      · rw [← (h.chain t).pointer_eq_head?]
        exact h.chain t
      · exact h.taken ns hmem
    · intro ns hns
      refine ⟨List.disjoint_nil_right _, List.disjoint_nil_right _, ?_⟩
      intro t' hne
      rcases List.mem_cons.mp hns with rfl | hmem
      · exact h.sides t' t hne.symm
      · exact h.apart ns hmem t'

theorem Represents.recvLen {m : Memory addr data} {a : QueueLists addr}
    (h : Represents m a) {fuel : Nat} (hfuel : a.recv.length < fuel) :
    workQueueRecvLen fuel m = some a.recv.length := by
  have hloop := lengthLoop_of_chain (n := 0) (h.chain .recv) hfuel
  rw [Nat.zero_add] at hloop
  exact hloop

/-!
## Writing a link
-/

variable [DecidableEq addr]

theorem setPrev_of_links {heap : Heap addr data} {a : addr}
    {q : Option addr} (p : Option addr) (h : links heap a = some q) :
    exists heap', setPrev heap a p = some heap' ∧ links heap' = links heap := by
  rcases links_eq_some h with ⟨node, hnode, hlink⟩
  refine ⟨Function.update heap a (some { node with prev := p }), ?_, ?_⟩
  · simp only [setPrev, hnode]
  · funext b
    rcases eq_or_ne b a with rfl | hne
    · simp [links, hnode]
    · simp [links, Function.update_of_ne hne]

theorem setNext_of_links {heap : Heap addr data} {a : addr}
    {q : Option addr} (p : Option addr) (h : links heap a = some q) :
    exists heap', setNext heap a p = some heap' ∧
      links heap' = Function.update (links heap) a (some p) := by
  rcases links_eq_some h with ⟨node, hnode, hlink⟩
  refine ⟨Function.update heap a (some { node with next := p }), ?_, ?_⟩
  · simp only [setNext, hnode]
  · funext b
    rcases eq_or_ne b a with rfl | hne
    · simp [links]
    · simp [links, Function.update_of_ne hne]

def dataAt (heap : Heap addr data) (a : addr) : Option data :=
  (heap a).map Node.data

theorem dataAt_update {heap : Heap addr data} {a : addr}
    {node node' : Node addr data} (hnode : heap a = some node)
    (hdata : node'.data = node.data) :
    dataAt (Function.update heap a (some node')) = dataAt heap := by
  funext b
  rcases eq_or_ne b a with rfl | hne
  · simp [dataAt, hnode, hdata]
  · simp [dataAt, Function.update_of_ne hne]

theorem dataAt_setPrev {heap heap' : Heap addr data} {a : addr}
    {p : Option addr} (h : setPrev heap a p = some heap') :
    dataAt heap' = dataAt heap := by
  unfold setPrev at h
  split at h
  · cases h
  · rename_i node hnode
    cases h
    exact dataAt_update hnode rfl

theorem dataAt_setNext {heap heap' : Heap addr data} {a : addr}
    {p : Option addr} (h : setNext heap a p = some heap') :
    dataAt heap' = dataAt heap := by
  unfold setNext at h
  split at h
  · cases h
  · rename_i node hnode
    cases h
    exact dataAt_update hnode rfl

theorem dataAt_workQueueAdd {t : Side} {fuel : Nat}
    {m m' : Memory addr data} {n : addr}
    (h : workQueueAdd t fuel m n = some m') :
    dataAt m'.heap = dataAt m.heap := by
  cases hhead : m.q.queue t with
  | none =>
      simp only [workQueueAdd, appendTo, queueDlAppend, hhead,
        Option.bind_eq_bind, Option.bind_some, Option.pure_def,
        Option.some.injEq] at h
      rw [← h]
  | some first =>
      simp only [workQueueAdd, appendTo, queueDlAppend, hhead,
        Option.bind_eq_bind, Option.bind_eq_some_iff, Option.pure_def,
        Option.some.injEq] at h
      rcases h with ⟨r, ⟨tmp, htail, heap₁, hprev, heap₂, hnext, rfl⟩, rfl⟩
      exact (dataAt_setNext hnext).trans (dataAt_setPrev hprev)

theorem links_update_of_ne {heap : Heap addr data} {a b : addr}
    (node : Option (Node addr data)) (hne : b ≠ a) :
    links (Function.update heap a node) b = links heap b := by
  simp [links, Function.update_of_ne hne]

theorem link_of_chain {heap : Heap addr data} {p : Option addr}
    {last entry : addr} {front bs : List addr}
    (has : Chain (links heap) p (front ++ [last]))
    (hbs : Chain (links heap) (some entry) bs)
    (hdisj : (front ++ [last]).Disjoint bs) :
    exists heap₁ heap₂,
      setPrev heap entry (some last) = some heap₁ ∧
      setNext heap₁ last (some entry) = some heap₂ ∧
      Chain (links heap₂) p (front ++ last :: bs) ∧
      (forall n, n ≠ last -> links heap₂ n = links heap n) := by
  have hentryMem : entry ∈ bs := by
    cases hbs with
    | link _ _ => exact List.mem_cons_self
  have hlastMem : last ∈ front ++ [last] := by simp
  rcases hbs.next_isSome hentryMem with ⟨r, hentryNext⟩
  rcases setPrev_of_links (some last) hentryNext with ⟨heap₁, hprev, hlinks₁⟩
  rcases has.next_isSome hlastMem with ⟨r', hlastNext⟩
  rw [← hlinks₁] at hlastNext
  rcases setNext_of_links (some entry) hlastNext with ⟨heap₂, hset, hlinks₂⟩
  rw [hlinks₁] at hlinks₂
  have hsame : forall n, n ≠ last -> links heap₂ n = links heap n := by
    intro n hn
    rw [hlinks₂, Function.update_of_ne hn]
  refine ⟨heap₁, heap₂, hprev, hset, ?_, hsame⟩
  have hnodup := has.nodup
  rw [List.nodup_append] at hnodup
  apply has.join
  · apply hbs.frame
    intro n hn
    apply hsame
    intro hsame
    subst hsame
    exact hdisj hlastMem hn
  · rw [hlinks₂, Function.update_self]
  · intro n hn
    apply hsame
    exact hnodup.2.2 n hn last List.mem_cons_self

/--
Appending a chain behind another.  Only nodes of the front chain get another
link, and enough fuel is one more than its length.
-/
theorem queueDlAppend_of_chain {heap : Heap addr data}
    {head : Option addr} {entry : addr} {as bs : List addr}
    (has : Chain (links heap) head as)
    (hbs : Chain (links heap) (some entry) bs) (hdisj : as.Disjoint bs) :
    exists heap',
      (forall fuel, as.length < fuel ->
        queueDlAppend fuel heap head entry =
          some (heap', (as ++ bs).head?)) ∧
      Chain (links heap') (as ++ bs).head? (as ++ bs) ∧
      (forall n, n ∉ as -> links heap' n = links heap n) := by
  rcases List.eq_nil_or_concat as with rfl | ⟨front, last, rfl⟩
  · -- the queue was empty, and nothing is written
    cases has
    refine ⟨heap, ?_, ?_, fun n _ => rfl⟩
    · intro fuel hfuel
      rw [List.nil_append, ← hbs.pointer_eq_head?]
      rfl
    · rw [List.nil_append, ← hbs.pointer_eq_head?]
      exact hbs
  · rw [List.concat_eq_append] at has hdisj ⊢
    have hhead : (front ++ [last] ++ bs).head? = head := by
      rw [has.pointer_eq_head?, List.append_assoc]
      cases front with
      | nil => rfl
      | cons first rest => rfl
    rcases link_of_chain has hbs hdisj with
      ⟨heap₁, heap₂, hprev, hset, hjoined, hsame⟩
    refine ⟨heap₂, ?_, ?_, ?_⟩
    · intro fuel hfuel
      cases head with
      | none =>
          have hempty := has.pointer_eq_head?
          simp at hempty
      | some first =>
          have htail : tailLoop heap fuel first = some last := by
            apply tailLoop_of_chain has
            rw [List.length_append] at hfuel
            exact Nat.lt_of_succ_lt hfuel
          rw [hhead]
          simp only [queueDlAppend, htail, hprev, hset,
            Option.bind_eq_bind, Option.bind_some, Option.pure_def]
    · rw [hhead, List.append_assoc]
      exact hjoined
    · intro n hn
      apply hsame
      intro hsame
      subst hsame
      exact hn (by simp)

theorem appendTo_of_chain {t : Side} {m : Memory addr data} {entry : addr}
    {as bs : List addr}
    (has : Chain (links m.heap) (m.q.queue t) as)
    (hbs : Chain (links m.heap) (some entry) bs) (hdisj : as.Disjoint bs) :
    exists heap',
      (forall fuel, as.length < fuel ->
        appendTo t fuel m entry =
          some { heap := heap', q := m.q.setQueue t (as ++ bs).head? }) ∧
      Chain (links heap') (as ++ bs).head? (as ++ bs) ∧
      (forall n, n ∉ as -> links heap' n = links m.heap n) := by
  rcases queueDlAppend_of_chain has hbs hdisj with
    ⟨heap', happend, hchain, hsame⟩
  refine ⟨heap', ?_, hchain, hsame⟩
  intro fuel hfuel
  simp only [appendTo, happend fuel hfuel, Option.bind_eq_bind,
    Option.bind_some, Option.pure_def]

/-!
## Every use
-/

theorem Represents.add {m : Memory addr data} {a : QueueLists addr}
    (h : Represents m a) {n : addr} (t : Side) (hloose : Loose m a n) :
    exists m',
      (forall fuel, (a.content t).length < fuel ->
        workQueueAdd t fuel m n = some m') ∧
      Represents m' (a.replace t (a.content t ++ [n])
        (QueueLists.untouched [n] a.taken)) := by
  have hsingle := Chain.single (loose_links hloose)
  have hdisj : (a.content t).Disjoint [n] := by
    rw [List.disjoint_singleton]
    exact hloose.1 t
  rcases appendTo_of_chain (h.chain t) hsingle hdisj with
    ⟨heap', happend, hchain, hsame⟩
  refine ⟨_, happend, h.replace hchain hsame ?_ ?_ ?_⟩
  · intro t' hne
    constructor
    · exact h.sides t t' hne
    · rw [List.disjoint_append_right, List.disjoint_singleton]
      exact ⟨h.sides t t' hne, hloose.1 t'⟩
  · intro ns hns
    exact h.taken ns (QueueLists.mem_untouched.mp hns).1
  · intro ns hns
    rcases QueueLists.mem_untouched.mp hns with ⟨hmem, huntouched⟩
    refine ⟨h.apart ns hmem t, ?_, fun t' _ => h.apart ns hmem t'⟩
    rw [List.disjoint_append_right]
    exact ⟨h.apart ns hmem t, huntouched⟩

theorem Represents.insertHead {m : Memory addr data} {a : QueueLists addr}
    (h : Represents m a) {chain : List addr} (t : Side)
    (hchain : Chain (links m.heap) chain.head? chain)
    (hdisj : forall t, chain.Disjoint (a.content t)) :
    exists m',
      (forall fuel, chain.length < fuel ->
        workQueueInsertHead t fuel m chain.head? = some m') ∧
      Represents m' (a.replace t (chain ++ a.content t)
        (QueueLists.untouched chain a.taken)) := by
  have hother : forall t', t' ≠ t ->
      (a.content t').Disjoint chain ∧
        (a.content t').Disjoint (chain ++ a.content t) := by
    intro t' hne
    constructor
    · exact List.disjoint_symm (hdisj t')
    · rw [List.disjoint_append_right]
      exact ⟨List.disjoint_symm (hdisj t'), h.sides t t' hne⟩
  have htaken : forall ns, ns ∈ QueueLists.untouched chain a.taken ->
      Chain (links m.heap) ns.head? ns := by
    intro ns hns
    exact h.taken ns (QueueLists.mem_untouched.mp hns).1
  have hapart : forall ns, ns ∈ QueueLists.untouched chain a.taken ->
      ns.Disjoint chain ∧ ns.Disjoint (chain ++ a.content t) ∧
        forall t', t' ≠ t -> ns.Disjoint (a.content t') := by
    intro ns hns
    rcases QueueLists.mem_untouched.mp hns with ⟨hmem, huntouched⟩
    refine ⟨huntouched, ?_, fun t' _ => h.apart ns hmem t'⟩
    rw [List.disjoint_append_right]
    exact ⟨huntouched, h.apart ns hmem t⟩
  have hqueue := h.chain t
  cases hhead : m.q.queue t with
  | none =>
      -- the queue was empty: only its head is assigned
      rw [hhead] at hqueue
      have hempty : a.content t = [] := by
        have hhead? := hqueue.pointer_eq_head?
        exact List.head?_eq_none_iff.mp hhead?.symm
      rw [hempty, List.append_nil] at hother hapart ⊢
      refine ⟨{ m with q := m.q.setQueue t chain.head? }, ?_,
        h.replace hchain (fun n _ => rfl) hother htaken hapart⟩
      intro fuel hfuel
      simp only [workQueueInsertHead, hhead]
  | some first =>
      rw [hhead] at hqueue
      have hcurrent : Chain (links m.heap)
          ((m.q.setQueue t chain.head?).queue t) chain := by
        rw [WorkQueueT.queue_setQueue_self]
        exact hchain
      rcases appendTo_of_chain
          (m := { m with q := m.q.setQueue t chain.head? })
          hcurrent hqueue (hdisj t) with ⟨heap', happend, happended, hsame⟩
      rw [WorkQueueT.setQueue_setQueue] at happend
      refine ⟨_, ?_, h.replace happended hsame hother htaken hapart⟩
      intro fuel hfuel
      simp only [workQueueInsertHead, hhead, happend fuel hfuel]

theorem Represents.write {m : Memory addr data} {a : QueueLists addr}
    (h : Represents m a) {n : addr} (node : Option (Node addr data))
    (hout : forall t, n ∉ a.content t) :
    Represents { m with heap := Function.update m.heap n node }
      { a with taken := QueueLists.untouched [n] a.taken } where
  chain t := by
    apply Chain.frame (h.chain t)
    intro b hb
    apply links_update_of_ne
    intro hsame
    subst hsame
    exact hout t hb
  taken ns hns := by
    rcases QueueLists.mem_untouched.mp hns with ⟨hmem, huntouched⟩
    apply (h.taken ns hmem).frame
    intro b hb
    apply links_update_of_ne
    intro hsame
    subst hsame
    exact huntouched hb List.mem_cons_self
  sides t t' hne := h.sides t t' hne
  apart ns hns t := h.apart ns (QueueLists.mem_untouched.mp hns).1 t

/-- Every use that is allowed ends, gives what the lists give, and keeps the
representation. -/
theorem Represents.exec {m : Memory addr data} {a : QueueLists addr}
    (h : Represents m a) {op : Op addr data} (hallowed : Allowed m a op) :
    exists m' N,
      (forall fuel, N ≤ fuel ->
        exec fuel m op = some (m', (a.apply op).2)) ∧
      Represents m' (a.apply op).1 := by
  cases op with
  | add t node =>
      rcases h.add t hallowed with ⟨m', hadd, hrep⟩
      refine ⟨m', (a.content t).length + 1, ?_, hrep⟩
      intro fuel hfuel
      cases t with
      | send =>
          rw [WorkQueue.exec, workQueueSendAdd, hadd fuel hfuel]
          rfl
      | recv =>
          rw [WorkQueue.exec, workQueueRecvAdd, hadd fuel hfuel]
          rfl
  | insertHead t chain =>
      rcases h.insertable hallowed with ⟨hchain, hdisj⟩
      rcases h.insertHead t hchain hdisj with ⟨m', hinsert, hrep⟩
      refine ⟨m', chain.length + 1, ?_, hrep⟩
      intro fuel hfuel
      cases t with
      | send =>
          rw [WorkQueue.exec, workQueueSendInsertHead, hinsert fuel hfuel]
          rfl
      | recv =>
          rw [WorkQueue.exec, workQueueRecvInsertHead, hinsert fuel hfuel]
          rfl
  | get t =>
      rcases h.get t with ⟨m', hget, hrep⟩
      refine ⟨m', 0, ?_, hrep⟩
      intro fuel hfuel
      cases t with
      | send =>
          rw [WorkQueue.exec, workQueueSendGet, hget]
          rfl
      | recv =>
          rw [WorkQueue.exec, workQueueRecvGet, hget]
          rfl
  | takeHead t =>
      rcases h.takeHead t with ⟨htake, hrep⟩
      refine ⟨_, 0, ?_, hrep⟩
      intro fuel hfuel
      cases t with
      | send => simp only [WorkQueue.exec, workQueueSendTakeHead, htake,
          QueueLists.apply]
      | recv => simp only [WorkQueue.exec, workQueueRecvTakeHead, htake,
          QueueLists.apply]
  | recvLen =>
      refine ⟨m, a.recv.length + 1, ?_, h⟩
      intro fuel hfuel
      rw [WorkQueue.exec, h.recvLen hfuel]
      rfl
  | write n node =>
      exact ⟨_, 0, fun fuel _ => rfl, h.write node hallowed⟩

/-!
## Sequences of uses
-/

def applyAll (a : QueueLists addr) (ops : List (Op addr data)) :
    Option (QueueLists addr × List (Result addr)) :=
  feedAll (fun a op => some (a.apply op)) a ops

def execAll (fuel : Nat) (m : Memory addr data) (ops : List (Op addr data)) :
    Option (Memory addr data × List (Result addr)) :=
  feedAll (exec fuel) m ops

theorem Represents.execAll {m : Memory addr data} {a : QueueLists addr}
    (h : Represents m a) {ops : List (Op addr data)} (hvalid : Valid ops m a) :
    exists m' a' results N,
      applyAll a ops = some (a', results) ∧
      (forall fuel, N ≤ fuel -> execAll fuel m ops = some (m', results)) ∧
      Represents m' a' := by
  induction ops generalizing m a with
  | nil =>
      exact ⟨m, a, [], 0, rfl, fun fuel _ => rfl, h⟩
  | cons op rest ih =>
      rcases hvalid with ⟨hallowed, hrest⟩
      rcases h.exec hallowed with ⟨m₁, N₁, hexec, hrep⟩
      have hvalid' := hrest N₁ m₁ _ (hexec N₁ (Nat.le_refl _))
      rcases ih hrep hvalid' with
        ⟨m', a', results, N₂, happly, hrun, hrep'⟩
      refine ⟨m', a', (a.apply op).2 :: results, max N₁ N₂, ?_, ?_, hrep'⟩
      · exact feedAll_cons_of_some rfl happly
      · intro fuel hfuel
        exact feedAll_cons_of_some
          (hexec fuel (Nat.le_trans (Nat.le_max_left _ _) hfuel))
          (hrun fuel (Nat.le_trans (Nat.le_max_right _ _) hfuel))

theorem Valid.of_prefix {ops rest : List (Op addr data)}
    {m : Memory addr data} {a : QueueLists addr} (h : Valid (ops ++ rest) m a) :
    Valid ops m a := by
  induction ops generalizing m a with
  | nil =>
      exact trivial
  | cons op ops ih =>
      rcases h with ⟨hallowed, hrest⟩
      constructor
      · exact hallowed
      · intro fuel m' r hexec
        exact ih (hrest fuel m' r hexec)

/-- No node is lost or duplicated. -/
theorem applyAll_perm {a a' : QueueLists addr} {ops : List (Op addr data)}
    {results : List (Result addr)}
    (h : applyAll a ops = some (a', results)) (t : Side) :
    (a.content t ++ ops.flatMap (QueueLists.entering t)).Perm
      (QueueLists.departed t a ops ++ a'.content t) := by
  induction ops generalizing a results with
  | nil =>
      simp only [applyAll, feedAll_nil, Option.some.injEq,
        Prod.mk.injEq] at h
      rw [h.1]
      simp [QueueLists.departed]
  | cons op rest ih =>
      cases hrest : applyAll (a.apply op).1 rest with
      | none =>
          rw [applyAll] at hrest
          simp [applyAll, feedAll, hrest] at h
      | some out =>
          rcases out with ⟨last, outs⟩
          have hlast : last = a' := by
            rw [applyAll] at hrest
            simp only [applyAll, feedAll, hrest, Option.some.injEq,
              Prod.mk.injEq] at h
            exact h.1
          rw [hlast] at hrest
          have hstep := ih hrest
          have hfirst := (a.content_apply_perm t op).append_right
            (rest.flatMap (QueueLists.entering t))
          rw [List.append_assoc, List.append_assoc] at hfirst
          rw [List.flatMap_cons, QueueLists.departed, List.append_assoc]
          exact hfirst.trans (hstep.append_left _)

/--
The sequence of uses ends with the results of the lists.  Then the links of
both queues and of every chain taken form finite chains without a repeated
node, which no two of the queues and no queue and chain share, and every node
that entered a queue has left it or is in it, as often as it entered.
-/
def RefinesLists (heap : Heap addr data) (ops : List (Op addr data)) : Prop :=
  exists m a results N,
    applyAll (QueueLists.empty addr) ops = some (a, results) ∧
    (forall fuel, N ≤ fuel ->
      execAll fuel (workQueueInit heap) ops = some (m, results)) ∧
    Represents m a ∧
    forall t, (a.content t).Nodup ∧
      (ops.flatMap (QueueLists.entering t)).Perm
        (QueueLists.departed t (QueueLists.empty addr) ops ++ a.content t)

/-- A valid sequence of uses refines the lists, at each of its points. -/
theorem workQueue_refines_lists (heap : Heap addr data)
    (ops : List (Op addr data))
    (hvalid : Valid ops (workQueueInit heap) (QueueLists.empty addr)) :
    forall done, done <+: ops -> RefinesLists heap done := by
  intro done hdone
  rcases hdone with ⟨rest, rfl⟩
  rcases (represents_workQueueInit heap).execAll hvalid.of_prefix with
    ⟨m, a, results, N, happly, hrun, hrep⟩
  refine ⟨m, a, results, N, happly, hrun, hrep, ?_⟩
  intro t
  constructor
  · exact (hrep.chain t).nodup
  · have hperm := applyAll_perm happly t
    cases t with
    | send => exact hperm
    | recv => exact hperm

def putBack : List (Op Nat Unit) :=
  [.add .recv 0, .takeHead .recv, .insertHead .recv [0], .add .recv 1]

def looseNodes : Heap Nat Unit :=
  fun _ => some { next := none, prev := none, data := () }

theorem loose_looseNodes {m : Memory Nat Unit} {a : QueueLists Nat} {n : Nat}
    (hheap : m.heap = looseNodes) (hout : forall t, n ∉ a.content t) :
    Loose m a n := by
  constructor
  · exact hout
  · rw [hheap]
    exact ⟨_, rfl, rfl⟩

theorem loose_first (n : Nat) :
    Loose (workQueueInit looseNodes) (QueueLists.empty Nat) n := by
  apply loose_looseNodes rfl
  intro t
  cases t <;> exact List.not_mem_nil

theorem putBack_valid :
    Valid putBack (workQueueInit looseNodes) (QueueLists.empty Nat) := by
  constructor
  · exact loose_first 0
  intro fuel m r hexec
  cases hexec
  constructor
  · exact trivial
  intro fuel m r hexec
  cases hexec
  constructor
  · exact Or.inr List.mem_cons_self
  intro fuel m r hexec
  cases hexec
  constructor
  · apply loose_looseNodes rfl
    intro t
    cases t with
    | send => exact List.not_mem_nil
    | recv =>
        change 1 ∉ [0]
        decide
  · intro fuel m r hexec
    exact trivial

theorem workQueue_refines_lists_putBack :
    Valid putBack (workQueueInit looseNodes) (QueueLists.empty Nat) ∧
      RefinesLists looseNodes putBack := by
  constructor
  · exact putBack_valid
  · exact workQueue_refines_lists looseNodes putBack putBack_valid
      putBack List.prefix_rfl

end WorkQueue
end Fluxnode
