import Fluxnode.WebSocket.Tasks

/-!
# The life of a connection

Between the labels of the server task every connection that was greeted has been
closed and deleted, apart from the one that is served: it is the one in
`websocket_conn`.
-/

namespace Fluxnode
namespace WebSocket

open C
open Foundation

/-!
## What holds at the labels
-/

/-- The connections are greeted one after the other, each of them once. -/
structure Ordered (s : Shared) : Prop where
  nodup : s.greeted.Nodup
  lt : forall c, c ∈ s.greeted -> c < s.accepted

structure Resting (s : Shared) : Prop extends Ordered s where
  closed : s.closed = s.greeted
  deleted : s.deleted = s.greeted

/-- The connection in `websocket_conn` is greeted and neither closed nor deleted,
unlike the ones before. -/
structure Serving (c : Conn) (s : Shared) : Prop extends Ordered s where
  conn : s.conn = some c
  greeted : s.greeted = s.deleted ++ [c]
  closed : s.closed = s.deleted

structure Closing (c : Conn) (s : Shared) : Prop extends Ordered s where
  conn : s.conn = some c
  greeted : s.greeted = s.deleted ++ [c]
  closed : s.closed = s.greeted

def Label.Serves : Label -> Bool
  | .connected => true
  | .serving _ => true
  | .leaving _ => true
  | _ => false

def AtLabel : Label -> Shared -> Prop
  | .connected, s => exists c, Serving c s
  | .serving conn, s => exists c, conn = some c ∧ Serving c s
  | .leaving conn, s => exists c, conn = some c ∧ Serving c s
  | _, s => Resting s

def Within (label : Label) (o : Op) (s : Shared) : Prop :=
  if label.Serves then
    o ≠ .acceptEntry ∧ s.greeted.Nodup ∧
      exists c, s.conn = some c ∧ s.greeted = s.deleted ++ [c]
  else
    Resting s

/-!
## What the others do
-/

/-- The other task, the network and the heap change nothing but the answers, and
`websocket_stop` sets `websocket_server_running` to 0. -/
structure Interferes (s s' : Shared) : Prop where
  conn : s'.conn = s.conn
  running : s.running = 0 -> s'.running = 0
  accepted : s'.accepted = s.accepted
  greeted : s'.greeted = s.greeted
  closed : s'.closed = s.closed
  deleted : s'.deleted = s.deleted

/-!
## What stays as it is
-/

section Stable

variable {s s' : Shared} {c : Conn}

theorem Ordered.congr (h : Ordered s) (haccepted : s'.accepted = s.accepted)
    (hgreeted : s'.greeted = s.greeted) : Ordered s' := by
  constructor
  · rw [hgreeted]
    exact h.nodup
  · rw [haccepted, hgreeted]
    exact h.lt

theorem Resting.interfered (h : Resting s) (hrely : Interferes s s') :
    Resting s' where
  toOrdered := h.toOrdered.congr hrely.accepted hrely.greeted
  closed := by rw [hrely.closed, hrely.greeted, h.closed]
  deleted := by rw [hrely.deleted, hrely.greeted, h.deleted]

theorem Serving.interfered (h : Serving c s) (hrely : Interferes s s') :
    Serving c s' where
  toOrdered := h.toOrdered.congr hrely.accepted hrely.greeted
  conn := by rw [hrely.conn, h.conn]
  greeted := by rw [hrely.greeted, hrely.deleted, h.greeted]
  closed := by rw [hrely.closed, hrely.deleted, h.closed]

theorem Closing.interfered (h : Closing c s) (hrely : Interferes s s') :
    Closing c s' where
  toOrdered := h.toOrdered.congr hrely.accepted hrely.greeted
  conn := by rw [hrely.conn, h.conn]
  greeted := by rw [hrely.greeted, hrely.deleted, h.greeted]
  closed := by rw [hrely.closed, hrely.greeted, h.closed]

end Stable

/-!
## The pieces
-/

abbrev rely : Option Op -> Shared -> Shared -> Prop :=
  fun _ => Interferes

section Rules

variable {α β : Type} {allow : Op -> Shared -> Prop}
  {post : α -> Shared -> Prop} {P : Shared -> Prop} {s : Shared}

abbrev Ensured (allow : Op -> Shared -> Prop) (post : α -> Shared -> Prop)
    (p : Prog α) (s : Shared) : Prop :=
  p.Ensures exec rely allow post s

theorem Ensured.done {a : α} (hs : P s) (hstable : Program.Stable Interferes P)
    (hpost : forall s, P s -> post a s) :
    Ensured allow post (pure a) s :=
  Program.Ensures.done hs hstable hpost

theorem Ensured.perform {o : Op} {f : o.Answer -> Prog α} (hs : P s)
    (hstable : Program.Stable Interferes P) (hallow : forall s, P s -> allow o s)
    (hnext : forall s s' b, P s -> exec o s = some (s', b) ->
      Ensured allow post (f b) s') :
    Ensured allow post (access o >>= f) s :=
  Program.Ensures.perform hs hstable hallow hnext

theorem Ensured.reads {o : Op} {f : o.Answer -> Prog α} (ho : o.Reads)
    (hs : P s) (hstable : Program.Stable Interferes P)
    (hallow : forall s, P s -> allow o s)
    (hnext : forall s b, P s -> Ensured allow post (f b) s) :
    Ensured allow post (access o >>= f) s := by
  apply Ensured.perform hs hstable hallow
  intro s s' b hs hexec
  rw [exec_reads ho hexec]
  exact hnext s b hs

theorem Ensured.fault (hs : P s) (hstable : Program.Stable Interferes P)
    (hallow : forall s, P s -> allow .fault s) :
    Ensured allow post (WebSocket.fault : Prog α) s := by
  apply Program.Ensures.perform hs hstable hallow
  intro s s' b hs hexec
  cases hexec

theorem Ensured.orFault {x : Option β} {f : β -> Prog α} (hs : P s)
    (hstable : Program.Stable Interferes P)
    (hallow : forall s, P s -> allow .fault s)
    (hnext : forall b, x = some b -> Ensured allow post (f b) s) :
    Ensured allow post (orFault x >>= f) s := by
  cases x with
  | none =>
      apply Program.Ensures.perform hs hstable hallow
      intro s s' b hs hexec
      cases hexec
  | some b => exact hnext b rfl

end Rules

/-!
### The handshake
-/

structure Fresh (c : Conn) (s : Shared) : Prop extends Resting s where
  conn : s.conn = some c
  lt_accepted : c < s.accepted
  not_greeted : c ∉ s.greeted

theorem Fresh.stable (c : Conn) : Program.Stable Interferes (Fresh c) := by
  intro s s' h hrely
  constructor
  · exact h.toResting.interfered hrely
  · rw [hrely.conn, h.conn]
  · rw [hrely.accepted]
    exact h.lt_accepted
  · rw [hrely.greeted]
    exact h.not_greeted

theorem Fresh.greet {c : Conn} {s : Shared} (h : Fresh c s) :
    Serving c { s with greeted := s.greeted ++ [c] } where
  nodup := by
    rw [List.nodup_append]
    refine ⟨h.nodup, by simp, ?_⟩
    intro a ha b hb heq
    rw [List.mem_singleton] at hb
    exact h.not_greeted (hb ▸ heq ▸ ha)
  lt := by
    intro a ha
    rcases List.mem_append.mp ha with hold | hnew
    · exact h.lt a hold
    · rw [List.mem_singleton.mp hnew]
      exact h.lt_accepted
  conn := h.conn
  greeted := by rw [h.deleted]
  closed := by rw [h.closed, h.deleted]

theorem Resting.within {label : Label} (hlabel : label.Serves = false) {o : Op}
    {s : Shared} (h : Resting s) : Within label o s := by
  rw [Within, if_neg (by rw [hlabel]; exact Bool.false_ne_true)]
  exact h

theorem Fresh.within {c : Conn} {o : Op} {s : Shared} (h : Fresh c s) :
    Within .accepting o s :=
  h.toResting.within rfl

def Shaken (c : Conn) (res : Int) (s : Shared) : Prop :=
  if res = 0 then Serving c s else Resting s

theorem Shaken.stable (c : Conn) (res : Int) :
    Program.Stable Interferes (Shaken c res) := by
  intro s s' h hrely
  unfold Shaken at h ⊢
  split at h
  · rename_i hzero
    rw [if_pos hzero]
    exact h.interfered hrely
  · rename_i hnot
    rw [if_neg hnot]
    exact h.interfered hrely

section Handshake

variable {c : Conn} {s : Shared}

abbrev Shakes (c : Conn) (p : Prog Int) (s : Shared) : Prop :=
  Ensured (Within .accepting) (Shaken c) p s

theorem Shaken.returns {res : Int} (h : Shaken c res s) :
    Shakes c (pure res) s :=
  Ensured.done h (Shaken.stable c res) (fun _ hs => hs)

theorem Fresh.refuses {res : Int} (h : Fresh c s) (hres : res ≠ 0) :
    Shakes c (pure res) s := by
  apply Shaken.returns
  rw [Shaken, if_neg hres]
  exact h.toResting

theorem Fresh.reads {o : Op} {f : o.Answer -> Prog Int} (ho : o.Reads)
    (h : Fresh c s) (hnext : forall s b, Fresh c s -> Shakes c (f b) s) :
    Shakes c (access o >>= f) s :=
  Ensured.reads ho h (Fresh.stable c) (fun _ hs => hs.within) hnext

theorem Fresh.orFault {α : Type} {x : Option α} {f : α -> Prog Int}
    (h : Fresh c s) (hnext : forall a, Shakes c (f a) s) :
    Shakes c (WebSocket.orFault x >>= f) s :=
  Ensured.orFault h (Fresh.stable c) (fun _ hs => hs.within)
    (fun a _ => hnext a)

theorem shakes_writeResponse (h : Fresh c s) (base64digest : List UInt8) :
    Shakes c (writeResponse (some c) base64digest) s := by
  apply Fresh.reads (by trivial) h
  intro s allocates h
  split
  · show Shakes c (access (.write .server (some c) _) >>= fun res => pure res) s
    apply Ensured.perform h (Fresh.stable c) (fun _ hs => hs.within)
    intro s s' res h hexec
    simp only [exec] at hexec
    split at hexec
    · cases hexec
      exact Shaken.returns h.greet
    · rename_i herr
      cases hexec
      exact h.refuses herr
  · exact h.refuses (by decide)

theorem shakes_answerKey (digests : Digests) (h : Fresh c s) (buf : List UInt8)
    (seckey : Nat) : Shakes c (answerKey digests (some c) buf seckey) s := by
  apply Fresh.reads (by trivial) h
  intro s allocates h
  split
  · apply Fresh.orFault h
    intro key
    apply Fresh.reads (by trivial) h
    intro s allocates h
    split
    · exact shakes_writeResponse h _
    · exact Ensured.fault h (Fresh.stable c) (fun _ hs => hs.within)
  · exact h.refuses (by decide)

theorem shakes_websocketHandshake (digests : Digests) (h : Fresh c s) :
    Shakes c (websocketHandshake digests (some c)) s := by
  apply Fresh.reads (by trivial) h
  intro s err h
  split
  · exact h.refuses ‹_›
  · apply Fresh.reads (by trivial) h
    intro s data h
    rcases data with ⟨err, buf⟩
    dsimp only
    split
    · exact h.refuses ‹_›
    · apply Fresh.orFault h
      intro seckey
      cases seckey with
      | none => exact h.refuses (by decide)
      | some seckey => exact shakes_answerKey digests h buf seckey

end Handshake

/-!
### From label to label
-/

section Pieces

variable {c : Conn} {s : Shared} {label : Label}

abbrev Keeps (label : Label) (p : Prog Label) (s : Shared) : Prop :=
  Position.Keeps exec rely Within AtLabel label p s

theorem Resting.stable : Program.Stable Interferes Resting :=
  fun _ _ h hrely => h.interfered hrely

theorem Serving.stable (c : Conn) : Program.Stable Interferes (Serving c) :=
  fun _ _ h hrely => h.interfered hrely

theorem Closing.stable (c : Conn) : Program.Stable Interferes (Closing c) :=
  fun _ _ h hrely => h.interfered hrely

theorem Resting.atLabel (hlabel : label.Serves = false) (h : Resting s) :
    AtLabel label s := by
  cases label with
  | connected => cases hlabel
  | serving conn => cases hlabel
  | leaving conn => cases hlabel
  | _ => exact h

theorem Serving.within (hlabel : label.Serves = true) {o : Op}
    (ho : o ≠ .acceptEntry) (h : Serving c s) : Within label o s := by
  rw [Within, if_pos hlabel]
  exact ⟨ho, h.nodup, c, h.conn, h.greeted⟩

theorem Closing.within (hlabel : label.Serves = true) {o : Op}
    (ho : o ≠ .acceptEntry) (h : Closing c s) : Within label o s := by
  rw [Within, if_pos hlabel]
  exact ⟨ho, h.nodup, c, h.conn, h.greeted⟩

theorem Resting.goes {next : Label} (h : Resting s)
    (hnext : next.Serves = false) : Keeps label (pure next) s :=
  Ensured.done h Resting.stable (fun _ hs => hs.atLabel hnext)

theorem Resting.setConn (h : Resting s) (conn : NetconnPtr) :
    Resting { s with conn := conn } where
  nodup := h.nodup
  lt := h.lt
  closed := h.closed
  deleted := h.deleted

theorem Resting.setClientIpAddress (h : Resting s) (text : List UInt8) :
    Resting { s with clientIpAddress := text } where
  nodup := h.nodup
  lt := h.lt
  closed := h.closed
  deleted := h.deleted

theorem Resting.setRunning (h : Resting s) (running : Int) :
    Resting { s with running := running } where
  nodup := h.nodup
  lt := h.lt
  closed := h.closed
  deleted := h.deleted

theorem Resting.acceptConn (h : Resting s) : Fresh s.accepted s.acceptConn where
  nodup := h.nodup
  lt := fun a ha => Nat.lt_succ_of_lt (h.lt a ha)
  closed := h.closed
  deleted := h.deleted
  conn := rfl
  lt_accepted := Nat.lt_succ_self _
  not_greeted := fun hmem => Nat.lt_irrefl _ (h.lt _ hmem)

theorem Fresh.setClientIpAddress (h : Fresh c s) (text : List UInt8) :
    Fresh c { s with clientIpAddress := text } where
  toResting := h.toResting.setClientIpAddress text
  conn := h.conn
  lt_accepted := h.lt_accepted
  not_greeted := h.not_greeted

theorem Serving.close (h : Serving c s) :
    Closing c { s with closed := s.closed ++ [c] } where
  nodup := h.nodup
  lt := h.lt
  conn := h.conn
  greeted := h.greeted
  closed := by rw [h.greeted, h.closed]

theorem Closing.delete (h : Closing c s) :
    Resting { s with deleted := s.deleted ++ [c] } where
  nodup := h.nodup
  lt := h.lt
  closed := h.closed
  deleted := h.greeted.symm

theorem Resting.perform {o : Op} {f : o.Answer -> Prog Label} (h : Resting s)
    (hlabel : label.Serves = false)
    (hnext : forall s s' b, Resting s -> exec o s = some (s', b) ->
      Keeps label (f b) s') : Keeps label (access o >>= f) s :=
  Ensured.perform h Resting.stable (fun _ hs => hs.within hlabel) hnext

theorem Fresh.perform {o : Op} {f : o.Answer -> Prog Label} (h : Fresh c s)
    (hnext : forall s s' b, Fresh c s -> exec o s = some (s', b) ->
      Keeps .accepting (f b) s') : Keeps .accepting (access o >>= f) s :=
  Ensured.perform h (Fresh.stable c) (fun _ hs => hs.within) hnext

theorem Serving.perform {o : Op} {f : o.Answer -> Prog Label}
    (h : Serving c s) (hlabel : label.Serves = true) (ho : o ≠ .acceptEntry)
    (hnext : forall s s' b, Serving c s -> exec o s = some (s', b) ->
      Keeps label (f b) s') : Keeps label (access o >>= f) s :=
  Ensured.perform h (Serving.stable c) (fun _ hs => hs.within hlabel ho) hnext

theorem keeps_starting (h : Resting s) : Keeps .starting startServer s := by
  apply h.perform rfl
  intro s s' b h hexec
  cases hexec
  apply (h.setConn none).perform rfl
  intro s s' created h hexec
  cases hexec
  apply h.goes
  cases s.reply.err == errOk <;> rfl

theorem keeps_acceptedRound (digests : Digests) (h : Resting s)
    (hconn : s.running = 0 ∨ Fresh c s) :
    Keeps .accepting (acceptedRound digests) s := by
  have hstable : Program.Stable Interferes
      (fun s => Resting s ∧ (s.running = 0 ∨ Fresh c s)) := by
    intro s s' hs hrely
    exact ⟨hs.1.interfered hrely,
      hs.2.imp hrely.running (fun hc => Fresh.stable c s s' hc hrely)⟩
  apply Ensured.perform ⟨h, hconn⟩ hstable (fun _ hs => hs.1.within rfl)
  intro s s' running hs hexec
  rcases hs with ⟨h, hconn⟩
  cases hexec
  split
  · exact h.goes rfl
  · rename_i hrunning
    apply (hconn.resolve_left hrunning).perform
    intro s s' conn h hexec
    cases hexec
    apply h.perform
    intro s s' ip h hexec
    cases hexec
    apply h.perform
    intro s s' b h hexec
    cases hexec
    apply (h.setClientIpAddress _).perform
    intro s s' conn h hexec
    cases hexec
    rw [h.conn]
    apply Program.Ensures.bind
    apply (shakes_websocketHandshake digests h).mono
    intro res s hres
    unfold Shaken at hres
    split at hres
    · rename_i hzero
      rw [if_neg (not_not.mpr hzero)]
      exact Ensured.done hres (Serving.stable c) (fun _ hs => ⟨c, hs⟩)
    · rename_i hnot
      rw [if_pos hnot]
      exact hres.goes rfl

theorem keeps_accepting (digests : Digests) (h : Resting s) :
    Keeps .accepting (acceptRound digests) s := by
  apply h.perform rfl
  intro s s' b h hexec
  cases hexec
  have hentered : Resting
      (if s.reply.clears then { s with conn := none } else s) := by
    split
    · exact h.setConn none
    · exact h
  apply hentered.perform rfl
  intro s s' accepted h hexec
  simp only [exec] at hexec
  split at hexec
  · cases hexec
    exact keeps_acceptedRound digests h.acceptConn.toResting (.inr h.acceptConn)
  · rename_i herr
    cases hexec
    rw [if_pos herr]
    apply h.perform rfl
    intro s s' running h hexec
    cases hexec
    split
    · exact h.goes rfl
    · rename_i hzero
      exact keeps_acceptedRound digests (c := 0) h (.inl (not_not.mp hzero))

theorem keeps_connected (h : Serving c s) : Keeps .connected callServe s := by
  apply h.perform rfl (by simp)
  intro s s' b h hexec
  cases hexec
  apply h.perform rfl (by simp)
  intro s s' conn h hexec
  cases hexec
  rw [h.conn]
  exact Ensured.done h (Serving.stable c) (fun _ hs => ⟨c, rfl, hs⟩)

theorem Serving.serves (h : Serving c s) :
    Keeps (.serving (some c)) (pure (.serving (some c))) s :=
  Ensured.done h (Serving.stable c) (fun _ hs => ⟨c, rfl, hs⟩)

theorem Serving.leaves (h : Serving c s) :
    Keeps (.serving (some c)) (pure (.leaving (some c))) s :=
  Ensured.done h (Serving.stable c) (fun _ hs => ⟨c, rfl, hs⟩)

theorem Serving.reads {o : Op} {f : o.Answer -> Prog Label} (ho : o.Reads)
    (h : Serving c s)
    (hnext : forall s b, Serving c s -> Keeps (.serving (some c)) (f b) s) :
    Keeps (.serving (some c)) (access o >>= f) s := by
  apply h.perform rfl
  · intro heq
    rw [heq] at ho
    exact ho
  · intro s s' b h hexec
    rw [exec_reads ho hexec]
    exact hnext s b h

theorem keeps_serveFrame (h : Serving c s) :
    Keeps (.serving (some c)) (serveFrame (some c)) s := by
  apply Serving.reads (by trivial) h
  intro s data h
  rcases data with ⟨err, buf⟩
  dsimp only
  split
  · exact h.leaves
  · apply Serving.reads (by trivial) h
    intro s allocates h
    apply Ensured.orFault h (Serving.stable c) (fun _ hs =>
      hs.within rfl (by simp))
    intro served _
    cases served with
    | leaves => exact h.leaves
    | calls frame =>
        apply Serving.reads (by trivial) h
        intro s status h
        split
        · exact h.leaves
        · exact h.serves

theorem keeps_serving (h : Serving c s) :
    Keeps (.serving (some c)) (serveRound (some c)) s := by
  apply Serving.reads (by trivial) h
  intro s res h
  split
  · apply Serving.reads (by trivial) h
    intro s running h
    split
    · exact h.serves
    · exact h.leaves
  · split
    · exact h.leaves
    · apply Serving.reads (by trivial) h
      intro s running h
      split
      · exact h.leaves
      · exact keeps_serveFrame h

theorem keeps_leaving (h : Serving c s) :
    Keeps (.leaving (some c)) (leaveServe (some c)) s := by
  apply h.perform rfl (by simp)
  intro s s' b h hexec
  cases hexec
  apply Ensured.perform h.close (Closing.stable c) (fun _ hs =>
    hs.within rfl (by simp))
  intro s s' b h hexec
  cases hexec
  exact h.delete.goes rfl

theorem keeps_left (h : Resting s) : Keeps .left endRound s := by
  apply h.perform rfl
  intro s s' b h hexec
  cases hexec
  apply h.perform rfl
  intro s s' b h hexec
  cases hexec
  apply (h.setClientIpAddress []).perform rfl
  intro s s' b h hexec
  cases hexec
  exact (h.setConn none).goes rfl

theorem keeps_stopping (h : Resting s) : Keeps .stopping stopServer s := by
  apply h.perform rfl
  intro s s' b h hexec
  cases hexec
  apply (h.setRunning 2).perform rfl
  intro s s' b h hexec
  cases hexec
  exact (h.setClientIpAddress []).goes rfl

theorem keeps_websocketServerTask (digests : Digests) (label : Label)
    (s : Shared) (h : AtLabel label s) :
    Keeps label (websocketServerTask digests label) s := by
  cases label with
  | starting => exact keeps_starting h
  | accepting => exact keeps_accepting digests h
  | connected =>
      rcases h with ⟨c, hserving⟩
      exact keeps_connected hserving
  | serving conn =>
      rcases h with ⟨c, rfl, hserving⟩
      exact keeps_serving hserving
  | leaving conn =>
      rcases h with ⟨c, rfl, hserving⟩
      exact keeps_leaving hserving
  | left => exact keeps_left h
  | stopping => exact keeps_stopping h
  | stopped =>
      apply Program.Ensures.perform h Resting.stable
      · intro s hs
        exact hs.within rfl
      · intro s s' b hs hexec
        cases hexec

end Pieces

/-!
## Runs
-/

theorem websocketServerTask_performs (digests : Digests) (label : Label) :
    (websocketServerTask digests label).next?.isSome := by
  cases label <;> rfl

/-- The server is inside of a piece that is correct for its label, and a call
changes nothing. -/
structure Orderly (s : System) : Prop where
  server : Position.Guarded exec rely Within AtLabel s.server s.shared
  performs : s.server.rest.next?.isSome
  app : forall r, s.app = some r -> r.rest.All ScriptOp

theorem Started.orderly {digests : Digests} {s : System}
    (h : Started digests s) : Orderly s where
  server := by
    rw [h.server]
    apply keeps_starting
    constructor
    · constructor
      · rw [h.greeted]
        exact List.nodup_nil
      · rw [h.greeted]
        simp
    · rw [h.closed, h.greeted]
    · rw [h.deleted, h.greeted]
  performs := by
    rw [h.server]
    rfl
  app := by
    rw [h.app]
    simp

theorem Orderly.interfered {s : System} (h : Orderly s) {shared : Shared}
    (hrely : Interferes s.shared shared) :
    Orderly { s with shared := shared } where
  server := h.server.interfered hrely
  performs := h.performs
  app := h.app

theorem Orderly.step {digests : Digests} {action : Action} {s s' : System}
    (h : Orderly s) (hstep : s.step digests action = some s') : Orderly s' := by
  cases action with
  | server =>
      rw [System.step, Option.map_eq_some_iff] at hstep
      rcases hstep with ⟨⟨server, shared⟩, hserver, rfl⟩
      exact
        { server := h.server.step (keeps_websocketServerTask digests) hserver
          performs := Position.step_performs
            (websocketServerTask_performs digests) hserver
          app := h.app }
  | call call =>
      simp only [System.step] at hstep
      split at hstep
      · cases hstep
        refine ⟨h.server, h.performs, ?_⟩
        intro r hr
        cases hr
        exact call.scriptOps
      · cases hstep
  | app =>
      simp only [System.step] at hstep
      split at hstep
      · cases hstep
      · cases hstep
        refine ⟨h.server, h.performs, ?_⟩
        intro r hr
        cases hr
      · rename_i call o next happ
        have hops := h.app _ happ
        split at hstep
        · cases hstep
        · rename_i shared b hexec
          cases hstep
          rw [exec_scriptOp hops.1 hexec]
          refine ⟨h.server, h.performs, ?_⟩
          intro r hr
          cases hr
          exact hops.2 b
  | stop =>
      cases hstep
      exact h.interfered ⟨rfl, fun _ => rfl, rfl, rfl, rfl, rfl⟩
  | reply reply =>
      cases hstep
      exact h.interfered ⟨rfl, fun hrunning => hrunning, rfl, rfl, rfl, rfl⟩

theorem Orderly.within {s : System} (h : Orderly s) :
    exists o, Within s.server.label o s.shared := by
  rcases Option.isSome_iff_exists.mp h.performs with ⟨o, hnext⟩
  exact ⟨o, h.server.within_of_perform hnext⟩

end WebSocket
end Fluxnode
