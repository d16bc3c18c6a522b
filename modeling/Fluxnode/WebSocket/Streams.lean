import Fluxnode.Foundation.Framing
import Fluxnode.WebSocket.Established
import Fluxnode.WebSocket.SendHeader

/-!
# What a client reads

Both tasks write to a connection: the server the response of the handshake, and
`websocket_send` a header and then the data.  While frames go to the connection
that is served, and a frame that was begun is finished there, every client gets
the response and whole frames behind it, one for each message.
-/

namespace Fluxnode
namespace WebSocket

open C
open Foundation

structure Wire where
  system : System
  /-- The calls of `netconn_write` that returned `ERR_OK`, in order. -/
  written : List (Writer × NetconnPtr × Block)
  /-- The data of a frame whose header is written. -/
  begun : Option (List UInt8)
  /-- The frames that were written, by their data. -/
  sent : List (NetconnPtr × List UInt8)
  /-- The data of the calls that returned `ERR_OK`. -/
  confirmed : List (List UInt8)

def nextOp : Action -> System -> Option Op
  | .server, s => s.server.rest.next?
  | .app, s => s.app.bind (fun r => r.rest.next?)
  | _, _ => none

def writes (a : Action) (s : System) : Option (Writer × NetconnPtr × Block) :=
  match a, nextOp a s with
  | .server, some (.write .server conn bytes) =>
      if s.shared.reply.err = errOk then some (.server, conn, bytes) else none
  | .app, some (.write .javascript conn bytes) =>
      if s.shared.reply.err = errOk then some (.javascript, conn, bytes)
      else none
  | _, _ => none

def System.sending (s : System) : Option (List UInt8) :=
  match s.app with
  | some ⟨.send data, _⟩ => some data
  | _ => none

/-- A write of the script's task is a header, or the data behind one. -/
def Wire.note (w : Wire) (system : System) :
    Option (Writer × NetconnPtr × Block) -> Wire
  | none => { w with system := system }
  | some (.server, conn, bytes) =>
      { w with
        system := system
        written := w.written ++ [(.server, conn, bytes)] }
  | some (.javascript, conn, bytes) =>
      match w.begun with
      | none =>
          { w with
            system := system
            written := w.written ++ [(.javascript, conn, bytes)]
            begun := w.system.sending }
      | some data =>
          { w with
            system := system
            written := w.written ++ [(.javascript, conn, bytes)]
            begun := none
            sent := w.sent ++ [(conn, data)] }

/-- The data of a call that is about to return `ERR_OK`. -/
def owed : Option Running -> List (List UInt8)
  | some ⟨.send data, .done res⟩ => if res = errOk then [data] else []
  | _ => []

def Wire.confirm (w : Wire) : Action -> Wire
  | .app => { w with confirmed := w.confirmed ++ owed w.system.app }
  | _ => w

def Wire.step (digests : Digests) (a : Action) (w : Wire) : Option Wire :=
  (w.system.step digests a).map (fun system =>
    (w.confirm a).note system (writes a w.system))

structure Wire.Started (digests : Digests) (w : Wire) : Prop where
  system : WebSocket.Started digests w.system
  written : w.written = []
  begun : w.begun = none
  sent : w.sent = []
  confirmed : w.confirmed = []

/-- The connection is not deleted between the two writes of a frame, and the
second one succeeds. -/
def finishes (a : Action) (s : System) : Bool :=
  match nextOp a s with
  | some (.delete _) => false
  | some (.write .javascript _ _) => s.shared.reply.err == errOk
  | _ => true

/-- Frames go to the connection that is served, each of them as a whole. -/
def Undisturbed (a : Action) (w : Wire) : Prop :=
  sendsWhileServing a w.system = true ∧
    (w.begun ≠ none -> finishes a w.system = true)

instance (a : Action) (w : Wire) : Decidable (Undisturbed a w) :=
  inferInstanceAs (Decidable (_ ∧ (_ -> _)))

def streamTo (c : Conn) (written : List (Writer × NetconnPtr × Block)) :
    Block :=
  (written.filter (fun e => e.2.1 == some c)).flatMap (fun e => e.2.2)

def responseTo (c : Conn) (written : List (Writer × NetconnPtr × Block)) :
    Block :=
  streamTo c (written.filter (fun e => e.1 == .server))

def messagesTo (c : Conn) (sent : List (NetconnPtr × List UInt8)) :
    List (List UInt8) :=
  (sent.filter (fun e => e.1 == some c)).map Prod.snd

def sendFrame (data : List UInt8) : Block :=
  frameHeader (UInt32.ofNat data.length) ++ data.map some

def begunTo (c : Conn) (w : Wire) : Block :=
  match w.begun with
  | some data =>
      if w.system.shared.conn = some c then
        frameHeader (UInt32.ofNat data.length)
      else []
  | none => []

/-!
## Where a call stands
-/

def sendTested (data : List UInt8) : Prog Int := do
  let conn ← access .getConn
  let res ← access (.write .javascript conn
    (frameHeader (UInt32.ofNat data.length)))
  if res ≠ errOk then
    return res
  else do
    let conn ← access .getConn
    access (.write .javascript conn (data.map some))

def sendHeaderTo (conn : NetconnPtr) (data : List UInt8) : Prog Int := do
  let res ← access (.write .javascript conn
    (frameHeader (UInt32.ofNat data.length)))
  if res ≠ errOk then
    return res
  else do
    let conn ← access .getConn
    access (.write .javascript conn (data.map some))

def sendPayload (data : List UInt8) : Prog Int := do
  let conn ← access .getConn
  access (.write .javascript conn (data.map some))

inductive CallAt : Option (List UInt8) -> Option Running -> Prop where
  | idle : CallAt none none
  | isConnected {rest : Prog Int} (hrest : rest.All (· = .getConn)) :
      CallAt none (some ⟨.isConnected, rest⟩)
  | tests (data : List UInt8) :
      CallAt none (some ⟨.send data, websocketSend data⟩)
  | tested (data : List UInt8) :
      CallAt none (some ⟨.send data, sendTested data⟩)
  | header (conn : NetconnPtr) (data : List UInt8) :
      CallAt none (some ⟨.send data, sendHeaderTo conn data⟩)
  | begun (data : List UInt8) :
      CallAt (some data) (some ⟨.send data, sendPayload data⟩)
  | payload (conn : NetconnPtr) (data : List UInt8) :
      CallAt (some data)
        (some ⟨.send data, access (.write .javascript conn (data.map some))⟩)
  | returns (data : List UInt8) (res : Int) :
      CallAt none (some ⟨.send data, .done res⟩)

/-!
## The invariant
-/

structure Wired (w : Wire) : Prop where
  orderly : Orderly w.system
  callAt : CallAt w.begun w.system.app
  /-- A frame is begun while a client is served. -/
  serves : w.begun ≠ none -> w.system.server.label.Serves = true
  /-- Whoever got something has got the response. -/
  greeted : forall e, e ∈ w.written -> forall c, e.2.1 = some c ->
    c ∈ w.system.shared.greeted
  streams : forall c, streamTo c w.written =
    responseTo c w.written ++ (messagesTo c w.sent).flatMap sendFrame ++
      begunTo c w
  /-- The script is told of exactly the frames that were written. -/
  told : w.sent.map Prod.snd = w.confirmed ++ owed w.system.app

variable {digests : Digests} {w w' : Wire}

theorem Wire.Started.wired (h : w.Started digests) : Wired w where
  orderly := h.system.orderly
  callAt := by
    rw [h.begun, h.system.app]
    exact .idle
  serves := fun hne => absurd h.begun hne
  greeted := by
    intro e he
    rw [h.written] at he
    cases he
  streams := by
    intro c
    rw [begunTo, h.begun, h.written, h.sent]
    rfl
  told := by
    rw [h.sent, h.confirmed, h.system.app]
    rfl

/-!
## Steps of the server
-/

def greets : Op -> Shared -> List Conn
  | .write .server conn _, s =>
      if s.reply.err = errOk then conn.toList else []
  | _, _ => []

theorem exec_greeted {o : Op} {s s' : Shared} {b : o.Answer}
    (h : exec o s = some (s', b)) :
    s'.greeted = s.greeted ++ greets o s := by
  cases o with
  | acceptEntry =>
      cases h
      split <;> exact (List.append_nil _).symm
  | accept =>
      simp only [exec] at h
      split at h <;> cases h <;> exact (List.append_nil _).symm
  | write writer conn bytes =>
      cases writer with
      | javascript =>
          cases h
          exact (List.append_nil _).symm
      | server =>
          simp only [exec] at h
          rw [greets]
          split at h
          · rename_i hok
            cases h
            rw [if_pos hok]
          · rename_i herr
            cases h
            rw [if_neg herr, List.append_nil]
  | deleteTask => cases h
  | fault => cases h
  | _ =>
      cases h
      exact (List.append_nil _).symm

theorem exec_deleted {o : Op} {s s' : Shared} {b : o.Answer}
    (h : exec o s = some (s', b)) (ho : forall conn, o ≠ .delete conn) :
    s'.deleted = s.deleted := by
  cases o with
  | acceptEntry =>
      cases h
      split <;> rfl
  | accept =>
      simp only [exec] at h
      split at h <;> cases h <;> rfl
  | write writer conn bytes =>
      cases writer with
      | javascript =>
          cases h
          rfl
      | server =>
          simp only [exec] at h
          split at h <;> cases h <;> rfl
  | delete conn => exact absurd rfl (ho conn)
  | deleteTask => cases h
  | fault => cases h
  | _ =>
      cases h
      rfl

theorem Orderly.server_step {s s' : System} (h : Orderly s)
    (hstep : s.step digests .server = some s') :
    s'.app = s.app ∧ exists o b, nextOp .server s = some o ∧
      exec o s.shared = some (s'.shared, b) := by
  rw [System.step, Option.map_eq_some_iff] at hstep
  rcases hstep with ⟨⟨server, shared⟩, hserver, rfl⟩
  rcases Option.isSome_iff_exists.mp h.performs with ⟨o, hnext⟩
  rcases Program.next?_eq_some hnext with ⟨next, hrest⟩
  rcases hpos : s.server with ⟨label, rest⟩
  rw [hpos] at hrest hserver hnext
  cases hrest
  simp only [Position.step] at hserver
  split at hserver
  · cases hserver
  · rename_i b hexec
    cases hserver
    refine ⟨rfl, o, b, ?_, hexec⟩
    rw [nextOp, hpos]
    rfl

theorem Orderly.nodup {s : System} (h : Orderly s) :
    s.shared.greeted.Nodup := by
  rcases h.within with ⟨o, hwithin⟩
  unfold Within at hwithin
  split at hwithin
  · exact hwithin.2.1
  · exact hwithin.nodup

theorem Orderly.served {s : System} (h : Orderly s)
    (hserves : s.server.label.Serves = true) :
    exists c, s.shared.conn = some c ∧
      s.shared.greeted = s.shared.deleted ++ [c] := by
  rcases h.within with ⟨o, hwithin⟩
  rw [Within, if_pos hserves] at hwithin
  exact hwithin.2.2

theorem Orderly.rests {s : System} (h : Orderly s)
    (hrests : s.server.label.Serves ≠ true) :
    s.shared.deleted = s.shared.greeted := by
  rcases h.within with ⟨o, hwithin⟩
  rw [Within, if_neg hrests] at hwithin
  exact hwithin.deleted

theorem finishes_delete {a : Action} {s : System}
    (h : finishes a s = true) (conn : NetconnPtr) :
    nextOp a s ≠ some (.delete conn) := by
  intro hop
  rw [finishes, hop] at h
  cases h

theorem finishes_write {a : Action} {s : System} {conn : NetconnPtr}
    {bytes : Block} (h : finishes a s = true)
    (hop : nextOp a s = some (.write .javascript conn bytes)) :
    s.shared.reply.err = errOk := by
  rw [finishes, hop] at h
  exact beq_iff_eq.mp h

/-- Until it deletes the connection, the server keeps serving it. -/
theorem Orderly.keeps_serving {s s' : System} (h : Orderly s)
    (hserves : s.server.label.Serves = true)
    (hstep : s.step digests .server = some s')
    (hkeeps : forall conn, nextOp .server s ≠ some (.delete conn)) :
    s'.server.label.Serves = true ∧ s'.shared.conn = s.shared.conn ∧
      s'.shared.greeted = s.shared.greeted := by
  rcases h.server_step hstep with ⟨-, o, b, hnext, hexec⟩
  have h' := h.step hstep
  have hgreeted := exec_greeted hexec
  have hdeleted := exec_deleted hexec (fun conn heq =>
    hkeeps conn (hnext.trans (congrArg some heq)))
  rcases h.served hserves with ⟨c, hconn, hlast⟩
  have hlength := congrArg List.length hlast
  rw [List.length_append, List.length_singleton] at hlength
  have hmore := congrArg List.length hgreeted
  rw [List.length_append] at hmore
  by_cases hserves' : s'.server.label.Serves = true
  · rcases h'.served hserves' with ⟨c', hconn', hlast'⟩
    have hlength' := congrArg List.length hlast'
    rw [List.length_append, List.length_singleton, hdeleted] at hlength'
    have hnone : greets o s.shared = [] :=
      List.length_eq_zero_iff.mp (by lia)
    rw [hnone, List.append_nil] at hgreeted
    rw [hgreeted, hdeleted, hlast] at hlast'
    have hsame : c = c' := by simpa using hlast'
    exact ⟨hserves', by rw [hconn', hconn, hsame], hgreeted⟩
  · have hrests := congrArg List.length (h'.rests hserves')
    rw [hdeleted] at hrests
    lia

/-!
## Streams with one write more
-/

section Append

variable (c : Conn) (written : List (Writer × NetconnPtr × Block))
  (conn : NetconnPtr) (bytes : Block)

theorem streamTo_append (writer : Writer) :
    streamTo c (written ++ [(writer, conn, bytes)]) =
      streamTo c written ++ if conn = some c then bytes else [] := by
  rw [streamTo, List.filter_append, List.flatMap_append]
  by_cases h : conn = some c <;> simp [streamTo, h]

theorem responseTo_server :
    responseTo c (written ++ [(.server, conn, bytes)]) =
      responseTo c written ++ if conn = some c then bytes else [] := by
  rw [responseTo, List.filter_append]
  exact streamTo_append c _ conn bytes .server

theorem responseTo_javascript :
    responseTo c (written ++ [(.javascript, conn, bytes)]) =
      responseTo c written := by
  rw [responseTo, List.filter_append]
  exact congrArg (streamTo c) (List.append_nil _)

theorem messagesTo_append (sent : List (NetconnPtr × List UInt8))
    (data : List UInt8) :
    messagesTo c (sent ++ [(conn, data)]) =
      messagesTo c sent ++ if conn = some c then [data] else [] := by
  rw [messagesTo, List.filter_append, List.map_append]
  by_cases h : conn = some c <;> simp [messagesTo, h]

end Append

theorem Wired.nothing (h : Wired w) {c : Conn}
    (hc : c ∉ w.system.shared.greeted) :
    streamTo c w.written = [] := by
  apply List.flatMap_eq_nil_iff.mpr
  intro e he
  rcases List.mem_filter.mp he with ⟨hmem, hto⟩
  exact absurd (h.greeted e hmem c (beq_iff_eq.mp hto)) hc

theorem Wired.silent (h : Wired w) {s' : System}
    {confirmed : List (List UInt8)} (horderly : Orderly s')
    (hcall : CallAt w.begun s'.app)
    (hserves : w.begun ≠ none -> s'.server.label.Serves = true ∧
      s'.shared.conn = w.system.shared.conn)
    (hgreeted : w.system.shared.greeted ⊆ s'.shared.greeted)
    (htold : w.sent.map Prod.snd = confirmed ++ owed s'.app) :
    Wired { w with system := s', confirmed := confirmed } where
  orderly := horderly
  callAt := hcall
  serves := fun hne => (hserves hne).1
  greeted := fun e he c hc => hgreeted (h.greeted e he c hc)
  streams := by
    intro c
    have hsame : begunTo c { w with system := s', confirmed := confirmed } =
        begunTo c w := by
      unfold begunTo
      cases hbegun : w.begun with
      | none => rfl
      | some data =>
          have hconn := (hserves (by rw [hbegun]; simp)).2
          dsimp only
          rw [hconn]
    rw [hsame]
    exact h.streams c
  told := htold

theorem writes_server {s : System} {e : Writer × NetconnPtr × Block}
    (h : writes .server s = some e) :
    exists conn bytes, e = (.server, conn, bytes) ∧
      nextOp .server s = some (.write .server conn bytes) ∧
      s.shared.reply.err = errOk := by
  unfold writes at h
  split at h
  · rename_i conn bytes _ hnext
    split at h
    · rename_i hok
      cases h
      exact ⟨conn, bytes, rfl, hnext, hok⟩
    · cases h
  · rename_i ha _
    cases ha
  · cases h

theorem writes_app {s : System} {e : Writer × NetconnPtr × Block}
    (h : writes .app s = some e) :
    exists conn bytes, e = (.javascript, conn, bytes) ∧
      nextOp .app s = some (.write .javascript conn bytes) ∧
      s.shared.reply.err = errOk := by
  unfold writes at h
  split at h
  · rename_i ha _
    cases ha
  · rename_i conn bytes _ hnext
    split at h
    · rename_i hok
      cases h
      exact ⟨conn, bytes, rfl, hnext, hok⟩
    · cases h
  · cases h

theorem Wired.server (h : Wired w) (hcond : Undisturbed .server w)
    {s' : System} (hstep : w.system.step digests .server = some s') :
    Wired (w.note s' (writes .server w.system)) := by
  rcases h.orderly.server_step hstep with ⟨happ, o, b, hnext, hexec⟩
  have horderly := h.orderly.step hstep
  have hgreeted := exec_greeted hexec
  have hserves : w.begun ≠ none -> s'.server.label.Serves = true ∧
      s'.shared.conn = w.system.shared.conn ∧
      s'.shared.greeted = w.system.shared.greeted :=
    fun hne => h.orderly.keeps_serving (h.serves hne) hstep
      (finishes_delete (hcond.2 hne))
  have hcall : CallAt w.begun s'.app := by
    rw [happ]
    exact h.callAt
  have hsilent : Wired { w with system := s' } := by
    apply h.silent horderly hcall
    · exact fun hne => ⟨(hserves hne).1, (hserves hne).2.1⟩
    · rw [hgreeted]
      exact List.subset_append_left _ _
    · rw [happ]
      exact h.told
  cases hwrites : writes .server w.system with
  | none => exact hsilent
  | some e =>
      rcases writes_server hwrites with ⟨conn, bytes, rfl, hop, hok⟩
      rw [hnext] at hop
      cases hop
      rw [greets, if_pos hok] at hgreeted
      refine ⟨horderly, hcall, hsilent.serves, ?_, ?_, hsilent.told⟩
      · intro e he c hc
        change c ∈ s'.shared.greeted
        rcases List.mem_append.mp he with he | he
        · exact hsilent.greeted e he c hc
        · rw [List.mem_singleton.mp he] at hc
          change conn = some c at hc
          rw [hgreeted, hc]
          exact List.mem_append_right _ (List.mem_singleton_self c)
      · intro c
        have hold := hsilent.streams c
        show streamTo c (w.written ++ [(.server, conn, bytes)]) =
          responseTo c (w.written ++ [(.server, conn, bytes)]) ++
            (messagesTo c w.sent).flatMap sendFrame ++
            begunTo c { w with system := s' }
        rw [streamTo_append, responseTo_server]
        by_cases hc : conn = some c
        · have hfresh : c ∉ w.system.shared.greeted := by
            have hnodup := horderly.nodup
            rw [hgreeted, hc] at hnodup
            intro hmem
            exact (List.nodup_append.mp hnodup).2.2 c hmem c
              (List.mem_singleton_self c) rfl
          have hnothing := h.nothing hfresh
          change streamTo c w.written = responseTo c w.written ++ _ ++ _
            at hold
          rw [hnothing] at hold ⊢
          rcases List.append_eq_nil_iff.mp hold.symm with ⟨hfront, hbegun⟩
          rcases List.append_eq_nil_iff.mp hfront with ⟨hresponse, hmessages⟩
          rw [hbegun, hmessages, hresponse, List.append_nil, List.append_nil]
        · rw [if_neg hc, List.append_nil, List.append_nil]
          exact hold

/-!
## Steps of the script
-/

theorem Wired.quiet (h : Wired w) {app : Option Running}
    (horderly : Orderly { w.system with app := app })
    (hcall : CallAt w.begun app) (howed : owed app = []) :
    Wired
      { w with
        system := { w.system with app := app }
        confirmed := w.confirmed ++ owed w.system.app } := by
  apply h.silent horderly hcall (fun hne => ⟨h.serves hne, rfl⟩)
    (List.Subset.refl _)
  rw [howed, List.append_nil]
  exact h.told

theorem Wired.headerWritten (h : Wired w) {conn : NetconnPtr}
    {data : List UInt8} {app : Option Running}
    (horderly : Orderly { w.system with app := app })
    (hcall : CallAt (some data) app) (hbegun : w.begun = none)
    (hserves : w.system.server.label.Serves = true)
    (hconn : conn = w.system.shared.conn) (howed : owed app = []) :
    Wired
      { w with
        system := { w.system with app := app }
        written := w.written ++ [(.javascript, conn,
          frameHeader (UInt32.ofNat data.length))]
        begun := some data
        confirmed := w.confirmed ++ owed w.system.app } where
  orderly := horderly
  callAt := hcall
  serves := fun _ => hserves
  greeted := by
    intro e he c hc
    rcases List.mem_append.mp he with he | he
    · exact h.greeted e he c hc
    · rw [List.mem_singleton.mp he] at hc
      change conn = some c at hc
      rcases h.orderly.served hserves with ⟨d, hd, hlast⟩
      rw [hconn, hd] at hc
      cases hc
      show c ∈ w.system.shared.greeted
      rw [hlast]
      exact List.mem_append_right _ (List.mem_singleton_self c)
  streams := by
    intro c
    have hold := h.streams c
    rw [begunTo, hbegun] at hold
    dsimp only at hold ⊢
    rw [streamTo_append, responseTo_javascript, hold, begunTo, hconn,
      List.append_nil]
  told := by
    dsimp only
    rw [howed, List.append_nil]
    exact h.told

theorem Wired.payloadWritten (h : Wired w) {conn : NetconnPtr}
    {data : List UInt8} {app : Option Running}
    (horderly : Orderly { w.system with app := app })
    (hcall : CallAt none app) (hbegun : w.begun = some data)
    (hconn : conn = w.system.shared.conn) (howed : owed app = [data]) :
    Wired
      { w with
        system := { w.system with app := app }
        written := w.written ++ [(.javascript, conn, data.map some)]
        begun := none
        sent := w.sent ++ [(conn, data)]
        confirmed := w.confirmed ++ owed w.system.app } where
  orderly := horderly
  callAt := hcall
  serves := fun hne => absurd rfl hne
  greeted := by
    intro e he c hc
    rcases List.mem_append.mp he with he | he
    · exact h.greeted e he c hc
    · rw [List.mem_singleton.mp he] at hc
      change conn = some c at hc
      rcases h.orderly.served (h.serves (by rw [hbegun]; simp)) with
        ⟨d, hd, hlast⟩
      rw [hconn, hd] at hc
      cases hc
      show c ∈ w.system.shared.greeted
      rw [hlast]
      exact List.mem_append_right _ (List.mem_singleton_self c)
  streams := by
    intro c
    have hold := h.streams c
    rw [begunTo, hbegun] at hold
    dsimp only at hold ⊢
    rw [streamTo_append, responseTo_javascript, messagesTo_append, hold,
      begunTo, ← hconn]
    by_cases hc : conn = some c
    · simp [hc, sendFrame]
    · simp [hc]
  told := by
    dsimp only
    rw [howed, List.map_append, ← h.told]
    rfl

theorem step_app_done {s s' : System} {call : Call} {res : Int}
    (happ : s.app = some ⟨call, .done res⟩)
    (hstep : s.step digests .app = some s') :
    s' = { s with app := none } := by
  simp only [System.step, happ] at hstep
  cases hstep
  rfl

theorem step_app_perform {s s' : System} {call : Call} {o : Op}
    {next : o.Answer -> Prog Int} (ho : ScriptOp o)
    (happ : s.app = some ⟨call, .perform o next⟩)
    (hstep : s.step digests .app = some s') :
    exists b, exec o s.shared = some (s.shared, b) ∧
      s' = { s with app := some ⟨call, next b⟩ } := by
  simp only [System.step, happ] at hstep
  cases hexec : exec o s.shared with
  | none =>
      rw [hexec] at hstep
      cases hstep
  | some r =>
      rcases r with ⟨shared, b⟩
      have hsame := exec_scriptOp ho hexec
      rw [hexec] at hstep
      cases hstep
      exact ⟨b, by rw [hsame], by rw [hsame]⟩

theorem nextOp_app {s : System} {r : Running} (happ : s.app = some r) :
    nextOp .app s = r.rest.next? := by
  rw [nextOp, happ]
  rfl

theorem writes_app_none {s : System} {r : Running} (happ : s.app = some r)
    (hnot : forall conn bytes,
      r.rest.next? ≠ some (.write .javascript conn bytes)) :
    writes .app s = none := by
  cases hwrites : writes .app s with
  | none => rfl
  | some e =>
      rcases writes_app hwrites with ⟨conn, bytes, _, hop, _⟩
      rw [nextOp_app happ] at hop
      exact absurd hop (hnot conn bytes)

theorem writes_app_write {s : System} {call : Call} {conn : NetconnPtr}
    {bytes : Block} {next : Int -> Prog Int}
    (happ : s.app =
      some ⟨call, .perform (.write .javascript conn bytes) next⟩) :
    writes .app s =
      if s.shared.reply.err = errOk then some (.javascript, conn, bytes)
      else none := by
  have hop : nextOp .app s = some (.write .javascript conn bytes) :=
    nextOp_app happ
  simp only [writes, hop]

theorem serves_of_whileServing {s : System} {data : List UInt8}
    {conn : NetconnPtr} {bytes : Block} {next : Int -> Prog Int}
    (happ : s.app =
      some ⟨.send data, .perform (.write .javascript conn bytes) next⟩)
    (h : sendsWhileServing .app s = true) :
    s.server.label.Serves = true ∧ conn = s.shared.conn := by
  rw [sendsWhileServing, happ] at h
  rcases Bool.and_eq_true_iff.mp h with ⟨hserves, hconn⟩
  exact ⟨hserves, beq_iff_eq.mp hconn⟩

theorem Wired.app (h : Wired w) (hcond : Undisturbed .app w) {s' : System}
    (hstep : w.system.step digests .app = some s') :
    Wired ((w.confirm .app).note s' (writes .app w.system)) := by
  have horderly := h.orderly.step hstep
  have hcall := h.callAt
  generalize hbegun : w.begun = begun at hcall
  generalize happ : w.system.app = app at hcall
  cases hcall with
  | idle =>
      rw [System.step, happ] at hstep
      cases hstep
  | @isConnected rest hrest =>
      cases rest with
      | done res =>
          rw [step_app_done happ hstep] at horderly ⊢
          rw [writes_app_none happ (fun _ _ hop => by cases hop)]
          apply h.quiet horderly _ rfl
          rw [hbegun]
          exact .idle
      | perform o next =>
          cases hrest.1
          rcases step_app_perform (by trivial) happ hstep with
            ⟨b, -, rfl⟩
          rw [writes_app_none happ (fun _ _ hop => by cases hop)]
          apply h.quiet horderly _ rfl
          rw [hbegun]
          exact .isConnected (hrest.2 b)
  | tests data =>
      rcases step_app_perform (o := .getConn) (by trivial) happ hstep with
        ⟨conn, -, rfl⟩
      have hrest : CallAt none (some ⟨.send data,
          if conn = none then .done errConn else sendTested data⟩) ∧
          owed (some ⟨.send data,
            if conn = none then .done errConn else sendTested data⟩) = [] := by
        split
        · exact ⟨.returns data errConn, rfl⟩
        · exact ⟨.tested data, rfl⟩
      rw [writes_app_none happ (fun _ _ hop => by cases hop)]
      apply h.quiet horderly _ hrest.2
      rw [hbegun]
      exact hrest.1
  | tested data =>
      rcases step_app_perform (o := .getConn) (by trivial) happ hstep with
        ⟨conn, -, rfl⟩
      rw [writes_app_none happ (fun _ _ hop => by cases hop)]
      apply h.quiet horderly _ rfl
      rw [hbegun]
      exact .header conn data
  | header conn data =>
      rcases serves_of_whileServing happ hcond.1 with ⟨hserves, hconn⟩
      rcases step_app_perform (by trivial) happ hstep with ⟨res, hexec, rfl⟩
      rw [writes_app_write happ]
      cases hexec
      let err := w.system.shared.reply.err
      let rest := if err ≠ errOk then .done err else sendPayload data
      by_cases hok : err = errOk
      · have hrest : rest = sendPayload data := if_neg (not_not.mpr hok)
        have hsending : w.system.sending = some data := by
          rw [System.sending, happ]
        rw [if_pos hok]
        simp only [Wire.note, Wire.confirm, hbegun, hsending]
        apply h.headerWritten horderly _ hbegun hserves hconn
        · show owed (some ⟨.send data, rest⟩) = []
          rw [hrest]
          rfl
        · show CallAt (some data) (some ⟨.send data, rest⟩)
          rw [hrest]
          exact .begun data
      · have hrest : rest = .done err := if_pos hok
        rw [if_neg hok]
        apply h.quiet horderly
        · rw [hbegun]
          show CallAt none (some ⟨.send data, rest⟩)
          rw [hrest]
          exact .returns data err
        · show owed (some ⟨.send data, rest⟩) = []
          rw [hrest]
          exact if_neg hok
  | begun data =>
      rcases step_app_perform (o := .getConn) (by trivial) happ hstep with
        ⟨conn, -, rfl⟩
      rw [writes_app_none happ (fun _ _ hop => by cases hop)]
      apply h.quiet horderly _ rfl
      rw [hbegun]
      exact .payload conn data
  | payload conn data =>
      rcases serves_of_whileServing happ hcond.1 with ⟨hserves, hconn⟩
      rcases step_app_perform (by trivial) happ hstep with ⟨res, hexec, rfl⟩
      have hok := finishes_write (hcond.2 (by rw [hbegun]; simp))
        (nextOp_app happ)
      rw [writes_app_write happ, if_pos hok]
      cases hexec
      simp only [Wire.note, Wire.confirm, hbegun]
      exact h.payloadWritten horderly (.returns data _) hbegun hconn
        (if_pos hok)
  | returns data res =>
      rw [step_app_done happ hstep] at horderly ⊢
      rw [writes_app_none happ (fun _ _ hop => by cases hop)]
      apply h.quiet horderly _ rfl
      rw [hbegun]
      exact .idle

/-!
## Runs
-/

theorem Wired.step {a : Action} (h : Wired w) (hcond : Undisturbed a w)
    (hstep : w.step digests a = some w') : Wired w' := by
  rw [Wire.step, Option.map_eq_some_iff] at hstep
  rcases hstep with ⟨s', hstep, rfl⟩
  cases a with
  | server => exact h.server hcond hstep
  | app => exact h.app hcond hstep
  | call call =>
      have horderly := h.orderly.step hstep
      have hcall := h.callAt
      have htold := h.told
      simp only [System.step] at hstep
      split at hstep
      · rename_i happ
        cases hstep
        rw [happ] at hcall htold
        have hstart : CallAt w.begun (some ⟨call, call.program⟩) ∧
            owed (some ⟨call, call.program⟩) = [] := by
          generalize w.begun = begun at hcall
          cases hcall
          cases call with
          | isConnected =>
              exact ⟨.isConnected ⟨rfl, fun _ => trivial⟩, rfl⟩
          | send data => exact ⟨.tests data, rfl⟩
        apply h.silent horderly hstart.1 (fun hne => ⟨h.serves hne, rfl⟩)
          (List.Subset.refl _)
        rw [htold, hstart.2]
        rfl
      · cases hstep
  | stop =>
      have horderly := h.orderly.step hstep
      cases hstep
      exact h.silent horderly h.callAt (fun hne => ⟨h.serves hne, rfl⟩)
        (List.Subset.refl _) h.told
  | reply reply =>
      have horderly := h.orderly.step hstep
      cases hstep
      exact h.silent horderly h.callAt (fun hne => ⟨h.serves hne, rfl⟩)
        (List.Subset.refl _) h.told

/-!
## Reading the frames
-/

/-- An unmasked frame in front, and what is behind it. -/
def decodeFrame (bytes : List UInt8) :
    Option ((FrameHeader × List UInt8) × List UInt8) :=
  match decodeHeader bytes with
  | none => none
  | some (header, rest) =>
      if header.masked = false ∧ header.payloadLength ≤ rest.length then
        some ((header, rest.take header.payloadLength),
          rest.drop header.payloadLength)
      else none

def frameBytes (data : List UInt8) : List UInt8 :=
  headerBytes false data.length ++ data

theorem sendFrame_eq {data : List UInt8} (h : data.length ≤ 65535) :
    sendFrame data = (frameBytes data).map some := by
  have hlength : (UInt32.ofNat data.length).toNat = data.length :=
    UInt32.toNat_ofNat_of_lt' (show data.length < 2 ^ 32 by lia)
  rw [sendFrame, frameHeader_of_short (by rw [hlength]; exact h), hlength,
    frameBytes, List.map_append]

theorem decodeFrame_frameBytes {data : List UInt8}
    (h : data.length ≤ 65535) (rest : List UInt8) :
    decodeFrame (frameBytes data ++ rest) =
      some ((textHeader false data.length, data), rest) := by
  have hheader := decodeHeader_headerBytes false (Nat.lt_succ_of_le h)
    (data ++ rest)
  have hfits : (textHeader false data.length).payloadLength ≤
      (data ++ rest).length := by
    show data.length ≤ _
    rw [List.length_append]
    exact Nat.le_add_right _ _
  rw [decodeFrame, frameBytes, List.append_assoc, hheader]
  dsimp only
  rw [if_pos ⟨rfl, hfits⟩]
  show some ((_, (data ++ rest).take data.length),
    (data ++ rest).drop data.length) = _
  rw [List.take_left, List.drop_left]

theorem frameBytes_ne_nil (data : List UInt8) : frameBytes data ≠ [] := by
  intro hnil
  have hlength := congrArg List.length (List.append_eq_nil_iff.mp hnil).1
  rw [headerBytes_length, List.length_nil] at hlength
  have htwo := two_le_headerLength data.length
  have hheader := header_length data.length
  rw [header_eq, headerBytes_length] at hheader
  lia

theorem flatMap_sendFrame {ms : List (List UInt8)}
    (h : forall m, m ∈ ms -> m.length ≤ 65535) :
    ms.flatMap sendFrame = (ms.flatMap frameBytes).map some := by
  induction ms with
  | nil => rfl
  | cons m rest ih =>
      rw [List.flatMap_cons, List.flatMap_cons, List.map_append,
        sendFrame_eq (h m List.mem_cons_self),
        ih (fun m' hm' => h m' (List.mem_cons_of_mem m hm'))]

theorem decodeStream_frames {ms : List (List UInt8)}
    (h : forall m, m ∈ ms -> m.length ≤ 65535) :
    decodeStream decodeFrame (ms.flatMap frameBytes) =
      (ms.map (fun m => (textHeader false m.length, m)), []) := by
  have hnone : decodeFrame [] = none := rfl
  have hstream := decodeStream_flatMap
    (fun m hm rest => decodeFrame_frameBytes (h m hm) rest)
    (fun m _ => frameBytes_ne_nil m) hnone
  rw [List.append_nil] at hstream
  exact hstream

/-- In every run of both tasks in which frames go to the connection that is
served, each as a whole: what was written to a connection is the response of the
handshake, then frames, and the header of one that is begun.  A client reads
from it the messages, and the script is told of exactly these. -/
theorem clients_read_messages {start : Wire} {actions : List Action}
    (hstart : start.Started digests)
    (hcond : EveryStep (Wire.step digests) Undisturbed actions start)
    (hrun : runAll (Wire.step digests) actions start = some w) :
    (forall c, streamTo c w.written =
      responseTo c w.written ++ (messagesTo c w.sent).flatMap sendFrame ++
        begunTo c w) ∧
    (forall c, w.begun = none ->
      (forall m, m ∈ messagesTo c w.sent -> m.length ≤ 65535) ->
      exists bytes,
        streamTo c w.written = responseTo c w.written ++ bytes.map some ∧
        decodeStream decodeFrame bytes =
          ((messagesTo c w.sent).map (fun m => (textHeader false m.length, m)),
            [])) ∧
    w.sent.map Prod.snd = w.confirmed ++ owed w.system.app := by
  have hwired : Wired w :=
    hcond.invariant (fun _ _ _ h hc hs => h.step hc hs) hstart.wired hrun
  refine ⟨hwired.streams, ?_, hwired.told⟩
  intro c hbegun hshort
  refine ⟨(messagesTo c w.sent).flatMap frameBytes, ?_,
    decodeStream_frames hshort⟩
  rw [hwired.streams c, begunTo, hbegun, List.append_nil,
    flatMap_sendFrame hshort]

def startWire : Wire where
  system := startSystem
  written := []
  begun := none
  sent := []
  confirmed := []

theorem clients_read_messages_served :
    exists w, runAll (Wire.step keyDigests) sendToServed startWire = some w ∧
      w.confirmed = [ascii "hi"] ∧
      exists bytes,
        streamTo 0 w.written = responseTo 0 w.written ++ bytes.map some ∧
        decodeStream decodeFrame bytes =
          ([(textHeader false 2, ascii "hi")], []) := by
  have hcond : EveryStep (Wire.step keyDigests) Undisturbed sendToServed
      startWire := by decide
  have hstart : startWire.Started keyDigests :=
    ⟨started_startSystem, rfl, rfl, rfl, rfl⟩
  cases hrun : runAll (Wire.step keyDigests) sendToServed startWire with
  | none =>
      have hends : (runAll (Wire.step keyDigests) sendToServed
        startWire).isSome = true := by decide
      rw [hrun] at hends
      cases hends
  | some w =>
      have hsent : (runAll (Wire.step keyDigests) sendToServed startWire).map
          (fun w => (w.sent, w.begun, w.confirmed)) =
          some ([(some 0, ascii "hi")], none, [ascii "hi"]) := by decide
      rw [hrun] at hsent
      simp only [Option.map_some, Option.some.injEq, Prod.mk.injEq] at hsent
      rcases hsent with ⟨hsent, hbegun, hconfirmed⟩
      have hmessages : messagesTo 0 w.sent = [ascii "hi"] := by
        rw [hsent]
        rfl
      rcases (clients_read_messages hstart hcond hrun).2.1 0 hbegun
        (by rw [hmessages]; decide) with ⟨bytes, hbytes, hread⟩
      rw [hmessages] at hread
      exact ⟨w, rfl, hconfirmed, bytes, hbytes, hread⟩

end WebSocket
end Fluxnode
