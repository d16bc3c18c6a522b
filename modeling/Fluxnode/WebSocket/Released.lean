import Fluxnode.WebSocket.Established

/-!
# Connections and their release

The only function that closes and deletes a connection is `websocket_serve`.  A
connection whose handshake fails does not get there.
-/

namespace Fluxnode
namespace WebSocket

open C
open Foundation

def AtAccept (P : Shared -> Prop) : Action -> System -> Prop
  | .server, s => s.server.rest.next? = some .acceptEntry -> P s.shared
  | _, _ => True

/-- Every connection that was accepted is closed and deleted, once. -/
def Released (s : Shared) : Prop :=
  forall c, c < s.accepted -> s.closed.count c = 1 ∧ s.deleted.count c = 1

def Greeted (s : Shared) : Prop :=
  forall c, c < s.accepted -> c ∈ s.greeted

instance : DecidablePred Greeted :=
  fun s => inferInstanceAs
    (Decidable (forall c, c < s.accepted -> c ∈ s.greeted))

instance AtAccept.decidable (P : Shared -> Prop) [DecidablePred P] :
    forall action s, Decidable (AtAccept P action s)
  | .server, s => inferInstanceAs
      (Decidable (s.server.rest.next? = some .acceptEntry -> P s.shared))
  | .call _, _ => isTrue trivial
  | .app, _ => isTrue trivial
  | .stop, _ => isTrue trivial
  | .reply _, _ => isTrue trivial

theorem Resting.released_iff {s : Shared} (h : Resting s) :
    Released s ↔ Greeted s := by
  have hcount : forall c, s.greeted.count c = 1 ↔ c ∈ s.greeted := by
    intro c
    rw [h.nodup.count]
    split <;> simp [*]
  simp only [Released, Greeted, h.closed, h.deleted, and_self, hcount]

theorem Orderly.resting_of_accept {s : System} (h : Orderly s)
    (hnext : s.server.rest.next? = some .acceptEntry) : Resting s.shared := by
  have hwithin := h.server.within_of_perform hnext
  unfold Within at hwithin
  split at hwithin
  · exact absurd rfl hwithin.1
  · exact hwithin

theorem atAccept_released_iff (action : Action) (s : System) (h : Orderly s) :
    AtAccept Released action s ↔ AtAccept Greeted action s := by
  cases action with
  | server =>
      apply forall_congr'
      intro hnext
      exact (h.resting_of_accept hnext).released_iff
  | _ => exact Iff.rfl

/--
In every run of the server, whatever the script's task does, all connections
that were accepted are closed and deleted once at every call of
`netconn_accept`, exactly when all of their handshakes have succeeded.
-/
theorem accepted_released {digests : Digests} {s : System}
    (hstarted : Started digests s) (actions : List Action) :
    EveryStep (System.step digests) (AtAccept Released) actions s ↔
      EveryStep (System.step digests) (AtAccept Greeted) actions s :=
  EveryStep.congr_of_invariant (fun _ _ _ h hstep => h.step hstep)
    atAccept_released_iff hstarted.orderly

/-!
## A client without a key
-/

def greetAndClose : List Action :=
  List.replicate 17 .server ++
    .reply { startSystem.shared.reply with buf := [0x88, 0] } ::
      List.replicate 10 .server

theorem accepted_released_closed :
    EveryStep (System.step keyDigests) (AtAccept Released) greetAndClose
      startSystem :=
  (accepted_released started_startSystem greetAndClose).mpr (by decide)

def plainRequest : List UInt8 :=
  ascii "GET / HTTP/1.1\r\n\r\n" ++ [0]

def acceptPlainRequest : List Action :=
  .reply { startSystem.shared.reply with buf := plainRequest } ::
    List.replicate 12 .server

theorem accepted_leaked :
    ¬ forall actions, EveryStep (System.step keyDigests) (AtAccept Released)
      actions startSystem := by
  intro hall
  have hgreeted := (EveryStep.congr_of_invariant
    (fun _ _ _ h hstep => Orderly.step h hstep) atAccept_released_iff
    started_startSystem.orderly).mp (hall acceptPlainRequest)
  exact absurd hgreeted (by decide)

end WebSocket
end Fluxnode
