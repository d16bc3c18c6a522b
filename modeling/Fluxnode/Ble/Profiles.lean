import Fluxnode.Ble.Server

/-!
# Two profiles beside each other

The events for the interface of the flux profile tell the script what it is
told, and the reads of the battery level are answered, as if the other profile
was not there.
-/

namespace Fluxnode
namespace Ble

open C
open Foundation
open DukMain (Direction EventArgs MsgType eventArgs uiMsg)
open Record

/-!
## What the script is told
-/

def uiConnected : MsgType := 2

def uiDisconnected : MsgType := 3

/-- The bytes of a block that was written as a whole. -/
def writtenBytes (buf : Option Block) : Option (List UInt8) :=
  buf.bind (fun block => block.mapM id)

/-- The arguments of `duk_main_add_event` in `ble_receive` and in
`ui_conninfo`. -/
def StackCall.told? : StackCall -> Option EventArgs
  | .flux (.receiveCb received) =>
      some (eventArgs uiMsg .incoming (writtenBytes received.buf) received.len)
  | .flux (.conninfoNotify status) =>
      some (eventArgs (if status = 1 then uiConnected else uiDisconnected)
        .incoming none 0)
  | _ => none

def StackCall.answered? : StackCall -> Option Response
  | .sendResponse response => some response
  | _ => none

def messageArgs (payload : List UInt8) : EventArgs :=
  eventArgs uiMsg .incoming (some payload) (UInt32.ofNat payload.length)

theorem mapM_some (payload : List UInt8) :
    (payload.map some).mapM id = some payload := by
  induction payload with
  | nil => rfl
  | cons b rest ih => simp [List.mapM_cons, ih]

theorem told_message (payload : List UInt8) :
    (StackCall.flux (.receiveCb (delivered payload))).told? =
      some (messageArgs payload) := by
  show some (eventArgs uiMsg .incoming ((payload.map some).mapM id) _) = _
  rw [mapM_some]
  rfl

/-- What the flux profile knows of its clients. -/
structure Session where
  table : List UInt16
  incomplete : Option Incomplete

def tableAfter (maxNbAttr : Nat) (ok : Bool) (handles table : List UInt16) :
    List UInt16 :=
  if ok ∧ handles.length = maxNbAttr then handles else table

/-- What an event tells the script; none for a write that leaves the memory of
the receiver. -/
def Session.step (s : Session) (i : Incoming) :
    Option (Session × List EventArgs) :=
  match i.event with
  | .connect _ _ => some (s, [eventArgs uiConnected .incoming none 0])
  | .disconnect => some (s, [eventArgs uiDisconnected .incoming none 0])
  | .creatAttrTab ok handles =>
      some ({ s with table := tableAfter fluxIdxNb ok handles s.table }, [])
  | .write handle isPrep value =>
      if isDataWrite s.table handle isPrep then
        (receive s.incomplete value.bytes).map (fun r =>
          ({ s with incomplete := r.1 }, (r.2.map messageArgs).toList))
      else some (s, [])
  | _ => some (s, [])

structure Represents (recordSize : SizeT) (s : Session) (p : FluxProfile) :
    Prop where
  table : p.handleTable = s.table
  record : p.recvRecord = holding recordSize s.incomplete

def fluxStep (p : FluxProfile) (i : Incoming) :
    Option (FluxProfile × List StackCall) :=
  fluxGattsProfileEventHandler i.gattsIf p i.event

def battStep (p : BattProfile) (i : Incoming) :
    Option (BattProfile × List StackCall) :=
  some (battGattsProfileEventHandler i.gattsIf i.percent p i.event)

section Flux

variable {recordSize : SizeT} {s : Session} {p : FluxProfile}

theorem newTable_eq (ok : Bool) (handles table : List UInt16)
    (maxNbAttr : Nat) :
    (newTable ok handles maxNbAttr table).1 =
        tableAfter maxNbAttr ok handles table ∧
      (newTable ok handles maxNbAttr table).2.filterMap StackCall.told? = [] ∧
      (newTable ok handles maxNbAttr table).2.filterMap
        StackCall.answered? = [] := by
  unfold newTable tableAfter
  split
  · refine ⟨rfl, ?_, ?_⟩ <;> cases handles <;> rfl
  · exact ⟨rfl, rfl, rfl⟩

theorem told_received (out : Option (List UInt8)) :
    (((out.map (fun payload => Output.receiveCb (delivered payload))).toList).map
      StackCall.flux).filterMap StackCall.told? =
        (out.map messageArgs).toList := by
  cases out with
  | none => rfl
  | some payload =>
      show [StackCall.flux (.receiveCb (delivered payload))].filterMap _ = _
      rw [List.filterMap_cons_some (told_message payload)]
      rfl

theorem fluxStep_write (h : Represents recordSize s p) (gattsIf : UInt8)
    (percent : Option Int) (handle : UInt16) (isPrep : Bool)
    (value : DataValue) :
    fluxStep p ⟨gattsIf, .write handle isPrep value, percent⟩ =
      if isDataWrite s.table handle isPrep then
        (receive s.incomplete value.bytes).map (fun r =>
          ({ p with recvRecord := holding recordSize r.1 },
            ((r.2.map (fun payload =>
              Output.receiveCb (delivered payload))).toList).map
                StackCall.flux))
      else some (p, []) := by
  show (eventHandler p (.write handle isPrep value)).map _ = _
  by_cases hdata : isDataWrite s.table handle isPrep = true
  · have hvalue : (GattsEvent.write handle isPrep value).dataValue?
        p.handleTable = some value := by
      rw [GattsEvent.dataValue?, h.table, if_pos hdata]
    rw [eventHandler_data hvalue h.record, if_pos hdata, Option.map_map]
    rfl
  · rw [eventHandler, h.table, if_neg hdata, if_neg hdata]
    rfl

/-- The flux profile tells what the session says. -/
theorem fluxStep_session (h : Represents recordSize s p) (i : Incoming) :
    match s.step i with
    | none => fluxStep p i = none
    | some (s', args) =>
        exists p' calls, fluxStep p i = some (p', calls) ∧
          Represents recordSize s' p' ∧
          calls.filterMap StackCall.told? = args := by
  rcases i with ⟨gattsIf, event, percent⟩
  cases event with
  | reg ok appId => exact ⟨p, _, rfl, h, rfl⟩
  | creatAttrTab ok handles =>
      have htable := newTable_eq ok handles p.handleTable fluxIdxNb
      refine ⟨_, _, rfl, ⟨?_, h.record⟩, htable.2.1⟩
      show (newTable ok handles fluxIdxNb p.handleTable).1 = _
      rw [htable.1, h.table]
  | read handle connId transId => exact ⟨p, [], rfl, h, rfl⟩
  | mtu size => exact ⟨_, _, rfl, ⟨h.table, h.record⟩, rfl⟩
  | connect connId remoteBda =>
      exact ⟨_, _, rfl, ⟨h.table, h.record⟩, rfl⟩
  | disconnect => exact ⟨_, _, rfl, ⟨h.table, h.record⟩, rfl⟩
  | other => exact ⟨p, [], rfl, h, rfl⟩
  | write handle isPrep value =>
      rw [fluxStep_write h]
      unfold Session.step
      dsimp only
      by_cases hdata : isDataWrite s.table handle isPrep = true
      · rw [if_pos hdata, if_pos hdata]
        cases hreceive : receive s.incomplete value.bytes with
        | none => rfl
        | some r =>
            exact ⟨_, _, rfl, ⟨h.table, rfl⟩, told_received r.2⟩
      · rw [if_neg hdata, if_neg hdata]
        exact ⟨p, [], rfl, h, rfl⟩

theorem feedAll_fluxStep (h : Represents recordSize s p)
    (events : List Incoming) :
    match feedAll Session.step s events with
    | none => feedAll fluxStep p events = none
    | some (s', args) =>
        exists p' calls, feedAll fluxStep p events = some (p', calls) ∧
          Represents recordSize s' p' ∧
          calls.flatten.filterMap StackCall.told? = args.flatten := by
  induction events generalizing s p with
  | nil => exact ⟨p, [], rfl, h, rfl⟩
  | cons i rest ih =>
      have hfirst := fluxStep_session h i
      rw [feedAll]
      cases hstep : s.step i with
      | none =>
          rw [hstep] at hfirst
          dsimp only at hfirst ⊢
          simp only [feedAll, hfirst]
      | some mid =>
          rcases mid with ⟨mid, args⟩
          rw [hstep] at hfirst
          rcases hfirst with ⟨p', calls, hp', hmid, htold⟩
          have hrest := ih hmid
          dsimp only
          cases hfeed : feedAll Session.step mid rest with
          | none =>
              rw [hfeed] at hrest
              dsimp only at hrest ⊢
              simp only [feedAll, hp', hrest]
          | some last =>
              rcases last with ⟨last, more⟩
              rw [hfeed] at hrest
              rcases hrest with ⟨q, moreCalls, hq, hlast, hmore⟩
              refine ⟨q, calls :: moreCalls, feedAll_cons_of_some hp' hq, hlast,
                ?_⟩
              rw [List.flatten_cons, List.flatten_cons, List.filterMap_append,
                htold, hmore]

end Flux

/-!
## What is answered
-/

def answers : List UInt16 -> List Incoming -> List Response
  | _, [] => []
  | table, ⟨gattsIf, .read handle connId transId, percent⟩ :: rest =>
      if battFindCharAndDesrIndex table handle = some battIdxVal then
        { gattsIf := gattsIf
          connId := connId
          transId := transId
          handle := handle
          value := batteryLevel percent } :: answers table rest
      else answers table rest
  | table, ⟨_, .creatAttrTab ok handles, _⟩ :: rest =>
      answers (tableAfter battIdxNb ok handles table) rest
  | table, _ :: rest => answers table rest

theorem feedAll_battStep (p : BattProfile) (events : List Incoming) :
    exists p' calls, feedAll battStep p events = some (p', calls) ∧
      calls.flatten.filterMap StackCall.answered? =
        answers p.handleTable events := by
  induction events generalizing p with
  | nil => exact ⟨p, [], rfl, rfl⟩
  | cons i rest ih =>
      rcases i with ⟨gattsIf, event, percent⟩
      rcases ih (battGattsProfileEventHandler gattsIf percent p event).1 with
        ⟨p', calls, hrun, hrest⟩
      refine ⟨p', (battGattsProfileEventHandler gattsIf percent p event).2 ::
        calls, feedAll_cons_of_some rfl hrun, ?_⟩
      rw [List.flatten_cons, List.filterMap_append, hrest]
      cases event with
      | read handle connId transId =>
          by_cases hidx : battFindCharAndDesrIndex p.handleTable handle =
              some battIdxVal
          · rw [battGattsProfileEventHandler, if_pos hidx, answers, if_pos hidx]
            rfl
          · rw [battGattsProfileEventHandler, if_neg hidx, answers, if_neg hidx]
            rfl
      | creatAttrTab ok handles =>
          have htable := newTable_eq ok handles p.handleTable battIdxNb
          rw [battGattsProfileEventHandler]
          dsimp only
          rw [htable.2.2, htable.1]
          rfl
      | _ => rfl

theorem battStep_hidden : Hidden battStep StackCall.told? := by
  intro p i p' out hstep
  rcases i with ⟨gattsIf, event, percent⟩
  have hout : (battGattsProfileEventHandler gattsIf percent p event).2 = out :=
    congrArg Prod.snd (Option.some.inj hstep)
  rw [← hout]
  cases event with
  | read handle connId transId =>
      rw [battGattsProfileEventHandler]
      split <;> rfl
  | creatAttrTab ok handles =>
      exact (newTable_eq ok handles p.handleTable battIdxNb).2.1
  | _ => rfl

theorem filterMap_flux (outs : List Output) :
    (outs.map StackCall.flux).filterMap StackCall.answered? = [] := by
  induction outs with
  | nil => rfl
  | cons out rest ih => exact ih

theorem fluxStep_hidden : Hidden fluxStep StackCall.answered? := by
  intro p i p' out hstep
  rcases i with ⟨gattsIf, event, percent⟩
  unfold fluxStep fluxGattsProfileEventHandler at hstep
  cases event with
  | creatAttrTab ok handles =>
      cases hstep
      exact (newTable_eq ok handles p.handleTable fluxIdxNb).2.2
  | write handle isPrep value =>
      rcases Option.map_eq_some_iff.mp hstep with ⟨r, -, heq⟩
      cases heq
      exact filterMap_flux r.2
  | _ =>
      cases hstep
      rfl

/-!
## Both profiles
-/

def Server.withProfiles (s : Server) (r : FluxProfile × BattProfile) :
    Server :=
  { s with flux := r.1, batt := r.2 }

/-- Both profiles, each with its own events. -/
def profilesStep (s : Server) :
    FluxProfile × BattProfile -> Incoming ->
      Option ((FluxProfile × BattProfile) × List StackCall) :=
  both (only (Incoming.isFor s.fluxIf) fluxStep)
    (only (Incoming.isFor s.battIf) battStep)

theorem callProfiles_eq (s : Server) (i : Incoming) :
    callProfiles s i = (profilesStep s (s.flux, s.batt) i).map
      (fun r => (s.withProfiles r.1, r.2)) := by
  unfold callProfiles profilesStep both only
  dsimp only
  have hflux : fluxGattsProfileEventHandler i.gattsIf s.flux i.event =
      fluxStep s.flux i := rfl
  rw [hflux]
  cases (if i.isFor s.fluxIf then fluxStep s.flux i else some (s.flux, [])) with
  | none => rfl
  | some r =>
      dsimp only
      split <;> rfl

/-- No profile is registered. -/
def Incoming.IsServed (i : Incoming) : Prop :=
  match i.event with
  | .reg _ _ => False
  | _ => True

theorem gattsEventHandler_served {s : Server} {i : Incoming}
    (h : i.IsServed) : gattsEventHandler s i = callProfiles s i := by
  rcases i with ⟨gattsIf, event, percent⟩
  cases event with
  | reg ok appId => exact h.elim
  | _ => rfl

theorem feedAll_gattsEventHandler {s : Server} {events : List Incoming}
    (h : forall i, i ∈ events -> i.IsServed) :
    feedAll gattsEventHandler s events =
      (feedAll (profilesStep s) (s.flux, s.batt) events).map
        (fun r => (s.withProfiles r.1, r.2)) := by
  induction events generalizing s with
  | nil => rfl
  | cons i rest ih =>
      have hrest := fun r => @ih (s.withProfiles r)
        (fun j hj => h j (List.mem_cons_of_mem _ hj))
      rw [feedAll, feedAll, gattsEventHandler_served (h i List.mem_cons_self),
        callProfiles_eq]
      cases profilesStep s (s.flux, s.batt) i with
      | none => rfl
      | some r =>
          have hmid : feedAll gattsEventHandler (s.withProfiles r.1) rest =
              (feedAll (profilesStep s) r.1 rest).map
                (fun r => (s.withProfiles r.1, r.2)) := hrest r.1
          simp only [Option.map_some, hmid]
          cases feedAll (profilesStep s) r.1 rest <;> rfl

/-- For every server whose profiles are registered and all events, in any
order: the script is told what the events for the flux profile say, in order,
whatever comes for the battery profile in between, every read of the battery
level is answered once, on the connection and the transaction of the read, and
nothing else is.  The server fails exactly when a write for the flux profile
leaves the memory of its receiver. -/
theorem server_serves_both {recordSize : SizeT} {s : Server}
    {session : Session} {events : List Incoming}
    (h : Represents recordSize session s.flux)
    (hserved : forall i, i ∈ events -> i.IsServed) :
    match feedAll Session.step session
        (events.filter (Incoming.isFor s.fluxIf)) with
    | none => feedAll gattsEventHandler s events = none
    | some (session', args) =>
        exists s' calls,
          feedAll gattsEventHandler s events = some (s', calls) ∧
            Represents recordSize session' s'.flux ∧
            calls.flatten.filterMap StackCall.told? = args.flatten ∧
            calls.flatten.filterMap StackCall.answered? =
              answers s.batt.handleTable
                (events.filter (Incoming.isFor s.battIf)) := by
  have hflux := feedAll_fluxStep h (events.filter (Incoming.isFor s.fluxIf))
  rw [feedAll_gattsEventHandler hserved]
  split at hflux
  · rw [profilesStep, feedAll_both_none _ (feedAll_only_none hflux)]
    rfl
  · rename_i session' args hsession
    rcases hflux with ⟨p', calls, hrun, hrepresents, htold⟩
    rcases feedAll_battStep s.batt
      (events.filter (Incoming.isFor s.battIf)) with
      ⟨b', calls', hrun', hanswered⟩
    rcases feedAll_only hrun with ⟨outs, houts, heq⟩
    rcases feedAll_only hrun' with ⟨outs', houts', heq'⟩
    rcases feedAll_both (battStep_hidden.only _) (fluxStep_hidden.only _)
      houts houts' with ⟨all, hall, hview, hview'⟩
    refine ⟨s.withProfiles (p', b'), all, ?_, hrepresents, ?_, ?_⟩
    · rw [profilesStep, hall]
      rfl
    · rw [hview, heq, htold]
    · rw [hview', heq', hanswered]

def servesBoth : Server where
  flux := { firstProfile with recvRecord := idle 18 }
  batt :=
    { handleTable := [50, 51, 52]
      mtuSize := 23
      connId := 0xffff
      gattsIf := 0xff
      isConnected := false
      remoteBda := [0, 0, 0, 0, 0, 0] }
  fluxIf := 3
  battIf := 4

def writesAndReads : List Incoming :=
  [⟨3, .connect 1 [1, 2, 3, 4, 5, 6], none⟩,
    ⟨4, .connect 1 [1, 2, 3, 4, 5, 6], none⟩,
    ⟨3, .write 42 false { bytes := [2, 0, 7], length_le := by decide }, none⟩,
    ⟨4, .read 52 1 9, some 80⟩,
    ⟨3, .write 42 false { bytes := [8], length_le := by decide }, none⟩]

theorem server_serves_both_interleaved :
    exists s' calls,
      feedAll gattsEventHandler servesBoth writesAndReads = some (s', calls) ∧
        calls.flatten.filterMap StackCall.told? =
          [eventArgs uiConnected .incoming none 0, messageArgs [7, 8]] ∧
        calls.flatten.filterMap StackCall.answered? =
          [⟨4, 1, 9, 52, 80⟩] := by
  have hrepresents : Represents 18 ⟨[40, 41, 42, 43, 44], none⟩
      servesBoth.flux := ⟨rfl, rfl⟩
  have hserved : forall i, i ∈ writesAndReads -> i.IsServed := by
    intro i hi
    simp only [writesAndReads, List.mem_cons, List.not_mem_nil, or_false] at hi
    rcases hi with rfl | rfl | rfl | rfl | rfl <;> trivial
  rcases server_serves_both hrepresents hserved with
    ⟨s', calls, hrun, -, htold, hanswered⟩
  exact ⟨s', calls, hrun, htold, hanswered⟩

end Ble
end Fluxnode
