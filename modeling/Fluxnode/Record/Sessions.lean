import Fluxnode.Record.Reassembly

/-!
# Sessions of BLE clients

The handler of the flux profile keeps its receiver from one client to the next.
A client gets what a server that was just started would give it exactly when
the clients before it left no message incomplete.
-/

namespace Fluxnode
namespace Record

open C
open Foundation

/-!
## The handler

The events that only log have no effect and are left out, and so are those that
set up the service.
-/

def recvValIndex : Nat := 2

/-- The globals of the flux profile.  The record size was computed from the MTU
when the server was started. -/
structure FluxProfile where
  handleTable : List UInt16
  recvRecord : RecordT
  mtuSize : UInt16
  connId : UInt16
  gattsIf : UInt8
  isConnected : Bool
  remoteBda : List UInt8
  deriving DecidableEq, Repr

inductive GattsEvent where
  | connect (connId : UInt16) (gattsIf : UInt8) (remoteBda : List UInt8)
  | disconnect
  | write (handle : UInt16) (isPrep : Bool) (value : DataValue)
  | mtu (size : UInt16)
  deriving DecidableEq, Repr

inductive Output where
  | receiveCb (received : Received)
  | conninfoNotify (status : Int)
  | startAdvertising
  deriving DecidableEq, Repr

/-- `flux_find_char_and_desr_index`, without a result for an unknown handle. -/
def findCharAndDesrIndex (table : List UInt16) (handle : UInt16) :
    Option Nat :=
  table.findIdx? (· == handle)

def isDataWrite (table : List UInt16) (handle : UInt16) (isPrep : Bool) :
    Bool :=
  !isPrep && findCharAndDesrIndex table handle == some recvValIndex

def eventHandler (p : FluxProfile) : GattsEvent ->
    Option (FluxProfile × List Output)
  | .connect connId gattsIf remoteBda =>
      some
        ({ p with
            connId := connId
            gattsIf := gattsIf
            isConnected := true
            remoteBda := remoteBda },
          [.conninfoNotify 1])
  | .disconnect =>
      some ({ p with isConnected := false },
        [.conninfoNotify 0, .startAdvertising])
  | .write handle isPrep value =>
      if isDataWrite p.handleTable handle isPrep then
        match writeEvt p.recvRecord value.bytes with
        | none => none
        | some (r, out) =>
            some ({ p with recvRecord := r },
              (out.map Output.receiveCb).toList)
      else
        some (p, [])
  | .mtu size => some ({ p with mtuSize := size }, [])

/-- `ble_server_start`, as far as the receiver goes. -/
def serverStart (p : FluxProfile) : FluxProfile :=
  { p with recvRecord := idle (p.mtuSize.toUInt32 - 5) }

/-!
## Messages
-/

def Output.received? : Output -> Option Received
  | .receiveCb received => some received
  | _ => none

def messages (p : FluxProfile) (events : List GattsEvent) :
    Option (List Received) :=
  (feedAll eventHandler p events).map
    (fun r => r.2.flatten.filterMap Output.received?)

def GattsEvent.dataValue? (table : List UInt16) :
    GattsEvent -> Option DataValue
  | .write handle isPrep value =>
      if isDataWrite table handle isPrep then some value else none
  | _ => none

def dataValues (table : List UInt16) (events : List GattsEvent) :
    List DataValue :=
  events.filterMap (GattsEvent.dataValue? table)

/-- The values make up whole messages, one after the other. -/
def WholeMessages (values : List DataValue) : Prop :=
  exists outs, feedAll receive none (values.map DataValue.bytes) =
    some (none, outs)

/--
After the earlier events, the session of the next client brings the messages
that it would bring right after the start of the server.
-/
def Independent (p : FluxProfile) (earlier : List GattsEvent) : Prop :=
  exists q outs, feedAll eventHandler (serverStart p) earlier = some (q, outs) ∧
    forall connId gattsIf remoteBda session,
      messages q (.connect connId gattsIf remoteBda :: session) =
        messages (serverStart p) (.connect connId gattsIf remoteBda :: session)

/-!
## Events and the abstract receiver
-/

section Events

variable {recordSize : SizeT} {p : FluxProfile} {state : Option Incomplete}

theorem eventHandler_other {event : GattsEvent}
    (hother : event.dataValue? p.handleTable = none) :
    exists q outs, eventHandler p event = some (q, outs) ∧
      q.recvRecord = p.recvRecord ∧ q.handleTable = p.handleTable ∧
      outs.filterMap Output.received? = [] := by
  cases event with
  | connect connId gattsIf remoteBda => exact ⟨_, _, rfl, rfl, rfl, rfl⟩
  | disconnect => exact ⟨_, _, rfl, rfl, rfl, rfl⟩
  | mtu size => exact ⟨_, _, rfl, rfl, rfl, rfl⟩
  | write handle isPrep value =>
      have hnot : ¬ isDataWrite p.handleTable handle isPrep = true := by
        intro hdata
        simp [GattsEvent.dataValue?, hdata] at hother
      exact ⟨p, [], by rw [eventHandler, if_neg hnot], rfl, rfl, rfl⟩

theorem eventHandler_data {event : GattsEvent} {value : DataValue}
    (hdata : event.dataValue? p.handleTable = some value)
    (hrecord : p.recvRecord = holding recordSize state) :
    eventHandler p event =
      (receive state value.bytes).map (fun r =>
        ({ p with recvRecord := holding recordSize r.1 },
          (r.2.map (fun payload => .receiveCb (delivered payload))).toList)) := by
  cases event with
  | connect connId gattsIf remoteBda => cases hdata
  | disconnect => cases hdata
  | mtu size => cases hdata
  | write handle isPrep value' =>
      rw [GattsEvent.dataValue?, Option.ite_none_right_eq_some,
        Option.some.injEq] at hdata
      rcases hdata with ⟨hwrite, rfl⟩
      rw [eventHandler, if_pos hwrite, hrecord, writeEvt_holding]
      cases receive state value'.bytes with
      | none => rfl
      | some r => cases hout : r.2 <;> simp [hout]

theorem feedAll_eventHandler (events : List GattsEvent)
    (hrecord : p.recvRecord = holding recordSize state) :
    match feedAll receive state
        ((dataValues p.handleTable events).map DataValue.bytes) with
    | none => feedAll eventHandler p events = none
    | some (state', payloads) =>
        exists q outs, feedAll eventHandler p events = some (q, outs) ∧
          q.recvRecord = holding recordSize state' ∧
          q.handleTable = p.handleTable ∧
          outs.flatten.filterMap Output.received? =
            payloads.reduceOption.map delivered := by
  induction events generalizing p state with
  | nil => exact ⟨p, [], rfl, hrecord, rfl, rfl⟩
  | cons event rest ih =>
      cases hdata : event.dataValue? p.handleTable with
      | none =>
          rcases eventHandler_other hdata with
            ⟨p', out, hstep, hrecord', htable, hsilent⟩
          have hrest := ih (p := p') (hrecord'.trans hrecord)
          rw [htable] at hrest
          have hsame : dataValues p.handleTable (event :: rest) =
              dataValues p.handleTable rest := List.filterMap_cons_none hdata
          rw [hsame]
          split at hrest
          · simp only [feedAll, hstep, hrest]
          · rcases hrest with ⟨q, outs, hfeed, hq, hqtable, houts⟩
            refine ⟨q, out :: outs, feedAll_cons_of_some hstep hfeed, hq,
              hqtable, ?_⟩
            rw [List.flatten_cons, List.filterMap_append, hsilent, houts,
              List.nil_append]
      | some value =>
          have hstep := eventHandler_data hdata hrecord
          have hcons : dataValues p.handleTable (event :: rest) =
              value :: dataValues p.handleTable rest :=
            List.filterMap_cons_some hdata
          rw [hcons, List.map_cons, feedAll]
          cases hreceive : receive state value.bytes with
          | none =>
              rw [hreceive] at hstep
              simp only [feedAll, hstep, Option.map_none]
          | some r =>
              rw [hreceive, Option.map_some] at hstep
              have hrest := ih (p := { p with
                recvRecord := holding recordSize r.1 }) rfl
              dsimp only at hrest ⊢
              cases hfeed : feedAll receive r.1
                  ((dataValues p.handleTable rest).map DataValue.bytes) with
              | none =>
                  rw [hfeed] at hrest
                  simp only [feedAll, hstep, hrest]
              | some last =>
                  rw [hfeed] at hrest
                  rcases hrest with ⟨q, outs, hrun, hq, hqtable, houts⟩
                  refine ⟨q, _ :: outs, feedAll_cons_of_some hstep hrun, hq,
                    hqtable, ?_⟩
                  rw [List.flatten_cons, List.filterMap_append, houts]
                  cases hout : r.2 with
                  | none => rfl
                  | some payload => rfl

theorem messages_eq (events : List GattsEvent)
    (hrecord : p.recvRecord = holding recordSize state) :
    messages p events =
      (feedAll receive state
        ((dataValues p.handleTable events).map DataValue.bytes)).map
          (fun r => r.2.reduceOption.map delivered) := by
  have h := feedAll_eventHandler events hrecord
  split at h
  · rename_i hfeed
    rw [messages, h, hfeed]
    rfl
  · rename_i hfeed
    rcases h with ⟨q, outs, hrun, _, _, houts⟩
    rw [messages, hrun, hfeed, Option.map_some, Option.map_some, houts]

end Events

/-!
## The next client
-/

theorem Incomplete.continue_ne_nil (m : Incomplete) {value : List UInt8}
    (hvalue : value ≠ []) : (m.continue value).2 ≠ some [] := by
  rw [Incomplete.continue]
  split
  · simp [hvalue]
  · split <;> simp

theorem receive_empty_ne (m : Incomplete) :
    (feedAll receive (some m) [[0, 0]]).map
        (fun r => r.2.reduceOption.map delivered) ≠
      some [delivered []] := by
  have hne := m.continue_ne_nil (List.cons_ne_nil 0 [0])
  simp only [feedAll, receive, Option.map_some, ne_eq, Option.some.injEq]
  cases hout : (m.continue [0, 0]).2 with
  | none => simp [List.reduceOption]
  | some payload =>
      intro heq
      simp only [List.reduceOption, List.filterMap_cons, id, List.filterMap_nil,
        List.map_cons, List.map_nil, List.cons.injEq, and_true, delivered,
        Received.mk.injEq, Option.some.injEq, List.map_eq_nil_iff] at heq
      rw [hout, heq.1] at hne
      exact hne rfl

theorem exists_dataWrite {table : List UInt16} {events : List GattsEvent}
    (hne : dataValues table events ≠ []) :
    exists handle isPrep, isDataWrite table handle isPrep = true := by
  rcases List.exists_mem_of_ne_nil _ hne with ⟨value, hvalue⟩
  rcases List.mem_filterMap.mp hvalue with ⟨event, _, hevent⟩
  cases event with
  | connect connId gattsIf remoteBda => cases hevent
  | disconnect => cases hevent
  | mtu size => cases hevent
  | write handle isPrep value' =>
      rw [GattsEvent.dataValue?, Option.ite_none_right_eq_some] at hevent
      exact ⟨handle, isPrep, hevent.1⟩

theorem dataValues_connect (table : List UInt16) (connId : UInt16)
    (gattsIf : UInt8) (remoteBda : List UInt8) (session : List GattsEvent) :
    dataValues table (.connect connId gattsIf remoteBda :: session) =
      dataValues table session := rfl

/-- The sessions of a server are independent of the earlier events exactly when
the values that these brought make up whole messages. -/
theorem independent_iff_wholeMessages (p : FluxProfile)
    (earlier : List GattsEvent) :
    Independent p earlier <->
      WholeMessages (dataValues p.handleTable earlier) := by
  have hstart : (serverStart p).recvRecord =
      holding (p.mtuSize.toUInt32 - 5) none := rfl
  have hrun := feedAll_eventHandler earlier hstart
  have htable : (serverStart p).handleTable = p.handleTable := rfl
  rw [htable] at hrun
  constructor
  · intro hindependent
    rcases hindependent with ⟨q, outs, hfeed, hsame⟩
    split at hrun
    · rw [hrun] at hfeed
      cases hfeed
    · rename_i state payloads hvalues
      rcases hrun with ⟨q', outs', hfeed', hq, hqtable, _⟩
      rw [hfeed'] at hfeed
      cases hfeed
      cases state with
      | none => exact ⟨payloads, hvalues⟩
      | some m =>
          have hne : dataValues p.handleTable earlier ≠ [] := by
            intro hnil
            rw [hnil] at hvalues
            cases hvalues
          rcases exists_dataWrite hne with ⟨handle, isPrep, hdata⟩
          -- the next client sends one message without payload
          have hnext := hsame 0 0 []
            [.write handle isPrep { bytes := [0, 0], length_le := by decide }]
          rw [messages_eq _ hq, messages_eq _ hstart, hqtable, htable,
            dataValues_connect] at hnext
          have hvalue : dataValues p.handleTable
              [.write handle isPrep
                { bytes := [0, 0], length_le := by decide }] =
              [{ bytes := [0, 0], length_le := by decide }] :=
            List.filterMap_cons_some (if_pos hdata)
          rw [hvalue] at hnext
          exact absurd hnext (receive_empty_ne m)
  · intro hwhole
    rcases hwhole with ⟨payloads, hvalues⟩
    rw [hvalues] at hrun
    rcases hrun with ⟨q, outs, hfeed, hq, hqtable, _⟩
    refine ⟨q, outs, hfeed, ?_⟩
    intro connId gattsIf remoteBda session
    rw [messages_eq _ hq, messages_eq _ hstart, hqtable, htable]

/-!
## A client that leaves early
-/

def firstProfile : FluxProfile where
  handleTable := [40, 41, 42, 43, 44]
  recvRecord := idle 0
  mtuSize := 23
  connId := 0xffff
  gattsIf := 0xff
  isConnected := false
  remoteBda := [0, 0, 0, 0, 0, 0]

def leavesEarly : List GattsEvent :=
  [.connect 1 3 [1, 2, 3, 4, 5, 6],
    .write 42 false { bytes := [5, 0, 1], length_le := by decide },
    .disconnect]

def nextClient : List GattsEvent :=
  [.connect 2 3 [6, 5, 4, 3, 2, 1],
    .write 42 false { bytes := [1, 0, 42], length_le := by decide }]

/-- The message of the next client is taken for the rest of the first one. -/
theorem leavesEarly_not_independent :
    ¬ Independent firstProfile leavesEarly := by
  intro hindependent
  rcases hindependent with ⟨q, outs, hfeed, hsame⟩
  have hfresh : messages (serverStart firstProfile) nextClient =
      some [delivered [42]] := by decide
  have hlost : (feedAll eventHandler (serverStart firstProfile)
      leavesEarly).map (fun r => messages r.1 nextClient) =
        some (some []) := by decide
  rw [hfeed, Option.map_some, nextClient, hsame, ← nextClient, hfresh]
    at hlost
  exact absurd hlost (by decide)

end Record
end Fluxnode
