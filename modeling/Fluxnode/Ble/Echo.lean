import Fluxnode.Ble.Profiles
import Fluxnode.DukMain.NoLostWakeUp
import Fluxnode.Record.MtuBound
import Fluxnode.Record.RoundTrip
import Fluxnode.Record.SendBounds

/-!
# The echo server

`spiffs_image/ble_echo_server.js` sends every message back to the client that
it came from.  On its way a message goes through the receiver of the BLE server,
the work queue, the script, the queue again and `ble_server_send`, while more
messages arrive.  Every message that the script is shown leaves a value on the
stack of Duktape, and there has to be room for the next one.
-/

namespace Fluxnode
namespace Ble

open C
open Foundation
open DukMain (Appended Call Event EventArgs Input SendFunc World eventArgs
  scriptStep taskStep threadStep uiMsg)
open Record

structure Mtu where
  size : UInt16
  le : 23 ≤ size

/-- The runtime, the flux profile and the client at the other end, which has the
same receiver; `heard` is what it got back. -/
structure Echo (α T : Type) where
  rt : DukMain.State α T
  profile : FluxProfile
  /-- The running `OnEvent` has sent its answer. -/
  echoed : Bool
  peer : RecordT
  heard : List Received

variable {α T : Type}

def echoData (event : Event) : Option (List UInt8) :=
  if event.msgType = uiMsg ∧ event.payloadLen ≠ 0 then
    event.payload.map (fun bytes => bytes.take event.payloadLen.toNat)
  else none

def sentBytes (event : Event) : List UInt8 :=
  match event.payload with
  | some bytes => bytes.take event.payloadLen.toNat
  | none => []

theorem length_sentBytes_lt (event : Event) :
    (sentBytes event).length < 2 ^ 32 := by
  have hlt := event.payloadLen.toNat_lt
  unfold sentBytes
  split
  · rw [List.length_take]
    lia
  · exact Nat.two_pow_pos 32

/-- `ble_server_send`, with every notification delivered to the client. -/
def transmit (s : Echo α T) (msg : Appended) : Option (Echo α T) :=
  match bleServerSend s.profile (fun _ => 0)
      ⟨sentBytes msg.event, length_sentBytes_lt msg.event⟩ with
  | none => none
  | some (frags, _) =>
      (feedAll writeEvt s.peer frags).map (fun r =>
        { s with peer := r.1, heard := s.heard ++ r.2.reduceOption })

def transmitAll : List Call -> Echo α T -> Option (Echo α T)
  | [], s => some s
  | .sendFunc .bleServerSend msg _ :: rest, s =>
      (transmit s msg).bind (transmitAll rest)
  | _ :: rest, s => transmitAll rest s

def mustAnswer (s : Echo α T) : Bool :=
  match s.rt.pc with
  | .runOnEvent msg => (echoData msg.event).isSome && !s.echoed
  | _ => false

/-- What `send_event` has on the value stack: the global object, `OnEvent` and
its argument, and a property with its name. -/
def sendEventSlots : Nat := 5

def hasRoom (rt : DukMain.State α T) : Bool :=
  match rt.pc, rt.g.ctx with
  | .dispatch msg, some st =>
      msg.event.msgDirection == .outgoing ||
        decide (st.length + sendEventSlots ≤ Duktape.apiEntryStack)
  | _, _ => true

inductive EchoAction (α : Type) where
  /-- A write of the client. -/
  | write (handle : UInt16) (isPrep : Bool) (value : DataValue)
  | mtu (m : Mtu)
  /-- The `duk_main_wake` behind the event of a message. -/
  | wake
  | task (i : Input α)
  /-- `Platform.sendEvent(1, evt.EventData)`, up to its `duk_main_wake`. -/
  | sendEvent
  | sendWake

variable [DecidableEq T]

def addEvents (ble : T) : List EventArgs -> DukMain.State α T ->
    Option (DukMain.State α T)
  | [], rt => some rt
  | args :: rest, rt =>
      (threadStep ble (.addFullEvent args) rt).bind (addEvents ble rest)

/-- A step; `ble` is the task of the stack.  There is none for a write that
starts an empty message, or one that it does not fit. -/
def Echo.step (w : World α) (ble : T) :
    EchoAction α -> Echo α T -> Option (Echo α T)
  | .write handle isPrep value, s =>
      match eventHandler s.profile (.write handle isPrep value) with
      | none => none
      | some (profile, outs) =>
          (addEvents ble ((outs.map StackCall.flux).filterMap StackCall.told?)
            s.rt).map (fun rt => { s with rt := rt, profile := profile })
  | .mtu m, s =>
      (eventHandler s.profile (.mtu m.size)).map
        (fun r => { s with profile := r.1 })
  | .wake, s =>
      (threadStep ble .wake s.rt).map (fun rt => { s with rt := rt })
  | .task i, s =>
      if mustAnswer s || !hasRoom s.rt then none
      else
        match taskStep w i s.rt with
        | none => none
        | some rt =>
            transmitAll (rt.history.calls.drop s.rt.history.calls.length)
              { s with rt := rt, echoed := false }
  | .sendEvent, s =>
      match s.rt.pc with
      | .runOnEvent msg =>
          match echoData msg.event with
          | none => none
          | some bytes =>
              if s.echoed then none
              else
                (scriptStep w (.sendEvent (eventArgs uiMsg .outgoing
                  (some bytes) (UInt32.ofNat bytes.length))) s.rt).map
                    (fun rt => { s with rt := rt, echoed := true })
      | _ => none
  | .sendWake, s =>
      (scriptStep w .wake s.rt).map (fun rt => { s with rt := rt })

structure Echo.Start (w : World α) (s : Echo α T) : Prop where
  reachable : DukMain.Reachable w s.rt
  pc : s.rt.pc = .notifyTake
  queue : s.rt.g.eventQueue = []
  reset : s.rt.g.reset = false
  sendFunc : s.rt.g.sendFunc = some .bleServerSend
  receiver : exists recordSize, s.profile.recvRecord = idle recordSize
  connected : s.profile.isConnected = true
  mtu : 23 ≤ s.profile.mtuSize
  peer : exists recordSize, s.peer = idle recordSize
  heard : s.heard = []

/-!
## Messages
-/

structure IsMessage (payload : List UInt8) (event : Event) : Prop where
  ne_nil : payload ≠ []
  length_lt : payload.length < 2 ^ 16
  msgType : event.msgType = uiMsg
  block : event.payload = some payload
  payloadLen : event.payloadLen = UInt32.ofNat payload.length

section IsMessage

variable {payload : List UInt8} {event : Event}

theorem IsMessage.toNat_payloadLen (h : IsMessage payload event) :
    event.payloadLen.toNat = payload.length := by
  have hlt := h.length_lt
  rw [h.payloadLen]
  exact UInt32.toNat_ofNat_of_lt' (by rw [UInt32.size]; lia)

theorem IsMessage.sentBytes (h : IsMessage payload event) :
    sentBytes event = payload := by
  rw [Ble.sentBytes, h.block]
  dsimp only
  rw [h.toNat_payloadLen, List.take_length]

theorem IsMessage.echoData (h : IsMessage payload event) :
    echoData event = some payload := by
  have hpos : 0 < payload.length := List.length_pos_iff.mpr h.ne_nil
  have hlen : event.payloadLen ≠ 0 := by
    intro hzero
    have hlength := h.toNat_payloadLen
    rw [hzero, UInt32.toNat_zero] at hlength
    lia
  rw [Ble.echoData, if_pos ⟨h.msgType, hlen⟩, h.block, Option.map_some,
    h.toNat_payloadLen, List.take_length]

/-- `duk_main_add_event` builds no event for an empty message, whose length
would be looked for in its block. -/
theorem isMessage_fullEvent {direction : DukMain.Direction}
    (hlength : payload.length < 2 ^ 16)
    (h : DukMain.fullEvent (eventArgs uiMsg direction (some payload)
      (UInt32.ofNat payload.length)) = some event) :
    IsMessage payload event ∧ event.msgDirection = direction := by
  have htoNat : (UInt32.ofNat payload.length).toNat = payload.length :=
    UInt32.toNat_ofNat_of_lt' (by rw [UInt32.size]; lia)
  have hne : payload ≠ [] := by
    intro hnil
    subst hnil
    cases h
  have hlen : UInt32.ofNat payload.length ≠ 0 := by
    intro hzero
    rw [hzero, UInt32.toNat_zero] at htoNat
    exact hne (List.length_eq_zero_iff.mp htoNat.symm)
  have hpayloadLen : DukMain.payloadLen (some payload)
      (UInt32.ofNat payload.length) = some (UInt32.ofNat payload.length) := by
    rw [DukMain.payloadLen, if_neg hlen]
  simp only [DukMain.fullEvent, eventArgs, hpayloadLen] at h
  rcases Option.dite_none_right_eq_some.mp h with ⟨hcovered, heq⟩
  cases heq
  exact ⟨⟨hne, hlength, rfl, rfl, rfl⟩, rfl⟩

end IsMessage

theorem length_of_receive {m m' : Option Incomplete}
    {value payload : List UInt8}
    (h : receive m value = some (m', some payload)) :
    payload.length < 2 ^ 16 := by
  cases m with
  | some m =>
      have hsize := m.size_lt
      rw [receive, Option.some.injEq, Incomplete.continue] at h
      split at h
      · rename_i hlength
        cases h
        rw [List.length_append]
        lia
      · split at h <;> cases h
  | none =>
      rcases value with - | ⟨low, - | ⟨high, body⟩⟩
      · cases h
      · cases h
      · have hsize := declaredSize_lt low high
        rw [receive, startMessage] at h
        split at h
        · rename_i hlength
          cases h
          lia
        · split at h <;> cases h

/-!
## Messages on their way
-/

def HasMessage (msg : Appended) : Prop :=
  exists payload, IsMessage payload msg.event

def received (msg : Appended) : Received :=
  delivered (sentBytes msg.event)

def isOutgoing (msg : Appended) : Bool :=
  msg.event.msgDirection == .outgoing

def held : DukMain.Pc -> List Appended
  | .dispatch msg => [msg]
  | .runOnEvent msg => [msg]
  | _ => []

/-- An answer that was taken, and is still to be sent. -/
def heldOut : DukMain.Pc -> List Appended
  | .dispatch msg => if isOutgoing msg then [msg] else []
  | _ => []

def heldIn (echoed : Bool) : DukMain.Pc -> List Appended
  | .dispatch msg => if isOutgoing msg then [] else [msg]
  | .runOnEvent msg => if echoed then [] else [msg]
  | _ => []

/-- What is between the client and itself: the answers, then the messages that
are still to be answered. -/
def inFlight (pc : DukMain.Pc) (echoed : Bool) (queue : List Appended) :
    List Received :=
  (heldOut pc ++ queue.filter isOutgoing ++
    (heldIn echoed pc ++ queue.filter (fun msg => !isOutgoing msg))).map
      received

theorem inFlight_nil {pc : DukMain.Pc} (echoed : Bool)
    (queue : List Appended) (h : held pc = []) :
    inFlight pc echoed queue = (queue.filter isOutgoing ++
      queue.filter (fun msg => !isOutgoing msg)).map received := by
  cases pc with
  | dispatch msg => cases h
  | runOnEvent msg => cases h
  | _ => rfl

theorem inFlight_append_incoming (pc : DukMain.Pc) (echoed : Bool)
    (queue : List Appended) {msg : Appended} (h : isOutgoing msg = false) :
    inFlight pc echoed (queue ++ [msg]) =
      inFlight pc echoed queue ++ [received msg] := by
  simp [inFlight, List.filter_append, h]

theorem inFlight_answer {msg answer : Appended} (queue : List Appended)
    (h : isOutgoing answer = true) (hsame : received answer = received msg) :
    inFlight (.runOnEvent msg) true (queue ++ [answer]) =
      inFlight (.runOnEvent msg) false queue := by
  simp [inFlight, heldOut, heldIn, List.filter_append, h, hsame]

theorem inFlight_take (msg : Appended) (echoed echoed' : Bool)
    (rest : List Appended) {pc : DukMain.Pc} (h : held pc = []) :
    inFlight (.dispatch msg) echoed rest =
      inFlight pc echoed' (msg :: rest) := by
  rw [inFlight_nil echoed' _ h]
  cases hout : isOutgoing msg <;>
    simp [inFlight, heldOut, heldIn, hout]

omit [DecidableEq T] in
theorem transmit_message {s : Echo α T} {recordSize : SizeT} {msg : Appended}
    {payload : List UInt8} (hconnected : s.profile.isConnected = true)
    (hmtu : 23 ≤ s.profile.mtuSize) (hpeer : s.peer = idle recordSize)
    (hmsg : IsMessage payload msg.event) :
    transmit s msg = some { s with heard := s.heard ++ [received msg] } := by
  have hsize : 2 ≤ s.profile.mtuSize.toUInt32 - 5 := by
    have hmtu := UInt16.le_iff_toNat_le.mp hmtu
    have hlt := s.profile.mtuSize.toNat_lt
    have hfive : (5 : UInt32) ≤ s.profile.mtuSize.toUInt32 := by
      rw [UInt32.le_iff_toNat_le, UInt16.toNat_toUInt32]
      exact Nat.le_trans (by decide) hmtu
    rw [UInt32.le_iff_toNat_le, UInt32.toNat_sub_of_le _ _ hfive,
      UInt16.toNat_toUInt32]
    have h23 : (23 : UInt16).toNat = 23 := rfl
    have h5 : (5 : UInt32).toNat = 5 := rfl
    have h2 : (2 : UInt32).toNat = 2 := rfl
    lia
  let m : Outgoing :=
    { sender :=
        { recordSize := s.profile.mtuSize.toUInt32 - 5
          lenbytes := 2
          len := 0
          cur := 0
          buf := none }
      send := fun _ => 0
      payload := payload
      lenbytes_eq := rfl
      two_le_recordSize := hsize
      length_lt := hmsg.length_lt }
  have hsent : m.transmit =
      some (chunks m.sender.recordSize.toNat (frame payload), 0) := by
    rw [m.transmit_eq, sendFragments_of_all_zero (fun _ _ => rfl),
      List.nil_append]
  have hsend : bleServerSend s.profile (fun _ => 0)
      ⟨sentBytes msg.event, length_sentBytes_lt msg.event⟩ = m.transmit := by
    rw [bleServerSend, hconnected]
    simp only [hmsg.sentBytes]
    rfl
  have hfeed := @feedAll_transmit recordSize m _ hsent
  unfold transmit
  rw [hsend, hsent]
  dsimp only
  rw [hpeer, hfeed, Option.map_some, reduceOption_answers, ← hpeer, received,
    hmsg.sentBytes]

/-!
## The invariant
-/

def InLoop (pc : DukMain.Pc) : Prop :=
  pc = .whileReset ∨ pc = .notifyTake ∨ DukMain.Draining pc

/-- What holds between two steps; `said` are the messages that the writes of the
client have brought. -/
structure Echo.Inv (w : World α) (said : List Received) (s : Echo α T) :
    Prop where
  reachable : DukMain.Reachable w s.rt
  loop : InLoop s.rt.pc
  reset : s.rt.g.reset = false
  sendFunc : s.rt.g.sendFunc = some .bleServerSend
  messages : forall msg, msg ∈ held s.rt.pc ++ s.rt.g.eventQueue ->
    HasMessage msg
  receiver : exists recordSize incomplete,
    s.profile.recvRecord = holding recordSize incomplete
  connected : s.profile.isConnected = true
  mtu : 23 ≤ s.profile.mtuSize
  peer : exists recordSize, s.peer = idle recordSize
  account : s.heard ++ inFlight s.rt.pc s.echoed s.rt.g.eventQueue = said

variable {w : World α} {said : List Received} {s s' : Echo α T}

theorem Echo.Start.inv (h : s.Start w) : s.Inv w [] := by
  rcases h.receiver with ⟨recordSize, hreceiver⟩
  refine ⟨h.reachable, ?_, h.reset, h.sendFunc, ?_,
    ⟨recordSize, none, hreceiver⟩, h.connected, h.mtu, h.peer, ?_⟩
  · rw [h.pc]
    exact .inr (.inl rfl)
  · intro msg hmsg
    rw [h.pc, h.queue] at hmsg
    cases hmsg
  · rw [h.pc, h.queue, h.heard]
    rfl

/-- There is room for as many messages as there are slots beside those of
`send_event` and what `duk_init` has left on the stack. -/
theorem hasRoom_iff {rt : DukMain.State α T} {msg : Appended} {height : Nat}
    (hreach : DukMain.Reachable w rt) (hpc : rt.pc = .dispatch msg)
    (hdirection : msg.event.msgDirection = .incoming)
    (hbase : rt.history.baseHeight = some height) :
    hasRoom rt = true <-> height + rt.history.delivered ≤ 59 := by
  rcases (DukMain.reachable_heightInv hreach).height height hbase with
    ⟨st, hctx, hlength⟩
  rw [hpc] at hlength
  have hheight : st.length = height + rt.history.delivered := hlength
  have hincoming : (msg.event.msgDirection == .outgoing) = false := by
    rw [hdirection]
    rfl
  rw [hasRoom, hpc, hctx]
  dsimp only
  rw [hincoming, Bool.false_or, decide_eq_true_iff, hheight]
  unfold sendEventSlots Duktape.apiEntryStack
  lia

/-!
## Steps of the task
-/

omit [DecidableEq T] in
theorem move_inLoop {rt : DukMain.State α T} {next : DukMain.Pc}
    (h : DukMain.Move rt next) (hloop : InLoop rt.pc)
    (hreset : rt.g.reset = false) :
    InLoop next ∧ held rt.pc = [] ∧ held next = [] := by
  cases h with
  | init hpc hset =>
      rw [hreset] at hset
      cases hset
  | sleep hpc => exact ⟨.inr (.inl rfl), by rw [hpc]; rfl, rfl⟩
  | expired hpc => exact ⟨.inr (.inr trivial), by rw [hpc]; rfl, rfl⟩
  | pending hpc => exact ⟨.inr (.inr trivial), by rw [hpc]; rfl, rfl⟩
  | timerRun hpc => exact ⟨.inr (.inr trivial), by rw [hpc]; rfl, rfl⟩
  | drained hpc => exact ⟨.inl rfl, by rw [hpc]; rfl, rfl⟩
  | freed hpc => exact ⟨.inr (.inr trivial), by rw [hpc]; rfl, rfl⟩
  | _ => simp_all [InLoop, DukMain.Draining]

theorem Echo.Inv.of_quiet (h : s.Inv w said) {rt : DukMain.State α T}
    {echoed : Bool} (hreach : DukMain.Reachable w rt) (hloop : InLoop rt.pc)
    (hreset : rt.g.reset = s.rt.g.reset)
    (hsend : rt.g.sendFunc = s.rt.g.sendFunc)
    (hmessages : forall msg, msg ∈ held rt.pc ++ rt.g.eventQueue ->
      msg ∈ held s.rt.pc ++ s.rt.g.eventQueue)
    (hflight : inFlight rt.pc echoed rt.g.eventQueue =
      inFlight s.rt.pc s.echoed s.rt.g.eventQueue) :
    Echo.Inv w said { s with rt := rt, echoed := echoed } where
  reachable := hreach
  loop := hloop
  reset := hreset.trans h.reset
  sendFunc := hsend.trans h.sendFunc
  messages msg hmsg := h.messages msg (hmessages msg hmsg)
  receiver := h.receiver
  connected := h.connected
  mtu := h.mtu
  peer := h.peer
  account := (congrArg (s.heard ++ ·) hflight).trans h.account

omit [DecidableEq T] in
theorem transmitAll_new {calls : List Call} {rt : DukMain.State α T}
    {r : Echo α T}
    (hcalls : rt.history.calls = s.rt.history.calls ++ calls) :
    transmitAll (rt.history.calls.drop s.rt.history.calls.length) r =
      transmitAll calls r := by
  rw [hcalls, List.drop_left]

theorem Echo.Inv.task (h : s.Inv w said) {i : Input α}
    {rt : DukMain.State α T} (hmust : mustAnswer s = false)
    (htask : taskStep w i s.rt = some rt)
    (hsent : transmitAll (rt.history.calls.drop s.rt.history.calls.length)
      { s with rt := rt, echoed := false } = some s') :
    s'.Inv w said ∧ s'.profile = s.profile := by
  have hreach : DukMain.Reachable w rt :=
    @Foundation.Reachable.tail _ _ _ _ _ _ (.task i) h.reachable htask
  have hloop := h.loop
  cases (DukMain.taskStep_cases htask).2 with
  | move wakeUp hmove =>
      rcases move_inLoop hmove hloop h.reset with ⟨hnext, hheld, hheld'⟩
      rw [transmitAll_new (List.append_nil _).symm] at hsent
      cases hsent
      refine ⟨h.of_quiet hreach hnext rfl rfl ?_ ?_, rfl⟩
      · intro msg hmsg
        rw [hheld]
        rw [hheld'] at hmsg
        exact hmsg
      · rw [inFlight_nil _ _ hheld, inFlight_nil _ _ hheld']
  | notified hpc =>
      rw [transmitAll_new (List.append_nil _).symm] at hsent
      cases hsent
      refine ⟨h.of_quiet hreach (.inr (.inr trivial)) rfl rfl ?_ ?_, rfl⟩
      · intro msg hmsg
        rw [hpc]
        exact hmsg
      · rw [hpc]
        rfl
  | take hpc hqueue =>
      rename_i msg rest
      rw [transmitAll_new (List.append_nil _).symm] at hsent
      cases hsent
      have hheld : held s.rt.pc = [] := by
        rw [hpc]
        rfl
      refine ⟨h.of_quiet hreach (.inr (.inr trivial)) rfl rfl ?_ ?_, rfl⟩
      · intro other hother
        rw [hheld, hqueue]
        exact hother
      · rw [hqueue]
        exact inFlight_take msg _ _ rest hheld
  | incoming object func hpc hdirection hctx =>
      rename_i msg st
      rw [transmitAll_new rfl] at hsent
      cases hsent
      have hin : isOutgoing msg = false := by
        rw [isOutgoing, hdirection]
        rfl
      refine ⟨h.of_quiet hreach (.inr (.inr trivial)) rfl rfl ?_ ?_, rfl⟩
      · intro other hother
        rw [hpc]
        exact hother
      · rw [hpc]
        simp [inFlight, heldOut, heldIn, hin]
  | sent hpc hdirection htype hfunc =>
      rename_i msg func
      rw [h.sendFunc] at hfunc
      cases hfunc
      rcases h.messages msg (by rw [hpc]; exact List.mem_cons_self) with
        ⟨payload, hmsg⟩
      rcases h.peer with ⟨recordSize, hpeer⟩
      have hout : isOutgoing msg = true := by
        cases hdir : msg.event.msgDirection with
        | incoming => exact absurd hdir hdirection
        | outgoing => rw [isOutgoing, hdir]; rfl
      have hreaches : forall rt : DukMain.State α T,
          transmit { s with rt := rt, echoed := false } msg =
            some { s with
              rt := rt
              echoed := false
              heard := s.heard ++ [received msg] } :=
        fun rt => transmit_message h.connected h.mtu hpeer hmsg
      rw [transmitAll_new rfl, transmitAll, hreaches] at hsent
      cases hsent
      refine ⟨⟨hreach, .inr (.inr trivial), h.reset, h.sendFunc, ?_,
        h.receiver, h.connected, h.mtu, h.peer, ?_⟩, rfl⟩
      · intro other hother
        exact h.messages other (List.mem_append_right _ hother)
      · rw [← h.account, hpc]
        simp [inFlight, heldOut, heldIn, hout]
  | ignored hpc hdirection hnobody =>
      rename_i msg
      rcases h.messages msg (by rw [hpc]; exact List.mem_cons_self) with
        ⟨payload, hmsg⟩
      rcases hnobody with htype | hfunc
      · exact absurd hmsg.msgType htype
      · rw [h.sendFunc] at hfunc
        cases hfunc
  | eventDone hpc hctx hfinish =>
      rename_i msg st st' outcome result
      rcases h.messages msg (by rw [hpc]; exact List.mem_cons_self) with
        ⟨payload, hmsg⟩
      have hechoed : s.echoed = true := by
        rw [mustAnswer, hpc] at hmust
        simpa [hmsg.echoData] using hmust
      rw [transmitAll_new (List.append_nil _).symm] at hsent
      cases hsent
      refine ⟨h.of_quiet hreach (.inr (.inr trivial)) rfl rfl ?_ ?_, rfl⟩
      · intro other hother
        exact List.mem_append_right _ hother
      · rw [hpc, hechoed]
        rfl
  | start hpc => simp_all [InLoop, DukMain.Draining]
  | load hpc => simp_all [InLoop, DukMain.Draining]
  | discard hpc hqueue => simp_all [InLoop, DukMain.Draining]
  | clearReset hpc => simp_all [InLoop, DukMain.Draining]
  | loadAndRun hpc => simp_all [InLoop, DukMain.Draining]
  | failed loadIndex hpc => simp_all [InLoop, DukMain.Draining]
  | loaded hpc hresult => simp_all [InLoop, DukMain.Draining]

/-!
## The other steps
-/

theorem threadStep_addFullEvent {ble : T} {args : EventArgs}
    {rt rt' : DukMain.State α T}
    (h : threadStep ble (.addFullEvent args) rt = some rt') :
    exists event, DukMain.fullEvent args = some event ∧
      rt' = DukMain.setThread (DukMain.append rt event) ble .appended := by
  cases hpc : rt.thread ble with
  | idle =>
      simp only [threadStep, hpc] at h
      split at h
      · cases h
      · rename_i event hevent
        cases h
        exact ⟨event, hevent, rfl⟩
  | appended => simp [threadStep, hpc] at h
  | flagSet request => simp [threadStep, hpc] at h

theorem threadStep_wake {ble : T} {rt rt' : DukMain.State α T}
    (h : threadStep ble .wake rt = some rt') :
    rt' = DukMain.setThread (DukMain.wake rt) ble .idle := by
  cases hpc : rt.thread ble with
  | idle => simp [threadStep, hpc] at h
  | appended =>
      simp only [threadStep, hpc, Option.some.injEq] at h
      exact h.symm
  | flagSet request =>
      simp only [threadStep, hpc, Option.some.injEq] at h
      exact h.symm

omit [DecidableEq T] in
theorem scriptStep_wake {rt rt' : DukMain.State α T}
    (h : scriptStep w .wake rt = some rt') :
    rt' = { DukMain.wake rt with scriptAppended := false } := by
  unfold scriptStep at h
  split at h
  · split at h
    · cases h
      rfl
    · cases h
  · cases h

omit [DecidableEq T] in
theorem scriptStep_sendEvent {args : EventArgs} {rt rt' : DukMain.State α T}
    (h : scriptStep w (.sendEvent args) rt = some rt') :
    exists event, DukMain.fullEvent args = some event ∧
      rt' = { DukMain.append rt event with scriptAppended := true } := by
  unfold scriptStep at h
  split at h
  · split at h
    · cases h
    · rw [DukMain.scriptCall] at h
      split at h
      · cases h
      · rename_i event hevent
        cases h
        exact ⟨event, hevent, rfl⟩
  · cases h

theorem Echo.Inv.wake (h : s.Inv w said) {rt : DukMain.State α T}
    (hreach : DukMain.Reachable w rt) (hpc : rt.pc = s.rt.pc)
    (hg : rt.g = s.rt.g) : Echo.Inv w said { s with rt := rt } := by
  refine h.of_quiet hreach ?_ (by rw [hg]) (by rw [hg]) ?_ ?_
  · rw [hpc]
    exact h.loop
  · intro msg hmsg
    rw [hpc, hg] at hmsg
    exact hmsg
  · rw [hpc, hg]

theorem Echo.Inv.sendEvent (h : s.Inv w said) {msg : Appended}
    {bytes : List UInt8} {rt : DukMain.State α T}
    (hpc : s.rt.pc = .runOnEvent msg)
    (hdata : echoData msg.event = some bytes) (hechoed : s.echoed = false)
    (hstep : scriptStep w (.sendEvent (eventArgs uiMsg .outgoing (some bytes)
      (UInt32.ofNat bytes.length))) s.rt = some rt) :
    Echo.Inv w said { s with rt := rt, echoed := true } := by
  have hreach : DukMain.Reachable w rt :=
    @Foundation.Reachable.tail _ _ _ _ _ _ (.script _) h.reachable hstep
  rcases h.messages msg (by rw [hpc]; exact List.mem_cons_self) with
    ⟨payload, hmsg⟩
  have hbytes : payload = bytes := by
    rw [hmsg.echoData] at hdata
    exact Option.some.inj hdata
  subst hbytes
  rcases scriptStep_sendEvent hstep with ⟨event, hevent, rfl⟩
  rcases isMessage_fullEvent hmsg.length_lt hevent with ⟨hanswer, hdirection⟩
  refine ⟨hreach, h.loop, h.reset, h.sendFunc, ?_, h.receiver, h.connected,
    h.mtu, h.peer, ?_⟩
  · intro other hother
    dsimp only [DukMain.append] at hother
    rw [← List.append_assoc, List.mem_append, List.mem_singleton] at hother
    rcases hother with hold | rfl
    · exact h.messages other hold
    · exact ⟨payload, hanswer⟩
  · have haccount := h.account
    rw [hpc, hechoed] at haccount
    rw [← haccount]
    dsimp only [DukMain.append]
    rw [hpc, inFlight_answer]
    · rw [isOutgoing, hdirection]
      rfl
    · rw [received, received, hanswer.sentBytes, hmsg.sentBytes]

theorem Echo.Inv.arrive (h : s.Inv w said) {payload : List UInt8}
    {event : Event} {ble : T} {recordSize : SizeT}
    (next : Option Incomplete) (hmsg : IsMessage payload event)
    (hdirection : event.msgDirection = .incoming)
    (hreach : DukMain.Reachable w
      (DukMain.setThread (DukMain.append s.rt event) ble .appended)) :
    Echo.Inv w (said ++ [delivered payload])
      { s with
        rt := DukMain.setThread (DukMain.append s.rt event) ble .appended
        profile := { s.profile with
          recvRecord := holding recordSize next } } := by
  refine ⟨hreach, h.loop, h.reset, h.sendFunc, ?_, ⟨recordSize, next, rfl⟩,
    h.connected, h.mtu, h.peer, ?_⟩
  · intro other hother
    dsimp only [DukMain.setThread, DukMain.append] at hother
    rw [← List.append_assoc, List.mem_append, List.mem_singleton] at hother
    rcases hother with hold | rfl
    · exact h.messages other hold
    · exact ⟨payload, hmsg⟩
  · dsimp only [DukMain.setThread, DukMain.append]
    rw [inFlight_append_incoming, ← List.append_assoc, h.account, received,
      hmsg.sentBytes]
    rw [isOutgoing, hdirection]
    rfl

def EchoAction.gatts? : EchoAction α -> Option GattsEvent
  | .write handle isPrep value => some (.write handle isPrep value)
  | .mtu m => some (.mtu m.size)
  | _ => none

theorem Echo.Inv.write (h : s.Inv w said) {ble : T} {handle : UInt16}
    {isPrep : Bool} {value : DataValue}
    (hstep : Echo.step w ble (.write handle isPrep value) s = some s') :
    exists outs,
      eventHandler s.profile (.write handle isPrep value) =
          some (s'.profile, outs) ∧
        s'.Inv w (said ++ outs.filterMap Output.received?) := by
  rcases h.receiver with ⟨recordSize, incomplete, hreceiver⟩
  rw [Echo.step] at hstep
  by_cases hdata : isDataWrite s.profile.handleTable handle isPrep = true
  · have hvalue : (GattsEvent.write handle isPrep value).dataValue?
        s.profile.handleTable = some value := by
      rw [GattsEvent.dataValue?, if_pos hdata]
    rw [eventHandler_data hvalue hreceiver] at hstep ⊢
    cases hreceive : receive incomplete value.bytes with
    | none =>
        rw [hreceive] at hstep
        cases hstep
    | some r =>
        rcases r with ⟨next, out⟩
        rw [hreceive, Option.map_some] at hstep
        cases out with
        | none =>
            cases hstep
            refine ⟨[], rfl, ?_⟩
            rw [List.filterMap_nil, List.append_nil]
            exact { h with receiver := ⟨recordSize, next, rfl⟩ }
        | some payload =>
            rcases Option.map_eq_some_iff.mp hstep with ⟨rt, hadd, heq⟩
            cases heq
            rw [Option.map_some, Option.toList_some, List.map_singleton,
              List.filterMap_cons_some (told_message payload), addEvents]
              at hadd
            rcases Option.bind_eq_some_iff.mp hadd with ⟨rt', hrt', heq⟩
            cases heq
            have hreach : DukMain.Reachable w rt :=
              @Foundation.Reachable.tail _ _ _ _ _ _ (.thread ble _)
                h.reachable hrt'
            rcases threadStep_addFullEvent hrt' with ⟨event, hevent, rfl⟩
            rcases isMessage_fullEvent (length_of_receive hreceive) hevent with
              ⟨hmsg, hdirection⟩
            exact ⟨_, rfl, h.arrive next hmsg hdirection hreach⟩
  · rw [eventHandler, if_neg hdata] at hstep ⊢
    cases hstep
    refine ⟨[], rfl, ?_⟩
    rw [List.filterMap_nil, List.append_nil]
    exact h

theorem Echo.Inv.step (h : s.Inv w said) {ble : T} {action : EchoAction α}
    (hstep : Echo.step w ble action s = some s') :
    match action.gatts? with
    | none => s'.Inv w said ∧ s'.profile = s.profile
    | some event =>
        exists outs,
          eventHandler s.profile event = some (s'.profile, outs) ∧
            s'.Inv w (said ++ outs.filterMap Output.received?) := by
  cases action with
  | write handle isPrep value => exact h.write hstep
  | mtu m =>
      cases hstep
      refine ⟨[], rfl, ?_⟩
      rw [List.filterMap_nil, List.append_nil]
      exact { h with mtu := m.le }
  | wake =>
      rcases Option.map_eq_some_iff.mp hstep with ⟨rt, hrt, heq⟩
      cases heq
      have hreach : DukMain.Reachable w rt :=
        @Foundation.Reachable.tail _ _ _ _ _ _ (.thread ble .wake) h.reachable
          hrt
      rw [threadStep_wake hrt] at hreach ⊢
      exact ⟨h.wake hreach rfl rfl, rfl⟩
  | task i =>
      rw [Echo.step, Option.ite_none_left_eq_some, Bool.or_eq_true,
        not_or] at hstep
      rcases hstep with ⟨⟨hmust, -⟩, hstep⟩
      split at hstep
      · cases hstep
      · rename_i rt hrt
        exact h.task (Bool.eq_false_iff.mpr hmust) hrt hstep
  | sendEvent =>
      rw [Echo.step] at hstep
      split at hstep
      · rename_i msg hpc
        split at hstep
        · cases hstep
        · rename_i bytes hdata
          rw [Option.ite_none_left_eq_some] at hstep
          rcases hstep with ⟨hechoed, hstep⟩
          rcases Option.map_eq_some_iff.mp hstep with ⟨rt, hrt, heq⟩
          cases heq
          exact ⟨h.sendEvent hpc hdata (Bool.eq_false_iff.mpr hechoed) hrt,
            rfl⟩
      · cases hstep
  | sendWake =>
      rcases Option.map_eq_some_iff.mp hstep with ⟨rt, hrt, heq⟩
      cases heq
      have hreach : DukMain.Reachable w rt :=
        @Foundation.Reachable.tail _ _ _ _ _ _ (.script .wake) h.reachable hrt
      rw [scriptStep_wake hrt] at hreach ⊢
      exact ⟨h.wake hreach rfl rfl, rfl⟩

theorem Echo.Inv.run (h : s.Inv w said) {ble : T}
    {actions : List (EchoAction α)}
    (hrun : runAll (Echo.step w ble) actions s = some s') :
    exists outs,
      feedAll eventHandler s.profile (actions.filterMap EchoAction.gatts?) =
          some (s'.profile, outs) ∧
        s'.Inv w (said ++ outs.flatten.filterMap Output.received?) := by
  induction actions generalizing s said with
  | nil =>
      cases hrun
      refine ⟨[], rfl, ?_⟩
      rw [List.flatten_nil, List.filterMap_nil, List.append_nil]
      exact h
  | cons action rest ih =>
      rcases runAll_cons hrun with ⟨mid, hmid, hrest⟩
      have hstep := h.step hmid
      cases hevent : action.gatts? with
      | none =>
          rw [hevent] at hstep
          rcases hstep with ⟨hinv, hprofile⟩
          rcases ih hinv hrest with ⟨outs, hfeed, hlast⟩
          rw [List.filterMap_cons_none hevent, ← hprofile]
          exact ⟨outs, hfeed, hlast⟩
      | some event =>
          rw [hevent] at hstep
          rcases hstep with ⟨out, hout, hinv⟩
          rcases ih hinv hrest with ⟨outs, hfeed, hlast⟩
          rw [List.filterMap_cons_some hevent]
          refine ⟨out :: outs, feedAll_cons_of_some hout hfeed, ?_⟩
          rw [List.flatten_cons, List.filterMap_append, ← List.append_assoc]
          exact hlast

end Ble
end Fluxnode
