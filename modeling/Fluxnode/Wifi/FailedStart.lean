import Fluxnode.Wifi.Model

/-!
# Starts that fail

`wifi_init_station` returns 0 when the station has used up its retries.  What it
has created until then stays, and the next `wifi_start` stops at the default
event loop.
-/

namespace Fluxnode
namespace Wifi

/-- What a failed start has to leave for the next one. -/
structure Undone (s s' : Stack) : Prop where
  same : s' = s
  passes : forall mode events, wifiStart mode events s' ≠ .error .aborted
  retries : s'.retryNum = 0

/-!
## Calls of the stack
-/

theorem espErrorCheck_of_true {succeeds : Stack -> Bool} {s : Stack}
    (h : succeeds s = true) (effect : Stack -> Stack) :
    espErrorCheck succeeds effect s = .ok ((), effect s) := by
  show (if succeeds s then modify effect else throw .aborted : Service Unit) s =
    _
  rw [if_pos h]
  rfl

theorem espErrorCheck_of_false {succeeds : Stack -> Bool} {s : Stack}
    (h : succeeds s = false) (effect : Stack -> Stack) :
    espErrorCheck succeeds effect s = .error .aborted := by
  show (if succeeds s then modify effect else throw .aborted : Service Unit) s =
    _
  rw [if_neg (by simp [h])]
  rfl

theorem modify_apply (f : Stack -> Stack) (s : Stack) :
    (modify f : Service Unit) s = .ok ((), f s) := rfl

theorem setStationHandlers_of_eventLoop {s : Stack} (h : s.eventLoop = true)
    (registered : Bool) :
    setStationHandlers registered s =
      .ok ((), { s with stationHandlers := registered }) :=
  @espErrorCheck_of_true (·.eventLoop) s h _

theorem bind_of_ok {α β : Type} {call : Service α} {s s' : Stack} {a : α}
    (h : call s = .ok (a, s')) (rest : α -> Service β) :
    (call >>= rest) s = rest a s' := by
  show (call s >>= fun p => rest p.1 p.2) = _
  rw [h]
  rfl

theorem bind_of_error {α β : Type} {call : Service α} {s : Stack} {stop : Stop}
    (h : call s = .error stop) (rest : α -> Service β) :
    (call >>= rest) s = .error stop := by
  show (call s >>= fun p => rest p.1 p.2) = _
  rw [h]
  rfl

/-!
## Events of the station
-/

/-- The retry counter is the only variable of the service that an event
changes. -/
def OnlyRetries (s s' : Stack) : Prop :=
  s' = { s with retryNum := s'.retryNum }

theorem OnlyRetries.trans {s s' s'' : Stack} (h : OnlyRetries s s')
    (h' : OnlyRetries s' s'') : OnlyRetries s s'' := by
  unfold OnlyRetries at *
  rw [h', h]

theorem stationEventHandler_onlyRetries (p : Stack × Bits)
    (event : StationEvent) :
    OnlyRetries p.1 (stationEventHandler p event).1 := by
  cases event with
  | start => rfl
  | disconnected =>
      simp only [stationEventHandler]
      split <;> rfl
  | gotIp => rfl

/-- No event but an address takes a used-up retry back. -/
theorem stationEventHandler_usedUp {p : Stack × Bits} {event : StationEvent}
    (hne : event ≠ .gotIp) (h : stationMaximumRetry ≤ p.1.retryNum) :
    stationMaximumRetry ≤ (stationEventHandler p event).1.retryNum := by
  cases event with
  | start => exact h
  | disconnected =>
      rw [stationEventHandler, if_neg (Nat.not_lt.mpr h)]
      exact h
  | gotIp => exact absurd rfl hne

/-- The station does not fail before the counter has reached its maximum. -/
theorem stationEventHandler_fail {p : Stack × Bits} {event : StationEvent}
    (hbefore : p.2.fail = false)
    (hfail : (stationEventHandler p event).2.fail = true) :
    stationMaximumRetry ≤ (stationEventHandler p event).1.retryNum := by
  cases event with
  | start =>
      rw [stationEventHandler, hbefore] at hfail
      cases hfail
  | disconnected =>
      by_cases hlt : p.1.retryNum < stationMaximumRetry
      · rw [stationEventHandler, if_pos hlt, hbefore] at hfail
        cases hfail
      · rw [stationEventHandler, if_neg hlt]
        exact Nat.le_of_not_lt hlt
  | gotIp =>
      rw [stationEventHandler, hbefore] at hfail
      cases hfail

theorem foldl_onlyRetries (late : List StationEvent) (p : Stack × Bits) :
    OnlyRetries p.1 (late.foldl stationEventHandler p).1 := by
  induction late generalizing p with
  | nil => rfl
  | cons event rest ih =>
      exact (stationEventHandler_onlyRetries p event).trans (ih _)

theorem foldl_usedUp {late : List StationEvent} (hne : .gotIp ∉ late)
    {p : Stack × Bits} (h : stationMaximumRetry ≤ p.1.retryNum) :
    stationMaximumRetry ≤ (late.foldl stationEventHandler p).1.retryNum := by
  induction late generalizing p with
  | nil => exact h
  | cons event rest ih =>
      rw [List.mem_cons, not_or] at hne
      apply ih hne.2
      exact stationEventHandler_usedUp (Ne.symm hne.1) h

structure Waited (events : List StationEvent) (s : Stack) (p : Stack × Bits)
    (late : List StationEvent) : Prop where
  frame : OnlyRetries s p.1
  behind : late.Sublist events
  retries : p.2.connected = false -> stationMaximumRetry ≤ p.1.retryNum

theorem waitBits_waited {events late : List StationEvent}
    {p p' : Stack × Bits} (hfail : p.2.fail = false)
    (h : waitBits events p = some (p', late)) : Waited events p.1 p' late := by
  induction events generalizing p with
  | nil => cases h
  | cons event rest ih =>
      have hframe := stationEventHandler_onlyRetries p event
      simp only [waitBits] at h
      by_cases hset : ((stationEventHandler p event).2.connected ||
          (stationEventHandler p event).2.fail) = true
      · rw [if_pos hset] at h
        cases h
        constructor
        · exact hframe
        · exact List.sublist_cons_self event _
        · intro hconnected
          rw [hconnected, Bool.false_or] at hset
          exact stationEventHandler_fail hfail hset
      · rw [if_neg hset] at h
        rw [Bool.not_eq_true, Bool.or_eq_false_iff] at hset
        have hrest := ih hset.2 h
        constructor
        · exact hframe.trans hrest.frame
        · exact hrest.behind.cons event
        · exact hrest.retries

/-!
## A start
-/

def stationUp (s : Stack) : Stack :=
  { s with
    netif := some .sta
    initialised := true
    stationHandlers := true
    started := true }

/-- `wifi_init_station` from its wait on. -/
def waitForStation (events : List StationEvent) : Service Int := do
  let (bits, late) ← xEventGroupWaitBits events
  let ret := if bits.connected then 1 else 0
  lateEvents late bits
  setStationHandlers false
  return ret

theorem wifiInitStation_eq {s : Stack} (h : s.eventLoop = true)
    (events : List StationEvent) :
    wifiInitStation events s = waitForStation events (stationUp s) := by
  have hinit : espWifiInit { s with netif := some .sta } =
      .ok ((), { s with netif := some .sta, initialised := true }) :=
    espErrorCheck_of_true rfl _
  have hhandlers :
      setStationHandlers true { s with netif := some .sta, initialised := true } =
      .ok ((), { s with
        netif := some .sta, initialised := true, stationHandlers := true }) :=
    setStationHandlers_of_eventLoop
      (s := { s with netif := some .sta, initialised := true }) h true
  have hset : espWifiSet { s with
        netif := some .sta, initialised := true, stationHandlers := true } =
      .ok ((), { s with
        netif := some .sta, initialised := true, stationHandlers := true }) :=
    espErrorCheck_of_true rfl _
  have hstart : espWifiStart { s with
        netif := some .sta, initialised := true, stationHandlers := true } =
      .ok ((), stationUp s) :=
    espErrorCheck_of_true rfl _
  rw [wifiInitStation]
  rw [bind_of_ok (show espNetifCreateDefaultWifi .sta s =
    .ok ((), { s with netif := some .sta }) from rfl)]
  rw [bind_of_ok hinit, bind_of_ok hhandlers, bind_of_ok hset, bind_of_ok hset]
  rw [bind_of_ok hstart]
  rfl

theorem waitForStation_zero {events : List StationEvent} {s s' : Stack}
    (hloop : s.eventLoop = true)
    (h : waitForStation events s = .ok (0, s')) :
    s' = { s with stationHandlers := false, retryNum := s'.retryNum } ∧
      (.gotIp ∉ events -> stationMaximumRetry ≤ s'.retryNum) := by
  cases hwait : waitBits events (s, ⟨false, false⟩) with
  | none =>
      have hwaiting : xEventGroupWaitBits events s = .error .waiting := by
        rw [xEventGroupWaitBits, hwait]
      rw [waitForStation, bind_of_error hwaiting] at h
      cases h
  | some result =>
      rcases result with ⟨⟨mid, bits⟩, late⟩
      have hset : xEventGroupWaitBits events s = .ok ((bits, late), mid) := by
        rw [xEventGroupWaitBits, hwait]
      have hwaited := waitBits_waited rfl hwait
      have hlate := foldl_onlyRetries late (mid, bits)
      have hframe := hwaited.frame.trans hlate
      have hused : bits.connected = false -> .gotIp ∉ late ->
          stationMaximumRetry ≤
            (late.foldl stationEventHandler (mid, bits)).1.retryNum :=
        fun hconnected hne => foldl_usedUp hne (hwaited.retries hconnected)
      rw [waitForStation, bind_of_ok hset] at h
      simp only [lateEvents, bind_of_ok (modify_apply _ mid)] at h
      generalize (late.foldl stationEventHandler (mid, bits)).1 = last at *
      have hloop' : last.eventLoop = true := by
        rw [hframe]
        exact hloop
      rw [bind_of_ok (setStationHandlers_of_eventLoop hloop' false)] at h
      injection h with hp
      injection hp with hret hs
      subst hs
      constructor
      · rw [hframe]
      · intro hne
        apply hused
        · cases hconnected : bits.connected with
          | false => rfl
          | true =>
              rw [hconnected] at hret
              cases hret
        · intro hmem
          exact hne (hwaited.behind.subset hmem)

/-- No start goes past a default event loop that is there. -/
theorem wifiStart_of_eventLoop {s : Stack} (h : s.eventLoop = true)
    (mode : WifiMode) (events : List StationEvent) :
    wifiStart mode events s = .error .aborted := by
  have hcreate : espEventLoopCreateDefault { s with wifiMode := mode } =
      .error .aborted :=
    espErrorCheck_of_false (by simp [h]) _
  rw [wifiStart]
  rw [bind_of_ok (modify_apply _ s)]
  exact bind_of_error hcreate _

theorem wifiStart_sta_eq {s : Stack} (h : s.eventLoop = false)
    (events : List StationEvent) :
    wifiStart .sta events s =
      wifiInitStation events { s with wifiMode := .sta, eventLoop := true } := by
  have hcreate : espEventLoopCreateDefault { s with wifiMode := .sta } =
      .ok ((), { s with wifiMode := .sta, eventLoop := true }) :=
    espErrorCheck_of_true (by simp [h]) _
  rw [wifiStart]
  rw [bind_of_ok (modify_apply _ s)]
  rw [bind_of_ok hcreate]
  rfl

/-- What a start that fails leaves: all of it but the event handlers, and no
retry, unless an address comes when it is too late. -/
structure LeftUp (events : List StationEvent) (s s' : Stack) : Prop where
  wasDown : s.eventLoop = false
  state : s' = { s with
    eventLoop := true
    netif := some .sta
    initialised := true
    started := true
    stationHandlers := false
    retryNum := s'.retryNum
    wifiMode := .sta }
  retries : .gotIp ∉ events -> stationMaximumRetry ≤ s'.retryNum

theorem failed_leftUp {events : List StationEvent} {s s' : Stack}
    (h : wifiStart .sta events s = .ok (0, s')) : LeftUp events s s' := by
  cases hloop : s.eventLoop with
  | true =>
      rw [wifiStart_of_eventLoop hloop] at h
      cases h
  | false =>
      rw [wifiStart_sta_eq hloop, wifiInitStation_eq rfl] at h
      rcases waitForStation_zero rfl h with ⟨hstate, hretries⟩
      exact ⟨hloop, hstate, hretries⟩

theorem LeftUp.eventLoop {events : List StationEvent} {s s' : Stack}
    (h : LeftUp events s s') :
    s'.eventLoop = true := by
  rw [h.state]

theorem LeftUp.ne {events : List StationEvent} {s s' : Stack}
    (h : LeftUp events s s') : s' ≠ s := by
  intro heq
  have hloop := h.eventLoop
  rw [heq, h.wasDown] at hloop
  cases hloop

/-- No failed start is undone: the stack differs from the one before, each start
behind it is aborted, and no retry is left, unless an address comes too late. -/
theorem failed_start_leaves_up {events : List StationEvent} {s s' : Stack}
    (h : wifiStart .sta events s = .ok (0, s')) :
    s' ≠ s ∧
    (forall mode events', wifiStart mode events' s' = .error .aborted) ∧
    (.gotIp ∉ events -> stationMaximumRetry ≤ s'.retryNum) ∧
    ¬ Undone s s' := by
  have hleft := failed_leftUp h
  constructor
  · exact hleft.ne
  constructor
  · intro mode events'
    exact wifiStart_of_eventLoop hleft.eventLoop mode events'
  constructor
  · exact hleft.retries
  · intro hundone
    exact hleft.ne hundone.same

theorem failed_start_leaves_up_unreachable :
    exists s', wifiStart .sta
        [.start, .disconnected, .disconnected, .disconnected, .disconnected]
        Stack.off = .ok (0, s') ∧
      s' ≠ Stack.off ∧
      (forall mode events', wifiStart mode events' s' = .error .aborted) ∧
      (.gotIp ∉ ([.start, .disconnected, .disconnected, .disconnected,
          .disconnected] : List StationEvent) ->
        stationMaximumRetry ≤ s'.retryNum) ∧
      ¬ Undone Stack.off s' :=
  ⟨_, rfl, @failed_start_leaves_up
    [.start, .disconnected, .disconnected, .disconnected, .disconnected]
    Stack.off _ rfl⟩

/-- With the first start of the board and a router that refuses each try, the
access point of the fallback does not come up. -/
theorem fallback_aborts :
    ¬ forall (events : List StationEvent) (s s' : Stack),
      wifiStart .sta events s = .ok (0, s') -> Undone s s' := by
  intro hall
  have hundone := hall
    [.start, .disconnected, .disconnected, .disconnected, .disconnected]
    Stack.off _ rfl
  exact hundone.passes .ap [] rfl

/-!
## What `wifi_stop` would undo
-/

structure Stack.Down (s : Stack) : Prop where
  eventLoop : s.eventLoop = false
  netif : s.netif = none
  initialised : s.initialised = false
  started : s.started = false
  stationHandlers : s.stationHandlers = false

/-- `wifi_stop` behind a failed start passes its checks and undoes the start,
except for the retry counter. -/
theorem wifiStop_of_failed {events : List StationEvent} {s s' : Stack}
    (hdown : s.Down) (h : wifiStart .sta events s = .ok (0, s')) :
    wifiStop s' =
      .ok ((), { s with retryNum := s'.retryNum, wifiMode := .sta }) := by
  have hstate := (failed_leftUp h).state
  generalize s'.retryNum = retries at hstate ⊢
  rw [hstate]
  rcases s with
    ⟨eventLoop, netif, initialised, started, stationHandlers, apHandler,
      retryNum, wifiMode⟩
  cases hdown.eventLoop
  cases hdown.netif
  cases hdown.initialised
  cases hdown.started
  cases hdown.stationHandlers
  rfl

end Wifi
end Fluxnode
