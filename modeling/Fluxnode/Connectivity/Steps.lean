import Mathlib.Data.List.Count
import Fluxnode.Connectivity.Model
import Fluxnode.Foundation.Run

/-!
# What a step can do

The successors of a state, listed once, and what each operation does to each
member of the state.
-/

namespace Fluxnode
namespace Connectivity

open DukMain (SendFunc)

/-!
## Modes
-/

theorem toUInt32_inj {newcon : Int32} (other : Int32) :
    newcon.toUInt32 = other.toUInt32 <-> newcon = other := by
  constructor
  · intro h
    exact congrArg Int32.ofUInt32 h
  · intro h
    rw [h]

theorem toUInt32_eq_notConnected {newcon : Int32} :
    newcon.toUInt32 = notConnected <-> newcon = 0 :=
  toUInt32_inj 0

theorem toUInt32_eq_wifi {newcon : Int32} :
    newcon.toUInt32 = wifi <-> newcon = 1 :=
  toUInt32_inj 1

theorem toUInt32_eq_ble {newcon : Int32} :
    newcon.toUInt32 = ble <-> newcon = 2 :=
  toUInt32_inj 2

theorem wifi_ne_notConnected : wifi ≠ notConnected := by
  decide

theorem wifi_ne_ble : wifi ≠ ble := by
  decide

theorem notConnected_ne_ble : notConnected ≠ ble := by
  decide

/-!
## Members
-/

section Enter

variable (newcon : Int32) (starts : Bool) (s : State)

theorem enterConnectivity_eq :
    enterConnectivity newcon starts s =
      { s with
        connectivity := newcon.toUInt32
        randomEnabled := decide (newcon = 0) || s.randomEnabled
        sendFunc :=
          if newcon = 0 ∨ newcon = 1 then
            none
          else if newcon = 2 then
            some .bleServerSend
          else
            s.sendFunc
        bleRunning := (decide (newcon = 2) && starts) || s.bleRunning
        pc := .idle } := by
  unfold enterConnectivity
  split
  · rename_i hzero
    simp [setSendFunc, hzero]
  · rename_i hzero
    split
    · rename_i hone
      simp [setSendFunc, hone]
    · rename_i hone
      split
      · rename_i htwo
        cases starts <;> simp [setSendFunc, bleServerStart, htwo]
      · rename_i htwo
        simp [hzero, hone, htwo]

@[simp] theorem enterConnectivity_connectivity :
    (enterConnectivity newcon starts s).connectivity = newcon.toUInt32 := rfl

@[simp] theorem enterConnectivity_pc :
    (enterConnectivity newcon starts s).pc = .idle := rfl

theorem enterConnectivity_randomEnabled :
    (enterConnectivity newcon starts s).randomEnabled =
      (decide (newcon = 0) || s.randomEnabled) := by
  rw [enterConnectivity_eq]

theorem enterConnectivity_sendFunc :
    (enterConnectivity newcon starts s).sendFunc =
      if newcon = 0 ∨ newcon = 1 then
        none
      else if newcon = 2 then
        some .bleServerSend
      else
        s.sendFunc := by
  rw [enterConnectivity_eq]

theorem enterConnectivity_bleRunning :
    (enterConnectivity newcon starts s).bleRunning =
      ((decide (newcon = 2) && starts) || s.bleRunning) := by
  rw [enterConnectivity_eq]

@[simp] theorem enterConnectivity_webserver :
    (enterConnectivity newcon starts s).webserver = s.webserver := by
  rw [enterConnectivity_eq]

@[simp] theorem enterConnectivity_udpRunning :
    (enterConnectivity newcon starts s).udpRunning = s.udpRunning := by
  rw [enterConnectivity_eq]

@[simp] theorem enterConnectivity_running :
    (enterConnectivity newcon starts s).running = s.running := by
  rw [enterConnectivity_eq]

@[simp] theorem enterConnectivity_servers :
    (enterConnectivity newcon starts s).servers = s.servers := by
  rw [enterConnectivity_eq]

end Enter

/-!
## Leaving a mode
-/

/-- The call has to stop wifi before it enters the new mode. -/
def Stops (newcon : Int32) (s : State) : Prop :=
  (newcon = 0 ∨ newcon = 2) ∧ s.connectivity = wifi

instance (newcon : Int32) (s : State) : Decidable (Stops newcon s) := by
  unfold Stops
  infer_instance

def leaveConnectivity (newcon : Int32) (s : State) : State :=
  { s with
    randomEnabled := s.randomEnabled && decide (s.connectivity ≠ notConnected)
    bleRunning :=
      s.bleRunning &&
        !decide ((newcon = 0 ∨ newcon = 1) ∧ s.connectivity = ble) }

theorem not_stops_one (s : State) : ¬ Stops 1 s := by
  intro h
  exact absurd h.1 (by decide)

theorem setConnectivity_of_stops {newcon : Int32} {starts : Bool} {s : State}
    (h : Stops newcon s) :
    setConnectivity newcon starts s = websocketStop newcon starts s := by
  rcases h with ⟨hnewcon, hwifi⟩
  have hmode : s.connectivity ≠ notConnected := by
    rw [hwifi]
    exact wifi_ne_notConnected
  unfold setConnectivity
  rw [if_neg hmode]
  exact if_pos ⟨hnewcon, hwifi⟩

theorem setConnectivity_of_not_stops {newcon : Int32} {starts : Bool}
    {s : State} (h : ¬ Stops newcon s) :
    setConnectivity newcon starts s =
      enterConnectivity newcon starts (leaveConnectivity newcon s) := by
  have hwifi : ¬ ((newcon = 0 ∨ newcon = 2) ∧ s.connectivity = wifi) := h
  unfold setConnectivity
  by_cases hmode : s.connectivity = notConnected
  · have hble : ¬ ((newcon = 0 ∨ newcon = 1) ∧ s.connectivity = ble) := by
      rw [hmode]
      intro h
      exact notConnected_ne_ble h.2
    simp only [if_pos hmode]
    rw [if_neg hwifi, if_neg hble]
    simp [leaveConnectivity, hmode, notConnected, ble]
  · simp only [if_neg hmode]
    rw [if_neg hwifi]
    by_cases hble : (newcon = 0 ∨ newcon = 1) ∧ s.connectivity = ble
    · rw [if_pos hble]
      simp [leaveConnectivity, bleServerStop, hble, notConnected, ble]
    · rw [if_neg hble]
      simp [leaveConnectivity, hmode, hble]

section Set

variable {newcon : Int32} {starts : Bool} {s : State} (h : ¬ Stops newcon s)
include h

theorem setConnectivity_connectivity :
    (setConnectivity newcon starts s).connectivity = newcon.toUInt32 := by
  rw [setConnectivity_of_not_stops h, enterConnectivity_connectivity]

theorem setConnectivity_pc : (setConnectivity newcon starts s).pc = .idle := by
  rw [setConnectivity_of_not_stops h, enterConnectivity_pc]

theorem setConnectivity_randomEnabled :
    (setConnectivity newcon starts s).randomEnabled =
      (decide (newcon = 0) ||
        (s.randomEnabled && decide (s.connectivity ≠ notConnected))) := by
  rw [setConnectivity_of_not_stops h, enterConnectivity_randomEnabled]
  rfl

theorem setConnectivity_sendFunc :
    (setConnectivity newcon starts s).sendFunc =
      if newcon = 0 ∨ newcon = 1 then
        none
      else if newcon = 2 then
        some .bleServerSend
      else
        s.sendFunc := by
  rw [setConnectivity_of_not_stops h, enterConnectivity_sendFunc]
  rfl

theorem setConnectivity_bleRunning :
    (setConnectivity newcon starts s).bleRunning =
      ((decide (newcon = 2) && starts) ||
        (s.bleRunning &&
          !decide ((newcon = 0 ∨ newcon = 1) ∧ s.connectivity = ble))) := by
  rw [setConnectivity_of_not_stops h, enterConnectivity_bleRunning]
  rfl

theorem setConnectivity_webserver :
    (setConnectivity newcon starts s).webserver = s.webserver := by
  rw [setConnectivity_of_not_stops h, enterConnectivity_webserver]
  rfl

theorem setConnectivity_udpRunning :
    (setConnectivity newcon starts s).udpRunning = s.udpRunning := by
  rw [setConnectivity_of_not_stops h, enterConnectivity_udpRunning]
  rfl

theorem setConnectivity_running :
    (setConnectivity newcon starts s).running = s.running := by
  rw [setConnectivity_of_not_stops h, enterConnectivity_running]
  rfl

theorem setConnectivity_servers :
    (setConnectivity newcon starts s).servers = s.servers := by
  rw [setConnectivity_of_not_stops h, enterConnectivity_servers]
  rfl

end Set

/-!
## Configuring wifi
-/

theorem WifiConfig.succeeds_iff {c : WifiConfig} :
    c.succeeds = true <->
      ¬ (0 < c.pass.length ∧ c.pass.length < 8) ∧ c.wifiStarts = true := by
  simp only [WifiConfig.succeeds, Bool.and_eq_true, Bool.not_eq_true',
    Bool.and_eq_false_iff, decide_eq_false_iff_not, not_and_or]

theorem wifiConfigure_of_fails {c : WifiConfig} {s : State}
    (h : c.succeeds = false) :
    wifiConfigure c s = { s with connectivity := notConnected } := by
  unfold wifiConfigure
  by_cases hpass : 0 < c.pass.length ∧ c.pass.length < 8
  · rw [if_pos hpass]
  · have hstarts : c.wifiStarts = false := by
      rw [← Bool.not_eq_true] at h ⊢
      intro hstarts
      exact h (WifiConfig.succeeds_iff.mpr ⟨hpass, hstarts⟩)
    rw [if_neg hpass, if_pos hstarts]

theorem wifiConfigure_of_succeeds {c : WifiConfig} {s : State}
    (h : c.succeeds = true) :
    wifiConfigure c s =
      { s with
        sendFunc := some .websocketSend
        webserver := if c.webStarts then some c.webmode else s.webserver
        udpRunning := c.udpStarts || s.udpRunning
        wsServerCfg := true
        running := 1
        servers :=
          if c.serverStarts then
            s.servers ++ [.starting c.serverConnects]
          else
            s.servers } := by
  rcases WifiConfig.succeeds_iff.mp h with ⟨hpass, hstarts⟩
  unfold wifiConfigure
  rw [if_neg hpass, if_neg (by simp [hstarts])]
  cases hweb : c.webStarts <;> cases hudp : c.udpStarts <;>
    simp [udpServerStart, webserverStart, websocketStart, setSendFunc]

theorem wifiConfigure_pc (c : WifiConfig) (s : State) :
    (wifiConfigure c s).pc = s.pc := by
  cases hsucceeds : c.succeeds with
  | false => rw [wifiConfigure_of_fails hsucceeds]
  | true => rw [wifiConfigure_of_succeeds hsucceeds]

/-!
## The calls
-/

theorem callStep_pc {c : Call} {s s' : State} (h : callStep c s = some s') :
    s.pc = .idle := by
  unfold callStep at h
  split at h
  · assumption
  · cases h

theorem callStep_setConnectivity {newcon : Int32} {starts : Bool} {s : State}
    (h : s.pc = .idle) :
    callStep (.setConnectivity newcon starts) s =
      some (setConnectivity newcon starts s) := by
  simp [callStep, h]

theorem callStep_wifiConfigure {c : WifiConfig} {s : State}
    (h : s.pc = .idle) :
    callStep (.wifiConfigure c) s = some (wifiConfigure c s) := by
  simp [callStep, h]

theorem pollStep_cases {s s' : State} (h : pollStep s = some s') :
    exists newcon starts, s.pc = .stopping newcon starts ∧
      ((s.running ≠ 2 ∧ s' = s) ∨
        (s.running = 2 ∧
          s' = enterConnectivity newcon starts (wifiConnectivityStop s))) := by
  unfold pollStep at h
  cases hpc : s.pc with
  | idle => simp [hpc] at h
  | stopping newcon starts =>
      refine ⟨newcon, starts, rfl, ?_⟩
      simp only [hpc] at h
      by_cases hrunning : s.running = 2
      · rw [if_neg (by simp [hrunning])] at h
        exact .inr ⟨hrunning, (Option.some.inj h).symm⟩
      · rw [if_pos hrunning] at h
        exact .inl ⟨hrunning, (Option.some.inj h).symm⟩

/-!
## The servers
-/

/-- The server has yet to set the flag to 2.  One that does not get its
connection ends without. -/
def ServerPc.WillSignal (pc : ServerPc) : Prop :=
  pc ≠ .stopped ∧ pc ≠ .starting false

instance (pc : ServerPc) : Decidable pc.WillSignal := by
  unfold ServerPc.WillSignal
  infer_instance

def ServerPc.rank : ServerPc -> Nat
  | .stopped => 0
  | .closing => 1
  | .checkRunning => 2
  | .accepting => 3
  | .serving => 4
  | .handshaking => 5
  | .starting _ => 6

/-- A server that closes sets the flag to 2.  Any other leaves the flag, and it
comes closer to its end while the flag is 0.  One that gets no connection is at
its end at once. -/
theorem serverMove_cases {running running' : UInt32} {pc pc' : ServerPc}
    {e : ServerEvent} (h : serverMove running pc e = some (pc', running')) :
    (pc = .closing ∧ pc' = .stopped ∧ running' = 2) ∨
      (pc = .starting false ∧ pc' = .stopped ∧ running' = running) ∨
      (pc ≠ .closing ∧ pc.WillSignal ∧ pc'.WillSignal ∧ running' = running ∧
        (pc' = .closing -> running = 0) ∧
        (running = 0 -> pc'.rank < pc.rank)) := by
  unfold serverMove at h
  split at h <;> cases h
  case h_10 => exact .inl ⟨rfl, rfl, rfl⟩
  case h_2 => exact .inr (.inl ⟨rfl, rfl, rfl⟩)
  case h_1 => simp [ServerPc.rank, ServerPc.WillSignal]
  case h_3 => simp [ServerPc.rank, ServerPc.WillSignal]
  case h_8 => simp [ServerPc.rank, ServerPc.WillSignal]
  all_goals
    right
    right
    split <;> simp_all [ServerPc.rank, ServerPc.WillSignal]

theorem exists_serverMove (running : UInt32) {pc : ServerPc}
    (h : pc ≠ .stopped) :
    exists e next, serverMove running pc e = some next := by
  cases pc with
  | starting connects =>
      cases connects with
      | false => exact ⟨.connectFailed, _, rfl⟩
      | true => exact ⟨.listening, _, rfl⟩
  | accepting => exact ⟨.accepted, _, rfl⟩
  | checkRunning => exact ⟨.check, _, rfl⟩
  | handshaking => exact ⟨.handshake false, _, rfl⟩
  | serving => exact ⟨.recvFailed, _, rfl⟩
  | closing => exact ⟨.closed, _, rfl⟩
  | stopped => exact absurd rfl h

theorem serverStep_cases {i : Nat} {e : ServerEvent} {s s' : State}
    (h : serverStep i e s = some s') :
    exists pc pc' running, s.servers[i]? = some pc ∧
      serverMove s.running pc e = some (pc', running) ∧
      s' = { s with servers := s.servers.set i pc', running := running } := by
  unfold serverStep at h
  cases hpc : s.servers[i]? with
  | none => simp [hpc] at h
  | some pc =>
      simp only [hpc] at h
      cases hmove : serverMove s.running pc e with
      | none => simp [hmove] at h
      | some next =>
          rcases next with ⟨pc', running⟩
          simp only [hmove, Option.some.injEq] at h
          exact ⟨pc, pc', running, rfl, hmove, h.symm⟩

theorem serverStep_of_move {i : Nat} {e : ServerEvent} {s : State}
    {pc pc' : ServerPc} {running : UInt32} (hpc : s.servers[i]? = some pc)
    (hmove : serverMove s.running pc e = some (pc', running)) :
    serverStep i e s =
      some { s with servers := s.servers.set i pc', running := running } := by
  simp [serverStep, hpc, hmove]

end Connectivity
end Fluxnode
