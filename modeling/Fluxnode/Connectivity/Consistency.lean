import Fluxnode.Connectivity.Shutdown

/-!
# Mode, services and send function

The mode says which services run and where messages go, as long as every call
fits the mode that it finds.
-/

namespace Fluxnode
namespace Connectivity

open Foundation

/-- The websocket server, the web server or the UDP service runs. -/
def ServicesRun (s : State) : Prop :=
  Alive s ∨ s.webserver.isSome = true ∨ s.udpRunning = true

structure Consistent (s : State) : Prop where
  wifiOnly : ServicesRun s -> s.connectivity = wifi
  bleRunning : s.bleRunning = true <-> s.connectivity = ble
  known : s.connectivity = notConnected ∨ s.connectivity = wifi ∨
    s.connectivity = ble
  sendBle : s.bleRunning = true -> s.sendFunc = some .bleServerSend
  sendWifi : ServicesRun s -> s.sendFunc = some .websocketSend
  sendNone : s.bleRunning = false -> ¬ ServicesRun s -> s.sendFunc = none

def AtMostOneAlive (s : State) : Prop :=
  forall (i j : Nat) (pc pc' : ServerPc), s.servers[i]? = some pc ->
    s.servers[j]? = some pc' -> pc.WillSignal -> pc'.WillSignal -> i = j

def WifiConfig.serves (c : WifiConfig) : Prop :=
  c.serverLives = true ∨ c.webStarts = true ∨ c.udpStarts = true

/--
A known mode, wifi only while its services do not run, and wifi is left with one
server at most.  BLE only where its server starts or runs already, or where the
call does not return.  A configuration succeeds in the mode wifi only, with a
service that starts or runs already, and it fails only while nothing runs.
-/
def Fits : Call -> State -> Prop
  | .setConnectivity newcon starts, s =>
      (newcon = 0 ∨ newcon = 1 ∨ newcon = 2) ∧
        (newcon = 1 -> ¬ ServicesRun s) ∧
        (newcon = 2 -> starts = true ∨ s.bleRunning = true ∨
          (Stops newcon s ∧ ¬ Alive s)) ∧
        (Stops newcon s -> AtMostOneAlive s)
  | .wifiConfigure c, s =>
      (c.succeeds = true ->
        s.connectivity = wifi ∧ (c.serves ∨ ServicesRun s)) ∧
        (c.succeeds = false -> ¬ ServicesRun s ∧ s.bleRunning = false)

/-!
## Consistent states
-/

theorem Consistent.not_servicesRun {s : State} (h : Consistent s)
    (hmode : s.connectivity ≠ wifi) : ¬ ServicesRun s :=
  fun hrun => hmode (h.wifiOnly hrun)

theorem Consistent.ble_stopped {s : State} (h : Consistent s)
    (hmode : s.connectivity ≠ ble) : s.bleRunning = false :=
  Bool.eq_false_iff.mpr (fun hrun => hmode (h.bleRunning.mp hrun))

theorem consistent_of_quiet {s : State} (hservices : ¬ ServicesRun s)
    (hble : s.bleRunning = true <-> s.connectivity = ble)
    (hknown : s.connectivity = notConnected ∨ s.connectivity = wifi ∨
      s.connectivity = ble)
    (hsend : s.sendFunc =
      if s.bleRunning then some .bleServerSend else none) : Consistent s := by
  constructor
  · intro hrun
    exact absurd hrun hservices
  · exact hble
  · exact hknown
  · intro hrun
    simp [hsend, hrun]
  · intro hrun
    exact absurd hrun hservices
  · intro hstopped _
    simp [hsend, hstopped]

theorem consistent_entered {newcon : Int32} {s : State}
    (hnewcon : newcon = 0 ∨ newcon = 1 ∨ newcon = 2)
    (hservices : ¬ ServicesRun s) (hmode : s.connectivity = newcon.toUInt32)
    (hble : s.bleRunning = decide (newcon = 2))
    (hsend : s.sendFunc =
      if newcon = 2 then some .bleServerSend else none) : Consistent s := by
  refine consistent_of_quiet hservices ?_ ?_ ?_
  · rw [hmode, toUInt32_eq_ble, hble, decide_eq_true_iff]
  · rw [hmode, toUInt32_eq_notConnected, toUInt32_eq_wifi, toUInt32_eq_ble]
    exact hnewcon
  · rw [hsend, hble]
    simp

theorem servicesRun_setConnectivity {newcon : Int32} {starts : Bool}
    {s : State} (h : ¬ Stops newcon s) :
    ServicesRun (setConnectivity newcon starts s) <-> ServicesRun s := by
  unfold ServicesRun Alive
  rw [setConnectivity_servers h, setConnectivity_webserver h,
    setConnectivity_udpRunning h]

theorem servicesRun_wifiConfigure {c : WifiConfig} (h : c.succeeds = true)
    (s : State) :
    ServicesRun (wifiConfigure c s) <-> c.serves ∨ ServicesRun s := by
  have hweb : (if c.webStarts then some c.webmode else s.webserver).isSome =
      true <-> c.webStarts = true ∨ s.webserver.isSome = true := by
    cases c.webStarts <;> simp
  unfold ServicesRun WifiConfig.serves
  rw [alive_wifiConfigure h, wifiConfigure_of_succeeds h, hweb,
    Bool.or_eq_true]
  tauto

/-!
## Calls that fit
-/

/-- While wifi is stopped: the flag is set by the last server only. -/
structure StoppingLast (newcon : Int32) (starts : Bool) (s : State) :
    Prop where
  target : newcon = 0 ∨ newcon = 2
  ble : s.bleRunning = false
  bleStarts : newcon = 2 -> starts = true ∨ Deserted newcon starts s
  last : AtMostOneAlive s
  set : s.running = 2 -> ¬ Alive s

/-- Between the calls no server is about to end. -/
structure Settled (s : State) : Prop where
  consistent : s.pc = .idle -> Consistent s
  unaware : s.pc = .idle -> forall pc, pc ∈ s.servers -> pc ≠ .closing
  flag : s.pc = .idle -> Alive s -> s.running ≠ 0
  stopping : forall newcon starts, s.pc = .stopping newcon starts ->
    StoppingLast newcon starts s

theorem settled_initial : Settled initial := by
  have hnone : ¬ Alive initial := by
    intro halive
    rcases halive with ⟨pc, hmem, _⟩
    cases hmem
  have hservices : ¬ ServicesRun initial := by
    intro hrun
    rcases hrun with halive | hweb | hudp
    · exact hnone halive
    · cases hweb
    · cases hudp
  constructor
  · intro _
    exact consistent_entered (.inl rfl) hservices rfl rfl rfl
  · intro _ pc hmem
    cases hmem
  · intro _ halive
    exact absurd halive hnone
  · intro newcon starts hpc
    cases hpc

theorem Settled.setConnectivity {newcon : Int32} {starts : Bool} {s : State}
    (h : Settled s) (hpc : s.pc = .idle)
    (hfits : Fits (.setConnectivity newcon starts) s) :
    Settled (setConnectivity newcon starts s) := by
  rcases hfits with ⟨hnewcon, hwifi, hstarts, hlast⟩
  have hs := h.consistent hpc
  by_cases hstops : Stops newcon s
  · rw [setConnectivity_of_stops hstops]
    constructor
    · intro hidle
      cases hidle
    · intro hidle
      cases hidle
    · intro hidle
      cases hidle
    · intro other _ hother
      cases hother
      have hble : s.bleRunning = false := by
        apply hs.ble_stopped
        rw [hstops.2]
        exact wifi_ne_ble
      refine ⟨hstops.1, hble, ?_, hlast hstops, ?_⟩
      · intro htwo
        rcases hstarts htwo with hstart | hrun | ⟨_, hnone⟩
        · exact .inl hstart
        · exact absurd (hble.symm.trans hrun) Bool.false_ne_true
        · exact .inr ⟨rfl, rfl, hnone⟩
      · intro hset
        exact absurd hset (show (0 : UInt32) ≠ 2 by decide)
  · have hservices : ¬ ServicesRun s := by
      rcases hnewcon with hnewcon | hnewcon | hnewcon
      · exact hs.not_servicesRun (fun hmode => hstops ⟨.inl hnewcon, hmode⟩)
      · exact hwifi hnewcon
      · exact hs.not_servicesRun (fun hmode => hstops ⟨.inr hnewcon, hmode⟩)
    have hble : (s.bleRunning && decide (s.connectivity ≠ ble)) = false := by
      by_cases hmode : s.connectivity = ble
      · simp [hmode]
      · simp [hs.ble_stopped hmode]
    constructor
    · intro _
      refine consistent_entered hnewcon ?_ (setConnectivity_connectivity hstops)
        ?_ ?_
      · rw [servicesRun_setConnectivity hstops]
        exact hservices
      · rw [setConnectivity_bleRunning hstops]
        rcases hnewcon with rfl | rfl | rfl
        · simpa using hble
        · simpa using hble
        · rcases hstarts rfl with hstart | hrun | ⟨hstop, _⟩
          · simp [hstart]
          · simp [hrun]
          · exact absurd hstop hstops
      · rw [setConnectivity_sendFunc hstops]
        rcases hnewcon with rfl | rfl | rfl <;> rfl
    · intro _
      rw [setConnectivity_servers hstops]
      exact h.unaware hpc
    · intro _ halive
      exact absurd (.inl halive)
        ((servicesRun_setConnectivity hstops).not.mpr hservices)
    · intro other _ hother
      rw [setConnectivity_pc hstops] at hother
      cases hother

theorem Settled.wifiConfigure {c : WifiConfig} {s : State} (h : Settled s)
    (hpc : s.pc = .idle) (hfits : Fits (.wifiConfigure c) s) :
    Settled (wifiConfigure c s) := by
  rcases hfits with ⟨hmode, hquiet⟩
  have hs := h.consistent hpc
  cases hsucceeds : c.succeeds with
  | false =>
      rcases hquiet hsucceeds with ⟨hservices, hble⟩
      have hsend := hs.sendNone hble hservices
      rw [wifiConfigure_of_fails hsucceeds]
      constructor
      · intro _
        exact consistent_entered (.inl rfl) hservices rfl hble hsend
      · exact h.unaware
      · exact h.flag
      · exact fun newcon _ hstop => absurd (hstop.symm.trans hpc) (by simp)
  | true =>
      rcases hmode hsucceeds with ⟨hwifi, hserves⟩
      have hservices := (servicesRun_wifiConfigure hsucceeds s).mpr hserves
      have hble : s.bleRunning = false := by
        apply hs.ble_stopped
        rw [hwifi]
        exact wifi_ne_ble
      rw [wifiConfigure_of_succeeds hsucceeds] at hservices ⊢
      constructor
      · intro _
        constructor
        · exact fun _ => hwifi
        · exact hs.bleRunning
        · exact hs.known
        · intro hrun
          exact absurd (hble.symm.trans hrun) Bool.false_ne_true
        · exact fun _ => rfl
        · intro _ hnone
          exact absurd hservices hnone
      · intro _ pc hmem
        cases hstarts : c.serverStarts with
        | false =>
            simp only [hstarts, Bool.false_eq_true, if_false] at hmem
            exact h.unaware hpc pc hmem
        | true =>
            simp only [hstarts, if_true] at hmem
            rcases List.mem_append.mp hmem with hold | hnew
            · exact h.unaware hpc pc hold
            · rw [List.mem_singleton.mp hnew]
              intro hclosing
              cases hclosing
      · intro _ _
        exact show (1 : UInt32) ≠ 0 by decide
      · exact fun newcon _ hstop => absurd (hstop.symm.trans hpc) (by simp)

theorem Settled.poll {s s' : State} (h : Settled s)
    (hpoll : pollStep s = some s') : Settled s' := by
  rcases pollStep_cases hpoll with ⟨newcon, starts, hpc, ⟨_, rfl⟩ | ⟨hset, rfl⟩⟩
  · exact h
  · have hlast := h.stopping newcon starts hpc
    have hnone :
        ¬ Alive (enterConnectivity newcon starts (wifiConnectivityStop s)) := by
      unfold Alive
      rw [enterConnectivity_servers]
      exact hlast.set hset
    have hservices :
        ¬ ServicesRun
          (enterConnectivity newcon starts (wifiConnectivityStop s)) := by
      intro hrun
      rcases hrun with halive | hweb | hudp
      · exact hnone halive
      · rw [enterConnectivity_webserver] at hweb
        cases hweb
      · rw [enterConnectivity_udpRunning] at hudp
        cases hudp
    constructor
    · intro _
      refine consistent_entered ?_ hservices rfl ?_ ?_
      · rcases hlast.target with hzero | htwo
        · exact .inl hzero
        · exact .inr (.inr htwo)
      · rw [enterConnectivity_bleRunning]
        by_cases htwo : newcon = 2
        · rcases hlast.bleStarts htwo with hstart | ⟨_, hzero, _⟩
          · simp [htwo, hstart]
          · rw [hset] at hzero
            exact absurd hzero (by decide)
        · simp [wifiConnectivityStop, hlast.ble, htwo]
      · rw [enterConnectivity_sendFunc]
        rcases hlast.target with rfl | rfl <;> rfl
    · intro _ pc hmem hclosing
      exact hnone ⟨pc, hmem, by simp [hclosing, ServerPc.WillSignal]⟩
    · intro _ halive
      exact absurd halive hnone
    · intro other _ hother
      cases hother

theorem willSignal_before {l : List ServerPc} {i k : Nat} {pc pc' x : ServerPc}
    {running running' : UInt32} {e : ServerEvent} (hpc : l[i]? = some pc)
    (hmove : serverMove running pc e = some (pc', running'))
    (hx : (l.set i pc')[k]? = some x) (hsignal : x.WillSignal) :
    exists y, l[k]? = some y ∧ y.WillSignal := by
  by_cases hik : i = k
  · subst hik
    rw [getElem?_set_self_of_some pc' hpc] at hx
    cases hx
    rcases serverMove_cases hmove with
      ⟨_, rfl, _⟩ | ⟨_, rfl, _⟩ | ⟨_, hbefore, _, _, _, _⟩
    · exact absurd rfl hsignal.1
    · exact absurd rfl hsignal.1
    · exact ⟨pc, hpc, hbefore⟩
  · rw [List.getElem?_set_ne hik] at hx
    exact ⟨x, hx, hsignal⟩

theorem alive_before {i : Nat} {e : ServerEvent} {s s' : State}
    (h : serverStep i e s = some s') (halive : Alive s') : Alive s := by
  rcases serverStep_cases h with ⟨pc, pc', _, hpc, hmove, rfl⟩
  rcases halive with ⟨x, hmem, hsignal⟩
  rcases List.mem_iff_getElem?.mp hmem with ⟨k, hx⟩
  rcases willSignal_before hpc hmove hx hsignal with ⟨y, hy, hbefore⟩
  exact Alive.of_getElem? hy hbefore

theorem StoppingLast.server {newcon : Int32} {starts : Bool} {i : Nat}
    {e : ServerEvent} {s s' : State} (h : StoppingLast newcon starts s)
    (hserver : serverStep i e s = some s') : StoppingLast newcon starts s' := by
  have hbefore := alive_before hserver
  have hdeserted := fun hd : Deserted newcon starts s => hd.server hserver
  rcases serverStep_cases hserver with ⟨pc, pc', running, hpc, hmove, rfl⟩
  constructor
  · exact h.target
  · exact h.ble
  · exact fun htwo => (h.bleStarts htwo).imp_right hdeserted
  · intro j k x y hx hy hxsignal hysignal
    rcases willSignal_before hpc hmove hx hxsignal with ⟨x', hx', hxbefore⟩
    rcases willSignal_before hpc hmove hy hysignal with ⟨y', hy', hybefore⟩
    exact h.last j k x' y' hx' hy' hxbefore hybefore
  · rcases serverMove_cases hmove with
      ⟨rfl, rfl, _⟩ | ⟨_, _, rfl⟩ | ⟨_, hsignal, _, rfl, _, _⟩
    · intro _ hlast
      rcases hlast with ⟨x, hmem, hxsignal⟩
      rcases List.mem_iff_getElem?.mp hmem with ⟨k, hx⟩
      rcases willSignal_before hpc hmove hx hxsignal with ⟨y, hy, hybefore⟩
      have hik := h.last i k _ y hpc hy (by decide) hybefore
      subst hik
      rw [getElem?_set_self_of_some _ hpc] at hx
      exact hxsignal.1 (Option.some.inj hx).symm
    · intro hset halive
      exact h.set hset (hbefore halive)
    · intro hset
      exact absurd (Alive.of_getElem? hpc hsignal) (h.set hset)

/-- The services are the same where a server ends without a connection. -/
theorem Consistent.congr {s s' : State} (h : Consistent s)
    (hservices : ServicesRun s' <-> ServicesRun s)
    (hmode : s'.connectivity = s.connectivity)
    (hble : s'.bleRunning = s.bleRunning)
    (hsend : s'.sendFunc = s.sendFunc) : Consistent s' := by
  constructor
  · rw [hservices, hmode]
    exact h.wifiOnly
  · rw [hble, hmode]
    exact h.bleRunning
  · rw [hmode]
    exact h.known
  · rw [hble, hsend]
    exact h.sendBle
  · rw [hservices, hsend]
    exact h.sendWifi
  · rw [hservices, hble, hsend]
    exact h.sendNone

theorem Settled.idle_server {i : Nat} {e : ServerEvent} {s s' : State}
    (h : Settled s) (hpc : s.pc = .idle)
    (hserver : serverStep i e s = some s') :
    (Alive s' <-> Alive s) ∧ s'.running = s.running ∧
      forall pc, pc ∈ s'.servers -> pc ≠ .closing := by
  have hbefore := alive_before hserver
  rcases serverStep_cases hserver with ⟨pc, pc', running, hi, hmove, rfl⟩
  rcases serverMove_cases hmove with
    ⟨rfl, _, _⟩ | ⟨rfl, rfl, rfl⟩ | ⟨_, hsignal, hsignal', rfl, hclosing, _⟩
  · exact absurd rfl (h.unaware hpc _ (List.mem_of_getElem? hi))
  · refine ⟨⟨hbefore, fun halive => halive.set_of_doomed hi⟩, rfl, ?_⟩
    intro x hmem
    rcases List.mem_or_eq_of_mem_set hmem with hold | rfl
    · exact h.unaware hpc x hold
    · decide
  · have halive : Alive s := Alive.of_getElem? hi hsignal
    refine ⟨⟨hbefore, fun _ => ?_⟩, rfl, ?_⟩
    · exact Alive.of_getElem? (getElem?_set_self_of_some pc' hi) hsignal'
    · intro x hmem
      rcases List.mem_or_eq_of_mem_set hmem with hold | rfl
      · exact h.unaware hpc x hold
      · exact fun hclose => h.flag hpc halive (hclosing hclose)

theorem Settled.server {i : Nat} {e : ServerEvent} {s s' : State}
    (h : Settled s) (hserver : serverStep i e s = some s') : Settled s' := by
  have hframe :
      s' = { s with servers := s'.servers, running := s'.running } := by
    rcases serverStep_cases hserver with ⟨_, _, _, _, _, rfl⟩
    rfl
  have hsame : s'.pc = s.pc := by
    rw [hframe]
  constructor
  · intro hpc
    rw [hsame] at hpc
    refine (h.consistent hpc).congr ?_ (by rw [hframe]) (by rw [hframe])
      (by rw [hframe])
    unfold ServicesRun
    rw [(h.idle_server hpc hserver).1, hframe]
  · intro hpc
    exact (h.idle_server (hsame.symm.trans hpc) hserver).2.2
  · intro hpc halive
    rcases h.idle_server (hsame.symm.trans hpc) hserver with ⟨hsome, hflag, _⟩
    rw [hflag]
    exact h.flag (hsame.symm.trans hpc) (hsome.mp halive)
  · intro newcon starts hstop
    rw [hsame] at hstop
    exact (h.stopping newcon starts hstop).server hserver

/-!
## Calls that do not fit
-/

/-- Server `i` ends while server `j` does not move. -/
def EndsBeside (i j : Nat) (s : State) : Prop :=
  (exists pc, s.servers[j]? = some pc ∧ pc.WillSignal) ∧
    (s.running = 2 ∨ (s.running = 0 ∧
      exists pc, s.servers[i]? = some pc ∧ pc.WillSignal))

theorem EndsBeside.exists_step {i j : Nat} {s : State} (hij : i ≠ j)
    (h : EndsBeside i j s) (hset : s.running ≠ 2) :
    exists p s', anyServer p s = some s' ∧ EndsBeside i j s' ∧
      serversRank s' < serversRank s := by
  rcases h with ⟨⟨pcj, hj, hjsignal⟩, htwo | ⟨hzero, pc, hi, hsignal⟩⟩
  · exact absurd htwo hset
  · rcases exists_serverMove s.running hsignal.1 with
      ⟨e, ⟨pc', running⟩, hmove⟩
    have hj' : (s.servers.set i pc')[j]? = some pcj := by
      rw [List.getElem?_set_ne hij]
      exact hj
    rcases serverMove_cases hmove with
      ⟨rfl, rfl, rfl⟩ | ⟨rfl, _, _⟩ | ⟨_, _, hsignal', rfl, _, hrank⟩
    · exact ⟨(i, e), _, serverStep_of_move hi hmove,
        ⟨⟨pcj, hj', hjsignal⟩, .inl rfl⟩,
        sum_map_set_lt hi (by simp [ServerPc.rank])⟩
    · exact absurd rfl hsignal.2
    · exact ⟨(i, e), _, serverStep_of_move hi hmove,
        ⟨⟨pcj, hj', hjsignal⟩,
          .inr ⟨hzero, pc', getElem?_set_self_of_some pc' hi, hsignal'⟩⟩,
        sum_map_set_lt hi (hrank hzero)⟩

/-- With two servers, the stop can end while one of them goes on. -/
theorem After.stop_beside {cs : List Call} {newcon : Int32} {starts : Bool}
    {s : State} (h : After cs s) (hpc : s.pc = .idle)
    (hstops : Stops newcon s) (hmany : ¬ AtMostOneAlive s) :
    exists s', After (cs ++ [.setConnectivity newcon starts]) s' ∧
      s'.pc = .idle ∧ s'.connectivity = newcon.toUInt32 ∧ Alive s' := by
  unfold AtMostOneAlive at hmany
  push Not at hmany
  rcases hmany with ⟨i, j, pc, pcj, hi, hj, hsignal, hjsignal, hij⟩
  have hbeside : EndsBeside i j (websocketStop newcon starts s) :=
    ⟨⟨pcj, hj, hjsignal⟩, .inr ⟨rfl, pc, hi, hsignal⟩⟩
  rcases exists_runAll_of_rank serversRank
      (fun s hs hnot => hs.exists_step hij hnot) hbeside with
    ⟨ps, last, hrun, ⟨⟨x, hx, hxsignal⟩, _⟩, hset⟩
  refine ⟨_, h.loopEnded hpc hstops hrun hset, rfl, rfl, ?_⟩
  unfold Alive
  rw [enterConnectivity_servers]
  exact Alive.of_getElem? hx hxsignal

theorem not_fits_of_stops {newcon : Int32} {starts : Bool} {s : State}
    (hstops : Stops newcon s)
    (hmisfit : ¬ Fits (.setConnectivity newcon starts) s) :
    ¬ AtMostOneAlive s ∨
      (newcon = 2 ∧ starts = false ∧ s.bleRunning = false ∧ Alive s) := by
  by_contra hnot
  rw [not_or, not_not] at hnot
  rcases hnot with ⟨hlast, hble⟩
  refine hmisfit ⟨?_, ?_, ?_, fun _ => hlast⟩
  · rcases hstops.1 with hzero | htwo
    · exact .inl hzero
    · exact .inr (.inr htwo)
  · intro hone
    rw [hone] at hstops
    exact absurd hstops (not_stops_one s)
  · intro htwo
    by_contra hmiss
    rw [not_or, not_or, Bool.not_eq_true, Bool.not_eq_true, not_and,
      not_not] at hmiss
    exact hble ⟨htwo, hmiss.1, hmiss.2.1, hmiss.2.2 hstops⟩

theorem exists_inconsistent_stop {cs : List Call} {newcon : Int32}
    {starts : Bool} {s : State} (h : After cs s) (hpc : s.pc = .idle)
    (hstops : Stops newcon s)
    (hmisfit : ¬ Fits (.setConnectivity newcon starts) s) :
    exists s', After (cs ++ [.setConnectivity newcon starts]) s' ∧
      s'.pc = .idle ∧ ¬ Consistent s' := by
  rcases not_fits_of_stops hstops hmisfit with
    hmany | ⟨rfl, rfl, hble, halive⟩
  · rcases h.stop_beside hpc hstops hmany with ⟨s', hs', hidle, hmode, halive⟩
    refine ⟨s', hs', hidle, ?_⟩
    intro hconsistent
    have hwifi := hconsistent.wifiOnly (.inl halive)
    rw [hmode, toUInt32_eq_wifi] at hwifi
    rw [hwifi] at hstops
    exact not_stops_one s hstops
  · rcases @After.stop _ _ false _ h hpc hstops halive with
      ⟨s', hs', hidle, hmode, hrun, _⟩
    refine ⟨s', hs', hidle, ?_⟩
    intro hconsistent
    rw [hconsistent.bleRunning.mpr (hmode.trans (toUInt32_eq_ble.mpr rfl)),
      hble] at hrun
    cases hrun

theorem exists_inconsistent_set {cs : List Call} {newcon : Int32}
    {starts : Bool} {s : State} (h : After cs s) (hpc : s.pc = .idle)
    (hmisfit : ¬ Fits (.setConnectivity newcon starts) s) :
    exists s', After (cs ++ [.setConnectivity newcon starts]) s' ∧
      s'.pc = .idle ∧ ¬ Consistent s' := by
  by_cases hstops : Stops newcon s
  · exact exists_inconsistent_stop h hpc hstops hmisfit
  · refine ⟨_, h.call (callStep_setConnectivity hpc),
      setConnectivity_pc hstops, ?_⟩
    intro hconsistent
    have hknown := hconsistent.known
    rw [setConnectivity_connectivity hstops, toUInt32_eq_notConnected,
      toUInt32_eq_wifi, toUInt32_eq_ble] at hknown
    refine hmisfit ⟨hknown, ?_, ?_, fun hstop => absurd hstop hstops⟩
    · intro hone hservices
      have hsend := hconsistent.sendWifi
        ((servicesRun_setConnectivity hstops).mpr hservices)
      rw [setConnectivity_sendFunc hstops, if_pos (.inr hone)] at hsend
      cases hsend
    · intro htwo
      have hrun := hconsistent.bleRunning.mpr
        ((setConnectivity_connectivity hstops).trans
          (toUInt32_eq_ble.mpr htwo))
      rw [setConnectivity_bleRunning hstops] at hrun
      rcases (Bool.or_eq_true _ _).mp hrun with hstart | hold
      · exact .inl ((Bool.and_eq_true _ _).mp hstart).2
      · exact .inr (.inl ((Bool.and_eq_true _ _).mp hold).1)

theorem not_consistent_configured {c : WifiConfig} {s : State}
    (hmisfit : ¬ Fits (.wifiConfigure c) s) :
    ¬ Consistent (wifiConfigure c s) := by
  intro hconsistent
  cases hsucceeds : c.succeeds with
  | false =>
      rw [wifiConfigure_of_fails hsucceeds] at hconsistent
      refine hmisfit ⟨?_, fun _ => ⟨?_, ?_⟩⟩
      · rw [hsucceeds]
        intro htrue
        cases htrue
      · exact hconsistent.not_servicesRun wifi_ne_notConnected.symm
      · exact hconsistent.ble_stopped notConnected_ne_ble
  | true =>
      have hservices : ServicesRun (wifiConfigure c s) := by
        -- the send function is websocket_send
        by_contra hnone
        have hsend : (wifiConfigure c s).sendFunc = some .websocketSend := by
          rw [wifiConfigure_of_succeeds hsucceeds]
        cases hble : (wifiConfigure c s).bleRunning with
        | false =>
            rw [hconsistent.sendNone hble hnone] at hsend
            cases hsend
        | true =>
            rw [hconsistent.sendBle hble] at hsend
            cases hsend
      refine hmisfit ⟨fun _ => ⟨?_, ?_⟩, ?_⟩
      · have hwifi := hconsistent.wifiOnly hservices
        rw [wifiConfigure_of_succeeds hsucceeds] at hwifi
        exact hwifi
      · exact (servicesRun_wifiConfigure hsucceeds s).mp hservices
      · rw [hsucceeds]
        intro hfalse
        cases hfalse

theorem consistent_throughout_iff (cs : List Call) :
    HoldsThroughout Consistent cs <-> EachCall Fits cs := by
  constructor
  · apply eachCall_of_holdsThroughout
    intro before c s hafter hpc _ hmisfit
    cases c with
    | setConnectivity newcon starts =>
        exact exists_inconsistent_set hafter hpc hmisfit
    | wifiConfigure config =>
        exact ⟨_, hafter.call (callStep_wifiConfigure hpc),
          (wifiConfigure_pc config s).trans hpc,
          not_consistent_configured hmisfit⟩
  · refine holdsThroughout_of_eachCall settled_initial ?_ ?_ ?_
      (fun s hs hpc => hs.consistent hpc)
    · intro c s s' hs hfits hcall
      have hpc := callStep_pc hcall
      cases c with
      | setConnectivity newcon starts =>
          rw [callStep_setConnectivity hpc] at hcall
          cases hcall
          exact hs.setConnectivity hpc hfits
      | wifiConfigure config =>
          rw [callStep_wifiConfigure hpc] at hcall
          cases hcall
          exact hs.wifiConfigure hpc hfits
    · intro s s' hs hpoll
      exact hs.poll hpoll
    · intro i e s s' hs hserver
      exact hs.server hserver

/-- Configure wifi, then configure it again with a password of seven
characters. -/
def failsWhileRunning : List Call :=
  [.setConnectivity 1 true,
    .wifiConfigure
      { ssid := [0x66]
        pass := []
        mode := 0
        webmode := 1
        wifiStarts := true
        serverStarts := true
        serverConnects := true
        webStarts := true
        udpStarts := true },
    .wifiConfigure
      { ssid := [0x66]
        pass := [0x66, 0x6c, 0x75, 0x78, 0x75, 0x6c, 0x66]
        mode := 0
        webmode := 1
        wifiStarts := true
        serverStarts := true
        serverConnects := true
        webStarts := true
        udpStarts := true }]

theorem failsWhileRunning_inconsistent :
    ¬ HoldsThroughout Consistent failsWhileRunning := by
  intro h
  have hafter : After failsWhileRunning
      { initial with
        randomEnabled := false
        sendFunc := some .websocketSend
        webserver := some 1
        udpRunning := true
        wsServerCfg := true
        running := 1
        servers := [.starting true] } :=
    ⟨failsWhileRunning.map Action.call, by decide, by decide⟩
  have hconsistent := h failsWhileRunning [] _ (by simp) hafter rfl
  exact absurd (hconsistent.wifiOnly (.inr (.inr rfl))) (by decide)

end Connectivity
end Fluxnode
