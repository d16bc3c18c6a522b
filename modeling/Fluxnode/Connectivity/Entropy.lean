import Fluxnode.Connectivity.Calls

/-!
# A source of entropy for the random number generator

Without a radio the generator needs the bootloader's source.  `set_connectivity`
switches it when it changes the mode, but `wifi_configure` changes the mode too
when it fails, and leaves the source as it is.
-/

namespace Fluxnode
namespace Connectivity

/-- Without a connection the bootloader's source is enabled. -/
def HasEntropy (s : State) : Prop :=
  s.connectivity = notConnected -> s.randomEnabled = true

/-- A `wifiConfigure` that fails is made without a connection. -/
def FailsUnconnected (c : Call) (s : State) : Prop :=
  forall config, c = .wifiConfigure config -> config.succeeds = false ->
    s.connectivity = notConnected

/-!
## What every run keeps
-/

structure Disabled (s : State) : Prop where
  idle : s.pc = .idle -> s.connectivity ≠ notConnected ->
    s.randomEnabled = false
  stopping : forall newcon starts, s.pc = .stopping newcon starts ->
    s.randomEnabled = false

theorem disabled_initial : Disabled initial := by
  constructor
  · intro _ hmode
    exact absurd rfl hmode
  · intro newcon starts hpc
    cases hpc

theorem Disabled.call {c : Call} {s s' : State} (h : Disabled s)
    (hcall : callStep c s = some s') : Disabled s' := by
  have hpc := callStep_pc hcall
  cases c with
  | setConnectivity newcon starts =>
      rw [callStep_setConnectivity hpc] at hcall
      cases hcall
      by_cases hstops : Stops newcon s
      · have hmode : s.connectivity ≠ notConnected := by
          rw [hstops.2]
          decide
        rw [setConnectivity_of_stops hstops]
        constructor
        · intro hidle
          cases hidle
        · intro _ _ _
          exact h.idle hpc hmode
      · constructor
        · intro _ hmode
          rw [setConnectivity_connectivity hstops, ne_eq,
            toUInt32_eq_notConnected] at hmode
          rw [setConnectivity_randomEnabled hstops]
          by_cases hold : s.connectivity = notConnected
          · simp [hmode, hold]
          · simp [hmode, h.idle hpc hold]
        · intro old _ hstop
          rw [setConnectivity_pc hstops] at hstop
          cases hstop
  | wifiConfigure config =>
      rw [callStep_wifiConfigure hpc] at hcall
      cases hcall
      cases hsucceeds : config.succeeds with
      | false =>
          rw [wifiConfigure_of_fails hsucceeds]
          constructor
          · intro _ hmode
            exact absurd rfl hmode
          · exact h.stopping
      | true =>
          rw [wifiConfigure_of_succeeds hsucceeds]
          exact ⟨h.idle, h.stopping⟩

theorem Disabled.poll {s s' : State} (h : Disabled s)
    (hpoll : pollStep s = some s') : Disabled s' := by
  rcases pollStep_cases hpoll with ⟨newcon, starts, hpc, ⟨_, rfl⟩ | ⟨_, rfl⟩⟩
  · exact h
  · constructor
    · intro _ hmode
      rw [enterConnectivity_connectivity, ne_eq,
        toUInt32_eq_notConnected] at hmode
      rw [enterConnectivity_randomEnabled]
      simp [hmode, wifiConnectivityStop, h.stopping newcon starts hpc]
    · intro old _ hstop
      cases hstop

theorem Disabled.server {i : Nat} {e : ServerEvent} {s s' : State}
    (h : Disabled s) (hserver : serverStep i e s = some s') : Disabled s' := by
  rcases serverStep_cases hserver with ⟨_, _, _, _, _, rfl⟩
  exact ⟨h.idle, h.stopping⟩

theorem Disabled.step {a : Action} {s s' : State} (h : Disabled s)
    (hstep : step a s = some s') : Disabled s' := by
  cases a with
  | call c => exact h.call hstep
  | poll => exact h.poll hstep
  | server i e => exact h.server hstep

theorem After.disabled {cs : List Call} {s : State} (h : After cs s) :
    Disabled s :=
  h.invariant disabled_initial (fun _ _ _ hs hstep => hs.step hstep)

/-!
## What calls keep that fail only without a connection
-/

theorem hasEntropy_set {newcon : Int32} {starts : Bool} {s : State}
    (h : ¬ Stops newcon s) :
    HasEntropy (setConnectivity newcon starts s) := by
  intro hmode
  rw [setConnectivity_connectivity h, toUInt32_eq_notConnected] at hmode
  rw [setConnectivity_randomEnabled h]
  simp [hmode]

theorem hasEntropy_enter (newcon : Int32) (starts : Bool) (s : State) :
    HasEntropy (enterConnectivity newcon starts s) := by
  intro hmode
  rw [enterConnectivity_connectivity, toUInt32_eq_notConnected] at hmode
  rw [enterConnectivity_randomEnabled]
  simp [hmode]

theorem hasEntropy_call {c : Call} {s s' : State} (h : HasEntropy s)
    (hfails : FailsUnconnected c s) (hcall : callStep c s = some s') :
    HasEntropy s' := by
  have hpc := callStep_pc hcall
  cases c with
  | setConnectivity newcon starts =>
      rw [callStep_setConnectivity hpc] at hcall
      cases hcall
      by_cases hstops : Stops newcon s
      · rw [setConnectivity_of_stops hstops]
        exact h
      · exact hasEntropy_set hstops
  | wifiConfigure config =>
      rw [callStep_wifiConfigure hpc] at hcall
      cases hcall
      cases hsucceeds : config.succeeds with
      | false =>
          rw [wifiConfigure_of_fails hsucceeds]
          intro _
          exact h (hfails config rfl hsucceeds)
      | true =>
          rw [wifiConfigure_of_succeeds hsucceeds]
          exact h

theorem hasEntropy_poll {s s' : State} (h : HasEntropy s)
    (hpoll : pollStep s = some s') : HasEntropy s' := by
  rcases pollStep_cases hpoll with ⟨newcon, starts, _, ⟨_, rfl⟩ | ⟨_, rfl⟩⟩
  · exact h
  · exact hasEntropy_enter newcon starts _

theorem hasEntropy_server {i : Nat} {e : ServerEvent} {s s' : State}
    (h : HasEntropy s) (hserver : serverStep i e s = some s') :
    HasEntropy s' := by
  rcases serverStep_cases hserver with ⟨_, _, _, _, _, rfl⟩
  exact h

/-!
## The exact condition
-/

theorem not_hasEntropy_of_fails {c : Call} {s : State} (h : Disabled s)
    (hpc : s.pc = .idle) (hfails : ¬ FailsUnconnected c s) :
    exists s', callStep c s = some s' ∧ s'.pc = .idle ∧ ¬ HasEntropy s' := by
  unfold FailsUnconnected at hfails
  push Not at hfails
  rcases hfails with ⟨config, rfl, hsucceeds, hmode⟩
  refine ⟨_, callStep_wifiConfigure hpc, ?_, ?_⟩
  · rw [wifiConfigure_of_fails hsucceeds]
    exact hpc
  · rw [wifiConfigure_of_fails hsucceeds]
    intro hentropy
    have henabled : s.randomEnabled = true := hentropy rfl
    rw [h.idle hpc hmode] at henabled
    cases henabled

theorem hasEntropy_throughout_iff (cs : List Call) :
    HoldsThroughout HasEntropy cs <-> EachCall FailsUnconnected cs := by
  constructor
  · apply eachCall_of_holdsThroughout
    intro before c s hafter hpc _ hfails
    rcases not_hasEntropy_of_fails hafter.disabled hpc hfails with
      ⟨s', hcall, hpc', hnot⟩
    exact ⟨s', hafter.call hcall, hpc', hnot⟩
  · refine holdsThroughout_of_eachCall (fun _ => rfl) ?_ ?_ ?_
      (fun _ (hs : HasEntropy _) _ => hs)
    · intro c s s' hs hfails hcall
      exact hasEntropy_call hs hfails hcall
    · intro s s' hs hpoll
      exact hasEntropy_poll hs hpoll
    · intro i e s s' hs hserver
      exact hasEntropy_server hs hserver

def shortPassword : List Call :=
  [.setConnectivity 1 true,
    .wifiConfigure
      { ssid := [0x66]
        pass := [0x66, 0x6c, 0x75, 0x78, 0x75, 0x6c, 0x66]
        mode := 0
        webmode := 1
        wifiStarts := true
        serverStarts := true
        serverConnects := true
        webStarts := true
        udpStarts := true }]

theorem shortPassword_without_entropy :
    ¬ HoldsThroughout HasEntropy shortPassword := by
  intro h
  have hafter : After shortPassword
      { initial with randomEnabled := false } :=
    ⟨shortPassword.map Action.call, by decide, by decide⟩
  have hentropy := h shortPassword [] _ (by simp) hafter rfl rfl
  exact absurd hentropy (by decide)

end Connectivity
end Fluxnode
