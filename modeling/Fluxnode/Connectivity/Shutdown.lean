import Fluxnode.Connectivity.Calls
import Fluxnode.Foundation.Inevitable
import Mathlib.Algebra.GroupWithZero.Nat

/-!
# Stopping wifi

`websocket_stop` clears the flag and waits until a server sets it to 2.  Which
servers run depends on the calls before: each `wifiConfigure` that succeeds
starts one, unless its task cannot be created or gets no connection, and a
server that sees the cleared flag ends.
-/

namespace Fluxnode
namespace Connectivity

open Foundation

/-!
## The protocol of the flag
-/

def Alive (s : State) : Prop :=
  exists pc, pc ∈ s.servers ∧ pc.WillSignal

def LoopEnds (s : State) : Prop :=
  exists s', pollStep s = some s' ∧ s'.pc = .idle

def anyServer (p : Nat × ServerEvent) : State -> Option State :=
  serverStep p.1 p.2

/-- If the call waits in `websocket_stop`, then it is made while a server is
alive, and whatever the servers do the loop ends. -/
def StopEnds (c : Call) (s : State) : Prop :=
  forall s', callStep c s = some s' -> s'.pc ≠ .idle ->
    Alive s ∧ Inevitable anyServer LoopEnds s'

/-!
## The calls so far
-/

/-- The websocket server that a successful call starts stays. -/
def WifiConfig.serverLives (c : WifiConfig) : Bool :=
  c.serverStarts && c.serverConnects

/-- The mode, and whether a `wifiConfigure` succeeded and its server stayed
since wifi was last stopped. -/
structure Mode where
  connectivity : ConnectivityT
  served : Bool
  deriving DecidableEq, Repr

def Mode.stops (newcon : Int32) (m : Mode) : Prop :=
  (newcon = 0 ∨ newcon = 2) ∧ m.connectivity = wifi

instance (newcon : Int32) (m : Mode) : Decidable (m.stops newcon) := by
  unfold Mode.stops
  infer_instance

def Mode.next (m : Mode) : Call -> Mode
  | .setConnectivity newcon _ =>
      { connectivity := newcon.toUInt32
        served := m.served && !decide (m.stops newcon) }
  | .wifiConfigure c =>
      if c.succeeds then
        { m with served := m.served || c.serverLives }
      else
        { m with connectivity := notConnected }

def modeAfter (cs : List Call) : Mode :=
  cs.foldl Mode.next { connectivity := notConnected, served := false }

theorem modeAfter_snoc (cs : List Call) (c : Call) :
    modeAfter (cs ++ [c]) = (modeAfter cs).next c := by
  simp [modeAfter, List.foldl_append]

/-- Each call that stops wifi comes after a `wifiConfigure` that succeeded, with
a server that stays, since wifi was last stopped. -/
def EachStopServed (cs : List Call) : Prop :=
  forall before newcon bleStarts after,
    before ++ .setConnectivity newcon bleStarts :: after = cs ->
    (modeAfter before).stops newcon -> (modeAfter before).served = true

/-!
## The rank of the servers
-/

def serversRank (s : State) : Nat :=
  (s.servers.map ServerPc.rank).sum

theorem sum_map_set_lt {α : Type _} {f : α -> Nat} {l : List α} {i : Nat}
    {x y : α} (hx : l[i]? = some x) (hlower : f y < f x) :
    ((l.set i y).map f).sum < (l.map f).sum := by
  induction l generalizing i with
  | nil => simp at hx
  | cons first rest ih =>
      cases i with
      | zero =>
          simp only [List.getElem?_cons_zero, Option.some.injEq] at hx
          subst hx
          simpa using hlower
      | succ i =>
          rw [List.getElem?_cons_succ] at hx
          have hrest := ih hx
          simp only [List.set_cons_succ, List.map_cons, List.sum_cons]
          lia

theorem Alive.of_getElem? {s : State} {i : Nat} {pc : ServerPc}
    (hpc : s.servers[i]? = some pc) (hsignal : pc.WillSignal) : Alive s :=
  ⟨pc, List.mem_of_getElem? hpc, hsignal⟩

theorem alive_wifiConfigure {c : WifiConfig} (h : c.succeeds = true)
    (s : State) :
    Alive (wifiConfigure c s) <-> Alive s ∨ c.serverLives = true := by
  rw [wifiConfigure_of_succeeds h]
  unfold Alive WifiConfig.serverLives
  cases c.serverStarts with
  | false => simp
  | true => cases c.serverConnects <;> simp [or_and_right, exists_or,
      ServerPc.WillSignal]

theorem getElem?_set_self_of_some {α : Type _} {l : List α} {i : Nat}
    {x : α} (y : α) (hx : l[i]? = some x) : (l.set i y)[i]? = some y := by
  rcases List.getElem?_eq_some_iff.mp hx with ⟨hi, _⟩
  rw [List.getElem?_set_self hi]

/-- Where a server ends without its connection, another one is alive. -/
theorem Alive.set_of_doomed {s : State} {i : Nat} {x : ServerPc}
    (h : Alive s) (hpc : s.servers[i]? = some (.starting false)) :
    Alive { s with servers := s.servers.set i x } := by
  rcases h with ⟨pc, hmem, hsignal⟩
  rcases List.mem_iff_getElem?.mp hmem with ⟨j, hj⟩
  refine Alive.of_getElem? (i := j) ?_ hsignal
  have hij : i ≠ j := by
    intro hsame
    rw [← hsame, hpc] at hj
    exact hsignal.2 (Option.some.inj hj).symm
  rw [List.getElem?_set_ne hij]
  exact hj

theorem serverStep_cleared {i : Nat} {e : ServerEvent} {s s' : State}
    (hrunning : s.running = 0) (halive : Alive s)
    (h : serverStep i e s = some s') :
    s'.pc = s.pc ∧ serversRank s' < serversRank s ∧
      (s'.running = 2 ∨ (s'.running = 0 ∧ Alive s')) := by
  rcases serverStep_cases h with ⟨pc, pc', running, hpc, hmove, rfl⟩
  rcases serverMove_cases hmove with
    ⟨rfl, rfl, rfl⟩ | ⟨rfl, rfl, rfl⟩ | ⟨_, _, hsignal, rfl, _, hrank⟩
  · exact ⟨rfl, sum_map_set_lt hpc (by simp [ServerPc.rank]), .inl rfl⟩
  · exact ⟨rfl, sum_map_set_lt hpc (by simp [ServerPc.rank]),
      .inr ⟨hrunning, halive.set_of_doomed hpc⟩⟩
  · refine ⟨rfl, sum_map_set_lt hpc (hrank hrunning), .inr ⟨hrunning, ?_⟩⟩
    exact Alive.of_getElem? (getElem?_set_self_of_some pc' hpc) hsignal

theorem exists_serverStep {s : State} (h : Alive s) :
    exists i e s', serverStep i e s = some s' := by
  rcases h with ⟨pc, hmem, hsignal⟩
  rcases List.mem_iff_getElem?.mp hmem with ⟨i, hpc⟩
  rcases exists_serverMove s.running hsignal.1 with
    ⟨e, ⟨pc', running⟩, hmove⟩
  exact ⟨i, e, _, serverStep_of_move hpc hmove⟩

/-- The loop waits for a server that has yet to set the flag, or the flag is
set. -/
def Waits (newcon : Int32) (starts : Bool) (s : State) : Prop :=
  s.pc = .stopping newcon starts ∧
    (s.running = 2 ∨ (s.running = 0 ∧ Alive s))

theorem loopEnds_of_set {newcon : Int32} {starts : Bool} {s : State}
    (hpc : s.pc = .stopping newcon starts) (hset : s.running = 2) :
    LoopEnds s := by
  refine ⟨enterConnectivity newcon starts (wifiConnectivityStop s), ?_, rfl⟩
  simp [pollStep, hpc, hset]

theorem Waits.inevitable {newcon : Int32} {starts : Bool} {s : State}
    (h : Waits newcon starts s) : Inevitable anyServer LoopEnds s := by
  refine Inevitable.of_rank serversRank ?_ ?_ h
  · intro s hwaits hnot
    rcases hwaits with ⟨hpc, hset | ⟨_, halive⟩⟩
    · exact absurd (loopEnds_of_set hpc hset) hnot
    · rcases exists_serverStep halive with ⟨i, e, s', hs'⟩
      exists (i, e)
      rw [anyServer, hs']
      rfl
  · intro p s s' hwaits hnot hs'
    rcases hwaits with ⟨hpc, hset | ⟨hzero, halive⟩⟩
    · exact absurd (loopEnds_of_set hpc hset) hnot
    · rcases serverStep_cleared hzero halive hs' with ⟨hsame, hlower, hflag⟩
      exact ⟨⟨hsame.trans hpc, hflag⟩, hlower⟩

/-!
## Served stops end
-/

def Stands (s : State) : Prop :=
  exists (i : Nat) (pc : ServerPc), s.servers[i]? = some pc ∧
    pc ≠ .closing ∧ pc.WillSignal

theorem Stands.alive {s : State} (h : Stands s) : Alive s := by
  rcases h with ⟨i, pc, hpc, _, hsignal⟩
  exact Alive.of_getElem? hpc hsignal

theorem Stands.set_of_ended {s : State} {i : Nat} {pc : ServerPc}
    (h : Stands s) (hpc : s.servers[i]? = some pc)
    (hended : pc = .closing ∨ pc = .starting false) (x : ServerPc)
    (running : UInt32) :
    Stands { s with servers := s.servers.set i x, running := running } := by
  rcases h with ⟨j, old, hold, hopen, hsignal⟩
  have hij : i ≠ j := by
    intro hsame
    rw [← hsame, hpc] at hold
    rcases hended with hclosing | hdoomed
    · exact hopen ((Option.some.inj hold).symm.trans hclosing)
    · exact hsignal.2 ((Option.some.inj hold).symm.trans hdoomed)
  refine ⟨j, old, ?_, hopen, hsignal⟩
  rw [List.getElem?_set_ne hij]
  exact hold

theorem serverStep_stands {i : Nat} {e : ServerEvent} {s s' : State}
    (hrunning : s.running ≠ 0) (hstands : Stands s)
    (h : serverStep i e s = some s') : s'.running ≠ 0 ∧ Stands s' := by
  rcases serverStep_cases h with ⟨pc, pc', running, hpc, hmove, rfl⟩
  rcases serverMove_cases hmove with
    ⟨rfl, rfl, rfl⟩ | ⟨rfl, rfl, rfl⟩ | ⟨_, _, hsignal, rfl, hclosing, _⟩
  · exact ⟨show (2 : UInt32) ≠ 0 by decide,
      hstands.set_of_ended hpc (.inl rfl) _ _⟩
  · exact ⟨hrunning, hstands.set_of_ended hpc (.inr rfl) _ _⟩
  · refine ⟨hrunning, i, pc', getElem?_set_self_of_some pc' hpc, ?_, hsignal⟩
    intro hclose
    exact hrunning (hclosing hclose)

theorem stands_wifiConfigure {c : WifiConfig} {s : State}
    (hsucceeds : c.succeeds = true) (h : Stands s ∨ c.serverLives = true) :
    Stands (wifiConfigure c s) := by
  rw [wifiConfigure_of_succeeds hsucceeds]
  rcases h with ⟨i, pc, hpc, hstands⟩ | hlives
  · refine ⟨i, pc, ?_, hstands⟩
    cases c.serverStarts with
    | false => exact hpc
    | true =>
        rcases List.getElem?_eq_some_iff.mp hpc with ⟨hi, _⟩
        exact (List.getElem?_append_left hi).trans hpc
  · rcases Bool.and_eq_true_iff.mp hlives with ⟨hstarts, hconnects⟩
    refine ⟨s.servers.length, .starting true, ?_, by decide, by decide⟩
    simp [hstarts, hconnects]

/-- What the calls so far say about the state. -/
structure Tracks (m : Mode) (s : State) : Prop where
  mode : s.pc = .idle -> s.connectivity = m.connectivity
  served : s.pc = .idle -> m.served = true -> s.running ≠ 0 ∧ Stands s
  stopping : forall newcon starts, s.pc = .stopping newcon starts ->
    m.connectivity = newcon.toUInt32 ∧ m.served = false

theorem tracks_initial : Tracks (modeAfter []) initial := by
  constructor
  · intro _
    rfl
  · intro _ hserved
    cases hserved
  · intro newcon starts hpc
    cases hpc

theorem Tracks.stops_iff {m : Mode} {s : State} (h : Tracks m s)
    (hpc : s.pc = .idle) (newcon : Int32) :
    m.stops newcon <-> Stops newcon s := by
  unfold Mode.stops Stops
  rw [h.mode hpc]

theorem Tracks.setConnectivity {m : Mode} {newcon : Int32} {starts : Bool}
    {s : State} (h : Tracks m s) (hpc : s.pc = .idle) :
    Tracks (m.next (.setConnectivity newcon starts))
      (setConnectivity newcon starts s) := by
  have hiff := h.stops_iff hpc newcon
  by_cases hstops : Stops newcon s
  · rw [setConnectivity_of_stops hstops]
    constructor
    · intro hidle
      cases hidle
    · intro hidle
      cases hidle
    · intro other _ hother
      cases hother
      simp [Mode.next, hiff.mpr hstops]
  · constructor
    · intro _
      rw [setConnectivity_connectivity hstops]
      rfl
    · intro _ hserved
      simp only [Mode.next, Bool.and_eq_true] at hserved
      have hstands := h.served hpc hserved.1
      rw [setConnectivity_running hstops]
      constructor
      · exact hstands.1
      · unfold Stands
        rw [setConnectivity_servers hstops]
        exact hstands.2
    · intro other _ hother
      rw [setConnectivity_pc hstops] at hother
      cases hother

theorem Tracks.wifiConfigure {m : Mode} {c : WifiConfig} {s : State}
    (h : Tracks m s) (hpc : s.pc = .idle) :
    Tracks (m.next (.wifiConfigure c)) (wifiConfigure c s) := by
  have hidle := (wifiConfigure_pc c s).trans hpc
  cases hsucceeds : c.succeeds with
  | false =>
      rw [wifiConfigure_of_fails hsucceeds] at hidle ⊢
      simp only [Mode.next, hsucceeds, Bool.false_eq_true, if_false]
      constructor
      · intro _
        rfl
      · exact h.served
      · intro newcon starts hstop
        rw [hidle] at hstop
        cases hstop
  | true =>
      simp only [Mode.next, hsucceeds, if_true]
      constructor
      · rw [wifiConfigure_of_succeeds hsucceeds]
        exact h.mode
      · intro _ hserved
        constructor
        · rw [wifiConfigure_of_succeeds hsucceeds]
          exact show (1 : UInt32) ≠ 0 by decide
        · exact stands_wifiConfigure hsucceeds
            ((Bool.or_eq_true _ _).mp hserved |>.imp_left
              (fun hold => (h.served hpc hold).2))
      · intro newcon starts hstop
        rw [hidle] at hstop
        cases hstop

theorem Tracks.call {m : Mode} {c : Call} {s s' : State} (h : Tracks m s)
    (hcall : callStep c s = some s') : Tracks (m.next c) s' := by
  have hpc := callStep_pc hcall
  cases c with
  | setConnectivity newcon starts =>
      rw [callStep_setConnectivity hpc] at hcall
      cases hcall
      exact h.setConnectivity hpc
  | wifiConfigure config =>
      rw [callStep_wifiConfigure hpc] at hcall
      cases hcall
      exact h.wifiConfigure hpc

theorem Tracks.poll {m : Mode} {s s' : State} (h : Tracks m s)
    (hpoll : pollStep s = some s') : Tracks m s' := by
  rcases pollStep_cases hpoll with ⟨newcon, starts, hpc, ⟨_, rfl⟩ | ⟨_, rfl⟩⟩
  · exact h
  · rcases h.stopping newcon starts hpc with ⟨hmode, hserved⟩
    constructor
    · intro _
      rw [enterConnectivity_connectivity, hmode]
    · intro _ htrue
      rw [hserved] at htrue
      cases htrue
    · intro other _ hother
      cases hother

theorem Tracks.server {m : Mode} {i : Nat} {e : ServerEvent} {s s' : State}
    (h : Tracks m s) (hserver : serverStep i e s = some s') : Tracks m s' := by
  have hsame : s'.pc = s.pc ∧ s'.connectivity = s.connectivity := by
    rcases serverStep_cases hserver with ⟨_, _, _, _, _, rfl⟩
    exact ⟨rfl, rfl⟩
  constructor
  · intro hidle
    rw [hsame.2]
    exact h.mode (hsame.1.symm.trans hidle)
  · intro hidle hserved
    rcases h.served (hsame.1.symm.trans hidle) hserved with
      ⟨hrunning, hstands⟩
    exact serverStep_stands hrunning hstands hserver
  · intro newcon starts hstop
    exact h.stopping newcon starts (hsame.1.symm.trans hstop)

theorem After.tracks {cs : List Call} {s : State} (h : After cs s) :
    Tracks (modeAfter cs) s := by
  rcases h with ⟨as, has, rfl⟩
  induction as using List.reverseRecOn generalizing s with
  | nil =>
      cases has
      exact tracks_initial
  | append_singleton as a ih =>
      rcases runAll_append_split has with ⟨mid, hmid, hlast⟩
      rw [runAll_singleton] at hlast
      rw [callsOf_append]
      cases a with
      | call c =>
          rw [callsOf, callsOf, modeAfter_snoc]
          exact (ih hmid).call hlast
      | poll =>
          rw [callsOf, callsOf, List.append_nil]
          exact (ih hmid).poll hlast
      | server i e =>
          rw [callsOf, callsOf, List.append_nil]
          exact (ih hmid).server hlast

theorem Tracks.stopEnds {m : Mode} {newcon : Int32} {starts : Bool}
    {s : State} (h : Tracks m s)
    (hserved : m.stops newcon -> m.served = true) :
    StopEnds (.setConnectivity newcon starts) s := by
  intro s' hcall hwaits
  have hpc := callStep_pc hcall
  rw [callStep_setConnectivity hpc] at hcall
  cases hcall
  by_cases hstops : Stops newcon s
  · have hstands := h.served hpc (hserved ((h.stops_iff hpc newcon).mpr hstops))
    have halive := hstands.2.alive
    rw [setConnectivity_of_stops hstops]
    exact ⟨halive, Waits.inevitable ⟨rfl, .inr ⟨rfl, halive⟩⟩⟩
  · exact absurd (setConnectivity_pc hstops) hwaits

/-!
## Servers that end early

Between the flag is cleared and the loop ends, every server can end.  So
without another `wifiConfigure` none is left for the next stop.
-/

def Ending (newcon : Int32) (starts : Bool) (s : State) : Prop :=
  s.pc = .stopping newcon starts ∧
    (s.running = 0 ∨
      forall pc, pc ∈ s.servers -> pc.WillSignal -> pc = .closing) ∧
    (s.running = 2 ∨ Alive s)

theorem Ending.exists_step {newcon : Int32} {starts : Bool} {s : State}
    (h : Ending newcon starts s) (halive : Alive s) :
    exists p s', anyServer p s = some s' ∧ Ending newcon starts s' ∧
      serversRank s' < serversRank s := by
  rcases h with ⟨hpc, hflag, _⟩
  by_cases hseen :
      forall pc, pc ∈ s.servers -> pc.WillSignal -> pc = .closing
  · rcases halive with ⟨pc, hmem, hsignal⟩
    have hclosing := hseen pc hmem hsignal
    subst hclosing
    rcases List.mem_iff_getElem?.mp hmem with ⟨i, hi⟩
    refine ⟨(i, .closed), _, serverStep_of_move hi rfl,
      ⟨hpc, .inr ?_, .inl rfl⟩, sum_map_set_lt hi (by simp [ServerPc.rank])⟩
    intro pc hpc' hsignal'
    rcases List.mem_or_eq_of_mem_set hpc' with hold | rfl
    · exact hseen pc hold hsignal'
    · exact absurd rfl hsignal'.1
  · have hzero : s.running = 0 := hflag.resolve_right hseen
    push Not at hseen
    rcases hseen with ⟨pc, hmem, hsignal, hopen⟩
    rcases List.mem_iff_getElem?.mp hmem with ⟨i, hi⟩
    rcases exists_serverMove s.running hsignal.1 with
      ⟨e, ⟨pc', running⟩, hmove⟩
    rcases serverMove_cases hmove with
      ⟨rfl, _, _⟩ | ⟨rfl, _, _⟩ | ⟨_, _, hsignal', rfl, _, hrank⟩
    · exact absurd rfl hopen
    · exact absurd rfl hsignal.2
    · refine ⟨(i, e), _, serverStep_of_move hi hmove,
        ⟨hpc, .inl hzero, .inr ?_⟩, sum_map_set_lt hi (hrank hzero)⟩
      exact Alive.of_getElem? (getElem?_set_self_of_some pc' hi) hsignal'

def serverActions (ps : List (Nat × ServerEvent)) : List Action :=
  ps.map (fun p => .server p.1 p.2)

theorem callsOf_serverActions (ps : List (Nat × ServerEvent)) :
    callsOf (serverActions ps) = [] := by
  induction ps with
  | nil => rfl
  | cons p ps ih => exact ih

theorem runAll_serverActions (ps : List (Nat × ServerEvent)) (s : State) :
    runAll step (serverActions ps) s = runAll anyServer ps s := by
  induction ps generalizing s with
  | nil => rfl
  | cons p ps ih =>
      simp only [serverActions, List.map_cons, runAll, step, anyServer]
      cases hp : serverStep p.1 p.2 s with
      | none => rfl
      | some mid => exact ih mid

theorem runAll_anyServer {ps : List (Nat × ServerEvent)} {s s' : State}
    (h : runAll anyServer ps s = some s') :
    s' = { s with servers := s'.servers, running := s'.running } := by
  refine @runAll_invariant _ _ anyServer (fun s' =>
    s' = { s with servers := s'.servers, running := s'.running }) ?_ _ _ _ rfl h
  intro p mid last hmid hstep
  rcases serverStep_cases hstep with ⟨_, _, _, _, _, rfl⟩
  rw [hmid]

theorem After.loopEnded {cs : List Call} {newcon : Int32} {starts : Bool}
    {s last : State} {ps : List (Nat × ServerEvent)} (h : After cs s)
    (hpc : s.pc = .idle) (hstops : Stops newcon s)
    (hrun : runAll anyServer ps (websocketStop newcon starts s) = some last)
    (hset : last.running = 2) :
    After (cs ++ [.setConnectivity newcon starts])
      (enterConnectivity newcon starts (wifiConnectivityStop last)) := by
  have hcall : callStep (.setConnectivity newcon starts) s =
      some (websocketStop newcon starts s) := by
    rw [callStep_setConnectivity hpc, setConnectivity_of_stops hstops]
  have hlast : last.pc = .stopping newcon starts := by
    rw [runAll_anyServer hrun]
    rfl
  have hpolled : runAll step [.poll] last =
      some (enterConnectivity newcon starts (wifiConnectivityStop last)) := by
    rw [runAll_singleton]
    simp [step, pollStep, hlast, hset]
  rw [← runAll_serverActions] at hrun
  have hafter := ((h.call hcall).run hrun).run hpolled
  rw [callsOf_serverActions, callsOf, callsOf, List.append_nil,
    List.append_nil] at hafter
  exact hafter

theorem After.stop {cs : List Call} {newcon : Int32} {starts : Bool}
    {s : State} (h : After cs s) (hpc : s.pc = .idle)
    (hstops : Stops newcon s) (halive : Alive s) :
    exists s', After (cs ++ [.setConnectivity newcon starts]) s' ∧
      s'.pc = .idle ∧ s'.connectivity = newcon.toUInt32 ∧
      s'.bleRunning = ((decide (newcon = 2) && starts) || s.bleRunning) ∧
      ¬ Alive s' := by
  have hending : Ending newcon starts (websocketStop newcon starts s) :=
    ⟨rfl, .inl rfl, .inr halive⟩
  rcases exists_runAll_of_rank serversRank
      (fun s hs hnot => hs.exists_step (not_not.mp hnot)) hending with
    ⟨ps, last, hrun, ⟨_, _, hset⟩, hended⟩
  refine ⟨_, h.loopEnded hpc hstops hrun (hset.resolve_right hended), rfl, rfl,
    ?_, ?_⟩
  · rw [enterConnectivity_bleRunning, runAll_anyServer hrun]
    rfl
  · unfold Alive
    rw [enterConnectivity_servers]
    exact hended

theorem exists_after_ended {cs : List Call} (hends : EachCall StopEnds cs)
    {before after : List Call} (hcs : before ++ after = cs) :
    exists s, After before s ∧ s.pc = .idle ∧
      ((modeAfter before).served = false -> ¬ Alive s) := by
  induction before using List.reverseRecOn generalizing after with
  | nil =>
      refine ⟨initial, .start, rfl, ?_⟩
      intro _ halive
      rcases halive with ⟨pc, hmem, _⟩
      cases hmem
  | append_singleton before c ih =>
      rw [List.append_assoc] at hcs
      rcases ih hcs with ⟨s, hafter, hpc, hended⟩
      rw [modeAfter_snoc]
      cases c with
      | setConnectivity newcon starts =>
          by_cases hstops : Stops newcon s
          · have hwaits : (setConnectivity newcon starts s).pc ≠ .idle := by
              rw [setConnectivity_of_stops hstops]
              simp [websocketStop]
            rcases hends before _ after s hcs hafter hpc _
                (callStep_setConnectivity hpc) hwaits with ⟨halive, _⟩
            rcases hafter.stop hpc hstops halive with
              ⟨s', hs', hidle, _, _, hnone⟩
            exact ⟨s', hs', hidle, fun _ => hnone⟩
          · refine ⟨_, hafter.call (callStep_setConnectivity hpc),
              setConnectivity_pc hstops, ?_⟩
            intro hserved
            have hnot := (hafter.tracks.stops_iff hpc newcon).not.mpr hstops
            unfold Alive
            rw [setConnectivity_servers hstops]
            exact hended (by simpa [Mode.next, hnot] using hserved)
      | wifiConfigure config =>
          refine ⟨_, hafter.call (callStep_wifiConfigure hpc),
            (wifiConfigure_pc config s).trans hpc, ?_⟩
          intro hserved
          cases hsucceeds : config.succeeds with
          | false =>
              rw [wifiConfigure_of_fails hsucceeds]
              simp only [Mode.next, hsucceeds] at hserved
              exact hended hserved
          | true =>
              simp only [Mode.next, hsucceeds, if_true,
                Bool.or_eq_false_iff] at hserved
              rw [alive_wifiConfigure hsucceeds, not_or]
              exact ⟨hended hserved.1, Bool.eq_false_iff.mp hserved.2⟩

/-!
## The exact condition
-/

theorem stopEnds_throughout_iff (cs : List Call) :
    EachCall StopEnds cs <-> EachStopServed cs := by
  constructor
  · intro hends before newcon starts after hcs hstops
    rcases exists_after_ended hends hcs with ⟨s, hafter, hpc, hended⟩
    have hstop := (hafter.tracks.stops_iff hpc newcon).mp hstops
    have hwaits : (setConnectivity newcon starts s).pc ≠ .idle := by
      rw [setConnectivity_of_stops hstop]
      simp [websocketStop]
    have halive := (hends before _ after s hcs hafter hpc _
      (callStep_setConnectivity hpc) hwaits).1
    by_contra hunserved
    exact hended (Bool.eq_false_iff.mpr hunserved) halive
  · intro hserved before c after s hcs hafter hpc
    cases c with
    | setConnectivity newcon starts =>
        exact hafter.tracks.stopEnds (hserved before newcon starts after hcs)
    | wifiConfigure config =>
        intro s' hcall hwaits
        rw [callStep_wifiConfigure hpc] at hcall
        cases hcall
        exact absurd ((wifiConfigure_pc config s).trans hpc) hwaits

/-- The loop waits for the flag, and no server is left to set it. -/
def Deserted (newcon : Int32) (starts : Bool) (s : State) : Prop :=
  s.pc = .stopping newcon starts ∧ s.running = 0 ∧ ¬ Alive s

theorem Deserted.server {newcon : Int32} {starts : Bool} {i : Nat}
    {e : ServerEvent} {s s' : State} (h : Deserted newcon starts s)
    (hserver : serverStep i e s = some s') : Deserted newcon starts s' := by
  rcases h with ⟨hpc, hzero, hnone⟩
  rcases serverStep_cases hserver with ⟨pc, pc', running, hi, hmove, rfl⟩
  rcases serverMove_cases hmove with
    ⟨rfl, rfl, rfl⟩ | ⟨rfl, rfl, rfl⟩ | ⟨_, hsignal, _, rfl, _, _⟩
  · exact absurd (Alive.of_getElem? hi (by decide)) hnone
  · refine ⟨hpc, hzero, ?_⟩
    intro halive
    rcases halive with ⟨x, hmem, hsignal⟩
    rcases List.mem_or_eq_of_mem_set hmem with hold | rfl
    · exact hnone ⟨x, hold, hsignal⟩
    · exact hsignal.1 rfl
  · exact absurd (Alive.of_getElem? hi hsignal) hnone

theorem stop_hangs_of_not_alive {newcon : Int32} {starts : Bool} {s : State}
    (hnone : ¬ Alive s) :
    ¬ Inevitable anyServer LoopEnds (websocketStop newcon starts s) := by
  have hstart : Deserted newcon starts (websocketStop newcon starts s) :=
    ⟨rfl, rfl, hnone⟩
  refine Inevitable.not_of_invariant ?_
    (fun p _ _ hs hstep => hs.server (i := p.1) hstep) hstart
  intro s hdeserted hends
  rcases hdeserted with ⟨hpc, hzero, _⟩
  rcases hends with ⟨s', hpoll, hidle⟩
  rcases pollStep_cases hpoll with ⟨_, _, _, ⟨_, rfl⟩ | ⟨htwo, _⟩⟩
  · rw [hpc] at hidle
    cases hidle
  · rw [hzero] at htwo
    exact absurd htwo (by decide)

/-- Select wifi and switch it off again, without a configuration. -/
def unconfigured : List Call :=
  [.setConnectivity 1 true, .setConnectivity 0 true]

theorem unconfigured_stop_hangs : ¬ EachCall StopEnds unconfigured := by
  intro h
  have hafter : After [.setConnectivity 1 true]
      { initial with connectivity := wifi, randomEnabled := false } :=
    ⟨[.call (.setConnectivity 1 true)], by decide, by decide⟩
  have hends := h [.setConnectivity 1 true] (.setConnectivity 0 true) [] _ rfl
    hafter rfl _ rfl (by decide)
  refine stop_hangs_of_not_alive ?_ hends.2
  intro halive
  rcases halive with ⟨pc, hmem, _⟩
  cases hmem

end Connectivity
end Fluxnode
