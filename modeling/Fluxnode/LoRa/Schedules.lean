import Fluxnode.LoRa.Dial

/-!
# Calls and packets one after the other

A call that nothing interrupts, and the rounds behind a packet, are a run of the
radio with its task and the script, access by access.
-/

namespace Fluxnode
namespace LoRa

open Foundation

variable {s s' : Recorded}

def Radio.resting (s : Radio) : System RadioCall :=
  ⟨⟨s, none⟩, none⟩

/-!
## The queue of the task
-/

theorem execRecorded_queue {o : Op} {b : o.Answer}
    (h : execRecorded o s = some (s', b)) :
    s'.radio.isrRecvQueue = s.radio.isrRecvQueue := by
  rcases execRecorded_cases h with hexec | ⟨-, hexec⟩
  · exact (exec_effect hexec).isrRecvQueue
  · exact (exec_effect hexec).isrRecvQueue

theorem run_queue {α : Type} {p : Prog α} {a : α}
    (h : p.run execRecorded s = some (s', a)) :
    s'.radio.isrRecvQueue = s.radio.isrRecvQueue := by
  induction p generalizing s with
  | done c =>
      cases h
      rfl
  | perform o next ih =>
      rw [Program.run_perform] at h
      rcases Option.bind_eq_some_iff.mp h with ⟨⟨t, b⟩, hfirst, hrest⟩
      exact (ih b hrest).trans (execRecorded_queue hfirst)

/-!
## Calls
-/

/-- An access of a call; the chip is done with sending in front of one that
waits for it. -/
theorem leads_access {c : RadioCall} {o : Op} {next : o.Answer -> Prog Returned}
    {b : o.Answer} (h : execRecorded o s = some (s', b)) :
    Leads (System.step RadioCall.program)
      ⟨⟨s.radio, none⟩, some ⟨c, .perform o next⟩⟩
      ⟨⟨s'.radio, none⟩, some ⟨c, next b⟩⟩ := by
  have happ : forall t : Radio, exec o t = some (s'.radio, b) ->
      Leads (System.step RadioCall.program)
        ⟨⟨t, none⟩, some ⟨c, .perform o next⟩⟩
        ⟨⟨s'.radio, none⟩, some ⟨c, next b⟩⟩ := by
    intro t hexec
    refine ⟨[.app], runAll_singleton.trans ?_⟩
    simp only [System.step, hexec]
  rcases execRecorded_cases h with hexec | ⟨htx, hexec⟩
  · exact happ _ hexec
  · refine Leads.head (i := .event .transmitted) ?_ (happ _ hexec)
    simp only [System.step, Modem.step, if_pos htx]

theorem leads_returned {c : RadioCall} {p : Prog Returned} {r : Returned}
    (h : p.run execRecorded s = some (s', r)) :
    Leads (System.step RadioCall.program) ⟨⟨s.radio, none⟩, some ⟨c, p⟩⟩
      s'.radio.resting := by
  induction p generalizing s with
  | done r' =>
      cases h
      exact ⟨[.app], rfl⟩
  | perform o next ih =>
      rw [Program.run_perform] at h
      rcases Option.bind_eq_some_iff.mp h with ⟨⟨t, b⟩, hfirst, hrest⟩
      exact (leads_access hfirst).trans (ih b hrest)

/-!
## Rounds
-/

theorem IsrOp.unrecorded {o : Op} (h : IsrOp o) : o.Unrecorded := by
  constructor
  · intro mask heq
    subst heq
    rcases h with h | h | h | h
    · exact False.elim h
    · exact False.elim h
    · cases h
    · cases h
  · intro heq
    subst heq
    rcases h.opMode_val with hstdby | hrecv
    · exact absurd hstdby (by decide)
    · exact absurd hrecv (by decide)

theorem leads_round {p : Prog Unit} {a : Unit} (hall : p.All Op.Unrecorded)
    (h : p.run execRecorded s = some (s', a)) :
    Leads (System.step RadioCall.program) ⟨⟨s.radio, some p⟩, none⟩
      s'.radio.resting := by
  induction p generalizing s with
  | done a' =>
      cases h
      exact ⟨[.event .isr], rfl⟩
  | perform o next ih =>
      rw [Program.run_perform] at h
      rcases Option.bind_eq_some_iff.mp h with ⟨⟨t, b⟩, hfirst, hrest⟩
      rw [hall.1.execRecorded] at hfirst
      rcases Option.map_eq_some_iff.mp hfirst with ⟨⟨radio, b'⟩, hexec, heq⟩
      cases heq
      refine Leads.head (i := .event .isr) ?_ (ih _ (hall.2 _) hrest)
      simp only [System.step, Modem.step, hexec]

theorem leads_handle {cmds : List IsrCmd}
    (hqueue : s.radio.isrRecvQueue = cmds)
    (h : Recorded.handle cmds s = some s') :
    Leads (System.step RadioCall.program) s.radio.resting s'.radio.resting ∧
      s'.radio.isrRecvQueue = [] := by
  induction cmds generalizing s with
  | nil =>
      cases h
      exact ⟨Leads.refl _, hqueue⟩
  | cons cmd rest ih =>
      simp only [Recorded.handle] at h
      split at h
      · cases h
      · rename_i t a hround
        rcases ih (run_queue hround) h with ⟨hleads, hempty⟩
        have hstart := leads_round (isrRecvRound_all.mono
          (fun _ => IsrOp.unrecorded)) hround
        refine ⟨Leads.head (i := .event .isr) ?_ (hstart.trans hleads), hempty⟩
        simp only [Radio.resting, System.step, Modem.step, hqueue]

/-!
## Runs
-/

theorem Recorded.leads {a : RadioAction} (hqueue : s.radio.isrRecvQueue = [])
    (h : Recorded.step a s = some s') :
    Leads (System.step RadioCall.program) s.radio.resting s'.radio.resting ∧
      s'.radio.isrRecvQueue = [] := by
  cases a with
  | call c =>
      rcases Option.map_eq_some_iff.mp h with ⟨⟨t, r⟩, hrun, heq⟩
      cases heq
      refine ⟨Leads.head (i := .call c) rfl (leads_returned hrun), ?_⟩
      rw [run_queue hrun]
      exact hqueue
  | round rx =>
      simp only [Recorded.step] at h
      split at h
      · rcases @leads_handle ⟨s.radio.rxDone rx, s.sent⟩ s' _ rfl h with
          ⟨hleads, hempty⟩
        exact ⟨Leads.head (i := .event (.rxDone rx)) rfl hleads, hempty⟩
      · cases h
        exact ⟨Leads.refl _, hqueue⟩

/-- Calls and packets one after the other are a run of the radio with its task
and the script. -/
theorem Recorded.run_leads {actions : List RadioAction}
    (hqueue : s.radio.isrRecvQueue = [])
    (h : runAll Recorded.step actions s = some s') :
    Leads (System.step RadioCall.program) s.radio.resting s'.radio.resting ∧
      s'.radio.isrRecvQueue = [] := by
  induction actions generalizing s with
  | nil =>
      cases h
      exact ⟨Leads.refl _, hqueue⟩
  | cons a rest ih =>
      rcases runAll_cons h with ⟨mid, hmid, hrest⟩
      rcases Recorded.leads hqueue hmid with ⟨hleads, hempty⟩
      rcases ih hempty hrest with ⟨hmore, hlast⟩
      exact ⟨hleads.trans hmore, hlast⟩

end LoRa
end Fluxnode
