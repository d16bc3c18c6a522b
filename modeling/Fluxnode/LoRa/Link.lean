import Fluxnode.LoRa.Deliveries

/-!
# Two boards

What the chip of one board has sent arrives in the FIFO of another one, or is
lost.  Then the script of the second board gets packets that the script of the
first one has sent, in the same order and byte by byte.
-/

namespace Fluxnode
namespace LoRa

open Foundation
open Js (Number)

/-- A frame arrives without an error, with an explicit header. -/
structure Arrives (t : Transmission) (rx : Reception) : Prop where
  noError : rx.crcError = false
  nbBytes : rx.nbBytes.toNat = t.frame.length
  bytes : rx.bytes t.frame.length = t.frame

def sentPackets : List RadioAction -> List (List UInt8)
  | [] => []
  | .call (.sendPacket buf) :: rest => buf :: sentPackets rest
  | _ :: rest => sentPackets rest

def receptions : List RadioAction -> Dial -> List Reception
  | [], _ => []
  | .round rx :: rest, d =>
      if d.mode = .recv then rx :: receptions rest d else receptions rest d
  | .call c :: rest, d => receptions rest (d.step (.call c))

/-- No call sets a length, so headers stay as they are. -/
def KeepsHeader (actions : List RadioAction) : Prop :=
  forall pl, .call (.setter (.setPayloadLen pl)) ∉ actions

theorem broadcasts_bytes (actions : List RadioAction) (d : Dial) :
    (broadcasts actions d).map Broadcast.bytes = sentPackets actions := by
  induction actions generalizing d with
  | nil => rfl
  | cons a rest ih =>
      rw [broadcasts, List.map_append, ih]
      cases a with
      | round rx => rfl
      | call c => cases c <;> rfl

theorem carries_frames {regs : Registers} {ts : List Transmission}
    {bs : List Broadcast} (h : List.Forall₂ (Carries regs) ts bs) :
    ts.map Transmission.frame = bs.map Broadcast.bytes := by
  induction h with
  | nil => rfl
  | cons hhead _ ih => rw [List.map_cons, List.map_cons, hhead.frame, ih]

theorem step_explicit {d : Dial} {a : RadioAction}
    (h : d.config.implicit = some false)
    (hkeeps : forall pl, a ≠ .call (.setter (.setPayloadLen pl))) :
    (d.step a).config.implicit = some false := by
  cases a with
  | round rx => exact h
  | call c =>
      cases c with
      | setter call =>
          show (d.config.accept call).implicit = some false
          cases call with
          | setPayloadLen pl => exact absurd rfl (hkeeps pl)
          | setCRC crc => exact h
          | setIQMode iq => exact h
          | setSyncWord sw => exact h
          | _ =>
              unfold Config.accept
              dsimp only
              split <;> exact h
      | setFrequency freq =>
          rw [step_setFrequency]
          split <;> exact h
      | _ => exact h

theorem hears_arrives {regs : Registers} {d : Dial} {t : Transmission}
    {rx : Reception} (h : d.config.implicit = some false)
    (hmode : d.mode = .recv) (harrives : Arrives t rx) :
    d.hears regs (.round rx) = if t.frame = [] then [] else [t.frame] := by
  have hlength : d.rxLength regs rx = t.frame.length := by
    rw [Dial.rxLength, h, if_neg (by decide), harrives.nbBytes]
  simp only [Dial.hears, hmode, harrives.noError, hlength, harrives.bytes,
    ne_eq, not_true_eq_false, Bool.false_eq_true, false_or,
    List.length_eq_zero_iff]

theorem heard_arrives {regs : Registers} {actions : List RadioAction}
    {d : Dial} {ts : List Transmission} (h : d.config.implicit = some false)
    (hkeeps : KeepsHeader actions)
    (harrive : List.Forall₂ Arrives ts (receptions actions d)) :
    heard regs actions d =
      (ts.map Transmission.frame).filter (fun frame => frame ≠ []) := by
  induction actions generalizing d ts with
  | nil =>
      cases harrive
      rfl
  | cons a rest ih =>
      have hrest : KeepsHeader rest :=
        fun pl hmem => hkeeps pl (List.mem_cons_of_mem _ hmem)
      have hfirst : forall pl, a ≠ .call (.setter (.setPayloadLen pl)) :=
        fun pl heq => hkeeps pl (heq ▸ List.mem_cons_self)
      have hstep := step_explicit h hfirst
      cases a with
      | call c => exact ih hstep hrest harrive
      | round rx =>
          by_cases hmode : d.mode = .recv
          · simp only [receptions, if_pos hmode] at harrive
            cases harrive with
            | cons hhead htail =>
                rename_i t ts
                rw [heard, hears_arrives h hmode hhead, ih hstep hrest htail,
                  List.map_cons, List.filter_cons]
                by_cases hempty : t.frame = []
                · simp [hempty]
                · simp [hempty]
          · simp only [receptions, if_neg hmode] at harrive
            rw [heard, Dial.hears, if_pos (.inl hmode), List.nil_append]
            exact ih hstep hrest harrive

/-- The script of a board that gets frames of another one while it is in receive
mode, some of which may be lost, gets packets that the other script has sent, in
their order and byte by byte, and all of those that arrive, except for empty
ones. -/
theorem link_delivers {a b : Radio} {sends hears : List RadioAction}
    {ts : List Transmission} {sent : Recorded}
    (ha : a.AtRest) (hafits : SendsFit sends)
    (hasent : runAll Recorded.step sends ⟨a, []⟩ = some sent)
    (hair : ts.Sublist sent.sent)
    (hb : b.Ready) (hattentive : b.Attentive) (hexplicit : b.implicit = false)
    (hkeeps : KeepsHeader hears) (hbfits : SendsFit hears)
    (harrive : List.Forall₂ Arrives ts (receptions hears b.headerDial)) :
    (ts.map Transmission.frame).Sublist (sentPackets sends) ∧
      exists s', runAll Recorded.step hears ⟨b, []⟩ = some s' ∧
        s'.radio.inbox = b.inbox ++
          (ts.map Transmission.frame).filter (fun frame => frame ≠ []) := by
  have hstart : Settled a.chip.regs a.dial (Recorded.mk a []).radio :=
    settled_dial ha
  rcases hstart.run hafits with ⟨sent', hrun, -, new, hnew, hcarries⟩
  rw [hasent] at hrun
  cases hrun
  have hframes := (carries_frames hcarries).trans (broadcasts_bytes _ _)
  constructor
  · rw [← hframes, ← List.nil_append new, ← hnew]
    exact hair.map _
  · have hlistens : Settled b.chip.regs b.headerDial (Recorded.mk b []).radio :=
      settled_headerDial hb.done hb.noHop hb.header
    have hattends : Attends b.headerDial (Recorded.mk b []).radio :=
      hb.attends hattentive
    rcases hlistens.run hbfits with ⟨s', hrun, -⟩
    refine ⟨s', hrun, ?_⟩
    rw [(hattends.run hlistens hbfits hrun).2, heard_arrives
      (congrArg some hexplicit) hkeeps harrive]

def sendsTwo : List RadioAction :=
  [.call (.sendPacket [7]), .call (.sendPacket [0x42])]

def hearsOne : List RadioAction :=
  [.round emptyPacket, .call .loraReceive, .round oneByte]

theorem link_delivers_one : exists sent s',
    runAll Recorded.step sendsTwo ⟨startRadio, []⟩ = some sent ∧
    runAll Recorded.step hearsOne ⟨startRadio, []⟩ = some s' ∧
    s'.radio.inbox = [[0x42]] := by
  have hfits : SendsFit sendsTwo := by
    intro buf hbuf
    simp only [sendsTwo, List.mem_cons, RadioAction.call.injEq,
      RadioCall.sendPacket.injEq, List.not_mem_nil, or_false] at hbuf
    rcases hbuf with heq | heq <;> subst heq <;> decide
  have hstart : Settled startRadio.chip.regs startRadio.dial
      (Recorded.mk startRadio []).radio :=
    settled_dial startRadio_atRest
  rcases hstart.run hfits with ⟨sent, hrun, -, new, hnew, hcarries⟩
  rw [List.nil_append] at hnew
  have htwo : List.Forall₂ (Carries startRadio.chip.regs) new
      [⟨[7], startRadio.dial.loaded [7]⟩,
        ⟨[0x42], (startRadio.dial.step (.call (.sendPacket [7]))).loaded
          [0x42]⟩] := hcarries
  cases htwo with
  | @cons t₁ _ _ _ _ hrest =>
      cases hrest with
      | @cons t₂ _ _ _ hsecond hnil =>
          cases hnil
          have hframe : t₂.frame = [0x42] := hsecond.frame
          have harrives : Arrives t₂ oneByte := by
            constructor
            · rfl
            · rw [hframe]
              rfl
            · rw [hframe]
              rfl
          have hair : [t₂].Sublist sent.sent := by
            rw [hnew]
            exact List.sublist_cons_self _ _
          have hkeeps : KeepsHeader hearsOne := by
            intro pl hmem
            simp [hearsOne] at hmem
          have hnone : SendsFit hearsOne := by
            intro buf hmem
            simp [hearsOne] at hmem
          rcases (link_delivers startRadio_atRest hfits hrun hair
            startRadio_ready startRadio_attentive rfl hkeeps hnone
            (.cons harrives .nil)).2 with ⟨s', hrun', hinbox⟩
          refine ⟨sent, s', hrun, hrun', ?_⟩
          rw [hinbox, List.map_cons, hframe]
          rfl

end LoRa
end Fluxnode
