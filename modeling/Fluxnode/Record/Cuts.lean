import Fluxnode.Record.Receiver
import Mathlib.Data.List.Induction

/-!
# Frames cut by a client

A client cuts its frames into writes as it likes, as long as the length bytes
stay together and no write holds bytes of two frames.  The receiver reports
each message once, unless an empty write follows a frame that is complete: it
is then taken for the start of the next message.
-/

namespace Fluxnode
namespace Record

open C
open Foundation

structure CutFrame where
  payload : List UInt8
  first : List UInt8
  rest : List (List UInt8)
  length_lt : payload.length < 2 ^ 16
  two_le_first : 2 ≤ first.length
  joined : first ++ rest.flatten = frame payload
  deriving DecidableEq, Repr

def CutFrame.writes (f : CutFrame) : List (List UInt8) :=
  f.first :: f.rest

def CutFrame.EndsWithBytes (f : CutFrame) : Prop :=
  forall write, f.rest.getLast? = some write -> write ≠ []

/-- `receive_cb` is called once for each message, in order, with its bytes and
its length. -/
def DeliversEach (recordSize : SizeT) (frames : List CutFrame) : Prop :=
  exists r outs,
    feedAll writeEvt (idle recordSize)
        (frames.map CutFrame.writes).flatten = some (r, outs) ∧
      outs.reduceOption = frames.map (fun f => delivered f.payload)

/-!
## One frame
-/

section Frame

variable {recordSize : SizeT}

theorem CutFrame.first_eq (f : CutFrame) :
    f.first = header f.payload.length ++ f.first.drop 2 ∧
      f.first.drop 2 ++ f.rest.flatten = f.payload := by
  have htwo := f.two_le_first
  have htake : f.first.take 2 = header f.payload.length := by
    have hboth := congrArg (List.take 2) f.joined
    rw [List.take_append_of_le_length htwo,
      take_frame f.payload (Nat.le_refl 2), List.take_zero,
      List.append_nil] at hboth
    exact hboth
  constructor
  · rw [← htake, List.take_append_drop]
  · have hboth := congrArg (List.drop 2) f.joined
    rw [List.drop_append_of_le_length htwo,
      drop_frame f.payload (Nat.le_refl 2), List.drop_zero] at hboth
    exact hboth

theorem CutFrame.feedAll_writes {f : CutFrame} (h : f.EndsWithBytes) :
    feedAll writeEvt (idle recordSize) f.writes =
      some (idle recordSize, answers f.writes f.payload) := by
  rcases f.first_eq with ⟨hfirst, hrest⟩
  rw [CutFrame.writes, hfirst]
  exact feedAll_frame f.length_lt hrest h

theorem writeEvt_idle_nil : writeEvt (idle recordSize) [] = none := rfl

theorem feedAll_writes_of_not_endsWithBytes (f : CutFrame)
    (hnot : ¬ f.EndsWithBytes) :
    feedAll writeEvt (idle recordSize) f.writes = none := by
  rcases f with ⟨payload, first, rest, hlength, htwo, hjoined⟩
  induction rest using List.reverseRecOn with
  | nil =>
      exfalso
      apply hnot
      intro write hlast
      cases hlast
  | append_singleton init last ih =>
      have hempty : last = [] := by
        by_contra hbytes
        apply hnot
        intro write hlast
        rw [List.getLast?_concat, Option.some.injEq] at hlast
        rw [← hlast]
        exact hbytes
      subst hempty
      have hsame : (init ++ [[]]).flatten = init.flatten := by simp
      rw [hsame] at hjoined
      -- the same frame without the last write
      let shorter : CutFrame :=
        ⟨payload, first, init, hlength, htwo, hjoined⟩
      change feedAll writeEvt (idle recordSize) (shorter.writes ++ [[]]) = none
      by_cases hends : shorter.EndsWithBytes
      · apply feedAll_append_none (CutFrame.feedAll_writes hends)
        rw [feedAll, writeEvt_idle_nil]
      · exact feedAll_append_of_none _ (ih hjoined hends)

end Frame

/-!
## Streams of frames
-/

theorem feedAll_frames {recordSize : SizeT} {frames : List CutFrame}
    (h : forall f, f ∈ frames -> f.EndsWithBytes) :
    feedAll writeEvt (idle recordSize)
        (frames.map CutFrame.writes).flatten =
      some (idle recordSize,
        (frames.map (fun f => answers f.writes f.payload)).flatten) := by
  apply feedAll_flatten_of_home
  induction frames with
  | nil => exact List.Forall₂.nil
  | cons f rest ih =>
      have hfirst := h f List.mem_cons_self
      have hrest : forall g, g ∈ rest -> g.EndsWithBytes := by
        intro g hg
        exact h g (List.mem_cons_of_mem f hg)
      exact List.Forall₂.cons (CutFrame.feedAll_writes hfirst) (ih hrest)

theorem reduceOption_frames (frames : List CutFrame) :
    (frames.map (fun f => answers f.writes f.payload)).flatten.reduceOption =
      frames.map (fun f => delivered f.payload) := by
  induction frames with
  | nil => rfl
  | cons f rest ih =>
      rw [List.map_cons, List.flatten_cons, List.reduceOption_append, ih,
        reduceOption_answers]
      rfl

theorem feedAll_frames_none {recordSize : SizeT} {frames : List CutFrame}
    {f : CutFrame} (hf : f ∈ frames) (hnot : ¬ f.EndsWithBytes) :
    feedAll writeEvt (idle recordSize)
      (frames.map CutFrame.writes).flatten = none := by
  induction frames with
  | nil => cases hf
  | cons g rest ih =>
      rw [List.map_cons, List.flatten_cons]
      by_cases hends : g.EndsWithBytes
      · apply feedAll_append_none (CutFrame.feedAll_writes hends)
        rcases List.mem_cons.mp hf with rfl | hf
        · exact absurd hends hnot
        · exact ih hf
      · exact feedAll_append_of_none _
          (feedAll_writes_of_not_endsWithBytes g hends)

/--
Whatever the writes are that the frames are cut into, every message is reported
once and in order, exactly when no frame is followed by an empty write.
-/
theorem deliversEach_iff_endWithBytes (recordSize : SizeT)
    (frames : List CutFrame) :
    DeliversEach recordSize frames <->
      forall f, f ∈ frames -> f.EndsWithBytes := by
  constructor
  · intro h
    rcases h with ⟨r, outs, hfeed, _⟩
    intro f hf
    by_contra hnot
    rw [feedAll_frames_none hf hnot] at hfeed
    cases hfeed
  · intro h
    exact ⟨idle recordSize, _, feedAll_frames h, reduceOption_frames frames⟩

def emptyWriteBehind : CutFrame where
  payload := [104, 105]
  first := [2, 0, 104, 105]
  rest := [[]]
  length_lt := by decide
  two_le_first := by decide
  joined := rfl

theorem emptyWriteBehind_not_delivered :
    ¬ DeliversEach 18 [emptyWriteBehind] := by
  intro h
  rcases h with ⟨r, outs, hfeed, _⟩
  cases hfeed

end Record
end Fluxnode
