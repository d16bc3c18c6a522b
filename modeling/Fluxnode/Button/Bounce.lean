import Fluxnode.Button.Count

/-!
# Bounce and the array of presses

`button_isr` drops what comes when its array is full.  Bounce takes up the
array, too, since it is only left out when the presses are counted.
-/

namespace Fluxnode
namespace Button

open Foundation

/-- `button_isr` with an array that is never full. -/
def unboundedIsr (s : ButtonService) (tick : UInt32) : ButtonService :=
  record (startTimer s) tick

def kept (s : ButtonService) (ticks : List UInt32) : List UInt32 :=
  ticks.take (buttonPressNumMax - 1 - s.presses.length)

def dropped (s : ButtonService) (ticks : List UInt32) : List UInt32 :=
  ticks.drop (buttonPressNumMax - 1 - s.presses.length)

def lastPress : List UInt32 -> UInt32
  | [] => 0
  | first :: rest => (spaced Apart first rest).getLastD first

/-- No interrupt that comes when the array is full is a press of its own. -/
def DropsBounce (s : ButtonService) (ticks : List UInt32) : Prop :=
  forall tick, tick ∈ dropped s ticks ->
    ¬ Apart (lastPress (s.presses ++ kept s ticks)) tick

/-!
## What a window leaves
-/

theorem startTimer_reported (s : ButtonService) :
    (startTimer s).reported = s.reported := by
  unfold startTimer
  split <;> rfl

theorem buttonIsr_reported (s : ButtonService) (tick : UInt32) :
    (buttonIsr s tick).reported = s.reported := by
  simp only [buttonIsr]
  split
  · exact startTimer_reported s
  · exact startTimer_reported s

theorem unboundedIsr_presses (s : ButtonService) (tick : UInt32) :
    (unboundedIsr s tick).presses = s.presses ++ [tick] := by
  rw [unboundedIsr, record, startTimer_presses]

theorem unboundedIsr_reported (s : ButtonService) (tick : UInt32) :
    (unboundedIsr s tick).reported = s.reported :=
  startTimer_reported s

theorem foldl_buttonIsr (s : ButtonService) (ticks : List UInt32) :
    (ticks.foldl buttonIsr s).presses = s.presses ++ kept s ticks ∧
      (ticks.foldl buttonIsr s).reported = s.reported := by
  induction ticks generalizing s with
  | nil => simp [kept]
  | cons tick rest ih =>
      rcases ih (buttonIsr s tick) with ⟨hpresses, hreported⟩
      rw [List.foldl_cons, hpresses, hreported, buttonIsr_reported]
      constructor
      · unfold kept
        rw [buttonIsr_presses]
        by_cases hroom : s.presses.length < buttonPressNumMax - 1
        · have hsub : buttonPressNumMax - 1 - s.presses.length =
              buttonPressNumMax - 1 - (s.presses.length + 1) + 1 := by
            lia
          rw [if_pos hroom, List.length_append, List.length_singleton, hsub,
            List.take_succ_cons, List.append_assoc, List.singleton_append]
        · have hzero : buttonPressNumMax - 1 - s.presses.length = 0 := by
            lia
          rw [if_neg hroom, hzero, List.take_zero, List.take_zero]
      · rfl

theorem foldl_unboundedIsr (s : ButtonService) (ticks : List UInt32) :
    (ticks.foldl unboundedIsr s).presses = s.presses ++ ticks ∧
      (ticks.foldl unboundedIsr s).reported = s.reported := by
  induction ticks generalizing s with
  | nil => simp
  | cons tick rest ih =>
      rcases ih (unboundedIsr s tick) with ⟨hpresses, hreported⟩
      rw [List.foldl_cons, hpresses, hreported, unboundedIsr_reported,
        unboundedIsr_presses, List.append_assoc]
      exact ⟨rfl, rfl⟩

theorem kept_append_dropped (s : ButtonService) (ticks : List UInt32) :
    kept s ticks ++ dropped s ticks = ticks :=
  List.take_append_drop _ ticks

theorem dropped_of_nil {s : ButtonService} {ticks : List UInt32}
    (h : s.presses ++ kept s ticks = []) : dropped s ticks = [] := by
  rcases List.append_eq_nil_iff.mp h with ⟨hpresses, hkept⟩
  unfold kept dropped at *
  rw [hpresses] at hkept ⊢
  cases ticks with
  | nil => rfl
  | cons tick rest => cases hkept

theorem dropsBounce_of_le {s : ButtonService} {ticks : List UInt32}
    (h : s.presses.length + ticks.length < buttonPressNumMax) :
    DropsBounce s ticks := by
  have hnone : dropped s ticks = [] :=
    List.drop_eq_nil_of_le (by lia)
  intro tick hmem
  rw [hnone] at hmem
  cases hmem

/-!
## The counts
-/

/-- More interrupts do not change the count exactly if none of them is a press
behind the last one that counts. -/
theorem buttonPressCount_append_iff {front : List UInt32} (hne : front ≠ [])
    (back : List UInt32) :
    buttonPressCount front = buttonPressCount (front ++ back) <->
      forall tick, tick ∈ back -> ¬ Apart (lastPress front) tick := by
  cases front with
  | nil => exact absurd rfl hne
  | cons first rest =>
      rw [List.cons_append, buttonPressCount_cons, buttonPressCount_cons,
        spaced_append, List.length_append, ← spaced_eq_nil_iff,
        ← List.length_eq_zero_iff, lastPress]
      lia

/-- For every state and every sequence of interrupts: the callback reports what
it would report with an array that is never full, exactly if only bounce is
dropped. -/
theorem reported_eq_unbounded_iff (s : ButtonService) (ticks : List UInt32) :
    (buttonCallback (ticks.foldl buttonIsr s)).reported =
        (buttonCallback (ticks.foldl unboundedIsr s)).reported <->
      DropsBounce s ticks := by
  rcases foldl_buttonIsr s ticks with ⟨hpresses, hreported⟩
  rcases foldl_unboundedIsr s ticks with ⟨hall, hreported'⟩
  have hsplit : s.presses ++ ticks =
      (s.presses ++ kept s ticks) ++ dropped s ticks := by
    rw [List.append_assoc, kept_append_dropped]
  simp only [buttonCallback, hpresses, hreported, hall, hreported', hsplit]
  rw [List.append_cancel_left_eq, List.singleton_inj]
  by_cases hnil : s.presses ++ kept s ticks = []
  · have hdropped := dropped_of_nil hnil
    simp [hdropped, DropsBounce]
  · exact buttonPressCount_append_iff hnil (dropped s ticks)

theorem second_press_hidden :
    ¬ forall (s : ButtonService) (ticks : List UInt32),
      (buttonCallback (ticks.foldl buttonIsr s)).reported =
        (buttonCallback (ticks.foldl unboundedIsr s)).reported := by
  intro hall
  have hcounts := hall buttonServiceStart [0, 0, 0, 0, 0, 1, 1, 1, 1, 1, 100]
  revert hcounts
  decide

end Button
end Fluxnode
