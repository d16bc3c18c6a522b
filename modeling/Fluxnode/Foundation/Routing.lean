import Fluxnode.Foundation.Stream

/-!
# Two receivers on one stream

An input goes to one of two receivers, to both or to none.  Each receiver does
with the stream what it does with its own inputs, in the same order.
-/

namespace Fluxnode
namespace Foundation

variable {σ τ ι ω κ : Type _}

/-- A receiver that passes over what is not for it. -/
def only (forIt : ι -> Bool) (step : σ -> ι -> Option (σ × List ω)) (s : σ)
    (i : ι) : Option (σ × List ω) :=
  if forIt i then step s i else some (s, [])

def both (first : σ -> ι -> Option (σ × List ω))
    (second : τ -> ι -> Option (τ × List ω)) (s : σ × τ) (i : ι) :
    Option ((σ × τ) × List ω) :=
  match first s.1 i with
  | none => none
  | some (s', out) =>
      match second s.2 i with
      | none => none
      | some (t', out') => some ((s', t'), out ++ out')

theorem feedAll_only {forIt : ι -> Bool}
    {step : σ -> ι -> Option (σ × List ω)} {s s' : σ} {is : List ι}
    {outs : List (List ω)}
    (h : feedAll step s (is.filter forIt) = some (s', outs)) :
    exists outs', feedAll (only forIt step) s is = some (s', outs') ∧
      outs'.flatten = outs.flatten := by
  induction is generalizing s outs with
  | nil => exact ⟨outs, h, rfl⟩
  | cons i rest ih =>
      cases hfor : forIt i with
      | false =>
          rw [List.filter_cons_of_neg (by simp [hfor])] at h
          rcases ih h with ⟨outs', hrun, heq⟩
          refine ⟨[] :: outs', feedAll_cons_of_some ?_ hrun, heq⟩
          rw [only, hfor, if_neg Bool.false_ne_true]
      | true =>
          rw [List.filter_cons_of_pos (by simp [hfor])] at h
          cases hstep : step s i with
          | none => simp [feedAll, hstep] at h
          | some mid =>
              rcases mid with ⟨mid, out⟩
              cases hrest : feedAll step mid (rest.filter forIt) with
              | none => simp [feedAll, hstep, hrest] at h
              | some last =>
                  rcases last with ⟨last, lastOuts⟩
                  rw [feedAll_cons_of_some hstep hrest] at h
                  cases h
                  rcases ih hrest with ⟨outs', hrun, heq⟩
                  refine ⟨out :: outs', feedAll_cons_of_some ?_ hrun, ?_⟩
                  · rw [only, hfor, if_pos rfl]
                    exact hstep
                  · rw [List.flatten_cons, List.flatten_cons, heq]

theorem feedAll_only_none {forIt : ι -> Bool}
    {step : σ -> ι -> Option (σ × List ω)} {s : σ} {is : List ι}
    (h : feedAll step s (is.filter forIt) = none) :
    feedAll (only forIt step) s is = none := by
  induction is generalizing s with
  | nil => cases h
  | cons i rest ih =>
      cases hfor : forIt i with
      | false =>
          rw [List.filter_cons_of_neg (by simp [hfor])] at h
          simp [feedAll, only, hfor, ih h]
      | true =>
          rw [List.filter_cons_of_pos (by simp [hfor])] at h
          cases hstep : step s i with
          | none => simp [feedAll, only, hfor, hstep]
          | some mid =>
              rcases mid with ⟨mid, out⟩
              cases hrest : feedAll step mid (rest.filter forIt) with
              | none => simp [feedAll, only, hfor, hstep, ih hrest]
              | some last => simp [feedAll, hstep, hrest] at h

section Both

variable {first : σ -> ι -> Option (σ × List ω)}
  {second : τ -> ι -> Option (τ × List ω)}

/-- A view of the outputs does not see those of a receiver. -/
def Hidden (step : σ -> ι -> Option (σ × List ω)) (view : ω -> Option κ) :
    Prop :=
  forall s i s' out, step s i = some (s', out) -> out.filterMap view = []

theorem Hidden.only {view : ω -> Option κ} (h : Hidden first view)
    (forIt : ι -> Bool) : Hidden (only forIt first) view := by
  intro s i s' out hstep
  rw [Foundation.only] at hstep
  split at hstep
  · exact h s i s' out hstep
  · cases hstep
    rfl

/-- What a view sees of both receivers is what it sees of the one that it does
not hide. -/
theorem feedAll_both {κ' : Type _} {view : ω -> Option κ}
    {view' : ω -> Option κ'} (hview : Hidden second view)
    (hview' : Hidden first view') {s s' : σ} {t t' : τ} {is : List ι}
    {outs outs' : List (List ω)}
    (hfirst : feedAll first s is = some (s', outs))
    (hsecond : feedAll second t is = some (t', outs')) :
    exists all, feedAll (both first second) (s, t) is = some ((s', t'), all) ∧
      all.flatten.filterMap view = outs.flatten.filterMap view ∧
      all.flatten.filterMap view' = outs'.flatten.filterMap view' := by
  induction is generalizing s t outs outs' with
  | nil =>
      cases hfirst
      cases hsecond
      exact ⟨[], rfl, rfl, rfl⟩
  | cons i rest ih =>
      cases hstep : first s i with
      | none => simp [feedAll, hstep] at hfirst
      | some mid =>
          rcases mid with ⟨mid, out⟩
          cases hstep' : second t i with
          | none => simp [feedAll, hstep'] at hsecond
          | some mid' =>
              rcases mid' with ⟨mid', out'⟩
              cases hrest : feedAll first mid rest with
              | none => simp [feedAll, hstep, hrest] at hfirst
              | some last =>
                  rcases last with ⟨last, lastOuts⟩
                  cases hrest' : feedAll second mid' rest with
                  | none => simp [feedAll, hstep', hrest'] at hsecond
                  | some last' =>
                      rcases last' with ⟨last', lastOuts'⟩
                      rw [feedAll_cons_of_some hstep hrest] at hfirst
                      rw [feedAll_cons_of_some hstep' hrest'] at hsecond
                      cases hfirst
                      cases hsecond
                      have hsilent := hview _ _ _ _ hstep'
                      have hsilent' := hview' _ _ _ _ hstep
                      rcases ih hrest hrest' with ⟨all, hall, heq, heq'⟩
                      refine ⟨(out ++ out') :: all,
                        feedAll_cons_of_some ?_ hall, ?_, ?_⟩
                      · simp only [both, hstep, hstep']
                      · simp only [List.flatten_cons, List.filterMap_append,
                          hsilent, heq, List.append_nil]
                      · simp only [List.flatten_cons, List.filterMap_append,
                          hsilent', heq', List.nil_append]

theorem feedAll_both_none {s : σ} (t : τ) {is : List ι}
    (h : feedAll first s is = none) :
    feedAll (both first second) (s, t) is = none := by
  induction is generalizing s t with
  | nil => cases h
  | cons i rest ih =>
      cases hstep : first s i with
      | none => simp [feedAll, both, hstep]
      | some mid =>
          rcases mid with ⟨mid, out⟩
          cases hstep' : second t i with
          | none => simp [feedAll, both, hstep, hstep']
          | some mid' =>
              rcases mid' with ⟨mid', out'⟩
              cases hrest : feedAll first mid rest with
              | none => simp [feedAll, both, hstep, hstep', ih mid' hrest]
              | some last => simp [feedAll, hstep, hrest] at h

end Both

end Foundation
end Fluxnode
