import Fluxnode.Timer.Creation

/-!
# Timers that a pass overlooks

When a callback creates a timer that expires no later than the callback's own,
the new timer lands in front of the index of the loop.  From then on some due
timer in front of the index has not run, and it is still in the array when the
call returns.
-/

namespace Fluxnode
namespace Timer

variable {func : Type _}

/-- A due timer among the first `n` that is not one of the expired ids. -/
def Overlooked (ts : Int) (expired : List Int) (timers : List (Entry func)) :
    Prop :=
  exists u, u ∈ timers ∧ u.expire ≤ ts ∧ u.id ∉ expired

theorem Overlooked.mono
    {ts : Int} {expired : List Int} {timers timers' : List (Entry func)}
    (h : Overlooked ts expired timers) (hsub : timers ⊆ timers') :
    Overlooked ts expired timers' := by
  rcases h with ⟨u, hu, hdue, hfree⟩
  exact ⟨u, hsub hu, hdue, hfree⟩

/-!
## Insertion into the front of the array
-/

/-- An insertion pushes a timer out of the front only by putting one that
expires no later into the front. -/
theorem mem_take_insertTimer
    {u v : Entry func} {timers : List (Entry func)} {n : Nat}
    (hsorted : timers.Pairwise Before) (hu : u ∈ timers.take n) :
    u ∈ (insertTimer v timers).take n ∨
      v ∈ (insertTimer v timers).take n ∧ v.expire ≤ u.expire := by
  induction timers generalizing n with
  | nil =>
      rw [List.take_nil] at hu
      cases hu
  | cons a rest ih =>
      cases n with
      | zero =>
          rw [List.take_zero] at hu
          cases hu
      | succ n =>
          have hua : a.expire ≤ u.expire := by
            rcases List.mem_cons.mp (List.mem_of_mem_take hu) with rfl | hrest
            · exact Int.le_refl _
            · exact (List.pairwise_cons.mp hsorted).1 u hrest
          by_cases hva : Before v a
          · have hinsert : insertTimer v (a :: rest) = v :: a :: rest := by
              rw [insertTimer, List.orderedInsert_cons, if_pos hva]
            rw [hinsert, List.take_succ_cons]
            exact Or.inr ⟨List.mem_cons_self, Int.le_trans hva hua⟩
          · have hinsert :
                insertTimer v (a :: rest) = a :: insertTimer v rest := by
              rw [insertTimer, List.orderedInsert_cons, if_neg hva]
              rfl
            rw [hinsert, List.take_succ_cons]
            rcases List.mem_cons.mp hu with rfl | hu
            · exact Or.inl List.mem_cons_self
            · rcases ih (List.pairwise_cons.mp hsorted).2 hu with h | ⟨h, hle⟩
              · exact Or.inl (List.mem_cons_of_mem a h)
              · exact Or.inr ⟨List.mem_cons_of_mem a h, hle⟩

theorem mem_take_insertTimer_of_le
    {u v : Entry func} {timers : List (Entry func)} {n : Nat}
    (hu : u ∈ timers.take n) (hle : v.expire ≤ u.expire) :
    v ∈ (insertTimer v timers).take n := by
  induction timers generalizing n with
  | nil =>
      rw [List.take_nil] at hu
      cases hu
  | cons a rest ih =>
      cases n with
      | zero =>
          rw [List.take_zero] at hu
          cases hu
      | succ n =>
          by_cases hva : Before v a
          · rw [insertTimer, List.orderedInsert_cons, if_pos hva]
            exact List.mem_cons_self
          · rw [insertTimer, List.orderedInsert_cons, if_neg hva,
              List.take_succ_cons]
            rcases List.mem_cons.mp hu with rfl | hu
            · exact absurd hle hva
            · exact List.mem_cons_of_mem a (ih hu)

theorem Overlooked.insertAll
    {ts : Int} {expired : List Int} {new timers : List (Entry func)} {n : Nat}
    (h : Overlooked ts expired (timers.take n))
    (hsorted : timers.Pairwise Before)
    (hfree : forall u, u ∈ new -> u.id ∉ expired) :
    Overlooked ts expired ((insertAll new timers).take n) := by
  induction new generalizing timers with
  | nil => exact h
  | cons v rest ih =>
      apply ih _ (insertTimer_sorted hsorted)
        (fun u hu => hfree u (List.mem_cons_of_mem v hu))
      rcases h with ⟨u, hu, hdue, hu'⟩
      rcases mem_take_insertTimer (v := v) hsorted hu with hin | ⟨hin, hle⟩
      · exact ⟨u, hin, hdue, hu'⟩
      · exact ⟨v, hin, Int.le_trans hle hdue, hfree v List.mem_cons_self⟩

/-- One creation that expires no later than an element of the front is enough
for the front to hold an overlooked timer. -/
theorem overlooked_insertAll
    {ts : Int} {expired : List Int} {new timers : List (Entry func)} {n : Nat}
    {t v : Entry func}
    (ht : t ∈ timers.take n) (hdue : t.expire ≤ ts)
    (hv : v ∈ new) (hle : v.expire ≤ t.expire)
    (hsorted : timers.Pairwise Before)
    (hfree : forall u, u ∈ new -> u.id ∉ expired) :
    Overlooked ts expired ((insertAll new timers).take n) := by
  induction new generalizing timers with
  | nil => cases hv
  | cons a rest ih =>
      have hsorted' := insertTimer_sorted (t := a) hsorted
      have hfree' : forall u, u ∈ rest -> u.id ∉ expired :=
        fun u hu => hfree u (List.mem_cons_of_mem a hu)
      have hfront : Overlooked ts expired ((insertTimer a timers).take n) ∨
          v ∈ rest ∧ t ∈ (insertTimer a timers).take n := by
        by_cases hat : a.expire ≤ t.expire
        · exact Or.inl ⟨a, mem_take_insertTimer_of_le ht hat,
            Int.le_trans hat hdue, hfree a List.mem_cons_self⟩
        · right
          constructor
          · rcases List.mem_cons.mp hv with rfl | hv
            · exact absurd hle hat
            · exact hv
          · rcases mem_take_insertTimer (v := a) hsorted ht with h | ⟨_, h⟩
            · exact h
            · exact absurd h hat
      rcases hfront with hfront | ⟨hv, ht⟩
      · exact hfront.insertAll hsorted' hfree'
      · exact ih ht hv hsorted' hfree'

/-!
## The ids of new timers
-/

theorem le_id_of_mem_createdBy
    {w : World func} {r : Nat} {id : Int} {calls : List (Call func)}
    {u : Entry func} (hu : u ∈ createdBy w r id calls) : id ≤ u.id := by
  induction calls generalizing r id with
  | nil => cases hu
  | cons c rest ih =>
      cases c with
      | setTimeout f delay =>
          rcases List.mem_cons.mp hu with rfl | hu
          · exact Int.le_refl _
          · have hle := ih hu
            lia
      | intervalTimer f interval =>
          rcases List.mem_cons.mp hu with rfl | hu
          · exact Int.le_refl _
          · have hle := ih hu
            lia
      | cancelTimer _ => exact ih hu
      | throws => exact ih hu

def UsedUp (s : State func) (expired : List Int) : Prop :=
  forall id, id ∈ expired -> id < s.nextID

theorem UsedUp.concat
    {s s' : State func} {expired : List Int} {t : Entry func}
    (h : UsedUp s expired) (hwf : WellFormed s) (ht : t ∈ s.timers)
    (hnext : s.nextID ≤ s'.nextID) : UsedUp s' (expired ++ [t.id]) := by
  intro id hid
  rcases List.mem_append.mp hid with hid | hid
  · exact Int.lt_of_lt_of_le (h id hid) hnext
  · rw [List.mem_singleton.mp hid]
    exact Int.lt_of_lt_of_le (hwf.below t ht) hnext

theorem createdIn_free
    {w : World func} {s : State func} {expired : List Int} {t : Entry func}
    (h : UsedUp s expired) (hwf : WellFormed s) (ht : t ∈ s.timers) :
    forall u, u ∈ createdIn w s t -> u.id ∉ expired ++ [t.id] := by
  intro u hu hmem
  have hlow := le_id_of_mem_createdBy hu
  have hhigh := h.concat hwf ht (Int.le_refl s.nextID) u.id hmem
  lia

/-!
## The loop
-/

theorem onTimerLoop_wellFormed
    {w : World func} {ts : Int} {fuel i : Nat} {expired expired' : List Int}
    {s s' : State func}
    (hcreates : w.OnlyCreates) (hwf : WellFormed s)
    (hloop : onTimerLoop w ts fuel i expired s = .returned s' expired') :
    WellFormed s' ∧ s.reads ≤ s'.reads := by
  induction fuel generalizing i expired s with
  | zero => cases hloop
  | succ fuel ih =>
      by_cases hround : exists t, s.timers[i]? = some t ∧ t.expire ≤ ts
      · rcases hround with ⟨t, hat, hdue⟩
        rcases invoke_created t hcreates hwf with
          ⟨s₁, hrun, hwf₁, _, hreads₁, _, _, _⟩
        have hmore := onTimerLoop_round hat hdue hrun hloop
        have hreads : s.reads ≤ s₁.reads := by lia
        rcases hmore with ⟨rfl, _⟩ | hmore
        · exact ⟨hwf₁, hreads⟩
        · rcases ih hwf₁ hmore with ⟨hwf', hreads'⟩
          exact ⟨hwf', Nat.le_trans hreads hreads'⟩
      · rcases onTimerLoop_over hround hloop with ⟨rfl, _⟩
        exact ⟨hwf, Nat.le_refl _⟩

theorem id_ne_of_mem_take
    {timers : List (Entry func)} {i : Nat} {t u : Entry func}
    (hnodup : (timers.map Entry.id).Nodup) (hat : timers[i]? = some t)
    (hu : u ∈ timers.take i) : u.id ≠ t.id := by
  intro hid
  have hsub : (timers.take (i + 1)).Sublist timers := List.take_sublist _ _
  have hpart := hnodup.sublist (hsub.map Entry.id)
  rw [List.take_add_one, hat, Option.toList_some, List.map_append,
    List.map_singleton] at hpart
  apply (List.nodup_append.mp hpart).2.2 u.id (List.mem_map_of_mem hu) t.id
  · exact List.mem_singleton_self _
  · exact hid

theorem onTimerLoop_overlooked
    {w : World func} {ts : Int} {fuel i : Nat} {expired expired' : List Int}
    {s s' : State func}
    (hcreates : w.OnlyCreates) (hwf : WellFormed s) (hused : UsedUp s expired)
    (hover : Overlooked ts expired (s.timers.take i))
    (hloop : onTimerLoop w ts fuel i expired s = .returned s' expired') :
    Overlooked ts expired' s'.timers := by
  induction fuel generalizing i expired s with
  | zero => cases hloop
  | succ fuel ih =>
      by_cases hround : exists t, s.timers[i]? = some t ∧ t.expire ≤ ts
      · rcases hround with ⟨t, hat, hdue⟩
        have ht : t ∈ s.timers := List.mem_of_getElem? hat
        rcases invoke_created t hcreates hwf with
          ⟨s₁, hrun, hwf₁, htimers₁, _, hnext₁, _, _⟩
        have hmore := onTimerLoop_round hat hdue hrun hloop
        have hnext : s.nextID ≤ s₁.nextID := by lia
        have hover₁ : Overlooked ts (expired ++ [t.id]) (s.timers.take i) := by
          rcases hover with ⟨u, hu, hudue, hu'⟩
          refine ⟨u, hu, hudue, ?_⟩
          intro hmem
          rcases List.mem_append.mp hmem with hmem | hmem
          · exact hu' hmem
          · exact id_ne_of_mem_take hwf.nodup hat hu (List.mem_singleton.mp hmem)
        have hover₂ :=
          hover₁.insertAll hwf.sorted
            (createdIn_free (w := w) hused hwf ht)
        rw [← htimers₁] at hover₂
        rcases hmore with ⟨rfl, rfl, _⟩ | hmore
        · exact hover₂.mono (List.take_subset i _)
        · apply ih hwf₁ (hused.concat hwf ht hnext) _ hmore
          exact hover₂.mono (List.take_subset_take_left _ (Nat.le_succ i))
      · rcases onTimerLoop_over hround hloop with ⟨rfl, rfl⟩
        exact hover.mono (List.take_subset i _)

/-- A loop that returns either was a pass or overlooked a timer. -/
theorem onTimerLoop_pass_or_overlooked
    {w : World func} {ts : Int} {fuel : Nat} {expired expired' : List Int}
    {s s' : State func} (front : List (Entry func)) {back : List (Entry func)}
    (hcreates : w.OnlyCreates) (hwf : WellFormed s) (hused : UsedUp s expired)
    (htimers : s.timers = front ++ back)
    (hloop : onTimerLoop w ts fuel front.length expired s =
      .returned s' expired') :
    (exists ran left r', Pass w ts s.reads s.nextID s.calls back ran left r') ∨
      Overlooked ts expired' s'.timers := by
  induction fuel generalizing front back expired s with
  | zero => cases hloop
  | succ fuel ih =>
      cases back with
      | nil =>
          left
          refine ⟨[], [], s.reads, Pass.stop ?_⟩
          intro t ht
          cases ht
      | cons t rest =>
          by_cases hdue : t.expire ≤ ts
          · have hat : s.timers[front.length]? = some t := by
              rw [htimers]
              simp
            have ht : t ∈ s.timers := List.mem_of_getElem? hat
            rcases invoke_created t hcreates hwf with
              ⟨s₁, hrun, hwf₁, htimers₁, hreads₁, hnext₁, hcalls₁, _⟩
            have hmore := onTimerLoop_round hat hdue hrun hloop
            have hnext : s.nextID ≤ s₁.nextID := by lia
            by_cases hbehind : forall u, u ∈ createdIn w s t ->
                t.expire < u.expire
            · have hsplit : s₁.timers =
                  (front ++ [t]) ++ insertAll (createdIn w s t) rest := by
                have hsorted := hwf.sorted
                rw [htimers] at hsorted
                rw [htimers₁, htimers, insertAll_behind hsorted hbehind]
              have hlength : (front ++ [t]).length = front.length + 1 := by
                rw [List.length_append, List.length_singleton]
              rcases hmore with ⟨_, _, t₁, hat₁, hbreak⟩ | hmore
              · have hsame : s₁.timers[front.length]? = some t := by
                  rw [hsplit]
                  simp
                rw [hsame] at hat₁
                cases hat₁
                exact absurd hdue (Int.not_le.mpr hbreak)
              · rw [← hlength] at hmore
                rcases ih (front ++ [t]) hwf₁ (hused.concat hwf ht hnext) hsplit
                    hmore with
                  ⟨ran, left, r', hpass⟩ | hover
                · left
                  rw [hreads₁, hnext₁, hcalls₁] at hpass
                  exact ⟨_, _, _, Pass.run hdue rfl hbehind hpass⟩
                · exact Or.inr hover
            · right
              have hbad : exists v, v ∈ createdIn w s t ∧
                  v.expire ≤ t.expire := by
                by_contra hnone
                apply hbehind
                intro u hu
                by_cases hlt : t.expire < u.expire
                · exact hlt
                · exact absurd ⟨u, hu, Int.not_lt.mp hlt⟩ hnone
              rcases hbad with ⟨v, hv, hle⟩
              have htfront : t ∈ s.timers.take (front.length + 1) := by
                rw [List.take_add_one, hat]
                exact List.mem_append_right _ (List.mem_singleton_self t)
              have hover := overlooked_insertAll htfront hdue hv hle hwf.sorted
                (createdIn_free (w := w) hused hwf ht)
              rw [← htimers₁] at hover
              rcases hmore with ⟨rfl, rfl, _⟩ | hmore
              · exact hover.mono (List.take_subset _ _)
              · exact onTimerLoop_overlooked hcreates hwf₁
                  (hused.concat hwf ht hnext) hover hmore
          · left
            refine ⟨[], t :: rest, s.reads, Pass.stop ?_⟩
            intro u hu
            cases hu
            exact Int.not_le.mp hdue

end Timer
end Fluxnode
