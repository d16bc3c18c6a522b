import Fluxnode.Timer.Model
import Mathlib.Data.List.Sort
import Mathlib.Data.List.Nodup

/-!
# The timer array as an ordered list

Insertion at the index that `__timersFindIdx` returns is insertion into a list
that is ordered by expiry, and removal at the index of an id drops the timer
with that id.  Both keep the array well formed.
-/

namespace Fluxnode
namespace Timer

variable {func : Type _}

def Before (a b : Entry func) : Prop :=
  a.expire ≤ b.expire

instance : DecidableRel (@Before func) :=
  fun a b => inferInstanceAs (Decidable (a.expire ≤ b.expire))

instance : IsTrans (Entry func) Before where
  trans _ _ _ := Int.le_trans

instance : Std.Total (@Before func) where
  total a b := Int.le_total a.expire b.expire

def insertTimer (t : Entry func) (timers : List (Entry func)) :
    List (Entry func) :=
  timers.orderedInsert Before t

def withoutId (id : Int) (timers : List (Entry func)) : List (Entry func) :=
  timers.filter (fun t => t.id != id)

/-!
## Insertion
-/

theorem timersInsertAt_of_le {timers : List (Entry func)} {t : Entry func}
    {idx : Nat} (hidx : idx ≤ timers.length) :
    timersInsertAt timers t idx =
      timers.take idx ++ t :: timers.drop idx := by
  unfold timersInsertAt
  by_cases hzero : idx = 0
  · rw [if_pos hzero, hzero]
    rfl
  · rw [if_neg hzero]
    by_cases hlast : idx = timers.length
    · rw [if_pos hlast, hlast, List.take_length, List.drop_length]
    · rw [if_neg hlast, Js.slice_zero_of_le hidx, Js.slice_length_of_le hidx]
      simp

theorem timersInsertAt_timersFindIdx
    (timers : List (Entry func)) (t : Entry func) :
    timersInsertAt timers t (timersFindIdx timers t.expire) =
      insertTimer t timers := by
  have hidx : timersFindIdx timers t.expire ≤ timers.length :=
    List.findIdx_le_length
  rw [timersInsertAt_of_le hidx, insertTimer, List.orderedInsert_eq_take_drop,
    List.takeWhile_eq_take_findIdx_not, List.dropWhile_eq_drop_findIdx_not]
  simp only [decide_not, Bool.not_not]
  rfl

theorem mem_insertTimer {t u : Entry func} {timers : List (Entry func)} :
    u ∈ insertTimer t timers <-> u = t ∨ u ∈ timers := by
  rw [insertTimer, List.mem_orderedInsert]

theorem insertTimer_perm (t : Entry func) (timers : List (Entry func)) :
    (insertTimer t timers).Perm (t :: timers) :=
  List.perm_orderedInsert Before t timers

theorem insertTimer_sorted {t : Entry func} {timers : List (Entry func)}
    (h : timers.Pairwise Before) : (insertTimer t timers).Pairwise Before :=
  h.orderedInsert t timers

theorem insertTimer_ne_nil (t : Entry func) (timers : List (Entry func)) :
    insertTimer t timers ≠ [] := by
  intro hnil
  have hmem : t ∈ insertTimer t timers := mem_insertTimer.mpr (Or.inl rfl)
  rw [hnil] at hmem
  cases hmem

theorem insertTimer_append_of_lt
    {t : Entry func} {front back : List (Entry func)}
    (hfront : forall u, u ∈ front -> u.expire < t.expire) :
    insertTimer t (front ++ back) = front ++ insertTimer t back := by
  induction front with
  | nil => rfl
  | cons u rest ih =>
      have hu : ¬ Before t u := by
        have hlt := hfront u List.mem_cons_self
        unfold Before
        lia
      have hrest : insertTimer t (rest ++ back) = rest ++ insertTimer t back :=
        ih (fun v hv => hfront v (List.mem_cons_of_mem u hv))
      rw [insertTimer, List.cons_append, List.orderedInsert_cons, if_neg hu]
      exact congrArg (List.cons u) hrest

/-!
## Removal
-/

theorem timersFindIdxId_of_not_mem {timers : List (Entry func)} {id : Int}
    (h : id ∉ timers.map Entry.id) : timersFindIdxId timers id = -1 := by
  have hnone : timers.findIdx? (fun t => t.id == id) = none := by
    rw [List.findIdx?_eq_none_iff]
    intro t ht
    rw [beq_eq_false_iff_ne]
    intro hid
    exact h (List.mem_map.mpr ⟨t, ht, hid⟩)
  rw [timersFindIdxId, hnone]

theorem timersFindIdxId_of_split
    {front back : List (Entry func)} {t : Entry func}
    (h : t.id ∉ front.map Entry.id) :
    timersFindIdxId (front ++ t :: back) t.id = front.length := by
  have hnone : front.findIdx? (fun u => u.id == t.id) = none := by
    rw [List.findIdx?_eq_none_iff]
    intro u hu
    rw [beq_eq_false_iff_ne]
    intro hid
    exact h (List.mem_map.mpr ⟨u, hu, hid⟩)
  rw [timersFindIdxId, List.findIdx?_append, hnone]
  simp [List.findIdx?_cons]

theorem timersRemoveAt_of_split
    {front back : List (Entry func)} {t : Entry func} :
    timersRemoveAt (front ++ t :: back) front.length =
      (some t, front ++ back) := by
  have hlen : (front ++ t :: back).length = front.length + back.length + 1 := by
    rw [List.length_append, List.length_cons]
    lia
  unfold timersRemoveAt
  cases front with
  | nil => rfl
  | cons u rest =>
      have hzero : ¬ ((u :: rest).length : Int) = 0 := by
        rw [List.length_cons]
        lia
      have hlast :
          ¬ ((u :: rest).length : Int) = (u :: rest ++ t :: back).length := by
        lia
      have hnext : ((u :: rest).length : Int) + 1 =
          ((u :: rest).length + 1 : Nat) := by
        lia
      rw [if_neg hzero, if_neg hlast, Js.slice_zero_of_le (by lia), hnext,
        Js.slice_length_of_le (by lia), elementAt, if_neg (by lia)]
      simp

/-- `__timersRemoveAt` on the `-1` of a failed lookup removes nothing and has
nothing to return. -/
theorem timersRemoveAt_subset (timers : List (Entry func)) (idx : Int) :
    (timersRemoveAt timers idx).2 ⊆ timers := by
  unfold timersRemoveAt
  split
  · exact (List.tail_sublist timers).subset
  · split
    · exact (List.dropLast_sublist timers).subset
    · intro t ht
      rcases List.mem_append.mp ht with ht | ht
      · exact Js.slice_subset _ _ _ ht
      · exact Js.slice_subset _ _ _ ht

theorem timersRemoveAt_neg_one (timers : List (Entry func)) :
    (timersRemoveAt timers (-1)).1 = none := by
  unfold timersRemoveAt
  rw [if_neg (by lia), if_neg (by lia)]
  rfl

theorem withoutId_of_split
    {front back : List (Entry func)} {t : Entry func}
    (hnodup : ((front ++ t :: back).map Entry.id).Nodup) :
    withoutId t.id (front ++ t :: back) = front ++ back := by
  rw [List.map_append, List.map_cons, List.nodup_middle] at hnodup
  have hnot := (List.nodup_cons.mp hnodup).1
  rw [List.mem_append, not_or] at hnot
  have hkeep : forall part : List (Entry func),
      t.id ∉ part.map Entry.id -> withoutId t.id part = part := by
    intro part hpart
    apply List.filter_eq_self.mpr
    intro u hu
    rw [bne_iff_ne]
    intro hid
    exact hpart (List.mem_map.mpr ⟨u, hu, hid⟩)
  rw [withoutId, List.filter_append, List.filter_cons_of_neg (by simp)]
  exact congrArg₂ List.append (hkeep front hnot.1) (hkeep back hnot.2)

theorem withoutId_of_not_mem {timers : List (Entry func)} {id : Int}
    (h : id ∉ timers.map Entry.id) : withoutId id timers = timers := by
  apply List.filter_eq_self.mpr
  intro t ht
  rw [bne_iff_ne]
  intro hid
  exact h (List.mem_map.mpr ⟨t, ht, hid⟩)

theorem mem_withoutId {t : Entry func} {id : Int}
    {timers : List (Entry func)} :
    t ∈ withoutId id timers <-> t ∈ timers ∧ t.id ≠ id := by
  simp [withoutId]

theorem timersRemoveAt_timersFindIdxId
    {timers : List (Entry func)} {t : Entry func}
    (hnodup : (timers.map Entry.id).Nodup) (ht : t ∈ timers) :
    timersRemoveAt timers (timersFindIdxId timers t.id) =
      (some t, withoutId t.id timers) := by
  rcases List.append_of_mem ht with ⟨front, back, rfl⟩
  have hfront : t.id ∉ front.map Entry.id := by
    rw [List.map_append, List.map_cons, List.nodup_middle] at hnodup
    have hnot := (List.nodup_cons.mp hnodup).1
    exact fun hmem => hnot (List.mem_append_left _ hmem)
  rw [timersFindIdxId_of_split hfront, timersRemoveAt_of_split,
    withoutId_of_split hnodup]

end Timer
end Fluxnode
