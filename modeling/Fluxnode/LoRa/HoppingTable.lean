import Fluxnode.Foundation.Run
import Fluxnode.LoRa.Main

/-!
# The hopping table

`set_hopping` frees the old table first, then looks at its arguments, and writes
the entry count and `REG_HOP_PERIOD` in other places.  A call keeps the table and
the register together when it turns hopping off, when it is refused without a
table, or when every element of its array is there.
-/

namespace Fluxnode
namespace LoRa

open Foundation
open Js (Number)

/-!
## Calls
-/

/-- A call of `LoRa.setHopping`, with what `malloc` does in it. -/
structure HopCall where
  hops : Number
  hopfreqs : Option Hopfreqs
  block : Option (Addr × List Number)

def HopCall.program (c : HopCall) : Prog Returned :=
  setHopping c.hops c.hopfreqs c.block

def HopCall.hopsInt (c : HopCall) : Int32 :=
  Js.requireInt c.hops

def HopCall.period (c : HopCall) : UInt8 :=
  c.hopsInt.toUInt32.toUInt8

/-- The elements of the array; something else has none. -/
def HopCall.elements (c : HopCall) : List Element :=
  match c.hopfreqs with
  | none => []
  | some hopfreqs => hopfreqs.elements

theorem HopCall.length_elements (c : HopCall) :
    c.elements.length < 2 ^ 32 := by
  unfold HopCall.elements
  split
  · decide
  · rename_i hopfreqs _
    exact hopfreqs.length_lt

def hopsOn905 : HopCall where
  hops := .finite 5
  hopfreqs := some ⟨[.number (.finite 905)], by decide⟩
  block := some (0, [.nan])

/-- The first part of `set_hopping`. -/
def freeTable : Prog Unit :=
  .perform .getFqtable (fun table =>
    match table with
    | some table =>
        .perform (.free table) (fun _ =>
          .perform (.setFqtable none) (fun _ => .done ()))
    | none => .done ())

def HopCall.finish (c : HopCall) (stored : Bool) : Prog Returned :=
  if stored then
    .perform (.writeReg regHopPeriod c.period) (fun _ => .done (.boolean true))
  else
    .done .throws

def HopCall.storeTable (c : HopCall) : Prog Returned :=
  .perform (.setFqtableEntries (UInt32.ofNat c.elements.length)) (fun _ =>
    .perform (.malloc (8 * UInt32.ofNat c.elements.length) c.block)
      (fun table => .perform (.setFqtable table) (fun _ =>
        (storeElements 0 c.elements).bind c.finish)))

def HopCall.behindFree (c : HopCall) : Prog Returned :=
  if c.hopsInt = 0 then
    .perform (.writeReg regHopPeriod c.period) (fun _ => .done (.boolean true))
  else if c.elements = [] then
    .done (.boolean false)
  else
    c.storeTable

theorem HopCall.program_eq (c : HopCall) :
    c.program = freeTable.bind (fun _ => c.behindFree) := by
  rcases c with ⟨hops, hopfreqs, block⟩
  change Program.perform Op.getFqtable _ = Program.perform Op.getFqtable _
  congr 1
  funext table
  -- whether the array has elements is looked at in two ways
  rcases hopfreqs with _ | ⟨_ | ⟨e, rest⟩, hlength⟩ <;> cases table <;> rfl

/-!
## The parts of a call
-/

structure Freed (s s' : Radio) : Prop where
  chip : s'.chip = s.chip
  fqtable : s'.fqtable = none
  fqtableEntries : s'.fqtableEntries = s.fqtableEntries

theorem freed_of_run {s s' : Radio} {u : Unit}
    (h : freeTable.run exec s = some (s', u)) : Freed s s' := by
  unfold freeTable at h
  rw [Program.run_perform, exec_getFqtable, Option.bind_some] at h
  cases htable : s.fqtable with
  | none =>
      rw [htable] at h
      cases h
      exact ⟨rfl, htable, rfl⟩
  | some table =>
      rw [htable] at h
      simp only [Program.run_perform, exec, Program.run_done,
        Option.bind_eq_some_iff, Option.ite_none_right_eq_some] at h
      rcases h with ⟨freed, ⟨_, hfreed⟩, _, hset, hdone⟩
      cases hfreed
      cases hset
      cases hdone
      exact ⟨rfl, rfl, rfl⟩

structure Stored (s s' : Radio) : Prop where
  chip : s'.chip = s.chip
  fqtable : s'.fqtable = s.fqtable
  fqtableEntries : s'.fqtableEntries = s.fqtableEntries

theorem storeEntry_some {s s' : Radio} {table : Option Addr} {i : Nat}
    {x : Number} {u : Unit}
    (h : exec (.storeEntry table i x) s = some (s', u)) :
    exists a es, table = some a ∧ s.heap a = some es ∧ i < es.length ∧
      s' = s.setBlock a (some (es.set i ⟨x, true⟩)) := by
  cases table with
  | none => cases h
  | some a =>
      simp only [exec] at h
      split at h
      · cases h
      · rename_i es hes
        simp only [Option.ite_none_right_eq_some] at h
        rcases h with ⟨hi, heq⟩
        cases heq
        exact ⟨a, es, rfl, hes, hi, rfl⟩

theorem stored_of_run {elements : List Element} {i : Nat} {s s' : Radio}
    {b : Bool} (h : (storeElements i elements).run exec s = some (s', b)) :
    Stored s s' ∧ (b = true ↔ Element.throws ∉ elements) := by
  induction elements generalizing i s with
  | nil =>
      cases h
      exact ⟨⟨rfl, rfl, rfl⟩, by simp⟩
  | cons e rest ih =>
      cases e with
      | number x =>
          simp only [storeElements, getFqtable, access, Program.bind_eq,
            Program.op_bind, Program.run_perform, exec_getFqtable,
            Option.bind_some, Option.bind_eq_some_iff] at h
          rcases h with ⟨⟨t, u⟩, hstore, hrest⟩
          rcases storeEntry_some hstore with ⟨a, es, _, _, _, ht⟩
          subst t
          rcases ih hrest with ⟨hstored, hb⟩
          exact ⟨⟨hstored.chip, hstored.fqtable, hstored.fqtableEntries⟩,
            by simp [hb]⟩
      | missing =>
          rcases ih h with ⟨hstored, hb⟩
          exact ⟨hstored, by simp [hb]⟩
      | throws =>
          cases h
          exact ⟨⟨rfl, rfl, rfl⟩, by simp⟩

theorem filled_of_run {xs : List Number} {i : Nat} {s s' : Radio} {b : Bool}
    {done old : List Entry} {a : Addr}
    (h : (storeElements i (xs.map Element.number)).run exec s = some (s', b))
    (htable : s.fqtable = some a) (hblock : s.heap a = some (done ++ old))
    (hi : done.length = i) (hold : old.length ≤ xs.length) :
    s'.heap a = some (done ++ xs.map (fun x => ⟨x, true⟩)) := by
  induction xs generalizing i s done old with
  | nil =>
      cases h
      rw [hblock, List.eq_nil_of_length_eq_zero (Nat.le_zero.mp hold)]
      rfl
  | cons x rest ih =>
      simp only [List.map_cons, storeElements, getFqtable, access,
        Program.bind_eq, Program.op_bind, Program.run_perform,
        exec_getFqtable, Option.bind_some, Option.bind_eq_some_iff] at h
      rcases h with ⟨⟨t, u⟩, hstore, hrest⟩
      rcases storeEntry_some hstore with ⟨a', es, ha', hes, hlt, ht⟩
      rw [htable] at ha'
      cases ha'
      rw [hblock] at hes
      cases hes
      subst t
      cases old with
      | nil =>
          rw [List.append_nil, hi] at hlt
          exact absurd hlt (Nat.lt_irrefl i)
      | cons e old =>
          have hset : (done ++ e :: old).set i ⟨x, true⟩ =
              (done ++ [⟨x, true⟩]) ++ old := by
            subst i
            simp
          have hblock' : (s.setBlock a
              (some ((done ++ e :: old).set i ⟨x, true⟩))).heap a =
                some ((done ++ [⟨x, true⟩]) ++ old) := by
            simp [Radio.setBlock, hset]
          have hnext := ih hrest htable hblock' (by simp [hi])
            (by simpa using hold)
          simpa using hnext

theorem storeTable_split {c : HopCall} {s s' : Radio} {r : Returned}
    (h : c.storeTable.run exec s = some (s', r)) :
    exists s₁ table s₂ stored,
      exec (.malloc (8 * UInt32.ofNat c.elements.length) c.block)
        { s with fqtableEntries := UInt32.ofNat c.elements.length } =
        some (s₁, table) ∧
      (storeElements 0 c.elements).run exec { s₁ with fqtable := table } =
        some (s₂, stored) ∧
      (c.finish stored).run exec s₂ = some (s', r) := by
  unfold HopCall.storeTable at h
  simp only [Program.run_perform, Program.run_bind, exec_setFqtableEntries,
    exec_setFqtable, Option.bind_some, Option.bind_eq_some_iff] at h
  rcases h with ⟨⟨s₁, table⟩, hmalloc, ⟨s₂, stored⟩, hstore, hfinish⟩
  exact ⟨s₁, table, s₂, stored, hmalloc, hstore, hfinish⟩

theorem malloc_some {size : UInt32} {block : Option (Addr × List Number)}
    {s s' : Radio} {a : Addr}
    (h : exec (.malloc size block) s = some (s', some a)) :
    exists es, s'.heap a = some es ∧ 8 * es.length = size.toNat := by
  cases block with
  | none => cases h
  | some block =>
      rcases block with ⟨a', old⟩
      simp only [exec, Option.ite_none_right_eq_some] at h
      rcases h with ⟨⟨_, hsize⟩, heq⟩
      cases heq
      refine ⟨_, Function.update_self _ _ _, ?_⟩
      rw [List.length_map]
      exact hsize

theorem length_le_of_size {n k : Nat}
    (h : 8 * k = (8 * UInt32.ofNat n).toNat) (hn : n < 2 ^ 32) : k ≤ n := by
  rw [UInt32.toNat_mul, UInt32.toNat_ofNat_of_lt' hn] at h
  have hmod := Nat.mod_le (UInt32.toNat 8 * n) (2 ^ 32)
  rw [← h] at hmod
  have height : UInt32.toNat 8 = 8 := rfl
  lia

theorem storeTable_returns {c : HopCall} {s s' : Radio} {r : Returned}
    (h : c.storeTable.run exec s = some (s', r)) :
    r = .throws ∧ Element.throws ∈ c.elements ∨
      r = .boolean true ∧ Element.throws ∉ c.elements ∧
        s'.chip.regs regHopPeriod = c.period := by
  rcases storeTable_split h with
    ⟨s₁, table, s₂, stored, hmalloc, hstore, hfinish⟩
  have hthrows := (stored_of_run hstore).2
  cases stored with
  | true =>
      have hperiod : (s₂.chip.write regHopPeriod c.period).regs regHopPeriod =
          c.period := Chip.write_regs_self _ (by decide)
      cases hfinish
      exact .inr ⟨rfl, hthrows.mp rfl, hperiod⟩
  | false =>
      cases hfinish
      exact .inl ⟨rfl, by simpa using hthrows⟩

theorem storeTable_table {c : HopCall} {s s' : Radio} {r : Returned}
    {xs : List Number} (hxs : c.elements = xs.map Element.number)
    (hne : xs ≠ []) (h : c.storeTable.run exec s = some (s', r)) :
    s'.block s'.fqtable = some (xs.map (fun x => ⟨x, true⟩)) ∧
      s'.fqtableEntries = UInt32.ofNat xs.length := by
  have hlength := c.length_elements
  rcases storeTable_split h with
    ⟨s₁, table, s₂, stored, hmalloc, hstore, hfinish⟩
  rw [hxs, List.length_map] at hmalloc hlength
  rw [hxs] at hstore
  rcases stored_of_run hstore with ⟨hstored, hthrows⟩
  have hb : stored = true := hthrows.mpr (by simp)
  subst stored
  cases hfinish
  have hentries : s₂.fqtableEntries = UInt32.ofNat xs.length := by
    rw [hstored.fqtableEntries]
    exact (exec_effect hmalloc).fqtableEntries (by simp)
  refine ⟨?_, hentries⟩
  have hfq : s₂.fqtable = table := hstored.fqtable
  cases table with
  | none =>
      -- the first element would be stored through `NULL`
      cases xs with
      | nil => exact absurd rfl hne
      | cons x rest => cases hstore
  | some a =>
      rcases malloc_some hmalloc with ⟨es, hes, hsize⟩
      have hblock : s₁.heap a = some ([] ++ es) := hes
      have hfilled := filled_of_run hstore rfl hblock rfl
        (length_le_of_size hsize hlength)
      change (s₂.fqtable).bind s₂.heap = _
      rw [hfq]
      exact hfilled

/-!
## Runs of calls
-/

def Entry.element (e : Entry) : Element :=
  .number e.value

/-- The radio, and the array that was last accepted. -/
structure HopState where
  radio : Radio
  accepted : List Element

def HopState.call (c : HopCall) (s : HopState) :
    Option (HopState × Returned) :=
  (c.program.run exec s.radio).map (fun p =>
    (⟨p.1, if p.2 = .boolean true ∧ c.hopsInt ≠ 0 then c.elements
      else s.accepted⟩, p.2))

def HopState.step (c : HopCall) (s : HopState) : Option HopState :=
  (s.call c).map Prod.fst

/-- While the register is set, the table is the array that was last accepted. -/
def HopState.Backed (s : HopState) : Prop :=
  s.radio.chip.regs regHopPeriod ≠ 0 ->
    exists es, s.radio.block s.radio.fqtable = some es ∧ es ≠ [] ∧
      es.length = s.radio.fqtableEntries.toNat ∧
      es.map Entry.element = s.accepted ∧ forall e, e ∈ es -> e.stored = true

structure SameTable (s s' : Radio) : Prop where
  fqtable : s'.fqtable = s.fqtable
  block : s'.block s'.fqtable = s.block s.fqtable
  fqtableEntries : s'.fqtableEntries = s.fqtableEntries
  hopPeriod : s'.chip.regs regHopPeriod = s.chip.regs regHopPeriod

/-- Behind a call that returns the register is backed, and a call that is
refused changes nothing. -/
def HopCall.Keeps (c : HopCall) (s : HopState) : Prop :=
  forall s' r, s.call c = some (s', r) -> r ≠ .throws ->
    s'.Backed ∧ (r = .boolean false -> SameTable s.radio s'.radio)

/-- Hopping is turned off, or the call is refused while there is neither a table
nor hopping, or the array has all its elements. -/
def HopCall.Fits (c : HopCall) (s : Radio) : Prop :=
  if c.hopsInt = 0 then True
  else if c.elements = [] then
    s.fqtable = none ∧ s.chip.regs regHopPeriod = 0
  else c.period = 0 ∨ Element.throws ∈ c.elements ∨
    Element.missing ∉ c.elements

theorem call_split {c : HopCall} {s s' : HopState} {r : Returned}
    (h : s.call c = some (s', r)) :
    exists mid, Freed s.radio mid ∧
      c.behindFree.run exec mid = some (s'.radio, r) ∧
      s'.accepted = if r = .boolean true ∧ c.hopsInt ≠ 0 then c.elements
        else s.accepted := by
  unfold HopState.call at h
  rcases Option.map_eq_some_iff.mp h with ⟨⟨t, r'⟩, hrun, heq⟩
  rw [HopCall.program_eq, Program.run_bind] at hrun
  rcases Option.bind_eq_some_iff.mp hrun with ⟨⟨mid, u⟩, hfree, hbehind⟩
  cases heq
  exact ⟨mid, freed_of_run hfree, hbehind, rfl⟩

theorem exists_numbers {elements : List Element}
    (hmissing : Element.missing ∉ elements)
    (hthrows : Element.throws ∉ elements) :
    exists xs : List Number, elements = xs.map Element.number := by
  induction elements with
  | nil => exact ⟨[], rfl⟩
  | cons e rest ih =>
      simp only [List.mem_cons, not_or] at hmissing hthrows
      rcases ih hmissing.2 hthrows.2 with ⟨xs, hxs⟩
      cases e with
      | number x => exact ⟨x :: xs, by simp [hxs]⟩
      | missing => exact absurd rfl hmissing.1
      | throws => exact absurd rfl hthrows.1

theorem map_element (xs : List Number) :
    (xs.map (fun x => (⟨x, true⟩ : Entry))).map Entry.element =
      xs.map Element.number := by
  rw [List.map_map]
  rfl

theorem not_backed_of_missing {s : HopState}
    (hperiod : s.radio.chip.regs regHopPeriod ≠ 0)
    (hmissing : Element.missing ∈ s.accepted) : ¬ s.Backed := by
  intro hbacked
  rcases hbacked hperiod with ⟨es, _, _, _, hmap, _⟩
  rw [← hmap, List.mem_map] at hmissing
  rcases hmissing with ⟨e, _, heq⟩
  cases heq

theorem backed_of_numbers {c : HopCall} {s s' : Radio} {r : Returned}
    {xs : List Number} (hxs : c.elements = xs.map Element.number)
    (hne : xs ≠ []) (h : c.storeTable.run exec s = some (s', r)) :
    HopState.Backed ⟨s', c.elements⟩ := by
  have hlength := c.length_elements
  rw [hxs, List.length_map] at hlength
  rcases storeTable_table hxs hne h with ⟨hblock, hentries⟩
  intro _
  refine ⟨_, hblock, by simpa using hne, ?_, ?_, by simp⟩
  · rw [hentries, UInt32.toNat_ofNat_of_lt' hlength, List.length_map]
  · rw [map_element, hxs]

/-- A call that comes back keeps the contract exactly if it fits. -/
theorem keeps_iff_fits {c : HopCall} {s s' : HopState} {r : Returned}
    (h : s.call c = some (s', r)) : c.Keeps s ↔ c.Fits s.radio := by
  have hkeeps : c.Keeps s ↔ (r ≠ .throws -> s'.Backed ∧
      (r = .boolean false -> SameTable s.radio s'.radio)) := by
    constructor
    · exact fun hall => hall s' r h
    · intro hone t q hcall
      rw [h] at hcall
      cases hcall
      exact hone
  rw [hkeeps]
  rcases s' with ⟨t, accepted⟩
  rcases call_split h with ⟨mid, hfreed, hbehind, haccepted⟩
  unfold HopCall.Fits
  unfold HopCall.behindFree at hbehind
  split_ifs at hbehind ⊢ with hzero hempty
  · -- hopping is turned off
    have hperiod : c.period = 0 := by
      unfold HopCall.period
      rw [hzero]
      rfl
    have hoff : (mid.chip.write regHopPeriod c.period).regs regHopPeriod = 0 :=
      (Chip.write_regs_self _ (by decide)).trans hperiod
    cases hbehind
    simp only [iff_true]
    exact fun _ => ⟨fun hon => absurd hoff hon, fun heq => by cases heq⟩
  · -- the call is refused
    cases hbehind
    have hregs := congrArg (fun chip => chip.regs regHopPeriod) hfreed.chip
    constructor
    · intro hone
      rcases hone (by simp) with ⟨hbacked, hsame⟩
      have hfq := (hsame rfl).fqtable
      rw [hfreed.fqtable] at hfq
      constructor
      · exact hfq.symm
      · rw [← hregs]
        by_contra hon
        rcases hbacked hon with ⟨es, hes, _⟩
        rw [hfreed.fqtable] at hes
        cases hes
    · intro hfits _
      constructor
      · exact fun hon => absurd (hregs.trans hfits.2) hon
      · intro _
        exact ⟨hfreed.fqtable.trans hfits.1.symm, by
          rw [hfreed.fqtable, hfits.1]; rfl, hfreed.fqtableEntries, hregs⟩
  · rcases storeTable_returns hbehind with
      ⟨hr, hthrows⟩ | ⟨hr, hthrows, hperiod⟩
    · simp [hr, hthrows]
    · rw [if_pos ⟨hr, hzero⟩] at haccepted
      subst r
      simp only at haccepted
      subst accepted
      constructor
      · intro hone
        rcases eq_or_ne c.period 0 with hoff | hon
        · exact .inl hoff
        · right
          right
          intro hmissing
          have hbacked := (hone (by simp)).1
          exact not_backed_of_missing (by rw [hperiod]; exact hon) hmissing
            hbacked
      · intro hfits _
        refine ⟨?_, fun heq => by cases heq⟩
        rcases hfits with hoff | hthrow | hnone
        · exact fun hon => absurd (hperiod.trans hoff) hon
        · exact absurd hthrow hthrows
        · rcases exists_numbers hnone hthrows with ⟨xs, hxs⟩
          apply backed_of_numbers hxs _ hbehind
          intro hnil
          rw [hnil] at hxs
          exact hempty hxs

/-- In every sequence of calls, all keep the contract exactly if all fit. -/
theorem all_keep_iff_all_fit {calls : List HopCall} {s s' : HopState}
    (h : runAll HopState.step calls s = some s') :
    EveryStep HopState.step HopCall.Keeps calls s ↔
      EveryStep HopState.step (fun c s => c.Fits s.radio) calls s := by
  apply EveryStep.congr _ h
  intro c s s' hstep
  rcases Option.map_eq_some_iff.mp hstep with ⟨⟨t, r⟩, hcall, _⟩
  exact keeps_iff_fits hcall

end LoRa
end Fluxnode
