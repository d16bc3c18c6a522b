import Fluxnode.DukMain.LoadLoop

/-!
# The selection of the load file

A selection waits until the next attempt takes it.  `duk_init` keeps the pointer
that it took and compares it with `g->load_file` when the attempt is over, to
see whether something else was selected meanwhile.
-/

namespace Fluxnode
namespace DukMain

variable {α : Type}

/-!
## Runs
-/

/-- An attempt of `duk_init` with the calls of `duk_main_set_load_file` between
the read of `g->load_file` and the opening of the file, and behind it. -/
structure LoadAttempt where
  early : List (Option LoadFile)
  late : List (Option LoadFile)
  succeeds : Bool
  deriving DecidableEq, Repr

def LoadAttempt.attempt (a : LoadAttempt) : Attempt where
  sets := a.early ++ a.late
  succeeds := a.succeeds

inductive LoadStep where
  | select (file : Option LoadFile)
  | attempt (a : LoadAttempt)
  deriving DecidableEq, Repr

def selectFile (g : DukGlobals α) (file : Option LoadFile) : DukGlobals α :=
  setLoadFiles g [file]

/-- The name that `load_name` points to.  A string that was freed has none,
unless a new one is at its address. -/
def LoadName.read (g : DukGlobals α) : LoadName -> Option String
  | .builtin index => some (LoadName.builtin index).file
  | .loadFile file =>
      match g.loadFile with
      | some current =>
          if current.addr = file.addr then some current.name else none
      | none => none

/-- The name of the file that `duk_util_load_file` opens. -/
def openedName (g : DukGlobals α) (a : LoadAttempt) : Option String :=
  (loadName g).read (setLoadFiles g a.early)

/-- `strdup` comes in front of the `free` of the old string. -/
def Allocates (g : DukGlobals α) : List (Option LoadFile) -> Prop
  | [] => True
  | file :: rest =>
      (forall new current, file = some new -> g.loadFile = some current ->
        new.addr ≠ current.addr) ∧
      Allocates (selectFile g file) rest

/-!
## What a selection is for
-/

def selectedName (g : DukGlobals α) : Option String :=
  g.loadFile.map LoadFile.name

/-- What is selected after an attempt: it takes what there was, and leaves what
was selected meanwhile. -/
def LoadAttempt.leaves (a : LoadAttempt) : Option String :=
  ((a.early ++ a.late).getLast?.getD none).map LoadFile.name

/-- The globals follow the selections, and each attempt opens the file that is
selected when it starts. -/
def FollowsSelection (selected : Option String) (g : DukGlobals α) :
    List LoadStep -> Prop
  | [] => selectedName g = selected
  | .select file :: rest =>
      selectedName g = selected ∧
        FollowsSelection (file.map LoadFile.name) (selectFile g file) rest
  | .attempt a :: rest =>
      selectedName g = selected ∧
        (forall name, selected = some name -> openedName g a = some name) ∧
        FollowsSelection a.leaves (attempt a.attempt g) rest

/-- When the file is opened, its name is still where it was. -/
def NameStays (file : LoadFile) (a : LoadAttempt) : Prop :=
  forall last, a.early.getLast? = some last ->
    exists again, last = some again ∧ again.addr = file.addr ∧
      again.name = file.name

/-- The last file that is selected during the attempt has another address. -/
def MovesOn (file : LoadFile) (a : LoadAttempt) : Prop :=
  forall last, (a.early ++ a.late).getLast? = some (some last) ->
    last.addr ≠ file.addr

def SelectionsApart (g : DukGlobals α) : List LoadStep -> Prop
  | [] => True
  | .select file :: rest => SelectionsApart (selectFile g file) rest
  | .attempt a :: rest =>
      (forall file, g.loadFile = some file -> NameStays file a ∧ MovesOn file a) ∧
        SelectionsApart (attempt a.attempt g) rest

/-!
## One attempt
-/

theorem selectedName_selectFile (g : DukGlobals α) (file : Option LoadFile) :
    selectedName (selectFile g file) = file.map LoadFile.name := rfl

theorem FollowsSelection.selectedName {selected : Option String}
    {g : DukGlobals α} {steps : List LoadStep}
    (h : FollowsSelection selected g steps) :
    DukMain.selectedName g = selected := by
  cases steps with
  | nil => exact h
  | cons step rest =>
      cases step with
      | select file => exact h.1
      | attempt a => exact h.1

theorem followsSelection_iff_selected {selected : Option String}
    {g : DukGlobals α} {steps : List LoadStep} :
    FollowsSelection selected g steps <->
      selectedName g = selected ∧ FollowsSelection (selectedName g) g steps := by
  constructor
  · intro h
    have hselected := h.selectedName
    rw [hselected]
    exact ⟨rfl, h⟩
  · intro h
    rcases h with ⟨rfl, h⟩
    exact h

theorem opened_iff {g : DukGlobals α} {file : LoadFile}
    (hfile : g.loadFile = some file) (a : LoadAttempt) :
    openedName g a = some file.name <-> NameStays file a := by
  have hname : loadName g = .loadFile file := by
    simp only [loadName, hfile]
  unfold openedName NameStays
  rw [hname, LoadName.read, setLoadFiles_loadFile, hfile]
  cases hlast : a.early.getLast? with
  | none => simp
  | some last =>
      cases last with
      | none => simp
      | some again => simp

theorem attempt_leaves_of_none {g : DukGlobals α} (hnone : g.loadFile = none)
    (a : LoadAttempt) : selectedName (attempt a.attempt g) = a.leaves := by
  have hname : loadName g = .builtin g.loadIndex := by
    simp only [loadName, hnone]
  rw [selectedName, attempt_loadFile, hname, isLoadName,
    if_neg Bool.false_ne_true, setLoadFiles_loadFile, hnone]
  rfl

theorem attempt_leaves_iff {g : DukGlobals α} {file : LoadFile}
    (hfile : g.loadFile = some file) (a : LoadAttempt) :
    selectedName (attempt a.attempt g) = a.leaves <-> MovesOn file a := by
  have hname : loadName g = .loadFile file := by
    simp only [loadName, hfile]
  have hloaded : (attempt a.attempt g).loadFile =
      if isLoadName (setLoadFiles g (a.early ++ a.late)) (.loadFile file) then
        none
      else
        (a.early ++ a.late).getLast?.getD (some file) := by
    rw [attempt_loadFile, hname, setLoadFiles_loadFile, hfile]
    rfl
  rw [selectedName, hloaded, LoadAttempt.leaves, MovesOn, isLoadName,
    setLoadFiles_loadFile, hfile]
  cases hlast : (a.early ++ a.late).getLast? with
  | none => simp
  | some last =>
      cases last with
      | none => simp
      | some other => simp

/-- A single file that is selected behind the opening is no danger: the string
of the one that is tried is not freed before the new one is allocated. -/
theorem apart_of_single {g : DukGlobals α} {file new : LoadFile}
    (hfile : g.loadFile = some file) (succeeds : Bool)
    (hallocates : Allocates g [some new]) :
    NameStays file ⟨[], [some new], succeeds⟩ ∧
      MovesOn file ⟨[], [some new], succeeds⟩ := by
  constructor
  · intro last hlast
    cases hlast
  · intro last hlast
    cases hlast
    exact hallocates.1 new file rfl hfile

/-!
## Runs of selections and attempts
-/

/-- Every selection is used once and none is forgotten, exactly in the runs that
meet the condition. -/
theorem followsSelection_iff_apart (g : DukGlobals α) (steps : List LoadStep) :
    FollowsSelection (selectedName g) g steps <-> SelectionsApart g steps := by
  induction steps generalizing g with
  | nil => exact iff_of_true rfl trivial
  | cons step rest ih =>
      cases step with
      | select file =>
          rw [FollowsSelection, SelectionsApart, ← ih (selectFile g file),
            selectedName_selectFile]
          exact and_iff_right rfl
      | attempt a =>
          rw [FollowsSelection, SelectionsApart, ← ih (attempt a.attempt g),
            followsSelection_iff_selected]
          cases hfile : g.loadFile with
          | none =>
              have hleaves := attempt_leaves_of_none hfile a
              have hselected : selectedName g = none := by
                rw [selectedName, hfile]
                rfl
              rw [hselected]
              constructor
              · intro h
                exact ⟨nofun, h.2.2.2⟩
              · intro h
                exact ⟨rfl, nofun, hleaves, h.2⟩
          | some file =>
              have hopened := opened_iff hfile a
              have hleaves := attempt_leaves_iff hfile a
              have hselected : selectedName g = some file.name := by
                rw [selectedName, hfile]
                rfl
              rw [hselected, hleaves]
              constructor
              · intro h
                rcases h with ⟨_, hopens, hmoves, hrest⟩
                refine ⟨?_, hrest⟩
                intro file' hsame
                cases hsame
                exact ⟨hopened.mp (hopens file.name rfl), hmoves⟩
              · intro h
                rcases h with ⟨hcondition, hrest⟩
                rcases hcondition file rfl with ⟨hstays, hmoves⟩
                refine ⟨rfl, ?_, hmoves, hrest⟩
                intro name hname
                cases hname
                exact hopened.mpr hstays

def selectedGlobals : DukGlobals Unit :=
  { firstGlobals with
    loadFile := some { addr := 0x3ffb0000, name := "/a.js" } }

/-- `a.js` selects `b.js` and then `c.js`, whose name comes to the place that
the first of these calls has freed. -/
def selectsTwice : LoadAttempt where
  early := []
  late :=
    [some { addr := 0x3ffb0040, name := "/b.js" },
      some { addr := 0x3ffb0000, name := "/c.js" }]
  succeeds := true

theorem second_selection_forgotten :
    Allocates selectedGlobals selectsTwice.late ∧
      selectsTwice.leaves = some "/c.js" ∧
      selectedName (attempt selectsTwice.attempt selectedGlobals) = none ∧
      ¬ FollowsSelection (some "/a.js") selectedGlobals
        [.attempt selectsTwice] := by
  have hgone : selectedName (attempt selectsTwice.attempt selectedGlobals) =
      none := rfl
  have hleaves : selectsTwice.leaves = some "/c.js" := rfl
  refine ⟨?_, hleaves, hgone, ?_⟩
  · refine ⟨?_, ?_, trivial⟩
    · rintro new current ⟨⟩ ⟨⟩
      decide
    · rintro new current ⟨⟩ ⟨⟩
      decide
  · intro h
    have hfollows : selectedName (attempt selectsTwice.attempt selectedGlobals) =
        selectsTwice.leaves := h.2.2
    rw [hgone, hleaves] at hfollows
    cases hfollows

end DukMain
end Fluxnode
