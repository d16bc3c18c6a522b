import Fluxnode.DukMain.Steps

/-!
# The load loop

`duk_init` tries one file after the other until one of them runs.  A script can
name the next file while its own file is tried; otherwise `load_index` tells
the next one, and every failure moves it, whichever file has failed.
-/

namespace Fluxnode
namespace DukMain

variable {α T : Type}

def mainJs : String := "/main.js"

def recoveryJs : String := "/recovery.js"

def loadFiles : List String := [mainJs, recoveryJs]

def LoadName.file : LoadName -> String
  | .loadFile file => file.name
  | .builtin index => loadFiles.getD index ""

def nextFile (g : DukGlobals α) : String :=
  (loadName g).file

/-!
## Attempts
-/

/-- What happens in one attempt: the calls of `Platform.setLoadFileName` that
the script makes, and whether `duk_util_load_and_run` succeeds. -/
structure Attempt where
  sets : List (Option LoadFile)
  succeeds : Bool
  deriving DecidableEq, Repr

def setLoadFiles (g : DukGlobals α) (sets : List (Option LoadFile)) :
    DukGlobals α :=
  sets.foldl (fun g file => { g with loadFile := file }) g

/-- What `duk_init` does behind `duk_util_load_and_run`. -/
def afterAttempt (g : DukGlobals α) (name : LoadName) (succeeds : Bool) :
    DukGlobals α :=
  if succeeds then
    releaseLoadFile { g with loadIndex := 0 } name
  else
    releaseLoadFile { g with loadIndex := (g.loadIndex + 1) % loadFilesNum } name

def attempt (a : Attempt) (g : DukGlobals α) : DukGlobals α :=
  afterAttempt (setLoadFiles g a.sets) (loadName g) a.succeeds

/-- The globals in front of each attempt of a `duk_init`: after a failure there
is another one. -/
def attempts (g : DukGlobals α) : List Attempt -> List (DukGlobals α)
  | [] => [g]
  | a :: rest =>
      if a.succeeds then [g] else g :: attempts (attempt a g) rest

/-- When another file than `recovery.js` fails and no file is pending, the next
attempt is `recovery.js`. -/
def FallsBack (states : List (DukGlobals α)) : Prop :=
  forall before g g' after, states = before ++ g :: g' :: after ->
    nextFile g ≠ recoveryJs -> g'.loadFile = none -> nextFile g' = recoveryJs

/-- Between two attempts of `main.js` there is one of `recovery.js`. -/
def MainOnce (files : List String) : Prop :=
  forall before between after,
    files = before ++ mainJs :: (between ++ mainJs :: after) ->
    recoveryJs ∈ between

/-!
## The task makes these attempts
-/

theorem setLoadFiles_state (s : State α T) (sets : List (Option LoadFile)) :
    (sets.foldl setLoadFile s).g = setLoadFiles s.g sets := by
  induction sets generalizing s with
  | nil => rfl
  | cons file rest ih => exact ih (setLoadFile s file)

theorem attempt_of_steps (s : State α T) (a : Attempt) :
    (stepAfterLoad (a.sets.foldl setLoadFile (stepLoadAndRun s))
      (loadName s.g) (if a.succeeds then 1 else 0)).g = attempt a s.g := by
  have hsets := setLoadFiles_state (stepLoadAndRun s) a.sets
  cases hsucceeds : a.succeeds with
  | true =>
      simp only [stepAfterLoad, attempt, afterAttempt, hsucceeds, if_true, hsets]
      rfl
  | false =>
      simp only [stepAfterLoad, attempt, afterAttempt, hsucceeds, hsets]
      rfl

def Pc.inDukInit : Pc -> Bool
  | .load => true
  | .deleteQueue => true
  | .clearReset => true
  | .loadAndRun => true
  | .loadFile _ => true
  | .runFile _ => true
  | .runOnStart _ => true
  | .afterLoad _ _ => true
  | _ => false

def Rewound (s : State α T) : Prop :=
  s.pc.inDukInit = false -> s.g.loadIndex = 0

theorem Rewound.same {s s' : State α T} (h : Rewound s)
    (hpc : s'.pc = s.pc) (hindex : s'.g.loadIndex = s.g.loadIndex) :
    Rewound s' := by
  intro houtside
  rw [hindex]
  exact h (hpc ▸ houtside)

theorem Rewound.move {s : State α T} {next : Pc} (h : Rewound s)
    (hmove : Move s next) :
    next.inDukInit = false -> s.g.loadIndex = 0 := by
  intro houtside
  cases hmove with
  | sleep hpc _ => exact h (by rw [hpc]; rfl)
  | expired hpc => exact h (by rw [hpc]; rfl)
  | pending hpc => exact h (by rw [hpc]; rfl)
  | timerRun hpc => exact h (by rw [hpc]; rfl)
  | drained hpc _ => exact h (by rw [hpc]; rfl)
  | freed hpc => exact h (by rw [hpc]; rfl)
  | init => cases houtside
  | deleted => cases houtside
  | read => cases houtside
  | unreadable => cases houtside
  | fileRun => cases houtside
  | fileFailed => cases houtside
  | started => cases houtside

theorem Rewound.task {w : World α} {s s' : State α T} (h : Rewound s)
    (hstep : TaskStep w s s') : Rewound s' := by
  intro houtside
  cases hstep with
  | start hpc => exact h (by rw [hpc]; rfl)
  | move wakeUp hmove => exact h.move hmove houtside
  | load => cases houtside
  | discard hpc _ =>
      have hinside : s.pc.inDukInit = false := houtside
      rw [hpc] at hinside
      cases hinside
  | clearReset => cases houtside
  | loadAndRun => cases houtside
  | failed => cases houtside
  | loaded =>
      rw [releaseLoadFile_loadIndex]
  | notified hpc => exact h (by rw [hpc]; rfl)
  | take hpc _ => exact h (by rw [hpc]; rfl)
  | incoming _ _ hpc _ _ => exact h (by rw [hpc]; rfl)
  | sent hpc _ _ _ => exact h (by rw [hpc]; rfl)
  | ignored hpc _ _ => exact h (by rw [hpc]; rfl)
  | eventDone hpc _ _ => exact h (by rw [hpc]; rfl)

theorem Rewound.script {s s' : State α T} (h : Rewound s)
    (hstep : ScriptStep s s') : Rewound s' := by
  cases hstep with
  | append => exact h.same rfl rfl
  | wake => exact h.same rfl rfl
  | reset => exact h.same rfl rfl
  | assign => exact h.same rfl rfl

theorem Reachable.rewound {w : World α} [DecidableEq T] {s : State α T}
    (h : Reachable w s) : Rewound s := by
  refine h.invariant ?_ ?_ ?_ ?_
  · intro reset wakeUp _
    rfl
  · intro s s' hs _ hstep
    exact hs.task hstep
  · intro s s' hs _ hstep
    exact hs.script hstep
  · intro t s s' hs hstep
    cases hstep with
    | append => exact hs.same rfl rfl
    | reset => exact hs.same rfl rfl
    | setLoad => exact hs.same rfl rfl
    | wake => exact hs.same rfl rfl

/-!
## The condition
-/

/-- The last call of the script names a file, and its string is not at the
address of the one that is tried. -/
def LeavesPending (a : Attempt) (tried : LoadFile) : Prop :=
  exists file, a.sets.getLast? = some (some file) ∧ file.addr ≠ tried.addr

/-- When a file that a script has named fails while `load_index` is 1, and it is
not `recovery.js`, then it has named another one. -/
def NamesNext (g : DukGlobals α) (a : Attempt) : Prop :=
  g.loadIndex = 1 -> forall tried, g.loadFile = some tried ->
    tried.name ≠ recoveryJs -> LeavesPending a tried

/-- A script does not name `main.js` when it has been tried since the last
attempt of `recovery.js`. -/
def NamesNewMain (seen : Bool) (g : DukGlobals α) : Prop :=
  forall file, g.loadFile = some file -> file.name = mainJs -> seen = false

def seenAfter (seen : Bool) (file : String) : Bool :=
  if file = recoveryJs then false else seen || file == mainJs

def AttemptsFit (seen : Bool) (g : DukGlobals α) : List Attempt -> Prop
  | [] => NamesNewMain seen g
  | a :: rest =>
      NamesNewMain seen g ∧
        (a.succeeds = false -> NamesNext g a ∧
          AttemptsFit (seenAfter seen (nextFile g)) (attempt a g) rest)

/-!
## One attempt
-/

theorem setLoadFiles_loadIndex (g : DukGlobals α)
    (sets : List (Option LoadFile)) :
    (setLoadFiles g sets).loadIndex = g.loadIndex := by
  induction sets generalizing g with
  | nil => rfl
  | cons file rest ih => exact ih { g with loadFile := file }

theorem setLoadFiles_loadFile (g : DukGlobals α)
    (sets : List (Option LoadFile)) :
    (setLoadFiles g sets).loadFile = sets.getLast?.getD g.loadFile := by
  induction sets generalizing g with
  | nil => rfl
  | cons file rest ih =>
      have hrest := ih { g with loadFile := file }
      rw [List.getLast?_cons]
      exact hrest

theorem attempt_loadIndex {a : Attempt} (hfails : a.succeeds = false)
    (g : DukGlobals α) :
    (attempt a g).loadIndex = (g.loadIndex + 1) % 2 := by
  unfold attempt afterAttempt
  rw [hfails, if_neg Bool.false_ne_true, releaseLoadFile_loadIndex,
    setLoadFiles_loadIndex]
  rfl

theorem attempt_loadFile (a : Attempt) (g : DukGlobals α) :
    (attempt a g).loadFile =
      if isLoadName (setLoadFiles g a.sets) (loadName g) then
        none
      else
        (setLoadFiles g a.sets).loadFile := by
  unfold attempt afterAttempt releaseLoadFile
  cases a.succeeds with
  | false =>
      rw [if_neg Bool.false_ne_true]
      split <;> simp_all [isLoadName]
  | true =>
      rw [if_pos rfl]
      split <;> simp_all [isLoadName]

theorem attempt_loadFile_eq_none_iff {a : Attempt} {g : DukGlobals α}
    {tried : LoadFile} (htried : g.loadFile = some tried) :
    (attempt a g).loadFile = none <-> ¬ LeavesPending a tried := by
  have hname : loadName g = .loadFile tried := by
    simp [loadName, htried]
  rw [attempt_loadFile, hname, isLoadName, setLoadFiles_loadFile, htried]
  unfold LeavesPending
  cases hlast : a.sets.getLast? with
  | none => simp
  | some last =>
      cases last with
      | none => simp
      | some file => simp

/-!
## Runs of attempts
-/

theorem attempts_eq_cons (g : DukGlobals α) (as : List Attempt) :
    exists rest, attempts g as = g :: rest := by
  cases as with
  | nil => exact ⟨[], rfl⟩
  | cons a as =>
      unfold attempts
      split
      · exact ⟨[], rfl⟩
      · exact ⟨_, rfl⟩

theorem attempts_cons_of_fails {a : Attempt} (hfails : a.succeeds = false)
    (g : DukGlobals α) (as : List Attempt) :
    attempts g (a :: as) = g :: attempts (attempt a g) as := by
  rw [attempts, hfails, if_neg Bool.false_ne_true]

theorem fallsBack_singleton (g : DukGlobals α) : FallsBack [g] := by
  intro before g₁ g₂ after hsplit
  have hlength := congrArg List.length hsplit
  simp only [List.length_append, List.length_cons, List.length_nil] at hlength
  lia

theorem fallsBack_cons_iff {g : DukGlobals α} {as : List Attempt}
    {g' : DukGlobals α} :
    FallsBack (g :: attempts g' as) <->
      (nextFile g ≠ recoveryJs -> g'.loadFile = none ->
        nextFile g' = recoveryJs) ∧
      FallsBack (attempts g' as) := by
  rcases attempts_eq_cons g' as with ⟨rest, hrest⟩
  rw [hrest]
  constructor
  · intro hfalls
    constructor
    · exact hfalls [] g g' rest rfl
    · intro before g₁ g₂ after hsplit
      exact hfalls (g :: before) g₁ g₂ after (by rw [hsplit]; rfl)
  · intro hboth before g₁ g₂ after hsplit
    rcases hboth with ⟨hfirst, hfalls⟩
    cases before with
    | nil =>
        cases hsplit
        exact hfirst
    | cons first before =>
        exact hfalls before g₁ g₂ after (List.cons.inj hsplit).2

structure MainOnceFrom (seen : Bool) (files : List String) : Prop where
  between : MainOnce files
  first : seen = true -> forall before after,
    files = before ++ mainJs :: after -> recoveryJs ∈ before

theorem mainOnceFrom_false_iff {files : List String} :
    MainOnceFrom false files <-> MainOnce files := by
  constructor
  · intro h
    exact h.between
  · intro h
    exact ⟨h, fun hseen => absurd hseen Bool.false_ne_true⟩

theorem mainJs_ne_recoveryJs : mainJs ≠ recoveryJs := by
  decide

theorem seenAfter_eq_true {seen : Bool} {file : String} :
    seenAfter seen file = true <->
      file ≠ recoveryJs ∧ (seen = true ∨ file = mainJs) := by
  unfold seenAfter
  split
  · rename_i hrecovery
    simp [hrecovery]
  · rename_i hother
    simp [hother]

theorem mainOnceFrom_nil (seen : Bool) : MainOnceFrom seen [] := by
  constructor
  · intro before between after hsplit
    cases before <;> cases hsplit
  · intro _ before after hsplit
    cases before <;> cases hsplit

theorem mainOnceFrom_cons_iff {seen : Bool} {file : String}
    {rest : List String} :
    MainOnceFrom seen (file :: rest) <->
      (file = mainJs -> seen = false) ∧
        MainOnceFrom (seenAfter seen file) rest := by
  constructor
  · intro h
    refine ⟨?_, ?_, ?_⟩
    · intro hmain
      cases seen with
      | false => rfl
      | true =>
          have hnil := h.first rfl [] rest (by rw [hmain]; rfl)
          cases hnil
    · intro before between after hsplit
      exact h.between (file :: before) between after (by rw [hsplit]; rfl)
    · intro hseen before after hsplit
      rcases seenAfter_eq_true.mp hseen with ⟨hother, hold | hmain⟩
      · have hmem := h.first hold (file :: before) after (by rw [hsplit]; rfl)
        exact (List.mem_cons.mp hmem).resolve_left (Ne.symm hother)
      · exact h.between [] before after (by rw [hmain, hsplit]; rfl)
  · intro h
    rcases h with ⟨hnew, hrest⟩
    constructor
    · intro before between after hsplit
      cases before with
      | nil =>
          cases hsplit
          refine hrest.first ?_ between after rfl
          exact seenAfter_eq_true.mpr ⟨mainJs_ne_recoveryJs, .inr rfl⟩
      | cons first before =>
          cases hsplit
          exact hrest.between before between after rfl
    · intro hseen before after hsplit
      cases before with
      | nil =>
          cases hsplit
          rw [hnew rfl] at hseen
          cases hseen
      | cons first before =>
          cases hsplit
          by_cases hrecovery : file = recoveryJs
          · rw [hrecovery]
            exact List.mem_cons_self
          · refine List.mem_cons_of_mem _ (hrest.first ?_ before after rfl)
            exact seenAfter_eq_true.mpr ⟨hrecovery, .inl hseen⟩

/-!
## The exact condition
-/

/-- The invariant: with `load_index` 0 and no file pending, `main.js` comes next,
and it has not been tried since the last attempt of `recovery.js`. -/
structure InStep (seen : Bool) (g : DukGlobals α) : Prop where
  index : g.loadIndex = 0 ∨ g.loadIndex = 1
  rewound : g.loadIndex = 0 -> g.loadFile = none -> seen = false

theorem nextFile_of_none {g : DukGlobals α} (hnone : g.loadFile = none) :
    nextFile g = loadFiles.getD g.loadIndex "" := by
  simp [nextFile, loadName, hnone, LoadName.file]

theorem nextFile_of_some {g : DukGlobals α} {file : LoadFile}
    (hfile : g.loadFile = some file) : nextFile g = file.name := by
  simp [nextFile, loadName, hfile, LoadName.file]

theorem InStep.newMain_iff {seen : Bool} {g : DukGlobals α}
    (h : InStep seen g) :
    (nextFile g = mainJs -> seen = false) <-> NamesNewMain seen g := by
  unfold NamesNewMain
  cases hfile : g.loadFile with
  | some file =>
      rw [nextFile_of_some hfile]
      simp
  | none =>
      rw [nextFile_of_none hfile]
      refine iff_of_true ?_ (by simp)
      rcases h.index with hzero | hone
      · intro _
        exact h.rewound hzero hfile
      · rw [hone]
        intro hmain
        exact absurd hmain mainJs_ne_recoveryJs.symm

theorem InStep.fallsBack_iff {seen : Bool} {g : DukGlobals α}
    (h : InStep seen g) {a : Attempt} (hfails : a.succeeds = false) :
    (nextFile g ≠ recoveryJs -> (attempt a g).loadFile = none ->
        nextFile (attempt a g) = recoveryJs) <->
      NamesNext g a := by
  have hindex := attempt_loadIndex hfails g
  unfold NamesNext
  rcases h.index with hzero | hone
  · refine iff_of_true ?_ ?_
    · intro _ hnone
      rw [nextFile_of_none hnone, hindex, hzero]
      rfl
    · intro hone
      rw [hzero] at hone
      cases hone
  · cases hfile : g.loadFile with
    | none =>
        refine iff_of_true ?_ (by simp)
        intro hother
        rw [nextFile_of_none hfile, hone] at hother
        exact absurd rfl hother
    | some tried =>
        rw [nextFile_of_some hfile]
        constructor
        · intro hfalls _ tried' htried' hother
          cases htried'
          by_contra hnot
          have hnone := (attempt_loadFile_eq_none_iff hfile).mpr hnot
          have hnext := hfalls hother hnone
          rw [nextFile_of_none hnone, hindex, hone] at hnext
          exact mainJs_ne_recoveryJs hnext
        · intro hnames hother hnone
          have hleaves := hnames hone tried rfl hother
          exact absurd hleaves ((attempt_loadFile_eq_none_iff hfile).mp hnone)

theorem InStep.next {seen : Bool} {g : DukGlobals α} (h : InStep seen g)
    {a : Attempt} (hfails : a.succeeds = false) (hnames : NamesNext g a) :
    InStep (seenAfter seen (nextFile g)) (attempt a g) := by
  have hindex := attempt_loadIndex hfails g
  constructor
  · rcases h.index with hzero | hone
    · right
      rw [hindex, hzero]
    · left
      rw [hindex, hone]
  · intro hzero hnone
    have hrecovery : nextFile g = recoveryJs := by
      by_contra hother
      have hnext := (h.fallsBack_iff hfails).mpr hnames hother hnone
      rw [nextFile_of_none hnone, hzero] at hnext
      exact mainJs_ne_recoveryJs hnext
    unfold seenAfter
    rw [if_pos hrecovery]

theorem InStep.last_iff {seen : Bool} {g : DukGlobals α}
    (h : InStep seen g) :
    (FallsBack [g] ∧ MainOnceFrom seen [nextFile g]) <->
      NamesNewMain seen g := by
  rw [mainOnceFrom_cons_iff, h.newMain_iff]
  simp [fallsBack_singleton, mainOnceFrom_nil]

theorem InStep.attempts_iff {seen : Bool} {g : DukGlobals α}
    (h : InStep seen g) (as : List Attempt) :
    (FallsBack (attempts g as) ∧
        MainOnceFrom seen ((attempts g as).map nextFile)) <->
      AttemptsFit seen g as := by
  induction as generalizing seen g with
  | nil => exact h.last_iff
  | cons a as ih =>
      cases hsucceeds : a.succeeds with
      | true =>
          have hends : attempts g (a :: as) = [g] := by
            rw [attempts, if_pos hsucceeds]
          rw [hends]
          simp only [AttemptsFit, hsucceeds, reduceCtorEq, false_implies,
            and_true]
          exact h.last_iff
      | false =>
          rw [attempts_cons_of_fails hsucceeds, fallsBack_cons_iff,
            List.map_cons, mainOnceFrom_cons_iff, h.newMain_iff,
            h.fallsBack_iff hsucceeds]
          simp only [AttemptsFit, hsucceeds, true_implies]
          constructor
          · intro hall
            rcases hall with ⟨⟨hnames, hfalls⟩, hnew, hmain⟩
            have hnext := h.next hsucceeds hnames
            exact ⟨hnew, hnames, (ih hnext).mp ⟨hfalls, hmain⟩⟩
          · intro hall
            rcases hall with ⟨hnew, hnames, hrest⟩
            have hnext := h.next hsucceeds hnames
            rcases (ih hnext).mpr hrest with ⟨hfalls, hmain⟩
            exact ⟨⟨hnames, hfalls⟩, hnew, hmain⟩

/-- `recovery.js` is the fallback of a `duk_init` exactly when its attempts fit.
A `duk_init` starts with `load_index` 0. -/
theorem recovery_fallback_iff {g : DukGlobals α} (hstart : g.loadIndex = 0)
    (as : List Attempt) :
    (FallsBack (attempts g as) ∧ MainOnce ((attempts g as).map nextFile)) <->
      AttemptsFit false g as := by
  have hinStep : InStep false g := ⟨.inl hstart, fun _ _ => rfl⟩
  rw [← hinStep.attempts_iff as, mainOnceFrom_false_iff]

def firstGlobals : DukGlobals Unit where
  ctx := none
  reset := true
  wakeUp := { wakeUpTimeMS := 0, lastTicks := 0, delay := 0 }
  eventQueue := []
  sendFunc := none
  loadIndex := 0
  loadFile := none

def mainFails : List Attempt :=
  [⟨[], false⟩, ⟨[], true⟩]

theorem recovery_fallback_mainFails :
    FallsBack (attempts firstGlobals mainFails) ∧
      MainOnce ((attempts firstGlobals mainFails).map nextFile) := by
  refine (recovery_fallback_iff rfl mainFails).mpr ⟨?_, fun _ => ⟨?_, ?_, ?_⟩⟩
  · intro file hfile
    cases hfile
  · intro hone
    cases hone
  · intro file hfile
    cases hfile
  · intro hfails
    cases hfails

/-- `main.js` names `a.js` and fails, and so does `a.js`. -/
def namesBroken : List Attempt :=
  [⟨[some { addr := 0x3ffb0000, name := "/a.js" }], false⟩, ⟨[], false⟩]

theorem namesBroken_without_recovery :
    (attempts firstGlobals namesBroken).map nextFile =
        [mainJs, "/a.js", mainJs] ∧
      ¬ FallsBack (attempts firstGlobals namesBroken) := by
  constructor
  · exact by decide
  · intro hfalls
    have hnext := hfalls [firstGlobals] _ _ [] rfl (by decide) rfl
    exact absurd hnext (by decide)

end DukMain
end Fluxnode
