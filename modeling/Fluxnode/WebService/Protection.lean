import Fluxnode.WebService.Model

/-!
# Protected files

The web service is not to touch files whose names start with `_`.  The handlers
of `/file` look at the first byte of the query; the command `deletefile` takes
the name from behind the command and does not look at it.
-/

namespace Fluxnode
namespace WebService

open C

variable {capacity : Nat}

/-- The path of a file whose name starts with `_`. -/
def Protected (name : List UInt8) : Prop :=
  exists rest, name = fsBase ++ protectedFile :: rest

def KeepsProtected (readOnly : Int32) (events : List (Event capacity))
    (files : Files capacity) : Prop :=
  forall t, t ∈ touches readOnly events files -> ¬ Protected t.name

/-- A request that makes `control_handler` delete a protected file: the name
follows `deletefile` and one more byte. -/
def DeletesProtected (readOnly : Int32) (c : Conditions) (req : Request)
    (files : Files capacity) : Prop :=
  readOnly = 0 ∧ req.uri = "/control" ∧ req.method = .get ∧
    exists sep rest,
      req.url = ascii "deletefile" ++ sep :: protectedFile :: rest ∧
      (files (fsBase ++ protectedFile :: rest)).isSome = true ∧
      c.library.unlinks = true

def NoneDeletes (readOnly : Int32) :
    List (Event capacity) -> Files capacity -> Prop
  | [], _ => True
  | .request c req :: rest, files =>
      ¬ DeletesProtected readOnly c req files ∧
        NoneDeletes readOnly rest (handle readOnly c req files).files
  | .runtime files :: rest, _ => NoneDeletes readOnly rest files

/-!
## Names
-/

theorem protected_base_iff {name : List UInt8} :
    Protected (fsBase ++ name) <-> name.head? = some protectedFile := by
  constructor
  · intro hprotected
    rcases hprotected with ⟨rest, hrest⟩
    rw [List.append_cancel_left hrest]
    rfl
  · intro hhead
    rcases List.head?_eq_some_iff.mp hhead with ⟨rest, rfl⟩
    exact ⟨rest, rfl⟩

theorem findControl_deleteFile_iff {url name : List UInt8} :
    findControl url = some (name, .deleteFile) <->
      name = ascii "deletefile" ∧ name <+: url := by
  constructor
  · intro hfind
    have hprefix := List.find?_some hfind
    have hmem := List.mem_of_find?_eq_some hfind
    simp only [controlNames, List.mem_cons, Prod.mk.injEq, List.not_mem_nil,
      or_false, reduceCtorEq, and_false, false_or, and_true] at hmem
    exact ⟨hmem, List.isPrefixOf_iff_prefix.mp hprefix⟩
  · intro hname
    rcases hname with ⟨rfl, tail, rfl⟩
    rfl

theorem controlData_some_iff {name url data : List UInt8} :
    name <+: url -> (controlData name url = some data <->
      data ≠ [] ∧ exists sep, url = name ++ sep :: data) := by
  intro hprefix
  rcases hprefix with ⟨tail, rfl⟩
  unfold controlData
  constructor
  · intro hdata
    split at hdata
    · rename_i hlong
      rw [List.length_append] at hlong
      cases hdata
      rcases tail with _ | ⟨sep, rest⟩
      · rw [List.length_nil] at hlong
        lia
      · have hdrop : (name ++ sep :: rest).drop (name.length + 1) = rest := by
          rw [← List.drop_drop, List.drop_left]
          rfl
        rw [hdrop]
        refine ⟨?_, sep, rfl⟩
        intro hempty
        rw [hempty, List.length_singleton] at hlong
        lia
    · cases hdata
  · intro hbehind
    rcases hbehind with ⟨hne, sep, htail⟩
    have hcons : tail = sep :: data := List.append_cancel_left htail
    subst hcons
    have hpos : 0 < data.length := List.length_pos_iff.mpr hne
    rw [if_pos (by rw [List.length_append, List.length_cons]; lia),
      ← List.drop_drop, List.drop_left]
    rfl

/-!
## What each handler touches
-/

theorem postHandler_touched {o : Outcomes} {req : Request}
    {files : Files capacity}
    {t : Touch} (h : t ∈ (postHandler o req files).touched) :
    ¬ Protected t.name := by
  unfold postHandler at h
  split at h
  · cases h
  · rename_i hhead
    split at h
    · cases h
    · rw [List.mem_singleton.mp h]
      exact protected_base_iff.not.mpr hhead

theorem getFileByName_touched {o : Outcomes} {sends : Nat -> Int32}
    {name : List UInt8} {files : Files capacity} {t : Touch}
    (hname : name.head? ≠ some protectedFile)
    (h : t ∈ (getFileByName o sends name files).touched) :
    ¬ Protected t.name := by
  cases hopen : fopenRead o files (fsBase ++ name) with
  | none =>
      simp only [getFileByName, hopen] at h
      cases h
  | some file =>
      simp only [getFileByName, hopen] at h
      rw [List.mem_singleton.mp h]
      exact protected_base_iff.not.mpr hname

theorem getHandler_touched {o : Outcomes} {sends : Nat -> Int32}
    {req : Request} {files : Files capacity} {t : Touch}
    (h : t ∈ (getHandler o sends req files).touched) : ¬ Protected t.name := by
  unfold getHandler at h
  split at h
  · cases h
  · rename_i hhead
    exact getFileByName_touched hhead h

theorem mem_unlinkFile_touched {o : Outcomes} {fname : List UInt8}
    {files : Files capacity} {t : Touch} :
    t ∈ (unlinkFile o fname files).touched <->
      (files fname).isSome = true ∧ o.unlinks = true ∧ t = .remove fname := by
  unfold unlinkFile
  split
  · rename_i hremoved
    simp [hremoved]
  · rename_i hkept
    constructor
    · intro h
      cases h
    · intro h
      exact absurd ⟨h.1, h.2.1⟩ hkept

theorem mem_controlHandler_touched {o : Outcomes} {req : Request}
    {files : Files capacity} {t : Touch} :
    t ∈ (controlHandler o req files).touched <->
      exists sep data, data ≠ [] ∧
        req.url = ascii "deletefile" ++ sep :: data ∧
        t ∈ (unlinkFile o (fsBase ++ data) files).touched := by
  constructor
  · intro h
    unfold controlHandler at h
    split at h
    · cases h
    · cases h
    · rename_i name hfind
      rcases findControl_deleteFile_iff.mp hfind with ⟨rfl, hprefix⟩
      split at h
      · cases h
      · rename_i data hdata
        rcases (controlData_some_iff hprefix).mp hdata with ⟨hne, sep, hurl⟩
        exact ⟨sep, data, hne, hurl, h⟩
    · cases h
  · intro hdeletes
    rcases hdeletes with ⟨sep, data, hne, hurl, h⟩
    have hprefix : ascii "deletefile" <+: req.url := ⟨sep :: data, hurl.symm⟩
    have hfind := findControl_deleteFile_iff.mpr ⟨rfl, hprefix⟩
    have hdata := (controlData_some_iff hprefix).mpr ⟨hne, sep, hurl⟩
    unfold controlHandler
    simp only [hfind, hdata]
    exact h

theorem controlHandler_keeps_iff {o : Outcomes} {req : Request}
    {files : Files capacity} :
    (forall t, t ∈ (controlHandler o req files).touched ->
        ¬ Protected t.name) <->
      ¬ exists sep rest,
        req.url = ascii "deletefile" ++ sep :: protectedFile :: rest ∧
        (files (fsBase ++ protectedFile :: rest)).isSome = true ∧
        o.unlinks = true := by
  constructor
  · intro hkeeps hdeletes
    rcases hdeletes with ⟨sep, rest, hurl, hfile, hunlinks⟩
    refine hkeeps (.remove (fsBase ++ protectedFile :: rest)) ?_ ⟨rest, rfl⟩
    refine mem_controlHandler_touched.mpr
      ⟨sep, protectedFile :: rest, List.cons_ne_nil _ _, hurl, ?_⟩
    exact mem_unlinkFile_touched.mpr ⟨hfile, hunlinks, rfl⟩
  · intro hnone t ht hprotected
    rcases mem_controlHandler_touched.mp ht with ⟨sep, data, _, hurl, hremove⟩
    rcases mem_unlinkFile_touched.mp hremove with ⟨hfile, hunlinks, rfl⟩
    have hhead := protected_base_iff.mp hprotected
    rcases List.head?_eq_some_iff.mp hhead with ⟨rest, rfl⟩
    exact hnone ⟨sep, rest, hurl, hfile, hunlinks⟩

theorem handle_keeps_iff {readOnly : Int32} {c : Conditions} {req : Request}
    {files : Files capacity} :
    (forall t, t ∈ (handle readOnly c req files).touched ->
        ¬ Protected t.name) <->
      ¬ DeletesProtected readOnly c req files := by
  by_cases hcontrol :
      readOnly = 0 ∧ req.uri = "/control" ∧ req.method = .get
  · rcases hcontrol with ⟨hreadOnly, huri, hget⟩
    have hhandle : handle readOnly c req files =
        controlHandler c.library req files := by
      simp [handle, hreadOnly, huri, hget]
    rw [hhandle, controlHandler_keeps_iff]
    simp [DeletesProtected, hreadOnly, huri, hget]
  · have hnot : ¬ DeletesProtected readOnly c req files := by
      intro hdeletes
      rcases hdeletes with ⟨hreadOnly, huri, hget, _⟩
      exact hcontrol ⟨hreadOnly, huri, hget⟩
    refine iff_of_true ?_ hnot
    intro t ht
    unfold handle at ht
    split at ht
    · split at ht
      · exact postHandler_touched ht
      · split at ht
        · exact getHandler_touched ht
        · cases ht
    · rename_i huri
      split at ht
      · cases ht
      · rename_i hreadOnly
        split at ht
        · rename_i hget
          exact absurd ⟨not_not.mp hreadOnly, huri, hget⟩ hcontrol
        · cases ht
    · split at ht
      · exact getFileByName_touched (by decide) ht
      · cases ht
    · cases ht

/-!
## What is not touched
-/

def Reply.Frames (files : Files capacity) (reply : Reply capacity) : Prop :=
  forall name, (forall t, t ∈ reply.touched -> t.name ≠ name) ->
    reply.files name = files name

theorem Reply.only_frames (files : Files capacity) (sent : List Sent)
    (result : EspErr) : (Reply.only files sent result).Frames files :=
  fun _ _ => rfl

theorem postHandler_frames (o : Outcomes) (req : Request)
    (files : Files capacity) : (postHandler o req files).Frames files := by
  unfold postHandler
  split
  · exact Reply.only_frames files _ _
  · split
    · exact Reply.only_frames files _ _
    · intro name hname
      exact Files.set_other (hname _ List.mem_cons_self).symm

theorem getFileByName_frames (o : Outcomes) (sends : Nat -> Int32)
    (name : List UInt8) (files : Files capacity) :
    (getFileByName o sends name files).Frames files := by
  cases hopen : fopenRead o files (fsBase ++ name) with
  | none =>
      simp only [getFileByName, hopen]
      exact Reply.only_frames files _ _
  | some file =>
      simp only [getFileByName, hopen]
      exact fun _ _ => rfl

theorem getHandler_frames (o : Outcomes) (sends : Nat -> Int32)
    (req : Request) (files : Files capacity) :
    (getHandler o sends req files).Frames files := by
  unfold getHandler
  split
  · exact Reply.only_frames files _ _
  · exact getFileByName_frames o sends req.url files

theorem unlinkFile_frames (o : Outcomes) (fname : List UInt8)
    (files : Files capacity) : (unlinkFile o fname files).Frames files := by
  unfold unlinkFile
  split
  · intro name hname
    exact Files.set_other (hname _ List.mem_cons_self).symm
  · exact Reply.only_frames files _ _

theorem controlHandler_frames (o : Outcomes) (req : Request)
    (files : Files capacity) : (controlHandler o req files).Frames files := by
  unfold controlHandler
  split
  · exact Reply.only_frames files _ _
  · exact fun _ _ => rfl
  · split
    · exact fun _ _ => rfl
    · exact unlinkFile_frames o _ files
  · exact fun _ _ => rfl

theorem handle_frames (readOnly : Int32) (c : Conditions) (req : Request)
    (files : Files capacity) : (handle readOnly c req files).Frames files := by
  unfold handle
  split
  · split
    · exact postHandler_frames c.library req files
    · split
      · exact getHandler_frames c.library c.sends req files
      · exact Reply.only_frames files _ _
  · split
    · exact Reply.only_frames files _ _
    · split
      · exact controlHandler_frames c.library req files
      · exact Reply.only_frames files _ _
  · split
    · exact getFileByName_frames c.library c.sends _ files
    · exact Reply.only_frames files _ _
  · exact Reply.only_frames files _ _

theorem handle_protected {readOnly : Int32} {c : Conditions} {req : Request}
    {files : Files capacity} {name : List UInt8} (hname : Protected name)
    (h : ¬ DeletesProtected readOnly c req files) :
    (handle readOnly c req files).files name = files name := by
  apply handle_frames readOnly c req files name
  intro t ht hsame
  rw [← hsame] at hname
  exact handle_keeps_iff.mpr h t ht hname

/-!
## Whole runs
-/

/-- The protected files are out of reach exactly when no request deletes one. -/
theorem keepsProtected_iff_noneDeletes (readOnly : Int32)
    (events : List (Event capacity)) (files : Files capacity) :
    KeepsProtected readOnly events files <->
      NoneDeletes readOnly events files := by
  induction events generalizing files with
  | nil => simp [KeepsProtected, touches, NoneDeletes]
  | cons event rest ih =>
      have hsplit : KeepsProtected readOnly (event :: rest) files <->
          (forall t, t ∈ (serve readOnly event files).2 ->
              ¬ Protected t.name) ∧
            KeepsProtected readOnly rest (serve readOnly event files).1 := by
        simp only [KeepsProtected, touches, List.mem_append, or_imp,
          forall_and]
      rw [hsplit, ih]
      cases event with
      | request c req =>
          simp only [serve, NoneDeletes]
          rw [handle_keeps_iff]
      | runtime files' => simp [serve, NoneDeletes]

/-!
## A request that deletes a private file
-/

def allWorks : Conditions where
  library :=
    { opens := true
      unlinks := true
      allocates := true
      stores := fun _ => bufSize
      brings := fun _ => bufSize }
  sends := fun _ => 0

def deleteKey : Request where
  method := .get
  uri := "/control"
  query := some { bytes := ascii "deletefile=_key", nonzero := by decide }
  stale := { bytes := [], nonzero := nonzero_nil }
  contentLen := 0
  recvs := []

def keyOnly : Files storageSize :=
  fun name =>
    if name = ascii "/_key" then
      some { bytes := [42], length_le := by decide }
    else
      none

theorem deleteKey_not_kept :
    ¬ KeepsProtected 0 [.request allWorks deleteKey] keyOnly := by
  intro h
  exact h (.remove (ascii "/_key")) (by decide) ⟨ascii "key", rfl⟩

end WebService
end Fluxnode
