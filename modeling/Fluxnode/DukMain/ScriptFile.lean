import Fluxnode.DukMain.LoadFile

/-!
# Script files

What a file has to be loaded as, and how `FileSystem.write` brings a script into
a file.  Only the web upload appends a byte for the terminator to replace.
-/

namespace Fluxnode
namespace DukMain

open C

variable {capacity : Nat}

/-- The buffer holds the bytes of the file and a terminator behind them, and
nothing was written outside. -/
def ReturnsFile (o : Outcomes) (files : Files capacity) (fname : List UInt8)
    (file : FileContent capacity) : Prop :=
  dukUtilLoadFile o files fname =
    some (some (file.bytes.map some ++ [some 0]))

/-- No file is returned, whatever it holds. -/
theorem dukUtilLoadFile_not_returnsFile (o : Outcomes)
    (files : Files capacity) (fname : List UInt8)
    (file : FileContent capacity) (hfile : files fname = some file)
    (hloads : Loads o file) : ¬ ReturnsFile o files fname file := by
  intro hreturns
  rw [ReturnsFile] at hreturns
  rcases List.eq_nil_or_concat file.bytes with hempty | ⟨body, last, hbytes⟩
  · rw [dukUtilLoadFile_of_empty hfile hloads hempty] at hreturns
    cases hreturns
  · rw [List.concat_eq_append] at hbytes
    rw [dukUtilLoadFile_of_append hfile hloads hbytes, hbytes] at hreturns
    simp at hreturns

/-!
## Scripts that scripts write
-/

inductive FsData where
  | buffer (bytes : List UInt8)
  | string (s : CString)
  deriving DecidableEq, Repr

def FsData.bytes : FsData -> List UInt8
  | .buffer bytes => bytes
  | .string s => s.bytes

/-- `offset` and `length` of `js_fs_write`, from its numeric arguments. -/
def fsWriteRange (data : FsData) (offset length : Option Int32) :
    SizeT × SizeT :=
  let bufferSize := UInt32.ofNat data.bytes.length
  match data, offset, length with
  | .buffer _, some offset, some length =>
      (offset.toUInt32,
        if length.toUInt32 > bufferSize then bufferSize else length.toUInt32)
  | .buffer _, some offset, none => (offset.toUInt32, bufferSize)
  | _, _, _ => (0, bufferSize)

/-- The bytes that `js_fs_write` hands to `write`, when they are all in the
data. -/
def jsFsWriteBytes (data : FsData) (offset length : Option Int32) :
    Option (List UInt8) :=
  let bufferSize := UInt32.ofNat data.bytes.length
  let (offset, length) := fsWriteRange data offset length
  let length :=
    if length > bufferSize - offset then bufferSize - offset else length
  readBytes data.bytes offset.toNat length.toNat

/-- `js_fs_write` at the end of the file, and its return value. -/
def jsFsWrite (file : FileContent capacity) (data : FsData)
    (offset length : Option Int32) (most : Nat) :
    Option (FileContent capacity × Nat) :=
  (jsFsWriteBytes data offset length).map (fun bytes =>
    (fwrite file bytes most, (storedPart file bytes most).length))

theorem jsFsWriteBytes_all {data : FsData}
    (hsize : data.bytes.length < 2 ^ 32) :
    jsFsWriteBytes data none none = some data.bytes := by
  have hrange : fsWriteRange data none none =
      (0, UInt32.ofNat data.bytes.length) := by
    cases data <;> rfl
  have hnot : ¬ UInt32.ofNat data.bytes.length >
      UInt32.ofNat data.bytes.length - 0 := by
    rw [UInt32.sub_zero]
    exact UInt32.lt_irrefl _
  have hlength : (UInt32.ofNat data.bytes.length).toNat =
      data.bytes.length := UInt32.toNat_ofNat_of_lt' hsize
  simp only [jsFsWriteBytes, hrange, if_neg hnot, hlength]
  rw [UInt32.toNat_zero, readBytes_of_le (by lia), List.drop_zero,
    List.take_length]

/--
A script that is written into a new file is in the file as it is.  What is
loaded and run from there lacks its last byte.
-/
theorem written_script_loses_last {o : Outcomes} {s : CString} {most : Nat}
    (files : Files capacity) (fname : List UInt8) (hne : s.bytes ≠ [])
    (hsize : s.bytes.length < 2 ^ 32) (hroom : s.bytes.length ≤ capacity)
    (hmost : s.bytes.length ≤ most) (hreliable : o.Reliable capacity) :
    exists file buff,
      jsFsWrite .empty (.string s) none none most =
        some (file, s.bytes.length) ∧
      file.bytes = s.bytes ∧
      dukUtilLoadFile o (files.set fname (some file)) fname =
        some (some buff) ∧
      cString buff = some s.bytes.dropLast := by
  have hall : jsFsWriteBytes (.string s) none none = some s.bytes :=
    jsFsWriteBytes_all hsize
  have hstored : storedPart (.empty : FileContent capacity) s.bytes most =
      s.bytes := by
    rw [storedPart, List.take_of_length_le]
    simp only [FileContent.empty, List.length_nil]
    lia
  have hbytes : (fwrite (.empty : FileContent capacity) s.bytes most).bytes =
      s.bytes.dropLast ++ [s.bytes.getLast hne] := by
    rw [fwrite_whole hstored, List.dropLast_append_getLast]
    rfl
  have hnul : (0 : UInt8) ∉ s.bytes.dropLast :=
    fun hmem => s.nonzero (List.dropLast_subset _ hmem)
  rcases dukUtilLoadFile_snoc hreliable
      (Files.set_self files fname
        (some (fwrite (.empty : FileContent capacity) s.bytes most)))
      hbytes hnul with ⟨buff, hload, hstring⟩
  refine ⟨_, buff, ?_, ?_, hload, hstring⟩
  · rw [jsFsWrite, hall, Option.map_some, hstored]
  · rw [hbytes, List.dropLast_append_getLast]

/-!
## A file without a newline
-/

def allSucceed : Outcomes where
  opens := true
  unlinks := true
  allocates := true
  stores := fun _ => 64
  brings := fun _ => 64

def oneByteFile : FileContent 64 where
  bytes := ascii "1"
  length_le := by decide

theorem oneByteFile_not_returnsFile :
    ¬ ReturnsFile allSucceed (fun _ => some oneByteFile) (ascii "/a.js")
      oneByteFile :=
  dukUtilLoadFile_not_returnsFile allSucceed (fun _ => some oneByteFile)
    (ascii "/a.js") oneByteFile rfl ⟨rfl, rfl, by decide⟩

theorem oneByteFile_loaded_empty :
    dukUtilLoadFile allSucceed (fun _ => some oneByteFile) (ascii "/a.js") =
        some (some [some 0, none]) ∧
      ¬ ReturnsFile allSucceed (fun _ => some oneByteFile) (ascii "/a.js")
        oneByteFile := by
  have hload : dukUtilLoadFile allSucceed (fun _ => some oneByteFile)
      (ascii "/a.js") = some (some [some 0, none]) := by
    decide
  refine ⟨hload, ?_⟩
  rw [ReturnsFile, hload]
  decide

end DukMain
end Fluxnode
