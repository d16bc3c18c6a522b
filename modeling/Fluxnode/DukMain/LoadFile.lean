import Fluxnode.C.File
import Fluxnode.C.Memory

/-!
# Loading a script

`duk_util_load_file` reads a file into a block that is one byte larger, and
overwrites the last byte of the file with the terminator.
-/

namespace Fluxnode
namespace DukMain

open C

variable {capacity : Nat}

/-- `duk_util_load_file`: a block or `NULL`.  An empty file has no result: its
terminator is written in front of the block. -/
def dukUtilLoadFile (o : Outcomes) (files : Files capacity)
    (fname : List UInt8) : Option (Option Block) :=
  match fopenRead o files fname with
  | none => some none
  | some file =>
      let fsize := file.bytes.length
      if o.allocates = false then
        some none
      else
        let data := fread file 0 fsize (o.brings 0)
        let buff := filled data (fsize + 1)
        if fsize = 0 then
          none
        else if data.length < fsize then
          some none
        else
          some (some (buff.set (fsize - 1) (some 0)))

/-- The calls of `duk_util_load_file` that can fail. -/
structure Loads (o : Outcomes) (file : FileContent capacity) : Prop where
  opens : o.opens = true
  allocates : o.allocates = true
  brings : file.bytes.length ≤ o.brings 0

theorem loads_of_reliable {o : Outcomes} (h : o.Reliable capacity)
    (file : FileContent capacity) : Loads o file where
  opens := h.1
  allocates := h.2.2.1
  brings := Nat.le_trans file.length_le (h.2.2.2.2 0)

theorem dukUtilLoadFile_of_empty {o : Outcomes} {files : Files capacity}
    {fname : List UInt8} {file : FileContent capacity}
    (hfile : files fname = some file) (hloads : Loads o file)
    (hempty : file.bytes = []) : dukUtilLoadFile o files fname = none := by
  simp only [dukUtilLoadFile, fopenRead_of_opens hloads.opens, hfile, hempty]
  rw [if_neg (by simp [hloads.allocates]), if_pos List.length_nil]

/-- The terminator replaces the last byte, and the byte behind it is never
written. -/
theorem dukUtilLoadFile_of_append {o : Outcomes} {files : Files capacity}
    {fname body : List UInt8} {last : UInt8} {file : FileContent capacity}
    (hfile : files fname = some file) (hloads : Loads o file)
    (hbytes : file.bytes = body ++ [last]) :
    dukUtilLoadFile o files fname =
      some (some (body.map some ++ [some 0, none])) := by
  have hlength : file.bytes.length = body.length + 1 := by
    rw [hbytes, List.length_append, List.length_singleton]
  have hdata : fread file 0 file.bytes.length (o.brings 0) = file.bytes :=
    fread_whole hloads.brings
  have hbuff : (filled file.bytes (file.bytes.length + 1)).set
      (file.bytes.length - 1) (some 0) =
      body.map some ++ [some 0, none] := by
    rw [filled, Nat.add_sub_cancel_left, hlength, Nat.add_sub_cancel, hbytes,
      List.map_append, List.append_assoc,
      List.set_append_right _ _ (Nat.le_of_eq (List.length_map some)),
      List.length_map, Nat.sub_self]
    rfl
  simp only [dukUtilLoadFile, fopenRead_of_opens hloads.opens, hfile, hdata,
    hbuff]
  rw [if_neg (by simp [hloads.allocates]), if_neg (by lia),
    if_neg (Nat.lt_irrefl _)]

theorem dukUtilLoadFile_snoc {o : Outcomes} (hreliable : o.Reliable capacity)
    {files : Files capacity} {fname body : List UInt8} {last : UInt8}
    {file : FileContent capacity} (hfile : files fname = some file)
    (hbytes : file.bytes = body ++ [last]) (hnul : (0 : UInt8) ∉ body) :
    exists buff, dukUtilLoadFile o files fname = some (some buff) ∧
      cString buff = some body := by
  refine ⟨body.map some ++ [some 0, none], ?_, cString_terminated hnul⟩
  exact dukUtilLoadFile_of_append hfile (loads_of_reliable hreliable file)
    hbytes

end DukMain
end Fluxnode
