import Fluxnode.Foundation.Stream
import Fluxnode.WebService.Model

/-!
# Downloads

`get_file_by_name` sends a file block by block.  An empty chunk ends the answer:
it is the last block itself when the blocks divide the file evenly, and comes
behind a block that is not full otherwise.
-/

namespace Fluxnode
namespace WebService

open C
open Foundation

variable {capacity : Nat}

/-- The answer brings the content in chunks and ends with the only empty one. -/
def Streams (content : List UInt8) (sent : List Sent) : Prop :=
  exists blocks : List (List UInt8),
    sent = blocks.map .chunk ++ [.chunk []] ∧
      (forall block, block ∈ blocks -> block ≠ []) ∧
      blocks.flatten = content

def BringsBlocks (o : Outcomes) : Prop :=
  forall k, bufSize ≤ o.brings k

theorem fread_block {o : Outcomes} (hbrings : BringsBlocks o)
    (file : FileContent capacity) (k pos : Nat) :
    fread file pos bufSize (o.brings k) =
      (file.bytes.drop pos).take bufSize := by
  rw [fread, Nat.min_eq_left (hbrings k)]

/-- The loop sends the blocks of what is left of the file. -/
theorem getLoop_eq {o : Outcomes} {sends : Nat -> Int32}
    (hbrings : BringsBlocks o) (hsends : forall k, ¬ sends k < 0)
    (file : FileContent capacity) (k pos : Nat) :
    getLoop o sends file k pos =
      ((chunks bufSize (file.bytes.drop pos)).map .chunk ++ [.chunk []],
        .ok) := by
  fun_induction getLoop o sends file k pos with
  | case1 k pos hsend => exact absurd hsend (hsends k)
  | case2 k pos hsend hshort hempty =>
      rw [fread_block hbrings] at hempty
      have hend : file.bytes.drop pos = [] := by
        rcases List.take_eq_nil_iff.mp hempty with hzero | hend
        · cases hzero
        · exact hend
      rw [hend, chunks_nil]
      rfl
  | case3 k pos hsend hshort hmore =>
      rw [fread_block hbrings] at hshort hmore ⊢
      have hne : file.bytes.drop pos ≠ [] := by
        intro hend
        rw [hend] at hmore
        exact hmore List.take_nil
      have hlast : (file.bytes.drop pos).length < bufSize := by
        rw [List.length_take] at hshort
        lia
      rw [chunks_of_pos (by decide) hne,
        List.drop_eq_nil_of_le (Nat.le_of_lt hlast), chunks_nil]
      rfl
  | case4 k pos hsend hfull r ih =>
      rw [fread_block hbrings] at hfull ⊢
      have hne : file.bytes.drop pos ≠ [] := by
        intro hend
        rw [hend, List.take_nil] at hfull
        exact hfull (by decide)
      simp only [r]
      rw [ih, chunks_of_pos (by decide) hne, List.drop_drop]
      rfl

/-- A file of any length is sent as a whole, and the answer is ended once. -/
theorem getFileByName_streams {o : Outcomes} {sends : Nat -> Int32}
    {name : List UInt8} {files : Files capacity} {file : FileContent capacity}
    (hopens : o.opens = true) (hfile : files (fsBase ++ name) = some file)
    (hbrings : BringsBlocks o) (hsends : forall k, ¬ sends k < 0) :
    Streams file.bytes (getFileByName o sends name files).sent ∧
      (getFileByName o sends name files).result = .ok := by
  have hloop := getLoop_eq hbrings hsends file 0 0
  rw [List.drop_zero] at hloop
  have hreply : (getFileByName o sends name files).sent =
        (getLoop o sends file 0 0).1 ∧
      (getFileByName o sends name files).result =
        (getLoop o sends file 0 0).2 := by
    have hopen : fopenRead o files (fsBase ++ name) = some file :=
      (fopenRead_of_opens hopens files _).trans hfile
    simp only [getFileByName, hopen, and_self]
  rw [hreply.1, hreply.2, hloop]
  constructor
  · refine ⟨_, rfl, ?_, chunks_flatten (by decide) file.bytes⟩
    intro block hblock
    exact ne_nil_of_mem_chunks hblock
  · rfl

def oneBlock : FileContent storageSize where
  bytes := List.replicate bufSize 0x61
  length_le := by
    rw [List.length_replicate]
    decide

def allBrought : Outcomes where
  opens := true
  unlinks := true
  allocates := true
  stores := fun _ => storageSize
  brings := fun _ => storageSize

theorem getFileByName_streams_oneBlock :
    Streams (List.replicate bufSize 0x61)
        (getFileByName allBrought (fun _ => 0) (ascii "a.js")
          (fun _ => some oneBlock)).sent ∧
      (getFileByName allBrought (fun _ => 0) (ascii "a.js")
        (fun _ => some oneBlock)).result = .ok :=
  @getFileByName_streams _ allBrought (fun _ => 0) (ascii "a.js")
    (fun _ => some oneBlock) oneBlock rfl rfl
    (fun _ => by change bufSize ≤ storageSize; decide) (fun _ => by decide)

end WebService
end Fluxnode
