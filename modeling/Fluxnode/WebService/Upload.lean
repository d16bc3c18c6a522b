import Fluxnode.WebService.Model
import Fluxnode.DukMain.LoadFile

/-!
# Upload and load

`post_handler` writes a newline behind the body, and `duk_util_load_file`
overwrites the last byte of a file.  The two cancel out, however the body
arrives.
-/

namespace Fluxnode
namespace WebService

open C
open DukMain (dukUtilLoadFile)

variable {capacity : Nat}

def bodyOf (pieces : List Piece) : List UInt8 :=
  (pieces.map Piece.bytes).flatten

theorem bodyOf_cons (piece : Piece) (rest : List Piece) :
    bodyOf (piece :: rest) = piece.bytes ++ bodyOf rest := rfl

theorem bodyOf_length_pos {pieces : List Piece} (h : pieces ≠ []) :
    0 < (bodyOf pieces).length := by
  cases pieces with
  | nil => exact absurd rfl h
  | cons piece rest =>
      have hpos := piece.nonempty
      rw [bodyOf_cons, List.length_append]
      lia

structure Uploaded (before : FileContent capacity) (stored : Bool)
    (body : List UInt8) (r : PostResult capacity) : Prop where
  ended : r.ended = .complete
  bytes : r.stored = true ->
    stored = true ∧ r.file.bytes = before.bytes ++ body ++ ascii "\n"

theorem toNat_bread {bread contentLen : UInt32} {piece : Piece} {more : Nat}
    (hlen : bread.toNat + (piece.bytes.length + more) = contentLen.toNat) :
    (bread + UInt32.ofNat piece.bytes.length).toNat =
      bread.toNat + piece.bytes.length := by
  have hbound := contentLen.toNat_lt
  rw [UInt32.toNat_add, UInt32.toNat_ofNat_of_lt' (show _ < 2 ^ 32 by lia)]
  exact Nat.mod_eq_of_lt (by lia)

/-- The invariant of the loop: the bytes read and the bytes to come are as many
as the header announces. -/
theorem postLoop_uploaded (o : Outcomes) {contentLen : UInt32}
    {pieces : List Piece} (hpieces : pieces ≠ []) (k : Nat) (bread : UInt32)
    (stored : Bool) (file : FileContent capacity)
    (hlen : bread.toNat + (bodyOf pieces).length = contentLen.toNat) :
    Uploaded file stored (bodyOf pieces)
      (postLoop o contentLen (pieces.map .data) k bread stored file) := by
  induction pieces generalizing k bread stored file with
  | nil => exact absurd rfl hpieces
  | cons piece rest ih =>
      rw [bodyOf_cons, List.length_append] at hlen
      have hbread := toNat_bread hlen
      rw [List.map_cons, postLoop]
      cases rest with
      | nil =>
          have hnone : (bodyOf []).length = 0 := rfl
          have hdone :
              bread + UInt32.ofNat piece.bytes.length ≥ contentLen := by
            rw [ge_iff_le, UInt32.le_iff_toNat_le, hbread]
            lia
          simp only [if_pos hdone]
          constructor
          · rfl
          · intro hstored
            simp only [Bool.and_eq_true, decide_eq_true_eq] at hstored
            rcases hstored with ⟨⟨hbefore, hpiece⟩, hnewline⟩
            constructor
            · exact hbefore
            · rw [fwrite_whole hnewline, fwrite_whole hpiece]
              simp [bodyOf]
      | cons next rest =>
          have hmore := bodyOf_length_pos (List.cons_ne_nil next rest)
          have hgoes :
              ¬ bread + UInt32.ofNat piece.bytes.length ≥ contentLen := by
            rw [ge_iff_le, UInt32.le_iff_toNat_le, hbread]
            lia
          simp only [if_neg hgoes]
          have hrest := ih (List.cons_ne_nil next rest) (k + 1)
            (bread + UInt32.ofNat piece.bytes.length)
            (stored && decide (storedPart file piece.bytes (o.stores k) =
              piece.bytes))
            (fwrite file piece.bytes (o.stores k)) (by rw [hbread]; lia)
          constructor
          · exact hrest.ended
          · intro hstored
            rcases hrest.bytes hstored with ⟨hwhole, hbytes⟩
            simp only [Bool.and_eq_true, decide_eq_true_eq] at hwhole
            constructor
            · exact hwhole.1
            · rw [hbytes, fwrite_whole hwhole.2, bodyOf_cons piece]
              simp only [List.append_assoc]

theorem postHandler_of_ok {o : Outcomes} {req : Request}
    {files : Files capacity}
    (hok : (postHandler o req files).sent = [.str "OK"]) :
    req.url.head? ≠ some protectedFile ∧ o.opens = true := by
  have hhead : req.url.head? ≠ some protectedFile := by
    intro hprotected
    simp [postHandler, hprotected, Reply.only] at hok
  constructor
  · exact hhead
  · cases hopens : o.opens with
    | true => rfl
    | false => simp [postHandler, hhead, hopens, Reply.only] at hok

/--
Whatever the pieces are in which a body without zero bytes arrives, the file
holds the body and a newline after the answer, and loading it gives the body.
-/
theorem upload_then_load {o oLoad : Outcomes} {req : Request}
    {files : Files capacity}
    {pieces : List Piece} (hpos : 1 ≤ (bodyOf pieces).length)
    (hnul : (0 : UInt8) ∉ bodyOf pieces)
    (hlen : req.contentLen.toNat = (bodyOf pieces).length)
    (hrecvs : req.recvs = pieces.map .data)
    (hok : (postHandler o req files).sent = [.str "OK"])
    (hstored : (postHandler o req files).stored = true)
    (hreliable : oLoad.Reliable capacity) :
    exists file buff,
      (postHandler o req files).files (fsBase ++ req.url) = some file ∧
      file.bytes = bodyOf pieces ++ ascii "\n" ∧
      dukUtilLoadFile oLoad (postHandler o req files).files
        (fsBase ++ req.url) = some (some buff) ∧
      cString buff = some (bodyOf pieces) := by
  have hpieces : pieces ≠ [] := by
    intro hnil
    subst hnil
    exact absurd hpos (by decide)
  rcases postHandler_of_ok hok with ⟨hhead, hopens⟩
  let empty : FileContent capacity := .empty
  have hup := postLoop_uploaded o hpieces 0 0 true empty
    (by rw [hlen]; exact Nat.zero_add _)
  rw [← hrecvs] at hup
  have hpost : (postHandler o req files).files =
      files.set (fsBase ++ req.url)
        (some (postLoop o req.contentLen req.recvs 0 0 true empty).file) ∧
      (postHandler o req files).stored =
        (postLoop o req.contentLen req.recvs 0 0 true empty).stored := by
    unfold postHandler
    rw [if_neg hhead]
    simp [hopens, empty]
  rw [hpost.2] at hstored
  rcases hup.bytes hstored with ⟨_, hbytes⟩
  have hfile := Files.set_self files (fsBase ++ req.url)
    (some (postLoop o req.contentLen req.recvs 0 0 true empty).file)
  rw [← hpost.1] at hfile
  rcases DukMain.dukUtilLoadFile_snoc hreliable hfile hbytes hnul with
    ⟨buff, hload, hstring⟩
  exact ⟨_, buff, hfile, hbytes, hload, hstring⟩

def uploadScript : Request where
  method := .post
  uri := "/file"
  query := some { bytes := ascii "a.js", nonzero := by decide }
  stale := { bytes := [], nonzero := nonzero_nil }
  contentLen := 2
  recvs :=
    [.data { bytes := ascii "1", nonempty := by decide, length_le := by decide },
      .data { bytes := ascii ";", nonempty := by decide, length_le := by decide }]

def reliable : Outcomes where
  opens := true
  unlinks := true
  allocates := true
  stores := fun _ => storageSize
  brings := fun _ => storageSize

def formatted : Files storageSize :=
  fun _ => none

theorem upload_then_load_script :
    exists file buff,
      (postHandler reliable uploadScript formatted).files
        (ascii "/a.js") = some file ∧
      file.bytes = ascii "1;" ++ ascii "\n" ∧
      dukUtilLoadFile reliable
        (postHandler reliable uploadScript formatted).files
        (ascii "/a.js") = some (some buff) ∧
      cString buff = some (ascii "1;") := by
  have hreliable : reliable.Reliable storageSize :=
    ⟨rfl, rfl, rfl, fun _ => Nat.le_refl _, fun _ => Nat.le_refl _⟩
  have hload := @upload_then_load _ reliable reliable uploadScript formatted
    [{ bytes := ascii "1", nonempty := by decide, length_le := by decide },
      { bytes := ascii ";", nonempty := by decide, length_le := by decide }]
    (by decide) (by decide) rfl rfl (by decide) (by decide) hreliable
  exact hload

end WebService
end Fluxnode
