import Fluxnode.WebService.Upload

/-!
# Uploads that fail

`post_handler` empties the file before the first byte of the body is there, and
writes each piece as it comes.  When the transfer fails, the file is left with
what has come so far.
-/

namespace Fluxnode
namespace WebService

open C

variable {capacity : Nat}

/-- `httpd_req_recv` brings these pieces and then no more, and they are not the
whole body. -/
structure TransferFails (req : Request) (pieces : List Piece) : Prop where
  recvs : exists rest, req.recvs = pieces.map .data ++ rest ∧
    forall piece, rest.head? ≠ some (.data piece)
  short : pieces = [] ∨ (bodyOf pieces).length < req.contentLen.toNat

def Refused (o : Outcomes) (req : Request) : Prop :=
  req.url.head? = some protectedFile ∨ o.opens = false

/-- The file after the pieces are written to it, from the `k`-th `fwrite` on. -/
def writePieces (o : Outcomes) :
    Nat -> FileContent capacity -> List Piece -> FileContent capacity
  | _, file, [] => file
  | k, file, piece :: rest =>
      writePieces o (k + 1) (fwrite file piece.bytes (o.stores k)) rest

structure LeavesAlone (req : Request) (files : Files capacity)
    (reply : Reply capacity) :
    Prop where
  result : reply.result = .fail
  file : reply.files (fsBase ++ req.url) = files (fsBase ++ req.url)

structure LeavesReceived (o : Outcomes) (req : Request) (files : Files capacity)
    (pieces : List Piece) (reply : Reply capacity) : Prop where
  result : reply.result = .fail
  others : forall name, name ≠ fsBase ++ req.url ->
    reply.files name = files name
  refused : Refused o req ->
    reply.files (fsBase ++ req.url) = files (fsBase ++ req.url)
  received : ¬ Refused o req ->
    reply.files (fsBase ++ req.url) = some (writePieces o 0 .empty pieces)
  whole : ¬ Refused o req -> reply.stored = true ->
    (writePieces o 0 (.empty : FileContent capacity) pieces).bytes =
      bodyOf pieces

/-!
## The loop
-/

structure Interrupted (o : Outcomes) (k : Nat) (stored : Bool)
    (before : FileContent capacity) (pieces : List Piece)
    (r : PostResult capacity) :
    Prop where
  file : r.file = writePieces o k before pieces
  ended : r.ended ≠ .complete
  whole : r.stored = true -> stored = true ∧
    (writePieces o k before pieces).bytes = before.bytes ++ bodyOf pieces

theorem postLoop_nil (o : Outcomes) (contentLen : UInt32) {rest : List Recv}
    (hrest : forall piece, rest.head? ≠ some (.data piece)) (k : Nat)
    (bread : UInt32) (stored : Bool) (file : FileContent capacity) :
    Interrupted o k stored file [] (postLoop o contentLen rest k bread stored
      file) := by
  have hbytes : file.bytes = file.bytes ++ bodyOf [] :=
    (List.append_nil _).symm
  cases rest with
  | nil => exact ⟨rfl, nofun, fun h => ⟨h, hbytes⟩⟩
  | cons recv rest =>
      cases recv with
      | data piece => exact absurd rfl (hrest piece)
      | timeout => exact ⟨rfl, nofun, fun h => ⟨h, hbytes⟩⟩
      | failed => exact ⟨rfl, nofun, fun h => ⟨h, hbytes⟩⟩

/-- The invariant of the loop: the bytes read and those to come are fewer than
the header announces. -/
theorem postLoop_interrupted (o : Outcomes) {contentLen : UInt32}
    {rest : List Recv} (hrest : forall piece, rest.head? ≠ some (.data piece))
    {pieces : List Piece} (k : Nat) (bread : UInt32) (stored : Bool)
    (file : FileContent capacity)
    (hshort : pieces = [] ∨
      bread.toNat + (bodyOf pieces).length < contentLen.toNat) :
    Interrupted o k stored file pieces
      (postLoop o contentLen (pieces.map .data ++ rest) k bread stored
        file) := by
  induction pieces generalizing k bread stored file with
  | nil => exact postLoop_nil o contentLen hrest k bread stored file
  | cons piece more ih =>
      have hlt : bread.toNat + (piece.bytes.length + (bodyOf more).length) <
          contentLen.toNat := by
        rcases hshort with hnil | hlt
        · cases hnil
        · rw [bodyOf_cons, List.length_append] at hlt
          exact hlt
      have hbound := contentLen.toNat_lt
      have hbread : (bread + UInt32.ofNat piece.bytes.length).toNat =
          bread.toNat + piece.bytes.length := by
        rw [UInt32.toNat_add, UInt32.toNat_ofNat_of_lt' (show _ < 2 ^ 32 by lia)]
        exact Nat.mod_eq_of_lt (by lia)
      have hgoes :
          ¬ bread + UInt32.ofNat piece.bytes.length ≥ contentLen := by
        rw [ge_iff_le, UInt32.le_iff_toNat_le, hbread]
        lia
      simp only [List.map_cons, List.cons_append, postLoop, if_neg hgoes]
      have hrest := ih (k + 1) (bread + UInt32.ofNat piece.bytes.length)
        (stored && decide (storedPart file piece.bytes (o.stores k) =
          piece.bytes))
        (fwrite file piece.bytes (o.stores k)) (Or.inr (by rw [hbread]; lia))
      constructor
      · exact hrest.file
      · exact hrest.ended
      · intro hstored
        rcases hrest.whole hstored with ⟨hwhole, hbytes⟩
        simp only [Bool.and_eq_true, decide_eq_true_eq] at hwhole
        constructor
        · exact hwhole.1
        · rw [writePieces, hbytes, fwrite_whole hwhole.2, bodyOf_cons,
            List.append_assoc]

/-!
## The handler
-/

theorem postHandler_of_refused {o : Outcomes} {req : Request}
    {files : Files capacity}
    (h : Refused o req) :
    (postHandler o req files).result = .fail ∧
      (postHandler o req files).files = files := by
  unfold postHandler
  by_cases hhead : req.url.head? = some protectedFile
  · rw [if_pos hhead]
    exact ⟨rfl, rfl⟩
  · rcases h with hprotected | hopens
    · exact absurd hprotected hhead
    · rw [if_neg hhead, if_pos hopens]
      exact ⟨rfl, rfl⟩

theorem postHandler_of_not_refused {o : Outcomes} {req : Request}
    {files : Files capacity} (h : ¬ Refused o req) :
    let r := postLoop o req.contentLen req.recvs 0 0 true .empty
    (postHandler o req files).files =
        files.set (fsBase ++ req.url) (some r.file) ∧
      (postHandler o req files).stored = r.stored ∧
      (postHandler o req files).result =
        if r.ended = .complete then .ok else .fail := by
  rw [Refused, not_or] at h
  unfold postHandler
  rw [if_neg h.1, if_neg h.2]
  exact ⟨rfl, rfl, rfl⟩

/-- Whenever the transfer fails, the request fails, and the old content of the
file is gone. -/
theorem failed_upload_leaves_received (o : Outcomes) (req : Request)
    (files : Files capacity) (pieces : List Piece)
    (hfails : TransferFails req pieces) :
    LeavesReceived o req files pieces (postHandler o req files) := by
  by_cases hrefused : Refused o req
  · rcases @postHandler_of_refused _ o req files hrefused with ⟨hresult, hfiles⟩
    constructor
    · exact hresult
    · intro name _
      rw [hfiles]
    · intro _
      rw [hfiles]
    · intro hnot
      exact absurd hrefused hnot
    · intro hnot
      exact absurd hrefused hnot
  · rcases hfails with ⟨⟨rest, hrecvs, hrest⟩, hshort⟩
    rcases @postHandler_of_not_refused _ o req files hrefused with
      ⟨hfiles, hstored, hresult⟩
    have hloop := @postLoop_interrupted capacity o req.contentLen rest hrest
      pieces 0 0 true .empty
      (by rw [UInt32.toNat_zero, Nat.zero_add]; exact hshort)
    rw [← hrecvs] at hloop
    constructor
    · rw [hresult, if_neg hloop.ended]
    · intro name hother
      rw [hfiles, Files.set_other hother]
    · intro h
      exact absurd h hrefused
    · intro _
      rw [hfiles, Files.set_self, hloop.file]
    · intro _ hwhole
      rw [hstored] at hwhole
      exact (hloop.whole hwhole).2

def timedOut : Request :=
  { uploadScript with recvs := [.timeout] }

def oldScript : FileContent storageSize where
  bytes := ascii "1;"
  length_le := by decide

theorem timedOut_transferFails : TransferFails timedOut [] where
  recvs := ⟨[.timeout], rfl, nofun⟩
  short := Or.inl rfl

theorem failed_upload_leaves_received_timedOut :
    (postHandler reliable timedOut (fun _ => some oldScript)).files
      (ascii "/a.js") = some .empty := by
  have hleft := failed_upload_leaves_received reliable timedOut
    (fun _ => some oldScript) [] timedOut_transferFails
  exact hleft.received (by rintro (h | h) <;> exact absurd h (by decide))

theorem failed_upload_empties :
    TransferFails timedOut [] ∧
      ¬ LeavesAlone timedOut (fun _ => some oldScript)
        (postHandler reliable timedOut (fun _ => some oldScript)) := by
  refine ⟨timedOut_transferFails, ?_⟩
  intro h
  have hempty : (postHandler reliable timedOut (fun _ => some oldScript)).files
      (fsBase ++ timedOut.url) = some .empty := by
    have hopen : ¬ Refused reliable timedOut := by
      rintro (h | h) <;> exact absurd h (by decide)
    rw [(postHandler_of_not_refused hopen).1, Files.set_self]
    rfl
  rw [h.file, Option.some.injEq] at hempty
  exact absurd (congrArg FileContent.bytes hempty) (by decide)

end WebService
end Fluxnode
