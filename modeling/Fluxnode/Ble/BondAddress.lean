import Fluxnode.C.Hex
import Fluxnode.C.Text
import Fluxnode.Connectivity.Model

/-!
# The addresses of bonded devices

`bleBondGetDevices` prints the address of every bonded device, and
`bleBondRemove` takes such a text apart again: it cuts its copy of the text
behind every two digits and lets `strtol` read what lies between the cuts.
-/

namespace Fluxnode
namespace Ble

open C (Block)
open Connectivity (ConnectivityT)

structure BdAddr where
  bytes : List UInt8
  length_eq : bytes.length = 6
  deriving DecidableEq, Repr

def colon : UInt8 := 0x3a

/-- `"%.2x"` for every byte, with `":"` between them. -/
def joinedHex : List UInt8 -> List UInt8
  | [] => []
  | [b] => C.formatHex 2 b.toNat
  | b :: rest => C.formatHex 2 b.toNat ++ colon :: joinedHex rest

def bleGetBonded (devList : List BdAddr) : Option (List (List UInt8)) :=
  devList.mapM (fun dev =>
    (C.sprintf (C.malloc 24) (joinedHex dev.bytes)).bind C.cString)

def removeBondLoop (i p : Nat) (bda : List UInt8) (bd : Block) :
    Option Block :=
  if i < 18 then
    match C.store bda i 0 with
    | none => none
    | some bda =>
        match C.stringAt bda (i - 2) with
        | none => none
        | some digits =>
            match C.store bd p (some (UInt8.ofInt (C.strtol16 digits))) with
            | none => none
            | some bd => removeBondLoop (i + 3) (p + 1) bda bd
  else
    some bd
termination_by 18 - i

/--
`ble_remove_bond`: the boolean for the script, and the address that
`ble_support_remove_bonded_device` is called with.
-/
def bleRemoveBond (allocates : Bool) (connectivity : ConnectivityT)
    (bdaOut : List UInt8) : Option (Bool × Option Block) :=
  if connectivity = Connectivity.ble then
    -- `strlen` of a copy that could not be allocated
    if allocates = false then
      none
    else
      let bda := C.strdup bdaOut
      match C.strlen bda with
      | none => none
      | some len =>
          if len ≠ 17 then
            some (false, none)
          else
            match removeBondLoop 2 0 bda (C.malloc 6) with
            | none => none
            | some bd => some (true, some bd)
  else
    some (false, none)

/-!
## The loop
-/

/-- Two characters of the text with the one behind them, which is cut off. -/
structure Piece where
  digits : List UInt8
  separator : UInt8
  length_eq : digits.length = 2
  nonzero : 0 ∉ digits

def Piece.text (c : Piece) : List UInt8 :=
  c.digits ++ [c.separator]

def Piece.value (c : Piece) : UInt8 :=
  UInt8.ofInt (C.strtol16 c.digits)

theorem Piece.text_length (c : Piece) : c.text.length = 3 := by
  rw [Piece.text, List.length_append, c.length_eq]
  rfl

theorem removeBondLoop_step (c : Piece) {front rest : List UInt8}
    {done left : Block} (hfront : front.length < 16) :
    removeBondLoop (front.length + 2) done.length (front ++ (c.text ++ rest))
        (done ++ none :: left) =
      removeBondLoop (front.length + 5) (done.length + 1)
        (front ++ (c.digits ++ 0 :: rest)) (done ++ some c.value :: left) := by
  have hcut : C.store (front ++ (c.text ++ rest)) (front.length + 2) 0 =
      some (front ++ (c.digits ++ 0 :: rest)) := by
    have h := C.store_of_split (front ++ c.digits) rest c.separator 0
    rw [List.length_append, c.length_eq] at h
    simpa [Piece.text] using h
  rw [removeBondLoop, if_pos (by lia), hcut]
  simp only [Nat.add_sub_cancel, C.stringAt_of_split c.nonzero,
    C.store_of_split]
  rfl

/-- The loop reads all pieces, and no access is outside of the buffers. -/
theorem removeBondLoop_pieces {pieces : List Piece} {front : List UInt8}
    {done : Block} (h : front.length + 3 * pieces.length = 18) :
    removeBondLoop (front.length + 2) done.length
        (front ++ pieces.flatMap Piece.text)
        (done ++ List.replicate pieces.length none) =
      some (done ++ pieces.map (fun c => some c.value)) := by
  induction pieces generalizing front done with
  | nil =>
      rw [List.length_nil] at h
      rw [removeBondLoop, if_neg (by lia)]
      rfl
  | cons c rest ih =>
      rw [List.length_cons] at h
      have hlength : (front ++ (c.digits ++ [0])).length = front.length + 3 := by
        rw [List.length_append, List.length_append, c.length_eq]
        rfl
      have hrest := @ih (front ++ (c.digits ++ [0])) (done ++ [some c.value])
        (by lia)
      rw [hlength, List.length_append, List.length_singleton] at hrest
      rw [List.flatMap_cons, List.length_cons, List.replicate_succ,
        removeBondLoop_step c (by lia)]
      simpa using hrest

/-!
## The printed address
-/

theorem formatHex_byte_length (b : UInt8) :
    (C.formatHex 2 b.toNat).length = 2 :=
  C.formatHex_length (UInt8.toNat_lt b)

def pieceOf (b separator : UInt8) : Piece where
  digits := C.formatHex 2 b.toNat
  separator := separator
  length_eq := formatHex_byte_length b
  nonzero := C.zero_not_mem_formatHex 2 b.toNat

/-- The printed address as pieces, the last one with the terminator. -/
def piecesOf : List UInt8 -> List Piece
  | [] => []
  | [b] => [pieceOf b 0]
  | b :: rest => pieceOf b colon :: piecesOf rest

theorem pieceOf_value (b separator : UInt8) :
    (pieceOf b separator).value = b := by
  have hlt := UInt8.toNat_lt b
  have hread : C.strtol16 (C.formatHex 2 b.toNat) = b.toNat :=
    C.strtol16_formatHex (by lia)
  have hmod : ((b.toNat : Int) % 2 ^ 8).toNat = b.toNat := by
    lia
  rw [Piece.value, pieceOf, hread, UInt8.ofInt, hmod, UInt8.ofNat_toNat]

theorem piecesOf_length (bytes : List UInt8) :
    (piecesOf bytes).length = bytes.length := by
  fun_induction piecesOf bytes with
  | case1 => rfl
  | case2 b => rfl
  | case3 b rest hrest ih => rw [List.length_cons, ih, List.length_cons]

theorem piecesOf_values (bytes : List UInt8) :
    (piecesOf bytes).map (fun c => some c.value) = bytes.map some := by
  fun_induction piecesOf bytes with
  | case1 => rfl
  | case2 b => simp [pieceOf_value]
  | case3 b rest hrest ih =>
      rw [List.map_cons, List.map_cons, ih, pieceOf_value]

theorem joinedHex_terminated {bytes : List UInt8} (h : bytes ≠ []) :
    joinedHex bytes ++ [0] = (piecesOf bytes).flatMap Piece.text := by
  fun_induction piecesOf bytes with
  | case1 => exact absurd rfl h
  | case2 b => simp [joinedHex, Piece.text, pieceOf]
  | case3 b rest hrest ih =>
      have hne : rest ≠ [] := fun heq => hrest heq
      rw [joinedHex, List.flatMap_cons, ← ih hne]
      · simp [Piece.text, pieceOf]
      · exact hrest

theorem zero_not_mem_joinedHex (bytes : List UInt8) : 0 ∉ joinedHex bytes := by
  fun_induction joinedHex bytes with
  | case1 => exact List.not_mem_nil
  | case2 b => exact C.zero_not_mem_formatHex 2 b.toNat
  | case3 b rest hrest ih =>
      intro hmem
      rcases List.mem_append.mp hmem with hmem | hmem
      · exact C.zero_not_mem_formatHex 2 b.toNat hmem
      · rcases List.mem_cons.mp hmem with hcolon | hmem
        · exact absurd hcolon (by decide)
        · exact ih hmem

/-!
## Printing and reading back
-/

theorem BdAddr.bytes_ne_nil (a : BdAddr) : a.bytes ≠ [] := by
  intro hnil
  have hlength := a.length_eq
  rw [hnil] at hlength
  cases hlength

theorem joinedHex_length (a : BdAddr) : (joinedHex a.bytes).length = 17 := by
  have hlength : forall pieces : List Piece,
      (pieces.flatMap Piece.text).length = 3 * pieces.length := by
    intro pieces
    induction pieces with
    | nil => rfl
    | cons c rest ih =>
        rw [List.flatMap_cons, List.length_append, ih, c.text_length,
          List.length_cons]
        lia
  have hall := hlength (piecesOf a.bytes)
  rw [← joinedHex_terminated a.bytes_ne_nil, piecesOf_length, a.length_eq,
    List.length_append] at hall
  simpa using hall

theorem removeBondLoop_printed (a : BdAddr) :
    removeBondLoop 2 0 (joinedHex a.bytes ++ [0]) (C.malloc 6) =
      some (a.bytes.map some) := by
  have hlength : (piecesOf a.bytes).length = 6 := by
    rw [piecesOf_length, a.length_eq]
  have hread := @removeBondLoop_pieces (piecesOf a.bytes) [] [] (by
    rw [hlength]
    rfl)
  rw [hlength, piecesOf_values, ← joinedHex_terminated a.bytes_ne_nil] at hread
  exact hread

theorem bleRemoveBond_printed (a : BdAddr) :
    bleRemoveBond true Connectivity.ble (joinedHex a.bytes) =
      some (true, some (a.bytes.map some)) := by
  have hnonzero := zero_not_mem_joinedHex a.bytes
  have hlen : C.strlen (joinedHex a.bytes ++ [0]) = some 17 := by
    rw [C.strlen_terminated hnonzero, joinedHex_length]
  rw [bleRemoveBond, if_pos rfl, if_neg (by decide),
    C.strdup_of_nonzero hnonzero]
  simp only [hlen, removeBondLoop_printed]
  rfl

theorem bleGetBonded_eq (devList : List BdAddr) :
    bleGetBonded devList =
      some (devList.map (fun dev => joinedHex dev.bytes)) := by
  have hprint : forall dev : BdAddr,
      (C.sprintf (C.malloc 24) (joinedHex dev.bytes)).bind C.cString =
        some (joinedHex dev.bytes) := by
    intro dev
    apply C.cString_sprintf (zero_not_mem_joinedHex dev.bytes)
    rw [joinedHex_length]
    decide
  induction devList with
  | nil => rfl
  | cons dev rest ih =>
      rw [bleGetBonded] at ih
      rw [bleGetBonded, List.mapM_cons, hprint, ih]
      rfl

/--
Every address of the list names its own device: the loop stays inside of the
text with its terminator and of the six bytes, and gives exactly the address.
-/
theorem listed_address_removes_device (devList : List BdAddr) :
    exists texts, bleGetBonded devList = some texts ∧
      List.Forall₂ (fun dev text =>
        text.length = 17 ∧
          removeBondLoop 2 0 (text ++ [0]) (C.malloc 6) =
            some (dev.bytes.map some) ∧
          bleRemoveBond true Connectivity.ble text =
            some (true, some (dev.bytes.map some))) devList texts := by
  refine ⟨_, bleGetBonded_eq devList, ?_⟩
  rw [List.forall₂_map_right_iff, List.forall₂_same]
  intro dev _
  exact ⟨joinedHex_length dev, removeBondLoop_printed dev,
    bleRemoveBond_printed dev⟩

end Ble
end Fluxnode
