import Mathlib.Data.List.Basic
import Mathlib.Logic.Function.Basic
import Mathlib.Tactic.Common

/-!
# C files

A flat file system of a fixed size, seen through `stdio`.  A name is the bytes of
a C string.  Calls of the library can fail, or store and bring less than they are
asked for: how they come out is given beside the call.
-/

namespace Fluxnode
namespace C

def ascii (s : String) : List UInt8 :=
  s.toList.map (fun c => UInt8.ofNat c.toNat)

/-- A C string: its bytes in front of the terminator. -/
structure CString where
  bytes : List UInt8
  nonzero : (0 : UInt8) ∉ bytes
  deriving DecidableEq, Repr

theorem nonzero_nil : (0 : UInt8) ∉ ([] : List UInt8) :=
  List.not_mem_nil

/-- What a file holds, within the size of the file system. -/
structure FileContent (capacity : Nat) where
  bytes : List UInt8
  length_le : bytes.length ≤ capacity
  deriving DecidableEq, Repr

abbrev Files (capacity : Nat) := List UInt8 -> Option (FileContent capacity)

/-- How the calls come out that one function makes. -/
structure Outcomes where
  opens : Bool
  unlinks : Bool
  allocates : Bool
  /-- The bytes that the `k`-th `fwrite` stores, at most. -/
  stores : Nat -> Nat
  /-- The bytes that the `k`-th `fread` brings, at most. -/
  brings : Nat -> Nat

def Outcomes.Reliable (o : Outcomes) (n : Nat) : Prop :=
  o.opens = true ∧ o.unlinks = true ∧ o.allocates = true ∧
    (forall k, n ≤ o.stores k) ∧ forall k, n ≤ o.brings k

variable {capacity : Nat}

def FileContent.empty : FileContent capacity where
  bytes := []
  length_le := Nat.zero_le capacity

/-- The bytes of `data` that one `fwrite` stores. -/
def storedPart (file : FileContent capacity) (data : List UInt8) (most : Nat) :
    List UInt8 :=
  data.take (min most (capacity - file.bytes.length))

/-- `fwrite` at the end of the file. -/
def fwrite (file : FileContent capacity) (data : List UInt8) (most : Nat) :
    FileContent capacity where
  bytes := file.bytes ++ storedPart file data most
  length_le := by
    have hle := file.length_le
    rw [List.length_append, storedPart, List.length_take]
    lia

def fread (file : FileContent capacity) (pos n most : Nat) : List UInt8 :=
  (file.bytes.drop pos).take (min n most)

/-- `fopen(name, "r")` -/
def fopenRead (o : Outcomes) (files : Files capacity) (name : List UInt8) :
    Option (FileContent capacity) :=
  if o.opens then files name else none

def Files.set (files : Files capacity) (name : List UInt8)
    (file : Option (FileContent capacity)) : Files capacity :=
  Function.update files name file

@[simp] theorem Files.set_self (files : Files capacity) (name : List UInt8)
    (file : Option (FileContent capacity)) :
    files.set name file name = file := by
  rw [Files.set, Function.update_self]

theorem Files.set_other {files : Files capacity} {name other : List UInt8}
    {file : Option (FileContent capacity)} (h : other ≠ name) :
    files.set name file other = files other := by
  rw [Files.set, Function.update_of_ne h]

theorem fopenRead_of_opens {o : Outcomes} (h : o.opens = true)
    (files : Files capacity) (name : List UInt8) :
    fopenRead o files name = files name := by
  rw [fopenRead, if_pos h]

theorem fread_whole {file : FileContent capacity} {most : Nat}
    (h : file.bytes.length ≤ most) :
    fread file 0 file.bytes.length most = file.bytes := by
  rw [fread, Nat.min_eq_left h, List.drop_zero, List.take_length]

theorem fwrite_whole {file : FileContent capacity} {data : List UInt8}
    {most : Nat} (h : storedPart file data most = data) :
    (fwrite file data most).bytes = file.bytes ++ data := by
  simp only [fwrite, h]

end C
end Fluxnode
