import Mathlib.Data.List.Basic
import Mathlib.Tactic.Common

/-!
# The value stack of Duktape

The part of the Duktape API that `duk_main.c` and `duk_util.c` use, with the
stack effects of its documentation.  A stack is a list with its top first.  An
index counts from the bottom, or from the top when it is negative.  A use with
an index or a value that is not there has no result.

What the application computes is not modelled: its values are of an arbitrary
type, and a call ends with the outcome it is given.  A push always finds room
here; where the room matters, `apiEntryStack` is compared with the height.
-/

namespace Fluxnode
namespace Duktape

universe u

inductive Value (α : Type u) where
  | number (n : Int)
  | buffer (bytes : List UInt8)
  | object (props : List (String × Value α))
  | globalObject
  /-- A value of the application. -/
  | script (a : α)
  deriving Repr

inductive Outcome (α : Type u) where
  | returned (v : Value α)
  | threw (error : Value α)
  deriving Repr

/-- `DUK_API_ENTRY_STACK`: the slots that are reserved for the application.
With `DUK_USE_VALSTACK_UNSAFE` no push checks that there is one left. -/
def apiEntryStack : Nat := 64

/-- The value stack, its top first. -/
abbrev Stack (α : Type u) := List (Value α)

variable {α : Type u}

def distance (st : Stack α) (idx : Int) : Option Nat :=
  if idx < 0 then
    if -idx ≤ st.length then some (-idx - 1).toNat else none
  else
    if idx < st.length then some (st.length - 1 - idx.toNat) else none

def pushGlobalObject (st : Stack α) : Stack α :=
  .globalObject :: st

def pushObject (st : Stack α) : Stack α :=
  .object [] :: st

def pushNumber (st : Stack α) (n : Int) : Stack α :=
  .number n :: st

def pushFixedBuffer (st : Stack α) (size : Nat) : Stack α :=
  .buffer (List.replicate size 0) :: st

/-- `memcpy` to the memory of the buffer on the top. -/
def fillBuffer (st : Stack α) (bytes : List UInt8) : Option (Stack α) :=
  match st with
  | .buffer old :: rest =>
      if bytes.length ≤ old.length then
        some (.buffer (bytes ++ old.drop bytes.length) :: rest)
      else
        none
  | _ => none

/-- `duk_get_prop_string`, with the properties that objects have now. -/
def getPropString (prop : Value α -> String -> Value α) (st : Stack α)
    (idx : Int) (key : String) : Option (Stack α) :=
  match distance st idx with
  | none => none
  | some k =>
      match st[k]? with
      | none => none
      | some v => some (prop v key :: st)

def setProp (props : List (String × Value α)) (key : String) (v : Value α) :
    List (String × Value α) :=
  match props with
  | [] => [(key, v)]
  | (k, w) :: rest =>
      if k = key then (key, v) :: rest else (k, w) :: setProp rest key v

def putPropString (st : Stack α) (idx : Int) (key : String) :
    Option (Stack α) :=
  match st with
  | [] => none
  | v :: rest =>
      match distance st idx with
      | none => none
      | some 0 => none
      | some (k + 1) =>
          match rest[k]? with
          | some (.object props) =>
              some (rest.set k (.object (setProp props key v)))
          | _ => none

def insert (st : Stack α) (toIdx : Int) : Option (Stack α) :=
  match st with
  | [] => none
  | v :: rest =>
      match distance st toIdx with
      | none => none
      | some k => some (rest.take k ++ v :: rest.drop k)

def pop (st : Stack α) : Option (Stack α) :=
  match st with
  | [] => none
  | _ :: rest => some rest

/-- The return code and the value that a protected call pushes. -/
def Outcome.result : Outcome α -> Int × Value α
  | .returned v => (0, v)
  | .threw error => (1, error)

def pcall (outcome : Outcome α) (st : Stack α) (nargs : Nat) :
    Option (Int × Stack α) :=
  if nargs + 1 ≤ st.length then
    some (outcome.result.1, outcome.result.2 :: st.drop (nargs + 1))
  else
    none

def pevalString (outcome : Outcome α) (st : Stack α) : Int × Stack α :=
  (outcome.result.1, outcome.result.2 :: st)

/-!
## The uses with the indices that occur
-/

theorem distance_top (v : Value α) (st : Stack α) :
    distance (v :: st) (-1) = some 0 := by
  simp only [distance, List.length_cons]
  rw [if_pos (by lia), if_pos (by lia)]
  rfl

theorem distance_below_top (v w : Value α) (st : Stack α) :
    distance (v :: w :: st) (-2) = some 1 := by
  simp only [distance, List.length_cons]
  rw [if_pos (by lia), if_pos (by lia)]
  rfl

theorem getPropString_top (prop : Value α -> String -> Value α)
    (v : Value α) (st : Stack α) (key : String) :
    getPropString prop (v :: st) (-1) key = some (prop v key :: v :: st) := by
  simp [getPropString, distance_top]

theorem putPropString_below_top (v : Value α)
    (props : List (String × Value α)) (st : Stack α) (key : String) :
    putPropString (v :: .object props :: st) (-2) key =
      some (.object (setProp props key v) :: st) := by
  simp [putPropString, distance_below_top]

theorem insert_top (v : Value α) (st : Stack α) :
    insert (v :: st) (-1) = some (v :: st) := by
  simp [insert, distance_top]

theorem fillBuffer_pushFixedBuffer (st : Stack α) (bytes : List UInt8) :
    fillBuffer (pushFixedBuffer st bytes.length) bytes =
      some (.buffer bytes :: st) := by
  simp [fillBuffer, pushFixedBuffer]

theorem pcall_one (outcome : Outcome α) (arg func : Value α)
    (st : Stack α) :
    pcall outcome (arg :: func :: st) 1 =
      some (outcome.result.1, outcome.result.2 :: st) := by
  simp [pcall]

end Duktape
end Fluxnode
