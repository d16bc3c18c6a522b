import Fluxnode.C.Memory
import Mathlib.Data.Nat.Digits.Lemmas

/-!
# Numbers in base 16

`%x` of `printf` with a precision, and `strtol` in base 16.  What is printed is
read back, whatever the precision, as long as a `long` can hold it.
-/

namespace Fluxnode
namespace C

def digitChar (d : Nat) : UInt8 :=
  if d < 10 then UInt8.ofNat (0x30 + d) else UInt8.ofNat (0x57 + d)

/-- The digits that are printed, the most significant one first. -/
def printedDigits (precision n : Nat) : List Nat :=
  let digits := (Nat.digits 16 n).reverse
  List.replicate (precision - digits.length) 0 ++ digits

/-- `%.<precision>x` -/
def formatHex (precision n : Nat) : List UInt8 :=
  (printedDigits precision n).map digitChar

def isSpace (c : UInt8) : Bool :=
  c = 0x20 || (0x09 ≤ c && c ≤ 0x0d)

def digitValue (c : UInt8) : Option Nat :=
  if 0x30 ≤ c ∧ c ≤ 0x39 then
    some (c.toNat - 0x30)
  else if 0x41 ≤ c ∧ c ≤ 0x5a then
    some (c.toNat - 0x37)
  else if 0x61 ≤ c ∧ c ≤ 0x7a then
    some (c.toNat - 0x57)
  else
    none

/-- Whether there is a minus sign, and what is behind the sign. -/
def takeSign : List UInt8 -> Bool × List UInt8
  | [] => (false, [])
  | c :: rest =>
      if c = 0x2d then (true, rest)
      else if c = 0x2b then (false, rest)
      else (false, c :: rest)

/-- What is behind `0x`.  Without a digit behind it the number is 0 anyway. -/
def skip0x : List UInt8 -> List UInt8
  | c :: x :: rest =>
      if c = 0x30 ∧ (x = 0x78 ∨ x = 0x58) then rest else c :: x :: rest
  | s => s

def readDigits (base : Nat) : Nat -> List UInt8 -> Nat
  | acc, [] => acc
  | acc, c :: rest =>
      match digitValue c with
      | none => acc
      | some d => if d < base then readDigits base (acc * base + d) rest else acc

/-- `strtol(s, NULL, 16)`, into a `long` of 32 bits. -/
def strtol16 (s : List UInt8) : Int :=
  let (negative, s) := takeSign (s.dropWhile isSpace)
  let n : Int := readDigits 16 0 (skip0x s)
  max (-2 ^ 31) (min (if negative then -n else n) (2 ^ 31 - 1))

/-!
## Digits
-/

theorem digitValue_digitChar {d : Nat} (h : d < 36) :
    digitValue (digitChar d) = some d := by
  have hall : forall d : Fin 36, digitValue (digitChar d) = some d.val := by
    decide
  exact hall ⟨d, h⟩

theorem digitChar_plain {d : Nat} (h : d < 16) :
    isSpace (digitChar d) = false ∧ digitChar d ∉
      ([0x2d, 0x2b, 0x78, 0x58, 0] : List UInt8) := by
  have hall : forall d : Fin 16, isSpace (digitChar d) = false ∧
      digitChar d ∉ ([0x2d, 0x2b, 0x78, 0x58, 0] : List UInt8) := by
    decide
  exact hall ⟨d, h⟩

theorem printedDigits_lt {precision n d : Nat}
    (h : d ∈ printedDigits precision n) : d < 16 := by
  rcases List.mem_append.mp h with hzero | hdigit
  · rw [List.eq_of_mem_replicate hzero]
    decide
  · exact Nat.digits_lt_base (by decide) (List.mem_reverse.mp hdigit)

theorem zero_not_mem_formatHex (precision n : Nat) :
    0 ∉ formatHex precision n := by
  intro hmem
  rcases List.mem_map.mp hmem with ⟨d, hd, hzero⟩
  apply (digitChar_plain (printedDigits_lt hd)).2
  rw [hzero]
  decide

theorem formatHex_length {precision n : Nat} (h : n < 16 ^ precision) :
    (formatHex precision n).length = precision := by
  have hdigits : (Nat.digits 16 n).length ≤ precision :=
    (Nat.digits_length_le_iff (by decide) n).mpr h
  rw [formatHex, List.length_map, printedDigits, List.length_append,
    List.length_replicate, List.length_reverse]
  lia

/-!
## Reading back
-/

def numberOf (digits : List Nat) : Nat :=
  digits.foldl (fun acc d => acc * 16 + d) 0

theorem readDigits_map {digits : List Nat} (h : forall d, d ∈ digits -> d < 16)
    (acc : Nat) :
    readDigits 16 acc (digits.map digitChar) =
      digits.foldl (fun acc d => acc * 16 + d) acc := by
  induction digits generalizing acc with
  | nil => rfl
  | cons d rest ih =>
      have hd := h d (.head rest)
      rw [List.map_cons, readDigits, digitValue_digitChar (by lia)]
      simp only [if_pos hd]
      exact ih (fun e he => h e (.tail d he)) _

theorem dropWhile_digits {digits : List Nat}
    (h : forall d, d ∈ digits -> d < 16) :
    (digits.map digitChar).dropWhile isSpace = digits.map digitChar := by
  cases digits with
  | nil => rfl
  | cons d rest =>
      have hd := digitChar_plain (h d (.head rest))
      rw [List.map_cons, List.dropWhile_cons_of_neg (by simp [hd.1])]

theorem takeSign_digits {digits : List Nat}
    (h : forall d, d ∈ digits -> d < 16) :
    takeSign (digits.map digitChar) = (false, digits.map digitChar) := by
  cases digits with
  | nil => rfl
  | cons d rest =>
      have hd := (digitChar_plain (h d (.head rest))).2
      simp only [List.mem_cons, not_or] at hd
      rw [List.map_cons, takeSign, if_neg hd.1, if_neg hd.2.1]

theorem skip0x_digits {digits : List Nat}
    (h : forall d, d ∈ digits -> d < 16) :
    skip0x (digits.map digitChar) = digits.map digitChar := by
  cases digits with
  | nil => rfl
  | cons d rest =>
      cases rest with
      | nil => rfl
      | cons e rest =>
          have he := (digitChar_plain (h e (.tail d (.head rest)))).2
          simp only [List.mem_cons, not_or] at he
          rw [List.map_cons, List.map_cons, skip0x, if_neg]
          intro hx
          exact hx.2.elim he.2.2.1 he.2.2.2.1

theorem strtol16_digits {digits : List Nat}
    (h : forall d, d ∈ digits -> d < 16) (hlt : numberOf digits < 2 ^ 31) :
    strtol16 (digits.map digitChar) = numberOf digits := by
  rw [strtol16, dropWhile_digits h, takeSign_digits h]
  simp only [skip0x_digits h, readDigits_map h]
  change max (-2 ^ 31) (min (numberOf digits : Int) (2 ^ 31 - 1)) = _
  lia

theorem numberOf_printedDigits (precision n : Nat) :
    numberOf (printedDigits precision n) = n := by
  have hzeros : forall k, numberOf (List.replicate k 0) = 0 := by
    intro k
    induction k with
    | zero => rfl
    | succ k ih => exact ih
  have hdigits := Nat.ofDigits_digits 16 n
  rw [Nat.ofDigits_eq_foldr] at hdigits
  rw [numberOf, printedDigits, List.foldl_append, ← numberOf, hzeros,
    List.foldl_reverse]
  simpa [Nat.add_comm, Nat.mul_comm] using hdigits

theorem strtol16_formatHex {precision n : Nat} (h : n < 2 ^ 31) :
    strtol16 (formatHex precision n) = n := by
  have hnumber := numberOf_printedDigits precision n
  rw [formatHex, strtol16_digits (fun _ => printedDigits_lt) (by lia), hnumber]

end C
end Fluxnode
