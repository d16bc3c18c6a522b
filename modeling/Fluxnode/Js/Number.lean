import Mathlib.Data.Rat.Floor
import Mathlib.Tactic.Common

/-!
# Numbers

The numbers of JavaScript, which are the doubles of C: a finite one is a
rational number, and comparisons with a number that is not one are false.
-/

namespace Fluxnode
namespace Js

inductive Number where
  | nan
  | infinity (negative : Bool)
  | finite (q : ℚ)
  deriving DecidableEq, Repr

def Number.less : Number -> Number -> Bool
  | .nan, _ => false
  | _, .nan => false
  | .infinity a, .infinity b => a && !b
  | .infinity a, .finite _ => a
  | .finite _, .infinity b => !b
  | .finite p, .finite q => p < q

/-- The whole number next to it in the direction of zero. -/
def truncate (q : ℚ) : Int :=
  if q < 0 then q.ceil else q.floor

def requireInt : Number -> Int32
  | .nan => 0
  | .infinity true => -0x80000000
  | .infinity false => 0x7fffffff
  | .finite q =>
      if q < -0x80000000 then
        -0x80000000
      else if q > 0x7fffffff then
        0x7fffffff
      else
        Int32.ofInt (truncate q)

def requireUint : Number -> UInt32
  | .nan => 0
  | .infinity true => 0
  | .infinity false => 0xffffffff
  | .finite q =>
      if q < 0 then
        0
      else if q > 0xffffffff then
        0xffffffff
      else
        UInt32.ofInt (truncate q)

end Js
end Fluxnode
