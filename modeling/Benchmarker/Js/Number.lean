import Mathlib.Algebra.Group.Nat.Defs
import Mathlib.Data.Int.Notation
import Mathlib.Data.Nat.Notation
import Benchmarker.Js.Regex

/-!
# Integers in texts

Integers that are read from a text, without the rounding of large ones. `numberOverflow` is the least
integer that is rounded to `Infinity`.

* `digitsValue`, `numberOverflow`, `finiteInt`.
-/

namespace Js

/-- The number that a list of digits denotes. -/
def digitsValue (cs : List Char) : ℕ := cs.foldl (fun n c => 10 * n + (c.toNat - '0'.toNat)) 0

/-- The least integer that is rounded to `Infinity`. -/
def numberOverflow : ℕ := 2 ^ 1024 - 2 ^ 970

/-- The sign of a numeral, and what follows it. -/
def splitSign : List Char → Bool × List Char
  | '-' :: cs => (true, cs)
  | '+' :: cs => (false, cs)
  | cs => (false, cs)

/-- `Number.parseInt(text, 10)`, where it is finite. -/
def finiteInt (text : String) : Option ℤ :=
  let (negative, cs) := splitSign (text.toList.dropWhile isSpace)
  let digits := cs.takeWhile Char.isDigit
  if digits = [] ∨ numberOverflow ≤ digitsValue digits then none
  else some (if negative then -(digitsValue digits : ℤ) else digitsValue digits)

end Js
