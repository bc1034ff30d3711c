import Mathlib.Algebra.Group.Nat.Defs
import Mathlib.Data.Rat.Defs
import Mathlib.Order.Defs.LinearOrder

/-!
# Values of a database

The values that a column holds, and how they compare: `NULL`, then the numbers, then the texts by code point.

* `Number`, `Value`, `Value.le`; `Cmp`, `Cmp.holds`: a comparison that is true. `Cmp.holds_text`, `Cmp.holds_num`.
* `Direction`, `Direction.ordered`: the order of two values in an `ORDER BY` term.
-/

namespace Sql

/-- A number that can be stored. -/
inductive Number
  | negInf
  | fin (q : ℚ)
  | inf
  deriving DecidableEq

def Number.le : Number → Number → Bool
  | negInf, _ => true
  | _, negInf => false
  | _, inf => true
  | inf, _ => false
  | fin q, fin r => q ≤ r

theorem Number.le_total (a b : Number) : a.le b = true ∨ b.le a = true := by
  cases a <;> cases b <;> simp [le, Rat.le_total]

theorem Number.le_trans {a b c : Number} (hab : a.le b = true) (hbc : b.le c = true) : a.le c = true := by
  cases a <;> cases b <;> cases c <;> simp_all [le]
  exact Rat.le_trans hab hbc

inductive Value
  | null
  | num (n : Number)
  | text (s : String)
  deriving DecidableEq

namespace Value

/-- The order of `ORDER BY`. -/
def le : Value → Value → Bool
  | null, _ => true
  | _, null => false
  | num a, num b => a.le b
  | num _, text _ => true
  | text _, num _ => false
  | text s, text t => s ≤ t

def ofNat (n : ℕ) : Value := num (.fin n)

/-- The integer that `LIMIT` and `OFFSET` take a value for, within 64 bits. -/
def asInt : Value → Option ℤ
  | num (.fin q) => if q.den = 1 ∧ q.num.natAbs < 2 ^ 63 then some q.num else none
  | _ => none

theorem asInt_ofNat (n : ℕ) : (ofNat n).asInt = if n < 2 ^ 63 then some (n : ℤ) else none := by
  show (if (n : ℚ).den = 1 ∧ (n : ℚ).num.natAbs < 2 ^ 63 then some (n : ℚ).num else none) = _
  rw [Rat.num_natCast, Rat.den_natCast, Int.natAbs_natCast]
  exact if_congr (and_iff_right rfl) rfl rfl

end Value

/-- A comparison operator. -/
inductive Cmp
  | eq | ge | le | gt | lt
  deriving DecidableEq

/-- The comparison is true: neither false nor `NULL`. -/
def Cmp.holds (op : Cmp) (a b : Value) : Bool :=
  a ≠ .null && b ≠ .null && match op with
    | eq => a = b
    | ge => b.le a
    | le => a.le b
    | gt => !a.le b
    | lt => !b.le a

@[simp] theorem Cmp.holds_text (op : Cmp) (s t : String) : op.holds (.text s) (.text t) = match op with
    | eq => decide (s = t)
    | ge => decide (t ≤ s)
    | le => decide (s ≤ t)
    | gt => !decide (s ≤ t)
    | lt => !decide (t ≤ s) := by
  cases op <;> simp [holds, Value.le]

@[simp] theorem Cmp.eq_holds (a b : Value) : Cmp.eq.holds a b = decide (a ≠ .null ∧ a = b) := by
  by_cases h : a = b
  · subst h
    simp [holds]
  · simp [holds, h]

inductive Direction
  | asc | desc
  deriving DecidableEq

/-- The first value may stand before the second. -/
def Direction.ordered : Direction → Value → Value → Bool
  | asc, a, b => a.le b
  | desc, a, b => b.le a

end Sql
