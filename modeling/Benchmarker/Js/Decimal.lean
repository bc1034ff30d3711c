import Mathlib.Algebra.Order.Floor.Ring
import Mathlib.Data.Rat.Floor
import Mathlib.Order.WithBot
import Mathlib.Tactic.NormNum
import Benchmarker.Js.Number

/-!
# Decimal numerals

* `isDigits`, `isDecimal`, `Digits`, `isDecimal_iff`: the numerals without a sign, and their parts.
* `decimalRe`, `decimalValue`, `roundDouble`: a numeral in a text, the number that it denotes, and the double that is nearest to it.
* **`roundDouble_natCast`**: an integer below 2^53 is not rounded.
-/

namespace Js

section Numerals

variable {c sep : Char} {s t whole fraction : List Char}

/-- `/^\d+$/` -/
def isDigits (s : List Char) : Bool := s ≠ [] && s.all Char.isDigit

/-- `/^\d+(\.\d+)?$/` -/
def isDecimal (s : List Char) : Bool :=
  match s.splitOn '.' with
  | [whole] => isDigits whole
  | [whole, fraction] => isDigits whole && isDigits fraction
  | _ => false

/-- One digit or more. -/
structure Digits (s : List Char) : Prop where
  ne : s ≠ []
  all : ∀ c ∈ s, c.isDigit = true

theorem isDigits_iff : isDigits s = true ↔ Digits s := by
  rw [isDigits, Bool.and_eq_true, decide_eq_true_eq, List.all_eq_true]
  exact ⟨fun h => ⟨h.1, h.2⟩, fun h => ⟨h.ne, h.all⟩⟩

theorem Digits.not_mem (h : Digits s) (hc : c.isDigit = false) : c ∉ s :=
  fun hmem => absurd (h.all c hmem) (Bool.eq_false_iff.mp hc)

theorem splitOn_pair (h : sep ∉ s) (h' : sep ∉ t) : (s ++ sep :: t).splitOn sep = [s, t] := by
  rw [List.splitOn_append_cons_self_of_not_mem h, List.splitOn_eq_singleton h']

theorem eq_of_splitOn_pair (h : s.splitOn sep = [whole, fraction]) : s = whole ++ sep :: fraction := by
  have hjoin : [sep].intercalate (s.splitOn sep) = s := List.intercalate_splitOn sep
  rw [← hjoin, h, List.intercalate_cons_cons, List.intercalate_singleton,
    List.append_assoc]
  rfl

theorem isDecimal_iff : isDecimal s = true ↔
    Digits s ∨ ∃ whole fraction, s = whole ++ '.' :: fraction ∧ Digits whole ∧ Digits fraction := by
  constructor
  · intro h
    unfold isDecimal at h
    split at h
    · next whole hsplit =>
      left
      have hjoin : ['.'].intercalate (s.splitOn '.') = s := List.intercalate_splitOn '.'
      rw [← hjoin, hsplit, List.intercalate_singleton]
      exact isDigits_iff.mp h
    · next whole fraction hsplit =>
      rw [Bool.and_eq_true, isDigits_iff, isDigits_iff] at h
      exact .inr ⟨whole, fraction, eq_of_splitOn_pair hsplit, h⟩
    · cases h
  · rintro (h | ⟨whole, fraction, rfl, h, h'⟩)
    · rw [isDecimal, List.splitOn_eq_singleton (h.not_mem (by decide))]
      exact isDigits_iff.mpr h
    · rw [isDecimal, splitOn_pair (h.not_mem (by decide)) (h'.not_mem (by decide))]
      dsimp only
      rw [isDigits_iff.mpr h, isDigits_iff.mpr h']
      rfl

end Numerals

/-- `\d+(?:\.\d+)?` -/
def decimalRe : Re := .seqs [.plus .digit, .opt (.seqs [.chr fun c => c = '.', .plus .digit])]

/-- The number that `\d+(\.\d*)?` denotes. -/
def decimalValue (s : List Char) : ℚ :=
  let fraction := ((s.dropWhile Char.isDigit).drop 1).takeWhile Char.isDigit
  digitsValue (s.takeWhile Char.isDigit) + digitsValue fraction / 10 ^ fraction.length

/-- The integer nearest to a number, the even one of two. -/
def roundHalfEven (n : ℚ) : ℤ :=
  if n - ⌊n⌋ < 1 / 2 then ⌊n⌋
  else if 1 / 2 < n - ⌊n⌋ then ⌊n⌋ + 1
  else if ⌊n⌋ % 2 = 0 then ⌊n⌋ else ⌊n⌋ + 1

/-- The exponent of the last of 53 binary places, not below that of the least double. -/
def ulpExponent (n : ℚ) : ℤ := max ((Nat.log2 ⌊n * 2 ^ 1100⌋.toNat : ℤ) - 1100 - 52) (-1074)

/-- The double nearest to a number that is not negative; `⊤` is `Infinity`. -/
def roundDouble (n : ℚ) : WithTop ℚ :=
  let rounded := roundHalfEven (n / 2 ^ ulpExponent n) * (2 : ℚ) ^ ulpExponent n
  if 2 ^ 1024 ≤ rounded then ⊤ else (rounded : ℚ)

theorem roundHalfEven_intCast (n : ℤ) : roundHalfEven n = n := by
  have hzero : (n : ℚ) - ⌊(n : ℚ)⌋ < 1 / 2 := by
    rw [Int.floor_intCast, sub_self]
    norm_num
  rw [roundHalfEven, if_pos hzero, Int.floor_intCast]

theorem log2_mul_two_pow_le {n : ℕ} (h : n < 2 ^ 53) (k : ℕ) : Nat.log2 (n * 2 ^ k) ≤ k + 52 := by
  by_cases hn : n = 0
  · rw [hn, Nat.zero_mul]
    exact Nat.zero_le _
  · have hpow : 0 < 2 ^ k := Nat.two_pow_pos k
    refine Nat.le_of_lt_succ ((Nat.log2_lt (Nat.mul_ne_zero hn hpow.ne')).mpr ?_)
    calc
      n * 2 ^ k < 2 ^ 53 * 2 ^ k := Nat.mul_lt_mul_of_pos_right h hpow
      _ = 2 ^ (k + 52 + 1) := by rw [← Nat.pow_add, Nat.add_comm]

/-- The last place of an integer that a double holds is no larger than one. -/
theorem ulpExponent_natCast {n : ℕ} (h : n < 2 ^ 53) : ulpExponent n ≤ 0 := by
  have hlog := log2_mul_two_pow_le h 1100
  have hcast : ∀ k : ℕ, ⌊(n : ℚ) * 2 ^ k⌋.toNat = n * 2 ^ k := by
    intro k
    have hnat : (n : ℚ) * 2 ^ k = ((n * 2 ^ k : ℕ) : ℚ) := by
      push_cast
      rfl
    rw [hnat, Int.floor_natCast, Int.toNat_natCast]
  rw [ulpExponent, hcast]
  omega

/-- **An integer below 2^53 is a double.** -/
theorem roundDouble_natCast {n : ℕ} (h : n < 2 ^ 53) : roundDouble n = ((n : ℚ) : WithTop ℚ) := by
  obtain ⟨j, hj⟩ := Int.eq_ofNat_of_zero_le (Int.neg_nonneg_of_nonpos (ulpExponent_natCast h))
  have hexp : ulpExponent (n : ℚ) = -(j : ℤ) := by omega
  have hdiv : (n : ℚ) / 2 ^ ulpExponent (n : ℚ) = ((n * 2 ^ j : ℤ) : ℚ) := by
    rw [hexp, zpow_neg, zpow_natCast, div_inv_eq_mul]
    push_cast
    rfl
  have hrounded : (roundHalfEven ((n : ℚ) / 2 ^ ulpExponent (n : ℚ)) : ℚ) * 2 ^ ulpExponent (n : ℚ) = n := by
    rw [hdiv, roundHalfEven_intCast, hexp, zpow_neg, zpow_natCast]
    push_cast
    rw [mul_assoc, mul_inv_cancel₀ (pow_ne_zero j two_ne_zero), mul_one]
  have hlt : ¬(2 : ℚ) ^ 1024 ≤ n := by
    rw [not_le]
    calc
      (n : ℚ) < ((2 ^ 53 : ℕ) : ℚ) := Nat.cast_lt.mpr h
      _ = 2 ^ 53 := by push_cast; rfl
      _ ≤ 2 ^ 1024 := pow_le_pow_right₀ one_le_two (by decide)
  rw [roundDouble, hrounded, if_neg hlt]

example : roundDouble (decimalValue "9007199254740993".toList) = ((9007199254740992 : ℚ) : WithTop ℚ) := by
  decide +kernel

end Js
