import Mathlib.Data.List.Basic

/-!
# The text that `JSON.stringify` writes

* `Value`, `quote`, `stringify`;
* **`newline_not_mem_stringify`**: it is one line, and `stringify_ne_nil`: it is not empty.
-/

namespace Js

/-- A code point of a string: a surrogate that stands alone counts as one. -/
abbrev CodePoint : Type := Fin 0x110000

/-- The text that `String` prints for a finite number. -/
structure NumberText where
  text : List Char
  plain : ∀ c ∈ text, c ∈ "0123456789+-.e".toList
  ne_nil : text ≠ []

/-- A value that `JSON.stringify` writes: what it leaves out, such as the fields of an object that
are `undefined`, is not there. -/
inductive Value
  | null
  | bool (b : Bool)
  | number (n : NumberText)
  | string (s : List CodePoint)
  | array (elems : List Value)
  | object (fields : List (List CodePoint × Value))

namespace Value

def hexDigit (n : ℕ) : Char := Char.ofNat (if n < 10 then 0x30 + n else 0x57 + n)

/-- `\uXXXX` -/
def unicodeEscape (n : ℕ) : List Char :=
  ['\x5c', 'u', hexDigit (n / 4096 % 16), hexDigit (n / 256 % 16), hexDigit (n / 16 % 16),
    hexDigit (n % 16)]

/-- How one code point is written. -/
def quotePoint (c : CodePoint) : List Char :=
  if c.val = 0x08 then ['\x5c', 'b']
  else if c.val = 0x09 then ['\x5c', 't']
  else if c.val = 0x0A then ['\x5c', 'n']
  else if c.val = 0x0C then ['\x5c', 'f']
  else if c.val = 0x0D then ['\x5c', 'r']
  else if c.val = 0x22 then ['\x5c', '\x22']
  else if c.val = 0x5C then ['\x5c', '\x5c']
  else if c.val < 0x20 ∨ 0xD800 ≤ c.val ∧ c.val ≤ 0xDFFF then unicodeEscape c.val
  else [Char.ofNat c.val]

def quote (s : List CodePoint) : List Char := '\x22' :: s.flatMap quotePoint ++ ['\x22']

/-- `JSON.stringify(v)` -/
def stringify : Value → List Char
  | null => "null".toList
  | bool b => (if b then "true" else "false").toList
  | number n => n.text
  | string s => quote s
  | array elems => '[' :: stringifyElems elems ++ [']']
  | object fields => '\x7b' :: stringifyFields fields ++ ['\x7d']
where
  stringifyElems : List Value → List Char
    | [] => []
    | [v] => stringify v
    | v :: w :: vs => stringify v ++ ',' :: stringifyElems (w :: vs)
  stringifyFields : List (List CodePoint × Value) → List Char
    | [] => []
    | [(k, v)] => quote k ++ ':' :: stringify v
    | (k, v) :: f :: fs => quote k ++ ':' :: stringify v ++ ',' :: stringifyFields (f :: fs)

/-! ## One line -/

theorem toNat_ofNat_of_valid {n : ℕ} (h : n.isValidChar) : (Char.ofNat n).toNat = n := by
  rw [Char.ofNat, dif_pos h]
  rfl

theorem newline_ne_hexDigit (n : ℕ) (h : n < 16) : '\n' ≠ hexDigit n := by
  intro he
  have hnat := congrArg Char.toNat he
  have hvalid : (if n < 10 then 0x30 + n else 0x57 + n).isValidChar := by
    left
    split_ifs <;> omega
  rw [hexDigit, toNat_ofNat_of_valid hvalid] at hnat
  have hten : '\n'.toNat = 10 := rfl
  rw [hten] at hnat
  split_ifs at hnat <;> omega

theorem newline_not_mem_quotePoint (c : CodePoint) : '\n' ∉ quotePoint c := by
  unfold quotePoint
  split_ifs with h₁ h₂ h₃ h₄ h₅ h₆ h₇ h₈
  iterate 7 decide
  · simp only [unicodeEscape, List.mem_cons, List.not_mem_nil, or_false, not_or]
    have hdigit := fun n => newline_ne_hexDigit (n % 16) (Nat.mod_lt n (by decide))
    exact ⟨by decide, by decide, hdigit _, hdigit _, hdigit _, hdigit _⟩
  · intro hmem
    have hvalid : c.val.isValidChar := by
      have hc := c.isLt
      by_cases hlow : c.val < 0xD800
      · exact .inl hlow
      · exact .inr ⟨by omega, hc⟩
    have hnat := congrArg Char.toNat (List.mem_singleton.mp hmem)
    rw [toNat_ofNat_of_valid hvalid] at hnat
    have hten : '\n'.toNat = 10 := rfl
    omega

theorem newline_not_mem_quote (s : List CodePoint) : '\n' ∉ quote s := by
  simp only [quote, List.cons_append, List.mem_cons, List.mem_append, List.mem_flatMap,
    List.not_mem_nil, or_false, not_or, not_exists, not_and]
  exact ⟨by decide, fun c _ => newline_not_mem_quotePoint c, by decide⟩

mutual

/-- **What `JSON.stringify` writes is one line.** -/
theorem newline_not_mem_stringify (v : Value) : '\n' ∉ stringify v := by
  cases v with
  | null => decide
  | bool b => cases b <;> decide
  | number n =>
    intro hmem
    have hplain := n.plain _ hmem
    revert hplain
    decide
  | string s => exact newline_not_mem_quote s
  | array elems =>
    simp only [stringify, List.cons_append, List.mem_cons, List.mem_append, List.not_mem_nil,
      or_false, not_or]
    exact ⟨by decide, newline_not_mem_stringifyElems elems, by decide⟩
  | object fields =>
    simp only [stringify, List.cons_append, List.mem_cons, List.mem_append, List.not_mem_nil,
      or_false, not_or]
    exact ⟨by decide, newline_not_mem_stringifyFields fields, by decide⟩

theorem newline_not_mem_stringifyElems (vs : List Value) : '\n' ∉ stringify.stringifyElems vs := by
  match vs with
  | [] => exact List.not_mem_nil
  | [v] => exact newline_not_mem_stringify v
  | v :: w :: vs =>
    simp only [stringify.stringifyElems, List.mem_append, List.mem_cons, not_or]
    exact ⟨newline_not_mem_stringify v, by decide, newline_not_mem_stringifyElems (w :: vs)⟩

theorem newline_not_mem_stringifyFields (fs : List (List CodePoint × Value)) :
    '\n' ∉ stringify.stringifyFields fs := by
  match fs with
  | [] => exact List.not_mem_nil
  | [(k, v)] =>
    simp only [stringify.stringifyFields, List.mem_append, List.mem_cons, not_or]
    exact ⟨newline_not_mem_quote k, by decide, newline_not_mem_stringify v⟩
  | (k, v) :: f :: fs =>
    simp only [stringify.stringifyFields, List.mem_append, List.mem_cons, not_or]
    exact ⟨⟨newline_not_mem_quote k, by decide, newline_not_mem_stringify v⟩, by decide,
      newline_not_mem_stringifyFields (f :: fs)⟩

end

theorem stringify_ne_nil (v : Value) : stringify v ≠ [] := by
  cases v with
  | null => decide
  | bool b => cases b <;> decide
  | number n => exact n.ne_nil
  | string s => exact List.cons_ne_nil _ _
  | array elems => exact List.cons_ne_nil _ _
  | object fields => exact List.cons_ne_nil _ _

end Value

end Js
