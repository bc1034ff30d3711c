import Mathlib.Tactic.SplitIfs
import Benchmarker.Js.Stringify

/-!
# Arrays of strings as JSON texts

`JSON.stringify` and `JSON.parse` of an array of strings. The strings have no surrogates, so an escaped surrogate is
not read.

* `stringifyStrings`; `Reader`, `Reader.step`, `parseStrings`: a text is read character by character.
* **`parseStrings_stringifyStrings`**: what is written is read back.
-/

namespace Js

namespace StringArray

/-- Where a reader is. -/
inductive Phase
  | start
  /-- Behind the opening bracket. -/
  | first
  /-- Behind a comma. -/
  | next
  | inside (s : List Char)
  /-- Behind a backslash. -/
  | escape (s : List Char)
  /-- Behind `\u` and some digits. -/
  | unicode (s : List Char) (digits : List ℕ)
  /-- Behind a string. -/
  | after
  | finished
  deriving DecidableEq

structure Reader where
  items : List (List Char)
  phase : Phase
  deriving DecidableEq

/-- White space of JSON. -/
def isBlank (c : Char) : Bool := c ∈ [' ', '\t', '\n', '\r']

/-- What a letter behind a backslash stands for. -/
def unescape : Char → Option Char
  | '\x22' => some '\x22'
  | '\x5c' => some '\x5c'
  | '/' => some '/'
  | 'b' => some '\x08'
  | 'f' => some '\x0c'
  | 'n' => some '\n'
  | 'r' => some '\r'
  | 't' => some '\t'
  | _ => none

def hexValue (c : Char) : Option ℕ :=
  if '0' ≤ c ∧ c ≤ '9' then some (c.toNat - 0x30)
  else if 'A' ≤ c ∧ c ≤ 'F' then some (c.toNat - 0x37)
  else if 'a' ≤ c ∧ c ≤ 'f' then some (c.toNat - 0x57)
  else none

/-- The character with a code unit, if that is no surrogate. -/
def ofUnit (n : ℕ) : Option Char := if 0xD800 ≤ n ∧ n ≤ 0xDFFF then none else some (Char.ofNat n)

/-- One more digit of `\uXXXX`: the fourth ends it. -/
def digit (s : List Char) (digits : List ℕ) (d : ℕ) : Option Phase :=
  if digits.length < 3 then some (.unicode s (digits ++ [d]))
  else (ofUnit ((digits ++ [d]).foldl (fun n d => 16 * n + d) 0)).map fun c => .inside (s ++ [c])

def Reader.step (r : Reader) (c : Char) : Option Reader :=
  match r.phase with
  | .start => if isBlank c then some r else if c = '[' then some { r with phase := .first } else none
  | .first =>
    if isBlank c then some r
    else if c = '\x22' then some { r with phase := .inside [] }
    else if c = ']' then some { r with phase := .finished } else none
  | .next => if isBlank c then some r else if c = '\x22' then some { r with phase := .inside [] } else none
  | .inside s =>
    if c = '\x22' then some ⟨r.items ++ [s], .after⟩
    else if c = '\x5c' then some { r with phase := .escape s }
    else if c.toNat < 0x20 then none else some { r with phase := .inside (s ++ [c]) }
  | .escape s =>
    if c = 'u' then some { r with phase := .unicode s [] }
    else (unescape c).map fun d => { r with phase := .inside (s ++ [d]) }
  | .unicode s digits => (hexValue c).bind fun d => (digit s digits d).map fun phase => { r with phase }
  | .after =>
    if isBlank c then some r
    else if c = ',' then some { r with phase := .next }
    else if c = ']' then some { r with phase := .finished } else none
  | .finished => if isBlank c then some r else none

end StringArray

open StringArray

/-- `JSON.parse(text) as string[]`; `none` where it throws or the text is no array of strings. -/
def parseStrings (text : String) : Option (List String) :=
  (text.toList.foldlM Reader.step ⟨[], .start⟩).bind fun r =>
    if r.phase = .finished then some (r.items.map String.ofList) else none

/-- A character is a code point that is no surrogate. -/
def charPoint (c : Char) : CodePoint := ⟨c.toNat, by
  rcases c.valid with h | h
  · exact Nat.lt_trans h (by decide)
  · exact h.2⟩

/-- `JSON.stringify(strings)` -/
def stringifyStrings (strings : List String) : String :=
  String.ofList (Value.array (strings.map fun s => .string (s.toList.map charPoint))).stringify

example : parseStrings " [\"a\\n\\u0041\" , \"\"]" = some ["a\nA", ""] := by decide

example : stringifyStrings ["a\"b", "\x01"] = "[\"a\\\"b\",\"\\u0001\"]" := by decide

namespace StringArray

variable {items : List (List Char)} {s : List Char} {phase : Phase}

theorem eq_ofNat {c : Char} {n : ℕ} (h : (charPoint c).val = n) : c = Char.ofNat n := by
  rw [← h]
  exact (Char.ofNat_toNat c).symm

theorem hexValue_hexDigit (n : Fin 16) : hexValue (Value.hexDigit n) = some n.val := by
  revert n
  decide

/-- An escaped code unit is read back, if it is no surrogate. -/
theorem foldlM_unicodeEscape {n : ℕ} (h : n < 0xD800) :
    (Value.unicodeEscape n).foldlM Reader.step ⟨items, .inside s⟩ = some ⟨items, .inside (s ++ [Char.ofNat n])⟩ := by
  have hdigit : ∀ k, hexValue (Value.hexDigit (k % 16)) = some (k % 16) :=
    fun k => hexValue_hexDigit ⟨k % 16, Nat.mod_lt k (by decide)⟩
  have hback : Reader.step ⟨items, .inside s⟩ '\x5c' = some ⟨items, .escape s⟩ := rfl
  have hu : Reader.step ⟨items, .escape s⟩ 'u' = some ⟨items, .unicode s []⟩ := rfl
  have hstep : ∀ digits k, Reader.step ⟨items, .unicode s digits⟩ (Value.hexDigit (k % 16)) =
      (digit s digits (k % 16)).map fun phase => ⟨items, phase⟩ := by
    intro digits k
    show ((hexValue (Value.hexDigit (k % 16))).bind fun d => (digit s digits d).map fun phase => _) = _
    rw [hdigit, Option.bind_some]
  have hvalue : ([n / 4096 % 16, n / 256 % 16, n / 16 % 16] ++ [n % 16]).foldl (fun n d => 16 * n + d) 0 = n := by
    show 16 * (16 * (16 * (16 * 0 + n / 4096 % 16) + n / 256 % 16) + n / 16 % 16) + n % 16 = n
    omega
  have hlast : digit s [n / 4096 % 16, n / 256 % 16, n / 16 % 16] (n % 16) = some (.inside (s ++ [Char.ofNat n])) := by
    have hthree : ¬[n / 4096 % 16, n / 256 % 16, n / 16 % 16].length < 3 := Nat.lt_irrefl 3
    rw [digit, if_neg hthree, hvalue, ofUnit, if_neg fun hn => Nat.not_le_of_lt h hn.1]
    rfl
  have hfirst : ∀ a, digit s [] a = some (.unicode s [a]) := fun _ => rfl
  have hsecond : ∀ a b, digit s [a] b = some (.unicode s [a, b]) := fun _ _ => rfl
  have hthird : ∀ a b c, digit s [a, b] c = some (.unicode s [a, b, c]) := fun _ _ _ => rfl
  simp only [Value.unicodeEscape, List.foldlM_cons, List.foldlM_nil, hback, hu, hstep, hfirst, hsecond, hthird, hlast,
    Option.bind_eq_bind, Option.bind_some, Option.map_some, Option.pure_def]

/-- What is written of a character is read back inside of a string. -/
theorem foldlM_quotePoint (c : Char) : (Value.quotePoint (charPoint c)).foldlM Reader.step ⟨items, .inside s⟩ =
    some ⟨items, .inside (s ++ [c])⟩ := by
  unfold Value.quotePoint
  split_ifs with h₁ h₂ h₃ h₄ h₅ h₆ h₇ h₈
  · rw [eq_ofNat h₁]
    rfl
  · rw [eq_ofNat h₂]
    rfl
  · rw [eq_ofNat h₃]
    rfl
  · rw [eq_ofNat h₄]
    rfl
  · rw [eq_ofNat h₅]
    rfl
  · rw [eq_ofNat h₆]
    rfl
  · rw [eq_ofNat h₇]
    rfl
  · have hlow : (charPoint c).val < 0xD800 := by
      rcases c.valid with hvalid | hvalid
      · exact hvalid
      · rcases h₈ with h₈ | h₈
        · exact Nat.lt_trans h₈ (by decide)
        · exact absurd hvalid.1 (Nat.not_lt_of_le h₈.2)
    rw [foldlM_unicodeEscape hlow, ← eq_ofNat rfl]
  · have hquote : c ≠ '\x22' := fun hc => h₆ (by rw [hc]; rfl)
    have hback : c ≠ '\x5c' := fun hc => h₇ (by rw [hc]; rfl)
    have hplain : ¬c.toNat < 0x20 := fun hc => h₈ (.inl hc)
    have hstep : Reader.step ⟨items, .inside s⟩ c = some ⟨items, .inside (s ++ [c])⟩ := by
      simp only [Reader.step, if_neg hquote, if_neg hback, if_neg hplain]
    rw [← eq_ofNat rfl, List.foldlM_cons, hstep]
    rfl

theorem foldlM_flatMap (t : List Char) :
    ((t.map charPoint).flatMap Value.quotePoint).foldlM Reader.step ⟨items, .inside s⟩ =
      some ⟨items, .inside (s ++ t)⟩ := by
  induction t generalizing s with
  | nil => rw [List.append_nil]; rfl
  | cons c t ih =>
    rw [List.map_cons, List.flatMap_cons, List.foldlM_append, foldlM_quotePoint, Option.bind_eq_bind, Option.bind_some,
      ih, List.append_assoc, List.singleton_append]

/-- A string that is written is read back. -/
theorem foldlM_quote (t : List Char) (hphase : phase = .first ∨ phase = .next) :
    (Value.quote (t.map charPoint)).foldlM Reader.step ⟨items, phase⟩ = some ⟨items ++ [t], .after⟩ := by
  have hopen : Reader.step ⟨items, phase⟩ '\x22' = some ⟨items, .inside []⟩ := by
    rcases hphase with rfl | rfl <;> rfl
  rw [Value.quote, List.cons_append, List.foldlM_cons, hopen, Option.bind_eq_bind, Option.bind_some, List.foldlM_append,
    foldlM_flatMap, List.nil_append]
  rfl

/-- Strings that are written one by one are read back. -/
theorem foldlM_stringifyElems (t : List Char) (ts : List (List Char)) (hphase : phase = .first ∨ phase = .next) :
    (Value.stringify.stringifyElems ((t :: ts).map fun t => .string (t.map charPoint))).foldlM Reader.step ⟨items, phase⟩ =
      some ⟨items ++ t :: ts, .after⟩ := by
  induction ts generalizing t items phase with
  | nil => exact foldlM_quote t hphase
  | cons t' ts ih =>
    show (Value.quote (t.map charPoint) ++ ',' :: Value.stringify.stringifyElems
      ((t' :: ts).map fun t => .string (t.map charPoint))).foldlM Reader.step ⟨items, phase⟩ = _
    have hcomma : Reader.step ⟨items ++ [t], .after⟩ ',' = some ⟨items ++ [t], .next⟩ := rfl
    rw [List.foldlM_append, foldlM_quote t hphase, Option.bind_eq_bind, Option.bind_some, List.foldlM_cons, hcomma,
      Option.bind_eq_bind, Option.bind_some, ih t' (.inr rfl), List.append_assoc, List.singleton_append]

end StringArray

/-- **What is written is read back.** -/
theorem parseStrings_stringifyStrings (strings : List String) :
    parseStrings (stringifyStrings strings) = some strings := by
  have htexts : strings.map (fun s => Value.string (s.toList.map charPoint)) =
      (strings.map String.toList).map fun t => .string (t.map charPoint) := by
    rw [List.map_map]
    rfl
  have hback : (strings.map String.toList).map String.ofList = strings := by
    rw [List.map_map]
    exact List.map_id'' (fun s => String.ofList_toList) strings
  have hread : (Value.array (strings.map fun s => .string (s.toList.map charPoint))).stringify.foldlM Reader.step
      ⟨[], .start⟩ = some ⟨strings.map String.toList, .finished⟩ := by
    rw [htexts]
    cases strings.map String.toList with
    | nil => rfl
    | cons t ts =>
      show ('[' :: Value.stringify.stringifyElems ((t :: ts).map fun t => .string (t.map charPoint)) ++ [']']).foldlM
        Reader.step ⟨[], .start⟩ = _
      have hopen : Reader.step ⟨[], .start⟩ '[' = some ⟨[], .first⟩ := rfl
      rw [List.cons_append, List.foldlM_cons, hopen, Option.bind_eq_bind, Option.bind_some, List.foldlM_append,
        foldlM_stringifyElems t ts (.inl rfl)]
      rfl
  rw [parseStrings, stringifyStrings, String.toList_ofList, hread, Option.bind_some, if_pos rfl, hback]

end Js
