import Mathlib.Data.List.DropRight
import Benchmarker.Js.Pattern

/-!
# Texts as code units

A string is its UTF-16 code units, which is what its `length`, its `slice` and a regular expression without
flags count.

* `Units`, `units`: texts, and literals of the source, which have no character beyond the first plane.
* `isSpaceUnit`, `trimUnits`, `joinUnits`.
* `replaceFirst`: `replace` with a replacement text, in which `$` is special; **`suffix_replaceFirst`**.
-/

namespace Js

open Pattern

abbrev Units : Type := List UInt16

def units (s : String) : Units := s.toList.map fun c => UInt16.ofNat c.toNat

/-- A fence of Markdown. -/
def fence : Units := units "```"

/-- `\s` -/
def isSpaceUnit (c : UInt16) : Bool :=
  let n := c.toNat
  (9 ≤ n && n ≤ 13) || n = 32 || n = 0xa0 || n = 0x1680 || (0x2000 ≤ n && n ≤ 0x200a) ||
  n = 0x2028 || n = 0x2029 || n = 0x202f || n = 0x205f || n = 0x3000 || n = 0xfeff

/-- `\d` -/
def isDigitUnit (c : UInt16) : Bool := 0x30 ≤ c.toNat && c.toNat ≤ 0x39

/-- `[A-Z]` -/
def isCapitalUnit (c : UInt16) : Bool := 0x41 ≤ c.toNat && c.toNat ≤ 0x5a

def trimUnits (s : Units) : Units := (s.dropWhile isSpaceUnit).rdropWhile isSpaceUnit

def joinUnits (separator : Units) (texts : List Units) : Units := List.intercalate separator texts

/-- A replacement text without capture groups. -/
def expandDollars (before matched after : Units) : Units → Units
  | 0x24 :: 0x24 :: rest => 0x24 :: expandDollars before matched after rest
  | 0x24 :: 0x26 :: rest => matched ++ expandDollars before matched after rest
  | 0x24 :: 0x60 :: rest => before ++ expandDollars before matched after rest
  | 0x24 :: 0x27 :: rest => after ++ expandDollars before matched after rest
  | c :: rest => c :: expandDollars before matched after rest
  | [] => []

/-- `s.replace(r, replacement)`, for a pattern without groups. -/
def replaceFirst (r : Pattern UInt16) (replacement s : Units) : Units :=
  match r.find s with
  | none => s
  | some (start, after) =>
    let before := s.take (s.length - start.length)
    let matched := start.take (start.length - after.length)
    before ++ expandDollars before matched after replacement ++ after

section Trim

variable {p : UInt16 → Bool} {s t w w' : Units} {c : UInt16}

theorem rdropWhile_append (hw : ∀ c ∈ w, p c = true) : (t ++ w).rdropWhile p = t.rdropWhile p := by
  rw [List.rdropWhile, List.reverse_append, List.dropWhile_append_of_pos (by simpa using hw), List.rdropWhile]

/-- Trimming stops at a character that stays. -/
theorem dropWhile_append_cons (hc : p c = false) : (s ++ c :: t).dropWhile p = s.dropWhile p ++ c :: t := by
  induction s with
  | nil => exact List.dropWhile_cons_of_neg (by rw [hc]; exact Bool.false_ne_true)
  | cons d s ih =>
    rw [List.cons_append, List.dropWhile_cons, List.dropWhile_cons, ih]
    split_ifs <;> rfl

theorem rdropWhile_append_cons (hc : p c = false) : (s ++ c :: t).rdropWhile p = s ++ c :: t.rdropWhile p := by
  induction t using List.reverseRecOn with
  | nil => exact List.rdropWhile_concat_neg _ _ _ (by rw [hc]; exact Bool.false_ne_true)
  | append_singleton t d ih =>
    rw [← List.cons_append, ← List.append_assoc, List.rdropWhile_concat, List.rdropWhile_concat, ih]
    split_ifs <;> simp

/-- What is cut off is white space. -/
theorem trimUnits_split (s : Units) : ∃ w w', s = w ++ (trimUnits s ++ w') ∧ (∀ c ∈ w, isSpaceUnit c = true) ∧
    ∀ c ∈ w', isSpaceUnit c = true := by
  refine ⟨s.takeWhile isSpaceUnit, ((s.dropWhile isSpaceUnit).reverse.takeWhile isSpaceUnit).reverse, ?_,
    fun c hc => List.mem_takeWhile_imp hc, fun c hc => List.mem_takeWhile_imp (List.mem_reverse.mp hc)⟩
  rw [trimUnits, List.rdropWhile, ← List.reverse_append, List.takeWhile_append_dropWhile, List.reverse_reverse,
    List.takeWhile_append_dropWhile]

/-- White space around a text that begins and ends with something else. -/
theorem trimUnits_between (hw : ∀ c ∈ w, isSpaceUnit c = true) (hw' : ∀ c ∈ w', isSpaceUnit c = true)
    (hbegins : ∃ c cs, t = c :: cs ∧ isSpaceUnit c = false) (hends : ∃ cs c, t = cs ++ [c] ∧ isSpaceUnit c = false) :
    trimUnits (w ++ (t ++ w')) = t := by
  obtain ⟨c, cs, rfl, hc⟩ := hbegins
  rw [trimUnits, List.dropWhile_append_of_pos hw, List.cons_append,
    List.dropWhile_cons_of_neg (by rw [hc]; exact Bool.false_ne_true), ← List.cons_append, rdropWhile_append hw']
  obtain ⟨cs', c', heq, hc'⟩ := hends
  rw [heq]
  exact List.rdropWhile_concat_neg _ _ _ (by rw [hc']; exact Bool.false_ne_true)

end Trim

/-- **What stands behind the match stays.** -/
theorem suffix_replaceFirst {r : Pattern UInt16} {replacement s tail : Units}
    (hs : tail <:+ s) (h : ∀ start after, r.find s = some (start, after) → tail <:+ after) :
    tail <:+ replaceFirst r replacement s := by
  rw [replaceFirst]
  cases hfind : r.find s with
  | none => exact hs
  | some x => exact (h x.1 x.2 hfind).trans (List.suffix_append _ _)

/-- The same where the text of a match is looked up again. -/
theorem suffix_replaceMatch {r : Pattern UInt16} {replacement s start after tail : Units}
    (hfind : r.find s = some (start, after)) (htail : tail <:+ after) :
    tail <:+ replaceFirst (lit (start.take (start.length - after.length))) replacement s := by
  obtain ⟨hstart, hafter⟩ := find_eq_some hfind
  obtain ⟨matched, rfl⟩ := suffix_of_mem (List.mem_of_head? hafter)
  have hmatched : (matched ++ after).take ((matched ++ after).length - after.length) = matched := by
    rw [List.length_append, Nat.add_sub_cancel, List.take_left]
  have hsuffix : after <:+ s := (List.suffix_append _ _).trans hstart
  rw [hmatched]
  refine suffix_replaceFirst (htail.trans hsuffix) fun start' after' hfind' => htail.trans ?_
  obtain ⟨hstart', hafter'⟩ := find_eq_some hfind'
  obtain rfl := mem_ends_lit.mp (List.mem_of_head? hafter')
  obtain ⟨x, y, hxy, hle⟩ := find_of_mem (mem_ends_lit.mpr rfl) hstart
  rw [hfind'] at hxy
  cases hxy
  refine List.suffix_of_suffix_length_le hsuffix ((List.suffix_append _ _).trans hstart') ?_
  have hlength := hle.length_le
  rw [List.length_append, List.length_append] at hlength
  omega

theorem joinUnits_singleton (separator text : Units) : joinUnits separator [text] = text := by
  rw [joinUnits, List.intercalate, List.intersperse, List.flatten_singleton]

/-- A joined text starts with its first part and goes on with the others. -/
theorem joinUnits_cons (separator text text' : Units) (texts : List Units) :
    joinUnits separator (text :: text' :: texts) = text ++ separator ++ joinUnits separator (text' :: texts) := by
  rw [joinUnits, List.intercalate, List.intersperse_cons_cons, List.flatten_cons, List.flatten_cons, joinUnits,
    List.intercalate, List.append_assoc]

/-- The last part ends the joined text. -/
theorem suffix_joinUnits (separator text : Units) (texts : List Units) :
    text <:+ joinUnits separator (texts ++ [text]) := by
  induction texts with
  | nil => rw [List.nil_append, joinUnits_singleton]
  | cons text' texts ih =>
    rw [List.cons_append]
    cases h : texts ++ [text] with
    | nil => cases List.append_eq_nil_iff.mp h |>.2
    | cons text'' rest =>
      rw [joinUnits_cons, ← h]
      exact ih.trans (List.suffix_append _ _)

/-- Every part is in the joined text. -/
theorem infix_joinUnits {separator text : Units} {texts : List Units} (h : text ∈ texts) :
    text <:+: joinUnits separator texts := by
  induction texts with
  | nil => cases h
  | cons text' texts ih =>
    cases texts with
    | nil =>
      rw [List.mem_singleton.mp h, joinUnits_singleton]
    | cons text'' texts =>
      rw [joinUnits_cons]
      rcases List.mem_cons.mp h with rfl | h
      · rw [List.append_assoc]
        exact (List.prefix_append _ _).isInfix
      · exact (ih h).trans (List.suffix_append _ _).isInfix

end Js
