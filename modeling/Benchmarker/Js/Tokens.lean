import Mathlib.Data.List.Infix
import Benchmarker.Js.Regex

/-!
# Tokens of a text

`text.split(/[…]/).filter(Boolean)` on the characters of a text, joining tokens, and ASCII texts in lower
case.

* `tokensBy`, `tokensBy_append_cons`, **`tokensBy_intercalate`**: splitting, and splitting what was joined.
* `lowerChars`, `lowerChars_eq`, `Plain`: lower case, and the characters that stay.
-/

namespace Js

section Tokens

variable {p : Char → Bool} {c sep : Char} {s t : List Char} {tokens : List (List Char)}

/-- `text.split(/[…]/).filter(Boolean)` for a class of separators. -/
def tokensBy (p : Char → Bool) (s : List Char) : List (List Char) := (s.splitOnP p).filter (· ≠ [])

theorem tokensBy_append_cons (hsep : p sep = true) :
    tokensBy p (s ++ sep :: t) = tokensBy p s ++ tokensBy p t := by
  rw [tokensBy, List.splitOnP_append_cons s t hsep, List.filter_append]
  rfl

theorem tokensBy_plain (hne : s ≠ []) (h : ∀ c ∈ s, p c = false) : tokensBy p s = [s] := by
  rw [tokensBy, List.splitOnP_eq_singleton h, List.filter_eq_self]
  intro token htoken
  rw [List.mem_singleton.mp htoken]
  exact decide_eq_true hne

/-- The characters of the pieces are those that do not separate. -/
theorem mem_splitOnP : (∃ piece ∈ s.splitOnP p, c ∈ piece) ↔ c ∈ s ∧ p c = false := by
  induction s with
  | nil => simp
  | cons d s ih =>
    rw [List.splitOnP_cons_eq_if_modifyHead]
    by_cases hd : p d = true
    · rw [if_pos hd]
      simp only [List.mem_cons, exists_eq_or_imp, ih]
      constructor
      · rintro (hnil | ⟨hmem, hp⟩)
        · cases hnil
        · exact ⟨.inr hmem, hp⟩
      · rintro ⟨rfl | hmem, hp⟩
        · exact absurd hd (Bool.eq_false_iff.mp hp)
        · exact .inr ⟨hmem, hp⟩
    · rw [if_neg hd]
      obtain ⟨first, rest, hpieces⟩ := List.exists_cons_of_ne_nil (List.splitOnP_ne_nil p s)
      rw [hpieces] at ih ⊢
      simp only [List.modifyHead_cons, List.mem_cons, exists_eq_or_imp] at ih ⊢
      rw [or_assoc, ih]
      constructor
      · rintro (rfl | ⟨hmem, hp⟩)
        · exact ⟨.inl rfl, Bool.eq_false_iff.mpr hd⟩
        · exact ⟨.inr hmem, hp⟩
      · rintro ⟨rfl | hmem, hp⟩
        · exact .inl rfl
        · exact .inr ⟨hmem, hp⟩

theorem mem_of_tokensBy (htoken : t ∈ tokensBy p s) (hc : c ∈ t) : c ∈ s ∧ p c = false :=
  mem_splitOnP.mp ⟨t, (List.mem_filter.mp htoken).1, hc⟩

theorem ne_nil_of_tokensBy (htoken : t ∈ tokensBy p s) : t ≠ [] := of_decide_eq_true (List.mem_filter.mp htoken).2

theorem tokensBy_ne_nil (hc : c ∈ s) (hp : p c = false) : tokensBy p s ≠ [] := by
  obtain ⟨piece, hpiece, hmem⟩ := mem_splitOnP.mpr ⟨hc, hp⟩
  exact List.ne_nil_of_mem (List.mem_filter.mpr ⟨hpiece, decide_eq_true (List.ne_nil_of_mem hmem)⟩)

/-- **Joined tokens are split where they were joined.** -/
theorem tokensBy_intercalate (hsep : p sep = true)
    (h : ∀ token ∈ tokens, token ≠ [] ∧ ∀ c ∈ token, p c = false) :
    tokensBy p ([sep].intercalate tokens) = tokens := by
  induction tokens with
  | nil => rfl
  | cons token tokens ih =>
    obtain ⟨⟨hne, hplain⟩, hrest⟩ := List.forall_mem_cons.mp h
    cases tokens with
    | nil => rw [List.intercalate_singleton, tokensBy_plain hne hplain]
    | cons next rest =>
      rw [List.intercalate_cons_cons, List.append_assoc, List.singleton_append, tokensBy_append_cons hsep,
        tokensBy_plain hne hplain, ih hrest]
      rfl

theorem mem_intercalate (hc : c ∈ [sep].intercalate tokens) : c = sep ∨ ∃ token ∈ tokens, c ∈ token := by
  induction tokens with
  | nil => cases hc
  | cons token tokens ih =>
    cases tokens with
    | nil =>
      rw [List.intercalate_singleton] at hc
      exact .inr ⟨token, List.mem_cons_self, hc⟩
    | cons next rest =>
      rw [List.intercalate_cons_cons, List.append_assoc, List.singleton_append, List.mem_append,
        List.mem_cons] at hc
      rcases hc with hc | rfl | hc
      · exact .inr ⟨token, List.mem_cons_self, hc⟩
      · exact .inl rfl
      · rcases ih hc with rfl | ⟨token', htoken, hc'⟩
        · exact .inl rfl
        · exact .inr ⟨token', List.mem_cons_of_mem _ htoken, hc'⟩

/-- More tokens give a longer text. -/
theorem length_intercalate_append (sep : Char) {tokens' : List (List Char)} (hne : tokens ≠ []) (hne' : tokens' ≠ []) :
    ([sep].intercalate tokens).length < ([sep].intercalate (tokens ++ tokens')).length := by
  induction tokens with
  | nil => exact absurd rfl hne
  | cons token tokens ih =>
    cases tokens with
    | nil =>
      rw [List.singleton_append, List.intercalate_cons_of_ne_nil hne', List.intercalate_singleton,
        List.length_append, List.length_append, List.length_singleton]
      omega
    | cons next rest =>
      have hlt := ih (List.cons_ne_nil _ _)
      rw [List.cons_append] at hlt
      rw [List.cons_append, List.intercalate_cons_cons, List.cons_append, List.intercalate_cons_cons]
      simp only [List.length_append]
      omega

end Tokens

/-! ## Lower case -/

/-- `text.toLowerCase()`, on the characters. -/
def lowerChars (s : List Char) : List Char := (toLowerCase (String.ofList s)).toList

/-- The ASCII characters that are their own lower case. -/
def Plain (c : Char) : Prop := c.toNat < 128 ∧ c.toLower = c

instance (c : Char) : Decidable (Plain c) := inferInstanceAs (Decidable (_ ∧ _))

section Lower

variable {c : Char} {s t : List Char}

theorem lowerChars_eq (h : ∀ c ∈ s, c.toNat < 128) : lowerChars s = s.map Char.toLower := by
  rw [lowerChars, toLowerCase, String.toList_ofList, String.toList_ofList, List.map_eq_flatMap]
  refine List.flatMap_congr fun c hc => ?_
  have hlt := h c hc
  rw [if_neg (by omega), if_neg (by omega)]

theorem lowerChars_plain (h : ∀ c ∈ s, Plain c) : lowerChars s = s := by
  rw [lowerChars_eq fun c hc => (h c hc).1, List.map_congr_left fun c hc => (h c hc).2]
  exact List.map_id s

/-- A property of the ASCII characters. -/
theorem forall_ascii {P : Char → Prop} (h : ∀ n < 128, P (Char.ofNat n)) (hc : c.toNat < 128) : P c := by
  have hof := h c.toNat hc
  rwa [Char.ofNat_toNat] at hof

theorem plain_toLower (hc : c.toNat < 128) : Plain c.toLower := by
  refine forall_ascii (P := fun c => Plain c.toLower) ?_ hc
  decide

end Lower

end Js
