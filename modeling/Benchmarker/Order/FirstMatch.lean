import Mathlib.Data.List.Basic

/-!
# First-match tables

An ordered list of rules. The first rule that applies to an input decides the value; `Yields Q` says
that it decides for a value with the property `Q`.

* **`yields_append`**: a list of rules in two blocks. `yields_of_all`, `yields_of_none`: a block whose
  values all have the property, or none of them.
* `firstMatch_eq_some`: what decides, as one property of the value.
-/

namespace FirstMatch

structure Rule (α β : Type) where
  test : α → Bool
  value : α → β

variable {α β : Type}

/-- The value of the first rule that applies. -/
def firstMatch (rules : List (Rule α β)) (a : α) : Option β :=
  (rules.find? fun rule => rule.test a).map fun rule => rule.value a

/-- Some rule applies. -/
def Applies (rules : List (Rule α β)) (a : α) : Prop := ∃ rule ∈ rules, rule.test a = true

/-- The first rule that applies decides for a value with the property. -/
def Yields (Q : β → Prop) (rules : List (Rule α β)) (a : α) : Prop :=
  ∃ b, firstMatch rules a = some b ∧ Q b

variable {Q : β → Prop} {rules rest : List (Rule α β)} {rule : Rule α β} {a : α}

theorem not_applies : ¬ Applies rules a ↔ ∀ rule ∈ rules, rule.test a = false := by
  simp [Applies]

@[simp] theorem applies_nil : ¬ Applies ([] : List (Rule α β)) a := by simp [Applies]

@[simp] theorem applies_cons :
    Applies (rule :: rules) a ↔ rule.test a = true ∨ Applies rules a := by
  simp [Applies]

@[simp] theorem applies_append : Applies (rules ++ rest) a ↔ Applies rules a ∨ Applies rest a := by
  simp [Applies, or_and_right, exists_or]

theorem firstMatch_append :
    firstMatch (rules ++ rest) a = (firstMatch rules a).or (firstMatch rest a) := by
  rw [firstMatch, List.find?_append, Option.map_or]
  rfl

theorem firstMatch_eq_none : firstMatch rules a = none ↔ ¬ Applies rules a := by
  rw [firstMatch, Option.map_eq_none_iff, List.find?_eq_none, not_applies]
  simp

theorem applies_of_firstMatch {b : β} (h : firstMatch rules a = some b) : Applies rules a := by
  by_contra hno
  rw [firstMatch_eq_none.mpr hno] at h
  cases h

theorem yields_of_all (h : ∀ rule ∈ rules, Q (rule.value a)) : Yields Q rules a ↔ Applies rules a := by
  constructor
  · rintro ⟨b, hb, -⟩
    exact applies_of_firstMatch hb
  · intro happlies
    cases hmatch : firstMatch rules a with
    | none => exact absurd happlies (firstMatch_eq_none.mp hmatch)
    | some b =>
      obtain ⟨rule, hrule, rfl⟩ := Option.map_eq_some_iff.mp hmatch
      exact ⟨_, hmatch, h rule (List.mem_of_find?_eq_some hrule)⟩

theorem yields_of_none (h : ∀ rule ∈ rules, ¬ Q (rule.value a)) : ¬ Yields Q rules a := by
  rintro ⟨b, hb, hQ⟩
  obtain ⟨rule, hrule, rfl⟩ := Option.map_eq_some_iff.mp hb
  exact h rule (List.mem_of_find?_eq_some hrule) hQ

/-- **The second of two blocks decides only where the first does not apply.** -/
theorem yields_append : Yields Q (rules ++ rest) a ↔
    Yields Q rules a ∨ ¬ Applies rules a ∧ Yields Q rest a := by
  simp only [Yields, firstMatch_append]
  cases hmatch : firstMatch rules a with
  | none => simp [firstMatch_eq_none.mp hmatch]
  | some b => simp [applies_of_firstMatch hmatch]

theorem firstMatch_eq_some {b : β} : firstMatch rules a = some b ↔ Yields (· = b) rules a := by
  simp [Yields]

end FirstMatch
