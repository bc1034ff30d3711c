import Mathlib.Algebra.Order.Group.Int
import Mathlib.Data.List.MinMax

/-!
# Newer by generation or by date

A row is newer than another one by its generation; where a generation is not known, by a gap between their
dates. The two orders together have cycles.

* `Newer`, `not_newer_self`: the relation of two rows.
* `Caught`, **`all_outdated_iff`**: a list in which every row is older than another one.
-/

namespace Recency

variable {α γ : Type} [LinearOrder γ] (generation : α → Option γ) (date : α → Option ℤ) (gap : ℤ)

/-- The dates are known, and the second one is later by the gap. -/
def Later (m other : α) : Prop := ∃ s ∈ date m, ∃ t ∈ date other, gap ≤ t - s

/-- The other row is newer. -/
inductive Newer (m other : α) : Prop
  | byGeneration {g g' : γ} (h : generation m = some g) (h' : generation other = some g') (hlt : g < g')
  | byDate (h : generation m = none ∨ generation other = none) (hlater : Later date gap m other)

variable {generation date gap} {l : List α} {m other u : α} {g g' : γ}

theorem newer_of_generations (h : generation m = some g) (h' : generation other = some g') :
    Newer generation date gap m other ↔ g < g' := by
  refine ⟨fun hnewer => ?_, .byGeneration h h'⟩
  cases hnewer with
  | byGeneration h₁ h₁' hlt =>
    rw [h] at h₁
    rw [h'] at h₁'
    cases h₁
    cases h₁'
    exact hlt
  | byDate hnone _ =>
    rw [h, h'] at hnone
    exact hnone.elim nofun nofun

theorem newer_of_unknown (h : generation m = none ∨ generation other = none) :
    Newer generation date gap m other ↔ Later date gap m other := by
  refine ⟨fun hnewer => ?_, .byDate h⟩
  cases hnewer with
  | byGeneration h₁ h₁' _ =>
    rw [h₁, h₁'] at h
    exact h.elim nofun nofun
  | byDate _ hlater => exact hlater

theorem not_newer_self (hgap : 0 < gap) : ¬Newer generation date gap m m := by
  cases hm : generation m with
  | some g =>
    rw [newer_of_generations hm hm]
    exact lt_irrefl g
  | none =>
    rw [newer_of_unknown (.inl hm)]
    rintro ⟨s, hs, t, ht, hle⟩
    have heq : s = t := Option.mem_unique hs ht
    omega

/-! ## Lists without a newest row -/

/-- The row is the newest one without a generation, and stands between the generations: the rows of the
highest one are older, and a row of another one is newer. -/
structure Caught (generation : α → Option γ) (date : α → Option ℤ) (gap : ℤ) (l : List α) (u : α) : Prop where
  mem : u ∈ l
  unknown : generation u = none
  newest : ∀ m ∈ l, generation m = none → ∃ s ∈ date m, ∃ t ∈ date u, s ≤ t
  older : ∀ m ∈ l, ∀ g ∈ generation m, (∀ other ∈ l, ∀ g' ∈ generation other, g' ≤ g) → Later date gap m u
  newer : ∃ m ∈ l, generation m ≠ none ∧ Later date gap u m

/-- A row with the greatest value, among those that have one. -/
theorem exists_greatest {ι : Type} [LinearOrder ι] {f : α → Option ι} {a : ι} (hm : m ∈ l) (ha : f m = some a) :
    ∃ top ∈ l, ∃ b ∈ f top, ∀ other ∈ l, ∀ c ∈ f other, c ≤ b := by
  have hmem : a ∈ l.filterMap f := List.mem_filterMap.mpr ⟨m, hm, ha⟩
  cases hmax : (l.filterMap f).argmax id with
  | none =>
    rw [List.argmax_eq_none.mp hmax] at hmem
    cases hmem
  | some b =>
    obtain ⟨top, htop, hb⟩ := List.mem_filterMap.mp (List.argmax_mem hmax)
    refine ⟨top, htop, b, hb, fun other hother c hc => ?_⟩
    exact List.le_of_mem_argmax (List.mem_filterMap.mpr ⟨other, hother, hc⟩) hmax

/-- In such a list every row is older than another one. -/
theorem outdated_of_caught (h : Caught generation date gap l u) :
    ∀ m ∈ l, ∃ other ∈ l, Newer generation date gap m other := by
  intro m hm
  cases hgeneration : generation m with
  | none =>
    obtain ⟨newer, hnewer, hknown, t, ht, s', hs', hle⟩ := h.newer
    obtain ⟨s, hs, t', ht', hle'⟩ := h.newest m hm hgeneration
    have heq : t = t' := Option.mem_unique ht ht'
    exact ⟨newer, hnewer, (newer_of_unknown (.inl hgeneration)).mpr ⟨s, hs, s', hs', by omega⟩⟩
  | some g =>
    by_cases hhighest : ∀ other ∈ l, ∀ g' ∈ generation other, g' ≤ g
    · exact ⟨u, h.mem, (newer_of_unknown (.inr h.unknown)).mpr (h.older m hm g hgeneration hhighest)⟩
    · push Not at hhighest
      obtain ⟨other, hother, g', hg', hlt⟩ := hhighest
      exact ⟨other, hother, (newer_of_generations hgeneration hg').mpr hlt⟩

/-- Some row has no generation: a row of the highest one is older than another row. -/
theorem unknown_of_outdated (hne : l ≠ []) (h : ∀ m ∈ l, ∃ other ∈ l, Newer generation date gap m other) :
    ∃ u ∈ l, generation u = none := by
  by_contra hknown
  push Not at hknown
  obtain ⟨m, hm⟩ := List.exists_mem_of_ne_nil l hne
  obtain ⟨g, hg⟩ := Option.ne_none_iff_exists'.mp (hknown m hm)
  obtain ⟨top, htop, b, hb, hmax⟩ := exists_greatest hm hg
  obtain ⟨other, hother, hnewer⟩ := h top htop
  obtain ⟨g', hg'⟩ := Option.ne_none_iff_exists'.mp (hknown other hother)
  rw [newer_of_generations hb hg'] at hnewer
  exact absurd (hmax other hother g' hg') (not_le.mpr hnewer)

/-- A row without a generation that is older than another one has a date. -/
theorem dated_of_newer (hunknown : generation m = none) (h : Newer generation date gap m other) :
    ∃ s, date m = some s := by
  obtain ⟨s, hs, -⟩ := (newer_of_unknown (.inl hunknown)).mp h
  exact ⟨s, hs⟩

/-- **A list in which every row is older than another one has a row that is caught.** -/
theorem caught_of_outdated (hgap : 0 < gap) (hne : l ≠ [])
    (h : ∀ m ∈ l, ∃ other ∈ l, Newer generation date gap m other) : ∃ u, Caught generation date gap l u := by
  -- the newest of the rows without a generation
  let dateOfUnknown : α → Option ℤ := fun m => if generation m = none then date m else none
  have hdate : ∀ {m t}, dateOfUnknown m = some t ↔ generation m = none ∧ date m = some t := by
    intro m t
    by_cases hm : generation m = none <;> simp [dateOfUnknown, hm]
  obtain ⟨first, hfirst, hunknown⟩ := unknown_of_outdated hne h
  obtain ⟨_, _, hnewer⟩ := h first hfirst
  obtain ⟨s, hs⟩ := dated_of_newer hunknown hnewer
  obtain ⟨u, hu, t, ht, hmax⟩ := exists_greatest hfirst (hdate.mpr ⟨hunknown, hs⟩)
  obtain ⟨hunknown, hdated⟩ := hdate.mp ht
  refine ⟨u, hu, hunknown, fun m hm hm' => ?_, fun m hm g hg hhighest => ?_, ?_⟩
  · obtain ⟨_, _, hnewer⟩ := h m hm
    obtain ⟨s, hs⟩ := dated_of_newer hm' hnewer
    exact ⟨s, hs, t, hdated, hmax m hm s (hdate.mpr ⟨hm', hs⟩)⟩
  · obtain ⟨other, hother, hnewer⟩ := h m hm
    cases hg' : generation other with
    | some g' =>
      rw [newer_of_generations hg hg'] at hnewer
      exact absurd (hhighest other hother g' hg') (not_le.mpr hnewer)
    | none =>
      obtain ⟨s, hs, t', ht', hle⟩ := (newer_of_unknown (.inr hg')).mp hnewer
      have hbound := hmax other hother t' (hdate.mpr ⟨hg', ht'⟩)
      exact ⟨s, hs, t, hdated, by omega⟩
  · obtain ⟨other, hother, hnewer⟩ := h u hu
    have hlater := (newer_of_unknown (.inl hunknown)).mp hnewer
    refine ⟨other, hother, fun hnone => ?_, hlater⟩
    obtain ⟨t', ht', s, hs, hle⟩ := hlater
    have hsame : t' = t := Option.mem_unique ht' hdated
    have hbound := hmax other hother s (hdate.mpr ⟨hnone, hs⟩)
    omega

/-- **Every row is older than another one** exactly when a row without a generation is caught between the
generations. -/
theorem all_outdated_iff (hgap : 0 < gap) (hne : l ≠ []) :
    (∀ m ∈ l, ∃ other ∈ l, Newer generation date gap m other) ↔ ∃ u, Caught generation date gap l u :=
  ⟨caught_of_outdated hgap hne, fun ⟨_, hu⟩ => outdated_of_caught hu⟩

end Recency
