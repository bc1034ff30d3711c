import Benchmarker.Discovery.Candidate

/-!
# The advertised window

`extractContextWindowFromConfig` against the `max_position_embeddings` that a configuration advertises.

* `declaredWindow`, `slidWindow`, `ropeBase`: the parts of the window; `window_eq` puts them together.
* **`window_keeps_iff`**: the configurations whose window is at least the advertised one.
-/

namespace Benchmarker.Discovery

open Js

/-- The first of the positions that a configuration declares. -/
def declaredWindow (config : Json) : ℚ :=
  let text k := (config.field "text_config").bind fun tc => numberOf tc k
  ((numberOf config "max_position_embeddings").or <| (numberOf config "n_positions").or <|
    (numberOf config "max_sequence_length").or <| (text "max_position_embeddings").or <|
      (text "n_positions").or (text "max_sequence_length")).getD 0

/-- The declared window, or a larger sliding one. -/
def slidWindow (config : Json) : ℚ :=
  ((nestedNumber config "sliding_window").filter fun n => n ≠ 0 ∧ declaredWindow config < n).getD
    (declaredWindow config)

/-- The positions that a rope scaling stretches, where they are positive. -/
def ropeBase (config rope : Json) : Option ℚ :=
  positive (some (((numberOf rope "original_max_position_embeddings").or
    (nestedNumber config "max_position_embeddings")).getD 0))

def ropeFactor (rope : Json) : ℚ := (numberOf rope "factor").getD 1

/-- The window before the last check that it is positive. -/
def scaledWindow (config : Json) : ℚ :=
  match (ropeScaling config).bind fun rope => (ropeBase config rope).map (rope, ·) with
  | some (rope, base) => (⌊base * ropeFactor rope⌋ : ℤ)
  | none => slidWindow config

/-- The configuration advertises the positions, at its top level or else in its `text_config`. -/
def Advertises (config : Json) (m : ℕ) : Prop :=
  nestedNumber config "max_position_embeddings" = some (m : ℚ)

/-- No factor of the rope scaling is below one. -/
def Stretches (config : Json) : Prop := ∀ rope ∈ ropeScaling config, ∀ factor ∈ numberOf rope "factor", 1 ≤ factor

/-- The window is at least the advertised one, so that no gate up to it drops the model. -/
structure KeepsWindow (config : Json) (m : ℕ) : Prop where
  le : (m : ℚ) ≤ extractContextWindow config
  passes : ∀ minContextWindow : ℚ, minContextWindow ≤ m → ¬extractContextWindow config < minContextWindow

/-- A rope scaling with positive original positions stretches them to the advertised ones; and where none
stretches, the first number that is declared, or the sliding window, reaches them. -/
structure Reaches (config : Json) (m : ℕ) : Prop where
  stretched : ∀ rope ∈ ropeScaling config, ∀ original ∈ numberOf rope "original_max_position_embeddings",
    0 < original → (m : ℚ) ≤ original * ropeFactor rope
  declared : (∀ rope ∈ ropeScaling config, ∃ original ∈ numberOf rope "original_max_position_embeddings",
      original ≤ 0) →
    (m : ℚ) ≤ declaredWindow config ∨ ∃ n ∈ nestedNumber config "sliding_window", (m : ℚ) ≤ n

section Window

variable {config rope : Json} {m : ℕ} {base : ℚ}

theorem window_eq : extractContextWindow config = if 0 < scaledWindow config then scaledWindow config else 0 := by
  cases hrope : ropeScaling config with
  | none =>
    have hscaled : scaledWindow config = slidWindow config := by
      rw [scaledWindow, hrope]
      rfl
    rw [hscaled, extractContextWindow, hrope]
    rfl
  | some rope =>
    have hscaled : scaledWindow config =
        let basePos := ((numberOf rope "original_max_position_embeddings").or
          (nestedNumber config "max_position_embeddings")).getD 0
        if 0 < basePos then ((⌊basePos * ropeFactor rope⌋ : ℤ) : ℚ) else slidWindow config := by
      rw [scaledWindow, hrope, Option.bind_some, ropeBase, positive, Option.filter_some]
      dsimp only
      split_ifs with h h' h'
      · rfl
      · exact absurd (of_decide_eq_true h) h'
      · exact absurd (decide_eq_true h') h
      · rfl
    rw [hscaled, extractContextWindow, hrope]
    rfl

theorem le_window_iff (hm : 0 < m) : (m : ℚ) ≤ extractContextWindow config ↔ (m : ℚ) ≤ scaledWindow config := by
  have hpos : (0 : ℚ) < m := Nat.cast_pos.mpr hm
  rw [window_eq]
  split_ifs with h
  · rfl
  · exact iff_of_false (not_le.mpr hpos) fun hle => h (hpos.trans_le hle)

theorem keepsWindow_iff : KeepsWindow config m ↔ (m : ℚ) ≤ extractContextWindow config :=
  ⟨KeepsWindow.le, fun h => ⟨h, fun _ hmin => not_lt.mpr (hmin.trans h)⟩⟩

/-- A sliding window only extends the declared one. -/
theorem le_slidWindow_iff (hm : 0 < m) : (m : ℚ) ≤ slidWindow config ↔
    (m : ℚ) ≤ declaredWindow config ∨ ∃ n ∈ nestedNumber config "sliding_window", (m : ℚ) ≤ n := by
  have hpos : (0 : ℚ) < m := Nat.cast_pos.mpr hm
  rw [slidWindow]
  cases nestedNumber config "sliding_window" with
  | none => simp
  | some n =>
    rw [Option.filter_some]
    simp only [Option.mem_def, Option.some.injEq, exists_eq_left']
    split_ifs with h
    · have hlt := (of_decide_eq_true h).2
      rw [Option.getD_some]
      exact ⟨.inr, fun hor => hor.elim (fun hle => hle.trans hlt.le) id⟩
    · rw [Option.getD_none]
      refine ⟨.inl, fun hor => hor.elim id fun hle => ?_⟩
      by_contra hlt
      refine h (decide_eq_true ⟨(hpos.trans_le hle).ne', ?_⟩)
      exact (not_le.mp hlt).trans_le hle

/-- The positions that are stretched are the original ones, or else the advertised ones. -/
theorem ropeBase_eq (hadvertises : Advertises config m) (hm : 0 < m) : ropeBase config rope =
    match numberOf rope "original_max_position_embeddings" with
      | some original => positive (some original)
      | none => some (m : ℚ) := by
  rw [ropeBase, hadvertises]
  cases numberOf rope "original_max_position_embeddings" with
  | some original => rfl
  | none =>
    rw [Option.none_or, Option.getD_some, positive, Option.filter_some, if_pos]
    exact decide_eq_true (Nat.cast_pos.mpr hm)

theorem le_floor_iff : (m : ℚ) ≤ ((⌊base⌋ : ℤ) : ℚ) ↔ (m : ℚ) ≤ base := by
  have hfloor : ((m : ℤ) : ℚ) ≤ ((⌊base⌋ : ℤ) : ℚ) ↔ ((m : ℤ) : ℚ) ≤ base := by
    rw [Int.cast_le, Int.le_floor]
  simpa using hfloor

theorem le_scaled_iff (hadvertises : Advertises config m) (hstretches : Stretches config) (hm : 0 < m) :
    (m : ℚ) ≤ scaledWindow config ↔ Reaches config m := by
  rw [scaledWindow]
  cases hrope : ropeScaling config with
  | none =>
    rw [Option.bind_none]
    dsimp only
    rw [le_slidWindow_iff hm]
    constructor
    · refine fun h => ⟨?_, fun _ => h⟩
      rw [hrope]
      exact nofun
    · intro h
      refine h.declared ?_
      rw [hrope]
      exact nofun
  | some rope =>
    rw [Option.bind_some, ropeBase_eq hadvertises hm]
    have hone : ∀ P : Json → Prop, (∀ rope' ∈ ropeScaling config, P rope') ↔ P rope := by
      intro P
      rw [hrope]
      simp
    have hreaches : Reaches config m ↔
        (∀ original ∈ numberOf rope "original_max_position_embeddings", 0 < original →
          (m : ℚ) ≤ original * ropeFactor rope) ∧
        ((∃ original ∈ numberOf rope "original_max_position_embeddings", original ≤ 0) →
          (m : ℚ) ≤ slidWindow config) := by
      rw [le_slidWindow_iff hm]
      exact ⟨fun h => ⟨(hone _).mp h.stretched, fun hex => h.declared ((hone _).mpr hex)⟩,
        fun h => ⟨(hone _).mpr h.1, fun hex => h.2 ((hone _).mp hex)⟩⟩
    rw [hreaches]
    cases horiginal : numberOf rope "original_max_position_embeddings" with
    | none =>
      dsimp only [Option.map_some]
      have hfactor : 1 ≤ ropeFactor rope := by
        rw [ropeFactor]
        cases hfactor : numberOf rope "factor" with
        | none => exact le_rfl
        | some factor => exact hstretches rope hrope factor hfactor
      refine iff_of_true (le_floor_iff.mpr ?_) ⟨nofun, fun h => ?_⟩
      · exact le_mul_of_one_le_right (Nat.cast_nonneg m) hfactor
      · obtain ⟨_, hmem, -⟩ := h
        cases hmem
    | some original =>
      simp only [Option.mem_def, Option.some.injEq, forall_eq', exists_eq_left']
      by_cases hpos : 0 < original
      · rw [positive, Option.filter_some, if_pos (decide_eq_true hpos)]
        dsimp only [Option.map_some]
        rw [le_floor_iff]
        exact ⟨fun h => ⟨fun _ => h, fun hle => absurd hpos (not_lt.mpr hle)⟩, fun h => h.1 hpos⟩
      · rw [positive, Option.filter_some, if_neg (by simpa using hpos)]
        dsimp only [Option.map_none]
        exact ⟨fun h => ⟨fun hlt => absurd hlt hpos, fun _ => h⟩, fun h => h.2 (not_lt.mp hpos)⟩

end Window

/-- **The configurations whose window is at least the advertised one.** A rope scaling overwrites the window, and
must stretch its original positions far enough. -/
theorem window_keeps_iff (config : Json) (m : ℕ) (hm : 0 < m) (hadvertises : Advertises config m)
    (hstretches : Stretches config) : KeepsWindow config m ↔ Reaches config m := by
  rw [keepsWindow_iff, le_window_iff hm, le_scaled_iff hadvertises hstretches hm]

/-- A model that stretches 8192 positions by a factor. -/
def stretched (m factor : ℕ) : Json :=
  .obj [("max_position_embeddings", .num m (toString m)), ("rope_scaling", .obj [
    ("factor", .num factor (toString factor)), ("original_max_position_embeddings", .num 8192 "8192")])]

theorem stretches_stretched {m factor : ℕ} (h : 1 ≤ factor) : Stretches (stretched m factor) := by
  rintro rope hrope f hf
  obtain rfl := Option.some.inj hrope
  obtain rfl := Option.some.inj hf
  exact_mod_cast h

/-- Stretched sixteen times they are the advertised ones. -/
theorem stretched_keeps : KeepsWindow (stretched 131072 16) 131072 := by
  refine (window_keeps_iff (stretched 131072 16) 131072 (by decide) rfl (stretches_stretched (by decide))).mpr
    ⟨?_, fun h => ?_⟩
  · rintro rope hrope original horiginal -
    obtain rfl := Option.some.inj hrope
    obtain rfl := Option.some.inj horiginal
    rw [ropeFactor]
    norm_num [numberOf, Json.field, JsMap.get, Json.asNum]
  · obtain ⟨original, horiginal, hle⟩ := h _ rfl
    obtain rfl := Option.some.inj horiginal
    norm_num at hle

/-- Stretched eight times they are half of them. -/
theorem stretched_shrinks : ¬ ∀ (config : Json) (m : ℕ), 0 < m → Advertises config m → Stretches config →
    KeepsWindow config m := by
  intro h
  have hadvertises : Advertises (stretched 131072 8) 131072 := rfl
  have hstretches : Stretches (stretched 131072 8) := stretches_stretched (by decide)
  have hle := (h _ _ (by decide) hadvertises hstretches).le
  rw [le_window_iff (by decide), le_scaled_iff hadvertises hstretches (by decide)] at hle
  have hstretched : ((131072 : ℕ) : ℚ) ≤ 8192 * ((8 : ℕ) : ℚ) := hle.stretched _ rfl 8192 rfl (by norm_num)
  norm_num at hstretched

end Benchmarker.Discovery
