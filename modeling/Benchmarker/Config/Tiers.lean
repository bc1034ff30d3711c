import Benchmarker.Order.Cover
import Benchmarker.Benchmark.Runner

/-!
# Values by model size

A tier list gives a value for every parameter count: the value of the first tier that covers it,
else of the last. Three resolvers differ in the value that they read; the fourth reads the health
check timeout in milliseconds and leaves the list at another place.

* `TierLaw`: what a resolver does with every list, and `resolveTier_law`.
* **`resolvers_lawful`**: the four resolvers obey it, and the milliseconds are the seconds a
  thousand times.
-/

namespace Benchmarker

open Order

/-! ## The health check timeout -/

/-- A tier of `healthCheckTimeoutSecondsTiers`. -/
structure HealthCheckTimeoutTier where
  maxParamsBillions : WithTop ℚ
  timeoutSeconds : ℚ
  deriving DecidableEq

/-- `BenchmarkThresholds`, with the health check timeouts. -/
structure HealthCheckThresholds extends BenchmarkThresholds where
  healthCheckTimeoutSeconds : ℚ
  healthCheckTimeoutSecondsTiers : List HealthCheckTimeoutTier

def resolveTieredItlCap : List ItlTier → ℚ → Option ℚ → ℚ :=
  resolveTier ItlTier.maxParamsBillions ItlTier.maxITLMs

def resolveHealthCheckTimeoutSeconds (thresholds : HealthCheckThresholds) : Option ℚ → ℚ :=
  resolveTier HealthCheckTimeoutTier.maxParamsBillions HealthCheckTimeoutTier.timeoutSeconds
    thresholds.healthCheckTimeoutSecondsTiers thresholds.healthCheckTimeoutSeconds

def resolveHealthCheckTimeoutMsFromTiers (tiers : List HealthCheckTimeoutTier) (flatFallbackMs : ℚ)
    (parameterCountBillions : Option ℚ) : ℚ :=
  match parameterCountBillions.filter (0 < ·) with
  | none => flatFallbackMs
  | some params =>
    if tiers = [] then flatFallbackMs else
    let sorted := tiers.insertionSort fun a b => a.maxParamsBillions ≤ b.maxParamsBillions
    match sorted.find? fun tier => (params : WithTop ℚ) ≤ tier.maxParamsBillions with
    | some tier => tier.timeoutSeconds * 1000
    | none => ((sorted.getLast?.map (·.timeoutSeconds)).getD (flatFallbackMs / 1000)) * 1000

/-! ## The law of a resolver -/

/-- What a resolver does with every tier list and every positive parameter count. -/
structure TierLaw {τ : Type} (boundary : τ → WithTop ℚ) (value : τ → ℚ)
    (resolve : List τ → ℚ → ℚ) : Prop where
  /-- The answer is the value of the tier that covers the count. -/
  covered : ∀ (tiers : List τ) (p : ℚ), 0 < p → tiers ≠ [] →
    ∃ t, Covers boundary tiers (p : WithTop ℚ) t ∧ resolve tiers p = value t
  /-- The order of the list does not matter where the boundaries are distinct. -/
  unordered : ∀ (tiers tiers' : List τ) (p : ℚ), 0 < p → tiers.Perm tiers' → (tiers.map boundary).Nodup →
    resolve tiers p = resolve tiers' p
  /-- Larger models get no smaller value, if larger boundaries do not. -/
  monotone : ∀ (tiers : List τ) (p q : ℚ), 0 < p → p ≤ q →
    (∀ t ∈ tiers, ∀ u ∈ tiers, boundary t ≤ boundary u → value t ≤ value u) →
    resolve tiers p ≤ resolve tiers q

section Law

variable {τ : Type} {boundary : τ → WithTop ℚ} {value : τ → ℚ} {tiers : List τ} {flat p q : ℚ}

theorem resolveTier_eq_cover (hp : 0 < p) : resolveTier boundary value tiers flat (some p) =
    ((cover boundary tiers (p : WithTop ℚ)).map value).getD flat := by
  unfold resolveTier cover sortBy
  rw [Option.filter_some_pos (by simpa using hp)]
  dsimp only
  cases (tiers.insertionSort fun a b => boundary a ≤ boundary b).find?
    fun t => (p : WithTop ℚ) ≤ boundary t with
  | some t => rfl
  | none => rfl

/-- A resolver that reads the value of the covering tier obeys the law. -/
theorem law_of_cover {resolve : List τ → ℚ → ℚ}
    (h : ∀ tiers p, 0 < p →
      resolve tiers p = ((cover boundary tiers (p : WithTop ℚ)).map value).getD flat) :
    TierLaw boundary value resolve where
  covered tiers p hp hne := by
    obtain ⟨t, ht⟩ := cover_isSome boundary (p : WithTop ℚ) hne
    refine ⟨t, cover_covers ht, ?_⟩
    rw [h tiers p hp, ht]
    rfl
  unordered tiers tiers' p hp hperm hd := by
    rw [h tiers p hp, h tiers' p hp, cover_perm hperm hd]
  monotone tiers p q hp hpq hmono := by
    rw [h tiers p hp, h tiers q (lt_of_lt_of_le hp hpq)]
    by_cases hne : tiers = []
    · subst hne
      exact le_rfl
    · obtain ⟨t, ht⟩ := cover_isSome boundary (p : WithTop ℚ) hne
      obtain ⟨u, hu⟩ := cover_isSome boundary (q : WithTop ℚ) hne
      have hct := cover_covers ht
      have hcu := cover_covers hu
      rw [ht, hu]
      exact hmono t hct.1 u hcu.1 (hct.mono (WithTop.coe_le_coe.mpr hpq) hcu)

theorem resolveTier_law :
    TierLaw boundary value fun tiers p => resolveTier boundary value tiers flat (some p) :=
  law_of_cover fun _ _ => resolveTier_eq_cover

end Law

/-! ## Milliseconds -/

/-- The fallbacks after the scan are those of the seconds, a thousand times. -/
theorem resolveHealthCheckTimeoutMs_eq {tiers : List HealthCheckTimeoutTier} {flatMs p : ℚ}
    (hp : 0 < p) : resolveHealthCheckTimeoutMsFromTiers tiers flatMs (some p) =
      ((cover HealthCheckTimeoutTier.maxParamsBillions tiers (p : WithTop ℚ)).map fun tier =>
        tier.timeoutSeconds * 1000).getD flatMs := by
  unfold resolveHealthCheckTimeoutMsFromTiers
  rw [Option.filter_some_pos (by simpa using hp)]
  dsimp only
  by_cases hne : tiers = []
  · subst hne
    rfl
  · rw [if_neg hne]
    obtain ⟨t, ht⟩ := cover_isSome HealthCheckTimeoutTier.maxParamsBillions
      (p : WithTop ℚ) hne
    rw [ht]
    unfold cover sortBy at ht
    cases hfind : (tiers.insertionSort fun a b =>
      a.maxParamsBillions ≤ b.maxParamsBillions).find? fun t =>
        (p : WithTop ℚ) ≤ t.maxParamsBillions with
    | some u =>
      rw [hfind] at ht
      cases ht
      rfl
    | none =>
      rw [hfind, Option.none_or] at ht
      simp only [ht]
      rfl

theorem timeoutMs_eq_seconds {thresholds : HealthCheckThresholds} {flatMs p : ℚ} (hp : 0 < p)
    (hflat : thresholds.healthCheckTimeoutSecondsTiers ≠ [] ∨
      flatMs = 1000 * thresholds.healthCheckTimeoutSeconds) :
    resolveHealthCheckTimeoutMsFromTiers thresholds.healthCheckTimeoutSecondsTiers flatMs (some p) =
      1000 * resolveHealthCheckTimeoutSeconds thresholds (some p) := by
  rw [resolveHealthCheckTimeoutMs_eq hp, resolveHealthCheckTimeoutSeconds, resolveTier_eq_cover hp]
  cases hcover : cover HealthCheckTimeoutTier.maxParamsBillions
      thresholds.healthCheckTimeoutSecondsTiers (p : WithTop ℚ) with
  | some t => exact mul_comm t.timeoutSeconds 1000
  | none =>
    rcases hflat with hne | hflat
    · obtain ⟨t, ht⟩ := cover_isSome HealthCheckTimeoutTier.maxParamsBillions
        (p : WithTop ℚ) hne
      rw [ht] at hcover
      cases hcover
    · exact hflat

/-- **The four resolvers** obey the law of the tiers, and the timeout in milliseconds is the timeout
in seconds a thousand times, whatever the fallbacks if the list has a tier. -/
theorem resolvers_lawful :
    (∀ flat, TierLaw ItlTier.maxParamsBillions ItlTier.maxITLMs
      fun tiers p => resolveTieredItlCap tiers flat (some p)) ∧
    (∀ thresholds : BenchmarkThresholds,
      TierLaw ToolCallTier.maxParamsBillions ToolCallTier.minSuccessRate fun tiers p =>
        resolveMinToolCallSuccessRate
          { thresholds with minToolCallSuccessRateTiers := tiers } (some p)) ∧
    (∀ thresholds : HealthCheckThresholds,
      TierLaw HealthCheckTimeoutTier.maxParamsBillions HealthCheckTimeoutTier.timeoutSeconds
        fun tiers p => resolveHealthCheckTimeoutSeconds
          { thresholds with healthCheckTimeoutSecondsTiers := tiers } (some p)) ∧
    (∀ flatMs, TierLaw HealthCheckTimeoutTier.maxParamsBillions (fun t => t.timeoutSeconds * 1000)
      fun tiers p => resolveHealthCheckTimeoutMsFromTiers tiers flatMs (some p)) ∧
    ∀ (thresholds : HealthCheckThresholds) (flatMs p : ℚ), 0 < p →
      (thresholds.healthCheckTimeoutSecondsTiers ≠ [] ∨
        flatMs = 1000 * thresholds.healthCheckTimeoutSeconds) →
      resolveHealthCheckTimeoutMsFromTiers thresholds.healthCheckTimeoutSecondsTiers flatMs
        (some p) = 1000 * resolveHealthCheckTimeoutSeconds thresholds (some p) :=
  ⟨fun _ => resolveTier_law, fun _ => resolveTier_law, fun _ => resolveTier_law,
    fun _ => law_of_cover fun _ _ => resolveHealthCheckTimeoutMs_eq,
    fun _ _ _ => timeoutMs_eq_seconds⟩

end Benchmarker
