import Mathlib.Algebra.Order.Ring.Unbundled.Rat
import Benchmarker.Benchmark.Parser
import Benchmarker.Stage2.SuiteRunner

/-!
# The benchmark runner

`BenchmarkRunnerService.runBenchmarks`: one run of `vllm bench serve` for each concurrency level, and the
thresholds that the runs are held against. What the SSH pool answers to a command is a parameter.

* `ItlThresholds`, `resolveMaxITLMs`; `resolveMaxITLMs_pos`.
* `BenchmarkRunResult`: a run; a failed one has empty metrics. `runSingleBenchmark`.
* `evaluateThresholds`, `runBenchmarks`; **`passed_iff`**: when the runs pass.
-/

namespace Benchmarker

open Js

/-! ## Thresholds -/

/-- `BenchmarkThresholds`, with the ITL limits, which the schema asks to be positive. -/
structure ItlThresholds extends BenchmarkThresholds where
  maxITLMs : ℚ
  maxITLMsTiers : List ItlTier
  maxITLMs_pos : 0 < maxITLMs
  tiers_pos : ∀ tier ∈ maxITLMsTiers, 0 < tier.maxITLMs

def resolveMaxITLMs (thresholds : ItlThresholds) : Option ℚ → ℚ :=
  resolveTier ItlTier.maxParamsBillions ItlTier.maxITLMs thresholds.maxITLMsTiers thresholds.maxITLMs

/-- A resolved value is the fallback or the value of a tier. -/
theorem resolveTier_eq {τ : Type} (maxParamsBillions : τ → WithTop ℚ) (value : τ → ℚ)
    (tiers : List τ) (flat : ℚ) (params : Option ℚ) :
    resolveTier maxParamsBillions value tiers flat params = flat ∨
      ∃ tier ∈ tiers, resolveTier maxParamsBillions value tiers flat params = value tier := by
  unfold resolveTier
  cases params.filter (0 < ·) with
  | none => exact .inl rfl
  | some p =>
    dsimp only
    set sorted := tiers.insertionSort fun a b => maxParamsBillions a ≤ maxParamsBillions b
    have hmem : ∀ tier ∈ sorted, tier ∈ tiers := fun tier => (List.mem_insertionSort _).mp
    cases hfind : sorted.find? fun tier => p ≤ maxParamsBillions tier with
    | some tier => exact .inr ⟨tier, hmem tier (List.mem_of_find?_eq_some hfind), rfl⟩
    | none =>
      cases hlast : sorted.getLast? with
      | none => exact .inl rfl
      | some tier => exact .inr ⟨tier, hmem tier (List.mem_of_getLast? hlast), rfl⟩

theorem resolveMaxITLMs_pos (thresholds : ItlThresholds) (params : Option ℚ) :
    0 < resolveMaxITLMs thresholds params := by
  rcases resolveTier_eq ItlTier.maxParamsBillions ItlTier.maxITLMs thresholds.maxITLMsTiers
    thresholds.maxITLMs params with h | ⟨tier, htier, h⟩
  · rw [resolveMaxITLMs, h]
    exact thresholds.maxITLMs_pos
  · rw [resolveMaxITLMs, h]
    exact thresholds.tiers_pos tier htier

/-! ## Single runs -/

/-- What `sshPool.exec` returns. -/
structure CommandResult where
  stdout : String
  stderr : String
  exitCode : Option ℤ
  success : Bool
  durationMs : ℚ
  deriving DecidableEq

def createEmptyMetrics (concurrencyLevel : ℕ) : BenchmarkMetrics where
  itlMs := 0
  ttftMs := 0
  throughputTokensPerSec := 0
  p99LatencyMs := 0
  concurrencyLevel := concurrencyLevel

/-- A run at one concurrency level. Its metrics are those of its level, and empty if it failed. -/
structure BenchmarkRunResult where
  concurrencyLevel : ℕ
  metrics : BenchmarkMetrics
  rawOutput : String
  durationMs : ℚ
  success : Bool
  error : Option String := none
  level_eq : metrics.concurrencyLevel = concurrencyLevel
  empty_of_failed : success = false → metrics = createEmptyMetrics concurrencyLevel

/-- A run that failed. -/
def failedRun (concurrencyLevel : ℕ) (rawOutput : String) (durationMs : ℚ) (error : String) :
    BenchmarkRunResult where
  concurrencyLevel := concurrencyLevel
  metrics := createEmptyMetrics concurrencyLevel
  rawOutput := rawOutput
  durationMs := durationMs
  success := false
  error := some error
  level_eq := rfl
  empty_of_failed _ := rfl

/-- A run whose output was parsed. -/
def parsedRun (concurrencyLevel : ℕ) (m : ExtractedMetrics) (rawOutput : String) (durationMs : ℚ) :
    BenchmarkRunResult where
  concurrencyLevel := concurrencyLevel
  metrics := m.toMetrics concurrencyLevel
  rawOutput := rawOutput
  durationMs := durationMs
  success := true
  level_eq := rfl
  empty_of_failed h := Bool.noConfusion h

/-- `[result.stdout, result.stderr].filter(Boolean).join('\n')`. -/
def CommandResult.combinedOutput (r : CommandResult) : String :=
  "\n".intercalate ([r.stdout, r.stderr].filter (· ≠ ""))

section Runs

variable (jsonParse : String → Option Json)

/-- `runSingleBenchmark`; the command may throw. -/
def runSingleBenchmark (concurrencyLevel : ℕ) : Except String CommandResult → BenchmarkRunResult
  | .error errorMessage =>
    failedRun concurrencyLevel errorMessage 0 ("SSH execution failed: " ++ errorMessage)
  | .ok result =>
    let combinedOutput := result.combinedOutput
    let parseResult := parseBenchmarkOutput jsonParse combinedOutput concurrencyLevel
    if parseResult.success then
      parsedRun concurrencyLevel (extracted jsonParse combinedOutput) combinedOutput result.durationMs
    else if result.success then
      failedRun concurrencyLevel combinedOutput result.durationMs
        ("Failed to parse output: " ++ "; ".intercalate parseResult.errors)
    else
      failedRun concurrencyLevel combinedOutput result.durationMs
        ("Benchmark exited with code " ++ (result.exitCode.map toString).getD "null" ++ ": " ++
          sliceTo 200 result.stderr)

/-- **A run whose command returned**: it is parsed if its output has the minimum metrics. -/
theorem runSingleBenchmark_ok (concurrencyLevel : ℕ) (result : CommandResult) :
    let m := extracted jsonParse result.combinedOutput
    (m.hasMinimumMetrics = true ∧ runSingleBenchmark jsonParse concurrencyLevel (.ok result) =
      parsedRun concurrencyLevel m result.combinedOutput result.durationMs) ∨
    (m.hasMinimumMetrics = false ∧ ∃ error, runSingleBenchmark jsonParse concurrencyLevel (.ok result) =
      failedRun concurrencyLevel result.combinedOutput result.durationMs error) := by
  obtain ⟨errors, hparse⟩ :=
    metrics_parseBenchmarkOutput jsonParse result.combinedOutput concurrencyLevel
  have hsuccess : (parseBenchmarkOutput jsonParse result.combinedOutput concurrencyLevel).success =
      (extracted jsonParse result.combinedOutput).hasMinimumMetrics := by rw [hparse]; rfl
  unfold runSingleBenchmark
  dsimp only
  rw [hsuccess]
  by_cases hmin : (extracted jsonParse result.combinedOutput).hasMinimumMetrics = true
  · exact .inl ⟨hmin, if_pos hmin⟩
  · refine .inr ⟨Bool.eq_false_iff.mpr hmin, ?_⟩
    rw [if_neg hmin]
    by_cases hexit : result.success = true
    · exact ⟨_, if_pos hexit⟩
    · exact ⟨_, if_neg hexit⟩

end Runs

/-! ## Thresholds of a suite of runs -/

/-- The reasons for a rejection. -/
inductive ThresholdReason
  | noSuccessfulRuns
  | missingSingleUserRun
  | itl (itlMs maxITLMs : ℚ)
  | p99 (concurrencyLevel : ℕ) (p99LatencyMs maxP99Ms : ℚ)
  | failedLevels (levels : List ℕ)
  | noMetrics
  deriving DecidableEq

/-- The text of a reason; `fixed` is `toFixed(2)`, and `number` prints a number. -/
def ThresholdReason.text (fixed number : ℚ → String) : ThresholdReason → String
  | noSuccessfulRuns => "No successful benchmark runs completed"
  | missingSingleUserRun => "Missing successful concurrency=1 run required for floor"
  | itl itlMs maxITLMs =>
    "ITL at concurrency=1 (" ++ fixed itlMs ++ "ms) exceeds threshold (" ++ number maxITLMs ++ "ms)"
  | p99 level p99LatencyMs maxP99Ms =>
    "P99 latency at concurrency=" ++ toString level ++ " (" ++ fixed p99LatencyMs ++
      "ms) exceeds threshold (" ++ number maxP99Ms ++ "ms)"
  | failedLevels levels =>
    "Benchmark failed at concurrency level(s): " ++ ", ".intercalate (levels.map toString)
  | noMetrics => "No benchmark metrics"

/-- The loop over the P99 latencies. -/
def p99Reasons (maxITLMs : ℚ) (metrics : List BenchmarkMetrics) : List ThresholdReason :=
  (metrics.filter fun m => m.p99LatencyMs > maxITLMs * 10).map fun m =>
    .p99 m.concurrencyLevel m.p99LatencyMs (maxITLMs * 10)

/-- `evaluateThresholds`. -/
def evaluateThresholds (runs : List BenchmarkRunResult) (thresholds : ItlThresholds)
    (parameterCountBillions : Option ℚ) : List ThresholdReason × Bool :=
  let successfulRuns := runs.filter (·.success)
  if successfulRuns.isEmpty then ([.noSuccessfulRuns], false)
  else
    let maxITLMs := resolveMaxITLMs thresholds parameterCountBillions
    let singleUser := match successfulRuns.find? fun r => r.concurrencyLevel = 1 with
      | none => [.missingSingleUserRun]
      | some run =>
        if run.metrics.itlMs > maxITLMs then [.itl run.metrics.itlMs maxITLMs] else []
    let failedRuns := runs.filter fun r => !r.success
    let failed := if failedRuns.isEmpty then []
      else [.failedLevels (failedRuns.map (·.concurrencyLevel))]
    let reasons := singleUser ++ p99Reasons maxITLMs (successfulRuns.map (·.metrics)) ++ failed
    (reasons, reasons.isEmpty)

/-- `FullBenchmarkResult`. -/
structure FullBenchmarkResult where
  modelId : String
  runs : List BenchmarkRunResult
  combinedRawOutput : String
  allSucceeded : Bool
  rejectionReasons : List ThresholdReason
  passed : Bool

/-- `runBenchmarks`, of its finished runs. -/
def runBenchmarks (modelId : String) (runs : List BenchmarkRunResult) (thresholds : ItlThresholds)
    (parameterCountBillions : Option ℚ) : FullBenchmarkResult :=
  let allSucceeded := runs.all (·.success)
  let evaluation := evaluateThresholds runs thresholds parameterCountBillions
  { modelId := modelId
    runs := runs
    combinedRawOutput := "\n".intercalate (runs.map fun r =>
      "\n=== Concurrency Level: " ++ toString r.concurrencyLevel ++ " ===\n" ++ r.rawOutput)
    allSucceeded := allSucceeded
    rejectionReasons := evaluation.1
    passed := allSucceeded && evaluation.2 }

/-- What the engine returns of it. -/
def FullBenchmarkResult.toEngine (fixed number : ℚ → String) (r : FullBenchmarkResult) :
    EngineFullBenchmarkResult where
  runs := r.runs.map fun run => ⟨run.metrics, run.success⟩
  combinedRawOutput := r.combinedRawOutput
  rejectionReasons := r.rejectionReasons.map (ThresholdReason.text fixed number)
  passed := r.passed

/-! ## When the runs pass -/

section Passed

variable {runs : List BenchmarkRunResult} {thresholds : ItlThresholds} {params : Option ℚ}

/-- No metrics exceed the limits that follow from an ITL limit. -/
def WithinLimits (maxITLMs : ℚ) (metrics : List BenchmarkMetrics) : Prop :=
  (∀ m, (metrics.find? fun m => m.concurrencyLevel = 1) = some m → m.itlMs ≤ maxITLMs) ∧
    ∀ m ∈ metrics, m.p99LatencyMs ≤ maxITLMs * 10

theorem p99Reasons_eq_nil {maxITLMs : ℚ} {metrics : List BenchmarkMetrics} :
    p99Reasons maxITLMs metrics = [] ↔ ∀ m ∈ metrics, m.p99LatencyMs ≤ maxITLMs * 10 := by
  rw [p99Reasons, List.map_eq_nil_iff, List.filter_eq_nil_iff]
  refine forall₂_congr fun m _ => ?_
  rw [decide_eq_true_eq, gt_iff_lt, not_lt]

/-- **When the thresholds are met**: every run succeeded, one of them at concurrency 1, and no metrics
exceed the limits. -/
theorem evaluateThresholds_passed : (evaluateThresholds runs thresholds params).2 = true ↔
    (∀ r ∈ runs, r.success = true) ∧ (∃ r ∈ runs, r.concurrencyLevel = 1) ∧
      WithinLimits (resolveMaxITLMs thresholds params) (runs.map (·.metrics)) := by
  unfold evaluateThresholds
  by_cases hall : ∀ r ∈ runs, r.success = true
  · have hself : runs.filter (·.success) = runs := List.filter_eq_self.mpr hall
    have hnone : (runs.filter fun r => !r.success) = [] :=
      List.filter_eq_nil_iff.mpr fun r hr => by rw [hall r hr]; exact Bool.false_ne_true
    have hlevel : ((runs.map (·.metrics)).find? fun m => m.concurrencyLevel = 1) =
        (runs.find? fun r => r.concurrencyLevel = 1).map (·.metrics) := by
      rw [List.find?_map]
      congr 2
      funext r
      rw [Function.comp, r.level_eq]
    rw [hself, hnone]
    dsimp only
    by_cases hempty : runs.isEmpty = true
    · rw [if_pos hempty, List.isEmpty_iff.mp hempty]
      exact iff_of_false Bool.false_ne_true fun h => by
        obtain ⟨r, hr, -⟩ := h.2.1
        cases hr
    · rw [if_neg hempty, if_pos List.isEmpty_nil, List.append_nil, List.isEmpty_iff,
        List.append_eq_nil_iff, p99Reasons_eq_nil, WithinLimits, hlevel]
      cases hfind : runs.find? fun r => r.concurrencyLevel = 1 with
      | none =>
        refine iff_of_false (fun h => List.cons_ne_nil _ _ h.1) fun h => ?_
        obtain ⟨r, hr, hr1⟩ := h.2.1
        exact List.find?_eq_none.mp hfind r hr (decide_eq_true hr1)
      | some run =>
        have hone : ∃ r ∈ runs, r.concurrencyLevel = 1 :=
          ⟨run, List.mem_of_find?_eq_some hfind, by simpa using List.find?_some hfind⟩
        rw [and_iff_right hall, and_iff_right hone, Option.map_some]
        refine and_congr_left' ?_
        by_cases hitl : run.metrics.itlMs > resolveMaxITLMs thresholds params
        · dsimp only
          rw [if_pos hitl]
          exact iff_of_false (List.cons_ne_nil _ _) fun h => not_le.mpr hitl (h _ rfl)
        · dsimp only
          rw [if_neg hitl]
          exact iff_of_true rfl fun m hm => Option.some.inj hm ▸ not_lt.mp hitl
  · refine iff_of_false ?_ fun h => hall h.1
    have hsome : ¬(runs.filter fun r => !r.success).isEmpty = true := by
      rw [List.isEmpty_iff, List.filter_eq_nil_iff]
      exact fun h => hall fun r hr => by simpa using h r hr
    dsimp only
    by_cases hempty : (runs.filter (·.success)).isEmpty = true
    · rw [if_pos hempty]
      exact Bool.false_ne_true
    · rw [if_neg hempty, if_neg hsome, List.isEmpty_iff]
      exact fun h => List.cons_ne_nil _ _ (List.append_eq_nil_iff.mp h).2

/-- **When the runs pass.** -/
theorem passed_iff {modelId : String} : (runBenchmarks modelId runs thresholds params).passed = true ↔
    (∀ r ∈ runs, r.success = true) ∧ (∃ r ∈ runs, r.concurrencyLevel = 1) ∧
      WithinLimits (resolveMaxITLMs thresholds params) (runs.map (·.metrics)) := by
  rw [runBenchmarks, Bool.and_eq_true, evaluateThresholds_passed, List.all_eq_true]
  exact and_iff_right_of_imp And.left

end Passed

end Benchmarker
