import Benchmarker.Benchmark.Runner
import Benchmarker.Stage2.Gate
import Benchmarker.Scheduler.Teardown

/-!
# The tool-calling criterion

`ModelEvaluationEngine.evaluateToolCalling`, a hard requirement on a stored result, beside the tool-call
gate of Stage 1.

* `ModelEvaluationEngine`, `evaluateToolCalling`; `evaluateToolCalling_passed`.
* `toolCallGatePassed`; `stage2Gate_toolCalls`: its part in Stage 2 eligibility.
* **`toolCalling_agreement`**: when the criterion and the gate agree.
-/

namespace Benchmarker

/-! ## The evaluation engine -/

/-- `ModelEvaluationOptions`, the parts that the tool-calling criterion depends on. -/
structure ModelEvaluationOptions where
  minToolCallSuccessRate : Option ℚ := none
  minParallelToolCallSuccessRate : Option ℚ := none
  benchmarkThresholds : Option BenchmarkThresholds := none
  deriving DecidableEq

structure ModelEvaluationEngine where
  minToolCallSuccessRate : ℚ
  benchmarkThresholds : Option BenchmarkThresholds
  deriving DecidableEq

/-- `DEFAULT_MIN_TOOL_CALL_SUCCESS_RATE`. -/
def defaultMinToolCallSuccessRate : ℚ := 1

/-- `new ModelEvaluationEngine(…)`. -/
def newModelEvaluationEngine (options : ModelEvaluationOptions) : ModelEvaluationEngine where
  minToolCallSuccessRate := (options.minToolCallSuccessRate.or
    options.minParallelToolCallSuccessRate).getD defaultMinToolCallSuccessRate
  benchmarkThresholds := options.benchmarkThresholds

/-- `ModelEvaluationEngine.fromConfig`. -/
def engineFromConfig (thresholds : BenchmarkThresholds) : ModelEvaluationEngine :=
  newModelEvaluationEngine {
    minToolCallSuccessRate := some thresholds.minToolCallSuccessRate
    benchmarkThresholds := some thresholds }

structure CriterionEvaluation where
  criterion : String
  description : String
  passed : Bool
  severity : String
  actualValue : String
  requiredValue : String
  message : String
  deriving DecidableEq

/-- `minRate`. -/
def ModelEvaluationEngine.minRate (engine : ModelEvaluationEngine) (modelId : String) : ℚ :=
  match engine.benchmarkThresholds with
  | some thresholds => resolveMinToolCallSuccessRate thresholds (getModelParamsBillions modelId)
  | none => engine.minToolCallSuccessRate

/-- `evaluateToolCalling`; `fixed d` is `toFixed(d)`, and `number` prints a number. -/
def evaluateToolCalling (fixed : ℕ → ℚ → String) (number : ℚ → String)
    (engine : ModelEvaluationEngine) (result : BenchmarkResult) : CriterionEvaluation :=
  let paramBillions := getModelParamsBillions result.modelId
  let minRate := engine.minRate result.modelId
  let required := fixed 0 (minRate * 100) ++ "%"
  match result.toolCallResults with
  | none => {
      criterion := "tool_calling"
      description := "Single-tool calling success rate >= " ++ required
      passed := false
      severity := "HARD"
      actualValue := "no tool call data"
      requiredValue := "success rate >= " ++ required
      message := "No tool call benchmark data available for model " ++ result.modelId ++
        ". Cannot verify hard requirement." }
  | some toolCallResults =>
    let successRate := toolCallResults.successRate
    let passed : Bool := successRate ≥ minRate
    let percent := fixed 1 (successRate * 100) ++ "%"
    { criterion := "tool_calling"
      description := "Single-tool calling success rate >= " ++ required
      passed := passed
      severity := "HARD"
      actualValue := percent ++ " success rate (" ++ toString toolCallResults.totalTests ++ " tests)"
      requiredValue := "success rate >= " ++ required
      message :=
        if passed then "Tool calling meets requirement with " ++ percent ++ " success rate"
        else "Tool calling success rate " ++ percent ++ " is below the required " ++ required ++
          ((paramBillions.filter (· ≠ 0)).map fun p => " (~" ++ number p ++ "B tier)").getD "" }

/-! ## The gate of Stage 1 -/

/-- `toolCallGatePassed`. -/
def toolCallGatePassed (config : AppConfig) (paramBillions : Option ℚ)
    (toolCallResults : Option ToolCallResult) : Bool :=
  (gateSuccessRate toolCallResults).all
    (· ≥ resolveMinToolCallSuccessRate config.benchmarkThresholds paramBillions)

/-- Eligibility asks for the tool-call gate, which an absent result passes. -/
theorem stage2Gate_toolCalls (config : AppConfig) (paramBillions : Option ℚ)
    (metrics : List BenchmarkMetrics) (contextWindow : ℕ) (toolCallResults : Option ToolCallResult) :
    stage2Gate config paramBillions metrics contextWindow toolCallResults =
      (stage2Gate config paramBillions metrics contextWindow none &&
        toolCallGatePassed config paramBillions toolCallResults) := by
  have hnone : (gateSuccessRate none).all
      (· ≥ resolveMinToolCallSuccessRate config.benchmarkThresholds paramBillions) = true := rfl
  unfold stage2Gate toolCallGatePassed
  rw [hnone, Bool.and_true]

/-! ## Agreement -/

section Agreement

variable {deps : SchedulerDeps} {run : PipelineRun} {modelInfo : ModelInfo}
variable {deployment : EngineDeploymentResult} {bench : EngineFullBenchmarkResult}
variable {toolCallResults : Option ToolCallResult} {timestamp : Time}
variable (fixed : ℕ → ℚ → String) (number : ℚ → String) (engine : ModelEvaluationEngine)

/-- The criterion of the result that Stage 1 has stored. -/
theorem evaluateToolCalling_passed : (evaluateToolCalling fixed number engine
    (benchmarkRecord deps run modelInfo deployment bench toolCallResults timestamp)).passed =
      toolCallResults.any fun t => t.successRate ≥ engine.minRate run.modelId := by
  cases toolCallResults <;> rfl

/-- An engine made from the configuration resolves the floor of Stage 1 if the table has the
parameter count of the model card. -/
theorem minRate_fromConfig (h : getModelParamsBillions run.modelId = modelInfo.paramBillions) :
    (engineFromConfig deps.config.benchmarkThresholds).minRate run.modelId =
      resolveMinToolCallSuccessRate deps.config.benchmarkThresholds modelInfo.paramBillions := by
  rw [← h]
  rfl

/-- **The criterion and the gate.** An absent result fails the criterion and passes the gate. A result
whose single-tool rate is its overall rate is judged alike, if both sides resolve the same floor. -/
theorem toolCalling_agreement :
    (toolCallResults = none →
      (evaluateToolCalling fixed number engine
        (benchmarkRecord deps run modelInfo deployment bench toolCallResults timestamp)).passed = false ∧
      toolCallGatePassed deps.config modelInfo.paramBillions toolCallResults = true) ∧
    ∀ t, toolCallResults = some t → t.singleToolSuccessRate.getD t.successRate = t.successRate →
      engine.minRate run.modelId =
        resolveMinToolCallSuccessRate deps.config.benchmarkThresholds modelInfo.paramBillions →
      (evaluateToolCalling fixed number engine
        (benchmarkRecord deps run modelInfo deployment bench toolCallResults timestamp)).passed =
        toolCallGatePassed deps.config modelInfo.paramBillions toolCallResults := by
  rw [evaluateToolCalling_passed]
  refine ⟨fun h => ?_, fun t h hrate hfloor => ?_⟩
  · rw [h]
    exact ⟨rfl, rfl⟩
  · rw [h, Option.any_some, hfloor, toolCallGatePassed, gateSuccessRate, Option.map_some, hrate,
      Option.all_some]

end Agreement

/-! ## A result without tool calls -/

/-- A model that neither side has a parameter count of. -/
def unknownModel : ModelInfo := ⟨"m", "m", "llama", 8192, "mit", none, [], false⟩

/-- What Stage 1 stores of it. -/
def unknownResult (toolCallResults : Option ToolCallResult) : BenchmarkResult :=
  benchmarkRecord oneSuiteDeps ⟨"run", "m", 0, 0, none, none, none, none, none, none⟩ unknownModel
    oneDeployment ⟨[], "", [], true⟩ toolCallResults 0

/-- The engine of the configuration. -/
def configuredEngine : ModelEvaluationEngine :=
  engineFromConfig oneSuiteDeps.config.benchmarkThresholds

/-- An absent result fails the criterion of the configured engine and passes the gate. -/
theorem absent_disagrees :
    (evaluateToolCalling (fun _ _ => "") (fun _ => "") configuredEngine (unknownResult none)).passed ≠
      toolCallGatePassed oneSuiteDeps.config unknownModel.paramBillions none := by
  decide +kernel

/-- A result without a single-tool rate is judged alike. -/
theorem unknown_agrees :
    (evaluateToolCalling (fun _ _ => "") (fun _ => "") configuredEngine
      (unknownResult (some ⟨9 / 10, none, 5⟩))).passed =
      toolCallGatePassed oneSuiteDeps.config unknownModel.paramBillions (some ⟨9 / 10, none, 5⟩) :=
  (toolCalling_agreement (fun _ _ => "") (fun _ => "") configuredEngine).2 _ rfl rfl
    (by decide +kernel)

end Benchmarker
