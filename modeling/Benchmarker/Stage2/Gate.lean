import Mathlib.Algebra.Order.Ring.Unbundled.Rat
import Benchmarker.Scheduler.Stage1

/-!
# The Stage 2 gate

`Stage2Gate.check`, which the Stage 2 workers ask about a Stage 1 result, and the table of parameter
counts that it falls back on.

* `modelParams`, `getModelParamsBillions`.
* `GateReason`, `GateDecision`, `stage2GateCheck`; **`stage2GateCheck_proceed`**: when it lets a result
  proceed.
-/

namespace Benchmarker

/-- `MODEL_PARAMS`. -/
def modelParams : List (String × ℚ) := [
  ("Qwen/Qwen3-4B-Instruct-2507", 4),
  ("cyankiwi/Qwen3-Next-80B-A3B-Instruct-AWQ-4bit", 80),
  ("AIDXteam/Qwen3-235B-A22B-Instruct-2507-AWQ", 235),
  ("arcee-ai/Trinity-Nano-Preview", 3),
  ("Qwen/Qwen3-30B-A3B-Instruct-2507", 30),
  ("mistralai/Devstral-Small-2-24B-Instruct-2512", 24),
  ("mistralai/Ministral-3-14B-Instruct-2512", 14),
  ("nvidia/Llama-3.1-Nemotron-Nano-8B-v1", 8),
  ("NousResearch/Hermes-3-Llama-3.1-8B", 8),
  ("Salesforce/Llama-xLAM-2-8b-fc-r", 8),
  ("mistralai/Mistral-Nemo-Instruct-2407", 12),
  ("zai-org/GLM-4.7-Flash", 4.7),
  ("casperhansen/llama-3.3-70b-instruct-awq", 70),
  ("mistralai/Mistral-Small-3.2-24B-Instruct-2506", 24),
  ("Qwen/Qwen2.5-32B-Instruct", 32),
  ("ai21labs/AI21-Jamba2-3B", 3),
  ("ai21labs/AI21-Jamba-Reasoning-3B", 3),
  ("Alibaba-NLP/Tongyi-DeepResearch-30B-A3B", 30),
  ("Qwen/Qwen3-4B-Thinking-2507", 4),
  ("openbmb/AgentCPM-Explore", 8),
  ("Qwen/Qwen2.5-72B-Instruct", 72),
  ("LiquidAI/LFM2.5-1.2B-Instruct", 1.2),
  ("openai/gpt-oss-20b", 20),
  ("nvidia/NVIDIA-Nemotron-3-Nano-30B-A3B", 30),
  ("microsoft/Phi-4-mini-instruct", 4),
  ("QuantTrio/Qwen3-Coder-30B-A3B-Instruct-AWQ", 30),
  ("Qwen/Qwen3-Coder-30B-A3B-Instruct", 30),
  ("casperhansen/deepseek-r1-distill-llama-70b-awq", 70),
  ("deepseek-ai/DeepSeek-R1-0528-Qwen3-8B", 8),
  ("ibm-granite/granite-4.0-h-small", 8),
  ("deepseek-ai/DeepSeek-R1-Distill-Qwen-14B", 14),
  ("deepseek-ai/DeepSeek-Coder-V2-Lite", 16),
  ("mistralai/Magistral-Small-2509", 24),
  ("tiiuae/Falcon-H1-34B-Instruct", 34),
  ("arcee-ai/Trinity-Mini", 1.5),
  ("zai-org/GLM-4-32B-0414", 32),
  ("deepseek-ai/DeepSeek-R1-Distill-Qwen-32B", 32),
  ("microsoft/Phi-3-mini-128k-instruct", 3.8),
  ("THUDM/glm-4-9b-chat-1m", 9),
  ("google/gemma-3-27b-it", 27),
  ("google/gemma-3-12b-it", 12),
  ("deepseek-ai/DeepSeek-Coder-V2-Lite-Instruct", 16),
  ("Qwen/Qwen3-235B-A22B-Instruct-2507-FP8", 235),
  ("deepseek-ai/DeepSeek-V3-Base", 671),
  ("deepseek-ai/DeepSeek-V3.2", 685),
  ("MiniMaxAI/MiniMax-M1-40k", 456),
  ("MiniMaxAI/MiniMax-Text-01-hf", 456),
  ("MiniMaxAI/MiniMax-M2.1", 228),
  ("XiaomiMiMo/MiMo-V2-Flash", 309),
  ("Qwen/Qwen3-Next-80B-A3B-Instruct", 80),
  ("meta-llama/Llama-3.3-70B-Instruct", 70),
  ("moonshotai/Kimi-Linear-48B-A3B-Instruct", 48),
  ("moonshotai/Kimi-K2-Instruct", 1000),
  ("moonshotai/Kimi-K2-Thinking", 1000),
  ("NousResearch/Hermes-4.3-36B", 36),
  ("ByteDance-Seed/Seed-OSS-36B-Instruct", 36),
  ("01-ai/Yi-34B-200K", 34),
  ("meta-llama/Llama-4-Scout-17B-16E-Instruct", 109),
  ("meta-llama/Llama-4-Maverick-17B-128E-Instruct", 400),
  ("NousResearch/Meta-Llama-3.1-70B-Instruct", 70),
  ("zai-org/GLM-4.7", 358),
  ("meta-llama/Llama-3.1-8B-Instruct", 8),
  ("CohereForAI/c4ai-command-r-08-2024", 35),
  ("google/gemma-3-4b-it", 4),
  ("LGAI-EXAONE/K-EXAONE-236B-A23B", 236),
  ("cerebras/GLM-4.7-Flash-REAP-23B-A3B", 23),
  ("Qwen/Qwen3-32B", 32),
  ("Qwen/Qwen3-8B", 8),
  ("Qwen/Qwen2.5-14B-Instruct", 14),
  ("Qwen/Qwen2.5-72B-Instruct-AWQ", 72),
  ("Qwen/Qwen2.5-Coder-32B-Instruct", 32),
  ("kakaocorp/kanana-2-30b-a3b-instruct-2601", 30),
  ("mistralai/Mistral-7B-Instruct-v0.2", 7),
  ("mistralai/Mistral-Small-24B-Instruct-2501", 24),
  ("stelterlab/Mistral-Small-24B-Instruct-2501-AWQ", 24),
  ("mistralai/Codestral-22B-v0.1", 22),
  ("nvidia/Nemotron-Orchestrator-8B", 8),
  ("nvidia/Nemotron-Cascade-14B-Thinking", 14),
  ("internlm/internlm2-chat-20b", 20),
  ("google/gemma-3-1b-it", 1),
  ("google/gemma-2-9b-it", 9),
  ("google/gemma-2-27b-it", 27),
  ("google/functiongemma-270m-it", 0.27),
  ("HuggingFaceTB/SmolLM2-1.7B-Instruct", 1.7),
  ("HuggingFaceTB/SmolLM3-3B", 3),
  ("NousResearch/Hermes-4-14B", 14),
  ("allenai/Olmo-3.1-32B-Instruct", 32),
  ("allenai/OLMo-2-1124-13B-Instruct", 13),
  ("stabilityai/stablelm-2-zephyr-1_6b", 1.6),
  ("microsoft/Phi-4", 14),
  ("LGAI-EXAONE/EXAONE-3.5-2.4B-Instruct", 2.4),
  ("tencent/Hunyuan-A13B-Instruct", 53)]

def getModelParamsBillions (modelId : String) : Option ℚ := modelParams.lookup modelId

/-- The reasons that `check` gives. -/
inductive GateReason
  | skippedStage1
  | notEligible
  | noMetrics
  | itl (itlP50Ms maxItlP50Ms : ℚ)
  | throughput (throughputTps minThroughputTps : ℚ)
  | ttft (ttftMs maxTtftMs : ℚ)
  | allPassed
  deriving DecidableEq

/-- The text of a reason, given the text of a number. -/
def GateReason.text (number : ℚ → String) : GateReason → String
  | skippedStage1 => "Stage 1 skipped (eval-only/resume)"
  | notEligible => "Failed Stage 1 eligibility gate (see stage2Eligible metrics)"
  | noMetrics => "No metrics available"
  | itl itlP50Ms maxItlP50Ms =>
    "ITL p50 (" ++ number itlP50Ms ++ "ms) exceeds threshold (" ++ number maxItlP50Ms ++ "ms)"
  | throughput throughputTps minThroughputTps =>
    "Throughput (" ++ number throughputTps ++ " tps) below threshold (" ++
      number minThroughputTps ++ " tps)"
  | ttft ttftMs maxTtftMs =>
    "TTFT (" ++ number ttftMs ++ "ms) exceeds threshold (" ++ number maxTtftMs ++ "ms)"
  | allPassed => "All thresholds passed"

structure GateDecision where
  proceed : Bool
  reason : GateReason
  deriving DecidableEq

/-- The parameter count that the gate derives its ITL limit from. -/
def gateParamBillions (result : Stage1Result) : Option ℚ :=
  result.parameterCountBillions.or (getModelParamsBillions result.modelId)

/-- `Stage2Gate.check`. -/
def stage2GateCheck (thresholds : Stage2Thresholds) (result : Stage1Result) : GateDecision :=
  if result.status = .skipped ∧ result.stage2Eligible ≠ some false then ⟨true, .skippedStage1⟩
  else if result.stage2Eligible = some false then ⟨false, .notEligible⟩
  else
    match result.metrics with
    | none => ⟨false, .noMetrics⟩
    | some metrics =>
      let maxItlP50Ms := resolveMaxItlP50Ms thresholds (gateParamBillions result)
      if metrics.itlP50Ms > maxItlP50Ms then ⟨false, .itl metrics.itlP50Ms maxItlP50Ms⟩
      else if metrics.throughputTps < thresholds.minThroughputTps then
        ⟨false, .throughput metrics.throughputTps thresholds.minThroughputTps⟩
      else if metrics.ttftMs > thresholds.maxTtftMs then
        ⟨false, .ttft metrics.ttftMs thresholds.maxTtftMs⟩
      else ⟨true, .allPassed⟩

section Check

variable {thresholds : Stage2Thresholds} {result : Stage1Result}

/-- A skipped Stage 1 proceeds unless it is marked as not eligible. -/
theorem proceed_of_skipped (hs : result.status = .skipped)
    (he : result.stage2Eligible ≠ some false) :
    (stage2GateCheck thresholds result).proceed = true := by
  unfold stage2GateCheck
  rw [if_pos ⟨hs, he⟩]

/-- A result that is marked as not eligible never proceeds. -/
theorem not_proceed_of_not_eligible (he : result.stage2Eligible = some false) :
    (stage2GateCheck thresholds result).proceed = false := by
  unfold stage2GateCheck
  rw [if_neg fun h => h.2 he, if_pos he]

/-- **When the gate lets a measured result proceed.** -/
theorem stage2GateCheck_proceed (hs : result.status ≠ .skipped)
    (he : result.stage2Eligible ≠ some false) :
    (stage2GateCheck thresholds result).proceed = true ↔ ∃ metrics, result.metrics = some metrics ∧
      metrics.itlP50Ms ≤ resolveMaxItlP50Ms thresholds (gateParamBillions result) ∧
      thresholds.minThroughputTps ≤ metrics.throughputTps ∧ metrics.ttftMs ≤ thresholds.maxTtftMs := by
  unfold stage2GateCheck
  rw [if_neg fun h => hs h.1, if_neg he]
  cases hm : result.metrics with
  | none => simp
  | some metrics =>
    dsimp only
    split_ifs with hitl htps httft
    · simp [not_le.mpr hitl]
    · simp [not_le.mpr htps]
    · simp [not_le.mpr httft]
    · simp [not_lt.mp hitl, not_lt.mp htps, not_lt.mp httft]

end Check

end Benchmarker
