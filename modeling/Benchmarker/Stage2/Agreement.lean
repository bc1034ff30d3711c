import Benchmarker.Scheduler.Teardown
import Benchmarker.Stage2.Gate

/-!
# The worker's gate and the gate of Stage 2

Stage 1 decides on Stage 2 with strict comparisons and the parameter count of the parsed card;
`Stage2Gate.check` repeats a part of that with non-strict ones and, where the count is unknown, the one
of its own table.

* `parsedCard`, `runs_stage1Prepare_card`, `runs_stage1Measure_filled`: a Stage 1 that has not thrown.
* `GateAgrees`, `gateAgrees_of_paramCount`: on one parameter count the gate repeats the decision.
* **`gateAgrees_iff`**: when they agree. **`gate_overrules`**: a run on which they do not.
-/

namespace Benchmarker

open Js Async Async.Prog

section Agreement

variable {W : Type} {deps : SchedulerDeps} {run : PipelineRun} {es fs : List (Event SchedAns W)}

/-! ## The parsed card -/

/-- The card that an event reports. -/
def cardOf : Event SchedAns W → Option HFCard
  | ⟨.ext (.parseCard _), .ok card, _, _⟩ => some card
  | _ => none

/-- The card that a history begins with. -/
def parsedCard (es : List (Event SchedAns W)) : Option HFCard := es.findSome? cardOf

/-- Whether a request parses a card. -/
def SchedOp.parses : SchedOp → Bool
  | .ext (.parseCard _) => true
  | _ => false

theorem cardOf_eq_none {e : Event SchedAns W} (h : e.op.parses = false) : cardOf e = none := by
  unfold cardOf
  split
  · cases h
  · rfl

theorem parsedCard_append (h : ∀ e ∈ es, e.op.parses = false) :
    parsedCard (es ++ fs) = parsedCard fs := by
  unfold parsedCard
  rw [List.findSome?_append, List.findSome?_eq_none_iff.mpr fun e he => cardOf_eq_none (h e he),
    Option.none_or]

theorem uses_reportQueueProgress {q : SchedOp → Prop} {id : ℕ} {stage : ProgressStage} {detail : String}
    {steps : Option (ℕ × ℕ)} {leaseToken : Option String} (hnow : q .now)
    (hcall : ∀ c, q (.queue c)) : (reportQueueProgress id stage detail steps leaseToken).run.Uses q :=
  uses_throws_bind (uses_lift (uses_request.mpr hnow)) fun _ =>
    uses_throws_bind (uses_attempt (uses_request.mpr (hcall _))) fun _ => uses_throws_pure _

/-- The model info comes from the card that was parsed. -/
theorem runs_stage1Prepare_card (fs : List (Event SchedAns W)) {modelInfo : ModelInfo}
    {d : EngineDeploymentResult} (h : (stage1Prepare deps run).run.Runs es (.ok (modelInfo, d))) :
    ∃ card, parsedCard (es ++ fs) = some card ∧ modelInfo = modelInfoOfCard card := by
  obtain ⟨es₁, _, _, rfl, h₁, h⟩ := runs_ok_bind.mp h
  obtain ⟨es₂, _, _, rfl, h₂, h⟩ := runs_ok_bind.mp h
  obtain ⟨es₃, _, card, rfl, h₃, h⟩ := runs_ok_bind.mp h
  obtain ⟨_, _, _, rfl, -, h⟩ := runs_ok_bind.mp h
  obtain ⟨_, _, _, rfl, -, h⟩ := runs_ok_bind.mp h
  obtain ⟨_, _, _, rfl, -, h⟩ := runs_ok_bind.mp h
  obtain ⟨_, _, _, rfl, -, h⟩ := runs_ok_bind.mp h
  obtain ⟨-, hr⟩ := runs_throws_pure.mp h
  obtain ⟨rfl, -⟩ := Prod.mk.inj (Except.ok.inj hr)
  refine ⟨card, ?_, rfl⟩
  obtain ⟨pre, post, rfl⟩ := runs_queueCall.mp h₁
  obtain ⟨pre', post', rfl⟩ := runs_extCall.mp h₃
  rw [List.append_assoc, parsedCard_append (by simp [SchedOp.parses]), List.append_assoc,
    parsedCard_append ((uses_reportQueueProgress (q := fun o => o.parses = false)
      rfl fun _ => rfl).events h₂)]
  rfl

/-- The result of a Stage 1 that has not thrown is the filled one. -/
theorem runs_stage1Measure_filled {startTime startedAt : Time} {modelInfo : ModelInfo}
    {d : EngineDeploymentResult} {result : Stage1Result}
    (h : (stage1Measure deps run startTime startedAt modelInfo d).run.Runs es (.ok result)) :
    ∃ bench toolCallResults contextWindow durationSec, result = filledStage1Result deps run startedAt
      modelInfo d bench toolCallResults contextWindow durationSec := by
  obtain ⟨_, _, _, rfl, -, h⟩ := runs_ok_bind.mp h
  obtain ⟨_, _, bench, rfl, -, h⟩ := runs_ok_bind.mp h
  obtain ⟨_, _, toolCallResults, rfl, -, h⟩ := runs_ok_bind.mp h
  obtain ⟨_, _, timestamp, rfl, -, h⟩ := runs_ok_bind.mp h
  obtain ⟨_, _, _, rfl, -, h⟩ := runs_ok_bind.mp h
  obtain ⟨_, _, contextWindow, rfl, -, h⟩ := runs_ok_bind.mp h
  obtain ⟨_, _, now, rfl, -, h⟩ := runs_ok_bind.mp h
  obtain ⟨-, hr⟩ := runs_throws_pure.mp h
  exact ⟨bench, toolCallResults, contextWindow, _, (Except.ok.inj hr).symm⟩

/-- **A Stage 1 that has not caught an error** fills its result for the card that it has parsed. -/
theorem runs_execute_filled {result : Stage1Result} (h : (execute deps run).run.Runs es (.ok result))
    (hcaught : ∀ e ∈ es, ∀ message, e.op ≠ .stage1Failed message) :
    ∃ card startedAt d bench toolCallResults contextWindow durationSec now,
      parsedCard es = some card ∧
      result = { filledStage1Result deps run startedAt (modelInfoOfCard card) d bench toolCallResults
        contextWindow durationSec with completedAt := now } := by
  obtain ⟨ts, bes, cs, fs, startTime, startedAt, o, result', rfl, hts, hb, hr, hcases⟩ :=
    runs_execute h
  obtain rfl := Except.ok.inj hr
  rcases hcases with ⟨result₀, now, rfl, rfl, rfl⟩ | ⟨err, c, -, hc, -⟩
  · obtain ⟨pes, mes, ⟨modelInfo, d⟩, rfl, hp, hm⟩ := runs_ok_bind.mp hb
    obtain ⟨bench, toolCallResults, contextWindow, durationSec, rfl⟩ := runs_stage1Measure_filled hm
    obtain ⟨card, hcard, rfl⟩ := runs_stage1Prepare_card (mes ++ ([] ++ fs)) hp
    refine ⟨card, startedAt, d, bench, toolCallResults, contextWindow, durationSec, now, ?_, rfl⟩
    rw [parsedCard_append fun e he => by rw [hts e (List.mem_append_left _ he)]; rfl,
      List.append_assoc]
    exact hcard
  · obtain ⟨e, u, pre, post, he, rfl, -⟩ := runs_stage1Catch hc
    exact absurd he (hcaught e (by simp) err.message)

/-! ## Agreement -/

/-- The gate repeats the decision of Stage 1, and both derive the ITL limit from one parameter
count. -/
structure GateAgrees (thresholds : Stage2Thresholds) (card : HFCard) (result : Stage1Result) : Prop where
  decision : (stage2GateCheck thresholds result).proceed = true ↔ result.stage2Eligible = some true
  paramCount : gateParamBillions result = (modelInfoOfCard card).paramBillions

theorem mean_eq_none {xs : List ℚ} : mean xs = none ↔ xs = [] := by
  unfold mean
  split_ifs with h <;> simp [h]

/-- An eligible model has met every limit that the gate looks at. -/
theorem of_stage2Gate {config : AppConfig} {paramBillions : Option ℚ} {metrics : List BenchmarkMetrics}
    {contextWindow : ℕ} {toolCallResults : Option ToolCallResult}
    (h : stage2Gate config paramBillions metrics contextWindow toolCallResults = true) :
    (∃ itl, mean (metrics.map (·.itlMs)) = some itl ∧
      itl < resolveMaxItlP50Ms config.stage2Thresholds paramBillions) ∧
    config.stage2Thresholds.minThroughputTps < bestThroughput metrics ∧
    ∃ ttft, mean (metrics.map (·.ttftMs)) = some ttft ∧ ttft < config.stage2Thresholds.maxTtftMs := by
  unfold stage2Gate at h
  simp only [Bool.and_eq_true, decide_eq_true_eq, Option.any_eq_true] at h
  obtain ⟨⟨⟨⟨hitl, htps⟩, httft⟩, -⟩, -⟩ := h
  exact ⟨hitl, htps, httft⟩

section Filled

variable {startedAt now : Time} {modelInfo : ModelInfo} {d : EngineDeploymentResult}
variable {bench : EngineFullBenchmarkResult} {toolCallResults : Option ToolCallResult}
variable {contextWindow : ℕ} {durationSec : ℚ}

variable {result : Stage1Result} (hresult : result = { filledStage1Result deps run startedAt modelInfo d
  bench toolCallResults contextWindow durationSec with completedAt := now })

include hresult

theorem filled_not_skipped : result.status ≠ .skipped := by
  subst hresult
  show (if bench.passed then Stage1Status.success else .failed) ≠ .skipped
  split_ifs <;> decide

/-- The metrics of a result whose means exist. -/
theorem filled_metrics {metrics : List BenchmarkMetrics} {itl ttft : ℚ}
    (hmetrics : metrics = (bench.runs.filter (·.success)).map (·.metrics))
    (hitl : mean (metrics.map (·.itlMs)) = some itl)
    (httft : mean (metrics.map (·.ttftMs)) = some ttft) :
    ∃ m, result.metrics = some m ∧ m.itlP50Ms = itl ∧ m.throughputTps = bestThroughput metrics ∧
      m.ttftMs = ttft := by
  have hne : metrics ≠ [] := by
    rintro rfl
    cases hitl
  obtain ⟨itlP99, hp99⟩ : ∃ itlP99, mean (metrics.map (·.p99LatencyMs)) = some itlP99 :=
    Option.ne_none_iff_exists'.mp fun hnone => hne (List.map_eq_nil_iff.mp (mean_eq_none.mp hnone))
  subst hmetrics hresult
  refine ⟨⟨itl, itlP99, ttft, _, durationSec⟩, ?_, rfl, rfl, rfl⟩
  show (do some (⟨← mean _, ← mean _, ← mean _, _, _⟩ : Stage1Metrics)) = _
  rw [hitl, hp99, httft]
  rfl

/-- **On one parameter count the gate repeats the decision**: what is strictly within a limit is
within it. -/
theorem gateAgrees_of_paramCount
    (hcount : gateParamBillions result = modelInfo.paramBillions) :
    (stage2GateCheck deps.config.stage2Thresholds result).proceed = true ↔
      result.stage2Eligible = some true := by
  have heligible : result.stage2Eligible = some (stage2Gate deps.config modelInfo.paramBillions
      ((bench.runs.filter (·.success)).map (·.metrics)) contextWindow toolCallResults) := by
    rw [hresult]
    rfl
  cases hgate : stage2Gate deps.config modelInfo.paramBillions
      ((bench.runs.filter (·.success)).map (·.metrics)) contextWindow toolCallResults with
  | false =>
    rw [hgate] at heligible
    rw [not_proceed_of_not_eligible heligible, heligible]
    decide
  | true =>
    rw [hgate] at heligible
    refine iff_of_true ?_ heligible
    obtain ⟨⟨itl, hitl, hitl_lt⟩, htps, ttft, httft, httft_lt⟩ := of_stage2Gate hgate
    obtain ⟨m, hm, rfl, hm_tps, rfl⟩ := filled_metrics hresult rfl hitl httft
    refine (stage2GateCheck_proceed ?_ (by rw [heligible]; decide)).mpr ⟨m, ?_, ?_, ?_, httft_lt.le⟩
    · exact filled_not_skipped hresult
    · exact hm
    · rw [hcount]
      exact hitl_lt.le
    · rw [hm_tps]
      exact htps.le

end Filled

/-- **When the gates agree**: the card names a parameter count, or the table has none either. -/
theorem gateAgrees_iff {result : Stage1Result} (h : (execute deps run).run.Runs es (.ok result))
    (hcaught : ∀ e ∈ es, ∀ message, e.op ≠ .stage1Failed message) :
    ∃ card, parsedCard es = some card ∧
      (GateAgrees deps.config.stage2Thresholds card result ↔
        ((modelInfoOfCard card).paramBillions = none → getModelParamsBillions run.modelId = none)) := by
  obtain ⟨card, startedAt, d, bench, toolCallResults, contextWindow, durationSec, now, hcard, hresult⟩ :=
    runs_execute_filled h hcaught
  refine ⟨card, hcard, ?_⟩
  have hparams : gateParamBillions result =
      (modelInfoOfCard card).paramBillions.or (getModelParamsBillions run.modelId) := by
    rw [hresult]
    rfl
  constructor
  · intro hagrees hnone
    have := hagrees.paramCount
    rwa [hparams, hnone, Option.none_or] at this
  · intro hcond
    have hcount : gateParamBillions result = (modelInfoOfCard card).paramBillions := by
      rw [hparams]
      cases hp : (modelInfoOfCard card).paramBillions with
      | none => rw [Option.none_or, hcond hp]
      | some p => rfl
    exact ⟨gateAgrees_of_paramCount hresult hcount, hcount⟩

end Agreement

/-! ## One model -/

/-- A scheduler whose ITL limit is lower for small models. -/
def cappedDeps : SchedulerDeps :=
  { oneSuiteDeps with config := { oneSuiteDeps.config with
      stage2Thresholds := ⟨50, [⟨(14 : ℚ), 20⟩, ⟨(40 : ℚ), 40⟩], 10, 5000, 8192⟩ } }

/-- The pipeline run of a model. -/
def runOf (modelId : String) : PipelineRun :=
  { runId := "run", modelId := modelId, queueEntryId := 0, startedAt := 0 }

/-- The answers of a benchmark with an ITL of 30 ms; the card does not name a parameter count. -/
def thirtyMs : (o : SchedOp) → SchedAns o :=
  benchmarkEnds (.ok ⟨[⟨⟨30, 100, 50, 40, 1⟩, true⟩], "", [], true⟩)

/-- Stage 1 with these answers. -/
def thirtyMsHistory (modelId : String) : List SchedEvent :=
  history thirtyMs (execute cappedDeps (runOf modelId))

/-- A Stage 1 that returns an eligible result, without having caught an error. -/
theorem thirtyMs_runs (modelId : String) (card : HFCard) (proceed : Bool)
    (h : ((execute cappedDeps (runOf modelId)).run.eval thirtyMs).toOption.any (fun result =>
      result.stage2Eligible = some true ∧
        (stage2GateCheck cappedDeps.config.stage2Thresholds result).proceed = proceed) = true)
    (hkind : ∀ e ∈ thirtyMsHistory modelId, e.op.kind ≠ .failed)
    (hcard : parsedCard (thirtyMsHistory modelId) = some card) :
    ∃ (es : List SchedEvent) (result : Stage1Result),
      (execute cappedDeps (runOf modelId)).run.Runs es (.ok result) ∧
      (∀ e ∈ es, ∀ message, e.op ≠ .stage1Failed message) ∧ parsedCard es = some card ∧
      result.stage2Eligible = some true ∧
      (stage2GateCheck cappedDeps.config.stage2Thresholds result).proceed = proceed := by
  obtain ⟨result, hr, hresult⟩ := (Option.any_eq_true _ _).mp h
  obtain ⟨heligible, hproceed⟩ := of_decide_eq_true hresult
  refine ⟨thirtyMsHistory modelId, result, runs_history thirtyMs ?_, fun e he message heq =>
    hkind e he (by rw [heq]; rfl), hcard, heligible, hproceed⟩
  cases heval : (execute cappedDeps (runOf modelId)).run.eval thirtyMs with
  | ok a => rw [heval] at hr; exact congrArg Except.ok (Option.some.inj hr)
  | error e => rw [heval] at hr; cases hr

/-- The card of a model whose parameter count is not named. -/
def plainCard (modelId : String) : HFCard := ⟨modelId, modelId, "llama", 8192, "mit", none, [], false⟩

/-- **The gate overrules Stage 1** for a model of the table: 30 ms are within the limit of a model of
unknown size, and beyond the limit of one of eight billion parameters. -/
theorem gate_overrules : ∃ (es : List SchedEvent) (result : Stage1Result) (card : HFCard),
    (execute cappedDeps (runOf "Qwen/Qwen3-8B")).run.Runs es (.ok result) ∧
    (∀ e ∈ es, ∀ message, e.op ≠ .stage1Failed message) ∧ parsedCard es = some card ∧
    result.stage2Eligible = some true ∧
    (stage2GateCheck cappedDeps.config.stage2Thresholds result).proceed = false ∧
    ¬GateAgrees cappedDeps.config.stage2Thresholds card result := by
  obtain ⟨es, result, hruns, hcaught, hcard, heligible, hproceed⟩ :=
    thirtyMs_runs "Qwen/Qwen3-8B" (plainCard "Qwen/Qwen3-8B") false (by decide +kernel)
      (by decide +kernel) (by decide +kernel)
  refine ⟨es, result, _, hruns, hcaught, hcard, heligible, hproceed, fun h => ?_⟩
  rw [h.decision.mpr heligible] at hproceed
  cases hproceed

/-- A model that is not in the table: the gates agree. -/
theorem gate_agrees_unlisted : ∃ (es : List SchedEvent) (result : Stage1Result) (card : HFCard),
    (execute cappedDeps (runOf "m")).run.Runs es (.ok result) ∧ result.stage2Eligible = some true ∧
    parsedCard es = some card ∧ GateAgrees cappedDeps.config.stage2Thresholds card result := by
  obtain ⟨es, result, hruns, hcaught, -, heligible, -⟩ :=
    thirtyMs_runs "m" (plainCard "m") true (by decide +kernel) (by decide +kernel) (by decide +kernel)
  obtain ⟨card, hcard, hagrees⟩ := gateAgrees_iff hruns hcaught
  exact ⟨es, result, card, hruns, heligible, hcard, hagrees.mpr fun _ => by decide +kernel⟩

end Benchmarker
