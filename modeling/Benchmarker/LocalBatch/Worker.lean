import Benchmarker.LocalBatch.Runner

/-!
# The batch Stage 2 worker

`createBatchStage2Worker(…).execute`: the gate, the endpoint and the configuration, then the suites of
tier A as a fast gate for those of tier B, without the suites that a resumed run skips, and one result
made of both parts.

* `resolveEvalSuiteTiers`, `tierAGatePassed`, `mergeBatchResults`, `buildStage2FromBatch`.
* `batchExecute`. **`batchExecute_skips`**: its result lists no suite that was skipped.
-/

namespace Benchmarker

open Js Async Async.Prog

/-! ## Configuration -/

/-- The parts of `config.stage2Local` that the batch worker reads. -/
structure BatchConfig extends Stage2LocalConfig where
  tierASuites : Option (List String) := none
  tierBSuites : Option (List String) := none
  kibanaUrl : Option String := none
  kibanaApiKey : Option String := none
  deriving DecidableEq

/-- `config.kibanaConnector`. -/
structure KibanaConnector where
  url : Option String
  apiKey : Option String
  deriving DecidableEq

/-- `BatchStage2WorkerDeps`; `gate` is `gate.check`, whose answer has a reason. -/
structure BatchDeps where
  stage2Local : BatchConfig
  kibanaConnector : Option KibanaConnector := none
  gate : Stage1Result → Bool × String

/-- `EvalSuiteTiers`. -/
structure EvalSuiteTiers where
  tierA : List String
  tierB : List String
  all : List String
  deriving DecidableEq

def resolveEvalSuiteTiers (config : BatchConfig) : EvalSuiteTiers :=
  let all := config.evalSuites.getD []
  let tierA := config.tierASuites.getD []
  let rest := if tierA ≠ [] then all.filter (· ∉ tierA) else all
  ⟨tierA, config.tierBSuites.getD rest, all⟩

/-- `plannedSuites`. -/
def EvalSuiteTiers.planned (tiers : EvalSuiteTiers) : List String :=
  if tiers.tierA ≠ [] then tiers.tierA ++ tiers.tierB.filter (· ∉ tiers.tierA) else tiers.all

/-- The last result of each suite, in the order of the first. -/
def bySuite (suites : List LocalBatchEvalSuiteResult) : JsMap String LocalBatchEvalSuiteResult :=
  suites.foldl (fun m s => m.set s.suite s) []

def tierAGatePassed (suites : List LocalBatchEvalSuiteResult) (tierA : List String) : Bool :=
  tierA.all fun suite => ((bySuite suites).get suite).any fun r => r.status = "pass"

/-! ## Results -/

def mergeBatchResults : List LocalBatchEvalResult → Except JsError LocalBatchEvalResult
  | [] => .error ⟨"mergeBatchResults requires at least one batch result", none⟩
  | [part] => .ok part
  | first :: rest =>
    let parts := first :: rest
    let last := parts.getLastD first
    let suites := (bySuite (parts.flatMap (·.suites))).map (·.2)
    let passCount := suites.countP fun s => s.status = "pass"
    .ok {
      modelId := first.modelId
      status := if passCount = suites.length then .success
        else if passCount > 0 then .partialRun else .failed
      suites := suites
      startedAt := first.startedAt
      completedAt := last.completedAt
      summaryPath := last.summaryPath
      stdoutLogPath := last.stdoutLogPath }

/-- `mapBatchStatus`. -/
def BatchStatus.toStage2 : BatchStatus → Stage2Status
  | .success => .success
  | .partialRun => .partialRun
  | .failed => .failed

/-- The suite result that a batch suite gives. -/
def LocalBatchEvalSuiteResult.toSuiteResult (s : LocalBatchEvalSuiteResult) : SuiteResult where
  suite := s.suite
  status := s.status
  score := some (if s.status = "pass" then 1 else s.specPassRate.getD 0)
  durationMs := some s.durationMs
  logPath := s.logPath

def buildStage2FromBatch (run : PipelineRun) (batchResult : LocalBatchEvalResult) (startedAt : Time)
    (reasonOverride : Option String) : Stage2Result :=
  let suiteResults := batchResult.suites.map (·.toSuiteResult)
  let passCount := suiteResults.countP fun sr => sr.status = "pass"
  { runId := run.runId
    modelId := run.modelId
    status := batchResult.status.toStage2
    scores := some (JsMap.assign [] (suiteResults.map fun sr => (sr.suite, sr.score.getD 0)))
    suiteResults := some suiteResults
    batchSummaryPath := batchResult.summaryPath
    stdoutLogPath := batchResult.stdoutLogPath
    startedAt := startedAt
    completedAt := batchResult.completedAt
    reason := reasonOverride.or
      (if batchResult.status ≠ .success then
        some ("Stage 2 batch " ++ batchResult.status.text ++ ": " ++ toString passCount ++ "/" ++
          toString suiteResults.length ++ " suites passed")
      else none) }

/-! ## The worker -/

section Worker

variable (deps : BatchDeps) (run : PipelineRun)

/-- A result without suites. -/
def bareStage2 (status : Stage2Status) (reason : String) (startedAt : Time) :
    BatchJs Stage2Result := do
  let completedAt ← batchRequest .now
  return {
    runId := run.runId
    modelId := run.modelId
    status := status
    reason := some reason
    startedAt := startedAt
    completedAt := completedAt }

/-- `persistStage2`: a failed save is only logged. -/
def persistStage2 (result : Stage2Result) : BatchJs Unit := do
  let _ ← attempt (storeStage2Result result (some run.queueEntryId))
  return ()

/-- `skipSuites`. -/
def PipelineRun.skipSuites : List String := run.skipStage2Suites.getD []

/-- The first progress report. -/
def batchProgress (planned : List String) : BatchJs Unit := do
  let _ ← batchRequest .now
  batchRequest (.updateProgress run.queueEntryId
    ("Starting " ++ toString planned.length ++ " security eval suites") planned run.skipSuites
    (planned.find? (· ∉ run.skipSuites)))

/-- `runPhase`. -/
def runPhase (endpointUrl : String) (suites : List String) :
    BatchJs (Option LocalBatchEvalResult) := do
  let toRun := suites.filter (· ∉ run.skipSuites)
  if toRun = [] then return none
  else
    let result ← runBatch deps.stage2Local.skillDevPluginDir
      ⟨endpointUrl, run.modelId, toRun, run.skipSuites⟩
    return some result

/-- The end of a run: merge its parts, and persist the result. -/
def finishBatch (parts : List LocalBatchEvalResult) (startedAt : Time)
    (reasonOverride : Option String) : BatchJs Stage2Result := do
  match mergeBatchResults parts with
  | .error err => throw err
  | .ok merged =>
    let result := buildStage2FromBatch run merged startedAt reasonOverride
    persistStage2 run result
    return result

/-- The fast gate, if there is one. -/
def tierAPhase (tiers : EvalSuiteTiers) (endpointUrl : String) :
    BatchJs (Option LocalBatchEvalResult) :=
  if tiers.tierA ≠ [] then runPhase deps run endpointUrl tiers.tierA else pure none

/-- The part of the `try` block after tier A. -/
def tierBPhase (tiers : EvalSuiteTiers) (endpointUrl : String) (startedAt : Time)
    (tierAResult : Option LocalBatchEvalResult) : BatchJs Stage2Result := do
  let tierBResult ← runPhase deps run endpointUrl (if tiers.tierA ≠ [] then tiers.tierB else tiers.all)
  let parts := tierAResult.toList ++ tierBResult.toList
  if parts = [] then
    bareStage2 run .success "All suites already passed (resume skip)" startedAt
  else finishBatch run parts startedAt none

/-- The `try` block of `execute`. -/
def batchBody (endpointUrl : String) (startedAt : Time) : BatchJs Stage2Result := do
  let tiers := resolveEvalSuiteTiers deps.stage2Local
  batchProgress run tiers.planned
  let tierAResult ← tierAPhase deps run tiers endpointUrl
  match tierAResult.filter fun r => !tierAGatePassed r.suites tiers.tierA with
  | some tierA =>
    finishBatch run [tierA] startedAt (some "Tier A gate failed: not all fast-gate suites passed")
  | none => tierBPhase deps run tiers endpointUrl startedAt tierAResult

/-- The parts of the Kibana configuration that are missing. -/
def missingKibana : List String :=
  let url := deps.stage2Local.kibanaUrl.or (deps.kibanaConnector.bind (·.url))
  let apiKey := deps.stage2Local.kibanaApiKey.or (deps.kibanaConnector.bind (·.apiKey))
  (if truthy url = none then ["kibanaUrl"] else []) ++
    (if truthy apiKey = none then ["kibanaApiKey"] else [])

/-- `execute` of the batch worker. -/
def batchExecute (stage1Result : Stage1Result) : BatchJs Stage2Result := do
  let startedAt ← batchRequest .now
  if !(deps.gate stage1Result).1 then
    bareStage2 run .skipped (deps.gate stage1Result).2 startedAt
  else
    match truthy (run.deployment.map (·.endpointUrl)) with
    | none => bareStage2 run .failed "No deployment endpoint" startedAt
    | some endpointUrl =>
      if missingKibana deps ≠ [] then
        bareStage2 run .skipped ("Stage 2 infrastructure not configured: missing " ++
          " + ".intercalate (missingKibana deps)) startedAt
      else
        match ← attempt (batchBody deps run endpointUrl startedAt) with
        | .ok result => return result
        | .error err => bareStage2 run .error err.message startedAt

section Quiet

variable {deps run} {endpointUrl : String} {startedAt : Time}

theorem quiet_runPhase {suites : List String} : Quiet (runPhase deps run endpointUrl suites) :=
  uses_ite (uses_throws_pure _) (uses_throws_bind quiet_runBatch fun _ => uses_throws_pure _)

theorem quiet_tierAPhase {tiers : EvalSuiteTiers} : Quiet (tierAPhase deps run tiers endpointUrl) :=
  uses_ite quiet_runPhase (uses_throws_pure _)

theorem quiet_bareStage2 {status : Stage2Status} {reason : String} :
    Quiet (bareStage2 run status reason startedAt) :=
  uses_throws_bind (quiet_batchRequest rfl) fun _ => uses_throws_pure _

end Quiet

end Worker

/-! ## Skipped suites -/

section Skips

variable {env : ∀ o, BatchAns o} {deps : BatchDeps} {run : PipelineRun} {s : String}
variable {parts : List LocalBatchEvalResult} {r : Stage2Result} {startedAt : Time}
variable {endpointUrl : String} {reason : Option String}

@[simp] theorem eval_storeStage2Result (r : Stage2Result) (q : Option ℕ) :
    (storeStage2Result r q).run.eval env = env (.saveStage2Result r q) := rfl

theorem mem_of_bySuite {suites : List LocalBatchEvalSuiteResult} {kv : String × LocalBatchEvalSuiteResult}
    (h : kv ∈ bySuite suites) : kv.2 ∈ suites := by
  have hfold : ∀ (l : List LocalBatchEvalSuiteResult) (m : JsMap String LocalBatchEvalSuiteResult),
      kv ∈ l.foldl (fun m s => m.set s.suite s) m → kv ∈ m ∨ kv.2 ∈ l := by
    intro l
    induction l with
    | nil => exact fun m h => .inl h
    | cons a l ih =>
      intro m h
      rcases ih _ h with h | h
      · rcases JsMap.mem_set h with rfl | h
        · exact .inr List.mem_cons_self
        · exact .inl h
      · exact .inr (List.mem_cons_of_mem _ h)
  rcases hfold suites [] h with h | h
  · cases h
  · exact h

/-- A suite result of a merged result comes from its parts. -/
theorem mem_mergeBatchResults {merged : LocalBatchEvalResult}
    (h : mergeBatchResults parts = .ok merged) : ∀ x ∈ merged.suites, ∃ part ∈ parts, x ∈ part.suites := by
  match parts, h with
  | [part], h =>
    obtain rfl := Except.ok.inj h
    exact fun x hx => ⟨_, List.mem_singleton_self _, hx⟩
  | first :: second :: rest, h =>
    rw [← Except.ok.inj h]
    intro x hx
    obtain ⟨kv, hkv, rfl⟩ := List.mem_map.mp hx
    exact List.mem_flatMap.mp (mem_of_bySuite hkv)

/-- The result lists no skipped suite. -/
def SkipsAll (run : PipelineRun) (r : Stage2Result) : Prop :=
  ∀ sr ∈ r.suiteResults.getD [], sr.suite ∉ run.skipSuites

/-- The part lists no skipped suite. -/
def PartSkips (run : PipelineRun) (part : LocalBatchEvalResult) : Prop :=
  ∀ s ∈ suitesOf part.suites, s ∉ run.skipSuites

theorem partSkips_runPhase {suites : List String} {out : Option LocalBatchEvalResult}
    (h : (runPhase deps run endpointUrl suites).run.eval env = .ok out) :
    ∀ part ∈ out, PartSkips run part := by
  intro part hpart
  unfold runPhase at h
  dsimp only at h
  split at h
  · rw [← Except.ok.inj h] at hpart
    cases hpart
  · obtain ⟨result, hresult, h⟩ := eval_ok_bind.mp h
    rw [← Except.ok.inj h] at hpart
    obtain rfl := Option.some.inj hpart
    exact fun s hs => (runBatch_requested (runs_of_eval () hresult) s hs).2

theorem skips_bareStage2 {status : Stage2Status} {why : String}
    (h : (bareStage2 run status why startedAt).run.eval env = .ok r) : SkipsAll run r := by
  obtain ⟨completedAt, -, h⟩ := eval_ok_bind.mp h
  rw [← Except.ok.inj h]
  intro sr hsr
  cases hsr

theorem skips_finishBatch (hparts : ∀ part ∈ parts, PartSkips run part)
    (h : (finishBatch run parts startedAt reason).run.eval env = .ok r) : SkipsAll run r := by
  unfold finishBatch at h
  split at h
  · cases h
  · rename_i merged hmerged
    obtain ⟨-, -, h⟩ := eval_ok_bind.mp h
    rw [← Except.ok.inj h]
    intro sr hsr
    obtain ⟨b, hb, rfl⟩ := List.mem_map.mp hsr
    obtain ⟨part, hpart, hmem⟩ := mem_mergeBatchResults hmerged b hb
    exact hparts part hpart _ (List.mem_map_of_mem hmem)

theorem skips_batchBody (h : (batchBody deps run endpointUrl startedAt).run.eval env = .ok r) :
    SkipsAll run r := by
  unfold batchBody at h
  obtain ⟨-, -, h⟩ := eval_ok_bind.mp h
  obtain ⟨tierA, htierA, h⟩ := eval_ok_bind.mp h
  have hA : ∀ part ∈ tierA, PartSkips run part := by
    unfold tierAPhase at htierA
    split at htierA
    · exact partSkips_runPhase htierA
    · rw [← Except.ok.inj htierA]
      exact fun part hpart => nomatch hpart
  split at h
  · rename_i part hfilter
    obtain ⟨hpart, -⟩ := Option.filter_eq_some_iff.mp hfilter
    refine skips_finishBatch (fun part' h' => ?_) h
    rw [List.mem_singleton.mp h']
    exact hA part hpart
  · unfold tierBPhase at h
    obtain ⟨tierB, htierB, h⟩ := eval_ok_bind.mp h
    dsimp only at h
    split at h
    · exact skips_bareStage2 h
    · refine skips_finishBatch (fun part hpart => ?_) h
      rcases List.mem_append.mp hpart with hpart | hpart
      · exact hA part (Option.mem_toList.mp hpart)
      · exact partSkips_runPhase htierB part (Option.mem_toList.mp hpart)

/-- **The result of a run lists no suite that the run skipped.** -/
theorem batchExecute_skips {stage1Result : Stage1Result}
    (h : (batchExecute deps run stage1Result).run.eval env = .ok r) : SkipsAll run r := by
  unfold batchExecute at h
  obtain ⟨startedAt, -, h⟩ := eval_ok_bind.mp h
  split at h
  · exact skips_bareStage2 h
  · split at h
    · exact skips_bareStage2 h
    · split at h
      · exact skips_bareStage2 h
      · obtain ⟨outcome, houtcome, h⟩ := eval_ok_bind.mp h
        rw [eval_attempt] at houtcome
        cases outcome with
        | ok result =>
          rw [← Except.ok.inj h]
          exact skips_batchBody (Except.ok.inj houtcome)
        | error err => exact skips_bareStage2 h

end Skips

end Benchmarker
