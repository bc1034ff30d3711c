import Benchmarker.LocalBatch.Worker
import Benchmarker.Scheduler.Course
import Benchmarker.Stage2.Gate
import Benchmarker.Stage2.SuiteRunner

/-!
# The single-suite Stage 2 worker

`Stage2WorkerImpl.execute`: the gate, the endpoint, the configuration and the Kibana repository, then
`EvalSuiteRunner.run` and one Stage 2 result made of its suites.

* `extractFailureCause`, `summarizeSuiteFailures`: the reason of a failed Stage 2.
* `EvalSuiteResult.toStage2`, `evaluate`, `stage2Execute`.
* `SuitesAllPass`, `SuitesAllError`, **`localGateSound_iff`**: when a successful Stage 2 means that every
  suite has passed. **`failing_suites_succeed`**: two suites fail and Stage 2 succeeds.
-/

namespace Benchmarker

open Js Js.Re Async Async.Prog

/-! ## Failures -/

def startsWith (s t : String) : Bool := t.toList.isPrefixOf s.toList

/-- `/\b(ECONNREFUSED|ENOENT|ETIMEDOUT)\b/`. -/
def connectionCode : Re :=
  seqs [wordBoundary, alts (["ECONNREFUSED", "ENOENT", "ETIMEDOUT"].map txt), wordBoundary]

/-- Whether a line says what broke. -/
def isMeaningful (l : String) : Bool :=
  startsWith l "Error:" || Re.test (seqs [wordBoundary, txt "not found", wordBoundary]) l ||
    Re.test connectionCode l

/-- `l.replace(/^Error:\s*/, '')`. -/
def dropErrorPrefix (l : String) : String :=
  if startsWith l "Error:" then String.ofList ((l.toList.drop 6).dropWhile isSpace) else l

def extractFailureCause (error : String) : String :=
  let lines := trimmedLines error
  match lines.find? isMeaningful with
  | some meaningful => dropErrorPrefix meaningful
  | none => ((lines.find? fun l => !startsWith l "Command failed:").or lines.head?).getD
      "unknown failure"

/-- `MAX_REASON_LENGTH`. -/
def maxReasonLength : ℕ := 600

/-- The failed suites under their causes. -/
def causesOf (failed : List EvalSuiteOutcome) : JsMap String (List String) :=
  failed.foldl (fun causes sr =>
    let cause := match truthy sr.error with
      | some error => extractFailureCause error
      | none => "no error recorded"
    causes.set cause ((causes.get cause).getD [] ++ [sr.suite])) []

def summarizeSuiteFailures (suiteResults : List EvalSuiteOutcome) : String :=
  let failed := suiteResults.filter fun sr => sr.status = .fail ∨ sr.status = .error
  if failed = [] then "Stage 2 failed with no failing suite recorded"
  else
    let summary := " | ".intercalate ((causesOf failed).map fun entry =>
      ", ".intercalate entry.2 ++ ": " ++ entry.1)
    if summary.toList.length > maxReasonLength then sliceTo (maxReasonLength - 1) summary ++ "…"
    else summary

/-! ## The worker -/

/-- The parts of `AppConfig` that the single-suite worker reads. -/
structure LocalStage2Config where
  stage2Thresholds : Stage2Thresholds
  evalSuites : List String := ["security-alert-triage", "security-alerts-rag-regression",
    "security-esql-generation-regression"]
  kibanaUrl : Option String := none
  kibanaApiKey : Option String := none
  exportProfile : Option String := none
  kibanaConnector : Option KibanaConnector := none
  /-- `repoService.getRepoPath()`. -/
  repoPath : String
  deriving DecidableEq

/-- The parts of the Kibana configuration that are missing. -/
def LocalStage2Config.missing (config : LocalStage2Config) : List String :=
  let url := config.kibanaUrl.or (config.kibanaConnector.bind (·.url))
  let apiKey := config.kibanaApiKey.or (config.kibanaConnector.bind (·.apiKey))
  (if truthy url = none then ["kibanaUrl"] else []) ++
    (if truthy apiKey = none then ["kibanaApiKey"] else [])

/-- The status of Stage 2 that the status of an eval run gives. -/
def EvalRunStatus.toStage2 : EvalRunStatus → Stage2Status
  | .failed => .failed
  | .success | .partialRun => .success

/-- The Stage 2 result of an eval run. -/
def EvalSuiteResult.toStage2 (run : PipelineRun) (evalResult : EvalSuiteResult)
    (startedAt completedAt : Time) : Stage2Result where
  runId := run.runId
  modelId := run.modelId
  status := evalResult.status.toStage2
  reason := if evalResult.status.toStage2 = .failed then
    some (summarizeSuiteFailures evalResult.suiteResults) else none
  scores := some (JsMap.assign [] (evalResult.suiteResults.filterMap fun sr =>
    sr.score.map fun score => (sr.suite, score)))
  suiteResults := some (evalResult.suiteResults.map fun sr =>
    ⟨sr.suite, sr.status.text, sr.score, sr.error, none, none⟩)
  startedAt := startedAt
  completedAt := completedAt

section Worker

variable (parsers : JsParsers) (number : ℚ → String) (config : LocalStage2Config) (run : PipelineRun)

/-- A result without suites. -/
def bareLocal (status : Stage2Status) (reason : String) (startedAt : Time) : LocalJs Stage2Result := do
  let completedAt ← localRequest .now
  return {
    runId := run.runId
    modelId := run.modelId
    status := status
    reason := some reason
    startedAt := startedAt
    completedAt := completedAt }

/-- Run the suites and make a result of them; a failed save is only logged. -/
def evaluateSuites (endpointUrl : String) (startedAt : Time) : LocalJs Stage2Result := do
  let evalResult ← runEvals parsers config.evalSuites {
    repoPath := config.repoPath
    endpointUrl := endpointUrl
    modelId := run.modelId
    evalProfile := config.exportProfile.filter (· = "dev-vault") }
  let completedAt ← localRequest .now
  let result := evalResult.toStage2 run startedAt completedAt
  let _ ← localRequest (.saveStage2Result result)
  return result

/-- Prepare the repository and run the suites. -/
def evaluate (endpointUrl : String) (startedAt : Time) : LocalJs Stage2Result := do
  match ← (ExceptT.mk (request LocalOp.cloneOrPull) : LocalJs (Except String Unit)) with
  | .error error => bareLocal run .failed ("Kibana repo clone/pull failed: " ++ error) startedAt
  | .ok () =>
    match ← (ExceptT.mk (request LocalOp.bootstrap) : LocalJs (Except String Unit)) with
    | .error error => bareLocal run .failed ("Kibana repo bootstrap failed: " ++ error) startedAt
    | .ok () => evaluateSuites parsers config run endpointUrl startedAt

/-- The `try` block of `execute`. -/
def stage2Body (stage1Result : Stage1Result) (startedAt : Time) : LocalJs Stage2Result :=
  let gateResult := stage2GateCheck config.stage2Thresholds stage1Result
  if !gateResult.proceed then bareLocal run .skipped (gateResult.reason.text number) startedAt
  else
    match truthy (run.deployment.map (·.endpointUrl)) with
    | none => bareLocal run .failed "No deployment endpoint" startedAt
    | some endpointUrl =>
      if config.missing ≠ [] then
        bareLocal run .skipped ("Stage 2 infrastructure not configured: missing " ++
          " + ".intercalate config.missing) startedAt
      else evaluate parsers config run endpointUrl startedAt

/-- `Stage2WorkerImpl.execute`. -/
def stage2Execute (stage1Result : Stage1Result) : LocalJs Stage2Result := do
  let startedAt ← localRequest .now
  match ← attempt (stage2Body parsers number config run stage1Result startedAt) with
  | .ok result => return result
  | .error err => bareLocal run .error err.message startedAt

end Worker

/-! ## Soundness of the local gate -/

section Sound

variable {W : Type} {parsers : JsParsers} {number : ℚ → String} {config : LocalStage2Config}
variable {run : PipelineRun} {es : List (Event LocalAns W)} {startedAt : Time}

/-- Every configured suite was run, and the process of every one exited with a result without an
error. -/
structure EverySuitePassed (parsers : JsParsers) (config : LocalStage2Config)
    (es : List (Event LocalAns W)) : Prop where
  configured : (suiteRuns es).map (·.1) = config.evalSuites
  passed : ∀ suiteRun ∈ suiteRuns es, suiteRun.2.passes parsers = true

/-- The answers of the suites' processes are of one kind: all pass, or all are errors. -/
def Unmixed (parsers : JsParsers) (es : List (Event LocalAns W)) : Prop :=
  (∀ suiteRun ∈ suiteRuns es, suiteRun.2.passes parsers = true) ∨
    ∀ suiteRun ∈ suiteRuns es, suiteRun.2.errors = true

/-- What the status of a result says: no suite was run and Stage 2 has not succeeded, or the status is
made of the results of the configured suites. -/
def StatusOf (parsers : JsParsers) (config : LocalStage2Config) (es : List (Event LocalAns W))
    (status : Stage2Status) : Prop :=
  (suiteRuns es = [] ∧ status ≠ .success) ∨ ∃ suiteResults, status = (overallStatus suiteResults).toStage2 ∧
    (suiteRuns es).map (·.1) = config.evalSuites ∧
    List.Forall₂ (ResultOf parsers) (suiteRuns es) suiteResults

/-- A history that throws has run no suite, and one that returns ends in a status that says so. -/
structure Concludes (parsers : JsParsers) (config : LocalStage2Config) (es : List (Event LocalAns W))
    (r : Except JsError Stage2Result) : Prop where
  thrown : ∀ err, r = .error err → suiteRuns es = []
  returned : ∀ result, r = .ok result → StatusOf parsers config es result.status

theorem runs_bareLocal {status : Stage2Status} {reason : String} {r : Except JsError Stage2Result}
    (h : (bareLocal run status reason startedAt).run.Runs es r) :
    suiteRuns es = [] ∧ ∃ result, r = .ok result ∧ result.status = status := by
  obtain ⟨completedAt, _, _, _, rfl, h₁⟩ := runs_localRequest_bind h
  obtain ⟨rfl, rfl⟩ := runs_throws_pure.mp h₁
  exact ⟨rfl, _, rfl, rfl⟩

theorem concludes_bareLocal {status : Stage2Status} {reason : String} {r : Except JsError Stage2Result}
    (hne : status ≠ .success) (h : (bareLocal run status reason startedAt).run.Runs es r) :
    Concludes parsers config es r := by
  obtain ⟨hnil, result, rfl, hstatus⟩ := runs_bareLocal h
  refine ⟨nofun, fun result' hr => .inl ⟨hnil, ?_⟩⟩
  obtain rfl := Except.ok.inj hr
  rwa [hstatus]

theorem concludes_evaluateSuites {endpointUrl : String} {r : Except JsError Stage2Result}
    (h : (evaluateSuites parsers config run endpointUrl startedAt).run.Runs es r) :
    Concludes parsers config es r := by
  rcases runs_throws_bind.mp h with ⟨es₁, es₂, evalResult, rfl, h₁, h₂⟩ | ⟨e, h₁, rfl⟩
  · rcases runs_runEvals h₁ with ⟨e, he, -⟩ | ⟨result, hr, hstatus, hnames, hall⟩
    · cases he
    obtain rfl := Except.ok.inj hr
    obtain ⟨completedAt, _, _, _, rfl, h₃⟩ := runs_localRequest_bind h₂
    obtain ⟨_, _, _, _, rfl, h₄⟩ := runs_localRequest_bind h₃
    obtain ⟨rfl, rfl⟩ := runs_throws_pure.mp h₄
    refine ⟨nofun, fun result hres => .inr ⟨evalResult.suiteResults, ?_⟩⟩
    obtain rfl := Except.ok.inj hres
    rw [suiteRuns_append, show suiteRuns [_, _] = [] from rfl, List.append_nil]
    exact ⟨congrArg EvalRunStatus.toStage2 hstatus, hnames, hall⟩
  · rcases runs_runEvals h₁ with ⟨e', he, hnil⟩ | ⟨result, hr, -⟩
    · exact ⟨fun _ _ => hnil, fun _ hr => by cases hr⟩
    · cases hr

/-- A service of the repository is called before the suites. -/
theorem concludes_bind {x : LocalJs (Except String Unit)} {f : Except String Unit → LocalJs Stage2Result}
    {r : Except JsError Stage2Result}
    (hx : ∀ {fs : List (Event LocalAns W)} {q}, x.run.Runs fs q → suiteRuns fs = [])
    (hf : ∀ {fs : List (Event LocalAns W)} {a}, (f a).run.Runs fs r → Concludes parsers config fs r)
    (h : (x >>= f).run.Runs es r) : Concludes parsers config es r := by
  rcases runs_throws_bind.mp h with ⟨es₁, es₂, a, rfl, h₁, h₂⟩ | ⟨e, h₁, rfl⟩
  · have hrest := hf h₂
    have hnil := hx h₁
    refine ⟨fun err he => ?_, fun result hr => ?_⟩
    · rw [suiteRuns_append, hnil, hrest.thrown err he, List.nil_append]
    · have := hrest.returned result hr
      unfold StatusOf at this ⊢
      rwa [suiteRuns_append, hnil, List.nil_append]
  · exact ⟨fun _ _ => hx h₁, fun _ hr => by cases hr⟩

theorem suiteRuns_service {o : LocalOp} {r : LocalAns o} (hne : ∀ call, o ≠ .execEvals call)
    (h : (request o : Prog LocalAns (LocalAns o)).Runs es r) : suiteRuns es = [] := by
  obtain ⟨pre, post, rfl⟩ := runs_request.mp h
  cases o with
  | execEvals call => exact absurd rfl (hne call)
  | _ => rfl

theorem concludes_evaluate {endpointUrl : String} {r : Except JsError Stage2Result}
    (h : (evaluate parsers config run endpointUrl startedAt).run.Runs es r) :
    Concludes parsers config es r := by
  refine concludes_bind (fun hx => suiteRuns_service (o := .cloneOrPull) nofun hx) (fun {fs a} hf => ?_) h
  cases a with
  | error e => exact concludes_bareLocal (by decide) hf
  | ok u =>
    refine concludes_bind (fun hx => suiteRuns_service (o := .bootstrap) nofun hx) (fun {gs b} hg => ?_) hf
    cases b with
    | error e => exact concludes_bareLocal (by decide) hg
    | ok u => exact concludes_evaluateSuites hg

theorem concludes_stage2Body {stage1Result : Stage1Result} {r : Except JsError Stage2Result}
    (h : (stage2Body parsers number config run stage1Result startedAt).run.Runs es r) :
    Concludes parsers config es r := by
  unfold stage2Body at h
  dsimp only at h
  split at h
  · exact concludes_bareLocal (by decide) h
  · split at h
    · exact concludes_bareLocal (by decide) h
    · split at h
      · exact concludes_bareLocal (by decide) h
      · exact concludes_evaluate h

/-- **What the status of a finished Stage 2 says.** -/
theorem statusOf_stage2Execute {stage1Result : Stage1Result} {result : Stage2Result}
    (h : (stage2Execute parsers number config run stage1Result).run.Runs es (.ok result)) :
    StatusOf parsers config es result.status := by
  obtain ⟨startedAt, pre, post, gs, rfl, hg⟩ := runs_localRequest_bind h
  have hhead : suiteRuns (⟨.now, startedAt, pre, post⟩ :: gs) = suiteRuns gs := rfl
  unfold StatusOf
  rw [hhead]
  obtain ⟨es₁, es₂, outcome, rfl, h₁, h₂⟩ := runs_ok_bind.mp hg
  have hbody := concludes_stage2Body (runs_attempt.mp h₁)
  cases outcome with
  | ok result' =>
    obtain ⟨rfl, hr⟩ := runs_throws_pure.mp h₂
    obtain rfl := Except.ok.inj hr
    rw [List.append_nil]
    exact hbody.returned _ rfl
  | error err =>
    obtain ⟨hnil, result', hr, hstatus⟩ := runs_bareLocal h₂
    obtain rfl := Except.ok.inj hr
    rw [suiteRuns_append, hbody.thrown err rfl, hnil, hstatus]
    exact .inl ⟨rfl, by decide⟩

theorem EvalRunStatus.toStage2_eq_success {status : EvalRunStatus} :
    status.toStage2 = .success ↔ status ≠ .failed := by
  cases status <;> decide

/-- The results of a run have one status when the answers of its processes do. -/
theorem forall_status_iff {answers : List (String × SuiteAnswer)} {suiteResults : List EvalSuiteOutcome}
    {status : SuiteStatus} {c : SuiteAnswer → Bool}
    (hc : ∀ a r, ResultOf parsers a r → (r.status = status ↔ c a.2 = true))
    (h : List.Forall₂ (ResultOf parsers) answers suiteResults) :
    (∀ r ∈ suiteResults, r.status = status) ↔ ∀ a ∈ answers, c a.2 = true := by
  induction h with
  | nil => simp
  | cons ha _ ih => rw [List.forall_mem_cons, List.forall_mem_cons, hc _ _ ha, ih]

/-- **When a successful Stage 2 means that every suite has passed**: exactly when the answers of the
suites are not mixed, as the status of a mixed run becomes a success. -/
theorem localGateSound_iff {stage1Result : Stage1Result} {result : Stage2Result}
    (h : (stage2Execute parsers number config run stage1Result).run.Runs es (.ok result)) :
    (result.status = .success → EverySuitePassed parsers config es) ↔ Unmixed parsers es := by
  rcases statusOf_stage2Execute h with ⟨hnil, hne⟩ | ⟨suiteResults, hstatus, hnames, hall⟩
  · exact iff_of_true (fun hs => absurd hs hne) (.inl fun a ha => by rw [hnil] at ha; cases ha)
  have hpass := forall_status_iff (fun _ _ hr => hr.pass) hall
  have herror := forall_status_iff (fun _ _ hr => hr.error) hall
  have hsuccess : result.status = .success ↔
      ¬(suiteResults ≠ [] ∧ ∀ r ∈ suiteResults, r.status = .error) := by
    rw [hstatus, EvalRunStatus.toStage2_eq_success, ne_eq, overallStatus_eq_failed]
  constructor
  · intro hsound
    by_cases hs : result.status = .success
    · exact .inl (hsound hs).passed
    · exact .inr (herror.mp (not_not.mp fun hn => hs (hsuccess.mpr fun hf => hn hf.2)))
  · rintro (hpassed | herrors) hs
    · exact ⟨hnames, hpassed⟩
    · -- a run of errors that succeeds has no suites
      have hnil : suiteResults = [] := by
        by_contra hne
        exact hsuccess.mp hs ⟨hne, herror.mpr herrors⟩
      rw [hnil] at hall
      rw [List.forall₂_nil_right_iff] at hall
      exact ⟨hnames, fun a ha => by rw [hall] at ha; cases ha⟩

/-- A gate that has passed: the Stage 2 worker has returned a success. -/
theorem runsFrom_localGatePhase_passed {deps : SchedulerDeps} {entry : QueueEntry} {resume : Bool}
    {leaseToken : Option String} {s s' : EntryVars} {fs : List (Event SchedAns W)}
    (hworker : deps.stage2Worker = true)
    (h : RunsFrom (localGatePhase deps entry resume leaseToken) s fs (.ok (some true)) s') :
    ∃ stage2Result, s'.run.stage2Result = some stage2Result ∧ stage2Result.status = .success := by
  unfold localGatePhase at h
  rw [if_pos hworker] at h
  rcases runsFrom_bind.mp h with ⟨_, _, _, t, -, -, h₁⟩ | ⟨e, -, he⟩
  swap; · cases he
  rw [runsFrom_theRun_bind] at h₁
  rcases runsFrom_step_bind.mp h₁ with ⟨_, _, stage2Result, -, -, h₂⟩ | ⟨e, -, -, he⟩
  swap; · cases he
  rw [runsFrom_modifyRun_bind] at h₂
  rcases runsFrom_step_bind.mp h₂ with ⟨_, _, _, -, -, h₃⟩ | ⟨e, -, -, he⟩
  swap; · cases he
  by_cases herror : stage2Result.status = .error
  · rw [if_pos herror] at h₃
    rcases runsFrom_step_bind.mp h₃ with ⟨_, _, _, -, -, h₄⟩ | ⟨e, -, -, he⟩
    · cases (runsFrom_pure.mp h₄).2.1
    · cases he
  · rw [if_neg herror] at h₃
    obtain ⟨-, hpassed, rfl⟩ := runsFrom_pure.mp h₃
    exact ⟨stage2Result, rfl, of_decide_eq_true (Option.some.inj (Except.ok.inj hpassed))⟩

end Sound

/-! ## Two suites -/

/-- The output of a suite that names an error. -/
def failedOutput : String :=
  "\x7b\"type\":\"result\",\"score\":0.2,\"error\":\"score below baseline\"\x7d"

/-- What `JSON.parse` makes of it. -/
def failedParsers : JsParsers where
  json line := if line = failedOutput then some (.obj [("type", .str "result"),
    ("score", .num (1 / 5) "0.2"), ("error", .str "score below baseline")]) else none
  float _ := none

/-- Answers in which the processes of the suites answer as `suites` says. -/
def suitesAnswer (suites : String → SuiteAnswer) : (o : LocalOp) → LocalAns o
  | .now => 0
  | .startSpan _ _ _ => "trace"
  | .createConnector _ _ | .saveEvalResult _ | .saveStage2Result _ => .ok ()
  | .execEvals call => suites call.suite
  | .cloneOrPull | .bootstrap => .ok (.ok ())

/-- A worker with two suites. -/
def twoSuiteConfig : LocalStage2Config where
  stage2Thresholds := ⟨20, [], 10, 5000, 128000⟩
  evalSuites := ["esql", "rag"]
  kibanaUrl := some "http://kibana:5601"
  kibanaApiKey := some "key"
  repoPath := "/kibana"

/-- Its run, of a deployed model that has skipped Stage 1. -/
def upRun : PipelineRun :=
  ⟨"run", "m", 0, 0, none, none, some ⟨"vllm-m", "http://127.0.0.1:8000", none⟩, none, none, none⟩

/-- The Stage 1 of that run. -/
def skippedStage1 : Stage1Result :=
  { freshStage1Result upRun 0 with status := .skipped, stage2Eligible := some true }

/-- The worker with these answers. -/
def twoSuites : LocalJs Stage2Result :=
  stage2Execute failedParsers (fun _ => "") twoSuiteConfig upRun skippedStage1

/-- The history of the worker when its suites answer as `suites` says. -/
def twoSuitesHistory (suites : String → SuiteAnswer) : List (Event LocalAns Unit) :=
  twoSuites.run.trace (suitesAnswer suites) ()

theorem twoSuites_runs (suites : String → SuiteAnswer) (status : Stage2Status)
    (h : (twoSuites.run.eval (suitesAnswer suites)).toOption.map (·.status) = some status) :
    ∃ result, twoSuites.run.Runs (twoSuitesHistory suites) (.ok result) ∧ result.status = status := by
  have hruns : twoSuites.run.Runs (twoSuitesHistory suites) _ := runs_trace (suitesAnswer suites) () _
  cases heval : twoSuites.run.eval (suitesAnswer suites) with
  | ok result =>
    rw [heval] at h hruns
    exact ⟨result, hruns, Option.some.inj h⟩
  | error err => rw [heval] at h; cases h

/-- **Both suites fail, and Stage 2 succeeds.** -/
theorem failing_suites_succeed : ∃ (es : List (Event LocalAns Unit)) (result : Stage2Result),
    twoSuites.run.Runs es (.ok result) ∧ result.status = .success ∧
    (suiteRuns es).map (·.1) = ["esql", "rag"] ∧
    (∀ suiteRun ∈ suiteRuns es, suiteRun.2.passes failedParsers = false) ∧
    ¬EverySuitePassed failedParsers twoSuiteConfig es := by
  obtain ⟨result, hruns, hstatus⟩ :=
    twoSuites_runs (fun _ => .ok (failedOutput, "")) .success (by decide +kernel)
  have hnames : (suiteRuns (twoSuitesHistory fun _ => .ok (failedOutput, ""))).map (·.1) =
      ["esql", "rag"] := by decide +kernel
  have hfail : ∀ suiteRun ∈ suiteRuns (twoSuitesHistory fun _ => .ok (failedOutput, "")),
      suiteRun.2.passes failedParsers = false := by decide +kernel
  refine ⟨_, result, hruns, hstatus, hnames, hfail, fun h => ?_⟩
  have hesql : "esql" ∈ (suiteRuns (twoSuitesHistory fun _ => .ok (failedOutput, ""))).map (·.1) := by
    rw [hnames]
    exact List.mem_cons_self
  obtain ⟨suiteRun, hmem, -⟩ := List.mem_map.mp hesql
  have hpass := h.passed suiteRun hmem
  rw [hfail suiteRun hmem] at hpass
  cases hpass

/-- Both suites time out: Stage 2 fails, as it should. -/
theorem erring_suites_fail : ∃ (es : List (Event LocalAns Unit)) (result : Stage2Result),
    twoSuites.run.Runs es (.ok result) ∧ result.status = .failed ∧
    (result.status = .success → EverySuitePassed failedParsers twoSuiteConfig es) := by
  obtain ⟨result, hruns, hstatus⟩ :=
    twoSuites_runs (fun _ => .error ⟨"timeout", "", ""⟩) .failed (by decide +kernel)
  have herrors : ∀ suiteRun ∈ suiteRuns (twoSuitesHistory fun _ => .error ⟨"timeout", "", ""⟩),
      suiteRun.2.errors = true := by decide +kernel
  exact ⟨_, result, hruns, hstatus, (localGateSound_iff hruns).mpr (.inr herrors)⟩

end Benchmarker
