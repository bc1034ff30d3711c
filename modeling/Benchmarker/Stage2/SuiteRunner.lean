import Benchmarker.Async.Uses
import Benchmarker.Js.Regex
import Benchmarker.Scheduler.Data

/-!
# The single-suite eval runner

`EvalSuiteRunner.run`: every suite is one process of the eval script, whose output is read for a result.
`JSON.parse` and `Number.parseFloat` are parameters.

* `LocalOp`, `LocalAns`, `LocalJs`: the requests of a local eval run.
* `parseOutput`, `runSuite`, `overallStatus`, `runEvals`.
* `SuiteAnswer.passes`, `SuiteAnswer.errors`: what a process' answer makes of its suite.
  **`runs_runEvals`**: a finished run has one result for each configured suite.
-/

namespace Benchmarker

open Js Js.Re Async Async.Prog

/-! ## Requests -/

/-- The options of one eval process. -/
structure EvalCall where
  suite : String
  connectorId : String
  kibanaUrl : Option String
  kibanaApiKey : Option String
  evalProfile : Option String
  repoPath : String
  timeoutMs : ℕ
  endpointUrl : String
  modelId : String
  deriving DecidableEq

/-- The arguments that the script is started with. -/
def EvalCall.args (call : EvalCall) : List String :=
  ["scripts/evals.js", "run", "--suite", call.suite, "--project", call.connectorId] ++
  (match truthy (some call.connectorId) with | some id => ["--judge", id] | none => []) ++
  (match truthy call.kibanaUrl with | some url => ["--evaluations-kbn-url", url] | none => []) ++
  (match truthy call.kibanaApiKey with | some key => ["--evaluations-kbn-api-key", key] | none => []) ++
  match truthy call.evalProfile with | some profile => ["--profile", profile] | none => []

/-- The error of a process that could not be started, ran out of time or exited with an error. -/
structure ExecError where
  message : String
  stdout : String
  stderr : String
  deriving DecidableEq

/-- `EvalSuiteResult['suiteResults'][…]['status']`. -/
inductive SuiteStatus
  | pass | fail | error
  deriving DecidableEq, Repr

def SuiteStatus.text : SuiteStatus → String
  | pass => "pass"
  | fail => "fail"
  | error => "error"

/-- An entry of `EvalSuiteResult['suiteResults']`. -/
structure EvalSuiteOutcome where
  suite : String
  status : SuiteStatus
  score : Option ℚ
  durationMs : ℤ
  error : Option String
  traceId : String
  deriving DecidableEq

/-- `EvalSuiteResult['status']`. -/
inductive EvalRunStatus
  | success | partialRun | failed
  deriving DecidableEq, Repr

structure EvalSuiteResult where
  modelId : String
  endpointUrl : String
  status : EvalRunStatus
  suiteResults : List EvalSuiteOutcome
  startedAt : Time
  completedAt : Time
  deriving DecidableEq

/-- The requests of a local eval run. -/
inductive LocalOp
  | now
  | startSpan (suite modelId endpointUrl : String)
  | createConnector (endpointUrl modelId : String)
  | execEvals (call : EvalCall)
  | saveEvalResult (result : EvalSuiteResult)
  | cloneOrPull
  | bootstrap
  | saveStage2Result (result : Stage2Result)
  deriving DecidableEq

/-- The two streams of a process, unless it is rejected. -/
abbrev SuiteAnswer : Type := Except ExecError (String × String)

/-- The answers; a `ServiceResult` is an `Except String Unit`. -/
@[reducible] def LocalAns : LocalOp → Type
  | .now => Time
  | .startSpan _ _ _ => String
  | .createConnector _ _ | .saveEvalResult _ | .saveStage2Result _ => Except JsError Unit
  | .execEvals _ => SuiteAnswer
  | .cloneOrPull | .bootstrap => Except JsError (Except String Unit)

/-- The body of a method of a local eval run. -/
abbrev LocalJs (α : Type) : Type := ExceptT JsError (Prog LocalAns) α

/-- Await a request that does not throw, or whose throw is caught on the spot. -/
def localRequest (o : LocalOp) : LocalJs (LocalAns o) := ExceptT.lift (request o)

/-! ## The output of a suite -/

/-- What the runner reads out of a JSON text and a numeral. -/
structure JsParsers where
  /-- `JSON.parse`; `none` is a `SyntaxError`. -/
  json : String → Option Json
  /-- `Number.parseFloat`; `none` is `NaN`. -/
  float : String → Option ℚ

structure ParsedOutput where
  score : Option ℚ
  error : Option String
  deriving DecidableEq

/-- `s.slice(0, n)`. -/
def sliceTo (n : ℕ) (s : String) : String := String.ofList (s.toList.take n)

section Output

variable (parsers : JsParsers)

def coerceNumber : Json → Option ℚ
  | .num value _ => some value
  | .str s => parsers.float s
  | _ => none

/-- `tryParseJson`. -/
def tryParseJson (line : String) : Option ParsedOutput :=
  match parsers.json line with
  | some (.obj fields) =>
    let o := Json.obj fields
    if fieldIs o "type" "result" ∨ JsMap.has fields "score" ∨ JsMap.has fields "results" then
      some ⟨(o.field "score").bind (coerceNumber parsers), (o.field "error").bind Json.asStr⟩
    else none
  | _ => none

def parseOutput (stdout stderr : String) : ParsedOutput :=
  let lines := trimmedLines stdout
  let detail := trim stderr
  match lines.getLast? with
  | none => ⟨none, some (if detail ≠ "" then
      "Empty stdout from eval script. Stderr:\n" ++ sliceTo 2000 detail
      else "Empty stdout from eval script (stderr also empty)")⟩
  | some lastLine =>
    ((tryParseJson parsers lastLine).or (lines.reverse.findSome? (tryParseJson parsers))).getD
      ⟨none, some ("Unable to parse eval output." ++ "\nRaw stdout:\n" ++ sliceTo 1500 stdout ++
        if detail ≠ "" then "\nStderr:\n" ++ sliceTo 1500 detail else "\nStderr: (empty)")⟩

/-! ## One suite -/

/-- The process has exited normally and its output names no error. -/
def SuiteAnswer.passes (answer : SuiteAnswer) : Bool :=
  match answer with
  | .ok (stdout, stderr) => truthy (parseOutput parsers stdout stderr).error = none
  | .error _ => false

/-- The process was rejected: it could not be started, ran out of time or exited with an error. -/
def SuiteAnswer.errors (answer : SuiteAnswer) : Bool :=
  match answer with
  | .ok _ => false
  | .error _ => true

/-- The result of a suite whose process has exited normally. -/
def exitedSuite (suite : String) (stdout stderr : String) (durationMs : ℤ) (traceId : String) :
    EvalSuiteOutcome :=
  let parsed := parseOutput parsers stdout stderr
  { suite := suite
    status := if truthy parsed.error = none then .pass else .fail
    score := parsed.score
    durationMs := durationMs
    error := parsed.error
    traceId := traceId }

/-- The result of a suite whose process was rejected. -/
def rejectedSuite (suite : String) (err : ExecError) (durationMs : ℤ) (traceId : String) :
    EvalSuiteOutcome :=
  let parsedFallback :=
    if err.stdout ≠ "" ∨ err.stderr ≠ "" then some (parseOutput parsers err.stdout err.stderr)
    else none
  { suite := suite
    status := .error
    score := parsedFallback.bind (·.score)
    durationMs := durationMs
    error := some ((parsedFallback.bind (·.error)).getD err.message)
    traceId := traceId }

/-! ## A run -/

/-- `EvalRunOptions`, with the default of the time limit. -/
structure EvalRunOptions where
  repoPath : String
  endpointUrl : String
  modelId : String
  suites : Option (List String) := none
  timeoutMs : ℕ := 300000
  evalProfile : Option String := none
  connectorId : Option String := none
  kibanaUrl : Option String := none
  kibanaApiKey : Option String := none
  deriving DecidableEq

/-- `buildConnectorId`. -/
def buildConnectorId (modelId : String) : String :=
  "vllm-" ++ toLowerCase (String.ofList (modelId.toList.map fun c => if c = '/' then '-' else c))

/-- The process of a suite. -/
def EvalRunOptions.call (opts : EvalRunOptions) (suite : String) : EvalCall where
  suite := suite
  connectorId := opts.connectorId.getD (buildConnectorId opts.modelId)
  kibanaUrl := opts.kibanaUrl
  kibanaApiKey := opts.kibanaApiKey
  evalProfile := opts.evalProfile
  repoPath := opts.repoPath
  timeoutMs := opts.timeoutMs
  endpointUrl := opts.endpointUrl
  modelId := opts.modelId

/-- One round of the loop over the suites. -/
def runSuite (opts : EvalRunOptions) (suite : String) : LocalJs EvalSuiteOutcome := do
  let suiteStart ← localRequest .now
  let traceId ← localRequest (.startSpan suite opts.modelId opts.endpointUrl)
  let answer ← localRequest (.execEvals (opts.call suite))
  let suiteEnd ← localRequest .now
  let durationMs := (suiteEnd : ℤ) - suiteStart
  return match answer with
    | .ok (stdout, stderr) => exitedSuite parsers suite stdout stderr durationMs traceId
    | .error err => rejectedSuite parsers suite err durationMs traceId

/-- The loop over the suites. -/
def runSuites (opts : EvalRunOptions) : List String → LocalJs (List EvalSuiteOutcome)
  | [] => return []
  | suite :: rest => do
    let result ← runSuite parsers opts suite
    let results ← runSuites opts rest
    return result :: results

/-- The status of a run: every suite has passed, every suite has ended in an error, or neither. -/
def overallStatus (suiteResults : List EvalSuiteOutcome) : EvalRunStatus :=
  let passCount := suiteResults.countP fun r => r.status = .pass
  let errorCount := suiteResults.countP fun r => r.status = .error
  if passCount = suiteResults.length then .success
  else if errorCount = suiteResults.length then .failed
  else .partialRun

/-- `createConnectorId`, whose id is not used. -/
def createConnectorId (opts : EvalRunOptions) : LocalJs Unit :=
  match truthy opts.connectorId with
  | some _ => pure ()
  | none => ExceptT.mk (request (LocalOp.createConnector opts.endpointUrl opts.modelId))

/-- `EvalSuiteRunner.run`; `configured` is `config.stage2Local.evalSuites`. -/
def runEvals (configured : List String) (opts : EvalRunOptions) : LocalJs EvalSuiteResult := do
  let startedAt ← localRequest .now
  createConnectorId opts
  let suiteResults ← runSuites parsers opts (opts.suites.getD configured)
  let completedAt ← localRequest .now
  let result : EvalSuiteResult := {
    modelId := opts.modelId
    endpointUrl := opts.endpointUrl
    status := overallStatus suiteResults
    suiteResults := suiteResults
    startedAt := startedAt
    completedAt := completedAt }
  let _ ← localRequest (.saveEvalResult result)
  return result

/-! ## The status of a run -/

section Status

variable {suiteResults : List EvalSuiteOutcome}

theorem countP_status_eq_length (suiteResults : List EvalSuiteOutcome) (status : SuiteStatus) :
    suiteResults.countP (fun r => r.status = status) = suiteResults.length ↔
      ∀ r ∈ suiteResults, r.status = status := by
  rw [List.countP_eq_length]
  simp only [decide_eq_true_eq]

theorem overallStatus_eq_success :
    overallStatus suiteResults = .success ↔ ∀ r ∈ suiteResults, r.status = .pass := by
  unfold overallStatus
  dsimp only
  have hpass := countP_status_eq_length suiteResults .pass
  split_ifs with h₁ h₂
  · exact iff_of_true rfl (hpass.mp h₁)
  · exact iff_of_false nofun fun h => h₁ (hpass.mpr h)
  · exact iff_of_false nofun fun h => h₁ (hpass.mpr h)

/-- A run has failed when there is a suite and every suite has ended in an error. -/
theorem overallStatus_eq_failed : overallStatus suiteResults = .failed ↔
    suiteResults ≠ [] ∧ ∀ r ∈ suiteResults, r.status = .error := by
  unfold overallStatus
  dsimp only
  have herror := countP_status_eq_length suiteResults .error
  split_ifs with h₁ h₂
  · refine iff_of_false nofun fun ⟨hne, hall⟩ => ?_
    obtain ⟨r, hr⟩ := List.exists_mem_of_ne_nil _ hne
    have hpass := (countP_status_eq_length suiteResults .pass).mp h₁ r hr
    rw [hall r hr] at hpass
    cases hpass
  · refine iff_of_true rfl ⟨fun hnil => h₁ ?_, herror.mp h₂⟩
    rw [hnil]
    rfl
  · exact iff_of_false nofun fun h => h₂ (herror.mpr h.2)

end Status

/-! ## Finished runs -/

section Runs

variable {W : Type} {es fs : List (Event LocalAns W)} {opts : EvalRunOptions}

/-- The suite that an event runs, and what its process answers. -/
def suiteRunOf : Event LocalAns W → Option (String × SuiteAnswer)
  | ⟨.execEvals call, answer, _, _⟩ => some (call.suite, answer)
  | _ => none

/-- The suites that a history runs. -/
def suiteRuns (es : List (Event LocalAns W)) : List (String × SuiteAnswer) := es.filterMap suiteRunOf

@[simp] theorem suiteRuns_append : suiteRuns (es ++ fs) = suiteRuns es ++ suiteRuns fs :=
  List.filterMap_append

theorem runs_localRequest {o : LocalOp} {r : Except JsError (LocalAns o)}
    (h : (localRequest o).run.Runs es r) : ∃ a pre post, r = .ok a ∧ es = [⟨o, a, pre, post⟩] := by
  obtain ⟨a, ha, rfl⟩ := runs_lift.mp h
  obtain ⟨pre, post, rfl⟩ := runs_request.mp ha
  exact ⟨a, pre, post, rfl, rfl⟩

/-- A request that is not thrown away by a throw. -/
theorem runs_localRequest_bind {β : Type} {o : LocalOp} {f : LocalAns o → LocalJs β}
    {r : Except JsError β} (h : (localRequest o >>= f).run.Runs es r) :
    ∃ a pre post fs, es = ⟨o, a, pre, post⟩ :: fs ∧ (f a).run.Runs fs r := by
  rcases runs_throws_bind.mp h with ⟨es₁, es₂, a, rfl, h₁, h₂⟩ | ⟨e, h₁, -⟩
  · obtain ⟨a', pre, post, ha, rfl⟩ := runs_localRequest h₁
    obtain rfl := Except.ok.inj ha
    exact ⟨a, pre, post, es₂, rfl, h₂⟩
  · obtain ⟨_, _, _, he, -⟩ := runs_localRequest h₁
    cases he

/-- The result of a suite says what the answer of its process did. -/
structure ResultOf (suiteRun : String × SuiteAnswer) (r : EvalSuiteOutcome) : Prop where
  suite : r.suite = suiteRun.1
  pass : r.status = .pass ↔ suiteRun.2.passes parsers = true
  error : r.status = .error ↔ suiteRun.2.errors = true

variable {parsers}

theorem runs_runSuite {suite : String} {r : Except JsError EvalSuiteOutcome}
    (h : (runSuite parsers opts suite).run.Runs es r) : ∃ result answer, r = .ok result ∧
      suiteRuns es = [(suite, answer)] ∧ ResultOf parsers (suite, answer) result := by
  obtain ⟨_, _, _, _, rfl, h₁⟩ := runs_localRequest_bind h
  obtain ⟨traceId, _, _, _, rfl, h₂⟩ := runs_localRequest_bind h₁
  obtain ⟨answer, _, _, _, rfl, h₃⟩ := runs_localRequest_bind h₂
  obtain ⟨_, _, _, _, rfl, h₄⟩ := runs_localRequest_bind h₃
  obtain ⟨rfl, rfl⟩ := runs_throws_pure.mp h₄
  refine ⟨_, answer, rfl, rfl, ?_⟩
  cases answer with
  | error err => exact ⟨rfl, by simp [rejectedSuite, SuiteAnswer.passes], by simp [rejectedSuite, SuiteAnswer.errors]⟩
  | ok streams =>
    obtain ⟨stdout, stderr⟩ := streams
    refine ⟨rfl, ?_, ?_⟩
    · simp [exitedSuite, SuiteAnswer.passes]
    · simp only [exitedSuite, SuiteAnswer.errors]
      split_ifs <;> simp

/-- **The loop runs every suite once**, whatever became of the suites before it. -/
theorem runs_runSuites {suites : List String} {r : Except JsError (List EvalSuiteOutcome)}
    (h : (runSuites parsers opts suites).run.Runs es r) : ∃ results, r = .ok results ∧
      (suiteRuns es).map (·.1) = suites ∧ List.Forall₂ (ResultOf parsers) (suiteRuns es) results := by
  induction suites generalizing es r with
  | nil =>
    obtain ⟨rfl, rfl⟩ := runs_throws_pure.mp h
    exact ⟨[], rfl, rfl, .nil⟩
  | cons suite rest ih =>
    rcases runs_throws_bind.mp h with ⟨es₁, es₂, result, rfl, h₁, h₂⟩ | ⟨e, h₁, -⟩
    swap
    · obtain ⟨_, _, he, -, -⟩ := runs_runSuite h₁
      cases he
    obtain ⟨result', answer, hr, hrun, hof⟩ := runs_runSuite h₁
    obtain rfl := Except.ok.inj hr
    rcases runs_throws_bind.mp h₂ with ⟨es₃, es₄, results, rfl, h₃, h₄⟩ | ⟨e, h₃, -⟩
    swap
    · obtain ⟨_, he, -, -⟩ := ih h₃
      cases he
    obtain ⟨results', hrs, hnames, hall⟩ := ih h₃
    obtain rfl := Except.ok.inj hrs
    obtain ⟨rfl, rfl⟩ := runs_throws_pure.mp h₄
    refine ⟨result :: results, rfl, ?_, ?_⟩
    · rw [List.append_nil, suiteRuns_append, hrun, List.singleton_append, List.map_cons, hnames]
    · rw [List.append_nil, suiteRuns_append, hrun, List.singleton_append]
      exact .cons hof hall

theorem suiteRuns_createConnectorId {r : Except JsError Unit}
    (h : (createConnectorId opts).run.Runs es r) : suiteRuns es = [] := by
  unfold createConnectorId at h
  split at h
  · obtain ⟨rfl, -⟩ := runs_throws_pure.mp h
    rfl
  · obtain ⟨_, _, rfl⟩ := runs_request.mp h
    rfl

/-- **A finished run has one result for each suite that it was given**; a run that throws has not come
to its suites. -/
theorem runs_runEvals {configured : List String} {r : Except JsError EvalSuiteResult}
    (h : (runEvals parsers configured opts).run.Runs es r) :
    (∃ e, r = .error e ∧ suiteRuns es = []) ∨ ∃ result, r = .ok result ∧
      result.status = overallStatus result.suiteResults ∧
      (suiteRuns es).map (·.1) = opts.suites.getD configured ∧
      List.Forall₂ (ResultOf parsers) (suiteRuns es) result.suiteResults := by
  obtain ⟨startedAt, pre, post, gs, rfl, hg⟩ := runs_localRequest_bind h
  have hhead : suiteRuns (⟨.now, startedAt, pre, post⟩ :: gs) = suiteRuns gs := rfl
  rw [hhead]
  rcases runs_throws_bind.mp hg with ⟨es₁, es₂, _, rfl, h₁, h₂⟩ | ⟨e, h₁, rfl⟩
  swap
  · exact .inl ⟨e, rfl, suiteRuns_createConnectorId h₁⟩
  rw [suiteRuns_append, suiteRuns_createConnectorId h₁, List.nil_append]
  rcases runs_throws_bind.mp h₂ with ⟨es₃, es₄, suiteResults, rfl, h₃, h₄⟩ | ⟨e, h₃, -⟩
  swap
  · obtain ⟨_, he, -, -⟩ := runs_runSuites h₃
    cases he
  obtain ⟨results, hrs, hnames, hall⟩ := runs_runSuites h₃
  obtain rfl := Except.ok.inj hrs
  obtain ⟨completedAt, _, _, _, rfl, h₅⟩ := runs_localRequest_bind h₄
  obtain ⟨_, _, _, _, rfl, h₆⟩ := runs_localRequest_bind h₅
  obtain ⟨rfl, rfl⟩ := runs_throws_pure.mp h₆
  rw [suiteRuns_append]
  exact .inr ⟨_, rfl, rfl, by rw [List.map_append, hnames]; exact List.append_nil _,
    by rw [show suiteRuns [_, _] = [] from rfl, List.append_nil]; exact hall⟩

end Runs

end Output

end Benchmarker
