import Mathlib.Algebra.Group.Nat.Defs
import Benchmarker.Async.Uses
import Benchmarker.Js.Map
import Benchmarker.Js.Regex

/-!
# Triggering evaluation builds

`BuildkiteEvalTriggerImpl` up to the creation of a build, as programs over the requests to the API of
Buildkite, the clock and the timers. The requests go to the builds of a pipeline of the organization;
the two listings of `listActivePipelineBuilds` are in flight together, so they are one request. The log
lines are left out.

* `HttpResponse`, `Reply`, `ListReply`; `BkOp`, `BkProg`: the answers of the API and the requests.
* `listBuilds`, `activeBuilds`, `waitForPipelineIdleOnSlug`: the idle wait.
* `postOutcome`, `isTransient`, `createBuild`: the creation with its retries.
* `createOnDemandBuild`, `createOnDemandBuildOrAdopt`, `createWeeklyMatrixBuild`.
-/

namespace Benchmarker.Buildkite

open Async Async.Prog Js Js.Re

/-! ## Data -/

/-- A failed `ServiceResult`. -/
structure Failure where
  error : String
  code : String
  deriving DecidableEq, Repr

abbrev ServiceResult (α : Type) : Type := Except Failure α

/-- `fail`. -/
def fail {α : Type} (error code : String) : ServiceResult α := .error ⟨error, code⟩

structure BuildkiteConfig where
  onDemandPipelineSlug : String
  weeklyPipelineSlug : Option String := none
  pollIntervalMs : Option ℕ := none
  pollTimeoutMs : Option ℕ := none
  kibanaBranch : Option String := none
  adoptRunningBuild : Option Bool := none
  waitForPipelineIdle : Option Bool := none
  pipelineIdleWaitMs : Option ℕ := none
  pipelineIdlePollMs : Option ℕ := none
  deriving DecidableEq, Repr

namespace BuildkiteConfig

variable (config : BuildkiteConfig)

def weeklySlug : String := config.weeklyPipelineSlug.getD "kibana-evals-weekly-llm-evals"

/-- The branch that builds run on and that the idle guard looks at. -/
def branch : String := config.kibanaBranch.getD "fix/weekly-evals-matrix"

def pollInterval : ℕ := config.pollIntervalMs.getD 30000

def pollTimeout : ℕ := config.pollTimeoutMs.getD 3600000

def idleWaitMs : ℕ := config.pipelineIdleWaitMs.getD config.pollTimeout

def idlePollMs : ℕ := config.pipelineIdlePollMs.getD config.pollInterval

/-- `config.kibanaBranch`, where it is a nonempty text. -/
def setBranch : Option String := config.kibanaBranch.filter (· ≠ "")

/-- `config.waitForPipelineIdle !== false`. -/
def waits : Bool := config.waitForPipelineIdle ≠ some false

/-- `config.adoptRunningBuild !== false`. -/
def adopts : Bool := config.adoptRunningBuild ≠ some false

end BuildkiteConfig

/-- The configuration of a promotion run. -/
def promotion : BuildkiteConfig := { onDemandPipelineSlug := "evals", kibanaBranch := some "main" }

/-- The options of both triggers. -/
structure TriggerOptions where
  connectorJson : String
  connectorId : String
  evalSuiteIds : List String
  modelId : String
  deriving DecidableEq, Repr

abbrev Env : Type := JsMap String String

/-- `BuildkiteBuildResponse`. -/
structure Build where
  number : ℕ
  webUrl : String
  state : String
  message : Option String := none
  env : Option Env := none
  deriving DecidableEq, Repr

structure TriggeredBuild where
  pipelineSlug : String
  buildNumber : ℕ
  buildUrl : String
  adopted : Bool
  deriving DecidableEq, Repr

/-- The body of the request for a new build; its commit is `HEAD`. -/
structure NewBuild where
  branch : String
  message : String
  env : Env
  deriving DecidableEq, Repr

/-- The states that the listings ask for. -/
inductive ActiveState
  | running
  | scheduled
  deriving DecidableEq, Repr

/-- A response of the API: the status, the instant at which the API answered, and what reading the
body gives. -/
structure HttpResponse (α : Type) where
  status : ℕ
  date : ℕ
  text : Except String String
  json : Except String α

namespace HttpResponse

variable {α : Type}

def ok (response : HttpResponse α) : Bool := 200 ≤ response.status ∧ response.status < 300

end HttpResponse

/-- What `fetch` gives: a response, or the message of the error it throws. -/
abbrev Reply (α : Type) : Type := Except String (HttpResponse α)

/-- The reply to a listing; a body that is not an array is `none`. -/
abbrev ListReply : Type := Reply (Option (List Build))

/-- The requests. -/
inductive BkOp
  | now
  | sleep (ms : ℕ)
  | list (slug branch : String) (state : ActiveState)
  | listActive (slug branch : String)
  | fetchBuild (slug : String) (number : ℕ)
  | post (slug : String) (body : NewBuild)
  deriving DecidableEq

@[reducible] def BkAns : BkOp → Type
  | .now => ℕ
  | .sleep _ => Unit
  | .list _ _ _ => ListReply
  | .listActive _ _ => ListReply × ListReply
  | .fetchBuild _ _ => Reply Build
  | .post _ _ => Reply Build

abbrev BkProg (α : Type) : Type := Prog BkAns α

abbrev send (o : BkOp) : BkProg (BkAns o) := request o

def benchmarkerBuildMessagePrefix : String := "Benchmarker:"

/-! ## The idle wait -/

/-- What `listPipelineBuilds` makes of a reply. -/
def listBuilds : ListReply → List Build
  | .error _ => []
  | .ok response =>
    if response.ok then
      match response.json with
      | .ok (some data) => data
      | .ok none => []
      | .error _ => []
    else []

def listPipelineBuilds (config : BuildkiteConfig) (slug : String) (state : ActiveState) :
    BkProg (List Build) := do
  let reply ← send (.list slug config.branch state)
  return listBuilds reply

/-- The builds of both listings, one for every number. -/
def activeBuilds (replies : ListReply × ListReply) : List Build :=
  ((listBuilds replies.1 ++ listBuilds replies.2).foldl
    (fun byNumber build => JsMap.set byNumber build.number build) []).map (·.2)

def listActivePipelineBuilds (config : BuildkiteConfig) (slug : String) : BkProg (List Build) := do
  let replies ← send (.listActive slug config.branch)
  return activeBuilds replies

/-- The error of a wait that reached its deadline. -/
def notIdle (config : BuildkiteConfig) (slug : String) (stillActive : List Build) :
    ServiceResult Unit :=
  fail s!"Buildkite pipeline {slug} still has {stillActive.length} active build(s) after {config.idleWaitMs}ms"
    "PIPELINE_NOT_IDLE"

/-- The loop of `waitForPipelineIdleOnSlug`; `none` when it is still waiting after the given rounds. -/
def idleLoop (config : BuildkiteConfig) (slug : String) (deadline : ℕ) :
    ℕ → BkProg (Option (ServiceResult Unit))
  | 0 => return none
  | rounds + 1 => do
    let now ← send .now
    if now < deadline then
      let active ← listActivePipelineBuilds config slug
      if active = [] then return some (.ok ())
      else
        send (.sleep config.idlePollMs)
        idleLoop config slug deadline rounds
    else
      let stillActive ← listActivePipelineBuilds config slug
      return some (notIdle config slug stillActive)

def waitForPipelineIdleOnSlug (config : BuildkiteConfig) (slug : String) (rounds : ℕ) :
    BkProg (Option (ServiceResult Unit)) := do
  let start ← send .now
  idleLoop config slug (start + config.idleWaitMs) rounds

/-! ## Creation -/

/-- The regular expression `/failed \(4[08]0\)/`. -/
def failed4xx : Re := seqs [txt "failed (4", .chr fun c => c = '0' || c = '8', txt "0)"]

/-- The regular expression `/failed \(5\d\d\)/`. -/
def failed5xx : Re := seqs [txt "failed (5", digit, digit, txt ")"]

/-- The errors after which `createBuild` tries again. -/
def isTransient (msg : String) : Bool :=
  includes msg "fetch failed" || includes msg "ECONNRESET" || includes msg "ETIMEDOUT" ||
  includes msg "ENOTFOUND" || includes msg "network" || failed4xx.test msg || failed5xx.test msg

/-- The `try` block of an attempt: its result, or the message of what it throws. -/
def postOutcome : Reply Build → Except String (ServiceResult Build)
  | .error msg => .error msg
  | .ok response =>
    if response.ok then response.json.map .ok
    else response.text.map fun text =>
      fail s!"Buildkite build creation failed ({response.status}): {text}" "BUILD_CREATE_FAILED"

def maxAttempts : ℕ := 4

def baseDelayMs : ℕ := 2000

/-- The attempts of `createBuild`, with the number of attempts left and the message of the last
error. -/
def createLoop (slug : String) (body : NewBuild) : ℕ → Option String → BkProg (ServiceResult Build)
  | 0, lastErr => return fail (lastErr.getD "createBuild exhausted retries") "BUILD_CREATE_FAILED"
  | left + 1, _ => do
    let reply ← send (.post slug body)
    match postOutcome reply with
    | .ok result => return result
    | .error msg =>
      if !isTransient msg || left = 0 then
        return fail s!"Buildkite build creation failed: {msg}" "BUILD_CREATE_FAILED"
      else
        send (.sleep (baseDelayMs * 2 ^ (maxAttempts - left - 1)))
        createLoop slug body left (some msg)

/-- The error of a branch that no build may be triggered on. -/
def branchNotAllowed (slug branch : String) : ServiceResult Build :=
  fail (s!"Refusing to trigger Buildkite pipeline \"{slug}\" against branch " ++
    s!"\"{branch}\". Buildkite is opt-in and reserved for promotion " ++
    "runs off main only — use the local Stage-2 path (config/local.json, " ++
    "run-local-matrix-suite.sh) for iteration and verification instead.") "BRANCH_NOT_ALLOWED"

def createBuild (config : BuildkiteConfig) (slug message : String) (env : Env) :
    BkProg (ServiceResult Build) :=
  match config.setBranch.filter (· ≠ "main") with
  | some branch => return branchNotAllowed slug branch
  | none => createLoop slug ⟨config.branch, message, env⟩ maxAttempts none

/-! ## The triggers -/

/-- The entry for the branch in the environment of a build. -/
def branchEnv (config : BuildkiteConfig) : Env :=
  match config.setBranch with
  | some branch => [("KIBANA_BRANCH", branch)]
  | none => []

def buildOnDemandEnv (config : BuildkiteConfig) (options : TriggerOptions) : ServiceResult Env :=
  match options.evalSuiteIds.head?.filter (· ≠ "") with
  | none =>
    fail "At least one eval suite id is required for on-demand Buildkite eval" "NO_EVAL_SUITE"
  | some evalSuiteId =>
    if options.connectorId = "" then
      fail "connectorId is required for on-demand Buildkite eval" "NO_CONNECTOR_ID"
    else
      .ok ([("KIBANA_TESTING_AI_CONNECTORS", options.connectorJson), ("EVAL_SUITE_ID", evalSuiteId),
        ("BENCHMARK_MODEL_ID", options.modelId), ("EVAL_PROJECT", options.connectorId),
        ("EVAL_MODEL_GROUPS", options.modelId), ("EVALUATION_CONNECTOR_ID", options.connectorId)] ++
        branchEnv config)

def weeklyEnv (config : BuildkiteConfig) (options : TriggerOptions) : Env :=
  [("KIBANA_TESTING_AI_CONNECTORS", options.connectorJson),
    ("LLM_EVAL_SUITES", ",".intercalate options.evalSuiteIds),
    ("BENCHMARK_MODEL_ID", options.modelId), ("EVAL_PROJECT", options.connectorId),
    ("EVALUATION_CONNECTOR_ID", options.connectorId), ("EVAL_MODEL_GROUPS", options.modelId)] ++
    branchEnv config

/-- The reference to a build that was created on the pipeline. -/
def triggered (slug : String) (build : Build) : TriggeredBuild :=
  ⟨slug, build.number, build.webUrl, false⟩

def createOnDemandBuild (config : BuildkiteConfig) (options : TriggerOptions) :
    BkProg (ServiceResult TriggeredBuild) :=
  match buildOnDemandEnv config options with
  | .error e => return .error e
  | .ok env => do
    let result ← createBuild config config.onDemandPipelineSlug
      s!"{benchmarkerBuildMessagePrefix} {options.modelId} on-demand eval" env
    return result.map (triggered config.onDemandPipelineSlug)

def matchesBenchmarkerOptions (build : Build) (options : TriggerOptions) : Bool :=
  match options.evalSuiteIds.head?.filter (· ≠ "") with
  | none => false
  | some suiteId =>
    let env := build.env.getD []
    (env.get "EVAL_PROJECT" = some options.connectorId ||
      env.get "EVALUATION_CONNECTOR_ID" = some options.connectorId) &&
    env.get "EVAL_SUITE_ID" = some suiteId &&
    (env.get "BENCHMARK_MODEL_ID" = some options.modelId ||
      env.get "EVAL_MODEL_GROUPS" = some options.modelId)

def isBenchmarkerBuildMessage (message : Option String) : Bool :=
  benchmarkerBuildMessagePrefix.toList.isPrefixOf (message.getD "").toList

def fetchBuild (slug : String) (number : ℕ) : BkProg (Option Build) := do
  match ← send (.fetchBuild slug number) with
  | .error _ => return none
  | .ok response => if response.ok then return response.json.toOption else return none

/-- The loop of `findAdoptableRunningBuild` over the running builds. -/
def findAdoptable (config : BuildkiteConfig) (options : TriggerOptions) :
    List Build → BkProg (Option TriggeredBuild)
  | [] => return none
  | summary :: running =>
    if isBenchmarkerBuildMessage summary.message then do
      match ← fetchBuild config.onDemandPipelineSlug summary.number with
      | some detail =>
        if matchesBenchmarkerOptions detail options then
          return some ⟨config.onDemandPipelineSlug, detail.number, detail.webUrl, true⟩
        else findAdoptable config options running
      | none => findAdoptable config options running
    else findAdoptable config options running

/-- The adoption of `createOnDemandBuildOrAdopt`. -/
def findAdoptableRunningBuild (config : BuildkiteConfig) (options : TriggerOptions) :
    BkProg (Option TriggeredBuild) :=
  if config.adopts then do
    let running ← listPipelineBuilds config config.onDemandPipelineSlug .running
    findAdoptable config options running
  else return none

/-- The guard before a creation on the pipeline; `none` when it is still waiting. -/
def whenIdle {α : Type} (config : BuildkiteConfig) (slug : String) (rounds : ℕ)
    (create : BkProg (ServiceResult α)) : BkProg (Option (ServiceResult α)) :=
  if config.waits then do
    match ← waitForPipelineIdleOnSlug config slug rounds with
    | none => return none
    | some (.error e) => return some (.error e)
    | some (.ok ()) => some <$> create
  else some <$> create

def createOnDemandBuildOrAdopt (config : BuildkiteConfig) (options : TriggerOptions) (rounds : ℕ) :
    BkProg (Option (ServiceResult TriggeredBuild)) := do
  match ← findAdoptableRunningBuild config options with
  | some adopted => return some (.ok adopted)
  | none => whenIdle config config.onDemandPipelineSlug rounds (createOnDemandBuild config options)

/-- The creation of `createWeeklyMatrixBuild`. -/
def createWeekly (config : BuildkiteConfig) (options : TriggerOptions) :
    BkProg (ServiceResult TriggeredBuild) := do
  let result ← createBuild config config.weeklySlug
    s!"{benchmarkerBuildMessagePrefix} {options.modelId} weekly matrix eval" (weeklyEnv config options)
  return result.map (triggered config.weeklySlug)

def createWeeklyMatrixBuild (config : BuildkiteConfig) (options : TriggerOptions) (rounds : ℕ) :
    BkProg (Option (ServiceResult TriggeredBuild)) :=
  whenIdle config config.weeklySlug rounds (createWeekly config options)

end Benchmarker.Buildkite
