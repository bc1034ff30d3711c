import Benchmarker.Async.Prog
import Benchmarker.Benchmark.Runner
import Benchmarker.Health.Logs
import Benchmarker.Js.Json

/-!
# Waiting for a healthy container

`HealthCheckService` as programs over the clock, the timers and the commands that it runs over SSH. A
command may throw. The log lines are left out.

* `Command`, `HealthOp`, `HealthProg`, `HealthCheckOptions`: the commands, the requests and the options.
* `Inspected`, `inspected`, `isContainerRunning`: what an inspect says, and the attempts.
* `checkHealthEndpoint`, `checkModelsEndpoint`, `getContainerLogs`, `poll`: one poll.
* `pollLoop`, `waitForHealthy`: the loop, and what follows it.
-/

namespace Benchmarker.Health

open Async Async.Prog Js Js.Re

/-! ## Requests -/

/-- The commands that are run on the host. -/
inductive Command
  | inspect (containerName : String)
  | health (apiPort : ℕ)
  | models (apiPort : ℕ)
  | logs (logTailLines : ℕ) (containerName : String)
  deriving DecidableEq, Repr

def Command.text : Command → String
  | .inspect containerName =>
    "docker inspect --format='\x7b\x7b.State.Running\x7d\x7d' " ++ containerName
  | .health apiPort => s!"curl -sf http://localhost:{apiPort}/health"
  | .models apiPort => s!"curl -sf http://localhost:{apiPort}/v1/models"
  | .logs logTailLines containerName => s!"docker logs --tail {logTailLines} {containerName} 2>&1"

inductive HealthOp
  | now
  | sleep (ms : ℕ)
  | exec (command : Command) (timeout : ℕ) (asRoot : Bool)
  deriving DecidableEq

/-- The answers; a command that throws gives the message of its error. -/
@[reducible] def HealthAns : HealthOp → Type
  | .now => ℤ
  | .sleep _ => Unit
  | .exec _ _ _ => Except String CommandResult

abbrev HealthProg (α : Type) : Type := Prog HealthAns α

abbrev send (o : HealthOp) : HealthProg (HealthAns o) := request o

structure HealthCheckOptions where
  timeoutMs : ℚ := 600000
  intervalMs : ℕ := 10000
  apiPort : ℕ := 8000
  logTailLines : ℕ := 200
  commandTimeoutMs : ℕ := 10000
  useSudo : Bool := false

variable (options : HealthCheckOptions) (containerName : String)

def execSSH (command : Command) : HealthProg (Except String CommandResult) :=
  let needsSudo := options.useSudo && "docker".toList.isPrefixOf command.text.toList
  send (.exec command options.commandTimeoutMs needsSudo)

/-! ## Inspects -/

/-- What an attempt of `isContainerRunning` makes of the answer to an inspect. -/
inductive Inspected
  | running | stopped | notFound | authFailure | inconclusive
  deriving DecidableEq, Repr

/-- `/No such (object|container)/i` and `/not found/i`. -/
def missingPattern : Re :=
  alts [seqs [lit "No such ", alts [lit "object", lit "container"]], lit "not found"]

/-- `/permission denied|sudo: a password is required|a terminal is required/i` -/
def authPattern : Re :=
  alts [lit "permission denied", lit "sudo: a password is required", lit "a terminal is required"]

/-- The message of the error that an attempt throws when an inspect says nothing. -/
def ambiguous (success : Bool) (out stderr : String) : String :=
  s!"docker inspect ambiguous (success={success}, stdout=\"{out}\", stderr=\"{stderr}\")"

/-- The `catch` of an attempt. -/
def inspectThrew (msg : String) : Inspected :=
  if authPattern.test msg then .authFailure else .inconclusive

def inspected : Except String CommandResult → Inspected
  | .error msg => inspectThrew msg
  | .ok result =>
    let out := trim result.stdout
    let stderr := trim result.stderr
    if result.success && out = "true" then .running
    else if result.success && out = "false" then .stopped
    else if missingPattern.test stderr then .notFound
    else if authPattern.test stderr then .authFailure
    else inspectThrew (ambiguous result.success out stderr)

def maxSshAttempts : ℕ := 3

def retryDelayMs : ℕ := 5000

/-- The attempts of `isContainerRunning`, with the number of attempts left. -/
def inspectLoop : ℕ → HealthProg Bool
  | 0 => return true
  | left + 1 => do
    let answer ← execSSH options (.inspect containerName)
    match inspected answer with
    | .running => return true
    | .stopped => return false
    | .notFound =>
      if 0 < left then
        send (.sleep retryDelayMs)
        inspectLoop left
      else return false
    | .authFailure => return false
    | .inconclusive =>
      if 0 < left then
        send (.sleep retryDelayMs)
        inspectLoop left
      else return true

def isContainerRunning : HealthProg Bool := inspectLoop options containerName maxSshAttempts

/-! ## Polls -/

def checkHealthEndpoint : HealthProg Bool := do
  match ← execSSH options (.health options.apiPort) with
  | .ok result => return result.success
  | .error _ => return false

/-- The body of a response that succeeded and is not blank. -/
def responseBody : Except String CommandResult → Option String
  | .ok result =>
    if !result.success || trim result.stdout = "" then none else some result.stdout
  | .error _ => none

-- `JSON.parse`; `none` is a thrown `SyntaxError`
variable (jsonParse : String → Option Json)

/-- `Array.isArray(response.data) && response.data.length > 0` -/
def listsModels (response : Json) : Bool :=
  match response.field "data" with
  | some (.arr elems) => 0 < elems.length
  | _ => false

def checkModelsEndpoint : HealthProg Bool := do
  let answer ← execSSH options (.models options.apiPort)
  return ((responseBody answer).bind jsonParse).any listsModels

/-- The entry of a model; `id` and `maxModelLen` are what the response holds there. -/
structure VllmModelResponse where
  id : Json
  maxModelLen : Json
  raw : Json

/-- What `fetchModelInfo` reads in a response. -/
def readModelInfo (response : Json) : Option VllmModelResponse := do
  let data ← Json.nullish (response.field "data") none
  let modelData ← data.first
  if modelData.truthy then
    some ⟨(Json.nullish (modelData.field "id") none).getD (.str "unknown"),
      (Json.nullish (modelData.field "max_model_len") none).getD .null, modelData⟩
  else none

def fetchModelInfo : HealthProg (Option VllmModelResponse) := do
  let answer ← execSSH options (.models options.apiPort)
  return ((responseBody answer).bind jsonParse).bind readModelInfo

/-- The logs that a command has returned; empty logs count as none. -/
def returnedLogs : Except String CommandResult → Option String
  | .ok result => if result.stdout = "" then none else some result.stdout
  | .error _ => none

def getContainerLogs : HealthProg (Option String) := do
  let answer ← execSSH options (.logs options.logTailLines containerName)
  return returnedLogs answer

structure HealthCheckPollResult where
  healthy : Bool
  healthEndpointOk : Bool
  modelsEndpointOk : Bool
  containerRunning : Bool
  elapsedMs : ℤ
  errorClassification : Option HealthCheckErrorClassification
  containerLogs : Option String

/-- The classification of a container that is down. -/
def downClassification (logs : Option String) : HealthCheckErrorClassification :=
  (logs.bind classifyContainerLogs).getD
    (createDefaultClassification .containerCrash "Container exited unexpectedly")

def poll (elapsedMs : ℤ) : HealthProg HealthCheckPollResult := do
  let containerRunning ← isContainerRunning options containerName
  if containerRunning then
    let healthEndpointOk ← checkHealthEndpoint options
    let modelsEndpointOk ← checkModelsEndpoint options jsonParse
    if healthEndpointOk then
      -- the models endpoint has no say in it
      return ⟨true, true, modelsEndpointOk, true, elapsedMs, none, none⟩
    else if 60000 < elapsedMs then
      let logs ← getContainerLogs options containerName
      return ⟨false, false, false, true, elapsedMs, logs.bind classifyContainerLogs, logs⟩
    else return ⟨false, false, false, true, elapsedMs, none, none⟩
  else
    let logs ← getContainerLogs options containerName
    return ⟨false, false, false, false, elapsedMs, some (downClassification logs), logs⟩

/-! ## The wait -/

structure HealthCheckResult where
  healthy : Bool
  totalTimeMs : ℤ
  pollAttempts : ℕ
  errorClassification : Option HealthCheckErrorClassification
  containerLogs : Option String
  modelInfo : Option VllmModelResponse

structure HealthCheckServiceError where
  message : String
  modelId : String
  classification : HealthCheckErrorClassification
  result : HealthCheckResult

variable (modelId : String) (timeoutMs : ℚ) (startTime : ℤ)

/-- A request in a body that throws. -/
def call (o : HealthOp) : ExceptT HealthCheckServiceError (Prog HealthAns) (HealthAns o) :=
  ExceptT.lift (send o)

/-- The error of a poll that has found a fatal classification. -/
def fatalError (totalTimeMs : ℤ) (pollAttempts : ℕ) (c : HealthCheckErrorClassification)
    (logs : Option String) : HealthCheckServiceError where
  message := s!"Health check failed for model {modelId}: {c.message}"
  modelId := modelId
  classification := c
  result := ⟨false, totalTimeMs, pollAttempts, some c, logs, none⟩

def timeoutClassification (totalTimeMs : ℤ) (pollAttempts : ℕ) : HealthCheckErrorClassification where
  category := .timeout
  message := s!"Health check timed out after {totalTimeMs}ms ({pollAttempts} attempts)"
  isFatal := true
  recommendation := "The model may need more time to load. Try increasing healthCheckTimeoutMs or " ++
    "check if the model is too large for the available resources"
  matchedLogLines := []

/-- The error of a wait that has timed out. -/
def timeoutError (totalTimeMs : ℤ) (pollAttempts : ℕ) (logs : Option String) :
    HealthCheckServiceError :=
  let c := (logs.bind classifyContainerLogs).getD (timeoutClassification totalTimeMs pollAttempts)
  { message :=
      s!"Health check timed out after {totalTimeMs}ms for model {modelId}: {c.message}"
    modelId := modelId
    classification := c
    result := ⟨false, totalTimeMs, pollAttempts, some c, logs, none⟩ }

/-- How the loop of `waitForHealthy` is left without a throw. -/
inductive LoopEnd
  | healthy (result : HealthCheckResult)
  | timedOut (pollAttempts : ℕ)

/-- The `while` loop of `waitForHealthy`, after the given number of polls; `none` when it is still
waiting after the given rounds. -/
def pollLoop : ℕ → ℕ → ExceptT HealthCheckServiceError (Prog HealthAns) (Option LoopEnd)
  | 0, _ => return none
  | rounds + 1, polls => do
    let now ← call .now
    if ((now - startTime : ℤ) : ℚ) < timeoutMs then
      let pollAttempts := polls + 1
      let later ← call .now
      let result ← ExceptT.lift (poll options containerName jsonParse (later - startTime))
      if result.healthy then
        let finish ← call .now
        let modelInfo ← ExceptT.lift (fetchModelInfo options jsonParse)
        return some (.healthy ⟨true, finish - startTime, pollAttempts, none, none, modelInfo⟩)
      else
        match result.errorClassification.filter (·.isFatal) with
        | some c =>
          let finish ← call .now
          throw (fatalError modelId (finish - startTime) pollAttempts c result.containerLogs)
        | none =>
          call (.sleep options.intervalMs)
          pollLoop rounds pollAttempts
    else return some (.timedOut polls)

/-- `waitForHealthy`, for the given number of rounds. -/
def waitForHealthy (timeoutMsOverride : Option ℚ) (rounds : ℕ) :
    ExceptT HealthCheckServiceError (Prog HealthAns) (Option HealthCheckResult) := do
  let startTime ← call .now
  let timeoutMs := timeoutMsOverride.getD options.timeoutMs
  match ← pollLoop options containerName jsonParse modelId timeoutMs startTime rounds 0 with
  | none => return none
  | some (.healthy result) => return some result
  | some (.timedOut pollAttempts) =>
    let finish ← call .now
    let logs ← ExceptT.lift (getContainerLogs options containerName)
    throw (timeoutError modelId (finish - startTime) pollAttempts logs)

end Benchmarker.Health
