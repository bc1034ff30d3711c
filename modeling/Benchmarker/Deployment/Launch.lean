import Benchmarker.Config.Tiers
import Benchmarker.Deployment.Disk
import Benchmarker.Deployment.Names
import Benchmarker.Deployment.Params
import Benchmarker.Health.Wait
import Benchmarker.Results.Document
import Benchmarker.Scheduler.Data

/-!
# Deploying a model

`VllmDeploymentService` as programs over the commands that it runs on the host: the launch of a container
and what comes before and after it, and the containers that are listed and stopped. A command may throw.
The log lines are left out.

* `HostCommand`, `HostOp`, `DeployError`, `ServiceOptions`: the commands, the requests, what is thrown, and
  the options.
* `estimateModelDiskGb`, `listContainers`, `stopExistingContainers`, `pullImage`: before a launch.
* `buildDockerRunCommand`, `launch`: the launch. `detectMaxModelLen`, `resolveVllmVersion`: after it.
* `deploy`, `stop`, `findRunningDeployment`.
-/

namespace Benchmarker.Deployment

open Async Async.Prog Js Js.Re

/-! ## Requests -/

/-- A `docker run` with the arguments in `args`; two of them name the container and the model. -/
structure RunCommand where
  containerName : String
  modelId : String
  args : List String
  deriving DecidableEq, Repr

def RunCommand.text (command : RunCommand) : String := " \\\n  ".intercalate command.args

inductive HostCommand
  | ps
  | remove (containerName : String)
  | stopRemove (containerName : String)
  | localDigest (image : String)
  | remoteDigest (image : String)
  | pull (image : String)
  | run (command : RunCommand)
  | models (apiPort : ℕ)
  | version (containerName : String)
  deriving DecidableEq, Repr

def HostCommand.text : HostCommand → String
  | .ps => "docker ps -a --filter \"ancestor=vllm/vllm-openai\" --format \"" ++
    "\x7b\x7b.ID\x7d\x7d|\x7b\x7b.Names\x7d\x7d|\x7b\x7b.State\x7d\x7d|\x7b\x7b.Image\x7d\x7d|" ++
    "\x7b\x7b.Status\x7d\x7d\""
  | .remove containerName => "docker rm -f " ++ containerName
  | .stopRemove containerName => "docker stop " ++ containerName ++ " && docker rm " ++ containerName
  | .localDigest image => "docker inspect --format='\x7b\x7bindex .RepoDigests 0\x7d\x7d' " ++ image ++
    " 2>/dev/null || echo 'NOT_FOUND'"
  | .remoteDigest image => "docker manifest inspect " ++ image ++
    " 2>/dev/null | grep -m1 '\"digest\"' | cut -d'\"' -f4 || echo 'UNKNOWN'"
  | .pull image => "docker pull " ++ image
  | .run command => command.text
  | .models apiPort => "curl -sf http://localhost:" ++ toString apiPort ++ "/v1/models"
  | .version containerName => "docker exec " ++ containerName ++
    " pip show vllm 2>/dev/null | grep -i '^Version:' | awk '\x7bprint $2\x7d'"

inductive HostOp
  | servedWeight (modelId : String)
  | disk (o : DiskOp)
  | exec (command : HostCommand) (timeout : ℕ) (asRoot : Bool)
  | health (o : Health.HealthOp)
  | gpuUtilization
  | now

/-- The answers; a request that throws gives the message of its error. -/
@[reducible] def HostAns : HostOp → Type
  | .servedWeight _ => Except String (Option ℚ)
  | .disk o => DiskAns o
  | .exec _ _ _ => Except String CommandResult
  | .health o => Health.HealthAns o
  | .gpuUtilization => Option Results.GpuUtilization
  | .now => Time

/-! ## Errors -/

inductive ContainerOperation
  | stop | pull | run | inspect
  deriving DecidableEq, Repr

def ContainerOperation.text : ContainerOperation → String
  | .stop => "stop"
  | .pull => "pull"
  | .run => "run"
  | .inspect => "inspect"

structure ContainerError where
  modelId : String
  operation : ContainerOperation
  containerName : String
  cause : String
  deriving DecidableEq

def ContainerError.message (e : ContainerError) : String :=
  "Docker " ++ e.operation.text ++ " failed for container '" ++ e.containerName ++ "' (model: " ++
    e.modelId ++ "): " ++ e.cause

/-- What a deployment throws: the error of a command, a `ContainerError`, or that of a health check. -/
inductive DeployError
  | command (message : String)
  | container (error : ContainerError)
  | health (error : Health.HealthCheckServiceError)

abbrev DeployProg (α : Type) : Type := ExceptT DeployError (Prog HostAns) α

/-! ## Options -/

structure ServiceOptions extends DiskOptions where
  dockerImage : String := "vllm/vllm-openai:latest"
  containerNamePrefix : String := defaultContainerNamePrefix
  apiPort : ℕ := 8000
  pullTimeoutMs : ℕ := 600000
  runTimeoutMs : ℕ := 30000
  stopTimeoutMs : ℕ := 60000
  healthCheckTimeoutMs : ℚ := 1800000
  healthCheckIntervalMs : ℕ := 10000
  healthCheckTimeoutSecondsTiers : List HealthCheckTimeoutTier := []
  additionalDockerArgs : List String := []
  chatTemplate : Option String := none
  maxModelLen : Option (WithTop ℕ) := none
  gpuMemoryUtilization : ℚ := 95 / 100
  huggingfaceToken : Option String := none
  otlpTracesEndpoint : Option String := none
  modelLoadHeadroomGb : ℚ := 20

variable (service : ServiceOptions)

def execHost (command : HostCommand) (timeout : ℕ) : DeployProg CommandResult := do
  let answer : Except String CommandResult ←
    ExceptT.lift (request (HostOp.exec command timeout service.useSudo))
  match answer with
  | .ok result => return result
  | .error message => throw (.command message)

/-! ## Before a launch -/

/-- `BYTES_PER_PARAM`. -/
def bytesPerParam : List (String × ℚ) := [
  ("fp32", 4), ("fp16", 2), ("bf16", 2), ("fp8", 1), ("int8", 1), ("int4", 1 / 2), ("gptq-4bit", 1 / 2),
  ("gptq-8bit", 1), ("awq-4bit", 1 / 2), ("gptq", 1 / 2), ("awq", 1 / 2), ("4bit", 1 / 2), ("8bit", 1),
  ("nvfp4", 1 / 2), ("nvfp4-pack-quantized", 1 / 2), ("fp4", 1 / 2), ("nf4", 1 / 2), ("bnb", 1 / 2),
  ("bnb-4bit", 1 / 2), ("bitsandbytes", 1 / 2), ("w4a16", 1 / 2), ("compressed-tensors", 1 / 2),
  ("int3", 3 / 8), ("w8a8", 1), ("fp8-dynamic", 1)]

def getBytesPerParamForQuantizations (quantizations : List String) : ℚ :=
  quantizations.foldl (fun best quant => min best ((bytesPerParam.lookup (toLowerCase quant)).getD best)) 2

def estimateModelDiskGb (model : ModelInfo) : Prog HostAns (Option ℚ) := do
  let answer : Except String (Option ℚ) ← request (HostOp.servedWeight model.id)
  match answer with
  | .ok (some gb) => return some (Rat.ceil (gb + service.modelLoadHeadroomGb))
  | .ok none | .error _ =>
    return (model.parameterCount.filter (0 < ·)).map fun count =>
      let weightsGb := count * getBytesPerParamForQuantizations model.quantizations / 1024 ^ 3
      ((Rat.ceil (weightsGb + service.modelLoadHeadroomGb) : ℤ) : ℚ)

structure ContainerStatus where
  containerId : String
  containerName : String
  state : String
  image : String
  status : String
  deriving DecidableEq

/-- A line of `docker ps`; a column that is missing is empty. -/
def parseContainerLine (line : List Char) : ContainerStatus :=
  let column (i : ℕ) : String := String.ofList ((line.splitOn '|').getD i [])
  ⟨column 0, column 1, column 2, column 3, column 4⟩

def parseContainers (stdout : String) : List ContainerStatus :=
  if trim stdout = "" then []
  else (((trimChars stdout.toList).splitOn '\n').filter fun line => trimChars line ≠ []).map
    parseContainerLine

def listContainers : DeployProg (List ContainerStatus) := do
  let result ← execHost service .ps service.stopTimeoutMs
  return if result.success then parseContainers result.stdout else []

/-- The loop of `stopExistingContainers`. -/
def removeContainers : List ContainerStatus → DeployProg Unit
  | [] => return ()
  | container :: containers => do
    let _ ← attempt (execHost service (.remove container.containerName) service.stopTimeoutMs)
    removeContainers containers

def stopExistingContainers : DeployProg Unit := do
  let containers ← listContainers service
  removeContainers service containers

/-- `stderr || stdout` -/
def outputOf (result : CommandResult) : String :=
  if result.stderr = "" then result.stdout else result.stderr

/-- The digest in an answer; a failure leaves it empty. -/
def digestOf (result : CommandResult) : String := if result.success then trim result.stdout else ""

/-- The image is there with the digest that the registry has. -/
def imageUpToDate : DeployProg Bool := do
  let localResult ← execHost service (.localDigest service.dockerImage) 30000
  let remoteResult ← execHost service (.remoteDigest service.dockerImage) 30000
  let localDigest := digestOf localResult
  let remoteDigest := digestOf remoteResult
  return 10 < localDigest.length && 10 < remoteDigest.length && includes localDigest remoteDigest

def pullImage (modelId : String) : DeployProg Unit := do
  match ← attempt (imageUpToDate service) with
  | .ok true => return ()
  | .ok false | .error _ =>
    let result ← execHost service (.pull service.dockerImage) service.pullTimeoutMs
    if result.success then return ()
    else throw (.container ⟨modelId, .pull, service.dockerImage,
      "docker pull failed: " ++ outputOf result⟩)

/-! ## The launch -/

-- the text that `String` gives for a number
variable (print : ℚ → String)

def lengthText (n : WithTop ℕ) : String := if n = ⊤ then "Infinity" else print (n.untopD 0 : ℕ)

def buildDockerRunCommand (model : ModelInfo) (containerName : String) (tensorParallelSize : ℕ)
    (overrides : VllmDeploymentOptions) : RunCommand :=
  let params := getVllmParamsForModel model.id (some model.architecture)
  let maxModelLen := overrides.maxModelLen.or service.maxModelLen
  let gpuMemoryUtilization := overrides.gpuMemoryUtilization.getD service.gpuMemoryUtilization
  let otlp := service.otlpTracesEndpoint.filter (· ≠ "")
  let port := toString service.apiPort
  { containerName
    modelId := model.id
    args := ["docker run -d", "--name " ++ containerName, "--gpus all", "--shm-size=16g"] ++
      (if service.hfCacheVolume = "" then []
        else ["-v " ++ service.hfCacheVolume ++ ":/root/.cache/huggingface"]) ++
      [if otlp.isSome then "--network host" else "-p " ++ port ++ ":8000"] ++
      ["-e HF_TOKEN=" ++ service.huggingfaceToken.getD "$\x7bHF_TOKEN\x7d"] ++
      (if maxModelLen.any fun n => ((32768 : ℕ) : WithTop ℕ) < n then
        ["-e VLLM_ALLOW_LONG_MAX_MODEL_LEN=1"] else []) ++
      [service.dockerImage, "--model " ++ model.id, "--tensor-parallel-size " ++
        toString tensorParallelSize, "--gpu-memory-utilization " ++ print gpuMemoryUtilization,
        "--max-model-len " ++ (maxModelLen.map (lengthText print)).getD "auto"] ++
      (if otlp.isSome then ["--port " ++ port] else []) ++
      (match params.toolCallParser with
        | some parser => ["--tool-call-parser " ++ parser, "--enable-auto-tool-choice"] ++
          (((overrides.chatTemplate.or service.chatTemplate).or params.chatTemplate).filter
            (· ≠ "")).toList.map ("--chat-template " ++ ·) ++ params.extraArgs
        | none => []) ++
      otlp.toList.map ("--otlp-traces-endpoint " ++ ·) ++
      overrides.additionalDockerArgs.getD service.additionalDockerArgs }

/-- `/already in use|Conflict\b/i` -/
def conflictPattern : Re := alts [lit "already in use", seq (lit "Conflict") wordBoundary]

/-- The run, with one more try when the name is still taken. -/
def launch (command : RunCommand) : DeployProg CommandResult := do
  let runResult ← execHost service (.run command) service.runTimeoutMs
  if !runResult.success && conflictPattern.test (outputOf runResult) then
    let _ ← execHost service (.remove command.containerName) service.stopTimeoutMs
    execHost service (.run command) service.runTimeoutMs
  else return runResult

/-! ## After a launch -/

-- `JSON.parse`; `none` is a thrown `SyntaxError`
variable (jsonParse : String → Option Json)

/-- `response.data?.[0]?.max_model_len`, unless it counts as false. -/
def maxModelLenOf (response : Json) : Option Json := do
  let data ← Json.nullish (response.field "data") none
  let modelData ← data.first
  (modelData.field "max_model_len").filter Json.truthy

/-- A length that is configured is the answer. -/
def configuredLength (n : WithTop ℕ) : Json := .num (n.untopD 0 : ℕ) (lengthText print n)

def detectMaxModelLen : DeployProg (Option Json) := do
  match service.maxModelLen with
  | some n => return some (configuredLength print n)
  | none =>
    match ← attempt (execHost service (.models service.apiPort) 10000) with
    | .ok result => return ((Health.responseBody (.ok result)).bind jsonParse).bind maxModelLenOf
    | .error _ => return none

/-- The length that the health check reports, else the one that is detected. -/
def resolveMaxModelLen (healthCheckResult : Health.HealthCheckResult) : DeployProg (Option Json) :=
  match Json.nullish (healthCheckResult.modelInfo.map (·.maxModelLen)) none with
  | some maxModelLen => pure (some maxModelLen)
  | none => detectMaxModelLen service print jsonParse

/-- `/^\d+\.\d+/` at the start of a text. -/
def isVersion (text : String) : Bool :=
  !((seqs [plus digit, chr (· = '.'), digit]).ends ⟨none, text.toList⟩).isEmpty

def resolveVllmVersion (containerName : String) : DeployProg String := do
  match ← attempt (execHost service (.version containerName) 15000) with
  | .ok result =>
    let version := trim result.stdout
    return if isVersion version then "vllm/vllm-openai:v" ++ version else service.dockerImage
  | .error _ => return service.dockerImage

/-! ## The service -/

structure DeploymentResult where
  containerId : String
  containerName : String
  dockerCommand : String
  modelId : String
  toolCallParser : String
  tensorParallelSize : ℕ
  maxModelLen : Option Json
  apiEndpoint : String
  timestamp : Time
  dockerImage : String
  healthCheckResult : Health.HealthCheckResult
  gpuUtilization : Option Results.GpuUtilization

variable (sshHost : String) (rounds : ℕ)

def healthOptions : Health.HealthCheckOptions where
  timeoutMs := service.healthCheckTimeoutMs
  intervalMs := service.healthCheckIntervalMs
  apiPort := service.apiPort
  useSudo := service.useSudo

/-- The wait for the container; `none` when it is still waiting after the given rounds. -/
def waitForContainer (model : ModelInfo) (containerName : String) :
    DeployProg (Option Health.HealthCheckResult) := do
  let timeoutMs := resolveHealthCheckTimeoutMsFromTiers service.healthCheckTimeoutSecondsTiers
    service.healthCheckTimeoutMs (model.parameterCount.map (· / 10 ^ 9))
  let wait := Health.waitForHealthy (healthOptions service) containerName jsonParse model.id
    (some timeoutMs) rounds
  match ← ExceptT.lift (wait.run.expand fun o => request (HostOp.health o)) with
  | .ok result => return result
  | .error error => throw (.health error)

/-- What is reported of a container that is up. -/
def describe (model : ModelInfo) (command : RunCommand) (tensorParallelSize : ℕ)
    (runResult : CommandResult) (healthCheckResult : Health.HealthCheckResult) :
    DeployProg DeploymentResult := do
  let maxModelLen ← resolveMaxModelLen service print jsonParse healthCheckResult
  let gpuUtilization ← ExceptT.lift (request HostOp.gpuUtilization)
  let dockerImage ← resolveVllmVersion service command.containerName
  let timestamp ← ExceptT.lift (request HostOp.now)
  return {
    containerId := trim runResult.stdout
    containerName := command.containerName
    dockerCommand := command.text
    modelId := model.id
    toolCallParser := (getVllmParamsForModel model.id (some model.architecture)).toolCallParser.getD ""
    tensorParallelSize, maxModelLen
    apiEndpoint := "http://" ++ sshHost ++ ":" ++ toString service.apiPort
    timestamp, dockerImage, healthCheckResult, gpuUtilization }

/-- The part of `deploy` that follows a launch that has succeeded. -/
def settle (model : ModelInfo) (command : RunCommand) (tensorParallelSize : ℕ)
    (runResult : CommandResult) : DeployProg (Option DeploymentResult) := do
  match ← attempt (waitForContainer service jsonParse rounds model command.containerName) with
  | .ok none => return none
  | .ok (some healthCheckResult) =>
    let result ← describe service print jsonParse sshHost model command tensorParallelSize runResult
      healthCheckResult
    return some result
  | .error error =>
    let _ ← attempt (execHost service (.remove command.containerName) service.stopTimeoutMs)
    throw error

/-- `deploy`; `none` when the container is still loading after the given rounds. -/
def deploy (model : ModelInfo) (hardwareProfile : VMHardwareProfile)
    (overrides : VllmDeploymentOptions) : DeployProg (Option DeploymentResult) := do
  let containerName := modelIdToContainerName model.id service.containerNamePrefix
  let tensorParallelSize := hardwareProfile.gpuCount
  let estimatedModelGb ← ExceptT.lift (estimateModelDiskGb service model)
  ExceptT.lift ((ensureDiskSpace service.toDiskOptions (some model.id) estimatedModelGb).expand
    fun o => request (HostOp.disk o))
  stopExistingContainers service
  pullImage service model.id
  let _ ← execHost service (.remove containerName) service.stopTimeoutMs
  let command := buildDockerRunCommand service print model containerName tensorParallelSize overrides
  let runResult ← launch service command
  if runResult.success then
    settle service print jsonParse sshHost rounds model command tensorParallelSize runResult
  else throw (.container ⟨model.id, .run, containerName, "docker run failed: " ++ outputOf runResult⟩)

def stop (containerName : String) : DeployProg Bool := do
  let result ← execHost service (.stopRemove containerName) service.stopTimeoutMs
  if !result.success && !includes result.stderr "No such container" then
    let _ ← execHost service (.remove containerName) service.stopTimeoutMs
    return false
  else return result.success

/-- `VllmEngine.findRunningDeployment`. The engine asks for the name with the default prefix. -/
def findRunningDeployment (modelId : String) : DeployProg (Option RunningDeployment) := do
  let expectedName := modelIdToContainerName modelId defaultContainerNamePrefix
  let containers ← listContainers service
  return (containers.find? fun c =>
    c.containerName = expectedName && toLowerCase c.state = "running").map fun c =>
      ⟨c.containerName, "http://" ++ sshHost ++ ":" ++ toString service.apiPort⟩

end Benchmarker.Deployment
