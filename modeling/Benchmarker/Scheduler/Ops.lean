import Benchmarker.Async.Prog
import Benchmarker.Scheduler.State

/-!
# The requests of the scheduler

Everything a method of the scheduler or of Stage 1 waits for or shares with the methods that run
beside it: calls of the queue service, calls of the other services, the private state, the clock
and the source of run ids. A call whose promise is dropped (`void …`) is a request whose answer is
ignored.

* `ExtOp`, `ExtVal`: the other services. `SchedOp`, `SchedAns`: all requests and their answers.
* `SchedJs`: the body of a method, with the requests that it may issue.
* `SchedOp.forks`: the background tasks that a request starts.
-/

namespace Benchmarker

open Async Async.Prog

/-- Calls of the services around the scheduler. -/
inductive ExtOp
  -- the engine
  | findRunningDeployment (modelId : String)
  | deploy (model : ModelInfo) (hardware : VMHardwareProfile)
      (overrides : Option VllmDeploymentOptions)
  | runBenchmarks (modelId : String) (concurrencyLevels : List ℕ) (deploymentName : String)
      (paramBillions : Option ℚ)
  | stop (deploymentName : String)
  -- Stage 1
  | parseCard (modelId : String)
  | toolCallBenchmark (modelId : String)
  | fetchModelConfig (modelId : String)
  -- the results store
  | getLatestReasoningResult (modelId : String)
  | saveBenchmark (record : BenchmarkResult)
  | saveStage2Result (result : Stage2Result)
  | saveCIEvalResult (result : CIEvalResult)
  | getCIEvalResults (modelId : String) (limit : ℕ)
  | saveReasoningResult (result : Stage3Result)
  | buildRecommendationReport (run : PipelineRun)
  | saveRecommendationReport (report : RecommendationReport)
  -- the public endpoint
  | startResolve (directUrl : String)
  | awaitResolve
  | dropResolve
  | resolveEndpoint (directUrl : String) (tunnelEnabled : Bool)
  | cleanupEndpoint (cleanup : ℕ)
  -- the later stages
  | resolveSkipLocalBatchSuites (pluginDir : Option String) (modelId : String) (queueEntryId : ℕ)
      (evalSuites : List String)
  | stage2Execute (run : PipelineRun)
  | stage3Execute (run : PipelineRun)
  | onModelCompleted (modelId : String)
  | notifyVerdict (report : RecommendationReport)
  -- CI evals
  | smokeTest (endpointUrl modelId : String)
  | buildConnectorPayload (endpointUrl modelId : String)
  | createOnDemandBuildOrAdopt (options : TriggerOnDemandOptions)
  | waitForBuild (pipelineSlug : String) (buildNumber : ℕ) (buildUrl : String)
  | getBuildState (pipelineSlug : String) (buildNumber : ℕ)
  | downloadArtifact (url : String)
  | sleep (ms : ℕ)
  | guardStart (job : DetachedPoll)
  | guardTakeover
  | guardStop
  -- stored cooldowns
  | persistModelCooldown (modelId : String) (expireAt : Time) (errorType : String) (count : ℕ)
  | clearModelCooldown (modelId : String)
  | loadActiveModelCooldowns
  -- shutdown
  | drainActiveRuns
  | pollSettled (queueEntryId : ℕ)
  deriving DecidableEq

/-- The values that the services return. -/
@[reducible] def ExtVal : ExtOp → Type
  | .findRunningDeployment _ => Option RunningDeployment
  | .deploy _ _ _ => EngineDeploymentResult
  | .runBenchmarks _ _ _ _ => EngineFullBenchmarkResult
  | .parseCard _ => HFCard
  | .toolCallBenchmark _ => Option ToolCallResult
  /- the context window that the fetched `config.json` gives, if it could be fetched -/
  | .fetchModelConfig _ => Option ℕ
  | .getLatestReasoningResult _ => Option Stage3Result
  | .getCIEvalResults _ _ => List CIEvalResult
  | .buildRecommendationReport _ => RecommendationReport
  | .awaitResolve | .resolveEndpoint _ _ => PublicEndpointResult
  | .resolveSkipLocalBatchSuites _ _ _ _ => List String
  | .stage2Execute _ => Stage2Result
  | .stage3Execute _ => Stage3Result
  | .smokeTest _ _ => SmokeTestResult
  | .buildConnectorPayload _ _ => String × String
  | .createOnDemandBuildOrAdopt _ => Except String BuildkiteTriggeredBuild
  | .waitForBuild _ _ _ => BuildkiteBuildResult
  | .getBuildState _ _ => Option String
  /- what `JSON.parse` makes of the artifact, unless it is missing or not JSON -/
  | .downloadArtifact _ => Option Js.Json
  | .guardTakeover => String
  | .loadActiveModelCooldowns => List (String × Time)
  | .stop _ | .saveBenchmark _ | .saveStage2Result _ | .saveCIEvalResult _
  | .saveReasoningResult _ | .saveRecommendationReport _ | .startResolve _ | .dropResolve
  | .cleanupEndpoint _ | .onModelCompleted _ | .notifyVerdict _ | .sleep _ | .guardStart _
  | .guardStop | .persistModelCooldown _ _ _ _ | .clearModelCooldown _ | .drainActiveRuns
  | .pollSettled _ => Unit

/-- The requests of the scheduler. `stage1Failed` is the log line of Stage 1's `catch`. -/
inductive SchedOp
  | queue (c : QueueCall)
  | ext (x : ExtOp)
  | own (a : OwnOp)
  | now
  | randomUUID
  | stage1Failed (message : String)
  deriving DecidableEq

/-- The answers to the requests: a call of a service may throw. -/
@[reducible] def SchedAns : SchedOp → Type
  | .queue c => QueueRet c
  | .ext x => Except JsError (ExtVal x)
  | .own a => OwnAns a
  | .now => Time
  | .randomUUID => String
  | .stage1Failed _ => Unit

/-- The body of a method. -/
abbrev SchedJs (α : Type) : Type := ExceptT JsError (Prog SchedAns) α

/-- Send one request. -/
abbrev schedRequest (o : SchedOp) : Prog SchedAns (SchedAns o) := request o

/-- Await a call of the queue service. -/
def queueCall (c : QueueCall) : SchedJs (QueueVal c) := ExceptT.mk (schedRequest (.queue c))

/-- Await a call of another service. -/
def extCall (x : ExtOp) : SchedJs (ExtVal x) := ExceptT.mk (schedRequest (.ext x))

/-- Start a call of another service and drop its promise. -/
def extFire (x : ExtOp) : SchedJs Unit := do
  let _ ← attempt (extCall x)
  return ()

/-- An uninterrupted piece of the scheduler's own code. -/
def own (a : OwnOp) : SchedJs (OwnAns a) := ExceptT.lift (schedRequest (.own a))

/-- `Date.now()`. -/
def clock : SchedJs Time := ExceptT.lift (schedRequest .now)

/-- `crypto.randomUUID()`. -/
def newRunId : SchedJs String := ExceptT.lift (schedRequest .randomUUID)

/-! ## Fixed answers -/

section Eval

variable {env : ∀ o, SchedAns o}

@[simp] theorem eval_queueCall (c : QueueCall) :
    (queueCall c).run.eval env = env (.queue c) := rfl

@[simp] theorem eval_extCall (x : ExtOp) : (extCall x).run.eval env = env (.ext x) := rfl

@[simp] theorem eval_own (a : OwnOp) : (own a).run.eval env = .ok (env (.own a)) := rfl

@[simp] theorem eval_clock : clock.run.eval env = .ok (env .now) := rfl

@[simp] theorem eval_extFire (x : ExtOp) : (extFire x).run.eval env = .ok () := rfl

end Eval

/-! ## Background tasks -/

/-- The methods that run without being awaited. -/
inductive SchedCall
  | start
  | poll
  | stop
  | processEntry (entry : QueueEntry) (resume : Bool)
  | detachedPoll (job : DetachedPoll)
  | guard (job : DetachedPoll)
  deriving DecidableEq

/-- The background tasks that a request starts. -/
def SchedOp.forks : SchedOp → List SchedCall
  | .own (.beginRun entry resume) => [.processEntry entry resume]
  | .own (.deferPoll job) => [.detachedPoll job]
  | .ext (.guardStart job) => [.guard job]
  | _ => []

end Benchmarker
