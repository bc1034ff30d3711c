import Benchmarker.Async.Ticks
import Benchmarker.Js.Regex

/-!
# The infrastructure guard

`CiEvalInfrastructureGuard`: every interval it checks the container, the SSH forward and the public
tunnel of a deployment. A check that finds another one under way returns at once (`checking`), so the
checks are a program on a timer. `ensureRestartPolicy` is issued by `start` and only logs its answer. The log
lines are left out, and `onTakeover` is given, as it is by the scheduler.

* `GuardOptions`, `GuardFields`, `GuardOp`, `GuardJs`: the options, the private fields that a check
  changes, the requests, and bodies that issue them.
* `ensureContainerRunning`, `ensureForwardHealthy`, `ensureNgrokHealthy`, `checkOnce`.
* `started`: the guard when `start` returns. `GuardRun`: what follows.
-/

namespace Benchmarker.Guard

open Async Async.Prog Js

structure GuardOptions where
  publicEndpointUrl : Option String := none
  /-- Whether `tunnelService` is given. -/
  hasTunnelService : Bool := false
  expectedModelId : Option String := none
  publicProbeFailureThreshold : ℕ := 3
  deriving DecidableEq, Repr

/-- The private fields. -/
structure GuardFields where
  fatal : Bool := false
  consecutivePublicFailures : ℕ := 0
  currentPublicUrl : Option String
  deriving DecidableEq, Repr

/-- The commands for the container of the deployment: three that inspect it, `docker start` and
`docker update --restart unless-stopped`. -/
inductive DockerCommand
  | inspectRunning
  | inspectStatus
  | inspectExit
  | start
  | updateRestart
  deriving DecidableEq, Repr

/-- The functions that ask the local endpoint for its models. -/
inductive LocalProbe
  | servedModelId
  | forward
  | afterForward
  | containerApi
  deriving DecidableEq, Repr

/-- The probes of `ensureNgrokHealthy`. -/
inductive PublicProbe
  | check
  | afterReconnect
  deriving DecidableEq, Repr

/-- The requests. `restartForward` stops and starts the SSH forward and waits until it is ready. -/
inductive GuardOp
  | exec (command : DockerCommand)
  | localModels (probe : LocalProbe)
  | publicModels (probe : PublicProbe) (url : String)
  | restartForward
  | reconnect
  | onTakeover (reason : String)
  | now
  | sleep (ms : ℕ)
  deriving DecidableEq, Repr

structure ExecResult where
  success : Bool
  stdout : String
  deriving DecidableEq, Repr

/-- A response of `/v1/models`: its status, and the first model id that reading the body gives. -/
structure ModelsResponse where
  ok : Bool
  served : Except String (Option String)

structure TunnelResult where
  success : Bool
  /-- The public URL of the tunnel, if there is one. -/
  tunnel : Option String
  deriving DecidableEq, Repr

/-- The answers; a request that throws is an `Except.error`. -/
@[reducible] def GuardAns : GuardOp → Type
  | .exec _ => Except String ExecResult
  | .localModels _ => Except String ModelsResponse
  | .publicModels _ _ => Except String Bool
  | .restartForward => Except String Bool
  | .reconnect => Except String TunnelResult
  | .onTakeover _ => Except String Unit
  | .now => ℕ
  | .sleep _ => Unit

/-- The body of a method. -/
abbrev GuardJs (α : Type) : Type := ExceptT String (StateT GuardFields (Prog GuardAns)) α

abbrev send (o : GuardOp) : GuardJs (GuardAns o) := ask o

def exec (command : DockerCommand) : GuardJs ExecResult := do
  orThrow (← send (.exec command))

/-! ## Probes -/

/-- Whether the endpoint answered with a success. -/
def up : Except String ModelsResponse → Bool
  | .ok response => response.ok
  | .error _ => false

/-- `probeLocalEndpoint`. -/
def probeLocalEndpoint (probe : LocalProbe) : GuardJs Bool := do
  return up (← send (.localModels probe))

/-- Whether the public endpoint answered with a success. -/
def passed : Except String Bool → Bool
  | .ok ok => ok
  | .error _ => false

/-- `url.replace(/\/+$/, '')`. -/
def stripSlashes (url : String) : String :=
  String.ofList (url.toList.reverse.dropWhile (· = '/')).reverse

/-- `probePublicEndpoint`. -/
def probePublicEndpoint (probe : PublicProbe) : GuardJs Bool := do
  match (← get).currentPublicUrl.map stripSlashes with
  | none => return true
  | some base =>
    if base = "" then return true
    else return passed (← send (.publicModels probe base))

/-- What `servedModelId` makes of a response. -/
def servedId : Except String ModelsResponse → Option String
  | .error _ => none
  | .ok response =>
    if response.ok then
      match response.served with
      | .ok id => id
      | .error _ => none
    else none

def servedModelId : GuardJs (Option String) := do
  return servedId (← send (.localModels .servedModelId))

/-! ## The container -/

def markTakeover (reason : String) : GuardJs Unit := do
  if (← get).fatal then return
  else
    modify fun fields => { fields with fatal := true }
    orThrow (← send (.onTakeover reason))

/-- The standard output says that the container is running. -/
def saysRunning (result : ExecResult) : Bool :=
  result.success && trimChars result.stdout.toList = "true".toList

def isContainerRunning : GuardJs Bool := do
  return saysRunning (← exec .inspectRunning)

def containerExists : GuardJs Bool := do
  return (← exec .inspectStatus).success

/-- The loop of `waitForContainerApi`, for at most the given number of rounds. -/
def containerApiLoop (start maxWaitMs : ℕ) : ℕ → GuardJs Unit
  | 0 => return
  | rounds + 1 => do
    let now ← send .now
    if now - start < maxWaitMs then
      if ← probeLocalEndpoint .containerApi then return
      else
        let _ ← send (.sleep 10000)
        containerApiLoop start maxWaitMs rounds
    else return

def waitForContainerApi (rounds : ℕ) : GuardJs Unit := do
  let start ← send .now
  containerApiLoop start 600000 rounds

/-- The model that the container is expected to serve. -/
def GuardOptions.expected (options : GuardOptions) : Option String :=
  options.expectedModelId.filter (· ≠ "")

/-- The check of the served model, while the container is running. -/
def checkServed (options : GuardOptions) : GuardJs Unit := do
  match options.expected with
  | none => return
  | some expected =>
    match (← servedModelId).filter (· ≠ "") with
    | none => return
    | some served =>
      if served = expected then return
      else markTakeover s!"endpoint serves foreign model \"{served}\" (expected \"{expected}\")"

/-- The takeover by a removal of the container. -/
def markRemoved : GuardJs Unit := do
  match (← servedModelId).filter (· ≠ "") with
  | some served => markTakeover s!"container removed externally; endpoint now serves \"{served}\""
  | none => markTakeover "container removed externally"

/-- The start of a container that is stopped. -/
def startContainer (rounds : ℕ) : GuardJs Unit := do
  let _ ← exec .inspectExit
  if (← exec .start).success then waitForContainerApi rounds else return

def ensureContainerRunning (options : GuardOptions) (rounds : ℕ) : GuardJs Unit := do
  if (← get).fatal then return
  else if ← isContainerRunning then checkServed options
  else if ← containerExists then startContainer rounds
  else markRemoved

/-! ## The forward and the tunnel -/

def ensureForwardHealthy : GuardJs Unit := do
  if ← probeLocalEndpoint .forward then return
  else if ← orThrow (← send .restartForward) then
    let _ ← probeLocalEndpoint .afterForward
    return
  else return

def setFailures (failures : ℕ) : GuardJs Unit :=
  modify fun fields => { fields with consecutivePublicFailures := failures }

/-- The end of `ensureNgrokHealthy`, with the URL that the reconnect handed back. -/
def adoptUrl (url : String) : GuardJs Unit := do
  modify fun fields => { fields with currentPublicUrl := some url }
  let _ ← probePublicEndpoint .afterReconnect
  setFailures 0

/-- The reconnect of `ensureNgrokHealthy`. -/
def reconnectTunnel : GuardJs Unit := do
  let result ← orThrow (← send .reconnect)
  match if result.success then result.tunnel else none with
  | none => return
  | some url => adoptUrl url

def ensureNgrokHealthy (options : GuardOptions) : GuardJs Unit := do
  if options.hasTunnelService && (← get).currentPublicUrl.any (· ≠ "") then
    if ← probePublicEndpoint .check then setFailures 0
    else
      let failures := (← get).consecutivePublicFailures + 1
      setFailures failures
      if failures < options.publicProbeFailureThreshold then return
      else reconnectTunnel
  else return

/-! ## Checks -/

/-- The `try` block of `checkOnce`. -/
def checks (options : GuardOptions) (rounds : ℕ) : GuardJs Unit := do
  ensureContainerRunning options rounds
  ensureForwardHealthy
  ensureNgrokHealthy options

/-- `checkOnce`, while no other check is under way: the fields after it. -/
def checkOnce (options : GuardOptions) (rounds : ℕ) (fields : GuardFields) :
    Prog GuardAns GuardFields :=
  if fields.fatal then return fields
  else do
    let result ← (checks options rounds).run.run fields
    return result.2

/-- What a guard shows. -/
abbrev GuardItem (W : Type) : Type := Item GuardAns W

/-- The guard when `start` returns: the restart policy has been requested, and the first check is under
way. -/
def started (W : Type) (options : GuardOptions) (rounds : ℕ) : Timed GuardAns GuardFields W :=
  .settle true [.issue (.exec .updateRestart)]
    (checkOnce options rounds { currentPublicUrl := options.publicEndpointUrl })

/-- The guard after ticks, answers and stops. -/
def GuardRun {W : Type} (options : GuardOptions) (rounds : ℕ) : Timed GuardAns GuardFields W → Prop :=
  Timed.Reach (checkOnce options rounds) (started W options rounds)

end Benchmarker.Guard
