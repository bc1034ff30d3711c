import Mathlib.Algebra.Order.Ring.Unbundled.Rat
import Mathlib.Algebra.Field.Rat
import Benchmarker.Health.Logs
import Benchmarker.Breaker.Tally

/-!
# Error recovery

`ErrorRecoveryService`: an error is classified, counted by the circuit breaker if it should be, and
answered with a recovery action. The handler that skips a model counts the error once more.

* `classifyError`, `createContext`, `execute`.
* `Once`: a handled error is one failure if it is to be recorded, and none otherwise.
* **`handled_once_iff`**: that is so exactly for the errors that do not skip their model, and in a
  session of such errors a circuit opens only after as many errors as its threshold.
-/

namespace Benchmarker.Recovery

open Js Js.Re Breaker

/-! ## Errors -/

inductive ErrorCategory
  | sshConnection | sshTimeout | dockerCrash | benchmarkTimeout | oom | fatalModelError | transient
  | unknown
  deriving DecidableEq, Repr

/-- The text of a category, as the breaker stores it. -/
def ErrorCategory.text : ErrorCategory → String
  | .sshConnection => "ssh_connection"
  | .sshTimeout => "ssh_timeout"
  | .dockerCrash => "docker_crash"
  | .benchmarkTimeout => "benchmark_timeout"
  | .oom => "oom"
  | .fatalModelError => "fatal_model_error"
  | .transient => "transient"
  | .unknown => "unknown"

inductive RecoveryAction
  | retryWithBackoff | cleanupAndRetry | skipModel | gracefulTerminate | abort
  deriving DecidableEq, Repr

/-- The class of an error, with the fields that the service reads. A transfer error is an SSH error. -/
inductive ErrorClass
  | sshConnection (host : String)
  | sshTimeout (host command : String)
  | healthCheckService (modelId : String) (classification : HealthCheckErrorClassification)
  | container (operation containerName : String)
  | healthCheck (modelId : String) (timeoutMs : ℕ)
  | vllmDeployment (modelId : String)
  | ssh (host : String)
  | plain
  deriving DecidableEq

structure RecoverableError where
  cls : ErrorClass
  message : String
  deriving DecidableEq

structure ErrorRecoveryDecision where
  category : ErrorCategory
  action : RecoveryAction
  shouldRecordInCircuitBreaker : Bool
  maxRetries : ℕ
  baseDelayMs : ℚ
  explanation : String
  isModelSpecific : Bool
  deriving DecidableEq

/-- `ErrorRecoveryOptions`, with every default filled in. -/
structure ErrorRecoveryOptions where
  maxSshRetries : ℕ := 3
  sshRetryBaseDelayMs : ℚ := 5000
  maxDockerRetries : ℕ := 2
  dockerRetryBaseDelayMs : ℚ := 10000
  benchmarkTerminationTimeoutMs : ℚ := 30000
  maxTransientRetries : ℕ := 2
  transientRetryBaseDelayMs : ℚ := 3000

/-- `RecoveryContext`. -/
structure RecoveryContext where
  modelId : String
  category : ErrorCategory
  attemptNumber : ℕ
  error : RecoverableError
  action : RecoveryAction
  timestamp : Time

structure RecoveryResult where
  success : Bool
  shouldRetry : Bool
  actionTaken : RecoveryAction
  retryDelayMs : ℚ
  message : String
  context : RecoveryContext

def oomCategories : List HealthCheckErrorCategory := [.oom]

def fatalModelCategories : List HealthCheckErrorCategory :=
  [.oom, .cudaError, .gatedRepo, .architectureNotSupported, .modelNotFound]

def transientCategories : List HealthCheckErrorCategory := [.networkError, .timeout, .diskSpace]

/-! ## Classification -/

section Classify

variable (opts : ErrorRecoveryOptions)

def classifyHealthCheckError (modelId : String) (classification : HealthCheckErrorClassification) :
    ErrorRecoveryDecision :=
  if classification.category ∈ oomCategories then {
    category := .oom
    action := .skipModel
    shouldRecordInCircuitBreaker := true
    maxRetries := 0
    baseDelayMs := 0
    explanation := "OOM for model " ++ modelId ++ ": " ++ classification.message ++
      ". Model will be skipped."
    isModelSpecific := true }
  else if classification.category ∈ fatalModelCategories then {
    category := .fatalModelError
    action := .skipModel
    shouldRecordInCircuitBreaker := true
    maxRetries := 0
    baseDelayMs := 0
    explanation := "Fatal error for model " ++ modelId ++ ": " ++ classification.message ++
      ". Model will be skipped."
    isModelSpecific := true }
  else if classification.category = .containerCrash then {
    category := .dockerCrash
    action := .cleanupAndRetry
    shouldRecordInCircuitBreaker := true
    maxRetries := opts.maxDockerRetries
    baseDelayMs := opts.dockerRetryBaseDelayMs
    explanation := "Container crashed for model " ++ modelId ++ ": " ++ classification.message ++
      ". Will cleanup and retry."
    isModelSpecific := false }
  else if classification.category ∈ transientCategories then {
    category := .transient
    action := .retryWithBackoff
    shouldRecordInCircuitBreaker := false
    maxRetries := opts.maxTransientRetries
    baseDelayMs := opts.transientRetryBaseDelayMs
    explanation := "Transient error for model " ++ modelId ++ ": " ++ classification.message ++
      ". Will retry."
    isModelSpecific := false }
  else {
    category := .unknown
    action := .retryWithBackoff
    shouldRecordInCircuitBreaker := true
    maxRetries := opts.maxTransientRetries
    baseDelayMs := opts.transientRetryBaseDelayMs
    explanation := "Unknown health check error for model " ++ modelId ++ ": " ++
      classification.message ++ ". Will retry."
    isModelSpecific := false }

/-- `/timeout|timed?\s*out/i`. -/
def timeoutMessage : Re := alts [lit "timeout", seqs [lit "time", opt (lit "d"), star space, lit "out"]]

/-- `/out of memory|OOM|MemoryError/i`. -/
def oomMessage : Re := alts [lit "out of memory", lit "OOM", lit "MemoryError"]

/-- The classification of an error of no class of its own, by its message. -/
def classifyMessage (message : String) : ErrorRecoveryDecision :=
  if timeoutMessage.test message then {
    category := .benchmarkTimeout
    action := .gracefulTerminate
    shouldRecordInCircuitBreaker := true
    maxRetries := 1
    baseDelayMs := opts.transientRetryBaseDelayMs
    explanation := "Timeout error: " ++ message ++ ". Will gracefully terminate."
    isModelSpecific := false }
  else if oomMessage.test message then {
    category := .oom
    action := .skipModel
    shouldRecordInCircuitBreaker := true
    maxRetries := 0
    baseDelayMs := 0
    explanation := "Out of memory: " ++ message ++ ". Model will be skipped."
    isModelSpecific := true }
  else {
    category := .unknown
    action := .retryWithBackoff
    shouldRecordInCircuitBreaker := true
    maxRetries := opts.maxTransientRetries
    baseDelayMs := opts.transientRetryBaseDelayMs
    explanation := "Unknown error: " ++ message ++ ". Will retry with backoff."
    isModelSpecific := false }

def classifyError (error : RecoverableError) : ErrorRecoveryDecision :=
  match error.cls with
  | .sshConnection host => {
    category := .sshConnection
    action := .retryWithBackoff
    shouldRecordInCircuitBreaker := false
    maxRetries := opts.maxSshRetries
    baseDelayMs := opts.sshRetryBaseDelayMs
    explanation := "SSH connection failed to " ++ host ++ ": " ++ error.message ++
      ". Will retry with exponential backoff."
    isModelSpecific := false }
  | .sshTimeout host command => {
    category := .sshTimeout
    action := .gracefulTerminate
    shouldRecordInCircuitBreaker := false
    maxRetries := opts.maxTransientRetries
    baseDelayMs := opts.transientRetryBaseDelayMs
    explanation := "SSH command timed out on " ++ host ++ ": " ++ command ++
      ". Will gracefully terminate and retry."
    isModelSpecific := false }
  | .healthCheckService modelId classification =>
    classifyHealthCheckError opts modelId classification
  | .container operation containerName => {
    category := .dockerCrash
    action := .cleanupAndRetry
    shouldRecordInCircuitBreaker := true
    maxRetries := opts.maxDockerRetries
    baseDelayMs := opts.dockerRetryBaseDelayMs
    explanation := "Docker " ++ operation ++ " failed for " ++ containerName ++ ": " ++
      error.message ++ ". Will cleanup and retry."
    isModelSpecific := false }
  | .healthCheck modelId timeoutMs => {
    category := .benchmarkTimeout
    action := .gracefulTerminate
    shouldRecordInCircuitBreaker := true
    maxRetries := 1
    baseDelayMs := opts.dockerRetryBaseDelayMs
    explanation := "Health check timed out after " ++ toString timeoutMs ++ "ms for model " ++
      modelId ++ ". Will terminate container."
    isModelSpecific := true }
  | .vllmDeployment modelId => {
    category := .dockerCrash
    action := .cleanupAndRetry
    shouldRecordInCircuitBreaker := true
    maxRetries := opts.maxDockerRetries
    baseDelayMs := opts.dockerRetryBaseDelayMs
    explanation := "vLLM deployment error for model " ++ modelId ++ ": " ++ error.message ++
      ". Will cleanup and retry."
    isModelSpecific := false }
  | .ssh host => {
    category := .sshConnection
    action := .retryWithBackoff
    shouldRecordInCircuitBreaker := false
    maxRetries := opts.maxSshRetries
    baseDelayMs := opts.sshRetryBaseDelayMs
    explanation := "SSH error on " ++ host ++ ": " ++ error.message ++ ". Will retry with backoff."
    isModelSpecific := false }
  | .plain => classifyMessage opts error.message

def createContext (modelId : String) (error : RecoverableError) (attemptNumber : ℕ) (now : Time) :
    RecoveryContext where
  modelId := modelId
  category := (classifyError opts error).category
  attemptNumber := attemptNumber
  error := error
  action := (classifyError opts error).action
  timestamp := now

end Classify

/-! ## Recovery -/

/-- `calculateBackoffDelay`, for the answer of `Math.random()`. -/
def calculateBackoffDelay (baseDelayMs : ℚ) (attempt : ℕ) (random : ℚ) : ℚ :=
  let exponentialDelay := baseDelayMs * 2 ^ ((attempt : ℤ) - 1)
  let jitter := exponentialDelay * (1 / 4) * (random * 2 - 1)
  min (exponentialDelay + jitter) 300000

/-- The context of the next attempt. -/
def RecoveryContext.next (context : RecoveryContext) : RecoveryContext :=
  { context with attemptNumber := context.attemptNumber + 1 }

/-- The answer of a handler that retries while attempts are left. -/
def retryResult (action : RecoveryAction) (retryText : ℚ → String) (giveUpText : String)
    (context : RecoveryContext) (decision : ErrorRecoveryDecision) (random : ℚ) : RecoveryResult :=
  let canRetry := context.attemptNumber < decision.maxRetries
  let delayMs := if canRetry then
    calculateBackoffDelay decision.baseDelayMs context.attemptNumber random else 0
  { success := false
    shouldRetry := canRetry
    actionTaken := action
    retryDelayMs := delayMs
    message := if canRetry then retryText delayMs else giveUpText
    context := context.next }

/-- `Math.ceil(delayMs / 1000)`, in a text. -/
def secondsText (delayMs : ℚ) : String := toString (Rat.ceil (delayMs / 1000))

/-- `attempt n of m`, in a text. -/
def attemptText (context : RecoveryContext) (decision : ErrorRecoveryDecision) : String :=
  " (attempt " ++ toString (context.attemptNumber + 1) ++ "/" ++ toString decision.maxRetries ++ ")"

def handleRetryWithBackoff (context : RecoveryContext) (decision : ErrorRecoveryDecision) :
    ℚ → RecoveryResult :=
  retryResult .retryWithBackoff
    (fun delayMs => "Will retry in " ++ secondsText delayMs ++ "s" ++ attemptText context decision)
    ("Max retries exhausted (" ++ toString decision.maxRetries ++ "). Giving up.") context decision

/-- The cleanup on the VM catches every error and does not touch the breaker. -/
def handleCleanupAndRetry (context : RecoveryContext) (decision : ErrorRecoveryDecision) :
    ℚ → RecoveryResult :=
  retryResult .cleanupAndRetry
    (fun delayMs => "Containers cleaned up. Will retry in " ++ secondsText delayMs ++ "s" ++
      attemptText context decision)
    ("Containers cleaned up. Max retries exhausted (" ++ toString decision.maxRetries ++ ").")
    context decision

def handleGracefulTerminate (context : RecoveryContext) (decision : ErrorRecoveryDecision) :
    ℚ → RecoveryResult :=
  retryResult .gracefulTerminate
    (fun delayMs => "Benchmark terminated gracefully. Will retry in " ++ secondsText delayMs ++ "s")
    "Benchmark terminated. Max retries exhausted." context decision

section Execute

variable (opts : ErrorRecoveryOptions) (o : CircuitBreakerOptions)

/-- The failure of a context is counted. -/
def record (now : Time) (context : RecoveryContext) (b : CircuitBreaker) : CircuitBreaker :=
  recordFailure o now context.modelId context.error.message context.category.text b

/-- `handleSkipModel` records the failure itself. -/
def handleSkipModel (now : Time) (context : RecoveryContext) (b : CircuitBreaker) :
    RecoveryResult × CircuitBreaker :=
  ({ success := false
     shouldRetry := false
     actionTaken := .skipModel
     retryDelayMs := 0
     message := "Model " ++ context.modelId ++ " skipped: " ++ context.error.message
     context := context.next }, record o now context b)

def handleAbort (context : RecoveryContext) : RecoveryResult where
  success := false
  shouldRetry := false
  actionTaken := .abort
  retryDelayMs := 0
  message := "Recovery aborted for " ++ context.modelId ++ ": " ++ context.error.message
  context := context

/-- `execute`, with the times at which it records and at which it skips. -/
def execute (now skippedAt : Time) (random : ℚ) (context : RecoveryContext) (b : CircuitBreaker) :
    RecoveryResult × CircuitBreaker :=
  let decision := classifyError opts context.error
  let recorded := if decision.shouldRecordInCircuitBreaker then record o now context b else b
  match context.action with
  | .retryWithBackoff => (handleRetryWithBackoff context decision random, recorded)
  | .cleanupAndRetry => (handleCleanupAndRetry context decision random, recorded)
  | .gracefulTerminate => (handleGracefulTerminate context decision random, recorded)
  | .skipModel => handleSkipModel o skippedAt context recorded
  | .abort => (handleAbort context, recorded)

end Execute

/-! ## One error -/

variable {opts : ErrorRecoveryOptions} {o : CircuitBreakerOptions} {error : RecoverableError}
  {b : CircuitBreaker} {modelId id : String} {now skippedAt : Time} {random : ℚ} {attempt : ℕ}

/-- The failures that the breaker has counted for a model. -/
def failureCount (b : CircuitBreaker) (modelId : String) : ℕ :=
  ((b.records.get modelId).map (·.failureCount)).getD 0

variable (opts error) in
/-- A skipped model's error is always to be recorded. -/
theorem skip_recorded (h : (classifyError opts error).action = .skipModel) :
    (classifyError opts error).shouldRecordInCircuitBreaker = true := by
  unfold classifyError at h ⊢
  cases hcls : error.cls with
  | healthCheckService modelId classification =>
    rw [hcls] at h
    dsimp only at h ⊢
    unfold classifyHealthCheckError at h ⊢
    split_ifs at h ⊢ <;> rfl
  | plain =>
    rw [hcls] at h
    dsimp only at h ⊢
    unfold classifyMessage at h ⊢
    split_ifs at h ⊢
    rfl
  | _ => simp only [hcls, reduceCtorEq] at h

/-- The error of a model that cannot be served here: a health check found it fatal for the model, or
the message names the memory. -/
def SkipsModel (error : RecoverableError) : Prop :=
  match error.cls with
  | .healthCheckService _ classification => classification.category ∈ fatalModelCategories
  | .plain => timeoutMessage.test error.message = false ∧ oomMessage.test error.message = true
  | _ => False

variable (opts) in
theorem action_skip_iff : (classifyError opts error).action = .skipModel ↔ SkipsModel error := by
  unfold classifyError SkipsModel
  cases hcls : error.cls with
  | healthCheckService modelId classification =>
    dsimp only
    unfold classifyHealthCheckError
    by_cases hoom : classification.category ∈ oomCategories
    · have hfatal : classification.category ∈ fatalModelCategories := by
        rw [List.mem_singleton.mp hoom]
        decide
      simp [if_pos hoom, hfatal]
    · by_cases hfatal : classification.category ∈ fatalModelCategories
      · simp [if_neg hoom, hfatal]
      · rw [if_neg hoom, if_neg hfatal]
        split_ifs <;> simp [hfatal]
  | plain =>
    dsimp only
    unfold classifyMessage
    split_ifs with htimeout hoom
    · simp [htimeout]
    · simp [htimeout, hoom]
    · simp [hoom]
  | _ => simp

/-- What handling an error does to the breaker. -/
theorem breaker_execute :
    (execute opts o now skippedAt random (createContext opts modelId error attempt now) b).2 =
      let context := createContext opts modelId error attempt now
      if (classifyError opts error).action = .skipModel then
        record o skippedAt context (record o now context b)
      else if (classifyError opts error).shouldRecordInCircuitBreaker then record o now context b
      else b := by
  have hskip := skip_recorded opts error
  unfold execute
  rw [show (createContext opts modelId error attempt now).error = error from rfl,
    show (createContext opts modelId error attempt now).action = (classifyError opts error).action
      from rfl]
  cases haction : (classifyError opts error).action with
  | skipModel =>
    simp only [handleSkipModel, hskip haction, ↓reduceIte]
  | _ => simp

theorem failureCount_record {context : RecoveryContext} :
    failureCount (record o now context b) id =
      failureCount b id + if context.modelId = id then 1 else 0 := by
  have hcount : ∀ r : Record, (r.fail o now).failureCount = r.failureCount + 1 := by
    intro r
    unfold ModelFailureRecord.fail
    dsimp only
    split
    · rfl
    · split_ifs <;> rfl
    · rfl
  unfold failureCount record recordFailure
  rw [JsMap.get_set]
  by_cases hid : context.modelId = id
  · subst hid
    rw [if_pos rfl, if_pos rfl, Option.map_some, Option.getD_some, hcount]
    unfold recordOf
    cases b.records.get context.modelId with
    | none => rfl
    | some r => rfl
  · rw [if_neg hid, if_neg hid, Nat.add_zero]

/-- A handled error is one more failure of its model if it is to be recorded, and none otherwise,
and no failure of another model. -/
def Once (opts : ErrorRecoveryOptions) (o : CircuitBreakerOptions) (error : RecoverableError) : Prop :=
  ∀ (b : CircuitBreaker) (modelId id : String) (now skippedAt : Time) (random : ℚ) (attempt : ℕ),
    failureCount
      (execute opts o now skippedAt random (createContext opts modelId error attempt now) b).2 id =
      failureCount b id +
        if modelId = id ∧ (classifyError opts error).shouldRecordInCircuitBreaker = true then 1 else 0

theorem once_iff : Once opts o error ↔ ¬SkipsModel error := by
  rw [← action_skip_iff opts]
  constructor
  · intro h haction
    have htwice := h {} "m" "m" 0 0 0 1
    rw [breaker_execute] at htwice
    simp only [haction, ↓reduceIte, failureCount_record, skip_recorded _ _ haction, and_self,
      show (createContext opts "m" error 1 0).modelId = "m" from rfl] at htwice
    omega
  · intro haction b modelId id now skippedAt random attempt
    rw [breaker_execute]
    simp only [if_neg haction]
    by_cases hrecord : (classifyError opts error).shouldRecordInCircuitBreaker = true
    · simp only [hrecord, ↓reduceIte, failureCount_record, and_true]
      rfl
    · simp only [hrecord, Bool.false_eq_true, ↓reduceIte, and_false, Nat.add_zero]

/-! ## Sessions -/

/-- What happens to the breaker of a recovery service: an error is handled, a model is checked before
an attempt, an attempt succeeds. -/
inductive Event
  | handled (modelId : String) (error : RecoverableError) (attempt : ℕ) (skippedAt : Time)
      (random : ℚ)
  | checked (modelId : String)
  | succeeded (modelId : String)

section Session

variable (opts : ErrorRecoveryOptions) (o : CircuitBreakerOptions)

def serve (b : CircuitBreaker) : Time × Event → CircuitBreaker
  | (now, .handled modelId error attempt skippedAt random) =>
    (execute opts o now skippedAt random (createContext opts modelId error attempt now) b).2
  | (now, .checked modelId) => (canAttempt o now modelId b).2
  | (_, .succeeded modelId) => recordSuccess o modelId b

def serveAll (events : List (Time × Event)) : CircuitBreaker := events.foldl (serve opts o) {}

/-- The handled errors of a model that are to be recorded. -/
def recordedErrors (modelId : String) (events : List (Time × Event)) : ℕ :=
  events.countP fun e => match e.2 with
    | .handled id error _ _ _ =>
      decide (id = modelId) && (classifyError opts error).shouldRecordInCircuitBreaker
    | _ => false

end Session

/-- No handled error skips its model. -/
def NoSkips (events : List (Time × Event)) : Prop :=
  ∀ now modelId error attempt skippedAt random,
    (now, .handled modelId error attempt skippedAt random) ∈ events → ¬SkipsModel error

/-- A circuit has no more failures than errors, and has opened only for enough of them. -/
def Paid (o : CircuitBreakerOptions) (n : ℕ) (t : Option Tally) : Prop :=
  ∀ r, t = some r → r.failureCount ≤ n ∧ (r.state ≠ .closed → o.failureThreshold ≤ (n : ℤ))

variable {n : ℕ} {t : Option Tally} {c : Call}

theorem paid_fail (h : Paid o n t) :
    Paid o (n + 1) (some ((t.getD (.fresh modelId now ((), ()))).fail o now)) := by
  rintro r hr
  cases hr
  set r₀ := t.getD (.fresh modelId now ((), ())) with hr₀
  have hold : r₀.failureCount ≤ n ∧ (r₀.state ≠ .closed → o.failureThreshold ≤ (n : ℤ)) := by
    cases t with
    | none => exact ⟨Nat.zero_le _, fun hs => absurd rfl hs⟩
    | some r₁ => exact h r₁ rfl
  by_cases hs : r₀.state = .closed
  · obtain ⟨hcount, -, hdue⟩ := fail_closed o now hs
    refine ⟨by omega, fun hopen => ?_⟩
    rcases hdue with ⟨-, hclosed⟩ | ⟨hdue, -⟩
    · exact absurd hclosed hopen
    · omega
  · have hcount : (r₀.fail o now).failureCount = r₀.failureCount + 1 := by
      unfold ModelFailureRecord.fail
      dsimp only
      split
      · rfl
      · next hc => exact absurd hc hs
      · rfl
    have hdue := hold.2 hs
    exact ⟨by omega, fun _ => by omega⟩

theorem paid_check (h : Paid o n t) : Paid o n (stepTally o now modelId t (.canAttempt id)) := by
  unfold stepTally
  dsimp only
  split_ifs
  · intro r hr
    obtain ⟨r₀, rfl, rfl⟩ := Option.map_eq_some_iff.mp hr
    set cleaned := r₀.cleanExpiredFailures o now ((), ())
    have hcleaned : cleaned.failureCount ≤ r₀.failureCount ∧ cleaned.state = r₀.state := by
      refine ⟨?_, state_cleanExpiredFailures _ _ _⟩
      show (r₀.cleanExpiredFailures o now ((), ())).failureCount ≤ _
      unfold ModelFailureRecord.cleanExpiredFailures
      split_ifs
      · exact le_rfl
      · exact Nat.zero_le _
      · exact le_rfl
    have hchecked : (cleaned.check o now none).2.failureCount = cleaned.failureCount := by
      unfold ModelFailureRecord.check
      split
      · rfl
      · rfl
      · split_ifs <;> rfl
    refine ⟨by have := (h r₀ rfl).1; omega, fun hs => (h r₀ rfl).2 fun hclosed => hs ?_⟩
    rcases state_check o now cleaned with he | ⟨he, -⟩
    · rw [he, hcleaned.2, hclosed]
    · rw [hcleaned.2, hclosed] at he
      cases he
  · exact h

theorem paid_succeed (h : Paid o n t) :
    Paid o n (stepTally o now modelId t (.recordSuccess id)) := by
  unfold stepTally
  dsimp only
  split_ifs
  · intro r hr
    obtain ⟨r₀, rfl, rfl⟩ := Option.map_eq_some_iff.mp hr
    obtain ⟨hcount, hdue⟩ := h r₀ rfl
    unfold ModelFailureRecord.succeed
    split
    · next hs =>
      have := hdue (by rw [hs]; decide)
      split_ifs
      · exact ⟨Nat.zero_le _, fun _ => this⟩
      · exact ⟨hcount, fun _ => this⟩
    · exact ⟨Nat.zero_le _, hdue⟩
    · exact ⟨hcount, hdue⟩
  · exact h

/-- The tally of a model in a breaker. -/
def tallyOf (b : CircuitBreaker) (modelId : String) : Option Tally := tally { breaker := b } modelId

theorem paid_serve {e : Time × Event} (hskip : NoSkips [e]) (h : Paid o n (tallyOf b modelId)) :
    Paid o (n + recordedErrors opts modelId [e]) (tallyOf (serve opts o b e) modelId) := by
  obtain ⟨now, e⟩ := e
  cases e with
  | checked id =>
    have hstep := tally_step (o := o) (s := { breaker := b })
      (c := .canAttempt id) now modelId fun _ => Call.noConfusion
    exact (congrArg (Paid o n) hstep).mpr (paid_check h)
  | succeeded id =>
    have hstep := tally_step (o := o) (s := { breaker := b })
      (c := .recordSuccess id) now modelId fun _ => Call.noConfusion
    exact (congrArg (Paid o n) hstep).mpr (paid_succeed h)
  | handled id error attempt skippedAt random =>
    have haction : (classifyError opts error).action ≠ .skipModel :=
      (action_skip_iff opts).not.mpr (hskip now id error attempt skippedAt random List.mem_cons_self)
    unfold serve
    dsimp only
    rw [breaker_execute]
    simp only [if_neg haction]
    by_cases hrecord : (classifyError opts error).shouldRecordInCircuitBreaker = true
    · rw [if_pos hrecord]
      have hstep := tally_step (o := o) (s := { breaker := b })
        (c := .recordFailure id error.message (classifyError opts error).category.text)
        now modelId fun _ => Call.noConfusion
      refine (congrArg (Paid o _) hstep).mpr ?_
      by_cases hid : id = modelId
      · subst hid
        have hone : recordedErrors opts id [(now, .handled id error attempt skippedAt random)] = 1 := by
          simp [recordedErrors, hrecord]
        rw [hone]
        simp only [stepTally, ↓reduceIte]
        exact paid_fail h
      · have hnone :
            recordedErrors opts modelId [(now, .handled id error attempt skippedAt random)] = 0 := by
          simp [recordedErrors, hid]
        rw [hnone]
        simp only [stepTally, if_neg hid]
        exact h
    · rw [if_neg hrecord]
      have hnone :
          recordedErrors opts modelId [(now, .handled id error attempt skippedAt random)] = 0 := by
        simp [recordedErrors, hrecord]
      rw [hnone]
      exact h

theorem paid_serveAll {events : List (Time × Event)} (hskip : NoSkips events) :
    Paid o (recordedErrors opts modelId events) (tallyOf (serveAll opts o events) modelId) := by
  induction events using List.reverseRecOn with
  | nil => exact fun r hr => (by cases hr)
  | append_singleton events e ih =>
    rw [serveAll, List.foldl_append, recordedErrors, List.countP_append]
    refine paid_serve (fun now m err a s r hmem => hskip now m err a s r ?_)
      (ih fun now m err a s r hmem => hskip now m err a s r (List.mem_append_left _ hmem))
    exact List.mem_append_right _ hmem

/-- **One failure for one error.** A handled error is counted once, or not at all, exactly if it does
not skip its model; in a session of such errors a circuit has opened only after as many errors as its
threshold. -/
theorem handled_once_iff :
    (∀ error, Once opts o error ↔ ¬SkipsModel error) ∧
    ∀ events, NoSkips events → ∀ modelId r,
      (serveAll opts o events).records.get modelId = some r → r.state ≠ .closed →
      o.failureThreshold ≤ (recordedErrors opts modelId events : ℤ) :=
  ⟨fun _ => once_iff, fun _ hskip _ _ hr hopen =>
    (paid_serveAll hskip _ (congrArg (Option.map forget) hr)).2 hopen⟩

/-- An error whose message names the memory. -/
def outOfMemory : RecoverableError := ⟨.plain, "CUDA out of memory"⟩

/-- Two errors open a circuit with a threshold of three, for each is counted twice. -/
theorem counted_twice : ¬Once {} {} outOfMemory ∧
    (((serveAll {} {} [(0, .handled "m" outOfMemory 1 0 0),
      (1, .handled "m" outOfMemory 1 1 0)]).records.get "m").any fun r =>
        r.state = .opened ∧ r.failureCount = 4) = true := by
  refine ⟨fun h => ?_, by decide +kernel⟩
  have := h {} "m" "m" 0 0 0 1
  revert this
  decide +kernel

end Benchmarker.Recovery
