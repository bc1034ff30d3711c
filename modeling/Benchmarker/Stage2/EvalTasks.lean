import Benchmarker.Js.Json
import Benchmarker.Stage2.Connector
import Benchmarker.Stage2.Worker

/-!
# The tasks of the Kibana evaluation

`KibanaEvalRunner.executeTask`: the six built-in tasks, each one call of a connector, with their retries and their
timeout. Durations and metadata are left out.

* `executeConnectorAction`: a call. Whatever fails but the timeout becomes a response of status `error`.
* `gradeConnectorHealthCheck`, …: what a task makes of the response. `dispatchTask`, `executeTask`.
* `DeadTransport`, `Errored`: every call was rejected; every attempt was made, and the outcome is `ERROR`.
* **`deadTransport_errored_iff`**: a task whose first call is rejected is graded at once, never retried to an error.
-/

namespace Benchmarker.Stage2

open Js Async Async.Prog

/-! ## Tasks -/

inductive EvalSeverity
  | critical | important | niceToHave
  deriving DecidableEq

/-- `SEVERITY_WEIGHTS` -/
def EvalSeverity.weight : EvalSeverity → ℚ
  | .critical => 1
  | .important => 7 / 10
  | .niceToHave => 3 / 10

inductive EvalOutcome
  | pass | fail | skip | error
  deriving DecidableEq

structure KibanaEvalTaskDefinition where
  id : String
  severity : EvalSeverity
  timeoutMs : ℕ
  retryAttempts : ℕ
  deriving DecidableEq

/-- `KIBANA_EVAL_TASKS` -/
def kibanaEvalTasks : List KibanaEvalTaskDefinition :=
  [⟨"connector_health_check", .critical, 30000, 2⟩,
   ⟨"chat_completion_basic", .critical, 30000, 1⟩,
   ⟨"chat_completion_system_prompt", .important, 30000, 1⟩,
   ⟨"tool_calling_basic", .critical, 30000, 2⟩,
   ⟨"streaming_response", .important, 30000, 1⟩,
   ⟨"error_handling_invalid_input", .niceToHave, 15000, 0⟩]

/-- The fields of the evaluation configuration that the tasks read. -/
structure KibanaEvalRunnerConfig where
  testPrompt : String := "What is 2 + 2? Answer with just the number."
  expectedResponseKeywords : List String := ["4"]
  toolCallTestToolName : String := "get_current_time"
  toolCallTestPrompt : String := "What is the current time? Use the get_current_time tool."
  deriving DecidableEq

structure KibanaEvalRunner where
  kibanaConfig : KibanaConnectorConfig
  evalConfig : KibanaEvalRunnerConfig := {}

/-- What one attempt returns. -/
structure Graded where
  task : KibanaEvalTaskDefinition
  outcome : EvalOutcome
  message : String
  error : Json
  score : ℚ
  weightedScore : ℚ

structure KibanaEvalTaskResult extends Graded where
  attempts : ℕ

def createPassResult (task : KibanaEvalTaskDefinition) (message : String) : Graded where
  task := task
  outcome := .pass
  message := message
  error := .null
  score := 1
  weightedScore := task.severity.weight

def createFailResult (task : KibanaEvalTaskDefinition) (message : String) (error : Json) : Graded where
  task := task
  outcome := .fail
  message := message
  error := error
  score := 0
  weightedScore := 0

/-! ## The connector -/

/-- How the body of a response is read. -/
inductive BodyOutcome
  | aborted
  | rejected (message : String)
  | parsed (json : Json)

/-- How `fetch` settles. The text of a response that is not ok may be unreadable. -/
inductive FetchOutcome
  | aborted
  | rejected (message : String)
  | failed (status : ℕ) (body : Option String)
  | succeeded (body : BodyOutcome)

/-- The request failed at the network level. -/
def FetchOutcome.isRejected : FetchOutcome → Bool
  | .rejected _ => true
  | _ => false

inductive EvalOp
  | fetch (url authorization : String) (body : Json)
  | sleep (ms : ℕ)

@[reducible] def EvalAns : EvalOp → Type
  | .fetch _ _ _ => FetchOutcome
  | .sleep _ => Unit

/-- What a task throws: the `AbortError` of its own signal, or an error with a message. -/
inductive TaskError
  | aborted
  | thrown (message : String)

abbrev EvalJs (α : Type) : Type := ExceptT TaskError (Prog EvalAns) α

structure ConnectorResponse where
  status : Json
  data : Json
  errorMessage : Json

/-- The response that stands for a failure. -/
def errorResponse (message : String) : ConnectorResponse := ⟨.str "error", .null, .str message⟩

/-- `json.status ?? 'unknown'`, `json.data ?? json`, `json.message ?? null`; a field of `null` is a `TypeError`. -/
def readResponse : Json → ConnectorResponse
  | .null => errorResponse "Cannot read properties of null (reading 'status')"
  | json =>
    { status := (Json.nullish (json.field "status") none).getD (.str "unknown")
      data := (Json.nullish (json.field "data") none).getD json
      errorMessage := (Json.nullish (json.field "message") none).getD .null }

def readOutcome : FetchOutcome → Except TaskError ConnectorResponse
  | .aborted | .succeeded .aborted => .error .aborted
  | .rejected message | .succeeded (.rejected message) => .ok (errorResponse message)
  | .failed status body => .ok (errorResponse ("HTTP " ++ toString status ++ ": " ++ body.getD "unknown"))
  | .succeeded (.parsed json) => .ok (readResponse json)

/-- `` `${v}` `` of a text that may be undefined. -/
def spliced (v : Option String) : String := v.getD "undefined"

def executeConnectorAction (runner : KibanaEvalRunner) (connectorId : String) (body : Json) :
    EvalJs ConnectorResponse :=
  ExceptT.mk do
    let outcome ← request (EvalOp.fetch
      (spliced runner.kibanaConfig.url ++ "/api/actions/connector/" ++ connectorId ++ "/_execute")
      ("ApiKey " ++ spliced runner.kibanaConfig.apiKey) body)
    pure (readOutcome outcome)

/-! ## Reading a response -/

/-- `` `${v}` `` -/
def templated (v : Json) : Except TaskError String :=
  match v.toText with
  | some s => .ok s
  | none => .error (.thrown "Cannot convert object to primitive value")

/-- The receiver of a method of strings, called so. -/
def receiver (callee : String) : Json → Except TaskError String
  | .str s => .ok s
  | _ => .error (.thrown (callee ++ " is not a function"))

/-- `response.status === s` -/
def ConnectorResponse.hasStatus (response : ConnectorResponse) (s : String) : Bool := response.status.asStr = some s

/-- `response.errorMessage ?? d` -/
def ConnectorResponse.errorOr (response : ConnectorResponse) (d : String) : Json :=
  (Json.nullish (some response.errorMessage) none).getD (.str d)

/-- `obj.choices?.[0]?.message` -/
def firstMessage (data : Json) : Option Json := do
  let choices ← data.field "choices"
  let choice ← choices.first
  choice.field "message"

/-- The content, of whatever type the response gives it. -/
def extractResponseContent (data : Json) : Option Json :=
  match data with
  | .str s => some (.str s)
  | data =>
    (((firstMessage data).bind (·.field "content")).filter Json.truthy).or
      (((data.field "message").bind Json.asStr).map .str)

def isArrayValue : Json → Bool
  | .arr _ => true
  | _ => false

def extractToolCalls (data : Json) : Option Json :=
  (((firstMessage data).bind (·.field "tool_calls")).filter Json.truthy).or
    ((data.field "tool_calls").filter isArrayValue)

/-- `v.length === 0` -/
def hasNoLength : Json → Bool
  | .arr elems => elems.isEmpty
  | .str s => s = ""
  | .obj fields => ((Json.obj fields).field "length").bind Json.asNum = some 0
  | _ => false

/-- `tc.function.name` -/
def functionName (tc : Json) : Except TaskError (Option Json) :=
  match tc, tc.field "function" with
  | .null, _ => .error (.thrown "Cannot read properties of null (reading 'function')")
  | _, none => .error (.thrown "Cannot read properties of undefined (reading 'name')")
  | _, some .null => .error (.thrown "Cannot read properties of null (reading 'name')")
  | _, some f => .ok (f.field "name")

/-- `toolCalls.some((tc) => tc.function.name === toolName)` -/
def someCalls (toolName : String) : List Json → Except TaskError Bool
  | [] => .ok false
  | tc :: tcs => do
    let name ← functionName tc
    if name.bind Json.asStr = some toolName then pure true else someCalls toolName tcs

/-- The text of an element that `join` joins. -/
def joined : Option Json → Except TaskError String
  | none | some .null => .ok ""
  | some v => templated v

/-! ## Grading -/

section Grading

variable (config : KibanaEvalRunnerConfig) (task : KibanaEvalTaskDefinition) (response : ConnectorResponse)

/-- A failure whose message ends in the status. -/
def failedWithStatus (message d : String) : Except TaskError Graded := do
  let status ← templated response.status
  return createFailResult task (message ++ status) (response.errorOr d)

def gradeConnectorHealthCheck : Except TaskError Graded :=
  if response.hasStatus "ok" then
    .ok (createPassResult task "Connector health check passed — model is reachable")
  else failedWithStatus task response "Connector health check failed with status: " "Unknown error"

def gradeChatCompletionBasic : Except TaskError Graded :=
  if !response.hasStatus "ok" || !response.data.truthy then
    failedWithStatus task response "Chat completion failed with status: " "No response data"
  else
    let empty := createFailResult task "Chat completion returned empty content"
      (.str "Response content is empty or null")
    match (extractResponseContent response.data).filter Json.truthy with
    | none => .ok empty
    | some content => do
      let content ← receiver "content.trim" content
      if trim content = "" then return empty
      if config.expectedResponseKeywords.any fun keyword =>
          includes (toLowerCase content) (toLowerCase keyword) then
        return createPassResult task "Chat completion returned valid response with expected content"
      return createFailResult task
        ("Response did not contain expected keywords: " ++ ", ".intercalate config.expectedResponseKeywords)
        (.str ("Actual response: \"" ++ sliceTo 200 content ++ "\""))

def gradeChatCompletionSystemPrompt : Except TaskError Graded :=
  if !response.hasStatus "ok" || !response.data.truthy then
    failedWithStatus task response "System prompt test failed with status: " "No response data"
  else
    match (extractResponseContent response.data).filter Json.truthy with
    | none => .ok (createFailResult task "System prompt test returned empty content"
        (.str "Response content is empty or null"))
    | some content => do
      let content ← receiver "content.trim" content
      if startsWith ((trim content).map Char.toUpper) "ACKNOWLEDGED" then
        return createPassResult task "Model correctly followed system prompt instructions"
      return createFailResult task
        "Model did not follow system prompt instruction (expected response starting with \"ACKNOWLEDGED\")"
        (.str ("Actual start: \"" ++ sliceTo 100 content ++ "\""))

/-- The grade of tool calls that are not an empty list. -/
def gradeToolCalls : Json → Except TaskError Graded
  | .arr toolCalls => do
    let toolName := config.toolCallTestToolName
    if ← someCalls toolName toolCalls then
      return createPassResult task ("Model correctly invoked tool '" ++ toolName ++ "'")
    let names ← toolCalls.mapM functionName
    let calledTools := ", ".intercalate (← names.mapM joined)
    return createFailResult task
      ("Model called wrong tool(s): " ++ calledTools ++ " (expected: " ++ toolName ++ ")")
      (.str ("Called tools: " ++ calledTools))
  | _ => .error (.thrown "toolCalls.some is not a function")

def gradeToolCallingBasic : Except TaskError Graded :=
  if !response.hasStatus "ok" || !response.data.truthy then
    failedWithStatus task response "Tool calling test failed with status: " "No response data"
  else
    match (extractToolCalls response.data).filter fun toolCalls => !hasNoLength toolCalls with
    | some toolCalls => gradeToolCalls config task toolCalls
    | none => do
      let content ← receiver "(content ?? \"\").substring" ((extractResponseContent response.data).getD (.str ""))
      return createFailResult task "Model did not generate any tool calls"
        (.str ("Response was text instead of tool call: \"" ++ sliceTo 200 content ++ "\""))

/-- `typeof data === 'string' ? data.length > 0 : data !== null` -/
def hasContent : Json → Bool
  | .str s => s ≠ ""
  | .null => false
  | _ => true

def gradeStreamingResponse : Except TaskError Graded :=
  if !response.hasStatus "ok" then
    failedWithStatus task response "Streaming response test failed with status: " "Streaming may not be supported"
  else if !hasContent response.data then
    .ok (createFailResult task "Streaming response returned empty data" (.str "No streaming chunks received"))
  else .ok (createPassResult task "Streaming response is supported and returned data")

def gradeErrorHandlingInvalidInput : Except TaskError Graded :=
  if response.hasStatus "error" then
    .ok (createPassResult task "Connector correctly returned an error for invalid input")
  else if response.hasStatus "ok" then
    .ok (createPassResult task "Connector handled invalid input gracefully (returned ok with valid response)")
  else do
    let status ← templated response.status
    return createFailResult task ("Unexpected status for error handling test: " ++ status)
      (.str "Expected either \"error\" or \"ok\" status")

end Grading

/-! ## Running a task -/

def message (role content : String) : Json := .obj [("role", .str role), ("content", .str content)]

/-- The body of an action, with the fields after the messages. -/
def actionBody (subAction : String) (messages : List Json) (rest : List (String × Json) := []) : Json :=
  .obj [("params", .obj [("subAction", .str subAction),
    ("subActionParams", .obj (("messages", .arr messages) :: rest))])]

/-- The tool of the tool calling test. -/
def testTool (toolName : String) : Json :=
  .obj [("type", .str "function"), ("function", .obj [("name", .str toolName),
    ("description", .str "Get the current date and time in ISO 8601 format"),
    ("parameters", .obj [("type", .str "object"),
      ("properties", .obj [("timezone", .obj [("type", .str "string"),
        ("description", .str "IANA timezone name (e.g., \"America/New_York\"). Defaults to UTC.")])]),
      ("required", .arr [])])])]

section Running

variable (runner : KibanaEvalRunner) (task : KibanaEvalTaskDefinition) (connectorId : String)

/-- A task: one call of the connector, and the grade of its response. -/
def callAndGrade (body : Json) (grade : ConnectorResponse → Except TaskError Graded) : EvalJs Graded := do
  let response ← executeConnectorAction runner connectorId body
  ExceptT.mk (pure (grade response))

def taskConnectorHealthCheck : EvalJs Graded :=
  callAndGrade runner connectorId (actionBody "invokeAI" [message "user" "ping"]) (gradeConnectorHealthCheck task)

def taskChatCompletionBasic : EvalJs Graded :=
  callAndGrade runner connectorId (actionBody "invokeAI" [message "user" runner.evalConfig.testPrompt])
    (gradeChatCompletionBasic runner.evalConfig task)

def taskChatCompletionSystemPrompt : EvalJs Graded :=
  callAndGrade runner connectorId
    (actionBody "invokeAI"
      [message "system"
        "You are a helpful assistant. Always start your response with the word \"ACKNOWLEDGED\".",
       message "user" "Tell me a fun fact about space."])
    (gradeChatCompletionSystemPrompt task)

def taskToolCallingBasic : EvalJs Graded :=
  callAndGrade runner connectorId
    (actionBody "invokeAI" [message "user" runner.evalConfig.toolCallTestPrompt]
      [("tools", .arr [testTool runner.evalConfig.toolCallTestToolName])])
    (gradeToolCallingBasic runner.evalConfig task)

def taskStreamingResponse : EvalJs Graded :=
  callAndGrade runner connectorId (actionBody "invokeStream" [message "user" "Say the word hello."])
    (gradeStreamingResponse task)

/-- An empty list of messages, which should be invalid. -/
def taskErrorHandlingInvalidInput : EvalJs Graded :=
  callAndGrade runner connectorId (actionBody "invokeAI" []) (gradeErrorHandlingInvalidInput task)

def unknownTask : Graded where
  task := task
  outcome := .skip
  message := "Unknown task ID: " ++ task.id
  error := .null
  score := 0
  weightedScore := 0

def dispatchTask : EvalJs Graded :=
  match task.id with
  | "connector_health_check" => taskConnectorHealthCheck runner task connectorId
  | "chat_completion_basic" => taskChatCompletionBasic runner task connectorId
  | "chat_completion_system_prompt" => taskChatCompletionSystemPrompt runner task connectorId
  | "tool_calling_basic" => taskToolCallingBasic runner task connectorId
  | "streaming_response" => taskStreamingResponse runner task connectorId
  | "error_handling_invalid_input" => taskErrorHandlingInvalidInput runner task connectorId
  | _ => pure (unknownTask task)

def timedOut : Graded where
  task := task
  outcome := .error
  message := "Task timed out after " ++ toString task.timeoutMs ++ "ms"
  error := .str ("Timeout: " ++ toString task.timeoutMs ++ "ms exceeded")
  score := 0
  weightedScore := 0

/-- An attempt: its timeout is a result, and what else is thrown is thrown on. -/
def runTaskWithTimeout : Prog EvalAns (Except String Graded) := do
  match ← (dispatchTask runner task connectorId).run with
  | .ok result => pure (.ok result)
  | .error .aborted => pure (.ok (timedOut task))
  | .error (.thrown message) => pure (.error message)

/-- All attempts are exhausted. -/
def exhausted (attempts : ℕ) (lastError : Option String) : KibanaEvalTaskResult where
  task := task
  outcome := .error
  message := "Task failed after " ++ toString attempts ++ " attempt(s): " ++ lastError.getD "null"
  error := (lastError.map Json.str).getD .null
  score := 0
  weightedScore := 0
  attempts := attempts

/-- The `while` loop, with the attempts that are left and those that were made. -/
def attemptTask : ℕ → ℕ → Option String → Prog EvalAns KibanaEvalTaskResult
  | 0, attempts, lastError => pure (exhausted task attempts lastError)
  | left + 1, attempts, _ => do
    match ← runTaskWithTimeout runner task connectorId with
    | .ok result => pure { result with attempts := attempts + 1 }
    | .error error => do
      if 0 < left then request (EvalOp.sleep 1000)
      attemptTask left (attempts + 1) (some error)

def executeTask : Prog EvalAns KibanaEvalTaskResult :=
  attemptTask runner task connectorId (task.retryAttempts + 1) 0 none

end Running

/-! ## A dead transport -/

section Transport

variable {W : Type} {es : List (Event EvalAns W)} {result : KibanaEvalTaskResult}
variable {runner : KibanaEvalRunner} {task : KibanaEvalTaskDefinition} {connectorId : String}

def outcomeOf : Event EvalAns W → Option FetchOutcome
  | ⟨.fetch _ _ _, outcome, _, _⟩ => some outcome
  | _ => none

/-- The outcomes of the connector calls, in order. -/
def transports (es : List (Event EvalAns W)) : List FetchOutcome := es.filterMap outcomeOf

/-- The task has called, and every call was rejected. -/
def DeadTransport (es : List (Event EvalAns W)) : Prop :=
  transports es ≠ [] ∧ ∀ outcome ∈ transports es, outcome.isRejected = true

/-- Every attempt was made, and the outcome is an error. -/
def Errored (task : KibanaEvalTaskDefinition) (result : KibanaEvalTaskResult) : Prop :=
  result.attempts = task.retryAttempts + 1 ∧ result.outcome = .error

/-- The response of a rejected call is graded, but not as an error. -/
def GradesRejections (grade : ConnectorResponse → Except TaskError Graded) : Prop :=
  ∀ message, ∃ graded, grade (errorResponse message) = .ok graded ∧ graded.outcome ≠ .error

/-- A response of status `error` fails with its status. -/
theorem failedWithStatus_error (message text d : String) :
    ∃ graded, failedWithStatus task (errorResponse message) text d = .ok graded ∧ graded.outcome ≠ .error :=
  ⟨_, rfl, nofun⟩

theorem errorResponse_ok (message : String) : (errorResponse message).hasStatus "ok" = false :=
  decide_eq_false (by simp [errorResponse, Json.asStr])

theorem grades_connectorHealthCheck : GradesRejections (gradeConnectorHealthCheck task) := by
  intro message
  rw [gradeConnectorHealthCheck, errorResponse_ok]
  exact failedWithStatus_error _ _ _

theorem grades_chatCompletionBasic (config : KibanaEvalRunnerConfig) :
    GradesRejections (gradeChatCompletionBasic config task) := by
  intro message
  rw [gradeChatCompletionBasic, errorResponse_ok]
  exact failedWithStatus_error _ _ _

theorem grades_chatCompletionSystemPrompt : GradesRejections (gradeChatCompletionSystemPrompt task) := by
  intro message
  rw [gradeChatCompletionSystemPrompt, errorResponse_ok]
  exact failedWithStatus_error _ _ _

theorem grades_toolCallingBasic (config : KibanaEvalRunnerConfig) :
    GradesRejections (gradeToolCallingBasic config task) := by
  intro message
  rw [gradeToolCallingBasic, errorResponse_ok]
  exact failedWithStatus_error _ _ _

theorem grades_streamingResponse : GradesRejections (gradeStreamingResponse task) := by
  intro message
  rw [gradeStreamingResponse, errorResponse_ok]
  exact failedWithStatus_error _ _ _

/-- The dead transport is what this task expects of the connector. -/
theorem grades_errorHandlingInvalidInput : GradesRejections (gradeErrorHandlingInvalidInput task) := by
  intro message
  have hstatus : (errorResponse message).hasStatus "error" = true := decide_eq_true rfl
  rw [gradeErrorHandlingInvalidInput, hstatus]
  exact ⟨_, rfl, nofun⟩

/-- A task is unknown, or one call and its grade. -/
theorem dispatchTask_cases (runner : KibanaEvalRunner) (task : KibanaEvalTaskDefinition) (connectorId : String) :
    dispatchTask runner task connectorId = pure (unknownTask task) ∨
      ∃ body grade, dispatchTask runner task connectorId = callAndGrade runner connectorId body grade ∧
        GradesRejections grade := by
  rw [dispatchTask]
  split
  · exact .inr ⟨_, _, rfl, grades_connectorHealthCheck⟩
  · exact .inr ⟨_, _, rfl, grades_chatCompletionBasic _⟩
  · exact .inr ⟨_, _, rfl, grades_chatCompletionSystemPrompt⟩
  · exact .inr ⟨_, _, rfl, grades_toolCallingBasic _⟩
  · exact .inr ⟨_, _, rfl, grades_streamingResponse⟩
  · exact .inr ⟨_, _, rfl, grades_errorHandlingInvalidInput⟩
  · exact .inl rfl

theorem run_callAndGrade (body : Json) (grade : ConnectorResponse → Except TaskError Graded) :
    (callAndGrade runner connectorId body grade).run =
      await (EvalOp.fetch
        (spliced runner.kibanaConfig.url ++ "/api/actions/connector/" ++ connectorId ++ "/_execute")
        ("ApiKey " ++ spliced runner.kibanaConfig.apiKey) body) fun outcome => ret (readOutcome outcome >>= grade) := by
  refine congrArg (await _) (funext fun outcome => ?_)
  show (ret (readOutcome outcome) >>= _) = _
  rw [ret_bind]
  cases readOutcome outcome with
  | ok response => rfl
  | error e => rfl

/-- The attempt that a call ends, when it was rejected: a grade, and no error to retry. -/
theorem runs_rejected {left attempts : ℕ} {lastError : Option String} {body : Json}
    {grade : ConnectorResponse → Except TaskError Graded}
    (hdispatch : dispatchTask runner task connectorId = callAndGrade runner connectorId body grade)
    (hgrade : GradesRejections grade)
    (h : (attemptTask runner task connectorId (left + 1) attempts lastError).Runs es result) :
    ∃ outcome fs, transports es = outcome :: fs ∧
      (outcome.isRejected = true → fs = [] ∧ result.attempts = attempts + 1 ∧ result.outcome ≠ .error) := by
  rw [attemptTask, runTaskWithTimeout, hdispatch, run_callAndGrade] at h
  simp only [await_bind, ret_bind] at h
  obtain ⟨outcome, pre, post, fs, rfl, hrest⟩ := runs_await.mp h
  refine ⟨outcome, transports fs, rfl, fun hrejected => ?_⟩
  cases outcome with
  | rejected message =>
    obtain ⟨graded, hgraded, hne⟩ := hgrade message
    rw [show (readOutcome (.rejected message) >>= grade) = .ok graded from hgraded] at hrest
    obtain ⟨rfl, rfl⟩ := runs_ret.mp hrest
    exact ⟨rfl, rfl, hne⟩
  | _ => cases hrejected

end Transport

/-- **The runs in which a dead transport is an error**: those whose first call was not rejected, and these have no
dead transport. -/
theorem deadTransport_errored_iff {W : Type} (runner : KibanaEvalRunner) (task : KibanaEvalTaskDefinition)
    (connectorId : String) (es : List (Event EvalAns W)) (result : KibanaEvalTaskResult)
    (h : (executeTask runner task connectorId).Runs es result) :
    (DeadTransport es → Errored task result) ↔ ∀ outcome ∈ (transports es).head?, outcome.isRejected = false := by
  rcases dispatchTask_cases runner task connectorId with hunknown | ⟨body, grade, hdispatch, hgrade⟩
  · rw [executeTask, attemptTask, runTaskWithTimeout, hunknown] at h
    obtain ⟨rfl, rfl⟩ := runs_ret.mp h
    exact iff_of_true (fun hdead => absurd rfl hdead.1) nofun
  · obtain ⟨outcome, fs, hes, hrejected⟩ := runs_rejected hdispatch hgrade h
    rw [DeadTransport, hes]
    cases hr : outcome.isRejected with
    | true =>
      obtain ⟨rfl, -, hne⟩ := hrejected hr
      refine iff_of_false (fun himp => hne (himp ⟨nofun, ?_⟩).2) fun hhead => ?_
      · exact fun o ho => List.mem_singleton.mp ho ▸ hr
      · exact absurd (hhead outcome rfl) (by rw [hr]; decide)
    | false =>
      refine iff_of_true (fun hdead => ?_) fun o ho => ?_
      · exact absurd (hdead.2 outcome List.mem_cons_self) (by rw [hr]; decide)
      · obtain rfl := Option.some.inj ho
        exact hr

/-- A runner with an address, a task of the given id, and the fetch that ends so. -/
def plainRunner : KibanaEvalRunner where
  kibanaConfig := ⟨true, some "https://kibana.test.local", some "key", "vllm-"⟩

def fetching (outcome : FetchOutcome) : ∀ o, EvalAns o
  | .fetch _ _ _ => outcome
  | .sleep _ => ()

def healthCheck : KibanaEvalTaskDefinition := ⟨"connector_health_check", .critical, 30000, 2⟩

def invalidInput : KibanaEvalTaskDefinition := ⟨"error_handling_invalid_input", .niceToHave, 15000, 0⟩

/-- The health check on a dead transport is not an error. -/
theorem healthCheck_not_errored :
    ¬(DeadTransport ((executeTask plainRunner healthCheck "c").trace (fetching (.rejected "ECONNREFUSED")) ()) →
      Errored healthCheck ((executeTask plainRunner healthCheck "c").eval (fetching (.rejected "ECONNREFUSED")))) := by
  rw [deadTransport_errored_iff plainRunner healthCheck "c" _ _ (runs_trace _ () _)]
  intro hhead
  exact absurd (hhead (.rejected "ECONNREFUSED") rfl) (by decide)

/-- The test of invalid input passes on a dead transport. -/
theorem invalidInput_passes : ¬ ∀ (es : List (Event EvalAns Unit)) (result : KibanaEvalTaskResult),
    (executeTask plainRunner invalidInput "c").Runs es result → DeadTransport es → Errored invalidInput result := by
  intro h
  have hruns := runs_trace (fetching (.rejected "ECONNREFUSED")) () (executeTask plainRunner invalidInput "c")
  refine absurd (h _ _ hruns ⟨nofun, fun outcome houtcome => ?_⟩).2 nofun
  have hone : outcome = .rejected "ECONNREFUSED" := List.mem_singleton.mp houtcome
  rw [hone]
  rfl

end Benchmarker.Stage2
