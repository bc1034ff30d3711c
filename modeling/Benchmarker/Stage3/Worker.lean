import Benchmarker.Async.Ensures
import Benchmarker.Stage3.Extract
import Benchmarker.Stage3.Prompt

/-!
# The Stage 3 worker

`Stage3WorkerImpl.execute` with `ReasoningPromptBuilderImpl`. `JSON.parse` is a parameter.

* `Stage3Op`, `Stage3Ans`: what the worker asks.
* `readSuggestions`, `reason`, `execute`: the source.
* `CalledOnce`, `SummaryGiven`: the LLM was asked once and decided the status; no trace query was rejected.
* **`execute_once_iff`**: the runs in which the LLM is asked once and decides the status.
-/

namespace Benchmarker.Stage3

open Js Async Async.Prog

variable {N : Type}

/-! ## Data -/

/-- The fields of a run that the worker reads. -/
structure PipelineRun (N : Type) where
  runId : Units
  modelId : Units
  startedAt : Units
  completedAt : Option Units := none
  hfCard : Option (HFCardResult N) := none
  benchmarkResult : Option (Stage1Result N) := none
  stage2Result : Option (Stage2Result N) := none

inductive Stage3Status
  | success | error
  deriving DecidableEq, Repr

structure Stage3Suggestion where
  category : Units
  title : Units
  description : Units
  estimatedImpact : Units
  deriving DecidableEq

structure Stage3Result (N : Type) where
  runId : Units
  modelId : Units
  status : Stage3Status
  suggestions : Option (List Stage3Suggestion) := none
  traceSummary : Option (TraceSummary N) := none
  rawResponse : Option Units := none
  error : Option Units := none
  startedAt : Units
  completedAt : Units

/-- What the worker awaits, and the clock. -/
inductive Stage3Op (N : Type)
  | now
  | buildSummary (modelId runId rangeFrom rangeTo : Units)
  | complete (systemPrompt userPrompt : Units)
  | saveReasoningResult (result : Stage3Result N)

/-- The answers: a rejection carries its text. The LLM client may also answer with an error, or with the content of
a response. -/
@[reducible] def Stage3Ans (N : Type) : Stage3Op N → Type
  | .now => Units
  | .buildSummary _ _ _ _ => Except Units (TraceSummary N)
  | .complete _ _ => Except Units (Except Units Units)
  | .saveReasoningResult _ => Except Units Unit

/-- The body of a method of the worker. -/
abbrev Stage3Js (N : Type) (α : Type) : Type := ExceptT Units (Prog (Stage3Ans N)) α

/-! ## Suggestions -/

mutual

/-- `String(v)` -/
def textOf (fmt : NumberFormat N) : JsonValue N → Units
  | .null => units "null"
  | .bool b => if b then units "true" else units "false"
  | .num n => fmt.text n
  | .str s => s
  | .arr items => joinUnits (units ",") (partTexts fmt items)
  | .obj _ => units "[object Object]"

def partTexts (fmt : NumberFormat N) : List (JsonValue N) → List Units
  | [] => []
  | .null :: items => [] :: partTexts fmt items
  | item :: items => textOf fmt item :: partTexts fmt items

end

def isTruthy (fmt : NumberFormat N) : JsonValue N → Bool
  | .null => false
  | .bool b => b
  | .num n => fmt.truthy n
  | .str s => s ≠ []
  | .arr _ | .obj _ => true

/-- `v[key]`; the property of `null` is a `TypeError`. -/
def property (key : Units) : JsonValue N → Option (Option (JsonValue N))
  | .null => none
  | .obj members => some (JsMap.get members key)
  | _ => some none

/-- `String(v || '')` -/
def textOrEmpty (fmt : NumberFormat N) (v : Option (JsonValue N)) : Units :=
  ((v.filter (isTruthy fmt)).map (textOf fmt)).getD []

theorem lawfulBEq_units : LawfulBEq Units := inferInstance

attribute [local instance] lawfulBEq_units in
/-- The text, if it is one of the given ones. -/
def oneOfTexts (texts : List Units) (d : Units) : Option (JsonValue N) → Units
  | some (.str s) => if s ∈ texts then s else d
  | _ => d

def readSuggestion (fmt : NumberFormat N) (s : JsonValue N) : Option Stage3Suggestion := do
  let category ← property (units "category") s
  let title ← property (units "title") s
  let description ← property (units "description") s
  let estimatedImpact ← property (units "estimatedImpact") s
  pure
    { category := oneOfTexts [units "config", units "quantization", units "hardware", units "other"] (units "other")
        category
      title := textOrEmpty fmt title
      description := textOrEmpty fmt description
      estimatedImpact := oneOfTexts [units "high", units "medium", units "low"] (units "medium") estimatedImpact }

/-- The suggestions in the content of a response; whatever throws leaves them undefined. -/
def readSuggestions (fmt : NumberFormat N) (parse : Units → Option (JsonValue N)) (content : Units) :
    Option (List Stage3Suggestion) := do
  let parsed ← parse (extractJson content)
  let field ← property (units "suggestions") parsed
  match field with
  | some (.arr rawSuggestions) =>
    if rawSuggestions = [] then none else rawSuggestions.mapM (readSuggestion fmt)
  | _ => none

/-! ## The worker -/

def systemPrompt : Units := units "You are a vLLM performance optimization expert. Return ONLY valid JSON."

/-- A request that cannot throw. -/
def ask3 (o : Stage3Op N) : Stage3Js N (Stage3Ans N o) := ExceptT.lift (request o)

/-- The end of the time range. -/
def rangeTo (run : PipelineRun N) : Stage3Js N Units :=
  match nonempty run.completedAt with
  | some completedAt => pure completedAt
  | none => ask3 .now

/-- The trace summary, undefined where the query was rejected. -/
def traceSummaryOf (run : PipelineRun N) (rangeEnd : Units) : Stage3Js N (Option (TraceSummary N)) := do
  let answer ← ask3 (.buildSummary run.modelId run.runId run.startedAt rangeEnd)
  return answer.toOption

/-- What is made of the answer of the LLM. A rejected save is ignored. -/
def settle (fmt : NumberFormat N) (parse : Units → Option (JsonValue N)) (run : PipelineRun N) (startedAt : Units)
    (traceSummary : Option (TraceSummary N)) : Except Units Units → Stage3Js N (Stage3Result N)
  | .error error => do
    let completedAt ← ask3 .now
    return { runId := run.runId, modelId := run.modelId, status := .error,
             error := some (units "LLM call failed: " ++ error), traceSummary := traceSummary,
             startedAt := startedAt, completedAt := completedAt }
  | .ok content => do
    let completedAt ← ask3 .now
    let result : Stage3Result N :=
      { runId := run.runId, modelId := run.modelId, status := .success,
        suggestions := readSuggestions fmt parse content, traceSummary := traceSummary,
        rawResponse := some content, startedAt := startedAt, completedAt := completedAt }
    let _ ← ask3 (.saveReasoningResult result)
    return result

/-- The inside of the `try` block. -/
def reason (fmt : NumberFormat N) (parse : Units → Option (JsonValue N)) (run : PipelineRun N) (startedAt : Units) :
    Stage3Js N (Stage3Result N) := do
  let rangeEnd ← rangeTo run
  let traceSummary ← traceSummaryOf run rangeEnd
  let prompt ← ExceptT.mk (pure (build fmt ⟨run.modelId, run.hfCard, run.benchmarkResult, run.stage2Result,
    traceSummary⟩))
  let llmResult ← ExceptT.mk (request (Stage3Op.complete systemPrompt prompt))
  settle fmt parse run startedAt traceSummary llmResult

def execute (fmt : NumberFormat N) (parse : Units → Option (JsonValue N)) (run : PipelineRun N) :
    Prog (Stage3Ans N) (Stage3Result N) := do
  let startedAt ← request Stage3Op.now
  match ← (reason fmt parse run startedAt).run with
  | .ok result => pure result
  | .error message => do
    let completedAt ← request Stage3Op.now
    pure { runId := run.runId, modelId := run.modelId, status := .error, error := some message,
           startedAt := startedAt, completedAt := completedAt }

/-! ## One call -/

section Calls

variable {W : Type} {es : List (Event (Stage3Ans N) W)} {pre post : W} {result : Stage3Result N}
  {fmt : NumberFormat N} {parse : Units → Option (JsonValue N)} {run : PipelineRun N}

def completionOf : Event (Stage3Ans N) W → Option (Except Units (Except Units Units))
  | ⟨.complete _ _, answer, _, _⟩ => some answer
  | _ => none

/-- The answers of the LLM client. -/
def completions (es : List (Event (Stage3Ans N) W)) : List (Except Units (Except Units Units)) :=
  es.filterMap completionOf

def summaryOf : Event (Stage3Ans N) W → Option (Except Units (TraceSummary N))
  | ⟨.buildSummary _ _ _ _, answer, _, _⟩ => some answer
  | _ => none

/-- The answers to the trace query. -/
def summaries (es : List (Event (Stage3Ans N) W)) : List (Except Units (TraceSummary N)) := es.filterMap summaryOf

/-- The LLM was called once, and the status tells whether the call succeeded. -/
def CalledOnce (es : List (Event (Stage3Ans N) W)) (result : Stage3Result N) : Prop :=
  ∃ answer, completions es = [answer] ∧ (result.status = .success ↔ ∃ content, answer = .ok (.ok content))

/-- The trace query was not rejected. -/
def SummaryGiven (es : List (Event (Stage3Ans N) W)) : Prop := ∀ answer ∈ summaries es, ∃ summary, answer = .ok summary

/-- How the inside of the `try` block may end. -/
inductive Reasoned (es : List (Event (Stage3Ans N) W)) : Except Units (Stage3Result N) → Prop
  /-- The query was rejected, and the prompt builder throws. -/
  | rejected {message message' : Units} (hs : summaries es = [.error message]) (hc : completions es = []) :
      Reasoned es (.error message')
  | threw {summary : TraceSummary N} {message : Units} (hs : summaries es = [.ok summary])
      (hc : completions es = [.error message]) : Reasoned es (.error message)
  | failed {summary : TraceSummary N} {error : Units} {result : Stage3Result N} (hs : summaries es = [.ok summary])
      (hc : completions es = [.ok (.error error)]) (hstatus : result.status = .error) : Reasoned es (.ok result)
  | succeeded {summary : TraceSummary N} {content : Units} {result : Stage3Result N}
      (hs : summaries es = [.ok summary]) (hc : completions es = [.ok (.ok content)])
      (hstatus : result.status = .success) : Reasoned es (.ok result)

theorem summaries_concat (e : Event (Stage3Ans N) W) : summaries (es ++ [e]) = summaries es ++ (summaryOf e).toList := by
  rw [summaries, List.filterMap_append, summaries]
  cases h : summaryOf e <;> simp [h]

theorem completions_concat (e : Event (Stage3Ans N) W) :
    completions (es ++ [e]) = completions es ++ (completionOf e).toList := by
  rw [completions, List.filterMap_append, completions]
  cases h : completionOf e <;> simp [h]

/-- The clock leaves no trace. -/
theorem now_summaries (t : Units) : summaries (es ++ [⟨.now, t, pre, post⟩]) = summaries es := by
  rw [summaries_concat]
  exact List.append_nil _

theorem now_completions (t : Units) : completions (es ++ [⟨.now, t, pre, post⟩]) = completions es := by
  rw [completions_concat]
  exact List.append_nil _

/-- A condition on the history and the outcome. -/
abbrev EndsIn {β : Type} (Q : List (Event (Stage3Ans N) W) → β → Prop) (es : List (Event (Stage3Ans N) W))
    (p : Prog (Stage3Ans N) β) : Prop :=
  p.Ensures (fun _ _ => True) (fun _ _ => True) Q es

/-- Nothing was asked yet. -/
def Fresh (es : List (Event (Stage3Ans N) W)) : Prop := summaries es = [] ∧ completions es = []

theorem fresh_now {t : Units} (h : Fresh es) : Fresh (es ++ [⟨.now, t, pre, post⟩]) :=
  ⟨(now_summaries t).trans h.1, (now_completions t).trans h.2⟩

theorem rangeTo_ends (h : Fresh es) :
    EndsIn (fun es outcome => Fresh es ∧ ∃ t, outcome = .ok t) es (rangeTo run).run := by
  rw [rangeTo]
  cases nonempty run.completedAt with
  | some completedAt => exact ⟨h, _, rfl⟩
  | none => exact ⟨trivial, fun t pre post _ => ⟨fresh_now h, t, rfl⟩⟩

/-- The answer of the LLM decides the status. -/
theorem settle_ends {startedAt : Units} {traceSummary : Option (TraceSummary N)} {summary : TraceSummary N}
    {answer : Except Units Units} (hs : summaries es = [.ok summary]) (hc : completions es = [.ok answer]) :
    EndsIn Reasoned es (settle fmt parse run startedAt traceSummary answer).run := by
  cases answer with
  | error error =>
    refine ensures_throws_bind.mpr ⟨trivial, fun t pre post _ => ?_⟩
    exact .failed ((now_summaries t).trans hs) ((now_completions t).trans hc) rfl
  | ok content =>
    refine ensures_throws_bind.mpr ⟨trivial, fun t pre post _ => ?_⟩
    refine ensures_throws_bind.mpr ⟨trivial, fun saved pre' post' _ => ?_⟩
    refine @Reasoned.succeeded _ _ _ summary content _ ?_ ?_ rfl
    · rw [summaries_concat, now_summaries, hs]
      rfl
    · rw [completions_concat, now_completions, hc]
      rfl

theorem reason_ends (startedAt : Units) (h : Fresh es) : EndsIn Reasoned es (reason fmt parse run startedAt).run := by
  rw [reason]
  refine ensures_throws_bind.mpr ((rangeTo_ends h).mono ?_)
  rintro es outcome ⟨hfresh, t, rfl⟩
  refine ensures_throws_bind.mpr ⟨trivial, fun answer pre post _ => ?_⟩
  have hs : ∀ e : Event (Stage3Ans N) W, summaries (es ++ [e]) = (summaryOf e).toList := fun e => by
    rw [summaries_concat, hfresh.1, List.nil_append]
  have hc : ∀ e : Event (Stage3Ans N) W, completions (es ++ [e]) = (completionOf e).toList := fun e => by
    rw [completions_concat, hfresh.2, List.nil_append]
  cases answer with
  | error message => exact .rejected (hs _) (hc _)
  | ok summary =>
    refine ensures_throws_bind.mpr ?_
    refine ensures_throws_bind.mpr ⟨trivial, fun answer pre' post' _ => ?_⟩
    have hs' : ∀ e e' : Event (Stage3Ans N) W, summaryOf e = some (.ok summary) → summaryOf e' = none →
        summaries (es ++ [e] ++ [e']) = [.ok summary] := fun e e' he he' => by
      rw [summaries_concat, hs, he, he']
      rfl
    have hc' : ∀ e e' : Event (Stage3Ans N) W, completionOf e = none →
        completions (es ++ [e] ++ [e']) = (completionOf e').toList := fun e e' he => by
      rw [completions_concat, hc, he]
      rfl
    cases answer with
    | error message => exact .threw (hs' _ _ rfl rfl) (hc' _ _ rfl)
    | ok answer => exact settle_ends (hs' _ _ rfl rfl) (hc' _ _ rfl)

/-- **A whole call.** -/
theorem execute_ends : EndsIn (fun es result => CalledOnce es result ↔ SummaryGiven es) ([] : List (Event (Stage3Ans N) W))
    (execute fmt parse run) := by
  rw [execute]
  refine ensures_bind.mpr ⟨trivial, fun startedAt pre post _ => ?_⟩
  refine ensures_bind.mpr ((reason_ends startedAt (fresh_now ⟨rfl, rfl⟩)).mono ?_)
  rintro es outcome h
  cases h with
  | rejected hs hc =>
    refine ⟨trivial, fun t pre post _ => ?_⟩
    refine iff_of_false ?_ ?_
    · rintro ⟨answer, hanswer, -⟩
      rw [now_completions, hc] at hanswer
      cases hanswer
    · intro hgiven
      rw [SummaryGiven, now_summaries, hs] at hgiven
      obtain ⟨summary, hsummary⟩ := hgiven _ (List.mem_singleton_self _)
      cases hsummary
  | threw hs hc =>
    refine ⟨trivial, fun t pre post _ => ?_⟩
    refine iff_of_true ⟨_, (now_completions t).trans hc, iff_of_false nofun nofun⟩ ?_
    rw [SummaryGiven, now_summaries, hs]
    exact fun answer hanswer => ⟨_, List.mem_singleton.mp hanswer⟩
  | failed hs hc hstatus =>
    refine iff_of_true ⟨_, hc, iff_of_false ?_ nofun⟩ ?_
    · rw [hstatus]
      exact nofun
    · rw [SummaryGiven, hs]
      exact fun answer hanswer => ⟨_, List.mem_singleton.mp hanswer⟩
  | succeeded hs hc hstatus =>
    refine iff_of_true ⟨_, hc, iff_of_true hstatus ⟨_, rfl⟩⟩ ?_
    rw [SummaryGiven, hs]
    exact fun answer hanswer => ⟨_, List.mem_singleton.mp hanswer⟩

end Calls

/-- **The runs in which the LLM is asked once and decides the status**: those in which the trace query is not
rejected, whatever becomes of the save. -/
theorem execute_once_iff {W : Type} (fmt : NumberFormat N) (parse : Units → Option (JsonValue N)) (run : PipelineRun N)
    (es : List (Event (Stage3Ans N) W)) (result : Stage3Result N) (h : (execute fmt parse run).Runs es result) :
    CalledOnce es result ↔ SummaryGiven es := by
  have hends := (@execute_ends N W fmt parse run).runs h fun _ _ => trivial
  rwa [List.nil_append] at hends

def plainRun : PipelineRun ℕ where
  runId := units "run-1"
  modelId := units "org/model-1"
  startedAt := units "2026-01-01T00:00:00Z"

/-- The trace query is answered so, and the LLM has nothing to suggest. -/
def answering (summary : Except Units (TraceSummary ℕ)) : ∀ o, Stage3Ans ℕ o
  | .now => units "2026-01-01T00:10:00Z"
  | .buildSummary _ _ _ _ => summary
  | .complete _ _ => .ok (.ok (units "\x7b\x7d"))
  | .saveReasoningResult _ => .ok ()

/-- A call of the worker on these answers. -/
def plainCall (summary : Except Units (TraceSummary ℕ)) : List (Event (Stage3Ans ℕ) Unit) × Stage3Result ℕ :=
  let call := execute plainFormat (fun _ => some (.obj [])) plainRun
  (call.trace (answering summary) (), call.eval (answering summary))

theorem runs_plainCall (summary : Except Units (TraceSummary ℕ)) :
    (execute plainFormat (fun _ => some (.obj [])) plainRun).Runs (plainCall summary).1 (plainCall summary).2 :=
  runs_trace _ _ _

/-- A query that finds no spans. -/
theorem noSpans_once : CalledOnce (plainCall (.ok noSpans)).1 (plainCall (.ok noSpans)).2 := by
  refine (execute_once_iff plainFormat (fun _ => some (.obj [])) plainRun _ _ (runs_plainCall (.ok noSpans))).mpr ?_
  have hs : summaries (plainCall (.ok noSpans)).1 = [.ok noSpans] := rfl
  rw [SummaryGiven, hs]
  exact fun answer hanswer => ⟨_, List.mem_singleton.mp hanswer⟩

/-- A query that is rejected. -/
theorem esDown_never : ¬ ∀ (es : List (Event (Stage3Ans ℕ) Unit)) (result : Stage3Result ℕ),
    (execute plainFormat (fun _ => some (.obj [])) plainRun).Runs es result → CalledOnce es result := by
  intro h
  obtain ⟨answer, hanswer, -⟩ := h _ _ (runs_plainCall (.error (units "ES down")))
  have hc : completions (plainCall (.error (units "ES down"))).1 = [] := rfl
  rw [hc] at hanswer
  cases hanswer

end Benchmarker.Stage3
