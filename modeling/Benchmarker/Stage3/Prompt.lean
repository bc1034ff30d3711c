import Mathlib.Tactic.IntervalCases
import Benchmarker.Js.Units

/-!
# The reasoning prompt

`ReasoningPromptBuilderImpl.build`: six sections, and the three steps that shorten them. How a number is written
is a parameter.

* `buildModelSection`, …, `buildInstructionsSection`: the sections.
* `truncatePrompt`, `build`: the source.
* `suffix_withoutRawOutput`, `suffix_withFiveOperations`: what the first two steps leave in place.
* **`prompt_bounded_iff`**: the prompts that are short enough and keep their instructions.
-/

namespace Benchmarker.Stage3

open Js Js.Pattern

variable {N : Type}

/-! ## What the prompt tells -/

/-- Numbers in a text: `${n}`, `n.toFixed(digits)` and `n * 100`; and in a condition. -/
structure NumberFormat (N : Type) where
  text : N → Units
  toFixed : ℕ → N → Units
  hundredfold : N → N
  truthy : N → Bool

structure HFCardResult (N : Type) where
  architecture : Units
  contextLength : N
  quantization : List Units
  tensorParallelSize : N
  maxModelLen : Option N := none
  vllmFlags : List Units
  gpuMemoryRequired : Option N := none

inductive Stage1Status
  | success | failed | skipped
  deriving DecidableEq, Repr

def Stage1Status.text : Stage1Status → Units
  | success => units "success"
  | failed => units "failed"
  | skipped => units "skipped"

structure Stage1Metrics (N : Type) where
  itl_p50_ms : N
  itl_p99_ms : N
  ttft_ms : N
  throughput_tps : N
  duration_sec : N

structure Stage1Result (N : Type) where
  status : Stage1Status
  metrics : Option (Stage1Metrics N) := none
  rawOutput : Units := []
  error : Option Units := none

inductive Stage2Status
  | success | partialRun | skipped | failed | error
  deriving DecidableEq, Repr

def Stage2Status.text : Stage2Status → Units
  | success => units "success"
  | partialRun => units "partial"
  | skipped => units "skipped"
  | failed => units "failed"
  | error => units "error"

structure SuiteResult (N : Type) where
  suite : Units
  status : Units
  score : Option N := none
  error : Option Units := none

structure Stage2Result (N : Type) where
  status : Stage2Status
  /-- The entries, as `Object.entries` lists them. -/
  scores : Option (List (Units × N)) := none
  suiteResults : Option (List (SuiteResult N)) := none
  reason : Option Units := none

structure TopError (N : Type) where
  operation : Units
  count : N
  sampleMessage : Units

structure LatencyPercentiles (N : Type) where
  p50_ms : N
  p95_ms : N
  p99_ms : N

structure Operation (N : Type) where
  name : Units
  count : N
  avgDurationMs : N
  errorRate : N

structure TraceSummary (N : Type) where
  totalSpans : N
  errorCount : N
  topErrors : List (TopError N)
  latencyPercentiles : LatencyPercentiles N
  operations : List (Operation N)

structure PromptOptions (N : Type) where
  modelId : Units
  vllmConfig : Option (HFCardResult N) := none
  stage1Result : Option (Stage1Result N) := none
  stage2Result : Option (Stage2Result N) := none
  traceSummary : Option (TraceSummary N)

/-! ## Sections -/

def maxPromptLength : ℕ := 32000
def maxTopErrors : ℕ := 5
def maxTraceOps : ℕ := 10
def maxRawOutputLength : ℕ := 2000

def newline : Units := units "\n"

def lines : List Units → Units := joinUnits newline

/-- The text, unless it is missing or empty. -/
def nonempty (text : Option Units) : Option Units := text.filter fun s => s ≠ []

section Sections

variable (fmt : NumberFormat N)

def numberOr (d : String) (n : Option N) : Units := (n.map fmt.text).getD (units d)

def listOr (d : String) (texts : Option (List Units)) : Units :=
  (texts.map (joinUnits (units ", "))).getD (units d)

def buildModelSection (modelId : Units) (vllmConfig : Option (HFCardResult N)) : Units :=
  lines [units "## Model Information",
    units "- Model ID: " ++ modelId,
    units "- Architecture: " ++ (vllmConfig.map HFCardResult.architecture).getD (units "Unknown"),
    units "- Context Length: " ++ numberOr fmt "Unknown" (vllmConfig.map HFCardResult.contextLength),
    units "- Quantization: " ++ listOr "Unknown" (vllmConfig.map HFCardResult.quantization),
    units "- Tensor Parallel: " ++ numberOr fmt "Unknown" (vllmConfig.map HFCardResult.tensorParallelSize),
    units "- GPU Memory Required: " ++ numberOr fmt "Unknown" (vllmConfig.bind HFCardResult.gpuMemoryRequired) ++
      units " GB"]

def buildVllmConfigSection (vllmConfig : Option (HFCardResult N)) : Units :=
  lines [units "## vLLM Deployment Configuration",
    units "- Flags used: " ++ listOr "None" (vllmConfig.map HFCardResult.vllmFlags),
    units "- max_model_len: " ++ numberOr fmt "Default" (vllmConfig.bind HFCardResult.maxModelLen),
    units "- tensor_parallel_size: " ++ numberOr fmt "Default" (vllmConfig.map HFCardResult.tensorParallelSize)]

def metricLines : Option (Stage1Metrics N) → List Units
  | some metrics =>
    [units "- ITL p50: " ++ fmt.text metrics.itl_p50_ms ++ units " ms",
      units "- ITL p99: " ++ fmt.text metrics.itl_p99_ms ++ units " ms",
      units "- TTFT: " ++ fmt.text metrics.ttft_ms ++ units " ms",
      units "- Throughput: " ++ fmt.text metrics.throughput_tps ++ units " tps",
      units "- Duration: " ++ fmt.text metrics.duration_sec ++ units " sec"]
  | none => [units "- Metrics: No metrics collected"]

def truncatedOutput (rawOutput : Units) : Units :=
  if maxRawOutputLength < rawOutput.length then rawOutput.take maxRawOutputLength ++ units "\n... [truncated]"
  else rawOutput

def rawOutputLine (rawOutput : Units) : Units :=
  units "- Raw Output:" ++ newline ++ fence ++ newline ++ truncatedOutput rawOutput ++ newline ++ fence

/-- The lines before the raw output. -/
def stage1Lines (stage1Result : Stage1Result N) : List Units :=
  [units "## Stage 1 Benchmark Results", units "- Status: " ++ stage1Result.status.text] ++
  metricLines fmt stage1Result.metrics ++
  ((nonempty stage1Result.error).map fun error => units "- Error: " ++ error).toList

def buildStage1Section : Option (Stage1Result N) → Units
  | none => lines [units "## Stage 1 Benchmark Results", units "No Stage 1 benchmark results available."]
  | some stage1Result =>
    lines (stage1Lines fmt stage1Result ++
      if stage1Result.rawOutput = [] then [] else [rawOutputLine stage1Result.rawOutput])

def suiteLine (suite : SuiteResult N) : Units :=
  units "  - " ++ suite.suite ++ units ": " ++ suite.status ++
    (suite.score.elim [] fun score => units " (score: " ++ fmt.text score ++ units ")") ++
    ((nonempty suite.error).elim [] fun error => units " [error: " ++ error ++ units "]")

/-- `suiteResults.filter((s) => …).length` -/
def countStatus (statuses : List Units) (suites : List (SuiteResult N)) : Units :=
  units (toString (suites.filter fun s => s.status ∈ statuses).length)

def buildStage2Section : Option (Stage2Result N) → Units
  | none => lines [units "## Stage 2 Evaluation Results", units "Stage 2 was not run."]
  | some stage2Result =>
    let scores := stage2Result.scores.getD []
    let suites := stage2Result.suiteResults.getD []
    lines ([units "## Stage 2 Evaluation Results", units "- Status: " ++ stage2Result.status.text] ++
      (if scores = [] then [] else units "- Overall Scores:" ::
        scores.map fun (key, value) => units "  - " ++ key ++ units ": " ++ fmt.text value) ++
      (if suites = [] then [] else units "- Suite Results:" :: suites.map (suiteLine fmt) ++
        [units "- Pass/Fail Count: " ++ countStatus [units "success", units "passed"] suites ++ units " passed, " ++
          countStatus [units "failed", units "error"] suites ++ units " failed"]) ++
      ((nonempty stage2Result.reason).map fun reason => units "- Reason: " ++ reason).toList)

def errorLine (err : TopError N) : Units :=
  units "  - " ++ err.operation ++ units ": " ++ fmt.text err.count ++ units " occurrences — " ++ err.sampleMessage

def operationLine (op : Operation N) : Units :=
  units "  - " ++ op.name ++ units ": count=" ++ fmt.text op.count ++ units ", avgDuration=" ++
    fmt.toFixed 2 op.avgDurationMs ++ units " ms, errorRate=" ++ fmt.toFixed 1 (fmt.hundredfold op.errorRate) ++
    units "%"

def operationsHeader (n : ℕ) : Units := units "- Operations (top " ++ units (toString n) ++ units "):"

def operationLines (operations : List (Operation N)) : List Units :=
  let ops := operations.take maxTraceOps
  if ops = [] then [units "- Operations: None"] else operationsHeader ops.length :: ops.map (operationLine fmt)

/-- The lines before the operations. -/
def traceLines (traceSummary : TraceSummary N) : List Units :=
  let topErrors := traceSummary.topErrors.take maxTopErrors
  [units "## Trace Analysis", units "- Total spans: " ++ fmt.text traceSummary.totalSpans,
    units "- Error count: " ++ fmt.text traceSummary.errorCount] ++
  (if topErrors = [] then [units "- Top errors: None"]
    else units "- Top errors:" :: topErrors.map (errorLine fmt)) ++
  [units "- Latency percentiles:",
    units "  - p50: " ++ fmt.toFixed 2 traceSummary.latencyPercentiles.p50_ms ++ units " ms",
    units "  - p95: " ++ fmt.toFixed 2 traceSummary.latencyPercentiles.p95_ms ++ units " ms",
    units "  - p99: " ++ fmt.toFixed 2 traceSummary.latencyPercentiles.p99_ms ++ units " ms"]

def buildTraceSection (traceSummary : TraceSummary N) : Units :=
  lines (traceLines fmt traceSummary ++ operationLines fmt traceSummary.operations)

end Sections

/-- The lines of the instructions below the heading. -/
def instructionLines : List Units :=
  [units "You are a vLLM performance optimization expert. Analyze the results and suggest 1-3 concrete, actionable improvements.",
    units "",
    units "Each suggestion must include:",
    units "- category: one of config | quantization | hardware | other",
    units "- title: a short, actionable title",
    units "- description: a clear explanation of what to change and why",
    units "- estimatedImpact: one of high | medium | low",
    units "",
    units "Return your response as valid JSON matching this schema:",
    units "```json",
    units "\x7b",
    units "  \"suggestions\": [",
    units "    \x7b",
    units "      \"category\": \"config\",",
    units "      \"title\": \"...\",",
    units "      \"description\": \"...\",",
    units "      \"estimatedImpact\": \"high\"",
    units "    \x7d",
    units "  ]",
    units "\x7d",
    units "```"]

def buildInstructionsSection : Units := lines (units "## Instructions" :: instructionLines)

/-! ## Shortening -/

def rawOutputHead : Pattern UInt16 := seq (lit (units "- Raw Output:")) (seq (many isSpaceUnit) (lit fence))

/-- A raw output in its fence, up to the first closing one. -/
def rawOutputPattern : Pattern UInt16 := seq rawOutputHead (seq lazyAny (lit fence))

def operationsHead : Pattern UInt16 :=
  seq (lit (units "- Operations (top "))
    (seq (chr isDigitUnit) (seq (many isDigitUnit) (lit (units "):"))))

/-- `(?=\n## |\n- [A-Z]|$)` -/
def operationsEnd : Pattern UInt16 :=
  ahead (alt (lit (units "\n## ")) (alt (seq (lit (units "\n- ")) (chr isCapitalUnit)) eod))

/-- The operations, up to what `operationsEnd` sees. -/
def operationsPattern : Pattern UInt16 := seq operationsHead (seq lazyAny operationsEnd)

/-- The first attempt. -/
def withoutRawOutput (stage1Result : Option (Stage1Result N)) (prompt : Units) : Units :=
  match stage1Result with
  | some result =>
    if result.rawOutput = [] then prompt
    else replaceFirst rawOutputPattern (units "- Raw Output: [truncated for length]") prompt
  | none => prompt

/-- The second attempt: what the pattern matches is replaced where it stands first. -/
def withFiveOperations (fmt : NumberFormat N) (traceSummary : TraceSummary N) (prompt : Units) : Units :=
  if 5 < traceSummary.operations.length then
    match operationsPattern.find prompt with
    | some (start, after) =>
      replaceFirst (lit (start.take (start.length - after.length)))
        (units "- Operations (top 5):\n" ++ lines ((traceSummary.operations.take 5).map (operationLine fmt))) prompt
    | none => prompt
  else prompt

def truncatePrompt (fmt : NumberFormat N) (prompt : Units) (stage1Result : Option (Stage1Result N))
    (traceSummary : TraceSummary N) : Units :=
  let first := withoutRawOutput stage1Result prompt
  let second := withFiveOperations fmt traceSummary first
  if first.length ≤ maxPromptLength then first
  else if second.length ≤ maxPromptLength then second
  else second.take (maxPromptLength - 50) ++ units "\n\n[Additional data truncated to fit context window]"

/-- The sections, before anything is cut. -/
def joinedSections (fmt : NumberFormat N) (opts : PromptOptions N) (traceSummary : TraceSummary N) : Units :=
  joinUnits (units "\n\n") [buildModelSection fmt opts.modelId opts.vllmConfig,
    buildVllmConfigSection fmt opts.vllmConfig, buildStage1Section fmt opts.stage1Result,
    buildStage2Section fmt opts.stage2Result, buildTraceSection fmt traceSummary, buildInstructionsSection]

/-- `build`. The trace section reads its summary without a check. -/
def build (fmt : NumberFormat N) (opts : PromptOptions N) : Except Units Units :=
  match opts.traceSummary with
  | none => .error (units "Cannot read properties of undefined (reading 'totalSpans')")
  | some traceSummary =>
    let prompt := joinedSections fmt opts traceSummary
    .ok (if maxPromptLength < prompt.length then truncatePrompt fmt prompt opts.stage1Result traceSummary
      else prompt)

/-! ## What stays in place -/

/-- What follows the first stage in the prompt. -/
def laterSections (fmt : NumberFormat N) (opts : PromptOptions N) (traceSummary : TraceSummary N) : Units :=
  units "\n\n" ++ buildStage2Section fmt opts.stage2Result ++ units "\n\n" ++ buildTraceSection fmt traceSummary ++
    units "\n\n" ++ buildInstructionsSection

theorem joinedSections_eq (fmt : NumberFormat N) (opts : PromptOptions N) (traceSummary : TraceSummary N) :
    joinedSections fmt opts traceSummary = buildModelSection fmt opts.modelId opts.vllmConfig ++ units "\n\n" ++
      buildVllmConfigSection fmt opts.vllmConfig ++ units "\n\n" ++ buildStage1Section fmt opts.stage1Result ++
      laterSections fmt opts traceSummary := by
  rw [joinedSections, joinUnits_cons, joinUnits_cons, joinUnits_cons, joinUnits_cons, joinUnits_cons,
    joinUnits_singleton, laterSections]
  simp only [List.append_assoc]

section Heads

variable {s v w rest tail : Units} {n : ℕ}

theorem single_rawOutputHead : rawOutputHead.Single :=
  (single_lit _).seq (single_many_lit (l := [0x60, 0x60]) (by decide))

theorem single_operationsHead : operationsHead.Single :=
  (single_lit _).seq (single_chr.seq (single_many_lit (l := [0x3a]) (by decide)))

/-- The head of a raw output has a dash at its front only. -/
theorem fresh_rawOutputHead (h : v ∈ rawOutputHead.ends s) : ∃ w, s = 0x2d :: (w ++ v) ∧ (0x2d : UInt16) ∉ w := by
  obtain ⟨v₁, h₁, hrest⟩ := mem_ends_seq.mp h
  obtain ⟨v₂, h₂, h₃⟩ := mem_ends_seq.mp hrest
  obtain ⟨spaces, rfl, hspaces⟩ := mem_manyEnds h₂
  obtain rfl := mem_ends_lit.mp h₃
  obtain rfl := mem_ends_lit.mp h₁
  refine ⟨units " Raw Output:" ++ spaces ++ fence, ?_, ?_⟩
  · have hlit : units "- Raw Output:" = 0x2d :: units " Raw Output:" := by decide
    rw [hlit]
    simp only [List.append_assoc, List.cons_append]
  · rw [List.append_assoc, List.mem_append, List.mem_append]
    rintro (h | h | h)
    · exact absurd h (by decide)
    · exact absurd (hspaces _ h) (by decide)
    · exact absurd h (by decide)

theorem fresh_operationsHead (h : v ∈ operationsHead.ends s) :
    ∃ w, s = 0x2d :: (w ++ v) ∧ (0x2d : UInt16) ∉ w := by
  obtain ⟨v₁, h₁, hrest⟩ := mem_ends_seq.mp h
  obtain ⟨v₂, h₂, hmany⟩ := mem_ends_seq.mp hrest
  obtain ⟨v₃, h₃, h₄⟩ := mem_ends_seq.mp hmany
  obtain ⟨digit, hdigit, rfl⟩ := mem_ends_chr.mp h₂
  obtain ⟨digits, rfl, hdigits⟩ := mem_manyEnds h₃
  obtain rfl := mem_ends_lit.mp h₄
  obtain rfl := mem_ends_lit.mp h₁
  refine ⟨units " Operations (top " ++ digit :: digits ++ units "):", ?_, ?_⟩
  · have hlit : units "- Operations (top " = 0x2d :: units " Operations (top " := by decide
    rw [hlit]
    simp only [List.append_assoc, List.cons_append]
  · rw [List.append_assoc, List.mem_append, List.mem_append]
    rintro (h | h | h)
    · exact absurd h (by decide)
    · rcases List.mem_cons.mp h with rfl | h
      · exact absurd hdigit (by decide)
      · exact absurd (hdigits _ h) (by decide)
    · exact absurd h (by decide)

theorem steady_operationsEnd : operationsEnd.Steady 0 := steady_ahead

/-- The raw output line matches. -/
theorem mem_rawOutputHead : rest ∈ rawOutputHead.ends (units "- Raw Output:" ++ (newline ++ (fence ++ rest))) := by
  refine mem_ends_seq.mpr ⟨_, mem_ends_lit.mpr rfl, mem_ends_seq.mpr ⟨fence ++ rest, ?_, mem_ends_lit.mpr rfl⟩⟩
  exact append_mem_manyEnds (List.all_eq_true.mp (by decide : newline.all isSpaceUnit = true))

/-- The header of up to ten operations matches. -/
theorem mem_operationsHead (hn : 6 ≤ n) (hn' : n ≤ 10) : rest ∈ operationsHead.ends (operationsHeader n ++ rest) := by
  have hdigits : ∃ d ds, units (toString n) = d :: ds ∧ isDigitUnit d = true ∧ ∀ c ∈ ds, isDigitUnit c = true := by
    interval_cases n
    · exact ⟨0x36, [], by decide, by decide, nofun⟩
    · exact ⟨0x37, [], by decide, by decide, nofun⟩
    · exact ⟨0x38, [], by decide, by decide, nofun⟩
    · exact ⟨0x39, [], by decide, by decide, nofun⟩
    · exact ⟨0x31, [0x30], by decide, by decide, List.all_eq_true.mp (by decide : [0x30].all isDigitUnit = true)⟩
  obtain ⟨d, ds, hdigits, hd, hds⟩ := hdigits
  have hheader : operationsHeader n ++ rest = units "- Operations (top " ++ d :: (ds ++ (units "):" ++ rest)) := by
    rw [operationsHeader, hdigits]
    simp only [List.append_assoc, List.cons_append]
  rw [hheader]
  exact mem_ends_seq.mpr ⟨_, mem_ends_lit.mpr rfl, mem_ends_seq.mpr ⟨_, mem_ends_chr.mpr ⟨d, hd, rfl⟩,
    mem_ends_seq.mpr ⟨_, append_mem_manyEnds hds, mem_ends_lit.mpr rfl⟩⟩⟩

end Heads

section Steps

variable {fmt : NumberFormat N} {opts : PromptOptions N} {traceSummary : TraceSummary N} {prompt : Units}
  {stage1Result : Stage1Result N}

/-- The section ends with the raw output line. -/
theorem suffix_stage1Section (fmt : NumberFormat N) (h : stage1Result.rawOutput ≠ []) :
    rawOutputLine stage1Result.rawOutput <:+ buildStage1Section fmt (some stage1Result) := by
  rw [buildStage1Section, if_neg h]
  exact suffix_joinUnits _ _ _

theorem suffix_joinedSections : laterSections fmt opts traceSummary <:+ joinedSections fmt opts traceSummary := by
  rw [joinedSections_eq]
  exact List.suffix_append _ _

/-- The raw output and what follows it. -/
theorem suffix_rawOutput (h : opts.stage1Result = some stage1Result) (hraw : stage1Result.rawOutput ≠ []) :
    rawOutputLine stage1Result.rawOutput ++ laterSections fmt opts traceSummary <:+
      joinedSections fmt opts traceSummary := by
  obtain ⟨before, hbefore⟩ := suffix_stage1Section fmt hraw
  rw [joinedSections_eq, h, ← hbefore]
  refine ⟨buildModelSection fmt opts.modelId opts.vllmConfig ++ units "\n\n" ++
    buildVllmConfigSection fmt opts.vllmConfig ++ units "\n\n" ++ before, ?_⟩
  simp only [List.append_assoc]

/-- **The first step leaves everything behind the first stage.** -/
theorem suffix_withoutRawOutput : laterSections fmt opts traceSummary <:+
    withoutRawOutput opts.stage1Result (joinedSections fmt opts traceSummary) := by
  unfold withoutRawOutput
  cases hstage1 : opts.stage1Result with
  | none => exact suffix_joinedSections
  | some result =>
    dsimp only
    split_ifs with hraw
    · exact suffix_joinedSections
    · refine suffix_replaceFirst suffix_joinedSections fun start after hfind => ?_
      have hline : rawOutputLine result.rawOutput ++ laterSections fmt opts traceSummary <:+
          joinedSections fmt opts traceSummary := suffix_rawOutput hstage1 hraw
      have hlit : units "- Raw Output:" = 0x2d :: units " Raw Output:" := by decide
      have hshape : rawOutputLine result.rawOutput ++ laterSections fmt opts traceSummary =
          units "- Raw Output:" ++ (newline ++ (fence ++ (newline ++ (truncatedOutput result.rawOutput ++
            (newline ++ (fence ++ laterSections fmt opts traceSummary)))))) := by
        rw [rawOutputLine]
        simp only [List.append_assoc]
      rw [hshape] at hline
      have hhead := @mem_rawOutputHead (newline ++ (truncatedOutput result.rawOutput ++
        (newline ++ (fence ++ laterSections fmt opts traceSummary))))
      rw [hlit, List.cons_append] at hline hhead
      refine find_leaves single_rawOutputHead (steady_lit fence) (fun s v h => fresh_rawOutputHead h) hhead ?_
        (mem_ends_lit.mpr rfl) hline hfind
      exact ⟨newline ++ (truncatedOutput result.rawOutput ++ newline), by simp only [List.append_assoc]⟩

/-- More than five operations have a header. -/
theorem header_infix (fmt : NumberFormat N) (h : 5 < traceSummary.operations.length) : ∃ n, 6 ≤ n ∧ n ≤ 10 ∧
    operationsHeader n <:+: buildTraceSection fmt traceSummary := by
  have hlength : (traceSummary.operations.take maxTraceOps).length = min 10 traceSummary.operations.length :=
    List.length_take
  refine ⟨(traceSummary.operations.take maxTraceOps).length, by omega, by omega, ?_⟩
  have hops : traceSummary.operations.take maxTraceOps ≠ [] := by
    intro hnil
    rw [hnil, List.length_nil] at hlength
    omega
  refine infix_joinUnits (List.mem_append_right _ ?_)
  rw [operationLines, if_neg hops]
  exact List.mem_cons_self

/-- What the operations pattern sees ahead: the instructions, behind a line break. -/
theorem mem_operationsEnd : newline ++ buildInstructionsSection ∈
    operationsEnd.ends (newline ++ buildInstructionsSection) := by
  have hheading : newline ++ buildInstructionsSection =
      units "\n## " ++ (units "Instructions" ++ (newline ++ lines instructionLines)) := by
    have hlit : newline ++ units "## Instructions" = units "\n## " ++ units "Instructions" := by decide
    rw [buildInstructionsSection, lines, instructionLines, joinUnits_cons, ← List.append_assoc, ← List.append_assoc,
      hlit, List.append_assoc, List.append_assoc]
  rw [operationsEnd, ends, if_neg]
  · exact List.mem_singleton_self _
  · rw [List.isEmpty_iff]
    refine List.ne_nil_of_mem (List.mem_append_left _ (mem_ends_lit.mpr hheading))

/-- **The second step leaves the instructions.** -/
theorem suffix_withFiveOperations (h : laterSections fmt opts traceSummary <:+ prompt) :
    newline ++ buildInstructionsSection <:+ withFiveOperations fmt traceSummary prompt := by
  have hwhole : newline ++ buildInstructionsSection <:+ prompt := by
    refine List.IsSuffix.trans ⟨units "\n\n" ++ buildStage2Section fmt opts.stage2Result ++ units "\n\n" ++
      buildTraceSection fmt traceSummary ++ newline, ?_⟩ h
    have hlit : units "\n\n" = newline ++ newline := by decide
    rw [laterSections, hlit]
    simp only [List.append_assoc]
  rw [withFiveOperations]
  split_ifs with hmany
  · cases hfind : operationsPattern.find prompt with
    | none => exact hwhole
    | some x =>
      obtain ⟨n, hn, hn', before, rest, hheader⟩ := header_infix fmt hmany
      have hlit : ∀ n, operationsHeader n = 0x2d :: (units " Operations (top " ++ units (toString n) ++ units "):") := by
        intro n
        have hdash : units "- Operations (top " = 0x2d :: units " Operations (top " := by decide
        rw [operationsHeader, hdash]
        rfl
      have hline : operationsHeader n ++ (rest ++ (newline ++ (newline ++ buildInstructionsSection))) <:+ prompt := by
        refine List.IsSuffix.trans ⟨units "\n\n" ++ buildStage2Section fmt opts.stage2Result ++ units "\n\n" ++
          before, ?_⟩ h
        have hbreaks : units "\n\n" = newline ++ newline := by decide
        rw [laterSections, ← hheader, hbreaks]
        simp only [List.append_assoc]
      have hhead := @mem_operationsHead (rest ++ (newline ++ (newline ++ buildInstructionsSection))) n hn hn'
      rw [hlit, List.cons_append] at hline hhead
      refine suffix_replaceMatch hfind (find_leaves single_operationsHead steady_operationsEnd
        (fun s v h => fresh_operationsHead h) hhead ?_ mem_operationsEnd hline hfind)
      exact ⟨rest ++ newline, by simp only [List.append_assoc]⟩
  · exact hwhole

end Steps

/-! ## Bounded prompts -/

/-- The prompt is short enough, and has its instructions. -/
structure Bounded (prompt : Units) : Prop where
  length : prompt.length ≤ maxPromptLength
  instructions : buildInstructionsSection <:+: prompt

/-- The last cut is not reached: the sections are short enough, or they are without the raw output, or without that
and with five operations. -/
def Fits (fmt : NumberFormat N) (opts : PromptOptions N) (traceSummary : TraceSummary N) : Prop :=
  let prompt := joinedSections fmt opts traceSummary
  let first := withoutRawOutput opts.stage1Result prompt
  prompt.length ≤ maxPromptLength ∨ first.length ≤ maxPromptLength ∨
    (withFiveOperations fmt traceSummary first).length ≤ maxPromptLength

/-- The last cut leaves a text that is too long by one. -/
theorem length_cut {prompt : Units} (h : maxPromptLength < prompt.length) :
    (prompt.take (maxPromptLength - 50) ++
      units "\n\n[Additional data truncated to fit context window]").length = maxPromptLength + 1 := by
  have hnotice : (units "\n\n[Additional data truncated to fit context window]").length = 51 := by decide
  rw [List.length_append, List.length_take, hnotice]
  rw [maxPromptLength] at h ⊢
  omega

theorem instructions_later (fmt : NumberFormat N) (opts : PromptOptions N) (traceSummary : TraceSummary N) :
    buildInstructionsSection <:+ laterSections fmt opts traceSummary := List.suffix_append _ _

/-- What `build` makes of the joined sections. -/
theorem bounded_iff (fmt : NumberFormat N) (opts : PromptOptions N) (traceSummary : TraceSummary N) :
    Bounded (if maxPromptLength < (joinedSections fmt opts traceSummary).length then
        truncatePrompt fmt (joinedSections fmt opts traceSummary) opts.stage1Result traceSummary
      else joinedSections fmt opts traceSummary) ↔ Fits fmt opts traceSummary := by
  have hlater := instructions_later fmt opts traceSummary
  have hfirst : buildInstructionsSection <:+
      withoutRawOutput opts.stage1Result (joinedSections fmt opts traceSummary) :=
    hlater.trans suffix_withoutRawOutput
  have hsecond : buildInstructionsSection <:+ withFiveOperations fmt traceSummary
      (withoutRawOutput opts.stage1Result (joinedSections fmt opts traceSummary)) :=
    (List.suffix_append _ _).trans (suffix_withFiveOperations suffix_withoutRawOutput)
  split_ifs with hlong
  · rw [truncatePrompt, Fits]
    split_ifs with h₁ h₂
    · exact iff_of_true ⟨h₁, hfirst.isInfix⟩ (.inr (.inl h₁))
    · exact iff_of_true ⟨h₂, hsecond.isInfix⟩ (.inr (.inr h₂))
    · refine iff_of_false (fun h => ?_) fun h => h.elim (not_le.mpr hlong) fun h => h.elim h₁ h₂
      have hle := h.length
      rw [length_cut (not_le.mp h₂)] at hle
      exact absurd hle (Nat.not_succ_le_self _)
  · have hle := not_lt.mp hlong
    exact iff_of_true ⟨hle, (hlater.trans suffix_joinedSections).isInfix⟩ (.inl hle)

/-- **The prompts that are short enough and keep their instructions.** The last cut makes room for fifty characters,
its notice has one more, and the instructions stand at the end. -/
theorem prompt_bounded_iff (fmt : NumberFormat N) (opts : PromptOptions N) :
    (∀ prompt, build fmt opts = .ok prompt → Bounded prompt) ↔
      ∀ traceSummary ∈ opts.traceSummary, Fits fmt opts traceSummary := by
  cases hsummary : opts.traceSummary with
  | none =>
    rw [build, hsummary]
    exact iff_of_true nofun nofun
  | some traceSummary =>
    rw [build, hsummary]
    simp only [Except.ok.injEq, forall_eq', Option.mem_def, Option.some.injEq]
    exact bounded_iff fmt opts traceSummary

/-- Numbers without a fraction, two digits after the point written out. -/
def plainFormat : NumberFormat ℕ where
  text n := units (toString n)
  toFixed digits n := units (toString n) ++ units "." ++ List.replicate digits 0x30
  hundredfold n := n * 100
  truthy n := n ≠ 0

/-- The summary of a run without spans. -/
def noSpans : TraceSummary ℕ := ⟨0, 0, [], ⟨0, 0, 0⟩, []⟩

/-- A failed benchmark with a long error. -/
def longError : PromptOptions ℕ where
  modelId := units "org/model-1"
  stage1Result := some { status := .failed, error := some (List.replicate 32000 0x78) }
  traceSummary := some noSpans

theorem lt_longError : maxPromptLength < (joinedSections plainFormat longError noSpans).length := by
  have herror : nonempty (some (List.replicate 32000 0x78 : Units)) = some (List.replicate 32000 0x78) := by
    rw [nonempty, Option.filter_some, if_pos]
    exact decide_eq_true (List.ne_nil_of_length_pos (by rw [List.length_replicate]; norm_num))
  have hline : units "- Error: " ++ List.replicate 32000 0x78 <:+:
      buildStage1Section plainFormat longError.stage1Result := by
    refine infix_joinUnits (List.mem_append_left _ (List.mem_append_right _ ?_))
    rw [herror]
    exact List.mem_singleton_self _
  have hsection : buildStage1Section plainFormat longError.stage1Result <:+:
      joinedSections plainFormat longError noSpans :=
    infix_joinUnits (.tail _ (.tail _ (.head _)))
  have hle := (hline.trans hsection).length_le
  rw [List.length_append, List.length_replicate] at hle
  have hprefix : (units "- Error: ").length = 9 := by decide
  rw [maxPromptLength]
  omega

/-- Its prompt is cut at the end. -/
theorem longError_cut : ¬ ∀ (opts : PromptOptions ℕ) (prompt : Units), build plainFormat opts = .ok prompt →
    Bounded prompt := by
  intro h
  have hfits : Fits plainFormat longError noSpans := (bounded_iff plainFormat longError noSpans).mp (h longError _ rfl)
  have hlong := not_le.mpr lt_longError
  rcases hfits with hle | hle | hle
  · exact hlong hle
  · exact hlong hle
  · exact hlong hle

end Benchmarker.Stage3
