import Benchmarker.Js.Json
import Benchmarker.Js.Regex
import Benchmarker.Scheduler.Stage1

/-!
# The benchmark output parser

`parseBenchmarkOutput`: the metrics in the output of `vllm bench serve`, read from a JSON object in it
or from its lines. A metric that the output does not contain is returned as 0.

* `metricPatterns`, `extractMetric`, `extractNumber`.
* `ExtractedMetrics`: the metrics that an output contains. `ExtractedMetrics.toMetrics` fills in 0.
* `parseBenchmarkOutput`; **`metrics_parseBenchmarkOutput`**: what it returns of an output.
-/

namespace Benchmarker

open Js Js.Re

/-! ## Numbers -/

/-- The values that do not round to `Infinity`. -/
def isFiniteNumber (v : ℚ) : Bool :=
  -(2 ^ 1024 - 2 ^ 970) < v && v < 2 ^ 1024 - 2 ^ 970

/-- `parseFloat`, of a text of digits and points; `none` is `NaN`. -/
def parseFloat (s : String) : Option ℚ :=
  let int := s.toList.takeWhile Char.isDigit
  let frac := match s.toList.dropWhile Char.isDigit with
    | '.' :: rest => rest.takeWhile Char.isDigit
    | _ => []
  if int = [] ∧ frac = [] then none
  else some (digitsValue int + (digitsValue frac : ℚ) / 10 ^ frac.length)

/-! ## Patterns -/

/-- One of `METRIC_PATTERNS`, around its group `([\d.]+)`. -/
structure MetricPattern where
  before : Re
  after : Re := eps

/-- `[\d.]+`. -/
def number : Re := plus (chr fun c => c.isDigit || c = '.')

/-- `\s*`. -/
def blanks : Re := star space

/-- `\s*:\s*`. -/
def colon : Re := seqs [blanks, txt ":", blanks]

/-- `["\s:]+\s*`, after a name of a metric. -/
def named (name : String) : MetricPattern where
  before := seqs [txt name, plus (chr fun c => c.toNat = 34 || isSpace c || c = ':'), blanks]

/-- `[Ii]nter[- ][Tt]oken\s+[Ll]atency`. -/
def interTokenLatency : Re := seqs [oneOf ['I', 'i'], txt "nter", oneOf ['-', ' '], oneOf ['T', 't'],
  txt "oken", spaces, oneOf ['L', 'l'], txt "atency"]

/-- `[Tt]ime\s+[Tt]o\s+[Ff]irst\s+[Tt]oken`. -/
def timeToFirstToken : Re := seqs [oneOf ['T', 't'], txt "ime", spaces, oneOf ['T', 't'], txt "o",
  spaces, oneOf ['F', 'f'], txt "irst", spaces, oneOf ['T', 't'], txt "oken"]

/-- `[Tt]hroughput`. -/
def throughputWord : Re := seqs [oneOf ['T', 't'], txt "hroughput"]

/-- `[Tt]oken\s+[Tt]hroughput`. -/
def tokenThroughput : Re := seqs [oneOf ['T', 't'], txt "oken", spaces, throughputWord]

/-- `[Oo]utput\s+[Tt]oken\s+[Tt]hroughput`. -/
def outputTokenThroughput : Re := seqs [oneOf ['O', 'o'], txt "utput", spaces, tokenThroughput]

/-- `\s*\(ms\)\s*:?\s*(?:avg\s*=\s*)?`. -/
def msAvg : Re := seqs [blanks, txt "(ms)", blanks, opt (txt ":"), blanks,
  opt (seqs [txt "avg", blanks, txt "=", blanks])]

/-- `\s*\|?\s*avg\s*`. -/
def barAvg : Re := seqs [blanks, opt (txt "|"), blanks, txt "avg", blanks]

/-- `Mean\s+NAME\s*\(ms\)\s*:\s*`, with the `i` flag; `P99` in the place of `Mean` likewise. -/
def titledMs (title name : String) : MetricPattern where
  before := seqs [lit title, spaces, lit name, blanks, lit "(ms)", colon]

/-- `NAME\s*\(ms\)\s*:\s*(?:.*?)avg\s*:?\s*`, with the `i` flag. -/
def msThenAvg (name : String) : MetricPattern where
  before := seqs [lit name, blanks, lit "(ms)", colon, lazyGap, lit "avg", blanks, opt (txt ":"),
    blanks]

/-- `METRIC_PATTERNS`. -/
structure MetricPatterns where
  itl : List MetricPattern
  ttft : List MetricPattern
  throughput : List MetricPattern
  p99Latency : List MetricPattern

def metricPatterns : MetricPatterns where
  itl := [
    titledMs "Mean" "ITL",
    { before := seqs [lit "Avg", spaces, lit "per", oneOf ['-', ' '], lit "token", spaces,
        lit "latency", colon]
      after := seqs [blanks, lit "ms"] },
    { before := seqs [interTokenLatency, msAvg] },
    msThenAvg "ITL",
    named "mean_itl_ms",
    { before := seqs [interTokenLatency, barAvg] }]
  ttft := [
    titledMs "Mean" "TTFT",
    { before := seqs [timeToFirstToken, msAvg] },
    msThenAvg "TTFT",
    named "mean_ttft_ms",
    { before := seqs [timeToFirstToken, barAvg] }]
  throughput := [
    { before := seqs [outputTokenThroughput, blanks, txt "(tok/s)", colon] },
    { before := seqs [throughputWord, blanks, txt "(tok", opt (txt "ens"), txt "/s)", colon] },
    named "output_throughput",
    { before := seqs [oneOf ['T', 't'], txt "otal", spaces, throughputWord, colon]
      after := seqs [blanks, txt "token", opt (txt "s"), txt "/s"] },
    { before := seqs [tokenThroughput, colon]
      after := seqs [blanks, txt "tok", opt (txt "ens"), txt "/s"] },
    { before := seqs [outputTokenThroughput, blanks, opt (txt "|"), blanks] }]
  p99Latency := [
    titledMs "P99" "ITL",
    { before := seqs [txt "P99", spaces, alts [txt "latency", txt "Latency"], blanks, txt "(ms)",
        colon] },
    named "p99_latency_ms",
    named "p99_itl_ms",
    { before := seqs [lit "ITL", blanks, lit "(ms)", blanks, lit ":", lazyGap, lit "p99", blanks,
        opt (txt ":"), blanks] },
    { before := seqs [txt "P99", spaces, interTokenLatency, blanks, opt (txt "|"), blanks] },
    { before := seqs [interTokenLatency, blanks, opt (txt "|"), lazyGap, txt "p99", blanks] }]

/-- `extractMetric`: the first pattern whose group is a number. -/
def extractMetric (output : String) (patterns : List MetricPattern) : Option ℚ :=
  patterns.findSome? fun pattern =>
    ((capture pattern.before number pattern.after output).bind parseFloat).filter
      (isFiniteNumber ·)

/-- `extractNumber`: the first key that holds a number. -/
def extractNumber (data : Json) (keys : List String) : Option ℚ :=
  keys.findSome? fun key => ((data.field key).bind Json.asNum).filter (isFiniteNumber ·)

/-! ## Parsing -/

/-- The metrics that an output contains. -/
structure ExtractedMetrics where
  itl : Option ℚ
  ttft : Option ℚ
  throughput : Option ℚ
  p99Latency : Option ℚ
  deriving DecidableEq

/-- `BenchmarkOutputParseResult`. -/
structure BenchmarkOutputParseResult where
  success : Bool
  metrics : BenchmarkMetrics
  errors : List String
  rawValues : JsMap String ℚ
  deriving DecidableEq

namespace ExtractedMetrics

variable (m : ExtractedMetrics)

/-- `metrics`: every metric `?? 0`. -/
def toMetrics (concurrencyLevel : ℕ) : BenchmarkMetrics where
  itlMs := m.itl.getD 0
  ttftMs := m.ttft.getD 0
  throughputTokensPerSec := m.throughput.getD 0
  p99LatencyMs := m.p99Latency.getD 0
  concurrencyLevel := concurrencyLevel

/-- `hasMinimumMetrics`. -/
def hasMinimumMetrics : Bool := m.itl.isSome && m.throughput.isSome

def rawValues : JsMap String ℚ :=
  (m.itl.toList.map fun v => ("itl", v)) ++ (m.ttft.toList.map fun v => ("ttft", v)) ++
  (m.throughput.toList.map fun v => ("throughput", v)) ++
  (m.p99Latency.toList.map fun v => ("p99Latency", v))

/-- The error of a metric that is not there. -/
def missing (v : Option ℚ) (text : String) : List String := if v.isNone then [text] else []

/-- What is returned of the extracted metrics. -/
def toResult (errors : List String) (concurrencyLevel : ℕ) : BenchmarkOutputParseResult where
  success := m.hasMinimumMetrics
  metrics := m.toMetrics concurrencyLevel
  errors := errors
  rawValues := m.rawValues

end ExtractedMetrics

/-- The metrics found with the patterns. -/
def extractFromText (output : String) : ExtractedMetrics where
  itl := extractMetric output metricPatterns.itl
  ttft := extractMetric output metricPatterns.ttft
  throughput := extractMetric output metricPatterns.throughput
  p99Latency := extractMetric output metricPatterns.p99Latency

/-- The metrics found in a parsed object. -/
def extractFromJson (data : Json) : ExtractedMetrics where
  itl := extractNumber data ["mean_itl_ms", "avg_itl_ms", "itl_ms"]
  ttft := extractNumber data ["mean_ttft_ms", "avg_ttft_ms", "ttft_ms"]
  throughput := extractNumber data ["output_throughput", "throughput", "tokens_per_second"]
  p99Latency := extractNumber data ["p99_itl_ms", "p99_latency_ms", "p99_ttft_ms"]

/-- `\{[\s\S]*"mean_itl_ms"[\s\S]*\}`. -/
def jsonBlock : Re :=
  let any := star (chr fun _ => true)
  let quote := chr fun c => c.toNat = 34
  seqs [chr fun c => c.toNat = 123, any, quote, txt "mean_itl_ms", quote, any,
    chr fun c => c.toNat = 125]

section Parse

-- `JSON.parse`; `none` is a thrown `SyntaxError`
variable (jsonParse : String → Option Json)

def jsonObject (output : String) : Option Json := (capture eps jsonBlock eps output).bind jsonParse

def tryParseJsonOutput (output : String) (concurrencyLevel : ℕ) : Option BenchmarkOutputParseResult :=
  (jsonObject jsonParse output).map fun data =>
    let m := extractFromJson data
    m.toResult (ExtractedMetrics.missing m.itl "JSON: missing ITL metric" ++
      ExtractedMetrics.missing m.throughput "JSON: missing throughput metric") concurrencyLevel

def parseBenchmarkOutput (output : String) (concurrencyLevel : ℕ) : BenchmarkOutputParseResult :=
  match tryParseJsonOutput jsonParse output concurrencyLevel with
  | some jsonMetrics => jsonMetrics
  | none =>
    let m := extractFromText output
    m.toResult
      (ExtractedMetrics.missing m.itl "Could not extract ITL (Inter-Token Latency) from output" ++
      ExtractedMetrics.missing m.ttft "Could not extract TTFT (Time To First Token) from output" ++
      ExtractedMetrics.missing m.throughput "Could not extract throughput from output" ++
      ExtractedMetrics.missing m.p99Latency "Could not extract P99 latency from output")
      concurrencyLevel

/-- The metrics that an output contains. -/
def extracted (output : String) : ExtractedMetrics :=
  ((jsonObject jsonParse output).map extractFromJson).getD (extractFromText output)

/-- **What is returned of an output**: the metrics it contains, and 0 for the others. -/
theorem metrics_parseBenchmarkOutput (output : String) (concurrencyLevel : ℕ) : ∃ errors, parseBenchmarkOutput jsonParse output concurrencyLevel =
    (extracted jsonParse output).toResult errors concurrencyLevel := by
  unfold parseBenchmarkOutput tryParseJsonOutput extracted
  cases jsonObject jsonParse output with
  | none => exact ⟨_, rfl⟩
  | some data => exact ⟨_, rfl⟩

/-- A metric is among the raw values if the output contains it. -/
theorem rawValues_parseBenchmarkOutput (output : String) (concurrencyLevel : ℕ) :
    (parseBenchmarkOutput jsonParse output concurrencyLevel).rawValues.get "ttft" =
      (extracted jsonParse output).ttft ∧
    (parseBenchmarkOutput jsonParse output concurrencyLevel).rawValues.get "p99Latency" =
      (extracted jsonParse output).p99Latency := by
  obtain ⟨errors, h⟩ := metrics_parseBenchmarkOutput jsonParse output concurrencyLevel
  rw [h]
  obtain ⟨itl, ttft, throughput, p99⟩ := extracted jsonParse output
  cases itl <;> cases ttft <;> cases throughput <;> cases p99 <;> exact ⟨rfl, rfl⟩

end Parse

end Benchmarker
