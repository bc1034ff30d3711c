import Benchmarker.Js.Regex

/-!
# Failure classification

`classifyFailure`: the category of a failure message and whether it may be retried. The rules are
tried in order, and the first one whose pattern matches decides.
-/

namespace Benchmarker

open Js Js.Re

inductive FailureCategory
  | transientInfra | resourceFit | modelArch | unknown
  deriving DecidableEq, Repr

/-- The text of a category. -/
def FailureCategory.text : FailureCategory → String
  | .transientInfra => "transient-infra"
  | .resourceFit => "resource-fit"
  | .modelArch => "model-arch"
  | .unknown => "unknown"

structure FailureClassification where
  category : FailureCategory
  retriable : Bool
  /-- The source text of the pattern that matched. -/
  matched : String
  deriving DecidableEq, Repr

/-- `Rule`: its pattern as an expression and as the text of the source. -/
structure Rule where
  category : FailureCategory
  retriable : Bool
  pattern : Re
  source : String

/-- `out\s+of\s+memory|OOM`. -/
def oom : Re := alts [seqs [lit "out", spaces, lit "of", spaces, lit "memory"], lit "OOM"]

/-- `(tool[-\s]?call|chat)` and the like share this optional separator. -/
def dashOrSpace : Re := opt (alts [lit "-", space])

/-- The rules for permanent failures of the model or of its evaluation. -/
def modelArchRules : List Rule := [
  ⟨.modelArch, false, alts [
    seqs [lit "architecture", opt (lit "s"), spaces, opt (alts [lit "are", lit "is"]), star space,
      lit "not", spaces, lit "supported"],
    seqs [lit "unsupported", spaces, opt (seqs [lit "model", spaces]), lit "architecture"]],
    "architecture[s]?\\s+(are|is)?\\s*not\\s+supported|unsupported\\s+(model\\s+)?architecture"⟩,
  ⟨.modelArch, false, alts [
    seqs [lit "no", spaces, opt (seqs [lit "known", spaces]),
      alts [seqs [lit "tool", dashOrSpace, lit "call"], lit "chat"], spaces,
      alts [lit "template", lit "parser"]],
    seqs [lit "tool", dashOrSpace, lit "call", opt (lit "ing"), spaces, lit "parser", spaces,
      lit "not"]],
    "no\\s+(known\\s+)?(tool[-\\s]?call|chat)\\s+(template|parser)|" ++
      "tool[-\\s]?call(ing)?\\s+parser\\s+not"⟩,
  ⟨.modelArch, false,
    seqs [lit "tokenizer", spaces, opt (seqs [lit "class", spaces]), gap,
      alts [seqs [lit "not", spaces, lit "found"],
        seqs [lit "does", spaces, lit "not", spaces, lit "exist"], lit "mismatch"]],
    "tokenizer\\s+(class\\s+)?.*(not\\s+found|does\\s+not\\s+exist|mismatch)"⟩,
  ⟨.modelArch, false,
    seqs [lit "quantization", spaces, gap,
      alts [seqs [lit "not", spaces, lit "supported"], lit "unsupported", lit "incompatible"]],
    "quantization\\s+.*(not\\s+supported|unsupported|incompatible)"⟩,
  ⟨.modelArch, false, alts [
    seqs [lit "Kibana", spaces, lit "CI", spaces, lit "eval", spaces, lit "failed"],
    seqs [lit "Stage", star space, lit "2", gap, alts [lit "eval", lit "score"], gap,
      alts [lit "fail", lit "below"]],
    seqs [lit "eval", spaces, lit "score", opt (lit "s"), spaces, lit "below"]],
    "Kibana\\s+CI\\s+eval\\s+failed|Stage\\s*2.*(eval|score).*(fail|below)|" ++
      "eval\\s+score[s]?\\s+below"⟩,
  ⟨.modelArch, false, alts [
    seqs [lit "failed", spaces, lit "stage2", spaces, lit "eligibility"],
    seqs [lit "did", spaces, lit "not", spaces, lit "pass", gap, lit "threshold"]],
    "failed\\s+stage2\\s+eligibility|did\\s+not\\s+pass.*threshold"⟩]

/-- The rules for exhausted resources: at load time permanent, under load retriable. -/
def resourceFitRules : List Rule := [
  ⟨.resourceFit, false, alts [
    seqs [lit "health", spaces, lit "check", spaces, lit "failed", gap, oom],
    seqs [oom, gap, alts [lit "loading", seqs [lit "load", spaces, lit "model"],
      seqs [lit "model", spaces, lit "weights"],
      seqs [lit "requires", spaces, lit "more", spaces, lit "GPU"],
      seqs [lit "during", spaces, lit "startup"]]],
    seqs [lit "requires", spaces, lit "more", spaces, lit "GPU", spaces, lit "VRAM", spaces,
      lit "than", spaces, lit "available"],
    seqs [lit "No", spaces, lit "available", spaces, lit "memory", spaces, lit "for", spaces,
      lit "the", spaces, lit "cache", spaces, lit "blocks"]],
    "health\\s+check\\s+failed.*(out\\s+of\\s+memory|OOM)|" ++
      "(out\\s+of\\s+memory|OOM).*(loading|load\\s+model|model\\s+weights|requires\\s+more\\s+GPU|" ++
      "during\\s+startup)|requires\\s+more\\s+GPU\\s+VRAM\\s+than\\s+available|" ++
      "No\\s+available\\s+memory\\s+for\\s+the\\s+cache\\s+blocks"⟩,
  ⟨.resourceFit, true, alts [
    seqs [lit "out", spaces, lit "of", spaces, lit "memory"],
    seqs [lit "CUDA", spaces, lit "out", spaces, lit "of", spaces, lit "memory"],
    lit "OOM",
    seqs [lit "cannot", spaces, lit "allocate", spaces, lit "memory"],
    seqs [lit "KV", spaces, lit "cache", gap,
      alts [lit "insufficient", seqs [lit "too", spaces, lit "small"]]]],
    "out\\s+of\\s+memory|CUDA\\s+out\\s+of\\s+memory|OOM|cannot\\s+allocate\\s+memory|" ++
      "KV\\s+cache.*(insufficient|too\\s+small)"⟩,
  ⟨.resourceFit, true,
    seqs [lit "Benchmark", spaces, lit "failed", spaces, lit "at", spaces, lit "concurrency",
      spaces, lit "level"],
    "Benchmark\\s+failed\\s+at\\s+concurrency\\s+level"⟩]

/-- The rules for flaky infrastructure. -/
def transientInfraRules : List Rule := [
  ⟨.transientInfra, true, alts [
    seqs [lit "insufficient", spaces, lit "disk", spaces, lit "space"],
    seqs [lit "no", spaces, lit "space", spaces, lit "left", spaces, lit "on", spaces,
      lit "device"],
    seqs [lit "disk", spaces, opt (seqs [lit "is", spaces]), lit "full"]],
    "insufficient\\s+disk\\s+space|no\\s+space\\s+left\\s+on\\s+device|disk\\s+(is\\s+)?full"⟩,
  ⟨.transientInfra, true, alts [
    seqs [lit "health", spaces, lit "check", spaces, lit "timed", spaces, lit "out"],
    seqs [lit "health", spaces, lit "check", spaces, lit "timeout"]],
    "health\\s+check\\s+timed\\s+out|health\\s+check\\s+timeout"⟩,
  ⟨.transientInfra, true, alts [
    seqs [lit "cannot", spaces, lit "exec", spaces, lit "in", spaces, lit "a", spaces,
      lit "stopped", spaces, lit "container"],
    seqs [lit "OCI", spaces, lit "runtime", spaces, lit "exec", spaces, lit "failed"],
    seqs [lit "container", gap,
      alts [seqs [lit "not", spaces, lit "running"], lit "stopped", lit "exited"]]],
    "cannot\\s+exec\\s+in\\s+a\\s+stopped\\s+container|OCI\\s+runtime\\s+exec\\s+failed|" ++
      "container.*(not\\s+running|stopped|exited)"⟩,
  ⟨.transientInfra, true, alts [
    seqs [lit "docker", spaces, lit "run", spaces, lit "failed"],
    seqs [lit "Cannot", spaces, lit "connect", spaces, lit "to", spaces, lit "the", spaces,
      lit "Docker", spaces, lit "daemon"],
    seqs [lit "docker", spaces, lit "daemon"]],
    "docker\\s+run\\s+failed|Cannot\\s+connect\\s+to\\s+the\\s+Docker\\s+daemon|docker\\s+daemon"⟩,
  ⟨.transientInfra, true, alts [
    seqs [lit "fetch", spaces, lit "failed"], lit "ECONNRESET", lit "ETIMEDOUT", lit "ENOTFOUND",
    lit "ECONNREFUSED", seqs [lit "socket", spaces, lit "hang", spaces, lit "up"],
    seqs [lit "network", spaces, lit "error"]],
    "fetch\\s+failed|ECONNRESET|ETIMEDOUT|ENOTFOUND|ECONNREFUSED|socket\\s+hang\\s+up|" ++
      "network\\s+error"⟩,
  ⟨.transientInfra, true, alts [
    seqs [lit "ssh", gap, alts [lit "timeout", seqs [lit "timed", spaces, lit "out"],
      seqs [lit "connection", spaces, alts [lit "refused", lit "reset", lit "closed"]]]],
    seqs [lit "Timed", spaces, lit "out", spaces, lit "while", spaces, lit "waiting", spaces,
      lit "for", spaces, lit "handshake"]],
    "ssh.*(timeout|timed\\s+out|connection\\s+(refused|reset|closed))|" ++
      "Timed\\s+out\\s+while\\s+waiting\\s+for\\s+handshake"⟩,
  ⟨.transientInfra, true, alts [
    lit "skipped", lit "canceled", lit "cancelled", lit "preempted",
    seqs [lit "pipeline", spaces, lit "idle"]],
    "skipped|canceled|cancelled|preempted|pipeline\\s+idle"⟩,
  ⟨.transientInfra, true, alts [
    seqs [lit "shared-VM", spaces, lit "takeover"],
    seqs [lit "taken", spaces, lit "over", spaces, lit "externally"],
    seqs [lit "Orphaned", spaces, lit "active", spaces, lit "entry"]],
    "shared-VM\\s+takeover|taken\\s+over\\s+externally|Orphaned\\s+active\\s+entry"⟩,
  ⟨.transientInfra, true,
    seqs [lit "smoke", spaces, lit "test", spaces, lit "failed", spaces, lit "at", spaces,
      lit "tier", spaces, alts [lit "health", lit "inference"]],
    "smoke\\s+test\\s+failed\\s+at\\s+tier\\s+(health|inference)"⟩]

def rules : List Rule := modelArchRules ++ resourceFitRules ++ transientInfraRules

def classifyFailure (message : String) : FailureClassification :=
  if trimChars message.toList = [] then ⟨.unknown, false, "(empty)"⟩
  else
    match rules.find? fun rule => rule.pattern.test message with
    | some rule => ⟨rule.category, rule.retriable, rule.source⟩
    | none => ⟨.unknown, false, "(no match)"⟩

example : (classifyFailure "CUDA OOM").retriable = true := by decide +kernel
example : (classifyFailure "OOM during  startup").retriable = false := by decide +kernel

/-- An unclassified failure is not retried. -/
theorem not_retriable_of_unknown {message : String}
    (h : (classifyFailure message).category = .unknown) :
    (classifyFailure message).retriable = false := by
  unfold classifyFailure at h ⊢
  split at h
  · rw [if_pos (by assumption)]
  · rename_i hne
    rw [if_neg hne]
    cases hf : rules.find? fun rule => rule.pattern.test message with
    | none => rfl
    | some rule =>
      rw [hf] at h
      have hmem := List.mem_of_find?_eq_some hf
      have hall : ∀ r ∈ rules, r.category ≠ .unknown := by decide
      exact absurd h (hall rule hmem)

end Benchmarker
