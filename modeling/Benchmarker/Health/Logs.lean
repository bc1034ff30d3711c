import Mathlib.Data.List.Basic
import Benchmarker.Js.Regex

/-!
# Errors in container logs

`classifyContainerLogs`: the first pattern of a table that matches a line of the logs of a vLLM
container decides the category. Whatever the category, the classification is fatal;
`createDefaultClassification` makes an exception for network errors and timeouts.

* `HealthCheckErrorCategory`, `HealthCheckErrorClassification`.
* `fatalErrorPatterns`, `classifyContainerLogs`, `createDefaultClassification`.
* **`classifyContainerLogs_eq_some`**: which pattern has decided.
-/

namespace Benchmarker

open Js Js.Re

inductive HealthCheckErrorCategory
  | oom | cudaError | gatedRepo | architectureNotSupported | modelNotFound | diskSpace
  | networkError | containerCrash | timeout | unknown
  deriving DecidableEq, Repr

structure HealthCheckErrorClassification where
  category : HealthCheckErrorCategory
  message : String
  isFatal : Bool
  recommendation : String
  matchedLogLines : List String
  deriving DecidableEq

/-- An entry of `FATAL_ERROR_PATTERNS`. -/
structure FatalErrorPattern where
  pattern : Re
  category : HealthCheckErrorCategory
  message : String
  recommendation : String

def oomPatterns : List FatalErrorPattern := [
  ⟨lit "CUDA out of memory", .oom,
    "CUDA out of memory: the model requires more GPU VRAM than available",
    "Try reducing --gpu-memory-utilization, using a smaller model, or adding more GPUs with tensor " ++
    "parallelism"⟩,
  ⟨seqs [lit "torch.", opt (lit "cuda."), lit "OutOfMemoryError"], .oom,
    "PyTorch CUDA out of memory error during model loading or inference",
    "Try reducing --gpu-memory-utilization, using a quantized version of the model, or increasing " ++
    "GPU count"⟩,
  ⟨alts [lit "OOM", lit "Out of memory", lit "Cannot allocate memory", lit "MemoryError"], .oom,
    "System or GPU out of memory error",
    "Ensure the model fits within available VRAM and system memory. Consider reducing batch size " ++
    "or model size"⟩,
  ⟨seqs [lit "KV cache", gap,
      alts [lit "too large", lit "not enough", lit "insufficient", lit "cannot allocate"]], .oom,
    "Insufficient memory for KV cache allocation",
    "Reduce --max-model-len or --gpu-memory-utilization to free up VRAM for KV cache"⟩]

def cudaPatterns : List FatalErrorPattern := [
  ⟨seqs [lit "CUDA error: ", alts [lit "device-side assert triggered",
      lit "an illegal memory access", lit "CUBLAS_STATUS"]], .cudaError,
    "CUDA runtime error detected",
    "This may indicate a GPU hardware issue or driver incompatibility. Check NVIDIA driver version " ++
    "and GPU health"⟩,
  ⟨alts [lit "NCCL error", lit "NCCL_ERROR", lit "ncclSystemError", lit "ncclInternalError"],
    .cudaError,
    "NCCL communication error between GPUs",
    "Check that all GPUs are accessible and NVLink/PCIe connections are healthy. Try reducing " ++
    "tensor-parallel-size"⟩,
  ⟨alts [seqs [lit "RuntimeError:", gap, lit "CUDA"], seqs [lit "cuda", gap, lit "RuntimeError"]],
    .cudaError,
    "CUDA-related runtime error",
    "Check GPU driver compatibility with the vLLM version. Consider updating NVIDIA drivers"⟩,
  ⟨alts [lit "no CUDA-capable device", lit "CUDA driver version is insufficient"], .cudaError,
    "No CUDA-capable GPU found or driver version insufficient",
    "Verify that NVIDIA GPUs are available and the CUDA driver is compatible with the container " ++
    "runtime"⟩]

def gatedPatterns : List FatalErrorPattern := [
  ⟨alts [seqs [lit "Access to model", gap, lit "is restricted"], lit "gated repo",
      seqs [lit "401", gap, lit "Unauthorized", gap, lit "huggingface"]], .gatedRepo,
    "Model access is restricted (gated repository)",
    "Accept the model license on HuggingFace and ensure HF_TOKEN is set with the correct permissions"⟩,
  ⟨alts [lit "Cannot access gated repo", lit "repository is gated"], .gatedRepo,
    "Cannot access gated HuggingFace repository",
    "Visit the model page on HuggingFace to accept the license agreement, then retry with a valid " ++
    "HF_TOKEN"⟩,
  ⟨alts [lit "Invalid token", seqs [lit "token", gap, lit "expired"],
      seqs [lit "authentication", gap, lit "failed", gap, lit "huggingface"]], .gatedRepo,
    "HuggingFace authentication failed",
    "Check that HF_TOKEN is valid, not expired, and has read access to the model repository"⟩]

def architecturePatterns : List FatalErrorPattern := [
  ⟨seqs [alts [lit "not supported", lit "unsupported"], gap, alts [lit "architecture",
      lit "model type"]], .architectureNotSupported,
    "Model architecture is not supported by this version of vLLM",
    "Check vLLM documentation for supported architectures or try a newer vLLM version"⟩,
  ⟨alts [seqs [lit "KeyError:", gap, alts [lit "ForCausalLM", lit "Model"]],
      seqs [alts [lit "cannot", lit "unable to"], gap, alts [lit "load", lit "initialize"], gap,
        lit "model"]], .architectureNotSupported,
    "Failed to load model: architecture may not be supported",
    "Verify the model architecture is supported by the vLLM version in use. Check vLLM release " ++
    "notes for new architecture support"⟩,
  ⟨seqs [alts [lit "not implemented", lit "NotImplementedError"], gap,
      alts [lit "architecture", lit "model", lit "layer"]], .architectureNotSupported,
    "Model architecture requires unimplemented features in vLLM",
    "This model architecture may not yet be fully supported. Check vLLM GitHub issues for support " ++
    "status"⟩]

def modelPatterns : List FatalErrorPattern := [
  ⟨seqs [alts [lit "model", lit "repository"], gap,
      alts [lit "not found", lit "does not exist", lit "404"]], .modelNotFound,
    "Model not found on HuggingFace",
    "Verify the model ID is correct and the model exists on HuggingFace"⟩,
  ⟨seqs [lit "OSError:", gap, alts [lit "not a valid model", lit "can't load"]], .modelNotFound,
    "Unable to load model: model files may be missing or corrupt",
    "Check that the model repository contains valid model files and try clearing the cache"⟩]

def diskPattern : FatalErrorPattern :=
  ⟨alts [lit "No space left on device", lit "ENOSPC",
      seqs [lit "disk", gap, alts [lit "full", lit "space"]]], .diskSpace,
    "Insufficient disk space on the host",
    "Free up disk space by removing unused Docker images and model caches"⟩

def networkPattern : FatalErrorPattern :=
  ⟨alts [lit "ConnectionError", lit "ConnectionRefused",
      seqs [lit "DNS", gap, alts [lit "resolution", lit "lookup"], gap, lit "failed"],
      seqs [lit "timeout", gap, alts [lit "download", lit "connect"]]], .networkError,
    "Network error during model download or initialization",
    "Check network connectivity and ensure the VM can reach HuggingFace. Consider pre-downloading " ++
    "the model"⟩

/-- The patterns before the last one. -/
def specificPatterns : List FatalErrorPattern :=
  oomPatterns ++ cudaPatterns ++ gatedPatterns ++ architecturePatterns ++ modelPatterns ++
    [diskPattern]

/-- `FATAL_ERROR_PATTERNS`. -/
def fatalErrorPatterns : List FatalErrorPattern := specificPatterns ++ [networkPattern]

/-- `text.split('\n')`. -/
def logLinesOf (text : String) : List String := (text.toList.splitOn '\n').map String.ofList

/-- A line of the logs matches the pattern. -/
def FatalErrorPattern.matchesLogs (p : FatalErrorPattern) (logs : String) : Bool :=
  (logLinesOf logs).any p.pattern.test

def classifyContainerLogs (logs : String) : Option HealthCheckErrorClassification :=
  let logLines := logLinesOf logs
  (fatalErrorPatterns.find? (·.matchesLogs logs)).map fun p =>
    { category := p.category
      message := p.message
      isFatal := true
      recommendation := p.recommendation
      matchedLogLines := (logLines.filter p.pattern.test).take 5 }

/-- The recommendations of `createDefaultClassification`. -/
def defaultRecommendation : HealthCheckErrorCategory → String
  | .oom => "Try reducing --gpu-memory-utilization or using a smaller model"
  | .cudaError => "Check GPU drivers and hardware health"
  | .gatedRepo => "Ensure HF_TOKEN is set and model license is accepted"
  | .architectureNotSupported => "Check vLLM documentation for supported architectures"
  | .modelNotFound => "Verify the model ID is correct"
  | .diskSpace => "Free up disk space on the host"
  | .networkError => "Check network connectivity"
  | .containerCrash => "Check container logs for crash details"
  | .timeout => "Increase health check timeout or check resource availability"
  | .unknown => "Check container logs for more details"

def createDefaultClassification (category : HealthCheckErrorCategory) (message : String) :
    HealthCheckErrorClassification where
  category := category
  message := message
  isFatal := decide (category ≠ .timeout ∧ category ≠ .networkError)
  recommendation := defaultRecommendation category
  matchedLogLines := []

/-! ## Which pattern has decided -/

variable {logs : String} {c : HealthCheckErrorClassification}

/-- **A classification is that of a pattern that matches**, and it is always fatal. -/
theorem classifyContainerLogs_eq_some (h : classifyContainerLogs logs = some c) : c.isFatal = true ∧
    ∃ p ∈ fatalErrorPatterns, p.matchesLogs logs = true ∧ c.category = p.category := by
  obtain ⟨p, hp, rfl⟩ := Option.map_eq_some_iff.mp h
  have hmatch := List.find?_some hp
  exact ⟨rfl, p, List.mem_of_find?_eq_some hp, hmatch, rfl⟩

theorem classifyContainerLogs_eq_none (h : classifyContainerLogs logs = none) :
    ∀ p ∈ fatalErrorPatterns, p.matchesLogs logs = false := by
  intro p hp
  have := List.find?_eq_none.mp (Option.map_eq_none_iff.mp h) p hp
  simpa using this

/-- A category that `createDefaultClassification` makes fatal. -/
def HealthCheckErrorCategory.fatal (category : HealthCheckErrorCategory) : Bool :=
  (createDefaultClassification category "").isFatal

theorem fatal_of_specific {p : FatalErrorPattern} (hp : p ∈ specificPatterns) :
    p.category.fatal = true := by
  have hall : ∀ q ∈ specificPatterns, q.category.fatal = true := by
    simp [specificPatterns, oomPatterns, cudaPatterns, gatedPatterns, architecturePatterns,
      modelPatterns, diskPattern, HealthCheckErrorCategory.fatal, createDefaultClassification]
  exact hall p hp

/-- Only the last pattern of the table has a category that is not fatal by default. -/
theorem fatal_or_network {p : FatalErrorPattern} (hp : p ∈ fatalErrorPatterns) :
    p.category.fatal = true ∨ p = networkPattern := by
  rcases List.mem_append.mp hp with h | h
  · exact .inl (fatal_of_specific h)
  · exact .inr (List.mem_singleton.mp h)

/-- A classification as a network error means that no pattern of a fatal category matches. -/
theorem networkError_iff (h : classifyContainerLogs logs = some c) : c.category = .networkError ↔
    ∀ p ∈ fatalErrorPatterns, p.matchesLogs logs = true → p.category.fatal = false := by
  constructor
  · intro hnet p hp hmatch
    obtain ⟨q, hq, rfl⟩ := Option.map_eq_some_iff.mp h
    rw [fatalErrorPatterns, List.find?_append] at hq
    cases hspecific : specificPatterns.find? (·.matchesLogs logs) with
    | some q' =>
      rw [hspecific, Option.some_or, Option.some.injEq] at hq
      have hfatal := fatal_of_specific (List.mem_of_find?_eq_some hspecific)
      rw [hq, show q.category = .networkError from hnet] at hfatal
      cases hfatal
    | none =>
      rcases List.mem_append.mp hp with hp | hp
      · exact absurd hmatch (List.find?_eq_none.mp hspecific p hp)
      · rw [List.mem_singleton.mp hp]
        rfl
  · intro hall
    obtain ⟨-, p, hp, hmatch, hcat⟩ := classifyContainerLogs_eq_some h
    rw [hcat]
    rcases fatal_or_network hp with hf | rfl
    · rw [hall p hp hmatch] at hf
      cases hf
    · rfl

end Benchmarker
