import Benchmarker.Discovery.ConfigCache
import Benchmarker.Discovery.Entry

/-!
# Candidates

`evaluateCandidate`: the deep evaluation of a search entry, with its `config.json`. As in the estimator a
field that has not its type counts as absent; the reasons in words are left out.

* `normalizeArchitectureFromConfig`, `extractContextWindow`, `estimateParameterCountFromConfig`,
  `extractLicense`, `extractQuantizations`, `detectToolCallingSupport`: what is read for a candidate.
* `checkCandidate`, `evaluateCandidate`: the source. `candidateFor`: what an entry comes to.
* **`candidateFor_same`**: the cache decides about the reason of a rejection only.
-/

namespace Benchmarker.Discovery

open Js

structure ModelDiscoveryOptions where
  search : String := ""
  sort : String := "downloads"
  limit : ℕ := 50
  minContextWindow : ℚ := 4096
  minParameterCount : ℚ := 0
  includeGated : Bool := false

structure ModelCandidate where
  id : String
  name : String
  architecture : String
  contextWindow : ℚ
  license : String
  parameterCount : Option ℚ
  quantizations : List String
  supportsToolCalling : Bool
  deriving DecidableEq

/-! ## Architectures -/

/-- The families by the texts that a class name includes. -/
def architectureClasses : List (List String × String) := [
  (["Llama"], "llama"), (["Mistral"], "mistral"), (["Mixtral"], "mixtral"), (["Qwen"], "qwen2"), (["Gemma"], "gemma"),
  (["Phi"], "phi3"), (["Deepseek", "DeepSeek"], "deepseek"), (["Falcon"], "falcon"), (["GPTNeoX"], "gpt_neox"),
  (["GPT2"], "gpt2"), (["Mpt"], "mpt"), (["Bloom"], "bloom"), (["OPT"], "opt"), (["StableLm"], "stablelm"),
  (["CommandR"], "command-r"), (["Cohere"], "cohere")]

/-- The name of the first of the `architectures`; it may be empty. -/
def architectureClass (config : Json) : String :=
  match config.field "architectures" with
  | some (.arr (.str cls :: _)) => cls
  | _ => ""

def normalizeArchitectureFromConfig (config : Json) : Option String :=
  (((config.field "model_type").bind Json.asStr).filter (· ≠ "")).or <|
    (architectureClasses.find? fun entry => entry.1.any (includes (architectureClass config))).map Prod.snd

def inferenceOnlyArchitectures : List String := [
  "gemma", "gemma2", "phi", "phi3", "starcoder2", "deepseek", "deepseek_v2", "deepseek_v3", "internlm", "internlm2",
  "yi", "baichuan", "chatglm", "falcon", "mpt", "bloom", "opt", "gpt_neox", "gpt2", "gptj", "stablelm", "command-r",
  "cohere", "dbrx", "jamba", "olmo", "arctic", "exaone"]

/-- `VLLM_SUPPORTED_ARCHITECTURES` -/
def compatibleArchitectures : List String := Deployment.toolCallParsers.map Prod.fst ++ inferenceOnlyArchitectures

/-! ## Dimensions -/

/-- A number of the configuration, or else of its `text_config`. -/
def nestedNumber (config : Json) (k : String) : Option ℚ :=
  (numberOf config k).or ((config.field "text_config").bind fun tc => numberOf tc k)

/-- The rope scaling of the configuration, or else of its `text_config`. -/
def ropeScaling (config : Json) : Option Json :=
  (ropeOf config).or ((config.field "text_config").bind ropeOf)
where
  ropeOf (v : Json) : Option Json := (v.field "rope_scaling").filter fun rope => (asRecord (some rope)).isSome

/-- `extractContextWindowFromConfig`, without a README. -/
def extractContextWindow (config : Json) : ℚ :=
  let own := numberOf config
  let text k := (config.field "text_config").bind fun tc => numberOf tc k
  let maxPos := (own "max_position_embeddings").or <| (own "n_positions").or <| (own "max_sequence_length").or <|
    (text "max_position_embeddings").or <| (text "n_positions").or (text "max_sequence_length")
  let declared := maxPos.getD 0
  let window := ((nestedNumber config "sliding_window").filter fun n => n ≠ 0 ∧ declared < n).getD declared
  let scaled := match ropeScaling config with
    | none => window
    | some rope =>
      let basePos := ((numberOf rope "original_max_position_embeddings").or
        (nestedNumber config "max_position_embeddings")).getD 0
      if 0 < basePos then (⌊basePos * (numberOf rope "factor").getD 1⌋ : ℤ) else window
  if 0 < scaled then scaled else 0

/-- The parameters of the embeddings, and of the attention and the perceptron of every layer. -/
def countParameters (cfg : Json) (layers hidden : ℚ) : ℚ :=
  let dim k d := (numberOf cfg k).getD d
  let heads := dim "num_attention_heads" 0
  let headDim := if 0 < heads then hidden / heads else 0
  let kvHidden := if 0 < headDim then dim "num_key_value_heads" heads * headDim else hidden
  let attnPerLayer := hidden * hidden + 2 * (hidden * kvHidden) + hidden * hidden
  let experts := dim "num_local_experts" (dim "num_experts" (dim "n_routed_experts" 0))
  let denseIntermediate := dim "intermediate_size" (4 * hidden)
  let mlpPerLayer :=
    if 0 < experts then 3 * hidden * dim "moe_intermediate_size" denseIntermediate * experts
    else 3 * hidden * denseIntermediate
  let embeddingMatrices : ℚ := match cfg.field "tie_word_embeddings" with
    | some (.bool false) => 2
    | _ => 1
  dim "vocab_size" 0 * hidden * embeddingMatrices + layers * (attnPerLayer + mlpPerLayer)

def estimateParameterCountFromConfig (config : Json) : Option ℚ :=
  let cfg := (Json.nullish (config.field "text_config") none).getD config
  match positive (numberOf cfg "num_hidden_layers"), positive (numberOf cfg "hidden_size") with
  | some layers, some hidden =>
    (positive (some (countParameters cfg layers hidden))).map fun total =>
      ((roundNumber (total * (1 + 1 / 10)) : ℤ) : ℚ)
  | _, _ => none

/-! ## Licenses -/

def openSourceLicenses : List String := [
  "apache-2.0", "mit", "gpl-3.0", "bsd-3-clause", "bsd-2-clause", "mpl-2.0", "cc-by-4.0", "cc-by-sa-4.0", "cc0-1.0",
  "unlicense", "isc", "artistic-2.0", "openrail", "openrail++", "bigscience-openrail-m", "bigcode-openrail-m",
  "creativeml-openrail-m", "bigscience-bloom-rail-1.0", "llama2", "llama3", "llama3.1", "llama3.2", "llama3.3",
  "gemma"]

/-- What stands between the first two colons of the first tag that begins with `license:`. -/
def extractLicense (model : HFModelEntry) : String :=
  match (model.tags.getD []).find? fun tag => "license:".toList.isPrefixOf tag.toList with
  | some tag => String.ofList ((tag.toList.drop 8).takeWhile (· ≠ ':'))
  | none => "unknown"

/-! ## Metadata -/

/-- The text of a value that counts as true. -/
def shownText (v : Option Json) : Option String := (v.filter Json.truthy).bind Json.toText

def isTrue (v : Option Json) : Bool :=
  match v with
  | some (.bool b) => b
  | _ => false

/-- What a group of `config_groups` tells: its format, the family of it, and the bits of its weights. -/
def groupQuantizations (group : Json) : List String :=
  let format := ((group.field "format").bind Json.asStr).map toLowerCase
  let family := format.map fun lower => String.ofList (lower.toList.takeWhile (· ≠ '-'))
  let bits := ((group.field "weights").bind (·.field "num_bits")).filter fun v => v.asNum.isSome
  format.toList ++ (family.filter (· ≠ "")).toList ++ ((bits.bind Json.toText).map (· ++ "bit")).toList

/-- What a `quantization_config` tells, in the order in which it is added. -/
def configQuantizations (qc : Json) : List String :=
  let bits := shownText (qc.field "bits")
  let methods := match ((qc.field "quant_method").bind Json.asStr).filter (· ≠ "") with
    | some method => method :: (bits.map fun b => method ++ "-" ++ b ++ "bit").toList
    | none => (bits.map (· ++ "bit")).toList
  methods ++
    (if isTrue (qc.field "_load_in_4bit") || isTrue (qc.field "load_in_4bit") then ["4bit"] else []) ++
    (if isTrue (qc.field "_load_in_8bit") || isTrue (qc.field "load_in_8bit") then ["8bit"] else []) ++
    (((qc.field "bnb_4bit_quant_type").bind Json.asStr).map toLowerCase).toList ++
    (((qc.field "config_groups").map valuesOf).getD []).flatMap groupQuantizations

def quantizationTags : List String :=
  ["awq", "gptq", "gguf", "exl2", "bq", "q4", "q5", "q6", "q8", "int4", "int8", "fp16", "bf16"]

def extractQuantizations (model : HFModelEntry) (config : Json) : List String :=
  let siblings := model.siblings.getD []
  let quants := (((config.field "quantization_config").filter Json.truthy).map configQuantizations).getD [] ++
    ((model.tags.getD []).map toLowerCase).filter (fun lower => quantizationTags.any (includes lower)) ++
    if siblings.any (endsWith · ".gguf") then ["gguf"] else []
  if quants = [] then [if siblings.any (includes · "bf16") then "bf16" else "fp16"] else quants.eraseDups

/-- `base` stands here, and a separator or the end follows. -/
def startsBase (cs : List Char) : Bool :=
  "base".toList.isPrefixOf cs && (cs.drop 4).head?.all (· ∈ ['-', '_'])

/-- `/(^|[-_/])base([-_]|$)/` -/
def looksLikeBaseModel (id : String) : Bool :=
  startsBase id.toList || id.toList.tails.any fun
    | c :: cs => c ∈ ['-', '_', '/'] && startsBase cs
    | [] => false

def detectToolCallingSupport (model : HFModelEntry) (architecture : String) : Bool :=
  let id := toLowerCase model.id
  let tags := (model.tags.getD []).map toLowerCase
  let toolIndicators := ["tool-calling", "function-calling", "tool_use", "tool-use", "tools", "functioncalling"]
  let chatIndicators := ["instruct", "chat", "it"]
  (!looksLikeBaseModel id && architecture ∈ Deployment.toolCallParsers.map Prod.fst) ||
    toolIndicators.any (fun indicator => tags.any (includes · indicator) || includes id indicator) ||
    chatIndicators.any (includes id)

/-! ## The evaluation -/

/-- `id.split('/').pop()` -/
def lastSegment (id : String) : String := String.ofList (((id.toList.splitOn '/').getLast?).getD id.toList)

section Source

variable (service : DiscoveryService) (options : ModelDiscoveryOptions)

/-- The steps of the evaluation after the fetch. -/
def checkCandidate (model : HFModelEntry) (config : Json) : Except RejectionCategory ModelCandidate :=
  match (normalizeArchitectureFromConfig config).filter (· ∈ compatibleArchitectures) with
  | none => .error .architectureNotCompatible
  | some architecture =>
    let contextWindow := extractContextWindow config
    let parameterCount := (extractParameterCount model).or (estimateParameterCountFromConfig config)
    let license := extractLicense model
    if contextWindow < options.minContextWindow then .error .contextWindowTooSmall
    else if 0 < options.minParameterCount ∧ parameterCount.any (· < options.minParameterCount) then
      .error .parameterCountBelowFloor
    else if license ∉ openSourceLicenses then .error .licenseNotOpenSource
    else if service.hardwareProfile.any fun profile => !(dryRunCheck config profile).fits then
      .error .hardwareFitFailed
    else .ok {
      id := model.id
      name := lastSegment model.id
      architecture := architecture
      contextWindow := contextWindow
      license := license
      parameterCount := parameterCount
      quantizations := extractQuantizations model config
      supportsToolCalling := detectToolCallingSupport model architecture }

def chatCapablePipelineTags : List String := ["text-generation", "image-text-to-text"]

/-- The tag of an entry that cannot chat. -/
def hasWrongPipelineTag (model : HFModelEntry) : Bool :=
  model.pipelineTag.any fun tag => tag ≠ "" && tag ∉ chatCapablePipelineTags

def fetchRejection (status : ConfigStatus) : RejectionCategory :=
  if status.gated then .configFetchGated
  else if status.rateLimited then .configFetchRateLimited
  else .configFetchFailed

/-- The evaluation of an entry, with what a request of its `config.json` would come to. -/
def evaluateCandidate (cache : ConfigCache) (model : HFModelEntry) (reply : Reply) :
    Except RejectionCategory ModelCandidate × ConfigCache :=
  if hasWrongPipelineTag model then (.error .wrongPipelineTag, cache)
  else
    let fetched := fetchModelConfigWithStatus cache model.id reply
    (if fetched.1.config.truthy then checkCandidate service options model fetched.1.config
      else .error (fetchRejection fetched.1), fetched.2)

/-- What an entry comes to, where the cache is given. -/
def candidateFor (cache : ConfigCache) (model : HFModelEntry) (reply : Reply) : Option ModelCandidate :=
  (evaluateCandidate service options cache model reply).1.toOption

end Source

section Evaluation

variable {service : DiscoveryService} {options : ModelDiscoveryOptions} {model : HFModelEntry} {config : Json}
  {cache : ConfigCache} {reply : Reply} {candidate : ModelCandidate} {reason : RejectionCategory}

theorem checkCandidate_ok (h : checkCandidate service options model config = .ok candidate) :
    candidate.id = model.id := by
  unfold checkCandidate at h
  split at h
  · cases h
  · dsimp only at h
    split_ifs at h
    cases h
    rfl

theorem checkCandidate_error (h : checkCandidate service options model config = .error reason) :
    reason ≠ .alreadyEvaluated := by
  unfold checkCandidate at h
  split at h
  · cases h
    exact nofun
  · dsimp only at h
    split_ifs at h <;> cases h <;> exact nofun

theorem fetchRejection_ne (status : ConfigStatus) : fetchRejection status ≠ .alreadyEvaluated := by
  unfold fetchRejection
  split_ifs <;> exact nofun

theorem fastReject_ne : fastReject service model ≠ some .alreadyEvaluated := by
  intro h
  rw [fastReject, Option.or_eq_some_iff] at h
  rcases h with h | ⟨-, h⟩
  · unfold packagingReject at h
    split_ifs at h <;> cases h
  · split at h
    · split_ifs at h
      cases h
    · cases h

/-- **An evaluation ends with a candidate of the same id, or with a reason of its own.** -/
theorem evaluateCandidate_ok (h : (evaluateCandidate service options cache model reply).1 = .ok candidate) :
    candidate.id = model.id := by
  rw [evaluateCandidate] at h
  split_ifs at h
  dsimp only at h
  split_ifs at h
  exact checkCandidate_ok h

theorem evaluateCandidate_error (h : (evaluateCandidate service options cache model reply).1 = .error reason) :
    reason ≠ .alreadyEvaluated := by
  rw [evaluateCandidate] at h
  split_ifs at h
  · cases h
    exact nofun
  · dsimp only at h
    split_ifs at h
    · exact checkCandidate_error h
    · cases h
      exact fetchRejection_ne _

end Evaluation

/-! ## The cache -/

section Cache

variable {service : DiscoveryService} {options : ModelDiscoveryOptions} {model : HFModelEntry}
  {cache cache' : ConfigCache} {config : String → Reply}

/-- The configuration that a call comes to. -/
def configIn (config : String → Reply) (cache : ConfigCache) (modelId : String) : Json :=
  (fetchModelConfigWithStatus cache modelId (config modelId)).1.config

/-- Two caches come to the same configurations. -/
def SameConfigs (config : String → Reply) (cache cache' : ConfigCache) : Prop :=
  ∀ modelId, configIn config cache' modelId = configIn config cache modelId

theorem configIn_eq {modelId : String} : configIn config cache modelId =
    (cache.get modelId).getD (statusOf (config modelId)).config := by
  rw [configIn, fetchModelConfigWithStatus]
  cases cache.get modelId <;> rfl

/-- A call does not change what the calls come to. -/
theorem sameConfigs_fetch (modelId : String) : SameConfigs config cache
    (fetchModelConfigWithStatus cache modelId (config modelId)).2 := by
  intro other
  rw [configIn_eq, configIn_eq, fetchModelConfigWithStatus]
  cases hget : cache.get modelId with
  | some cached => rfl
  | none =>
    dsimp only
    rw [JsMap.get_set]
    split_ifs with hsame
    · rw [← hsame, hget]
      rfl
    · rfl

theorem sameConfigs_evaluate : SameConfigs config cache
    (evaluateCandidate service options cache model (config model.id)).2 := by
  rw [evaluateCandidate]
  split_ifs
  · exact fun _ => rfl
  · exact sameConfigs_fetch model.id

/-- **The cache decides about the reason of a rejection only.** -/
theorem candidateFor_same (h : SameConfigs config cache cache') :
    candidateFor service options cache' model (config model.id) =
      candidateFor service options cache model (config model.id) := by
  have hconfig : (fetchModelConfigWithStatus cache' model.id (config model.id)).1.config =
      (fetchModelConfigWithStatus cache model.id (config model.id)).1.config := h model.id
  rw [candidateFor, candidateFor, evaluateCandidate, evaluateCandidate]
  split_ifs
  · rfl
  · dsimp only
    rw [hconfig]
    split_ifs <;> rfl

end Cache

end Benchmarker.Discovery
