import Benchmarker.Deployment.Params
import Benchmarker.Scheduler.Data

/-!
# Tool-call parsers

`ModelCandidateFilter.getRecommendedToolCallParser` reads the parser of a model off the registry of
architectures; `getVllmParamsForModel` chooses the one that the model is deployed with by rules of its
own.

* `toolCallParsers`: the registry. `getRecommendedToolCallParser`, `checkToolCalling`: the filter.
* `ToolParserAgreement`: the two choose the same parser; `deployed_of_checkToolCalling`.
* **`partialMatch_eq`**: the partial match, family by family. `recommendedParser_eq`: the filter.
-/

namespace Benchmarker.Deployment

open Js FirstMatch

/-! ## The registry -/

/-- `VLLM_TOOL_CALL_PARSERS`. -/
def toolCallParsers : List (String × String) := [
  ("qwen", "hermes"), ("qwen2", "hermes"), ("qwen2_moe", "hermes"), ("qwen3", "hermes"),
  ("qwen3_moe", "hermes"), ("qwen3_next", "hermes"), ("qwen3_5", "qwen3_coder"),
  ("qwen3_5_moe", "hermes"), ("mistral", "mistral"), ("mistral3", "mistral"), ("mixtral", "mistral"),
  ("llama", "llama3_json"), ("codellama", "llama3_json"), ("glm4_moe", "glm45"), ("kimi_k2", "kimi_k2"),
  ("seed_oss", "seed_oss")]

/-- The members in lower case that every JavaScript object inherits. -/
def inheritedMembers : List String := ["constructor", "__proto__"]

/-- What the registry gives for a name: an entry, or an inherited member. -/
inductive ParserEntry
  | parser (name : String)
  | inherited (member : String)
  deriving DecidableEq, Repr

/-- `VLLM_TOOL_CALL_PARSERS[arch]`. -/
def parserEntry (arch : String) : Option ParserEntry :=
  match toolCallParsers.find? fun entry => entry.1 = arch with
  | some entry => some (.parser entry.2)
  | none => if arch ∈ inheritedMembers then some (.inherited arch) else none

/-! ## The filter -/

/-- `arch.includes(archKey) || archKey.includes(arch)`, for every entry. -/
def partialRules : List (FirstMatch.Rule String String) :=
  toolCallParsers.map fun entry =>
    ⟨fun arch => includes arch entry.1 || includes entry.1 arch, fun _ => entry.2⟩

/-- The hints of a model id, in lower case. -/
def familyHint (id : String) : Option String :=
  if includes id "qwen" then some "hermes"
  else if Names ["mistral", "mixtral"] id then some "mistral"
  else if Names ["llama", "codellama"] id then some "llama3_json"
  else none

def recommendedParser (m : Identity) : Option ParserEntry :=
  match parserEntry m.arch with
  | some entry => some entry
  | none => ((firstMatch partialRules m.arch).or (familyHint m.id)).map .parser

/-- The id and the architecture of a model, in lower case. -/
def lowered (model : ModelInfo) : Identity := ⟨toLowerCase model.id, toLowerCase model.architecture⟩

def getRecommendedToolCallParser (model : ModelInfo) : Option ParserEntry :=
  recommendedParser (lowered model)

inductive FilterCriterion
  | contextSize | modelSize | vllmArchitecture | toolCalling | parameterCount | activeParameterCount
  | instructVariant | knownFailure
  deriving DecidableEq, Repr

structure FilterRejection where
  criterion : FilterCriterion
  reason : String
  isHardRequirement : Bool
  deriving DecidableEq

def checkToolCalling (model : ModelInfo) : Option FilterRejection :=
  if !model.supportsToolCalling then some {
    criterion := .toolCalling
    reason := "Model does not support tool/function calling"
    isHardRequirement := true }
  else if (getRecommendedToolCallParser model).isNone then some {
    criterion := .toolCalling
    reason := "No known vLLM tool call parser for architecture '" ++ model.architecture ++
      "'. Supported families: Qwen (hermes), Mistral/Mixtral (mistral), Llama (llama3_json)"
    isHardRequirement := true }
  else none

/-- A recommended parser is the one that the model is deployed with. -/
def ToolParserAgreement (model : ModelInfo) : Prop :=
  ∀ entry, getRecommendedToolCallParser model = some entry → ∃ parser, entry = .parser parser ∧
    (getVllmParamsForModel model.id (some model.architecture)).toolCallParser = some parser

/-- A model that passes the check is deployed with a parser, where the two agree. -/
theorem deployed_of_checkToolCalling {model : ModelInfo} (h : ToolParserAgreement model)
    (hcheck : checkToolCalling model = none) : ∃ parser,
      getRecommendedToolCallParser model = some (.parser parser) ∧
      (getVllmParamsForModel model.id (some model.architecture)).toolCallParser = some parser := by
  cases hentry : getRecommendedToolCallParser model with
  | none => cases hclaim : model.supportsToolCalling <;> simp [checkToolCalling, hentry, hclaim] at hcheck
  | some entry =>
    obtain ⟨parser, rfl, hparser⟩ := h entry hentry
    exact ⟨parser, rfl, hparser⟩

/-! ## The partial match -/

/-- The architecture has one of the keys in it, or is a part of one. -/
def Touches (keys : List String) (arch : String) : Bool :=
  keys.any fun key => includes arch key || includes key arch

/-- The architecture is a part of one of the keys. -/
def PartOf (keys : List String) (arch : String) : Bool := keys.any fun key => includes key arch

def qwenKeys : List String := ["qwen", "qwen2", "qwen2_moe", "qwen3", "qwen3_moe", "qwen3_next"]

def mistralKeys : List String := ["mistral", "mistral3", "mixtral"]

def llamaKeys : List String := ["llama", "codellama"]

/-- The rules of the keys of one family. -/
def familyRules (keys : List String) (parser : String) : List (FirstMatch.Rule String String) :=
  keys.map fun key => ⟨fun arch => includes arch key || includes key arch, fun _ => parser⟩

theorem firstMatch_familyRules (keys : List String) (parser arch : String) :
    firstMatch (familyRules keys parser) arch = if Touches keys arch then some parser else none := by
  have happlies : Applies (familyRules keys parser) arch ↔ Touches keys arch = true := by
    simp [Applies, familyRules, Touches]
  by_cases h : Touches keys arch = true
  · rw [if_pos h, firstMatch_eq_some, yields_of_all, happlies]
    · exact h
    · intro rule hrule
      obtain ⟨key, -, rfl⟩ := List.mem_map.mp hrule
      rfl
  · rw [if_neg h, firstMatch_eq_none, happlies]
    exact h

/-- **The partial match, family by family.** -/
theorem partialMatch_eq (arch : String) : firstMatch partialRules arch =
    if Touches qwenKeys arch then some "hermes"
    else if Touches ["qwen3_5"] arch then some "qwen3_coder"
    else if Touches ["qwen3_5_moe"] arch then some "hermes"
    else if Touches mistralKeys arch then some "mistral"
    else if Touches llamaKeys arch then some "llama3_json"
    else if Touches ["glm4_moe"] arch then some "glm45"
    else if Touches ["kimi_k2"] arch then some "kimi_k2"
    else if Touches ["seed_oss"] arch then some "seed_oss"
    else none := by
  have hrules : partialRules = familyRules qwenKeys "hermes" ++ (familyRules ["qwen3_5"] "qwen3_coder" ++
    (familyRules ["qwen3_5_moe"] "hermes" ++ (familyRules mistralKeys "mistral" ++
    (familyRules llamaKeys "llama3_json" ++ (familyRules ["glm4_moe"] "glm45" ++
    (familyRules ["kimi_k2"] "kimi_k2" ++ familyRules ["seed_oss"] "seed_oss")))))) := rfl
  have hor : ∀ (c : Bool) (parser : String) (rest : Option String),
      (if c then some parser else none).or rest = if c then some parser else rest := by
    intro c parser rest
    cases c <;> rfl
  simp only [hrules, firstMatch_append, firstMatch_familyRules, hor]

/-- The direct match differs from the partial one on a single architecture. -/
theorem recommendedParser_eq (m : Identity) : recommendedParser m =
    if m.arch ∈ inheritedMembers then some (.inherited m.arch)
    else if m.arch = "qwen3_5" then some (.parser "qwen3_coder")
    else ((firstMatch partialRules m.arch).or (familyHint m.id)).map .parser := by
  have htable : ∀ entry ∈ toolCallParsers, entry.1 ∉ inheritedMembers ∧
      (entry.1 = "qwen3_5" ∧ entry.2 = "qwen3_coder" ∨
        entry.1 ≠ "qwen3_5" ∧ firstMatch partialRules entry.1 = some entry.2) := by decide +kernel
  rw [recommendedParser, parserEntry]
  cases hfind : toolCallParsers.find? fun entry => entry.1 = m.arch with
  | none =>
    have hne : m.arch ≠ "qwen3_5" := by
      intro heq
      rw [heq] at hfind
      exact absurd hfind (by decide +kernel)
    by_cases hin : m.arch ∈ inheritedMembers
    · simp [hin]
    · simp [hin, hne]
  | some entry =>
    have harch : entry.1 = m.arch := by simpa using List.find?_some hfind
    obtain ⟨hin, hcases⟩ := htable entry (List.mem_of_find?_eq_some hfind)
    rw [harch] at hin hcases
    rcases hcases with ⟨heq, hparser⟩ | ⟨hne, hmatch⟩
    · simp only [if_neg hin, if_pos heq, hparser]
    · simp only [if_neg hin, if_neg hne, hmatch]
      rfl

end Benchmarker.Deployment
