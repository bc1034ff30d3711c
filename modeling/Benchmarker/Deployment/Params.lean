import Benchmarker.Js.Regex
import Benchmarker.Order.FirstMatch

/-!
# Deployment parameters of a model

`getVllmParamsForModel`: the tool-call parser, the chat template and the extra arguments that vLLM is
started with, by an ordered list of rules over the id and the architecture, both in lower case.

* `VllmModelParams`, `paramsRules`, `getVllmParamsForModel`.
* `Names`: a text names one of several families. `isLlamaArch`, `isQwen35Plus`, `isDenseQwen35Plus`.
* **`deploysWith_llama`**, …, **`deploysWith_seedOss`**: which ids and architectures are deployed with a
  parser, one lemma for a parser.
-/

namespace Benchmarker.Deployment

open Js Js.Re FirstMatch

structure VllmModelParams where
  toolCallParser : Option String
  chatTemplate : Option String
  extraArgs : List String
  family : String
  unslothTemplateKey : Option String
  deriving DecidableEq

/-- `NONE`. -/
def noParams : VllmModelParams where
  toolCallParser := none
  chatTemplate := none
  extraArgs := []
  family := "unknown"
  unslothTemplateKey := none

/-- An id and an architecture, both in lower case. -/
structure Identity where
  id : String
  arch : String
  deriving DecidableEq

abbrev ParamsRule : Type := FirstMatch.Rule Identity VllmModelParams

/-- The text has one of the hints in it. -/
def Names (hints : List String) (text : String) : Bool := hints.any fun hint => includes text hint

/-- A rule about the id alone, for one set of parameters. -/
def idRule (hints : List String) (params : VllmModelParams) : ParamsRule :=
  ⟨fun m => Names hints m.id, fun _ => params⟩

/-! ## Llama -/

def llama4Rule : ParamsRule := idRule ["llama-4", "llama4"] {
  toolCallParser := some "llama4_pythonic"
  chatTemplate := some "examples/tool_chat_template_llama4_pythonic.jinja"
  extraArgs := []
  family := "Llama 4"
  unslothTemplateKey := none }

def llama33Rule : ParamsRule := idRule ["llama-3.3", "llama3.3"] {
  toolCallParser := some "llama3_json"
  chatTemplate := none
  extraArgs := []
  family := "Llama 3.3"
  unslothTemplateKey := some "llama-3.3" }

def isLlamaArch (arch : String) : Bool := includes arch "llama" && !includes arch "llama4"

def llama3Rule : ParamsRule where
  test m := Names ["llama", "codellama"] m.id || isLlamaArch m.arch
  value m := {
    toolCallParser := some "llama3_json"
    chatTemplate := some "examples/tool_chat_template_llama3.1_json.jinja"
    extraArgs := []
    family := "Llama 3"
    unslothTemplateKey := some
      (if Names ["llama-3.2", "llama3.2"] m.id then "llama-3.2" else "llama-3.1") }

/-! ## Qwen and Mistral -/

/-- `/qwen3[._-]?[56789]|qwen3\.[5-9]/`. -/
def qwen35PlusId : Re :=
  alt (seqs [txt "qwen3", opt (oneOf ['.', '_', '-']), oneOf ['5', '6', '7', '8', '9']])
    (seqs [txt "qwen3.", chr fun c => '5' ≤ c && c ≤ '9'])

def isQwen35Plus (m : Identity) : Bool :=
  qwen35PlusId.test m.id || includes m.arch "qwen3_5" || includes m.arch "qwen3_6"

def isDenseQwen35Plus (m : Identity) : Bool :=
  isQwen35Plus m && !includes m.arch "moe" && !includes m.id "moe"

def qwenRule : ParamsRule where
  test m := includes m.id "qwen" || includes m.arch "qwen"
  value m := {
    toolCallParser := some (if isDenseQwen35Plus m then "qwen3_coder" else "hermes")
    chatTemplate := none
    extraArgs := if isQwen35Plus m then ["--language-model-only"] else []
    family := "Qwen"
    unslothTemplateKey := some (if Names ["qwen-3", "qwen3"] m.id then "qwen-3" else "qwen-2.5") }

def mistralRule : ParamsRule where
  test m := Names ["mistral", "mixtral"] m.id || Names ["mistral", "mixtral"] m.arch
  value _ := {
    toolCallParser := some "mistral"
    chatTemplate := some "examples/tool_chat_template_mistral_parallel.jinja"
    extraArgs := []
    family := "Mistral"
    unslothTemplateKey := some "mistral" }

/-! ## Granite -/

/-- Parameters with a parser and a family name, and nothing else. -/
def plainParams (parser family : String) : VllmModelParams where
  toolCallParser := some parser
  chatTemplate := none
  extraArgs := []
  family := family
  unslothTemplateKey := none

def granite4Rule : ParamsRule := idRule ["granite-4.0", "granite-4"] (plainParams "hermes" "Granite 4")

def granite20bRule : ParamsRule := idRule ["granite-20b-functioncalling", "granite-20b-fc"] {
  plainParams "granite-20b-fc" "Granite 20B FC" with
  chatTemplate := some "examples/tool_chat_template_granite_20b_fc.jinja" }

def granite3Rule : ParamsRule where
  test m := Names ["granite-3.0", "granite-3.1"] m.id
  value m := {
    plainParams "granite" "Granite" with
    chatTemplate :=
      if includes m.id "granite-3.0" then some "examples/tool_chat_template_granite.jinja" else none }

def graniteRule : ParamsRule := idRule ["granite"] (plainParams "hermes" "Granite")

/-! ## Other families -/

def internLmRule : ParamsRule := idRule ["internlm"] {
  plainParams "internlm" "InternLM" with
  chatTemplate := some "examples/tool_chat_template_internlm2_tool.jinja" }

def jambaRule : ParamsRule := idRule ["jamba"] (plainParams "jamba" "Jamba")

def xlamRule : ParamsRule where
  test m := Names ["xlam", "xlam-"] m.id
  value m := {
    plainParams "xlam" "xLAM" with
    chatTemplate := some
      (if Names ["qwen-xlam", "xlam-1b", "xlam-3b", "qwen-xlam-32b"] m.id then
        "examples/tool_chat_template_xlam_qwen.jinja"
      else "examples/tool_chat_template_xlam_llama.jinja") }

def minimaxRule : ParamsRule := idRule ["minimax-m1", "minimax-m1"] {
  plainParams "minimax" "MiniMax M1" with
  chatTemplate := some "examples/tool_chat_template_minimax_m1.jinja" }

def deepseekV31Rule : ParamsRule := idRule ["deepseek-v3.1", "deepseekv3.1"] {
  plainParams "deepseek_v31" "DeepSeek V3.1" with
  chatTemplate := some "examples/tool_chat_template_deepseekv31.jinja" }

def deepseekR1Rule : ParamsRule := idRule ["deepseek-r1", "deepseekr1"] {
  plainParams "deepseek_v3" "DeepSeek R1" with
  chatTemplate := some "examples/tool_chat_template_deepseekr1.jinja" }

def deepseekV3Rule : ParamsRule := idRule ["deepseek-v3", "deepseekv3"] {
  plainParams "deepseek_v3" "DeepSeek V3" with
  chatTemplate := some "examples/tool_chat_template_deepseekv3.jinja" }

def gptOssRule : ParamsRule := idRule ["gpt-oss", "openai/gpt"] {
  plainParams "openai" "OpenAI OSS" with
  extraArgs := ["--reasoning-parser openai_gptoss"] }

def kimiRule : ParamsRule := idRule ["kimi-k2", "kimi_k2"] (plainParams "kimi_k2" "Kimi K2")

def seedOssRule : ParamsRule where
  test m := Names ["seed-oss", "seed_oss"] m.id || includes m.arch "seed_oss"
  value _ := plainParams "seed_oss" "Seed-OSS"

def glmRule : ParamsRule where
  test m := Names ["glm-4.5", "glm4.5", "glm-4.6", "glm4.6"] m.id || includes m.arch "glm4_moe"
  value _ := { plainParams "glm45" "GLM-4.5" with extraArgs := ["--reasoning-parser glm45"] }

/-! ## Gemma and Phi -/

def gemma3Rule : ParamsRule := idRule ["gemma-3", "gemma3"] {
  plainParams "hermes" "Gemma 3" with unslothTemplateKey := some "gemma-3" }

def gemma2Rule : ParamsRule := idRule ["gemma-2", "gemma2"] {
  plainParams "hermes" "Gemma 2" with unslothTemplateKey := some "gemma2" }

def gemmaRule : ParamsRule := idRule ["gemma"] {
  plainParams "hermes" "Gemma" with unslothTemplateKey := some "gemma" }

def phi4Rule : ParamsRule := idRule ["phi-4", "phi4"] {
  plainParams "hermes" "Phi 4" with unslothTemplateKey := some "phi-4" }

def phi3Rule : ParamsRule := idRule ["phi-3", "phi3"] {
  plainParams "hermes" "Phi 3" with unslothTemplateKey := some "phi-3" }

/-! ## The resolver -/

def llamaRules : List ParamsRule := [llama4Rule, llama33Rule, llama3Rule]

def ownRules : List ParamsRule := [granite4Rule, granite20bRule, granite3Rule, graniteRule]

def otherRules : List ParamsRule :=
  [internLmRule, jambaRule, xlamRule, minimaxRule, deepseekV31Rule, deepseekR1Rule, deepseekV3Rule,
    gptOssRule]

def smallRules : List ParamsRule := [gemma3Rule, gemma2Rule, gemmaRule, phi4Rule, phi3Rule]

/-- The rules in the order in which they are tried. -/
def paramsRules : List ParamsRule :=
  llamaRules ++ [qwenRule] ++ [mistralRule] ++ ownRules ++ otherRules ++ [kimiRule] ++ [seedOssRule] ++
    [glmRule] ++ smallRules

def getVllmParamsForModel (modelId : String) (architecture : Option String) : VllmModelParams :=
  (firstMatch paramsRules ⟨toLowerCase modelId, toLowerCase (architecture.getD "")⟩).getD noParams

/-! ## Hints -/

/-- Every hint of the first list has one of the second in it. -/
def Covers (hints others : List String) : Bool :=
  hints.all fun hint => others.any fun other => includes hint other

section Hints

variable {hints others : List String} {text : String}

theorem names_iff : Names hints text = true ↔ ∃ hint ∈ hints, includes text hint = true :=
  List.any_eq_true

theorem names_of_covers (hc : Covers hints others = true) (h : Names hints text = true) :
    Names others text = true := by
  obtain ⟨hint, hhint, htext⟩ := names_iff.mp h
  obtain ⟨other, hother, hin⟩ := List.any_eq_true.mp (List.all_eq_true.mp hc hint hhint)
  exact names_iff.mpr ⟨other, hother, includes_trans htext hin⟩

/-- A hint that has another one in it adds nothing. -/
theorem names_congr (hints others : List String) (h : Covers hints others = true)
    (h' : Covers others hints = true) (text : String) : Names hints text = Names others text :=
  Bool.eq_iff_iff.mpr ⟨names_of_covers h, names_of_covers h'⟩

theorem names_append (text : String) :
    Names (hints ++ others) text = (Names hints text || Names others text) := List.any_append

end Hints

/-! ## Blocks of rules -/

/-- The parameters have the parser. -/
def With (parser : String) (params : VllmModelParams) : Prop := params.toolCallParser = some parser

/-- The parsers of a block of rules. -/
def parsers (rules : List ParamsRule) (m : Identity) : List (Option String) :=
  rules.map fun rule => (rule.value m).toolCallParser

section Blocks

variable {rules : List ParamsRule} {m : Identity} {parser : String}

theorem not_yields (h : some parser ∉ parsers rules m) : ¬ Yields (With parser) rules m :=
  yields_of_none fun _ hrule hwith => h (List.mem_map.mpr ⟨_, hrule, hwith⟩)

/-- A block of one parser. -/
theorem yields_block {own : String} (h : ∀ p ∈ parsers rules m, p = some own) :
    Yields (With parser) rules m ↔ Applies rules m ∧ parser = own := by
  by_cases heq : parser = own
  · rw [and_iff_left heq]
    refine yields_of_all fun _ hrule => ?_
    rw [With, heq]
    exact h _ (List.mem_map.mpr ⟨_, hrule, rfl⟩)
  · exact iff_of_false (not_yields fun hmem => heq (Option.some.inj (h _ hmem))) fun h' => heq h'.2

end Blocks

section Families

variable (m : Identity)

theorem parsers_llama : parsers llamaRules m =
    [some "llama4_pythonic", some "llama3_json", some "llama3_json"] := rfl

theorem parsers_qwen : parsers [qwenRule] m =
    [some (if isDenseQwen35Plus m then "qwen3_coder" else "hermes")] := rfl

theorem parsers_mistral : parsers [mistralRule] m = [some "mistral"] := rfl

theorem parsers_own : parsers ownRules m =
    [some "hermes", some "granite-20b-fc", some "granite", some "hermes"] := rfl

theorem parsers_other : parsers otherRules m = [some "internlm", some "jamba", some "xlam",
    some "minimax", some "deepseek_v31", some "deepseek_v3", some "deepseek_v3", some "openai"] := rfl

theorem parsers_kimi : parsers [kimiRule] m = [some "kimi_k2"] := rfl

theorem parsers_seedOss : parsers [seedOssRule] m = [some "seed_oss"] := rfl

theorem parsers_glm : parsers [glmRule] m = [some "glm45"] := rfl

theorem parsers_small : parsers smallRules m = List.replicate 5 (some "hermes") := rfl

/-- The id or the architecture names a Llama; an architecture of Llama 4 does not count. -/
def namesLlama : Bool := includes m.id "llama" || isLlamaArch m.arch

def namesQwen : Bool := includes m.id "qwen" || includes m.arch "qwen"

def namesMistral : Bool := Names ["mistral", "mixtral"] m.id || Names ["mistral", "mixtral"] m.arch

def otherHints : List String :=
  ["internlm", "jamba", "xlam", "minimax-m1", "deepseek-v3", "deepseekv3", "deepseek-r1", "deepseekr1",
    "gpt-oss", "openai/gpt"]

def kimiHints : List String := ["kimi-k2", "kimi_k2"]

def namesSeedOss : Bool := Names ["seed-oss", "seed_oss"] m.id || includes m.arch "seed_oss"

def namesGlm : Bool :=
  Names ["glm-4.5", "glm4.5", "glm-4.6", "glm4.6"] m.id || includes m.arch "glm4_moe"

def smallHints : List String := ["gemma", "phi-4", "phi4", "phi-3", "phi3"]

theorem applies_llama : Applies llamaRules m ↔ namesLlama m = true := by
  have hhints : (Names ["llama-4", "llama4"] m.id || Names ["llama-3.3", "llama3.3"] m.id ||
      Names ["llama", "codellama"] m.id) = includes m.id "llama" := by
    rw [← names_append, ← names_append,
      names_congr _ ["llama"] (by decide +kernel) (by decide +kernel)]
    exact Bool.or_false _
  rw [namesLlama, ← hhints]
  simp [llamaRules, llama4Rule, llama33Rule, llama3Rule, idRule, or_assoc]

theorem applies_qwen : Applies [qwenRule] m ↔ namesQwen m = true := by simp [qwenRule, namesQwen]

theorem applies_mistral : Applies [mistralRule] m ↔ namesMistral m = true := by
  simp [mistralRule, namesMistral]

theorem applies_own : Applies ownRules m ↔ includes m.id "granite" = true := by
  have hhints : (Names ["granite-4.0", "granite-4"] m.id ||
      (Names ["granite-20b-functioncalling", "granite-20b-fc"] m.id ||
      (Names ["granite-3.0", "granite-3.1"] m.id || Names ["granite"] m.id))) =
      includes m.id "granite" := by
    rw [← names_append, ← names_append, ← names_append,
      names_congr _ ["granite"] (by decide +kernel) (by decide +kernel)]
    exact Bool.or_false _
  rw [← hhints]
  simp [ownRules, granite4Rule, granite20bRule, granite3Rule, graniteRule, idRule]

theorem applies_other : Applies otherRules m ↔ Names otherHints m.id = true := by
  have hhints : (Names ["internlm"] m.id || (Names ["jamba"] m.id || (Names ["xlam", "xlam-"] m.id ||
      (Names ["minimax-m1", "minimax-m1"] m.id || (Names ["deepseek-v3.1", "deepseekv3.1"] m.id ||
      (Names ["deepseek-r1", "deepseekr1"] m.id || (Names ["deepseek-v3", "deepseekv3"] m.id ||
      Names ["gpt-oss", "openai/gpt"] m.id))))))) = Names otherHints m.id := by
    simp only [← names_append]
    exact names_congr _ _ (by decide +kernel) (by decide +kernel) _
  rw [← hhints]
  simp [otherRules, internLmRule, jambaRule, xlamRule, minimaxRule, deepseekV31Rule, deepseekR1Rule,
    deepseekV3Rule, gptOssRule, idRule]

theorem applies_kimi : Applies [kimiRule] m ↔ Names kimiHints m.id = true := by
  simp [kimiRule, idRule, kimiHints]

theorem applies_seedOss : Applies [seedOssRule] m ↔ namesSeedOss m = true := by
  simp [seedOssRule, namesSeedOss]

theorem applies_glm : Applies [glmRule] m ↔ namesGlm m = true := by simp [glmRule, namesGlm]

theorem applies_small : Applies smallRules m ↔ Names smallHints m.id = true := by
  have hhints : (Names ["gemma-3", "gemma3"] m.id || (Names ["gemma-2", "gemma2"] m.id ||
      (Names ["gemma"] m.id || (Names ["phi-4", "phi4"] m.id || Names ["phi-3", "phi3"] m.id)))) =
      Names smallHints m.id := by
    simp only [← names_append]
    exact names_congr _ _ (by decide +kernel) (by decide +kernel) _
  rw [← hhints]
  simp [smallRules, gemma3Rule, gemma2Rule, gemmaRule, phi4Rule, phi3Rule, idRule]

end Families

/-! ## Who is deployed with a parser -/

section Deploys

variable {m : Identity} {parser : String}

theorem yields_llama : Yields (With parser) llamaRules m ↔
    if Names ["llama-4", "llama4"] m.id then parser = "llama4_pythonic"
    else namesLlama m ∧ parser = "llama3_json" := by
  have hfirst : Applies [llama4Rule] m ↔ Names ["llama-4", "llama4"] m.id = true := by
    simp [llama4Rule, idRule]
  have hall : namesLlama m = true ↔
      Names ["llama-4", "llama4"] m.id = true ∨ Applies [llama33Rule, llama3Rule] m := by
    rw [← applies_llama, ← hfirst, ← applies_append]
    rfl
  have hyield₁ : Yields (With parser) [llama4Rule] m ↔ Applies [llama4Rule] m ∧ parser = "llama4_pythonic" :=
    yields_block (List.forall_mem_singleton.mpr rfl)
  have hyield₂ : Yields (With parser) [llama33Rule, llama3Rule] m ↔
      Applies [llama33Rule, llama3Rule] m ∧ parser = "llama3_json" :=
    yields_block (List.forall_mem_cons.mpr ⟨rfl, List.forall_mem_singleton.mpr rfl⟩)
  rw [show llamaRules = [llama4Rule] ++ [llama33Rule, llama3Rule] from rfl, yields_append, hyield₁,
    hyield₂, hfirst, hall]
  by_cases h4 : Names ["llama-4", "llama4"] m.id = true <;> simp [h4]

theorem yields_qwen : Yields (With parser) [qwenRule] m ↔
    namesQwen m ∧ parser = if isDenseQwen35Plus m then "qwen3_coder" else "hermes" := by
  rw [← applies_qwen]
  exact yields_block (List.forall_mem_singleton.mpr rfl)

theorem yields_mistral : Yields (With parser) [mistralRule] m ↔ namesMistral m ∧ parser = "mistral" := by
  rw [← applies_mistral]
  exact yields_block (List.forall_mem_singleton.mpr rfl)

/-- The Granite rules, of which some have a parser of their own. -/
theorem yields_own_hermes : Yields (With "hermes") ownRules m ↔ includes m.id "granite" ∧
    (includes m.id "granite-4" ∨ ¬ Names ["granite-20b-functioncalling", "granite-20b-fc", "granite-3.0",
      "granite-3.1"] m.id) := by
  have h4 : Names ["granite-4.0", "granite-4"] m.id = includes m.id "granite-4" := by
    rw [names_congr _ ["granite-4"] (by decide +kernel) (by decide +kernel)]
    exact Bool.or_false _
  have hgranite : includes m.id "granite-4" = true → includes m.id "granite" = true :=
    fun h => includes_trans h (by decide +kernel)
  have hfirst : Yields (With "hermes") [granite4Rule] m ↔
      Applies [granite4Rule] m ∧ "hermes" = "hermes" := yields_block (List.forall_mem_singleton.mpr rfl)
  have hmiddle : ¬ Yields (With "hermes") [granite20bRule, granite3Rule] m :=
    not_yields (by simp [parsers, granite20bRule, granite3Rule, idRule, plainParams])
  have hlast : Yields (With "hermes") [graniteRule] m ↔
      Applies [graniteRule] m ∧ "hermes" = "hermes" := yields_block (List.forall_mem_singleton.mpr rfl)
  have happlies₁ : Applies [granite4Rule] m ↔ includes m.id "granite-4" = true := by
    simp [granite4Rule, idRule, h4]
  have happlies₃ : Applies [graniteRule] m ↔ includes m.id "granite" = true := by
    simp [graniteRule, idRule, Names]
  have happlies₂ : Applies [granite20bRule, granite3Rule] m ↔ Names ["granite-20b-functioncalling",
      "granite-20b-fc", "granite-3.0", "granite-3.1"] m.id = true := by
    rw [show ["granite-20b-functioncalling", "granite-20b-fc", "granite-3.0", "granite-3.1"] =
      ["granite-20b-functioncalling", "granite-20b-fc"] ++ ["granite-3.0", "granite-3.1"] from rfl,
      names_append]
    simp [granite20bRule, granite3Rule, idRule]
  rw [show ownRules = [granite4Rule] ++ [granite20bRule, granite3Rule] ++ [graniteRule] from rfl,
    yields_append, yields_append, hfirst, hlast, applies_append, happlies₁, happlies₂, happlies₃]
  by_cases h : includes m.id "granite-4" = true
  · simp [h, hgranite h]
  · simp [h, hmiddle, and_comm]

theorem yields_kimi : Yields (With parser) [kimiRule] m ↔ Names kimiHints m.id ∧ parser = "kimi_k2" := by
  rw [← applies_kimi]
  exact yields_block (List.forall_mem_singleton.mpr rfl)

theorem yields_seedOss : Yields (With parser) [seedOssRule] m ↔ namesSeedOss m ∧ parser = "seed_oss" := by
  rw [← applies_seedOss]
  exact yields_block (List.forall_mem_singleton.mpr rfl)

theorem yields_glm : Yields (With parser) [glmRule] m ↔ namesGlm m ∧ parser = "glm45" := by
  rw [← applies_glm]
  exact yields_block (List.forall_mem_singleton.mpr rfl)

theorem yields_small : Yields (With parser) smallRules m ↔ Names smallHints m.id ∧ parser = "hermes" := by
  rw [← applies_small]
  refine yields_block fun p hp => ?_
  rw [parsers_small] at hp
  exact List.eq_of_mem_replicate hp

/-- No rule about Llama, Qwen, Mistral, Granite or the families without an entry in the registry. -/
def namesEarlier (m : Identity) : Bool :=
  namesLlama m || namesQwen m || namesMistral m || includes m.id "granite" || Names otherHints m.id

theorem not_yields_own (h : parser ∉ ["hermes", "granite-20b-fc", "granite"]) :
    ¬ Yields (With parser) ownRules m := by
  refine not_yields ?_
  rw [parsers_own]
  simp only [List.mem_cons, List.not_mem_nil, or_false, not_or] at h
  simp [h]

theorem not_yields_other (h : parser ∉ ["internlm", "jamba", "xlam", "minimax", "deepseek_v31",
    "deepseek_v3", "openai"]) : ¬ Yields (With parser) otherRules m := by
  refine not_yields ?_
  rw [parsers_other]
  simpa using h

/-- The rules, block by block. -/
theorem deploysWith_iff (h : parser ∉ ["internlm", "jamba", "xlam", "minimax", "deepseek_v31",
    "deepseek_v3", "openai"]) : Yields (With parser) paramsRules m ↔
      (if Names ["llama-4", "llama4"] m.id then parser = "llama4_pythonic"
        else namesLlama m ∧ parser = "llama3_json") ∨ ¬ namesLlama m ∧
      (namesQwen m ∧ (parser = if isDenseQwen35Plus m then "qwen3_coder" else "hermes") ∨
        ¬ namesQwen m ∧
      (namesMistral m ∧ parser = "mistral" ∨ ¬ namesMistral m ∧
      (Yields (With parser) ownRules m ∨ ¬ includes m.id "granite" ∧ ¬ Names otherHints m.id ∧
      (Names kimiHints m.id ∧ parser = "kimi_k2" ∨ ¬ Names kimiHints m.id ∧
      (namesSeedOss m ∧ parser = "seed_oss" ∨ ¬ namesSeedOss m ∧
      (namesGlm m ∧ parser = "glm45" ∨ ¬ namesGlm m ∧ Names smallHints m.id ∧ parser = "hermes")))))) := by
  have hrules : paramsRules = llamaRules ++ ([qwenRule] ++ ([mistralRule] ++ (ownRules ++ (otherRules ++
    ([kimiRule] ++ ([seedOssRule] ++ ([glmRule] ++ smallRules))))))) := rfl
  simp only [hrules, yields_append, yields_llama, yields_qwen, yields_mistral, yields_kimi, yields_seedOss,
    yields_glm, yields_small, not_yields_other h, applies_llama, applies_qwen, applies_mistral,
    applies_own, applies_other, applies_kimi, applies_seedOss, applies_glm, false_or]

theorem deploysWith_coder : Yields (With "qwen3_coder") paramsRules m ↔
    ¬ namesLlama m ∧ namesQwen m ∧ isDenseQwen35Plus m := by
  rw [deploysWith_iff (by decide), iff_false_intro (not_yields_own (by decide))]
  by_cases h : isDenseQwen35Plus m <;> simp [h]

theorem deploysWith_hermes : Yields (With "hermes") paramsRules m ↔ ¬ namesLlama m ∧
    (namesQwen m ∧ ¬ isDenseQwen35Plus m ∨ ¬ namesQwen m ∧ ¬ namesMistral m ∧
      (includes m.id "granite" ∧ (includes m.id "granite-4" ∨ ¬ Names ["granite-20b-functioncalling",
        "granite-20b-fc", "granite-3.0", "granite-3.1"] m.id) ∨
      ¬ includes m.id "granite" ∧ ¬ Names otherHints m.id ∧ ¬ Names kimiHints m.id ∧
        ¬ namesSeedOss m ∧ ¬ namesGlm m ∧ Names smallHints m.id)) := by
  rw [deploysWith_iff (by decide), yields_own_hermes]
  by_cases h : isDenseQwen35Plus m <;> simp [h]

theorem deploysWith_mistral : Yields (With "mistral") paramsRules m ↔
    ¬ namesLlama m ∧ ¬ namesQwen m ∧ namesMistral m := by
  rw [deploysWith_iff (by decide), iff_false_intro (not_yields_own (by decide))]
  by_cases h : isDenseQwen35Plus m <;> simp [h]

theorem deploysWith_llama : Yields (With "llama3_json") paramsRules m ↔
    ¬ Names ["llama-4", "llama4"] m.id ∧ namesLlama m := by
  rw [deploysWith_iff (by decide), iff_false_intro (not_yields_own (by decide))]
  by_cases h : isDenseQwen35Plus m <;> simp [h]

theorem deploysWith_kimi : Yields (With "kimi_k2") paramsRules m ↔
    ¬ namesEarlier m ∧ Names kimiHints m.id := by
  rw [deploysWith_iff (by decide), iff_false_intro (not_yields_own (by decide)), namesEarlier]
  by_cases h : isDenseQwen35Plus m <;> simp [h, and_assoc]

theorem deploysWith_seedOss : Yields (With "seed_oss") paramsRules m ↔
    ¬ namesEarlier m ∧ ¬ Names kimiHints m.id ∧ namesSeedOss m := by
  rw [deploysWith_iff (by decide), iff_false_intro (not_yields_own (by decide)), namesEarlier]
  by_cases h : isDenseQwen35Plus m <;> simp [h, and_assoc]

theorem deploysWith_glm : Yields (With "glm45") paramsRules m ↔
    ¬ namesEarlier m ∧ ¬ Names kimiHints m.id ∧ ¬ namesSeedOss m ∧ namesGlm m := by
  rw [deploysWith_iff (by decide), iff_false_intro (not_yields_own (by decide)), namesEarlier]
  by_cases h : isDenseQwen35Plus m <;> simp [h, and_assoc]

end Deploys

end Benchmarker.Deployment
