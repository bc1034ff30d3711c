import Benchmarker.Deployment.ToolParsers

/-!
# Where the two parsers agree

For which ids and architectures the parser that a model is admitted with is the one that it is deployed
with.

* `AgreesWhen`, `PartAgreesWhen`: a table over the kinds of architectures.
* `touches_of_names`, `not_touches`, `touches_eq_partOf`: what the partial match makes of a kind.
* **`toolParserAgreement_iff`**: the two agree on the models that the table admits. `llama4_disagrees`.
-/

namespace Benchmarker.Deployment

open Js FirstMatch

/-! ## The table -/

def seedHints : List String := ["seed-oss", "seed_oss"]

def glmHints : List String := ["glm-4.5", "glm4.5", "glm-4.6", "glm4.6"]

/-- The hints of an id that come before Kimi K2. -/
def earlierHints : List String := ["llama", "qwen", "mistral", "mixtral", "granite"] ++ otherHints

/-- An id that leads to the Hermes parser without the help of an architecture. -/
def LeadsToHermes (m : Identity) : Prop :=
  ¬ includes m.id "llama" ∧
    if includes m.id "qwen" then ¬ isDenseQwen35Plus m
    else ¬ Names ["mistral", "mixtral"] m.id ∧
      if includes m.id "granite" then includes m.id "granite-4" ∨
        ¬ Names ["granite-20b-functioncalling", "granite-20b-fc", "granite-3.0", "granite-3.1"] m.id
      else ¬ Names (otherHints ++ kimiHints ++ seedHints ++ glmHints) m.id ∧ Names smallHints m.id

/-- The architecture has no family name in it: it is a part of a key, or has nothing to do with any. -/
def PartAgreesWhen (m : Identity) : Prop :=
  if PartOf qwenKeys m.arch then LeadsToHermes m
  else if PartOf ["qwen3_5"] m.arch then
    ¬ includes m.id "llama" ∧ includes m.id "qwen" ∧ isDenseQwen35Plus m
  else if PartOf ["qwen3_5_moe"] m.arch then LeadsToHermes m
  else if PartOf mistralKeys m.arch then
    ¬ Names ["llama", "qwen"] m.id ∧ Names ["mistral", "mixtral"] m.id
  else if PartOf llamaKeys m.arch then ¬ Names ["llama-4", "llama4"] m.id ∧ includes m.id "llama"
  else if PartOf ["glm4_moe"] m.arch then
    ¬ Names (earlierHints ++ kimiHints ++ seedHints) m.id ∧ Names glmHints m.id
  else if PartOf ["kimi_k2"] m.arch then ¬ Names earlierHints m.id ∧ Names kimiHints m.id
  else if PartOf ["seed_oss"] m.arch then
    ¬ Names (earlierHints ++ kimiHints) m.id ∧ Names seedHints m.id
  else if includes m.id "qwen" then ¬ includes m.id "llama" ∧ ¬ isDenseQwen35Plus m
  else if Names ["mistral", "mixtral"] m.id then ¬ includes m.id "llama"
  else ¬ Names ["llama-4", "llama4"] m.id

/-- The table, by the family name that the architecture has in it. -/
def AgreesWhen (m : Identity) : Prop :=
  if m.arch ∈ inheritedMembers then False
  else if includes m.arch "qwen" then
    ¬ namesLlama m ∧ (isDenseQwen35Plus m ↔ m.arch = "qwen3_5")
  else if Names ["mistral", "mixtral"] m.arch then ¬ namesLlama m ∧ ¬ includes m.id "qwen"
  else if includes m.arch "llama" then
    ¬ Names ["llama-4", "llama4"] m.id ∧ (includes m.id "llama" ∨ ¬ includes m.arch "llama4")
  else if includes m.arch "glm4_moe" then
    ¬ Names (earlierHints ++ kimiHints ++ seedHints) m.id ∧ ¬ includes m.arch "seed_oss"
  else if includes m.arch "kimi_k2" then ¬ Names earlierHints m.id ∧ Names kimiHints m.id
  else if includes m.arch "seed_oss" then ¬ Names (earlierHints ++ kimiHints) m.id
  else PartAgreesWhen m

/-! ## Kinds of architectures -/

section Kinds

variable {keys bases : List String} {arch : String}

theorem not_names_of_covers (hc : Covers keys bases = true) (h : ¬ Names bases arch) :
    ¬ Names keys arch := fun hn => h (names_of_covers hc hn)

theorem touches_eq (keys : List String) (arch : String) :
    Touches keys arch = (Names keys arch || PartOf keys arch) := by
  rw [Touches, Names, PartOf]
  induction keys with
  | nil => rfl
  | cons key keys ih =>
    rw [List.any_cons, List.any_cons, List.any_cons, ih]
    ac_rfl

theorem not_names_append {hints : List String} (h : ¬ Names bases arch) (h' : ¬ Names hints arch) :
    ¬ Names (bases ++ hints) arch := by
  rw [names_append, Bool.or_eq_true, not_or]
  exact ⟨h, h'⟩

/-- An architecture with the name of a family in it touches the keys of the family. -/
theorem touches_of_names (h : Names keys arch) : Touches keys arch = true := by
  rw [touches_eq, h, Bool.true_or]

/-- No key in the lists is without a base in it, and none has a name as a part. -/
def Quiet (lists : List (List String)) (bases names : List String) : Bool :=
  lists.all fun keys => Covers keys bases && !names.any fun name => PartOf keys name

/-- It touches no keys of the families that it does not name. -/
theorem not_touches {lists : List (List String)} {names : List String}
    (hquiet : Quiet lists bases names = true) (h : ¬ Names bases arch) (hnames : Names names arch) :
    ∀ keys ∈ lists, Touches keys arch = false := by
  intro keys hkeys
  have hboth := List.all_eq_true.mp hquiet keys hkeys
  rw [Bool.and_eq_true, Bool.not_eq_true', List.any_eq_false] at hboth
  have hpart : PartOf keys arch = false := by
    rw [← Bool.not_eq_true, PartOf, List.any_eq_true]
    rintro ⟨key, hkey, hin⟩
    obtain ⟨name, hname, harch⟩ := names_iff.mp hnames
    exact hboth.2 name hname (List.any_eq_true.mpr ⟨key, hkey, includes_trans hin harch⟩)
  rw [touches_eq, hpart, Bool.or_false, Bool.eq_false_iff]
  exact not_names_of_covers hboth.1 h

/-- One that names none touches a key only as a part of it. -/
theorem touches_eq_partOf (hc : Covers keys bases = true) (h : ¬ Names bases arch) :
    Touches keys arch = PartOf keys arch := by
  rw [touches_eq, Bool.eq_false_iff.mpr (not_names_of_covers hc h), Bool.false_or]

end Kinds

/-! ## Agreement, kind by kind -/

/-- The agreement for an id and an architecture in lower case. -/
def Agrees (m : Identity) : Prop :=
  ∀ entry, recommendedParser m = some entry →
    ∃ parser, entry = .parser parser ∧ Yields (With parser) paramsRules m

theorem toolParserAgreement_iff_agrees (model : ModelInfo) :
    ToolParserAgreement model ↔ Agrees (lowered model) := by
  have hdeploy : ∀ parser, (getVllmParamsForModel model.id (some model.architecture)).toolCallParser =
      some parser ↔ Yields (With parser) paramsRules (lowered model) := by
    intro parser
    rw [getVllmParamsForModel, Option.getD_some]
    change ((firstMatch paramsRules (lowered model)).getD noParams).toolCallParser = some parser ↔ _
    cases hmatch : firstMatch paramsRules (lowered model) with
    | none => simp [Yields, hmatch, noParams]
    | some params => simp [Yields, hmatch, With]
  simp only [ToolParserAgreement, getRecommendedToolCallParser, hdeploy, Agrees]

section Rows

variable {m : Identity} {parser : String}

theorem agrees_iff (h : recommendedParser m = some (.parser parser)) :
    Agrees m ↔ Yields (With parser) paramsRules m := by
  constructor
  · intro hagrees
    obtain ⟨_, heq, hyields⟩ := hagrees _ h
    cases heq
    exact hyields
  · intro hyields entry hentry
    rw [h] at hentry
    exact ⟨parser, (Option.some.inj hentry).symm, hyields⟩

theorem not_agrees (h : m.arch ∈ inheritedMembers) : ¬ Agrees m := by
  intro hagrees
  obtain ⟨_, heq, -⟩ := hagrees _ (by rw [recommendedParser_eq, if_pos h])
  cases heq

/-! ### What the deployment reads off an architecture that names none of the first families -/

theorem namesLlama_of (h : ¬ Names ["llama"] m.arch) : namesLlama m = includes m.id "llama" := by
  have harch : includes m.arch "llama" = false := by simpa [Names] using h
  rw [namesLlama, isLlamaArch, harch, Bool.false_and, Bool.or_false]

theorem namesQwen_of (h : ¬ Names ["qwen"] m.arch) : namesQwen m = includes m.id "qwen" := by
  have harch : includes m.arch "qwen" = false := by simpa [Names] using h
  rw [namesQwen, harch, Bool.or_false]

theorem namesMistral_of (h : ¬ Names ["mistral", "mixtral"] m.arch) :
    namesMistral m = Names ["mistral", "mixtral"] m.id := by
  rw [namesMistral, Bool.eq_false_iff.mpr h, Bool.or_false]

theorem namesEarlier_of (h : ¬ Names ["qwen", "mistral", "mixtral", "llama"] m.arch) :
    namesEarlier m = Names earlierHints m.id := by
  rw [namesEarlier, namesLlama_of (not_names_of_covers (by decide) h),
    namesQwen_of (not_names_of_covers (by decide) h),
    namesMistral_of (not_names_of_covers (by decide) h), earlierHints, names_append]
  simp [Names, Bool.or_assoc]

/-! ### The rows -/

theorem ne_of_not_names (h : ¬ Names ["qwen"] m.arch) : m.arch ≠ "qwen3_5" := by
  intro heq
  rw [heq] at h
  exact h (by decide)

variable (hin : m.arch ∉ inheritedMembers)
include hin

theorem agrees_of_match (hne : m.arch ≠ "qwen3_5") (h : firstMatch partialRules m.arch = some parser) :
    Agrees m ↔ Yields (With parser) paramsRules m := by
  refine agrees_iff ?_
  rw [recommendedParser_eq, if_neg hin, if_neg hne, h]
  rfl

theorem agrees_qwen (h : Names ["qwen"] m.arch) :
    Agrees m ↔ ¬ namesLlama m ∧ (isDenseQwen35Plus m ↔ m.arch = "qwen3_5") := by
  have harch : includes m.arch "qwen" = true := by simpa [Names] using h
  have hqwen : namesQwen m = true := by rw [namesQwen, harch, Bool.or_true]
  by_cases hne : m.arch = "qwen3_5"
  · have hrec : recommendedParser m = some (.parser "qwen3_coder") := by
      rw [recommendedParser_eq, if_neg hin, if_pos hne]
    rw [agrees_iff hrec, deploysWith_coder, iff_true_right hne, and_iff_right hqwen]
  · have htouch : Touches qwenKeys m.arch = true :=
      touches_of_names (names_of_covers (by decide) h)
    have hmatch : firstMatch partialRules m.arch = some "hermes" := by rw [partialMatch_eq, if_pos htouch]
    rw [agrees_of_match hin hne hmatch, deploysWith_hermes, iff_false_right hne]
    simp [hqwen]

theorem agrees_mistral (hno : ¬ Names ["qwen"] m.arch) (h : Names ["mistral", "mixtral"] m.arch) :
    Agrees m ↔ ¬ namesLlama m ∧ ¬ includes m.id "qwen" := by
  have hquiet : ∀ keys ∈ [qwenKeys, ["qwen3_5"], ["qwen3_5_moe"]], Touches keys m.arch = false :=
    not_touches (by decide) hno h
  have htouch : Touches mistralKeys m.arch = true :=
    touches_of_names (names_of_covers (by decide) h)
  have hmatch : firstMatch partialRules m.arch = some "mistral" := by
    simp [partialMatch_eq, hquiet, htouch]
  have hmistral : namesMistral m = true := by rw [namesMistral, h, Bool.or_true]
  rw [agrees_of_match hin (ne_of_not_names hno) hmatch, deploysWith_mistral, namesQwen_of hno,
    and_iff_left hmistral]

theorem agrees_llama (hno : ¬ Names ["qwen", "mistral", "mixtral"] m.arch) (h : Names ["llama"] m.arch) :
    Agrees m ↔ ¬ Names ["llama-4", "llama4"] m.id ∧
      (includes m.id "llama" ∨ ¬ includes m.arch "llama4") := by
  have hquiet : ∀ keys ∈ [qwenKeys, ["qwen3_5"], ["qwen3_5_moe"], mistralKeys],
      Touches keys m.arch = false := not_touches (by decide) hno h
  have htouch : Touches llamaKeys m.arch = true := touches_of_names (names_of_covers (by decide) h)
  have hmatch : firstMatch partialRules m.arch = some "llama3_json" := by
    simp [partialMatch_eq, hquiet, htouch]
  have harch : includes m.arch "llama" = true := by simpa [Names] using h
  rw [agrees_of_match hin (ne_of_not_names (not_names_of_covers (by decide) hno)) hmatch,
    deploysWith_llama, namesLlama, isLlamaArch, harch]
  simp

theorem agrees_glm (hno : ¬ Names ["qwen", "mistral", "mixtral", "llama"] m.arch)
    (h : Names ["glm4_moe"] m.arch) : Agrees m ↔
      ¬ Names (earlierHints ++ kimiHints ++ seedHints) m.id ∧ ¬ includes m.arch "seed_oss" := by
  have hquiet : ∀ keys ∈ [qwenKeys, ["qwen3_5"], ["qwen3_5_moe"], mistralKeys, llamaKeys],
      Touches keys m.arch = false := not_touches (by decide) hno h
  have hmatch : firstMatch partialRules m.arch = some "glm45" := by
    simp [partialMatch_eq, hquiet, touches_of_names h]
  have harch : includes m.arch "glm4_moe" = true := by simpa [Names] using h
  rw [agrees_of_match hin (ne_of_not_names (not_names_of_covers (by decide) hno)) hmatch,
    deploysWith_glm, namesEarlier_of hno, namesSeedOss, namesGlm, harch, names_append, names_append,
    seedHints]
  simp [and_assoc]

theorem agrees_kimi (hno : ¬ Names ["qwen", "mistral", "mixtral", "llama", "glm4_moe"] m.arch)
    (h : Names ["kimi_k2"] m.arch) :
    Agrees m ↔ ¬ Names earlierHints m.id ∧ Names kimiHints m.id := by
  have hquiet : ∀ keys ∈ [qwenKeys, ["qwen3_5"], ["qwen3_5_moe"], mistralKeys, llamaKeys, ["glm4_moe"]],
      Touches keys m.arch = false := not_touches (by decide) hno h
  have hmatch : firstMatch partialRules m.arch = some "kimi_k2" := by
    simp [partialMatch_eq, hquiet, touches_of_names h]
  rw [agrees_of_match hin (ne_of_not_names (not_names_of_covers (by decide) hno)) hmatch,
    deploysWith_kimi, namesEarlier_of (not_names_of_covers (by decide) hno)]

theorem agrees_seedOss (hno : ¬ Names ["qwen", "mistral", "mixtral", "llama", "glm4_moe", "kimi_k2"] m.arch)
    (h : Names ["seed_oss"] m.arch) : Agrees m ↔ ¬ Names (earlierHints ++ kimiHints) m.id := by
  have hquiet : ∀ keys ∈ [qwenKeys, ["qwen3_5"], ["qwen3_5_moe"], mistralKeys, llamaKeys, ["glm4_moe"],
      ["kimi_k2"]], Touches keys m.arch = false := not_touches (by decide) hno h
  have hmatch : firstMatch partialRules m.arch = some "seed_oss" := by
    simp [partialMatch_eq, hquiet, touches_of_names h]
  have harch : includes m.arch "seed_oss" = true := by simpa [Names] using h
  rw [agrees_of_match hin (ne_of_not_names (not_names_of_covers (by decide) hno)) hmatch,
    deploysWith_seedOss, namesEarlier_of (not_names_of_covers (by decide) hno), namesSeedOss, harch,
    names_append]
  simp

end Rows

/-! ### Architectures without a family name -/

def familyNames : List String :=
  ["qwen", "mistral", "mixtral", "llama", "glm4_moe", "kimi_k2", "seed_oss"]

section Parts

variable {m : Identity} {parser : String} (hno : ¬ Names familyNames m.arch)
include hno

theorem namesSeedOss_of : namesSeedOss m = Names seedHints m.id := by
  have harch : ¬ Names ["seed_oss"] m.arch := not_names_of_covers (by decide) hno
  have harch : includes m.arch "seed_oss" = false := by simpa [Names] using harch
  rw [namesSeedOss, harch, Bool.or_false]
  rfl

theorem namesGlm_of : namesGlm m = Names glmHints m.id := by
  have harch : ¬ Names ["glm4_moe"] m.arch := not_names_of_covers (by decide) hno
  have harch : includes m.arch "glm4_moe" = false := by simpa [Names] using harch
  rw [namesGlm, harch, Bool.or_false]
  rfl

theorem partNamesLlama : namesLlama m = includes m.id "llama" :=
  namesLlama_of (not_names_of_covers (by decide) hno)

theorem partNamesQwen : namesQwen m = includes m.id "qwen" :=
  namesQwen_of (not_names_of_covers (by decide) hno)

theorem partNamesMistral : namesMistral m = Names ["mistral", "mixtral"] m.id :=
  namesMistral_of (not_names_of_covers (by decide) hno)

theorem partNamesEarlier : namesEarlier m = Names earlierHints m.id :=
  namesEarlier_of (not_names_of_covers (by decide) hno)

theorem leadsToHermes_iff : Yields (With "hermes") paramsRules m ↔ LeadsToHermes m := by
  rw [deploysWith_hermes, LeadsToHermes, partNamesLlama hno, partNamesQwen hno, partNamesMistral hno,
    namesSeedOss_of hno, namesGlm_of hno]
  refine and_congr_right fun _ => ?_
  by_cases hqwen : includes m.id "qwen" = true
  · simp [hqwen]
  · by_cases hgranite : includes m.id "granite" = true
    · simp [hqwen, hgranite]
    · simp [hqwen, hgranite, names_append, and_assoc]

/-- The partial match of a part. -/
theorem partMatch_eq : firstMatch partialRules m.arch =
    if PartOf qwenKeys m.arch then some "hermes"
    else if PartOf ["qwen3_5"] m.arch then some "qwen3_coder"
    else if PartOf ["qwen3_5_moe"] m.arch then some "hermes"
    else if PartOf mistralKeys m.arch then some "mistral"
    else if PartOf llamaKeys m.arch then some "llama3_json"
    else if PartOf ["glm4_moe"] m.arch then some "glm45"
    else if PartOf ["kimi_k2"] m.arch then some "kimi_k2"
    else if PartOf ["seed_oss"] m.arch then some "seed_oss"
    else none := by
  have hpart : ∀ keys, Covers keys familyNames = true → Touches keys m.arch = PartOf keys m.arch :=
    fun keys hc => touches_eq_partOf hc hno
  rw [partialMatch_eq, hpart qwenKeys (by decide), hpart ["qwen3_5"] (by decide),
    hpart ["qwen3_5_moe"] (by decide), hpart mistralKeys (by decide),
    hpart llamaKeys (by decide), hpart ["glm4_moe"] (by decide),
    hpart ["kimi_k2"] (by decide), hpart ["seed_oss"] (by decide)]

/-- An architecture that the registry does not know at all. -/
theorem agrees_foreign (hin : m.arch ∉ inheritedMembers) (h : firstMatch partialRules m.arch = none) :
    Agrees m ↔ if includes m.id "qwen" then ¬ includes m.id "llama" ∧ ¬ isDenseQwen35Plus m
      else if Names ["mistral", "mixtral"] m.id then ¬ includes m.id "llama"
      else ¬ Names ["llama-4", "llama4"] m.id := by
  have hne := ne_of_not_names (not_names_of_covers (by decide) hno)
  have hrec : recommendedParser m = (familyHint m.id).map .parser := by
    rw [recommendedParser_eq, if_neg hin, if_neg hne, h, Option.none_or]
  by_cases hqwen : includes m.id "qwen" = true
  · have hhint : familyHint m.id = some "hermes" := if_pos hqwen
    rw [if_pos hqwen, agrees_iff (by rw [hrec, hhint]; rfl), leadsToHermes_iff hno, LeadsToHermes,
      if_pos hqwen]
  · rw [if_neg hqwen]
    by_cases hmistral : Names ["mistral", "mixtral"] m.id = true
    · have hhint : familyHint m.id = some "mistral" := by rw [familyHint, if_neg hqwen, if_pos hmistral]
      rw [if_pos hmistral, agrees_iff (by rw [hrec, hhint]; rfl), deploysWith_mistral, partNamesLlama hno,
        partNamesQwen hno, partNamesMistral hno, and_iff_left ⟨hqwen, hmistral⟩]
    · rw [if_neg hmistral]
      have hllama : Names ["llama", "codellama"] m.id = includes m.id "llama" := by
        rw [names_congr _ ["llama"] (by decide) (by decide)]
        exact Bool.or_false _
      by_cases hid : includes m.id "llama" = true
      · have hhint : familyHint m.id = some "llama3_json" := by
          rw [familyHint, if_neg hqwen, if_neg hmistral, hllama, if_pos hid]
        rw [agrees_iff (by rw [hrec, hhint]; rfl), deploysWith_llama, partNamesLlama hno, and_iff_left hid]
      · -- no parser is recommended
        have hhint : familyHint m.id = none := by
          rw [familyHint, if_neg hqwen, if_neg hmistral, hllama, if_neg hid]
        have hno4 : ¬ Names ["llama-4", "llama4"] m.id := by
          have hnames : ¬ Names ["llama"] m.id := by simpa [Names] using hid
          exact not_names_of_covers (by decide) hnames
        refine iff_of_true (fun entry hentry => ?_) hno4
        rw [hrec, hhint] at hentry
        cases hentry

theorem agrees_part (hin : m.arch ∉ inheritedMembers) : Agrees m ↔ PartAgreesWhen m := by
  have hmatch := partMatch_eq hno
  have hagrees : ∀ parser, firstMatch partialRules m.arch = some parser →
      (Agrees m ↔ Yields (With parser) paramsRules m) := fun _ h =>
    agrees_of_match hin (ne_of_not_names (not_names_of_covers (by decide) hno)) h
  rw [PartAgreesWhen]
  by_cases hqwen : PartOf qwenKeys m.arch = true
  · rw [if_pos hqwen] at hmatch ⊢
    rw [hagrees _ hmatch, leadsToHermes_iff hno]
  rw [if_neg hqwen] at hmatch ⊢
  by_cases hcoder : PartOf ["qwen3_5"] m.arch = true
  · rw [if_pos hcoder] at hmatch ⊢
    rw [hagrees _ hmatch, deploysWith_coder, partNamesLlama hno, partNamesQwen hno]
  rw [if_neg hcoder] at hmatch ⊢
  by_cases hmoe : PartOf ["qwen3_5_moe"] m.arch = true
  · rw [if_pos hmoe] at hmatch ⊢
    rw [hagrees _ hmatch, leadsToHermes_iff hno]
  rw [if_neg hmoe] at hmatch ⊢
  by_cases hmistral : PartOf mistralKeys m.arch = true
  · rw [if_pos hmistral] at hmatch ⊢
    rw [hagrees _ hmatch, deploysWith_mistral, partNamesLlama hno, partNamesQwen hno, partNamesMistral hno]
    simp [Names, and_assoc]
  rw [if_neg hmistral] at hmatch ⊢
  by_cases hllama : PartOf llamaKeys m.arch = true
  · rw [if_pos hllama] at hmatch ⊢
    rw [hagrees _ hmatch, deploysWith_llama, partNamesLlama hno]
  rw [if_neg hllama] at hmatch ⊢
  by_cases hglm : PartOf ["glm4_moe"] m.arch = true
  · rw [if_pos hglm] at hmatch ⊢
    rw [hagrees _ hmatch, deploysWith_glm, partNamesEarlier hno, namesSeedOss_of hno, namesGlm_of hno,
      names_append, names_append]
    simp [and_assoc]
  rw [if_neg hglm] at hmatch ⊢
  by_cases hkimi : PartOf ["kimi_k2"] m.arch = true
  · rw [if_pos hkimi] at hmatch ⊢
    rw [hagrees _ hmatch, deploysWith_kimi, partNamesEarlier hno]
  rw [if_neg hkimi] at hmatch ⊢
  by_cases hseed : PartOf ["seed_oss"] m.arch = true
  · rw [if_pos hseed] at hmatch ⊢
    rw [hagrees _ hmatch, deploysWith_seedOss, partNamesEarlier hno, namesSeedOss_of hno, names_append]
    simp [and_assoc]
  rw [if_neg hseed] at hmatch ⊢
  exact agrees_foreign hno hin hmatch

end Parts

/-! ## Agreement -/

/-- **The admitted parser is the deployed one exactly for the models that the table admits.** -/
theorem toolParserAgreement_iff (model : ModelInfo) :
    ToolParserAgreement model ↔ AgreesWhen (lowered model) := by
  rw [toolParserAgreement_iff_agrees]
  generalize lowered model = m
  have hone : ∀ name, includes m.arch name = Names [name] m.arch := by simp [Names]
  rw [AgreesWhen, hone "qwen", hone "llama", hone "glm4_moe", hone "kimi_k2"]
  by_cases hin : m.arch ∈ inheritedMembers
  · rw [if_pos hin]
    exact iff_false_intro (not_agrees hin)
  rw [if_neg hin]
  by_cases hqwen : Names ["qwen"] m.arch = true
  · rw [if_pos hqwen, agrees_qwen hin hqwen]
  rw [if_neg hqwen]
  by_cases hmistral : Names ["mistral", "mixtral"] m.arch = true
  · rw [if_pos hmistral, agrees_mistral hin hqwen hmistral]
  rw [if_neg hmistral]
  have hno := not_names_append hqwen hmistral
  by_cases hllama : Names ["llama"] m.arch = true
  · rw [if_pos hllama, agrees_llama hin hno hllama]
  rw [if_neg hllama]
  have hno := not_names_append hno hllama
  by_cases hglm : Names ["glm4_moe"] m.arch = true
  · rw [if_pos hglm, agrees_glm hin hno hglm]
  rw [if_neg hglm]
  have hno := not_names_append hno hglm
  by_cases hkimi : Names ["kimi_k2"] m.arch = true
  · rw [if_pos hkimi, agrees_kimi hin hno hkimi]
  rw [if_neg hkimi]
  have hno := not_names_append hno hkimi
  by_cases hseed : includes m.arch "seed_oss" = true
  · rw [if_pos hseed, agrees_seedOss hin hno (by rwa [← hone])]
  rw [if_neg hseed]
  exact agrees_part (not_names_append hno (by rwa [← hone])) hin

/-- A Llama 4 is admitted with the parser of Llama 3. -/
theorem llama4_disagrees : ¬ ToolParserAgreement {
    id := "meta-llama/Llama-4-Scout-17B-16E-Instruct"
    name := "Llama-4-Scout-17B-16E-Instruct"
    architecture := "llama4"
    contextWindow := 131072
    license := "llama4"
    parameterCount := some 109
    quantizations := []
    supportsToolCalling := true } := by
  intro h
  obtain ⟨parser, hentry, hparser⟩ := h (.parser "llama3_json") (by decide)
  cases hentry
  exact absurd hparser (by decide)

end Benchmarker.Deployment
