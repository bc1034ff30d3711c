import Benchmarker.Discovery.Candidate
import Benchmarker.Discovery.Units

/-!
# Wrapped configurations

A configuration `c` and the wrapper `{...w, text_config: c}`: what the functions that read configurations give
on both.

* `wrap`, `readFields`: the wrapper, and the fields that the window and the memory are read from.
* **`wrapping_invisible`**: the window and the memory of a wrapped configuration.
* **`estimators_agree_iff`**: the configurations that all estimators of parameters see through a wrapper.
-/

namespace Benchmarker.Discovery

open Js

/-- `{...w, text_config: c}` -/
def wrap (w c : JsMap String Json) : Json := .obj (JsMap.set w "text_config" (.obj c))

/-- The fields that `extractContextWindowFromConfig` and the estimator read. -/
def readFields : List String := [
  "max_position_embeddings", "n_positions", "max_sequence_length", "sliding_window", "rope_scaling",
  "num_parameters", "hidden_size", "num_hidden_layers", "num_attention_heads", "num_key_value_heads",
  "intermediate_size", "moe_intermediate_size", "num_local_experts", "num_experts", "n_routed_experts",
  "n_shared_experts", "quantization_config"]

section Fields

variable {w c : JsMap String Json} {k : String} {a b config : Json}

theorem field_wrap (hk : k ≠ "text_config") : (wrap w c).field k = w.get k := by
  rw [wrap, Json.field, JsMap.get_set, if_neg hk.symm]

theorem field_wrap_text : (wrap w c).field "text_config" = some (.obj c) := JsMap.get_set_self

/-! ## The window -/

/-- Each number of the window is looked up at the wrapper, and then in the configuration. -/
theorem window_wrap (hc : c.get "text_config" = none) (hw : ∀ k ∈ readFields, w.get k = none) :
    extractContextWindow (wrap w c) = extractContextWindow (.obj c) := by
  have hown : ∀ k ∈ readFields, numberOf (wrap w c) k = none := by
    intro k hk
    have hne : k ≠ "text_config" := by
      rintro rfl
      exact absurd hk (by decide)
    rw [numberOf, field_wrap hne, hw k hk]
    rfl
  have htext : (Json.obj c).field "text_config" = none := hc
  have hrope : (wrap w c).field "rope_scaling" = none := by
    rw [field_wrap (by decide)]
    exact hw _ (by decide)
  unfold extractContextWindow
  simp only [nestedNumber, ropeScaling, ropeScaling.ropeOf, field_wrap_text, htext, hrope, Option.bind_some,
    Option.bind_none, Option.filter_none, Option.none_or, Option.or_none,
    hown "max_position_embeddings" (by decide), hown "n_positions" (by decide),
    hown "max_sequence_length" (by decide), hown "sliding_window" (by decide)]

/-! ## The memory -/

/-- The fields that the estimator reads of a resolved configuration, besides the quantization. -/
def dimensionFields : List String := [
  "num_parameters", "hidden_size", "num_hidden_layers", "num_attention_heads", "num_key_value_heads",
  "intermediate_size", "moe_intermediate_size", "num_local_experts", "num_experts", "n_routed_experts",
  "n_shared_experts"]

/-- The same dimensions, and the same quantization; `null` counts as none. -/
structure SameDimensions (a b : Json) : Prop where
  dimension : ∀ k ∈ dimensionFields, a.field k = b.field k
  quantization : Json.nullish (a.field "quantization_config") none = Json.nullish (b.field "quantization_config") none

theorem SameDimensions.number (h : SameDimensions a b) (hk : k ∈ dimensionFields) : numberOf a k = numberOf b k := by
  rw [numberOf, numberOf, h.dimension k hk]

theorem SameDimensions.params (h : SameDimensions a b) : estimateParams a = estimateParams b := by
  have hexperts : expertsOf a = expertsOf b := by
    rw [expertsOf, expertsOf, h.dimension "num_local_experts" (by decide), h.dimension "num_experts" (by decide),
      h.dimension "n_routed_experts" (by decide)]
  have hmoe : moeIntermediateSize a = moeIntermediateSize b := by
    rw [moeIntermediateSize, moeIntermediateSize, h.number (k := "moe_intermediate_size") (by decide),
      h.number (k := "intermediate_size") (by decide)]
  have hdims : ∀ hiddenSize numLayers, dimensionedParams a hiddenSize numLayers =
      dimensionedParams b hiddenSize numLayers := fun hiddenSize numLayers => by
    rw [dimensionedParams, dimensionedParams, hexperts, hmoe, h.number (k := "n_shared_experts") (by decide)]
  rw [estimateParams, estimateParams, h.number (k := "num_parameters") (by decide),
    h.number (k := "hidden_size") (by decide), h.number (k := "num_hidden_layers") (by decide),
    h.number (k := "num_attention_heads") (by decide), h.number (k := "intermediate_size") (by decide)]
  simp only [hdims]

/-- What is read of a quantization does not tell `null` from none. -/
theorem quantizationOf_eq : quantizationOf config =
    (Json.nullish (config.field "quantization_config") none).filter fun qc => (asRecord (some qc)).isSome := by
  rw [quantizationOf]
  rcases config.field "quantization_config" with - | (- | _) <;> rfl

theorem truthy_quantization : (config.field "quantization_config").any Json.truthy =
    (Json.nullish (config.field "quantization_config") none).any Json.truthy := by
  rcases config.field "quantization_config" with - | (- | _) <;> rfl

/-- **The estimate depends on the dimensions and the quantization only.** -/
theorem estimate_congr (h : SameDimensions (resolveEffectiveHfConfig a) (resolveEffectiveHfConfig b)) :
    estimateGpuMemory a = estimateGpuMemory b := by
  have hbytes : estimateDtypeBytes (resolveEffectiveHfConfig a) = estimateDtypeBytes (resolveEffectiveHfConfig b) := by
    rw [estimateDtypeBytes, estimateDtypeBytes, quantizationOf_eq, quantizationOf_eq, h.quantization]
  have hmemory : ∀ paramsBillions dtypeBytes, memoryBytes (resolveEffectiveHfConfig a) paramsBillions dtypeBytes =
      memoryBytes (resolveEffectiveHfConfig b) paramsBillions dtypeBytes := fun paramsBillions dtypeBytes => by
    rw [memoryBytes, memoryBytes, h.number (k := "num_hidden_layers") (by decide),
      h.number (k := "hidden_size") (by decide), h.number (k := "num_attention_heads") (by decide),
      h.number (k := "num_key_value_heads") (by decide)]
  rw [estimateGpuMemory, estimateGpuMemory, h.params, hbytes, truthy_quantization, h.quantization,
    ← truthy_quantization]
  simp only [hmemory]

theorem resolve_plain (hc : c.get "text_config" = none) : resolveEffectiveHfConfig (.obj c) = .obj c := by
  have hnone : asRecord ((Json.obj c).field "text_config") = none := by
    rw [Json.field, hc]
    rfl
  unfold resolveEffectiveHfConfig
  rw [hnone]

/-- What the merge finds at a field: that of the configuration, else that of the wrapper. -/
theorem get_merged (hkeys : c.keys.Nodup) (hk : k ≠ "text_config") :
    (JsMap.assign (JsMap.set w "text_config" (.obj c)) c).get k = (c.get k).or (w.get k) := by
  rw [JsMap.get_assign, JsMap.get_set, if_neg hk.symm,
    JsMap.get_eq_of_perm (List.reverse_perm c) ((List.reverse_perm c).map _ |>.nodup_iff.mpr hkeys)]

theorem resolve_wrap : resolveEffectiveHfConfig (wrap w c) = .obj
    (match Json.nullish ((wrap w c).field "quantization_config") (c.get "quantization_config") with
      | some value => (JsMap.assign (JsMap.set w "text_config" (.obj c)) c).set "quantization_config" value
      | none => (JsMap.assign (JsMap.set w "text_config" (.obj c)) c).delete "quantization_config") := by
  unfold resolveEffectiveHfConfig
  rw [field_wrap_text]
  rfl

/-- The fields of a resolved wrapper. -/
theorem field_resolve_wrap (hkeys : c.keys.Nodup) (hk : k ≠ "text_config") :
    (resolveEffectiveHfConfig (wrap w c)).field k =
      if k = "quantization_config" then Json.nullish (w.get k) (c.get k) else (c.get k).or (w.get k) := by
  rw [resolve_wrap, field_wrap (by decide), Json.field]
  cases hquantization : Json.nullish (w.get "quantization_config") (c.get "quantization_config") with
  | none =>
    dsimp only
    rw [JsMap.get_delete]
    by_cases hsame : k = "quantization_config"
    · rw [if_pos hsame.symm, if_pos hsame, hsame, hquantization]
    · rw [if_neg (Ne.symm hsame), if_neg hsame, get_merged hkeys hk]
  | some value =>
    dsimp only
    rw [JsMap.get_set]
    by_cases hsame : k = "quantization_config"
    · rw [if_pos hsame.symm, if_pos hsame, hsame, hquantization]
    · rw [if_neg (Ne.symm hsame), if_neg hsame, get_merged hkeys hk]

theorem dimension_field (hk : k ∈ dimensionFields) :
    k ∈ readFields ∧ k ≠ "text_config" ∧ k ≠ "quantization_config" := by
  revert k
  decide

theorem nullish_nullish {v : Option Json} : Json.nullish (Json.nullish v none) none = Json.nullish v none := by
  rcases v with - | (- | _) <;> rfl

/-- A wrapper without dimensions has those of the configuration, and its own quantization before that of the
configuration. -/
theorem sameDimensions_wrap {other : JsMap String Json} (hkeys : c.keys.Nodup)
    (hc : other.get "text_config" = none) (hw : ∀ k ∈ dimensionFields, w.get k = none)
    (hother : ∀ k ∈ dimensionFields, other.get k = c.get k)
    (hquantization : Json.nullish (other.get "quantization_config") none =
      Json.nullish (Json.nullish (w.get "quantization_config") (c.get "quantization_config")) none) :
    SameDimensions (resolveEffectiveHfConfig (wrap w c)) (resolveEffectiveHfConfig (.obj other)) := by
  rw [resolve_plain hc]
  refine ⟨fun k hk => ?_, ?_⟩
  · obtain ⟨-, htext, hne⟩ := dimension_field hk
    rw [field_resolve_wrap hkeys htext, if_neg hne, hw k hk, Option.or_none, Json.field, hother k hk]
  · rw [field_resolve_wrap hkeys (by decide), if_pos rfl, Json.field, hquantization]

end Fields

/-- **Wrapping a configuration is invisible** to the window and to the memory, and a quantization of the wrapper
counts as one of the configuration. -/
theorem wrapping_invisible (w c : JsMap String Json) (profile : VMHardwareProfile) (hkeys : c.keys.Nodup)
    (hc : c.get "text_config" = none) (hw : ∀ k ∈ readFields, w.get k = none) :
    (extractContextWindow (wrap w c) = extractContextWindow (.obj c) ∧
      estimateGpuMemory (wrap w c) = estimateGpuMemory (.obj c) ∧
      dryRunCheck (wrap w c) profile = dryRunCheck (.obj c) profile) ∧
    ∀ q, c.get "quantization_config" = none →
      estimateGpuMemory (wrap (JsMap.set w "quantization_config" q) c) =
        estimateGpuMemory (.obj (JsMap.set c "quantization_config" q)) := by
  have hdims : ∀ k ∈ dimensionFields, w.get k = none := fun k hk => hw k (dimension_field hk).1
  have hmemory : estimateGpuMemory (wrap w c) = estimateGpuMemory (.obj c) := by
    refine estimate_congr (sameDimensions_wrap hkeys hc hdims (fun _ _ => rfl) ?_)
    rw [hw "quantization_config" (by decide)]
    rfl
  refine ⟨⟨window_wrap hc hw, hmemory, ?_⟩, fun q hq => ?_⟩
  · rw [dryRunCheck, dryRunCheck, hmemory]
  · refine estimate_congr (sameDimensions_wrap hkeys ?_ (fun k hk => ?_) (fun k hk => ?_) ?_)
    · rw [JsMap.get_set, if_neg (by decide), hc]
    · rw [JsMap.get_set, if_neg (dimension_field hk).2.2.symm, hdims k hk]
    · rw [JsMap.get_set, if_neg (dimension_field hk).2.2.symm]
    · rw [JsMap.get_set_self, JsMap.get_set_self, hq]
      exact nullish_nullish.symm

/-- A wrapped text model of 24 layers. -/
theorem wrapped_text_model :
    let c : JsMap String Json := [("hidden_size", .num 2048 "2048"), ("num_hidden_layers", .num 24 "24"),
      ("num_attention_heads", .num 16 "16"), ("max_position_embeddings", .num 32768 "32768")]
    estimateGpuMemory (wrap [("model_type", .str "mistral3")] c) = estimateGpuMemory (.obj c) := by
  intro c
  exact (wrapping_invisible [("model_type", .str "mistral3")] c {} (by decide) (by decide)
    (by decide)).1.2.1

/-! ## Estimators of parameters -/

/-- The size marker of a model id: where `estimateParameterCountFromHfConfig` looks last. -/
def idParameterCount (modelId : String) : Option ℚ :=
  (Re.capture .eps decimalRe (.seqs [.oneOf ['b', 'B'], .alt .wordBoundary (.oneOf ['-', '_'])]) modelId).map
    fun digits => decimalValue digits.toList * 10 ^ 9

/-- A count is in billions when it is small. -/
def explicitCount (np : ℚ) : ℚ := if 10 ^ 9 ≤ np then np else np * 10 ^ 9

/-- Each of the three estimators gives the same on the wrapped configuration. -/
structure SeeThrough (modelId : String) (c : JsMap String Json) : Prop where
  hfConfig : estimateParameterCountFromHfConfig modelId (wrap [] c) = estimateParameterCountFromHfConfig modelId (.obj c)
  billions : estimateParamsBillionsFromConfig (wrap [] c) = estimateParamsBillionsFromConfig (.obj c)
  discovery : estimateParameterCountFromConfig (wrap [] c) = estimateParameterCountFromConfig (.obj c)

/-- The configuration does not tell both dimensions, and a count that it tells is that of the id. -/
def CountedById (modelId : String) (c : JsMap String Json) : Prop :=
  (numberOf (.obj c) "hidden_size" = none ∨ numberOf (.obj c) "num_hidden_layers" = none) ∧
    ∀ np ∈ numberOf (.obj c) "num_parameters", idParameterCount modelId = some (explicitCount np)

section Estimators

variable {modelId : String} {c : JsMap String Json} {config : Json} {k : String}

theorem number_wrap_nil (hk : k ≠ "text_config") : numberOf (wrap [] c) k = none := by
  rw [numberOf, field_wrap hk]
  rfl

theorem hfConfig_wrap : estimateParameterCountFromHfConfig modelId (wrap [] c) = idParameterCount modelId := by
  rw [estimateParameterCountFromHfConfig, number_wrap_nil (by decide), number_wrap_nil (by decide)]
  rfl

theorem billions_wrap : estimateParamsBillionsFromConfig (wrap [] c) = none := by
  rw [estimateParamsBillionsFromConfig, number_wrap_nil (by decide)]

theorem billions_eq_none : estimateParamsBillionsFromConfig config = none ↔
    numberOf config "hidden_size" = none ∨ numberOf config "num_hidden_layers" = none := by
  unfold estimateParamsBillionsFromConfig
  cases numberOf config "hidden_size" <;> cases numberOf config "num_hidden_layers" <;> simp

/-- Without both dimensions the count is the one that is told, or else that of the id. -/
theorem hfConfig_of_undimensioned
    (h : numberOf config "hidden_size" = none ∨ numberOf config "num_hidden_layers" = none) :
    estimateParameterCountFromHfConfig modelId config =
      ((numberOf config "num_parameters").map explicitCount).or (idParameterCount modelId) := by
  unfold estimateParameterCountFromHfConfig
  cases numberOf config "num_parameters" with
  | some np => rfl
  | none =>
    rcases h with h | h
    · rw [h]
      rfl
    · rw [h]
      cases numberOf config "hidden_size" <;> rfl

/-- The estimator of the discovery reads the `text_config` alone. -/
theorem discovery_wrap (hc : c.get "text_config" = none) :
    estimateParameterCountFromConfig (wrap [] c) = estimateParameterCountFromConfig (.obj c) := by
  have htext : Json.nullish ((wrap [] c).field "text_config") none = some (.obj c) := by
    rw [field_wrap_text]
    rfl
  have hplain : Json.nullish ((Json.obj c).field "text_config") none = none := by
    rw [Json.field, hc]
    rfl
  rw [estimateParameterCountFromConfig, estimateParameterCountFromConfig, htext, hplain]
  rfl

end Estimators

/-- **The configurations that the estimators see through a wrapper.** Two of the three do not look at the
`text_config`: what the configuration tells must not count, or be what the id tells. -/
theorem estimators_agree_iff (modelId : String) (c : JsMap String Json) (hc : c.get "text_config" = none) :
    SeeThrough modelId c ↔ CountedById modelId c := by
  have hiff : SeeThrough modelId c ↔
      idParameterCount modelId = estimateParameterCountFromHfConfig modelId (.obj c) ∧
        estimateParamsBillionsFromConfig (.obj c) = none := by
    constructor
    · rintro ⟨hfConfig, billions, -⟩
      rw [hfConfig_wrap] at hfConfig
      rw [billions_wrap] at billions
      exact ⟨hfConfig, billions.symm⟩
    · rintro ⟨hfConfig, billions⟩
      exact ⟨hfConfig_wrap.trans hfConfig, billions_wrap.trans billions.symm, discovery_wrap hc⟩
  rw [hiff, billions_eq_none, CountedById, and_comm]
  refine and_congr_right fun h => ?_
  rw [hfConfig_of_undimensioned h]
  cases numberOf (.obj c) "num_parameters" with
  | none => simp
  | some np => simp

/-- A wrapped configuration without dimensions. -/
theorem undimensioned_agrees : SeeThrough "org/model-7b" [("model_type", .str "llama")] :=
  (estimators_agree_iff _ _ rfl).mpr ⟨.inl rfl, nofun⟩

/-- A wrapped configuration with dimensions has no count, where the plain one has. -/
theorem dimensions_hidden : ¬ ∀ (modelId : String) (c : JsMap String Json), c.get "text_config" = none →
    SeeThrough modelId c := by
  intro h
  have hbillions := (h "org/model" [("hidden_size", .num 4096 "4096"), ("num_hidden_layers", .num 32 "32")] rfl).billions
  rw [billions_wrap] at hbillions
  cases hbillions

end Benchmarker.Discovery
