import Mathlib.Algebra.Order.Floor.Ring
import Mathlib.Data.Rat.Floor
import Benchmarker.Js.Json
import Benchmarker.Js.Regex
import Benchmarker.Scheduler.Data

/-!
# The hardware estimator

`HardwareEstimator`: the memory that a model of a given `config.json` takes, and whether it fits a profile.
Numbers are not rounded but where the source rounds them; a dimension that is neither a number nor absent
counts as absent.

* `resolveEffectiveHfConfig`, `estimateParams`, `estimateDtypeBytes`, `estimateGpuMemory`, `dryRunCheck`.
* `totalBytes`, **`fits_iff`**: a model fits when its bytes, rounded to hundredths of a GB, are in the budget.
-/

namespace Benchmarker.Discovery

open Js

/-! ## Reading a configuration -/

/-- `config[k]` where it is a number. -/
def numberOf (config : Json) (k : String) : Option ℚ := (config.field k).bind Json.asNum

/-- The fields of an object; those of an array have indices for names. -/
def asRecord : Option Json → Option (JsMap String Json)
  | some (.obj fields) => some fields
  | some (.arr _) => some []
  | _ => none

/-- `v || w` -/
def orElse (v w : Option Json) : Option Json := if v.any Json.truthy then v else w

def resolveEffectiveHfConfig (config : Json) : Json :=
  match config, asRecord (config.field "text_config") with
  | .obj fields, some tc =>
    let merged := JsMap.assign fields tc
    let quantization := Json.nullish (config.field "quantization_config") (JsMap.get tc "quantization_config")
    .obj (match quantization with
      | some value => merged.set "quantization_config" value
      | none => merged.delete "quantization_config")
  | config, _ => config

/-! ## Estimates -/

inductive Confidence
  | high | medium | low
  deriving DecidableEq, Repr

structure EstimationResult where
  paramsBillions : ℚ
  weightsGb : ℚ
  kvCacheGb : ℚ
  activationGb : ℚ
  totalGb : ℚ
  confidence : Confidence
  deriving DecidableEq

/-- The experts of a configuration, whichever name it has for them. -/
def expertsOf (config : Json) : Option ℚ :=
  (orElse (orElse (config.field "num_local_experts") (config.field "num_experts"))
    (config.field "n_routed_experts")).bind Json.asNum

def positive (n : Option ℚ) : Option ℚ := n.filter fun n => 0 < n

/-- `moe_intermediate_size`, or an eighth of the dense one. -/
def moeIntermediateSize (config : Json) : Option ℚ :=
  (positive (numberOf config "moe_intermediate_size")).or
    ((positive (numberOf config "intermediate_size")).map (· * (1 / 8)))

/-- The billions of a configuration that tells its dimensions. -/
def dimensionedParams (config : Json) (hiddenSize numLayers : ℚ) : ℚ :=
  let dense := hiddenSize ^ 2 * 12 * numLayers / 10 ^ 9
  match (expertsOf config).filter fun n => 1 < n with
  | none => dense
  | some numExperts =>
    match moeIntermediateSize config with
    | some width =>
      4 * hiddenSize ^ 2 * numLayers / 10 ^ 9 +
        3 * hiddenSize * width * (numExperts + (numberOf config "n_shared_experts").getD 0) * numLayers / 10 ^ 9
    | none => dense * max 1 (numExperts * (9 / 10))

def estimateParams (config : Json) : ℚ × Confidence :=
  match positive (numberOf config "num_parameters") with
  | some explicitParams =>
    (if explicitParams > 10 ^ 9 then explicitParams / 10 ^ 9 else explicitParams, .high)
  | none =>
    match positive (numberOf config "hidden_size"), positive (numberOf config "num_hidden_layers"),
      positive (numberOf config "num_attention_heads") with
    | some hiddenSize, some numLayers, some _ =>
      (dimensionedParams config hiddenSize numLayers,
        if (positive (numberOf config "intermediate_size")).isSome then .high else .medium)
    | _, _, _ => (0, .low)

/-- `Object.values(v)` -/
def valuesOf : Json → List Json
  | .obj fields => fields.map Prod.snd
  | .arr elems => elems
  | _ => []

/-- The bit widths of the groups of `config_groups`. -/
def groupBits (configGroups : Json) : List ℚ :=
  (valuesOf configGroups).filterMap fun group => ((group.field "weights").bind fun w => numberOf w "num_bits")

/-- The bytes that a quantization method tells, by its name in lower case. -/
def methodBytes (method : String) : ℚ :=
  if includes method "q4" || includes method "int4" || includes method "4bit" || method = "4" then 1 / 2
  else if includes method "q8" || includes method "int8" || includes method "8bit" || method = "8" then 1
  else if includes method "fp8" then 1
  else 2

/-- The quantization of a configuration, an object or an array. -/
def quantizationOf (config : Json) : Option Json :=
  (config.field "quantization_config").filter fun qc => (asRecord (some qc)).isSome

/-- `none` is the `TypeError` of a method that has no text. -/
def estimateDtypeBytes (config : Json) : Option ℚ :=
  match quantizationOf config with
  | none => some 2
  | some qc =>
    match numberOf qc "bits" with
    | some bits => some (bits / 8)
    | none =>
      match ((qc.field "config_groups").map groupBits).getD [] with
      | bits :: rest => some (rest.foldl min bits / 8)
      | [] => (Json.toText ((Json.nullish (qc.field "quant_method") none).getD (.str ""))).map fun method =>
        methodBytes (toLowerCase method)

/-- `Math.round(n * 100) / 100` -/
def round2 (n : ℚ) : ℚ := (⌊n * 100 + 1 / 2⌋ : ℤ) / 100

structure Memory where
  weights : ℚ
  kvCache : ℚ
  activation : ℚ

/-- The bytes of the weights, of the cache of 8192 positions, and of the activations of 4096. -/
def memoryBytes (config : Json) (paramsBillions dtypeBytes : ℚ) : Memory :=
  let numLayers := (numberOf config "num_hidden_layers").getD 0
  let hiddenSize := (numberOf config "hidden_size").getD 0
  let numAttentionHeads := ((numberOf config "num_attention_heads").filter (· ≠ 0)).getD 1
  let numKvHeads := (numberOf config "num_key_value_heads").getD numAttentionHeads
  let sized := 0 < numLayers ∧ 0 < hiddenSize
  { weights := paramsBillions * 10 ^ 9 * dtypeBytes
    kvCache := if sized then 2 * numLayers * numKvHeads * (hiddenSize / numAttentionHeads) * 8192 * dtypeBytes else 0
    activation := if sized then 2 * 4096 * hiddenSize * dtypeBytes * numLayers else 0 }

def noEstimate : EstimationResult := ⟨0, 0, 0, 0, 0, .low⟩

def estimateGpuMemory (rawConfig : Json) : EstimationResult :=
  let config := resolveEffectiveHfConfig rawConfig
  let params := estimateParams config
  match estimateDtypeBytes config with
  | none => noEstimate
  | some dtypeBytes =>
    let memory := memoryBytes config params.1 dtypeBytes
    let weightsGb := memory.weights / 1024 ^ 3
    let kvCacheGb := memory.kvCache / 1024 ^ 3
    let activationGb := memory.activation / 1024 ^ 3
    { paramsBillions := round2 params.1
      weightsGb := round2 weightsGb
      kvCacheGb := round2 kvCacheGb
      activationGb := round2 activationGb
      totalGb := round2 (weightsGb + kvCacheGb + activationGb)
      confidence :=
        if (config.field "quantization_config").any Json.truthy && dtypeBytes = 2 && params.2 = .high then .medium
        else params.2 }

/-! ## Fitting a profile -/

def gpuVramGb : JsMap String ℚ :=
  [("nvidia-l4", 24), ("nvidia-a100-80gb", 80), ("nvidia-a100-sxm4-80gb", 80), ("nvidia-a100-40gb", 40),
    ("nvidia-t4", 16), ("nvidia-v100", 32)]

/-- The members that every JavaScript object inherits. -/
def objectMembers : List String :=
  ["constructor", "__defineGetter__", "__defineSetter__", "hasOwnProperty", "__lookupGetter__", "__lookupSetter__",
    "isPrototypeOf", "propertyIsEnumerable", "toString", "valueOf", "__proto__", "toLocaleString"]

/-- `GPU_VRAM_GB[gpuType] ?? 24`; `none` is an inherited member, which is no number. -/
def vramPerGpu (gpuType : String) : Option ℚ :=
  match gpuVramGb.get gpuType with
  | some gb => some gb
  | none => if gpuType ∈ objectMembers then none else some 24

/-- The usable memory of a profile in GB; `none` is `NaN`. -/
def availableGb (profile : VMHardwareProfile) : Option ℚ :=
  (vramPerGpu profile.gpuType).map fun gb => gb * profile.gpuCount * (95 / 100)

structure DryRunResult where
  fits : Bool
  estimatedGb : ℚ
  availableGb : Option ℚ
  deriving DecidableEq

def dryRunCheck (config : Json) (profile : VMHardwareProfile) : DryRunResult :=
  let estimation := estimateGpuMemory config
  { fits := (availableGb profile).any (estimation.totalGb ≤ ·)
    estimatedGb := estimation.totalGb
    availableGb := availableGb profile }

section Fits

variable {config : Json} {profile : VMHardwareProfile}

/-- The bytes that the exact estimate adds up. -/
def totalBytes (config : Json) : ℚ :=
  let resolved := resolveEffectiveHfConfig config
  match estimateDtypeBytes resolved with
  | none => 0
  | some dtypeBytes =>
    let memory := memoryBytes resolved (estimateParams resolved).1 dtypeBytes
    memory.weights + memory.kvCache + memory.activation

theorem totalGb_eq (config : Json) : (estimateGpuMemory config).totalGb = round2 (totalBytes config / 1024 ^ 3) := by
  cases hbytes : estimateDtypeBytes (resolveEffectiveHfConfig config) with
  | none =>
    have hzero : round2 (0 / 1024 ^ 3) = 0 := by
      rw [round2, zero_div, zero_mul, zero_add, show ⌊(1 / 2 : ℚ)⌋ = 0 by norm_num, Int.cast_zero, zero_div]
    simp only [estimateGpuMemory, totalBytes, hbytes, noEstimate, hzero]
  | some dtypeBytes => simp only [estimateGpuMemory, totalBytes, hbytes, add_div]

/-- **When a model fits.** -/
theorem fits_iff : (dryRunCheck config profile).fits = true ↔
    ∃ budget ∈ availableGb profile, round2 (totalBytes config / 1024 ^ 3) ≤ budget := by
  rw [dryRunCheck, Option.any_eq_true]
  simp only [totalGb_eq, decide_eq_true_eq, Option.mem_def]

end Fits

end Benchmarker.Discovery
