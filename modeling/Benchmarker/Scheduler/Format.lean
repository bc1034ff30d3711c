import Benchmarker.Js.Regex

/-!
# Model formats

`checkModelFormatCompatibility`: the model formats that the scheduler rejects before it deploys.
-/

namespace Benchmarker

open Js Js.Re

/-- `FormatCheckResult`. -/
inductive FormatCheck
  | compatible (warning : Option String)
  | incompatible (reason : String)
  deriving DecidableEq, Repr

/-- `\bexl3\b|\bexl2\b|-exl3|-exl2|exllama`. -/
def exlPattern : Re := alts [
  seqs [wordBoundary, lit "exl3", wordBoundary], seqs [wordBoundary, lit "exl2", wordBoundary],
  lit "-exl3", lit "-exl2", lit "exllama"]

/-- `a100|ampere|a10g|a40|v100|t4|l4`. -/
def preBlackwellPattern : Re := alts [
  lit "a100", lit "ampere", lit "a10g", lit "a40", lit "v100", lit "t4", lit "l4"]

/-- The id names bitsandbytes packaging, or four bits without a format that vLLM serves. -/
def isBnbFourBit (id : String) : Bool :=
  let isExplicitBnb :=
    includes id "bnb-4bit" || includes id "bnb4bit" || includes id "bitsandbytes"
  let hasVllmNativeQuantMarker := includes id "awq" || includes id "gptq" ||
    includes id "compressed-tensors" || includes id "marlin"
  let isBareFourBit := (includes id "4bit" || includes id "4-bit") && !hasVllmNativeQuantMarker
  isExplicitBnb || isBareFourBit

def checkModelFormatCompatibility (modelId gpuType : String) : FormatCheck :=
  let id := toLowerCase modelId
  if includes id "gguf" then
    .incompatible
      "GGUF-quantized models incompatible with vLLM. Use native FP8, NVFP8, or AWQ instead."
  else if isBnbFourBit id then
    .incompatible
      "4-bit bitsandbytes require llama.cpp. Use FP8 or AWQ quantization instead."
  else if exlPattern.test id then
    .incompatible
      "EXL2/EXL3 (ExLlamaV2) is unsupported by vLLM. Use AWQ, GPTQ, or FP8 instead."
  else if includes id "dflash" then
    .incompatible
      "DFlash format unsupported by vLLM. Use native .safetensors checkpoint instead."
  else if includes id "nvfp4" || includes id "nvfp-4" then
    if gpuType ≠ "" && preBlackwellPattern.test gpuType then
      .incompatible ("NVFP4 requires native FP4 tensor cores; " ++ gpuType ++
        " (pre-Blackwell) cannot load it. Use AWQ, GPTQ, or FP8 instead.")
    else
      .compatible (some
        "NVFP4 format has limited vLLM support and may fail to load. Proceeding with caution.")
  else .compatible none

example : checkModelFormatCompatibility "org/m-AWQ-4bit" "" = .compatible none := by
  decide +kernel

end Benchmarker
