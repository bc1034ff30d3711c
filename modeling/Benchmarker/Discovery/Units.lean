import Benchmarker.Discovery.Estimator
import Benchmarker.Js.Decimal

/-!
# Units of parameter counts

The counts that are read off a model card and off a configuration, raw or in billions.

* `normalizeParameterCount`, `estimateParameterCountFromHfConfig`, `HFCardParser.extractParameterCount`.
* **`units_agree_iff`**: where the readings of `num_parameters` agree, and where billions become raw counts.
-/

namespace Benchmarker.Discovery

open Js Re

/-! ## Raw counts -/

def normalizeParameterCount : Option ℚ → Option ℚ
  | none => none
  | some raw => some (if 0 < raw ∧ raw < 1000 then raw * 10 ^ 9 else raw)

def estimateParameterCountFromHfConfig (modelId : String) (config : Json) : Option ℚ :=
  match numberOf config "num_parameters" with
  | some np => some (if 10 ^ 9 ≤ np then np else np * 10 ^ 9)
  | none =>
    match numberOf config "hidden_size", numberOf config "num_hidden_layers" with
    | some h, some l =>
      let v := (numberOf config "vocab_size").getD 0
      let i := (numberOf config "intermediate_size").getD (h * 4)
      some (v * h + l * (4 * h * h + 3 * h * i))
    | _, _ =>
      -- `$` after the unit is a word boundary
      (capture eps decimalRe (seqs [oneOf ['b', 'B'], alt wordBoundary (oneOf ['-', '_'])]) modelId).map
        fun digits => decimalValue digits.toList * 10 ^ 9

/-! ## Billions -/

/-- The count of a tag `params:12.5` or `12.5b`. -/
def tagCount (tag : String) : Option ℚ :=
  let cs := tag.toList
  if (cs.take 7).map Char.toLower = "params:".toList ∧ isDecimal (cs.drop 7) then some (decimalValue (cs.drop 7))
  else if cs.getLast?.any (· ∈ ['b', 'B']) ∧ isDecimal cs.dropLast then some (decimalValue cs.dropLast)
  else none

/-- `\d+\.?\d*` -/
def readmeNumber : Re := seqs [plus digit, opt (chr fun c => c = '.'), star digit]

/-- The count of `12.5 B parameters` in a text. -/
def readmeCount (readme : String) : Option ℚ :=
  let tail := seqs [star space, lit "parameters"]
  match capture eps readmeNumber (seqs [star space, alt (char 'b') (char 'm'), tail]) readme,
    capture (seqs [readmeNumber, star space]) (alt (char 'b') (char 'm')) tail readme with
  | some number, some unit =>
    some (if toLowerCase unit = "b" then decimalValue number.toList else decimalValue number.toList / 1000)
  | _, _ => none

/-- `(\d+(\.\d+)?)[bB]` -/
def sizeIn (text : String) : Option ℚ :=
  (capture eps decimalRe (oneOf ['b', 'B']) text).map fun digits => decimalValue digits.toList

/-- The strings of a list of tags. -/
def stringTags (metadata : Json) : List String :=
  match metadata.field "tags" with
  | some (.arr tags) => tags.filterMap Json.asStr
  | _ => []

/-- The experts of a configuration where each name counts only as a number. -/
def numExpertsOf (config : Json) : ℚ :=
  let expertsAt := fun k => (numberOf config k).getD 0
  if expertsAt "num_experts" ≠ 0 then expertsAt "num_experts"
  else if expertsAt "num_local_experts" ≠ 0 then expertsAt "num_local_experts"
  else expertsAt "n_routed_experts"

def estimateParamsBillionsFromConfig (config : Json) : Option ℚ :=
  match numberOf config "hidden_size", numberOf config "num_hidden_layers" with
  | some h, some l =>
    let v := (numberOf config "vocab_size").getD 0
    let denseIntermediate := (numberOf config "intermediate_size").getD (h * 4)
    let ffnPerLayer :=
      if 0 < numExpertsOf config then
        let expertWidth := (numberOf config "moe_intermediate_size").getD denseIntermediate
        let sharedExperts := (numberOf config "n_shared_experts").getD 0
        numExpertsOf config * 3 * h * expertWidth +
          if 0 < sharedExperts then sharedExperts * 3 * h * expertWidth else 0
      else 3 * h * denseIntermediate
    some ((v * h + l * (4 * h * h + ffnPerLayer)) / 10 ^ 9)
  | _, _ => none

/-- The count that the tags or the text of a card state. -/
def statedCount (readme : String) (metadata : Option Json) : Option ℚ :=
  (((metadata.map stringTags).getD []).findSome? tagCount).or (readmeCount readme)

def HFCardParser.extractParameterCount (configJson : Option Json) (readme : String) (metadata : Option Json) :
    Option ℚ :=
  (statedCount readme metadata).or <|
    match configJson.bind fun config => numberOf config "num_parameters" with
    | some np => some (if 10 ^ 9 < np then np / 10 ^ 9 else np)
    | none => (configJson.bind estimateParamsBillionsFromConfig).or <|
      (((metadata.bind fun m => m.field "id").bind Json.asStr).bind sizeIn).or (sizeIn readme)

/-! ## Agreement -/

/-- The raw count of a configuration is the billions of the card and those of the estimator. -/
def CountsAgree (modelId : String) (config : Json) (readme : String) (metadata : Option Json) : Prop :=
  ∃ billions, HFCardParser.extractParameterCount (some config) readme metadata = some billions ∧
    estimateParameterCountFromHfConfig modelId config = some (10 ^ 9 * billions) ∧
    (estimateParams config).1 = billions

section Agreement

variable {modelId readme : String} {config : Json} {metadata : Option Json} {x b : ℚ}

theorem estimateParams_explicit (hx : numberOf config "num_parameters" = some x) (hpos : 0 < x) :
    (estimateParams config).1 = if 10 ^ 9 < x then x / 10 ^ 9 else x := by
  have hpositive : positive (some x) = some x := by rw [positive, Option.filter_some, if_pos (decide_eq_true hpos)]
  rw [estimateParams, hx, hpositive]

theorem extract_explicit (hx : numberOf config "num_parameters" = some x)
    (hstated : statedCount readme metadata = none) :
    HFCardParser.extractParameterCount (some config) readme metadata =
      some (if 10 ^ 9 < x then x / 10 ^ 9 else x) := by
  rw [HFCardParser.extractParameterCount, hstated, Option.none_or, Option.bind_some, hx]

theorem raw_explicit (hx : numberOf config "num_parameters" = some x) :
    estimateParameterCountFromHfConfig modelId config = some (if 10 ^ 9 ≤ x then x else x * 10 ^ 9) := by
  rw [estimateParameterCountFromHfConfig, hx]

/-- **The three readings of a count differ at a billion only**, where one takes it for a raw count and the
other two for billions. -/
theorem countsAgree_iff (hx : numberOf config "num_parameters" = some x) (hpos : 0 < x)
    (hstated : statedCount readme metadata = none) :
    CountsAgree modelId config readme metadata ↔ x ≠ 10 ^ 9 := by
  rw [CountsAgree, extract_explicit hx hstated, raw_explicit hx, estimateParams_explicit hx hpos]
  constructor
  · rintro ⟨billions, hbillions, hraw, -⟩ rfl
    rw [if_neg (lt_irrefl _)] at hbillions
    rw [if_pos le_rfl, ← Option.some.inj hbillions] at hraw
    exact absurd (Option.some.inj hraw) (by norm_num)
  · intro hne
    refine ⟨_, rfl, congrArg some ?_, rfl⟩
    rcases lt_or_gt_of_ne hne with hlt | hgt
    · rw [if_neg (not_le.mpr hlt), if_neg (not_lt.mpr hlt.le), mul_comm]
    · rw [if_pos hgt.le, if_pos hgt, mul_div_cancel₀ _ (by norm_num)]

/-- Billions become a raw count below a thousand. -/
theorem normalize_iff (hb : 0 < b) : normalizeParameterCount (some b) = some (b * 10 ^ 9) ↔ b < 1000 := by
  rw [normalizeParameterCount, Option.some.injEq]
  by_cases h : b < 1000
  · rw [if_pos ⟨hb, h⟩]
    exact iff_of_true rfl h
  · rw [if_neg fun hand => h hand.2]
    refine iff_of_false (fun heq => ?_) h
    have hlt : b * 1 < b * 10 ^ 9 := mul_lt_mul_of_pos_left (by norm_num) hb
    rw [mul_one, ← heq] at hlt
    exact lt_irrefl _ hlt

end Agreement

/-- **Where the units of parameter counts agree.** -/
theorem units_agree_iff (modelId readme : String) (config : Json) (metadata : Option Json) (x b : ℚ)
    (hx : numberOf config "num_parameters" = some x) (hpos : 0 < x)
    (hstated : statedCount readme metadata = none) (hb : 0 < b) :
    CountsAgree modelId config readme metadata ∧ normalizeParameterCount (some b) = some (b * 10 ^ 9) ↔
      x ≠ 10 ^ 9 ∧ b < 1000 :=
  and_congr (countsAgree_iff hx hpos hstated) (normalize_iff hb)

/-- The configuration that tells a count only. -/
def countOf (x : ℚ) (text : String) : Json := .obj [("num_parameters", .num x text)]

/-- Seven billion parameters. -/
theorem units_agree_seven :
    CountsAgree "org/model" (countOf 7000000000 "7000000000") "" none ∧
      normalizeParameterCount (some 7) = some (7 * 10 ^ 9) :=
  (units_agree_iff "org/model" "" (countOf 7000000000 "7000000000") none 7000000000 7 rfl (by norm_num) (by decide)
    (by norm_num)).mpr ⟨by norm_num, by norm_num⟩

/-- A count of exactly a billion is read as a billion billions, and a thousand billions stay a thousand. -/
theorem units_disagree :
    (¬ ∀ (modelId readme : String) (config : Json) (metadata : Option Json) (x : ℚ),
      numberOf config "num_parameters" = some x → 0 < x → statedCount readme metadata = none →
        CountsAgree modelId config readme metadata) ∧
    ¬ ∀ b : ℚ, 0 < b → normalizeParameterCount (some b) = some (b * 10 ^ 9) := by
  constructor
  · intro h
    obtain ⟨billions, hcard, hraw, -⟩ :=
      h "org/model" "" (countOf 1000000000 "1000000000") none 1000000000 rfl (by norm_num) (by decide)
    rw [extract_explicit rfl (by decide)] at hcard
    rw [raw_explicit rfl, ← Option.some.inj hcard] at hraw
    norm_num at hraw
  · intro h
    have hnormalized := h 1000 (by norm_num)
    rw [normalizeParameterCount] at hnormalized
    norm_num at hnormalized

end Benchmarker.Discovery
