import Benchmarker.Discovery.Family
import Benchmarker.Order.Groups
import Benchmarker.Order.Recency
import Benchmarker.Scheduler.Data

/-!
# Superseded models

`markSupersededByFamily`: the models of a family that a newer one supersedes. `dateParse` is `Date.parse`, in
milliseconds; `none` is `NaN`.

* `ScoredModel`, `deriveModelGeneration`, `supersedes`, `markSupersededByFamily`: the source.
* **`keeps_families_iff`**: when every family keeps a model that fits.
-/

namespace Benchmarker.Discovery

open Js Groups Recency

structure ScoredModel extends ModelInfo where
  trendingScore : ℚ
  hardwareFit : Bool
  totalScore : ℚ
  createdAt : Option String
  family : String
  superseded : Bool
  baselineWarnings : Option (List String) := none
  securityDomain : Bool := false
  deriving DecidableEq

/-! ## Generations -/

/-- `[a-z]+?[-_]?v?` -/
def seriesRe : Re :=
  let letter : Re := .chr fun c => 'a' ≤ c && c ≤ 'z'
  .seqs [letter, .lazyStar letter, .opt (.oneOf ['-', '_']), .opt (.chr fun c => c = 'v')]

/-- The digits of the first match of `/^[a-z]+?[-_]?v?(\d+(?:\.\d+)?)/`, and what follows it. -/
def seriesNumber (name : List Char) : Option (List Char × List Char) :=
  (seriesRe.ends ⟨none, name⟩).findSome? fun start =>
    (decimalRe.ends start).head?.map fun stop =>
      (start.rest.take (start.rest.length - stop.rest.length), stop.rest)

/-- `⊤` is `Infinity`. -/
def deriveModelGeneration (modelId : String) : Option (WithTop ℚ) :=
  match seriesNumber (lowerChars (splitModelId modelId.toList).2) with
  | none => none
  | some (digits, after) =>
    if after.head?.any (· ∈ ['x', 'b']) then none else some (roundDouble (decimalValue digits))

/-! ## Supersession -/

def supersedeMinAgeGapMs : ℤ := 30 * 24 * 60 * 60 * 1000

section Source

variable (dateParse : String → Option ℤ)

/-- The date of a model; the empty text counts as absent. -/
def createdMs (model : ScoredModel) : Option ℤ := (model.createdAt.filter (· ≠ "")).bind dateParse

/-- The other model is a newer one that fits. A copy of the model itself is not newer, so that equality
stands for identity. -/
def supersedes (model other : ScoredModel) : Bool :=
  if other = model || !other.hardwareFit then false
  else match deriveModelGeneration model.id, deriveModelGeneration other.id with
    | some modelGen, some otherGen => modelGen < otherGen
    | _, _ =>
      match createdMs dateParse model, createdMs dateParse other with
      | some modelMs, some otherMs => supersedeMinAgeGapMs ≤ otherMs - modelMs
      | _, _ => false

/-- The model as the loop over its group leaves it. -/
def marked (scored : List ScoredModel) (model : ScoredModel) : ScoredModel :=
  let group := ((groupBy ScoredModel.family scored).get model.family).getD []
  if 2 ≤ group.length ∧ group.any (supersedes dateParse model) then { model with superseded := true } else model

def markSupersededByFamily (scored : List ScoredModel) : List ScoredModel := scored.map (marked dateParse scored)

end Source

example : deriveModelGeneration "Qwen/Qwen2.5-Coder-32B" = some ((5 / 2 : ℚ) : WithTop ℚ) := by decide +kernel

/-! ## Families that keep a model -/

/-- The models of a family that fit. -/
def fitting (family : String) (scored : List ScoredModel) : List ScoredModel :=
  scored.filter fun model => model.family = family ∧ model.hardwareFit

/-- Every family with a model that fits has one that is not superseded. -/
def KeepsFamilies (scored : List ScoredModel) : Prop :=
  ∀ family, fitting family scored ≠ [] → ∃ model ∈ fitting family scored, model.superseded = false

section Marks

variable {dateParse : String → Option ℤ} {scored : List ScoredModel} {model other : ScoredModel} {family : String}

/-- The generation of a model. -/
def generation (model : ScoredModel) : Option (WithTop ℚ) := deriveModelGeneration model.id

/-- The other model is newer, by its generation or by its date. -/
abbrev NewerModel (dateParse : String → Option ℤ) (model other : ScoredModel) : Prop :=
  Newer generation (createdMs dateParse) supersedeMinAgeGapMs model other

theorem gap_pos : 0 < supersedeMinAgeGapMs := by decide

theorem not_newerModel_self : ¬NewerModel dateParse model model := not_newer_self gap_pos

theorem later_iff : (match createdMs dateParse model, createdMs dateParse other with
      | some modelMs, some otherMs => decide (supersedeMinAgeGapMs ≤ otherMs - modelMs)
      | _, _ => false) = true ↔ Later (createdMs dateParse) supersedeMinAgeGapMs model other := by
  rw [Later]
  cases createdMs dateParse model <;> cases createdMs dateParse other <;> simp

/-- **Supersession is being newer and fitting.** -/
theorem supersedes_iff : supersedes dateParse model other = true ↔
    other.hardwareFit = true ∧ NewerModel dateParse model other := by
  unfold supersedes
  by_cases hsame : other = model
  · subst hsame
    refine iff_of_false (by simp) ?_
    rintro ⟨-, hnewer⟩
    exact not_newerModel_self hnewer
  · cases hfit : other.hardwareFit with
    | false => simp
    | true =>
      simp only [hsame, decide_false, Bool.not_true, Bool.or_false, Bool.false_eq_true, if_false, true_and]
      cases hgen : deriveModelGeneration model.id with
      | none =>
        have hunknown : generation model = none := hgen
        rw [NewerModel, newer_of_unknown (.inl hunknown)]
        exact later_iff
      | some modelGen =>
        cases hgen' : deriveModelGeneration other.id with
        | none =>
          have hunknown : generation other = none := hgen'
          rw [NewerModel, newer_of_unknown (.inr hunknown)]
          exact later_iff
        | some otherGen =>
          have hknown : generation model = some modelGen := hgen
          have hknown' : generation other = some otherGen := hgen'
          rw [NewerModel, newer_of_generations hknown hknown']
          exact decide_eq_true_iff

/-- The group of a model is its family. -/
theorem group_eq (hmodel : model ∈ scored) : ((groupBy ScoredModel.family scored).get model.family).getD [] =
    scored.filter fun other => other.family = model.family := by
  have hne : withKey ScoredModel.family model.family scored ≠ [] :=
    List.ne_nil_of_mem (mem_withKey.mpr ⟨hmodel, rfl⟩)
  rw [get_groupBy, if_neg hne]
  rfl

/-- A model with a newer sibling is in a group of two. -/
theorem two_le_of_supersedes {group : List ScoredModel} (hmodel : model ∈ group) (hother : other ∈ group)
    (h : supersedes dateParse model other = true) : 2 ≤ group.length := by
  by_contra hlt
  obtain ⟨only, rfl⟩ : ∃ only, group = [only] :=
    List.length_eq_one_iff.mp (by have hpos := List.length_pos_of_mem hmodel; omega)
  rw [List.mem_singleton.mp hmodel, List.mem_singleton.mp hother] at h
  exact not_newerModel_self (supersedes_iff.mp h).2

/-- **A model is marked when a fitting one of its family is newer.** -/
theorem marked_eq (hmodel : model ∈ scored) (hfresh : model.superseded = false) :
    (marked dateParse scored model).superseded = false ↔
      ∀ other ∈ fitting model.family scored, ¬NewerModel dateParse model other := by
  have hiff : (2 ≤ (scored.filter fun other => other.family = model.family).length ∧
      (scored.filter fun other => other.family = model.family).any (supersedes dateParse model) = true) ↔
        ∃ other ∈ fitting model.family scored, NewerModel dateParse model other := by
    rw [List.any_eq_true]
    constructor
    · rintro ⟨-, other, hother, h⟩
      obtain ⟨hfit, hnewer⟩ := supersedes_iff.mp h
      obtain ⟨hmem, hfamily⟩ := List.mem_filter.mp hother
      refine ⟨other, List.mem_filter.mpr ⟨hmem, ?_⟩, hnewer⟩
      simpa [hfit] using hfamily
    · rintro ⟨other, hother, hnewer⟩
      obtain ⟨hmem, hcond⟩ := List.mem_filter.mp hother
      obtain ⟨hfamily, hfit⟩ := of_decide_eq_true hcond
      have hmem' : other ∈ scored.filter fun other => other.family = model.family :=
        List.mem_filter.mpr ⟨hmem, decide_eq_true hfamily⟩
      have hself : model ∈ scored.filter fun other => other.family = model.family :=
        List.mem_filter.mpr ⟨hmodel, decide_eq_true rfl⟩
      have hsupersedes := supersedes_iff.mpr ⟨hfit, hnewer⟩
      exact ⟨two_le_of_supersedes hself hmem' hsupersedes, other, hmem', hsupersedes⟩
  rw [marked, group_eq hmodel]
  split_ifs with h
  · obtain ⟨other, hother, hnewer⟩ := hiff.mp h
    exact iff_of_false nofun fun hnone => hnone other hother hnewer
  · refine iff_of_true hfresh fun other hother hnewer => h (hiff.mpr ⟨other, hother, hnewer⟩)

/-- Nothing else of a model changes that tells its family or its fit. -/
theorem marked_fields : (marked dateParse scored model).family = model.family ∧
    (marked dateParse scored model).hardwareFit = model.hardwareFit := by
  unfold marked
  dsimp only
  split_ifs <;> exact ⟨rfl, rfl⟩

theorem fitting_mark : fitting family (markSupersededByFamily dateParse scored) =
    (fitting family scored).map (marked dateParse scored) := by
  rw [fitting, fitting, markSupersededByFamily, List.filter_map]
  congr 1
  refine List.filter_congr fun model _ => ?_
  rw [Function.comp_apply, marked_fields.1, marked_fields.2]

/-- **What is left of a family**: the fitting models that no fitting one is newer than. -/
theorem keeps_iff (hfresh : ∀ model ∈ scored, model.superseded = false) :
    (∃ model ∈ fitting family (markSupersededByFamily dateParse scored), model.superseded = false) ↔
      ∃ model ∈ fitting family scored, ∀ other ∈ fitting family scored, ¬NewerModel dateParse model other := by
  have hone : ∀ model ∈ fitting family scored, (marked dateParse scored model).superseded = false ↔
      ∀ other ∈ fitting family scored, ¬NewerModel dateParse model other := by
    intro model hmem
    obtain ⟨hmodel, hcond⟩ := List.mem_filter.mp hmem
    rw [marked_eq hmodel (hfresh model hmodel), (of_decide_eq_true hcond).1]
  rw [fitting_mark]
  constructor
  · rintro ⟨_, hmarked, hkept⟩
    obtain ⟨model, hmodel, rfl⟩ := List.mem_map.mp hmarked
    exact ⟨model, hmodel, (hone model hmodel).mp hkept⟩
  · rintro ⟨model, hmodel, hnone⟩
    exact ⟨_, List.mem_map_of_mem hmodel, (hone model hmodel).mpr hnone⟩

end Marks

/-- **When every family keeps a model that fits.** It does unless the newest of its fitting models without a
generation is caught: older by thirty days than a model of some generation, and newer by as much than those
of the highest one. -/
theorem keeps_families_iff (dateParse : String → Option ℤ) (scored : List ScoredModel)
    (hfresh : ∀ model ∈ scored, model.superseded = false) :
    KeepsFamilies (markSupersededByFamily dateParse scored) ↔
      ∀ family u, ¬Caught generation (createdMs dateParse) supersedeMinAgeGapMs (fitting family scored) u := by
  refine forall_congr' fun family => ?_
  rw [keeps_iff hfresh, fitting_mark, ne_eq, List.map_eq_nil_iff]
  by_cases hnil : fitting family scored = []
  · refine iff_of_true (fun hne => absurd hnil hne) fun u hu => ?_
    have hmem := hu.mem
    rw [hnil] at hmem
    cases hmem
  · have hall : (∀ model ∈ fitting family scored, ∃ other ∈ fitting family scored, NewerModel dateParse model other) ↔
        ∃ u, Caught generation (createdMs dateParse) supersedeMinAgeGapMs (fitting family scored) u :=
      all_outdated_iff gap_pos hnil
    rw [← not_exists, ← hall]
    push Not
    exact ⟨fun h => h hnil, fun h _ => h⟩

/-! ## A family that is emptied -/

/-- A model that fits two A100. -/
def fittingModel (id family createdAt : String) : ScoredModel where
  id := id
  name := id
  architecture := "qwen2"
  contextWindow := 32768
  license := "apache-2.0"
  parameterCount := none
  quantizations := []
  supportsToolCalling := true
  trendingScore := 50
  hardwareFit := true
  totalScore := 70
  createdAt := some createdAt
  family := family
  superseded := false

/-- The dates of the models below, in milliseconds. -/
def dateOf (text : String) : Option ℤ :=
  if text = "2025-01-01T00:00:00.000Z" then some 1735689600000
  else if text = "2025-03-01T00:00:00.000Z" then some 1740787200000
  else if text = "2025-05-01T00:00:00.000Z" then some 1746057600000
  else none

/-- The third generation, a release without a number, and a late upload of the second generation. -/
def coders : List ScoredModel := [
  fittingModel "Qwen/Qwen3-Coder" "qwen/qwen-coder" "2025-01-01T00:00:00.000Z",
  fittingModel "Qwen/Qwen-Coder" "qwen/qwen-coder" "2025-03-01T00:00:00.000Z",
  fittingModel "Qwen/Qwen2-Coder" "qwen/qwen-coder" "2025-05-01T00:00:00.000Z"]

/-- Without the late upload the release without a number stays. -/
theorem coders_kept : KeepsFamilies (markSupersededByFamily dateOf (coders.take 2)) := by
  have hnone : ∀ u ∈ coders.take 2, generation u = none → ∀ m ∈ coders.take 2, supersedes dateOf u m = false := by
    decide +kernel
  refine (keeps_families_iff dateOf (coders.take 2) (by decide)).mpr fun family u hu => ?_
  obtain ⟨newer, hnewer, -, hlater⟩ := hu.newer
  obtain ⟨hmem, hcond⟩ := List.mem_filter.mp hnewer
  have hsupersedes : supersedes dateOf u newer = true :=
    supersedes_iff.mpr ⟨(of_decide_eq_true hcond).2, (newer_of_unknown (.inl hu.unknown)).mpr hlater⟩
  rw [hnone u (List.mem_filter.mp hu.mem).1 hu.unknown newer hmem] at hsupersedes
  cases hsupersedes

/-- Each of the three supersedes the next one. -/
theorem coders_emptied : ¬ ∀ (dateParse : String → Option ℤ) (scored : List ScoredModel),
    (∀ model ∈ scored, model.superseded = false) → KeepsFamilies (markSupersededByFamily dateParse scored) := by
  intro h
  have hkeeps := h dateOf coders (by decide) "qwen/qwen-coder"
  revert hkeeps
  decide +kernel

end Benchmarker.Discovery
