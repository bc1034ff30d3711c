import Benchmarker.Sql.Builder
import Benchmarker.Store.Rows

/-!
# Queries of the stores

`query` of `ResultsStore` and of `KibanaEvalStore`: the rows that are read, each of which is then hydrated on its own.

* `ResultsStore.buildQuerySQL`, `KibanaEvalStore.buildQuerySQL`, `ResultsStore.query`, `KibanaEvalStore.query`.
* `Matches`: a row satisfies the filters that are given.
* **`query_exact_iff`**: the answers are the rows that match, sorted and sliced, exactly if there is no offset without
  a limit and both fit into 64 bits.
-/

namespace Benchmarker.Store

open Sql

/-! ## Columns and conditions -/

def resultsName : Sql.Name where
  text := "benchmark_results"
  reads := by decide
  named := by decide
  spaced := by decide

def reportsName : Sql.Name where
  text := "kibana_eval_reports"
  reads := by decide
  named := by decide
  spaced := by decide

def timestampName : Sql.Name where
  text := "timestamp"
  reads := by decide
  named := by decide
  spaced := by decide

/-- `if (modelId !== undefined) { conditions.push('model_id = ?'); params.push(modelId); }` -/
def modelIdFilter (modelId : Option String) : Filter where
  text := "model_id = ?".toList
  column := "model_id"
  op := .eq
  value := modelId.map .text
  reads := by decide
  named := by decide
  spaced := by decide

def vllmVersionFilter (vllmVersion : Option String) : Filter where
  text := "vllm_version = ?".toList
  column := "vllm_version"
  op := .eq
  value := vllmVersion.map .text
  reads := by decide
  named := by decide
  spaced := by decide

def afterFilter (after : Option String) : Filter where
  text := "timestamp >= ?".toList
  column := "timestamp"
  op := .ge
  value := after.map .text
  reads := by decide
  named := by decide
  spaced := by decide

def beforeFilter (before : Option String) : Filter where
  text := "timestamp <= ?".toList
  column := "timestamp"
  op := .le
  value := before.map .text
  reads := by decide
  named := by decide
  spaced := by decide

def passedFilter (passed : Option Bool) : Filter where
  text := "passed = ?".toList
  column := "passed"
  op := .eq
  value := passed.map flagValue
  reads := by decide
  named := by decide
  spaced := by decide

def gpuTypeFilter (gpuType : Option String) : Filter where
  text := "gpu_type = ?".toList
  column := "gpu_type"
  op := .eq
  value := gpuType.map .text
  reads := by decide
  named := by decide
  spaced := by decide

def hardwareProfileIdFilter (hardwareProfileId : Option String) : Filter where
  text := "hardware_profile_id = ?".toList
  column := "hardware_profile_id"
  op := .eq
  value := hardwareProfileId.map .text
  reads := by decide
  named := by decide
  spaced := by decide

def connectorIdFilter (connectorId : Option String) : Filter where
  text := "connector_id = ?".toList
  column := "connector_id"
  op := .eq
  value := connectorId.map .text
  reads := by decide
  named := by decide
  spaced := by decide

/-- `'PASS' | 'PARTIAL' | 'FAIL'` -/
inductive KibanaEvalClassification
  | pass | partly | fail
  deriving DecidableEq

def KibanaEvalClassification.text : KibanaEvalClassification → String
  | pass => "PASS"
  | partly => "PARTIAL"
  | fail => "FAIL"

def classificationFilter (classification : Option KibanaEvalClassification) : Filter where
  text := "classification = ?".toList
  column := "classification"
  op := .eq
  value := classification.map fun c => .text c.text
  reads := by decide
  named := by decide
  spaced := by decide

/-- `orderBy === 'asc' ? 'ASC' : 'DESC'` -/
def directionOf (orderBy : Option Direction) : Direction := if orderBy = some .asc then .asc else .desc

/-- In the order of `orderBy`, the first of two timestamps may stand before the second. -/
def before (orderBy : Option Direction) (s t : String) : Prop :=
  match directionOf orderBy with
  | .asc => s ≤ t
  | .desc => t ≤ s

theorem ordered_text {direction : Direction} {s t : String} :
    direction.ordered (.text s) (.text t) = true ↔ match direction with
      | .asc => s ≤ t
      | .desc => t ≤ s := by
  cases direction <;> exact decide_eq_true_iff

/-- One answer for both stores: a table with timestamps, and what its filters say of a row. -/
theorem all_exact_iff {ρ : Type} {t : Table ρ} {table : Sql.Name} {filters : List Filter} {p : ρ → Bool} {stamp : ρ → String}
    {orderBy : Option Direction} {limit offset : Option ℕ} (hname : table.text = t.name)
    (hcolumns : ∀ f ∈ filters, t.hasColumn f.column = true) (horder : t.hasColumn timestampName.text = true)
    (hstamp : ∀ row, t.value timestampName.text row = .text (stamp row)) (hp : satisfies t filters = p) :
    all t (buildQuery table timestampName filters (directionOf orderBy) limit offset).1
        (buildQuery table timestampName filters (directionOf orderBy) limit offset).2 =
      .ok {out | Selected t.rows p (fun a b => before orderBy (stamp a) (stamp b)) limit offset out} ↔
    Accepted limit offset := by
  have hbefore : (fun a b => before orderBy (stamp a) (stamp b)) = fun a b =>
      (directionOf orderBy).ordered (t.value timestampName.text a) (t.value timestampName.text b) = true := by
    funext a b
    rw [hstamp, hstamp]
    exact propext ordered_text.symm
  rw [hbefore, ← hp]
  exact all_buildQuery_iff hcolumns horder hname

/-! ## Conditions on a row -/

section Conditions

variable {option : Option String} {s : String}

theorem all_eq_text : (option.map Value.text).all (fun v => Cmp.eq.holds (.text s) v) = option.all (fun t => s = t) := by
  cases option with
  | none => rfl
  | some t => simp

theorem all_ge_text : (option.map Value.text).all (fun v => Cmp.ge.holds (.text s) v) = option.all (fun t => t ≤ s) := by
  cases option with
  | none => rfl
  | some t => simp

theorem all_le_text : (option.map Value.text).all (fun v => Cmp.le.holds (.text s) v) = option.all (fun t => s ≤ t) := by
  cases option with
  | none => rfl
  | some t => simp

theorem all_eq_flag {option : Option Bool} {flag : Bool} :
    (option.map flagValue).all (fun v => Cmp.eq.holds (flagValue flag) v) = option.all (fun b => flag = b) := by
  cases option with
  | none => rfl
  | some b => cases flag <;> cases b <;> decide

theorem all_eq_optionalText {text : Option String} :
    (option.map Value.text).all (fun v => Cmp.eq.holds (optionalText text) v) = option.all (fun t => text = some t) := by
  cases option with
  | none => rfl
  | some t => cases text <;> simp [optionalText]

end Conditions

/-! ## ResultsStore -/

structure ResultsQueryOptions where
  modelId : Option String := none
  vllmVersion : Option String := none
  after : Option String := none
  before : Option String := none
  passed : Option Bool := none
  gpuType : Option String := none
  hardwareProfileId : Option String := none
  limit : Option ℕ := none
  offset : Option ℕ := none
  orderBy : Option Direction := none

/-- The row satisfies every filter that is given. -/
def ResultsQueryOptions.matches (options : ResultsQueryOptions) (row : ResultRow) : Bool :=
  options.modelId.all (fun modelId => row.modelId = modelId) &&
  options.vllmVersion.all (fun vllmVersion => row.vllmVersion = vllmVersion) &&
  options.after.all (fun after => after ≤ row.timestamp) &&
  options.before.all (fun before => row.timestamp ≤ before) &&
  options.passed.all (fun passed => row.passed = passed) &&
  options.gpuType.all (fun gpuType => row.gpuType = gpuType) &&
  options.hardwareProfileId.all fun hardwareProfileId => row.hardwareProfileId = some hardwareProfileId

namespace ResultsStore

def filters (options : ResultsQueryOptions) : List Filter :=
  [modelIdFilter options.modelId, vllmVersionFilter options.vllmVersion, afterFilter options.after,
    beforeFilter options.before, passedFilter options.passed, gpuTypeFilter options.gpuType,
    hardwareProfileIdFilter options.hardwareProfileId]

/-- The text of the query and its parameters. -/
def buildQuerySQL (options : ResultsQueryOptions) : List Char × List Value :=
  buildQuery resultsName timestampName (filters options) (directionOf options.orderBy) options.limit options.offset

/-- The rows of `query`. -/
def query (rows : List ResultRow) (options : ResultsQueryOptions) : Except SqlError (Set (List ResultRow)) :=
  all (resultsTable rows) (buildQuerySQL options).1 (buildQuerySQL options).2

example : String.ofList (buildQuerySQL { modelId := some "a", passed := some true, limit := some 3 }).1 =
    "SELECT * FROM benchmark_results WHERE model_id = ? AND passed = ? ORDER BY timestamp DESC LIMIT ?" := by decide

/-- The answers are the rows that match, sorted and sliced. -/
def QueryExact (rows : List ResultRow) (options : ResultsQueryOptions) : Prop :=
  query rows options = .ok {out | Selected rows options.matches
    (fun a b => before options.orderBy a.timestamp b.timestamp) options.limit options.offset out}

theorem satisfies_filters (rows : List ResultRow) (options : ResultsQueryOptions) :
    satisfies (resultsTable rows) (filters options) = options.matches := by
  funext row
  simp only [filters, satisfies_cons, satisfies_nil, Bool.and_true, ← Bool.and_assoc]
  show ((options.modelId.map Value.text).all (fun v => Cmp.eq.holds (.text row.modelId) v) &&
    (options.vllmVersion.map Value.text).all (fun v => Cmp.eq.holds (.text row.vllmVersion) v) &&
    (options.after.map Value.text).all (fun v => Cmp.ge.holds (.text row.timestamp) v) &&
    (options.before.map Value.text).all (fun v => Cmp.le.holds (.text row.timestamp) v) &&
    (options.passed.map flagValue).all (fun v => Cmp.eq.holds (flagValue row.passed) v) &&
    (options.gpuType.map Value.text).all (fun v => Cmp.eq.holds (.text row.gpuType) v) &&
    (options.hardwareProfileId.map Value.text).all fun v => Cmp.eq.holds (optionalText row.hardwareProfileId) v) = _
  rw [all_eq_text, all_eq_text, all_ge_text, all_le_text, all_eq_flag, all_eq_text, all_eq_optionalText]
  rfl

theorem hasColumn_filters (rows : List ResultRow) (options : ResultsQueryOptions) :
    ∀ f ∈ filters options, (resultsTable rows).hasColumn f.column = true := by
  simp only [filters, List.forall_mem_cons]
  exact ⟨rfl, rfl, rfl, rfl, rfl, rfl, rfl, nofun⟩

/-- The answers are exact if and only if the limit and the offset are read. -/
theorem queryExact_iff (rows : List ResultRow) (options : ResultsQueryOptions) :
    QueryExact rows options ↔ Accepted options.limit options.offset :=
  all_exact_iff rfl (hasColumn_filters rows options) rfl (fun _ => rfl) (satisfies_filters rows options)

/-- `query({ offset })`: there is no answer. -/
theorem query_offset (rows : List ResultRow) (k : ℕ) : query rows { offset := some k } = .error .syntaxError := by
  rw [query, buildQuerySQL, all, parse_buildQuery]
  rfl

end ResultsStore

/-! ## KibanaEvalStore -/

structure KibanaEvalQueryOptions where
  modelId : Option String := none
  connectorId : Option String := none
  classification : Option KibanaEvalClassification := none
  after : Option String := none
  before : Option String := none
  limit : Option ℕ := none
  offset : Option ℕ := none
  orderBy : Option Direction := none

/-- The row satisfies every filter that is given. -/
def KibanaEvalQueryOptions.matches (options : KibanaEvalQueryOptions) (row : EvalReportRow) : Bool :=
  options.modelId.all (fun modelId => row.modelId = modelId) &&
  options.connectorId.all (fun connectorId => row.connectorId = connectorId) &&
  options.classification.all (fun classification => row.classification = classification.text) &&
  options.after.all (fun after => after ≤ row.timestamp) &&
  options.before.all fun before => row.timestamp ≤ before

namespace KibanaEvalStore

def filters (options : KibanaEvalQueryOptions) : List Filter :=
  [modelIdFilter options.modelId, connectorIdFilter options.connectorId, classificationFilter options.classification,
    afterFilter options.after, beforeFilter options.before]

/-- The text of the query and its parameters. -/
def buildQuerySQL (options : KibanaEvalQueryOptions) : List Char × List Value :=
  buildQuery reportsName timestampName (filters options) (directionOf options.orderBy) options.limit options.offset

/-- The rows of `query`. -/
def query (rows : List EvalReportRow) (options : KibanaEvalQueryOptions) : Except SqlError (Set (List EvalReportRow)) :=
  all (reportsTable rows) (buildQuerySQL options).1 (buildQuerySQL options).2

/-- The answers are the rows that match, sorted and sliced. -/
def QueryExact (rows : List EvalReportRow) (options : KibanaEvalQueryOptions) : Prop :=
  query rows options = .ok {out | Selected rows options.matches
    (fun a b => before options.orderBy a.timestamp b.timestamp) options.limit options.offset out}

theorem satisfies_filters (rows : List EvalReportRow) (options : KibanaEvalQueryOptions) :
    satisfies (reportsTable rows) (filters options) = options.matches := by
  funext row
  have hclassification : (options.classification.map fun c => Value.text c.text).all
      (fun v => Cmp.eq.holds (.text row.classification) v) = options.classification.all (fun c => row.classification = c.text) := by
    cases options.classification with
    | none => rfl
    | some c => simp
  simp only [filters, satisfies_cons, satisfies_nil, Bool.and_true, ← Bool.and_assoc]
  show ((options.modelId.map Value.text).all (fun v => Cmp.eq.holds (.text row.modelId) v) &&
    (options.connectorId.map Value.text).all (fun v => Cmp.eq.holds (.text row.connectorId) v) &&
    (options.classification.map fun c => Value.text c.text).all (fun v => Cmp.eq.holds (.text row.classification) v) &&
    (options.after.map Value.text).all (fun v => Cmp.ge.holds (.text row.timestamp) v) &&
    (options.before.map Value.text).all fun v => Cmp.le.holds (.text row.timestamp) v) = _
  rw [all_eq_text, all_eq_text, hclassification, all_ge_text, all_le_text]
  rfl

theorem hasColumn_filters (rows : List EvalReportRow) (options : KibanaEvalQueryOptions) :
    ∀ f ∈ filters options, (reportsTable rows).hasColumn f.column = true := by
  simp only [filters, List.forall_mem_cons]
  exact ⟨rfl, rfl, rfl, rfl, rfl, nofun⟩

/-- The answers are exact if and only if the limit and the offset are read. -/
theorem queryExact_iff (rows : List EvalReportRow) (options : KibanaEvalQueryOptions) :
    QueryExact rows options ↔ Accepted options.limit options.offset :=
  all_exact_iff rfl (hasColumn_filters rows options) rfl (fun _ => rfl) (satisfies_filters rows options)

end KibanaEvalStore

/-! ## Both stores -/

/-- **The queries of both stores are exact** if and only if there is no offset without a limit, and the limit and the
offset are less than `2 ^ 63`. -/
theorem query_exact_iff (rows : List ResultRow) (options : ResultsQueryOptions) (reports : List EvalReportRow)
    (evalOptions : KibanaEvalQueryOptions) :
    (ResultsStore.QueryExact rows options ↔ Accepted options.limit options.offset) ∧
      (KibanaEvalStore.QueryExact reports evalOptions ↔ Accepted evalOptions.limit evalOptions.offset) :=
  ⟨ResultsStore.queryExact_iff rows options, KibanaEvalStore.queryExact_iff reports evalOptions⟩

/-- `query({ offset: 1 })` throws: the rows of an empty store are not answered. -/
theorem query_offset_not_exact : ¬ResultsStore.QueryExact [] { offset := some 1 } := by
  rw [ResultsStore.QueryExact, ResultsStore.query_offset]
  nofun

end Benchmarker.Store
