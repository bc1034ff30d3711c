import Benchmarker.Store.Results

/-!
# One result is saved

* `RowRefused`, `PartsRefused`: what of a result cannot be written, and why.
* `Saved`: the tables after a result has been saved.
* **`save_cases`**: `save` throws and changes nothing, for a duplicate or for another reason, or the result is saved.
-/

namespace Benchmarker.Store

open Sql

/-! ## Rows -/

def BenchmarkMetrics.numbers (metric : BenchmarkMetrics) : List JsNumber :=
  [metric.itlMs, metric.ttftMs, metric.throughputTokensPerSec, metric.p99LatencyMs, metric.concurrencyLevel]

def ToolCallResult.numbers (calls : ToolCallResult) : List JsNumber :=
  [calls.maxConcurrentCalls, calls.avgToolCallLatencyMs, calls.successRate, calls.totalTests]

def BenchmarkResult.numbers (res : BenchmarkResult) : List JsNumber :=
  [res.hardwareConfig.gpuCount, res.hardwareConfig.ramGb, res.hardwareConfig.cpuCores, res.hardwareConfig.diskGb,
    res.tensorParallelSize]

/-- A text that lacks a letter of another does not include it. -/
theorem includes_eq_false {s t : String} {c : Char} (ht : c ∈ t.toList) (hs : c ∉ s.toList) :
    Js.includes s t = false := by
  refine List.any_eq_false.mpr fun u hu hprefix => hs ?_
  exact ((List.mem_tails u s.toList).mp hu).subset ((List.isPrefixOf_iff_prefix.mp hprefix).subset ht)

theorem not_isDuplicate_notNull (column : Column) : (DbError.notNull column).isDuplicate = false := by
  have hletter : 'Q' ∈ "UNIQUE constraint failed".toList := by decide
  have hbefore : 'Q' ∉ "NOT NULL constraint failed: ".toList := by decide
  have hcolumn : 'Q' ∉ column.text.toList := by cases column <;> decide
  refine includes_eq_false hletter fun hmem => ?_
  have hmessage : (DbError.notNull column).message = "NOT NULL constraint failed: " ++ column.text := rfl
  rw [hmessage, String.toList_append] at hmem
  exact (List.mem_append.mp hmem).elim hbefore hcolumn

theorem not_isDuplicate_fault (f : Fault) : (DbError.fault f).isDuplicate = false := by
  cases f <;> decide

theorem isDuplicate_uniqueKey : DbError.uniqueKey.isDuplicate = true := by decide +kernel

section Rows

variable (id resultId : ℕ)

/-- A metric is written as it is read back, unless one of its numbers is `NaN`. -/
theorem metricRow_cases (metric : BenchmarkMetrics) :
    (∃ row, metricRow id resultId metric = .ok row ∧ row.id = id ∧ row.resultId = resultId ∧ row.hydrate = metric) ∨
      none ∈ metric.numbers ∧ ∃ column, metricRow id resultId metric = .error (.notNull column) := by
  rcases metric with ⟨_ | itlMs, ttftMs, throughput, p99LatencyMs, concurrencyLevel⟩
  · exact .inr ⟨by simp [BenchmarkMetrics.numbers], _, rfl⟩
  rcases ttftMs with _ | ttftMs
  · exact .inr ⟨by simp [BenchmarkMetrics.numbers], _, rfl⟩
  rcases throughput with _ | throughput
  · exact .inr ⟨by simp [BenchmarkMetrics.numbers], _, rfl⟩
  rcases p99LatencyMs with _ | p99LatencyMs
  · exact .inr ⟨by simp [BenchmarkMetrics.numbers], _, rfl⟩
  rcases concurrencyLevel with _ | concurrencyLevel
  · exact .inr ⟨by simp [BenchmarkMetrics.numbers], _, rfl⟩
  · exact .inl ⟨_, rfl, rfl, rfl, rfl⟩

theorem toolCallRow_cases (calls : ToolCallResult) :
    (∃ row, toolCallRow id resultId calls = .ok row ∧ row.id = id ∧ row.resultId = resultId ∧ row.hydrate = calls) ∨
      none ∈ calls.numbers ∧ ∃ column, toolCallRow id resultId calls = .error (.notNull column) := by
  rcases calls with ⟨supportsParallelCalls, _ | maxConcurrentCalls, avgToolCallLatencyMs, successRate, totalTests⟩
  · exact .inr ⟨by simp [ToolCallResult.numbers], _, rfl⟩
  rcases avgToolCallLatencyMs with _ | avgToolCallLatencyMs
  · exact .inr ⟨by simp [ToolCallResult.numbers], _, rfl⟩
  rcases successRate with _ | successRate
  · exact .inr ⟨by simp [ToolCallResult.numbers], _, rfl⟩
  rcases totalTests with _ | totalTests
  · exact .inr ⟨by simp [ToolCallResult.numbers], _, rfl⟩
  · exact .inl ⟨_, rfl, rfl, rfl, rfl⟩

/-- The row with the parts of the result reads back as the result. -/
structure WrittenAs (res : BenchmarkResult) (row : ResultRow) : Prop where
  id_eq : row.id = id
  key_eq : row.key = res.key
  reasons : row.rejectionReasons = Js.stringifyStrings res.rejectionReasons
  hydrate : row.hydrate res.rejectionReasons res.benchmarkMetrics res.toolCallResults = res

theorem resultRow_cases (createdAt : String) (res : BenchmarkResult) :
    (∃ row, resultRow id createdAt res = .ok row ∧ WrittenAs id res row) ∨
      none ∈ res.numbers ∧ ∃ column, resultRow id createdAt res = .error (.notNull column) := by
  rcases res with ⟨modelId, timestamp, vllmVersion, dockerCommand, hardware, metrics, calls, passed, reasons, tensorParallelSize,
    parser, output⟩
  rcases hardware with ⟨gpuType, _ | gpuCount, ramGb, cpuCores, diskGb, machineType, profileId⟩
  · exact .inr ⟨by simp [BenchmarkResult.numbers], _, rfl⟩
  rcases ramGb with _ | ramGb
  · exact .inr ⟨by simp [BenchmarkResult.numbers], _, rfl⟩
  rcases cpuCores with _ | cpuCores
  · exact .inr ⟨by simp [BenchmarkResult.numbers], _, rfl⟩
  rcases diskGb with _ | diskGb
  · exact .inr ⟨by simp [BenchmarkResult.numbers], _, rfl⟩
  rcases tensorParallelSize with _ | tensorParallelSize
  · exact .inr ⟨by simp [BenchmarkResult.numbers], _, rfl⟩
  · exact .inl ⟨_, rfl, rfl, rfl, rfl, rfl⟩

variable {id resultId}

/-- What is read back has no `NaN`. -/
theorem numbers_hydrate_metric (row : MetricRow) : none ∉ row.hydrate.numbers := by
  simp [MetricRow.hydrate, BenchmarkMetrics.numbers]

theorem numbers_hydrate_toolCall (row : ToolCallRow) : none ∉ row.hydrate.numbers := by
  simp [ToolCallRow.hydrate, ToolCallResult.numbers]

theorem numbers_hydrate (row : ResultRow) {reasons : List String} {metrics : List BenchmarkMetrics}
    {calls : Option ToolCallResult} : none ∉ (row.hydrate reasons metrics calls).numbers := by
  simp [ResultRow.hydrate, BenchmarkResult.numbers]

theorem WrittenAs.numbers {res : BenchmarkResult} {row : ResultRow} (h : WrittenAs id res row) : none ∉ res.numbers := by
  rw [← h.hydrate]
  exact numbers_hydrate row

end Rows

/-! ## Statements -/

/-- The statement `k` fails, or binds a `NaN`. -/
def Moment.Refuses (moment : Moment) (k : ℕ) (numbers : List JsNumber) : Prop :=
  (moment.fault k).isSome = true ∨ none ∈ numbers

/-- An error that is no duplicate. -/
def Throws {α : Type} (r : EStateM.Result DbError Tables α) : Prop :=
  ∃ e s, r = .error e s ∧ e.isDuplicate = false

def Tables.withMetrics (s : Tables) (rows : List MetricRow) : Tables :=
  { s with metrics := s.metrics ++ rows, metricSeq := s.metricSeq + rows.length }

def Tables.withToolCalls (s : Tables) (rows : List ToolCallRow) : Tables :=
  { s with toolCalls := s.toolCalls ++ rows, toolCallSeq := s.toolCallSeq + rows.length }

/-- The metrics that are refused, where the first is written by the statement `k`. -/
def MetricsRefused (moment : Moment) (k : ℕ) (metrics : List BenchmarkMetrics) : Prop :=
  ∃ j metric, metrics[j]? = some metric ∧ moment.Refuses (k + j) metric.numbers

section Statements

variable {moment : Moment} {k resultId : ℕ} {s : Tables} {α : Type} {write : Tables → Except DbError (α × Tables)}
  {metric : BenchmarkMetrics} {metrics : List BenchmarkMetrics}

theorem run_cases (moment : Moment) (k : ℕ) (write : Tables → Except DbError (α × Tables)) (s : Tables) :
    (moment.fault k).isSome = true ∧ Throws (moment.run k write s) ∨
      moment.fault k = none ∧ moment.run k write s = statement none write s := by
  rw [Moment.run]
  cases hfault : moment.fault k with
  | none => exact .inr ⟨rfl, rfl⟩
  | some f => exact .inl ⟨rfl, .fault f, s, rfl, not_isDuplicate_fault f⟩

theorem not_refuses {numbers : List JsNumber} (hfault : moment.fault k = none) (hnumbers : none ∉ numbers) :
    ¬moment.Refuses k numbers := by
  rintro (h | h)
  · rw [hfault] at h
    cases h
  · exact hnumbers h

/-- **One statement** that writes a row of numbers: it is refused, or it does what it writes. -/
theorem run_write_cases {numbers : List JsNumber} (moment : Moment) (k : ℕ)
    (h : none ∉ numbers ∧ (∃ a s', write s = .ok (a, s')) ∨
      none ∈ numbers ∧ ∃ column, write s = .error (.notNull column)) :
    moment.Refuses k numbers ∧ Throws (moment.run k write s) ∨
      ¬moment.Refuses k numbers ∧ ∀ a s', write s = .ok (a, s') → moment.run k write s = .ok a s' := by
  rcases run_cases moment k write s with ⟨hfault, hthrows⟩ | ⟨hfault, hrun⟩
  · exact .inl ⟨.inl hfault, hthrows⟩
  rw [hrun]
  rcases h with ⟨hnumbers, -⟩ | ⟨hnan, column, hwrite⟩
  · exact .inr ⟨not_refuses hfault hnumbers, fun _ _ => statement_of_ok⟩
  · exact .inl ⟨.inr hnan, _, s, statement_of_error hwrite, not_isDuplicate_notNull column⟩

theorem metricsRefused_nil : ¬MetricsRefused moment k [] := fun ⟨_, _, h, _⟩ => nomatch h

theorem metricsRefused_cons : MetricsRefused moment k (metric :: metrics) ↔
    moment.Refuses k metric.numbers ∨ MetricsRefused moment (k + 1) metrics := by
  constructor
  · rintro ⟨j, m, hm, hrefuses⟩
    cases j with
    | zero =>
      obtain rfl : metric = m := by simpa using hm
      exact .inl hrefuses
    | succ j => exact .inr ⟨j, m, hm, by rwa [Nat.add_right_comm]⟩
  · rintro (hrefuses | ⟨j, m, hm, hrefuses⟩)
    · exact ⟨0, metric, rfl, hrefuses⟩
    · exact ⟨j + 1, m, hm, by rwa [Nat.add_right_comm] at hrefuses⟩

/-- One metric: refused, or written. -/
theorem addMetric_cases (moment : Moment) (k : ℕ) (hparent : resultId ∈ s.results.map ResultRow.id)
    (metric : BenchmarkMetrics) :
    moment.Refuses k metric.numbers ∧ Throws (moment.run k (addMetric resultId metric) s) ∨
      ¬moment.Refuses k metric.numbers ∧ ∃ row : MetricRow, moment.run k (addMetric resultId metric) s =
        .ok () (s.withMetrics [row]) ∧ row.id = s.metricSeq + 1 ∧ row.resultId = resultId ∧ row.hydrate = metric := by
  rcases metricRow_cases (s.metricSeq + 1) resultId metric with ⟨row, hrow, hid, hresult, hhydrate⟩ | ⟨hnan, column, hrow⟩
  · have hwrite : addMetric resultId metric s = .ok ((), s.withMetrics [row]) := by
      rw [addMetric, hrow]
      show (if resultId ∉ s.results.map ResultRow.id then _ else _) = _
      rw [if_neg (not_not_intro hparent), Tables.withMetrics, List.length_singleton, ← hid]
      rfl
    have hnumbers : none ∉ metric.numbers := by
      rw [← hhydrate]
      exact numbers_hydrate_metric row
    exact (run_write_cases moment k (.inl ⟨hnumbers, _, _, hwrite⟩)).imp_right fun ⟨hrefuses, hrun⟩ =>
      ⟨hrefuses, row, hrun _ _ hwrite, hid, hresult, hhydrate⟩
  · have hwrite : addMetric resultId metric s = .error (.notNull column) := by
      rw [addMetric, hrow]
      rfl
    exact (run_write_cases moment k (.inr ⟨hnan, column, hwrite⟩)).imp_right fun ⟨hrefuses, _⟩ =>
      absurd (.inr hnan) hrefuses

/-- Rows of the metrics, numbered from `seq` on. -/
structure MetricsWritten (resultId seq : ℕ) (metrics : List BenchmarkMetrics) (rows : List MetricRow) : Prop where
  hydrate : rows.map MetricRow.hydrate = metrics
  result : ∀ row ∈ rows, row.resultId = resultId
  ids : ∀ old : List MetricRow, Numbered MetricRow.id old seq → Numbered MetricRow.id (old ++ rows) (seq + rows.length)

/-- **The metrics in turn**: one of them is refused, or all are written. -/
theorem addMetrics_cases (moment : Moment) (k : ℕ) (hparent : resultId ∈ s.results.map ResultRow.id)
    (metrics : List BenchmarkMetrics) :
    MetricsRefused moment k metrics ∧ Throws (addMetrics moment resultId k metrics s) ∨
      ¬MetricsRefused moment k metrics ∧ ∃ rows, addMetrics moment resultId k metrics s = .ok () (s.withMetrics rows) ∧
        MetricsWritten resultId s.metricSeq metrics rows := by
  induction metrics generalizing k s with
  | nil =>
    have hsame : s.withMetrics [] = s := by rw [Tables.withMetrics, List.append_nil]; rfl
    refine .inr ⟨metricsRefused_nil, [], by rw [hsame]; rfl, rfl, List.forall_mem_nil _, fun old hold => ?_⟩
    rwa [List.append_nil]
  | cons metric metrics ih =>
    rw [metricsRefused_cons]
    rcases addMetric_cases moment k hparent metric with ⟨hrefuses, e, s', he, hdup⟩ | ⟨hrefuses, row, hrow, hid, hresult, hhydrate⟩
    · exact .inl ⟨.inl hrefuses, e, s', bind_of_error he, hdup⟩
    · have hstep : addMetrics moment resultId k (metric :: metrics) s =
          addMetrics moment resultId (k + 1) metrics (s.withMetrics [row]) := bind_of_ok hrow
      rw [hstep]
      rcases ih (s := s.withMetrics [row]) (k + 1) hparent with ⟨hrest, hthrows⟩ | ⟨hrest, rows, hrows, hwritten⟩
      · exact .inl ⟨.inr hrest, hthrows⟩
      · have hseq : s.metricSeq + 1 + rows.length = s.metricSeq + (row :: rows).length := by
          rw [List.length_cons]
          omega
        have htwice : (s.withMetrics [row]).withMetrics rows = s.withMetrics (row :: rows) := by
          rw [Tables.withMetrics, Tables.withMetrics, Tables.withMetrics, List.append_assoc, List.singleton_append,
            List.length_singleton, hseq]
        refine .inr ⟨not_or.mpr ⟨hrefuses, hrest⟩, row :: rows, by rw [hrows, htwice], ?_, ?_, fun old hold => ?_⟩
        · rw [List.map_cons, hhydrate, hwritten.hydrate]
        · exact List.forall_mem_cons.mpr ⟨hresult, hwritten.result⟩
        · have hids := hwritten.ids (old ++ [row]) (numbered_concat hold hid)
          rw [List.append_assoc, List.singleton_append] at hids
          exact hseq ▸ hids

/-- Rows of the tool calls, numbered from `seq` on. -/
structure CallsWritten (resultId seq : ℕ) (calls : Option ToolCallResult) (rows : List ToolCallRow) : Prop where
  hydrate : rows.map ToolCallRow.hydrate = calls.toList
  result : ∀ row ∈ rows, row.resultId = resultId
  ids : ∀ old : List ToolCallRow, Numbered ToolCallRow.id old seq →
    Numbered ToolCallRow.id (old ++ rows) (seq + rows.length)

/-- The tool calls that are refused. -/
def CallsRefused (moment : Moment) (k : ℕ) (calls : Option ToolCallResult) : Prop :=
  ∃ c ∈ calls, moment.Refuses k c.numbers

theorem callsRefused_none : ¬CallsRefused moment k none := fun ⟨_, h, _⟩ => nomatch h

/-- **The tool calls**: refused, or written. -/
theorem addToolCalls_cases (moment : Moment) (k : ℕ) (hparent : resultId ∈ s.results.map ResultRow.id)
    (hfresh : resultId ∉ s.toolCalls.map ToolCallRow.resultId) (calls : Option ToolCallResult) :
    CallsRefused moment k calls ∧ Throws (addToolCalls moment resultId k calls s) ∨
      ¬CallsRefused moment k calls ∧ ∃ rows, addToolCalls moment resultId k calls s = .ok () (s.withToolCalls rows) ∧
        CallsWritten resultId s.toolCallSeq calls rows := by
  cases calls with
  | none =>
    have hsame : s.withToolCalls [] = s := by rw [Tables.withToolCalls, List.append_nil]; rfl
    refine .inr ⟨callsRefused_none, [], by rw [hsame]; rfl, rfl, List.forall_mem_nil _, fun old hold => ?_⟩
    rwa [List.append_nil]
  | some calls =>
    rw [addToolCalls]
    have hcalls : CallsRefused moment k (some calls) ↔ moment.Refuses k calls.numbers :=
      ⟨fun ⟨_, hc, h⟩ => Option.some.inj hc ▸ h, fun h => ⟨calls, rfl, h⟩⟩
    rw [hcalls]
    rcases toolCallRow_cases (s.toolCallSeq + 1) resultId calls with ⟨row, hrow, hid, hresult, hhydrate⟩ | ⟨hnan, column, hrow⟩
    · have hwrite : addToolCall resultId calls s = .ok ((), s.withToolCalls [row]) := by
        rw [addToolCall, hrow]
        show (if resultId ∈ s.toolCalls.map ToolCallRow.resultId then _ else _) = _
        rw [if_neg hfresh]
        show (if resultId ∉ s.results.map ResultRow.id then _ else _) = _
        rw [if_neg (not_not_intro hparent), Tables.withToolCalls, List.length_singleton, ← hid]
        rfl
      have hnumbers : none ∉ calls.numbers := by
        rw [← hhydrate]
        exact numbers_hydrate_toolCall row
      refine (run_write_cases moment k (.inl ⟨hnumbers, _, _, hwrite⟩)).imp_right fun ⟨hrefuses, hrun⟩ =>
        ⟨hrefuses, [row], hrun _ _ hwrite, by rw [List.map_singleton, hhydrate]; rfl, ?_, fun old hold => ?_⟩
      · exact fun c hc => (congrArg _ (List.mem_singleton.mp hc)).trans hresult
      · exact numbered_concat hold hid
    · have hwrite : addToolCall resultId calls s = .error (.notNull column) := by
        rw [addToolCall, hrow]
        rfl
      exact (run_write_cases moment k (.inr ⟨hnan, column, hwrite⟩)).imp_right fun ⟨hrefuses, _⟩ =>
        absurd (.inr hnan) hrefuses

def Tables.withResult (s : Tables) (row : ResultRow) : Tables :=
  { s with results := s.results ++ [row], resultSeq := s.resultSeq + 1 }

/-- The row of the result: refused, a duplicate, or written. -/
theorem addResult_cases (moment : Moment) (s : Tables) (res : BenchmarkResult) :
    moment.Refuses 0 res.numbers ∧ Throws (moment.run 0 (addResult moment.now res) s) ∨
    ¬moment.Refuses 0 res.numbers ∧ res.key ∈ s.keys ∧
      moment.run 0 (addResult moment.now res) s = .error .uniqueKey s ∨
    ¬moment.Refuses 0 res.numbers ∧ res.key ∉ s.keys ∧ ∃ row, moment.run 0 (addResult moment.now res) s =
      .ok (s.resultSeq + 1) (s.withResult row) ∧ WrittenAs (s.resultSeq + 1) res row := by
  rcases run_cases moment 0 (addResult moment.now res) s with ⟨hfault, hthrows⟩ | ⟨hfault, hrun⟩
  · exact .inl ⟨.inl hfault, hthrows⟩
  rw [hrun]
  rcases resultRow_cases (s.resultSeq + 1) moment.now res with ⟨row, hrow, hwritten⟩ | ⟨hnan, column, hrow⟩
  · have hrefuses := not_refuses hfault hwritten.numbers
    have hadd : addResult moment.now res s = if res.key ∈ s.keys then .error .uniqueKey
        else .ok (s.resultSeq + 1, s.withResult row) := by
      rw [addResult, hrow]
      show (if row.key ∈ s.keys then _ else _) = _
      rw [hwritten.key_eq, Tables.withResult, ← hwritten.id_eq]
      split_ifs <;> rfl
    by_cases hkey : res.key ∈ s.keys
    · rw [if_pos hkey] at hadd
      exact .inr (.inl ⟨hrefuses, hkey, statement_of_error hadd⟩)
    · rw [if_neg hkey] at hadd
      exact .inr (.inr ⟨hrefuses, hkey, row, statement_of_ok hadd, hwritten⟩)
  · have hwrite : addResult moment.now res s = .error (.notNull column) := by
      rw [addResult, hrow]
      rfl
    exact .inl ⟨.inr hnan, _, s, statement_of_error hwrite, not_isDuplicate_notNull column⟩

end Statements

/-! ## The transaction -/

/-- A metric or the tool calls cannot be written. -/
def PartsRefused (moment : Moment) (res : BenchmarkResult) : Prop :=
  MetricsRefused moment 1 res.benchmarkMetrics ∨
    CallsRefused moment (res.benchmarkMetrics.length + 1) res.toolCallResults

/-- `save` fails, and not for a duplicate: the parts are written only if the key is not taken. -/
def Refused (taken : List Key) (moment : Moment) (res : BenchmarkResult) : Prop :=
  moment.Refuses 0 res.numbers ∨ res.key ∉ taken ∧ PartsRefused moment res

/-- The tables with the rows of one more result. -/
def Tables.saved (s : Tables) (row : ResultRow) (metrics : List MetricRow) (calls : List ToolCallRow) : Tables :=
  ((s.withResult row).withMetrics metrics).withToolCalls calls

/-- The rows of the result, which is the next one. -/
structure Saved (s : Tables) (res : BenchmarkResult) (row : ResultRow) (metrics : List MetricRow)
    (calls : List ToolCallRow) : Prop where
  row : WrittenAs (s.resultSeq + 1) res row
  metrics : MetricsWritten (s.resultSeq + 1) s.metricSeq res.benchmarkMetrics metrics
  calls : CallsWritten (s.resultSeq + 1) s.toolCallSeq res.toolCallResults calls

section Save

variable {s : Tables}

/-- What refers to a result refers to no later one. -/
theorem Tables.Valid.metric_le (hs : s.Valid) {row : MetricRow} (hrow : row ∈ s.metrics) : row.resultId ≤ s.resultSeq := by
  obtain ⟨result, hresult, hid⟩ := List.mem_map.mp (hs.metricParents row hrow)
  exact hid ▸ hs.results.bounded result hresult

theorem Tables.Valid.toolCall_le (hs : s.Valid) {row : ToolCallRow} (hrow : row ∈ s.toolCalls) :
    row.resultId ≤ s.resultSeq := by
  obtain ⟨result, hresult, hid⟩ := List.mem_map.mp (hs.toolCallParents row hrow)
  exact hid ▸ hs.results.bounded result hresult

/-- **`save`**: it throws and changes nothing, for a duplicate or for another reason, or the result is saved. -/
theorem save_cases (hs : s.Valid) (moment : Moment) (res : BenchmarkResult) :
    Refused s.keys moment res ∧ (∃ e, save moment res s = .error e s ∧ e.isDuplicate = false) ∨
    ¬Refused s.keys moment res ∧ res.key ∈ s.keys ∧ save moment res s = .error .uniqueKey s ∨
    ¬Refused s.keys moment res ∧ res.key ∉ s.keys ∧ ∃ row metrics calls,
      save moment res s = .ok (s.resultSeq + 1) (s.saved row metrics calls) ∧ Saved s res row metrics calls := by
  have hthrows : ∀ {body : Db DbError Tables ℕ}, Throws (body s) →
      ∃ e, transaction body s = .error e s ∧ e.isDuplicate = false :=
    fun ⟨e, _, he, hdup⟩ => ⟨e, transaction_of_error he, hdup⟩
  rw [save]
  rcases addResult_cases moment s res with ⟨hrow, e, s', he, hdup⟩ | ⟨hrow, hkey, he⟩ | ⟨hrow, hkey, row, hok, hwritten⟩
  · exact .inl ⟨.inl hrow, hthrows ⟨e, s', bind_of_error he, hdup⟩⟩
  · refine .inr (.inl ⟨?_, hkey, transaction_of_error (bind_of_error he)⟩)
    exact not_or.mpr ⟨hrow, fun hparts => hparts.1 hkey⟩
  · have hparent : s.resultSeq + 1 ∈ (s.withResult row).results.map ResultRow.id := by
      rw [Tables.withResult, List.map_append, ← hwritten.id_eq]
      exact List.mem_append_right _ (List.mem_singleton_self _)
    rcases addMetrics_cases moment 1 hparent res.benchmarkMetrics with ⟨hrefused, e, s', he, hdup⟩ | ⟨hmetrics, metrics, hadd, hms⟩
    · exact .inl ⟨.inr ⟨hkey, .inl hrefused⟩, hthrows ⟨e, s', (bind_of_ok hok).trans (bind_of_error he), hdup⟩⟩
    · have hfresh : s.resultSeq + 1 ∉ ((s.withResult row).withMetrics metrics).toolCalls.map ToolCallRow.resultId := by
        intro hmem
        obtain ⟨call, hcall, hid⟩ := List.mem_map.mp hmem
        exact Nat.not_succ_le_self _ (hid ▸ hs.toolCall_le hcall)
      rcases addToolCalls_cases (s := (s.withResult row).withMetrics metrics) moment (res.benchmarkMetrics.length + 1)
          hparent hfresh res.toolCallResults with
        ⟨hrefused, e, s', he, hdup⟩ | ⟨hcalls, calls, hadd', hcs⟩
      · exact .inl ⟨.inr ⟨hkey, .inr hrefused⟩,
          hthrows ⟨e, s', (bind_of_ok hok).trans ((bind_of_ok hadd).trans (bind_of_error he)), hdup⟩⟩
      · refine .inr (.inr ⟨?_, hkey, row, metrics, calls, transaction_of_ok ?_, hwritten, hms, hcs⟩)
        · exact not_or.mpr ⟨hrow, fun h => h.2.elim hmetrics hcalls⟩
        · exact (bind_of_ok hok).trans ((bind_of_ok hadd).trans (bind_of_ok hadd'))

end Save

end Benchmarker.Store
