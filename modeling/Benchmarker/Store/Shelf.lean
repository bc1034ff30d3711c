import Benchmarker.Store.Evals
import Benchmarker.Store.RoundTrip

/-!
# What the store of reports is for

* `Shelf`: the reports that are kept under an id, and the links to them. `Shelf.save`, `Shelf.link`, `Shelf.delete`.
* `insertTasks_cases`: the task results are written one by one, or the transaction throws.
* `Holds`: the tables hold what is on the shelf. **`holds_call`**: every call keeps it.
* `Shelf.Lists`, **`reads_of_calls`**: what is read after any calls.
-/

namespace Benchmarker.Store.KibanaEvalStore

open Sql

/-! ## The shelf -/

/-- What the store is for: reports under ids that are never given twice, and links from benchmark results to them. -/
structure Shelf where
  given : ℕ
  report : ℕ → Option KibanaEvalReport
  links : Set (ℕ × ℕ)

def KibanaEvalTaskResult.numbers (t : KibanaEvalTaskResult) : List JsNumber :=
  [t.durationMs, t.score, t.weightedScore, t.attempts]

def KibanaEvalReport.numbers (r : KibanaEvalReport) : List JsNumber :=
  [r.scoring.percentageScore, r.scoring.totalScore, r.scoring.maxScore, r.scoring.totalWeightedScore,
    r.scoring.maxWeightedScore, r.scoring.passedCount, r.scoring.failedCount, r.scoring.skippedCount,
    r.scoring.erroredCount, r.scoring.totalCount, r.totalDurationMs]

/-- What is read back of a task result. -/
def KibanaEvalTaskResult.stored (t : KibanaEvalTaskResult) : KibanaEvalTaskResult :=
  { t with task := { t.task with description := "", timeoutMs := some (.fin 0), retryAttempts := some (.fin 0) } }

/-- What is read back of a report. -/
def KibanaEvalReport.stored (r : KibanaEvalReport) : KibanaEvalReport :=
  { r with
    taskResults := r.taskResults.map KibanaEvalTaskResult.stored
    failedTasks := (r.taskResults.map KibanaEvalTaskResult.stored).filter KibanaEvalTaskResult.hasFailed }

/-- The task results can be written, the first by the statement `k`: no number is `NaN`, and no statement fails. -/
structure TasksWritable (moment : Moment) (k : ℕ) (taskResults : List KibanaEvalTaskResult) : Prop where
  numbers : ∀ t ∈ taskResults, none ∉ t.numbers
  fault : ∀ j < taskResults.length, moment.fault (k + j) = none

structure Writable (moment : Moment) (r : KibanaEvalReport) : Prop where
  numbers : none ∉ r.numbers
  fault : moment.fault 0 = none
  tasks : TasksWritable moment 1 r.taskResults

namespace Shelf

def empty : Shelf := ⟨0, fun _ => none, ∅⟩

/-- A report of this key is kept. -/
def Has (shelf : Shelf) (key : ReportKey) : Prop := ∃ id r, shelf.report id = some r ∧ r.key = key

open Classical in
noncomputable def save (shelf : Shelf) (moment : Moment) (r : KibanaEvalReport) : Shelf :=
  if Writable moment r ∧ ¬shelf.Has r.key then
    { shelf with given := shelf.given + 1, report := Function.update shelf.report (shelf.given + 1) (some r) }
  else shelf

open Classical in
noncomputable def link (shelf : Shelf) (moment : Moment) (evalId benchmarkResultId : ℕ) : Shelf :=
  if moment.fault 0 = none ∧ shelf.report evalId ≠ none then
    { shelf with links := insert (benchmarkResultId, evalId) shelf.links }
  else shelf

/-- A deleted report takes its links along. -/
def delete (shelf : Shelf) (moment : Moment) (id : ℕ) : Shelf :=
  if moment.fault 0 = none then
    { shelf with report := Function.update shelf.report id none, links := {p | p ∈ shelf.links ∧ p.2 ≠ id} }
  else shelf

end Shelf

noncomputable def Shelf.call (shelf : Shelf) : Call → Shelf
  | .saveReport moment report => shelf.save moment report
  | .linkToBenchmark moment evalId benchmarkResultId _ _ => shelf.link moment evalId benchmarkResultId
  | .delete moment id => shelf.delete moment id

/-! ## Rows -/

section Rows

variable {moment : Moment} {evalId id k : ℕ} {now : String} {s : EvalTables} {r : KibanaEvalReport}
  {t : KibanaEvalTaskResult} {taskResults : List KibanaEvalTaskResult} {row : EvalReportRow} {α : Type}
  {write : EvalTables → Except EvalDbError (α × EvalTables)}

theorem taskRow_cases (evalId : ℕ) (t : KibanaEvalTaskResult) :
    (none ∉ t.numbers ∧ ∃ tr, taskRow evalId t = .ok tr ∧ tr.evalId = evalId ∧ tr.hydrate = t.stored) ∨
      none ∈ t.numbers ∧ ∃ e, taskRow evalId t = .error e := by
  rcases t with ⟨task, outcome, _ | durationMs, message, error, score, weightedScore, attempts, metadata⟩
  · exact .inr ⟨by simp [KibanaEvalTaskResult.numbers], _, rfl⟩
  rcases score with _ | score
  · exact .inr ⟨by simp [KibanaEvalTaskResult.numbers], _, rfl⟩
  rcases weightedScore with _ | weightedScore
  · exact .inr ⟨by simp [KibanaEvalTaskResult.numbers], _, rfl⟩
  rcases attempts with _ | attempts
  · exact .inr ⟨by simp [KibanaEvalTaskResult.numbers], _, rfl⟩
  · exact .inl ⟨by simp [KibanaEvalTaskResult.numbers], _, rfl, rfl, rfl⟩

theorem classificationOf_text (c : KibanaEvalClassification) : classificationOf c.text = some c := by
  cases c <;> decide

/-- The row is of the report, and reads back as what is stored of it. -/
structure WrittenAs (s : EvalTables) (row : EvalReportRow) (r : KibanaEvalReport) : Prop where
  key : rowKey row = r.key
  hydrate : hydrateReport s row = some r.stored

theorem reportRow_cases (id : ℕ) (now : String) (r : KibanaEvalReport) :
    (none ∉ r.numbers ∧ ∃ row, reportRow id now r = .ok row ∧ row.id = id ∧ rowKey row = r.key ∧
      ∀ s : EvalTables, (s.tasks.filter fun tr => tr.evalId = id).map TaskResultRow.hydrate =
        r.taskResults.map KibanaEvalTaskResult.stored → hydrateReport s row = some r.stored) ∨
      none ∈ r.numbers ∧ ∃ e, reportRow id now r = .error e := by
  rcases r with ⟨modelId, connectorId, timestamp, classification, summary, scoring, taskResults, failedTasks,
    totalDurationMs, evalConfig⟩
  rcases scoring with ⟨totalScore, maxScore, totalWeightedScore, maxWeightedScore, _ | percentageScore, passedCount,
    failedCount, skippedCount, erroredCount, totalCount⟩
  · exact .inr ⟨by simp [KibanaEvalReport.numbers], _, rfl⟩
  rcases totalScore with _ | totalScore
  · exact .inr ⟨by simp [KibanaEvalReport.numbers], _, rfl⟩
  rcases maxScore with _ | maxScore
  · exact .inr ⟨by simp [KibanaEvalReport.numbers], _, rfl⟩
  rcases totalWeightedScore with _ | totalWeightedScore
  · exact .inr ⟨by simp [KibanaEvalReport.numbers], _, rfl⟩
  rcases maxWeightedScore with _ | maxWeightedScore
  · exact .inr ⟨by simp [KibanaEvalReport.numbers], _, rfl⟩
  rcases passedCount with _ | passedCount
  · exact .inr ⟨by simp [KibanaEvalReport.numbers], _, rfl⟩
  rcases failedCount with _ | failedCount
  · exact .inr ⟨by simp [KibanaEvalReport.numbers], _, rfl⟩
  rcases skippedCount with _ | skippedCount
  · exact .inr ⟨by simp [KibanaEvalReport.numbers], _, rfl⟩
  rcases erroredCount with _ | erroredCount
  · exact .inr ⟨by simp [KibanaEvalReport.numbers], _, rfl⟩
  rcases totalCount with _ | totalCount
  · exact .inr ⟨by simp [KibanaEvalReport.numbers], _, rfl⟩
  rcases totalDurationMs with _ | totalDurationMs
  · exact .inr ⟨by simp [KibanaEvalReport.numbers], _, rfl⟩
  refine .inl ⟨by simp [KibanaEvalReport.numbers], _, rfl, rfl, rfl, fun s htasks => ?_⟩
  rw [hydrateReport, classificationOf_text, htasks]
  rfl

/-! ## Statements -/

theorem run_of_fault (h : moment.fault k ≠ none) : ∃ e, run moment k write s = .error e s := by
  obtain ⟨f, hf⟩ := Option.ne_none_iff_exists'.mp h
  exact ⟨.fault f, by rw [run, hf]; rfl⟩

theorem run_of_none (h : moment.fault k = none) : run moment k write s = statement none write s := by
  rw [run, h]
  rfl

theorem tasksWritable_cons : TasksWritable moment k (t :: taskResults) ↔
    none ∉ t.numbers ∧ moment.fault k = none ∧ TasksWritable moment (k + 1) taskResults := by
  have hnext : ∀ j, k + (j + 1) = k + 1 + j := fun j => by omega
  constructor
  · intro h
    refine ⟨h.numbers t List.mem_cons_self, h.fault 0 (Nat.succ_pos _), fun u hu => ?_, fun j hj => ?_⟩
    · exact h.numbers u (List.mem_cons_of_mem _ hu)
    · rw [← hnext]
      exact h.fault (j + 1) (Nat.succ_lt_succ hj)
  · rintro ⟨hnumbers, hfault, h⟩
    refine ⟨List.forall_mem_cons.mpr ⟨hnumbers, h.numbers⟩, fun j hj => ?_⟩
    cases j with
    | zero => exact hfault
    | succ j =>
      rw [hnext]
      exact h.fault j (Nat.lt_of_succ_lt_succ hj)

/-- The rows of task results are written behind the others, or a statement throws. -/
theorem insertTasks_cases (hparent : evalId ∈ s.reports.map EvalReportRow.id) :
    (TasksWritable moment k taskResults ∧ ∃ rows : List TaskResultRow,
      insertTasks moment evalId k taskResults s = .ok () { s with tasks := s.tasks ++ rows } ∧
      (∀ tr ∈ rows, tr.evalId = evalId) ∧ rows.map TaskResultRow.hydrate = taskResults.map KibanaEvalTaskResult.stored) ∨
      ¬TasksWritable moment k taskResults ∧ ∃ e s', insertTasks moment evalId k taskResults s = .error e s' := by
  induction taskResults generalizing s k with
  | nil =>
    refine .inl ⟨⟨List.forall_mem_nil _, fun j hj => absurd hj (Nat.not_lt_zero j)⟩, [], ?_, List.forall_mem_nil _, rfl⟩
    rw [List.append_nil]
    rfl
  | cons t rest ih =>
    rw [insertTasks, tasksWritable_cons]
    by_cases hfault : moment.fault k = none
    · rcases taskRow_cases evalId t with ⟨hnumbers, tr, htr, hid, hhydrate⟩ | ⟨hnan, e, he⟩
      · have hwrite : insertTask evalId t s = .ok ((), { s with tasks := s.tasks ++ [tr] }) := by
          rw [insertTask, htr]
          show (if evalId ∉ s.reports.map EvalReportRow.id then _ else _) = _
          rw [if_neg (not_not_intro hparent)]
          rfl
        have hrun : run moment k (insertTask evalId t) s = .ok () { s with tasks := s.tasks ++ [tr] } :=
          (run_of_none hfault).trans (statement_of_ok hwrite)
        rw [bind_of_ok hrun]
        rcases ih (s := { s with tasks := s.tasks ++ [tr] }) (k := k + 1) hparent with
          ⟨hwritable, rows, hok, hids, hrows⟩ | ⟨hno, hthrows⟩
        · refine .inl ⟨⟨hnumbers, hfault, hwritable⟩, tr :: rows, ?_, List.forall_mem_cons.mpr ⟨hid, hids⟩, ?_⟩
          · rw [hok, List.append_assoc, List.singleton_append]
          · rw [List.map_cons, List.map_cons, hhydrate, hrows]
        · exact .inr ⟨fun h => hno h.2.2, hthrows⟩
      · have hwrite : insertTask evalId t s = .error e := by
          rw [insertTask, he]
          rfl
        have hrun : run moment k (insertTask evalId t) s = .error e s :=
          (run_of_none hfault).trans (statement_of_error hwrite)
        exact .inr ⟨fun h => h.1 hnan, e, s, bind_of_error hrun⟩
    · obtain ⟨e, hrun⟩ := @run_of_fault moment k s _ (insertTask evalId t) hfault
      exact .inr ⟨fun h => hfault h.2.1, e, s, bind_of_error hrun⟩

end Rows

/-! ## The tables hold the shelf -/

def BenchmarkEvalLink.pair (link : BenchmarkEvalLink) : ℕ × ℕ := (link.benchmarkResultId, link.kibanaEvalId)

def EvalTables.ids (s : EvalTables) : List ℕ := s.reports.map EvalReportRow.id

structure Holds (s : EvalTables) (shelf : Shelf) : Prop where
  numbered : Numbered EvalReportRow.id s.reports s.reportSeq
  given : shelf.given = s.reportSeq
  written : ∀ row ∈ s.reports, ∃ r, shelf.report row.id = some r ∧ WrittenAs s row r
  kept : ∀ id r, shelf.report id = some r → id ∈ s.ids
  tasks : ∀ tr ∈ s.tasks, tr.evalId ∈ s.ids
  linked : ∀ b id, (b, id) ∈ shelf.links ↔ (b, id) ∈ s.links.map BenchmarkEvalLink.pair
  once : (s.links.map BenchmarkEvalLink.pair).Nodup
  parents : ∀ link ∈ s.links, link.kibanaEvalId ∈ s.ids

theorem holds_empty : Holds {} Shelf.empty where
  numbered := numbered_nil
  given := rfl
  written := List.forall_mem_nil _
  kept _ _ h := absurd h.symm (Option.some_ne_none _)
  tasks := List.forall_mem_nil _
  linked _ _ := iff_of_false id List.not_mem_nil
  once := List.nodup_nil
  parents := List.forall_mem_nil _

section Holds

variable {s s' : EvalTables} {shelf : Shelf} {moment : Moment} {r : KibanaEvalReport} {id evalId b : ℕ}
  {row : EvalReportRow}

/-- What is read of a row depends on the task results of its own. -/
theorem hydrateReport_congr
    (h : (s'.tasks.filter fun tr => tr.evalId = row.id) = s.tasks.filter fun tr => tr.evalId = row.id) :
    hydrateReport s' row = hydrateReport s row := by
  rw [hydrateReport, hydrateReport, h]

theorem Holds.mem_ids_iff (h : Holds s shelf) : id ∈ s.ids ↔ ∃ r, shelf.report id = some r := by
  constructor
  · intro hid
    obtain ⟨row, hrow, rfl⟩ := List.mem_map.mp hid
    obtain ⟨r, hr, -⟩ := h.written row hrow
    exact ⟨r, hr⟩
  · rintro ⟨r, hr⟩
    exact h.kept id r hr

/-- A key is taken on the shelf if and only if it is in the table. -/
theorem Holds.has_iff (h : Holds s shelf) {key : ReportKey} : shelf.Has key ↔ key ∈ s.reports.map rowKey := by
  constructor
  · rintro ⟨id, r, hr, rfl⟩
    obtain ⟨row, hrow, rfl⟩ := List.mem_map.mp (h.kept id r hr)
    obtain ⟨r', hr', hwritten⟩ := h.written row hrow
    obtain rfl := Option.some.inj (hr.symm.trans hr')
    exact List.mem_map.mpr ⟨row, hrow, hwritten.key⟩
  · intro hkey
    obtain ⟨row, hrow, rfl⟩ := List.mem_map.mp hkey
    obtain ⟨r, hr, hwritten⟩ := h.written row hrow
    exact ⟨row.id, r, hr, hwritten.key.symm⟩

theorem Holds.fresh (h : Holds s shelf) : s.reportSeq + 1 ∉ s.ids := by
  intro hmem
  obtain ⟨row, hrow, hid⟩ := List.mem_map.mp hmem
  exact absurd (h.numbered.bounded row hrow) (by rw [hid]; exact Nat.not_succ_le_self _)

/-- A new row, and the rows of its task results. -/
theorem Holds.concat (h : Holds s shelf) {rows : List TaskResultRow} (hid : row.id = s.reportSeq + 1)
    (hrows : ∀ tr ∈ rows, tr.evalId = s.reportSeq + 1)
    (hwritten : WrittenAs { s with tasks := s.tasks ++ rows } row r) :
    Holds { s with reports := s.reports ++ [row], tasks := s.tasks ++ rows, reportSeq := s.reportSeq + 1 }
      { shelf with given := shelf.given + 1, report := Function.update shelf.report (shelf.given + 1) (some r) } := by
  have hids : ∀ id, id ∈ (s.reports ++ [row]).map EvalReportRow.id ↔ id ∈ s.ids ∨ id = s.reportSeq + 1 := fun id => by
    rw [List.map_append, List.mem_append, List.map_singleton, List.mem_singleton, hid]
    rfl
  rw [h.given]
  refine ⟨numbered_concat h.numbered hid, rfl, fun old hold => ?_, fun id' r' hr' => ?_, fun tr htr => ?_, h.linked,
    h.once, fun link hlink => ?_⟩
  · rcases List.mem_append.mp hold with hold | hnew
    · have hne : old.id ≠ s.reportSeq + 1 := fun heq => h.fresh (heq ▸ List.mem_map_of_mem hold)
      obtain ⟨r', hr', hkey, hhydrate⟩ := h.written old hold
      refine ⟨r', (Function.update_of_ne hne _ _).trans hr', hkey, (hydrateReport_congr ?_).trans hhydrate⟩
      have hnone : (rows.filter fun tr => tr.evalId = old.id) = [] :=
        List.filter_eq_nil_iff.mpr fun tr htr => by simpa [hrows tr htr] using Ne.symm hne
      show (s.tasks ++ rows).filter _ = _
      rw [List.filter_append, hnone, List.append_nil]
    · obtain rfl := List.mem_singleton.mp hnew
      refine ⟨r, ?_, hwritten.key, hwritten.hydrate⟩
      rw [hid]
      exact Function.update_self ..
  · refine (hids id').mpr ?_
    by_cases hnew : id' = s.reportSeq + 1
    · exact .inr hnew
    · exact .inl (h.kept id' r' ((Function.update_of_ne hnew _ _).symm.trans hr'))
  · refine (hids tr.evalId).mpr ?_
    rcases List.mem_append.mp htr with hold | hnew
    · exact .inl (h.tasks tr hold)
    · exact .inr (hrows tr hnew)
  · exact (hids _).mpr (.inl (h.parents link hlink))

theorem Holds.saveReport (h : Holds s shelf) : Holds (left (saveReport moment r s)) (shelf.save moment r) := by
  have hthrown : ∀ {e s'}, (run moment 0 (insertReport moment.now r) >>= fun evalId =>
      insertTasks moment evalId 1 r.taskResults >>= fun _ => pure evalId) s = .error e s' →
      ¬(Writable moment r ∧ ¬shelf.Has r.key) →
      Holds (left (KibanaEvalStore.saveReport moment r s)) (shelf.save moment r) := by
    intro e s' he hno
    rw [KibanaEvalStore.saveReport, transaction_of_error he, Shelf.save, if_neg hno]
    exact h
  by_cases hfault : moment.fault 0 = none
  · rcases reportRow_cases (s.reportSeq + 1) moment.now r with ⟨hnumbers, row, hrow, hid, hkey, hhydrate⟩ | ⟨hnan, e, he⟩
    · have hinsert : insertReport moment.now r s = if rowKey row ∈ s.reports.map rowKey then .error .uniqueReport
          else .ok (s.reportSeq + 1, { s with reports := s.reports ++ [row], reportSeq := s.reportSeq + 1 }) := by
        rw [insertReport, hrow, ← hid]
        show (if rowKey row ∈ s.reports.map rowKey then _ else _) = _
        split_ifs <;> rfl
      by_cases hdup : rowKey row ∈ s.reports.map rowKey
      · rw [if_pos hdup] at hinsert
        refine hthrown (bind_of_error ((run_of_none hfault).trans (statement_of_error hinsert))) fun hsave => ?_
        exact hsave.2 (h.has_iff.mpr (hkey ▸ hdup))
      · rw [if_neg hdup] at hinsert
        have hrun := (run_of_none hfault).trans (statement_of_ok hinsert)
        have hparent : s.reportSeq + 1 ∈ (s.reports ++ [row]).map EvalReportRow.id := by
          rw [List.map_append, List.mem_append, List.map_singleton, List.mem_singleton]
          exact .inr hid.symm
        rcases @insertTasks_cases moment (s.reportSeq + 1) 1
          { s with reports := s.reports ++ [row], reportSeq := s.reportSeq + 1 } r.taskResults hparent with
          ⟨hwritable, rows, hok, hids, hrows⟩ | ⟨hno, e, s', he⟩
        · have hsaved : KibanaEvalStore.saveReport moment r s = .ok (s.reportSeq + 1)
              { s with reports := s.reports ++ [row], tasks := s.tasks ++ rows, reportSeq := s.reportSeq + 1 } :=
            transaction_of_ok ((bind_of_ok hrun).trans (bind_of_ok hok))
          have hsaves : Writable moment r ∧ ¬shelf.Has r.key :=
            ⟨⟨hnumbers, hfault, hwritable⟩, fun hhas => hdup (hkey ▸ h.has_iff.mp hhas)⟩
          rw [hsaved, Shelf.save, if_pos hsaves]
          refine h.concat hid hids ⟨hkey, hhydrate _ ?_⟩
          have hnone : (s.tasks.filter fun tr => tr.evalId = s.reportSeq + 1) = [] :=
            List.filter_eq_nil_iff.mpr fun tr htr => by
              have hne : tr.evalId ≠ s.reportSeq + 1 := fun heq => h.fresh (heq ▸ h.tasks tr htr)
              simpa using hne
          have hall : (rows.filter fun tr => tr.evalId = s.reportSeq + 1) = rows :=
            List.filter_eq_self.mpr fun tr htr => decide_eq_true (hids tr htr)
          show ((s.tasks ++ rows).filter _).map _ = _
          rw [List.filter_append, hnone, hall, List.nil_append, hrows]
        · exact hthrown ((bind_of_ok hrun).trans (bind_of_error he)) fun hsave => hno hsave.1.tasks
    · have hinsert : insertReport moment.now r s = .error e := by
        rw [insertReport, he]
        rfl
      exact hthrown (bind_of_error ((run_of_none hfault).trans (statement_of_error hinsert))) fun hsave =>
        hsave.1.numbers hnan
  · obtain ⟨e, hrun⟩ := @run_of_fault moment 0 s _ (insertReport moment.now r) hfault
    exact hthrown (bind_of_error hrun) fun hsave => hfault hsave.1.fault

theorem mem_pairs_iff : (s.links.any fun l => l.benchmarkResultId = b && l.kibanaEvalId = evalId) = true ↔
    (b, evalId) ∈ s.links.map BenchmarkEvalLink.pair := by
  simp [BenchmarkEvalLink.pair, List.any_eq_true]

theorem Holds.linkToBenchmark (h : Holds s shelf) (modelId connectorId : String) :
    Holds (left (linkToBenchmark moment evalId b modelId connectorId s)) (shelf.link moment evalId b) := by
  by_cases hfault : moment.fault 0 = none
  · rw [KibanaEvalStore.linkToBenchmark, run_of_none hfault]
    by_cases hlinked : (b, evalId) ∈ s.links.map BenchmarkEvalLink.pair
    · have hinsert : insertLink { benchmarkResultId := b, kibanaEvalId := evalId, modelId, connectorId } s = .ok ((), s) :=
        if_pos (mem_pairs_iff.mpr hlinked)
      rw [statement_of_ok hinsert]
      have hsame : shelf.link moment evalId b = shelf := by
        rw [Shelf.link, Set.insert_eq_of_mem ((h.linked b evalId).mpr hlinked)]
        exact ite_self shelf
      rwa [hsame]
    · have hnot : ¬(s.links.any fun l => l.benchmarkResultId = b && l.kibanaEvalId = evalId) = true := fun hany =>
        hlinked (mem_pairs_iff.mp hany)
      by_cases hid : evalId ∈ s.ids
      · have hinsert : insertLink { benchmarkResultId := b, kibanaEvalId := evalId, modelId, connectorId } s =
            .ok ((), { s with links := s.links ++ [⟨b, evalId, modelId, connectorId⟩] }) :=
          (if_neg hnot).trans (if_neg (not_not_intro hid))
        obtain ⟨r, hr⟩ := h.mem_ids_iff.mp hid
        have hlinks : moment.fault 0 = none ∧ shelf.report evalId ≠ none := ⟨hfault, by rw [hr]; exact Option.some_ne_none r⟩
        rw [statement_of_ok hinsert, Shelf.link, if_pos hlinks]
        refine ⟨h.numbered, h.given, fun row hrow => ?_, h.kept, h.tasks, fun b' id' => ?_, ?_, fun link hlink => ?_⟩
        · obtain ⟨r, hr, hkey, hhydrate⟩ := h.written row hrow
          exact ⟨r, hr, hkey, hhydrate⟩
        · show (b', id') ∈ insert (b, evalId) shelf.links ↔ (b', id') ∈ (s.links ++ [_]).map BenchmarkEvalLink.pair
          rw [Set.mem_insert_iff, h.linked, List.map_append, List.mem_append, List.map_singleton, List.mem_singleton]
          exact or_comm
        · show ((s.links ++ [_]).map BenchmarkEvalLink.pair).Nodup
          rw [List.map_append, List.map_singleton]
          refine List.nodup_append.mpr ⟨h.once, List.nodup_singleton _, fun p hp q hq hpq => hlinked ?_⟩
          rwa [hpq, List.mem_singleton.mp hq] at hp
        · rcases List.mem_append.mp hlink with hold | hnew
          · exact h.parents link hold
          · rw [List.mem_singleton.mp hnew]
            exact hid
      · have hinsert : insertLink { benchmarkResultId := b, kibanaEvalId := evalId, modelId, connectorId } s =
            .error .foreignKey := (if_neg hnot).trans (if_pos hid)
        have hno : ¬(moment.fault 0 = none ∧ shelf.report evalId ≠ none) := fun hlinks =>
          hid (h.mem_ids_iff.mpr (Option.ne_none_iff_exists'.mp hlinks.2))
        rw [statement_of_error hinsert, Shelf.link, if_neg hno]
        exact h
  · obtain ⟨e, hrun⟩ := @run_of_fault moment 0 s _
      (insertLink { benchmarkResultId := b, kibanaEvalId := evalId, modelId, connectorId }) hfault
    rw [KibanaEvalStore.linkToBenchmark, hrun, Shelf.link, if_neg fun hlinks => hfault hlinks.1]
    exact h

/-- What refers to another report than the deleted one still does. -/
theorem mem_ids_filter (hid : evalId ∈ s.ids) (hne : evalId ≠ id) :
    evalId ∈ (s.reports.filter fun row => row.id ≠ id).map EvalReportRow.id := by
  obtain ⟨row, hrow, rfl⟩ := List.mem_map.mp hid
  exact List.mem_map_of_mem (List.mem_filter.mpr ⟨hrow, decide_eq_true hne⟩)

theorem Holds.delete (h : Holds s shelf) : Holds (left (delete moment id s)) (shelf.delete moment id) := by
  by_cases hfault : moment.fault 0 = none
  · have hdelete : deleteReport id s = .ok (s.reports.any fun row => row.id = id, _) := rfl
    rw [KibanaEvalStore.delete, run_of_none hfault, statement_of_ok hdelete, Shelf.delete, if_pos hfault]
    refine ⟨numbered_filter _ h.numbered, h.given, fun row hrow => ?_, fun id' r hr => ?_, fun tr htr => ?_,
      fun b' id' => ?_, h.once.sublist (List.filter_sublist.map _), fun link hlink => ?_⟩
    · obtain ⟨hrow, hne⟩ := List.mem_filter.mp hrow
      have hne : row.id ≠ id := of_decide_eq_true hne
      obtain ⟨r, hr, hkey, hhydrate⟩ := h.written row hrow
      refine ⟨r, (Function.update_of_ne hne _ _).trans hr, hkey, (hydrateReport_congr ?_).trans hhydrate⟩
      show (s.tasks.filter fun tr => tr.evalId ≠ id).filter _ = _
      rw [List.filter_filter]
      refine List.filter_congr fun tr _ => ?_
      by_cases htr : tr.evalId = row.id
      · simp [htr, hne]
      · simp [htr]
    · have hne : id' ≠ id := by
        rintro rfl
        exact absurd ((Function.update_self _ _ _).symm.trans hr) (Option.some_ne_none r).symm
      exact mem_ids_filter (h.kept id' r ((Function.update_of_ne hne _ _).symm.trans hr)) hne
    · obtain ⟨htr, hne⟩ := List.mem_filter.mp htr
      exact mem_ids_filter (h.tasks tr htr) (of_decide_eq_true hne)
    · show (b', id') ∈ shelf.links ∧ id' ≠ id ↔ _
      rw [h.linked, List.mem_map, List.mem_map]
      constructor
      · rintro ⟨⟨link, hlink, hpair⟩, hne⟩
        refine ⟨link, List.mem_filter.mpr ⟨hlink, decide_eq_true ?_⟩, hpair⟩
        rwa [(Prod.mk.inj hpair).2]
      · rintro ⟨link, hlink, hpair⟩
        obtain ⟨hlink, hne⟩ := List.mem_filter.mp hlink
        refine ⟨⟨link, hlink, hpair⟩, ?_⟩
        rw [← (Prod.mk.inj hpair).2]
        exact of_decide_eq_true hne
    · obtain ⟨hlink, hne⟩ := List.mem_filter.mp hlink
      exact mem_ids_filter (h.parents link hlink) (of_decide_eq_true hne)
  · obtain ⟨e, hrun⟩ := @run_of_fault moment 0 s _ (deleteReport id) hfault
    rw [KibanaEvalStore.delete, hrun, Shelf.delete, if_neg hfault]
    exact h

theorem holds_call (h : Holds s shelf) (c : Call) : Holds (s.call c) (shelf.call c) := by
  cases c with
  | saveReport moment report => exact h.saveReport
  | linkToBenchmark moment evalId b modelId connectorId => exact h.linkToBenchmark modelId connectorId
  | delete moment id => exact h.delete

theorem holds_foldl (h : Holds s shelf) (calls : List Call) :
    Holds (calls.foldl EvalTables.call s) (calls.foldl Shelf.call shelf) := by
  induction calls generalizing s shelf with
  | nil => exact h
  | cons c calls ih => exact ih (holds_call h c)

end Holds

/-! ## What is read -/

/-- Reports that the list of a benchmark result may show: those that are linked to it, each once, the latest first. -/
def Shelf.Lists (shelf : Shelf) (b : ℕ) (kept : List KibanaEvalReport) : Prop :=
  ∃ ids : List ℕ, ids.Nodup ∧ (∀ id, id ∈ ids ↔ (b, id) ∈ shelf.links) ∧ ids.map shelf.report = kept.map some ∧
    kept.Pairwise fun r r' => r'.timestamp ≤ r.timestamp

section Reading

variable {s : EvalTables} {shelf : Shelf} {id b : ℕ} {row row' : EvalReportRow} {out : List KibanaEvalReport}

theorem Holds.nodup (h : Holds s shelf) : s.ids.Nodup :=
  List.pairwise_map.mpr (h.numbered.ordered.imp Nat.ne_of_lt)

/-- The row with an id. -/
theorem Holds.find_eq_some_iff (h : Holds s shelf) :
    (s.reports.find? fun row => row.id = id) = some row ↔ row ∈ s.reports ∧ row.id = id := by
  constructor
  · intro hfind
    exact ⟨List.mem_of_find?_eq_some hfind, by simpa using List.find?_some hfind⟩
  · rintro ⟨hrow, rfl⟩
    cases hfind : s.reports.find? fun r => r.id = row.id with
    | none => exact absurd (decide_eq_true rfl) (List.find?_eq_none.mp hfind row hrow)
    | some row' =>
      have hid : row'.id = row.id := by simpa using List.find?_some hfind
      rw [List.inj_on_of_nodup_map h.nodup (List.mem_of_find?_eq_some hfind) hrow hid]

theorem Holds.hydrate (h : Holds s shelf) (hrow : row ∈ s.reports) :
    hydrateReport s row = (shelf.report row.id).map KibanaEvalReport.stored := by
  obtain ⟨r, hr, hwritten⟩ := h.written row hrow
  rw [hr, hwritten.hydrate]
  rfl

theorem Holds.getById (h : Holds s shelf) (id : ℕ) :
    getById s id = (shelf.report id).map KibanaEvalReport.stored := by
  rw [KibanaEvalStore.getById]
  cases hfind : s.reports.find? fun row => row.id = id with
  | none =>
    cases hr : shelf.report id with
    | none => rfl
    | some r =>
      obtain ⟨row, hrow, hid⟩ := List.mem_map.mp (h.kept id r hr)
      exact absurd (decide_eq_true hid) (List.find?_eq_none.mp hfind row hrow)
  | some row =>
    obtain ⟨hrow, rfl⟩ := h.find_eq_some_iff.mp hfind
    exact h.hydrate hrow

/-- The ids of the rows of a join are those of its links. -/
theorem Holds.ids_joined (h : Holds s shelf) (b : ℕ) : (joined s b).map EvalReportRow.id =
    (s.links.filter fun l => l.benchmarkResultId = b).map BenchmarkEvalLink.kibanaEvalId := by
  have hone : ∀ id ∈ s.ids, (s.reports.filter fun r => r.id = id).map EvalReportRow.id = [id] := fun id hid => by
    have hmap : (s.reports.filter fun r => r.id = id).map EvalReportRow.id = s.ids.filter fun id' => id' = id := by
      rw [EvalTables.ids, List.filter_map]
      rfl
    rw [hmap, List.filter_eq, List.count_eq_one_of_mem h.nodup hid, List.replicate_one]
  have hall : ∀ links : List BenchmarkEvalLink, (∀ l ∈ links, l.kibanaEvalId ∈ s.ids) →
      (links.flatMap fun l => if l.benchmarkResultId = b then s.reports.filter fun r => r.id = l.kibanaEvalId else []).map
        EvalReportRow.id = (links.filter fun l => l.benchmarkResultId = b).map BenchmarkEvalLink.kibanaEvalId := by
    intro links hlinks
    induction links with
    | nil => rfl
    | cons l links ih =>
      obtain ⟨hl, hlinks⟩ := List.forall_mem_cons.mp hlinks
      rw [List.flatMap_cons, List.map_append, ih hlinks, List.filter_cons]
      by_cases hb : l.benchmarkResultId = b
      · rw [if_pos hb, hone _ hl, if_pos (decide_eq_true hb)]
        rfl
      · rw [if_neg hb, if_neg (by simpa using hb)]
        rfl
  exact hall s.links h.parents

theorem Holds.mem_joined_iff (h : Holds s shelf) : row ∈ joined s b ↔ row ∈ s.reports ∧ (b, row.id) ∈ shelf.links := by
  rw [h.linked, joined, List.mem_flatMap, List.mem_map]
  constructor
  · rintro ⟨l, hl, hrow⟩
    split_ifs at hrow with hb
    · obtain ⟨hrow, hid⟩ := List.mem_filter.mp hrow
      exact ⟨hrow, l, hl, by rw [BenchmarkEvalLink.pair, hb, of_decide_eq_true hid]⟩
    · exact absurd hrow List.not_mem_nil
  · rintro ⟨hrow, l, hl, hpair⟩
    obtain ⟨hb, hid⟩ := Prod.mk.inj hpair
    refine ⟨l, hl, ?_⟩
    rw [if_pos hb]
    exact List.mem_filter.mpr ⟨hrow, decide_eq_true hid.symm⟩

theorem Holds.nodup_joined (h : Holds s shelf) (b : ℕ) : ((joined s b).map EvalReportRow.id).Nodup := by
  rw [h.ids_joined]
  have hpairs : (s.links.filter fun l => l.benchmarkResultId = b).Pairwise fun l l' => l.pair ≠ l'.pair :=
    List.Pairwise.sublist List.filter_sublist (List.pairwise_map.mp h.once)
  refine List.pairwise_map.mpr (hpairs.imp_of_mem fun {l l'} hl hl' hne hid => hne ?_)
  have hb : l.benchmarkResultId = b := by simpa using (List.mem_filter.mp hl).2
  have hb' : l'.benchmarkResultId = b := by simpa using (List.mem_filter.mp hl').2
  rw [BenchmarkEvalLink.pair, BenchmarkEvalLink.pair, hb, hb', hid]

/-- **The list of a benchmark result** shows what is linked to it. -/
theorem Holds.linked_iff (h : Holds s shelf) (b : ℕ) (out : List KibanaEvalReport) :
    Linked s b out ↔ ∃ kept, shelf.Lists b kept ∧ out = kept.map KibanaEvalReport.stored := by
  have hread : ∀ {rows : List EvalReportRow} {kept : List KibanaEvalReport}, (∀ row ∈ rows, row ∈ s.reports) →
      rows.map (fun row => shelf.report row.id) = kept.map some →
      rows.map (hydrateReport s) = (kept.map KibanaEvalReport.stored).map some ∧
        kept.map KibanaEvalReport.timestamp = rows.map EvalReportRow.timestamp := by
    intro rows kept hrows hkept
    constructor
    · have hstored : rows.map (hydrateReport s) =
          (rows.map fun row => shelf.report row.id).map (Option.map KibanaEvalReport.stored) := by
        rw [List.map_map]
        exact List.map_congr_left fun row hrow => h.hydrate (hrows row hrow)
      rw [hstored, hkept, List.map_map, List.map_map]
      rfl
    · have hstamps : (rows.map fun row => shelf.report row.id).map (Option.map KibanaEvalReport.timestamp) =
          (rows.map EvalReportRow.timestamp).map some := by
        rw [List.map_map, List.map_map]
        refine List.map_congr_left fun row hrow => ?_
        obtain ⟨r, hr, hkey, -⟩ := h.written row (hrows row hrow)
        show (shelf.report row.id).map KibanaEvalReport.timestamp = some row.timestamp
        rw [hr]
        exact congrArg some (Prod.mk.inj (Prod.mk.inj hkey).2).2.symm
      rw [hkept, List.map_map] at hstamps
      refine List.map_injective_iff.mpr (Option.some_injective _) ?_
      rw [← hstamps, List.map_map]
      rfl
  constructor
  · rintro ⟨rows, hperm, hsorted, hout⟩
    have hrows : ∀ row ∈ rows, row ∈ s.reports := fun row hrow => (h.mem_joined_iff.mp (hperm.mem_iff.mp hrow)).1
    obtain ⟨kept, hkept⟩ := exists_map_some (f := fun row : EvalReportRow => shelf.report row.id) fun row hrow => by
      obtain ⟨r, hr, -⟩ := h.written row (hrows row hrow)
      exact ⟨r, hr⟩
    obtain ⟨hhydrate, hstamps⟩ := hread hrows hkept
    refine ⟨kept, ⟨rows.map EvalReportRow.id, (hperm.map _).nodup_iff.mpr (h.nodup_joined b), fun id => ?_, ?_, ?_⟩, ?_⟩
    · rw [List.mem_map]
      constructor
      · rintro ⟨row, hrow, rfl⟩
        exact (h.mem_joined_iff.mp (hperm.mem_iff.mp hrow)).2
      · intro hlink
        obtain ⟨l, hl, hpair⟩ := List.mem_map.mp ((h.linked b id).mp hlink)
        obtain ⟨row, hrow, hid⟩ := List.mem_map.mp (h.parents l hl)
        rw [(Prod.mk.inj hpair).2] at hid
        exact ⟨row, hperm.mem_iff.mpr (h.mem_joined_iff.mpr ⟨hrow, hid ▸ hlink⟩), hid⟩
    · rw [List.map_map]
      exact hkept
    · refine (List.pairwise_map (f := KibanaEvalReport.timestamp) (R := fun t t' => t' ≤ t)).mp ?_
      rw [hstamps]
      exact List.pairwise_map.mpr hsorted
    · exact List.map_injective_iff.mpr (Option.some_injective _) (hout.symm.trans hhydrate)
  · rintro ⟨kept, ⟨ids, hnodup, hids, hkept, hsorted⟩, rfl⟩
    obtain ⟨rows, hrows⟩ := exists_map_some (l := ids) (f := fun id => s.reports.find? fun row => row.id = id)
      fun id hid => by
        obtain ⟨l, hl, hpair⟩ := List.mem_map.mp ((h.linked b id).mp ((hids id).mp hid))
        obtain ⟨row, hrow, hrowid⟩ := List.mem_map.mp (h.parents l hl)
        exact ⟨row, h.find_eq_some_iff.mpr ⟨hrow, hrowid.trans (Prod.mk.inj hpair).2⟩⟩
    have hfound : ∀ row ∈ rows, row ∈ s.reports := fun row hrow => by
      obtain ⟨id, -, hfind⟩ := mem_of_map_some hrows hrow
      exact (h.find_eq_some_iff.mp hfind).1
    have hrowids : rows.map EvalReportRow.id = ids := by
      have hsame : rows.map EvalReportRow.id = ids.map id :=
        map_of_map_some (fun _ _ hfind => (h.find_eq_some_iff.mp hfind).2) hrows
      rwa [List.map_id] at hsame
    have hreports : rows.map (fun row => shelf.report row.id) = kept.map some := by
      rw [← hkept, ← hrowids, List.map_map]
      rfl
    obtain ⟨hhydrate, hstamps⟩ := hread hfound hreports
    refine ⟨rows, (List.perm_ext_iff_of_nodup (List.Nodup.of_map EvalReportRow.id (hrowids ▸ hnodup))
      (List.Nodup.of_map _ (h.nodup_joined b))).mpr fun row => ?_, ?_, hhydrate⟩
    · rw [h.mem_joined_iff, ← hids, ← hrowids]
      constructor
      · intro hrow
        exact ⟨hfound row hrow, List.mem_map_of_mem hrow⟩
      · rintro ⟨hrow, hmem⟩
        obtain ⟨row', hrow', hid⟩ := List.mem_map.mp hmem
        rwa [← List.inj_on_of_nodup_map h.nodup (hfound row' hrow') hrow hid]
    · refine (List.pairwise_map (f := EvalReportRow.timestamp) (R := fun t t' => t' ≤ t)).mp ?_
      rw [← hstamps]
      exact List.pairwise_map.mpr hsorted

end Reading

/-- **After any calls**, thrown ones among them, what is read is what the shelf keeps: a report under its id, but for
what is not stored of its tasks, and for a benchmark result the reports that are linked to it. -/
theorem reads_of_calls (calls : List Call) (id b : ℕ) (out : List KibanaEvalReport) :
    getById (calls.foldl EvalTables.call {}) id =
        ((calls.foldl Shelf.call Shelf.empty).report id).map KibanaEvalReport.stored ∧
      (Linked (calls.foldl EvalTables.call {}) b out ↔
        ∃ kept, (calls.foldl Shelf.call Shelf.empty).Lists b kept ∧ out = kept.map KibanaEvalReport.stored) :=
  ⟨(holds_foldl holds_empty calls).getById id, (holds_foldl holds_empty calls).linked_iff b out⟩

end Benchmarker.Store.KibanaEvalStore
