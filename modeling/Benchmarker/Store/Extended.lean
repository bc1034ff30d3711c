import Benchmarker.Store.Save

/-!
# Stores that have grown

* `BenchmarkResult.stored`: a result as it is read back.
* `Extended`: new rows behind the old ones, which nothing new refers to. **`hydrateResult_extended`**: the old results
  stay as they are; `extended_refl`, `extended_trans`.
* **`valid_saved`**, **`extended_saved`**: a result that is saved.
-/

namespace Benchmarker.Store

open Sql

/-- A number as it is bound. -/
def bound : JsNumber → Value
  | none => .null
  | some n => .num n

/-- The result as it is read back: its metrics in the order of their concurrency levels. -/
def BenchmarkResult.stored (res : BenchmarkResult) : BenchmarkResult :=
  { res with benchmarkMetrics := res.benchmarkMetrics.insertionSort fun a b =>
      (bound a.concurrencyLevel).le (bound b.concurrencyLevel) = true }

/-- The store has grown by the results `added`. -/
structure Extended (s : Tables) (added : List BenchmarkResult) (s' : Tables) : Prop where
  results : ∃ rows, s'.results = s.results ++ rows ∧
    rows.map (hydrateResult s') = added.map fun res => some res.stored
  metrics : ∃ rows, s'.metrics = s.metrics ++ rows ∧ ∀ row ∈ rows, s.resultSeq < row.resultId
  toolCalls : ∃ rows, s'.toolCalls = s.toolCalls ++ rows ∧ ∀ row ∈ rows, s.resultSeq < row.resultId
  resultSeq : s.resultSeq ≤ s'.resultSeq

section Reading

variable {s s' : Tables} {row : ResultRow} {resultId : ℕ} {added added' : List BenchmarkResult}

theorem metricsOf_append {new : List MetricRow} (hmetrics : s'.metrics = s.metrics ++ new)
    (hnew : ∀ m ∈ new, resultId < m.resultId) : s'.metricsOf resultId = s.metricsOf resultId := by
  have hnone : new.filter (fun m => m.resultId = resultId) = [] :=
    List.filter_eq_nil_iff.mpr fun m hm h => (hnew m hm).ne' (of_decide_eq_true h)
  rw [Tables.metricsOf, Tables.metricsOf, hmetrics, List.filter_append, hnone, List.append_nil]

theorem toolCallOf_append {new : List ToolCallRow} (hcalls : s'.toolCalls = s.toolCalls ++ new)
    (hnew : ∀ c ∈ new, resultId < c.resultId) : s'.toolCallOf resultId = s.toolCallOf resultId := by
  have hnone : new.find? (fun c => c.resultId = resultId) = none :=
    List.find?_eq_none.mpr fun c hc h => (hnew c hc).ne' (of_decide_eq_true h)
  rw [Tables.toolCallOf, Tables.toolCallOf, hcalls, List.find?_append, hnone, Option.or_none]

/-- **An old result stays as it is.** -/
theorem hydrateResult_extended (h : Extended s added s') (hrow : row.id ≤ s.resultSeq) :
    hydrateResult s' row = hydrateResult s row := by
  obtain ⟨metrics, hmetrics, hnewMetrics⟩ := h.metrics
  obtain ⟨calls, hcalls, hnewCalls⟩ := h.toolCalls
  rw [hydrateResult, hydrateResult, metricsOf_append hmetrics fun m hm => hrow.trans_lt (hnewMetrics m hm),
    toolCallOf_append hcalls fun c hc => hrow.trans_lt (hnewCalls c hc)]

theorem extended_refl : Extended s [] s where
  results := ⟨[], (List.append_nil _).symm, rfl⟩
  metrics := ⟨[], (List.append_nil _).symm, List.forall_mem_nil _⟩
  toolCalls := ⟨[], (List.append_nil _).symm, List.forall_mem_nil _⟩
  resultSeq := le_rfl

theorem extended_trans {s'' : Tables} (hs' : s'.Valid) (h : Extended s added s') (h' : Extended s' added' s'') :
    Extended s (added ++ added') s'' where
  results := by
    obtain ⟨rows, hrows, hread⟩ := h.results
    obtain ⟨rows', hrows', hread'⟩ := h'.results
    refine ⟨rows ++ rows', by rw [hrows', hrows, List.append_assoc], ?_⟩
    have hsame : rows.map (hydrateResult s'') = rows.map (hydrateResult s') := by
      refine List.map_congr_left fun row hrow => hydrateResult_extended h' (hs'.results.bounded row ?_)
      rw [hrows]
      exact List.mem_append_right _ hrow
    rw [List.map_append, List.map_append, hsame, hread, hread']
  metrics := by
    obtain ⟨rows, hrows, hnew⟩ := h.metrics
    obtain ⟨rows', hrows', hnew'⟩ := h'.metrics
    refine ⟨rows ++ rows', by rw [hrows', hrows, List.append_assoc], fun m hm => ?_⟩
    exact (List.mem_append.mp hm).elim (hnew m) fun hm => h.resultSeq.trans_lt (hnew' m hm)
  toolCalls := by
    obtain ⟨rows, hrows, hnew⟩ := h.toolCalls
    obtain ⟨rows', hrows', hnew'⟩ := h'.toolCalls
    refine ⟨rows ++ rows', by rw [hrows', hrows, List.append_assoc], fun m hm => ?_⟩
    exact (List.mem_append.mp hm).elim (hnew m) fun hm => h.resultSeq.trans_lt (hnew' m hm)
  resultSeq := h.resultSeq.trans h'.resultSeq

end Reading

/-! ## A result that is saved -/

section Saved

variable {s : Tables} {res : BenchmarkResult} {row : ResultRow} {metrics : List MetricRow} {calls : List ToolCallRow}

theorem nodup_of_length_le_one {α : Type} {l : List α} (h : l.length ≤ 1) : l.Nodup := by
  match l, h with
  | [], _ => exact List.nodup_nil
  | [a], _ => exact List.nodup_singleton a

theorem keys_saved (h : Saved s res row metrics calls) : (s.saved row metrics calls).keys = s.keys ++ [res.key] := by
  rw [← h.row.key_eq]
  exact List.map_append

/-- What is saved of a result is read back. -/
theorem hydrateResult_saved (hs : s.Valid) (h : Saved s res row metrics calls) :
    hydrateResult (s.saved row metrics calls) row = some res.stored := by
  have hid := h.row.id_eq
  have hmetrics : ((s.saved row metrics calls).metricsOf row.id).map MetricRow.hydrate = res.stored.benchmarkMetrics := by
    have hold : s.metrics.filter (fun m => m.resultId = row.id) = [] :=
      List.filter_eq_nil_iff.mpr fun m hm he =>
        Nat.not_succ_le_self _ (hid ▸ of_decide_eq_true he ▸ hs.metric_le hm)
    have hnew : metrics.filter (fun m => m.resultId = row.id) = metrics :=
      List.filter_eq_self.mpr fun m hm => decide_eq_true ((h.metrics.result m hm).trans hid.symm)
    show ((s.metrics ++ metrics).filter (fun m => m.resultId = row.id) |>.insertionSort _).map MetricRow.hydrate = _
    rw [List.filter_append, hold, hnew, List.nil_append, BenchmarkResult.stored, ← h.metrics.hydrate]
    exact List.map_insertionSort _ _ _ _ fun _ _ _ _ => Iff.rfl
  have hcalls : ((s.saved row metrics calls).toolCallOf row.id).map ToolCallRow.hydrate = res.toolCallResults := by
    have hold : s.toolCalls.find? (fun c => c.resultId = row.id) = none :=
      List.find?_eq_none.mpr fun c hc he => Nat.not_succ_le_self _ (hid ▸ of_decide_eq_true he ▸ hs.toolCall_le hc)
    show ((s.toolCalls ++ calls).find? fun c => c.resultId = row.id).map ToolCallRow.hydrate = _
    rw [List.find?_append, hold, Option.none_or, ← res.toolCallResults.head?_toList, ← h.calls.hydrate]
    cases hcalls : calls with
    | nil => rfl
    | cons call rest =>
      have hcall : call.resultId = row.id := (h.calls.result call (hcalls ▸ List.mem_cons_self)).trans hid.symm
      have hfind : (call :: rest).find? (fun c => c.resultId = row.id) = some call :=
        List.find?_cons_of_pos (decide_eq_true hcall)
      rw [hfind]
      rfl
  have hrow : row.hydrate res.rejectionReasons res.stored.benchmarkMetrics res.toolCallResults = res.stored := by
    show { row.hydrate res.rejectionReasons res.benchmarkMetrics res.toolCallResults with
      benchmarkMetrics := res.stored.benchmarkMetrics } = _
    rw [h.row.hydrate, BenchmarkResult.stored]
  rw [hydrateResult, h.row.reasons, Js.parseStrings_stringifyStrings, Option.map_some, hmetrics, hcalls, hrow]

/-- **The store has grown by the result.** -/
theorem extended_saved (hs : s.Valid) (h : Saved s res row metrics calls) :
    Extended s [res] (s.saved row metrics calls) where
  results := ⟨[row], rfl, congrArg (fun x => [x]) (hydrateResult_saved hs h)⟩
  metrics := ⟨metrics, rfl, fun m hm => (h.metrics.result m hm).symm ▸ Nat.lt_succ_self _⟩
  toolCalls := ⟨calls, rfl, fun c hc => (h.calls.result c hc).symm ▸ Nat.lt_succ_self _⟩
  resultSeq := Nat.le_succ _

/-- **The constraints of the schema are kept.** -/
theorem valid_saved (hs : s.Valid) (hkey : res.key ∉ s.keys) (h : Saved s res row metrics calls) :
    (s.saved row metrics calls).Valid where
  results := numbered_concat hs.results h.row.id_eq
  metrics := h.metrics.ids s.metrics hs.metrics
  toolCalls := h.calls.ids s.toolCalls hs.toolCalls
  keys := by
    rw [keys_saved h]
    exact List.nodup_append'.mpr ⟨hs.keys, List.nodup_singleton _, List.disjoint_singleton.mpr hkey⟩
  metricParents m hm := by
    show m.resultId ∈ (s.results ++ [row]).map ResultRow.id
    rw [List.map_append]
    rcases List.mem_append.mp hm with hm | hm
    · exact List.mem_append_left _ (hs.metricParents m hm)
    · exact List.mem_append_right _ (List.mem_singleton.mpr ((h.metrics.result m hm).trans h.row.id_eq.symm))
  toolCallParents c hc := by
    show c.resultId ∈ (s.results ++ [row]).map ResultRow.id
    rw [List.map_append]
    rcases List.mem_append.mp hc with hc | hc
    · exact List.mem_append_left _ (hs.toolCallParents c hc)
    · exact List.mem_append_right _ (List.mem_singleton.mpr ((h.calls.result c hc).trans h.row.id_eq.symm))
  toolCallOnce := by
    show ((s.toolCalls ++ calls).map ToolCallRow.resultId).Nodup
    rw [List.map_append]
    refine List.nodup_append'.mpr ⟨hs.toolCallOnce, ?_, fun k hk hk' => ?_⟩
    · have hlength : calls.length ≤ 1 := by
        rw [← List.length_map ToolCallRow.hydrate, h.calls.hydrate]
        exact Option.length_toList_le
      exact nodup_of_length_le_one (by rwa [List.length_map])
    · obtain ⟨c, hc, rfl⟩ := List.mem_map.mp hk
      obtain ⟨c', hc', he⟩ := List.mem_map.mp hk'
      exact Nat.not_succ_le_self _ ((h.calls.result c' hc') ▸ he ▸ hs.toolCall_le hc)
  reasons r hr := by
    rcases List.mem_append.mp hr with hr | hr
    · exact hs.reasons r hr
    · obtain rfl := List.mem_singleton.mp hr
      exact ⟨res.rejectionReasons, h.row.reasons⟩

end Saved

end Benchmarker.Store
