import Benchmarker.Store.Extended

/-!
# Imports are exact and atomic

* `fresh`: the items that are not there yet. `Fails`: an item fails for another reason.
* `importOne_cases`: one item. **`importAll_cases`**: all items, by induction.
* `ImportExact`: what is promised of an import. **`importExact`**.
* `Reachable`, **`valid_of_reachable`**: what all methods keep.
-/

namespace Benchmarker.Store

open Sql

/-! ## Fresh items and failing items -/

theorem lawfulBEq_key : LawfulBEq Key := inferInstance

attribute [local instance] lawfulBEq_key in
/-- The items whose key is taken neither before nor by an earlier item. -/
def fresh (taken : List Key) : List BenchmarkResult → List BenchmarkResult
  | [] => []
  | res :: rest => if res.key ∈ taken then fresh taken rest else res :: fresh (taken ++ [res.key]) rest

/-- Some item fails, and not because its key is taken. -/
def Fails (taken : List Key) (moments : ℕ → Moment) (i : ℕ) (items : List BenchmarkResult) : Prop :=
  ∃ before res after, items = before ++ res :: after ∧
    Refused (taken ++ before.map BenchmarkResult.key) (moments (i + before.length)) res

section Items

variable {taken taken' : List Key} {moments : ℕ → Moment} {moment : Moment} {i : ℕ} {res : BenchmarkResult}
  {items rest : List BenchmarkResult}

theorem not_fails_nil : ¬Fails taken moments i [] := by
  rintro ⟨before, res, after, h, -⟩
  exact List.append_ne_nil_of_right_ne_nil before (List.cons_ne_nil res after) h.symm

theorem fails_cons : Fails taken moments i (res :: rest) ↔
    Refused taken (moments i) res ∨ Fails (taken ++ [res.key]) moments (i + 1) rest := by
  constructor
  · rintro ⟨before, res', after, h, hrefused⟩
    cases before with
    | nil =>
      obtain ⟨rfl, -⟩ := List.cons.inj h
      rw [List.map_nil, List.append_nil] at hrefused
      exact .inl hrefused
    | cons first before =>
      obtain ⟨rfl, hrest⟩ := List.cons.inj h
      refine .inr ⟨before, res', after, hrest, ?_⟩
      rwa [List.append_assoc, List.singleton_append, Nat.add_assoc, Nat.add_comm 1]
  · rintro (hrefused | ⟨before, res', after, rfl, hrefused⟩)
    · exact ⟨[], res, rest, rfl, by rwa [List.map_nil, List.append_nil]⟩
    · refine ⟨res :: before, res', after, rfl, ?_⟩
      rwa [List.append_assoc, List.singleton_append, Nat.add_assoc, Nat.add_comm 1] at hrefused

theorem refused_congr (h : ∀ key, key ∈ taken ↔ key ∈ taken') : Refused taken moment res ↔ Refused taken' moment res :=
  or_congr_right (and_congr_left' (not_congr (h _)))

theorem fails_congr (h : ∀ key, key ∈ taken ↔ key ∈ taken') : Fails taken moments i items ↔ Fails taken' moments i items :=
  exists_congr fun before => exists_congr fun _ => exists_congr fun _ => and_congr_right fun _ =>
    refused_congr fun key => by rw [List.mem_append, List.mem_append, h]

/-- A key that is taken is not taken again. -/
theorem mem_concat_of_mem {key : Key} (h : res.key ∈ taken) : key ∈ taken ++ [res.key] ↔ key ∈ taken := by
  rw [List.mem_append, List.mem_singleton, or_iff_left_of_imp]
  rintro rfl
  exact h

/-- Every key is taken in the end. -/
theorem key_mem_fresh (h : res ∈ items) : res.key ∈ taken ++ (fresh taken items).map BenchmarkResult.key := by
  induction items generalizing taken with
  | nil => cases h
  | cons first items ih =>
    rw [fresh]
    split_ifs with hkey
    · rcases List.mem_cons.mp h with rfl | h
      · exact List.mem_append_left _ hkey
      · exact ih h
    · rw [List.map_cons, ← List.singleton_append, ← List.append_assoc]
      rcases List.mem_cons.mp h with rfl | h
      · exact List.mem_append_left _ (List.mem_append_right _ (List.mem_singleton_self _))
      · exact ih h

end Items

/-! ## The loop -/

section Loop

variable {s : Tables}

/-- One item: it fails, is skipped as a duplicate, or is saved. -/
theorem importOne_cases (hs : s.Valid) (moment : Moment) (imported : ℕ) (res : BenchmarkResult) :
    Refused s.keys moment res ∧ (∃ e, importOne moment imported res s = .error e s) ∨
    ¬Refused s.keys moment res ∧ res.key ∈ s.keys ∧ importOne moment imported res s = .ok imported s ∨
    ¬Refused s.keys moment res ∧ res.key ∉ s.keys ∧ ∃ row metrics calls,
      importOne moment imported res s = .ok (imported + 1) (s.saved row metrics calls) ∧
        Saved s res row metrics calls := by
  rw [importOne]
  rcases save_cases hs moment res with ⟨hrefused, e, he, hdup⟩ | ⟨hrefused, hkey, he⟩ |
    ⟨hrefused, hkey, row, metrics, calls, hok, hsaved⟩
  · refine .inl ⟨hrefused, e, (tryCatch_of_error (bind_of_error he)).trans ?_⟩
    rw [if_neg (by rw [hdup]; exact Bool.noConfusion)]
    rfl
  · refine .inr (.inl ⟨hrefused, hkey, (tryCatch_of_error (bind_of_error he)).trans ?_⟩)
    rw [if_pos isDuplicate_uniqueKey]
    rfl
  · exact .inr (.inr ⟨hrefused, hkey, row, metrics, calls, tryCatch_of_ok (bind_of_ok hok), hsaved⟩)

/-- **All items**: one of them fails, or the store grows by the fresh ones. -/
theorem importAll_cases (hs : s.Valid) (moments : ℕ → Moment) (i imported : ℕ) (items : List BenchmarkResult) :
    Fails s.keys moments i items ∧ (∃ e s', importAll moments i imported items s = .error e s') ∨
    ¬Fails s.keys moments i items ∧ ∃ s',
      importAll moments i imported items s = .ok (imported + (fresh s.keys items).length) s' ∧
      Extended s (fresh s.keys items) s' ∧ s'.Valid ∧
      s'.keys = s.keys ++ (fresh s.keys items).map BenchmarkResult.key := by
  induction items generalizing s i imported with
  | nil => exact .inr ⟨not_fails_nil, s, rfl, extended_refl, hs, (List.append_nil _).symm⟩
  | cons res rest ih =>
    rw [fails_cons, fresh]
    rcases importOne_cases hs (moments i) imported res with ⟨hrefused, e, he⟩ | ⟨hrefused, hkey, hok⟩ |
      ⟨hrefused, hkey, row, metrics, calls, hok, hsaved⟩
    · exact .inl ⟨.inl hrefused, e, s, bind_of_error he⟩
    · have hstep : importAll moments i imported (res :: rest) s = importAll moments (i + 1) imported rest s :=
        bind_of_ok hok
      rw [hstep, fails_congr fun _ => mem_concat_of_mem hkey, if_pos hkey, or_iff_right hrefused]
      exact ih hs (i + 1) imported
    · have hstep : importAll moments i imported (res :: rest) s =
          importAll moments (i + 1) (imported + 1) rest (s.saved row metrics calls) := bind_of_ok hok
      have hkeys := keys_saved hsaved
      have hvalid := valid_saved hs hkey hsaved
      rw [hstep, if_neg hkey, or_iff_right hrefused, ← hkeys]
      rcases ih hvalid (i + 1) (imported + 1) with ⟨hfails, hthrows⟩ | ⟨hfails, s', hrest, hextended, hvalid', hkeys'⟩
      · exact .inl ⟨hfails, hthrows⟩
      · refine .inr ⟨hfails, s', ?_, extended_trans hvalid (extended_saved hs hsaved) hextended, hvalid', ?_⟩
        · rw [hrest, List.length_cons, Nat.add_assoc, Nat.add_comm 1]
        · rw [hkeys', hkeys, List.append_assoc, List.singleton_append, List.map_cons]

end Loop

/-! ## Imports -/

/-- Calls at which the database does not fail. -/
def Quiet (moments : ℕ → Moment) : Prop := ∀ i k, (moments i).fault k = none

/-- The fresh items, and nothing else, have been added. -/
structure Imported (s : Tables) (items : List BenchmarkResult) (s' : Tables) : Prop where
  valid : s'.Valid
  extended : Extended s (fresh s.keys items) s'
  unchanged : ∀ row ∈ s.results, hydrateResult s' row = hydrateResult s row
  /-- The same list once more. -/
  again : ∀ moments, Quiet moments → importResults moments items s' = .ok 0 s'

/-- What is promised of an import: if no item fails for another reason than a duplicate, the fresh items are added and
counted; else it throws and changes nothing. -/
structure ImportExact (s : Tables) (moments : ℕ → Moment) (items : List BenchmarkResult) : Prop where
  added : ¬Fails s.keys moments 0 items → ∃ s',
    importResults moments items s = .ok (fresh s.keys items).length s' ∧ Imported s items s'
  thrown : Fails s.keys moments 0 items → ∃ e, importResults moments items s = .error e s

section Imports

variable {s : Tables} {moments : ℕ → Moment} {items : List BenchmarkResult}

/-- Items that are there already are skipped. -/
theorem importAll_known (hs : s.Valid) (hquiet : Quiet moments)
    (h : ∀ res ∈ items, res.key ∈ s.keys ∧ none ∉ res.numbers) (i imported : ℕ) :
    importAll moments i imported items s = .ok imported s := by
  induction items generalizing i imported with
  | nil => rfl
  | cons res rest ih =>
    obtain ⟨⟨hkey, hnumbers⟩, hrest⟩ := List.forall_mem_cons.mp h
    rcases importOne_cases hs (moments i) imported res with ⟨hrefused, -⟩ | ⟨-, -, hok⟩ | ⟨-, hfresh, -⟩
    · rcases hrefused with hrefuses | ⟨hfresh, -⟩
      · exact absurd hrefuses (not_refuses (hquiet i 0) hnumbers)
      · exact absurd hkey hfresh
    · exact (bind_of_ok hok).trans (ih hrest (i + 1) imported)
    · exact absurd hkey hfresh

/-- **An import is exact and atomic.** -/
theorem importExact (hs : s.Valid) (moments : ℕ → Moment) (items : List BenchmarkResult) :
    ImportExact s moments items := by
  rcases importAll_cases hs moments 0 0 items with ⟨hfails, e, s', he⟩ | ⟨hfails, s', hok, hextended, hvalid, hkeys⟩
  · exact ⟨fun h => absurd hfails h, fun _ => ⟨e, transaction_of_error he⟩⟩
  · have hunchanged : ∀ row ∈ s.results, hydrateResult s' row = hydrateResult s row :=
      fun row hrow => hydrateResult_extended hextended (hs.results.bounded row hrow)
    refine ⟨fun _ => ⟨s', ?_, hvalid, hextended, hunchanged, fun again hquiet => ?_⟩, fun h => absurd h hfails⟩
    · rw [Nat.zero_add] at hok
      exact transaction_of_ok hok
    · refine transaction_of_ok (importAll_known hvalid hquiet (fun res hres => ⟨?_, fun hnan => ?_⟩) 0 0)
      · rw [hkeys]
        exact key_mem_fresh hres
      · obtain ⟨before, after, rfl⟩ := List.append_of_mem hres
        exact hfails ⟨before, res, after, rfl, .inl (.inr hnan)⟩

end Imports

/-! ## All runs -/

section Runs

variable {s : Tables} {id : ℕ}

theorem valid_updatePassedStatus (hs : s.Valid) (passed : Bool) (rejectionReasons : List String) :
    (updatePassedStatus id passed rejectionReasons s).2.Valid := by
  have hid : ∀ row : ResultRow, (row.update id passed rejectionReasons).id = row.id := by
    intro row
    rw [ResultRow.update]
    split_ifs <;> rfl
  have hkey : ∀ row : ResultRow, (row.update id passed rejectionReasons).key = row.key := by
    intro row
    rw [ResultRow.update]
    split_ifs <;> rfl
  have hids : (updatePassedStatus id passed rejectionReasons s).2.results.map ResultRow.id = s.results.map ResultRow.id := by
    rw [updatePassedStatus, List.map_map]
    exact List.map_congr_left fun row _ => hid row
  have hkeys : (updatePassedStatus id passed rejectionReasons s).2.keys = s.keys := by
    rw [Tables.keys, updatePassedStatus, List.map_map]
    exact List.map_congr_left fun row _ => hkey row
  refine ⟨numbered_map hid hs.results, hs.metrics, hs.toolCalls, hkeys ▸ hs.keys, fun m hm => ?_, fun c hc => ?_,
    hs.toolCallOnce, fun row hrow => ?_⟩
  · rw [hids]
    exact hs.metricParents m hm
  · rw [hids]
    exact hs.toolCallParents c hc
  · obtain ⟨old, hold, rfl⟩ := List.mem_map.mp hrow
    rw [ResultRow.update]
    split_ifs
    · exact ⟨rejectionReasons, rfl⟩
    · exact hs.reasons old hold

/-- What refers to another result than the deleted one still does. -/
theorem mem_ids_filter {resultId : ℕ} (h : resultId ∈ s.results.map ResultRow.id) (hne : resultId ≠ id) :
    resultId ∈ (s.results.filter fun row => row.id ≠ id).map ResultRow.id := by
  obtain ⟨row, hrow, rfl⟩ := List.mem_map.mp h
  exact List.mem_map_of_mem (List.mem_filter.mpr ⟨hrow, decide_eq_true hne⟩)

theorem valid_delete (hs : s.Valid) : (delete id s).2.Valid where
  results := numbered_filter _ hs.results
  metrics := numbered_filter _ hs.metrics
  toolCalls := numbered_filter _ hs.toolCalls
  keys := hs.keys.sublist (List.filter_sublist.map _)
  metricParents m hm := by
    obtain ⟨hm, hne⟩ := List.mem_filter.mp hm
    exact mem_ids_filter (hs.metricParents m hm) (of_decide_eq_true hne)
  toolCallParents c hc := by
    obtain ⟨hc, hne⟩ := List.mem_filter.mp hc
    exact mem_ids_filter (hs.toolCallParents c hc) (of_decide_eq_true hne)
  toolCallOnce := hs.toolCallOnce.sublist (List.filter_sublist.map _)
  reasons row hrow := hs.reasons row (List.mem_of_mem_filter hrow)

/-- The tables after a statement or a transaction, whether it throws or not. -/
def after {α : Type} (run : Db DbError Tables α) (s : Tables) : Tables :=
  match run s with
  | .ok _ s' => s'
  | .error _ s' => s'

/-- What a store contains after calls of its methods, in any order. -/
inductive Reachable : Tables → Prop
  | empty : Reachable Tables.empty
  | save {s : Tables} (moment : Moment) (res : BenchmarkResult) (h : Reachable s) : Reachable (after (save moment res) s)
  | importResults {s : Tables} (moments : ℕ → Moment) (items : List BenchmarkResult) (h : Reachable s) :
      Reachable (after (importResults moments items) s)
  | updatePassedStatus {s : Tables} (id : ℕ) (passed : Bool) (rejectionReasons : List String) (h : Reachable s) :
      Reachable (updatePassedStatus id passed rejectionReasons s).2
  | delete {s : Tables} (id : ℕ) (h : Reachable s) : Reachable (delete id s).2

/-- **Every store meets the constraints of its schema.** -/
theorem valid_of_reachable (h : Reachable s) : s.Valid := by
  induction h with
  | empty => exact valid_empty
  | @save s moment res _ ih =>
    rcases save_cases ih moment res with ⟨-, e, he, -⟩ | ⟨-, -, he⟩ | ⟨-, hkey, row, metrics, calls, hok, hsaved⟩
    · rwa [after, he]
    · rwa [after, he]
    · rw [after, hok]
      exact valid_saved ih hkey hsaved
  | @importResults s moments items _ ih =>
    by_cases hfails : Fails s.keys moments 0 items
    · obtain ⟨e, he⟩ := (importExact ih moments items).thrown hfails
      rwa [after, he]
    · obtain ⟨s', hok, himported⟩ := (importExact ih moments items).added hfails
      rw [after, hok]
      exact himported.valid
  | updatePassedStatus id passed rejectionReasons _ ih => exact valid_updatePassedStatus ih passed rejectionReasons
  | delete id _ ih => exact valid_delete ih

def firstResult : BenchmarkResult where
  modelId := "org/model"
  timestamp := "2025-01-01T00:00:00.000Z"
  vllmVersion := "0.6.0"
  dockerCommand := ""
  hardwareConfig := ⟨"a100", some (.fin 2), some (.fin 64), some (.fin 16), some (.fin 500), "a2-highgpu-2g", none⟩
  benchmarkMetrics := []
  toolCallResults := none
  passed := false
  rejectionReasons := ["No benchmark metrics"]
  tensorParallelSize := some (.fin 2)
  toolCallParser := "hermes"
  rawOutput := ""

/-- A result is saved, passes on a second look, and is deleted. -/
theorem valid_savedOnce : (delete 1 (updatePassedStatus 1 true []
    (after (save ⟨"2025-01-01 00:00:00", fun _ => none⟩ firstResult) Tables.empty)).2).2.Valid :=
  valid_of_reachable (.delete 1 (.updatePassedStatus 1 true [] (.save _ _ .empty)))

end Runs

end Benchmarker.Store
