import Benchmarker.Discovery.ServedSize

/-!
# Files in subdirectories

What adding files below the root of a repository does to its served weight size.

* `best_of_summary`, `summary_of_best`: a summary is that of the first best complete group.
* `Adds`, `withKey_of_adds`, `find?_of_adds`: a group that receives no file is what it was, where it was.
* **`undisturbed_iff`**: when the selected family stays.
-/

namespace Benchmarker.Discovery

open Js Groups

/-! ## The selected group -/

/-- The groups of a listing. -/
def groups (files : List HfTreeFile) : JsMap String (List CandidateShard) :=
  groupBy CandidateShard.groupKey (candidates files)

/-- The rank of a group. -/
def rankOf (localeCompare : String → String → ℤ) (group : String × List CandidateShard) :
    Bool ×ₗ Bool ×ₗ Bool ×ₗ ℤ := rank (familyOf localeCompare group.2)

/-- The first group of the greatest rank. -/
def Best (localeCompare : String → String → ℤ) (group : String × List CandidateShard)
    (files : List HfTreeFile) : Prop :=
  FirstBest (fun a b => rankOf localeCompare b ≤ rankOf localeCompare a) group (groups files)

/-- What a summary tells of the family that is selected. -/
structure Shows (result : ServedWeightSizeResult) (selected : RankedFamily) : Prop where
  bytes : result.bytes = selected.bytes
  gb : result.gb = (selected.bytes : ℚ) / 1024 ^ 3
  shardCount : result.shardCount = selected.shards.length
  expectedShardCount : result.expectedShardCount = selected.expectedShardCount
  family : result.family = selected.family
  paths : result.paths = selected.shards.map CandidateShard.path

section Selected

variable {localeCompare : String → String → ℤ} {files : List HfTreeFile} {result : ServedWeightSizeResult}
  {group : String × List CandidateShard}

/-- The groups in the order of their families. -/
def sortGroups (localeCompare : String → String → ℤ) (files : List HfTreeFile) :
    List (String × List CandidateShard) :=
  (groups files).insertionSort fun a b => rankOf localeCompare b ≤ rankOf localeCompare a

theorem map_sortGroups : (sortGroups localeCompare files).map (fun group => familyOf localeCompare group.2) =
    (families localeCompare files).insertionSort fun a b => compareFamilies a b ≤ 0 :=
  List.map_insertionSort _ _ _ _ fun _ _ _ _ => compareFamilies_le.symm

theorem best_head {rest : List (String × List CandidateShard)}
    (h : sortGroups localeCompare files = group :: rest) : Best localeCompare group files := by
  have htotal : Std.Total fun a b => rankOf localeCompare b ≤ rankOf localeCompare a :=
    ⟨fun a b => le_total _ _⟩
  have htrans : IsTrans _ fun a b => rankOf localeCompare b ≤ rankOf localeCompare a :=
    ⟨fun a b c hab hbc => hbc.trans hab⟩
  refine firstBest_of_head? (l := groups files) ?_
  exact congrArg List.head? h

theorem summary_eq : summarizeServedWeightSize localeCompare files =
    selectFamily ((sortGroups localeCompare files).map fun group => familyOf localeCompare group.2)
      ((ignoredFiles files).map HfTreeFile.path) := by
  rw [summarize_eq, map_sortGroups]

theorem best_of_summary (h : summarizeServedWeightSize localeCompare files = .ok (some result)) :
    ∃ group, Best localeCompare group files ∧ (familyOf localeCompare group.2).complete = true ∧
      Shows result (familyOf localeCompare group.2) := by
  rw [summary_eq] at h
  cases hsorted : sortGroups localeCompare files with
  | nil =>
    rw [hsorted] at h
    cases h
  | cons group rest =>
    rw [hsorted, List.map_cons, selectFamily] at h
    refine ⟨group, best_head hsorted, ?_⟩
    by_cases hcomplete : (familyOf localeCompare group.2).complete = true
    · rw [hcomplete, Bool.not_true, if_neg Bool.false_ne_true] at h
      rw [← Option.some.inj (Except.ok.inj h)]
      exact ⟨hcomplete, rfl, rfl, rfl, rfl, rfl, rfl⟩
    · rw [Bool.eq_false_iff.mpr hcomplete, Bool.not_false, if_pos rfl] at h
      cases h

theorem summary_of_best (h : Best localeCompare group files)
    (hcomplete : (familyOf localeCompare group.2).complete = true) :
    ∃ result, summarizeServedWeightSize localeCompare files = .ok (some result) ∧
      Shows result (familyOf localeCompare group.2) := by
  rw [summary_eq]
  cases hsorted : sortGroups localeCompare files with
  | nil =>
    have hperm := List.perm_insertionSort (fun a b => rankOf localeCompare b ≤ rankOf localeCompare a)
      (groups files)
    have hnil : groups files = [] := by
      rw [← List.nil_perm, ← hsorted]
      exact hperm
    have hmem := h.mem
    rw [hnil] at hmem
    cases hmem
  | cons other rest =>
    have hother : other = group := (best_head hsorted).unique h
    subst hother
    rw [List.map_cons, selectFamily, hcomplete, Bool.not_true, if_neg Bool.false_ne_true]
    exact ⟨_, rfl, rfl, rfl, rfl, rfl, rfl, rfl⟩

/-- What two results tell of one family. -/
theorem Shows.eq {result' : ServedWeightSizeResult} {selected : RankedFamily} (h : Shows result selected)
    (h' : Shows result' selected) : result' = { result with
      alternateFamilies := result'.alternateFamilies, ignoredPaths := result'.ignoredPaths } := by
  rw [h.bytes, h.gb, h.shardCount, h.expectedShardCount, h.family, h.paths]
  cases result'
  cases h'
  simp_all

theorem shows_of_with {alternateFamilies : List AlternateFamily} {ignoredPaths : List String}
    {selected : RankedFamily} (h : Shows { result with alternateFamilies, ignoredPaths } selected) :
    Shows result selected := ⟨h.bytes, h.gb, h.shardCount, h.expectedShardCount, h.family, h.paths⟩

end Selected

/-! ## Files below the root -/

/-- The files of a listing in their order, and files in subdirectories among them. -/
structure Adds (base added files : List HfTreeFile) : Prop where
  sublist : base.Sublist files
  perm : files.Perm (base ++ added)
  nested : ∀ file ∈ added, '/' ∈ file.path.toList

section Adding

variable {base added files : List HfTreeFile} {p : CandidateShard → Bool} {k : String}

theorem perm_candidates (h : Adds base added files) :
    (candidates files).Perm (candidates base ++ candidates added) := by
  refine (candidates_perm h.perm).trans ?_
  rw [candidates, servedFiles, List.filter_append, List.map_append]
  exact .refl _

/-- What none of the added shards satisfies picks the shards that it picked before. -/
theorem filter_of_adds (h : Adds base added files) (hno : ∀ shard ∈ candidates added, p shard = false) :
    (candidates files).filter p = (candidates base).filter p := by
  have hsub : ((candidates base).filter p).Sublist ((candidates files).filter p) :=
    ((h.sublist.filter _).map candidateOf).filter p
  have hlength := ((perm_candidates h).filter p).length_eq
  have hnone : (candidates added).filter p = [] :=
    List.filter_eq_nil_iff.mpr fun shard hshard => Bool.eq_false_iff.mp (hno shard hshard)
  rw [List.filter_append, hnone, List.append_nil] at hlength
  exact (hsub.eq_of_length hlength.symm).symm

theorem withKey_of_adds (h : Adds base added files) (hno : ∀ shard ∈ candidates added, shard.groupKey ≠ k) :
    withKey CandidateShard.groupKey k (candidates files) =
      withKey CandidateShard.groupKey k (candidates base) :=
  filter_of_adds h fun shard hshard => decide_eq_false (hno shard hshard)

/-- A group that is as large as before receives no shard. -/
theorem apart_of_length (h : Adds base added files)
    (hlength : (withKey CandidateShard.groupKey k (candidates files)).length =
      (withKey CandidateShard.groupKey k (candidates base)).length) :
    ∀ shard ∈ candidates added, shard.groupKey ≠ k := by
  have hperm : (withKey CandidateShard.groupKey k (candidates files)).Perm _ := (perm_candidates h).filter _
  have hsum := hperm.length_eq
  rw [List.filter_append, List.length_append, hlength] at hsum
  have hnone : (candidates added).filter (fun shard => shard.groupKey = k) = [] :=
    List.length_eq_zero_iff.mp (Nat.left_eq_add.mp hsum)
  intro shard hshard hkey
  exact List.filter_eq_nil_iff.mp hnone shard hshard (decide_eq_true hkey)

theorem find?_of_adds {q : String → Bool} (h : Adds base added files)
    (hno : ∀ shard ∈ candidates added, q shard.groupKey = false) :
    (groups files).keys.find? q = (groups base).keys.find? q := by
  rw [groups, groups, find?_keys_groupBy, find?_keys_groupBy, List.find?_map, List.find?_map,
    ← List.head?_filter, ← List.head?_filter]
  exact congrArg _ (congrArg _ (filter_of_adds h hno))

end Adding

/-! ## When the selected family stays -/

/-- The summary has the family, the shards and the bytes of the result. -/
def Undisturbed (localeCompare : String → String → ℤ) (result : ServedWeightSizeResult)
    (files : List HfTreeFile) : Prop :=
  ∃ alternateFamilies ignoredPaths, summarizeServedWeightSize localeCompare files =
    .ok (some { result with alternateFamilies, ignoredPaths })

/-- The key of the selected family. -/
def selectedKey (result : ServedWeightSizeResult) : String :=
  shardGroupKey ⟨result.family, none, result.expectedShardCount⟩

/-- The group of the shard declares no total where the selected one does; or it declares as much, and has
fewer bytes, or as many and the selected one is listed first. -/
def Outranked (result : ServedWeightSizeResult) (files : List HfTreeFile) (shard : CandidateShard) : Prop :=
  let bytes := ((withKey CandidateShard.groupKey shard.groupKey (candidates files)).map CandidateShard.size).sum
  shard.total = none ∧ result.expectedShardCount ≠ none ∨
    (shard.total = none ↔ result.expectedShardCount = none) ∧
      (bytes < result.bytes ∨ bytes = result.bytes ∧
        ((candidates files).map CandidateShard.groupKey).find?
          (fun key => key = selectedKey result || key = shard.groupKey) = some (selectedKey result))

/-- No added shard is taken for one of the selected family, and no other `model` family that one is taken
for is complete and comes before the selected one. -/
structure Harmless (result : ServedWeightSizeResult) (added files : List HfTreeFile) : Prop where
  apart : ∀ shard ∈ candidates added, shard.groupKey ≠ selectedKey result
  outranked : ∀ shard ∈ candidates added, shard.family = "model" →
    isCompleteShardSet (withKey CandidateShard.groupKey shard.groupKey (candidates files)) = true →
      Outranked result files shard

section Stays

variable {localeCompare : String → String → ℤ} {base added files : List HfTreeFile} {k : String}
  {result : ServedWeightSizeResult} {shard : CandidateShard} {group other : String × List CandidateShard}

theorem uniform_of_group (h : group ∈ groups files) (hshard : shard ∈ group.2) :
    shard.groupKey = group.1 ∧ Uniform shard group.2 := uniform_of_mem (k := group.1) h hshard

theorem rankOf_eq (h : group ∈ groups files) (hshard : shard ∈ group.2) :
    rankOf localeCompare group = toLex (isCompleteShardSet group.2, toLex (decide (shard.family = "model"),
      toLex (shard.total.isSome, (group.2.map CandidateShard.size).sum))) := by
  rw [rankOf, familyOf_eq (uniform_of_group h hshard).2 hshard]
  rfl

/-- The key of a shard is read off its name and its total. -/
theorem groupKey_of_mem (h : shard ∈ candidates files) :
    shard.groupKey = shardGroupKey ⟨shard.family, none, shard.total⟩ := by
  obtain ⟨file, -, rfl⟩ := List.mem_map.mp h
  rfl

theorem mem_of_group (h : group ∈ groups files) (hshard : shard ∈ group.2) : shard ∈ candidates files := by
  rw [(mem_groupBy (k := group.1).mp h).1] at hshard
  exact (mem_withKey.mp hshard).1

/-- What a result that shows a complete family tells of its group. -/
theorem shown_of_group (h : group ∈ groups files) (hshard : shard ∈ group.2)
    (hshows : Shows result (familyOf localeCompare group.2)) :
    result.family = shard.family ∧ result.expectedShardCount = shard.total ∧
      result.bytes = (group.2.map CandidateShard.size).sum ∧ selectedKey result = group.1 := by
  have hfamily := hshows.family
  have htotal := hshows.expectedShardCount
  have hbytes := hshows.bytes
  rw [familyOf_eq (uniform_of_group h hshard).2 hshard] at hfamily htotal hbytes
  refine ⟨hfamily, htotal, hbytes, ?_⟩
  rw [selectedKey, hfamily, htotal, ← (uniform_of_group h hshard).1, groupKey_of_mem (mem_of_group h hshard)]

theorem complete_familyOf (h : group ∈ groups files) (hshard : shard ∈ group.2) :
    (familyOf localeCompare group.2).complete = isCompleteShardSet group.2 := by
  rw [familyOf_eq (uniform_of_group h hshard).2 hshard]

/-- **Behind the selected family.** A complete `model` family is behind when it is outranked. -/
theorem behind_iff (hgroup : group ∈ groups files) (hcomplete : isCompleteShardSet group.2 = true)
    (hshows : Shows result (familyOf localeCompare group.2)) (hmodel : result.family = "model")
    (hother : other ∈ groups files) (hshard : shard ∈ other.2) (hfamily : shard.family = "model")
    (hcomplete' : isCompleteShardSet other.2 = true) :
    Behind (rankOf localeCompare) (groups files).keys group other ↔ Outranked result files shard := by
  obtain ⟨first, hfirst⟩ := List.exists_mem_of_ne_nil _ (mem_groupBy (k := group.1).mp hgroup).2
  obtain ⟨hname, htotal, hbytes, hkey⟩ := shown_of_group hgroup hfirst hshows
  have hshards := (mem_groupBy (k := other.1).mp hother).1
  rw [Behind, rankOf_eq hgroup hfirst, rankOf_eq hother hshard, groups, find?_keys_groupBy, Outranked,
    (uniform_of_group hother hshard).1, ← hshards, hkey, htotal, hbytes, hcomplete, hcomplete', hfamily, ← hname,
    hmodel]
  simp only [Prod.Lex.lt_iff, ofLex_toLex, toLex_inj, Prod.mk.injEq, true_and, lt_irrefl, false_or]
  cases shard.total <;> cases first.total <;> simp

variable (localeCompare) in
/-- The paths of a group. -/
theorem mem_paths {path : String} : path ∈ (sortShards localeCompare group.2).map CandidateShard.path ↔
    path ∈ group.2.map CandidateShard.path := ((perm_sortShards localeCompare group.2).map _).mem_iff

/-- The path of a shard determines its key. -/
theorem groupKey_of_path {shard' : CandidateShard} {files' : List HfTreeFile} (h : shard ∈ candidates files)
    (h' : shard' ∈ candidates files') (hpath : shard.path = shard'.path) :
    shard.groupKey = shard'.groupKey := by
  obtain ⟨file, -, rfl⟩ := List.mem_map.mp h
  obtain ⟨file', -, rfl⟩ := List.mem_map.mp h'
  exact congrArg (fun path => shardGroupKey (parseShard path)) hpath

/-- Groups of two listings with the same paths have the same key and as many shards. -/
theorem same_of_paths {files' : List HfTreeFile} (hgroup : group ∈ groups files) (hother : other ∈ groups files')
    (hpaths : (sortShards localeCompare group.2).map CandidateShard.path =
      (sortShards localeCompare other.2).map CandidateShard.path) :
    group.1 = other.1 ∧ group.2.length = other.2.length := by
  constructor
  · obtain ⟨shard, hshard⟩ := List.exists_mem_of_ne_nil _ (mem_groupBy (k := group.1).mp hgroup).2
    have hmem : shard.path ∈ other.2.map CandidateShard.path := by
      rw [← mem_paths localeCompare, ← hpaths, mem_paths]
      exact List.mem_map_of_mem hshard
    obtain ⟨shard', hshard', hpath⟩ := List.mem_map.mp hmem
    rw [← (uniform_of_group hgroup hshard).1, ← (uniform_of_group hother hshard').1]
    exact groupKey_of_path (mem_of_group hgroup hshard) (mem_of_group hother hshard') hpath.symm
  · have hlength := congrArg List.length hpaths
    rwa [List.length_map, List.length_map, (perm_sortShards localeCompare _).length_eq,
      (perm_sortShards localeCompare _).length_eq] at hlength

/-- An incomplete family and one of another name are behind. -/
theorem behind_of_rank {keys : List String} (hgroup : group ∈ groups files)
    (hcomplete : isCompleteShardSet group.2 = true) (hshows : Shows result (familyOf localeCompare group.2))
    (hmodel : result.family = "model") (hother : other ∈ groups files) (hshard : shard ∈ other.2)
    (h : ¬(isCompleteShardSet other.2 = true ∧ shard.family = "model")) :
    Behind (rankOf localeCompare) keys group other := by
  obtain ⟨first, hfirst⟩ := List.exists_mem_of_ne_nil _ (mem_groupBy (k := group.1).mp hgroup).2
  obtain ⟨hname, -⟩ := shown_of_group hgroup hfirst hshows
  left
  rw [rankOf_eq hgroup hfirst, rankOf_eq hother hshard, hcomplete, ← hname, hmodel]
  simp only [Prod.Lex.lt_iff, ofLex_toLex]
  by_cases hcomplete' : isCompleteShardSet other.2 = true
  · have hfamily : shard.family ≠ "model" := fun hfamily => h ⟨hcomplete', hfamily⟩
    simp [hcomplete', hfamily]
  · simp [hcomplete']

/-- The group of a key that no added shard has. -/
theorem mem_groups_of_adds {shards : List CandidateShard} (h : Adds base added files)
    (hno : ∀ shard ∈ candidates added, shard.groupKey ≠ k) :
    (k, shards) ∈ groups files ↔ (k, shards) ∈ groups base := by
  rw [groups, groups, mem_groupBy, mem_groupBy, withKey_of_adds h hno]

theorem mem_files_of_added (h : Adds base added files) (hshard : shard ∈ candidates added) :
    shard ∈ candidates files :=
  (perm_candidates h).mem_iff.mpr (List.mem_append_right _ hshard)

/-- A selected family that stays receives no shard, and is before the others. -/
theorem harmless_of_undisturbed (hadds : Adds base added files) (hgroup : group ∈ groups base)
    (hshows : Shows result (familyOf localeCompare group.2)) (hmodel : result.family = "model")
    (h : Undisturbed localeCompare result files) : Harmless result added files := by
  obtain ⟨alternateFamilies, ignoredPaths, hsummary⟩ := h
  obtain ⟨group', hbest, hcomplete, hwith⟩ := best_of_summary hsummary
  have hshows' := shows_of_with hwith
  obtain ⟨hgroup', hbehind⟩ := (firstBest_iff nodup_keys_groupBy).mp hbest
  obtain ⟨first, hfirst⟩ := List.exists_mem_of_ne_nil _ (mem_groupBy (k := group'.1).mp hgroup').2
  obtain ⟨-, -, -, hkey⟩ := shown_of_group hgroup' hfirst hshows'
  have hapart : ∀ shard ∈ candidates added, shard.groupKey ≠ selectedKey result := by
    obtain ⟨hsame, hlength⟩ := same_of_paths hgroup hgroup' (hshows.paths.symm.trans hshows'.paths)
    rw [(mem_groupBy (k := group.1).mp hgroup).1, (mem_groupBy (k := group'.1).mp hgroup').1, hsame] at hlength
    rw [hkey]
    exact apart_of_length hadds hlength.symm
  refine ⟨hapart, fun shard hshard hfamily hcomplete' => ?_⟩
  have hmem := mem_files_of_added hadds hshard
  have hother : (shard.groupKey, withKey CandidateShard.groupKey shard.groupKey _) ∈
      groupBy CandidateShard.groupKey _ := mem_groupBy_of_mem hmem
  have hne : shard.groupKey ≠ group'.1 := by
    rw [← hkey]
    exact hapart shard hshard
  rw [complete_familyOf hgroup' hfirst] at hcomplete
  refine (behind_iff hgroup' hcomplete hshows' hmodel hother ?_ hfamily hcomplete').mp (hbehind _ hother hne)
  exact mem_withKey.mpr ⟨hmem, rfl⟩

/-- Harmless files leave the best group the best. -/
theorem best_of_harmless (hadds : Adds base added files) (hbest : Best localeCompare group base)
    (hcomplete : isCompleteShardSet group.2 = true) (hshows : Shows result (familyOf localeCompare group.2))
    (hmodel : result.family = "model") (h : Harmless result added files) : Best localeCompare group files := by
  obtain ⟨hgroup, hbehind⟩ := (firstBest_iff nodup_keys_groupBy).mp hbest
  obtain ⟨first, hfirst⟩ := List.exists_mem_of_ne_nil _ (mem_groupBy (k := group.1).mp hgroup).2
  obtain ⟨-, -, -, hkey⟩ := shown_of_group hgroup hfirst hshows
  have hapart := h.apart
  rw [hkey] at hapart
  have hgroup' : group ∈ groups files := (mem_groups_of_adds hadds hapart).mpr hgroup
  refine (firstBest_iff nodup_keys_groupBy).mpr ⟨hgroup', fun other hother hne => ?_⟩
  by_cases hadded : ∃ shard ∈ candidates added, shard.groupKey = other.1
  · obtain ⟨shard, hshard, hkey'⟩ := hadded
    have hshards := (mem_groupBy (k := other.1).mp hother).1
    have hmem : shard ∈ other.2 := by
      rw [hshards]
      exact mem_withKey.mpr ⟨mem_files_of_added hadds hshard, hkey'⟩
    by_cases hrival : isCompleteShardSet other.2 = true ∧ shard.family = "model"
    · refine (behind_iff hgroup' hcomplete hshows hmodel hother hmem hrival.2 hrival.1).mpr ?_
      refine h.outranked shard hshard hrival.2 ?_
      rw [hkey', ← hshards]
      exact hrival.1
    · exact behind_of_rank hgroup' hcomplete hshows hmodel hother hmem hrival
  · -- a group without added files is where it was
    have hno : ∀ shard ∈ candidates added, shard.groupKey ≠ other.1 :=
      fun shard hshard hkey' => hadded ⟨shard, hshard, hkey'⟩
    rcases hbehind other ((mem_groups_of_adds hadds hno).mp hother) hne with hlt | ⟨heq, hfind⟩
    · exact .inl hlt
    · refine .inr ⟨heq, (find?_of_adds hadds fun shard hshard => ?_).trans hfind⟩
      simp [hapart shard hshard, hno shard hshard]

end Stays

/-- **The selected family stays exactly when the added files are harmless.** -/
theorem undisturbed_iff {localeCompare : String → String → ℤ} {base added files : List HfTreeFile}
    {result : ServedWeightSizeResult}
    (hsummary : summarizeServedWeightSize localeCompare base = .ok (some result))
    (hmodel : result.family = "model") (hadds : Adds base added files) :
    Undisturbed localeCompare result files ↔ Harmless result added files := by
  obtain ⟨group, hbest, hcomplete, hshows⟩ := best_of_summary hsummary
  refine ⟨harmless_of_undisturbed hadds hbest.mem hshows hmodel, fun h => ?_⟩
  obtain ⟨first, hfirst⟩ := List.exists_mem_of_ne_nil _ (mem_groupBy (k := group.1).mp hbest.mem).2
  have hbest' := best_of_harmless hadds hbest (by rwa [← complete_familyOf hbest.mem hfirst]) hshows hmodel h
  obtain ⟨result', hsummary', hshows'⟩ := summary_of_best hbest' hcomplete
  exact ⟨_, _, hsummary'.trans (congrArg _ (congrArg _ (hshows.eq hshows')))⟩

/-- A listing of files with one byte each. -/
def listing (paths : List String) : List HfTreeFile := paths.map fun path => { path, size := some 1 }

/-- A text encoder of another name leaves the root file selected. -/
theorem undisturbed_by_encoder : ∃ result,
    summarizeServedWeightSize (fun _ _ => 0) (listing ["model.safetensors"]) = .ok (some result) ∧
      Undisturbed (fun _ _ => 0) result (listing ["model.safetensors", "text_encoder/weights.safetensors"]) := by
  have hadds : Adds (listing ["model.safetensors"]) (listing ["text_encoder/weights.safetensors"])
      (listing ["model.safetensors", "text_encoder/weights.safetensors"]) :=
    ⟨by decide, by decide, by decide⟩
  have hname : ∀ shard ∈ candidates (listing ["text_encoder/weights.safetensors"]), shard.family ≠ "model" := by
    decide
  refine ⟨_, rfl, (undisturbed_iff rfl rfl hadds).mpr ⟨by decide, fun shard hshard hfamily => ?_⟩⟩
  exact absurd hfamily (hname shard hshard)

/-- A text encoder of the same name makes the family incomplete. -/
theorem disturbed_by_encoder : ¬ ∀ (localeCompare : String → String → ℤ) (base added files : List HfTreeFile)
    (result : ServedWeightSizeResult), summarizeServedWeightSize localeCompare base = .ok (some result) →
      result.family = "model" → (∀ path ∈ result.paths, '/' ∉ path.toList) → Adds base added files →
        Undisturbed localeCompare result files := by
  intro h
  have hadds : Adds (listing ["model.safetensors"]) (listing ["text_encoder/model.safetensors"])
      (listing ["model.safetensors", "text_encoder/model.safetensors"]) :=
    ⟨by decide, by decide, by decide⟩
  obtain ⟨alternateFamilies, ignoredPaths, hsummary⟩ := h (fun _ _ => 0) _ _ _ _ rfl rfl (by decide) hadds
  revert hsummary
  exact nofun

end Benchmarker.Discovery
