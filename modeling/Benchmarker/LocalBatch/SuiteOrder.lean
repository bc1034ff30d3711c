import Benchmarker.LocalBatch.Merge

/-!
# The order of the suites

`orderBenchmarkerSuites` starts from the priority suites that are asked for and adds what it has not added yet.

* `Arranged`: what it has added after a part of the suites. `Arranged.setAdd`: one more suite.
* `StableRearrangement`: the same suites, each once, the priority suites first and the others by their first occurrence.
* **`orderBenchmarkerSuites_stable`**: that is what it returns, and ordering again changes nothing.
-/

namespace Benchmarker

/-- The same suites, each once: the priority suites in their order, then the others by where they first occur. -/
structure StableRearrangement (suites ordered : List String) : Prop where
  nodup : ordered.Nodup
  mem : ∀ s, s ∈ ordered ↔ s ∈ suites
  order : ∃ others, ordered = prioritySuites.filter (· ∈ suites) ++ others ∧
    (∀ s ∈ others, s ∉ prioritySuites) ∧ others.Pairwise fun s t => suites.idxOf s < suites.idxOf t

/-- What the second loop has added after the suites `seen`. -/
structure Arranged (suites seen ordered others : List String) : Prop where
  eq : ordered = prioritySuites.filter (· ∈ suites) ++ others
  covers : ∀ s ∈ seen, s ∈ ordered
  other : ∀ s ∈ others, s ∈ seen ∧ s ∉ prioritySuites
  sorted : others.Pairwise fun s t => suites.idxOf s < suites.idxOf t

section Order

variable {suites seen rest ordered others : List String} {s : String}

theorem mem_priority (h : Arranged suites seen ordered others) (hs : s ∈ suites) (hpriority : s ∈ prioritySuites) :
    s ∈ ordered := by
  rw [h.eq]
  exact List.mem_append_left _ (List.mem_filter.mpr ⟨hpriority, decide_eq_true hs⟩)

/-- The next suite is added behind all others that came before it. -/
theorem Arranged.setAdd (h : Arranged suites seen ordered others) (hsuites : suites = seen ++ s :: rest) :
    ∃ others', Arranged suites (seen ++ [s]) (setAdd ordered s) others' := by
  have hs : s ∈ suites := by
    rw [hsuites]
    exact List.mem_append_right _ List.mem_cons_self
  have hseen : ∀ t ∈ others, t ∈ seen ++ [s] := fun t ht => List.mem_append_left _ (h.other t ht).1
  by_cases hmem : s ∈ ordered
  · refine ⟨others, ?_⟩
    rw [Benchmarker.setAdd, if_pos hmem]
    refine ⟨h.eq, fun t ht => ?_, fun t ht => ⟨hseen t ht, (h.other t ht).2⟩, h.sorted⟩
    rcases List.mem_append.mp ht with ht | ht
    · exact h.covers t ht
    · rwa [List.mem_singleton.mp ht]
  · have hnew : s ∉ seen := fun hs' => hmem (h.covers s hs')
    refine ⟨others ++ [s], ?_⟩
    rw [Benchmarker.setAdd, if_neg hmem]
    refine ⟨by rw [h.eq, List.append_assoc], fun t ht => ?_, fun t ht => ?_, ?_⟩
    · exact (List.mem_append.mp ht).elim (fun ht => List.mem_append_left _ (h.covers t ht))
        (List.mem_append_right _)
    · rcases List.mem_append.mp ht with ht | ht
      · exact ⟨hseen t ht, (h.other t ht).2⟩
      · obtain rfl := List.mem_singleton.mp ht
        exact ⟨List.mem_append_right _ ht, fun hpriority => hmem (mem_priority h hs hpriority)⟩
    · refine List.pairwise_append.mpr ⟨h.sorted, List.pairwise_singleton _ _, fun t ht u hu => ?_⟩
      obtain rfl := List.mem_singleton.mp hu
      have ht' : t ∈ seen := (h.other t ht).1
      rw [hsuites, List.idxOf_append_of_mem ht', List.idxOf_append_of_notMem hnew]
      exact (List.idxOf_lt_length_iff.mpr ht').trans_le (Nat.le_add_right _ _)

/-- The loop, from any place on. -/
theorem Arranged.foldl (h : Arranged suites seen ordered others) (hsuites : suites = seen ++ rest) :
    ∃ others', Arranged suites suites (rest.foldl Benchmarker.setAdd ordered) others' := by
  induction rest generalizing seen ordered others with
  | nil =>
    rw [List.append_nil] at hsuites
    exact ⟨others, hsuites ▸ h⟩
  | cons s rest ih =>
    obtain ⟨others', h'⟩ := h.setAdd hsuites
    refine ih h' ?_
    rw [hsuites, List.append_assoc, List.singleton_append]

theorem arranged_orderBenchmarkerSuites (suites : List String) :
    ∃ others, Arranged suites suites (orderBenchmarkerSuites suites) others := by
  have hstart : Arranged suites [] (prioritySuites.filter (· ∈ suites)) [] :=
    ⟨(List.append_nil _).symm, nofun, nofun, .nil⟩
  exact hstart.foldl rfl

theorem foldl_setAdd_of_nodup {acc l : List String} (h : (acc ++ l).Nodup) : l.foldl setAdd acc = acc ++ l := by
  induction l generalizing acc with
  | nil => exact (List.append_nil _).symm
  | cons s l ih =>
    have hnew : s ∉ acc := fun hs => (List.nodup_append.mp h).2.2 s hs s List.mem_cons_self rfl
    have happend : acc ++ s :: l = (acc ++ [s]) ++ l := (List.append_assoc acc [s] l).symm
    rw [happend] at h ⊢
    rw [List.foldl_cons, setAdd, if_neg hnew, ih h]

theorem foldl_setAdd_of_subset {acc l : List String} (h : ∀ s ∈ l, s ∈ acc) : l.foldl setAdd acc = acc := by
  induction l with
  | nil => rfl
  | cons s l ih =>
    rw [List.foldl_cons, setAdd, if_pos (h s List.mem_cons_self), ih fun t ht => h t (List.mem_cons_of_mem _ ht)]

/-- What is in order already stays. -/
theorem orderBenchmarkerSuites_of_arranged (hnodup : ordered.Nodup) (hmem : ∀ s, s ∈ ordered ↔ s ∈ suites)
    (heq : ordered = prioritySuites.filter (· ∈ suites) ++ others) : orderBenchmarkerSuites ordered = ordered := by
  have hfilter : prioritySuites.filter (· ∈ ordered) = prioritySuites.filter (· ∈ suites) :=
    List.filter_congr fun s _ => decide_eq_decide.mpr (hmem s)
  rw [heq] at hnodup
  rw [orderBenchmarkerSuites, hfilter, heq, List.foldl_append, foldl_setAdd_of_subset fun s hs => hs,
    foldl_setAdd_of_nodup hnodup]

end Order

/-- **Ordering is a stable rearrangement**, and is idempotent. -/
theorem orderBenchmarkerSuites_stable (suites : List String) :
    StableRearrangement suites (orderBenchmarkerSuites suites) ∧
      orderBenchmarkerSuites (orderBenchmarkerSuites suites) = orderBenchmarkerSuites suites := by
  obtain ⟨others, h⟩ := arranged_orderBenchmarkerSuites suites
  have hnodup := nodup_orderBenchmarkerSuites suites
  have hmem : ∀ s, s ∈ orderBenchmarkerSuites suites ↔ s ∈ suites := fun s => mem_orderBenchmarkerSuites
  refine ⟨⟨hnodup, hmem, others, h.eq, fun s hs => (h.other s hs).2, h.sorted⟩, ?_⟩
  exact orderBenchmarkerSuites_of_arranged hnodup hmem h.eq

end Benchmarker
