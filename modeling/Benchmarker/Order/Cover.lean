import Mathlib.Data.List.Sort
import Mathlib.Order.Bounds.Basic

/-!
# The first key at or above a point

Rows with keys in a linear order. A row covers a point when its key is the least one at or above
it, or the greatest of all when none is. `cover` finds such a row by a sort and a scan.

* **`cover_covers`**: the scan finds a row that covers the point.
* `Covers.unique`, `Covers.mono`: two rows that cover a point have one key, and a greater point is
  covered by a row with a greater key.
* `cover_perm`: where the keys are distinct, the order of the rows does not matter.
-/

namespace Order

variable {τ K : Type} [LinearOrder K] (key : τ → K)

/-- `t` is the row of the least key at or above `p`, or of the greatest key when all are below. -/
def Covers (rows : List τ) (p : K) (t : τ) : Prop :=
  t ∈ rows ∧ (IsLeast {k | k ∈ rows.map key ∧ p ≤ k} (key t) ∨
    (∀ k ∈ rows.map key, k < p) ∧ IsGreatest {k | k ∈ rows.map key} (key t))

/-- The rows in the order of their keys. -/
def sortBy (rows : List τ) : List τ := rows.insertionSort fun a b => key a ≤ key b

/-- A sort and a scan. -/
def cover (rows : List τ) (p : K) : Option τ :=
  ((sortBy key rows).find? fun t => p ≤ key t).or (sortBy key rows).getLast?

variable {key} {rows : List τ} {p q : K} {t u : τ}

@[simp] theorem mem_sortBy : t ∈ sortBy key rows ↔ t ∈ rows := List.mem_insertionSort _

variable (key rows) in
theorem sortBy_perm : (sortBy key rows).Perm rows := List.perm_insertionSort _ _

instance total_key : Std.Total fun a b : τ => key a ≤ key b := ⟨fun a b => le_total (key a) (key b)⟩

instance isTrans_key : IsTrans τ fun a b => key a ≤ key b := ⟨fun _ _ _ => le_trans⟩

theorem sortBy_sorted : (sortBy key rows).Pairwise fun a b => key a ≤ key b :=
  List.pairwise_insertionSort _ _

/-- What a scan of sorted rows finds has the least key at or above the point. -/
theorem isLeast_of_find {sorted : List τ} (hs : sorted.Pairwise fun a b => key a ≤ key b)
    (h : (sorted.find? fun t => p ≤ key t) = some t) :
    IsLeast {k | k ∈ sorted.map key ∧ p ≤ k} (key t) := by
  obtain ⟨hp, before, after, rfl, hbefore⟩ := List.find?_eq_some_iff_append.mp h
  refine ⟨⟨List.mem_map_of_mem (by simp), by simpa using hp⟩, ?_⟩
  rintro k ⟨hk, hpk⟩
  obtain ⟨u, hu, rfl⟩ := List.mem_map.mp hk
  rcases List.mem_append.mp hu with hu | hu
  · have := hbefore u hu
    simp [hpk] at this
  · rcases List.mem_cons.mp hu with rfl | hu
    · exact le_rfl
    · exact (List.pairwise_cons.mp (List.pairwise_append.mp hs).2.1).1 u hu

/-- The last of sorted rows has the greatest key. -/
theorem isGreatest_of_getLast {sorted : List τ} (hs : sorted.Pairwise fun a b => key a ≤ key b)
    (h : sorted.getLast? = some t) : IsGreatest {k | k ∈ sorted.map key} (key t) := by
  obtain ⟨front, rfl⟩ := List.getLast?_eq_some_iff.mp h
  refine ⟨List.mem_map_of_mem (by simp), ?_⟩
  rintro k hk
  obtain ⟨u, hu, rfl⟩ := List.mem_map.mp hk
  rcases List.mem_append.mp hu with hu | hu
  · exact (List.pairwise_append.mp hs).2.2 u hu t (by simp)
  · rw [List.mem_singleton.mp hu]

theorem mem_map_sortBy {k : K} : k ∈ (sortBy key rows).map key ↔ k ∈ rows.map key :=
  ((sortBy_perm key rows).map key).mem_iff

/-- **The scan finds a row that covers the point.** -/
theorem cover_covers (h : cover key rows p = some t) : Covers key rows p t := by
  unfold cover at h
  cases hfind : (sortBy key rows).find? fun t => p ≤ key t with
  | some u =>
    rw [hfind, Option.some_or, Option.some.injEq] at h
    subst h
    refine ⟨mem_sortBy.mp (List.mem_of_find?_eq_some hfind), .inl ?_⟩
    simpa only [mem_map_sortBy] using isLeast_of_find sortBy_sorted hfind
  | none =>
    rw [hfind, Option.none_or] at h
    refine ⟨mem_sortBy.mp (List.mem_of_getLast? h), .inr ⟨fun k hk => ?_, ?_⟩⟩
    · obtain ⟨u, hu, rfl⟩ := List.mem_map.mp (mem_map_sortBy.mpr hk)
      have := List.find?_eq_none.mp hfind u hu
      simpa using this
    · simpa only [mem_map_sortBy] using isGreatest_of_getLast sortBy_sorted h

variable (key p) in
theorem cover_isSome (h : rows ≠ []) : ∃ t, cover key rows p = some t := by
  have hne : sortBy key rows ≠ [] := by
    intro hnil
    apply h
    have := (sortBy_perm key rows).length_eq
    rw [hnil] at this
    exact List.length_eq_zero_iff.mp this.symm
  unfold cover
  rw [List.getLast?_eq_some_getLast hne]
  cases (sortBy key rows).find? fun t => p ≤ key t with
  | some u => exact ⟨u, rfl⟩
  | none => exact ⟨_, rfl⟩

/-- Two rows that cover a point have one key. -/
theorem Covers.unique (ht : Covers key rows p t) (hu : Covers key rows p u) : key t = key u := by
  obtain ⟨htr, ht | ⟨hbelow, ht⟩⟩ := ht <;> obtain ⟨hur, hu | ⟨hbelow', hu⟩⟩ := hu
  · exact ht.unique hu
  · exact absurd ht.1.2 (not_le.mpr (hbelow' _ ht.1.1))
  · exact absurd hu.1.2 (not_le.mpr (hbelow _ hu.1.1))
  · exact ht.unique hu

/-- A greater point is covered by a row with a greater key. -/
theorem Covers.mono (hpq : p ≤ q) (ht : Covers key rows p t) (hu : Covers key rows q u) :
    key t ≤ key u := by
  have htm : key t ∈ rows.map key := List.mem_map_of_mem ht.1
  have hum : key u ∈ rows.map key := List.mem_map_of_mem hu.1
  obtain ⟨_, hu | ⟨_, hu⟩⟩ := hu
  · obtain ⟨_, ht | ⟨hbelow, _⟩⟩ := ht
    · exact ht.2 ⟨hum, hpq.trans hu.1.2⟩
    · exact absurd (hpq.trans hu.1.2) (not_le.mpr (hbelow _ hum))
  · exact hu.2 htm

/-- Where the keys are distinct, the order of the rows does not matter. -/
theorem cover_perm {rows' : List τ} (h : rows.Perm rows') (hd : (rows.map key).Nodup) :
    cover key rows p = cover key rows' p := by
  have hinj : ∀ a ∈ sortBy key rows, ∀ b ∈ sortBy key rows, key a ≤ key b → key b ≤ key a → a = b :=
    fun a ha b hb hab hba => List.inj_on_of_nodup_map hd (mem_sortBy.mp ha) (mem_sortBy.mp hb)
      (le_antisymm hab hba)
  have hsort : sortBy key rows = sortBy key rows' :=
    (((sortBy_perm _ _).trans h).trans (sortBy_perm _ _).symm).eq_of_pairwise
      (fun a b ha hb => hinj a ha b (mem_sortBy.mpr (h.symm.subset (mem_sortBy.mp hb))))
      sortBy_sorted sortBy_sorted
  rw [cover, cover, hsort]

end Order
