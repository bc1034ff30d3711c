import Mathlib.Data.List.Induction

/-!
# Maps in insertion order

`Map` and plain objects used as dictionaries: a list of keys and values in which every key stands
once, in the order of first insertion. Overwriting a key keeps its place.

* `JsMap.get`, `set`, `setNew`, `delete`, `has`, `keys`, `size`, `assign`.
* `get_set`, `get_delete`, **`get_assign`**: what is found after an update.
* `get_eq_some_iff`, **`get_eq_of_perm`**: a map with every key once, in whatever order.
* **`assign_assign_nil`**: assigning what was collected before is assigning its parts in turn.
-/

namespace Js

/-- `Map`, or an object used as a dictionary. -/
abbrev JsMap (α β : Type) : Type := List (α × β)

namespace JsMap

variable {α β : Type} [DecidableEq α] {k k' : α} {v : β} {m : JsMap α β}

def get (m : JsMap α β) (k : α) : Option β := (m.find? fun kv => kv.1 = k).map (·.2)

def has (m : JsMap α β) (k : α) : Bool := m.any fun kv => kv.1 = k

def set (m : JsMap α β) (k : α) (v : β) : JsMap α β :=
  match m with
  | [] => [(k, v)]
  | kv :: m => if kv.1 = k then (k, v) :: m else kv :: set m k v

/-- `if (!m.has(k)) m.set(k, v)`. -/
def setNew (m : JsMap α β) (k : α) (v : β) : JsMap α β := if m.has k then m else m.set k v

def delete (m : JsMap α β) (k : α) : JsMap α β := m.filter fun kv => kv.1 ≠ k

def keys (m : JsMap α β) : List α := m.map (·.1)

def size (m : JsMap α β) : ℕ := m.length

def assign (m m' : JsMap α β) : JsMap α β := m'.foldl (fun m kv => m.set kv.1 kv.2) m

@[simp] theorem get_nil : get ([] : JsMap α β) k = none := rfl

theorem get_cons (kv : α × β) : get (kv :: m) k = if kv.1 = k then some kv.2 else m.get k := by
  by_cases h : kv.1 = k <;> simp [get, h]

theorem get_set : (m.set k v).get k' = if k = k' then some v else m.get k' := by
  induction m with
  | nil => simp only [set, get_cons]
  | cons kv m ih =>
    unfold set
    by_cases h : kv.1 = k
    · rw [if_pos h, get_cons, get_cons, h]
      split_ifs <;> rfl
    · rw [if_neg h, get_cons, get_cons, ih]
      by_cases h' : kv.1 = k'
      · rw [if_pos h', if_pos h', if_neg (h' ▸ Ne.symm h)]
      · rw [if_neg h', if_neg h']

@[simp] theorem get_set_self : (m.set k v).get k = some v := by rw [get_set, if_pos rfl]

/-- An entry after an update is the new one or an old one. -/
theorem mem_set {kv : α × β} (h : kv ∈ m.set k v) : kv = (k, v) ∨ kv ∈ m := by
  induction m with
  | nil => exact .inl (List.mem_singleton.mp h)
  | cons kv' m ih =>
    unfold set at h
    split_ifs at h with hk
    · rcases List.mem_cons.mp h with h | h
      · exact .inl h
      · exact .inr (List.mem_cons_of_mem _ h)
    · rcases List.mem_cons.mp h with rfl | h
      · exact .inr List.mem_cons_self
      · rcases ih h with h | h
        · exact .inl h
        · exact .inr (List.mem_cons_of_mem _ h)

theorem get_delete : (m.delete k).get k' = if k = k' then none else m.get k' := by
  induction m with
  | nil => simp [delete]
  | cons kv m ih =>
    rw [get_cons]
    by_cases h : kv.1 = k
    · rw [delete, List.filter_cons_of_neg (by simpa using h), ← delete, ih]
      by_cases h' : k = k'
      · rw [if_pos h', if_pos h']
      · rw [if_neg h', if_neg h', if_neg (h ▸ h')]
    · rw [delete, List.filter_cons_of_pos (by simpa using h), ← delete, get_cons, ih]
      by_cases h' : kv.1 = k'
      · rw [if_pos h', if_pos h', if_neg (h' ▸ Ne.symm h)]
      · rw [if_neg h', if_neg h']

/-- What an assignment leaves at a key: the last value assigned to it, else the old one. -/
theorem get_assign {m' : JsMap α β} :
    (m.assign m').get k = (get m'.reverse k).or (m.get k) := by
  induction m' generalizing m with
  | nil => rfl
  | cons kv m' ih =>
    have happ : ∀ l : JsMap α β, get (l ++ [kv]) k = (get l k).or (get [kv] k) := by
      intro l
      induction l with
      | nil => simp
      | cons kv' l ihl => rw [List.cons_append, get_cons, get_cons, ihl]; split_ifs <;> rfl
    rw [List.reverse_cons, happ, Option.or_assoc, show assign m (kv :: m') =
      assign (m.set kv.1 kv.2) m' from rfl, ih, get_set, get_cons, get_nil]
    split_ifs <;> rfl

/-! ## Keys that stand once -/

theorem mem_of_get_eq_some (h : m.get k = some v) : (k, v) ∈ m := by
  obtain ⟨kv, hkv, rfl⟩ := Option.map_eq_some_iff.mp h
  have hk : kv.1 = k := by simpa using List.find?_some hkv
  rw [← hk]
  exact List.mem_of_find?_eq_some hkv

theorem get_eq_some_iff (h : m.keys.Nodup) : m.get k = some v ↔ (k, v) ∈ m := by
  refine ⟨mem_of_get_eq_some, fun hmem => ?_⟩
  induction m with
  | nil => cases hmem
  | cons kv m ih =>
    obtain ⟨hno, hnodup⟩ := List.nodup_cons.mp h
    rw [get_cons]
    rcases List.mem_cons.mp hmem with rfl | hmem
    · rw [if_pos rfl]
    · rw [if_neg, ih hnodup hmem]
      intro hk
      exact hno (List.mem_map.mpr ⟨(k, v), hmem, hk.symm⟩)

/-- **The order of the keys does not matter to what is found.** -/
theorem get_eq_of_perm {m' : JsMap α β} (hperm : m.Perm m') (h : m.keys.Nodup) :
    m.get k = m'.get k := by
  have h' : m'.keys.Nodup := (hperm.map _).nodup_iff.mp h
  refine Option.ext fun v => ?_
  rw [get_eq_some_iff h, get_eq_some_iff h', hperm.mem_iff]

theorem has_eq_isSome : m.has k = (m.get k).isSome := by
  rw [has, get, Option.isSome_map, Bool.eq_iff_iff, List.find?_isSome, List.any_eq_true]

theorem set_of_not_has (h : m.has k = false) : m.set k v = m ++ [(k, v)] := by
  induction m with
  | nil => rfl
  | cons kv m ih =>
    rw [has, List.any_cons, Bool.or_eq_false_iff, decide_eq_false_iff_not] at h
    rw [set, if_neg h.1, ih h.2]
    rfl

theorem keys_set_of_has (h : m.has k = true) : (m.set k v).keys = m.keys := by
  induction m with
  | nil => cases h
  | cons kv m ih =>
    unfold set
    by_cases hk : kv.1 = k
    · rw [if_pos hk, ← hk]
      rfl
    · rw [has, List.any_cons, decide_eq_false hk, Bool.false_or] at h
      rw [if_neg hk, keys, keys, List.map_cons, List.map_cons]
      exact congrArg (kv.1 :: ·) (ih h)

theorem get_setNew : (m.setNew k v).get k' = (m.get k').or (if k = k' then some v else none) := by
  unfold setNew
  split
  · rename_i h
    rw [has_eq_isSome] at h
    by_cases hk : k = k'
    · subst hk
      obtain ⟨w, hw⟩ := Option.isSome_iff_exists.mp h
      rw [hw, Option.some_or]
    · rw [if_neg hk, Option.or_none]
  · rename_i h
    rw [has_eq_isSome, Bool.not_eq_true, Option.isSome_eq_false_iff, Option.isNone_iff_eq_none] at h
    rw [get_set]
    by_cases hk : k = k'
    · subst hk
      rw [if_pos rfl, h, Option.none_or, if_pos rfl]
    · rw [if_neg hk, if_neg hk, Option.or_none]

theorem nodup_set (h : m.keys.Nodup) : (m.set k v).keys.Nodup := by
  induction m with
  | nil => exact List.pairwise_singleton _ _
  | cons f m ih =>
    have hcons := List.nodup_cons.mp h
    unfold set
    by_cases hk : f.1 = k
    · rw [if_pos hk]
      exact List.nodup_cons.mpr ⟨hk ▸ hcons.1, hcons.2⟩
    · rw [if_neg hk]
      refine List.nodup_cons.mpr ⟨fun hmem => ?_, ih hcons.2⟩
      obtain ⟨e, he, hek⟩ := List.mem_map.mp hmem
      rcases mem_set he with rfl | he
      · exact hk hek.symm
      · exact hcons.1 (hek ▸ List.mem_map_of_mem he)

theorem nodup_setNew (h : m.keys.Nodup) : (m.setNew k v).keys.Nodup := by
  unfold setNew
  split
  · exact h
  · rename_i hno
    rw [Bool.not_eq_true] at hno
    rw [set_of_not_has hno, keys, List.map_append, List.map_singleton]
    refine List.nodup_append.mpr ⟨h, List.pairwise_singleton _ _, fun k' hk k'' hk' heq => ?_⟩
    obtain ⟨kv, hkv, hkk⟩ := List.mem_map.mp hk
    refine List.any_eq_false.mp hno kv hkv (decide_eq_true ?_)
    rw [hkk, heq, List.mem_singleton.mp hk']

/-! ## Assigning in turn -/

theorem set_cons (kv : α × β) :
    set (kv :: m) k v = if kv.1 = k then (k, v) :: m else kv :: m.set k v := rfl

theorem set_set_self {w : β} : (m.set k v).set k w = m.set k w := by
  induction m with
  | nil => exact if_pos rfl
  | cons kv m ih =>
    rw [set_cons, set_cons]
    by_cases h : kv.1 = k
    · rw [if_pos h, if_pos h, set_cons, if_pos rfl]
    · rw [if_neg h, if_neg h, set_cons, if_neg h, ih]

/-- An overwritten key keeps its place whatever else is set. -/
theorem set_comm_of_has {w : β} (hne : k ≠ k') (h : m.has k = true) :
    (m.set k' w).set k v = (m.set k v).set k' w := by
  induction m with
  | nil => cases h
  | cons kv m ih =>
    rw [set_cons, set_cons]
    by_cases hk : kv.1 = k
    · have hk' : ¬kv.1 = k' := fun e => hne (hk.symm.trans e)
      rw [if_pos hk, if_neg hk', set_cons, if_pos hk, set_cons, if_neg hne]
    · have hm : has m k = true := by
        rw [has, List.any_cons, Bool.or_eq_true, decide_eq_true_eq] at h
        exact h.resolve_left hk
      rw [if_neg hk]
      by_cases hk' : kv.1 = k'
      · rw [if_pos hk', set_cons, if_neg (Ne.symm hne), set_cons, if_pos hk']
      · rw [if_neg hk', set_cons, if_neg hk, set_cons, if_neg hk', ih hm]

theorem has_set_of_has (h : m.has k = true) : (m.set k' v).has k = true := by
  rw [has_eq_isSome] at h ⊢
  rw [get_set]
  split_ifs
  · rfl
  · exact h

theorem has_set_self : (m.set k v).has k = true := by
  rw [has_eq_isSome, get_set_self]
  rfl

theorem assign_set_of_has {l : JsMap α β} (hno : k ∉ l.keys) (h : m.has k = true) :
    (m.set k v).assign l = (m.assign l).set k v := by
  induction l generalizing m with
  | nil => rfl
  | cons kv l ih =>
    have hne : k ≠ kv.1 := fun e => hno (e ▸ List.mem_cons_self)
    have hno' : k ∉ keys l := fun e => hno (List.mem_cons_of_mem _ e)
    show assign ((m.set k v).set kv.1 kv.2) l = (assign (m.set kv.1 kv.2) l).set k v
    rw [← set_comm_of_has hne h, ih hno' (has_set_of_has h)]

theorem assign_set {l : JsMap α β} (h : l.keys.Nodup) :
    m.assign (l.set k v) = (m.assign l).set k v := by
  induction l generalizing m with
  | nil => rfl
  | cons kv l ih =>
    obtain ⟨hno, hnodup⟩ := List.nodup_cons.mp h
    rw [set_cons]
    by_cases hk : kv.1 = k
    · rw [if_pos hk]
      show assign (m.set k v) l = (assign (m.set kv.1 kv.2) l).set k v
      have hno' : k ∉ keys l := hk ▸ hno
      rw [hk, ← assign_set_of_has hno' has_set_self, set_set_self]
    · rw [if_neg hk]
      exact ih (m := m.set kv.1 kv.2) hnodup

theorem nodup_assign {l : JsMap α β} (h : m.keys.Nodup) : (m.assign l).keys.Nodup := by
  induction l generalizing m with
  | nil => exact h
  | cons kv l ih => exact ih (nodup_set h)

theorem assign_append {l l' : JsMap α β} : m.assign (l ++ l') = (m.assign l).assign l' :=
  List.foldl_append

/-- **Assigning what was collected is assigning what it was collected from.** -/
theorem assign_assign_nil {l : JsMap α β} : m.assign (assign [] l) = m.assign l := by
  induction l using List.reverseRecOn with
  | nil => rfl
  | append_singleton l kv ih =>
    have hnodup : (assign [] l).keys.Nodup := nodup_assign List.nodup_nil
    rw [assign_append, assign_append, ← ih]
    exact assign_set hnodup

theorem assign_nil_of_nodup (h : m.keys.Nodup) : assign [] m = m := by
  induction m using List.reverseRecOn with
  | nil => rfl
  | append_singleton m kv ih =>
    rw [keys, List.map_append, List.nodup_append] at h
    rw [assign_append, ih h.1]
    refine set_of_not_has (List.any_eq_false.mpr fun kv' hkv' heq => ?_)
    exact h.2.2 _ (List.mem_map_of_mem hkv') _ (by simp) (of_decide_eq_true heq)

/-! ## Maps of values -/

section MapValues

variable {γ : Type} {f g : β → γ}

/-- The map with every value changed. -/
def mapValues (f : β → γ) (m : JsMap α β) : JsMap α γ := m.map fun kv => (kv.1, f kv.2)

omit [DecidableEq α] in
@[simp] theorem keys_mapValues : (m.mapValues f).keys = m.keys := by
  simp [keys, mapValues]

theorem get_mapValues : (m.mapValues f).get k = (m.get k).map f := by
  induction m with
  | nil => rfl
  | cons kv m ih =>
    show get ((kv.1, f kv.2) :: mapValues f m) k = _
    rw [get_cons, get_cons, ih]
    split_ifs <;> rfl

theorem mapValues_set : (m.set k v).mapValues f = (m.mapValues f).set k (f v) := by
  induction m with
  | nil => rfl
  | cons kv m ih =>
    show mapValues f (set (kv :: m) k v) = set ((kv.1, f kv.2) :: mapValues f m) k (f v)
    rw [set_cons, set_cons, ← ih]
    split_ifs <;> rfl

omit [DecidableEq α] in
theorem mapValues_congr (h : ∀ kv ∈ m, f kv.2 = g kv.2) : m.mapValues f = m.mapValues g :=
  List.map_congr_left fun kv hkv => congrArg _ (h kv hkv)

/-- After an update only the other keys have to agree. -/
theorem mapValues_set_congr (hkeys : m.keys.Nodup) (h : ∀ kv ∈ m, kv.1 ≠ k → f kv.2 = g kv.2) :
    (m.set k v).mapValues f = (m.mapValues g).set k (f v) := by
  induction m with
  | nil => rfl
  | cons kv m ih =>
    obtain ⟨hno, hnodup⟩ := List.nodup_cons.mp hkeys
    show mapValues f (set (kv :: m) k v) = set ((kv.1, g kv.2) :: mapValues g m) k (f v)
    rw [set_cons, set_cons]
    by_cases hk : kv.1 = k
    · rw [if_pos hk, if_pos hk]
      refine congrArg ((k, f v) :: ·) (mapValues_congr fun kv' hkv' => h kv' (by simp [hkv']) ?_)
      exact fun e => hno (List.mem_map.mpr ⟨kv', hkv', e.trans hk.symm⟩)
    · rw [if_neg hk, if_neg hk, ← ih hnodup fun kv' hkv' => h kv' (by simp [hkv'])]
      exact congrArg (fun w => (kv.1, w) :: mapValues f (set m k v)) (h kv (by simp) hk)

theorem mapValues_delete : (m.delete k).mapValues f = (m.mapValues f).delete k := by
  rw [delete, delete, mapValues, mapValues, List.filter_map]
  rfl

theorem mapValues_assign {m' : JsMap α β} :
    (m.assign m').mapValues f = (m.mapValues f).assign (m'.mapValues f) := by
  induction m' generalizing m with
  | nil => rfl
  | cons kv m' ih =>
    show mapValues f (assign (m.set kv.1 kv.2) m') = _
    rw [ih, mapValues_set]
    rfl

end MapValues

end JsMap

end Js
