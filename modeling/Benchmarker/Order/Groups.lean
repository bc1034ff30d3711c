import Mathlib.Algebra.BigOperators.Group.List.Basic
import Mathlib.Data.List.Sort
import Benchmarker.Js.Map

/-!
# Groups and the first best

Rows collected by a key in a map, and the head of a stable sort.

* `groupBy`, **`mem_groupBy`**: a group is the rows with its key, in their order; it is not empty.
* **`flatMap_groupBy`**: the groups together are the rows. `groupBy_map`, `groupBy_perm`: the groups of rows
  that are read off others, and of reordered rows.
* `FirstBest`, **`head?_insertionSort`**: the head of a stable sort is the first of the best rows.
-/

namespace Groups

open Js

variable {α K : Type} [DecidableEq K] (key : α → K)

/-- Add a row to the group of its key. -/
def push (groups : JsMap K (List α)) (a : α) : JsMap K (List α) :=
  groups.set (key a) ((groups.get (key a)).getD [] ++ [a])

/-- The rows by their keys, the groups in the order of their first rows. -/
def groupBy (rows : List α) : JsMap K (List α) := rows.foldl (push key) []

/-- The rows with the key. -/
def withKey (k : K) (rows : List α) : List α := rows.filter fun a => key a = k

variable {key} {rows rows' group : List α} {k k' : K} {a : α}

theorem withKey_append : withKey key k (rows ++ [a]) =
    if key a = k then withKey key k rows ++ [a] else withKey key k rows := by
  by_cases h : key a = k <;> simp [withKey, h]

theorem groupBy_concat : groupBy key (rows ++ [a]) = push key (groupBy key rows) a := List.foldl_concat _ _ _ _

theorem nodup_keys_groupBy : (groupBy key rows).keys.Nodup := by
  induction rows using List.reverseRecOn with
  | nil => exact List.nodup_nil
  | append_singleton rows a ih =>
    rw [groupBy_concat]
    exact JsMap.nodup_set ih

theorem get_groupBy : (groupBy key rows).get k =
    if withKey key k rows = [] then none else some (withKey key k rows) := by
  induction rows using List.reverseRecOn with
  | nil => rfl
  | append_singleton rows a ih =>
    rw [groupBy_concat, push, JsMap.get_set, withKey_append]
    by_cases h : key a = k
    · subst h
      rw [if_pos rfl, if_pos rfl, ih, if_neg (List.append_ne_nil_of_right_ne_nil _ (List.cons_ne_nil _ _))]
      by_cases hnil : withKey key (key a) rows = []
      · rw [if_pos hnil, hnil]
        rfl
      · rw [if_neg hnil]
        rfl
    · rw [if_neg h, if_neg h, ih]

/-- **A group is the rows with its key.** -/
theorem mem_groupBy : (k, group) ∈ groupBy key rows ↔ group = withKey key k rows ∧ group ≠ [] := by
  rw [← JsMap.get_eq_some_iff nodup_keys_groupBy, get_groupBy]
  by_cases h : withKey key k rows = []
  · rw [if_pos h]
    constructor
    · intro hnone
      cases hnone
    · rintro ⟨rfl, hne⟩
      exact absurd h hne
  · rw [if_neg h, Option.some.injEq]
    constructor
    · rintro rfl
      exact ⟨rfl, h⟩
    · exact fun hgroup => hgroup.1.symm

theorem mem_withKey : a ∈ withKey key k rows ↔ a ∈ rows ∧ key a = k := by simp [withKey]

/-- The group of a row. -/
theorem mem_groupBy_of_mem (h : a ∈ rows) : (key a, withKey key (key a) rows) ∈ groupBy key rows :=
  mem_groupBy.mpr ⟨rfl, List.ne_nil_of_mem (mem_withKey.mpr ⟨h, rfl⟩)⟩

/-- Overwriting a group with one row more adds this row to the groups. -/
theorem flatMap_push {groups : JsMap K (List α)} :
    ((push key groups a).flatMap Prod.snd).Perm (groups.flatMap Prod.snd ++ [a]) := by
  unfold push
  induction groups with
  | nil => simp [JsMap.set, JsMap.get]
  | cons kv groups ih =>
    rw [JsMap.set_cons, JsMap.get_cons]
    by_cases h : kv.1 = key a
    · rw [if_pos h, if_pos h, Option.getD_some, List.flatMap_cons, List.flatMap_cons]
      rw [List.append_assoc, List.append_assoc]
      exact List.perm_append_comm.append_left kv.2
    · rw [if_neg h, if_neg h, List.flatMap_cons, List.flatMap_cons, List.append_assoc]
      exact ih.append_left kv.2

/-- **The groups together are the rows.** -/
theorem flatMap_groupBy (rows : List α) : ((groupBy key rows).flatMap Prod.snd).Perm rows := by
  induction rows using List.reverseRecOn with
  | nil => exact .nil
  | append_singleton rows a ih =>
    rw [groupBy_concat]
    exact flatMap_push.trans (ih.append_right [a])

/-- The groups of rows that are read off other rows. -/
theorem groupBy_map {β : Type} (f : β → α) (rows : List β) :
    groupBy key (rows.map f) = (groupBy (fun b => key (f b)) rows).mapValues (List.map f) := by
  induction rows using List.reverseRecOn with
  | nil => rfl
  | append_singleton rows b ih =>
    rw [List.map_append, List.map_singleton, groupBy_concat, groupBy_concat, ih, push, push,
      JsMap.mapValues_set, JsMap.get_mapValues, List.map_append, List.map_singleton]
    cases (groupBy (fun b => key (f b)) rows).get (key (f b)) <;> rfl

/-- **The groups come in the order of their first rows.** -/
theorem find?_keys_groupBy (p : K → Bool) : (groupBy key rows).keys.find? p = (rows.map key).find? p := by
  induction rows using List.reverseRecOn with
  | nil => rfl
  | append_singleton rows a ih =>
    rw [groupBy_concat, push, List.map_append, List.find?_append, List.map_singleton, ← ih]
    cases hhas : (groupBy key rows).has (key a) with
    | false =>
      rw [JsMap.set_of_not_has hhas, JsMap.keys, List.map_append, List.find?_append]
      rfl
    | true =>
      rw [JsMap.keys_set_of_has hhas, List.find?_singleton]
      by_cases hp : p (key a) = true
      · have hsome : ((groupBy key rows).keys.find? p).isSome = true := by
          obtain ⟨kv, hkv, hkey⟩ := List.any_eq_true.mp hhas
          rw [List.find?_isSome]
          exact ⟨kv.1, List.mem_map_of_mem hkv, by rwa [of_decide_eq_true hkey]⟩
        rw [Option.or_of_isSome hsome]
      · rw [if_neg hp, Option.or_none]

/-- Reordered rows have the same groups, reordered. -/
theorem groupBy_perm (h : rows.Perm rows') (hmem : (k, group) ∈ groupBy key rows) :
    ∃ group', (k, group') ∈ groupBy key rows' ∧ group.Perm group' := by
  obtain ⟨rfl, hne⟩ := mem_groupBy.mp hmem
  have hperm : (withKey key k rows).Perm (withKey key k rows') := h.filter _
  refine ⟨_, mem_groupBy.mpr ⟨rfl, fun hnil => hne ?_⟩, hperm⟩
  rw [hnil] at hperm
  exact hperm.eq_nil

/-! ## The head of a stable sort -/

variable {α : Type} {r : α → α → Prop} {l : List α} {a b : α}

/-- The first of the best rows: better than those before it, at least as good as those after it. -/
def FirstBest (r : α → α → Prop) (a : α) (l : List α) : Prop :=
  ∃ before after, l = before ++ a :: after ∧ (∀ b ∈ before, ¬r b a) ∧ ∀ b ∈ after, r a b

theorem FirstBest.mem (h : FirstBest r a l) : a ∈ l := by
  obtain ⟨before, after, rfl, -⟩ := h
  exact List.mem_append_right _ List.mem_cons_self

theorem FirstBest.le [Std.Total r] (h : FirstBest r a l) (hb : b ∈ l) : r a b := by
  obtain ⟨before, after, rfl, hbefore, hafter⟩ := h
  rcases List.mem_append.mp hb with hb | hb
  · exact (Std.Total.total (r := r) a b).resolve_right (hbefore b hb)
  · rcases List.mem_cons.mp hb with rfl | hb
    · exact (Std.Total.total (r := r) b b).elim id id
    · exact hafter b hb

/-- **The head of a stable sort is the first of the best rows.** -/
theorem firstBest_of_head? [DecidableRel r] [Std.Total r] [IsTrans α r]
    (h : (l.insertionSort r).head? = some a) : FirstBest r a l := by
  induction l generalizing a with
  | nil => cases h
  | cons b l ih =>
    cases hsorted : l.insertionSort r with
    | nil =>
      rw [List.insertionSort_cons, hsorted] at h
      cases h
      have hnil : l = [] := List.length_eq_zero_iff.mp (by rw [← List.length_insertionSort r, hsorted]; rfl)
      exact ⟨[], l, rfl, by simp, by simp [hnil]⟩
    | cons c sorted =>
      obtain ⟨before, after, hl, hbefore, hafter⟩ := ih (by rw [hsorted]; rfl)
      rw [List.insertionSort_cons, hsorted, List.orderedInsert] at h
      have hle : FirstBest r c l := ⟨before, after, hl, hbefore, hafter⟩
      by_cases hbc : r b c
      · rw [if_pos hbc] at h
        cases h
        refine ⟨[], l, rfl, by simp, fun d hd => ?_⟩
        exact IsTrans.trans b c d hbc (hle.le hd)
      · rw [if_neg hbc] at h
        cases h
        refine ⟨b :: before, after, by rw [hl]; rfl, ?_, hafter⟩
        exact List.forall_mem_cons.mpr ⟨hbc, hbefore⟩

/-- The first of the best rows is the only one. -/
theorem FirstBest.unique (ha : FirstBest r a l) (hb : FirstBest r b l) : a = b := by
  obtain ⟨before, after, rfl, hbefore, hafter⟩ := ha
  obtain ⟨before', after', heq, hbefore', hafter'⟩ := hb
  rcases List.append_eq_append_iff.mp heq with ⟨mid, rfl, hmid⟩ | ⟨mid, rfl, hmid⟩
  · cases mid with
    | nil => exact (List.cons.inj hmid).1
    | cons c mid =>
      obtain ⟨rfl, rfl⟩ := List.cons.inj hmid
      exact absurd (hafter b (List.mem_append_right _ List.mem_cons_self))
        (hbefore' a (List.mem_append_right _ List.mem_cons_self))
  · cases mid with
    | nil => exact (List.cons.inj hmid).1.symm
    | cons c mid =>
      obtain ⟨rfl, rfl⟩ := List.cons.inj hmid
      exact absurd (hafter' a (List.mem_append_right _ List.mem_cons_self))
        (hbefore b (List.mem_append_right _ List.mem_cons_self))

/-! ## The best group -/

section Ranked

variable {K β ρ : Type} [DecidableEq K] [LinearOrder ρ] {f : K × β → ρ} {m : JsMap K β} {x : K × β}

/-- The entry has a smaller rank, or the same rank and a later place. -/
def Behind (f : K × β → ρ) (keys : List K) (x y : K × β) : Prop :=
  f y < f x ∨ f y = f x ∧ keys.find? (fun k => k = x.1 || k = y.1) = some x.1

/-- **The first of the best entries of a map**, by the places of the keys. -/
theorem firstBest_iff (h : m.keys.Nodup) : FirstBest (fun a b => f b ≤ f a) x m ↔
    x ∈ m ∧ ∀ y ∈ m, y.1 ≠ x.1 → Behind f m.keys x y := by
  constructor
  · intro hbest
    refine ⟨hbest.mem, fun y hy hne => ?_⟩
    obtain ⟨before, after, rfl, hbefore, hafter⟩ := hbest
    rw [JsMap.keys, List.map_append, List.map_cons] at h ⊢
    have hself : x.1 ∉ before.map Prod.fst := fun hmem =>
      List.disjoint_of_nodup_append h hmem List.mem_cons_self
    rcases List.mem_append.mp hy with hy | hy
    · exact .inl (not_le.mp (hbefore y hy))
    · rcases List.mem_cons.mp hy with rfl | hy
      · exact absurd rfl hne
      · rcases (hafter y hy).lt_or_eq with hlt | heq
        · exact .inl hlt
        · have hother : y.1 ∉ before.map Prod.fst := fun hmem =>
            List.disjoint_of_nodup_append h hmem (List.mem_cons_of_mem _ (List.mem_map_of_mem hy))
          refine .inr ⟨heq, ?_⟩
          rw [List.find?_append, List.find?_eq_none.mpr, Option.none_or, List.find?_cons_of_pos (by simp)]
          intro k hk
          simp only [Bool.or_eq_true, decide_eq_true_eq, not_or]
          exact ⟨fun heq => hself (heq ▸ hk), fun heq => hother (heq ▸ hk)⟩
  · rintro ⟨hx, hothers⟩
    obtain ⟨before, after, rfl⟩ := List.append_of_mem hx
    rw [JsMap.keys, List.map_append, List.map_cons] at h
    have hself : x.1 ∉ before.map Prod.fst := fun hmem =>
      List.disjoint_of_nodup_append h hmem List.mem_cons_self
    have hlater : x.1 ∉ after.map Prod.fst := (List.nodup_cons.mp (List.nodup_append.mp h).2.1).1
    refine ⟨before, after, rfl, fun y hy hle => ?_, fun y hy => ?_⟩
    · have hne : y.1 ≠ x.1 := fun heq => hself (heq ▸ List.mem_map_of_mem hy)
      rcases hothers y (List.mem_append_left _ hy) hne with hlt | ⟨-, hfind⟩
      · exact absurd hle (not_le.mpr hlt)
      · -- what is found first stands before it
        rw [JsMap.keys, List.map_append, List.find?_append] at hfind
        have hsome : ((before.map Prod.fst).find? fun k => k = x.1 || k = y.1).isSome = true := by
          rw [List.find?_isSome]
          exact ⟨y.1, List.mem_map_of_mem hy, by simp⟩
        rw [Option.or_of_isSome hsome] at hfind
        exact hself (List.mem_of_find?_eq_some hfind)
    · have hne : y.1 ≠ x.1 := fun heq => hlater (heq ▸ List.mem_map_of_mem hy)
      rcases hothers y (List.mem_append_right _ (List.mem_cons_of_mem _ hy)) hne with hlt | ⟨heq, -⟩
      · exact hlt.le
      · exact heq.le

end Ranked

end Groups
