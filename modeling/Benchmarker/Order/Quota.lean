import Mathlib.Data.List.Induction
import Mathlib.Data.List.Nodup

/-!
# Loops with a quota

A loop over a list that stops as soon as it has met a number of elements that pass a test.

* `quota`: the start of the list that it goes through. `quota_append`: two lists after one another.
* `concat_prefix_quota`, **`nodup_quota_iff`**: which elements it meets, and when it meets no key twice.
-/

namespace Quota

variable {α κ : Type} {p : α → Bool} {key : α → κ} {n : ℕ} {x : α} {l before after : List α}

/-- The start of a list up to the `n`-th element that passes. -/
def quota (p : α → Bool) : ℕ → List α → List α
  | _, [] => []
  | n, x :: xs => if p x then if n ≤ 1 then [x] else x :: quota p (n - 1) xs else x :: quota p n xs

theorem quota_of_not (hx : p x = false) : quota p n (x :: l) = x :: quota p n l := by
  rw [quota, if_neg (Bool.eq_false_iff.mp hx)]

theorem quota_last (hx : p x = true) (hn : n ≤ 1) : quota p n (x :: l) = [x] := by
  rw [quota, if_pos hx, if_pos hn]

theorem quota_next (hx : p x = true) (hn : 1 < n) : quota p n (x :: l) = x :: quota p (n - 1) l := by
  rw [quota, if_pos hx, if_neg (by omega)]

/-- **The elements that the loop meets** are those with fewer than `n` passing ones before them. -/
theorem concat_prefix_quota (hn : 1 ≤ n) :
    before ++ [x] <+: quota p n l ↔ before ++ [x] <+: l ∧ before.countP p < n := by
  induction l generalizing n before with
  | nil =>
    rw [quota, List.prefix_nil]
    simp
  | cons y ys ih =>
    cases before with
    | nil =>
      rw [List.nil_append, List.countP_nil, quota]
      have hpos : 0 < n := hn
      split_ifs <;> simp only [List.cons_prefix_cons, List.nil_prefix, and_true, hpos]
    | cons b bs =>
      rw [List.cons_append, List.cons_prefix_cons, List.countP_cons]
      by_cases hy : p y = true
      · by_cases hlast : n ≤ 1
        · rw [quota_last hy hlast, List.cons_prefix_cons, List.prefix_nil]
          refine iff_of_false (by simp) ?_
          rintro ⟨⟨rfl, -⟩, hlt⟩
          rw [if_pos hy] at hlt
          omega
        · rw [quota_next hy (by omega), List.cons_prefix_cons, ih (by omega), and_assoc]
          refine and_congr_right ?_
          rintro rfl
          rw [if_pos hy]
          exact and_congr_right fun _ => by omega
      · rw [quota_of_not (Bool.eq_false_iff.mpr hy), List.cons_prefix_cons, ih hn, and_assoc]
        refine and_congr_right ?_
        rintro rfl
        rw [if_neg hy, Nat.add_zero]

/-- A list in which the loop does not find enough elements is gone through. -/
theorem quota_eq_self (h : l.countP p < n) : quota p n l = l := by
  induction l generalizing n with
  | nil => rfl
  | cons y ys ih =>
    rw [List.countP_cons] at h
    by_cases hy : p y = true
    · rw [if_pos hy] at h
      rw [quota_next hy (by omega), ih (by omega)]
    · rw [if_neg hy] at h
      rw [quota_of_not (Bool.eq_false_iff.mpr hy), ih h]

theorem quota_append_of_le (hn : 1 ≤ n) (h : n ≤ before.countP p) :
    quota p n (before ++ after) = quota p n before := by
  induction before generalizing n with
  | nil =>
    rw [List.countP_nil] at h
    omega
  | cons y ys ih =>
    rw [List.countP_cons] at h
    rw [List.cons_append]
    by_cases hy : p y = true
    · rw [if_pos hy] at h
      by_cases hlast : n ≤ 1
      · rw [quota_last hy hlast, quota_last hy hlast]
      · rw [quota_next hy (by omega), quota_next hy (by omega), ih (by omega) (by omega)]
    · rw [if_neg hy] at h
      have hy' := Bool.eq_false_iff.mpr hy
      rw [quota_of_not hy', quota_of_not hy', ih hn h]

theorem quota_append_of_lt (h : before.countP p < n) :
    quota p n (before ++ after) = before ++ quota p (n - before.countP p) after := by
  induction before generalizing n with
  | nil => rfl
  | cons y ys ih =>
    rw [List.countP_cons] at h ⊢
    rw [List.cons_append, List.cons_append]
    by_cases hy : p y = true
    · rw [if_pos hy] at h ⊢
      rw [quota_next hy (by omega), ih (by omega), Nat.sub_sub, Nat.add_comm 1]
    · rw [if_neg hy] at h ⊢
      rw [quota_of_not (Bool.eq_false_iff.mpr hy), ih h]
      rfl

theorem countP_quota (hn : 1 ≤ n) : (quota p n l).countP p = min n (l.countP p) := by
  induction l generalizing n with
  | nil => rw [quota, List.countP_nil, Nat.min_zero]
  | cons y ys ih =>
    rw [List.countP_cons]
    by_cases hy : p y = true
    · rw [if_pos hy]
      by_cases hlast : n ≤ 1
      · rw [quota_last hy hlast, List.countP_cons, if_pos hy, List.countP_nil]
        omega
      · rw [quota_next hy (by omega), List.countP_cons, if_pos hy, ih (by omega)]
        omega
    · rw [quota_of_not (Bool.eq_false_iff.mpr hy), List.countP_cons, if_neg hy, ih hn]
      rfl

theorem quota_sublist : (quota p n l).Sublist l := by
  induction l generalizing n with
  | nil => exact List.Sublist.refl _
  | cons y ys ih =>
    rw [quota]
    split_ifs
    · exact (List.nil_sublist _).cons_cons _
    · exact ih.cons_cons _
    · exact ih.cons_cons _

/-- No element of a list repeats a key when none has the key of an earlier one. -/
theorem nodup_map_iff : (l.map key).Nodup ↔ ∀ before x, before ++ [x] <+: l → key x ∉ before.map key := by
  induction l using List.reverseRecOn with
  | nil =>
    refine iff_of_true List.nodup_nil fun before x h => ?_
    simp at h
  | append_singleton l y ih =>
    rw [List.map_append, List.map_singleton, List.nodup_append, ih]
    constructor
    · rintro ⟨hl, -, hy⟩ before x h
      rcases List.prefix_concat_iff.mp h with heq | h
      · obtain ⟨rfl, hxy⟩ := List.append_inj' heq rfl
        cases hxy
        exact fun hmem => hy _ hmem _ List.mem_cons_self rfl
      · exact hl before x h
    · intro h
      refine ⟨fun before x hbefore => h before x (hbefore.trans (List.prefix_append _ _)), List.nodup_singleton _, ?_⟩
      rintro k hk k' hk' rfl
      rw [List.mem_singleton.mp hk'] at hk
      exact h l y (List.prefix_refl _) hk

/-- **When a loop with a quota meets no key twice**: a key comes again only behind `n` elements that pass. -/
theorem nodup_quota_iff (hn : 1 ≤ n) : ((quota p n l).map key).Nodup ↔
    ∀ before x after, l = before ++ x :: after → key x ∈ before.map key → n ≤ before.countP p := by
  rw [nodup_map_iff]
  constructor
  · rintro h before x after rfl hmem
    by_contra hlt
    refine h before x ((concat_prefix_quota hn).mpr ⟨⟨after, ?_⟩, by omega⟩) hmem
    rw [List.append_assoc, List.singleton_append]
  · intro h before x hbefore hmem
    obtain ⟨⟨after, rfl⟩, hlt⟩ := (concat_prefix_quota hn).mp hbefore
    have hle := h before x after (by rw [List.append_assoc, List.singleton_append]) hmem
    omega

end Quota
