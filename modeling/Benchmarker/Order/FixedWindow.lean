import Mathlib.Data.List.Count
import Mathlib.Tactic.Linarith

/-!
# Fixed windows

A counter that admits a number of requests in a window. A window begins with the first request after the end of the
one before it.

* `Entry`, `hit`: the counter, and what a request is told.
* `Run`: the requests of one counter at times that do not decrease. `Kept`: what its entry says of them.
* **`admitted_le`**: how many requests are admitted in the last `k` lengths of a window.
* **`requested_of_refused`**: a refusal follows as many requests, within the length of a window.
-/

namespace FixedWindow

structure Entry where
  count : ℕ
  resetAt : ℕ
  deriving DecidableEq

structure Request where
  time : ℕ
  admitted : Bool
  deriving DecidableEq

variable (size max : ℕ)

/-- Whether a request is admitted, and the entry that it leaves. -/
def hit (now : ℕ) : Option Entry → Bool × Entry
  | none => (true, ⟨1, now + size⟩)
  | some e =>
    if e.resetAt < now then (true, ⟨1, now + size⟩)
    else (decide (e.count + 1 ≤ max), ⟨e.count + 1, e.resetAt⟩)

/-- The requests of one counter, the last one first, and its entry. -/
inductive Run : List Request → Option Entry → Prop
  | start : Run [] none
  | request {past : List Request} {entry : Option Entry} {now : ℕ} (h : Run past entry)
      (hlater : ∀ r ∈ past, r.time ≤ now) :
      Run (⟨now, (hit size max now entry).1⟩ :: past) (some (hit size max now entry).2)

/-- The requests from `a` on. -/
def requestedSince (a : ℕ) (past : List Request) : ℕ := past.countP fun r => a ≤ r.time

/-- The admitted requests from `a` on. -/
def admittedSince (a : ℕ) (past : List Request) : ℕ := past.countP fun r => r.admitted && a ≤ r.time

/-- The entry counts the requests of its window, which began with one of them. -/
structure Kept (past : List Request) (e : Entry) : Prop where
  began : ∃ r ∈ past, r.time + size = e.resetAt
  ends : ∀ r ∈ past, r.time ≤ e.resetAt
  counted : e.count ≤ requestedSince (e.resetAt - size) past
  bounded : ∀ a k, e.resetAt ≤ a + (k + 1) * size → admittedSince a past ≤ k * max + min e.count max

variable {size max} {past : List Request} {entry : Option Entry} {e : Entry} {now a k : ℕ}

theorem hit_over (h : e.resetAt < now) : hit size max now (some e) = (true, ⟨1, now + size⟩) := if_pos h

theorem hit_within (h : now ≤ e.resetAt) :
    hit size max now (some e) = (decide (e.count + 1 ≤ max), ⟨e.count + 1, e.resetAt⟩) := if_neg (not_lt.mpr h)

theorem requestedSince_cons (r : Request) :
    requestedSince a (r :: past) = requestedSince a past + if a ≤ r.time then 1 else 0 := by
  simp [requestedSince, List.countP_cons]

theorem admittedSince_cons (r : Request) : admittedSince a (r :: past) =
    admittedSince a past + if r.admitted = true ∧ a ≤ r.time then 1 else 0 := by
  simp [admittedSince, List.countP_cons]

theorem admittedSince_eq_zero (h : ∀ r ∈ past, r.time < a) : admittedSince a past = 0 := by
  refine List.countP_eq_zero.mpr fun r hr hadmitted => ?_
  have hle : a ≤ r.time := of_decide_eq_true (Bool.and_eq_true_iff.mp hadmitted).2
  exact absurd (h r hr) (not_lt.mpr hle)

/-- The first request of a window. -/
theorem kept_fresh (hmax : 0 < max) (hbounded : ∀ a k, now ≤ a + k * size → admittedSince a past ≤ k * max)
    (hlater : ∀ r ∈ past, r.time ≤ now) : Kept size max (⟨now, true⟩ :: past) ⟨1, now + size⟩ where
  began := ⟨_, List.mem_cons_self, rfl⟩
  ends := by
    intro r hr
    rcases List.mem_cons.mp hr with rfl | hr
    · exact Nat.le_add_right _ _
    · exact (hlater r hr).trans (Nat.le_add_right _ _)
  counted := by
    rw [requestedSince_cons, if_pos (Nat.sub_le_of_le_add le_rfl)]
    exact Nat.le_add_left _ _
  bounded := by
    intro a k hk
    rw [Nat.add_mul, Nat.one_mul, ← Nat.add_assoc] at hk
    have hle := hbounded a k (Nat.le_of_add_le_add_right hk)
    have hone : min 1 max = 1 := Nat.min_eq_left hmax
    rw [admittedSince_cons, hone]
    split <;> omega

/-- A request in a window that has begun. -/
theorem kept_again (h : Kept size max past e) (hlater : ∀ r ∈ past, r.time ≤ now) (hnow : now ≤ e.resetAt) :
    Kept size max (⟨now, decide (e.count + 1 ≤ max)⟩ :: past) ⟨e.count + 1, e.resetAt⟩ where
  began := by
    obtain ⟨r, hr, hreset⟩ := h.began
    exact ⟨r, List.mem_cons_of_mem _ hr, hreset⟩
  ends := List.forall_mem_cons.mpr ⟨hnow, h.ends⟩
  counted := by
    obtain ⟨r, hr, hreset⟩ := h.began
    have hbegan : e.resetAt - size ≤ now := by
      rw [← hreset, Nat.add_sub_cancel]
      exact hlater r hr
    rw [requestedSince_cons, if_pos hbegan]
    exact Nat.succ_le_succ h.counted
  bounded := by
    intro a k hk
    have hle := h.bounded a k hk
    rw [admittedSince_cons]
    simp only [decide_eq_true_eq]
    split <;> omega

/-- What is kept when the window of `e` is over. -/
theorem Kept.bounded_later (h : Kept size max past e) (hover : e.resetAt < now) (hk : now ≤ a + k * size) :
    admittedSince a past ≤ k * max := by
  cases k with
  | zero =>
    refine le_of_eq_of_le (admittedSince_eq_zero fun r hr => ?_) (Nat.zero_le _)
    have hle := h.ends r hr
    omega
  | succ k =>
    have hle := h.bounded a k (hover.le.trans hk)
    rw [Nat.add_mul, Nat.one_mul]
    exact hle.trans (Nat.add_le_add_left (Nat.min_le_right _ _) _)

theorem kept_of_requests (hmax : 0 < max) (h : Run size max past entry) :
    (past = [] ∧ entry = none) ∨ ∃ e, entry = some e ∧ Kept size max past e := by
  induction h with
  | start => exact .inl ⟨rfl, rfl⟩
  | @request past entry now h hlater ih =>
    refine .inr ⟨_, rfl, ?_⟩
    rcases ih with ⟨rfl, rfl⟩ | ⟨e, rfl, hkept⟩
    · exact kept_fresh hmax (fun a k _ => Nat.zero_le _) hlater
    · rcases lt_or_ge e.resetAt now with hover | hwithin
      · rw [hit_over hover]
        exact kept_fresh hmax (fun a k => hkept.bounded_later hover) hlater
      · rw [hit_within hwithin]
        exact kept_again hkept hlater hwithin

/-- **In the last `k` lengths of a window** at most `(k + 1) * max` requests are admitted. -/
theorem admitted_le (hmax : 0 < max) (h : Run size max past entry) (hnow : ∀ r ∈ past, r.time ≤ now)
    (hk : now ≤ a + k * size) : admittedSince a past ≤ (k + 1) * max := by
  rcases kept_of_requests hmax h with ⟨rfl, -⟩ | ⟨e, -, hkept⟩
  · exact Nat.zero_le _
  · obtain ⟨r, hr, hreset⟩ := hkept.began
    have hle : e.resetAt ≤ a + (k + 1) * size := by
      have := hnow r hr
      rw [Nat.add_mul, Nat.one_mul]
      omega
    have hbounded := hkept.bounded a k hle
    rw [Nat.add_mul, Nat.one_mul]
    exact hbounded.trans (Nat.add_le_add_left (Nat.min_le_right _ _) _)

/-- **A refusal** follows `max` requests that came in the length of a window. -/
theorem requested_of_refused (hmax : 0 < max) (h : Run size max past entry)
    (hrefused : (hit size max now entry).1 = false) : max ≤ requestedSince (now - size) past := by
  rcases kept_of_requests hmax h with ⟨-, rfl⟩ | ⟨e, rfl, hkept⟩
  · cases hrefused
  · rcases lt_or_ge e.resetAt now with hover | hwithin
    · rw [hit_over hover] at hrefused
      cases hrefused
    · rw [hit_within hwithin] at hrefused
      have hfull : max ≤ e.count := Nat.le_of_lt_succ (not_le.mp (of_decide_eq_false hrefused))
      refine hfull.trans (hkept.counted.trans (List.countP_mono_left fun r _ hr => ?_))
      have hle : e.resetAt - size ≤ r.time := of_decide_eq_true hr
      exact decide_eq_true (by omega)

end FixedWindow
