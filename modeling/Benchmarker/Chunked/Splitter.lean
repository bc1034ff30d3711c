import Mathlib.Data.List.Basic

/-!
# Reading a stream in chunks

A reader keeps a buffer: a chunk is added at its end, and what stands before a boundary is cut off
at its start, for as long as the buffer has a boundary.

* `Splitter`, `drain`, `feed`;
* `drain_append`: what is cut from a buffer does not depend on what arrives later;
* **`feed_flatten`**: the pieces cut over the chunks are those cut from the whole text.
-/

namespace Chunked

variable {α : Type}

/-- **How a buffer is cut**: the text before its first boundary and the text after it. A cut takes
something away, and it stays what it is when more text arrives. -/
structure Splitter (α : Type) where
  next : List α → Option (List α × List α)
  shrinks : ∀ {b p r}, next b = some (p, r) → r.length < b.length
  stable : ∀ {b p r}, next b = some (p, r) → ∀ c, next (b ++ c) = some (p, r ++ c)

namespace Splitter

variable (S : Splitter α)

/-- The pieces before the boundaries of a buffer, and what remains in it. -/
def drain (b : List α) : List (List α) × List α :=
  match h : S.next b with
  | none => ([], b)
  | some (p, r) =>
    have := S.shrinks h
    (p :: (drain r).1, (drain r).2)
termination_by b.length

/-- The pieces cut while the chunks arrive, and what remains in the buffer at the end. -/
def feed (b : List α) : List (List α) → List (List α) × List α
  | [] => ([], b)
  | c :: cs => ((S.drain (b ++ c)).1 ++ (feed (S.drain (b ++ c)).2 cs).1,
      (feed (S.drain (b ++ c)).2 cs).2)

variable {S} {b p r : List α}

theorem drain_none (h : S.next b = none) : S.drain b = ([], b) := by
  rw [drain]
  split
  · rfl
  · rename_i h'
    rw [h] at h'
    cases h'

theorem drain_some (h : S.next b = some (p, r)) :
    S.drain b = (p :: (S.drain r).1, (S.drain r).2) := by
  rw [drain]
  split
  · rename_i h'
    rw [h] at h'
    cases h'
  · rename_i h'
    rw [h] at h'
    cases h'
    rfl

variable (S) in
/-- **The induction over a buffer**: it has no boundary, or it is cut at its first one. -/
@[elab_as_elim]
theorem cut_induction {motive : List α → Prop} (b : List α)
    (whole : ∀ b, S.next b = none → motive b)
    (cut : ∀ b p r, S.next b = some (p, r) → motive r → motive b) : motive b := by
  induction hn : b.length using Nat.strongRecOn generalizing b with
  | ind n ih =>
    cases h : S.next b with
    | none => exact whole b h
    | some t =>
      have hlt : t.2.length < n := by
        rw [← hn]
        exact S.shrinks h
      exact cut b t.1 t.2 h (ih _ hlt t.2 rfl)

/-- What remains in a drained buffer has no boundary. -/
theorem next_rest (b : List α) : S.next (S.drain b).2 = none := by
  induction b using S.cut_induction with
  | whole b h =>
    rw [drain_none h]
    exact h
  | cut b p r h ih =>
    rw [drain_some h]
    exact ih

/-- **Draining in two steps**: what is cut from a buffer does not depend on what arrives later. -/
theorem drain_append (b c : List α) : S.drain (b ++ c) =
    ((S.drain b).1 ++ (S.drain ((S.drain b).2 ++ c)).1, (S.drain ((S.drain b).2 ++ c)).2) := by
  induction b using S.cut_induction with
  | whole b h => rw [drain_none h, List.nil_append]
  | cut b p r h ih => rw [drain_some h, drain_some (S.stable h c), ih, List.cons_append]

/-- **Feeding does not depend on the chunks**: it cuts what draining the whole text cuts. -/
theorem feed_flatten (h : S.next b = none) (cs : List (List α)) :
    S.feed b cs = S.drain (b ++ cs.flatten) := by
  induction cs generalizing b with
  | nil => rw [List.flatten_nil, List.append_nil, drain_none h, feed]
  | cons c cs ih =>
    have hrest := ih (next_rest (S := S) (b ++ c))
    rw [feed, hrest, List.flatten_cons, ← List.append_assoc]
    exact (drain_append (b ++ c) cs.flatten).symm

end Splitter

end Chunked
