import Mathlib.Data.List.Basic
import Mathlib.Data.Nat.Notation

/-!
# Statements and transactions

A statement that throws changes nothing; a transaction that throws undoes what its statements have changed, also where
it is nested in another one.

* `Db`, `statement`, `transaction`; what they do if a part succeeds or throws.
* `Numbered`: the rows of a table with `AUTOINCREMENT`. **`numbered_concat`**.
-/

namespace Sql

/-- Statements in turn, on the tables `σ`. -/
abbrev Db (ε σ α : Type) : Type := EStateM ε σ α

section Db

variable {ε σ α β : Type}

/-- `stmt.run(…)`: a fault of the database, or what is written, or the constraint that refuses it. -/
def statement (fault : Option ε) (write : σ → Except ε (α × σ)) : Db ε σ α := fun s =>
  match fault with
  | some e => .error e s
  | none => match write s with
    | .ok (a, s') => .ok a s'
    | .error e => .error e s

/-- `db.transaction(body)()`: `ROLLBACK`, or `ROLLBACK TO` the own savepoint, where the body throws. -/
def transaction (body : Db ε σ α) : Db ε σ α := fun s =>
  match body s with
  | .ok a s' => .ok a s'
  | .error e _ => .error e s

variable {x : Db ε σ α} {f : α → Db ε σ β} {s s' : σ} {a : α} {e : ε} {write : σ → Except ε (α × σ)}

theorem bind_of_ok (h : x s = .ok a s') : (x >>= f) s = f a s' := by
  show EStateM.bind x f s = _
  rw [EStateM.bind, h]

theorem bind_of_error (h : x s = .error e s') : (x >>= f) s = .error e s' := by
  show EStateM.bind x f s = _
  rw [EStateM.bind, h]

theorem tryCatch_of_ok {handle : ε → Db ε σ α} (h : x s = .ok a s') : (tryCatch x handle) s = .ok a s' := by
  show EStateM.tryCatch x handle s = _
  rw [EStateM.tryCatch, h]

theorem tryCatch_of_error {handle : ε → Db ε σ α} (h : x s = .error e s') : (tryCatch x handle) s = handle e s' := by
  show EStateM.tryCatch x handle s = _
  rw [EStateM.tryCatch, h]
  rfl

theorem statement_of_ok (h : write s = .ok (a, s')) : statement none write s = .ok a s' := by
  rw [statement, h]

theorem statement_of_error (h : write s = .error e) : statement none write s = .error e s := by
  rw [statement, h]

theorem transaction_of_ok (h : x s = .ok a s') : transaction x s = .ok a s' := by
  rw [transaction, h]

/-- **A transaction that throws changes nothing.** -/
theorem transaction_of_error (h : x s = .error e s') : transaction x s = .error e s := by
  rw [transaction, h]

end Db

/-! ## Tables -/

section Numbered

variable {ρ : Type} {id : ρ → ℕ} {rows : List ρ} {seq : ℕ}

/-- The rows in the order of their ids, which are not beyond the last one given. -/
structure Numbered (id : ρ → ℕ) (rows : List ρ) (seq : ℕ) : Prop where
  ordered : rows.Pairwise fun a b => id a < id b
  bounded : ∀ row ∈ rows, id row ≤ seq

theorem numbered_nil : Numbered id [] seq := ⟨.nil, nofun⟩

theorem numbered_filter (p : ρ → Bool) (h : Numbered id rows seq) : Numbered id (rows.filter p) seq where
  ordered := h.ordered.sublist List.filter_sublist
  bounded row hrow := h.bounded row (List.mem_of_mem_filter hrow)

theorem numbered_map {update : ρ → ρ} (hid : ∀ row, id (update row) = id row) (h : Numbered id rows seq) :
    Numbered id (rows.map update) seq where
  ordered := List.pairwise_map.mpr (h.ordered.imp fun hlt => by rwa [hid, hid])
  bounded row hrow := by
    obtain ⟨old, hold, rfl⟩ := List.mem_map.mp hrow
    exact hid old ▸ h.bounded old hold

/-- **A new row takes the next number.** -/
theorem numbered_concat {row : ρ} (h : Numbered id rows seq) (hrow : id row = seq + 1) :
    Numbered id (rows ++ [row]) (seq + 1) where
  ordered := by
    refine List.pairwise_append.mpr ⟨h.ordered, List.pairwise_singleton _ _, fun a ha b hb => ?_⟩
    rw [List.mem_singleton.mp hb, hrow]
    exact Nat.lt_succ_of_le (h.bounded a ha)
  bounded a ha := by
    rcases List.mem_append.mp ha with ha | ha
    · exact Nat.le_succ_of_le (h.bounded a ha)
    · exact Nat.le_of_eq ((congrArg id (List.mem_singleton.mp ha)).trans hrow)

end Numbered

end Sql
