import Mathlib.Logic.Function.Basic
import Mathlib.Data.Nat.Notation

/-!
# Arrays by reference

An array is a reference into a heap: two records that hold the same reference see each other's
writes. New arrays get references that nothing holds.

* `Heap.read`, `write`, `alloc`, `allocPair`.
* `read_write_of_ne`, `read_allocPair_of_lt`: what an update leaves alone.
-/

namespace Js

/-- A reference to an array. -/
abbrev Ref : Type := ℕ

/-- The arrays below `next` have been allocated. -/
structure Heap (α : Type) where
  next : Ref := 0
  read : Ref → List α := fun _ => []

namespace Heap

variable {α : Type} {h : Heap α} {r r' : Ref} {xs : List α}

def write (h : Heap α) (r : Ref) (xs : List α) : Heap α :=
  { h with read := Function.update h.read r xs }

/-- `[]`. -/
def alloc (h : Heap α) : Ref × Heap α :=
  (h.next, { next := h.next + 1, read := Function.update h.read h.next [] })

/-- Two new arrays. -/
def allocPair (h : Heap α) : (Ref × Ref) × Heap α :=
  ((h.alloc.1, h.alloc.2.alloc.1), h.alloc.2.alloc.2)

@[simp] theorem next_write : (h.write r xs).next = h.next := rfl

@[simp] theorem read_write_self : (h.write r xs).read r = xs := Function.update_self ..

theorem read_write_of_ne (hne : r' ≠ r) : (h.write r xs).read r' = h.read r' :=
  Function.update_of_ne hne ..

@[simp] theorem next_allocPair : h.allocPair.2.next = h.next + 2 := rfl

@[simp] theorem allocPair_fst : h.allocPair.1.1 = h.next := rfl

@[simp] theorem allocPair_snd : h.allocPair.1.2 = h.next + 1 := rfl

/-- An allocation leaves the arrays that were there alone. -/
theorem read_allocPair_of_lt (hlt : r < h.next) : h.allocPair.2.read r = h.read r := by
  show Function.update (Function.update h.read h.next []) (h.next + 1) [] r = h.read r
  rw [Function.update_of_ne (Nat.ne_of_lt (Nat.lt_succ_of_lt hlt)),
    Function.update_of_ne (Nat.ne_of_lt hlt)]

@[simp] theorem read_allocPair_fst : h.allocPair.2.read h.next = [] := by
  show Function.update (Function.update h.read h.next []) (h.next + 1) [] h.next = []
  rw [Function.update_of_ne (Nat.ne_of_lt (Nat.lt_succ_self _)), Function.update_self]

@[simp] theorem read_allocPair_snd : h.allocPair.2.read (h.next + 1) = [] :=
  Function.update_self ..

end Heap

end Js
