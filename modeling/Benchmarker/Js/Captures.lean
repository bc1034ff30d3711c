import Mathlib.Data.List.Forall2
import Benchmarker.Js.Pattern

/-!
# Captured groups

Regular expressions `^…$` that are a row of pieces, some of them groups: the texts of the groups in the match that
backtracking finds first.

* `Piece`, `Piece.ends`: what the matches of a piece leave, the preferred one first. `Piece.Spells`: what it matches.
* `captures`: the groups of the first match. `Spelled`: a way to cut the text into the pieces.
* **`spelled_of_captures`**, **`captures_isSome`**: what is captured is cut so, and what can be cut is captured.
-/

namespace Js

inductive Piece (α : Type)
  /-- `[…]+?`: a class at least once, as few times as possible. -/
  | lazyPlus (p : α → Bool)
  /-- `[…]*` -/
  | many (p : α → Bool)
  /-- `[…]+` -/
  | plus (p : α → Bool)
  /-- A text, with a class for each character. -/
  | text (ps : List (α → Bool))

section Captures

variable {α : Type} {p : α → Bool} {ps : List (α → Bool)} {piece : Piece α} {pieces : List (Bool × Piece α)}
  {s u v w : List α} {ws gs : List (List α)} {c : α}

def lazyEnds (p : α → Bool) : List α → List (List α)
  | [] => [[]]
  | c :: cs => (c :: cs) :: if p c then lazyEnds p cs else []

def textEnds : List (α → Bool) → List α → List (List α)
  | [], s => [s]
  | _ :: _, [] => []
  | p :: ps, c :: cs => if p c then textEnds ps cs else []

/-- What a piece leaves after one character of the class. -/
def afterOne (p : α → Bool) (ends : List α → List (List α)) : List α → List (List α)
  | [] => []
  | c :: cs => if p c then ends cs else []

def Piece.ends : Piece α → List α → List (List α)
  | lazyPlus p => afterOne p (lazyEnds p)
  | many p => Pattern.manyEnds p
  | plus p => afterOne p (Pattern.manyEnds p)
  | text ps => textEnds ps

/-- The texts that a piece matches. -/
def Piece.Spells : Piece α → List α → Prop
  | lazyPlus p, w | plus p, w => w ≠ [] ∧ ∀ c ∈ w, p c = true
  | many p, w => ∀ c ∈ w, p c = true
  | text ps, w => List.Forall₂ (fun p c => p c = true) ps w

/-- The groups of the first match of `^…$`; the pieces that are groups are marked. -/
def captures : List (Bool × Piece α) → List α → Option (List (List α))
  | [], s => if s.isEmpty then some [] else none
  | (group, piece) :: pieces, s => (piece.ends s).findSome? fun u =>
      (captures pieces u).map fun gs => if group then s.take (s.length - u.length) :: gs else gs

/-- The text is cut into texts that the pieces match, and the groups are the texts of the marked ones. -/
inductive Spelled {α : Type} : List (Bool × Piece α) → List α → List (List α) → Prop
  | nil : Spelled [] [] []
  | group {piece : Piece α} {pieces : List (Bool × Piece α)} {w u : List α} {gs : List (List α)}
      (hw : piece.Spells w) (h : Spelled pieces u gs) : Spelled ((true, piece) :: pieces) (w ++ u) (w :: gs)
  | skip {piece : Piece α} {pieces : List (Bool × Piece α)} {w u : List α} {gs : List (List α)}
      (hw : piece.Spells w) (h : Spelled pieces u gs) : Spelled ((false, piece) :: pieces) (w ++ u) gs

/-! ## Pieces -/

theorem mem_lazyEnds : u ∈ lazyEnds p s ↔ ∃ w, s = w ++ u ∧ ∀ c ∈ w, p c = true := by
  induction s with
  | nil =>
    constructor
    · exact fun h => ⟨[], (List.mem_singleton.mp h).symm, nofun⟩
    · rintro ⟨w, h, -⟩
      exact List.mem_singleton.mpr (List.append_eq_nil_iff.mp h.symm).2
  | cons c cs ih =>
    rw [lazyEnds, List.mem_cons]
    constructor
    · rintro (rfl | h)
      · exact ⟨[], rfl, nofun⟩
      · split_ifs at h with hc
        · obtain ⟨w, rfl, hw⟩ := ih.mp h
          exact ⟨c :: w, rfl, List.forall_mem_cons.mpr ⟨hc, hw⟩⟩
        · cases h
    · rintro ⟨w, h, hw⟩
      cases w with
      | nil => exact .inl h.symm
      | cons d w =>
        obtain ⟨rfl, rfl⟩ := List.cons.inj h
        obtain ⟨hd, hw⟩ := List.forall_mem_cons.mp hw
        rw [if_pos hd]
        exact .inr (ih.mpr ⟨w, rfl, hw⟩)

theorem mem_manyEnds_iff : u ∈ Pattern.manyEnds p s ↔ ∃ w, s = w ++ u ∧ ∀ c ∈ w, p c = true := by
  refine ⟨Pattern.mem_manyEnds, ?_⟩
  rintro ⟨w, rfl, hw⟩
  exact Pattern.append_mem_manyEnds hw

theorem mem_textEnds : u ∈ textEnds ps s ↔ ∃ w, s = w ++ u ∧ List.Forall₂ (fun p c => p c = true) ps w := by
  induction ps generalizing s with
  | nil =>
    rw [textEnds, List.mem_singleton]
    constructor
    · rintro rfl
      exact ⟨[], rfl, .nil⟩
    · rintro ⟨w, rfl, hw⟩
      cases hw
      rfl
  | cons p ps ih =>
    cases s with
    | nil =>
      refine iff_of_false List.not_mem_nil ?_
      rintro ⟨w, h, hw⟩
      cases hw
      cases h
    | cons c cs =>
      rw [textEnds]
      constructor
      · intro h
        split_ifs at h with hc
        · obtain ⟨w, rfl, hw⟩ := ih.mp h
          exact ⟨c :: w, rfl, .cons hc hw⟩
        · cases h
      · rintro ⟨w, h, hw⟩
        cases hw with
        | cons hd hw =>
          obtain ⟨rfl, rfl⟩ := List.cons.inj h
          rw [if_pos hd]
          exact ih.mpr ⟨_, rfl, hw⟩

theorem mem_afterOne {ends : List α → List (List α)}
    (hends : ∀ s u, u ∈ ends s ↔ ∃ w, s = w ++ u ∧ ∀ c ∈ w, p c = true) :
    u ∈ afterOne p ends s ↔ ∃ w, s = w ++ u ∧ w ≠ [] ∧ ∀ c ∈ w, p c = true := by
  cases s with
  | nil =>
    refine iff_of_false List.not_mem_nil ?_
    rintro ⟨w, h, hne, -⟩
    exact hne (List.append_eq_nil_iff.mp h.symm).1
  | cons c cs =>
    rw [afterOne]
    constructor
    · intro h
      split_ifs at h with hc
      · obtain ⟨w, rfl, hw⟩ := (hends _ _).mp h
        exact ⟨c :: w, rfl, List.cons_ne_nil _ _, List.forall_mem_cons.mpr ⟨hc, hw⟩⟩
      · cases h
    · rintro ⟨w, h, hne, hw⟩
      obtain ⟨d, w, rfl⟩ := List.exists_cons_of_ne_nil hne
      obtain ⟨rfl, rfl⟩ := List.cons.inj h
      obtain ⟨hd, hw⟩ := List.forall_mem_cons.mp hw
      rw [if_pos hd]
      exact (hends _ _).mpr ⟨w, rfl, hw⟩

/-- **What a piece leaves is what follows a text that it matches.** -/
theorem Piece.mem_ends : u ∈ piece.ends s ↔ ∃ w, s = w ++ u ∧ piece.Spells w := by
  cases piece with
  | lazyPlus p => exact mem_afterOne fun _ _ => mem_lazyEnds
  | many p => exact mem_manyEnds_iff
  | plus p => exact mem_afterOne fun _ _ => mem_manyEnds_iff
  | text ps => exact mem_textEnds

/-! ## Groups -/

/-- **What is captured is cut out of the text.** -/
theorem spelled_of_captures (h : captures pieces s = some gs) : Spelled pieces s gs := by
  induction pieces generalizing s gs with
  | nil =>
    rw [captures] at h
    split_ifs at h with hs
    rw [List.isEmpty_iff.mp hs, ← Option.some.inj h]
    exact .nil
  | cons part pieces ih =>
    obtain ⟨group, piece⟩ := part
    rw [captures] at h
    obtain ⟨u, hu, hgs⟩ := List.exists_of_findSome?_eq_some h
    obtain ⟨gs', hgs', heq⟩ := Option.map_eq_some_iff.mp hgs
    obtain ⟨w, rfl, hw⟩ := Piece.mem_ends.mp hu
    have htake : (w ++ u).take ((w ++ u).length - u.length) = w := by
      rw [List.length_append, Nat.add_sub_cancel]
      exact List.take_left
    rw [htake] at heq
    subst heq
    cases group with
    | true => exact .group hw (ih hgs')
    | false => exact .skip hw (ih hgs')

/-- **What can be cut is captured**, in one way or another. -/
theorem captures_isSome (h : Spelled pieces s gs) : (captures pieces s).isSome = true := by
  have hstep : ∀ {group : Bool} {piece : Piece α} {pieces : List (Bool × Piece α)} {w u : List α},
      piece.Spells w → (captures pieces u).isSome = true →
        (captures ((group, piece) :: pieces) (w ++ u)).isSome = true := by
    intro group piece pieces w u hw hu
    rw [captures, List.findSome?_isSome_iff]
    exact ⟨u, Piece.mem_ends.mpr ⟨w, rfl, hw⟩, by rw [Option.isSome_map, hu]⟩
  induction h with
  | nil => rfl
  | group hw _ ih => exact hstep hw ih
  | skip hw _ ih => exact hstep hw ih

theorem exists_captures (h : Spelled pieces s gs) : ∃ gs', captures pieces s = some gs' ∧ Spelled pieces s gs' := by
  obtain ⟨gs', hgs'⟩ := Option.isSome_iff_exists.mp (captures_isSome h)
  exact ⟨gs', hgs', spelled_of_captures hgs'⟩

theorem captures_eq_none (h : ∀ gs, ¬Spelled pieces s gs) : captures pieces s = none := by
  cases hcaptures : captures pieces s with
  | none => rfl
  | some gs => exact absurd (spelled_of_captures hcaptures) (h gs)

end Captures

end Js
