import Mathlib.Algebra.BigOperators.Group.List.Basic
import Mathlib.Data.List.DropRight
import Mathlib.Data.List.NatAntidiagonal
import Mathlib.Data.List.Sort
import Mathlib.Data.Rat.Defs
import Benchmarker.Js.Number
import Benchmarker.Order.Groups

/-!
# Safetensors shards

The listing of a repository on the hub, and the shards that `summarizeServedWeightSize` reads in it. Sizes
are integers; indices and totals are not rounded.

* `HfTreeFile`, `parseShard`, `CandidateShard`, `isCompleteShardSet`: files and what their names say.
* **`isCompleteShardSet_iff`**: a complete set, by the indices that it has.
* **`truncated_iff`**: a part of a complete set that is complete itself.
-/

namespace Benchmarker.Discovery

open Js

structure HfTreeFile where
  path : String
  size : Option ℤ := none
  type : Option String := none
  deriving DecidableEq, Repr

def duplicatePackageDirs : List String :=
  ["original", "metal", "gguf", "onnx", "mlx", "awq", "gptq", "int4", "fp8", "nvfp4", "mxfp4"]

structure CandidateShard where
  path : String
  size : ℤ
  family : String
  groupKey : String
  index : Option ℕ
  total : Option ℕ
  deriving DecidableEq, Repr

/-! ## Names -/

def rootDirectory (path : String) : Option String :=
  if '/' ∈ path.toList then some (toLowerCase (String.ofList (path.toList.takeWhile (· ≠ '/')))) else none

/-- `path.split('/').pop()` -/
def baseName (path : String) : List Char := path.toList.rtakeWhile (· ≠ '/')

/-- A text without the suffix, up to ASCII case. -/
def stripSuffix (suffix : String) (s : List Char) : Option (List Char) :=
  let n := s.length - suffix.length
  if (s.drop n).map Char.toLower = suffix.toList then some (s.take n) else none

/-- A text and the digits at its end. -/
def splitNumber (s : List Char) : List Char × List Char :=
  (s.rdropWhile Char.isDigit, s.rtakeWhile Char.isDigit)

/-- What `.+?` matches. -/
def isFamily (s : List Char) : Bool := s ≠ [] && s.all fun c => !isLineTerminator c

structure ParsedShard where
  family : String
  index : Option ℕ
  total : Option ℕ
  deriving DecidableEq, Repr

/-- The match of `/^(.+?)-0*(\d+)-of-0*(\d+)\.safetensors$/i`. There is one at most: a dash stands before
either number, so that the numbers take all digits there are. -/
def numbered (base : List Char) : Option ParsedShard := do
  let (front, total) := splitNumber (← stripSuffix ".safetensors" base)
  let (front, index) := splitNumber (← stripSuffix "-of-" front)
  let family ← stripSuffix "-" front
  if total ≠ [] ∧ index ≠ [] ∧ isFamily family then
    some ⟨String.ofList family, some (digitsValue index), some (digitsValue total)⟩
  else none

/-- What `/^(.+?)\.safetensors$/i` captures, or the text itself. -/
def bareStem (base : List Char) : List Char :=
  ((stripSuffix ".safetensors" base).filter fun stem => isFamily stem).getD base

/-- The match of `/^(.+?)[-_.]0*(\d+)$/`. -/
def ordinal (stem : List Char) : Option ParsedShard :=
  let (front, index) := splitNumber stem
  if index ≠ [] ∧ front.getLast?.any (· ∈ ['-', '_', '.']) ∧ isFamily front.dropLast then
    some ⟨String.ofList front.dropLast, some (digitsValue index), none⟩
  else none

def parseShard (path : String) : ParsedShard :=
  let stem := bareStem (baseName path)
  (numbered (baseName path)).getD ((ordinal stem).getD ⟨String.ofList stem, none, none⟩)

def shardGroupKey (shard : ParsedShard) : String :=
  shard.family ++ ":" ++ (shard.total.map toString).getD "single"

example : parseShard "a/model-00002-OF-00010.safetensors" = ⟨"model", some 2, some 10⟩ := by decide

example : parseShard "layers-0.safetensors" = ⟨"layers", some 0, none⟩ := by decide

/-! ## Complete sets -/

/-- Every number but the first is one more than the number before it. -/
def consecutive : List ℕ → Bool
  | a :: b :: l => b = a + 1 && consecutive (b :: l)
  | _ => true

/-- The declared total of a set, that of its first shard which has one. -/
def declaredTotal (shards : List CandidateShard) : Option ℕ :=
  (shards.find? fun shard => shard.total.isSome).bind CandidateShard.total

def isCompleteShardSet (shards : List CandidateShard) : Bool :=
  match (shards.filterMap CandidateShard.index).insertionSort (· ≤ ·) with
  | [] => shards.length = 1
  | first :: rest =>
    if (first :: rest).length ≠ shards.length then false
    else if first > 1 then false
    else if !consecutive (first :: rest) then false
    else match declaredTotal shards with
      | some declared => shards.length = if first = 0 then declared + 1 else declared
      | none => true

section Complete

variable {a n : ℕ} {l indices : List ℕ} {shards : List CandidateShard}

theorem consecutive_iff : consecutive (a :: l) = true ↔ a :: l = List.range' a (l.length + 1) := by
  induction l generalizing a with
  | nil => simp [consecutive]
  | cons b l ih =>
    rw [consecutive, Bool.and_eq_true, decide_eq_true_eq, ih, List.length_cons, List.range'_succ (s := a),
      List.cons.injEq]
    constructor
    · rintro ⟨rfl, h⟩
      exact ⟨rfl, h⟩
    · rintro ⟨-, h⟩
      have hb : b = a + 1 := (List.cons.inj h).1
      subst hb
      exact ⟨rfl, h⟩

/-- The set has the indices from the first one on, as many as it has shards. -/
def Runs (first : ℕ) (shards : List CandidateShard) : Prop :=
  (shards.map CandidateShard.index).Perm ((List.range' first shards.length).map some)

theorem filterMap_index (h : (shards.filterMap CandidateShard.index).length = shards.length) :
    shards.map CandidateShard.index = (shards.filterMap CandidateShard.index).map some := by
  induction shards with
  | nil => rfl
  | cons shard shards ih =>
    cases hindex : shard.index with
    | none =>
      rw [List.filterMap_cons_none hindex, List.length_cons] at h
      have hle := List.length_filterMap_le CandidateShard.index shards
      omega
    | some i =>
      rw [List.filterMap_cons_some hindex, List.length_cons, List.length_cons] at h
      rw [List.filterMap_cons_some hindex, List.map_cons, List.map_cons, hindex, ih (Nat.succ.inj h)]

theorem filterMap_of_runs {first : ℕ} (h : Runs first shards) :
    (shards.filterMap CandidateShard.index).Perm (List.range' first shards.length) := by
  have hperm := h.filterMap id
  rwa [List.filterMap_map, List.filterMap_map, Function.id_comp, Function.id_comp,
    List.filterMap_some] at hperm

theorem sort_range' (h : indices.Perm (List.range' a n)) :
    indices.insertionSort (· ≤ ·) = List.range' a n := by
  have hsorted : (indices.insertionSort (· ≤ ·)).Pairwise (· ≤ ·) := List.pairwise_insertionSort _ _
  have hrange : (List.range' a n).Pairwise (· ≤ ·) := (List.pairwise_lt_range' _).imp Nat.le_of_lt
  exact ((List.perm_insertionSort _ _).trans h).eq_of_pairwise (fun _ _ _ _ => Nat.le_antisymm) hsorted hrange

/-- **A complete set.** It is one shard without an index, or it has the indices from 0 or 1 on, as many as
its declared total asks for. -/
theorem isCompleteShardSet_iff : isCompleteShardSet shards = true ↔
    shards.length = 1 ∧ shards.filterMap CandidateShard.index = [] ∨
    shards ≠ [] ∧ ∃ first ≤ 1, Runs first shards ∧
      ∀ declared ∈ declaredTotal shards, shards.length = if first = 0 then declared + 1 else declared := by
  unfold isCompleteShardSet
  have hsort := List.perm_insertionSort (· ≤ ·) (shards.filterMap CandidateShard.index)
  have hlength := hsort.length_eq
  cases hsorted : (shards.filterMap CandidateShard.index).insertionSort (· ≤ ·) with
  | nil =>
    rw [hsorted] at hsort
    have hnil : shards.filterMap CandidateShard.index = [] := hsort.symm.eq_nil
    simp only [decide_eq_true_eq, hnil, and_true]
    refine ⟨.inl, fun h => h.resolve_right ?_⟩
    rintro ⟨hne, first, -, hruns, -⟩
    have hrange := (filterMap_of_runs hruns).length_eq
    rw [hnil, List.length_range'] at hrange
    exact hne (List.length_eq_zero_iff.mp hrange.symm)
  | cons first rest =>
    rw [hsorted] at hsort hlength
    dsimp only
    by_cases hcount : (first :: rest).length = shards.length
    · have hindices : shards.map CandidateShard.index = (shards.filterMap CandidateShard.index).map some :=
        filterMap_index (hlength.symm.trans hcount)
      have hruns : consecutive (first :: rest) = true ↔ Runs first shards := by
        rw [consecutive_iff, ← List.length_cons (a := first), hcount, Runs, hindices]
        constructor
        · intro heq
          rw [← heq]
          exact (hsort.map some).symm
        · intro hperm
          have hperm' := (List.map_perm_map_iff (Option.some_injective ℕ)).mp hperm
          rw [← hsorted, sort_range' hperm']
      have hne : shards ≠ [] := by
        rintro rfl
        cases hcount
      have hfirst : ∀ first', Runs first' shards → first' = first := by
        intro first' h
        have heq := sort_range' (filterMap_of_runs h)
        rw [hsorted, ← hcount, List.length_cons, List.range'_succ] at heq
        exact (List.cons.inj heq).1.symm
      have hindexed : shards.filterMap CandidateShard.index ≠ [] := by
        intro h
        rw [h] at hsorted
        cases hsorted
      rw [if_neg (not_not.mpr hcount), or_iff_right fun h => hindexed h.2]
      by_cases hle : first ≤ 1
      · rw [if_neg (Nat.not_lt.mpr hle)]
        by_cases hrun : Runs first shards
        · rw [hruns.mpr hrun, Bool.not_true, if_neg Bool.false_ne_true]
          cases declaredTotal shards with
          | none => exact iff_of_true rfl ⟨hne, first, hle, hrun, nofun⟩
          | some declared =>
            dsimp only
            rw [decide_eq_true_eq]
            constructor
            · intro heq
              refine ⟨hne, first, hle, hrun, fun declared' hdeclared => ?_⟩
              cases hdeclared
              exact heq
            · rintro ⟨-, first', -, hrun', heq⟩
              rw [← hfirst first' hrun']
              exact heq declared rfl
        · rw [Bool.eq_false_iff.mpr (hruns.not.mpr hrun), Bool.not_false, if_pos rfl]
          refine iff_of_false Bool.false_ne_true ?_
          rintro ⟨-, first', -, hrun', -⟩
          exact hrun (hfirst first' hrun' ▸ hrun')
      · rw [if_pos (Nat.not_le.mp hle)]
        refine iff_of_false Bool.false_ne_true ?_
        rintro ⟨-, first', hle', hrun', -⟩
        exact hle (hfirst first' hrun' ▸ hle')
    · rw [if_pos hcount]
      refine iff_of_false Bool.false_ne_true ?_
      rintro (⟨-, hnil⟩ | ⟨-, first', -, hruns, -⟩)
      · rw [hnil] at hsorted
        cases hsorted
      · refine hcount (hlength.trans ?_)
        rw [(filterMap_of_runs hruns).length_eq, List.length_range']

end Complete

/-! ## Truncated sets -/

/-- How the shards of a set are numbered. -/
inductive Convention
  | oneIndexed | zeroIndexed
  deriving DecidableEq, Repr

def Convention.first : Convention → ℕ
  | .oneIndexed => 1
  | .zeroIndexed => 0

/-- The number of shards of a complete set that declares `-of-n`. -/
def Convention.count (n : ℕ) : Convention → ℕ
  | .oneIndexed => n
  | .zeroIndexed => n + 1

/-- A complete set that declares `-of-n`. -/
structure DeclaredSet (convention : Convention) (n : ℕ) (shards : List CandidateShard) : Prop where
  totals : ∀ shard ∈ shards, shard.total = some n
  indices : (shards.map CandidateShard.index).Perm
    ((List.range' convention.first (convention.count n)).map some)

section Truncated

variable {n : ℕ} {convention : Convention} {shards truncated : List CandidateShard}

theorem DeclaredSet.length (h : DeclaredSet convention n shards) : shards.length = convention.count n := by
  have hlength := h.indices.length_eq
  rwa [List.length_map, List.length_map, List.length_range'] at hlength

theorem declaredTotal_eq (hne : shards ≠ []) (h : ∀ shard ∈ shards, shard.total = some n) :
    declaredTotal shards = some n := by
  obtain ⟨shard, rest, rfl⟩ := List.exists_cons_of_ne_nil hne
  have htotal := h shard List.mem_cons_self
  rw [declaredTotal, List.find?_cons_of_pos (by rw [htotal]; rfl)]
  exact htotal

theorem DeclaredSet.isSome (h : DeclaredSet convention n shards) {shard : CandidateShard}
    (hmem : shard ∈ shards) : ∃ i, shard.index = some i := by
  obtain ⟨i, -, hi⟩ := List.mem_map.mp (h.indices.subset (List.mem_map_of_mem hmem))
  exact ⟨i, hi.symm⟩

/-- **A proper part of a complete set is complete only as the shards 1 to n of a 0-indexed set**, which by
themselves are the complete 1-indexed set. -/
theorem truncated_iff (hset : DeclaredSet convention n shards) (hsub : truncated.Subperm shards)
    (hne : truncated ≠ []) (hproper : truncated.length < shards.length) :
    isCompleteShardSet truncated = true ↔
      convention = .zeroIndexed ∧ DeclaredSet .oneIndexed n truncated := by
  have htotals : ∀ shard ∈ truncated, shard.total = some n :=
    fun shard hmem => hset.totals shard (hsub.subset hmem)
  have hlength := hset.length
  rw [isCompleteShardSet_iff, declaredTotal_eq hne htotals]
  constructor
  · rintro (⟨-, hnil⟩ | ⟨-, first, hle, hruns, hcount⟩)
    · obtain ⟨shard, hmem⟩ := List.exists_mem_of_ne_nil _ hne
      obtain ⟨i, hi⟩ := hset.isSome (hsub.subset hmem)
      have hindex : i ∈ truncated.filterMap CandidateShard.index := List.mem_filterMap.mpr ⟨shard, hmem, hi⟩
      rw [hnil] at hindex
      cases hindex
    · have hn := hcount n rfl
      cases convention with
      | oneIndexed =>
        -- the set has no shard to spare
        rw [Convention.count] at hlength
        split_ifs at hn <;> omega
      | zeroIndexed =>
        rw [Convention.count] at hlength
        have hone : first = 1 := by
          split_ifs at hn <;> omega
        subst hone
        rw [if_neg Nat.one_ne_zero] at hn
        refine ⟨rfl, htotals, ?_⟩
        rw [Runs, hn] at hruns
        exact hruns
  · rintro ⟨-, hone⟩
    have hn : truncated.length = n := hone.length
    refine .inr ⟨hne, 1, le_rfl, ?_, ?_⟩
    · rw [Runs, hn]
      exact hone.indices
    · intro declared hdeclared
      cases hdeclared
      exact hn

end Truncated

/-- The shard `model-<i>-of-<n>.safetensors`, with one byte. -/
def shardOf (n i : ℕ) : CandidateShard where
  path := "model-" ++ toString i ++ "-of-" ++ toString n ++ ".safetensors"
  size := 1
  family := "model"
  groupKey := "model:" ++ toString n
  index := some i
  total := some n

/-- Without its last shard a 0-indexed set is not complete. -/
theorem not_complete_without_last : isCompleteShardSet [shardOf 2 0, shardOf 2 1] ≠ true := by
  have hset : DeclaredSet .zeroIndexed 2 [shardOf 2 0, shardOf 2 1, shardOf 2 2] := by
    refine ⟨by decide, ?_⟩
    exact .refl _
  have hsub : [shardOf 2 0, shardOf 2 1].Subperm [shardOf 2 0, shardOf 2 1, shardOf 2 2] :=
    (List.prefix_append [shardOf 2 0, shardOf 2 1] [shardOf 2 2]).sublist.subperm
  intro h
  have hone := (truncated_iff hset hsub (by decide) (by decide)).mp h
  have hindices := hone.2.indices.subset (a := some 0) (by decide)
  exact absurd hindices (by decide)

/-- Without its first shard a 0-indexed set is taken for a complete 1-indexed one. -/
theorem complete_without_first : ¬ ∀ n ≥ 1, ∀ convention shards truncated,
    DeclaredSet convention n shards → truncated.Subperm shards → truncated ≠ [] →
      truncated.length < shards.length → isCompleteShardSet truncated = false := by
  intro h
  have hset : DeclaredSet .zeroIndexed 2 [shardOf 2 0, shardOf 2 1, shardOf 2 2] := by
    refine ⟨by decide, ?_⟩
    exact .refl _
  have hsub : [shardOf 2 1, shardOf 2 2].Subperm [shardOf 2 0, shardOf 2 1, shardOf 2 2] :=
    (List.suffix_append [shardOf 2 0] [shardOf 2 1, shardOf 2 2]).sublist.subperm
  have hfalse := h 2 (by decide) _ _ _ hset hsub (by decide) (by decide)
  revert hfalse
  decide

end Benchmarker.Discovery
