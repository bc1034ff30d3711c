import Mathlib.Algebra.Order.Ring.Unbundled.Rat
import Mathlib.Data.Prod.Lex
import Mathlib.Data.Rat.Defs
import Benchmarker.Discovery.Shards

/-!
# The served weight size

`summarizeServedWeightSize`: the shards of a listing in families, the families ranked, and the bytes of the
first one. `localeCompare` is the collation of paths.

* `candidates`, `rankFamily`, `compareFamilies`, `summarizeServedWeightSize`: the source.
* `shardGroupKey_inj`, **`rankFamily_eq`**: a family has one name and one declared total, and is ranked.
* `rank`, `compareFamilies_le`: the comparison is that of the ranks.
* **`servedWeight_accounted`**: the order of the listing does not matter, and where every file goes.
-/

namespace Benchmarker.Discovery

open Js Groups

structure AlternateFamily where
  family : String
  shardCount : ℕ
  bytes : ℤ
  deriving DecidableEq, Repr

structure ServedWeightSizeResult where
  bytes : ℤ
  gb : ℚ
  shardCount : ℕ
  expectedShardCount : Option ℕ
  family : String
  paths : List String
  alternateFamilies : List AlternateFamily
  ignoredPaths : List String
  deriving DecidableEq, Repr

structure RankedFamily where
  family : String
  groupKey : String
  shards : List CandidateShard
  bytes : ℤ
  expectedShardCount : Option ℕ
  complete : Bool
  deriving DecidableEq, Repr

/-! ## The candidates of a listing -/

/-- The three checks on an entry of a listing. -/
def isServable (file : HfTreeFile) : Bool :=
  file.type.all (fun type => type = "" || type = "file") && endsWith file.path ".safetensors" &&
    file.size.any (0 < ·)

def isPackaged (path : String) : Bool := (rootDirectory path).any (· ∈ duplicatePackageDirs)

def candidateOf (file : HfTreeFile) : CandidateShard :=
  let shard := parseShard file.path
  { path := file.path
    size := file.size.getD 0
    family := shard.family
    groupKey := shardGroupKey shard
    index := shard.index
    total := shard.total }

/-- The files that become candidates. -/
def servedFiles (files : List HfTreeFile) : List HfTreeFile :=
  files.filter fun file => isServable file && !isPackaged file.path

def ignoredFiles (files : List HfTreeFile) : List HfTreeFile :=
  files.filter fun file => isServable file && isPackaged file.path

def candidates (files : List HfTreeFile) : List CandidateShard := (servedFiles files).map candidateOf

/-! ## Families -/

def conflictMessage (totals : List ℕ) : String :=
  "Conflicting safetensors shard totals: " ++ ", ".intercalate (totals.map toString)

def inferExpectedShardCount (shards : List CandidateShard) : Except String (Option ℕ) :=
  match (shards.filterMap CandidateShard.total).eraseDups with
  | [] => .ok none
  | [total] => .ok (some total)
  | totals => .error (conflictMessage totals)

section Source

variable (localeCompare : String → String → ℤ)

def sortShards (shards : List CandidateShard) : List CandidateShard :=
  shards.insertionSort fun a b => localeCompare a.path b.path ≤ 0

def rankFamily (shards : List CandidateShard) : Except String RankedFamily := do
  let sorted := sortShards localeCompare shards
  let expectedShardCount ← inferExpectedShardCount sorted
  return {
    family := (shards.head?.map CandidateShard.family).getD "unknown"
    groupKey := (shards.head?.map CandidateShard.groupKey).getD "unknown"
    shards := sorted
    bytes := (sorted.map CandidateShard.size).sum
    expectedShardCount
    complete := isCompleteShardSet sorted }

def compareFamilies (a b : RankedFamily) : ℤ :=
  if a.complete ≠ b.complete then (if b.complete then 1 else 0) - (if a.complete then 1 else 0)
  else if a.family = "model" ∧ b.family ≠ "model" then -1
  else if b.family = "model" ∧ a.family ≠ "model" then 1
  else if a.expectedShardCount.isSome ≠ b.expectedShardCount.isSome then
    (if b.expectedShardCount.isSome then 1 else 0) - (if a.expectedShardCount.isSome then 1 else 0)
  else b.bytes - a.bytes

def incompleteMessage (selected : RankedFamily) : String :=
  "Incomplete safetensors shard set for " ++ selected.family ++ ": found " ++
    toString selected.shards.length ++ "/" ++ (selected.expectedShardCount.map toString).getD "contiguous"

/-- What the ranked families come to. -/
def selectFamily (ranked : List RankedFamily) (ignoredPaths : List String) :
    Except String (Option ServedWeightSizeResult) :=
  match ranked with
  | [] => .ok none
  | selected :: _ =>
    if !selected.complete then .error (incompleteMessage selected)
    else .ok (some {
      bytes := selected.bytes
      gb := (selected.bytes : ℚ) / 1024 ^ 3
      shardCount := selected.shards.length
      expectedShardCount := selected.expectedShardCount
      family := selected.family
      paths := selected.shards.map CandidateShard.path
      alternateFamilies := (ranked.filter fun entry => entry.groupKey ≠ selected.groupKey).map fun entry =>
        { family := entry.family, shardCount := entry.shards.length, bytes := entry.bytes }
      ignoredPaths })

def summarizeServedWeightSize (files : List HfTreeFile) : Except String (Option ServedWeightSizeResult) :=
  if (candidates files).length = 0 then .ok none
  else do
    let families := groupBy CandidateShard.groupKey (candidates files)
    let ranked ← families.mapM fun family => rankFamily localeCompare family.2
    selectFamily (ranked.insertionSort fun a b => compareFamilies a b ≤ 0)
      ((ignoredFiles files).map HfTreeFile.path)

end Source

/-! ## Keys -/

section Keys

variable {shard shard' : ParsedShard} {total total' : Option ℕ}

/-- The last part of a key. -/
def totalText (total : Option ℕ) : String := (total.map toString).getD "single"

theorem isDigit_of_mem_toString {n : ℕ} {c : Char} (h : c ∈ (toString n).toList) : c.isDigit = true := by
  rw [Nat.toString_eq_ofList_toDigits, String.toList_ofList] at h
  exact Nat.isDigit_of_mem_toDigits (by decide) (by decide) h

theorem colon_not_mem_totalText (total : Option ℕ) : ':' ∉ (totalText total).toList := by
  cases total with
  | none => decide
  | some n =>
    intro h
    exact absurd (isDigit_of_mem_toString h) (by decide)

theorem toString_inj {m n : ℕ} (h : toString m = toString n) : m = n := by
  rw [Nat.toString_eq_ofList_toDigits, Nat.toString_eq_ofList_toDigits] at h
  have hvalue := congrArg (fun text => Nat.ofDigitChars 10 text.toList 0) h
  simpa using hvalue

theorem totalText_inj : totalText total = totalText total' ↔ total = total' := by
  refine ⟨fun h => ?_, fun h => congrArg totalText h⟩
  have hno : ∀ n : ℕ, toString n ≠ "single" := by
    intro n heq
    have hs : 's' ∈ (toString n).toList := by
      rw [heq]
      decide
    exact absurd (isDigit_of_mem_toString hs) (by decide)
  cases total with
  | none =>
    cases total' with
    | none => rfl
    | some n => exact absurd h.symm (hno n)
  | some m =>
    cases total' with
    | none => exact absurd h (hno m)
    | some n => exact congrArg some (toString_inj h)

/-- The text before the last colon. -/
theorem append_colon_inj {s s' t t' : List Char} (ht : ':' ∉ t) (ht' : ':' ∉ t')
    (h : s ++ ':' :: t = s' ++ ':' :: t') : s = s' ∧ t = t' := by
  have hsplit : ∀ s t : List Char, ':' ∉ t → (s ++ ':' :: t).rtakeWhile (· ≠ ':') = t := by
    intro s t hno
    rw [List.rtakeWhile, List.reverse_append, List.reverse_cons, List.append_assoc,
      List.takeWhile_append_of_pos, List.singleton_append, List.takeWhile_cons_of_neg (by simp),
      List.append_nil, List.reverse_reverse]
    intro c hc
    refine decide_eq_true fun heq => hno ?_
    rw [← heq]
    exact List.mem_reverse.mp hc
  have hlast : t = t' := by
    rw [← hsplit s t ht, h, hsplit s' t' ht']
  subst hlast
  exact ⟨List.append_cancel_right h, rfl⟩

/-- **A key determines the name and the total.** -/
theorem shardGroupKey_inj (h : shardGroupKey shard = shardGroupKey shard') :
    shard.family = shard'.family ∧ shard.total = shard'.total := by
  have hlist := congrArg String.toList h
  simp only [shardGroupKey, String.toList_append, List.append_assoc] at hlist
  obtain ⟨hfamily, htotal⟩ := append_colon_inj (colon_not_mem_totalText shard.total)
    (colon_not_mem_totalText shard'.total) hlist
  exact ⟨String.toList_inj.mp hfamily, totalText_inj.mp (String.toList_inj.mp htotal)⟩

end Keys

/-! ## Ranked families -/

section Families

variable {localeCompare : String → String → ℤ} {shard : CandidateShard} {shards shards' : List CandidateShard}
  {files files' : List HfTreeFile} {k : String}

/-- All shards have the name, the key and the total of the given one. -/
def Uniform (shard : CandidateShard) (shards : List CandidateShard) : Prop :=
  ∀ other ∈ shards, other.family = shard.family ∧ other.groupKey = shard.groupKey ∧ other.total = shard.total

theorem Uniform.perm (h : Uniform shard shards) (hperm : shards.Perm shards') : Uniform shard shards' :=
  fun other hother => h other (hperm.mem_iff.mpr hother)

/-- The candidates with one key are alike. -/
theorem uniform_of_mem (h : (k, shards) ∈ groupBy CandidateShard.groupKey (candidates files))
    (hshard : shard ∈ shards) : shard.groupKey = k ∧ Uniform shard shards := by
  obtain ⟨rfl, -⟩ := mem_groupBy.mp h
  have hmem : ∀ other ∈ withKey CandidateShard.groupKey k (candidates files),
      other.groupKey = k ∧ ∃ file, candidateOf file = other := by
    intro other hother
    obtain ⟨hin, hkey⟩ := mem_withKey.mp hother
    obtain ⟨file, -, hfile⟩ := List.mem_map.mp hin
    exact ⟨hkey, file, hfile⟩
  obtain ⟨hkey, file, rfl⟩ := hmem shard hshard
  refine ⟨hkey, fun other hother => ?_⟩
  obtain ⟨hkey', file', rfl⟩ := hmem other hother
  have heq : shardGroupKey (parseShard file'.path) = shardGroupKey (parseShard file.path) :=
    hkey'.trans hkey.symm
  obtain ⟨hfamily, htotal⟩ := shardGroupKey_inj heq
  exact ⟨hfamily, heq, htotal⟩

theorem eraseDups_replicate (n a : ℕ) : (List.replicate (n + 1) a).eraseDups = [a] := by
  rw [List.replicate_succ, List.eraseDups_cons, List.filter_eq_nil_iff.mpr]
  · rfl
  · intro b hb
    rw [List.eq_of_mem_replicate hb]
    simp

/-- **A family has one declared total at most.** -/
theorem inferExpectedShardCount_eq (h : Uniform shard shards) (hne : shards ≠ []) :
    inferExpectedShardCount shards = .ok shard.total := by
  have htotals : shards.filterMap CandidateShard.total =
      (List.replicate shards.length shard.total).filterMap id := by
    rw [← List.map_id shards, List.filterMap_map, ← List.map_const', List.filterMap_map, List.map_id]
    exact List.filterMap_congr fun other hother => (h other hother).2.2
  obtain ⟨n, hn⟩ := Nat.exists_eq_succ_of_ne_zero (mt List.length_eq_zero_iff.mp hne)
  rw [inferExpectedShardCount, htotals, hn]
  cases shard.total with
  | none => rw [List.filterMap_replicate_of_none rfl]; rfl
  | some total =>
    have hreplicate : (List.replicate n.succ (some total)).filterMap id = List.replicate n.succ total :=
      List.filterMap_replicate_of_some rfl
    rw [hreplicate, eraseDups_replicate]

theorem declaredTotal_of_uniform (h : Uniform shard shards) (hne : shards ≠ []) :
    declaredTotal shards = shard.total := by
  cases htotal : shard.total with
  | some total => exact declaredTotal_eq hne fun other hother => ((h other hother).2.2).trans htotal
  | none =>
    rw [declaredTotal, List.find?_eq_none.mpr, Option.bind_none]
    intro other hother
    rw [(h other hother).2.2, htotal]
    exact Bool.false_ne_true

/-- The order of the shards of a family does not matter to its completeness. -/
theorem complete_perm (h : Uniform shard shards) (hperm : shards.Perm shards') :
    isCompleteShardSet shards = isCompleteShardSet shards' := by
  by_cases hne : shards = []
  · subst hne
    rw [List.nil_perm.mp hperm]
  have hne' : shards' ≠ [] := fun hnil => hne (by rw [hnil] at hperm; exact hperm.eq_nil)
  have hindices := hperm.filterMap CandidateShard.index
  have hruns : ∀ first, Runs first shards ↔ Runs first shards' := by
    intro first
    rw [Runs, Runs, hperm.length_eq]
    exact (hperm.map CandidateShard.index).congr_left _
  have hnil : shards.filterMap CandidateShard.index = [] ↔ shards'.filterMap CandidateShard.index = [] := by
    rw [← List.length_eq_zero_iff, ← List.length_eq_zero_iff, hindices.length_eq]
  rw [Bool.eq_iff_iff, isCompleteShardSet_iff, isCompleteShardSet_iff, declaredTotal_of_uniform h hne,
    declaredTotal_of_uniform (h.perm hperm) hne', hperm.length_eq, hnil]
  simp only [hruns, ne_eq, hne, hne']

theorem perm_sortShards (localeCompare : String → String → ℤ) (shards : List CandidateShard) :
    (sortShards localeCompare shards).Perm shards := List.perm_insertionSort _ _

/-- The family of a group. -/
def familyOf (localeCompare : String → String → ℤ) (shards : List CandidateShard) : RankedFamily where
  family := (shards.head?.map CandidateShard.family).getD "unknown"
  groupKey := (shards.head?.map CandidateShard.groupKey).getD "unknown"
  shards := sortShards localeCompare shards
  bytes := (shards.map CandidateShard.size).sum
  expectedShardCount := shards.head?.bind CandidateShard.total
  complete := isCompleteShardSet (sortShards localeCompare shards)

theorem rankFamily_eq (h : Uniform shard shards) (hshard : shard ∈ shards) :
    rankFamily localeCompare shards = .ok (familyOf localeCompare shards) := by
  have hperm := perm_sortShards localeCompare shards
  have hne : sortShards localeCompare shards ≠ [] := fun hnil => by
    rw [hnil] at hperm
    rw [hperm.symm.eq_nil] at hshard
    cases hshard
  have hhead : shards.head?.bind CandidateShard.total = shard.total := by
    obtain ⟨first, rest, rfl⟩ := List.exists_cons_of_ne_nil (List.ne_nil_of_mem hshard)
    exact (h first List.mem_cons_self).2.2
  rw [rankFamily, inferExpectedShardCount_eq (h.perm hperm.symm) hne, familyOf, hhead,
    ← (hperm.map CandidateShard.size).sum_eq]
  rfl

/-- The families of a listing. -/
def families (localeCompare : String → String → ℤ) (files : List HfTreeFile) : List RankedFamily :=
  (groupBy CandidateShard.groupKey (candidates files)).map fun group => familyOf localeCompare group.2

theorem mapM_ok {α β : Type} {f : α → Except String β} {g : α → β} {l : List α}
    (h : ∀ a ∈ l, f a = .ok (g a)) : l.mapM f = .ok (l.map g) := by
  induction l with
  | nil => rfl
  | cons a l ih =>
    obtain ⟨ha, hl⟩ := List.forall_mem_cons.mp h
    rw [List.mapM_cons, ha, ih hl]
    rfl

/-- **The families of a listing are ranked, whatever it holds.** -/
theorem summarize_eq : summarizeServedWeightSize localeCompare files =
    selectFamily ((families localeCompare files).insertionSort fun a b => compareFamilies a b ≤ 0)
      ((ignoredFiles files).map HfTreeFile.path) := by
  have hrank : (groupBy CandidateShard.groupKey (candidates files)).mapM
      (fun group => rankFamily localeCompare group.2) = .ok (families localeCompare files) := by
    refine mapM_ok fun group hgroup => ?_
    obtain ⟨shard, hshard⟩ := List.exists_mem_of_ne_nil _ (mem_groupBy.mp hgroup).2
    exact rankFamily_eq (uniform_of_mem hgroup hshard).2 hshard
  unfold summarizeServedWeightSize
  by_cases hnil : candidates files = []
  · rw [families, hnil]
    rfl
  · rw [if_neg (mt List.length_eq_zero_iff.mp hnil)]
    dsimp only
    rw [hrank]
    rfl

end Families

/-! ## The order of the families -/

/-- Complete before incomplete, `model` before other names, declared before undeclared, large before
small. -/
def rank (family : RankedFamily) : Bool ×ₗ Bool ×ₗ Bool ×ₗ ℤ :=
  toLex (family.complete, toLex (decide (family.family = "model"),
    toLex (family.expectedShardCount.isSome, family.bytes)))

theorem compareFamilies_le {a b : RankedFamily} : compareFamilies a b ≤ 0 ↔ rank b ≤ rank a := by
  simp only [compareFamilies, rank, Prod.Lex.le_iff, ofLex_toLex]
  cases a.complete <;> cases b.complete <;> simp
  all_goals
    by_cases ha : a.family = "model" <;> by_cases hb : b.family = "model" <;> simp [ha, hb]
    all_goals
      cases a.expectedShardCount.isSome <;> cases b.expectedShardCount.isSome <;> simp

instance : Std.Total fun a b : RankedFamily => compareFamilies a b ≤ 0 where
  total a b := by
    rw [compareFamilies_le, compareFamilies_le]
    exact le_total _ _

instance : IsTrans RankedFamily fun a b => compareFamilies a b ≤ 0 where
  trans a b c hab hbc := by
    rw [compareFamilies_le] at *
    exact hbc.trans hab

/-- What a summary comes to: no candidates, an error, or a number of bytes. -/
inductive Outcome
  | null | thrown | bytes (n : ℤ)
  deriving DecidableEq, Repr

def outcomeOf : Except String (Option ServedWeightSizeResult) → Outcome
  | .ok none => .null
  | .ok (some result) => .bytes result.bytes
  | .error _ => .thrown

/-- The outcome when the family is selected. -/
def RankedFamily.outcome (family : RankedFamily) : Outcome :=
  if family.complete then .bytes family.bytes else .thrown

section Selection

variable {localeCompare : String → String → ℤ} {files files' : List HfTreeFile} {ranked rest : List RankedFamily}
  {selected : RankedFamily} {ignoredPaths : List String}

theorem outcome_selectFamily : outcomeOf (selectFamily (selected :: rest) ignoredPaths) = selected.outcome := by
  rw [selectFamily, RankedFamily.outcome]
  cases selected.complete <;> rfl

theorem outcome_of_rank {a b : RankedFamily} (h : rank a = rank b) : a.outcome = b.outcome := by
  simp only [rank, toLex_inj, Prod.mk.injEq] at h
  rw [RankedFamily.outcome, RankedFamily.outcome, h.1, h.2.2.2]

/-- Either there are no candidates, or the outcome is that of a family of the greatest rank. -/
theorem outcome_cases (localeCompare : String → String → ℤ) (files : List HfTreeFile) :
    (families localeCompare files = [] ∧
        outcomeOf (summarizeServedWeightSize localeCompare files) = .null) ∨
      ∃ selected ∈ families localeCompare files, (∀ family ∈ families localeCompare files,
        rank family ≤ rank selected) ∧
        outcomeOf (summarizeServedWeightSize localeCompare files) = selected.outcome := by
  rw [summarize_eq]
  have hperm := List.perm_insertionSort (fun a b => compareFamilies a b ≤ 0) (families localeCompare files)
  cases hsorted : (families localeCompare files).insertionSort fun a b => compareFamilies a b ≤ 0 with
  | nil =>
    rw [hsorted] at hperm
    exact .inl ⟨hperm.symm.eq_nil, rfl⟩
  | cons selected rest =>
    have hbest := firstBest_of_head? (a := selected) (by rw [hsorted]; rfl)
    exact .inr ⟨selected, hbest.mem, fun family hfamily => compareFamilies_le.mp (hbest.le hfamily),
      outcome_selectFamily⟩

/-- A family of the listing, with what it is read off. -/
theorem mem_families {family : RankedFamily} (h : family ∈ families localeCompare files) :
    ∃ k shard shards, (k, shards) ∈ groupBy CandidateShard.groupKey (candidates files) ∧
      shard ∈ shards ∧ Uniform shard shards ∧ shard.groupKey = k ∧
      family = familyOf localeCompare shards := by
  obtain ⟨⟨k, shards⟩, hgroup, rfl⟩ := List.mem_map.mp h
  obtain ⟨shard, hshard⟩ := List.exists_mem_of_ne_nil _ (mem_groupBy.mp hgroup).2
  obtain ⟨hkey, huniform⟩ := uniform_of_mem hgroup hshard
  exact ⟨k, shard, shards, hgroup, hshard, huniform, hkey, rfl⟩

theorem familyOf_eq {shard : CandidateShard} {shards : List CandidateShard} (h : Uniform shard shards)
    (hshard : shard ∈ shards) : familyOf localeCompare shards = {
      family := shard.family
      groupKey := shard.groupKey
      shards := sortShards localeCompare shards
      bytes := (shards.map CandidateShard.size).sum
      expectedShardCount := shard.total
      complete := isCompleteShardSet shards } := by
  obtain ⟨first, rest, rfl⟩ := List.exists_cons_of_ne_nil (List.ne_nil_of_mem hshard)
  obtain ⟨hfamily, hkey, htotal⟩ := h first List.mem_cons_self
  have hcomplete := complete_perm (h.perm (perm_sortShards localeCompare _).symm) (perm_sortShards localeCompare _)
  rw [familyOf, hcomplete]
  simp only [List.head?_cons, Option.map_some, Option.getD_some, Option.bind_some, hfamily, hkey, htotal]

theorem candidates_perm (h : files.Perm files') : (candidates files).Perm (candidates files') :=
  (h.filter _).map _

/-- A reordered listing has a family of the same rank. -/
theorem rank_perm (h : files.Perm files') {family : RankedFamily}
    (hfamily : family ∈ families localeCompare files) :
    ∃ family' ∈ families localeCompare files', rank family' = rank family := by
  obtain ⟨k, shard, shards, hgroup, hshard, huniform, -, rfl⟩ := mem_families hfamily
  obtain ⟨shards', hgroup', hperm⟩ := groupBy_perm (candidates_perm h) hgroup
  refine ⟨familyOf localeCompare shards', List.mem_map.mpr ⟨_, hgroup', rfl⟩, ?_⟩
  rw [familyOf_eq (huniform.perm hperm) (hperm.mem_iff.mp hshard), familyOf_eq huniform hshard, rank, rank]
  dsimp only
  rw [complete_perm huniform hperm, (hperm.map CandidateShard.size).sum_eq]

/-- **The order of a listing does not matter to the outcome.** -/
theorem outcome_perm (h : files.Perm files') :
    outcomeOf (summarizeServedWeightSize localeCompare files) =
      outcomeOf (summarizeServedWeightSize localeCompare files') := by
  rcases outcome_cases localeCompare files with ⟨hnil, hnull⟩ | ⟨selected, hmem, hmax, hout⟩
  · rcases outcome_cases localeCompare files' with ⟨-, hnull'⟩ | ⟨selected', hmem', -, -⟩
    · rw [hnull, hnull']
    · obtain ⟨family, hfamily, -⟩ := rank_perm h.symm hmem'
      rw [hnil] at hfamily
      cases hfamily
  · rcases outcome_cases localeCompare files' with ⟨hnil', -⟩ | ⟨selected', hmem', hmax', hout'⟩
    · obtain ⟨family, hfamily, -⟩ := rank_perm h hmem
      rw [hnil'] at hfamily
      cases hfamily
    · obtain ⟨family, hfamily, hrank⟩ := rank_perm h hmem
      obtain ⟨family', hfamily', hrank'⟩ := rank_perm h.symm hmem'
      rw [hout, hout']
      refine outcome_of_rank (le_antisymm ?_ ?_)
      · rw [← hrank]
        exact hmax' family hfamily
      · rw [← hrank']
        exact hmax family' hfamily'

end Selection

/-! ## Where the files go -/

/-- The size of a file that is listed with one. -/
def sizeOfFile (file : HfTreeFile) : ℤ := file.size.getD 0

/-- What a summary tells of a family that is not selected. -/
def alternateOf (files : List HfTreeFile) : AlternateFamily where
  family := (files.head?.map fun file => (parseShard file.path).family).getD "unknown"
  shardCount := files.length
  bytes := (files.map sizeOfFile).sum

/-- The eligible files are the ignored ones, the selected ones, and those of the alternate families. -/
structure Accounted (files : List HfTreeFile) (result : ServedWeightSizeResult) (selected : List HfTreeFile)
    (alternates : List (List HfTreeFile)) : Prop where
  everyFile : (ignoredFiles files ++ selected ++ alternates.flatten).Perm (files.filter isServable)
  complete : isCompleteShardSet (selected.map candidateOf) = true
  bytes : result.bytes = (selected.map sizeOfFile).sum
  paths : result.paths = selected.map HfTreeFile.path
  alternateFamilies : result.alternateFamilies = alternates.map alternateOf
  ignoredPaths : result.ignoredPaths = (ignoredFiles files).map HfTreeFile.path

section Accounts

variable {localeCompare : String → String → ℤ} {files : List HfTreeFile} {result : ServedWeightSizeResult}

/-- The files of each family. -/
def fileGroups (files : List HfTreeFile) : JsMap String (List HfTreeFile) :=
  groupBy (fun file => (candidateOf file).groupKey) (servedFiles files)

def familyOfFiles (localeCompare : String → String → ℤ) (group : String × List HfTreeFile) : RankedFamily :=
  familyOf localeCompare (group.2.map candidateOf)

theorem families_eq : families localeCompare files =
    (fileGroups files).map (familyOfFiles localeCompare) := by
  rw [families, candidates, groupBy_map, JsMap.mapValues, List.map_map]
  rfl

theorem groupKey_familyOfFiles {group : String × List HfTreeFile} (h : group ∈ fileGroups files) :
    (familyOfFiles localeCompare group).groupKey = group.1 := by
  obtain ⟨hgroup, hne⟩ := mem_groupBy.mp h
  obtain ⟨file, rest, hfiles⟩ := List.exists_cons_of_ne_nil hne
  have hfile : file ∈ group.2 := by
    rw [hfiles]
    exact List.mem_cons_self
  have hkey : (candidateOf file).groupKey = group.1 := by
    rw [hgroup] at hfile
    exact (mem_withKey.mp hfile).2
  rw [familyOfFiles, hfiles]
  exact hkey

def sortFiles (localeCompare : String → String → ℤ) (files : List HfTreeFile) : List HfTreeFile :=
  files.insertionSort fun a b => localeCompare a.path b.path ≤ 0

theorem perm_sortFiles (localeCompare : String → String → ℤ) (files : List HfTreeFile) :
    (sortFiles localeCompare files).Perm files := List.perm_insertionSort _ _

theorem map_sortFiles (files : List HfTreeFile) : (sortFiles localeCompare files).map candidateOf =
    sortShards localeCompare (files.map candidateOf) :=
  List.map_insertionSort _ _ _ _ fun _ _ _ _ => Iff.rfl

theorem sum_sizes (files : List HfTreeFile) :
    ((files.map candidateOf).map CandidateShard.size).sum = (files.map sizeOfFile).sum := by
  rw [List.map_map]
  rfl

theorem alternateOf_eq (group : String × List HfTreeFile) :
    alternateOf group.2 = {
      family := (familyOfFiles localeCompare group).family
      shardCount := (familyOfFiles localeCompare group).shards.length
      bytes := (familyOfFiles localeCompare group).bytes } := by
  have hlength : (sortShards localeCompare (group.2.map candidateOf)).length = group.2.length := by
    rw [(perm_sortShards localeCompare _).length_eq, List.length_map]
  rw [alternateOf, familyOfFiles, familyOf, hlength, sum_sizes, List.head?_map, Option.map_map]
  rfl

/-- The packaged and the other eligible files. -/
theorem perm_servable (files : List HfTreeFile) :
    (ignoredFiles files ++ servedFiles files).Perm (files.filter isServable) := by
  have hsplit := List.filter_append_perm (fun file => isPackaged file.path) (files.filter isServable)
  rw [List.filter_filter, List.filter_filter] at hsplit
  have hignored : ignoredFiles files = files.filter fun file => isPackaged file.path && isServable file :=
    List.filter_congr fun file _ => Bool.and_comm _ _
  have hserved : servedFiles files = files.filter fun file => !isPackaged file.path && isServable file :=
    List.filter_congr fun file _ => Bool.and_comm _ _
  rw [hignored, hserved]
  exact hsplit

/-- **Where the files of a summary go.** -/
theorem accounted_of_summary (h : summarizeServedWeightSize localeCompare files = .ok (some result)) :
    ∃ selected alternates, Accounted files result selected alternates := by
  let sorted := (fileGroups files).insertionSort fun a b =>
    compareFamilies (familyOfFiles localeCompare a) (familyOfFiles localeCompare b) ≤ 0
  have hperm : sorted.Perm (fileGroups files) := List.perm_insertionSort _ _
  have hranked : sorted.map (familyOfFiles localeCompare) =
      (families localeCompare files).insertionSort fun a b => compareFamilies a b ≤ 0 := by
    rw [families_eq]
    exact List.map_insertionSort _ _ _ _ fun _ _ _ _ => Iff.rfl
  have hkeys : ∀ group ∈ sorted, (familyOfFiles localeCompare group).groupKey = group.1 :=
    fun group hgroup => groupKey_familyOfFiles (hperm.mem_iff.mp hgroup)
  have hnodup : (sorted.map Prod.fst).Nodup := by
    rw [(hperm.map Prod.fst).nodup_iff]
    exact nodup_keys_groupBy
  rw [summarize_eq, ← hranked] at h
  cases hsorted : sorted with
  | nil =>
    rw [hsorted] at h
    cases h
  | cons group rest =>
    rw [hsorted] at h hkeys hperm hnodup
    rw [List.map_cons, selectFamily] at h
    by_cases hcomplete : (familyOfFiles localeCompare group).complete = true
    · rw [hcomplete, Bool.not_true, if_neg Bool.false_ne_true] at h
      obtain ⟨hkey, hrest⟩ := List.forall_mem_cons.mp hkeys
      obtain ⟨hfresh, -⟩ := List.nodup_cons.mp hnodup
      have hothers : ((familyOfFiles localeCompare group :: rest.map (familyOfFiles localeCompare)).filter
          fun entry => entry.groupKey ≠ (familyOfFiles localeCompare group).groupKey) =
            rest.map (familyOfFiles localeCompare) := by
        rw [List.filter_cons_of_neg (by simp), List.filter_eq_self]
        intro entry hentry
        obtain ⟨other, hother, rfl⟩ := List.mem_map.mp hentry
        rw [hrest other hother, hkey, decide_eq_true_eq]
        rintro heq
        exact hfresh (heq ▸ List.mem_map_of_mem hother)
      rw [hothers] at h
      refine ⟨sortFiles localeCompare group.2, rest.map Prod.snd, ?_, ?_, ?_, ?_, ?_, ?_⟩
      · refine List.Perm.trans ?_ (perm_servable files)
        rw [List.append_assoc]
        refine List.Perm.append_left _ ?_
        have hgroups : (group.2 ++ (rest.map Prod.snd).flatten).Perm (servedFiles files) := by
          have hflat := (hperm.flatMap_right Prod.snd).trans (flatMap_groupBy _)
          rwa [List.flatMap_cons, List.flatMap_def] at hflat
        exact ((perm_sortFiles localeCompare group.2).append_right _).trans hgroups
      · rw [map_sortFiles]
        exact hcomplete
      · rw [← Option.some.inj (Except.ok.inj h), ((perm_sortFiles localeCompare group.2).map sizeOfFile).sum_eq]
        exact sum_sizes _
      · rw [← Option.some.inj (Except.ok.inj h)]
        dsimp only
        rw [show (familyOfFiles localeCompare group).shards = (sortFiles localeCompare group.2).map candidateOf from
          (map_sortFiles _).symm, List.map_map]
        rfl
      · rw [← Option.some.inj (Except.ok.inj h)]
        dsimp only
        rw [List.map_map, List.map_map]
        exact List.map_congr_left fun other _ => (alternateOf_eq other).symm
      · rw [← Option.some.inj (Except.ok.inj h)]
    · rw [Bool.eq_false_iff.mpr hcomplete, Bool.not_false, if_pos rfl] at h
      cases h

/-- The bytes of the selected and of the alternate families are those of all candidates. -/
theorem Accounted.total {selected : List HfTreeFile} {alternates : List (List HfTreeFile)}
    (h : Accounted files result selected alternates) :
    result.bytes + (result.alternateFamilies.map AlternateFamily.bytes).sum =
      ((candidates files).map CandidateShard.size).sum := by
  have hfiles := ((h.everyFile.trans (perm_servable files).symm).map sizeOfFile).sum_eq
  rw [List.append_assoc, List.map_append, List.map_append, List.map_append, List.sum_append, List.sum_append,
    List.sum_append] at hfiles
  have halternates : (result.alternateFamilies.map AlternateFamily.bytes).sum =
      (alternates.flatten.map sizeOfFile).sum := by
    rw [h.alternateFamilies, List.map_map, List.map_flatten, List.sum_flatten, List.map_map]
    rfl
  rw [candidates, sum_sizes, h.bytes, halternates]
  exact add_left_cancel hfiles

theorem message_of_summary {message : String}
    (h : summarizeServedWeightSize localeCompare files = .error message) :
    ∃ family, message = incompleteMessage family := by
  rw [summarize_eq] at h
  unfold selectFamily at h
  split at h
  · cases h
  · split_ifs at h
    exact ⟨_, (Except.error.inj h).symm⟩

theorem head_incompleteMessage (family : RankedFamily) :
    (incompleteMessage family).toList.head? = some 'I' := by
  unfold incompleteMessage
  rw [String.append_assoc, String.append_assoc, String.append_assoc, String.append_assoc,
    String.toList_append, List.head?_append]
  rfl

theorem head_conflictMessage (totals : List ℕ) : (conflictMessage totals).toList.head? = some 'C' := by
  unfold conflictMessage
  rw [String.toList_append, List.head?_append]
  rfl

theorem message_ne (family : RankedFamily) (totals : List ℕ) :
    incompleteMessage family ≠ conflictMessage totals := by
  intro h
  have hhead := head_incompleteMessage family
  rw [h, head_conflictMessage] at hhead
  exact absurd hhead (by decide)

end Accounts

/-- **The served weight size of a listing.** Its outcome does not depend on the order of the listing, a
summary accounts for every eligible file, and the totals of a family never conflict. -/
theorem servedWeight_accounted (localeCompare : String → String → ℤ) (files : List HfTreeFile) :
    (∀ files', files.Perm files' → outcomeOf (summarizeServedWeightSize localeCompare files) =
      outcomeOf (summarizeServedWeightSize localeCompare files')) ∧
    (∀ result, summarizeServedWeightSize localeCompare files = .ok (some result) →
      (∃ selected alternates, Accounted files result selected alternates) ∧
        result.bytes + (result.alternateFamilies.map AlternateFamily.bytes).sum =
          ((candidates files).map CandidateShard.size).sum) ∧
    ∀ totals, summarizeServedWeightSize localeCompare files ≠ .error (conflictMessage totals) := by
  refine ⟨fun files' h => outcome_perm h, fun result h => ?_, fun totals h => ?_⟩
  · obtain ⟨selected, alternates, haccounted⟩ := accounted_of_summary h
    exact ⟨⟨selected, alternates, haccounted⟩, haccounted.total⟩
  · obtain ⟨family, hfamily⟩ := message_of_summary h
    exact message_ne family totals hfamily.symm

end Benchmarker.Discovery
