import Mathlib.Data.List.Basic
import Benchmarker.Js.Regex

/-!
# Container names

`modelIdToContainerName`: the id of a model in lower case, with dashes for everything that a container
name cannot hold, for slashes, and for runs of dashes, and without a dash at either end.

* `collapseDashes`, `trimDashes`, `modelIdToContainerName`: the rewrites.
* `wordsOf`, `modelWords`: the words of an id, the runs of characters that are kept.
* **`sanitize_eq`**: a sanitized id is its words with dashes between. **`containerName_eq_iff`**: the name
  determines the words, and nothing else.
-/

namespace Benchmarker.Deployment

open Js

/-- A character of a name, the dash aside. -/
def isNameChar (c : Char) : Bool := ('a' ≤ c && c ≤ 'z') || c.isDigit || c = '_' || c = '.'

/-- Every run of dashes becomes one dash. -/
def collapseDashes : List Char → List Char
  | [] => []
  | [c] => [c]
  | c :: d :: cs =>
    if c = '-' ∧ d = '-' then collapseDashes (d :: cs) else c :: collapseDashes (d :: cs)

/-- A text without a dash at its start. -/
def dropDash (s : List Char) : List Char := if s.head? = some '-' then s.tail else s

/-- One dash goes at either end. -/
def trimDashes (s : List Char) : List Char :=
  if (dropDash s).getLast? = some '-' then (dropDash s).dropLast else dropDash s

def sanitize (modelId : String) : List Char :=
  let lower := (toLowerCase modelId).toList
  let unslashed := lower.map fun c => if c = '/' then '-' else c
  let replaced := unslashed.map fun c => if isNameChar c || c = '-' then c else '-'
  trimDashes (collapseDashes replaced)

def defaultContainerNamePrefix : String := "vllm-model"

def modelIdToContainerName (modelId namePrefix : String) : String :=
  namePrefix ++ "-" ++ String.ofList (sanitize modelId)

/-! ## Words -/

/-- The runs of characters that a name keeps. -/
def wordsOf : List Char → List (List Char)
  | [] => []
  | c :: cs =>
    if isNameChar c then
      match cs.head?.any isNameChar, wordsOf cs with
      | true, w :: ws => (c :: w) :: ws
      | _, ws => [c] :: ws
    else wordsOf cs

/-- The words of a model id, in lower case. -/
def modelWords (modelId : String) : List (List Char) := wordsOf (toLowerCase modelId).toList

/-- What the two replacements make of a character. -/
def nameChar (c : Char) : Char := if isNameChar c then c else '-'

section Words

variable {c : Char} {s : List Char}

theorem ne_dash (h : isNameChar c = true) : c ≠ '-' := by
  rintro rfl
  cases h

theorem replaced_eq (s : List Char) : ((s.map fun c => if c = '/' then '-' else c).map fun c =>
    if isNameChar c || c = '-' then c else '-') = s.map nameChar := by
  rw [List.map_map]
  refine List.map_congr_left fun c _ => ?_
  by_cases hslash : c = '/'
  · subst hslash
    decide
  · by_cases hdash : c = '-'
    · subst hdash
      decide
    · simp [nameChar, hslash, hdash]

theorem collapseDashes_cons (h : c ≠ '-') : collapseDashes (c :: s) = c :: collapseDashes s := by
  cases s with
  | nil => rfl
  | cons d s => rw [collapseDashes, if_neg fun hd => h hd.1]

theorem head?_collapseDashes (s : List Char) : (collapseDashes s).head? = s.head? := by
  induction s using collapseDashes.induct with
  | case1 => rfl
  | case2 c => rfl
  | case3 c d cs h ih => rw [collapseDashes, if_pos h, ih, h.1, h.2]; rfl
  | case4 c d cs h ih => rw [collapseDashes, if_neg h]; rfl

theorem dropDash_cons (h : c ≠ '-') : dropDash (c :: s) = c :: s := by
  rw [dropDash, if_neg]
  simpa using h

/-- A dash at the start of a text is dropped with the dashes after it. -/
theorem dropDash_collapseDashes (s : List Char) :
    dropDash (collapseDashes ('-' :: s)) = dropDash (collapseDashes s) := by
  cases s with
  | nil => rfl
  | cons d s =>
    by_cases hd : d = '-'
    · rw [hd, collapseDashes, if_pos ⟨rfl, rfl⟩]
    · rw [collapseDashes, if_neg fun h => hd h.2, collapseDashes_cons hd, dropDash_cons hd]
      rfl

theorem collapseDashes_of_head (h : s.head? = some '-') :
    collapseDashes s = '-' :: dropDash (collapseDashes s) := by
  have hhead := head?_collapseDashes s
  rw [h] at hhead
  rw [dropDash, if_pos hhead]
  exact (List.cons_head?_tail hhead).symm

theorem wordsOf_cons_of_not (h : isNameChar c = false) : wordsOf (c :: s) = wordsOf s := by
  rw [wordsOf, h, if_neg Bool.false_ne_true]

theorem wordsOf_ne_nil (h : s.head?.any isNameChar = true) : wordsOf s ≠ [] := by
  cases s with
  | nil => cases h
  | cons c s =>
    have hc : isNameChar c = true := by simpa using h
    rw [wordsOf, if_pos hc]
    split <;> simp

/-- A character that starts a word, or the only word of the rest. -/
theorem wordsOf_cons_of_head (hc : isNameChar c = true) (hs : s.head?.any isNameChar = false) :
    wordsOf (c :: s) = [c] :: wordsOf s := by
  rw [wordsOf, if_pos hc, hs]

theorem wordsOf_cons (hc : isNameChar c = true) (hs : s.head?.any isNameChar = true) :
    ∃ w ws, wordsOf s = w :: ws ∧ wordsOf (c :: s) = (c :: w) :: ws := by
  obtain ⟨w, ws, hws⟩ := List.exists_cons_of_ne_nil (wordsOf_ne_nil hs)
  exact ⟨w, ws, hws, by rw [wordsOf, if_pos hc, hs, hws]⟩

theorem mem_wordsOf {w : List Char} (h : w ∈ wordsOf s) : w ≠ [] ∧ ∀ c ∈ w, isNameChar c = true := by
  induction s generalizing w with
  | nil => cases h
  | cons c s ih =>
    by_cases hc : isNameChar c = true
    · by_cases hs : s.head?.any isNameChar = true
      · obtain ⟨v, vs, hws, hcons⟩ := wordsOf_cons hc hs
        rw [hcons] at h
        rcases List.mem_cons.mp h with rfl | h
        · have hv := ih (by rw [hws]; exact List.mem_cons_self)
          exact ⟨List.cons_ne_nil _ _, List.forall_mem_cons.mpr ⟨hc, hv.2⟩⟩
        · exact ih (by rw [hws]; exact List.mem_cons_of_mem _ h)
      · rw [wordsOf_cons_of_head hc (Bool.eq_false_iff.mpr hs)] at h
        rcases List.mem_cons.mp h with rfl | h
        · exact ⟨List.cons_ne_nil _ _, List.forall_mem_singleton.mpr hc⟩
        · exact ih h
    · rw [wordsOf_cons_of_not (Bool.eq_false_iff.mpr hc)] at h
      exact ih h

/-! ## What is left of an id -/

theorem nameChar_of_isNameChar (h : isNameChar c = true) : nameChar c = c := if_pos h

theorem head?_map_nameChar (h : s.head?.any isNameChar = false) (hne : s ≠ []) :
    (s.map nameChar).head? = some '-' := by
  obtain ⟨c, s, rfl⟩ := List.exists_cons_of_ne_nil hne
  have hc : isNameChar c = false := by simpa using h
  simp [nameChar, hc]

theorem dropDash_of_head (h : s.head?.any isNameChar = true) :
    dropDash (collapseDashes (s.map nameChar)) = collapseDashes (s.map nameChar) := by
  cases s with
  | nil => cases h
  | cons c s =>
    have hc : isNameChar c = true := by simpa using h
    rw [List.map_cons, nameChar_of_isNameChar hc, collapseDashes_cons (ne_dash hc),
      dropDash_cons (ne_dash hc)]

theorem intercalate_ne_nil {w : List Char} (ws : List (List Char)) (h : w ≠ []) :
    ['-'].intercalate (w :: ws) ≠ [] := by
  obtain ⟨c, w, rfl⟩ := List.exists_cons_of_ne_nil h
  rw [List.intercalate_cons_cons_left]
  exact List.cons_ne_nil _ _

/-- Without the dash at its start an id is its words, and at most a dash. -/
theorem dropDash_collapse_eq (s : List Char) :
    ∃ t, dropDash (collapseDashes (s.map nameChar)) = ['-'].intercalate (wordsOf s) ++ t ∧
      (t = [] ∨ t = ['-'] ∧ wordsOf s ≠ []) := by
  induction s with
  | nil => exact ⟨[], by simp [collapseDashes, dropDash, wordsOf], .inl rfl⟩
  | cons c s ih =>
    obtain ⟨t, hs, ht⟩ := ih
    by_cases hc : isNameChar c = true
    · rw [List.map_cons, nameChar_of_isNameChar hc, collapseDashes_cons (ne_dash hc),
        dropDash_cons (ne_dash hc)]
      by_cases hhead : s.head?.any isNameChar = true
      · obtain ⟨w, ws, hws, hcons⟩ := wordsOf_cons hc hhead
        rw [dropDash_of_head hhead, hws] at hs
        refine ⟨t, ?_, ht.imp_right fun h => ⟨h.1, by simp [hcons]⟩⟩
        rw [hs, hcons, List.intercalate_cons_cons_left, List.cons_append]
      · have hhead := Bool.eq_false_iff.mpr hhead
        rw [wordsOf_cons_of_head hc hhead]
        by_cases hne : s = []
        · subst hne
          exact ⟨[], by simp [collapseDashes, wordsOf], .inl rfl⟩
        · rw [collapseDashes_of_head (head?_map_nameChar hhead hne), hs]
          cases hws : wordsOf s with
          | nil =>
            rw [hws] at ht
            have hnil : t = [] := ht.resolve_right fun h => h.2 rfl
            exact ⟨['-'], by simp [hnil], .inr ⟨rfl, by simp⟩⟩
          | cons w ws => exact ⟨t, by simp, ht.imp_right fun h => ⟨h.1, by simp⟩⟩
    · have hc := Bool.eq_false_iff.mpr hc
      refine ⟨t, ?_, ?_⟩
      · rw [List.map_cons, nameChar, if_neg (by simp [hc]), dropDash_collapseDashes, hs,
          wordsOf_cons_of_not hc]
      · rwa [wordsOf_cons_of_not hc]

theorem getLast?_intercalate {ws : List (List Char)}
    (h : ∀ w ∈ ws, w ≠ [] ∧ ∀ c ∈ w, isNameChar c = true) :
    (['-'].intercalate ws).getLast? ≠ some '-' := by
  induction ws with
  | nil => simp
  | cons w ws ih =>
    obtain ⟨hw, hws⟩ := List.forall_mem_cons.mp h
    cases ws with
    | nil =>
      intro hlast
      rw [List.intercalate_singleton] at hlast
      have hdash := hw.2 _ (List.mem_of_getLast? hlast)
      exact absurd hdash (by decide)
    | cons v vs =>
      have hne := intercalate_ne_nil vs (hws v List.mem_cons_self).1
      rw [List.intercalate_cons_cons, List.getLast?_append_of_ne_nil _ hne]
      exact ih hws

/-- **What is left of an id is its words, with dashes between them.** -/
theorem sanitize_eq (modelId : String) :
    sanitize modelId = ['-'].intercalate (modelWords modelId) := by
  obtain ⟨t, hdrop, ht⟩ := dropDash_collapse_eq (toLowerCase modelId).toList
  have hlast := getLast?_intercalate fun w hw => mem_wordsOf (s := (toLowerCase modelId).toList) hw
  simp only [sanitize, replaced_eq, trimDashes, hdrop]
  rcases ht with rfl | ⟨rfl, -⟩
  · rw [List.append_nil, if_neg hlast]
    rfl
  · rw [List.getLast?_append, List.dropLast_concat]
    rfl

theorem sanitize_eq_nil {modelId : String} : sanitize modelId = [] ↔ modelWords modelId = [] := by
  rw [sanitize_eq]
  cases hws : modelWords modelId with
  | nil => simp
  | cons w ws =>
    have hw : w ∈ modelWords modelId := by simp [hws]
    exact iff_of_false (intercalate_ne_nil ws (mem_wordsOf hw).1) (List.cons_ne_nil _ _)

theorem splitOn_sanitize {modelId : String} (h : modelWords modelId ≠ []) :
    (sanitize modelId).splitOn '-' = modelWords modelId := by
  have hdash : ∀ w ∈ modelWords modelId, '-' ∉ w :=
    fun w hw hmem => ne_dash ((mem_wordsOf hw).2 _ hmem) rfl
  rw [sanitize_eq, List.splitOn_intercalate '-' hdash h]

theorem sanitize_eq_iff {modelId other : String} :
    sanitize modelId = sanitize other ↔ modelWords modelId = modelWords other := by
  refine ⟨fun h => ?_, fun h => by rw [sanitize_eq, sanitize_eq, h]⟩
  by_cases hnil : modelWords modelId = []
  · rw [hnil, eq_comm, ← sanitize_eq_nil, ← h, sanitize_eq_nil, hnil]
  · have hother : modelWords other ≠ [] := by rwa [ne_eq, ← sanitize_eq_nil, ← h, sanitize_eq_nil]
    rw [← splitOn_sanitize hnil, h, splitOn_sanitize hother]

/-- The words of an id with dashes between them. -/
def dashed (modelId : String) : String := String.ofList (['-'].intercalate (modelWords modelId))

theorem containerName_eq (modelId namePrefix : String) :
    modelIdToContainerName modelId namePrefix = namePrefix ++ "-" ++ dashed modelId := by
  rw [modelIdToContainerName, sanitize_eq, dashed]

/-- **Two ids have one name exactly when they have the same words.** -/
theorem containerName_eq_iff {modelId other : String} (namePrefix : String) :
    modelIdToContainerName modelId namePrefix = modelIdToContainerName other namePrefix ↔
      modelWords modelId = modelWords other := by
  rw [modelIdToContainerName, modelIdToContainerName, String.append_right_inj,
    String.ofList_inj, sanitize_eq_iff]

example : modelIdToContainerName "Org/Model_7B!" "vllm-model" = "vllm-model-org-model_7b" := by
  decide +kernel

end Words

end Benchmarker.Deployment
