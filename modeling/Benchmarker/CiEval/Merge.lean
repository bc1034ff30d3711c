import Benchmarker.CiEval.Stage2

/-!
# Merging Stage 2 results

A merged result stands for its parts: put in their place, it contributes to every field of a further
merge what they contribute together.

* `failureReasons`: the texts that failing parts contribute to the merged reason.
* `StandsFor`, **`standsFor_merge`**: a merged result and its parts.
* **`merge_merged`**: merging merged parts is merging all of them.
* **`merge_laws`**: what the merge reports of its parts.
-/

namespace Benchmarker

open Js

variable {parts : List Stage2Result} {r merged : Stage2Result}

/-! ## Joined reasons -/

/-- `join('; ')`. -/
def joinReasons (texts : List String) : String := "; ".intercalate texts

theorem joinReasons_append {l m : List String} (hl : l ≠ []) (hm : m ≠ []) :
    joinReasons (l ++ m) = joinReasons l ++ "; " ++ joinReasons m :=
  String.intercalate_append_of_ne_nil hl hm

theorem joinReasons_ne_empty {texts : List String} (h : texts ≠ []) (hne : ∀ t ∈ texts, t ≠ "") :
    joinReasons texts ≠ "" := by
  cases texts with
  | nil => exact absurd rfl h
  | cons t texts =>
    have ht : t ≠ "" := hne t List.mem_cons_self
    by_cases hrest : texts = []
    · rw [hrest, joinReasons, String.intercalate_singleton]
      exact ht
    · rw [joinReasons, String.intercalate_cons_of_ne_nil hrest]
      intro hempty
      rw [String.append_eq_empty_iff, String.append_eq_empty_iff] at hempty
      exact ht hempty.1.1

/-- Texts joined group by group, the empty ones dropped, are the texts joined. -/
theorem joinReasons_groups {groups : List (List String)} (hne : ∀ g ∈ groups, ∀ t ∈ g, t ≠ "") :
    joinReasons (groups.flatMap fun g => [joinReasons g].filter (· ≠ "")) =
      joinReasons groups.flatten := by
  induction groups with
  | nil => rfl
  | cons g groups ih =>
    have ih' := ih fun g' hg' => hne g' (List.mem_cons_of_mem _ hg')
    rw [List.flatMap_cons, List.flatten_cons]
    by_cases hg : g = []
    · rw [hg]
      exact ih'
    · have hjoined : joinReasons g ≠ "" := joinReasons_ne_empty hg (hne g List.mem_cons_self)
      rw [List.filter_cons_of_pos (by simpa using hjoined), List.filter_nil, List.singleton_append]
      by_cases hrest : groups.flatten = []
      · have hnone : (groups.flatMap fun g => [joinReasons g].filter (· ≠ "")) = [] := by
          refine List.flatMap_eq_nil_iff.mpr fun g' hg' => ?_
          rw [List.flatten_eq_nil_iff.mp hrest g' hg']
          rfl
        rw [hnone, hrest, List.append_nil, joinReasons, String.intercalate_singleton]
      · have hsome : (groups.flatMap fun g => [joinReasons g].filter (· ≠ "")) ≠ [] := by
          intro hnone
          rw [hnone] at ih'
          refine joinReasons_ne_empty hrest (fun t ht => ?_) ih'.symm
          obtain ⟨g', hg', ht'⟩ := List.mem_flatten.mp ht
          exact hne g' (List.mem_cons_of_mem _ hg') t ht'
        rw [joinReasons_append hg hrest, ← ih', joinReasons,
          String.intercalate_cons_of_ne_nil hsome]
        rfl

/-- Every joined text is found in the whole. -/
theorem infix_joinReasons {texts : List String} {t : String} (h : t ∈ texts) :
    t.toList <:+: (joinReasons texts).toList := by
  induction texts with
  | nil => cases h
  | cons t' texts ih =>
    by_cases hrest : texts = []
    · subst hrest
      have hone : joinReasons [t'] = t := by
        rw [List.mem_singleton.mp h, joinReasons, String.intercalate_singleton]
      exact hone ▸ List.infix_refl _
    · rw [joinReasons, String.intercalate_cons_of_ne_nil hrest, String.toList_append,
        String.toList_append]
      rcases List.mem_cons.mp h with rfl | h
      · rw [List.append_assoc]
        exact (List.prefix_append _ _).isInfix
      · exact (ih h).trans (List.suffix_append _ _).isInfix

/-! ## What a part contributes -/

/-- `r.reason ?? (r.modelId + ' suite failed')`. -/
def failureText (r : Stage2Result) : String := r.reason.getD s!"{r.modelId} suite failed"

def failureReasons (parts : List Stage2Result) : List String :=
  ((parts.filter (·.status.fails)).map failureText).filter (· ≠ "")

theorem failureReasons_append (parts parts' : List Stage2Result) :
    failureReasons (parts ++ parts') = failureReasons parts ++ failureReasons parts' := by
  simp only [failureReasons, List.filter_append, List.map_append]

theorem failureReasons_flatten (groups : List (List Stage2Result)) :
    failureReasons groups.flatten = groups.flatMap failureReasons := by
  induction groups with
  | nil => rfl
  | cons g groups ih => rw [List.flatten_cons, failureReasons_append, ih, List.flatMap_cons]

theorem ne_empty_of_mem_failureReasons {t : String} (h : t ∈ failureReasons parts) : t ≠ "" := by
  simpa using (List.mem_filter.mp h).2

theorem failureReasons_of_not_fails (h : parts.any (·.status.fails) = false) :
    failureReasons parts = [] := by
  have hnone : parts.filter (·.status.fails) = [] :=
    List.filter_eq_nil_iff.mpr (List.any_eq_false.mp h)
  rw [failureReasons, hnone]
  rfl

theorem failureReasons_cons_nil :
    failureReasons [r] = if r.status.fails = true then [failureText r].filter (· ≠ "") else [] := by
  by_cases h : r.status.fails = true <;> simp [failureReasons, h]

/-- The reason of a failing part is one of the texts. -/
theorem mem_failureReasons (hr : r ∈ parts) (hfails : r.status.fails = true)
    (hne : failureText r ≠ "") : failureText r ∈ failureReasons parts := by
  refine List.mem_filter.mpr ⟨List.mem_map.mpr ⟨r, ?_, rfl⟩, by simpa using hne⟩
  exact List.mem_filter.mpr ⟨hr, hfails⟩

def assignScores (m : JsMap String ℚ) (r : Stage2Result) : JsMap String ℚ :=
  m.assign (r.scores.getD [])

def reportedSuites (r : Stage2Result) : List SuiteResult := r.suiteResults.getD []

/-- Scores are overlaid in turn, however they are grouped. -/
theorem foldl_assignScores (m : JsMap String ℚ) (parts : List Stage2Result) :
    m.assign (parts.foldl assignScores []) = parts.foldl assignScores m := by
  have hflat : ∀ m : JsMap String ℚ, parts.foldl assignScores m =
      m.assign (parts.flatMap fun r => r.scores.getD []) := by
    induction parts with
    | nil => exact fun m => rfl
    | cons r parts ih =>
      intro m
      rw [List.foldl_cons, ih, List.flatMap_cons, JsMap.assign_append]
      rfl
  rw [hflat, hflat, JsMap.assign_assign_nil]

/-! ## Merged results -/

/-- The result that two or more parts are rebuilt into. -/
def rebuilt (first last : Stage2Result) (parts : List Stage2Result) : Stage2Result where
  runId := first.runId
  modelId := first.modelId
  status := if parts.any (·.status.fails) = true then .failed
    else if parts.any (·.status = .partialRun) = true then .partialRun else .success
  scores := some (parts.foldl assignScores [])
  suiteResults := some (parts.flatMap reportedSuites)
  reason := if parts.any (·.status.fails) = true then some (joinReasons (failureReasons parts))
    else none
  startedAt := first.startedAt
  completedAt := last.completedAt

theorem mergeStage2Results_of_two (first second : Stage2Result) (rest : List Stage2Result) :
    mergeStage2Results (first :: second :: rest) =
      .ok (rebuilt first ((first :: second :: rest).getLastD first) (first :: second :: rest)) := by
  have hany (parts : List Stage2Result) : parts.filter (·.status.fails) = [] ↔
      ¬parts.any (·.status.fails) = true := by
    rw [List.filter_eq_nil_iff, Bool.not_eq_true, List.any_eq_false]
  rw [mergeStage2Results]
  · by_cases hfails : (first :: second :: rest).any (·.status.fails) = true
    · have hsome := mt (hany _).mp (not_not_intro hfails)
      simp only [rebuilt, if_neg hsome, if_pos hfails]
      rfl
    · have hnone := (hany _).mpr hfails
      simp only [rebuilt, if_pos hnone, if_neg hfails]
      rfl
  · exact fun h => List.cons_ne_nil _ _ h

/-- In a further merge `r` contributes what `parts` contribute together. -/
structure StandsFor (parts : List Stage2Result) (r : Stage2Result) : Prop where
  fails : r.status.fails = parts.any (·.status.fails)
  partialRun : r.status = .partialRun ↔
    parts.any (·.status.fails) = false ∧ parts.any (·.status = .partialRun) = true
  scores : ∀ m, assignScores m r = parts.foldl assignScores m
  suites : reportedSuites r = parts.flatMap reportedSuites
  reasons : failureReasons [r] = [joinReasons (failureReasons parts)].filter (· ≠ "")
  first : parts.head?.map (fun p => (p.runId, p.modelId, p.startedAt)) =
    some (r.runId, r.modelId, r.startedAt)
  last : parts.getLast?.map (·.completedAt) = some r.completedAt

theorem standsFor_self (r : Stage2Result) : StandsFor [r] r where
  fails := (Bool.or_false _).symm
  partialRun := by
    rw [List.any_cons, List.any_nil, Bool.or_false, List.any_cons, List.any_nil, Bool.or_false,
      decide_eq_true_eq]
    refine ⟨fun h => ⟨?_, h⟩, fun h => h.2⟩
    rw [h]
    rfl
  scores _ := rfl
  suites := (List.append_nil _).symm
  reasons := by
    by_cases h : r.status.fails = true
    · rw [failureReasons_cons_nil, if_pos h]
      by_cases hne : failureText r = ""
      · rw [hne]
        rfl
      · rw [List.filter_cons_of_pos (by simpa using hne), List.filter_nil, joinReasons,
          String.intercalate_singleton, List.filter_cons_of_pos (by simpa using hne),
          List.filter_nil]
    · rw [failureReasons_cons_nil, if_neg h]
      rfl
  first := rfl
  last := rfl

theorem fails_rebuilt (first last : Stage2Result) (parts : List Stage2Result) :
    (rebuilt first last parts).status.fails = parts.any (·.status.fails) := by
  unfold rebuilt
  by_cases hfails : parts.any (·.status.fails) = true
  · rw [if_pos hfails, hfails]
    rfl
  · rw [if_neg hfails, Bool.eq_false_iff.mpr hfails]
    by_cases hpart : parts.any (·.status = .partialRun) = true
    · rw [if_pos hpart]
      rfl
    · rw [if_neg hpart]
      rfl

theorem completedAt_getLastD (first : Stage2Result) (rest : List Stage2Result) :
    (first :: rest).getLast?.map (·.completedAt) =
      some ((first :: rest).getLastD first).completedAt := by
  rw [List.getLastD_eq_getLast?, List.getLast?_cons]
  rfl

theorem partialRun_rebuilt (first last : Stage2Result) (parts : List Stage2Result) :
    (rebuilt first last parts).status = .partialRun ↔
      parts.any (·.status.fails) = false ∧ parts.any (·.status = .partialRun) = true := by
  unfold rebuilt
  by_cases hfails : parts.any (·.status.fails) = true
  · simp [hfails]
  · by_cases hpart : parts.any (·.status = .partialRun) = true <;> simp [hfails, hpart]

theorem success_rebuilt (first last : Stage2Result) (parts : List Stage2Result) :
    (rebuilt first last parts).status = .success ↔
      parts.any (·.status.fails) = false ∧ parts.any (·.status = .partialRun) = false := by
  unfold rebuilt
  by_cases hfails : parts.any (·.status.fails) = true
  · simp [hfails]
  · by_cases hpart : parts.any (·.status = .partialRun) = true <;> simp [hfails, hpart]

theorem standsFor_rebuilt (first second : Stage2Result) (rest : List Stage2Result) :
    StandsFor (first :: second :: rest)
      (rebuilt first ((first :: second :: rest).getLastD first) (first :: second :: rest)) where
  fails := fails_rebuilt _ _ _
  partialRun := partialRun_rebuilt _ _ _
  scores m := foldl_assignScores m _
  suites := rfl
  reasons := by
    rw [failureReasons_cons_nil, fails_rebuilt]
    by_cases hfails : (first :: second :: rest).any (·.status.fails) = true
    · rw [if_pos hfails, failureText, rebuilt]
      simp only [if_pos hfails, Option.getD_some]
    · rw [if_neg hfails, failureReasons_of_not_fails (Bool.not_eq_true _ ▸ hfails)]
      rfl
  first := rfl
  last := completedAt_getLastD _ _

/-- **A merged result stands for its parts.** -/
theorem standsFor_merge (h : mergeStage2Results parts = .ok merged) : StandsFor parts merged := by
  match parts, h with
  | [part], h =>
    cases h
    exact standsFor_self _
  | first :: second :: rest, h =>
    rw [mergeStage2Results_of_two] at h
    cases h
    exact standsFor_rebuilt first second rest

/-! ## Merging merged parts -/

section Groups

variable {groups : List (List Stage2Result)} {rs : List Stage2Result}

theorem ne_nil_of_standsFor (h : StandsFor parts r) : parts ≠ [] := by
  intro hnil
  have hfirst := h.first
  rw [hnil] at hfirst
  cases hfirst

theorem any_fails_of_standsFor (h : List.Forall₂ StandsFor groups rs) :
    rs.any (·.status.fails) = groups.flatten.any (·.status.fails) := by
  induction h with
  | nil => rfl
  | cons hr _ ih => rw [List.any_cons, List.flatten_cons, List.any_append, ih, hr.fails]

/-- Whether some part is partial matters only where none fails. -/
theorem any_partial_of_standsFor (h : List.Forall₂ StandsFor groups rs)
    (hfails : groups.flatten.any (·.status.fails) = false) :
    rs.any (·.status = .partialRun) = groups.flatten.any (·.status = .partialRun) := by
  induction h with
  | nil => rfl
  | @cons g r groups rs hr _ ih =>
    rw [List.flatten_cons, List.any_append, Bool.or_eq_false_iff] at hfails
    rw [List.any_cons, List.flatten_cons, List.any_append, ih hfails.2]
    congr 1
    rw [Bool.eq_iff_iff, decide_eq_true_eq, hr.partialRun]
    exact and_iff_right hfails.1

theorem foldl_scores_of_standsFor (h : List.Forall₂ StandsFor groups rs) :
    ∀ m, rs.foldl assignScores m = groups.flatten.foldl assignScores m := by
  induction h with
  | nil => exact fun m => rfl
  | cons hr _ ih =>
    intro m
    rw [List.foldl_cons, List.flatten_cons, List.foldl_append, ih, hr.scores]

theorem suites_of_standsFor (h : List.Forall₂ StandsFor groups rs) :
    rs.flatMap reportedSuites = groups.flatten.flatMap reportedSuites := by
  induction h with
  | nil => rfl
  | cons hr _ ih =>
    rw [List.flatMap_cons, List.flatten_cons, List.flatMap_append, ih, hr.suites]

theorem reasons_of_standsFor (h : List.Forall₂ StandsFor groups rs) :
    joinReasons (failureReasons rs) = joinReasons (failureReasons groups.flatten) := by
  have hgroups : failureReasons rs =
      (groups.map failureReasons).flatMap fun g => [joinReasons g].filter (· ≠ "") := by
    induction h with
    | nil => rfl
    | @cons g r groups rs hr _ ih =>
      rw [← List.singleton_append, failureReasons_append, ih, hr.reasons, List.map_cons,
        List.flatMap_cons]
  rw [hgroups, joinReasons_groups, ← List.flatMap_def, failureReasons_flatten]
  intro g hg t ht
  obtain ⟨parts, -, rfl⟩ := List.mem_map.mp hg
  exact ne_empty_of_mem_failureReasons ht

theorem completedAt_of_standsFor (h : List.Forall₂ StandsFor groups rs) :
    rs.getLast?.map (·.completedAt) = groups.flatten.getLast?.map (·.completedAt) := by
  induction h with
  | nil => rfl
  | @cons g r groups rs hr hrest ih =>
    rw [List.flatten_cons]
    cases hrest with
    | nil => rw [List.flatten_nil, List.append_nil, hr.last]; rfl
    | @cons g' r' groups rs hr' hrest =>
      have hne : (g' :: groups).flatten ≠ [] := by
        rw [List.flatten_cons]
        exact fun hnil => ne_nil_of_standsFor hr' (List.append_eq_nil_iff.mp hnil).1
      rw [List.getLast?_cons_cons, ih, List.getLast?_append_of_ne_nil _ hne]

/-- Two results of the same parts, grouped in two ways. -/
theorem rebuilt_congr {first last first' last' : Stage2Result} {parts' : List Stage2Result}
    (h : List.Forall₂ StandsFor groups parts) (hparts : groups.flatten = parts')
    (hfirst : (first.runId, first.modelId, first.startedAt) =
      (first'.runId, first'.modelId, first'.startedAt))
    (hlast : last.completedAt = last'.completedAt) :
    rebuilt first last parts = rebuilt first' last' parts' := by
  subst hparts
  obtain ⟨hrun, hmodel, hstart⟩ : first.runId = first'.runId ∧ first.modelId = first'.modelId ∧
      first.startedAt = first'.startedAt := by simpa using hfirst
  rw [rebuilt, rebuilt, any_fails_of_standsFor h, foldl_scores_of_standsFor h,
    suites_of_standsFor h, reasons_of_standsFor h, hrun, hmodel, hstart, hlast]
  by_cases hfails : groups.flatten.any (·.status.fails) = true
  · simp only [if_pos hfails]
  · rw [any_partial_of_standsFor h (Bool.not_eq_true _ ▸ hfails)]

/-- **Merging merged parts is merging all of them.** -/
theorem merge_merged (h : List.Forall₂ (fun g r => mergeStage2Results g = .ok r) groups rs) :
    mergeStage2Results rs = mergeStage2Results groups.flatten := by
  have hstands : List.Forall₂ StandsFor groups rs := h.imp fun _ _ => standsFor_merge
  cases h with
  | nil => rfl
  | @cons g r groups rs hr hrest =>
    cases hrest with
    | nil =>
      rw [List.flatten_cons, List.flatten_nil, List.append_nil, hr]
      rfl
    | @cons g' r' groups rs hr' hrest =>
      have hg := ne_nil_of_standsFor (standsFor_merge hr)
      have hg' := ne_nil_of_standsFor (standsFor_merge hr')
      obtain ⟨p, ps, rfl⟩ := List.exists_cons_of_ne_nil hg
      obtain ⟨q, qs, hq⟩ := List.exists_cons_of_ne_nil
        (fun hnil : ps ++ (g' :: groups).flatten = [] =>
          hg' (List.append_eq_nil_iff.mp (List.append_eq_nil_iff.mp hnil).2).1)
      have hflat : ((p :: ps) :: g' :: groups).flatten = p :: q :: qs := by
        rw [List.flatten_cons, List.cons_append, hq]
      rw [hflat, mergeStage2Results_of_two, mergeStage2Results_of_two]
      refine congrArg Except.ok (rebuilt_congr hstands hflat ?_ ?_)
      · have hfirst := (standsFor_merge hr).first
        rw [List.head?_cons, Option.map_some, Option.some_inj] at hfirst
        exact hfirst.symm
      · have hlast := completedAt_of_standsFor hstands
        rw [hflat, completedAt_getLastD, completedAt_getLastD, Option.some_inj] at hlast
        exact hlast

end Groups

/-! ## What the merge reports -/

theorem Stage2Status.eq_success_iff (s : Stage2Status) :
    s = .success ↔ s.fails = false ∧ ¬s = .partialRun := by
  cases s <;> decide

theorem success_iff (hmerge : mergeStage2Results parts = .ok merged) :
    merged.status = .success ↔ ∀ p ∈ parts, p.status = .success := by
  have hall : (∀ p ∈ parts, p.status = .success) ↔ parts.any (·.status.fails) = false ∧
      parts.any (·.status = .partialRun) = false := by
    rw [List.any_eq_false, List.any_eq_false, ← forall₂_and]
    refine forall₂_congr fun p _ => ?_
    rw [Bool.not_eq_true, decide_eq_true_eq]
    exact p.status.eq_success_iff
  match parts, hmerge with
  | [p], hmerge =>
    cases hmerge
    rw [List.forall_mem_singleton]
  | first :: second :: rest, hmerge =>
    rw [mergeStage2Results_of_two] at hmerge
    cases hmerge
    rw [hall]
    exact success_rebuilt _ _ _

/-- The reason of a failing part stands in the merged reason. -/
theorem reason_mem (h : mergeStage2Results parts = .ok merged) (hr : r ∈ parts)
    (hfails : r.status.fails = true) {text : String} (htext : r.reason = some text) :
    ∃ reason, merged.reason = some reason ∧ text.toList <:+: reason.toList := by
  match parts, h with
  | [p], h =>
    cases h
    rw [List.mem_singleton.mp hr] at htext
    exact ⟨text, htext, List.infix_refl _⟩
  | first :: second :: rest, h =>
    rw [mergeStage2Results_of_two] at h
    cases h
    have hany : (first :: second :: rest).any (·.status.fails) = true :=
      List.any_eq_true.mpr ⟨r, hr, hfails⟩
    refine ⟨_, if_pos hany, ?_⟩
    have htext' : failureText r = text := by rw [failureText, htext, Option.getD_some]
    by_cases hne : text = ""
    · rw [hne]
      exact List.nil_infix
    · rw [← htext'] at hne ⊢
      exact infix_joinReasons (mem_failureReasons hr hfails hne)

/-- **What the merge reports.** A part given alone is returned as it is; two or more parts are
rebuilt, and a part that failed without a reason gets a default one. -/
theorem merge_laws (h : parts ≠ []) :
    ∃ merged, mergeStage2Results parts = .ok merged ∧
      (∀ groups rs, List.Forall₂ (fun g r => mergeStage2Results g = .ok r) groups rs →
        groups.flatten = parts → mergeStage2Results rs = .ok merged) ∧
      merged.suiteResults.getD [] = parts.flatMap (·.suiteResults.getD []) ∧
      (merged.status = .success ↔ ∀ p ∈ parts, p.status = .success) ∧
      (merged.status = .partialRun ↔
        (∀ p ∈ parts, p.status.fails = false) ∧ ∃ p ∈ parts, p.status = .partialRun) ∧
      (∀ p ∈ parts, p.status.fails = true → ∀ text, p.reason = some text →
        ∃ reason, merged.reason = some reason ∧ text.toList <:+: reason.toList) ∧
      (2 ≤ parts.length →
        (merged.status = .failed ↔ ∃ p ∈ parts, p.status.fails = true) ∧
        ∀ p ∈ parts, p.status.fails = true → p.reason = none →
          ∃ reason, merged.reason = some reason ∧
            s!"{p.modelId} suite failed".toList <:+: reason.toList) ∧
      ∀ p, parts = [p] → merged = p := by
  obtain ⟨merged, hmerge⟩ : ∃ merged, mergeStage2Results parts = .ok merged := by
    match parts, h with
    | [p], _ => exact ⟨p, rfl⟩
    | first :: second :: rest, _ => exact ⟨_, mergeStage2Results_of_two first second rest⟩
  have hstands := standsFor_merge hmerge
  refine ⟨merged, hmerge, fun groups rs hgroups hflat => ?_, hstands.suites,
    success_iff hmerge, ?_, fun p hp hfails text => reason_mem hmerge hp hfails,
    fun htwo => ?_, fun p hp => ?_⟩
  · rw [merge_merged hgroups, hflat, hmerge]
  · rw [hstands.partialRun, List.any_eq_false, List.any_eq_true]
    simp only [Bool.not_eq_true, decide_eq_true_eq]
  · match parts, htwo with
    | first :: second :: rest, _ =>
      rw [mergeStage2Results_of_two] at hmerge
      cases hmerge
      refine ⟨?_, fun p hp hfails hnone => ?_⟩
      · rw [← List.any_eq_true, ← fails_rebuilt first
          ((first :: second :: rest).getLastD first)]
        unfold rebuilt
        split_ifs <;> simp [Stage2Status.fails]
      · have hany : (first :: second :: rest).any (·.status.fails) = true :=
          List.any_eq_true.mpr ⟨p, hp, hfails⟩
        have htext : failureText p = s!"{p.modelId} suite failed" := by
          rw [failureText, hnone, Option.getD_none]
        refine ⟨_, if_pos hany, ?_⟩
        rw [← htext]
        refine infix_joinReasons (mem_failureReasons hp hfails ?_)
        rw [htext]
        intro hempty
        exact absurd (String.append_eq_empty_iff.mp hempty).2 (by decide)
  · subst hp
    cases hmerge
    rfl

/-! ## A part alone -/

/-- A part that was skipped. -/
def skippedPart : Stage2Result where
  runId := "r"
  modelId := "m"
  status := .skipped
  startedAt := 0
  completedAt := 1

/-- A skipped part given alone is neither a success nor partial, and does not become a failure. -/
theorem skippedPart_alone :
    ¬∀ parts merged, mergeStage2Results parts = .ok merged →
      ¬(∀ p ∈ parts, p.status = .success) →
      ¬((∀ p ∈ parts, p.status.fails = false) ∧ ∃ p ∈ parts, p.status = .partialRun) →
      merged.status = .failed := by
  intro h
  have hfailed := h [skippedPart] skippedPart rfl (by decide) (by decide)
  cases hfailed

/-- A failure next to a skipped part. -/
theorem merge_laws_two :
    ∃ merged, mergeStage2Results [{ skippedPart with status := .failed, reason := some "boom" },
        skippedPart] = .ok merged ∧ merged.status = .failed ∧
      merged.reason = some "boom; m suite failed" := by
  obtain ⟨merged, hmerge, -, -, -, -, -, htwo, -⟩ :=
    merge_laws (show [{ skippedPart with status := .failed, reason := some "boom" },
      skippedPart] ≠ [] from List.cons_ne_nil _ _)
  refine ⟨merged, hmerge, (htwo le_rfl).1.mpr ⟨_, List.mem_cons_self, rfl⟩, ?_⟩
  cases hmerge
  rfl

end Benchmarker
