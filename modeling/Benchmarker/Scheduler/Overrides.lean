import Mathlib.Algebra.Ring.Nat
import Benchmarker.Js.Language
import Benchmarker.Scheduler.Teardown

/-!
# Overrides from advice

The deployment options that Stage 1 takes from the suggestions of Stage 3, for arbitrary texts.

* `SafeOverrides`: finite numbers, known data types, template paths, and a context above the floor.
* `templateOf`, `lengthOf`, `PlainAdvice`: what is captured in the suggestions, and when it is harmless.
* `field_foldl`: a field holds what was captured last. **`safeOverrides_iff`**.
* **`deploy_safe_iff`**: the overrides that Stage 1 deploys with. `metacharacters_deployed`.
-/

namespace Benchmarker

open Js Js.Re Async Async.Prog

/-! ## Safe overrides -/

/-- A word character, a dot, a slash or a dash. -/
def isPathChar (c : Char) : Bool := isWordChar c || c = '.' || c = '/' || c = '-'

/-- The data types that vLLM accepts. -/
def acceptedDtypes : List String := ["auto", "half", "float16", "bfloat16", "float", "float32"]

/-- An argument that carries a number or a data type. -/
def SafeArg (arg : String) : Prop :=
  (∃ ds : List Char, ds ≠ [] ∧ (∀ c ∈ ds, c.isDigit = true) ∧
    arg = "--max-num-seqs " ++ String.ofList ds) ∨
  ∃ dtype ∈ acceptedDtypes, arg = "--dtype " ++ dtype

structure SafeOverrides (contextFloor : ℕ) (o : VllmDeploymentOptions) : Prop where
  gpuMemoryUtilization : ∀ v ∈ o.gpuMemoryUtilization, 0 < v ∧ v ≤ 1
  maxModelLen : ∀ n ∈ o.maxModelLen, n ≠ ⊤ ∧ (contextFloor : WithTop ℕ) ≤ n
  additionalDockerArgs : ∀ arg ∈ o.additionalDockerArgs.getD [], SafeArg arg
  chatTemplate : ∀ t ∈ o.chatTemplate, ∀ c ∈ t.toList, isPathChar c = true

theorem SafeArg.chars {arg : String} (h : SafeArg arg) :
    ∀ c ∈ arg.toList, isPathChar c = true ∨ c = ' ' := by
  rcases h with ⟨ds, -, hds, rfl⟩ | ⟨dtype, hdtype, rfl⟩
  · rw [String.toList_append, List.forall_mem_append]
    have hflag : ("--max-num-seqs ".toList.all fun c => isPathChar c || c = ' ') = true := by decide
    refine ⟨fun c hc => by simpa using List.all_eq_true.mp hflag c hc, fun c hc => .inl ?_⟩
    have hdigit := hds c (by rwa [String.toList_ofList] at hc)
    simp [isPathChar, isWordChar, Char.isAlphanum, hdigit]
  · have hall : (acceptedDtypes.all fun dtype => ("--dtype " ++ dtype).toList.all fun c =>
        isPathChar c || c = ' ') = true := by decide
    intro c hc
    simpa using List.all_eq_true.mp (List.all_eq_true.mp hall dtype hdtype) c hc

/-- The texts of safe overrides bring no character into a command that a shell treats specially. -/
theorem SafeOverrides.chars {contextFloor : ℕ} {o : VllmDeploymentOptions}
    (h : SafeOverrides contextFloor o) :
    ∀ text ∈ o.chatTemplate.toList ++ o.additionalDockerArgs.getD [], ∀ c ∈ text.toList,
      isPathChar c = true ∨ c = ' ' := by
  intro text htext c hc
  rcases List.mem_append.mp htext with ht | harg
  · exact .inl (h.chatTemplate text (Option.mem_toList.mp ht) c hc)
  · exact (h.additionalDockerArgs text harg).chars c hc

/-! ## Captures -/

def suggestionText (sug : Stage3Suggestion) : String := sug.title ++ " " ++ sug.description

/-- The template that a suggestion sets. -/
def templateOf (sug : Stage3Suggestion) : Option String :=
  (flagValue "--chat-template" (plus (chr fun c => !isSpace c)) eps (suggestionText sug)).filter
    isTemplatePath

/-- The digits of the context length that a suggestion sets. -/
def lengthOf (sug : Stage3Suggestion) : Option String :=
  flagValue "--max-model-len" (plus digit) eps (suggestionText sug)

/-- The last template that the path guard has accepted consists of path characters, and the last context
length is finite. -/
structure PlainAdvice (suggestions : List Stage3Suggestion) : Prop where
  template : ∀ t ∈ (suggestions.filterMap templateOf).getLast?, ∀ c ∈ t.toList, isPathChar c = true
  length : ∀ s ∈ (suggestions.filterMap lengthOf).getLast?, digitsValue s.toList < numberOverflow

/-- A field that every suggestion may overwrite holds what was captured last. -/
theorem field_foldl {β : Type} (get : VllmDeploymentOptions → Option β)
    (f : Stage3Suggestion → Option β) (h : ∀ o sug, get (addSuggestion o sug) = (f sug).or (get o))
    (suggestions : List Stage3Suggestion) (o : VllmDeploymentOptions) :
    get (suggestions.foldl addSuggestion o) = ((suggestions.filterMap f).getLast?).or (get o) := by
  induction suggestions generalizing o with
  | nil => rfl
  | cons sug suggestions ih =>
    rw [List.foldl_cons, ih, h]
    cases hf : f sug with
    | none => rw [List.filterMap_cons_none hf, Option.none_or]
    | some b =>
      rw [List.filterMap_cons_some hf, List.getLast?_cons]
      cases (suggestions.filterMap f).getLast? <;> rfl

theorem safeArg_of_flag {sug : Stage3Suggestion} {arg : String} (h : arg ∈
    (flagValue "--max-num-seqs" (plus digit) eps (suggestionText sug)).toList.map
        ("--max-num-seqs " ++ ·) ++
      (flagValue "--dtype" dtypePattern wordBoundary (suggestionText sug)).toList.map
        ("--dtype " ++ ·)) : SafeArg arg := by
  rcases List.mem_append.mp h with h | h
  · obtain ⟨s, hs, rfl⟩ := List.mem_map.mp h
    have hword := mem_language_of_capture (by rfl) (Option.mem_toList.mp hs)
    refine .inl ⟨s.toList, ?_, ?_, by rw [String.ofList_toList]⟩
    · obtain ⟨u, ⟨c, -, rfl⟩, v, -, hs⟩ := Language.mem_mul.mp hword
      rw [← hs]
      exact List.cons_ne_nil _ _
    · exact Within.of_mem (r := plus digit) (P := fun c => c.isDigit = true)
        ⟨fun c hc => hc, fun c hc => hc⟩ hword
  · obtain ⟨s, hs, rfl⟩ := List.mem_map.mp h
    have hword := mem_language_of_capture (by decide) (Option.mem_toList.mp hs)
    obtain ⟨r, hr, hs⟩ := mem_language_alts.mp hword
    obtain ⟨dtype, hdtype, rfl⟩ := List.mem_map.mp hr
    exact .inr ⟨dtype, hdtype, by rw [String.toList_inj.mp (mem_language_txt.mp hs)]⟩

/-! ## The overrides -/

variable {suggestions : List Stage3Suggestion} (contextFloor : ℕ)

theorem chatTemplate_foldl : (suggestions.foldl addSuggestion {}).chatTemplate =
    (suggestions.filterMap templateOf).getLast? := by
  rw [field_foldl VllmDeploymentOptions.chatTemplate templateOf (fun _ _ => rfl)]
  exact Option.or_none

theorem maxModelLen_foldl : (suggestions.foldl addSuggestion {}).maxModelLen =
    (suggestions.filterMap lengthOf).getLast?.map parseInt := by
  rw [field_foldl VllmDeploymentOptions.maxModelLen (fun sug => (lengthOf sug).map parseInt)
    (fun _ _ => rfl)]
  rw [show (({} : VllmDeploymentOptions).maxModelLen) = none from rfl, Option.or_none,
    ← List.map_filterMap, List.getLast?_map]

theorem gpuMemoryUtilization_foldl (o : VllmDeploymentOptions)
    (ho : ∀ v ∈ o.gpuMemoryUtilization, 0 < v ∧ v ≤ 1) :
    ∀ v ∈ (suggestions.foldl addSuggestion o).gpuMemoryUtilization, 0 < v ∧ v ≤ 1 := by
  induction suggestions generalizing o with
  | nil => exact ho
  | cons sug suggestions ih =>
    refine ih _ fun v hv => ?_
    rcases Option.or_eq_some_iff.mp hv with hv | ⟨-, hv⟩
    · exact of_decide_eq_true (Option.filter_eq_some_iff.mp hv).2
    · exact ho v hv

theorem additionalDockerArgs_foldl (o : VllmDeploymentOptions)
    (ho : ∀ arg ∈ o.additionalDockerArgs.getD [], SafeArg arg) :
    ∀ arg ∈ (suggestions.foldl addSuggestion o).additionalDockerArgs.getD [], SafeArg arg := by
  induction suggestions generalizing o with
  | nil => exact ho
  | cons sug suggestions ih =>
    refine ih _ fun arg harg => ?_
    simp only [addSuggestion] at harg
    split at harg
    · exact ho arg harg
    · rcases List.mem_append.mp harg with harg | harg
      · exact ho arg harg
      · exact safeArg_of_flag harg

theorem parseInt_eq_top {s : String} : parseInt s = ⊤ ↔ ¬ digitsValue s.toList < numberOverflow := by
  rw [parseInt]
  split <;> simp_all

/-- The floor leaves a length that is infinite, and no finite one below it. -/
theorem maxModelLen_dropShortContext (o : VllmDeploymentOptions) :
    (∀ n ∈ (dropShortContext contextFloor o).maxModelLen, n ≠ ⊤ ∧ (contextFloor : WithTop ℕ) ≤ n) ↔
      o.maxModelLen ≠ some ⊤ := by
  rw [dropShortContext]
  cases hn : o.maxModelLen with
  | none => simp [hn]
  | some n =>
    by_cases hlt : n < (contextFloor : WithTop ℕ)
    · simp [hlt, ne_top_of_lt hlt]
    · simp [hlt, hn, not_lt.mp hlt]

theorem safe_dropShortContext : SafeOverrides contextFloor
    (dropShortContext contextFloor (suggestions.foldl addSuggestion {})) ↔ PlainAdvice suggestions := by
  have hkeep : ∀ o, (dropShortContext contextFloor o).gpuMemoryUtilization = o.gpuMemoryUtilization ∧
      (dropShortContext contextFloor o).additionalDockerArgs = o.additionalDockerArgs ∧
      (dropShortContext contextFloor o).chatTemplate = o.chatTemplate := by
    intro o
    rw [dropShortContext]
    split <;> exact ⟨rfl, rfl, rfl⟩
  obtain ⟨hgpu, hargs, htemplate⟩ := hkeep (suggestions.foldl addSuggestion {})
  have hlength := maxModelLen_dropShortContext contextFloor
    (suggestions.foldl addSuggestion {})
  rw [maxModelLen_foldl] at hlength
  constructor
  · intro h
    refine ⟨fun t ht => ?_, fun s hs => ?_⟩
    · refine h.chatTemplate t ?_
      rwa [htemplate, chatTemplate_foldl]
    · by_contra hover
      refine hlength.mp h.maxModelLen ?_
      rw [hs, Option.map_some, parseInt_eq_top.mpr hover]
  · intro h
    refine ⟨?_, hlength.mpr fun htop => ?_, ?_, ?_⟩
    · rw [hgpu]
      exact gpuMemoryUtilization_foldl {} (by simp)
    · obtain ⟨s, hs, hs'⟩ := Option.map_eq_some_iff.mp htop
      exact parseInt_eq_top.mp hs' (h.length s hs)
    · rw [hargs]
      exact additionalDockerArgs_foldl {} (by simp)
    · rw [htemplate, chatTemplate_foldl]
      exact h.template

/-- **The overrides of any suggestions are safe exactly when the advice is plain.** -/
theorem safeOverrides_iff : (∀ o ∈ (parseVllmOverridesFromSuggestions suggestions).map
    (dropShortContext contextFloor), SafeOverrides contextFloor o) ↔ PlainAdvice suggestions := by
  rw [← safe_dropShortContext contextFloor, parseVllmOverridesFromSuggestions]
  by_cases hempty : suggestions.foldl addSuggestion {} = {}
  · simp only [hempty, if_true]
    refine ⟨fun _ => ⟨?_, ?_, ?_, ?_⟩, by simp⟩ <;> simp [dropShortContext]
  · simp only [hempty, if_false]
    simp

/-! ## What Stage 1 deploys with -/

/-- The suggestions that the answer to a request brings. -/
def advice : (o : SchedOp) → SchedAns o → Option (List Stage3Suggestion)
  | .ext (.getLatestReasoningResult _), .ok previous =>
    some ((previous.bind (·.suggestions)).getD [])
  | .ext (.getLatestReasoningResult _), .error _ => some []
  | _, _ => none

section Deploys

variable {W : Type} {past : List (Event SchedAns W)} {α : Type} {x : SchedJs α} {ks : List OpKind}
variable (deps : SchedulerDeps) (run : PipelineRun)

/-- The suggestions that were read last. -/
def lastAdvice (past : List (Event SchedAns W)) : List Stage3Suggestion :=
  ((past.filterMap fun e => advice e.op e.ans).getLast?).getD []

/-- A deployment has safe overrides exactly when the suggestions that were read are plain. -/
def DeploysSafely (contextFloor : ℕ) (past : List (Event SchedAns W)) (o : SchedOp) : Prop :=
  ∀ modelInfo hardware overrides, o = .ext (.deploy modelInfo hardware overrides) →
    ((∀ v ∈ overrides, SafeOverrides contextFloor v) ↔ PlainAdvice (lastAdvice past))

theorem issues_of_only (h : Only ks x) (hks : .deploy ∉ ks) :
    x.run.Issues (DeploysSafely contextFloor) past := by
  refine (Uses.issues h past).mono fun past o hk modelInfo hardware overrides ho => ?_
  rw [ho] at hk
  exact absurd hk hks

/-- What `stage1Overrides` returns, and what its history shows. -/
theorem runs_stage1Overrides {modelId : String} {es : List (Event SchedAns W)}
    {overrides : Option VllmDeploymentOptions}
    (h : (stage1Overrides deps modelId).run.Runs es (.ok overrides)) :
    overrides = (parseVllmOverridesFromSuggestions (lastAdvice (past ++ es))).map
      (dropShortContext deps.config.stage2Thresholds.minContextWindow) := by
  obtain ⟨es₁, es₂, answer, rfl, h₁, h₂⟩ := runs_ok_bind.mp h
  obtain ⟨pre, post, rfl⟩ := runs_extCall.mp (runs_attempt.mp h₁)
  cases answer with
  | error err =>
    obtain ⟨rfl, hnone⟩ := runs_throws_pure.mp h₂
    rw [← Except.ok.inj hnone]
    simp [lastAdvice, advice, parseVllmOverridesFromSuggestions]
  | ok previous =>
    obtain ⟨rfl, hsome⟩ := runs_throws_pure.mp h₂
    rw [← Except.ok.inj hsome]
    cases hprevious : previous.bind (·.suggestions) with
    | none => simp [lastAdvice, advice, hprevious, parseVllmOverridesFromSuggestions]
    | some suggestions => simp [lastAdvice, advice, hprevious]

/-- Reporting progress reads no suggestions. -/
theorem lastAdvice_reportQueueProgress {id : ℕ} {stage : ProgressStage} {detail : String}
    {steps : Option (ℕ × ℕ)} {leaseToken : Option String} {es : List (Event SchedAns W)}
    {r : Except JsError Unit}
    (h : (reportQueueProgress id stage detail steps leaseToken).run.Runs es r) :
    lastAdvice (past ++ es) = lastAdvice past := by
  have hno : ∀ e ∈ es, advice e.op e.ans = none := by
    have huses : (reportQueueProgress id stage detail steps leaseToken).run.Uses
        fun o => ∀ r, advice o r = none := by
      refine uses_throws_bind (uses_lift (uses_request.mpr fun _ => rfl)) fun _ => ?_
      refine uses_throws_bind (uses_attempt (uses_request.mpr fun _ => rfl)) fun _ => ?_
      exact uses_throws_pure _
    exact fun e he => huses.events h e he e.ans
  rw [lastAdvice, lastAdvice, List.filterMap_append, List.filterMap_eq_nil_iff.mpr hno,
    List.append_nil]

theorem issues_stage1Prepare : (stage1Prepare deps run).run.Issues
    (DeploysSafely deps.config.stage2Thresholds.minContextWindow) past := by
  refine (issues_of_only _ (only_queueCall (List.mem_singleton_self _))
    (by simp [Status.terminal])).throws_bind' fun past _ => ?_
  refine (issues_of_only _ (only_reportQueueProgress (List.mem_singleton_self _))
    (by simp)).throws_bind' fun past _ => ?_
  refine (issues_of_only _ (only_extCall (List.mem_singleton_self _)) (by simp)).throws_bind'
    fun past card => ?_
  refine (issues_of_only _ (only_queueCall (List.mem_singleton_self _))
    (by simp [Status.terminal])).throws_bind' fun past _ => ?_
  refine (issues_of_only _ (only_stage1Overrides deps (List.mem_singleton_self _))
    (by simp)).throws_bind fun es overrides hoverrides => ?_
  refine (issues_of_only _ (only_reportQueueProgress (List.mem_singleton_self _))
    (by simp)).throws_bind fun fs _ hreport => ?_
  refine Issues.throws_bind' (issues_request ?_) fun _ _ => issues_ret _
  intro modelInfo hardware overrides' ho
  cases ho
  rw [lastAdvice_reportQueueProgress hreport, runs_stage1Overrides deps hoverrides]
  exact safeOverrides_iff _

theorem issues_stage1Body {startTime startedAt : Time} : (stage1Body deps run startTime startedAt).run.Issues
    (DeploysSafely deps.config.stage2Thresholds.minContextWindow) past := by
  refine (issues_stage1Prepare deps run).throws_bind' fun past prepared => ?_
  exact issues_of_only _ (only_stage1Measure deps run) (by simp)

/-- **Stage 1 deploys with safe overrides exactly when the suggestions that it has read are plain.** -/
theorem deploy_safe_iff (past : List (Event SchedAns W)) : (execute deps run).run.Issues
    (DeploysSafely deps.config.stage2Thresholds.minContextWindow) past := by
  have hclock : ∀ past : List (Event SchedAns W), clock.run.Issues
      (DeploysSafely deps.config.stage2Thresholds.minContextWindow) past := fun past =>
    issues_of_only _ (only_clock (List.mem_singleton_self _)) (by simp)
  refine (hclock past).throws_bind' fun past startTime => ?_
  refine (hclock past).throws_bind' fun past startedAt => ?_
  refine (issues_attempt (issues_stage1Body deps run)).throws_bind' fun past outcome => ?_
  cases outcome with
  | ok result =>
    refine Issues.throws_bind' (issues_throws_pure _) fun past result => ?_
    exact (hclock past).throws_bind' fun past completedAt => issues_throws_pure _
  | error err =>
    refine (issues_of_only _ (only_stage1Catch run) (by simp)).throws_bind' fun past result => ?_
    exact (hclock past).throws_bind' fun past completedAt => issues_throws_pure _

end Deploys

/-! ## A path with metacharacters -/

/-- Answers in which every stage succeeds and the advice is the given one. -/
def advised (suggestions : List Stage3Suggestion) : (o : SchedOp) → SchedAns o
  | .ext (.getLatestReasoningResult modelId) =>
    .ok (some ⟨"run", modelId, true, some suggestions, none, 0, 0⟩)
  | o => benchmarkEnds (.ok ⟨[], "", [], true⟩) o

/-- The overrides that a deployment of the history is given. -/
def deployedWith (es : List SchedEvent) : List VllmDeploymentOptions :=
  es.filterMap fun e => match e.op with
    | .ext (.deploy _ _ overrides) => overrides
    | _ => none

/-- A suggestion whose template passes the guard for its slash. -/
def slashAdvice : List Stage3Suggestion := [⟨"Use", "--chat-template /x;rm"⟩]

/-- A Stage 1 that reads this advice. -/
def slashHistory : List SchedEvent := history (advised slashAdvice)
  (execute oneSuiteDeps ⟨"run", "m", 0, 0, none, none, none, none, none, none⟩)

/-- **Metacharacters of a suggestion are deployed with**: the guard accepts any text with a slash. -/
theorem metacharacters_deployed :
    (∃ r, (execute oneSuiteDeps ⟨"run", "m", 0, 0, none, none, none, none, none, none⟩).run.Runs
      slashHistory r) ∧
    ∃ o ∈ deployedWith slashHistory,
      ¬ SafeOverrides oneSuiteDeps.config.stage2Thresholds.minContextWindow o := by
  refine ⟨⟨_, runs_history _ rfl⟩, { chatTemplate := some "/x;rm" }, ?_, fun hsafe => ?_⟩
  · rw [show deployedWith slashHistory = [{ chatTemplate := some "/x;rm" }] by decide +kernel]
    exact List.mem_singleton_self _
  · exact absurd (hsafe.chatTemplate _ rfl ';' (by decide)) (by decide)

end Benchmarker
