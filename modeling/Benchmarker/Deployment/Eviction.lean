import Benchmarker.Deployment.Disk

/-!
# Safe eviction

What `ensureDiskSpace` deletes, for every listing and every sequence of answers.

* `latest`, `removed`, `listed`, `targets`: what a history shows.
* `EvictionSafe`: the kept directory stays, the others go in the listed order, and only while the free
  space is known to be low.
* `LastUnreadable`: a reading that cannot be read leaves nothing to evict.
* `runs_evictLoop`: the loop. **`evictionSafe_iff`**: the whole escalation. `blind_eviction`.
-/

namespace Benchmarker.Deployment

open Async Async.Prog Js

variable {W : Type}

/-! ## What a history shows -/

/-- What a reading of the free space says. -/
def reading (e : Event DiskAns W) : Option (Option ℤ) :=
  match e.op.command with
  | .freeDisk => some (freeGb e.ans)
  | _ => none

/-- The latest reading, where there is one that could be read. -/
def latest (es : List (Event DiskAns W)) : Option ℤ := ((es.filterMap reading).getLast?).join

def removedDir (e : Event DiskAns W) : Option String :=
  match e.op.command with
  | .remove dir => some dir
  | _ => none

/-- The directories whose removal has been asked for. -/
def removed (es : List (Event DiskAns W)) : List String := es.filterMap removedDir

def listing (e : Event DiskAns W) : List String :=
  match e.op.command, e.ans with
  | .listModels _, .ok result => trimmedLines result.stdout
  | _, _ => []

/-- The directories that have been listed, the oldest first. -/
def listed (es : List (Event DiskAns W)) : List String := es.flatMap listing

/-- The directories that may be evicted. -/
def targets (keepDir : Option String) (dirs : List String) : List String :=
  dirs.filter fun dir => keepDir ≠ some (baseName dir)

/-- The command deletes cached files. -/
def DiskCommand.deletes : DiskCommand → Bool
  | .clearHostCache _ | .remove _ => true
  | _ => false

/-! ## Safety -/

variable (options : DiskOptions) (minFreeGb : ℚ) (keepDir : Option String)

/-- A deletion happens only while the latest reading is known and low. -/
def KnownLow (past : List (Event DiskAns W)) (e : Event DiskAns W) : Prop :=
  e.op.command.deletes = true → low minFreeGb (latest past) = true

instance (past : List (Event DiskAns W)) (e : Event DiskAns W) : Decidable (KnownLow minFreeGb past e) :=
  inferInstanceAs (Decidable (_ → _))

/-- A reading that cannot be read comes when every listed directory that may be evicted has been. -/
def LastUnreadable (past : List (Event DiskAns W)) (e : Event DiskAns W) : Prop :=
  reading e = some none → removed past = targets keepDir (listed past)

structure EvictionSafe (keepModelId : Option String) (requiredModelGb : Option ℚ)
    (es : List (Event DiskAns W)) : Prop where
  keeps : ∀ modelId ∈ keepModelId, modelId ≠ "" → ∀ hub : String,
    hub ++ "/" ++ modelDir modelId ∉ removed es
  ordered : (removed es).Sublist (listed es)
  known : Each (KnownLow (minFreeGbFor options requiredModelGb)) [] es

/-! ## Directories -/

theorem slash_not_mem_modelDir (modelId : String) : '/' ∉ (modelDir modelId).toList := by
  intro h
  rw [modelDir, String.toList_append, List.mem_append] at h
  rcases h with h | h
  · exact absurd h (by decide)
  · rw [String.toList_ofList] at h
    obtain ⟨c, -, hc⟩ := List.mem_flatMap.mp h
    by_cases hslash : c = '/'
    · rw [if_pos hslash] at hc
      exact absurd hc (by decide)
    · rw [if_neg hslash] at hc
      exact hslash (List.mem_singleton.mp hc).symm

theorem baseName_modelDir (hub modelId : String) :
    baseName (hub ++ "/" ++ modelDir modelId) = modelDir modelId := by
  have hno : ∀ c ∈ (modelDir modelId).toList.reverse, decide (c ≠ '/') = true := by
    intro c hc
    refine decide_eq_true fun hslash => slash_not_mem_modelDir modelId ?_
    rwa [← hslash, ← List.mem_reverse]
  rw [baseName, String.toList_append, String.toList_append, List.reverse_append,
    List.takeWhile_append_of_pos hno]
  simp

/-! ## The loop -/

variable {options minFreeGb keepDir} {past es : List (Event DiskAns W)} {free : Option ℤ}

theorem latest_snoc_of_none {e : Event DiskAns W} (h : reading e = none) :
    latest (past ++ [e]) = latest past := by
  rw [latest, List.filterMap_append, List.filterMap_cons_none h]
  simp [latest]

theorem latest_snoc {e : Event DiskAns W} {r : Option ℤ} (h : reading e = some r) :
    latest (past ++ [e]) = r := by
  rw [latest, List.filterMap_append, List.filterMap_cons_some h]
  simp

theorem runs_execSSH {command : DiskCommand} {timeout : ℕ} {answer : Except String CommandResult}
    (h : (execSSH options command timeout).Runs es answer) :
    ∃ asRoot pre post, es = [⟨⟨command, timeout, asRoot⟩, answer, pre, post⟩] := by
  obtain ⟨pre, post, rfl⟩ := runs_request.mp h
  exact ⟨_, pre, post, rfl⟩

theorem runs_readFreeDiskGb (h : (readFreeDiskGb options).Runs es free) :
    ∃ e, es = [e] ∧ reading e = some free ∧ removedDir e = none ∧ listing e = [] ∧
      e.op.command.deletes = false := by
  obtain ⟨es₁, es₂, answer, rfl, h₁, h₂⟩ := runs_bind.mp h
  obtain ⟨asRoot, pre, post, rfl⟩ := runs_execSSH h₁
  obtain ⟨rfl, rfl⟩ := runs_ret.mp h₂
  exact ⟨_, rfl, rfl, rfl, rfl, rfl⟩

theorem removed_snoc (e : Event DiskAns W) :
    removed (past ++ [e]) = removed past ++ (removedDir e).toList := by
  rw [removed, List.filterMap_append]
  cases h : removedDir e <;> simp [removed, h]

theorem listed_snoc (e : Event DiskAns W) : listed (past ++ [e]) = listed past ++ listing e := by
  simp [listed]

theorem knownLow_remove {e : Event DiskAns W} (he : e.op.command.deletes = true)
    (hfree : latest past = free) (hlow : ¬ (free.any fun gb => minFreeGb ≤ ((gb : ℤ) : ℚ)) = true) :
    KnownLow minFreeGb past e ↔ free ≠ none := by
  rw [KnownLow, hfree]
  cases free with
  | none => simp [low, he]
  | some gb =>
    simp only [Option.any_some, decide_eq_true_eq] at hlow
    simp [low, Rat.not_le.mp hlow]

/-- **A loop deletes only while the space is known to be low exactly when no reading in it is unreadable
before the last directory that may be evicted.** It removes them in order. -/
theorem runs_evictLoop {dirs : List String} {r : Option ℤ}
    (h : (evictLoop options minFreeGb keepDir dirs free).Runs es r) (hfree : latest past = free)
    (hrest : removed past ++ targets keepDir dirs = targets keepDir (listed past)) :
    removed es <+: targets keepDir dirs ∧ listed es = [] ∧
      (Each (KnownLow minFreeGb) past es ↔
        (free = none → targets keepDir dirs = []) ∧ Each (LastUnreadable keepDir) past es) := by
  induction dirs generalizing past es free with
  | nil =>
    obtain ⟨rfl, -⟩ := runs_ret.mp h
    exact ⟨List.nil_prefix, rfl, by simp [targets]⟩
  | cons dir dirs ih =>
    rw [evictLoop] at h
    by_cases henough : (free.any fun gb => minFreeGb ≤ ((gb : ℤ) : ℚ)) = true
    · rw [if_pos henough] at h
      obtain ⟨rfl, -⟩ := runs_ret.mp h
      refine ⟨List.nil_prefix, rfl, ?_⟩
      cases free with
      | none => cases henough
      | some gb => simp
    rw [if_neg henough] at h
    by_cases hkeep : keepDir = some (baseName dir)
    · rw [if_pos hkeep] at h
      have hskip : targets keepDir (dir :: dirs) = targets keepDir dirs := by simp [targets, hkeep]
      rw [hskip] at hrest ⊢
      exact ih h hfree hrest
    rw [if_neg hkeep] at h
    have hcons : targets keepDir (dir :: dirs) = dir :: targets keepDir dirs := by
      simp [targets, hkeep]
    rw [hcons] at hrest ⊢
    obtain ⟨es₁, es₂, answer, rfl, h₁, h₂⟩ := runs_bind.mp h
    obtain ⟨asRoot, pre, post, rfl⟩ := runs_execSSH h₁
    set rm : Event DiskAns W := ⟨⟨.remove dir, 180000, asRoot⟩, answer, pre, post⟩ with hrm
    have hremoved : removed (past ++ [rm]) = removed past ++ [dir] := removed_snoc rm
    have hlisted : listed (past ++ [rm]) = listed past := by
      rw [listed_snoc]
      exact List.append_nil _
    have hlatest : latest (past ++ [rm]) = free := by rw [latest_snoc_of_none rfl, hfree]
    have hrest' : removed (past ++ [rm]) ++ targets keepDir dirs = targets keepDir (listed (past ++ [rm])) := by
      rw [hremoved, hlisted, List.append_assoc, List.singleton_append, hrest]
    have hknown := knownLow_remove (e := rm) rfl hfree henough
    have hunread : LastUnreadable keepDir past rm := fun hr => by cases hr
    have hnil : (free = none → dir :: targets keepDir dirs = []) ↔ free ≠ none := by simp
    cases answer with
    | error msg =>
      obtain ⟨hsub, hnew, hiff⟩ := ih h₂ hlatest hrest'
      refine ⟨List.cons_prefix_cons.mpr ⟨rfl, hsub⟩, hnew, ?_⟩
      rw [List.singleton_append, each_cons, each_cons, hknown, hiff, hnil]
      constructor
      · rintro ⟨hsome, -, hrest⟩
        exact ⟨hsome, hunread, hrest⟩
      · rintro ⟨hsome, -, hrest⟩
        exact ⟨hsome, fun hnone => absurd hnone hsome, hrest⟩
    | ok result =>
      obtain ⟨es₃, es₄, freed, rfl, h₃, h₄⟩ := runs_bind.mp h₂
      obtain ⟨e, rfl, hread, hdir, hlist, hkept⟩ := runs_readFreeDiskGb h₃
      have hrest'' : removed (past ++ [rm] ++ [e]) ++ targets keepDir dirs =
          targets keepDir (listed (past ++ [rm] ++ [e])) := by
        rw [removed_snoc, listed_snoc, hdir, hlist, Option.toList_none, List.append_nil, List.append_nil,
          hrest']
      obtain ⟨hsub, hnew, hiff⟩ := ih h₄ (latest_snoc hread) hrest''
      have hlast : LastUnreadable keepDir (past ++ [rm]) e ↔ (freed = none → targets keepDir dirs = []) := by
        rw [LastUnreadable, hread, ← hrest', Option.some.injEq, List.self_eq_append_right]
      have hquiet : KnownLow minFreeGb (past ++ [rm]) e := fun hdel => by rw [hkept] at hdel; cases hdel
      refine ⟨?_, ?_, ?_⟩
      · show List.filterMap removedDir (rm :: e :: es₄) <+: _
        rw [List.filterMap_cons_some (show removedDir rm = some dir from rfl), List.filterMap_cons_none hdir]
        exact List.cons_prefix_cons.mpr ⟨rfl, hsub⟩
      · show List.flatMap listing (rm :: e :: es₄) = []
        rw [List.flatMap_cons, List.flatMap_cons, hlist]
        exact hnew
      · rw [List.singleton_append, List.singleton_append, each_cons, each_cons, each_cons, each_cons, hknown,
          hiff, hnil, hlast]
        constructor
        · rintro ⟨hsome, -, hfreed, hrest⟩
          exact ⟨hsome, hunread, hfreed, hrest⟩
        · rintro ⟨hsome, -, hfreed, hrest⟩
          exact ⟨hsome, hquiet, hfreed, hrest⟩

/-! ## The escalation -/

/-- A piece of a history: it removes listed directories in order and never the kept one, and it deletes
only while the space is known to be low exactly when its unreadable readings are harmless. -/
structure Piece (minFreeGb : ℚ) (keepDir : Option String) (past es : List (Event DiskAns W)) : Prop where
  ordered : (removed es).Sublist (listed es)
  kept : ∀ dir ∈ removed es, keepDir ≠ some (baseName dir)
  known : Each (KnownLow minFreeGb) past es ↔ Each (LastUnreadable keepDir) past es

/-- Nothing has been listed or removed yet. -/
structure Before (past : List (Event DiskAns W)) : Prop where
  removed : removed past = []
  listed : listed past = []

theorem Piece.append {fs : List (Event DiskAns W)} (h : Piece minFreeGb keepDir past es)
    (h' : Piece minFreeGb keepDir (past ++ es) fs) : Piece minFreeGb keepDir past (es ++ fs) where
  ordered := by
    rw [removed, List.filterMap_append, listed, List.flatMap_append]
    exact h.ordered.append h'.ordered
  kept := by
    rw [removed, List.filterMap_append, List.forall_mem_append]
    exact ⟨h.kept, h'.kept⟩
  known := by rw [each_append, each_append, h.known, h'.known]

theorem piece_nil : Piece minFreeGb keepDir past ([] : List (Event DiskAns W)) :=
  ⟨List.Sublist.refl _, by simp [removed], by simp⟩

/-- A command that removes no listed directory. -/
theorem piece_singleton {e : Event DiskAns W} (hpast : Before past) (hdir : removedDir e = none)
    (hknown : KnownLow minFreeGb past e) : Piece minFreeGb keepDir past [e] where
  ordered := by simp [removed, hdir]
  kept := by simp [removed, hdir]
  known := by
    rw [each_cons, each_cons]
    refine and_congr (iff_of_true hknown fun _ => ?_) (iff_of_true trivial trivial)
    rw [hpast.removed, hpast.listed]
    rfl

theorem Before.snoc {e : Event DiskAns W} (hpast : Before past) (hdir : removedDir e = none)
    (hlist : listing e = []) : Before (past ++ [e]) where
  removed := by simp [removed_snoc, hpast.removed, hdir]
  listed := by simp [listed_snoc, hpast.listed, hlist]

theorem piece_readFreeDiskGb (hpast : Before past) (h : (readFreeDiskGb options).Runs es free) :
    Piece minFreeGb keepDir past es ∧ Before (past ++ es) ∧ latest (past ++ es) = free := by
  obtain ⟨e, rfl, hread, hdir, hlist, hkept⟩ := runs_readFreeDiskGb h
  refine ⟨piece_singleton hpast hdir fun hdel => ?_, hpast.snoc hdir hlist, latest_snoc hread⟩
  rw [hkept] at hdel
  cases hdel

theorem piece_clearIfLow {after : Option ℤ} (hpast : Before past) (hfree : latest past = free)
    (h : (clearIfLow options minFreeGb free).Runs es after) :
    Piece minFreeGb keepDir past es ∧ Before (past ++ es) ∧ latest (past ++ es) = after := by
  by_cases hlow : low minFreeGb free = true
  · rw [clearIfLow, if_pos hlow] at h
    obtain ⟨es₁, es₂, answer, rfl, h₁, h₂⟩ := runs_bind.mp h
    obtain ⟨asRoot, pre, post, rfl⟩ := runs_execSSH h₁
    rw [← List.append_assoc]
    have hclear := Before.snoc hpast (e := ⟨⟨.clearHostCache (hubPath options), 120000, asRoot⟩, answer,
      pre, post⟩) rfl rfl
    obtain ⟨hpiece, hbefore, hlatest⟩ := piece_readFreeDiskGb hclear h₂
    refine ⟨(piece_singleton hpast rfl fun _ => ?_).append hpiece, hbefore, hlatest⟩
    rwa [hfree]
  · rw [clearIfLow, if_neg hlow] at h
    obtain ⟨rfl, rfl⟩ := runs_ret.mp h
    rw [List.append_nil]
    exact ⟨piece_nil, hpast, hfree⟩

/-- The listing of the cached models and the loop over it. -/
theorem piece_evictListed {e : Event DiskAns W} {hub : String} {timeout : ℕ}
    {asRoot : Bool} {answer : CommandResult} {pre post : W} {r : Option ℤ} (hpast : Before past)
    (he : e = ⟨⟨.listModels hub, timeout, asRoot⟩, .ok answer, pre, post⟩)
    (hfree : latest past = free) (hsome : free ≠ none)
    (h : (evictLoop options minFreeGb keepDir (trimmedLines answer.stdout) free).Runs es r) :
    Piece minFreeGb keepDir past ([e] ++ es) := by
  subst he
  set e : Event DiskAns W := ⟨⟨.listModels hub, timeout, asRoot⟩, .ok answer, pre, post⟩
  have hremoved : removed (past ++ [e]) = [] := by
    rw [removed_snoc, hpast.removed]
    rfl
  have hlisted : listed (past ++ [e]) = trimmedLines answer.stdout := by
    rw [listed_snoc, hpast.listed]
    rfl
  have hlatest : latest (past ++ [e]) = free := by rw [latest_snoc_of_none rfl, hfree]
  obtain ⟨hsub, -, hiff⟩ := runs_evictLoop h hlatest (by rw [hremoved, hlisted, List.nil_append])
  refine ⟨?_, fun dir hdir => ?_, ?_⟩
  · refine (hsub.sublist.trans List.filter_sublist).trans ?_
    rw [listed, List.flatMap_append, List.flatMap_cons, List.flatMap_nil, List.append_nil]
    exact List.sublist_append_left (trimmedLines answer.stdout) _
  · exact of_decide_eq_true (List.mem_filter.mp (hsub.subset hdir)).2
  · rw [List.singleton_append, each_cons, each_cons, hiff]
    refine and_congr (iff_of_true (fun hdel => by cases hdel) fun hr => by cases hr) ?_
    exact and_iff_right fun hnone => absurd hnone hsome

theorem piece_evictOldestCachedModels {keepModelId : Option String} {r : Option ℤ} (hpast : Before past)
    (hfree : latest past = free) (hsome : free ≠ none)
    (h : (evictOldestCachedModels options minFreeGb free keepModelId).Runs es r) :
    Piece minFreeGb (keepDirOf keepModelId) past es := by
  have hquiet : ∀ (past : List (Event DiskAns W)) (e : Event DiskAns W),
      e.op.command.deletes = false → KnownLow minFreeGb past e := by
    intro past e hdel hdel'
    rw [hdel] at hdel'
    cases hdel'
  rw [evictOldestCachedModels] at h
  by_cases hvolume : options.hfCacheVolume = ""
  · rw [if_pos hvolume] at h
    obtain ⟨rfl, -⟩ := runs_ret.mp h
    exact piece_nil
  rw [if_neg hvolume] at h
  obtain ⟨es₁, es₂, mp, rfl, h₁, h₂⟩ := runs_bind.mp h
  obtain ⟨asRoot, pre, post, rfl⟩ := runs_execSSH h₁
  refine (piece_singleton hpast rfl (hquiet _ _ rfl)).append ?_
  have hpast' := hpast.snoc (e := ⟨⟨.inspectVolume options.hfCacheVolume, 20000, asRoot⟩, mp, pre, post⟩)
    rfl rfl
  cases mp with
  | error msg =>
    obtain ⟨rfl, -⟩ := runs_ret.mp h₂
    exact piece_nil
  | ok mp =>
    by_cases hmount : trim mp.stdout = ""
    · simp only [hmount, if_true] at h₂
      obtain ⟨rfl, -⟩ := runs_ret.mp h₂
      exact piece_nil
    simp only [hmount, if_false] at h₂
    obtain ⟨es₃, es₄, listing, rfl, h₃, h₄⟩ := runs_bind.mp h₂
    obtain ⟨asRoot', pre', post', rfl⟩ := runs_execSSH h₃
    cases listing with
    | error msg =>
      obtain ⟨rfl, -⟩ := runs_ret.mp h₄
      rw [List.append_nil]
      exact piece_singleton hpast' rfl (hquiet _ _ rfl)
    | ok listing =>
      refine piece_evictListed hpast' rfl ?_ hsome h₄
      rw [latest_snoc_of_none rfl, hfree]

theorem piece_evictIfLow {keepModelId : Option String} (hpast : Before past) (hfree : latest past = free)
    (h : (evictIfLow options minFreeGb keepModelId free).Runs es ()) :
    Piece minFreeGb (keepDirOf keepModelId) past es := by
  by_cases hlow : low minFreeGb free = true
  · rw [evictIfLow, if_pos hlow] at h
    obtain ⟨es₁, es₂, r, rfl, h₁, h₂⟩ := runs_bind.mp h
    obtain ⟨rfl, -⟩ := runs_ret.mp h₂
    rw [List.append_nil]
    refine piece_evictOldestCachedModels hpast hfree (fun hnone => ?_) h₁
    rw [hnone] at hlow
    cases hlow
  · rw [evictIfLow, if_neg hlow] at h
    obtain ⟨rfl, -⟩ := runs_ret.mp h
    exact piece_nil

theorem piece_ensureDiskSpace {keepModelId : Option String} {requiredModelGb : Option ℚ}
    (h : (ensureDiskSpace options keepModelId requiredModelGb).Runs es ()) :
    Piece (minFreeGbFor options requiredModelGb) (keepDirOf keepModelId) [] es := by
  have hstart : Before ([] : List (Event DiskAns W)) := ⟨rfl, rfl⟩
  by_cases hopt : options.minFreeDiskGb ≤ 0
  · rw [ensureDiskSpace, if_pos hopt] at h
    obtain ⟨rfl, -⟩ := runs_ret.mp h
    exact piece_nil
  rw [ensureDiskSpace, if_neg hopt] at h
  obtain ⟨es₁, es₂, before, rfl, h₁, h₂⟩ := runs_bind.mp h
  obtain ⟨hread, hbefore, -⟩ :
      Piece (minFreeGbFor options requiredModelGb) (keepDirOf keepModelId) [] es₁ ∧
        Before ([] ++ es₁) ∧ latest ([] ++ es₁) = before := piece_readFreeDiskGb hstart h₁
  refine hread.append ?_
  by_cases hlow : low (minFreeGbFor options requiredModelGb) before = true
  · simp only [hlow, if_true] at h₂
    obtain ⟨es₃, es₄, pruned, rfl, h₃, h₄⟩ := runs_bind.mp h₂
    obtain ⟨asRoot, pre, post, rfl⟩ := runs_execSSH h₃
    refine (piece_singleton hbefore rfl fun hdel => by cases hdel).append ?_
    have hprune := Before.snoc hbefore (e := ⟨⟨.systemPrune, 120000, asRoot⟩, pruned, pre, post⟩) rfl rfl
    obtain ⟨es₅, es₆, free, rfl, h₅, h₆⟩ := runs_bind.mp h₄
    obtain ⟨hread', hbefore', hfree⟩ := piece_readFreeDiskGb hprune h₅
    obtain ⟨es₇, es₈, after, rfl, h₇, h₈⟩ := runs_bind.mp h₆
    obtain ⟨hclear, hbefore'', hafter⟩ := piece_clearIfLow hbefore' hfree h₇
    exact hread'.append (hclear.append (piece_evictIfLow hbefore'' hafter h₈))
  · rw [if_neg hlow] at h₂
    obtain ⟨rfl, -⟩ := runs_ret.mp h₂
    exact piece_nil

/-- **The escalation is safe exactly when a reading is unreadable only after the last directory that may be
evicted.** -/
theorem evictionSafe_iff {keepModelId : Option String} {requiredModelGb : Option ℚ}
    (h : (ensureDiskSpace options keepModelId requiredModelGb).Runs es ()) :
    EvictionSafe options keepModelId requiredModelGb es ↔
      Each (LastUnreadable (keepDirOf keepModelId)) [] es := by
  have hpiece := piece_ensureDiskSpace h
  refine ⟨fun hsafe => hpiece.known.mp hsafe.known, fun hlast => ?_⟩
  refine ⟨fun modelId hid hne hub hmem => ?_, hpiece.ordered, hpiece.known.mpr hlast⟩
  refine hpiece.kept _ hmem ?_
  rw [baseName_modelDir, keepDirOf, Option.filter_eq_some_iff.mpr ⟨hid, decide_eq_true hne⟩]
  rfl

/-! ## A blind eviction -/

/-- An answer to a command that succeeds. -/
def printed (stdout : String) : Except String CommandResult := .ok ⟨stdout, "", some 0, true, 0⟩

/-- A host with two cached models, on which `df` gives the listed outputs one after the other. -/
def serveDisk (o : DiskOp) (outputs : List String) : Except String CommandResult × List String :=
  match o.command with
  | .freeDisk => (printed (outputs.headD ""), outputs.tail)
  | .inspectVolume _ => (printed "/v", outputs)
  | .listModels _ => (printed "/v/hub/models--a--x\n/v/hub/models--b--y\n", outputs)
  | _ => (printed "", outputs)

/-- The hygiene before a deployment of a third model, on that host. -/
def diskRun (outputs : List String) : List (Event DiskAns (List String)) :=
  ((ensureDiskSpace {} (some "c/z") none).drive serveDisk outputs).1

theorem runs_diskRun (outputs : List String) :
    (ensureDiskSpace {} (some "c/z") none).Runs (diskRun outputs) () := by
  have h := runs_drive serveDisk (ensureDiskSpace {} (some "c/z") none) outputs
  rwa [Subsingleton.elim (((ensureDiskSpace {} (some "c/z") none).drive serveDisk outputs).2.1) ()] at h

/-- **A model is evicted blindly**: the free space cannot be read after the first eviction, and the second
one follows. -/
theorem blind_eviction : (ensureDiskSpace {} (some "c/z") none).Runs (diskRun ["10", "10", "10", ""]) () ∧
    removed (diskRun ["10", "10", "10", ""]) = ["/v/hub/models--a--x", "/v/hub/models--b--y"] ∧
    ¬ EvictionSafe {} (some "c/z") none (diskRun ["10", "10", "10", ""]) := by
  refine ⟨runs_diskRun _, by decide +kernel, fun hsafe => ?_⟩
  have hblind : ¬ Each (KnownLow (minFreeGbFor {} none)) [] (diskRun ["10", "10", "10", ""]) := by
    decide +kernel
  exact hblind hsafe.known

theorem eviction_read_throughout :
    EvictionSafe {} (some "c/z") none (diskRun ["10", "10", "10", "90"]) ↔
      Each (LastUnreadable (keepDirOf (some "c/z"))) [] (diskRun ["10", "10", "10", "90"]) :=
  evictionSafe_iff (runs_diskRun _)

end Benchmarker.Deployment
