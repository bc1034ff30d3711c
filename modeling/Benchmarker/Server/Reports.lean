import Benchmarker.Js.Captures
import Benchmarker.Posix.Path

/-!
# The report files of the queue API

The routes that read files of the matrix output: the reports of a model, their listing, and the batch summaries. Texts
are lists of characters.

* `resolveMatrixOutputDir`, `getReport`, `listReports`, `batchSummaryFile`.
* `plain_slug`, `plain_reportFile`, `plain_batchSummary`: what the patterns accept are names of files.
* `reportPath`, **`reports_exact`**: a report is read exactly two levels below the directory, and what is listed is
  served.
-/

namespace Benchmarker.Server

open Js Posix.Path

/-- What is read of the files: the working directory, and what a path names. A path that is normalized names what its
absolute path names. -/
structure Files where
  cwd : List Char
  existsSync : List Char → Bool
  /-- The entries of a directory, and whether each is a directory. -/
  readdirSync : List Char → List (List Char × Bool)
  absolute : ∀ paths, existsSync (join paths) = existsSync (resolve cwd (join paths))

/-- The files with the given absolute paths. -/
def filesAt (cwd : List Char) (existing : List (List Char)) (readdirSync : List Char → List (List Char × Bool)) : Files where
  cwd := cwd
  existsSync path := existing.contains (resolve cwd path)
  readdirSync := readdirSync
  absolute _ := by rw [resolve_resolve]

/-- `MATRIX_OUTPUT_DIR` and `SKILL_DEV_PLUGIN_DIR`. -/
structure OutputEnvironment where
  matrixOutputDir : Option (List Char) := none
  skillDevPluginDir : Option (List Char) := none

def resolveMatrixOutputDir (env : OutputEnvironment) : Option (List Char) :=
  match env.matrixOutputDir.filter (· ≠ []) with
  | some explicit => some explicit
  | none => (env.skillDevPluginDir.filter (· ≠ [])).map fun pluginDir => join [pluginDir, "matrix-output".toList]

/-! ## Patterns -/

def isLower (c : Char) : Bool := 'a' ≤ c && c ≤ 'z'

def isUpper (c : Char) : Bool := 'A' ≤ c && c ≤ 'Z'

/-- `[a-z0-9-]` -/
def slugChar (c : Char) : Bool := isLower c || c.isDigit || c = '-'

/-- `[a-zA-Z0-9._-]` -/
def fileChar (c : Char) : Bool := isLower c || isUpper c || c.isDigit || c = '.' || c = '_' || c = '-'

/-- `pattern.test(s)`, for a pattern `^…$`. -/
def matchesWhole (pieces : List (Piece Char)) (s : List Char) : Bool := (captures (pieces.map (false, ·)) s).isSome

def exactly (text : List Char) : Piece Char := .text (text.map fun c d => d = c)

/-- `/^[a-z0-9-]+$/` -/
def reportSlugPattern : List (Piece Char) := [.plus slugChar]

/-- `/^[a-zA-Z0-9._-]+\.html$/` -/
def reportFilePattern : List (Piece Char) := [.plus fileChar, exactly ['.', 'h', 't', 'm', 'l']]

/-- `/^batch-summary-[a-zA-Z0-9._-]+\.json$/` -/
def batchSummaryPattern : List (Piece Char) :=
  [exactly "batch-summary-".toList, .plus fileChar, exactly ['.', 'j', 's', 'o', 'n']]

/-! ## Routes -/

inductive FileReply
  /-- 400 -/
  | invalid
  /-- 503 -/
  | notConfigured
  /-- 404 -/
  | notFound
  | file (path : List Char)
  deriving DecidableEq

/-- `GET /reports/:slug/:file` -/
def getReport (files : Files) (env : OutputEnvironment) (slug file : List Char) : FileReply :=
  if !matchesWhole reportSlugPattern slug || !matchesWhole reportFilePattern file then .invalid
  else match resolveMatrixOutputDir env with
    | none => .notConfigured
    | some matrixOutputDir =>
      let filePath := join [matrixOutputDir, slug, file]
      let resolvedBase := resolve files.cwd matrixOutputDir
      let resolvedTarget := resolve files.cwd filePath
      if !(resolvedBase ++ ['/']).isPrefixOf resolvedTarget then .invalid
      else if !files.existsSync resolvedTarget then .notFound
      else .file resolvedTarget

/-- `/reports/${slug}/${file}` -/
def reportUrl (slug file : List Char) : List Char := "/reports/".toList ++ slug ++ '/' :: file

def agentEvalFile : List Char := "agent_eval_full.html".toList

def tokenUsageFile : List Char := "token_usage_overview_matrix.html".toList

structure ReportBundle where
  slug : List Char
  agentEvalUrl : List Char
  tokenUsageUrl : Option (List Char)

/-- `GET /api/reports` -/
def listReports (files : Files) (env : OutputEnvironment) : List ReportBundle :=
  match resolveMatrixOutputDir env with
  | none => []
  | some matrixOutputDir =>
    if !files.existsSync matrixOutputDir then []
    else
      (((files.readdirSync matrixOutputDir).filter fun d => d.2 && matchesWhole reportSlugPattern d.1).filter fun d =>
        files.existsSync (join [matrixOutputDir, d.1, agentEvalFile])).map fun d => {
          slug := d.1
          agentEvalUrl := reportUrl d.1 agentEvalFile
          tokenUsageUrl := if files.existsSync (join [matrixOutputDir, d.1, tokenUsageFile]) then
            some (reportUrl d.1 tokenUsageFile) else none }

/-- The file that `GET /api/batch-summary/:basename` reads. -/
def batchSummaryFile (env : OutputEnvironment) (basename : List Char) : FileReply :=
  if basename = [] || !matchesWhole batchSummaryPattern basename then .invalid
  else match resolveMatrixOutputDir env with
    | none => .notConfigured
    | some matrixOutputDir => .file (join [matrixOutputDir, basename])

/-! ## Names -/

variable {s slug file dir : List Char} {files : Files} {env : OutputEnvironment} {pieces : List (Piece Char)}
  {names : List (List Char)}

theorem noSlash_of_slugChar (h : ∀ c ∈ s, slugChar c = true) : '/' ∉ s := fun hmem => by
  have := h _ hmem
  revert this
  decide

theorem noSlash_of_fileChar (h : ∀ c ∈ s, fileChar c = true) : '/' ∉ s := fun hmem => by
  have := h _ hmem
  revert this
  decide

/-- What matches a pattern is cut into its pieces. -/
theorem exists_words (h : matchesWhole pieces s = true) : ∃ words, s = words.flatten ∧ List.Forall₂ Piece.Spells pieces words := by
  obtain ⟨groups, hgroups⟩ := Option.isSome_iff_exists.mp h
  have hspelled := spelled_of_captures hgroups
  clear h hgroups
  induction pieces generalizing s with
  | nil =>
    cases hspelled
    exact ⟨[], rfl, .nil⟩
  | cons piece pieces ih =>
    rw [List.map_cons] at hspelled
    cases hspelled with
    | skip hw hrest =>
      obtain ⟨words, rfl, hwords⟩ := ih hrest
      exact ⟨_ :: words, rfl, .cons hw hwords⟩

theorem eq_of_spells_exactly {text w : List Char} (h : (exactly text).Spells w) : w = text := by
  change List.Forall₂ _ (text.map _) w at h
  rw [List.forall₂_map_left_iff] at h
  have heq : List.Forall₂ (fun c d => c = d) text w := h.imp fun _ _ hd => (of_decide_eq_true hd).symm
  rw [List.forall₂_eq_eq_eq] at heq
  exact heq.symm

theorem plain_of_mem {c : Char} (hc : c ∈ s) (hdot : c ≠ '.') (hslash : '/' ∉ s) : Plain s where
  ne_nil := List.ne_nil_of_mem hc
  ne_dot := by
    rintro rfl
    exact hdot (List.mem_singleton.mp hc)
  ne_dotdot := by
    rintro rfl
    rcases List.mem_cons.mp hc with rfl | hc
    · exact hdot rfl
    · exact hdot (List.mem_singleton.mp hc)
  noSlash := hslash

theorem plain_slug (h : matchesWhole reportSlugPattern s = true) : Plain s := by
  obtain ⟨words, rfl, hwords⟩ := exists_words h
  rw [reportSlugPattern] at hwords
  obtain _ | ⟨hw, _ | _⟩ := hwords
  rw [List.flatten_cons, List.flatten_nil, List.append_nil]
  obtain ⟨c, cs, rfl⟩ := List.exists_cons_of_ne_nil hw.1
  refine plain_of_mem List.mem_cons_self ?_ (noSlash_of_slugChar hw.2)
  rintro rfl
  exact absurd (hw.2 _ List.mem_cons_self) (by decide)

theorem plain_reportFile (h : matchesWhole reportFilePattern s = true) : Plain s := by
  obtain ⟨words, rfl, hwords⟩ := exists_words h
  rw [reportFilePattern] at hwords
  obtain _ | ⟨hw, _ | ⟨hending, _ | _⟩⟩ := hwords
  obtain rfl := eq_of_spells_exactly hending
  rw [List.flatten_cons, List.flatten_cons, List.flatten_nil, List.append_nil]
  refine plain_of_mem (c := 'h') (List.mem_append_right _ (by decide)) (by decide) ?_
  exact List.not_mem_append (noSlash_of_fileChar hw.2) (by decide)

theorem plain_batchSummary (h : matchesWhole batchSummaryPattern s = true) : Plain s := by
  obtain ⟨words, rfl, hwords⟩ := exists_words h
  rw [batchSummaryPattern] at hwords
  obtain _ | ⟨hstart, _ | ⟨hw, _ | ⟨hending, _ | _⟩⟩⟩ := hwords
  obtain rfl := eq_of_spells_exactly hstart
  obtain rfl := eq_of_spells_exactly hending
  rw [List.flatten_cons, List.flatten_cons, List.flatten_cons, List.flatten_nil, List.append_nil]
  refine plain_of_mem (c := 'b') (List.mem_append_left _ (by decide)) (by decide) ?_
  exact List.not_mem_append (by decide) (List.not_mem_append (noSlash_of_fileChar hw.2) (by decide))

/-! ## Paths -/

/-- The directory's own segments. -/
def baseSegments (files : Files) (matrixOutputDir : List Char) : List Segment :=
  segmentsOf false (absolute files.cwd matrixOutputDir)

/-- The path of names in a directory. -/
def pathIn (files : Files) (matrixOutputDir : List Char) (names : List (List Char)) : List Char :=
  '/' :: slashed (baseSegments files matrixOutputDir ++ names)

theorem matrixOutputDir_ne_nil (h : resolveMatrixOutputDir env = some dir) : dir ≠ [] := by
  unfold resolveMatrixOutputDir at h
  cases hexplicit : env.matrixOutputDir.filter (· ≠ []) with
  | some explicit =>
    rw [hexplicit] at h
    obtain rfl := Option.some.inj h
    exact of_decide_eq_true (Option.filter_eq_some_iff.mp hexplicit).2
  | none =>
    rw [hexplicit] at h
    obtain ⟨pluginDir, -, rfl⟩ := Option.map_eq_some_iff.mp h
    exact join_ne_nil _

theorem resolve_names (hdir : dir ≠ []) (hnames : ∀ p ∈ names, Plain p) :
    resolve files.cwd (join (dir :: names)) = pathIn files dir names := resolve_join hdir hnames

/-- The check of the base, for plain names below it. -/
theorem base_isPrefixOf (hnames : ∀ p ∈ names, Plain p) (hne : names ≠ []) :
    (resolve files.cwd dir ++ ['/']).isPrefixOf (pathIn files dir names) = decide (baseSegments files dir ≠ []) := by
  have hresolve : resolve files.cwd dir = '/' :: slashed (baseSegments files dir) := rfl
  rw [hresolve, pathIn]
  by_cases hroot : baseSegments files dir = []
  · rw [hroot, List.nil_append]
    have hhead := @head_slashed false names fun p hp => .inl (hnames p hp)
    show ['/'].isPrefixOf (slashed names) = false
    cases hslashed : slashed names with
    | nil => rfl
    | cons c cs =>
      rw [hslashed] at hhead
      have hne : '/' ≠ c := fun heq => hhead (congrArg some heq.symm)
      show ('/' == c && List.isPrefixOf [] cs) = false
      rw [beq_eq_false_iff_ne.mpr hne, Bool.false_and]
  · rw [slashed_append hroot hne, decide_eq_true hroot, List.isPrefixOf_iff_prefix]
    exact ⟨slashed names, by rw [List.append_assoc, List.cons_append, List.singleton_append]⟩

/-- A report that is asked for with a slug and a file. -/
def reportIn (files : Files) (dir slug file : List Char) : FileReply :=
  if baseSegments files dir = [] then .invalid
  else if files.existsSync (pathIn files dir [slug, file]) then .file (pathIn files dir [slug, file]) else .notFound

theorem getReport_eq (hslug : matchesWhole reportSlugPattern slug = true) (hfile : matchesWhole reportFilePattern file = true)
    (hdir : resolveMatrixOutputDir env = some dir) : getReport files env slug file = reportIn files dir slug file := by
  have hnames : ∀ p ∈ [slug, file], Plain p :=
    List.forall_mem_cons.mpr ⟨plain_slug hslug, List.forall_mem_singleton.mpr (plain_reportFile hfile)⟩
  have htarget : resolve files.cwd (join [dir, slug, file]) = pathIn files dir [slug, file] :=
    resolve_names (matrixOutputDir_ne_nil hdir) hnames
  have hbase : (resolve files.cwd dir ++ ['/']).isPrefixOf (pathIn files dir [slug, file]) =
      decide (baseSegments files dir ≠ []) := base_isPrefixOf hnames (List.cons_ne_nil _ _)
  unfold getReport
  simp only [hslug, hfile, hdir, htarget, hbase, Bool.not_true, Bool.or_self, Bool.false_eq_true, if_false, reportIn]
  by_cases hroot : baseSegments files dir = []
  · simp [hroot]
  · cases files.existsSync (pathIn files dir [slug, file]) <;> simp [hroot]

theorem reportIn_path {path : List Char} (h : reportIn files dir slug file = .file path) : path = pathIn files dir [slug, file] := by
  unfold reportIn at h
  split_ifs at h
  exact (FileReply.file.inj h).symm

theorem reportIn_file (hroot : baseSegments files dir ≠ []) (h : files.existsSync (pathIn files dir [slug, file]) = true) :
    reportIn files dir slug file = .file (pathIn files dir [slug, file]) := by
  rw [reportIn, if_neg hroot, if_pos h]

/-- A file that exists below the directory is served. -/
theorem getReport_of_exists (hdir : resolveMatrixOutputDir env = some dir) (hroot : baseSegments files dir ≠ [])
    (hslug : matchesWhole reportSlugPattern slug = true) (hfile : matchesWhole reportFilePattern file = true)
    (hexists : files.existsSync (join [dir, slug, file]) = true) :
    getReport files env slug file = .file (pathIn files dir [slug, file]) := by
  have hnames : ∀ p ∈ [slug, file], Plain p :=
    List.forall_mem_cons.mpr ⟨plain_slug hslug, List.forall_mem_singleton.mpr (plain_reportFile hfile)⟩
  rw [getReport_eq hslug hfile hdir]
  refine reportIn_file hroot ?_
  rw [← resolve_names (matrixOutputDir_ne_nil hdir) hnames, ← files.absolute]
  exact hexists

theorem agentEvalFile_matches : matchesWhole reportFilePattern agentEvalFile = true := by decide

theorem tokenUsageFile_matches : matchesWhole reportFilePattern tokenUsageFile = true := by decide

/-- **The report files.** A report is read two levels below the directory, or not at all; a batch summary is read one
level below it; and every address that is listed is served, unless the directory is the root. -/
theorem reports_exact (files : Files) (env : OutputEnvironment) :
    (∀ slug file path, getReport files env slug file = .file path →
      ∃ dir, resolveMatrixOutputDir env = some dir ∧ Plain slug ∧ Plain file ∧ path = pathIn files dir [slug, file]) ∧
    (∀ basename path, batchSummaryFile env basename = .file path →
      ∃ dir, resolveMatrixOutputDir env = some dir ∧ Plain basename ∧ resolve files.cwd path = pathIn files dir [basename]) ∧
    ∀ dir, resolveMatrixOutputDir env = some dir → baseSegments files dir ≠ [] → ∀ bundle ∈ listReports files env,
      ∀ url ∈ bundle.tokenUsageUrl.toList ++ [bundle.agentEvalUrl], ∃ file, url = reportUrl bundle.slug file ∧
        getReport files env bundle.slug file = .file (pathIn files dir [bundle.slug, file]) := by
  refine ⟨?_, ?_, ?_⟩
  · intro slug file path hreport
    by_cases hslug : matchesWhole reportSlugPattern slug = true
    · by_cases hfile : matchesWhole reportFilePattern file = true
      · cases hdir : resolveMatrixOutputDir env with
        | none => simp [getReport, hslug, hfile, hdir] at hreport
        | some dir =>
          rw [getReport_eq hslug hfile hdir] at hreport
          exact ⟨dir, rfl, plain_slug hslug, plain_reportFile hfile, reportIn_path hreport⟩
      · simp [getReport, hfile] at hreport
    · simp [getReport, hslug] at hreport
  · intro basename path hsummary
    unfold batchSummaryFile at hsummary
    split_ifs at hsummary with hinvalid
    rw [Bool.or_eq_true, not_or, Bool.not_eq_true', Bool.not_eq_false] at hinvalid
    cases hdir : resolveMatrixOutputDir env with
    | none =>
      rw [hdir] at hsummary
      cases hsummary
    | some dir =>
      rw [hdir] at hsummary
      obtain rfl := FileReply.file.inj hsummary
      have hplain := plain_batchSummary hinvalid.2
      exact ⟨dir, rfl, hplain, resolve_names (matrixOutputDir_ne_nil hdir) (List.forall_mem_singleton.mpr hplain)⟩
  · intro dir hdir hroot bundle hbundle url hurl
    unfold listReports at hbundle
    rw [hdir] at hbundle
    dsimp only at hbundle
    split_ifs at hbundle
    · cases hbundle
    obtain ⟨d, hd, rfl⟩ := List.mem_map.mp hbundle
    obtain ⟨hlisted, hexists⟩ := List.mem_filter.mp hd
    have hslug := (Bool.and_eq_true_iff.mp (List.mem_filter.mp hlisted).2).2
    rcases List.mem_append.mp hurl with htoken | hagent
    · rw [Option.mem_toList] at htoken
      dsimp only at htoken
      split_ifs at htoken with htokenExists
      · exact ⟨tokenUsageFile, (Option.some.inj htoken).symm,
          getReport_of_exists hdir hroot hslug tokenUsageFile_matches htokenExists⟩
    · exact ⟨agentEvalFile, List.mem_singleton.mp hagent,
        getReport_of_exists hdir hroot hslug agentEvalFile_matches hexists⟩

example : getReport (filesAt "/srv".toList ["/out/llama/a.html".toList] fun _ => []) { matrixOutputDir := "../out/".toList }
    "llama".toList "a.html".toList = .file "/out/llama/a.html".toList := by decide

end Benchmarker.Server
