import Mathlib.Algebra.BigOperators.Group.Finset.Piecewise
import Mathlib.Data.Fintype.Basic
import Benchmarker.Discovery.Candidate
import Benchmarker.Order.Quota

/-!
# The scan of the hub

`discover` and its pages: the entries of the search results, until a number of candidates is found. The
parameters of a search do not name its page; the cache keeps what a request of a `config.json` came to, so
that no model is requested twice.

* `SearchReply`, `pageTurn`, `scanEntry`, `scanPage`, `scanPages`, `discover`: the source.
* `Exact`: no model is evaluated twice, and the accounts. `Extends`, `extends_scanPages`: what a scan adds.
* **`discover_exact_iff`**: the replies of the hub for which the scan is exact.
-/

namespace Benchmarker.Discovery

open Js Quota

def rejectionCategories : List RejectionCategory := [
  .alreadyEvaluated, .cudaIncompatiblePackaging, .architectureNotWhitelisted, .vramBudgetFastReject,
  .configFetchFailed, .configFetchGated, .configFetchRateLimited, .wrongPipelineTag, .architectureNotCompatible,
  .contextWindowTooSmall, .parameterCountBelowFloor, .licenseNotOpenSource, .hardwareFitFailed]

instance : Fintype RejectionCategory := Fintype.ofList rejectionCategories fun reason => by cases reason <;> decide

/-! ## The search -/

/-- What a search is answered: no response, or a status and a body, which may not parse, or may be no array. -/
inductive SearchReply
  | network
  | unparsable
  | notOk (status : ℕ)
  | noArray
  | entries (data : List HFModelEntry)

def maxPages : ℕ := 10

def modelsPerPage : ℕ := 100

/-- The parameters of the URL. -/
def searchParams (options : ModelDiscoveryOptions) : List (String × String) :=
  [("search", options.search), ("limit", toString modelsPerPage), ("full", "true"), ("config", "true")] ++
    if options.sort ≠ "" then [("sort", options.sort)] else []

/-- What a scan meets. -/
structure ScanContext where
  service : DiscoveryService
  options : ModelDiscoveryOptions
  evaluatedModelIds : List String
  /-- The reply to the `n`-th search. -/
  search : ℕ → List (String × String) → SearchReply
  /-- The reply to the request of the `config.json` of a model. -/
  config : String → Reply
  /-- The cache before the scan. -/
  cache : ConfigCache

/-- One turn of the generator: it ends, it throws, or it yields a page and may go on. -/
inductive Turn
  | ends
  | throws
  | yields (visible : List HFModelEntry) (goesOn : Bool)

def isVisible (options : ModelDiscoveryOptions) (model : HFModelEntry) : Bool :=
  !model.isPrivate && (options.includeGated || model.gated ≠ .flag true)

def pageTurn (options : ModelDiscoveryOptions) : SearchReply → Turn
  | .network | .unparsable => .throws
  | .notOk _ | .noArray => .ends
  | .entries data =>
    let visible := data.filter (isVisible options)
    if visible = [] then .ends else .yields visible (modelsPerPage ≤ data.length)

/-! ## The scan -/

structure Scan where
  models : List ModelCandidate := []
  totalRejected : ℕ := 0
  totalScanned : ℕ := 0
  rejectionBreakdown : RejectionCategory → ℕ := fun _ => 0
  cache : ConfigCache
  /-- The entries that were evaluated; the source keeps no record of them. -/
  evaluated : List HFModelEntry := []

def Scan.reject (scan : Scan) (reason : RejectionCategory) : Scan :=
  { scan with
    totalRejected := scan.totalRejected + 1
    rejectionBreakdown := Function.update scan.rejectionBreakdown reason (scan.rejectionBreakdown reason + 1) }

section Source

variable (context : ScanContext)

def isEvaluated (model : HFModelEntry) : Bool := model.id ∈ context.evaluatedModelIds

/-- One turn of the loop over a page, and whether it is left. -/
def scanEntry (scan : Scan) (model : HFModelEntry) : Scan × Bool :=
  if isEvaluated context model then (scan.reject .alreadyEvaluated, false)
  else match fastReject context.service model with
    | some reason => ({ scan.reject reason with totalScanned := scan.totalScanned + 1 }, false)
    | none =>
      let evaluation :=
        evaluateCandidate context.service context.options scan.cache model (context.config model.id)
      let scanned := { scan with
        totalScanned := scan.totalScanned + 1
        cache := evaluation.2
        evaluated := scan.evaluated ++ [model] }
      match evaluation.1 with
      | .error reason => (scanned.reject reason, false)
      | .ok candidate =>
        ({ scanned with models := scan.models ++ [candidate] },
          context.options.limit ≤ scan.models.length + 1)

def scanPage (scan : Scan) : List HFModelEntry → Scan
  | [] => scan
  | model :: models =>
    let turn := scanEntry context scan model
    if turn.2 then turn.1 else scanPage turn.1 models

/-- The scan of at most so many pages, the first one with the number, and whether a search has thrown. -/
def scanPages : ℕ → ℕ → Scan → Scan × Bool
  | 0, _, scan => (scan, false)
  | remaining + 1, page, scan =>
    match pageTurn context.options (context.search page (searchParams context.options)) with
    | .ends => (scan, false)
    | .throws => (scan, true)
    | .yields visible goesOn =>
      let scanned := scanPage context scan visible
      if context.options.limit ≤ scanned.models.length || !goesOn then (scanned, false)
      else scanPages remaining (page + 1) scanned

structure DiscoverResult where
  models : List ModelCandidate
  totalRejected : ℕ
  totalScanned : ℕ
  timestamp : String
  rejectionBreakdown : RejectionCategory → ℕ

/-- The state at the end of a scan, and whether a search has thrown. -/
def scanned : Scan × Bool := scanPages context maxPages 0 { cache := context.cache }

/-- `none` is a rejection: a search has thrown. -/
def discover (now : String) : Option DiscoverResult :=
  let scan := (scanned context).1
  if (scanned context).2 then none
  else some ⟨scan.models, scan.totalRejected, scan.totalScanned, now, scan.rejectionBreakdown⟩

/-- The entries that `evaluateCandidate` is called for, in the order of the calls. -/
def evaluations : List HFModelEntry := (scanned context).1.evaluated

end Source

/-! ## What a scan adds -/

/-- The entries that a scan evaluates: those that are neither marked nor rejected without a fetch. -/
def isEligible (context : ScanContext) (model : HFModelEntry) : Bool :=
  !isEvaluated context model && (fastReject context.service model).isNone

/-- What an entry comes to, with the cache that the scan starts from. -/
def candidate (context : ScanContext) (model : HFModelEntry) : Option ModelCandidate :=
  candidateFor context.service context.options context.cache model (context.config model.id)

def isAccepted (context : ScanContext) (model : HFModelEntry) : Bool := (candidate context model).isSome

/-- The accounts of the counters. -/
structure Balanced (scan : Scan) : Prop where
  rejected : scan.totalRejected = ∑ reason, scan.rejectionBreakdown reason
  scanned : scan.models.length + scan.totalRejected =
    scan.totalScanned + scan.rejectionBreakdown .alreadyEvaluated

/-- What holds in every state of a scan. -/
structure Consistent (context : ScanContext) (scan : Scan) : Prop where
  balanced : Balanced scan
  configs : SameConfigs context.config context.cache scan.cache

/-- The second state comes from the first one by the evaluation of some entries. -/
structure Extends (context : ScanContext) (scan scan' : Scan) (models : List HFModelEntry) : Prop where
  evaluated : scan'.evaluated = scan.evaluated ++ models
  models : scan'.models = scan.models ++ models.filterMap (candidate context)

section Steps

variable {context : ScanContext} {scan scan' scan'' : Scan} {models models' : List HFModelEntry}
  {model : HFModelEntry} {reason : RejectionCategory}

theorem Extends.of_eq (hevaluated : scan'.evaluated = scan.evaluated) (hmodels : scan'.models = scan.models) :
    Extends context scan scan' [] where
  evaluated := hevaluated.trans (List.append_nil _).symm
  models := hmodels.trans (List.append_nil _).symm

theorem Extends.trans (h : Extends context scan scan' models) (h' : Extends context scan' scan'' models') :
    Extends context scan scan'' (models ++ models') where
  evaluated := by rw [h'.evaluated, h.evaluated, List.append_assoc]
  models := by rw [h'.models, h.models, List.filterMap_append, List.append_assoc]

theorem Extends.length (h : Extends context scan scan' models) :
    scan'.models.length = scan.models.length + models.countP (isAccepted context) := by
  rw [h.models, List.length_append, List.length_filterMap_eq_countP]
  rfl

/-- One more rejection, in one category. -/
theorem sum_reject : ∑ other, (scan.reject reason).rejectionBreakdown other =
    (∑ other, scan.rejectionBreakdown other) + 1 := by
  rw [Scan.reject]
  dsimp only
  rw [Finset.sum_update_of_mem (Finset.mem_univ reason), Finset.sdiff_singleton_eq_erase,
    ← Finset.add_sum_erase _ _ (Finset.mem_univ reason), add_right_comm]

theorem breakdown_reject_ne (h : reason ≠ .alreadyEvaluated) :
    (scan.reject reason).rejectionBreakdown .alreadyEvaluated = scan.rejectionBreakdown .alreadyEvaluated :=
  Function.update_of_ne h.symm _ scan.rejectionBreakdown

theorem breakdown_reject_self : (scan.reject .alreadyEvaluated).rejectionBreakdown .alreadyEvaluated =
    scan.rejectionBreakdown .alreadyEvaluated + 1 := by
  exact Function.update_self RejectionCategory.alreadyEvaluated (scan.rejectionBreakdown .alreadyEvaluated + 1)
    scan.rejectionBreakdown

/-- A marked entry is counted as rejected, and not as scanned. -/
theorem Balanced.marked (h : Balanced scan) : Balanced (scan.reject .alreadyEvaluated) where
  rejected := (congrArg (· + 1) h.rejected).trans sum_reject.symm
  scanned := by
    rw [breakdown_reject_self]
    exact congrArg (· + 1) h.scanned

/-- Another rejection is counted as scanned. -/
theorem Balanced.scannedReject {scanned : Scan} (h : Balanced scan) (hreason : reason ≠ .alreadyEvaluated)
    (hscanned : scanned.totalScanned = scan.totalScanned + 1)
    (hrejected : scanned.totalRejected = scan.totalRejected + 1)
    (hbreakdown : scanned.rejectionBreakdown = (scan.reject reason).rejectionBreakdown)
    (hmodels : scanned.models = scan.models) : Balanced scanned where
  rejected := by
    rw [hrejected, hbreakdown, sum_reject, h.rejected]
  scanned := by
    have hbalance := h.scanned
    rw [hscanned, hrejected, hbreakdown, breakdown_reject_ne hreason, hmodels]
    omega

/-- An accepted entry is counted as scanned. -/
theorem Balanced.accept {scanned : Scan} (h : Balanced scan)
    (hscanned : scanned.totalScanned = scan.totalScanned + 1)
    (hrejected : scanned.totalRejected = scan.totalRejected)
    (hbreakdown : scanned.rejectionBreakdown = scan.rejectionBreakdown)
    (hmodels : scanned.models.length = scan.models.length + 1) : Balanced scanned where
  rejected := by rw [hrejected, hbreakdown, h.rejected]
  scanned := by
    have hbalance := h.scanned
    rw [hscanned, hrejected, hbreakdown, hmodels]
    omega

/-- **One turn of the loop.** An entry that is not eligible adds nothing; an eligible one is evaluated, and the
page is left with the candidate that reaches the limit. -/
theorem scanEntry_spec (h : Consistent context scan) (model : HFModelEntry) :
    Consistent context (scanEntry context scan model).1 ∧
      Extends context scan (scanEntry context scan model).1 ([model].filter (isEligible context)) ∧
      ((scanEntry context scan model).2 = true ↔ isEligible context model = true ∧
        isAccepted context model = true ∧ context.options.limit ≤ scan.models.length + 1) := by
  unfold scanEntry
  by_cases hmarked : isEvaluated context model = true
  · have hskip : isEligible context model = false := by rw [isEligible, hmarked]; rfl
    rw [if_pos hmarked, List.filter_cons_of_neg (by rw [hskip]; exact nofun), List.filter_nil]
    exact ⟨⟨h.balanced.marked, h.configs⟩, .of_eq rfl rfl, by simp [hskip]⟩
  · rw [if_neg hmarked]
    cases hfast : fastReject context.service model with
    | some reason =>
      have hskip : isEligible context model = false := by rw [isEligible, hfast, Option.isNone_some, Bool.and_false]
      have hreason : reason ≠ .alreadyEvaluated := by
        rintro rfl
        exact fastReject_ne hfast
      rw [List.filter_cons_of_neg (by rw [hskip]; exact nofun), List.filter_nil]
      refine ⟨⟨h.balanced.scannedReject hreason rfl rfl rfl rfl, h.configs⟩, .of_eq rfl rfl, by simp [hskip]⟩
    | none =>
      have heligible : isEligible context model = true := by
        rw [isEligible, hfast, Bool.eq_false_iff.mpr hmarked]
        rfl
      have hsame : candidateFor context.service context.options scan.cache model (context.config model.id) =
          candidate context model := candidateFor_same h.configs
      have hconfigs : SameConfigs context.config context.cache (evaluateCandidate context.service context.options
          scan.cache model (context.config model.id)).2 := fun modelId =>
        (sameConfigs_evaluate modelId).trans (h.configs modelId)
      rw [List.filter_cons_of_pos heligible, List.filter_nil]
      dsimp only
      cases hevaluation : (evaluateCandidate context.service context.options scan.cache model
          (context.config model.id)).1 with
      | error reason =>
        have hnone : candidate context model = none := by
          rw [← hsame, candidateFor, hevaluation]
          rfl
        refine ⟨⟨?_, hconfigs⟩, ⟨rfl, ?_⟩, ?_⟩
        · exact h.balanced.scannedReject (evaluateCandidate_error hevaluation) rfl rfl rfl rfl
        · rw [List.filterMap_cons, hnone]
          exact (List.append_nil _).symm
        · simp [isAccepted, hnone]
      | ok found =>
        have hsome : candidate context model = some found := by
          rw [← hsame, candidateFor, hevaluation]
          rfl
        refine ⟨⟨?_, hconfigs⟩, ⟨rfl, ?_⟩, ?_⟩
        · exact h.balanced.accept rfl rfl rfl List.length_append
        · rw [List.filterMap_cons, hsome]
          rfl
        · simp [isAccepted, hsome, heligible]

/-- **A page**: the eligible entries are evaluated until the limit is reached. -/
theorem scanPage_spec (models : List HFModelEntry) (h : Consistent context scan)
    (hlt : scan.models.length < context.options.limit) :
    Consistent context (scanPage context scan models) ∧
      Extends context scan (scanPage context scan models)
        (quota (isAccepted context) (context.options.limit - scan.models.length)
          (models.filter (isEligible context))) := by
  induction models generalizing scan with
  | nil => exact ⟨h, .of_eq rfl rfl⟩
  | cons model models ih =>
    obtain ⟨hturn, hextends, hleaves⟩ := scanEntry_spec h model
    have hlength := hextends.length
    rw [scanPage]
    by_cases heligible : isEligible context model = true
    · rw [List.filter_cons_of_pos heligible, List.filter_nil] at hextends hlength
      rw [List.filter_cons_of_pos heligible]
      rw [List.countP_singleton] at hlength
      by_cases hleft : (scanEntry context scan model).2 = true
      · obtain ⟨-, haccepted, hlimit⟩ := hleaves.mp hleft
        rw [if_pos hleft, quota_last haccepted (by omega)]
        exact ⟨hturn, hextends⟩
      · rw [if_neg hleft]
        by_cases haccepted : isAccepted context model = true
        · have hroom : ¬context.options.limit ≤ scan.models.length + 1 := fun hle =>
            hleft (hleaves.mpr ⟨heligible, haccepted, hle⟩)
          rw [if_pos haccepted] at hlength
          obtain ⟨hconsistent, hrest⟩ := ih hturn (by omega)
          rw [hlength, ← Nat.sub_sub] at hrest
          rw [quota_next haccepted (by omega)]
          exact ⟨hconsistent, hextends.trans hrest⟩
        · rw [if_neg haccepted, Nat.add_zero] at hlength
          obtain ⟨hconsistent, hrest⟩ := ih hturn (by omega)
          rw [hlength] at hrest
          rw [quota_of_not (Bool.eq_false_iff.mpr haccepted)]
          exact ⟨hconsistent, hextends.trans hrest⟩
    · have hgoes : ¬(scanEntry context scan model).2 = true := fun hleft => heligible (hleaves.mp hleft).1
      rw [List.filter_cons_of_neg heligible, List.filter_nil] at hextends hlength
      rw [List.countP_nil, Nat.add_zero] at hlength
      rw [if_neg hgoes, List.filter_cons_of_neg heligible]
      obtain ⟨hconsistent, hrest⟩ := ih hturn (by omega)
      rw [hlength] at hrest
      exact ⟨hconsistent, hextends.trans hrest⟩

end Steps

/-! ## The entries that are offered -/

/-- The visible entries of the pages that follow each other, the first one with the number, if no limit ends
the scan. -/
def offeredFrom (context : ScanContext) : ℕ → ℕ → List HFModelEntry
  | 0, _ => []
  | remaining + 1, page =>
    match pageTurn context.options (context.search page (searchParams context.options)) with
    | .ends | .throws => []
    | .yields visible goesOn => visible ++ if goesOn then offeredFrom context remaining (page + 1) else []

/-- The eligible entries of the pages that the hub has to offer. -/
def offered (context : ScanContext) : List HFModelEntry :=
  (offeredFrom context maxPages 0).filter (isEligible context)

section Pages

variable {context : ScanContext} {scan : Scan} {remaining : ℕ}

/-- **The pages**: the eligible entries that are offered are evaluated until the limit is reached. -/
theorem scanPages_spec (page : ℕ) (h : Consistent context scan)
    (hlt : scan.models.length < context.options.limit) :
    Consistent context (scanPages context remaining page scan).1 ∧
      Extends context scan (scanPages context remaining page scan).1
        (quota (isAccepted context) (context.options.limit - scan.models.length)
          ((offeredFrom context remaining page).filter (isEligible context))) := by
  induction remaining generalizing page scan with
  | zero => exact ⟨h, .of_eq rfl rfl⟩
  | succ remaining ih =>
    rw [scanPages, offeredFrom]
    cases pageTurn context.options (context.search page (searchParams context.options)) with
    | ends => exact ⟨h, .of_eq rfl rfl⟩
    | throws => exact ⟨h, .of_eq rfl rfl⟩
    | yields visible goesOn =>
      dsimp only
      obtain ⟨hconsistent, hextends⟩ := scanPage_spec visible h hlt
      have hlength := hextends.length
      rw [countP_quota (by omega)] at hlength
      rw [List.filter_append]
      by_cases hfull : context.options.limit ≤ (scanPage context scan visible).models.length
      · rw [if_pos (by simp [hfull]), quota_append_of_le (by omega) (by omega)]
        exact ⟨hconsistent, hextends⟩
      · have hroom : (visible.filter (isEligible context)).countP (isAccepted context) <
            context.options.limit - scan.models.length := by omega
        rw [quota_append_of_lt hroom]
        rw [quota_eq_self hroom] at hextends
        cases goesOn with
        | false =>
          rw [if_pos (by simp), if_neg (by simp), List.filter_nil, quota, List.append_nil]
          exact ⟨hconsistent, hextends⟩
        | true =>
          rw [if_neg (by simpa using hfull), if_pos rfl]
          obtain ⟨hconsistent', hrest⟩ := ih (page + 1) hconsistent (by omega)
          have hleft : context.options.limit - (scanPage context scan visible).models.length =
              context.options.limit - scan.models.length -
                (visible.filter (isEligible context)).countP (isAccepted context) := by omega
          rw [hleft] at hrest
          exact ⟨hconsistent', hextends.trans hrest⟩

end Pages

/-! ## Exact scans -/

/-- What the result of a scan has to keep to. -/
structure ExactResult (context : ScanContext) (result : DiscoverResult) : Prop where
  limited : result.models.length ≤ context.options.limit
  distinct : (result.models.map ModelCandidate.id).Nodup
  unmarked : ∀ found ∈ result.models, found.id ∉ context.evaluatedModelIds
  rejected : result.totalRejected = ∑ reason, result.rejectionBreakdown reason
  scanned : result.models.length + result.totalRejected =
    result.totalScanned + result.rejectionBreakdown .alreadyEvaluated

/-- No model is evaluated twice, and the result is exact. -/
structure Exact (context : ScanContext) (now : String) : Prop where
  once : ((evaluations context).map HFModelEntry.id).Nodup
  result : ∀ result ∈ discover context now, ExactResult context result

/-- An eligible entry whose model came before stands behind so many accepted ones that the scan has ended. -/
def RepeatsBehindLimit (context : ScanContext) : Prop :=
  ∀ before model after, offered context = before ++ model :: after → model.id ∈ before.map HFModelEntry.id →
    context.options.limit ≤ before.countP (isAccepted context)

section Exactness

variable {context : ScanContext} {now : String} {model : HFModelEntry} {models : List HFModelEntry}
  {found : ModelCandidate}

theorem consistent_start : Consistent context { cache := context.cache } where
  balanced := ⟨by rw [Finset.sum_const_zero], rfl⟩
  configs := fun _ => rfl

theorem scanned_spec (hlimit : 1 ≤ context.options.limit) : Consistent context (scanned context).1 ∧
    Extends context { cache := context.cache } (scanned context).1
      (quota (isAccepted context) context.options.limit (offered context)) :=
  scanPages_spec 0 consistent_start hlimit

/-- **The entries that are evaluated**, in their order. -/
theorem evaluations_eq (hlimit : 1 ≤ context.options.limit) :
    evaluations context = quota (isAccepted context) context.options.limit (offered context) :=
  (scanned_spec hlimit).2.evaluated

theorem candidate_id (h : candidate context model = some found) : found.id = model.id := by
  rw [candidate, candidateFor] at h
  cases hevaluation : (evaluateCandidate context.service context.options context.cache model
      (context.config model.id)).1 with
  | error reason =>
    rw [hevaluation] at h
    cases h
  | ok other =>
    rw [hevaluation] at h
    cases h
    exact evaluateCandidate_ok hevaluation

/-- The ids of the candidates are among those of the entries. -/
theorem sublist_ids : ((models.filterMap (candidate context)).map ModelCandidate.id).Sublist
    (models.map HFModelEntry.id) := by
  induction models with
  | nil => exact List.Sublist.refl _
  | cons model models ih =>
    rw [List.filterMap_cons]
    cases hcandidate : candidate context model with
    | none => exact ih.cons _
    | some found =>
      dsimp only
      rw [List.map_cons, List.map_cons, candidate_id hcandidate]
      exact ih.cons_cons _

theorem not_marked (h : model ∈ offered context) : model.id ∉ context.evaluatedModelIds := by
  have heligible := (List.mem_filter.mp h).2
  rw [isEligible, Bool.and_eq_true, Bool.not_eq_true', isEvaluated, decide_eq_false_iff_not] at heligible
  exact heligible.1

/-- Whatever the hub replies, all but the repetitions is exact. -/
theorem exactResult_of_once (hlimit : 1 ≤ context.options.limit)
    (honce : ((evaluations context).map HFModelEntry.id).Nodup) {result : DiscoverResult}
    (hresult : result ∈ discover context now) : ExactResult context result := by
  obtain ⟨hconsistent, hextends⟩ := scanned_spec hlimit
  have hmodels : (scanned context).1.models = (evaluations context).filterMap (candidate context) := by
    rw [evaluations_eq hlimit, hextends.models]
    rfl
  rw [discover, Option.mem_def] at hresult
  split_ifs at hresult
  obtain rfl := Option.some.inj hresult
  refine ⟨?_, ?_, ?_, hconsistent.balanced.rejected, hconsistent.balanced.scanned⟩
  · have hlength := hextends.length
    rw [countP_quota hlimit] at hlength
    simp only [List.length_nil] at hlength
    dsimp only
    omega
  · dsimp only
    rw [hmodels]
    exact honce.sublist sublist_ids
  · intro found hfound
    dsimp only at hfound
    rw [hmodels, evaluations_eq hlimit] at hfound
    obtain ⟨model, hmodel, hcandidate⟩ := List.mem_filterMap.mp hfound
    rw [candidate_id hcandidate]
    exact not_marked (quota_sublist.subset hmodel)

end Exactness

/-- **The replies of the hub for which the scan is exact.** The search of every page has the same URL, so that a
full page comes again, and a model is evaluated twice unless the limit was reached before it repeats. -/
theorem discover_exact_iff (context : ScanContext) (now : String) (hlimit : 1 ≤ context.options.limit) :
    Exact context now ↔ RepeatsBehindLimit context := by
  have honce : ((evaluations context).map HFModelEntry.id).Nodup ↔ RepeatsBehindLimit context := by
    rw [evaluations_eq hlimit]
    exact nodup_quota_iff hlimit
  exact ⟨fun h => honce.mp h.once, fun h =>
    ⟨honce.mpr h, fun _ hresult => exactResult_of_once hlimit (honce.mpr h) hresult⟩⟩

/-! ## A page that comes again -/

def assistant : HFModelEntry where
  id := "org/chat"
  tags := some ["license:apache-2.0"]
  pipelineTag := some "text-generation"

/-- As many private models as fill a page with one more. -/
def ownModels : List HFModelEntry :=
  (List.range 99).map fun k => { id := "own/model-" ++ toString k, isPrivate := true }

/-- A scan for two candidates, of a hub that answers every search with the same entries. -/
def scanOf (data : List HFModelEntry) : ScanContext where
  service := {}
  options := { limit := 2 }
  evaluatedModelIds := []
  search := fun _ _ => .entries data
  config := fun _ =>
    .http 200 (some (.obj [("model_type", .str "mistral"), ("max_position_embeddings", .num 32768 "32768")]))
  cache := []

/-- A short page does not come again. -/
theorem short_exact : 1 ≤ (scanOf [assistant]).options.limit ∧ Exact (scanOf [assistant]) "2026-01-01T00:00:00.000Z" := by
  refine ⟨by decide, (discover_exact_iff (scanOf [assistant]) _ (by decide)).mpr ?_⟩
  intro before model after hoffered hmem
  have hlength : (offered (scanOf [assistant])).length ≤ [assistant].length := List.length_filter_le _ _
  rw [hoffered, List.length_append, List.length_cons, List.length_singleton] at hlength
  obtain rfl : before = [] := List.length_eq_zero_iff.mp (by omega)
  cases hmem

/-- The pages of a hub whose only visible model comes with a full page. -/
theorem offered_full : ∃ rest, offered (scanOf (assistant :: ownModels)) = [assistant] ++ assistant :: rest := by
  have hfast : fastReject {} assistant = none := by decide
  have heligible : isEligible (scanOf (assistant :: ownModels)) assistant = true :=
    congrArg (fun r : Option RejectionCategory => !false && r.isNone) hfast
  have hpages : offeredFrom (scanOf (assistant :: ownModels)) maxPages 0 =
      assistant :: assistant :: offeredFrom (scanOf (assistant :: ownModels)) 8 2 := rfl
  rw [offered, hpages, List.filter_cons_of_pos heligible, List.filter_cons_of_pos heligible]
  exact ⟨_, rfl⟩

/-- A full page does, and its model is evaluated twice. -/
theorem full_repeated : ¬ ∀ (context : ScanContext) (now : String), 1 ≤ context.options.limit → Exact context now := by
  intro h
  have honce := (h (scanOf (assistant :: ownModels)) "2026-01-01T00:00:00.000Z" (by decide)).once
  rw [evaluations_eq (by decide), nodup_quota_iff (by decide)] at honce
  obtain ⟨rest, hoffered⟩ := offered_full
  have htwo : 2 ≤ [assistant].countP (isAccepted (scanOf (assistant :: ownModels))) :=
    honce [assistant] assistant rest hoffered List.mem_cons_self
  have hone : [assistant].countP (isAccepted (scanOf (assistant :: ownModels))) ≤ [assistant].length :=
    List.countP_le_length
  rw [List.length_singleton] at hone
  omega

end Benchmarker.Discovery
