import Benchmarker.Buildkite.Trigger

/-!
# An idle pipeline before a new build

The world of a trigger is the clock. What runs and what is scheduled on a branch is a function of the
instant, `Timeline`; the builds change whenever they like, and every request takes as long as it likes.

* `Timeline`, `Idle`, `ServedAt`: the builds of a branch, and what a served listing shows of them.
* `ShowsNone`, `Settled`: a listing after which the wait ends; the condition under which it can be
  trusted. **`noEntry_iff_idle`**.
* `issues_whenIdle`: the guard creates only after a listing that shows no build.
* **`post_after_idle`**: with settled listings, a build is created only after an idle instant.
* `post_while_active`: failed listings, and listings between which a build starts.
-/

namespace Benchmarker.Buildkite

open Async Async.Prog

/-! ## The builds of a branch -/

/-- The builds of a pipeline and a branch in a state, at every instant. -/
abbrev Timeline : Type := (slug branch : String) → ActiveState → (instant : ℕ) → List Build

/-- No build of the branch is running or scheduled at the instant. -/
def Idle (tl : Timeline) (slug branch : String) (instant : ℕ) : Prop :=
  tl slug branch .running instant = [] ∧ tl slug branch .scheduled instant = []

/-- The events of a call, with the clock before and after. -/
abbrev TimedEvent : Type := Event BkAns ℕ

/-- The length of a page of a listing. -/
def perPage : ℕ := 10

/-- The instant and the builds of a successful listing. -/
def shown : ListReply → Option (ℕ × List Build)
  | .error _ => none
  | .ok response =>
    if response.ok then
      match response.json with
      | .ok (some data) => some (response.date, data)
      | .ok none => none
      | .error _ => none
    else none

/-- A successful listing shows a page of the builds at an instant between the two given ones. -/
def ListingServed (tl : Timeline) (slug branch : String) (state : ActiveState) (reply : ListReply)
    (pre post : ℕ) : Prop :=
  ∀ instant data, shown reply = some (instant, data) →
    pre ≤ instant ∧ instant ≤ post ∧ data = (tl slug branch state instant).take perPage

/-- What the answer to a request says of the builds. -/
def AnswerServed (tl : Timeline) : (o : BkOp) → BkAns o → ℕ → ℕ → Prop
  | .listActive slug branch, replies, pre, post =>
    ListingServed tl slug branch .running replies.1 pre post ∧
      ListingServed tl slug branch .scheduled replies.2 pre post
  | _, _, _, _ => True

def ServedAt (tl : Timeline) (e : TimedEvent) : Prop := AnswerServed tl e.op e.ans e.pre e.post

/-! ## Listings -/

/-- The request lists the active builds of the branch and shows none. -/
def ShowsNone (slug branch : String) : (o : BkOp) → BkAns o → Prop
  | .listActive slug' branch', replies => slug' = slug ∧ branch' = branch ∧ activeBuilds replies = []
  | _, _ => False

/-- No build enters, between the two instants, the state that is listed first. -/
def NoEntry (tl : Timeline) (slug branch : String) (running scheduled : ℕ) : Prop :=
  (running ≤ scheduled → ∀ build ∈ tl slug branch .running scheduled,
    build ∈ tl slug branch .running running) ∧
  (scheduled ≤ running → ∀ build ∈ tl slug branch .scheduled running,
    build ∈ tl slug branch .scheduled scheduled)

/-- A listing that shows no build can be trusted: both of its replies are successful, and no build
enters the state that is listed first before the other one is listed. -/
def SettledAnswer (tl : Timeline) : (o : BkOp) → BkAns o → Prop
  | .listActive slug branch, replies => activeBuilds replies = [] →
    ∃ running scheduled, shown replies.1 = some (running, []) ∧
      shown replies.2 = some (scheduled, []) ∧ NoEntry tl slug branch running scheduled
  | _, _ => True

def Settled (tl : Timeline) (e : TimedEvent) : Prop := SettledAnswer tl e.op e.ans

section Listing

variable {tl : Timeline} {slug branch : String} {reply : ListReply} {pre post running scheduled : ℕ}

theorem page_eq_nil_iff {builds : List Build} : builds.take perPage = [] ↔ builds = [] := by
  simp [List.take_eq_nil_iff, perPage]

/-- A listing that shows no build is of an instant at which there is none. -/
theorem ListingServed.eq_nil {state : ActiveState} {instant : ℕ}
    (h : ListingServed tl slug branch state reply pre post) (hshown : shown reply = some (instant, [])) :
    pre ≤ instant ∧ instant ≤ post ∧ tl slug branch state instant = [] := by
  obtain ⟨hpre, hpost, hdata⟩ := h instant [] hshown
  exact ⟨hpre, hpost, page_eq_nil_iff.mp hdata.symm⟩

theorem eq_nil_of_noEntry {first later : List Build} (hnil : first = [])
    (h : ∀ build ∈ later, build ∈ first) : later = [] := by
  refine List.eq_nil_iff_forall_not_mem.mpr fun build hb => ?_
  have hmem := h build hb
  rw [hnil] at hmem
  cases hmem

/-- **Two empty listings are of an idle branch** at the later instant exactly when no build enters, in
between, the state that is listed first. -/
theorem noEntry_iff_idle (hrunning : tl slug branch .running running = [])
    (hscheduled : tl slug branch .scheduled scheduled = []) :
    NoEntry tl slug branch running scheduled ↔ Idle tl slug branch (max running scheduled) := by
  constructor
  · rintro ⟨hfirst, hsecond⟩
    by_cases hle : running ≤ scheduled
    · rw [Nat.max_eq_right hle]
      exact ⟨eq_nil_of_noEntry hrunning (hfirst hle), hscheduled⟩
    · have hle' : scheduled ≤ running := by omega
      rw [Nat.max_eq_left hle']
      exact ⟨hrunning, eq_nil_of_noEntry hscheduled (hsecond hle')⟩
  · intro hidle
    refine ⟨fun hle build hb => ?_, fun hle build hb => ?_⟩
    · rw [Nat.max_eq_right hle] at hidle
      rw [hidle.1] at hb
      cases hb
    · rw [Nat.max_eq_left hle] at hidle
      rw [hidle.2] at hb
      cases hb

/-- A settled listing that shows no build covers an idle instant. -/
theorem idle_of_showsNone {e : TimedEvent} (hs : ServedAt tl e) (hset : Settled tl e)
    (h : ShowsNone slug branch e.op e.ans) :
    ∃ instant, e.pre ≤ instant ∧ instant ≤ e.post ∧ Idle tl slug branch instant := by
  obtain ⟨o, r, pre, post⟩ := e
  cases o with
  | listActive slug' branch' =>
    obtain ⟨rfl, rfl, hnone⟩ := h
    obtain ⟨running, scheduled, hr, hsch, hentry⟩ := hset hnone
    obtain ⟨hpre, hpost, hrnil⟩ := hs.1.eq_nil hr
    obtain ⟨hpre', hpost', hsnil⟩ := hs.2.eq_nil hsch
    refine ⟨max running scheduled, ?_, ?_, (noEntry_iff_idle hrnil hsnil).mp hentry⟩
    · exact Nat.le_trans hpre (Nat.le_max_left _ _)
    · exact Nat.max_le.mpr ⟨hpost, hpost'⟩
  | now | sleep | list | fetchBuild | post => exact h.elim

end Listing

/-! ## What the triggers issue -/

/-- The request creates a build on the pipeline and the branch. -/
def CreatesOn (slug branch : String) : BkOp → Prop
  | .post slug' body => slug' = slug ∧ body.branch = branch
  | _ => True

/-- The request does not create a build. -/
def CreatesNone : BkOp → Prop
  | .post _ _ => False
  | _ => True

section Issues

variable {config : BuildkiteConfig} {slug : String}

theorem uses_listActivePipelineBuilds : (listActivePipelineBuilds config slug).Uses CreatesNone :=
  ⟨trivial, fun _ => trivial⟩

theorem uses_idleLoop (deadline rounds : ℕ) :
    (idleLoop config slug deadline rounds).Uses CreatesNone := by
  induction rounds with
  | zero => exact uses_ret _
  | succ rounds ih =>
    refine uses_bind ⟨trivial, fun _ => trivial⟩ fun now => ?_
    split_ifs
    · refine uses_bind uses_listActivePipelineBuilds fun active => ?_
      split_ifs
      · exact uses_ret _
      · exact uses_bind ⟨trivial, fun _ => trivial⟩ fun _ => ih
    · exact uses_bind uses_listActivePipelineBuilds fun _ => uses_ret _

theorem uses_waitForPipelineIdle (rounds : ℕ) :
    (waitForPipelineIdleOnSlug config slug rounds).Uses CreatesNone :=
  uses_bind ⟨trivial, fun _ => trivial⟩ fun start => uses_idleLoop (start + config.idleWaitMs) rounds

/-- **A wait that ends well** ends with a listing that shows no build. -/
theorem showsNone_of_idleLoop {deadline rounds : ℕ} {es : List TimedEvent}
    (h : (idleLoop config slug deadline rounds).Runs es (some (.ok ()))) :
    ∃ l ∈ es, ShowsNone slug config.branch l.op l.ans := by
  induction rounds generalizing es with
  | zero => cases (runs_ret.mp h).2
  | succ rounds ih =>
    simp only [idleLoop, send, request, await_bind, ret_bind] at h
    obtain ⟨now, pre, post, fs, rfl, hround⟩ := runs_await.mp h
    split_ifs at hround with htime
    · simp only [listActivePipelineBuilds, send, request, await_bind, ret_bind, pure_def] at hround
      obtain ⟨replies, pre', post', gs, rfl, hlisted⟩ := runs_await.mp hround
      split_ifs at hlisted with hnone
      · refine ⟨⟨.listActive slug config.branch, replies, pre', post'⟩, ?_, rfl, rfl, hnone⟩
        exact List.mem_cons_of_mem _ List.mem_cons_self
      · obtain ⟨-, pre'', post'', hs, rfl, hnext⟩ := runs_await.mp hlisted
        obtain ⟨l, hl, hshows⟩ := ih hnext
        exact ⟨l, by simp [hl], hshows⟩
    · simp only [listActivePipelineBuilds, send, request, await_bind, ret_bind, pure_def] at hround
      obtain ⟨replies, pre', post', gs, rfl, hlisted⟩ := runs_await.mp hround
      cases (runs_ret.mp hlisted).2

theorem showsNone_of_wait {rounds : ℕ} {es : List TimedEvent}
    (h : (waitForPipelineIdleOnSlug config slug rounds).Runs es (some (.ok ()))) :
    ∃ l ∈ es, ShowsNone slug config.branch l.op l.ans := by
  obtain ⟨es₁, es₂, start, rfl, -, hloop⟩ := runs_bind.mp h
  obtain ⟨l, hl, hshows⟩ := showsNone_of_idleLoop hloop
  exact ⟨l, List.mem_append_right _ hl, hshows⟩

theorem uses_createLoop (body : NewBuild) (left : ℕ) (lastErr : Option String) :
    (createLoop slug body left lastErr).Uses (CreatesOn slug body.branch) := by
  induction left generalizing lastErr with
  | zero => exact uses_ret _
  | succ left ih =>
    refine uses_bind ⟨⟨rfl, rfl⟩, fun _ => trivial⟩ fun reply => ?_
    split
    · exact uses_ret _
    · split_ifs
      · exact uses_ret _
      · exact uses_bind ⟨trivial, fun _ => trivial⟩ fun _ => ih _

theorem uses_createBuild (message : String) (env : Env) :
    (createBuild config slug message env).Uses (CreatesOn slug config.branch) := by
  unfold createBuild
  split
  · exact uses_ret _
  · exact uses_createLoop ⟨config.branch, message, env⟩ maxAttempts none

theorem uses_createOnDemandBuild (options : TriggerOptions) : (createOnDemandBuild config options).Uses
    (CreatesOn config.onDemandPipelineSlug config.branch) := by
  unfold createOnDemandBuild
  split
  · exact uses_ret _
  · exact uses_bind (uses_createBuild _ _) fun _ => uses_ret _

theorem uses_createWeekly (options : TriggerOptions) :
    (createWeekly config options).Uses (CreatesOn config.weeklySlug config.branch) :=
  uses_bind (uses_createBuild _ _) fun _ => uses_ret _

theorem uses_fetchBuild (number : ℕ) : (fetchBuild slug number).Uses CreatesNone := by
  refine uses_bind ⟨trivial, fun _ => trivial⟩ fun reply => ?_
  cases reply with
  | error msg => exact uses_ret _
  | ok response =>
    show (if response.ok then ret response.json.toOption else ret none : BkProg _).Uses CreatesNone
    split_ifs <;> exact uses_ret _

theorem uses_findAdoptable (options : TriggerOptions) (running : List Build) :
    (findAdoptable config options running).Uses CreatesNone := by
  induction running with
  | nil => exact uses_ret _
  | cons summary running ih =>
    unfold findAdoptable
    split_ifs
    · refine uses_bind (uses_fetchBuild summary.number) fun detail => ?_
      split
      · split_ifs
        · exact uses_ret _
        · exact ih
      · exact ih
    · exact ih

theorem uses_findAdoptableRunningBuild (options : TriggerOptions) :
    (findAdoptableRunningBuild config options).Uses CreatesNone := by
  unfold findAdoptableRunningBuild
  split_ifs
  · exact uses_bind ⟨trivial, fun _ => trivial⟩ fun _ => uses_findAdoptable options _
  · exact uses_ret _

/-- A request that creates a build comes after a listing that showed none. -/
def AfterShowsNone (past : List TimedEvent) : BkOp → Prop
  | .post slug body => ∃ l ∈ past, ShowsNone slug body.branch l.op l.ans
  | _ => True

theorem afterShowsNone_of_createsNone {past : List TimedEvent} {o : BkOp} (h : CreatesNone o) :
    AfterShowsNone past o := by
  cases o with
  | post slug body => exact h.elim
  | now | sleep | list | listActive | fetchBuild => trivial

theorem afterShowsNone_of_createsOn {branch : String} {past : List TimedEvent}
    (hl : ∃ l ∈ past, ShowsNone slug branch l.op l.ans) {o : BkOp} (h : CreatesOn slug branch o) :
    AfterShowsNone past o := by
  cases o with
  | post slug' body =>
    obtain ⟨rfl, rfl⟩ := h
    exact hl
  | now | sleep | list | listActive | fetchBuild => trivial

/-- **The guard creates a build only after a listing that showed none.** -/
theorem issues_whenIdle {α : Type} {create : BkProg (ServiceResult α)} {rounds : ℕ}
    (hwaits : config.waits = true) (hcreate : create.Uses (CreatesOn slug config.branch))
    (past : List TimedEvent) : (whenIdle config slug rounds create).Issues AfterShowsNone past := by
  have hcreates : ∀ fs : List TimedEvent, (∃ l ∈ fs, ShowsNone slug config.branch l.op l.ans) →
      (some <$> create).Issues AfterShowsNone fs := by
    intro fs hl
    rw [map_eq_pure_bind]
    refine Issues.bind' ?_ fun _ _ => issues_ret _
    refine (hcreate.issues_from fs).mono ?_
    rintro past' o ⟨ho, gs, rfl⟩
    obtain ⟨l, hmem, hshows⟩ := hl
    exact afterShowsNone_of_createsOn ⟨l, List.mem_append_left _ hmem, hshows⟩ ho
  unfold whenIdle
  rw [if_pos hwaits]
  refine Issues.bind (((uses_waitForPipelineIdle rounds).issues past).mono fun _ _ h =>
    afterShowsNone_of_createsNone h) fun es result hrun => ?_
  cases result with
  | none => exact issues_ret _
  | some result =>
    cases result with
    | error e => exact issues_ret _
    | ok _ =>
      obtain ⟨l, hl, hshows⟩ := showsNone_of_wait hrun
      exact hcreates _ ⟨l, List.mem_append_right _ hl, hshows⟩

theorem issues_createOnDemandBuildOrAdopt (options : TriggerOptions) (rounds : ℕ)
    (hwaits : config.waits = true) (past : List TimedEvent) :
    (createOnDemandBuildOrAdopt config options rounds).Issues AfterShowsNone past := by
  refine Issues.bind' (((uses_findAdoptableRunningBuild options).issues past).mono fun _ _ h =>
    afterShowsNone_of_createsNone h) fun past' adopted => ?_
  cases adopted with
  | some adopted => exact issues_ret _
  | none => exact issues_whenIdle hwaits (uses_createOnDemandBuild options) past'

theorem issues_createWeeklyMatrixBuild (options : TriggerOptions) (rounds : ℕ)
    (hwaits : config.waits = true) (past : List TimedEvent) :
    (createWeeklyMatrixBuild config options rounds).Issues AfterShowsNone past :=
  issues_whenIdle hwaits (uses_createWeekly options) past

end Issues

/-! ## Idle before a creation -/

/-- Every request of the history that creates a build comes after a listing during which the branch
was idle at an instant. -/
def PostAfterIdle (tl : Timeline) (es : List TimedEvent) : Prop :=
  ∀ fs e gs slug body, es = fs ++ e :: gs → e.op = .post slug body →
    ∃ l ∈ fs, l.op = .listActive slug body.branch ∧
      ∃ instant, l.pre ≤ instant ∧ instant ≤ l.post ∧ Idle tl slug body.branch instant

/-- Create a build on demand, or the weekly one. -/
inductive Trigger
  | onDemand
  | weekly
  deriving DecidableEq

/-- The call of the trigger. -/
def trigger (config : BuildkiteConfig) (options : TriggerOptions) (rounds : ℕ) :
    Trigger → BkProg (Option (ServiceResult TriggeredBuild))
  | .onDemand => createOnDemandBuildOrAdopt config options rounds
  | .weekly => createWeeklyMatrixBuild config options rounds

theorem op_of_showsNone {slug branch : String} {e : TimedEvent} (h : ShowsNone slug branch e.op e.ans) :
    e.op = .listActive slug branch := by
  obtain ⟨o, r, pre, post⟩ := e
  cases o with
  | listActive slug' branch' =>
    obtain ⟨rfl, rfl, -⟩ := h
    rfl
  | now | sleep | list | fetchBuild | post => exact h.elim

/-- **With settled listings, a build is created only after an idle instant.** -/
theorem post_after_idle (config : BuildkiteConfig) (options : TriggerOptions) (rounds : ℕ) (t : Trigger)
    (tl : Timeline) {es : List TimedEvent} {q : BkProg (Option (ServiceResult TriggeredBuild))}
    (h : (trigger config options rounds t).After es q) (hwaits : config.waits = true)
    (hs : ∀ e ∈ es, ServedAt tl e) (hsettled : ∀ e ∈ es, Settled tl e) : PostAfterIdle tl es := by
  have hissues : (trigger config options rounds t).Issues (W := ℕ) AfterShowsNone [] := by
    cases t with
    | onDemand => exact issues_createOnDemandBuildOrAdopt options rounds hwaits []
    | weekly => exact issues_createWeeklyMatrixBuild options rounds hwaits []
  intro fs e gs slug body heq hpost
  have hafter := hissues.mem_after h fs e gs heq
  rw [hpost, List.nil_append] at hafter
  obtain ⟨l, hl, hshows⟩ := hafter
  have hmem : l ∈ es := by
    rw [heq]
    exact List.mem_append_left _ hl
  exact ⟨l, hl, op_of_showsNone hshows, idle_of_showsNone (hs l hmem) (hsettled l hmem) hshows⟩

/-! ## Listings that cannot be trusted -/

/-- The trigger of a weekly build for the model `m`. -/
def weeklyOptions : TriggerOptions := ⟨"\x7b\x7d", "vllm-m", ["suite"], "m"⟩

/-- The pipeline of the weekly build. -/
def weeklyPipeline : String := promotion.weeklySlug

/-- The listing of a weekly trigger, answered between the instants 0 and 10. -/
def listed (replies : ListReply × ListReply) : TimedEvent :=
  ⟨.listActive weeklyPipeline "main", replies, 0, 10⟩

/-- The creation of a weekly build. -/
def weeklyPost : TimedEvent :=
  ⟨.post weeklyPipeline ⟨"main", s!"{benchmarkerBuildMessagePrefix} m weekly matrix eval",
      weeklyEnv promotion weeklyOptions⟩,
    .ok ⟨201, 10, .ok "", .ok ⟨2, "https://buildkite", "scheduled", none, none⟩⟩, 10, 10⟩

/-- The history of a weekly trigger whose first listing shows no build. -/
def weeklyHistory (replies : ListReply × ListReply) : List TimedEvent :=
  [⟨.now, (0 : ℕ), 0, 0⟩, ⟨.now, (0 : ℕ), 0, 0⟩, listed replies, weeklyPost]

theorem runs_weeklyWait {replies : ListReply × ListReply} (h : activeBuilds replies = []) :
    (waitForPipelineIdleOnSlug promotion weeklyPipeline 1).Runs
      [⟨.now, (0 : ℕ), 0, 0⟩, ⟨.now, (0 : ℕ), 0, 0⟩, listed replies] (some (.ok ())) := by
  simp only [waitForPipelineIdleOnSlug, idleLoop, listActivePipelineBuilds, send, request, await_bind,
    ret_bind]
  refine .step 0 0 0 (.step 0 0 0 ?_)
  rw [if_pos (by decide)]
  refine runs_await.mpr ⟨replies, 0, 10, [], rfl, ?_⟩
  simp only [pure_def, ret_bind]
  rw [if_pos h]
  exact .refl _

theorem runs_weeklyHistory {replies : ListReply × ListReply} (h : activeBuilds replies = []) :
    (trigger promotion weeklyOptions 1 .weekly).Runs (weeklyHistory replies)
      (some (.ok ⟨weeklyPipeline, 2, "https://buildkite", false⟩)) := by
  have hcreate : (some <$> createWeekly promotion weeklyOptions).Runs [weeklyPost]
      (some (.ok ⟨weeklyPipeline, 2, "https://buildkite", false⟩)) := .step _ _ _ (.refl _)
  exact runs_bind.mpr ⟨_, [weeklyPost], some (.ok ()), rfl, runs_weeklyWait h, hcreate⟩

/-- Both listings fail. -/
def failedListings : ListReply × ListReply := (.error "fetch failed", .error "fetch failed")

/-- Both listings are successful and empty: the running builds at the instant 4, and the scheduled ones
at the instant 6. -/
def emptyListings : ListReply × ListReply :=
  (.ok ⟨200, 4, .ok "", .ok (some [])⟩, .ok ⟨200, 6, .ok "", .ok (some [])⟩)

/-- One build, scheduled before the instant 5 and running from then on. -/
def startsAtFive : Timeline := fun _ _ state instant =>
  if decide (instant < 5) = decide (state = .scheduled) then
    [⟨1, "https://buildkite", "", none, none⟩] else []

theorem not_idle_startsAtFive {slug branch : String} {instant : ℕ} :
    ¬ Idle startsAtFive slug branch instant := by
  rintro ⟨hrunning, hscheduled⟩
  by_cases hlt : instant < 5
  · simp [startsAtFive, hlt] at hscheduled
  · simp [startsAtFive, hlt] at hrunning

theorem served_weeklyHistory {tl : Timeline} {replies : ListReply × ListReply}
    (h : ServedAt tl (listed replies)) : ∀ e ∈ weeklyHistory replies, ServedAt tl e := by
  refine List.forall_mem_cons.mpr ⟨trivial, List.forall_mem_cons.mpr ⟨trivial,
    List.forall_mem_cons.mpr ⟨h, List.forall_mem_singleton.mpr trivial⟩⟩⟩

theorem not_postAfterIdle {tl : Timeline} {replies : ListReply × ListReply}
    (h : ∀ instant, ¬ Idle tl weeklyPipeline "main" instant) :
    ¬ PostAfterIdle tl (weeklyHistory replies) := by
  intro hafter
  obtain ⟨l, -, -, instant, -, -, hidle⟩ := hafter
    [⟨.now, (0 : ℕ), 0, 0⟩, ⟨.now, (0 : ℕ), 0, 0⟩, listed replies] weeklyPost [] _ _ rfl rfl
  exact h instant hidle

/-- **A build is created on a branch that is never idle**: after two failed listings, and after two
successful ones between which the build of the branch starts. -/
theorem post_while_active :
    (∃ result, (trigger promotion weeklyOptions 1 .weekly).Runs (weeklyHistory failedListings) result ∧
      promotion.waits = true ∧ (∀ e ∈ weeklyHistory failedListings, ServedAt startsAtFive e) ∧
      ¬ PostAfterIdle startsAtFive (weeklyHistory failedListings)) ∧
    ∃ result, (trigger promotion weeklyOptions 1 .weekly).Runs (weeklyHistory emptyListings) result ∧
      promotion.waits = true ∧ (∀ e ∈ weeklyHistory emptyListings, ServedAt startsAtFive e) ∧
      ¬ PostAfterIdle startsAtFive (weeklyHistory emptyListings) := by
  have hnever : ∀ replies, ¬ PostAfterIdle startsAtFive (weeklyHistory replies) :=
    fun replies => not_postAfterIdle fun _ => not_idle_startsAtFive
  refine ⟨⟨_, runs_weeklyHistory rfl, rfl, served_weeklyHistory ?_, hnever _⟩,
    _, runs_weeklyHistory rfl, rfl, served_weeklyHistory ?_, hnever _⟩
  · constructor
    · intro instant data habs
      cases habs
    · intro instant data habs
      cases habs
  · constructor
    · intro instant data hshown
      obtain ⟨rfl, rfl⟩ := Prod.mk.inj (Option.some.inj hshown)
      decide
    · intro instant data hshown
      obtain ⟨rfl, rfl⟩ := Prod.mk.inj (Option.some.inj hshown)
      decide

/-- No build at any time. -/
def quiet : Timeline := fun _ _ _ _ => []

/-- A weekly build on a branch without builds. -/
theorem quiet_post : PostAfterIdle quiet (weeklyHistory emptyListings) := by
  refine post_after_idle promotion weeklyOptions 1 .weekly quiet (runs_weeklyHistory rfl) rfl
    (served_weeklyHistory ⟨?_, ?_⟩) (List.forall_mem_cons.mpr ⟨trivial, List.forall_mem_cons.mpr ⟨trivial,
      List.forall_mem_cons.mpr ⟨fun _ => ?_, List.forall_mem_singleton.mpr trivial⟩⟩⟩)
  · intro instant data hshown
    obtain ⟨rfl, rfl⟩ := Prod.mk.inj (Option.some.inj hshown)
    decide
  · intro instant data hshown
    obtain ⟨rfl, rfl⟩ := Prod.mk.inj (Option.some.inj hshown)
    decide
  · exact ⟨4, 6, rfl, rfl, fun _ _ => id, fun _ _ => id⟩

end Benchmarker.Buildkite
