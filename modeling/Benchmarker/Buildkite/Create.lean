import Benchmarker.Buildkite.Trigger

/-!
# Creating at most one build

The world of a creation is the list of the builds of the pipeline, in the order of their creation. What
a request does at Buildkite and what its answer tells are independent, except that a readable success
carries the build that was created.

* `Served`, `created`: how the world serves a request; the builds that a history creates.
* `createLoop_cases`: the ways in which an attempt ends the call or leads to the next one.
* **`createBuild_once_iff`**: a call creates at most one build, which it returns when it succeeds, exactly
  when no attempt that was carried out and whose answer was lost is followed by one that is carried out.
-/

namespace Benchmarker.Buildkite

open Async Async.Prog

/-- The events of a call, with the builds of the pipeline before and after. -/
abbrev CreateEvent : Type := Event BkAns (List Build)

/-- What a request does to the builds of the pipeline. -/
def PostServed : (o : BkOp) → BkAns o → List Build → List Build → Prop
  | .post _ _, reply, pre, post =>
    (post = pre ∨ ∃ build, post = pre ++ [build]) ∧
      ∀ build, postOutcome reply = .ok (.ok build) → post = pre ++ [build]
  | _, _, _, _ => True

/-- The event is served as `PostServed` says. -/
def Served (e : CreateEvent) : Prop := PostServed e.op e.ans e.pre e.post

/-- The builds that the calling program created with a request. -/
def createdBy (e : CreateEvent) : List Build :=
  match e.op with
  | .post _ _ => e.post.drop e.pre.length
  | _ => []

def created (es : List CreateEvent) : List Build := es.flatMap createdBy

@[simp] theorem created_nil : created [] = [] := rfl

theorem created_cons (e : CreateEvent) (es : List CreateEvent) :
    created (e :: es) = createdBy e ++ created es := rfl

/-- The answer to a creation is lost to an error after which the code tries again. -/
def lostAns : (o : BkOp) → BkAns o → Bool
  | .post _ _, reply =>
    match postOutcome reply with
    | .error msg => isTransient msg
    | .ok _ => false
  | _, _ => false

/-- Buildkite created a build, and the answer was lost. -/
def LostCreation (e : CreateEvent) : Prop := createdBy e ≠ [] ∧ lostAns e.op e.ans = true

/-- A creation whose answer was lost is not followed by another creation. -/
def NoneAfterLost (es : List CreateEvent) : Prop :=
  ∀ fs e gs, es = fs ++ e :: gs → LostCreation e → created gs = []

/-- A call that created at most one build, the one that it returns if it succeeds. -/
def CreatedOnce (es : List CreateEvent) (result : ServiceResult Build) : Prop :=
  (created es).length ≤ 1 ∧ ∀ build, result = .ok build → created es = [build]

/-! ## Attempts -/

theorem createdBy_length_le {e : CreateEvent} (h : Served e) : (createdBy e).length ≤ 1 := by
  obtain ⟨o, r, pre, post⟩ := e
  cases o with
  | post slug body =>
    show (post.drop pre.length).length ≤ 1
    have hpost : post = pre ∨ ∃ build, post = pre ++ [build] := h.1
    rcases hpost with rfl | ⟨build, rfl⟩
    · rw [List.drop_length]
      exact Nat.zero_le 1
    · rw [List.drop_left]
      exact Nat.le_refl _
  | now | sleep | list | listActive | fetchBuild => exact Nat.zero_le 1

theorem createdBy_of_ok {slug : String} {body : NewBuild} {reply : Reply Build}
    {pre post : List Build} {build : Build} (h : PostServed (.post slug body) reply pre post)
    (hok : postOutcome reply = .ok (.ok build)) :
    createdBy ⟨.post slug body, reply, pre, post⟩ = [build] := by
  have hpost : post = pre ++ [build] := h.2 build hok
  show post.drop pre.length = [build]
  rw [hpost, List.drop_left]

/-- **An attempt** ends the call with its result or its error, or its answer is lost and the call goes
on with the next attempt. -/
theorem createLoop_cases {slug : String} {body : NewBuild} {left : ℕ} {lastErr : Option String}
    {es : List CreateEvent} {result : ServiceResult Build}
    (h : (createLoop slug body (left + 1) lastErr).Runs es result) :
    ∃ (reply : Reply Build) (pre post : List Build),
      (es = [⟨.post slug body, reply, pre, post⟩] ∧
        (postOutcome reply = .ok result ∨ ∃ e, result = .error e)) ∨
      ∃ (msg : String) (ms : ℕ) (pre' post' : List Build) (fs : List CreateEvent),
        es = ⟨.post slug body, reply, pre, post⟩ :: ⟨.sleep ms, (), pre', post'⟩ :: fs ∧
        postOutcome reply = .error msg ∧ isTransient msg = true ∧
        (createLoop slug body left (some msg)).Runs fs result := by
  simp only [createLoop, send, request, await_bind, ret_bind] at h
  obtain ⟨reply, pre, post, gs, rfl, hgs⟩ := runs_await.mp h
  refine ⟨reply, pre, post, ?_⟩
  cases hout : postOutcome reply with
  | ok r =>
    simp only [hout] at hgs
    obtain ⟨rfl, rfl⟩ := runs_ret.mp hgs
    exact .inl ⟨rfl, .inl rfl⟩
  | error msg =>
    simp only [hout] at hgs
    split_ifs at hgs with hstop
    · obtain ⟨rfl, rfl⟩ := runs_ret.mp hgs
      exact .inl ⟨rfl, .inr ⟨_, rfl⟩⟩
    · obtain ⟨-, pre', post', fs, rfl, hfs⟩ := runs_await.mp hgs
      have htransient : isTransient msg = true := by
        by_contra hnot
        exact hstop (by simp [hnot])
      exact .inr ⟨msg, _, pre', post', fs, rfl, rfl, htransient, hfs⟩

section Loop

variable {slug : String} {body : NewBuild} {left : ℕ} {lastErr : Option String}
  {es : List CreateEvent} {result : ServiceResult Build}

/-- A call that succeeds returns a build that it created. -/
theorem mem_created_of_ok {build : Build}
    (h : (createLoop slug body left lastErr).Runs es (.ok build)) (hs : ∀ e ∈ es, Served e) :
    build ∈ created es := by
  induction left generalizing lastErr es with
  | zero =>
    obtain ⟨-, habs⟩ := runs_ret.mp h
    cases habs
  | succ left ih =>
    obtain ⟨reply, pre, post, ⟨rfl, hend⟩ | ⟨msg, ms, pre', post', fs, rfl, -, -, hfs⟩⟩ :=
      createLoop_cases h
    · have hserved : PostServed (.post slug body) reply pre post := hs _ List.mem_cons_self
      rcases hend with hok | ⟨e, habs⟩
      · rw [created_cons, createdBy_of_ok hserved hok]
        exact List.mem_cons_self
      · cases habs
    · have hrest : build ∈ created fs := ih hfs fun e he => hs e (by simp [he])
      rw [created_cons, created_cons]
      exact List.mem_append_right _ (List.mem_append_right _ hrest)

theorem noneAfterLost_singleton (e : CreateEvent) : NoneAfterLost [e] := by
  intro fs e' gs h _
  have hlen := congrArg List.length h
  simp only [List.length_append, List.length_cons, List.length_nil] at hlen
  have hgs : gs = [] := List.eq_nil_of_length_eq_zero (by omega)
  rw [hgs, created_nil]

theorem noneAfterLost_cons {e : CreateEvent} :
    NoneAfterLost (e :: es) ↔ (LostCreation e → created es = []) ∧ NoneAfterLost es := by
  constructor
  · intro h
    refine ⟨h [] e es rfl, fun fs e' gs heq => h (e :: fs) e' gs ?_⟩
    rw [heq, List.cons_append]
  · rintro ⟨hhead, htail⟩ fs e' gs heq hlost
    cases fs with
    | nil =>
      obtain ⟨rfl, rfl⟩ := List.cons.inj heq
      exact hhead hlost
    | cons f fs =>
      obtain ⟨-, rfl⟩ := List.cons.inj heq
      exact htail fs e' gs rfl hlost

/-- A call that ends with its first attempt. -/
theorem createdOnce_of_last {reply : Reply Build} {pre post : List Build}
    (hs : PostServed (.post slug body) reply pre post)
    (hend : postOutcome reply = .ok result ∨ ∃ e, result = .error e) :
    CreatedOnce [⟨.post slug body, reply, pre, post⟩] result := by
  refine ⟨?_, ?_⟩
  · rw [created_cons, created_nil, List.append_nil]
    exact createdBy_length_le (e := ⟨.post slug body, reply, pre, post⟩) hs
  · rintro build rfl
    rcases hend with hok | ⟨e, habs⟩
    · rw [created_cons, created_nil, List.append_nil, createdBy_of_ok hs hok]
    · cases habs

/-- **The attempts of a call create at most one build, which a success returns**, exactly when no
creation follows one whose answer was lost. -/
theorem createLoop_once_iff (h : (createLoop slug body left lastErr).Runs es result)
    (hs : ∀ e ∈ es, Served e) : CreatedOnce es result ↔ NoneAfterLost es := by
  induction left generalizing lastErr es with
  | zero =>
    obtain ⟨rfl, rfl⟩ := runs_ret.mp h
    refine iff_of_true ⟨Nat.zero_le 1, ?_⟩ ?_
    · intro build habs
      cases habs
    · intro fs e gs habs
      simp at habs
  | succ left ih =>
    obtain ⟨reply, pre, post, ⟨rfl, hend⟩ | ⟨msg, ms, pre', post', fs, rfl, hout, htr, hfs⟩⟩ :=
      createLoop_cases h
    · exact iff_of_true (createdOnce_of_last (hs _ List.mem_cons_self) hend)
        (noneAfterLost_singleton _)
    · have hserved := hs _ List.mem_cons_self
      have hrest : ∀ e ∈ fs, Served e := fun e he => hs e (by simp [he])
      have ihfs := ih hfs hrest
      have hlost : lostAns (.post slug body) reply = true := by
        simp only [lostAns, hout, htr]
      -- The pause creates nothing.
      have hpause : NoneAfterLost (⟨.sleep ms, (), pre', post'⟩ :: fs) ↔ NoneAfterLost fs := by
        rw [noneAfterLost_cons]
        exact and_iff_right fun hl => absurd rfl hl.1
      have hcreated : created (⟨.post slug body, reply, pre, post⟩ ::
          ⟨.sleep ms, (), pre', post'⟩ :: fs) =
          createdBy ⟨.post slug body, reply, pre, post⟩ ++ created fs := rfl
      have hnext : created (⟨.sleep ms, (), pre', post'⟩ :: fs) = created fs := rfl
      rw [noneAfterLost_cons, hpause, hnext, ← ihfs, CreatedOnce, hcreated]
      by_cases hnone : createdBy ⟨.post slug body, reply, pre, post⟩ = []
      · rw [hnone, List.nil_append]
        exact (and_iff_right fun hl => absurd hnone hl.1).symm
      · have hlen := createdBy_length_le hserved
        have hpos := List.length_pos_iff.mpr hnone
        have hlostCreation : LostCreation ⟨.post slug body, reply, pre, post⟩ := ⟨hnone, hlost⟩
        -- When the rest creates nothing, it does not succeed.
        have hfailed : created fs = [] → ∀ build, result ≠ .ok build := by
          rintro hnil build rfl
          have hmem := mem_created_of_ok hfs hrest
          rw [hnil] at hmem
          cases hmem
        constructor
        · rintro ⟨hle, -⟩
          rw [List.length_append] at hle
          have hnil : created fs = [] := List.eq_nil_of_length_eq_zero (by omega)
          refine ⟨fun _ => hnil, ?_, fun build hb => absurd hb (hfailed hnil build)⟩
          rw [hnil]
          exact Nat.zero_le 1
        · rintro ⟨hnil, -⟩
          have hnil := hnil hlostCreation
          refine ⟨?_, fun build hb => absurd hb (hfailed hnil build)⟩
          rw [hnil, List.append_nil]
          exact hlen

end Loop

/-! ## The calls -/

/-- A call creates nothing and fails, or makes the attempts. -/
theorem createBuild_runs {config : BuildkiteConfig} {slug message : String} {env : Env}
    {es : List CreateEvent} {result : ServiceResult Build}
    (h : (createBuild config slug message env).Runs es result) :
    (es = [] ∧ ∃ e, result = .error e) ∨
      (createLoop slug ⟨config.branch, message, env⟩ maxAttempts none).Runs es result := by
  unfold createBuild at h
  split at h
  · obtain ⟨rfl, rfl⟩ := runs_ret.mp h
    exact .inl ⟨rfl, _, rfl⟩
  · exact .inr h

/-- A call that issues nothing and fails. -/
theorem createdOnce_nil_iff {result : ServiceResult Build} (h : ∃ e, result = .error e) :
    CreatedOnce [] result ↔ NoneAfterLost [] := by
  obtain ⟨e, rfl⟩ := h
  refine iff_of_true ⟨Nat.zero_le 1, ?_⟩ ?_
  · intro build habs
    cases habs
  · intro fs e' gs habs
    simp at habs

/-- **A call of `createBuild` creates at most one build, and returns the one it created if it
succeeds**, exactly when no attempt that was carried out and whose answer was lost is followed by one
that is carried out. -/
theorem createBuild_once_iff (config : BuildkiteConfig) (slug message : String) (env : Env)
    {es : List CreateEvent} {result : ServiceResult Build}
    (h : (createBuild config slug message env).Runs es result) (hs : ∀ e ∈ es, Served e) :
    CreatedOnce es result ↔ NoneAfterLost es := by
  rcases createBuild_runs h with ⟨rfl, herr⟩ | hloop
  · exact createdOnce_nil_iff herr
  · exact createLoop_once_iff hloop hs

/-- What an on-demand trigger reports: the build that its one creation created. -/
theorem createOnDemandBuild_once {config : BuildkiteConfig} {options : TriggerOptions}
    {es : List CreateEvent} {result : ServiceResult TriggeredBuild}
    (h : (createOnDemandBuild config options).Runs es result) (hs : ∀ e ∈ es, Served e)
    (hlost : NoneAfterLost es) :
    (created es).length ≤ 1 ∧ ∀ reported, result = .ok reported →
      ∃ build, created es = [build] ∧ reported = triggered config.onDemandPipelineSlug build := by
  unfold createOnDemandBuild at h
  split at h
  · obtain ⟨rfl, rfl⟩ := runs_ret.mp h
    refine ⟨Nat.zero_le 1, ?_⟩
    intro reported habs
    cases habs
  · obtain ⟨es₁, es₂, r, rfl, hbuild, hrest⟩ := runs_bind.mp h
    obtain ⟨rfl, rfl⟩ := runs_ret.mp hrest
    rw [List.append_nil] at hs hlost ⊢
    have honce : CreatedOnce es₁ r := by
      rcases createBuild_runs hbuild with ⟨rfl, herr⟩ | hloop
      · exact (createdOnce_nil_iff herr).mpr hlost
      · exact (createLoop_once_iff hloop hs).mpr hlost
    refine ⟨honce.1, fun reported hr => ?_⟩
    cases r with
    | ok build => exact ⟨build, honce.2 build rfl, (Except.ok.inj hr).symm⟩
    | error e => cases hr

/-! ## A lost answer -/

/-- How the world serves an attempt: the reply, and the build that is created where the reply tells of
none. -/
abbrev PostChoice : Type := Reply Build × Option Build

/-- Serve the attempts as chosen; a pause does nothing. -/
def servePost : (o : BkOp) → PostChoice → List Build → Option (BkAns o × List Build)
  | .post _ _, ch, builds =>
    match postOutcome ch.1 with
    | .ok (.ok build) => some (ch.1, builds ++ [build])
    | _ => some (ch.1, builds ++ ch.2.toList)
  | .sleep _, _, builds => some ((), builds)
  | _, _, _ => none

theorem served_of_servePost {e : CreateEvent}
    (h : ∃ ch, servePost e.op ch e.pre = some (e.ans, e.post)) : Served e := by
  obtain ⟨o, r, pre, post⟩ := e
  obtain ⟨ch, h⟩ := h
  cases o with
  | post slug body =>
    simp only [servePost] at h
    show (post = pre ∨ _) ∧ _
    split at h
    · next build hok =>
      cases h
      refine ⟨.inr ⟨build, rfl⟩, fun build' hok' => ?_⟩
      have hsame : build = build' := Except.ok.inj (Except.ok.inj (hok.symm.trans hok'))
      rw [hsame]
    · next hnot =>
      cases h
      refine ⟨?_, fun build hok => absurd hok (hnot build)⟩
      cases ch.2 with
      | none => exact .inl (List.append_nil _)
      | some build => exact .inr ⟨build, rfl⟩
  | now | sleep | list | listActive | fetchBuild => trivial

/-- The build with the number, as the API returns it. -/
def newBuild (number : ℕ) : Build := { number, webUrl := "https://buildkite", state := "scheduled" }

/-- The event of an attempt that is carried out and answered. -/
def answered : CreateEvent :=
  ⟨.post "evals" ⟨"main", "Benchmarker: m", []⟩, .ok ⟨201, 0, .ok "", .ok (newBuild 1)⟩, [], [newBuild 1]⟩

theorem served_answered : Served answered := by
  refine ⟨.inr ⟨newBuild 1, rfl⟩, fun build h => ?_⟩
  obtain rfl : newBuild 1 = build := Except.ok.inj (Except.ok.inj h)
  rfl

/-- An answered creation is the only one. -/
theorem createBuild_answered : CreatedOnce [answered] (.ok (newBuild 1)) :=
  (createBuild_once_iff promotion "evals" "Benchmarker: m" [] (.step _ _ _ (.refl _))
    (List.forall_mem_singleton.mpr served_answered)).mpr (noneAfterLost_singleton answered)

/-- The first attempt is carried out and its answer lost, the second one is answered. -/
def lostThenDone : List PostChoice :=
  [(.error "fetch failed", some (newBuild 1)), (.error "", none),
    (.ok ⟨201, 0, .ok "", .ok (newBuild 2)⟩, none)]

/-- **An answer that is lost after the build was created makes the call create another build.** -/
theorem createBuild_twice : ∃ (es : List CreateEvent) (result : ServiceResult Build),
    (createBuild promotion "evals" "Benchmarker: m" []).Runs es result ∧ (∀ e ∈ es, Served e) ∧
      result = .ok (newBuild 2) ∧ created es = [newBuild 1, newBuild 2] ∧
      ¬ CreatedOnce es result := by
  have hplay : ((createBuild promotion "evals" "Benchmarker: m" []).play servePost lostThenDone
      []).any (fun x => x.2.1 = .ok (newBuild 2) ∧
        created x.1 = [newBuild 1, newBuild 2]) = true := by
    decide +kernel
  obtain ⟨⟨es, result, w⟩, hx, hres⟩ := (Option.any_eq_true _ _).mp hplay
  obtain ⟨hresult, hcreated⟩ := of_decide_eq_true hres
  obtain ⟨hruns, hchain⟩ := runs_play hx
  refine ⟨es, result, hruns, fun e he => served_of_servePost (hchain.steps e he), hresult, hcreated, ?_⟩
  rintro ⟨hle, -⟩
  have hlen : (created es).length = 2 := congrArg List.length hcreated
  omega

end Benchmarker.Buildkite
