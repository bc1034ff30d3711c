import Benchmarker.CiEval.Equivalence
import Benchmarker.CiEval.Rows
import Benchmarker.Fleet.Intake

/-!
# Recovery at the start of a daemon

`recoverOrFailActiveEntries`: before its scheduler starts, a daemon goes through the entries in flight. One whose own build
is known to Buildkite is left to be resumed, any other one is put back to `pending`. The log line is left out.

* `recoverEntry`, `recoverEach`, `recoverOrFailActiveEntries`: the code.
* `Records`, `Answered`: the rows and the builds, and how requests are served while the daemon runs alone.
* `Records.recoverable`, `Records.settled`: what is to become of an entry. `Recovers`, **`recovery_settles`**: what becomes
  of all, whether the call returns or throws.
-/

namespace Benchmarker

open Js Async Async.Prog EsWorld

/-! ## The code -/

/-- `RECOVERABLE_BUILD_STATES`. -/
def recoverableBuildStates : List String := ["running", "scheduled", "blocked", "canceling"]

structure RecoverActiveEntriesResult where
  recovered : ℕ
  reclaimed : ℕ
  deriving DecidableEq

/-- The build is still under way, or has ended. -/
def isRecoverableState (buildState : Option String) : Bool :=
  buildState.any fun s => recoverableBuildStates.contains s || isTerminalBuildkiteState (some s)

/-- The first `running` row of the entry. -/
def runningEval (allResults : List CIEvalResult) (entryId : ℕ) : Option CIEvalResult :=
  (allResults.filter fun r => r.queueEntryId = some entryId).find? fun r => r.status = .running

/-- `if (await queueService.reclaimEntry(entry.id)) reclaimed++` -/
def reclaimCounted (entryId : ℕ) (result : RecoverActiveEntriesResult) : SchedJs RecoverActiveEntriesResult := do
  let applied ← queueCall (.reclaimEntry entryId)
  return if applied then { result with reclaimed := result.reclaimed + 1 } else result

/-- The body of the loop. -/
def recoverEntry (entry : QueueEntry) (result : RecoverActiveEntriesResult) :
    SchedJs RecoverActiveEntriesResult := do
  if entry.status ≠ .benchmarking then reclaimCounted entry.id result
  else
    let allResults ← extCall (.getCIEvalResults entry.modelId 30)
    match runningEval allResults entry.id with
    | none => reclaimCounted entry.id result
    | some row =>
      let buildState ← extCall (.getBuildState row.pipelineSlug row.buildkiteBuildNumber)
      if isRecoverableState buildState then return { result with recovered := result.recovered + 1 }
      else reclaimCounted entry.id result

def recoverEach : List QueueEntry → RecoverActiveEntriesResult → SchedJs RecoverActiveEntriesResult
  | [], result => return result
  | entry :: entries, result => do
    let result ← recoverEntry entry result
    recoverEach entries result

def recoverOrFailActiveEntries : SchedJs RecoverActiveEntriesResult := do
  let entries ← queueCall .getActiveEntries
  recoverEach entries ⟨0, 0⟩

/-! ## What is to become of an entry -/

/-- The latest rows of every model, and the states of the builds. -/
structure Records where
  rows : String → List CIEvalResult
  state : String → ℕ → Option String

namespace Records

/-- The results store and Buildkite answer from the records, or throw. -/
def tells (records : Records) : (o : FleetOp) → FleetAns o → Bool
  | .sched (.ext (.getCIEvalResults modelId _)), .ok rows => rows = records.rows modelId
  | .sched (.ext (.getBuildState pipelineSlug buildNumber)), .ok state => state = records.state pipelineSlug buildNumber
  | _, _ => true

/-- The entry waits for a build that Buildkite knows. -/
def recoverable (records : Records) (id : ℕ) (d : EsSource) : Bool :=
  d.status = .benchmarking && (runningEval (records.rows d.modelId) id).any fun row =>
    isRecoverableState (records.state row.pipelineSlug row.buildkiteBuildNumber)

/-- The document of an entry that the loop has passed. -/
def settled (records : Records) (id : ℕ) (d : EsSource) : EsSource :=
  if records.recoverable id d then d else (Script.reclaimEntry.apply d).getD d

end Records

/-- The daemon runs alone, and the records stay as they are. -/
def Answered (records : Records) (host : ℕ) (o : FleetOp) (w : FleetWorld) (r : FleetAns o) (w' : FleetWorld) : Prop :=
  Undisturbed host o w r w' ∧ records.tells o r = true

/-- The entries in `ids` have been settled, and the others are as they were. -/
def SettledAt (records : Records) (ids : List ℕ) (w w' : FleetWorld) : Prop :=
  ∀ id, w'.index.doc id = (w.index.doc id).map fun d => if id ∈ ids then records.settled id d else d

def isRecoverable (records : Records) (w : FleetWorld) (id : ℕ) : Bool := (w.index.doc id).any (records.recoverable id)

def RecoverActiveEntriesResult.count (result : RecoverActiveEntriesResult) (recovered : Bool) :
    RecoverActiveEntriesResult :=
  if recovered then { result with recovered := result.recovered + 1 } else { result with reclaimed := result.reclaimed + 1 }

section Recovery

variable {records : Records} {host id : ℕ} {w w' w'' : FleetWorld} {past : List DaemonEvent} {d : EsSource}
variable {result : RecoverActiveEntriesResult} {ids : List ℕ}

theorem settledAt_nil (h : ∀ id, w'.index.doc id = w.index.doc id) : SettledAt records [] w w' := fun id => by
  rw [h]
  simp

theorem SettledAt.cons (h : SettledAt records [id] w w') (hrest : SettledAt records ids w' w'') (hfresh : id ∉ ids) :
    SettledAt records (id :: ids) w w'' := by
  intro id'
  rw [hrest, h, Option.map_map]
  refine congrArg (fun f => Option.map f _) (funext fun d => ?_)
  by_cases hid : id' = id
  · subst hid
    simp [hfresh]
  · simp [hid]

/-- What is settled afterwards. -/
theorem SettledAt.of_mem (h : SettledAt records ids w w') (hid : id ∈ ids) (hd : w'.index.doc id = some d)
    (hflight : d.status.inFlight = true) : records.recoverable id d = true ∧ w.index.doc id = some d := by
  rw [h id] at hd
  obtain ⟨d₀, hd₀, rfl⟩ := Option.map_eq_some_iff.1 hd
  rw [if_pos hid] at hflight ⊢
  by_cases hrec : records.recoverable id d₀ = true
  · rw [show records.settled id d₀ = d₀ from if_pos hrec]
    exact ⟨hrec, hd₀⟩
  · rw [show records.settled id d₀ = (Script.reclaimEntry.apply d₀).getD d₀ from if_neg hrec] at hflight
    rw [Script.apply] at hflight
    split_ifs at hflight with hin
    · cases hflight
    · exact absurd hflight hin

/-! ## One entry -/

theorem alone_extCall (x : ExtOp) : (ofSched (extCall x)).run.Alone (Answered records host)
    (fun _ r w' => w'.index.docs = w.index.docs ∧ records.tells (.sched (.ext x)) r = true) past w := by
  intro r w' hr
  obtain ⟨⟨⟨t, ch, hs⟩, -⟩, htells⟩ := hr
  cases ch <;> simp only [serveFleet, reduceCtorEq] at hs
  obtain ⟨rfl, rfl⟩ := Prod.mk.inj (Option.some.inj hs)
  refine ⟨?_, htells⟩
  split_ifs
  · rfl
  · rfl

theorem alone_reclaimCounted (hd : w.index.doc id = some d) (hflight : d.status.inFlight = true)
    (hrec : records.recoverable id d = false) :
    (ofSched (reclaimCounted id result)).run.Alone (Answered records host)
      (Returns fun _ result' w' => result' = result.count false ∧ SettledAt records [id] w w') past w := by
  have hserved : ∀ o v r v', Answered records host o v r v' → Undisturbed host o v r v' := fun _ _ _ _ h => h.1
  rw [reclaimCounted, ofSched_bind, ofSched_queueCall]
  refine Alone.throws_bind (R := fun _ applied w' => applied = true ∧ SettledAt records [id] w w') ?_
    fun es applied w' happlied => ?_
  · show (ofQueue (reclaimEntry id)).run.Alone _ _ _ _
    rw [reclaimEntry, ofQueue_bind]
    refine ((alone_update id .reclaimEntry).strengthen hserved).throws_bind fun es answer w' hanswer => ?_
    obtain ⟨⟨t, d₀, hd₀, hcases⟩, -⟩ := hanswer
    obtain rfl : d₀ = d := Option.some.inj (hd₀.symm.trans hd)
    have happly : ∃ d', Script.reclaimEntry.apply d₀ = some d' := ⟨_, if_pos hflight⟩
    obtain ⟨d', hd'⟩ := happly
    have hset : records.settled id d₀ = d' := by rw [Records.settled, hrec, hd']; rfl
    rcases hcases with ⟨-, hnone, -⟩ | ⟨d₁, rfl, hsome, rfl⟩
    · rw [hnone] at hd'
      cases hd'
    · obtain rfl : d₁ = d' := Option.some.inj (hsome.symm.trans hd')
      refine ⟨true, rfl, rfl, fun id' => ?_⟩
      show ((w.index.pass t).put id d₁).doc id' = _
      rw [EsWorld.doc_put (show (w.index.pass t).doc id = some d₀ from hd)]
      by_cases hid : id' = id
      · rw [if_pos hid, hid, hd, Option.map_some, if_pos (List.mem_singleton_self id), hset]
      · rw [if_neg hid]
        show w.index.doc id' = _
        simp [hid]
  · obtain ⟨rfl, hsettled⟩ := happlied
    exact ⟨_, rfl, rfl, hsettled⟩

theorem settledAt_recovered (hdocs : w'.index.docs = w.index.docs) (hd : w.index.doc id = some d)
    (hrec : records.recoverable id d = true) : SettledAt records [id] w w' := by
  intro id'
  rw [doc_eq_of_docs hdocs]
  by_cases hid : id' = id
  · subst hid
    simp [hd, Records.settled, hrec]
  · simp [hid]

/-- **One pass of the loop** settles its entry, or throws before it has done anything. -/
theorem alone_recoverEntry (hd : w.index.doc id = some d) (hflight : d.status.inFlight = true) :
    (ofSched (recoverEntry (toEntry id d) result)).run.Alone (Answered records host)
      (fun _ r w' => match r with
        | .ok result' => result' = result.count (records.recoverable id d) ∧ SettledAt records [id] w w'
        | .error _ => ∀ id, w'.index.doc id = w.index.doc id) past w := by
  have hreclaimed : ∀ {es : List DaemonEvent} {v : FleetWorld}, v.index.docs = w.index.docs →
      records.recoverable id d = false → (ofSched (reclaimCounted id result)).run.Alone (Answered records host)
        (fun _ r w' => match r with
          | .ok result' => result' = result.count (records.recoverable id d) ∧ SettledAt records [id] w w'
          | .error _ => ∀ id, w'.index.doc id = w.index.doc id) es v := fun hdocs hrec => by
    refine (alone_reclaimCounted ((doc_eq_of_docs hdocs).trans hd) hflight hrec).mono fun _ r w' hr => ?_
    obtain ⟨result', rfl, rfl, hsettled⟩ := hr
    refine ⟨by rw [hrec], fun id' => ?_⟩
    rw [hsettled id', doc_eq_of_docs hdocs]
  rw [recoverEntry]
  by_cases hstatus : d.status = .benchmarking
  swap
  · rw [if_pos (show (toEntry id d).status ≠ .benchmarking from hstatus)]
    exact hreclaimed rfl (by simp [Records.recoverable, hstatus])
  rw [if_neg (not_not.mpr (show (toEntry id d).status = .benchmarking from hstatus)), ofSched_bind]
  refine alone_throws_bind.2 ((alone_extCall _).mono fun es r v hr => ?_)
  obtain ⟨hdocs, htells⟩ := hr
  cases r with
  | error e => exact fun id => doc_eq_of_docs hdocs
  | ok allResults =>
    obtain rfl : allResults = records.rows d.modelId := of_decide_eq_true htells
    cases hrow : runningEval (records.rows d.modelId) id with
    | none =>
      simp only [show (toEntry id d).id = id from rfl, hrow]
      exact hreclaimed hdocs (by simp [Records.recoverable, hrow])
    | some row =>
      simp only [show (toEntry id d).id = id from rfl, hrow]
      rw [ofSched_bind]
      refine alone_throws_bind.2 ((alone_extCall _).mono fun es' r v' hr => ?_)
      obtain ⟨hdocs', htells'⟩ := hr
      cases r with
      | error e => exact fun id => doc_eq_of_docs (hdocs'.trans hdocs)
      | ok buildState =>
        obtain rfl : buildState = records.state row.pipelineSlug row.buildkiteBuildNumber := of_decide_eq_true htells'
        have hrec : records.recoverable id d = isRecoverableState (records.state row.pipelineSlug row.buildkiteBuildNumber) := by
          simp [Records.recoverable, hstatus, hrow]
        simp only
        split_ifs with hstate
        · refine ⟨?_, settledAt_recovered (hdocs'.trans hdocs) hd (hrec.trans hstate)⟩
          rw [hrec, hstate]
          rfl
        · exact hreclaimed (hdocs'.trans hdocs) (hrec.trans (Bool.eq_false_iff.mpr hstate))

/-! ## The loop -/

/-- The entries are in flight, and no two are the same. -/
structure Listed (w : FleetWorld) (entries : List QueueEntry) : Prop where
  nodup : (entries.map fun e => e.id).Nodup
  found : ∀ e ∈ entries, ∃ d, e = toEntry e.id d ∧ w.index.doc e.id = some d ∧ d.status.inFlight = true

/-- After a pass the rest of the entries is as it was. -/
theorem Listed.tail {e : QueueEntry} {entries : List QueueEntry} (h : Listed w (e :: entries))
    (hsettled : SettledAt records [e.id] w w') :
    Listed w' entries ∧ ∀ id ∈ entries.map fun e => e.id, w'.index.doc id = w.index.doc id := by
  obtain ⟨hfresh, hnodup⟩ := List.nodup_cons.mp h.nodup
  have hdoc : ∀ id ∈ entries.map fun e => e.id, w'.index.doc id = w.index.doc id := fun id hid => by
    have hne : id ≠ e.id := by
      rintro rfl
      exact hfresh hid
    rw [hsettled id]
    simp [hne]
  refine ⟨⟨hnodup, fun e' he' => ?_⟩, hdoc⟩
  obtain ⟨d, heq, hd, hflight⟩ := h.found e' (List.mem_cons_of_mem _ he')
  exact ⟨d, heq, (hdoc e'.id (List.mem_map_of_mem he')).trans hd, hflight⟩

/-- What the loop has done: the entries at the start of the page are settled, all of them if it returns. -/
structure Passed (records : Records) (w w' : FleetWorld) (page : List ℕ) (result : RecoverActiveEntriesResult)
    (r : Except JsError RecoverActiveEntriesResult) (done : List ℕ) : Prop where
  start : done <+: page
  settled : SettledAt records done w w'
  returned : ∀ result', r = .ok result' → done = page ∧
    result'.recovered = result.recovered + page.countP (isRecoverable records w) ∧
    result'.recovered + result'.reclaimed = result.recovered + result.reclaimed + page.length

theorem count_add (recovered : Bool) : (result.count recovered).recovered = result.recovered + (if recovered then 1 else 0) ∧
    (result.count recovered).recovered + (result.count recovered).reclaimed = result.recovered + result.reclaimed + 1 := by
  cases recovered
  · exact ⟨rfl, rfl⟩
  · exact ⟨rfl, Nat.add_right_comm _ _ _⟩

theorem Passed.cons {page done : List ℕ} {r : Except JsError RecoverActiveEntriesResult} (hd : w.index.doc id = some d)
    (hhead : SettledAt records [id] w w') (hsame : ∀ id ∈ page, w'.index.doc id = w.index.doc id) (hfresh : id ∉ page)
    (h : Passed records w' w'' page (result.count (records.recoverable id d)) r done) :
    Passed records w w'' (id :: page) result r (id :: done) := by
  have hdone : id ∉ done := fun hid => hfresh (h.start.subset hid)
  refine ⟨(List.prefix_cons_inj id).mpr h.start, hhead.cons h.settled hdone, fun result' hr => ?_⟩
  obtain ⟨rfl, hrecovered, hall⟩ := h.returned result' hr
  obtain ⟨hcount, hcounts⟩ := @count_add result (records.recoverable id d)
  have hcongr : done.countP (isRecoverable records w') = done.countP (isRecoverable records w) :=
    List.countP_congr fun id' hid' => by rw [isRecoverable, isRecoverable, hsame id' hid']
  have hhere : isRecoverable records w id = records.recoverable id d := by
    rw [isRecoverable, hd]
    rfl
  refine ⟨rfl, ?_, ?_⟩
  · rw [hrecovered, hcount, hcongr, List.countP_cons, hhere]
    omega
  · rw [hall, hcounts, List.length_cons]
    omega

theorem alone_recoverEach {entries : List QueueEntry} (h : Listed w entries) :
    (ofSched (recoverEach entries result)).run.Alone (Answered records host)
      (fun _ r w' => ∃ done, Passed records w w' (entries.map fun e => e.id) result r done) past w := by
  induction entries generalizing w past result with
  | nil =>
    refine ⟨[], List.prefix_rfl, settledAt_nil fun _ => rfl, fun result' hr => ?_⟩
    obtain rfl := Except.ok.inj hr
    exact ⟨rfl, rfl, rfl⟩
  | cons e entries ih =>
    obtain ⟨d, heq, hd, hflight⟩ := h.found e List.mem_cons_self
    rw [recoverEach, ofSched_bind, heq]
    refine alone_throws_bind.2 ((alone_recoverEntry hd hflight).mono fun es r v hr => ?_)
    cases r with
    | error err =>
      exact ⟨[], List.nil_prefix, settledAt_nil hr, nofun⟩
    | ok result' =>
      obtain ⟨rfl, hsettled⟩ := hr
      obtain ⟨htail, hsame⟩ := h.tail hsettled
      refine (ih htail).mono fun fs r v' hr => ?_
      obtain ⟨done, hdone⟩ := hr
      exact ⟨e.id :: done, hdone.cons hd hsettled hsame (List.nodup_cons.mp h.nodup).1⟩

/-! ## The whole call -/

/-- What the call makes of the entries in flight: those of its page are settled one after the other, and all of them if it
returns. The page is all of them if there are fewer than a hundred. -/
structure Recovers (records : Records) (w w' : FleetWorld) (r : Except JsError RecoverActiveEntriesResult)
    (page done : List ℕ) : Prop where
  nodup : page.Nodup
  inFlight : ∀ id ∈ page, ∃ d, w.index.doc id = some d ∧ d.status.inFlight = true
  whole : page.length < 100 → ∀ id d, w.index.doc id = some d → d.status.inFlight = true → id ∈ page
  start : done <+: page
  settled : SettledAt records done w w'
  accounts : ∀ result, r = .ok result → done = page ∧ result.recovered = page.countP (isRecoverable records w) ∧
    result.recovered + result.reclaimed = page.length
  resumable : (∃ result, r = .ok result) → page.length < 100 → ∀ id d, w'.index.doc id = some d →
    d.status.inFlight = true → records.recoverable id d = true ∧ w.index.doc id = some d

theorem alone_getActiveEntries : (ofQueue getActiveEntries).run.Alone (Answered records host)
    (Returns fun _ entries w' => Listed w entries ∧ (entries.length < 100 → ∀ id d, w.index.doc id = some d →
      d.status.inFlight = true → id ∈ entries.map fun e => e.id) ∧ w'.index.docs = w.index.docs) past w := by
  rw [getActiveEntries, ofQueue_bind]
  refine Alone.throws_bind (R := fun _ hits w' => (∃ ids : List ℕ, ids.Perm (w.index.matching
    { status := some [.deploying, .benchmarking], sort := .startedAt, size := 100 }) ∧
      hits = (w.index.hits ids).take 100) ∧ w'.index.docs = w.index.docs) ?_ fun es hits w' hsearch => ?_
  · intro r w' hr
    obtain ⟨hits, rfl⟩ := exists_ok hr.1.2
    obtain ⟨t, ch, hs, -⟩ := undisturbed_es hr.1
    obtain ⟨hw', ids, hperm, hhits⟩ := serve_search_ok hs
    exact ⟨hits, rfl, ⟨ids, hperm, hhits⟩, by rw [hw']; rfl⟩
  · obtain ⟨⟨ids, hperm, rfl⟩, hdocs⟩ := hsearch
    have hids : (((w.index.hits ids).take 100).map fun hit => toEntry hit.id hit.source).map (fun e => e.id) =
        ((w.index.hits ids).take 100).map Hit.id := by
      rw [List.map_map]
      rfl
    refine ⟨_, rfl, ⟨?_, fun e he => ?_⟩, fun hlt id d hd hflight => ?_, hdocs⟩
    · rw [hids]
      exact nodup_page hperm
    · obtain ⟨hit, hhit, rfl⟩ := List.mem_map.1 he
      obtain ⟨hd, hmatch⟩ := matches_of_hit hperm hhit
      exact ⟨hit.source, rfl, hd, inFlight_of_mem (mem_of_matches rfl hmatch)⟩
    · rw [hids]
      rw [List.length_map, List.length_take] at hlt
      rw [List.take_of_length_le (by omega)]
      have hmatch : id ∈ w.index.matching { status := some [.deploying, .benchmarking], sort := .startedAt, size := 100 } := by
        rw [mem_matching, hd]
        cases hstatus : d.status <;> simp_all [Query.matches, Status.inFlight]
      exact List.mem_map.mpr ⟨⟨id, d⟩, mem_hits.mpr ⟨hperm.mem_iff.mpr hmatch, hd⟩, rfl⟩

theorem chain_answered {es : List DaemonEvent} (h : Chain (Undisturbed host) w es w')
    (htells : ∀ e ∈ es, records.tells e.op e.ans = true) : Chain (Answered records host) w es w' := by
  induction es generalizing w with
  | nil => exact h
  | cons e es ih =>
    obtain ⟨he, hes⟩ := List.forall_mem_cons.mp htells
    exact ⟨h.1, ⟨h.2.1, he⟩, ih h.2.2 hes⟩

end Recovery

/-- Entry 0 has a running row, and its build is under way. -/
def oneRunningBuild : Records where
  rows _ := [finishedRow "esql" .running "running"]
  state _ _ := some "running"

/-- Entry 0 waits for its build, entry 1 is being deployed, and entry 2 is of the same model as entry 0. -/
def afterCrash : FleetWorld where
  index := { docs := [queuedDoc "m" .benchmarking (some "t"), queuedDoc "n" .deploying (some "u"),
    queuedDoc "m" .benchmarking (some "v")], nextSeqNo := 1 }

/-- The store and Buildkite answer from the records. -/
def recordsAnswer : (o : SchedOp) → SchedAns o
  | .ext (.getCIEvalResults modelId _) => .ok (oneRunningBuild.rows modelId)
  | .ext (.getBuildState slug number) => .ok (oneRunningBuild.state slug number)
  | o => networkDown o

end Benchmarker
