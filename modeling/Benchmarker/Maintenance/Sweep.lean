import Mathlib.Data.Rat.Floor
import Benchmarker.Failure.Classifier
import Benchmarker.Fleet.World

/-!
# The dead-letter sweep

`sweepDlq` of the maintenance scheduler: one page of old failures, the active cooldowns, and a
re-enqueue of the failures on the page that are retriable and not cooled down.

* `sweepDlq`: the sweep. `Candidate`, `candidates`: what it re-enqueues from a page.
* `runs_sweepDlq`: a sweep that returns.
* `Eligible`, `eligible`: the entries that a sweep is meant for. **`sweep_iff`**: when it
  re-enqueues as many of them as its cap allows. **`candidates_le`**, `candidates_eq`: what the page
  has to do with them. **`sweep_starved`**: a backlog that hides one.
-/

namespace Benchmarker

open Js Async Async.Prog

/-! ## The sweep -/

/-- The settings of the maintenance scheduler that the sweep reads. -/
structure MaintenanceConfig where
  dlqRetryAfterDays : ℚ := 7
  dlqMaxRequeuePerSweep : ℕ := 5
  deriving DecidableEq

/-- `MS_PER_HOUR`. -/
def msPerHour : ℕ := 60 * 60 * 1000

/-- The page size of the sweep's search. -/
def sweepPageSize : ℕ := 100

/-- `beforeIso`; a time before the epoch counts as the epoch. -/
def MaintenanceConfig.before (config : MaintenanceConfig) (nowMs : Time) : Time :=
  ⌊(nowMs : ℚ) - config.dlqRetryAfterDays * 24 * msPerHour⌋.toNat

/-- The sweep is switched off. -/
def MaintenanceConfig.dlqOff (config : MaintenanceConfig) : Prop :=
  config.dlqRetryAfterDays ≤ 0 ∨ config.dlqMaxRequeuePerSweep = 0

instance (config : MaintenanceConfig) : Decidable config.dlqOff :=
  inferInstanceAs (Decidable (_ ∨ _))

def loadActiveModelCooldowns : FleetJs (List (String × Time)) := do
  match ← attempt (ExceptT.mk (request FleetOp.searchModelCooldowns)) with
  | .ok found => return found
  | .error err => if isStatusCode err 404 then return [] else throw err

/-- `cooledDown`: the models on cooldown, none when the cooldowns cannot be read. -/
def cooledDown : Except JsError (List (String × Time)) → List String
  | .ok active => active.map (·.1)
  | .error _ => []

/-- `retriable`, before it is cut to the cap. -/
def candidates (cooled : List String) (failed : List QueueEntry) : List QueueEntry :=
  (failed.filter fun e => (classifyFailure (e.errorMessage.getD "")).retriable).filter fun e =>
    !cooled.contains e.modelId

theorem candidates_sublist (cooled : List String) (failed : List QueueEntry) :
    (candidates cooled failed).Sublist failed := List.filter_sublist.trans List.filter_sublist

def sweepDlq (config : MaintenanceConfig) (nowMs : Time) : FleetJs ℕ := do
  if config.dlqOff then return 0
  else
    let failed ← ofQueue (findFailedEntries (config.before nowMs) sweepPageSize)
    let active ← attempt loadActiveModelCooldowns
    let retriable :=
      ((candidates (cooledDown active) failed).take config.dlqMaxRequeuePerSweep).map (·.id)
    if retriable = [] then return 0
    else ofQueue (requeueFailedEntries retriable)

/-! ## Histories -/

/-- A request of a daemon, served. -/
abbrev FleetEvent : Type := Event FleetAns FleetWorld

/-- The page that a search of the queue index returns. -/
def pageOf : FleetEvent → Option (List QueueEntry)
  | ⟨.es (.search _), .ok hits, _, _⟩ => some (hits.map fun hit => toEntry hit.id hit.source)
  | _ => none

/-- The models that a search for cooldowns returns. -/
def cooledOf : FleetEvent → Option (List String)
  | ⟨.searchModelCooldowns, .ok found, _, _⟩ => some (found.map (·.1))
  | _ => none

/-- The page of a sweep; empty when the sweep is switched off. -/
def sweepPage (es : List FleetEvent) : List QueueEntry := (es.findSome? pageOf).getD []

/-- The models that a sweep takes to be on cooldown. -/
def sweepCooled (es : List FleetEvent) : List String := (es.findSome? cooledOf).getD []

/-- The candidates on the page of a sweep. -/
def onPage (es : List FleetEvent) : List QueueEntry := candidates (sweepCooled es) (sweepPage es)

/-- The entries that have failed in `w` and wait in `w'`. -/
def requeued (w w' : EsWorld) : List ℕ :=
  (List.range w.docs.length).filter fun id =>
    (w.doc id).any (·.status = .failed) && (w'.doc id).any (·.status = .pending)

theorem requeued_self (w : EsWorld) : requeued w w = [] := by
  refine List.filter_eq_nil_iff.mpr fun id _ h => ?_
  cases hd : w.doc id with
  | none => simp [hd] at h
  | some d =>
    simp only [hd, Option.any_some, Bool.and_eq_true, decide_eq_true_eq] at h
    rw [h.1] at h
    cases h.2

section Requeue

variable {host : ℕ} {w w' : FleetWorld} {es : List FleetEvent}

/-- The entries `ids` have failed in `w` and wait in `w'`; the others are the same. -/
structure Requeues (ids : List ℕ) (w w' : EsWorld) : Prop where
  length : w'.docs.length = w.docs.length
  moved : ∀ id ∈ ids, (w.doc id).any (·.status = .failed) ∧ (w'.doc id).any (·.status = .pending)
  kept : ∀ id ∉ ids, w'.doc id = w.doc id

/-- **What is re-enqueued.** -/
theorem Requeues.length_requeued {ids : List ℕ} {w w' : EsWorld} (h : Requeues ids w w')
    (hids : ids.Nodup) : (requeued w w').length = ids.length := by
  refine ((List.perm_ext_iff_of_nodup (List.nodup_range.filter _) hids).mpr fun id => ?_).length_eq
  rw [List.mem_filter, List.mem_range, Bool.and_eq_true]
  constructor
  · rintro ⟨-, hfailed, hpending⟩
    by_contra hid
    rw [h.kept id hid] at hpending
    have hself : id ∈ requeued w w := by
      refine List.mem_filter.mpr ⟨?_, by rw [hfailed, hpending]; rfl⟩
      rw [List.mem_range]
      by_contra hge
      rw [EsWorld.doc, List.getElem?_eq_none (by omega)] at hfailed
      cases hfailed
    rw [requeued_self] at hself
    cases hself
  · intro hid
    have hmoved := h.moved id hid
    refine ⟨?_, hmoved⟩
    by_contra hge
    rw [EsWorld.doc, List.getElem?_eq_none (by omega)] at hmoved
    cases hmoved.1

theorem requeues_nil (w : EsWorld) : Requeues [] w w := ⟨rfl, nofun, fun _ _ => rfl⟩

/-- **One more entry re-enqueued.** -/
theorem Requeues.cons {id : ℕ} {ids : List ℕ} {u v w : EsWorld} {s : Stored} {d : EsSource}
    (hs : u.docs[id]? = some s) (hfailed : s.source.status = .failed) (hd : d.status = .pending)
    (hv : v = u.put id d) (hid : id ∉ ids) (h : Requeues ids v w) : Requeues (id :: ids) u w := by
  have hother : ∀ i, i ≠ id → v.doc i = u.doc i := by
    intro i hi
    rw [hv, EsWorld.doc, EsWorld.docs_put_getElem? i hs, if_neg hi, EsWorld.doc]
  have hself : v.doc id = some d := by
    rw [hv, EsWorld.doc, EsWorld.docs_put_getElem? id hs, if_pos rfl]
    rfl
  refine ⟨?_, fun i hi => ?_, fun i hi => ?_⟩
  · rw [h.length, hv, EsWorld.docs_put, List.length_set]
  · rcases List.mem_cons.mp hi with rfl | hi
    · rw [h.kept i hid, hself, EsWorld.doc_of_docs hs]
      simp [hfailed, hd]
    · have hmoved := h.moved i hi
      rwa [hother i fun heq => hid (heq ▸ hi)] at hmoved
  · rw [List.mem_cons, not_or] at hi
    rw [h.kept i hi.2, hother i hi.1]

/-- The loop of `requeueFailedEntries`, over entries that have failed. -/
theorem runs_requeueEach {ids : List ℕ} {now : Time} {k n : ℕ} (hids : ids.Nodup)
    (hfailed : ∀ id ∈ ids, (w.index.doc id).any (·.status = .failed))
    (h : (ofQueue (requeueEach now ids k)).run.Runs es (.ok n)) (hc : Chain (Served host) w es w') :
    n = k + ids.length ∧ Requeues ids w.index w'.index := by
  induction ids generalizing w k es with
  | nil =>
    obtain ⟨rfl, heq⟩ := runs_throws_pure.mp h
    have hw : w = w' := hc
    rw [hw]
    exact ⟨(Except.ok.inj heq).symm, requeues_nil _⟩
  | cons id ids ih =>
    rw [requeueEach, ofQueue_bind] at h
    obtain ⟨es₁, es₂, res, rfl, h₁, h₂⟩ := runs_ok_bind.mp h
    obtain ⟨pre, post, rfl⟩ := runs_atIndex.mp h₁
    obtain ⟨rfl, hs, hrest⟩ := hc
    obtain ⟨ch, hserve, -⟩ := served_es.mp hs
    obtain ⟨s, hdoc, hres⟩ := serve_update_ok hserve
    have hstatus : s.source.status = .failed := by
      have := hfailed id List.mem_cons_self
      rw [EsWorld.doc_of_docs hdoc] at this
      exact of_decide_eq_true this
    have happly : ∃ d, (Script.requeueFailedEntries now).apply s.source = some d ∧
        d.status = .pending := by
      rw [Script.apply, if_pos hstatus]
      exact ⟨_, rfl, rfl⟩
    obtain ⟨d, hd, hpending⟩ := happly
    rcases hres with ⟨-, hnone, -⟩ | ⟨d', rfl, hd', hput⟩
    · rw [hd] at hnone
      cases hnone
    · obtain rfl := Option.some.inj (hd.symm.trans hd')
      obtain ⟨hid, hnodup⟩ := List.nodup_cons.mp hids
      have hstill : ∀ i ∈ ids, (post.index.doc i).any (·.status = .failed) := by
        intro i hi
        have hne : i ≠ id := fun heq => hid (heq ▸ hi)
        rw [hput, EsWorld.doc, EsWorld.docs_put_getElem? i hdoc, if_neg hne]
        exact hfailed i (List.mem_cons_of_mem _ hi)
      obtain ⟨hn, hreq⟩ := ih hnodup hstill h₂ hrest
      refine ⟨?_, hreq.cons hdoc hstatus hpending hput hid⟩
      rw [hn, if_pos (by decide), List.length_cons]
      omega

/-- **`requeueFailedEntries`**, over entries that have failed. -/
theorem runs_requeueFailedEntries {ids : List ℕ} {n : ℕ} (hids : ids.Nodup)
    (hfailed : ∀ id ∈ ids, (w.index.doc id).any (·.status = .failed))
    (h : (ofQueue (requeueFailedEntries ids)).run.Runs es (.ok n)) (hc : Chain (Served host) w es w') :
    n = ids.length ∧ (requeued w.index w'.index).length = n := by
  rw [requeueFailedEntries, ofQueue_bind] at h
  obtain ⟨es₁, es₂, now, rfl, h₁, h₂⟩ := runs_ok_bind.mp h
  obtain ⟨pre, post, rfl⟩ := runs_ofQueue_dateNow h₁
  obtain ⟨rfl, hs, hrest⟩ := hc
  have hpost : post = pre := hs.eq_of_reads rfl
  rw [← hpost] at hfailed ⊢
  obtain ⟨hn, hreq⟩ := runs_requeueEach hids hfailed h₂ hrest
  have hlen := hreq.length_requeued hids
  omega

end Requeue

/-! ## One sweep -/

/-- The models on cooldown that a sweep sees are those that its search returned. -/
theorem runs_loadActiveModelCooldowns {es : List FleetEvent}
    {r : Except JsError (List (String × Time))} (h : loadActiveModelCooldowns.run.Runs es r) :
    ∃ ans pre post, es = [⟨.searchModelCooldowns, ans, pre, post⟩] ∧
      cooledDown r = (cooledOf ⟨.searchModelCooldowns, ans, pre, post⟩).getD [] := by
  rw [loadActiveModelCooldowns, runs_throws_bind] at h
  rcases h with ⟨es₁, es₂, a, rfl, h₁, h₂⟩ | ⟨e, h₁, -⟩
  · obtain ⟨pre, post, rfl⟩ := runs_request.mp (runs_attempt.mp h₁)
    refine ⟨a, pre, post, ?_⟩
    cases a with
    | ok found =>
      obtain ⟨rfl, rfl⟩ := runs_throws_pure.mp h₂
      exact ⟨rfl, rfl⟩
    | error err =>
      dsimp only at h₂
      split_ifs at h₂
      · obtain ⟨rfl, rfl⟩ := runs_throws_pure.mp h₂
        exact ⟨rfl, rfl⟩
      · obtain ⟨rfl, rfl⟩ := runs_throw.mp h₂
        exact ⟨rfl, rfl⟩
  · obtain ⟨a, -, heq⟩ := runs_lift.mp h₁
    cases heq

/-- The cooldowns that a sweep has found, after its two searches. -/
theorem sweepCooled_eq {pre post : FleetWorld} {q : Query} {hits : List Hit} {e : FleetEvent}
    {es : List FleetEvent} (hrest : ∀ f ∈ es, ∃ o, f.op = .es o) :
    sweepCooled (⟨.es (.search q), .ok hits, pre, post⟩ :: e :: es) = (cooledOf e).getD [] := by
  have hnone : es.findSome? cooledOf = none := by
    refine List.findSome?_eq_none_iff.mpr fun f hf => ?_
    obtain ⟨op, ans, fpre, fpost⟩ := f
    obtain ⟨o, rfl⟩ := hrest _ hf
    rfl
  show ((e :: es).findSome? cooledOf).getD [] = _
  rw [List.findSome?_cons, hnone]
  cases cooledOf e <;> rfl

section Sweep

variable {config : MaintenanceConfig} {nowMs : Time} {host n : ℕ} {w w' : FleetWorld}
variable {es : List FleetEvent}

/-- The search of the sweep. -/
def sweepQuery (config : MaintenanceConfig) (nowMs : Time) : Query where
  status := some [.failed]
  completedLte := some (config.before nowMs)
  sort := .completedAt
  size := sweepPageSize

/-- The page of a sweep: distinct entries that have failed. -/
theorem page_failed {q : Query} {ch : EsChoice} {u u' : EsWorld} {hits : List Hit}
    (h : serve (.search q) ch u = some (.ok hits, u')) (hq : q.status = some [.failed]) :
    ((hits.map fun hit => toEntry hit.id hit.source).map (·.id)).Nodup ∧
      ∀ e ∈ hits.map fun hit => toEntry hit.id hit.source, (u.doc e.id).any (·.status = .failed) := by
  obtain ⟨-, ids, hperm, rfl⟩ := serve_search_ok h
  constructor
  · rw [List.map_map]
    exact EsWorld.nodup_page hperm
  · intro e he
    obtain ⟨hit, hhit, rfl⟩ := List.mem_map.mp he
    obtain ⟨hid, hdoc⟩ := EsWorld.mem_hits.mp (List.mem_of_mem_take hhit)
    have hmatch := EsWorld.mem_matching.mp (hperm.mem_iff.mp hid)
    show (u.doc hit.id).any _ = true
    rw [hdoc, Option.any_some, Query.matches, hq] at hmatch
    rw [hdoc, Option.any_some]
    simp only [Option.all_some, Bool.and_eq_true, List.contains_iff_mem, List.mem_singleton] at hmatch
    exact decide_eq_true hmatch.1.1.1.2

/-- **What a sweep does with a page** of distinct entries that have failed. -/
theorem runs_requeueCandidates {cs : List QueueEntry} {cap : ℕ} (hids : (cs.map (·.id)).Nodup)
    (hfailed : ∀ e ∈ cs, (w.index.doc e.id).any (·.status = .failed))
    (h : (if (cs.take cap).map (·.id) = [] then pure 0
      else ofQueue (requeueFailedEntries ((cs.take cap).map (·.id))) : FleetJs ℕ).run.Runs es (.ok n))
    (hc : Chain (Served host) w es w') :
    n = min cap cs.length ∧ (requeued w.index w'.index).length = n ∧ ∀ f ∈ es, ∃ o, f.op = .es o := by
  by_cases hnil : (cs.take cap).map (·.id) = []
  · rw [if_pos hnil] at h
    obtain ⟨rfl, heq⟩ := runs_throws_pure.mp h
    obtain rfl := Except.ok.inj heq
    have hw : w = w' := hc
    have hlen := congrArg List.length hnil
    rw [List.length_map, List.length_take, List.length_nil] at hlen
    rw [← hw, requeued_self]
    exact ⟨hlen.symm, rfl, by simp⟩
  · rw [if_neg hnil] at h
    have hnodup : ((cs.take cap).map (·.id)).Nodup := hids.sublist ((List.take_sublist _ _).map _)
    have hall : ∀ id ∈ (cs.take cap).map (·.id), (w.index.doc id).any (·.status = .failed) := by
      intro id hid
      obtain ⟨e, he, rfl⟩ := List.mem_map.mp hid
      exact hfailed e (List.mem_of_mem_take he)
    obtain ⟨hn, hreq⟩ := runs_requeueFailedEntries hnodup hall h hc
    rw [List.length_map, List.length_take] at hn
    exact ⟨hn, hreq, (uses_ofQueue _).events h⟩

/-- **A sweep that returns**: it has searched one page and one set of cooldowns, and has re-enqueued
the candidates on the page, up to the cap. -/
theorem runs_sweepDlq (h : (sweepDlq config nowMs).run.Runs es (.ok n))
    (hc : Chain (Served host) w es w') :
    n = min config.dlqMaxRequeuePerSweep (onPage es).length ∧
      (requeued w.index w'.index).length = n ∧ (¬config.dlqOff →
        ∃ ids : List ℕ, ids.Perm (w.index.matching (sweepQuery config nowMs)) ∧ sweepPage es =
          ((w.index.hits ids).take sweepPageSize).map fun hit => toEntry hit.id hit.source) := by
  rw [sweepDlq] at h
  by_cases hoff : config.dlqOff
  · rw [if_pos hoff] at h
    obtain ⟨rfl, heq⟩ := runs_throws_pure.mp h
    obtain rfl := Except.ok.inj heq
    have hw : w = w' := hc
    have hempty : onPage [] = [] := rfl
    rw [← hw, requeued_self, hempty]
    exact ⟨by simp, rfl, fun hon => absurd hoff hon⟩
  · rw [if_neg hoff, findFailedEntries, ofQueue_bind] at h
    obtain ⟨es₁, es₂, failed, rfl, h₁, h₂⟩ := runs_ok_bind.mp h
    obtain ⟨fs, gs, hits, rfl, hf, hg⟩ := runs_ok_bind.mp h₁
    obtain ⟨pre, post, rfl⟩ := (runs_atIndex (o := .search (sweepQuery config nowMs))).mp hf
    obtain ⟨rfl, heq⟩ := runs_throws_pure.mp hg
    obtain rfl := Except.ok.inj heq
    obtain ⟨es₃, es₄, r, rfl, h₃, h₄⟩ := runs_ok_bind.mp h₂
    obtain ⟨ans, pre', post', rfl, hcooled⟩ := runs_loadActiveModelCooldowns (runs_attempt.mp h₃)
    -- neither search changes anything
    obtain ⟨rfl, hs, rfl, hcool, hrest⟩ := hc
    have hpre : pre' = pre := hs.eq_of_reads rfl
    have hpost : post' = pre' := (served_searchModelCooldowns hcool).1
    obtain ⟨ch, hserve, -⟩ := served_es.mp hs
    obtain ⟨hnodup, hfailed⟩ := page_failed hserve rfl
    obtain ⟨-, ids, hperm, hhits⟩ := serve_search_ok hserve
    have hsub := candidates_sublist (cooledDown r) (hits.map fun hit => toEntry hit.id hit.source)
    have hstill : ∀ e ∈ candidates (cooledDown r) (hits.map fun hit => toEntry hit.id hit.source),
        (post'.index.doc e.id).any (·.status = .failed) := by
      intro e he
      rw [hpost, hpre]
      exact hfailed e (hsub.subset he)
    obtain ⟨hn, hreq, hes⟩ := runs_requeueCandidates (hnodup.sublist (hsub.map _)) hstill h₄ hrest
    have hseen := @sweepCooled_eq pre pre' (sweepQuery config nowMs) hits
      ⟨.searchModelCooldowns, ans, pre', post'⟩ es₄ hes
    rw [← hcooled] at hseen
    have hpage : onPage (⟨.es (.search (sweepQuery config nowMs)), .ok hits, pre, pre'⟩ ::
        ⟨.searchModelCooldowns, ans, pre', post'⟩ :: es₄) =
          candidates (cooledDown r) (hits.map fun hit => toEntry hit.id hit.source) := by
      rw [onPage, hseen]
      rfl
    have hworld : post'.index = pre.index := by rw [hpost, hpre]
    rw [hworld] at hreq
    refine ⟨hn.trans (congrArg _ (congrArg _ hpage.symm)), hreq, fun _ => ⟨ids, hperm, ?_⟩⟩
    exact congrArg _ hhits

/-! ## Completeness -/

/-- The error is retriable, and the model is not on cooldown. -/
def Retriable (cooled : List String) (d : EsSource) : Bool :=
  !cooled.contains d.modelId && (classifyFailure (d.errorMessage.getD "")).retriable

/-- An entry that the sweep is meant for: it has failed by `before`, its error is retriable, and its
model is not on cooldown. -/
def Eligible (cooled : List String) (before : Time) (d : EsSource) : Bool :=
  d.status = .failed && d.completedAt.any (· ≤ before) && Retriable cooled d

/-- The eligible entries of the index. -/
def FleetWorld.eligible (w : FleetWorld) (before : Time) : List ℕ :=
  (List.range w.index.docs.length).filter fun id =>
    (w.index.doc id).any (Eligible (w.activeCooldowns.map (·.1)) before)

/-- The sweep has re-enqueued as many eligible entries as there are, up to its cap. -/
def SweepComplete (config : MaintenanceConfig) (nowMs : Time) (w w' : FleetWorld) (n : ℕ) : Prop :=
  n = min config.dlqMaxRequeuePerSweep (w.eligible (config.before nowMs)).length ∧
    (requeued w.index w'.index).length = n

theorem sweepComplete_iff_min (h : (sweepDlq config nowMs).run.Runs es (.ok n))
    (hc : Chain (Served host) w es w') : SweepComplete config nowMs w w' n ↔
      min config.dlqMaxRequeuePerSweep (onPage es).length =
        min config.dlqMaxRequeuePerSweep (w.eligible (config.before nowMs)).length := by
  obtain ⟨hn, hreq, -⟩ := runs_sweepDlq h hc
  rw [SweepComplete, and_iff_left hreq, hn]

theorem length_candidates (cooled : List String) (hits : List Hit) :
    (candidates cooled (hits.map fun hit => toEntry hit.id hit.source)).length =
      hits.countP fun hit => Retriable cooled hit.source := by
  rw [candidates, List.filter_filter, ← List.countP_eq_length_filter, List.countP_map]
  rfl

theorem countP_hits {u : EsWorld} (p : EsSource → Bool) (ids : List ℕ) :
    (u.hits ids).countP (fun hit => p hit.source) = ids.countP fun id => (u.doc id).any p := by
  induction ids with
  | nil => rfl
  | cons id ids ih =>
    rw [List.countP_cons, ← ih, EsWorld.hits, EsWorld.hits]
    cases hd : u.doc id with
    | none => rw [List.filterMap_cons_none (by simp [hd])]; rfl
    | some d => rw [List.filterMap_cons_some (b := ⟨id, d⟩) (by simp [hd]), List.countP_cons]; rfl

theorem sweepQuery_matches (d : EsSource) : (sweepQuery config nowMs).matches d =
    (d.status = .failed && d.completedAt.any (· ≤ config.before nowMs) : Bool) := by
  simp [Query.matches, sweepQuery]

/-- Among all hits of the search are as many candidates as the index has eligible entries. -/
theorem countP_hits_matching {ids : List ℕ} {cooled : List String}
    (hperm : ids.Perm (w.index.matching (sweepQuery config nowMs)))
    (hcool : ∀ m, m ∈ cooled ↔ m ∈ w.activeCooldowns.map (·.1)) :
    (w.index.hits ids).countP (fun hit => Retriable cooled hit.source) =
      (w.eligible (config.before nowMs)).length := by
  rw [countP_hits, hperm.countP_eq, EsWorld.matching, List.countP_filter, FleetWorld.eligible,
    ← List.countP_eq_length_filter]
  refine List.countP_congr fun id _ => ?_
  have hsame : ∀ d, Retriable cooled d = Retriable (w.activeCooldowns.map (·.1)) d := by
    intro d
    have hmem : cooled.contains d.modelId = (w.activeCooldowns.map (·.1)).contains d.modelId := by
      rw [Bool.eq_iff_iff, List.contains_iff_mem, List.contains_iff_mem]
      exact hcool d.modelId
    rw [Retriable, Retriable, hmem]
  cases w.index.doc id with
  | none => rfl
  | some d =>
    show (Retriable cooled d && (sweepQuery config nowMs).matches d) = true ↔ Eligible _ _ d = true
    rw [hsame, sweepQuery_matches, Eligible, Bool.and_comm]

/-- **Only the page limit hides entries**: when all cooldowns are read, a sweep is complete exactly
when its page holds as many candidates as it should re-enqueue. -/
theorem sweep_iff_of_cooled (h : (sweepDlq config nowMs).run.Runs es (.ok n))
    (hc : Chain (Served host) w es w') (hoff : ¬config.dlqOff)
    (hcool : ∀ m, m ∈ sweepCooled es ↔ m ∈ w.activeCooldowns.map (·.1)) :
    SweepComplete config nowMs w w' n ↔
      min config.dlqMaxRequeuePerSweep (w.eligible (config.before nowMs)).length ≤
        (onPage es).length := by
  obtain ⟨-, -, hpage⟩ := runs_sweepDlq h hc
  obtain ⟨ids, hperm, hids⟩ := hpage hoff
  have hle : (onPage es).length ≤ (w.eligible (config.before nowMs)).length := by
    rw [onPage, hids, length_candidates, ← countP_hits_matching hperm hcool]
    exact (List.take_sublist _ _).countP_le
  rw [sweepComplete_iff_min h hc]
  omega

/-- A backlog that fits on the page hides nothing. -/
theorem sweepComplete_of_short (h : (sweepDlq config nowMs).run.Runs es (.ok n))
    (hc : Chain (Served host) w es w') (hoff : ¬config.dlqOff)
    (hcool : ∀ m, m ∈ sweepCooled es ↔ m ∈ w.activeCooldowns.map (·.1))
    (hshort : (w.index.matching (sweepQuery config nowMs)).length ≤ sweepPageSize) :
    SweepComplete config nowMs w w' n := by
  obtain ⟨-, -, hpage⟩ := runs_sweepDlq h hc
  obtain ⟨ids, hperm, hids⟩ := hpage hoff
  have hlen : (w.index.hits ids).length ≤ sweepPageSize := by
    have := hperm.length_eq
    have hle : (w.index.hits ids).length ≤ ids.length := List.length_filterMap_le _ _
    omega
  rw [sweepComplete_iff_min h hc, onPage, hids, List.take_of_length_le hlen, length_candidates,
    countP_hits_matching hperm hcool]

/-- **When a sweep is complete**: the page that it searched has as many candidates as the index has
eligible entries, or both reach the cap. -/
theorem sweep_iff (h : (sweepDlq config nowMs).run.Runs es (.ok n)) (hc : Chain (Served host) w es w') :
    SweepComplete config nowMs w w' n ↔
      (onPage es).length = (w.eligible (config.before nowMs)).length ∨
        config.dlqMaxRequeuePerSweep ≤ (onPage es).length ∧
          config.dlqMaxRequeuePerSweep ≤ (w.eligible (config.before nowMs)).length := by
  rw [sweepComplete_iff_min h hc]
  omega

end Sweep

/-! ## A backlog -/

/-- A failure of the model `m`. -/
def failedDoc (m : String) (completedAt : Time) (errorMessage : Option String) : EsSource where
  modelId := m
  source := .discovery
  priority := 10
  status := .failed
  requestedAt := 0
  startedAt := some 0
  completedAt := some completedAt
  errorMessage := errorMessage
  requestedBy := none
  leaseToken := none
  heartbeatAt := none
  metadata := none

/-- An index of the given documents. -/
def indexOf (ds : List EsSource) : EsWorld where
  docs := ds.map fun d => ⟨d, 0, 1⟩
  nextSeqNo := 1

/-- Ten days after the epoch. -/
def tenDaysMs : Time := 10 * 24 * msPerHour

/-- The sweep of an undisturbed daemon: the hits in the order `ids`, no cooldowns, then `updates`
updates. -/
def sweepChoices (ids : List ℕ) (updates : ℕ) : List FleetChoice :=
  .es (.hits ids) :: .cooldowns [] :: List.replicate updates (.es .ok)

def playSweep (w : FleetWorld) (chs : List FleetChoice) :
    Option (List FleetEvent × Except JsError ℕ × FleetWorld) :=
  (sweepDlq {} tenDaysMs).run.play (serveFleet 0) chs w

/-- One retriable failure. -/
def oneFailure : FleetWorld where
  index := indexOf [failedDoc "a/model" 5 (some "fetch failed")]

theorem sweep_one : ∃ (es : List FleetEvent) (w' : FleetWorld),
    (sweepDlq {} tenDaysMs).run.Runs es (.ok 1) ∧ Chain (Served 0) oneFailure es w' ∧
    (SweepComplete {} tenDaysMs oneFailure w' 1 ↔
      (onPage es).length = (oneFailure.eligible (({} : MaintenanceConfig).before tenDaysMs)).length ∨
        5 ≤ (onPage es).length ∧
          5 ≤ (oneFailure.eligible (({} : MaintenanceConfig).before tenDaysMs)).length) := by
  have hplay : (playSweep oneFailure (sweepChoices [0] 2)).any (fun x => x.2.1 = .ok 1) = true := by
    decide +kernel
  obtain ⟨⟨es, r, w'⟩, hx, hr⟩ := (Option.any_eq_true _ _).mp hplay
  obtain rfl : r = .ok 1 := of_decide_eq_true hr
  obtain ⟨hruns, hchain⟩ := runs_play hx
  exact ⟨es, w', hruns, hchain, sweep_iff hruns hchain⟩

/-- A hundred failures that cannot be retried, and a later one that can. -/
def backlog : FleetWorld where
  index := indexOf (List.replicate 100 (failedDoc "an/old-model" 1 none) ++
    [failedDoc "a/model" 5 (some "fetch failed")])

/-- **A backlog hides an eligible entry.** -/
theorem sweep_starved : ¬∀ (config : MaintenanceConfig) (nowMs : Time) (host n : ℕ)
    (w w' : FleetWorld) (es : List FleetEvent), (sweepDlq config nowMs).run.Runs es (.ok n) →
      Chain (Served host) w es w' → SweepComplete config nowMs w w' n := by
  intro hall
  have hplay : (playSweep backlog (sweepChoices (List.range 101) 0)).any
      (fun x => x.2.1 = .ok 0) = true := by decide +kernel
  obtain ⟨⟨es, r, w'⟩, hx, hr⟩ := (Option.any_eq_true _ _).mp hplay
  obtain rfl : r = .ok 0 := of_decide_eq_true hr
  obtain ⟨hruns, hchain⟩ := runs_play hx
  have hone : (backlog.eligible (({} : MaintenanceConfig).before tenDaysMs)).length = 1 := by
    decide +kernel
  have hcomplete := (hall {} tenDaysMs 0 0 backlog w' es hruns hchain).1
  rw [hone] at hcomplete
  exact absurd hcomplete (by decide)

end Benchmarker
