import Mathlib.Data.List.Basic
import Mathlib.Data.List.Perm.Basic
import Benchmarker.Queue.Doc

/-!
# The queue index

The requests that the queue service sends to Elasticsearch, and the index that serves them.
Documents are never deleted, so a document id is its position in the index. A scripted update reads
and writes the document in one step; an update with `if_seq_no`/`if_primary_term` is a
compare-and-set; every write gives the document a sequence number above all earlier ones. A search
may order ties as it likes. Any request may fail, before or after it was carried out.

* `Script`, `Script.apply`: the painless scripts of the queue service.
* `PartialDoc`, `Query`, `EsOp`, `EsAns`: the requests and their answers.
* `EsWorld`, `serve`: the index and how it answers; `EsChoice` picks among the possible answers.
* `Effect`, **`serve_effect`**: all that a served request can do to the index.
* `hits_map_id`, `mem_hits`, `mem_matching`, `nodup_page`: the hits of a search.
* `serve_search_ok`, `serve_search_nil`, `serve_get_found`, `serve_update_ok`, **`serve_updateDoc_ok`**, `serve_updateDoc_conflict`,
  `serve_randomUUID`: what an answer says about the index.
-/

namespace Benchmarker

/-- An error of the client, with the HTTP status it carries if any. -/
structure JsError where
  message : String
  statusCode : Option ℕ := none
  deriving DecidableEq, Repr

def isStatusCode (err : JsError) (code : ℕ) : Bool := err.statusCode == some code

/-! ## Scripts and partial documents -/

/-- The painless scripts of the queue service, with their parameters. The `fence` of
`updateStatus` and `updateProgress` is present when the caller passed a lease token. -/
inductive Script
  | dequeue (now : Time) (token : String)
  | reclaimEntry
  | heartbeat (now : Time) (token : String)
  | adoptEntry (now : Time) (token : String)
  | updateStatus (status : Status) (now : Time) (errorMessage : Option String)
      (fence : Option String)
  | updateProgress (progress : EsProgress) (fence : Option String)
  | cancel (now : Time)
  | requeueFailedEntries (now : Time)
  deriving DecidableEq

/-- The `mutations` of `updateStatus`. -/
def statusMutations (status : Status) (now : Time) (errorMessage : Option String)
    (d : EsSource) : EsSource :=
  let d := { d with status := status }
  let d := if status.terminal then { d with completedAt := some now, leaseToken := none } else d
  match errorMessage with
  | some msg => { d with errorMessage := some msg }
  | none => d

/-- The assignment of `updateProgress`. -/
def progressMutation (progress : EsProgress) (d : EsSource) : EsSource :=
  { d with metadata := some { d.metadata.getD {} with pipelineProgress := some progress } }

/-- The guard of a fenced `updateStatus` or `updateProgress`: the token matches or is unset. -/
def fenceOpen (fence : Option String) (d : EsSource) : Bool :=
  match fence with
  | none => true
  | some t => d.leaseToken == none || d.leaseToken == some t

/-- The document after a script; `none` is `ctx.op = 'none'`. -/
def Script.apply : Script → EsSource → Option EsSource
  | .dequeue now token, d =>
    if d.status = .pending then
      some { d with
        status := .deploying, startedAt := some now, heartbeatAt := some now,
        leaseToken := some token }
    else none
  | .reclaimEntry, d =>
    if d.status.inFlight then
      some { d with
        status := .pending, startedAt := none, heartbeatAt := none, leaseToken := none,
        errorMessage := none }
    else none
  | .heartbeat now token, d =>
    if d.leaseToken = some token ∧ d.status.inFlight then
      some { d with heartbeatAt := some now }
    else none
  | .adoptEntry now token, d =>
    if d.status.inFlight then
      some { d with heartbeatAt := some now, leaseToken := some token }
    else none
  | .updateStatus status now errorMessage fence, d =>
    if fenceOpen fence d then some (statusMutations status now errorMessage d) else none
  | .updateProgress progress fence, d =>
    if fenceOpen fence d then some (progressMutation progress d) else none
  | .cancel now, d =>
    if d.status = .pending then
      some { d with status := .cancelled, completedAt := some now }
    else none
  | .requeueFailedEntries now, d =>
    if d.status = .failed then
      some { d with
        status := .pending, startedAt := none, completedAt := none, heartbeatAt := none,
        leaseToken := none, errorMessage := none, requestedAt := now }
    else none

/-- The partial document of the fenced terminal write. -/
structure PartialDoc where
  status : Status
  completedAt : Time
  leaseToken : Option String
  errorMessage : Option String
  deriving DecidableEq

/-- Merge a partial document into a stored one. -/
def PartialDoc.merge (doc : PartialDoc) (d : EsSource) : EsSource :=
  { d with
    status := doc.status, completedAt := some doc.completedAt, leaseToken := doc.leaseToken,
    errorMessage := doc.errorMessage }

/-! ## Requests -/

/-- The orders in which the queue service asks for hits. -/
inductive HitOrder
  | unordered
  | priority
  | startedAt
  | completedAt
  deriving DecidableEq

/-- A missing value sorts last. -/
def Option.leLast : Option ℕ → Option ℕ → Bool
  | _, none => true
  | none, some _ => false
  | some a, some b => a ≤ b

/-- `a` may come before `b` among the hits. -/
def HitOrder.le : HitOrder → EsSource → EsSource → Bool
  | .unordered, _, _ => true
  | .priority, a, b =>
    a.priority > b.priority || (a.priority == b.priority && a.requestedAt ≤ b.requestedAt)
  | .startedAt, a, b => Option.leLast a.startedAt b.startedAt
  | .completedAt, a, b => Option.leLast a.completedAt b.completedAt

/-- The queries of the queue service: a conjunction of filters, an order and a page size. -/
structure Query where
  modelId : Option String := none
  status : Option (List Status) := none
  source : Option Source := none
  completedGte : Option Time := none
  completedLte : Option Time := none
  sort : HitOrder := .unordered
  size : ℕ
  deriving DecidableEq

/-- A document satisfies all filters of a query. -/
def Query.matches (q : Query) (d : EsSource) : Bool :=
  q.modelId.all (· == d.modelId) && q.status.all (·.contains d.status) &&
  q.source.all (· == d.source) &&
  q.completedGte.all (fun t => d.completedAt.any (t ≤ ·)) &&
  q.completedLte.all (fun t => d.completedAt.any (· ≤ t))

/-- A hit of a search. -/
structure Hit where
  id : ℕ
  source : EsSource
  deriving DecidableEq

/-- What a get returns of a found document. -/
structure GetResult where
  id : ℕ
  source : EsSource
  seqNo : ℕ
  primaryTerm : ℕ
  deriving DecidableEq

/-- The `result` of an update. -/
inductive UpdateResult
  | updated | noop
  deriving DecidableEq, Repr

/-- The requests of the queue service, with the clock and the token source it reads. -/
inductive EsOp
  | search (q : Query)
  | count (q : Query)
  | get (id : ℕ)
  | update (id : ℕ) (script : Script)
  | updateDoc (id : ℕ) (doc : PartialDoc) (ifSeqNo ifPrimaryTerm : ℕ)
  | index (doc : EsSource)
  | now
  | randomUUID
  deriving DecidableEq

/-- The answers to the requests. A get whose document does not exist throws a 404. -/
@[reducible] def EsAns : EsOp → Type
  | .search _ => Except JsError (List Hit)
  | .count _ => Except JsError ℕ
  | .get _ => Except JsError (Option GetResult)
  | .update _ _ => Except JsError UpdateResult
  | .updateDoc _ _ _ _ => Except JsError UpdateResult
  | .index _ => Except JsError ℕ
  | .now => Time
  | .randomUUID => String

/-! ## The index -/

/-- A stored document with its version. -/
structure Stored where
  source : EsSource
  seqNo : ℕ
  primaryTerm : ℕ
  deriving DecidableEq

/-- The queue index, the clock, and the tokens drawn so far. -/
structure EsWorld where
  docs : List Stored := []
  nextSeqNo : ℕ := 0
  primaryTerm : ℕ := 1
  clock : Time := 0
  issued : List String := []
  deriving DecidableEq

namespace EsWorld

/-- The document with a given id. -/
def doc (w : EsWorld) (id : ℕ) : Option EsSource := (w.docs[id]?).map Stored.source

/-- Overwrite a document, giving it a new version. -/
def put (w : EsWorld) (id : ℕ) (d : EsSource) : EsWorld :=
  { w with docs := w.docs.set id ⟨d, w.nextSeqNo, w.primaryTerm⟩, nextSeqNo := w.nextSeqNo + 1 }

/-- Add a document. -/
def add (w : EsWorld) (d : EsSource) : EsWorld :=
  { w with docs := w.docs ++ [⟨d, w.nextSeqNo, w.primaryTerm⟩], nextSeqNo := w.nextSeqNo + 1 }

/-- Record a drawn token. -/
def issue (w : EsWorld) (t : String) : EsWorld := { w with issued := t :: w.issued }

/-- Let time pass. -/
def pass (d : ℕ) (w : EsWorld) : EsWorld := { w with clock := w.clock + d }

/-- The ids of the documents that match a query. -/
def matching (w : EsWorld) (q : Query) : List ℕ :=
  (List.range w.docs.length).filter fun id => (w.doc id).any q.matches

/-- The hits with the given ids. -/
def hits (w : EsWorld) (ids : List ℕ) : List Hit :=
  ids.filterMap fun id => (w.doc id).map (Hit.mk id)

end EsWorld

/-- The answer that the world chooses to a request: the request is carried out, a search returning
its hits in the order of `ids` and `randomUUID` returning `t`; or it is rejected; or it is carried
out and the response is lost. -/
inductive EsChoice
  | ok
  | hits (ids : List ℕ)
  | uuid (t : String)
  | rejected (e : JsError)
  | lost (e : JsError)
  deriving DecidableEq

/-- A request that is carried out. -/
def accept : (o : EsOp) → EsChoice → EsWorld → Option (EsAns o × EsWorld)
  | .search q, .hits ids, w =>
    if ids.Perm (w.matching q) ∧ (w.hits ids).Pairwise (fun a b => q.sort.le a.source b.source) then
      some (.ok ((w.hits ids).take q.size), w)
    else none
  | .count q, .ok, w => some (.ok (w.matching q).length, w)
  | .get id, .ok, w =>
    match w.docs[id]? with
    | none => some (.error ⟨"not_found", some 404⟩, w)
    | some s => some (.ok (some ⟨id, s.source, s.seqNo, s.primaryTerm⟩), w)
  | .update id script, .ok, w =>
    match w.docs[id]? with
    | none => some (.error ⟨"document_missing_exception", some 404⟩, w)
    | some s =>
      match script.apply s.source with
      | none => some (.ok .noop, w)
      | some d => some (.ok .updated, w.put id d)
  | .updateDoc id doc ifSeqNo ifPrimaryTerm, .ok, w =>
    match w.docs[id]? with
    | none => some (.error ⟨"document_missing_exception", some 404⟩, w)
    | some s =>
      if s.seqNo = ifSeqNo ∧ s.primaryTerm = ifPrimaryTerm then
        if doc.merge s.source = s.source then some (.ok .noop, w)
        else some (.ok .updated, w.put id (doc.merge s.source))
      else some (.error ⟨"version_conflict_engine_exception", some 409⟩, w)
  | .index d, .ok, w => some (.ok w.docs.length, w.add d)
  | .now, .ok, w => some (w.clock, w)
  | .randomUUID, .uuid t, w => if t ∈ w.issued then none else some (t, w.issue t)
  | _, _, _ => none

/-- The answer that reports an error; the clock and the token source do not fail. -/
def failed : (o : EsOp) → JsError → Option (EsAns o)
  | .search _, e => some (.error e)
  | .count _, e => some (.error e)
  | .get _, e => some (.error e)
  | .update _ _, e => some (.error e)
  | .updateDoc _ _ _ _, e => some (.error e)
  | .index _, e => some (.error e)
  | .now, _ => none
  | .randomUUID, _ => none

/-- **Serving a request.** A rejection is never a 404, which reports a missing document, and the
loss of a response carries neither a 404 nor a 409. -/
def serve (o : EsOp) (ch : EsChoice) (w : EsWorld) : Option (EsAns o × EsWorld) :=
  match ch with
  | .rejected e => if isStatusCode e 404 then none else (failed o e).map (·, w)
  | .lost e =>
    if isStatusCode e 404 || isStatusCode e 409 then none
    else (accept o .ok w).bind fun a => (failed o e).map (·, a.2)
  | ch => accept o ch w

/-! ## What a request can do -/

/-- All that a served request can do to the index. -/
inductive Effect (w : EsWorld) : EsOp → EsWorld → Prop
  | none (o : EsOp) : Effect w o w
  | token (t : String) (fresh : t ∉ w.issued) : Effect w .randomUUID (w.issue t)
  | script {id : ℕ} {script : Script} {s : Stored} {d : EsSource} (found : w.docs[id]? = some s)
      (applied : script.apply s.source = some d) : Effect w (.update id script) (w.put id d)
  | doc {id : ℕ} {doc : PartialDoc} {s : Stored} (found : w.docs[id]? = some s)
      (changed : doc.merge s.source ≠ s.source) :
      Effect w (.updateDoc id doc s.seqNo s.primaryTerm) (w.put id (doc.merge s.source))
  | index (d : EsSource) : Effect w (.index d) (w.add d)

theorem accept_effect {o : EsOp} {ch : EsChoice} {w w' : EsWorld} {r : EsAns o}
    (h : accept o ch w = some (r, w')) : Effect w o w' := by
  unfold accept at h
  split at h
  · split at h <;> simp only [Option.some.injEq, Prod.mk.injEq, reduceCtorEq] at h
    obtain ⟨-, rfl⟩ := h; exact .none _
  · obtain ⟨-, rfl⟩ := Prod.mk.inj (Option.some.inj h); exact .none _
  · split at h <;> obtain ⟨-, rfl⟩ := Prod.mk.inj (Option.some.inj h) <;> exact .none _
  · split at h
    · obtain ⟨-, rfl⟩ := Prod.mk.inj (Option.some.inj h); exact .none _
    · rename_i hs
      split at h <;> obtain ⟨-, rfl⟩ := Prod.mk.inj (Option.some.inj h)
      · exact .none _
      · exact .script hs (by assumption)
  · split at h
    · obtain ⟨-, rfl⟩ := Prod.mk.inj (Option.some.inj h); exact .none _
    · rename_i hs
      split at h
      · rename_i hv
        obtain ⟨rfl, rfl⟩ := hv
        split at h <;> obtain ⟨-, rfl⟩ := Prod.mk.inj (Option.some.inj h)
        · exact .none _
        · exact .doc hs (by assumption)
      · obtain ⟨-, rfl⟩ := Prod.mk.inj (Option.some.inj h); exact .none _
  · obtain ⟨-, rfl⟩ := Prod.mk.inj (Option.some.inj h); exact .index _
  · obtain ⟨-, rfl⟩ := Prod.mk.inj (Option.some.inj h); exact .none _
  · split at h <;> simp only [Option.some.injEq, Prod.mk.injEq, reduceCtorEq] at h
    obtain ⟨-, rfl⟩ := h; exact .token _ (by assumption)
  · simp at h

/-- A served request is carried out, or rejected, or carried out with its response lost. -/
theorem serve_cases {o : EsOp} {ch : EsChoice} {w w' : EsWorld} {r : EsAns o}
    (h : serve o ch w = some (r, w')) :
    (∃ ch', accept o ch' w = some (r, w')) ∨
      (∃ e, failed o e = some r ∧ isStatusCode e 404 = false ∧ w' = w) ∨
      ∃ e r', failed o e = some r ∧ isStatusCode e 404 = false ∧ isStatusCode e 409 = false ∧
        accept o .ok w = some (r', w') := by
  unfold serve at h
  split at h
  · rename_i e
    split at h
    · simp at h
    · rename_i h404
      obtain ⟨a, ha, hb⟩ := Option.map_eq_some_iff.mp h
      obtain ⟨rfl, rfl⟩ := Prod.mk.inj hb
      exact .inr (.inl ⟨e, ha, by simpa using h404, rfl⟩)
  · rename_i e
    split at h
    · simp at h
    · rename_i hc
      obtain ⟨⟨r', u⟩, ha, hb⟩ := Option.bind_eq_some_iff.mp h
      obtain ⟨a, hf, ha'⟩ := Option.map_eq_some_iff.mp hb
      obtain ⟨rfl, rfl⟩ := Prod.mk.inj ha'
      simp only [Bool.or_eq_true, not_or, Bool.not_eq_true] at hc
      exact .inr (.inr ⟨e, r', hf, hc.1, hc.2, ha⟩)
  · exact .inl ⟨ch, h⟩

/-- **All that a served request can do to the index**, whether its response arrives or not. -/
theorem serve_effect {o : EsOp} {ch : EsChoice} {w w' : EsWorld} {r : EsAns o}
    (h : serve o ch w = some (r, w')) : Effect w o w' := by
  rcases serve_cases h with ⟨ch', h⟩ | ⟨-, -, -, rfl⟩ | ⟨-, r', -, -, -, h⟩
  · exact accept_effect h
  · exact .none _
  · exact accept_effect h

/-! ## Pages of hits -/

namespace EsWorld

variable {w : EsWorld} {ids : List ℕ}

/-- The hits with given ids, in their order. -/
theorem hits_map_id : (w.hits ids).map Hit.id = ids.filter fun id => (w.doc id).isSome := by
  induction ids with
  | nil => rfl
  | cons id ids ih =>
    cases hd : w.doc id with
    | none =>
      rw [List.filter_cons_of_neg (by simp [hd]), ← ih, hits, hits,
        List.filterMap_cons_none (by simp [hd])]
    | some d =>
      rw [List.filter_cons_of_pos (by simp [hd]), ← ih, hits, hits,
        List.filterMap_cons_some (b := ⟨id, d⟩) (by simp [hd])]
      rfl

theorem mem_hits {hit : Hit} : hit ∈ w.hits ids ↔ hit.id ∈ ids ∧ w.doc hit.id = some hit.source := by
  obtain ⟨i, d⟩ := hit
  rw [hits, List.mem_filterMap]
  constructor
  · rintro ⟨id, hid, hd⟩
    obtain ⟨d', hd', heq⟩ := Option.map_eq_some_iff.mp hd
    cases heq
    exact ⟨hid, hd'⟩
  · rintro ⟨hid, hd⟩
    exact ⟨i, hid, by rw [hd]; rfl⟩

/-- The ids of the documents that match a query. -/
theorem mem_matching {q : Query} {id : ℕ} : id ∈ w.matching q ↔ (w.doc id).any q.matches := by
  rw [matching, List.mem_filter, List.mem_range]
  refine and_iff_right_of_imp fun h => ?_
  by_contra hge
  rw [doc, List.getElem?_eq_none (by omega)] at h
  cases h

/-- A page names distinct entries. -/
theorem nodup_page {q : Query} {n : ℕ} (h : ids.Perm (w.matching q)) :
    (((w.hits ids).take n).map Hit.id).Nodup := by
  have hall : ((w.hits ids).map Hit.id).Nodup := by
    rw [hits_map_id]
    exact (h.nodup_iff.mpr (List.nodup_range.filter _)).filter _
  exact hall.sublist ((List.take_sublist _ _).map _)

end EsWorld

/-! ## What an answer says -/

section Answers

variable {ch : EsChoice} {w w' : EsWorld} {id : ℕ}

/-- A found document is the stored one, with its version. -/
theorem serve_get_found {g : GetResult} (h : serve (.get id) ch w = some (.ok (some g), w')) :
    w' = w ∧ ∃ s, w.docs[id]? = some s ∧ g = ⟨id, s.source, s.seqNo, s.primaryTerm⟩ := by
  rcases serve_cases h with ⟨ch', h⟩ | ⟨e, hf, -⟩ | ⟨e, r', hf, -⟩
  · cases ch' <;> simp only [accept, reduceCtorEq] at h
    cases hs : w.docs[id]? with
    | none => rw [hs] at h; simp at h
    | some s =>
      rw [hs] at h
      simp only [Option.some.injEq, Prod.mk.injEq, Except.ok.injEq] at h
      exact ⟨h.2.symm, s, rfl, h.1.symm⟩
  · simp [failed] at hf
  · simp [failed] at hf

/-- An answered search returns a page of the matching documents. -/
theorem serve_search_ok {q : Query} {hits : List Hit}
    (h : serve (.search q) ch w = some (.ok hits, w')) :
    w' = w ∧ ∃ ids : List ℕ, ids.Perm (w.matching q) ∧ hits = (w.hits ids).take q.size := by
  rcases serve_cases h with ⟨ch', h⟩ | ⟨e, hf, -⟩ | ⟨e, r', hf, -⟩
  · cases ch' with
    | hits ids =>
      simp only [accept, Option.ite_none_right_eq_some, Option.some.injEq, Prod.mk.injEq,
        Except.ok.injEq] at h
      obtain ⟨⟨hperm, -⟩, hhits, hw⟩ := h
      exact ⟨hw.symm, ids, hperm, hhits.symm⟩
    | _ => simp [accept] at h
  · simp [failed] at hf
  · simp [failed] at hf

/-- A search without hits has no matching document. -/
theorem serve_search_nil {q : Query} (h : serve (.search q) ch w = some (.ok [], w'))
    (hsize : 0 < q.size) {d : EsSource} (hd : w.doc id = some d) : q.matches d = false := by
  obtain ⟨-, ids, hperm, hnil⟩ := serve_search_ok h
  by_contra hm
  have hmatch : id ∈ w.matching q := by
    rw [EsWorld.mem_matching, hd]
    simpa using hm
  have hhit : (⟨id, d⟩ : Hit) ∈ w.hits ids := EsWorld.mem_hits.mpr ⟨hperm.mem_iff.mpr hmatch, hd⟩
  rcases List.take_eq_nil_iff.mp hnil.symm with hz | hz
  · omega
  · rw [hz] at hhit
    cases hhit

/-- An answered update names a stored document and reports whether the script wrote. -/
theorem serve_update_ok {script : Script} {res : UpdateResult}
    (h : serve (.update id script) ch w = some (.ok res, w')) :
    ∃ s, w.docs[id]? = some s ∧ ((res = .noop ∧ script.apply s.source = none ∧ w' = w) ∨
      ∃ d, res = .updated ∧ script.apply s.source = some d ∧ w' = w.put id d) := by
  rcases serve_cases h with ⟨ch', h⟩ | ⟨e, hf, -⟩ | ⟨e, r', hf, -⟩
  · cases ch' <;> simp only [accept, reduceCtorEq] at h
    cases hs : w.docs[id]? with
    | none => rw [hs] at h; simp at h
    | some s =>
      rw [hs] at h
      refine ⟨s, rfl, ?_⟩
      cases ha : script.apply s.source with
      | none =>
        simp only [ha, Option.some.injEq, Prod.mk.injEq, Except.ok.injEq] at h
        exact .inl ⟨h.1.symm, rfl, h.2.symm⟩
      | some d =>
        simp only [ha, Option.some.injEq, Prod.mk.injEq, Except.ok.injEq] at h
        exact .inr ⟨d, h.1.symm, rfl, h.2.symm⟩
  · simp [failed] at hf
  · simp [failed] at hf

/-- An answered compare-and-set found the version that it names. -/
theorem serve_updateDoc_ok {doc : PartialDoc} {n p : ℕ} {res : UpdateResult}
    (h : serve (.updateDoc id doc n p) ch w = some (.ok res, w')) :
    ∃ s, w.docs[id]? = some s ∧ s.seqNo = n ∧
      w' = if doc.merge s.source = s.source then w else w.put id (doc.merge s.source) := by
  rcases serve_cases h with ⟨ch', h⟩ | ⟨e, hf, -⟩ | ⟨e, r', hf, -⟩
  · cases ch' <;> simp only [accept, reduceCtorEq] at h
    cases hs : w.docs[id]? with
    | none => rw [hs] at h; simp at h
    | some s =>
      rw [hs] at h
      simp only at h
      split at h
      · rename_i hv
        refine ⟨s, rfl, hv.1, ?_⟩
        split at h <;> simp_all only [Option.some.injEq, Prod.mk.injEq, if_true, if_false]
      · simp at h
  · simp [failed] at hf
  · simp [failed] at hf

/-- A compare-and-set that reports a version conflict has written nothing. -/
theorem serve_updateDoc_conflict {doc : PartialDoc} {n p : ℕ} {e : JsError}
    (h : serve (.updateDoc id doc n p) ch w = some (.error e, w')) (h409 : isStatusCode e 409 = true) :
    w' = w := by
  rcases serve_cases h with ⟨ch', h⟩ | ⟨-, -, -, rfl⟩ | ⟨e', r', hf, -, hne, -⟩
  · cases ch' <;> simp only [accept, reduceCtorEq] at h
    split at h
    · simp only [Option.some.injEq, Prod.mk.injEq] at h; exact h.2.symm
    · split at h
      · split at h <;> simp at h
      · simp only [Option.some.injEq, Prod.mk.injEq] at h; exact h.2.symm
  · rfl
  · simp only [failed, Option.some.injEq, Except.error.injEq] at hf
    rw [hf, h409] at hne
    simp at hne

/-- A drawn token has not been drawn before. -/
theorem serve_randomUUID {t : String} (h : serve .randomUUID ch w = some (t, w')) :
    t ∉ w.issued ∧ w' = w.issue t := by
  rcases serve_cases h with ⟨ch', h⟩ | ⟨e, hf, -⟩ | ⟨e, r', hf, -⟩
  · cases ch' <;> simp only [accept, reduceCtorEq] at h
    split at h
    · simp at h
    · simp only [Option.some.injEq, Prod.mk.injEq] at h
      obtain ⟨rfl, rfl⟩ := h
      exact ⟨by assumption, rfl⟩
  · simp [failed] at hf
  · simp [failed] at hf

end Answers

/-- A request that only reads. -/
def EsOp.reads : EsOp → Bool
  | .search _ | .count _ | .get _ | .now => true
  | _ => false

theorem Effect.eq_of_reads {w w' : EsWorld} {o : EsOp} (h : Effect w o w') (ho : o.reads = true) :
    w' = w := by
  cases h <;> first | rfl | simp [EsOp.reads] at ho

end Benchmarker
