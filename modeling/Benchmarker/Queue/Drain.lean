import Benchmarker.Queue.Fence

/-!
# A queue that is drained

A consumer calls `dequeue` until it returns `null`, and nothing else changes the index meanwhile: it is given the
pending entries, each once and claimed, by priority and then by the time of the request.

* `First`, `Claims`: what one `dequeue` should do. **`dequeue_spec`**: what it does.
* `Drains`, **`drains_sorted`**: the whole run.
-/

namespace Benchmarker

open Async Async.Prog Async.System EsWorld

/-- A request is served, at whatever choice of the world. -/
def EsStep (o : EsOp) (w : EsWorld) (r : EsAns o) (w' : EsWorld) : Prop := ∃ ch, serve o ch w = some (r, w')

/-- The pending entries. -/
def pendingIds (w : EsWorld) : List ℕ := w.matching (pendingQuery 1)

/-- The entry is pending, and none that is comes before it. -/
def First (w : EsWorld) (id : ℕ) : Prop :=
  ∃ d, w.doc id = some d ∧ d.status = .pending ∧
    ∀ id' d', w.doc id' = some d' → d'.status = .pending → HitOrder.priority.le d d' = true

/-- The document of an entry that a `dequeue` has claimed. -/
def claimedDoc (now : Time) (token : String) (d : EsSource) : EsSource :=
  { d with status := .deploying, startedAt := some now, heartbeatAt := some now, leaseToken := some token }

/-- The entry was pending, and it is returned and stored as claimed; the other entries stay. -/
def Claims (w w' : EsWorld) (entry : QueueEntry) : Prop :=
  ∃ d now t, w.doc entry.id = some d ∧ d.status = .pending ∧ entry = toEntry entry.id (claimedDoc now t d) ∧
    w'.doc entry.id = some (claimedDoc now t d) ∧ ∀ id, id ≠ entry.id → w'.doc id = w.doc id

/-- `dequeue` is called until it returns `null`. Time passes between the calls. -/
inductive Drains : EsWorld → List QueueEntry → EsWorld → Prop
  | done {w w' : EsWorld} {es : List EsEvent} (h : dequeue.run.Runs es (.ok none)) (hes : Chain EsStep w es w') :
      Drains w [] w'
  | next {w u w' : EsWorld} {es : List EsEvent} {entry : QueueEntry} {entries : List QueueEntry} (t : ℕ)
      (h : dequeue.run.Runs es (.ok (some entry))) (hes : Chain EsStep w es u) (hrest : Drains (u.pass t) entries w') :
      Drains w (entry :: entries) w'

section Drain

variable {w w' u : EsWorld} {es : List EsEvent} {ch : EsChoice} {id : ℕ} {d : EsSource} {q : Query} {hits : List Hit}
variable {entry : QueueEntry} {entries : List QueueEntry} {n : ℕ}

theorem matches_pendingQuery : (pendingQuery n).matches d = decide (d.status = .pending) := by
  simp [Query.matches, pendingQuery]

theorem mem_pendingIds : id ∈ pendingIds w ↔ ∃ d, w.doc id = some d ∧ d.status = .pending := by
  rw [pendingIds, mem_matching]
  cases w.doc id <;> simp [matches_pendingQuery]

theorem pendingIds_of_docs (h : w'.docs = w.docs) : pendingIds w' = pendingIds w := by
  unfold pendingIds matching doc
  rw [h]

theorem nodup_pendingIds : (pendingIds w).Nodup := List.nodup_range.filter _

theorem le_priority_refl : HitOrder.priority.le d d = true := by simp [HitOrder.le]

/-- The hits of a search come in its order. -/
theorem serve_search_sorted (h : serve (.search q) ch w = some (.ok hits, w')) :
    w' = w ∧ ∃ ids : List ℕ, ids.Perm (w.matching q) ∧
      (w.hits ids).Pairwise (fun a b => q.sort.le a.source b.source) ∧ hits = (w.hits ids).take q.size := by
  rcases serve_cases h with ⟨ch', h⟩ | ⟨e, hf, -⟩ | ⟨e, r', hf, -⟩
  · cases ch' with
    | hits ids =>
      simp only [accept, Option.ite_none_right_eq_some, Option.some.injEq, Prod.mk.injEq, Except.ok.injEq] at h
      obtain ⟨⟨hperm, hsorted⟩, hhits, hw⟩ := h
      exact ⟨hw.symm, ids, hperm, hsorted, hhits.symm⟩
    | _ => simp [accept] at h
  · simp [failed] at hf
  · simp [failed] at hf

/-- **The first hit of the search of `dequeue`.** -/
theorem first_of_search {hit : Hit} (h : serve (.search (pendingQuery 1)) ch w = some (.ok hits, w'))
    (hhit : hits.head? = some hit) : First w hit.id ∧ w.doc hit.id = some hit.source := by
  obtain ⟨-, ids, hperm, hsorted, rfl⟩ := serve_search_sorted h
  cases hall : w.hits ids with
  | nil => rw [hall] at hhit; cases hhit
  | cons first rest =>
    rw [hall] at hhit hsorted
    obtain rfl : first = hit := Option.some.inj hhit
    have hfirst : first ∈ w.hits ids := hall ▸ List.mem_cons_self
    obtain ⟨hid, hdoc⟩ := mem_hits.mp hfirst
    obtain ⟨d, hd, hpending⟩ := mem_pendingIds.mp (hperm.mem_iff.mp hid)
    obtain rfl := Option.some.inj (hdoc.symm.trans hd)
    refine ⟨⟨first.source, hdoc, hpending, fun id' d' hd' hpending' => ?_⟩, hdoc⟩
    have hmem : (⟨id', d'⟩ : Hit) ∈ first :: rest :=
      hall ▸ mem_hits.mpr ⟨hperm.mem_iff.mpr (mem_pendingIds.mpr ⟨d', hd', hpending'⟩), hd'⟩
    rcases List.mem_cons.mp hmem with heq | hmem
    · rw [← heq]
      exact le_priority_refl
    · exact (List.pairwise_cons.mp hsorted).1 _ hmem

theorem docs_of_serve_now {t : Time} (h : serve .now ch w = some (t, w')) : w'.docs = w.docs := by
  rw [(serve_effect h).eq_of_reads rfl]

/-- The first request of a history that is not disturbed. -/
theorem chain_request {o : EsOp} {r : EsAns o} {pre post : EsWorld}
    (h : Chain EsStep w (⟨o, r, pre, post⟩ :: es) w') :
    ∃ ch, serve o ch w = some (r, post) ∧ Chain EsStep post es w' := by
  obtain ⟨rfl, ⟨ch, hsv⟩, hes⟩ := h
  exact ⟨ch, hsv, hes⟩

/-- The claiming update and the read that follows it. -/
theorem claims_of_requests {v : EsWorld} {ch₁ ch₂ : EsChoice} {now : Time} {t : String} {g : GetResult}
    (hdoc : w.doc id = some d) (hpending : d.status = .pending) (hdocs : u.docs = w.docs)
    (hupdate : serve (.update id (.dequeue now t)) ch₁ u = some (.ok .updated, v))
    (hget : serve (.get id) ch₂ v = some (.ok (some g), w')) : g.id = id ∧ Claims w w' (toEntry g.id g.source) := by
  have hu : u.doc id = some d := (doc_eq_of_docs hdocs).trans hdoc
  have happlied : (Script.dequeue now t).apply d = some (claimedDoc now t d) := if_pos hpending
  obtain ⟨s, hs, hcases⟩ := serve_update_ok hupdate
  obtain rfl : s.source = d := Option.some.inj ((doc_of_docs hs).symm.trans hu)
  rw [happlied] at hcases
  obtain ⟨hno, -⟩ | ⟨d', -, hd', rfl⟩ := hcases
  · cases hno
  obtain rfl := Option.some.inj hd'
  have hput : ∀ id', (u.put id (claimedDoc now t s.source)).doc id' =
      if id' = id then some (claimedDoc now t s.source) else u.doc id' := doc_put hu
  obtain ⟨rfl, s', hs', rfl⟩ := serve_get_found hget
  have hsource : s'.source = claimedDoc now t s.source :=
    Option.some.inj ((doc_of_docs hs').symm.trans ((hput id).trans (if_pos rfl)))
  refine ⟨rfl, s.source, now, t, hdoc, hpending, ?_, (hput id).trans (if_pos rfl), fun id' hne => ?_⟩
  · show toEntry id s'.source = _
    rw [hsource]
    rfl
  · rw [hput, if_neg (show id' ≠ id from hne), doc_eq_of_docs hdocs]

/-- **One `dequeue`** claims the first pending entry, and returns `null` when there is none. -/
theorem dequeue_spec {out : Option QueueEntry} (h : dequeue.run.Runs es (.ok out)) (hes : Chain EsStep w es w') :
    match out with
    | none => pendingIds w = [] ∧ w'.docs = w.docs
    | some entry => First w entry.id ∧ Claims w w' entry := by
  unfold dequeue at h
  obtain ⟨es₁, es₂, hits, rfl, hsearch, h₁⟩ := runs_ok_bind.mp h
  obtain ⟨pre, post, rfl⟩ := runs_request.mp hsearch
  obtain ⟨rfl, ⟨ch, hsv⟩, hes⟩ := hes
  dsimp only at hsv hes
  obtain ⟨rfl, -⟩ := serve_search_sorted hsv
  cases hhit : hits.head? with
  | none =>
    rw [hhit] at h₁
    obtain ⟨rfl, hout⟩ := runs_throws_pure.mp h₁
    obtain rfl := Except.ok.inj hout
    obtain rfl : post = w' := hes
    refine ⟨List.eq_nil_iff_forall_not_mem.mpr fun id hid => ?_, rfl⟩
    obtain ⟨d, hd, hpending⟩ := mem_pendingIds.mp hid
    rw [List.head?_eq_none_iff.mp hhit] at hsv
    have hno := serve_search_nil hsv Nat.one_pos hd
    rw [matches_pendingQuery, decide_eq_false_iff_not] at hno
    exact hno hpending
  | some hit =>
    rw [hhit] at h₁
    obtain ⟨hfirst, hdoc⟩ := first_of_search hsv hhit
    obtain ⟨_, _, now, rfl, hn, h₂⟩ := runs_ok_bind.mp h₁
    obtain ⟨_, w₁, rfl⟩ := runs_dateNow.mp hn
    obtain ⟨_, hnow, hes₁⟩ := chain_request hes
    obtain ⟨_, _, t, rfl, ht, h₃⟩ := runs_ok_bind.mp h₂
    obtain ⟨_, w₂, rfl⟩ := runs_randomUUID.mp ht
    obtain ⟨_, huuid, hes₂⟩ := chain_request hes₁
    obtain ⟨_, _, result, rfl, hu, h₄⟩ := runs_ok_bind.mp h₃
    obtain ⟨_, w₃, rfl⟩ := runs_request.mp hu
    obtain ⟨_, hupdate, hes₃⟩ := chain_request hes₂
    have hdocs : w₂.docs = post.docs := by
      have hissue : w₂.docs = w₁.docs := by rw [(serve_randomUUID huuid).2]; rfl
      exact hissue.trans (docs_of_serve_now hnow)
    obtain ⟨d, hd, hpending, hle⟩ := hfirst
    cases result with
    | noop =>
      -- the entry that the search has found is pending when it is claimed
      obtain ⟨s, hs, ⟨-, hno, -⟩ | ⟨_, hres, -⟩⟩ := serve_update_ok hupdate
      · have hdoc' : w₂.doc hit.id = some d := (doc_eq_of_docs hdocs).trans hd
        obtain rfl := Option.some.inj ((doc_of_docs hs).symm.trans hdoc')
        exact nomatch hno.symm.trans (if_pos hpending)
      · cases hres
    | updated =>
      obtain ⟨_, _, got, rfl, hg, h₅⟩ := runs_ok_bind.mp h₄
      obtain ⟨_, w₄, rfl⟩ := runs_request.mp hg
      obtain ⟨_, hget, hes₄⟩ := chain_request hes₃
      cases got with
      | none => simp at h₅
      | some g =>
        obtain ⟨rfl, hout⟩ := runs_throws_pure.mp h₅
        obtain rfl := Except.ok.inj hout
        obtain rfl : w₄ = w' := hes₄
        obtain ⟨hid, hclaims⟩ := claims_of_requests hd hpending hdocs hupdate hget
        exact ⟨⟨d, hid ▸ hd, hpending, hle⟩, hclaims⟩

/-- The order in which entries are handed out. -/
def Outranks (a b : QueueEntry) : Prop :=
  b.priority < a.priority ∨ a.priority = b.priority ∧ a.requestedAt ≤ b.requestedAt

/-- The entry was pending, and it is returned as claimed. -/
def ClaimedFrom (w : EsWorld) (entry : QueueEntry) : Prop :=
  ∃ d now t, w.doc entry.id = some d ∧ d.status = .pending ∧ entry = toEntry entry.id (claimedDoc now t d)

theorem Claims.mem_pendingIds_iff (h : Claims w w' entry) : id ∈ pendingIds w' ↔ id ≠ entry.id ∧ id ∈ pendingIds w := by
  obtain ⟨d, now, t, -, -, -, hclaimed, hframe⟩ := h
  rw [mem_pendingIds, mem_pendingIds]
  by_cases hid : id = entry.id
  · subst hid
    rw [hclaimed]
    refine iff_of_false ?_ fun h => h.1 rfl
    rintro ⟨d', hd', hpending⟩
    rw [← Option.some.inj hd'] at hpending
    cases hpending
  · rw [hframe id hid, and_iff_right hid]

/-- The first pending entry comes before those that are still pending after its claim. -/
theorem outranks_of_first {other : QueueEntry} (hfirst : First w entry.id) (hclaims : Claims w w' entry)
    (hother : ClaimedFrom w' other) : Outranks entry other ∧ ClaimedFrom w other := by
  obtain ⟨d', now', t', hd', hpending', hentry'⟩ := hother
  have hmem : other.id ≠ entry.id ∧ other.id ∈ pendingIds w :=
    hclaims.mem_pendingIds_iff.mp (mem_pendingIds.mpr ⟨d', hd', hpending'⟩)
  obtain ⟨d, now, t, hd, -, hentry, -, hframe⟩ := hclaims
  rw [hframe _ hmem.1] at hd'
  refine ⟨?_, d', now', t', hd', hpending', hentry'⟩
  obtain ⟨d₀, hd₀, -, hle⟩ := hfirst
  obtain rfl := Option.some.inj (hd₀.symm.trans hd)
  have horder := hle other.id d' hd' hpending'
  rw [hentry, hentry']
  show d'.priority < d₀.priority ∨ d₀.priority = d'.priority ∧ d₀.requestedAt ≤ d'.requestedAt
  simpa [HitOrder.le] using horder

/-- **A queue that is drained** is given out in order, and every pending entry once. -/
theorem drains_sorted (h : Drains w entries w') :
    (entries.map QueueEntry.id).Perm (pendingIds w) ∧ entries.Pairwise Outranks ∧ (∀ entry ∈ entries, ClaimedFrom w entry) ∧
      pendingIds w' = [] := by
  induction h with
  | done h hes =>
    obtain ⟨hnone, hdocs⟩ := dequeue_spec h hes
    refine ⟨by rw [hnone]; exact .nil, .nil, List.forall_mem_nil _, ?_⟩
    rw [pendingIds_of_docs hdocs, hnone]
  | @next w u w' es entry entries t h hes hrest ih =>
    obtain ⟨hfirst, hclaims⟩ := dequeue_spec h hes
    obtain ⟨hperm, hsorted, hfrom, hempty⟩ := ih
    have hother : ∀ other ∈ entries, Outranks entry other ∧ ClaimedFrom w other := fun other hmem =>
      outranks_of_first hfirst hclaims (hfrom other hmem)
    have hpending : pendingIds (u.pass t) = pendingIds u := rfl
    rw [hpending] at hperm
    have hclaimed : ClaimedFrom w entry := by
      obtain ⟨d, now, t, hd, hpending, hentry, -⟩ := hclaims
      exact ⟨d, now, t, hd, hpending, hentry⟩
    refine ⟨?_, List.pairwise_cons.mpr ⟨fun other hmem => (hother other hmem).1, hsorted⟩,
      List.forall_mem_cons.mpr ⟨hclaimed, fun other hmem => (hother other hmem).2⟩, hempty⟩
    have hnodup : (entry.id :: entries.map QueueEntry.id).Nodup := by
      refine List.nodup_cons.mpr ⟨fun hmem => ?_, hperm.nodup_iff.mpr nodup_pendingIds⟩
      exact (hclaims.mem_pendingIds_iff.mp (hperm.mem_iff.mp hmem)).1 rfl
    refine (List.perm_ext_iff_of_nodup hnodup nodup_pendingIds).mpr fun id => ?_
    rw [List.mem_cons, hperm.mem_iff, hclaims.mem_pendingIds_iff]
    refine ⟨fun hid => ?_, fun hid => or_iff_not_imp_left.mpr fun hne => ⟨hne, hid⟩⟩
    rcases hid with rfl | ⟨-, hid⟩
    · obtain ⟨d, -, -, hd, hpending, -⟩ := hclaimed
      exact mem_pendingIds.mpr ⟨d, hd, hpending⟩
    · exact hid

end Drain

def scanned : EsSource := enqueueDoc "a" .discovery none none none 3

def requested : EsSource := enqueueDoc "b" .user none none none 5

/-- An entry of the scanner, and one that a user has queued later. -/
def twoPending : EsWorld where
  docs := [⟨scanned, 0, 1⟩, ⟨requested, 1, 1⟩]
  nextSeqNo := 2

/-- One `dequeue` along the choices: what it returns and what it leaves. -/
def dequeueAlong (choices : List EsChoice) (w : EsWorld) : Option (Except JsError (Option QueueEntry) × EsWorld) :=
  (dequeue.run.play serve choices w).map Prod.snd

theorem exists_of_dequeueAlong {choices : List EsChoice} {w w' : EsWorld} {out : Option QueueEntry}
    (h : dequeueAlong choices w = some (.ok out, w')) : ∃ es, dequeue.run.Runs es (.ok out) ∧ Chain EsStep w es w' := by
  obtain ⟨⟨es, r, u⟩, hplay, heq⟩ := Option.map_eq_some_iff.mp h
  cases heq
  exact ⟨es, runs_play hplay⟩

/-- The user's entry is given out first. -/
theorem twoPending_sorted : ∃ entries w', Drains twoPending entries w' ∧ entries.map QueueEntry.id = [1, 0] ∧
    (entries.map QueueEntry.id).Perm (pendingIds twoPending) ∧ entries.Pairwise Outranks ∧
      (∀ entry ∈ entries, ClaimedFrom twoPending entry) ∧ pendingIds w' = [] := by
  let w₁ := (twoPending.issue "s").put 1 (claimedDoc 0 "s" requested)
  let w₂ := ((w₁.pass 7).issue "t").put 0 (claimedDoc 7 "t" scanned)
  have h₁ : dequeueAlong [.hits [1, 0], .ok, .uuid "s", .ok, .ok] twoPending =
      some (.ok (some (toEntry 1 (claimedDoc 0 "s" requested))), w₁) := rfl
  have h₂ : dequeueAlong [.hits [0], .ok, .uuid "t", .ok, .ok] (w₁.pass 7) =
      some (.ok (some (toEntry 0 (claimedDoc 7 "t" scanned))), w₂) := rfl
  have h₃ : dequeueAlong [.hits []] (w₂.pass 1) = some (.ok none, w₂.pass 1) := rfl
  obtain ⟨es₁, hruns₁, hes₁⟩ := exists_of_dequeueAlong h₁
  obtain ⟨es₂, hruns₂, hes₂⟩ := exists_of_dequeueAlong h₂
  obtain ⟨es₃, hruns₃, hes₃⟩ := exists_of_dequeueAlong h₃
  have hdrains := Drains.next 7 hruns₁ hes₁ (.next 1 hruns₂ hes₂ (.done hruns₃ hes₃))
  exact ⟨_, _, hdrains, rfl, drains_sorted hdrains⟩

end Benchmarker
