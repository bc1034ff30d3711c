import Benchmarker.Queue.Fence

/-!
# Reclaiming stale entries

`reclaimStaleEntries` searches the in-flight entries, asks the clock, and resets the stale ones one
request at a time. The script of the reset asks the status of the entry, and not its heartbeat.

* `lastSign`, `ReclaimsStale`: a reset entry has given no sign of life for `staleAfterMs`.
  **`heartbeat_lost`**: two runs that reset a live entry.
* `Resets`, **`resets_reclaim`**: what the call has read when it sends a reset.
* `unrefreshed`, **`reclaims_stale`**: the property holds in every run in which a reset finds the
  entry with the heartbeat that the search returned.
-/

namespace Benchmarker

open Async Async.Prog Async.System EsWorld

/-! ## The property -/

/-- `heartbeat_at`, or `started_at` of an entry without a heartbeat. -/
def EsSource.lastSign (d : EsSource) : Option Time := d.heartbeatAt.or d.startedAt

/-- The event resets the in-flight entry `id`, whose document was `d`, to `pending`. -/
def ResetsTo (e : EsEvent) (id : ℕ) (d : EsSource) : Prop :=
  e.pre.doc id = some d ∧ d.status.inFlight = true ∧
    ∃ d', e.post.doc id = some d' ∧ d'.status = .pending

/-- An entry that `reclaimStaleEntries` resets has given no sign of life for `staleAfterMs` at the
instant of the reset. -/
def ReclaimsStale (cfg : QueueCfg) : Prop :=
  ∀ th ∈ cfg.threads, ∀ staleAfterMs excludeIds, th.call = .reclaimStaleEntries staleAfterMs excludeIds →
    ∀ e ∈ th.past, ∀ id d, ResetsTo e id d →
      ∀ t, d.lastSign = some t → (staleAfterMs : ℤ) ≤ (e.pre.clock : ℤ) - t

/-- The call resets an entry that gave a sign of life less than `staleAfterMs` ago. -/
def resetsLive (th : QueueThread) : Bool :=
  match th.call with
  | .reclaimStaleEntries staleAfterMs _ => th.past.any fun e =>
      match e.op with
      | .update id .reclaimEntry => (e.pre.doc id).any fun d => d.status.inFlight &&
          (e.post.doc id).any (fun d' => d'.status = .pending) &&
          d.lastSign.any fun (t : Time) => (e.pre.clock : ℤ) - t < staleAfterMs
      | _ => false
  | _ => false

theorem not_reclaimsStale {cfg : QueueCfg} (h : cfg.threads.any resetsLive = true) :
    ¬ReclaimsStale cfg := by
  intro hstale
  obtain ⟨th, hth, hlive⟩ := List.any_eq_true.mp h
  unfold resetsLive at hlive
  split at hlive
  · rename_i ms ids hcall
    obtain ⟨e, he, htest⟩ := List.any_eq_true.mp hlive
    split at htest
    · rename_i id hop
      obtain ⟨d, hd, htest⟩ := (Option.any_eq_true _ _).mp htest
      simp only [Bool.and_eq_true] at htest
      obtain ⟨⟨hfly, hpost⟩, hsign⟩ := htest
      obtain ⟨d', hd', hpending⟩ := (Option.any_eq_true _ _).mp hpost
      obtain ⟨t, ht, hlt⟩ := (Option.any_eq_true _ _).mp hsign
      have hle := hstale th hth ms ids hcall e he id d
        ⟨hd, hfly, d', hd', of_decide_eq_true hpending⟩ t ht
      have := of_decide_eq_true hlt
      omega
    · cases htest
  · cases hlive

/-- Entry 0 is claimed with the token `"a"`, and its heartbeat turns stale. -/
def claimedLongAgo : List (Move QueueCall EsChoice ℕ) :=
  [.invoke (.enqueue "m" .user none none none), .serve 0 (.hits []), .serve 0 .ok, .serve 0 .ok,
    .invoke .dequeue, .serve 1 (.hits [0]), .serve 1 .ok, .serve 1 (.uuid "a"), .serve 1 .ok,
    .serve 1 .ok, .pass 120000]

/-- A reclaim has searched the entries when the owner's heartbeat lands. -/
def heartbeatDuringReclaim : List (Move QueueCall EsChoice ℕ) :=
  claimedLongAgo ++ [.invoke (.reclaimStaleEntries 120000 []), .serve 2 (.hits [0]), .serve 2 .ok,
    .invoke (.heartbeat 0 "a"), .serve 3 .ok, .serve 3 .ok, .serve 2 .ok]

/-- A reclaim has searched the entries when another one resets the entry and a third daemon claims it. -/
def claimDuringReclaim : List (Move QueueCall EsChoice ℕ) :=
  claimedLongAgo ++ [.invoke (.reclaimStaleEntries 120000 []), .serve 2 (.hits [0]), .serve 2 .ok,
    .invoke (.reclaimStaleEntries 120000 []), .serve 3 (.hits [0]), .serve 3 .ok, .serve 3 .ok,
    .invoke .dequeue, .serve 4 (.hits [0]), .serve 4 .ok, .serve 4 (.uuid "b"), .serve 4 .ok,
    .serve 4 .ok, .serve 2 .ok]

/-- **A live owner loses its entry**: one whose heartbeat has just been answered, and one that has just
claimed the entry. -/
theorem heartbeat_lost :
    (∃ cfg, queueSystem.run (fun _ _ => true) heartbeatDuringReclaim ⟨{}, []⟩ = some cfg ∧
      ¬ReclaimsStale cfg) ∧
    ∃ cfg, queueSystem.run (fun _ _ => true) claimDuringReclaim ⟨{}, []⟩ = some cfg ∧
      ¬ReclaimsStale cfg := by
  have hbeat : (queueSystem.run (fun _ _ => true) heartbeatDuringReclaim ⟨{}, []⟩).any
      (fun cfg => cfg.threads.any resetsLive) = true := by decide +kernel
  have hclaim : (queueSystem.run (fun _ _ => true) claimDuringReclaim ⟨{}, []⟩).any
      (fun cfg => cfg.threads.any resetsLive) = true := by decide +kernel
  obtain ⟨cfg, hcfg, hlive⟩ := (Option.any_eq_true _ _).mp hbeat
  obtain ⟨cfg', hcfg', hlive'⟩ := (Option.any_eq_true _ _).mp hclaim
  exact ⟨⟨cfg, hcfg, not_reclaimsStale hlive⟩, cfg', hcfg', not_reclaimsStale hlive'⟩

/-! ## What a reset relies on -/

/-- The history begins with a search and a look at the clock by which a hit for the entry `id` was
stale. -/
def FoundStale (staleAfterMs : ℕ) (past : List EsEvent) (id : ℕ) : Prop :=
  ∃ q hits u v now pre post rest,
    past = ⟨.search q, .ok hits, u, v⟩ :: ⟨.now, now, pre, post⟩ :: rest ∧
      ∃ hit ∈ hits, hit.id = id ∧ isStale staleAfterMs now (toEntry hit.id hit.source) = true

/-- `reclaimStaleEntries` writes nothing but resets of entries that it has found stale. -/
def Resets (c : QueueCall) (past : List EsEvent) (o : EsOp) : Prop :=
  ∀ staleAfterMs excludeIds, c = .reclaimStaleEntries staleAfterMs excludeIds →
    o.reads = true ∨ ∃ id, o = .update id .reclaimEntry ∧ FoundStale staleAfterMs past id

section Resets

variable {staleAfterMs : ℕ} {excludeIds : List ℕ} {past : List EsEvent} {id : ℕ} {now : Time}

theorem FoundStale.append {es : List EsEvent} (h : FoundStale staleAfterMs past id) :
    FoundStale staleAfterMs (past ++ es) id := by
  obtain ⟨q, hits, u, v, now, pre, post, rest, rfl, hhit⟩ := h
  exact ⟨q, hits, u, v, now, pre, post, rest ++ es, rfl, hhit⟩

/-- The loop resets the stale entries of its list. -/
theorem resets_reclaimEach {entries : List QueueEntry} {n : ℕ}
    (hentries : ∀ entry ∈ entries, isStale staleAfterMs now entry = true →
      FoundStale staleAfterMs past entry.id) :
    (reclaimEach staleAfterMs excludeIds now entries n).run.Issues
      (Resets (.reclaimStaleEntries staleAfterMs excludeIds)) past := by
  induction entries generalizing past n with
  | nil => exact issues_throws_pure _
  | cons entry entries ih =>
    unfold reclaimEach
    split
    · exact ih fun e he => hentries e (List.mem_cons_of_mem _ he)
    · rename_i hskip
      simp only [Bool.or_eq_true, Bool.not_eq_eq_eq_not, Bool.not_true, not_or, Bool.not_eq_false] at hskip
      have hfound := hentries entry List.mem_cons_self hskip.2
      have hreset : (reclaimEntry entry.id).run.Issues
          (Resets (.reclaimStaleEntries staleAfterMs excludeIds)) past := by
        refine Issues.throws_bind' (issues_request fun ms ids hc => ?_) fun _ _ => issues_throws_pure _
        obtain ⟨rfl, -⟩ := QueueCall.reclaimStaleEntries.inj hc
        exact .inr ⟨entry.id, rfl, hfound⟩
      refine hreset.throws_bind fun es applied _ => ?_
      exact ih fun e he hstale => (hentries e (List.mem_cons_of_mem _ he) hstale).append

/-- **`reclaimStaleEntries` resets only what it has found stale.** -/
theorem resets_reclaim (c : QueueCall) : (queueService c).run.Issues (Resets c) [] := by
  cases c with
  | reclaimStaleEntries ms ids =>
    refine Issues.throws_bind (Issues.throws_bind' (issues_request fun _ _ _ => .inl rfl)
      fun _ _ => issues_throws_pure _) fun es entries h₁ => ?_
    refine Issues.throws_bind (issues_lift (issues_request fun _ _ _ => .inl rfl)) fun es' now h₂ => ?_
    obtain ⟨es₁, es₂, hits, rfl, hs, hp⟩ := runs_ok_bind.mp h₁
    obtain ⟨u, v, rfl⟩ := runs_request.mp hs
    obtain ⟨rfl, hent⟩ := runs_throws_pure.mp hp
    obtain ⟨pre, post, rfl⟩ := runs_dateNow.mp h₂
    refine resets_reclaimEach fun entry hentry hstale => ?_
    rw [← Except.ok.inj hent] at hentry
    obtain ⟨hit, hhit, rfl⟩ := List.mem_map.mp hentry
    exact ⟨_, hits, u, v, now, pre, post, [], rfl, hit, hhit, rfl, hstale⟩
  | _ => exact (queueService_sends _ _).mono fun _ _ _ _ _ hc => nomatch hc

end Resets

/-! ## The clock -/

section Clock

variable {ok : QueueCfg → Move QueueCall EsChoice ℕ → Prop} {w₀ w w' : EsWorld} {cfg : QueueCfg}

theorem Effect.clock {o : EsOp} (h : Effect w o w') : w'.clock = w.clock := by
  cases h <;> rfl

/-- The clock does not run back. -/
theorem clock_reach (h : queueSystem.Reach ok w₀ cfg) : ∀ th ∈ cfg.threads,
    th.past.Pairwise (fun e e' => e.post.clock ≤ e'.pre.clock) ∧
      ∀ e ∈ th.past, e.post.clock ≤ cfg.world.clock :=
  h.chain (M := fun w w' => w.clock ≤ w'.clock) (fun _ => le_rfl) Nat.le_trans
    (fun hsv => (serve_effect hsv).clock.ge) fun _ _ => Nat.le_add_right _ _

end Clock

/-! ## Unrefreshed entries -/

/-- The search of the history returned the entry `id` with the same last sign of life as `d`. -/
def searchedAs (past : List EsEvent) (id : ℕ) (d : EsSource) : Bool :=
  match past with
  | ⟨.search _, .ok hits, _, _⟩ :: _ =>
    hits.any fun hit => hit.id = id && hit.source.lastSign = d.lastSign
  | _ => false

/-- The reset of an entry by `reclaimStaleEntries` finds it with the last sign of life that the search
returned, or no longer in flight. -/
def unrefreshed (cfg : QueueCfg) : Move QueueCall EsChoice ℕ → Bool
  | .serve i _ =>
    match cfg.threads[i]? with
    | some ⟨.reclaimStaleEntries _ _, past, .await (.update id .reclaimEntry) _⟩ =>
      (cfg.world.doc id).all fun d => !d.status.inFlight || searchedAs past id d
    | _ => true
  | _ => true

section Unrefreshed

variable {w₀ w w' : EsWorld} {cfg : QueueCfg} {ch : EsChoice} {q : Query} {hits : List Hit}

/-- Every hit is a stored document. -/
theorem serve_search_hit (h : serve (.search q) ch w = some (.ok hits, w')) :
    w' = w ∧ ∀ hit ∈ hits, w.doc hit.id = some hit.source := by
  rcases serve_cases h with ⟨ch', h⟩ | ⟨e, hf, -⟩ | ⟨e, r', hf, -⟩
  · cases ch' with
    | hits ids =>
      simp only [accept, Option.ite_none_right_eq_some, Option.some.injEq, Prod.mk.injEq,
        Except.ok.injEq] at h
      obtain ⟨-, rfl, hw⟩ := h
      refine ⟨hw.symm, fun hit hhit => ?_⟩
      obtain ⟨id, -, hmap⟩ := List.mem_filterMap.mp (List.mem_of_mem_take hhit)
      obtain ⟨d, hd, rfl⟩ := Option.map_eq_some_iff.mp hmap
      exact hd
    | _ => simp [accept] at h
  · simp [failed] at hf
  · simp [failed] at hf

/-- A reset that changes an in-flight entry to `pending` is a request for that entry. -/
theorem eq_of_resetsTo {e : EsEvent} {id id' : ℕ} {d : EsSource} {script : Script}
    (heff : Effect e.pre e.op e.post) (hop : e.op = .update id' script) (h : ResetsTo e id d) :
    id = id' := by
  obtain ⟨hd, hfly, d', hd', hpending⟩ := h
  obtain ⟨o, r, pre, post⟩ := e
  dsimp only at hop hd hd' heff
  subst hop
  cases heff with
  | none =>
    rw [hd] at hd'
    obtain rfl := Option.some.inj hd'
    rw [hpending] at hfly
    cases hfly
  | script hfound happ =>
    by_contra hne
    rw [doc, docs_put_getElem? id hfound, if_neg hne] at hd'
    rw [doc] at hd
    rw [hd] at hd'
    obtain rfl := Option.some.inj hd'
    rw [hpending] at hfly
    cases hfly

/-- What the clock answers. -/
theorem serve_now {t : Time} (h : serve .now ch w = some (t, w')) : t = w.clock ∧ w' = w := by
  rcases serve_cases h with ⟨ch', h⟩ | ⟨e, hf, -⟩ | ⟨e, r', hf, -⟩
  · cases ch' with
    | ok =>
      obtain ⟨ht, hw⟩ := Prod.mk.inj (Option.some.inj h)
      exact ⟨ht.symm, hw.symm⟩
    | _ => simp [accept] at h
  · simp [failed] at hf
  · simp [failed] at hf

/-- An entry that was found stale and has given no sign of life since is stale. -/
theorem stale_of_searchedAs {ok : QueueCfg → Move QueueCall EsChoice ℕ → Prop}
    (h : queueSystem.Reach ok w₀ cfg) {th : QueueThread} (hth : th ∈ cfg.threads)
    {staleAfterMs id : ℕ} {d : EsSource} (hfound : FoundStale staleAfterMs th.past id)
    (hsame : searchedAs th.past id d = true) {t : Time} (ht : d.lastSign = some t) :
    (staleAfterMs : ℤ) ≤ (cfg.world.clock : ℤ) - t := by
  obtain ⟨q, hits, u, v, now, pre, post, rest, hpast, hit, hhit, hid, hstale⟩ := hfound
  have hserved := h.served th hth
  have hclock := (clock_reach h th hth).2
  rw [hpast] at hsame hserved hclock
  obtain ⟨hit', hhit', hsame⟩ := List.any_eq_true.mp hsame
  simp only [Bool.and_eq_true, decide_eq_true_eq] at hsame
  obtain ⟨hid', hsign⟩ := hsame
  -- both hits are the document that the search read
  have hsource : hit.source = hit'.source := by
    obtain ⟨ch₁, hsv₁⟩ := hserved _ List.mem_cons_self
    obtain ⟨-, hdocs⟩ := serve_search_hit hsv₁
    have hdoc := hdocs hit hhit
    rw [hid, ← hid', hdocs hit' hhit'] at hdoc
    exact (Option.some.inj hdoc).symm
  have hnow : now ≤ cfg.world.clock := by
    have hmem : (⟨.now, now, pre, post⟩ : EsEvent) ∈
        (⟨.search q, .ok hits, u, v⟩ : EsEvent) :: ⟨.now, now, pre, post⟩ :: rest :=
      List.mem_cons_of_mem _ List.mem_cons_self
    obtain ⟨ch₂, hsv₂⟩ := hserved _ hmem
    have hle := hclock _ hmem
    obtain ⟨hnow, hpost⟩ := serve_now hsv₂
    rwa [hpost, ← hnow] at hle
  have hlast : (toEntry hit.id hit.source).heartbeatAt.or (toEntry hit.id hit.source).startedAt =
      some t := by
    rw [← ht, ← hsign, ← hsource]
    rfl
  unfold isStale at hstale
  rw [hlast] at hstale
  have hold := of_decide_eq_true hstale
  have hle : (now : ℤ) ≤ cfg.world.clock := Int.ofNat_le.mpr hnow
  omega

/-- **Only stale entries are reclaimed** in every run in which each reset finds the entry with the
heartbeat that the search returned. -/
theorem reclaims_stale (h : queueSystem.Reach (fun cfg m => unrefreshed cfg m = true) w₀ cfg) :
    ReclaimsStale cfg := by
  intro th hth ms ids hcall e he id d hreset t ht
  obtain ⟨cfg₀, i, ch, past, k, hr, hok, hw, hi, hsv⟩ := h.admitted th hth e he
  obtain ⟨c, past', now'⟩ := th
  obtain ⟨o, r, pre, post⟩ := e
  dsimp only at hcall hi hsv hw k ⊢
  subst hcall hw
  have heff := serve_effect hsv
  have hmem := List.mem_of_getElem? hi
  rcases hr.issues resets_reclaim hmem ms ids rfl with hreads | ⟨id', rfl, hfound⟩
  · -- a read resets nothing
    obtain rfl := heff.eq_of_reads hreads
    obtain ⟨hd, hfly, d', hd', hpending⟩ := hreset
    obtain rfl := Option.some.inj (hd.symm.trans hd')
    rw [hpending] at hfly
    cases hfly
  · obtain rfl := eq_of_resetsTo heff rfl hreset
    obtain ⟨hd, hfly, -⟩ := hreset
    dsimp only [unrefreshed] at hok hd
    rw [hi] at hok
    dsimp only at hok
    rw [hd] at hok
    have hsame : searchedAs past id d = true := by simpa [hfly] using hok
    exact stale_of_searchedAs hr hmem hfound hsame ht

/-- The reclaim of an entry whose owner is gone. -/
def reclaimOfAbandoned : List (Move QueueCall EsChoice ℕ) :=
  claimedLongAgo ++ [.invoke (.reclaimStaleEntries 120000 []), .serve 2 (.hits [0]), .serve 2 .ok,
    .serve 2 .ok]

/-- An abandoned entry is reclaimed, and it is stale. -/
theorem abandoned_reclaimed : ∃ cfg,
    queueSystem.run unrefreshed reclaimOfAbandoned ⟨{}, []⟩ = some cfg ∧
      (cfg.world.doc 0).map EsSource.status = some .pending ∧ ReclaimsStale cfg := by
  have hrun : (queueSystem.run unrefreshed reclaimOfAbandoned ⟨{}, []⟩).any (fun cfg =>
      decide ((cfg.world.doc 0).map EsSource.status = some .pending)) = true := by decide +kernel
  obtain ⟨cfg, hcfg, hstatus⟩ := (Option.any_eq_true _ _).mp hrun
  exact ⟨cfg, hcfg, of_decide_eq_true hstatus, reclaims_stale (reach_of_run hcfg)⟩

end Unrefreshed

end Benchmarker
