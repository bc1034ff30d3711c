import Benchmarker.Queue.Fence

/-!
# The tokens that claims return

`adoptEntry` returns the token that it drew. `dequeue` returns the entry that it reads back after
its claiming update, and another call may have given the entry a new token in between: then
`dequeue` hands out a token that is not its own.

* `DequeuesOwn`, `TokensExclusive`: what a claim should return.
* **`adopt_during_dequeue`**: a run in which a `dequeue` and an `adoptEntry` return one token.
* `undisturbed`, **`tokens_exclusive`**: no token is returned twice, and every `dequeue` returns its
  own, along every run in which no request changes the token of an entry that a `dequeue` has
  claimed and not read back yet.
-/

namespace Benchmarker

open Async Async.Prog Async.System EsWorld

/-- The token that a finished claim has returned. -/
def returnedToken : QueueThread → Option String
  | ⟨.dequeue, _, .ret (.ok (some entry))⟩ => entry.leaseToken
  | ⟨.adoptEntry _, _, .ret (.ok t)⟩ => t
  | _ => none

/-- The event installed the token `t` on the entry `id`, for a `dequeue`. -/
def installs (id : ℕ) (t : String) : EsEvent → Bool
  | ⟨.update id' (.dequeue _ t'), .ok .updated, _, _⟩ => id' == id && t' == t
  | _ => false

/-- A successful `dequeue` has returned the entry with the token that it installed there. -/
def returnedOwn : QueueThread → Bool
  | ⟨.dequeue, past, .ret (.ok (some entry))⟩ =>
    past.any fun e => entry.leaseToken.any fun t => installs entry.id t e
  | _ => true

/-- Every successful `dequeue` has returned the entry with the token that it installed there. -/
def DequeuesOwn (cfg : QueueCfg) : Prop := ∀ th ∈ cfg.threads, returnedOwn th = true

/-- No token has been returned by two claims. -/
def TokensExclusive (cfg : QueueCfg) : Prop :=
  ∀ (i j : ℕ) (a b : QueueThread) (t : String), cfg.threads[i]? = some a → cfg.threads[j]? = some b →
    returnedToken a = some t → returnedToken b = some t → i = j

/-- An entry is queued; a `dequeue` claims it with `"a"`, and before it reads the entry back an
`adoptEntry` gives the entry `"b"`. -/
def adoptDuringDequeue : List (Move QueueCall EsChoice ℕ) :=
  [.invoke (.enqueue "m" .user none none none), .serve 0 (.hits []), .serve 0 .ok, .serve 0 .ok,
    .invoke .dequeue, .serve 1 (.hits [0]), .serve 1 .ok, .serve 1 (.uuid "a"), .serve 1 .ok,
    .invoke (.adoptEntry 0), .serve 2 .ok, .serve 2 (.uuid "b"), .serve 2 .ok, .serve 1 .ok]

/-- **One token, returned twice**, and not by the call that installed it. -/
theorem adopt_during_dequeue : ∃ cfg,
    queueSystem.run (fun _ _ => true) adoptDuringDequeue ⟨{}, []⟩ = some cfg ∧
      ¬DequeuesOwn cfg ∧ ¬TokensExclusive cfg := by
  have hrun : ((queueSystem.run (fun _ _ => true) adoptDuringDequeue ⟨{}, []⟩).map fun cfg =>
      (cfg.threads.map returnedToken, cfg.threads.map returnedOwn)) =
        some ([none, some "b", some "b"], [true, false, true]) := by decide +kernel
  obtain ⟨cfg, hcfg, hval⟩ := Option.map_eq_some_iff.mp hrun
  obtain ⟨htok, hown⟩ := Prod.mk.inj hval
  refine ⟨cfg, hcfg, fun h => ?_, fun h => ?_⟩
  · have hmem : false ∈ cfg.threads.map returnedOwn := by rw [hown]; simp
    obtain ⟨th, hth, hf⟩ := List.mem_map.mp hmem
    rw [h th hth] at hf
    cases hf
  · have hget : ∀ i, (cfg.threads[i]?).map returnedToken = [none, some "b", some "b"][i]? :=
      fun i => by rw [← List.getElem?_map, htok]
    obtain ⟨a, ha, ha'⟩ := Option.map_eq_some_iff.mp (hget 1)
    obtain ⟨b, hb, hb'⟩ := Option.map_eq_some_iff.mp (hget 2)
    cases h 1 2 a b "b" ha hb ha' hb'

/-! ## Undisturbed claims -/

/-- The entry that a `dequeue` has claimed and not read back yet. -/
def rereads (th : QueueThread) : Option ℕ :=
  match th.past.getLast? with
  | some ⟨.update id (.dequeue _ _), .ok .updated, _, _⟩ => some id
  | _ => none

/-- The lease token of an entry. -/
def leaseOf (w : EsWorld) (id : ℕ) : Option String := (w.doc id).bind EsSource.leaseToken

/-- The move changes the token of no entry that a `dequeue` has claimed and not read back yet. -/
def undisturbed (cfg : QueueCfg) (m : Move QueueCall EsChoice ℕ) : Bool :=
  (queueSystem.move cfg m).all fun cfg' => cfg.threads.all fun th =>
    (rereads th).all fun id => leaseOf cfg'.world id == leaseOf cfg.world id

/-- The history ends with the claiming update of a `dequeue`, carried out, of the entry `id` with
the token `t` that the call drew. -/
def Claimed (past : List EsEvent) (id : ℕ) (t : String) : Prop :=
  ∃ es now pre post, past = es ++ [⟨.update id (.dequeue now t), .ok .updated, pre, post⟩] ∧
    EndsWithDraw es t

/-- **The history of a successful `dequeue`**: it ends with the claim and the read of one entry. -/
theorem runs_dequeue {past : List EsEvent} {entry : QueueEntry}
    (h : dequeue.run.Runs past (.ok (some entry))) : ∃ fs id t g pre post,
      past = fs ++ [⟨.get id, .ok (some g), pre, post⟩] ∧ Claimed fs id t ∧
        entry = toEntry g.id g.source := by
  unfold dequeue at h
  obtain ⟨es₁, _, hits, rfl, -, h₁⟩ := runs_ok_bind.mp h
  cases hhit : hits.head? with
  | none => rw [hhit] at h₁; simp at h₁
  | some hit =>
    rw [hhit] at h₁
    obtain ⟨es₂, _, now, rfl, -, h₂⟩ := runs_ok_bind.mp h₁
    obtain ⟨es₃, _, t, rfl, ht, h₃⟩ := runs_ok_bind.mp h₂
    obtain ⟨_, _, result, rfl, hu, h₄⟩ := runs_ok_bind.mp h₃
    obtain ⟨pre, post, rfl⟩ := runs_request.mp hu
    split at h₄
    · simp at h₄
    · rename_i hres
      have hupd : result = .updated := by cases result <;> simp_all
      subst hupd
      obtain ⟨_, _, got, rfl, hg, h₅⟩ := runs_ok_bind.mp h₄
      obtain ⟨pre', post', rfl⟩ := runs_request.mp hg
      cases got with
      | none => simp at h₅
      | some g =>
        obtain ⟨rfl, hentry⟩ := runs_throws_pure.mp h₅
        refine ⟨es₁ ++ es₂ ++ es₃ ++ [_], hit.id, t, g, pre', post', by simp,
          ⟨es₁ ++ es₂ ++ es₃, now, pre, post, rfl, endsWithDraw_of_runs ht⟩, ?_⟩
        exact (Option.some.inj (Except.ok.inj hentry)).symm

/-- **The history of a successful `adoptEntry`**: it has drawn the token that it returns. -/
theorem runs_adoptEntry {past : List EsEvent} {id : ℕ} {t : String}
    (h : (adoptEntry id).run.Runs past (.ok (some t))) : ∃ e ∈ past, drewToken t e = true := by
  unfold adoptEntry at h
  obtain ⟨es₁, es₂, now, rfl, -, h⟩ := runs_ok_bind.mp h
  obtain ⟨es₂, es₃, t', rfl, ht, h⟩ := runs_ok_bind.mp h
  obtain ⟨es₃, es₄, result, rfl, -, h⟩ := runs_ok_bind.mp h
  obtain ⟨-, hret⟩ := runs_throws_pure.mp h
  obtain ⟨pre, post, rfl⟩ := runs_randomUUID.mp ht
  have ht' : t' = t := by
    have hsome := Except.ok.inj hret
    split at hsome
    · cases hsome
    · exact Option.some.inj hsome
  exact ⟨⟨.randomUUID, t', pre, post⟩, by simp, by simp [drewToken, ht']⟩

theorem rereads_of_claimed {th : QueueThread} {id : ℕ} {t : String} (h : Claimed th.past id t) :
    rereads th = some id := by
  obtain ⟨es, now, pre, post, hpast, -⟩ := h
  simp [rereads, hpast]

theorem leaseOf_of_docs {w : EsWorld} {id : ℕ} {s : Stored} (h : w.docs[id]? = some s) :
    leaseOf w id = s.source.leaseToken := by
  rw [leaseOf, doc_of_docs h]; rfl

/-- A carried out claim leaves the entry with its token. -/
theorem leaseOf_of_claim {w w' : EsWorld} {ch : EsChoice} {id : ℕ} {now : Time} {t : String}
    (h : serve (.update id (.dequeue now t)) ch w = some (.ok .updated, w')) :
    leaseOf w' id = some t := by
  obtain ⟨s, hs, ⟨hno, -⟩ | ⟨d, -, happ, rfl⟩⟩ := serve_update_ok h
  · cases hno
  · have hput : (w.put id d).docs[id]? = some ⟨d, w.nextSeqNo, w.primaryTerm⟩ := by
      rw [docs_put_getElem? id hs, if_pos rfl]
    rw [leaseOf_of_docs hput]
    simp only [Script.apply, Option.ite_none_right_eq_some, Option.some.injEq] at happ
    obtain ⟨-, rfl⟩ := happ
    rfl

/-- What undisturbed runs keep: a claimed entry has its token until it is read back, and it is read
back with its token. -/
structure ClaimsKept (cfg : QueueCfg) : Prop where
  held : ∀ th ∈ cfg.threads, ∀ id t, Claimed th.past id t → leaseOf cfg.world id = some t
  read : ∀ th ∈ cfg.threads, ∀ fs id t g pre post,
    th.past = fs ++ [⟨.get id, .ok (some g), pre, post⟩] → Claimed fs id t →
      g.id = id ∧ g.source.leaseToken = some t

section Undisturbed

variable {w₀ : EsWorld} {cfg cfg' : QueueCfg} {m : Move QueueCall EsChoice ℕ}

theorem leaseOf_undisturbed (hok : undisturbed cfg m = true) (hm : queueSystem.move cfg m = some cfg')
    {th : QueueThread} (hth : th ∈ cfg.threads) {id : ℕ} {t : String} (hc : Claimed th.past id t) :
    leaseOf cfg'.world id = leaseOf cfg.world id := by
  simp only [undisturbed, hm, Option.all_some, List.all_eq_true] at hok
  have := hok th hth
  rw [rereads_of_claimed hc] at this
  simpa using this

theorem claimsKept_move (hok : undisturbed cfg m = true) (hm : queueSystem.move cfg m = some cfg')
    (hk : ClaimsKept cfg) : ClaimsKept cfg' := by
  constructor
  · intro th hth id t hc
    rcases mem_threads_move hm hth with hold | ⟨c, rfl⟩ | ⟨c, past, o, k, r, ch, hold, hsv, rfl⟩
    · rw [leaseOf_undisturbed hok hm hold hc, hk.held th hold id t hc]
    · obtain ⟨es, now, pre, post, hpast, -⟩ := hc
      simp [System.fresh] at hpast
    · obtain ⟨es, now, pre, post, hpast, -⟩ := hc
      obtain ⟨rfl, he⟩ := List.append_inj' hpast rfl
      cases he
      exact leaseOf_of_claim hsv
  · intro th hth fs id t g pre post hpast hc
    rcases mem_threads_move hm hth with hold | ⟨c, rfl⟩ | ⟨c, past, o, k, r, ch, hold, hsv, rfl⟩
    · exact hk.read th hold fs id t g pre post hpast hc
    · simp [System.fresh] at hpast
    · obtain ⟨rfl, he⟩ := List.append_inj' hpast rfl
      cases he
      obtain ⟨-, s, hs, rfl⟩ := serve_get_found hsv
      exact ⟨rfl, by rw [← leaseOf_of_docs hs, hk.held _ hold id t hc]⟩

theorem claimsKept_reach (h : queueSystem.Reach (fun cfg m => undisturbed cfg m = true) w₀ cfg) :
    ClaimsKept cfg := by
  induction h with
  | init => exact ⟨by simp, by simp⟩
  | move m _ hok hm ih => exact claimsKept_move hok hm ih

/-- The call has drawn the token. -/
def hasDrawn (t : String) (th : QueueThread) : Bool := th.past.any (drewToken t)

theorem hasDrawn_snoc {c : QueueCall} {past : List EsEvent} {t : String} {e : EsEvent}
    {p q : Prog EsAns (QueueRet c)} :
    hasDrawn t ⟨c, past ++ [e], p⟩ = (hasDrawn t ⟨c, past, q⟩ || drewToken t e) := by
  simp [hasDrawn]

/-- Every token is drawn by at most one call. -/
theorem drew_once {ok : QueueCfg → Move QueueCall EsChoice ℕ → Prop} (h : queueSystem.Reach ok w₀ cfg)
    (t : String) : cfg.threads.countP (hasDrawn t) ≤ 1 := by
  refine (h.le_one_of_fresh (fun w => t ∈ w.issued)
    (fun cfg => cfg.threads.countP (hasDrawn t)) (by simp) ?_).1
  intro cfg m cfg' _ _ hm
  cases m with
  | invoke c =>
    obtain ⟨-, rfl⟩ := move_invoke.mp hm
    exact .inl ⟨by simp [System.fresh, hasDrawn], id⟩
  | pass d =>
    obtain rfl := move_pass.mp hm
    exact .inl ⟨le_rfl, id⟩
  | serve i ch =>
    obtain ⟨c, past, o, k, r, w', hi, hsv, rfl⟩ := move_serve.mp hm
    have hset := countP_set_add (hasDrawn t) hi (b := ⟨c, past ++ [⟨o, r, cfg.world, w'⟩], k r⟩)
    rw [hasDrawn_snoc (q := .await o k)] at hset
    have hforks : queueSystem.forks c o = [] := rfl
    simp only [hforks, List.map_nil, List.append_nil]
    by_cases hdrew : drewToken t ⟨o, r, cfg.world, w'⟩ = true
    · cases o <;> first | cases hdrew | skip
      obtain ⟨hfresh, rfl⟩ := serve_randomUUID hsv
      obtain rfl : r = t := by simpa [drewToken] using hdrew
      refine .inr ⟨?_, hfresh, List.mem_cons_self⟩
      split at hset <;> split at hset <;> omega
    · simp only [hdrew, Bool.or_false] at hset
      exact .inl ⟨by omega, fun ht => (serve_effect hsv).issued_subset ht⟩

/-- Along undisturbed runs a claim returns a token that it drew itself, on the entry it claimed. -/
theorem drew_of_returned (h : queueSystem.Reach (fun cfg m => undisturbed cfg m = true) w₀ cfg)
    {th : QueueThread} (hth : th ∈ cfg.threads) {t : String} (ht : returnedToken th = some t) :
    hasDrawn t th = true := by
  unfold returnedToken at ht
  split at ht
  · rename_i past entry
    obtain ⟨fs, id, t', g, pre, post, rfl, hc, rfl⟩ := runs_dequeue (h.after _ hth)
    obtain ⟨-, hlease⟩ := (claimsKept_reach h).read _ hth fs id t' g pre post rfl hc
    obtain ⟨es, now, u, v, rfl, gs, x, y, rfl⟩ := hc
    obtain rfl : t' = t := by
      have : g.source.leaseToken = some t := ht
      exact Option.some.inj (hlease.symm.trans this)
    simp [hasDrawn, drewToken]
  · obtain ⟨e, he, hd⟩ := runs_adoptEntry (ht ▸ h.after _ hth)
    exact List.any_eq_true.mpr ⟨e, he, hd⟩
  · cases ht

/-- **The tokens that claims return**, along every run in which no request changes the token of an
entry between the claiming update of a `dequeue` and the read that follows it: a `dequeue` returns
the token that it installed, and no token is returned by two claims. -/
theorem tokens_exclusive (h : queueSystem.Reach (fun cfg m => undisturbed cfg m = true) w₀ cfg) :
    DequeuesOwn cfg ∧ TokensExclusive cfg := by
  constructor
  · intro th hth
    unfold returnedOwn
    split
    · rename_i past entry
      obtain ⟨fs, id, t, g, pre, post, rfl, hc, rfl⟩ := runs_dequeue (h.after _ hth)
      obtain ⟨rfl, hlease⟩ := (claimsKept_reach h).read _ hth fs id t g pre post rfl hc
      obtain ⟨es, now, u, v, rfl, -⟩ := hc
      refine List.any_eq_true.mpr ⟨⟨.update g.id (.dequeue now t), .ok .updated, u, v⟩, by simp, ?_⟩
      simp [toEntry, hlease, installs]
    · rfl
  · intro i j a b t ha hb hta htb
    exact index_eq_of_countP_le_one (drew_once h t) ha hb
      (drew_of_returned h (List.mem_of_getElem? ha) hta)
      (drew_of_returned h (List.mem_of_getElem? hb) htb)

/-- The same claims as in `adoptDuringDequeue`, with the read before the takeover. -/
def adoptAfterDequeue : List (Move QueueCall EsChoice ℕ) :=
  [.invoke (.enqueue "m" .user none none none), .serve 0 (.hits []), .serve 0 .ok, .serve 0 .ok,
    .invoke .dequeue, .serve 1 (.hits [0]), .serve 1 .ok, .serve 1 (.uuid "a"), .serve 1 .ok,
    .serve 1 .ok, .invoke (.adoptEntry 0), .serve 2 .ok, .serve 2 (.uuid "b"), .serve 2 .ok]

theorem adopt_after_dequeue : ∃ cfg, queueSystem.run undisturbed adoptAfterDequeue ⟨{}, []⟩ = some cfg ∧
    cfg.threads.map returnedToken = [none, some "a", some "b"] ∧
    DequeuesOwn cfg ∧ TokensExclusive cfg := by
  have hrun : ((queueSystem.run undisturbed adoptAfterDequeue ⟨{}, []⟩).map fun cfg =>
      cfg.threads.map returnedToken) = some [none, some "a", some "b"] := by decide +kernel
  obtain ⟨cfg, hcfg, htok⟩ := Option.map_eq_some_iff.mp hrun
  exact ⟨cfg, hcfg, htok, tokens_exclusive (reach_of_run hcfg)⟩

end Undisturbed

end Benchmarker
