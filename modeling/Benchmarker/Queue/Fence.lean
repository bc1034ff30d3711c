import Benchmarker.Queue.Sends

/-!
# The fence of the terminal writes

`complete`, `fail` and `cancelActive` read an entry, compare its lease token with the caller's, and
write under the version they read. A token is drawn once and claims at most one entry; a terminal
write consumes it. So along any run the entries that hold a token, the call that has drawn it and
not used it yet, and the terminal writes made under it are together at most one.

* **`read_current`**: an entry whose version is the one that was read is the entry that was read.
* `WroteUnderLease`, `runs_writeTerminalFenced`: what an applied and a refused write have done.
* `stake`, **`stake_le_one`**: the uses of a token.
* **`terminalWrite_fenced`**: the fence, over every run.
-/

namespace Benchmarker

open Async Async.Prog Async.System EsWorld

/-- A configuration of the queue calls. -/
abbrev QueueCfg : Type := Cfg EsAns QueueRet EsWorld

/-- A queue call in progress. -/
abbrev QueueThread : Type := Thread EsAns QueueRet EsWorld

/-! ## Reads under a version -/

section Reads

variable {Call : Type} {Ret : Call → Type} {start : (c : Call) → Prog EsAns (Ret c)}
variable {ok : Cfg EsAns Ret EsWorld → Move Call EsChoice ℕ → Prop} {w₀ w : EsWorld}
variable {cfg : Cfg EsAns Ret EsWorld} {th : Thread EsAns Ret EsWorld} {id : ℕ} {g : GetResult}

/-- **An entry whose version is the one that a thread read is the entry that it read**, in any
world to which the read leads. -/
theorem read_current (h₀ : w₀.Wf) (h : (esSystem start).Reach ok w₀ cfg) (hth : th ∈ cfg.threads)
    {pre post : EsWorld} (hget : (⟨.get id, .ok (some g), pre, post⟩ : EsEvent) ∈ th.past)
    (hl : Later post w) {s : Stored} (hs : w.docs[id]? = some s) (hv : s.seqNo = g.seqNo) :
    s.source = g.source := by
  obtain ⟨ch, hsv⟩ := h.served th hth _ hget
  obtain ⟨cfg₀, hr₀, hpre⟩ := h.visited th hth _ hget
  obtain ⟨hpost, s₀, hs₀, hg⟩ := serve_get_found hsv
  dsimp only at hpost hpre hs₀
  subst hpost hpre
  have : s = s₀ := hl.unwritten (wf_reach h₀ hr₀) hs₀ hs (by rw [hv, hg])
  rw [this, hg]

/-- The form of `read_current` for the present world. -/
theorem read_now (h₀ : w₀.Wf) (h : (esSystem start).Reach ok w₀ cfg) (hth : th ∈ cfg.threads)
    (hg : HasRead th.past id g) {s : Stored} (hs : cfg.world.docs[id]? = some s)
    (hv : s.seqNo = g.seqNo) : s.source = g.source := by
  obtain ⟨pre, post, hmem⟩ := hg
  exact read_current h₀ h hth hmem ((later_reach h th hth).2 _ hmem) hs hv

/-- The form of `read_current` for the world in which a later request of the thread was served. -/
theorem read_then (h₀ : w₀.Wf) (h : (esSystem start).Reach ok w₀ cfg) (hth : th ∈ cfg.threads)
    {fs gs : List EsEvent} {e : EsEvent} (hpast : th.past = fs ++ e :: gs) (hg : HasRead fs id g)
    {s : Stored} (hs : e.pre.docs[id]? = some s) (hv : s.seqNo = g.seqNo) :
    s.source = g.source := by
  obtain ⟨pre, post, hmem⟩ := hg
  have hpair := (later_reach h th hth).1
  rw [hpast, List.pairwise_append] at hpair
  have hget : (⟨.get id, .ok (some g), pre, post⟩ : EsEvent) ∈ th.past := by
    rw [hpast]; exact List.mem_append_left _ hmem
  exact read_current h₀ h hth hget (hpair.2.2 _ hmem e List.mem_cons_self) hs hv

end Reads

theorem wf_empty : ({} : EsWorld).Wf := by intro id s h; simp at h

/-! ## One terminal write -/

/-- The event wrote the terminal status of the call, on a running entry under the caller's lease. -/
def WroteUnderLease (c : TerminalCall) (e : EsEvent) : Prop :=
  ∃ (d : EsSource) (now : Time), e.pre.doc c.id = some d ∧ d.leaseToken = some c.token ∧
    d.status.terminal = false ∧
    e.post = e.pre.put c.id ((terminalDoc c.status c.message now).merge d)

/-- The answer of a compare-and-set that found another version. -/
def Refused (e : EsEvent) : Prop :=
  ∃ (id : ℕ) (doc : PartialDoc) (n p : ℕ) (err : JsError) (pre post : EsWorld),
    e = ⟨.updateDoc id doc n p, .error err, pre, post⟩ ∧ isStatusCode err 409 = true

/-- **The attempts of a terminal write**: the last one was answered when the write reports applied;
otherwise every event is a read or a refused compare-and-set. -/
theorem runs_writeTerminalLoop {id : ℕ} {status : Status} {msg : Option String} {token : String}
    {attempts : ℕ} {es : List EsEvent} {res : TerminalWrite}
    (h : (writeTerminalLoop id status msg token attempts).run.Runs es (.ok res)) :
    (res.applied = true → ∃ fs id' doc n p r pre post,
      es = fs ++ [⟨.updateDoc id' doc n p, .ok r, pre, post⟩]) ∧
    (res.applied = false → ∀ e ∈ es, e.op.reads = true ∨ Refused e) := by
  induction attempts generalizing es with
  | zero =>
    obtain ⟨rfl, hres⟩ := runs_throws_pure.mp h
    obtain rfl := Except.ok.inj hres
    simp
  | succ attempts ih =>
    unfold writeTerminalLoop at h
    obtain ⟨es₁, es₂, r, rfl, h₁, h₂⟩ := runs_ok_bind.mp h
    obtain ⟨pre, post, rfl⟩ := runs_request.mp (runs_attempt.mp h₁)
    -- the exits of the loop body: the read alone, with nothing written
    have hexit : ∀ {reason}, (pure ⟨false, some reason⟩ : EsJs TerminalWrite).run.Runs es₂ (.ok res) →
        (res.applied = true → ∃ fs id' doc n p r' pre' post', ⟨.get id, r, pre, post⟩ :: es₂ =
          fs ++ [⟨.updateDoc id' doc n p, .ok r', pre', post'⟩]) ∧
        (res.applied = false → ∀ e ∈ (⟨.get id, r, pre, post⟩ : EsEvent) :: es₂,
          e.op.reads = true ∨ Refused e) := by
      intro reason hp
      obtain ⟨rfl, hres⟩ := runs_throws_pure.mp hp
      obtain rfl := Except.ok.inj hres
      simp [EsOp.reads]
    split at h₂
    · split at h₂
      · exact hexit h₂
      · simp at h₂
    · exact hexit h₂
    split at h₂
    · exact hexit h₂
    split at h₂
    · exact hexit h₂
    -- the compare-and-set was sent
    obtain ⟨_, fs₂, now, rfl, hn, h₃⟩ := runs_ok_bind.mp h₂
    obtain ⟨pre', post', rfl⟩ := runs_dateNow.mp hn
    obtain ⟨_, gs, u, rfl, hu, h₄⟩ := runs_ok_bind.mp h₃
    obtain ⟨pre'', post'', rfl⟩ := runs_request.mp (runs_attempt.mp hu)
    split at h₄
    · obtain ⟨rfl, hres⟩ := runs_throws_pure.mp h₄
      obtain rfl := Except.ok.inj hres
      exact ⟨fun _ => ⟨[_, _], _, _, _, _, _, pre'', post'', rfl⟩, by simp⟩
    · split at h₄
      · rename_i err h409
        obtain ⟨hyes, hno⟩ := ih h₄
        refine ⟨fun happ => ?_, fun hnot e he => ?_⟩
        · obtain ⟨fs, id', doc, n, p, r', u, v, rfl⟩ := hyes happ
          exact ⟨_ :: _ :: _ :: fs, id', doc, n, p, r', u, v, rfl⟩
        · simp only [List.mem_append, List.mem_singleton] at he
          rcases he with rfl | rfl | rfl | he
          · exact .inl rfl
          · exact .inl rfl
          · exact .inr ⟨_, _, _, _, err, _, _, rfl, h409⟩
          · exact hno hnot e he
      · simp at h₄

section Reports

variable {ok : QueueCfg → Move QueueCall EsChoice ℕ → Prop} {w₀ : EsWorld} {cfg : QueueCfg}
variable {c : TerminalCall} {past fs gs : List EsEvent} {e : EsEvent}

/-- The terminal calls' writes: an event that sent a compare-and-set found the entry running under
the caller's lease, if it was carried out. -/
theorem wroteUnderLease_of_put (h₀ : w₀.Wf) (h : queueSystem.Reach ok w₀ cfg) {th : QueueThread}
    (hth : th ∈ cfg.threads) (hc : th.call = .terminal c) (hpast : th.past = fs ++ e :: gs)
    {id : ℕ} {doc : PartialDoc} {n p : ℕ} (ho : e.op = .updateDoc id doc n p)
    (hw : ∃ s, e.pre.docs[id]? = some s ∧ s.seqNo = n ∧
      e.post = if doc.merge s.source = s.source then e.pre else e.pre.put id (doc.merge s.source)) :
    WroteUnderLease c e := by
  have hs := h.issued (fun c => queueService_sends c []) th hth fs e gs hpast
  rw [hc, ho] at hs
  obtain ⟨c', g, now, hcc, rfl, rfl, rfl, hfound, hlease, hrun⟩ := hs.updateDoc_inv
  obtain rfl := QueueCall.terminal.inj hcc
  obtain ⟨s, hs, hv, hpost⟩ := hw
  have hcur : s.source = g.source := read_then h₀ h hth hpast hfound hs hv
  have hne : (terminalDoc c.status c.message now).merge s.source ≠ s.source := by
    intro heq
    have hst : s.source.status = c.status := by rw [← heq]; rfl
    rw [← hcur, hst, c.status_terminal] at hrun
    cases hrun
  rw [if_neg hne, hcur] at hpost
  exact ⟨g.source, now, by rw [doc_of_docs hs, hcur], hlease, hrun, hpost⟩

/-- **A terminal call that reports `applied`** has written the entry while it ran under the
caller's lease. -/
theorem applied_wrote (h₀ : w₀.Wf) (h : queueSystem.Reach ok w₀ cfg) {res : TerminalWrite}
    (hth : (⟨.terminal c, past, .ret (.ok res)⟩ : QueueThread) ∈ cfg.threads)
    (happ : res.applied = true) : ∃ e ∈ past, WroteUnderLease c e := by
  have hruns : c.body.run.Runs past (.ok res) := h.after _ hth
  rw [c.body_eq] at hruns
  obtain ⟨fs, id, doc, n, p, r, pre, post, rfl⟩ := (runs_writeTerminalLoop hruns).1 happ
  obtain ⟨ch, hsv⟩ := h.served _ hth ⟨.updateDoc id doc n p, .ok r, pre, post⟩ (by simp)
  exact ⟨_, by simp, wroteUnderLease_of_put h₀ h hth rfl rfl rfl (serve_updateDoc_ok hsv)⟩

/-- **A terminal call that reports that nothing was applied** has changed nothing. -/
theorem not_applied_unchanged (h : queueSystem.Reach ok w₀ cfg) {res : TerminalWrite}
    (hth : (⟨.terminal c, past, .ret (.ok res)⟩ : QueueThread) ∈ cfg.threads)
    (hnot : res.applied = false) : ∀ e ∈ past, e.post = e.pre := by
  have hruns : c.body.run.Runs past (.ok res) := h.after _ hth
  rw [c.body_eq] at hruns
  intro e he
  obtain ⟨ch, hsv⟩ := h.served _ hth e he
  rcases (runs_writeTerminalLoop hruns).2 hnot e he with hr | ⟨_, _, _, _, err, pre, post, rfl, h409⟩
  · exact (serve_effect hsv).eq_of_reads hr
  · exact serve_updateDoc_conflict hsv h409

end Reports

/-! ## The uses of a token -/

/-- The entries that hold a token. -/
def holders (t : String) (w : EsWorld) : ℕ :=
  w.docs.countP fun s => s.source.leaseToken == some t

/-- The event drew the token. -/
def drewToken (t : String) : EsEvent → Bool
  | ⟨.randomUUID, t', _, _⟩ => t' == t
  | _ => false

/-- The call has just drawn the token. -/
def hasToken (t : String) (th : QueueThread) : Bool := th.past.getLast?.any (drewToken t)

/-- The event changed the index, in a terminal call under the token. -/
def terminalWrite (t : String) : QueueCall × EsEvent → Bool
  | (.terminal c, e) => c.token == t && decide (e.post ≠ e.pre)
  | _ => false

/-- **The uses of a token**: the entries that hold it, the call that is about to claim with it, and
the terminal writes made under it. -/
def stake (t : String) (cfg : QueueCfg) : ℕ :=
  holders t cfg.world + cfg.threads.countP (hasToken t) + cfg.events.countP (terminalWrite t)

theorem hasToken_of_endsWithDraw {c : QueueCall} {past : List EsEvent} {t : String}
    {p : Prog EsAns (QueueRet c)} (h : EndsWithDraw past t) : hasToken t ⟨c, past, p⟩ = true := by
  obtain ⟨es, pre, post, rfl⟩ := h
  simp [hasToken, drewToken]

theorem hasToken_snoc {c : QueueCall} {past : List EsEvent} {t : String} {e : EsEvent}
    {p : Prog EsAns (QueueRet c)} : hasToken t ⟨c, past ++ [e], p⟩ = drewToken t e := by
  simp [hasToken]

theorem holders_put {w : EsWorld} {id : ℕ} {s : Stored} {d : EsSource} (t : String)
    (h : w.docs[id]? = some s) : holders t (w.put id d) +
      (if s.source.leaseToken = some t then 1 else 0) =
      holders t w + if d.leaseToken = some t then 1 else 0 := by
  have := countP_set_add (fun s : Stored => s.source.leaseToken == some t) h
    (b := ⟨d, w.nextSeqNo, w.primaryTerm⟩)
  simpa [holders, docs_put] using this

theorem holders_add {w : EsWorld} {d : EsSource} (t : String) (h : d.leaseToken = none) :
    holders t (w.add d) = holders t w := by
  simp [holders, docs_add, h]

/-- **A script gives an entry no token but the one that it claims with.** -/
theorem Script.leaseToken_apply {script : Script} {s d : EsSource} (h : script.apply s = some d)
    {t : String} (hd : d.leaseToken = some t) :
    s.leaseToken = some t ∨ script.claims = some t := by
  cases script <;> simp only [Script.apply, Option.ite_none_right_eq_some, Option.some.injEq] at h
  all_goals obtain ⟨-, rfl⟩ := h
  case updateStatus status now msg fence =>
    left
    revert hd
    cases msg <;> simp only [statusMutations] <;> split <;> simp
  all_goals simp_all [Script.claims, progressMutation]

section Stake

variable {ok : QueueCfg → Move QueueCall EsChoice ℕ → Prop} {w₀ w' : EsWorld} {cfg cfg' : QueueCfg}
variable {c : QueueCall} {past : List EsEvent} {o : EsOp}

/-- A served request moves a token only from the call that drew it to an entry, or from an entry to
a terminal write. -/
theorem stake_request (h₀ : w₀.Wf) (h : queueSystem.Reach ok w₀ cfg) {k : EsAns o → Prog EsAns _}
    (hth : (⟨c, past, .await o k⟩ : QueueThread) ∈ cfg.threads) {r : EsAns o}
    (heff : Effect cfg.world o w') (ho : o ≠ .randomUUID) (t : String) :
    holders t w' + (if terminalWrite t (c, ⟨o, r, cfg.world, w'⟩) then 1 else 0) ≤
      holders t cfg.world + if hasToken t ⟨c, past, .await o k⟩ then 1 else 0 := by
  have hs : Sends c past o := h.issues (fun c => queueService_sends c []) hth
  have hsilent : (∀ tc, c ≠ .terminal tc) → terminalWrite t (c, ⟨o, r, cfg.world, w'⟩) = false := by
    intro hc
    cases c <;> first | rfl | exact absurd rfl (hc _)
  cases heff with
  | none =>
    have : terminalWrite t (c, ⟨o, r, cfg.world, cfg.world⟩) = false := by
      cases c <;> simp [terminalWrite]
    simp [this]
  | token => exact absurd rfl ho
  | script hfound happ =>
    rename_i id script s d
    obtain ⟨hc, hclaim⟩ := hs.update_inv
    rw [hsilent hc]
    have hput := holders_put (d := d) t hfound
    have hbound : (if d.leaseToken = some t then 1 else 0) ≤
        (if s.source.leaseToken = some t then 1 else 0) +
          if hasToken t ⟨c, past, .await _ k⟩ then 1 else 0 := by
      by_cases hd : d.leaseToken = some t
      · rcases Script.leaseToken_apply happ hd with hl | hl
        · rw [if_pos hd, if_pos hl]; omega
        · rw [if_pos hd, if_pos (hasToken_of_endsWithDraw (hclaim t hl))]; omega
      · rw [if_neg hd]; omega
    simp only [Bool.false_eq_true, if_false]
    omega
  | doc hfound hne =>
    rename_i id doc s
    obtain ⟨tc, g, now, rfl, rfl, rfl, hv, hread, hlease, -⟩ := hs.updateDoc_inv
    have hput := holders_put (d := (terminalDoc tc.status tc.message now).merge s.source) t hfound
    have hnone : ((terminalDoc tc.status tc.message now).merge s.source).leaseToken = none := rfl
    have hheld : s.source.leaseToken = some tc.token := by
      rw [read_now h₀ h hth hread hfound hv, hlease]
    rw [hnone, hheld] at hput
    have hwrite : (if terminalWrite t (.terminal tc, ⟨_, r, cfg.world, cfg.world.put tc.id
        ((terminalDoc tc.status tc.message now).merge s.source)⟩) then 1 else 0) ≤
          if some tc.token = some t then 1 else 0 := by
      by_cases ht : tc.token = t
      · rw [if_pos (congrArg some ht)]; split <;> omega
      · simp [terminalWrite, ht]
    simp only [reduceCtorEq, if_false] at hput
    omega
  | index d =>
    obtain ⟨_, _, _, _, _, _, rfl, rfl, -⟩ := hs.index_inv
    rw [hsilent nofun, holders_add t rfl]
    simp

theorem stake_move (h₀ : w₀.Wf) (h : queueSystem.Reach ok w₀ cfg) {m : Move QueueCall EsChoice ℕ}
    (hm : queueSystem.move cfg m = some cfg') (t : String) :
    (stake t cfg' ≤ stake t cfg ∧ (t ∈ cfg.world.issued → t ∈ cfg'.world.issued)) ∨
      (stake t cfg' ≤ stake t cfg + 1 ∧ t ∉ cfg.world.issued ∧ t ∈ cfg'.world.issued) := by
  cases m with
  | invoke c =>
    have hev := events_invoke hm
    obtain ⟨-, rfl⟩ := move_invoke.mp hm
    refine .inl ⟨?_, id⟩
    rw [stake, hev]
    simp [stake, System.fresh, hasToken]
  | pass d =>
    have hev := events_pass hm
    obtain rfl := move_pass.mp hm
    exact .inl ⟨by simp only [stake, hev]; rfl, id⟩
  | serve i ch =>
    obtain ⟨c, past, o, k, r, w', hi, hsv, rfl⟩ := move_serve.mp hm
    have hth := List.mem_of_getElem? hi
    have hev := (events_serve (S := queueSystem) hi r w' ⟨o, r, cfg.world, w'⟩ []).countP_eq
      (terminalWrite t)
    have hdraw := countP_set_add (hasToken t) hi (b := ⟨c, past ++ [⟨o, r, cfg.world, w'⟩], k r⟩)
    rw [hasToken_snoc] at hdraw
    rw [List.countP_cons] at hev
    have hforks : queueSystem.forks c o = [] := rfl
    simp only [stake, hforks, List.map_nil, List.append_nil] at hev ⊢
    by_cases ho : o = .randomUUID
    · subst ho
      obtain ⟨hfresh, rfl⟩ := serve_randomUUID hsv
      have hwrite : terminalWrite t (c, ⟨.randomUUID, r, cfg.world, cfg.world.issue r⟩) = false := by
        have hdraws := (h.issues (fun c => queueService_sends c []) hth).draws_of_randomUUID
        cases c <;> first | rfl | simp [QueueCall.draws] at hdraws
      have hholders : holders t (cfg.world.issue r) = holders t cfg.world := rfl
      simp only [hwrite, Bool.false_eq_true, if_false] at hev
      by_cases hrt : r = t
      · subst hrt
        refine .inr ⟨?_, hfresh, List.mem_cons_self⟩
        split at hdraw <;> split at hdraw <;> omega
      · have hnot : drewToken t ⟨.randomUUID, r, cfg.world, cfg.world.issue r⟩ = false := by
          simp [drewToken, hrt]
        simp only [hnot, Bool.false_eq_true, if_false] at hdraw
        exact .inl ⟨by omega, List.mem_cons_of_mem _⟩
    · have hle := stake_request h₀ h hth (r := r) (serve_effect hsv) ho t
      have hnot : drewToken t ⟨o, r, cfg.world, w'⟩ = false := by
        cases o <;> first | rfl | exact absurd rfl ho
      simp only [hnot, Bool.false_eq_true, if_false] at hdraw
      refine .inl ⟨by omega, fun ht => ?_⟩
      exact (serve_effect hsv).issued_subset ht

/-- **A token has at most one use.** -/
theorem stake_le_one (h₀ : w₀.Wf) (hnone : ∀ t, holders t w₀ = 0) (h : queueSystem.Reach ok w₀ cfg)
    (t : String) : stake t cfg ≤ 1 :=
  (h.le_one_of_fresh (fun w => t ∈ w.issued) (stake t) (by simp [stake, hnone, Cfg.events])
    fun hr _ hm => stake_move h₀ hr hm t).1

end Stake

/-! ## The fence -/

/-- **The fence of the terminal writes.** Along every run of queue calls from the empty index: a
terminal call that reports `applied` wrote the entry while the entry carried the caller's token and
was not terminal; a terminal call that does not has changed nothing; and at most one terminal write
is ever made under a token. -/
theorem terminalWrite_fenced {cfg : QueueCfg} (h : queueSystem.Reachable {} cfg) :
    (∀ c past res, (⟨.terminal c, past, .ret (.ok res)⟩ : QueueThread) ∈ cfg.threads →
      (res.applied = true → ∃ e ∈ past, WroteUnderLease c e) ∧
      (res.applied = false → ∀ e ∈ past, e.post = e.pre)) ∧
    ∀ t, cfg.events.countP (terminalWrite t) ≤ 1 := by
  refine ⟨fun c past res hth => ⟨applied_wrote wf_empty h hth, not_applied_unchanged h hth⟩, ?_⟩
  intro t
  have hstake := stake_le_one wf_empty (fun t => rfl) h t
  unfold stake at hstake
  omega

/-- An entry is queued, claimed under `"t"` and completed; a second `complete` under `"t"` is
refused. -/
def completeTwice : List (Move QueueCall EsChoice ℕ) :=
  [.invoke (.enqueue "m" .user none none none), .serve 0 (.hits []), .serve 0 .ok, .serve 0 .ok,
    .invoke .dequeue, .serve 1 (.hits [0]), .serve 1 .ok, .serve 1 (.uuid "t"), .serve 1 .ok,
    .serve 1 .ok, .invoke (.terminal (.complete 0 "t")), .invoke (.terminal (.complete 0 "t")),
    .serve 2 .ok, .serve 3 .ok, .serve 2 .ok, .serve 3 .ok, .serve 2 .ok, .serve 3 .ok, .serve 3 .ok]

/-- The reports of the finished terminal calls. -/
def terminalReports (cfg : QueueCfg) : List TerminalWrite :=
  cfg.threads.filterMap fun
    | ⟨.terminal _, _, .ret (.ok res)⟩ => some res
    | _ => none

theorem completeTwice_fenced : ∃ cfg, queueSystem.run (fun _ _ => true) completeTwice ⟨{}, []⟩ = some cfg ∧
    terminalReports cfg = [⟨true, none⟩, ⟨false, some .leaseMismatch⟩] ∧
    cfg.events.countP (terminalWrite "t") = 1 ∧
    ∀ t, cfg.events.countP (terminalWrite t) ≤ 1 := by
  have hrun : ((queueSystem.run (fun _ _ => true) completeTwice ⟨{}, []⟩).map fun cfg => (terminalReports cfg,
      cfg.events.countP (terminalWrite "t"))) =
        some ([⟨true, none⟩, ⟨false, some .leaseMismatch⟩], 1) := by decide +kernel
  obtain ⟨cfg, hcfg, hval⟩ := Option.map_eq_some_iff.mp hrun
  obtain ⟨hrep, hcount⟩ := Prod.mk.inj hval
  exact ⟨cfg, hcfg, hrep, hcount, (terminalWrite_fenced (reachable_of_run hcfg)).2⟩

end Benchmarker
