import Benchmarker.Lease.Sends

/-!
# Acquiring the lease

A call of `acquire` reads the document, decides, and writes under the condition that the document is
still the one that it has read. Whoever reads the same version competes for one write.

* `SucceedsOn`, **`acquire_success_iff`**: `acquire` succeeds exactly when its write is answered.
* `answered`: no response is lost. `TookOver`, **`tookOver_of_wrote`**: what a successful call replaced.
* `wins`, **`one_winner`**: one version of the document is replaced once.
* **`acquire_exclusive`**.
-/

namespace Benchmarker.GpuVmLease

open Async Async.Prog Async.System

/-! ## Success -/

/-- The body reports success exactly when its write is answered. -/
def SucceedsOn (x : LeaseJs AcquireResult) : Prop := ∀ (es : List LeaseEvent) r, x.run.Runs es r →
  ((∃ a : AcquireResult, r = .ok a ∧ a.success = true) ↔ es.any wrote = true)

section Success

variable {svc : GpuVmLeaseService} {es : List LeaseEvent} {α : Type}

theorem not_wrote_of_quiet {x : LeaseJs α} (hx : x.run.Uses fun o => o.quiet = true)
    {r : Except JsError α} (h : x.run.Runs es r) : es.any wrote = false := by
  refine List.any_eq_false.mpr fun e he hw => ?_
  have hq := hx.events h e he
  unfold wrote at hw
  split at hw
  · cases hq
  · cases hq
  · cases hw

theorem succeedsOn_bind {x : LeaseJs α} {f : α → LeaseJs AcquireResult}
    (hx : x.run.Uses fun o => o.quiet = true) (hf : ∀ a, SucceedsOn (f a)) : SucceedsOn (x >>= f) := by
  intro es r h
  rcases runs_throws_bind.mp h with ⟨es₁, es₂, a, rfl, h₁, h₂⟩ | ⟨e, h₁, rfl⟩
  · rw [List.any_append, not_wrote_of_quiet hx h₁, Bool.false_or]
    exact hf a es₂ r h₂
  · rw [not_wrote_of_quiet hx h₁]
    simp

/-- A body that only reads, and refuses. -/
theorem succeedsOn_refuse {x : LeaseJs AcquireResult} (hx : x.run.Uses fun o => o.quiet = true)
    (hr : ∀ (es : List LeaseEvent) a, x.run.Runs es (.ok a) → a.success = false) : SucceedsOn x := by
  intro es r h
  rw [not_wrote_of_quiet hx h]
  refine iff_of_false ?_ (by decide)
  rintro ⟨a, rfl, ha⟩
  rw [hr es a h] at ha
  cases ha

theorem succeedsOn_refusal {holder : EsLease} : SucceedsOn (refusal svc holder) := by
  refine succeedsOn_refuse quiet_refusal fun es a h => ?_
  obtain ⟨_, _, now, -, -, h₂⟩ := runs_ok_bind.mp h
  obtain ⟨-, he⟩ := runs_throws_pure.mp h₂
  rw [← Except.ok.inj he]

theorem succeedsOn_contended {a : AcquireResult} (ha : a.success = false) : SucceedsOn (pure a) := by
  refine succeedsOn_refuse (uses_throws_pure _) fun es b h => ?_
  obtain ⟨-, he⟩ := runs_throws_pure.mp h
  rw [← Except.ok.inj he]
  exact ha

theorem succeedsOn_refuseAfterConflict : SucceedsOn (refuseAfterConflict svc) := by
  refine succeedsOn_bind quiet_readLease fun current => ?_
  cases current with
  | none => exact succeedsOn_contended rfl
  | some current =>
    refine succeedsOn_bind quiet_shouldRefuseFreshLease fun refuse => ?_
    cases refuse with
    | true => exact succeedsOn_refusal
    | false => exact succeedsOn_contended rfl

/-- The conditional write, and what follows it. -/
theorem succeedsOn_settleWrite {x : LeaseJs Unit} (hx : ∀ {es : List LeaseEvent} {r},
    x.run.Runs es r → ∃ e : LeaseEvent, es = [e] ∧ ((r = .ok ()) ↔ wrote e = true)) :
    SucceedsOn (do
      let outcome ← attempt x
      settleWrite svc outcome) := by
  intro es r h
  rcases runs_throws_bind.mp h with ⟨es₁, es₂, outcome, rfl, h₁, h₂⟩ | ⟨e, h₁, -⟩
  swap; · obtain ⟨_, -, he⟩ := runs_lift.mp h₁; cases he
  obtain ⟨e, rfl, hw⟩ := hx (runs_attempt.mp h₁)
  cases outcome with
  | ok u =>
    rcases runs_throws_bind.mp h₂ with ⟨es₃, es₄, _, rfl, -, h₄⟩ | ⟨e, h₃, -⟩
    · obtain ⟨-, rfl⟩ := runs_throws_pure.mp h₄
      rw [List.any_append, List.any_cons, hw.mp rfl]
      exact iff_of_true ⟨_, rfl, rfl⟩ rfl
    · obtain ⟨_, -, he⟩ := runs_lift.mp h₃
      cases he
  | error err =>
    have hno : wrote e = false := by
      rw [← Bool.not_eq_true, ← hw]
      exact nofun
    rw [List.any_append, List.any_cons, hno]
    simp only [List.any_nil, Bool.or_false, Bool.false_or]
    unfold settleWrite at h₂
    dsimp only at h₂
    split_ifs at h₂
    · exact succeedsOn_refuseAfterConflict es₂ r h₂
    · obtain ⟨rfl, rfl⟩ := runs_throw.mp h₂
      simp

theorem runs_esIndex {d : EsLease} {n p : ℕ} {r : Except JsError Unit}
    (h : (esIndex d n p).run.Runs es r) : ∃ e : LeaseEvent, es = [e] ∧ ((r = .ok ()) ↔ wrote e = true) := by
  obtain ⟨pre, post, rfl⟩ := runs_request.mp h
  refine ⟨_, rfl, ?_⟩
  cases r <;> simp [wrote]

theorem runs_esCreate {d : EsLease} {r : Except JsError Unit}
    (h : (esCreate d).run.Runs es r) : ∃ e : LeaseEvent, es = [e] ∧ ((r = .ok ()) ↔ wrote e = true) := by
  obtain ⟨pre, post, rfl⟩ := runs_request.mp h
  refine ⟨_, rfl, ?_⟩
  cases r <;> simp [wrote]

theorem succeedsOn_acquireBody : SucceedsOn (acquireBody svc) := by
  refine succeedsOn_bind quiet_readLease fun existing => ?_
  cases existing with
  | none =>
    refine succeedsOn_bind quiet_thisNow fun now => succeedsOn_bind quiet_buildDoc fun doc => ?_
    exact succeedsOn_settleWrite runs_esCreate
  | some existing =>
    refine succeedsOn_bind quiet_shouldRefuseFreshLease fun refuse => ?_
    cases refuse with
    | true => exact succeedsOn_refusal
    | false =>
      refine succeedsOn_bind quiet_takeoverStamp fun acquiredAt => ?_
      exact succeedsOn_bind quiet_buildDoc fun doc => succeedsOn_settleWrite runs_esIndex

/-- **`acquire` succeeds exactly when its write is answered.** -/
theorem acquire_success_iff {a : AcquireResult} (h : (acquire svc).run.Runs es (.ok a)) :
    a.success = true ↔ es.any wrote = true := by
  obtain ⟨es₁, es₂, outcome, rfl, h₁, h₂⟩ := runs_ok_bind.mp h
  have hbody := succeedsOn_acquireBody es₁ outcome (runs_attempt.mp h₁)
  cases outcome with
  | ok b =>
    obtain ⟨rfl, he⟩ := runs_throws_pure.mp h₂
    rw [List.append_nil, ← hbody, ← Except.ok.inj he]
    constructor
    · intro hs
      exact ⟨b, rfl, hs⟩
    · rintro ⟨b', hb, hs⟩
      rw [Except.ok.inj hb]
      exact hs
  | error err =>
    obtain ⟨rfl, he⟩ := runs_throws_pure.mp h₂
    rw [List.append_nil, ← hbody, ← Except.ok.inj he]
    simp

end Success

/-! ## What a successful call replaces -/

/-- The move loses no response. -/
def answered : Move LeaseCall LeaseChoice LeaseTick → Bool
  | .serve _ (.lost _) => false
  | _ => true

/-- The lease may be taken: there is none, or it is stale by now, or it is the caller's, or its owner
is a process on the caller's host that the caller has found dead. -/
inductive Available (svc : GpuVmLeaseService) (past : List LeaseEvent) (w : LeaseWorld) : Prop
  | absent (h : w.lease = none)
  | unreadable {s : LeaseRead} (h : w.lease = some s) (old : s.source.heartbeatAt.parse = none)
  | stale {s : LeaseRead} {heartbeat : Time} (h : w.lease = some s)
      (parse : s.source.heartbeatAt.parse = some heartbeat)
      (old : (svc.staleAfterMs : ℤ) ≤ (w.clock : ℤ) - heartbeat)
  | mine {s : LeaseRead} (h : w.lease = some s) (own : isMine svc s.source = true)
  | dead {s : LeaseRead} (h : w.lease = some s) (host : s.source.ownerHostname = svc.ownerHostname)
      (dead : Dead past s.source.ownerPid)

/-- The call has written over a document that it may replace, with a document of its own. -/
def TookOver (svc : GpuVmLeaseService) (past : List LeaseEvent) : Prop :=
  ∃ e ∈ past, Available svc past e.pre ∧ ∃ s, e.post.lease = some s ∧
    Takes svc past (e.pre.lease.map (·.source)) s.source

section Runs

variable {ok : LeaseCfg → Move LeaseCall LeaseChoice LeaseTick → Prop} {w₀ : LeaseWorld}
variable {cfg : LeaseCfg} {th : LeaseThread} {fs gs : List LeaseEvent} {e : LeaseEvent}

theorem Takes.left {svc : GpuVmLeaseService} {holder : Option EsLease} {d : EsLease}
    (h : Takes svc fs holder d) : Takes svc (fs ++ gs) holder d := by
  refine ⟨h.mine, h.kept, fun hother => ?_⟩
  obtain ⟨now, hread, hstamp⟩ := h.stamped hother
  exact ⟨now, hread.left, hstamp⟩

theorem wf_reach (h₀ : w₀.Wf) (h : leaseSystem.Reach ok w₀ cfg) : cfg.world.Wf := by
  refine h.world_inv h₀ (fun _ _ _ hsv hw => (serve_effect hsv).wf hw) fun t w hw => ?_
  cases t <;> exact hw

theorem later_pass (t : LeaseTick) (w : LeaseWorld) : Later w (leaseSystem.pass t w) := by
  cases t with
  | clock d => exact ⟨le_rfl, Nat.le_add_right _ _, fun _ hs => .inl hs⟩
  | exit svc => exact ⟨le_rfl, le_rfl, fun _ hs => .inl hs⟩

/-- Between two requests of a call the world only moves on. -/
theorem later_between (h : leaseSystem.Reach ok w₀ cfg) (hth : th ∈ cfg.threads)
    (hpast : th.past = fs ++ e :: gs) {e₀ : LeaseEvent} (he₀ : e₀ ∈ fs) : Later e₀.post e.pre := by
  have hpair := (h.chain Later.refl Later.trans (fun hsv => (serve_effect hsv).later) later_pass th hth).1
  rw [hpast] at hpair
  exact (List.pairwise_append.mp hpair).2.2 e₀ he₀ e List.mem_cons_self

/-- The document that the call has read is still there if its version is. -/
theorem read_unwritten (h₀ : w₀.Wf) (h : leaseSystem.Reach ok w₀ cfg) (hth : th ∈ cfg.threads)
    (hpast : th.past = fs ++ e :: gs) {s s' : LeaseRead} (hread : Read fs (some s))
    (hs' : e.pre.lease = some s') (hv : s'.seqNo = s.seqNo) : s' = s := by
  cases fs with
  | nil => cases hread
  | cons e₀ fs =>
    have hmem : e₀ ∈ th.past := by rw [hpast]; simp
    have hlater := later_between h hth hpast (List.mem_cons_self (a := e₀))
    obtain ⟨ch, hsv⟩ := h.served th hth e₀ hmem
    obtain ⟨cfg₀, hr, hw⟩ := h.visited th hth e₀ hmem
    have hfound : found e₀ = some (some s) := hread
    unfold found at hfound
    split at hfound
    · obtain rfl := Option.some.inj hfound
      obtain ⟨hpost, hlease⟩ := serve_get hsv
      dsimp only at hlater hpost hlease hw
      rw [hpost] at hlater
      exact hlater.unwritten (hw ▸ wf_reach h₀ hr) hlease.symm hs' hv
    · split_ifs at hfound
      cases Option.some.inj hfound
    · cases hfound

/-- A clock reading is not after the later requests of the call. -/
theorem readClock_le (h : leaseSystem.Reach ok w₀ cfg) (hth : th ∈ cfg.threads)
    (hpast : th.past = fs ++ e :: gs) {t : Time} (hread : ReadClock fs t) : t ≤ e.pre.clock := by
  obtain ⟨pre, post, hmem⟩ := hread
  have hlater := later_between h hth hpast hmem
  have hpast' : (⟨.now, t, pre, post⟩ : LeaseEvent) ∈ th.past := by
    rw [hpast]
    exact List.mem_append_left _ hmem
  obtain ⟨ch, hsv⟩ := h.served th hth _ hpast'
  have hclock : t = pre.clock := by
    rcases serve_cases hsv with ⟨ch', hok⟩ | ⟨err, hf, -⟩ | ⟨err, r', -, hf, -⟩
    · cases ch' with
      | ok => exact (Prod.mk.inj (Option.some.inj hok)).1.symm
      | _ => cases hok
    · cases hf
    · cases hf
  rw [hclock]
  exact Nat.le_trans (serve_effect hsv).later.clock hlater.clock

/-- **What an answered write has replaced.** -/
theorem tookOver_of_wrote (h₀ : w₀.Wf) (h : leaseSystem.Reach ok w₀ cfg) (hth : th ∈ cfg.threads)
    {svc : GpuVmLeaseService} (hcall : th.call = .acquire svc) (he : e ∈ th.past)
    (hw : wrote e = true) : TookOver svc th.past := by
  obtain ⟨fs, gs, hpast⟩ := List.append_of_mem he
  have hsends := h.issued sends_leaseBody th hth fs e gs hpast
  obtain ⟨ch, hsv⟩ := h.served th hth e he
  have hreadClock := @readClock_le ok w₀ cfg th fs gs e h hth hpast
  have hread := @read_unwritten ok w₀ cfg th fs gs e h₀ h hth hpast
  rw [hcall] at hsends hsv
  have hav : Available svc fs e.pre ∧ ∃ s, e.post.lease = some s ∧
      Takes svc fs (e.pre.lease.map (·.source)) s.source := by
    obtain ⟨o, ans, pre, post⟩ := e
    unfold wrote at hw
    split at hw
    · -- a compare-and-set: the document is still the one that was read
      rename_i d n p u pre' post' heq
      cases heq
      obtain ⟨s', hs', hv, hpost⟩ := serve_index hsv
      dsimp only at hs' hpost hread hreadClock
      cases hsends with
      | quiet hq => cases hq
      | index hr why takes =>
        obtain rfl := hread hr hs' hv
        refine ⟨?_, _, by rw [hpost]; rfl, by rw [hs']; exact takes⟩
        cases why with
        | unreadable hp => exact .unreadable hs' hp
        | @stale heartbeat now hp hnow hold =>
          have hle : (now : ℤ) ≤ pre.clock := Int.ofNat_le.mpr (hreadClock hnow)
          have hold' : (svc.staleAfterMs : ℤ) ≤ (pre.clock : ℤ) - heartbeat := by omega
          exact .stale hs' hp hold'
        | mine hm => exact .mine hs' hm
        | dead host hdead => exact .dead hs' host hdead
    · rename_i d u pre' post' heq
      cases heq
      obtain ⟨habsent, hpost⟩ := serve_create hsv
      dsimp only at habsent hpost
      cases hsends with
      | quiet hq => cases hq
      | create hr takes =>
        exact ⟨.absent habsent, _, by rw [hpost]; rfl, by rw [habsent]; exact takes⟩
    · cases hw
  obtain ⟨havail, s, hs, htakes⟩ := hav
  refine ⟨e, he, ?_, s, hs, hpast ▸ htakes.left⟩
  rw [hpast]
  cases havail with
  | absent hl => exact .absent hl
  | unreadable hl hp => exact .unreadable hl hp
  | stale hl hp hold => exact .stale hl hp hold
  | mine hl hm => exact .mine hl hm
  | dead hl host hdead => exact .dead hl host hdead.left

/-! ## One winner -/

/-- The version of the document that the call has found; none when there was no document. -/
def foundVersion (past : List LeaseEvent) : Option (Option ℕ) :=
  (past.head?.bind found).map fun res => res.map (·.seqNo)

/-- What a returned call of `acquire` reports. -/
def returned : LeaseThread → Option (GpuVmLeaseService × AcquireResult)
  | ⟨.acquire svc, _, .ret (.ok result)⟩ => some (svc, result)
  | _ => none

/-- The thread is a successful call of `acquire` that has found the version `v`. -/
def succeededOn (v : Option ℕ) (th : LeaseThread) : Bool :=
  (returned th).any (·.2.success) && foundVersion th.past == some v

/-- The event is an answered write over the version `v`. -/
def wroteOver (v : Option ℕ) : LeaseEvent → Bool
  | ⟨.index _ n _, .ok _, _, _⟩ => v == some n
  | ⟨.create _, .ok _, _, _⟩ => v == none
  | _ => false

/-- The thread has written over the version `v`. -/
def wins (v : Option ℕ) (th : LeaseThread) : Bool := th.past.any (wroteOver v)

/-- The version `v` is not the current one, and never will be again unless the lease is released. -/
def Gone (v : Option ℕ) (w : LeaseWorld) : Prop :=
  match v with
  | some n => n < w.nextSeqNo ∧ ∀ s, w.lease = some s → s.seqNo ≠ n
  | none => w.lease ≠ none

theorem gone_later {v : Option ℕ} {w w' : LeaseWorld} (h : Later w w')
    (hkept : v = none → w.lease ≠ none → w'.lease ≠ none) (hg : Gone v w) : Gone v w' := by
  cases v with
  | none => exact hkept rfl hg
  | some n =>
    obtain ⟨hlt, hne⟩ := hg
    refine ⟨Nat.lt_of_lt_of_le hlt h.next, fun s hs => ?_⟩
    rcases h.lease s hs with hs | hle
    · exact hne s hs
    · omega

/-- An answered write over a version replaces it. -/
theorem gone_of_wroteOver {svc : GpuVmLeaseService} {v : Option ℕ} {ch : LeaseChoice} (h₀ : e.pre.Wf)
    (hsv : serve svc e.op ch e.pre = some (e.ans, e.post)) (hw : wroteOver v e = true) :
    ¬Gone v e.pre ∧ Gone v e.post := by
  obtain ⟨o, ans, pre, post⟩ := e
  unfold wroteOver at hw
  split at hw
  · rename_i d n p u pre' post' heq
    cases heq
    obtain ⟨s, hs, hv, hpost⟩ := serve_index hsv
    obtain rfl := beq_iff_eq.mp hw
    have hlt := h₀ s hs
    dsimp only at hpost hs hlt
    refine ⟨fun hg => hg.2 s hs hv, ?_, fun s' hs' => ?_⟩
    · rw [hpost]
      show n < pre.nextSeqNo + 1
      omega
    · rw [hpost] at hs'
      obtain rfl := Option.some.inj hs'
      show pre.nextSeqNo ≠ n
      omega
  · rename_i d u pre' post' heq
    cases heq
    obtain ⟨habsent, hpost⟩ := serve_create hsv
    obtain rfl := beq_iff_eq.mp hw
    dsimp only at hpost habsent
    refine ⟨fun hg => hg habsent, ?_⟩
    show post.lease ≠ none
    rw [hpost]
    exact nofun
  · cases hw

/-- Only a release deletes the lease. -/
theorem lease_kept {c : LeaseCall} {past : List LeaseEvent} {o : LeaseOp} {svc : GpuVmLeaseService}
    {w w' : LeaseWorld} (hsends : Sends c past o) (heff : Effect svc w o w')
    (hc : ∀ svc, c ≠ .release svc) (hl : w.lease ≠ none) : w'.lease ≠ none := by
  cases heff with
  | none => exact hl
  | index | create | update => exact nofun
  | delete =>
    cases hsends with
    | quiet hq => cases hq
    | delete => exact absurd rfl (hc _)
  | flag => exact hl

/-- **One version is replaced once**; the absence of a document, as long as no lease is released. -/
theorem one_winner (h₀ : w₀.Wf) (v : Option ℕ)
    (h : leaseSystem.Reach (fun cfg m => ok cfg m ∧
      ∀ c, m = .invoke c → v = none → ∀ svc, c ≠ .release svc) w₀ cfg) :
    cfg.threads.countP (wins v) ≤ 1 := by
  refine (h.le_one_of_fresh (Gone v) (fun cfg => cfg.threads.countP (wins v)) rfl ?_).1
  intro cfg m cfg' hr hok hs
  cases m with
  | invoke c =>
    obtain ⟨-, rfl⟩ := move_invoke.mp hs
    refine .inl ⟨?_, id⟩
    show List.countP (wins v) (_ ++ [_]) ≤ _
    rw [List.countP_append, List.countP_singleton]
    simp [wins, System.fresh]
  | pass t =>
    obtain rfl := move_pass.mp hs
    refine .inl ⟨le_rfl, fun hg => ?_⟩
    cases t <;> exact hg
  | serve i ch =>
    obtain ⟨c, past, o, k, r, w', hi, hsv, rfl⟩ := move_serve.mp hs
    have hmem := List.mem_of_getElem? hi
    have hthreads : (cfg.threads.set i ⟨c, past ++ [⟨o, r, cfg.world, w'⟩], k r⟩ ++
        (leaseSystem.forks c o).map leaseSystem.fresh) =
          cfg.threads.set i ⟨c, past ++ [⟨o, r, cfg.world, w'⟩], k r⟩ := List.append_nil _
    have hcount : (cfg.threads.set i ⟨c, past ++ [⟨o, r, cfg.world, w'⟩], k r⟩).countP (wins v) +
          (if wins v ⟨c, past, .await o k⟩ then 1 else 0) = cfg.threads.countP (wins v) +
            if wins v ⟨c, past ++ [⟨o, r, cfg.world, w'⟩], k r⟩ then 1 else 0 :=
      countP_set_add (wins v) hi
    have hnew : wins v ⟨c, past ++ [⟨o, r, cfg.world, w'⟩], k r⟩ =
        (wins v ⟨c, past, .await o k⟩ || wroteOver v ⟨o, r, cfg.world, w'⟩) := by
      simp [wins]
    by_cases hw : wroteOver v ⟨o, r, cfg.world, w'⟩ = true
    · -- the version is replaced now
      obtain ⟨hbefore, hafter⟩ := gone_of_wroteOver (e := ⟨o, r, cfg.world, w'⟩) (wf_reach h₀ hr) hsv hw
      refine .inr ⟨?_, hbefore, hafter⟩
      dsimp only
      rw [hthreads]
      split_ifs at hcount <;> omega
    · rw [hnew, Bool.eq_false_iff.mpr hw, Bool.or_false] at hcount
      refine .inl ⟨?_, gone_later (serve_effect hsv).later fun hv => ?_⟩
      · dsimp only
        rw [hthreads]
        omega
      · have hcall := hr.calls (q := fun c => v = none → ∀ svc, c ≠ .release svc)
          (fun hok => hok.2 _ rfl) (fun _ _ _ hc => absurd hc List.not_mem_nil) _ hmem
        exact lease_kept (hr.issues sends_leaseBody hmem) (serve_effect hsv) (hcall hv)

/-! ## The contract of `acquire` -/

/-- The version over which a call writes is the one that it has found. -/
theorem wroteOver_of_wrote {svc : GpuVmLeaseService} (hsends : Sends (.acquire svc) fs e.op)
    (hw : wrote e = true) {v : Option ℕ} (hv : foundVersion fs = some v) : wroteOver v e = true := by
  obtain ⟨o, ans, pre, post⟩ := e
  unfold wrote at hw
  split at hw
  · rename_i d n p u pre' post' heq
    cases heq
    cases hsends with
    | quiet hq => cases hq
    | index hread =>
      rw [foundVersion, hread] at hv
      rw [← Option.some.inj hv]
      exact beq_self_eq_true _
  · rename_i d u pre' post' heq
    cases heq
    cases hsends with
    | quiet hq => cases hq
    | create hread =>
      rw [foundVersion, hread] at hv
      rw [← Option.some.inj hv]
      rfl
  · cases hw

/-- Nothing is written before the look-up. -/
theorem ne_nil_of_wrote {svc : GpuVmLeaseService} (hsends : Sends (.acquire svc) fs e.op)
    (hw : wrote e = true) : fs ≠ [] := by
  rintro rfl
  obtain ⟨o, ans, pre, post⟩ := e
  unfold wrote at hw
  split at hw
  · rename_i heq
    cases heq
    cases hsends with
    | quiet hq => cases hq
    | index hread => cases hread
  · rename_i heq
    cases heq
    cases hsends with
    | quiet hq => cases hq
    | create hread => cases hread
  · cases hw

/-- An unanswered request of `acquire` leaves the document alone, if no response is lost. -/
theorem lease_unchanged {svc : GpuVmLeaseService} {ch : LeaseChoice}
    (hsends : Sends (.acquire svc) fs e.op) (hsv : serve svc e.op ch e.pre = some (e.ans, e.post))
    (hlost : ∀ err, ch ≠ .lost err) (hw : wrote e = false) : e.post.lease = e.pre.lease := by
  have heff := serve_effect hsv
  obtain ⟨o, ans, pre, post⟩ := e
  dsimp only at hsends hsv heff ⊢
  cases heff with
  | none => rfl
  | flag => rfl
  | @index d p s hfound =>
    cases ans with
    | ok u => cases hw
    | error err => rw [serve_index_error hsv hlost]
  | @create d habsent =>
    cases ans with
    | ok u => cases hw
    | error err => rw [serve_create_error hsv hlost]
  | update =>
    cases hsends with
    | quiet hq => cases hq
  | delete =>
    cases hsends with
    | quiet hq => cases hq

theorem runs_of_returned (h : leaseSystem.Reach ok w₀ cfg) (hth : th ∈ cfg.threads)
    {svc : GpuVmLeaseService} {result : AcquireResult} (hret : returned th = some (svc, result)) :
    th.call = .acquire svc ∧ (acquire svc).run.Runs th.past (.ok result) := by
  have hafter := h.after th hth
  unfold returned at hret
  split at hret
  · cases hret
    exact ⟨rfl, hafter⟩
  · cases hret

theorem wins_of_succeededOn (h : leaseSystem.Reach ok w₀ cfg) (hth : th ∈ cfg.threads)
    {v : Option ℕ} (hs : succeededOn v th = true) : wins v th = true := by
  obtain ⟨hret, hfound⟩ := Bool.and_eq_true_iff.mp hs
  obtain ⟨⟨svc, result⟩, hret, hsuccess⟩ := (Option.any_eq_true _ _).mp hret
  obtain ⟨hcall, hruns⟩ := runs_of_returned h hth hret
  obtain ⟨e, he, hw⟩ := List.any_eq_true.mp ((acquire_success_iff hruns).mp hsuccess)
  obtain ⟨fs, gs, hpast⟩ := List.append_of_mem he
  have hsends := h.issued sends_leaseBody th hth fs e gs hpast
  rw [hcall] at hsends
  have hfs : foundVersion fs = some v := by
    have hv := beq_iff_eq.mp hfound
    rw [hpast] at hv
    cases fs with
    | nil => exact absurd rfl (ne_nil_of_wrote hsends hw)
    | cons f fs => exact hv
  exact List.any_eq_true.mpr ⟨e, he, wroteOver_of_wrote hsends hw hfs⟩

end Runs

/-! ## Two services -/

/-- Two services on two hosts. -/
def serviceA : GpuVmLeaseService := ⟨0, "gpu", "a", 10, defaultStaleAfterMs⟩

def serviceB : GpuVmLeaseService := ⟨1, "gpu", "b", 20, defaultStaleAfterMs⟩

/-- Both find no lease; one creates it, and the other one reads it again and is refused. -/
def acquireTogether : List (Move LeaseCall LeaseChoice LeaseTick) :=
  [.invoke (.acquire serviceA), .invoke (.acquire serviceB), .serve 0 .ok, .serve 1 .ok] ++
    List.replicate 4 (.serve 0 .ok) ++ List.replicate 6 (.serve 1 .ok)

end Benchmarker.GpuVmLease
