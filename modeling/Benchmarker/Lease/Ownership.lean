import Benchmarker.Lease.Acquire

/-!
# Owning the lease

`heartbeat` and `release` ask the flag of their own service and then act on the lease document,
whoever it names by then. The flag stays set when another service takes the lease over.

* `Owned`: what the lease promises. **`lease_stolen`**: a run that breaks all of it.
* `engaged`: a service that holds the flag or still acts on it. `exclusive`: no lease is written while
  another service is engaged.
* `Held`, **`held_reach`**, **`lease_owned`**: under that condition the promises hold in every run.
-/

namespace Benchmarker.GpuVmLease

open Async Async.Prog Async.System

/-! ## The promises -/

/-- The event is an answered write of the service's own heartbeat: by `heartbeat` or by `acquire`. -/
def beats (e : LeaseEvent) : Bool :=
  match e with
  | ⟨.update _, .ok _, _, _⟩ => true
  | e => wrote e

/-- The service has written a heartbeat less than `staleAfterMs` ago. -/
def hasBeaten (cfg : LeaseCfg) (svc : GpuVmLeaseService) : Bool :=
  cfg.threads.any fun th => th.call.service = svc &&
    th.past.any fun e => beats e && decide (cfg.world.clock < e.pre.clock + svc.staleAfterMs)

/-- `holdsLease()`. -/
def holdsLease (cfg : LeaseCfg) (svc : GpuVmLeaseService) : Bool := svc ∈ cfg.world.owners

/-- What the lease promises: a release deletes and a heartbeat refreshes only a document that names
the caller, and at most one holder has a recent heartbeat. -/
structure Owned (cfg : LeaseCfg) : Prop where
  releases : ∀ th ∈ cfg.threads, ∀ svc, th.call = .release svc → ∀ e ∈ th.past, ∀ s,
    e.pre.lease = some s → e.post.lease = none → isMine svc s.source = true
  heartbeats : ∀ th ∈ cfg.threads, ∀ svc, th.call = .heartbeat svc → ∀ e ∈ th.past, ∀ s,
    e.pre.lease = some s → e.post.lease ≠ some s → isMine svc s.source = true
  one : ∀ svc svc', holdsLease cfg svc = true → hasBeaten cfg svc = true →
    holdsLease cfg svc' = true → hasBeaten cfg svc' = true → svc = svc'

/-! ## A stolen lease -/

/-- The lease of `serviceA` expires while its process is suspended; `serviceB` takes it over; then
`serviceA` goes on with a heartbeat and a release. -/
def resumed : List (Move LeaseCall LeaseChoice LeaseTick) :=
  [.invoke (.acquire serviceA)] ++ List.replicate 5 (.serve 0 .ok) ++ [.pass (.clock 120000)] ++
    [.invoke (.acquire serviceB)] ++ List.replicate 6 (.serve 1 .ok) ++ [.pass (.clock 1)] ++
    [.invoke (.heartbeat serviceA)] ++ List.replicate 3 (.serve 2 .ok)

/-- A release deletes a document of another service. -/
def stealsRelease (th : LeaseThread) : Bool :=
  match th.call with
  | .release svc => th.past.any fun e => e.post.lease = none &&
      e.pre.lease.any fun s => !isMine svc s.source
  | _ => false

/-- A heartbeat refreshes a document of another service. -/
def stealsHeartbeat (th : LeaseThread) : Bool :=
  match th.call with
  | .heartbeat svc => th.past.any fun e => e.post.lease ≠ e.pre.lease &&
      e.pre.lease.any fun s => !isMine svc s.source
  | _ => false

theorem not_owned_of_release {cfg : LeaseCfg} (h : cfg.threads.any stealsRelease = true) : ¬Owned cfg := by
  intro howned
  obtain ⟨th, hth, hsteals⟩ := List.any_eq_true.mp h
  unfold stealsRelease at hsteals
  split at hsteals
  · rename_i svc hcall
    obtain ⟨e, he, htest⟩ := List.any_eq_true.mp hsteals
    obtain ⟨hpost, hpre⟩ := Bool.and_eq_true_iff.mp htest
    obtain ⟨s, hs, hother⟩ := (Option.any_eq_true _ _).mp hpre
    have hmine := howned.releases th hth svc hcall e he s hs (of_decide_eq_true hpost)
    rw [hmine] at hother
    cases hother
  · cases hsteals

theorem not_owned_of_heartbeat {cfg : LeaseCfg} (h : cfg.threads.any stealsHeartbeat = true) :
    ¬Owned cfg := by
  intro howned
  obtain ⟨th, hth, hsteals⟩ := List.any_eq_true.mp h
  unfold stealsHeartbeat at hsteals
  split at hsteals
  · rename_i svc hcall
    obtain ⟨e, he, htest⟩ := List.any_eq_true.mp hsteals
    obtain ⟨hpost, hpre⟩ := Bool.and_eq_true_iff.mp htest
    obtain ⟨s, hs, hother⟩ := (Option.any_eq_true _ _).mp hpre
    have hne : e.post.lease ≠ some s := by
      rw [← hs]
      exact of_decide_eq_true hpost
    have hmine := howned.heartbeats th hth svc hcall e he s hs hne
    rw [hmine] at hother
    cases hother
  · cases hsteals

/-- **A stolen lease**: after the takeover the first service refreshes the document of the second one,
both hold the lease with a recent heartbeat, and the first service deletes the document. -/
theorem lease_stolen :
    (∃ cfg, leaseSystem.Reachable {} cfg ∧ cfg.threads.any stealsHeartbeat = true ∧ ¬Owned cfg) ∧
    (∃ cfg, leaseSystem.Reachable {} cfg ∧ holdsLease cfg serviceA = true ∧
      hasBeaten cfg serviceA = true ∧ holdsLease cfg serviceB = true ∧
      hasBeaten cfg serviceB = true ∧ serviceA ≠ serviceB) ∧
    ∃ cfg, leaseSystem.Reachable {} cfg ∧ cfg.threads.any stealsRelease = true ∧ ¬Owned cfg := by
  have hbeat : (leaseSystem.run (fun _ _ => true) resumed ⟨{}, []⟩).any (fun cfg =>
      cfg.threads.any stealsHeartbeat && (holdsLease cfg serviceA && (hasBeaten cfg serviceA &&
        (holdsLease cfg serviceB && hasBeaten cfg serviceB)))) = true := by decide +kernel
  have hrelease : (leaseSystem.run (fun _ _ => true) (resumed ++ [.invoke (.release serviceA)] ++
      List.replicate 3 (.serve 3 .ok)) ⟨{}, []⟩).any (fun cfg => cfg.threads.any stealsRelease) = true := by
    decide +kernel
  obtain ⟨cfg, hcfg, htest⟩ := (Option.any_eq_true _ _).mp hbeat
  obtain ⟨cfg', hcfg', hsteals'⟩ := (Option.any_eq_true _ _).mp hrelease
  simp only [Bool.and_eq_true] at htest
  obtain ⟨hsteals, hA, hbA, hB, hbB⟩ := htest
  refine ⟨⟨cfg, reachable_of_run hcfg, hsteals, not_owned_of_heartbeat hsteals⟩,
    ⟨cfg, reachable_of_run hcfg, hA, hbA, hB, hbB, by decide⟩,
    ⟨cfg', reachable_of_run hcfg', hsteals', not_owned_of_release hsteals'⟩⟩

/-! ## Exclusive writes -/

/-- The call has seen its flag set, or has written the lease, and has not returned. -/
def committed (th : LeaseThread) : Bool :=
  th.pending.isSome && th.past.any fun e => owned e || wrote e

/-- The service holds the flag, or a call of it still acts on the flag or is about to set it. -/
def Engaged (cfg : LeaseCfg) (svc : GpuVmLeaseService) : Prop :=
  svc ∈ cfg.world.owners ∨ ∃ th ∈ cfg.threads, th.call.service = svc ∧ committed th = true

/-- No service but `svc` is engaged. -/
def onlyEngaged (cfg : LeaseCfg) (svc : GpuVmLeaseService) : Bool :=
  cfg.world.owners.all (· = svc) &&
    cfg.threads.all fun th => !committed th || decide (th.call.service = svc)

def LeaseCall.acquires : LeaseCall → Bool
  | .acquire _ => true
  | _ => false

/-- A call of `acquire` writes the lease only while no other service is engaged. -/
def exclusive (cfg : LeaseCfg) : Move LeaseCall LeaseChoice LeaseTick → Bool
  | .serve i ch =>
    match cfg.threads[i]? with
    | some ⟨c, _, .await o _⟩ => (serve c.service o ch cfg.world).all fun a =>
        a.2.nextSeqNo = cfg.world.nextSeqNo || (!c.acquires || onlyEngaged cfg c.service)
    | _ => true
  | _ => true

/-- What holds while the lease is written exclusively: one service at most is engaged, and the
document, if there is one, names it. -/
structure Held (cfg : LeaseCfg) : Prop where
  only : ∀ svc svc', Engaged cfg svc → Engaged cfg svc' → svc = svc'
  named : ∀ svc s, Engaged cfg svc → cfg.world.lease = some s → isMine svc s.source = true

section Exclusive

variable {cfg cfg' : LeaseCfg} {w₀ w' : LeaseWorld} {c : LeaseCall} {past : List LeaseEvent}
variable {o : LeaseOp} {k : LeaseAns o → Prog LeaseAns (LeaseRet c)} {r : LeaseAns o} {i : ℕ}
variable {ch : LeaseChoice} {svc : GpuVmLeaseService}

theorem eq_of_onlyEngaged (h : onlyEngaged cfg svc = true) {svc' : GpuVmLeaseService}
    (he : Engaged cfg svc') : svc' = svc := by
  obtain ⟨howners, hthreads⟩ := Bool.and_eq_true_iff.mp h
  rcases he with he | ⟨th, hth, rfl, hcommit⟩
  · exact of_decide_eq_true (List.all_eq_true.mp howners svc' he)
  · have hor := List.all_eq_true.mp hthreads th hth
    rw [hcommit] at hor
    exact of_decide_eq_true hor

/-- A waiting call that has seen its flag or written the lease. -/
theorem engaged_of_past (hi : cfg.threads[i]? = some ⟨c, past, .await o k⟩)
    (hpast : past.any (fun e => owned e || wrote e) = true) : Engaged cfg c.service :=
  .inr ⟨_, List.mem_of_getElem? hi, rfl, Bool.and_eq_true_iff.mpr ⟨rfl, hpast⟩⟩

theorem any_or {es : List LeaseEvent} (h : es.any owned = true ∨ es.any wrote = true) :
    es.any (fun e => owned e || wrote e) = true := by
  rcases h with h | h
  · obtain ⟨e, he, ho⟩ := List.any_eq_true.mp h
    exact List.any_eq_true.mpr ⟨e, he, by rw [ho]; rfl⟩
  · obtain ⟨e, he, hw⟩ := List.any_eq_true.mp h
    exact List.any_eq_true.mpr ⟨e, he, by rw [hw]; exact Bool.or_true _⟩

/-- The flags that a served request may set. -/
theorem owners_serve (hsends : Sends c past o) (heff : Effect c.service cfg.world o w')
    (hi : cfg.threads[i]? = some ⟨c, past, .await o k⟩) (hsvc : svc ∈ w'.owners) : Engaged cfg svc := by
  cases heff with
  | none | index | create | update | delete => exact .inl hsvc
  | flag b =>
    cases b with
    | false => exact .inl (List.mem_filter.mp hsvc).1
    | true =>
      rcases List.mem_cons.mp hsvc with rfl | hsvc
      · -- `acquire` sets its flag after its write
        cases hsends with
        | quiet hq => cases hq
        | take hwrote => exact engaged_of_past hi (any_or (.inr hwrote))
      · exact .inl hsvc

/-- **Who is engaged after an answer**: who was before, or the caller whose write was answered. -/
theorem engaged_serve (hsends : Sends c past o) (hi : cfg.threads[i]? = some ⟨c, past, .await o k⟩)
    (hsv : serve c.service o ch cfg.world = some (r, w'))
    (h : Engaged ⟨w', cfg.threads.set i ⟨c, past ++ [⟨o, r, cfg.world, w'⟩], k r⟩⟩ svc) :
    Engaged cfg svc ∨ (svc = c.service ∧ wrote ⟨o, r, cfg.world, w'⟩ = true) := by
  rcases h with hsvc | ⟨th, hth, rfl, hcommit⟩
  · exact .inl (owners_serve hsends (serve_effect hsv) hi hsvc)
  · rcases List.mem_or_eq_of_mem_set hth with hth | rfl
    · exact .inl (.inr ⟨th, hth, rfl, hcommit⟩)
    · have hany := (Bool.and_eq_true_iff.mp hcommit).2
      rw [List.any_append, Bool.or_eq_true] at hany
      rcases hany with hany | hany
      · exact .inl (engaged_of_past hi hany)
      · rw [List.any_cons, List.any_nil, Bool.or_false, Bool.or_eq_true] at hany
        rcases hany with howned | hwrote
        · left
          unfold owned at howned
          split at howned
          · rename_i pre post heq
            cases heq
            exact .inl (of_decide_eq_true (serve_owns hsv).1.symm)
          · cases howned
        · exact .inr ⟨rfl, hwrote⟩

/-- Only `acquire` writes the lease, and its document names the caller. -/
theorem mine_of_index {d : EsLease} {n p : ℕ} (h : Sends c past (.index d n p)) :
    c.acquires = true ∧ isMine c.service d = true := by
  cases h with
  | quiet hq => cases hq
  | index _ _ takes => exact ⟨rfl, takes.mine⟩

theorem mine_of_create {d : EsLease} (h : Sends c past (.create d)) :
    c.acquires = true ∧ isMine c.service d = true := by
  cases h with
  | quiet hq => cases hq
  | create _ takes => exact ⟨rfl, takes.mine⟩

/-- An answered write is carried out, and names the caller. -/
theorem put_of_wrote (hsends : Sends c past o) (hsv : serve c.service o ch cfg.world = some (r, w'))
    (hw : wrote ⟨o, r, cfg.world, w'⟩ = true) :
    c.acquires = true ∧ ∃ d, w' = cfg.world.put d ∧ isMine c.service d = true := by
  unfold wrote at hw
  split at hw
  · rename_i d n p u pre post heq
    cases heq
    obtain ⟨s, -, -, hput⟩ := serve_index hsv
    obtain ⟨hc, hmine⟩ := mine_of_index hsends
    exact ⟨hc, d, hput, hmine⟩
  · rename_i d u pre post heq
    cases heq
    obtain ⟨-, hput⟩ := serve_create hsv
    obtain ⟨hc, hmine⟩ := mine_of_create hsends
    exact ⟨hc, d, hput, hmine⟩
  · cases hw

/-- A write of `acquire` is exclusive. -/
theorem onlyEngaged_of_write (hok : exclusive cfg (.serve i ch) = true) (hc : c.acquires = true)
    (hi : cfg.threads[i]? = some ⟨c, past, .await o k⟩)
    (hsv : serve c.service o ch cfg.world = some (r, w')) {d : EsLease} (hput : w' = cfg.world.put d) :
    onlyEngaged cfg c.service = true := by
  dsimp only [exclusive] at hok
  rw [hi] at hok
  dsimp only at hok
  rw [hsv, hc, hput] at hok
  simpa [LeaseWorld.put] using hok

/-- One answer keeps the invariant. -/
theorem held_serve (hI : Held cfg) (hok : exclusive cfg (.serve i ch) = true) (hsends : Sends c past o)
    (hi : cfg.threads[i]? = some ⟨c, past, .await o k⟩)
    (hsv : serve c.service o ch cfg.world = some (r, w')) :
    Held ⟨w', cfg.threads.set i ⟨c, past ++ [⟨o, r, cfg.world, w'⟩], k r⟩⟩ := by
  have hengaged := fun svc => @engaged_serve cfg w' c past o k r i ch svc hsends hi hsv
  by_cases hw : wrote ⟨o, r, cfg.world, w'⟩ = true
  · -- the lease is written, and nobody but the caller is engaged
    obtain ⟨hc, d, hput, hmine⟩ := put_of_wrote hsends hsv hw
    have honly := onlyEngaged_of_write hok hc hi hsv hput
    have hcaller : ∀ svc, Engaged ⟨w', cfg.threads.set i
        ⟨c, past ++ [⟨o, r, cfg.world, w'⟩], k r⟩⟩ svc → svc = c.service := by
      intro svc hsvc
      rcases hengaged svc hsvc with hold | ⟨rfl, -⟩
      · exact eq_of_onlyEngaged honly hold
      · rfl
    refine ⟨fun svc svc' h h' => (hcaller svc h).trans (hcaller svc' h').symm, fun svc s h hs => ?_⟩
    rw [hcaller svc h]
    rw [hput] at hs
    obtain rfl := Option.some.inj hs
    exact hmine
  · have hold : ∀ svc, Engaged ⟨w', cfg.threads.set i
        ⟨c, past ++ [⟨o, r, cfg.world, w'⟩], k r⟩⟩ svc → Engaged cfg svc := by
      intro svc hsvc
      rcases hengaged svc hsvc with hold | ⟨-, hwrote⟩
      · exact hold
      · exact absurd hwrote hw
    refine ⟨fun svc svc' h h' => hI.only svc svc' (hold svc h) (hold svc' h'), fun svc s h hs => ?_⟩
    have hnamed := fun s => hI.named svc s (hold svc h)
    cases serve_effect hsv with
    | none => exact hnamed s hs
    | flag => exact hnamed s hs
    | delete => cases hs
    | @update heartbeatAt found hfound =>
      -- a heartbeat keeps the owner
      have hmine := hnamed found hfound
      rw [← Option.some.inj hs]
      exact hmine
    | index =>
      -- a write whose response was lost
      obtain ⟨hc, hmine⟩ := mine_of_index hsends
      have honly := onlyEngaged_of_write hok hc hi hsv rfl
      rw [eq_of_onlyEngaged honly (hold svc h), ← Option.some.inj hs]
      exact hmine
    | create =>
      obtain ⟨hc, hmine⟩ := mine_of_create hsends
      have honly := onlyEngaged_of_write hok hc hi hsv rfl
      rw [eq_of_onlyEngaged honly (hold svc h), ← Option.some.inj hs]
      exact hmine

/-- **The invariant along every run with exclusive writes.** -/
theorem held_reach (h₀ : w₀.owners = [])
    (h : leaseSystem.Reach (fun cfg m => exclusive cfg m = true) w₀ cfg) : Held cfg := by
  induction h with
  | init =>
    have hnone : ∀ svc, ¬Engaged (⟨w₀, []⟩ : LeaseCfg) svc := by
      rintro svc (hsvc | ⟨th, hth, -⟩)
      · have hnil : svc ∈ ([] : List GpuVmLeaseService) := h₀ ▸ hsvc
        cases hnil
      · cases hth
    exact ⟨fun svc _ h => absurd h (hnone svc), fun svc _ h => absurd h (hnone svc)⟩
  | @move cfg cfg' m hr hok hs ih =>
    cases m with
    | invoke c =>
      obtain ⟨-, rfl⟩ := move_invoke.mp hs
      have hold : ∀ svc, Engaged ⟨cfg.world, cfg.threads ++ [leaseSystem.fresh c]⟩ svc → Engaged cfg svc := by
        rintro svc (hsvc | ⟨th, hth, hcall, hcommit⟩)
        · exact .inl hsvc
        · rcases List.mem_append.mp hth with hth | hth
          · exact .inr ⟨th, hth, hcall, hcommit⟩
          · rw [List.mem_singleton.mp hth] at hcommit
            have hnone := (Bool.and_eq_true_iff.mp hcommit).2
            cases hnone
      exact ⟨fun svc svc' h h' => ih.only svc svc' (hold svc h) (hold svc' h'),
        fun svc s h hs => ih.named svc s (hold svc h) hs⟩
    | pass t =>
      obtain rfl := move_pass.mp hs
      have hold : ∀ svc, Engaged ⟨t.apply cfg.world, cfg.threads⟩ svc → Engaged cfg svc := by
        rintro svc (hsvc | hthread)
        · cases t with
          | clock d => exact .inl hsvc
          | exit svc' => exact .inl (List.mem_filter.mp hsvc).1
        · exact .inr hthread
      refine ⟨fun svc svc' h h' => ih.only svc svc' (hold svc h) (hold svc' h'), fun svc s h hs => ?_⟩
      refine ih.named svc s (hold svc h) ?_
      cases t <;> exact hs
    | serve i ch =>
      obtain ⟨c, past, o, k, r, w', hi, hsv, rfl⟩ := move_serve.mp hs
      have hsends := hr.issues sends_leaseBody (List.mem_of_getElem? hi)
      have hheld := held_serve ih hok hsends hi hsv
      rwa [show cfg.threads.set i ⟨c, past ++ [⟨o, r, cfg.world, w'⟩], k r⟩ ++
        (leaseSystem.forks c o).map leaseSystem.fresh = cfg.threads.set i
          ⟨c, past ++ [⟨o, r, cfg.world, w'⟩], k r⟩ from List.append_nil _]

/-- A heartbeat or a release acts on the lease only behind its flag. -/
theorem flagged_of_effect (hsends : Sends c past o) (heff : Effect c.service cfg.world o w')
    (hc : c.acquires = false) (hne : w'.lease ≠ cfg.world.lease) : past.any owned = true := by
  cases heff with
  | none => exact absurd rfl hne
  | flag => exact absurd rfl hne
  | index =>
    rw [(mine_of_index hsends).1] at hc
    cases hc
  | create =>
    rw [(mine_of_create hsends).1] at hc
    cases hc
  | update =>
    cases hsends with
    | quiet hq => cases hq
    | update flag => exact flag
  | delete =>
    cases hsends with
    | quiet hq => cases hq
    | delete flag => exact flag

/-- **A heartbeat or a release changes only a document that names its caller.** -/
theorem mine_of_changed (h₀ : w₀.owners = [])
    (h : leaseSystem.Reach (fun cfg m => exclusive cfg m = true) w₀ cfg) {th : LeaseThread}
    (hth : th ∈ cfg.threads) (hc : th.call.acquires = false) {e : LeaseEvent} (he : e ∈ th.past)
    {s : LeaseRead} (hpre : e.pre.lease = some s) (hne : e.post.lease ≠ e.pre.lease) :
    isMine th.call.service s.source = true := by
  obtain ⟨cfg₀, i, ch, past, k, hr, -, hw, hi, hsv⟩ := h.admitted th hth e he
  have hsends := hr.issues sends_leaseBody (List.mem_of_getElem? hi)
  have heff := serve_effect hsv
  rw [← hw] at heff hpre hne
  have hflag := flagged_of_effect hsends heff hc hne
  exact (held_reach h₀ hr).named _ s (engaged_of_past hi (any_or (.inl hflag))) hpre

/-- **The lease is owned** in every run in which `acquire` writes it only while no other service is
engaged. -/
theorem lease_owned (h₀ : w₀.owners = [])
    (h : leaseSystem.Reach (fun cfg m => exclusive cfg m = true) w₀ cfg) : Owned cfg := by
  refine ⟨fun th hth svc hcall e he s hpre hpost => ?_, fun th hth svc hcall e he s hpre hpost => ?_,
    fun svc svc' hown _ hown' _ => ?_⟩
  · have hne : e.post.lease ≠ e.pre.lease := by
      rw [hpre, hpost]
      exact fun h => nomatch h
    have hmine := mine_of_changed h₀ h hth (by rw [hcall]; rfl) he hpre hne
    rw [hcall] at hmine
    exact hmine
  · have hne : e.post.lease ≠ e.pre.lease := by
      rw [hpre]
      exact hpost
    have hmine := mine_of_changed h₀ h hth (by rw [hcall]; rfl) he hpre hne
    rw [hcall] at hmine
    exact hmine
  · exact (held_reach h₀ h).only svc svc' (.inl (of_decide_eq_true hown)) (.inl (of_decide_eq_true hown'))

/-- The process of `serviceA` exits, and `serviceB` takes its stale lease over, refreshes and releases
it. -/
def handedOver : List (Move LeaseCall LeaseChoice LeaseTick) :=
  [.invoke (.acquire serviceA)] ++ List.replicate 5 (.serve 0 .ok) ++ [.pass (.exit serviceA)] ++
    [.pass (.clock 120000)] ++ [.invoke (.acquire serviceB)] ++ List.replicate 6 (.serve 1 .ok) ++
    [.pass (.clock 1)] ++ [.invoke (.heartbeat serviceB)] ++ List.replicate 3 (.serve 2 .ok) ++
    [.invoke (.release serviceB)] ++ List.replicate 3 (.serve 3 .ok)

/-- A handover after an exit is exclusive, and the lease is owned. -/
theorem handedOver_owned : ∃ cfg, leaseSystem.Reachable {} cfg ∧ cfg.world.lease = none ∧
    cfg.threads.length = 4 ∧ Owned cfg := by
  have hrun : (leaseSystem.run exclusive handedOver ⟨{}, []⟩).any (fun cfg =>
      decide (cfg.world.lease = none) && decide (cfg.threads.length = 4)) = true := by decide +kernel
  obtain ⟨cfg, hcfg, htest⟩ := (Option.any_eq_true _ _).mp hrun
  obtain ⟨hnone, hlen⟩ := Bool.and_eq_true_iff.mp htest
  have hreach := reach_of_run hcfg
  exact ⟨cfg, hreach.mono fun _ _ _ => trivial, of_decide_eq_true hnone, of_decide_eq_true hlen,
    lease_owned rfl hreach⟩

end Exclusive

end Benchmarker.GpuVmLease
