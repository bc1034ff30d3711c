import Benchmarker.Async.Uses
import Benchmarker.Lease.Service

/-!
# What the lease service sends

* `Replaceable`, `Takes`: why a call of `acquire` writes over a document, and what it writes.
* `Sends`: what a call has read when it sends a request; **`sends_leaseBody`**: every call keeps to it.
* `wrote`, **`acquire_success_iff`**: `acquire` succeeds exactly when its write is answered.
-/

namespace Benchmarker.GpuVmLease

open Async Async.Prog

/-- What the call has found when it looked for the lease. -/
def found : LeaseEvent → Option (Option LeaseRead)
  | ⟨.get, .ok res, _, _⟩ => some res
  | ⟨.get, .error err, _, _⟩ => if isStatusCode err 404 then some none else none
  | _ => none

/-- The history begins with the look-up of the lease. -/
def Read (past : List LeaseEvent) (res : Option LeaseRead) : Prop :=
  past.head?.bind found = some res

/-- The call has read the clock. -/
def ReadClock (past : List LeaseEvent) (t : Time) : Prop :=
  ∃ pre post, (⟨.now, t, pre, post⟩ : LeaseEvent) ∈ past

/-- The call has found that there is no such process. -/
def Dead (past : List LeaseEvent) (pid : ℤ) : Prop :=
  pid ≤ 0 ∨ ∃ code pre post, code ≠ "EPERM" ∧ (⟨.kill pid, some code, pre, post⟩ : LeaseEvent) ∈ past

/-- The holder of a lease may be replaced: the lease is stale, or the caller's, or its owner is a dead
process on the caller's host. -/
inductive Replaceable (svc : GpuVmLeaseService) (past : List LeaseEvent) (holder : EsLease) : Prop
  | unreadable (h : holder.heartbeatAt.parse = none)
  | stale {heartbeat now : Time} (h : holder.heartbeatAt.parse = some heartbeat)
      (read : ReadClock past now) (old : (svc.staleAfterMs : ℤ) ≤ (now : ℤ) - heartbeat)
  | mine (h : isMine svc holder = true)
  | dead (host : holder.ownerHostname = svc.ownerHostname) (dead : Dead past holder.ownerPid)

/-- The document with which a caller takes the lease of `holder`, if there is one. -/
structure Takes (svc : GpuVmLeaseService) (past : List LeaseEvent) (holder : Option EsLease)
    (document : EsLease) : Prop where
  mine : isMine svc document = true
  kept : ∀ lease, holder = some lease → isMine svc lease = true → document.acquiredAt = lease.acquiredAt
  stamped : (∀ lease, holder = some lease → isMine svc lease = false) →
    ∃ now, ReadClock past now ∧ document.acquiredAt = .iso now

/-- The write of an `acquire` that was answered. -/
def wrote : LeaseEvent → Bool
  | ⟨.index _ _ _, .ok _, _, _⟩ => true
  | ⟨.create _, .ok _, _, _⟩ => true
  | _ => false

/-- The flag was set. -/
def owned : LeaseEvent → Bool
  | ⟨.owns, true, _, _⟩ => true
  | _ => false

/-- A request that changes nothing. -/
def LeaseOp.quiet : LeaseOp → Bool
  | .get | .now | .kill _ | .owns => true
  | _ => false

/-- What a call has read when it sends a request. -/
inductive Sends : LeaseCall → List LeaseEvent → LeaseOp → Prop
  | quiet {c : LeaseCall} {past : List LeaseEvent} {o : LeaseOp} (h : o.quiet = true) : Sends c past o
  | index {svc : GpuVmLeaseService} {past : List LeaseEvent} {s : LeaseRead} {d : EsLease}
      (read : Read past (some s)) (why : Replaceable svc past s.source)
      (takes : Takes svc past (some s.source) d) :
      Sends (.acquire svc) past (.index d s.seqNo s.primaryTerm)
  | create {svc : GpuVmLeaseService} {past : List LeaseEvent} {d : EsLease} (read : Read past none)
      (takes : Takes svc past none d) : Sends (.acquire svc) past (.create d)
  | take {svc : GpuVmLeaseService} {past : List LeaseEvent} (written : past.any wrote = true) :
      Sends (.acquire svc) past (.setOwns true)
  | update {svc : GpuVmLeaseService} {past : List LeaseEvent} {heartbeatAt : Stamp}
      (flag : past.any owned = true) : Sends (.heartbeat svc) past (.update heartbeatAt)
  | delete {svc : GpuVmLeaseService} {past : List LeaseEvent} (flag : past.any owned = true) :
      Sends (.release svc) past .delete
  | drop {svc : GpuVmLeaseService} {past : List LeaseEvent} : Sends (.release svc) past (.setOwns false)

section Histories

variable {svc : GpuVmLeaseService} {past es fs : List LeaseEvent} {holder : EsLease} {t : Time}
variable {c : LeaseCall}

theorem Read.append {res : Option LeaseRead} (h : Read es res) : Read (es ++ fs) res := by
  cases es with
  | nil => cases h
  | cons e es => exact h

theorem ReadClock.left (h : ReadClock es t) : ReadClock (es ++ fs) t := by
  obtain ⟨pre, post, hmem⟩ := h
  exact ⟨pre, post, List.mem_append_left _ hmem⟩

theorem ReadClock.right (h : ReadClock fs t) : ReadClock (es ++ fs) t := by
  obtain ⟨pre, post, hmem⟩ := h
  exact ⟨pre, post, List.mem_append_right _ hmem⟩

theorem Dead.right {pid : ℤ} (h : Dead fs pid) : Dead (es ++ fs) pid := by
  rcases h with h | ⟨code, pre, post, hne, hmem⟩
  · exact .inl h
  · exact .inr ⟨code, pre, post, hne, List.mem_append_right _ hmem⟩

theorem Dead.left {pid : ℤ} (h : Dead es pid) : Dead (es ++ fs) pid := by
  rcases h with h | ⟨code, pre, post, hne, hmem⟩
  · exact .inl h
  · exact .inr ⟨code, pre, post, hne, List.mem_append_left _ hmem⟩

theorem Replaceable.left (h : Replaceable svc es holder) : Replaceable svc (es ++ fs) holder := by
  cases h with
  | unreadable h => exact .unreadable h
  | stale h read old => exact .stale h read.left old
  | mine h => exact .mine h
  | dead host dead => exact .dead host dead.left

theorem Replaceable.right (h : Replaceable svc fs holder) : Replaceable svc (es ++ fs) holder := by
  cases h with
  | unreadable h => exact .unreadable h
  | stale h read old => exact .stale h read.right old
  | mine h => exact .mine h
  | dead host dead => exact .dead host dead.right

/-! ## Runs of the parts -/

theorem runs_thisNow {r : Except JsError Time} (h : thisNow.run.Runs es r) :
    ∃ t pre post, r = .ok t ∧ es = [⟨.now, t, pre, post⟩] := by
  obtain ⟨t, ht, rfl⟩ := runs_lift.mp h
  obtain ⟨pre, post, rfl⟩ := runs_request.mp ht
  exact ⟨t, pre, post, rfl, rfl⟩

theorem readClock_thisNow (h : thisNow.run.Runs es (.ok t)) : ReadClock es t := by
  obtain ⟨t', pre, post, he, rfl⟩ := runs_thisNow h
  obtain rfl := Except.ok.inj he
  exact ⟨pre, post, List.mem_singleton_self _⟩

/-- What `readLease` returns is what its get has found. -/
theorem runs_readLease {res : Option LeaseRead} (h : readLease.run.Runs es (.ok res)) : Read es res := by
  obtain ⟨es₁, es₂, r, rfl, h₁, h₂⟩ := runs_ok_bind.mp h
  obtain ⟨pre, post, rfl⟩ := runs_request.mp (runs_attempt.mp h₁)
  cases r with
  | ok res' =>
    obtain ⟨rfl, he⟩ := runs_throws_pure.mp h₂
    rw [← Except.ok.inj he]
    rfl
  | error err =>
    dsimp only at h₂
    split_ifs at h₂ with h404
    · obtain ⟨rfl, he⟩ := runs_throws_pure.mp h₂
      rw [← Except.ok.inj he]
      show (if isStatusCode err 404 then some none else none) = _
      rw [if_pos h404]
    · obtain ⟨-, he⟩ := runs_throw.mp h₂
      cases he

/-- A lease that is not fresh is stale by the clock. -/
theorem runs_isFresh (h : (isFresh svc holder).run.Runs es (.ok false)) : Replaceable svc es holder := by
  unfold isFresh at h
  split at h
  · rename_i hparse
    exact .unreadable hparse
  · rename_i heartbeat hparse
    obtain ⟨es₁, es₂, now, rfl, h₁, h₂⟩ := runs_ok_bind.mp h
    obtain ⟨rfl, he⟩ := runs_throws_pure.mp h₂
    have hold := of_decide_eq_false (Except.ok.inj he)
    exact .stale hparse (readClock_thisNow h₁).left (Int.not_lt.mp hold)

/-- A process that is not alive is dead. -/
theorem runs_isProcessAlive {pid : ℤ} (h : (isProcessAlive pid).run.Runs es (.ok false)) :
    Dead es pid := by
  unfold isProcessAlive at h
  split_ifs at h with hpid
  · exact .inl hpid
  · obtain ⟨es₁, es₂, code, rfl, h₁, h₂⟩ := runs_ok_bind.mp h
    obtain ⟨a, ha, he⟩ := runs_lift.mp h₁
    obtain rfl := Except.ok.inj he
    obtain ⟨pre, post, rfl⟩ := runs_request.mp ha
    cases code with
    | none =>
      obtain ⟨-, he⟩ := runs_throws_pure.mp h₂
      cases he
    | some code =>
      obtain ⟨-, he⟩ := runs_throws_pure.mp h₂
      exact .inr ⟨code, pre, post, of_decide_eq_false (Except.ok.inj he), by simp⟩

theorem runs_isSameHostDeadOwner (h : (isSameHostDeadOwner svc holder).run.Runs es (.ok true)) :
    Replaceable svc es holder := by
  unfold isSameHostDeadOwner at h
  split_ifs at h with hhost
  · obtain ⟨es₁, es₂, alive, rfl, h₁, h₂⟩ := runs_ok_bind.mp h
    obtain ⟨rfl, he⟩ := runs_throws_pure.mp h₂
    have halive : alive = false := by simpa using Except.ok.inj he
    rw [halive] at h₁
    exact .dead hhost.1 (runs_isProcessAlive h₁).left
  · obtain ⟨-, he⟩ := runs_throws_pure.mp h
    cases he

/-- **A holder that is not refused may be replaced.** -/
theorem runs_shouldRefuseFreshLease
    (h : (shouldRefuseFreshLease svc holder).run.Runs es (.ok false)) : Replaceable svc es holder := by
  obtain ⟨es₁, es₂, fresh, rfl, h₁, h₂⟩ := runs_ok_bind.mp h
  cases fresh with
  | false => exact (runs_isFresh h₁).left
  | true =>
    rw [if_pos rfl] at h₂
    split_ifs at h₂ with hmine
    · exact .mine hmine
    · obtain ⟨es₃, es₄, dead, rfl, h₃, h₄⟩ := runs_ok_bind.mp h₂
      obtain ⟨rfl, he⟩ := runs_throws_pure.mp h₄
      have hdead : dead = true := by simpa using Except.ok.inj he
      rw [hdead] at h₃
      exact (runs_isSameHostDeadOwner h₃).left.right

theorem isMine_self {acquiredAt heartbeatAt : Stamp} : isMine svc
    ⟨svc.vmHost, svc.ownerHostname, svc.ownerPid, acquiredAt, heartbeatAt⟩ = true := by
  simp [isMine]

theorem runs_buildDoc {acquiredAt : Stamp} {d : EsLease}
    (h : (buildDoc svc acquiredAt).run.Runs es (.ok d)) :
    isMine svc d = true ∧ d.acquiredAt = acquiredAt := by
  obtain ⟨es₁, es₂, now, rfl, h₁, h₂⟩ := runs_ok_bind.mp h
  obtain ⟨-, he⟩ := runs_throws_pure.mp h₂
  rw [← Except.ok.inj he]
  exact ⟨isMine_self, rfl⟩

/-- The document that replaces a lease. -/
theorem takes_of_runs {acquiredAt : Stamp} {d : EsLease}
    (h₁ : (takeoverStamp svc holder).run.Runs es (.ok acquiredAt))
    (h₂ : (buildDoc svc acquiredAt).run.Runs fs (.ok d)) : Takes svc (past ++ es ++ fs) (some holder) d := by
  obtain ⟨hmine, hacquired⟩ := runs_buildDoc h₂
  unfold takeoverStamp at h₁
  refine ⟨hmine, fun lease hlease hown => ?_, fun hother => ?_⟩
  · obtain rfl := Option.some.inj hlease
    rw [if_pos hown] at h₁
    obtain ⟨-, he⟩ := runs_throws_pure.mp h₁
    rw [hacquired, Except.ok.inj he]
  · have hno := hother holder rfl
    rw [if_neg (by simp [hno])] at h₁
    obtain ⟨es₁, es₂, now, rfl, h₃, h₄⟩ := runs_ok_bind.mp h₁
    obtain ⟨rfl, he⟩ := runs_throws_pure.mp h₄
    exact ⟨now, (readClock_thisNow h₃).left.right.left, by rw [hacquired, ← Except.ok.inj he]⟩

/-! ## The rules of the calls -/

/-- A body that only reads. -/
theorem sends_quiet {α : Type} {x : LeaseJs α} (h : x.run.Uses fun o => o.quiet = true) :
    x.run.Issues (Sends c) past := (h.issues past).mono fun _ _ => .quiet

theorem quiet_readLease : readLease.run.Uses fun o => o.quiet = true := by
  refine uses_throws_bind (uses_attempt (uses_request.mpr rfl)) fun r => ?_
  cases r with
  | ok res => exact uses_throws_pure _
  | error err => exact uses_ite (uses_throws_pure _) (uses_throw _)

theorem quiet_thisNow : thisNow.run.Uses fun o => o.quiet = true := uses_lift (uses_request.mpr rfl)

theorem quiet_isFresh : (isFresh svc holder).run.Uses fun o => o.quiet = true := by
  unfold isFresh
  split
  · exact uses_throws_pure _
  · exact uses_throws_bind quiet_thisNow fun _ => uses_throws_pure _

theorem quiet_isProcessAlive {pid : ℤ} : (isProcessAlive pid).run.Uses fun o => o.quiet = true := by
  refine uses_ite (uses_throws_pure _) ?_
  refine uses_throws_bind (uses_lift (uses_request.mpr rfl)) fun code => ?_
  cases code <;> exact uses_throws_pure _

theorem quiet_shouldRefuseFreshLease :
    (shouldRefuseFreshLease svc holder).run.Uses fun o => o.quiet = true := by
  refine uses_throws_bind quiet_isFresh fun fresh => uses_ite ?_ (uses_throws_pure _)
  refine uses_ite (uses_throws_pure _) (uses_throws_bind ?_ fun _ => uses_throws_pure _)
  exact uses_ite (uses_throws_bind quiet_isProcessAlive fun _ => uses_throws_pure _) (uses_throws_pure _)

theorem quiet_refusal : (refusal svc holder).run.Uses fun o => o.quiet = true :=
  uses_throws_bind quiet_thisNow fun _ => uses_throws_pure _

theorem quiet_refuseAfterConflict : (refuseAfterConflict svc).run.Uses fun o => o.quiet = true := by
  refine uses_throws_bind quiet_readLease fun current => ?_
  cases current with
  | none => exact uses_throws_pure _
  | some current =>
    exact uses_throws_bind quiet_shouldRefuseFreshLease fun _ => uses_ite quiet_refusal (uses_throws_pure _)

theorem quiet_takeoverStamp : (takeoverStamp svc holder).run.Uses fun o => o.quiet = true :=
  uses_ite (uses_throws_pure _) (uses_throws_bind quiet_thisNow fun _ => uses_throws_pure _)

theorem quiet_buildDoc {acquiredAt : Stamp} : (buildDoc svc acquiredAt).run.Uses fun o => o.quiet = true :=
  uses_throws_bind quiet_thisNow fun _ => uses_throws_pure _

/-- After its write a call sets its flag only if the write was answered. -/
theorem sends_settleWrite {outcome : Except JsError Unit}
    (hpast : outcome = .ok () → past.any wrote = true) :
    (settleWrite svc outcome).run.Issues (Sends (.acquire svc)) past := by
  cases outcome with
  | ok u =>
    exact Issues.throws_bind' (issues_lift (issues_request (.take (hpast rfl)))) fun _ _ =>
      issues_throws_pure _
  | error err =>
    unfold settleWrite
    dsimp only
    split_ifs
    · exact sends_quiet quiet_refuseAfterConflict
    · exact issues_throw _

theorem sends_replaceLease {existing : LeaseRead} (hread : Read past (some existing))
    (hwhy : Replaceable svc past existing.source) :
    (replaceLease svc existing).run.Issues (Sends (.acquire svc)) past := by
  refine Issues.throws_bind (sends_quiet quiet_takeoverStamp) fun es₁ acquiredAt h₁ => ?_
  refine Issues.throws_bind (sends_quiet quiet_buildDoc) fun es₂ doc h₂ => ?_
  have hsend : Sends (.acquire svc) (past ++ es₁ ++ es₂) (.index doc existing.seqNo existing.primaryTerm) :=
    .index hread.append.append hwhy.left.left (takes_of_runs h₁ h₂)
  refine Issues.throws_bind (issues_attempt (issues_request hsend)) fun es₃ outcome h₃ => ?_
  obtain ⟨pre, post, rfl⟩ := runs_request.mp (runs_attempt.mp h₃)
  refine sends_settleWrite fun ho => ?_
  rw [ho]
  simp [wrote]

theorem sends_createLease (hread : Read past none) :
    (createLease svc).run.Issues (Sends (.acquire svc)) past := by
  refine Issues.throws_bind (sends_quiet quiet_thisNow) fun es₁ now h₁ => ?_
  refine Issues.throws_bind (sends_quiet quiet_buildDoc) fun es₂ doc h₂ => ?_
  obtain ⟨hmine, hacquired⟩ := runs_buildDoc h₂
  have hsend : Sends (.acquire svc) (past ++ es₁ ++ es₂) (.create doc) :=
    .create hread.append.append ⟨hmine, fun _ h => (nomatch h), fun _ =>
      ⟨now, (readClock_thisNow h₁).right.left, hacquired⟩⟩
  refine Issues.throws_bind (issues_attempt (issues_request hsend)) fun es₃ outcome h₃ => ?_
  obtain ⟨pre, post, rfl⟩ := runs_request.mp (runs_attempt.mp h₃)
  refine sends_settleWrite fun ho => ?_
  rw [ho]
  simp [wrote]

theorem sends_acquire : (acquire svc).run.Issues (Sends (.acquire svc)) [] := by
  refine Issues.throws_bind' (issues_attempt ?_) fun past outcome => ?_
  · refine Issues.throws_bind (sends_quiet quiet_readLease) fun es existing h => ?_
    have hread := runs_readLease h
    cases existing with
    | none => exact sends_createLease hread
    | some existing =>
      refine Issues.throws_bind (sends_quiet quiet_shouldRefuseFreshLease) fun es₂ refuse h₂ => ?_
      cases refuse with
      | true => exact sends_quiet quiet_refusal
      | false => exact sends_replaceLease hread.append (runs_shouldRefuseFreshLease h₂).right
  · cases outcome <;> exact issues_throws_pure _

theorem runs_thisOwns {b : Bool} (h : thisOwns.run.Runs es (.ok b)) :
    ∃ pre post, es = [⟨.owns, b, pre, post⟩] := by
  obtain ⟨b', hb, he⟩ := runs_lift.mp h
  obtain rfl := Except.ok.inj he
  exact runs_request.mp hb

theorem quiet_thisOwns : thisOwns.run.Uses fun o => o.quiet = true := uses_lift (uses_request.mpr rfl)

theorem sends_heartbeat : heartbeat.run.Issues (Sends (.heartbeat svc)) [] := by
  refine Issues.throws_bind (sends_quiet quiet_thisOwns) fun es b h => ?_
  obtain ⟨pre, post, rfl⟩ := runs_thisOwns h
  cases b with
  | false => exact issues_throws_pure _
  | true =>
    refine Issues.throws_bind (sends_quiet quiet_thisNow) fun es₂ now _ => ?_
    have hflag : ([] ++ [⟨.owns, true, pre, post⟩] ++ es₂ : List LeaseEvent).any owned = true := by
      simp [owned]
    exact Issues.throws_bind' (issues_attempt (issues_request (.update hflag))) fun _ _ =>
      issues_throws_pure _

theorem sends_release : release.run.Issues (Sends (.release svc)) [] := by
  refine Issues.throws_bind (sends_quiet quiet_thisOwns) fun es b h => ?_
  obtain ⟨pre, post, rfl⟩ := runs_thisOwns h
  cases b with
  | false => exact issues_throws_pure _
  | true =>
    have hflag : ([] ++ [⟨.owns, true, pre, post⟩] : List LeaseEvent).any owned = true := by
      simp [owned]
    refine Issues.throws_bind' (issues_attempt (issues_request (.delete hflag))) fun past r => ?_
    have hdrop : (setOwns false).run.Issues (Sends (.release svc)) past := issues_lift (issues_request .drop)
    cases r with
    | ok u => exact hdrop
    | error err =>
      dsimp only
      split_ifs
      · exact hdrop
      · exact issues_throws_pure _

/-- **Every call sends what the rules allow.** -/
theorem sends_leaseBody (c : LeaseCall) : (leaseBody c).Issues (Sends c) [] := by
  cases c with
  | acquire svc => exact sends_acquire
  | heartbeat svc => exact sends_heartbeat
  | release svc => exact sends_release

end Histories

end Benchmarker.GpuVmLease
