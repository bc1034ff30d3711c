import Benchmarker.Async.Threads
import Benchmarker.Queue.Index

/-!
# The lease document

The requests that `GpuVmLeaseService` sends, and the world that serves them: one lease document per
VM host in Elasticsearch, the clock, the processes of a host, and the flag of every service. A create
fails when the document exists; an index with `if_seq_no`/`if_primary_term` is a compare-and-set;
every write, a delete included, takes a new sequence number. Any request may be rejected, or carried
out with its response lost.

* `Stamp`, `EsLease`, `GpuVmLeaseService`: timestamps, the document, a service.
* `LeaseOp`, `LeaseAns`, `LeaseWorld`, `serve`: the requests, their answers, and how they are served.
* **`serve_cases`**, `Later`: what a served request does to the document.
-/

namespace Benchmarker.GpuVmLease

open Async Async.Prog

/-! ## Documents -/

/-- A stored timestamp: what `toISOString` writes, or a text that `Date.parse` cannot read. -/
inductive Stamp
  | iso (t : Time)
  | unreadable (text : String)
  deriving DecidableEq

/-- `Date.parse`; `none` is `NaN`. -/
def Stamp.parse : Stamp → Option Time
  | iso t => some t
  | unreadable _ => none

/-- `EsLease`, and also `LeaseHolder`: `toHolder` only renames the fields. -/
structure EsLease where
  vmHost : String
  ownerHostname : String
  ownerPid : ℤ
  acquiredAt : Stamp
  heartbeatAt : Stamp
  deriving DecidableEq

/-- What `readLease` returns of a document. -/
structure LeaseRead where
  source : EsLease
  seqNo : ℕ
  primaryTerm : ℕ
  deriving DecidableEq

/-- `DEFAULT_STALE_AFTER_MS`. -/
def defaultStaleAfterMs : ℕ := 120000

/-- A `GpuVmLeaseService`, by the fields that its constructor sets; `serial` tells apart services
with the same fields. -/
structure GpuVmLeaseService where
  serial : ℕ
  vmHost : String
  ownerHostname : String
  ownerPid : ℤ
  staleAfterMs : ℕ := defaultStaleAfterMs
  deriving DecidableEq

/-! ## Requests -/

/-- The requests of the service. `owns` and `setOwns` read and write its own flag. -/
inductive LeaseOp
  | get
  | index (document : EsLease) (ifSeqNo ifPrimaryTerm : ℕ)
  | create (document : EsLease)
  | update (heartbeatAt : Stamp)
  | delete
  | now
  /-- `process.kill(pid, 0)`. -/
  | kill (pid : ℤ)
  | owns
  | setOwns (b : Bool)
  deriving DecidableEq

/-- The answers. `kill` throws an error with a code, or returns. -/
@[reducible] def LeaseAns : LeaseOp → Type
  | .get => Except JsError (Option LeaseRead)
  | .index _ _ _ | .create _ | .update _ | .delete => Except JsError Unit
  | .now => Time
  | .kill _ => Option String
  | .owns => Bool
  | .setOwns _ => Unit

/-! ## The world -/

/-- The lease document with its version, the clock, and the services whose flag is set. -/
structure LeaseWorld where
  lease : Option LeaseRead := none
  nextSeqNo : ℕ := 0
  primaryTerm : ℕ := 1
  clock : Time := 0
  owners : List GpuVmLeaseService := []
  deriving DecidableEq

namespace LeaseWorld

/-- Write the document. -/
def put (w : LeaseWorld) (document : EsLease) : LeaseWorld :=
  { w with lease := some ⟨document, w.nextSeqNo, w.primaryTerm⟩, nextSeqNo := w.nextSeqNo + 1 }

/-- Delete the document. -/
def drop (w : LeaseWorld) : LeaseWorld := { w with lease := none, nextSeqNo := w.nextSeqNo + 1 }

/-- Set or clear the flag of a service. -/
def flag (w : LeaseWorld) (svc : GpuVmLeaseService) (b : Bool) : LeaseWorld :=
  { w with owners := if b then svc :: w.owners else w.owners.filter (· ≠ svc) }

end LeaseWorld

/-- The answer that the world chooses: the request is carried out, with `code` for what `kill`
throws; or it is rejected; or it is carried out and the response is lost. -/
inductive LeaseChoice
  | ok
  | killed (code : Option String)
  | rejected (e : JsError)
  | lost (e : JsError)
  deriving DecidableEq

/-- A version conflict. -/
def conflict : JsError := ⟨"version_conflict_engine_exception", some 409⟩

/-- A missing document. -/
def missing : JsError := ⟨"not_found", some 404⟩

/-- A request of the service `svc` that is carried out. -/
def accept (svc : GpuVmLeaseService) : (o : LeaseOp) → LeaseChoice → LeaseWorld →
    Option (LeaseAns o × LeaseWorld)
  | .get, .ok, w =>
    match w.lease with
    | some s => some (.ok (some s), w)
    | none => some (.error missing, w)
  | .index document ifSeqNo ifPrimaryTerm, .ok, w =>
    if w.lease.any fun s => s.seqNo = ifSeqNo ∧ s.primaryTerm = ifPrimaryTerm then
      some (.ok (), w.put document)
    else some (.error conflict, w)
  | .create document, .ok, w =>
    if w.lease = none then some (.ok (), w.put document) else some (.error conflict, w)
  | .update heartbeatAt, .ok, w =>
    match w.lease with
    | some s =>
      if s.source.heartbeatAt = heartbeatAt then some (.ok (), w)
      else some (.ok (), w.put { s.source with heartbeatAt := heartbeatAt })
    | none => some (.error missing, w)
  | .delete, .ok, w =>
    match w.lease with
    | some _ => some (.ok (), w.drop)
    | none => some (.error missing, w)
  | .now, .ok, w => some (w.clock, w)
  | .kill _, .killed code, w => some (code, w)
  | .owns, .ok, w => some (decide (svc ∈ w.owners), w)
  | .setOwns b, .ok, w => some ((), w.flag svc b)
  | _, _, _ => none

/-- The answer that reports an error; only requests to Elasticsearch have one. -/
def failed : (o : LeaseOp) → JsError → Option (LeaseAns o)
  | .get, e => some (.error e)
  | .index _ _ _, e => some (.error e)
  | .create _, e => some (.error e)
  | .update _, e => some (.error e)
  | .delete, e => some (.error e)
  | .now, _ | .kill _, _ | .owns, _ | .setOwns _, _ => none

/-- **Serving a request.** A rejection is never a 404, which reports a missing document, and the
loss of a response carries neither a 404 nor a 409. -/
def serve (svc : GpuVmLeaseService) (o : LeaseOp) (ch : LeaseChoice) (w : LeaseWorld) :
    Option (LeaseAns o × LeaseWorld) :=
  match ch with
  | .rejected e => if isStatusCode e 404 then none else (failed o e).map (·, w)
  | .lost e =>
    if isStatusCode e 404 || isStatusCode e 409 then none
    else (accept svc o .ok w).bind fun a => (failed o e).map (·, a.2)
  | ch => accept svc o ch w

/-! ## What a request can do -/

/-- All that a served request can do to the world. -/
inductive Effect (svc : GpuVmLeaseService) (w : LeaseWorld) : LeaseOp → LeaseWorld → Prop
  | none (o : LeaseOp) : Effect svc w o w
  | index {d : EsLease} {p : ℕ} {s : LeaseRead} (found : w.lease = some s) :
      Effect svc w (.index d s.seqNo p) (w.put d)
  | create {d : EsLease} (absent : w.lease = Option.none) : Effect svc w (.create d) (w.put d)
  | update {heartbeatAt : Stamp} {s : LeaseRead} (found : w.lease = some s) :
      Effect svc w (.update heartbeatAt) (w.put { s.source with heartbeatAt := heartbeatAt })
  | delete {s : LeaseRead} (found : w.lease = some s) : Effect svc w .delete w.drop
  | flag (b : Bool) : Effect svc w (.setOwns b) (w.flag svc b)

section Serve

variable {svc : GpuVmLeaseService} {o : LeaseOp} {ch : LeaseChoice} {w w' : LeaseWorld}

theorem accept_effect {r : LeaseAns o} (h : accept svc o ch w = some (r, w')) : Effect svc w o w' := by
  unfold accept at h
  split at h
  · split at h <;> obtain ⟨-, rfl⟩ := Prod.mk.inj (Option.some.inj h) <;> exact .none _
  · split at h
    · rename_i hany
      obtain ⟨-, rfl⟩ := Prod.mk.inj (Option.some.inj h)
      obtain ⟨s, hs, hv⟩ := (Option.any_eq_true _ _).mp hany
      obtain ⟨rfl, -⟩ := of_decide_eq_true hv
      exact .index hs
    · obtain ⟨-, rfl⟩ := Prod.mk.inj (Option.some.inj h)
      exact .none _
  · split at h
    · rename_i habsent
      obtain ⟨-, rfl⟩ := Prod.mk.inj (Option.some.inj h)
      exact .create habsent
    · obtain ⟨-, rfl⟩ := Prod.mk.inj (Option.some.inj h)
      exact .none _
  · split at h
    · rename_i hs
      split at h <;> obtain ⟨-, rfl⟩ := Prod.mk.inj (Option.some.inj h)
      · exact .none _
      · exact .update hs
    · obtain ⟨-, rfl⟩ := Prod.mk.inj (Option.some.inj h)
      exact .none _
  · split at h
    · rename_i hs
      obtain ⟨-, rfl⟩ := Prod.mk.inj (Option.some.inj h)
      exact .delete hs
    · obtain ⟨-, rfl⟩ := Prod.mk.inj (Option.some.inj h)
      exact .none _
  · obtain ⟨-, rfl⟩ := Prod.mk.inj (Option.some.inj h)
    exact .none _
  · obtain ⟨-, rfl⟩ := Prod.mk.inj (Option.some.inj h)
    exact .none _
  · obtain ⟨-, rfl⟩ := Prod.mk.inj (Option.some.inj h)
    exact .none _
  · obtain ⟨-, rfl⟩ := Prod.mk.inj (Option.some.inj h)
    exact .flag _
  · cases h

/-- A served request is carried out, or rejected, or carried out with its response lost. -/
theorem serve_cases {r : LeaseAns o} (h : serve svc o ch w = some (r, w')) :
    (∃ ch', accept svc o ch' w = some (r, w')) ∨
      (∃ e, failed o e = some r ∧ isStatusCode e 404 = false ∧ w' = w) ∨
      ∃ e r', ch = .lost e ∧ failed o e = some r ∧ accept svc o .ok w = some (r', w') := by
  unfold serve at h
  split at h
  · rename_i e
    split at h
    · cases h
    · rename_i h404
      obtain ⟨a, ha, hb⟩ := Option.map_eq_some_iff.mp h
      obtain ⟨rfl, rfl⟩ := Prod.mk.inj hb
      exact .inr (.inl ⟨e, ha, by simpa using h404, rfl⟩)
  · rename_i e
    split at h
    · cases h
    · obtain ⟨⟨r', u⟩, ha, hb⟩ := Option.bind_eq_some_iff.mp h
      obtain ⟨a, hf, ha'⟩ := Option.map_eq_some_iff.mp hb
      obtain ⟨rfl, rfl⟩ := Prod.mk.inj ha'
      exact .inr (.inr ⟨e, r', rfl, hf, ha⟩)
  · exact .inl ⟨ch, h⟩

/-- **All that a served request can do to the world**, whether its response arrives or not. -/
theorem serve_effect {r : LeaseAns o} (h : serve svc o ch w = some (r, w')) : Effect svc w o w' := by
  rcases serve_cases h with ⟨ch', h⟩ | ⟨-, -, -, rfl⟩ | ⟨-, r', -, -, h⟩
  · exact accept_effect h
  · exact .none _
  · exact accept_effect h

/-! ## What an answer says -/

/-- The document that a get returns is the stored one. -/
theorem serve_get {res : Option LeaseRead} (h : serve svc .get ch w = some (.ok res, w')) :
    w' = w ∧ res = w.lease := by
  rcases serve_cases h with ⟨ch', h⟩ | ⟨e, hf, -⟩ | ⟨e, r', -, hf, -⟩
  · cases ch' with
    | ok =>
      simp only [accept] at h
      cases hl : w.lease with
      | none =>
        rw [hl] at h
        simp at h
      | some s =>
        rw [hl] at h
        simp only [Option.some.injEq, Prod.mk.injEq, Except.ok.injEq] at h
        exact ⟨h.2.symm, h.1.symm⟩
    | _ => cases h
  · simp [failed] at hf
  · simp [failed] at hf

/-- A get that reports a missing document is right. -/
theorem serve_get_missing {e : JsError} (h : serve svc .get ch w = some (.error e, w'))
    (h404 : isStatusCode e 404 = true) (hlost : ∀ e, ch ≠ .lost e) : w.lease = none := by
  rcases serve_cases h with ⟨ch', h⟩ | ⟨e', hf, hne, -⟩ | ⟨e', r', hch, -, -⟩
  · cases ch' with
    | ok =>
      simp only [accept] at h
      cases hl : w.lease with
      | none => rfl
      | some s =>
        rw [hl] at h
        simp at h
    | _ => cases h
  · simp only [failed, Option.some.injEq, Except.error.injEq] at hf
    rw [hf, h404] at hne
    cases hne
  · exact absurd hch (hlost e')

/-- A compare-and-set that returns found the version that it names. -/
theorem serve_index {d : EsLease} {n p : ℕ} (h : serve svc (.index d n p) ch w = some (.ok (), w')) :
    ∃ s, w.lease = some s ∧ s.seqNo = n ∧ w' = w.put d := by
  rcases serve_cases h with ⟨ch', h⟩ | ⟨e, hf, -⟩ | ⟨e, r', -, hf, -⟩
  · cases ch' with
    | ok =>
      simp only [accept] at h
      split at h
      · rename_i hany
        obtain ⟨s, hs, hv⟩ := (Option.any_eq_true _ _).mp hany
        simp only [Option.some.injEq, Prod.mk.injEq, true_and] at h
        exact ⟨s, hs, (of_decide_eq_true hv).1, h.symm⟩
      · simp at h
    | _ => cases h
  · simp [failed] at hf
  · simp [failed] at hf

/-- A create that returns found no document. -/
theorem serve_create {d : EsLease} (h : serve svc (.create d) ch w = some (.ok (), w')) :
    w.lease = none ∧ w' = w.put d := by
  rcases serve_cases h with ⟨ch', h⟩ | ⟨e, hf, -⟩ | ⟨e, r', -, hf, -⟩
  · cases ch' with
    | ok =>
      simp only [accept] at h
      split at h
      · rename_i habsent
        simp only [Option.some.injEq, Prod.mk.injEq, true_and] at h
        exact ⟨habsent, h.symm⟩
      · simp at h
    | _ => cases h
  · simp [failed] at hf
  · simp [failed] at hf

/-- A compare-and-set that reports an error has written nothing, unless its response was lost. -/
theorem serve_index_error {d : EsLease} {n p : ℕ} {e : JsError}
    (h : serve svc (.index d n p) ch w = some (.error e, w')) (hlost : ∀ e, ch ≠ .lost e) : w' = w := by
  rcases serve_cases h with ⟨ch', h⟩ | ⟨-, -, -, rfl⟩ | ⟨e', r', hch, -, -⟩
  · cases ch' with
    | ok =>
      simp only [accept] at h
      split at h
      · simp at h
      · simp only [Option.some.injEq, Prod.mk.injEq] at h
        exact h.2.symm
    | _ => cases h
  · rfl
  · exact absurd hch (hlost e')

/-- The same for a create. -/
theorem serve_create_error {d : EsLease} {e : JsError}
    (h : serve svc (.create d) ch w = some (.error e, w')) (hlost : ∀ e, ch ≠ .lost e) : w' = w := by
  rcases serve_cases h with ⟨ch', h⟩ | ⟨-, -, -, rfl⟩ | ⟨e', r', hch, -, -⟩
  · cases ch' with
    | ok =>
      simp only [accept] at h
      split at h
      · simp at h
      · simp only [Option.some.injEq, Prod.mk.injEq] at h
        exact h.2.symm
    | _ => cases h
  · rfl
  · exact absurd hch (hlost e')

theorem serve_owns {b : Bool} (h : serve svc .owns ch w = some (b, w')) :
    b = decide (svc ∈ w.owners) ∧ w' = w := by
  rcases serve_cases h with ⟨ch', h⟩ | ⟨e, hf, -⟩ | ⟨e, r', -, hf, -⟩
  · cases ch' with
    | ok =>
      obtain ⟨hb, hw⟩ := Prod.mk.inj (Option.some.inj h)
      exact ⟨hb.symm, hw.symm⟩
    | _ => cases h
  · cases hf
  · cases hf

end Serve

/-! ## Versions -/

/-- The sequence number of the document is below the next one. -/
def LeaseWorld.Wf (w : LeaseWorld) : Prop := ∀ s, w.lease = some s → s.seqNo < w.nextSeqNo

/-- The world moves on from `w` to `w'`: a document that was written meanwhile has a sequence number
that `w` had not given yet. -/
structure Later (w w' : LeaseWorld) : Prop where
  next : w.nextSeqNo ≤ w'.nextSeqNo
  clock : w.clock ≤ w'.clock
  lease : ∀ s, w'.lease = some s → w.lease = some s ∨ w.nextSeqNo ≤ s.seqNo

section Later

variable {svc : GpuVmLeaseService} {o : LeaseOp} {u v w w' : LeaseWorld}

theorem Later.refl (w : LeaseWorld) : Later w w := ⟨le_rfl, le_rfl, fun _ h => .inl h⟩

theorem Later.trans (h : Later u v) (h' : Later v w) : Later u w := by
  refine ⟨h.next.trans h'.next, h.clock.trans h'.clock, fun s hs => ?_⟩
  rcases h'.lease s hs with hs | hle
  · exact h.lease s hs
  · exact .inr (h.next.trans hle)

/-- **An unchanged sequence number means an unchanged document.** -/
theorem Later.unwritten (h : Later w w') (hw : w.Wf) {s s' : LeaseRead} (hs : w.lease = some s)
    (hs' : w'.lease = some s') (hv : s'.seqNo = s.seqNo) : s' = s := by
  rcases h.lease s' hs' with heq | hle
  · exact Option.some.inj (heq.symm.trans hs)
  · have := hw s hs
    omega

theorem later_put (d : EsLease) : Later w (w.put d) := by
  refine ⟨Nat.le_succ _, le_rfl, fun s hs => .inr ?_⟩
  rw [← Option.some.inj hs]

theorem Effect.later (h : Effect svc w o w') : Later w w' := by
  cases h with
  | none => exact .refl _
  | index | create | update => exact later_put _
  | delete => exact ⟨Nat.le_succ _, le_rfl, fun _ hs => nomatch hs⟩
  | flag => exact ⟨le_rfl, le_rfl, fun _ hs => .inl hs⟩

theorem wf_put (d : EsLease) : (w.put d).Wf := by
  intro s hs
  rw [← Option.some.inj hs]
  exact Nat.lt_succ_self _

theorem Effect.wf (h : Effect svc w o w') (hw : w.Wf) : w'.Wf := by
  cases h with
  | none => exact hw
  | index | create | update => exact wf_put _
  | delete => exact fun _ hs => nomatch hs
  | flag => exact hw

end Later

end Benchmarker.GpuVmLease
