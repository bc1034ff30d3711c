import Benchmarker.Buzz.Threads
import Benchmarker.Queue.Index

/-!
# What the notifier knows after a snapshot

Every entry is looked at at most once in a call: in the snapshot, or through the resolver. The status that
it has then is its actual status; no status stands for an entry that is not there.

* `Honest`, `Truthful`: the snapshot and the resolver tell actual statuses.
* `status_observe`, `status_observeEach`, `status_resolveEach`, **`status_processSnapshot`**: what is stored
  after a call that returns normally.
* **`caughtUp_iff`**: when that is the actual status. `requeued_missed`: an entry that came back.
-/

namespace Benchmarker.Buzz

open Async Async.Prog Js

variable {W : Type}

/-- The stored status of an entry. -/
def Store.status (s : Store) (id : String) : Option Status := (s.get id).map (·.status)

/-- The resolver tells the actual status of the entry, or that there is no such entry. -/
def Honest (actual : String → Option Status) : (o : BuzzOp) → BuzzAns o → Prop
  | .resolveById id, r =>
    match r with
    | .ok (some entry) => entry.id = id ∧ actual id = some entry.status
    | .ok none => actual id = none
    | .error _ => True
  | .postRoot _ _, _ => True
  | .postReply _ _ _, _ => True

/-- The snapshot and the answers of the resolver tell the actual statuses. -/
structure Truthful (actual : String → Option Status) (snapshot : QueueSnapshot)
    (es : List (BuzzEvent W)) : Prop where
  shown : ∀ entry ∈ (observed snapshot).map (·.2), actual entry.id = some entry.status
  resolved : ∀ e ∈ es, Honest actual e.op e.ans

/-- The store has the actual status of every tracked entry. -/
def CaughtUp (actual : String → Option Status) (s : Store) : Prop :=
  ∀ id st a, s.status id = some st → actual id = some a → st = a

variable {actual : String → Option Status} {s s' : Store} {es : List (BuzzEvent W)}

/-! ## What is stored -/

/-- **An observation that succeeds stores the observed status.** -/
theorem status_observe {entry : NotifiableEntry} (h : RunsFrom (observe entry) s es (.ok ()) s')
    (id : String) : s'.status id = if id = entry.id then some entry.status else s.status id := by
  by_cases hid : id = entry.id
  · rw [if_pos hid, hid]
    exact ((observes h).stored rfl).2
  · rw [if_neg hid, Store.status, ((observes h).others hid).1]
    rfl

theorem status_observeEach {entries : List NotifiableEntry}
    (h : RunsFrom (observeEach entries) s es (.ok ()) s')
    (hshown : ∀ entry ∈ entries, actual entry.id = some entry.status) (id : String) :
    s'.status id = if id ∈ entries.map (·.id) then actual id else s.status id := by
  induction entries generalizing s es with
  | nil =>
    obtain ⟨rfl, -, rfl⟩ := runsFrom_pure.mp h
    rw [List.map_nil, if_neg List.not_mem_nil]
  | cons entry entries ih =>
    rcases runsFrom_bind.mp h with ⟨es₁, es₂, a, t, rfl, h₁, h₂⟩ | ⟨e, h₁, habs⟩
    · have hhead := status_observe h₁ id
      have htail := ih h₂ fun e he => hshown e (List.mem_cons_of_mem _ he)
      rw [htail, hhead, List.map_cons]
      by_cases hid : id = entry.id
      · rw [if_pos hid, if_pos (List.mem_cons.mpr (.inl hid)), hid, hshown entry List.mem_cons_self,
          ite_self]
      · rw [if_neg hid]
        simp only [List.mem_cons, hid, false_or]
    · cases habs

/-- The tracked entries that the snapshot does not show are looked up. -/
theorem status_resolveEach {seen : JsMap String NotifiableEntry} {ids : List String}
    (h : RunsFrom (resolveEach seen ids) s es (.ok ()) s')
    (hhonest : ∀ e ∈ es, Honest actual e.op e.ans) (id : String) :
    s'.status id = if id ∈ ids ∧ JsMap.has seen id = false then (actual id).or (s.status id)
      else s.status id := by
  induction ids generalizing s es with
  | nil =>
    obtain ⟨rfl, -, rfl⟩ := runsFrom_pure.mp h
    rw [if_neg fun hno => List.not_mem_nil hno.1]
  | cons first ids ih =>
    unfold resolveEach at h
    by_cases hseen : JsMap.has seen first = true
    · rw [if_pos hseen] at h
      rw [ih h hhonest]
      by_cases hid : id = first
      · have hshown : ¬ JsMap.has seen id = false := by rw [hid, hseen]; decide
        rw [if_neg fun hno => hshown hno.2, if_neg fun hno => hshown hno.2]
      · simp only [List.mem_cons, hid, false_or]
    · rw [if_neg hseen] at h
      rcases runsFrom_bind.mp h with ⟨es₁, es₂, found, t, rfl, h₁, h₂⟩ | ⟨e, -, habs⟩
      · obtain ⟨r, pre, post, rfl, hr, rfl⟩ := runsFrom_ask_orThrow.mp h₁
        obtain rfl : .ok found = r := hr
        have hanswer := hhonest _ List.mem_cons_self
        have hrest : ∀ e ∈ es₂, Honest actual e.op e.ans :=
          fun e he => hhonest e (List.mem_cons_of_mem _ he)
        cases found with
        | none =>
          have hgone : actual first = none := hanswer
          rw [ih h₂ hrest]
          by_cases hid : id = first
          · simp only [hid, hgone, Option.none_or, ite_self]
          · simp only [List.mem_cons, hid, false_or]
        | some resolved =>
          obtain ⟨hfirst, hactual⟩ : resolved.id = first ∧ actual first = some resolved.status := hanswer
          rcases runsFrom_bind.mp h₂ with ⟨es₃, es₄, b, u, rfl, h₃, h₄⟩ | ⟨e, -, habs⟩
          · have hhead := status_observe h₃ id
            rw [ih h₄ fun e he => hrest e (List.mem_append_right _ he), hhead, hfirst]
            by_cases hid : id = first
            · rw [if_pos hid, hid, hactual]
              simp [hseen]
            · rw [if_neg hid]
              simp only [List.mem_cons, hid, false_or]
          · cases habs
      · cases habs

/-! ## The rows of the store -/

theorem nodup_put (h : (JsMap.keys s).Nodup) (id : String) (state : TransitionState) :
    (JsMap.keys (s.put id state)).Nodup := by
  unfold Store.put
  cases s.get id with
  | none => exact JsMap.nodup_set h
  | some old => exact JsMap.nodup_set h

theorem nodup_course {xs : List (Observation W)} (h : Course s xs es s') (hs : (JsMap.keys s).Nodup) :
    (JsMap.keys s').Nodup := by
  induction h with
  | nil => exact hs
  | resolve _ _ _ _ _ ih => exact ih
  | observe x _ hmade ih =>
    obtain ⟨entry, before, events, result, after⟩ := x
    have hobs : Observes entry before events result after := observes hmade
    cases hobs with
    | same => exact ih
    | finished => exact nodup_put ih _ _
    | @root r content pre post hroot hnews =>
      cases r with
      | error e => exact ih
      | ok eventId => exact nodup_put ih _ _
    | @reply r root content pre post hroot hnews =>
      cases r with
      | error e => exact ih
      | ok eventId => exact nodup_put ih _ _

/-- The ids that `nonTerminal` returns are those of the tracked entries that are not terminal. -/
theorem mem_nonTerminal (hs : (JsMap.keys s).Nodup) {id : String} :
    id ∈ (Store.nonTerminal s).map (·.1) ↔ ∃ st, s.status id = some st ∧ st.terminal = false := by
  constructor
  · intro hmem
    obtain ⟨⟨key, state⟩, hrow, rfl⟩ := List.mem_map.mp hmem
    obtain ⟨hrow, hopen⟩ := List.mem_filter.mp hrow
    have hget : s.get key = some state := (JsMap.get_eq_some_iff hs).mpr hrow
    exact ⟨state.status, by rw [Store.status, hget]; rfl, by simpa using hopen⟩
  · rintro ⟨st, hst, hopen⟩
    obtain ⟨state, hget, rfl⟩ := Option.map_eq_some_iff.mp hst
    exact List.mem_map.mpr ⟨(id, state), List.mem_filter.mpr ⟨JsMap.mem_of_get_eq_some hget,
      by simpa using hopen⟩, rfl⟩

/-- The observed entries stand under their ids. -/
theorem observed_id {snapshot : QueueSnapshot} : ∀ kv ∈ observed snapshot, kv.1 = kv.2.id := by
  have hfold : ∀ (entries : List NotifiableEntry) (m : JsMap String NotifiableEntry),
      (∀ kv ∈ m, kv.1 = kv.2.id) →
      ∀ kv ∈ entries.foldl (fun m entry => JsMap.set m entry.id entry) m, kv.1 = kv.2.id := by
    intro entries
    induction entries with
    | nil => exact fun m hm => hm
    | cons entry entries ih =>
      intro m hm
      refine ih _ fun kv hkv => ?_
      rcases JsMap.mem_set hkv with rfl | hkv
      · rfl
      · exact hm kv hkv
  exact hfold _ [] fun kv hkv => absurd hkv List.not_mem_nil

theorem has_observed {snapshot : QueueSnapshot} {id : String} :
    JsMap.has (observed snapshot) id = true ↔
      id ∈ ((observed snapshot).map (·.2)).map (·.id) := by
  rw [JsMap.has, List.any_eq_true, List.map_map, List.mem_map]
  refine exists_congr fun kv => and_congr_right fun hkv => ?_
  rw [decide_eq_true_iff, observed_id kv hkv]
  rfl

/-! ## A whole call -/

/-- **What is stored after a call that returns normally**: the actual statuses of the entries that the
snapshot shows or that are looked up, and the old statuses of all others. -/
theorem status_processSnapshot {hasResolver : Bool} {snapshot : QueueSnapshot}
    (h : RunsFrom (processSnapshot hasResolver snapshot) s es (.ok ()) s')
    (hs : (JsMap.keys s).Nodup) (ht : Truthful actual snapshot es) (id : String) :
    s'.status id = if JsMap.has (observed snapshot) id = true then actual id
      else if hasResolver = true ∧ ∃ st, s.status id = some st ∧ st.terminal = false then
        (actual id).or (s.status id)
      else s.status id := by
  rcases runsFrom_bind.mp h with ⟨es₁, es₂, a, t, rfl, h₁, h₂⟩ | ⟨e, -, habs⟩
  · have hshown := status_observeEach h₁ ht.shown id
    obtain ⟨xs, hcourse, -⟩ := runs_observeEach h₁
    have ht' : (JsMap.keys t).Nodup := nodup_course hcourse hs
    simp only [← has_observed] at hshown
    cases hasResolver with
    | false =>
      obtain ⟨-, -, rfl⟩ := runsFrom_pure.mp h₂
      rw [hshown]
      simp
    | true =>
      have hlooked := status_resolveEach (runsFrom_get_bind.mp h₂)
        (fun e he => ht.resolved e (List.mem_append_right _ he)) id
      simp only [mem_nonTerminal ht'] at hlooked
      rw [hlooked, hshown]
      by_cases hseen : JsMap.has (observed snapshot) id = true
      · simp [hseen]
      · rw [if_neg hseen]
        simp [hseen]
  · cases habs

/-- **When a call catches up.** After any history, a call that returns normally leaves the actual status of
every tracked entry if and only if it is there already for the tracked entries that the snapshot does not
show and that are not looked up: those stored as terminal, or all of them when there is no resolver. -/
theorem caughtUp_iff {hasResolver : Bool} {snapshot : QueueSnapshot} {xs : List (Observation W)}
    {past : List (BuzzEvent W)} (hpast : Notified hasResolver xs past s)
    (h : RunsFrom (processSnapshot hasResolver snapshot) s es (.ok ()) s')
    (ht : Truthful actual snapshot es) : CaughtUp actual s' ↔
      ∀ id st a, s.status id = some st → JsMap.has (observed snapshot) id = false →
        (st.terminal = true ∨ hasResolver = false) → actual id = some a → st = a := by
  have hs : (JsMap.keys s).Nodup := nodup_course hpast.course List.nodup_nil
  have hafter := status_processSnapshot h hs ht
  constructor
  · intro hcaught id st a hst hseen hunseen hactual
    refine hcaught id st a ?_ hactual
    rw [hafter, if_neg (by rw [hseen]; decide), if_neg, hst]
    rintro ⟨hresolver, st', hst', hopen⟩
    obtain rfl : st = st' := Option.some.inj (hst.symm.trans hst')
    rcases hunseen with hterm | hno
    · rw [hopen] at hterm
      cases hterm
    · rw [hno] at hresolver
      cases hresolver
  · intro hold id st a hst hactual
    rw [hafter, hactual] at hst
    by_cases hseen : JsMap.has (observed snapshot) id = true
    · rw [if_pos hseen] at hst
      exact (Option.some.inj hst).symm
    · rw [if_neg hseen] at hst
      by_cases hlook : hasResolver = true ∧ ∃ st, s.status id = some st ∧ st.terminal = false
      · rw [if_pos hlook, Option.some_or] at hst
        exact (Option.some.inj hst).symm
      · rw [if_neg hlook] at hst
        refine hold id st a hst (Bool.eq_false_iff.mpr hseen) ?_ hactual
        by_cases hterm : st.terminal = true
        · exact .inl hterm
        · refine .inr (Bool.eq_false_iff.mpr fun hresolver => hlook ⟨hresolver, st, hst, ?_⟩)
          exact Bool.eq_false_iff.mpr hterm

/-! ## An entry off the page -/

/-- The document of the entry `x` after its failure. -/
def failedX : EsSource where
  modelId := "m"
  source := .user
  priority := 0
  status := .failed
  requestedAt := 0
  startedAt := some 1
  completedAt := some 2
  errorMessage := some "fetch failed"
  requestedBy := none
  leaseToken := none
  heartbeatAt := none
  metadata := none

/-- The document after the sweep has moved it back and a second run has completed it. -/
def sweptX : Option EsSource := do
  let d ← Script.apply (.requeueFailedEntries 10) failedX
  let d ← Script.apply (.dequeue 11 "a") d
  return PartialDoc.merge ⟨.completed, 12, none, none⟩ d

/-- The entry `y`, older than the second request for `x`. -/
def entryY : NotifiableEntry := { id := "y", modelId := "n", status := .pending }

/-- The page, cut before `x`. -/
def snapshotY : QueueSnapshot := { entries := [entryY] }

def rootedX : BuzzEvent Unit := ⟨.postRoot "x" (formatRoot (entryX .pending)), .ok "root", (), ()⟩

def repliedX : BuzzEvent Unit :=
  ⟨.postReply "x" "root" (formatTransition (entryX .failed)), .ok "reply", (), ()⟩

def rootedY : BuzzEvent Unit := ⟨.postRoot "y" (formatRoot entryY), .ok "other", (), ()⟩

/-- The store after the message about the failure and the cut page. -/
def storeXY : Store := [("x", ⟨.failed, some "root"⟩), ("y", ⟨.pending, some "other"⟩)]

/-- The failure of `x` is observed. -/
theorem notified_failed : Notified true
    [⟨entryX .pending, [], [rootedX], .ok (), storeX .pending (some "root")⟩,
      ⟨entryX .failed, storeX .pending (some "root"), [repliedX], .ok (), storeX .failed (some "root")⟩]
    [rootedX, repliedX] (storeX .failed (some "root")) := by
  have hpending : Observation.Made (W := Unit)
      ⟨entryX .pending, [], [rootedX], .ok (), storeX .pending (some "root")⟩ := .step _ _ _ (.refl _)
  have hfailed : Observation.Made (W := Unit) ⟨entryX .failed, storeX .pending (some "root"), [repliedX],
      .ok (), storeX .failed (some "root")⟩ := .step _ _ _ (.refl _)
  have hfirst : Notified (W := Unit) true
      [⟨entryX .pending, [], [rootedX], .ok (), storeX .pending (some "root")⟩] [rootedX]
      (storeX .pending (some "root")) :=
    .snapshot (snapshotX .pending) .start (.step _ _ _ (.refl _))
      ⟨course_observe hpending, List.prefix_rfl, fun _ => rfl⟩
  exact .snapshot (snapshotX .failed) hfirst (.step _ _ _ (.refl _))
    ⟨course_observe hfailed, List.prefix_rfl, fun _ => rfl⟩

/-- The call that sees the cut page. -/
theorem runs_snapshotY : RunsFrom (processSnapshot true snapshotY) (storeX .failed (some "root"))
    [rootedY] (.ok ()) storeXY := .step _ _ _ (.refl _)

/-- The actual statuses of `x` and `y`. -/
def statusXY (status : Option Status) (id : String) : Option Status :=
  if id = "x" then status else if id = "y" then some .pending else none

theorem truthful_snapshotY (status : Option Status) :
    Truthful (statusXY status) snapshotY [rootedY] where
  shown := List.forall_mem_singleton.mpr rfl
  resolved := List.forall_mem_singleton.mpr trivial

/-- The call catches up as long as `x` has failed. -/
theorem failed_caughtUp : CaughtUp (statusXY (some .failed)) storeXY ↔ ∀ id st a,
    (storeX .failed (some "root")).status id = some st → JsMap.has (observed snapshotY) id = false →
      (st.terminal = true ∨ true = false) → statusXY (some .failed) id = some a → st = a :=
  caughtUp_iff notified_failed runs_snapshotY (truthful_snapshotY _)

/-- **An entry that came back**: `x` is swept and completed, which no message tells. -/
theorem requeued_missed : ∃ (actual : String → Option Status) (xs : List (Observation Unit))
    (past es : List (BuzzEvent Unit)) (snapshot : QueueSnapshot) (s s' : Store),
    actual "x" = sweptX.map (·.status) ∧ Notified true xs past s ∧
      RunsFrom (processSnapshot true snapshot) s es (.ok ()) s' ∧ Truthful actual snapshot es ∧
      ¬ CaughtUp actual s' := by
  refine ⟨statusXY (some .completed), _, _, _, snapshotY, _, _, rfl, notified_failed, runs_snapshotY,
    truthful_snapshotY _, fun hcaught => ?_⟩
  have habs : Status.failed = Status.completed := hcaught "x" .failed .completed rfl rfl
  cases habs

end Benchmarker.Buzz
