import Benchmarker.Js.Map
import Benchmarker.Js.Heap
import Benchmarker.Breaker.Record

/-!
# The circuit breaker

`CircuitBreaker`: the failure records by model, with their arrays on a heap, and the sessions of its
callers, who hold the snapshots that they took. A snapshot copies the records and shares the arrays.

* `canAttempt`, `recordFailure`, `recordSuccess`, `getBlockedModels`, `reset`, `resetAll`,
  `snapshot`, `restore`.
* `Call`, `step`, `run`: a session of timed calls.
* `sound_run`: every record stays sound.
* `canAttempt_denied`, `mem_getBlockedModels`: the two queries agree.
-/

namespace Benchmarker.Breaker

open Js

/-! ## The service -/

abbrev Record : Type := ModelFailureRecord Ref

/-- A record with the arrays that its references name. -/
abbrev RecordValue : Type := ModelFailureRecord (List String)

structure CircuitBreaker where
  heap : Heap String := {}
  records : JsMap String Record := []

structure CircuitBreakerSnapshot where
  records : List Record
  timestamp : Time

/-- The arrays of a record, as they are. -/
def deref (h : Heap String) (r : Record) : RecordValue := r.map h.read

section Service

variable (o : CircuitBreakerOptions) (now : Time) (modelId : String)

def canAttempt (b : CircuitBreaker) : CircuitCheckResult × CircuitBreaker :=
  match b.records.get modelId with
  | none => ({ allowed := true, state := .closed }, b)
  | some r =>
    let fresh := b.heap.allocPair
    let cleaned := r.cleanExpiredFailures o now fresh.1
    let checked := cleaned.check o now (fresh.2.read cleaned.lastFailureReasons).getLast?
    (checked.1, { heap := fresh.2, records := b.records.set modelId checked.2 })

/-- The record of the model, or a new one, and the heap with its arrays. -/
def recordOf (b : CircuitBreaker) : Record × Heap String :=
  match b.records.get modelId with
  | some r => (r, b.heap)
  | none => (.fresh modelId now b.heap.allocPair.1, b.heap.allocPair.2)

/-- A failure is noted in the arrays of its record. -/
def noteFailure (h : Heap String) (r : Record) (reason category : String) : Heap String :=
  let noted := h.write r.lastFailureReasons (pushReason (h.read r.lastFailureReasons) reason)
  noted.write r.failureCategories (pushCategory (noted.read r.failureCategories) category)

def recordFailure (reason category : String) (b : CircuitBreaker) : CircuitBreaker :=
  let found := recordOf now modelId b
  { heap := noteFailure found.2 found.1 reason category
    records := b.records.set modelId (found.1.fail o now) }

def recordSuccess (b : CircuitBreaker) : CircuitBreaker :=
  match b.records.get modelId with
  | none => b
  | some r =>
    { heap := b.heap.allocPair.2
      records := b.records.set modelId (r.succeed o b.heap.allocPair.1) }

def getBlockedModels (b : CircuitBreaker) : List String :=
  JsMap.keys (b.records.filter fun kv => kv.2.blocked o now)

def reset (b : CircuitBreaker) : CircuitBreaker :=
  { b with records := b.records.delete modelId }

def resetAll (b : CircuitBreaker) : CircuitBreaker := { b with records := [] }

def snapshot (b : CircuitBreaker) : CircuitBreakerSnapshot where
  records := b.records.map (·.2)
  timestamp := now

/-- The records of a list, each under its model. -/
def keyed {A : Type} (records : List (ModelFailureRecord A)) : JsMap String (ModelFailureRecord A) :=
  records.map fun r => (r.modelId, r)

def restore (s : CircuitBreakerSnapshot) (b : CircuitBreaker) : CircuitBreaker :=
  { b with records := JsMap.assign [] (keyed s.records) }

end Service

/-! ## Sessions -/

/-- A snapshot that a caller holds, and what its records held when it was taken. -/
structure Kept where
  snapshot : CircuitBreakerSnapshot
  contents : List RecordValue

/-- A breaker, and the snapshots that its callers hold by name. -/
structure Session where
  breaker : CircuitBreaker := {}
  kept : String → Option Kept := fun _ => none

inductive Call
  | canAttempt (modelId : String)
  | recordFailure (modelId reason category : String)
  | recordSuccess (modelId : String)
  | getBlockedModels
  | reset (modelId : String)
  | resetAll
  | snapshot (name : String)
  | restore (name : String)

inductive Answer
  | check (result : CircuitCheckResult)
  | models (ids : List String)
  | records (values : List RecordValue)
  | done
  deriving DecidableEq

/-- The contents of the records, by model. -/
def CircuitBreaker.values (b : CircuitBreaker) : JsMap String RecordValue :=
  b.records.mapValues (deref b.heap)

/-- What a caller holds after it took a snapshot. -/
def keep (now : Time) (b : CircuitBreaker) : Kept where
  snapshot := snapshot now b
  contents := b.values.map (·.2)

section Session

variable (o : CircuitBreakerOptions)

/-- One call. A name that holds no snapshot has nothing to restore. -/
def step (s : Session) (now : Time) : Call → Answer × Session
  | .canAttempt modelId =>
    let r := canAttempt o now modelId s.breaker
    (.check r.1, { s with breaker := r.2 })
  | .recordFailure modelId reason category =>
    (.done, { s with breaker := recordFailure o now modelId reason category s.breaker })
  | .recordSuccess modelId => (.done, { s with breaker := recordSuccess o modelId s.breaker })
  | .getBlockedModels => (.models (getBlockedModels o now s.breaker), s)
  | .reset modelId => (.done, { s with breaker := reset modelId s.breaker })
  | .resetAll => (.done, { s with breaker := resetAll s.breaker })
  | .snapshot name =>
    (.records (keep now s.breaker).contents,
      { s with kept := Function.update s.kept name (some (keep now s.breaker)) })
  | .restore name =>
    match s.kept name with
    | none => (.done, s)
    | some k => (.done, { s with breaker := restore k.snapshot s.breaker })

def run (s : Session) : List (Time × Call) → List Answer × Session
  | [] => ([], s)
  | (now, c) :: calls =>
    let rest := run (step o s now c).2 calls
    ((step o s now c).1 :: rest.1, rest.2)

end Session

variable {o : CircuitBreakerOptions} {now : Time} {modelId : String} {b : CircuitBreaker}
  {s : Session} {c : Call} {calls : List (Time × Call)}

/-- What every step keeps holds after a run. -/
theorem run_induction {P : Session → Prop} (hstep : ∀ s now c, P s → P (step o s now c).2)
    (h : P s) : P (run o s calls).2 := by
  induction calls generalizing s with
  | nil => exact h
  | cons tc calls ih => exact ih (hstep s tc.1 tc.2 h)

/-! ## Sound records -/

/-- Every record satisfies `P`, in the breaker and in the snapshots. -/
structure Everywhere (P : Record → Prop) (s : Session) : Prop where
  live : ∀ kv ∈ s.breaker.records, P kv.2
  kept : ∀ name k, s.kept name = some k → ∀ r ∈ k.snapshot.records, P r

theorem everywhere_start {P : Record → Prop} : Everywhere P {} :=
  ⟨fun _ h => (by cases h), fun _ _ h => (by cases h)⟩

/-- A property of records that the four updates keep holds everywhere after every step. -/
theorem Everywhere.step {P : Record → Prop} (h : Everywhere P s)
    (hcheck : ∀ r arrays last, P r → P ((r.cleanExpiredFailures o now arrays).check o now last).2)
    (hfresh : ∀ modelId arrays, P (.fresh modelId now arrays)) (hfail : ∀ r, P r → P (r.fail o now))
    (hsucceed : ∀ r arrays, P r → P (r.succeed o arrays)) : Everywhere P (step o s now c).2 := by
  have hget : ∀ {modelId r}, s.breaker.records.get modelId = some r → P r :=
    fun hr => h.live _ (JsMap.mem_of_get_eq_some hr)
  have hset : ∀ {modelId r}, P r → ∀ kv ∈ s.breaker.records.set modelId r, P kv.2 := by
    intro modelId r hr kv hkv
    rcases JsMap.mem_set hkv with rfl | hkv
    · exact hr
    · exact h.live kv hkv
  cases c with
  | canAttempt modelId =>
    refine ⟨?_, h.kept⟩
    show ∀ kv ∈ (Breaker.canAttempt o now modelId s.breaker).2.records, P kv.2
    unfold Breaker.canAttempt
    cases hr : s.breaker.records.get modelId with
    | none => exact h.live
    | some r => exact hset (hcheck _ _ _ (hget hr))
  | recordFailure modelId reason category =>
    refine ⟨hset (hfail _ ?_), h.kept⟩
    unfold recordOf
    cases hr : s.breaker.records.get modelId with
    | none => exact hfresh _ _
    | some r => exact hget hr
  | recordSuccess modelId =>
    refine ⟨?_, h.kept⟩
    show ∀ kv ∈ (Breaker.recordSuccess o modelId s.breaker).records, P kv.2
    unfold Breaker.recordSuccess
    cases hr : s.breaker.records.get modelId with
    | none => exact h.live
    | some r => exact hset (hsucceed _ _ (hget hr))
  | getBlockedModels => exact h
  | reset modelId => exact ⟨fun kv hkv => h.live kv (List.mem_filter.mp hkv).1, h.kept⟩
  | resetAll => exact ⟨fun _ hkv => (by cases hkv), h.kept⟩
  | snapshot name =>
    refine ⟨h.live, fun name' k hk r hr => ?_⟩
    by_cases hn : name' = name
    · subst hn
      have hk' : keep now s.breaker = k := by simpa [Breaker.step] using hk
      subst hk'
      obtain ⟨kv, hkv, rfl⟩ := List.mem_map.mp hr
      exact h.live kv hkv
    · refine h.kept name' k ?_ r hr
      simpa [Breaker.step, hn] using hk
  | restore name =>
    unfold Breaker.step
    dsimp only
    cases hk : s.kept name with
    | none => exact h
    | some k =>
      refine ⟨fun kv hkv => ?_, h.kept⟩
      have hassign : ∀ (l : List Record) (m : JsMap String Record),
          (∀ kv ∈ m, P kv.2) → (∀ r ∈ l, P r) → ∀ kv ∈ m.assign (keyed l), P kv.2 := by
        intro l
        induction l with
        | nil => exact fun m hm _ => hm
        | cons r l ih =>
          intro m hm hl
          refine ih (m.set r.modelId r) (fun kv hkv => ?_) fun r' hr' => hl r' (by simp [hr'])
          rcases JsMap.mem_set hkv with rfl | hkv
          · exact hl r List.mem_cons_self
          · exact hm kv hkv
      exact hassign _ [] (fun _ hkv => (by cases hkv)) (h.kept name k hk) kv hkv

theorem sound_run (ho : 1 ≤ o.successThreshold) :
    Everywhere (ModelFailureRecord.Sound o) (run o {} calls).2 :=
  run_induction (fun _ _ _ h => h.step (fun _ _ _ hr => hr.cleanExpiredFailures.check ho)
    (fun _ _ => ModelFailureRecord.sound_fresh ho) (fun _ hr => hr.fail ho)
    (fun _ _ hr => hr.succeed ho)) everywhere_start

/-! ## The two queries -/

theorem canAttempt_denied : (canAttempt o now modelId b).1.allowed = false ↔
    ∃ r, b.records.get modelId = some r ∧ r.blocked o now = true := by
  unfold canAttempt
  cases hr : b.records.get modelId with
  | none => simp
  | some r =>
    dsimp only
    rw [ModelFailureRecord.check_denied, ModelFailureRecord.blocked_cleanExpiredFailures]
    simp

theorem mem_getBlockedModels (hkeys : b.records.keys.Nodup) :
    modelId ∈ getBlockedModels o now b ↔
      ∃ r, b.records.get modelId = some r ∧ r.blocked o now = true := by
  unfold getBlockedModels JsMap.keys
  rw [List.mem_map]
  constructor
  · rintro ⟨⟨id, r⟩, hkv, rfl⟩
    obtain ⟨hmem, hblocked⟩ := List.mem_filter.mp hkv
    exact ⟨r, (JsMap.get_eq_some_iff hkeys).mpr hmem, hblocked⟩
  · rintro ⟨r, hr, hblocked⟩
    exact ⟨(modelId, r), List.mem_filter.mpr ⟨JsMap.mem_of_get_eq_some hr, hblocked⟩, rfl⟩

end Benchmarker.Breaker
