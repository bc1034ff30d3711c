import Benchmarker.Breaker.Circuit

/-!
# Snapshots of the circuit breaker

A snapshot shares its arrays of reasons and categories with the live records, so a failure that is
recorded after it was taken shows in it. In a session that restores a snapshot only while its arrays
are as they were, the breaker does what a breaker with copied arrays does.

* `Ledger`, `stepValues`, `runValues`: the breaker whose arrays are values.
* `Tidy`: no two records share an array.
* **`run_values`**: a careful session refines the ledger's.
* **`breaker_lawful_iff`**: the records are sound, denials last for the reset timeout, the two queries
  agree, and a restored snapshot answers as the breaker did that it was taken of.
-/

namespace Benchmarker.Breaker

open Js ModelFailureRecord

/-! ## A breaker whose arrays are values -/

/-- A session with copied arrays: the records, and what each name holds. -/
structure Ledger where
  records : JsMap String RecordValue := []
  kept : String → Option (List RecordValue) := fun _ => none

/-- The record with one more reason and its category. -/
def note (reason category : String) (r : RecordValue) : RecordValue :=
  { r with
    lastFailureReasons := pushReason r.lastFailureReasons reason
    failureCategories := pushCategory r.failureCategories category }

section Ledger

variable (o : CircuitBreakerOptions)

def stepValues (l : Ledger) (now : Time) : Call → Answer × Ledger
  | .canAttempt modelId =>
    match l.records.get modelId with
    | none => (.check { allowed := true, state := .closed }, l)
    | some r =>
      let cleaned := r.cleanExpiredFailures o now ([], [])
      let checked := cleaned.check o now cleaned.lastFailureReasons.getLast?
      (.check checked.1, { l with records := l.records.set modelId checked.2 })
  | .recordFailure modelId reason category =>
    let found := (l.records.get modelId).getD (.fresh modelId now ([], []))
    (.done, { l with records := l.records.set modelId ((note reason category found).fail o now) })
  | .recordSuccess modelId =>
    match l.records.get modelId with
    | none => (.done, l)
    | some r => (.done, { l with records := l.records.set modelId (r.succeed o ([], [])) })
  | .getBlockedModels => (.models (JsMap.keys (l.records.filter fun kv => kv.2.blocked o now)), l)
  | .reset modelId => (.done, { l with records := l.records.delete modelId })
  | .resetAll => (.done, { l with records := [] })
  | .snapshot name =>
    (.records (l.records.map (·.2)),
      { l with kept := Function.update l.kept name (some (l.records.map (·.2))) })
  | .restore name =>
    match l.kept name with
    | none => (.done, l)
    | some contents => (.done, { l with records := JsMap.assign [] (keyed contents) })

def runValues (l : Ledger) : List (Time × Call) → List Answer
  | [] => []
  | (now, c) :: calls => (stepValues o l now c).1 :: runValues (stepValues o l now c).2 calls

end Ledger

/-- The session with its arrays read. -/
def Session.values (s : Session) : Ledger where
  records := s.breaker.values
  kept name := (s.kept name).map (·.contents)

variable {o : CircuitBreakerOptions} {now : Time} {s : Session} {c : Call} {next : Ref}
  {calls : List (Time × Call)} {h h' : Heap String} {m : JsMap String Record} {r : Record}
  {modelId : String}

/-! ## Records that share no array -/

/-- Two pairs of arrays are distinct arrays. -/
def Apart (p q : Ref × Ref) : Prop := p.1 ≠ q.1 ∧ p.1 ≠ q.2 ∧ p.2 ≠ q.1 ∧ p.2 ≠ q.2

theorem Apart.symm {p q : Ref × Ref} (h : Apart p q) : Apart q p :=
  ⟨h.1.symm, h.2.2.1.symm, h.2.1.symm, h.2.2.2.symm⟩

/-- Allocated arrays, the two of the pair distinct. -/
def Allocated (next : Ref) (p : Ref × Ref) : Prop := p.1 < next ∧ p.2 < next ∧ p.1 ≠ p.2

theorem Allocated.mono {p : Ref × Ref} {next' : Ref} (hle : next ≤ next')
    (h : Allocated next p) : Allocated next' p :=
  ⟨lt_of_lt_of_le h.1 hle, lt_of_lt_of_le h.2.1 hle, h.2.2⟩

/-- Every record has arrays of its own. -/
structure Separate (next : Ref) (l : List Record) : Prop where
  allocated : ∀ r ∈ l, Allocated next r.arrays
  apart : ∀ r ∈ l, ∀ r' ∈ l, r.modelId ≠ r'.modelId → Apart r.arrays r'.arrays

theorem Separate.mono {next' : Ref} {l : List Record} (hle : next ≤ next')
    (hs : Separate next l) : Separate next' l :=
  ⟨fun r hr => (hs.allocated r hr).mono hle, hs.apart⟩

theorem Separate.subset {l l' : List Record} (hsub : ∀ r ∈ l', r ∈ l) (hs : Separate next l) :
    Separate next l' :=
  ⟨fun r hr => hs.allocated r (hsub r hr),
    fun r hr r' hr' => hs.apart r (hsub r hr) r' (hsub r' hr')⟩

/-- The records of a map are separate, and each stands under its model. -/
structure TidyMap (next : Ref) (m : JsMap String Record) : Prop where
  keys : m.keys.Nodup
  named : ∀ kv ∈ m, kv.2.modelId = kv.1
  separate : Separate next (m.map (·.2))

theorem TidyMap.mono {next' : Ref} (hle : next ≤ next') (hm : TidyMap next m) : TidyMap next' m :=
  ⟨hm.keys, hm.named, hm.separate.mono hle⟩

/-- A record whose arrays are apart from those of the other models can be set. -/
theorem TidyMap.set (hm : TidyMap next m) (hid : r.modelId = modelId)
    (halloc : Allocated next r.arrays)
    (hapart : ∀ kv ∈ m, kv.1 ≠ modelId → Apart r.arrays kv.2.arrays) :
    TidyMap next (m.set modelId r) := by
  refine ⟨JsMap.nodup_set hm.keys, fun kv hkv => ?_, ⟨fun r' hr' => ?_, fun r₁ hr₁ r₂ hr₂ hne => ?_⟩⟩
  · rcases JsMap.mem_set hkv with rfl | hkv
    · exact hid
    · exact hm.named kv hkv
  · obtain ⟨kv, hkv, rfl⟩ := List.mem_map.mp hr'
    rcases JsMap.mem_set hkv with rfl | hkv
    · exact halloc
    · exact hm.separate.allocated _ (List.mem_map_of_mem hkv)
  · obtain ⟨kv₁, h₁, rfl⟩ := List.mem_map.mp hr₁
    obtain ⟨kv₂, h₂, rfl⟩ := List.mem_map.mp hr₂
    rcases JsMap.mem_set h₁ with rfl | h₁
    · rcases JsMap.mem_set h₂ with rfl | h₂
      · exact absurd rfl hne
      · exact hapart kv₂ h₂ fun e => hne (hid.trans ((hm.named kv₂ h₂).trans e).symm)
    · rcases JsMap.mem_set h₂ with rfl | h₂
      · exact (hapart kv₁ h₁ fun e => hne (((hm.named kv₁ h₁).trans e).trans hid.symm)).symm
      · exact hm.separate.apart _ (List.mem_map_of_mem h₁) _ (List.mem_map_of_mem h₂) hne

variable (next) in
theorem apart_of_le {p q : Ref × Ref} (hp : next ≤ p.1 ∧ next ≤ p.2) (hq : Allocated next q) :
    Apart p q := by
  have h1 : q.1 < p.1 := lt_of_lt_of_le hq.1 hp.1
  have h2 : q.2 < p.1 := lt_of_lt_of_le hq.2.1 hp.1
  have h3 : q.1 < p.2 := lt_of_lt_of_le hq.1 hp.2
  have h4 : q.2 < p.2 := lt_of_lt_of_le hq.2.1 hp.2
  exact ⟨h1.ne', h2.ne', h3.ne', h4.ne'⟩

theorem allocated_allocPair : Allocated h.allocPair.2.next h.allocPair.1 :=
  ⟨Nat.lt_succ_of_lt (Nat.lt_succ_self _), Nat.lt_succ_self _, Nat.ne_of_lt (Nat.lt_succ_self _)⟩

theorem TidyMap.set_new (hm : TidyMap h.next m) (hid : r.modelId = modelId)
    (hr : r.arrays = h.allocPair.1) : TidyMap h.allocPair.2.next (m.set modelId r) := by
  refine (hm.mono (Nat.le_add_right _ 2)).set hid (hr ▸ allocated_allocPair) fun kv hkv _ => ?_
  rw [hr]
  exact apart_of_le _ ⟨le_rfl, Nat.le_succ _⟩ (hm.separate.allocated _ (List.mem_map_of_mem hkv))

theorem TidyMap.set_same {r' : Record} (hm : TidyMap next m) (hget : m.get modelId = some r')
    (hid : r.modelId = modelId) (hr : r.arrays = r'.arrays) : TidyMap next (m.set modelId r) := by
  have hmem : (modelId, r') ∈ m := JsMap.mem_of_get_eq_some hget
  refine hm.set hid (hr ▸ hm.separate.allocated _ (List.mem_map_of_mem hmem)) fun kv hkv hne => ?_
  rw [hr]
  refine hm.separate.apart _ (List.mem_map_of_mem hmem) _ (List.mem_map_of_mem hkv) fun e => hne ?_
  rw [← hm.named kv hkv, ← e, hm.named _ hmem]

/-- An update that keeps the arrays of a record or gives it new ones. -/
theorem TidyMap.set_of {r' : Record} (hm : TidyMap h.next m) (hget : m.get modelId = some r')
    (hid : r.modelId = r'.modelId) (hr : r.arrays = r'.arrays ∨ r.arrays = h.allocPair.1) :
    TidyMap h.allocPair.2.next (m.set modelId r) := by
  have hid' : r.modelId = modelId := hid.trans (hm.named _ (JsMap.mem_of_get_eq_some hget))
  rcases hr with hr | hr
  · exact (hm.set_same hget hid' hr).mono (Nat.le_add_right _ 2)
  · exact hm.set_new hid' hr

theorem mem_assign_keyed {l : List Record} : ∀ {m : JsMap String Record} {kv : String × Record},
    kv ∈ m.assign (keyed l) → kv ∈ m ∨ kv.2 ∈ l ∧ kv.2.modelId = kv.1 := by
  induction l with
  | nil => exact fun h => .inl h
  | cons r l ih =>
    intro m kv hkv
    rcases ih (m := m.set r.modelId r) hkv with hkv | ⟨hmem, hid⟩
    · rcases JsMap.mem_set hkv with rfl | hkv
      · exact .inr ⟨List.mem_cons_self, rfl⟩
      · exact .inl hkv
    · exact .inr ⟨List.mem_cons_of_mem _ hmem, hid⟩

/-- The live records are tidy, and so is every snapshot. -/
structure Tidy (s : Session) : Prop where
  live : TidyMap s.breaker.heap.next s.breaker.records
  kept : ∀ name k, s.kept name = some k → Separate s.breaker.heap.next k.snapshot.records

theorem tidy_start : Tidy {} :=
  ⟨⟨List.nodup_nil, fun _ h => (by cases h), ⟨fun _ h => (by cases h), fun _ h => (by cases h)⟩⟩,
    fun _ _ h => (by cases h)⟩

/-- The record of a failure is tidy. -/
theorem tidyMap_recordOf (b : CircuitBreaker) (hm : TidyMap b.heap.next b.records) :
    TidyMap (recordOf now modelId b).2.next
      (b.records.set modelId ((recordOf now modelId b).1.fail o now)) := by
  unfold recordOf
  cases hget : b.records.get modelId with
  | some r =>
    exact hm.set_same hget (modelId_fail.trans (hm.named _ (JsMap.mem_of_get_eq_some hget)))
      arrays_fail
  | none => exact hm.set_new modelId_fail arrays_fail

theorem next_recordOf (b : CircuitBreaker) : b.heap.next ≤ (recordOf now modelId b).2.next := by
  unfold recordOf
  split
  · exact le_rfl
  · exact Nat.le_add_right _ 2

theorem Tidy.step (hs : Tidy s) : Tidy (step o s now c).2 := by
  cases c with
  | canAttempt modelId =>
    unfold Breaker.step canAttempt
    dsimp only
    cases hget : s.breaker.records.get modelId with
    | none => exact hs
    | some r =>
      refine ⟨hs.live.set_of hget (by simp) ?_,
        fun name k hk => (hs.kept name k hk).mono (Nat.le_add_right _ 2)⟩
      rw [arrays_check]
      exact arrays_cleanExpiredFailures
  | recordFailure modelId reason category =>
    exact ⟨tidyMap_recordOf s.breaker hs.live,
      fun name k hk => (hs.kept name k hk).mono (next_recordOf s.breaker)⟩
  | recordSuccess modelId =>
    unfold Breaker.step recordSuccess
    dsimp only
    cases hget : s.breaker.records.get modelId with
    | none => exact hs
    | some r =>
      exact ⟨hs.live.set_of hget (by simp) arrays_succeed,
        fun name k hk => (hs.kept name k hk).mono (Nat.le_add_right _ 2)⟩
  | getBlockedModels => exact hs
  | reset modelId =>
    have hsub : ∀ kv ∈ s.breaker.records.delete modelId, kv ∈ s.breaker.records :=
      fun kv hkv => (List.mem_filter.mp hkv).1
    refine ⟨⟨hs.live.keys.sublist (List.Sublist.map _ List.filter_sublist),
      fun kv hkv => hs.live.named kv (hsub kv hkv), hs.live.separate.subset fun r hr => ?_⟩, hs.kept⟩
    obtain ⟨kv, hkv, rfl⟩ := List.mem_map.mp hr
    exact List.mem_map_of_mem (hsub kv hkv)
  | resetAll =>
    exact ⟨⟨List.nodup_nil, fun _ h => (by cases h), ⟨fun _ h => (by cases h), fun _ h => (by cases h)⟩⟩,
      hs.kept⟩
  | snapshot name =>
    refine ⟨hs.live, fun name' k hk => ?_⟩
    by_cases hn : name' = name
    · subst hn
      have hk' : keep now s.breaker = k := by simpa [Breaker.step] using hk
      subst hk'
      exact hs.live.separate
    · exact hs.kept name' k (by simpa [Breaker.step, hn] using hk)
  | restore name =>
    unfold Breaker.step
    dsimp only
    cases hk : s.kept name with
    | none => exact hs
    | some k =>
      have hmem : ∀ kv ∈ JsMap.assign [] (keyed k.snapshot.records),
          kv.2 ∈ k.snapshot.records ∧ kv.2.modelId = kv.1 := fun kv hkv =>
        (mem_assign_keyed hkv).resolve_left (List.not_mem_nil)
      refine ⟨⟨JsMap.nodup_assign List.nodup_nil, fun kv hkv => (hmem kv hkv).2,
        (hs.kept name k hk).subset fun r hr => ?_⟩, hs.kept⟩
      obtain ⟨kv, hkv, rfl⟩ := List.mem_map.mp hr
      exact (hmem kv hkv).1

theorem tidy_run : Tidy (run o {} calls).2 := run_induction (fun _ _ _ => Tidy.step) tidy_start

/-! ## Careful sessions -/

/-- The arrays of the snapshot of this name are as they were when it was taken. -/
def Intact (s : Session) (name : String) : Prop :=
  ∀ k, s.kept name = some k → k.snapshot.records.map (deref s.breaker.heap) = k.contents

variable (o) in
/-- Every snapshot is restored with its arrays intact. -/
def Careful (s : Session) : List (Time × Call) → Prop
  | [] => True
  | (now, c) :: calls => (∀ name, c = .restore name → Intact s name) ∧ Careful (step o s now c).2 calls

/-- An allocation leaves the values of the records alone. -/
theorem deref_allocPair (hr : Allocated h.next r.arrays) : deref h.allocPair.2 r = deref h r := by
  have h1 : h.allocPair.2.read r.lastFailureReasons = h.read r.lastFailureReasons :=
    Heap.read_allocPair_of_lt hr.1
  have h2 : h.allocPair.2.read r.failureCategories = h.read r.failureCategories :=
    Heap.read_allocPair_of_lt hr.2.1
  simp only [deref, ModelFailureRecord.map, h1, h2]

theorem deref_noteFailure {r' : Record} {reason category : String} (hap : Apart r.arrays r'.arrays) :
    deref (noteFailure h r' reason category) r = deref h r := by
  obtain ⟨h1, h2, h3, h4⟩ := hap
  simp only [ModelFailureRecord.arrays] at h1 h2 h3 h4
  simp only [deref, ModelFailureRecord.map, noteFailure]
  rw [Heap.read_write_of_ne h2, Heap.read_write_of_ne h1, Heap.read_write_of_ne h4,
    Heap.read_write_of_ne h3]

theorem deref_noteFailure_self {reason category : String} (hne : r.arrays.1 ≠ r.arrays.2) :
    deref (noteFailure h r reason category) r = note reason category (deref h r) := by
  simp only [ModelFailureRecord.arrays] at hne
  simp only [deref, ModelFailureRecord.map, noteFailure, note]
  rw [Heap.read_write_of_ne hne, Heap.read_write_self, Heap.read_write_self,
    Heap.read_write_of_ne (Ne.symm hne)]

/-- The record that a failure is counted on, as a value. -/
theorem deref_recordOf {b : CircuitBreaker} : deref (recordOf now modelId b).2
    (recordOf now modelId b).1 = (b.values.get modelId).getD (.fresh modelId now ([], [])) := by
  unfold recordOf CircuitBreaker.values
  rw [JsMap.get_mapValues]
  cases b.records.get modelId with
  | some r => rfl
  | none => simp [deref, ModelFailureRecord.map, fresh]

theorem get_values {b : CircuitBreaker} :
    b.values.get modelId = (b.records.get modelId).map (deref b.heap) := JsMap.get_mapValues

/-- A record set in a heap that leaves the other records alone. -/
theorem mapValues_set_deref (hkeys : m.keys.Nodup)
    (hother : ∀ kv ∈ m, kv.1 ≠ modelId → deref h' kv.2 = deref h kv.2) :
    (m.set modelId r).mapValues (deref h') = (m.mapValues (deref h)).set modelId (deref h' r) :=
  JsMap.mapValues_set_congr hkeys hother

variable (now) in
theorem values_canAttempt {b : CircuitBreaker} (hm : TidyMap b.heap.next b.records)
    (hget : b.records.get modelId = some r) :
    let cleaned := (deref b.heap r).cleanExpiredFailures o now ([], [])
    let checked := cleaned.check o now cleaned.lastFailureReasons.getLast?
    (canAttempt o now modelId b).1 = checked.1 ∧
      (canAttempt o now modelId b).2.values = b.values.set modelId checked.2 := by
  intro cleaned checked
  have halloc : ∀ kv ∈ b.records, Allocated b.heap.next kv.2.arrays :=
    fun kv hkv => hm.separate.allocated _ (List.mem_map_of_mem hkv)
  set cleaned' := r.cleanExpiredFailures o now b.heap.allocPair.1 with hcleaned'
  have hclean : deref b.heap.allocPair.2 cleaned' = cleaned := by
    rw [deref, hcleaned', map_cleanExpiredFailures]
    show (deref b.heap.allocPair.2 r).cleanExpiredFailures o now _ = _
    rw [deref_allocPair (halloc _ (JsMap.mem_of_get_eq_some hget))]
    simp only [Heap.allocPair_fst, Heap.allocPair_snd, Heap.read_allocPair_fst,
      Heap.read_allocPair_snd]
    rfl
  have hlast : b.heap.allocPair.2.read cleaned'.lastFailureReasons = cleaned.lastFailureReasons :=
    congrArg ModelFailureRecord.lastFailureReasons hclean
  obtain ⟨hresult, hrecord⟩ := map_check o now cleaned'
    cleaned.lastFailureReasons.getLast? b.heap.allocPair.2.read
  unfold canAttempt
  simp only [hget]
  rw [← hcleaned', hlast]
  refine ⟨?_, ?_⟩
  · rw [hresult]
    exact congrArg (fun v => (check o now v cleaned.lastFailureReasons.getLast?).1) hclean
  · show JsMap.mapValues (deref b.heap.allocPair.2) (b.records.set modelId _) = _
    rw [mapValues_set_deref hm.keys fun kv hkv _ => deref_allocPair (halloc kv hkv)]
    refine congrArg (JsMap.set _ modelId) (hrecord.trans ?_)
    exact congrArg (fun v => (check o now v cleaned.lastFailureReasons.getLast?).2) hclean

variable (now modelId) in
/-- The record of a failure shares no array with the records of the other models. -/
theorem recordOf_apart {b : CircuitBreaker} (reason category : String)
    (hm : TidyMap b.heap.next b.records) :
    let found := recordOf now modelId b
    found.1.arrays.1 ≠ found.1.arrays.2 ∧ ∀ kv ∈ b.records, kv.1 ≠ modelId →
      deref (noteFailure found.2 found.1 reason category) kv.2 = deref b.heap kv.2 := by
  have halloc : ∀ kv ∈ b.records, Allocated b.heap.next kv.2.arrays :=
    fun kv hkv => hm.separate.allocated _ (List.mem_map_of_mem hkv)
  unfold recordOf
  cases hget : b.records.get modelId with
  | some r =>
    have hmem : (modelId, r) ∈ b.records := JsMap.mem_of_get_eq_some hget
    refine ⟨(halloc _ hmem).2.2, fun kv hkv hne => deref_noteFailure ?_⟩
    refine hm.separate.apart _ (List.mem_map_of_mem hkv) _ (List.mem_map_of_mem hmem) fun e => hne ?_
    rw [← hm.named kv hkv, e, hm.named _ hmem]
  | none =>
    refine ⟨(allocated_allocPair (h := b.heap)).2.2, fun kv hkv _ => ?_⟩
    have hap : Apart b.heap.allocPair.1 kv.2.arrays :=
      apart_of_le b.heap.next ⟨le_rfl, Nat.le_succ _⟩ (halloc kv hkv)
    rw [deref_noteFailure hap.symm, deref_allocPair (halloc kv hkv)]

theorem values_recordFailure {b : CircuitBreaker} {reason category : String}
    (hm : TidyMap b.heap.next b.records) :
    (recordFailure o now modelId reason category b).values =
      b.values.set modelId ((note reason category
        ((b.values.get modelId).getD (.fresh modelId now ([], [])))).fail o now) := by
  obtain ⟨hown, hother⟩ := recordOf_apart now modelId reason category hm
  show JsMap.mapValues (deref (noteFailure (recordOf now modelId b).2 (recordOf now modelId b).1
    reason category)) (b.records.set modelId ((recordOf now modelId b).1.fail o now)) = _
  rw [mapValues_set_deref hm.keys hother]
  refine congrArg (JsMap.set _ modelId) ?_
  rw [deref, map_fail, ← deref_recordOf, ← deref_noteFailure_self hown]
  rfl

theorem values_recordSuccess {b : CircuitBreaker} (hm : TidyMap b.heap.next b.records)
    (hget : b.records.get modelId = some r) :
    (recordSuccess o modelId b).values =
      b.values.set modelId ((deref b.heap r).succeed o ([], [])) := by
  have halloc : ∀ kv ∈ b.records, Allocated b.heap.next kv.2.arrays :=
    fun kv hkv => hm.separate.allocated _ (List.mem_map_of_mem hkv)
  unfold recordSuccess
  simp only [hget]
  show JsMap.mapValues (deref b.heap.allocPair.2) (b.records.set modelId _) = _
  rw [mapValues_set_deref hm.keys fun kv hkv _ => deref_allocPair (halloc kv hkv)]
  refine congrArg (JsMap.set _ modelId) ?_
  rw [deref, map_succeed]
  show (deref b.heap.allocPair.2 r).succeed o _ = _
  rw [deref_allocPair (halloc _ (JsMap.mem_of_get_eq_some hget))]
  simp

theorem mapValues_keyed {A B : Type} (f : A → B) (l : List (ModelFailureRecord A)) :
    JsMap.mapValues (ModelFailureRecord.map f) (keyed l) = keyed (l.map (ModelFailureRecord.map f)) := by
  simp only [JsMap.mapValues, keyed, List.map_map]
  rfl

variable (now) in
/-- **One careful call** does what it does on copied arrays. -/
theorem step_values (hs : Tidy s) (hc : ∀ name, c = .restore name → Intact s name) :
    (step o s now c).1 = (stepValues o s.values now c).1 ∧
      (step o s now c).2.values = (stepValues o s.values now c).2 := by
  cases c with
  | canAttempt modelId =>
    cases hget : s.breaker.records.get modelId with
    | none =>
      have hval : s.values.records.get modelId = none := by
        rw [Session.values, get_values, hget]
        rfl
      simp only [step, stepValues, canAttempt, hget, hval, true_and]
    | some r =>
      have hval : s.values.records.get modelId = some (deref s.breaker.heap r) := by
        rw [Session.values, get_values, hget]
        rfl
      obtain ⟨hresult, hrecords⟩ := values_canAttempt (o := o) now hs.live hget
      simp only [step, stepValues, hval]
      refine ⟨congrArg Answer.check hresult, ?_⟩
      exact congrArg (fun m => { records := m, kept := s.values.kept : Ledger }) hrecords
  | recordFailure modelId reason category =>
    exact ⟨rfl, congrArg (fun m => { records := m, kept := s.values.kept : Ledger })
      (values_recordFailure hs.live)⟩
  | recordSuccess modelId =>
    cases hget : s.breaker.records.get modelId with
    | none =>
      have hval : s.values.records.get modelId = none := by
        rw [Session.values, get_values, hget]
        rfl
      simp only [step, stepValues, recordSuccess, hget, hval, true_and]
    | some r =>
      have hval : s.values.records.get modelId = some (deref s.breaker.heap r) := by
        rw [Session.values, get_values, hget]
        rfl
      simp only [step, stepValues, hval, true_and]
      exact congrArg (fun m => { records := m, kept := s.values.kept : Ledger })
        (values_recordSuccess hs.live hget)
  | getBlockedModels =>
    refine ⟨congrArg Answer.models ?_, rfl⟩
    show _ = JsMap.keys (List.filter _ (JsMap.mapValues (deref s.breaker.heap) s.breaker.records))
    rw [getBlockedModels, JsMap.mapValues, List.filter_map, JsMap.keys, JsMap.keys, List.map_map]
    rfl
  | reset modelId =>
    exact ⟨rfl, congrArg (fun m => { records := m, kept := s.values.kept : Ledger })
      JsMap.mapValues_delete⟩
  | resetAll => exact ⟨rfl, rfl⟩
  | snapshot name =>
    refine ⟨rfl, congrArg (fun k => { records := s.values.records, kept := k : Ledger }) ?_⟩
    funext name'
    by_cases hn : name' = name
    · subst hn
      simp [step, keep, Session.values]
    · simp [step, hn, Session.values]
  | restore name =>
    cases hk : s.kept name with
    | none =>
      have hval : s.values.kept name = none := by simp [Session.values, hk]
      simp only [step, stepValues, hk, hval, true_and]
    | some k =>
      have hval : s.values.kept name = some k.contents := by simp [Session.values, hk]
      have hintact := hc name rfl k hk
      simp only [step, stepValues, hk, hval, true_and]
      refine congrArg (fun m => { records := m, kept := s.values.kept : Ledger }) ?_
      show JsMap.mapValues (deref s.breaker.heap) (JsMap.assign [] (keyed k.snapshot.records)) = _
      rw [JsMap.mapValues_assign, ← hintact]
      exact congrArg (JsMap.assign []) (mapValues_keyed _ _)

/-- **A careful session** answers as the ledger does. -/
theorem run_values (hs : Tidy s) (hc : Careful o s calls) :
    (run o s calls).1 = runValues o s.values calls := by
  induction calls generalizing s with
  | nil => rfl
  | cons tc calls ih =>
    obtain ⟨now, c⟩ := tc
    obtain ⟨hanswer, hvalues⟩ := step_values (o := o) now hs hc.1
    show (step o s now c).1 :: (run o (step o s now c).2 calls).1 = _
    rw [hanswer, ih hs.step hc.2, hvalues]
    rfl

/-! ## Restored snapshots -/

/-- A snapshot is taken under this name. -/
def Takes (name : String) (calls : List (Time × Call)) : Prop := ∃ now, (now, .snapshot name) ∈ calls

/-- The snapshot of this name is restored. -/
def Restores (name : String) (calls : List (Time × Call)) : Prop :=
  ∃ now, (now, .restore name) ∈ calls

variable (o s) in
/-- A snapshot that is restored after the calls `before` answers to the calls `after` as the breaker
does that it was taken of. -/
def RestoredAlike (name : String) (taken restored : Time) (before after : List (Time × Call)) :
    Prop :=
  let kept := (step o s taken (.snapshot name)).2
  (run o (step o (run o kept before).2 restored (.restore name)).2 after).1 = (run o kept after).1

theorem careful_append {calls' : List (Time × Call)} : Careful o s (calls ++ calls') ↔
    Careful o s calls ∧ Careful o (run o s calls).2 calls' := by
  induction calls generalizing s with
  | nil => exact iff_of_eq (true_and _).symm
  | cons tc calls ih => exact (and_congr_right' ih).trans and_assoc.symm

theorem tidy_after (hs : Tidy s) : Tidy (run o s calls).2 := run_induction (fun _ _ _ => Tidy.step) hs

theorem kept_step {name : String} (hne : c ≠ .snapshot name) :
    (step o s now c).2.kept name = s.kept name := by
  cases c with
  | snapshot name' =>
    have hn : name ≠ name' := fun e => hne (e ▸ rfl)
    simp [step, hn]
  | restore name' =>
    unfold step
    dsimp only
    split <;> rfl
  | _ => rfl

theorem kept_run {name : String} (hno : ¬Takes name calls) :
    (run o s calls).2.kept name = s.kept name := by
  induction calls generalizing s with
  | nil => rfl
  | cons tc calls ih =>
    obtain ⟨now, c⟩ := tc
    refine (ih fun ⟨now', h⟩ => hno ⟨now', List.mem_cons_of_mem _ h⟩).trans (kept_step fun h => ?_)
    exact hno ⟨now, h ▸ List.mem_cons_self⟩

/-- The answers depend on the records and on the snapshots that are restored. -/
theorem runValues_congr {l l' : Ledger} (hrecords : l.records = l'.records)
    (hkept : ∀ name, Restores name calls → l.kept name = l'.kept name) :
    runValues o l calls = runValues o l' calls := by
  induction calls generalizing l l' with
  | nil => rfl
  | cons tc calls ih =>
    obtain ⟨now, c⟩ := tc
    have hlater : ∀ name, Restores name calls → l.kept name = l'.kept name :=
      fun name ⟨now', h⟩ => hkept name ⟨now', List.mem_cons_of_mem _ h⟩
    -- One call gives one answer, equal records, and snapshots that agree where they did.
    have hone : (stepValues o l now c).1 = (stepValues o l' now c).1 ∧
        (stepValues o l now c).2.records = (stepValues o l' now c).2.records ∧
        ∀ name, Restores name calls →
          (stepValues o l now c).2.kept name = (stepValues o l' now c).2.kept name := by
      cases c with
      | canAttempt modelId =>
        unfold stepValues
        dsimp only
        rw [hrecords]
        split
        · exact ⟨rfl, hrecords, hlater⟩
        · exact ⟨rfl, rfl, hlater⟩
      | recordFailure modelId reason category =>
        exact ⟨rfl, by simp only [stepValues, hrecords], hlater⟩
      | recordSuccess modelId =>
        unfold stepValues
        dsimp only
        rw [hrecords]
        split
        · exact ⟨rfl, hrecords, hlater⟩
        · exact ⟨rfl, rfl, hlater⟩
      | getBlockedModels => exact ⟨by simp only [stepValues, hrecords], hrecords, hlater⟩
      | reset modelId => exact ⟨rfl, by simp only [stepValues, hrecords], hlater⟩
      | resetAll => exact ⟨rfl, rfl, hlater⟩
      | snapshot name =>
        refine ⟨by simp only [stepValues, hrecords], hrecords, fun name' hr => ?_⟩
        by_cases hn : name' = name
        · subst hn
          simp [stepValues, hrecords]
        · simpa [stepValues, hn] using hlater name' hr
      | restore name =>
        unfold stepValues
        dsimp only
        rw [hkept name ⟨now, List.mem_cons_self⟩]
        split
        · exact ⟨rfl, hrecords, hlater⟩
        · exact ⟨rfl, rfl, hlater⟩
    show (stepValues o l now c).1 :: _ = (stepValues o l' now c).1 :: _
    rw [hone.1, ih hone.2.1 hone.2.2]

/-- The records of a tidy breaker, each under its model. -/
theorem assign_keyed_values {b : CircuitBreaker} (hm : TidyMap b.heap.next b.records) :
    JsMap.assign [] (keyed (b.values.map (·.2))) = b.values := by
  have hkeyed : keyed (b.values.map (·.2)) = b.values := by
    unfold keyed
    rw [List.map_map]
    refine (List.map_congr_left fun kv hkv => ?_).trans (List.map_id _)
    obtain ⟨kv', hkv', rfl⟩ := List.mem_map.mp hkv
    exact congrArg (·, deref b.heap kv'.2) (hm.named kv' hkv')
  rw [hkeyed]
  refine JsMap.assign_nil_of_nodup ?_
  rw [CircuitBreaker.values, JsMap.keys_mapValues]
  exact hm.keys

theorem restored_alike {name : String} {taken restored : Time} {before after : List (Time × Call)}
    (hs : Tidy s) (hname : ¬Takes name before) (hnames : ∀ n, Restores n after → ¬Takes n before)
    (hcareful : Careful o (step o s taken (.snapshot name)).2
      (before ++ (restored, .restore name) :: after))
    (horiginal : Careful o (step o s taken (.snapshot name)).2 after) :
    RestoredAlike o s name taken restored before after := by
  set kept := (step o s taken (.snapshot name)).2 with hkept
  obtain ⟨-, hintact, hafter⟩ := careful_append.mp hcareful
  have htidy : Tidy (run o kept before).2 := tidy_after (hs.step (c := .snapshot name))
  have hsame : (run o kept before).2.kept name = some (keep taken s.breaker) := by
    rw [kept_run hname, hkept]
    simp [step]
  have hvalue := (step_values (o := o) restored htidy hintact).2
  have hcontents : (run o kept before).2.values.kept name = some (s.breaker.values.map (·.2)) := by
    simp only [Session.values, hsame]
    rfl
  show (run o (step o (run o kept before).2 restored (.restore name)).2 after).1 = _
  rw [run_values htidy.step hafter, run_values (hs.step (c := .snapshot name)) horiginal, hvalue]
  simp only [stepValues, hcontents]
  refine runValues_congr (assign_keyed_values hs.live) fun n hn => ?_
  show ((run o kept before).2.kept n).map _ = (kept.kept n).map _
  rw [kept_run (hnames n hn)]

/-! ## The laws of the breaker -/

variable (o s) in
/-- What holds of a breaker in a session. -/
structure Lawful : Prop where
  /-- An open circuit has an opening time. -/
  opened : ∀ id r, s.breaker.records.get id = some r → r.state = .opened → r.openedAt ≠ none
  /-- Enough successes close a circuit. -/
  halfOpen : ∀ id r, s.breaker.records.get id = some r →
    (r.halfOpenSuccesses : ℤ) < o.successThreshold
  /-- A denial is an open circuit whose reset timeout has not passed since it opened. -/
  denied : ∀ id now, (canAttempt o now id s.breaker).1.allowed = false ↔
    ∃ r t, s.breaker.records.get id = some r ∧ r.state = .opened ∧ r.openedAt = some t ∧
      (now : ℤ) - (t : ℕ) < o.resetTimeoutMs
  /-- Outcomes that are recorded while a circuit is open do not move its opening time. -/
  standing : ∀ id r, s.breaker.records.get id = some r → r.state = .opened → ∀ now c,
    ((∃ id' reason category, c = .recordFailure id' reason category) ∨
      ∃ id', c = .recordSuccess id') →
    ∃ r', (step o s now c).2.breaker.records.get id = some r' ∧ r'.state = .opened ∧
      r'.openedAt = r.openedAt
  /-- The blocked models are those that are denied. -/
  blocked : ∀ id now, id ∈ getBlockedModels o now s.breaker ↔
    (canAttempt o now id s.breaker).1.allowed = false
  /-- A snapshot that is restored with its arrays intact answers as the breaker did. -/
  restored : ∀ name taken restored before after, ¬Takes name before →
    (∀ n, Restores n after → ¬Takes n before) →
    Careful o (step o s taken (.snapshot name)).2 (before ++ (restored, .restore name) :: after) →
    Careful o (step o s taken (.snapshot name)).2 after →
    RestoredAlike o s name taken restored before after

/-- Outcomes keep an open circuit open, with its opening time. -/
theorem opened_standing {id : String} (hget : s.breaker.records.get id = some r)
    (hopen : r.state = .opened) (hc : (∃ id' reason category, c = .recordFailure id' reason category) ∨
      ∃ id', c = .recordSuccess id') :
    ∃ r', (step o s now c).2.breaker.records.get id = some r' ∧ r'.state = .opened ∧
      r'.openedAt = r.openedAt := by
  have hfail : (r.fail o now).state = .opened ∧ (r.fail o now).openedAt = r.openedAt := by
    simp [ModelFailureRecord.fail, hopen]
  rcases hc with ⟨id', reason, category, rfl⟩ | ⟨id', rfl⟩
  · by_cases hid : id' = id
    · subst hid
      refine ⟨r.fail o now, ?_, hfail⟩
      simp [step, recordFailure, recordOf, hget]
    · refine ⟨r, ?_, hopen, rfl⟩
      simp only [step, recordFailure, JsMap.get_set, if_neg hid, hget]
  · refine ⟨r, ?_, hopen, rfl⟩
    simp only [step, recordSuccess]
    split
    · exact hget
    · next r' hr' =>
      rw [JsMap.get_set]
      split_ifs with hid
      · subst hid
        rw [hget] at hr'
        cases hr'
        simp [ModelFailureRecord.succeed, hopen]
      · exact hget

theorem breaker_lawful (ho : 1 ≤ o.successThreshold) : Lawful o (run o {} calls).2 := by
  have hsound : ∀ {id r}, (run o {} calls).2.breaker.records.get id = some r → r.Sound o :=
    fun h => (sound_run ho).live _ (JsMap.mem_of_get_eq_some h)
  have htidy : Tidy (run o {} calls).2 := tidy_run
  refine ⟨fun id r h => (hsound h).openedAt, fun id r h => (hsound h).halfOpen, fun id now => ?_,
    fun id r h hopen now c hc => opened_standing h hopen hc, fun id now => ?_,
    fun _ _ _ _ _ hname hnames => restored_alike htidy hname hnames⟩
  · rw [canAttempt_denied]
    constructor
    · rintro ⟨r, hr, hblocked⟩
      obtain ⟨hopen, t, ht, hlt⟩ := (blocked_iff (hsound hr)).mp hblocked
      exact ⟨r, t, hr, hopen, ht, hlt⟩
    · rintro ⟨r, t, hr, hopen, ht, hlt⟩
      exact ⟨r, hr, (blocked_iff (hsound hr)).mpr ⟨hopen, t, ht, hlt⟩⟩
  · rw [mem_getBlockedModels htidy.live.keys, canAttempt_denied]

/-- **The circuit breaker is lawful** in every session exactly if it takes a success to close a
circuit. -/
theorem breaker_lawful_iff :
    (∀ calls, Lawful o (run o {} calls).2) ↔ 1 ≤ o.successThreshold := by
  refine ⟨fun h => ?_, fun ho calls => breaker_lawful ho⟩
  have hnone : ((fresh "m" 0 (0, 1) : Record).fail o 0).halfOpenSuccesses = 0 := by
    unfold ModelFailureRecord.fail
    dsimp only [fresh]
    by_cases hdue : ((0 + 1 : ℕ) : ℤ) ≥ o.failureThreshold
    · rw [if_pos hdue]
    · rw [if_neg hdue]
  have := (h [(0, .recordFailure "m" "error" "unknown")]).halfOpen "m"
    ((fresh "m" 0 (0, 1) : Record).fail o 0) rfl
  rw [hnone] at this
  omega

/-- A failure that is recorded after a snapshot was taken is the last failure of the restored one. -/
theorem stale_reasons : ¬∀ (o : CircuitBreakerOptions) (calls : List (Time × Call)) (name : String)
    (taken restored : Time) (before after : List (Time × Call)), 1 ≤ o.successThreshold →
    ¬Takes name before → (∀ n, Restores n after → ¬Takes n before) →
    RestoredAlike o (run o {} calls).2 name taken restored before after := by
  intro h
  have halike := h { failureThreshold := 1 } [(0, .recordFailure "m" "out of memory" "oom")] "saved"
    1 3 [(2, .recordFailure "m" "connection reset" "unknown")] [(4, .canAttempt "m")] (by decide)
    (fun ⟨now, hmem⟩ => by simp at hmem) (fun n hn ⟨now, hmem⟩ => by simp at hmem)
  unfold RestoredAlike at halike
  revert halike
  decide +kernel

end Benchmarker.Breaker
