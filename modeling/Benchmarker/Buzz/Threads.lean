import Mathlib.Data.List.Infix
import Benchmarker.Buzz.Notifier

/-!
# One thread for every entry

A run of the notifier is any number of snapshots, each processed to its end or to the first request that
throws. It makes observations, one after the other, each from the store that the one before left.

* `Observation`, `Course`, `Notified`: observations, and the runs that make them.
* **`observes`**: the five ways in which an observation goes.
* `posts`, `Discipline`: the messages about an entry, and what they keep to.
* **`thread_discipline`**: every run keeps to it. `reopened_thread`: an entry that was first seen terminal.
-/

namespace Benchmarker.Buzz

open Async Async.Prog Js

variable {W : Type}

abbrev BuzzEvent (W : Type) : Type := Event BuzzAns W

/-! ## Messages -/

/-- A message: the root of a thread, or a reply to a root. -/
inductive Post
  | root (eventId : String)
  | reply (rootEventId : String)
  deriving DecidableEq, Repr

/-- The message about the entry that a request published. -/
def published (id : String) : (o : BuzzOp) → BuzzAns o → Option Post
  | .postRoot about _, r =>
    match r with
    | .ok eventId => if about = id then some (.root eventId) else none
    | .error _ => none
  | .postReply about root _, r =>
    match r with
    | .ok _ => if about = id then some (.reply root) else none
    | .error _ => none
  | .resolveById _, _ => none

/-- The messages about the entry in a history. -/
def posts (id : String) (es : List (BuzzEvent W)) : List Post :=
  es.filterMap fun e => published id e.op e.ans

@[simp] theorem posts_nil (id : String) : posts id ([] : List (BuzzEvent W)) = [] := rfl

theorem posts_append (id : String) (es fs : List (BuzzEvent W)) :
    posts id (es ++ fs) = posts id es ++ posts id fs := List.filterMap_append

/-! ## Observations -/

/-- An observation: the entry, the store before it, its requests, and how it ended. -/
structure Observation (W : Type) where
  entry : NotifiableEntry
  before : Store
  events : List (BuzzEvent W)
  result : Except String Unit
  after : Store

/-- The observation is one that the notifier makes. -/
def Observation.Made (x : Observation W) : Prop :=
  RunsFrom (observe x.entry) x.before x.events x.result x.after

/-- The observed status is news: the entry is new and not yet terminal, or its status has changed. -/
def news (entry : NotifiableEntry) (store : Store) : Bool :=
  match store.get entry.id with
  | none => !entry.status.terminal
  | some previous => previous.status ≠ entry.status

/-- The root of the entry's thread. -/
def Store.root (store : Store) (id : String) : Option String := (store.get id).bind (·.rootEventId)

/-- How an observation goes. -/
inductive Observes (entry : NotifiableEntry) (s : Store) :
    List (BuzzEvent W) → Except String Unit → Store → Prop
  | same {previous : TransitionState} (hget : s.get entry.id = some previous)
      (hsame : previous.status = entry.status) : Observes entry s [] (.ok ()) s
  | finished (hget : s.get entry.id = none) (hterm : entry.status.terminal = true) :
    Observes entry s [] (.ok ()) (s.put entry.id ⟨entry.status, none⟩)
  | root {r : Except String String} {content : String} (pre post : W) (hroot : s.root entry.id = none)
      (hnews : news entry s = true) :
    Observes entry s [⟨.postRoot entry.id content, r, pre, post⟩] (r.map fun _ => ())
      (match r with
        | .ok eventId => s.put entry.id ⟨entry.status, some eventId⟩
        | .error _ => s)
  | reply {r : Except String String} {root content : String} (pre post : W)
      (hroot : s.root entry.id = some root)
      (hnews : news entry s = true) :
    Observes entry s [⟨.postReply entry.id root content, r, pre, post⟩] (r.map fun _ => ())
      (match r with
        | .ok _ => s.put entry.id ⟨entry.status, some root⟩
        | .error _ => s)

/-- A thread is opened, or the post fails. -/
theorem runsFrom_openThread {entry : NotifiableEntry} {content : String} {s s' : Store}
    {es : List (BuzzEvent W)} {r : Except String Unit} (h : RunsFrom (openThread entry content) s es r s') :
    ∃ (r' : Except String String) (pre post : W),
      es = [⟨.postRoot entry.id content, r', pre, post⟩] ∧ r = r'.map (fun _ => ()) ∧
      s' = match r' with
        | .ok eventId => s.put entry.id ⟨entry.status, some eventId⟩
        | .error _ => s := by
  rcases runsFrom_bind.mp h with ⟨es₁, es₂, a, t, rfl, h₁, h₂⟩ | ⟨e, h₁, rfl⟩
  · obtain ⟨r', pre, post, rfl, hr, rfl⟩ := runsFrom_ask_orThrow.mp h₁
    obtain ⟨rfl, rfl, rfl⟩ := runsFrom_modify.mp h₂
    obtain rfl : .ok a = r' := hr
    exact ⟨.ok a, pre, post, rfl, rfl, rfl⟩
  · obtain ⟨r', pre, post, rfl, hr, rfl⟩ := runsFrom_ask_orThrow.mp h₁
    obtain rfl : .error e = r' := hr
    exact ⟨.error e, pre, post, rfl, rfl, rfl⟩

/-- **How an observation goes**: nothing is posted about an unchanged or an already finished entry; a
change is posted as the root of a thread, or as a reply to the root that is there. -/
theorem observes {entry : NotifiableEntry} {s s' : Store} {es : List (BuzzEvent W)}
    {r : Except String Unit} (h : RunsFrom (observe entry) s es r s') : Observes entry s es r s' := by
  rw [observe, runsFrom_get_bind] at h
  split at h
  · next hget =>
    split_ifs at h with hterm
    · obtain ⟨rfl, rfl, rfl⟩ := runsFrom_modify.mp h
      exact .finished hget hterm
    · obtain ⟨r', pre, post, rfl, rfl, rfl⟩ := runsFrom_openThread h
      refine .root pre post ?_ ?_
      · rw [Store.root, hget]
        rfl
      · simp [news, hget, hterm]
  · next previous hget =>
    split_ifs at h with hsame
    · obtain ⟨rfl, rfl, rfl⟩ := runsFrom_pure.mp h
      exact .same hget hsame
    · have hnews : news entry s = true := by
        simp [news, hget, hsame]
      split at h
      · next hroot =>
        obtain ⟨r', pre, post, rfl, rfl, rfl⟩ := runsFrom_openThread h
        refine .root pre post ?_ hnews
        rw [Store.root, hget]
        exact hroot
      · next root hroot =>
        have hs : s.root entry.id = some root := by
          rw [Store.root, hget]
          exact hroot
        rcases runsFrom_bind.mp h with ⟨es₁, es₂, a, t, rfl, h₁, h₂⟩ | ⟨e, h₁, rfl⟩
        · obtain ⟨r', pre, post, rfl, hr, rfl⟩ := runsFrom_ask_orThrow.mp h₁
          obtain ⟨rfl, rfl, rfl⟩ := runsFrom_modify.mp h₂
          obtain rfl : .ok a = r' := hr
          exact .reply (r := .ok a) pre post hs hnews
        · obtain ⟨r', pre, post, rfl, hr, rfl⟩ := runsFrom_ask_orThrow.mp h₁
          obtain rfl : .error e = r' := hr
          exact .reply (r := .error e) pre post hs hnews

/-! ## Runs -/

/-- Observations and look-ups, one after the other, each from the store that the one before left. -/
inductive Course : Store → List (Observation W) → List (BuzzEvent W) → Store → Prop
  | nil (s : Store) : Course s [] [] s
  | observe {s : Store} {xs : List (Observation W)} {es : List (BuzzEvent W)} (x : Observation W) :
    Course s xs es x.before → x.Made → Course s (xs ++ [x]) (es ++ x.events) x.after
  | resolve {s t : Store} {xs : List (Observation W)} {es : List (BuzzEvent W)} (id : String)
      (r : Except String (Option NotifiableEntry)) (pre post : W) :
    Course s xs es t → Course s xs (es ++ [⟨.resolveById id, r, pre, post⟩]) t

theorem Course.trans {s t u : Store} {xs ys : List (Observation W)} {es fs : List (BuzzEvent W)}
    (h : Course s xs es t) (h' : Course t ys fs u) : Course s (xs ++ ys) (es ++ fs) u := by
  induction h' with
  | nil => rwa [List.append_nil, List.append_nil]
  | observe x _ hmade ih =>
    rw [← List.append_assoc, ← List.append_assoc]
    exact .observe x ih hmade
  | resolve id r pre post _ ih =>
    rw [← List.append_assoc]
    exact .resolve id r pre post ih

/-- The course of one observation. -/
theorem course_observe {entry : NotifiableEntry} {s s' : Store} {es : List (BuzzEvent W)}
    {r : Except String Unit} (h : RunsFrom (observe entry) s es r s') :
    Course s [⟨entry, s, es, r, s'⟩] es s' := by
  have hcourse := Course.observe ⟨entry, s, es, r, s'⟩ (.nil s) h
  exact hcourse

/-- The course of one look-up. -/
theorem course_resolve (s : Store) (id : String) (r : Except String (Option NotifiableEntry))
    (pre post : W) : Course s [] [⟨.resolveById id, r, pre, post⟩] s := by
  have hcourse := Course.resolve id r pre post (.nil s)
  exact hcourse

/-- The entries that the resolver found. -/
def found (es : List (BuzzEvent W)) : List NotifiableEntry := es.filterMap fun e =>
  match e.op, e.ans with
  | .resolveById _, r =>
    match r with
    | .ok entry => entry
    | .error _ => none
  | .postRoot _ _, _ => none
  | .postReply _ _ _, _ => none

theorem found_append (es fs : List (BuzzEvent W)) : found (es ++ fs) = found es ++ found fs :=
  List.filterMap_append

theorem found_observes {entry : NotifiableEntry} {s s' : Store} {es : List (BuzzEvent W)}
    {r : Except String Unit} (h : Observes entry s es r s') : found es = [] := by
  cases h with
  | same | finished | root | reply => rfl

theorem runs_observeEach {entries : List NotifiableEntry} {s s' : Store} {es : List (BuzzEvent W)}
    {r : Except String Unit} (h : RunsFrom (observeEach entries) s es r s') :
    ∃ xs, Course s xs es s' ∧ found es = [] ∧ xs.map (·.entry) <+: entries ∧
      (r = .ok () → xs.map (·.entry) = entries) := by
  induction entries generalizing s es with
  | nil =>
    obtain ⟨rfl, rfl, rfl⟩ := runsFrom_pure.mp h
    exact ⟨[], .nil s, rfl, List.nil_prefix, fun _ => rfl⟩
  | cons entry entries ih =>
    rcases runsFrom_bind.mp h with ⟨es₁, es₂, a, t, rfl, h₁, h₂⟩ | ⟨e, h₁, rfl⟩
    · obtain ⟨xs, hcourse, hfound, hpre, hall⟩ := ih h₂
      refine ⟨⟨entry, s, es₁, .ok a, t⟩ :: xs, (course_observe h₁).trans hcourse, ?_, ?_, fun hr => ?_⟩
      · rw [found_append, found_observes (observes h₁), hfound]
        rfl
      · exact List.cons_prefix_cons.mpr ⟨rfl, hpre⟩
      · rw [List.map_cons, hall hr]
    · refine ⟨[⟨entry, s, es, .error e, s'⟩], course_observe h₁, found_observes (observes h₁), ?_, ?_⟩
      · exact List.cons_prefix_cons.mpr ⟨rfl, List.nil_prefix⟩
      · intro habs
        cases habs

theorem runs_resolveEach {seen : JsMap String NotifiableEntry} {ids : List String} {s s' : Store}
    {es : List (BuzzEvent W)} {r : Except String Unit} (h : RunsFrom (resolveEach seen ids) s es r s') :
    ∃ xs, Course s xs es s' ∧ xs.map (·.entry) = found es := by
  induction ids generalizing s es with
  | nil =>
    obtain ⟨rfl, rfl, rfl⟩ := runsFrom_pure.mp h
    exact ⟨[], .nil s, rfl⟩
  | cons id ids ih =>
    unfold resolveEach at h
    split_ifs at h with hseen
    · exact ih h
    · rcases runsFrom_bind.mp h with ⟨es₁, es₂, a, t, rfl, h₁, h₂⟩ | ⟨e, h₁, rfl⟩
      · obtain ⟨r', pre, post, rfl, hr, rfl⟩ := runsFrom_ask_orThrow.mp h₁
        obtain rfl : .ok a = r' := hr
        have hlook : Course (W := W) t [] [⟨.resolveById id, .ok a, pre, post⟩] t :=
          course_resolve t id (.ok a) pre post
        cases a with
        | none =>
          obtain ⟨xs, hcourse, hentries⟩ := ih h₂
          exact ⟨xs, hlook.trans hcourse, hentries⟩
        | some resolved =>
          rcases runsFrom_bind.mp h₂ with ⟨es₃, es₄, b, u, rfl, h₃, h₄⟩ | ⟨e, h₃, rfl⟩
          · obtain ⟨xs, hcourse, hentries⟩ := ih h₄
            refine ⟨⟨resolved, t, es₃, .ok b, u⟩ :: xs,
              hlook.trans ((course_observe h₃).trans hcourse), ?_⟩
            rw [found_append, found_append, found_observes (observes h₃), ← hentries]
            rfl
          · refine ⟨[⟨resolved, t, es₂, .error e, s'⟩], hlook.trans (course_observe h₃), ?_⟩
            rw [found_append, found_observes (observes h₃)]
            rfl
      · obtain ⟨r', pre, post, rfl, hr, rfl⟩ := runsFrom_ask_orThrow.mp h₁
        obtain rfl : .error e = r' := hr
        exact ⟨[], course_resolve s' id (.error e) pre post, rfl⟩

/-- The observations of a processed snapshot: the entries of the snapshot and then the ones that the
resolver found, up to the first request that throws. -/
structure Observations (snapshot : QueueSnapshot) (s : Store) (xs : List (Observation W))
    (es : List (BuzzEvent W)) (r : Except String Unit) (s' : Store) : Prop where
  course : Course s xs es s'
  entries : xs.map (·.entry) <+: (observed snapshot).map (·.2) ++ found es
  all : r = .ok () → xs.map (·.entry) = (observed snapshot).map (·.2) ++ found es

/-- **A processed snapshot makes its observations.** -/
theorem exists_observations {hasResolver : Bool} {snapshot : QueueSnapshot} {s s' : Store}
    {es : List (BuzzEvent W)} {r : Except String Unit}
    (h : RunsFrom (processSnapshot hasResolver snapshot) s es r s') :
    ∃ xs, Observations snapshot s xs es r s' := by
  rcases runsFrom_bind.mp h with ⟨es₁, es₂, a, t, rfl, h₁, h₂⟩ | ⟨e, h₁, rfl⟩
  · obtain ⟨xs, hcourse, hfound, -, hall⟩ := runs_observeEach h₁
    cases hasResolver with
    | false =>
      obtain ⟨rfl, rfl, rfl⟩ := runsFrom_pure.mp h₂
      have heq : xs.map (·.entry) = (observed snapshot).map (·.2) ++ found (es₁ ++ []) := by
        rw [hall rfl, List.append_nil, hfound, List.append_nil]
      exact ⟨xs, by rwa [List.append_nil], by rw [heq], fun _ => heq⟩
    | true =>
      obtain ⟨ys, hcourse', hentries⟩ := runs_resolveEach (runsFrom_get_bind.mp h₂)
      have heq : (xs ++ ys).map (·.entry) = (observed snapshot).map (·.2) ++ found (es₁ ++ es₂) := by
        rw [List.map_append, hall rfl, hentries, found_append, hfound, List.nil_append]
      exact ⟨xs ++ ys, hcourse.trans hcourse', by rw [heq], fun _ => heq⟩
  · obtain ⟨xs, hcourse, hfound, hpre, -⟩ := runs_observeEach h₁
    refine ⟨xs, hcourse, ?_, fun habs => by cases habs⟩
    rw [hfound, List.append_nil]
    exact hpre

/-- The runs of a notifier that starts with an empty store: its observations, its history, and the store
at the end. -/
inductive Notified (hasResolver : Bool) : List (Observation W) → List (BuzzEvent W) → Store → Prop
  | start : Notified hasResolver [] [] []
  | snapshot {xs ys : List (Observation W)} {es fs : List (BuzzEvent W)} {s s' : Store}
      {r : Except String Unit} (snapshot : QueueSnapshot) : Notified hasResolver xs es s →
    RunsFrom (processSnapshot hasResolver snapshot) s fs r s' → Observations snapshot s ys fs r s' →
    Notified hasResolver (xs ++ ys) (es ++ fs) s'

theorem Notified.course {hasResolver : Bool} {xs : List (Observation W)} {es : List (BuzzEvent W)}
    {s : Store} (h : Notified hasResolver xs es s) : Course [] xs es s := by
  induction h with
  | start => exact .nil []
  | snapshot _ _ _ hobs ih => exact ih.trans hobs.course

/-! ## The discipline -/

/-- The request posts a message about the entry. -/
def Posts (id : String) : BuzzOp → Prop
  | .postRoot about _ => about = id
  | .postReply about _ _ => about = id
  | .resolveById _ => False

/-- What the observations and the messages of a run keep to. -/
structure Discipline (xs : List (Observation W)) (es : List (BuzzEvent W)) : Prop where
  threaded : ∀ id, posts id es = [] ∨
    ∃ root n, posts id es = .root root :: List.replicate n (.reply root)
  one : ∀ x ∈ xs, x.events.length = if news x.entry x.before then 1 else 0
  about : ∀ x ∈ xs, ∀ e ∈ x.events, Posts x.entry.id e.op
  stored : ∀ x ∈ xs, x.result = .ok () →
    (posts x.entry.id x.events).length = x.events.length ∧
      (x.after.get x.entry.id).map (·.status) = some x.entry.status
  failed : ∀ x ∈ xs, ∀ e, x.result = .error e → x.after = x.before ∧ posts x.entry.id x.events = []
  others : ∀ x ∈ xs, ∀ id, id ≠ x.entry.id → x.after.get id = x.before.get id ∧ posts id x.events = []

/-! ## One observation -/

section Observation

variable {entry : NotifiableEntry} {s s' : Store} {es : List (BuzzEvent W)} {r : Except String Unit}

theorem not_news_of_same {previous : TransitionState} (hget : s.get entry.id = some previous)
    (hsame : previous.status = entry.status) : news entry s = false := by
  simp [news, hget, hsame]

theorem not_news_of_finished (hget : s.get entry.id = none) (hterm : entry.status.terminal = true) :
    news entry s = false := by
  simp [news, hget, hterm]

theorem Observes.length (h : Observes entry s es r s') : es.length = if news entry s then 1 else 0 := by
  cases h with
  | same hget hsame => rw [not_news_of_same hget hsame]; rfl
  | finished hget hterm => rw [not_news_of_finished hget hterm]; rfl
  | root pre post hroot hnews => rw [hnews]; rfl
  | reply pre post hroot hnews => rw [hnews]; rfl

theorem Observes.about (h : Observes entry s es r s') : ∀ e ∈ es, Posts entry.id e.op := by
  cases h with
  | same | finished => exact fun e he => absurd he List.not_mem_nil
  | root pre post hroot hnews => exact List.forall_mem_singleton.mpr rfl
  | reply pre post hroot hnews => exact List.forall_mem_singleton.mpr rfl

theorem Observes.stored (h : Observes entry s es r s') (hr : r = .ok ()) :
    (posts entry.id es).length = es.length ∧
      (s'.get entry.id).map (·.status) = some entry.status := by
  cases h with
  | same hget hsame => exact ⟨rfl, by rw [hget, Option.map_some, hsame]⟩
  | finished hget hterm => exact ⟨rfl, by rw [Store.get_put, if_pos rfl, Option.map_some]⟩
  | @root r content pre post hroot hnews =>
    cases r with
    | error e => cases hr
    | ok eventId =>
      refine ⟨?_, by rw [Store.get_put, if_pos rfl, Option.map_some]⟩
      simp [posts, published]
  | @reply r root content pre post hroot hnews =>
    cases r with
    | error e => cases hr
    | ok eventId =>
      refine ⟨?_, by rw [Store.get_put, if_pos rfl, Option.map_some]⟩
      simp [posts, published]

theorem Observes.failed (h : Observes entry s es r s') {e : String} (hr : r = .error e) :
    s' = s ∧ posts entry.id es = [] := by
  cases h with
  | same | finished => cases hr
  | @root r content pre post hroot hnews =>
    cases r with
    | error e => exact ⟨rfl, rfl⟩
    | ok eventId => cases hr
  | @reply r root content pre post hroot hnews =>
    cases r with
    | error e => exact ⟨rfl, rfl⟩
    | ok eventId => cases hr

theorem Observes.others (h : Observes entry s es r s') {id : String} (hid : id ≠ entry.id) :
    s'.get id = s.get id ∧ posts id es = [] := by
  have hput : ∀ state, (s.put entry.id state).get id = s.get id := fun state => by
    rw [Store.get_put, if_neg (Ne.symm hid)]
  cases h with
  | same => exact ⟨rfl, rfl⟩
  | finished => exact ⟨hput _, rfl⟩
  | @root r content pre post hroot hnews =>
    cases r with
    | error e => exact ⟨rfl, rfl⟩
    | ok eventId => exact ⟨hput _, by simp [posts, published, Ne.symm hid]⟩
  | @reply r root content pre post hroot hnews =>
    cases r with
    | error e => exact ⟨rfl, rfl⟩
    | ok eventId => exact ⟨hput _, by simp [posts, published, Ne.symm hid]⟩

end Observation

/-! ## Threads -/

/-- The messages about every entry are its root and replies to it, as the store has it. -/
def Threaded (s : Store) (es : List (BuzzEvent W)) : Prop := ∀ id,
  match s.root id with
  | none => posts id es = []
  | some root => ∃ n, posts id es = .root root :: List.replicate n (.reply root)

theorem root_put {s : Store} {id : String} {state : TransitionState} :
    (s.put id state).root id = (s.root id <|> state.rootEventId) := by
  rw [Store.root, Store.get_put, if_pos rfl]
  rfl

theorem root_congr {s s' : Store} {id : String} (h : s'.get id = s.get id) : s'.root id = s.root id := by
  rw [Store.root, Store.root, h]

/-- **An observation keeps the threads.** -/
theorem threaded_observe {entry : NotifiableEntry} {s s' : Store} {es fs : List (BuzzEvent W)}
    {r : Except String Unit} (ht : Threaded s es) (h : Observes entry s fs r s') :
    Threaded s' (es ++ fs) := by
  intro id
  by_cases hid : id = entry.id
  · subst hid
    have hown := ht entry.id
    cases h with
    | same => rwa [List.append_nil]
    | finished hget hterm =>
      have hroot : s.root entry.id = none := by rw [Store.root, hget]; rfl
      rw [hroot] at hown
      rwa [root_put, hroot, List.append_nil]
    | @root r content pre post hroot hnews =>
      rw [hroot] at hown
      cases r with
      | error e =>
        show match s.root entry.id with | none => _ | some root => _
        rw [hroot]
        show posts entry.id _ = []
        rw [posts_append, hown]
        rfl
      | ok eventId =>
        show match (s.put entry.id ⟨entry.status, some eventId⟩).root entry.id with
          | none => _ | some root => _
        rw [root_put, hroot]
        refine ⟨0, ?_⟩
        rw [posts_append, hown]
        simp [posts, published]
    | @reply r root content pre post hroot hnews =>
      rw [hroot] at hown
      obtain ⟨n, hposts⟩ := hown
      cases r with
      | error e =>
        show match s.root entry.id with | none => _ | some root => _
        rw [hroot]
        refine ⟨n, ?_⟩
        rw [posts_append, hposts]
        exact List.append_nil _
      | ok eventId =>
        show match (s.put entry.id ⟨entry.status, some root⟩).root entry.id with
          | none => _ | some root => _
        rw [root_put, hroot]
        refine ⟨n + 1, ?_⟩
        rw [posts_append, hposts, List.replicate_succ', List.cons_append]
        simp [posts, published]
  · obtain ⟨hget, hposts⟩ := h.others hid
    have hother := ht id
    rwa [root_congr hget, posts_append, hposts, List.append_nil]

theorem threaded_course {s s' : Store} {xs : List (Observation W)} {es : List (BuzzEvent W)}
    (h : Course s xs es s') (hs : ∀ id, s.root id = none) : Threaded s' es := by
  induction h with
  | nil =>
    intro id
    rw [hs id]
    rfl
  | observe x _ hmade ih => exact threaded_observe ih (observes hmade)
  | resolve id r pre post _ ih =>
    intro id'
    have hown := ih id'
    rwa [posts_append, show posts id' [⟨.resolveById id, r, pre, post⟩] = [] from rfl, List.append_nil]

theorem made_of_course {s s' : Store} {xs : List (Observation W)} {es : List (BuzzEvent W)}
    (h : Course s xs es s') : ∀ x ∈ xs, x.Made := by
  induction h with
  | nil => exact fun x hx => absurd hx List.not_mem_nil
  | observe x _ hmade ih => exact List.forall_mem_append.mpr ⟨ih, List.forall_mem_singleton.mpr hmade⟩
  | resolve _ _ _ _ _ ih => exact ih

/-- **Every run of the notifier keeps to the discipline.** -/
theorem thread_discipline (hasResolver : Bool) {xs : List (Observation W)} {es : List (BuzzEvent W)}
    {s : Store} (h : Notified hasResolver xs es s) : Discipline xs es := by
  have hobs : ∀ x ∈ xs, Observes x.entry x.before x.events x.result x.after :=
    fun x hx => observes (made_of_course h.course x hx)
  refine ⟨fun id => ?_, fun x hx => (hobs x hx).length, fun x hx => (hobs x hx).about,
    fun x hx => (hobs x hx).stored, fun x hx e he => (hobs x hx).failed he,
    fun x hx id hid => (hobs x hx).others hid⟩
  have hthread := threaded_course h.course (fun _ => rfl) id
  cases hroot : s.root id with
  | none =>
    rw [hroot] at hthread
    exact .inl hthread
  | some root =>
    rw [hroot] at hthread
    obtain ⟨n, hposts⟩ := hthread
    exact .inr ⟨root, n, hposts⟩

/-! ## An entry that comes back -/

/-- The entry `x` in a status. -/
def entryX (status : Status) : NotifiableEntry := { id := "x", modelId := "m", status }

/-- The snapshot that shows the entry `x`. -/
def snapshotX (status : Status) : QueueSnapshot := { entries := [entryX status] }

/-- The store with the entry `x`. -/
def storeX (status : Status) (rootEventId : Option String) : Store := [("x", ⟨status, rootEventId⟩)]

/-- The post that opens a thread for the entry `x`. -/
def openedX : BuzzEvent Unit := ⟨.postRoot "x" (formatTransition (entryX .pending)), .ok "root", (), ()⟩

/-- The sighting of the failed entry, and the one after its re-enqueue. -/
def reopened : List (Observation Unit) :=
  [⟨entryX .failed, [], [], .ok (), storeX .failed none⟩,
    ⟨entryX .pending, storeX .failed none, [openedX], .ok (), storeX .pending (some "root")⟩]

theorem made_failed : (⟨entryX .failed, [], [], .ok (), storeX .failed none⟩ : Observation Unit).Made :=
  After.refl _

theorem made_pending : (⟨entryX .pending, storeX .failed none, [openedX], .ok (),
    storeX .pending (some "root")⟩ : Observation Unit).Made := .step _ _ _ (.refl _)

theorem notified_reopened : Notified false reopened [openedX] (storeX .pending (some "root")) := by
  have hfirst : Notified (W := Unit) false
      [⟨entryX .failed, [], [], .ok (), storeX .failed none⟩] [] (storeX .failed none) :=
    .snapshot (snapshotX .failed) .start (After.refl _)
      ⟨course_observe made_failed, List.prefix_rfl, fun _ => rfl⟩
  exact .snapshot (snapshotX .pending) hfirst (.step _ _ _ (.refl _))
    ⟨course_observe made_pending, List.prefix_rfl, fun _ => rfl⟩

/-- The run in which the entry comes back keeps to the discipline. -/
theorem reopened_discipline : Discipline reopened [openedX] := thread_discipline false notified_reopened

/-- **An entry that was first seen terminal gets a message**, when it is seen in another status later. -/
theorem reopened_thread : ∃ (xs : List (Observation Unit)) (es : List (BuzzEvent Unit)) (s : Store),
    Notified false xs es s ∧ ¬ ∀ x ∈ xs, x.before.get x.entry.id = none →
      x.entry.status.terminal = true → posts x.entry.id es = [] := by
  refine ⟨reopened, [openedX], _, notified_reopened, fun hsilent => ?_⟩
  have hnone := hsilent _ List.mem_cons_self rfl rfl
  have hposts : posts "x" [openedX] = [.root "root"] := by decide
  rw [show (entryX .failed).id = "x" from rfl, hposts] at hnone
  cases hnone

end Benchmarker.Buzz
