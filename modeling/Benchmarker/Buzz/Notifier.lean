import Benchmarker.Async.Vars
import Benchmarker.Js.Map
import Benchmarker.Queue.Doc

/-!
# The notifier of queue transitions

`BuzzNotifier` over `SqliteTransitionStore`: one message for every observed change of a queue entry's
status. The store is a variable of the notifier: it alone writes it, and a snapshot is processed to its
end before the next one. A request to the transport is marked with the entry it is about, which the
transport does not see.

* `NotifiableEntry`, `QueueSnapshot`, `TransitionState`, `Store`: the data. `Store.put`, `Store.nonTerminal`: the
  statements of the store. `get_put`.
* `BuzzOp`, `BuzzJs`: the requests to the transport and the resolver, and bodies that issue them.
* `observe`, `observeEach`, `resolveEach`, `processSnapshot`: the notifier.
-/

namespace Benchmarker.Buzz

open Async Async.Prog Js

/-! ## Data -/

/-- The fields of an entry that the notifier reads. -/
structure NotifiableEntry where
  id : String
  modelId : String
  status : Status
  errorMessage : Option String := none
  progress : Option PipelineProgress := none
  deriving DecidableEq, Repr

structure QueueSnapshot where
  entries : List NotifiableEntry
  current : Option NotifiableEntry := none
  deriving DecidableEq, Repr

/-- The last seen status of an entry, and the root of its thread if one was opened. -/
structure TransitionState where
  status : Status
  rootEventId : Option String
  deriving DecidableEq, Repr

/-- The rows of `buzz_transitions`, by `entry_id`. -/
abbrev Store : Type := JsMap String TransitionState

namespace Store

variable (store : Store)

/-- `SqliteTransitionStore.set`: an update keeps the root that is there. -/
def put (entryId : String) (state : TransitionState) : Store :=
  match store.get entryId with
  | none => JsMap.set store entryId state
  | some old => JsMap.set store entryId ⟨state.status, old.rootEventId <|> state.rootEventId⟩

/-- The entries that `nonTerminal` returns. -/
def nonTerminal : List (String × TransitionState) := store.filter fun row => !row.2.status.terminal

variable {store}

theorem get_put {entryId id : String} {state : TransitionState} : (store.put entryId state).get id =
    if entryId = id then some ⟨state.status, ((store.get entryId).bind (·.rootEventId)) <|> state.rootEventId⟩
    else store.get id := by
  unfold put
  cases hold : store.get entryId with
  | none => rw [JsMap.get_set]; rfl
  | some old => rw [JsMap.get_set]; rfl

end Store

/-! ## Messages -/

/-- The text of a status. -/
def statusText : Status → String
  | .pending => "pending"
  | .deploying => "deploying"
  | .benchmarking => "benchmarking"
  | .completed => "completed"
  | .failed => "failed"
  | .cancelled => "cancelled"

/-- `PIPELINE_STAGE_LABELS`. -/
def stageLabel : ProgressStage → String
  | .stage1Deploy => "Stage 1 — Deploy vLLM"
  | .stage1Health => "Stage 1 — Health check"
  | .stage1Benchmark => "Stage 1 — Performance benchmark"
  | .stage1ToolCall => "Stage 1 — Tool-call gate"
  | .stage2Evals => "Stage 2 — Security evals"
  | .stage3Reasoning => "Stage 3 — Reasoning"
  | .finalize => "Finalize report"

def formatRoot (entry : NotifiableEntry) : String := s!"**{entry.modelId}** — {statusText entry.status}"

/-- The part of the progress that names the running suite. -/
def runningPart (progress : PipelineProgress) : List String :=
  match progress.evalCurrent.join.filter (· ≠ "") with
  | some current => [s!"running {current}"]
  | none => []

/-- The part of the progress that counts the suites. -/
def donePart (progress : PipelineProgress) : List String :=
  match progress.evalCompleted, progress.evalTotal <|> progress.evalSuites.map List.length with
  | some completed, some total => [s!"{completed.length}/{total} suites done"]
  | _, _ => []

def formatProgress (progress : PipelineProgress) : String :=
  " — ".intercalate ([stageLabel progress.stage] ++ runningPart progress ++ donePart progress)

def formatTransition (entry : NotifiableEntry) : String :=
  let headline := s!"**{entry.modelId}** → {statusText entry.status}"
  match if entry.status = .failed then entry.errorMessage.filter (· ≠ "") else none with
  | some errorMessage => s!"{headline}\n\n{errorMessage}"
  | none =>
    match entry.progress with
    | some progress => s!"{headline}\n\n{formatProgress progress}"
    | none => headline

/-! ## Requests -/

/-- The requests, those to the transport with the entry they are about. -/
inductive BuzzOp
  | postRoot (about content : String)
  | postReply (about rootEventId content : String)
  | resolveById (entryId : String)
  deriving DecidableEq, Repr

/-- The answers: the id of the published event, or the entry that was found; an error is thrown. -/
@[reducible] def BuzzAns : BuzzOp → Type
  | .postRoot _ _ => Except String String
  | .postReply _ _ _ => Except String String
  | .resolveById _ => Except String (Option NotifiableEntry)

/-- The body of a method. -/
abbrev BuzzJs (α : Type) : Type := ExceptT String (StateT Store (Prog BuzzAns)) α

def postRoot (entry : NotifiableEntry) (content : String) : BuzzJs String :=
  ask (.postRoot entry.id content) >>= fun r => orThrow r

def postReply (entry : NotifiableEntry) (rootEventId content : String) : BuzzJs String :=
  ask (.postReply entry.id rootEventId content) >>= fun r => orThrow r

def resolveById (entryId : String) : BuzzJs (Option NotifiableEntry) :=
  ask (.resolveById entryId) >>= fun r => orThrow r

/-! ## The notifier -/

def setState (entryId : String) (state : TransitionState) : BuzzJs Unit :=
  modify fun store => Store.put store entryId state

/-- Open the thread of an entry. -/
def openThread (entry : NotifiableEntry) (content : String) : BuzzJs Unit := do
  let rootEventId ← postRoot entry content
  setState entry.id ⟨entry.status, some rootEventId⟩

def observe (entry : NotifiableEntry) : BuzzJs Unit := do
  match (← get).get entry.id with
  | none =>
    if entry.status.terminal then setState entry.id ⟨entry.status, none⟩
    else openThread entry (formatRoot entry)
  | some previous =>
    if previous.status = entry.status then return
    else
      match previous.rootEventId with
      | none => openThread entry (formatTransition entry)
      | some root =>
        let _ ← postReply entry root (formatTransition entry)
        setState entry.id ⟨entry.status, some root⟩

/-- The entries of a snapshot, one for every id. -/
def observed (snapshot : QueueSnapshot) : JsMap String NotifiableEntry :=
  (snapshot.entries ++ snapshot.current.toList).foldl (fun m entry => JsMap.set m entry.id entry) []

/-- The loop of `processSnapshot` over the observed entries. -/
def observeEach : List NotifiableEntry → BuzzJs Unit
  | [] => return
  | entry :: entries => do
    observe entry
    observeEach entries

/-- The loop of `processSnapshot` over the tracked entries. -/
def resolveEach (seen : JsMap String NotifiableEntry) : List String → BuzzJs Unit
  | [] => return
  | entryId :: ids => do
    if JsMap.has seen entryId then resolveEach seen ids
    else
      match ← resolveById entryId with
      | some resolved =>
        observe resolved
        resolveEach seen ids
      | none => resolveEach seen ids

/-- `processSnapshot`, of a notifier with or without a resolver. -/
def processSnapshot (hasResolver : Bool) (snapshot : QueueSnapshot) : BuzzJs Unit := do
  observeEach ((observed snapshot).map (·.2))
  if hasResolver then resolveEach (observed snapshot) ((Store.nonTerminal (← get)).map (·.1)) else return

end Benchmarker.Buzz
