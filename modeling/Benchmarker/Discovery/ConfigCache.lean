import Mathlib.Data.List.Basic
import Benchmarker.Js.Json

/-!
# The cache of configurations

`fetchModelConfigWithStatus` and its cache, over the calls of one service. `Json.null` stands for `null`.

* `Reply`, `fetchModelConfigWithStatus`, `cacheAfter`: one call, and the cache after several.
* `get_cacheAfter`: the cache holds what the first call for a model came to.
* **`transient_iff`**: the runs in which no failure is remembered wrongly.
-/

namespace Benchmarker.Discovery

open Js

/-- What a request comes to: no response, or a status and a body that may not parse. -/
inductive Reply
  | network
  | http (status : ℕ) (body : Option Json)

structure ConfigStatus where
  config : Json
  rateLimited : Bool
  gated : Bool

abbrev ConfigCache := JsMap String Json

/-- `response.ok` -/
def isOk (status : ℕ) : Bool := 200 ≤ status && status ≤ 299

/-- What a fetch of `config.json` comes to. -/
def statusOf : Reply → ConfigStatus
  | .network => ⟨.null, false, false⟩
  | .http status body =>
    if !isOk status then ⟨.null, status = 429, status = 403 || status = 401⟩
    else match body with
      | some config => ⟨config, false, false⟩
      | none => ⟨.null, false, false⟩

/-- One call, with what its own fetch would come to. -/
def fetchModelConfigWithStatus (cache : ConfigCache) (modelId : String) (reply : Reply) :
    ConfigStatus × ConfigCache :=
  match cache.get modelId with
  | some config => (⟨config, false, false⟩, cache)
  | none => (statusOf reply, cache.set modelId (statusOf reply).config)

def fetchModelConfig (cache : ConfigCache) (modelId : String) (reply : Reply) : Json × ConfigCache :=
  ((fetchModelConfigWithStatus cache modelId reply).1.config, (fetchModelConfigWithStatus cache modelId reply).2)

/-! ## Runs of calls -/

structure Call where
  modelId : String
  reply : Reply

/-- The cache that a run of calls leaves, from the empty one. -/
def cacheAfter (calls : List Call) : ConfigCache :=
  calls.foldl (fun cache call => (fetchModelConfigWithStatus cache call.modelId call.reply).2) []

/-- What a call returns after the calls before it. -/
def returned (before : List Call) (call : Call) : ConfigStatus :=
  (fetchModelConfigWithStatus (cacheAfter before) call.modelId call.reply).1

/-- The first call for a model. -/
def firstCall (modelId : String) (calls : List Call) : Option Call :=
  calls.find? fun call => call.modelId = modelId

/-- The fetch succeeds: it gives a configuration. -/
def Call.Succeeds (call : Call) : Prop := (statusOf call.reply).config ≠ .null

section Runs

variable {before calls : List Call} {call first : Call} {modelId : String}

theorem cacheAfter_concat : cacheAfter (calls ++ [call]) =
    (fetchModelConfigWithStatus (cacheAfter calls) call.modelId call.reply).2 := List.foldl_concat _ _ _ _

/-- **The cache holds what the first call for a model came to.** -/
theorem get_cacheAfter : (cacheAfter calls).get modelId =
    (firstCall modelId calls).map fun first => (statusOf first.reply).config := by
  induction calls using List.reverseRecOn with
  | nil => rfl
  | append_singleton calls call ih =>
    rw [cacheAfter_concat, firstCall, List.find?_append, List.find?_singleton, ← firstCall]
    unfold fetchModelConfigWithStatus
    by_cases hsame : call.modelId = modelId
    · subst hsame
      rw [ih, if_pos (decide_eq_true rfl)]
      cases hfirst : firstCall call.modelId calls with
      | none =>
        rw [Option.map_none]
        dsimp only
        rw [JsMap.get_set, if_pos rfl]
        rfl
      | some first =>
        rw [Option.map_some]
        dsimp only
        rw [ih, hfirst]
        rfl
    · rw [if_neg (by simpa using hsame), Option.or_none]
      cases (cacheAfter calls).get call.modelId with
      | none =>
        dsimp only
        rw [JsMap.get_set, if_neg hsame, ih]
      | some config => exact ih

/-- A call returns what its fetch comes to, or what the first call for the model fetched. -/
theorem returned_eq : returned before call = match firstCall call.modelId before with
    | none => statusOf call.reply
    | some first => ⟨(statusOf first.reply).config, false, false⟩ := by
  rw [returned, fetchModelConfigWithStatus, get_cacheAfter]
  cases firstCall call.modelId before <;> rfl

/-- A call whose own fetch succeeds returns a configuration that a call for its model fetched, and what a
failure that is remembered returns tells why it failed. -/
structure Transient (before : List Call) (call : Call) : Prop where
  config : call.Succeeds → ∃ fetched ∈ before ++ [call], fetched.modelId = call.modelId ∧ fetched.Succeeds ∧
    (returned before call).config = (statusOf fetched.reply).config
  flags : ∀ first ∈ firstCall call.modelId before, ¬first.Succeeds →
    (returned before call).rateLimited = (statusOf first.reply).rateLimited ∧
      (returned before call).gated = (statusOf first.reply).gated

/-- The first call for the model succeeded; or it failed for a reason that has no flag, and the fetch of this
call does not succeed. -/
def Unchanged (before : List Call) (call : Call) : Prop :=
  ∀ first ∈ firstCall call.modelId before, ¬first.Succeeds →
    ¬call.Succeeds ∧ (statusOf first.reply).rateLimited = false ∧ (statusOf first.reply).gated = false

theorem transient_call : Transient before call ↔ Unchanged before call := by
  cases hfirst : firstCall call.modelId before with
  | none =>
    have hreturned : returned before call = statusOf call.reply := by rw [returned_eq, hfirst]
    refine iff_of_true ⟨fun h => ?_, ?_⟩ ?_
    · exact ⟨call, List.mem_append_right _ List.mem_cons_self, rfl, h, by rw [hreturned]⟩
    · rw [hfirst]
      exact nofun
    · unfold Unchanged
      rw [hfirst]
      exact nofun
  | some first =>
    have hreturned : returned before call = ⟨(statusOf first.reply).config, false, false⟩ := by
      rw [returned_eq, hfirst]
    have hmem : first ∈ before := List.mem_of_find?_eq_some hfirst
    have hsame : first.modelId = call.modelId := by simpa using List.find?_some hfirst
    constructor
    · intro h first' hfirst' hfails
      rw [hfirst] at hfirst'
      cases hfirst'
      obtain ⟨hrate, hgated⟩ := h.flags first hfirst hfails
      rw [hreturned] at hrate hgated
      refine ⟨fun hsucceeds => ?_, hrate.symm, hgated.symm⟩
      obtain ⟨fetched, -, -, hfetched, hconfig⟩ := h.config hsucceeds
      rw [hreturned] at hconfig
      refine hfails fun hnull => hfetched ?_
      rw [← hconfig]
      exact hnull
    · intro h
      refine ⟨fun hsucceeds => ?_, fun first' hfirst' hfails => ?_⟩
      · refine ⟨first, List.mem_append_left _ hmem, hsame, ?_, by rw [hreturned]⟩
        by_contra hfails
        exact (h first hfirst hfails).1 hsucceeds
      · rw [hfirst] at hfirst'
        cases hfirst'
        obtain ⟨-, hrate, hgated⟩ := h first hfirst hfails
        rw [hreturned, hrate, hgated]
        exact ⟨rfl, rfl⟩

end Runs

/-- **The runs in which no failure is remembered wrongly**: every call is made where the first call for its
model succeeded, or failed without a flag while its own fetch fails as well. -/
theorem transient_iff (calls : List Call) :
    (∀ before call after, calls = before ++ call :: after → Transient before call) ↔
      ∀ before call after, calls = before ++ call :: after → Unchanged before call :=
  forall₃_congr fun _ _ _ => imp_congr_right fun _ => transient_call

/-- A model whose configuration is served again after a rate limit. -/
def relapse : List Call := [⟨"org/model", .http 429 none⟩, ⟨"org/model", .http 200 (some (.obj []))⟩]

/-- The second call returns no configuration, and no flag. -/
theorem relapse_remembered : ¬ ∀ (calls : List Call) (before : List Call) (call : Call) (after : List Call),
    calls = before ++ call :: after → Transient before call := by
  intro h
  have htransient := h relapse [⟨"org/model", .http 429 none⟩] _ [] rfl
  have hflags := (htransient.flags _ rfl fun hconfig => hconfig rfl).1
  revert hflags
  decide

end Benchmarker.Discovery
