import Mathlib.Data.List.DropRight
import Benchmarker.Async.Prog
import Benchmarker.Js.Regex
import Benchmarker.Scheduler.Data

/-!
# The Kibana connector

`KibanaConnectorService.createConnector`: a connector of the requested name is looked up, and created where the
list has none. A call sends each of its two requests at most once, so that Kibana is one answer to each.

* `buildChatCompletionsUrl`: **`buildChatCompletionsUrl_idem`**.
* `createConnector`, `listed`: the source, and the connector that it looks up.
* **`connector_handed`**: what a successful call hands out.
-/

namespace Benchmarker.Stage2

open Js Async Async.Prog

/-! ## Names and endpoints -/

/-- `endpointUrl.replace(/\/+$/, '')` -/
def trimSlashes (endpointUrl : String) : String :=
  String.ofList (endpointUrl.toList.rdropWhile fun c => c = '/')

def buildChatCompletionsUrl (endpointUrl : String) : String :=
  let trimmed := trimSlashes endpointUrl
  if endsWith trimmed "/v1/chat/completions" then trimmed
  else if endsWith trimmed "/v1" then trimmed ++ "/chat/completions"
  else trimmed ++ "/v1/chat/completions"

/-- `[a-zA-Z0-9\-._]` -/
def isNameChar (c : Char) : Bool := c.isAlphanum || c ∈ ['-', '.', '_']

def buildConnectorName (connectorNamePrefix modelId : String) : String :=
  connectorNamePrefix ++
    String.ofList ((modelId.toList.map fun c => if c = '/' then '-' else c).filter isNameChar)

/-! ## Requests -/

structure KibanaConnectorConfig where
  enabled : Bool
  url : Option String
  apiKey : Option String
  connectorNamePrefix : String
  deriving DecidableEq

structure CreateConnectorOptions where
  apiUrl : String
  modelId : String
  connectorName : Option String := none
  deriving DecidableEq

structure KibanaConnectorInfo where
  id : String
  name : String
  connectorTypeId : String
  isNewlyCreated : Bool
  apiUrl : String
  defaultModel : String
  deriving DecidableEq

structure KibanaConnectorResult where
  success : Bool
  connector : Option KibanaConnectorInfo
  error : Option String
  deriving DecidableEq

/-- The `config` of a connector that Kibana lists. -/
structure ListedConfig where
  apiUrl : Option String := none
  defaultModel : Option String := none
  deriving DecidableEq

structure ListedConnector where
  id : String
  name : String
  connectorTypeId : String
  config : Option ListedConfig := none
  deriving DecidableEq

/-- `KibanaFindConnectorsResponse`, or a bare array. -/
inductive FindConnectorsResponse
  | array (connectors : List ListedConnector)
  | object (data : Option (List ListedConnector))

def FindConnectorsResponse.connectors : FindConnectorsResponse → List ListedConnector
  | .array connectors => connectors
  | .object data => data.getD []

/-- The body of the creation. -/
structure ConnectorBody where
  connectorTypeId : String := ".gen-ai"
  name : String
  apiProvider : String := "Other"
  apiUrl : String
  defaultModel : String
  enableNativeFunctionCalling : Bool := true
  apiKey : String := "vllm-no-key-required"
  deriving DecidableEq

inductive KibanaOp
  | find (url : String)
  | create (url : String) (body : ConnectorBody)

/-- `kibanaFetch` throws for every answer that is no parsed response; a creation may come without an id. -/
@[reducible] def KibanaAns : KibanaOp → Type
  | .find _ => Except String FindConnectorsResponse
  | .create _ _ => Except String (Option String)

/-! ## The service -/

structure KibanaConnectorService where
  config : KibanaConnectorConfig
  lastConnector : Option KibanaConnectorInfo := none
  deriving DecidableEq

def ListedConnector.info (connector : ListedConnector) : KibanaConnectorInfo where
  id := connector.id
  name := connector.name
  connectorTypeId := connector.connectorTypeId
  isNewlyCreated := false
  apiUrl := (connector.config.bind ListedConfig.apiUrl).getD ""
  defaultModel := (connector.config.bind ListedConfig.defaultModel).getD ""

/-- A search that fails finds nothing. -/
def foundIn (connectorName : String) : Except String FindConnectorsResponse → Option ListedConnector
  | .ok response => response.connectors.find? fun connector => connector.name = connectorName
  | .error _ => none

def findExistingConnector (url connectorName : String) : Prog KibanaAns (Option KibanaConnectorInfo) := do
  let response ← request (KibanaOp.find (url ++ "/api/actions/connectors"))
  pure ((foundIn connectorName response).map ListedConnector.info)

/-- The message of a `KibanaConnectorCreationError` whose cause has the text. -/
def creationError (connectorName cause : String) : String :=
  "Failed to create Kibana connector \x27" ++ connectorName ++ "\x27: " ++ cause

/-- The connector that a creation with an id tells of. -/
def newConnector (id connectorName apiUrl modelId : String) : KibanaConnectorInfo where
  id := id
  name := connectorName
  connectorTypeId := ".gen-ai"
  isNewlyCreated := true
  apiUrl := buildChatCompletionsUrl apiUrl
  defaultModel := modelId

def createNewConnector (url connectorName apiUrl modelId : String) :
    Prog KibanaAns (Except String KibanaConnectorInfo) := do
  let response ← request (KibanaOp.create (url ++ "/api/actions/connector")
    { name := connectorName, apiUrl := buildChatCompletionsUrl apiUrl, defaultModel := modelId })
  pure (response.bind fun id => match truthy id with
    | some id => .ok (newConnector id connectorName apiUrl modelId)
    | none => .error (creationError connectorName "Kibana API did not return a connector ID"))

/-- The name that the options ask for. -/
def KibanaConnectorService.nameOf (service : KibanaConnectorService) (options : CreateConnectorOptions) : String :=
  options.connectorName.getD (buildConnectorName service.config.connectorNamePrefix options.modelId)

def KibanaConnectorService.handOut (service : KibanaConnectorService) (connector : KibanaConnectorInfo) :
    KibanaConnectorResult × KibanaConnectorService :=
  (⟨true, some connector, none⟩, { service with lastConnector := some connector })

def KibanaConnectorService.refuse (service : KibanaConnectorService) (error : String) :
    KibanaConnectorResult × KibanaConnectorService :=
  (⟨false, none, some error⟩, service)

/-- The two steps of a call. -/
def findOrCreate (service : KibanaConnectorService) (options : CreateConnectorOptions) (url : String) :
    Prog KibanaAns (KibanaConnectorResult × KibanaConnectorService) := do
  let connectorName := service.nameOf options
  match ← findExistingConnector url connectorName with
  | some existing => pure (service.handOut existing)
  | none =>
    match ← createNewConnector url connectorName options.apiUrl options.modelId with
    | .ok connector => pure (service.handOut connector)
    | .error message => pure (service.refuse message)

def createConnector (service : KibanaConnectorService) (options : CreateConnectorOptions) :
    Prog KibanaAns (KibanaConnectorResult × KibanaConnectorService) :=
  if service.config.enabled = false then pure (service.refuse "Kibana connector service is disabled")
  else match truthy service.config.url with
    | none => pure (service.refuse "Kibana URL is not configured (set KIBANA_CONNECTOR_URL)")
    | some url => match truthy service.config.apiKey with
      | none => pure (service.refuse "Kibana API key is not configured (set KIBANA_CONNECTOR_API_KEY)")
      | some _ => findOrCreate service options url

/-! ## The endpoint in normal form -/

theorem trimSlashes_toList (url : String) : (trimSlashes url).toList = url.toList.rdropWhile (fun c => c = '/') :=
  String.toList_ofList

theorem endsWith_iff {s t : String} : endsWith s t = true ↔ t.toList <:+ s.toList := List.isSuffixOf_iff_suffix

/-- The URL is left as it is. -/
theorem build_of_suffix {url : String} (h : "/v1/chat/completions".toList <:+ url.toList) :
    buildChatCompletionsUrl url = url := by
  have htrim : trimSlashes url = url := by
    obtain ⟨s, hs⟩ := h
    rw [← String.toList_inj, trimSlashes_toList, ← hs]
    have hlast : "/v1/chat/completions".toList = "/v1/chat/completion".toList ++ ['s'] := by decide
    rw [hlast, ← List.append_assoc, List.rdropWhile_concat_neg _ _ _ (by decide)]
  unfold buildChatCompletionsUrl
  rw [htrim, if_pos (endsWith_iff.mpr h)]

theorem build_suffix (url : String) : "/v1/chat/completions".toList <:+ (buildChatCompletionsUrl url).toList := by
  unfold buildChatCompletionsUrl
  dsimp only
  split_ifs with h h'
  · exact endsWith_iff.mp h
  · obtain ⟨s, hs⟩ := endsWith_iff.mp h'
    refine ⟨s, ?_⟩
    have hsplit : "/v1/chat/completions".toList = "/v1".toList ++ "/chat/completions".toList := by decide
    rw [String.toList_append, ← hs, hsplit, List.append_assoc]
  · rw [String.toList_append]
    exact List.suffix_append _ _

/-- **The suffix is there exactly once, whatever endpoint is given.** -/
theorem buildChatCompletionsUrl_idem (url : String) :
    buildChatCompletionsUrl (buildChatCompletionsUrl url) = buildChatCompletionsUrl url :=
  build_of_suffix (build_suffix url)

/-! ## What is handed out -/

/-- The answers of Kibana to the two requests of a call. -/
abbrev Kibana : Type := ∀ o, KibanaAns o

/-- The first connector of the requested name that Kibana lists. -/
def listed (service : KibanaConnectorService) (options : CreateConnectorOptions) (kibana : Kibana) :
    Option ListedConnector :=
  foundIn (service.nameOf options)
    (kibana (.find ((truthy service.config.url).getD "" ++ "/api/actions/connectors")))

/-- The connector is for the model, and its endpoint is the requested one in normal form. -/
structure MatchesRequest (options : CreateConnectorOptions) (connector : KibanaConnectorInfo) : Prop where
  model : connector.defaultModel = options.modelId
  endpoint : buildChatCompletionsUrl connector.apiUrl = buildChatCompletionsUrl options.apiUrl

/-- The connector is the listed one of the requested name, with the endpoint that it has there; where none is
listed, it is new and as requested. -/
structure HandedOut (service : KibanaConnectorService) (options : CreateConnectorOptions) (kibana : Kibana)
    (connector : KibanaConnectorInfo) : Prop where
  name : connector.name = service.nameOf options
  new_iff : connector.isNewlyCreated = true ↔ listed service options kibana = none
  created : connector.isNewlyCreated = true → MatchesRequest options connector
  reused : ∀ existing ∈ listed service options kibana, connector.id = existing.id ∧
    connector.apiUrl = (existing.config.bind ListedConfig.apiUrl).getD ""

section HandedOut

variable {service : KibanaConnectorService} {options : CreateConnectorOptions} {kibana : Kibana}
  {existing : ListedConnector} {id : String}

theorem name_of_listed (h : listed service options kibana = some existing) :
    existing.name = service.nameOf options := by
  rw [listed] at h
  cases hfind : kibana (.find ((truthy service.config.url).getD "" ++ "/api/actions/connectors")) with
  | error message =>
    rw [hfind] at h
    cases h
  | ok response =>
    rw [hfind, foundIn] at h
    have hname := List.find?_some h
    exact of_decide_eq_true hname

theorem handedOut_existing (h : listed service options kibana = some existing) :
    HandedOut service options kibana existing.info where
  name := name_of_listed h
  new_iff := by
    rw [h]
    exact iff_of_false nofun nofun
  created := nofun
  reused := by
    rintro existing' h'
    rw [h] at h'
    obtain rfl := Option.some.inj h'
    exact ⟨rfl, rfl⟩

theorem matches_new {connectorName : String} :
    MatchesRequest options (newConnector id connectorName options.apiUrl options.modelId) where
  model := rfl
  endpoint := by
    dsimp only [newConnector]
    exact buildChatCompletionsUrl_idem _

theorem handedOut_new (h : listed service options kibana = none) :
    HandedOut service options kibana (newConnector id (service.nameOf options) options.apiUrl options.modelId) where
  name := rfl
  new_iff := iff_of_true rfl h
  created _ := matches_new
  reused := by
    rw [h]
    exact nofun

/-- A creation that succeeds gives the connector that it asked for. -/
theorem eval_createNewConnector {url connectorName apiUrl modelId : String} {connector : KibanaConnectorInfo}
    (h : (createNewConnector url connectorName apiUrl modelId).eval kibana = .ok connector) :
    ∃ id, connector = newConnector id connectorName apiUrl modelId := by
  rw [createNewConnector, eval_bind, eval_request, pure_def, eval_ret] at h
  cases hans : kibana (.create (url ++ "/api/actions/connector")
    { name := connectorName, apiUrl := buildChatCompletionsUrl apiUrl, defaultModel := modelId }) with
  | error message =>
    rw [hans] at h
    cases h
  | ok response =>
    rw [hans, Except.bind] at h
    cases hid : truthy response with
    | none =>
      rw [hid] at h
      cases h
    | some id =>
      rw [hid] at h
      exact ⟨id, (Except.ok.inj h).symm⟩

/-- A call that succeeds has asked Kibana. -/
theorem eval_createConnector (h : ((createConnector service options).eval kibana).1.success = true) :
    (createConnector service options).eval kibana =
      (findOrCreate service options ((truthy service.config.url).getD "")).eval kibana := by
  rw [createConnector] at h ⊢
  split_ifs at h ⊢ with henabled
  · cases h
  · cases hurl : truthy service.config.url with
    | none =>
      rw [hurl] at h
      cases h
    | some url =>
      cases hkey : truthy service.config.apiKey with
      | none =>
        rw [hurl, hkey] at h
        cases h
      | some apiKey => rfl

theorem eval_findOrCreate :
    (findOrCreate service options ((truthy service.config.url).getD "")).eval kibana =
      match listed service options kibana with
      | some existing => service.handOut existing.info
      | none => match (createNewConnector ((truthy service.config.url).getD "") (service.nameOf options)
            options.apiUrl options.modelId).eval kibana with
          | .ok connector => service.handOut connector
          | .error message => service.refuse message := by
  rw [findOrCreate, eval_bind, findExistingConnector, eval_bind, eval_request, pure_def, eval_ret, ← listed]
  cases listed service options kibana with
  | some existing => rfl
  | none =>
    dsimp only [Option.map_none]
    rw [eval_bind]
    cases (createNewConnector ((truthy service.config.url).getD "") (service.nameOf options) options.apiUrl
      options.modelId).eval kibana <;> rfl

end HandedOut

/-- **What a successful call hands out.** A connector that is there under the name is reused, whatever its
endpoint is now; a new one is the requested one. -/
theorem connector_handed (service : KibanaConnectorService) (options : CreateConnectorOptions) (kibana : Kibana)
    (h : ((createConnector service options).eval kibana).1.success = true) :
    ∃ connector, (createConnector service options).eval kibana = service.handOut connector ∧
      HandedOut service options kibana connector := by
  have heval := (eval_createConnector h).trans eval_findOrCreate
  rw [heval] at h ⊢
  cases hlisted : listed service options kibana with
  | some existing => exact ⟨existing.info, rfl, handedOut_existing hlisted⟩
  | none =>
    rw [hlisted] at h
    cases hnew : (createNewConnector ((truthy service.config.url).getD "") (service.nameOf options)
        options.apiUrl options.modelId).eval kibana with
    | error message =>
      rw [hnew] at h
      cases h
    | ok connector =>
      obtain ⟨id, rfl⟩ := eval_createNewConnector hnew
      exact ⟨_, rfl, handedOut_new hlisted⟩

/-- A configured service. -/
def vllmService : KibanaConnectorService where
  config := ⟨true, some "https://kibana.example.com", some "key", "vllm-"⟩

def llamaOptions : CreateConnectorOptions where
  apiUrl := "https://abc123.ngrok-free.app/v1/"
  modelId := "meta-llama/Llama-3-70B"

/-- Kibana lists the connectors, and creates every new one under the id. -/
def answering (connectors : List ListedConnector) (id : String) : Kibana
  | .find _ => .ok (.array connectors)
  | .create _ _ => .ok (some id)

/-- Nothing is listed. -/
theorem llama_handed : ∃ connector,
    (createConnector vllmService llamaOptions).eval (answering [] "c1") = vllmService.handOut connector ∧
      HandedOut vllmService llamaOptions (answering [] "c1") connector :=
  connector_handed vllmService llamaOptions (answering [] "c1") rfl

/-- The connector of an earlier tunnel. -/
def oldTunnel : ListedConnector where
  id := "existing"
  name := "vllm-meta-llama-Llama-3-70B"
  connectorTypeId := ".gen-ai"
  config := some ⟨some "https://old-url.ngrok-free.app/v1/chat/completions", some "meta-llama/Llama-3-70B"⟩

/-- It is handed out for the new tunnel. -/
theorem oldTunnel_handed : ¬ ∀ (service : KibanaConnectorService) (options : CreateConnectorOptions)
    (kibana : Kibana) (connector : KibanaConnectorInfo),
    (createConnector service options).eval kibana = service.handOut connector → MatchesRequest options connector := by
  intro h
  have hendpoint := (h vllmService llamaOptions (answering [oldTunnel] "c1") oldTunnel.info rfl).endpoint
  revert hendpoint
  decide

end Benchmarker.Stage2
