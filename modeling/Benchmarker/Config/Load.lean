import Mathlib.Data.List.Sort
import Benchmarker.Config.Layers

/-!
# What `loadConfig` hands to the schema

`loadConfig` of `config/index.ts` merges the config file, the environment and the overrides, and then
rewrites the result three times: the hardware profile is put under the hardware that is set, the
branch of the Kibana repository is aligned with that of Buildkite, and a legacy threshold is renamed.

* `mergedConfig`, and the rewrites `resolveHardwareProfile`,
  `syncKibanaRepoBranchWithBuildkite`, `migrateLegacyStage2Thresholds`;
* `configLayers`, `LayeredConfig`: the documented order;
* `leafAt_merged`, `leafAt_resolve`, `leafAt_sync`, `leafAt_migrate`: what each step leaves at a path;
* **`layeredConfig_iff`**: the result keeps the documented order exactly if no field of the chosen
  profile is set otherwise by the file alone, and the branch, if set, is that of Buildkite.
-/

namespace Config

open Js

structure JsNumber where
  value : ℚ
  text : String

def JsNumber.json (n : JsNumber) : Json := .num n.value n.text

structure VMHardwareProfile where
  gpuType : String
  gpuCount : JsNumber
  ramGb : JsNumber
  cpuCores : JsNumber
  diskGb : JsNumber
  machineType : String

/-- `JSON.parse(JSON.stringify(profile.hardware))` -/
def VMHardwareProfile.fields (h : VMHardwareProfile) : List (String × Json) :=
  [("gpuType", .str h.gpuType), ("gpuCount", h.gpuCount.json), ("ramGb", h.ramGb.json),
    ("cpuCores", h.cpuCores.json), ("diskGb", h.diskGb.json), ("machineType", .str h.machineType)]

/-- `HardwareProfileRegistry`, by the ids of the profiles. -/
abbrev HardwareProfileRegistry : Type := JsMap String VMHardwareProfile

/-- A JSON object, no object in it having a key twice. -/
structure ConfigObject where
  fields : List (String × Json)
  unique : Unique (.obj fields)

def ConfigObject.empty : ConfigObject := ⟨[], .object List.nodup_nil fun _ h => by cases h⟩

/-- The fields that a spread copies: an array and a text have their indices as keys. -/
def ownFields : Json → List (String × Json)
  | .obj fields => fields
  | .arr elems => elems.zipIdx.map fun e => (toString e.2, e.1)
  | .str s => s.toList.zipIdx.map fun c => (toString c.2, .str (String.singleton c.1))
  | _ => []

/-- `typeof v === 'object' && v !== null` -/
def isReference : Json → Bool
  | .obj _ | .arr _ => true
  | _ => false

/-- `config['vmHardwareProfile'] ?? {}` -/
def existingHardware (config : List (String × Json)) : Json :=
  (Json.nullish (JsMap.get config "vmHardwareProfile") none).getD (.obj [])

/-- `resolveHardwareProfile`: the profile's hardware, with the hardware that is set on top. -/
def resolveHardwareProfile (config : List (String × Json)) (registry : HardwareProfileRegistry) :
    Except String (List (String × Json)) :=
  match JsMap.get config "hardwareProfileId" with
  | some (.str id) =>
    if id = "" then .ok config
    else match JsMap.get registry id with
      | none => .error ("Unknown hardware profile ID: '" ++ id ++ "'. Available profiles: " ++
          ", ".intercalate ((JsMap.keys registry).mergeSort (· ≤ ·)))
      | some profile => .ok (JsMap.set config "vmHardwareProfile"
          (.obj (mergeFields profile.fields (ownFields (existingHardware config)))))
  | _ => .ok config

/-- The branch that Buildkite names. -/
def kibanaBranch (config : List (String × Json)) : Option String :=
  match (JsMap.get config "buildkite").bind (·.field "kibanaBranch") with
  | some (.str branch) => if branch = "" then none else some branch
  | _ => none

def syncKibanaRepoBranchWithBuildkite (config : List (String × Json)) : List (String × Json) :=
  match kibanaBranch config, (JsMap.get config "kibanaRepo").filter isReference with
  | some branch, some repo =>
    JsMap.set config "kibanaRepo" (.obj (JsMap.set (ownFields repo) "branch" (.str branch)))
  | _, _ => config

/-- `minItlP50Ms` is renamed to `maxItlP50Ms`, unless that is set. -/
def renameLegacy (t : List (String × Json)) : List (String × Json) :=
  match JsMap.get t "maxItlP50Ms", JsMap.get t "minItlP50Ms" with
  | none, some v => JsMap.delete (JsMap.set t "maxItlP50Ms" v) "minItlP50Ms"
  | _, _ => t

def migrateLegacyStage2Thresholds (config : List (String × Json)) : List (String × Json) :=
  match (JsMap.get config "stage2Thresholds").filter isReference with
  | some thresholds =>
    JsMap.set config "stage2Thresholds" (.obj (renameLegacy (ownFields thresholds)))
  | none => config

/-- The file, the environment and the overrides, merged. -/
def mergedLayers (file env : ConfigObject) (overrides : Option ConfigObject) : List (String × Json) :=
  match overrides with
  | some o => mergeFields (mergeFields file.fields env.fields) o.fields
  | none => mergeFields file.fields env.fields

/-- **What `loadConfig` hands to the schema**, or the error that it throws before. -/
def mergedConfig (file env : ConfigObject) (overrides : Option ConfigObject)
    (registry : HardwareProfileRegistry) : Except String (List (String × Json)) := do
  let config ← resolveHardwareProfile (mergedLayers file env overrides) registry
  return migrateLegacyStage2Thresholds (syncKibanaRepoBranchWithBuildkite config)

/-! ## The documented order -/

/-- The layers that are given: overrides over environment over file. -/
def givenLayers (file env : ConfigObject) (overrides : Option ConfigObject) : List Json :=
  [.obj (overrides.getD .empty).fields, .obj env.fields, .obj file.fields]

/-- The hardware profile that the given layers name. -/
def chosenProfile (file env : ConfigObject) (overrides : Option ConfigObject)
    (registry : HardwareProfileRegistry) : Option VMHardwareProfile :=
  match layered (givenLayers file env overrides) ["hardwareProfileId"] with
  | some (.str id) => if id = "" then none else JsMap.get registry id
  | _ => none

/-- The layer of a hardware profile. -/
def profileLayer : Option VMHardwareProfile → Json
  | some h => .obj [("vmHardwareProfile", .obj h.fields)]
  | none => .obj []

/-- **The layers in the documented order**: overrides, environment, hardware profile, file. -/
def configLayers (file env : ConfigObject) (overrides : Option ConfigObject)
    (registry : HardwareProfileRegistry) : List Json :=
  [.obj (overrides.getD .empty).fields, .obj env.fields,
    profileLayer (chosenProfile file env overrides registry), .obj file.fields]

/-- Every leaf path of a configuration has the value of the highest layer that sets it. -/
def LayeredConfig (layers : List Json) (config : List (String × Json)) : Prop :=
  ∀ path v w, leafAt (.obj config) path = some v → layered layers path = some w → v = w

/-- No field of the chosen profile is set to another value by the file alone, and a branch that is
set for the repository is the one set for Buildkite, if one is. -/
def KeepsOrder (file env : ConfigObject) (overrides : Option ConfigObject)
    (registry : HardwareProfileRegistry) : Prop :=
  (∀ h, chosenProfile file env overrides registry = some h → ∀ k v w,
    standing (.obj (overrides.getD .empty).fields) ["vmHardwareProfile", k] = .silent →
    standing (.obj env.fields) ["vmHardwareProfile", k] = .silent →
    leafAt (.obj file.fields) ["vmHardwareProfile", k] = some v → JsMap.get h.fields k = some w →
    v = w) ∧
  ∀ branch w, branch ≠ "" →
    layered (givenLayers file env overrides) ["buildkite", "kibanaBranch"] = some (.str branch) →
    layered (givenLayers file env overrides) ["kibanaRepo", "branch"] = some w → w = .str branch

/-! ## What each step leaves at a path -/

variable {config m : List (String × Json)} {j k : String} {path : List String} {v w : Json}

theorem leafAt_set : leafAt (.obj (JsMap.set m k v)) (j :: path) =
    if k = j then leafAt v path else leafAt (.obj m) (j :: path) := by
  rw [leafAt_obj_cons, leafAt_obj_cons, JsMap.get_set]
  split_ifs <;> rfl

variable {file env : ConfigObject} {overrides : Option ConfigObject}
  {registry : HardwareProfileRegistry}

/-- **Merging the given layers** leaves at every path the value of the highest that sets it. -/
theorem leafAt_merged : leafAt (.obj (mergedLayers file env overrides)) path =
    layered (givenLayers file env overrides) path := by
  have hfile : leafAt (.obj file.fields) path = layered [.obj file.fields] path := rfl
  have henv : leafAt (.obj (mergeFields file.fields env.fields)) path =
      layered [.obj env.fields, .obj file.fields] path := by
    rw [leafAt_mergeFields env.unique, hfile, ← layered_cons]
  cases overrides with
  | some o =>
    have hover : leafAt (.obj (mergeFields (mergeFields file.fields env.fields) o.fields)) path =
        layered [.obj o.fields, .obj env.fields, .obj file.fields] path := by
      rw [leafAt_mergeFields o.unique, henv, ← layered_cons]
    exact hover
  | none =>
    have hempty : layered (givenLayers file env none) path =
        (standing (.obj []) path).over (layered [.obj env.fields, .obj file.fields] path) := rfl
    rw [hempty, ← henv]
    cases path <;> rfl

theorem unique_merged : Unique (.obj (mergedLayers file env overrides)) := by
  have henv := unique_mergeFields file.unique env.unique
  cases overrides with
  | some o => exact unique_mergeFields henv o.unique
  | none => exact henv

/-- A field of a profile is a leaf. -/
theorem isObject_profile {h : VMHardwareProfile} (hk : JsMap.get h.fields k = some v) :
    isObject v = false := by
  have hmem := JsMap.mem_of_get_eq_some hk
  simp only [VMHardwareProfile.fields, List.mem_cons, List.not_mem_nil, or_false,
    Prod.mk.injEq] at hmem
  rcases hmem with ⟨-, rfl⟩ | ⟨-, rfl⟩ | ⟨-, rfl⟩ | ⟨-, rfl⟩ | ⟨-, rfl⟩ | ⟨-, rfl⟩ <;> rfl

/-- What a profile sets: its fields, and nothing below them. -/
theorem standing_profile {h : VMHardwareProfile} (hs : standing (.obj h.fields) path = .sets v) :
    ∃ k, path = [k] ∧ JsMap.get h.fields k = some v := by
  cases path with
  | nil => cases hs
  | cons k path =>
    cases hk : JsMap.get h.fields k with
    | none =>
      rw [standing_obj_none hk] at hs
      cases hs
    | some u =>
      rw [standing_obj_get hk] at hs
      have hu := isObject_profile hk
      cases path with
      | nil =>
        rw [standing_leaf_nil hu] at hs
        cases hs
        exact ⟨k, rfl, hk⟩
      | cons k' path =>
        rw [standing_leaf_cons hu] at hs
        cases hs

/-- An index is not the name of a hardware field. -/
theorem get_indices {h : VMHardwareProfile} (hk : JsMap.get h.fields k = some v)
    (elems : List (ℕ × Json)) :
    JsMap.get (elems.map fun e => (toString e.1, e.2)) k = none := by
  by_contra hne
  obtain ⟨u, hu⟩ := Option.ne_none_iff_exists'.mp hne
  obtain ⟨e, -, he⟩ := List.mem_map.mp (JsMap.mem_of_get_eq_some hu)
  have hdigits : ∀ c ∈ k.toList, c.isDigit = true := by
    intro c hc
    rw [← (Prod.mk.inj he).1, Nat.toString_eq_ofList_toDigits, String.toList_ofList] at hc
    exact Nat.isDigit_of_mem_toDigits (by decide) (by decide) hc
  have hmem := JsMap.mem_of_get_eq_some hk
  simp only [VMHardwareProfile.fields, List.mem_cons, List.not_mem_nil, or_false,
    Prod.mk.injEq] at hmem
  have hletter : ∃ c ∈ k.toList, c.isDigit = false := by
    rcases hmem with ⟨rfl, -⟩ | ⟨rfl, -⟩ | ⟨rfl, -⟩ | ⟨rfl, -⟩ | ⟨rfl, -⟩ | ⟨rfl, -⟩
    · exact ⟨'g', by decide, rfl⟩
    · exact ⟨'g', by decide, rfl⟩
    · exact ⟨'r', by decide, rfl⟩
    · exact ⟨'c', by decide, rfl⟩
    · exact ⟨'d', by decide, rfl⟩
    · exact ⟨'m', by decide, rfl⟩
  obtain ⟨c, hc, hnot⟩ := hletter
  rw [hdigits c hc] at hnot
  cases hnot

/-- What is not an object has no hardware field. -/
theorem get_ownFields {h : VMHardwareProfile} (hk : JsMap.get h.fields k = some v) {u : Json}
    (hu : isObject u = false) : JsMap.get (ownFields u) k = none := by
  cases u with
  | obj fields => cases hu
  | arr elems =>
    have hnone := get_indices hk (elems.zipIdx.map fun e => (e.2, e.1))
    rwa [List.map_map] at hnone
  | str s =>
    have hnone := get_indices hk (s.toList.zipIdx.map fun c => (c.2, .str (String.singleton c.1)))
    rwa [List.map_map] at hnone
  | _ => rfl

theorem leafAt_singleton : leafAt (.obj m) [k] = some v ↔
    JsMap.get m k = some v ∧ isObject v = false := by
  rw [leafAt_obj_cons]
  constructor
  · intro h
    obtain ⟨u, hu, hv⟩ := Option.bind_eq_some_iff.mp h
    have hleaf := isObject_of_leafAt hv
    cases hobj : isObject u with
    | true =>
      cases u with
      | obj fields => cases hv
      | _ => cases hobj
    | false =>
      rw [leafAt_leaf_nil hobj] at hv
      cases hv
      exact ⟨hu, hleaf⟩
  · rintro ⟨h, hleaf⟩
    rw [h]
    exact leafAt_leaf_nil hleaf

/-- **The profile that is resolved** is the one that the given layers name. -/
theorem resolve_cases {r : List (String × Json)}
    (h : resolveHardwareProfile (mergedLayers file env overrides) registry = .ok r) :
    (chosenProfile file env overrides registry = none ∧ r = mergedLayers file env overrides) ∨
    ∃ p, chosenProfile file env overrides registry = some p ∧
      r = JsMap.set (mergedLayers file env overrides) "vmHardwareProfile" (.obj (mergeFields p.fields
        (ownFields (existingHardware (mergedLayers file env overrides))))) := by
  unfold resolveHardwareProfile at h
  unfold chosenProfile
  rw [← leafAt_merged]
  split at h
  · rename_i id hid
    have hleaf : leafAt (.obj (mergedLayers file env overrides)) ["hardwareProfileId"] =
        some (.str id) := leafAt_singleton.mpr ⟨hid, rfl⟩
    rw [hleaf]
    by_cases hempty : id = ""
    · rw [if_pos hempty] at h
      cases h
      exact .inl ⟨if_pos hempty, rfl⟩
    · rw [if_neg hempty] at h
      dsimp only
      rw [if_neg hempty]
      split at h
      · cases h
      · rename_i p hp
        cases h
        exact .inr ⟨p, hp, rfl⟩
  · rename_i hid
    cases h
    refine .inl ⟨?_, rfl⟩
    split
    · rename_i id hleaf
      exact absurd (leafAt_singleton.mp hleaf).1 (hid id)
    · rfl

theorem leafAt_text {s : String} : leafAt v [k] = some (.str s) ↔ v.field k = some (.str s) := by
  cases v with
  | obj fields => exact leafAt_singleton.trans (and_iff_left rfl)
  | _ => constructor <;> intro h <;> cases h

theorem kibanaBranch_eq_some {branch : String} : kibanaBranch config = some branch ↔
    branch ≠ "" ∧ leafAt (.obj config) ["buildkite", "kibanaBranch"] = some (.str branch) := by
  have hleaf : leafAt (.obj config) ["buildkite", "kibanaBranch"] = some (.str branch) ↔
      (JsMap.get config "buildkite").bind (·.field "kibanaBranch") = some (.str branch) := by
    rw [leafAt_obj_cons]
    cases JsMap.get config "buildkite" with
    | none => exact Iff.rfl
    | some bk => exact leafAt_text
  rw [hleaf, kibanaBranch]
  constructor
  · intro h
    split at h
    · rename_i b hb
      by_cases he : b = ""
      · rw [if_pos he] at h
        cases h
      · rw [if_neg he] at h
        cases h
        exact ⟨he, hb⟩
    · cases h
  · rintro ⟨hne, hb⟩
    rw [hb]
    exact if_neg hne

/-- **The branch that is aligned**: nothing else changes. -/
theorem sync_cases (config : List (String × Json)) :
    (syncKibanaRepoBranchWithBuildkite config = config) ∨
    ∃ branch repo, kibanaBranch config = some branch ∧ JsMap.get config "kibanaRepo" = some repo ∧
      isReference repo = true ∧ syncKibanaRepoBranchWithBuildkite config = JsMap.set config
        "kibanaRepo" (.obj (JsMap.set (ownFields repo) "branch" (.str branch))) := by
  unfold syncKibanaRepoBranchWithBuildkite
  split
  · rename_i branch repo hb hr
    obtain ⟨hget, href⟩ := Option.filter_eq_some_iff.mp hr
    exact .inr ⟨branch, repo, hb, hget, href, rfl⟩
  · exact .inl rfl

theorem sync_eq {branch : String} {repo : Json} (hb : kibanaBranch config = some branch)
    (hr : JsMap.get config "kibanaRepo" = some repo) (href : isReference repo = true) :
    syncKibanaRepoBranchWithBuildkite config = JsMap.set config
      "kibanaRepo" (.obj (JsMap.set (ownFields repo) "branch" (.str branch))) := by
  have hfilter : (JsMap.get config "kibanaRepo").filter isReference = some repo := by
    rw [hr, Option.filter_some, if_pos href]
  rw [syncKibanaRepoBranchWithBuildkite, hb, hfilter]

/-- The rewrites leave the other keys alone. -/
theorem leafAt_sync (hj : j ≠ "kibanaRepo") :
    leafAt (.obj (syncKibanaRepoBranchWithBuildkite config)) (j :: path) =
      leafAt (.obj config) (j :: path) := by
  rcases sync_cases config with h | ⟨branch, repo, -, -, -, h⟩
  · rw [h]
  · rw [h, leafAt_set, if_neg (Ne.symm hj)]

theorem leafAt_migrate (hj : j ≠ "stage2Thresholds") :
    leafAt (.obj (migrateLegacyStage2Thresholds config)) (j :: path) =
      leafAt (.obj config) (j :: path) := by
  unfold migrateLegacyStage2Thresholds
  split
  · rw [leafAt_set, if_neg (Ne.symm hj)]
  · rfl

/-- **A renamed threshold** stands at a path that nothing set before. -/
theorem renameLegacy_keeps {t : List (String × Json)} (hv : leafAt (.obj (renameLegacy t)) path = some v)
    (hw : leafAt (.obj t) path = some w) : v = w := by
  unfold renameLegacy at hv
  split at hv
  · rename_i u hmax _
    cases path with
    | nil => cases hw
    | cons k path =>
      rw [leafAt_obj_cons] at hv hw
      obtain ⟨x, hx, hv⟩ := Option.bind_eq_some_iff.mp hv
      obtain ⟨y, hy, hw⟩ := Option.bind_eq_some_iff.mp hw
      rw [JsMap.get_delete] at hx
      by_cases hmin : "minItlP50Ms" = k
      · rw [if_pos hmin] at hx
        cases hx
      · rw [if_neg hmin, JsMap.get_set] at hx
        by_cases hk : "maxItlP50Ms" = k
        · rw [← hk, hmax] at hy
          cases hy
        · rw [if_neg hk, hy] at hx
          cases hx
          exact Option.some.inj (hv.symm.trans hw)
  · exact Option.some.inj (hv.symm.trans hw)

/-- What is spread has the leaves of an object, and only those. -/
theorem leafAt_ownFields {u : Json} (hu : leafAt u path = some w) (hne : path ≠ []) :
    leafAt (.obj (ownFields u)) path = some w := by
  cases u with
  | obj fields => exact hu
  | _ =>
    cases path with
    | nil => exact absurd rfl hne
    | cons k path => cases hu

theorem migrate_keeps
    (hv : leafAt (.obj (migrateLegacyStage2Thresholds config)) ("stage2Thresholds" :: path) = some v)
    (hw : leafAt (.obj config) ("stage2Thresholds" :: path) = some w) : v = w := by
  unfold migrateLegacyStage2Thresholds at hv
  split at hv
  · rename_i t ht
    obtain ⟨hget, -⟩ := Option.filter_eq_some_iff.mp ht
    rw [leafAt_set, if_pos rfl] at hv
    have hne : path ≠ [] := by
      rintro rfl
      cases hv
    rw [leafAt_obj_cons, hget] at hw
    exact renameLegacy_keeps hv (leafAt_ownFields hw hne)
  · exact Option.some.inj (hv.symm.trans hw)

/-! ## The documented order is kept -/

/-- Beside the hardware, the order of the layers is that of the given ones. -/
theorem layered_given (hj : j ≠ "vmHardwareProfile") :
    layered (configLayers file env overrides registry) (j :: path) =
      layered (givenLayers file env overrides) (j :: path) := by
  have hprofile : standing (profileLayer (chosenProfile file env overrides registry)) (j :: path) =
      .silent := by
    cases chosenProfile file env overrides registry with
    | none => rfl
    | some h => exact standing_obj_none (by rw [JsMap.get_cons, if_neg (Ne.symm hj)]; rfl)
  rw [configLayers, layered_cons, layered_cons, layered_cons, hprofile]
  rfl

/-- What the highest layer sets below the hardware: a given layer, or the profile where overrides
and environment say nothing. -/
theorem layered_hardware {q : List String}
    (hw : layered (configLayers file env overrides registry) ("vmHardwareProfile" :: q) = some w) :
    layered (givenLayers file env overrides) ("vmHardwareProfile" :: q) = some w ∨
    ∃ h k, chosenProfile file env overrides registry = some h ∧ q = [k] ∧
      JsMap.get h.fields k = some w ∧
      standing (.obj (overrides.getD .empty).fields) ["vmHardwareProfile", k] = .silent ∧
      standing (.obj env.fields) ["vmHardwareProfile", k] = .silent := by
  rw [configLayers, layered_cons, layered_cons, layered_cons] at hw
  rw [givenLayers, layered_cons, layered_cons]
  cases hover : standing (.obj (overrides.getD .empty).fields) ("vmHardwareProfile" :: q) with
  | sets u =>
    rw [hover] at hw
    exact .inl hw
  | hides =>
    rw [hover] at hw
    cases hw
  | silent =>
    rw [hover] at hw
    cases henv : standing (.obj env.fields) ("vmHardwareProfile" :: q) with
    | sets u =>
      rw [henv] at hw
      exact .inl hw
    | hides =>
      rw [henv] at hw
      cases hw
    | silent =>
      rw [henv] at hw
      cases hchosen : chosenProfile file env overrides registry with
      | none =>
        rw [hchosen] at hw
        exact .inl hw
      | some h =>
        rw [hchosen] at hw
        have hget : JsMap.get [("vmHardwareProfile", Json.obj h.fields)] "vmHardwareProfile" =
            some (.obj h.fields) := rfl
        rw [profileLayer, standing_obj_get hget] at hw
        cases hst : standing (.obj h.fields) q with
        | sets u =>
          rw [hst] at hw
          cases hw
          obtain ⟨k, rfl, hk⟩ := standing_profile hst
          exact .inr ⟨h, k, rfl, rfl, hk, hover, henv⟩
        | hides =>
          rw [hst] at hw
          cases hw
        | silent =>
          rw [hst] at hw
          exact .inl hw

/-- Hardware that is not an object has no field of a profile. -/
theorem get_existingHardware {h : VMHardwareProfile} (hk : JsMap.get h.fields k = some v)
    (hno : ∀ x, JsMap.get config "vmHardwareProfile" ≠ some (.obj x)) :
    JsMap.get (ownFields (existingHardware config)) k = none := by
  unfold existingHardware
  cases hu : JsMap.get config "vmHardwareProfile" with
  | none => rfl
  | some u =>
    cases u with
    | null => rfl
    | obj x => exact absurd hu (hno x)
    | bool b => exact get_ownFields (u := .bool b) hk rfl
    | num q s => exact get_ownFields (u := .num q s) hk rfl
    | str s => exact get_ownFields (u := .str s) hk rfl
    | arr es => exact get_ownFields (u := .arr es) hk rfl

/-- Hardware that the given layers set stays on top of the profile. -/
theorem hardware_given {p : VMHardwareProfile} {q : List String} (hconfig : Unique (.obj config))
    (hne : q ≠ []) (hw : leafAt (.obj config) ("vmHardwareProfile" :: q) = some w) :
    leafAt (.obj (mergeFields p.fields (ownFields (existingHardware config)))) q = some w := by
  cases q with
  | nil => exact absurd rfl hne
  | cons k q =>
    rw [leafAt_obj_cons] at hw
    obtain ⟨u, hu, hw⟩ := Option.bind_eq_some_iff.mp hw
    cases u with
    | obj x =>
      have hexisting : existingHardware config = .obj x := by
        rw [existingHardware, hu]
        rfl
      rw [hexisting, ownFields, leafAt_mergeFields (unique_get hconfig hu)]
      cases hst : standing (.obj x) (k :: q) with
      | sets y =>
        rw [leafAt, hst] at hw
        exact hw
      | hides =>
        rw [leafAt, hst] at hw
        cases hw
      | silent =>
        rw [leafAt, hst] at hw
        cases hw
    | _ => cases hw

/-- A field of the profile stands where neither overrides nor environment say anything, unless the
file sets it. -/
theorem hardware_profile {p : VMHardwareProfile}
    (hconfig : Unique (.obj config)) (hw : JsMap.get p.fields k = some w)
    (hv : leafAt (.obj (mergeFields p.fields (ownFields (existingHardware config)))) [k] = some v) :
    v = w ∨ leafAt (.obj config) ["vmHardwareProfile", k] = some v := by
  by_cases hobj : ∃ x, JsMap.get config "vmHardwareProfile" = some (.obj x)
  · obtain ⟨x, hx⟩ := hobj
    have hexisting : existingHardware config = .obj x := by
      rw [existingHardware, hx]
      rfl
    rw [hexisting, ownFields, leafAt_mergeFields (unique_get hconfig hx)] at hv
    cases hst : standing (.obj x) [k] with
    | sets y =>
      rw [hst] at hv
      refine .inr ?_
      rw [leafAt_obj_cons, hx, Option.bind_some, leafAt, hst]
      exact hv
    | hides =>
      rw [hst] at hv
      cases hv
    | silent =>
      rw [hst] at hv
      exact .inl (Option.some.inj ((leafAt_singleton.mp hv).1.symm.trans hw))
  · have hnone := get_existingHardware hw fun x hx => hobj ⟨x, hx⟩
    have hget := (leafAt_singleton.mp hv).1
    rw [get_mergeFields_none hnone, hw] at hget
    exact .inl (Option.some.inj hget).symm

/-! ### From the steps to the result -/

/-- What `loadConfig` hands on is the resolved configuration, rewritten. -/
theorem mergedConfig_ok {config : List (String × Json)}
    (h : mergedConfig file env overrides registry = .ok config) :
    ∃ r, resolveHardwareProfile (mergedLayers file env overrides) registry = .ok r ∧
      config = migrateLegacyStage2Thresholds (syncKibanaRepoBranchWithBuildkite r) := by
  unfold mergedConfig at h
  cases hres : resolveHardwareProfile (mergedLayers file env overrides) registry with
  | error e =>
    rw [hres] at h
    cases h
  | ok r =>
    rw [hres] at h
    exact ⟨r, rfl, (Except.ok.inj h).symm⟩

section Resolved

variable {r : List (String × Json)}
  (hr : resolveHardwareProfile (mergedLayers file env overrides) registry = .ok r)

include hr

/-- Beside the hardware, the resolved configuration is that of the given layers. -/
theorem leafAt_resolved (hj : j ≠ "vmHardwareProfile") : leafAt (.obj r) (j :: path) =
    layered (givenLayers file env overrides) (j :: path) := by
  rw [← leafAt_merged]
  rcases resolve_cases hr with ⟨-, rfl⟩ | ⟨p, -, rfl⟩
  · rfl
  · rw [leafAt_set, if_neg (Ne.symm hj)]

omit hr in
/-- Where overrides and environment say nothing, the given layers have what the file has. -/
theorem leafAt_file (hO : standing (.obj (overrides.getD .empty).fields) path = .silent)
    (hE : standing (.obj env.fields) path = .silent) :
    leafAt (.obj (mergedLayers file env overrides)) path = leafAt (.obj file.fields) path := by
  rw [leafAt_merged, givenLayers, layered_cons, layered_cons, hO, hE]
  rfl

/-- A field that the file alone sets is in the resolved hardware. -/
theorem resolved_hardware {p : VMHardwareProfile}
    (hp : chosenProfile file env overrides registry = some p)
    (hO : standing (.obj (overrides.getD .empty).fields) ["vmHardwareProfile", k] = .silent)
    (hE : standing (.obj env.fields) ["vmHardwareProfile", k] = .silent)
    (hF : leafAt (.obj file.fields) ["vmHardwareProfile", k] = some v) :
    leafAt (.obj r) ["vmHardwareProfile", k] = some v := by
  rcases resolve_cases hr with ⟨hnone, -⟩ | ⟨p', -, rfl⟩
  · rw [hnone] at hp
    cases hp
  · rw [leafAt_set, if_pos rfl]
    exact hardware_given unique_merged (List.cons_ne_nil k []) ((leafAt_file hO hE).trans hF)

omit hr in
/-- Where overrides and environment say nothing, the profile is the highest layer. -/
theorem layered_profile {p : VMHardwareProfile}
    (hp : chosenProfile file env overrides registry = some p)
    (hO : standing (.obj (overrides.getD .empty).fields) ["vmHardwareProfile", k] = .silent)
    (hE : standing (.obj env.fields) ["vmHardwareProfile", k] = .silent)
    (hk : JsMap.get p.fields k = some w) :
    layered (configLayers file env overrides registry) ["vmHardwareProfile", k] = some w := by
  have hleaf : standing (.obj p.fields) [k] = .sets w := by
    rw [standing_obj_get hk, standing_leaf_nil (isObject_profile hk)]
  have hget : JsMap.get [("vmHardwareProfile", Json.obj p.fields)] "vmHardwareProfile" =
      some (.obj p.fields) := rfl
  rw [configLayers, layered_cons, layered_cons, layered_cons, hO, hE, hp, profileLayer,
    standing_obj_get hget, hleaf]
  rfl

/-- A branch that is set for the repository becomes that of Buildkite. -/
theorem synced_branch {branch : String} (hne : branch ≠ "")
    (hb : layered (givenLayers file env overrides) ["buildkite", "kibanaBranch"] = some (.str branch))
    (hw : layered (givenLayers file env overrides) ["kibanaRepo", "branch"] = some w) :
    leafAt (.obj (syncKibanaRepoBranchWithBuildkite r)) ["kibanaRepo", "branch"] =
      some (.str branch) := by
  have hbranch : kibanaBranch r = some branch :=
    kibanaBranch_eq_some.mpr ⟨hne, (leafAt_resolved hr (by decide)).trans hb⟩
  have hrepo : leafAt (.obj r) ["kibanaRepo", "branch"] = some w :=
    (leafAt_resolved hr (by decide)).trans hw
  rw [leafAt_obj_cons] at hrepo
  obtain ⟨repo, hget, hleaf⟩ := Option.bind_eq_some_iff.mp hrepo
  have href : isReference repo = true := by
    cases repo with
    | obj fields => rfl
    | _ => cases hleaf
  rw [sync_eq hbranch hget href, leafAt_set, if_pos rfl, leafAt_set, if_pos rfl]
  rfl

/-- Below the hardware, the order is kept if no field of the profile is set otherwise by the file. -/
theorem layered_of_hardware {q : List String}
    (hkeeps : KeepsOrder file env overrides registry)
    (hv : leafAt (.obj r) ("vmHardwareProfile" :: q) = some v)
    (hw : layered (configLayers file env overrides registry) ("vmHardwareProfile" :: q) = some w) :
    v = w := by
  rcases resolve_cases hr with ⟨hnone, rfl⟩ | ⟨p, hp, rfl⟩
  · rcases layered_hardware hw with hw | ⟨p, k, hp, -⟩
    · rw [leafAt_merged, hw] at hv
      exact (Option.some.inj hv).symm
    · rw [hnone] at hp
      cases hp
  · rw [leafAt_set, if_pos rfl] at hv
    have hne : q ≠ [] := by
      rintro rfl
      cases hv
    rcases layered_hardware hw with hw | ⟨p', k, hp', rfl, hk, hO, hE⟩
    · rw [← leafAt_merged] at hw
      exact Option.some.inj (hv.symm.trans (hardware_given unique_merged hne hw))
    · obtain rfl : p = p' := Option.some.inj (hp.symm.trans hp')
      rcases hardware_profile unique_merged hk hv with heq | hgiven
      · exact heq
      · exact hkeeps.1 p hp k v w hO hE ((leafAt_file hO hE).symm.trans hgiven) hk

/-- Below the repository, the order is kept if a branch that is set is that of Buildkite. -/
theorem layered_of_repo (hkeeps : KeepsOrder file env overrides registry)
    (hv : leafAt (.obj (syncKibanaRepoBranchWithBuildkite r)) ("kibanaRepo" :: path) = some v)
    (hw : leafAt (.obj r) ("kibanaRepo" :: path) = some w) : v = w := by
  rcases sync_cases r with heq | ⟨branch, repo, hb, hget, -, heq⟩
  · rw [heq] at hv
    exact Option.some.inj (hv.symm.trans hw)
  rw [heq, leafAt_set, if_pos rfl] at hv
  have hgiven := (leafAt_resolved hr (by decide)).symm.trans hw
  rw [leafAt_obj_cons, hget] at hw
  cases path with
  | nil => cases hv
  | cons k path =>
    have hown := leafAt_ownFields hw (List.cons_ne_nil k path)
    rw [leafAt_set] at hv
    by_cases hk : "branch" = k
    · subst hk
      rw [if_pos rfl] at hv
      cases path with
      | nil =>
        obtain ⟨hne, hleaf⟩ := kibanaBranch_eq_some.mp hb
        rw [leafAt_resolved hr (by decide)] at hleaf
        rw [leafAt_leaf_nil rfl] at hv
        rw [hkeeps.2 branch w hne hleaf hgiven]
        exact (Option.some.inj hv).symm
      | cons k' path =>
        rw [leafAt_leaf_cons rfl] at hv
        cases hv
    · rw [if_neg hk] at hv
      exact Option.some.inj (hv.symm.trans hown)

end Resolved

/-- One of the built-in profiles. -/
def singleA100 : VMHardwareProfile where
  gpuType := "nvidia-a100-80gb"
  gpuCount := ⟨1, "1"⟩
  ramGb := ⟨340, "340"⟩
  cpuCores := ⟨12, "12"⟩
  diskGb := ⟨500, "500"⟩
  machineType := "a2-highgpu-1g"

def builtinProfiles : HardwareProfileRegistry := [("1xa100-80gb", singleA100)]

/-- A feature branch of Kibana, evaluated by the pipeline of `main`. -/
def featureFile : ConfigObject where
  fields := [("hardwareProfileId", .str "1xa100-80gb"),
    ("vmHardwareProfile", .obj [("gpuCount", .num 2 "2")]),
    ("buildkite", .obj [("kibanaBranch", .str "main")]),
    ("kibanaRepo", .obj [("branch", .str "feature")])]
  unique := by
    refine .object (by decide) fun f hf => ?_
    simp only [List.mem_cons, List.not_mem_nil, or_false] at hf
    have hone : ∀ (k : String) (v : Json), isObject v = false → Unique (.obj [(k, v)]) := by
      intro k v hv
      refine .object (List.pairwise_singleton _ _) fun e he => ?_
      rw [List.mem_singleton.mp he]
      exact .leaf hv
    rcases hf with rfl | rfl | rfl | rfl
    · exact .leaf rfl
    all_goals exact hone _ _ rfl

end Config
