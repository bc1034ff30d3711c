import Benchmarker.Js.Json

/-!
# Layered configurations

A configuration is put together from layers, each a JSON object. A layer stands to a path in one of
three ways: it sets it to a value that is not an object, it hides what the layers below it set
there, or it says nothing about it.

* `Standing`, `standing`, `leafAt`; `layered`: the value of the highest layer that sets a path;
* `Unique`: an object has no key twice;
* `mergeValue`, `mergeFields`: `deepMerge` of `config/index.ts`;
* **`leafAt_mergeFields`**: merging a source puts it on top of its target.
-/

namespace Config

open Js

/-- `typeof v === 'object' && v !== null && !Array.isArray(v)` -/
def isObject : Json → Bool
  | .obj _ => true
  | _ => false

/-- How a layer stands to a path. -/
inductive Standing
  | sets (v : Json)
  | hides
  | silent

/-- A layer sets a path to what is not an object. It hides it if it puts an object there, or
something else than an object at the start of the path. -/
def standing (layer : Json) : List String → Standing
  | [] => if isObject layer = true then .hides else .sets layer
  | k :: path =>
    if isObject layer = true then
      match layer.field k with
      | some v => standing v path
      | none => .silent
    else .hides

/-- What a path has below a layer, if it has `below` beneath it. -/
def Standing.over (s : Standing) (below : Option Json) : Option Json :=
  match s with
  | sets v => some v
  | hides => none
  | silent => below

/-- The value at a leaf path. -/
def leafAt (v : Json) (path : List String) : Option Json := (standing v path).over none

/-- **The value of the highest layer that sets a path**; the highest layer comes first. -/
def layered (layers : List Json) (path : List String) : Option Json :=
  layers.foldr (fun layer below => (standing layer path).over below) none

/-- No object has a key twice. -/
inductive Unique : Json → Prop
  | leaf {v : Json} (h : isObject v = false) : Unique v
  | object {fields : List (String × Json)} (hkeys : (JsMap.keys fields).Nodup)
      (h : ∀ f ∈ fields, Unique f.2) : Unique (.obj fields)

mutual

/-- The value at a key, when a source has a value there too. -/
def mergeValue (target : Option Json) : Json → Json
  | .obj fields => match target with
    | some (.obj below) => .obj (mergeFields below fields)
    | _ => .obj fields
  | v => v

/-- `deepMerge(target, source)`: one key of the source after the other. -/
def mergeFields (target : List (String × Json)) : List (String × Json) → List (String × Json)
  | [] => target
  | f :: fields => mergeFields (mergeField target f) fields

def mergeField (target : List (String × Json)) : String × Json → List (String × Json)
  | (k, v) => JsMap.set target k (mergeValue (JsMap.get target k) v)

end

/-! ## What a path has -/

variable {fields : List (String × Json)} {k : String} {path : List String} {v : Json}

@[simp] theorem leafAt_obj_nil : leafAt (.obj fields) [] = none := rfl

theorem standing_obj_cons : standing (.obj fields) (k :: path) =
    match JsMap.get fields k with
    | some v => standing v path
    | none => .silent := rfl

theorem standing_obj_get (h : JsMap.get fields k = some v) :
    standing (.obj fields) (k :: path) = standing v path := by
  rw [standing_obj_cons, h]

theorem standing_obj_none (h : JsMap.get fields k = none) :
    standing (.obj fields) (k :: path) = .silent := by
  rw [standing_obj_cons, h]

theorem leafAt_obj_cons : leafAt (.obj fields) (k :: path) =
    (JsMap.get fields k).bind (leafAt · path) := by
  rw [leafAt, standing_obj_cons]
  cases JsMap.get fields k <;> rfl

theorem standing_leaf_cons (h : isObject v = false) : standing v (k :: path) = .hides := by
  rw [standing, h]
  exact if_neg Bool.false_ne_true

theorem standing_leaf_nil (h : isObject v = false) : standing v [] = .sets v := by
  rw [standing, h]
  exact if_neg Bool.false_ne_true

theorem leafAt_leaf_cons (h : isObject v = false) : leafAt v (k :: path) = none := by
  rw [leafAt, standing_leaf_cons h]
  rfl

theorem leafAt_leaf_nil (h : isObject v = false) : leafAt v [] = some v := by
  rw [leafAt, standing_leaf_nil h]
  rfl

/-- The value at a leaf path is not an object. -/
theorem isObject_of_leafAt {w : Json} (h : leafAt v path = some w) : isObject w = false := by
  induction path generalizing v with
  | nil =>
    cases hv : isObject v with
    | true =>
      rw [leafAt, standing, if_pos hv] at h
      cases h
    | false =>
      rw [leafAt_leaf_nil hv] at h
      rwa [← Option.some.inj h]
  | cons k path ih =>
    cases v with
    | obj fields =>
      rw [leafAt_obj_cons] at h
      obtain ⟨v', -, hv'⟩ := Option.bind_eq_some_iff.mp h
      exact ih hv'
    | _ =>
      rw [leafAt_leaf_cons rfl] at h
      cases h

theorem layered_cons (layer : Json) (layers : List Json) :
    layered (layer :: layers) path = (standing layer path).over (layered layers path) := rfl

/-! ## Merging -/

/-- What a merge leaves at a key. -/
theorem get_mergeFields {target source : List (String × Json)}
    (hkeys : (JsMap.keys source).Nodup) : JsMap.get (mergeFields target source) k =
      match JsMap.get source k with
      | some v => some (mergeValue (JsMap.get target k) v)
      | none => JsMap.get target k := by
  induction source generalizing target with
  | nil => rw [mergeFields]; rfl
  | cons f source ih =>
    obtain ⟨j, v⟩ := f
    have hcons := List.nodup_cons.mp hkeys
    rw [mergeFields, ih hcons.2, mergeField, JsMap.get_cons]
    by_cases hk : j = k
    · subst hk
      have hnone : JsMap.get source j = none := by
        cases h : JsMap.get source j with
        | none => rfl
        | some w => exact absurd (List.mem_map_of_mem (JsMap.mem_of_get_eq_some h)) hcons.1
      rw [hnone, if_pos rfl]
      exact JsMap.get_set_self
    · rw [if_neg hk]
      cases JsMap.get source k with
      | none => exact JsMap.get_set.trans (if_neg hk)
      | some w => rw [JsMap.get_set, if_neg hk]

/-- A key that the source does not have keeps its value. -/
theorem get_mergeFields_none {target source : List (String × Json)}
    (h : JsMap.get source k = none) :
    JsMap.get (mergeFields target source) k = JsMap.get target k := by
  induction source generalizing target with
  | nil => rw [mergeFields]
  | cons f source ih =>
    rw [JsMap.get_cons] at h
    by_cases hk : f.1 = k
    · rw [if_pos hk] at h
      cases h
    · rw [if_neg hk] at h
      rw [mergeFields, ih h, mergeField, JsMap.get_set, if_neg hk]

/-- What stands where one value is merged into another. -/
theorem leafAt_mergeValue {source : Json} (h : Unique source) (target : Option Json)
    (path : List String) : leafAt (mergeValue target source) path =
      (standing source path).over (target.bind (leafAt · path)) := by
  induction h generalizing target path with
  | @leaf v h =>
    have hmerge : mergeValue target v = v := by
      cases v with
      | obj fields => cases h
      | _ => rw [mergeValue]; intro _ hv; cases hv
    rw [hmerge, leafAt]
    cases path with
    | nil => rw [standing_leaf_nil h]; rfl
    | cons k path => rw [standing_leaf_cons h]; rfl
  | @object fields hkeys _ ih =>
    have hbelow : ∀ t, isObject t = false → (standing (.obj fields) path).over (leafAt t path) =
        leafAt (.obj fields) path := by
      intro t ht
      cases path with
      | nil => rfl
      | cons k path => rw [leafAt_leaf_cons ht, leafAt]
    match target with
    | none =>
      rw [mergeValue, Option.bind_none, leafAt]
      intro below hb
      cases hb
    | some (.obj below) =>
      rw [mergeValue, Option.bind_some]
      cases path with
      | nil => rfl
      | cons k path =>
        rw [leafAt_obj_cons, leafAt_obj_cons, standing_obj_cons, get_mergeFields hkeys]
        cases hk : JsMap.get fields k with
        | none => rfl
        | some v => exact ih (k, v) (JsMap.mem_of_get_eq_some hk) (JsMap.get below k) path
    | some .null => exact (hbelow _ rfl).symm
    | some (.bool b) => exact (hbelow (.bool b) rfl).symm
    | some (.num q s) => exact (hbelow (.num q s) rfl).symm
    | some (.str s) => exact (hbelow (.str s) rfl).symm
    | some (.arr es) => exact (hbelow (.arr es) rfl).symm

/-- **Merging puts the source on top**: a path has what the source sets, or what the target has
there if the source says nothing about it. -/
theorem leafAt_mergeFields {target source : List (String × Json)} (h : Unique (.obj source))
    (path : List String) : leafAt (.obj (mergeFields target source)) path =
      (standing (.obj source) path).over (leafAt (.obj target) path) := by
  have hmerge := leafAt_mergeValue h (some (.obj target)) path
  rwa [mergeValue] at hmerge

theorem unique_set {m : List (String × Json)} (h : Unique (.obj m)) (hv : Unique v) :
    Unique (.obj (JsMap.set m k v)) := by
  cases h with
  | leaf h => cases h
  | object hkeys h =>
    refine .object (JsMap.nodup_set hkeys) fun f hf => ?_
    rcases JsMap.mem_set hf with rfl | hf
    · exact hv
    · exact h f hf

theorem unique_get {m : List (String × Json)} (h : Unique (.obj m)) (hv : JsMap.get m k = some v) :
    Unique v := by
  cases h with
  | leaf h => cases h
  | object _ h => exact h _ (JsMap.mem_of_get_eq_some hv)

theorem unique_mergeValue {source : Json} (h : Unique source) {target : Option Json}
    (ht : ∀ t, target = some t → Unique t) : Unique (mergeValue target source) := by
  induction h generalizing target with
  | @leaf v h =>
    have hmerge : mergeValue target v = v := by
      cases v with
      | obj fields => cases h
      | _ => rw [mergeValue]; intro _ hv; cases hv
    rw [hmerge]
    exact .leaf h
  | @object fields hkeys hfields ih =>
    -- one key of the source after the other keeps the keys of the target apart
    have hmerge : ∀ (fs : List (String × Json)) (below : List (String × Json)), fs ⊆ fields →
        Unique (.obj below) → Unique (.obj (mergeFields below fs)) := by
      intro fs
      induction fs with
      | nil =>
        intro below _ hb
        rwa [mergeFields]
      | cons f fs ihfs =>
        intro below hsub hb
        rw [mergeFields, mergeField]
        refine ihfs _ (fun e he => hsub (List.mem_cons_of_mem f he)) (unique_set hb ?_)
        exact ih f (hsub List.mem_cons_self) fun t hget => unique_get hb hget
    cases target with
    | none =>
      rw [mergeValue]
      · exact .object hkeys hfields
      · intro below hb
        cases hb
    | some t =>
      cases t with
      | obj below =>
        rw [mergeValue]
        exact hmerge fields below (fun e he => he) (ht _ rfl)
      | _ =>
        rw [mergeValue]
        · exact .object hkeys hfields
        · intro below hb
          cases hb

theorem unique_mergeFields {target source : List (String × Json)} (ht : Unique (.obj target))
    (hs : Unique (.obj source)) : Unique (.obj (mergeFields target source)) := by
  have htarget : ∀ t, some (Json.obj target) = some t → Unique t := by
    intro t h
    cases h
    exact ht
  have hmerge := unique_mergeValue hs htarget
  rwa [mergeValue] at hmerge

end Config
