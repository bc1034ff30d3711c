import Benchmarker.Js.Json

/-!
# Records as JSON documents

How a record is written to a JSON document and read back: the reads of a field that the source makes
(`v as T`, `(v as T) ?? d`, `(v as T | null) ?? undefined`), and the write `x ?? null`. A read gives
`none` where the value is not of the type that it is cast to.

* `required`, `orElse`, `optional`, `ofOption`, `asList`.
* `Lawful`: what is read of a written value; `field_obj_cons`. **`optional_ofOption`**, **`lawful_list`**,
  **`lawful_dict`**: the laws of options, lists and dictionaries.
-/

namespace Js

namespace Json

variable {α β : Type}

/-! ## Reads and writes -/

def asBool : Json → Option Bool
  | bool b => some b
  | _ => none

/-- An array, element by element. -/
def asList (read : Json → Option α) : Json → Option (List α)
  | arr elems => elems.mapM read
  | _ => none

/-- An object used as a dictionary, value by value. -/
def asDict (read : Json → Option α) : Json → Option (JsMap String α)
  | obj fields => fields.mapM fun kv => (read kv.2).map fun a => (kv.1, a)
  | _ => none

/-- `v as T`. -/
def required (read : Json → Option α) (v : Option Json) : Option α := v.bind read

/-- `(v as T) ?? d`. -/
def orElse (read : Json → Option α) (d : α) (v : Option Json) : Option α :=
  match nullish v none with
  | none => some d
  | some v => read v

/-- `(v as T | null) ?? undefined`. -/
def optional (read : Json → Option α) (v : Option Json) : Option (Option α) :=
  match nullish v none with
  | none => some none
  | some v => (read v).map some

/-- `v ? read(v) : null`. -/
def whenTruthy (read : Json → Option α) (v : Option Json) : Option (Option α) :=
  match v.filter truthy with
  | none => some none
  | some v => (read v).map some

/-- `x ?? null`. -/
def ofOption (write : α → Json) : Option α → Json
  | none => null
  | some a => write a

/-! ## Laws -/

/-- The field of an object that is written out. -/
theorem field_obj_cons (k k' : String) (v : Json) (fields : List (String × Json)) :
    (obj ((k, v) :: fields)).field k' = if k = k' then some v else (obj fields).field k' :=
  JsMap.get_cons (k, v)

/-- A written value is read back, and is not `null`. -/
structure Lawful (write : α → Json) (read : Json → Option α) : Prop where
  read_write : ∀ a, read (write a) = some a
  nullish_write : ∀ a, nullish (some (write a)) none = some (write a)

variable {write : α → Json} {read : Json → Option α}

theorem required_write (h : Lawful write read) (a : α) :
    required read (some (write a)) = some a := h.read_write a

theorem orElse_write (h : Lawful write read) (a d : α) :
    orElse read d (some (write a)) = some a := by
  rw [orElse, h.nullish_write]
  exact h.read_write a

/-- **What is written of an option is read back.** -/
theorem optional_ofOption (h : Lawful write read) (x : Option α) :
    optional read (some (ofOption write x)) = some x := by
  cases x with
  | none => rfl
  | some a =>
    rw [ofOption, optional, h.nullish_write]
    show (read (write a)).map some = some (some a)
    rw [h.read_write, Option.map_some]

/-- An option of values that are all true is read back by a truth test. -/
theorem whenTruthy_ofOption {f : α → α} (hread : ∀ a, read (write a) = some (f a))
    (htruthy : ∀ a, (write a).truthy = true) (x : Option α) :
    whenTruthy read (some (ofOption write x)) = some (x.map f) := by
  cases x with
  | none => rfl
  | some a =>
    rw [ofOption, whenTruthy, Option.filter_some, if_pos (htruthy a)]
    show (read (write a)).map some = some (some (f a))
    rw [hread, Option.map_some]

theorem lawful_str : Lawful str asStr := ⟨fun _ => rfl, fun _ => rfl⟩

theorem lawful_bool : Lawful bool asBool := ⟨fun _ => rfl, fun _ => rfl⟩

/-- A number is written with the text that `print` gives. -/
theorem lawful_num (print : ℚ → String) : Lawful (fun v => num v (print v)) asNum :=
  ⟨fun _ => rfl, fun _ => rfl⟩

/-- **A list is read back element by element.** -/
theorem lawful_list (h : ∀ a, read (write a) = some a) :
    Lawful (fun l => arr (l.map write)) (asList read) where
  read_write l := by
    rw [asList, List.mapM_map]
    induction l with
    | nil => rfl
    | cons a l ih => rw [List.mapM_cons, ih, Function.comp, h]; rfl
  nullish_write _ := rfl

/-- **A dictionary is read back value by value.** -/
theorem lawful_dict (h : ∀ a, read (write a) = some a) :
    Lawful (fun m : JsMap String α => obj (m.map fun kv => (kv.1, write kv.2))) (asDict read) where
  read_write m := by
    rw [asDict, List.mapM_map]
    induction m with
    | nil => rfl
    | cons kv m ih => rw [List.mapM_cons, ih, Function.comp, h]; rfl
  nullish_write _ := rfl

end Json

end Js
