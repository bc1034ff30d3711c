import Mathlib.Data.Rat.Defs
import Benchmarker.Js.Map

/-!
# JSON values

The values that `JSON.parse` returns, with the reads that the source makes of them. A number
carries its value and the text that `String` prints for it.
-/

namespace Js

/-- A value returned by `JSON.parse`. -/
inductive Json
  | null
  | bool (b : Bool)
  | num (value : ℚ) (text : String)
  | str (s : String)
  | arr (elems : List Json)
  | obj (fields : List (String × Json))

namespace Json

/-- `v[k]`; `none` is `undefined`. -/
def field (v : Json) (k : String) : Option Json :=
  match v with
  | obj fields => JsMap.get fields k
  | _ => none

def asStr : Json → Option String
  | str s => some s
  | _ => none

def asNum : Json → Option ℚ
  | num v _ => some v
  | _ => none

/-- `Boolean(v)` -/
def truthy : Json → Bool
  | null => false
  | bool b => b
  | num v _ => v ≠ 0
  | str s => s ≠ ""
  | arr _ | obj _ => true

/-- `v[0]` -/
def first : Json → Option Json
  | arr elems => elems.head?
  | str s => s.toList.head?.map fun c => str (String.singleton c)
  | v => v.field "0"

/-- `v ?? w`: `null` counts as absent. -/
def nullish (v w : Option Json) : Option Json :=
  match v with
  | none | some null => w
  | some v => some v

/-- `String(v)`; `none` is a `TypeError`, for an object whose own `toString` is not a function. -/
def toText : Json → Option String
  | null => some "null"
  | bool b => some (if b then "true" else "false")
  | num _ text => some text
  | str s => some s
  | arr elems => (toTexts elems).map (",".intercalate ·)
  | obj fields => if JsMap.has fields "toString" then none else some "[object Object]"
where
  /-- The texts that `Array.prototype.join` joins: `null` gives the empty text. -/
  toTexts : List Json → Option (List String)
    | [] => some []
    | null :: vs => (toTexts vs).map ("" :: ·)
    | v :: vs => (toText v).bind fun s => (toTexts vs).map (s :: ·)

end Json

end Js
