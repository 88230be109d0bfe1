import Mathlib.Data.Nat.Digits.Defs
import NamadaIndexer.Foundation.KeyedTable

/-! JSON values, and the two ways to look into them: by the accessors of a decoded value, and by
the paths of a database. -/
namespace NamadaIndexer.Foundation

/-- A JSON value. A number is kept as it prints. -/
inductive Json
  | null
  | bool (value : Bool)
  | number (text : String)
  | string (text : String)
  | array (items : List Json)
  | object (fields : List (String × Json))

namespace Json

/-- `Value::get`, by a key. Of two fields under one key the later one counts. -/
def get? (key : String) : Json → Option Json
  | .object fields => (fields.reverse.find? fun field => field.1 == key).map Prod.snd
  | _ => none

/-- `Value::as_array` -/
def asArray : Json → Option (List Json)
  | .array items => some items
  | _ => none

/-- `Value::as_str` -/
def asStr : Json → Option String
  | .string text => some text
  | _ => none

/-- A value read as a map from texts to texts, by its fields. -/
def asTexts : Json → Option (List (String × String))
  | .object fields => fields.mapM fun field => field.2.asStr.map fun text => (field.1,text)
  | _ => none

/-- The value of a map from texts to texts. -/
def ofTexts (fields : List (String × String)) : Json :=
  .object (fields.map fun field => (field.1,.string field.2))

/-- The key of a path as a position in an array, where it counts from the front. -/
def position (key : String) : Option ℕ :=
  if key ≠ "" ∧ key.toList.all Char.isDigit then some (Nat.ofDigitChars 10 key.toList 0) else none

/-- One step of a path. -/
def step (json : Json) (key : String) : Option Json :=
  match json with
  | .array items => (position key).bind fun i => items[i]?
  | json => json.get? key

/-- `#>>`. A null has no text; the text of a value that is no string is what `render` makes of
it. -/
def pathText (render : Json → String) (json : Json) (keys : List String) : Option String :=
  (keys.foldlM step json).bind fun json =>
    match json with
    | .null => none
    | .string text => some text
    | json => some (render json)

@[simp] theorem get?_array (key : String) (items : List Json) : (array items).get? key = none := rfl

@[simp] theorem asTexts_ofTexts (fields : List (String × String)) :
    (ofTexts fields).asTexts = some fields := by
  rw [ofTexts,asTexts,List.mapM_map]
  induction fields with
  | nil => rfl
  | cons field fields ih =>
    rw [List.mapM_cons,ih]
    rfl

end Json

/-- A look into a map that is collected from fields: of two under one key the later one counts. -/
def textAt (fields : List (String × String)) (key : String) : Option String :=
  (fields.reverse.find? fun field => field.1 = key).map Prod.snd

theorem textAt_of_mem {fields : List (String × String)} (hkeys : (fields.map Prod.fst).Nodup)
    {key text : String} (h : (key,text) ∈ fields) : textAt fields key = some text := by
  have hreverse : (fields.reverse.map Prod.fst).Nodup := by
    rw [List.map_reverse]
    exact List.nodup_reverse.mpr hkeys
  rw [textAt,(Table.find?_key_eq_some hreverse).mpr ⟨List.mem_reverse.mpr h,rfl⟩,Option.map_some]

end NamadaIndexer.Foundation
