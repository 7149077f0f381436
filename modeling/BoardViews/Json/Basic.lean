import BoardViews.Keyed
import BoardViews.Number.Binary64
import BoardViews.Text.Raw

/-
  JSON values. Integers are exact, other numbers are floating point, and an object keeps its fields
  in the order in which they were first named. Texts of JSON have two limits, for those who write
  them and for those who read them: the digits of an integer, and how deep values stand in each
  other.
-/

namespace BoardViews

/-- A JSON value. -/
inductive Json where
  | null
  | bool (b : Bool)
  | int (n : Int)
  | real (x : Binary64)
  | text (t : RawText)
  | list (items : List Json)
  | object (fields : List (RawText × Json))
  deriving Inhabited

namespace Json

/-- An integer of more digits is neither written nor read. -/
def maxIntegerDigits : Nat := 4300

/-- How deep lists and objects may stand in each other. -/
def maxDepth : Nat := 985

/-- An object with the given fields. -/
def record (fields : List (String × Json)) : Json :=
  .object (fields.map fun f => (.whole f.1, f.2))

/-- The value of a field of an object. -/
def field? (key : String) : Json → Option Json
  | .object fields => Keyed.get? (.whole key) fields
  | _ => none

/-- A list of texts as a JSON value. -/
def texts (ts : List RawText) : Json := .list (ts.map .text)

/-- A list of strings as a JSON value. -/
def strings (ss : List String) : Json := texts (ss.map .whole)

/-- A string or nothing. -/
def string? : Option String → Json
  | none => .null
  | some s => .text s

/-- A text or nothing. -/
def text? : Option RawText → Json
  | none => .null
  | some t => .text t

mutual

/-- Whether all numbers of a value are finite. -/
def isFinite : Json → Bool
  | .real (.finite _ _ _) => true
  | .real _ => false
  | .list items => areFinite items
  | .object fields => fieldsAreFinite fields
  | _ => true

/-- Whether all numbers of some values are finite. -/
def areFinite : List Json → Bool
  | [] => true
  | v :: vs => v.isFinite && areFinite vs

/-- Whether all numbers of some fields are finite. -/
def fieldsAreFinite : List (RawText × Json) → Bool
  | [] => true
  | (_, v) :: fs => v.isFinite && fieldsAreFinite fs

end

mutual

/-- A value without the fields of objects whose keys start with a word. -/
def without (word : String) : Json → Json
  | .list items => .list (itemsWithout word items)
  | .object fields => .object (fieldsWithout word fields)
  | v => v

/-- Items without such fields. -/
def itemsWithout (word : String) : List Json → List Json
  | [] => []
  | v :: vs => v.without word :: itemsWithout word vs

/-- Fields without such fields. -/
def fieldsWithout (word : String) : List (RawText × Json) → List (RawText × Json)
  | [] => []
  | (k, v) :: fs =>
    if k.startsWith word then fieldsWithout word fs
    else (k, v.without word) :: fieldsWithout word fs

end

/-- The name of a value's kind. -/
def kindName : Json → String
  | .null => "NoneType"
  | .bool _ => "bool"
  | .int _ => "int"
  | .real _ => "float"
  | .text _ => "str"
  | .list _ => "list"
  | .object _ => "dict"

end Json

end BoardViews
