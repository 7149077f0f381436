import BoardViews.Json.Basic
import BoardViews.Number.Shortest

/-
  Values as messages show them: a text stands for itself, but in quotes where it is part of a list
  or an object.
-/

namespace BoardViews.Json

mutual

/-- A value as a part of another one. -/
def quoted : Json → String
  | .null => "None"
  | .bool b => if b then "True" else "False"
  | .int n => Text.integer n
  | .real x => String.ofList x.toText
  | .text t => t.quoted
  | .list items => "[" ++ String.intercalate ", " (quotedItems items) ++ "]"
  | .object fields => "\x7b" ++ String.intercalate ", " (quotedFields fields) ++ "\x7d"

/-- The items of a list. -/
def quotedItems : List Json → List String
  | [] => []
  | v :: vs => v.quoted :: quotedItems vs

/-- The fields of an object, each with a colon after its key. -/
def quotedFields : List (RawText × Json) → List String
  | [] => []
  | (k, v) :: fs => (k.quoted ++ ": " ++ v.quoted) :: quotedFields fs

end

/-- A value as it is shown. -/
def shown : Json → String
  | .text t => t.patched
  | v => v.quoted

end BoardViews.Json
