import BoardViews.Json.Basic
import BoardViews.Number.Word
import BoardViews.Text.Blank

/-
  Complaints about input that does not have the shape it should: a cause, and the place it was
  found at. Every cause has a label for programs and a message for people. The readers of single
  values are here as well.
-/

namespace BoardViews

/-- A step on the way to a part of the input. -/
inductive Place where
  | field (name : String)
  | index (n : Nat)
  deriving DecidableEq, Repr

/-- A step as JSON. -/
def Place.toJson : Place → Json
  | .field name => .text name
  | .index n => .int n

/-- What is wrong with a part of the input. -/
inductive Cause where
  | missing
  | notText
  | brokenText
  | tooLong (limit : Nat)
  | notBool
  | unreadableBool
  | unreadableInt
  | hugeInt
  | fractional
  | notFinite
  | unreadableFloat
  | notList
  | notModel (name : String)
  | notObject
  | refused (reason : String)
  | brokenJson
  deriving DecidableEq, Repr

/-- A cause and its place. -/
structure Complaint where
  cause : Cause
  place : List Place
  deriving DecidableEq, Repr

namespace Cause

/-- The name of a cause. -/
def label : Cause → String
  | .missing => "missing"
  | .notText => "string_type"
  | .brokenText => "string_unicode"
  | .tooLong _ => "string_too_long"
  | .notBool => "bool_type"
  | .unreadableBool => "bool_parsing"
  | .unreadableInt => "int_parsing"
  | .hugeInt => "int_parsing_size"
  | .fractional => "int_from_float"
  | .notFinite => "finite_number"
  | .unreadableFloat => "float_parsing"
  | .notList => "list_type"
  | .notModel _ => "model_type"
  | .notObject => "model_attributes_type"
  | .refused _ => "value_error"
  | .brokenJson => "json_invalid"

/-- What people are told. -/
def message : Cause → String
  | .missing => "Field required"
  | .notText => "Input should be a valid string"
  | .brokenText => "Input should be a valid string, unable to parse raw data as a unicode string"
  | .tooLong limit => "String should have at most " ++ Text.integer limit ++ " characters"
  | .notBool => "Input should be a valid boolean"
  | .unreadableBool => "Input should be a valid boolean, unable to interpret input"
  | .unreadableInt => "Input should be a valid integer, unable to parse string as an integer"
  | .hugeInt => "Unable to parse input string as an integer, exceeded maximum size"
  | .fractional => "Input should be a valid integer, got a number with a fractional part"
  | .notFinite => "Input should be a finite number"
  | .unreadableFloat => "Input should be a valid number, unable to parse string as a number"
  | .notList => "Input should be a valid list"
  | .notModel name => "Input should be a valid dictionary or instance of " ++ name
  | .notObject => "Input should be a valid dictionary or object to extract fields from"
  | .refused reason => "Value error, " ++ reason
  | .brokenJson => "JSON decode error"

/-- What programs are told besides: the limit that was passed. -/
def details : Cause → List (String × Json)
  | .tooLong limit => [("max_length", .int limit)]
  | _ => []

end Cause

/-- The part of a value at a place. -/
def part? (v : Json) : List Place → Option Json
  | [] => some v
  | .field name :: ps => (v.field? name).bind fun w => part? w ps
  | .index n :: ps =>
    match v with
    | .list items => (items[n]?).bind fun w => part? w ps
    | _ => none

namespace Complaint

/-- The complaint, found within a part of a larger input. -/
def within (p : Place) (c : Complaint) : Complaint := { c with place := p :: c.place }

/-- What a complaint shows of the input: the part at its place, or what a missing part should have
been in. -/
def shown? (c : Complaint) (input : Json) : Option Json :=
  part? input (if c.cause = .missing then c.place.dropLast else c.place)

/-- The complaints about the fields that could not be read, in order. -/
def gather (fields : List (String × Option Cause)) : List Complaint :=
  fields.filterMap fun f => f.2.map fun cause => ⟨cause, [.field f.1]⟩

end Complaint

/-- The cause of a failed reading. -/
def cause? {α : Type} : Except Cause α → Option Cause
  | .ok _ => none
  | .error c => some c

/-- The words for yes and no; ASCII case does not count, blanks do. -/
def readSwitch (s : String) : Except Cause Bool :=
  let w := Text.lower s
  if ["1", "on", "t", "true", "y", "yes"].contains w then .ok true
  else if ["0", "off", "f", "false", "n", "no"].contains w then .ok false
  else .error .unreadableBool

/-- Zero and one as a switch. -/
def switchOfInt (n : Int) : Except Cause Bool :=
  if n = 0 then .ok false else if n = 1 then .ok true else .error .unreadableBool

/-- A switch: a boolean, a zero or a one, or a word. Other whole numbers of 64 bits might have been
meant as one, anything else not. -/
def Json.toSwitch : Json → Except Cause Bool
  | .bool b => .ok b
  | .text (.whole s) => readSwitch s
  | .text (.broken _) => .error .brokenText
  | .int n => if fitsWord n then switchOfInt n else .error .notBool
  | .real x =>
    match x.toInt? with
    | some n => if -wordEnd < n ∧ n < wordEnd then switchOfInt n else .error .notBool
    | none => .error .notBool
  | _ => .error .notBool

/-- A text of at most `limit` characters. -/
def Json.toText (limit : Nat) : Json → Except Cause String
  | .text (.whole s) => if s.length ≤ limit then .ok s else .error (.tooLong limit)
  | .text (.broken _) => .error .brokenText
  | _ => .error .notText

/-- A field that may be absent or null. -/
def Json.optional {α : Type} (read : Json → Except Cause α) : Option Json → Except Cause (Option α)
  | none => .ok none
  | some .null => .ok none
  | some v => (read v).map some

/-- A field with a default. -/
def Json.orElse {α : Type} (default : α) (read : Json → Except Cause α) :
    Option Json → Except Cause α
  | none => .ok default
  | some v => read v

/-- A field that has to be there. -/
def Json.required {α : Type} (read : Json → Except Cause α) : Option Json → Except Cause α
  | none => .error .missing
  | some v => read v

end BoardViews
