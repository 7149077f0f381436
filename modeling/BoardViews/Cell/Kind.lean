import BoardViews.Cell.Basic

/-
  The types of columns, and how values get into them. A column takes any value, but turns it into
  its own type where nothing is lost by it: a number becomes text in a column for text, and a text
  that reads as a number becomes that number in any other.
-/

namespace BoardViews

/-! ## Types -/

/-- The type of a column. -/
inductive Kind where
  | text (limit : Nat)
  | big
  | integer
  | flag
  deriving DecidableEq, Repr

/-- A value as a text. -/
def Cell.toText : Cell → String
  | .int n => Text.integer n
  | .real x => String.ofList (Numeral.realText x)
  | .text s => s

namespace Kind

/-- The name of a type. -/
def name : Kind → String
  | .text limit => "VARCHAR(" ++ Text.integer limit ++ ")"
  | .big => "BIGINT"
  | .integer => "INTEGER"
  | .flag => "BOOLEAN"

/-- A value as a column of the type stores it. -/
def adapt : Kind → Cell → Cell
  | .text _, c => .text c.toText
  | _, .text s => ((Numeral.read? s).map fun r => (Cell.ofReading r).settled).getD (.text s)
  | _, c => c.settled

end Kind

/-! ## Handing over -/

/-- A value that is handed over to be stored: nothing, a cell, or something of a kind that no cell
holds. -/
inductive Binding where
  | null
  | cell (c : Cell)
  | alien (kind : String)
  deriving DecidableEq, Repr

/-- Why values are not taken: one of them, counted from one, is of a kind that no cell holds, or an
integer is too large. -/
inductive NotTaken where
  | alien (position : Nat) (kind : String)
  | tooLarge
  deriving DecidableEq, Repr

namespace NotTaken

/-- The name of the reason's kind. -/
def label : NotTaken → String
  | .alien _ _ => "ProgrammingError"
  | .tooLarge => "OverflowError"

/-- What people are told. -/
def message : NotTaken → String
  | .alien position kind =>
    "Error binding parameter " ++ Text.integer position ++ ": type '" ++ kind ++
      "' is not supported"
  | .tooLarge => beyondWordMessage

end NotTaken

namespace Binding

/-- A JSON value as it is handed over. -/
def ofJson : Json → Binding
  | .null | .real .nan => .null
  | .bool b => .cell (.int (if b then 1 else 0))
  | .int n => .cell (.int n)
  | .real x => .cell (.real x)
  | .text (.whole s) => .cell (.text s)
  | v => .alien v.kindName

/-- The cell that is handed over, if there is one. -/
def cell? : Binding → Option Cell
  | .cell c => some c
  | _ => none

/-- Values that are handed over one after the other; the first that is not taken makes it fail. -/
def handOver (bindings : List Binding) : Except NotTaken (List (Option Cell)) :=
  bindings.zipIdx.mapM fun
    | (.alien kind, i) => .error (.alien (i + 1) kind)
    | (b, _) => if b.cell?.all Cell.fits then .ok b.cell? else .error .tooLarge

end Binding

end BoardViews
