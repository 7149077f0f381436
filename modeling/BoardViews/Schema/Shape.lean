import BoardViews.Cell.Kind

/-
  The shapes of tables: columns with their types, defaults and whether they may be empty, the
  primary key, the references in them and their indexes. `Schema.Migration` and `Schema.Model`
  each hold the five tables, one as the migration writes them and the other as the models do; that
  the two agree is shown in `Proofs.SameTables`.
-/

namespace BoardViews.Schema

/-- The value of a column that an insert leaves out. -/
inductive Default where
  | number (n : Int)
  | quoted (s : String)
  deriving DecidableEq, Repr

/-- The text of a default. -/
def Default.sql : Default → String
  | .number n => Text.integer n
  | .quoted s => "'" ++ s ++ "'"

/-- The value of a default. -/
def Default.cell : Default → Cell
  | .number n => .int n
  | .quoted s => .text s

/-- A column. One that is not nullable always has a value. -/
structure Column where
  name : String
  kind : Kind
  nullable : Bool
  default? : Option Default
  deriving DecidableEq, Repr

/-- An index. -/
structure Index where
  name : String
  columns : List String
  unique : Bool
  deriving DecidableEq, Repr

/-- A reference from a column of a table to the id of another. -/
structure Reference where
  column : String
  table : String
  deriving DecidableEq, Repr

/-- The shape of a table: its columns, its primary key, the references in it and its indexes. -/
structure Shape where
  name : String
  columns : List Column
  key : List String
  references : List Reference
  indexes : List Index
  deriving DecidableEq, Repr

end BoardViews.Schema
