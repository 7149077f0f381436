import BoardViews.Schema.Shape
import BoardViews.Schema.Target

/-
  A database of tables, and the statements that change it. Each statement takes effect at once, so
  a script that stops at a failure leaves behind what ran before. Names of tables and columns have
  no case.
-/

namespace BoardViews.Schema

/-- What a row has in a column: a value, or nothing. -/
inductive Slot where
  | empty
  | filled (c : Cell)
  deriving DecidableEq, Repr

namespace Slot

/-- What a row has in a column, as JSON. -/
def toJson : Slot → Json
  | .empty => .null
  | .filled c => c.toJson

/-- What a row has in a column, as it is shown. -/
def shown : Slot → String
  | .empty => "None"
  | .filled c => c.shown

end Slot

/-- A row: its number, which no other row of the table has, and what it has in its columns. -/
structure Row where
  number : Int
  slots : List (String × Slot)
  deriving DecidableEq, Repr

/-- A table of a database. -/
structure Stored where
  shape : Shape
  indexes : List Index
  rows : List Row
  deriving DecidableEq, Repr

/-- A database. -/
structure Database where
  tables : List Stored := []
  deriving DecidableEq, Repr

/-- Why a statement fails. -/
inductive Trouble where
  | confused (why : Confusion)
  | tableExists (name : String)
  | indexExists (name : String)
  | noTable (name : String)
  | noIndex (name : String)
  | noColumn (table column : String)
  | fixedTable (name : String)
  | valueCount (values columns : Nat)
  | notTaken (why : NotTaken)
  | notNumber
  | missingValue (table column : String)
  | duplicateKey (table : String) (columns : List String)
  deriving DecidableEq, Repr

namespace Trouble

/-- The name of a trouble's kind. -/
def label : Trouble → String
  | .notNumber | .missingValue _ _ | .duplicateKey _ _ => "IntegrityError"
  | .notTaken why => why.label
  | .confused .nullCharacter => "ProgrammingError"
  | _ => "OperationalError"

/-- What people are told. -/
def message : Trouble → String
  | .confused why => why.message
  | .tableExists name => "table " ++ name ++ " already exists"
  | .indexExists name => "index " ++ name ++ " already exists"
  | .noTable name => "no such table: " ++ name
  | .noIndex name => "no such index: " ++ name
  | .noColumn table column => "table " ++ table ++ " has no column named " ++ column
  | .fixedTable name => "table " ++ name ++ " may not be modified"
  | .valueCount values columns =>
    Text.integer values ++ " values for " ++ Text.integer columns ++ " columns"
  | .notTaken why => why.message
  | .notNumber => "datatype mismatch"
  | .missingValue table column => "NOT NULL constraint failed: " ++ table ++ "." ++ column
  | .duplicateKey table columns =>
    "UNIQUE constraint failed: " ++
      String.intercalate ", " (columns.map fun c => table ++ "." ++ c)

/-- Whether a trouble ends all that was to be done, not only the statement: an integer that is too
large does. -/
def isFatal : Trouble → Bool
  | .notTaken .tooLarge => true
  | _ => false

end Trouble

/-- Whether two names are the same. -/
def sameName (a b : String) : Bool := Text.lower a == Text.lower b

/-- Values under the names of columns. -/
abbrev Values := List (String × Option Cell)

/-- What a row has in some columns. -/
def Row.at (r : Row) (columns : List String) : List (Option Slot) :=
  columns.map fun c => (r.slots.find? (·.1 == c)).map (·.2)

/-- Whether a row has something in each of some columns; only then can it share it with another. -/
def Row.isFilled (r : Row) (columns : List String) : Bool :=
  !(r.at columns).contains (some .empty)

/-- The names under which the number of a row can be given. -/
def numberNames : List String := ["rowid", "oid", "_rowid_"]

/-- Whether a name is one of the number of a row. -/
def isNumberName (name : String) : Bool := numberNames.any (sameName name)

namespace Stored

/-- Whether a table has a column of a name. -/
def hasColumn (t : Stored) (name : String) : Bool :=
  t.shape.columns.any fun c => sameName name c.name

/-- The groups of columns whose values no two rows may share: those of the unique indexes, the
latest first, and then the primary key. -/
def uniques (t : Stored) : List (List String) :=
  (t.indexes.reverse.filter (·.unique)).map (·.columns) ++ [t.shape.key]

/-- What a column has of a value: one that is not nullable has to have one. -/
def slot? (kind : Kind) (nullable : Bool) (value : Option Cell) : Option Slot :=
  match value with
  | some v => some (.filled (kind.adapt v))
  | none => if nullable then some .empty else none

/-- The value of a column in an insert. -/
def value? (values : Values) (c : Column) : Option Cell :=
  match values.find? fun v => sameName v.1 c.name with
  | some v => v.2
  | none => c.default?.map Default.cell

/-- What an insert puts into the columns; the first one that lacks its value makes it fail. -/
def slots (t : Stored) (values : Values) : Except Trouble (List (String × Slot)) :=
  t.shape.columns.mapM fun c =>
    match slot? c.kind c.nullable (value? values c) with
    | some slot => .ok (c.name, slot)
    | none => .error (.missingValue t.shape.name c.name)

/-- The number that follows those of all rows. -/
def nextNumber (t : Stored) : Int := t.rows.foldl (fun n r => max n (r.number + 1)) 1

/-- The number of the row of an insert: the one that is given last, or the next one. -/
def number (t : Stored) (values : Values) : Except Trouble Int :=
  match (values.filter fun v => isNumberName v.1).getLast? with
  | some (_, some v) =>
    match Kind.integer.adapt v with
    | .int n => .ok n
    | _ => .error .notNumber
  | _ => .ok t.nextNumber

/-- Inserts a row of values. -/
def insert (t : Stored) (values : Values) : Except Trouble Stored := do
  let number ← t.number values
  let row : Row := ⟨number, ← t.slots values⟩
  if t.rows.any (·.number == number) then .error (.duplicateKey t.shape.name ["rowid"])
  else
    match t.uniques.find? fun cs =>
        row.isFilled cs && t.rows.any fun q => q.at cs == row.at cs with
    | some cs => .error (.duplicateKey t.shape.name cs)
    | none => .ok { t with rows := t.rows ++ [row] }

/-- The rows in the order of what is shown of them, with their columns in the order of names. -/
def listing (t : Stored) : List (List (String × Slot)) :=
  let sorted := t.rows.map fun r => r.slots.mergeSort fun a b => decide (a.1 ≤ b.1)
  let shown (slots : List (String × Slot)) : String :=
    "[" ++ String.intercalate ", "
      (slots.map fun p => "[" ++ Text.quoted p.1 ++ ", " ++ p.2.shown ++ "]") ++ "]"
  ((sorted.map fun r => (shown r, r)).mergeSort fun a b => decide (a.1 ≤ b.1)).map (·.2)

/-- The indexes in the order of their names. -/
def indexListing (t : Stored) : List Index :=
  t.indexes.mergeSort fun a b => decide (a.name ≤ b.name)

end Stored

/-- A statement that changes the tables. -/
inductive Statement where
  | createTable (shape : Shape)
  | createIndex (table : String) (index : Index)
  | dropIndex (name table : String)
  | dropTable (name : String)
  deriving DecidableEq, Repr

namespace Database

/-- The table of a name. -/
def table? (db : Database) (name : String) : Option Stored :=
  db.tables.find? fun t => sameName t.shape.name name

/-- Whether there is a table of a name. -/
def hasTable (db : Database) (name : String) : Bool := (db.table? name).isSome

/-- Whether there is an index of a name. -/
def hasIndex (db : Database) (name : String) : Bool :=
  db.tables.any fun t => t.indexes.any (·.name == name)

/-- Puts a table in the place of the one with its name. -/
def putTable (db : Database) (t : Stored) : Database :=
  ⟨db.tables.map fun u => if u.shape.name = t.shape.name then t else u⟩

/-- Executes a statement. -/
def execute (db : Database) : Statement → Except Trouble Database
  | .createTable shape =>
    if db.hasTable shape.name then .error (.tableExists shape.name)
    else .ok ⟨db.tables ++ [⟨shape, [], []⟩]⟩
  | .createIndex table index =>
    if db.hasIndex index.name then .error (.indexExists index.name)
    else
      match db.table? table with
      | none => .error (.noTable table)
      | some t =>
        let filled := t.rows.filter (·.isFilled index.columns)
        if index.unique ∧ ¬ (filled.map fun r => r.at index.columns).Nodup then
          .error (.duplicateKey table index.columns)
        else .ok (db.putTable { t with indexes := t.indexes ++ [index] })
  | .dropIndex name _ =>
    if db.hasIndex name then
      .ok ⟨db.tables.map fun t => { t with indexes := t.indexes.filter (·.name != name) }⟩
    else .error (.noIndex name)
  | .dropTable name =>
    if db.hasTable name then .ok ⟨db.tables.filter fun t => !sameName t.shape.name name⟩
    else .error (.noTable name)

/-- Executes statements one after the other, up to the first that fails. -/
def script (db : Database) : List Statement → Database × Except Trouble Unit
  | [] => (db, .ok ())
  | s :: ss =>
    match db.execute s with
    | .ok db' => script db' ss
    | .error e => (db, .error e)

/-- The tables that a database keeps about itself, under all of their names; nobody writes them. -/
def ownTables : List (Option String × String × String) :=
  [(none, "sqlite_master", "sqlite_master"), (none, "sqlite_schema", "sqlite_master"),
   (some "main", "sqlite_master", "sqlite_master"),
   (some "main", "sqlite_schema", "sqlite_master"),
   (none, "sqlite_temp_master", "sqlite_temp_master"),
   (none, "sqlite_temp_schema", "sqlite_temp_master"),
   (some "temp", "sqlite_temp_master", "sqlite_temp_master"),
   (some "temp", "sqlite_temp_schema", "sqlite_temp_master"),
   (some "temp", "sqlite_master", "sqlite_temp_master"),
   (some "temp", "sqlite_schema", "sqlite_temp_master")]

/-- The table that an insert goes to. -/
def target (db : Database) (t : Target) : Except Trouble Stored :=
  let name := (t.database.map fun d => d ++ ".").getD "" ++ t.table
  match ownTables.find? fun o =>
      o.1 == t.database.map Text.lower && sameName o.2.1 t.table with
  | some o => .error (.fixedTable o.2.2)
  | none =>
    if t.database.all (sameName "main") then
      match db.table? t.table with
      | some s => .ok s
      | none => .error (.noTable name)
    else .error (.noTable name)

/-- Inserts values into columns of a table; table and columns are written as they are given. -/
def insert (db : Database) (table : String) (values : List (String × Binding)) :
    Except Trouble (Stored × Database) := do
  let t ← (Target.read table (values.map (·.1))).mapError .confused
  let s ← db.target t
  match t.columns.find? fun c => !(s.hasColumn c || isNumberName c) with
  | some c => .error (.noColumn t.shown c)
  | none =>
    if t.columns.length ≠ values.length then
      .error (.valueCount values.length t.columns.length)
    else
      let cells ← (Binding.handOver (values.map (·.2))).mapError .notTaken
      let s' ← s.insert (t.columns.zip cells)
      .ok (s', db.putTable s')

end Database

end BoardViews.Schema
