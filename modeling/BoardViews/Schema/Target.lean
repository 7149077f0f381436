import BoardViews.Schema.Lexeme

/-
  Where an insert goes: a table, perhaps of a named database and under another name, and columns.
  Table and columns are given as they are to be written into the statement, so what is given for
  one name may turn out to be several words, or none.
-/

namespace BoardViews.Schema

/-- Why a statement cannot be understood. -/
inductive Confusion where
  | near (raw : String)
  | unrecognized (raw : String)
  | incomplete
  | nullCharacter
  deriving DecidableEq, Repr

/-- What people are told. -/
def Confusion.message : Confusion → String
  | .near raw => "near \"" ++ raw ++ "\": syntax error"
  | .unrecognized raw => "unrecognized token: \"" ++ raw ++ "\""
  | .incomplete => "incomplete input"
  | .nullCharacter => "the query contains a null character"

/-- The table and the columns of an insert. -/
structure Target where
  database : Option String := none
  table : String
  calledAs : Option String := none
  columns : List String := []
  deriving DecidableEq, Repr

namespace Target

/-- The table as messages show it. -/
def shown (t : Target) : String :=
  match t.calledAs, t.database with
  | some a, _ => a
  | none, some d => d ++ "." ++ t.table
  | none, none => t.table

/-- What is wrong where the next word does not fit. -/
def refuse : List Lexeme → Confusion
  | [] => .incomplete
  | w :: _ => if w.kind = .broken then .unrecognized w.raw else .near w.raw

/-- The next word, which has to be a name. -/
def readName : List Lexeme → Except Confusion (String × List Lexeme)
  | [] => .error .incomplete
  | w :: ws =>
    match w.kind with
    | .name value => .ok (value, ws)
    | _ => .error (refuse (w :: ws))

/-- Names with commas between them, up to the closing bracket. -/
def readColumns : List Lexeme → Except Confusion (List String × List Lexeme)
  | w :: separator :: ws =>
    match w.kind, separator.kind with
    | .name value, .mark ',' => (readColumns ws).map fun r => (value :: r.1, r.2)
    | .name value, .mark ')' => .ok ([value], ws)
    | .name _, _ => .error (refuse (separator :: ws))
    | _, _ => .error (refuse (w :: separator :: ws))
  | ws => (readName ws).bind fun _ => .error .incomplete

/-- The table of an insert, up to the bracket that opens its columns. -/
def readTable (ws : List Lexeme) : Except Confusion (Target × List Lexeme) := do
  let (first, ws) ← readName ws
  let (database, table, ws) ←
    match ws with
    | ⟨.mark '.', _⟩ :: ws => (readName ws).map fun r => (some first, r.1, r.2)
    | _ => .ok (none, first, ws)
  let (calledAs, ws) ←
    match ws with
    | ⟨.reserved, raw⟩ :: r =>
      if Text.lower raw = "as" then (readName r).map fun r => (some r.1, r.2) else .ok (none, ws)
    | _ => .ok (none, ws)
  .ok ({ database := database, table := table, calledAs := calledAs }, ws)

/-- Compares words with those that have to follow, up to the end. -/
def readRest : List Lexeme → List Lexeme → Except Confusion Unit
  | [], [] => .ok ()
  | _ :: _, [] => .error .incomplete
  | [], w :: ws => .error (refuse (w :: ws))
  | e :: es, w :: ws => if e.raw = w.raw then readRest es ws else .error (refuse (w :: ws))

/-- The end of a statement that inserts a number of values. -/
def valuesText (count : Nat) : String :=
  "VALUES (" ++ String.intercalate ", " (List.replicate count "?") ++ ")"

/-- The target of an insert into a table, with columns and as many values. -/
def read (table : String) (columns : List String) : Except Confusion Target :=
  let text :=
    table ++ " (" ++ String.intercalate ", " columns ++ ") " ++ valuesText columns.length
  if text.toList.contains '\x00' then .error .nullCharacter
  else do
    let (target, ws) ← readTable (Lexeme.ofText text)
    match ws with
    | ⟨.mark '(', _⟩ :: ws =>
      let (names, ws) ← readColumns ws
      readRest (Lexeme.ofText (valuesText columns.length)) ws
      .ok { target with columns := names }
    | ws => .error (refuse ws)

end Target

end BoardViews.Schema
