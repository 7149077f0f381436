import BoardViews.Store.Insert

/-
  Editing a stored category by the values of a record: what `update` of `ViewCategoryRepository`
  stores of a category whose fields were set before. It is written twice: name, collapsed and
  update time go to the category that has the edited id, if there is one; the commit then writes
  all that was changed, and nothing else, to the category that was loaded.
-/

namespace BoardViews

/-- The number of a value, if it has one; yes counts as one and no as zero. -/
def Json.number? : Json → Option Cell
  | .bool b => some (.int (if b then 1 else 0))
  | .int n => some (.int n)
  | .real .nan => none
  | .real x => some (.real x)
  | _ => none

/-- Whether a value is no different from the one that a column had. -/
def Json.isSame (v old : Json) : Bool :=
  match v, old with
  | .text t, .text u => t == u
  | v, old =>
    match v.number?, old.number? with
    | some a, some b => a.le b && b.le a
    | _, _ => false

namespace Category

/-- The cells of a category. -/
def cells (c : Category) : Cells :=
  [("id", some (.text c.id)), ("name", some (.text c.name)), ("user_id", some (.text c.userId)),
   ("board_id", some (.text c.boardId)), ("create_at", some c.createAt),
   ("update_at", some c.updateAt), ("delete_at", some c.deleteAt),
   ("collapsed", some (.int (if c.collapsed then 1 else 0))), ("sort_order", some c.sortOrder),
   ("type", some (.text c.type))]

/-- The value that a record has for a column, or the one of the category. -/
def valueOf (c : Category) (r : Record) (column : String) : Json :=
  ((Keyed.get? column r).or (Keyed.get? column c.fields)).getD .null

/-- The entries of a category that was edited by a record. -/
def editedEntries (c : Category) (r : Record) : List Entry :=
  RowKind.category.shape.columns.map fun column => ⟨column, c.valueOf r column.name⟩

/-- The columns that are written before all others. -/
def editedFirst : List String := ["name", "collapsed", "update_at"]

/-- What is handed over for the first write: the values, and the id if there is one. -/
def firstEntries (c : Category) (r : Record) : List Entry :=
  let es := c.editedEntries r
  es.filter (fun e => editedFirst.contains e.column.name) ++
    es.filter fun e => e.column.name == "id" && !(e.value matches .null)

/-- The entries that are different from what the category has. -/
def changedEntries (c : Category) (r : Record) : List Entry :=
  (c.editedEntries r).filter fun e =>
    !e.value.isSame (c.valueOf [] e.column.name)

end Category

namespace Store

/-- Stores a category in the place of another one that may have a different id. -/
def replaceCategory (old : String) (c : Category) : Work Unit := do
  if c.id = old then modify (·.putCategory c)
  else
    let s ← get
    match (s.categories.filterRows fun r => r.id != old).insert? c with
    | none => throw (.duplicateKey ["view_categories.id"])
    | some t => set { s with categories := t }

/-- The category of an id gets a name, a collapsed state and an update time. -/
def touchCategory (s : Store) (id name : String) (collapsed : Bool) (updateAt : Cell) : Store :=
  { s with
    categories := s.categories.mapRows
      (fun r =>
        if r.id = id then { r with name := name, collapsed := collapsed, updateAt := updateAt }
        else r)
      (by intro r; split <;> rfl) }

/-- The first write of an edited category. -/
def writeFirst (c : Category) (r : Record) : Work Unit := do
  let cells ← handOverEntries (c.firstEntries r)
  let id := (Keyed.get? "id" cells).bind fun cell => cell.map Cell.toText
  match (← get).category? id with
  | none => return ()
  | some q =>
    let name ← RowKind.category.needText cells "name"
    let collapsed ← RowKind.category.needFlag cells "collapsed"
    let updateAt ← RowKind.category.need cells "update_at"
    modify (·.touchCategory q.id name collapsed updateAt)

/-- The write that the commit of an edited category makes: what was changed comes before what the
category has by then. -/
def writeChanged (c : Category) (r : Record) : Work Category := do
  let changed ← handOverEntries (c.changedEntries r)
  let s ← get
  let c' ← Category.ofCells (changed ++ ((s.category? c.id).getD c).cells)
  replaceCategory c.id c'
  return c'

/-- Loads a category, puts the values of a record into it, and stores it. Names that categories do
not have make no difference. -/
def editRecord (s : Store) (connected : Bool) (id : Option String) (r : Record) :
    Outcome Category :=
  match s.category? id with
  | none => .refused s (.noCategory id)
  | some c =>
    match r.findSome? fun v => RowKind.category.valueFault? v.1 v.2 with
    | some why => .broken s (.badName why)
    | none =>
      (s.attempt do
        writeFirst c r
        reach connected
        writeChanged c r).blaming ("updating view category " ++ c.id)

end Store

end BoardViews
