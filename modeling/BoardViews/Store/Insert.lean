import BoardViews.Store.Record
import BoardViews.Store.Write

/-
  New rows. The values of a row are handed over to the store in the order of the columns: switches
  are looked at first, then every value has to be one that a cell can hold, then no column may be
  without one, and last the row must not repeat a key. A row that is made from a record has the
  defaults of its model where the record has no value; a plain row is taken as it is.
  `createRecord` is `create` of `ViewCategoryRepository` for a category made from any record.
-/

namespace BoardViews

/-- A value for a column. -/
structure Entry where
  column : Schema.Column
  value : Json

/-- The cells of a row, as far as there are any. -/
abbrev Cells := List (String × Option Cell)

/-! ## Handing over -/

/-- A switch as it is handed over; zero and one are switches as well. -/
def Binding.ofSwitch (v : Json) : Except Fault Binding :=
  let words : String := "Not a boolean value: " ++ v.quoted
  match v with
  | .null => .ok .null
  | .bool b => .ok (.cell (.int (if b then 1 else 0)))
  | .int n =>
    if n = 0 ∨ n = 1 then .ok (.cell (.int n))
    else .error (.notSwitch ("Value " ++ v.quoted ++ " is not None, True, or False"))
  | .real x =>
    match x.toInt? with
    | some 0 => .ok (.cell (.int 0))
    | some 1 => .ok (.cell (.int 1))
    | _ => .error (.notSwitch words)
  | .text _ => .error (.notSwitch words)
  | v => .error (.notSwitch ("unhashable type: '" ++ v.kindName ++ "'"))

/-- A value as it is handed over. -/
def Entry.binding (e : Entry) : Except Fault Binding :=
  match e.column.kind with
  | .flag => Binding.ofSwitch e.value
  | _ => .ok (.ofJson e.value)

/-- Values that are handed over, as their columns store them. -/
def handOverEntries (es : List Entry) : Except Fault Cells := do
  let bindings ← es.mapM Entry.binding
  let cells ← (Binding.handOver bindings).mapError .notTaken
  .ok (es.zipWith (fun e c => (e.column.name, c.map e.column.kind.adapt)) cells)

namespace RowKind

/-- The entries of a plain row. -/
def plainEntries (k : RowKind) (r : Record) : List Entry :=
  k.shape.columns.filterMap fun c => (Keyed.get? c.name r).map fun v => ⟨c, v⟩

/-- The value of a column that a new row was given none for. -/
def filled (k : RowKind) (freshId : String) (millis : Except ClockFault Int) (column : String) :
    Except Fault (Option Json) :=
  match k.fallback? column with
  | some .freshId => .ok (some (.text freshId))
  | some .clock => (millis.mapError .noDefault).map fun n => some (.int n)
  | some (.value v) => .ok (some v)
  | none => .ok (if k.shape.key.contains column then none else some .null)

/-- The entries of a row that is made from a record. A part of the key that there is no value for
has no entry at all. -/
def newEntries (k : RowKind) (freshId : String) (millis : Except ClockFault Int) (r : Record) :
    Except Fault (List Entry) :=
  k.shape.columns.filterMapM fun c => do
    let value ←
      match r.given? c.name with
      | some v => .ok (some v)
      | none => k.filled freshId millis c.name
    .ok (value.map fun v => ⟨c, v⟩)

/-- A part of the key of a record must not be a list or an object. -/
def checkKey (k : RowKind) (r : Record) : Except Fault Unit :=
  let fault? : Json → Option Fault
    | .list items => some (.noKey (Json.list items).kindName)
    | .object fields => some (.noKey (Json.object fields).kindName)
    | _ => none
  match k.shape.key.findSome? fun c => (r.given? c).bind fault? with
  | some why => .error why
  | none => .ok ()

/-- The cells of a row that is made from a record. -/
def newCells (k : RowKind) (freshId : String) (millis : Except ClockFault Int) (r : Record) :
    Except Fault Cells := do
  k.checkKey r
  let es ← k.newEntries freshId millis r
  handOverEntries es

/-- The cell of a column, which has to be there. -/
def need (k : RowKind) (cells : Cells) (column : String) : Except Fault Cell :=
  match (Keyed.get? column cells).bind fun c => c with
  | some c => .ok c
  | none => .error (.missingValue (k.shape.name ++ "." ++ column))

/-- The text of a column, which has to be there. -/
def needText (k : RowKind) (cells : Cells) (column : String) : Except Fault String :=
  (k.need cells column).map Cell.toText

/-- The switch of a column, which has to be there. -/
def needFlag (k : RowKind) (cells : Cells) (column : String) : Except Fault Bool :=
  (k.need cells column).map Cell.isYes

end RowKind

/-! ## Rows of each kind -/

/-- The user of cells. -/
def User.ofCells (cells : Cells) : Except Fault User := do
  let id ← RowKind.user.needText cells "id"
  let username ← RowKind.user.needText cells "username"
  let createAt ← RowKind.user.need cells "create_at"
  let updateAt ← RowKind.user.need cells "update_at"
  .ok ⟨id, username, createAt, updateAt⟩

/-- The board of cells. -/
def Board.ofCells (cells : Cells) : Except Fault Board := do
  let id ← RowKind.board.needText cells "id"
  let teamId ← RowKind.board.needText cells "team_id"
  let title ← RowKind.board.needText cells "title"
  let createdBy ← RowKind.board.needText cells "created_by"
  let createAt ← RowKind.board.need cells "create_at"
  let updateAt ← RowKind.board.need cells "update_at"
  let deleteAt ← RowKind.board.need cells "delete_at"
  .ok ⟨id, teamId, title, createdBy, createAt, updateAt, deleteAt⟩

/-- The member of cells. -/
def Member.ofCells (cells : Cells) : Except Fault Member := do
  let boardId ← RowKind.member.needText cells "board_id"
  let userId ← RowKind.member.needText cells "user_id"
  let createAt ← RowKind.member.need cells "create_at"
  let updateAt ← RowKind.member.need cells "update_at"
  .ok ⟨boardId, userId, createAt, updateAt⟩

/-- The category of cells. -/
def Category.ofCells (cells : Cells) : Except Fault Category := do
  let id ← RowKind.category.needText cells "id"
  let name ← RowKind.category.needText cells "name"
  let userId ← RowKind.category.needText cells "user_id"
  let boardId ← RowKind.category.needText cells "board_id"
  let collapsed ← RowKind.category.needFlag cells "collapsed"
  let sortOrder ← RowKind.category.need cells "sort_order"
  let type ← RowKind.category.needText cells "type"
  let createAt ← RowKind.category.need cells "create_at"
  let updateAt ← RowKind.category.need cells "update_at"
  let deleteAt ← RowKind.category.need cells "delete_at"
  .ok ⟨id, name, userId, boardId, createAt, updateAt, deleteAt, collapsed, sortOrder, type⟩

/-- The membership of cells. -/
def Membership.ofCells (cells : Cells) : Except Fault Membership := do
  let viewId ← RowKind.membership.needText cells "view_id"
  let categoryId ← RowKind.membership.needText cells "category_id"
  let hidden ← RowKind.membership.needFlag cells "hidden"
  let sortOrder ← RowKind.membership.need cells "sort_order"
  .ok ⟨viewId, categoryId, hidden, sortOrder⟩

namespace Store

/-- Adds a user. No two users share a name. -/
def addUser (s : Store) (u : User) : Except Fault Store :=
  if s.users.rows.any (·.username == u.username) then .error (.duplicateKey ["users.username"])
  else (s.users.added ["users.id"] u).map fun t => { s with users := t }

/-- Adds a board. -/
def addBoard (s : Store) (b : Board) : Except Fault Store :=
  (s.boards.added ["boards.id"] b).map fun t => { s with boards := t }

/-- Adds a member. -/
def addMember (s : Store) (m : Member) : Except Fault Store :=
  (s.members.added ["board_members.board_id", "board_members.user_id"] m).map fun t =>
    { s with members := t }

/-- Adds a category and leaves the others where they are. -/
def addPlainCategory (s : Store) (c : Category) : Except Fault Store :=
  (s.categories.added ["view_categories.id"] c).map fun t => { s with categories := t }

/-- Adds a membership. -/
def addMembership (s : Store) (m : Membership) : Except Fault Store :=
  (s.memberships.added ["view_category_views.view_id"] m).map fun t => { s with memberships := t }

/-- Adds the row of cells; the answer is its record. -/
def addCells (s : Store) (k : RowKind) (cells : Cells) : Except Fault (Record × Store) := do
  match k with
  | .user =>
    let u ← User.ofCells cells
    let s' ← s.addUser u
    .ok (u.fields, s')
  | .board =>
    let b ← Board.ofCells cells
    let s' ← s.addBoard b
    .ok (b.fields, s')
  | .member =>
    let m ← Member.ofCells cells
    let s' ← s.addMember m
    .ok (m.fields, s')
  | .category =>
    let c ← Category.ofCells cells
    let s' ← s.addPlainCategory c
    .ok (c.fields, s')
  | .membership =>
    let m ← Membership.ofCells cells
    let s' ← s.addMembership m
    .ok (m.fields, s')

/-- Adds plain rows one after the other, up to the first that cannot be added. -/
def addAll (s : Store) (rows : List (RowKind × Record)) : Except Fault Store :=
  rows.foldlM (fun s r => do
    let cells ← handOverEntries (r.1.plainEntries r.2)
    (s.addCells r.1 cells).map (·.2)) s

/-- Makes a row of a kind and leaves its insertion to the commit. What the rows of a kind have in
common is their table; where a record puts something else there, the row is stored, but its columns
cannot be told. -/
def insertRecord (s : Store) (connected : Bool) (freshId : String)
    (millis : Except ClockFault Int) (k : RowKind) (r : Record) : Outcome Record :=
  let o := s.attempt do
    k.checkNames r
    reach connected
    let cells ← k.newCells freshId millis r
    let (fields, s') ← (← get).addCells k cells
    set s'
    return fields
  match o.result, Keyed.get? "__table__" r with
  | .ok _, some v => { o with result := .error (.fault (.noColumns v.kindName)) }
  | _, _ => o

/-- Makes a category, adds it at the top of its board and commits. -/
def createRecord (s : Store) (connected : Bool) (freshId : String)
    (millis : Except ClockFault Int) (r : Record) : Outcome Category :=
  match RowKind.category.checkNames r with
  | .error why => .broken s why
  | .ok () =>
    let name := (Keyed.get? "name" r).getD .null
    s.transact connected ("creating view category '" ++ name.shown ++ "'") do
      let cells ← RowKind.category.newCells freshId millis r
      let c ← Category.ofCells cells
      addCategory c
      return c

end Store

end BoardViews
