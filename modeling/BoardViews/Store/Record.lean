import BoardViews.Failure
import BoardViews.Json.Shown
import BoardViews.Schema.Model

/-
  Records: values under the names of fields, from which rows of every kind are made. A record with
  a name that the model does not answer to is refused, and so is one with the name of a value that
  follows from the others. `RowKind.fallback?` has the defaults of the models, `new_id` and
  `get_millis` among them.
-/

namespace BoardViews

/-- Values under the names of fields. -/
abbrev Record := List (String × Json)

/-- The value of a field; null counts as none. -/
def Record.given? (r : Record) (name : String) : Option Json :=
  (Keyed.get? name r).bind fun | .null => none | v => some v

/-- The kinds of row. -/
inductive RowKind where
  | user
  | board
  | member
  | category
  | membership
  deriving DecidableEq, Repr

/-- What a new row has in a column that it was not given a value for. -/
inductive Fallback where
  | freshId
  | clock
  | value (v : Json)

namespace RowKind

/-- All kinds of row. -/
def all : List RowKind := [.user, .board, .member, .category, .membership]

/-- The name of a kind. -/
def name : RowKind → String
  | .user => "User"
  | .board => "Board"
  | .member => "BoardMember"
  | .category => "ViewCategory"
  | .membership => "ViewCategoryView"

/-- The kind of a name. -/
def ofName? (s : String) : Option RowKind := all.find? fun k => k.name == s

/-- The table of the rows of a kind. -/
def shape : RowKind → Schema.Shape
  | .user => Schema.Model.users.shape
  | .board => Schema.Model.boards.shape
  | .member => Schema.Model.boardMembers.shape
  | .category => Schema.Model.viewCategories.shape
  | .membership => Schema.Model.viewCategoryViews.shape

/-- Whether the rows of a kind have a column. -/
def hasColumn (k : RowKind) (column : String) : Bool := k.shape.columns.any (·.name == column)

/-- What a new row of a kind has in a column that it was not given a value for, if anything. -/
def fallback? (k : RowKind) (column : String) : Option Fallback :=
  match k, column with
  | .user, "id" | .board, "id" => some .freshId
  | _, "create_at" | _, "update_at" => some .clock
  | _, "delete_at" | _, "sort_order" => some (.value (.int 0))
  | _, "collapsed" | _, "hidden" => some (.value (.bool false))
  | .board, "title" => some (.value (.text ""))
  | .category, "type" => some (.value (.text "custom"))
  | _, _ => none

/-! ## Names -/

/-- The names of the values that follow from the fields: whether a row was deleted. -/
def derived (k : RowKind) : List String := if k.hasColumn "delete_at" then ["is_deleted"] else []

/-- The names that rows of all kinds answer to beside their columns; what is put there is not
stored. -/
def ownNames : List String :=
  ["metadata", "registry", "mro", "_sa_class_manager", "_sa_registry", "__abstract__",
   "__annotations__", "__base__", "__bases__", "__basicsize__", "__call__", "__class__",
   "__delattr__", "__dict__", "__dictoffset__", "__dir__", "__doc__", "__eq__", "__flags__",
   "__format__", "__ge__", "__getattribute__", "__getstate__", "__gt__", "__hash__", "__init__",
   "__init_subclass__", "__instancecheck__", "__itemsize__", "__le__", "__lt__", "__mapper__",
   "__module__", "__mro__", "__name__", "__ne__", "__new__", "__or__", "__prepare__",
   "__qualname__", "__reduce__", "__reduce_ex__", "__repr__", "__ror__", "__setattr__",
   "__sizeof__", "__str__", "__subclasscheck__", "__subclasses__", "__subclasshook__",
   "__table__", "__tablename__", "__text_signature__", "__weakref__", "__weakrefoffset__"]

/-- Why a value cannot be put under a name, if it cannot. -/
def valueFault? (k : RowKind) (name : String) (v : Json) : Option NameFault :=
  if k.derived.contains name then some (.derived name k.name)
  else
    match name, v with
    | "__class__", v => some (.notClass v.kindName)
    | "__dict__", .object _ => none
    | "__dict__", v => some (.notFields v.kindName)
    | "__weakref__", _ => some (.readOnly name "Base")
    | _, _ => none

/-- Why a new row cannot have a value under a name, if it cannot. -/
def nameFault? (k : RowKind) (name : String) (v : Json) : Option NameFault :=
  if k.hasColumn name || k.derived.contains name || ownNames.contains name then
    k.valueFault? name v
  else some (.unknown name k.name)

/-- The names of a record for a new row; the first one that the row cannot have makes it fail. -/
def checkNames (k : RowKind) (r : Record) : Except Fault Unit :=
  match r.findSome? fun v => k.nameFault? v.1 v.2 with
  | some why => .error (.badName why)
  | none => .ok ()

end RowKind

end BoardViews
