import BoardViews.Cell.Kind
import BoardViews.Time

/-
  Why an operation fails: it is refused by the rules of the service, or the store cannot carry it
  out. A refusal is a `ViewCategoryError`; it has a kind, which decides what a client is answered.
  A fault is what the store or the preparation of its statements raises.
-/

namespace BoardViews

/-- The kinds of refusal: `ViewCategoryError`, `ViewCategoryValidationError`, `NotFoundError` and
`PermissionDeniedError`. -/
inductive RefusalKind where
  | general
  | invalid
  | notFound
  | denied
  deriving DecidableEq, Repr

/-- The status that a client is answered with (`to_http_exception`). -/
def RefusalKind.status : RefusalKind → Nat
  | .general => 500
  | .invalid => 400
  | .notFound => 404
  | .denied => 403

/-- Why the service refuses an operation. -/
inductive Refusal where
  | nameRequired
  | userRequired
  | boardRequired
  | unknownType
  | noBoard (id : Option String)
  | boardDenied
  | noCategory (id : Option String)
  | categoryDenied
  deriving DecidableEq, Repr

/-- An id as messages show it. -/
def shownId (id : Option String) : String := id.getD "None"

/-- The kind of a refusal. -/
def Refusal.kind : Refusal → RefusalKind
  | .nameRequired | .userRequired | .boardRequired | .unknownType => .invalid
  | .noBoard _ | .noCategory _ => .notFound
  | .boardDenied | .categoryDenied => .denied

/-- What people are told. -/
def Refusal.message : Refusal → String
  | .nameRequired => "view category name is required"
  | .userRequired => "view category user id is required"
  | .boardRequired => "view category board id is required"
  | .unknownType => "invalid view category type"
  | .noBoard id => "board ID=" ++ shownId id
  | .boardDenied => "access denied to board"
  | .noCategory id => "view category ID=" ++ shownId id
  | .categoryDenied => "access denied to view category"

/-- Why a value cannot be put under a name of a row: rows of the kind have no such name, the name is
that of a value that follows from others, or one by which rows are looked after. -/
inductive NameFault where
  | unknown (name model : String)
  | derived (name model : String)
  | notClass (kind : String)
  | notFields (kind : String)
  | readOnly (name model : String)
  deriving DecidableEq, Repr

namespace NameFault

/-- The name of a fault's kind. -/
def label : NameFault → String
  | .unknown _ _ | .notClass _ | .notFields _ => "TypeError"
  | .derived _ _ | .readOnly _ _ => "AttributeError"

/-- What people are told. -/
def message : NameFault → String
  | .unknown name model => Text.quoted name ++ " is an invalid keyword argument for " ++ model
  | .derived name model =>
    "property " ++ Text.quoted name ++ " of " ++ Text.quoted model ++ " object has no setter"
  | .notClass kind => "__class__ must be set to a class, not '" ++ kind ++ "' object"
  | .notFields kind => "__dict__ must be set to a dictionary, not a '" ++ kind ++ "'"
  | .readOnly name model =>
    "attribute " ++ Text.quoted name ++ " of " ++ Text.quoted model ++ " objects is not writable"

end NameFault

/-- Why the store cannot carry out a write. -/
inductive Fault where
  | duplicateKey (columns : List String)
  | missingValue (column : String)
  | connectionLost
  | noPlace
  | notTaken (why : NotTaken)
  | notSwitch (why : String)
  | noClock (why : ClockFault)
  | noDefault (why : ClockFault)
  | badName (why : NameFault)
  | noKey (kind : String)
  | noColumns (kind : String)
  deriving DecidableEq, Repr

namespace Fault

/-- The name of a fault's kind. -/
def label : Fault → String
  | .duplicateKey _ | .missingValue _ => "IntegrityError"
  | .connectionLost | .noPlace => "OperationalError"
  | .notTaken why => why.label
  | .noClock _ => "OverflowError"
  | .notSwitch _ | .noDefault _ => "StatementError"
  | .badName why => why.label
  | .noKey _ => "TypeError"
  | .noColumns _ => "AttributeError"

/-- What people are told. -/
def message : Fault → String
  | .duplicateKey columns => "UNIQUE constraint failed: " ++ String.intercalate ", " columns
  | .missingValue column => "NOT NULL constraint failed: " ++ column
  | .connectionLost => "connection lost"
  | .noPlace => "database or disk is full"
  | .notTaken why => why.message
  | .notSwitch why => why
  | .noClock why | .noDefault why => why.message
  | .badName why => why.message
  | .noKey kind => "unhashable type: '" ++ kind ++ "'"
  | .noColumns kind => "'" ++ kind ++ "' object has no attribute 'columns'"

/-- Whether a fault is one of a statement that the store was given; these are logged. -/
def isOfStatement : Fault → Bool
  | .duplicateKey _ | .missingValue _ | .connectionLost | .noPlace | .notTaken (.alien _ _)
  | .notSwitch _ | .noDefault _ => true
  | .notTaken .tooLarge | .noClock _ | .badName _ | .noKey _ | .noColumns _ => false

end Fault

/-- Why an operation fails. -/
inductive Failure where
  | refusal (why : Refusal)
  | fault (why : Fault)
  deriving DecidableEq, Repr

end BoardViews
