import BoardViews.Failure
import BoardViews.Store.Basic
import BoardViews.Text.Blank

/-
  Commands on the categories of a board, and what makes them admissible. The constructors of
  `Command` are the methods of `CategorizationService`, in the order in which they stand there;
  `create` is `create_category` and `list` is `list_categories_with_membership`. A request is
  checked in three steps: what it says by itself, then the board, then the category that it names.
  What is left is a task, which holds all that is needed to carry it out.
-/

namespace BoardViews

/-- What a user wants to be done with the categories of a board. -/
inductive Command where
  | create (name type id : Option String) (collapsed : Option Bool)
  | get (category : Option String)
  | update (category name : Option String) (collapsed : Option Bool)
  | delete (category : Option String)
  | list
  | reorder (order : List RawText)
  | categorize (category : Option String) (views : List String)
  | uncategorize (view : String)
  | reorderViews (category : Option String) (order : List RawText)
  | setVisibility (category : Option String) (view : String) (visible : Bool)
  deriving DecidableEq, Repr

/-- A command of a user on a board. -/
structure Request where
  user : Option String
  board : Option String
  command : Command
  deriving DecidableEq, Repr

/-- A user and a live board that the user may view. -/
structure Access where
  user : String
  board : Board
  deriving DecidableEq, Repr

/-- An admitted command. Categories are the stored ones. -/
inductive Task where
  | create (name type : String) (id : Option String) (collapsed : Bool)
  | get (category : Category)
  | update (category : Category) (name : Option String) (collapsed : Option Bool)
  | delete (category : Category)
  | list
  | reorder (order : List RawText)
  | categorize (category : String) (views : List String)
  | uncategorize (view : String)
  | reorderViews (category : String) (order : List RawText)
  | setVisibility (category view : String) (visible : Bool)
  deriving DecidableEq, Repr

/-- A text without the blanks around it, if anything is left. -/
def stripped? (s : Option String) : Option String :=
  (s.map Text.strip).filter (· ≠ "")

/-- Whether an id is there and not empty. -/
def isGiven (id : Option String) : Bool := id.any (· ≠ "")

namespace Request

/-- What is wrong with a request by itself: what `create_category` and `update_category` check
before they look at the board. -/
def objection? (r : Request) : Option Refusal :=
  match r.command with
  | .create name type _ _ =>
    if (stripped? name).isNone then some .nameRequired
    else if !isGiven r.user then some .userRequired
    else if !isGiven r.board then some .boardRequired
    else if type.any categoryTypes.contains then none
    else some .unknownType
  | .update _ (some name) _ =>
    if (stripped? (some name)).isNone then some .nameRequired else none
  | _ => none

end Request

namespace Store

/-- The access of a user to a board (`_require_board`). -/
def access (s : Store) (user board : Option String) : Except Refusal Access :=
  match s.board? board with
  | none => .error (.noBoard board)
  | some b =>
    match user with
    | none => .error .boardDenied
    | some u => if s.canView user board then .ok ⟨u, b⟩ else .error .boardDenied

/-- The category of an id on a board that was not deleted (`_require_category`). -/
def liveCategory (s : Store) (board : String) (id : Option String) : Except Refusal Category :=
  match s.category? id with
  | none => .error (.noCategory id)
  | some c => if !c.isDeleted && c.boardId == board then .ok c else .error (.noCategory id)

/-- The live category of an id on a board, for its owner (`_require_owned_category`). -/
def ownedCategory (s : Store) (a : Access) (id : Option String) : Except Refusal Category :=
  match s.liveCategory a.board.id id with
  | .error why => .error why
  | .ok c => if c.userId = a.user then .ok c else .error .categoryDenied

/-- The id of the category that `categorize` is to put views into: that of a category of the user,
or the one that stands for none. -/
def target (s : Store) (a : Access) (id : Option String) : Except Refusal String :=
  if id = some uncategorized then .ok uncategorized
  else (s.ownedCategory a id).map (·.id)

/-- The task of a command, for someone with access to the board. -/
def task (s : Store) (a : Access) : Command → Except Refusal Task
  | .create name type id collapsed =>
    .ok (.create ((stripped? name).getD "") (type.getD "") (stripped? id)
      (collapsed.getD false))
  | .get id => (s.liveCategory a.board.id id).map .get
  | .update id name collapsed =>
    (s.ownedCategory a id).map fun c => .update c (stripped? name) collapsed
  | .delete id => (s.ownedCategory a id).map .delete
  | .list => .ok .list
  | .reorder order => .ok (.reorder order)
  | .categorize id views => (s.target a id).map fun id => .categorize id views
  | .uncategorize view => .ok (.uncategorize view)
  | .reorderViews id order => (s.ownedCategory a id).map fun c => .reorderViews c.id order
  | .setVisibility id view visible =>
    (s.ownedCategory a id).map fun c => .setVisibility c.id view visible

/-- Admits a request, or refuses it for the first reason that there is. -/
def admitted (s : Store) (r : Request) : Except Refusal (Access × Task) :=
  match r.objection? with
  | some why => .error why
  | none =>
    match s.access r.user r.board with
    | .error why => .error why
    | .ok a => (s.task a r.command).map fun t => (a, t)

end Store

end BoardViews
