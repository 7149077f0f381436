import BoardViews.Command
import BoardViews.Text.Percent

/-
  Routes: what a method and a path ask for. The deeds are the endpoints of a board's view
  categories, from `create_view_category` to `uncategorize_view`, and `Call.health` is
  `health_check`. A path is known if a route fits its segments. Routes stand in a fixed order,
  that of the endpoints, and the first one that fits path and method is taken; so a category
  called `reorder` cannot be changed at its own path, for that path is the one of the order of the
  categories.
-/

namespace BoardViews.Http

/-- What is asked for on a board. -/
inductive Deed where
  | create
  | list
  | reorder
  | get (category : String)
  | update (category : String)
  | delete (category : String)
  | reorderViews (category : String)
  | categorize (category view : String)
  | setVisibility (category view : String) (visible : Bool)
  | uncategorize (view : String)
  deriving DecidableEq, Repr

/-- What a request asks for. -/
inductive Call where
  | health
  | onBoard (board : String) (deed : Deed)
  deriving DecidableEq, Repr

/-- Whether the last segment of a path is a word; a line feed after it is overlooked. -/
def endsAs (word segment : String) : Bool := segment == word || segment == word ++ "\n"

/-- The routes below a board, as methods and deeds, in order. -/
def deeds : List String → List (String × Deed)
  | [w] => if endsAs "view-categories" w then [("POST", .create), ("GET", .list)] else []
  | ["view-categories", c] =>
    (if endsAs "reorder" c then [("PUT", .reorder)] else []) ++
      [("GET", .get c), ("PUT", .update c), ("DELETE", .delete c)]
  | ["view-categories", c, "views", v] =>
    (if endsAs "reorder" v then [("PUT", .reorderViews c)] else []) ++
      [("POST", .categorize c v)]
  | ["view-categories", c, "views", v, w] =>
    if endsAs "hide" w then [("PUT", .setVisibility c v false)]
    else if endsAs "unhide" w then [("PUT", .setVisibility c v true)]
    else []
  | ["views", v, w] => if endsAs "uncategorize" w then [("POST", .uncategorize v)] else []
  | _ => []

/-- The routes that fit the segments of a path, as methods and calls, in order. -/
def calls : List String → List (String × Call)
  | [w] => if endsAs "health" w then [("GET", .health)] else []
  | "api" :: "v1" :: "boards" :: board :: rest =>
    (deeds rest).map fun d => (d.1, .onBoard board d.2)
  | _ => []

/-- The segments of a path, each of which follows a slash and is not empty. -/
def segments? (path : String) : Option (List String) :=
  match path.toList.splitOn '/' with
  | [] :: rest => if rest.any (·.isEmpty) then none else some (rest.map String.ofList)
  | _ => none

/-- The routes that fit a path. -/
def routes (path : String) : List (String × Call) :=
  match segments? path with
  | some parts => calls parts
  | none => []

/-- A path with a slash at its end, or without those that it has. -/
def toggleSlash (path : String) : String :=
  if path.toList.getLast? = some '/' then
    String.ofList (path.toList.reverse.dropWhile (· == '/')).reverse
  else path ++ "/"

/-- Where a request goes. -/
inductive Destination where
  | call (c : Call)
  | otherMethod (allowed : String)
  | moved (path : String)
  | unknown
  deriving DecidableEq, Repr

/-- Where a request with a method and a path goes. A path that is not known, but would be with or
without a slash at its end, has moved there. -/
def destination (method path : String) : Destination :=
  match (routes path).find? fun r => r.1 = method with
  | some r => .call r.2
  | none =>
    match routes path with
    | r :: _ => .otherMethod r.1
    | [] =>
      if path ≠ "/" ∧ routes (toggleSlash path) ≠ [] then .moved (toggleSlash path) else .unknown

/-- The address of a path on this server. -/
def address (path : String) : String := "http://testserver" ++ Text.percentEncode path

end BoardViews.Http
