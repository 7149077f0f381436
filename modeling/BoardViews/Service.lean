import BoardViews.Command
import BoardViews.Settings
import BoardViews.Store.Write

/-
  The service: carries out requests on the store and announces every change to the team of the
  board. `Task.perform` is what the methods of `CategorizationService` do once their checks have
  passed, and `Access.announce` what they hand to the `ChangeNotifier`. The announcement follows
  the commit, so that a team is told of nothing that is not stored. Ids that are not given come
  from `new_id`: `Env.freshId` is the next one.
-/

namespace BoardViews

/-- What a request finds around it: the clock, an id that is not in use, whether the store can be
written, why publishing fails if it does, and the settings. -/
structure Env where
  now : Instant
  freshId : String
  connected : Bool := true
  publishFault : Option String := none
  settings : Settings := .standard

/-- What a request is answered. -/
inductive Reply where
  | category (c : Category)
  | listing (entries : List (Category × List Membership))
  | order (ids : List RawText)
  | memberships (ms : List Membership)
  | membership (m : Membership)
  | done
  deriving DecidableEq, Repr

namespace Access

/-- The event of a change, for the team of the board. -/
def event (a : Access) (env : Env) (c : Change) : Event := c.event a.board.teamId env.now

/-- The announcement of a change to the team of the board. -/
def announce (a : Access) (env : Env) (c : Change) : Note := .event (a.event env c)

/-- The announcement of a membership. -/
def announceMembership (a : Access) (env : Env) (m : Membership) : Note :=
  a.announce env (.membership m.categoryId m.viewId m.hidden)

/-- The category that a user creates (`create_category`); it comes first on its board. -/
def newCategory (a : Access) (env : Env) (millis : Int) (name type : String)
    (id : Option String) (collapsed : Bool) : Category :=
  { id := id.getD env.freshId, name := name, userId := a.user, boardId := a.board.id
    createAt := .int millis, updateAt := .int millis, deleteAt := .int 0
    collapsed := collapsed, sortOrder := .int 0, type := type }

end Access

/-- A category with a new name or a new collapsed state (`update_category`). -/
def Category.edited (c : Category) (millis : Int) (name : Option String)
    (collapsed : Option Bool) : Category :=
  { c with
    name := name.getD c.name, collapsed := collapsed.getD c.collapsed, updateAt := .int millis }

/-- Work that takes the time of the clock (`get_millis`). -/
def Env.timed {α : Type} (env : Env) (s : Store) (work : Int → Outcome α) : Outcome α :=
  match env.now.millis with
  | .ok millis => work millis
  | .error why => .broken s (.noClock why)

/-- Carries out a task. A view that is named more than once is put into its category once. -/
def Task.perform (env : Env) (s : Store) (a : Access) : Task → Outcome Reply
  | .create name type id collapsed =>
    env.timed s fun millis =>
      let c := a.newCategory env millis name type id collapsed
      ((s.createCategory env.connected c).noting fun c =>
        [.log .info ("User " ++ a.user ++ " created view category " ++ c.id ++ " on board " ++
          a.board.id), a.announce env (.category c)]).map .category
  | .get c => .done s (.category c)
  | .update c name collapsed =>
    env.timed s fun millis =>
      ((s.saveCategory env.connected (c.edited millis name collapsed)).noting fun c =>
        [a.announce env (.category c)]).map .category
  | .delete c =>
    env.timed s fun millis =>
      let gone := { c with deleteAt := .int millis }
      ((s.deleteCategory env.connected c.id a.user a.board.id millis).noting fun _ =>
        [.log .info ("User " ++ a.user ++ " deleted view category " ++ c.id),
         a.announce env (.category gone)]).map fun _ => .category gone
  | .list => .done s (.listing (s.listing a.board.id))
  | .reorder order =>
    ((s.reorderCategories env.connected a.board.id order).noting fun order =>
      [a.announce env (.categoryOrder a.board.id order)]).map .order
  | .categorize id views =>
    ((s.placeViews env.connected id views.eraseDups).noting fun ms =>
      ms.map (a.announceMembership env)).map .memberships
  | .uncategorize view =>
    ((s.placeView env.connected uncategorized view).noting fun m =>
      if env.settings.broadcastUncategorize then [a.announceMembership env m] else []).map
      .membership
  | .reorderViews id order =>
    ((s.reorderViews env.connected id order).noting fun order =>
      [a.announce env (.viewOrder id order)]).map .order
  | .setVisibility id view visible =>
    ((s.setVisibility env.connected id view visible).noting fun _ =>
      [a.announce env (.membership id view (!visible))]).map fun _ => .done

namespace Request

/-- Carries out a request where publishing works. -/
def attempt (env : Env) (s : Store) (r : Request) : Outcome Reply :=
  match s.admitted r with
  | .error why => .refused s why
  | .ok (a, t) => t.perform env s a

/-- Carries out a request. -/
def run (env : Env) (s : Store) (r : Request) : Outcome Reply :=
  (r.attempt env s).deliver env.publishFault

end Request

end BoardViews
