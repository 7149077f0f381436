import BoardViews.Service
import BoardViews.Store.Edit

/-
  Upkeep: what can be read and written past the checks of the service, through the functions of
  `ViewCategoryRepository` (`get`, `create`, `update`, `soft_delete`, `list_live`, `reorder`) and
  of `ViewCategoryViewRepository` (`get`, `list_for_category`, `list_with_membership`, `upsert`,
  `reorder_within_category`, `set_visibility`), `get_board` and `has_board_view_access`, in this
  order, and by the insertion of a row of any model. An id that is absent finds nothing, and a
  write that is aimed at nothing is still committed.
-/

namespace BoardViews

/-- What is to be read or written. -/
inductive Upkeep where
  | category (id : Option String)
  | create (row : Record)
  | edit (id : Option String) (values : Record)
  | delete (id user board : Option String)
  | live (board : Option String)
  | reorder (board : Option String) (order : List RawText)
  | membership (view : Option String)
  | views (category : Option String)
  | listing (board : Option String)
  | place (category : Option String) (views : List String)
  | reorderViews (category : Option String) (order : List RawText)
  | setVisibility (category view : Option String) (visible : Bool)
  | board (id : Option String)
  | access (user board : Option String)
  | insert (kind : RowKind) (row : Record)

/-- What comes of it. -/
inductive Finding where
  | category (c : Category)
  | categories (cs : List Category)
  | listing (entries : List (Category × List Membership))
  | order (ids : List RawText)
  | membership (m : Option Membership)
  | memberships (ms : List Membership)
  | board (b : Option Board)
  | answer (yes : Bool)
  | count (n : Nat)
  | row (r : Record)

namespace Store

/-- A write that no row is the aim of. -/
def touchNothing (s : Store) (connected : Bool) (doing : String) (cells : List Cell) :
    Outcome Nat :=
  s.transact connected doing do
    handOver cells
    return 0

/-- Puts views into no category at all, which no membership can be in: `upsert` with no category id.
A view that has no membership yet is written at once, the others by the commit. -/
def misplaceViews (s : Store) (connected : Bool) (views : List String) :
    Outcome (List Membership) :=
  s.transact connected ("upserting views into category '" ++ shownId none ++ "'") do
    if views = [] then return []
    else
      if views.all fun v => (s.memberships.find? v).isSome then reach connected
      throw (.missingValue "view_category_views.category_id")

end Store

namespace Upkeep

/-- Carries out upkeep. -/
def run (env : Env) (s : Store) : Upkeep → Outcome Finding
  | .category id =>
    match s.category? id with
    | some c => .done s (.category c)
    | none => .refused s (.noCategory id)
  | .create row => (s.createRecord env.connected env.freshId env.now.millis row).map .category
  | .edit id values => (s.editRecord env.connected id values).map .category
  | .delete id user b =>
    env.timed s fun millis =>
      (match id, user, b with
        | some i, some u, some b => s.deleteCategory env.connected i u b millis
        | _, _, _ =>
          s.touchNothing env.connected ("deleting view category " ++ shownId id)
            [.int millis]).map .count
  | .live b => .done s (.categories ((b.map s.liveCategories).getD []))
  | .reorder none _ => .done s (.order [])
  | .reorder (some b) ids => (s.reorderCategories env.connected b ids).map .order
  | .membership v => .done s (.membership (v.bind s.memberships.find?))
  | .views c => .done s (.memberships ((c.map s.viewsIn).getD []))
  | .listing b => .done s (.listing ((b.map s.listing).getD []))
  | .place none vs => (s.misplaceViews env.connected vs).map .memberships
  | .place (some c) vs => (s.placeViews env.connected c vs).map .memberships
  | .reorderViews none _ => .done s (.order [])
  | .reorderViews (some c) ids => (s.reorderViews env.connected c ids).map .order
  | .setVisibility c v visible =>
    (match c, v with
      | some c, some v => s.setVisibility env.connected c v visible
      | _, _ =>
        s.touchNothing env.connected ("setting visibility of view " ++ shownId v) []).map .count
  | .board id => .done s (.board (s.board? id))
  | .access user b => .done s (.answer (s.canView user b))
  | .insert kind row => (s.insertRecord env.connected env.freshId env.now.millis kind row).map .row

end Upkeep

end BoardViews
