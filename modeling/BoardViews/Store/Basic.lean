import BoardViews.Store.Row
import BoardViews.Store.Table

/-
  The store and what is read from it: `board?` is `get_board`, `canView` is
  `has_board_view_access`, `category?` is `get` of `ViewCategoryRepository` but for its refusal,
  and `liveCategories`, `viewsIn` and `listing` are `list_live`, `list_for_category` and
  `list_with_membership`, all in display order. An id that is absent finds nothing.
-/

namespace BoardViews

/-- All that is stored. -/
structure Store where
  users : Table User.id := .empty
  boards : Table Board.id := .empty
  members : Table Member.key := .empty
  categories : Table Category.id := .empty
  memberships : Table Membership.viewId := .empty

namespace Store

/-- The live board of an id (`get_board`). -/
def board? (s : Store) (id : Option String) : Option Board :=
  (id.bind s.boards.find?).filter Board.isLive

/-- Whether a user may view a board: its creator and its members may (`has_board_view_access`). -/
def canView (s : Store) (user board : Option String) : Bool :=
  match user, board with
  | some u, some b =>
    (s.boards.find? b).any (·.createdBy == u) || (s.members.find? (b, u)).isSome
  | _, _ => false

/-- The category of an id, deleted or not. -/
def category? (s : Store) (id : Option String) : Option Category :=
  id.bind s.categories.find?

/-- The live categories of a board in display order (`list_live`). -/
def liveCategories (s : Store) (board : String) : List Category :=
  (s.categories.rows.filter fun c => c.boardId == board && c.isLive).mergeSort Category.precedes

/-- The views of a category in display order (`list_for_category`). -/
def viewsIn (s : Store) (category : String) : List Membership :=
  (s.memberships.rows.filter fun m => m.categoryId == category).mergeSort Membership.precedes

/-- The live categories of a board with their views, both in display order (`list_with_membership`).
The views of all of them are looked up and sorted together and then handed out to their categories.
-/
def listing (s : Store) (board : String) : List (Category × List Membership) :=
  let categories := s.liveCategories board
  let ids := categories.map (·.id)
  let views :=
    (s.memberships.rows.filter fun m => ids.contains m.categoryId).mergeSort Membership.precedes
  categories.map fun c => (c, views.filter fun m => m.categoryId == c.id)

end Store

end BoardViews
