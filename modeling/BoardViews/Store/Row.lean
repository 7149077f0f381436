import BoardViews.Cell.Basic

/-
  The rows of the store: `User`, `Board`, `BoardMember`, `ViewCategory` and `ViewCategoryView`.
  Users, boards and members belong to other services and are only looked up; categories group the
  views of a board, and a membership puts a view into a category. Times are milliseconds; a
  deletion time other than zero marks a row as deleted. The columns of times and sort orders are
  meant for integers, which is all that the service puts there, but they hold whatever cell a row
  was given.
-/

namespace BoardViews

/-- Someone who can own categories. -/
structure User where
  id : String
  username : String
  createAt : Cell
  updateAt : Cell
  deriving DecidableEq, Repr

/-- A board whose views are put into categories. -/
structure Board where
  id : String
  teamId : String
  title : String
  createdBy : String
  createAt : Cell
  updateAt : Cell
  deleteAt : Cell
  deriving DecidableEq, Repr

/-- Lets a user view a board. -/
structure Member where
  boardId : String
  userId : String
  createAt : Cell
  updateAt : Cell
  deriving DecidableEq, Repr

/-- A group of views on a board, which everyone on the board sees. -/
structure Category where
  id : String
  name : String
  userId : String
  boardId : String
  createAt : Cell
  updateAt : Cell
  deleteAt : Cell
  collapsed : Bool
  sortOrder : Cell
  type : String
  deriving DecidableEq, Repr

/-- The category that a view is in. The id `uncategorized` stands for none. -/
structure Membership where
  viewId : String
  categoryId : String
  hidden : Bool
  sortOrder : Cell
  deriving DecidableEq, Repr

/-- The category id of a view that was taken out of every category (`UNCATEGORIZED_CATEGORY_ID`); no
category has it. -/
def uncategorized : String := ""

/-- The types of category (`VIEW_CATEGORY_TYPES`): those that a board starts with, and those that
users make. -/
def categoryTypes : List String := ["system", "custom"]

/-- The key of a member. -/
def Member.key (m : Member) : String × String := (m.boardId, m.userId)

/-- A board that was not deleted. -/
def Board.isLive (b : Board) : Bool := b.deleteAt = .int 0

/-- A category that was not deleted. -/
def Category.isLive (c : Category) : Bool := c.deleteAt = .int 0

/-- Whether a category counts as deleted for someone who has it (`is_deleted`). One whose deletion
time is an empty text is neither live nor deleted. -/
def Category.isDeleted (c : Category) : Bool := c.deleteAt.isYes

/-- Rows come in the order of their sort orders, and of their ids where those are equal. -/
def sortsBefore (a b : Cell × String) : Bool :=
  a.1.le b.1 && (!b.1.le a.1 || decide (a.2 ≤ b.2))

/-- Categories come in the order of their sort orders, and of their ids where those are equal. -/
def Category.precedes (a b : Category) : Bool := sortsBefore (a.sortOrder, a.id) (b.sortOrder, b.id)

/-- Views come in the order of their sort orders, and of their ids where those are equal. -/
def Membership.precedes (a b : Membership) : Bool :=
  sortsBefore (a.sortOrder, a.viewId) (b.sortOrder, b.viewId)

theorem sortsBefore_total (a b : Cell × String) : (sortsBefore a b || sortsBefore b a) = true := by
  have h := Cell.le_total a.1 b.1
  have k := String.le_total a.2 b.2
  unfold sortsBefore
  cases hab : a.1.le b.1 <;> cases hba : b.1.le a.1 <;> simp_all

theorem sortsBefore_trans {a b c : Cell × String} (h : sortsBefore a b = true)
    (k : sortsBefore b c = true) : sortsBefore a c = true := by
  simp only [sortsBefore, Bool.and_eq_true, Bool.or_eq_true, Bool.not_eq_true',
    decide_eq_true_eq] at h k ⊢
  refine ⟨Cell.le_trans h.1 k.1, ?_⟩
  by_cases hca : c.1.le a.1 = true
  · have hba := Cell.le_trans k.1 hca
    have hcb := Cell.le_trans hca h.1
    rw [hba] at h
    rw [hcb] at k
    simp only [Bool.true_eq_false, false_or] at h k
    exact .inr (String.le_trans h.2 k.2)
  · exact .inl (by simpa using hca)

/-- The record of a user. -/
def User.fields (u : User) : List (String × Json) :=
  [("id", .text u.id), ("username", .text u.username), ("create_at", u.createAt.toJson),
   ("update_at", u.updateAt.toJson)]

/-- The record of a board. -/
def Board.fields (b : Board) : List (String × Json) :=
  [("id", .text b.id), ("team_id", .text b.teamId), ("title", .text b.title),
   ("created_by", .text b.createdBy), ("create_at", b.createAt.toJson),
   ("update_at", b.updateAt.toJson), ("delete_at", b.deleteAt.toJson)]

/-- The record of a member. -/
def Member.fields (m : Member) : List (String × Json) :=
  [("board_id", .text m.boardId), ("user_id", .text m.userId), ("create_at", m.createAt.toJson),
   ("update_at", m.updateAt.toJson)]

/-- The record of a category (`serialize_view_category`). -/
def Category.fields (c : Category) : List (String × Json) :=
  [("id", .text c.id), ("name", .text c.name), ("user_id", .text c.userId),
   ("board_id", .text c.boardId), ("create_at", c.createAt.toJson),
   ("update_at", c.updateAt.toJson), ("delete_at", c.deleteAt.toJson),
   ("collapsed", .bool c.collapsed), ("sort_order", c.sortOrder.toJson), ("type", .text c.type)]

/-- The record of a membership. -/
def Membership.fields (m : Membership) : List (String × Json) :=
  [("view_id", .text m.viewId), ("category_id", .text m.categoryId), ("hidden", .bool m.hidden),
   ("sort_order", m.sortOrder.toJson)]

end BoardViews
