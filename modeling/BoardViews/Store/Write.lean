import BoardViews.Order
import BoardViews.Outcome

/-
  The writes to the store. `createCategory`, `saveCategory`, `deleteCategory` and
  `reorderCategories` are `create`, `update`, `soft_delete` and `reorder` of
  `ViewCategoryRepository`; `placeViews`, `reorderViews` and `setVisibility` are `upsert`,
  `reorder_within_category` and `set_visibility` of `ViewCategoryViewRepository`. Each is the work
  of a session: statements, whose effects on the rows are pure functions, and a commit, which
  stores all of it. A proposed order that does not fit is not written at all; it is logged unless
  there was nothing to order.
-/

namespace BoardViews

/-! ## What becomes of a row -/

namespace Category

/-- A category after a new one was added: on the same board it moves down by one gap if it is
live. -/
def lowered (new r : Category) : Category :=
  if r.boardId = new.boardId ∧ r.isLive ∧ r.id ≠ new.id then
    { r with sortOrder := r.sortOrder.plus gap }
  else r

/-- A category, or the changed one that has its id. -/
def replaced (changed r : Category) : Category := if r.id = changed.id then changed else r

/-- Whether a category is the one of an id, an owner and a board. -/
def isOwned (id user board : String) (c : Category) : Bool :=
  c.id == id && c.userId == user && c.boardId == board

/-- A category, marked as deleted if it is the one of an id, an owner and a board. -/
def tombstoned (id user board : String) (millis : Int) (r : Category) : Category :=
  if isOwned id user board r then { r with deleteAt := .int millis } else r

/-- A category with the sort order of a plan for its board, if it is live and has one there. -/
def arranged (board : String) (p : Plan RawText) (r : Category) : Category :=
  if r.boardId = board ∧ r.isLive then
    { r with sortOrder := ((p.sortOrder? (.whole r.id)).map Cell.int).getD r.sortOrder }
  else r

theorem lowered_id (new r : Category) : (new.lowered r).id = r.id := by
  unfold lowered; split <;> rfl

theorem replaced_id (changed r : Category) : (changed.replaced r).id = r.id := by
  unfold replaced; split <;> simp_all

theorem tombstoned_id (id user board : String) (millis : Int) (r : Category) :
    (tombstoned id user board millis r).id = r.id := by
  unfold tombstoned; split <;> rfl

theorem arranged_id (board : String) (p : Plan RawText) (r : Category) :
    (arranged board p r).id = r.id := by
  unfold arranged; split <;> rfl

theorem lowered_boardId (new r : Category) : (new.lowered r).boardId = r.boardId := by
  unfold lowered; split <;> rfl

theorem tombstoned_boardId (id user board : String) (millis : Int) (r : Category) :
    (tombstoned id user board millis r).boardId = r.boardId := by
  unfold tombstoned; split <;> rfl

theorem arranged_boardId (board : String) (p : Plan RawText) (r : Category) :
    (arranged board p r).boardId = r.boardId := by
  unfold arranged; split <;> rfl

theorem lowered_isLive (new r : Category) : (new.lowered r).isLive = r.isLive := by
  unfold lowered; split <;> rfl

theorem arranged_isLive (board : String) (p : Plan RawText) (r : Category) :
    (arranged board p r).isLive = r.isLive := by
  unfold arranged; split <;> rfl

end Category

namespace Membership

/-- A membership, put into a category if it is the one of a view. -/
def relocated (category view : String) (m : Membership) : Membership :=
  if m.viewId = view then { m with categoryId := category } else m

/-- A membership with the sort order of a plan for its category, if it has one there. -/
def arranged (category : String) (p : Plan RawText) (m : Membership) : Membership :=
  if m.categoryId = category then
    { m with sortOrder := ((p.sortOrder? (.whole m.viewId)).map Cell.int).getD m.sortOrder }
  else m

/-- Whether a membership is the one of a view in a category. -/
def isIn (category view : String) (m : Membership) : Bool :=
  m.viewId == view && m.categoryId == category

/-- A membership, hidden or shown if it is the one of a view in a category. -/
def masked (category view : String) (hidden : Bool) (m : Membership) : Membership :=
  if isIn category view m then { m with hidden := hidden } else m

theorem relocated_viewId (category view : String) (m : Membership) :
    (relocated category view m).viewId = m.viewId := by
  unfold relocated; split <;> rfl

theorem arranged_viewId (category : String) (p : Plan RawText) (m : Membership) :
    (arranged category p m).viewId = m.viewId := by
  unfold arranged; split <;> rfl

theorem arranged_categoryId (category : String) (p : Plan RawText) (m : Membership) :
    (arranged category p m).categoryId = m.categoryId := by
  unfold arranged; split <;> rfl

theorem masked_viewId (category view : String) (hidden : Bool) (m : Membership) :
    (masked category view hidden m).viewId = m.viewId := by
  unfold masked; split <;> rfl

theorem masked_categoryId (category view : String) (hidden : Bool) (m : Membership) :
    (masked category view hidden m).categoryId = m.categoryId := by
  unfold masked; split <;> rfl

end Membership

/-- A table with one more row, unless a row has the key in its columns already or there is no place
for another row. -/
def Table.added {α κ : Type} [DecidableEq κ] {key : α → κ} (t : Table key) (columns : List String)
    (r : α) : Except Fault (Table key) :=
  match t.insert? r with
  | none => .error (.duplicateKey columns)
  | some u => if u.rows.length ≤ capacity then .ok u else .error .noPlace

namespace Store

/-! ## Categories -/

/-- Cells that are handed over to the store; an integer beyond 64 bits is not taken. -/
def handOver (cs : List Cell) : Except Fault Unit :=
  if cs.all Cell.fits then .ok () else .error (.notTaken .tooLarge)

/-- Inserts a category. -/
def insertCategory (c : Category) : Work Unit := do
  let s ← get
  let t ← s.categories.added ["view_categories.id"] c
  set { s with categories := t }

/-- Moves every live category but one down by one gap, on the board of that one. -/
def lowerSiblings (s : Store) (new : Category) : Store :=
  { s with categories := s.categories.mapRows new.lowered new.lowered_id }

/-- Adds a category; every other live category of its board moves down by one gap. -/
def addCategory (c : Category) : Work Unit := do
  insertCategory c
  modify (·.lowerSiblings c)

/-- Stores a category in the place of the one with its id. -/
def putCategory (s : Store) (c : Category) : Store :=
  { s with categories := s.categories.mapRows c.replaced c.replaced_id }

/-- Marks a category of an owner on a board as deleted. -/
def markDeleted (s : Store) (id user board : String) (millis : Int) : Store :=
  { s with
    categories := s.categories.mapRows (Category.tombstoned id user board millis)
      (Category.tombstoned_id id user board millis) }

/-- Gives the live categories of a board the sort orders of a plan. -/
def applyCategoryPlan (s : Store) (board : String) (p : Plan RawText) : Store :=
  { s with
    categories := s.categories.mapRows (Category.arranged board p) (Category.arranged_id board p) }

/-- Adds a category and commits (`create`). -/
def createCategory (s : Store) (connected : Bool) (c : Category) : Outcome Category :=
  s.transact connected ("creating view category '" ++ c.name ++ "'") do
    handOver [c.createAt, c.updateAt, c.deleteAt, c.sortOrder]
    addCategory c
    return c

/-- Stores a category with a changed name, collapsed state and update time and commits (`update`).
-/
def saveCategory (s : Store) (connected : Bool) (c : Category) : Outcome Category :=
  s.transact connected ("updating view category " ++ c.id) do
    handOver [c.updateAt]
    modify (·.putCategory c)
    return c

/-- Marks a category as deleted and commits (`soft_delete`); the answer is how many rows that were.
-/
def deleteCategory (s : Store) (connected : Bool) (id user board : String) (millis : Int) :
    Outcome Nat :=
  s.transact connected ("deleting view category " ++ id) do
    handOver [.int millis]
    modify (·.markDeleted id user board millis)
    return s.categories.rows.countP (Category.isOwned id user board)

/-- What is logged about an order that does not fit. -/
def staleNotes (what : String) (got stored : Nat) : List Note :=
  if stored = 0 then []
  else
    [.log .warning ("Ignoring stale " ++ what ++ ": got " ++ Text.integer got ++ " ids, have " ++
      Text.integer stored)]

/-- The ids of the live categories of a board in display order. -/
def categoryOrder (s : Store) (board : String) : List RawText :=
  (s.liveCategories board).map fun c => .whole c.id

/-- Reorders the categories of a board as proposed (`reorder`); the answer is the order that is then
to be shown. -/
def reorderCategories (s : Store) (connected : Bool) (board : String) (proposed : List RawText) :
    Outcome (List RawText) :=
  let current := s.categoryOrder board
  let p := reconcile current proposed
  if p.accepted then
    s.transact connected ("reordering view categories for board " ++ board) do
      modify (·.applyCategoryPlan board p)
      return p.order
  else
    ⟨.ok p.order, s, staleNotes ("category order for board " ++ board) proposed.length
      current.length⟩

/-! ## Memberships -/

/-- Memberships with one view put into a category: a view without a membership gets a visible one at
the front, one that has it keeps all but the category. -/
def place (category view : String) (t : Table Membership.viewId) :
    Except Fault (Table Membership.viewId) :=
  match t.find? view with
  | none => t.added ["view_category_views.view_id"] ⟨view, category, false, .int 0⟩
  | some _ =>
    .ok (t.mapRows (Membership.relocated category view)
      (Membership.relocated_viewId category view))

/-- Puts one view into a category. -/
def moveView (category view : String) : Work Unit := do
  let s ← get
  let t ← place category view s.memberships
  set { s with memberships := t }

/-- Puts views into a category, one after the other. -/
def moveViews (category : String) (views : List String) : Work Unit :=
  views.forM (moveView category)

/-- Gives the views of a category the sort orders of a plan. -/
def applyViewPlan (s : Store) (category : String) (p : Plan RawText) : Store :=
  { s with
    memberships := s.memberships.mapRows (Membership.arranged category p)
      (Membership.arranged_viewId category p) }

/-- Hides a view in a category, or shows it. -/
def markHidden (s : Store) (category view : String) (hidden : Bool) : Store :=
  { s with
    memberships := s.memberships.mapRows (Membership.masked category view hidden)
      (Membership.masked_viewId category view hidden) }

/-- Puts views into a category and commits (`upsert`); the answer is the membership of each, as
often as it was named. -/
def placeViews (s : Store) (connected : Bool) (category : String) (views : List String) :
    Outcome (List Membership) :=
  s.transact connected ("upserting views into category '" ++ category ++ "'") do
    moveViews category views
    let s' ← get
    return views.filterMap s'.memberships.find?

/-- Puts one view into a category and commits, as `uncategorize` has `upsert` do; the answer is its
membership. -/
def placeView (s : Store) (connected : Bool) (category view : String) : Outcome Membership :=
  s.transact connected ("upserting views into category '" ++ category ++ "'") do
    moveViews category [view]
    let s' ← get
    return (s'.memberships.find? view).getD ⟨view, category, false, .int 0⟩

/-- The ids of the views of a category in display order. -/
def viewOrder (s : Store) (category : String) : List RawText :=
  (s.viewsIn category).map fun m => .whole m.viewId

/-- Reorders the views of a category as proposed (`reorder_within_category`); the answer is the
order that is then to be shown. -/
def reorderViews (s : Store) (connected : Bool) (category : String) (proposed : List RawText) :
    Outcome (List RawText) :=
  let current := s.viewOrder category
  let p := reconcile current proposed
  if p.accepted then
    s.transact connected ("reordering views in category " ++ category) do
      modify (·.applyViewPlan category p)
      return p.order
  else
    ⟨.ok p.order, s, staleNotes ("view order for category " ++ category) proposed.length
      current.length⟩

/-- Shows a view in a category, or hides it, and commits (`set_visibility`); the answer is how many
rows that were. -/
def setVisibility (s : Store) (connected : Bool) (category view : String) (visible : Bool) :
    Outcome Nat :=
  s.transact connected ("setting visibility of view " ++ view) do
    modify (·.markHidden category view (!visible))
    return s.memberships.rows.countP (Membership.isIn category view)

end Store

end BoardViews
