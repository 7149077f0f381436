import BoardViews.Schema.Database
import BoardViews.Schema.Model

/-
  The steps that a database is taken through: `upgrade` and `downgrade` of the migration that
  makes the tables, the service's own making of tables that are missing (`init_db`), and inserts.
  `Migration` holds the tables of the migration as it writes them, each with the indexes that it
  makes behind it, and the statements of the way down as they are written there; `undone_upgrade`
  says that these are the statements of the way up, undone from the last one on.
-/

namespace BoardViews.Schema

/-! ## The migration -/

/-- The name of the migration. -/
def revision : String := "4f2c9a7d1b3e"

namespace Migration

/-- Users. -/
def users : Shape :=
  { name := "users"
    columns :=
      [⟨"id", .text 36, false, none⟩,
       ⟨"username", .text 255, false, none⟩,
       ⟨"create_at", .big, false, none⟩,
       ⟨"update_at", .big, false, none⟩]
    key := ["id"]
    references := []
    indexes := [⟨"ix_users_username", ["username"], true⟩] }

/-- Boards. -/
def boards : Shape :=
  { name := "boards"
    columns :=
      [⟨"id", .text 36, false, none⟩,
       ⟨"team_id", .text 36, false, none⟩,
       ⟨"title", .text 255, false, none⟩,
       ⟨"created_by", .text 36, false, none⟩,
       ⟨"create_at", .big, false, none⟩,
       ⟨"update_at", .big, false, none⟩,
       ⟨"delete_at", .big, false, some (.quoted "0")⟩]
    key := ["id"]
    references := [⟨"created_by", "users"⟩]
    indexes :=
      [⟨"ix_boards_team_id", ["team_id"], false⟩,
       ⟨"ix_boards_created_by", ["created_by"], false⟩,
       ⟨"ix_boards_delete_at", ["delete_at"], false⟩] }

/-- Members of boards. -/
def boardMembers : Shape :=
  { name := "board_members"
    columns :=
      [⟨"board_id", .text 36, false, none⟩,
       ⟨"user_id", .text 36, false, none⟩,
       ⟨"create_at", .big, false, none⟩,
       ⟨"update_at", .big, false, none⟩]
    key := ["board_id", "user_id"]
    references := [⟨"board_id", "boards"⟩, ⟨"user_id", "users"⟩]
    indexes := [⟨"ix_board_members_user_id", ["user_id"], false⟩] }

/-- Categories. -/
def viewCategories : Shape :=
  { name := "view_categories"
    columns :=
      [⟨"id", .text 36, false, none⟩,
       ⟨"name", .text 255, false, none⟩,
       ⟨"user_id", .text 36, false, none⟩,
       ⟨"board_id", .text 36, false, none⟩,
       ⟨"create_at", .big, false, none⟩,
       ⟨"update_at", .big, false, none⟩,
       ⟨"delete_at", .big, false, some (.quoted "0")⟩,
       ⟨"collapsed", .flag, false, some (.number 0)⟩,
       ⟨"sort_order", .integer, false, some (.quoted "0")⟩,
       ⟨"type", .text 20, false, some (.quoted "custom")⟩]
    key := ["id"]
    references := [⟨"board_id", "boards"⟩]
    indexes :=
      [⟨"ix_view_categories_user_id", ["user_id"], false⟩,
       ⟨"ix_view_categories_board_id", ["board_id"], false⟩,
       ⟨"ix_view_categories_delete_at", ["delete_at"], false⟩] }

/-- Memberships of views in categories. The category is no reference, for the empty id marks a view
in no category. -/
def viewCategoryViews : Shape :=
  { name := "view_category_views"
    columns :=
      [⟨"view_id", .text 36, false, none⟩,
       ⟨"category_id", .text 36, false, none⟩,
       ⟨"hidden", .flag, false, some (.number 0)⟩,
       ⟨"sort_order", .integer, false, some (.quoted "0")⟩]
    key := ["view_id"]
    references := []
    indexes := [⟨"ix_view_category_views_category_id", ["category_id"], false⟩] }

end Migration

/-- The tables that the migration makes. -/
def Shape.migrated : List Shape :=
  [Migration.users, Migration.boards, Migration.boardMembers, Migration.viewCategories,
   Migration.viewCategoryViews]

/-- The statements that make a table and its indexes. -/
def Shape.statements (s : Shape) : List Statement :=
  .createTable s :: s.indexes.map (.createIndex s.name)

/-- The migration up (`upgrade`). -/
def upgrade : List Statement := Shape.migrated.flatMap Shape.statements

/-- The migration down (`downgrade`). -/
def downgrade : List Statement :=
  [.dropIndex "ix_view_category_views_category_id" "view_category_views",
   .dropTable "view_category_views",
   .dropIndex "ix_view_categories_delete_at" "view_categories",
   .dropIndex "ix_view_categories_board_id" "view_categories",
   .dropIndex "ix_view_categories_user_id" "view_categories",
   .dropTable "view_categories",
   .dropIndex "ix_board_members_user_id" "board_members",
   .dropTable "board_members",
   .dropIndex "ix_boards_delete_at" "boards",
   .dropIndex "ix_boards_created_by" "boards",
   .dropIndex "ix_boards_team_id" "boards",
   .dropTable "boards",
   .dropIndex "ix_users_username" "users",
   .dropTable "users"]

/-- The statement that undoes another; what was dropped is not brought back. -/
def Statement.undone? : Statement → Option Statement
  | .createTable shape => some (.dropTable shape.name)
  | .createIndex table index => some (.dropIndex index.name table)
  | .dropIndex _ _ | .dropTable _ => none

/-- The way down undoes the way up, statement by statement from the last one on. -/
theorem undone_upgrade : upgrade.reverse.filterMap Statement.undone? = downgrade := rfl

/-! ## Steps -/

/-- The statements that make the tables that are missing (`init_db`). -/
def missing (db : Database) : List Statement :=
  (Shape.declared.filter fun s => !db.hasTable s.name).flatMap Shape.statements

/-- A step: the migration up or down, `init_db`, or an insert. -/
inductive Step where
  | upgrade
  | downgrade
  | fill
  | insert (table : String) (values : List (String × Binding))
  deriving DecidableEq, Repr

/-- What a step that was taken shows: all tables, or the one that was written. -/
inductive Sight where
  | tables (all : List Stored)
  | table (written : Stored)
  deriving DecidableEq, Repr

namespace Database

/-- The result of a script, and the database after it. -/
def seen (r : Database × Except Trouble Unit) : Database × Except Trouble Sight :=
  (r.1, r.2.map fun _ => .tables r.1.tables)

/-- Takes a database through a step. -/
def step (db : Database) : Step → Database × Except Trouble Sight
  | .upgrade => seen (db.script Schema.upgrade)
  | .downgrade => seen (db.script Schema.downgrade)
  | .fill => seen (db.script (missing db))
  | .insert table values =>
    match db.insert table values with
    | .ok (written, db') => (db', .ok (.table written))
    | .error e => (db, .error e)

/-- What is seen of steps that are taken one after the other. A trouble ends its step, and a fatal
one the whole run. -/
def run (db : Database) : List Step → Except Trouble (List (Except Trouble Sight))
  | [] => .ok []
  | s :: ss =>
    match db.step s with
    | (db', .ok sight) => (db'.run ss).map (.ok sight :: ·)
    | (db', .error e) => if e.isFatal then .error e else (db'.run ss).map (.error e :: ·)

end Database

end BoardViews.Schema
