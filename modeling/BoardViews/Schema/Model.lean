import BoardViews.Schema.Shape

/-
  The models of the service, and the tables that they stand for: `User`, `Board`, `BoardMember`,
  `ViewCategory` and `ViewCategoryView`, with what the mixins `TimestampMixin` and `SoftDeleteMixin`
  add to them. A field brings its index and its reference along; the fields of mixins stand behind
  the model's own. No field has a default in the table, for the service itself fills in what a new
  row was not given (`RowKind.fallback?`).
-/

namespace BoardViews.Schema

/-- A field of a model. One that is part of the primary key is not nullable, and others are unless
it is said that they are not. -/
structure Field where
  name : String
  kind : Kind
  primary : Bool := false
  nullable : Bool := !primary
  indexed : Bool := false
  unique : Bool := false
  refersTo : Option String := none

/-- The column of a field. -/
def Field.column (f : Field) : Column := ⟨f.name, f.kind, f.nullable, none⟩

/-- A model: the name of its table and its fields. -/
structure Model where
  table : String
  fields : List Field

namespace Model

/-- The shape of a model's table; an index is named for the table and the field. -/
def shape (m : Model) : Shape where
  name := m.table
  columns := m.fields.map Field.column
  key := (m.fields.filter (·.primary)).map (·.name)
  references := m.fields.filterMap fun f => f.refersTo.map (⟨f.name, ·⟩)
  indexes := (m.fields.filter (·.indexed)).map fun f =>
    ⟨"ix_" ++ m.table ++ "_" ++ f.name, [f.name], f.unique⟩

/-- The times at which a row was made and changed. -/
def timestamps : List Field :=
  [{ name := "create_at", kind := .big, nullable := false },
   { name := "update_at", kind := .big, nullable := false }]

/-- The time at which a row was deleted. -/
def softDelete : List Field :=
  [{ name := "delete_at", kind := .big, nullable := false, indexed := true }]

/-- Users. -/
def users : Model :=
  { table := "users"
    fields :=
      [{ name := "id", kind := .text 36, primary := true },
       { name := "username", kind := .text 255, nullable := false, indexed := true,
         unique := true }] ++
      timestamps }

/-- Boards. -/
def boards : Model :=
  { table := "boards"
    fields :=
      [{ name := "id", kind := .text 36, primary := true },
       { name := "team_id", kind := .text 36, nullable := false, indexed := true },
       { name := "title", kind := .text 255, nullable := false },
       { name := "created_by", kind := .text 36, nullable := false, indexed := true,
         refersTo := some "users" }] ++
      timestamps ++ softDelete }

/-- Members of boards. -/
def boardMembers : Model :=
  { table := "board_members"
    fields :=
      [{ name := "board_id", kind := .text 36, primary := true, refersTo := some "boards" },
       { name := "user_id", kind := .text 36, primary := true, indexed := true,
         refersTo := some "users" }] ++
      timestamps }

/-- Categories. -/
def viewCategories : Model :=
  { table := "view_categories"
    fields :=
      [{ name := "id", kind := .text 36, primary := true },
       { name := "name", kind := .text 255, nullable := false },
       { name := "user_id", kind := .text 36, nullable := false, indexed := true },
       { name := "board_id", kind := .text 36, nullable := false, indexed := true,
         refersTo := some "boards" },
       { name := "collapsed", kind := .flag, nullable := false },
       { name := "sort_order", kind := .integer, nullable := false },
       { name := "type", kind := .text 20, nullable := false }] ++
      timestamps ++ softDelete }

/-- Memberships of views in categories. The category is no reference, for the id of none stands for
no category. -/
def viewCategoryViews : Model :=
  { table := "view_category_views"
    fields :=
      [{ name := "view_id", kind := .text 36, primary := true },
       { name := "category_id", kind := .text 36, nullable := false, indexed := true },
       { name := "hidden", kind := .flag, nullable := false },
       { name := "sort_order", kind := .integer, nullable := false }] }

/-- All models, each after those that it refers to. -/
def all : List Model := [users, boards, boardMembers, viewCategories, viewCategoryViews]

end Model

/-- The tables that the service makes. -/
def Shape.declared : List Shape := Model.all.map Model.shape

end BoardViews.Schema
