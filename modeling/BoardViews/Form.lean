import BoardViews.Complaint

/-
  The forms that clients fill in: `ViewCategoryCreate` to create a category, `ViewCategoryUpdate`
  to change it. Texts have at most as many characters as the columns they go to.
-/

namespace BoardViews

/-- The most characters of an id. -/
def idLimit : Nat := 36

/-- The most characters of a name. -/
def nameLimit : Nat := 255

/-- The most characters of a category's type. -/
def typeLimit : Nat := 20

/-- What a client asks for when it creates a category (`ViewCategoryCreate`). -/
structure CategoryForm where
  id : Option String
  boardId : String
  name : String
  type : String
  collapsed : Bool
  deriving DecidableEq, Repr

/-- What a client asks for when it changes a category (`ViewCategoryUpdate`). -/
structure CategoryPatch where
  id : Option String
  boardId : Option String
  name : Option String
  collapsed : Option Bool
  deriving DecidableEq, Repr

/-- Reads the form for a new category; what is no object gets the given cause. -/
def CategoryForm.ofJson (otherwise : Cause) (data : Json) : Except (List Complaint) CategoryForm :=
  match data with
  | .object _ =>
    let id := Json.optional (Json.toText idLimit) (data.field? "id")
    let boardId := Json.required (Json.toText idLimit) (data.field? "board_id")
    let name := Json.required (Json.toText nameLimit) (data.field? "name")
    let type := Json.orElse "custom" (Json.toText typeLimit) (data.field? "type")
    let collapsed := Json.orElse false Json.toSwitch (data.field? "collapsed")
    match id, boardId, name, type, collapsed with
    | .ok id, .ok boardId, .ok name, .ok type, .ok collapsed =>
      .ok ⟨id, boardId, name, type, collapsed⟩
    | _, _, _, _, _ =>
      .error (Complaint.gather
        [("id", cause? id), ("board_id", cause? boardId), ("name", cause? name),
         ("type", cause? type), ("collapsed", cause? collapsed)])
  | _ => .error [⟨otherwise, []⟩]

/-- Reads the form for a change; what is no object gets the given cause. -/
def CategoryPatch.ofJson (otherwise : Cause) (data : Json) :
    Except (List Complaint) CategoryPatch :=
  match data with
  | .object _ =>
    let id := Json.optional (Json.toText idLimit) (data.field? "id")
    let boardId := Json.optional (Json.toText idLimit) (data.field? "board_id")
    let name := Json.optional (Json.toText nameLimit) (data.field? "name")
    let collapsed := Json.optional Json.toSwitch (data.field? "collapsed")
    match id, boardId, name, collapsed with
    | .ok id, .ok boardId, .ok name, .ok collapsed => .ok ⟨id, boardId, name, collapsed⟩
    | _, _, _, _ =>
      .error (Complaint.gather
        [("id", cause? id), ("board_id", cause? boardId), ("name", cause? name),
         ("collapsed", cause? collapsed)])
  | _ => .error [⟨otherwise, []⟩]

/-- The name of the form for a new category. -/
def CategoryForm.model : String := "ViewCategoryCreate"

/-- The name of the form for a change. -/
def CategoryPatch.model : String := "ViewCategoryUpdate"

/-- The fields of a form for a new category. -/
def CategoryForm.toJson (f : CategoryForm) : Json :=
  .record [("id", Json.string? f.id), ("board_id", .text f.boardId), ("name", .text f.name),
    ("type", .text f.type), ("collapsed", .bool f.collapsed)]

/-- The fields of a form for a change. -/
def CategoryPatch.toJson (f : CategoryPatch) : Json :=
  .record [("id", Json.string? f.id), ("board_id", Json.string? f.boardId),
    ("name", Json.string? f.name), ("collapsed", (f.collapsed.map Json.bool).getD .null)]

/-- The texts of a list, each of any length; every item that is none is complained about. -/
def readTexts (data : Json) : Except (List Complaint) (List RawText) :=
  match data with
  | .list items =>
    let texts := items.filterMap fun | .text t => some t | _ => none
    if texts.length = items.length then .ok texts
    else
      .error <| items.zipIdx.filterMap fun
        | (.text _, _) => none
        | (_, i) => some ⟨.notText, [.index i]⟩
  | _ => .error [⟨.notList, []⟩]

end BoardViews
