import BoardViews.Http.Message
import BoardViews.Number.Loose
import BoardViews.Service

/-
  What clients are sent for the replies of the service: `ViewCategoryResponse`, and for a listing
  `ViewCategoryWithViewsResponse` with its `ViewMetadataResponse` (`to_response`). The times and
  the sort order of a category have to be integers, or texts that can be read as such, and a text
  has to be one that bytes stand for; a reply that is otherwise is no response.
-/

namespace BoardViews

/-- A cell as an integer. -/
def Cell.toInteger : Cell → Except Cause Int
  | .int n => .ok n
  | .real (.finite s m e) =>
    match (Binary64.finite s m e).toInt? with
    | some n => if -wordEnd < n ∧ n < wordEnd then .ok n else .error .hugeInt
    | none => .error .fractional
  | .real _ => .error .notFinite
  | .text s => Loose.readInt s

namespace Http

/-- The fields of a category as they are sent. -/
def sentFields (c : Category) : Except (List Complaint) (List (String × Json)) :=
  match c.createAt.toInteger, c.updateAt.toInteger, c.deleteAt.toInteger,
    c.sortOrder.toInteger with
  | .ok createAt, .ok updateAt, .ok deleteAt, .ok sortOrder =>
    .ok { c with
      createAt := .int createAt, updateAt := .int updateAt, deleteAt := .int deleteAt
      sortOrder := .int sortOrder }.fields
  | createAt, updateAt, deleteAt, sortOrder =>
    .error (Complaint.gather
      [("create_at", cause? createAt), ("update_at", cause? updateAt),
       ("delete_at", cause? deleteAt), ("sort_order", cause? sortOrder)])

/-- A listed category as it is sent, with its views. -/
def listed (e : Category × List Membership) : Except (List Complaint) Json :=
  (sentFields e.1).map fun fields =>
    .record (fields ++
      [("view_metadata", .list (e.2.map fun m =>
        .record [("view_id", .text m.viewId), ("hidden", .bool m.hidden)]))])

/-- What a client is sent for a reply. Of a listing, the first category that cannot be sent is
complained about. -/
def content : Reply → Except Crash Content
  | .category c =>
    match sentFields c with
    | .ok fields => .ok (.json (.record fields))
    | .error cs => .error (.unfit (cs.map (.within (.field "response"))))
  | .listing es =>
    match es.mapM listed with
    | .ok entries => .ok (.json (.list entries))
    | .error cs => .error (.unfit cs)
  | .order ids =>
    match ids.findSome? RawText.loneHalves? with
    | some why => .error (.unsendable why)
    | none => .ok (.json (Json.texts ids))
  | .memberships _ | .membership _ | .done => .ok .empty

end Http

end BoardViews
