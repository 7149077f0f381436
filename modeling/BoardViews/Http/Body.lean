import BoardViews.Bytes.Encoding
import BoardViews.Form
import BoardViews.Http.Echo
import BoardViews.Http.Route
import BoardViews.Json.Reader

/-
  The bodies of requests. A body is JSON if its media type is; any other body counts as a text,
  which no deed takes. From a body that is as it should be a deed becomes a command:
  `Deed.command` is what the endpoints do before they call the service, with the two mismatches
  that `create_view_category` and `update_view_category` refuse.
-/

namespace BoardViews.Http

/-- Why a request is not carried out. -/
inductive Rejection where
  | brokenBody (position : Nat)
  | unreadableBody
  | noCredentials
  | badCredentials
  | malformed (complaints : List Complaint)
  | crash (why : Crash)
  | otherBoard
  | otherCategory
  deriving DecidableEq, Repr

/-- The response to a rejected request. -/
def Rejection.response : Rejection → Response
  | .brokenBody position =>
    { status := 422
      content := .complaints [⟨.brokenJson, [.field "body", .index position]⟩] }
  | .unreadableBody => .detail 400 "There was an error parsing the body"
  | .noCredentials => .unauthorized "Not authenticated"
  | .badCredentials => .unauthorized "Invalid authentication credentials"
  | .malformed cs => { status := 422, content := .complaints (cs.map (.within (.field "body"))) }
  | .crash why => .crashed why
  | .otherBoard => .detail 400 "boardID mismatch"
  | .otherCategory => .detail 400 "categoryID mismatch"

/-- Whether a media type is one of JSON; parameters and case do not count. -/
def isJsonType (type : String) : Bool :=
  let essence := Text.lower (Text.strip (String.ofList (cutAt ';' type.toList).1))
  match essence.toList.splitOn '/' with
  | [main, sub] =>
    main == "application".toList && (sub == "json".toList || "+json".toList.isSuffixOf sub)
  | _ => false

/-- The body of a request, if there is one. -/
def Request.readBody (r : Request) : Except Rejection (Option Json) :=
  if r.body.isEmpty then .ok none
  else if (r.header? "content-type").any isJsonType then
    match (Bytes.jsonText? (Token.bytes r.body)).map Json.read with
    | some (.ok v) => .ok (some v)
    | none | some (.error ⟨.tooManyDigits _, _⟩) | some (.error ⟨.tooDeep _, _⟩) =>
      .error .unreadableBody
    | some (.error e) => .error (.brokenBody e.position)
  else .ok (some (.text r.body))

/-- A body read by a reader; there has to be one. -/
def readAs {α : Type} (read : Json → Except (List Complaint) α) (body : Option Json) :
    Except Rejection α :=
  match body with
  | none => .error (.malformed [⟨.missing, []⟩])
  | some v =>
    (read v).mapError fun cs =>
      match echoCrash? v cs with
      | some why => .crash why
      | none => .malformed cs

namespace Deed

/-- Whether a deed comes with a body. -/
def takesBody : Deed → Bool
  | .create | .reorder | .update _ | .reorderViews _ => true
  | _ => false

/-- The body that comes with a deed. -/
def readBody (d : Deed) (r : Request) : Except Rejection (Option Json) :=
  if d.takesBody then r.readBody else .ok none

/-- The command that a deed on a board stands for. A form may repeat the ids of the path, but not
name others. -/
def command (d : Deed) (board : String) (body : Option Json) : Except Rejection Command :=
  match d with
  | .create =>
    match readAs (CategoryForm.ofJson .notObject) body with
    | .error e => .error e
    | .ok f =>
      if f.boardId ≠ board then .error .otherBoard
      else .ok (.create (some f.name) (some f.type) f.id (some f.collapsed))
  | .list => .ok .list
  | .reorder => (readAs readTexts body).map .reorder
  | .get c => .ok (.get (some c))
  | .update c =>
    match readAs (CategoryPatch.ofJson .notObject) body with
    | .error e => .error e
    | .ok p =>
      if p.boardId.any (· ≠ board) then .error .otherBoard
      else if p.id.any (· ≠ c) then .error .otherCategory
      else .ok (.update (some c) p.name p.collapsed)
  | .delete c => .ok (.delete (some c))
  | .reorderViews c => (readAs readTexts body).map (.reorderViews (some c))
  | .categorize c v => .ok (.categorize (some c) [v])
  | .setVisibility c v visible => .ok (.setVisibility (some c) v visible)
  | .uncategorize v => .ok (.uncategorize v)

end Deed

end BoardViews.Http
