import BoardViews.Http.Message
import BoardViews.Json.Writer

/-
  Complaints about a body as a response shows them. A complaint comes with the part of the body that
  it is about, so the response cannot be written if such a part has a number that JSON has no text
  for, or half a pair of code units, which no bytes stand for.
-/

namespace BoardViews.Http

/-- Fields whose keys start with this are not shown. -/
def hiddenKey : String := "_sa"

/-- A complaint about a body, with the part that it is about. -/
def echo (body : Json) (c : Complaint) : Json :=
  let limits :=
    match c.cause.details with
    | [] => []
    | details => [("ctx", .record details)]
  .record <|
    [("type", .text c.cause.label),
     ("loc", .list ((Complaint.within (.field "body") c).place.map Place.toJson)),
     ("msg", .text c.cause.message),
     ("input", ((c.shown? body).getD .null).without hiddenKey)] ++ limits

/-- The response to complaints about a body. -/
def echoes (body : Json) (cs : List Complaint) : Json :=
  .record [("detail", .list (cs.map (echo body)))]

/-- Why the response to complaints about a body cannot be written, if it cannot. -/
def echoCrash? (body : Json) (cs : List Complaint) : Option Crash :=
  if (echoes body cs).isFinite then (echoes body cs).print.loneHalves?.map .unencodable
  else some .unwritable

end BoardViews.Http
