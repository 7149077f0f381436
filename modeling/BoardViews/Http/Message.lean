import BoardViews.Complaint
import BoardViews.Failure
import BoardViews.Store.Bearer

/-
  Requests and responses. The names of headers have no case, and every byte of their values counts
  as one character. A response may have been made for a request that crashed; the client is then
  told nothing but that, and the crash is kept beside it.
-/

namespace BoardViews.Http

/-- A request. -/
structure Request where
  method : String
  path : String
  headers : List (String × String)
  body : String

/-- The value of a header. -/
def Request.header? (r : Request) (name : String) : Option String :=
  (r.headers.find? fun h => Text.lower h.1 == name).map (·.2)

/-- A text as the value of a header. -/
def headerValue (s : String) : String := Token.latin (Token.bytes s)

/-- What stands in front of the first separator in the value of a header, and what follows it. -/
def cutAt (sep : Char) (cs : List Char) : List Char × List Char :=
  (cs.takeWhile (· ≠ sep), (cs.dropWhile (· ≠ sep)).drop 1)

/-- What is sent back besides status and headers. -/
inductive Content where
  | empty
  | json (v : Json)
  | complaints (cs : List Complaint)
  | text (s : String)

/-- What a request can crash on: the store, the bearer of its token, a number or half a pair that
cannot be written into a response, or a result that does not have the shape of one. -/
inductive Crash where
  | store (why : Fault)
  | bearer (why : BearerFault)
  | unwritable
  | unencodable (why : LoneHalves)
  | unsendable (why : LoneHalves)
  | unfit (complaints : List Complaint)
  deriving DecidableEq, Repr

/-- What people are told about a number in a response that JSON has no text for. -/
def unwritableMessage : String := "Out of range float values are not JSON compliant"

/-- What people are told about a result that no bytes stand for. -/
def unsendableMessage (why : LoneHalves) : String :=
  "Error serializing to JSON: UnicodeEncodeError: " ++ why.message

/-- A response. -/
structure Response where
  status : Nat
  headers : List (String × String) := []
  content : Content := .empty
  crash : Option Crash := none

namespace Response

/-- A response that says in one sentence what is the matter. -/
def detail (status : Nat) (sentence : String) : Response :=
  { status := status, content := .json (.record [("detail", .text sentence)]) }

/-- The response to a request that crashed. -/
def crashed (why : Crash) : Response :=
  { status := 500, content := .text "Internal Server Error", crash := some why }

/-- The response to a client that has to say who it is. -/
def unauthorized (sentence : String) : Response :=
  { detail 401 sentence with headers := [("www-authenticate", "Bearer")] }

end Response

end BoardViews.Http
