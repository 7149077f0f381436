import BoardViews.Http.Body
import BoardViews.Http.Reply

/-
  The server. A request finds its route; the body is parsed, then the user is asked for
  (`get_current_user`), then the body is looked at, and only then the request is run. In an
  environment for development (`is_development`), browsers on the front end's origin are told that
  they may see the response, unless the request crashed.
-/

namespace BoardViews.Http

/-- What a request leaves behind: a response, the store and notes. -/
structure Exchange where
  response : Response
  store : Store
  notes : List Note

/-- The credentials of a request: what follows the word `bearer`, of any case, and blanks. -/
def Request.credentials? (r : Request) : Option String := do
  let (scheme, rest) := cutAt ' ' (← r.header? "authorization").toList
  let credentials := Text.strip (String.ofList rest)
  if Text.lower (String.ofList scheme) = "bearer" ∧ credentials ≠ "" then some credentials
  else none

/-- The user who sent a request (`get_current_user`). -/
def Request.sender (env : Env) (s : Store) (r : Request) : Except Rejection User :=
  match r.credentials? with
  | none => .error .noCredentials
  | some token =>
    match s.bearer env.settings env.now token with
    | .error why => .error (.crash (.bearer why))
    | .ok none => .error .badCredentials
    | .ok (some u) => .ok u

/-- What the service is to do for a deed on a board. -/
def Deed.request (env : Env) (s : Store) (r : Request) (board : String) (d : Deed) :
    Except Rejection BoardViews.Request := do
  let body ← d.readBody r
  let user ← r.sender env s
  let command ← d.command board body
  .ok ⟨some user.id, some board, command⟩

/-- The status of a deed that was done. -/
def Deed.status : Deed → Nat
  | .create => 201
  | .categorize _ _ | .setVisibility _ _ _ | .uncategorize _ => 204
  | _ => 200

/-- The response to a deed that was tried. -/
def Deed.response (d : Deed) : Except Failure Reply → Response
  | .ok reply =>
    match content reply with
    | .ok content => { status := d.status, content := content }
    | .error why => .crashed why
  | .error (.refusal why) => .detail why.kind.status why.message
  | .error (.fault why) => .crashed (.store why)

/-- Carries out a deed on a board. -/
def Deed.serve (env : Env) (s : Store) (r : Request) (board : String) (d : Deed) : Exchange :=
  match d.request env s r board with
  | .error why => ⟨why.response, s, []⟩
  | .ok request =>
    let o := request.run env s
    ⟨d.response o.result, o.store, o.notes⟩

/-- The answer to the question whether the server is well (`health_check`). -/
def healthy (settings : Settings) : Response :=
  { status := 200
    content := .json
      (.record [("status", .text "healthy"), ("environment", .text settings.environment)]) }

/-- Serves a request that comes from anywhere. -/
def Request.answer (env : Env) (s : Store) (r : Request) : Exchange :=
  match destination r.method r.path with
  | .call .health => ⟨healthy env.settings, s, []⟩
  | .call (.onBoard board d) => d.serve env s r board
  | .otherMethod allowed =>
    ⟨{ Response.detail 405 "Method Not Allowed" with headers := [("allow", allowed)] }, s, []⟩
  | .moved path => ⟨{ status := 307, headers := [("location", address path)] }, s, []⟩
  | .unknown => ⟨.detail 404 "Not Found", s, []⟩

/-! ## Browsers on other origins -/

/-- The origin of the front end. -/
def frontEnd : String := "http://localhost:3000"

/-- The methods that browsers may use. -/
def browserMethods : List String :=
  ["DELETE", "GET", "HEAD", "OPTIONS", "PATCH", "POST", "PUT", "QUERY"]

/-- The headers for a request from the front end, which is let in from its own origin in an
environment for development alone. -/
def Request.originHeaders (settings : Settings) (r : Request) : List (String × String) :=
  if settings.isDevelopment ∧ r.header? "origin" = some frontEnd then
    [("access-control-allow-origin", frontEnd)]
  else []

/-- The response to a browser that asks whether it may send a request. -/
def Request.preflight? (settings : Settings) (r : Request) : Option Response := do
  let origin ← r.header? "origin"
  let method ← r.header? "access-control-request-method"
  if settings.isDevelopment ∧ r.method = "OPTIONS" then
    let objections :=
      (if origin = frontEnd then [] else ["origin"]) ++
      (if browserMethods.contains method then [] else ["method"]) ++
      (if (r.header? "access-control-request-private-network").isSome then ["private-network"]
        else [])
    if objections = [] then
      some { status := 200, headers := r.originHeaders settings, content := .text "OK" }
    else
      some
        { status := 400, headers := r.originHeaders settings
          content := .text ("Disallowed CORS " ++ String.intercalate ", " objections) }
  else none

/-- The response with the headers for the front end, unless the request crashed. -/
def Response.forOrigin (response : Response) (settings : Settings) (r : Request) : Response :=
  match response.crash with
  | none => { response with headers := response.headers ++ r.originHeaders settings }
  | some _ => response

/-- Serves a request. -/
def Request.serve (env : Env) (s : Store) (r : Request) : Exchange :=
  match r.preflight? env.settings with
  | some response => ⟨response, s, []⟩
  | none =>
    let e := r.answer env s
    { e with response := e.response.forOrigin env.settings r }

end BoardViews.Http
