import BoardViews.Feed
import BoardViews.Http.Query
import BoardViews.Http.Route
import BoardViews.Service
import BoardViews.Store.Bearer

/-
  Web sockets (`websocket_board_events`): a client that may view a board is sent the events of the
  board's team. After the handshake three loops run side by side: `handle_messages` forwards what
  arrives on the team's channel, `handle_ping` sends a ping every half minute, `handle_client`
  reads what the client sends. Each ends for reasons of its own, and the session is over when all
  three have ended.
-/

namespace BoardViews.Socket

/-- What a socket is closed with, in words or as complaints. -/
inductive Reason where
  | words (s : String)
  | complaints (cs : List Complaint)
  deriving DecidableEq, Repr

/-- What is sent to the client. -/
inductive Signal where
  | accept
  | text (t : RawText)
  | close (code : Nat) (reason : Reason)
  deriving DecidableEq, Repr

/-- How the line to the client is: sending works, fails each time, or breaks the line for good. -/
inductive Wire where
  | works
  | fails (why : String)
  | breaks (why : String)
  deriving DecidableEq, Repr

/-- Why sending fails, if it does. -/
def Wire.trouble? : Wire → Option String
  | .works => none
  | .fails why | .breaks why => some why

/-! ## The handshake -/

/-- How a handshake ends. -/
inductive Handshake where
  | unknownPath
  | noToken
  | badToken
  | denied
  | noBearer (why : BearerFault)
  | accepted (user : User) (board : Board)
  deriving DecidableEq, Repr

/-- The board that a path names. -/
def board? (path : String) : Option String :=
  match Http.segments? path with
  | some ["api", "v1", "ws", "boards", board] => some board
  | _ => none

/-- The path of a board's socket. -/
def path (board : String) : String := "/api/v1/ws/boards/" ++ board

/-- The query string that hands over a token. -/
def tokenQuery (token : String) : String := "token=" ++ token

/-- The handshake with a client that comes to a path with a query string. -/
def handshake (env : Env) (s : Store) (path query : String) : Handshake :=
  match board? path, Http.Query.value? query "token" with
  | none, _ => .unknownPath
  | some _, none => .noToken
  | some board, some token =>
    match s.bearer env.settings env.now token with
    | .error why => .noBearer why
    | .ok none => .badToken
    | .ok (some user) =>
      match s.access (some user.id) (some board) with
      | .ok a => .accepted user a.board
      | .error _ => .denied

/-- What the client is sent after a handshake; nothing if it cannot be said whom its token speaks
for. -/
def Handshake.signal? : Handshake → Option Signal
  | .unknownPath => some (.close 1000 (.words ""))
  | .noToken => some (.close 1008 (.complaints [⟨.missing, [.field "query", .field "token"]⟩]))
  | .badToken => some (.close 4001 (.words "Invalid token"))
  | .denied => some (.close 4003 (.words "Access denied"))
  | .noBearer _ => none
  | .accepted _ _ => some .accept

/-- Whether trouble in a handshake is logged: only once the endpoint of a board was reached. -/
def Handshake.isLogged : Handshake → Bool
  | .unknownPath | .noToken => false
  | _ => true

/-- The line on which the handshake fails without a log line, if it does. -/
def Handshake.escape? (h : Handshake) (wire : Wire) : Option Wire :=
  if !h.isLogged && wire.trouble?.isSome then some wire else none

/-- The log line about an error that ends a session. -/
def errorNote (why : String) : Note := .log .error ("WebSocket error: " ++ why)

/-! ## The session -/

/-- A session: the line to the client, whether the socket is open, and which loops run. -/
structure Session where
  wire : Wire
  isOpen : Bool
  forwards : Bool
  pings : Bool
  reads : Bool
  deriving DecidableEq, Repr

/-- What a step leaves behind: what was sent, effects and log lines. -/
structure Trace where
  sent : List Signal := []
  effects : List Effect := []
  notes : List Note := []

/-- What happens to a session. -/
inductive Stimulus where
  | frame (f : Frame)
  | feedEnds
  | clientSends (text : String)
  | clientLeaves
  | timer
  | wire (w : Wire)

/-- The seconds between two pings. -/
def pingInterval : Nat := 30

/-- The text of a ping. -/
def ping : RawText := (Json.record [("action", .text "PING")]).print

namespace Session

/-- A session that was not accepted. -/
def ended (wire : Wire) : Session := ⟨wire, false, false, false, false⟩

/-- A session in which all three loops run. -/
def started (wire : Wire) : Session := ⟨wire, true, true, true, true⟩

/-- Whether all loops have ended. -/
def isDone (x : Session) : Bool := !x.forwards && !x.pings && !x.reads

/-- Why a text cannot be sent now, if it cannot. -/
def obstacle? (x : Session) : Option String :=
  if x.isOpen then x.wire.trouble?
  else some "Cannot call \"send\" once a close message has been sent."

/-- The session after a text could not be sent: a broken line closes the socket. -/
def afterFailure (x : Session) : Session :=
  match x.wire with
  | .breaks _ => { x with isOpen := false }
  | _ => x

/-- Whether a failure to send goes without a log line, as the line breaking does. -/
def breaksNow (x : Session) : Bool := x.isOpen && x.wire matches .breaks _

/-- Forwards a value; the first one that cannot be sent ends the loop. -/
def forward (x : Session) (v : Json) : Session × Trace :=
  match x.obstacle? with
  | none => (x, { sent := [.text v.print] })
  | some why =>
    ({ x.afterFailure with forwards := false },
      { notes :=
          if x.breaksNow then []
          else [.log .error ("Error sending WebSocket message: " ++ why)] })

/-- Takes a frame of the feed. -/
def takeFrame (x : Session) (f : Frame) : Session × Trace :=
  if x.forwards then
    match f.arrival with
    | .value v => x.forward v
    | .nothing => (x, {})
    | .unreadable data => (x, { notes := [unreadableNote data] })
    | .breakdown _ => ({ x with forwards := false }, {})
  else (x, {})

/-- Sends a ping and waits for the next; one that cannot be sent ends the loop. -/
def takeTimer (x : Session) : Session × Trace :=
  if x.pings then
    match x.obstacle? with
    | none => (x, { sent := [.text ping], effects := [.sleep pingInterval] })
    | some _ => ({ x.afterFailure with pings := false }, {})
  else (x, {})

/-- Takes a text from the client; one that is not JSON ends the loop, and so does any if the socket
is closed. -/
def takeText (x : Session) (text : String) : Session :=
  match Json.read (.whole text) with
  | .ok _ => { x with reads := x.reads && x.isOpen }
  | .error _ => { x with reads := false }

/-- One step of a session. -/
def step (x : Session) : Stimulus → Session × Trace
  | .frame f => x.takeFrame f
  | .feedEnds => ({ x with forwards := false }, {})
  | .clientSends text => (x.takeText text, {})
  | .clientLeaves => ({ x with reads := false }, {})
  | .timer => x.takeTimer
  | .wire w => ({ x with wire := w }, {})

/-- The traces of a session's steps, each with whether the session was over after it. -/
def run (x : Session) : List Stimulus → List (Trace × Bool)
  | [] => []
  | e :: es =>
    let (x', trace) := x.step e
    (trace, x'.isDone) :: run x' es

end Session

/-- The session that a handshake leads to, and what is left behind by then. -/
def Handshake.begin (h : Handshake) (wire : Wire) : Session × Trace :=
  match h.signal?, wire.trouble? with
  | none, _ =>
    (.ended wire,
      { notes := match h with | .noBearer why => [errorNote why.message] | _ => [] })
  | some _, some why => (.ended wire, { notes := if h.isLogged then [errorNote why] else [] })
  | some signal, none =>
    match h with
    | .accepted user board =>
      let channel := teamChannel board.teamId
      (.started wire,
        { sent := [signal]
          effects := [.subscribe channel, .sleep pingInterval]
          notes := [.log .info ("WebSocket connected: user=" ++ user.id ++ ", board=" ++ board.id ++
            ", channel=" ++ channel)] })
    | _ => (.ended wire, { sent := [signal] })

/-- All that a session leaves behind, step by step; the first step is the handshake, which may have
failed on the line to the client. -/
structure Record where
  steps : List (Trace × Bool)
  effects : List Effect
  notes : List Note
  escaped : Option Wire

/-- A session from the handshake through a script. A connection that was subscribed with is
released in the end. -/
def Handshake.record (h : Handshake) (wire : Wire) (script : List Stimulus) : Record :=
  let (x, trace) := h.begin wire
  let steps := (trace, x.isDone) :: x.run script
  { steps := steps
    effects := steps.flatMap (·.1.effects) ++ (if trace.effects.isEmpty then [] else release)
    notes := steps.flatMap (·.1.notes)
    escaped := h.escape? wire }

end BoardViews.Socket
