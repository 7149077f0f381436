import BoardViews.Json.Writer
import BoardViews.Store.Row
import BoardViews.Time

/-
  Events: what the team of a board is told after a change. An event has an action, a payload and
  the time; its text is what subscribers of the team's channel receive. `Change.payload` holds the
  payloads that the methods of `ChangeNotifier` build, and `Event.text` and `Event.channel` the
  message and the channel of `publish_team_event`, which nothing gets out of but a log line where
  it fails (`Event.obstacle?`).
-/

namespace BoardViews

/-- What was changed (`ViewCategoryAction`). -/
inductive Action where
  | category
  | categoryOrder
  | membership
  | viewOrder
  deriving DecidableEq, Repr

namespace Action

/-- All actions. -/
def all : List Action := [.category, .categoryOrder, .membership, .viewOrder]

/-- The name of an action in events. -/
def name : Action → String
  | .category => "UPDATE_VIEW_CATEGORY"
  | .categoryOrder => "REORDER_VIEW_CATEGORIES"
  | .membership => "UPDATE_VIEW_CATEGORY_VIEW"
  | .viewOrder => "REORDER_VIEW_CATEGORY_VIEWS"

/-- The action of a name. -/
def ofName? (s : String) : Option Action := all.find? fun a => a.name == s

end Action

/-- A message to a team. -/
structure Event where
  team : String
  action : Action
  payload : Json
  time : Instant

/-- The channel that every client of a team listens on (`team_channel`). -/
def teamChannel (team : String) : String := "team:" ++ team

namespace Event

/-- The channel of an event. -/
def channel (e : Event) : String := teamChannel e.team

/-- An event as JSON. -/
def toJson (e : Event) : Json :=
  .record [("action", .text e.action.name), ("team_id", .text e.team),
    ("timestamp", .text e.time.stamp), ("payload", e.payload)]

/-- The text of an event. -/
def text (e : Event) : String := e.toJson.write Json.spaced

/-- Why an event cannot be published, if it cannot: its time has no date, it cannot be written, or
publishing fails for the given reason. -/
def obstacle? (reason : Option String) (e : Event) : Option String :=
  (e.time.dateFault?.map DateFault.message).or
    (((e.toJson.writeFault? Json.maxDepth).map Json.WriteFault.message).or reason)

end Event

/-- A change that a team is told of. -/
inductive Change where
  | category (row : Category)
  | categoryOrder (board : String) (order : List RawText)
  | membership (category view : String) (hidden : Bool)
  | viewOrder (category : String) (order : List RawText)

namespace Change

/-- The action of a change. -/
def action : Change → Action
  | .category _ => .category
  | .categoryOrder _ _ => .categoryOrder
  | .membership _ _ _ => .membership
  | .viewOrder _ _ => .viewOrder

/-- The payload of a change. -/
def payload : Change → Json
  | .category row => .record [("view_category", .record row.fields)]
  | .categoryOrder board order =>
    .record [("board_id", .text board), ("category_order", Json.texts order)]
  | .membership id view hidden =>
    .record [("category_id", .text id), ("view_id", .text view), ("hidden", .bool hidden)]
  | .viewOrder id order => .record [("category_id", .text id), ("view_order", Json.texts order)]

/-- The event of a change. -/
def event (c : Change) (team : String) (time : Instant) : Event :=
  ⟨team, c.action, c.payload, time⟩

end Change

end BoardViews
