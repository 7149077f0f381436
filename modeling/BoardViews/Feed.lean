import BoardViews.Bytes.Encoding
import BoardViews.Json.Reader
import BoardViews.Json.Shown
import BoardViews.Outcome

/-
  Feeds: the frames that arrive on a channel to which one has subscribed. `receive`, `listen` and
  `subscribed` are `subscribe` of `RealtimeService`, and `release` is its `cleanup`. Frames of the
  kind `message` carry the text of an event or the bytes of it; a text that is not JSON is logged
  and skipped. Only that fault is caught: data that are no text, bytes that cannot be decoded, and
  a text at which the reader runs into one of its limits end the subscription, which is given up
  all the same.
-/

namespace BoardViews

/-- What a frame carries: bytes, or a value that is none. -/
inductive Frame.Data where
  | bytes (bs : List UInt8)
  | value (v : Json)

instance : Coe Json Frame.Data := ⟨.value⟩

/-- A frame of a feed. -/
structure Frame where
  kind : String
  data : Frame.Data

/-- Why a feed cannot be read on. -/
inductive FeedFault where
  | notText (kind : String)
  | tooManyDigits (count : Nat)
  | tooDeep (part : String)
  deriving DecidableEq, Repr

/-- What people are told. -/
def FeedFault.message : FeedFault → String
  | .notText kind => "the JSON object must be str, bytes or bytearray, not " ++ kind
  | .tooManyDigits count =>
    "Exceeds the limit (" ++ Text.integer Json.maxIntegerDigits ++
      " digits) for integer string conversion: value has " ++ Text.integer count ++
      " digits; use sys.set_int_max_str_digits() to increase the limit"
  | .tooDeep part => Json.depthMessage part

/-- What ends a subscription before its feed ends: a fault that people are told of in words, or
bytes that cannot be decoded. -/
inductive Breakdown where
  | fault (why : FeedFault)
  | undecodable (bs : List UInt8)
  deriving DecidableEq, Repr

namespace Frame.Data

/-- The text of data. -/
def text : Data → Except Breakdown RawText
  | .bytes bs =>
    match Bytes.jsonText? bs with
    | some t => .ok t
    | none => .error (.undecodable bs)
  | .value (.text t) => .ok t
  | .value v => .error (.fault (.notText v.kindName))

/-- Data as they stand in a log line. -/
def shown : Data → String
  | .bytes bs => Bytes.shown bs
  | .value v => v.shown

end Frame.Data

/-- What a frame brings. -/
inductive Arrival where
  | value (v : Json)
  | nothing
  | unreadable (data : Frame.Data)
  | breakdown (why : Breakdown)

/-- What a frame brings. -/
def Frame.arrival (f : Frame) : Arrival :=
  if f.kind ≠ "message" then .nothing
  else
    match f.data.text with
    | .error why => .breakdown why
    | .ok t =>
      match Json.read t with
      | .ok v => .value v
      | .error ⟨.tooManyDigits count, _⟩ => .breakdown (.fault (.tooManyDigits count))
      | .error ⟨.tooDeep part, _⟩ => .breakdown (.fault (.tooDeep part))
      | .error _ => .unreadable f.data

/-- The log line about data that are not JSON. -/
def unreadableNote (data : Frame.Data) : Note :=
  .log .warning ("Invalid JSON in pub/sub message: " ++ data.shown)

/-- What is asked of the outside world. -/
inductive Effect where
  | subscribe (channel : String)
  | unsubscribe (channel : String)
  | sleep (seconds : Nat)
  | closeFeed
  | closeConnection
  deriving DecidableEq, Repr

/-- An effect as a line of text. -/
def Effect.text : Effect → String
  | .subscribe channel => "subscribe " ++ channel
  | .unsubscribe channel => "unsubscribe " ++ channel
  | .sleep seconds => "sleep " ++ Text.integer seconds
  | .closeFeed => "pubsub.close"
  | .closeConnection => "redis.close"

/-- What a subscription hands on: values, log lines, and what ended it before the feed did, if
anything did. -/
structure Reception where
  values : List Json := []
  notes : List Note := []
  breakdown : Option Breakdown := none

/-- The fault that people are told of, if one ended the subscription. -/
def Reception.fault (r : Reception) : Option FeedFault :=
  match r.breakdown with
  | some (.fault why) => some why
  | _ => none

/-- What is handed on of a feed. -/
def receive : List Frame → Reception
  | [] => {}
  | f :: fs =>
    match f.arrival with
    | .value v => { receive fs with values := v :: (receive fs).values }
    | .nothing => receive fs
    | .unreadable data => { receive fs with notes := unreadableNote data :: (receive fs).notes }
    | .breakdown why => { breakdown := some why }

/-- The effects of a subscription from its start to its end. -/
def subscription (channel : String) : List Effect := [.subscribe channel, .unsubscribe channel]

/-- What happens on a channel to which one has subscribed. -/
inductive Happening where
  | effect (e : Effect)
  | value (v : Json)
  | note (n : Note)
  | breakdown (why : Breakdown)

/-- What happens from the first frame of a feed on. The subscription is given up after the last
frame, and before a breakdown is raised. -/
def listen (channel : String) : List Frame → List Happening
  | [] => [.effect (.unsubscribe channel)]
  | f :: fs =>
    match f.arrival with
    | .value v => .value v :: listen channel fs
    | .nothing => listen channel fs
    | .unreadable data => .note (unreadableNote data) :: listen channel fs
    | .breakdown why => [.effect (.unsubscribe channel), .breakdown why]

/-- What happens of a subscription on, in this order; `receive` tells the values, log lines and the
breakdown of it, and `subscription` the effects. -/
def subscribed (channel : String) (feed : List Frame) : List Happening :=
  .effect (.subscribe channel) :: listen channel feed

/-- The effects of giving up a connection that was subscribed with. -/
def release : List Effect := [.closeFeed, .closeConnection]

end BoardViews
