import BoardViews.Feed
import BoardViews.Proofs.RoundTrip
import BoardViews.Token

/-
  What is published arrives. The events that a team is told of (`publish_team_event`) are read by a
  subscriber of the team's channel (`RealtimeService.subscribe`) as they were written, each once and
  in their order, whatever frames of other kinds and whatever data that are no JSON come between
  them. The subscription lasts to the end of the feed unless a frame stops it: data that are no
  text, bytes that cannot be decoded, or a text at which the reader runs into a limit before it can
  tell whether it is JSON. Then the events before that frame have arrived, and those behind it are
  lost.

  That an event is read back is the law of `RoundTrip`: an event that is published can be written,
  and its payload is plain (the hypothesis `plain`: whole texts, integers, switches and nulls, in
  lists and in objects whose keys differ). `Carries` says how a feed carries events, frame by frame,
  and the induction is on it.
-/

namespace BoardViews

/-! ## What happens, and what is told of it -/

namespace Happening

/-- The effect that happens. -/
def effect? : Happening → Option Effect
  | .effect e => some e
  | _ => none

/-- The value that is handed on. -/
def value? : Happening → Option Json
  | .value v => some v
  | _ => none

/-- The log line that is written. -/
def note? : Happening → Option Note
  | .note n => some n
  | _ => none

/-- The breakdown that is raised. -/
def breakdown? : Happening → Option Breakdown
  | .breakdown why => some why
  | _ => none

end Happening

/-- What is handed on of what happens. -/
def Reception.ofHappenings (hs : List Happening) : Reception where
  values := hs.filterMap Happening.value?
  notes := hs.filterMap Happening.note?
  breakdown := hs.findSome? Happening.breakdown?

/-- What is handed on of a feed is what happens in a subscription to it. -/
theorem receive_eq (channel : String) (feed : List Frame) :
    receive feed = .ofHappenings (subscribed channel feed) := by
  have rest : receive feed = .ofHappenings (listen channel feed) := by
    induction feed with
    | nil => rfl
    | cons f fs ih =>
      unfold receive listen
      split
      · rw [ih]; rfl
      · exact ih
      · rw [ih]; rfl
      · rfl
  exact rest

/-- A subscription is taken up first and given up once. -/
theorem effects_subscribed (channel : String) (feed : List Frame) :
    (subscribed channel feed).filterMap Happening.effect? = subscription channel := by
  have rest : (listen channel feed).filterMap Happening.effect? = [.unsubscribe channel] := by
    induction feed with
    | nil => rfl
    | cons f fs ih =>
      unfold listen
      split
      · exact ih
      · exact ih
      · exact ih
      · rfl
  rw [subscribed, List.filterMap_cons]
  exact congrArg _ rest

/-! ## Calls -/

/-- A call that tells a team of a change: what was changed, what is said of it, the clock, and why
publishing fails, if it does. -/
structure Call where
  action : Action
  payload : Option (List (String × Json))
  time : Instant
  fault : Option String

/-- The event of a call; a payload that is absent is empty. -/
def Call.event (team : String) (c : Call) : Event :=
  ⟨team, c.action, .record (c.payload.getD []), c.time⟩

/-- The events that come of calls, in their order. -/
def published (team : String) (calls : List Call) : List Event :=
  calls.flatMap fun c => Note.events (Note.deliver c.fault [.event (c.event team)])

/-- Of each call comes its event, if nothing stands in the way of it. -/
theorem published_eq (team : String) (calls : List Call) :
    published team calls =
      (calls.filter fun c => ((c.event team).obstacle? c.fault).isNone).map (Call.event team) := by
  unfold published
  induction calls with
  | nil => rfl
  | cons c calls ih =>
    rw [List.flatMap_cons, ih, Note.events_deliver, List.filter_cons]
    cases h : (c.event team).obstacle? c.fault with
    | none => simp [h]
    | some why => simp [h]

theorem mem_published {team : String} {calls : List Call} {e : Event}
    (he : e ∈ published team calls) :
    ∃ c ∈ calls, e = c.event team ∧ e.obstacle? c.fault = none := by
  rw [published_eq] at he
  obtain ⟨c, hc, rfl⟩ := List.mem_map.1 he
  obtain ⟨hc, free⟩ := List.mem_filter.1 hc
  exact ⟨c, hc, rfl, by simpa using free⟩

/-! ## Frames -/

/-- The value that data hold: they have a text, and it is read as that value. -/
def Frame.Data.Holds (d : Frame.Data) (v : Json) : Prop :=
  ∃ t, d.text = .ok t ∧ Json.read t = .ok v

/-- The frames in which an event may arrive: with its text, or with the bytes of that text. -/
inductive Event.IsFrame (e : Event) : Frame → Prop
  | text : IsFrame e ⟨"message", .value (.text e.text)⟩
  | bytes : IsFrame e ⟨"message", .bytes (Token.bytes e.text)⟩

/-- A frame that carries no event: it is of another kind, or its data hold no JSON. -/
inductive Frame.IsNoise : Frame → Prop
  | other {kind : String} {data : Frame.Data} (h : kind ≠ "message") : IsNoise ⟨kind, data⟩
  | unreadable {data : Frame.Data} (h : ∀ v, ¬ data.Holds v) : IsNoise ⟨"message", data⟩

/-- A feed that carries events in their order, with frames between them that carry none. -/
inductive Carries : List Event → List Frame → Prop
  | nil : Carries [] []
  | event {e : Event} {f : Frame} {es : List Event} {fs : List Frame} (frame : e.IsFrame f)
      (rest : Carries es fs) : Carries (e :: es) (f :: fs)
  | noise {f : Frame} {es : List Event} {fs : List Frame} (noise : f.IsNoise)
      (rest : Carries es fs) : Carries es (f :: fs)

/-- A problem of the text itself, and not a limit that stops the reader. -/
def Json.Problem.isSyntax : Json.Problem → Bool
  | .tooManyDigits _ => false
  | .tooDeep _ => false
  | _ => true

/-- A frame at which a subscription ends: a message whose data have no text, or have one at which
the reader runs into one of its limits. -/
inductive Frame.Stops : Frame → Prop
  | noText {data : Frame.Data} {why : Breakdown} (h : data.text = .error why) :
      Stops ⟨"message", data⟩
  | limit {data : Frame.Data} {t : RawText} {e : Json.ReadError} (h : data.text = .ok t)
      (read : Json.read t = .error e) (limit : e.problem.isSyntax = false) :
      Stops ⟨"message", data⟩

theorem Frame.arrival_message (data : Frame.Data) :
    Frame.arrival ⟨"message", data⟩ =
      match data.text with
      | .error why => .breakdown why
      | .ok t =>
        match Json.read t with
        | .ok v => .value v
        | .error ⟨.tooManyDigits count, _⟩ => .breakdown (.fault (.tooManyDigits count))
        | .error ⟨.tooDeep part, _⟩ => .breakdown (.fault (.tooDeep part))
        | .error _ => .unreadable data :=
  if_neg (fun h => h rfl)

/-- Data that hold a value bring it. -/
theorem Frame.Data.Holds.arrival {data : Frame.Data} {v : Json} (holds : data.Holds v) :
    Frame.arrival ⟨"message", data⟩ = .value v := by
  obtain ⟨t, text, read⟩ := holds
  rw [Frame.arrival_message, text]
  dsimp only
  rw [read]

/-- A frame that stops a subscription brings a breakdown. -/
theorem Frame.Stops.arrival {f : Frame} (stops : f.Stops) : ∃ why, f.arrival = .breakdown why := by
  cases stops with
  | @noText data why h =>
    refine ⟨why, ?_⟩
    rw [Frame.arrival_message, h]
  | @limit data t e h read limit =>
    obtain ⟨problem, position⟩ := e
    rw [Frame.arrival_message, h]
    dsimp only
    rw [read]
    cases problem with
    | tooManyDigits count => exact ⟨_, rfl⟩
    | tooDeep part => exact ⟨_, rfl⟩
    | _ => cases limit

/-- A frame that brings anything else stops nothing. -/
theorem Frame.not_stops {f : Frame} {a : Arrival} (h : f.arrival = a)
    (lasting : ∀ why, a ≠ .breakdown why) : ¬ f.Stops := by
  intro stops
  obtain ⟨why, broken⟩ := stops.arrival
  exact lasting why (h.symm.trans broken)

/-- What a message may bring. -/
theorem Frame.message_cases (data : Frame.Data) :
    (∃ v, data.Holds v ∧ Frame.arrival ⟨"message", data⟩ = .value v) ∨
      (Frame.Stops ⟨"message", data⟩ ∧ ∃ why, Frame.arrival ⟨"message", data⟩ = .breakdown why) ∨
      Frame.arrival ⟨"message", data⟩ = .unreadable data := by
  cases text : data.text with
  | error why =>
    have stops : Frame.Stops ⟨"message", data⟩ := .noText text
    exact .inr (.inl ⟨stops, stops.arrival⟩)
  | ok t =>
    cases read : Json.read t with
    | ok v =>
      have holds : data.Holds v := ⟨t, text, read⟩
      exact .inl ⟨v, holds, holds.arrival⟩
    | error e =>
      by_cases syntactic : e.problem.isSyntax = true
      · refine .inr (.inr ?_)
        obtain ⟨problem, position⟩ := e
        rw [Frame.arrival_message, text]
        dsimp only
        rw [read]
        cases problem <;> first | rfl | cases syntactic
      · have stops : Frame.Stops ⟨"message", data⟩ := .limit text read (by simpa using syntactic)
        exact .inr (.inl ⟨stops, stops.arrival⟩)

/-- A frame stops a subscription just if it brings a breakdown. -/
theorem Frame.stops_iff {f : Frame} : f.Stops ↔ ∃ why, f.arrival = .breakdown why := by
  constructor
  · exact Stops.arrival
  · rintro ⟨why, h⟩
    obtain ⟨kind, data⟩ := f
    by_cases message : kind = "message"
    · subst message
      rcases message_cases data with ⟨v, -, value⟩ | ⟨stops, -⟩ | unreadable
      · rw [value] at h
        cases h
      · exact stops
      · rw [unreadable] at h
        cases h
    · rw [Frame.arrival, if_pos message] at h
      cases h

/-- Bytes that are no UTF-8 stop it. -/
example : Frame.Stops ⟨"message", .bytes [0xFF]⟩ := .noText rfl

/-- Noise that does not stop a subscription is skipped, with a log line or without. -/
theorem Frame.IsNoise.arrival {f : Frame} (noise : f.IsNoise) (lasting : ¬ f.Stops) :
    f.arrival = .nothing ∨ ∃ data, f.arrival = .unreadable data := by
  cases noise with
  | other h => exact .inl (if_pos h)
  | @unreadable data h =>
    rcases message_cases data with ⟨v, holds, -⟩ | ⟨stops, -⟩ | unreadable
    · exact absurd holds (h v)
    · exact absurd stops lasting
    · exact .inr ⟨data, unreadable⟩

/-- A message that brings no value is noise. -/
theorem Frame.IsNoise.of_arrival {data : Frame.Data} {a : Arrival}
    (h : Frame.arrival ⟨"message", data⟩ = a) (valueless : ∀ v, a ≠ .value v) :
    Frame.IsNoise ⟨"message", data⟩ :=
  .unreadable fun v holds => valueless v (h.symm.trans holds.arrival)

/-- The bytes of an event are those of its text. -/
theorem Event.jsonText?_bytes (e : Event) :
    Bytes.jsonText? (Token.bytes e.text) = some (.whole e.text) := by
  have front : ∃ cs, e.text.toList = '\x7b' :: '"' :: cs := by
    unfold Event.text
    rw [Json.toList_write]
    exact ⟨_, rfl⟩
  obtain ⟨cs, front⟩ := front
  have bytes : ∃ bs, Token.bytes e.text = 0x7B :: 0x22 :: bs := by
    rw [← String.ofList_toList (s := e.text), front]
    unfold Token.bytes
    rw [String.toUTF8_eq_toByteArray, String.toByteArray_ofList, List.utf8Encode,
      List.toList_data_toByteArray]
    exact ⟨_, rfl⟩
  have text := Token.text?_bytes e.text
  obtain ⟨bs, bytes⟩ := bytes
  rw [bytes] at text ⊢
  rw [Bytes.jsonText?_of_ascii bs (by decide) (by decide), Bytes.Encoding.decode?]
  unfold Token.text? at text
  rw [text]

/-- An event that can be published is held by the data of its frames. -/
theorem Event.IsFrame.arrival {e : Event} {f : Frame} (frame : e.IsFrame f)
    (plain : e.payload.Plain) {reason : Option String} (free : e.obstacle? reason = none) :
    f.arrival = .value e.toJson := by
  have writable : e.toJson.writeFault? Json.maxDepth = none := by
    unfold obstacle? at free
    simp only [Option.or_eq_none_iff, Option.map_eq_none_iff] at free
    exact free.2.1
  have whole : (Json.object (Json.wholeFields [("action", .text e.action.name),
      ("team_id", .text e.team), ("timestamp", .text e.time.stamp),
      ("payload", e.payload)])).Plain := by
    refine .object (by simp) fun f hf => ?_
    simp only [List.mem_cons, List.not_mem_nil, or_false] at hf
    rcases hf with rfl | rfl | rfl | rfl
    · exact .text _
    · exact .text _
    · exact .text _
    · exact plain
  have read : Json.read (.whole e.text) = .ok e.toJson :=
    Json.read_write Json.readable_spaced whole writable
  cases frame with
  | text => exact Frame.Data.Holds.arrival ⟨e.text, rfl, read⟩
  | bytes =>
    refine Frame.Data.Holds.arrival ⟨e.text, ?_, read⟩
    rw [Frame.Data.text, e.jsonText?_bytes]

/-! ## Feeds -/

/-- A subscription lasts to the end of its feed just if no frame stops it. -/
theorem breakdown_receive_eq_none_iff {feed : List Frame} :
    (receive feed).breakdown = none ↔ ∀ f ∈ feed, ¬ f.Stops := by
  induction feed with
  | nil => exact ⟨fun _ => nofun, fun _ => rfl⟩
  | cons f fs ih =>
    rw [List.forall_mem_cons, Frame.stops_iff, receive]
    cases f.arrival with
    | breakdown why => simp
    | _ => simpa using ih

/-- A feed that is cut in two carries some of the events before the cut and the others behind it. -/
theorem Carries.exists_of_append {es : List Event} {before after : List Frame}
    (carries : Carries es (before ++ after)) :
    ∃ told rest, es = told ++ rest ∧ Carries told before ∧ Carries rest after := by
  induction before generalizing es with
  | nil => exact ⟨[], es, rfl, .nil, carries⟩
  | cons f before ih =>
    rw [List.cons_append] at carries
    cases carries with
    | @event e _ es _ frame others =>
      obtain ⟨told, rest, rfl, first, second⟩ := ih others
      exact ⟨e :: told, rest, rfl, .event frame first, second⟩
    | noise noise others =>
      obtain ⟨told, rest, rfl, first, second⟩ := ih others
      exact ⟨told, rest, rfl, .noise noise first, second⟩

/-- Frames that stop nothing are all listened to: the events that they carry are the values that are
handed on, with log lines between them, and listening goes on behind them. -/
theorem Carries.listen {es : List Event} {before : List Frame} (carries : Carries es before)
    (arrive : ∀ e ∈ es, ∀ f, e.IsFrame f → f.arrival = .value e.toJson)
    (lasting : ∀ f ∈ before, ¬ f.Stops) (channel : String) :
    ∃ between, (∀ after, listen channel (before ++ after) = between ++ listen channel after) ∧
      (∀ h ∈ between, (∃ v, h = .value v) ∨ ∃ n, h = .note n) ∧
      between.filterMap Happening.value? = es.map Event.toJson := by
  induction carries with
  | nil => exact ⟨[], fun _ => rfl, nofun, rfl⟩
  | @event e f es fs frame rest ih =>
    obtain ⟨between, listened, kinds, values⟩ :=
      ih (fun d hd => arrive d (List.mem_cons_of_mem e hd)) (List.forall_mem_cons.1 lasting).2
    refine ⟨.value e.toJson :: between, ?_, ?_, ?_⟩
    · intro after
      rw [List.cons_append, BoardViews.listen, arrive e (List.mem_cons_self ..) f frame,
        listened after]
      rfl
    · exact List.forall_mem_cons.2 ⟨.inl ⟨_, rfl⟩, kinds⟩
    · rw [List.map_cons, ← values]
      rfl
  | @noise f es fs noise rest ih =>
    obtain ⟨lasts, lasting⟩ := List.forall_mem_cons.1 lasting
    obtain ⟨between, listened, kinds, values⟩ := ih arrive lasting
    rcases noise.arrival lasts with arrival | ⟨data, arrival⟩
    · refine ⟨between, ?_, kinds, values⟩
      intro after
      rw [List.cons_append, BoardViews.listen, arrival, listened after]
    · refine ⟨.note (unreadableNote data) :: between, ?_, ?_, values⟩
      · intro after
        rw [List.cons_append, BoardViews.listen, arrival, listened after]
        rfl
      · exact List.forall_mem_cons.2 ⟨.inr ⟨_, rfl⟩, kinds⟩

/-- A subscription to a team's channel that hands on events as they were published: each once, in
their order, with log lines between them and nothing else. It is taken up first and given up once,
and `last` is what happens after that. -/
structure HandsOn (team : String) (feed : List Frame) (es : List Event) (last : List Happening) :
    Prop where
  values : (receive feed).values = es.map fun e =>
    .record [("action", .text e.action.name), ("team_id", .text team),
      ("timestamp", .text e.time.stamp), ("payload", e.payload)]
  breakdown : (receive feed).breakdown = last.findSome? Happening.breakdown?
  course : ∃ between, subscribed (teamChannel team) feed =
      .effect (.subscribe (teamChannel team)) :: between ++
        .effect (.unsubscribe (teamChannel team)) :: last ∧
    (∀ h ∈ between, (∃ v, h = .value v) ∨ ∃ n, h = .note n) ∧
    between.filterMap Happening.value? = (receive feed).values

/-- What is handed on is told by what is heard. -/
theorem HandsOn.of_listen {team : String} {feed : List Frame} {es : List Event}
    {between last : List Happening}
    (listened : listen (teamChannel team) feed =
      between ++ .effect (.unsubscribe (teamChannel team)) :: last)
    (kinds : ∀ h ∈ between, (∃ v, h = .value v) ∨ ∃ n, h = .note n)
    (values : between.filterMap Happening.value? = es.map Event.toJson)
    (own : ∀ e ∈ es, e.team = team) (silent : last.filterMap Happening.value? = []) :
    HandsOn team feed es last := by
  have course : subscribed (teamChannel team) feed =
      .effect (.subscribe (teamChannel team)) :: between ++
        .effect (.unsubscribe (teamChannel team)) :: last := by
    rw [subscribed, listened]
    rfl
  have told : (receive feed).values = es.map Event.toJson := by
    rw [receive_eq (teamChannel team), course, ← values]
    change (between ++ _ :: last).filterMap Happening.value? = _
    rw [List.filterMap_append, List.filterMap_cons, silent]
    exact List.append_nil _
  have faultless : between.findSome? Happening.breakdown? = none := by
    rw [List.findSome?_eq_none_iff]
    intro h hh
    rcases kinds h hh with ⟨v, rfl⟩ | ⟨n, rfl⟩ <;> rfl
  refine ⟨?_, ?_, between, course, kinds, values.trans told.symm⟩
  · rw [told]
    refine List.map_congr_left fun e he => ?_
    rw [Event.toJson, own e he]
  · rw [receive_eq (teamChannel team), course]
    change (between ++ _ :: last).findSome? Happening.breakdown? = _
    rw [List.findSome?_append, faultless]
    rfl

/-- What was published for a team is what a subscriber is handed on, whatever else comes between the
events, unless a frame stops the subscription. If none does, every event arrives once, in order,
with the payload that was given, and the channel is given up at the end of the feed and not before.
The first frame that does gives the channel up in front of the end; what the feed carries before it
has arrived, and nothing behind it does. -/
theorem published_events_arrive_unless_stopped {team : String} {calls : List Call}
    {feed : List Frame} (plain : ∀ c ∈ calls, (Json.record (c.payload.getD [])).Plain)
    (carries : Carries (published team calls) feed) :
    published team calls = (calls.filter fun c =>
      ((c.event team).obstacle? c.fault).isNone).map (Call.event team) ∧
    (subscribed (teamChannel team) feed).filterMap Happening.effect? =
      subscription (teamChannel team) ∧
    ((receive feed).breakdown = none ↔ ∀ f ∈ feed, ¬ f.Stops) ∧
    ((∀ f ∈ feed, ¬ f.Stops) → HandsOn team feed (published team calls) []) ∧
    ∀ before f after, feed = before ++ f :: after → (∀ g ∈ before, ¬ g.Stops) → f.Stops →
      ∃ told lost why, published team calls = told ++ lost ∧ Carries told before ∧
        Carries lost after ∧ HandsOn team feed told [.breakdown why] := by
  have arrive : ∀ e ∈ published team calls, ∀ f, e.IsFrame f → f.arrival = .value e.toJson := by
    intro e he f frame
    obtain ⟨c, hc, rfl, free⟩ := mem_published he
    exact frame.arrival (plain c hc) free
  have own : ∀ e ∈ published team calls, e.team = team := by
    intro e he
    obtain ⟨c, -, rfl, -⟩ := mem_published he
    rfl
  refine ⟨published_eq team calls, effects_subscribed _ feed, breakdown_receive_eq_none_iff, ?_, ?_⟩
  · intro lasting
    obtain ⟨between, listened, kinds, values⟩ := carries.listen arrive lasting (teamChannel team)
    have whole := listened []
    rw [List.append_nil] at whole
    exact .of_listen whole kinds values own rfl
  · rintro before f after rfl lasting stops
    obtain ⟨told, lost, split, first, second⟩ := carries.exists_of_append
    have mem : ∀ e ∈ told, e ∈ published team calls := by
      intro e he
      rw [split]
      exact List.mem_append_left lost he
    obtain ⟨why, stopped⟩ := stops.arrival
    have rest : Carries lost after := by
      cases second with
      | @event e _ es _ frame rest =>
        have sent : e ∈ published team calls := by simp [split]
        rw [arrive e sent f frame] at stopped
        cases stopped
      | noise _ rest => exact rest
    obtain ⟨between, listened, kinds, values⟩ :=
      first.listen (fun e he => arrive e (mem e he)) lasting (teamChannel team)
    have cut := listened (f :: after)
    rw [listen, stopped] at cut
    exact ⟨told, lost, why, split, first, rest,
      .of_listen cut kinds values (fun e he => own e (mem e he)) rfl⟩

/-- Three calls, the second of which cannot be published; in the feed, a confirmation comes before
the first event, and a text and bytes that are no JSON before the other one, which comes as
bytes. -/
theorem two_of_three_events_arrive :
    let payload : List (String × Json) :=
      [("name", .text "\x7f\"\\ é 😀"), ("sizes", .list [.int (-12), .null, .bool true])]
    let first : Call := ⟨.category, some payload, ⟨1000000⟩, none⟩
    let lost : Call := ⟨.membership, none, ⟨1000000⟩, some "redis down"⟩
    let last : Call := ⟨.viewOrder, none, ⟨2500000⟩, none⟩
    let feed : List Frame := [⟨"subscribe", .value (.int 1)⟩,
      ⟨"message", .value (.text (first.event "t").text)⟩, ⟨"message", .value (.text "nope")⟩,
      ⟨"message", .bytes [0x5B, 0x00]⟩, ⟨"message", .bytes (Token.bytes (last.event "t").text)⟩]
    published "t" [first, lost, last] = [first.event "t", last.event "t"] ∧
      (receive feed).values = [
        .record [("action", .text "UPDATE_VIEW_CATEGORY"), ("team_id", .text "t"),
          ("timestamp", .text "1970-01-01T00:00:01+00:00"), ("payload", .record payload)],
        .record [("action", .text "REORDER_VIEW_CATEGORY_VIEWS"), ("team_id", .text "t"),
          ("timestamp", .text "1970-01-01T00:00:02.500000+00:00"), ("payload", .record [])]] ∧
      (receive feed).breakdown = none := by
  intro payload first lost last feed
  have empty : (Json.record []).Plain := .object List.nodup_nil nofun
  have sizes : (Json.list [.int (-12), .null, .bool true]).Plain := by
    refine .list fun v hv => ?_
    simp only [List.mem_cons, List.not_mem_nil, or_false] at hv
    rcases hv with rfl | rfl | rfl
    · exact .int _
    · exact .null
    · exact .bool _
  have filled : (Json.record payload).Plain := by
    refine .object (by decide) fun f hf => ?_
    simp only [payload, List.mem_cons, List.not_mem_nil, or_false] at hf
    rcases hf with rfl | rfl
    · exact .text _
    · exact sizes
  have plain : ∀ c ∈ [first, lost, last], (Json.record (c.payload.getD [])).Plain := by
    intro c hc
    simp only [List.mem_cons, List.not_mem_nil, or_false] at hc
    rcases hc with rfl | rfl | rfl
    · exact filled
    · exact empty
    · exact empty
  have free : (first.event "t").obstacle? first.fault = none := by decide
  have free' : (last.event "t").obstacle? last.fault = none := by decide
  have stopped : (lost.event "t").obstacle? lost.fault = some "redis down" := by decide
  have sent : published "t" [first, lost, last] = [first.event "t", last.event "t"] := by
    simp [published_eq, free, free', stopped]
  have nope : Frame.arrival ⟨"message", .value (.text "nope")⟩ =
      .unreadable (.value (.text "nope")) :=
    rfl
  have wide : Frame.arrival ⟨"message", .bytes [0x5B, 0x00]⟩ = .unreadable (.bytes [0x5B, 0x00]) :=
    rfl
  have carries : Carries (published "t" [first, lost, last]) feed := by
    rw [sent]
    exact .noise (.other (by decide)) (.event .text (.noise (.of_arrival nope nofun)
      (.noise (.of_arrival wide nofun) (.event .bytes .nil))))
  have lasting : ∀ f ∈ feed, ¬ f.Stops := by
    simp only [feed, List.forall_mem_cons]
    exact ⟨Frame.not_stops rfl nofun,
      Frame.not_stops (Event.IsFrame.text.arrival filled free) nofun, Frame.not_stops nope nofun,
      Frame.not_stops wide nofun,
      Frame.not_stops (Event.IsFrame.bytes.arrival empty free') nofun, nofun⟩
  have arrived := (published_events_arrive_unless_stopped plain carries).2.2.2.1 lasting
  have stamp : first.time.stamp = "1970-01-01T00:00:01+00:00" := by decide
  have stamp' : last.time.stamp = "1970-01-01T00:00:02.500000+00:00" := by decide
  refine ⟨sent, ?_, arrived.breakdown⟩
  rw [arrived.values, sent, ← stamp, ← stamp']
  rfl

/-- Opening brackets stop the reader where they are deeper than it goes, before it can tell whether
they are JSON. -/
theorem Json.readValue_brackets (rest : List Char) {depth fuel : Nat} (h : 2 * depth < fuel) :
    readValue fuel depth (List.replicate (depth + 1) '[' ++ rest) =
      .error ⟨.tooDeep "array", '[' :: rest⟩ := by
  induction depth generalizing fuel with
  | zero =>
    obtain ⟨fuel, rfl⟩ : ∃ k, fuel = k + 1 := ⟨fuel - 1, by omega⟩
    rfl
  | succ depth ih =>
    obtain ⟨fuel, rfl⟩ : ∃ k, fuel = k + 2 := ⟨fuel - 2, by omega⟩
    have inner : readValue fuel depth (List.replicate (depth + 1) '[' ++ rest) = _ := ih (by omega)
    rw [List.replicate_succ, List.cons_append] at inner ⊢
    rw [List.replicate_succ, List.cons_append, readValue, skipGap_cons (by decide),
      if_neg (Nat.succ_ne_zero depth), Nat.add_sub_cancel]
    split
    · next h => exact absurd (List.cons.inj h).1 (by decide)
    · rw [readItems, inner]
      rfl

/-- A text of more brackets than the reader goes deep is stopped at. -/
theorem Json.read_brackets {n : Nat} (deep : maxDepth < n) :
    ∃ position, read (.whole (String.ofList (List.replicate n '['))) =
      .error ⟨.tooDeep "array", position⟩ := by
  obtain ⟨more, rfl⟩ : ∃ more, n = maxDepth + 1 + more := ⟨n - (maxDepth + 1), by omega⟩
  have front : List.replicate (maxDepth + 1 + more) '[' =
      '[' :: List.replicate (maxDepth + more) '[' := by
    rw [Nat.add_right_comm, List.replicate_succ]
  have stop : readAll (List.replicate (maxDepth + 1 + more) '[') =
      .error ⟨.tooDeep "array", '[' :: List.replicate more '['⟩ := by
    have enough : 2 * maxDepth < 2 * (List.replicate (maxDepth + 1 + more) '[').length + 2 := by
      rw [List.length_replicate]
      omega
    have value := readValue_brackets (List.replicate more '[') enough
    rw [List.replicate_append_replicate, front] at value
    rw [front, readAll, skipGap_cons (by decide), value]
    · rfl
    · intro cs h
      exact absurd (List.cons.inj h).1 (by decide)
  rw [read, String.toList_ofList, stop]
  exact ⟨_, rfl⟩

/-- Such a text ends a subscription. -/
theorem Frame.arrival_brackets {n : Nat} (deep : Json.maxDepth < n) :
    Frame.arrival ⟨"message", .value (.text (String.ofList (List.replicate n '[')))⟩ =
      .breakdown (.fault (.tooDeep "array")) := by
  obtain ⟨position, read⟩ := Json.read_brackets deep
  rw [arrival_message, Data.text]
  dsimp only
  rw [read]

/-- A message of five thousand opening brackets is no JSON, but the subscription ends at it, and the
event that was published after it is never handed on. -/
theorem brackets_end_subscription :
    let brackets : RawText := String.ofList (List.replicate 5000 '[')
    let call : Call := ⟨.category, none, ⟨1000000⟩, none⟩
    let feed : List Frame := [⟨"message", .value (.text brackets)⟩,
      ⟨"message", .value (.text (call.event "t").text)⟩]
    published "t" [call] = [call.event "t"] ∧ Carries (published "t" [call]) feed ∧
      (receive feed).values = [] ∧
      (receive feed).breakdown = some (.fault (.tooDeep "array")) := by
  intro brackets call feed
  have free : (call.event "t").obstacle? call.fault = none := by decide
  have sent : published "t" [call] = [call.event "t"] := by simp [published_eq, free]
  have stop : Frame.arrival ⟨"message", .value (.text brackets)⟩ =
      .breakdown (.fault (.tooDeep "array")) :=
    Frame.arrival_brackets (by decide)
  have noise : Frame.IsNoise ⟨"message", .value (.text brackets)⟩ :=
    .of_arrival stop nofun
  refine ⟨sent, ?_, ?_, ?_⟩
  · rw [sent]
    exact .noise noise (.event .text .nil)
  · rw [receive, stop]
  · rw [receive, stop]

end BoardViews
