import BoardViews.Proofs.Admission
import BoardViews.Proofs.Identity
import BoardViews.Proofs.Notice

/-
  Sockets and listings let in the same people: `websocket_board_events` and `get_view_categories`,
  for the same token and the same board. Both ask for the user whom a token speaks for and then
  for the access of this user to the board, each in its own way: the listing is routed, read and
  answered by the server, the socket makes the checks in its handshake. `handshake_serve_cases` is
  what both come to.

  A listing that is let in can still crash, on a stored time or sort order that is no integer. The
  service puts no such cell there, and where no one else did (`Category.IsTyped`), the listing is
  answered 200.

  A session subscribes only at its start, and boards keep their teams; so the channel of an
  accepted socket stays the one that the board's events go to.
-/

namespace BoardViews

/-- Whether the columns of a category that are meant for integers hold integers. -/
structure Category.IsTyped (c : Category) : Prop where
  createAt : ∃ n, c.createAt = .int n
  updateAt : ∃ n, c.updateAt = .int n
  deleteAt : ∃ n, c.deleteAt = .int n
  sortOrder : ∃ n, c.sortOrder = .int n

theorem Store.typed_listing {s : Store} {b : String} (typed : ∀ c ∈ s.categories.rows, c.IsTyped) :
    ∀ e ∈ s.listing b, e.1.IsTyped := by
  intro e he
  rw [s.listing_eq b] at he
  obtain ⟨c, hc, rfl⟩ := List.mem_map.1 he
  exact typed c (Store.mem_liveCategories.1 hc).1

theorem Request.run_list (env : Env) (s : Store) (user board : String) :
    (⟨some user, some board, .list⟩ : Request).run env s =
      match s.access (some user) (some board) with
      | .error why => .refused s why
      | .ok a => .done s (.listing (s.listing a.board.id)) := by
  unfold run attempt Store.admitted
  cases s.access (some user) (some board) with
  | error why => rfl
  | ok a => rfl

namespace Http

/-! ## Listings that can be sent -/

theorem sentFields_of_typed {c : Category} (typed : c.IsTyped) :
    sentFields c = .ok c.fields := by
  obtain ⟨⟨n, hn⟩, ⟨m, hm⟩, ⟨k, hk⟩, ⟨l, hl⟩⟩ := typed
  unfold sentFields
  rw [hn, hm, hk, hl]
  simp only [Cell.toInteger, ← hn, ← hm, ← hk, ← hl]

theorem exists_mapM_listed {es : List (Category × List Membership)}
    (typed : ∀ e ∈ es, e.1.IsTyped) : ∃ entries, es.mapM listed = .ok entries := by
  induction es with
  | nil => exact ⟨[], rfl⟩
  | cons e es ih =>
    obtain ⟨first, others⟩ := List.forall_mem_cons.1 typed
    obtain ⟨entries, rest⟩ := ih others
    obtain ⟨entry, sent⟩ : ∃ entry, listed e = .ok entry := by
      unfold listed
      rw [sentFields_of_typed first]
      exact ⟨_, rfl⟩
    refine ⟨entry :: entries, ?_⟩
    rw [List.mapM_cons, sent, rest]
    rfl

section

variable {es : List (Category × List Membership)}

theorem response_of_sent {entries : List Json} (sent : es.mapM listed = .ok entries) :
    Deed.response .list (.ok (.listing es)) =
      { status := 200, content := .json (.list entries) } := by
  unfold Deed.response content
  dsimp only
  rw [sent]
  rfl

theorem response_of_unfit {cs : List Complaint} (unfit : es.mapM listed = .error cs) :
    Deed.response .list (.ok (.listing es)) = .crashed (.unfit cs) := by
  unfold Deed.response content
  dsimp only
  rw [unfit]

/-- A listing that was let in is shown, or it crashes on what it would show. -/
theorem response_listing (es : List (Category × List Membership)) :
    (Deed.response .list (.ok (.listing es))).status = 200 ∨
      ∃ cs, (Deed.response .list (.ok (.listing es))).crash = some (.unfit cs) := by
  cases sent : es.mapM listed with
  | ok entries => exact .inl (by rw [response_of_sent sent])
  | error cs => exact .inr ⟨cs, by rw [response_of_unfit sent]; rfl⟩

theorem status_response_listing (typed : ∀ e ∈ es, e.1.IsTyped) :
    (Deed.response .list (.ok (.listing es))).status = 200 := by
  obtain ⟨entries, sent⟩ := exists_mapM_listed typed
  rw [response_of_sent sent]

end

/-! ## Serving a listing -/

/-- A request for the listing of a board. -/
def Request.Lists (r : Request) (board : String) : Prop :=
  destination r.method r.path = .call (.onBoard board .list)

theorem lists_listingPath_iff {r : Request} {b : String} (get : r.method = "GET")
    (place : r.path = listingPath b) : r.Lists b ↔ IsSegment b := by
  unfold Request.Lists
  rw [get, place]
  exact ⟨isSegment_of_destination, destination_listingPath⟩

/-- The response to a request for a listing: to someone who is not let in, or to someone who is. -/
def listingResponse (env : Env) (s : Store) (b : String) (r : Request) : Response :=
  match r.sender env s with
  | .error why => why.response
  | .ok u =>
    match s.access (some u.id) (some b) with
    | .error why => .detail why.kind.status why.message
    | .ok a => Deed.response .list (.ok (.listing (s.listing a.board.id)))

/-- A response that tells nothing of a result, and not of one that could not be sent either. -/
structure Response.IsRefusal (response : Response) : Prop where
  status : response.status ≠ 200
  crash : ∀ cs, response.crash ≠ some (.unfit cs)

theorem isRefusal_bearer (why : BearerFault) : (Rejection.crash (.bearer why)).response.IsRefusal :=
  ⟨nofun, nofun⟩

theorem isRefusal_badCredentials : Rejection.badCredentials.response.IsRefusal := ⟨nofun, nofun⟩

theorem isRefusal_refusal (why : Refusal) :
    (Response.detail why.kind.status why.message).IsRefusal := by
  refine ⟨?_, nofun⟩
  show why.kind.status ≠ 200
  cases why.kind <;> decide

theorem Request.Lists.serve {env : Env} {s : Store} {r : Request} {b : String} (lists : r.Lists b) :
    r.serve env s = ⟨(listingResponse env s b r).forOrigin env.settings r, s, []⟩ := by
  have served : Deed.list.serve env s r b = ⟨listingResponse env s b r, s, []⟩ := by
    unfold listingResponse Deed.serve Deed.request
    cases sent : r.sender env s with
    | error why => rfl
    | ok u =>
      show (let o := (⟨some u.id, some b, .list⟩ : BoardViews.Request).run env s
        (⟨Deed.response .list o.result, o.store, o.notes⟩ : Exchange)) = _
      rw [Request.run_list]
      dsimp only
      cases s.access (some u.id) (some b) with
      | error why => rfl
      | ok a => rfl
  rw [Request.serve_of_deed env s lists, served]

end Http

/-! ## Events of a board -/

/-- Whatever a visit to a board announces goes to the team of the board. -/
theorem Visit.team {v : Visit} {s : Store} {b : Board} (found : s.board? v.request.board = some b) :
    ∀ e ∈ Note.events (v.outcome s).notes, e.team = b.teamId := by
  intro e he
  cases h : (v.outcome s).result with
  | error f =>
    obtain ⟨-, silent⟩ := Request.atomic_run v.env s v.request f h
    have none : e ∈ ([] : List Event) := silent ▸ he
    cases none
  | ok reply =>
    obtain ⟨a, events, granted, step, announced⟩ := Request.run_ok h
    have same : a.board = b := Option.some.inj (granted.board.symm.trans found)
    have mem : e ∈ events := List.mem_of_mem_filter (announced ▸ he)
    exact same ▸ step.team e mem

theorem Store.boards_after (s : Store) (run : List Visit) : (s.after run).boards = s.boards := by
  induction run generalizing s with
  | nil => rfl
  | cons v run ih => exact (ih _).trans (v.framed s).boards

theorem Store.board?_after (s : Store) (run : List Visit) (id : Option String) :
    (s.after run).board? id = s.board? id := by
  unfold board?
  rw [s.boards_after run]

namespace Socket

/-! ## Subscriptions -/

/-- The channels that are subscribed among effects. -/
def subscriptions (es : List Effect) : List String :=
  es.filterMap fun | .subscribe channel => some channel | _ => none

@[simp] theorem subscriptions_append (es fs : List Effect) :
    subscriptions (es ++ fs) = subscriptions es ++ subscriptions fs :=
  List.filterMap_append

theorem Session.subscriptions_forward (x : Session) (v : Json) :
    subscriptions (x.forward v).2.effects = [] := by
  unfold forward
  split <;> rfl

theorem Session.subscriptions_takeFrame (x : Session) (f : Frame) :
    subscriptions (x.takeFrame f).2.effects = [] := by
  unfold takeFrame
  split
  · split
    · exact x.subscriptions_forward _
    · rfl
    · rfl
    · rfl
  · rfl

theorem Session.subscriptions_takeTimer (x : Session) :
    subscriptions x.takeTimer.2.effects = [] := by
  unfold takeTimer
  split
  · split <;> rfl
  · rfl

/-- No step of a session subscribes. -/
theorem Session.subscriptions_step (x : Session) (e : Stimulus) :
    subscriptions (x.step e).2.effects = [] := by
  cases e with
  | frame f => exact x.subscriptions_takeFrame f
  | timer => exact x.subscriptions_takeTimer
  | feedEnds | clientSends | clientLeaves | wire => rfl

theorem Session.subscriptions_run (x : Session) (script : List Stimulus) :
    subscriptions ((x.run script).flatMap (·.1.effects)) = [] := by
  induction script generalizing x with
  | nil => rfl
  | cons e script ih =>
    show subscriptions ((x.step e).2.effects ++ _) = []
    rw [subscriptions_append, x.subscriptions_step e, List.nil_append]
    exact ih _

/-- A session subscribes what its handshake did. -/
theorem Handshake.subscriptions_record (h : Handshake) (wire : Wire) (script : List Stimulus) :
    subscriptions (h.record wire script).effects = subscriptions (h.begin wire).2.effects := by
  have released (trace : Trace) :
      subscriptions (if trace.effects.isEmpty then [] else release) = [] := by
    split <;> rfl
  unfold record
  dsimp only
  rw [List.flatMap_cons, subscriptions_append, subscriptions_append, Session.subscriptions_run,
    released, List.append_nil, List.append_nil]

theorem Handshake.subscriptions_of_accepted (user : User) (b : Board) (script : List Stimulus) :
    subscriptions ((accepted user b).record .works script).effects = [teamChannel b.teamId] := by
  rw [subscriptions_record]
  rfl

theorem Handshake.subscriptions_of_refused {h : Handshake} (refused : h.signal? ≠ some .accept)
    (wire : Wire) (script : List Stimulus) : subscriptions (h.record wire script).effects = [] := by
  rw [subscriptions_record]
  unfold begin
  split
  · rfl
  · rfl
  · split
    · exact absurd rfl refused
    · rfl

/-! ## The handshake -/

theorem handshake_eq {env : Env} {s : Store} {b token query : String}
    (handedOver : Http.Query.value? query "token" = some token) :
    handshake env s (path b) query =
      if Http.IsSegment b then
        match s.bearer env.settings env.now token with
        | .error why => .noBearer why
        | .ok none => .badToken
        | .ok (some user) =>
          match s.access (some user.id) (some b) with
          | .ok a => .accepted user a.board
          | .error _ => .denied
      else .unknownPath := by
  unfold handshake
  rewrite [board?_path, handedOver]
  by_cases h : Http.IsSegment b
  · rewrite [if_pos h, if_pos h]
    rfl
  · rewrite [if_neg h, if_neg h]
    rfl

/-- A client is accepted and let in, or neither. -/
theorem handshake_cases {env : Env} {s : Store} {b token query : String} {r : Http.Request}
    (handedOver : Http.Query.value? query "token" = some token)
    (bearer : r.credentials? = some token) (segment : Http.IsSegment b) :
    (∃ (u : User) (a : Access), s.board? (some b) = some a.board ∧
        handshake env s (path b) query = .accepted u a.board ∧
        Http.listingResponse env s b r =
          Http.Deed.response .list (.ok (.listing (s.listing a.board.id)))) ∨
      (handshake env s (path b) query).signal? ≠ some .accept ∧
        (Http.listingResponse env s b r).IsRefusal := by
  unfold Http.listingResponse Http.Request.sender
  rw [handshake_eq handedOver, if_pos segment, bearer]
  dsimp only
  cases s.bearer env.settings env.now token with
  | error why => exact .inr ⟨nofun, Http.isRefusal_bearer why⟩
  | ok speaker =>
    cases speaker with
    | none => exact .inr ⟨nofun, Http.isRefusal_badCredentials⟩
    | some u =>
      dsimp only
      cases granted : s.access (some u.id) (some b) with
      | error why => exact .inr ⟨nofun, Http.isRefusal_refusal why⟩
      | ok a =>
        have found := (Store.access_ok (r := ⟨some u.id, some b, .list⟩) granted).board
        exact .inl ⟨u, a, found, rfl, rfl⟩

section

variable {env : Env} {s : Store} {b token query : String} {r : Http.Request}

/-- The same for a request as it is served, on any board that can or cannot be named in a path. -/
theorem handshake_serve_cases (handedOver : Http.Query.value? query "token" = some token)
    (get : r.method = "GET") (place : r.path = Http.listingPath b)
    (bearer : r.credentials? = some token) :
    (∃ (u : User) (a : Access), s.board? (some b) = some a.board ∧
        handshake env s (path b) query = .accepted u a.board ∧ r.Lists b ∧
        (r.serve env s).response =
          (Http.Deed.response .list (.ok (.listing (s.listing a.board.id)))).forOrigin
            env.settings r) ∨
      (handshake env s (path b) query).signal? ≠ some .accept ∧
        (r.Lists b → (r.serve env s).response.IsRefusal) := by
  have lists_iff := Http.lists_listingPath_iff get place
  by_cases segment : Http.IsSegment b
  · have lists := lists_iff.2 segment
    rw [lists.serve]
    rcases handshake_cases handedOver bearer segment with
      ⟨u, a, found, accepted, shown⟩ | ⟨refused, refusal⟩
    · exact .inl ⟨u, a, found, accepted, lists, by rw [shown]⟩
    · refine .inr ⟨refused, fun _ => ⟨?_, ?_⟩⟩
      · simpa using refusal.status
      · simpa using refusal.crash
  · refine .inr ⟨?_, fun lists => absurd (lists_iff.1 lists) segment⟩
    rw [handshake_eq handedOver, if_neg segment]
    nofun

/-- A client that comes to the socket of a board with a token is accepted just if it would be let in
to the listing of the board with the same token: then the listing is answered 200, unless it crashes
on a stored cell that should have been an integer. An accepted client is subscribed to the one
channel that all later events of the board go to, and any other client to none. -/
theorem socket_and_listing_let_in_the_same (env : Env) (s : Store)
    (handedOver : Http.Query.value? query "token" = some token)
    (get : r.method = "GET") (place : r.path = Http.listingPath b)
    (bearer : r.credentials? = some token) :
    let h := handshake env s (path b) query
    let response := (r.serve env s).response
    (h.signal? = some .accept ↔
        r.Lists b ∧ (response.status = 200 ∨ ∃ cs, response.crash = some (.unfit cs))) ∧
      ((∀ c ∈ s.categories.rows, c.IsTyped) →
        (h.signal? = some .accept ↔ r.Lists b ∧ response.status = 200)) ∧
      (h.signal? = some .accept →
        ∃ channel, (∀ script, subscriptions (h.record .works script).effects = [channel]) ∧
          ∀ (run : List Visit) (v : Visit), v.request.board = some b →
            ∀ e ∈ Note.events (v.outcome (s.after run)).notes, e.channel = channel) ∧
      (h.signal? ≠ some .accept →
        ∀ wire script, subscriptions (h.record wire script).effects = []) := by
  intro h response
  rcases handshake_serve_cases handedOver get place bearer with
    ⟨u, a, found, accepted, lists, shown⟩ | ⟨refused, refusal⟩
  · have signal : h.signal? = some .accept := congrArg Handshake.signal? accepted
    have shown : response =
      (Http.Deed.response .list (.ok (.listing (s.listing a.board.id)))).forOrigin
        env.settings r := shown
    refine ⟨iff_of_true signal ⟨lists, ?_⟩, fun typed => iff_of_true signal ⟨lists, ?_⟩,
      fun _ => ⟨teamChannel a.board.teamId, fun script => ?_, fun run v visits e he => ?_⟩,
      fun refused => absurd signal refused⟩
    · rw [shown, Http.Response.forOrigin_status, Http.Response.forOrigin_crash]
      exact Http.response_listing _
    · rw [shown, Http.Response.forOrigin_status]
      exact Http.status_response_listing (Store.typed_listing typed)
    · show subscriptions ((handshake env s (path b) query).record .works script).effects = _
      rw [accepted]
      exact Handshake.subscriptions_of_accepted u a.board script
    · have still : (s.after run).board? v.request.board = some a.board := by
        rw [visits, s.board?_after run]
        exact found
      exact congrArg teamChannel (Visit.team still e he)
  · have refusal : r.Lists b → response.IsRefusal := refusal
    refine ⟨iff_of_false refused ?_, fun _ => iff_of_false refused ?_,
      fun accepted => absurd accepted refused, fun _ => Handshake.subscriptions_of_refused refused⟩
    · rintro ⟨lists, shown | ⟨cs, crashed⟩⟩
      · exact (refusal lists).status shown
      · exact (refusal lists).crash cs crashed
    · rintro ⟨lists, shown⟩
      exact (refusal lists).status shown

/-- A board, a member of it, and one category on it with some creation time. -/
def joined (createAt : Cell) : Store :=
  { users := .ofList [⟨"u", "u", .int 1, .int 1⟩]
    boards := .ofList [⟨"b", "t", "", "w", .int 1, .int 1, .int 0⟩]
    members := .ofList [⟨"b", "u", .int 1, .int 1⟩]
    categories := .ofList
      [⟨"c", "c", "w", "b", createAt, .int 1, .int 0, false, .int 0, "custom"⟩] }

theorem value?_sample :
    Http.Query.value? (tokenQuery Token.sample) "token" = some Token.sample := by
  decide +kernel

theorem bearer_joined (createAt : Cell) :
    (joined createAt).bearer Env.sample.settings Env.sample.now Token.sample =
      .ok (some ⟨"u", "u", .int 1, .int 1⟩) :=
  Store.bearer_eq_ok_iff.2 ⟨List.mem_singleton.2 rfl, Token.subject_sample⟩

theorem accepted_joined (createAt : Cell) :
    (handshake .sample (joined createAt) (path "b") (tokenQuery Token.sample)).signal? =
      some .accept := by
  rw [handshake_eq value?_sample, if_pos (by decide), bearer_joined]
  rfl

/-- A member comes to a board with a category: the socket is accepted, the listing is answered 200,
and whatever the board is told of from then on arrives on the channel of its team. -/
theorem member_is_let_in_on_both_ways :
    let s := joined (.int 1)
    let r := Http.Request.sample "GET" "/api/v1/boards/b/view-categories"
    let h := handshake .sample s (path "b") (tokenQuery Token.sample)
    h.signal? = some .accept ∧ r.Lists "b" ∧ (r.serve .sample s).response.status = 200 ∧
      ∃ channel, (∀ script, subscriptions (h.record .works script).effects = [channel]) ∧
        ∀ (run : List Visit) (v : Visit), v.request.board = some "b" →
          ∀ e ∈ Note.events (v.outcome (s.after run)).notes, e.channel = channel := by
  intro s r h
  obtain ⟨-, agree, channel, -⟩ := socket_and_listing_let_in_the_same .sample s
    (b := "b") (r := r) value?_sample rfl rfl (Http.Request.credentials?_sample _ _)
  have typed : ∀ c ∈ s.categories.rows, c.IsTyped := by
    intro c hc
    obtain rfl := List.mem_singleton.1 hc
    exact ⟨⟨_, rfl⟩, ⟨_, rfl⟩, ⟨_, rfl⟩, ⟨_, rfl⟩⟩
  obtain ⟨lists, shown⟩ := (agree typed).1 (accepted_joined _)
  exact ⟨accepted_joined _, lists, shown, channel (accepted_joined _)⟩

theorem listing_joined (createAt : Cell) :
    (joined createAt).listing "b" =
      [(⟨"c", "c", "w", "b", createAt, .int 1, .int 0, false, .int 0, "custom"⟩, [])] := by
  have one : (joined createAt).liveCategories "b" = (joined createAt).categories.rows :=
    List.mergeSort_singleton _
  rw [Store.listing_eq, one]
  exact congrArg (fun ms => [(_, ms)]) List.mergeSort_nil

/-- Where a fraction was stored for a creation time, the member is accepted at the socket, but the
listing crashes on it. -/
theorem fraction_for_a_time_is_not_listed :
    ¬ ∀ (env : Env) (s : Store) (b token query : String) (r : Http.Request),
      Http.Query.value? query "token" = some token → r.method = "GET" →
        r.path = Http.listingPath b → r.credentials? = some token →
          ((handshake env s (path b) query).signal? = some .accept ↔
            r.Lists b ∧ (r.serve env s).response.status = 200) := by
  intro all
  let half : Cell := .real (.ofRatio false 3 2)
  have bearer := Http.Request.credentials?_sample "GET" (Http.listingPath "b")
  obtain ⟨lists, shown⟩ := (all .sample (joined half) "b" _ _ _ value?_sample rfl rfl bearer).1
    (accepted_joined half)
  rcases handshake_serve_cases (s := joined half) value?_sample rfl rfl bearer with
    ⟨u, a, found, -, -, served⟩ | ⟨refused, -⟩
  · have board : a.board.id = "b" :=
      (Option.some.inj (Store.board?_eq_some_iff.1 found).2.1).symm
    rw [served, board, Http.Response.forOrigin_status, listing_joined] at shown
    cases shown
  · exact refused (accepted_joined half)

end

end Socket

end BoardViews
