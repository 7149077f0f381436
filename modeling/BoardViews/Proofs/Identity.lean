import BoardViews.Proofs.Paths
import BoardViews.Proofs.Results
import BoardViews.Proofs.Rows
import BoardViews.Proofs.Run

/-
  Whom a request comes from (`get_current_user`). It comes from a stored user if it bears a token
  that holds and names the user as its subject. Of a request that comes from nobody the service
  never hears: it is answered by the server alone, which has looked at the request and at the
  users by then and at nothing else of the store.

  `Http.Asks` is what a request comes to that does reach the service, and `Request.serve_cases`
  tells the two kinds apart; theorems about what is served split on it.
-/

namespace BoardViews

/-! ## Tokens -/

/-- A token that speaks for a stored user: it holds, and the user is its subject. -/
structure Store.HasBearer (s : Store) (settings : Settings) (now : Instant) (token : String)
    (u : User) : Prop where
  mem : u ∈ s.users.rows
  subject : Token.subject settings now token = .ok (some (.whole u.id))

theorem Store.bearer_eq_ok_iff {s : Store} {settings : Settings} {now : Instant} {token : String}
    {u : User} :
    s.bearer settings now token = .ok (some u) ↔ s.HasBearer settings now token u := by
  unfold bearer
  constructor
  · intro h
    split at h
    · cases h
    · cases h
    · next subject hs =>
      split at h
      · cases h
      · cases subject with
        | broken points => cases h
        | whole id =>
          obtain ⟨mem, rfl⟩ := Table.find?_eq_some_iff.1 (Except.ok.inj h)
          exact ⟨mem, hs⟩
  · rintro ⟨mem, subject⟩
    have found : s.users.find? u.id = some u := Table.find?_eq_some_iff.2 ⟨mem, rfl⟩
    rw [subject]
    exact congrArg Except.ok found

/-- A token for the user `u` that was made in the first second of 1970 and holds for a week. -/
def Token.sample : String :=
  "eyJhbGciOiJIUzI1NiIsInR5cCI6IkpXVCJ9.eyJzdWIiOiJ1IiwiZXhwIjo2MDQ4MDF9." ++
    "Za9ujgnVXKl-3eCDQ7MQtzC--3uVjJC6UiWiVpJpTGI"

theorem Token.subject_sample :
    subject Env.sample.settings Env.sample.now sample = .ok (some (.whole "u")) := by
  have named : (subject Env.sample.settings Env.sample.now sample).toOption =
      some (some (.whole "u")) := by decide +kernel
  cases h : subject Env.sample.settings Env.sample.now sample with
  | ok name =>
    rw [h] at named
    exact congrArg Except.ok (Option.some.inj named)
  | error why =>
    rw [h] at named
    cases named

/-- Whom a token speaks for is a matter of the users alone. -/
theorem Store.bearer_congr {s t : Store} (users : t.users = s.users) (settings : Settings)
    (now : Instant) (token : String) :
    t.bearer settings now token = s.bearer settings now token := by
  unfold bearer
  rw [users]

namespace Http

/-! ## Senders -/

/-- A request that bears a token which speaks for a stored user. -/
def Request.IsFrom (env : Env) (s : Store) (r : Request) (u : User) : Prop :=
  ∃ token, r.credentials? = some token ∧ s.HasBearer env.settings env.now token u

/-- A request with the sample token and without a body. -/
def Request.sample (method path : String) : Request :=
  ⟨method, path, [("Authorization", "Bearer " ++ Token.sample)], ""⟩

theorem Request.credentials?_sample (method path : String) :
    (sample method path).credentials? = some Token.sample := by
  have plain : (sample "" "").credentials? = some Token.sample := by decide +kernel
  exact plain

section

variable {env : Env} {s t : Store} {r : Request} {u : User} {d : Deed} {board : String}
  {q : BoardViews.Request}

theorem Request.sender_eq_ok_iff : r.sender env s = .ok u ↔ r.IsFrom env s u := by
  unfold sender IsFrom
  cases r.credentials? with
  | none => simp
  | some token =>
    simp only [Option.some.injEq, exists_eq_left', ← Store.bearer_eq_ok_iff]
    cases s.bearer env.settings env.now token with
    | error why => simp
    | ok found => cases found <;> simp

theorem Request.sender_congr (users : t.users = s.users) : r.sender env t = r.sender env s := by
  unfold sender
  simp only [Store.bearer_congr users]

/-! ## Requests that reach the service -/

/-- What the service is asked for by a request: the deed of its route, which stands for a command
with the body that was read, on behalf of the user whom the request comes from. -/
inductive Asks (env : Env) (s : Store) (r : Request) : Deed → BoardViews.Request → Prop
  | intro {board : String} {d : Deed} {body : Option Json} {u : User} {command : Command}
      (routed : destination r.method r.path = .call (.onBoard board d))
      (sent : r.IsFrom env s u) (read : d.readBody r = .ok body)
      (stands : d.command board body = .ok command) :
      Asks env s r d ⟨some u.id, some board, command⟩

/-- A request reaches the service if it passes all that is looked at before. -/
theorem Deed.request_eq_ok_iff :
    d.request env s r board = .ok q ↔ ∃ body u command, d.readBody r = .ok body ∧
      r.IsFrom env s u ∧ d.command board body = .ok command ∧
        q = ⟨some u.id, some board, command⟩ := by
  unfold request
  simp only [bind_eq_ok_iff, Request.sender_eq_ok_iff, Except.ok.injEq]
  constructor
  · rintro ⟨body, read, u, sent, command, stands, rfl⟩
    exact ⟨body, u, command, read, sent, stands, rfl⟩
  · rintro ⟨body, u, command, read, sent, stands, rfl⟩
    exact ⟨body, read, u, sent, command, stands, rfl⟩

/-- What the service is asked for is a matter of the request and of the users. -/
theorem Deed.request_congr (users : t.users = s.users) :
    d.request env t r board = d.request env s r board := by
  unfold request
  rw [Request.sender_congr users]

theorem Asks.sender (h : Asks env s r d q) : ∃ u, r.IsFrom env s u := by
  obtain ⟨-, sent, -, -⟩ := h
  exact ⟨_, sent⟩

/-! ## Routes -/

theorem method_of_mem_deeds {parts : List String} {route : String × Deed}
    (h : route ∈ deeds parts) : route.1 ∈ ["GET", "POST", "PUT", "DELETE"] := by
  unfold deeds at h
  grind

theorem method_of_mem_calls {parts : List String} {route : String × Call}
    (h : route ∈ calls parts) : route.1 ∈ ["GET", "POST", "PUT", "DELETE"] := by
  unfold calls at h
  split at h
  · split at h
    · obtain rfl := List.mem_singleton.1 h
      decide
    · cases h
  · obtain ⟨inner, mem, rfl⟩ := List.mem_map.1 h
    exact method_of_mem_deeds mem
  · cases h

/-- Whatever is called is called with one of four methods. -/
theorem method_of_destination {method path : String} {c : Call}
    (h : destination method path = .call c) : method ∈ ["GET", "POST", "PUT", "DELETE"] := by
  obtain ⟨parts, -, mem⟩ := exists_segments_of_mem_routes (mem_routes_of_destination h)
  exact method_of_mem_calls mem

/-- Only a question that a browser asks on its own is answered beforehand. -/
theorem Request.preflight?_eq_none (settings : Settings) (h : r.method ≠ "OPTIONS") :
    r.preflight? settings = none := by
  unfold preflight?
  cases r.header? "origin" with
  | none => rfl
  | some origin =>
    cases r.header? "access-control-request-method" with
    | none => rfl
    | some method => exact if_neg fun asks => h asks.2

theorem Request.preflight?_of_call {c : Call} (settings : Settings)
    (routed : destination r.method r.path = .call c) : r.preflight? settings = none := by
  refine preflight?_eq_none settings fun asks => ?_
  have four := method_of_destination routed
  rw [asks] at four
  exact absurd four (by decide)

/-! ## What is served -/

@[simp] theorem Response.forOrigin_status (response : Response) (settings : Settings)
    (r : Request) : (response.forOrigin settings r).status = response.status := by
  unfold forOrigin
  split <;> rfl

@[simp] theorem Response.forOrigin_content (response : Response) (settings : Settings)
    (r : Request) : (response.forOrigin settings r).content = response.content := by
  unfold forOrigin
  split <;> rfl

@[simp] theorem Response.forOrigin_crash (response : Response) (settings : Settings)
    (r : Request) : (response.forOrigin settings r).crash = response.crash := by
  unfold forOrigin
  split <;> rfl

/-- Where a deed on a board is asked for, what is served is what comes of the deed. -/
theorem Request.serve_of_deed (env : Env) (s : Store)
    (routed : destination r.method r.path = .call (.onBoard board d)) :
    r.serve env s = { d.serve env s r board with
      response := (d.serve env s r board).response.forOrigin env.settings r } := by
  unfold serve
  rw [Request.preflight?_of_call env.settings routed]
  unfold answer
  rw [routed]

/-- A request that reaches the service is answered what the service replies, and leaves behind what
the service leaves. -/
theorem Request.serve_of_asks (h : Asks env s r d q) :
    r.serve env s = ⟨(d.response (q.run env s).result).forOrigin env.settings r,
      (q.run env s).store, (q.run env s).notes⟩ := by
  obtain ⟨routed, sent, read, stands⟩ := h
  have request := Deed.request_eq_ok_iff.2 ⟨_, _, _, read, sent, stands, rfl⟩
  rw [serve_of_deed env s routed]
  unfold Deed.serve
  rw [request]

/-- Where something is asked of a board, the request reaches the service or is rejected. -/
theorem Request.serve_of_routed (env : Env) (s : Store)
    (routed : destination r.method r.path = .call (.onBoard board d)) :
    (∃ q, Asks env s r d q) ∨
      ∃ why : Rejection, r.serve env s = ⟨why.response.forOrigin env.settings r, s, []⟩ := by
  cases asked : d.request env s r board with
  | ok q =>
    obtain ⟨body, u, command, read, sent, stands, rfl⟩ := Deed.request_eq_ok_iff.1 asked
    exact .inl ⟨_, routed, sent, read, stands⟩
  | error why =>
    refine .inr ⟨why, ?_⟩
    rw [serve_of_deed env s routed]
    unfold Deed.serve
    rw [asked]

/-- A request reaches the service, or it leaves nothing behind and its response is the same for all
stores with the same users. -/
theorem Request.serve_cases (env : Env) (s : Store) (r : Request) :
    (∃ d q, Asks env s r d q) ∨
      (r.serve env s).store = s ∧ (r.serve env s).notes = [] ∧
        ∀ t : Store, t.users = s.users → (r.serve env t).response = (r.serve env s).response := by
  unfold serve
  cases r.preflight? env.settings with
  | some response => exact .inr ⟨rfl, rfl, fun _ _ => rfl⟩
  | none =>
    unfold answer
    cases routed : destination r.method r.path with
    | otherMethod allowed => exact .inr ⟨rfl, rfl, fun _ _ => rfl⟩
    | moved path => exact .inr ⟨rfl, rfl, fun _ _ => rfl⟩
    | unknown => exact .inr ⟨rfl, rfl, fun _ _ => rfl⟩
    | call c =>
      cases c with
      | health => exact .inr ⟨rfl, rfl, fun _ _ => rfl⟩
      | onBoard board d =>
        cases asked : d.request env s r board with
        | ok q =>
          obtain ⟨body, u, command, read, sent, stands, rfl⟩ := Deed.request_eq_ok_iff.1 asked
          exact .inl ⟨d, _, routed, sent, read, stands⟩
        | error why =>
          have asked' (t : Store) (users : t.users = s.users) :
              d.request env t r board = .error why := (Deed.request_congr users).trans asked
          dsimp only
          unfold Deed.serve
          rw [asked]
          refine .inr ⟨rfl, rfl, fun t users => ?_⟩
          rw [asked' t users]

/-- A request that comes from nobody leaves the store as it is and announces nothing, and its
response is the same whatever the boards, members, categories and memberships are. -/
theorem strangers_learn_and_change_nothing (env : Env) (s : Store) (r : Request)
    (stranger : ¬ ∃ u, r.IsFrom env s u) :
    (r.serve env s).store = s ∧ (r.serve env s).notes = [] ∧
      ∀ t : Store, t.users = s.users → (r.serve env t).response = (r.serve env s).response := by
  rcases r.serve_cases env s with ⟨d, q, asks⟩ | quiet
  · exact absurd asks.sender stranger
  · exact quiet

/-- Whoever has a token that holds, but is not stored as a user, cannot find out by a deletion
whether there is such a category. -/
theorem token_of_no_user_deletes_nothing :
    let r := Request.sample "DELETE" "/api/v1/boards/b/view-categories/c"
    (¬ ∃ u, r.IsFrom .sample .sample u) ∧
      (r.serve .sample .sample).store = .sample ∧ (r.serve .sample .sample).notes = [] ∧
      ∀ t : Store, t.users = Store.sample.users →
        (r.serve .sample t).response = (r.serve .sample .sample).response := by
  intro r
  have stranger : ¬ ∃ u, r.IsFrom .sample .sample u := by
    rintro ⟨u, token, -, mem, -⟩
    cases mem
  exact ⟨stranger, strangers_learn_and_change_nothing .sample .sample r stranger⟩

end

end Http

end BoardViews
