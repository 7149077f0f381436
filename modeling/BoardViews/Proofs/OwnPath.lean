import BoardViews.Proofs.Grid
import BoardViews.Proofs.Handshake
import BoardViews.Proofs.Integrity
import BoardViews.Proofs.Refusal
import BoardViews.Proofs.Widths

/-
  Categories at their own paths. What a request created (`create_view_category`) stays the
  category of its user on its board, with integers for its times and its sort order, whatever
  comes in afterwards; so as long as it is live, a request of that user at its path reaches it, if
  the route that fits the path leads there. It always does for reading and deleting. For changing,
  a route that stands before the one of the category (`reorder_view_categories` before
  `update_view_category`) fits the path as well if the category is called `reorder`.

  The request is one that reaches the service (`Request.Reaches`): it comes from the user who
  created the category, who may still view the board, and the clock can be read. The id has no
  slash, so that it is one segment. `Category.Lasts` is what is known of a created category in a
  later store. `Category.Lasts.step` is that each step keeps it, and `Category.Lasts.becomes` is
  the induction over what comes in. With `Store.LetsManage` it is all that the answers rest on;
  `Category.managed?` says for the three commands at once what becomes of the category, in the
  reply and in the store alike.
-/

namespace BoardViews

/-! ## What lasts of a category -/

/-- A category in a later store: it belongs to the same user on the same board under the same id,
and the columns that are meant for integers hold integers, the sort order one that there is a place
for. -/
structure Category.Lasts (c : Category) (s : Store) (q : Category) : Prop where
  stored : q ∈ s.categories.rows
  id : q.id = c.id
  owner : q.userId = c.userId
  onBoard : q.boardId = c.boardId
  createAt : ∃ n, q.createAt = .int n
  updateAt : ∃ n, q.updateAt = .int n
  deleteAt : ∃ n, q.deleteAt = .int n
  sortOrder : q.sortOrder.OnGrid s.categories.rows.length

section

variable {env : Env} {s s' : Store} {a : Access} {r : Request} {reply : Reply}
  {events : List Event} {c q : Category}

theorem Category.Lasts.isTyped (h : c.Lasts s q) : q.IsTyped := by
  obtain ⟨n, rank, -⟩ := h.sortOrder
  exact ⟨h.createAt, h.updateAt, h.deleteAt, n, rank⟩

/-- A step finds a place among all rows for a row that has one. -/
theorem Step.onGrid {command : Command} (step : Step env s a command reply s' events)
    (stored : q ∈ s.categories.rows) (grid : q.sortOrder.OnGrid s.categories.rows.length) :
    ∃ q' ∈ s'.categories.rows, q'.id = q.id ∧
      q'.sortOrder.OnGrid s'.categories.rows.length := by
  have stay : ∃ q' ∈ s.categories.rows, q'.id = q.id ∧
      q'.sortOrder.OnGrid s.categories.rows.length := ⟨q, stored, rfl, grid⟩
  have changed {f : Category → Category} (id : ∀ r, (f r).id = r.id)
      (placed : (f q).sortOrder.OnGrid s.categories.rows.length) :
      ∃ q' ∈ s.categories.rows.map f, q'.id = q.id ∧
        q'.sortOrder.OnGrid (s.categories.rows.map f).length := by
    rw [List.length_map]
    exact ⟨f q, List.mem_map_of_mem stored, id q, placed⟩
  cases step with
  | @create _ _ _ _ _ millis c t titled typed clock word made added room reached =>
    have one := Table.length_insert? added
    have rows := Table.insert?_rows added
    refine ⟨c.lowered q, List.mem_map_of_mem ?_, c.lowered_id q, ?_⟩
    · rw [rows]
      exact List.mem_append_left _ stored
    · change Cell.OnGrid (t.rows.map c.lowered).length _
      rw [List.length_map, one]
      exact grid.lowered (by omega)
  | get found => exact stay
  | update owned titled clock word reached =>
    refine changed (Category.replaced_id _) ?_
    rw [(owned.replaced_edited _ _ _ stored).2.2]
    exact grid
  | delete owned clock word reached =>
    refine changed (Category.tombstoned_id _ _ _ _) ?_
    unfold Category.tombstoned
    split <;> exact grid
  | list => exact stay
  | reorder plan reached =>
    subst plan
    refine changed (Category.arranged_id _ _) ?_
    unfold Category.arranged
    split
    · exact grid.arranged (Nat.le_trans (s.length_categoryOrder_le _) (List.length_filter_le _ _))
    · exact grid
  | categorize target stored reached => exact stay
  | uncategorize stored reached => exact stay
  | reorderViews owned plan reached => exact stay
  | setVisibility owned reached => exact stay

theorem Category.Lasts.step (h : c.Lasts s q) (granted : a.Granted s r)
    (step : Step env s a r.command reply s' events) : ∃ q', c.Lasts s' q' := by
  obtain ⟨p, stored', same, grid⟩ := step.onGrid h.stored h.sortOrder
  obtain ⟨q', stored, id, goes⟩ := (step.proceeds granted).kept q h.stored
  obtain rfl : p = q' := Table.eq_of_key stored' stored (same.trans id.symm)
  refine ⟨p, ?_⟩
  cases goes with
  | same => exact { h with stored := stored, sortOrder := grid }
  | ranked live n => exact { h with stored := stored, sortOrder := grid }
  | edited kept named onBoard asked read done =>
    exact { h with stored := stored, sortOrder := grid, updateAt := ⟨_, rfl⟩ }
  | deleted kept read => exact { h with stored := stored, sortOrder := grid, deleteAt := ⟨_, rfl⟩ }

end

/-! ## Later stores -/

/-- What becomes of a store: requests come in, and users, boards and members are the business of
others. -/
inductive Store.Becomes (s : Store) : Store → Prop
  | same : s.Becomes s
  | incoming {t : Store} (i : Http.Incoming) (before : s.Becomes t) :
      s.Becomes (i.exchange t).store
  | elsewhere {t : Store} (users : Table User.id) (boards : Table Board.id)
      (members : Table Member.key) (before : s.Becomes t) :
      s.Becomes { t with users := users, boards := boards, members := members }

theorem Category.Lasts.becomes {s t : Store} {c : Category} (h : ∃ q, c.Lasts s q)
    (later : s.Becomes t) : ∃ q, c.Lasts t q := by
  induction later with
  | same => exact h
  | @incoming t i before ih =>
    rcases i.cases t with ⟨still, -⟩ | ⟨r, u, a, reply, events, -, -, -, granted, step, -⟩
    · rw [still]
      exact ih
    · obtain ⟨q, lasts⟩ := ih
      exact lasts.step granted step
  | elsewhere users boards members before ih =>
    obtain ⟨q, lasts⟩ := ih
    exact ⟨q, { lasts with }⟩

/-! ## Creation over HTTP -/

namespace Http

/-- A request of a user to create something on a board, after which there is a category that was not
there before. -/
structure Incoming.Creates (i : Incoming) (s : Store) (u : User) (board : String) (c : Category) :
    Prop where
  routed : destination i.request.method i.request.path = .call (.onBoard board .create)
  sent : i.request.IsFrom i.env s u
  stored : c ∈ (i.exchange s).store.categories.rows
  new : ∀ q ∈ s.categories.rows, q.id ≠ c.id

section

variable {i : Incoming} {s : Store} {u : User} {board : String} {c : Category}

/-- What a request creates is made for the user whom it comes from, on the board of its path. -/
theorem Incoming.Creates.isMade (h : i.Creates s u board c) :
    ∃ (a : Access) (command : Command), a.user = u.id ∧ a.board.id = board ∧
      c.IsMade i.env a command := by
  obtain ⟨routed, sent, stored, new⟩ := h
  have unchanged (still : (i.exchange s).store = s) : False := by
    rw [still] at stored
    exact new c stored rfl
  rcases i.request.serve_cases i.env s with ⟨d, q, asks⟩ | ⟨still, -, -⟩
  · have store : (i.exchange s).store = (q.run i.env s).store :=
      congrArg Exchange.store (Request.serve_of_asks asks)
    obtain ⟨routed', sent', -, -⟩ := asks
    obtain ⟨rfl, -⟩ := Call.onBoard.inj (Destination.call.inj (routed'.symm.trans routed))
    obtain rfl : _ = u := Except.ok.inj
      ((Request.sender_eq_ok_iff.2 sent').symm.trans (Request.sender_eq_ok_iff.2 sent))
    rcases Visit.cases ⟨i.env, ⟨some _, some _, _⟩⟩ s with
      ⟨f, -, still⟩ | ⟨reply, a, events, -, granted, step⟩
    · exact (unchanged (store.trans still)).elim
    · rw [store] at stored
      rcases (step.evolves granted).origin stored with ⟨q, old, goes⟩ | made
      · exact absurd goes.became.id.symm (new q old)
      · exact ⟨a, _, (Option.some.inj granted.user).symm,
          (Option.some.inj granted.board_id).symm, made⟩
  · exact (unchanged still).elim

theorem Incoming.Creates.lasts (h : i.Creates s u board c) :
    c.Lasts (i.exchange s).store c := by
  obtain ⟨a, command, -, -, made⟩ := h.isMade
  have rows : 0 < (i.exchange s).store.categories.rows.length := List.length_pos_of_mem h.stored
  cases made with
  | intro titled typed read =>
    exact ⟨h.stored, rfl, rfl, rfl, ⟨_, rfl⟩, ⟨_, rfl⟩, ⟨_, rfl⟩, Cell.onGrid_zero rows⟩

/-- A created category has its user, its board and an id without blanks around it. -/
theorem Incoming.Creates.placed (h : i.Creates s u board c) (fresh : Text.IsHex i.env.freshId) :
    c.userId = u.id ∧ c.boardId = board ∧ Text.IsTrimmed c.id := by
  obtain ⟨a, command, user, onBoard, made⟩ := h.isMade
  refine ⟨?_, ?_, made.isTrimmed_id fresh⟩
  · rw [← user]
    cases made
    rfl
  · rw [← onBoard]
    cases made
    rfl

end

end Http

/-! ## Commands on a category of one's own -/

/-- A live category of a user on a live board that the user may view. -/
structure Store.LetsManage (s : Store) (user board : String) (q : Category) : Prop where
  stored : q ∈ s.categories.rows
  live : q.isLive = true
  owner : q.userId = user
  onBoard : q.boardId = board
  there : ∃ b ∈ s.boards.rows, b.id = board ∧ b.isLive = true
  viewer : s.LetsIn (some user) (some board)

/-- The store can be written, and the clock reads a time that can be stored. -/
structure Env.Reads (env : Env) (millis : Int) : Prop where
  connected : env.connected = true
  clock : env.now.millis = .ok millis
  word : fitsWord millis = true

section

variable {env : Env} {s : Store} {user board : String} {q q' : Category} {command : Command}
  {millis : Int}

/-- What is stored already is stored in its own place. -/
theorem Store.putCategory_stored (stored : q ∈ s.categories.rows) : s.putCategory q = s := by
  have still : s.categories.mapRows q.replaced q.replaced_id = s.categories := by
    refine Table.mapRows_eq_self _ fun r hr => ?_
    unfold Category.replaced
    split
    · next same => exact Table.eq_of_key stored hr same.symm
    · rfl
  unfold putCategory
  rw [still]

/-- The category of an owner is marked as deleted in its place. -/
theorem Store.HasOwned.markDeleted {a : Access} {id : Option String}
    (owned : s.HasOwned a id q) (millis : Int) :
    s.markDeleted q.id a.user a.board.id millis =
      s.putCategory { q with deleteAt := .int millis } := by
  have rows : s.categories.rows.map (Category.tombstoned q.id a.user a.board.id millis) =
      s.categories.rows.map { q with deleteAt := .int millis }.replaced := by
    refine List.map_congr_left fun r hr => ?_
    by_cases same : r.id = q.id
    · obtain rfl := owned.eq_of_id hr same
      have own : Category.isOwned r.id a.user a.board.id r = true := by
        simp [Category.isOwned, owned.owner, owned.onBoard]
      exact (if_pos own).trans (if_pos rfl).symm
    · have other : ¬Category.isOwned q.id a.user a.board.id r = true := by
        simp [Category.isOwned, same]
      exact (if_neg other).trans (if_neg same).symm
  unfold Store.markDeleted Store.putCategory
  congr 1
  exact Table.ext rows

/-- What becomes of a category that a command reads, changes or deletes at some time. -/
def Category.managed? (q : Category) (millis : Int) : Command → Option Category
  | .get _ => some q
  | .update _ name collapsed => some (q.edited millis (stripped? name) collapsed)
  | .delete _ => some { q with deleteAt := .int millis }
  | _ => none

theorem Category.IsTyped.managed (typed : q.IsTyped)
    (managed : q.managed? millis command = some q') : q'.IsTyped := by
  cases command <;> cases managed
  · exact typed
  · exact { typed with updateAt := ⟨_, rfl⟩ }
  · exact { typed with deleteAt := ⟨_, rfl⟩ }

/-- A step that reads, changes or deletes a category replies with what becomes of it and puts that
in its place. -/
theorem Step.managed {a : Access} {reply : Reply} {s' : Store} {events : List Event}
    (step : Step env s a command reply s' events) (stored : q ∈ s.categories.rows)
    (named : command.named? = some (some q.id)) (clock : env.now.millis = .ok millis)
    (managed : q.managed? millis command = some q') :
    reply = .category q' ∧ s' = s.putCategory q' := by
  have time {m : Int} (read : env.now.millis = .ok m) : m = millis :=
    Except.ok.inj (read.symm.trans clock)
  have one {c : Category} {board : String} {id : Option String} (live : s.HasLive board id c)
      (same : some id = some (some q.id)) : c = q := by
    have id_eq : c.id = q.id := Option.some.inj (live.named.symm.trans (Option.some.inj same))
    exact Table.eq_of_key live.mem stored id_eq
  cases step with
  | get found =>
    cases managed
    obtain rfl := one found named
    exact ⟨rfl, (Store.putCategory_stored stored).symm⟩
  | update owned titled read word reached =>
    cases managed
    obtain rfl := one owned.toHasLive named
    obtain rfl := time read
    exact ⟨rfl, rfl⟩
  | delete owned read word reached =>
    cases managed
    obtain rfl := one owned.toHasLive named
    obtain rfl := time read
    exact ⟨rfl, owned.markDeleted _⟩
  | create | list | reorder | categorize | uncategorize | reorderViews | setVisibility =>
    cases managed

/-- Nothing but what is wrong with a command by itself speaks against one that names a category of
one's own. -/
theorem Store.LetsManage.comeTo_none (manages : s.LetsManage user board q)
    (named : command.named? = some (some q.id))
    (fine : ∀ g ∈ (⟨some user, some board, command⟩ : Request).ownGrounds, ¬g.met) :
    (s.grounds ⟨some user, some board, command⟩).ComeTo none := by
  refine Grounds.comeTo_none_iff.2 fun g hg => ?_
  unfold grounds boardGrounds categoryGrounds at hg
  dsimp only at hg
  rw [named] at hg
  simp only [List.mem_append, List.mem_cons, List.not_mem_nil, or_false] at hg
  rcases hg with own | (rfl | rfl) | rfl | rfl
  · exact fine g own
  · obtain ⟨b, hb, id, live⟩ := manages.there
    exact not_not.2 ⟨b, hb, congrArg some id.symm, live⟩
  · exact not_not.2 manages.viewer
  · exact not_not.2 ⟨q, manages.stored, rfl, congrArg some manages.onBoard.symm,
      Category.kept_of_isLive manages.live⟩
  · rintro ⟨-, r, hr, id, foreign⟩
    obtain rfl : q = r := Table.eq_of_key manages.stored hr (Option.some.inj id)
    exact foreign (congrArg some manages.owner.symm)

/-- A command that reads, changes or deletes a category of one's own is carried out, if nothing is
wrong with it by itself. -/
theorem Store.LetsManage.run (manages : s.LetsManage user board q) (reads : env.Reads millis)
    (named : command.named? = some (some q.id))
    (managed : q.managed? millis command = some q')
    (fine : ∀ g ∈ (⟨some user, some board, command⟩ : Request).ownGrounds, ¬g.met) :
    let o := (⟨some user, some board, command⟩ : Request).run env s
    o.result = .ok (.category q') ∧ o.store = s.putCategory q' := by
  intro o
  have unmet := manages.comeTo_none named fine
  have place : s.HasPlaceFor command := by
    cases command <;> cases managed <;> trivial
  have serves : env.Serves s command := ⟨reads.connected, ⟨_, reads.clock, reads.word⟩, place⟩
  have new : ¬s.Repeats env command := by
    rintro ⟨_, _, _, _, rfl, -⟩
    cases managed
  obtain ⟨reply, ok⟩ := (Request.run_of_unmet serves unmet).2 new
  obtain ⟨a, events, granted, step, -⟩ := Request.run_ok ok
  obtain ⟨rfl, store⟩ := step.managed manages.stored named reads.clock managed
  exact ⟨ok, store⟩

end

/-! ## Answers -/

namespace Http

/-- An exchange that is answered 200 with a category, and leaves the category in the place of the
one with its id and everything else as it was. -/
structure Exchange.Answers (e : Exchange) (s : Store) (q : Category) : Prop where
  status : e.response.status = 200
  content : e.response.content = .json (.record q.fields)
  store : e.store = s.putCategory q

/-- What a body asks for that is taken as a form for a change. -/
def Request.Patches (r : Request) (p : CategoryPatch) : Prop :=
  ∃ body, r.readBody = .ok (some body) ∧ CategoryPatch.ofJson .notObject body = .ok p

end Http

/-- A form that gives a category a name and repeats no ids but those of the path. -/
structure CategoryPatch.Renames (p : CategoryPatch) (board category : String) : Prop where
  named : ∃ name, p.name = some name ∧ Text.strip name ≠ ""
  board : ∀ b, p.boardId = some b → b = board
  category : ∀ i, p.id = some i → i = category

namespace Http

/-- A request to the path of a category of a user who may view its board, where nothing stands in
its way. -/
structure Request.Reaches (r : Request) (env : Env) (s : Store) (user board category : String)
    (millis : Int) : Prop where
  path : r.path = categoryPath board category
  sent : ∃ u, r.IsFrom env s u ∧ u.id = user
  there : ∃ b ∈ s.boards.rows, b.id = board ∧ b.isLive = true
  viewer : s.LetsIn (some user) (some board)
  reads : env.Reads millis

section

variable {env : Env} {s : Store} {r : Request} {user board : String} {q q' : Category}
  {command : Command} {millis : Int} {d : Deed} {p : CategoryPatch}

/-- What the service makes of a category of one's own is what is answered. -/
theorem Asks.answers (asks : Asks env s r d ⟨some user, some board, command⟩)
    (status : d.status = 200) (manages : s.LetsManage user board q) (typed : q.IsTyped)
    (reads : env.Reads millis) (named : command.named? = some (some q.id))
    (managed : q.managed? millis command = some q')
    (fine : ∀ g ∈ (⟨some user, some board, command⟩ : BoardViews.Request).ownGrounds, ¬g.met) :
    (r.serve env s).Answers s q' := by
  obtain ⟨done, store⟩ := manages.run reads named managed fine
  have response : d.response (.ok (.category q')) =
      { status := 200, content := .json (.record q'.fields) } := by
    unfold Deed.response content
    dsimp only
    rw [sentFields_of_typed (typed.managed managed), status]
  rw [Request.serve_of_asks asks, done, response]
  exact ⟨Response.forOrigin_status _ _ _, Response.forOrigin_content _ _ _, store⟩

/-- A form that renames is a command for the service. -/
theorem Request.Patches.command_eq_ok (patches : r.Patches p) (renames : p.Renames board q.id) :
    ∃ body, (Deed.update q.id).readBody r = .ok body ∧
      (Deed.update q.id).command board body = .ok (.update (some q.id) p.name p.collapsed) := by
  obtain ⟨body, read, form⟩ := patches
  refine ⟨some body, read, ?_⟩
  have onBoard : ¬ p.boardId.any (· ≠ board) = true := by
    rw [Option.any_eq_true]
    rintro ⟨b, hb, other⟩
    exact of_decide_eq_true other (renames.board b hb)
  have named : ¬ p.id.any (· ≠ q.id) = true := by
    rw [Option.any_eq_true]
    rintro ⟨i, hi, other⟩
    exact of_decide_eq_true other (renames.category i hi)
  unfold Deed.command readAs
  dsimp only
  rw [form]
  dsimp only [Except.mapError]
  rw [if_neg onBoard, if_neg named]

/-- A form for a change is no order of categories. -/
theorem Request.Patches.rejected (patches : r.Patches p)
    (routed : destination r.method r.path = .call (.onBoard board .reorder)) :
    (r.serve env s).response.status ≠ 200 := by
  obtain ⟨body, read, form⟩ := patches
  rcases r.serve_of_routed env s routed with ⟨o, asks⟩ | ⟨why, served⟩
  · exfalso
    obtain ⟨-, -, read', stands⟩ := asks
    obtain rfl : some body = _ := Except.ok.inj (read.symm.trans read')
    cases body with
    | object fields => cases stands
    | null | bool | int | real | text | list => cases form
  · rw [served, Response.forOrigin_status]
    cases why <;> nofun

/-- The last segment of a path is a word if it is the word, for a trimmed id has no line feed at its
end. -/
theorem endsAs_iff {word id : String} (trimmed : Text.IsTrimmed id) :
    endsAs word id = true ↔ id = word := by
  have plain : id ≠ word ++ "\n" := by
    rintro rfl
    obtain ⟨c, last, visible⟩ := trimmed.last
    have feed : c = '\n' := by
      simpa using last.symm
    rw [feed] at visible
    exact absurd visible (by decide)
  unfold endsAs
  simp [plain]

end

/-- A category that a user created over HTTP can be read and deleted by that user at its own path,
as long as it is live and the user may view the board, if its id can stand in a path. It can be
changed there just if it is not called `reorder`. -/
theorem category_is_managed_at_its_own_path_unless_called_reorder {i : Incoming} {s t : Store}
    {u : User} {board : String} {c q : Category} {env : Env} {r : Request} {millis : Int}
    (fresh : Text.IsHex i.env.freshId) (created : i.Creates s u board c)
    (plain : '/' ∉ c.id.toList) (later : (i.exchange s).store.Becomes t)
    (stored : q ∈ t.categories.rows) (same : q.id = c.id) (live : q.isLive = true)
    (reaches : r.Reaches env t u.id board c.id millis) :
    (r.method = "GET" → (r.serve env t).Answers t q) ∧
      (r.method = "DELETE" → (r.serve env t).Answers t { q with deleteAt := .int millis }) ∧
      (r.method = "PUT" → ∀ p, r.Patches p → p.Renames board c.id →
        ((r.serve env t).Answers t (q.edited millis (stripped? p.name) p.collapsed) ↔
          c.id ≠ "reorder")) := by
  obtain ⟨owner, onBoard, trimmed⟩ := created.placed fresh
  have segment : IsSegment board := isSegment_of_destination created.routed
  have own : IsSegment c.id := ⟨trimmed.ne_empty, plain⟩
  obtain ⟨q', lasts⟩ := Category.Lasts.becomes ⟨c, created.lasts⟩ later
  obtain rfl : q' = q := Table.eq_of_key lasts.stored stored (lasts.id.trans same.symm)
  have manages : t.LetsManage u.id board q' := ⟨stored, live, lasts.owner.trans owner,
    lasts.onBoard.trans onBoard, reaches.there, reaches.viewer⟩
  obtain ⟨path, ⟨w, sent, sender⟩, -, -, reads⟩ := reaches
  rw [← sender] at manages
  rw [← same] at trimmed own path ⊢
  refine ⟨fun get => ?_, fun delete => ?_, fun put p patches renames => ?_⟩
  · have routed := destination_get_categoryPath segment own
    rw [← path, ← get] at routed
    exact (Asks.intro routed sent rfl rfl).answers rfl manages lasts.isTyped reads rfl rfl nofun
  · have routed := destination_delete_categoryPath segment own
    rw [← path, ← delete] at routed
    exact (Asks.intro routed sent rfl rfl).answers rfl manages lasts.isTyped reads rfl rfl nofun
  · have routed := destination_put_categoryPath segment own
    rw [← path, ← put] at routed
    by_cases called : q'.id = "reorder"
    · rw [if_pos ((endsAs_iff trimmed).2 called)] at routed
      constructor
      · intro answers
        exact absurd answers.status (patches.rejected routed)
      · intro other
        exact absurd called other
    · rw [if_neg (mt (endsAs_iff trimmed).1 called)] at routed
      refine iff_of_true ?_ called
      obtain ⟨body, read, stands⟩ := patches.command_eq_ok renames
      refine (Asks.intro routed sent read stands).answers rfl manages lasts.isTyped reads rfl rfl ?_
      obtain ⟨name, given, filled⟩ := renames.named
      rw [given]
      intro g hg
      obtain rfl := List.mem_singleton.1 hg
      exact filled

/-- A request of the sample user with a body of JSON. -/
def Request.json (method path body : String) : Request :=
  ⟨method, path, [("Authorization", "Bearer " ++ Token.sample),
    ("Content-Type", "application/json")], body⟩

theorem Request.credentials?_json (method path body : String) :
    (json method path body).credentials? = some Token.sample := by
  -- Only the first header is looked at, and it is that of the sample request.
  have plain : (json "" "" "").header? "authorization" =
      (sample "" "").header? "authorization" := by decide +kernel
  have header : (json method path body).header? "authorization" =
      (sample method path).header? "authorization" := plain
  rw [← credentials?_sample method path]
  unfold credentials?
  rw [header]

theorem Request.isFrom_json {env : Env} {s : Store} (method path body : String)
    (users : s.users = Store.owned.users) (settings : env.settings = Env.sample.settings)
    (now : env.now = Env.sample.now) :
    (json method path body).IsFrom env s ⟨"u", "u", .int 1, .int 1⟩ := by
  refine ⟨Token.sample, credentials?_json method path body, ?_, ?_⟩
  · rw [users]
    exact List.mem_singleton.2 rfl
  · rw [settings, now]
    exact Token.subject_sample

/-- A request that creates a category under an id on a board of the sample user. -/
def creating (id : String) : Incoming where
  env := { Env.sample with freshId := "00000000000000000000000000000001" }
  request := .json "POST" (listingPath "b")
    ("\x7b\"board_id\":\"b\",\"name\":\"n\",\"id\":\"" ++ id ++ "\"\x7d")

/-- The category that it creates. -/
def created (id : String) : Category :=
  ⟨id, "n", "u", "b", .int 1000, .int 1000, .int 0, false, .int 0, "custom"⟩

/-- The store that it leaves. -/
def holding (id : String) : Store := { Store.owned with categories := .ofList [created id] }

theorem isHex_creating (id : String) : Text.IsHex (creating id).env.freshId := by
  show Text.IsHex "00000000000000000000000000000001"
  exact ⟨by decide, by simp [Text.hexValue?]⟩

theorem destination_creating (id : String) :
    destination (creating id).request.method (creating id).request.path =
      .call (.onBoard "b" .create) := by
  show destination "POST" (listingPath "b") = _
  decide

theorem isFrom_creating (id : String) :
    (creating id).request.IsFrom (creating id).env .owned ⟨"u", "u", .int 1, .int 1⟩ :=
  Request.isFrom_json _ _ _ rfl rfl rfl

theorem store_creating {id : String} (h : id ∈ ["c", "reorder"]) :
    ((creating id).exchange .owned).store = holding id := by
  have asked : (Deed.create.readBody (creating id).request >>= Deed.create.command "b") =
      .ok (.create (some "n") (some "custom") (some id) (some false)) := by
    revert id
    decide +kernel
  obtain ⟨body, read, stands⟩ := bind_eq_ok_iff.1 asked
  have asks : Asks (creating id).env .owned (creating id).request .create
      ⟨some "u", some "b", .create (some "n") (some "custom") (some id) (some false)⟩ :=
    .intro (u := ⟨"u", "u", .int 1, .int 1⟩) (destination_creating id) (isFrom_creating id)
      read stands
  unfold Incoming.exchange
  rw [Request.serve_of_asks asks]
  simp only [List.mem_cons, List.not_mem_nil, or_false] at h
  rcases h with rfl | rfl <;> rfl

theorem creates_creating {id : String} (h : id ∈ ["c", "reorder"]) :
    (creating id).Creates .owned ⟨"u", "u", .int 1, .int 1⟩ "b" (created id) := by
  have stored : created id ∈ ((creating id).exchange .owned).store.categories.rows := by
    rw [store_creating h]
    exact List.mem_singleton.2 rfl
  refine ⟨destination_creating id, isFrom_creating id, stored, fun q hq => ?_⟩
  cases hq

/-- A request of that user to the path of the category reaches it. -/
theorem reaches_created (id method body : String) :
    (Request.json method (categoryPath "b" id) body).Reaches .sample (holding id) "u" "b" id
      1000 where
  path := rfl
  sent := ⟨_, Request.isFrom_json _ _ _ rfl rfl rfl, rfl⟩
  there := ⟨_, List.mem_singleton.2 rfl, rfl, rfl⟩
  viewer := ⟨"u", "b", rfl, rfl, .inl ⟨_, List.mem_singleton.2 rfl, rfl, rfl⟩⟩
  reads := ⟨rfl, rfl, rfl⟩

/-- A form that renames a category, whatever it is called. -/
def renameForm : String := "\x7b\"name\":\"m\"\x7d"

theorem patches_renameForm (path : String) :
    (Request.json "PUT" path renameForm).Patches ⟨none, none, some "m", none⟩ := by
  have asked : ((Request.json "" "" renameForm).readBody >>=
      readAs (CategoryPatch.ofJson .notObject)) = .ok ⟨none, none, some "m", none⟩ := by
    decide +kernel
  obtain ⟨body, read, taken⟩ := bind_eq_ok_iff.1 asked
  obtain ⟨v, rfl, form⟩ := readAs_ok taken
  exact ⟨v, read, form⟩

theorem renames_renameForm (board category : String) :
    CategoryPatch.Renames ⟨none, none, some "m", none⟩ board category where
  named := ⟨"m", rfl, by decide⟩
  board := nofun
  category := nofun

/-- A category called `c` is renamed at its own path. -/
theorem created_category_is_renamed_at_its_own_path :
    let t := ((creating "c").exchange .owned).store
    ((Request.json "PUT" (categoryPath "b" "c") renameForm).serve .sample t).Answers t
      { created "c" with name := "m" } := by
  intro t
  have store : t = holding "c" := store_creating (by decide)
  have stored : created "c" ∈ t.categories.rows := by
    rw [store]
    exact List.mem_singleton.2 rfl
  have reaches := reaches_created "c" "PUT" renameForm
  rw [← store] at reaches
  obtain ⟨-, -, changed⟩ := category_is_managed_at_its_own_path_unless_called_reorder
    (isHex_creating "c") (creates_creating (by decide)) (by decide) .same stored rfl rfl reaches
  exact (changed rfl _ (patches_renameForm _) (renames_renameForm _ _)).2 (by decide)

/-- One that is called `reorder` is not. -/
theorem created_category_cannot_be_changed_at_its_own_path :
    ¬ ∀ (i : Incoming) (s t : Store) (u : User) (board : String) (c q : Category) (env : Env)
      (r : Request) (millis : Int), Text.IsHex i.env.freshId → i.Creates s u board c →
        '/' ∉ c.id.toList → (i.exchange s).store.Becomes t → q ∈ t.categories.rows →
        q.id = c.id → q.isLive = true → r.Reaches env t u.id board c.id millis →
        r.method = "PUT" → ∀ p, r.Patches p → p.Renames board c.id →
          (r.serve env t).Answers t (q.edited millis (stripped? p.name) p.collapsed) := by
  intro all
  have store : ((creating "reorder").exchange .owned).store = holding "reorder" :=
    store_creating (by decide)
  have later : ((creating "reorder").exchange .owned).store.Becomes (holding "reorder") := by
    rw [store]
    exact .same
  have stored : created "reorder" ∈ (holding "reorder").categories.rows :=
    List.mem_singleton.2 rfl
  have answers := all (creating "reorder") .owned (holding "reorder") _ "b" (created "reorder")
    (created "reorder") .sample _ 1000 (isHex_creating _) (creates_creating (by decide))
    (by decide) later stored rfl rfl (reaches_created "reorder" "PUT" renameForm) rfl _
    (patches_renameForm _) (renames_renameForm _ _)
  have routed : destination "PUT" (categoryPath "b" "reorder") = .call (.onBoard "b" .reorder) := by
    decide
  exact absurd answers.status ((patches_renameForm _).rejected routed)

end Http

end BoardViews
