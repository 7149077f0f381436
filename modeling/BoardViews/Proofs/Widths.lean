import BoardViews.Proofs.Identity
import BoardViews.Proofs.Integrity
import BoardViews.Schema.Model

/-
  Whether what is stored over HTTP fits the columns. Forms bound the texts that they bring, ids of
  users and boards were stored before, and new ids are short (`new_id` makes them of 32
  characters, which is assumed of them); so every category fits, and so does the category id of
  every membership. The id of a view comes from the path as it is (`categorize_view`,
  `uncategorize_view`). Memberships fit just as long as no view with a longer id is put anywhere:
  `Store.hasView_served` tells which views have memberships after a run.
-/

namespace BoardViews

/-! ## Columns -/

/-- Whether the texts of a record fit the columns of a shape. -/
def Schema.Shape.Fits (shape : Shape) (fields : List (String × Json)) : Prop :=
  ∀ column ∈ shape.columns, ∀ limit, column.kind = .text limit →
    ∀ t : String, (column.name, Json.text t) ∈ fields → t.length ≤ limit

/-- Whether the texts of a record fit the columns of a model's table. -/
def Schema.Model.Fits (m : Model) (fields : List (String × Json)) : Prop := m.shape.Fits fields

open Schema in
theorem User.fits_iff {u : User} :
    Model.users.Fits u.fields ↔ u.id.length ≤ 36 ∧ u.username.length ≤ 255 := by
  simp [Model.Fits, Shape.Fits, Model.shape, Field.column, Model.users, Model.timestamps,
    User.fields]

open Schema in
theorem Board.fits_iff {b : Board} :
    Model.boards.Fits b.fields ↔ b.id.length ≤ 36 ∧ b.teamId.length ≤ 36 ∧
      b.title.length ≤ 255 ∧ b.createdBy.length ≤ 36 := by
  simp [Model.Fits, Shape.Fits, Model.shape, Field.column, Model.boards, Model.timestamps,
    Model.softDelete, Board.fields]

open Schema in
theorem Category.fits_iff {c : Category} :
    Model.viewCategories.Fits c.fields ↔ c.id.length ≤ 36 ∧ c.name.length ≤ 255 ∧
      c.userId.length ≤ 36 ∧ c.boardId.length ≤ 36 ∧ c.type.length ≤ 20 := by
  simp [Model.Fits, Shape.Fits, Model.shape, Field.column, Model.viewCategories, Model.timestamps,
    Model.softDelete, Category.fields]

open Schema in
theorem Membership.fits_iff {m : Membership} :
    Model.viewCategoryViews.Fits m.fields ↔ m.viewId.length ≤ 36 ∧ m.categoryId.length ≤ 36 := by
  simp [Model.Fits, Shape.Fits, Model.shape, Field.column, Model.viewCategoryViews,
    Membership.fields]

/-- A store whose texts all fit their columns. -/
structure Store.Fits (s : Store) : Prop where
  users : ∀ u ∈ s.users.rows, Schema.Model.users.Fits u.fields
  boards : ∀ b ∈ s.boards.rows, Schema.Model.boards.Fits b.fields
  members : ∀ m ∈ s.members.rows, Schema.Model.boardMembers.Fits m.fields
  categories : ∀ c ∈ s.categories.rows, Schema.Model.viewCategories.Fits c.fields
  memberships : ∀ m ∈ s.memberships.rows, Schema.Model.viewCategoryViews.Fits m.fields

/-! ## What forms bring -/

theorem Text.length_strip_le (s : String) : (strip s).length ≤ s.length := by
  have front : (s.toList.dropWhile isBlank).length ≤ s.toList.length :=
    (List.dropWhile_sublist isBlank).length_le
  have back : ((s.toList.dropWhile isBlank).reverse.dropWhile isBlank).length ≤
      (s.toList.dropWhile isBlank).reverse.length := (List.dropWhile_sublist isBlank).length_le
  rw [← String.length_toList, ← String.length_toList, toList_strip]
  unfold trim
  rw [List.length_reverse] at back ⊢
  omega

/-- Trimming makes no text longer. -/
theorem length_of_stripped? {text : Option String} {t : String} {limit : Nat}
    (h : stripped? text = some t) (short : ∀ x, text = some x → x.length ≤ limit) :
    t.length ≤ limit := by
  unfold stripped? at h
  obtain ⟨found, -⟩ := Option.filter_eq_some_iff.1 h
  obtain ⟨x, rfl, rfl⟩ := Option.map_eq_some_iff.1 found
  exact Nat.le_trans (Text.length_strip_le x) (short x rfl)

theorem Json.toText_ok {limit : Nat} {v : Json} {t : String} (h : v.toText limit = .ok t) :
    t.length ≤ limit := by
  unfold toText at h
  split at h
  · split at h
    · next short =>
      cases h
      exact short
    · cases h
  · cases h
  · cases h

theorem Json.optional_toText_ok {limit : Nat} {v : Option Json} {text : Option String}
    (h : Json.optional (Json.toText limit) v = .ok text) :
    ∀ t, text = some t → t.length ≤ limit := by
  rintro t rfl
  unfold Json.optional at h
  split at h
  · cases h
  · cases h
  · obtain ⟨x, read, same⟩ := exists_of_map_eq_ok h
    cases same
    exact Json.toText_ok read

theorem Json.required_toText_ok {limit : Nat} {v : Option Json} {t : String}
    (h : Json.required (Json.toText limit) v = .ok t) : t.length ≤ limit := by
  unfold Json.required at h
  split at h
  · cases h
  · exact Json.toText_ok h

theorem CategoryForm.short_of_ofJson {otherwise : Cause} {data : Json} {f : CategoryForm}
    (h : CategoryForm.ofJson otherwise data = .ok f) :
    f.name.length ≤ nameLimit ∧ ∀ i, f.id = some i → i.length ≤ idLimit := by
  unfold CategoryForm.ofJson at h
  split at h
  · dsimp only at h
    split at h
    · next id boardId name type collapsed =>
      cases h
      exact ⟨Json.required_toText_ok name, Json.optional_toText_ok id⟩
    · cases h
  · cases h

theorem CategoryPatch.short_of_ofJson {otherwise : Cause} {data : Json} {p : CategoryPatch}
    (h : CategoryPatch.ofJson otherwise data = .ok p) :
    ∀ n, p.name = some n → n.length ≤ nameLimit := by
  unfold CategoryPatch.ofJson at h
  split at h
  · dsimp only at h
    split at h
    · next id boardId name collapsed =>
      cases h
      exact Json.optional_toText_ok name
    · cases h
  · cases h

/-- Whether what a command brings for a category fits. -/
def Command.IsShort : Command → Prop
  | .create name _ id _ =>
    (∀ n, name = some n → n.length ≤ nameLimit) ∧ ∀ i, id = some i → i.length ≤ idLimit
  | .update _ name _ => ∀ n, name = some n → n.length ≤ nameLimit
  | _ => True

theorem Http.readAs_ok {α : Type} {read : Json → Except (List Complaint) α} {body : Option Json}
    {a : α} (h : Http.readAs read body = .ok a) : ∃ v, body = some v ∧ read v = .ok a := by
  unfold Http.readAs at h
  split at h
  · cases h
  · next v =>
    refine ⟨v, rfl, ?_⟩
    cases hv : read v with
    | ok x =>
      rw [hv] at h
      cases h
      rfl
    | error cs =>
      rw [hv] at h
      cases h

/-- What a body brings for a category fits, or it is complained about. -/
theorem Http.Deed.short_of_command {d : Http.Deed} {board : String} {body : Option Json}
    {command : Command} (h : d.command board body = .ok command) : command.IsShort := by
  unfold Http.Deed.command at h
  cases d with
  | create =>
    dsimp only at h
    split at h
    · cases h
    · next f read =>
      obtain ⟨v, -, read⟩ := Http.readAs_ok read
      obtain ⟨name, id⟩ := CategoryForm.short_of_ofJson read
      split at h
      · cases h
      · cases h
        refine ⟨?_, id⟩
        rintro n ⟨⟩
        exact name
  | update c =>
    dsimp only at h
    split at h
    · cases h
    · next p read =>
      obtain ⟨v, -, read⟩ := Http.readAs_ok read
      split at h
      · cases h
      · split at h
        · cases h
        · cases h
          exact CategoryPatch.short_of_ofJson read
  | reorder | reorderViews =>
    obtain ⟨order, -, rfl⟩ := exists_of_map_eq_ok h
    trivial
  | list | get | delete | categorize | setVisibility | uncategorize =>
    cases h
    trivial

/-! ## Steps -/

section

open Schema

variable {env : Env} {s s' : Store} {a : Access} {r : Request} {reply : Reply}
  {result : Except Failure Reply} {clock : Except ClockFault Int} {events : List Event}
  {command : Command} {c c' : Category}

theorem Category.IsMade.fits (made : c.IsMade env a command) (short : command.IsShort)
    (fresh : env.freshId.length ≤ 36) (user : a.user.length ≤ 36)
    (board : a.board.id.length ≤ 36) : Model.viewCategories.Fits c.fields := by
  cases made with
  | @intro name id type title collapsed millis titled typed read =>
    have named : ((stripped? id).getD env.freshId).length ≤ 36 := by
      cases hi : stripped? id with
      | none => exact fresh
      | some i => exact length_of_stripped? hi short.2
    have known : type.length ≤ 20 := by
      have types : ∀ t ∈ categoryTypes, t.length ≤ 20 := by decide
      exact types type typed
    exact Category.fits_iff.2 ⟨named, length_of_stripped? titled short.1, user, board, known⟩

theorem Category.Goes.fits (goes : c.Goes r result clock c') (short : r.command.IsShort)
    (fits : Model.viewCategories.Fits c.fields) :
    Model.viewCategories.Fits c'.fields := by
  have ⟨hi, hn, rest⟩ := Category.fits_iff.1 fits
  cases goes with
  | same => exact fits
  | ranked live n => exact Category.fits_iff.2 ⟨hi, hn, rest⟩
  | deleted kept read => exact Category.fits_iff.2 ⟨hi, hn, rest⟩
  | @edited id name collapsed millis reply kept named onBoard asked read done =>
    rw [asked] at short
    have titled : ((stripped? name).getD c.name).length ≤ 255 := by
      cases ht : stripped? name with
      | none => exact hn
      | some title => exact length_of_stripped? ht short
    exact Category.fits_iff.2 ⟨hi, titled, rest⟩

/-- The views that a command puts into a category or takes out of all of them. -/
def Command.placed : Command → List String
  | .categorize _ views => views
  | .uncategorize view => [view]
  | _ => []

/-- Whether a view has a membership. -/
def Store.HasView (s : Store) (view : String) : Prop := ∃ m ∈ s.memberships.rows, m.viewId = view

theorem Store.hasView_moved {category v : String} {views : List String} :
    (s.moved category views).HasView v ↔ s.HasView v ∨ v ∈ views := by
  have found {t : Store} : t.HasView v ↔ (t.memberships.find? v).isSome = true := by
    rw [Option.isSome_iff_exists]
    simp only [Table.find?_eq_some_iff]
    exact Iff.rfl
  rw [found, found, find?_moved]
  split
  · next named => exact iff_of_true rfl (.inr named)
  · next unnamed => exact (or_iff_left unnamed).symm

theorem Store.hasView_of_map {f : Membership → Membership} (hf : ∀ m, (f m).viewId = m.viewId)
    (rows : s'.memberships.rows = s.memberships.rows.map f) {v : String} :
    s'.HasView v ↔ s.HasView v := by
  unfold HasView
  rw [rows]
  constructor
  · rintro ⟨m', hm', rfl⟩
    obtain ⟨m, hm, rfl⟩ := List.mem_map.1 hm'
    exact ⟨m, hm, (hf m).symm⟩
  · rintro ⟨m, hm, rfl⟩
    exact ⟨f m, List.mem_map_of_mem hm, hf m⟩

/-- The views with memberships after a step are those before it and those that were placed. -/
theorem Step.hasView_iff (step : Step env s a command reply s' events) {v : String} :
    s'.HasView v ↔ s.HasView v ∨ v ∈ command.placed := by
  cases step with
  | create | get | update | delete | list | reorder =>
    exact (or_iff_left List.not_mem_nil).symm
  | categorize target stored reached =>
    rw [Store.hasView_moved, List.mem_eraseDups]
    rfl
  | uncategorize stored reached => exact Store.hasView_moved
  | reorderViews owned plan reached =>
    rw [Store.hasView_of_map (Membership.arranged_viewId _ _) rfl]
    exact (or_iff_left List.not_mem_nil).symm
  | setVisibility owned reached =>
    rw [Store.hasView_of_map (Membership.masked_viewId _ _ _) rfl]
    exact (or_iff_left List.not_mem_nil).symm

/-- A store in which everything that categories are made of fits, and they themselves. -/
structure Store.FitsBesidesViews (s : Store) : Prop where
  users : ∀ u ∈ s.users.rows, u.id.length ≤ 36
  boards : ∀ b ∈ s.boards.rows, b.id.length ≤ 36
  categories : ∀ c ∈ s.categories.rows, Model.viewCategories.Fits c.fields
  targets : ∀ m ∈ s.memberships.rows, m.categoryId.length ≤ 36

theorem Store.Fits.besidesViews (fits : s.Fits) : s.FitsBesidesViews where
  users u hu := (User.fits_iff.1 (fits.users u hu)).1
  boards b hb := (Board.fits_iff.1 (fits.boards b hb)).1
  categories := fits.categories
  targets m hm := (Membership.fits_iff.1 (fits.memberships m hm)).2

theorem Store.MayFill.length_le {user board : Option String} {id : String}
    (may : s.MayFill user board id) (fits : s.FitsBesidesViews) : id.length ≤ 36 := by
  rcases may with rfl | ⟨c, hc, rfl, -⟩
  · decide
  · exact (Category.fits_iff.1 (fits.categories c hc)).1

theorem Store.FitsBesidesViews.step (fits : s.FitsBesidesViews)
    (step : Step env s a r.command reply s' events) (granted : a.Granted s r)
    (short : r.command.IsShort) (fresh : env.freshId.length ≤ 36) (user : a.user.length ≤ 36) :
    s'.FitsBesidesViews := by
  have framed := step.framed granted
  have board := fits.boards a.board (Store.board?_eq_some_iff.1 granted.board).1
  constructor
  · rw [framed.users]
    exact fits.users
  · rw [framed.boards]
    exact fits.boards
  · intro c' hc'
    rcases (step.evolves granted).origin hc' with ⟨c, hc, goes⟩ | made
    · exact goes.fits short (fits.categories c hc)
    · exact made.fits short fresh user board
  · intro m' hm'
    rcases framed.memberships.origin hm' with ⟨m, hm, went⟩ | new
    · by_cases same : m'.categoryId = m.categoryId
      · rw [same]
        exact fits.targets m hm
      · exact (went.moved same).length_le fits
    · exact new.length_le fits

/-- If all else fits, memberships fit if the views do that have them. -/
theorem Store.FitsBesidesViews.memberships_iff (fits : s.FitsBesidesViews) :
    (∀ m ∈ s.memberships.rows, Model.viewCategoryViews.Fits m.fields) ↔
      ∀ view, s.HasView view → view.length ≤ 36 := by
  simp only [Membership.fits_iff]
  constructor
  · rintro all view ⟨m, hm, rfl⟩
    exact (all m hm).1
  · intro all m hm
    exact ⟨all m.viewId ⟨m, hm, rfl⟩, fits.targets m hm⟩

end

/-! ## Requests that come in -/

namespace Http

/-- A request that comes in, and what it finds around it. -/
structure Incoming where
  env : Env
  request : Request

/-- What a request that comes in leaves behind. -/
def Incoming.exchange (i : Incoming) (s : Store) : Exchange := i.request.serve i.env s

/-- The view that a deed puts into a category or takes out of all of them. -/
def Deed.placed? : Deed → Option String
  | .categorize _ view | .uncategorize view => some view
  | _ => none

/-- A request that puts a view into a category or takes it out of all, and is answered that it was
done. -/
structure Incoming.Places (i : Incoming) (s : Store) (view : String) : Prop where
  asked : ∃ board d, destination i.request.method i.request.path = .call (.onBoard board d) ∧
    d.placed? = some view
  done : (i.exchange s).response.status = 204

/-! ## What is done of them -/

theorem Deed.placed_command {d : Deed} {board : String} {body : Option Json} {command : Command}
    (h : d.command board body = .ok command) : command.placed = d.placed?.toList := by
  unfold Deed.command at h
  cases d with
  | create =>
    dsimp only at h
    split at h
    · cases h
    · split at h <;> cases h
      rfl
  | update c =>
    dsimp only at h
    split at h
    · cases h
    · split at h
      · cases h
      · split at h <;> cases h
        rfl
  | reorder | reorderViews =>
    obtain ⟨order, -, rfl⟩ := exists_of_map_eq_ok h
    rfl
  | list | get | delete | categorize | setVisibility | uncategorize =>
    cases h
    rfl

theorem Rejection.status_ne (why : Rejection) : why.response.status ≠ 204 := by
  cases why <;> nofun

theorem Deed.status_of_error (d : Deed) (f : Failure) : (d.response (.error f)).status ≠ 204 := by
  cases f with
  | refusal why =>
    show why.kind.status ≠ 204
    cases why.kind <;> decide
  | fault why => nofun

theorem Deed.status_of_placed {env : Env} {s s' : Store} {a : Access} {d : Deed} {board : String}
    {body : Option Json} {command : Command} {reply : Reply} {events : List Event} {view : String}
    (h : d.command board body = .ok command) (placed : d.placed? = some view)
    (step : Step env s a command reply s' events) : (d.response (.ok reply)).status = 204 := by
  cases d with
  | categorize c v =>
    cases h
    cases step
    rfl
  | uncategorize v =>
    cases h
    cases step
    rfl
  | create | list | reorder | get | update | delete | reorderViews | setVisibility => cases placed

theorem Incoming.places_iff {i : Incoming} {s : Store} {d : Deed} {q : BoardViews.Request}
    {view : String} (asks : Asks i.env s i.request d q) :
    i.Places s view ↔
      d.placed? = some view ∧ (d.response (q.run i.env s).result).status = 204 := by
  have status : (i.exchange s).response.status = (d.response (q.run i.env s).result).status := by
    unfold Incoming.exchange
    rw [Request.serve_of_asks asks, Response.forOrigin_status]
  obtain ⟨routed, -, -, -⟩ := asks
  constructor
  · rintro ⟨⟨board', d', routed', placed⟩, done⟩
    obtain ⟨-, rfl⟩ := Call.onBoard.inj (Destination.call.inj (routed.symm.trans routed'))
    exact ⟨placed, status ▸ done⟩
  · rintro ⟨placed, done⟩
    exact ⟨⟨_, d, routed, placed⟩, status ▸ done⟩

/-- A request that comes in changes nothing and places no view, or it is a step of one of the users
with a short command, which places the views that the request does. -/
theorem Incoming.cases (i : Incoming) (s : Store) :
    (i.exchange s).store = s ∧ (∀ view, ¬ i.Places s view) ∨
      ∃ (r : BoardViews.Request) (u : User) (a : Access) (reply : Reply) (events : List Event),
        u ∈ s.users.rows ∧ r.user = some u.id ∧ r.command.IsShort ∧ a.Granted s r ∧
        Step i.env s a r.command reply (i.exchange s).store events ∧
        ∀ view, i.Places s view ↔ view ∈ r.command.placed := by
  by_cases reaches : ∃ d q, Asks i.env s i.request d q
  · obtain ⟨d, q, asks⟩ := reaches
    have store : (i.exchange s).store = (q.run i.env s).store :=
      congrArg Exchange.store (Request.serve_of_asks asks)
    have places (view : String) := @Incoming.places_iff i s d q view asks
    rw [store]
    obtain ⟨-, ⟨-, -, mem, -⟩, -, stands⟩ := asks
    rcases Visit.cases ⟨i.env, ⟨some _, some _, _⟩⟩ s with
      ⟨f, failed, still⟩ | ⟨reply, a, events, ok, granted, step⟩
    · refine .inl ⟨still, fun view h => ?_⟩
      obtain ⟨-, done⟩ := (places view).1 h
      exact d.status_of_error f (failed ▸ done)
    · refine .inr ⟨_, _, a, reply, events, mem, rfl, Deed.short_of_command stands, granted, step,
        fun view => ?_⟩
      rw [places, Deed.placed_command stands, Option.mem_toList]
      constructor
      · rintro ⟨placed, -⟩
        exact placed
      · intro placed
        refine ⟨placed, ?_⟩
        exact ok ▸ Deed.status_of_placed stands placed step
  · refine .inl ⟨?_, ?_⟩
    · rcases i.request.serve_cases i.env s with asks | ⟨still, -, -⟩
      · exact absurd asks reaches
      · exact still
    · rintro view ⟨⟨board, d, routed, -⟩, done⟩
      rcases Request.serve_of_routed i.env s routed with ⟨q, asks⟩ | ⟨why, served⟩
      · exact reaches ⟨d, q, asks⟩
      · have served : i.exchange s = _ := served
        rw [served, Response.forOrigin_status] at done
        exact why.status_ne done

theorem Incoming.hasView_iff (i : Incoming) (s : Store) {view : String} :
    (i.exchange s).store.HasView view ↔ s.HasView view ∨ i.Places s view := by
  rcases i.cases s with ⟨still, idle⟩ | ⟨r, u, a, reply, events, -, -, -, -, step, places⟩
  · rw [still]
    exact (or_iff_left (idle view)).symm
  · rw [step.hasView_iff, places]

theorem Incoming.fitsBesidesViews {i : Incoming} {s : Store} (fits : s.FitsBesidesViews)
    (fresh : i.env.freshId.length ≤ 36) : (i.exchange s).store.FitsBesidesViews := by
  rcases i.cases s with ⟨still, -⟩ | ⟨r, u, a, reply, events, mem, sender, short, granted, step, -⟩
  · rw [still]
    exact fits
  · have same : u.id = a.user := Option.some.inj (sender.symm.trans granted.user)
    exact fits.step step granted short fresh (same ▸ fits.users u mem)

end Http

/-! ## Runs -/

namespace Store

/-- The store after requests that come in one after the other. -/
def served (s : Store) (run : List Http.Incoming) : Store :=
  run.foldl (fun s i => (i.exchange s).store) s

variable {s : Store} {run : List Http.Incoming}

/-- The views with memberships after a run are those before it and those that were placed. -/
theorem hasView_served {view : String} :
    (s.served run).HasView view ↔ s.HasView view ∨
      ∃ past i later, run = past ++ i :: later ∧ i.Places (s.served past) view := by
  induction run generalizing s with
  | nil =>
    refine (or_iff_left ?_).symm
    rintro ⟨past, i, later, split, -⟩
    simp at split
  | cons i run ih =>
    show (((i.exchange s).store).served run).HasView view ↔ _
    rw [ih, i.hasView_iff, or_assoc]
    refine or_congr_right ?_
    constructor
    · rintro (first | ⟨past, j, later, rfl, later_⟩)
      · exact ⟨[], i, run, rfl, first⟩
      · exact ⟨i :: past, j, later, rfl, later_⟩
    · rintro ⟨past, j, later, split, places⟩
      cases past with
      | nil =>
        obtain ⟨rfl, rfl⟩ := List.cons.inj split
        exact .inl places
      | cons k past =>
        obtain ⟨rfl, rfl⟩ := List.cons.inj split
        exact .inr ⟨past, j, later, rfl, places⟩

theorem FitsBesidesViews.served (fits : s.FitsBesidesViews)
    (fresh : ∀ i ∈ run, i.env.freshId.length ≤ 36) : (s.served run).FitsBesidesViews := by
  induction run generalizing s with
  | nil => exact fits
  | cons i run ih =>
    obtain ⟨first, others⟩ := List.forall_mem_cons.1 fresh
    exact ih (Http.Incoming.fitsBesidesViews fits first) others

/-- Over HTTP, whatever is sent, categories are stored that fit their columns. Memberships do so as
long as no view with an id of more than 36 characters is put into a category or taken out of all,
for the id is taken from the path as it is. -/
theorem stored_texts_fit_but_for_long_views (fits : s.Fits)
    (fresh : ∀ i ∈ run, i.env.freshId.length = 32) :
    (∀ c ∈ (s.served run).categories.rows, Schema.Model.viewCategories.Fits c.fields) ∧
      ((∀ m ∈ (s.served run).memberships.rows,
          Schema.Model.viewCategoryViews.Fits m.fields) ↔
        ∀ past i later view, run = past ++ i :: later → i.Places (s.served past) view →
          view.length ≤ 36) := by
  have short : ∀ i ∈ run, i.env.freshId.length ≤ 36 := by
    intro i hi
    have length := fresh i hi
    omega
  have besides := fits.besidesViews.served short
  have before : ∀ view, s.HasView view → view.length ≤ 36 :=
    fits.besidesViews.memberships_iff.1 fits.memberships
  refine ⟨besides.categories, besides.memberships_iff.trans ?_⟩
  constructor
  · intro all past i later view split places
    exact all view (hasView_served.2 (.inr ⟨past, i, later, split, places⟩))
  · intro all view stored
    rcases hasView_served.1 stored with old | ⟨past, i, later, split, places⟩
    · exact before view old
    · exact all past i later view split places

/-- A user on a board of theirs, before any category was created. -/
def owned : Store :=
  { users := .ofList [⟨"u", "u", .int 1, .int 1⟩]
    boards := .ofList [⟨"b", "t", "", "u", .int 1, .int 1, .int 0⟩] }

theorem fits_owned : owned.Fits where
  users u hu := by
    obtain rfl := List.mem_singleton.1 hu
    exact User.fits_iff.2 (by decide)
  boards b hb := by
    obtain rfl := List.mem_singleton.1 hb
    exact Board.fits_iff.2 (by decide)
  members m hm := by cases hm
  categories c hc := by cases hc
  memberships m hm := by cases hm

/-- A request of that user that takes a view out of all categories, with a new id at hand. -/
def takingOut (view : String) : Http.Incoming :=
  { env := { Env.sample with freshId := "00000000000000000000000000000001" }
    request := .sample "POST" (Http.uncategorizePath "b" view) }

theorem asks_takingOut {view : String} (segment : Http.IsSegment view) :
    Http.Asks (takingOut view).env owned (takingOut view).request (.uncategorize view)
      ⟨some "u", some "b", .uncategorize view⟩ :=
  .intro (u := ⟨"u", "u", .int 1, .int 1⟩)
    (Http.destination_uncategorizePath (by decide) segment)
    ⟨Token.sample, Http.Request.credentials?_sample _ _, List.mem_singleton.2 rfl,
      Token.subject_sample⟩ rfl rfl

theorem memberships_takingOut {view : String} (segment : Http.IsSegment view) :
    (owned.served [takingOut view]).memberships.rows = [⟨view, "", false, .int 0⟩] := by
  show ((takingOut view).request.serve (takingOut view).env owned).store.memberships.rows = _
  rw [Http.Request.serve_of_asks (asks_takingOut segment)]
  rfl

/-- A view with an id of 36 characters is stored, and everything fits. -/
theorem view_of_full_length_fits :
    let run := [takingOut "012345678901234567890123456789012345"]
    (owned.served run).memberships.rows =
        [⟨"012345678901234567890123456789012345", "", false, .int 0⟩] ∧
      (∀ c ∈ (owned.served run).categories.rows, Schema.Model.viewCategories.Fits c.fields) ∧
      ∀ m ∈ (owned.served run).memberships.rows,
        Schema.Model.viewCategoryViews.Fits m.fields := by
  intro run
  have segment : Http.IsSegment "012345678901234567890123456789012345" := by decide
  have stored := memberships_takingOut segment
  have fresh : ∀ i ∈ run, i.env.freshId.length = 32 := by
    intro i hi
    obtain rfl := List.mem_singleton.1 hi
    decide
  obtain ⟨categories, memberships⟩ := stored_texts_fit_but_for_long_views fits_owned fresh
  refine ⟨stored, categories, memberships.2 ?_⟩
  intro past i later other split places
  -- The only view that has a membership in the end is this one.
  obtain ⟨m, hm, rfl⟩ : (owned.served run).HasView other :=
    hasView_served.2 (.inr ⟨past, i, later, split, places⟩)
  rw [stored, List.mem_singleton] at hm
  subst hm
  decide

/-- A view with an id of 37 characters is stored all the same. -/
theorem longer_view_does_not_fit :
    ¬ ∀ (s : Store) (run : List Http.Incoming), s.Fits →
      (∀ i ∈ run, i.env.freshId.length = 32) →
        ∀ m ∈ (s.served run).memberships.rows,
          Schema.Model.viewCategoryViews.Fits m.fields := by
  intro all
  have segment : Http.IsSegment "0123456789012345678901234567890123456" := by decide
  have fresh : ∀ i ∈ [takingOut "0123456789012345678901234567890123456"],
      i.env.freshId.length = 32 := by
    intro i hi
    obtain rfl := List.mem_singleton.1 hi
    decide
  have fits := all owned [takingOut "0123456789012345678901234567890123456"] fits_owned fresh
  rw [memberships_takingOut segment] at fits
  have short := (Membership.fits_iff.1 (fits _ (List.mem_singleton.2 rfl))).1
  exact absurd short (by decide)

end Store

end BoardViews
