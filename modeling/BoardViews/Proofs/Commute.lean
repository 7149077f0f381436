import BoardViews.Proofs.Lifecycle
import BoardViews.Proofs.Success
import BoardViews.Proofs.Unseen

/-
  Requests on different boards commute. A command that moves no views stays on its board: it
  changes categories of the board alone, and memberships in these alone, although a membership
  does not say what board it is on. So a request on one board looks the same, to a user on another
  one, as if nothing had happened, and whichever of the two comes first, each is answered in the
  same way and the same rows are stored in the end.

  A category that is created is the one thing that reaches further. Its id must be free on all
  boards, it takes up place in a table that all share, and there may be memberships that wait for
  it; `Store.AlikeFor` says what two stores have to have in common for that. `Store.Apart` is what
  is assumed: neither request is `categorize` or `uncategorize`, their boards differ, and two that
  both create a category give it different ids and do not compete for the last place in the table.
-/

namespace BoardViews

/-! ## Commands that stay on their board -/

namespace Command

/-- A command that stays on its board: one that moves no views. -/
def isLocal : Command → Bool
  | .categorize _ _ | .uncategorize _ => false
  | .create _ _ _ _ | .get _ | .update _ _ _ | .delete _ | .list | .reorder _ | .reorderViews _ _
  | .setVisibility _ _ _ => true

/-- The id of the category that a command creates, if it creates one. -/
def newId? (env : Env) : Command → Option String
  | .create _ _ id _ => some ((stripped? id).getD env.freshId)
  | _ => none

theorem within_or_create {command : Command} (stays : command.isLocal = true) :
    command.isWithin = true ∨
      ∃ name type id collapsed, command = .create name type id collapsed := by
  cases command with
  | create name type id collapsed => exact .inr ⟨name, type, id, collapsed, rfl⟩
  | categorize id views => cases stays
  | uncategorize view => cases stays
  | _ => exact .inl rfl

end Command

/-- The memberships in the category of an id. -/
def Store.viewRows (s : Store) (id : String) : List Membership :=
  s.memberships.rows.filter fun m => m.categoryId == id

section

variable {env : Env} {s s' : Store} {a : Access} {command : Command} {reply : Reply}
  {events : List Event} {i : String}

open Store

theorem Store.mem_viewRows {m : Membership} :
    m ∈ s.viewRows i ↔ m ∈ s.memberships.rows ∧ m.categoryId = i := by
  simp [viewRows]

/-- Every category is stored with those of its board, and every membership with those of its
category. -/
theorem Store.mem_categories_iff {c : Category} :
    c ∈ s.categories.rows ↔ c ∈ s.rowsOn c.boardId := by
  rw [mem_rowsOn]
  exact (and_iff_left rfl).symm

theorem Store.mem_memberships_iff_viewRows {m : Membership} :
    m ∈ s.memberships.rows ↔ m ∈ s.viewRows m.categoryId := by
  rw [mem_viewRows]
  exact (and_iff_left rfl).symm

theorem Store.viewRows_of_map {f : Membership → Membership}
    (h : s'.memberships.rows = s.memberships.rows.map f)
    (kept : ∀ m, (f m).categoryId = m.categoryId) (i : String) :
    s'.viewRows i = (s.viewRows i).map f := by
  unfold viewRows
  rw [h]
  refine filter_map_of fun m _ => ?_
  rw [kept]

theorem Store.viewRows_of_map_self {f : Membership → Membership}
    (h : s'.memberships.rows = s.memberships.rows.map f)
    (kept : ∀ m, (f m).categoryId = m.categoryId) (same : ∀ m ∈ s.viewRows i, f m = m) :
    s'.viewRows i = s.viewRows i := by
  rw [viewRows_of_map h kept]
  exact (List.map_congr_left same).trans (List.map_id' _)

/-- A step that stays on its board changes no memberships but those in categories of the board. -/
theorem Step.viewRows_other (step : Step env s a command reply s' events)
    (stays : command.isLocal = true) (other : ∀ c ∈ s.rowsOn a.board.id, c.id ≠ i) :
    s'.viewRows i = s.viewRows i := by
  have ne {id : Option String} {c : Category} (owned : s.HasOwned a id c) {m : Membership}
      (hm : m ∈ s.viewRows i) : m.categoryId ≠ c.id := by
    rw [(mem_viewRows.1 hm).2]
    exact (other c (mem_rowsOn.2 ⟨owned.mem, owned.onBoard⟩)).symm
  cases step with
  | create titled typed clock word made added room reached => rfl
  | get found => rfl
  | update owned titled clock word reached => rfl
  | delete owned clock word reached => rfl
  | list => rfl
  | reorder plan reached => rfl
  | categorize target stored reached => cases stays
  | uncategorize stored reached => cases stays
  | reorderViews owned plan reached =>
    refine viewRows_of_map_self rfl (Membership.arranged_categoryId _ _) fun m hm => ?_
    exact Membership.arranged_of_other (ne owned hm)
  | setVisibility owned reached =>
    refine viewRows_of_map_self rfl (Membership.masked_categoryId _ _ _) fun m hm => ?_
    exact Membership.masked_of_other (ne owned hm)

end

/-- A step that stays on its board is not seen on another one. -/
theorem Step.looksLike_other {env : Env} {s s' : Store} {a : Access} {r : Request} {reply : Reply}
    {events : List Event} (step : Step env s a r.command reply s' events)
    (granted : a.Granted s r) (stays : r.command.isLocal = true) {user board : Option String}
    (other : board ≠ some a.board.id) : s.LooksLike user board s' := by
  have framed := step.framed granted
  have apart {c : Category} (seen : c.IsSeenOn board) : c.boardId ≠ a.board.id := by
    intro same
    apply other
    rw [seen.onBoard, same]
  constructor
  · rw [framed.boards]
  · unfold Store.canView
    rw [framed.boards, framed.members]
  · intro c seen
    have same := step.rowsOn_other (apart seen)
    rw [Store.mem_categories_iff, Store.mem_categories_iff, same]
  · intro c hc seen m hm
    have same : s'.viewRows c.id = s.viewRows c.id := by
      refine step.viewRows_other stays fun q hq same => apart seen ?_
      obtain ⟨mem, onBoard⟩ := Store.mem_rowsOn.1 hq
      rw [← Table.eq_of_key mem hc same, onBoard]
    rw [Store.mem_memberships_iff_viewRows, Store.mem_memberships_iff_viewRows, hm, same]

/-! ## Creations in stores that look the same -/

/-- What two stores have in common for a category under an id to be created in both of them in the
same way. -/
structure Store.AlikeFor (s t : Store) (id : String) : Prop where
  taken : (∃ c ∈ s.categories.rows, c.id = id) ↔ ∃ c ∈ t.categories.rows, c.id = id
  room : s.categories.rows.length < Table.capacity ↔ t.categories.rows.length < Table.capacity
  waiting : (¬∃ c ∈ s.categories.rows, c.id = id) → s.viewRows id = t.viewRows id

namespace Store.LooksLike

variable {s t : Store} {user board : Option String} {c : Category} {u u' : Table Category.id}

/-- A category that is added to both is seen in both. -/
theorem insertCategory (alike : s.LooksLike user board t)
    (added : s.categories.insert? c = some u) (added' : t.categories.insert? c = some u')
    (waiting : s.viewRows c.id = t.viewRows c.id) :
    Store.LooksLike { s with categories := u } user board { t with categories := u' } where
  row := alike.row
  viewer := alike.viewer
  categories q seen := by
    rw [Table.insert?_rows added, Table.insert?_rows added', List.mem_append, List.mem_append]
    exact or_congr_left (alike.categories q seen)
  memberships q hq seen m hm := by
    rw [Table.insert?_rows added, List.mem_append, List.mem_singleton] at hq
    rcases hq with hq | rfl
    · exact alike.memberships q hq seen m hm
    · rw [mem_memberships_iff_viewRows, mem_memberships_iff_viewRows, hm]
      exact iff_of_eq (congrArg (m ∈ ·) waiting)

theorem lowerSiblings (alike : s.LooksLike user board t) (c : Category) :
    (s.lowerSiblings c).LooksLike user board (t.lowerSiblings c) := by
  have seen {q : Category} (h : (c.lowered q).IsSeenOn board) : q.IsSeenOn board := by
    unfold Category.lowered at h
    split at h
    · exact ⟨h.onBoard, h.kept⟩
    · exact h
  exact alike.mapCategories c.lowered_id (fun _ _ => seen) fun _ _ => seen

theorem createCategory (alike : s.LooksLike user board t) (new : s.AlikeFor t c.id)
    (connected : Bool) :
    (s.createCategory connected c).Matches user board (t.createCategory connected c) := by
  let columns := ["view_categories.id"]
  refine alike.transact (.check fun _ => ?_) _ _
  have left := s.addCategory_run c
  have right := t.addCategory_run c
  by_cases taken : ∃ q ∈ s.categories.rows, q.id = c.id
  · rw [Table.added_of_taken taken columns] at left
    rw [Table.added_of_taken (new.taken.1 taken) columns] at right
    rw [Work.run_bind_error left, Work.run_bind_error right]
    exact .error
  · have taken' := mt new.taken.2 taken
    by_cases room : s.categories.rows.length < Table.capacity
    · obtain ⟨u, added, -⟩ := Table.added_of_free taken room columns
      obtain ⟨u', added', -⟩ := Table.added_of_free taken' (new.room.1 room) columns
      rw [added] at left
      rw [added'] at right
      rw [Work.run_bind_ok left, Work.run_bind_ok right]
      refine .ok (lowerSiblings (alike.insertCategory ?_ ?_ (new.waiting taken)) c)
      · exact (Table.added_ok.1 added).1
      · exact (Table.added_ok.1 added').1
    · rw [Table.added_of_full taken room columns] at left
      rw [Table.added_of_full taken' (mt new.room.2 room) columns] at right
      rw [Work.run_bind_error left, Work.run_bind_error right]
      exact .error

end Store.LooksLike

/-- A request that stays on its board is carried out in the same way in stores that look the same,
if it creates nothing or they are alike for what it creates. -/
theorem Request.matches_run_local (env : Env) {s t : Store} {r : Request}
    (stays : r.command.isLocal = true) (alike : s.LooksLike r.user r.board t)
    (new : ∀ id, r.command.newId? env = some id → s.AlikeFor t id) :
    (r.run env s).Matches r.user r.board (r.run env t) := by
  rcases Command.within_or_create stays with within | ⟨name, type, id, collapsed, hc⟩
  · exact matches_run env within alike
  · refine Outcome.Matches.deliver ?_ _
    unfold attempt
    rw [← alike.admitted_eq]
    split
    · exact ⟨rfl, rfl, alike⟩
    · next a task admitted =>
      obtain ⟨-, granted, ht⟩ := Store.admitted_ok admitted
      rw [granted.board_id] at alike ⊢
      rw [hc] at new ht
      cases ht
      refine Env.matches_timed alike fun millis => .map (.noting ?_ _) _
      exact alike.createCategory (new _ rfl) _

/-! ## Steps in stores that look the same -/

/-- A store comes from another one by adding categories, by changing each category on its board, and
by changing each membership within its category. -/
structure Store.ActsBy (new : List Category) (f : Category → Category)
    (g : Membership → Membership) (s s' : Store) : Prop where
  categories : s'.categories.rows = (s.categories.rows ++ new).map f
  onBoard : ∀ r ∈ s.categories.rows ++ new, (f r).boardId = r.boardId
  memberships : s'.memberships.rows = s.memberships.rows.map g
  inside : ∀ m, (g m).categoryId = m.categoryId

namespace Store.ActsBy

variable {new : List Category} {f : Category → Category} {g : Membership → Membership}
  {s s' : Store}

theorem refl (s : Store) : s.ActsBy [] id id s where
  categories := by rw [List.append_nil, List.map_id]
  onBoard _ _ := rfl
  memberships := (List.map_id _).symm
  inside _ := rfl

theorem mapCategories (hk : ∀ c, (f c).id = c.id)
    (onBoard : ∀ r ∈ s.categories.rows, (f r).boardId = r.boardId) :
    s.ActsBy [] f id { s with categories := s.categories.mapRows f hk } where
  categories := by rw [Table.mapRows_rows, List.append_nil]
  onBoard := by
    rw [List.append_nil]
    exact onBoard
  memberships := (List.map_id _).symm
  inside _ := rfl

theorem mapMemberships (hk : ∀ m, (g m).viewId = m.viewId)
    (inside : ∀ m, (g m).categoryId = m.categoryId) :
    s.ActsBy [] id g { s with memberships := s.memberships.mapRows g hk } where
  categories := by rw [List.append_nil, List.map_id]
  onBoard _ _ := rfl
  memberships := rfl
  inside := inside

theorem create {c : Category} {u : Table Category.id} (added : s.categories.insert? c = some u) :
    s.ActsBy [c] c.lowered id (lowerSiblings { s with categories := u } c) where
  categories := by
    rw [← Table.insert?_rows added]
    rfl
  onBoard r _ := Category.lowered_boardId c r
  memberships := (List.map_id _).symm
  inside _ := rfl

theorem rowsOn (acts : s.ActsBy new f g s') (b : String) :
    s'.rowsOn b = (s.rowsOn b ++ new.filter fun c => c.boardId == b).map f := by
  unfold Store.rowsOn
  rw [acts.categories, ← List.filter_append]
  refine filter_map_of fun r hr => ?_
  rw [acts.onBoard r hr]

theorem viewRows (acts : s.ActsBy new f g s') (i : String) :
    s'.viewRows i = (s.viewRows i).map g :=
  viewRows_of_map acts.memberships acts.inside i

end Store.ActsBy

section

variable {env : Env} {s s' t t' : Store} {a : Access} {command : Command} {reply reply' : Reply}
  {events events' : List Event} {user : Option String}

open Store

/-- A step that stays on its board does the same to two stores that look the same there. -/
theorem Step.acts_alike (step : Step env s a command reply s' events)
    (step' : Step env t a command reply' t' events') (stays : command.isLocal = true)
    (alike : s.LooksLike user (some a.board.id) t) :
    ∃ new f g, s.ActsBy new f g s' ∧ t.ActsBy new f g t' := by
  -- Both find the same category.
  have found {id : Option String} {c c' : Category} (owned : s.HasOwned a id c)
      (owned' : t.HasOwned a id c') : c' = c :=
    owned'.toHasLive.eq (alike.hasOwned owned).toHasLive
  have read {millis millis' : Int} (clock : env.now.millis = .ok millis)
      (clock' : env.now.millis = .ok millis') : millis' = millis := by
    rw [clock] at clock'
    exact (Except.ok.inj clock').symm
  cases step with
  | create titled typed clock word made added room reached =>
    cases step' with
    | create titled' typed' clock' word' made' added' room' reached' =>
      obtain rfl := read clock clock'
      rw [titled] at titled'
      cases titled'
      rw [← made] at made'
      subst made'
      exact ⟨_, _, _, .create added, .create added'⟩
  | get found => cases step' with | get found' => exact ⟨_, _, _, .refl s, .refl t⟩
  | update owned titled clock word reached =>
    cases step' with
    | update owned' titled' clock' word' reached' =>
      obtain rfl := read clock clock'
      obtain rfl := found owned owned'
      refine ⟨_, _, _, .mapCategories (Category.replaced_id _) fun r hr => ?_,
        .mapCategories (Category.replaced_id _) fun r hr => ?_⟩
      · exact (owned.replaced_edited _ _ _ hr).1
      · exact (owned'.replaced_edited _ _ _ hr).1
  | delete owned clock word reached =>
    cases step' with
    | delete owned' clock' word' reached' =>
      obtain rfl := read clock clock'
      obtain rfl := found owned owned'
      exact ⟨_, _, _, .mapCategories _ fun r _ => Category.tombstoned_boardId _ _ _ _ r,
        .mapCategories _ fun r _ => Category.tombstoned_boardId _ _ _ _ r⟩
  | list => cases step' with | list => exact ⟨_, _, _, .refl s, .refl t⟩
  | reorder plan reached =>
    cases step' with
    | reorder plan' reached' =>
      unfold categoryOrder at plan plan'
      rw [← alike.liveCategories_eq, ← plan] at plan'
      subst plan'
      exact ⟨_, _, _, .mapCategories _ fun r _ => Category.arranged_boardId _ _ r,
        .mapCategories _ fun r _ => Category.arranged_boardId _ _ r⟩
  | categorize target stored reached => cases stays
  | uncategorize stored reached => cases stays
  | reorderViews owned plan reached =>
    cases step' with
    | reorderViews owned' plan' reached' =>
      obtain rfl := found owned owned'
      unfold viewOrder at plan plan'
      rw [← alike.viewsIn_eq owned.mem owned.isSeenOn, ← plan] at plan'
      subst plan'
      exact ⟨_, _, _, .mapMemberships _ (Membership.arranged_categoryId _ _),
        .mapMemberships _ (Membership.arranged_categoryId _ _)⟩
  | setVisibility owned reached =>
    cases step' with
    | setVisibility owned' reached' =>
      obtain rfl := found owned owned'
      exact ⟨_, _, _, .mapMemberships _ (Membership.masked_categoryId _ _ _),
        .mapMemberships _ (Membership.masked_categoryId _ _ _)⟩

/-- So where the stores have the same rows of some board or category, the same ones are left. -/
theorem Step.rows_congr (step : Step env s a command reply s' events)
    (step' : Step env t a command reply' t' events') (stays : command.isLocal = true)
    (alike : s.LooksLike user (some a.board.id) t) :
    (∀ b, s.rowsOn b = t.rowsOn b → s'.rowsOn b = t'.rowsOn b) ∧
      ∀ i, s.viewRows i = t.viewRows i → s'.viewRows i = t'.viewRows i := by
  obtain ⟨new, f, g, acts, acts'⟩ := step.acts_alike step' stays alike
  constructor
  · intro b same
    rw [acts.rowsOn, acts'.rowsOn, same]
  · intro i same
    rw [acts.viewRows, acts'.viewRows, same]

end

/-! ## Visits to different boards -/

/-- The id of the category that a visit creates, if it is to create one. -/
def Visit.newId? (v : Visit) : Option String := v.request.command.newId? v.env

/-- Two visits that stay on their boards, which are different ones. Where both of them create a
category, these have different ids, and the table has place for both of them or for none. -/
structure Store.Apart (s : Store) (v w : Visit) : Prop where
  stays : v.request.command.isLocal = true
  stays' : w.request.command.isLocal = true
  boards : v.request.board ≠ w.request.board
  ids : ∀ id, v.newId? = some id → w.newId? ≠ some id
  place : v.newId?.isSome = true → w.newId?.isSome = true →
    s.categories.rows.length + 1 ≠ Table.capacity

theorem Store.Apart.symm {s : Store} {v w : Visit} (apart : s.Apart v w) : s.Apart w v where
  stays := apart.stays'
  stays' := apart.stays
  boards := apart.boards.symm
  ids id hw hv := apart.ids id hv hw
  place hw hv := apart.place hv hw

/-- Two stores with the same rows, in whatever order categories and memberships are stored. -/
structure Store.SameRows (s t : Store) : Prop where
  users : s.users = t.users
  boards : s.boards = t.boards
  members : s.members = t.members
  categories : s.categories.rows.Perm t.categories.rows
  memberships : s.memberships.rows.Perm t.memberships.rows

theorem Store.SameRows.refl (s : Store) : s.SameRows s := ⟨rfl, rfl, rfl, .refl _, .refl _⟩

theorem Table.perm_of_mem_iff {α κ : Type} {key : α → κ} {t u : Table key}
    (h : ∀ r, r ∈ t.rows ↔ r ∈ u.rows) : t.rows.Perm u.rows :=
  (List.perm_ext_iff_of_nodup (t.nodup.of_map key) (u.nodup.of_map key)).2 h

/-- The one category whose id is new after a step has the id that its command creates. -/
theorem Step.made?_eq {env : Env} {s s' : Store} {a : Access} {r : Request} {reply : Reply}
    {events : List Event} (step : Step env s a r.command reply s' events) :
    r.made? (.ok reply) = r.command.newId? env := by
  unfold Request.made?
  generalize r.command = command at step
  cases step with
  | create titled typed clock word made added room reached =>
    subst made
    rfl
  | _ => rfl

/-- A user on a board has the same access to it in stores that look the same. -/
theorem Access.Granted.eq {s t : Store} {a a' : Access} {r : Request} (granted : a.Granted s r)
    (granted' : a'.Granted t r) (alike : s.LooksLike r.user r.board t) : a' = a := by
  have user : a'.user = a.user := by
    have same := granted'.user
    rw [granted.user] at same
    exact (Option.some.inj same).symm
  have board : a'.board = a.board := by
    have same := granted'.board
    unfold Store.board? at same
    rw [← alike.row] at same
    exact Option.some.inj (same.symm.trans granted.board)
  obtain ⟨u, b⟩ := a
  cases user
  cases board
  rfl

namespace Visit

variable {s : Store} {v w : Visit}

/-- What a visit leaves is as good as what it found for a category that another one creates. -/
theorem alikeFor (apart : s.Apart v w) {id : String} (hv : v.newId? = some id) :
    s.AlikeFor (w.outcome s).store id := by
  rcases w.cases s with ⟨f, -, hs⟩ | ⟨reply, a, events, -, granted, step⟩
  · rw [hs]
    exact ⟨Iff.rfl, Iff.rfl, fun _ => rfl⟩
  · have ids := step.map_id
    rw [step.made?_eq, ← newId?] at ids
    have length := congrArg List.length ids
    rw [List.length_append, List.length_map, List.length_map] at length
    constructor
    · have other : id ∉ w.newId?.toList := by
        rw [Option.mem_toList]
        exact apart.ids id hv
      rw [← List.mem_map, ← List.mem_map, ids, List.mem_append]
      exact (or_iff_left other).symm
    · cases hw : w.newId? with
      | none =>
        rw [hw] at length
        rw [length]
        rfl
      | some j =>
        have place := apart.place (by rw [hv]; rfl) (by rw [hw]; rfl)
        rw [hw, Option.toList_some, List.length_singleton] at length
        omega
    · intro free
      refine (step.viewRows_other apart.stays' fun c hc same => free ?_).symm
      exact ⟨c, (Store.mem_rowsOn.1 hc).1, same⟩

/-- What a visit does on another board is not seen. -/
theorem looksLike_after (apart : s.Apart v w) :
    s.LooksLike v.request.user v.request.board (w.outcome s).store := by
  rcases w.cases s with ⟨f, -, hs⟩ | ⟨reply, a, events, -, granted, step⟩
  · rw [hs]
    exact .refl s
  · refine step.looksLike_other granted apart.stays' ?_
    rw [← granted.board_id]
    exact apart.boards

/-- It makes no difference to what is done there. -/
theorem matches_after (apart : s.Apart v w) :
    (v.outcome s).Matches v.request.user v.request.board (v.outcome (w.outcome s).store) :=
  Request.matches_run_local v.env apart.stays (looksLike_after apart) fun _ hv =>
    alikeFor apart hv

/-- A visit that fails leaves everything as it is, whether it comes first or last. -/
theorem idle (apart : s.Apart v w) {f : Failure} (hf : (v.outcome s).result = .error f) :
    (v.outcome s).store = s ∧ (v.outcome (w.outcome s).store).store = (w.outcome s).store := by
  refine ⟨(Request.atomic_run _ _ _ f hf).1, ?_⟩
  rw [(matches_after apart).result] at hf
  exact (Request.atomic_run _ _ _ f hf).1

/-- One that succeeds is a step of the same user on the same board. -/
theorem step_after (apart : s.Apart v w) {a : Access} {reply : Reply}
    (granted : a.Granted s v.request) (ok : (v.outcome s).result = .ok reply) :
    ∃ events, Step v.env (w.outcome s).store a v.request.command reply
      (v.outcome (w.outcome s).store).store events := by
  rw [(matches_after apart).result] at ok
  obtain ⟨a', events, granted', step, -⟩ := Request.run_ok ok
  rw [granted.eq granted' (looksLike_after apart)] at step
  exact ⟨events, step⟩

end Visit

/-! ## Both orders -/

/-- Rows that are the same on each board and in each category are the same altogether. -/
theorem Store.sameRows_of {s t : Store} (users : s.users = t.users) (boards : s.boards = t.boards)
    (members : s.members = t.members) (rowsOn : ∀ b, s.rowsOn b = t.rowsOn b)
    (viewRows : ∀ i, s.viewRows i = t.viewRows i) : s.SameRows t where
  users := users
  boards := boards
  members := members
  categories := Table.perm_of_mem_iff fun c => by
    rw [mem_categories_iff, mem_categories_iff, rowsOn]
  memberships := Table.perm_of_mem_iff fun m => by
    rw [mem_memberships_iff_viewRows, mem_memberships_iff_viewRows, viewRows]

/-- Of two steps on different boards, the one does not touch what is not on its board, so there the
other one leaves the same, whether it comes first or last. -/
theorem Step.meet {env env' : Env} {s sv sw svw swv : Store} {a b : Access}
    {command command' : Command} {r₁ r₂ r₃ r₄ : Reply} {e₁ e₂ e₃ e₄ : List Event}
    {user : Option String} (v : Step env s a command r₁ sv e₁)
    (v' : Step env sw a command r₂ swv e₂) (w : Step env' s b command' r₃ sw e₃)
    (w' : Step env' sv b command' r₄ svw e₄) (stays : command.isLocal = true)
    (stays' : command'.isLocal = true) (boards : a.board.id ≠ b.board.id)
    (alike : s.LooksLike user (some b.board.id) sv) :
    (∀ x, x ≠ a.board.id → svw.rowsOn x = swv.rowsOn x) ∧
      ∀ i, (∀ c ∈ s.rowsOn a.board.id, c.id ≠ i) → svw.viewRows i = swv.viewRows i := by
  obtain ⟨rows, views⟩ := w.rows_congr w' stays' alike
  constructor
  · intro x hx
    rw [← rows x (v.rowsOn_other hx).symm, v'.rowsOn_other hx]
  · intro i other
    have other' : ∀ c ∈ sw.rowsOn a.board.id, c.id ≠ i := by
      rw [w.rowsOn_other boards]
      exact other
    rw [← views i (v.viewRows_other stays other).symm, v'.viewRows_other stays other']

/-- Two visits to different boards leave the same rows in either order. -/
theorem Visit.sameRows {s : Store} {v w : Visit} (apart : s.Apart v w) :
    (w.outcome (v.outcome s).store).store.SameRows (v.outcome (w.outcome s).store).store := by
  rcases v.cases s with ⟨f, hf, -⟩ | ⟨reply, a, events, hv, granted, v₁⟩
  · obtain ⟨first, last⟩ := idle apart hf
    rw [first, last]
    exact .refl _
  rcases w.cases s with ⟨f, hf, -⟩ | ⟨reply', b, events', hw, granted', w₁⟩
  · obtain ⟨first, last⟩ := idle apart.symm hf
    rw [first, last]
    exact .refl _
  obtain ⟨_, v₂⟩ := step_after apart granted hv
  obtain ⟨_, w₂⟩ := step_after apart.symm granted' hw
  have boards : a.board.id ≠ b.board.id := by
    intro same
    apply apart.boards
    rw [granted.board_id, granted'.board_id, same]
  have seen := looksLike_after apart
  have seen' := looksLike_after apart.symm
  rw [granted.board_id] at seen
  rw [granted'.board_id] at seen'
  obtain ⟨rows, views⟩ := Step.meet v₁ v₂ w₁ w₂ apart.stays apart.stays' boards seen'
  obtain ⟨rows', views'⟩ := Step.meet w₁ w₂ v₁ v₂ apart.stays' apart.stays boards.symm seen
  have fv := v.framed s
  have fw := w.framed s
  have fvw := w.framed (v.outcome s).store
  have fwv := v.framed (w.outcome s).store
  apply Store.sameRows_of
  · rw [fvw.users, fwv.users, fv.users, fw.users]
  · rw [fvw.boards, fwv.boards, fv.boards, fw.boards]
  · rw [fvw.members, fwv.members, fv.members, fw.members]
  · intro x
    by_cases hx : x = a.board.id
    · rw [hx]
      exact (rows' _ boards).symm
    · exact rows x hx
  · intro i
    by_cases other : ∀ c ∈ s.rowsOn a.board.id, c.id ≠ i
    · exact views i other
    · -- A category of the one board has the id, so none of the other one has it.
      refine (views' i fun c hc same => other fun q hq same' => boards ?_).symm
      obtain ⟨mem, onBoard⟩ := Store.mem_rowsOn.1 hc
      obtain ⟨mem', onBoard'⟩ := Store.mem_rowsOn.1 hq
      rw [← onBoard, ← onBoard', Table.eq_of_key mem mem' (same.trans same'.symm)]

/-- Requests of any users on different boards that move no views commute: each is answered in the
same way and leaves the same notes, whether it comes first or last, and the same rows are stored in
the end. -/
theorem different_boards_commute {s : Store} {v w : Visit} (apart : s.Apart v w) :
    (v.outcome (w.outcome s).store).result = (v.outcome s).result ∧
      (v.outcome (w.outcome s).store).notes = (v.outcome s).notes ∧
      (w.outcome (v.outcome s).store).result = (w.outcome s).result ∧
      (w.outcome (v.outcome s).store).notes = (w.outcome s).notes ∧
      (s.after [v, w]).SameRows (s.after [w, v]) := by
  have first := Visit.matches_after apart
  have second := Visit.matches_after apart.symm
  exact ⟨first.result.symm, first.notes.symm, second.result.symm, second.notes.symm,
    Visit.sameRows apart⟩

/-- Two users each create a category on their board, where each has one already: the one that comes
first is stored first, and nothing else is different. -/
theorem creations_on_two_boards_commute :
    let s := Store.sample.after
      [.sample "u" "b" (.creation "a"), .sample "w" "d" (.creation "x")]
    let v := Visit.sample "u" "b" (.creation "c")
    let w := Visit.sample "w" "d" (.creation "y")
    (s.after [v, w]).categories.rows.map Category.id = ["a", "x", "c", "y"] ∧
      (s.after [w, v]).categories.rows.map Category.id = ["a", "x", "y", "c"] ∧
      (s.after [v, w]).SameRows (s.after [w, v]) ∧
      (v.outcome (w.outcome s).store).result = (v.outcome s).result := by
  intro s v w
  have apart : s.Apart v w := by
    refine ⟨rfl, rfl, by decide, ?_, fun _ _ => by decide⟩
    intro id hv hw
    exact absurd (hv.trans hw.symm) (by decide)
  obtain ⟨same, -, -, -, rows⟩ := different_boards_commute apart
  exact ⟨by decide, by decide, rows, same⟩

end BoardViews
