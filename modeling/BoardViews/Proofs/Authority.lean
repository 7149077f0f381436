import BoardViews.Proofs.Frame
import BoardViews.Proofs.Lookup

/-
  What a user may change. A request changes nothing unless its board is live and open to the user
  (`_require_board`). It takes no row away. Of the categories that were there it changes only
  those of the board: the sort orders of live ones, and all else only of a category that is the
  user's own (`_require_owned_category`). Of the memberships it changes flags and sort orders only
  in a category of the user, and it puts views only into such a category or into none. This holds
  of every request and every store, whether the request fails or not.

  `Table.Evolves` says how a table may go on, row by row under the same keys; each way of writing
  to a table keeps to it, and the theorem splits on the ten steps.
-/

namespace BoardViews

/-! ## Tables that go on -/

/-- A table goes on as another one: every row is still there under its key, in an allowed form, and
a row under a new key is one that may be added. -/
structure Table.Evolves {α κ : Type} {key : α → κ} (allowed : α → α → Prop) (added : α → Prop)
    (t t' : Table key) : Prop where
  kept : ∀ r ∈ t.rows, ∃ r' ∈ t'.rows, key r' = key r ∧ allowed r r'
  new : ∀ r' ∈ t'.rows, (∃ r ∈ t.rows, key r = key r') ∨ added r'

namespace Table.Evolves

variable {α κ : Type} {key : α → κ} {allowed : α → α → Prop} {added : α → Prop} {t u : Table key}
  {f : α → α}

theorem refl (h : ∀ r ∈ t.rows, allowed r r) : Evolves allowed added t t where
  kept r hr := ⟨r, hr, rfl, h r hr⟩
  new r hr := .inl ⟨r, hr, rfl⟩

theorem mapRows (hk : ∀ r, key (f r) = key r) (h : ∀ r ∈ t.rows, allowed r (f r)) :
    Evolves allowed added t (t.mapRows f hk) where
  kept r hr := ⟨f r, List.mem_map_of_mem hr, hk r, h r hr⟩
  new r' hr' := by
    obtain ⟨r, hr, rfl⟩ := List.mem_map.1 hr'
    exact .inl ⟨r, hr, (hk r).symm⟩

/-- A row is added, and then all rows are changed. -/
theorem insert_mapRows [DecidableEq κ] {c : α} (hc : t.insert? c = some u)
    (hk : ∀ r, key (f r) = key r) (h : ∀ r ∈ t.rows, allowed r (f r)) (new : added (f c)) :
    Evolves allowed added t (u.mapRows f hk) where
  kept r hr := by
    refine ⟨f r, List.mem_map_of_mem ?_, hk r, h r hr⟩
    rw [Table.insert?_rows hc]
    exact List.mem_append_left _ hr
  new r' hr' := by
    obtain ⟨r, hr, rfl⟩ := List.mem_map.1 hr'
    rw [Table.insert?_rows hc, List.mem_append, List.mem_singleton] at hr
    rcases hr with hr | rfl
    · exact .inl ⟨r, hr, (hk r).symm⟩
    · exact .inr new

end Table.Evolves

/-! ## What is allowed -/

/-- A live board that the user created or is a member of. -/
def Store.Admits (s : Store) (user board : Option String) : Prop :=
  ∃ b ∈ s.boards.rows, ∃ u, board = some b.id ∧ user = some u ∧ b.isLive = true ∧
    (b.createdBy = u ∨ ∃ m ∈ s.members.rows, m.boardId = b.id ∧ m.userId = u)

/-- A category of the user on the board that is not deleted; where its deletion time is an integer,
as that of every category of the service is, that means that it is live. -/
structure Category.IsOwnedBy (user board : Option String) (c : Category) : Prop where
  kept : c.isDeleted = false
  live : ∀ n, c.deleteAt = .int n → c.isLive = true
  onBoard : board = some c.boardId
  owner : user = some c.userId

/-- What may become of a category where a user does something on a board. -/
structure Category.Framed (user board : Option String) (c c' : Category) : Prop where
  id : c'.id = c.id
  owner : c'.userId = c.userId
  onBoard : c'.boardId = c.boardId
  createAt : c'.createAt = c.createAt
  type : c'.type = c.type
  edited : c'.name ≠ c.name ∨ c'.collapsed ≠ c.collapsed ∨ c'.updateAt ≠ c.updateAt ∨
    c'.deleteAt ≠ c.deleteAt → c.IsOwnedBy user board
  moved : c'.sortOrder ≠ c.sortOrder → c.isLive = true ∧ board = some c.boardId

/-- A new category is on the board and belongs to the user. -/
def Category.IsMadeBy (user board : Option String) (c : Category) : Prop :=
  board = some c.boardId ∧ user = some c.userId

/-- Whether an id is that of a category of the user on the board. -/
def Store.Owns (s : Store) (user board : Option String) (id : String) : Prop :=
  ∃ c ∈ s.categories.rows, c.id = id ∧ c.IsOwnedBy user board

/-- Where a user may put the views of a board: into a category of theirs, or into none. -/
def Store.MayFill (s : Store) (user board : Option String) (id : String) : Prop :=
  id = uncategorized ∨ s.Owns user board id

/-- What may become of a membership where a user does something on a board. -/
structure Membership.Framed (s : Store) (user board : Option String) (m m' : Membership) :
    Prop where
  view : m'.viewId = m.viewId
  edited : m'.hidden ≠ m.hidden ∨ m'.sortOrder ≠ m.sortOrder → s.Owns user board m.categoryId
  moved : m'.categoryId ≠ m.categoryId → s.MayFill user board m'.categoryId

/-- What may become of a store where a user does something on a board. -/
structure Store.Framed (user board : Option String) (s s' : Store) : Prop where
  users : s'.users = s.users
  boards : s'.boards = s.boards
  members : s'.members = s.members
  categories : Table.Evolves (Category.Framed user board) (Category.IsMadeBy user board)
    s.categories s'.categories
  memberships : Table.Evolves (Membership.Framed s user board)
    (fun m => s.MayFill user board m.categoryId) s.memberships s'.memberships

/-! ## Who is let in -/

section

variable {s : Store} {a : Access} {r : Request} {id : Option String} {c : Category}

/-- Whoever has access to a board may be there. -/
theorem Access.Granted.admits (granted : a.Granted s r) : s.Admits r.user r.board := by
  have hb := granted.board
  have hv := granted.viewer
  have named := granted.board_id
  rw [named] at hb hv
  rw [granted.user] at hv ⊢
  have found : s.boards.find? a.board.id = some a.board ∧ a.board.isLive = true :=
    Option.filter_eq_some_iff.1 hb
  refine ⟨a.board, Table.find?_mem found.1, a.user, named, rfl, found.2, ?_⟩
  simp only [Store.canView, found.1, Option.any_some, Bool.or_eq_true, beq_iff_eq] at hv
  rcases hv with created | member
  · exact .inl created
  · obtain ⟨m, hm⟩ := Option.isSome_iff_exists.1 member
    obtain ⟨mem, key⟩ := Table.find?_eq_some_iff.1 hm
    have hk : m.boardId = a.board.id ∧ m.userId = a.user := Prod.mk.inj key
    exact .inr ⟨m, mem, hk⟩

theorem Category.isLive_of_kept {n : Int} (kept : c.isDeleted = false) (h : c.deleteAt = .int n) :
    c.isLive = true := by
  unfold Category.isDeleted at kept
  rw [h] at kept
  have zero : n = 0 := by simpa [Cell.isYes] using kept
  simp [Category.isLive, h, zero]

/-- A live category does not count as deleted. -/
theorem Category.kept_of_isLive (live : c.isLive = true) : c.isDeleted = false := by
  have zero : c.deleteAt = .int 0 := by simpa [Category.isLive] using live
  rw [Category.isDeleted, zero]
  rfl

theorem Store.HasOwned.isOwnedBy (owned : s.HasOwned a id c) (granted : a.Granted s r) :
    c.IsOwnedBy r.user r.board where
  kept := owned.kept
  live _ h := Category.isLive_of_kept owned.kept h
  onBoard := by rw [granted.board_id, owned.onBoard]
  owner := by rw [granted.user, owned.owner]

theorem Store.HasOwned.owns (owned : s.HasOwned a id c) (granted : a.Granted s r) :
    s.Owns r.user r.board c.id :=
  ⟨c, owned.mem, rfl, owned.isOwnedBy granted⟩

theorem Store.HasTarget.mayFill {t : String} (target : s.HasTarget a id t)
    (granted : a.Granted s r) : s.MayFill r.user r.board t := by
  cases target with
  | none named => exact .inl rfl
  | owned owned => exact .inr (owned.owns granted)

end

/-! ## Categories -/

namespace Category.Framed

variable {user board : Option String} {r : Category}

theorem refl (r : Category) : r.Framed user board r where
  id := rfl
  owner := rfl
  onBoard := rfl
  createAt := rfl
  type := rfl
  edited h := by simp at h
  moved h := absurd rfl h

/-- A live category of the board with another sort order. -/
theorem ranked (live : r.isLive = true) (onBoard : board = some r.boardId) (n : Cell) :
    r.Framed user board { r with sortOrder := n } where
  id := rfl
  owner := rfl
  onBoard := rfl
  createAt := rfl
  type := rfl
  edited h := by simp at h
  moved _ := ⟨live, onBoard⟩

theorem lowered {new : Category} (onBoard : board = some new.boardId) :
    r.Framed user board (new.lowered r) := by
  unfold Category.lowered
  split
  · next h =>
    refine ranked h.2.1 ?_ _
    rw [onBoard, h.1]
  · exact refl r

theorem arranged {b : String} {p : Plan RawText} (onBoard : board = some b) :
    r.Framed user board (r.arranged b p) := by
  unfold Category.arranged
  split
  · next h =>
    refine ranked h.2 ?_ _
    rw [onBoard, h.1]
  · exact refl r

/-- A category of the user, edited. -/
theorem changed (own : r.IsOwnedBy user board) (millis : Int) (name : Option String)
    (collapsed : Option Bool) : r.Framed user board (r.edited millis name collapsed) where
  id := rfl
  owner := rfl
  onBoard := rfl
  createAt := rfl
  type := rfl
  edited _ := own
  moved h := absurd rfl h

/-- A category of the user, deleted. -/
theorem deleted (own : r.IsOwnedBy user board) (millis : Int) :
    r.Framed user board { r with deleteAt := .int millis } where
  id := rfl
  owner := rfl
  onBoard := rfl
  createAt := rfl
  type := rfl
  edited _ := own
  moved h := absurd rfl h

end Category.Framed

/-! ## Memberships -/

namespace Membership.Framed

variable {s : Store} {user board : Option String} {m : Membership} {category : String}

theorem refl (m : Membership) : m.Framed s user board m where
  view := rfl
  edited h := by simp at h
  moved h := absurd rfl h

theorem arranged {p : Plan RawText} (own : s.Owns user board category) :
    m.Framed s user board (m.arranged category p) := by
  unfold Membership.arranged
  split
  · next h =>
    subst h
    exact { view := rfl, edited := fun _ => own, moved := fun h => absurd rfl h }
  · exact refl m

theorem masked {view : String} {hidden : Bool} (own : s.Owns user board category) :
    m.Framed s user board (m.masked category view hidden) := by
  unfold Membership.masked
  split
  · next h =>
    have hc : m.categoryId = category := by
      simp only [Membership.isIn, Bool.and_eq_true, beq_iff_eq] at h
      exact h.2
    subst hc
    exact { view := rfl, edited := fun _ => own, moved := fun h => absurd rfl h }
  · exact refl m

theorem carried (own : s.MayFill user board category) :
    m.Framed s user board (.carried category m.viewId (some m)) where
  view := rfl
  edited h := by simp [Membership.carried] at h
  moved _ := own

end Membership.Framed

/-- Views are put where they may be put. -/
theorem Store.evolves_moved {s : Store} {user board : Option String} {category : String}
    (own : s.MayFill user board category) (views : List String) :
    Table.Evolves (Membership.Framed s user board) (fun m => s.MayFill user board m.categoryId)
      s.memberships (s.moved category views).memberships where
  kept m hm := by
    have found := Store.mem_memberships_iff.1 hm
    have after := s.find?_moved category views m.viewId
    rw [found] at after
    split at after
    · exact ⟨_, Table.find?_mem after, rfl, .carried own⟩
    · exact ⟨m, Table.find?_mem after, rfl, .refl m⟩
  new m' hm' := by
    have after := Store.mem_memberships_iff.1 hm'
    rw [s.find?_moved] at after
    split at after
    · rw [← Option.some.inj after]
      exact .inr own
    · exact .inl ⟨m', Table.find?_mem after, rfl⟩

/-! ## Requests -/

section

variable {env : Env} {s s' : Store} {a : Access} {r : Request} {reply : Reply}
  {events : List Event}

theorem Store.Framed.refl (user board : Option String) (s : Store) : s.Framed user board s where
  users := rfl
  boards := rfl
  members := rfl
  categories := .refl fun c _ => .refl c
  memberships := .refl fun m _ => .refl m

/-- A step changes what its user may change. -/
theorem Step.framed (step : Step env s a r.command reply s' events) (granted : a.Granted s r) :
    s.Framed r.user r.board s' := by
  have named := granted.board_id
  have keep := Store.Framed.refl r.user r.board s
  generalize r.command = command at step
  cases step with
  | create titled typed clock word made added room reached =>
    subst made
    refine { keep with
      categories := .insert_mapRows added (Category.lowered_id _) (fun q _ => .lowered named) ?_ }
    -- The new category is not one of those that move down for it.
    refine ⟨?_, ?_⟩
    · rw [Category.lowered_boardId]
      exact named
    · rw [granted.user, Category.lowered]
      split <;> rfl
  | get found => exact keep
  | update owned titled clock word reached =>
    refine { keep with categories := .mapRows (Category.replaced_id _) fun q hq => ?_ }
    rcases owned.replaced_cases hq _ _ _ with h | ⟨rfl, h⟩
    · rw [h]
      exact .refl q
    · rw [h]
      exact .changed (owned.isOwnedBy granted) _ _ _
  | delete owned clock word reached =>
    refine { keep with categories := .mapRows (Category.tombstoned_id _ _ _ _) fun q hq => ?_ }
    rcases owned.tombstoned_cases hq _ _ _ with h | ⟨rfl, h⟩
    · rw [h]
      exact .refl q
    · rw [h]
      exact .deleted (owned.isOwnedBy granted) _
  | list => exact keep
  | reorder plan reached =>
    exact { keep with categories := .mapRows (Category.arranged_id _ _) fun q _ => .arranged named }
  | categorize target stored reached =>
    exact { keep with memberships := Store.evolves_moved (target.mayFill granted) _ }
  | uncategorize stored reached =>
    exact { keep with memberships := Store.evolves_moved (.inl rfl) _ }
  | reorderViews owned plan reached =>
    exact { keep with
      memberships := .mapRows (Membership.arranged_viewId _ _) fun m _ =>
        .arranged (owned.owns granted) }
  | setVisibility owned reached =>
    exact { keep with
      memberships := .mapRows (Membership.masked_viewId _ _ _) fun m _ =>
        .masked (owned.owns granted) }

end

theorem Visit.framed (v : Visit) (s : Store) :
    s.Framed v.request.user v.request.board (v.outcome s).store := by
  rcases v.cases s with ⟨f, -, hs⟩ | ⟨reply, a, events, -, granted, step⟩
  · rw [hs]
    exact .refl _ _ s
  · exact step.framed granted

/-- A request changes the store only on a live board that the user may view, and there only what is
the user's to change. -/
theorem request_stays_within_authority (env : Env) (s : Store) (r : Request) :
    ((r.run env s).store ≠ s → s.Admits r.user r.board) ∧
      s.Framed r.user r.board (r.run env s).store := by
  rcases Visit.cases ⟨env, r⟩ s with ⟨f, -, hs⟩ | ⟨reply, a, events, -, granted, step⟩
  · have unchanged : (r.run env s).store = s := hs
    rw [unchanged]
    exact ⟨fun h => absurd rfl h, .refl _ _ s⟩
  · exact ⟨fun _ => granted.admits, step.framed granted⟩

end BoardViews
