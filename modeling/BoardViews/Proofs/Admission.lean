import BoardViews.Proofs.Authority

/-
  What comes of a check (`_require_board`, `_require_category`, `_require_owned_category`). Each
  check passes for what `Step` says was found, and where there is nothing of the kind it fails for
  one reason; the lemmas list the cases, told by the rows alone.
-/

namespace BoardViews.Store

variable {s : Store} {a : Access} {id : Option String} {c q : Category} {b : String}

/-! ## Boards -/

theorem board?_eq_some_iff {board : Option String} {row : Board} :
    s.board? board = some row ↔ row ∈ s.boards.rows ∧ board = some row.id ∧ row.isLive = true := by
  unfold board?
  rw [Option.filter_eq_some_iff, Option.bind_eq_some_iff]
  constructor
  · rintro ⟨⟨i, rfl, found⟩, live⟩
    obtain ⟨mem, rfl⟩ := Table.find?_eq_some_iff.1 found
    exact ⟨mem, rfl, live⟩
  · rintro ⟨mem, rfl, live⟩
    exact ⟨⟨_, rfl, Table.find?_eq_some_iff.2 ⟨mem, rfl⟩⟩, live⟩

/-- A user who created a board or is a member of it. -/
def LetsIn (s : Store) (user board : Option String) : Prop :=
  ∃ u b, user = some u ∧ board = some b ∧
    ((∃ row ∈ s.boards.rows, row.id = b ∧ row.createdBy = u) ∨
      ∃ m ∈ s.members.rows, m.boardId = b ∧ m.userId = u)

theorem canView_iff {user board : Option String} :
    s.canView user board = true ↔ s.LetsIn user board := by
  have created {u b : String} : (s.boards.find? b).any (·.createdBy == u) = true ↔
      ∃ row ∈ s.boards.rows, row.id = b ∧ row.createdBy = u := by
    rw [Option.any_eq_true]
    simp only [Table.find?_eq_some_iff, beq_iff_eq, and_assoc]
  have joined {u b : String} : (s.members.find? (b, u)).isSome = true ↔
      ∃ m ∈ s.members.rows, m.boardId = b ∧ m.userId = u := by
    rw [Option.isSome_iff_exists]
    simp only [Table.find?_eq_some_iff, Member.key, Prod.mk.injEq]
  unfold canView LetsIn
  split
  · next u b =>
    rw [Bool.or_eq_true, created, joined]
    constructor
    · intro h
      exact ⟨u, b, rfl, rfl, h⟩
    · rintro ⟨_, _, ⟨⟩, ⟨⟩, h⟩
      exact h
  · next absent =>
    constructor
    · intro h
      cases h
    · rintro ⟨u, b, rfl, rfl, -⟩
      exact absurd rfl (absent u b rfl)

/-- There is no such board, or the user may not view it, or the user has access to it. -/
theorem access_cases (s : Store) (user board : Option String) :
    s.board? board = none ∧ s.access user board = .error (.noBoard board) ∨
      (s.board? board).isSome = true ∧ s.canView user board = false ∧
        s.access user board = .error .boardDenied ∨
      ∃ a : Access, s.board? board = some a.board ∧ user = some a.user ∧
        s.canView user board = true ∧ s.access user board = .ok a := by
  unfold access
  cases hb : s.board? board with
  | none => exact .inl ⟨rfl, rfl⟩
  | some row =>
    cases user with
    | none => exact .inr (.inl ⟨rfl, rfl, rfl⟩)
    | some u =>
      cases hv : s.canView (some u) board with
      | false => exact .inr (.inl ⟨rfl, rfl, rfl⟩)
      | true => exact .inr (.inr ⟨⟨u, row⟩, rfl, rfl, rfl, rfl⟩)

/-! ## Categories -/

/-- At most one category of a board is found under an id. -/
theorem HasLive.eq (h : s.HasLive b id c) (k : s.HasLive b id q) : c = q := by
  have same : c.id = q.id := Option.some.inj (h.named.symm.trans k.named)
  exact Table.eq_of_key h.mem k.mem same

/-- There is such a category, or there is none. -/
theorem liveCategory_cases (s : Store) (b : String) (id : Option String) :
    (∃ c, s.HasLive b id c ∧ s.liveCategory b id = .ok c) ∨
      (¬ ∃ c, s.HasLive b id c) ∧ s.liveCategory b id = .error (.noCategory id) := by
  have found (c : Category) (h : s.HasLive b id c) : s.liveCategory b id = .ok c := by
    obtain ⟨mem, rfl, kept, onBoard⟩ := h
    have hc : s.category? (some c.id) = some c := Table.find?_eq_some_iff.2 ⟨mem, rfl⟩
    unfold liveCategory
    rw [hc]
    exact if_pos (by simp [kept, onBoard])
  by_cases h : ∃ c, s.HasLive b id c
  · obtain ⟨c, hc⟩ := h
    exact .inl ⟨c, hc, found c hc⟩
  · refine .inr ⟨h, ?_⟩
    cases hl : s.liveCategory b id with
    | ok c => exact absurd ⟨c, liveCategory_ok hl⟩ h
    | error why =>
      unfold liveCategory at hl
      split at hl
      · exact hl.symm
      · split at hl
        · cases hl
        · exact hl.symm

/-- There is such a category of the user, or it is not theirs, or there is none. -/
theorem ownedCategory_cases (s : Store) (a : Access) (id : Option String) :
    (∃ c, s.HasOwned a id c ∧ s.ownedCategory a id = .ok c) ∨
      (∃ c, s.HasLive a.board.id id c ∧ c.userId ≠ a.user ∧
        s.ownedCategory a id = .error .categoryDenied) ∨
      (¬ ∃ c, s.HasLive a.board.id id c) ∧ s.ownedCategory a id = .error (.noCategory id) := by
  unfold ownedCategory
  rcases s.liveCategory_cases a.board.id id with ⟨c, live, h⟩ | ⟨absent, h⟩
  · rw [h]
    by_cases owner : c.userId = a.user
    · exact .inl ⟨c, ⟨live, owner⟩, if_pos owner⟩
    · exact .inr (.inl ⟨c, live, owner, if_neg owner⟩)
  · rw [h]
    exact .inr (.inr ⟨absent, rfl⟩)

end BoardViews.Store
