import BoardViews.Proofs.Lookup
import BoardViews.Proofs.Replay

/-
  Sort orders are bounded by the rows there are. A creation (`create`) moves live categories down
  without asking how far down they are already, and a proposal that is no permutation (`reorder`,
  `reorder_within_category`) leaves some rows where they were; but a sort order only ever moves by
  one gap when a row is added, and it is only ever counted anew within a list that has no more
  elements than there are rows. So every sort order is that of a place among all rows, the deleted
  ones with them, and they are what the bound counts.

  Runs start from a store without categories and memberships and may be of any visits; the bounds
  `CategoriesOnGrid` and `MembershipsOnGrid` are kept by each step.
-/

namespace BoardViews

/-! ## Places -/

/-- The first integer that 32 bits are too few for, 2^31. -/
def columnEnd : Int := 2147483648

/-- A sort order that `count` rows have a place for: a multiple of ten, from zero up to that of the
last place. -/
def Cell.OnGrid (count : Nat) (x : Cell) : Prop :=
  ∃ n : Int, x = .int n ∧ 10 ∣ n ∧ 0 ≤ n ∧ n ≤ 10 * ((count : Int) - 1)

namespace Cell

variable {count more : Nat} {x : Cell}

theorem onGrid_iff : x.OnGrid count ↔ ∃ k : Nat, k < count ∧ x = .int (k * gap) := by
  unfold OnGrid gap
  constructor
  · rintro ⟨n, rfl, multiple, positive, below⟩
    refine ⟨(n / 10).toNat, ?_, ?_⟩
    · omega
    · congr 1
      omega
  · rintro ⟨k, below, rfl⟩
    refine ⟨(k : Int) * 10, rfl, ?_, ?_, ?_⟩ <;> omega

theorem OnGrid.mono (h : x.OnGrid count) (le : count ≤ more) : x.OnGrid more := by
  obtain ⟨n, rfl, multiple, positive, below⟩ := h
  exact ⟨n, rfl, multiple, positive, by omega⟩

/-- The first place is there as soon as there is a row. -/
theorem onGrid_zero (h : 0 < count) : (Cell.int 0).OnGrid count := by
  refine ⟨0, rfl, ?_, ?_, ?_⟩ <;> omega

/-- Sort orders of few rows are integers of 32 bits. -/
theorem OnGrid.lt_columnEnd (h : x.OnGrid count) (few : 10 * count < columnEnd) :
    ∃ n : Int, x = .int n ∧ 0 ≤ n ∧ n < columnEnd := by
  obtain ⟨n, rfl, -, positive, below⟩ := h
  exact ⟨n, rfl, positive, by omega⟩

/-- A plan counts places of a proposal that is as long as the current order; what it does not name
stays where it was. -/
theorem OnGrid.arranged {α : Type} [DecidableEq α] {current proposed : List α} {id : α}
    (h : x.OnGrid count) (le : current.length ≤ count) :
    ((((reconcile current proposed).sortOrder? id).map Cell.int).getD x).OnGrid count := by
  cases hn : (reconcile current proposed).sortOrder? id with
  | none => exact h
  | some n =>
    obtain ⟨taken, -, k, last, rfl⟩ := sortOrder?_eq_some_iff.1 hn
    obtain ⟨place, -⟩ := List.getElem?_eq_some_iff.1 last.named
    exact onGrid_iff.2 ⟨k, by omega, rfl⟩

/-- There is a place more when a category was added, and the others move down by one at most. -/
theorem OnGrid.lowered {new r : Category} (h : r.sortOrder.OnGrid count)
    (few : count < Table.capacity) : (new.lowered r).sortOrder.OnGrid (count + 1) := by
  by_cases moves : r.boardId = new.boardId ∧ r.isLive = true ∧ r.id ≠ new.id
  · obtain ⟨onBoard, live, other⟩ := moves
    obtain ⟨k, hk, rank⟩ := onGrid_iff.1 h
    have down := Store.sortOrder_lowered onBoard live other (by omega) rank
    exact onGrid_iff.2 ⟨k + 1, by omega, down⟩
  · have still : new.lowered r = r := if_neg moves
    rw [still]
    exact h.mono (Nat.le_succ _)

end Cell

namespace Store

variable {s s' : Store} {b : String}

/-! ## Categories of a board -/

/-- The categories of a board, deleted or not, have places among themselves. -/
def CategoriesOnGrid (s : Store) (b : String) : Prop :=
  ∀ c ∈ s.rowsOn b, c.sortOrder.OnGrid (s.rowsOn b).length

theorem CategoriesOnGrid.congr (grid : s.CategoriesOnGrid b) (h : s'.rowsOn b = s.rowsOn b) :
    s'.CategoriesOnGrid b := by
  unfold CategoriesOnGrid
  rw [h]
  exact grid

theorem categoriesOnGrid_of_map {f : Category → Category}
    (h : s'.categories.rows = s.categories.rows.map f)
    (kept : ∀ r ∈ s.categories.rows, (f r).boardId = r.boardId)
    (placed : ∀ r ∈ s.rowsOn b, (f r).sortOrder.OnGrid (s.rowsOn b).length) :
    s'.CategoriesOnGrid b := by
  unfold CategoriesOnGrid
  rw [rowsOn_of_map h kept, List.length_map]
  intro r' hr'
  obtain ⟨r, hr, rfl⟩ := List.mem_map.1 hr'
  exact placed r hr

/-- A category that is created makes room for the others to move down. -/
theorem CategoriesOnGrid.create {c : Category} {t : Table Category.id}
    (grid : s.CategoriesOnGrid b) (added : s.categories.insert? c = some t) (hb : c.boardId = b)
    (top : c.sortOrder = .int 0) (room : t.rows.length ≤ Table.capacity) :
    (lowerSiblings { s with categories := t } c).CategoriesOnGrid b := by
  have fits : (s.rowsOn b).length < Table.capacity := by
    have part : (s.rowsOn b).length ≤ s.categories.rows.length := List.length_filter_le _ _
    have one := Table.length_insert? added
    omega
  unfold CategoriesOnGrid
  rw [rowsOn_lowerSiblings added hb, List.length_append, List.length_map, List.length_singleton]
  intro r' hr'
  rw [List.mem_append, List.mem_singleton] at hr'
  rcases hr' with hr' | rfl
  · obtain ⟨r, hr, rfl⟩ := List.mem_map.1 hr'
    exact (grid r hr).lowered fits
  · rw [top]
    exact Cell.onGrid_zero (Nat.succ_pos _)

/-! ## Memberships -/

/-- Memberships have places among all memberships: a view takes its sort order along from one
category into another. -/
def MembershipsOnGrid (s : Store) : Prop :=
  ∀ m ∈ s.memberships.rows, m.sortOrder.OnGrid s.memberships.rows.length

theorem membershipsOnGrid_of_map {f : Membership → Membership}
    (h : s'.memberships.rows = s.memberships.rows.map f)
    (placed : ∀ m ∈ s.memberships.rows, (f m).sortOrder.OnGrid s.memberships.rows.length) :
    s'.MembershipsOnGrid := by
  unfold MembershipsOnGrid
  rw [h, List.length_map]
  intro m' hm'
  obtain ⟨m, hm, rfl⟩ := List.mem_map.1 hm'
  exact placed m hm

/-- A view that is put into a category keeps its place, or has the first one. -/
theorem MembershipsOnGrid.moved (grid : s.MembershipsOnGrid) (category : String)
    (views : List String) : (s.moved category views).MembershipsOnGrid := by
  obtain ⟨more, -⟩ := s.length_moved category views
  intro m' hm'
  have found := mem_memberships_iff.1 hm'
  rw [find?_moved] at found
  split at found
  · have rank := congrArg Membership.sortOrder (Option.some.inj found)
    rw [← rank]
    cases before : s.memberships.find? m'.viewId with
    | none => exact Cell.onGrid_zero (List.length_pos_of_mem hm')
    | some m => exact (grid m (Table.find?_mem before)).mono more
  · exact (grid m' (mem_memberships_iff.2 found)).mono more

end Store

/-! ## Steps -/

section

variable {env : Env} {s s' : Store} {a : Access} {command : Command} {reply : Reply}
  {events : List Event} {b : String}

open Store

theorem Step.categoriesOnGrid (step : Step env s a command reply s' events)
    (grid : s.CategoriesOnGrid b) : s'.CategoriesOnGrid b := by
  by_cases hb : b = a.board.id
  · subst hb
    cases step with
    | create titled typed clock word made added room reached =>
      subst made
      exact grid.create added rfl rfl room
    | get found => exact grid
    | update owned titled clock word reached =>
      refine categoriesOnGrid_of_map rfl (fun r hr => (owned.replaced_edited _ _ _ hr).1)
        fun r hr => ?_
      obtain ⟨-, -, rank⟩ := owned.replaced_edited _ _ _ (mem_rowsOn.1 hr).1
      rw [rank]
      exact grid r hr
    | delete owned clock word reached =>
      refine categoriesOnGrid_of_map rfl (fun r _ => Category.tombstoned_boardId _ _ _ _ r)
        fun r hr => ?_
      unfold Category.tombstoned
      split <;> exact grid r hr
    | list => exact grid
    | reorder plan reached =>
      subst plan
      refine categoriesOnGrid_of_map rfl (fun r _ => Category.arranged_boardId _ _ r)
        fun r hr => ?_
      unfold Category.arranged
      split
      · exact (grid r hr).arranged (s.length_categoryOrder_le _)
      · exact grid r hr
    | categorize target stored reached => exact grid
    | uncategorize stored reached => exact grid
    | reorderViews owned plan reached => exact grid
    | setVisibility owned reached => exact grid
  · exact grid.congr (step.rowsOn_other hb)

theorem Step.membershipsOnGrid (step : Step env s a command reply s' events)
    (grid : s.MembershipsOnGrid) : s'.MembershipsOnGrid := by
  cases step with
  | create titled typed clock word made added room reached => exact grid
  | get found => exact grid
  | update owned titled clock word reached => exact grid
  | delete owned clock word reached => exact grid
  | list => exact grid
  | reorder plan reached => exact grid
  | categorize target stored reached => exact grid.moved _ _
  | uncategorize stored reached => exact grid.moved _ _
  | reorderViews owned plan reached =>
    subst plan
    refine membershipsOnGrid_of_map rfl fun m hm => ?_
    unfold Membership.arranged
    split
    · exact (grid m hm).arranged (s.length_viewOrder_le _)
    · exact grid m hm
  | setVisibility owned reached =>
    refine membershipsOnGrid_of_map rfl fun m hm => ?_
    unfold Membership.masked
    split <;> exact grid m hm

end

/-! ## Runs -/

namespace Store

variable {s : Store}

/-- After any run that starts without categories and memberships, the sort orders of the categories
of a board are multiples of ten that the number of these categories bounds, deleted ones counted,
and those of memberships are such multiples for the number of memberships; so they have no more than
32 bits as long as there are not too many categories on the board. -/
theorem sort_orders_stay_on_grid (noCategories : s.categories.rows = [])
    (noMemberships : s.memberships.rows = []) (run : List Visit) :
    (∀ b, ∀ c ∈ (s.after run).rowsOn b, c.sortOrder.OnGrid ((s.after run).rowsOn b).length) ∧
      (∀ m ∈ (s.after run).memberships.rows,
        m.sortOrder.OnGrid (s.after run).memberships.rows.length) ∧
      ∀ b, 10 * ((s.after run).rowsOn b).length < columnEnd →
        ∀ c ∈ (s.after run).rowsOn b, ∃ n : Int, c.sortOrder = .int n ∧ 0 ≤ n ∧ n < columnEnd := by
  have categories (b : String) : s.CategoriesOnGrid b := by
    unfold CategoriesOnGrid rowsOn
    simp [noCategories]
  have memberships : s.MembershipsOnGrid := by
    unfold MembershipsOnGrid
    simp [noMemberships]
  have placed (b : String) : (s.after run).CategoriesOnGrid b :=
    after_of_step (categories b) fun _ _ _ _ _ _ grid _ _ step => step.categoriesOnGrid grid
  have views : (s.after run).MembershipsOnGrid :=
    after_of_step memberships fun _ _ _ _ _ _ grid _ _ step => step.membershipsOnGrid grid
  exact ⟨placed, views, fun b few c hc => (placed b c hc).lt_columnEnd few⟩

/-- Three categories are created on a board. A proposal is taken that names one of them and two that
there are not: it counts the named one at the last place, where another one is already. Then the
named one is deleted, and it still counts for the bound, which both of them meet. -/
theorem unnamed_and_deleted_rows_stay_on_grid :
    let past : List Visit := [.sample "u" "b" (.creation "a"), .sample "u" "b" (.creation "c"),
      .sample "u" "b" (.creation "e")]
    let last : Visit := .sample "u" "b" (.reorder ["x", "y", "c"])
    let more : List Visit :=
      [.sample "u" "b" (.delete (some "c")), .sample "u" "b" (.categorize (some "a") ["v"])]
    let s := sample.after (past ++ last :: more)
    (s.rowsOn "b").map (fun c => (c.id, c.isLive, c.sortOrder)) =
        [("a", true, .int 20), ("c", false, .int 20), ("e", true, .int 0)] ∧
      (∀ c ∈ s.rowsOn "b", c.sortOrder.OnGrid 3) ∧
      ∀ m ∈ s.memberships.rows, m.sortOrder.OnGrid 1 := by
  intro past last more s
  have current : (sample.after past).categoryOrder "b" = [.whole "e", .whole "c", .whole "a"] := by
    unfold categoryOrder
    rw [liveCategories_eq]
    refine map_tag_displayed (by decide) (by decide) ?_
    decide
  have taken : (last.outcome (sample.after past)).store =
      (sample.after past).applyCategoryPlan "b" (reconcile ["e", "c", "a"] ["x", "y", "c"]) := by
    have answer : (last.outcome (sample.after past)).result =
        .ok (.order (reconcile ((sample.after past).categoryOrder "b") ["x", "y", "c"]).order) :=
      Sequence.run_result (q := .categories) rfl rfl
    obtain ⟨row, p, -, rfl, -, hstore, -⟩ := Sequence.run_ok (q := .categories) answer
    rw [← current]
    exact hstore
  have whole : s = ((sample.after past).applyCategoryPlan "b"
      (reconcile ["e", "c", "a"] ["x", "y", "c"])).after more := by
    rw [← taken]
    exact after_append_cons _ past more last
  have rows : (s.rowsOn "b").map (fun c => (c.id, c.isLive, c.sortOrder)) =
      [("a", true, .int 20), ("c", false, .int 20), ("e", true, .int 0)] := by
    rw [whole]
    decide
  have one : s.memberships.rows.length = 1 := by
    rw [whole]
    decide
  obtain ⟨placed, views, -⟩ :=
    sort_orders_stay_on_grid (s := sample) rfl rfl (past ++ last :: more)
  have three : (s.rowsOn "b").length = 3 := by simpa using congrArg List.length rows
  have onBoard := placed "b"
  change ∀ m ∈ s.memberships.rows, _ at views
  rw [three] at onBoard
  rw [one] at views
  exact ⟨rows, onBoard, views⟩

end Store

end BoardViews
