import BoardViews.Proofs.Rows

/-
  Writes that succeed. A session that succeeds has carried out all of its statements and reached its
  commit, so for each write there is one equation for what it leaves.
-/

namespace BoardViews

theorem Table.added_ok {α κ : Type} [DecidableEq κ] {key : α → κ} {t u : Table key}
    {columns : List String} {r : α} :
    t.added columns r = .ok u ↔ t.insert? r = some u ∧ u.rows.length ≤ capacity := by
  unfold added
  cases h : t.insert? r with
  | none => simp
  | some v =>
    dsimp only
    split
    · next hv =>
      constructor
      · intro e
        cases e
        exact ⟨rfl, hv⟩
      · rintro ⟨e, -⟩
        cases e
        rfl
    · next hv =>
      constructor
      · intro e
        cases e
      · rintro ⟨e, hu⟩
        cases e
        exact absurd hu hv

namespace Store

variable {s s' : Store} {connected : Bool}

/-- A session that succeeds has reached its commit, and what it wrote is stored. -/
theorem transact_ok {α : Type} {doing : String} {work : Work α} {a : α}
    (h : (s.transact connected doing work).result = .ok a) :
    connected = true ∧ ∃ s', work.run s = .ok a s' ∧
      s.transact connected doing work = ⟨.ok a, s', []⟩ := by
  unfold transact attempt at h ⊢
  rw [committed_run] at h ⊢
  cases hw : work.run s with
  | error f s' =>
    simp only [hw, Outcome.broken, Outcome.blaming] at h
    split at h <;> cases h
  | ok a' s' =>
    cases connected with
    | false =>
      simp only [hw, Outcome.broken, Outcome.blaming] at h
      cases h
    | true =>
      rw [hw] at h
      cases h
      exact ⟨rfl, s', rfl, rfl⟩

/-- A session that changes the store by a function leaves what the function makes of it. -/
theorem transact_modify_ok {α : Type} {doing : String} {f : Store → Store} {a b : α}
    (h : (s.transact connected doing (do modify f; return b)).result = .ok a) :
    connected = true ∧ a = b ∧
      s.transact connected doing (do modify f; return b) = ⟨.ok b, f s, []⟩ := by
  obtain ⟨hc, s', hw, ho⟩ := transact_ok h
  simp only [Work.run_bind_eq_ok, Work.run_modify, Work.run_pure] at hw
  obtain ⟨_, _, hm, hp⟩ := hw
  cases hm
  cases hp
  exact ⟨hc, rfl, ho⟩

/-- So does one that makes a check in front of that, and the check passed. -/
theorem transact_checked_ok {α : Type} {doing : String} {check : Except Fault Unit}
    {f : Store → Store} {a b : α}
    (h : (s.transact connected doing (do check; modify f; return b)).result = .ok a) :
    connected = true ∧ check = .ok () ∧ a = b ∧
      s.transact connected doing (do check; modify f; return b) = ⟨.ok b, f s, []⟩ := by
  obtain ⟨hc, s', hw, ho⟩ := transact_ok h
  simp only [Work.run_bind_eq_ok, Work.run_lift_eq_ok, Work.run_modify, Work.run_pure] at hw
  obtain ⟨_, _, ⟨hh, rfl⟩, _, _, hm, hp⟩ := hw
  cases hm
  cases hp
  exact ⟨hc, hh, rfl, ho⟩

theorem insertCategory_ok {c : Category} {u : Unit} (h : (insertCategory c).run s = .ok u s') :
    ∃ t, s.categories.insert? c = some t ∧ t.rows.length ≤ Table.capacity ∧
      s' = { s with categories := t } := by
  unfold insertCategory at h
  simp only [Work.run_bind_eq_ok, Work.run_lift_eq_ok, Work.run_get, Work.run_set] at h
  obtain ⟨_, _, hg, t, _, ⟨ht, rfl⟩, hs⟩ := h
  cases hg
  cases hs
  obtain ⟨hi, hl⟩ := Table.added_ok.1 ht
  exact ⟨t, hi, hl, rfl⟩

theorem createCategory_ok {c c' : Category} (h : (s.createCategory connected c).result = .ok c') :
    connected = true ∧ handOver [c.createAt, c.updateAt, c.deleteAt, c.sortOrder] = .ok () ∧
      ∃ t, s.categories.insert? c = some t ∧ t.rows.length ≤ Table.capacity ∧
        s.createCategory connected c = ⟨.ok c, lowerSiblings { s with categories := t } c, []⟩ := by
  obtain ⟨hc, s', hw, ho⟩ := transact_ok h
  simp only [addCategory, Work.run_bind_eq_ok, Work.run_lift_eq_ok, Work.run_modify,
    Work.run_pure] at hw
  obtain ⟨_, _, ⟨hh, rfl⟩, _, _, ⟨_, _, hi, hl⟩, hp⟩ := hw
  obtain ⟨t, ht, room, rfl⟩ := insertCategory_ok hi
  cases hl
  cases hp
  exact ⟨hc, hh, t, ht, room, ho⟩

theorem saveCategory_ok {c c' : Category} (h : (s.saveCategory connected c).result = .ok c') :
    connected = true ∧ handOver [c.updateAt] = .ok () ∧
      s.saveCategory connected c = ⟨.ok c, s.putCategory c, []⟩ := by
  obtain ⟨reached, handed, rfl, stored⟩ := transact_checked_ok h
  exact ⟨reached, handed, stored⟩

theorem deleteCategory_ok {id user board : String} {millis : Int} {n : Nat}
    (h : (s.deleteCategory connected id user board millis).result = .ok n) :
    connected = true ∧ handOver [.int millis] = .ok () ∧
      s.deleteCategory connected id user board millis =
        ⟨.ok n, s.markDeleted id user board millis, []⟩ := by
  obtain ⟨reached, handed, rfl, stored⟩ := transact_checked_ok h
  exact ⟨reached, handed, stored⟩

/-- Memberships with one view put into a category. -/
def placed (category : String) (t : Table Membership.viewId) (view : String) :
    Table Membership.viewId :=
  match t.insert? ⟨view, category, false, .int 0⟩ with
  | some t' => t'
  | none =>
    t.mapRows (Membership.relocated category view) (Membership.relocated_viewId category view)

/-- The store with views put into a category, one after the other. -/
def moved (s : Store) (category : String) (views : List String) : Store :=
  { s with memberships := views.foldl (placed category) s.memberships }

theorem placed_of_insert? {category view : String} {t u : Table Membership.viewId}
    (h : t.insert? ⟨view, category, false, .int 0⟩ = some u) : placed category t view = u := by
  unfold placed
  rw [h]

theorem placed_of_find? {category view : String} {t : Table Membership.viewId} {m : Membership}
    (h : t.find? view = some m) :
    placed category t view = t.mapRows (Membership.relocated category view)
      (Membership.relocated_viewId category view) := by
  unfold placed
  rw [(t.insert?_eq_none_iff _).2 ⟨m, Table.find?_eq_some_iff.1 h⟩]

/-- No membership is lost when views are put into a category, and each of them adds one at most. -/
theorem length_placed (category : String) (t : Table Membership.viewId) (view : String) :
    t.rows.length ≤ (placed category t view).rows.length ∧
      (placed category t view).rows.length ≤ t.rows.length + 1 := by
  unfold placed
  split
  · next u hu =>
    have longer := Table.length_insert? hu
    omega
  · rw [Table.mapRows_rows, List.length_map]
    omega

theorem length_moved (s : Store) (category : String) (views : List String) :
    s.memberships.rows.length ≤ (s.moved category views).memberships.rows.length ∧
      (s.moved category views).memberships.rows.length ≤
        s.memberships.rows.length + views.length := by
  induction views generalizing s with
  | nil => exact ⟨Nat.le_refl _, Nat.le_refl _⟩
  | cons v vs ih =>
    have both : s.moved category (v :: vs) = (s.moved category [v]).moved category vs := rfl
    have first : s.memberships.rows.length ≤ (s.moved category [v]).memberships.rows.length ∧
        (s.moved category [v]).memberships.rows.length ≤ s.memberships.rows.length + 1 :=
      length_placed category s.memberships v
    have rest := ih (s.moved category [v])
    rw [both, List.length_cons]
    omega

/-- A table that was made from another one by adding rows has place for them. -/
def HasRoom {α κ : Type} {key : α → κ} (t u : Table key) : Prop :=
  u.rows.length = t.rows.length ∨ u.rows.length ≤ Table.capacity

/-- Rows that are added in two goes have place if they have it in each. -/
theorem hasRoom_trans_iff {α κ : Type} {key : α → κ} {t u w : Table key}
    (first : t.rows.length ≤ u.rows.length) (rest : u.rows.length ≤ w.rows.length) :
    HasRoom t u ∧ HasRoom u w ↔ HasRoom t w := by
  unfold HasRoom
  omega

theorem place_eq_ok_iff {category view : String} {t u : Table Membership.viewId} :
    place category view t = .ok u ↔ u = placed category t view ∧ HasRoom t u := by
  constructor
  · intro h
    unfold place at h
    split at h
    · obtain ⟨hi, fits⟩ := Table.added_ok.1 h
      exact ⟨(placed_of_insert? hi).symm, .inr fits⟩
    · next m found =>
      cases h
      exact ⟨(placed_of_find? found).symm, .inl (List.length_map _)⟩
  · rintro ⟨hu, room⟩
    unfold place
    cases hf : t.find? view with
    | none =>
      cases hi : t.insert? ⟨view, category, false, .int 0⟩ with
      | none =>
        obtain ⟨m, hm, same⟩ := (t.insert?_eq_none_iff _).1 hi
        rw [Table.find?_eq_some_iff.2 ⟨hm, same⟩] at hf
        cases hf
      | some u' =>
        obtain rfl : u = u' := hu.trans (placed_of_insert? hi)
        have longer := Table.length_insert? hi
        have fits : u.rows.length ≤ Table.capacity := room.resolve_left (by omega)
        exact Table.added_ok.2 ⟨hi, fits⟩
    | some m =>
      rw [hu, placed_of_find? hf]

theorem moveView_eq_ok_iff {category view : String} :
    (moveView category view).run s = .ok () s' ↔
      s' = s.moved category [view] ∧ HasRoom s.memberships s'.memberships := by
  unfold moveView
  simp only [Work.run_bind_eq_ok, Work.run_lift_eq_ok, Work.run_get, Work.run_set]
  constructor
  · rintro ⟨_, _, hg, t, _, ⟨ht, rfl⟩, hs⟩
    cases hg
    cases hs
    obtain ⟨rfl, room⟩ := place_eq_ok_iff.1 ht
    exact ⟨rfl, room⟩
  · rintro ⟨rfl, room⟩
    exact ⟨s, s, rfl, _, s, ⟨place_eq_ok_iff.2 ⟨rfl, room⟩, rfl⟩, rfl⟩

/-- Whether views can be put into a category is decided by how many memberships there are then. -/
theorem moveViews_eq_ok_iff {category : String} {views : List String} :
    (moveViews category views).run s = .ok () s' ↔
      s' = s.moved category views ∧ HasRoom s.memberships s'.memberships := by
  unfold moveViews
  induction views generalizing s with
  | nil =>
    constructor
    · intro h
      cases h
      exact ⟨rfl, .inl rfl⟩
    · rintro ⟨rfl, -⟩
      rfl
  | cons v vs ih =>
    obtain ⟨first, -⟩ := s.length_moved category [v]
    obtain ⟨rest, -⟩ := (s.moved category [v]).length_moved category vs
    have both : s.moved category (v :: vs) = (s.moved category [v]).moved category vs := rfl
    rw [List.forM_eq_forM] at ih ⊢
    rw [List.forM_cons, Work.run_bind_eq_ok, both]
    constructor
    · rintro ⟨_, t, hv, hvs⟩
      obtain ⟨rfl, room⟩ := moveView_eq_ok_iff.1 hv
      obtain ⟨rfl, more⟩ := ih.1 hvs
      exact ⟨rfl, (hasRoom_trans_iff first rest).1 ⟨room, more⟩⟩
    · rintro ⟨rfl, whole⟩
      obtain ⟨room, more⟩ := (hasRoom_trans_iff first rest).2 whole
      exact ⟨(), _, moveView_eq_ok_iff.2 ⟨rfl, room⟩, ih.2 ⟨rfl, more⟩⟩

/-- A session that puts views into a category and then looks at the store. -/
theorem transact_moveViews_ok {α : Type} {doing category : String} {views : List String}
    {g : Store → α} {a : α}
    (h : (s.transact connected doing do
      moveViews category views
      let s' ← get
      return g s').result = .ok a) :
    connected = true ∧ a = g (s.moved category views) ∧
      (s.transact connected doing do
        moveViews category views
        let s' ← get
        return g s') = ⟨.ok a, s.moved category views, []⟩ := by
  obtain ⟨hc, s', hw, ho⟩ := transact_ok h
  simp only [Work.run_bind_eq_ok, Work.run_get, Work.run_pure] at hw
  obtain ⟨_, _, hm, _, _, hg, hp⟩ := hw
  obtain ⟨rfl, -⟩ := moveViews_eq_ok_iff.1 hm
  cases hg
  cases hp
  exact ⟨hc, rfl, ho⟩

theorem placeViews_ok {category : String} {views : List String} {ms : List Membership}
    (h : (s.placeViews connected category views).result = .ok ms) :
    connected = true ∧ ms = views.filterMap (s.moved category views).memberships.find? ∧
      s.placeViews connected category views = ⟨.ok ms, s.moved category views, []⟩ :=
  transact_moveViews_ok h

theorem placeView_ok {category view : String} {m : Membership}
    (h : (s.placeView connected category view).result = .ok m) :
    connected = true ∧
      m = ((s.moved category [view]).memberships.find? view).getD
        ⟨view, category, false, .int 0⟩ ∧
      s.placeView connected category view = ⟨.ok m, s.moved category [view], []⟩ :=
  transact_moveViews_ok h

theorem setVisibility_ok {category view : String} {visible : Bool} {n : Nat}
    (h : (s.setVisibility connected category view visible).result = .ok n) :
    connected = true ∧ s.setVisibility connected category view visible =
      ⟨.ok n, s.markHidden category view (!visible), []⟩ := by
  obtain ⟨reached, rfl, stored⟩ := transact_modify_ok h
  exact ⟨reached, stored⟩

/-- An order that is not taken has no sort orders to give. -/
theorem applyCategoryPlan_stale {b : String} {p : Plan RawText} (h : p.assignments = []) :
    s.applyCategoryPlan b p = s := by
  unfold applyCategoryPlan
  rw [Table.mapRows_eq_self _ fun r _ => ?_]
  unfold Category.arranged Plan.sortOrder?
  rw [h]
  split <;> rfl

theorem applyViewPlan_stale {category : String} {p : Plan RawText} (h : p.assignments = []) :
    s.applyViewPlan category p = s := by
  unfold applyViewPlan
  rw [Table.mapRows_eq_self _ fun r _ => ?_]
  unfold Membership.arranged Plan.sortOrder?
  rw [h]
  split <;> rfl

theorem events_staleNotes (what : String) (got stored : Nat) :
    Note.events (staleNotes what got stored) = [] := by
  unfold staleNotes
  split <;> rfl

/-- Reordering stores what its plan says, which is nothing if the proposal is stale. -/
theorem reorderCategories_ok {b : String} {proposed ids : List RawText}
    (h : (s.reorderCategories connected b proposed).result = .ok ids) :
    ((reconcile (s.categoryOrder b) proposed).accepted = true → connected = true) ∧
      ids = (reconcile (s.categoryOrder b) proposed).order ∧
      (s.reorderCategories connected b proposed).store =
        s.applyCategoryPlan b (reconcile (s.categoryOrder b) proposed) ∧
      Note.events (s.reorderCategories connected b proposed).notes = [] := by
  unfold reorderCategories at h ⊢
  dsimp only at h ⊢
  split at h
  · next hp =>
    rw [if_pos hp]
    obtain ⟨reached, rfl, stored⟩ := transact_modify_ok h
    rw [stored]
    exact ⟨fun _ => reached, rfl, rfl, rfl⟩
  · next hp =>
    rw [if_neg hp]
    cases h
    refine ⟨fun ha => absurd ha hp, rfl, ?_, events_staleNotes _ _ _⟩
    exact (applyCategoryPlan_stale (reconcile_assignments_of_stale (by simpa using hp))).symm

/-- Reordering where the store can be reached gives back the order of the plan. -/
theorem reorderCategories_result (s : Store) (b : String) (proposed : List RawText) :
    (s.reorderCategories true b proposed).result =
      .ok (reconcile (s.categoryOrder b) proposed).order := by
  unfold reorderCategories
  dsimp only
  split <;> rfl

theorem reorderViews_result (s : Store) (category : String) (proposed : List RawText) :
    (s.reorderViews true category proposed).result =
      .ok (reconcile (s.viewOrder category) proposed).order := by
  unfold reorderViews
  dsimp only
  split <;> rfl

theorem reorderViews_ok {category : String} {proposed ids : List RawText}
    (h : (s.reorderViews connected category proposed).result = .ok ids) :
    ((reconcile (s.viewOrder category) proposed).accepted = true → connected = true) ∧
      ids = (reconcile (s.viewOrder category) proposed).order ∧
      (s.reorderViews connected category proposed).store =
        s.applyViewPlan category (reconcile (s.viewOrder category) proposed) ∧
      Note.events (s.reorderViews connected category proposed).notes = [] := by
  unfold reorderViews at h ⊢
  dsimp only at h ⊢
  split at h
  · next hp =>
    rw [if_pos hp]
    obtain ⟨reached, rfl, stored⟩ := transact_modify_ok h
    rw [stored]
    exact ⟨fun _ => reached, rfl, rfl, rfl⟩
  · next hp =>
    rw [if_neg hp]
    cases h
    refine ⟨fun ha => absurd ha hp, rfl, ?_, events_staleNotes _ _ _⟩
    exact (applyViewPlan_stale (reconcile_assignments_of_stale (by simpa using hp))).symm

end Store

end BoardViews
