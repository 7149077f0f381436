import BoardViews.Proofs.Display
import BoardViews.Proofs.Step

/-
  What a step leaves alone. Categories stay on their boards and keep their ids, so a step on one
  board changes no category of another. Memberships know nothing of boards: a step changes those of
  its own category, and it takes views out of whatever category they are in.
-/

namespace BoardViews

/-! ## Categories of other boards -/

namespace Category

theorem lowered_of_other {new r : Category} (h : r.boardId ≠ new.boardId) : new.lowered r = r :=
  if_neg fun hr => h hr.1

theorem lowered_self (c : Category) : c.lowered c = c := if_neg fun h => h.2.2 rfl

theorem arranged_of_other {board : String} {p : Plan RawText} {r : Category}
    (h : r.boardId ≠ board) : arranged board p r = r :=
  if_neg fun hr => h hr.1

theorem tombstoned_of_other {id user board : String} {millis : Int} {r : Category}
    (h : r.boardId ≠ board) : tombstoned id user board millis r = r := by
  unfold tombstoned isOwned
  rw [beq_false_of_ne h, Bool.and_false]
  rfl

end Category

namespace Store

variable {s : Store} {a : Access} {id : Option String} {b board : String} {c : Category}

/-- A category that was added is on its own board only. -/
theorem rowsOn_insert? {t : Table Category.id} (h : s.categories.insert? c = some t) (b : String) :
    ({ s with categories := t } : Store).rowsOn b =
      s.rowsOn b ++ if c.boardId = b then [c] else [] := by
  unfold rowsOn
  rw [Table.insert?_rows h, List.filter_append]
  congr 1
  by_cases hb : c.boardId = b
  · simp [hb]
  · simp [hb]

/-- The row that an edited category takes the place of is the category. -/
theorem HasOwned.eq_of_id (owned : s.HasOwned a id c) {r : Category}
    (hr : r ∈ s.categories.rows) (h : r.id = c.id) : r = c :=
  Table.eq_of_key hr owned.mem h

/-- An edited category takes the place of the one that was found, and of no other row. -/
theorem HasOwned.replaced_cases (owned : s.HasOwned a id c) {r : Category}
    (hr : r ∈ s.categories.rows) (millis : Int) (name : Option String) (collapsed : Option Bool) :
    (c.edited millis name collapsed).replaced r = r ∨
      r = c ∧ (c.edited millis name collapsed).replaced r = c.edited millis name collapsed := by
  by_cases h : r.id = c.id
  · exact .inr ⟨owned.eq_of_id hr h, if_pos h⟩
  · exact .inl (if_neg h)

/-- The category that was found is the only one that is marked as deleted under its id. -/
theorem HasOwned.tombstoned_cases (owned : s.HasOwned a id c) {r : Category}
    (hr : r ∈ s.categories.rows) (user board : String) (millis : Int) :
    r.tombstoned c.id user board millis = r ∨
      r = c ∧ r.tombstoned c.id user board millis = { c with deleteAt := .int millis } := by
  unfold Category.tombstoned
  split
  · next h =>
    simp only [Category.isOwned, Bool.and_eq_true, beq_iff_eq] at h
    obtain rfl := owned.eq_of_id hr h.1.1
    exact .inr ⟨rfl, rfl⟩
  · exact .inl rfl

/-- An edited category is shown where it was. -/
theorem HasOwned.replaced_edited (owned : s.HasOwned a id c) (millis : Int) (name : Option String)
    (collapsed : Option Bool) {r : Category} (hr : r ∈ s.categories.rows) :
    ((c.edited millis name collapsed).replaced r).boardId = r.boardId ∧
      ((c.edited millis name collapsed).replaced r).isLive = r.isLive ∧
      ((c.edited millis name collapsed).replaced r).sortOrder = r.sortOrder := by
  rcases owned.replaced_cases hr millis name collapsed with h | ⟨rfl, h⟩
  · rw [h]
    exact ⟨rfl, rfl, rfl⟩
  · rw [h]
    exact ⟨rfl, rfl, rfl⟩

end Store

section

variable {env : Env} {s s' : Store} {a : Access} {command : Command} {reply : Reply}
  {events : List Event} {b : String}

open Store Category

/-- A step changes no category of another board. -/
theorem Step.rowsOn_other (step : Step env s a command reply s' events) (h : b ≠ a.board.id) :
    s'.rowsOn b = s.rowsOn b := by
  have other {r : Category} (hr : r ∈ s.rowsOn b) : r.boardId ≠ a.board.id :=
    (mem_rowsOn.1 hr).2.trans_ne h
  cases step with
  | @create _ _ _ _ _ _ c t titled typed clock word made added room reached =>
    have hc : c.boardId ≠ b := by
      rw [made]
      exact h.symm
    have hrows : ({ s with categories := t } : Store).rowsOn b = s.rowsOn b := by
      rw [rowsOn_insert? added, if_neg hc, List.append_nil]
    rw [← hrows]
    refine rowsOn_of_map_self rfl (fun r _ => lowered_boardId c r) fun r hr => ?_
    exact lowered_of_other ((mem_rowsOn.1 hr).2.trans_ne hc.symm)
  | get found => rfl
  | update owned titled clock word reached =>
    -- The row that is replaced is on the board of the step, which is another one.
    refine rowsOn_of_map_self rfl (fun r hr => (owned.replaced_edited _ _ _ hr).1) fun r hr => ?_
    refine if_neg fun hid => other hr ?_
    rw [owned.eq_of_id (mem_rowsOn.1 hr).1 hid, owned.onBoard]
  | delete owned clock word reached =>
    refine rowsOn_of_map_self rfl (fun r _ => tombstoned_boardId _ _ _ _ r) fun r hr => ?_
    exact tombstoned_of_other (other hr)
  | list => rfl
  | reorder plan reached =>
    refine rowsOn_of_map_self rfl (fun r _ => arranged_boardId _ _ r) fun r hr => ?_
    exact arranged_of_other (other hr)
  | categorize target stored reached => rfl
  | uncategorize stored reached => rfl
  | reorderViews owned plan reached => rfl
  | setVisibility owned reached => rfl

end

/-! ## Views of other categories -/

namespace Membership

theorem arranged_of_other {category : String} {p : Plan RawText} {m : Membership}
    (h : m.categoryId ≠ category) : arranged category p m = m :=
  if_neg h

theorem masked_of_other {category view : String} {hidden : Bool} {m : Membership}
    (h : m.categoryId ≠ category) : masked category view hidden m = m := by
  unfold masked isIn
  rw [beq_false_of_ne h, Bool.and_false]
  rfl

end Membership

namespace Store

variable {s s' : Store} {category target : String}

/-- The views of a category depend on its memberships alone. -/
theorem viewsIn_congr
    (h : (s'.memberships.rows.filter fun m => m.categoryId == category) =
      s.memberships.rows.filter fun m => m.categoryId == category) :
    s'.viewsIn category = s.viewsIn category := by
  rw [viewsIn_eq, viewsIn_eq, h]

/-- A change of memberships of other categories is not seen in a category. -/
theorem viewsIn_of_map {f : Membership → Membership}
    (h : s'.memberships.rows = s.memberships.rows.map f)
    (kept : ∀ m ∈ s.memberships.rows, (f m).categoryId = m.categoryId)
    (same : ∀ m ∈ s.memberships.rows, m.categoryId = category → f m = m) :
    s'.viewsIn category = s.viewsIn category := by
  apply viewsIn_congr
  rw [h, filter_map_of (q := fun m => m.categoryId == category) fun m hm => by rw [kept m hm]]
  refine (List.map_congr_left fun m hm => ?_).trans (List.map_id' _)
  obtain ⟨hm, hc⟩ := List.mem_filter.1 hm
  exact same m hm (by simpa using hc)

/-- A view that is put into a category is in no other one. -/
theorem rows_placed (t : Table Membership.viewId) (view : String) (h : category ≠ target) :
    ((placed target t view).rows.filter fun m => m.categoryId == category) =
      (t.rows.filter fun m => m.categoryId == category).filter fun m => m.viewId != view := by
  unfold placed
  split
  · next u hu =>
    have fresh : ∀ m ∈ t.rows, m.viewId ≠ view := fun m hm => Table.key_ne_of_insert? hu hm
    rw [Table.insert?_rows hu, List.filter_append]
    have hnew : ([⟨view, target, false, .int 0⟩] : List Membership).filter
        (fun m => m.categoryId == category) = [] := by
      simp [h.symm]
    rw [hnew, List.append_nil, eq_comm, List.filter_eq_self]
    intro m hm
    simpa using fresh m (List.mem_filter.1 hm).1
  · next hu =>
    have leaves (m : Membership) : ((m.relocated target view).categoryId == category) =
        (m.viewId != view && m.categoryId == category) := by
      unfold Membership.relocated
      split
      · next hv => simp [hv, h.symm]
      · next hv => simp [hv]
    rw [Table.mapRows_rows, filter_map_of fun m _ => leaves m, ← List.filter_filter]
    refine (List.map_congr_left fun m hm => ?_).trans (List.map_id' _)
    have hv : m.viewId ≠ view := by simpa using (List.mem_filter.1 hm).2
    exact if_neg hv

/-- Views that are put into a category are taken out of every other one. -/
theorem viewsIn_moved (s : Store) (views : List String) (h : category ≠ target) :
    (s.moved target views).viewsIn category =
      (s.viewsIn category).filter fun m => !views.contains m.viewId := by
  induction views generalizing s with
  | nil => exact (List.filter_eq_self.2 fun _ _ => rfl).symm
  | cons v vs ih =>
    have hv : (s.moved target [v]).viewsIn category =
        (s.viewsIn category).filter fun m => m.viewId != v := by
      rw [viewsIn_eq, viewsIn_eq, ← displayed_filter (s.viewRows_nodup category)]
      exact congrArg (displayed _ _) (rows_placed s.memberships v h)
    have hvs : s.moved target (v :: vs) = (s.moved target [v]).moved target vs := rfl
    rw [hvs, ih, hv, List.filter_filter]
    refine List.filter_congr fun m _ => ?_
    rw [List.contains_cons, Bool.not_or, Bool.and_comm]
    rfl

end Store

end BoardViews
