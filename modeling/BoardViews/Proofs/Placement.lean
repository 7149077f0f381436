import BoardViews.Proofs.Commute
import BoardViews.Proofs.Notice

/-
  Putting views into a category (`upsert`), where it succeeds. What is left depends on which views
  are named and on nothing else: not on how often, nor in which order, nor on whether it is done
  once or twice. Every view that is named has one membership, in the category, with the flag and
  the sort order that it had before; that of any other view is as it was.

  The work goes through the views one by one, so all of this comes from what one view does to what
  is found under each (`Lookup`), and from the count of rows, which decides whether there is
  place.
-/

namespace BoardViews

namespace Store

variable {s s' : Store} {category : String} {views : List String}

/-! ## What depends on the set of views -/

/-- Views that are named in another way, by the same ids, leave the same memberships. -/
theorem moved_perm {others : List String} (same : ∀ v, v ∈ others ↔ v ∈ views) :
    (s.moved category others).memberships.rows.Perm (s.moved category views).memberships.rows := by
  refine Table.perm_of_mem_iff fun m => ?_
  rw [mem_memberships_iff, mem_memberships_iff, find?_moved, find?_moved]
  exact Iff.of_eq (congrArg (· = some m) (if_congr (same m.viewId) rfl rfl))

/-- A view that is in a category already is not moved. -/
theorem placed_of_isIn {t : Table Membership.viewId} {m : Membership}
    (found : t.find? m.viewId = some m) (isIn : m.categoryId = category) :
    placed category t m.viewId = t := by
  rw [placed_of_find? found]
  refine Table.mapRows_eq_self _ fun r hr => ?_
  unfold Membership.relocated
  split
  · next same =>
    obtain rfl : r = m := Table.eq_of_key hr (Table.find?_mem found) same
    rw [← isIn]
  · rfl

theorem moved_of_isIn (isIn : ∀ v ∈ views, ∃ m, s.memberships.find? v = some m ∧
    m.categoryId = category) : s.moved category views = s := by
  induction views with
  | nil => rfl
  | cons v vs ih =>
    obtain ⟨⟨m, found, there⟩, others⟩ := List.forall_mem_cons.1 isIn
    obtain rfl : m.viewId = v := Table.find?_key found
    have first : s.moved category [m.viewId] = s :=
      congrArg (fun t => { s with memberships := t }) (placed_of_isIn found there)
    have both : s.moved category (m.viewId :: vs) =
      (s.moved category [m.viewId]).moved category vs := rfl
    rw [both, first, ih others]

/-- Views that were put into a category are not moved when they are put there again. -/
theorem moved_again (s : Store) (category : String) (views : List String) :
    (s.moved category views).moved category views = s.moved category views := by
  refine moved_of_isIn fun v hv => ⟨_, (find?_moved s category views v).trans (if_pos hv), rfl⟩

/-! ## Placing views -/

theorem room_of_placeViews {connected : Bool} {ms : List Membership}
    (h : (s.placeViews connected category views).result = .ok ms) :
    HasRoom s.memberships (s.moved category views).memberships := by
  obtain ⟨-, s', work, -⟩ := transact_ok h
  rw [Work.run_bind_eq_ok] at work
  obtain ⟨_, t, moved, -⟩ := work
  obtain ⟨rfl, room⟩ := moveViews_eq_ok_iff.1 moved
  exact room

/-- What placing views leaves: each of them has one membership, which is in the category and has the
flag and the sort order of the one before it, or is shown and comes first; the memberships of other
views and all else are as they were; and what is handed back are the memberships that are stored. -/
structure Places (category : String) (views : List String) (s s' : Store)
    (ms : List Membership) : Prop where
  memberships : s' = { s with memberships := s'.memberships }
  named : ∀ v ∈ views, ∃ m, (s'.memberships.rows.filter fun m => m.viewId = v) = [m] ∧
    m.categoryId = category ∧
    (∀ old ∈ s.memberships.rows, old.viewId = v →
      m.hidden = old.hidden ∧ m.sortOrder = old.sortOrder) ∧
    ((∀ old ∈ s.memberships.rows, old.viewId ≠ v) → m.hidden = false ∧ m.sortOrder = .int 0)
  others : ∀ v, v ∉ views → (s'.memberships.rows.filter fun m => m.viewId = v) =
    s.memberships.rows.filter fun m => m.viewId = v
  answer : List.Forall₂ (fun v m => m.viewId = v ∧ m ∈ s'.memberships.rows) views ms

theorem places_moved (s : Store) (category : String) (views : List String) :
    Places category views s (s.moved category views)
      (views.filterMap (s.moved category views).memberships.find?) where
  memberships := rfl
  named v hv := by
    refine ⟨.carried category v (s.memberships.find? v), ?_, rfl, ?_, ?_⟩
    · rw [Table.filter_key, find?_moved, if_pos hv]
      rfl
    · intro old hold same
      rw [Table.find?_eq_some_iff.2 ⟨hold, same⟩]
      exact ⟨rfl, rfl⟩
    · intro absent
      have none : s.memberships.find? v = none :=
        List.find?_eq_none.2 fun old hold => by simpa using absent old hold
      rw [none]
      exact ⟨rfl, rfl⟩
  others v hv := by
    rw [Table.filter_key, Table.filter_key, find?_moved, if_neg hv]
  answer := by
    rw [filterMap_find?_moved, List.forall₂_map_right_iff, List.forall₂_same]
    intro v hv
    exact ⟨rfl, mem_moved hv⟩

/-- Placing views that succeeds puts each of them into the category and leaves all else as it was.
Done again it answers the same and changes nothing, and views named in another order or as often as
one likes leave the same rows. -/
theorem placing_depends_on_which_views {connected : Bool} {ms : List Membership}
    (h : (s.placeViews connected category views).result = .ok ms)
    (hs : s' = (s.placeViews connected category views).store) :
    Places category views s s' ms ∧
      (s'.placeViews connected category views).result = .ok ms ∧
      (s'.placeViews connected category views).store = s' ∧
      ∀ others, (∀ v, v ∈ others ↔ v ∈ views) →
        ∃ ms', (s.placeViews connected category others).result = .ok ms' ∧
          (s.placeViews connected category others).store.SameRows s' := by
  obtain ⟨rfl, rfl, stored⟩ := placeViews_ok h
  have room := room_of_placeViews h
  rw [stored] at hs
  subst hs
  have again : (s.moved category views).placeViews true category views =
      ⟨.ok (views.filterMap (s.moved category views).memberships.find?),
        s.moved category views, []⟩ := by
    have still := s.moved_again category views
    have fits : HasRoom (s.moved category views).memberships
        ((s.moved category views).moved category views).memberships := by
      rw [still]
      exact .inl rfl
    rw [placeViews_of_room fits, still]
  refine ⟨s.places_moved category views, ?_, ?_, fun others same => ?_⟩
  · rw [again]
  · rw [again]
  · have perm : (s.moved category others).memberships.rows.Perm
        (s.moved category views).memberships.rows := moved_perm same
    have fits : HasRoom s.memberships (s.moved category others).memberships := by
      unfold HasRoom at room ⊢
      rw [perm.length_eq]
      exact room
    rw [placeViews_of_room fits]
    exact ⟨_, rfl, rfl, rfl, rfl, .refl _, perm⟩

/-- A view that is hidden in one category is put into another one together with a new view, which is
named twice. -/
theorem hidden_view_and_new_view_are_placed :
    let s : Store := { memberships := .ofList [⟨"v", "a", true, .int 20⟩] }
    let o := s.placeViews true "c" ["w", "v", "w"]
    let w : Membership := ⟨"w", "c", false, .int 0⟩
    let v : Membership := ⟨"v", "c", true, .int 20⟩
    o.result = .ok [w, v, w] ∧ o.store.memberships.rows = [v, w] ∧
      (o.store.placeViews true "c" ["w", "v", "w"]).store = o.store ∧
      ∃ ms, (s.placeViews true "c" ["v", "w"]).result = .ok ms ∧
        (s.placeViews true "c" ["v", "w"]).store.SameRows o.store := by
  intro s o w v
  have answer : o.result = .ok [w, v, w] := rfl
  obtain ⟨-, -, again, others⟩ := placing_depends_on_which_views answer rfl
  have same (x : String) : x ∈ ["v", "w"] ↔ x ∈ ["w", "v", "w"] := by
    simp only [List.mem_cons, List.not_mem_nil, or_false]
    constructor
    · exact .inr
    · exact fun h => h.elim .inr id
  exact ⟨answer, rfl, again, others ["v", "w"] same⟩

end Store

end BoardViews
