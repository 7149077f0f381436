import BoardViews.Proofs.Reorder

/-
  Permutations, for `reorder` and `reorder_within_category` alike. A proposal that is a
  permutation of what is shown is taken exactly: its ids are counted by their places, it is what
  is shown from then on, and nothing else is different, however the rows were counted before.
  Proposing it once more changes nothing. That it is taken needs a commit that succeeds; the rest
  holds wherever it is.
-/

namespace BoardViews

/-! ## Plans that are carried out again -/

section

variable {s : Store} {b category : String} {p p' : Plan RawText}

theorem Category.arranged_of_live {c : Category} (p : Plan RawText) (onBoard : c.boardId = b)
    (live : c.isLive = true) :
    c.arranged b p =
      { c with sortOrder := ((p.sortOrder? (.whole c.id)).map Cell.int).getD c.sortOrder } :=
  if_pos ⟨onBoard, live⟩

theorem Membership.arranged_of_isIn {m : Membership} (p : Plan RawText)
    (isIn : m.categoryId = category) :
    m.arranged category p =
      { m with sortOrder := ((p.sortOrder? (.whole m.viewId)).map Cell.int).getD m.sortOrder } :=
  if_pos isIn

/-- A plan that numbers a category as the one before it did has nothing left to change there. -/
theorem Category.arranged_again {c : Category} (same : c.boardId = b → c.isLive = true →
    p'.sortOrder? (.whole c.id) = p.sortOrder? (.whole c.id)) :
    (c.arranged b p).arranged b p' = c.arranged b p := by
  by_cases h : c.boardId = b ∧ c.isLive = true
  · obtain ⟨onBoard, live⟩ := h
    rw [arranged_of_live p' ((c.arranged_boardId b p).trans onBoard)
      ((c.arranged_isLive b p).trans live), arranged_id, same onBoard live,
      arranged_of_live p onBoard live]
    cases p.sortOrder? (.whole c.id) <;> rfl
  · have left (p : Plan RawText) : c.arranged b p = c := if_neg h
    rw [left, left]

theorem Membership.arranged_again {m : Membership} (same : m.categoryId = category →
    p'.sortOrder? (.whole m.viewId) = p.sortOrder? (.whole m.viewId)) :
    (m.arranged category p).arranged category p' = m.arranged category p := by
  by_cases isIn : m.categoryId = category
  · rw [arranged_of_isIn p' ((m.arranged_categoryId category p).trans isIn), arranged_viewId,
      same isIn, arranged_of_isIn p isIn]
    cases p.sortOrder? (.whole m.viewId) <;> rfl
  · have left (p : Plan RawText) : m.arranged category p = m := if_neg isIn
    rw [left, left]

theorem Store.applyCategoryPlan_again
    (same : ∀ id ∈ s.categoryOrder b, p'.sortOrder? id = p.sortOrder? id) :
    (s.applyCategoryPlan b p).applyCategoryPlan b p' = s.applyCategoryPlan b p := by
  refine congrArg (fun t => { s with categories := t }) (Table.mapRows_again _ _ fun c hc => ?_)
  exact Category.arranged_again fun onBoard live => same _ (mem_categoryOrder hc onBoard live)

theorem Store.applyViewPlan_again
    (same : ∀ id ∈ s.viewOrder category, p'.sortOrder? id = p.sortOrder? id) :
    (s.applyViewPlan category p).applyViewPlan category p' = s.applyViewPlan category p := by
  refine congrArg (fun t => { s with memberships := t }) (Table.mapRows_again _ _ fun m hm => ?_)
  exact Membership.arranged_again fun isIn => same _ (mem_viewOrder hm isIn)

end

namespace Sequence

/-! ## Proposals to the store -/

/-- Proposes an order for a sequence. -/
def propose (q : Sequence) (s : Store) (connected : Bool) (board : String)
    (order : List RawText) : Outcome (List RawText) :=
  match q with
  | categories => s.reorderCategories connected board order
  | views category => s.reorderViews connected category order

/-- The sort order that is stored for an id. -/
def rank? (q : Sequence) (s : Store) (id : String) : Option Cell :=
  match q with
  | categories => (s.categories.find? id).map Category.sortOrder
  | views _ => (s.memberships.find? id).map Membership.sortOrder

variable {q : Sequence} {board : String} {s : Store} {connected : Bool} {order ids : List RawText}

/-- A proposal that is answered is answered with the order of its plan, and the plan is stored. -/
theorem propose_ok (h : (q.propose s connected board order).result = .ok ids) :
    ids = (reconcile (q.current board s) order).order ∧
      (q.propose s connected board order).store =
        q.written board s (reconcile (q.current board s) order) := by
  cases q with
  | categories =>
    obtain ⟨-, answer, stored, -⟩ := Store.reorderCategories_ok h
    exact ⟨answer, stored⟩
  | views category =>
    obtain ⟨-, answer, stored, -⟩ := Store.reorderViews_ok h
    exact ⟨answer, stored⟩

theorem propose_result (q : Sequence) (s : Store) (board : String) (order : List RawText) :
    (q.propose s true board order).result =
      .ok (reconcile (q.current board s) order).order := by
  cases q with
  | categories => exact s.reorderCategories_result board order
  | views category => exact s.reorderViews_result category order

theorem atomic_propose (q : Sequence) (s : Store) (connected : Bool) (board : String)
    (order : List RawText) : (q.propose s connected board order).Atomic s := by
  cases q with
  | categories => exact s.atomic_reorderCategories connected board order
  | views category => exact s.atomic_reorderViews connected category order

/-- A proposal whose plan changes nothing leaves the store as it is, whether it is answered or
not. -/
theorem propose_store_of_written
    (h : q.written board s (reconcile (q.current board s) order) = s) :
    (q.propose s connected board order).store = s := by
  cases hr : (q.propose s connected board order).result with
  | ok ids => exact (propose_ok hr).2.trans h
  | error f => exact (q.atomic_propose s connected board order f hr).1

/-! ## Permutations -/

/-- What a permutation makes of a store: its ids are counted by their places, it is what is shown,
and but for the sort orders of the rows that it names nothing is different. -/
structure Rearranged (q : Sequence) (board : String) (order : List RawText) (s s' : Store) :
    Prop where
  placed : ∀ (i : Nat) (id : String), order[i]? = some (.whole id) →
    q.rank? s' id = some (.int (10 * i))
  shown : q.current board s' = order
  others : q.Recounted board order s s'

theorem rank?_written {p : Plan RawText} {id : String} {n : Int}
    (shown : .whole id ∈ q.current board s) (numbered : p.sortOrder? (.whole id) = some n) :
    q.rank? (q.written board s p) id = some (.int n) := by
  cases q with
  | categories =>
    obtain ⟨c, hc, named⟩ := List.mem_map.1 shown
    cases named
    obtain ⟨stored, onBoard, live⟩ := Store.mem_liveCategories.1 hc
    have found : s.categories.find? c.id = some c := Table.find?_eq_some_iff.2 ⟨stored, rfl⟩
    have after := s.categories.find?_mapRows (Category.arranged board p)
      (Category.arranged_id board p) c.id
    rw [found] at after
    rw [rank?, written, Store.applyCategoryPlan, after]
    exact congrArg some (Store.sortOrder_arranged onBoard live numbered)
  | views category =>
    obtain ⟨m, hm, named⟩ := List.mem_map.1 shown
    cases named
    obtain ⟨stored, isIn⟩ := Store.mem_viewsIn.1 hm
    have found : s.memberships.find? m.viewId = some m := Table.find?_eq_some_iff.2 ⟨stored, rfl⟩
    have after := s.memberships.find?_mapRows (Membership.arranged category p)
      (Membership.arranged_viewId category p) m.viewId
    rw [found, Option.map_some, Membership.arranged_of_isIn p isIn, numbered] at after
    rw [rank?, written, Store.applyViewPlan, after]
    rfl

/-- The plan of a permutation numbers every id by its place. -/
theorem sortOrder?_of_place {i : Nat} {id : RawText} (perm : order.Perm (q.current board s))
    (place : order[i]? = some id) :
    (reconcile (q.current board s) order).sortOrder? id = some (i * gap) := by
  have nodup : order.Nodup := perm.nodup_iff.2 (q.current_nodup board s)
  obtain ⟨hi, rfl⟩ := List.getElem?_eq_some_iff.1 place
  have shown : order[i] ∈ q.current board s := perm.mem_iff.1 (List.getElem_mem hi)
  rw [sortOrder?_of_perm (q.current_nodup board s) perm shown, nodup.idxOf_getElem i hi]

theorem rearranged_written (perm : order.Perm (q.current board s)) :
    q.Rearranged board order s (q.written board s (reconcile (q.current board s) order)) where
  placed i id place := by
    have shown : .whole id ∈ q.current board s := perm.mem_iff.1 (List.mem_of_getElem? place)
    have numbered := sortOrder?_of_place perm place
    rw [Int.mul_comm] at numbered
    exact rank?_written shown numbered
  shown := current_written_of_perm perm
  others := recounted_written perm.length_eq

/-- The plan of a permutation is the same before and after it was carried out. -/
theorem written_again (perm : order.Perm (q.current board s)) {s' : Store}
    (hs : s' = q.written board s (reconcile (q.current board s) order)) :
    q.written board s' (reconcile (q.current board s') order) = s' := by
  have current : q.current board s' = order := by
    rw [hs]
    exact current_written_of_perm perm
  have nodup : order.Nodup := perm.nodup_iff.2 (q.current_nodup board s)
  have same : ∀ id ∈ q.current board s, (reconcile order order).sortOrder? id =
      (reconcile (q.current board s) order).sortOrder? id := by
    intro id hid
    rw [sortOrder?_of_perm nodup (.refl order) (perm.mem_iff.2 hid),
      sortOrder?_of_perm (q.current_nodup board s) perm hid]
  rw [current, hs]
  cases q with
  | categories => exact Store.applyCategoryPlan_again same
  | views category => exact Store.applyViewPlan_again same

/-- A permutation that is proposed while the store can be written is handed back. It is what is
shown from then on, with every id counted by its place, nothing but these sort orders is different,
and proposing it again changes nothing. -/
theorem permutation_is_taken_exactly (connected : Bool)
    (perm : order.Perm (q.current board s)) :
    (connected = true → (q.propose s connected board order).result = .ok order) ∧
    ∀ ids s', (q.propose s connected board order).result = .ok ids →
      s' = (q.propose s connected board order).store →
        ids = order ∧ q.Rearranged board order s s' ∧
          (q.propose s' connected board order).store = s' := by
  have handed := reconcile_order_of_taken perm.length_eq
  constructor
  · rintro rfl
    rw [propose_result, handed]
  · rintro ids s' answered rfl
    obtain ⟨answer, stored⟩ := propose_ok answered
    refine ⟨answer.trans handed, ?_, propose_store_of_written (written_again perm stored)⟩
    rw [stored]
    exact rearranged_written perm

/-- Three views of a category, two of them at the same place and the third, which is hidden, in
front of them, and a view of another category; and three categories of a board that are placed in
the same way, one that was deleted and one of another board. -/
def crowded : Store :=
  { memberships := .ofList
      [⟨"v", "a", true, .int (-5)⟩, ⟨"w", "a", false, .int 0⟩, ⟨"y", "z", false, .int 3⟩,
        ⟨"x", "a", false, .int 0⟩]
    categories := .ofList
      [⟨"a", "a", "u", "b", .int 1, .int 1, .int 0, true, .int (-5), "custom"⟩,
        ⟨"c", "c", "u", "b", .int 1, .int 2, .int 0, false, .int 0, "system"⟩,
        ⟨"e", "e", "u", "b", .int 1, .int 1, .int 9, false, .int 0, "custom"⟩,
        ⟨"f", "f", "u", "d", .int 1, .int 1, .int 0, false, .int 3, "custom"⟩,
        ⟨"g", "g", "w", "b", .int 1, .int 1, .int 0, false, .int 0, "custom"⟩] }

/-- Both are turned around. The view of the other category, the category that was deleted and the
one of the other board stay where they were. -/
theorem crowded_views_turn_around :
    let q := Sequence.views "a"
    let order : List RawText := ["x", "w", "v"]
    let o := q.propose crowded true "b" order
    let q' := Sequence.categories
    let order' : List RawText := ["g", "c", "a"]
    let o' := q'.propose crowded true "b" order'
    (order.Perm (q.current "b" crowded) ∧ o.result = .ok order ∧ q.current "b" o.store = order ∧
      q.rank? o.store "v" = some (.int 20) ∧ q.rank? o.store "y" = some (.int 3) ∧
      (q.propose o.store true "b" order).store = o.store) ∧
    order'.Perm (q'.current "b" crowded) ∧ o'.result = .ok order' ∧
      q'.current "b" o'.store = order' ∧ q'.rank? o'.store "a" = some (.int 20) ∧
      q'.rank? o'.store "e" = some (.int 0) ∧ q'.rank? o'.store "f" = some (.int 3) ∧
      (q'.propose o'.store true "b" order').store = o'.store := by
  intro q order o q' order' o'
  have perm : order.Perm (q.current "b" crowded) := by
    refine .trans ?_ ((displayed_perm Membership.sortOrder Membership.viewId _).map _).symm
    decide
  have perm' : order'.Perm (q'.current "b" crowded) := by
    refine .trans ?_ ((displayed_perm Category.sortOrder Category.id _).map _).symm
    decide
  obtain ⟨taken, exact⟩ := permutation_is_taken_exactly true perm
  obtain ⟨taken', exact'⟩ := permutation_is_taken_exactly true perm'
  obtain ⟨-, rearranged, again⟩ := exact order o.store (taken rfl) rfl
  obtain ⟨-, rearranged', again'⟩ := exact' order' o'.store (taken' rfl) rfl
  have apart : q.rank? o.store "y" = some (.int 3) := by
    rw [(propose_ok (taken rfl)).2]
    rfl
  have deleted : q'.rank? o'.store "e" = some (.int 0) := by
    rw [(propose_ok (taken' rfl)).2]
    rfl
  have elsewhere : q'.rank? o'.store "f" = some (.int 3) := by
    rw [(propose_ok (taken' rfl)).2]
    rfl
  exact ⟨⟨perm, taken rfl, rearranged.shown, rearranged.placed 2 "v" rfl, apart, again⟩,
    perm', taken' rfl, rearranged'.shown, rearranged'.placed 2 "a" rfl, deleted, elsewhere, again'⟩

end Sequence

end BoardViews
