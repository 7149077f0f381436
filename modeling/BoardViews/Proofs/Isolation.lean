import BoardViews.Proofs.Frame
import BoardViews.Proofs.Run

/-
  What a request on one board does to what is shown of another (`list_with_membership`). Its
  categories stay as they are, and so do their views, with one exception: a view has a single
  membership, whatever board it is shown on, so the views that are moved on one board are taken
  out of their categories on every other one. That needs nothing of the user; it needs that no
  category has the id that stands for none, which is so in every store that can be reached
  (`Store.Reachable`).
-/

namespace BoardViews

/-! ## Ids of categories -/

/-- The id of a category that a user creates is the given one, if anything is left of it without the
blanks, or the new one. -/
theorem newCategory_id_ne {a : Access} {env : Env} {millis : Int} {title type : String}
    {id : Option String} {collapsed : Bool} (fresh : env.freshId ≠ "") :
    (a.newCategory env millis title type (stripped? id) collapsed).id ≠ uncategorized := by
  unfold Access.newCategory
  cases h : stripped? id with
  | none => exact fresh
  | some i => simpa [uncategorized] using (Option.filter_eq_some_iff.1 h).2

/-- Categories that are changed within their ids have no new ids. -/
theorem forall_id_map {rows : List Category} {f : Category → Category} {x : String}
    (hf : ∀ r, (f r).id = r.id) (h : ∀ c ∈ rows, c.id ≠ x) : ∀ c ∈ rows.map f, c.id ≠ x := by
  intro c hc
  obtain ⟨r, hr, rfl⟩ := List.mem_map.1 hc
  rw [hf]
  exact h r hr

section

variable {env : Env} {s s' : Store} {a : Access} {command : Command} {reply : Reply}
  {events : List Event}

/-- A step gives no category the id that stands for none. -/
theorem Step.id_ne (step : Step env s a command reply s' events) (fresh : env.freshId ≠ "")
    (h : ∀ c ∈ s.categories.rows, c.id ≠ uncategorized) :
    ∀ c ∈ s'.categories.rows, c.id ≠ uncategorized := by
  cases step with
  | create titled typed clock word made added room reached =>
    refine forall_id_map (Category.lowered_id _) fun r hr => ?_
    rw [Table.insert?_rows added, List.mem_append, List.mem_singleton] at hr
    rcases hr with hr | rfl
    · exact h r hr
    · rw [made]
      exact newCategory_id_ne fresh
  | get found => exact h
  | update owned titled clock word reached => exact forall_id_map (Category.replaced_id _) h
  | delete owned clock word reached => exact forall_id_map (Category.tombstoned_id _ _ _ _) h
  | list => exact h
  | reorder plan reached => exact forall_id_map (Category.arranged_id _ _) h
  | categorize target stored reached => exact h
  | uncategorize stored reached => exact h
  | reorderViews owned plan reached => exact h
  | setVisibility owned reached => exact h

theorem Store.Reachable.id_ne (reached : s.Reachable) :
    ∀ c ∈ s.categories.rows, c.id ≠ uncategorized := by
  induction reached with
  | start noCategories noMemberships =>
    intro c hc
    rw [noCategories] at hc
    cases hc
  | @visit s v reached fresh ih =>
    rcases v.cases s with ⟨f, -, hs⟩ | ⟨reply, a, events, -, -, step⟩
    · rw [hs]
      exact ih
    · exact step.id_ne fresh ih
  | elsewhere users boards members reached ih => exact ih

/-! ## Listings of other boards -/

/-- The views that a command moves. -/
def Command.movedViews : Command → List String
  | .categorize _ views => views
  | .uncategorize view => [view]
  | _ => []

/-- A listing without some of its views. -/
def withoutViews (views : List String) (entries : List (Category × List Membership)) :
    List (Category × List Membership) :=
  entries.map fun e => (e.1, e.2.filter fun m => !views.contains m.viewId)

/-- A category of another board is none that a step puts views into or orders. -/
theorem Store.HasOwned.id_ne_other {id : Option String} {q c : Category} {b : String}
    (owned : s.HasOwned a id q) (hb : b ≠ a.board.id) (hc : c ∈ s.categories.rows)
    (onBoard : c.boardId = b) : c.id ≠ q.id := by
  intro e
  rw [owned.eq_of_id hc e, owned.onBoard] at onBoard
  exact hb onBoard.symm

/-- A step takes the views that it moves out of the categories of other boards, and changes nothing
else that is shown with them. -/
theorem Step.viewsIn_other (step : Step env s a command reply s' events)
    (ids : ∀ c ∈ s.categories.rows, c.id ≠ uncategorized) {b : String} (hb : b ≠ a.board.id)
    {c : Category} (hc : c ∈ s.categories.rows) (onBoard : c.boardId = b) :
    s'.viewsIn c.id = (s.viewsIn c.id).filter fun m => !command.movedViews.contains m.viewId := by
  have same (ms : List Membership) :
      ms = ms.filter fun m => !([] : List String).contains m.viewId :=
    (List.filter_eq_self.2 fun _ _ => rfl).symm
  cases step with
  | create titled typed clock word made added room reached => exact same _
  | get found => exact same _
  | update owned titled clock word reached => exact same _
  | delete owned clock word reached => exact same _
  | list => exact same _
  | reorder plan reached => exact same _
  | @categorize id t views ms target stored reached =>
    -- Views go into a category on the board of the step, or into none at all.
    have ht : c.id ≠ t := by
      cases target with
      | none named => exact ids c hc
      | owned owned => exact owned.id_ne_other hb hc onBoard
    rw [Store.viewsIn_moved s _ ht]
    refine List.filter_congr fun m _ => ?_
    have hm : views.eraseDups.contains m.viewId = views.contains m.viewId := by
      rw [Bool.eq_iff_iff, List.contains_iff_mem, List.contains_iff_mem, List.mem_eraseDups]
    exact congrArg not hm
  | uncategorize stored reached => exact Store.viewsIn_moved s _ (ids c hc)
  | reorderViews owned plan reached =>
    refine (Store.viewsIn_of_map rfl (fun m _ => Membership.arranged_categoryId _ _ m)
      fun m _ hm => ?_).trans (same _)
    refine Membership.arranged_of_other ?_
    rw [hm]
    exact owned.id_ne_other hb hc onBoard
  | setVisibility owned reached =>
    refine (Store.viewsIn_of_map rfl (fun m _ => Membership.masked_categoryId _ _ _ m)
      fun m _ hm => ?_).trans (same _)
    refine Membership.masked_of_other ?_
    rw [hm]
    exact owned.id_ne_other hb hc onBoard

theorem Step.listing_other (step : Step env s a command reply s' events)
    (ids : ∀ c ∈ s.categories.rows, c.id ≠ uncategorized) {b : String} (hb : b ≠ a.board.id) :
    s'.listing b = withoutViews command.movedViews (s.listing b) := by
  rw [Store.listing_eq, Store.listing_eq, withoutViews, List.map_map,
    Store.liveCategories_congr (step.rowsOn_other hb)]
  refine List.map_congr_left fun c hc => ?_
  obtain ⟨hc, onBoard, -⟩ := Store.mem_liveCategories.1 hc
  rw [step.viewsIn_other ids hb hc onBoard]
  rfl

end

/-- A request on one board leaves the listing of another one as it is, but for the views that it
moves; if it fails, it leaves all of it. -/
theorem other_board_keeps_listing {s : Store} (reached : s.Reachable) (v : Visit) {b : String}
    (other : v.request.board ≠ some b) :
    (∀ f, (v.outcome s).result = .error f → (v.outcome s).store.listing b = s.listing b) ∧
    ∀ reply, (v.outcome s).result = .ok reply →
      (v.outcome s).store.listing b =
        withoutViews v.request.command.movedViews (s.listing b) := by
  rcases v.cases s with ⟨f, hf, hs⟩ | ⟨reply, a, events, hr, granted, step⟩
  · refine ⟨fun _ _ => by rw [hs], fun reply hr => ?_⟩
    rw [hf] at hr
    cases hr
  · refine ⟨fun f hf => ?_, fun _ _ => ?_⟩
    · rw [hr] at hf
      cases hf
    · refine step.listing_other reached.id_ne fun hb => other ?_
      rw [granted.board_id, hb]

/-- A view that is moved on one board is gone from the listing of the other. -/
theorem moved_view_keeps_other_board :
    let s := Store.sample.after
      [.sample "w" "d" (.creation "c"), .sample "w" "d" (.categorize (some "c") ["v"])]
    let v := Visit.sample "u" "b" (.uncategorize "v")
    (v.outcome s).store.listing "d" = withoutViews ["v"] (s.listing "d") := by
  intro s v
  exact (other_board_keeps_listing (.after (.start rfl rfl) (by decide)) v (by decide)).2 _ rfl

/-- Someone who may not view a board takes a view out of a category that is shown there. -/
theorem moved_view_leaves_other_board :
    let s := Store.sample.after
      [.sample "w" "d" (.creation "c"), .sample "w" "d" (.categorize (some "c") ["v"])]
    let v := Visit.sample "u" "b" (.uncategorize "v")
    s.Reachable ∧ s.canView (some "u") (some "d") = false ∧
      (s.listing "d").map (fun e => (e.1.id, e.2.map (·.viewId))) = [("c", ["v"])] ∧
      ((v.outcome s).store.listing "d").map (fun e => (e.1.id, e.2.map (·.viewId))) =
        [("c", [])] := by
  intro s v
  have single (s' : Store) (hc : (s'.liveRows "d").length ≤ 1)
      (hm : s'.memberships.rows.length ≤ 1) :
      s'.listing "d" = (s'.liveRows "d").map fun c =>
        (c, s'.memberships.rows.filter fun m => m.categoryId == c.id) := by
    rw [Store.listing_eq, Store.liveCategories_eq, displayed_of_length_le_one hc]
    refine List.map_congr_left fun c _ => ?_
    rw [Store.viewsIn_eq, displayed_of_length_le_one]
    exact Nat.le_trans (List.length_filter_le _ _) hm
  refine ⟨.after (.start rfl rfl) (by decide), rfl, ?_, ?_⟩
  · rw [single s (by decide) (by decide)]
    rfl
  · rw [single _ (by decide) (by decide)]
    rfl

end BoardViews
