import BoardViews.Proofs.Display
import BoardViews.Proofs.Plan
import BoardViews.Proofs.Step
import Mathlib.Data.List.Forall2

/-
  Reordering (`reorder_categories` and `reorder_views_in_category`). A proposal for the order of
  the categories of a board, or of the views of a category, is taken or stale by its length alone.
  Where it is stale or a permutation, the order that is handed back and announced is the one that
  is shown from then on, and a stale one changes nothing. A proposal of the right length that is
  no permutation is taken as well: it is handed back as it is, and the rows that it names are
  counted anew.
-/

namespace BoardViews

/-! ## Rows that are counted anew -/

/-- What becomes of a category where an order is taken for a board: if it is live there and named,
its sort order counts its last place. -/
inductive Category.Recounted (board : String) (order : List RawText) (c : Category) :
    Category → Prop
  | named {k : Nat} (onBoard : c.boardId = board) (live : c.isLive = true)
      (last : IsLastPlace order (.whole c.id) k) :
      Recounted board order c { c with sortOrder := .int (k * gap) }
  | other (h : ¬(c.boardId = board ∧ c.isLive = true ∧ .whole c.id ∈ order)) :
      Recounted board order c c

/-- What becomes of a membership where an order is taken for a category: if it is one of it and its
view is named, its sort order counts the last place of the view. -/
inductive Membership.Recounted (category : String) (order : List RawText) (m : Membership) :
    Membership → Prop
  | named {k : Nat} (isIn : m.categoryId = category)
      (last : IsLastPlace order (.whole m.viewId) k) :
      Recounted category order m { m with sortOrder := .int (k * gap) }
  | other (h : ¬(m.categoryId = category ∧ .whole m.viewId ∈ order)) :
      Recounted category order m m

namespace Store

variable {s : Store} {b category : String} {order : List RawText}

theorem mem_categoryOrder {c : Category} (hc : c ∈ s.categories.rows) (hb : c.boardId = b)
    (live : c.isLive = true) : .whole c.id ∈ s.categoryOrder b := by
  unfold categoryOrder
  exact List.mem_map_of_mem (mem_liveCategories.2 ⟨hc, hb, live⟩)

theorem mem_viewOrder {m : Membership} (hm : m ∈ s.memberships.rows)
    (hc : m.categoryId = category) : .whole m.viewId ∈ s.viewOrder category := by
  unfold viewOrder
  exact List.mem_map_of_mem (mem_viewsIn.2 ⟨hm, hc⟩)

theorem length_categoryOrder_le (s : Store) (b : String) :
    (s.categoryOrder b).length ≤ (s.rowsOn b).length := by
  unfold categoryOrder
  rw [List.length_map, (s.liveCategories_perm b).length_eq]
  exact List.length_filter_le _ _

theorem length_viewOrder_le (s : Store) (category : String) :
    (s.viewOrder category).length ≤ s.memberships.rows.length := by
  unfold viewOrder
  rw [List.length_map, viewsIn_eq, (displayed_perm _ _ _).length_eq]
  exact List.length_filter_le _ _

/-- A plan for a board counts the categories anew that its proposal names. -/
theorem recounted_arranged {c : Category} (hc : c ∈ s.categories.rows)
    (h : order.length = (s.categoryOrder b).length) :
    c.Recounted b order (c.arranged b (reconcile (s.categoryOrder b) order)) := by
  unfold Category.arranged
  split
  · next hl =>
    cases hn : (reconcile (s.categoryOrder b) order).sortOrder? (.whole c.id) with
    | none =>
      refine .other ?_
      rintro ⟨-, -, named⟩
      obtain ⟨k, last⟩ := exists_isLastPlace named
      have hs := sortOrder?_eq_some_iff.2 ⟨h, mem_categoryOrder hc hl.1 hl.2, k, last, rfl⟩
      rw [hn] at hs
      cases hs
    | some n =>
      obtain ⟨-, -, k, last, rfl⟩ := sortOrder?_eq_some_iff.1 hn
      exact .named hl.1 hl.2 last
  · next hl =>
    refine .other ?_
    rintro ⟨onBoard, live, -⟩
    exact hl ⟨onBoard, live⟩

/-- A plan for a category counts the views anew that its proposal names. -/
theorem recounted_arrangedView {m : Membership} (hm : m ∈ s.memberships.rows)
    (h : order.length = (s.viewOrder category).length) :
    m.Recounted category order (m.arranged category (reconcile (s.viewOrder category) order)) := by
  unfold Membership.arranged
  split
  · next hc =>
    cases hn : (reconcile (s.viewOrder category) order).sortOrder? (.whole m.viewId) with
    | none =>
      refine .other ?_
      rintro ⟨-, named⟩
      obtain ⟨k, last⟩ := exists_isLastPlace named
      have hs := sortOrder?_eq_some_iff.2 ⟨h, mem_viewOrder hm hc, k, last, rfl⟩
      rw [hn] at hs
      cases hs
    | some n =>
      obtain ⟨-, -, k, last, rfl⟩ := sortOrder?_eq_some_iff.1 hn
      exact .named hc last
  · next hc =>
    refine .other ?_
    rintro ⟨isIn, -⟩
    exact hc isIn

/-! ## Permutations -/

theorem nodup_map_whole {α : Type} {key : α → String} {rows : List α}
    (h : (rows.map key).Nodup) : (rows.map fun r => RawText.whole (key r)).Nodup := by
  have hw : rows.map (fun r => RawText.whole (key r)) = (rows.map key).map .whole := by
    rw [List.map_map]
    rfl
  rw [hw]
  exact h.map fun x y hxy => by cases hxy; rfl

theorem categoryOrder_nodup (s : Store) (b : String) : (s.categoryOrder b).Nodup :=
  nodup_map_whole
    (((s.liveCategories_perm b).map Category.id).nodup_iff.2 (s.liveRows_ids_nodup b))

theorem viewOrder_nodup (s : Store) (category : String) : (s.viewOrder category).Nodup :=
  nodup_map_whole (displayed_nodup (s.viewRows_nodup category))

theorem sortOrder_arranged {p : Plan RawText} {c : Category} {n : Int} (hb : c.boardId = b)
    (live : c.isLive = true) (hn : p.sortOrder? (.whole c.id) = some n) :
    (c.arranged b p).sortOrder = .int n := by
  unfold Category.arranged
  rw [if_pos ⟨hb, live⟩, hn]
  rfl

/-- Live categories that a plan numbers by their places in a list are then shown in its order. -/
theorem categoryOrder_of_numbered {p : Plan RawText} (perm : order.Perm (s.categoryOrder b))
    (numbered : ∀ id ∈ s.categoryOrder b, p.sortOrder? id = some (order.idxOf id * gap)) :
    (s.applyCategoryPlan b p).categoryOrder b = order := by
  have hrows : (s.applyCategoryPlan b p).liveRows b =
      (s.liveRows b).map (Category.arranged b p) :=
    liveRows_of_map rfl (fun r _ => Category.arranged_boardId b p r)
      fun r _ => Category.arranged_isLive b p r
  unfold categoryOrder
  rw [liveCategories_eq, hrows]
  apply map_tag_displayed
  · exact perm.nodup_iff.2 (s.categoryOrder_nodup b)
  · rw [List.map_map]
    refine .trans (.of_eq ?_) (((s.liveCategories_perm b).symm.map _).trans perm.symm)
    refine List.map_congr_left fun r _ => ?_
    exact congrArg RawText.whole (Category.arranged_id b p r)
  · intro r' hr'
    obtain ⟨r, hr, rfl⟩ := List.mem_map.1 hr'
    obtain ⟨hr, onBoard, live⟩ := mem_liveRows.1 hr
    rw [Category.arranged_id]
    exact sortOrder_arranged onBoard live (numbered _ (mem_categoryOrder hr onBoard live))

/-- Views of a category that a plan numbers by their places in a list are then shown in its
order. -/
theorem viewOrder_of_numbered {p : Plan RawText} (perm : order.Perm (s.viewOrder category))
    (numbered : ∀ id ∈ s.viewOrder category, p.sortOrder? id = some (order.idxOf id * gap)) :
    (s.applyViewPlan category p).viewOrder category = order := by
  have hrows : (s.memberships.rows.map (Membership.arranged category p)).filter
      (fun m => m.categoryId == category) =
      (s.memberships.rows.filter fun m => m.categoryId == category).map
        (Membership.arranged category p) := by
    refine filter_map_of fun m _ => ?_
    rw [Membership.arranged_categoryId]
  unfold viewOrder
  rw [viewsIn_eq, applyViewPlan, Table.mapRows_rows, hrows]
  apply map_tag_displayed
  · exact perm.nodup_iff.2 (s.viewOrder_nodup category)
  · rw [List.map_map]
    refine .trans (.of_eq ?_) (((displayed_perm _ _ _).symm.map _).trans perm.symm)
    refine List.map_congr_left fun m _ => ?_
    exact congrArg RawText.whole (Membership.arranged_viewId category p m)
  · intro m' hm'
    obtain ⟨m, hm, rfl⟩ := List.mem_map.1 hm'
    obtain ⟨hm, isIn⟩ := List.mem_filter.1 hm
    have isIn : m.categoryId = category := by simpa using isIn
    have hn := numbered _ (mem_viewOrder hm isIn)
    rw [Membership.arranged_viewId]
    unfold Membership.arranged
    rw [if_pos isIn, hn]
    rfl

end Store

/-! ## Proposals -/

/-- What has an order: the categories of a board, or the views of a category. -/
inductive Sequence where
  | categories
  | views (category : String)

namespace Sequence

/-- The command that proposes an order. -/
def command : Sequence → List RawText → Command
  | categories, order => .reorder order
  | views category, order => .reorderViews (some category) order

/-- The order that a store shows. -/
def current (q : Sequence) (board : String) (s : Store) : List RawText :=
  match q with
  | categories => s.categoryOrder board
  | views category => s.viewOrder category

/-- The change that a team is told of. -/
def change (q : Sequence) (board : String) (order : List RawText) : Change :=
  match q with
  | categories => .categoryOrder board order
  | views category => .viewOrder category order

/-- A store in which the rows of a sequence that an order names are counted anew, and nothing else
is different. -/
def Recounted (q : Sequence) (board : String) (order : List RawText) (s s' : Store) : Prop :=
  match q with
  | categories =>
    s' = { s with categories := s'.categories } ∧
      List.Forall₂ (Category.Recounted board order) s.categories.rows s'.categories.rows
  | views category =>
    s' = { s with memberships := s'.memberships } ∧
      List.Forall₂ (Membership.Recounted category order) s.memberships.rows s'.memberships.rows

/-- What comes of a proposed order: the ids that are handed back, and the store. -/
structure Settled (q : Sequence) (board : String) (order ids : List RawText) (s s' : Store) :
    Prop where
  inEffect : order.length ≠ (q.current board s).length ∨ order.Perm (q.current board s) →
    q.current board s' = ids
  stale : order.length ≠ (q.current board s).length → s' = s
  taken : order.length = (q.current board s).length → ids = order ∧ q.Recounted board order s s'

/-- The store in which a plan gave a sequence its sort orders. -/
def written (q : Sequence) (board : String) (s : Store) (p : Plan RawText) : Store :=
  match q with
  | categories => s.applyCategoryPlan board p
  | views category => s.applyViewPlan category p

variable {q : Sequence} {board : String} {s : Store} {order : List RawText}

theorem written_stale {p : Plan RawText} (h : p.assignments = []) : q.written board s p = s := by
  cases q with
  | categories => exact Store.applyCategoryPlan_stale h
  | views category => exact Store.applyViewPlan_stale h

theorem current_nodup (q : Sequence) (board : String) (s : Store) : (q.current board s).Nodup := by
  cases q with
  | categories => exact s.categoryOrder_nodup board
  | views category => exact s.viewOrder_nodup category

theorem current_written_of_perm (h : order.Perm (q.current board s)) :
    q.current board (q.written board s (reconcile (q.current board s) order)) = order := by
  have numbered : ∀ id ∈ q.current board s,
      (reconcile (q.current board s) order).sortOrder? id = some (order.idxOf id * gap) :=
    fun id hid => sortOrder?_of_perm (q.current_nodup board s) h hid
  cases q with
  | categories => exact Store.categoryOrder_of_numbered h numbered
  | views category => exact Store.viewOrder_of_numbered h numbered

theorem recounted_written (h : order.length = (q.current board s).length) :
    q.Recounted board order s (q.written board s (reconcile (q.current board s) order)) := by
  cases q with
  | categories =>
    refine ⟨rfl, ?_⟩
    rw [written, Store.applyCategoryPlan, Table.mapRows_rows, List.forall₂_map_right_iff,
      List.forall₂_same]
    intro c hc
    exact Store.recounted_arranged hc h
  | views category =>
    refine ⟨rfl, ?_⟩
    rw [written, Store.applyViewPlan, Table.mapRows_rows, List.forall₂_map_right_iff,
      List.forall₂_same]
    intro m hm
    exact Store.recounted_arrangedView hm h

theorem settled_written (q : Sequence) (board : String) (s : Store) (order : List RawText) :
    q.Settled board order (reconcile (q.current board s) order).order s
      (q.written board s (reconcile (q.current board s) order)) := by
  constructor
  · rintro (hl | perm)
    · rw [reconcile_order_of_stale hl, written_stale (reconcile_stale hl)]
    · rw [reconcile_order_of_taken perm.length_eq, current_written_of_perm perm]
  · intro hl
    exact written_stale (reconcile_stale hl)
  · intro hl
    exact ⟨reconcile_order_of_taken hl, recounted_written hl⟩

/-- A reorder that succeeds hands back and announces the order of its plan, and stores the plan. -/
theorem run_ok {env : Env} {user : Option String} {reply : Reply}
    (h : (Request.run env s ⟨user, some board, q.command order⟩).result = .ok reply) :
    ∃ row p, s.board? (some board) = some row ∧ p = reconcile (q.current board s) order ∧
      reply = .order p.order ∧
      (Request.run env s ⟨user, some board, q.command order⟩).store = q.written board s p ∧
      Note.events (Request.run env s ⟨user, some board, q.command order⟩).notes =
        [(q.change board p.order).event row.teamId env.now].filter fun e =>
          (e.obstacle? env.publishFault).isNone := by
  obtain ⟨a, events, granted, step, delivered⟩ := Request.run_ok h
  have hb : board = a.board.id := Option.some.inj granted.board_id
  rw [delivered]
  generalize (Request.run env s ⟨user, some board, q.command order⟩).store = s' at step
  subst hb
  cases q with
  | categories =>
    cases step with
    | reorder plan reached => exact ⟨a.board, _, granted.board, plan, rfl, rfl, rfl⟩
  | views category =>
    cases step with
    | reorderViews owned plan reached =>
      cases owned.named
      exact ⟨a.board, _, granted.board, plan, rfl, rfl, rfl⟩

/-- Whoever may reorder is handed back an order, whatever was proposed. -/
theorem run_result {env : Env} {user : Option String} {a : Access} {t : Task}
    (h : s.admitted ⟨user, some board, q.command order⟩ = .ok (a, t))
    (reached : env.connected = true) :
    (Request.run env s ⟨user, some board, q.command order⟩).result =
      .ok (.order (reconcile (q.current board s) order).order) := by
  obtain ⟨-, granted, ht⟩ := Store.admitted_ok h
  have hb : board = a.board.id := Option.some.inj granted.board_id
  subst hb
  rw [Request.run, Outcome.deliver, Request.attempt, h]
  cases q with
  | categories =>
    cases ht
    dsimp only [Task.perform, Outcome.map]
    rw [Outcome.noting_result, reached, Store.reorderCategories_result]
    rfl
  | views category =>
    obtain ⟨c, owned, rfl⟩ := exists_of_map_eq_ok ht
    obtain rfl : category = c.id := Option.some.inj (Store.ownedCategory_ok owned).named
    dsimp only [Task.perform, Outcome.map]
    rw [Outcome.noting_result, reached, Store.reorderViews_result]
    rfl

/-- The order that is handed back is announced to the team of the board, and it is the one in effect
unless the proposal was of the right length and no permutation. -/
theorem reorder_settles {env : Env} {user : Option String} {reply : Reply} {o : Outcome Reply}
    (ho : o = Request.run env s ⟨user, some board, q.command order⟩)
    (h : o.result = .ok reply) :
    ∃ ids row, reply = .order ids ∧ s.board? (some board) = some row ∧
      q.Settled board order ids s o.store ∧
      Note.events o.notes = [(q.change board ids).event row.teamId env.now].filter fun e =>
        (e.obstacle? env.publishFault).isNone := by
  subst ho
  obtain ⟨row, p, found, rfl, rfl, hstore, hevents⟩ := run_ok h
  refine ⟨_, row, rfl, found, ?_, hevents⟩
  rw [hstore]
  exact q.settled_written board s order

/-- A permutation of two categories is handed back and shown. -/
theorem permutation_settles :
    let s := Store.sample.after
      [.sample "u" "b" (.creation "a"), .sample "u" "b" (.creation "c")]
    let o := Request.run .sample s ⟨some "u", some "b", .reorder ["a", "c"]⟩
    o.result = .ok (.order ["a", "c"]) ∧ o.store.categoryOrder "b" = ["a", "c"] := by
  intro s o
  have perm : [RawText.whole "a", .whole "c"].Perm (s.categoryOrder "b") := by
    refine .trans ?_ ((s.liveCategories_perm "b").map _).symm
    decide
  have hr : o.result = .ok (.order (reconcile (s.categoryOrder "b") ["a", "c"]).order) :=
    run_result (q := categories) rfl rfl
  rw [reconcile_order_of_taken perm.length_eq] at hr
  obtain ⟨ids, row, hids, -, settled, -⟩ := reorder_settles (q := categories) rfl hr
  cases hids
  exact ⟨hr, settled.inEffect (.inr perm)⟩

/-- A proposal that names one of two categories twice is handed back and taken: the order that is
shown is another one, and the named row is not as it was. -/
theorem repeated_id_is_not_settled :
    let s := Store.sample.after
      [.sample "u" "b" (.creation "a"), .sample "u" "b" (.creation "c")]
    let o := Request.run .sample s ⟨some "u", some "b", .reorder ["c", "c"]⟩
    s.Reachable ∧ o.result = .ok (.order ["c", "c"]) ∧ o.store.categoryOrder "b" = ["a", "c"] ∧
      ¬ [RawText.whole "c", .whole "c"].Perm (s.categoryOrder "b") ∧ o.store ≠ s := by
  intro s o
  have current : s.categoryOrder "b" = ["c", "a"] := by
    unfold Store.categoryOrder
    rw [Store.liveCategories_eq]
    refine map_tag_displayed (by decide) (by decide) ?_
    decide
  have hr : o.result = .ok (.order (reconcile (s.categoryOrder "b") ["c", "c"]).order) :=
    run_result (q := categories) rfl rfl
  obtain ⟨row, p, -, hp, -, hstore, -⟩ := run_ok (q := categories) hr
  replace hstore : o.store =
      s.applyCategoryPlan "b" (reconcile (s.categoryOrder "b") ["c", "c"]) := by
    rw [hp] at hstore
    exact hstore
  rw [current] at hr hstore ⊢
  have shown : o.store.categoryOrder "b" = ["a", "c"] := by
    let row (id : String) : Category :=
      ⟨id, id, "u", "b", .int 1000, .int 1000, .int 0, false, .int 10, "custom"⟩
    have rows : o.store.liveRows "b" = [row "a", row "c"] := by
      rw [hstore]
      rfl
    have tie : [row "a", row "c"].Pairwise fun c d =>
        sortsBefore (c.sortOrder, c.id) (d.sortOrder, d.id) = true :=
      List.pairwise_pair.2 (sortsBefore_int.2 (.inr ⟨rfl, by decide⟩))
    rw [Store.categoryOrder, Store.liveCategories_eq, rows,
      displayed_eq_of_perm (by decide) (.refl _) tie]
    rfl
  refine ⟨.after (.start rfl rfl) (by decide), hr, shown, by decide, ?_⟩
  intro e
  rw [e, current] at shown
  exact absurd shown (by decide)

end Sequence

end BoardViews
