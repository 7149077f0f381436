import BoardViews.Proofs.Display
import Mathlib.Algebra.BigOperators.Group.Finset.Piecewise

/-
  The listing of a board (`list_with_membership`). It looks the views of all live categories up at
  once, sorts them together and hands them out; what it shows is what looking up the views of each
  category for itself (`list_for_category`) shows. The listings of all boards together show a view
  once if its category is live, on whatever board, and not at all if not, and both the categories
  and the views of each come in display order. This holds of every store.
-/

namespace BoardViews

/-- Whether a row comes before another one: by their sort orders, and by their ids where those have
the same place. -/
def ComesBefore (a b : Cell × String) : Prop := a.1.le b.1 = true ∧ (b.1.le a.1 = true → a.2 < b.2)

/-- Rows with different ids that are in display order come one before the other. -/
theorem comesBefore_of_sortsBefore {a b : Cell × String} (h : sortsBefore a b = true)
    (ne : a.2 ≠ b.2) : ComesBefore a b := by
  simp only [sortsBefore, Bool.and_eq_true, Bool.or_eq_true, Bool.not_eq_true',
    decide_eq_true_eq] at h
  obtain ⟨hab, h⟩ := h
  refine ⟨hab, fun hba => ?_⟩
  rw [hba] at h
  have le : a.2 ≤ b.2 := h.resolve_left (by decide)
  exact String.not_le.1 fun ge => ne (String.le_antisymm le ge)

section

variable {α : Type} {rank : α → Cell} {key : α → String} {rows : List α}

/-- Rows with pairwise different ids are displayed one before the other. -/
theorem displayed_comesBefore (nodup : (rows.map key).Nodup) :
    (displayed rank key rows).Pairwise fun a b => ComesBefore (rank a, key a) (rank b, key b) := by
  have different : (displayed rank key rows).Pairwise fun a b => key a ≠ key b :=
    List.pairwise_map.1 (displayed_nodup nodup)
  exact (displayed_sorted rank key rows).imp₂
    (fun a b h ne => comesBefore_of_sortsBefore h ne) different

end

namespace Store

variable {s : Store} {b : String} {m : Membership}

/-! ## What is shown -/

/-- The views that the listing of a board shows, category by category. -/
def shownOn (s : Store) (b : String) : List Membership := (s.listing b).flatMap (·.2)

/-- A live category that a membership is in. -/
def InLive (s : Store) (m : Membership) (c : Category) : Prop :=
  c ∈ s.categories.rows ∧ c.isLive = true ∧ c.id = m.categoryId

/-- There is one such category at most. -/
theorem InLive.eq {c d : Category} (hc : s.InLive m c) (hd : s.InLive m d) : c = d :=
  Table.eq_of_key hc.1 hd.1 (hc.2.2.trans hd.2.2.symm)

theorem shownOn_eq (s : Store) (b : String) :
    s.shownOn b = (s.liveCategories b).flatMap fun c => s.viewsIn c.id := by
  unfold shownOn
  rw [listing_eq, List.flatMap_map]

theorem mem_shownOn :
    m ∈ s.shownOn b ↔ m ∈ s.memberships.rows ∧ ∃ c, s.InLive m c ∧ c.boardId = b := by
  rw [shownOn_eq, List.mem_flatMap]
  constructor
  · rintro ⟨c, shown, hm⟩
    obtain ⟨hc, onBoard, live⟩ := mem_liveCategories.1 shown
    obtain ⟨stored, isIn⟩ := mem_viewsIn.1 hm
    exact ⟨stored, c, ⟨hc, live, isIn.symm⟩, onBoard⟩
  · rintro ⟨stored, c, ⟨hc, live, isIn⟩, onBoard⟩
    exact ⟨c, mem_liveCategories.2 ⟨hc, onBoard, live⟩, mem_viewsIn.2 ⟨stored, isIn.symm⟩⟩

/-- No view is shown twice on a board: not with one category, for a view has one membership, and not
with two, for a membership is in one category. -/
theorem shownOn_nodup (s : Store) (b : String) : (s.shownOn b).Nodup := by
  rw [shownOn_eq, List.nodup_flatMap]
  constructor
  · intro c _
    exact (displayed_nodup (s.viewRows_nodup c.id)).of_map _
  · have different : (s.liveCategories b).Pairwise fun c d => c.id ≠ d.id := by
      rw [liveCategories_eq]
      exact List.pairwise_map.1 (displayed_nodup (s.liveRows_ids_nodup b))
    refine different.imp fun {c d} ne m hc hd => ne ?_
    exact (mem_viewsIn.1 hc).2.symm.trans (mem_viewsIn.1 hd).2

/-- How often the listings of some boards together show a membership. -/
def timesShown (s : Store) (boards : Finset String) (m : Membership) : Nat :=
  ∑ b ∈ boards, (s.shownOn b).count m

theorem timesShown_of_inLive {boards : Finset String} {c : Category}
    (stored : m ∈ s.memberships.rows) (isIn : s.InLive m c) (onBoard : c.boardId ∈ boards) :
    s.timesShown boards m = 1 := by
  have each (b : String) : (s.shownOn b).count m = if c.boardId = b then 1 else 0 := by
    rw [(s.shownOn_nodup b).count]
    refine if_congr (mem_shownOn.trans ⟨?_, fun h => ⟨stored, c, isIn, h⟩⟩) rfl rfl
    rintro ⟨-, d, hd, rfl⟩
    rw [isIn.eq hd]
  unfold timesShown
  rw [Finset.sum_congr rfl fun b _ => each b, Finset.sum_ite_eq, if_pos onBoard]

theorem timesShown_of_not_inLive {boards : Finset String}
    (elsewhere : ∀ c, s.InLive m c → c.boardId ∉ boards) : s.timesShown boards m = 0 := by
  refine Finset.sum_eq_zero fun b hb => List.count_eq_zero.2 fun shown => ?_
  obtain ⟨-, c, isIn, rfl⟩ := mem_shownOn.1 shown
  exact elsewhere c isIn hb

/-! ## What the listing comes to -/

/-- The listing of a board pairs its live categories with the views that are found for each of them
alone. Whatever boards are listed, a membership is shown once if it is in a live category of one of
them and not at all if not, and nothing is shown out of order. -/
theorem listing_shows_live_views_once (s : Store) :
    (∀ b, s.listing b = (s.liveCategories b).map fun c => (c, s.viewsIn c.id)) ∧
    (∀ m ∈ s.memberships.rows, ∀ boards : Finset String,
      (∀ c, s.InLive m c → c.boardId ∈ boards → s.timesShown boards m = 1) ∧
        ((∀ c, s.InLive m c → c.boardId ∉ boards) → s.timesShown boards m = 0)) ∧
    ∀ b,
      ((s.listing b).Pairwise fun x y =>
        ComesBefore (x.1.sortOrder, x.1.id) (y.1.sortOrder, y.1.id)) ∧
      ∀ e ∈ s.listing b, e.2.Pairwise fun m n =>
        ComesBefore (m.sortOrder, m.viewId) (n.sortOrder, n.viewId) := by
  refine ⟨s.listing_eq, fun m stored boards => ⟨?_, timesShown_of_not_inLive⟩, fun b => ?_⟩
  · intro c isIn onBoard
    exact timesShown_of_inLive stored isIn onBoard
  · rw [listing_eq]
    constructor
    · rw [List.pairwise_map, liveCategories_eq]
      exact displayed_comesBefore (s.liveRows_ids_nodup b)
    · intro e he
      obtain ⟨c, -, rfl⟩ := List.mem_map.1 he
      exact displayed_comesBefore (s.viewRows_nodup c.id)

/-- A board with two categories of one place and a deleted one. Two views of one place are in the
first; the others are in the deleted category, in none, and in one that was never there. -/
def scattered : Store :=
  { categories := .ofList
      [⟨"c", "c", "u", "b", .int 1, .int 1, .int 0, false, .int 0, "custom"⟩,
        ⟨"a", "a", "u", "b", .int 1, .int 1, .int 0, false, .int 0, "custom"⟩,
        ⟨"t", "t", "u", "b", .int 1, .int 1, .int 5, false, .int 0, "custom"⟩]
    memberships := .ofList
      [⟨"w", "a", false, .int 0⟩, ⟨"v", "a", true, .int 0⟩, ⟨"p", "t", false, .int 0⟩,
        ⟨"q", "", false, .int 0⟩, ⟨"r", "x", false, .int 0⟩] }

/-- The first of these views is shown once, the one in the deleted category is not shown, and the
views of the first category come in their order. -/
theorem scattered_views_are_shown_once :
    let a : Category := ⟨"a", "a", "u", "b", .int 1, .int 1, .int 0, false, .int 0, "custom"⟩
    let v : Membership := ⟨"v", "a", true, .int 0⟩
    let p : Membership := ⟨"p", "t", false, .int 0⟩
    (v ∈ scattered.memberships.rows ∧ scattered.InLive v a ∧
      scattered.timesShown {"b", "d"} v = 1) ∧
    (p ∈ scattered.memberships.rows ∧ (∀ c, ¬scattered.InLive p c) ∧
      scattered.timesShown {"b", "d"} p = 0) ∧
    (a, scattered.viewsIn "a") ∈ scattered.listing "b" ∧
    (scattered.viewsIn "a").Pairwise fun m n =>
      ComesBefore (m.sortOrder, m.viewId) (n.sortOrder, n.viewId) := by
  intro a v p
  obtain ⟨plain, once, ordered⟩ := listing_shows_live_views_once scattered
  have stored : v ∈ scattered.memberships.rows := by decide
  have isIn : scattered.InLive v a := ⟨by decide, by decide, by decide⟩
  have buried : p ∈ scattered.memberships.rows := by decide
  have nowhere : ∀ c, ¬scattered.InLive p c := by
    rintro c ⟨hc, live, same⟩
    have named : ∀ c ∈ scattered.categories.rows, c.isLive = true → c.id ≠ p.categoryId := by decide
    exact named c hc live same
  have listed : (a, scattered.viewsIn "a") ∈ scattered.listing "b" := by
    rw [plain]
    exact List.mem_map.2 ⟨a, mem_liveCategories.2 ⟨isIn.1, rfl, isIn.2.1⟩, rfl⟩
  refine ⟨⟨stored, isIn, ?_⟩, ⟨buried, nowhere, ?_⟩, listed, (ordered "b").2 _ listed⟩
  · exact (once v stored _).1 a isIn (by decide)
  · exact (once p buried _).2 fun c hc => absurd hc (nowhere c)

end Store

end BoardViews
