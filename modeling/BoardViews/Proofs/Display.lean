import BoardViews.Order
import BoardViews.Proofs.Rows
import Mathlib.Data.List.Basic

/-
  Display order, in which `list_live` and `list_for_category` give their rows. Rows are shown by
  their sort orders, and by their ids where those are equal, so no two rows of a table have the
  same place: the only list of rows in that order is the one that is shown, whatever made it. Rows
  whose sort orders count them in a list are shown in the order of that list.
-/

namespace BoardViews

/-! ## Places -/

/-- Rows of which each comes before the other have the same id. -/
theorem sortsBefore_antisymm {a b : Cell × String} (h : sortsBefore a b = true)
    (k : sortsBefore b a = true) : a.2 = b.2 := by
  simp only [sortsBefore, Bool.and_eq_true, Bool.or_eq_true, Bool.not_eq_true',
    decide_eq_true_eq] at h k
  obtain ⟨hab, h⟩ := h
  obtain ⟨hba, k⟩ := k
  rw [hba] at h
  rw [hab] at k
  simp only [Bool.true_eq_false, false_or] at h k
  exact String.le_antisymm h k

/-- Integers come by their values, and by the ids where those are equal. -/
theorem sortsBefore_int {m n : Int} {x y : String} :
    sortsBefore (.int m, x) (.int n, y) = true ↔ m < n ∨ m = n ∧ x ≤ y := by
  simp only [sortsBefore, Cell.le_int, Bool.and_eq_true, Bool.or_eq_true, Bool.not_eq_true',
    decide_eq_true_eq, decide_eq_false_iff_not]
  constructor
  · rintro ⟨hmn, hnm | hxy⟩
    · exact .inl (by omega)
    · rcases Int.lt_or_eq_of_le hmn with hlt | heq
      · exact .inl hlt
      · exact .inr ⟨heq, hxy⟩
  · rintro (hlt | ⟨rfl, hxy⟩)
    · exact ⟨Int.le_of_lt hlt, .inl (by omega)⟩
    · exact ⟨Int.le_refl m, .inr hxy⟩

section

variable {α : Type} {rank : α → Cell} {key : α → String} {rows l : List α}

/-- Rows in display order. -/
def displayed (rank : α → Cell) (key : α → String) (rows : List α) : List α :=
  rows.mergeSort fun a b => sortsBefore (rank a, key a) (rank b, key b)

theorem displayed_perm (rank : α → Cell) (key : α → String) (rows : List α) :
    (displayed rank key rows).Perm rows :=
  List.mergeSort_perm _ _

theorem displayed_nodup (nodup : (rows.map key).Nodup) :
    ((displayed rank key rows).map key).Nodup :=
  ((displayed_perm rank key rows).map key).nodup_iff.2 nodup

theorem displayed_sorted (rank : α → Cell) (key : α → String) (rows : List α) :
    (displayed rank key rows).Pairwise fun a b =>
      sortsBefore (rank a, key a) (rank b, key b) = true := by
  apply List.pairwise_mergeSort
  · intro a b c
    exact sortsBefore_trans
  · intro a b
    exact sortsBefore_total (rank a, key a) (rank b, key b)

theorem displayed_of_length_le_one (h : rows.length ≤ 1) : displayed rank key rows = rows := by
  match rows, h with
  | [], _ => exact List.mergeSort_nil
  | [a], _ => exact List.mergeSort_singleton a

/-- What is in display order is what is displayed. -/
theorem displayed_eq_of_perm (nodup : (rows.map key).Nodup) (perm : rows.Perm l)
    (sorted : l.Pairwise fun a b => sortsBefore (rank a, key a) (rank b, key b) = true) :
    displayed rank key rows = l := by
  refine ((displayed_perm rank key rows).trans perm).eq_of_pairwise ?_
    (displayed_sorted rank key rows) sorted
  intro a b ha hb hab hba
  have ha' : a ∈ rows := (displayed_perm rank key rows).mem_iff.1 ha
  have hb' : b ∈ rows := perm.mem_iff.2 hb
  exact List.inj_on_of_nodup_map nodup ha' hb' (sortsBefore_antisymm hab hba)

/-- Leaving rows out does not change the order of the others. -/
theorem displayed_filter (nodup : (rows.map key).Nodup) (p : α → Bool) :
    displayed rank key (rows.filter p) = (displayed rank key rows).filter p := by
  apply displayed_eq_of_perm
  · exact nodup.sublist (List.filter_sublist.map key)
  · exact ((displayed_perm rank key rows).filter p).symm
  · exact (displayed_sorted rank key rows).sublist List.filter_sublist

/-- A change that keeps which of two rows comes first does not change their order. -/
theorem displayed_map {f : α → α}
    (h : ∀ a ∈ rows, ∀ b ∈ rows, sortsBefore (rank (f a), key (f a)) (rank (f b), key (f b)) =
      sortsBefore (rank a, key a) (rank b, key b)) :
    displayed rank key (rows.map f) = (displayed rank key rows).map f := by
  unfold displayed
  rw [List.map_mergeSort]
  intro a ha b hb
  exact (h a ha b hb).symm

/-- Rows whose sort orders count their tags in a list are displayed in the order of the list. -/
theorem map_tag_displayed {β : Type} [DecidableEq β] {tag : α → β} {tags : List β}
    (nodup : tags.Nodup) (perm : (rows.map tag).Perm tags)
    (ranked : ∀ r ∈ rows, rank r = .int (tags.idxOf (tag r) * gap)) :
    (displayed rank key rows).map tag = tags := by
  have hp : ((displayed rank key rows).map tag).Perm tags :=
    ((displayed_perm rank key rows).map tag).trans perm
  -- Both lists are in the order of the places in the list, and different tags have different
  -- places there.
  have sorted : ((displayed rank key rows).map tag).Pairwise fun x y =>
      tags.idxOf x ≤ tags.idxOf y := by
    rw [List.pairwise_map]
    refine (displayed_sorted rank key rows).imp_of_mem fun {a b} ha hb hab => ?_
    rw [ranked a ((displayed_perm rank key rows).mem_iff.1 ha),
      ranked b ((displayed_perm rank key rows).mem_iff.1 hb), sortsBefore_int] at hab
    unfold gap at hab
    omega
  have counted : tags.Pairwise fun x y => tags.idxOf x ≤ tags.idxOf y := by
    rw [List.pairwise_iff_getElem]
    intro i j hi hj hij
    rw [nodup.idxOf_getElem i hi, nodup.idxOf_getElem j hj]
    exact Nat.le_of_lt hij
  refine hp.eq_of_pairwise ?_ sorted counted
  intro x y hx _ hxy hyx
  exact (List.idxOf_inj (hp.mem_iff.1 hx)).1 (Nat.le_antisymm hxy hyx)

end

namespace Store

variable {s s' : Store} {b : String}

/-! ## Categories -/

theorem liveCategories_eq (s : Store) (b : String) :
    s.liveCategories b = displayed Category.sortOrder Category.id (s.liveRows b) := by
  unfold liveCategories liveRows rowsOn
  rw [List.filter_filter]
  simp only [Bool.and_comm]
  rfl

theorem liveCategories_perm (s : Store) (b : String) :
    (s.liveCategories b).Perm (s.liveRows b) := by
  rw [liveCategories_eq]
  exact displayed_perm _ _ _

theorem mem_liveCategories {c : Category} :
    c ∈ s.liveCategories b ↔ c ∈ s.categories.rows ∧ c.boardId = b ∧ c.isLive := by
  rw [(s.liveCategories_perm b).mem_iff, mem_liveRows]

/-- What is shown of a board depends on its rows alone. -/
theorem liveCategories_congr (h : s'.rowsOn b = s.rowsOn b) :
    s'.liveCategories b = s.liveCategories b := by
  rw [liveCategories_eq, liveCategories_eq, liveRows, liveRows, h]

/-! ## Views -/

theorem viewsIn_eq (s : Store) (category : String) :
    s.viewsIn category = displayed Membership.sortOrder Membership.viewId
      (s.memberships.rows.filter fun m => m.categoryId == category) := rfl

theorem viewRows_nodup (s : Store) (category : String) :
    ((s.memberships.rows.filter fun m => m.categoryId == category).map
      Membership.viewId).Nodup :=
  s.memberships.nodup.sublist (List.filter_sublist.map _)

theorem mem_viewsIn {category : String} {m : Membership} :
    m ∈ s.viewsIn category ↔ m ∈ s.memberships.rows ∧ m.categoryId = category := by
  rw [viewsIn_eq, (displayed_perm _ _ _).mem_iff, List.mem_filter, beq_iff_eq]

/-- The views that are shown with a category are the views of that category. -/
theorem listing_eq (s : Store) (b : String) :
    s.listing b = (s.liveCategories b).map fun c => (c, s.viewsIn c.id) := by
  unfold listing
  refine List.map_congr_left fun c hc => ?_
  have hids : ((s.liveCategories b).map Category.id).contains c.id = true := by
    rw [List.contains_iff_mem]
    exact List.mem_map_of_mem hc
  have hfilter (ids : List String) (hc : ids.contains c.id = true) :
      (s.memberships.rows.filter fun m => ids.contains m.categoryId).filter
        (fun m => m.categoryId == c.id) =
      s.memberships.rows.filter fun m => m.categoryId == c.id := by
    rw [List.filter_filter]
    refine List.filter_congr fun m _ => ?_
    by_cases hm : m.categoryId = c.id
    · rw [hm, hc, Bool.and_true]
    · rw [beq_false_of_ne hm, Bool.false_and]
  rw [viewsIn_eq, ← hfilter _ hids, displayed_filter]
  · rfl
  · exact s.memberships.nodup.sublist (List.filter_sublist.map _)

end Store

end BoardViews
