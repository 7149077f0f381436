import BoardViews.Keyed

/-
  Reconciling an order that a client proposes with the one that is stored: `reconcile` is
  `reconcile_order`, and `Plan` the `ReorderPlan` that it returns. A proposal of the right length
  is taken, whatever ids it names, and each of its ids is numbered by its place, in steps of
  `gap`; ids that are not in the current order get no number. Any other proposal is stale.
-/

namespace BoardViews

/-- The distance between neighbouring sort orders (`SORT_ORDER_GAP`). -/
def gap : Int := 10

variable {α : Type} [DecidableEq α]

/-- What comes of a proposed order: the order to hand back, the new sort orders, and whether the
proposal was taken. -/
structure Plan (α : Type) where
  order : List α
  assignments : List (α × Int)
  accepted : Bool
  deriving DecidableEq, Repr

/-- Ids with the numbers of their places; an id that is named twice has its last place. -/
def numbered (ids : List α) : List (α × Int) :=
  Keyed.ofList (ids.zipIdx.map fun p => (p.1, (p.2 : Int) * gap))

/-- Reconciles a proposed order with the current one (`reconcile_order`). -/
def reconcile (current proposed : List α) : Plan α :=
  if current = [] then ⟨[], [], false⟩
  else if proposed.length ≠ current.length then ⟨current, [], false⟩
  else ⟨proposed, (numbered proposed).filter fun a => current.contains a.1, true⟩

/-- The new sort order of an id. -/
def Plan.sortOrder? (p : Plan α) (id : α) : Option Int := Keyed.get? id p.assignments

theorem reconcile_accepted (current proposed : List α) :
    (reconcile current proposed).accepted = true ↔
      current ≠ [] ∧ proposed.length = current.length := by
  unfold reconcile
  split
  · simp_all
  · split <;> simp_all

/-- Where a proposal is taken, it is handed back, and its numbers are kept for the ids that are
known. -/
theorem reconcile_of_taken {current proposed : List α}
    (h : (reconcile current proposed).accepted = true) :
    reconcile current proposed =
      ⟨proposed, (numbered proposed).filter fun a => current.contains a.1, true⟩ := by
  obtain ⟨nonempty, length⟩ := (reconcile_accepted current proposed).1 h
  unfold reconcile
  rw [if_neg nonempty, if_neg fun other => other length]

/-- Where a proposal is not taken, the current order is handed back and nothing is assigned. -/
theorem reconcile_of_stale {current proposed : List α}
    (h : (reconcile current proposed).accepted = false) :
    reconcile current proposed = ⟨current, [], false⟩ := by
  rw [← Bool.not_eq_true, reconcile_accepted] at h
  unfold reconcile
  by_cases hc : current = []
  · rw [if_pos hc, hc]
  · rw [if_neg hc, if_pos fun hl => h ⟨hc, hl⟩]

/-- A proposal that is not taken is given no sort orders. -/
theorem reconcile_assignments_of_stale {current proposed : List α}
    (h : (reconcile current proposed).accepted = false) :
    (reconcile current proposed).assignments = [] := by
  rw [reconcile_of_stale h]

end BoardViews
