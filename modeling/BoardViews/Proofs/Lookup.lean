import BoardViews.Proofs.Session

/-
  Where a view is found. A view has at most one membership, so what a write does to memberships is
  told by what is found under each view afterwards. A view that is put into a category (`upsert`)
  is found there, with the flag and the sort order that it had before; what is found under the
  other views stays as it was.
-/

namespace BoardViews

/-- The membership of a view in a category, with the flag and the sort order of an older one; if
there is none, it is shown and comes first. -/
def Membership.carried (category view : String) (old : Option Membership) : Membership :=
  { viewId := view, categoryId := category, hidden := (old.map Membership.hidden).getD false
    sortOrder := (old.map Membership.sortOrder).getD (.int 0) }

theorem Membership.relocated_eq_carried {category view : String} {m : Membership}
    (h : m.viewId = view) : relocated category view m = carried category view (some m) := by
  subst h
  simp [relocated, carried]

namespace Store

variable {s : Store} {category view v : String}

/-- A membership is stored if and only if it is found under its view. -/
theorem mem_memberships_iff {m : Membership} :
    m ∈ s.memberships.rows ↔ s.memberships.find? m.viewId = some m := by
  rw [Table.find?_eq_some_iff]
  exact (and_iff_left rfl).symm

theorem find?_placed (category : String) (t : Table Membership.viewId) (view v : String) :
    (placed category t view).find? v =
      if v = view then some (.carried category view (t.find? view)) else t.find? v := by
  unfold placed
  split
  · next u hu =>
    have absent : t.find? view = none := by
      unfold Table.find?
      rw [List.find?_eq_none]
      intro m hm
      simpa using Table.key_ne_of_insert? hu hm
    rw [Table.find?_insert? hu, absent]
    simp only [eq_comm (a := v)]
    rfl
  · next hu =>
    obtain ⟨m, hm, hv⟩ := (t.insert?_eq_none_iff _).1 hu
    have found : t.find? view = some m := Table.find?_eq_some_iff.2 ⟨hm, hv⟩
    rw [Table.find?_mapRows, found]
    split
    · next h =>
      subst h
      rw [found, Option.map_some, Membership.relocated_eq_carried hv]
    · next h =>
      -- Nothing else is moved.
      cases hf : t.find? v with
      | none => rfl
      | some q =>
        have hq : q.viewId ≠ view := by
          rw [Table.find?_key hf]
          exact h
        exact congrArg some (if_neg hq)

/-- What is found under a view after views were put into a category. -/
theorem find?_moved (s : Store) (category : String) (views : List String) (v : String) :
    (s.moved category views).memberships.find? v =
      if v ∈ views then some (.carried category v (s.memberships.find? v))
      else s.memberships.find? v := by
  induction views generalizing s with
  | nil => rfl
  | cons w ws ih =>
    have first : (s.moved category [w]).memberships.find? v =
        if v = w then some (.carried category w (s.memberships.find? w))
        else s.memberships.find? v := find?_placed category s.memberships w v
    have rest : s.moved category (w :: ws) = (s.moved category [w]).moved category ws := rfl
    rw [rest, ih, first]
    by_cases hw : v = w
    · subst hw
      -- A view that is named again keeps what it has.
      have again : Membership.carried category v
          (some (.carried category v (s.memberships.find? v))) =
            .carried category v (s.memberships.find? v) := rfl
      simp [again]
    · simp [hw]

/-- Every view that was put into a category has a membership there. -/
theorem mem_moved {views : List String} (hv : v ∈ views) :
    Membership.carried category v (s.memberships.find? v) ∈
      (s.moved category views).memberships.rows := by
  rw [mem_memberships_iff]
  exact (find?_moved s category views v).trans (if_pos hv)

end Store

end BoardViews
