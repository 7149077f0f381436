import BoardViews.Order
import Mathlib.Data.List.Induction
import Mathlib.Data.List.Nodup

/-
  What a plan of `reconcile_order` says. A proposal is taken or stale by its length alone. One
  that is taken numbers every id of the current order that it names by the last place where it
  names it, and no other id; where it is a permutation of the current order, that is every id by
  its only place.
-/

namespace BoardViews

variable {α : Type}

/-- The last place of an id in a list. -/
structure IsLastPlace (ids : List α) (id : α) (k : Nat) : Prop where
  named : ids[k]? = some id
  last : ∀ j, k < j → ids[j]? ≠ some id

/-! ## Last places -/

theorem isLastPlace_append_singleton {ids : List α} {x id : α} {k : Nat} :
    IsLastPlace (ids ++ [x]) id k ↔
      (id = x ∧ k = ids.length) ∨ (id ≠ x ∧ IsLastPlace ids id k) := by
  constructor
  · rintro ⟨named, last⟩
    rcases Nat.lt_trichotomy k ids.length with hk | rfl | hk
    · rw [List.getElem?_append_left hk] at named
      refine .inr ⟨?_, named, fun j hj hn => ?_⟩
      · rintro rfl
        exact last ids.length hk (by simp)
      · obtain ⟨hlt, -⟩ := List.getElem?_eq_some_iff.1 hn
        exact last j hj (by rw [List.getElem?_append_left hlt, hn])
    · exact .inl ⟨by simpa using named.symm, rfl⟩
    · rw [List.getElem?_eq_none (by simp; omega)] at named
      cases named
  · rintro (⟨rfl, rfl⟩ | ⟨hne, named, last⟩)
    · exact ⟨by simp, fun j hj => by rw [List.getElem?_eq_none (by simp; omega)]; simp⟩
    · obtain ⟨hk, -⟩ := List.getElem?_eq_some_iff.1 named
      refine ⟨by rw [List.getElem?_append_left hk, named], fun j hj hn => ?_⟩
      rcases Nat.lt_trichotomy j ids.length with hlt | rfl | hgt
      · rw [List.getElem?_append_left hlt] at hn
        exact last j hj hn
      · exact hne (by simpa using hn.symm)
      · rw [List.getElem?_eq_none (by simp; omega)] at hn
        cases hn

theorem IsLastPlace.eq {ids : List α} {id : α} {j k : Nat} (hj : IsLastPlace ids id j)
    (hk : IsLastPlace ids id k) : j = k := by
  rcases Nat.lt_trichotomy j k with lt | rfl | gt
  · exact absurd hk.named (hj.last k lt)
  · rfl
  · exact absurd hj.named (hk.last j gt)

theorem exists_isLastPlace {ids : List α} {id : α} (h : id ∈ ids) : ∃ k, IsLastPlace ids id k := by
  induction ids using List.reverseRecOn with
  | nil => cases h
  | append_singleton ids x ih =>
    classical
    by_cases hx : id = x
    · exact ⟨ids.length, isLastPlace_append_singleton.2 (.inl ⟨hx, rfl⟩)⟩
    · obtain ⟨k, hk⟩ := ih (by simpa [hx] using h)
      exact ⟨k, isLastPlace_append_singleton.2 (.inr ⟨hx, hk⟩)⟩

variable [DecidableEq α]

theorem IsLastPlace.eq_idxOf {ids : List α} {id : α} {k : Nat} (h : IsLastPlace ids id k)
    (nodup : ids.Nodup) : k = ids.idxOf id := by
  obtain ⟨hk, rfl⟩ := List.getElem?_eq_some_iff.1 h.named
  exact (nodup.idxOf_getElem k hk).symm

/-! ## Numbers -/

theorem numbered_append_singleton (ids : List α) (id : α) :
    numbered (ids ++ [id]) = Keyed.put id (ids.length * gap) (numbered ids) := by
  unfold numbered Keyed.ofList
  rw [List.zipIdx_append, List.map_append, List.foldl_append]
  simp

/-- An id has the number of its last place. -/
theorem get?_numbered {ids : List α} {id : α} {n : Int} :
    Keyed.get? id (numbered ids) = some n ↔ ∃ k, IsLastPlace ids id k ∧ n = k * gap := by
  induction ids using List.reverseRecOn with
  | nil =>
    constructor
    · intro h
      cases h
    · rintro ⟨k, ⟨named, -⟩, -⟩
      cases named
  | append_singleton ids x ih =>
    rw [numbered_append_singleton, Keyed.get?_put]
    split
    · next hx =>
      constructor
      · intro h
        cases h
        exact ⟨ids.length, isLastPlace_append_singleton.2 (.inl ⟨hx, rfl⟩), rfl⟩
      · rintro ⟨k, hk, rfl⟩
        rcases isLastPlace_append_singleton.1 hk with ⟨-, rfl⟩ | ⟨hne, -⟩
        · rfl
        · exact absurd hx hne
    · next hx =>
      rw [ih]
      constructor
      · rintro ⟨k, hk, hn⟩
        exact ⟨k, isLastPlace_append_singleton.2 (.inr ⟨hx, hk⟩), hn⟩
      · rintro ⟨k, hk, hn⟩
        rcases isLastPlace_append_singleton.1 hk with ⟨he, -⟩ | ⟨-, hk⟩
        · exact absurd he hx
        · exact ⟨k, hk, hn⟩

/-! ## Plans -/

section

variable {current proposed : List α} {id : α}

/-- A proposal of the right length is handed back as it is. -/
theorem reconcile_order_of_taken (h : proposed.length = current.length) :
    (reconcile current proposed).order = proposed := by
  by_cases hc : current = []
  · subst hc
    exact (List.length_eq_zero_iff.1 h).symm
  · rw [reconcile_of_taken ((reconcile_accepted current proposed).2 ⟨hc, h⟩)]

theorem not_accepted_of_length_ne (h : proposed.length ≠ current.length) :
    (reconcile current proposed).accepted = false := by
  rw [← Bool.not_eq_true, reconcile_accepted]
  exact fun taken => h taken.2

/-- For any other proposal the current order is handed back. -/
theorem reconcile_order_of_stale (h : proposed.length ≠ current.length) :
    (reconcile current proposed).order = current := by
  rw [reconcile_of_stale (not_accepted_of_length_ne h)]

theorem reconcile_stale (h : proposed.length ≠ current.length) :
    (reconcile current proposed).assignments = [] :=
  reconcile_assignments_of_stale (not_accepted_of_length_ne h)

/-- A plan numbers the ids that its proposal names, if the proposal is taken. -/
theorem sortOrder?_eq_some_iff {n : Int} :
    (reconcile current proposed).sortOrder? id = some n ↔
      proposed.length = current.length ∧ id ∈ current ∧
        ∃ k, IsLastPlace proposed id k ∧ n = k * gap := by
  unfold Plan.sortOrder?
  by_cases hl : proposed.length = current.length
  · by_cases hc : current = []
    · simp [reconcile, hc, Keyed.get?]
    · have taken := (reconcile_accepted current proposed).2 ⟨hc, hl⟩
      rw [reconcile_of_taken taken, Keyed.get?_filter current.contains, ← get?_numbered]
      by_cases hi : id ∈ current
      · simp [hl, hi]
      · simp [hi]
  · rw [reconcile_stale hl]
    simp [Keyed.get?, hl]

/-- A permutation of the current order numbers each id by its place. -/
theorem sortOrder?_of_perm (nodup : current.Nodup) (perm : proposed.Perm current)
    (hi : id ∈ current) :
    (reconcile current proposed).sortOrder? id = some (proposed.idxOf id * gap) := by
  obtain ⟨k, hk⟩ := exists_isLastPlace (perm.mem_iff.2 hi)
  rw [sortOrder?_eq_some_iff]
  refine ⟨perm.length_eq, hi, k, hk, ?_⟩
  rw [hk.eq_idxOf (perm.nodup_iff.2 nodup)]

end

end BoardViews
