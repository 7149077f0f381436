import BoardViews.Proofs.Plan
import Mathlib.Data.List.Perm.Subperm

/-
  What a plan of `reconcile_order` assigns, as a list. A plan that takes a proposal assigns sort
  orders to the ids that are in both orders. They are listed in the order in which the proposal
  names them first, and each has the number of the last place where it is named, so that no two
  ids have the same number. Ids are of any type; that the current order names none of them twice
  is asked for only where permutations are told from other proposals.

  The list grows with the proposal from its front: an id that is named again keeps its place and
  gets the new number (`map_fst_put`, `get?_put`). So both halves are inductions from the end of
  the proposal, one on the ids alone and one (`get?_numbered`) on what is found under each of
  them.
-/

namespace BoardViews

variable {α : Type}

/-! ## Ids and sort orders of a plan -/

/-- The ids that a plan assigns a sort order, in its order. -/
def Plan.ids (p : Plan α) : List α := p.assignments.map (·.1)

/-- The sort orders that a plan assigns. -/
def Plan.sortOrders (p : Plan α) : List Int := p.assignments.map (·.2)

/-- Sort orders that count last places are the same only for the same id. -/
theorem Plan.nodup_sortOrders {proposed : List α} {p : Plan α} (ids : p.ids.Nodup)
    (placed : ∀ id n, (id, n) ∈ p.assignments → ∃ k, IsLastPlace proposed id k ∧ n = 10 * k) :
    p.sortOrders.Nodup := by
  refine (List.Nodup.of_map _ ids).map_on fun e he f hf same => ?_
  obtain ⟨j, hj, first⟩ := placed e.1 e.2 he
  obtain ⟨k, hk, second⟩ := placed f.1 f.2 hf
  obtain rfl : j = k := by omega
  have named : some e.1 = some f.1 := hj.named.symm.trans hk.named
  exact Prod.ext (Option.some.inj named) same

variable [DecidableEq α]

/-! ## The ids of a numbering -/

section

variable {ids : List α} {id : α} {n : Int}

theorem map_fst_numbered_append_singleton (ids : List α) (id : α) :
    (numbered (ids ++ [id])).map (·.1) =
      if id ∈ (numbered ids).map (·.1) then (numbered ids).map (·.1)
      else (numbered ids).map (·.1) ++ [id] := by
  rw [numbered_append_singleton, Keyed.map_fst_put]

/-- Every id of a list is numbered. -/
theorem mem_map_fst_numbered : id ∈ (numbered ids).map (·.1) ↔ id ∈ ids := by
  induction ids using List.reverseRecOn with
  | nil => exact Iff.rfl
  | append_singleton ids x ih =>
    rw [map_fst_numbered_append_singleton, List.mem_append, List.mem_singleton]
    split
    · next old =>
      rw [ih]
      constructor
      · exact .inl
      · rintro (before | rfl)
        · exact before
        · exact ih.1 old
    · rw [List.mem_append, List.mem_singleton, ih]

/-- An id that the last place names for the first time comes after all that were named before. -/
theorem idxOf_lt_of_new {a x : α} (named : a ∈ ids) (new : x ∉ ids) :
    (ids ++ [x]).idxOf a < (ids ++ [x]).idxOf x := by
  rw [List.idxOf_append_of_mem named, List.idxOf_append_of_notMem new]
  exact Nat.lt_add_right _ (List.idxOf_lt_length_of_mem named)

/-- The ids are numbered in the order in which the list names them first. -/
theorem pairwise_map_fst_numbered (ids : List α) :
    ((numbered ids).map (·.1)).Pairwise fun a b => ids.idxOf a < ids.idxOf b := by
  induction ids using List.reverseRecOn with
  | nil => exact .nil
  | append_singleton ids x ih =>
    have kept : ((numbered ids).map (·.1)).Pairwise fun a b =>
        (ids ++ [x]).idxOf a < (ids ++ [x]).idxOf b := by
      refine ih.imp_of_mem fun ha hb before => ?_
      rw [List.idxOf_append_of_mem (mem_map_fst_numbered.1 ha),
        List.idxOf_append_of_mem (mem_map_fst_numbered.1 hb)]
      exact before
    rw [map_fst_numbered_append_singleton]
    split
    · exact kept
    · next new =>
      rw [mem_map_fst_numbered] at new
      refine List.pairwise_append.2 ⟨kept, List.pairwise_singleton _ _, fun a ha b hb => ?_⟩
      obtain rfl := List.mem_singleton.1 hb
      exact idxOf_lt_of_new (mem_map_fst_numbered.1 ha) new

theorem nodup_map_fst_numbered (ids : List α) : ((numbered ids).map (·.1)).Nodup :=
  (pairwise_map_fst_numbered ids).imp fun before same =>
    Nat.ne_of_lt before (congrArg (ids.idxOf ·) same)

/-- An id is numbered by its last place. -/
theorem mem_numbered : (id, n) ∈ numbered ids ↔ ∃ k, IsLastPlace ids id k ∧ n = k * gap := by
  rw [← Keyed.get?_eq_some_iff (nodup_map_fst_numbered ids), get?_numbered]

end

/-! ## Plans that take their proposal -/

/-- What a plan says that takes a proposal: it hands the proposal back, and assigns sort orders to
just the ids that are in both orders, listed as the proposal names them first. The sort order of an
id is ten times its last place in the proposal. So no two of them are the same, and all of them are
multiples of ten below ten times the length of the current order. -/
structure Plan.Takes (current proposed : List α) (p : Plan α) : Prop where
  order : p.order = proposed
  shared : ∀ id, id ∈ p.ids ↔ id ∈ current ∧ id ∈ proposed
  listed : p.ids.Pairwise fun a b => proposed.idxOf a < proposed.idxOf b
  placed : ∀ id n, (id, n) ∈ p.assignments → ∃ k, IsLastPlace proposed id k ∧ n = 10 * k
  apart : p.sortOrders.Nodup
  onGrid : ∀ n ∈ p.sortOrders, 10 ∣ n ∧ 0 ≤ n ∧ n < 10 * current.length

section

variable {current proposed : List α} {id : α}

/-- The ids of a plan are those that are numbered, without those that are not known. -/
theorem ids_reconcile (h : (reconcile current proposed).accepted = true) :
    (reconcile current proposed).ids =
      ((numbered proposed).map (·.1)).filter current.contains := by
  rw [reconcile_of_taken h, List.filter_map]
  rfl

theorem mem_ids_reconcile (h : (reconcile current proposed).accepted = true) :
    id ∈ (reconcile current proposed).ids ↔ id ∈ current ∧ id ∈ proposed := by
  rw [ids_reconcile h, List.mem_filter, mem_map_fst_numbered, List.contains_iff_mem, and_comm]

theorem placed_reconcile {n : Int} (h : (reconcile current proposed).accepted = true)
    (mem : (id, n) ∈ (reconcile current proposed).assignments) :
    ∃ k, IsLastPlace proposed id k ∧ n = 10 * k := by
  rw [reconcile_of_taken h] at mem
  obtain ⟨k, last, number⟩ := mem_numbered.1 (List.mem_of_mem_filter mem)
  exact ⟨k, last, number.trans (Int.mul_comm _ _)⟩

theorem takes_reconcile (h : (reconcile current proposed).accepted = true) :
    (reconcile current proposed).Takes current proposed where
  order := by rw [reconcile_of_taken h]
  shared _ := mem_ids_reconcile h
  listed := by
    rw [ids_reconcile h]
    exact (pairwise_map_fst_numbered proposed).filter _
  placed _ _ := placed_reconcile h
  apart := by
    refine Plan.nodup_sortOrders ?_ fun _ _ => placed_reconcile h
    rw [ids_reconcile h]
    exact (nodup_map_fst_numbered proposed).filter _
  onGrid n hn := by
    obtain ⟨e, mem, rfl⟩ := List.mem_map.1 hn
    obtain ⟨k, last, number⟩ := placed_reconcile h mem
    obtain ⟨inside, -⟩ := List.getElem?_eq_some_iff.1 last.named
    have length : proposed.length = current.length :=
      ((reconcile_accepted current proposed).1 h).2
    rw [number]
    exact ⟨Int.dvd_mul_right 10 k, by omega, by omega⟩

/-! ## Permutations -/

/-- A proposal is a permutation of a current order without repetitions just if it is taken and
leaves no id without a sort order: as many ids as there are then have room for each only once. -/
theorem perm_iff_all_assigned (nodup : current.Nodup) :
    proposed.Perm current ↔
      ((reconcile current proposed).accepted = true ∨ current = [] ∧ proposed = []) ∧
        ∀ id ∈ current, id ∈ (reconcile current proposed).ids := by
  constructor
  · intro perm
    by_cases hc : current = []
    · subst hc
      exact ⟨.inr ⟨rfl, perm.eq_nil⟩, List.forall_mem_nil _⟩
    · have taken : (reconcile current proposed).accepted = true :=
        (reconcile_accepted current proposed).2 ⟨hc, perm.length_eq⟩
      exact ⟨.inl taken, fun id hid => (mem_ids_reconcile taken).2 ⟨hid, perm.mem_iff.2 hid⟩⟩
  · rintro ⟨taken | ⟨rfl, rfl⟩, assigned⟩
    · have named : current ⊆ proposed := fun id hid =>
        ((mem_ids_reconcile taken).1 (assigned id hid)).2
      have length : proposed.length = current.length :=
        ((reconcile_accepted current proposed).1 taken).2
      exact ((nodup.subperm named).perm_of_length_le (Nat.le_of_eq length)).symm
    · exact .refl []

end

/-- A proposal is taken if there is a current order and the two are equally long. A plan that does
not take it hands the current order back and assigns nothing; one that does assigns sort orders by
last places to the ids of both. Where the current order has no repetitions, the permutations of it
are the proposals that are taken and leave no id out. -/
theorem plan_numbers_shared_ids_by_last_place (current proposed : List α) :
    let p := reconcile current proposed
    (p.accepted = true ↔ current ≠ [] ∧ proposed.length = current.length) ∧
    (p.accepted = false → p.order = current ∧ p.assignments = []) ∧
    (p.accepted = true → p.Takes current proposed) ∧
    (current.Nodup →
      (proposed.Perm current ↔
        (p.accepted = true ∨ current = [] ∧ proposed = []) ∧ ∀ id ∈ current, id ∈ p.ids)) := by
  intro p
  refine ⟨reconcile_accepted current proposed, fun stale => ?_, takes_reconcile,
    perm_iff_all_assigned⟩
  have same : p = ⟨current, [], false⟩ := reconcile_of_stale stale
  rw [same]
  exact ⟨rfl, rfl⟩

/-- An id that is named twice is listed where it is named first, with the number of its last place;
an id that is not known and one that is not named are left out. -/
theorem twice_named_id_has_its_last_place :
    let current := ["a", "b", "c", "d"]
    let proposed := ["c", "x", "a", "c"]
    let p := reconcile current proposed
    p.assignments = [("c", 30), ("a", 20)] ∧ p.Takes current proposed ∧
      ¬proposed.Perm current := by
  intro current proposed p
  obtain ⟨-, -, takes, permutations⟩ := plan_numbers_shared_ids_by_last_place current proposed
  refine ⟨by decide, takes (by decide), fun perm => ?_⟩
  have assigned : "b" ∈ p.ids := ((permutations (by decide)).1 perm).2 "b" (by decide)
  exact absurd assigned (by decide)

end BoardViews
