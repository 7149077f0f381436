import Mathlib.Data.List.Forall2

/-
  Results of checks. A chain of checks comes to a value just if each of them does, and the same is
  true of a check of every item of a list.
-/

namespace BoardViews

variable {ε ε' α β : Type}

theorem bind_eq_ok_iff {x : Except ε α} {next : α → Except ε β} {b : β} :
    x >>= next = .ok b ↔ ∃ a, x = .ok a ∧ next a = .ok b := by
  cases x with
  | ok a => simp [bind, Except.bind]
  | error why => simp [bind, Except.bind]

theorem exists_of_map_eq_ok {x : Except ε α} {f : α → β} {b : β} (h : x.map f = .ok b) :
    ∃ a, x = .ok a ∧ f a = b := by
  cases x with
  | ok a =>
    cases h
    exact ⟨a, rfl, rfl⟩
  | error e => cases h

theorem ok_of_mapError {f : ε → ε'} {a : α} {x : Except ε α} (h : x.mapError f = .ok a) :
    x = .ok a := by
  cases x with
  | ok b =>
    cases h
    rfl
  | error e => cases h

theorem mapM_eq_ok_iff {f : α → Except ε β} {xs : List α} {ys : List β} :
    xs.mapM f = .ok ys ↔ List.Forall₂ (fun a b => f a = .ok b) xs ys := by
  induction xs generalizing ys with
  | nil =>
    rw [List.forall₂_nil_left_iff]
    exact ⟨fun h => (Except.ok.inj h).symm, fun h => congrArg Except.ok h.symm⟩
  | cons a xs ih =>
    rw [List.mapM_cons, List.forall₂_cons_left_iff]
    constructor
    · intro h
      obtain ⟨b, first, more⟩ := bind_eq_ok_iff.1 h
      obtain ⟨bs, rest, last⟩ := bind_eq_ok_iff.1 more
      exact ⟨b, bs, first, ih.1 rest, (Except.ok.inj last).symm⟩
    · rintro ⟨b, bs, first, rest, rfl⟩
      rw [first, ih.2 rest]
      rfl

end BoardViews
