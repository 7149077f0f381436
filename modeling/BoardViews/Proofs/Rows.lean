import BoardViews.Store.Write
import Mathlib.Data.List.Nodup

/-
  Rows under keys, and the rows of one board. A table has at most one row of a key, so a row that is
  found by its key is any row that has it. `Store.rowsOn` are the categories of a board, deleted or
  not, and `Store.liveRows` are those that are not: what is shown of a board is read from them, and
  a write that keeps rows on their boards acts on the rows of each board for itself.
-/

namespace BoardViews

namespace Table

variable {α κ : Type} {key : α → κ} {t u : Table key} {k : κ} {q r : α}

/-- Two rows of a table with the same key are one row. -/
theorem eq_of_key (hq : q ∈ t.rows) (hr : r ∈ t.rows) (h : key q = key r) : q = r :=
  List.inj_on_of_nodup_map t.nodup hq hr h

theorem find?_eq_some_iff [DecidableEq κ] : t.find? k = some r ↔ r ∈ t.rows ∧ key r = k := by
  constructor
  · intro h
    exact ⟨find?_mem h, find?_key h⟩
  · rintro ⟨hr, rfl⟩
    cases h : t.find? (key r) with
    | none =>
      unfold find? at h
      rw [List.find?_eq_none] at h
      exact absurd (decide_eq_true rfl) (h r hr)
    | some q => exact congrArg some (eq_of_key (find?_mem h) hr (find?_key h))

/-- A row that was added had a key that no row had. -/
theorem key_ne_of_insert? [DecidableEq κ] (h : t.insert? r = some u) (hq : q ∈ t.rows) :
    key q ≠ key r := by
  intro e
  have hn := (t.insert?_eq_none_iff r).2 ⟨q, hq, e⟩
  rw [hn] at h
  cases h

theorem length_insert? [DecidableEq κ] (h : t.insert? r = some u) :
    u.rows.length = t.rows.length + 1 := by
  rw [insert?_rows h, List.length_append, List.length_singleton]

/-- What is found after a change of rows is what was found before, changed. -/
theorem find?_mapRows [DecidableEq κ] (t : Table key) (f : α → α) (hk : ∀ r, key (f r) = key r)
    (k : κ) : (t.mapRows f hk).find? k = (t.find? k).map f := by
  unfold find?
  have hp : (fun r => decide (key r = k)) ∘ f = fun r => decide (key r = k) := by
    funext r
    simp only [Function.comp, hk]
  rw [mapRows_rows, List.find?_map, hp]

/-- A row that was added is found under its key, and nothing else is found in another place. -/
theorem find?_insert? [DecidableEq κ] (h : t.insert? r = some u) (k : κ) :
    u.find? k = if key r = k then some r else t.find? k := by
  split
  · next hk =>
    rw [find?_eq_some_iff, insert?_rows h]
    exact ⟨List.mem_append_right _ (List.mem_singleton.2 rfl), hk⟩
  · next hk =>
    unfold find?
    rw [insert?_rows h, List.find?_append]
    simp [hk]

/-- Changing every row into itself changes nothing. -/
theorem mapRows_eq_self {f : α → α} (hk : ∀ r, key (f r) = key r) (h : ∀ r ∈ t.rows, f r = r) :
    t.mapRows f hk = t := by
  apply Table.ext
  rw [mapRows_rows]
  exact (List.map_congr_left h).trans (List.map_id' _)

/-- A change that leaves what another one made as it is does nothing after it. -/
theorem mapRows_again {f g : α → α} (hf : ∀ r, key (f r) = key r) (hg : ∀ r, key (g r) = key r)
    (h : ∀ r ∈ t.rows, g (f r) = f r) : (t.mapRows f hf).mapRows g hg = t.mapRows f hf := by
  refine mapRows_eq_self hg fun q hq => ?_
  obtain ⟨r, hr, rfl⟩ := List.mem_map.1 hq
  exact h r hr

/-- The rows of a key are the one that is found under it, if there is one. -/
theorem filter_key [DecidableEq κ] (t : Table key) (k : κ) :
    (t.rows.filter fun r => key r = k) = (t.find? k).toList := by
  cases h : t.find? k with
  | none =>
    rw [Option.toList_none, List.filter_eq_nil_iff]
    exact List.find?_eq_none.1 h
  | some q =>
    have nodup : (t.rows.filter fun r => key r = k).Nodup := (t.nodup.of_map key).filter _
    refine List.perm_singleton.1 ((List.perm_ext_iff_of_nodup nodup (List.nodup_singleton q)).2 ?_)
    intro r
    rw [List.mem_filter, decide_eq_true_eq, ← find?_eq_some_iff, h, List.mem_singleton,
      Option.some.injEq, eq_comm]

end Table

namespace Store

variable {s : Store} {b : String}

/-- The categories of a board, deleted or not. -/
def rowsOn (s : Store) (b : String) : List Category :=
  s.categories.rows.filter fun c => c.boardId == b

/-- The categories of a board that are not deleted. -/
def liveRows (s : Store) (b : String) : List Category := (s.rowsOn b).filter Category.isLive

theorem mem_rowsOn {c : Category} : c ∈ s.rowsOn b ↔ c ∈ s.categories.rows ∧ c.boardId = b := by
  simp [rowsOn]

theorem mem_liveRows {c : Category} :
    c ∈ s.liveRows b ↔ c ∈ s.categories.rows ∧ c.boardId = b ∧ c.isLive := by
  rw [liveRows, List.mem_filter, mem_rowsOn, and_assoc]

/-- The ids of the categories of a board differ pairwise. -/
theorem rowsOn_ids_nodup (s : Store) (b : String) : ((s.rowsOn b).map (·.id)).Nodup :=
  s.categories.nodup.sublist (List.filter_sublist.map _)

theorem liveRows_ids_nodup (s : Store) (b : String) : ((s.liveRows b).map Category.id).Nodup :=
  (s.rowsOn_ids_nodup b).sublist (List.filter_sublist.map _)

theorem filter_map_of {α β : Type} {f : α → β} {p : β → Bool} {q : α → Bool} {l : List α}
    (h : ∀ x ∈ l, p (f x) = q x) : (l.map f).filter p = (l.filter q).map f := by
  rw [List.filter_map]
  congr 1
  exact List.filter_congr h

/-- A change of rows that keeps them on their boards acts on the rows of each board. -/
theorem rowsOn_of_map {s' : Store} {f : Category → Category}
    (h : s'.categories.rows = s.categories.rows.map f)
    (hf : ∀ r ∈ s.categories.rows, (f r).boardId = r.boardId) (b : String) :
    s'.rowsOn b = (s.rowsOn b).map f := by
  unfold rowsOn
  rw [h]
  refine filter_map_of fun r hr => ?_
  rw [hf r hr]

/-- One that keeps rows deleted or not acts on those that are not for itself. -/
theorem liveRows_of_map {s' : Store} {f : Category → Category}
    (h : s'.categories.rows = s.categories.rows.map f)
    (hf : ∀ r ∈ s.categories.rows, (f r).boardId = r.boardId)
    (hl : ∀ r ∈ s.rowsOn b, (f r).isLive = r.isLive) : s'.liveRows b = (s.liveRows b).map f := by
  unfold liveRows
  rw [rowsOn_of_map h hf]
  exact filter_map_of hl

/-- Of these changes, one that leaves the rows of a board as they are is not seen there. -/
theorem rowsOn_of_map_self {s' : Store} {f : Category → Category}
    (h : s'.categories.rows = s.categories.rows.map f)
    (hf : ∀ r ∈ s.categories.rows, (f r).boardId = r.boardId)
    (hb : ∀ r ∈ s.rowsOn b, f r = r) : s'.rowsOn b = s.rowsOn b := by
  rw [rowsOn_of_map h hf]
  exact (List.map_congr_left hb).trans (List.map_id' _)

end Store

end BoardViews
