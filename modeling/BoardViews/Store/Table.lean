/-
  Tables: rows with pairwise different keys. Every operation keeps the keys apart, so that a key
  finds at most one row. All tables are in one file, which bounds how many rows they can have.
-/

namespace BoardViews

/-- Rows with pairwise different keys, in the order in which they were added. -/
structure Table {α κ : Type} (key : α → κ) where
  rows : List α
  nodup : (rows.map key).Nodup

namespace Table

variable {α κ : Type} {key : α → κ}

/-- The most rows of a table: a file of tables has at most 2^48 bytes, and no row takes none. -/
def capacity : Nat := 281474976710656

/-- A table without rows. -/
def empty : Table key := ⟨[], List.nodup_nil⟩

instance : Inhabited (Table key) := ⟨empty⟩

/-- The row with a key. -/
def find? [DecidableEq κ] (t : Table key) (k : κ) : Option α :=
  t.rows.find? fun r => key r = k

/-- Adds a row, unless its key is taken. -/
def insert? [DecidableEq κ] (t : Table key) (r : α) : Option (Table key) :=
  if h : key r ∈ t.rows.map key then none
  else
    some ⟨t.rows ++ [r], by
      rw [List.map_append, List.nodup_append]
      refine ⟨t.nodup, by simp, ?_⟩
      intro a ha b hb
      simp only [List.map_cons, List.map_nil, List.mem_singleton] at hb
      subst hb
      intro e
      exact h (e ▸ ha)⟩

/-- Changes rows, each within its key. -/
def mapRows (t : Table key) (f : α → α) (h : ∀ r, key (f r) = key r) : Table key :=
  ⟨t.rows.map f, by
    have : (t.rows.map f).map key = t.rows.map key := by simp [h]
    rw [this]
    exact t.nodup⟩

/-- The rows that pass a test. -/
def filterRows (t : Table key) (p : α → Bool) : Table key :=
  ⟨t.rows.filter p, t.nodup.sublist (List.filter_sublist.map key)⟩

/-- Rows added one after the other; of rows with the same key the first one stays. -/
def ofList [DecidableEq κ] (rs : List α) : Table key :=
  rs.foldl (fun t r => (t.insert? r).getD t) empty

@[ext] theorem ext {t u : Table key} (h : t.rows = u.rows) : t = u := by
  cases t; cases u; cases h; rfl

theorem insert?_eq_none_iff [DecidableEq κ] (t : Table key) (r : α) :
    t.insert? r = none ↔ ∃ q ∈ t.rows, key q = key r := by
  unfold insert?
  split
  · next h => simpa using h
  · next h => simpa using h

theorem insert?_rows [DecidableEq κ] {t u : Table key} {r : α} (h : t.insert? r = some u) :
    u.rows = t.rows ++ [r] := by
  unfold insert? at h
  split at h
  · simp at h
  · cases h; rfl

@[simp] theorem mapRows_rows (t : Table key) (f : α → α) (h : ∀ r, key (f r) = key r) :
    (t.mapRows f h).rows = t.rows.map f := rfl

theorem find?_key [DecidableEq κ] {t : Table key} {k : κ} {r : α} (h : t.find? k = some r) :
    key r = k := by
  simpa using List.find?_some h

theorem find?_mem [DecidableEq κ] {t : Table key} {k : κ} {r : α} (h : t.find? k = some r) :
    r ∈ t.rows :=
  List.mem_of_find?_eq_some h

end Table

end BoardViews
